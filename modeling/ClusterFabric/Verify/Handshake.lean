import ClusterFabric.Verify.Handlers
import ClusterFabric.Verify.Sessions

/-! # Handshakes and the end of a session

What a session does, round by round: the messages that it handles, the request that each
of them submits and the answer. A request is submitted under the identity of the HELLO
that was accepted last (`session_acts_after_handshake`). An Error frame ends the
session, except for the one that answers a message of a type which the coordinator does
not accept: that branch leaves the switch and not the loop (`error_ends_session_iff`).
-/

namespace ClusterFabric

open Lib

variable {incoming : Incoming} {readAt : Timestamp}

/-! ## What a round does -/

/-- What a round of a session does with what it reads. -/
inductive SessionAct
  /-- An Error frame answers bytes that are no frame. -/
  | misframed (error : StructuredError)
  | handled (incoming : Incoming) (submitted : Option MutationRequest) (reply : Option Reply)

namespace SessionAct

/-- The HELLO that the answer accepts. -/
def accepted : SessionAct → Option HelloMessage
  | .handled (.hello message) _ (some (.helloAck ack)) => if ack.accepted then message else none
  | _ => none

/-- The round is answered with an Error frame. -/
def IsError : SessionAct → Prop
  | .misframed _ => True
  | .handled _ _ reply => ∃ error, reply = some (.error error)

/-- The request that the round submits. -/
def submitted : SessionAct → Option MutationRequest
  | .misframed _ => none
  | .handled _ submitted _ => submitted

def IsHandled : SessionAct → Prop
  | .misframed _ => False
  | .handled _ _ _ => True

end SessionAct

/-- The HELLO that was accepted last. -/
def latestAccepted (acts : List SessionAct) : Option HelloMessage :=
  acts.reverse.findSome? SessionAct.accepted

theorem latestAccepted_concat (acts : List SessionAct) (act : SessionAct) :
    latestAccepted (acts ++ [act]) = act.accepted.or (latestAccepted acts) := by
  rw [latestAccepted, latestAccepted, List.reverse_append, List.reverse_singleton,
    List.singleton_append, List.findSome?_cons]
  cases act.accepted <;> rfl

namespace Session

/-- The request that a message asks for. -/
def requested (session : Session) (readAt : Timestamp) : Incoming → Option MutationRequest
  | .registerPublisher (some message) => session.registration message readAt
  | .publishRequest (some request) => some (session.publication request)
  | .revalidateRequest (some message) => some (session.revalidation message readAt)
  | _ => none

/-- The request that a message submits. -/
def submission (session : Session) (readAt : Timestamp) (incoming : Incoming) :
    Option MutationRequest :=
  if session.handshakeDone then session.requested readAt incoming else none

theorem submits_of_submission {session : Session} {request : MutationRequest}
    (h : session.submission readAt incoming = some request) :
    session.handshakeDone = true ∧ Submits session incoming request := by
  unfold submission at h
  split_ifs at h with hdone
  refine ⟨hdone, ?_⟩
  unfold requested at h
  split at h
  · exact .registration h
  · obtain rfl := Option.some.inj h
    exact .publication _
  · obtain rfl := Option.some.inj h
    exact .revalidation _ readAt
  · exact nomatch h

variable [StdSort] {σ : Type} {config : CoordinatorConfig} (ops : PersistenceStore σ)
  (digest : ClusterState → Text)

/-- What a session does with what arrives. One that ended reads nothing, and nothing is
done at the end of the stream. -/
def act (around : Surroundings σ config) (session : Session) (arrival : Arrival) :
    Option SessionAct :=
  if session.ended then none
  else
    match arrival with
    | .closed => none
    | .rejected error => some (.misframed error)
    | .frame frame _ =>
      some (.handled frame.incoming (session.submission around.readAt frame.incoming)
        ((session.round ops digest around arrival).bind Turn.reply))

/-- A message that may be served reaches the coordinator through the request it asks for. -/
theorem coordinator_of_serve {c : Coordinator σ} {session : Session} {queue : CommitQueue}
    {served : Option Timestamp} {turn : Turn σ}
    (h : session.serve ops digest c queue readAt served incoming = some turn) :
    turn.coordinator =
      (session.requested readAt incoming).elim c fun request =>
        (queue.deliver ops c request served).1 := by
  cases incoming with
  | hello message =>
    obtain rfl := Option.some.inj h
    unfold greet
    cases helloRefusal c.config message <;> rfl
  | registerPublisher message =>
    cases message with
    | none =>
      obtain rfl := Option.some.inj h
      rfl
    | some message =>
      obtain ⟨request, hrequest, hturn⟩ := Option.bind_eq_some_iff.mp h
      obtain rfl := Option.some.inj hturn
      rw [requested, hrequest]
      rfl
  | publishRequest request => cases request <;> obtain rfl := Option.some.inj h <;> rfl
  | revalidateRequest message => cases message <;> obtain rfl := Option.some.inj h <;> rfl
  | validateSnapshotRequest view => cases view <;> obtain rfl := Option.some.inj h <;> rfl
  | shutdown reason => cases reason <;> obtain rfl := Option.some.inj h <;> rfl
  | _ =>
    obtain rfl := Option.some.inj h
    rfl

/-- A round reaches the coordinator through the request that it submits, and through nothing
else. -/
theorem coordinator_of_round {around : Surroundings σ config} {session : Session}
    {arrival : Arrival} {turn : Turn σ} (h : session.round ops digest around arrival = some turn) :
    turn.coordinator =
      ((session.act ops digest around arrival).bind SessionAct.submitted).elim around.coordinator
        fun request => (around.queue.deliver ops around.coordinator request around.served).1 := by
  unfold act
  cases arrival with
  | frame frame behind =>
    rw [round, handle] at h
    split_ifs at h ⊢ with hended hgreets
    · obtain rfl := Option.some.inj h
      rfl
    · obtain rfl := Option.some.inj h
      simp_all [SessionAct.submitted, submission]
    · rw [coordinator_of_serve ops digest h]
      cases hdone : session.handshakeDone with
      | true => simp [SessionAct.submitted, submission, hdone]
      | false =>
        -- before the handshake only a HELLO is served
        cases hincoming : frame.incoming with
        | hello message => simp [SessionAct.submitted, submission, hdone, requested]
        | _ => simp [hincoming, hdone, Incoming.isHello] at hgreets
  | _ =>
    obtain rfl := Option.some.inj h
    split_ifs <;> rfl

/-- All that a session does, up to an exception that leaves the thread. -/
def trace (around : Nat → Surroundings σ config) (session : Session) :
    List Arrival → List SessionAct
  | [] => []
  | arrival :: rest =>
    (session.act ops digest (around 0) arrival).toList ++
      (session.round ops digest (around 0) arrival).elim [] fun turn =>
        trace (fun n => around (n + 1)) turn.session rest

section Run

variable {around : Nat → Surroundings σ config} {session : Session}

/-- A session that ended does nothing more. -/
theorem trace_of_ended (hended : session.ended = true) (arrivals : List Arrival) :
    session.trace ops digest around arrivals = [] := by
  induction arrivals generalizing around session with
  | nil => rfl
  | cons arrival rest ih =>
    obtain ⟨turn, hround, hturn, -⟩ := session.round_ended ops digest (around 0) arrival hended
    have hact : session.act ops digest (around 0) arrival = none := if_pos hended
    rw [trace, hround, hact]
    exact ih hturn

theorem trace_closed (rest : List Arrival) :
    session.trace ops digest around (.closed :: rest) = [] := by
  have hact : session.act ops digest (around 0) .closed = none := by
    unfold act
    split_ifs <;> rfl
  have hround : session.round ops digest (around 0) .closed =
    some { coordinator := (around 0).coordinator, session := { session with ended := true } } := rfl
  rw [trace, hact, hround]
  exact trace_of_ended ops digest rfl rest

theorem trace_rejected (hopen : session.ended = false) (error : StructuredError)
    (rest : List Arrival) :
    session.trace ops digest around (.rejected error :: rest) = [.misframed error] := by
  have hact : session.act ops digest (around 0) (.rejected error) = some (.misframed error) := by
    unfold act
    rw [hopen]
    rfl
  obtain ⟨turn, hround, hended⟩ : ∃ turn,
      session.round ops digest (around 0) (.rejected error) = some turn ∧
        turn.session.ended = true := ⟨_, rfl, rfl⟩
  rw [trace, hact, hround]
  exact congrArg (SessionAct.misframed error :: ·) (trace_of_ended ops digest hended rest)

theorem trace_frame (hopen : session.ended = false) (frame : Frame) (behind : Text)
    (rest : List Arrival) :
    session.trace ops digest around (.frame frame behind :: rest) =
      .handled frame.incoming (session.submission (around 0).readAt frame.incoming)
          ((session.round ops digest (around 0) (.frame frame behind)).bind Turn.reply) ::
        (session.round ops digest (around 0) (.frame frame behind)).elim [] fun turn =>
          turn.session.trace ops digest (fun n => around (n + 1)) rest := by
  rw [trace, act, hopen]
  rfl

end Run

/-! ## The handshake -/

/-- What an open session relies on, given what it did: nothing failed framing, and behind
its handshake stands the HELLO that was accepted last. -/
structure Attuned (config : CoordinatorConfig) (past : List SessionAct) (session : Session) :
    Prop where
  framed : ∀ error, .misframed error ∉ past
  greeted : session.handshakeDone = true → ∃ hello, latestAccepted past = some hello ∧
    hello.protocolVersion = protocolVersion ∧ hello.cluster = config.cluster ∧
    session.boot = some hello.boot

/-- After `past`, nothing is submitted once something failed framing, and every request
is under the identity of the HELLO that was accepted last. -/
def Guarded (config : CoordinatorConfig) (past acts : List SessionAct) : Prop :=
  ∀ before incoming request reply after,
    acts = before ++ .handled incoming (some request) reply :: after →
    (∀ error, .misframed error ∉ past ++ before) ∧
    ∃ hello, latestAccepted (past ++ before) = some hello ∧
      hello.protocolVersion = protocolVersion ∧ hello.cluster = config.cluster ∧
      request.authority.boot = some hello.boot

section Handshake

variable {past : List SessionAct}

omit [StdSort] in
theorem refusal_eq_none {message : Option HelloMessage} (h : helloRefusal config message = none) :
    ∃ hello, message = some hello ∧ hello.protocolVersion = protocolVersion ∧
      hello.cluster = config.cluster := by
  cases message with
  | none => exact nomatch h
  | some hello =>
    simp only [helloRefusal] at h
    split_ifs at h with hversion hcluster
    exact ⟨hello, rfl, not_not.mp hversion, not_not.mp hcluster⟩

omit [StdSort] in
theorem accepted_of_not_hello (h : incoming.isHello = false) (submitted : Option MutationRequest)
    (reply : Option Reply) : (SessionAct.handled incoming submitted reply).accepted = none := by
  cases incoming with
  | hello message => exact nomatch h
  | _ => rfl

/-- A message that leaves the session open keeps what the session relies on. -/
theorem Attuned.handle {around : Surroundings σ config} {session : Session} {turn : Turn σ}
    (h : Attuned config past session) (hopen : session.ended = false)
    (hhandle : session.handle ops digest around.coordinator around.queue around.readAt
      around.served incoming = some turn) (hstays : turn.session.ended = false)
    (submitted : Option MutationRequest) :
    Attuned config (past ++ [.handled incoming submitted turn.reply]) turn.session := by
  have hframed : ∀ error, .misframed error ∉ past ++ [.handled incoming submitted turn.reply] := by
    intro error hmem
    rcases List.mem_append.mp hmem with hpast | hact
    · exact h.framed error hpast
    · cases List.mem_singleton.mp hact
  refine ⟨hframed, fun hdone => ?_⟩
  rw [latestAccepted_concat]
  cases hhello : incoming.isHello with
  | false =>
    rw [accepted_of_not_hello hhello, Option.none_or]
    obtain ⟨hboot, hdone'⟩ : turn.session.boot = session.boot ∧
        turn.session.handshakeDone = session.handshakeDone := by
      cases handled_handle ops hhandle with
      | idle _ hboot hdone' => exact ⟨hboot, hdone'⟩
      | greeted hincoming => exact absurd (hincoming ▸ hhello) (by simp [Incoming.isHello])
      | submitted _ _ _ hboot hdone' => exact ⟨hboot, hdone'⟩
    rw [hboot]
    exact h.greeted (hdone'.symm.trans hdone)
  | true =>
    cases incoming with
    | hello message =>
      have hturn : session.greet around.coordinator message = turn := by
        simpa [Session.handle, hopen, Incoming.isHello, serve] using hhandle
      subst hturn
      unfold greet at hstays ⊢
      rw [around.config_eq] at hstays ⊢
      cases hrefusal : helloRefusal config message with
      | some refusal =>
        rw [hrefusal] at hstays
        cases hstays
      | none =>
        obtain ⟨hello, rfl, hversion, hcluster⟩ := refusal_eq_none hrefusal
        have hboot : helloBoot config (some hello) = some hello.boot := by
          rw [helloBoot, hrefusal]
          rfl
        exact ⟨hello, rfl, hversion, hcluster, hboot⟩
    | _ => cases hhello

omit [StdSort] in
theorem guarded_nil : Guarded config past [] := by
  intro before incoming request reply after hsplit
  exact absurd hsplit (by simp)

theorem guarded_trace {around : Nat → Surroundings σ config} {session : Session}
    (h : session.ended = false → Attuned config past session) (arrivals : List Arrival) :
    Guarded config past (session.trace ops digest around arrivals) := by
  induction arrivals generalizing around session past with
  | nil => exact guarded_nil
  | cons arrival rest ih =>
    cases hopen : session.ended with
    | true =>
      rw [trace_of_ended ops digest hopen]
      exact guarded_nil
    | false =>
      have hattuned := h hopen
      cases arrival with
      | closed =>
        rw [trace_closed]
        exact guarded_nil
      | rejected error =>
        rw [trace_rejected ops digest hopen]
        intro before incoming request reply after hsplit
        rcases List.cons_eq_append_iff.mp hsplit with ⟨-, hact⟩ | ⟨before', -, hnil⟩
        · exact nomatch hact
        · exact absurd hnil (by simp)
      | frame frame behind =>
        rw [trace_frame ops digest hopen]
        intro before incoming request reply after hsplit
        rcases List.cons_eq_append_iff.mp hsplit with ⟨rfl, hact⟩ | ⟨before', rfl, htail⟩
        · -- the request is that of this round
          injection hact with hact
          injection hact with hincoming hsubmitted _
          obtain ⟨hdone, hsubmits⟩ := submits_of_submission hsubmitted.symm
          obtain ⟨hello, hlatest, hversion, hcluster, hboot⟩ := hattuned.greeted hdone
          rw [List.append_nil]
          exact ⟨hattuned.framed, hello, hlatest, hversion, hcluster, hsubmits.authority hboot⟩
        · cases hround : session.round ops digest (around 0) (.frame frame behind) with
          | none =>
            rw [hround] at htail
            exact absurd htail (by simp)
          | some turn =>
            rw [hround] at htail
            have hguarded := @ih (past ++ [.handled frame.incoming
              (session.submission (around 0).readAt frame.incoming) turn.reply])
              (fun n => around (n + 1)) turn.session
              (fun hstays => hattuned.handle ops digest hopen hround hstays _)
            have hrest := hguarded before' incoming request reply after htail
            rw [List.append_assoc, List.singleton_append] at hrest
            exact hrest

/-- **A session acts after its handshake only.** Whatever bytes a peer sends and whatever
the coordinator does between its messages, no request is submitted before a HELLO of the
supported version and the configured cluster was accepted, none after bytes that fail
framing, and each is under the identity of the HELLO that was accepted last. A round of any
session leaves the coordinator as the delivery of the request that it is said to submit does,
and as it is without one. -/
theorem session_acts_after_handshake (around : Nat → Surroundings σ config)
    (maxFramePayload : UInt32) (sent : List Text) :
    Guarded config [] (trace ops digest around {}
      (arrivals (sessionMaxPayload maxFramePayload) sent.flatten)) ∧
    ∀ (found : Surroundings σ config) (session : Session) (arrival : Arrival) (turn : Turn σ),
      session.round ops digest found arrival = some turn →
      turn.coordinator =
        ((session.act ops digest found arrival).bind SessionAct.submitted).elim found.coordinator
          fun request => (found.queue.deliver ops found.coordinator request found.served).1 := by
  refine ⟨guarded_trace ops digest (fun _ => ⟨fun error hmem => ?_, fun hdone => ?_⟩) _,
    fun found session arrival turn => coordinator_of_round ops digest⟩
  · exact nomatch hmem
  · exact nomatch hdone

end Handshake

end Session

/-! ## Error frames -/

/-- A message of a type that the coordinator does not accept. -/
def Arrival.Unaccepted : Arrival → Prop
  | .frame received _ => received.incoming = .unaccepted
  | .closed | .rejected _ => False

def Arrival.IsFrame : Arrival → Prop
  | .frame _ _ => True
  | .closed | .rejected _ => False

namespace Session

/-- Once a round is answered with an Error frame, no message is handled. -/
def ErrorEnds (acts : List SessionAct) : Prop :=
  ∀ before act after, acts = before ++ act :: after → act.IsError →
    ∀ later ∈ after, ¬later.IsHandled

theorem errorEnds_nil : ErrorEnds [] := by
  intro before act after hsplit
  exact absurd hsplit (by simp)

theorem errorEnds_cons {act : SessionAct} {acts : List SessionAct} :
    ErrorEnds (act :: acts) ↔
      (act.IsError → ∀ later ∈ acts, ¬later.IsHandled) ∧ ErrorEnds acts := by
  constructor
  · intro h
    refine ⟨h [] act acts rfl, fun before act' after hsplit => ?_⟩
    exact h (act :: before) act' after (hsplit ▸ rfl)
  · rintro ⟨hfirst, hrest⟩ before act' after hsplit
    rcases List.cons_eq_append_iff.mp hsplit with ⟨rfl, hcons⟩ | ⟨before', rfl, htail⟩
    · obtain ⟨rfl, rfl⟩ := List.cons.inj hcons
      exact hfirst
    · exact hrest before' act' after htail

theorem errorEnds_singleton (act : SessionAct) : ErrorEnds [act] :=
  errorEnds_cons.mpr ⟨fun _ _ hmem => (nomatch hmem), errorEnds_nil⟩

/-- A message of a type that is not accepted arrives with another one behind it, and
nothing before it ends the session or breaks it off. -/
def ReachesUnaccepted (config : CoordinatorConfig) (arrivals : List Arrival) : Prop :=
  ∃ before odd next rest, arrivals = before ++ odd :: next :: rest ∧
    (∀ arrival ∈ before, ¬arrival.Ends config ∧ ¬arrival.Bare) ∧ odd.Unaccepted ∧ next.IsFrame

theorem reachesUnaccepted_cons {config : CoordinatorConfig} {arrival : Arrival}
    {rest : List Arrival} :
    ReachesUnaccepted config (arrival :: rest) ↔
      (arrival.Unaccepted ∧ ∃ next rest', rest = next :: rest' ∧ next.IsFrame) ∨
        (¬arrival.Ends config ∧ ¬arrival.Bare) ∧ ReachesUnaccepted config rest := by
  constructor
  · rintro ⟨before, odd, next, after, hsplit, hbefore, hodd, hnext⟩
    cases before with
    | nil =>
      obtain ⟨rfl, rfl⟩ := List.cons.inj hsplit
      exact .inl ⟨hodd, next, after, rfl, hnext⟩
    | cons first before =>
      obtain ⟨rfl, rfl⟩ := List.cons.inj hsplit
      rw [List.forall_mem_cons] at hbefore
      exact .inr ⟨hbefore.1, before, odd, next, after, rfl, hbefore.2, hodd, hnext⟩
  · rintro (⟨hodd, next, after, rfl, hnext⟩ |
      ⟨hgoes, before, odd, next, after, rfl, hbefore, hodd, hnext⟩)
    · exact ⟨[], arrival, next, after, rfl, fun _ h => (nomatch h), hodd, hnext⟩
    · exact ⟨arrival :: before, odd, next, after, rfl, List.forall_mem_cons.mpr ⟨hgoes, hbefore⟩,
        hodd, hnext⟩

variable [StdSort] {σ : Type} {config : CoordinatorConfig} (ops : PersistenceStore σ)
  (digest : ClusterState → Text)

/-- After the handshake the messages of unaccepted types are those that are answered with an
Error frame. -/
theorem error_of_serve_iff {c : Coordinator σ} {session : Session} {queue : CommitQueue}
    {served : Option Timestamp} {turn : Turn σ}
    (h : session.serve ops digest c queue readAt served incoming = some turn) :
    (∃ error, turn.reply = some (.error error)) ↔ incoming = .unaccepted := by
  cases incoming with
  | hello message =>
    obtain rfl := Option.some.inj h
    unfold greet
    cases helloRefusal c.config message <;> simp
  | registerPublisher message =>
    cases message with
    | none =>
      obtain rfl := Option.some.inj h
      simp
    | some message =>
      obtain ⟨request, -, hturn⟩ := Option.bind_eq_some_iff.mp h
      obtain rfl := Option.some.inj hturn
      simp
  | publishRequest request => cases request <;> obtain rfl := Option.some.inj h <;> simp
  | revalidateRequest message => cases message <;> obtain rfl := Option.some.inj h <;> simp
  | validateSnapshotRequest view => cases view <;> obtain rfl := Option.some.inj h <;> simp
  | shutdown reason => cases reason <;> obtain rfl := Option.some.inj h <;> simp
  | heartbeat message =>
    obtain rfl := Option.some.inj h
    simp
  | snapshotRequest cluster =>
    obtain rfl := Option.some.inj h
    simp
  | unaccepted =>
    obtain rfl := Option.some.inj h
    exact iff_of_true ⟨_, rfl⟩ rfl

section Errors

variable {around : Nat → Surroundings σ config} {session : Session}

/-- The first thing that an open session reads is handled if it is a frame, and otherwise
nothing is. -/
theorem exists_handled_iff (hopen : session.ended = false) (arrivals : List Arrival) :
    (∃ later ∈ session.trace ops digest around arrivals, later.IsHandled) ↔
      ∃ next rest, arrivals = next :: rest ∧ next.IsFrame := by
  cases arrivals with
  | nil => simp [trace]
  | cons arrival rest =>
    cases arrival with
    | closed => simp [trace_closed, Arrival.IsFrame]
    | rejected error =>
      simp [trace_rejected ops digest hopen, Arrival.IsFrame, SessionAct.IsHandled]
    | frame frame behind =>
      rw [trace_frame ops digest hopen]
      exact iff_of_true ⟨_, List.mem_cons_self, trivial⟩ ⟨_, _, rfl, trivial⟩

omit [StdSort] in
/-- What ends a session or breaks it off is not of an unaccepted type. -/
theorem not_reachesUnaccepted {arrival : Arrival} (h : arrival.Ends config ∨ arrival.Bare)
    (rest : List Arrival) : ¬ReachesUnaccepted config (arrival :: rest) := by
  rw [reachesUnaccepted_cons]
  rintro (⟨hodd, -⟩ | ⟨⟨hends, hbare⟩, -⟩)
  · cases arrival with
    | frame frame behind =>
      have hincoming : frame.incoming = .unaccepted := hodd
      rcases h with hends | ⟨message, hmessage, -⟩
      · rw [Arrival.Ends, hincoming] at hends
        exact hends
      · exact nomatch hincoming.symm.trans hmessage
    | _ => exact hodd
  · exact h.elim hends hbare

/-- After the handshake Error frames end the session as long as every message is of a type
that is accepted. -/
theorem errorEnds_iff_of_open (hopen : session.ended = false)
    (hshake : session.handshakeDone = true) (arrivals : List Arrival) :
    ErrorEnds (session.trace ops digest around arrivals) ↔ ¬ReachesUnaccepted config arrivals := by
  induction arrivals generalizing around session with
  | nil =>
    refine iff_of_true errorEnds_nil ?_
    rintro ⟨before, odd, next, rest, hsplit, -⟩
    exact absurd hsplit (by simp)
  | cons arrival rest ih =>
    cases arrival with
    | closed =>
      have hends : Arrival.closed.Ends config := trivial
      rw [trace_closed]
      exact iff_of_true errorEnds_nil (not_reachesUnaccepted (.inl hends) rest)
    | rejected error =>
      have hends : (Arrival.rejected error).Ends config := trivial
      rw [trace_rejected ops digest hopen]
      exact iff_of_true (errorEnds_singleton _) (not_reachesUnaccepted (.inl hends) rest)
    | frame frame behind =>
      obtain ⟨hbroken, hserved⟩ :=
        session.round_serving ops digest (around 0) (.frame frame behind) hopen hshake
      rw [trace_frame ops digest hopen]
      by_cases hbare : (Arrival.frame frame behind).Bare
      · rw [hbroken hbare]
        exact iff_of_true (errorEnds_singleton _) (not_reachesUnaccepted (.inr hbare) rest)
      · obtain ⟨turn, hround, -, hends, hgoes⟩ := hserved hbare
        rw [hround]
        dsimp only [Option.elim]
        by_cases hend : (Arrival.frame frame behind).Ends config
        · rw [trace_of_ended ops digest (hends hend)]
          exact iff_of_true (errorEnds_singleton _) (not_reachesUnaccepted (.inl hend) rest)
        · obtain ⟨hopen', hshake'⟩ := hgoes hend
          have hserve := (session.round_frame ops digest (around 0) hopen hshake frame
            behind).symm.trans hround
          have herror := error_of_serve_iff ops digest hserve
          have hlater := @exists_handled_iff _ _ _ ops digest
            (fun n => around (n + 1)) _ hopen' rest
          rw [errorEnds_cons, ih hopen' hshake', reachesUnaccepted_cons, not_or]
          refine and_congr ?_ ?_
          · rw [← hlater, not_and, not_exists]
            exact imp_congr herror (forall_congr' fun later => not_and.symm)
          · rw [not_and, forall_prop_of_true ⟨hend, hbare⟩]

end Errors

/-- The same from the start of a session, whose first message has to be a HELLO. -/
theorem errorEnds_iff (around : Nat → Surroundings σ config) (read : List Arrival) :
    ErrorEnds (trace ops digest around {} read) ↔
      ¬∃ hello rest, read = hello :: rest ∧ hello.Greets config ∧
        ReachesUnaccepted config rest := by
  cases read with
  | nil =>
    refine iff_of_true errorEnds_nil ?_
    rintro ⟨hello, rest, hread, -⟩
    exact nomatch hread
  | cons first read =>
    obtain ⟨turn, hround, -, hgreets, hends⟩ :=
      round_greeting ops digest (around 0) {} first rfl rfl
    rw [trace, hround, Option.elim_some]
    by_cases hgreet : first.Greets config
    · cases first with
      | frame frame behind =>
        obtain ⟨message, hincoming⟩ : ∃ message, frame.incoming = .hello message := by
          cases hincoming : frame.incoming with
          | hello message => exact ⟨message, rfl⟩
          | _ => simp [Arrival.Greets, hincoming, Incoming.Greets] at hgreet
        -- the answer to a HELLO is no Error frame
        have hserve : serve ops digest (around 0).coordinator {} (around 0).queue (around 0).readAt
            (around 0).served frame.incoming = some turn := by
          rw [← hround, round, hincoming]
          rfl
        have hanswer := (error_of_serve_iff ops digest hserve).not.mpr (by simp [hincoming])
        have hact : ({} : Session).act ops digest (around 0) (.frame frame behind) =
            some (.handled frame.incoming (({} : Session).submission (around 0).readAt
              frame.incoming) turn.reply) := by
          rw [act, hround]
          rfl
        rw [hact, Option.toList_some, List.singleton_append, errorEnds_cons,
          errorEnds_iff_of_open ops digest (hgreets hgreet).1 (hgreets hgreet).2]
        constructor
        · rintro ⟨-, hnot⟩ ⟨hello, rest, hread, -, hreach⟩
          exact hnot ((List.cons.inj hread).2 ▸ hreach)
        · intro hnot
          exact ⟨fun herror => absurd herror hanswer,
            fun hreach => hnot ⟨_, read, rfl, hgreet, hreach⟩⟩
      | _ => exact absurd hgreet id
    · rw [trace_of_ended ops digest (hends hgreet), List.append_nil]
      refine iff_of_true ?_ ?_
      · cases ({} : Session).act ops digest (around 0) first with
        | none => exact errorEnds_nil
        | some act => exact errorEnds_singleton act
      · rintro ⟨hello, rest, hread, hhello, -⟩
        exact hgreet ((List.cons.inj hread).1 ▸ hhello)

/-- **An Error frame ends the session**, whatever bytes a peer sends and whatever the
coordinator does between its messages, exactly when no message of a type that is not
accepted is read after an accepted HELLO with another message behind it. -/
theorem error_ends_session_iff (around : Nat → Surroundings σ config) (maxFramePayload : UInt32)
    (sent : List Text) :
    ErrorEnds (trace ops digest around {}
        (arrivals (sessionMaxPayload maxFramePayload) sent.flatten)) ↔
      ¬∃ hello rest, arrivals (sessionMaxPayload maxFramePayload) sent.flatten = hello :: rest ∧
        hello.Greets config ∧ ReachesUnaccepted config rest :=
  errorEnds_iff ops digest around _

end Session

/-! ## A session that goes on -/

section Example

open scoped StdSort

/-- A frame of a type that only the coordinator sends. -/
def ackFrame : Text := encodeFrame MessageType.helloAck.code 2 [] 0 maxFramePayloadBytes

def revalidateFrame : Text := MessageKind.sent .revalidateRequest 3 { cluster := .named "alpha" }

/-- The three frames are read. -/
theorem received_oddSession :
    receiveFrame maxFramePayloadBytes [helloFrame, ackFrame, revalidateFrame].flatten =
        .frame (MessageKind.received .hello 1 alphaHello) [ackFrame, revalidateFrame].flatten ∧
      receiveFrame maxFramePayloadBytes [ackFrame, revalidateFrame].flatten =
        .frame (frameOf MessageType.helloAck.code 2 0 []) revalidateFrame ∧
      receiveFrame maxFramePayloadBytes revalidateFrame =
        .frame (MessageKind.received .revalidateRequest 3 { cluster := .named "alpha" }) [] := by
  decide +kernel

/-- The message behind one of an unaccepted type is handled. -/
theorem error_leaves_session_open :
    ¬Session.ErrorEnds (Session.trace cellStore.ops (fun _ => [])
      (fun _ => idleAlpha) {} (arrivals (sessionMaxPayload maxFramePayloadBytes)
        [helloFrame, ackFrame, revalidateFrame].flatten)) := by
  obtain ⟨hhello, hack, hrevalidate⟩ := received_oddSession
  have hmax : sessionMaxPayload maxFramePayloadBytes = maxFramePayloadBytes := by decide
  rw [hmax, arrivals_of_frame hhello, arrivals_of_frame hack, arrivals_of_frame hrevalidate,
    Session.errorEnds_iff, not_not]
  refine ⟨_, _, rfl, greets_helloFrame _, [], _, _, _, rfl, fun _ hmem => (nomatch hmem), ?_,
    trivial⟩
  rfl

end Example

end ClusterFabric
