import ClusterFabric.Verify.AgentRuns

/-! # Connecting again

What `connect` comes to on every path: it returns at once on a connection that was
registered, it completes a HELLO and a REGISTER, or it records a failure. Over any
sequence of calls, with any peer, a connection whose failure was recorded is reported as
connected exactly when the socket and the registration were left standing
(`connect_clean_iff`).
-/

namespace ClusterFabric

open Lib
open Txn

/-! ## The outcomes of `connect` -/

/-- A part of `connect` returns false when it returns early, and a failure is recorded. -/
def Call.FailsClosed {π α : Type} (x : Call π Bool α) : Prop :=
  ∀ {s s' : RackAgent × π} {returned : Bool}, x s = (.error returned, s') →
    returned = false ∧ s'.1.status.transport ≠ .ok

section FailsClosed

open Call (FailsClosed)

variable {π α β : Type} {transport : Transport π} {x : Call π Bool α}

theorem failsClosed_pure (a : α) : FailsClosed (pure a : Call π Bool α) :=
  fun h => nomatch congrArg Prod.fst h

theorem failsClosed_agent : FailsClosed (Call.agent : Call π Bool RackAgent) :=
  fun h => nomatch congrArg Prod.fst h

theorem failsClosed_update (f : RackAgent → RackAgent) :
    FailsClosed (Call.update f : Call π Bool Unit) :=
  fun h => nomatch congrArg Prod.fst h

theorem failsClosed_giveUp (failure : TransportFailure) :
    FailsClosed (Call.giveUp failure fun _ => false : Call π Bool α) := by
  intro s s' returned h
  obtain rfl := Except.error.inj (congrArg Prod.fst h)
  obtain rfl := congrArg Prod.snd h
  exact ⟨rfl, failure.transport_ne_ok⟩

theorem failsClosed_bind {f : α → Call π Bool β} (hx : FailsClosed x)
    (hf : ∀ a, FailsClosed (f a)) : FailsClosed (x >>= f) := by
  intro s s' returned h
  rcases hcase : x s with ⟨early | a, s₁⟩
  · rw [bind_error hcase] at h
    cases h
    exact hx hcase
  · rw [bind_ok hcase] at h
    exact hf a h

theorem failsClosed_ite {c : Prop} [Decidable c] {y : Call π Bool α} (hx : FailsClosed x)
    (hy : FailsClosed y) : FailsClosed (if c then x else y) := by
  split_ifs
  · exact hx
  · exact hy

theorem failsClosed_expect (expected : MessageType) (message : Option α) (reply : Reply) :
    FailsClosed (Call.expect expected message reply fun _ _ => false : Call π Bool α) := by
  unfold Call.expect
  split
  · exact failsClosed_pure _
  · exact failsClosed_giveUp _

theorem failsClosed_ask (message : Incoming) :
    FailsClosed (Call.ask transport message fun _ _ => false) := by
  rintro ⟨agent, peer⟩ s' returned h
  rcases hexchange : transport.exchange peer message with ⟨peer', failure | reply⟩ <;>
    simp only [Call.ask, run_bind, run_get, hexchange] at h <;> split_ifs at h
  · exact failsClosed_giveUp _ h
  · exact failsClosed_giveUp _ h
  · exact failsClosed_giveUp _ h
  · cases reply with
    | error error => exact failsClosed_giveUp _ h
    | _ => cases congrArg Prod.fst h

theorem failsClosed_handshake : FailsClosed (RackAgent.handshake transport) := by
  refine failsClosed_bind failsClosed_agent fun agent => ?_
  refine failsClosed_bind (failsClosed_ask _) fun reply => ?_
  refine failsClosed_bind (failsClosed_expect _ _ _) fun ack => ?_
  refine failsClosed_ite (failsClosed_giveUp _) ?_
  refine failsClosed_ite (failsClosed_giveUp _) ?_
  exact failsClosed_ite (failsClosed_giveUp _) (failsClosed_update _)

theorem failsClosed_register (sentAt : Timestamp) :
    FailsClosed (RackAgent.register transport sentAt) := by
  refine failsClosed_bind failsClosed_agent fun agent => ?_
  refine failsClosed_bind (failsClosed_update _) fun _ => ?_
  refine failsClosed_bind failsClosed_agent fun agent₁ => ?_
  refine failsClosed_bind (failsClosed_ask _) fun reply => ?_
  refine failsClosed_bind (failsClosed_expect _ _ _) fun ack => ?_
  exact failsClosed_ite (failsClosed_giveUp _) (failsClosed_update _)

/-- A completed registration leaves no failure recorded. -/
theorem transport_of_register {sentAt : Timestamp} {s s' : RackAgent × π} {u : Unit}
    (h : Ends (RackAgent.register transport sentAt) s u s') : s'.1.status.transport = .ok := by
  obtain ⟨_, s₁, _, h⟩ := ends_bind.mp h
  obtain ⟨_, s₂, _, h⟩ := ends_bind.mp h
  obtain ⟨_, s₃, _, h⟩ := ends_bind.mp h
  obtain ⟨_, s₄, _, h⟩ := ends_bind.mp h
  obtain ⟨ack, s₅, _, h⟩ := ends_bind.mp h
  split_ifs at h
  · cases congrArg Prod.fst h
  · obtain rfl := ends_modify.mp h
    rfl

/-- What `connect` returns, and leaves of the agent. -/
inductive ConnectCases (agent : RackAgent) (peer : π) : Bool × RackAgent × π → Prop
  | reused (hregistered : agent.registered = true) (hopen : agent.handle = true) :
      ConnectCases agent peer (true, agent, peer)
  | completed {agent' : RackAgent} {peer' : π}
      (hnew : ¬ (agent.registered = true ∧ agent.handle = true))
      (hclean : agent'.status.transport = .ok) : ConnectCases agent peer (true, agent', peer')
  | failed {agent' : RackAgent} {peer' : π} (hrecorded : agent'.status.transport ≠ .ok) :
      ConnectCases agent peer (false, agent', peer')

/-- An agent that is not connected dials, greets and registers. -/
theorem connectBody_new (sentAt : Timestamp) {agent : RackAgent} (peer : π)
    (hrunning : ¬ agent.stopped = true)
    (hnew : ¬ (agent.registered = true ∧ agent.handle = true)) :
    ∃ agent₁, RackAgent.connectBody transport sentAt (agent, peer) =
        (match (transport.dial peer).2 with
        | some failure =>
          (Call.giveUp failure fun _ => false : Call π Bool Unit)
            (agent.reset, (transport.dial peer).1)
        | none =>
          (do
            RackAgent.handshake transport
            RackAgent.register transport sentAt) (agent₁, (transport.dial peer).1)) ∧
      agent₁.config = agent.config ∧ agent₁.boot = agent.boot ∧
      agent₁.publication = agent.publication ∧ agent₁.transportReady = true := by
  refine ⟨{ agent.reset with
    handle := true, status.connected := true, status.state := .handshaking }, ?_, rfl, rfl, rfl,
    by simpa [RackAgent.transportReady, RackAgent.reset] using hrunning⟩
  rw [RackAgent.connectBody, run_agent_bind, if_neg hrunning, if_neg hnew, run_update_bind]
  cases hfailure : (transport.dial peer).2 <;>
    simp only [run_bind, run_get, run_modify, run_update, hfailure]

theorem connect_cases (sentAt : Timestamp) (agent : RackAgent) (peer : π) :
    ConnectCases agent peer (RackAgent.connect transport sentAt (agent, peer)) := by
  rw [RackAgent.connect]
  by_cases hstopped : agent.stopped = true
  · rw [RackAgent.connectBody, run_agent_bind, if_pos hstopped]
    exact .failed (show ProtocolStatus.notRunning ≠ .ok by decide)
  by_cases hreuse : agent.registered = true ∧ agent.handle = true
  · rw [RackAgent.connectBody, run_agent_bind, if_neg hstopped, if_pos hreuse]
    exact .reused hreuse.1 hreuse.2
  obtain ⟨agent₁, hbody, -⟩ := @connectBody_new π transport sentAt agent peer hstopped hreuse
  rw [hbody]
  cases (transport.dial peer).2 with
  | some failure => exact .failed failure.transport_ne_ok
  | none =>
    have hcloses : Call.FailsClosed (do
        RackAgent.handshake transport
        RackAgent.register transport sentAt) :=
      failsClosed_bind failsClosed_handshake fun _ => failsClosed_register sentAt
    rcases hrun : (do
        RackAgent.handshake transport
        RackAgent.register transport sentAt : Call π Bool Unit)
          (agent₁, (transport.dial peer).1) with ⟨returned | _, agent', peer'⟩
    · obtain ⟨rfl, hrecorded⟩ := hcloses hrun
      exact .failed hrecorded
    · obtain ⟨_, s, _, hregister⟩ := ends_bind.mp hrun
      exact .completed hreuse (transport_of_register hregister)

end FailsClosed

/-! ## Calls one after another -/

/-- An agent and its peer, with a note whether a failure was recorded since the most
recent completed HELLO and REGISTER. -/
structure Watched (π : Type) where
  agent : RackAgent
  peer : π
  failed : Bool := false

namespace Watched

variable [StdSort] {π : Type} (transport : Transport π) {w : Watched π}

/-- Whether a call completes a HELLO and a REGISTER: a `connect` that returns true and
did not find the agent registered. -/
def completes (w : Watched π) : AgentCall → Bool
  | .connect sentAt =>
    (RackAgent.connect transport sentAt (w.agent, w.peer)).1 &&
      !(w.agent.registered && w.agent.handle)
  | _ => false

def after (w : Watched π) (call : AgentCall) : Watched π :=
  let (agent, peer) := call.perform transport (w.agent, w.peer)
  { agent := agent
    peer := peer
    failed := (w.failed && !w.completes transport call) || agent.status.transport != .ok }

/-- The state after a sequence of calls of a new agent. -/
def run (config : RackAgentConfig) (boot : RackAgentBootId) (peer : π) (calls : List AgentCall) :
    Watched π :=
  runFrom (after transport) { agent := .make config boot, peer := peer } calls

/-- The note agrees with the status. -/
def Faithful (w : Watched π) : Prop := w.failed = true ↔ w.agent.status.transport ≠ .ok

variable {transport}

omit [StdSort] in
/-- What is recorded stays while nothing connects. -/
theorem callInvariant_recorded :
    CallInvariant transport fun s => s.1.status.transport ≠ .ok where
  alike := by
    intro agent agent' peer halike hrecorded
    rcases halike.transport with hsame | hother
    · exact hsame ▸ hrecorded
    · exact hother
  exchange _ _ hrecorded := hrecorded

omit [StdSort] in
theorem recorded_stop {s : RackAgent × π} (h : s.1.status.transport ≠ .ok) :
    (RackAgent.stop transport s).1.status.transport ≠ .ok := by
  rw [RackAgent.stop]
  by_cases hstopped : s.1.stopped = true
  · rw [if_pos hstopped]
    exact h
  · rw [if_neg hstopped]
    exact show ProtocolStatus.notRunning ≠ .ok by decide

theorem recorded_perform {call : AgentCall} (hcall : ∀ sentAt, call ≠ .connect sentAt)
    {s : RackAgent × π} (h : s.1.status.transport ≠ .ok) :
    (call.perform transport s).1.status.transport ≠ .ok := by
  cases call with
  | connect sentAt => exact absurd rfl (hcall sentAt)
  | stop => exact recorded_stop h
  | publish observedAt => exact callInvariant_recorded.perform (.publish observedAt) h
  | supersede newGeneration observedAt republishedAt =>
    exact callInvariant_recorded.perform (.supersede newGeneration observedAt republishedAt) h
  | revalidate observedAt republishedAt =>
    exact callInvariant_recorded.perform (.revalidate observedAt republishedAt) h
  | heartbeat sentAt => exact callInvariant_recorded.perform (.heartbeat sentAt) h
  | requestSnapshot => exact callInvariant_recorded.perform .requestSnapshot h
  | validateSnapshot view => exact callInvariant_recorded.perform (.validateSnapshot view) h

/-- The note after a call that cannot complete an exchange. -/
theorem failed_after {call : AgentCall} (hcall : ∀ sentAt, call ≠ .connect sentAt) :
    (w.after transport call).failed =
      (w.failed || (w.after transport call).agent.status.transport != .ok) := by
  cases call with
  | connect sentAt => exact absurd rfl (hcall sentAt)
  | _ => simp [after, completes]

/-- The note after a `connect`, by what it came to. -/
theorem connect_after (w : Watched π) (sentAt : Timestamp) :
    (w.agent.registered = true ∧ w.agent.handle = true ∧
        (w.after transport (.connect sentAt)).agent = w.agent ∧
        (w.after transport (.connect sentAt)).peer = w.peer ∧
        (w.after transport (.connect sentAt)).failed =
          (w.failed || w.agent.status.transport != .ok)) ∨
      (¬ (w.agent.registered = true ∧ w.agent.handle = true) ∧
        (w.after transport (.connect sentAt)).agent.status.transport = .ok ∧
        (w.after transport (.connect sentAt)).failed = false) ∨
      ((RackAgent.connect transport sentAt (w.agent, w.peer)).1 = false ∧
        (w.after transport (.connect sentAt)).agent.status.transport ≠ .ok ∧
        (w.after transport (.connect sentAt)).failed = true) := by
  have hcases := @connect_cases π transport sentAt w.agent w.peer
  simp only [after, completes, AgentCall.perform]
  generalize RackAgent.connect transport sentAt (w.agent, w.peer) = out at hcases ⊢
  cases hcases with
  | reused hregistered hopen => simp [hregistered, hopen]
  | completed hnew hclean =>
    have hexchanged : (w.agent.registered && w.agent.handle) = false := by simpa using hnew
    simp [hnew, hclean, hexchanged]
  | failed hrecorded => simp [hrecorded]

theorem faithful_after (h : Faithful w) (call : AgentCall) : Faithful (w.after transport call) := by
  unfold Faithful at h
  by_cases hcall : ∃ sentAt, call = .connect sentAt
  · obtain ⟨sentAt, rfl⟩ := hcall
    rcases @connect_after _ π transport w sentAt with
      ⟨_, _, hagent, _, hnote⟩ | ⟨_, hclean, hnote⟩ | ⟨_, hrecorded, hnote⟩
    · rw [Faithful, hnote, hagent, Bool.or_eq_true, h, bne_iff_ne, or_self]
    · simp [Faithful, hclean, hnote]
    · simp [Faithful, hrecorded, hnote]
  · push Not at hcall
    have hkept : w.agent.status.transport ≠ .ok →
        (w.after transport call).agent.status.transport ≠ .ok :=
      @recorded_perform _ π transport call hcall (w.agent, w.peer)
    rw [Faithful, failed_after hcall, Bool.or_eq_true, h, bne_iff_ne]
    exact ⟨fun hor => hor.elim hkept id, .inr⟩

/-- The note agrees with the status after every sequence of calls. -/
theorem faithful_run (config : RackAgentConfig) (boot : RackAgentBootId) (peer : π)
    (calls : List AgentCall) : Faithful (run transport config boot peer calls) := by
  have hstart : Faithful { agent := RackAgent.make config boot, peer := peer } := by
    simp [Faithful, RackAgent.make]
  exact runFrom_invariant (after transport) (P := Faithful) (fun _ call h => faithful_after h call)
    hstart calls

/-- **`connect` reports a connection without failure** exactly when it did not find the
agent registered on an open socket with a failure recorded: over every sequence of calls,
every transport and every peer. -/
theorem connect_clean_iff (transport : Transport π) (config : RackAgentConfig)
    (boot : RackAgentBootId) (peer : π) (calls : List AgentCall) (sentAt : Timestamp)
    {w : Watched π} (hw : w = run transport config boot peer calls)
    (htrue : (RackAgent.connect transport sentAt (w.agent, w.peer)).1 = true) :
    (w.after transport (.connect sentAt)).failed = false ↔
      ¬ (w.agent.registered = true ∧ w.agent.handle = true ∧ w.failed = true) := by
  have hfaithful : w.failed = true ↔ w.agent.status.transport ≠ .ok :=
    hw ▸ faithful_run config boot peer calls
  rcases @connect_after _ π transport w sentAt with
    ⟨hregistered, hopen, _, _, hnote⟩ | ⟨hnew, _, hnote⟩ | ⟨hfalse, _, _⟩
  · have hsame : (w.failed || w.agent.status.transport != .ok) = w.failed := by
      rw [Bool.eq_iff_iff, Bool.or_eq_true, bne_iff_ne, ← hfaithful, or_self]
    rw [hnote, hsame]
    simp [hregistered, hopen]
  · simp only [hnote, true_iff]
    exact fun hfound => hnew ⟨hfound.1, hfound.2.1⟩
  · rw [htrue] at hfalse
    exact nomatch hfalse

end Watched

/-! ## A connection that is lost -/

/-- A peer that answers from a list: without an answer, it closes the connection. -/
def scripted : Transport (List (Option Reply)) where
  dial answers := (answers, none)
  exchange answers _ :=
    match answers with
    | some answer :: rest => (rest, .ok answer)
    | none :: rest => (rest, .error connectionClosed)
    | [] => ([], .error connectionClosed)

/-- The answers of a peer that accepts an agent. -/
def accepting : List (Option Reply) :=
  [some (.helloAck { accepted := true }), some (.registerAck { accepted := true })]

section Lost

open scoped StdSort

/-- An agent that connected, and made some calls since. The peer closes the connection
under the first of them and would accept the agent again. -/
def connectedOnce (calls : List AgentCall) : Watched (List (Option Reply)) :=
  Watched.run scripted {} (.named "b1") (accepting ++ none :: accepting) (.connect ⟨1⟩ :: calls)

/-- An agent whose peer closed the connection under its `HELLO`. -/
def refusedOnce : Watched (List (Option Reply)) :=
  Watched.run scripted {} (.named "b1") (none :: accepting) [.connect ⟨1⟩]

/-- The agent connects again: the exchange is made and the failure is gone. -/
theorem connect_clean_once :
    refusedOnce.failed = true ∧
      (RackAgent.connect scripted ⟨2⟩ (refusedOnce.agent, refusedOnce.peer)).1 = true ∧
      (refusedOnce.after scripted (.connect ⟨2⟩)).failed = false :=
  ⟨by decide, by decide, (Watched.connect_clean_iff scripted {} (.named "b1") (none :: accepting)
    [.connect ⟨1⟩] ⟨2⟩ rfl (by decide)).mpr (by decide)⟩

/-- The connection is closed under a heartbeat and the agent records the failure. Its next
`connect` returns true: it asks the peer nothing, and the failure stands. -/
theorem connect_after_failure :
    (connectedOnce [.heartbeat ⟨2⟩]).agent.status.transport = .connectionClosed ∧
      (RackAgent.connect scripted ⟨3⟩ ((connectedOnce [.heartbeat ⟨2⟩]).agent,
        (connectedOnce [.heartbeat ⟨2⟩]).peer)).1 = true ∧
      ((connectedOnce [.heartbeat ⟨2⟩]).after scripted (.connect ⟨3⟩)).peer.length =
        accepting.length ∧
      ((connectedOnce [.heartbeat ⟨2⟩]).after scripted (.connect ⟨3⟩)).failed = true := by
  decide

end Lost

end ClusterFabric
