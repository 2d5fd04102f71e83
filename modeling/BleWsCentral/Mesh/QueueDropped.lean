import BleWsCentral.Mesh.QueueTurns

/-!
# Subscribers that went away

What the queue does with a message when receiving ends were dropped behind its back, at any time and
in any order: between two requests, or before the request of a caller was even looked at.

* `State.Paired` — every registered filter has a subscriber. `paired_run`: it holds in every run.
* `Queue.alive q key` — somebody still listens to the subscriber registered under `key`.
* `Queue.Delivers q m` — what pushing `m` should do: a matching subscriber that is alive gets it, and
  if there is none it is kept.
* `Queue.FirstAlive q m` — the first filter that matches `m`, in the order of the slot map, is that of
  a subscriber that is alive. `delivers_iff_firstAlive`: this is exactly when the queue does so, since
  it looks at that filter only.
-/

set_option linter.unusedSectionVars false

namespace BleWsCentral.Mesh

open BleWsCentral.Found

variable {K M : Type} [DecidableEq K] [DenseSlotMap K GenericFilter M]

/-! ## Filters and subscribers -/

/-- Every registered filter has a subscriber, which is what `expect("Inconsistent state")` is about. -/
def State.Paired (state : State K M) : Prop :=
  ∀ e ∈ DenseSlotMap.iter state.filters, ∃ sub, state.subscribers.get e.1 = some sub

/-- In every run every registered filter has a subscriber. -/
theorem paired_run {evs : List QueueEvent} {q : Queue K M}
    (hrun : Run (Fallible Queue.step) Queue.init evs q) : q.state.Paired := by
  intro e he
  exact (sameKeys_run hrun e.1).mp ⟨e.2, he⟩

/-! ## What happens to a message -/

/-- The channel of a subscriber; a oneshot whose cell is empty has none any more. -/
def Subscriber.chan : Subscriber → Option ChanId
  | .oneshot tx => tx
  | .stream tx => some tx

/-- What is left of the state after the subscriber of `key` got a message. -/
def State.afterSend (state : State K M) (key : K) : Subscriber → State K M
  | .oneshot _ => state.removeSubscriber key
  | .stream _ => state

section OnMessage

variable {state : State K M} {w : Channels} {msg : GenericMessage} {key : K} {sub : Subscriber}

/-- A message nobody asked for is kept. -/
theorem State.onMessage_of_unmatched (h : state.matchFilter msg = none) :
    state.onMessage w msg = .ok ({ state with messages := state.messages ++ [msg] }, w) := by
  simp [onMessage, routeMessage, h, bind, Except.bind]

/-- A message for a subscriber with a channel that is open is handed to it. -/
theorem State.onMessage_of_alive (h : state.matchFilter msg = some key)
    (hsub : state.subscribers.get key = some sub) {c : ChanId} (hc : sub.chan = some c)
    (halive : w.dropped c = false) :
    state.onMessage w msg = .ok (state.afterSend key sub,
      { w with handed := Function.update w.handed c (w.handed c ++ [msg]) }) := by
  cases sub with
  | oneshot tx =>
      obtain rfl : tx = some c := hc
      simp [onMessage, routeMessage, h, hsub, Channels.send_of_alive halive, afterSend, bind,
        Except.bind]
  | stream tx =>
      obtain rfl : tx = c := Option.some.inj hc
      simp [onMessage, routeMessage, h, hsub, Channels.send_of_alive halive, afterSend, bind,
        Except.bind]

/-- A message for a subscriber whose channel is gone brings the task down. -/
theorem State.onMessage_of_dead (h : state.matchFilter msg = some key)
    (hsub : state.subscribers.get key = some sub)
    (hdead : ∀ c, sub.chan = some c → w.dropped c = true) :
    ∃ e, state.onMessage w msg = .error e := by
  cases sub with
  | oneshot tx =>
      cases tx with
      | none =>
          exact ⟨.reusingOneshotTx, by
            simp [onMessage, routeMessage, h, hsub, bind, Except.bind]⟩
      | some c =>
          exact ⟨.closedTx, by
            simp [onMessage, routeMessage, h, hsub, Channels.send_of_dropped (hdead c rfl), bind,
              Except.bind]⟩
  | stream c =>
      exact ⟨.closedTx, by
        simp [onMessage, routeMessage, h, hsub, Channels.send_of_dropped (hdead c rfl), bind,
          Except.bind]⟩

end OnMessage

/-! ## When a message is delivered -/

/-- Whether somebody still listens to the subscriber registered under `key`. -/
def Queue.alive (q : Queue K M) (key : K) : Bool :=
  match (q.state.subscribers.get key).bind Subscriber.chan with
  | some c => !q.channels.dropped c
  | none => false

theorem Queue.alive_iff {q : Queue K M} {key : K} :
    q.alive key = true ↔ ∃ sub c, q.state.subscribers.get key = some sub ∧ sub.chan = some c ∧
      q.channels.dropped c = false := by
  unfold alive
  cases hsub : q.state.subscribers.get key with
  | none => simp
  | some sub => cases hc : sub.chan <;> simp [hc]

/-- What pushing `m` should do: the task does not panic, a matching subscriber that is alive is handed
`m` if there is one, and `m` is kept otherwise. -/
def Queue.Delivers (q : Queue K M) (m : GenericMessage) : Prop :=
  ∃ state channels, q.state.onMessage q.channels m = .ok (state, channels) ∧
    ((∃ e ∈ DenseSlotMap.iter q.state.filters, e.2.isMatch m = true ∧ q.alive e.1 = true) →
      ∃ e ∈ DenseSlotMap.iter q.state.filters, e.2.isMatch m = true ∧ q.alive e.1 = true ∧
        ∃ sub c, q.state.subscribers.get e.1 = some sub ∧ sub.chan = some c ∧
          channels.handed = Function.update q.channels.handed c (q.channels.handed c ++ [m]) ∧
          state.messages = q.state.messages) ∧
    ((∀ e ∈ DenseSlotMap.iter q.state.filters, e.2.isMatch m = true → q.alive e.1 = false) →
      state.messages = q.state.messages ++ [m] ∧ channels.handed = q.channels.handed)

/-- The first registered filter that matches `m`, if there is one, is that of a subscriber that is
alive. -/
def Queue.FirstAlive (q : Queue K M) (m : GenericMessage) : Prop :=
  ∀ e, (DenseSlotMap.iter q.state.filters).find? (fun e => e.2.isMatch m) = some e →
    q.alive e.1 = true

/-- **Delivery past subscribers that went away.** In every state a run reaches, whatever receiving
ends were dropped on the way, the queue does with a message what it should if and only if the first
filter that matches it is that of a subscriber that is alive. -/
theorem delivers_iff_firstAlive {evs : List QueueEvent} {q : Queue K M}
    (hrun : Run (Fallible Queue.step) Queue.init evs q) (msg : Message) (info : MessageMeta)
    (now : Timestamp) : q.Delivers (.new msg info now) ↔ q.FirstAlive (.new msg info now) := by
  generalize GenericMessage.new msg info now = m
  have hpaired := paired_run hrun
  rcases hfind : (DenseSlotMap.iter q.state.filters).find? (fun e => e.2.isMatch m) with _ | e
  · have hnone : ∀ e ∈ DenseSlotMap.iter q.state.filters, e.2.isMatch m = false := by
      simpa using hfind
    have hmatch : q.state.matchFilter m = none := State.matchFilter_eq_none.mpr hnone
    refine iff_of_true ⟨_, _, State.onMessage_of_unmatched hmatch, ?_, fun _ => ⟨rfl, rfl⟩⟩ ?_
    · rintro ⟨e, he, hf, -⟩
      rw [hnone e he] at hf
      cases hf
    · intro e he
      rw [hfind] at he
      cases he
  · have hmatch : q.state.matchFilter m = some e.1 := by simp [State.matchFilter, hfind]
    have hmem := List.mem_of_find?_eq_some hfind
    have hf : e.2.isMatch m = true := by simpa using List.find?_some hfind
    obtain ⟨sub, hsub⟩ := hpaired e hmem
    have hfirst : q.FirstAlive m ↔ q.alive e.1 = true := by
      simp only [Queue.FirstAlive, hfind, Option.some.injEq, forall_eq']
    rw [hfirst]
    by_cases halive : q.alive e.1 = true
    · obtain ⟨sub', c, hsub', hc, hopen⟩ := Queue.alive_iff.mp halive
      refine iff_of_true ⟨_, _, State.onMessage_of_alive hmatch hsub' hc hopen, fun _ => ?_,
        fun hdead => ?_⟩ halive
      · refine ⟨e, hmem, hf, halive, sub', c, hsub', hc, rfl, ?_⟩
        cases sub' <;> rfl
      · rw [hdead e hmem hf] at halive
        cases halive
    · refine iff_of_false ?_ halive
      rintro ⟨state, channels, hstep, -⟩
      obtain ⟨err, herr⟩ := State.onMessage_of_dead (w := q.channels) hmatch hsub fun c hc => by
        simpa using fun hopen => halive (Queue.alive_iff.mpr ⟨sub, c, hsub, hc, hopen⟩)
      rw [herr] at hstep
      cases hstep

/-- The theorem after the mesh loop was started again, for a sensor value. -/
theorem delivers_iff_firstAlive_restarted :
    ∃ q : Queue ℕ (DenseVec GenericFilter),
      Run (Fallible Queue.step) Queue.init
        [.subscribe sensorFilter, .dropReceiver 0, .subscribe sensorFilter] q ∧
      (q.Delivers (.new ⟨BleWsSensorValues.opcode, []⟩ (.normal 6 mainAppIndex) 11) ↔
        q.FirstAlive (.new ⟨BleWsSensorValues.opcode, []⟩ (.normal 6 mainAppIndex) 11)) :=
  have hrun := .cons rfl <| .cons rfl <| .cons rfl <| .nil _
  ⟨_, hrun, delivers_iff_firstAlive hrun _ _ _⟩

/-- When the mesh loop fails and is started again, its old subscription stays registered, and the next
sensor value brings the task down although the new subscriber is alive. -/
theorem restart_not_delivers :
    ∃ (evs : List QueueEvent) (q : Queue ℕ (DenseVec GenericFilter)) (msg : Message) (info : MessageMeta)
      (now : Timestamp), Run (Fallible Queue.step) Queue.init evs q ∧
        q.step (.pushMsg msg info now) = .error .closedTx ∧ ¬ q.Delivers (.new msg info now) := by
  refine ⟨[.subscribe sensorFilter, .dropReceiver 0, .subscribe sensorFilter], _,
    ⟨BleWsSensorValues.opcode, []⟩, .normal 6 mainAppIndex, 11,
    .cons rfl <| .cons rfl <| .cons rfl <| .nil _, rfl, ?_⟩
  rintro ⟨state, channels, hstep, -⟩
  have herr : (Except.error Panic.closedTx : Except Panic (State ℕ (DenseVec GenericFilter) × Channels))
      = .ok (state, channels) := hstep
  cases herr

end BleWsCentral.Mesh
