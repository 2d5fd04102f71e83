import BleWsCentral.Found.Removals
import BleWsCentral.Mesh.QueueDropped

/-!
# What a request does to the backlog

The two ways in which a request takes messages out of the backlog, each for every state of the task.

* `State.Drains` — what `try_pull_many` is for. `drains_iff`: the positions are collected before the
  first message is removed, so it does this only for at most one message.
* `State.Whole` — no subscriber is registered whose sender was taken out of its cell. A `pull_msg` that
  was given up breaks this if it finds a message: the sender is used up, the message goes to the end of
  the backlog, and the filter is registered all the same.
* `abandoned_pull_iff` — so such a request leaves the queue as it was if and only if it finds none, and
  as long as none of them does, `expect("Reusing oneshot tx")` never fails.
-/

set_option linter.unusedSectionVars false

namespace BleWsCentral.Mesh

open BleWsCentral.Found

variable {K M : Type} [DecidableEq K] [DenseSlotMap K GenericFilter M]

/-! ## Draining the backlog into a stream -/

namespace State

variable {self : State K M} {w : Channels} {tx : ChanId} {filter : GenericFilter}

/-- As long as the receiver is there, `try_pull_many` removes the messages at its positions one after
the other, and sends them. -/
theorem foldlM_pullAt (halive : w.dropped tx = false) (indexes : List ℕ) :
    indexes.foldlM (pullAt tx) (self, w) =
      match removeEach self.messages indexes with
      | none => .error .removeOutOfBounds
      | some (sent, messages) => .ok ({ self with messages },
          { w with handed := Function.update w.handed tx (w.handed tx ++ sent) }) := by
  induction indexes generalizing self w with
  | nil => simp [pure, Except.pure]
  | cons index indexes ih =>
      rw [List.foldlM_cons, removeEach]
      cases hmsg : self.messages[index]? with
      | none => simp [pullAt, removeMessage, hmsg, bind, Except.bind]
      | some msg =>
          have hturn : pullAt tx (self, w) index =
              .ok ({ self with messages := self.messages.eraseIdx index },
                { w with handed := Function.update w.handed tx (w.handed tx ++ [msg]) }) := by
            simp [pullAt, removeMessage, hmsg, Channels.send_of_alive halive, bind, Except.bind]
          have hrest : indexes.foldlM (pullAt tx)
              ({ self with messages := self.messages.eraseIdx index },
                { w with handed := Function.update w.handed tx (w.handed tx ++ [msg]) }) = _ :=
            ih halive
          rw [hturn]
          simp only [bind, Except.bind, Option.bind, hrest]
          cases removeEach (self.messages.eraseIdx index) indexes with
          | none => rfl
          | some r => simp

/-- `try_pull_many` does not panic, the stream is handed the messages that match, in the order of the
backlog, and the other ones stay there in theirs. -/
def Drains (self : State K M) (w : Channels) (tx : ChanId) (filter : GenericFilter) : Prop :=
  ∃ state channels, self.tryPullMany w tx filter = .ok (state, channels) ∧
    channels.handed = Function.update w.handed tx
      (w.handed tx ++ self.messages.filter filter.isMatch) ∧
    state.messages = self.messages.filter fun msg => !filter.isMatch msg

/-- **Draining the backlog.** With the receiver alive, `try_pull_many` hands the stream exactly the
messages that match and keeps the other ones, if and only if at most one message matches. -/
theorem drains_iff (self : State K M) (w : Channels) (tx : ChanId) (filter : GenericFilter)
    (halive : w.dropped tx = false) :
    self.Drains w tx filter ↔ self.messages.countP filter.isMatch ≤ 1 := by
  have hpull : self.tryPullMany w tx filter = _ :=
    foldlM_pullAt halive (iterFilter filter self.messages)
  rw [iterFilter_eq_findIdxs] at hpull
  constructor
  · rintro ⟨state, channels, hok, hhanded, -⟩
    rw [hpull] at hok
    split at hok
    · cases hok
    · rename_i sent messages heach
      cases hok
      have hsent : sent = self.messages.filter filter.isMatch := by
        have := congrFun hhanded tx
        simpa only [Function.update_self, List.append_cancel_left_eq] using this
      exact removeEach_findIdxs_iff.mp ⟨messages, hsent ▸ heach⟩
  · intro hle
    rw [removeEach_findIdxs_of_le hle] at hpull
    exact ⟨_, _, hpull, rfl, rfl⟩

end State

/-- A message of sensor values of the node `addr`. -/
def sensorMessage (addr : MeshAddr) : GenericMessage :=
  .new ⟨BleWsSensorValues.opcode, []⟩ (.normal addr mainAppIndex) 11

/-- A status of the node `addr`. -/
def statusMessage (addr : MeshAddr) : GenericMessage :=
  .new ⟨ConfigAppKeyStatus.opcode, [0, 0, 0, 0]⟩ (.device addr mainNetIndex) 11

/-- A backlog of which nothing was asked for yet. -/
def backlogOf (messages : List GenericMessage) : State ℕ (DenseVec GenericFilter) :=
  { State.init with messages }

/-- The theorem for one message of sensor values behind a status. -/
theorem drains_iff_one_message :
    (backlogOf [statusMessage 5, sensorMessage 5]).Drains .init 0 sensorFilter :=
  (State.drains_iff _ .init 0 sensorFilter rfl).mpr (by decide)

/-- With two messages of sensor values the second position is off by one: the stream is handed what
lies behind the second message, or the task panics because nothing does. -/
theorem drains_wrong_message :
    (∃ state channels, (backlogOf [sensorMessage 5, sensorMessage 6, statusMessage 5]).tryPullMany
        .init 0 sensorFilter = .ok (state, channels) ∧
      channels.handed 0 = [sensorMessage 5, statusMessage 5] ∧ state.messages = [sensorMessage 6]) ∧
    (backlogOf [sensorMessage 5, sensorMessage 6]).tryPullMany .init 0 sensorFilter =
      .error .removeOutOfBounds ∧
    ¬ (backlogOf [sensorMessage 5, sensorMessage 6]).Drains .init 0 sensorFilter := by
  refine ⟨⟨_, _, rfl, rfl, rfl⟩, rfl, ?_⟩
  rintro ⟨state, channels, hok, -⟩
  have herr : (Except.error Panic.removeOutOfBounds :
      Except Panic (State ℕ (DenseVec GenericFilter) × Channels)) = .ok (state, channels) := hok
  cases herr

/-! ## Requests that were given up -/

namespace State

variable {self state : State K M} {w w' : Channels} {tx : ChanId} {filter : GenericFilter}

/-- No subscriber is registered whose sender was taken out of its cell. -/
def Whole (state : State K M) : Prop := ∀ key, state.subscribers.get key ≠ some (.oneshot none)

theorem whole_init : (State.init : State K M).Whole := by
  simp [Whole, State.init]

/-- Being whole is about the subscribers only. -/
theorem Whole.congr (h : self.Whole) (hs : state.subscribers = self.subscribers) : state.Whole := by
  unfold Whole
  rw [hs]
  exact h

theorem Whole.addSubscriber (h : self.Whole) {sub : Subscriber} (hsub : sub ≠ .oneshot none) :
    (self.addSubscriber filter sub).Whole := by
  intro key hkey
  rw [State.addSubscriber, SecondaryMap.get_insert] at hkey
  split at hkey
  · exact hsub (Option.some.inj hkey)
  · exact h key hkey

theorem Whole.removeSubscriber (h : self.Whole) (key : K) : (self.removeSubscriber key).Whole := by
  intro key' hkey
  rw [State.removeSubscriber, SecondaryMap.get_remove] at hkey
  split at hkey
  · cases hkey
  · exact h key' hkey

/-- A request that was given up and finds no message is registered, and nothing else changes. -/
theorem onSubscription_of_unmatched (h : ∀ m ∈ self.messages, filter.isMatch m = false) :
    self.onSubscription w filter (.oneshot (some tx)) =
      .ok (self.addSubscriber filter (.oneshot (some tx)), w) := by
  simp [onSubscription, tryPullOne_of_unmatched h, bind, Except.bind]

/-- A request that was given up and finds a message moves it to the end of the backlog, and is
registered without a sender. -/
theorem onSubscription_of_dropped (hdropped : w.dropped tx = true) {i : ℕ} {msg : GenericMessage}
    (hi : self.messages.findIdx? filter.isMatch = some i) (hmsg : self.messages[i]? = some msg) :
    self.onSubscription w filter (.oneshot (some tx)) =
      .ok ({ self with messages := self.messages.eraseIdx i ++ [msg] }.addSubscriber filter
        (.oneshot none), w) := by
  simp [onSubscription, tryPullOne_of_first hi hmsg, Channels.send_of_dropped hdropped, bind,
    Except.bind]

/-- Only a subscriber without a sender makes `expect("Reusing oneshot tx")` fail. -/
theorem Whole.onMessage_ne (h : self.Whole) (msg : GenericMessage) :
    self.onMessage w msg ≠ .error .reusingOneshotTx := by
  intro hfail
  rcases onMessage_error hfail with hclosed | ⟨key, -, ⟨-, hmissing⟩ | ⟨hget, -⟩⟩
  · cases hclosed
  · cases hmissing
  · exact h key hget

end State

namespace Queue

variable {q q' : Queue K M}

/-- The receiver of the next request is gone before the task gets to it. -/
def abandoned (q : Queue K M) : Bool := q.channels.dropped q.requests.length

/-- A `pull_msg` that was given up finds no message in the backlog. -/
def Unclaimed (q : Queue K M) : QueueEvent → Prop
  | .pullMsg opcode filter => q.abandoned = true →
      ∀ m ∈ q.state.messages, (filter.withOpcode opcode).isMatch m = false
  | _ => True

/-- Every turn leaves the state whole, if a request that was given up finds no message. -/
theorem whole_step {ev : QueueEvent} (h : q.state.Whole) (hunclaimed : q.Unclaimed ev)
    (hstep : q.step ev = .ok q') : q'.state.Whole := by
  cases step_maps hstep with
  | same _ _ hmaps => exact h.congr hmaps.2
  | registered r sub hr _ hmaps hsub =>
      refine (h.addSubscriber ?_).congr hmaps.2
      rcases hsub with rfl | ⟨-, hkind, hdropped, m, hm, hmatch⟩
      · unfold RequestKind.subscriber
        split <;> simp
      · cases ev with
        | pushMsg => cases hr
        | pullMsg opcode filter =>
            cases hr
            rw [hunclaimed hdropped m hm] at hmatch
            cases hmatch
        | subscribe filter =>
            cases hr
            cases hkind
        | dropReceiver => cases hr
  | removed _ _ _ key _ _ _ _ _ hmaps => exact (h.removeSubscriber key).congr hmaps.2

/-- As long as the state is whole, `expect("Reusing oneshot tx")` does not fail. -/
theorem step_ne (h : q.state.Whole) (ev : QueueEvent) : q.step ev ≠ .error .reusingOneshotTx := by
  intro hfail
  rcases step_error hfail with hrequest | ⟨msg, hon⟩
  · cases hrequest
  · exact h.onMessage_ne msg hon

end Queue

/-- **Requests that were given up.** Take any run, from any state that is whole, in which no `pull_msg`
that was given up finds a message. Then `expect("Reusing oneshot tx")` fails nowhere, and a further
`pull_msg` that was given up leaves the backlog as it was and the state whole if and only if it finds no
message either. If it does find one, its filter stays registered without a sender, and the task panics
as soon as a message is routed to it. -/
theorem abandoned_pull_iff {q₀ q : Queue K M} (h₀ : q₀.state.Whole) {evs : List QueueEvent}
    (hrun : Run (Guarded (Fallible Queue.step) Queue.Unclaimed) q₀ evs q) :
    (∀ ev, q.step ev ≠ .error .reusingOneshotTx) ∧
    ∀ opcode filter, q.abandoned = true →
      ((∃ q', q.step (.pullMsg opcode filter) = .ok q' ∧ q'.state.messages = q.state.messages ∧
          q'.state.Whole) ↔
        ∀ m ∈ q.state.messages, (filter.withOpcode opcode).isMatch m = false) ∧
      ((∃ m ∈ q.state.messages, (filter.withOpcode opcode).isMatch m = true) →
        ∃ q' key, q.step (.pullMsg opcode filter) = .ok q' ∧
          (key, filter.withOpcode opcode) ∈ DenseSlotMap.iter q'.state.filters ∧
          ∀ msg info now, q'.state.matchFilter (.new msg info now) = some key →
            q'.step (.pushMsg msg info now) = .error .reusingOneshotTx) := by
  have hwhole : q.state.Whole := hrun.invariant (I := fun q => q.state.Whole)
    (fun _ _ _ h hstep => Queue.whole_step h hstep.1 hstep.2) h₀
  refine ⟨Queue.step_ne hwhole, fun opcode filter habandoned => ?_⟩
  have hfound : (∃ m ∈ q.state.messages, (filter.withOpcode opcode).isMatch m = true) →
      ∃ q' key, q.step (.pullMsg opcode filter) = .ok q' ∧
        (key, filter.withOpcode opcode) ∈ DenseSlotMap.iter q'.state.filters ∧
        q'.state.subscribers.get key = some (.oneshot none) := by
    rintro ⟨m, hm, hmatch⟩
    obtain ⟨i, hi⟩ := Option.isSome_iff_exists.mp
      ((List.findIdx?_isSome.trans (List.any_eq_true.mpr ⟨m, hm, hmatch⟩)))
    obtain ⟨hlt, -⟩ := List.findIdx?_eq_some_iff_getElem.mp hi
    have hon := State.onSubscription_of_dropped habandoned hi (List.getElem?_eq_getElem hlt)
    have hstep : q.step (.pullMsg opcode filter) = .ok { q with
        state := { q.state with messages := q.state.messages.eraseIdx i ++ [q.state.messages[i]] }.addSubscriber
          (filter.withOpcode opcode) (.oneshot none)
        requests := q.requests ++ [⟨.oneshot, filter.withOpcode opcode⟩] } := by
      simp only [Queue.step, Queue.request, hon, bind, Except.bind]
    exact ⟨_, _, hstep, State.mem_filters_addSubscriber.mpr (.inl rfl), State.get_addSubscriber_self⟩
  refine ⟨⟨?_, fun hnone => ?_⟩, fun hclaimed => ?_⟩
  · rintro ⟨q', hstep, -, hwhole'⟩ m hm
    by_contra hmatch
    obtain ⟨q'', key, hstep', -, hsub⟩ := hfound ⟨m, hm, by simpa using hmatch⟩
    obtain rfl : q' = q'' := Except.ok.inj (hstep.symm.trans hstep')
    exact hwhole' key hsub
  · have hstep : q.step (.pullMsg opcode filter) = .ok { q with
        state := q.state.addSubscriber (filter.withOpcode opcode) (.oneshot (some q.requests.length))
        requests := q.requests ++ [⟨.oneshot, filter.withOpcode opcode⟩] } := by
      simp only [Queue.step, Queue.request, State.onSubscription_of_unmatched hnone, bind, Except.bind]
    have hunclaimed : q.Unclaimed (.pullMsg opcode filter) := fun _ => hnone
    exact ⟨_, hstep, rfl, Queue.whole_step hwhole hunclaimed hstep⟩
  · obtain ⟨q', key, hstep, hmem, hsub⟩ := hfound hclaimed
    refine ⟨q', key, hstep, hmem, fun msg info now hkey => ?_⟩
    simp [Queue.step, State.onMessage, State.routeMessage, hkey, hsub, bind, Except.bind]

/-- The theorem for a request that was given up while another node's status lies in the backlog. -/
theorem abandoned_pull_iff_unclaimed :
    ∃ q q' : Queue ℕ (DenseVec GenericFilter),
      Run (Fallible Queue.step) Queue.init
        [.pushMsg (statusMessage 6).content (.device 6 mainNetIndex) 11, .dropReceiver 0] q ∧
      q.step (.pullMsg ConfigAppKeyStatus.opcode (nodeFilter 5)) = .ok q' ∧
      q'.state.messages = q.state.messages ∧ q'.state.Whole := by
  have hrun : ∃ q : Queue ℕ (DenseVec GenericFilter),
      Run (Guarded (Fallible Queue.step) Queue.Unclaimed) Queue.init
        [.pushMsg (statusMessage 6).content (.device 6 mainNetIndex) 11, .dropReceiver 0] q ∧
      q.abandoned = true ∧ ∀ m ∈ q.state.messages,
        ((nodeFilter 5).withOpcode ConfigAppKeyStatus.opcode).isMatch m = false :=
    ⟨_, .cons ⟨trivial, rfl⟩ <| .cons ⟨trivial, rfl⟩ <| .nil _, rfl, by decide⟩
  obtain ⟨q, hrun, habandoned, hnone⟩ := hrun
  obtain ⟨q', hstep, hmessages, hwhole⟩ := ((abandoned_pull_iff State.whole_init hrun).2
    ConfigAppKeyStatus.opcode (nodeFilter 5) habandoned).1.mpr hnone
  exact ⟨q, q', hrun.of_guarded, hstep, hmessages, hwhole⟩

/-- A request that was given up finds the first of two statuses: they change places, and the next status
of the node brings the task down. -/
theorem abandoned_pull_reorders :
    ∃ q q' : Queue ℕ (DenseVec GenericFilter),
      Run (Fallible Queue.step) Queue.init
        [.pushMsg (statusMessage 5).content (.device 5 mainNetIndex) 11,
          .pushMsg (statusMessage 6).content (.device 6 mainNetIndex) 11, .dropReceiver 0] q ∧
      q.step (.pullMsg ConfigAppKeyStatus.opcode (nodeFilter 5)) = .ok q' ∧
      q.state.messages = [statusMessage 5, statusMessage 6] ∧
      q'.state.messages = [statusMessage 6, statusMessage 5] ∧
      q'.step (.pushMsg (statusMessage 5).content (.device 5 mainNetIndex) 12) =
        .error .reusingOneshotTx :=
  ⟨_, _, .cons rfl <| .cons rfl <| .cons rfl <| .nil _, rfl, rfl, rfl, rfl⟩

end BleWsCentral.Mesh
