import BleWsCentral.Mesh.MessageQueue

/-!
# What a turn of the queue task does

Everything that a turn can do to the two slot maps, and everything that it can panic with. What holds of the maps
in every run is derived from this.

* `State.SameMaps` — the filters and the subscribers stay as they are.
* `Queue.Turned` — a turn leaves both maps alone, or adds a request to both, or removes a oneshot from both.
  `Queue.step_maps`: every turn does one of these.
* `State.SameKeys` — the two maps have the same keys. `sameKeys_run`: they do in every run.
* `Queue.step_error` — a request panics if it cannot take its message out of the backlog and send it, and a
  message if its subscriber is not there or cannot be sent to.
-/

set_option linter.unusedSectionVars false

namespace BleWsCentral.Mesh

open BleWsCentral.Found

variable {K M : Type} [DecidableEq K] [DenseSlotMap K GenericFilter M]

/-! ## The two maps -/

/-- The subscriber a request of `kind` on channel `c` registers. -/
def RequestKind.subscriber : RequestKind → ChanId → Subscriber
  | .oneshot, c => .oneshot (some c)
  | .stream, c => .stream c

/-- The request that an event makes. -/
def QueueEvent.request : QueueEvent → Option Request
  | .pullMsg opcode filter => some ⟨.oneshot, filter.withOpcode opcode⟩
  | .subscribe filter => some ⟨.stream, filter⟩
  | _ => none

namespace State

variable {state state' : State K M} {w w' : Channels} {filter : GenericFilter} {txCell txCell' : Option ChanId}
  {pulled : Bool}

/-- The maps of `state'` are those of `state`. -/
def SameMaps (state state' : State K M) : Prop :=
  state'.filters = state.filters ∧ state'.subscribers = state.subscribers

/-- `try_pull_one` works on the backlog only. -/
theorem tryPullOne_maps (h : state.tryPullOne w txCell filter = .ok (pulled, txCell', state', w')) :
    state.SameMaps state' := by
  unfold tryPullOne at h
  split at h
  · cases h
    exact ⟨rfl, rfl⟩
  · obtain ⟨⟨msg, st⟩, hrm, h⟩ := bind_eq_ok.mp h
    obtain ⟨-, rfl⟩ := removeMessage_eq_ok.mp hrm
    cases txCell with
    | none => cases h
    | some tx =>
        simp only at h
        split at h <;> cases h <;> exact ⟨rfl, rfl⟩

/-- `try_pull_many` works on the backlog only. -/
theorem tryPullMany_maps {tx : ChanId} (h : state.tryPullMany w tx filter = .ok (state', w')) :
    state.SameMaps state' := by
  -- the loop over the positions is a run of `pullAt`
  have hrun := run_fallible_iff.mpr h
  refine hrun.invariant (I := fun p : State K M × Channels => state.SameMaps p.1) ?_ ⟨rfl, rfl⟩
  rintro ⟨st, v⟩ index ⟨st', v'⟩ ⟨hf, hs⟩ hstep
  obtain ⟨⟨msg, st₁⟩, hrm, hstep⟩ := bind_eq_ok.mp hstep
  obtain ⟨-, rfl⟩ := removeMessage_eq_ok.mp hrm
  simp only at hstep
  split at hstep
  · cases hstep
  · cases hstep
    exact ⟨hf, hs⟩

/-- What is left in the cell of the sender is the sender, unless a message was found for a receiver that is
gone. -/
theorem tryPullOne_cell (h : state.tryPullOne w txCell filter = .ok (false, txCell', state', w')) :
    txCell' = txCell ∨ txCell' = none ∧ ∃ tx, txCell = some tx ∧ w.dropped tx = true ∧
      ∃ m ∈ state.messages, filter.isMatch m = true := by
  cases txCell with
  | none =>
      unfold tryPullOne at h
      split at h
      · cases h
        exact .inl rfl
      · obtain ⟨r, -, h⟩ := bind_eq_ok.mp h
        cases h
  | some tx =>
      cases hi : state.messages.findIdx? filter.isMatch with
      | none =>
          rw [tryPullOne_of_unmatched (List.findIdx?_eq_none_iff.mp hi)] at h
          cases h
          exact .inl rfl
      | some i =>
          obtain ⟨hlt, hmatch, -⟩ := List.findIdx?_eq_some_iff_getElem.mp hi
          rw [tryPullOne_of_first hi (List.getElem?_eq_getElem hlt)] at h
          cases hdropped : w.dropped tx with
          | false =>
              rw [Channels.send_of_alive hdropped] at h
              cases h
          | true =>
              rw [Channels.send_of_dropped hdropped] at h
              cases h
              exact .inr ⟨rfl, tx, rfl, hdropped, _, List.getElem_mem hlt, hmatch⟩

/-- A request is registered in both maps, unless it was answered. Its sender is gone then if a message was found
for a receiver that is gone. -/
theorem onSubscription_maps {chan : Subscriber} (h : state.onSubscription w filter chan = .ok (state', w')) :
    state.SameMaps state' ∨
      ∃ sub, (state.addSubscriber filter sub).SameMaps state' ∧
        (sub = chan ∨ sub = .oneshot none ∧ ∃ tx, chan = .oneshot (some tx) ∧ w.dropped tx = true ∧
          ∃ m ∈ state.messages, filter.isMatch m = true) := by
  cases chan with
  | oneshot tx =>
      obtain ⟨⟨pulled, tx', st, w₁⟩, hpull, h⟩ := bind_eq_ok.mp h
      obtain ⟨hf, hs⟩ := tryPullOne_maps hpull
      cases pulled with
      | true =>
          cases h
          exact .inl ⟨hf, hs⟩
      | false =>
          cases h
          refine .inr ⟨.oneshot tx', ⟨?_, ?_⟩, ?_⟩
          · simp only [addSubscriber, hf]
          · simp only [addSubscriber, hf, hs]
          · rcases tryPullOne_cell hpull with rfl | ⟨rfl, tx, rfl, hfound⟩
            · exact .inl rfl
            · exact .inr ⟨rfl, tx, rfl, hfound⟩
  | stream tx =>
      obtain ⟨⟨st, w₁⟩, hpull, h⟩ := bind_eq_ok.mp h
      obtain ⟨hf, hs⟩ := tryPullMany_maps hpull
      cases h
      refine .inr ⟨.stream tx, ⟨?_, ?_⟩, .inl rfl⟩
      · simp only [addSubscriber, hf]
      · simp only [addSubscriber, hf, hs]

/-- A message removes the oneshot it is handed to, and nothing else. -/
theorem onMessage_maps {msg : GenericMessage} (h : state.onMessage w msg = .ok (state', w')) :
    state.SameMaps state' ∨
      ∃ key tx, state.matchFilter msg = some key ∧
        state.subscribers.get key = some (.oneshot (some tx)) ∧
        (state.removeSubscriber key).SameMaps state' := by
  obtain ⟨routed, hroute, h⟩ := bind_eq_ok.mp h
  rcases routeMessage_cases hroute with rfl | ⟨key, tx, w₁, hkey, hget, -, rfl⟩ | ⟨key, tx, -, -, rfl⟩
  · cases h
    exact .inl ⟨rfl, rfl⟩
  · cases h
    exact .inr ⟨key, tx, hkey, hget, rfl, rfl⟩
  · simp only at h
    split at h <;> cases h
    exact .inl ⟨rfl, rfl⟩

end State

namespace Queue

variable {q q' : Queue K M} {ev : QueueEvent}

/-- What a turn does to the two maps. -/
inductive Turned (q q' : Queue K M) (ev : QueueEvent) : Prop
  /-- Both are left alone; a request was answered, if there was one. -/
  | same (l : List Request) (hrequests : q'.requests = q.requests ++ l) (hmaps : q.state.SameMaps q'.state)
  /-- A request is registered in both, without its sender if a message was found for a receiver that is gone. -/
  | registered (r : Request) (sub : Subscriber) (hr : ev.request = some r)
      (hrequests : q'.requests = q.requests ++ [r])
      (hmaps : (q.state.addSubscriber r.filter sub).SameMaps q'.state)
      (hsub : sub = r.kind.subscriber q.requests.length ∨ sub = .oneshot none ∧ r.kind = .oneshot ∧
        q.channels.dropped q.requests.length = true ∧ ∃ m ∈ q.state.messages, r.filter.isMatch m = true)
  /-- The oneshot that a message is for is removed from both. -/
  | removed (msg : Message) (info : MessageMeta) (now : Timestamp) (key : K) (tx : ChanId)
      (hev : ev = .pushMsg msg info now) (hrequests : q'.requests = q.requests)
      (hkey : q.state.matchFilter (.new msg info now) = some key)
      (hget : q.state.subscribers.get key = some (.oneshot (some tx)))
      (hmaps : (q.state.removeSubscriber key).SameMaps q'.state)

/-- A request is answered, or registered. -/
theorem turned_of_request {r : Request} (hr : ev.request = some r)
    (h : q.request r.kind r.filter (r.kind.subscriber q.requests.length) = .ok q') : q.Turned q' ev := by
  obtain ⟨⟨state, w⟩, hon, h⟩ := bind_eq_ok.mp h
  cases h
  rcases State.onSubscription_maps hon with hmaps | ⟨sub, hmaps, rfl | ⟨hsub, tx, htx, hfound⟩⟩
  · exact .same [r] rfl hmaps
  · exact .registered r _ hr rfl hmaps (.inl rfl)
  · obtain ⟨kind, filter⟩ := r
    cases kind with
    | oneshot =>
        cases htx
        exact .registered _ sub hr rfl hmaps (.inr ⟨hsub, rfl, hfound⟩)
    | stream => cases htx

/-- A turn leaves both maps alone, or registers a request in both, or removes a oneshot from both. -/
theorem step_maps (h : q.step ev = .ok q') : q.Turned q' ev := by
  cases ev with
  | pushMsg msg info now =>
      obtain ⟨⟨state, w⟩, hon, hq⟩ := bind_eq_ok.mp h
      cases hq
      rcases State.onMessage_maps hon with hmaps | ⟨key, tx, hkey, hget, hmaps⟩
      · exact .same [] (List.append_nil _).symm hmaps
      · exact .removed msg info now key tx rfl rfl hkey hget hmaps
  | pullMsg opcode filter => exact turned_of_request (r := ⟨.oneshot, filter.withOpcode opcode⟩) rfl h
  | subscribe filter => exact turned_of_request (r := ⟨.stream, filter⟩) rfl h
  | dropReceiver c =>
      cases h
      exact .same [] (List.append_nil _).symm ⟨rfl, rfl⟩

end Queue

/-! ## The keys of the two maps -/

namespace State

variable {state state' : State K M} {filter : GenericFilter} {key : K} {sub : Subscriber}

/-- The key of the next request. -/
def nextKey (state : State K M) (filter : GenericFilter) : K := (DenseSlotMap.insert state.filters filter).1

/-- The subscribers under other keys stay. -/
theorem get_addSubscriber_of_ne (h : key ≠ state.nextKey filter) :
    (state.addSubscriber filter sub).subscribers.get key = state.subscribers.get key := by
  rw [addSubscriber, SecondaryMap.get_insert]
  exact if_neg h

/-- The two maps have the same keys. -/
def SameKeys (state : State K M) : Prop :=
  ∀ key, (∃ filter, (key, filter) ∈ DenseSlotMap.iter state.filters) ↔
    ∃ sub, state.subscribers.get key = some sub

theorem sameKeys_init : (State.init : State K M).SameKeys := by
  simp [SameKeys, State.init]

theorem SameKeys.congr (h : state.SameKeys) (hmaps : state.SameMaps state') : state'.SameKeys := by
  intro key
  rw [hmaps.1, hmaps.2]
  exact h key

theorem SameKeys.addSubscriber (h : state.SameKeys) (filter : GenericFilter) (sub : Subscriber) :
    (state.addSubscriber filter sub).SameKeys := by
  intro key
  by_cases hkey : key = state.nextKey filter
  · subst hkey
    exact iff_of_true ⟨filter, mem_filters_addSubscriber.mpr (.inl rfl)⟩ ⟨sub, get_addSubscriber_self⟩
  · rw [get_addSubscriber_of_ne hkey, ← h key]
    refine exists_congr fun f => mem_filters_addSubscriber.trans (or_iff_right ?_)
    intro heq
    exact hkey (congrArg Prod.fst heq)

theorem SameKeys.removeSubscriber (h : state.SameKeys) (key : K) :
    (state.removeSubscriber key).SameKeys := by
  intro key'
  rw [State.removeSubscriber, SecondaryMap.get_remove]
  by_cases hkey : key' = key
  · simp [hkey]
  · simp only [DenseSlotMap.mem_iter_remove, ne_eq, hkey, not_false_eq_true, and_true, if_false]
    exact h key'

end State

/-- A turn adds a key to both maps, or removes it from both. -/
theorem State.SameKeys.step {q q' : Queue K M} {ev : QueueEvent} (h : q.state.SameKeys)
    (hstep : q.step ev = .ok q') : q'.state.SameKeys := by
  cases Queue.step_maps hstep with
  | same _ _ hmaps => exact h.congr hmaps
  | registered r sub _ _ hmaps => exact (h.addSubscriber r.filter sub).congr hmaps
  | removed _ _ _ key _ _ _ _ _ hmaps => exact (h.removeSubscriber key).congr hmaps

/-- In every run the two maps have the same keys. -/
theorem sameKeys_run {evs : List QueueEvent} {q : Queue K M}
    (hrun : Run (Fallible Queue.step) Queue.init evs q) : q.state.SameKeys :=
  hrun.invariant (I := fun q => q.state.SameKeys) (fun _ _ _ h hstep => h.step hstep) State.sameKeys_init

/-! ## What the task panics with -/

/-- The panics of a request. -/
def Panic.ofRequest : Panic → Bool
  | .emptyTxCell | .removeOutOfBounds | .retryPullMany => true
  | _ => false

section Panics

variable {state : State K M} {w : Channels} {e : Panic}

omit [DecidableEq K] [DenseSlotMap K GenericFilter M] in
theorem State.removeMessage_error {index : ℕ} (h : state.removeMessage index = .error e) :
    e = .removeOutOfBounds := by
  unfold removeMessage at h
  split at h <;> cases h
  rfl

/-- A request panics if its message cannot be taken out of the backlog and sent. -/
theorem State.onSubscription_error {filter : GenericFilter} {chan : Subscriber}
    (h : state.onSubscription w filter chan = .error e) : e.ofRequest = true := by
  cases chan with
  | oneshot tx =>
      rcases bind_eq_error.mp h with hpull | ⟨⟨pulled, r⟩, -, hadd⟩
      · unfold tryPullOne at hpull
        split at hpull
        · cases hpull
        · rcases bind_eq_error.mp hpull with hremove | ⟨r, -, hsend⟩
          · rw [removeMessage_error hremove]
            rfl
          · simp only at hsend
            split at hsend
            · cases hsend
              rfl
            · split at hsend <;> cases hsend
      · cases pulled <;> cases hadd
  | stream tx =>
      rcases bind_eq_error.mp h with hpull | ⟨r, -, hadd⟩
      · refine of_foldlM_eq_error (P := fun e => e.ofRequest = true) (fun s index e hturn => ?_) hpull
        rcases bind_eq_error.mp hturn with hremove | ⟨r, -, hsend⟩
        · rw [removeMessage_error hremove]
          rfl
        · simp only at hsend
          split at hsend <;> cases hsend
          rfl
      · cases hadd

/-- A message panics if the subscriber of its filter is not there, or cannot be sent to. -/
theorem State.onMessage_error {msg : GenericMessage} (h : state.onMessage w msg = .error e) :
    e = .closedTx ∨ ∃ key, state.matchFilter msg = some key ∧
      (state.subscribers.get key = none ∧ e = .inconsistentState ∨
        state.subscribers.get key = some (.oneshot none) ∧ e = .reusingOneshotTx) := by
  rcases bind_eq_error.mp h with hroute | ⟨r, -, hsend⟩
  · unfold routeMessage at hroute
    split at hroute
    · cases hroute
    · rename_i key hkey
      split at hroute
      · rename_i hget
        cases hroute
        exact .inr ⟨key, hkey, .inl ⟨hget, rfl⟩⟩
      · rename_i hget
        cases hroute
        exact .inr ⟨key, hkey, .inr ⟨hget, rfl⟩⟩
      · split at hroute <;> cases hroute
        exact .inl rfl
      · cases hroute
  · cases r with
    | finished => cases hsend
    | sending tx msg =>
        simp only at hsend
        split at hsend <;> cases hsend
        exact .inl rfl

/-- A turn panics with what its branch panics with. -/
theorem Queue.step_error {q : Queue K M} {ev : QueueEvent} (h : q.step ev = .error e) :
    e.ofRequest = true ∨ ∃ msg, q.state.onMessage q.channels msg = .error e := by
  have hrequest : ∀ kind filter chan, q.request kind filter chan = .error e → e.ofRequest = true := by
    intro kind filter chan h
    rcases bind_eq_error.mp h with hon | ⟨r, -, hq⟩
    · exact State.onSubscription_error hon
    · cases hq
  cases ev with
  | pushMsg msg info now =>
      rcases bind_eq_error.mp h with hon | ⟨r, -, hq⟩
      · exact .inr ⟨_, hon⟩
      · cases hq
  | pullMsg opcode filter => exact .inl (hrequest _ _ _ h)
  | subscribe filter => exact .inl (hrequest _ _ _ h)
  | dropReceiver c => cases h

end Panics

end BleWsCentral.Mesh
