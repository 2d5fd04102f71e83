import BleWsCentral.Mesh.QueueTurns

/-!
# Filters and their subscribers

A request that is registered has its filter in one slot map and its subscriber in another one, under one key.

* `State.Holds` — the filter and the subscriber under a key.
* `Owned` — the queue, with the number of the request that every key was made for.
* `Owned.Inv` — the keys of the two maps are the same, and under each of them are the filter and the subscriber of
  its request. `pairs_run`: this is so in every run, so a filter that matches always has a subscriber.
-/

set_option linter.unusedSectionVars false

namespace BleWsCentral.Mesh

open BleWsCentral.Found

variable {K M : Type} [DecidableEq K] [DenseSlotMap K GenericFilter M]

/-! ## Pairs -/

namespace State

variable {state state' : State K M} {filter : GenericFilter} {key key' : K} {sub : Subscriber}

/-- The filter and the subscriber that are registered under a key. -/
def Holds (state : State K M) (key : K) (filter : GenericFilter) (sub : Subscriber) : Prop :=
  (key, filter) ∈ DenseSlotMap.iter state.filters ∧ state.subscribers.get key = some sub

/-- A pair is removed as a whole, and the others stay. -/
theorem holds_removeSubscriber :
    (state.removeSubscriber key).Holds key' filter sub ↔ state.Holds key' filter sub ∧ key' ≠ key := by
  unfold Holds
  rw [mem_filters_removeSubscriber, removeSubscriber, SecondaryMap.get_remove]
  by_cases heq : key' = key
  · simp [heq]
  · simp [heq]

/-- The pairs are those of the maps. -/
theorem SameMaps.holds_iff (h : state.SameMaps state') :
    state'.Holds key filter sub ↔ state.Holds key filter sub := by
  rw [Holds, Holds, h.1, h.2]

/-- The next key is not in use. -/
theorem Holds.ne_nextKey (h : state.Holds key filter sub) (filter' : GenericFilter) :
    key ≠ state.nextKey filter' :=
  DenseSlotMap.ne_of_mem_iter h.1

/-- A pair is added under the next key, and the others stay. -/
theorem holds_addSubscriber {filter' : GenericFilter} {sub' : Subscriber} :
    (state.addSubscriber filter sub).Holds key filter' sub' ↔
      key = state.nextKey filter ∧ filter' = filter ∧ sub' = sub ∨ state.Holds key filter' sub' := by
  unfold Holds
  rw [mem_filters_addSubscriber, Prod.mk.injEq, ← nextKey]
  by_cases hkey : key = state.nextKey filter
  · subst hkey
    have hfresh : ∀ f, (state.nextKey filter, f) ∉ DenseSlotMap.iter state.filters := by
      intro f hf
      exact DenseSlotMap.ne_of_mem_iter hf rfl
    rw [nextKey, get_addSubscriber_self, ← nextKey]
    simp [hfresh, eq_comm]
  · simp [hkey, get_addSubscriber_of_ne hkey]

end State

/-! ## The requests the pairs were made for -/

/-- The subscriber of the `i`-th request; the sender of a oneshot may be gone. -/
def Subscriber.MadeBy (i : ℕ) (kind : RequestKind) : Subscriber → Prop
  | .oneshot tx => kind = .oneshot ∧ ∀ c, tx = some c → c = i
  | .stream tx => kind = .stream ∧ tx = i

theorem Subscriber.madeBy_subscriber (kind : RequestKind) (i : ℕ) : (kind.subscriber i).MadeBy i kind := by
  cases kind with
  | oneshot => exact ⟨rfl, fun c hc => (Option.some.inj hc).symm⟩
  | stream => exact ⟨rfl, rfl⟩

/-- The queue, with the number of the request that a key was handed out for. -/
structure Owned (K M : Type) where
  queue : Queue K M
  owner : K → Option ℕ

namespace Owned

/-- Nothing was handed out. -/
def init : Owned K M where
  queue := .init
  owner _ := none

/-- A request owns the key that it is registered under, if it is. -/
def own (s : Owned K M) (ev : QueueEvent) : K → Option ℕ :=
  match ev.request with
  | some r => Function.update s.owner (s.queue.state.nextKey r.filter) (some s.queue.requests.length)
  | none => s.owner

/-- A turn of the task, with the owners of the keys. -/
def step (s : Owned K M) (ev : QueueEvent) : Except Panic (Owned K M) := do
  let queue ← s.queue.step ev
  .ok { queue, owner := s.own ev }

/-- The owners do not get in the way of the queue. -/
theorem exists_run {q q' : Queue K M} {evs : List QueueEvent} (hrun : Run (Fallible Queue.step) q evs q')
    (owner : K → Option ℕ) : ∃ owner', Run (Fallible step) ⟨q, owner⟩ evs ⟨q', owner'⟩ := by
  induction hrun with
  | nil => exact ⟨owner, .nil _⟩
  | @snoc q₁ q₂ l ev _ hstep ih =>
      obtain ⟨owner₁, hrun₁⟩ := ih
      refine ⟨own ⟨q₁, owner₁⟩ ev, .snoc hrun₁ ?_⟩
      exact bind_eq_ok.mpr ⟨q₂, hstep, rfl⟩

/-- The keys of the two maps are the same, every pair is that of one request, and no two are of the same one. -/
structure Inv (s : Owned K M) : Prop where
  sameKeys : s.queue.state.SameKeys
  owned : ∀ key filter sub, s.queue.state.Holds key filter sub →
    ∃ i kind, s.owner key = some i ∧ s.queue.requests[i]? = some ⟨kind, filter⟩ ∧ sub.MadeBy i kind
  one : ∀ key key' filter filter' sub sub', s.queue.state.Holds key filter sub →
    s.queue.state.Holds key' filter' sub' → s.owner key = s.owner key' → key = key'

variable {s s' : Owned K M} {ev : QueueEvent}

theorem inv_init : (init : Owned K M).Inv where
  sameKeys := State.sameKeys_init
  owned key filter sub h := by
    cases h.2
  one key _ _ _ _ _ h _ _ := by
    cases h.2

/-- The keys that are in use keep their owners. -/
theorem own_of_holds {key : K} {filter : GenericFilter} {sub : Subscriber}
    (h : s.queue.state.Holds key filter sub) : s.own ev key = s.owner key := by
  unfold own
  cases ev.request with
  | none => rfl
  | some r => exact Function.update_of_ne (h.ne_nextKey r.filter) _ _

/-- Nothing happens to the pairs that are there, and no others are added. -/
theorem Inv.of_holds (h : s.Inv) {queue : Queue K M} (hkeys : queue.state.SameKeys)
    (hholds : ∀ key filter sub, queue.state.Holds key filter sub → s.queue.state.Holds key filter sub)
    {l : List Request} (hrequests : queue.requests = s.queue.requests ++ l) :
    (⟨queue, s.own ev⟩ : Owned K M).Inv where
  sameKeys := hkeys
  owned key filter sub hkey := by
    obtain ⟨i, kind, hi, hrequest, hmade⟩ := h.owned key filter sub (hholds _ _ _ hkey)
    refine ⟨i, kind, (own_of_holds (hholds _ _ _ hkey)).trans hi, ?_, hmade⟩
    rw [hrequests, List.getElem?_append_left (List.getElem?_eq_some_iff.mp hrequest).1]
    exact hrequest
  one key key' filter filter' sub sub' hkey hkey' heq := by
    have hbefore := hholds _ _ _ hkey
    have hbefore' := hholds _ _ _ hkey'
    simp only [own_of_holds hbefore, own_of_holds hbefore'] at heq
    exact h.one _ _ _ _ _ _ hbefore hbefore' heq

/-- A request is registered. -/
theorem Inv.register (h : s.Inv) {queue : Queue K M} {r : Request} {sub : Subscriber} (hr : ev.request = some r)
    (hkeys : queue.state.SameKeys)
    (hmaps : (s.queue.state.addSubscriber r.filter sub).SameMaps queue.state)
    (hrequests : queue.requests = s.queue.requests ++ [r])
    (hmade : sub.MadeBy s.queue.requests.length r.kind) : (⟨queue, s.own ev⟩ : Owned K M).Inv := by
  have hholds : ∀ key f sub', queue.state.Holds key f sub' ↔
      key = s.queue.state.nextKey r.filter ∧ f = r.filter ∧ sub' = sub ∨ s.queue.state.Holds key f sub' := by
    intro key f sub'
    rw [hmaps.holds_iff, State.holds_addSubscriber]
  have hnew : s.own ev (s.queue.state.nextKey r.filter) = some s.queue.requests.length := by
    rw [own, hr]
    exact Function.update_self ..
  have hlt : ∀ key f sub', s.queue.state.Holds key f sub' → s.owner key ≠ some s.queue.requests.length := by
    intro key f sub' hkey heq
    obtain ⟨i, _, hi, hrequest, -⟩ := h.owned _ _ _ hkey
    obtain rfl := Option.some.inj (hi.symm.trans heq)
    exact absurd (List.getElem?_eq_some_iff.mp hrequest).1 (Nat.lt_irrefl _)
  refine ⟨hkeys, fun key f sub' hkey => ?_,
    fun key key' f f' sub₁ sub₂ hkey hkey' heq => ?_⟩
  · rcases (hholds _ _ _).mp hkey with ⟨rfl, rfl, rfl⟩ | hbefore
    · exact ⟨_, r.kind, hnew, by rw [hrequests, List.getElem?_concat_length], hmade⟩
    · obtain ⟨i, kind, hi, hrequest, hmade'⟩ := h.owned _ _ _ hbefore
      refine ⟨i, kind, (own_of_holds hbefore).trans hi, ?_, hmade'⟩
      rw [hrequests, List.getElem?_append_left (List.getElem?_eq_some_iff.mp hrequest).1]
      exact hrequest
  · simp only at heq
    rcases (hholds _ _ _).mp hkey with ⟨rfl, -, -⟩ | hbefore <;>
      rcases (hholds _ _ _).mp hkey' with ⟨rfl, -, -⟩ | hbefore'
    · rfl
    · rw [hnew, own_of_holds hbefore'] at heq
      exact absurd heq.symm (hlt _ _ _ hbefore')
    · rw [hnew, own_of_holds hbefore] at heq
      exact absurd heq (hlt _ _ _ hbefore)
    · rw [own_of_holds hbefore, own_of_holds hbefore'] at heq
      exact h.one _ _ _ _ _ _ hbefore hbefore' heq

/-- A turn keeps the pairs: it leaves them alone, or adds or removes one. -/
theorem Inv.step (h : s.Inv) (hstep : s.step ev = .ok s') : s'.Inv := by
  obtain ⟨queue, hqueue, hs'⟩ := bind_eq_ok.mp hstep
  cases hs'
  cases Queue.step_maps hqueue with
  | same l hrequests hmaps =>
      exact h.of_holds (h.sameKeys.step hqueue) (fun _ _ _ hkey => hmaps.holds_iff.mp hkey) hrequests
  | registered r sub hr hrequests hmaps hsub =>
      refine h.register hr (h.sameKeys.step hqueue) hmaps hrequests ?_
      rcases hsub with rfl | ⟨rfl, hkind, -⟩
      · exact Subscriber.madeBy_subscriber _ _
      · exact ⟨hkind, fun c hc => by cases hc⟩
  | removed _ _ _ key _ _ hrequests _ _ hmaps =>
      refine h.of_holds (h.sameKeys.step hqueue) (fun _ _ _ hkey => ?_)
        (hrequests.trans (List.append_nil _).symm)
      exact (State.holds_removeSubscriber.mp (hmaps.holds_iff.mp hkey)).1

/-- In every run the pairs are those of the requests. -/
theorem Inv.run {evs : List QueueEvent} (hrun : Run (Fallible Owned.step) init evs s) : s.Inv :=
  hrun.invariant (I := Inv) (fun _ _ _ h hstep => h.step hstep) inv_init

end Owned

/-! ## In every run -/

/-- Where the keys are the same, `expect("Inconsistent state")` does not fail. -/
theorem State.SameKeys.step_ne {q : Queue K M} (h : q.state.SameKeys) (ev : QueueEvent) :
    q.step ev ≠ .error .inconsistentState := by
  intro hfail
  rcases Queue.step_error hfail with hrequest | ⟨msg, hon⟩
  · cases hrequest
  · rcases State.onMessage_error hon with hclosed | ⟨key, hkey, ⟨hget, -⟩ | ⟨-, hreused⟩⟩
    · cases hclosed
    · obtain ⟨filter, hmem, -⟩ := State.exists_of_matchFilter hkey
      obtain ⟨sub, hsub⟩ := (h key).mp ⟨filter, hmem⟩
      cases hget.symm.trans hsub
    · cases hreused

/-- A turn removes at most the pair of the oneshot that its message is for. -/
theorem holds_step {q q' : Queue K M} {ev : QueueEvent} (hstep : q.step ev = .ok q') {key : K}
    {filter : GenericFilter} {sub : Subscriber} (h : q.state.Holds key filter sub) :
    q'.state.Holds key filter sub ∨ ∃ msg info now tx, ev = .pushMsg msg info now ∧
      q.state.matchFilter (.new msg info now) = some key ∧ sub = .oneshot (some tx) := by
  cases Queue.step_maps hstep with
  | same _ _ hmaps => exact .inl (hmaps.holds_iff.mpr h)
  | registered r sub' _ _ hmaps => exact .inl (hmaps.holds_iff.mpr (State.holds_addSubscriber.mpr (.inr h)))
  | removed msg info now key' tx hev _ hkey' hget hmaps =>
      by_cases heq : key = key'
      · subst heq
        exact .inr ⟨msg, info, now, tx, hev, hkey', Option.some.inj (h.2.symm.trans hget)⟩
      · exact .inl (hmaps.holds_iff.mpr (State.holds_removeSubscriber.mpr ⟨h, heq⟩))

/-- **Pairs.** In every run of the queue task, for any requests and messages and whatever receivers are dropped, the
two maps have the same keys, and under each key are the filter and the subscriber of one request, another one
for each key. So a message whose filter matches always finds a subscriber. Removing a subscriber removes its
pair only, and no turn removes another one than that of the oneshot that gets its message. -/
theorem pairs_run {evs : List QueueEvent} {q : Queue K M}
    (hrun : Run (Fallible Queue.step) Queue.init evs q) :
    (∃ owner, Run (Fallible Owned.step) Owned.init evs ⟨q, owner⟩ ∧ (⟨q, owner⟩ : Owned K M).Inv) ∧
      (∀ ev, q.step ev ≠ .error .inconsistentState) ∧
      (∀ key key' filter sub, (q.state.removeSubscriber key).Holds key' filter sub ↔
        q.state.Holds key' filter sub ∧ key' ≠ key) ∧
      ∀ ev q', q.step ev = .ok q' → ∀ key filter sub, q.state.Holds key filter sub →
        q'.state.Holds key filter sub ∨ ∃ msg info now tx, ev = .pushMsg msg info now ∧
          q.state.matchFilter (.new msg info now) = some key ∧ sub = .oneshot (some tx) := by
  obtain ⟨owner, howned⟩ := Owned.exists_run hrun fun _ => none
  have hinv : (⟨q, owner⟩ : Owned K M).Inv := Owned.Inv.run howned
  exact ⟨⟨owner, howned, hinv⟩, hinv.sameKeys.step_ne, fun _ _ _ _ => State.holds_removeSubscriber,
    fun _ _ hstep _ _ _ h => holds_step hstep h⟩

/-- The theorem for two requests that are registered, the second of which is answered then: its pair is gone, and
the pair of the stream is still there. -/
theorem pairs_run_answered :
    ∃ (q₀ q : Queue ℕ (DenseVec GenericFilter)) (owner : ℕ → Option ℕ) (key key' : ℕ)
      (stream oneshot : ChanId),
      Run (Fallible Queue.step) Queue.init
        [.subscribe sensorFilter, .pullMsg ConfigAppKeyStatus.opcode (nodeFilter 5)] q₀ ∧
      q₀.state.Holds key sensorFilter (.stream stream) ∧
      q₀.state.Holds key' ((nodeFilter 5).withOpcode ConfigAppKeyStatus.opcode) (.oneshot (some oneshot)) ∧
      q₀.step (.pushMsg ⟨ConfigAppKeyStatus.opcode, []⟩ (.device 5 mainNetIndex) 11) = .ok q ∧
      (⟨q, owner⟩ : Owned ℕ (DenseVec GenericFilter)).Inv ∧
      q.state.Holds key sensorFilter (.stream stream) ∧ ∀ filter sub, ¬ q.state.Holds key' filter sub := by
  have hexec : ∃ (q₀ q : Queue ℕ (DenseVec GenericFilter)) (key key' : ℕ) (stream oneshot : ChanId),
      Run (Fallible Queue.step) Queue.init
        [.subscribe sensorFilter, .pullMsg ConfigAppKeyStatus.opcode (nodeFilter 5)] q₀ ∧
      q₀.state.Holds key sensorFilter (.stream stream) ∧
      q₀.state.Holds key' ((nodeFilter 5).withOpcode ConfigAppKeyStatus.opcode) (.oneshot (some oneshot)) ∧
      q₀.step (.pushMsg ⟨ConfigAppKeyStatus.opcode, []⟩ (.device 5 mainNetIndex) 11) = .ok q ∧
      q.state.subscribers.get key' = none :=
    ⟨_, _, 0, 1, 0, 1, .cons rfl <| .cons rfl <| .nil _, ⟨by decide, rfl⟩, ⟨by decide, rfl⟩, rfl, rfl⟩
  obtain ⟨q₀, q, key, key', stream, oneshot, hrun, hstream, honeshot, hstep, hgone⟩ := hexec
  -- the pair of the stream is not that of a oneshot, so the turn leaves it
  have hstays : q.state.Holds key sensorFilter (.stream stream) := by
    rcases (pairs_run hrun).2.2.2 _ _ hstep _ _ _ hstream with hholds | ⟨_, _, _, _, _, _, hsub⟩
    · exact hholds
    · cases hsub
  obtain ⟨owner, _, hinv⟩ := (pairs_run (hrun.snoc hstep)).1
  refine ⟨q₀, q, owner, key, key', stream, oneshot, hrun, hstream, honeshot, hstep, hinv, hstays, ?_⟩
  intro filter sub hholds
  cases hgone.symm.trans hholds.2

end BleWsCentral.Mesh
