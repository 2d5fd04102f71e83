import BleWsCentral.Mesh.Stamps

/-!
# Replies

`pull_msg` sends a request with a filter and the sender of a new oneshot channel, and waits for a message
on that channel. `LoopCtx::run` makes one call after the other, so there is one such request at most on its
way, or registered in the queue task.

* `Waits` — `LoopCtx::run` waits for a message it asked for, which is not there yet.
* `pull_of_loop` — what a step of `LoopCtx::run` does with a call of `pull_msg`.
* `Pulls` — a request that is on its way or registered is the one `LoopCtx::run` waits for, and what it is
  handed then matches the filter. `Pulls.step`: this is so in every run, until `LoopCtx::run` panics.
-/

set_option linter.unusedSectionVars false

namespace BleWsCentral.Mesh

open BleWsCentral.Found

/-- The filter of the `pull_msg` that `LoopCtx::run` is in. -/
def LoopPc.pullFilter : LoopPc → Option GenericFilter
  | .pullingAttach _ => some ((DevFilter.toGeneric {}).withOpcode ConfigModelAppStatus.opcode)
  | .nodeAdded node (.pullingAppKey _) =>
      some ((nodeFilter node.unicastAddr).withOpcode ConfigAppKeyStatus.opcode)
  | .nodeAdded node (.pullingModelApp _) =>
      some ((nodeFilter node.unicastAddr).withOpcode ConfigModelAppStatus.opcode)
  | _ => none

theorem PullSite.pullFilter_pc (site : PullSite) (pull : Pull) :
    (site.pc pull).pullFilter = some (site.filter.withOpcode site.opcode) := by
  cases site <;> rfl

/-- `run` awaits the answer of D-Bus or a message. -/
theorem LoopPc.pull_of_calls {pc : LoopPc} (h : pc.calls = true) : pc.pull = none := by
  unfold LoopPc.calls at h
  split at h
  all_goals first | rfl | cases h

namespace Service

variable {K M : Type} [DecidableEq K] [DenseSlotMap K GenericFilter M] {units : Units}
  {s s' : Service K M} {a : Label}

/-- `LoopCtx::run` waits for the message it asked for with `filter`, and it is not there yet. -/
def Waits (s : Service K M) (filter : GenericFilter) (n : ℕ) : Prop :=
  s.loopCtx.pc.pull = some (.waiting (oneshotId n)) ∧ s.loopCtx.pc.pullFilter = some filter ∧
    s.channels.handed (oneshotId n) = []

/-! ## What `LoopCtx::run` does -/

/-- A step of `LoopCtx::run` is not about `pull_msg`, or it calls it, or sends its request, or goes on with
the message. -/
theorem pull_of_loop (h : s.step units a = some s') (ha : a.party = .loop)
    (halive : s'.loopCtx.pc ≠ .panicked) :
    (s.loopCtx.pc.pull = none ∧ s'.loopCtx.pc.pull = none ∧ s'.loopCtx.pulls = s.loopCtx.pulls ∧
      ∀ filter tx, s'.requests = some (filter, .oneshot tx) → s.requests = some (filter, .oneshot tx)) ∨
    (∃ filter, s.loopCtx.pc.pull = none ∧
      s'.loopCtx.pc.pull = some (.requesting filter (oneshotId s.loopCtx.pulls)) ∧
      s'.loopCtx.pc.pullFilter = some filter ∧ s'.loopCtx.pulls = s.loopCtx.pulls + 1 ∧
      s'.requests = s.requests) ∨
    (∃ filter tx, s.loopCtx.pc.pull = some (.requesting filter tx) ∧
      s'.loopCtx.pc.pull = some (.waiting tx) ∧ s'.loopCtx.pc.pullFilter = s.loopCtx.pc.pullFilter ∧
      s'.loopCtx.pulls = s.loopCtx.pulls ∧ s'.requests = some (filter, .oneshot (some tx))) ∨
    ∃ rx msg, s.loopCtx.pc.pull = some (.waiting rx) ∧ (s.channels.handed rx).head? = some msg ∧
      s'.loopCtx.pc.pull = none ∧ s'.loopCtx.pulls = s.loopCtx.pulls ∧ s'.requests = s.requests := by
  cases loop_cases h ha
  case pulls site hpc =>
    rw [hpc]
    exact .inr (.inl ⟨_, site.pull_before, site.pull_pc _, site.pullFilter_pc _, rfl, rfl⟩)
  case requested site filter tx hpc hrequests =>
    have hfilter := (site.pullFilter_pc (.waiting tx)).trans
      (site.pullFilter_pc (.requesting filter tx)).symm
    rw [hpc]
    exact .inr (.inr (.inl ⟨_, _, site.pull_pc _, site.pull_pc _, hfilter, rfl, rfl⟩))
  case replied site rx msg hpc hmsg hparses =>
    rw [hpc]
    exact .inr (.inr (.inr ⟨_, msg, site.pull_pc _, hmsg, site.pull_next, rfl, rfl⟩))
  case attachPanicked => exact absurd rfl halive
  case requestPanicked => exact absurd rfl halive
  case subscribePanicked => exact absurd rfl halive
  case replyPanicked => exact absurd rfl halive
  case triggerPanicked => exact absurd rfl halive
  -- in the other branches there is no call of `pull_msg`
  all_goals left
  case failed hcalls =>
    exact ⟨LoopPc.pull_of_calls hcalls, rfl, rfl, fun _ _ h => h⟩
  case subscribed hpc _ =>
    rw [hpc]
    exact ⟨rfl, rfl, rfl, fun _ _ h => by cases h⟩
  case polled hpc =>
    rw [hpc]
    exact ⟨rfl, pull_poll _, rfl, fun _ _ h => h⟩
  case triggered hpc _ =>
    rw [hpc]
    exact ⟨rfl, pull_poll _, rfl, fun _ _ h => h⟩
  case attachFailed hpc => exact ⟨by rw [hpc]; rfl, by rw [hpc]; rfl, rfl, fun _ _ h => h⟩
  case known hpc _ _ => exact ⟨by rw [hpc]; rfl, by rw [hpc]; rfl, rfl, fun _ _ h => h⟩
  case nodeNotAdded hpc _ => exact ⟨by rw [hpc]; rfl, by rw [hpc]; rfl, rfl, fun _ _ h => h⟩
  case started hpc => exact ⟨by rw [hpc]; rfl, rfl, rfl, fun _ _ h => h⟩
  case nodeSent hpc => exact ⟨by rw [hpc]; rfl, rfl, rfl, fun _ _ h => h⟩
  case scanned hpc => exact ⟨by rw [hpc]; rfl, rfl, rfl, fun _ _ h => h⟩
  case ticked hpc => exact ⟨by rw [hpc]; rfl, rfl, rfl, fun _ _ h => h⟩
  case discovered hpc _ _ => exact ⟨by rw [hpc]; rfl, rfl, rfl, fun _ _ h => h⟩
  case nodeAdded hpc _ => exact ⟨by rw [hpc]; rfl, rfl, rfl, fun _ _ h => h⟩
  case inserted hpc _ => exact ⟨by rw [hpc]; rfl, rfl, rfl, fun _ _ h => h⟩
  case restarted hpc => exact ⟨by rw [hpc]; rfl, rfl, rfl, fun _ _ h => h⟩

/-- A run that panicked stays so. -/
theorem panicked_of_step (h : s.step units a = some s') (hpc : s.loopCtx.pc = .panicked) :
    s'.loopCtx.pc = .panicked := by
  cases ha : a.party with
  | dbus => rw [frame_dbus h ha, hpc]
  | queue => rw [frame_queue h ha, hpc]
  | loop =>
      cases a <;> cases ha <;>
        simp [step, callOk, callErr, attachPanics, request, reply, tick, trigger, event, insert, restart,
          hpc] at h
  | collection => rw [frame_collection h ha, hpc]
  | update => rw [frame_update h ha, hpc]

/-! ## What is on its way -/

/-- What `LoopCtx::run` asked for is on its way or registered once, and what it is handed matches. -/
structure Pulls (s : Service K M) : Prop where
  requested : ∀ filter tx, s.requests = some (filter, .oneshot tx) →
    (∃ n, tx = some (oneshotId n) ∧ s.Waits filter n) ∧
      ∀ key tx', s.queue.state.subscribers.get key ≠ some (.oneshot tx')
  registered : ∀ key tx, s.queue.state.subscribers.get key = some (.oneshot tx) →
    ∃ filter n, tx = some (oneshotId n) ∧ (key, filter) ∈ DenseSlotMap.iter s.queue.state.filters ∧
      s.Waits filter n
  unique : ∀ key key' tx tx', s.queue.state.subscribers.get key = some (.oneshot tx) →
    s.queue.state.subscribers.get key' = some (.oneshot tx') → key = key'
  matching : ∀ filter rx, s.loopCtx.pc.pull = some (.waiting rx) →
    s.loopCtx.pc.pullFilter = some filter → ∀ msg ∈ s.channels.handed rx, filter.isMatch msg = true
  asking : ∀ filter tx, s.loopCtx.pc.pull = some (.requesting filter tx) →
    s.loopCtx.pc.pullFilter = some filter ∧ s.channels.handed tx = []
  /-- Channels are numbered. -/
  numbered : ∀ pull, s.loopCtx.pc.pull = some pull →
    ∃ n < s.loopCtx.pulls, pull = .waiting (oneshotId n) ∨ ∃ filter, pull = .requesting filter (oneshotId n)
  fresh : ∀ n, s.loopCtx.pulls ≤ n → s.channels.handed (oneshotId n) = []

namespace Pulls

theorem init : (Service.init : Service K M).Pulls where
  requested _ _ h := by cases h
  registered _ _ h := by cases h
  unique _ _ _ _ h := by cases h
  matching _ _ h := by cases h
  asking _ _ h := by cases h
  numbered _ h := by cases h
  fresh _ _ := rfl

/-- If `LoopCtx::run` does not wait for anything that is not there, nothing is on its way. -/
theorem nothing (h : s.Pulls) (hnot : ∀ filter n, ¬ s.Waits filter n) :
    (∀ filter tx, s.requests ≠ some (filter, .oneshot tx)) ∧
      ∀ key tx, s.queue.state.subscribers.get key ≠ some (.oneshot tx) := by
  constructor
  · intro filter tx hrequest
    obtain ⟨⟨n, -, hwaits⟩, -⟩ := h.requested filter tx hrequest
    exact hnot filter n hwaits
  · intro key tx hkey
    obtain ⟨filter, n, -, -, hwaits⟩ := h.registered key tx hkey
    exact hnot filter n hwaits

/-- The steps of the tasks other than the queue task and `LoopCtx::run`. -/
theorem congr (h : s.Pulls) (hrequests : s'.requests = s.requests) (hqueue : s'.queue = s.queue)
    (hloop : s'.loopCtx = s.loopCtx) (hhanded : s'.channels.handed = s.channels.handed) : s'.Pulls := by
  have hwaits : ∀ filter n, s.Waits filter n → s'.Waits filter n := by
    intro filter n hwaits
    unfold Waits
    rw [hloop, hhanded]
    exact hwaits
  refine ⟨?_, ?_, ?_, ?_, ?_, ?_, ?_⟩
  · rw [hrequests, hqueue]
    intro filter tx hrequest
    obtain ⟨⟨n, htx, hn⟩, hnone⟩ := h.requested filter tx hrequest
    exact ⟨⟨n, htx, hwaits filter n hn⟩, hnone⟩
  · rw [hqueue]
    intro key tx hkey
    obtain ⟨filter, n, htx, hmem, hn⟩ := h.registered key tx hkey
    exact ⟨filter, n, htx, hmem, hwaits filter n hn⟩
  · rw [hqueue]
    exact h.unique
  · rw [hloop, hhanded]
    exact h.matching
  · rw [hloop, hhanded]
    exact h.asking
  · rw [hloop]
    exact h.numbered
  · rw [hloop, hhanded]
    exact h.fresh

/-- `LoopCtx::run` waits for nothing before and after a step. -/
theorem rest (h : s.Pulls) (hnot : ∀ filter n, ¬ s.Waits filter n) (hqueue : s'.queue = s.queue)
    (hhanded : s'.channels.handed = s.channels.handed)
    (hrequests : ∀ filter tx, s'.requests = some (filter, .oneshot tx) →
      s.requests = some (filter, .oneshot tx))
    (hpulls : s'.loopCtx.pulls = s.loopCtx.pulls) (hpull : s'.loopCtx.pc.pull = none) : s'.Pulls := by
  obtain ⟨hrequest, hkey⟩ := h.nothing hnot
  refine ⟨?_, ?_, ?_, ?_, ?_, ?_, ?_⟩
  · intro filter tx hrequest'
    exact absurd (hrequests filter tx hrequest') (hrequest filter tx)
  · rw [hqueue]
    intro key tx hkey'
    exact absurd hkey' (hkey key tx)
  · rw [hqueue]
    exact h.unique
  · intro filter rx hwaiting
    rw [hpull] at hwaiting
    cases hwaiting
  · intro filter tx hasking
    rw [hpull] at hasking
    cases hasking
  · intro pull hsome
    rw [hpull] at hsome
    cases hsome
  · rw [hhanded, hpulls]
    exact h.fresh

/-- `LoopCtx::run` makes, asks and waits for calls one after the other. -/
theorem step_loop (h : s.Pulls) (hstep : s.step units a = some s') (ha : a.party = .loop)
    (halive : s'.loopCtx.pc ≠ .panicked) : s'.Pulls := by
  have hframe := frame_loop hstep ha
  have hqueue : s'.queue = s.queue := by rw [hframe]
  have hhanded : s'.channels.handed = s.channels.handed := by rw [hframe]
  have hidle : s.loopCtx.pc.pull = none → ∀ filter n, ¬ s.Waits filter n := by
    rintro hnone filter n ⟨hwaiting, -⟩
    rw [hnone] at hwaiting
    cases hwaiting
  rcases pull_of_loop hstep ha halive with ⟨hbefore, hafter, hpulls, hrequests⟩ |
    ⟨filter, hbefore, hafter, hfilter, hpulls, hrequests⟩ |
    ⟨filter, tx, hbefore, hafter, hfilter, hpulls, hrequests⟩ |
    ⟨rx, msg, hbefore, hmsg, hafter, hpulls, hrequests⟩
  · exact h.rest (hidle hbefore) hqueue hhanded hrequests hpulls hafter
  · -- a new call of `pull_msg`, with a new channel
    obtain ⟨hrequest, hkey⟩ := h.nothing (hidle hbefore)
    refine ⟨?_, ?_, ?_, ?_, ?_, ?_, ?_⟩
    · rw [hrequests]
      exact fun filter tx hrequest' => absurd hrequest' (hrequest filter tx)
    · rw [hqueue]
      exact fun key tx hkey' => absurd hkey' (hkey key tx)
    · rw [hqueue]
      exact h.unique
    · intro filter' rx hwaiting
      rw [hafter] at hwaiting
      cases hwaiting
    · intro filter' tx hasking
      rw [hafter] at hasking
      cases hasking
      refine ⟨hfilter, ?_⟩
      rw [hhanded]
      exact h.fresh _ (Nat.le_refl _)
    · intro pull hpull
      rw [hafter] at hpull
      cases hpull
      exact ⟨s.loopCtx.pulls, by omega, .inr ⟨filter, rfl⟩⟩
    · rw [hhanded, hpulls]
      exact fun n hn => h.fresh n (by omega)
  · -- the request is sent
    obtain ⟨hasked, hempty⟩ := h.asking filter tx hbefore
    obtain ⟨n, hn, heq | ⟨filter', heq⟩⟩ := h.numbered _ hbefore
    · cases heq
    · cases heq
      have hnot : ∀ filter n, ¬ s.Waits filter n := by
        rintro filter n ⟨hwaiting, -⟩
        rw [hbefore] at hwaiting
        cases hwaiting
      obtain ⟨-, hkey⟩ := h.nothing hnot
      refine ⟨?_, ?_, ?_, ?_, ?_, ?_, ?_⟩
      · rw [hrequests, hqueue]
        intro filter' tx' hrequest
        cases hrequest
        refine ⟨⟨n, rfl, hafter, hfilter.trans hasked, ?_⟩, hkey⟩
        rw [hhanded]
        exact hempty
      · rw [hqueue]
        exact fun key tx' hkey' => absurd hkey' (hkey key tx')
      · rw [hqueue]
        exact h.unique
      · intro filter' rx hwaiting hfilter' msg hmsg
        rw [hafter] at hwaiting
        cases hwaiting
        rw [hhanded, hempty] at hmsg
        cases hmsg
      · intro filter' tx' hasking
        rw [hafter] at hasking
        cases hasking
      · intro pull hpull
        rw [hafter] at hpull
        cases hpull
        exact ⟨n, by omega, .inl rfl⟩
      · rw [hhanded, hpulls]
        exact h.fresh
  · refine h.rest ?_ hqueue hhanded (fun _ _ hrequest => hrequests ▸ hrequest) hpulls hafter
    rintro filter n ⟨hwaiting, -, hempty⟩
    rw [hbefore] at hwaiting
    cases hwaiting
    rw [hempty] at hmsg
    cases hmsg

/-- The steps of the queue task that hand nothing to a oneshot, and register none. -/
theorem keep (h : s.Pulls) (hloop : s'.loopCtx = s.loopCtx)
    (hhanded : ∀ n, s'.channels.handed (oneshotId n) = s.channels.handed (oneshotId n))
    (hrequests : ∀ filter tx, s'.requests = some (filter, .oneshot tx) →
      s.requests = some (filter, .oneshot tx))
    (hkeys : ∀ key tx, s'.queue.state.subscribers.get key = some (.oneshot tx) →
      s.queue.state.subscribers.get key = some (.oneshot tx) ∧
        ∀ filter, (key, filter) ∈ DenseSlotMap.iter s.queue.state.filters →
          (key, filter) ∈ DenseSlotMap.iter s'.queue.state.filters) : s'.Pulls := by
  have hwaits : ∀ filter n, s.Waits filter n → s'.Waits filter n := by
    intro filter n hwaits
    unfold Waits
    rw [hloop, hhanded]
    exact hwaits
  refine ⟨fun filter tx hrequest => ?_, fun key tx hkey => ?_, fun key key' tx tx' hkey hkey' => ?_,
    fun filter rx hwaiting hfilter => ?_, fun filter tx hasking => ?_, ?_, ?_⟩
  · obtain ⟨⟨n, htx, hn⟩, hnone⟩ := h.requested filter tx (hrequests filter tx hrequest)
    exact ⟨⟨n, htx, hwaits filter n hn⟩, fun key tx' hkey => hnone key tx' (hkeys key tx' hkey).1⟩
  · obtain ⟨filter, n, htx, hmem, hn⟩ := h.registered key tx (hkeys key tx hkey).1
    exact ⟨filter, n, htx, (hkeys key tx hkey).2 filter hmem, hwaits filter n hn⟩
  · exact h.unique key key' tx tx' (hkeys key tx hkey).1 (hkeys key' tx' hkey').1
  · rw [hloop] at hwaiting hfilter
    obtain ⟨n, -, heq | ⟨filter', heq⟩⟩ := h.numbered _ hwaiting
    · cases heq
      rw [hhanded]
      exact h.matching filter _ hwaiting hfilter
    · cases heq
  · rw [hloop] at hasking ⊢
    obtain ⟨hfilter, hempty⟩ := h.asking filter tx hasking
    obtain ⟨n, -, heq | ⟨filter', heq⟩⟩ := h.numbered _ hasking
    · cases heq
    · cases heq
      exact ⟨hfilter, by rw [hhanded]; exact hempty⟩
  · rw [hloop]
    exact h.numbered
  · rw [hloop]
    intro n hn
    rw [hhanded]
    exact h.fresh n hn

/-- A message that matches is handed to what `LoopCtx::run` waits for, and nothing is on its way then. -/
theorem hand (h : s.Pulls) {filter : GenericFilter} {n : ℕ} {msg : GenericMessage}
    (hwaits : s.Waits filter n) (hmatch : filter.isMatch msg = true)
    (hloop : s'.loopCtx = s.loopCtx)
    (hhanded : s'.channels.handed =
      Function.update s.channels.handed (oneshotId n) (s.channels.handed (oneshotId n) ++ [msg]))
    (hrequest : ∀ filter tx, s'.requests ≠ some (filter, .oneshot tx))
    (hkey : ∀ key tx, s'.queue.state.subscribers.get key ≠ some (.oneshot tx)) : s'.Pulls := by
  obtain ⟨hwaiting, hfilter, hempty⟩ := hwaits
  refine ⟨fun filter tx h => absurd h (hrequest filter tx), fun key tx h => absurd h (hkey key tx),
    fun key key' tx tx' h => absurd h (hkey key tx), fun filter' rx hwaiting' hfilter' msg' hmsg' => ?_,
    fun filter' tx hasking => ?_, ?_, ?_⟩
  · rw [hloop, hwaiting] at hwaiting'
    cases hwaiting'
    rw [hloop, hfilter] at hfilter'
    cases hfilter'
    rw [hhanded, Function.update_self, hempty, List.nil_append, List.mem_singleton] at hmsg'
    rw [hmsg']
    exact hmatch
  · rw [hloop, hwaiting] at hasking
    cases hasking
  · rw [hloop]
    exact h.numbered
  · rw [hloop, hhanded]
    intro m hm
    obtain ⟨n', hn', heq | ⟨filter', heq⟩⟩ := h.numbered _ hwaiting
    · have hne : oneshotId m ≠ oneshotId n := by
        rw [Pull.waiting.inj heq]
        intro hcontra
        have hcontra := oneshotId_injective hcontra
        omega
      rw [Function.update_of_ne hne]
      exact h.fresh m hm
    · cases heq

/-- The request is registered. -/
theorem register (h : s.Pulls) {filter : GenericFilter} {n : ℕ} (hwaits : s.Waits filter n)
    (hkey : ∀ key tx, s.queue.state.subscribers.get key ≠ some (.oneshot tx)) :
    { s with
      requests := none
      queue := { s.queue with
        state := s.queue.state.addSubscriber filter (.oneshot (some (oneshotId n))) } }.Pulls := by
  have hget : ∀ key tx, (s.queue.state.addSubscriber filter
      (.oneshot (some (oneshotId n)))).subscribers.get key = some (.oneshot tx) →
        key = (DenseSlotMap.insert s.queue.state.filters filter).1 ∧ tx = some (oneshotId n) := by
    intro key tx h
    rw [State.addSubscriber, SecondaryMap.get_insert] at h
    split at h
    · rename_i heq
      cases h
      exact ⟨heq, rfl⟩
    · exact absurd h (hkey key tx)
  refine ⟨(fun _ _ h => by cases h), fun key tx hsub => ?_, fun key key' tx tx' hsub hsub' => ?_,
    h.matching, h.asking, h.numbered, h.fresh⟩
  · obtain ⟨rfl, rfl⟩ := hget key tx hsub
    exact ⟨filter, n, rfl, State.mem_filters_addSubscriber.mpr (.inl rfl), hwaits⟩
  · rw [(hget key tx hsub).1, (hget key' tx' hsub').1]

/-- The queue task hands what was asked for. -/
theorem step_queue (h : s.Pulls) (hwf : s.Wf) (hstep : s.step units a = some s')
    (ha : a.party = .queue) : s'.Pulls := by
  have hsame : ∀ key tx, s.queue.state.subscribers.get key = some (.oneshot tx) →
      s.queue.state.subscribers.get key = some (.oneshot tx) ∧
        ∀ filter, (key, filter) ∈ DenseSlotMap.iter s.queue.state.filters →
          (key, filter) ∈ DenseSlotMap.iter s.queue.state.filters :=
    fun _ _ hkey => ⟨hkey, fun _ hmem => hmem⟩
  have hpc : ∀ pc, (s.setQueuePc pc).Pulls := fun pc =>
    h.keep rfl (fun _ => rfl) (fun _ _ h => h) hsame
  cases queue_cases hwf hstep ha with
  | requestPanicked => exact h.keep rfl (fun _ => rfl) (fun _ _ h => by cases h) hsame
  | found _ hrequest _ hmatch =>
      obtain ⟨⟨n, htx, hwaits⟩, hkey⟩ := h.requested _ _ hrequest
      obtain rfl := oneshotId_injective (Option.some.inj htx)
      exact h.hand hwaits hmatch rfl rfl (fun _ _ h => by cases h) hkey
  | registered _ hrequest =>
      obtain ⟨⟨n, htx, hwaits⟩, hkey⟩ := h.requested _ _ hrequest
      obtain rfl := oneshotId_injective (Option.some.inj htx)
      exact h.register hwaits hkey
  | pulls => exact h.keep rfl (fun _ => rfl) (fun _ _ h => by cases h) hsame
  | pulledAll =>
      refine h.keep rfl (fun _ => rfl) (fun _ _ h => h) fun key tx' hkey => ?_
      rw [State.addSubscriber, SecondaryMap.get_insert] at hkey
      split at hkey
      · cases hkey
      · exact ⟨hkey, fun _ hmem => State.mem_filters_addSubscriber.mpr (.inr hmem)⟩
  | pullPanicked => exact hpc _
  | pulled => exact h.keep rfl (fun _ => rfl) (fun _ _ h => h) hsame
  | messagePanicked => exact (hpc .panicked).congr rfl rfl rfl rfl
  | stored => exact h.keep rfl (fun _ => rfl) (fun _ _ h => h) hsame
  | @handed msg key n _ _ hkey hget =>
      obtain ⟨filter, n', htx, hmem, hwaits⟩ := h.registered key _ hget
      obtain rfl := oneshotId_injective (Option.some.inj htx)
      obtain ⟨filter', hmem', hmatch⟩ := State.exists_of_matchFilter hkey
      obtain rfl : filter = filter' := DenseSlotMap.eq_of_mem_iter hmem hmem'
      refine h.hand hwaits hmatch rfl rfl (fun filter' tx' hrequest => ?_) fun key' tx' hkey' => ?_
      · exact (h.requested filter' tx' hrequest).2 key _ hget
      · rw [State.removeSubscriber, SecondaryMap.get_remove] at hkey'
        split at hkey'
        · cases hkey'
        · rename_i hne
          exact hne (h.unique key' key tx' _ hkey' hget)
  | routed => exact (hpc _).congr rfl rfl rfl rfl
  | sendPanicked => exact hpc _
  | @pullSent filter tx indexes msg hqueue =>
      obtain ⟨g, -, rfl⟩ := hwf.pc tx (by rw [hqueue]; rfl)
      refine h.keep rfl (fun n => ?_) (fun _ _ h => h) hsame
      exact Function.update_of_ne (oneshotId_ne_streamId n g) _ _
  | @messageSent tx msg hqueue =>
      obtain ⟨g, -, rfl⟩ := hwf.pc tx (by rw [hqueue]; rfl)
      refine h.keep rfl (fun n => ?_) (fun _ _ h => h) hsame
      exact Function.update_of_ne (oneshotId_ne_streamId n g) _ _

/-- Every step keeps what is on its way in order, unless `LoopCtx::run` panics. -/
theorem step (h : s.Pulls) (hwf : s.Wf) (hstep : s.step units a = some s')
    (halive : s'.loopCtx.pc ≠ .panicked) : s'.Pulls := by
  cases ha : a.party with
  | dbus =>
      rw [frame_dbus hstep ha]
      exact h.congr rfl rfl rfl rfl
  | queue => exact h.step_queue hwf hstep ha
  | loop => exact h.step_loop hstep ha halive
  | collection =>
      obtain ⟨g, hg⟩ := Label.exists_collectionOf ha
      obtain ⟨-, hhanded, -⟩ := frame_collectionOf hstep hg
      rw [frame_collection hstep ha]
      exact h.congr rfl rfl rfl hhanded
  | update =>
      rw [frame_update hstep ha]
      exact h.congr rfl rfl rfl rfl

end Pulls

end Service

end BleWsCentral.Mesh
