import BleWsCentral.Readings
import BleWsCentral.Server.Requests

/-!
# After a failure

What is left of the mesh service when `update` has failed. Nobody takes a batch then, and nobody is told: the
tasks find out one after the other, each when it next sends something.

* `Collection.windowsLeft`, `Collection.triggersLeft` — how many windows a collection task still opens, and how
  many triggers it still takes or leaves in its channel, before it ends at its next batch.
* `Service.windowsLeft_step`, `Service.triggersLeft_step` — every window and every trigger is one of these.
  Only a run of `LoopCtx::run` that is started again brings in new ones.
* `after_failure` — so no batch is sent or processed any more, a collection task opens at most one window, and
  `LoopCtx::run` is over at the third trigger, unless it is started again before.
-/

set_option linter.unusedSectionVars false

namespace BleWsCentral.Mesh

open BleWsCentral.Found BleWsCentral.Server

/-! ## The collection tasks -/

/-- The windows that the task opens yet, when nobody takes its next batch. -/
def Collection.windowsLeft (c : Collection) : ℕ :=
  match c.pc with
  | .awaiting | .locking => 1
  | _ => 0

/-- The triggers that can be sent to the task yet, when nobody takes its next batch. -/
def Collection.triggersLeft (c : Collection) : ℕ :=
  match c.pc with
  | .gone => 0
  | .awaiting => if c.trigger then 1 else 2
  | _ => if c.trigger then 0 else 1

theorem Collection.windowsLeft_le (c : Collection) : c.windowsLeft ≤ 1 := by
  unfold windowsLeft
  split <;> decide

theorem Collection.triggersLeft_le (c : Collection) : c.triggersLeft ≤ 2 := by
  unfold triggersLeft
  split
  · decide
  · split <;> decide
  · split <;> decide

/-- Another trigger lies in the channel of the task. -/
theorem Collection.triggersLeft_send {c : Collection} (hpc : c.pc ≠ .gone) (htrigger : c.trigger = false) :
    { c with trigger := true }.triggersLeft + 1 = c.triggersLeft := by
  unfold triggersLeft
  cases hc : c.pc with
  | gone => exact absurd hc hpc
  | _ => simp [htrigger]

/-- The step opens a window of run `g`. -/
def Label.opens (g : ℕ) (a : Label) : ℕ := if a = .openWindow g then 1 else 0

/-- The step sends a trigger, or tries to. -/
def Label.triggers (a : Label) : ℕ := if a = .trigger then 1 else 0

/-- With `LoopCtx::run` started again, there are two triggers more. -/
def Label.restarts (a : Label) : ℕ := if a = .restart then 2 else 0

theorem Label.opens_of_party {a : Label} (g : ℕ) (h : a.party ≠ .collection) : a.opens g = 0 := by
  apply if_neg
  rintro rfl
  exact h rfl

theorem Label.triggers_of_party {a : Label} (h : a.party ≠ .loop) : a.triggers = 0 := by
  apply if_neg
  rintro rfl
  exact h rfl

namespace Service

variable {K M : Type} [DecidableEq K] [DenseSlotMap K GenericFilter M] {units : Units}
  {s s' : Service K M} {a : Label}

/-- The other tasks leave `LoopCtx::run` and the collection tasks alone. -/
theorem tasks_of_others (h : s.step units a = some s') (hloop : a.party ≠ .loop)
    (hcollection : a.party ≠ .collection) : s'.loopCtx = s.loopCtx ∧ s'.collections = s.collections := by
  cases ha : a.party with
  | dbus =>
      rw [frame_dbus h ha]
      exact ⟨rfl, rfl⟩
  | queue =>
      rw [frame_queue h ha]
      exact ⟨rfl, rfl⟩
  | update =>
      rw [frame_update h ha]
      exact ⟨rfl, rfl⟩
  | loop => exact absurd ha hloop
  | collection => exact absurd ha hcollection

/-- A step of a collection task, when nobody takes its batch. -/
theorem left_of_collection (hends : s.updateRuns = false) (h : s.step units a = some s') {g : ℕ}
    (ha : a.collectionOf = some g) :
    (s'.collections g).triggersLeft ≤ (s.collections g).triggersLeft ∧
      (s'.collections g).windowsLeft + a.opens g ≤ (s.collections g).windowsLeft ∧
      (s'.collections g).sent = (s.collections g).sent := by
  cases collection_cases h (Label.party_of_collectionOf ha) with
  | triggered _ hpc htrigger =>
      cases ha
      simp [setCollection, Collection.triggersLeft, Collection.windowsLeft, Label.opens, hpc, htrigger]
  | opened _ hpc _ =>
      cases ha
      simp [setCollection, setCollectionPc, Collection.triggersLeft, Collection.windowsLeft, Label.opens, hpc]
  | ended _ hpc | panicked _ hpc _ _ | refused _ hpc _ =>
      cases ha
      simp [stopCollection, setCollection, setCollectionPc, Collection.triggersLeft, Collection.windowsLeft,
        Label.opens, hpc]
  | waits _ hpc _ _ | completed _ hpc _ _ | timedOut _ hpc =>
      cases ha
      simp [setCollection, setCollectionPc, Collection.triggersLeft, Collection.windowsLeft, Label.opens, hpc]
  | sent _ _ hruns _ => cases hends.symm.trans hruns

/-! ## Windows -/

/-- The windows that the collection task of run `g` opens yet, when no batch is taken any more. -/
def windowsLeft (s : Service K M) (g : ℕ) : ℕ :=
  if g < s.loopCtx.streams then (s.collections g).windowsLeft else 1

theorem windowsLeft_le (s : Service K M) (g : ℕ) : s.windowsLeft g ≤ 1 := by
  unfold windowsLeft
  split
  · apply Collection.windowsLeft_le
  · exact le_rfl

/-- Every window is one of those that were left. -/
theorem windowsLeft_step (hidle : s.Idle) (hends : s.updateRuns = false) (h : s.step units a = some s')
    (g : ℕ) : s'.windowsLeft g + a.opens g ≤ s.windowsLeft g := by
  cases ha : a.party with
  | dbus | queue | update =>
      obtain ⟨hloop, hcollections⟩ := tasks_of_others h (by simp [ha]) (by simp [ha])
      unfold windowsLeft
      rw [Label.opens_of_party g (by simp [ha]), hloop, hcollections, add_zero]
  | loop =>
      rw [Label.opens_of_party g (by simp [ha]), add_zero]
      rcases tasks_of_loop h ha with ⟨hstreams, hsame⟩ | ⟨hstreams, -, hsame⟩
      · unfold windowsLeft Collection.windowsLeft
        rw [hstreams, (hsame g).1]
      · by_cases hg : g = s.loopCtx.streams
        · -- the run that is started may open its first window
          refine (windowsLeft_le s' g).trans (le_of_eq ?_)
          unfold windowsLeft
          rw [if_neg (by omega)]
        · unfold windowsLeft
          rw [hstreams, hsame g hg]
          simp only [show g < s.loopCtx.streams + 1 ↔ g < s.loopCtx.streams by omega, le_refl]
  | collection =>
      obtain ⟨g', hg'⟩ := Label.exists_collectionOf ha
      have hloop : s'.loopCtx = s.loopCtx := by rw [frame_collection h ha]
      by_cases hg : g = g'
      · subst hg
        have hstarted : g < s.loopCtx.streams := by
          by_contra hnot
          exact runs_of_collection h hg' (hidle g (not_lt.mp hnot)).1
        unfold windowsLeft
        rw [hloop, if_pos hstarted, if_pos hstarted]
        exact (left_of_collection hends h hg').2.1
      · obtain ⟨⟨c, hc⟩, -⟩ := frame_collectionOf h hg'
        have hopens : a.opens g = 0 := by
          apply if_neg
          rintro rfl
          cases hg'
          exact hg rfl
        unfold windowsLeft
        rw [hopens, hloop, hc, Function.update_of_ne hg, add_zero]

end Service

/-! ## Triggers -/

/-- The triggers that `LoopCtx::run` can send yet, when its collection task has room for `n` and no batch is
taken any more: one more finds the task gone. -/
def LoopPc.triggersLeft (n : ℕ) : LoopPc → ℕ
  | .panicked => 0
  | .failed => 1
  | .attaching | .pullingAttach _ | .starting | .subscribing => 3
  | _ => n + 1

theorem LoopPc.triggersLeft_le {n : ℕ} (hn : n ≤ 2) (pc : LoopPc) : pc.triggersLeft n ≤ 3 := by
  unfold triggersLeft
  split <;> omega

theorem LoopPc.panicked_of_triggersLeft {n : ℕ} {pc : LoopPc} (h : pc.triggersLeft n = 0) :
    pc = .panicked := by
  unfold triggersLeft at h
  split at h
  · rfl
  all_goals omega

theorem LoopPc.triggersLeft_mono {n m : ℕ} (hle : n ≤ m) (pc : LoopPc) :
    pc.triggersLeft n ≤ pc.triggersLeft m := by
  unfold triggersLeft
  split <;> omega

theorem LoopPc.triggersLeft_of_calls (n : ℕ) {pc : LoopPc} (h : pc.calls = true) :
    1 ≤ pc.triggersLeft n := by
  unfold triggersLeft
  split
  · cases h
  all_goals omega

theorem PullSite.triggersLeft_pc (n : ℕ) (site : PullSite) (pull : Pull) :
    (site.pc pull).triggersLeft n = site.before.triggersLeft n := by
  cases site <;> rfl

theorem PullSite.triggersLeft_next (n : ℕ) (site : PullSite) :
    site.next.triggersLeft n = site.before.triggersLeft n := by
  cases site <;> rfl

namespace Service

variable {K M : Type} [DecidableEq K] [DenseSlotMap K GenericFilter M] {units : Units}
  {s s' : Service K M} {a : Label}

@[simp] theorem triggersLeft_poll (n : ℕ) (addrs : List MeshAddr) : (poll addrs).triggersLeft n = n + 1 := by
  cases addrs <;> rfl

/-- The triggers that are left. -/
def triggersLeft (s : Service K M) : ℕ := s.loopCtx.pc.triggersLeft s.collection.triggersLeft

/-- A trigger is put into the channel of the collection task, or finds it gone. -/
theorem triggersLeft_trigger (h : s.trigger = some s') : s'.triggersLeft + 1 ≤ s.triggersLeft := by
  unfold trigger at h
  split at h
  · rename_i hpc _
    cases h
    unfold triggersLeft
    rw [hpc]
    exact Nat.succ_le_succ (Nat.zero_le _)
  · rename_i hpc hgone
    split at h
    · cases h
    · rename_i htrigger
      cases h
      have hsend := Collection.triggersLeft_send (c := s.collection) hgone (by simpa using htrigger)
      unfold triggersLeft
      rw [hpc]
      simp only [collection, setCollection, setLoopPc, Function.update_self, triggersLeft_poll]
      exact Nat.succ_le_succ hsend.le
  · cases h

/-- The other steps of `LoopCtx::run`. -/
theorem triggersLeft_loop (hne : a ≠ .trigger) (h : s.step units a = some s') (ha : a.party = .loop) :
    s'.triggersLeft ≤ s.triggersLeft + a.restarts := by
  cases loop_cases h ha with
  | triggered _ _ | triggerPanicked _ => exact absurd rfl hne
  | failed hcalls => exact (LoopPc.triggersLeft_of_calls _ hcalls).trans (Nat.le_add_right _ _)
  | attachPanicked _ | requestPanicked _ _ | subscribePanicked _ | replyPanicked _ _ _ => exact Nat.zero_le _
  | attachFailed _ => exact Nat.le_add_right _ _
  | pulls site hpc =>
      refine Nat.le_add_right_of_le (le_of_eq ?_)
      unfold triggersLeft
      rw [hpc]
      exact site.triggersLeft_pc _ _
  | requested site hpc _ =>
      refine Nat.le_add_right_of_le (le_of_eq ?_)
      unfold triggersLeft
      rw [hpc, site.triggersLeft_pc]
      exact site.triggersLeft_pc _ _
  | replied site hpc _ _ =>
      refine Nat.le_add_right_of_le (le_of_eq ?_)
      unfold triggersLeft
      rw [hpc, site.triggersLeft_pc]
      exact site.triggersLeft_next _
  | polled hpc =>
      refine Nat.le_add_right_of_le (le_of_eq ?_)
      unfold triggersLeft
      rw [hpc]
      exact triggersLeft_poll _ _
  | subscribed hpc _ =>
      -- the new task takes two triggers
      refine Nat.le_add_right_of_le (le_of_eq ?_)
      simp [triggersLeft, collection, hpc, LoopPc.triggersLeft, Collection.triggersLeft]
  | inserted hpc _ =>
      refine Nat.le_add_right_of_le (le_of_eq ?_)
      unfold triggersLeft collection
      simp only [setCollection, setLoopPc, Function.update_self]
      rw [hpc]
      rfl
  | restarted hpc =>
      unfold triggersLeft
      rw [hpc]
      exact le_rfl
  | started hpc | nodeSent hpc | scanned hpc | ticked hpc =>
      refine Nat.le_add_right_of_le (le_of_eq ?_)
      unfold triggersLeft
      rw [hpc]
      rfl
  | known hpc _ _ | discovered hpc _ _ | nodeAdded hpc _ | nodeNotAdded hpc _ =>
      refine Nat.le_add_right_of_le (le_of_eq ?_)
      simp [triggersLeft, collection, hpc, LoopPc.triggersLeft]

/-- Every trigger is one of those that were left. -/
theorem triggersLeft_step (hends : s.updateRuns = false) (h : s.step units a = some s') :
    s'.triggersLeft + a.triggers ≤ s.triggersLeft + a.restarts := by
  cases ha : a.party with
  | dbus | queue | update =>
      obtain ⟨hloop, hcollections⟩ := tasks_of_others h (by simp [ha]) (by simp [ha])
      unfold triggersLeft collection
      rw [Label.triggers_of_party (by simp [ha]), hloop, hcollections]
      exact Nat.le_add_right _ _
  | loop =>
      by_cases htrigger : a = .trigger
      · subst htrigger
        exact triggersLeft_trigger h
      · have hzero : a.triggers = 0 := if_neg htrigger
        rw [hzero]
        exact triggersLeft_loop htrigger h ha
  | collection =>
      obtain ⟨g, hg⟩ := Label.exists_collectionOf ha
      have hloop : s'.loopCtx = s.loopCtx := by rw [frame_collection h ha]
      rw [Label.triggers_of_party (by simp [ha])]
      refine Nat.le_add_right_of_le ?_
      unfold triggersLeft collection
      rw [hloop, add_zero]
      by_cases hrun : s.loopCtx.run = g
      · rw [hrun]
        exact LoopPc.triggersLeft_mono (left_of_collection hends h hg).1 _
      · obtain ⟨⟨c, hc⟩, -⟩ := frame_collectionOf h hg
        rw [hc, Function.update_of_ne hrun]

/-! ## Runs of the mesh service -/

/-- Nobody takes a batch any more. -/
structure Ended (s : Service K M) : Prop where
  ends : s.updateRuns = false
  batches : s.batches = none
  idle : s.Idle

/-- Only `update` drops the receiver of the batches. -/
theorem updateRuns_of_step (hne : a ≠ .updateEnds) (h : s.step units a = some s') :
    s'.updateRuns = s.updateRuns := by
  cases ha : a.party with
  | dbus => rw [frame_dbus h ha]
  | queue => rw [frame_queue h ha]
  | loop => rw [frame_loop h ha]
  | collection => rw [frame_collection h ha]
  | update =>
      cases a with
      | takeBatch =>
          simp only [step, takeBatch] at h
          split at h <;> cases h
          rfl
      | updateEnds => exact absurd rfl hne
      | _ => cases ha

/-- A batch that nobody takes is not sent. -/
theorem sends_of_ends (hends : s.updateRuns = false) (a : Label) : s.sends a = none := by
  unfold sends
  split
  · split
    · rw [hends]
      rfl
    · rfl
  · rfl

theorem Ended.step (hended : s.Ended) (h : s.step units a = some s') : s'.Ended := by
  refine ⟨?_, ?_, hended.idle.step h⟩
  · by_cases ha : a = .updateEnds
    · subst ha
      cases h
      rfl
    · rw [updateRuns_of_step ha h]
      exact hended.ends
  · by_contra hsome
    obtain ⟨item, hitem⟩ := Option.ne_none_iff_exists'.mp hsome
    rcases batches_of_step h hitem with ⟨g, window, hsends, -⟩ | ⟨-, hbefore⟩
    · rw [sends_of_ends hended.ends] at hsends
      cases hsends
    · rw [hended.batches] at hbefore
      cases hbefore

/-- No window is sent. -/
theorem Ended.sent_step (hended : s.Ended) (h : s.step units a = some s') (g : ℕ) :
    (s'.collections g).sent = (s.collections g).sent := by
  cases ha : a.party with
  | dbus | queue | update => rw [(tasks_of_others h (by simp [ha]) (by simp [ha])).2]
  | loop =>
      rcases tasks_of_loop h ha with ⟨-, hsame⟩ | ⟨-, hnew, hsame⟩
      · exact (hsame g).2
      · by_cases hg : g = s.loopCtx.streams
        · rw [hg, hnew, (hended.idle _ le_rfl).2]
        · rw [hsame g hg]
  | collection =>
      obtain ⟨g', hg'⟩ := Label.exists_collectionOf ha
      by_cases hg : g = g'
      · subst hg
        exact (left_of_collection hended.ends h hg').2.2
      · obtain ⟨⟨c, hc⟩, -⟩ := frame_collectionOf h hg'
        rw [hc, Function.update_of_ne hg]

/-- What the mesh service does yet. -/
theorem Ended.run {l : List Label} (h : Run (Partial (Service.step units)) s l s') (hended : s.Ended) :
    (∀ g, (s'.collections g).sent = (s.collections g).sent) ∧
      (∀ g, l.count (.openWindow g) ≤ 1) ∧ l.count .trigger ≤ l.count .restart * 2 + 3 ∧
      (l.count .trigger = l.count .restart * 2 + 3 → s'.loopCtx.pc = .panicked) := by
  have hstep : ∀ (s : Service K M) (a : Label) (s' : Service K M), s.Ended →
      Partial (Service.step units) s a s' → s'.Ended := fun _ _ _ hended h => hended.step h
  refine ⟨fun g => ?_, fun g => ?_, ?_⟩
  · have hkept := h.invariant (I := fun t => t.Ended ∧ (t.collections g).sent = (s.collections g).sent)
      (fun _ _ _ ht hlast => ⟨ht.1.step hlast, (ht.1.sent_step hlast g).trans ht.2⟩) ⟨hended, rfl⟩
    exact hkept.2
  · have hspent := h.spent_le (fun t => t.windowsLeft g) (fun _ => 0) (Label.opens g) hstep
      (fun t _ _ ht hlast => windowsLeft_step ht.idle ht.ends hlast g) hended
    have hopens : income (Label.opens g) l = l.count (.openWindow g) * 1 := income_ite _ 1 l
    have hzero : income (fun _ : Label => 0) l = 0 := by simp [income]
    have hle := s.windowsLeft_le g
    omega
  · have hspent := h.spent_le triggersLeft Label.restarts Label.triggers hstep
      (fun t _ _ ht hlast => triggersLeft_step ht.ends hlast) hended
    have htriggers : income Label.triggers l = l.count .trigger * 1 := income_ite _ 1 l
    have hrestarts : income Label.restarts l = l.count .restart * 2 := income_ite _ 2 l
    have hle := LoopPc.triggersLeft_le s.collection.triggersLeft_le s.loopCtx.pc
    unfold triggersLeft at hspent
    refine ⟨by omega, fun hall => LoopPc.panicked_of_triggersLeft (n := s'.collection.triggersLeft) ?_⟩
    omega

end Service

/-! ## Runs with `update` -/

namespace Rounds

variable {K M : Type} [DecidableEq K] [DenseSlotMap K GenericFilter M] {units : Units}
  {s s' : Rounds K M} {ctx : Context}

/-- `update` has failed. -/
structure Failed (s : Rounds K M) : Prop where
  ended : s.service.Ended
  update : s.update = none

/-- A step of the tasks after the failure is one of the mesh service, or relabels a sensor. -/
theorem Failed.step (hfailed : s.Failed) {a : RoundStep} (h : s.step units a = some s') :
    s'.Failed ∧ s'.rounds = s.rounds ∧ SameReadings s.ctx s'.ctx ∧
      Run (Partial (Service.step units)) s.service a.label.toList s'.service := by
  cases a with
  | mesh a =>
      obtain ⟨service, hservice, rfl⟩ := mesh_cases h
      refine ⟨⟨hfailed.ended.step hservice, ?_⟩, rfl, .refl _, .snoc (.nil _) hservice⟩
      unfold note noteUpdate
      split
      · exact hfailed.ended.batches
      · rfl
      · exact hfailed.update
  | update faults =>
      obtain ⟨item, hitem, -⟩ := process_cases h
      rw [hfailed.update] at hitem
      cases hitem
  | relabel id newLabel =>
      cases h
      exact ⟨⟨hfailed.ended, hfailed.update⟩, rfl, .relabel _, .nil _⟩

/-- A run of the tasks after the failure. -/
theorem Failed.run (hfailed : s.Failed) {l : List RoundStep} (h : Run (Partial (Rounds.step units)) s l s') :
    s'.Failed ∧ s'.rounds = s.rounds ∧ SameReadings s.ctx s'.ctx ∧
      Run (Partial (Service.step units)) s.service (meshLabels l) s'.service := by
  induction h with
  | nil => exact ⟨hfailed, rfl, .refl _, .nil _⟩
  | @snoc t u l a _ hstep ih =>
      obtain ⟨hfailed', hrounds, hsame, hrun⟩ := ih
      obtain ⟨hfailed'', hrounds', hsame', hlast⟩ := hfailed'.step hstep
      refine ⟨hfailed'', hrounds'.trans hrounds, hsame.trans hsame', ?_⟩
      have hlabels : meshLabels (l ++ [a]) = meshLabels l ++ a.label.toList := by
        rw [meshLabels, List.filterMap_append, meshLabels]
        cases a <;> rfl
      rw [hlabels]
      exact hrun.append hlast

/-- When nobody takes a batch any more, `update` has failed. -/
theorem failed_of_run {l : List RoundStep} (h : Run (Partial (Rounds.step units)) (init ctx) l s)
    (hends : s.service.updateRuns = false) : s.Failed := by
  have hkept : ∀ (s : Rounds K M) (a : RoundStep) (s' : Rounds K M),
      s.service.Idle ∧ (s.service.updateRuns = false → s.Failed) → Partial (Rounds.step units) s a s' →
        s'.service.Idle ∧ (s'.service.updateRuns = false → s'.Failed) := by
    rintro s a s' ⟨hidle, hfailed⟩ h
    by_cases hbefore : s.service.updateRuns = false
    · have hfailed' := ((hfailed hbefore).step h).1
      exact ⟨hfailed'.ended.idle, fun _ => hfailed'⟩
    · cases a with
      | mesh a =>
          obtain ⟨service, hservice, rfl⟩ := mesh_cases h
          refine ⟨hidle.step hservice, fun hends => ?_⟩
          by_cases ha : a = .updateEnds
          · subst ha
            have hidle' := hidle.step hservice
            cases hservice
            exact ⟨⟨rfl, rfl, hidle'⟩, rfl⟩
          · exact absurd ((Service.updateRuns_of_step ha hservice).symm.trans hends) hbefore
      | update faults =>
          obtain ⟨item, -, ⟨ctx, -, rfl⟩ | ⟨e, ctx, service, -, hservice, rfl⟩⟩ := process_cases h
          · exact ⟨hidle, fun hends => absurd hends hbefore⟩
          · have hidle' := hidle.step hservice
            cases hservice
            exact ⟨hidle', fun _ => ⟨⟨rfl, rfl, hidle'⟩, rfl⟩⟩
      | relabel id newLabel =>
          cases h
          exact ⟨hidle, fun hends => absurd hends hbefore⟩
  exact (h.invariant hkept ⟨Service.Idle.init, fun hends => by cases hends⟩).2 hends

end Rounds

/-! ## What is left -/

/-- **After a failure.** When `update` has failed, no batch is applied or sent any more, and the readings stay as
they are. The tasks of the mesh service go on until they find out: a collection task opens at most one window
yet. `LoopCtx::run` is over at its third trigger at the latest, and then for good, unless a call over D-Bus
fails before; each time it is started again for that, there are at most two triggers more. -/
theorem after_failure {K M : Type} [DecidableEq K] [DenseSlotMap K GenericFilter M] {units : Units}
    {ctx : Context} {l l' : List RoundStep} {s s' : Rounds K M}
    (hrun : Run (Partial (Rounds.step units)) (.init ctx) l s) (hends : s.service.updateRuns = false)
    (hlater : Run (Partial (Rounds.step units)) s l' s') :
    s'.rounds = s.rounds ∧ SameReadings s.ctx s'.ctx ∧
      (∀ g, (s'.service.collections g).sent = (s.service.collections g).sent) ∧
      (∀ g, (meshLabels l').count (.openWindow g) ≤ 1) ∧
      (meshLabels l').count .trigger ≤ (meshLabels l').count .restart * 2 + 3 ∧
      ((meshLabels l').count .trigger = (meshLabels l').count .restart * 2 + 3 →
        s'.service.loopCtx.pc = .panicked) := by
  have hfailed := Rounds.failed_of_run hrun hends
  obtain ⟨-, hrounds, hsame, hservice⟩ := hfailed.run hlater
  exact ⟨hrounds, hsame, hfailed.ended.run hservice⟩

/-- A batch with a node that was heard fails. -/
def failedRound : List RoundStep := Rounds.setUp ++ Rounds.heardRound ++ [.update fun _ => true]

/-- Another window is opened after it, and its batch is refused. -/
def lastRound : List RoundStep :=
  Rounds.openRound 0 ++ [.mesh .callOk, .mesh .tick, .mesh .trigger, .mesh .callOk, .mesh (.timeout 0),
    .mesh (.sendBatch 0), .mesh .tick, .mesh .trigger]

set_option maxRecDepth 8000 in
/-- The theorem for a round after the failure, at whose end `LoopCtx::run` panics. -/
theorem after_failure_panicked :
    ∃ (ctx : Context) (s s' : Rounds ℕ (DenseVec GenericFilter)), Context.create ⟨∅, ∅⟩ = .ok ctx ∧
      Run (Partial (Rounds.step .total)) (.init ctx) failedRound s ∧
      Run (Partial (Rounds.step .total)) s lastRound s' ∧ s'.rounds = s.rounds ∧
      SameReadings s.ctx s'.ctx ∧ s'.service.loopCtx.pc = .panicked := by
  have hexec : ∃ (ctx : Context) (s s' : Rounds ℕ (DenseVec GenericFilter)),
      Context.create ⟨∅, ∅⟩ = .ok ctx ∧ Run (Partial (Rounds.step .total)) (.init ctx) failedRound s ∧
      s.service.updateRuns = false ∧ Run (Partial (Rounds.step .total)) s lastRound s' :=
    ⟨_, _, _, rfl, run_partial_iff.mpr rfl, rfl, run_partial_iff.mpr rfl⟩
  obtain ⟨ctx, s, s', hcreate, hrun, hends, hlater⟩ := hexec
  obtain ⟨hrounds, hsame, -, -, -, hpanicked⟩ := after_failure hrun hends hlater
  exact ⟨ctx, s, s', hcreate, hrun, hlater, hrounds, hsame, hpanicked (by decide)⟩

end BleWsCentral.Mesh
