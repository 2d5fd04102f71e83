import BleWsCentral.Server.Labels

/-!
# No stored label is lost

What `id_db` holds while requests and the update task run at the same time, in any order. Both look into
`id_db` in one transaction and write to it in another one.

* `lastCommit` — the label of the `change_label` that committed last for a sensor.
* `StoreInv` — a sensor that a request has seen stays stored, and one that the update task has not seen
  stays unknown until it is written; so the default entry takes the place of nothing.
* `stored_label_kept` — the stored label is that of the last commit, or else the one from before.
-/

namespace BleWsCentral.Server

open BleWsCentral.Found

/-- The label that was committed last for a sensor, if one was. -/
def lastCommit (commits : List (Uuid × Option String)) (id : Uuid) : Option (Option String) :=
  (commits.filter fun c => c.1 = id).getLast?.map Prod.snd

theorem lastCommit_concat (commits : List (Uuid × Option String)) (id id' : Uuid)
    (label : Option String) :
    lastCommit (commits ++ [(id, label)]) id' =
      if id = id' then some label else lastCommit commits id' := by
  unfold lastCommit
  by_cases hid : id = id' <;> simp [List.filter_append, hid]

/-- The label of a sensor by its last commit, or else by what was stored when the server started. -/
def Store.labelAfter (store : Store) (commits : List (Uuid × Option String)) (id : Uuid) :
    Option String :=
  (lastCommit commits id).getD ((store.addr[id]?).bind IdDbEntry.label)

/-- What holds of `id_db` in every state of a run that started on `store`. -/
structure StoreInv (store : Store) (s : Tasks) : Prop where
  /-- The stored label is that of the last commit. -/
  label : ∀ id, s.ctx.storedLabel id = store.labelAfter s.commits id
  /-- A request that passed its check is about a stored sensor. -/
  known : ∀ (i : ℕ) (e : LabelRequest) id, s.requests[i]? = some e → e.phase = .checked id →
    (s.ctx.db.env.store.addr[id]?).isSome
  /-- What the update task memorizes is not stored yet. -/
  absent : ∀ faults item newSensors, s.update = .memorizing faults item newSensors →
    newSensors.Nodup ∧ ∀ id ∈ newSensors, s.ctx.db.env.store.addr[id]? = none

namespace StoreInv

variable {store : Store} {s s' : Tasks}

theorem init {ctx : Context} (h : Context.create store = .ok ctx) : StoreInv store (Tasks.init ctx) := by
  obtain ⟨-, haddr, -, -⟩ := Context.of_create h
  refine ⟨fun id => ?_, by simp [Tasks.init], by simp [Tasks.init]⟩
  simp [Tasks.init, Context.storedLabel, Db.getAddr, Db.readTxn, haddr, Store.labelAfter, lastCommit]

/-- A step that leaves `id_db` alone. -/
theorem keep (h : StoreInv store s) (haddr : s'.ctx.db.env.store.addr = s.ctx.db.env.store.addr)
    (hcommits : s'.commits = s.commits)
    (hknown : ∀ (i : ℕ) (e : LabelRequest) id, s'.requests[i]? = some e → e.phase = .checked id →
      s.requests[i]? = some e ∨ (s.ctx.db.env.store.addr[id]?).isSome)
    (habsent : ∀ faults item newSensors, s'.update = .memorizing faults item newSensors →
      s.update = .memorizing faults item newSensors ∨
        newSensors.Nodup ∧ ∀ id ∈ newSensors, s.ctx.db.env.store.addr[id]? = none) :
    StoreInv store s' where
  label id := by
    rw [hcommits, ← h.label]
    simp only [Context.storedLabel, Db.getAddr, Db.readTxn, haddr]
  known i e id he hchecked := by
    rw [haddr]
    rcases hknown i e id he hchecked with hold | hsome
    · exact h.known i e id hold hchecked
    · exact hsome
  absent faults item newSensors hupdate := by
    rw [haddr]
    rcases habsent faults item newSensors hupdate with hold | hnew
    · exact h.absent faults item newSensors hold
    · exact hnew

/-- A request gets further without a commit. -/
theorem setPhase (h : StoreInv store s) {r : ℕ} {req : ChangeLabelRequest} {phase phase' : RequestPhase}
    (hr : s.requests[r]? = some ⟨req, phase⟩)
    (hknown : ∀ id, phase' = .checked id → (s.ctx.db.env.store.addr[id]?).isSome) :
    StoreInv store (s.setPhase r req phase') := by
  refine h.keep rfl rfl (fun i e id he hchecked => ?_) fun _ _ _ hupdate => .inl hupdate
  rcases (LabelInv.getElem?_setPhase hr).mp he with ⟨-, rfl⟩ | ⟨-, he⟩
  · exact .inr (hknown id hchecked)
  · exact .inl he

/-- A request commits its label: its sensor was stored, so the update task does not memorize it. -/
theorem write (h : StoreInv store s) {r : ℕ} {req : ChangeLabelRequest} {id : Uuid}
    (hr : s.requests[r]? = some ⟨req, .checked id⟩) :
    StoreInv store { s.setPhase r req (.written id s.commits.length) with
      ctx := { s.ctx with
        db := s.ctx.db.commit (s.ctx.db.writeTxn.putAddr id { label := req.label }) }
      commits := s.commits ++ [(id, req.label)] } where
  label id' := by
    rw [LabelInv.storedLabel_write, h.label, Store.labelAfter, Store.labelAfter, lastCommit_concat]
    split <;> rfl
  known i e id' he hchecked := by
    have hold : (s.ctx.db.env.store.addr[id']?).isSome := by
      rcases (LabelInv.getElem?_setPhase hr).mp he with ⟨-, rfl⟩ | ⟨-, he⟩
      · cases hchecked
      · exact h.known i e id' he hchecked
    simp only [Db.commit_store, Store.putAddr_addr, Db.writeTxn]
    split
    · rfl
    · exact hold
  absent faults item newSensors hupdate := by
    obtain ⟨hnd, habsent⟩ := h.absent faults item newSensors hupdate
    refine ⟨hnd, fun id' hid' => ?_⟩
    have hne : id ≠ id' := by
      rintro rfl
      have hknown := h.known r _ id hr rfl
      rw [habsent id hid'] at hknown
      cases hknown
    simpa [Db.writeTxn, hne] using habsent id' hid'

/-- The write of the update task keeps every entry there is. -/
theorem memorized (h : StoreInv store s) {faults : Faults} {item : UpdateItem} {newSensors : List Uuid}
    (hupdate : s.update = .memorizing faults item newSensors) {db : Db}
    (hwrite : memorizeWrite faults s.ctx.db newSensors = .ok db) (id : Uuid) :
    db.env.store.addr[id]? =
      if id ∈ newSensors then some {} else s.ctx.db.env.store.addr[id]? :=
  (of_memorizeWrite (h.absent _ _ _ hupdate).1 hwrite).2.2 id

/-- The update task writes the default entries: a default entry has no label, like no entry. -/
theorem memorize (h : StoreInv store s) {faults : Faults} {item : UpdateItem} {newSensors : List Uuid}
    (hupdate : s.update = .memorizing faults item newSensors) {db : Db}
    (hwrite : memorizeWrite faults s.ctx.db newSensors = .ok db) :
    StoreInv store { s with ctx := { s.ctx with db }, update := .logging faults item } where
  label id := by
    rw [← h.label]
    simp only [Context.storedLabel, Db.getAddr, Db.readTxn, h.memorized hupdate hwrite]
    split
    · rename_i hnew
      simp [(h.absent _ _ _ hupdate).2 id hnew]
    · rfl
  known i e id he hchecked := by
    rw [h.memorized hupdate hwrite]
    split
    · rfl
    · exact h.known i e id he hchecked
  absent _ _ _ hupdate := by cases hupdate

/-- Every step keeps the invariant. -/
theorem step (h : StoreInv store s) {a : TaskStep} (hstep : s.step a = some s') : StoreInv store s' := by
  have hother : ∀ {ctx : Context} {update : UpdatePhase},
      ctx.db.env.store.addr = s.ctx.db.env.store.addr →
      (∀ faults item newSensors, update ≠ .memorizing faults item newSensors) →
      StoreInv store { s with ctx, update } := fun haddr hupdate =>
    h.keep haddr rfl (fun i e id he _ => .inl he) fun _ _ _ hmem => absurd hmem (hupdate _ _ _)
  cases a with
  | request req =>
      cases hstep
      refine h.keep rfl rfl (fun i e id he hchecked => ?_) fun _ _ _ hupdate => .inl hupdate
      rcases getElem?_concat_eq_some.mp he with he | ⟨-, rfl⟩
      · exact .inl he
      · cases hchecked
  | check r faults =>
      simp only [Tasks.step] at hstep
      split at hstep
      · rename_i req hr
        split at hstep
        · cases hstep
          exact h.setPhase hr fun _ hphase => by cases hphase
        · rename_i id hcheck
          cases hstep
          apply h.setPhase hr
          rintro id' ⟨⟩
          exact (Context.of_changeLabelCheck hcheck).2
      · cases hstep
  | write r faults =>
      simp only [Tasks.step] at hstep
      split at hstep
      · rename_i req id hr
        split at hstep
        · cases hstep
          exact h.setPhase hr fun _ hphase => by cases hphase
        · rename_i ctx hwrite
          cases hstep
          rw [Context.of_changeLabelWrite hwrite]
          exact h.write hr
      · cases hstep
  | modify r =>
      simp only [Tasks.step] at hstep
      split at hstep
      · rename_i req id stamp hr
        cases hstep
        have hphase : StoreInv store (s.setPhase r req (.finished id stamp)) :=
          h.setPhase hr fun _ hphase => by cases hphase
        exact hphase.keep rfl rfl (fun i e id he _ => .inl he) fun _ _ _ hupdate => .inl hupdate
      · cases hstep
  | batch faults item =>
      simp only [Tasks.step] at hstep
      split at hstep <;> cases hstep
      exact hother rfl fun _ _ _ hupdate => by cases hupdate
  | memorizeRead =>
      simp only [Tasks.step] at hstep
      split at hstep
      · split at hstep
        · cases hstep
          exact hother rfl fun _ _ _ hupdate => by cases hupdate
        · rename_i hread
          cases hstep
          refine h.keep rfl rfl (fun i e id he _ => .inl he) ?_
          rintro faults' item' newSensors' ⟨⟩
          exact .inr ⟨nodup_of_memorizeRead hread, fun id hid =>
            ((mem_of_memorizeRead hread).mp hid).2⟩
      · cases hstep
  | memorizeWrite =>
      simp only [Tasks.step] at hstep
      split at hstep
      · rename_i hupdate
        split at hstep
        · cases hstep
          exact hother rfl fun _ _ _ hupdate => by cases hupdate
        · rename_i db hwrite
          cases hstep
          exact h.memorize hupdate hwrite
      · cases hstep
  | log =>
      simp only [Tasks.step] at hstep
      split at hstep
      · split at hstep
        · cases hstep
          exact hother rfl fun _ _ _ hupdate => by cases hupdate
        · rename_i db hlog
          cases hstep
          exact hother (of_logBatch hlog).2.1 fun _ _ _ hupdate => by cases hupdate
      · cases hstep
  | apply =>
      simp only [Tasks.step] at hstep
      split at hstep <;> cases hstep
      exact hother rfl fun _ _ _ hupdate => by cases hupdate

end StoreInv

/-- **No stored label is lost.** In every run, whatever the order of the steps and wherever the backend
fails, the stored label of a sensor is that of the `change_label` that committed last for it, and if there
is none the one from when the database was opened. And the write of the update task leaves every entry
that is there when it is made as it is. -/
theorem stored_label_kept {store : Store} {ctx : Context} (hcreate : Context.create store = .ok ctx)
    {steps : List TaskStep} {s : Tasks}
    (hrun : Run (Partial Tasks.step) (Tasks.init ctx) steps s) :
    (∀ id, s.ctx.storedLabel id = store.labelAfter s.commits id) ∧
    ∀ s', s.step .memorizeWrite = some s' → ∀ (id : Uuid) (entry : IdDbEntry),
      s.ctx.db.env.store.addr[id]? = some entry → s'.ctx.db.env.store.addr[id]? = some entry := by
  have hinv : StoreInv store s := hrun.invariant (I := StoreInv store)
    (fun _ _ _ h hstep => h.step hstep) (.init hcreate)
  refine ⟨hinv.label, fun s' hstep id entry hentry => ?_⟩
  simp only [Tasks.step] at hstep
  split at hstep
  · rename_i faults item newSensors hupdate
    split at hstep
    · cases hstep
      exact hentry
    · rename_i db hwrite
      cases hstep
      have hnew : id ∉ newSensors := by
        intro hmem
        rw [(hinv.absent _ _ _ hupdate).2 id hmem] at hentry
        cases hentry
      exact (hinv.memorized hupdate hwrite id).trans ((if_neg hnew).trans hentry)
  · cases hstep

/-- The theorem for a sensor that is named while a batch with it and a new one is processed. -/
theorem stored_label_kept_named :
    ∃ (ctx : Context) (s : Tasks),
      Context.create ⟨(∅ : BTreeMap Uuid IdDbEntry).insert 3 {}, ∅⟩ = .ok ctx ∧
        s.commits = [(3, some "attic")] ∧ s.ctx.storedLabel 3 = some "attic" ∧
        s.ctx.storedLabel 7 = none := by
  have hexec : ∃ (ctx : Context) (s : Tasks),
      Context.create ⟨(∅ : BTreeMap Uuid IdDbEntry).insert 3 {}, ∅⟩ = .ok ctx ∧
        Run (Partial Tasks.step) (Tasks.init ctx)
          [.request ⟨some 3, some "attic"⟩,
            .batch .none (((∅ : UpdateItem).insert 3 .unconnected).insert 7 .unconnected),
            .check 0 .none, .memorizeRead, .write 0 .none, .memorizeWrite] s ∧
        s.commits = [(3, some "attic")] :=
    ⟨_, _, rfl, .cons rfl <| .cons rfl <| .cons rfl <| .cons rfl <| .cons rfl <| .cons rfl <| .nil _,
      rfl⟩
  obtain ⟨ctx, s, hcreate, hrun, hcommits⟩ := hexec
  obtain ⟨hlabel, -⟩ := stored_label_kept hcreate hrun
  refine ⟨ctx, s, hcreate, hcommits, ?_, ?_⟩
  · rw [hlabel, hcommits]
    decide +kernel
  · rw [hlabel, hcommits]
    decide +kernel

end BleWsCentral.Server
