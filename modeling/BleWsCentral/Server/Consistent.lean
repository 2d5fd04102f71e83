import BleWsCentral.Server.Update

/-!
# Failed batches

What a batch that fails leaves of the sensors in `id_db` and in memory.

* `Consistent` — `id_db` and the sensors in memory have the same ids, as `Context::create` makes them
  (`consistent_of_create`) and batches that are processed leave them.
* `Memorizes`, `LogsBatch` — whether the two transactions of the loop body go through, by where the backend
  fails and what the logs hold.
* `updateBatch_cases` — the three ways the loop body ends. Behind the first commit the new sensors are in
  `id_db`, and only at its end are they in memory.
* `consistent_updateBatch_iff` — so a batch with a new sensor leaves the two apart if its log transaction
  fails, and no other batch does.
-/

namespace BleWsCentral.Server

open BleWsCentral.Found

/-- The ids in `id_db` are those of the sensors in memory. -/
def Consistent (self : Context) : Prop :=
  ∀ id : Uuid, (self.db.env.store.addr[id]?).isSome = true ↔ id ∈ self.sensors

/-- All sensors of a batch are in `id_db`. -/
def NothingNew (db : Db) (item : UpdateItem) : Prop :=
  ∀ id : Uuid, id ∈ item → (db.env.store.addr[id]?).isSome = true

/-- The backend does not fail at the read transaction, nor, if there is something new, at the write transaction
or at a new sensor. -/
def Memorizes (faults : Faults) (db : Db) (item : UpdateItem) : Prop :=
  (faults .readTxn = false ∧ ∀ id ∈ item, faults (.getAddr id) = false) ∧
    (NothingNew db item ∨
      faults .writeTxn = false ∧
        (∀ id : Uuid, id ∈ item → db.env.store.addr[id]? = none → faults (.putAddr id) = false) ∧
        faults .commitAddrs = false)

section Parts

variable {faults : Faults} {self : Context} {db db' : Db} {item : UpdateItem} {newSensors : List Uuid}

/-- There is something to write if the batch has a new sensor. -/
theorem eq_nil_iff_nothingNew (h : memorizeRead faults db item = .ok newSensors) :
    newSensors = [] ↔ NothingNew db item := by
  rw [List.eq_nil_iff_forall_not_mem]
  apply forall_congr'
  intro id
  rw [mem_of_memorizeRead h, not_and, Option.isSome_iff_ne_none]

/-- This is when the new sensors are memorized. -/
theorem exists_memorize_iff :
    (∃ newSensors db', memorizeRead faults db item = .ok newSensors ∧
      memorizeWrite faults db newSensors = .ok db') ↔ Memorizes faults db item := by
  rw [Memorizes, ← exists_memorizeRead_iff]
  constructor
  · rintro ⟨newSensors, db', hread, hwrite⟩
    refine ⟨⟨newSensors, hread⟩, ?_⟩
    refine (exists_memorizeWrite_iff.mp ⟨db', hwrite⟩).imp (eq_nil_iff_nothingNew hread).mp ?_
    rintro ⟨htxn, hput, hcommit⟩
    exact ⟨htxn, fun id hid hnone => hput id ((mem_of_memorizeRead hread).mpr ⟨hid, hnone⟩), hcommit⟩
  · rintro ⟨⟨newSensors, hread⟩, hwrite⟩
    have hexists : ∃ db', memorizeWrite faults db newSensors = .ok db' := by
      refine exists_memorizeWrite_iff.mpr (hwrite.imp (eq_nil_iff_nothingNew hread).mpr ?_)
      rintro ⟨htxn, hput, hcommit⟩
      refine ⟨htxn, fun id hid => ?_, hcommit⟩
      obtain ⟨hmem, hnone⟩ := (mem_of_memorizeRead hread).mp hid
      exact hput id hmem hnone
    obtain ⟨db', hwrite⟩ := hexists
    exact ⟨newSensors, db', hread, hwrite⟩

/-- Memorizing sensors does not change if their readings can be logged. -/
theorem logsBatch_congr (hset : db'.sensorLog = db.sensorLog)
    (hlogs : ∀ id, db'.env.store.log id = db.env.store.log id) :
    LogsBatch faults db' item ↔ LogsBatch faults db item := by
  simp only [LogsBatch, hset, hlogs]

/-- How the loop body ends: in the first part with nothing done, in the second part with the new sensors
memorized, or without an error. -/
theorem updateBatch_cases (faults : Faults) (self : Context) (item : UpdateItem) :
    (¬ Memorizes faults self.db item ∧ ∃ e, updateBatch faults self item = (.error e, self)) ∨
      (Memorizes faults self.db item ∧ ¬ LogsBatch faults self.db item ∧
        ∃ e db, updateBatch faults self item = (.error e, { self with db }) ∧
          ∀ id : Uuid, (db.env.store.addr[id]?).isSome = true ↔
            (self.db.env.store.addr[id]?).isSome = true ∨ id ∈ item) ∨
      (Memorizes faults self.db item ∧ LogsBatch faults self.db item ∧
        ∃ self', updateBatch faults self item = (.ok (), self')) := by
  cases hread : memorizeRead faults self.db item with
  | error e =>
      refine .inl ⟨?_, e, by simp only [updateBatch, hread]⟩
      rw [← exists_memorize_iff]
      rintro ⟨newSensors, db', h, -⟩
      cases hread.symm.trans h
  | ok newSensors =>
      cases hwrite : memorizeWrite faults self.db newSensors with
      | error e =>
          refine .inl ⟨?_, e, by simp only [updateBatch, hread, hwrite]⟩
          rw [← exists_memorize_iff]
          rintro ⟨newSensors', db', h, h'⟩
          cases Except.ok.inj (hread.symm.trans h)
          cases hwrite.symm.trans h'
      | ok db =>
          have hmemorizes := exists_memorize_iff.mp ⟨newSensors, db, hread, hwrite⟩
          obtain ⟨hset, hlogs, haddr⟩ := of_memorizeWrite (nodup_of_memorizeRead hread) hwrite
          rw [← logsBatch_congr hset hlogs, ← exists_logBatch_iff]
          cases hlog : logBatch faults db item with
          | error e =>
              refine .inr (.inl ⟨hmemorizes, by simp, e, db, ?_, fun id => ?_⟩)
              · simp only [updateBatch, hread, hwrite, hlog]
              · rw [haddr]
                simp only [mem_of_memorizeRead hread]
                cases self.db.env.store.addr[id]? <;> simp
          | ok db' =>
              refine .inr (.inr ⟨hmemorizes, ⟨db', rfl⟩,
                { self with db := db' }.modifySensors (applyBatch item), ?_⟩)
              simp only [updateBatch, hread, hwrite, hlog]

end Parts

/-- After the batch the ids agree, and if it did not fail, its new sensors were added to both. -/
def LeavesConsistent (self : Context) (item : UpdateItem) (r : Except DbError Unit × Context) : Prop :=
  Consistent r.2 ∧
    (r.1 = .ok () → ∀ id : Uuid, (r.2.db.env.store.addr[id]?).isSome = true ↔
      (self.db.env.store.addr[id]?).isSome = true ∨ id ∈ item)

/-- A batch that does not fail adds its sensors to both. -/
theorem leavesConsistent_of_ok {faults : Faults} {self self' : Context} {item : UpdateItem}
    (hself : Consistent self) (h : updateBatch faults self item = (.ok (), self')) :
    LeavesConsistent self item (.ok (), self') := by
  obtain ⟨-, haddr, -, hsensors⟩ := of_updateBatch h
  have hids : ∀ id : Uuid, (self'.db.env.store.addr[id]?).isSome = true ↔
      (self.db.env.store.addr[id]?).isSome = true ∨ id ∈ item := by
    intro id
    rw [haddr]
    cases self.db.env.store.addr[id]? <;> simp
  refine ⟨fun id => ?_, fun _ => hids⟩
  have hmem : id ∈ applyBatch item self.sensors ↔ id ∈ self.sensors ∨ id ∈ item := by
    simp only [Std.ExtTreeMap.mem_iff_isSome_getElem?, getElem?_applyBatch]
    cases item[id]? <;> simp
  rw [hids, hself id, hsensors, hmem]

/-- **Failed batches.** Processing a batch keeps the ids in `id_db` and in memory the same, wherever the backend
fails, if and only if the batch has no new sensor, or the new ones are not memorized, or the log transaction
goes through. -/
theorem consistent_updateBatch_iff {self : Context} (hself : Consistent self) (faults : Faults)
    (item : UpdateItem) :
    LeavesConsistent self item (updateBatch faults self item) ↔
      NothingNew self.db item ∨ ¬ Memorizes faults self.db item ∨ LogsBatch faults self.db item := by
  rcases updateBatch_cases faults self item with ⟨hfails, e, h⟩ | ⟨hmemorizes, hfails, e, db, h, hids⟩ |
    ⟨-, hlogs, self', h⟩
  · rw [h]
    exact iff_of_true ⟨hself, by simp⟩ (.inr (.inl hfails))
  · rw [h]
    simp only [hmemorizes, hfails, not_true_eq_false, or_false]
    constructor
    · rintro ⟨hconsistent, -⟩ id hid
      exact (hself id).mpr ((hconsistent id).mp ((hids id).mpr (.inr hid)))
    · refine fun hold => ⟨fun id => ?_, by simp⟩
      rw [hids, or_iff_left_of_imp (hold id)]
      exact hself id
  · rw [h]
    exact iff_of_true (leavesConsistent_of_ok hself h) (.inr (.inr hlogs))

/-- The ids agree in the context as it is created. -/
theorem consistent_of_create {store : Store} {ctx : Context} (h : Context.create store = .ok ctx) :
    Consistent ctx := by
  obtain ⟨-, haddr, -, hsensors⟩ := Context.of_create h
  intro id
  rw [haddr, Std.ExtTreeMap.mem_iff_isSome_getElem?, hsensors, Option.isSome_map]

/-- And after any batches that were all processed. -/
theorem Consistent.update {self self' : Context} {items : List (Faults × UpdateItem)} (hself : Consistent self)
    (h : update self items = (.ok (), self')) : Consistent self' := by
  refine (update_eq_ok.mp h).invariant (fun s item s' hs hstep => ?_) hself
  exact (leavesConsistent_of_ok hs (updateStep_eq_ok.mp hstep)).1

/-- A batch of sensor 3, and one with a second sensor. -/
def knownBatch : UpdateItem := (∅ : UpdateItem).insert 3 (.connected ⟨100, 21, 7, 50⟩)

def newBatch : UpdateItem :=
  ((∅ : UpdateItem).insert 3 (.connected ⟨120, 22, 8, 51⟩)).insert 7 (.connected ⟨120, 22, 8, 51⟩)

/-- The theorem for a sensor that has a log, and a batch of it and a new sensor: it leaves the ids as they were if
the new sensor cannot be put into `id_db`, and leaves them apart if the reading cannot be appended. -/
theorem consistent_updateBatch_iff_failing :
    ∃ ctx self : Context, Context.create ⟨(∅ : BTreeMap Uuid IdDbEntry).insert 3 {}, ∅⟩ = .ok ctx ∧
      update ctx [(.none, knownBatch)] = (.ok (), self) ∧
      LeavesConsistent self newBatch (updateBatch (fun op => op == .putAddr 7) self newBatch) ∧
      ¬ LeavesConsistent self newBatch (updateBatch (fun op => op == .append 3) self newBatch) := by
  have hexec : ∃ ctx self : Context, Context.create ⟨(∅ : BTreeMap Uuid IdDbEntry).insert 3 {}, ∅⟩ = .ok ctx ∧
      update ctx [(.none, knownBatch)] = (.ok (), self) ∧ self.db.env.store.addr[(7 : Uuid)]? = none ∧
      (3 : Uuid) ∈ self.db.sensorLog :=
    ⟨_, _, rfl, rfl, by decide +kernel, by decide +kernel⟩
  obtain ⟨ctx, self, hcreate, hupdate, hnew, hlog⟩ := hexec
  have hself : Consistent self := (consistent_of_create hcreate).update hupdate
  have hmem : (7 : Uuid) ∈ newBatch := by decide +kernel
  have hnotNothing : ¬ NothingNew self.db newBatch := by
    intro hnothing
    have hstored := hnothing 7 hmem
    rw [hnew] at hstored
    cases hstored
  refine ⟨ctx, self, hcreate, hupdate, ?_, ?_⟩
  · refine (consistent_updateBatch_iff hself _ _).mpr (.inr (.inl ?_))
    rintro ⟨-, hnothing | ⟨-, hput, -⟩⟩
    · exact hnotNothing hnothing
    · exact absurd (hput 7 hmem hnew) (by decide)
  · rw [consistent_updateBatch_iff hself]
    rintro (hnothing | hfails | ⟨-, happend, -⟩)
    · exact hnotNothing hnothing
    · exact hfails ⟨⟨rfl, fun _ _ => rfl⟩, .inr ⟨rfl, fun _ _ _ => rfl, rfl⟩⟩
    · exact absurd (happend 3 ⟨120, 22, 8, 51⟩ (by decide +kernel) hlog).1 (by decide)

/-- The log transaction for a new sensor cannot be opened: the sensor is in `id_db`, and not in memory. -/
theorem failed_batch_memorized :
    ∃ self faults item, Consistent self ∧ (updateBatch faults self item).1 = .error .heed ∧
      ¬ Consistent (updateBatch faults self item).2 := by
  refine ⟨⟨∅, ⟨⟨200, [], ⟨∅, ∅⟩⟩, ∅⟩, []⟩, fun op => op == .logTxn, (∅ : UpdateItem).insert 1 .unconnected,
    by simp [Consistent], rfl, fun hconsistent => ?_⟩
  have hmemory := (hconsistent 1).mp (by decide +kernel)
  exact absurd hmemory (by decide +kernel)

end BleWsCentral.Server
