import BleWsCentral.Server.Update

/-!
# Batches of different sensors

Batches with no sensor in common may be processed in either order.

* `SameAt id` — two contexts hold the same of one sensor: its entry, its log and what is in memory of it.
* `SameAt.of_updateBatch` — a batch does the same to the sensor in both of them.
* `sameAt_of_notMem` — a batch without the sensor leaves it alone.
* `update_comm` — so, one sensor at a time, both orders come to the same.
-/

namespace BleWsCentral.Server

open BleWsCentral.Found

/-- Two contexts hold the same of a sensor. -/
structure SameAt (id : Uuid) (s s' : Context) : Prop where
  addr : s.db.env.store.addr[id]? = s'.db.env.store.addr[id]?
  known : id ∈ s.db.sensorLog ↔ id ∈ s'.db.sensorLog
  log : s.db.env.store.log id = s'.db.env.store.log id
  sensor : s.sensors[id]? = s'.sensors[id]?

namespace SameAt

variable {id : Uuid} {self self' self'' : Context}

theorem symm (h : SameAt id self self') : SameAt id self' self :=
  ⟨h.addr.symm, h.known.symm, h.log.symm, h.sensor.symm⟩

theorem trans (h : SameAt id self self') (h' : SameAt id self' self'') : SameAt id self self'' :=
  ⟨h.addr.trans h'.addr, h.known.trans h'.known, h.log.trans h'.log, h.sensor.trans h'.sensor⟩

/-- A batch does the same to a sensor of which two contexts hold the same. -/
theorem of_updateBatch {faults faults' : Faults} {item : UpdateItem} {ctx ctx' : Context}
    (h : SameAt id self self') (hctx : updateBatch faults self item = (.ok (), ctx))
    (hctx' : updateBatch faults' self' item = (.ok (), ctx')) : SameAt id ctx ctx' := by
  obtain ⟨hset, haddr, hlogs, hsensors⟩ := Server.of_updateBatch hctx
  obtain ⟨hset', haddr', hlogs', hsensors'⟩ := Server.of_updateBatch hctx'
  refine ⟨?_, ?_, ?_, ?_⟩
  · rw [haddr, haddr', h.addr]
  · rw [hset, hset']
    exact h.known
  · have hlog := hlogs id
    rw [h.log, decide_eq_decide.mpr h.known, hlogs' id] at hlog
    exact (Option.some.inj hlog).symm
  · rw [hsensors, hsensors', getElem?_applyBatch, getElem?_applyBatch, h.sensor]

end SameAt

/-- A batch leaves the other sensors alone. -/
theorem sameAt_of_notMem {faults : Faults} {item : UpdateItem} {id : Uuid} {self self' : Context}
    (hid : id ∉ item) (h : updateBatch faults self item = (.ok (), self')) : SameAt id self self' := by
  obtain ⟨hset, haddr, hlogs, hsensors⟩ := of_updateBatch h
  have hnone : item[id]? = none := Std.ExtTreeMap.getElem?_eq_none hid
  refine ⟨?_, ?_, ?_, ?_⟩
  · rw [haddr, if_neg fun hnew => hid hnew.1]
  · rw [hset]
  · have hlog := hlogs id
    rw [hnone] at hlog
    exact Option.some.inj hlog
  · rw [hsensors, getElem?_applyBatch, hnone]

/-- The readings of a batch are later than what is in the logs of their sensors. -/
def Later (self : Context) (item : UpdateItem) : Prop :=
  ∀ (id : Uuid) (values : SensorValues), item[id]? = some (.connected values) → id ∈ self.db.sensorLog →
    (self.db.env.store.log id).fits (.new values.timestamp) = true

/-- Such a batch is processed. -/
theorem exists_updateBatch_of_later {self : Context} {item : UpdateItem} (h : Later self item) :
    ∃ self', updateBatch .none self item = (.ok (), self') := by
  apply exists_updateBatch
  intro id
  unfold appended
  split
  · rename_i values hvalues
    split
    · rename_i hknown
      rw [AppendLog.isSome_append]
      exact h id values hvalues (of_decide_eq_true hknown)
    · rfl
  · rfl

/-- A batch of other sensors does not change which readings are later. -/
theorem Later.of_updateBatch {faults : Faults} {self self' : Context} {item other : UpdateItem}
    (h : Later self item) (hdisjoint : ∀ id : Uuid, id ∈ item → id ∉ other)
    (hother : updateBatch faults self other = (.ok (), self')) : Later self' item := by
  intro id values hvalues hknown
  have hid : id ∈ item := Std.ExtTreeMap.mem_iff_isSome_getElem?.mpr (by rw [hvalues]; rfl)
  have hsame := sameAt_of_notMem (hdisjoint id hid) hother
  rw [← hsame.log]
  exact h id values hvalues (hsame.known.mpr hknown)

/-- Two batches that are processed one after the other. -/
theorem update_pair {self self₁ self₂ : Context} {item other : UpdateItem}
    (h₁ : updateBatch .none self item = (.ok (), self₁))
    (h₂ : updateBatch .none self₁ other = (.ok (), self₂)) :
    update self [(.none, item), (.none, other)] = (.ok (), self₂) := by
  simp only [update, h₁, h₂]

/-- **Batches of different sensors.** Two batches without a common sensor, whose readings are later than what is
in the logs, are processed in either order, and come to the same `id_db`, the same logs and the same sensors
in memory. The sensors in neither of them are left alone. -/
theorem update_comm {self : Context} {item other : UpdateItem}
    (hdisjoint : ∀ id : Uuid, id ∈ item → id ∉ other) (hitem : Later self item)
    (hother : Later self other) :
    ∃ ctx ctx', update self [(.none, item), (.none, other)] = (.ok (), ctx) ∧
      update self [(.none, other), (.none, item)] = (.ok (), ctx') ∧
      ctx.db.env.store.addr = ctx'.db.env.store.addr ∧
      (∀ id, ctx.db.env.store.log id = ctx'.db.env.store.log id) ∧
      ctx.sensors = ctx'.sensors ∧
      ∀ id : Uuid, id ∉ item → id ∉ other → SameAt id self ctx ∧ SameAt id self ctx' := by
  have hdisjoint' : ∀ id : Uuid, id ∈ other → id ∉ item := fun id ho hi => hdisjoint id hi ho
  obtain ⟨ctx₁, h₁⟩ := exists_updateBatch_of_later hitem
  obtain ⟨ctx, h₂⟩ := exists_updateBatch_of_later (hother.of_updateBatch hdisjoint' h₁)
  obtain ⟨ctx₁', h₁'⟩ := exists_updateBatch_of_later hother
  obtain ⟨ctx', h₂'⟩ := exists_updateBatch_of_later (hitem.of_updateBatch hdisjoint h₁')
  have hsame : ∀ id, SameAt id ctx ctx' := by
    intro id
    by_cases hid : id ∈ item
    · have hbefore := sameAt_of_notMem (hdisjoint id hid) h₁'
      exact (sameAt_of_notMem (hdisjoint id hid) h₂).symm.trans (hbefore.of_updateBatch h₁ h₂')
    · have hbefore := sameAt_of_notMem hid h₁
      exact (hbefore.symm.of_updateBatch h₂ h₁').trans (sameAt_of_notMem hid h₂')
  refine ⟨ctx, ctx', update_pair h₁ h₂, update_pair h₁' h₂', ?_, fun id => (hsame id).log, ?_, ?_⟩
  · exact Std.ExtTreeMap.ext_getElem? fun id => (hsame id).addr
  · exact Std.ExtTreeMap.ext_getElem? fun id => (hsame id).sensor
  · intro id hitem hother
    have hout := (sameAt_of_notMem hitem h₁).trans (sameAt_of_notMem hother h₂)
    exact ⟨hout, hout.trans (hsame id)⟩

/-- A batch of one connected sensor. -/
def batchOf (id : Uuid) (values : SensorValues) : UpdateItem := (∅ : UpdateItem).insert id (.connected values)

/-- It is later if the reading is. -/
theorem later_batchOf {self : Context} {id : Uuid} {values : SensorValues}
    (h : (self.db.env.store.log id).fits (.new values.timestamp) = true) : Later self (batchOf id values) := by
  intro id' values' hvalues _
  unfold batchOf at hvalues
  rw [Std.ExtTreeMap.getElem?_insert] at hvalues
  split at hvalues
  · rename_i heq
    cases Std.LawfulEqCmp.compare_eq_iff_eq.mp heq
    cases hvalues
    exact h
  · cases hvalues

/-- The theorem for two sensors that have a reading in their logs, and get another one. -/
theorem update_comm_two :
    ∃ ctx₀ self ctx ctx' : Context,
      Context.create ⟨((∅ : BTreeMap Uuid IdDbEntry).insert 1 {}).insert 2 {}, ∅⟩ = .ok ctx₀ ∧
      update ctx₀ [(.none, batchOf 1 ⟨5, -3, 100, 40⟩), (.none, batchOf 2 ⟨5, 21, 100, 50⟩)] = (.ok (), self) ∧
      update self [(.none, batchOf 1 ⟨8, -2, 101, 41⟩), (.none, batchOf 2 ⟨7, 22, 101, 51⟩)] = (.ok (), ctx) ∧
      update self [(.none, batchOf 2 ⟨7, 22, 101, 51⟩), (.none, batchOf 1 ⟨8, -2, 101, 41⟩)] = (.ok (), ctx') ∧
      ctx.db.env.store.addr = ctx'.db.env.store.addr ∧
      (∀ id, ctx.db.env.store.log id = ctx'.db.env.store.log id) ∧ ctx.sensors = ctx'.sensors ∧
      (ctx.db.env.store.log 1).entries.length = 2 ∧ (ctx.db.env.store.log 2).entries.length = 2 := by
  have hexec : ∃ ctx₀ self ctx : Context,
      Context.create ⟨((∅ : BTreeMap Uuid IdDbEntry).insert 1 {}).insert 2 {}, ∅⟩ = .ok ctx₀ ∧
      update ctx₀ [(.none, batchOf 1 ⟨5, -3, 100, 40⟩), (.none, batchOf 2 ⟨5, 21, 100, 50⟩)] = (.ok (), self) ∧
      (self.db.env.store.log 1).fits (.new 8) = true ∧ (self.db.env.store.log 2).fits (.new 7) = true ∧
      update self [(.none, batchOf 1 ⟨8, -2, 101, 41⟩), (.none, batchOf 2 ⟨7, 22, 101, 51⟩)] = (.ok (), ctx) ∧
      (ctx.db.env.store.log 1).entries.length = 2 ∧ (ctx.db.env.store.log 2).entries.length = 2 :=
    ⟨_, _, _, rfl, rfl, by decide +kernel, by decide +kernel, rfl, by decide +kernel, by decide +kernel⟩
  obtain ⟨ctx₀, self, ctx, hcreate, hself, hone, htwo, hctx, hlog, hlog'⟩ := hexec
  have hdisjoint : ∀ id : Uuid, id ∈ batchOf 1 ⟨8, -2, 101, 41⟩ → id ∉ batchOf 2 ⟨7, 22, 101, 51⟩ := by
    intro id hid
    have heq : 1 = id := by simpa [batchOf] using hid
    rw [← heq]
    simp [batchOf]
  obtain ⟨ctx₁, ctx', h, h', haddr, hlogs, hsensors, -⟩ :=
    update_comm hdisjoint (later_batchOf hone) (later_batchOf htwo)
  obtain rfl : ctx₁ = ctx := congrArg Prod.snd (h.symm.trans hctx)
  exact ⟨ctx₀, self, ctx₁, ctx', hcreate, hself, h, h', haddr, hlogs, hsensors, hlog, hlog'⟩

end BleWsCentral.Server
