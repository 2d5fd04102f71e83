import BleWsCentral.Server.Update

/-!
# The log of a sensor

What `get_log` gives of the readings that were logged.

* `LogCall`, `commitTxns` — calls of `LogTransaction::log` for any sensors, in transactions that are committed
  one after the other. A call that fails writes nothing. The log transaction of a batch is one of these
  (`eq_commitCalls_of_logBatch`).
* `Db.logged` — the readings in the log of a sensor.
* `logged_commitTxns` — readings that follow the last one are all in the log afterwards, in this order.
* `Shows` — the columns of a response are those of a list of readings; `logged_read_back` says of which one.
-/

namespace BleWsCentral.Server

open BleWsCentral.Found

/-! ## Transactions -/

/-- A call of `LogTransaction::log`, and where the backend fails in it. -/
structure LogCall where
  faults : Faults
  id : Uuid
  values : SensorValues

/-- A call; if it fails, nothing was written. -/
def logCall? (txn : LogTransaction) (call : LogCall) : LogTransaction :=
  match txn.log call.faults call.id call.values with
  | .ok txn => txn
  | .error _ => txn

/-- A transaction that is committed. -/
def commitCalls (db : Db) (calls : List LogCall) : Db := (calls.foldl logCall? db.logTxn).commit db

/-- Transactions one after the other. -/
def commitTxns (db : Db) (txns : List (List LogCall)) : Db := txns.foldl commitCalls db

/-- The readings of a sensor in these calls, in order. -/
def valuesOf (id : Uuid) (calls : List LogCall) : List SensorValues :=
  (calls.filter fun call => call.id = id).map LogCall.values

/-- The log transaction of a batch that is committed. -/
theorem eq_commitCalls_of_logBatch {faults : Faults} {db db' : Db} {item : UpdateItem}
    (h : logBatch faults db item = .ok db') :
    db' = commitCalls db ((logCalls item).map fun call => ⟨faults, call.1, call.2⟩) := by
  have hloop : ∀ (calls : List (Uuid × SensorValues)) (txn txn' : LogTransaction),
      calls.foldlM (fun txn call => txn.log faults call.1 call.2) txn = .ok txn' →
        (calls.map fun call => (⟨faults, call.1, call.2⟩ : LogCall)).foldl logCall? txn = txn' := by
    intro calls
    induction calls with
    | nil =>
        intro txn txn' h
        exact Except.ok.inj h
    | cons call calls ih =>
        intro txn txn' h
        rw [List.foldlM_cons] at h
        obtain ⟨txn₁, hcall, hrest⟩ := bind_eq_ok.mp h
        rw [List.map_cons, List.foldl_cons, ← ih txn₁ txn' hrest]
        simp only [logCall?, hcall]
  rw [logBatch_eq] at h
  obtain ⟨-, -, h⟩ := bind_eq_ok.mp h
  obtain ⟨txn, hfold, h⟩ := bind_eq_ok.mp h
  obtain ⟨-, -, h⟩ := bind_eq_ok.mp h
  rw [← Except.ok.inj h, commitCalls, hloop _ _ _ hfold]

/-! ## Readings -/

/-- The reading an entry holds. -/
def ofEntry (e : LEU32 × RawSensorValues) : SensorValues where
  timestamp := e.1.get
  temperature := e.2.temperature
  pressure := e.2.pressure
  humidity := e.2.humidity

/-- The entry of a reading. -/
def toEntry (values : SensorValues) : LEU32 × RawSensorValues := (.new values.timestamp, values.toRaw)

/-- The readings in the log of a sensor. -/
def Db.logged (db : Db) (id : Uuid) : List SensorValues := (db.env.store.log id).entries.map ofEntry

theorem ofEntry_toEntry (values : SensorValues) : ofEntry (toEntry values) = values := by
  simp [toEntry, ofEntry, SensorValues.toRaw]

/-- Readings with increasing timestamps. -/
def Chronological (readings : List SensorValues) : Prop :=
  readings.Pairwise fun values values' => values.timestamp < values'.timestamp

theorem chronological_entries (log : SensorLog) : Chronological (log.entries.map ofEntry) := by
  rw [Chronological, List.pairwise_map]
  refine log.sorted.imp fun {e e'} hlt => ?_
  rw [← LEU32.compare_new_eq_lt]
  simpa only [ofEntry, LEU32.new_get] using hlt

/-- The readings of a log are in order. -/
theorem chronological_logged (db : Db) (id : Uuid) : Chronological (db.logged id) :=
  chronological_entries (db.env.store.log id)

/-- A reading that is later than those of the log may be appended. -/
theorem fits_of_chronological {log : SensorLog} {values : SensorValues}
    (h : Chronological (log.entries.map ofEntry ++ [values])) :
    log.fits (.new values.timestamp) = true := by
  rw [AppendLog.fits_iff]
  intro k hk
  obtain ⟨e, he, rfl⟩ := Option.map_eq_some_iff.mp hk
  have hlt := (List.pairwise_append.mp h).2.2 (ofEntry e)
    (List.mem_map_of_mem (List.mem_of_getLast? he)) values (List.mem_singleton_self _)
  rw [← LEU32.new_get e.1]
  exact LEU32.compare_new_eq_lt.mpr hlt

/-! ## Calls -/

section Calls

variable {id : Uuid} {txn : LogTransaction} {call : LogCall}

/-- The readings in a log of a transaction. -/
def LogTransaction.logged (txn : LogTransaction) (id : Uuid) : List SensorValues :=
  (txn.txn.log id).entries.map ofEntry

/-- A call leaves the other logs alone, and does not open or close one. -/
theorem logCall?_frame (txn : LogTransaction) (call : LogCall) :
    (logCall? txn call).sensorValues = txn.sensorValues ∧
      ∀ id, call.id ≠ id → (logCall? txn call).logged id = txn.logged id := by
  unfold logCall? LogTransaction.log
  split
  · rename_i txn' h
    split at h
    · obtain ⟨-, -, h⟩ := bind_eq_ok.mp h
      split at h
      · cases h
      · cases h
        refine ⟨rfl, fun id hid => ?_⟩
        simp [LogTransaction.logged, hid]
    · cases h
      exact ⟨rfl, fun _ _ => rfl⟩
  · exact ⟨rfl, fun _ _ => rfl⟩

/-- A reading that is later than those of its log is appended, unless the backend fails. -/
theorem logged_logCall? (hid : call.id ∈ txn.sensorValues)
    (hfaults : call.faults (.append call.id) = false)
    (h : Chronological (txn.logged call.id ++ [call.values])) :
    (logCall? txn call).logged call.id = txn.logged call.id ++ [call.values] := by
  obtain ⟨log, hlog⟩ : ∃ log, (txn.txn.log call.id).append (.new call.values.timestamp)
      call.values.toRaw = some log :=
    Option.isSome_iff_exists.mp (AppendLog.isSome_append.trans (fits_of_chronological h))
  have hcall : logCall? txn call = { txn with txn := txn.txn.setLog call.id log } := by
    simp [logCall?, LogTransaction.log, hid, Faults.check, hfaults, hlog, bind, Except.bind]
  have hentries := (AppendLog.append_eq_some.mp hlog).2
  have hentry : ofEntry (.new call.values.timestamp, call.values.toRaw) = call.values :=
    ofEntry_toEntry call.values
  rw [hcall]
  simp only [LogTransaction.logged, Store.setLog_log, if_pos, hentries, List.map_append, List.map_cons,
    List.map_nil, hentry]

/-- Readings that are later than those of the log and increase are all appended. -/
theorem logged_foldl (hid : id ∈ txn.sensorValues) (calls : List LogCall)
    (hfaults : ∀ call ∈ calls, call.id = id → call.faults (.append id) = false)
    (h : Chronological (txn.logged id ++ valuesOf id calls)) :
    (calls.foldl logCall? txn).sensorValues = txn.sensorValues ∧
      (calls.foldl logCall? txn).logged id = txn.logged id ++ valuesOf id calls := by
  induction calls generalizing txn with
  | nil => exact ⟨rfl, by simp [valuesOf]⟩
  | cons call calls ih =>
      rw [List.forall_mem_cons] at hfaults
      obtain ⟨hset, hother⟩ := logCall?_frame txn call
      rw [List.foldl_cons]
      by_cases hcall : call.id = id
      · subst hcall
        have hvalues : valuesOf call.id (call :: calls) = call.values :: valuesOf call.id calls := by
          simp [valuesOf]
        rw [hvalues, List.append_cons] at h ⊢
        have hlogged := logged_logCall? hid (hfaults.1 rfl) (List.pairwise_append.mp h).1
        rw [← hset] at hid ⊢
        rw [← hlogged] at h ⊢
        exact ih hid hfaults.2 h
      · have hvalues : valuesOf id (call :: calls) = valuesOf id calls := by
          simp [valuesOf, hcall]
        rw [hvalues] at h ⊢
        rw [← hset] at hid ⊢
        rw [← hother id hcall] at h ⊢
        exact ih hid hfaults.2 h

end Calls

/-- **Logging.** Readings of a sensor with a log that are later than those of the log and increase are all in
the log after the transactions are committed, behind the others and in their order. -/
theorem logged_commitTxns {db : Db} {id : Uuid} (hid : id ∈ db.sensorLog) (txns : List (List LogCall))
    (hfaults : ∀ calls ∈ txns, ∀ call ∈ calls, call.id = id → call.faults (.append id) = false)
    (h : Chronological (db.logged id ++ valuesOf id txns.flatten)) :
    id ∈ (commitTxns db txns).sensorLog ∧
      (commitTxns db txns).logged id = db.logged id ++ valuesOf id txns.flatten := by
  induction txns generalizing db with
  | nil => exact ⟨hid, by simp [commitTxns, valuesOf]⟩
  | cons calls txns ih =>
      rw [List.forall_mem_cons] at hfaults
      have hvalues : valuesOf id (calls :: txns).flatten =
          valuesOf id calls ++ valuesOf id txns.flatten := by
        simp [valuesOf]
      rw [hvalues, ← List.append_assoc] at h ⊢
      have htxn : id ∈ db.logTxn.sensorValues := hid
      obtain ⟨-, hlogged⟩ := logged_foldl htxn calls hfaults.1 (List.pairwise_append.mp h).1
      have hcommit : (commitCalls db calls).logged id = db.logged id ++ valuesOf id calls := hlogged
      have hid' : id ∈ (commitCalls db calls).sensorLog := hid
      rw [← hcommit] at h ⊢
      exact ih hid' hfaults.2 h

/-! ## Reading a log -/

/-- The columns of a response are those of the readings. -/
structure Shows (resp : SensorDataResponse) (readings : List SensorValues) : Prop where
  time : resp.time = readings.map SensorValues.timestamp
  temperature : resp.temperature.map Int32.toInt =
    readings.map fun values => values.temperature.toInt
  pressure : resp.pressure = readings.map SensorValues.pressure
  humidity : resp.humidity.map UInt32.toNat = readings.map fun values => values.humidity.toNat

/-- They have one length. -/
theorem Shows.length {resp : SensorDataResponse} {readings : List SensorValues}
    (h : Shows resp readings) :
    resp.time.length = readings.length ∧ resp.temperature.length = readings.length ∧
      resp.pressure.length = readings.length ∧ resp.humidity.length = readings.length := by
  have htemperature := congrArg List.length h.temperature
  have hhumidity := congrArg List.length h.humidity
  rw [List.length_map, List.length_map] at htemperature hhumidity
  rw [h.time, h.pressure, List.length_map, List.length_map]
  exact ⟨rfl, htemperature, rfl, hhumidity⟩

/-- The columns of log entries. -/
theorem shows_columns (rows : List (LEU32 × RawSensorValues)) :
    Shows (Db.columns rows) (rows.map ofEntry) where
  time := by simp [Db.columns, ofEntry]
  temperature := by
    simp only [Db.columns, List.map_map]
    refine List.map_congr_left fun row _ => ?_
    exact Int16.toInt_toInt32 _
  pressure := by simp [Db.columns, ofEntry]
  humidity := by
    simp only [Db.columns, List.map_map]
    refine List.map_congr_left fun row _ => ?_
    exact UInt16.toNat_toUInt32 _

/-- The readings from `start` on and before `stop`. -/
def within (start stop : Timestamp) (readings : List SensorValues) : List SensorValues :=
  readings.filter fun values => start ≤ values.timestamp ∧ values.timestamp < stop

/-- The keys of a range are those of the times in it. -/
theorem map_ofEntry_range (log : SensorLog) (start stop : Timestamp) :
    (log.range (.new start) (.new stop)).map ofEntry = within start stop (log.entries.map ofEntry) := by
  rw [within, List.filter_map, AppendLog.range]
  refine congrArg (List.map ofEntry) (List.filter_congr fun e _ => ?_)
  have hkey : e.1 = .new (ofEntry e).timestamp := (LEU32.new_get _).symm
  rw [hkey, LEU32.compare_new, LEU32.compare_new, Bool.eq_iff_iff]
  simp [Std.compare_eq_lt, Std.isLE_compare]

/-- The first readings, or all of them if there is no limit. -/
def upTo (limit : Option ℕ) (readings : List SensorValues) : List SensorValues :=
  match limit with
  | none => readings
  | some n => readings.take n

/-- What `get_log` gives of the readings in the log of a sensor. -/
theorem exists_getLog {db : Db} {id : Uuid} (hid : id ∈ db.sensorLog) (start stop : Timestamp)
    (limit : Option ℕ) :
    ∃ resp, db.getLog db.readTxn id start stop limit = some resp ∧
      Shows resp (upTo limit (within start stop (db.logged id))) := by
  have hrows := map_ofEntry_range (db.env.store.log id) start stop
  rw [Db.logged, ← hrows]
  cases limit with
  | none => exact ⟨_, Db.getLog_none hid, shows_columns _⟩
  | some n =>
      refine ⟨_, if_pos hid, ?_⟩
      rw [upTo, ← List.map_take]
      exact shows_columns _

/-- **Reading back.** After log transactions for any sensors, `get_log` gives of a sensor with a log the readings
of a range, in the order of their times, up to the limit. They are those that were in the log and those that
were logged since, provided these are later than the former and increase, and the backend does not fail to
append them. -/
theorem logged_read_back {db : Db} {id : Uuid} (hid : id ∈ db.sensorLog) (txns : List (List LogCall))
    (hfaults : ∀ calls ∈ txns, ∀ call ∈ calls, call.id = id → call.faults (.append id) = false)
    (h : Chronological (db.logged id ++ valuesOf id txns.flatten)) (start stop : Timestamp)
    (limit : Option ℕ) :
    ∃ resp, (commitTxns db txns).getLog (commitTxns db txns).readTxn id start stop limit = some resp ∧
      Shows resp (upTo limit (within start stop (db.logged id ++ valuesOf id txns.flatten))) ∧
      resp.time.Pairwise (· < ·) ∧
      resp.temperature.length = resp.time.length ∧ resp.pressure.length = resp.time.length ∧
      resp.humidity.length = resp.time.length := by
  obtain ⟨hid', hlogged⟩ := logged_commitTxns hid txns hfaults h
  obtain ⟨resp, hget, hshows⟩ := exists_getLog hid' start stop limit
  rw [hlogged] at hshows
  have hsub : (upTo limit (within start stop (db.logged id ++ valuesOf id txns.flatten))).Sublist
      (db.logged id ++ valuesOf id txns.flatten) := by
    cases limit with
    | none => exact List.filter_sublist
    | some n => exact (List.take_sublist n _).trans List.filter_sublist
  obtain ⟨htime, htemperature, hpressure, hhumidity⟩ := hshows.length
  refine ⟨resp, hget, hshows, ?_, htemperature.trans htime.symm, hpressure.trans htime.symm,
    hhumidity.trans htime.symm⟩
  rw [hshows.time, List.pairwise_map]
  exact h.sublist hsub

/-- The theorem for an empty log of sensor 1, and calls for sensors 1 and 2. -/
theorem logged_read_back_two :
    ∃ (db : Db) (resp : SensorDataResponse), db.getLog db.readTxn 1 5 7 none = some resp ∧
      Shows resp [⟨5, -3, 100, 40⟩, ⟨6, 1, 101, 41⟩] := by
  have hid : (1 : Uuid) ∈ (⟨⟨200, [], ⟨∅, ∅⟩⟩, .insert ∅ 1⟩ : Db).sensorLog := by simp
  obtain ⟨resp, hget, hshows, -⟩ := logged_read_back hid
    [[⟨.none, 1, ⟨5, -3, 100, 40⟩⟩, ⟨.none, 2, ⟨9, 0, 0, 0⟩⟩], [⟨.none, 1, ⟨6, 1, 101, 41⟩⟩]]
    (by simp [Faults.none]) (by simp [Db.logged, Store.log, AppendLog.empty, valuesOf, Chronological])
    5 7 none
  exact ⟨_, resp, hget, hshows⟩

end BleWsCentral.Server
