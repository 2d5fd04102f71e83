import BleWsCentral.Found.KeyedFold
import BleWsCentral.Server.Context

/-!
# The update task

`tasks::update`: for every batch, the new sensors are memorized in `id_db`, the readings are appended
to the logs, and the states are put into the sensors in memory.

* `memorizeRead`, `memorizeWrite`, `logBatch`, `applyBatch` — the four parts of the loop body, between
  which other tasks run, each with what it does to the entry, the log and the state of one sensor.
* `updateBatch`, `update` — the loop body and the loop. An error ends the task, and what was committed
  before it stays.
* `of_updateBatch` — what processing a batch does, one sensor at a time.
-/

namespace BleWsCentral.Server

open BleWsCentral.Found

/-! ## The parts of the loop body -/

/-- A turn of the loop over the ids of a batch. -/
def noteNew (faults : Faults) (txn : Store) (newSensors : List Uuid) (addr : Uuid) :
    Except DbError (List Uuid) := do
  faults.check (.getAddr addr)
  if (Db.getAddr txn addr).isNone then .ok (newSensors ++ [addr]) else .ok newSensors

/-- The read transaction: the ids of the batch that are not known yet. -/
def memorizeRead (faults : Faults) (db : Db) (update : UpdateItem) : Except DbError (List Uuid) := do
  faults.check .readTxn
  update.keys.foldlM (noteNew faults db.readTxn) []

/-- A turn of the loop over the new sensors. -/
def putDefault (faults : Faults) (txn : Store) (addr : Uuid) : Except DbError Store := do
  faults.check (.putAddr addr)
  .ok (txn.putAddr addr {})

/-- The write transaction, which is left out when there is nothing new. -/
def memorizeWrite (faults : Faults) (db : Db) (newSensors : List Uuid) : Except DbError Db :=
  if newSensors.isEmpty then .ok db
  else do
    faults.check .writeTxn
    let txn ← newSensors.foldlM (putDefault faults) db.writeTxn
    faults.check .commitAddrs
    .ok (db.commit txn)

/-- A turn of the loop over the entries of a batch. -/
def logState (faults : Faults) (txn : LogTransaction) (entry : Uuid × SensorState) :
    Except DbError LogTransaction :=
  match entry with
  | (addr, .connected values) => txn.log faults addr values
  | (_, .unconnected) => .ok txn

/-- The log transaction. -/
def logBatch (faults : Faults) (db : Db) (update : UpdateItem) : Except DbError Db := do
  faults.check .logTxn
  let txn ← update.toList.foldlM (logState faults) db.logTxn
  faults.check .commitLog
  .ok (txn.commit db)

/-- A turn of the loop in the closure handed to `modify_sensors`. -/
def setState (sensors : Sensors) (entry : Uuid × SensorState) : Sensors :=
  match sensors[entry.1]? with
  | some sensor => sensors.insert entry.1 { sensor with state := entry.2 }
  | none => sensors.insert entry.1 { label := none, state := entry.2 }

/-- The closure handed to `modify_sensors`. -/
def applyBatch (update : UpdateItem) (sensors : Sensors) : Sensors :=
  update.toList.foldl setState sensors

/-- The body of the loop in `update`. -/
def updateBatch (faults : Faults) (self : Context) (update : UpdateItem) :
    Except DbError Unit × Context :=
  match memorizeRead faults self.db update with
  | .error e => (.error e, self)
  | .ok newSensors =>
      match memorizeWrite faults self.db newSensors with
      | .error e => (.error e, self)
      | .ok db =>
          match logBatch faults db update with
          | .error e => (.error e, { self with db })
          | .ok db => (.ok (), { self with db }.modifySensors (applyBatch update))

/-- `update`, on the batches its source yields; with each batch comes where the backend fails. -/
def update : Context → List (Faults × UpdateItem) → Except DbError Unit × Context
  | self, [] => (.ok (), self)
  | self, (faults, item) :: updates =>
      match updateBatch faults self item with
      | (.error e, self) => (.error e, self)
      | (.ok (), self) => update self updates

/-- The loop body as a step that fails when the task ends. -/
def updateStep (self : Context) (item : Faults × UpdateItem) : Except DbError Context :=
  match updateBatch item.1 self item.2 with
  | (.error e, _) => .error e
  | (.ok (), self) => .ok self

theorem updateStep_eq_ok {self self' : Context} {item : Faults × UpdateItem} :
    updateStep self item = .ok self' ↔ updateBatch item.1 self item.2 = (.ok (), self') := by
  unfold updateStep
  split
  · rename_i h
    simp [h]
  · rename_i h
    simp [h]

/-- A source whose batches are all processed is a run of the loop body. -/
theorem update_eq_ok {self self' : Context} {items : List (Faults × UpdateItem)} :
    update self items = (.ok (), self') ↔ Run (Fallible updateStep) self items self' := by
  induction items generalizing self with
  | nil => simp [update, Run.nil_iff]
  | cons item items ih =>
      rw [Run.cons_iff, update]
      cases hbatch : updateBatch item.1 self item.2 with
      | mk res ctx =>
          cases res with
          | error e => simp [Fallible, updateStep, hbatch]
          | ok u => simp [Fallible, updateStep, hbatch, ih]

/-! ## The readings of a batch -/

/-- The reading of a sensor in a batch. -/
def reading (item : UpdateItem) (id : Uuid) : Option SensorValues :=
  match item[id]? with
  | some (.connected values) => some values
  | _ => none

theorem reading_eq_some {item : UpdateItem} {id : Uuid} {values : SensorValues} :
    reading item id = some values ↔ item[id]? = some (.connected values) := by
  unfold reading
  split <;> simp_all

/-- The call of `LogTransaction::log` for an entry. -/
def logCall : Uuid × SensorState → Option (Uuid × SensorValues)
  | (id, .connected values) => some (id, values)
  | (_, .unconnected) => none

/-- The calls of `LogTransaction::log` for a batch, in order. -/
def logCalls (item : UpdateItem) : List (Uuid × SensorValues) := item.toList.filterMap logCall

/-- The log transaction makes these calls, and no others. -/
theorem logBatch_eq (faults : Faults) (db : Db) (item : UpdateItem) :
    logBatch faults db item = (do
      faults.check .logTxn
      let txn ← (logCalls item).foldlM (fun txn call => txn.log faults call.1 call.2) db.logTxn
      faults.check .commitLog
      .ok (txn.commit db)) := by
  have hloop : ∀ (entries : List (Uuid × SensorState)) (txn : LogTransaction),
      entries.foldlM (logState faults) txn =
        (entries.filterMap logCall).foldlM (fun txn call => txn.log faults call.1 call.2) txn := by
    intro entries
    induction entries with
    | nil => exact fun _ => rfl
    | cons entry entries ih =>
        intro txn
        rcases entry with ⟨id, values | _⟩
        · rw [List.foldlM_cons, List.filterMap_cons_some (f := logCall) rfl, List.foldlM_cons]
          exact congrArg _ (funext ih)
        · rw [List.foldlM_cons, List.filterMap_cons_none (f := logCall) rfl]
          exact ih txn
  rw [logBatch, logCalls]
  simp only [hloop]

/-- There is one call for a sensor with a reading, and none for another one. -/
theorem filter_logCalls (item : UpdateItem) (id : Uuid) :
    (logCalls item).filter (fun call => call.1 = id) =
      (reading item id).toList.map fun values => (id, values) := by
  have hmem : ∀ entries : List (Uuid × SensorState), (∀ values, (id, .connected values) ∉ entries) →
      (entries.filterMap logCall).filter (fun call => call.1 = id) = [] := by
    intro entries h
    rw [List.filter_eq_nil_iff]
    intro call hcall hid
    obtain ⟨⟨id', values | _⟩, hentry, hsome⟩ := List.mem_filterMap.mp hcall
    · cases hsome
      obtain rfl : id' = id := of_decide_eq_true hid
      exact h values hentry
    · cases hsome
  cases hreading : reading item id with
  | none =>
      apply hmem _
      intro values hvalues
      rw [mem_toList, ← reading_eq_some, hreading] at hvalues
      cases hvalues
  | some values =>
      have hentry : (id, SensorState.connected values) ∈ item.toList :=
        mem_toList.mpr (reading_eq_some.mp hreading)
      obtain ⟨before, after, hsplit⟩ := List.append_of_mem hentry
      have hnd := nodup_keys_toList item
      rw [hsplit, List.map_append, List.map_cons, List.nodup_append, List.nodup_cons] at hnd
      obtain ⟨-, ⟨hafter, -⟩, hbefore⟩ := hnd
      have hkey : ∀ (entries : List (Uuid × SensorState)) values,
          (id, SensorState.connected values) ∈ entries → id ∈ entries.map Prod.fst :=
        fun entries values h => List.mem_map.mpr ⟨_, h, rfl⟩
      have hnone : ∀ values, (id, SensorState.connected values) ∉ before ∧
          (id, SensorState.connected values) ∉ after := by
        refine fun values => ⟨fun h => ?_, fun h => hafter (hkey _ _ h)⟩
        exact hbefore id (hkey _ _ h) id List.mem_cons_self rfl
      have hcalls : logCalls item =
          before.filterMap logCall ++ (id, values) :: after.filterMap logCall := by
        rw [logCalls, hsplit, List.filterMap_append, List.filterMap_cons_some (f := logCall) rfl]
      rw [hcalls, List.filter_append, hmem before fun values => (hnone values).1,
        List.filter_cons_of_pos (by simp), hmem after fun values => (hnone values).2]
      rfl

/-- The timestamps that `update` passes to `LogTransaction::log` for a sensor, in order. -/
def loggedTimestamps (items : List UpdateItem) (id : Uuid) : List Timestamp :=
  items.flatMap fun item =>
    ((logCalls item).filter fun call => call.1 = id).map fun call => call.2.timestamp

theorem loggedTimestamps_eq (items : List UpdateItem) (id : Uuid) :
    loggedTimestamps items id =
      items.filterMap fun item => (reading item id).map SensorValues.timestamp := by
  induction items with
  | nil => rfl
  | cons item items ih =>
      rw [loggedTimestamps, List.flatMap_cons, ← loggedTimestamps, ih, filter_logCalls]
      cases hreading : reading item id <;> simp [hreading]

/-! ## What the parts do -/

section Parts

variable {faults : Faults} {db db' : Db} {item : UpdateItem} {newSensors : List Uuid} {id : Uuid}

/-- The read collects the ids that are not in `id_db`, in the order of the batch. -/
theorem of_memorizeRead (h : memorizeRead faults db item = .ok newSensors) :
    newSensors = item.keys.filter fun id => (db.env.store.addr[id]?).isNone := by
  obtain ⟨-, -, h⟩ := bind_eq_ok.mp h
  have hloop : ∀ (ids seen : List Uuid) (r : List Uuid),
      ids.foldlM (noteNew faults db.readTxn) seen = .ok r →
        r = seen ++ ids.filter fun id => (db.env.store.addr[id]?).isNone := by
    intro ids
    induction ids with
    | nil =>
        intro seen r h
        cases h
        simp
    | cons id ids ih =>
        intro seen r h
        rw [List.foldlM_cons] at h
        obtain ⟨seen', hnote, hrest⟩ := bind_eq_ok.mp h
        obtain ⟨-, -, hnote⟩ := bind_eq_ok.mp hnote
        rw [ih seen' r hrest]
        split at hnote
        · rename_i hnew
          replace hnew : (db.env.store.addr[id]?).isNone = true := hnew
          cases hnote
          simp [hnew]
        · rename_i hold
          replace hold : ¬ (db.env.store.addr[id]?).isNone = true := hold
          cases hnote
          simp [hold]
  simpa using hloop item.keys [] newSensors h

theorem mem_of_memorizeRead (h : memorizeRead faults db item = .ok newSensors) :
    id ∈ newSensors ↔ id ∈ item ∧ db.env.store.addr[id]? = none := by
  rw [of_memorizeRead h, List.mem_filter, Std.ExtTreeMap.mem_keys, Option.isNone_iff_eq_none]

theorem nodup_of_memorizeRead (h : memorizeRead faults db item = .ok newSensors) :
    newSensors.Nodup := by
  rw [of_memorizeRead h]
  exact (nodup_keys item).filter _

/-- The read succeeds if the backend does not fail at it, or at an id of the batch. -/
theorem exists_memorizeRead_iff :
    (∃ newSensors, memorizeRead faults db item = .ok newSensors) ↔
      faults .readTxn = false ∧ ∀ id ∈ item, faults (.getAddr id) = false := by
  have hturn : ∀ seen id, (∃ seen', noteNew faults db.readTxn seen id = .ok seen') ↔
      faults (.getAddr id) = false := by
    intro seen id
    rw [noteNew, Faults.exists_check_bind, and_iff_left_iff_imp]
    intro
    split
    · exact ⟨_, rfl⟩
    · exact ⟨_, rfl⟩
  rw [memorizeRead, Faults.exists_check_bind, exists_foldlM_iff hturn]
  simp only [Std.ExtTreeMap.mem_keys]

/-- A turn of the loop over the new sensors writes a default entry, and leaves the logs alone. -/
theorem keyed_putDefault :
    Keyed (fun id : Uuid => id) (fun (txn : Store) id => (txn.addr[id]?, txn.log id))
      (putDefault faults) fun _ e => some (some {}, e.2) where
  at_key s a t h := by
    obtain ⟨-, -, h⟩ := bind_eq_ok.mp h
    cases h
    simp
  at_other s a t h k hk := by
    obtain ⟨-, -, h⟩ := bind_eq_ok.mp h
    cases h
    simp [Ne.symm hk]

/-- The write gives the new sensors a default entry, and does nothing else. -/
theorem of_memorizeWrite (hnd : newSensors.Nodup)
    (h : memorizeWrite faults db newSensors = .ok db') :
    db'.sensorLog = db.sensorLog ∧ (∀ id, db'.env.store.log id = db.env.store.log id) ∧
      ∀ id, db'.env.store.addr[id]? =
        if id ∈ newSensors then some {} else db.env.store.addr[id]? := by
  unfold memorizeWrite at h
  split at h
  · rename_i hnil
    cases h
    simp [List.isEmpty_iff.mp hnil]
  · obtain ⟨-, -, h⟩ := bind_eq_ok.mp h
    obtain ⟨txn, hfold, h⟩ := bind_eq_ok.mp h
    obtain ⟨-, -, h⟩ := bind_eq_ok.mp h
    cases h
    have hentry : ∀ id, (txn.addr[id]?, txn.log id) =
        if id ∈ newSensors then (some {}, db.env.store.log id)
        else (db.env.store.addr[id]?, db.env.store.log id) := by
      intro id
      split
      · rename_i hmem
        have := keyed_putDefault.of_foldlM (by simpa using hnd) hfold hmem
        simpa [Db.writeTxn, eq_comm] using this
      · rename_i hmem
        exact keyed_putDefault.of_foldlM_of_notMem hfold (by simpa using hmem)
    refine ⟨rfl, fun id => ?_, fun id => ?_⟩
    · have := congrArg Prod.snd (hentry id)
      simp only at this
      rw [Db.commit_store, this]
      split <;> rfl
    · have := congrArg Prod.fst (hentry id)
      simp only at this
      rw [Db.commit_store, this]
      split <;> rfl

/-- The write succeeds if there is nothing new, or the backend does not fail at it or at a new sensor. -/
theorem exists_memorizeWrite_iff :
    (∃ db', memorizeWrite faults db newSensors = .ok db') ↔
      newSensors = [] ∨ faults .writeTxn = false ∧ (∀ id ∈ newSensors, faults (.putAddr id) = false) ∧
        faults .commitAddrs = false := by
  have hturn : ∀ txn id, (∃ txn', putDefault faults txn id = .ok txn') ↔
      faults (.putAddr id) = false := by
    intro txn id
    rw [putDefault, Faults.exists_check_bind, and_iff_left_iff_imp]
    exact fun _ => ⟨_, rfl⟩
  have hcommit : ∀ txn, (∃ db', (do
      faults.check .commitAddrs
      Except.ok (db.commit txn)) = .ok db') ↔ faults .commitAddrs = false := by
    intro txn
    rw [Faults.exists_check_bind, and_iff_left_iff_imp]
    exact fun _ => ⟨_, rfl⟩
  unfold memorizeWrite
  split
  · rename_i hnil
    exact iff_of_true ⟨db, rfl⟩ (.inl (List.isEmpty_iff.mp hnil))
  · rename_i hnew
    rw [Faults.exists_check_bind, exists_bind_eq_ok, or_iff_right (mt List.isEmpty_iff.mpr hnew),
      ← exists_foldlM_iff hturn newSensors db.writeTxn]
    simp only [hcommit, exists_and_right]

/-- What a log becomes by the state of its sensor in a batch: a reading is appended if the sensor has
a log. -/
def appended (known : Bool) (state : Option SensorState) (log : SensorLog) : Option SensorLog :=
  match state with
  | some (.connected values) =>
      if known then log.append (.new values.timestamp) values.toRaw else some log
  | _ => some log

/-- A turn of the loop over the entries of a batch works on the log of its sensor. -/
theorem keyed_logState :
    Keyed Prod.fst
      (fun (txn : LogTransaction) id => (decide (id ∈ txn.sensorValues), txn.txn.log id))
      (logState faults)
      fun e (known, log) => (appended known (some e.2) log).map fun log => (known, log) where
  at_key s e t h := by
    obtain ⟨id, state⟩ := e
    cases state with
    | unconnected =>
        cases h
        simp [appended]
    | connected values =>
        simp only [logState, LogTransaction.log] at h
        split at h
        · rename_i hknown
          obtain ⟨-, -, h⟩ := bind_eq_ok.mp h
          split at h
          · cases h
          · rename_i log happend
            cases h
            simp [appended, hknown, happend]
        · rename_i hunknown
          cases h
          simp [appended, hunknown]
  at_other s e t h k hk := by
    obtain ⟨id, state⟩ := e
    cases state with
    | unconnected =>
        cases h
        rfl
    | connected values =>
        simp only [logState, LogTransaction.log] at h
        split at h
        · obtain ⟨-, -, h⟩ := bind_eq_ok.mp h
          split at h
          · cases h
          · cases h
            simp [Ne.symm hk]
        · cases h
          rfl

/-- The loop over the entries of a batch leaves `id_db` alone. -/
theorem logState_addr {l : List (Uuid × SensorState)} {txn txn' : LogTransaction}
    (h : l.foldlM (logState faults) txn = .ok txn') : txn'.txn.addr = txn.txn.addr := by
  refine (run_fallible_iff.mpr h).invariant (I := fun t => t.txn.addr = txn.txn.addr) ?_ rfl
  rintro s ⟨id, state⟩ t hs hstep
  cases state with
  | unconnected =>
      cases hstep
      exact hs
  | connected values =>
      simp only [Fallible, logState, LogTransaction.log] at hstep
      split at hstep
      · obtain ⟨-, -, hstep⟩ := bind_eq_ok.mp hstep
        split at hstep
        · cases hstep
        · cases hstep
          exact hs
      · cases hstep
        exact hs

/-- A log transaction appends the readings of the sensors that have a log, and does nothing else. -/
theorem of_logBatch (h : logBatch faults db item = .ok db') :
    db'.sensorLog = db.sensorLog ∧ db'.env.store.addr = db.env.store.addr ∧
      ∀ id, appended (decide (id ∈ db.sensorLog)) item[id]? (db.env.store.log id) =
        some (db'.env.store.log id) := by
  obtain ⟨-, -, h⟩ := bind_eq_ok.mp h
  obtain ⟨txn, hfold, h⟩ := bind_eq_ok.mp h
  obtain ⟨-, -, h⟩ := bind_eq_ok.mp h
  cases h
  refine ⟨rfl, logState_addr hfold, fun id => ?_⟩
  cases hid : item[id]? with
  | none =>
      have hnot : id ∉ item.toList.map Prod.fst := by
        rw [Std.ExtTreeMap.map_fst_toList_eq_keys, Std.ExtTreeMap.mem_keys,
          Std.ExtTreeMap.mem_iff_isSome_getElem?, hid]
        simp
      have := congrArg Prod.snd (keyed_logState.of_foldlM_of_notMem hfold hnot)
      simp only at this
      rw [LogTransaction.commit, Db.commit_store, this]
      rfl
  | some state =>
      have := keyed_logState.of_foldlM (nodup_keys_toList item) hfold (mem_toList.mpr hid)
      simp only [Option.map_eq_some_iff, Prod.mk.injEq] at this
      obtain ⟨log, hlog, -, rfl⟩ := this
      exact hlog

/-- Whether an entry can be logged, by whether its sensor has a log, and by what is in it. -/
def Loggable (faults : Faults) (e : Uuid × SensorState) (log : Bool × SensorLog) : Prop :=
  ∀ values, e.2 = .connected values → log.1 = true →
    faults (.append e.1) = false ∧ log.2.fits (.new values.timestamp) = true

theorem exists_logState_iff (txn : LogTransaction) (e : Uuid × SensorState) :
    (∃ txn', logState faults txn e = .ok txn') ↔
      Loggable faults e (decide (e.1 ∈ txn.sensorValues), txn.txn.log e.1) := by
  obtain ⟨id, state⟩ := e
  cases state with
  | unconnected =>
      refine iff_of_true ⟨txn, rfl⟩ ?_
      intro values hvalues
      cases hvalues
  | connected values =>
      simp only [Loggable, logState, LogTransaction.log, SensorState.connected.injEq, forall_eq',
        decide_eq_true_eq]
      split
      · rename_i hknown
        rw [Faults.exists_check_bind, forall_prop_of_true hknown, ← AppendLog.isSome_append]
        cases (txn.txn.log id).append (.new values.timestamp) values.toRaw <;> simp
      · rename_i hunknown
        exact iff_of_true ⟨txn, rfl⟩ fun hknown => absurd hknown hunknown

/-- The backend does not fail at the log transaction, nor at a reading of a sensor that has a log, and each of
these is later than what is in the log. -/
def LogsBatch (faults : Faults) (db : Db) (item : UpdateItem) : Prop :=
  faults .logTxn = false ∧
    (∀ (id : Uuid) (values : SensorValues), item[id]? = some (.connected values) → id ∈ db.sensorLog →
      faults (.append id) = false ∧ (db.env.store.log id).fits (.new values.timestamp) = true) ∧
    faults .commitLog = false

/-- This is when a log transaction succeeds. -/
theorem exists_logBatch_iff : (∃ db', logBatch faults db item = .ok db') ↔ LogsBatch faults db item := by
  have hcommit : ∀ txn : LogTransaction, (∃ db', (do
      faults.check .commitLog
      Except.ok (txn.commit db)) = .ok db') ↔ faults .commitLog = false := by
    intro txn
    rw [Faults.exists_check_bind, and_iff_left_iff_imp]
    exact fun _ => ⟨_, rfl⟩
  have hloop : (∃ txn, item.toList.foldlM (logState faults) db.logTxn = .ok txn) ↔
      ∀ (id : Uuid) (values : SensorValues), item[id]? = some (.connected values) → id ∈ db.sensorLog →
        faults (.append id) = false ∧ (db.env.store.log id).fits (.new values.timestamp) = true := by
    rw [keyed_logState.exists_foldlM_iff exists_logState_iff (nodup_keys_toList item)]
    constructor
    · intro hall id values hvalues hknown
      exact hall (id, .connected values) (mem_toList.mpr hvalues) values rfl (decide_eq_true hknown)
    · rintro hall ⟨id, state⟩ hmem values rfl hknown
      exact hall id values (mem_toList.mp hmem) (of_decide_eq_true hknown)
  rw [logBatch, Faults.exists_check_bind, exists_bind_eq_ok, LogsBatch, ← hloop]
  simp only [hcommit, exists_and_right]

/-- The batch sets the states of its sensors, and adds the ones that were not there. -/
theorem getElem?_applyBatch (sensors : Sensors) :
    (applyBatch item sensors)[id]? =
      match item[id]? with
      | some state => some ⟨(sensors[id]?).bind Sensor.label, state⟩
      | none => sensors[id]? := by
  have hkeyed : Keyed Prod.fst (fun (sensors : Sensors) id => sensors[id]?)
      (fun s e => (.ok (setState s e) : Except Unit Sensors))
      fun e sensor => some (some ⟨sensor.bind Sensor.label, e.2⟩) :=
    { at_key := by
        rintro s e t h
        cases h
        unfold setState
        split <;> rename_i hid <;> simp [hid]
      at_other := by
        rintro s e t h k hk
        cases h
        unfold setState
        split <;> simp [Std.ExtTreeMap.getElem?_insert, Ne.symm hk] }
  have hfold := foldlM_ok (ε := Unit) setState item.toList sensors
  cases hid : item[id]? with
  | none =>
      have hnot : id ∉ item.toList.map Prod.fst := by
        rw [Std.ExtTreeMap.map_fst_toList_eq_keys, Std.ExtTreeMap.mem_keys,
          Std.ExtTreeMap.mem_iff_isSome_getElem?, hid]
        simp
      exact hkeyed.of_foldlM_of_notMem hfold hnot
  | some state =>
      have := hkeyed.of_foldlM (nodup_keys_toList item) hfold (mem_toList.mpr hid)
      exact (Option.some.inj this).symm

end Parts

/-! ## What a batch does -/

/-- Processing a batch gives its new sensors a default entry, appends the readings of the sensors that
have a log, and sets the states of its sensors. -/
theorem of_updateBatch {faults : Faults} {self self' : Context} {item : UpdateItem}
    (h : updateBatch faults self item = (.ok (), self')) :
    self'.db.sensorLog = self.db.sensorLog ∧
      (∀ id, self'.db.env.store.addr[id]? =
        if id ∈ item ∧ self.db.env.store.addr[id]? = none then some {}
        else self.db.env.store.addr[id]?) ∧
      (∀ id, appended (decide (id ∈ self.db.sensorLog)) item[id]? (self.db.env.store.log id) =
        some (self'.db.env.store.log id)) ∧
      self'.sensors = applyBatch item self.sensors := by
  unfold updateBatch at h
  cases hread : memorizeRead faults self.db item with
  | error e => simp [hread] at h
  | ok newSensors =>
      cases hwrite : memorizeWrite faults self.db newSensors with
      | error e => simp [hread, hwrite] at h
      | ok db =>
          cases hlog : logBatch faults db item with
          | error e => simp [hread, hwrite, hlog] at h
          | ok db' =>
              simp only [hread, hwrite, hlog, Prod.mk.injEq, true_and] at h
              subst h
              obtain ⟨hset, hlogs, haddr⟩ := of_memorizeWrite (nodup_of_memorizeRead hread) hwrite
              obtain ⟨hset', haddr', hlogs'⟩ := of_logBatch hlog
              refine ⟨hset'.trans hset, fun id => ?_, fun id => ?_, rfl⟩
              · rw [Context.modifySensors_db, haddr', haddr]
                simp only [mem_of_memorizeRead hread]
              · rw [← hset, ← hlogs]
                exact hlogs' id

/-- Without failures of the backend, a batch is processed if every reading of a sensor that has a log
can be appended. -/
theorem exists_updateBatch {self : Context} {item : UpdateItem}
    (h : ∀ id, (appended (decide (id ∈ self.db.sensorLog)) item[id]?
      (self.db.env.store.log id)).isSome) :
    ∃ self', updateBatch .none self item = (.ok (), self') := by
  have hread : ∃ newSensors, memorizeRead .none self.db item = .ok newSensors :=
    exists_memorizeRead_iff.mpr ⟨rfl, fun _ _ => rfl⟩
  obtain ⟨newSensors, hread⟩ := hread
  have hwrite : ∃ db, memorizeWrite .none self.db newSensors = .ok db :=
    exists_memorizeWrite_iff.mpr (.inr ⟨rfl, fun _ _ => rfl, rfl⟩)
  obtain ⟨db, hwrite⟩ := hwrite
  obtain ⟨hset, hlogs, -⟩ := of_memorizeWrite (nodup_of_memorizeRead hread) hwrite
  have hlog : ∃ db', logBatch .none db item = .ok db' := by
    refine exists_logBatch_iff.mpr ⟨rfl, fun id values hvalues hknown => ⟨rfl, ?_⟩, rfl⟩
    rw [hset] at hknown
    have hfits := h id
    rw [hvalues, decide_eq_true hknown] at hfits
    rw [hlogs]
    exact AppendLog.isSome_append.symm.trans hfits
  obtain ⟨db', hlog⟩ := hlog
  exact ⟨{ self with db := db' }.modifySensors (applyBatch item),
    by simp only [updateBatch, hread, hwrite, hlog]⟩

end BleWsCentral.Server
