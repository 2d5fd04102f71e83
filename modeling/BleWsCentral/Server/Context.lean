import BleWsCentral.Server.Db

/-!
# The context and its requests

`Context` of `main.rs` and the handlers of `rpc.rs` that read and write labels.

* `Context` — the database, the sensors in memory, and what was sent to the subscribers.
* `Context.modifySensors` — the only way the sensors in memory change.
* `Context.overview`, `changeLabel…` — the handlers. `change_label` works in three steps between which
  other tasks run: the existence check, the committed write and the change in memory.
-/

namespace BleWsCentral.Server

open BleWsCentral.Found

/-! ## Overviews -/

/-- The values of a sensor that is connected. -/
def currentValues : SensorState → Option CurrentValues
  | .connected values =>
      some
        { temperature := values.temperature.toInt32
          pressure := values.pressure
          humidity := values.humidity.toUInt32 }
  | .unconnected => none

/-- `create_overview_response`. -/
def createOverviewResponse (sensors : Sensors) : OverviewResponse where
  overview := sensors.toList.map fun (id, sensor) =>
    { id, overview := { label := sensor.label, values := currentValues sensor.state } }

/-! ## The context -/

/-- `Context`; `tx` holds what was sent on the broadcast channel so far. -/
structure Context where
  sensors : Sensors
  db : Db
  tx : List OverviewResponse

namespace Context

/-- A turn of the loop in `Context::create`. -/
def memorizeLabel (txn : Store) (sensors : Sensors) (id : Uuid) : Sensors :=
  let label := (Db.getAddr txn id).bind IdDbEntry.label
  sensors.insert id { label, state := .unconnected }

/-- `Context::create`, on an environment that holds `store`. -/
def create (store : Store) : Except DbError Context := do
  let db ← Db.open store
  let txn := db.readTxn
  .ok { sensors := (Db.knownAddrs txn).foldl (memorizeLabel txn) ∅, db, tx := [] }

/-- `Context::modify_sensors`. -/
def modifySensors (self : Context) (f : Sensors → Sensors) : Context :=
  { self with sensors := f self.sensors, tx := self.tx ++ [createOverviewResponse (f self.sensors)] }

@[simp] theorem modifySensors_sensors (self : Context) (f : Sensors → Sensors) :
    (self.modifySensors f).sensors = f self.sensors := rfl

@[simp] theorem modifySensors_db (self : Context) (f : Sensors → Sensors) :
    (self.modifySensors f).db = self.db := rfl

/-- The label `id_db` holds for a sensor. -/
def storedLabel (self : Context) (id : Uuid) : Option String :=
  (Db.getAddr self.db.readTxn id).bind IdDbEntry.label

/-- The sensors a loop over `ids` memorizes. -/
theorem getElem?_foldl_memorizeLabel (txn : Store) (ids : List Uuid) (sensors : Sensors) (id : Uuid) :
    (ids.foldl (memorizeLabel txn) sensors)[id]? =
      if id ∈ ids then
        some { label := (Db.getAddr txn id).bind IdDbEntry.label, state := .unconnected }
      else sensors[id]? := by
  induction ids generalizing sensors with
  | nil => simp
  | cons id' ids ih =>
      rw [List.foldl_cons, ih]
      by_cases hmem : id ∈ ids
      · simp [hmem]
      · by_cases heq : id' = id
        · subst heq
          simp [hmem, memorizeLabel]
        · simp [hmem, memorizeLabel, Std.ExtTreeMap.getElem?_insert, heq, Ne.symm heq]

/-- The context as it is created: what is on disk, and in memory the known sensors with their labels. -/
theorem of_create {store : Store} {ctx : Context} (h : create store = .ok ctx) :
    (∀ id, id ∈ ctx.db.sensorLog ↔ (store.addr[id]?).isSome) ∧
      ctx.db.env.store.addr = store.addr ∧ (∀ id, ctx.db.env.store.log id = store.log id) ∧
      ∀ id : Uuid, ctx.sensors[id]? =
        (store.addr[id]?).map fun entry => ⟨entry.label, .unconnected⟩ := by
  obtain ⟨db, hopen, hctx⟩ := bind_eq_ok.mp h
  cases hctx
  obtain ⟨hmem, haddr, hlog⟩ := Db.of_open hopen
  refine ⟨hmem, haddr, hlog, fun id => ?_⟩
  simp only [getElem?_foldl_memorizeLabel, Db.knownAddrs, Db.readTxn, Db.getAddr, haddr,
    Std.ExtTreeMap.mem_keys, Std.ExtTreeMap.mem_iff_isSome_getElem?]
  cases hid : store.addr[id]? with
  | none => simp
  | some entry => simp

end Context

/-! ## Requests -/

/-- `tonic::Code`, as far as it is used. -/
inductive Code
  | invalidArgument
  | notFound
  | internal
deriving DecidableEq

/-- `tonic::Status`. -/
structure Status where
  code : Code
  message : String
deriving DecidableEq

/-- `impl From<db::Error> for Status`. -/
def DbError.toStatus : DbError → Status
  | .heed => ⟨.internal, "Internal database error"⟩

/-- The `?` on a result of the database in a handler. -/
def orStatus {α : Type} : Except DbError α → Except Status α
  | .error e => .error e.toStatus
  | .ok a => .ok a

/-- `get_id`. -/
def getId : Option Uuid → Except Status Uuid
  | none => .error ⟨.invalidArgument, "Missing required id"⟩
  | some id => .ok id

/-- `ChangeLabelRequest`. -/
structure ChangeLabelRequest where
  id : Option Uuid
  label : Option String
deriving DecidableEq

namespace Context

/-- A turn of the loop in `Server::overview`: the label comes from `id_db`. -/
def overviewField (faults : Faults) (txn : Store) (entry : Uuid × Sensor) :
    Except Status OverviewResponseField := do
  let (id, sensor) := entry
  orStatus (faults.check (.getAddr id))
  let label := (Db.getAddr txn id).bind IdDbEntry.label
  .ok { id, overview := { label, values := currentValues sensor.state } }

/-- `Server::overview`. -/
def overview (faults : Faults) (self : Context) : Except Status OverviewResponse := do
  orStatus (faults.check .readTxn)
  let txn := self.db.readTxn
  let ret ← self.sensors.toList.mapM (overviewField faults txn)
  .ok { overview := ret }

/-- `Server::change_label` up to its first await: the sensor has to be known. -/
def changeLabelCheck (faults : Faults) (self : Context) (req : ChangeLabelRequest) :
    Except Status Uuid := do
  let id ← getId req.id
  orStatus (faults.check .readTxn)
  orStatus (faults.check (.getAddr id))
  match Db.getAddr self.db.readTxn id with
  | none => .error ⟨.notFound, "Sensor not found"⟩
  | some _ => .ok id

/-- The write transaction of `Server::change_label`. -/
def changeLabelWrite (faults : Faults) (self : Context) (id : Uuid) (newLabel : Option String) :
    Except Status Context := do
  orStatus (faults.check .writeTxn)
  orStatus (faults.check (.putAddr id))
  let txn := self.db.writeTxn.putAddr id { label := newLabel }
  orStatus (faults.check .commitAddrs)
  .ok { self with db := self.db.commit txn }

/-- The closure `Server::change_label` hands to `modify_sensors`; it logs an error and does nothing
if the sensor is not there. -/
def relabel (id : Uuid) (newLabel : Option String) (sensors : Sensors) : Sensors :=
  match sensors[id]? with
  | some entry => sensors.insert id { entry with label := newLabel }
  | none => sensors

/-- The last step of `Server::change_label`. -/
def changeLabelModify (self : Context) (id : Uuid) (newLabel : Option String) : Context :=
  self.modifySensors (relabel id newLabel)

variable {self self' : Context} {faults : Faults} {id id' : Uuid} {newLabel : Option String}

/-- A request that passes the check is about a known sensor. -/
theorem of_changeLabelCheck {req : ChangeLabelRequest}
    (h : self.changeLabelCheck faults req = .ok id) :
    req.id = some id ∧ (self.db.env.store.addr[id]?).isSome := by
  obtain ⟨id', hid, h⟩ := bind_eq_ok.mp h
  obtain ⟨-, -, h⟩ := bind_eq_ok.mp h
  obtain ⟨-, -, h⟩ := bind_eq_ok.mp h
  cases hreq : req.id with
  | none => simp [getId, hreq] at hid
  | some id'' =>
      obtain rfl : id'' = id' := by simpa [getId, hreq] using hid
      simp only [Db.getAddr, Db.readTxn] at h
      split at h
      · cases h
      · rename_i entry hentry
        cases h
        simp [hentry]

/-- The write changes one entry of `id_db`, and nothing else. -/
theorem of_changeLabelWrite (h : self.changeLabelWrite faults id newLabel = .ok self') :
    self' = { self with db := self.db.commit (self.db.writeTxn.putAddr id { label := newLabel }) } := by
  obtain ⟨-, -, h⟩ := bind_eq_ok.mp h
  obtain ⟨-, -, h⟩ := bind_eq_ok.mp h
  obtain ⟨-, -, h⟩ := bind_eq_ok.mp h
  cases h
  rfl

/-- The change in memory is that of one label. -/
theorem getElem?_relabel (sensors : Sensors) :
    (relabel id newLabel sensors)[id']? =
      if id = id' then (sensors[id']?).map fun sensor => { sensor with label := newLabel }
      else sensors[id']? := by
  unfold relabel
  split
  · rename_i entry hentry
    rw [Std.ExtTreeMap.getElem?_insert]
    by_cases heq : id = id'
    · subst heq
      simp [hentry]
    · simp [heq]
  · rename_i hnone
    by_cases heq : id = id'
    · subst heq
      simp [hnone]
    · simp [heq]

/-- Where the labels agree, the overview is what the subscribers are sent. -/
theorem overview_eq (h : ∀ id sensor, self.sensors[id]? = some sensor →
    self.storedLabel id = sensor.label) :
    self.overview .none = .ok (createOverviewResponse self.sensors) := by
  have hfields : self.sensors.toList.mapM (overviewField .none self.db.readTxn) =
      .ok (createOverviewResponse self.sensors).overview := by
    apply mapM_eq_ok
    intro e he
    have hlabel : (Db.getAddr self.db.readTxn e.1).bind IdDbEntry.label = e.2.label :=
      h e.1 e.2 (mem_toList.mp he)
    simp [overviewField, hlabel, orStatus, bind, Except.bind]
  simp [overview, hfields, orStatus, bind, Except.bind]

end Context

end BleWsCentral.Server
