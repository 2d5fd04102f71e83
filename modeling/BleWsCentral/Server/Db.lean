import BleWsCentral.Data
import BleWsCentral.Found.AppendLog
import BleWsCentral.Found.Run

/-!
# The database

`db.rs`: an environment with one database of the known sensors and one log for each of them.

* `LEU32` — the keys of the logs: four bytes, the most significant one first, compared byte by byte.
  `LEU32.compare_new`: they compare as the timestamps they hold.
* `Store` — what the environment holds on disk; a transaction works on a copy of it, and a commit puts
  the copy in its place.
* `Env` — the environment as it is opened by a process, with the limit on named databases.
* `Db` — `Db::open`, and the accessors of the database of sensors and of the logs.
* `LogTransaction` — what `update` appends its readings through.

The backend may fail at any operation: `Faults` says at which ones it does, in functions of which the
caller looks at the error.
-/

namespace BleWsCentral.Server

open BleWsCentral.Found

/-! ## Keys -/

/-- `LEU32`, which is `U32<BigEndian>`. -/
structure LEU32 where
  b₀ : UInt8
  b₁ : UInt8
  b₂ : UInt8
  b₃ : UInt8
deriving DecidableEq

namespace LEU32

/-- `LEU32::new`. -/
def new (n : UInt32) : LEU32 :=
  ⟨(n >>> 24).toUInt8, (n >>> 16).toUInt8, (n >>> 8).toUInt8, n.toUInt8⟩

/-- The number the bytes of a key stand for. -/
def toNat (k : LEU32) : ℕ :=
  k.b₀.toNat * 2 ^ 24 + k.b₁.toNat * 2 ^ 16 + k.b₂.toNat * 2 ^ 8 + k.b₃.toNat

/-- `LEU32::get`. -/
def get (k : LEU32) : UInt32 := UInt32.ofNat k.toNat

/-- The bytes of a key, as the backend stores them. -/
def bytes (k : LEU32) : List UInt8 := [k.b₀, k.b₁, k.b₂, k.b₃]

/-- The backend compares keys byte by byte. -/
instance : Ord LEU32 := ⟨compareOn bytes⟩

instance : Std.TransOrd LEU32 := inferInstanceAs (Std.TransCmp (compareOn bytes))

theorem toNat_new (n : UInt32) : (new n).toNat = n.toNat := by
  have := n.toNat_lt
  simp only [new, toNat, UInt32.toNat_toUInt8, UInt32.toNat_shiftRight]
  simp [Nat.shiftRight_eq_div_pow]
  omega

@[simp] theorem get_new (n : UInt32) : (new n).get = n := by
  rw [get, toNat_new, UInt32.ofNat_toNat]

/-- Keys compare as the numbers they hold. -/
@[simp] theorem compare_new (a b : UInt32) : compare (new a) (new b) = compare a b := by
  have ha := a.toNat_lt
  have hb := b.toNat_lt
  change compare (new a).bytes (new b).bytes = _
  simp only [compare_uint32, bytes, new, List.compare_eq_compareLex, List.compareLex_cons_cons,
    compare_uint8, List.compareLex_nil_nil, UInt32.toNat_toUInt8, UInt32.toNat_shiftRight]
  simp [Nat.shiftRight_eq_div_pow]
  -- the bytes are joined from the most significant one on
  rw [compare_then 256 (by omega) (by omega), compare_then 65536 (by omega) (by omega),
    compare_then 16777216 (by omega) (by omega)]
  congr 1 <;> omega

theorem toNat_lt (k : LEU32) : k.toNat < 2 ^ 32 := by
  have := k.b₀.toNat_lt
  have := k.b₁.toNat_lt
  have := k.b₂.toNat_lt
  have := k.b₃.toNat_lt
  unfold toNat
  omega

theorem toNat_inj {k k' : LEU32} (h : k.toNat = k'.toNat) : k = k' := by
  obtain ⟨a₀, a₁, a₂, a₃⟩ := k
  obtain ⟨c₀, c₁, c₂, c₃⟩ := k'
  have := a₀.toNat_lt
  have := a₁.toNat_lt
  have := a₂.toNat_lt
  have := a₃.toNat_lt
  have := c₀.toNat_lt
  have := c₁.toNat_lt
  have := c₂.toNat_lt
  have := c₃.toNat_lt
  simp only [toNat] at h
  simp only [mk.injEq, ← UInt8.toNat_inj]
  omega

theorem new_get (k : LEU32) : new k.get = k := by
  apply toNat_inj
  rw [toNat_new, get, UInt32.toNat_ofNat', Nat.mod_eq_of_lt k.toNat_lt]

theorem compare_new_eq_lt {a b : UInt32} : compare (new a) (new b) = .lt ↔ a < b := by
  rw [compare_new, Std.compare_eq_lt]

end LEU32

/-! ## The environment -/

/-- `db::Error`, without the error for the directory. -/
inductive DbError
  | heed
deriving DecidableEq

/-- `IdDbEntry`; the default entry has no label. -/
structure IdDbEntry where
  label : Option String := none
deriving DecidableEq

/-- A log: readings under the time at which they were received. -/
abbrev SensorLog := AppendLog LEU32 RawSensorValues

/-- What the environment holds: the database `addr` of the known sensors, and the logs, each of which
is the named database with the decimal form of the sensor's id for its name. -/
structure Store where
  addr : BTreeMap Uuid IdDbEntry
  logs : BTreeMap Uuid SensorLog
deriving DecidableEq

namespace Store

/-- The log of a sensor; a database without entries if there is none. -/
def log (store : Store) (id : Uuid) : SensorLog := (store.logs[id]?).getD .empty

/-- `id_db.put`. -/
def putAddr (store : Store) (id : Uuid) (data : IdDbEntry) : Store :=
  { store with addr := store.addr.insert id data }

/-- Puts a log in the place of that of a sensor. -/
def setLog (store : Store) (id : Uuid) (log : SensorLog) : Store :=
  { store with logs := store.logs.insert id log }

variable {store : Store} {id id' : Uuid}

@[simp] theorem putAddr_addr (data : IdDbEntry) :
    (store.putAddr id data).addr[id']? = if id = id' then some data else store.addr[id']? := by
  simp [putAddr, Std.ExtTreeMap.getElem?_insert]

@[simp] theorem putAddr_log (data : IdDbEntry) : (store.putAddr id data).log id' = store.log id' := rfl

@[simp] theorem setLog_addr (log : SensorLog) : (store.setLog id log).addr = store.addr := rfl

@[simp] theorem setLog_log (log : SensorLog) :
    (store.setLog id log).log id' = if id = id' then log else store.log id' := by
  unfold setLog Store.log
  simp only [Std.ExtTreeMap.getElem?_insert, Std.LawfulEqOrd.compare_eq_iff_eq]
  split <;> rfl

end Store

/-- The name of a database in the environment. -/
inductive DbName
  | addr
  | log (id : Uuid)
deriving DecidableEq

/-- `heed::Env`: what is on disk, and the named databases this process opened so far. -/
structure Env where
  maxDbs : ℕ
  opened : List DbName
  store : Store

namespace Env

/-- `EnvOpenOptions::open`. -/
def openWith (maxDbs : ℕ) (store : Store) : Env where
  maxDbs := maxDbs
  opened := []
  store := store

/-- Makes an empty log where there was none. -/
def create (store : Store) : DbName → Store
  | .addr => store
  | .log id => store.setLog id (store.log id)

/-- `Env::create_database`: opens a named database, unless there are too many of them. -/
def createDatabase (env : Env) (name : DbName) : Except DbError Env :=
  if name ∈ env.opened then .ok env
  else if env.opened.length < env.maxDbs then
    .ok { env with opened := name :: env.opened, store := create env.store name }
  else .error .heed

end Env

/-! ## `Db` -/

/-- `Db`. A handle to a log is only ever made by `create_database` under the id of its sensor, so the
map `sensor_log` is the set of its keys. -/
structure Db where
  env : Env
  sensorLog : Std.ExtTreeSet Uuid

namespace Db

/-- A turn of the loop in `Db::open`. -/
def openLog (db : Db) (id : Uuid) : Except DbError Db := do
  let env ← db.env.createDatabase (.log id)
  .ok { env, sensorLog := db.sensorLog.insert id }

/-- `Db::known_addrs`. -/
def knownAddrs (txn : Store) : List Uuid := txn.addr.keys

/-- `Db::open`, in a directory in which an environment holds `store`. -/
def «open» (store : Store) : Except DbError Db := do
  let env ← (Env.openWith 200 store).createDatabase .addr
  let known := knownAddrs env.store
  known.foldlM openLog { env, sensorLog := ∅ }

/-- `Db::read_txn`: a snapshot. -/
def readTxn (db : Db) : Store := db.env.store

/-- `Db::write_txn`: a copy to work on. -/
def writeTxn (db : Db) : Store := db.env.store

/-- `RwTxn::commit`. -/
def commit (db : Db) (txn : Store) : Db := { db with env := { db.env with store := txn } }

@[simp] theorem commit_store (db : Db) (txn : Store) : (db.commit txn).env.store = txn := rfl

@[simp] theorem commit_sensorLog (db : Db) (txn : Store) :
    (db.commit txn).sensorLog = db.sensorLog := rfl

/-- `Db::get_addr`. -/
def getAddr (txn : Store) (id : Uuid) : Option IdDbEntry := txn.addr[id]?

/-- The columns of a list of log entries. -/
def columns (rows : List (LEU32 × RawSensorValues)) : SensorDataResponse where
  time := rows.map fun row => row.1.get
  temperature := rows.map fun row => row.2.temperature.toInt32
  pressure := rows.map fun row => row.2.pressure
  humidity := rows.map fun row => row.2.humidity.toUInt32

/-- `Db::get_log` on the range `start..stop`. -/
def getLog (db : Db) (txn : Store) (id : Uuid) (start stop : Timestamp) (limit : Option ℕ) :
    Option SensorDataResponse :=
  if id ∈ db.sensorLog then
    let rows := (txn.log id).range (.new start) (.new stop)
    some (columns (rows.take (limit.getD usizeMax)))
  else none

end Db

/-! ## Failing operations -/

/-- The operations of the backend in the body of the loop of `update`. -/
inductive DbOp
  | readTxn
  | getAddr (id : Uuid)
  | writeTxn
  | putAddr (id : Uuid)
  | commitAddrs
  | logTxn
  | append (id : Uuid)
  | commitLog
deriving DecidableEq

/-- The operations at which the backend fails. -/
abbrev Faults := DbOp → Bool

/-- The backend never fails by itself. -/
def Faults.none : Faults := fun _ => false

/-- The `?` behind an operation. -/
def Faults.check (faults : Faults) (op : DbOp) : Except DbError Unit :=
  if faults op then .error .heed else .ok ()

@[simp] theorem Faults.check_none (op : DbOp) : Faults.none.check op = .ok () := rfl

theorem Faults.check_eq_ok {faults : Faults} {op : DbOp} {u : Unit} :
    faults.check op = .ok u ↔ faults op = false := by
  unfold check
  split <;> simp_all

/-- What comes behind an operation is reached if the backend does not fail at it. -/
theorem Faults.exists_check_bind {α : Type} {faults : Faults} {op : DbOp} {f : Unit → Except DbError α} :
    (∃ a, faults.check op >>= f = .ok a) ↔ faults op = false ∧ ∃ a, f () = .ok a := by
  simp only [exists_bind_eq_ok, check_eq_ok]
  exact ⟨fun ⟨_, hop, h⟩ => ⟨hop, h⟩, fun ⟨hop, h⟩ => ⟨(), hop, h⟩⟩

/-! ## Log transactions -/

/-- `LogTransaction`. -/
structure LogTransaction where
  sensorValues : Std.ExtTreeSet Uuid
  txn : Store

namespace LogTransaction

/-- `LogTransaction::log`: nothing is written for a sensor without a log. -/
def log (faults : Faults) (self : LogTransaction) (id : Uuid) (values : SensorValues) :
    Except DbError LogTransaction :=
  if id ∈ self.sensorValues then do
    faults.check (.append id)
    match (self.txn.log id).append (.new values.timestamp) values.toRaw with
    | none => .error .heed
    | some log => .ok { self with txn := self.txn.setLog id log }
  else .ok self

/-- `LogTransaction::commit`. -/
def commit (self : LogTransaction) (db : Db) : Db := db.commit self.txn

end LogTransaction

/-- `Db::log_txn`. -/
def Db.logTxn (db : Db) : LogTransaction where
  sensorValues := db.sensorLog
  txn := db.writeTxn

/-! ## What `Db::open` gives -/

/-- Opening a named database keeps the known sensors and the logs. -/
theorem Env.createDatabase_store {env env' : Env} {name : DbName}
    (h : env.createDatabase name = .ok env') :
    env'.store.addr = env.store.addr ∧ ∀ id, env'.store.log id = env.store.log id := by
  unfold createDatabase at h
  split at h
  · cases h
    exact ⟨rfl, fun _ => rfl⟩
  · split at h
    · cases h
      cases name with
      | addr => exact ⟨rfl, fun _ => rfl⟩
      | log id =>
          refine ⟨rfl, fun id' => ?_⟩
          by_cases hid : id = id' <;> simp [create, hid]
    · cases h

/-- The loop in `Db::open` puts the ids into `sensor_log` and keeps what is on disk. -/
theorem Db.of_foldlM_openLog {ids : List Uuid} {db db' : Db}
    (h : ids.foldlM openLog db = .ok db') :
    (∀ id, id ∈ db'.sensorLog ↔ id ∈ ids ∨ id ∈ db.sensorLog) ∧
      db'.env.store.addr = db.env.store.addr ∧
      ∀ id, db'.env.store.log id = db.env.store.log id := by
  induction ids generalizing db with
  | nil =>
      cases h
      simp
  | cons id ids ih =>
      rw [List.foldlM_cons] at h
      obtain ⟨db₁, hfirst, hrest⟩ := bind_eq_ok.mp h
      obtain ⟨env, henv, hdb₁⟩ := bind_eq_ok.mp hfirst
      cases hdb₁
      obtain ⟨hmem, haddr, hlog⟩ := ih hrest
      obtain ⟨haddr₁, hlog₁⟩ := Env.createDatabase_store henv
      refine ⟨fun id' => ?_, haddr.trans haddr₁, fun id' => (hlog id').trans (hlog₁ id')⟩
      rw [hmem, List.mem_cons, Std.ExtTreeSet.mem_insert, Std.LawfulEqOrd.compare_eq_iff_eq]
      tauto

/-- The database as it is opened: each known sensor has a log, and nothing on disk changed. -/
theorem Db.of_open {store : Store} {db : Db} (h : Db.open store = .ok db) :
    (∀ id, id ∈ db.sensorLog ↔ (store.addr[id]?).isSome) ∧ db.env.store.addr = store.addr ∧
      ∀ id, db.env.store.log id = store.log id := by
  obtain ⟨env, henv, hfold⟩ := bind_eq_ok.mp h
  obtain ⟨haddr₀, hlog₀⟩ := Env.createDatabase_store henv
  obtain ⟨hmem, haddr, hlog⟩ := Db.of_foldlM_openLog hfold
  refine ⟨fun id => ?_, haddr.trans haddr₀, fun id => (hlog id).trans (hlog₀ id)⟩
  rw [hmem, knownAddrs, haddr₀, Std.ExtTreeMap.mem_keys, Std.ExtTreeMap.mem_iff_isSome_getElem?]
  simp [Env.openWith]

/-! ## What `get_log` gives -/

/-- A log has at most one entry a timestamp. -/
theorem SensorLog.length_le (log : SensorLog) : log.entries.length ≤ 2 ^ 32 := by
  have hnd : (log.entries.map fun e => e.1.toNat).Nodup := by
    rw [List.Nodup, List.pairwise_map]
    refine log.sorted.imp fun {e e'} hlt heq => ?_
    rw [LEU32.toNat_inj heq, Std.ReflOrd.compare_self] at hlt
    cases hlt
  have hsub : log.entries.map (fun e => e.1.toNat) ⊆ List.range (2 ^ 32) := by
    intro n hn
    obtain ⟨e, -, rfl⟩ := List.mem_map.mp hn
    exact List.mem_range.mpr e.1.toNat_lt
  simpa using (hnd.subperm hsub).length_le

/-- Without a limit, `get_log` gives the whole range. -/
theorem Db.getLog_none {db : Db} {txn : Store} {id : Uuid} {start stop : Timestamp}
    (h : id ∈ db.sensorLog) :
    db.getLog txn id start stop none =
      some (columns ((txn.log id).range (.new start) (.new stop))) := by
  have hlen : ((txn.log id).range (.new start) (.new stop)).length ≤ usizeMax :=
    (List.length_filter_le _ _).trans ((txn.log id).length_le.trans (by decide))
  simp [getLog, h, List.take_of_length_le hlen]

/-- The rows of a response are the entries it was made from. -/
theorem Db.columns_row {rows : List (LEU32 × RawSensorValues)} {i : ℕ} {k : LEU32}
    {raw : RawSensorValues} (h : rows[i]? = some (k, raw)) :
    (columns rows).time[i]? = some k.get ∧
      (columns rows).temperature[i]? = some raw.temperature.toInt32 ∧
      (columns rows).pressure[i]? = some raw.pressure ∧
      (columns rows).humidity[i]? = some raw.humidity.toUInt32 := by
  simp [columns, h]

end BleWsCentral.Server
