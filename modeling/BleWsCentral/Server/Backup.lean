import BleWsCentral.Server.Db

/-!
# Backups

`Server::backup`: the logs of the known sensors are read in one transaction and sent in chunks of
`CHUNKSIZE` rows. The next chunk starts one second after the last row of the one before.

* `backup` — the task that sends the chunks. It ends early if the client is gone, and panics if the next
  start overflows.
* `backupLog_eq` — the chunks of a log, from any start on, are the pages of the range from there.
* `backup_complete` — the backup has every entry of every log once, apart from those at the last timestamp.
-/

namespace BleWsCentral.Server

open BleWsCentral.Found

/-! ## The task -/

/-- `CHUNKSIZE`. -/
def chunkSize : ℕ := 8192

/-- `u32::MAX`. -/
def u32Max : UInt32 := 4294967295

/-- `u32::checked_add`. -/
def checkedAdd (a b : UInt32) : Option UInt32 :=
  if a.toNat + b.toNat < 2 ^ 32 then some (a + b) else none

/-- `BackupResponse`. -/
structure BackupResponse where
  id : Uuid
  chunk : SensorDataResponse
deriving DecidableEq

/-- How a loop of the task ends: it is through, the client is gone, or `Timestamp overflow`. -/
inductive BackupEnd
  | done
  | gone
  | panicked
deriving DecidableEq

/-- The loop over the chunks of a log, as far as `fuel` goes. The client still reads after the chunks
`sent` if `reads sent`. -/
def backupLog (reads : List BackupResponse → Bool) (db : Db) (txn : Store) (uuid : Uuid) :
    ℕ → Timestamp → List BackupResponse → Option (BackupEnd × List BackupResponse)
  | 0, _, _ => none
  | fuel + 1, start, sent =>
      match db.getLog txn uuid start u32Max (some chunkSize) with
      | none => some (.done, sent)
      | some resp =>
          match resp.time.getLast? with
          | some last =>
              match checkedAdd last 1 with
              | some start =>
                  if reads sent then
                    backupLog reads db txn uuid fuel start (sent ++ [{ id := uuid, chunk := resp }])
                  else some (.gone, sent)
              | none => some (.panicked, sent)
          | none => some (.done, sent)

/-- The loop over the known sensors. -/
def backupLogs (reads : List BackupResponse → Bool) (db : Db) (txn : Store) (fuel : ℕ) :
    List Uuid → List BackupResponse → Option (BackupEnd × List BackupResponse)
  | [], sent => some (.done, sent)
  | uuid :: uuids, sent =>
      match backupLog reads db txn uuid fuel 0 sent with
      | some (.done, sent) => backupLogs reads db txn fuel uuids sent
      | result => result

/-- `Server::backup`: how the task ends, and the chunks that were sent. -/
def backup (reads : List BackupResponse → Bool) (db : Db) (fuel : ℕ) :
    Option (BackupEnd × List BackupResponse) :=
  let txn := db.readTxn
  backupLogs reads db txn fuel (Db.knownAddrs txn) []

/-! ## Putting chunks together -/

instance : Append SensorDataResponse :=
  ⟨fun a b =>
    { time := a.time ++ b.time
      temperature := a.temperature ++ b.temperature
      pressure := a.pressure ++ b.pressure
      humidity := a.humidity ++ b.humidity }⟩

theorem SensorDataResponse.append_def (a b : SensorDataResponse) :
    a ++ b =
      { time := a.time ++ b.time
        temperature := a.temperature ++ b.temperature
        pressure := a.pressure ++ b.pressure
        humidity := a.humidity ++ b.humidity } := rfl

/-- The columns that were sent for a sensor, put together in the order of the chunks. -/
def received (sent : List BackupResponse) (id : Uuid) : SensorDataResponse :=
  let chunks := (sent.filter fun resp => resp.id = id).map BackupResponse.chunk
  chunks.foldr (· ++ ·) (Db.columns [])

theorem Db.columns_append (rows rows' : List (LEU32 × RawSensorValues)) :
    Db.columns (rows ++ rows') = Db.columns rows ++ Db.columns rows' := by
  simp only [columns, List.map_append, SensorDataResponse.append_def]

theorem received_cons (resp : BackupResponse) (sent : List BackupResponse) (id : Uuid) :
    received (resp :: sent) id =
      if resp.id = id then resp.chunk ++ received sent id else received sent id := by
  unfold received
  by_cases hid : resp.id = id <;> simp [hid]

theorem received_append (sent sent' : List BackupResponse) (id : Uuid) :
    received (sent ++ sent') id = received sent id ++ received sent' id := by
  induction sent with
  | nil => rfl
  | cons resp sent ih =>
      rw [List.cons_append, received_cons, received_cons, ih]
      split
      · simp only [SensorDataResponse.append_def, List.append_assoc]
      · rfl

/-! ## Keys -/

/-- The second after a timestamp that is not the last one. -/
theorem checkedAdd_one {n : UInt32} (h : n < u32Max) :
    ∃ next, checkedAdd n 1 = some next ∧ next.toNat = n.toNat + 1 := by
  have hlt : n.toNat < 4294967295 := UInt32.lt_iff_toNat_lt.mp h
  have hsum : n.toNat + (1 : UInt32).toNat < 2 ^ 32 := by
    show n.toNat + 1 < 2 ^ 32
    omega
  refine ⟨n + 1, by rw [checkedAdd, if_pos hsum], ?_⟩
  rw [UInt32.toNat_add, Nat.mod_eq_of_lt hsum]
  rfl

/-- The keys from the next second on are those above this one. -/
theorem LEU32.isLE_compare_next {k : LEU32} {next : UInt32} (hnext : next.toNat = k.get.toNat + 1)
    (k' : LEU32) : (compare (LEU32.new next) k').isLE = true ↔ compare k k' = .lt := by
  rw [← LEU32.new_get k, ← LEU32.new_get k', LEU32.compare_new_eq_lt, LEU32.compare_new,
    Std.isLE_compare, UInt32.le_iff_toNat_le, UInt32.lt_iff_toNat_lt, hnext]
  rfl

/-! ## The chunks of a log -/

section Chunks

variable {reads : List BackupResponse → Bool} {db : Db} {txn : Store} {uuid : Uuid}

/-- A turn of the loop that sends a chunk. -/
theorem backupLog_send {fuel : ℕ} {start last next : Timestamp} {sent : List BackupResponse}
    {resp : SensorDataResponse}
    (hget : db.getLog txn uuid start u32Max (some chunkSize) = some resp)
    (hlast : resp.time.getLast? = some last) (hnext : checkedAdd last 1 = some next)
    (hreads : reads sent = true) :
    backupLog reads db txn uuid (fuel + 1) start sent =
      backupLog reads db txn uuid fuel next (sent ++ [{ id := uuid, chunk := resp }]) := by
  rw [backupLog, hget]
  simp only [hlast, hnext, hreads, if_true]

/-- The turn of the loop that finds nothing more. -/
theorem backupLog_stop {fuel : ℕ} {start : Timestamp} {sent : List BackupResponse}
    {resp : SensorDataResponse}
    (hget : db.getLog txn uuid start u32Max (some chunkSize) = some resp)
    (hlast : resp.time.getLast? = none) :
    backupLog reads db txn uuid (fuel + 1) start sent = some (.done, sent) := by
  rw [backupLog, hget]
  simp only [hlast]

/-- A chunk with some rows. -/
def chunkOf (uuid : Uuid) (rows : List (LEU32 × RawSensorValues)) : BackupResponse where
  id := uuid
  chunk := Db.columns rows

/-- The chunks of a log are the pages of what is left of it. -/
theorem backupLog_eq (hreads : ∀ sent, reads sent = true) (huuid : uuid ∈ db.sensorLog) (fuel : ℕ)
    (start : Timestamp) (sent : List BackupResponse)
    (hfuel : ((txn.log uuid).range (.new start) (.new u32Max)).length < fuel) :
    ∃ pages : List (List (LEU32 × RawSensorValues)),
      pages.flatten = (txn.log uuid).range (.new start) (.new u32Max) ∧
      (∀ rows ∈ pages, rows ≠ [] ∧ rows.length ≤ chunkSize) ∧
      backupLog reads db txn uuid fuel start sent =
        some (.done, sent ++ pages.map (chunkOf uuid)) := by
  induction fuel generalizing start sent with
  | zero => omega
  | succ fuel ih =>
      generalize hrange : (txn.log uuid).range (.new start) (.new u32Max) = range at hfuel ih ⊢
      have hget : db.getLog txn uuid start u32Max (some chunkSize) =
          some (Db.columns (range.take chunkSize)) := by
        simp only [Db.getLog, if_pos huuid, hrange, Option.getD_some]
      have htime : (Db.columns (range.take chunkSize)).time.getLast? =
          (range.take chunkSize).getLast?.map fun row => row.1.get := List.getLast?_map
      cases hlast : (range.take chunkSize).getLast? with
      | none =>
          rw [hlast] at htime
          have hnil : range = [] := by
            rw [List.getLast?_eq_none_iff, List.take_eq_nil_iff] at hlast
            exact hlast.resolve_left (by decide)
          refine ⟨[], hnil.symm, by simp, ?_⟩
          rw [backupLog_stop hget htime, List.map_nil, List.append_nil]
      | some row =>
          rw [hlast] at htime
          have hmem : row ∈ range.take chunkSize := List.mem_of_getLast? hlast
          have hlt : row.1.get < u32Max := by
            have hrow := List.mem_of_mem_take hmem
            rw [← hrange] at hrow
            have hstop := (AppendLog.mem_range.mp hrow).2.2
            rwa [← LEU32.new_get row.1, LEU32.compare_new_eq_lt] at hstop
          obtain ⟨next, hnext, hsucc⟩ := checkedAdd_one hlt
          -- the next chunk starts where this one ends
          have hdrop : (txn.log uuid).range (.new next) (.new u32Max) = range.drop chunkSize := by
            rw [← hrange] at hlast ⊢
            exact AppendLog.range_after hlast (LEU32.isLE_compare_next hsucc)
          have hnonempty : 0 < (range.take chunkSize).length := List.length_pos_of_mem hmem
          have hlength : range.length = (range.take chunkSize).length + (range.drop chunkSize).length := by
            rw [← List.length_append, List.take_append_drop]
          obtain ⟨pages, hflatten, hpages, hrest⟩ :=
            ih next (sent ++ [chunkOf uuid (range.take chunkSize)]) (by rw [hdrop]; omega)
          refine ⟨range.take chunkSize :: pages, ?_, ?_, ?_⟩
          · rw [List.flatten_cons, hflatten, hdrop, List.take_append_drop]
          · intro rows hrows
            rcases List.mem_cons.mp hrows with rfl | hrows
            · exact ⟨List.ne_nil_of_mem hmem, List.length_take_le _ _⟩
            · exact hpages rows hrows
          · rw [backupLog_send hget htime hnext (hreads sent)]
            apply hrest.trans
            rw [List.map_cons, List.append_assoc, List.singleton_append]

/-- The chunks of one log give its entries back, and nothing else. -/
theorem received_chunks (pages : List (List (LEU32 × RawSensorValues))) (id : Uuid) :
    received (pages.map (chunkOf uuid)) id =
      Db.columns (if uuid = id then pages.flatten else []) := by
  induction pages with
  | nil => split <;> rfl
  | cons rows pages ih =>
      rw [List.map_cons, received_cons, ih]
      by_cases hid : uuid = id
      · simp only [chunkOf, hid, if_true, List.flatten_cons, Db.columns_append]
      · simp only [chunkOf, hid, if_false]

/-! ## The whole backup -/

/-- The entries of a log that a backup has. -/
theorem range_backup (log : SensorLog) :
    log.range (.new 0) (.new u32Max) = log.entries.filter fun e => e.1.get < u32Max := by
  refine List.filter_congr fun e _ => ?_
  have hstart : (compare (LEU32.new 0) e.1).isLE = true := by
    rw [← LEU32.new_get e.1, LEU32.compare_new, Std.isLE_compare]
    exact UInt32.zero_le
  have hstop : compare e.1 (.new u32Max) = .lt ↔ e.1.get < u32Max := by
    conv_lhs => rw [← LEU32.new_get e.1]
    exact LEU32.compare_new_eq_lt
  rw [Bool.eq_iff_iff, hstart, Bool.true_and, beq_iff_eq, hstop, decide_eq_true_iff]

/-- The loop over distinct sensors gets through all of their logs. -/
theorem backupLogs_eq (hreads : ∀ sent, reads sent = true) {fuel : ℕ}
    (hfuel : ∀ id, (txn.log id).entries.length < fuel) {ids : List Uuid} (hids : ids.Nodup)
    (sent : List BackupResponse) :
    ∃ chunks : List BackupResponse,
      backupLogs reads db txn fuel ids sent = some (.done, sent ++ chunks) ∧
      (∀ resp ∈ chunks, resp.id ∈ ids ∧ ∃ rows : List (LEU32 × RawSensorValues),
        rows ≠ [] ∧ rows.length ≤ chunkSize ∧ resp.chunk = Db.columns rows) ∧
      ∀ id, received chunks id = Db.columns (if id ∈ ids ∧ id ∈ db.sensorLog then
        (txn.log id).entries.filter fun e => e.1.get < u32Max else []) := by
  induction ids generalizing sent with
  | nil => exact ⟨[], by simp [backupLogs], by simp, fun id => by simp [received]⟩
  | cons uuid ids ih =>
      obtain ⟨hnotMem, hids⟩ := List.nodup_cons.mp hids
      by_cases huuid : uuid ∈ db.sensorLog
      · have hrange : ((txn.log uuid).range (.new 0) (.new u32Max)).length < fuel :=
          (List.length_filter_le _ _).trans_lt (hfuel uuid)
        obtain ⟨pages, hflatten, hpages, hlog⟩ := backupLog_eq hreads huuid fuel 0 sent hrange
        obtain ⟨chunks, hrest, hchunks, hreceived⟩ := ih hids (sent ++ pages.map (chunkOf uuid))
        refine ⟨pages.map (chunkOf uuid) ++ chunks, ?_, ?_, fun id => ?_⟩
        · rw [backupLogs, hlog, ← List.append_assoc]
          exact hrest
        · intro resp hresp
          rcases List.mem_append.mp hresp with hmem | hmem
          · obtain ⟨rows, hrows, rfl⟩ := List.mem_map.mp hmem
            exact ⟨List.mem_cons_self, rows, (hpages rows hrows).1, (hpages rows hrows).2, rfl⟩
          · exact ⟨List.mem_cons_of_mem _ (hchunks resp hmem).1, (hchunks resp hmem).2⟩
        · rw [received_append, received_chunks, hreceived, ← Db.columns_append, hflatten,
            range_backup]
          by_cases hid : uuid = id
          · subst hid
            simp [hnotMem, huuid]
          · simp [hid, Ne.symm hid]
      · obtain ⟨chunks, hrest, hchunks, hreceived⟩ := ih hids sent
        have hlog : backupLog reads db txn uuid fuel 0 sent = some (.done, sent) := by
          obtain ⟨fuel, rfl⟩ := Nat.exists_eq_add_of_lt (hfuel uuid)
          have hget : db.getLog txn uuid 0 u32Max (some chunkSize) = none := if_neg huuid
          rw [backupLog, hget]
        refine ⟨chunks, ?_, fun resp hresp => ?_, fun id => ?_⟩
        · rw [backupLogs, hlog]
          exact hrest
        · exact ⟨List.mem_cons_of_mem _ (hchunks resp hresp).1, (hchunks resp hresp).2⟩
        · rw [hreceived]
          by_cases hid : uuid = id
          · subst hid
            simp [huuid]
          · simp [Ne.symm hid]

end Chunks

/-- **Backups.** When the client keeps reading, the backup gets through the logs of all known sensors
without an overflow. What is sent for a sensor are the entries of its log but those at the last
timestamp, in ascending order; and every chunk has at least one row, and at most `CHUNKSIZE`. -/
theorem backup_complete {reads : List BackupResponse → Bool} {db : Db} {fuel : ℕ}
    (hreads : ∀ sent, reads sent = true)
    (hfuel : ∀ id, (db.env.store.log id).entries.length < fuel) :
    ∃ sent : List BackupResponse, backup reads db fuel = some (.done, sent) ∧
      (∀ resp ∈ sent, ∃ rows : List (LEU32 × RawSensorValues),
        rows ≠ [] ∧ rows.length ≤ chunkSize ∧ resp.chunk = Db.columns rows) ∧
      ∀ id, received sent id = Db.columns (if id ∈ db.env.store.addr ∧ id ∈ db.sensorLog then
          (db.env.store.log id).entries.filter fun e => e.1.get < u32Max else []) ∧
        (received sent id).time.Pairwise (· < ·) := by
  have hlogs : ∀ id, (db.readTxn.log id).entries.length < fuel := hfuel
  obtain ⟨sent, hbackup, hchunks, hreceived⟩ :=
    backupLogs_eq hreads hlogs (nodup_keys db.env.store.addr) []
  refine ⟨sent, hbackup, fun resp hresp => (hchunks resp hresp).2, fun id => ?_⟩
  have hid := hreceived id
  simp only [Std.ExtTreeMap.mem_keys] at hid
  refine ⟨hid, ?_⟩
  rw [hid]
  split
  · refine List.pairwise_map.mpr (((db.env.store.log id).sorted.filter _).imp fun {e e'} hlt => ?_)
    rwa [← LEU32.new_get e.1, ← LEU32.new_get e'.1, LEU32.compare_new_eq_lt] at hlt
  · exact .nil

/-- The theorem for a sensor with three entries, the last one at the last timestamp. -/
theorem backup_complete_three_entries :
    ∃ (db : Db) (log : SensorLog) (sent : List BackupResponse),
      Db.open ⟨(∅ : BTreeMap Uuid IdDbEntry).insert 3 {}, (∅ : BTreeMap Uuid SensorLog).insert 3 log⟩ =
        .ok db ∧ backup (fun _ => true) db 4 = some (.done, sent) ∧
      received sent 3 = ⟨[0, 4294967294], [2150, 2160], [101325, 101300], [40, 41]⟩ := by
  let log : SensorLog :=
    ⟨[(.new 0, ⟨2150, 40, 101325⟩), (.new 4294967294, ⟨2160, 41, 101300⟩),
      (.new 4294967295, ⟨2170, 42, 101275⟩)], by decide⟩
  have hopen : ∃ db, Db.open ⟨(∅ : BTreeMap Uuid IdDbEntry).insert 3 {},
      (∅ : BTreeMap Uuid SensorLog).insert 3 log⟩ = .ok db := ⟨_, rfl⟩
  obtain ⟨db, hopen⟩ := hopen
  obtain ⟨hsensorLog, haddr, hlog⟩ := Db.of_open hopen
  have hlength : ∀ id, (db.env.store.log id).entries.length < 4 := by
    intro id
    rw [hlog, Store.log, Std.ExtTreeMap.getElem?_insert]
    split
    · exact Nat.lt_succ_self 3
    · exact Nat.succ_pos 3
  obtain ⟨sent, hbackup, -, hreceived⟩ := backup_complete (fun _ => rfl) hlength
  refine ⟨db, log, sent, hopen, hbackup, ?_⟩
  have hknown : (3 : Uuid) ∈ db.env.store.addr ∧ (3 : Uuid) ∈ db.sensorLog := by
    rw [hsensorLog, haddr, Std.ExtTreeMap.mem_insert]
    simp
  rw [(hreceived 3).1, if_pos hknown, hlog, Store.log, Std.ExtTreeMap.getElem?_insert_self]
  decide +kernel

end BleWsCentral.Server
