import BleWsCentral.Server.ReadBack

/-!
# Restarting on what was stored

Whether a database that `update` wrote to can be opened again. `Db::open` opens one named database for
each sensor in `id_db`, in an environment for 200 of them, while a running server stores as many sensors
as turn up.

* `Db.exists_foldlM_openLog_iff` — the loop in `Db::open` succeeds if there are enough databases left.
* `sensorIds` — the sensors that were stored before, or turned up in a batch.
* `reopens_iff` — the server can be started again if and only if these are at most 199.
-/

namespace BleWsCentral.Server

open BleWsCentral.Found

/-- The loop in `Db::open` succeeds if there are enough databases left, one for each id. -/
theorem Db.exists_foldlM_openLog_iff {ids : List Uuid} {db : Db} (hnd : ids.Nodup)
    (hnew : ∀ id ∈ ids, DbName.log id ∉ db.env.opened)
    (hroom : db.env.opened.length ≤ db.env.maxDbs) :
    (∃ db', ids.foldlM openLog db = .ok db') ↔
      db.env.opened.length + ids.length ≤ db.env.maxDbs := by
  induction ids generalizing db with
  | nil => exact iff_of_true ⟨db, rfl⟩ hroom
  | cons id ids ih =>
      obtain ⟨hid, hnd⟩ := List.nodup_cons.mp hnd
      have hnotOpened := hnew id List.mem_cons_self
      by_cases hlt : db.env.opened.length < db.env.maxDbs
      · obtain ⟨db₁, hopen, hopened, hmax⟩ : ∃ db₁, openLog db id = .ok db₁ ∧
            db₁.env.opened = .log id :: db.env.opened ∧ db₁.env.maxDbs = db.env.maxDbs := by
          simp [openLog, Env.createDatabase, hnotOpened, hlt, bind, Except.bind]
        have hnew' : ∀ id' ∈ ids, DbName.log id' ∉ db₁.env.opened := by
          intro id' hid'
          have hne : id' ≠ id := fun heq => hid (heq ▸ hid')
          simpa [hopened, hne] using hnew id' (List.mem_cons_of_mem _ hid')
        have hroom' : db₁.env.opened.length ≤ db₁.env.maxDbs := by
          rw [hopened, hmax]
          exact hlt
        rw [List.foldlM_cons, hopen]
        simp only [bind, Except.bind]
        rw [ih hnd hnew' hroom', hopened, hmax]
        simp only [List.length_cons]
        omega
      · refine iff_of_false ?_ (by simp only [List.length_cons]; omega)
        rintro ⟨db', hfold⟩
        rw [List.foldlM_cons] at hfold
        obtain ⟨db₁, hopen, -⟩ := bind_eq_ok.mp hfold
        obtain ⟨env, henv, -⟩ := bind_eq_ok.mp hopen
        simp [Env.createDatabase, hnotOpened, hlt] at henv

/-- A database can be opened if there are at most 199 sensors in it. -/
theorem Db.exists_open_iff (store : Store) :
    (∃ db, Db.open store = .ok db) ↔ store.addr.keys.length ≤ 199 := by
  have haddr : (Env.openWith 200 store).createDatabase .addr =
      .ok { maxDbs := 200, opened := [.addr], store } := by
    simp [Env.createDatabase, Env.openWith, Env.create]
  simp only [«open», haddr, bind, Except.bind, knownAddrs]
  rw [Db.exists_foldlM_openLog_iff (nodup_keys _) (by simp) (by simp)]
  simp only [List.length_singleton]
  omega

/-- The sensors that `store` has an entry for, or that are in one of the batches. -/
def sensorIds (store : Store) (items : List (Faults × UpdateItem)) : Finset Uuid :=
  (store.addr.keys ++ items.flatMap fun item => item.2.keys).toFinset

/-- These are the sensors in `id_db` after the batches. -/
theorem length_keys_eq {store : Store} {items : List (Faults × UpdateItem)} {ctx : Context}
    (h : ReadInv store items ctx) :
    ctx.db.env.store.addr.keys.length = (sensorIds store items).card := by
  rw [← List.toFinset_card_of_nodup (nodup_keys _)]
  congr 1
  ext id
  simp only [sensorIds, List.mem_toFinset, List.mem_append, List.mem_flatMap, Std.ExtTreeMap.mem_keys,
    Std.ExtTreeMap.mem_iff_isSome_getElem?]
  rw [h.addr]
  simp only [Std.ExtTreeMap.mem_iff_isSome_getElem?]

/-- **Restarting.** After batches that were all processed, whatever the backend did on the way, the
database can be opened again, with a log for every sensor in `id_db`, if and only if the sensors stored
before and those of the batches are at most 199. -/
theorem reopens_iff {store : Store} {ctx₀ ctx : Context} {items : List (Faults × UpdateItem)}
    (hcreate : Context.create store = .ok ctx₀) (hrun : update ctx₀ items = (.ok (), ctx)) :
    (∃ db, Db.open ctx.db.env.store = .ok db ∧
      ∀ id, id ∈ db.sensorLog ↔ (ctx.db.env.store.addr[id]?).isSome) ↔
    (sensorIds store items).card ≤ 199 := by
  have hinv := (ReadInv.of_create hcreate).of_run (update_eq_ok.mp hrun)
  rw [← length_keys_eq hinv, ← Db.exists_open_iff]
  constructor
  · rintro ⟨db, hopen, -⟩
    exact ⟨db, hopen⟩
  · rintro ⟨db, hopen⟩
    exact ⟨db, hopen, (Db.of_open hopen).1⟩

/-- The first batch of `n` demo sensors. -/
def demoBatch (n : ℕ) : UpdateItem :=
  .ofList ((List.range n).map fun i =>
    (BitVec.ofNat 128 i, SensorState.connected ⟨100, 2000, 10000000, 5000⟩))

/-- These are `n` sensors, as long as there are ids for them. -/
theorem card_sensorIds_demoBatch {n : ℕ} (hn : n ≤ 2 ^ 128) :
    (sensorIds ⟨∅, ∅⟩ [(.none, demoBatch n)]).card = n := by
  have hids : sensorIds ⟨∅, ∅⟩ [(.none, demoBatch n)] =
      (Finset.range n).image (BitVec.ofNat 128) := by
    ext id
    simp [sensorIds, demoBatch, Std.ExtTreeMap.mem_ofList]
  rw [hids, Finset.card_image_of_injOn, Finset.card_range]
  intro i hi j hj heq
  have hi := Finset.mem_range.mp hi
  have hj := Finset.mem_range.mp hj
  have hmod := congrArg BitVec.toNat heq
  rw [BitVec.toNat_ofNat, BitVec.toNat_ofNat] at hmod
  rwa [Nat.mod_eq_of_lt (by omega), Nat.mod_eq_of_lt (by omega)] at hmod

/-- A new server processes it. -/
theorem exists_update_demoBatch (n : ℕ) :
    ∃ ctx₀ ctx : Context, Context.create ⟨∅, ∅⟩ = .ok ctx₀ ∧
      update ctx₀ [(.none, demoBatch n)] = (.ok (), ctx) := by
  have hcreate : ∃ ctx₀ : Context, Context.create ⟨∅, ∅⟩ = .ok ctx₀ ∧ ctx₀.db.sensorLog = ∅ :=
    ⟨_, rfl, rfl⟩
  obtain ⟨ctx₀, hcreate, hempty⟩ := hcreate
  have hbatch : ∃ ctx, updateBatch .none ctx₀ (demoBatch n) = (.ok (), ctx) := by
    apply exists_updateBatch
    intro id
    unfold appended
    split <;> simp [hempty]
  obtain ⟨ctx, hbatch⟩ := hbatch
  exact ⟨ctx₀, ctx, hcreate, by simp [update, hbatch]⟩

/-- The theorem for two demo sensors. -/
theorem reopens_iff_two_sensors :
    ∃ (ctx₀ ctx : Context) (db : Db), Context.create ⟨∅, ∅⟩ = .ok ctx₀ ∧
      update ctx₀ [(.none, demoBatch 2)] = (.ok (), ctx) ∧ Db.open ctx.db.env.store = .ok db ∧
      ∀ id, id ∈ db.sensorLog ↔ (ctx.db.env.store.addr[id]?).isSome := by
  obtain ⟨ctx₀, ctx, hcreate, hrun⟩ := exists_update_demoBatch 2
  have hcard := card_sensorIds_demoBatch (n := 2) (by norm_num)
  obtain ⟨db, hopen, hlogs⟩ := (reopens_iff hcreate hrun).mpr (hcard.trans_le (by norm_num))
  exact ⟨ctx₀, ctx, db, hcreate, hrun, hopen, hlogs⟩

/-- A server with 200 demo sensors runs, and cannot be started again. -/
theorem demo_not_reopens :
    ∃ (ctx₀ ctx : Context), Context.create ⟨∅, ∅⟩ = .ok ctx₀ ∧
      update ctx₀ [(.none, demoBatch 200)] = (.ok (), ctx) ∧
      ¬ ∃ db, Db.open ctx.db.env.store = .ok db := by
  obtain ⟨ctx₀, ctx, hcreate, hrun⟩ := exists_update_demoBatch 200
  have hinv := (ReadInv.of_create hcreate).of_run (update_eq_ok.mp hrun)
  refine ⟨ctx₀, ctx, hcreate, hrun, ?_⟩
  rw [Db.exists_open_iff, length_keys_eq hinv, card_sensorIds_demoBatch (by norm_num)]
  norm_num

end BleWsCentral.Server
