import BleWsCentral.Server.Sources

/-!
# Dummy sensors

`dummy.rs`: in demo mode, a source makes up the values of `n` sensors, and yields a batch of all of them every 30
seconds. What `thread_rng` gives is an input here (`Draws`), and so is the clock (`Round`).

* `FluctuatingSensor.advance` — a sensor moves; `none` is a panic, of an overflow or of an `unwrap`.
* `Fluctuates` — where a sensor can be; `advance_eq`: from there it moves without a panic, into its range.
* `dummySensors` — the batches that the source yields.
* `dummy_batches` — the source never panics, and each batch has all of the sensors, and no other.
* `dummy_served` — whether `update` processes the batches is up to the clock.
-/

namespace BleWsCentral.Server

open BleWsCentral.Found

/-! ## Numbers -/

/-- `clamp`. -/
def clamp {T : Type} [LT T] [DecidableLT T] (n lo hi : T) : T :=
  if n < lo then lo
  else if hi < n then hi
  else n

/-- `+` of machine integers, which panics if the result, as the number that `val` gives, is not the sum. -/
def addOrPanic {T : Type} [Add T] (val : T → ℤ) (a b : T) : Option T :=
  if val (a + b) = val a + val b then some (a + b) else none

/-- `-` of machine integers. -/
def subOrPanic {T : Type} [Sub T] (val : T → ℤ) (a b : T) : Option T :=
  if val (a - b) = val a - val b then some (a - b) else none

/-- Up or down, as the drawn `bool` says. -/
def moveOrPanic {T : Type} [Add T] [Sub T] (val : T → ℤ) (up : Bool) (n d : T) : Option T :=
  if up then addOrPanic val n d else subOrPanic val n d

section Clamp

variable {T : Type} [LE T] [LT T] [DecidableLT T] [Std.IsLinearOrder T] [Std.LawfulOrderLT T] {n lo hi : T}

theorem le_clamp (h : lo ≤ hi) : lo ≤ clamp n lo hi := by
  unfold clamp
  split
  · exact Std.le_refl lo
  · split
    · exact h
    · exact Std.not_lt.mp ‹_›

theorem clamp_le (h : lo ≤ hi) : clamp n lo hi ≤ hi := by
  unfold clamp
  split
  · exact h
  · split
    · exact Std.le_refl hi
    · exact Std.not_lt.mp ‹_›

end Clamp

/-! ## A sensor -/

/-- `FluctuatingSensor`. -/
structure FluctuatingSensor where
  humidity : UInt16
  temperature : Int16
  pressure : UInt32
deriving DecidableEq

/-- What `advance` draws: an upper bound of `gen_range` is not drawn. -/
structure Draws where
  temperature : Int16
  pressureUp : Bool
  pressure : UInt32
  humidityUp : Bool
  humidity : UInt16
  temperature_mem : -100 ≤ temperature ∧ temperature < 100
  pressure_mem : 100 ≤ pressure ∧ pressure < 1000
  humidity_mem : 20 ≤ humidity ∧ humidity < 90

namespace FluctuatingSensor

/-- `Default::default`. -/
def default : FluctuatingSensor where
  humidity := 5000
  pressure := 10000000
  temperature := 2000

/-- The values of a sensor. -/
def values (self : FluctuatingSensor) (timestamp : Timestamp) : SensorValues where
  timestamp
  temperature := self.temperature
  pressure := self.pressure
  humidity := self.humidity

/-- `advance`. -/
def advance (units : Units) (draws : Draws) (self : FluctuatingSensor) (timestamp : Timestamp) :
    Option (SensorValues × FluctuatingSensor) := do
  let temperature ← addOrPanic Int16.toInt self.temperature draws.temperature
  let pressure ← moveOrPanic (fun n => (n.toNat : ℤ)) draws.pressureUp self.pressure draws.pressure
  let humidity ← moveOrPanic (fun n => (n.toNat : ℤ)) draws.humidityUp self.humidity draws.humidity
  let self : FluctuatingSensor :=
    { humidity := clamp humidity 2000 9000
      temperature := clamp temperature 0 3000
      pressure := clamp pressure 900000 1100000 }
  guard (units.relativeHumidity self.humidity)
  guard (units.celsius self.temperature)
  return (self.values timestamp, self)

/-- Where a sensor is after it has moved. -/
structure InRange (s : FluctuatingSensor) : Prop where
  humidity : 2000 ≤ s.humidity ∧ s.humidity ≤ 9000
  temperature : 0 ≤ s.temperature ∧ s.temperature ≤ 3000
  pressure : 900000 ≤ s.pressure ∧ s.pressure ≤ 1100000

/-- Where a sensor can be: the default pressure is above the range. -/
structure Fluctuates (s : FluctuatingSensor) : Prop where
  humidity : 2000 ≤ s.humidity ∧ s.humidity ≤ 9000
  temperature : 0 ≤ s.temperature ∧ s.temperature ≤ 3000
  pressure : 900000 ≤ s.pressure ∧ s.pressure ≤ 10000000

theorem fluctuates_default : Fluctuates default := by
  constructor <;> decide

theorem InRange.fluctuates {s : FluctuatingSensor} (h : s.InRange) : s.Fluctuates where
  humidity := h.humidity
  temperature := h.temperature
  pressure := ⟨h.pressure.1, Std.le_trans h.pressure.2 (by decide)⟩

end FluctuatingSensor

/-- The conversions accept what a sensor can be at: what the `unwrap`s of `advance` rely on. -/
structure AcceptsDummy (units : Units) : Prop where
  celsius : ∀ n : Int16, 0 ≤ n → n ≤ 3000 → units.celsius n = true
  relativeHumidity : ∀ n : UInt16, 2000 ≤ n → n ≤ 9000 → units.relativeHumidity n = true

namespace FluctuatingSensor

variable {units : Units} {self : FluctuatingSensor}

/-- Where a sensor moves. -/
def moved (draws : Draws) (self : FluctuatingSensor) : FluctuatingSensor where
  humidity := clamp (if draws.humidityUp then self.humidity + draws.humidity
    else self.humidity - draws.humidity) 2000 9000
  temperature := clamp (self.temperature + draws.temperature) 0 3000
  pressure := clamp (if draws.pressureUp then self.pressure + draws.pressure
    else self.pressure - draws.pressure) 900000 1100000

theorem inRange_moved (draws : Draws) (self : FluctuatingSensor) : (self.moved draws).InRange where
  humidity := ⟨le_clamp (by decide), clamp_le (by decide)⟩
  temperature := ⟨le_clamp (by decide), clamp_le (by decide)⟩
  pressure := ⟨le_clamp (by decide), clamp_le (by decide)⟩

theorem add_temperature (h : self.Fluctuates) (draws : Draws) :
    addOrPanic Int16.toInt self.temperature draws.temperature = some (self.temperature + draws.temperature) := by
  obtain ⟨hlo, hhi⟩ := h.temperature
  obtain ⟨hlo', hhi'⟩ := draws.temperature_mem
  rw [Int16.le_iff_toInt_le] at hlo hhi hlo'
  rw [Int16.lt_iff_toInt_lt] at hhi'
  apply if_pos
  rw [Int16.toInt_add]
  have h0 : (0 : Int16).toInt = 0 := rfl
  have h1 : (3000 : Int16).toInt = 3000 := rfl
  have h2 : (-100 : Int16).toInt = -100 := rfl
  have h3 : (100 : Int16).toInt = 100 := rfl
  apply Int.bmod_eq_of_le <;> omega

theorem move_pressure (h : self.Fluctuates) (draws : Draws) :
    moveOrPanic (fun n => (n.toNat : ℤ)) draws.pressureUp self.pressure draws.pressure =
      some (if draws.pressureUp then self.pressure + draws.pressure else self.pressure - draws.pressure) := by
  obtain ⟨hlo, hhi⟩ := h.pressure
  obtain ⟨hlo', hhi'⟩ := draws.pressure_mem
  rw [UInt32.le_iff_toNat_le] at hlo hhi hlo'
  rw [UInt32.lt_iff_toNat_lt] at hhi'
  have h0 : (900000 : UInt32).toNat = 900000 := rfl
  have h1 : (10000000 : UInt32).toNat = 10000000 := rfl
  have h2 : (1000 : UInt32).toNat = 1000 := rfl
  unfold moveOrPanic
  split
  · apply if_pos
    dsimp only
    rw [UInt32.toNat_add]
    omega
  · apply if_pos
    dsimp only
    rw [UInt32.toNat_sub_of_le _ _ (UInt32.le_iff_toNat_le.mpr (by omega))]
    omega

theorem move_humidity (h : self.Fluctuates) (draws : Draws) :
    moveOrPanic (fun n => (n.toNat : ℤ)) draws.humidityUp self.humidity draws.humidity =
      some (if draws.humidityUp then self.humidity + draws.humidity else self.humidity - draws.humidity) := by
  obtain ⟨hlo, hhi⟩ := h.humidity
  obtain ⟨hlo', hhi'⟩ := draws.humidity_mem
  rw [UInt16.le_iff_toNat_le] at hlo hhi hlo'
  rw [UInt16.lt_iff_toNat_lt] at hhi'
  have h0 : (2000 : UInt16).toNat = 2000 := rfl
  have h1 : (9000 : UInt16).toNat = 9000 := rfl
  have h2 : (90 : UInt16).toNat = 90 := rfl
  unfold moveOrPanic
  split
  · apply if_pos
    dsimp only
    rw [UInt16.toNat_add]
    omega
  · apply if_pos
    dsimp only
    rw [UInt16.toNat_sub_of_le _ _ (UInt16.le_iff_toNat_le.mpr (by omega))]
    omega

/-- A sensor moves without a panic. -/
theorem advance_eq (hunits : AcceptsDummy units) (h : self.Fluctuates) (draws : Draws) (timestamp : Timestamp) :
    self.advance units draws timestamp = some ((self.moved draws).values timestamp, self.moved draws) := by
  have hrange := inRange_moved draws self
  have hhumidity := hunits.relativeHumidity _ hrange.humidity.1 hrange.humidity.2
  have hcelsius := hunits.celsius _ hrange.temperature.1 hrange.temperature.2
  unfold advance
  rw [add_temperature h, move_pressure h, move_humidity h]
  unfold moved at hhumidity hcelsius ⊢
  simp [hhumidity, hcelsius]

/-- The default pressure is too high to come back into the range in one move. -/
theorem pressure_moved_default (draws : Draws) : (default.moved draws).pressure = 1100000 := by
  obtain ⟨hlo, hhi⟩ := draws.pressure_mem
  rw [UInt32.le_iff_toNat_le] at hlo
  rw [UInt32.lt_iff_toNat_lt] at hhi
  have h0 : (1000 : UInt32).toNat = 1000 := rfl
  have h1 : (10000000 : UInt32).toNat = 10000000 := rfl
  have h2 : (1100000 : UInt32).toNat = 1100000 := rfl
  have h3 : (900000 : UInt32).toNat = 900000 := rfl
  have habove : (1100000 : UInt32) < if draws.pressureUp then 10000000 + draws.pressure
      else 10000000 - draws.pressure := by
    rw [UInt32.lt_iff_toNat_lt]
    split
    · rw [UInt32.toNat_add]
      omega
    · rw [UInt32.toNat_sub_of_le _ _ (UInt32.le_iff_toNat_le.mpr (by omega))]
      omega
  have hnot : ¬ (if draws.pressureUp then 10000000 + draws.pressure else 10000000 - draws.pressure) <
      (900000 : UInt32) := by
    rw [UInt32.lt_iff_toNat_lt] at habove ⊢
    omega
  exact (if_neg hnot).trans (if_pos habove)

end FluctuatingSensor

/-! ## The source -/

/-- A turn of the loop: what the clock says, and what is drawn for each sensor. -/
structure Round where
  now : Timestamp
  draws : Uuid → Draws

/-- The sensors of the source. -/
abbrev DummySensors := List (Uuid × FluctuatingSensor)

/-- A turn of the loop over the sensors. -/
def fill (units : Units) (round : Round) (state : UpdateItem × DummySensors)
    (entry : Uuid × FluctuatingSensor) : Option (UpdateItem × DummySensors) := do
  let (values, sensor) ← entry.2.advance units (round.draws entry.1) round.now
  return (state.1.insert entry.1 (.connected values), state.2 ++ [(entry.1, sensor)])

/-- The loop of the task: the batches that it sends. -/
def dummyLoop (units : Units) : DummySensors → List Round → Option (List UpdateItem)
  | _, [] => some []
  | sensors, round :: rounds => do
      let (map, sensors) ← sensors.foldlM (fill units round) (∅, [])
      let batches ← dummyLoop units sensors rounds
      return map :: batches

/-- The sensors at the start. -/
def initialSensors (n : ℕ) : DummySensors := (List.range n).map fun id => (BitVec.ofNat 128 id, .default)

/-- `dummy_sensors`, for the range `0..n`. -/
def dummySensors (units : Units) (n : ℕ) (rounds : List Round) : Option (List UpdateItem) :=
  dummyLoop units (initialSensors n) rounds

/-- What a sensor is in the batch of a round. -/
def Round.state (round : Round) (entry : Uuid × FluctuatingSensor) : SensorState :=
  .connected ((entry.2.moved (round.draws entry.1)).values round.now)

/-- The batch of a round. -/
def Round.batch (round : Round) (sensors : DummySensors) (map : UpdateItem) : UpdateItem :=
  sensors.foldl (fun map entry => map.insert entry.1 (round.state entry)) map

/-- The sensors after a round. -/
def Round.after (round : Round) (sensors : DummySensors) : DummySensors :=
  sensors.map fun entry => (entry.1, entry.2.moved (round.draws entry.1))

variable {units : Units} {sensors : DummySensors} {round : Round} {id : Uuid}

/-- The loop over the sensors does not panic. -/
theorem foldlM_fill (hunits : AcceptsDummy units) (h : ∀ entry ∈ sensors, entry.2.Fluctuates)
    (map : UpdateItem) (done : DummySensors) :
    sensors.foldlM (fill units round) (map, done) =
      some (round.batch sensors map, done ++ round.after sensors) := by
  induction sensors generalizing map done with
  | nil => simp [Round.batch, Round.after]
  | cons entry sensors ih =>
      obtain ⟨hentry, hrest⟩ := List.forall_mem_cons.mp h
      have hfill : fill units round (map, done) entry = some (map.insert entry.1 (round.state entry),
          done ++ [(entry.1, entry.2.moved (round.draws entry.1))]) := by
        unfold fill
        rw [FluctuatingSensor.advance_eq hunits hentry]
        rfl
      rw [List.foldlM_cons, hfill]
      refine (ih hrest _ _).trans ?_
      rw [List.append_assoc]
      rfl

/-- An entry of the batch for each sensor, and no other. -/
theorem keyed_state : Keyed Prod.fst (fun (map : UpdateItem) id => map[id]?)
    (fun map entry => (.ok (map.insert entry.1 (round.state entry)) : Except Unit UpdateItem))
    fun entry _ => some (some (round.state entry)) where
  at_key := by
    intro map entry map' h
    cases h
    simp
  at_other := by
    intro map entry map' h k hk
    cases h
    simp [Std.ExtTreeMap.getElem?_insert, Ne.symm hk]

theorem getElem?_batch (hnd : (sensors.map Prod.fst).Nodup) {state : SensorState} :
    (round.batch sensors ∅)[id]? = some state ↔
      ∃ sensor, (id, sensor) ∈ sensors ∧ state = round.state (id, sensor) := by
  have hfold := foldlM_ok (ε := Unit) (fun map entry => map.insert entry.1 (round.state entry)) sensors
    (∅ : UpdateItem)
  by_cases hid : id ∈ sensors.map Prod.fst
  · obtain ⟨⟨_, sensor⟩, hmem, rfl⟩ := List.mem_map.mp hid
    have hat := Option.some.inj (keyed_state.of_foldlM hnd hfold hmem)
    have heq : (round.batch sensors ∅)[_]? = some (round.state (_, sensor)) := hat.symm
    rw [heq]
    constructor
    · intro h
      exact ⟨sensor, hmem, (Option.some.inj h).symm⟩
    · rintro ⟨sensor', hmem', rfl⟩
      have hsame := List.inj_on_of_nodup_map hnd hmem hmem' rfl
      rw [hsame]
  · have hat : (round.batch sensors ∅)[id]? = (∅ : UpdateItem)[id]? :=
      keyed_state.of_foldlM_of_notMem hfold hid
    rw [hat, Std.ExtTreeMap.getElem?_empty]
    constructor
    · intro h
      cases h
    · rintro ⟨sensor, hmem, -⟩
      exact absurd (List.mem_map_of_mem hmem) hid

/-- The batch that a round of `n` sensors should make. -/
structure DummyBatch (n : ℕ) (now : Timestamp) (batch : UpdateItem) : Prop where
  mem_iff : ∀ id : Uuid, id ∈ batch ↔ id.toNat < n
  connected : ∀ (id : Uuid) (state : SensorState), batch[id]? = some state →
    ∃ sensor : FluctuatingSensor, sensor.InRange ∧ state = .connected (sensor.values now)

/-- The sensors in the loop: one for each number. -/
structure DummyInv (n : ℕ) (sensors : DummySensors) : Prop where
  nodup : (sensors.map Prod.fst).Nodup
  mem_iff : ∀ id, id ∈ sensors.map Prod.fst ↔ id.toNat < n
  fluctuates : ∀ entry ∈ sensors, entry.2.Fluctuates

theorem DummyInv.initial {n : ℕ} (hn : n ≤ 2 ^ 128) : DummyInv n (initialSensors n) := by
  have hids : (initialSensors n).map Prod.fst = (List.range n).map (BitVec.ofNat 128) := by
    unfold initialSensors
    rw [List.map_map]
    rfl
  refine ⟨?_, fun id => ?_, fun entry hentry => ?_⟩
  · rw [hids]
    apply List.nodup_range.map_on
    intro i hi j hj heq
    have hmod := congrArg BitVec.toNat heq
    rw [BitVec.toNat_ofNat, BitVec.toNat_ofNat] at hmod
    rw [List.mem_range] at hi hj
    rwa [Nat.mod_eq_of_lt (by omega), Nat.mod_eq_of_lt (by omega)] at hmod
  · rw [hids, List.mem_map]
    constructor
    · rintro ⟨i, hi, rfl⟩
      rw [BitVec.toNat_ofNat]
      exact (Nat.mod_le _ _).trans_lt (List.mem_range.mp hi)
    · intro hid
      exact ⟨id.toNat, List.mem_range.mpr hid, by simp⟩
  · obtain ⟨i, -, rfl⟩ := List.mem_map.mp hentry
    exact FluctuatingSensor.fluctuates_default

theorem DummyInv.after {n : ℕ} (h : DummyInv n sensors) (round : Round) : DummyInv n (round.after sensors) := by
  have hids : (round.after sensors).map Prod.fst = sensors.map Prod.fst := by
    unfold Round.after
    rw [List.map_map]
    rfl
  refine ⟨hids ▸ h.nodup, fun id => hids ▸ h.mem_iff id, fun entry hentry => ?_⟩
  obtain ⟨before, -, rfl⟩ := List.mem_map.mp hentry
  exact (FluctuatingSensor.inRange_moved _ _).fluctuates

theorem DummyInv.batch {n : ℕ} (h : DummyInv n sensors) (round : Round) :
    DummyBatch n round.now (round.batch sensors ∅) where
  mem_iff id := by
    rw [← h.mem_iff, Std.ExtTreeMap.mem_iff_isSome_getElem?, Option.isSome_iff_exists, List.mem_map]
    constructor
    · rintro ⟨state, hstate⟩
      obtain ⟨sensor, hmem, -⟩ := (getElem?_batch h.nodup).mp hstate
      exact ⟨(id, sensor), hmem, rfl⟩
    · rintro ⟨⟨_, sensor⟩, hmem, rfl⟩
      exact ⟨_, (getElem?_batch h.nodup).mpr ⟨sensor, hmem, rfl⟩⟩
  connected id state hstate := by
    obtain ⟨sensor, -, rfl⟩ := (getElem?_batch h.nodup).mp hstate
    exact ⟨_, FluctuatingSensor.inRange_moved (round.draws id) sensor, rfl⟩

/-- The loop goes on, and each batch has all of the sensors. -/
theorem exists_dummyLoop (hunits : AcceptsDummy units) {n : ℕ} (h : DummyInv n sensors)
    (rounds : List Round) :
    ∃ batches, dummyLoop units sensors rounds = some batches ∧
      List.Forall₂ (fun batch round => DummyBatch n round.now batch) batches rounds ∧
      batches.head? = rounds.head?.map (·.batch sensors ∅) := by
  induction rounds generalizing sensors with
  | nil => exact ⟨[], rfl, .nil, rfl⟩
  | cons round rounds ih =>
      obtain ⟨batches, hloop, hbatches, -⟩ := ih (h.after round)
      refine ⟨round.batch sensors ∅ :: batches, ?_, .cons (h.batch round) hbatches, rfl⟩
      unfold dummyLoop
      rw [foldlM_fill hunits h.fluctuates]
      simp [hloop]

/-- Each batch is that of a round. -/
theorem exists_round {n : ℕ} {batches : List UpdateItem} {rounds : List Round}
    (h : List.Forall₂ (fun batch round => DummyBatch n round.now batch) batches rounds) {batch : UpdateItem}
    (hbatch : batch ∈ batches) : ∃ round ∈ rounds, DummyBatch n round.now batch := by
  induction h with
  | nil => cases hbatch
  | @cons first round _ _ hfirst _ ih =>
      rcases List.mem_cons.mp hbatch with rfl | hbatch
      · exact ⟨round, List.mem_cons_self, hfirst⟩
      · obtain ⟨round', hround, hbatch⟩ := ih hbatch
        exact ⟨round', List.mem_cons_of_mem _ hround, hbatch⟩

/-- In the first batch, every pressure is at the upper end of its range. -/
theorem pressure_of_first {n : ℕ} (hn : n ≤ 2 ^ 128) {values : SensorValues}
    (h : (round.batch (initialSensors n) ∅)[id]? = some (.connected values)) : values.pressure = 1100000 := by
  obtain ⟨sensor, hmem, hstate⟩ := (getElem?_batch (DummyInv.initial hn).nodup).mp h
  obtain ⟨i, -, hentry⟩ := List.mem_map.mp hmem
  cases hentry
  cases hstate
  exact FluctuatingSensor.pressure_moved_default (round.draws _)

/-- **Dummy sensors.** Whatever is drawn and whatever the clock says, the source goes on without a panic: no
number overflows and every conversion succeeds. Each of its batches has exactly the sensors from `0` on and
below `n`, all of them connected, with values in their ranges and the time of the round. In the first batch,
all pressures are the highest of their range. -/
theorem dummy_batches (hunits : AcceptsDummy units) {n : ℕ} (hn : n ≤ 2 ^ 128) (rounds : List Round) :
    ∃ batches, dummySensors units n rounds = some batches ∧
      List.Forall₂ (fun batch round => DummyBatch n round.now batch) batches rounds ∧
      ∀ batch ∈ batches.head?, ∀ (id : Uuid) (values : SensorValues),
        batch[id]? = some (.connected values) → values.pressure = 1100000 := by
  obtain ⟨batches, hloop, hbatches, hhead⟩ := exists_dummyLoop hunits (.initial hn) rounds
  refine ⟨batches, hloop, hbatches, fun batch hbatch id values hvalues => ?_⟩
  rw [hhead, Option.mem_def] at hbatch
  obtain ⟨round, -, rfl⟩ := Option.map_eq_some_iff.mp hbatch
  exact pressure_of_first hn hvalues

/-- The draws that move a sensor down as far as can be. -/
def lowest : Draws where
  temperature := -100
  pressureUp := false
  pressure := 999
  humidityUp := false
  humidity := 89
  temperature_mem := by decide
  pressure_mem := by decide
  humidity_mem := by decide

theorem acceptsDummy_total : AcceptsDummy .total := ⟨fun _ _ _ => rfl, fun _ _ _ => rfl⟩

/-- The theorem for one sensor, and thirty rounds with the lowest draws. -/
theorem dummy_batches_lowest :
    ∃ batches, dummySensors .total 1 (List.replicate 30 ⟨100, fun _ => lowest⟩) = some batches ∧
      batches.length = 30 ∧ ∀ batch ∈ batches, DummyBatch 1 100 batch := by
  obtain ⟨batches, hloop, hbatches, -⟩ :=
    dummy_batches acceptsDummy_total (by decide : 1 ≤ 2 ^ 128) (List.replicate 30 ⟨100, fun _ => lowest⟩)
  refine ⟨batches, hloop, hbatches.length_eq.trans (List.length_replicate ..), fun batch hbatch => ?_⟩
  obtain ⟨round, hround, hbatch⟩ := exists_round hbatches hbatch
  rw [List.eq_of_mem_replicate hround] at hbatch
  exact hbatch

/-! ## Dummy sensors on a server -/

section Served

variable {n : ℕ} {batches : List UpdateItem} {rounds : List Round}
  (h : List.Forall₂ (fun batch round => DummyBatch n round.now batch) batches rounds)
include h

/-- A sensor has one reading a round. -/
theorem timestamps_readings (hid : id.toNat < n) :
    (readings batches id).map SensorValues.timestamp = rounds.map Round.now := by
  unfold readings
  induction h with
  | nil => rfl
  | cons hbatch _ ih =>
      obtain ⟨state, hstate⟩ := Option.isSome_iff_exists.mp
        (Std.ExtTreeMap.mem_iff_isSome_getElem?.mp ((hbatch.mem_iff id).mpr hid))
      obtain ⟨sensor, -, rfl⟩ := hbatch.connected id state hstate
      simp only [List.filterMap_cons, reading_eq_some.mpr hstate, List.map_cons, ih]
      rfl

/-- A sensor is connected in each round, with values in their ranges and the time of the round. -/
theorem forall₂_states (hid : id.toNat < n) : List.Forall₂ (fun state (round : Round) =>
    ∃ sensor : FluctuatingSensor, sensor.InRange ∧ state = .connected (sensor.values round.now))
      (states batches id) rounds := by
  unfold states
  induction h with
  | nil => exact .nil
  | cons hbatch _ ih =>
      obtain ⟨state, hstate⟩ := Option.isSome_iff_exists.mp
        (Std.ExtTreeMap.mem_iff_isSome_getElem?.mp ((hbatch.mem_iff id).mpr hid))
      simp only [List.filterMap_cons, hstate]
      exact .cons (hbatch.connected id state hstate) ih

/-- So it is in the last one. -/
theorem getLast?_states (hid : id.toNat < n) {round : Round} (hlast : rounds.getLast? = some round) :
    ∃ sensor : FluctuatingSensor, sensor.InRange ∧
      (states batches id).getLast? = some (.connected (sensor.values round.now)) := by
  have hreverse := List.forall₂_reverse_iff.mpr (forall₂_states h hid)
  rw [List.getLast?_eq_head?_reverse] at hlast ⊢
  obtain ⟨front, hfront⟩ := List.head?_eq_some_iff.mp hlast
  rw [hfront] at hreverse
  obtain ⟨state, states', ⟨sensor, hrange, rfl⟩, -, heq⟩ := List.forall₂_cons_right_iff.mp hreverse
  rw [heq]
  exact ⟨sensor, hrange, rfl⟩

/-- The other sensors are in none of the batches. -/
theorem notMem_of_le (hid : n ≤ id.toNat) : ∀ batch ∈ batches, id ∉ batch := by
  intro batch hbatch hmem
  obtain ⟨round, -, hbatch⟩ := exists_round h hbatch
  exact absurd ((hbatch.mem_iff id).mp hmem) (Nat.not_lt.mpr hid)

/-- They have no readings there. -/
theorem readings_eq_nil (hid : n ≤ id.toNat) : readings batches id = [] := by
  unfold readings
  rw [List.filterMap_eq_nil_iff]
  intro batch hbatch
  rw [reading, Std.ExtTreeMap.getElem?_eq_none (notMem_of_le h hid batch hbatch)]

end Served

/-- **The demo mode.** As long as the backend does not fail, `update` processes all batches of the dummy sensors if
and only if, for each dummy sensor that has a log, the clock goes forward from the last reading there to the first
round and from round to round; where none of them has a log, nothing is asked of the clock. Then every dummy
sensor is shown with values of the last round, those that have a log have one more reading there for each round,
and all other sensors are left alone. -/
theorem dummy_served (self : Context) (hunits : AcceptsDummy units) {n : ℕ} (hn : n ≤ 2 ^ 128)
    {rounds : List Round} {batches : List UpdateItem} (h : dummySensors units n rounds = some batches) :
    ((∃ ctx, update self (batches.map (Faults.none, ·)) = (.ok (), ctx)) ↔
        ∀ id ∈ self.db.sensorLog, id.toNat < n →
          ((self.db.logged id).map SensorValues.timestamp ++ rounds.map Round.now).Pairwise (· < ·)) ∧
      ∀ ctx, update self (batches.map (Faults.none, ·)) = (.ok (), ctx) →
        (∀ id : Uuid, id.toNat < n →
          (∀ round ∈ rounds.getLast?, ∃ sensor : FluctuatingSensor, sensor.InRange ∧
            ctx.sensors[id]?.map Sensor.state = some (.connected (sensor.values round.now))) ∧
          ∃ added, ctx.db.logged id = self.db.logged id ++ added ∧
            added.map SensorValues.timestamp = if id ∈ self.db.sensorLog then rounds.map Round.now else []) ∧
        ∀ id : Uuid, n ≤ id.toNat → SameAt id self ctx := by
  obtain ⟨batches', hloop, hbatches, -⟩ := exists_dummyLoop hunits (.initial hn) rounds
  obtain rfl : batches' = batches := Option.some.inj (hloop.symm.trans h)
  refine ⟨?_, fun ctx hupdate => ⟨fun id hid => ⟨fun round hround => ?_, ?_⟩, fun id hid => ?_⟩⟩
  · rw [exists_update_iff]
    refine forall₂_congr fun id hknown => ?_
    by_cases hid : id.toNat < n
    · rw [imp_iff_right hid, ← timestamps_readings hbatches hid, ← List.map_append, List.pairwise_map]
      rfl
    · rw [readings_eq_nil hbatches (Nat.not_lt.mp hid), List.append_nil]
      exact iff_of_true (chronological_logged _ _) fun hlt => absurd hlt hid
  · obtain ⟨sensor, hrange, hlast⟩ := getLast?_states hbatches hid hround
    refine ⟨sensor, hrange, ?_⟩
    rw [(of_update hupdate id).2, hlast]
    rfl
  · refine ⟨_, (of_update hupdate id).1, ?_⟩
    split
    · exact timestamps_readings hbatches hid
    · rfl
  · exact sameAt_of_update hupdate (notMem_of_le hbatches hid)

/-- The theorem for a known sensor: two rounds half a minute apart are processed, and two within a second are
not. -/
theorem dummy_served_one :
    ∃ self : Context, Context.create ⟨(∅ : BTreeMap Uuid IdDbEntry).insert 0 {}, ∅⟩ = .ok self ∧
      (∀ batches, dummySensors .total 1 [⟨100, fun _ => lowest⟩, ⟨130, fun _ => lowest⟩] = some batches →
        ∃ ctx, update self (batches.map (Faults.none, ·)) = (.ok (), ctx) ∧
          (ctx.db.logged 0).map SensorValues.timestamp = [100, 130]) ∧
      ∀ batches, dummySensors .total 1 [⟨100, fun _ => lowest⟩, ⟨100, fun _ => lowest⟩] = some batches →
        ¬ ∃ ctx, update self (batches.map (Faults.none, ·)) = (.ok (), ctx) := by
  have hcreate : ∃ self : Context, Context.create ⟨(∅ : BTreeMap Uuid IdDbEntry).insert 0 {}, ∅⟩ = .ok self ∧
      self.db.logged 0 = [] ∧ (0 : Uuid) ∈ self.db.sensorLog :=
    ⟨_, rfl, by decide +kernel, by decide +kernel⟩
  obtain ⟨self, hcreate, hempty, hknown⟩ := hcreate
  refine ⟨self, hcreate, fun batches hbatches => ?_, fun batches hbatches hupdate => ?_⟩
  · obtain ⟨hiff, hserved⟩ := dummy_served self acceptsDummy_total (by decide : 1 ≤ 2 ^ 128) hbatches
    obtain ⟨ctx, hupdate⟩ := hiff.mpr fun id _ hid => by
      obtain rfl : id = 0 := BitVec.eq_of_toNat_eq (Nat.lt_one_iff.mp hid)
      rw [hempty]
      decide
    obtain ⟨-, added, hadded, htimes⟩ := (hserved ctx hupdate).1 0 (by decide)
    refine ⟨ctx, hupdate, ?_⟩
    rw [hadded, hempty, List.nil_append, htimes, if_pos hknown]
    rfl
  · have hiff := (dummy_served self acceptsDummy_total (by decide : 1 ≤ 2 ^ 128) hbatches).1
    have hforward := hiff.mp hupdate 0 hknown (by decide)
    rw [hempty] at hforward
    exact absurd hforward (by decide)

end BleWsCentral.Server
