import BleWsCentral.Found.Feed
import BleWsCentral.Server.SensorLog

/-!
# The registry of sensors

What the server is for, without its database, its tasks and its transactions: a registry of sensors, each with
a label, a history of readings and what is shown of it.

* `Registry` — the known sensors, of which some are served with their histories.
* `Registry.Next` — what happens to a registry: sensors are learnt, named, recorded and shown, and it is opened
  anew.
* `Registry.Answers`, `Registry.Shown` — what it answers to a request for readings, and for an overview.
* `Registry.grows` — it never forgets anything, so a reader who goes on where it stopped misses nothing
  (`Registry.answers_resumed`).
-/

namespace BleWsCentral.Server

open BleWsCentral.Found

/-- The sensors that are known, with their labels, the readings that were recorded, the sensors that readings
are recorded for, and the states that are shown. -/
structure Registry where
  label : Uuid → Option (Option String)
  history : Uuid → List SensorValues
  served : Set Uuid
  shown : Uuid → Option SensorState
  known_of_served : ∀ id ∈ served, (label id).isSome = true
  known_of_shown : ∀ id, (shown id).isSome = true → (label id).isSome = true
  chronological : ∀ id, Chronological (history id)

namespace Registry

variable {r r' : Registry}

/-! ## What happens to it -/

/-- Sensors become known. -/
def learn (r : Registry) (ids : List Uuid) : Registry where
  label id := if id ∈ ids ∧ r.label id = none then some none else r.label id
  history := r.history
  served := r.served
  shown := r.shown
  known_of_served id hid := by
    split
    · rfl
    · exact r.known_of_served id hid
  known_of_shown id hid := by
    split
    · rfl
    · exact r.known_of_shown id hid
  chronological := r.chronological

/-- A known sensor gets a label. -/
def relabel (r : Registry) (id : Uuid) (newLabel : Option String) : Registry where
  label id' := if id = id' then (r.label id').map fun _ => newLabel else r.label id'
  history := r.history
  served := r.served
  shown := r.shown
  known_of_served id' hid' := by
    split <;> simp [r.known_of_served id' hid']
  known_of_shown id' hid' := by
    split <;> simp [r.known_of_shown id' hid']
  chronological := r.chronological

/-- Readings of sensors that are served are recorded. -/
def record (r : Registry) (readings : Uuid → Option SensorValues)
    (horder : ∀ id, Chronological (r.history id ++ (readings id).toList)) : Registry where
  label := r.label
  history id := r.history id ++ (readings id).toList
  served := r.served
  shown := r.shown
  known_of_served := r.known_of_served
  known_of_shown := r.known_of_shown
  chronological := horder

/-- The states of known sensors are shown. -/
def present (r : Registry) (states : Uuid → Option SensorState)
    (hknown : ∀ id, (states id).isSome = true → (r.label id).isSome = true) : Registry where
  label := r.label
  history := r.history
  served := r.served
  shown id := (states id).or (r.shown id)
  known_of_served := r.known_of_served
  known_of_shown id hid := by
    rw [Option.isSome_or, Bool.or_eq_true] at hid
    rcases hid with hid | hid
    · exact hknown id hid
    · exact r.known_of_shown id hid
  chronological := r.chronological

/-- The registry is opened anew: all known sensors are served, and none of them was heard yet. -/
def reopen (r : Registry) : Registry where
  label := r.label
  history := r.history
  served := {id | (r.label id).isSome = true}
  shown id := (r.label id).map fun _ => .unconnected
  known_of_served _ hid := hid
  known_of_shown id hid := by
    rwa [Option.isSome_map] at hid
  chronological := r.chronological

/-- What happens to a registry. -/
inductive Next : Registry → Registry → Prop
  | learn (r : Registry) (ids : List Uuid) : Next r (r.learn ids)
  | relabel (r : Registry) (id : Uuid) (newLabel : Option String) : Next r (r.relabel id newLabel)
  | record (r : Registry) (readings : Uuid → Option SensorValues)
      (hserved : ∀ id, (readings id).isSome = true → id ∈ r.served)
      (horder : ∀ id, Chronological (r.history id ++ (readings id).toList)) : Next r (r.record readings horder)
  | present (r : Registry) (states : Uuid → Option SensorState)
      (hknown : ∀ id, (states id).isSome = true → (r.label id).isSome = true) :
      Next r (r.present states hknown)
  | reopen (r : Registry) : Next r r.reopen

/-! ## What it never forgets -/

/-- The registry knows, serves and has recorded at least as much. -/
structure Grows (r r' : Registry) : Prop where
  known : ∀ id, (r.label id).isSome = true → (r'.label id).isSome = true
  served : r.served ⊆ r'.served
  history : ∀ id, r.history id <+: r'.history id

theorem Grows.refl (r : Registry) : Grows r r :=
  ⟨fun _ h => h, Set.Subset.rfl, fun _ => List.prefix_rfl⟩

theorem Grows.trans {r'' : Registry} (h : Grows r r') (h' : Grows r' r'') : Grows r r'' :=
  ⟨fun id hid => h'.known id (h.known id hid), h.served.trans h'.served,
    fun id => (h.history id).trans (h'.history id)⟩

/-- Whatever happens, the registry grows. -/
theorem Next.grows (h : Next r r') : Grows r r' := by
  cases h with
  | learn ids =>
      refine ⟨fun id hid => ?_, Set.Subset.rfl, fun _ => List.prefix_rfl⟩
      unfold Registry.learn
      dsimp only
      split
      · rfl
      · exact hid
  | relabel id newLabel =>
      refine ⟨fun id' hid => ?_, Set.Subset.rfl, fun _ => List.prefix_rfl⟩
      unfold Registry.relabel
      dsimp only
      split
      · rwa [Option.isSome_map]
      · exact hid
  | record readings _ _ => exact ⟨fun _ h => h, Set.Subset.rfl, fun id => List.prefix_append _ _⟩
  | present states _ => exact ⟨fun _ h => h, Set.Subset.rfl, fun _ => List.prefix_rfl⟩
  | reopen => exact ⟨fun _ h => h, fun id hid => r.known_of_served id hid, fun _ => List.prefix_rfl⟩

/-- So it does over any number of steps. -/
theorem grows (h : Relation.ReflTransGen Next r r') : Grows r r' := by
  induction h with
  | refl => exact .refl r
  | tail _ hnext ih => exact ih.trans hnext.grows

/-! ## What it answers -/

/-- The columns a request for the readings of a sensor is answered with. -/
def Answers (r : Registry) (id : Uuid) (start stop : Timestamp) (resp : SensorDataResponse) : Prop :=
  id ∈ r.served ∧ Shows resp (within start stop (r.history id))

/-- An overview has the sensors that are shown, in the order of their ids, with their labels. -/
structure Shown (r : Registry) (resp : OverviewResponse) : Prop where
  sorted : resp.overview.Pairwise fun field field' => field.id < field'.id
  fields : ∀ (id : Uuid) (overview : SensorOverview), ⟨id, overview⟩ ∈ resp.overview ↔
    ∃ state, r.shown id = some state ∧ overview = ⟨(r.label id).join, currentValues state⟩

/-! ## Readers -/

/-- The readings of a range are what is in a feed. -/
theorem within_eq_during (start stop : Timestamp) (readings : List SensorValues) :
    within start stop readings =
      during (fun values => values.timestamp.toNat) start.toNat stop.toNat readings := by
  unfold within during
  simp only [UInt32.le_iff_toNat_le, UInt32.lt_iff_toNat_lt]

theorem chronological_iff {readings : List SensorValues} :
    Chronological readings ↔ InOrder (fun values : SensorValues => values.timestamp.toNat) readings := by
  unfold Chronological InOrder
  simp only [UInt32.lt_iff_toNat_lt]

/-- Where a reader goes on that got these columns: behind their last time. -/
def cursor (start : Timestamp) (resp : SensorDataResponse) : Timestamp :=
  match resp.time.getLast? with
  | none => start
  | some last => last + 1

/-- Columns with others below them. -/
def below (resp resp' : SensorDataResponse) : SensorDataResponse where
  time := resp.time ++ resp'.time
  temperature := resp.temperature ++ resp'.temperature
  pressure := resp.pressure ++ resp'.pressure
  humidity := resp.humidity ++ resp'.humidity

theorem shows_below {resp resp' : SensorDataResponse} {readings readings' : List SensorValues}
    (h : Shows resp readings) (h' : Shows resp' readings') :
    Shows (below resp resp') (readings ++ readings') where
  time := by
    rw [below, h.time, h'.time, List.map_append]
  temperature := by
    rw [below, List.map_append, h.temperature, h'.temperature, List.map_append]
  pressure := by
    rw [below, h.pressure, h'.pressure, List.map_append]
  humidity := by
    rw [below, List.map_append, h.humidity, h'.humidity, List.map_append]

/-- Readings are shown in one way only. -/
theorem shows_unique {resp resp' : SensorDataResponse} {readings : List SensorValues}
    (h : Shows resp readings) (h' : Shows resp' readings) : resp = resp' := by
  have htemperature : resp.temperature = resp'.temperature :=
    List.map_injective_iff.mpr (fun _ _ => Int32.toInt_inj.mp) (h.temperature.trans h'.temperature.symm)
  have hhumidity : resp.humidity = resp'.humidity :=
    List.map_injective_iff.mpr (fun _ _ => UInt32.toNat_inj.mp) (h.humidity.trans h'.humidity.symm)
  cases resp
  cases resp'
  simp only [SensorDataResponse.mk.injEq]
  exact ⟨h.time.trans h'.time.symm, htemperature, h.pressure.trans h'.pressure.symm, hhumidity⟩

/-- The cursor is the first time behind what a reader has seen. It does not wrap around: the last time that was
seen is before `stop`. -/
theorem goesOn_cursor {start stop : Timestamp} {resp : SensorDataResponse} {readings : List SensorValues}
    (horder : Chronological readings) (h : Shows resp (within start stop readings)) :
    GoesOn (fun values : SensorValues => values.timestamp.toNat) start.toNat (cursor start resp).toNat
      (within start stop readings) := by
  have hlast : resp.time.getLast? = (within start stop readings).getLast?.map SensorValues.timestamp := by
    rw [h.time, List.getLast?_map]
  unfold cursor
  rw [hlast]
  cases hseen : (within start stop readings).getLast? with
  | none =>
      rw [List.getLast?_eq_none_iff.mp hseen]
      intro t
      simp
  | some last =>
      have hmem : last ∈ within start stop readings := List.mem_of_getLast? hseen
      rw [within_eq_during] at hmem
      obtain ⟨-, hstart, hstop⟩ := mem_during.mp hmem
      have hsorted := chronological_iff.mp (horder.sublist (List.filter_sublist (p := fun values =>
        decide (start ≤ values.timestamp ∧ values.timestamp < stop))))
      obtain ⟨seen, hsplit⟩ := List.getLast?_eq_some_iff.mp hseen
      rw [← within, hsplit] at hsorted
      rw [hsplit]
      apply GoesOn.of_last hsorted hstart
      intro t
      have hlt := stop.toNat_lt
      have hnext : (last.timestamp + 1).toNat = last.timestamp.toNat + 1 := by
        rw [UInt32.toNat_add]
        simp only [UInt32.toNat_one]
        omega
      simp only [Option.map_some, hnext]
      exact Nat.succ_le_iff

/-- What a reader got, with what it gets when it goes on later, is what one request gets then. -/
theorem answers_resumed {id : Uuid} {start stop : Timestamp} {resp resp' : SensorDataResponse}
    (hgrows : Grows r r') (h : r.Answers id start stop resp)
    (h' : r'.Answers id (cursor start resp) stop resp') : r'.Answers id start stop (below resp resp') := by
  obtain ⟨-, hshows⟩ := h
  obtain ⟨hserved, hshows'⟩ := h'
  obtain ⟨added, hadded⟩ := hgrows.history id
  have hnext := goesOn_cursor (r.chronological id) hshows
  have horder := chronological_iff.mp (r'.chronological id)
  rw [← hadded] at horder hshows'
  rw [within_eq_during] at hnext
  refine ⟨hserved, ?_⟩
  have hresume := during_resume horder hnext
  rw [← within_eq_during, ← within_eq_during, ← within_eq_during] at hresume
  rw [← hadded, hresume]
  exact shows_below hshows hshows'

end Registry

end BleWsCentral.Server
