import Mathlib

/-!
# Data shared by the modules

The data types of the crates the program is written against: `uuid`, `ble_ws_api::data` and
`ble_ws_api::proto`. Their sources are not part of the repository, so only what the program does with
them is here: a timestamp is a number of whole seconds, and a unit type is its raw number together
with the test its `try_from` makes (`Units`). Below them are the types of `sensor.rs` and of `main.rs`
that hold what is known of a sensor.
-/

namespace BleWsCentral

/-- `uuid::Uuid`, ordered as the number it is. -/
abbrev Uuid := BitVec 128

/-- `uuid::Uuid::from_bytes`: sixteen bytes, the most significant one first. -/
def Uuid.fromBytes (bytes : List UInt8) : Uuid :=
  bytes.foldl (fun n b => (n <<< 8) ||| b.toBitVec.setWidth 128) 0

/-- `ble_ws_api::data::Timestamp`: whole seconds, as `as_u32` gives them. -/
abbrev Timestamp := UInt32

/-- The tests of the fallible conversions of `ble_ws_api::data`. A value that passes is kept as it is:
`Celsius::as_i16` and `RelativeHumidity::as_u16` give back what `try_from` was given. -/
structure Units where
  /-- `Celsius::try_from(i16)` succeeds. -/
  celsius : Int16 → Bool
  /-- `RelativeHumidity::try_from(u16)` succeeds. -/
  relativeHumidity : UInt16 → Bool

/-- Conversions that succeed on every value. -/
def Units.total : Units := ⟨fun _ => true, fun _ => true⟩

/-- `usize::MAX` on a machine with words of 64 bits. -/
def usizeMax : ℕ := 2 ^ 64 - 1

/-- `std::collections::BTreeMap`. -/
abbrev BTreeMap (κ ν : Type) [Ord κ] := Std.ExtTreeMap κ ν

instance : Std.TransOrd Uuid := inferInstance

instance : Std.LawfulEqOrd Uuid := inferInstance

/-- `ble_ws_api::proto::SensorDataResponse`: the columns of a sensor log. -/
structure SensorDataResponse where
  time : List UInt32
  temperature : List Int32
  pressure : List UInt32
  humidity : List UInt32
deriving DecidableEq

/-- `ble_ws_api::proto::CurrentValues`. -/
structure CurrentValues where
  temperature : Int32
  pressure : UInt32
  humidity : UInt32
deriving DecidableEq

/-- `ble_ws_api::proto::SensorOverview`; a `Label` is the name it holds. -/
structure SensorOverview where
  label : Option String
  values : Option CurrentValues
deriving DecidableEq

/-- `ble_ws_api::proto::OverviewResponseField`. -/
structure OverviewResponseField where
  id : Uuid
  overview : SensorOverview
deriving DecidableEq

/-- `ble_ws_api::proto::OverviewResponse`. -/
structure OverviewResponse where
  overview : List OverviewResponseField
deriving DecidableEq

/-! ## Sensors -/

/-- `sensor::SensorValues`. -/
structure SensorValues where
  timestamp : Timestamp
  temperature : Int16
  pressure : UInt32
  humidity : UInt16
deriving DecidableEq

/-- `sensor::SensorState`. -/
inductive SensorState
  | connected (values : SensorValues)
  | unconnected
deriving DecidableEq

/-- `sensor::RawSensorValues`: what a log entry holds. -/
structure RawSensorValues where
  temperature : Int16
  humidity : UInt16
  pressure : UInt32
deriving DecidableEq

/-- `impl From<SensorValues> for RawSensorValues`. -/
def SensorValues.toRaw (values : SensorValues) : RawSensorValues where
  temperature := values.temperature
  pressure := values.pressure
  humidity := values.humidity

/-- `Sensor`. -/
structure Sensor where
  label : Option String
  state : SensorState
deriving DecidableEq

/-- `Sensors`. -/
abbrev Sensors := BTreeMap Uuid Sensor

/-- `UpdateItem`: the batch a source of updates yields. -/
abbrev UpdateItem := BTreeMap Uuid SensorState

/-- The entries of a map, in the order in which it is iterated, have distinct keys. -/
theorem nodup_keys_toList {ν : Type} (m : BTreeMap Uuid ν) : (m.toList.map Prod.fst).Nodup := by
  have := Std.ExtTreeMap.distinct_keys_toList (t := m)
  rw [List.Nodup, List.pairwise_map]
  apply this.imp
  intro e e' hne heq
  exact hne (Std.LawfulEqOrd.compare_eq_iff_eq.mpr heq)

theorem nodup_keys {ν : Type} (m : BTreeMap Uuid ν) : m.keys.Nodup := by
  rw [← Std.ExtTreeMap.map_fst_toList_eq_keys]
  exact nodup_keys_toList m

/-- The entries of a map are what it gives at its keys. -/
theorem mem_toList {ν : Type} {m : BTreeMap Uuid ν} {k : Uuid} {v : ν} :
    (k, v) ∈ m.toList ↔ m[k]? = some v :=
  Std.ExtTreeMap.mem_toList_iff_getElem?_eq_some

/-- The values of a map, in the order in which it is iterated, are those of its entries. -/
theorem values_eq_map_snd {κ ν : Type} [Ord κ] [Std.TransOrd κ] (m : BTreeMap κ ν) :
    m.values = m.toList.map Prod.snd := by
  obtain ⟨m⟩ := m
  induction m using Std.ExtDTreeMap.inductionOn with
  | _ m =>
      show m.inner.values = (Std.DTreeMap.Internal.Impl.Const.toList m.inner).map Prod.snd
      rw [Std.DTreeMap.Internal.Impl.values_eq_map_snd,
        Std.DTreeMap.Internal.Impl.Const.toList_eq_toListModel_map]
      simp

theorem mem_values {κ ν : Type} [Ord κ] [Std.TransOrd κ] [Std.LawfulEqOrd κ] {m : BTreeMap κ ν}
    {v : ν} : v ∈ m.values ↔ ∃ k : κ, m[k]? = some v := by
  rw [values_eq_map_snd, List.mem_map]
  constructor
  · rintro ⟨⟨k, v'⟩, hmem, rfl⟩
    exact ⟨k, Std.ExtTreeMap.mem_toList_iff_getElem?_eq_some.mp hmem⟩
  · rintro ⟨k, hk⟩
    exact ⟨(k, v), Std.ExtTreeMap.mem_toList_iff_getElem?_eq_some.mpr hk, rfl⟩

end BleWsCentral
