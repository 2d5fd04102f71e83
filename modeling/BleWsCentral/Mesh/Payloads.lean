import BleWsCentral.Mesh.Packets

/-!
# Payloads

Which payloads the parsers of `sig` and `vendor` accept, and what they make of them.

* `takeBuf` — the readers once more, with the `unwrap` in `parse::take_buf`, which never panics
  (`unpackKeyIndex?_eq`).
* `payloads_exact` — each of the three messages has its lengths, and two payloads give the same message only
  if they are the same, up to the status bytes of `Status::RFU`.
* `keyIndexes_unpacked` — two key indexes in three octets are read as they are packed only if the high bits
  of one of them are the low bits of the other one: the two halves of the octet they share are swapped.
-/

namespace BleWsCentral.Mesh

open BleWsCentral.Found

/-! ## Readers that take the whole input -/

theorem parse_eq_some {α : Type} {buf : List UInt8} {parser : List UInt8 → Option (List UInt8 × α)}
    {ret : α} : parse buf parser = some ret ↔ parser buf = some ([], ret) := by
  unfold parse
  split
  · rename_i ret' h
    simp [h]
  · rename_i h
    refine iff_of_false (by simp) fun hret => h ret hret

/-! ## Statuses -/

/-- The discriminant of a status. -/
def Status.toU8 (self : Status) : UInt8 := UInt8.ofNat self.ctorIdx

theorem fromU8_toU8 (self : Status) : Status.fromU8 self.toU8 = self := by
  cases self <;> rfl

theorem toU8_fromU8 (n : UInt8) : (Status.fromU8 n).toU8 = if n < 0x12 then n else 0x12 := by
  revert n
  exact forall_u8 (by decide +kernel)

/-- The status bytes that are told apart: all but those of `Status::RFU`. -/
theorem fromU8_eq_iff {n n' : UInt8} :
    Status.fromU8 n = Status.fromU8 n' ↔ n = n' ∨ 0x12 ≤ n ∧ 0x12 ≤ n' := by
  have hbyte : Status.fromU8 n = Status.fromU8 n' ↔
      (Status.fromU8 n).toU8 = (Status.fromU8 n').toU8 := by
    refine ⟨congrArg Status.toU8, fun h => ?_⟩
    rw [← fromU8_toU8 (Status.fromU8 n), h, fromU8_toU8]
  rw [hbyte, toU8_fromU8, toU8_fromU8, ← UInt8.not_lt, ← UInt8.not_lt]
  grind

theorem status_eq_some {buf rest : List UInt8} {s : Status} :
    status buf = some (rest, s) ↔ ∃ n, buf = n :: rest ∧ s = Status.fromU8 n := by
  unfold status
  simp only [Option.bind_eq_bind, Option.bind_eq_some_iff, Prod.exists, exact_u8.read_eq_some,
    Option.some.injEq, Prod.mk.injEq, List.cons_append, List.nil_append]
  constructor
  · rintro ⟨_, n, rfl, rfl, rfl⟩
    exact ⟨n, rfl, rfl⟩
  · rintro ⟨n, rfl, rfl⟩
    exact ⟨_, n, rfl, rfl, rfl⟩

/-! ## Packed key indexes -/

/-- An index of twelve bits. -/
structure KeyIndex where
  val : UInt16
  lt : val < 0x1000

/-- How two indexes are packed into three octets: the octet in the middle has the high bits of the first one
below the low bits of the second one. -/
def packKeyIndex (a b : KeyIndex) : List UInt8 :=
  [a.val.toUInt8, (a.val >>> 8).toUInt8 ||| (b.val <<< 4).toUInt8, (b.val >>> 4).toUInt8]

theorem toNat_high (b : UInt8) : (b &&& 0xf0).toNat = b.toNat / 16 * 16 := by
  revert b
  exact forall_u8 (by decide +kernel)

theorem toNat_low (b : UInt8) : (b &&& 0x0f).toNat = b.toNat % 16 := by
  revert b
  exact forall_u8 (by decide +kernel)

/-- What is read as the two indexes: each takes four bits of the octet in the middle. -/
theorem unpackKeyIndex_eq_some {buf rest : List UInt8} {a b : UInt16} :
    unpackKeyIndex buf = some (rest, a, b) ↔ ∃ k₀ k₁ k₂, buf = k₀ :: k₁ :: k₂ :: rest ∧
      a.toNat = k₁.toNat / 16 * 256 + k₀.toNat ∧ b.toNat = k₂.toNat * 16 + k₁.toNat % 16 := by
  unfold unpackKeyIndex
  split
  · rename_i k₀ k₁ k₂ buf
    have h₀ := k₀.toNat_lt
    have h₁ := k₁.toNat_lt
    have h₂ := k₂.toNat_lt
    have hshift₁ : (k₁.toNat / 16 * 16) <<< 4 % 2 ^ 16 = (k₁.toNat / 16) <<< 8 := by
      rw [Nat.shiftLeft_eq, Nat.shiftLeft_eq]
      omega
    have hshift₂ : k₂.toNat <<< 4 % 2 ^ 16 = k₂.toNat <<< 4 := by
      rw [Nat.shiftLeft_eq]
      omega
    have ha : (((k₁ &&& 0xf0).toUInt16 <<< 4) ||| k₀.toUInt16).toNat =
        k₁.toNat / 16 * 256 + k₀.toNat := by
      rw [UInt16.toNat_or, UInt16.toNat_shiftLeft, UInt8.toNat_toUInt16, UInt8.toNat_toUInt16, toNat_high,
        show (4 : UInt16).toNat % 16 = 4 from rfl, hshift₁, Nat.or_comm, or_shiftLeft h₀]
      omega
    have hb : ((k₂.toUInt16 <<< 4) ||| (k₁ &&& 0x0f).toUInt16).toNat =
        k₂.toNat * 16 + k₁.toNat % 16 := by
      rw [UInt16.toNat_or, UInt16.toNat_shiftLeft, UInt8.toNat_toUInt16, UInt8.toNat_toUInt16, toNat_low,
        show (4 : UInt16).toNat % 16 = 4 from rfl, hshift₂, Nat.or_comm, or_shiftLeft (by omega)]
      omega
    simp only [Option.some.injEq, Prod.mk.injEq, List.cons.injEq]
    constructor
    · rintro ⟨rfl, rfl, rfl⟩
      exact ⟨k₀, k₁, k₂, ⟨rfl, rfl, rfl, rfl⟩, ha, hb⟩
    · rintro ⟨_, _, _, ⟨rfl, rfl, rfl, rfl⟩, ha', hb'⟩
      exact ⟨rfl, UInt16.toNat_inj.mp (ha.trans ha'.symm), UInt16.toNat_inj.mp (hb.trans hb'.symm)⟩
  · rename_i hshort
    apply iff_of_false (by simp)
    rintro ⟨k₀, k₁, k₂, hbuf, -⟩
    exact hshort _ _ _ _ hbuf

/-- The octets of two packed indexes. -/
theorem toNat_packKeyIndex (a b : KeyIndex) :
    a.val.toUInt8.toNat = a.val.toNat % 256 ∧
      ((a.val >>> 8).toUInt8 ||| (b.val <<< 4).toUInt8).toNat =
        a.val.toNat / 256 + b.val.toNat % 16 * 16 ∧
      (b.val >>> 4).toUInt8.toNat = b.val.toNat / 16 := by
  have ha : a.val.toNat < 0x1000 := a.lt
  have hb : b.val.toNat < 0x1000 := b.lt
  refine ⟨UInt16.toNat_toUInt8 _, ?_, ?_⟩
  · have hlow : b.val.toNat <<< 4 % 2 ^ 16 % 2 ^ 8 = (b.val.toNat % 16) <<< 4 := by
      rw [Nat.shiftLeft_eq, Nat.shiftLeft_eq]
      omega
    rw [UInt8.toNat_or, UInt16.toNat_toUInt8, UInt16.toNat_toUInt8, UInt16.toNat_shiftRight,
      UInt16.toNat_shiftLeft, show (8 : UInt16).toNat % 16 = 8 from rfl,
      show (4 : UInt16).toNat % 16 = 4 from rfl, hlow, Nat.shiftRight_eq_div_pow,
      or_shiftLeft (by omega)]
    omega
  · rw [UInt16.toNat_toUInt8, UInt16.toNat_shiftRight, show (4 : UInt16).toNat % 16 = 4 from rfl,
      Nat.shiftRight_eq_div_pow]
    omega

/-- What is read of a `ConfigAppKeyStatus`. -/
theorem parsePayload_appKeyStatus {buf : List UInt8} {r : ConfigAppKeyStatus} :
    ConfigAppKeyStatus.parsePayload buf = some r ↔
      ∃ n k₀ k₁ k₂, buf = [n, k₀, k₁, k₂] ∧ r.status = Status.fromU8 n ∧
        r.netKeyIndex.toNat = k₁.toNat / 16 * 256 + k₀.toNat ∧
        r.appKeyIndex.toNat = k₂.toNat * 16 + k₁.toNat % 16 := by
  obtain ⟨s, net, app⟩ := r
  simp only [ConfigAppKeyStatus.parsePayload, parse_eq_some, Option.bind_eq_bind, Option.bind_eq_some_iff,
    Prod.exists, status_eq_some, unpackKeyIndex_eq_some, Option.some.injEq, Prod.mk.injEq,
    ConfigAppKeyStatus.mk.injEq]
  constructor
  · rintro ⟨_, _, ⟨n, rfl, rfl⟩, _, _, _, ⟨k₀, k₁, k₂, rfl, ha, hb⟩, rfl, rfl, rfl, rfl⟩
    exact ⟨n, k₀, k₁, k₂, rfl, rfl, ha, hb⟩
  · rintro ⟨n, k₀, k₁, k₂, rfl, rfl, ha, hb⟩
    exact ⟨_, _, ⟨n, rfl, rfl⟩, _, _, _, ⟨k₀, k₁, k₂, rfl, ha, hb⟩, rfl, rfl, rfl, rfl⟩

/-- **Key indexes.** The indexes of a `ConfigAppKeyStatus` are read as they were packed if and only if the
high bits of the one for the net key are the low bits of the one for the app key. -/
theorem keyIndexes_unpacked (n : UInt8) (net app : KeyIndex) :
    ConfigAppKeyStatus.parsePayload (n :: packKeyIndex net app) =
        some ⟨Status.fromU8 n, net.val, app.val⟩ ↔
      net.val >>> 8 = app.val &&& 0x0f := by
  have hnet : net.val.toNat < 0x1000 := net.lt
  obtain ⟨h₀, h₁, h₂⟩ := toNat_packKeyIndex net app
  have hbits : net.val >>> 8 = app.val &&& 0x0f ↔ net.val.toNat / 256 = app.val.toNat % 16 := by
    rw [← UInt16.toNat_inj, UInt16.toNat_shiftRight, UInt16.toNat_and, Nat.shiftRight_eq_div_pow,
      show (0x0f : UInt16).toNat = 2 ^ 4 - 1 from rfl, Nat.and_two_pow_sub_one_eq_mod]
    rfl
  rw [parsePayload_appKeyStatus, hbits]
  constructor
  · rintro ⟨_, _, _, _, hbuf, -, hnet', happ'⟩
    simp only [packKeyIndex, List.cons.injEq] at hbuf
    obtain ⟨-, rfl, rfl, rfl, -⟩ := hbuf
    rw [h₁, h₂] at happ'
    dsimp only at happ'
    omega
  · intro h
    refine ⟨n, _, _, _, rfl, rfl, ?_, ?_⟩
    · rw [h₀, h₁]
      dsimp only
      omega
    · rw [h₁, h₂]
      dsimp only
      omega

/-- The indexes 1 and 0 are read as 1 and 0, and 0 and 1 as 256 and 0. -/
theorem keyIndexes_swapped :
    ConfigAppKeyStatus.parsePayload (0 :: packKeyIndex ⟨0, by decide⟩ ⟨1, by decide⟩) =
        some ⟨.success, 0x100, 0⟩ ∧
      (⟨.success, 0x100, 0⟩ : ConfigAppKeyStatus) ≠ ⟨Status.fromU8 0, 0, 1⟩ := by
  decide

/-! ## The readers with their panics -/

/-- `nom::bytes::complete::take`. -/
def take (n : ℕ) (buf : List UInt8) : Option (List UInt8 × List UInt8) :=
  if n ≤ buf.length then some (buf.drop n, buf.take n) else none

/-- `<[u8; N]>::try_from`, for a slice. -/
def tryFrom (n : ℕ) (ret : List UInt8) : Option (Vector UInt8 n) :=
  if h : ret.toArray.size = n then some ⟨ret.toArray, h⟩ else none

/-- `parse::take_buf`; `none` is a panic. -/
def takeBuf (n : ℕ) (buf : List UInt8) : Option (Option (List UInt8 × Vector UInt8 n)) :=
  match take n buf with
  | none => some none
  | some (buf, ret) => (tryFrom n ret).map fun ret => some (buf, ret)

/-- `parse::unpack_key_index` with its call of `take_buf`; `none` is a panic. -/
def unpackKeyIndex? (buf : List UInt8) : Option (Option (List UInt8 × UInt16 × UInt16)) := do
  match ← takeBuf 3 buf with
  | none => some none
  | some (buf, keys) =>
      let a := ((keys[1] &&& 0xf0).toUInt16 <<< 4) ||| keys[0].toUInt16
      let b := (keys[2].toUInt16 <<< 4) ||| (keys[1] &&& 0x0f).toUInt16
      some (some (buf, (a, b)))

/-- The parser of `ConfigAppKeyStatus` with this reader; `none` is a panic. -/
def appKeyStatus? (buf : List UInt8) : Option (Option (List UInt8 × ConfigAppKeyStatus)) :=
  match Mesh.status buf with
  | none => some none
  | some (buf, status) => do
      match ← unpackKeyIndex? buf with
      | none => some none
      | some (buf, netKeyIndex, appKeyIndex) =>
          some (some (buf, { status, netKeyIndex, appKeyIndex }))

/-- `ConfigAppKeyStatus::parse_payload` with this parser; `none` is a panic. -/
def ConfigAppKeyStatus.parsePayload? (buf : List UInt8) : Option (Option ConfigAppKeyStatus) := do
  match ← appKeyStatus? buf with
  | some ([], ret) => some (some ret)
  | _ => some none

/-- What `take` takes has the length that `try_from` wants. -/
theorem unpackKeyIndex?_eq (buf : List UInt8) : unpackKeyIndex? buf = some (unpackKeyIndex buf) := by
  unfold unpackKeyIndex
  split
  · rfl
  · rename_i hshort
    have hlen : ¬ 3 ≤ buf.length := by
      intro hlen
      match buf, hlen with
      | k₀ :: k₁ :: k₂ :: rest, _ => exact hshort k₀ k₁ k₂ rest rfl
    simp [unpackKeyIndex?, takeBuf, take, hlen]

/-- Parsing never panics. -/
theorem ConfigAppKeyStatus.parsePayload?_eq (buf : List UInt8) :
    ConfigAppKeyStatus.parsePayload? buf = some (ConfigAppKeyStatus.parsePayload buf) := by
  unfold parsePayload? parsePayload parse appKeyStatus?
  cases hstatus : Mesh.status buf with
  | none => simp [hstatus]
  | some r =>
      obtain ⟨rest, s⟩ := r
      simp only [unpackKeyIndex?_eq, hstatus, Option.bind_eq_bind, Option.bind_some]
      cases hkeys : unpackKeyIndex rest with
      | none => simp
      | some r =>
          obtain ⟨rest', net, app⟩ := r
          cases rest' with
          | nil => simp
          | cons b rest' => simp

/-! ## Accepted payloads -/

/-- Two inputs are the same, or begin with a status of `RFU` and go on the same. -/
def SameUpToRfu (buf buf' : List UInt8) : Prop :=
  ∃ n n' rest, buf = n :: rest ∧ buf' = n' :: rest ∧ (n = n' ∨ 0x12 ≤ n ∧ 0x12 ≤ n')

/-- What is read of a `ConfigModelAppStatus`. -/
theorem parsePayload_modelAppStatus {buf : List UInt8} {r : ConfigModelAppStatus} :
    ConfigModelAppStatus.parsePayload buf = some r ↔
      ∃ n, buf = n :: (leBytes r.elementAddress ++ (leBytes r.appKeyIndex ++ modelBytes r.modelIdentifier)) ∧
        r.status = Status.fromU8 n := by
  obtain ⟨s, elementAddress, appKeyIndex, model⟩ := r
  cases buf with
  | nil => simp [ConfigModelAppStatus.parsePayload, parse, status, u8]
  | cons n buf =>
      simp only [parsePayload_cons, Option.map_eq_some_iff, parse_eq_some, readBind_eq_some, true_and,
        ConfigModelAppStatus.mk.injEq, List.cons.injEq]
      constructor
      · rintro ⟨bind, rfl, rfl, rfl, rfl, rfl⟩
        exact ⟨n, ⟨rfl, rfl⟩, rfl⟩
      · rintro ⟨_, ⟨rfl, rfl⟩, rfl⟩
        exact ⟨⟨elementAddress, appKeyIndex, model⟩, rfl, rfl, rfl, rfl, rfl⟩

/-- What is read of `BleWsSensorValues`. -/
theorem parsePayload_sensorValues {buf : List UInt8} {r : BleWsSensorValues} :
    BleWsSensorValues.parsePayload buf = some r ↔
      buf = leBytes r.temperature.toUInt16 ++ (leBytes r.humidity ++ leBytes32 r.pressure) := by
  obtain ⟨temperature, humidity, pressure⟩ := r
  simp only [BleWsSensorValues.parsePayload, parse_eq_some, Option.bind_eq_bind, Option.bind_eq_some_iff,
    Prod.exists, exact_leI16.read_eq_some, exact_leU16.read_eq_some, exact_leU32.read_eq_some,
    Option.some.injEq, Prod.mk.injEq, BleWsSensorValues.mk.injEq]
  constructor
  · rintro ⟨_, _, rfl, _, _, rfl, _, _, rfl, rfl, rfl, rfl, rfl⟩
    rw [List.append_nil]
  · rintro rfl
    exact ⟨_, _, rfl, _, _, rfl, [], _, by rw [List.append_nil], rfl, rfl, rfl, rfl⟩

/-- The lengths of a `ConfigAppKeyStatus`. -/
theorem isSome_appKeyStatus_iff {buf : List UInt8} :
    (ConfigAppKeyStatus.parsePayload buf).isSome = true ↔ buf.length = 4 := by
  rw [Option.isSome_iff_exists]
  constructor
  · rintro ⟨r, hr⟩
    obtain ⟨n, k₀, k₁, k₂, rfl, -⟩ := parsePayload_appKeyStatus.mp hr
    rfl
  · intro hlen
    match buf, hlen with
    | [n, k₀, k₁, k₂], _ => exact ⟨_, rfl⟩

/-- The length of a `ConfigModelAppStatus` tells the forms of its model apart. -/
theorem length_modelAppStatus {buf : List UInt8} {r : ConfigModelAppStatus}
    (h : ConfigModelAppStatus.parsePayload buf = some r) :
    (buf.length = 7 ∧ ∃ id, r.modelIdentifier = .sig id) ∨
      (buf.length = 9 ∧ ∃ companyId modelId, r.modelIdentifier = .vendor companyId modelId) := by
  obtain ⟨n, rfl, -⟩ := parsePayload_modelAppStatus.mp h
  cases hmodel : r.modelIdentifier with
  | sig id => exact .inl ⟨rfl, id, rfl⟩
  | vendor companyId modelId => exact .inr ⟨rfl, companyId, modelId, rfl⟩

/-- The lengths of a `ConfigModelAppStatus`. -/
theorem isSome_modelAppStatus_iff {buf : List UInt8} :
    (ConfigModelAppStatus.parsePayload buf).isSome = true ↔ buf.length = 7 ∨ buf.length = 9 := by
  rw [Option.isSome_iff_exists]
  constructor
  · rintro ⟨r, hr⟩
    exact (length_modelAppStatus hr).imp And.left And.left
  · intro hlen
    cases buf with
    | nil => simp at hlen
    | cons n buf =>
        rw [List.length_cons] at hlen
        obtain ⟨elementAddress, buf₁, rfl, hlen₁⟩ :=
          exact_leU16.exists_append (show 2 ≤ buf.length by omega)
        obtain ⟨appKeyIndex, buf₂, rfl, hlen₂⟩ :=
          exact_leU16.exists_append (show 2 ≤ buf₁.length by omega)
        obtain ⟨id, buf₃, rfl, hlen₃⟩ :=
          exact_leU16.exists_append (show 2 ≤ buf₂.length by omega)
        rcases hlen with hlen | hlen
        · have hbuf₃ : buf₃ = [] := List.length_eq_zero_iff.mp (by omega)
          refine ⟨⟨Status.fromU8 n, elementAddress, appKeyIndex, .sig id⟩, ?_⟩
          rw [parsePayload_modelAppStatus, hbuf₃, List.append_nil]
          exact ⟨n, rfl, rfl⟩
        · obtain ⟨modelId, buf₄, rfl, hlen₄⟩ :=
            exact_leU16.exists_append (show 2 ≤ buf₃.length by omega)
          have hbuf₄ : buf₄ = [] := List.length_eq_zero_iff.mp (by omega)
          refine ⟨⟨Status.fromU8 n, elementAddress, appKeyIndex, .vendor id modelId⟩, ?_⟩
          rw [parsePayload_modelAppStatus, hbuf₄, List.append_nil]
          exact ⟨n, rfl, rfl⟩

/-- The length of `BleWsSensorValues`. -/
theorem isSome_sensorValues_iff {buf : List UInt8} :
    (BleWsSensorValues.parsePayload buf).isSome = true ↔ buf.length = 8 := by
  rw [Option.isSome_iff_exists]
  constructor
  · rintro ⟨r, hr⟩
    rw [parsePayload_sensorValues.mp hr]
    rfl
  · intro hlen
    obtain ⟨temperature, buf₁, rfl, hlen₁⟩ := exact_leI16.exists_append (show 2 ≤ buf.length by omega)
    obtain ⟨humidity, buf₂, rfl, hlen₂⟩ := exact_leU16.exists_append (show 2 ≤ buf₁.length by omega)
    obtain ⟨pressure, buf₃, rfl, hlen₃⟩ := exact_leU32.exists_append (show 4 ≤ buf₂.length by omega)
    have hbuf₃ : buf₃ = [] := List.length_eq_zero_iff.mp (by omega)
    refine ⟨⟨temperature, humidity, pressure⟩, ?_⟩
    rw [parsePayload_sensorValues, hbuf₃, List.append_nil]

/-- A `ConfigAppKeyStatus` is read from one payload only, up to its status byte. -/
theorem appKeyStatus_eq_iff {buf buf' : List UInt8} {r : ConfigAppKeyStatus}
    (h : ConfigAppKeyStatus.parsePayload buf = some r) :
    ConfigAppKeyStatus.parsePayload buf' = some r ↔ SameUpToRfu buf buf' := by
  obtain ⟨n, k₀, k₁, k₂, rfl, hs, hnet, happ⟩ := parsePayload_appKeyStatus.mp h
  constructor
  · intro h'
    obtain ⟨n', k₀', k₁', k₂', rfl, hs', hnet', happ'⟩ := parsePayload_appKeyStatus.mp h'
    have h₀ := k₀.toNat_lt
    have h₀' := k₀'.toNat_lt
    -- each octet is a digit of one of the numbers, or has one of both
    have heq₀ : k₀ = k₀' := UInt8.toNat_inj.mp (by omega)
    have heq₁ : k₁ = k₁' := UInt8.toNat_inj.mp (by omega)
    have heq₂ : k₂ = k₂' := UInt8.toNat_inj.mp (by omega)
    rw [heq₀, heq₁, heq₂]
    exact ⟨n, n', [k₀', k₁', k₂'], rfl, rfl, fromU8_eq_iff.mp (hs.symm.trans hs')⟩
  · rintro ⟨_, n', rest, hbuf, rfl, hstatus⟩
    obtain ⟨rfl, rfl⟩ := List.cons.inj hbuf
    exact parsePayload_appKeyStatus.mpr
      ⟨n', k₀, k₁, k₂, rfl, hs.trans (fromU8_eq_iff.mpr hstatus), hnet, happ⟩

/-- A `ConfigModelAppStatus` is read from one payload only, up to its status byte. -/
theorem modelAppStatus_eq_iff {buf buf' : List UInt8} {r : ConfigModelAppStatus}
    (h : ConfigModelAppStatus.parsePayload buf = some r) :
    ConfigModelAppStatus.parsePayload buf' = some r ↔ SameUpToRfu buf buf' := by
  obtain ⟨n, rfl, hs⟩ := parsePayload_modelAppStatus.mp h
  constructor
  · intro h'
    obtain ⟨n', rfl, hs'⟩ := parsePayload_modelAppStatus.mp h'
    exact ⟨n, n', _, rfl, rfl, fromU8_eq_iff.mp (hs.symm.trans hs')⟩
  · rintro ⟨_, n', rest, hbuf, rfl, hstatus⟩
    obtain ⟨rfl, rfl⟩ := List.cons.inj hbuf
    exact parsePayload_modelAppStatus.mpr ⟨n', rfl, hs.trans (fromU8_eq_iff.mpr hstatus)⟩

/-- **Accepted payloads.** A `ConfigAppKeyStatus` has 4 bytes, a `ConfigModelAppStatus` has 7 with a `Sig`
model and 9 with a `Vendor` model, and `BleWsSensorValues` have 8. No parser panics. Two payloads of one message
give the same record if and only if they are equal, up to a status byte of `RFU` in both. -/
theorem payloads_exact :
    (∀ buf, (ConfigAppKeyStatus.parsePayload buf).isSome = true ↔ buf.length = 4) ∧
    (∀ buf, (ConfigModelAppStatus.parsePayload buf).isSome = true ↔ buf.length = 7 ∨ buf.length = 9) ∧
    (∀ buf r, ConfigModelAppStatus.parsePayload buf = some r →
      (buf.length = 7 ∧ ∃ id, r.modelIdentifier = .sig id) ∨
        (buf.length = 9 ∧ ∃ companyId modelId, r.modelIdentifier = .vendor companyId modelId)) ∧
    (∀ buf, (BleWsSensorValues.parsePayload buf).isSome = true ↔ buf.length = 8) ∧
    (∀ buf, ConfigAppKeyStatus.parsePayload? buf = some (ConfigAppKeyStatus.parsePayload buf)) ∧
    (∀ buf buf' r, ConfigAppKeyStatus.parsePayload buf = some r →
      (ConfigAppKeyStatus.parsePayload buf' = some r ↔ SameUpToRfu buf buf')) ∧
    (∀ buf buf' r, ConfigModelAppStatus.parsePayload buf = some r →
      (ConfigModelAppStatus.parsePayload buf' = some r ↔ SameUpToRfu buf buf')) ∧
    ∀ buf buf' r, BleWsSensorValues.parsePayload buf = some r →
      BleWsSensorValues.parsePayload buf' = some r → buf = buf' := by
  refine ⟨fun buf => isSome_appKeyStatus_iff, fun buf => isSome_modelAppStatus_iff,
    fun buf r => length_modelAppStatus, fun buf => isSome_sensorValues_iff,
    ConfigAppKeyStatus.parsePayload?_eq, fun buf buf' r => appKeyStatus_eq_iff,
    fun buf buf' r => modelAppStatus_eq_iff, ?_⟩
  intro buf buf' r h h'
  rw [parsePayload_sensorValues.mp h, parsePayload_sensorValues.mp h']

/-- Two statuses of `RFU` are not told apart. -/
theorem payloads_exact_rfu : SameUpToRfu [0x12, 0, 0, 0] [0xff, 0, 0, 0] :=
  (payloads_exact.2.2.2.2.2.1 [0x12, 0, 0, 0] [0xff, 0, 0, 0] ⟨.rfu, 0, 0⟩ (by decide)).mp (by decide)

end BleWsCentral.Mesh
