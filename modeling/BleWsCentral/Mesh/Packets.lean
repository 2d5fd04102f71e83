import BleWsCentral.Found.Reader
import BleWsCentral.Mesh.Proto

/-!
# Packets

How packets are written, and whether what is written is read back.

* `putU16`, `putU16Le` — `bytes::BufMut`; `exact_leU16` and its siblings say that the readers of `nom` read
  what these write, and nothing else.
* `ToPacket.encode` — the opcode and the payload of a packet, in fewer than `MESH_PACKET_MAX_SIZE` bytes.
* `message_round_trip` — opcodes in canonical form are read back, and nothing else is accepted.
* `bind_round_trip` — the payload of a `ConfigModelAppBind` is read back by the readers for the fields of a
  `ConfigModelAppStatus` unless it has a `Sig` model, whose two bytes are written in the other order.
-/

namespace BleWsCentral.Mesh

open BleWsCentral.Found

/-! ## Numbers -/

/-- The bytes of a number, the most significant one first. -/
def beBytes (n : UInt16) : List UInt8 := [(n >>> 8).toUInt8, n.toUInt8]

/-- The bytes of a number, the least significant one first. -/
def leBytes (n : UInt16) : List UInt8 := [n.toUInt8, (n >>> 8).toUInt8]

/-- The same for a number of four bytes. -/
def leBytes32 (n : UInt32) : List UInt8 :=
  [n.toUInt8, (n >>> 8).toUInt8, (n >>> 16).toUInt8, (n >>> 24).toUInt8]

/-- `BufMut::put_u16`. -/
def putU16 (buf : List UInt8) (n : UInt16) : List UInt8 := buf ++ beBytes n

/-- `BufMut::put_u16_le`. -/
def putU16Le (buf : List UInt8) (n : UInt16) : List UInt8 := buf ++ leBytes n

/-- Digits that are joined do not overlap. -/
theorem or_shiftLeft {a b k : ℕ} (h : a < 2 ^ k) : a ||| b <<< k = a + b * 2 ^ k := by
  rw [Nat.or_comm, ← Nat.shiftLeft_add_eq_or_of_lt h, Nat.shiftLeft_eq, Nat.add_comm]

/-- Two bytes make up one number. -/
theorem join_eq_iff {lo hi : UInt8} {n : UInt16} :
    lo.toUInt16 ||| (hi.toUInt16 <<< 8) = n ↔ lo = n.toUInt8 ∧ hi = (n >>> 8).toUInt8 := by
  have hlo := lo.toNat_lt
  have hhi := hi.toNat_lt
  have hn := n.toNat_lt
  have hjoin : (lo.toUInt16 ||| (hi.toUInt16 <<< 8)).toNat = lo.toNat + hi.toNat * 2 ^ 8 := by
    rw [UInt16.toNat_or, UInt16.toNat_shiftLeft, UInt8.toNat_toUInt16, UInt8.toNat_toUInt16,
      ← or_shiftLeft hlo]
    congr 1
    rw [show (8 : UInt16).toNat % 16 = 8 from rfl, Nat.shiftLeft_eq, Nat.mod_eq_of_lt (by omega)]
  simp only [← UInt16.toNat_inj, ← UInt8.toNat_inj, hjoin, UInt16.toNat_toUInt8, UInt16.toNat_shiftRight]
  simp only [show (8 : UInt16).toNat % 16 = 8 from rfl, Nat.shiftRight_eq_div_pow]
  omega

/-- Four bytes make up one number. -/
theorem join_eq_iff32 {b₀ b₁ b₂ b₃ : UInt8} {n : UInt32} :
    b₀.toUInt32 ||| (b₁.toUInt32 <<< 8) ||| (b₂.toUInt32 <<< 16) ||| (b₃.toUInt32 <<< 24) = n ↔
      b₀ = n.toUInt8 ∧ b₁ = (n >>> 8).toUInt8 ∧ b₂ = (n >>> 16).toUInt8 ∧ b₃ = (n >>> 24).toUInt8 := by
  have h₀ := b₀.toNat_lt
  have h₁ := b₁.toNat_lt
  have h₂ := b₂.toNat_lt
  have h₃ := b₃.toNat_lt
  have hn := n.toNat_lt
  have hjoin : (b₀.toUInt32 ||| (b₁.toUInt32 <<< 8) ||| (b₂.toUInt32 <<< 16) |||
      (b₃.toUInt32 <<< 24)).toNat =
        b₀.toNat + b₁.toNat * 2 ^ 8 + b₂.toNat * 2 ^ 16 + b₃.toNat * 2 ^ 24 := by
    have hshift : ∀ (b : UInt8) (k : ℕ), k ≤ 24 →
        b.toNat <<< k % 2 ^ 32 = b.toNat <<< k := by
      intro b k hk
      have hb := b.toNat_lt
      have hpow : 2 ^ k ≤ 2 ^ 24 := Nat.pow_le_pow_right (by decide) hk
      rw [Nat.shiftLeft_eq, Nat.mod_eq_of_lt]
      nlinarith
    simp only [UInt32.toNat_or, UInt32.toNat_shiftLeft, UInt8.toNat_toUInt32]
    simp only [show (8 : UInt32).toNat % 32 = 8 from rfl, show (16 : UInt32).toNat % 32 = 16 from rfl,
      show (24 : UInt32).toNat % 32 = 24 from rfl]
    rw [hshift b₁ 8 (by decide), hshift b₂ 16 (by decide), hshift b₃ 24 (by decide),
      or_shiftLeft h₀,
      or_shiftLeft (show b₀.toNat + b₁.toNat * 2 ^ 8 < 2 ^ 16 by omega),
      or_shiftLeft (show b₀.toNat + b₁.toNat * 2 ^ 8 + b₂.toNat * 2 ^ 16 < 2 ^ 24 by omega)]
  simp only [← UInt32.toNat_inj, ← UInt8.toNat_inj, hjoin, UInt32.toNat_toUInt8, UInt32.toNat_shiftRight]
  simp only [show (8 : UInt32).toNat % 32 = 8 from rfl, show (16 : UInt32).toNat % 32 = 16 from rfl,
    show (24 : UInt32).toNat % 32 = 24 from rfl, Nat.shiftRight_eq_div_pow]
  omega

/-! ## The readers of numbers -/

/-- `u8` takes one byte. -/
theorem exact_u8 : Exact u8 (fun n => [n]) 1 where
  read_eq_some {buf rest n} := by
    cases buf with
    | nil => simp [u8]
    | cons b buf => simp [u8, and_comm]
  length_put _ := rfl
  exists_put word hword := by
    obtain ⟨b, rfl⟩ := List.length_eq_one_iff.mp hword
    exact ⟨b, rfl⟩

/-- `le_u16` takes two bytes, the least significant one first. -/
theorem exact_leU16 : Exact leU16 leBytes 2 where
  read_eq_some {buf rest n} := by
    unfold leU16
    split
    · rename_i lo hi buf
      simp only [Option.some.injEq, Prod.mk.injEq, join_eq_iff, leBytes, List.cons_append,
        List.nil_append, List.cons.injEq]
      tauto
    · rename_i hshort
      apply iff_of_false (by simp)
      intro hbuf
      exact hshort _ _ _ hbuf
  length_put _ := rfl
  exists_put word hword := by
    obtain ⟨lo, hi, rfl⟩ := List.length_eq_two.mp hword
    refine ⟨lo.toUInt16 ||| (hi.toUInt16 <<< 8), ?_⟩
    obtain ⟨hlo, hhi⟩ := join_eq_iff.mp (Eq.refl (lo.toUInt16 ||| (hi.toUInt16 <<< 8)))
    rw [leBytes, ← hlo, ← hhi]

/-- `be_u16` takes two bytes, the most significant one first. -/
theorem exact_beU16 : Exact beU16 beBytes 2 where
  read_eq_some {buf rest n} := by
    unfold beU16
    split
    · rename_i hi lo buf
      rw [UInt16.or_comm]
      simp only [Option.some.injEq, Prod.mk.injEq, join_eq_iff, beBytes, List.cons_append,
        List.nil_append, List.cons.injEq]
      tauto
    · rename_i hshort
      apply iff_of_false (by simp)
      intro hbuf
      exact hshort _ _ _ hbuf
  length_put _ := rfl
  exists_put word hword := by
    obtain ⟨hi, lo, rfl⟩ := List.length_eq_two.mp hword
    refine ⟨lo.toUInt16 ||| (hi.toUInt16 <<< 8), ?_⟩
    obtain ⟨hlo, hhi⟩ := join_eq_iff.mp (Eq.refl (lo.toUInt16 ||| (hi.toUInt16 <<< 8)))
    rw [beBytes, ← hlo, ← hhi]

/-- `le_u32` takes four bytes, the least significant one first. -/
theorem exact_leU32 : Exact leU32 leBytes32 4 where
  read_eq_some {buf rest n} := by
    unfold leU32
    split
    · rename_i b₀ b₁ b₂ b₃ buf
      simp only [Option.some.injEq, Prod.mk.injEq, join_eq_iff32, leBytes32, List.cons_append,
        List.nil_append, List.cons.injEq]
      tauto
    · rename_i hshort
      apply iff_of_false (by simp)
      intro hbuf
      exact hshort _ _ _ _ _ hbuf
  length_put _ := rfl
  exists_put word hword := by
    obtain ⟨b₀, b₁, b₂, b₃, rfl⟩ : ∃ b₀ b₁ b₂ b₃, word = [b₀, b₁, b₂, b₃] := by
      match word, hword with
      | [b₀, b₁, b₂, b₃], _ => exact ⟨b₀, b₁, b₂, b₃, rfl⟩
    refine ⟨b₀.toUInt32 ||| (b₁.toUInt32 <<< 8) ||| (b₂.toUInt32 <<< 16) ||| (b₃.toUInt32 <<< 24), ?_⟩
    obtain ⟨h₀, h₁, h₂, h₃⟩ := join_eq_iff32.mp
      (Eq.refl (b₀.toUInt32 ||| (b₁.toUInt32 <<< 8) ||| (b₂.toUInt32 <<< 16) ||| (b₃.toUInt32 <<< 24)))
    rw [leBytes32, ← h₀, ← h₁, ← h₂, ← h₃]

/-- Numbers with a sign have the same bytes as those without. -/
def int16Equiv : UInt16 ≃ Int16 where
  toFun := UInt16.toInt16
  invFun := Int16.toUInt16
  left_inv _ := rfl
  right_inv _ := rfl

/-- `le_i16` takes the same bytes as `le_u16`. -/
theorem exact_leI16 : Exact leI16 (fun n => leBytes n.toUInt16) 2 := by
  have heq : leI16 = fun buf => (leU16 buf).map (Prod.map id int16Equiv) := by
    funext buf
    rw [Option.map_eq_bind]
    rfl
  rw [heq]
  exact exact_leU16.map int16Equiv

/-! ## Packets -/

/-- `messages::Packet`. -/
class Packet (α : Type) where
  opcode : Opcode

/-- `messages::ToPacket`. -/
class ToPacket (α : Type) extends Packet α where
  putPayload : α → List UInt8 → List UInt8

/-- `MESH_PACKET_MAX_SIZE`. -/
def meshPacketMaxSize : ℕ := 380

/-- The opcode of a packet, as `ToPacket::encode` writes it. -/
def putOpcode (ret : List UInt8) : Opcode → List UInt8
  | .sig1 n => ret ++ [n]
  | .sig2 n => putU16 ret n
  | .vendor code vendor => putU16Le (ret ++ [code]) vendor

/-- `ToPacket::encode`; `none` is a panic, if the packet is too long. -/
def ToPacket.encode {α : Type} [ToPacket α] (self : α) : Option (List UInt8) :=
  let ret := ToPacket.putPayload self (putOpcode [] (Packet.opcode α))
  if ret.length < meshPacketMaxSize then some ret else none

/-- `put::put_model_id`. -/
def putModelId (buf : List UInt8) : ModelIdentifier → List UInt8
  | .sig id => putU16 buf id
  | .vendor companyId modelId => putU16Le (putU16Le buf companyId) modelId

/-- `sig::ConfigModelAppBind`. -/
structure ConfigModelAppBind where
  elementAddress : MeshAddr
  appKeyIndex : UInt16
  modelIdentifier : ModelIdentifier
deriving DecidableEq

instance : ToPacket ConfigModelAppBind where
  opcode := .sig2 0x803d
  putPayload self buf :=
    let buf := putU16Le buf self.elementAddress
    let buf := putU16Le buf self.appKeyIndex
    putModelId buf self.modelIdentifier

/-- `vendor::BleWsReadSensor`. -/
structure BleWsReadSensor where
deriving DecidableEq

instance : ToPacket BleWsReadSensor where
  opcode := .newVendor 0x00 companyId
  putPayload _ buf := buf

/-! ## Opcodes -/

/-- The first byte tells the forms apart, and it is the one of its form. -/
def Opcode.Canonical : Opcode → Prop
  | .sig1 n => n < 0x80
  | .sig2 n => n >>> 14 = 2
  | .vendor code _ => 0xc0 ≤ code

instance : (op : Opcode) → Decidable op.Canonical
  | .sig1 n => inferInstanceAs (Decidable (n < 0x80))
  | .sig2 n => inferInstanceAs (Decidable (n >>> 14 = 2))
  | .vendor code _ => inferInstanceAs (Decidable (0xc0 ≤ code))

/-- How many bytes an opcode takes, by the first one. -/
def opcodeWidth (first : UInt8) : ℕ :=
  if 0xc0 ≤ first then 3 else if 0x80 ≤ first then 2 else 1

/-- What holds of all numbers of eight bits holds of all bytes. -/
theorem forall_u8 {p : UInt8 → Prop} (h : ∀ n < 256, p (UInt8.ofNat n)) (b : UInt8) : p b := by
  have hb := h b.toNat b.toNat_lt
  rwa [UInt8.ofNat_toNat] at hb

theorem mask_c0 (b : UInt8) : b &&& 0xc0 = 0xc0 ↔ 0xc0 ≤ b := by
  revert b
  exact forall_u8 (by decide +kernel)

theorem mask_80 (b : UInt8) : b &&& 0x80 = 0x80 ↔ 0x80 ≤ b := by
  revert b
  exact forall_u8 (by decide +kernel)

/-- An opcode by its first byte. -/
theorem opcode_cons (b : UInt8) (buf : List UInt8) :
    opcode (b :: buf) =
      if 0xc0 ≤ b then (leU16 buf).map fun (rest, vendor) => (rest, .vendor b vendor)
      else if 0x80 ≤ b then (beU16 (b :: buf)).map fun (rest, n) => (rest, .sig2 n)
      else some (buf, .sig1 b) := by
  unfold opcode
  simp only [List.head?_cons, Option.bind_eq_bind, Option.bind_some, mask_c0, mask_80, u8,
    Option.map_eq_bind]
  rfl

/-- The first byte of an opcode of two bytes. -/
theorem canonical_sig2_iff {n : UInt16} :
    (Opcode.sig2 n).Canonical ↔
      (0x80 : UInt8) ≤ (n >>> 8).toUInt8 ∧ ¬ (0xc0 : UInt8) ≤ (n >>> 8).toUInt8 := by
  have hn := n.toNat_lt
  show n >>> 14 = 2 ↔ _
  simp only [← UInt16.toNat_inj, UInt8.le_iff_toNat_le, UInt16.toNat_toUInt8, UInt16.toNat_shiftRight]
  simp only [show (14 : UInt16).toNat % 16 = 14 from rfl, show (8 : UInt16).toNat % 16 = 8 from rfl,
    show (2 : UInt16).toNat = 2 from rfl, show (0x80 : UInt8).toNat = 128 from rfl,
    show (0xc0 : UInt8).toNat = 192 from rfl, Nat.shiftRight_eq_div_pow]
  omega

/-- The opcodes that are read are the canonical ones, each as it is written. -/
theorem opcode_eq_some {buf rest : List UInt8} {op : Opcode} :
    opcode buf = some (rest, op) ↔ op.Canonical ∧ buf = putOpcode [] op ++ rest := by
  cases buf with
  | nil =>
      apply iff_of_false (by simp [opcode])
      rintro ⟨-, hbuf⟩
      cases op <;> simp [putOpcode, putU16, putU16Le, beBytes] at hbuf
  | cons b buf =>
      rw [opcode_cons]
      split
      · rename_i hb
        simp only [Option.map_eq_some_iff, Prod.exists, exact_leU16.read_eq_some, Prod.mk.injEq]
        constructor
        · rintro ⟨rest', vendor, rfl, rfl, rfl⟩
          exact ⟨hb, rfl⟩
        · rintro ⟨hcanonical, hbuf⟩
          cases op with
          | sig1 n =>
              obtain ⟨rfl, rfl⟩ := List.cons.inj hbuf
              exact absurd (UInt8.lt_of_lt_of_le hcanonical (by decide)) (UInt8.not_lt.mpr hb)
          | sig2 n =>
              obtain ⟨rfl, rfl⟩ := List.cons.inj hbuf
              exact absurd hb (canonical_sig2_iff.mp hcanonical).2
          | vendor code vendor =>
              obtain ⟨rfl, rfl⟩ := List.cons.inj hbuf
              exact ⟨rest, vendor, rfl, rfl, rfl⟩
      · rename_i hb
        split
        · rename_i hb'
          simp only [Option.map_eq_some_iff, Prod.exists, exact_beU16.read_eq_some, Prod.mk.injEq]
          constructor
          · rintro ⟨rest', n, hbuf, rfl, rfl⟩
            obtain ⟨rfl, -⟩ := List.cons.inj hbuf
            exact ⟨canonical_sig2_iff.mpr ⟨hb', hb⟩, hbuf⟩
          · rintro ⟨hcanonical, hbuf⟩
            cases op with
            | sig1 n =>
                obtain ⟨rfl, rfl⟩ := List.cons.inj hbuf
                exact absurd hcanonical (UInt8.not_lt.mpr hb')
            | sig2 n => exact ⟨rest, n, hbuf, rfl, rfl⟩
            | vendor code vendor =>
                obtain ⟨rfl, rfl⟩ := List.cons.inj hbuf
                exact absurd hcanonical hb
        · rename_i hb'
          simp only [Option.some.injEq, Prod.mk.injEq]
          constructor
          · rintro ⟨rfl, rfl⟩
            exact ⟨UInt8.not_le.mp hb', rfl⟩
          · rintro ⟨hcanonical, hbuf⟩
            cases op with
            | sig1 n =>
                obtain ⟨rfl, rfl⟩ := List.cons.inj hbuf
                exact ⟨rfl, rfl⟩
            | sig2 n =>
                obtain ⟨rfl, rfl⟩ := List.cons.inj hbuf
                exact absurd (canonical_sig2_iff.mp hcanonical).1 hb'
            | vendor code vendor =>
                obtain ⟨rfl, rfl⟩ := List.cons.inj hbuf
                exact absurd (UInt8.le_trans (by decide) hcanonical) hb'

/-- An opcode is read if all its bytes are there. -/
theorem isSome_opcode_iff {b : UInt8} {buf : List UInt8} :
    (opcode (b :: buf)).isSome = true ↔ opcodeWidth b ≤ (b :: buf).length := by
  rw [opcode_cons, opcodeWidth, List.length_cons]
  split
  · rw [Option.isSome_map, exact_leU16.isSome_iff]
    omega
  · split
    · rw [Option.isSome_map, exact_beU16.isSome_iff, List.length_cons]
    · simp

/-- The messages that are accepted. -/
theorem parse_eq_ok {buf : List UInt8} {msg : Message} :
    Message.parse buf = .ok msg ↔
      msg.opcode.Canonical ∧ buf = putOpcode [] msg.opcode ++ msg.payload := by
  rw [← opcode_eq_some, Message.parse]
  cases hopcode : opcode buf with
  | none => simp
  | some r =>
      obtain ⟨payload, op⟩ := r
      obtain ⟨op', payload'⟩ := msg
      simp [and_comm]

/-- The inputs that are not accepted. -/
theorem parse_eq_error {buf : List UInt8} :
    (∃ e, Message.parse buf = .error e) ↔
      buf = [] ∨ ∃ first, buf.head? = some first ∧ buf.length < opcodeWidth first := by
  have hparse : (∃ e, Message.parse buf = .error e) ↔ ¬ (opcode buf).isSome = true := by
    rw [Message.parse]
    cases opcode buf <;> simp
  rw [hparse]
  cases buf with
  | nil => simp [opcode]
  | cons b buf =>
      rw [isSome_opcode_iff]
      simp

/-- **Access messages.** A packet with a canonical opcode that is not too long is encoded, and parsed into
its opcode and its payload. What is parsed has a canonical opcode, and is its encoding. An input is refused
if its first byte is not there, or one of those the first one calls for. -/
theorem message_round_trip :
    (∀ {α : Type} [ToPacket α] (self : α) (payload : List UInt8),
      ToPacket.putPayload self (putOpcode [] (Packet.opcode α)) =
        putOpcode [] (Packet.opcode α) ++ payload →
      (Packet.opcode α).Canonical →
      (putOpcode [] (Packet.opcode α) ++ payload).length < meshPacketMaxSize →
      ∃ bytes, ToPacket.encode self = some bytes ∧
        Message.parse bytes = .ok ⟨Packet.opcode α, payload⟩) ∧
    (∀ (buf : List UInt8) (msg : Message), Message.parse buf = .ok msg →
      msg.opcode.Canonical ∧ putOpcode [] msg.opcode ++ msg.payload = buf) ∧
    ∀ buf : List UInt8, (∃ e, Message.parse buf = .error e) ↔
      buf = [] ∨ ∃ first, buf.head? = some first ∧ buf.length < opcodeWidth first := by
  refine ⟨?_, ?_, fun buf => parse_eq_error⟩
  · intro α _ self payload hput hcanonical hlen
    refine ⟨putOpcode [] (Packet.opcode α) ++ payload, ?_, parse_eq_ok.mpr ⟨hcanonical, rfl⟩⟩
    simp only [ToPacket.encode, hput]
    exact if_pos hlen
  · intro buf msg hparse
    obtain ⟨hcanonical, hbuf⟩ := parse_eq_ok.mp hparse
    exact ⟨hcanonical, hbuf.symm⟩

/-- The packet that binds the model of a node is parsed into its opcode and its eight bytes of payload. -/
theorem message_round_trip_bind :
    ∃ bytes, ToPacket.encode (⟨5, 0, .vendor companyId 0⟩ : ConfigModelAppBind) = some bytes ∧
      Message.parse bytes = .ok ⟨.sig2 0x803d, [5, 0, 0, 0, 0xf1, 0x05, 0, 0]⟩ :=
  message_round_trip.1 (⟨5, 0, .vendor companyId 0⟩ : ConfigModelAppBind) [5, 0, 0, 0, 0xf1, 0x05, 0, 0]
    (by decide) (by decide) (by decide)

/-! ## Binding a model -/

/-- The readers for the fields of a `ConfigModelAppStatus` behind its status. -/
def readBind (buf : List UInt8) : Option (List UInt8 × ConfigModelAppBind) := do
  let (buf, elementAddress) ← meshAddr buf
  let (buf, appKeyIndex) ← leU16 buf
  let (buf, modelIdentifier) ← Mesh.modelIdentifier buf
  some (buf, { elementAddress, appKeyIndex, modelIdentifier })

/-- They are the ones `ConfigModelAppStatus::parse_payload` uses. -/
theorem parsePayload_cons (n : UInt8) (buf : List UInt8) :
    ConfigModelAppStatus.parsePayload (n :: buf) =
      (parse buf readBind).map fun bind =>
        ⟨Status.fromU8 n, bind.elementAddress, bind.appKeyIndex, bind.modelIdentifier⟩ := by
  unfold ConfigModelAppStatus.parsePayload parse readBind
  simp only [status, u8, Option.bind_eq_bind, Option.bind_some]
  cases meshAddr buf with
  | none => rfl
  | some r =>
      simp only [Option.bind_some]
      cases leU16 r.1 with
      | none => rfl
      | some r =>
          simp only [Option.bind_some]
          cases Mesh.modelIdentifier r.1 with
          | none => rfl
          | some r =>
              obtain ⟨rest, model⟩ := r
              cases rest <;> rfl

/-- The bytes of a model identifier, as they are read. -/
def modelBytes : ModelIdentifier → List UInt8
  | .sig id => leBytes id
  | .vendor companyId modelId => leBytes companyId ++ leBytes modelId

/-- The reader for model identifiers takes the whole input. -/
theorem modelIdentifier_eq_some {buf rest : List UInt8} {model : ModelIdentifier} :
    Mesh.modelIdentifier buf = some (rest, model) ↔ rest = [] ∧ buf = modelBytes model := by
  unfold Mesh.modelIdentifier
  constructor
  · intro h
    split at h
    · rename_i hlen
      obtain ⟨⟨buf₁, companyId⟩, hcompany, h⟩ := Option.bind_eq_some_iff.mp h
      obtain ⟨⟨buf₂, modelId⟩, hmodel, h⟩ := Option.bind_eq_some_iff.mp h
      obtain ⟨rfl, rfl⟩ := Prod.mk.inj (Option.some.inj h)
      rw [exact_leU16.read_eq_some.mp hcompany, exact_leU16.read_eq_some.mp hmodel] at hlen ⊢
      have hrest : buf₂ = [] := List.length_eq_zero_iff.mp (by simpa [leBytes] using hlen)
      rw [hrest, List.append_nil]
      exact ⟨rfl, rfl⟩
    · split at h
      · rename_i hlen
        obtain ⟨⟨buf₁, sigId⟩, hsig, h⟩ := Option.bind_eq_some_iff.mp h
        obtain ⟨rfl, rfl⟩ := Prod.mk.inj (Option.some.inj h)
        rw [exact_leU16.read_eq_some.mp hsig] at hlen ⊢
        have hrest : buf₁ = [] := List.length_eq_zero_iff.mp (by simpa [leBytes] using hlen)
        rw [hrest, List.append_nil]
        exact ⟨rfl, rfl⟩
      · exact absurd h (by simp)
  · rintro ⟨rfl, rfl⟩
    cases model with
    | sig id =>
        have hread := exact_leU16.read_put id []
        rw [List.append_nil] at hread
        rw [modelBytes, if_neg (by simp [leBytes]), if_pos (show (leBytes id).length = 2 from rfl),
          hread]
        rfl
    | vendor companyId modelId =>
        have hcompany := exact_leU16.read_put companyId (leBytes modelId)
        have hmodel := exact_leU16.read_put modelId []
        rw [List.append_nil] at hmodel
        simp only [modelBytes, if_pos (show (leBytes companyId ++ leBytes modelId).length = 4 from rfl),
          hcompany, hmodel, Option.bind_eq_bind, Option.bind_some]

/-- What the readers take off an input for a bound model, and what they leave. -/
theorem readBind_eq_some {buf rest : List UInt8} {bind : ConfigModelAppBind} :
    readBind buf = some (rest, bind) ↔
      rest = [] ∧ buf =
        leBytes bind.elementAddress ++ (leBytes bind.appKeyIndex ++ modelBytes bind.modelIdentifier) := by
  obtain ⟨elementAddress, appKeyIndex, model⟩ := bind
  simp only [readBind, meshAddr, Option.bind_eq_bind, Option.bind_eq_some_iff, Prod.exists,
    exact_leU16.read_eq_some, modelIdentifier_eq_some, Option.some.injEq, Prod.mk.injEq,
    ConfigModelAppBind.mk.injEq]
  constructor
  · rintro ⟨buf₁, _, rfl, buf₂, _, rfl, buf₃, _, ⟨rfl, rfl⟩, rfl, rfl, rfl, rfl⟩
    exact ⟨rfl, rfl⟩
  · rintro ⟨rfl, rfl⟩
    exact ⟨_, _, rfl, _, _, rfl, _, _, ⟨rfl, rfl⟩, rfl, rfl, rfl, rfl⟩

/-- What is written for a bound model. -/
theorem putPayload_bind (bind : ConfigModelAppBind) :
    ToPacket.putPayload bind [] =
      leBytes bind.elementAddress ++
        (leBytes bind.appKeyIndex ++ putModelId [] bind.modelIdentifier) := by
  obtain ⟨elementAddress, appKeyIndex, model⟩ := bind
  cases model <;> rfl

/-- **Binding a model.** The payload of a `ConfigModelAppBind` is read back if and only if it has a
`Vendor` model, or a `Sig` model whose two bytes are the same. -/
theorem bind_round_trip (bind : ConfigModelAppBind) :
    readBind (ToPacket.putPayload bind []) = some ([], bind) ↔
      ∀ id, bind.modelIdentifier = .sig id → (id >>> 8).toUInt8 = id.toUInt8 := by
  rw [readBind_eq_some, putPayload_bind, List.append_cancel_left_eq, List.append_cancel_left_eq]
  cases bind.modelIdentifier with
  | sig id => simp [putModelId, putU16, modelBytes, beBytes, leBytes, eq_comm]
  | vendor companyId modelId => simp [putModelId, putU16Le, modelBytes]

/-- The model `0x1000` is read back as `0x0010`. -/
theorem bind_sig_swapped :
    readBind (ToPacket.putPayload (⟨0x0001, 0, .sig 0x1000⟩ : ConfigModelAppBind) []) =
        some ([], ⟨0x0001, 0, .sig 0x0010⟩) ∧
      (⟨0x0001, 0, .sig 0x0010⟩ : ConfigModelAppBind) ≠ ⟨0x0001, 0, .sig 0x1000⟩ := by
  decide

end BleWsCentral.Mesh
