import BleWsCentral.Data

/-!
# Access messages

`mesh/proto`: opcodes, the messages the D-Bus thread is handed, and the parsers of their payloads.

* A parser is a `nom` parser: it takes the input and gives the rest and the value, or fails. What
  kind of error it fails with is never looked at, so a `nom::IResult` is an `Option`.
* `Message.parse` splits an access message into its opcode and its payload.
* `parse` accepts a payload only if the parser leaves nothing of it.
-/

namespace BleWsCentral.Mesh

/-- `MeshAddr(u16)`. -/
abbrev MeshAddr := UInt16

instance : Std.TransOrd MeshAddr := inferInstance

/-- `types::NetIndex(pub u16)`. -/
structure NetIndex where
  val : UInt16
deriving DecidableEq

/-- `types::AppIndex(pub u16)`. -/
structure AppIndex where
  val : UInt16
deriving DecidableEq

/-- `mesh::COMPANY_ID`. -/
def companyId : UInt16 := 0x05f1

/-- `mesh::MAIN_APP_INDEX`. -/
def mainAppIndex : AppIndex := ⟨0⟩

/-- `mesh::MAIN_NET_INDEX`. -/
def mainNetIndex : NetIndex := ⟨0⟩

/-! ## Opcodes and messages -/

/-- `proto::Opcode`. -/
inductive Opcode
  | sig1 (n : UInt8)
  | sig2 (n : UInt16)
  | vendor (code : UInt8) (vendor : UInt16)
deriving DecidableEq

/-- `Opcode::new_vendor`. -/
def Opcode.newVendor (op : UInt8) (vendor : UInt16) : Opcode := .vendor (0xc0 ||| op) vendor

/-- `proto::Message`. -/
structure Message where
  opcode : Opcode
  payload : List UInt8
deriving DecidableEq

/-- `proto::Error`. -/
inductive ParseError
  | empty
  | malformed
deriving DecidableEq

/-! ## Readers -/

/-- `nom::number::complete::u8`. -/
def u8 : List UInt8 → Option (List UInt8 × UInt8)
  | b :: buf => some (buf, b)
  | [] => none

/-- `nom::number::complete::le_u16`. -/
def leU16 : List UInt8 → Option (List UInt8 × UInt16)
  | a :: b :: buf => some (buf, a.toUInt16 ||| (b.toUInt16 <<< 8))
  | _ => none

/-- `nom::number::complete::be_u16`. -/
def beU16 : List UInt8 → Option (List UInt8 × UInt16)
  | a :: b :: buf => some (buf, (a.toUInt16 <<< 8) ||| b.toUInt16)
  | _ => none

/-- `nom::number::complete::le_u32`. -/
def leU32 : List UInt8 → Option (List UInt8 × UInt32)
  | a :: b :: c :: d :: buf =>
      some (buf, a.toUInt32 ||| (b.toUInt32 <<< 8) ||| (c.toUInt32 <<< 16) ||| (d.toUInt32 <<< 24))
  | _ => none

/-- `nom::number::complete::le_i16`. -/
def leI16 (buf : List UInt8) : Option (List UInt8 × Int16) := do
  let (buf, n) ← leU16 buf
  some (buf, n.toInt16)

/-- `parse::opcode`. -/
def opcode (buf : List UInt8) : Option (List UInt8 × Opcode) := do
  let first ← buf.head?
  if first &&& 0xc0 = 0xc0 then
    let (buf, code) ← u8 buf
    let (buf, vendor) ← leU16 buf
    some (buf, .vendor code vendor)
  else if first &&& 0x80 = 0x80 then
    let (buf, opcode) ← beU16 buf
    some (buf, .sig2 opcode)
  else
    let (buf, opcode) ← u8 buf
    some (buf, .sig1 opcode)

/-- `Message::parse`. -/
def Message.parse (buf : List UInt8) : Except ParseError Message :=
  match Mesh.opcode buf with
  | none => .error .malformed
  | some (payload, opcode) => .ok { opcode, payload }

/-- `parse::parse`: the parser has to consume the whole payload. -/
def parse {α : Type} (buf : List UInt8) (parser : List UInt8 → Option (List UInt8 × α)) : Option α :=
  match parser buf with
  | some ([], ret) => some ret
  | _ => none

/-! ## Statuses and model identifiers -/

/-- `proto::Status`. -/
inductive Status
  | success
  | invalidAddress
  | invalidModel
  | invalidAppKeyIndex
  | invalidNetKeyIndex
  | insufficientResources
  | keyIndexAlreadyStored
  | invalidPublishParameters
  | notASubscribeModel
  | storageFailure
  | featureNotSupported
  | cannotUpdate
  | cannotRemove
  | cannotBind
  | temporarilyUnableToChangeState
  | cannotSet
  | unspecifiedError
  | invalidBinding
  | rfu
deriving DecidableEq

/-- `Status::from(u8)`, as `num_enum` derives it: the discriminants, and `RFU` for the rest. -/
def Status.fromU8 (n : UInt8) : Status :=
  match n.toNat with
  | 0x00 => .success
  | 0x01 => .invalidAddress
  | 0x02 => .invalidModel
  | 0x03 => .invalidAppKeyIndex
  | 0x04 => .invalidNetKeyIndex
  | 0x05 => .insufficientResources
  | 0x06 => .keyIndexAlreadyStored
  | 0x07 => .invalidPublishParameters
  | 0x08 => .notASubscribeModel
  | 0x09 => .storageFailure
  | 0x0a => .featureNotSupported
  | 0x0b => .cannotUpdate
  | 0x0c => .cannotRemove
  | 0x0d => .cannotBind
  | 0x0e => .temporarilyUnableToChangeState
  | 0x0f => .cannotSet
  | 0x10 => .unspecifiedError
  | 0x11 => .invalidBinding
  | _ => .rfu

/-- `Status::is_ok`. -/
def Status.isOk : Status → Bool
  | .success => true
  | _ => false

/-- `proto::ModelIdentifier`. -/
inductive ModelIdentifier
  | sig (id : UInt16)
  | vendor (companyId modelId : UInt16)
deriving DecidableEq

/-- `parse::status`. -/
def status (buf : List UInt8) : Option (List UInt8 × Status) := do
  let (buf, n) ← u8 buf
  some (buf, Status.fromU8 n)

/-- `parse::model_identifier`: the length of what is left tells the two forms apart. -/
def modelIdentifier (buf : List UInt8) : Option (List UInt8 × ModelIdentifier) :=
  if buf.length = 4 then do
    let (buf, companyId) ← leU16 buf
    let (buf, modelId) ← leU16 buf
    some (buf, .vendor companyId modelId)
  else if buf.length = 2 then do
    let (buf, sigId) ← leU16 buf
    some (buf, .sig sigId)
  else none

/-- `parse::mesh_addr`. -/
def meshAddr (buf : List UInt8) : Option (List UInt8 × MeshAddr) := leU16 buf

/-- `parse::unpack_key_index`. -/
def unpackKeyIndex : List UInt8 → Option (List UInt8 × UInt16 × UInt16)
  | k₀ :: k₁ :: k₂ :: buf =>
      let a := ((k₁ &&& 0xf0).toUInt16 <<< 4) ||| k₀.toUInt16
      let b := (k₂.toUInt16 <<< 4) ||| (k₁ &&& 0x0f).toUInt16
      some (buf, (a, b))
  | _ => none

/-! ## The parsed messages -/

/-- `sig::ConfigModelAppStatus`. -/
structure ConfigModelAppStatus where
  status : Status
  elementAddress : MeshAddr
  appKeyIndex : UInt16
  modelIdentifier : ModelIdentifier
deriving DecidableEq

/-- `ConfigModelAppStatus::opcode`. -/
def ConfigModelAppStatus.opcode : Opcode := .sig2 0x803e

/-- `ConfigModelAppStatus::parse_payload`. -/
def ConfigModelAppStatus.parsePayload (buf : List UInt8) : Option ConfigModelAppStatus :=
  parse buf fun buf => do
    let (buf, status) ← Mesh.status buf
    let (buf, elementAddress) ← meshAddr buf
    let (buf, appKeyIndex) ← leU16 buf
    let (buf, modelIdentifier) ← Mesh.modelIdentifier buf
    some (buf, { status, elementAddress, appKeyIndex, modelIdentifier })

/-- `sig::ConfigAppKeyStatus`. -/
structure ConfigAppKeyStatus where
  status : Status
  netKeyIndex : UInt16
  appKeyIndex : UInt16
deriving DecidableEq

/-- `ConfigAppKeyStatus::opcode`. -/
def ConfigAppKeyStatus.opcode : Opcode := .sig2 0x8003

/-- `ConfigAppKeyStatus::parse_payload`. -/
def ConfigAppKeyStatus.parsePayload (buf : List UInt8) : Option ConfigAppKeyStatus :=
  parse buf fun buf => do
    let (buf, status) ← Mesh.status buf
    let (buf, netKeyIndex, appKeyIndex) ← unpackKeyIndex buf
    some (buf, { status, netKeyIndex, appKeyIndex })

/-- `vendor::BleWsSensorValues`. -/
structure BleWsSensorValues where
  temperature : Int16
  humidity : UInt16
  pressure : UInt32
deriving DecidableEq

/-- `BleWsSensorValues::opcode`. -/
def BleWsSensorValues.opcode : Opcode := .newVendor 0x01 companyId

/-- `BleWsSensorValues::parse_payload`. -/
def BleWsSensorValues.parsePayload (buf : List UInt8) : Option BleWsSensorValues :=
  parse buf fun buf => do
    let (buf, temperature) ← leI16 buf
    let (buf, humidity) ← leU16 buf
    let (buf, pressure) ← leU32 buf
    some (buf, { temperature, humidity, pressure })

end BleWsCentral.Mesh
