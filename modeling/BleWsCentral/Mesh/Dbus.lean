import BleWsCentral.Mesh.MessageQueue

/-!
# The calls of the D-Bus thread

`mesh/provisioner.rs` and the handlers of `Element` in `mesh/mod.rs`. One thread runs them, one at a
time, and every one of them ends in a blocking send or does nothing.

* `Event`, `Node` — what the provisioner tells `LoopCtx::run`.
* `Provisioner.scanResult`, `Provisioner.addNodeComplete`, `Provisioner.addNodeFailed` — the event of a
  call, if there is one.
* `Element.messageReceived`, `Element.devKeyMessageReceived` — the message that is pushed.
* `DbusCall.handle` — a call that comes in, up to its blocking send.
-/

namespace BleWsCentral.Mesh

/-! ## Provisioning -/

/-- `Node`. -/
structure Node where
  uuid : Uuid
  unicastAddr : MeshAddr
deriving DecidableEq

/-- The error of `add_node_failed`: "Failed adding node {uuid}: {reason}". -/
structure AddNodeError where
  uuid : Uuid
  reason : String
deriving DecidableEq

/-- `Event`. -/
inductive Event
  | deviceDiscovered (uuid : Uuid) (rssi : Int16)
  | nodeAdded (result : Except AddNodeError Node)
deriving DecidableEq

namespace Provisioner

/-- `extract_uuid`. -/
def extractUuid (data : List UInt8) : Option Uuid :=
  if data.length < 16 then none else some (.fromBytes (data.take 16))

/-- `Provisioner::scan_result`. -/
def scanResult (rssi : Int16) (data : List UInt8) : Option Event :=
  (extractUuid data).map fun uuid => .deviceDiscovered uuid rssi

/-- `Provisioner::add_node_complete`. -/
def addNodeComplete (uuid : List UInt8) (unicastAddr : UInt16) : Option Event :=
  (extractUuid uuid).map fun uuid => .nodeAdded (.ok { uuid, unicastAddr })

/-- `Provisioner::add_node_failed`. -/
def addNodeFailed (uuid : List UInt8) (reason : String) : Option Event :=
  (extractUuid uuid).map fun uuid => .nodeAdded (.error { uuid, reason })

end Provisioner

/-! ## Messages -/

/-- The value `message_received` is given for the destination. -/
inductive Destination
  | unicast (addr : UInt16)
  | virtual (addr : List UInt8)
  /-- neither a `u16` nor a `Vec<u8>` -/
  | garbage
deriving DecidableEq

namespace Element

/-- A message that parses is pushed; the error of one that does not is logged. -/
def received (data : List UInt8) (info : MessageMeta) (now : Timestamp) : Option GenericMessage :=
  match Message.parse data with
  | .ok msg => some (.new msg info now)
  | .error _ => none

/-- `Element::message_received`, once the destination is known to be a proper one. -/
def messageReceived (sourceAddr : MeshAddr) (keyIndex : AppIndex) (data : List UInt8)
    (now : Timestamp) : Option GenericMessage :=
  received data (.normal sourceAddr keyIndex) now

/-- `Element::dev_key_message_received`. -/
def devKeyMessageReceived (sourceAddr : MeshAddr) (netIndex : NetIndex) (data : List UInt8)
    (now : Timestamp) : Option GenericMessage :=
  received data (.device sourceAddr netIndex) now

end Element

/-! ## The thread -/

/-- A call that comes in over D-Bus. -/
inductive DbusCall
  | scanResult (rssi : Int16) (data : List UInt8)
  | addNodeComplete (uuid : List UInt8) (unicastAddr : UInt16) (unicastAddrCount : UInt8)
  | addNodeFailed (uuid : List UInt8) (reason : String)
  | messageReceived (sourceAddr : MeshAddr) (keyIndex : AppIndex) (destination : Destination)
      (data : List UInt8)
  | devKeyMessageReceived (sourceAddr : MeshAddr) (remote : Bool) (netIndex : NetIndex)
      (data : List UInt8)
deriving DecidableEq

/-- Where the D-Bus thread is. -/
inductive DbusThread
  /-- `try_handle_next` waits for a call. -/
  | idle
  /-- It waits in the `blocking_send` of the provisioner. -/
  | sendingEvent (event : Event)
  /-- It waits in the `blocking_send` of `push_msg`. -/
  | pushing (msg : GenericMessage)
  | panicked
deriving DecidableEq

/-- A handler of the provisioner, up to its blocking send. -/
def DbusThread.ofEvent : Option Event → DbusThread
  | some event => .sendingEvent event
  | none => .idle

/-- A handler of the element, up to its blocking send. -/
def DbusThread.ofMessage : Option GenericMessage → DbusThread
  | some msg => .pushing msg
  | none => .idle

/-- The handler of a call; `now` is what `Timestamp::now()` gives. -/
def DbusCall.handle (now : Timestamp) : DbusCall → DbusThread
  | .scanResult rssi data => .ofEvent (Provisioner.scanResult rssi data)
  | .addNodeComplete uuid unicastAddr _ => .ofEvent (Provisioner.addNodeComplete uuid unicastAddr)
  | .addNodeFailed uuid reason => .ofEvent (Provisioner.addNodeFailed uuid reason)
  | .messageReceived _ _ .garbage _ => .panicked
  | .messageReceived sourceAddr keyIndex _ data =>
      .ofMessage (Element.messageReceived sourceAddr keyIndex data now)
  | .devKeyMessageReceived sourceAddr _ netIndex data =>
      .ofMessage (Element.devKeyMessageReceived sourceAddr netIndex data now)

/-- The thread waits in the `blocking_send` of the provisioner. -/
def DbusThread.sendsEvent : DbusThread → Bool
  | .sendingEvent _ => true
  | _ => false

/-- The message the thread is about to push. -/
def DbusThread.message : DbusThread → List GenericMessage
  | .pushing msg => [msg]
  | _ => []

/-- A message is stamped when its call comes in. -/
theorem received_of_handle {call : DbusCall} {now : Timestamp} {msg : GenericMessage}
    (h : msg ∈ (call.handle now).message) : msg.received = now := by
  have hreceived : ∀ data info, msg ∈ (DbusThread.ofMessage (Element.received data info now)).message →
      msg.received = now := by
    intro data info h
    unfold Element.received at h
    split at h
    · rw [DbusThread.ofMessage, DbusThread.message, List.mem_singleton] at h
      simp [h]
    · cases h
  have hevent : ∀ event, msg ∉ (DbusThread.ofEvent event).message := by
    rintro (_ | event) h <;> cases h
  cases call with
  | scanResult => exact absurd h (hevent _)
  | addNodeComplete => exact absurd h (hevent _)
  | addNodeFailed => exact absurd h (hevent _)
  | messageReceived sourceAddr keyIndex destination data =>
      cases destination with
      | unicast => exact hreceived _ _ h
      | virtual => exact hreceived _ _ h
      | garbage => cases h
  | devKeyMessageReceived => exact hreceived _ _ h

end BleWsCentral.Mesh
