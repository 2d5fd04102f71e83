import BleWsCentral.Mesh.Collection
import BleWsCentral.Mesh.Dbus

/-!
# The mesh service

The tasks that `listen` starts, and the channels between them: the D-Bus thread, the queue task,
`LoopCtx::run` with its collection task, and the task that is handed the batches.

* `Service` — where each of them is, and what lies in the channels. The channels that have a capacity
  have the capacity 1, so a sender waits while there is something in them.
* `Label`, `Service.step` — the tasks take turns in any order. A label is a step of one of them up to the
  next point where it may wait; it is disabled where the task waits.
* `LoopCtx::run` can fail in any call over D-Bus and is started again; it subscribes anew then, with
  nodes of its own, while the collection task of the run before may still have a window open. So
  there is a `Collection` for every run.

How the calls over D-Bus are answered is left open, as is the time that passes: a window can be closed
and a tick can come at any moment.
-/

namespace BleWsCentral.Mesh

open BleWsCentral.Found

/-! ## Channels -/

/-- The channel of the `n`-th call of `pull_msg`. Calls of `subscribe` have the odd numbers. -/
def oneshotId (n : ℕ) : ChanId := 2 * n

/-- The channel of the `n`-th call of `subscribe`. -/
def streamId (n : ℕ) : ChanId := 2 * n + 1

theorem oneshotId_injective : Function.Injective oneshotId := by
  intro m n h
  have h : 2 * m = 2 * n := h
  omega

theorem streamId_injective : Function.Injective streamId := by
  intro m n h
  have h : 2 * m + 1 = 2 * n + 1 := h
  omega

@[simp] theorem streamId_inj {m n : ℕ} : streamId m = streamId n ↔ m = n :=
  streamId_injective.eq_iff

@[simp] theorem oneshotId_ne_streamId (m n : ℕ) : oneshotId m ≠ streamId n := by
  intro h
  have h : 2 * m = 2 * n + 1 := h
  omega

/-! ## The tasks -/

/-- Where the queue task is. -/
inductive QueuePc
  /-- `select!` -/
  | selecting
  /-- In the loop of `try_pull_many`, with the positions that are left. -/
  | pulling (filter : GenericFilter) (tx : ChanId) (indexes : List ℕ)
  /-- It awaits `tx.send(msg)` in that loop. -/
  | pullSending (filter : GenericFilter) (tx : ChanId) (indexes : List ℕ) (msg : GenericMessage)
  /-- It awaits `tx.send(msg)` in the branch for a message. -/
  | streamSending (tx : ChanId) (msg : GenericMessage)
  | panicked
deriving DecidableEq

/-- The queue task. -/
structure QueueTask (K M : Type) where
  pc : QueuePc
  state : State K M

/-- Where `pull_msg` is. -/
inductive Pull
  /-- It awaits room in the subscription channel. -/
  | requesting (filter : GenericFilter) (tx : ChanId)
  /-- It awaits the message. -/
  | waiting (rx : ChanId)
deriving DecidableEq

/-- Where the branch for `NodeAdded(Ok(node))` is. -/
inductive Adding
  /-- It awaits `unprovisioned_scan`. -/
  | scanning
  /-- It awaits `add_app_key`. -/
  | addingAppKey
  /-- In `pull_msg::<ConfigAppKeyStatus, _>`. -/
  | pullingAppKey (pull : Pull)
  /-- It awaits `dev_key_send`. -/
  | binding
  /-- In `pull_msg::<ConfigModelAppStatus, _>`. -/
  | pullingModelApp (pull : Pull)
  /-- It awaits `connected.write()`. -/
  | locking
deriving DecidableEq

/-- Where `LoopCtx::run` is, and what comes before and between its runs. -/
inductive LoopPc
  /-- `try_attach`, up to its `pull_msg`. -/
  | attaching
  /-- `try_attach`, in `pull_msg::<ConfigModelAppStatus, _>`. -/
  | pullingAttach (pull : Pull)
  /-- `run`, up to `subscribe`. -/
  | starting
  /-- It awaits room in the subscription channel. -/
  | subscribing
  /-- `select!` -/
  | selecting
  /-- It awaits `trigger_tx.send(())`. -/
  | triggering
  /-- It sends the nodes a request for their values, and these are left. -/
  | polling (addrs : List MeshAddr)
  /-- It awaits `add_node`. -/
  | addingNode
  /-- In the branch for `NodeAdded(Ok(node))`. -/
  | nodeAdded (node : Node) (adding : Adding)
  /-- `run` returned an error. -/
  | failed
  | panicked
deriving DecidableEq

/-- `LoopCtx`, with the locals of `run` and the counters that number channels. -/
structure LoopCtx where
  pc : LoopPc
  discovering : Std.ExtTreeSet Uuid
  /-- The number of the current run's subscription. -/
  run : ℕ
  /-- How often `subscribe` was called. -/
  streams : ℕ
  /-- How often `pull_msg` was called. -/
  pulls : ℕ

/-- Where a collection task is. -/
inductive CollectionPc
  /-- It awaits a trigger. -/
  | awaiting
  /-- It awaits `connected.read()`. -/
  | locking
  | window (window : Window)
  /-- It awaits `tx.send(batch)`. -/
  | sending (window : Window)
  /-- It ended, or was not started yet. -/
  | gone

/-- The task holds the read guard on the nodes. -/
def CollectionPc.reads : CollectionPc → Bool
  | .window _ => true
  | .sending _ => true
  | _ => false

/-- A collection task, with what it shares with the run that started it. -/
structure Collection where
  connected : BTreeMap MeshAddr Uuid
  /-- There is a trigger in its channel. -/
  trigger : Bool
  /-- The sender of the trigger channel, which the run holds, was not dropped. -/
  triggerTx : Bool
  pc : CollectionPc
  /-- The windows whose batches were sent, the oldest first. -/
  sent : List Window

/-- The tasks and the channels between them. -/
structure Service (K M : Type) where
  dbus : DbusThread
  /-- The time at which the last call came in. -/
  clock : Timestamp
  events : Option Event
  messages : Option GenericMessage
  requests : Option (GenericFilter × Subscriber)
  queue : QueueTask K M
  channels : Channels
  /-- How many messages were taken out of the channel of a stream. -/
  taken : ChanId → ℕ
  loopCtx : LoopCtx
  collections : ℕ → Collection
  batches : Option UpdateItem
  /-- The receiver of the batches was not dropped. -/
  updateRuns : Bool

/-- The steps of the tasks; those of a collection task name its run. -/
inductive Label
  | call (call : DbusCall) (now : Timestamp)
  | dbusSend
  | queueRequest
  | queuePull
  | queueMessage
  | queueSend
  | callOk
  | callErr
  | attachPanics
  | request
  | reply
  | tick
  | trigger
  | event
  | insert
  | restart
  | takeTrigger (g : ℕ)
  | openWindow (g : ℕ)
  | collect (g : ℕ)
  | timeout (g : ℕ)
  | sendBatch (g : ℕ)
  | takeBatch
  | updateEnds
deriving DecidableEq

namespace Service

variable {K M : Type} [DecidableEq K] [DenseSlotMap K GenericFilter M]

/-- What `listen` starts with. -/
def init : Service K M where
  dbus := .idle
  clock := 0
  events := none
  messages := none
  requests := none
  queue := { pc := .selecting, state := .init }
  channels := .init
  taken _ := 0
  loopCtx := { pc := .attaching, discovering := ∅, run := 0, streams := 0, pulls := 0 }
  collections _ := { connected := ∅, trigger := false, triggerTx := false, pc := .gone, sent := [] }
  batches := none
  updateRuns := true

/-- The collection task of the current run. -/
def collection (s : Service K M) : Collection := s.collections s.loopCtx.run

/-- There is room in the channel of a stream. -/
def hasRoom (s : Service K M) (tx : ChanId) : Bool := (s.channels.handed tx).length ≤ s.taken tx

def setQueuePc (s : Service K M) (pc : QueuePc) : Service K M := { s with queue := { s.queue with pc } }

def setLoopPc (s : Service K M) (pc : LoopPc) : Service K M :=
  { s with loopCtx := { s.loopCtx with pc } }

def setCollection (s : Service K M) (g : ℕ) (collection : Collection) : Service K M :=
  { s with collections := Function.update s.collections g collection }

/-! ## The D-Bus thread -/

/-- A call comes in. -/
def call (s : Service K M) (call : DbusCall) (now : Timestamp) : Option (Service K M) :=
  match s.dbus with
  | .idle => some { s with dbus := call.handle now, clock := now }
  | _ => none

/-- The blocking send the thread is in goes through, or panics because the receiver is gone. -/
def dbusSend (s : Service K M) : Option (Service K M) :=
  match s.dbus with
  | .sendingEvent event =>
      if s.loopCtx.pc = .panicked then some { s with dbus := .panicked }
      else match s.events with
        | none => some { s with dbus := .idle, events := some event }
        | some _ => none
  | .pushing msg =>
      if s.queue.pc = .panicked then some { s with dbus := .panicked }
      else match s.messages with
        | none => some { s with dbus := .idle, messages := some msg }
        | some _ => none
  | _ => none

/-! ## The queue task -/

/-- The branch for a request. -/
def queueRequest (s : Service K M) : Option (Service K M) :=
  match s.queue.pc, s.requests with
  | .selecting, some (filter, .oneshot tx) =>
      match s.queue.state.onSubscription s.channels filter (.oneshot tx) with
      | .error _ => some { s.setQueuePc .panicked with requests := none }
      | .ok (state, channels) =>
          some { s with requests := none, queue := { s.queue with state }, channels }
  | .selecting, some (filter, .stream tx) =>
      some { s.setQueuePc (.pulling filter tx (iterFilter filter s.queue.state.messages)) with
        requests := none }
  | _, _ => none

/-- The next turn of the loop in `try_pull_many`, or what follows the loop. -/
def queuePull (s : Service K M) : Option (Service K M) :=
  match s.queue.pc with
  | .pulling filter tx [] =>
      some { s with queue :=
        { pc := .selecting, state := s.queue.state.addSubscriber filter (.stream tx) } }
  | .pulling filter tx (index :: indexes) =>
      match s.queue.state.removeMessage index with
      | .error _ => some (s.setQueuePc .panicked)
      | .ok (msg, state) =>
          some { s with queue := { pc := .pullSending filter tx indexes msg, state } }
  | _ => none

/-- The branch for a message. -/
def queueMessage (s : Service K M) : Option (Service K M) :=
  match s.queue.pc, s.messages with
  | .selecting, some msg =>
      match s.queue.state.routeMessage s.channels msg with
      | .error _ => some { s.setQueuePc .panicked with messages := none }
      | .ok (.finished state channels) =>
          some { s with messages := none, queue := { s.queue with state }, channels }
      | .ok (.sending tx msg) =>
          some { s.setQueuePc (.streamSending tx msg) with messages := none }
  | _, _ => none

/-- A send to a stream goes through when there is room, and panics if the receiver is gone. -/
def sendStream (s : Service K M) (tx : ChanId) (msg : GenericMessage) (pc : QueuePc) :
    Option (Service K M) :=
  match s.channels.send tx msg with
  | .error _ => some (s.setQueuePc .panicked)
  | .ok channels => if s.hasRoom tx then some { s.setQueuePc pc with channels } else none

/-- The send the queue task awaits. -/
def queueSend (s : Service K M) : Option (Service K M) :=
  match s.queue.pc with
  | .pullSending filter tx indexes msg => s.sendStream tx msg (.pulling filter tx indexes)
  | .streamSending tx msg => s.sendStream tx msg .selecting
  | _ => none

/-! ## `LoopCtx::run` -/

/-- The run is over, and its locals are dropped. -/
def leave (s : Service K M) (pc : LoopPc) : Service K M :=
  (s.setLoopPc pc).setCollection s.loopCtx.run { s.collection with triggerTx := false }

/-- `pull_msg`, up to its request. -/
def pullMsg (s : Service K M) (opcode : Opcode) (filter : GenericFilter) (pc : Pull → LoopPc) :
    Service K M :=
  { s with loopCtx := { s.loopCtx with
    pc := pc (.requesting (filter.withOpcode opcode) (oneshotId s.loopCtx.pulls))
    pulls := s.loopCtx.pulls + 1 } }

/-- The loop that sends the requests for values. -/
def poll (addrs : List MeshAddr) : LoopPc :=
  match addrs with
  | [] => .selecting
  | addrs => .polling addrs

/-- The call over D-Bus that is awaited succeeds. -/
def callOk (s : Service K M) : Option (Service K M) :=
  match s.loopCtx.pc with
  | .attaching =>
      some (s.pullMsg ConfigModelAppStatus.opcode (DevFilter.toGeneric {}) .pullingAttach)
  | .starting => some (s.setLoopPc .subscribing)
  | .polling (_ :: addrs) => some (s.setLoopPc (poll addrs))
  | .addingNode => some (s.setLoopPc .selecting)
  | .nodeAdded node .scanning => some (s.setLoopPc (.nodeAdded node .addingAppKey))
  | .nodeAdded node .addingAppKey =>
      some (s.pullMsg ConfigAppKeyStatus.opcode (nodeFilter node.unicastAddr) fun pull =>
        .nodeAdded node (.pullingAppKey pull))
  | .nodeAdded node .binding =>
      some (s.pullMsg ConfigModelAppStatus.opcode (nodeFilter node.unicastAddr) fun pull =>
        .nodeAdded node (.pullingModelApp pull))
  | _ => none

/-- The call over D-Bus that is awaited fails: `try_attach` is tried again, `run` ends. -/
def callErr (s : Service K M) : Option (Service K M) :=
  match s.loopCtx.pc with
  | .attaching => some s
  | .starting | .polling _ | .addingNode | .nodeAdded _ .scanning | .nodeAdded _ .addingAppKey
  | .nodeAdded _ .binding => some (s.leave .failed)
  | _ => none

/-- The result of joining is an error, or too many attempts failed. -/
def attachPanics (s : Service K M) : Option (Service K M) :=
  match s.loopCtx.pc with
  | .attaching => some (s.setLoopPc .panicked)
  | _ => none

/-- A request of `pull_msg` is sent. -/
def requestOneshot (s : Service K M) (filter : GenericFilter) (tx : ChanId) (pc : Pull → LoopPc) :
    Option (Service K M) :=
  if s.queue.pc = .panicked then some (s.leave .panicked)
  else match s.requests with
    | none =>
        some { s.setLoopPc (pc (.waiting tx)) with requests := some (filter, .oneshot (some tx)) }
    | some _ => none

/-- The request of `subscribe` is sent, and the collection task is spawned. -/
def subscribe (s : Service K M) : Option (Service K M) :=
  if s.queue.pc = .panicked then some (s.leave .panicked)
  else match s.requests with
    | none =>
        some { s with
          requests := some (sensorFilter, .stream (streamId s.loopCtx.streams))
          loopCtx := { s.loopCtx with
            pc := .selecting
            discovering := ∅
            run := s.loopCtx.streams
            streams := s.loopCtx.streams + 1 }
          collections := Function.update s.collections s.loopCtx.streams
            { connected := ∅, trigger := false, triggerTx := true, pc := .awaiting, sent := [] } }
    | some _ => none

/-- The request that waits for room in the subscription channel. -/
def request (s : Service K M) : Option (Service K M) :=
  match s.loopCtx.pc with
  | .pullingAttach (.requesting filter tx) => s.requestOneshot filter tx .pullingAttach
  | .subscribing => s.subscribe
  | .nodeAdded node (.pullingAppKey (.requesting filter tx)) =>
      s.requestOneshot filter tx fun pull => .nodeAdded node (.pullingAppKey pull)
  | .nodeAdded node (.pullingModelApp (.requesting filter tx)) =>
      s.requestOneshot filter tx fun pull => .nodeAdded node (.pullingModelApp pull)
  | _ => none

/-- `pull_msg` goes on when the message is there, or panics when it cannot come any more. Its result
is unwrapped, so a payload that does not parse is a panic; a bad status is only logged. -/
def awaitReply {α : Type} (s : Service K M) (rx : ChanId) (parsePayload : List UInt8 → Option α)
    (pc : LoopPc) : Option (Service K M) :=
  match (s.channels.handed rx).head? with
  | some msg =>
      match parsePayload msg.content.payload with
      | some _ => some (s.setLoopPc pc)
      | none => some (s.leave .panicked)
  | none => if s.queue.pc = .panicked then some (s.leave .panicked) else none

/-- The message that `pull_msg` waits for. -/
def reply (s : Service K M) : Option (Service K M) :=
  match s.loopCtx.pc with
  | .pullingAttach (.waiting rx) => s.awaitReply rx ConfigModelAppStatus.parsePayload .starting
  | .nodeAdded node (.pullingAppKey (.waiting rx)) =>
      s.awaitReply rx ConfigAppKeyStatus.parsePayload (.nodeAdded node .binding)
  | .nodeAdded node (.pullingModelApp (.waiting rx)) =>
      s.awaitReply rx ConfigModelAppStatus.parsePayload (.nodeAdded node .locking)
  | _ => none

/-- The branch for a tick. -/
def tick (s : Service K M) : Option (Service K M) :=
  match s.loopCtx.pc with
  | .selecting => some (s.setLoopPc .triggering)
  | _ => none

/-- The trigger is sent, unless the collection task is gone. -/
def trigger (s : Service K M) : Option (Service K M) :=
  match s.loopCtx.pc, s.collection.pc with
  | .triggering, .gone => some (s.leave .panicked)
  | .triggering, _ =>
      if s.collection.trigger then none
      else some ((s.setLoopPc (poll s.collection.connected.keys)).setCollection s.loopCtx.run
        { s.collection with trigger := true })
  | _, _ => none

/-- The branch for an event. -/
def event (s : Service K M) : Option (Service K M) :=
  match s.loopCtx.pc, s.events with
  | .selecting, some (.deviceDiscovered uuid _) =>
      if uuid ∈ s.loopCtx.discovering then some { s with events := none }
      else some { s with
        events := none
        loopCtx := { s.loopCtx with
          pc := .addingNode
          discovering := s.loopCtx.discovering.insert uuid } }
  | .selecting, some (.nodeAdded (.ok node)) =>
      some { s with
        events := none
        loopCtx := { s.loopCtx with
          pc := .nodeAdded node .scanning
          discovering := s.loopCtx.discovering.erase node.uuid } }
  | .selecting, some (.nodeAdded (.error _)) => some { s with events := none }
  | _, _ => none

/-- The node is put into `connected` when no window is open. -/
def insert (s : Service K M) : Option (Service K M) :=
  match s.loopCtx.pc with
  | .nodeAdded node .locking =>
      if s.collection.pc.reads then none
      else some ((s.setLoopPc .selecting).setCollection s.loopCtx.run
        { s.collection with connected := s.collection.connected.insert node.unicastAddr node.uuid })
  | _ => none

/-- `run` is started again. -/
def restart (s : Service K M) : Option (Service K M) :=
  match s.loopCtx.pc with
  | .failed => some (s.setLoopPc .starting)
  | _ => none

/-! ## The collection tasks -/

/-- The task of run `g` goes on with `pc`. -/
def setCollectionPc (s : Service K M) (g : ℕ) (pc : CollectionPc) : Service K M :=
  s.setCollection g { s.collections g with pc }

/-- The task of run `g` ends, and the receiver of its stream is dropped. -/
def stopCollection (s : Service K M) (g : ℕ) : Service K M :=
  { s.setCollectionPc g .gone with channels := { s.channels with
    dropped := Function.update s.channels.dropped (streamId g) true } }

/-- The next trigger, or the end of the loop when there can be none any more. -/
def takeTrigger (s : Service K M) (g : ℕ) : Option (Service K M) :=
  match (s.collections g).pc with
  | .awaiting =>
      if (s.collections g).trigger then
        some (s.setCollection g { s.collections g with trigger := false, pc := .locking })
      else if (s.collections g).triggerTx then none
      else some (s.stopCollection g)
  | _ => none

/-- The write lock on the nodes of run `g` is asked for. -/
def writes (s : Service K M) (g : ℕ) : Bool :=
  match s.loopCtx.pc with
  | .nodeAdded _ .locking => g = s.loopCtx.run
  | _ => false

/-- The window is opened as soon as there is no writer. -/
def openWindow (s : Service K M) (g : ℕ) : Option (Service K M) :=
  match (s.collections g).pc with
  | .locking =>
      if s.writes g then none
      else some (s.setCollectionPc g (.window (.opened (s.collections g).connected)))
  | _ => none

/-- The branch for a message of the stream. -/
def collect (units : Units) (s : Service K M) (g : ℕ) : Option (Service K M) :=
  match (s.collections g).pc, (s.channels.handed (streamId g))[s.taken (streamId g)]? with
  | .window window, some msg =>
      let s := { s with
        taken := Function.update s.taken (streamId g) (s.taken (streamId g) + 1) }
      match window.receive units msg with
      | .panicked => some (s.stopCollection g)
      | .waiting window => some (s.setCollectionPc g (.window window))
      | .complete window => some (s.setCollectionPc g (.sending window))
  | _, _ => none

/-- The branch for the timeout. -/
def timeout (s : Service K M) (g : ℕ) : Option (Service K M) :=
  match (s.collections g).pc with
  | .window window => some (s.setCollectionPc g (.sending window))
  | _ => none

/-- The batch is sent, or the loop ends because nobody takes it. -/
def sendBatch (s : Service K M) (g : ℕ) : Option (Service K M) :=
  match (s.collections g).pc with
  | .sending window =>
      if s.updateRuns then
        match s.batches with
        | none =>
            some { s.setCollection g { s.collections g with
              pc := .awaiting, sent := (s.collections g).sent ++ [window] } with
              batches := some window.finish }
        | some _ => none
      else some (s.stopCollection g)
  | _ => none

/-! ## The steps -/

/-- The next batch is taken. -/
def takeBatch (s : Service K M) : Option (Service K M) :=
  match s.batches with
  | some _ => some { s with batches := none }
  | none => none

/-- A step of one of the tasks. -/
def step (units : Units) (s : Service K M) : Label → Option (Service K M)
  | .call call now => s.call call now
  | .dbusSend => s.dbusSend
  | .queueRequest => s.queueRequest
  | .queuePull => s.queuePull
  | .queueMessage => s.queueMessage
  | .queueSend => s.queueSend
  | .callOk => s.callOk
  | .callErr => s.callErr
  | .attachPanics => s.attachPanics
  | .request => s.request
  | .reply => s.reply
  | .tick => s.tick
  | .trigger => s.trigger
  | .event => s.event
  | .insert => s.insert
  | .restart => s.restart
  | .takeTrigger g => s.takeTrigger g
  | .openWindow g => s.openWindow g
  | .collect g => s.collect units g
  | .timeout g => s.timeout g
  | .sendBatch g => s.sendBatch g
  | .takeBatch => s.takeBatch
  | .updateEnds => some { s with batches := none, updateRuns := false }

/-! ## Steps of a run -/

/-- The steps by which `listen` attaches to the mesh and `LoopCtx::run` gets to its loop. -/
def attach : List Label :=
  [.callOk, .request, .queueRequest,
    .call (.devKeyMessageReceived 1 false mainNetIndex [0x80, 0x3e, 0, 1, 0, 0, 0, 0, 0]) 0,
    .dbusSend, .queueMessage, .reply, .callOk, .request, .queueRequest, .queuePull]

/-- The UUID of an unprovisioned device. -/
def deviceUuid : List UInt8 := List.replicate 16 7

/-- A device is found and added, up to the request for its first status. -/
def provision : List Label :=
  [.call (.scanResult 0 deviceUuid) 0, .dbusSend, .event, .callOk,
    .call (.addNodeComplete deviceUuid 5 1) 0, .dbusSend, .event, .callOk, .callOk, .request]

/-- The node answers, and it is put into `connected`. -/
def configure : List Label :=
  [.queueRequest, .call (.devKeyMessageReceived 5 false mainNetIndex [0x80, 0x03, 0, 0, 0, 0]) 0,
    .dbusSend, .queueMessage, .reply, .callOk, .request, .queueRequest,
    .call (.devKeyMessageReceived 5 false mainNetIndex [0x80, 0x3e, 0, 5, 0, 0, 0, 0, 0]) 0,
    .dbusSend, .queueMessage, .reply, .insert]

/-- Sensor values of the node come in, and are sent to the stream. -/
def sensorValues (now : Timestamp) : List Label :=
  [.call (.messageReceived 5 mainAppIndex (.unicast 1)
    [0xc1, 0xf1, 0x05, 21, 0, 50, 0, 0, 0, 0, 0]) now, .dbusSend, .queueMessage]

end Service

end BleWsCentral.Mesh
