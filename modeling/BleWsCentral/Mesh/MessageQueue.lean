import BleWsCentral.Found.Run
import BleWsCentral.Found.SlotMap
import BleWsCentral.Mesh.Proto

/-!
# The message queue

`mesh/message_queue.rs`: one task that owns the `State` and takes in, one at a time, the messages of
`push_msg` and the requests of `pull_msg` and `subscribe`.

* `State` — the backlog and the registered filters with their subscribers, and the functions of
  `impl State`. A `panic` (an `expect`, an `unwrap`, a `todo!`, an index out of bounds) is an error of
  type `Panic`: the task is gone then, and its state with it.
* `Channels` — the ends of the channels the task sends on. A send hands the message to the channel,
  or gives it back if the receiving end was dropped.
* `State.onSubscription`, `State.onMessage` — the two branches of the `select!`. What the message
  branch does before it awaits the room in a stream subscriber's channel is `State.routeMessage`.
* `Queue` — the task together with its callers: every request gets a channel of its own, and the
  messages pushed so far are remembered, which the task itself does not do.

The two slot maps come from a crate outside the repository: the filters lie in any `DenseSlotMap`.
-/

namespace BleWsCentral.Mesh

open BleWsCentral.Found

/-! ## Messages and filters -/

/-- `MessageMeta`. -/
inductive MessageMeta
  | device (sourceAddr : MeshAddr) (netIndex : NetIndex)
  | normal (sourceAddr : MeshAddr) (appIndex : AppIndex)
deriving DecidableEq

/-- `MessageKind`. -/
inductive MessageKind
  | device
  | normal
deriving DecidableEq

/-- `GenericMessage`. -/
structure GenericMessage where
  sourceAddr : MeshAddr
  received : Timestamp
  kind : MessageKind
  content : Message
  index : UInt16
deriving DecidableEq

/-- `GenericMessage::new`; `now` is what `Timestamp::now()` gives. -/
def GenericMessage.new (msg : Message) (info : MessageMeta) (now : Timestamp) : GenericMessage :=
  match info with
  | .device sourceAddr netIndex =>
      { sourceAddr, index := netIndex.val, received := now, kind := .device, content := msg }
  | .normal sourceAddr appIndex =>
      { sourceAddr, index := appIndex.val, received := now, kind := .normal, content := msg }

@[simp] theorem GenericMessage.new_received (msg : Message) (info : MessageMeta) (now : Timestamp) :
    (GenericMessage.new msg info now).received = now := by
  cases info <;> rfl

/-- `GenericFilter`. -/
structure GenericFilter where
  sourceAddr : Option MeshAddr
  index : Option UInt16
  opcode : Option Opcode
  kind : MessageKind
deriving DecidableEq

/-- One optional field of a filter: `None` lets everything through. -/
def admits {α : Type} [DecidableEq α] (field : Option α) (value : α) : Bool :=
  match field with
  | some wanted => if wanted ≠ value then false else true
  | none => true

/-- `GenericFilter::is_match`. -/
def GenericFilter.isMatch (self : GenericFilter) (message : GenericMessage) : Bool :=
  if message.kind = self.kind then
    admits self.sourceAddr message.sourceAddr && admits self.opcode message.content.opcode &&
      admits self.index message.index
  else false

/-- `filter.opcode = Some(T::opcode())`, which `pull_msg` does before it asks. -/
def GenericFilter.withOpcode (self : GenericFilter) (opcode : Opcode) : GenericFilter :=
  { self with opcode := some opcode }

/-- `DevFilter`. -/
structure DevFilter where
  sourceAddr : Option MeshAddr := none
  netIndex : Option NetIndex := none
  opcode : Option Opcode := none

/-- `impl From<DevFilter> for GenericFilter`. -/
def DevFilter.toGeneric (f : DevFilter) : GenericFilter :=
  { kind := .device, opcode := f.opcode, index := f.netIndex.map NetIndex.val,
    sourceAddr := f.sourceAddr }

/-- `Filter`. -/
structure Filter where
  sourceAddr : Option MeshAddr := none
  appIndex : Option AppIndex := none
  opcode : Option Opcode := none

/-- `impl From<Filter> for GenericFilter`. -/
def Filter.toGeneric (f : Filter) : GenericFilter :=
  { kind := .normal, opcode := f.opcode, index := f.appIndex.map AppIndex.val,
    sourceAddr := f.sourceAddr }

/-- What `LoopCtx::run` subscribes to: the sensor values sent under the main app key. -/
def sensorFilter : GenericFilter :=
  Filter.toGeneric { opcode := some BleWsSensorValues.opcode, appIndex := some mainAppIndex }

/-- What `LoopCtx::run` pulls from a node it configures, apart from the opcode. -/
def nodeFilter (unicastAddr : MeshAddr) : GenericFilter :=
  DevFilter.toGeneric { sourceAddr := some unicastAddr }

/-- The positions from `i` on of the messages that match. -/
def iterFilterFrom (filter : GenericFilter) : ℕ → List GenericMessage → List ℕ
  | _, [] => []
  | i, msg :: messages =>
      if filter.isMatch msg then i :: iterFilterFrom filter (i + 1) messages
      else iterFilterFrom filter (i + 1) messages

/-- `iter_filter`: the positions of the messages that match, in order. -/
def iterFilter (filter : GenericFilter) (messages : List GenericMessage) : List ℕ :=
  iterFilterFrom filter 0 messages

theorem head?_iterFilterFrom (filter : GenericFilter) :
    ∀ (i : ℕ) (messages : List GenericMessage),
      (iterFilterFrom filter i messages).head? =
        (messages.findIdx? filter.isMatch).map (· + i)
  | _, [] => rfl
  | i, msg :: messages => by
      rw [iterFilterFrom, List.findIdx?_cons]
      split
      · simp
      · rw [head?_iterFilterFrom filter (i + 1) messages, Option.map_map]
        congr 1
        funext j
        simp only [Function.comp_apply]
        omega

/-- The first position of `iter_filter` is that of the first message that matches. -/
theorem head?_iterFilter (filter : GenericFilter) (messages : List GenericMessage) :
    (iterFilter filter messages).head? = messages.findIdx? filter.isMatch := by
  rw [iterFilter, head?_iterFilterFrom]
  simp

theorem iterFilterFrom_eq_findIdxs (filter : GenericFilter) :
    ∀ (i : ℕ) (messages : List GenericMessage),
      iterFilterFrom filter i messages = messages.findIdxs filter.isMatch i
  | _, [] => rfl
  | i, msg :: messages => by
      rw [iterFilterFrom, List.findIdxs_cons, iterFilterFrom_eq_findIdxs filter (i + 1) messages]

theorem iterFilter_eq_findIdxs (filter : GenericFilter) (messages : List GenericMessage) :
    iterFilter filter messages = messages.findIdxs filter.isMatch :=
  iterFilterFrom_eq_findIdxs filter 0 messages

theorem iterFilter_eq_nil {filter : GenericFilter} {messages : List GenericMessage}
    (h : ∀ msg ∈ messages, filter.isMatch msg = false) : iterFilter filter messages = [] := by
  rw [iterFilter_eq_findIdxs, List.findIdxs_eq_nil_iff.mpr h]

/-! ## Channels -/

/-- The identity of a channel. Every call of `pull_msg` and of `subscribe` makes one. -/
abbrev ChanId := ℕ

/-- The channels the queue task sends on: what each of them was handed so far, the oldest message
first, and which receiving ends are gone. -/
structure Channels where
  handed : ChanId → List GenericMessage
  dropped : ChanId → Bool

/-- The channels before anything was sent. -/
def Channels.init : Channels where
  handed _ := []
  dropped _ := false

/-- `Sender::send`: hands the message over, or gives it back if the receiving end is gone. -/
def Channels.send (w : Channels) (tx : ChanId) (msg : GenericMessage) :
    Except GenericMessage Channels :=
  if w.dropped tx then .error msg
  else .ok { w with handed := Function.update w.handed tx (w.handed tx ++ [msg]) }

theorem Channels.send_of_alive {w : Channels} {tx : ChanId} (h : w.dropped tx = false)
    (msg : GenericMessage) :
    w.send tx msg =
      .ok { w with handed := Function.update w.handed tx (w.handed tx ++ [msg]) } := by
  simp [Channels.send, h]

theorem Channels.send_eq_ok {w w' : Channels} {tx : ChanId} {msg : GenericMessage} :
    w.send tx msg = .ok w' ↔ w.dropped tx = false ∧
      w' = { w with handed := Function.update w.handed tx (w.handed tx ++ [msg]) } := by
  cases h : w.dropped tx <;> simp [Channels.send, h, eq_comm]

theorem Channels.send_of_dropped {w : Channels} {tx : ChanId} (h : w.dropped tx = true)
    (msg : GenericMessage) : w.send tx msg = .error msg := by
  simp [Channels.send, h]

/-- `Subscriber`; the sender of a oneshot is taken out of its cell when it is used. -/
inductive Subscriber
  | oneshot (tx : Option ChanId)
  | stream (tx : ChanId)
deriving DecidableEq

/-- What the queue task can panic with. -/
inductive Panic
  /-- `expect("Inconsistent state")` -/
  | inconsistentState
  /-- `expect("Reusing oneshot tx")` -/
  | reusingOneshotTx
  /-- `todo!("Closed tx, need to implement retry logic looping over filters")` -/
  | closedTx
  /-- `todo!("Retry logic in try_pull_many")` -/
  | retryPullMany
  /-- `tx_cell.take().unwrap()` -/
  | emptyTxCell
  /-- `Vec::remove` out of bounds -/
  | removeOutOfBounds
deriving DecidableEq

/-! ## The state of the task -/

/-- `State`. -/
structure State (K M : Type) where
  messages : List GenericMessage
  filters : M
  subscribers : SecondaryMap K Subscriber

namespace State

variable {K M : Type} [DecidableEq K] [DenseSlotMap K GenericFilter M]

/-- `State::default()`. -/
def init : State K M where
  messages := []
  filters := DenseSlotMap.empty
  subscribers := .empty

/-- `self.messages.remove(index)`. -/
def removeMessage (self : State K M) (index : ℕ) : Except Panic (GenericMessage × State K M) :=
  match self.messages[index]? with
  | none => .error .removeOutOfBounds
  | some msg => .ok (msg, { self with messages := self.messages.eraseIdx index })

/-- `State::try_pull_one`, with what is left in the sender's cell. -/
def tryPullOne (self : State K M) (w : Channels) (txCell : Option ChanId) (filter : GenericFilter) :
    Except Panic (Bool × Option ChanId × State K M × Channels) :=
  match (iterFilter filter self.messages).head? with
  | none => .ok (false, txCell, self, w)
  | some index => do
      let (msg, self) ← self.removeMessage index
      match txCell with
      | none => .error .emptyTxCell
      | some tx =>
          match w.send tx msg with
          | .error msg => .ok (false, none, { self with messages := self.messages ++ [msg] }, w)
          | .ok w => .ok (true, none, self, w)

/-- One turn of the loop of `State::try_pull_many`. -/
def pullAt (tx : ChanId) (self : State K M × Channels) (index : ℕ) :
    Except Panic (State K M × Channels) := do
  let (msg, state) ← self.1.removeMessage index
  match self.2.send tx msg with
  | .error _ => .error .retryPullMany
  | .ok w => .ok (state, w)

/-- `State::try_pull_many`: the positions are collected first. -/
def tryPullMany (self : State K M) (w : Channels) (tx : ChanId) (filter : GenericFilter) :
    Except Panic (State K M × Channels) :=
  (iterFilter filter self.messages).foldlM (pullAt tx) (self, w)

/-- `State::add_subscriber`. -/
def addSubscriber (self : State K M) (filter : GenericFilter) (subscriber : Subscriber) :
    State K M :=
  let (key, filters) := DenseSlotMap.insert self.filters filter
  { self with filters, subscribers := self.subscribers.insert key subscriber }

/-- `State::match_filter`: the first filter that matches, in the order of the slot map. -/
def matchFilter (self : State K M) (msg : GenericMessage) : Option K :=
  ((DenseSlotMap.iter self.filters).find? fun e => e.2.isMatch msg).map Prod.fst

/-- The removal of a oneshot subscriber that got its message. -/
def removeSubscriber (self : State K M) (index : K) : State K M :=
  { self with
    subscribers := self.subscribers.remove index
    filters := DenseSlotMap.remove self.filters index }

/-- The branch for a subscription request. -/
def onSubscription (self : State K M) (w : Channels) (filter : GenericFilter) (chan : Subscriber) :
    Except Panic (State K M × Channels) :=
  match chan with
  | .oneshot tx => do
      let (pulled, tx, self, w) ← self.tryPullOne w tx filter
      if pulled then .ok (self, w) else .ok (self.addSubscriber filter (.oneshot tx), w)
  | .stream tx => do
      let (self, w) ← self.tryPullMany w tx filter
      .ok (self.addSubscriber filter (.stream tx), w)

/-- How far the branch for a message gets without waiting. -/
inductive Routed (K M : Type)
  /-- The message is in the backlog or in the channel of a oneshot. -/
  | finished (state : State K M) (w : Channels)
  /-- The task awaits `tx.send(msg)` on the channel of a stream. -/
  | sending (tx : ChanId) (msg : GenericMessage)

/-- The branch for a message, up to the send to a stream subscriber. -/
def routeMessage (self : State K M) (w : Channels) (msg : GenericMessage) :
    Except Panic (Routed K M) :=
  match self.matchFilter msg with
  | none => .ok (.finished { self with messages := self.messages ++ [msg] } w)
  | some index =>
      match self.subscribers.get index with
      | none => .error .inconsistentState
      | some (.oneshot none) => .error .reusingOneshotTx
      | some (.oneshot (some tx)) =>
          match w.send tx msg with
          | .error _ => .error .closedTx
          | .ok w => .ok (.finished (self.removeSubscriber index) w)
      | some (.stream tx) => .ok (.sending tx msg)

/-- The branch for a message. -/
def onMessage (self : State K M) (w : Channels) (msg : GenericMessage) :
    Except Panic (State K M × Channels) := do
  match ← self.routeMessage w msg with
  | .finished self w => .ok (self, w)
  | .sending tx msg =>
      match w.send tx msg with
      | .error _ => .error .closedTx
      | .ok w => .ok (self, w)

/-! ### What the functions do -/

variable {self : State K M} {w : Channels} {filter : GenericFilter} {msg : GenericMessage}

omit [DecidableEq K] [DenseSlotMap K GenericFilter M] in
/-- Taking a message out of the backlog leaves the rest of the state alone. -/
theorem removeMessage_eq_ok {index : ℕ} {state : State K M} :
    self.removeMessage index = .ok (msg, state) ↔ self.messages[index]? = some msg ∧
      state = { self with messages := self.messages.eraseIdx index } := by
  cases hmsg : self.messages[index]? <;> simp [removeMessage, hmsg, eq_comm]

omit [DecidableEq K] [DenseSlotMap K GenericFilter M] in
theorem tryPullOne_of_unmatched (h : ∀ m ∈ self.messages, filter.isMatch m = false)
    (txCell : Option ChanId) : self.tryPullOne w txCell filter = .ok (false, txCell, self, w) := by
  simp [tryPullOne, iterFilter_eq_nil h]

omit [DecidableEq K] [DenseSlotMap K GenericFilter M] in
/-- With a sender in the cell, the first message that matches is taken out of the backlog and sent;
if the send fails it is put back at the end. -/
theorem tryPullOne_of_first {i : ℕ} (hi : self.messages.findIdx? filter.isMatch = some i)
    (hmsg : self.messages[i]? = some msg) (tx : ChanId) :
    self.tryPullOne w (some tx) filter =
      match w.send tx msg with
      | .error msg =>
          .ok (false, none, { self with messages := self.messages.eraseIdx i ++ [msg] }, w)
      | .ok w => .ok (true, none, { self with messages := self.messages.eraseIdx i }, w) := by
  simp only [tryPullOne, head?_iterFilter, hi, removeMessage, hmsg, bind, Except.bind]

omit [DecidableEq K] [DenseSlotMap K GenericFilter M] in
theorem tryPullMany_of_unmatched (h : ∀ m ∈ self.messages, filter.isMatch m = false)
    (tx : ChanId) : self.tryPullMany w tx filter = .ok (self, w) := by
  simp [tryPullMany, iterFilter_eq_nil h, pure, Except.pure]

/-- A oneshot request whose receiver is alive takes a message out of the backlog, or is registered. -/
theorem onSubscription_oneshot {state : State K M} {w' : Channels} {tx : ChanId}
    (halive : w.dropped tx = false)
    (h : self.onSubscription w filter (.oneshot (some tx)) = .ok (state, w')) :
    (∃ i msg, self.messages[i]? = some msg ∧ filter.isMatch msg = true ∧
      state = { self with messages := self.messages.eraseIdx i } ∧ w.send tx msg = .ok w') ∨
      state = self.addSubscriber filter (.oneshot (some tx)) ∧ w' = w := by
  rw [onSubscription] at h
  obtain ⟨⟨pulled, tx', st, v⟩, hpull, h⟩ := bind_eq_ok.mp h
  unfold tryPullOne at hpull
  split at hpull
  · cases hpull
    cases h
    exact .inr ⟨rfl, rfl⟩
  · rename_i i hi
    obtain ⟨⟨msg, st'⟩, hremove, hpull⟩ := bind_eq_ok.mp hpull
    unfold removeMessage at hremove
    split at hremove <;> cases hremove
    rename_i hmsg
    simp only [Channels.send_of_alive halive] at hpull
    cases hpull
    cases h
    rw [head?_iterFilter] at hi
    obtain ⟨hlt, hmatch, -⟩ := List.findIdx?_eq_some_iff_getElem.mp hi
    rw [List.getElem?_eq_getElem hlt, Option.some.injEq] at hmsg
    subst hmsg
    exact .inl ⟨i, _, List.getElem?_eq_getElem hlt, hmatch, rfl, Channels.send_of_alive halive _⟩

/-- The branch for a message hands it to a oneshot, sends it to a stream, or keeps it. -/
theorem routeMessage_cases {r : Routed K M}
    (h : self.routeMessage w msg = .ok r) :
    r = .finished { self with messages := self.messages ++ [msg] } w ∨
      (∃ key tx w', self.matchFilter msg = some key ∧
        self.subscribers.get key = some (.oneshot (some tx)) ∧ w.send tx msg = .ok w' ∧
        r = .finished (self.removeSubscriber key) w') ∨
      ∃ key tx, self.matchFilter msg = some key ∧ self.subscribers.get key = some (.stream tx) ∧
        r = .sending tx msg := by
  unfold routeMessage at h
  split at h
  · cases h
    exact .inl rfl
  · rename_i key hkey
    split at h
    · cases h
    · cases h
    · rename_i tx hsub
      split at h <;> cases h
      rename_i w' hsend
      exact .inr (.inl ⟨key, tx, w', hkey, hsub, hsend, rfl⟩)
    · rename_i tx hsub
      cases h
      exact .inr (.inr ⟨key, tx, hkey, hsub, rfl⟩)

omit [DecidableEq K] in
theorem matchFilter_eq_none :
    self.matchFilter msg = none ↔
      ∀ e ∈ DenseSlotMap.iter self.filters, e.2.isMatch msg = false := by
  simp [matchFilter]

omit [DecidableEq K] in
/-- `match_filter` gives the key of a registered filter that matches. -/
theorem exists_of_matchFilter {key : K} (h : self.matchFilter msg = some key) :
    ∃ f, (key, f) ∈ DenseSlotMap.iter self.filters ∧ f.isMatch msg = true := by
  obtain ⟨e, he, rfl⟩ := Option.map_eq_some_iff.mp h
  exact ⟨e.2, List.mem_of_find?_eq_some he, by simpa using List.find?_some he⟩

@[simp] theorem addSubscriber_messages (subscriber : Subscriber) :
    (self.addSubscriber filter subscriber).messages = self.messages := rfl

theorem mem_filters_addSubscriber {subscriber : Subscriber} {e : K × GenericFilter} :
    e ∈ DenseSlotMap.iter (self.addSubscriber filter subscriber).filters ↔
      e = ((DenseSlotMap.insert self.filters filter).1, filter) ∨
        e ∈ DenseSlotMap.iter self.filters :=
  DenseSlotMap.mem_iter_insert

/-- The new subscriber has its own key. -/
@[simp] theorem get_addSubscriber_self {subscriber : Subscriber} :
    (self.addSubscriber filter subscriber).subscribers.get
      (DenseSlotMap.insert self.filters filter).1 = some subscriber := by
  simp [addSubscriber, SecondaryMap.get_insert]

/-- The subscribers there keep theirs. -/
theorem get_addSubscriber_of_mem {subscriber : Subscriber} {e : K × GenericFilter}
    (h : e ∈ DenseSlotMap.iter self.filters) :
    (self.addSubscriber filter subscriber).subscribers.get e.1 = self.subscribers.get e.1 := by
  simp [addSubscriber, SecondaryMap.get_insert, DenseSlotMap.ne_of_mem_iter h]

@[simp] theorem removeSubscriber_messages (key : K) :
    (self.removeSubscriber key).messages = self.messages := rfl

@[simp] theorem mem_filters_removeSubscriber {key : K} {e : K × GenericFilter} :
    e ∈ DenseSlotMap.iter (self.removeSubscriber key).filters ↔
      e ∈ DenseSlotMap.iter self.filters ∧ e.1 ≠ key :=
  DenseSlotMap.mem_iter_remove

theorem get_removeSubscriber_of_ne {key key' : K} (h : key' ≠ key) :
    (self.removeSubscriber key).subscribers.get key' = self.subscribers.get key' := by
  simp [removeSubscriber, SecondaryMap.get_remove, h]

end State

/-! ## The task and its callers -/

/-- Which call a channel was made by. -/
inductive RequestKind
  | oneshot
  | stream
deriving DecidableEq

/-- A request the queue was sent: channel `c` belongs to the `c`-th of them. -/
structure Request where
  kind : RequestKind
  filter : GenericFilter
deriving DecidableEq

/-- The queue task, its channels, and what its callers did so far. -/
structure Queue (K M : Type) where
  state : State K M
  channels : Channels
  /-- The messages pushed so far, the oldest first. -/
  pushed : List GenericMessage
  /-- The requests made so far, the oldest first. -/
  requests : List Request

/-- What reaches the queue task, or one of the channels it sends on. -/
inductive QueueEvent
  /-- `push_msg` -/
  | pushMsg (msg : Message) (info : MessageMeta) (now : Timestamp)
  /-- `pull_msg::<T, _>` with the opcode of `T` -/
  | pullMsg (opcode : Opcode) (filter : GenericFilter)
  /-- `subscribe` -/
  | subscribe (filter : GenericFilter)
  /-- The caller lets go of the receiving end of its channel. -/
  | dropReceiver (c : ChanId)
deriving DecidableEq

namespace Queue

variable {K M : Type} [DecidableEq K] [DenseSlotMap K GenericFilter M]

/-- The queue task as `MessageQueue::new` starts it. -/
def init : Queue K M where
  state := .init
  channels := .init
  pushed := []
  requests := []

/-- A request of `kind` on a channel of its own. -/
def request (q : Queue K M) (kind : RequestKind) (filter : GenericFilter) (chan : Subscriber) :
    Except Panic (Queue K M) := do
  let (state, channels) ← q.state.onSubscription q.channels filter chan
  .ok { q with state, channels, requests := q.requests ++ [{ kind, filter }] }

/-- One turn of the task, or a receiving end being dropped. -/
def step (q : Queue K M) : QueueEvent → Except Panic (Queue K M)
  | .pushMsg msg info now => do
      let message := GenericMessage.new msg info now
      let (state, channels) ← q.state.onMessage q.channels message
      .ok { q with state, channels, pushed := q.pushed ++ [message] }
  | .pullMsg opcode filter =>
      q.request .oneshot (filter.withOpcode opcode) (.oneshot (some q.requests.length))
  | .subscribe filter => q.request .stream filter (.stream q.requests.length)
  | .dropReceiver c =>
      .ok { q with channels := { q.channels with
        dropped := Function.update q.channels.dropped c true } }

end Queue

end BleWsCentral.Mesh
