import BleWsCentral.Found.SharedSink
import BleWsCentral.Found.Varint

/-!
# The MQTT connection

`lib.rs` of `tokio-mqtt`: a connection is opened, and then three tasks send packets through one sink: whoever
publishes, `ping_task`, and `driver_task`, which answers the pings of the server and hands on what it publishes.

* `Packets` — the packets of the crate `mqtt`, as far as they are made and told apart.
* `Connection`, `Connection.step` — `Connection::connect` and the tasks. The sink is a `SharedSink`: it is a
  `FramedWrite` in a mutex, which encodes a packet into its buffer and then writes the buffer out.
* `Matches` — a task is in `send_packet` if and only if the sink has a packet of it.
* `sinkStep` — what a step does to the sink; `sink_of_step`: this is a step of it.
-/

set_option linter.unusedSectionVars false

namespace BleWsCentral.Mqtt

open BleWsCentral.Found

/-! ## Packets -/

/-- `ConnectReturnCode`. -/
inductive ConnectReturnCode
  | connectionAccepted
  | refused (code : UInt8)
deriving DecidableEq

/-- `VariablePacket`, as far as its cases are told apart. -/
inductive VariablePacket
  | connack (code : ConnectReturnCode)
  | pingreq
  | pingresp
  | suback
  | publish (topic : String) (payload : List UInt8)
  | other
deriving DecidableEq

/-- The packets of type `P` of the crate `mqtt`. -/
structure Packets (P : Type) where
  /-- `Encodable::encode`. -/
  encode : P → List UInt8
  /-- `ConnectPacket::new`, with what is set then. -/
  connectPacket (clientId : String) (userName password : Option String) (cleanSession : Bool)
    (keepAlive : UInt16) : P
  /-- `PublishPacket::new`, of quality of service `Level0`. -/
  publishPacket (topicName : String) (payload : List UInt8) : P
  pingreqPacket : P
  pingrespPacket : P
  variablePacket : P → VariablePacket

/-! ## The tasks -/

/-- Those that send packets: `Connection::connect` and `publish`, `driver_task` and `ping_task`. -/
inductive Task
  | connection
  | driver
  | ping
deriving DecidableEq

/-- What `Connection::connect` fails with. -/
inductive ConnectError
  | io
  | connectionRefused (returnCode : ConnectReturnCode)
  | unexpectedPacket
deriving DecidableEq

/-- How far the connection is. -/
inductive ConnectionPc
  | connecting
  | awaitingConnack
  | connected
  | publishing
  | failed (e : ConnectError)
  | panicked
deriving DecidableEq

/-- Whether `Connection::connect` or `publish` is in `send_packet`. -/
def ConnectionPc.sending : ConnectionPc → Bool
  | .connecting => true
  | .publishing => true
  | _ => false

/-- Whether the server accepted the connection. -/
def ConnectionPc.accepted : ConnectionPc → Bool
  | .connected => true
  | .publishing => true
  | _ => false

/-- Where `driver_task` is. -/
inductive DriverPc
  | absent
  | reading
  | answering
  | forwarding (msg : String × List UInt8)
  | stopped
deriving DecidableEq

/-- Where `ping_task` is. -/
inductive PingPc
  | absent
  | ticking
  | pinging
deriving DecidableEq

/-- The channel that `connect` returns the receiver of. -/
structure PubChannel where
  buffered : Option (String × List UInt8)
  dropped : Bool
deriving DecidableEq

/-- A connection. -/
structure Connection (P : Type) where
  sink : SharedSink Task P UInt8
  pc : ConnectionPc
  driver : DriverPc
  ping : PingPc
  pub : PubChannel

/-- A step of a connection. -/
inductive ConnectionStep (P E : Type)
  /-- A task gets further in `send_packet`. -/
  | sink (a : SinkStep Task P)
  /-- What `r.next()` yields to `connect`. -/
  | connack (item : Option (Except E P))
  | publish (topicName : String) (msg : List UInt8)
  /-- The interval of `ping_task`. -/
  | tick
  /-- What `r.next()` yields to `driver_task`. -/
  | packet (item : Option (Except E P))
  | forward
  /-- Somebody takes a message from the stream. -/
  | receive
  | dropStream
deriving DecidableEq

namespace Connection

variable {P E : Type}

/-- A task goes on after its `send_packet`. -/
def sent (s : Connection P) (ok : Bool) : Task → Connection P
  | .connection =>
      match s.pc with
      | .connecting => { s with pc := if ok then .awaitingConnack else .failed .io }
      | .publishing => { s with pc := .connected }
      | _ => s
  | .driver => { s with driver := .reading }
  | .ping => { s with ping := .ticking }

/-- What a step of the sink leads to. -/
def proceed (s : Connection P) (a : SinkStep Task P) (sink : SharedSink Task P UInt8) : Connection P :=
  match a.ends with
  | some (i, ok) => { s.sent ok i with sink }
  | none => { s with sink }

/-- A task begins to send a packet. -/
def sendPacket (s : Connection P) (i : Task) (p : P) : Connection P :=
  { s with sink := s.sink.setSend i (some (.waiting p)) }

/-- A connection that is about to send its first packet. -/
def opening (first : P) : Connection P where
  sink := SharedSink.init.setSend .connection (some (.waiting first))
  pc := .connecting
  driver := .absent
  ping := .absent
  pub := ⟨none, false⟩

/-- `Connection::connect`, up to the first packet. -/
def connect (C : Packets P) (clientId : String) (userName password : Option String) (keepAlive : UInt16) :
    Connection P :=
  opening (C.connectPacket clientId userName password true keepAlive)

/-- What `connect` makes of the first packet of the server. -/
def onConnack (C : Packets P) (keepAlive : UInt16) (s : Connection P) :
    Option (Except E P) → Connection P
  | none => { s with pc := .panicked }
  | some (.ok packet) =>
      match C.variablePacket packet with
      | .connack .connectionAccepted =>
          { s with pc := .connected, driver := .reading, ping := if keepAlive = 0 then .absent else .ticking }
      | .connack returnCode => { s with pc := .failed (.connectionRefused returnCode) }
      | _ => { s with pc := .failed .unexpectedPacket }
  | some (.error _) => { s with pc := .failed .unexpectedPacket }

/-- What `driver_task` makes of a packet. -/
def onPacket (C : Packets P) (s : Connection P) : Option (Except E P) → Connection P
  | none => { s with driver := .stopped }
  | some (.ok packet) =>
      match C.variablePacket packet with
      | .pingreq => { s.sendPacket .driver C.pingrespPacket with driver := .answering }
      | .publish topic payload => { s with driver := .forwarding (topic, payload) }
      | _ => s
  | some (.error _) => s

/-- The steps. The buffer of the sink has room while it is shorter than `boundary`. -/
def step (C : Packets P) (boundary : ℕ) (keepAlive : UInt16) (s : Connection P) :
    ConnectionStep P E → Option (Connection P)
  | .sink (.start _ _) => none
  | .sink a => (s.sink.step C.encode boundary a).map (s.proceed a)
  | .connack item => if s.pc = .awaitingConnack then some (s.onConnack C keepAlive item) else none
  | .publish topicName msg =>
      if s.pc = .connected then
        some { s.sendPacket .connection (C.publishPacket topicName msg) with pc := .publishing }
      else none
  | .tick =>
      if s.ping = .ticking then some { s.sendPacket .ping C.pingreqPacket with ping := .pinging } else none
  | .packet item => if s.driver = .reading then some (s.onPacket C item) else none
  | .forward =>
      match s.driver with
      | .forwarding msg =>
          -- a message for a stream that was dropped is lost
          if s.pub.dropped then some { s with driver := .reading }
          else
            match s.pub.buffered with
            | none => some { s with driver := .reading, pub := ⟨some msg, false⟩ }
            | some _ => none
      | _ => none
  | .receive =>
      match s.pub with
      | ⟨some _, false⟩ => some { s with pub := ⟨none, false⟩ }
      | _ => none
  | .dropStream => if s.pub.dropped then none else some { s with pub := ⟨none, true⟩ }

variable {C : Packets P} {boundary : ℕ} {keepAlive : UInt16} {s s' : Connection P}
  {a : ConnectionStep P E}

/-! ## What a step does -/

/-- The steps, with what they need. -/
inductive Effect (C : Packets P) (boundary : ℕ) (keepAlive : UInt16) (s : Connection P) :
    ConnectionStep P E → Connection P → Prop
  | sent {a : SinkStep Task P} {sink : SharedSink Task P UInt8} {i : Task} {ok : Bool}
      (hsink : s.sink.step C.encode boundary a = some sink) (hends : a.ends = some (i, ok)) :
      Effect C boundary keepAlive s (.sink a) { s.sent ok i with sink }
  | sending {a : SinkStep Task P} {sink : SharedSink Task P UInt8}
      (hsink : s.sink.step C.encode boundary a = some sink) (hends : a.ends = none)
      (hstart : ∀ i p, a ≠ .start i p) : Effect C boundary keepAlive s (.sink a) { s with sink }
  | connack {item : Option (Except E P)} (hpc : s.pc = .awaitingConnack) :
      Effect C boundary keepAlive s (.connack item) (s.onConnack C keepAlive item)
  | publish {topicName : String} {msg : List UInt8} (hpc : s.pc = .connected) :
      Effect C boundary keepAlive s (.publish topicName msg)
        { s.sendPacket .connection (C.publishPacket topicName msg) with pc := .publishing }
  | tick (hping : s.ping = .ticking) :
      Effect C boundary keepAlive s .tick { s.sendPacket .ping C.pingreqPacket with ping := .pinging }
  | packet {item : Option (Except E P)} (hdriver : s.driver = .reading) :
      Effect C boundary keepAlive s (.packet item) (s.onPacket C item)
  | lost {msg : String × List UInt8} (hdriver : s.driver = .forwarding msg) (hpub : s.pub.dropped = true) :
      Effect C boundary keepAlive s .forward { s with driver := .reading }
  | forwarded {msg : String × List UInt8} (hdriver : s.driver = .forwarding msg)
      (hpub : s.pub.buffered = none) :
      Effect C boundary keepAlive s .forward { s with driver := .reading, pub := ⟨some msg, false⟩ }
  | received : Effect C boundary keepAlive s .receive { s with pub := ⟨none, false⟩ }
  | dropped : Effect C boundary keepAlive s .dropStream { s with pub := ⟨none, true⟩ }

theorem effect_of_step (h : s.step C boundary keepAlive a = some s') :
    s.Effect C boundary keepAlive a s' := by
  unfold step at h
  split at h
  · cases h
  · rename_i a hstart
    obtain ⟨sink, hsink, rfl⟩ := Option.map_eq_some_iff.mp h
    unfold proceed
    split
    · exact .sent hsink ‹_›
    · exact .sending hsink ‹_› fun i p ha => hstart i p ha
  · split at h <;> cases h
    exact .connack ‹_›
  · split at h <;> cases h
    exact .publish ‹_›
  · split at h <;> cases h
    exact .tick ‹_›
  · split at h <;> cases h
    exact .packet ‹_›
  · split at h
    · split at h
      · cases h
        exact .lost ‹_› ‹_›
      · split at h <;> cases h
        exact .forwarded ‹_› ‹_›
    · cases h
  · split at h <;> cases h
    exact .received
  · split at h <;> cases h
    exact .dropped

/-! ## The sink -/

/-- What a step does to the sink. -/
def sinkStep (C : Packets P) : ConnectionStep P E → Option (SinkStep Task P)
  | .sink a => some a
  | .publish topicName msg => some (.start .connection (C.publishPacket topicName msg))
  | .tick => some (.start .ping C.pingreqPacket)
  | .packet (some (.ok packet)) =>
      if C.variablePacket packet = .pingreq then some (.start .driver C.pingrespPacket) else none
  | _ => none

/-- Whether a task is in `send_packet`. -/
def busy (s : Connection P) : Task → Bool
  | .connection => s.pc.sending
  | .driver => decide (s.driver = .answering)
  | .ping => decide (s.ping = .pinging)

/-- A task is in `send_packet` if and only if the sink has a packet of it, and the tasks are there once the
server accepted the connection. -/
structure Matches (s : Connection P) : Prop where
  free_iff : ∀ i, s.sink.sends i = none ↔ s.busy i = false
  absent : s.pc.accepted = false → s.driver = .absent ∧ s.ping = .absent

theorem Matches.opening (first : P) : (opening first).Matches := by
  refine ⟨fun i => ?_, fun _ => ⟨rfl, rfl⟩⟩
  have hsends : (Connection.opening first).sink.sends i =
      if i = .connection then some (.waiting first) else none := SharedSink.sends_setSend _ _ _ _
  rw [hsends]
  cases i <;> simp [Connection.opening, busy, ConnectionPc.sending]

/-- A task that does not send anything begins to. -/
theorem start_eq {i : Task} {p : P} (h : s.sink.sends i = none) :
    s.sink.step C.encode boundary (.start i p) = some (s.sink.setSend i (some (.waiting p))) := by
  unfold SharedSink.step
  simp only [h]

/-- A step does to the sink what it should. -/
theorem sink_of_step (hmatches : s.Matches) (h : s.step C boundary keepAlive a = some s') :
    match sinkStep C a with
    | some b => s.sink.step C.encode boundary b = some s'.sink
    | none => s'.sink = s.sink := by
  cases effect_of_step h with
  | sent hsink _ => exact hsink
  | sending hsink _ _ => exact hsink
  | @connack item _ =>
      unfold onConnack
      cases item with
      | none => rfl
      | some item =>
          cases item with
          | error e => rfl
          | ok packet =>
              dsimp only [sinkStep]
              split <;> rfl
  | publish hpc =>
      refine start_eq ((hmatches.free_iff .connection).mpr ?_)
      rw [busy, hpc]
      rfl
  | tick hping =>
      refine start_eq ((hmatches.free_iff .ping).mpr ?_)
      rw [busy, hping]
      rfl
  | @packet item hdriver =>
      have hfree : s.sink.sends .driver = none := by
        refine (hmatches.free_iff .driver).mpr ?_
        rw [busy, hdriver]
        rfl
      unfold onPacket
      cases item with
      | none => rfl
      | some item =>
          cases item with
          | error e => rfl
          | ok packet =>
              dsimp only [sinkStep]
              cases hview : C.variablePacket packet with
              | pingreq => exact start_eq hfree
              | _ => rfl
  | lost _ _ => rfl
  | forwarded _ _ => rfl
  | received => rfl
  | dropped => rfl

theorem pc_of_busy (h : s.busy .connection = true) : s.pc = .connecting ∨ s.pc = .publishing := by
  rw [busy] at h
  cases hpc : s.pc <;> rw [hpc] at h <;> first | exact .inl rfl | exact .inr rfl | cases h

/-- The task that is done with its packet is not busy any more, and the others are as busy as they were. -/
theorem busy_sent {i : Task} (hbusy : s.busy i = true) (ok : Bool) (j : Task) :
    (s.sent ok i).busy j = if j = i then false else s.busy j := by
  unfold Connection.sent
  cases i with
  | connection =>
      rcases pc_of_busy hbusy with hpc | hpc <;> simp only [hpc] <;> cases j <;> cases ok <;> rfl
  | driver => cases j <;> rfl
  | ping => cases j <;> rfl

/-- A task that is busy is there, and goes on. -/
theorem Matches.absent_sent (h : s.Matches) {i : Task} (hbusy : s.busy i = true) (ok : Bool)
    (haccepted : (s.sent ok i).pc.accepted = false) :
    (s.sent ok i).driver = .absent ∧ (s.sent ok i).ping = .absent := by
  unfold Connection.sent at *
  cases i with
  | connection =>
      rcases pc_of_busy hbusy with hpc | hpc
      · simp only [hpc]
        exact h.absent (by rw [hpc]; rfl)
      · simp only [hpc] at haccepted
        cases haccepted
  | driver =>
      obtain ⟨hdriver, -⟩ := h.absent haccepted
      rw [busy, hdriver] at hbusy
      cases hbusy
  | ping =>
      obtain ⟨-, hping⟩ := h.absent haccepted
      rw [busy, hping] at hbusy
      cases hbusy

/-- A task begins to send a packet. -/
theorem free_iff_sendPacket (h : s.Matches) (i : Task) (p : P) (j : Task) :
    (s.sendPacket i p).sink.sends j = none ↔ (if j = i then true else s.busy j) = false := by
  have hsends : (s.sendPacket i p).sink.sends j = if j = i then some (.waiting p) else s.sink.sends j :=
    SharedSink.sends_setSend s.sink i j _
  rw [hsends]
  by_cases hj : j = i
  · rw [if_pos hj, if_pos hj]
    simp
  · rw [if_neg hj, if_neg hj]
    exact h.free_iff j

/-- A connection that differs from one that matches in what nobody is busy with. -/
theorem Matches.congr (h : s.Matches) (hsink : s'.sink = s.sink) (hbusy : ∀ i, s'.busy i = s.busy i)
    (habsent : s'.pc.accepted = false → s'.driver = .absent ∧ s'.ping = .absent) : s'.Matches := by
  refine ⟨fun i => ?_, habsent⟩
  rw [hsink, hbusy]
  exact h.free_iff i

/-- `driver_task` is only there when the connection was accepted. -/
theorem Matches.accepted_of_driver (h : s.Matches) (hdriver : s.driver ≠ .absent) : s.pc.accepted = true := by
  by_contra haccepted
  exact hdriver (h.absent (Bool.not_eq_true _ ▸ haccepted)).1

/-- And so is `ping_task`. -/
theorem Matches.accepted_of_ping (h : s.Matches) (hping : s.ping ≠ .absent) : s.pc.accepted = true := by
  by_contra haccepted
  exact hping (h.absent (Bool.not_eq_true _ ▸ haccepted)).2

/-- The answer to the first packet keeps it. -/
theorem Matches.connack (h : s.Matches) (hpc : s.pc = .awaitingConnack) (item : Option (Except E P)) :
    (s.onConnack C keepAlive item).Matches := by
  obtain ⟨hdriver, hping⟩ := h.absent (by rw [hpc]; rfl)
  refine h.congr ?_ (fun j => ?_) ?_ <;> unfold onConnack
  · split
    · rfl
    · split <;> rfl
    · rfl
  · split
    · cases j <;> simp [busy, hpc, ConnectionPc.sending]
    · split
      · cases j <;> simp [busy, hpc, hdriver, hping, ConnectionPc.sending]
        split <;> simp
      · cases j <;> simp [busy, hpc, ConnectionPc.sending]
      · cases j <;> simp [busy, hpc, ConnectionPc.sending]
    · cases j <;> simp [busy, hpc, ConnectionPc.sending]
  · split
    · exact fun _ => ⟨hdriver, hping⟩
    · split
      · exact fun haccepted => absurd haccepted Bool.noConfusion
      · exact fun _ => ⟨hdriver, hping⟩
      · exact fun _ => ⟨hdriver, hping⟩
    · exact fun _ => ⟨hdriver, hping⟩

/-- So does a packet that `driver_task` gets. -/
theorem Matches.packet (h : s.Matches) (hdriver : s.driver = .reading) (item : Option (Except E P)) :
    (s.onPacket C item).Matches := by
  have haccepted := h.accepted_of_driver (by rw [hdriver]; exact DriverPc.noConfusion)
  unfold onPacket
  split
  · refine h.congr rfl (fun j => ?_) fun hnot => absurd (haccepted.symm.trans hnot) Bool.noConfusion
    cases j <;> simp [busy, hdriver]
  · split
    · refine ⟨fun j => ?_, fun hnot => absurd (haccepted.symm.trans hnot) Bool.noConfusion⟩
      refine (free_iff_sendPacket h .driver _ j).trans ?_
      cases j <;> rfl
    · refine h.congr rfl (fun j => ?_) fun hnot => absurd (haccepted.symm.trans hnot) Bool.noConfusion
      cases j <;> simp [busy, hdriver]
    · exact h
  · exact h

/-- Every step keeps it. -/
theorem Matches.step (h : s.Matches) (hstep : s.step C boundary keepAlive a = some s') : s'.Matches := by
  cases effect_of_step hstep with
  | @sent a sink i ok hsink hends =>
      obtain ⟨hsends, hsink⟩ := SharedSink.sends_of_ends hsink hends
      have hbusy : s.busy i = true := by
        rwa [Ne, h.free_iff, Bool.not_eq_false] at hsends
      refine ⟨fun j => ?_, h.absent_sent hbusy ok⟩
      have hsame : ({ s.sent ok i with sink } : Connection P).busy j = (s.sent ok i).busy j := by
        cases j <;> rfl
      rw [hsame, busy_sent hbusy, hsink, Function.update_apply]
      split
      · exact iff_of_true rfl rfl
      · exact h.free_iff j
  | sending hsink hends hstart =>
      refine ⟨fun j => ?_, h.absent⟩
      rw [SharedSink.sends_eq_none_iff hsink hends hstart]
      exact (h.free_iff j).trans (by cases j <;> rfl)
  | connack hpc => exact h.connack hpc _
  | publish hpc =>
      refine ⟨fun j => ?_, fun haccepted => absurd haccepted Bool.noConfusion⟩
      refine (free_iff_sendPacket h .connection _ j).trans ?_
      cases j <;> rfl
  | tick hping =>
      refine ⟨fun j => ?_, fun haccepted => ?_⟩
      · refine (free_iff_sendPacket h .ping _ j).trans ?_
        cases j <;> rfl
      · have habsent := (h.absent haccepted).2
        rw [hping] at habsent
        cases habsent
  | packet hdriver => exact h.packet hdriver _
  | lost hdriver _ | forwarded hdriver _ =>
      have haccepted := h.accepted_of_driver (by rw [hdriver]; exact DriverPc.noConfusion)
      refine h.congr rfl (fun j => ?_) fun hnot => absurd (haccepted.symm.trans hnot) Bool.noConfusion
      cases j <;> simp [busy, hdriver]
  | received => exact h.congr rfl (fun j => by cases j <;> rfl) h.absent
  | dropped => exact h.congr rfl (fun j => by cases j <;> rfl) h.absent

end Connection

end BleWsCentral.Mqtt
