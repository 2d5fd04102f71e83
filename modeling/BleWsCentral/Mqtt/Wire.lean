import BleWsCentral.Mqtt.Connection

/-!
# What goes over the wire

What a server gets from a connection, and what the connection makes of what the server sends, in every order in
which the tasks take turns and wherever writing fails.

* `asked` — the packets that a task set out to send in a run.
* `Opened` — nothing is sent before the server has accepted the connection, except the `ConnectPacket`.
* `wire_whole` — what is written are whole packets, of every task in the order in which it sent them.
* `driver_goes_on_iff` — `driver_task` goes on, unless nobody takes what it hands on.
-/

set_option linter.unusedSectionVars false

namespace BleWsCentral.Mqtt

open BleWsCentral.Found

namespace Connection

variable {P E : Type} {C : Packets P} {boundary : ℕ} {keepAlive : UInt16} {first : P}
  {s s' : Connection P} {a : ConnectionStep P E} {l : List (ConnectionStep P E)}

/-! ## What the tasks send -/

/-- The packet that `publish` makes. -/
def published (C : Packets P) : ConnectionStep P E → Option P
  | .publish topicName msg => some (C.publishPacket topicName msg)
  | _ => none

/-- The answer of `driver_task` to a ping. -/
def answered (C : Packets P) : ConnectionStep P E → Option P
  | .packet (some (.ok packet)) =>
      if C.variablePacket packet = .pingreq then some C.pingrespPacket else none
  | _ => none

/-- The ping that `ping_task` sends when its interval ticks. -/
def ticked (C : Packets P) : ConnectionStep P E → Option P
  | .tick => some C.pingreqPacket
  | _ => none

/-- The packets that a task set out to send in a run that began with `first`. -/
def asked (C : Packets P) (first : P) (l : List (ConnectionStep P E)) : Task → List P
  | .connection => first :: l.filterMap (published C)
  | .driver => l.filterMap (answered C)
  | .ping => l.filterMap (ticked C)

/-- The steps of the sink in such a run. -/
def sinkSteps (C : Packets P) (first : P) (l : List (ConnectionStep P E)) : List (SinkStep Task P) :=
  .start .connection first :: l.filterMap (sinkStep C)

/-- A packet is rejected only in `send_packet`. -/
theorem eq_of_sinkStep_reject {i : Task} (h : sinkStep C a = some (.reject i)) : a = .sink (.reject i) := by
  cases a with
  | sink b => exact congrArg ConnectionStep.sink (Option.some.inj h)
  | packet item =>
      cases item with
      | none => cases h
      | some item =>
          cases item with
          | error e => cases h
          | ok packet =>
              simp only [sinkStep] at h
              split at h <;> cases h
  | _ => cases h

/-- What a task set out to send is what it began to send. -/
theorem begun_sinkSteps (hl : ∀ i p, ConnectionStep.sink (.start i p) ∉ l) (i : Task) :
    SharedSink.begun i (sinkSteps C first l) = asked C first l i := by
  have hbegins : ∀ a ∈ l, (sinkStep C a).bind (SharedSink.begins i) =
      match i with
      | .connection => published C a
      | .driver => answered C a
      | .ping => ticked C a := by
    intro a ha
    cases a with
    | sink b =>
        cases b with
        | start j p => exact absurd ha (hl j p)
        | _ => cases i <;> rfl
    | packet item =>
        cases item with
        | none => cases i <;> rfl
        | some item =>
            cases item with
            | error e => cases i <;> rfl
            | ok packet => cases i <;> simp only [sinkStep, answered, published, ticked] <;> split <;> rfl
    | _ => cases i <;> rfl
  have hbegun : (l.filterMap (sinkStep C)).filterMap (SharedSink.begins i) =
      l.filterMap fun a => (sinkStep C a).bind (SharedSink.begins i) := List.filterMap_filterMap
  rw [SharedSink.begun, sinkSteps, List.filterMap_cons, hbegun, List.filterMap_congr hbegins]
  cases i <;> rfl

/-- What the connection did so far was a run of its sink. -/
structure SinkRun (C : Packets P) (boundary : ℕ) (first : P) (l : List (ConnectionStep P E))
    (s : Connection P) : Prop where
  run : Run (Partial (SharedSink.step C.encode boundary)) SharedSink.init (sinkSteps C first l) s.sink
  tasks : s.Matches
  starts : ∀ i p, ConnectionStep.sink (.start i p) ∉ l

theorem SinkRun.opening (first : P) :
    SinkRun C boundary first ([] : List (ConnectionStep P E)) (opening first) where
  run := .single rfl
  tasks := .opening first
  starts := by simp

theorem SinkRun.step (h : SinkRun C boundary first l s) (hstep : s.step C boundary keepAlive a = some s') :
    SinkRun C boundary first (l ++ [a]) s' where
  run := by
    have hsink := sink_of_step h.tasks hstep
    rw [sinkSteps, List.filterMap_append, ← List.cons_append, List.filterMap_cons, List.filterMap_nil]
    cases hb : sinkStep C a with
    | none =>
        simp only [hb] at hsink ⊢
        rw [List.append_nil, hsink]
        exact h.run
    | some b =>
        simp only [hb] at hsink ⊢
        exact .snoc h.run hsink
  tasks := h.tasks.step hstep
  starts i p hmem := by
    rcases List.mem_append.mp hmem with hmem | hmem
    · exact h.starts i p hmem
    · rw [← List.mem_singleton.mp hmem] at hstep
      cases hstep

theorem SinkRun.sound (h : SinkRun C boundary first l s) : s.sink.Sound C.encode := .run h.run

/-! ## How the connection is opened -/

/-- What the sink has encoded and written, by how far the connection is. -/
def Opened (C : Packets P) (first : P) (s : Connection P) : Prop :=
  match s.pc with
  | .connecting => s.sink.encoded ++ (s.sink.pending .connection).map (Task.connection, ·) =
      [(.connection, first)]
  | .awaitingConnack => s.sink.encoded = [(.connection, first)] ∧ s.sink.buffer = []
  | .connected => [(.connection, first)] <+: s.sink.encoded ∧ C.encode first <+: s.sink.wire
  | .publishing => [(.connection, first)] <+: s.sink.encoded ∧ C.encode first <+: s.sink.wire
  | .failed _ => s.sink.encoded <+: [(.connection, first)]
  | .panicked => s.sink.encoded <+: [(.connection, first)]

theorem opened_of_accepted (h : s.pc.accepted = true) :
    s.Opened C first ↔ [(.connection, first)] <+: s.sink.encoded ∧ C.encode first <+: s.sink.wire := by
  unfold Opened
  cases hpc : s.pc <;> rw [hpc] at h <;> first | rfl | cases h

/-- Before that, only the first packet can have been encoded. -/
theorem Opened.prefix_of_not_accepted (h : s.Opened C first) (hpc : s.pc.accepted = false) :
    s.sink.encoded <+: [(.connection, first)] := by
  unfold Opened at h
  split at h
  · exact ⟨_, h⟩
  · rw [h.1]
  · rename_i heq
    rw [heq] at hpc
    cases hpc
  · rename_i heq
    rw [heq] at hpc
    cases hpc
  · exact h
  · exact h

/-- Only the connection itself sends before that. -/
theorem Matches.eq_connection (h : s.Matches) (hpc : s.pc.accepted = false) {i : Task}
    (hbusy : s.busy i = true) : i = .connection ∧ s.pc = .connecting := by
  obtain ⟨hdriver, hping⟩ := h.absent hpc
  cases i with
  | connection =>
      refine ⟨rfl, ?_⟩
      rcases pc_of_busy hbusy with hconnecting | hpublishing
      · exact hconnecting
      · rw [hpublishing] at hpc
        cases hpc
  | driver =>
      rw [busy, hdriver] at hbusy
      cases hbusy
  | ping =>
      rw [busy, hping] at hbusy
      cases hbusy

/-- A task that is done before that is the connection, with its first packet. -/
theorem Opened.sent_first (h : s.Opened C first) (hpc : s.pc = .connecting) {b : SinkStep Task P}
    {sink : SharedSink Task P UInt8} {ok : Bool} (hsink : s.sink.step C.encode boundary b = some sink)
    (hends : b.ends = some (.connection, ok)) : ({ s.sent ok .connection with sink } : Connection P).Opened C first := by
  unfold Opened at h
  rw [hpc] at h
  cases SharedSink.effect_of_step hsink with
  | finish hsend hempty =>
      cases hends
      rw [SharedSink.pending_of_sends hsend] at h
      simp only [Opened, Connection.sent, hpc]
      have hencoded : (s.sink.leave .connection).encoded = s.sink.encoded := rfl
      exact ⟨hencoded.trans (by simpa [Sending.pending] using h), hempty⟩
  | reject hsend | fail hsend =>
      cases hends
      simp only [Opened, Connection.sent, hpc]
      exact ⟨_, h⟩
  | _ => cases hends

/-- A task that gets further before that is the connection, with its first packet. -/
theorem Opened.sending_first (h : s.Opened C first) (hpc : s.pc = .connecting) {b : SinkStep Task P}
    {sink : SharedSink Task P UInt8} (hsink : s.sink.step C.encode boundary b = some sink)
    (hends : b.ends = none) (hstart : ∀ i p, b ≠ .start i p) (hparty : b.party = .connection) :
    ({ s with sink } : Connection P).Opened C first := by
  have hnot : SharedSink.rejects b.party b = false := by
    cases b with
    | reject => cases hends
    | _ => rfl
  have hkept := SharedSink.encoded_append_pending hsink hstart hnot
  unfold Opened at h ⊢
  rw [hpc] at h
  simp only [hpc]
  rw [hparty] at hkept
  rw [hkept]
  exact h

/-- The first packet is on the wire when the answer to it comes. -/
theorem Opened.connack (h : s.Opened C first) (hsound : s.sink.Sound C.encode) (hpc : s.pc = .awaitingConnack)
    (item : Option (Except E P)) : (s.onConnack C keepAlive item).Opened C first := by
  unfold Opened at h
  rw [hpc] at h
  obtain ⟨hencoded, hbuffer⟩ := h
  have hwire : s.sink.wire = C.encode first := by
    have hwhole := hsound.whole
    rw [hbuffer, List.append_nil, SharedSink.items, hencoded] at hwhole
    simpa using hwhole
  have hfailed : s.sink.encoded <+: [(.connection, first)] := by
    rw [hencoded]
  have hfirst : [(.connection, first)] <+: s.sink.encoded := by
    rw [hencoded]
  have hwritten : C.encode first <+: s.sink.wire := by
    rw [hwire]
  unfold onConnack
  split
  · exact hfailed
  · split
    · exact ⟨hfirst, hwritten⟩
    · exact hfailed
    · exact hfailed
  · exact hfailed

/-- Every step keeps it. -/
theorem Opened.step (h : s.Opened C first) (hmatches : s.Matches) (hsound : s.sink.Sound C.encode)
    (hstep : s.step C boundary keepAlive a = some s') : s'.Opened C first := by
  have hkeep : s.pc.accepted = true → s'.pc.accepted = true → s.sink.encoded <+: s'.sink.encoded →
      s.sink.wire <+: s'.sink.wire → s'.Opened C first := by
    intro haccepted haccepted' hencoded hwire
    obtain ⟨hfirst, hwritten⟩ := (opened_of_accepted haccepted).mp h
    exact (opened_of_accepted haccepted').mpr ⟨hfirst.trans hencoded, hwritten.trans hwire⟩
  have hbusy : ∀ i, s.sink.sends i ≠ none → s.busy i = true := by
    intro i hsends
    rwa [Ne, hmatches.free_iff, Bool.not_eq_false] at hsends
  cases effect_of_step hstep with
  | @sent b sink i ok hsink hends =>
      have hbusy := hbusy i (SharedSink.sends_of_ends hsink hends).1
      cases haccepted : s.pc.accepted with
      | true =>
          obtain ⟨hencoded, hwire⟩ := SharedSink.encoded_of_step hsink
          refine hkeep haccepted ?_ hencoded hwire
          cases i with
          | connection =>
              rcases pc_of_busy hbusy with hpc | hpc
              · rw [hpc] at haccepted
                cases haccepted
              · simp only [Connection.sent, hpc]
                rfl
          | driver => exact haccepted
          | ping => exact haccepted
      | false =>
          obtain ⟨rfl, hpc⟩ := hmatches.eq_connection haccepted hbusy
          exact h.sent_first hpc hsink hends
  | @sending b sink hsink hends hstart =>
      have hbusy := hbusy _ (SharedSink.sends_party hsink hstart)
      cases haccepted : s.pc.accepted with
      | true =>
          obtain ⟨hencoded, hwire⟩ := SharedSink.encoded_of_step hsink
          exact hkeep haccepted haccepted hencoded hwire
      | false =>
          obtain ⟨hparty, hpc⟩ := hmatches.eq_connection haccepted hbusy
          exact h.sending_first hpc hsink hends hstart hparty
  | connack hpc => exact h.connack hsound hpc _
  | publish hpc =>
      exact hkeep (by rw [hpc]; rfl) rfl List.prefix_rfl List.prefix_rfl
  | tick hping =>
      have haccepted := hmatches.accepted_of_ping (by rw [hping]; exact PingPc.noConfusion)
      exact hkeep haccepted haccepted List.prefix_rfl List.prefix_rfl
  | packet hdriver =>
      have haccepted := hmatches.accepted_of_driver (by rw [hdriver]; exact DriverPc.noConfusion)
      unfold onPacket at hkeep ⊢
      split
      · exact h
      · split
        · exact (opened_of_accepted haccepted).mpr ((opened_of_accepted haccepted).mp h)
        · exact h
        · exact h
      · exact h
  | lost _ _ | forwarded _ _ | received | dropped => exact h

/-- The server said that it accepts the connection. -/
def Acknowledged (C : Packets P) (l : List (ConnectionStep P E)) : Prop :=
  ∃ packet, ConnectionStep.connack (some (.ok packet)) ∈ l ∧
    C.variablePacket packet = .connack .connectionAccepted

/-- The connection is open only after the server said so. -/
theorem accepted_of_step (hstep : s.step C boundary keepAlive a = some s') (h : s'.pc.accepted = true) :
    s.pc.accepted = true ∨ Acknowledged C [a] := by
  cases effect_of_step hstep with
  | @sent b sink i ok hsink hends =>
      left
      cases i with
      | connection =>
          simp only [Connection.sent] at h
          split at h
          · cases ok <;> cases h
          · rename_i hpc
            rw [hpc]
            rfl
          · exact h
      | driver => exact h
      | ping => exact h
  | connack hpc =>
      unfold onConnack at h
      split at h
      · cases h
      · split at h
        · rename_i packet _ hview
          exact .inr ⟨packet, List.mem_singleton_self _, hview⟩
        · cases h
        · cases h
      · cases h
  | publish hpc =>
      left
      rw [hpc]
      rfl
  | packet hdriver =>
      left
      unfold onPacket at h
      split at h
      · exact h
      · split at h <;> exact h
      · exact h
  | _ => exact .inl h

/-! ## The wire -/

/-- What holds after a run that began with the packet `first`. -/
structure WireInv (C : Packets P) (boundary : ℕ) (first : P) (l : List (ConnectionStep P E))
    (s : Connection P) : Prop where
  sink : SinkRun C boundary first l s
  opened : s.Opened C first
  acknowledged : s.pc.accepted = true → Acknowledged C l

theorem WireInv.run (h : Run (Partial (step C boundary keepAlive)) (opening first) l s) :
    WireInv C boundary first l s := by
  have hstep : ∀ (l : List (ConnectionStep P E)) s a s', WireInv C boundary first l s →
      Partial (step C boundary keepAlive) s a s' → WireInv C boundary first (l ++ [a]) s' := by
    rintro l s a s' ⟨hsink, hopened, hacknowledged⟩ hstep
    refine ⟨hsink.step hstep, hopened.step hsink.tasks hsink.sound hstep, fun haccepted => ?_⟩
    rcases accepted_of_step hstep haccepted with hbefore | ⟨packet, hmem, hview⟩
    · obtain ⟨packet, hmem, hview⟩ := hacknowledged hbefore
      exact ⟨packet, List.mem_append_left _ hmem, hview⟩
    · exact ⟨packet, List.mem_append_right _ hmem, hview⟩
  refine h.history hstep ⟨.opening first, ?_, fun haccepted => absurd haccepted Bool.noConfusion⟩
  rfl

/-- **What goes over the wire.** In every run of a connection, in every order in which the tasks take turns, with
any parts in which packets are written out, and wherever writing fails: what was written, with what is in the
buffer, are the bytes of whole packets, one after the other. The first of them is the `ConnectPacket`, and
there is another one only after the server accepted the connection, when that packet was written out. The
packets of each task are among those it set out to send, in this order: pongs for the pings of the server, one
ping of its own a tick, and what was published. None is missing, apart from the one that is still to be
encoded, unless writing failed before a packet of this task had room in the buffer. -/
theorem wire_whole {clientId : String} {userName password : Option String}
    (h : Run (Partial (step C boundary keepAlive)) (connect C clientId userName password keepAlive) l s) :
    let first := C.connectPacket clientId userName password true keepAlive
    s.sink.wire ++ s.sink.buffer = s.sink.items.flatMap C.encode ∧
      (s.sink.items <+: [first] ∨
        Acknowledged C l ∧ [first] <+: s.sink.items ∧ C.encode first <+: s.sink.wire) ∧
      ∀ i, (s.sink.itemsOf i ++ s.sink.pending i).Sublist (asked C first l i) ∧
        (ConnectionStep.sink (.reject i) ∉ l →
          s.sink.itemsOf i ++ s.sink.pending i = asked C first l i) := by
  intro first
  obtain ⟨hsink, hopened, hacknowledged⟩ := WireInv.run h
  refine ⟨hsink.sound.whole, ?_, fun i => ?_⟩
  · cases haccepted : s.pc.accepted with
    | true =>
        obtain ⟨hfirst, hwire⟩ := (opened_of_accepted haccepted).mp hopened
        exact .inr ⟨hacknowledged haccepted, hfirst.map Prod.snd, hwire⟩
    | false => exact .inl ((hopened.prefix_of_not_accepted haccepted).map Prod.snd)
  · have hsent : SharedSink.Sent (sinkSteps C first l) s.sink i := .run hsink.run i
    rw [← begun_sinkSteps hsink.starts]
    refine ⟨hsent.sublist, fun hnot => hsent.all fun b hb => ?_⟩
    by_contra hrejects
    rw [Bool.not_eq_false] at hrejects
    have hb' : b = .reject i := by
      cases b with
      | reject j => rw [of_decide_eq_true hrejects]
      | _ => cases hrejects
    subst hb'
    rcases List.mem_cons.mp hb with hfirst | hmem
    · cases hfirst
    · obtain ⟨a, ha, hb⟩ := List.mem_filterMap.mp hmem
      rw [eq_of_sinkStep_reject hb] at ha
      exact hnot ha

/-! ## The driver -/

/-- `driver_task` has a message for a stream that nobody takes the last one from. -/
def Blocked (s : Connection P) : Prop :=
  ∃ msg msg', s.driver = .forwarding msg ∧ s.pub = ⟨some msg', false⟩

/-- A step that the connection takes by itself, as long as what is written is taken: no packet comes in, nothing
is published, no interval ticks, nobody takes anything from the stream, and no writing fails. -/
def ownStep : ConnectionStep P E → Bool
  | .sink b => SharedSink.advances b
  | .forward => true
  | _ => false

/-- The connection does not get out of this by itself. -/
theorem Blocked.step (h : s.Blocked) (hmatches : s.Matches) (hown : ownStep a = true)
    (hstep : s.step C boundary keepAlive a = some s') : s'.Blocked := by
  obtain ⟨msg, msg', hdriver, hpub⟩ := h
  have hnotBusy : s.busy .driver = false := by
    rw [busy, hdriver]
    rfl
  cases effect_of_step hstep with
  | @sent b sink i ok hsink hends =>
      have hbusy : s.busy i = true := by
        have hsends := (SharedSink.sends_of_ends hsink hends).1
        rwa [Ne, hmatches.free_iff, Bool.not_eq_false] at hsends
      refine ⟨msg, msg', ?_, ?_⟩
      · cases i with
        | connection =>
            simp only [Connection.sent]
            split <;> exact hdriver
        | driver =>
            rw [hnotBusy] at hbusy
            cases hbusy
        | ping => exact hdriver
      · cases i with
        | connection =>
            simp only [Connection.sent]
            split <;> exact hpub
        | driver => exact hpub
        | ping => exact hpub
  | sending _ _ _ => exact ⟨msg, msg', hdriver, hpub⟩
  | lost _ hdropped =>
      rw [hpub] at hdropped
      cases hdropped
  | forwarded _ hfree =>
      rw [hpub] at hfree
      cases hfree
  | _ => cases hown

theorem step_sink {b : SinkStep Task P} {sink : SharedSink Task P UInt8}
    (hb : SharedSink.advances b = true) (h : s.sink.step C.encode boundary b = some sink) :
    s.step C boundary keepAlive (ConnectionStep.sink (E := E) b) = some (s.proceed b sink) := by
  cases b with
  | start => cases hb
  | _ => exact congrArg (Option.map _) h

theorem proceed_sink (b : SinkStep Task P) (sink : SharedSink Task P UInt8) :
    (s.proceed b sink).sink = sink := by
  unfold proceed
  split <;> rfl

/-- `driver_task` only ever reads on. -/
theorem proceed_driver (b : SinkStep Task P) (sink : SharedSink Task P UInt8) :
    (s.proceed b sink).driver = s.driver ∨ (s.proceed b sink).driver = .reading := by
  unfold proceed
  split
  · rename_i i ok _
    cases i with
    | connection =>
        left
        simp only [Connection.sent]
        split <;> rfl
    | driver => exact .inr rfl
    | ping => exact .inl rfl
  · exact .inl rfl

/-- What the sink can do, the connection can do. -/
theorem exists_run_of_sink {bs : List (SinkStep Task P)} {sink : SharedSink Task P UInt8}
    (hl : ∀ b ∈ bs, SharedSink.advances b = true)
    (h : Run (Partial (SharedSink.step C.encode boundary)) s.sink bs sink) :
    ∃ s', Run (Partial (step C boundary keepAlive)) s (bs.map (ConnectionStep.sink (E := E))) s' ∧
      s'.sink = sink ∧ (s'.driver = s.driver ∨ s'.driver = .reading) := by
  induction h with
  | nil => exact ⟨s, .nil s, rfl, .inl rfl⟩
  | @snoc t u bs b _ hstep ih =>
      obtain ⟨s', hrun, rfl, hdriver⟩ := ih fun b hb => hl b (List.mem_append_left _ hb)
      have hb := hl b (List.mem_append_right _ (List.mem_singleton_self b))
      rw [List.map_append]
      refine ⟨s'.proceed b u, .snoc hrun (step_sink hb hstep), proceed_sink b u, ?_⟩
      rcases proceed_driver (s := s') b u with hsame | hreading
      · rw [hsame]
        exact hdriver
      · exact .inr hreading

/-- **The driver goes on.** In every state that a run reaches, while `driver_task` runs: without any failure, and
without anything that comes in, it can get to the point where it takes the next packet of the server, if and
only if it is not stuck with a message for a stream that is still held, but from which nobody takes the message
before. While it is stuck, no ping of the server is answered. -/
theorem driver_goes_on_iff {clientId : String} {userName password : Option String}
    (h : Run (Partial (step C boundary keepAlive)) (connect C clientId userName password keepAlive) l s)
    (hpos : 0 < boundary) (hthere : s.driver ≠ .absent) (hruns : s.driver ≠ .stopped) :
    (∃ (l' : List (ConnectionStep P E)) (s' : Connection P), (∀ a ∈ l', ownStep a = true) ∧
      Run (Partial (step C boundary keepAlive)) s l' s' ∧ s'.driver = .reading) ↔ ¬ s.Blocked := by
  obtain ⟨hsink, -, -⟩ := WireInv.run h
  constructor
  · rintro ⟨l', s', hown, hrun, hreading⟩ hblocked
    have hguarded := hrun.guarded_of_forall (G := fun _ a => ownStep a = true) fun a ha _ => hown a ha
    obtain ⟨-, msg, msg', hdriver, -⟩ := hguarded.invariant
      (I := fun s => s.Matches ∧ s.Blocked)
      (fun s a t ⟨hmatches, hblocked⟩ ⟨hown, hstep⟩ =>
        ⟨hmatches.step hstep, hblocked.step hmatches hown hstep⟩) ⟨hsink.tasks, hblocked⟩
    rw [hreading] at hdriver
    cases hdriver
  · intro hfree
    cases hdriver : s.driver with
    | absent => exact absurd hdriver hthere
    | stopped => exact absurd hdriver hruns
    | reading => exact ⟨[], s, by simp, .nil s, hdriver⟩
    | answering =>
        obtain ⟨bs, sink, hadvances, hrun, hdone⟩ := SharedSink.exists_finish hsink.sound hpos .driver
        obtain ⟨s', hrun', hsame, hdriver'⟩ := exists_run_of_sink hadvances hrun
        refine ⟨_, s', fun a ha => ?_, hrun', ?_⟩
        · obtain ⟨b, hb, rfl⟩ := List.mem_map.mp ha
          exact hadvances b hb
        · rcases hdriver' with hstill | hreading
          · -- the packet is sent, so the driver is done with it
            have hmatches' : s'.Matches :=
              hrun'.invariant (fun _ _ _ hmatches hstep => hmatches.step hstep) hsink.tasks
            rw [← hsame, hmatches'.free_iff, busy, hstill, hdriver] at hdone
            cases hdone
          · exact hreading
    | forwarding msg =>
        have hstep : ∃ s', s.step C boundary keepAlive (ConnectionStep.forward (P := P) (E := E)) = some s' ∧
            s'.driver = .reading := by
          simp only [step, hdriver]
          split
          · exact ⟨_, rfl, rfl⟩
          · rename_i hheld
            cases hbuffered : s.pub.buffered with
            | none => exact ⟨_, rfl, rfl⟩
            | some msg' =>
                refine absurd ⟨msg, msg', hdriver, ?_⟩ hfree
                obtain ⟨sink, pc, driver, ping, ⟨buffered, dropped⟩⟩ := s
                simp only at hbuffered hheld ⊢
                simp [hbuffered, hheld]
        obtain ⟨s', hstep, hreading⟩ := hstep
        exact ⟨[.forward], s', by simp [ownStep], .single hstep, hreading⟩

end Connection

/-! ## Packets as they are written -/

/-- The packets of a connection, by what is in them. -/
inductive Packet
  | connect (clientId : String) (userName password : Option String) (cleanSession : Bool) (keepAlive : UInt16)
  | connack (code : ConnectReturnCode)
  | publish (topicName : String) (payload : List UInt8)
  | pingreq
  | pingresp
deriving DecidableEq

namespace Packet

/-- A number of two bytes, and a text behind the number of its bytes. -/
def twoBytes (n : ℕ) : List UInt8 := [UInt8.ofNat (n / 256), UInt8.ofNat n]

def text (s : String) : List UInt8 := twoBytes s.toUTF8.data.toList.length ++ s.toUTF8.data.toList

/-- The flags of a `ConnectPacket`. -/
def connectFlags (userName password : Option String) (cleanSession : Bool) : UInt8 :=
  (if userName.isSome then 0x80 else 0) ||| (if password.isSome then 0x40 else 0) |||
    if cleanSession then 0x02 else 0

/-- The first byte, and what is behind the remaining length. -/
def parts : Packet → UInt8 × List UInt8
  | .connect clientId userName password cleanSession keepAlive =>
      (0x10, text "MQTT" ++ [4, connectFlags userName password cleanSession] ++ twoBytes keepAlive.toNat ++
        text clientId ++ (userName.map text).getD [] ++ (password.map text).getD [])
  | .connack .connectionAccepted => (0x20, [0, 0])
  | .connack (.refused code) => (0x20, [0, code])
  | .publish topicName payload => (0x30, text topicName ++ payload)
  | .pingreq => (0xc0, [])
  | .pingresp => (0xd0, [])

def encode (packet : Packet) : List UInt8 :=
  packet.parts.1 :: (Varint.encode 3 packet.parts.2.length ++ packet.parts.2)

end Packet

/-- The packets of MQTT 3.1.1. -/
def mqttPackets : Packets Packet where
  encode := Packet.encode
  connectPacket := .connect
  publishPacket := .publish
  pingreqPacket := .pingreq
  pingrespPacket := .pingresp
  variablePacket
    | .connect .. => .other
    | .connack code => .connack code
    | .publish topicName payload => .publish topicName payload
    | .pingreq => .pingreq
    | .pingresp => .pingresp

namespace Connection

/-- A task sends its packet, the bytes of which are written out in two parts. -/
def sendSteps (i : Task) (n m : ℕ) : List (ConnectionStep Packet Unit) :=
  [.sink (.acquire i), .sink (.feed i), .sink (.write i n), .sink (.write i m), .sink (.finish i)]

/-- A connection is opened, and a ping of the server is answered while the interval ticks. -/
def openAndPing : List (ConnectionStep Packet Unit) :=
  sendSteps .connection 5 11 ++
    [.connack (some (.ok (.connack .connectionAccepted))), .tick, .packet (some (.ok .pingreq))] ++
    sendSteps .driver 1 1 ++ [.sink (.acquire .ping), .sink (.feed .ping), .sink (.write .ping 1)]

/-- The state after these steps, with an interval of a minute. -/
def reached (l : List (ConnectionStep Packet Unit)) : Connection Packet :=
  (l.foldlM (step mqttPackets 8192 60) (connect mqttPackets "id" none none 60)).getD (opening .pingreq)

/-- The `ConnectPacket` and the pong are written, and the first byte of the ping. -/
theorem wire_whole_ping :
    let s := reached openAndPing
    s.sink.wire =
        [0x10, 14, 0, 4, 77, 81, 84, 84, 4, 2, 0, 60, 0, 2, 105, 100, 0xd0, 0, 0xc0] ∧
      s.sink.wire ++ s.sink.buffer = s.sink.items.flatMap mqttPackets.encode ∧
      Acknowledged mqttPackets openAndPing ∧
      ∀ i, s.sink.itemsOf i ++ s.sink.pending i =
        asked mqttPackets (.connect "id" none none true 60) openAndPing i := by
  intro s
  have hrun : Run (Partial (step mqttPackets 8192 60)) (connect mqttPackets "id" none none 60)
      openAndPing s := run_partial_iff.mpr rfl
  obtain ⟨hwhole, -, hasked⟩ := wire_whole hrun
  refine ⟨by decide +kernel, hwhole, ?_, fun i => (hasked i).2 ?_⟩
  · exact ⟨.connack .connectionAccepted, by decide +kernel, rfl⟩
  · cases i <;> decide +kernel

/-- Two messages come in, and nobody takes the first one. -/
def publishTwice : List (ConnectionStep Packet Unit) :=
  sendSteps .connection 5 11 ++
    [.connack (some (.ok (.connack .connectionAccepted))), .packet (some (.ok (.publish "a" [1]))), .forward,
      .packet (some (.ok (.publish "b" [2])))]

/-- The driver is stuck with the second message, until somebody takes the first one. -/
theorem driver_goes_on_publish :
    let goesOn := fun s : Connection Packet =>
      ∃ (l : List (ConnectionStep Packet Unit)) (s' : Connection Packet), (∀ a ∈ l, ownStep a = true) ∧
        Run (Partial (step mqttPackets 8192 60)) s l s' ∧ s'.driver = .reading
    ¬ goesOn (reached publishTwice) ∧ goesOn (reached (publishTwice ++ [.receive])) := by
  intro goesOn
  have hrun : Run (Partial (step mqttPackets 8192 60)) (connect mqttPackets "id" none none 60)
      publishTwice (reached publishTwice) := run_partial_iff.mpr rfl
  have hrun' : Run (Partial (step mqttPackets 8192 60)) (connect mqttPackets "id" none none 60)
      (publishTwice ++ [.receive]) (reached (publishTwice ++ [.receive])) := run_partial_iff.mpr rfl
  have hstuck := driver_goes_on_iff hrun (by decide) (by decide +kernel) (by decide +kernel)
  have hfree := driver_goes_on_iff hrun' (by decide) (by decide +kernel) (by decide +kernel)
  constructor
  · refine fun hgoes => hstuck.mp hgoes ⟨("b", [2]), ("a", [1]), ?_, ?_⟩ <;> decide +kernel
  · refine hfree.mpr ?_
    rintro ⟨msg, msg', -, hpub⟩
    have hnone : (reached (publishTwice ++ [.receive])).pub = ⟨none, false⟩ := by decide +kernel
    rw [hnone] at hpub
    cases hpub

end Connection

end BleWsCentral.Mqtt
