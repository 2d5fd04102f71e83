import BleWsCentral.Mesh.ServiceInv

/-!
# Circular waits

Two ways in which the tasks of the mesh service can wait for each other, and when they do not.

* `ProvisionDeadlock` — `LoopCtx::run` waits for a status of a new node, which only the D-Bus thread
  can hand in, and the D-Bus thread waits in the provisioner for room in the channel of the events,
  which only `LoopCtx::run` takes out. `provision_deadlock_free`: this needs a call to the
  provisioner that comes in while there is an event in the channel and a node is configured.
-/

set_option linter.unusedSectionVars false

namespace BleWsCentral.Mesh

open BleWsCentral.Found

/-- `LoopCtx::run` is in a `pull_msg` of the branch for `NodeAdded(Ok(node))`. -/
def LoopPc.awaitsStatus : LoopPc → Bool
  | .nodeAdded _ (.pullingAppKey _) => true
  | .nodeAdded _ (.pullingModelApp _) => true
  | _ => false

theorem LoopPc.configuring_of_awaitsStatus {pc : LoopPc} (h : pc.awaitsStatus = true) :
    pc.configuring = true := by
  cases pc with
  | nodeAdded node adding => cases adding <;> first | rfl | cases h
  | _ => cases h

/-- The stream that the queue task waits to send to. -/
def QueuePc.sendsTo : QueuePc → Option ChanId
  | .pullSending _ tx _ _ => some tx
  | .streamSending tx _ => some tx
  | _ => none

namespace Service

variable {K M : Type} [DecidableEq K] [DenseSlotMap K GenericFilter M] {units : Units}
  {s s' : Service K M} {a : Label} {l : List Label}

/-! ## Provisioning and the D-Bus thread -/

/-- The D-Bus thread waits in the provisioner for room in the channel of the events. -/
def DbusBlocked (s : Service K M) : Prop := s.dbus.sendsEvent = true ∧ s.events ≠ none

/-- The D-Bus thread and `LoopCtx::run` wait for each other. -/
def ProvisionDeadlock (s : Service K M) : Prop :=
  s.loopCtx.pc.awaitsStatus = true ∧ s.DbusBlocked

/-- While a node is configured, no event comes in on top of one that was not taken yet. -/
def eventsFit (s : Service K M) : Label → Bool
  | .call call now =>
      !((call.handle now).sendsEvent && s.loopCtx.pc.configuring) || s.events.isNone
  | _ => true

/-- The D-Bus thread is not blocked while a node is configured. -/
def DbusFree (s : Service K M) : Prop := s.loopCtx.pc.configuring = true → ¬ s.DbusBlocked

/-- A step of the D-Bus thread does not block it, but for an event too many. -/
theorem DbusFree.of_dbus (hfit : s.eventsFit a = true) (h : s.step units a = some s')
    (ha : a.party = .dbus) : s'.DbusFree := by
  rintro hc ⟨hevent, hfull⟩
  cases a <;> cases ha
  case call call now =>
    simp only [step, Service.call] at h
    split at h <;> cases h
    refine hfull (Option.isNone_iff_eq_none.mp ?_)
    simpa [eventsFit, show (call.handle now).sendsEvent = true from hevent,
      show s.loopCtx.pc.configuring = true from hc] using hfit
  case dbusSend =>
    -- the send that the thread was in is over
    simp only [step, dbusSend] at h
    split at h
    · split at h
      · cases h
        cases hevent
      · split at h <;> cases h
        cases hevent
    · split at h
      · cases h
        cases hevent
      · split at h <;> cases h
        cases hevent
    · cases h

/-- The D-Bus thread stays free, as long as no event comes in that does not fit. -/
theorem DbusFree.step (hfree : s.DbusFree) (hfit : s.eventsFit a = true) (h : s.step units a = some s') :
    s'.DbusFree := by
  cases ha : a.party with
  | dbus => exact .of_dbus hfit h ha
  | queue =>
      rw [frame_queue h ha]
      exact hfree
  | loop =>
      rintro hc ⟨hevent, hfull⟩
      obtain ⟨-, -, ⟨-, -, hnone⟩ | ⟨hc', hsame⟩⟩ := configuring_of_loop h ha hc
      · exact hfull hnone
      · rw [frame_loop h ha] at hevent
        exact hfree hc' ⟨hevent, hsame ▸ hfull⟩
  | collection =>
      rw [frame_collection h ha]
      exact hfree
  | update =>
      rw [frame_update h ha]
      exact hfree

/-- A configuration gets to a `pull_msg`, if the calls over D-Bus succeed. -/
theorem exists_awaitsStatus (units : Units) (h : s.loopCtx.pc.configuring = true) :
    ∃ l loopCtx, Run (Partial (step units)) s l { s with loopCtx } ∧
      loopCtx.pc.awaitsStatus = true ∧ loopCtx.run = s.loopCtx.run := by
  have hadd : ∀ (s : Service K M) node, s.loopCtx.pc = .nodeAdded node .addingAppKey →
      s.step units .callOk = some (s.pullMsg ConfigAppKeyStatus.opcode (nodeFilter node.unicastAddr)
        fun pull => .nodeAdded node (.pullingAppKey pull)) := by
    intro s node hpc
    rw [step, callOk, hpc]
  cases hpc : s.loopCtx.pc with
  | nodeAdded node adding =>
      cases adding with
      | scanning =>
          have hscan : s.step units .callOk = some (s.setLoopPc (.nodeAdded node .addingAppKey)) := by
            rw [step, callOk, hpc]
          exact ⟨[.callOk, .callOk], _, .cons hscan (.single (hadd _ node rfl)), rfl, rfl⟩
      | addingAppKey =>
          exact ⟨[.callOk], _, .single (hadd s node hpc), rfl, rfl⟩
      | pullingAppKey pull => exact ⟨[], s.loopCtx, .nil s, by rw [hpc]; rfl, rfl⟩
      | binding =>
          have hbind : s.step units .callOk = some (s.pullMsg ConfigModelAppStatus.opcode
              (nodeFilter node.unicastAddr) fun pull => .nodeAdded node (.pullingModelApp pull)) := by
            rw [step, callOk, hpc]
          exact ⟨[.callOk], _, .single hbind, rfl, rfl⟩
      | pullingModelApp pull => exact ⟨[], s.loopCtx, .nil s, by rw [hpc]; rfl, rfl⟩
      | locking =>
          rw [hpc] at h
          cases h
  | _ =>
      rw [hpc] at h
      cases h

/-- An event too many leads to the deadlock. -/
theorem exists_provisionDeadlock (hfit : s.eventsFit a = false) (h : s.step units a = some s') :
    ∃ l t, Run (Partial (step units)) s' l t ∧ t.ProvisionDeadlock := by
  cases a <;> try cases hfit
  case call call now =>
    simp only [eventsFit, Bool.or_eq_false_iff, Bool.not_eq_false', Bool.and_eq_true] at hfit
    obtain ⟨⟨hsends, hconfiguring⟩, hfull⟩ := hfit
    simp only [step, Service.call] at h
    split at h <;> cases h
    obtain ⟨l, loopCtx, hrun, hawaits, -⟩ := exists_awaitsStatus units
      (s := { s with dbus := call.handle now, clock := now }) hconfiguring
    refine ⟨l, _, hrun, hawaits, hsends, fun hnone => ?_⟩
    have hnone : s.events = none := hnone
    rw [hnone] at hfull
    cases hfull

/-- **No deadlock in provisioning.** In a run in which no call to the provisioner comes in while there
is an event in the channel and a node is configured, `LoopCtx::run` and the D-Bus thread never wait for
each other. From the state after any other such call there is a run to where they do. -/
theorem provision_deadlock_free (units : Units) :
    (∀ (l : List Label) (s : Service K M),
      Run (Guarded (Partial (step units)) fun s a => s.eventsFit a = true) init l s →
        ¬ s.ProvisionDeadlock) ∧
    ∀ (s s' : Service K M) (a : Label), s.step units a = some s' → s.eventsFit a = false →
      ∃ l t, Run (Partial (step units)) s' l t ∧ t.ProvisionDeadlock := by
  refine ⟨fun l s h => ?_, fun s s' a h hfit => exists_provisionDeadlock hfit h⟩
  have hfree : s.DbusFree := h.invariant (I := DbusFree)
    (fun _ _ _ hfree hstep => hfree.step hstep.1 hstep.2) fun hc => by cases hc
  rintro ⟨hawaits, hblocked⟩
  exact hfree (LoopPc.configuring_of_awaitsStatus hawaits) hblocked

/-- The theorem for a node that is configured without anything else happening. -/
theorem provision_deadlock_free_one_node :
    ∃ s : Service ℕ (DenseVec GenericFilter),
      Run (Guarded (Partial (step .total)) fun s a => s.eventsFit a = true) init
        (attach ++ provision) s ∧ s.loopCtx.pc.awaitsStatus = true ∧ ¬ s.ProvisionDeadlock := by
  have hrun : ∃ s : Service ℕ (DenseVec GenericFilter),
      Run (Guarded (Partial (step .total)) fun s a => s.eventsFit a = true) init
        (attach ++ provision) s ∧ s.loopCtx.pc.awaitsStatus = true :=
    ⟨_, run_guarded_iff.mpr rfl, rfl⟩
  obtain ⟨s, hrun, hawaits⟩ := hrun
  exact ⟨s, hrun, hawaits, (provision_deadlock_free .total).1 _ s hrun⟩

/-- Two scan results that come in while a node is configured block the D-Bus thread. -/
theorem provision_deadlock :
    ∃ (l : List Label) (s : Service ℕ (DenseVec GenericFilter)),
      Run (Partial (step .total)) init l s ∧ s.ProvisionDeadlock := by
  refine ⟨attach ++ provision ++
    [.call (.scanResult 0 deviceUuid) 0, .dbusSend, .call (.scanResult 0 deviceUuid) 0], _,
    run_partial_iff.mpr rfl, rfl, rfl, ?_⟩
  exact Option.some_ne_none _

/-! ## The queue task, the collection task and `LoopCtx::run` -/

/-- The channel of the sensor values of the current run is full. -/
def full (s : Service K M) : Bool :=
  !s.channels.dropped (streamId s.loopCtx.run) && !s.hasRoom (streamId s.loopCtx.run)

/-- The queue task waits for room in it. -/
def queueWaits (s : Service K M) : Bool :=
  s.queue.pc.sendsTo = some (streamId s.loopCtx.run) && s.full

/-- No window is open, and none will be before the next trigger is sent. -/
def closed (s : Service K M) : Bool :=
  !s.collection.trigger &&
    match s.collection.pc with
    | .awaiting => true
    | .sending _ => s.updateRuns
    | _ => false

/-- `LoopCtx::run` waits for the queue task, the queue task for the collection task, and the
collection task for `LoopCtx::run`. -/
def WaitCycle (s : Service K M) : Prop :=
  s.loopCtx.pc.awaitsStatus = true ∧ s.queueWaits = true ∧
    s.collection.pc = .awaiting ∧ s.collection.trigger = false

/-- The next event is a node that was added. -/
def addsNode (s : Service K M) : Bool :=
  match s.events with
  | some (.nodeAdded (.ok _)) => true
  | _ => false

/-- The next message is one for the stream of the current run. -/
def routesToStream (s : Service K M) : Bool :=
  match s.messages with
  | some msg =>
      match s.queue.state.routeMessage s.channels msg with
      | .ok (.sending tx _) => tx = streamId s.loopCtx.run
      | _ => false
  | none => false

/-- The next message of the backlog is one for the stream of the current run. -/
def pullsForStream (s : Service K M) : Bool :=
  match s.queue.pc with
  | .pulling _ tx (index :: _) =>
      tx = streamId s.loopCtx.run && (s.queue.state.messages[index]?).isSome
  | _ => false

/-- While a node is configured, the queue task does not get stuck: the configuration does not begin
while it waits for room with no window in sight, it takes no message for a channel that is full then,
and no window times out on it. -/
def keepsFlowing (s : Service K M) : Label → Bool
  | .event => !(s.addsNode && s.queueWaits && s.closed)
  | .queueMessage => !(s.loopCtx.pc.configuring && s.closed && s.full && s.routesToStream)
  | .queuePull => !(s.loopCtx.pc.configuring && s.closed && s.full && s.pullsForStream)
  | .timeout g =>
      !(g = s.loopCtx.run && s.loopCtx.pc.configuring && s.queueWaits && !s.collection.trigger &&
        s.updateRuns)
  | _ => true

/-- The queue task waits for room while a node is configured and no window is in sight. -/
structure Stuck (s : Service K M) : Prop where
  configuring : s.loopCtx.pc.configuring = true
  waits : s.queueWaits = true
  closed : s.closed = true

theorem WaitCycle.stuck (h : s.WaitCycle) : s.Stuck := by
  obtain ⟨hawaits, hwaits, hpc, htrigger⟩ := h
  refine ⟨LoopPc.configuring_of_awaitsStatus hawaits, hwaits, ?_⟩
  simp [Service.closed, hpc, htrigger]

/-- Nothing that the queue task waits for room in has room. -/
theorem queueWaits_iff : s.queueWaits = true ↔
    s.queue.pc.sendsTo = some (streamId s.loopCtx.run) ∧
      s.channels.dropped (streamId s.loopCtx.run) = false ∧
      s.taken (streamId s.loopCtx.run) < (s.channels.handed (streamId s.loopCtx.run)).length := by
  simp [queueWaits, full, hasRoom]

/-- The queue task gets stuck by taking a message for the full channel. -/
theorem not_stuck_of_queue (hwf : s.Wf) (hflow : s.keepsFlowing a = true)
    (h : s.step units a = some s') (ha : a.party = .queue) : ¬ s'.Stuck := by
  rintro ⟨hconfiguring, hwaits, hclosed⟩
  have hsends : s'.queue.pc.sendsTo ≠ none := by
    intro hnone
    have htx := (queueWaits_iff.mp hwaits).1
    rw [hnone] at htx
    cases htx
  cases queue_cases hwf h ha with
  | requestPanicked => exact hsends rfl
  | found hpc => exact hsends (congrArg QueuePc.sendsTo hpc)
  | registered hpc => exact hsends (congrArg QueuePc.sendsTo hpc)
  | pulls => exact hsends rfl
  | pulledAll => exact hsends rfl
  | pullPanicked => exact hsends rfl
  | pulled hpc hmsg =>
      obtain ⟨htx, hfull⟩ := Bool.and_eq_true_iff.mp hwaits
      replace htx := of_decide_eq_true htx
      simp only [QueuePc.sendsTo, Option.some.injEq] at htx
      have hconfiguring : s.loopCtx.pc.configuring = true := hconfiguring
      have hclosed : s.closed = true := hclosed
      have hfull : s.full = true := hfull
      simp [keepsFlowing, hconfiguring, hclosed, hfull, pullsForStream, hpc, htx, hmsg] at hflow
  | messagePanicked => exact hsends rfl
  | stored hpc => exact hsends (congrArg QueuePc.sendsTo hpc)
  | handed hpc => exact hsends (congrArg QueuePc.sendsTo hpc)
  | routed hpc hmessages hroute =>
      obtain ⟨htx, hfull⟩ := Bool.and_eq_true_iff.mp hwaits
      replace htx := of_decide_eq_true htx
      simp only [setQueuePc, QueuePc.sendsTo, Option.some.injEq] at htx
      have hconfiguring : s.loopCtx.pc.configuring = true := hconfiguring
      have hclosed : s.closed = true := hclosed
      have hfull : s.full = true := hfull
      simp [keepsFlowing, hconfiguring, hclosed, hfull, routesToStream, hmessages, hroute, htx]
        at hflow
  | sendPanicked => exact hsends rfl
  | pullSent => exact hsends rfl
  | messageSent => exact hsends rfl

/-- `LoopCtx::run` gets stuck by taking up a node while the queue task waits. -/
theorem not_stuck_of_loop (hfree : ¬ s.Stuck) (hflow : s.keepsFlowing a = true)
    (h : s.step units a = some s') (ha : a.party = .loop) : ¬ s'.Stuck := by
  rintro ⟨hconfiguring, hwaits, hclosed⟩
  obtain ⟨hrun, hcollections, hcase⟩ := configuring_of_loop h ha hconfiguring
  have hwaits : s.queueWaits = true := by
    rw [frame_loop h ha] at hwaits
    rw [queueWaits_iff] at hwaits ⊢
    simpa only [hrun] using hwaits
  have hclosed : s.closed = true := by
    rw [frame_loop h ha] at hclosed
    simpa only [Service.closed, collection, hrun, hcollections] using hclosed
  rcases hcase with ⟨rfl, ⟨node, hevent⟩, -⟩ | ⟨hconfiguring', -⟩
  · simp [keepsFlowing, addsNode, hevent, hwaits, hclosed] at hflow
  · exact hfree ⟨hconfiguring', hwaits, hclosed⟩

/-- The collection task of another run has nothing to do with it. -/
theorem stuck_of_other {g : ℕ} (h : s.step units a = some s') (ha : a.collectionOf = some g)
    (hparty : a.party = .collection) (hg : g ≠ s.loopCtx.run) (hstuck : s'.Stuck) : s.Stuck := by
  obtain ⟨hconfiguring, hwaits, hclosed⟩ := hstuck
  obtain ⟨⟨c, hcollections⟩, hhanded, hdropped, htaken⟩ := frame_collectionOf h ha
  have hne : streamId s.loopCtx.run ≠ streamId g := streamId_injective.ne hg.symm
  rw [frame_collection h hparty] at hconfiguring hwaits hclosed
  refine ⟨hconfiguring, ?_, ?_⟩
  · rw [queueWaits_iff] at hwaits ⊢
    simpa only [hhanded, hdropped _ hne, htaken _ hne] using hwaits
  · simpa only [Service.closed, collection, hcollections, Function.update_of_ne hg.symm] using hclosed

/-- A collection task whose receiver is gone keeps nobody waiting. -/
theorem not_stuck_stopCollection : ¬ (s.stopCollection s.loopCtx.run).Stuck := by
  rintro ⟨-, hwaits, -⟩
  obtain ⟨-, halive, -⟩ := queueWaits_iff.mp hwaits
  simp [stopCollection, setCollectionPc, setCollection] at halive

/-- A collection task that goes on, with the same trigger. -/
theorem closed_setCollectionPc {pc : CollectionPc} :
    (s.setCollectionPc s.loopCtx.run pc).closed = (!s.collection.trigger &&
      match pc with
      | .awaiting => true
      | .sending _ => s.updateRuns
      | _ => false) := by
  simp only [Service.closed, setCollectionPc, setCollection, collection, Function.update_self]

/-- The collection task of the current run gets stuck by a window that times out. -/
theorem not_stuck_of_own (hwf : s.Wf) (hfree : ¬ s.Stuck) (hflow : s.keepsFlowing a = true)
    (h : s.step units a = some s') (ha : a.collectionOf = some s.loopCtx.run) : ¬ s'.Stuck := by
  cases collection_cases h (Label.party_of_collectionOf ha) <;> cases ha
  case triggered =>
    rintro ⟨-, -, hclosed⟩
    simp [Service.closed, setCollection, collection] at hclosed
  case ended => exact not_stuck_stopCollection
  case opened =>
    rintro ⟨-, -, hclosed⟩
    simp [closed_setCollectionPc] at hclosed
  case panicked => exact not_stuck_stopCollection
  case waits =>
    rintro ⟨-, -, hclosed⟩
    simp [Service.closed, setCollectionPc, setCollection, collection] at hclosed
  case completed =>
    -- the message taken out of the channel left room
    rintro ⟨-, hwaits, -⟩
    obtain ⟨-, -, hlt⟩ := queueWaits_iff.mp hwaits
    have hcap := hwf.capacity s.loopCtx.run
    simp only [setCollectionPc, setCollection, Function.update_self] at hlt
    omega
  case timedOut =>
    rintro ⟨hconfiguring, hwaits, hclosed⟩
    rw [closed_setCollectionPc] at hclosed
    have hconfiguring : s.loopCtx.pc.configuring = true := hconfiguring
    have hwaits : s.queueWaits = true := hwaits
    simp only [Bool.and_eq_true, Bool.not_eq_true'] at hclosed
    simp [keepsFlowing, hconfiguring, hwaits, hclosed] at hflow
  case sent window hruns hbatches hpc =>
    rintro ⟨hconfiguring, hwaits, hclosed⟩
    refine hfree ⟨hconfiguring, hwaits, ?_⟩
    simp only [Service.closed, setCollection, collection, Function.update_self,
      Bool.and_true] at hclosed
    rw [Service.closed, collection, hpc, hclosed, hruns]
    rfl
  case refused => exact not_stuck_stopCollection

/-- A collection task does not get stuck. -/
theorem not_stuck_of_collection (hwf : s.Wf) (hfree : ¬ s.Stuck) (hflow : s.keepsFlowing a = true)
    (h : s.step units a = some s') (ha : a.party = .collection) : ¬ s'.Stuck := by
  obtain ⟨g, hg⟩ := Label.exists_collectionOf ha
  by_cases hown : g = s.loopCtx.run
  · subst hown
    exact not_stuck_of_own hwf hfree hflow h hg
  · exact fun hstuck => hfree (stuck_of_other h hg ha hown hstuck)

/-- The batches have nothing to do with it. -/
theorem not_stuck_of_update (hfree : ¬ s.Stuck) (h : s.step units a = some s')
    (ha : a.party = .update) : ¬ s'.Stuck := by
  rintro ⟨hconfiguring, hwaits, hclosed⟩
  cases a <;> cases ha
  case takeBatch =>
    simp only [step, takeBatch] at h
    split at h <;> cases h
    exact hfree ⟨hconfiguring, hwaits, hclosed⟩
  case updateEnds =>
    cases h
    refine hfree ⟨hconfiguring, hwaits, ?_⟩
    simp only [Service.closed, collection, Bool.and_eq_true] at hclosed ⊢
    refine ⟨hclosed.1, ?_⟩
    revert hclosed
    cases (s.collections s.loopCtx.run).pc <;> simp

/-- The service does not get stuck, as long as the queue task keeps flowing. -/
theorem not_stuck_of_step (hwf : s.Wf) (hfree : ¬ s.Stuck) (hflow : s.keepsFlowing a = true)
    (h : s.step units a = some s') : ¬ s'.Stuck := by
  cases ha : a.party with
  | dbus =>
      rw [frame_dbus h ha]
      rintro ⟨hconfiguring, hwaits, hclosed⟩
      exact hfree ⟨hconfiguring, hwaits, hclosed⟩
  | queue => exact not_stuck_of_queue hwf hflow h ha
  | loop => exact not_stuck_of_loop hfree hflow h ha
  | collection => exact not_stuck_of_collection hwf hfree hflow h ha
  | update => exact not_stuck_of_update hfree h ha

/-- A step that does not keep the queue task flowing gets the service stuck. -/
theorem stuck_of_not_keepsFlowing (hflow : s.keepsFlowing a = false)
    (h : s.step units a = some s') : s'.Stuck := by
  cases a <;> try cases hflow
  case event =>
    simp only [keepsFlowing, Bool.not_eq_false', Bool.and_eq_true, addsNode] at hflow
    obtain ⟨⟨hadds, hwaits⟩, hclosed⟩ := hflow
    split at hadds
    · rename_i node hevent
      cases loop_cases h rfl with
      | known _ hevent' => cases hevent.symm.trans hevent'
      | discovered _ hevent' => cases hevent.symm.trans hevent'
      | nodeAdded => exact ⟨rfl, hwaits, hclosed⟩
      | nodeNotAdded _ hevent' => cases hevent.symm.trans hevent'
    · cases hadds
  case queueMessage =>
    simp only [keepsFlowing, Bool.not_eq_false', Bool.and_eq_true, routesToStream] at hflow
    obtain ⟨⟨⟨hconfiguring, hclosed⟩, hfull⟩, hroutes⟩ := hflow
    split at hroutes
    · rename_i msg hmsg
      split at hroutes
      · rename_i tx msg' hroute
        simp only [step, queueMessage] at h
        split at h
        · rename_i hmsg'
          cases hmsg.symm.trans hmsg'
          rw [hroute] at h
          cases h
          refine ⟨hconfiguring, Bool.and_eq_true_iff.mpr ⟨?_, hfull⟩, hclosed⟩
          simpa [setQueuePc, QueuePc.sendsTo] using hroutes
        · cases h
      · cases hroutes
    · cases hroutes
  case queuePull =>
    simp only [keepsFlowing, Bool.not_eq_false', Bool.and_eq_true, pullsForStream] at hflow
    obtain ⟨⟨⟨hconfiguring, hclosed⟩, hfull⟩, hpulls⟩ := hflow
    split at hpulls
    · rename_i filter tx index indexes hpc
      obtain ⟨htx, hsome⟩ := Bool.and_eq_true_iff.mp hpulls
      obtain ⟨msg, hmsg⟩ := Option.isSome_iff_exists.mp hsome
      have hremove : s.queue.state.removeMessage index = .ok (msg, { s.queue.state with
          messages := s.queue.state.messages.eraseIdx index }) :=
        State.removeMessage_eq_ok.mpr ⟨hmsg, rfl⟩
      simp only [step, queuePull, hpc, hremove] at h
      cases h
      refine ⟨hconfiguring, Bool.and_eq_true_iff.mpr ⟨?_, hfull⟩, hclosed⟩
      simpa [QueuePc.sendsTo] using htx
    · cases hpulls
  case timeout g =>
    simp only [keepsFlowing, Bool.not_eq_false', Bool.and_eq_true, decide_eq_true_eq,
      Bool.not_eq_true'] at hflow
    obtain ⟨⟨⟨⟨rfl, hconfiguring⟩, hwaits⟩, htrigger⟩, hruns⟩ := hflow
    cases collection_cases h rfl with
    | timedOut =>
        refine ⟨hconfiguring, hwaits, ?_⟩
        rw [closed_setCollectionPc, htrigger, hruns]
        rfl

/-- A closed collection task gets to where it awaits a trigger. -/
theorem exists_awaiting (units : Units) (h : s.closed = true) :
    ∃ l collections batches, Run (Partial (step units)) s l { s with collections, batches } ∧
      (collections s.loopCtx.run).pc = .awaiting ∧
        (collections s.loopCtx.run).trigger = false := by
  obtain ⟨htrigger, hpc⟩ := Bool.and_eq_true_iff.mp h
  have htrigger : (s.collections s.loopCtx.run).trigger = false := by
    simpa [collection] using htrigger
  have hsend : ∀ (s : Service K M) window,
      (s.collections s.loopCtx.run).pc = .sending window → s.updateRuns = true → s.batches = none →
      (s.collections s.loopCtx.run).trigger = false →
      ∃ collections batches, s.step units (.sendBatch s.loopCtx.run) =
          some { s with collections, batches } ∧
        (collections s.loopCtx.run).pc = .awaiting ∧
          (collections s.loopCtx.run).trigger = false := by
    intro s window hpc hruns hbatches htrigger
    refine ⟨Function.update s.collections s.loopCtx.run { s.collections s.loopCtx.run with
      pc := .awaiting, sent := (s.collections s.loopCtx.run).sent ++ [window] },
      some window.finish, ?_, ?_, ?_⟩
    · simp [step, sendBatch, hpc, hruns, hbatches, setCollection]
    · simp
    · simpa using htrigger
  rw [collection] at hpc
  split at hpc
  · rename_i hawaiting
    exact ⟨[], s.collections, s.batches, .nil s, hawaiting, htrigger⟩
  · rename_i window hsending
    cases hbatches : s.batches with
    | none =>
        obtain ⟨collections, batches, hstep, hresult⟩ :=
          hsend s window hsending hpc hbatches htrigger
        exact ⟨_, collections, batches, .single hstep, hresult⟩
    | some batch =>
        have htake : s.step units .takeBatch = some { s with batches := none } := by
          rw [step, takeBatch, hbatches]
        obtain ⟨collections, batches, hstep, hresult⟩ :=
          hsend { s with batches := none } window hsending hpc rfl htrigger
        exact ⟨_, collections, batches, .cons htake (.single hstep), hresult⟩
  · cases hpc

/-- A service that is stuck gets to the circular wait. -/
theorem Stuck.exists_waitCycle (h : s.Stuck) :
    ∃ l t, Run (Partial (step units)) s l t ∧ t.WaitCycle := by
  obtain ⟨l, collections, batches, hawaiting, hpc, htrigger⟩ := exists_awaiting units h.closed
  obtain ⟨l', loopCtx, hadding, hawaits, hrun⟩ := exists_awaitsStatus units
    (s := { s with collections, batches }) h.configuring
  refine ⟨l ++ l', _, hawaiting.append hadding, hawaits, ?_, ?_, ?_⟩
  · have hwaits := queueWaits_iff.mp h.waits
    rw [queueWaits_iff]
    simpa only [hrun] using hwaits
  · simpa only [collection, hrun] using hpc
  · simpa only [collection, hrun] using htrigger

/-- **No circular wait.** In a run in which the queue task keeps flowing while nodes are configured,
`LoopCtx::run`, the queue task and the collection task never wait for each other. From the state after
any other step there is a run to where they do. -/
theorem wait_cycle_free (units : Units) :
    (∀ (l : List Label) (s : Service K M),
      Run (Guarded (Partial (step units)) fun s a => s.keepsFlowing a = true) init l s →
        ¬ s.WaitCycle) ∧
    ∀ (s s' : Service K M) (a : Label), s.step units a = some s' → s.keepsFlowing a = false →
      ∃ l t, Run (Partial (step units)) s' l t ∧ t.WaitCycle := by
  refine ⟨fun l s h => ?_, fun s s' a h hflow => (stuck_of_not_keepsFlowing hflow h).exists_waitCycle⟩
  have hfree : s.Wf ∧ ¬ s.Stuck := h.invariant (I := fun s => s.Wf ∧ ¬ s.Stuck)
    (fun _ _ _ ⟨hwf, hfree⟩ hstep =>
      ⟨hwf.step hstep.2, not_stuck_of_step hwf hfree hstep.1 hstep.2⟩)
    ⟨Wf.init, fun hstuck => by cases hstuck.configuring⟩
  exact fun hcycle => hfree.2 hcycle.stuck

/-- A window is opened and times out. -/
def missWindow : List Label :=
  [.tick, .trigger, .takeTrigger 0, .openWindow 0, .callOk, .timeout 0, .sendBatch 0, .takeBatch]

set_option maxRecDepth 4000 in
/-- The theorem for a node that answers late. -/
theorem wait_cycle_free_late_answer :
    ∃ s : Service ℕ (DenseVec GenericFilter),
      Run (Guarded (Partial (step .total)) fun s a => s.keepsFlowing a = true) init
        (attach ++ provision ++ configure ++ missWindow ++ sensorValues 0 ++ [.queueSend] ++
          provision) s ∧ s.loopCtx.pc.awaitsStatus = true ∧ ¬ s.WaitCycle := by
  have hrun : ∃ s : Service ℕ (DenseVec GenericFilter),
      Run (Guarded (Partial (step .total)) fun s a => s.keepsFlowing a = true) init
        (attach ++ provision ++ configure ++ missWindow ++ sensorValues 0 ++ [.queueSend] ++
          provision) s ∧ s.loopCtx.pc.awaitsStatus = true :=
    ⟨_, run_guarded_iff.mpr rfl, rfl⟩
  obtain ⟨s, hrun, hawaits⟩ := hrun
  exact ⟨s, hrun, hawaits, (wait_cycle_free .total).1 _ s hrun⟩

set_option maxRecDepth 4000 in
/-- Two answers that come after the window was closed, and then a node that is added. -/
theorem wait_cycle :
    ∃ (l : List Label) (s : Service ℕ (DenseVec GenericFilter)),
      Run (Partial (step .total)) init l s ∧ s.WaitCycle := by
  refine ⟨attach ++ provision ++ configure ++ missWindow ++ sensorValues 0 ++ [.queueSend] ++
    sensorValues 0 ++ provision, _, run_partial_iff.mpr rfl, rfl, rfl, rfl, rfl⟩

end Service

end BleWsCentral.Mesh
