import BleWsCentral.Mesh.Service

/-!
# What the tasks do

The steps of the service read backwards: who takes a step, what it works on, and for `LoopCtx::run` and the
collection tasks all that a step can be. What the later modules say of a step is read off here.

* `Label.party` — which task takes a step. `frame_dbus`, `frame_queue`, `frame_loop`,
  `frame_collection`, `frame_update` say what a step of a task leaves alone.
* `PullSite` — the three calls of `pull_msg`.
* `LoopStep`, `loop_cases` — the steps of `LoopCtx::run`.
* `CollectionStep`, `collection_cases` — the steps of a collection task.
-/

set_option linter.unusedSectionVars false

namespace BleWsCentral.Mesh

open BleWsCentral.Found

/-! ## Who takes a step -/

/-- The tasks. -/
inductive Party
  | dbus
  | queue
  | loop
  | collection
  | update

/-- The task that takes a step. -/
def Label.party : Label → Party
  | .call _ _ | .dbusSend => .dbus
  | .queueRequest | .queuePull | .queueMessage | .queueSend => .queue
  | .callOk | .callErr | .attachPanics | .request | .reply | .tick | .trigger | .event | .insert
  | .restart => .loop
  | .takeTrigger _ | .openWindow _ | .collect _ | .timeout _ | .sendBatch _ => .collection
  | .takeBatch | .updateEnds => .update

/-- The run whose collection task takes a step. -/
def Label.collectionOf : Label → Option ℕ
  | .takeTrigger g | .openWindow g | .collect g | .timeout g | .sendBatch g => some g
  | _ => none

theorem Label.exists_collectionOf {a : Label} (h : a.party = .collection) :
    ∃ g, a.collectionOf = some g := by
  cases a <;> first | exact ⟨_, rfl⟩ | cases h

theorem Label.party_of_collectionOf {a : Label} {g : ℕ} (h : a.collectionOf = some g) :
    a.party = .collection := by
  cases a <;> first | rfl | cases h

/-! ## The calls of `pull_msg` -/

/-- The `pull_msg` that `LoopCtx::run` is in. -/
def LoopPc.pull : LoopPc → Option Pull
  | .pullingAttach pull => some pull
  | .nodeAdded _ (.pullingAppKey pull) => some pull
  | .nodeAdded _ (.pullingModelApp pull) => some pull
  | _ => none

/-- The calls of `pull_msg`. -/
inductive PullSite
  /-- In `try_attach`. -/
  | attach
  /-- In the branch for `NodeAdded(Ok(node))`, for the status of the application key. -/
  | appKey (node : Node)
  /-- In the same branch, for the status of the model. -/
  | modelApp (node : Node)

namespace PullSite

/-- Where `LoopCtx::run` is in the call. -/
def pc : PullSite → Pull → LoopPc
  | .attach => .pullingAttach
  | .appKey node => fun pull => .nodeAdded node (.pullingAppKey pull)
  | .modelApp node => fun pull => .nodeAdded node (.pullingModelApp pull)

/-- Where it awaits the call over D-Bus that comes before. -/
def before : PullSite → LoopPc
  | .attach => .attaching
  | .appKey node => .nodeAdded node .addingAppKey
  | .modelApp node => .nodeAdded node .binding

/-- Where it goes on after the call. -/
def next : PullSite → LoopPc
  | .attach => .starting
  | .appKey node => .nodeAdded node .binding
  | .modelApp node => .nodeAdded node .locking

def opcode : PullSite → Opcode
  | .appKey _ => ConfigAppKeyStatus.opcode
  | _ => ConfigModelAppStatus.opcode

def filter : PullSite → GenericFilter
  | .attach => DevFilter.toGeneric {}
  | .appKey node | .modelApp node => nodeFilter node.unicastAddr

/-- The payload parses as the type that is asked for. -/
def parses : PullSite → List UInt8 → Bool
  | .appKey _ => fun payload => (ConfigAppKeyStatus.parsePayload payload).isSome
  | _ => fun payload => (ConfigModelAppStatus.parsePayload payload).isSome

@[simp] theorem pull_pc (site : PullSite) (pull : Pull) : (site.pc pull).pull = some pull := by
  cases site <;> rfl

@[simp] theorem pull_before (site : PullSite) : site.before.pull = none := by
  cases site <;> rfl

@[simp] theorem pull_next (site : PullSite) : site.next.pull = none := by
  cases site <;> rfl

end PullSite

/-- A call over D-Bus is awaited in `run`. -/
def LoopPc.calls : LoopPc → Bool
  | .starting | .polling _ | .addingNode | .nodeAdded _ .scanning | .nodeAdded _ .addingAppKey
  | .nodeAdded _ .binding => true
  | _ => false

namespace Service

variable {K M : Type} [DecidableEq K] [DenseSlotMap K GenericFilter M] {units : Units}
  {s s' : Service K M} {a : Label}

/-! ## `LoopCtx::run` -/

@[simp] theorem pull_poll (addrs : List MeshAddr) : (poll addrs).pull = none := by
  cases addrs <;> rfl

/-- The steps of `LoopCtx::run`. -/
inductive LoopStep (s : Service K M) : Label → Service K M → Prop
  | pulls (site : PullSite) (hpc : s.loopCtx.pc = site.before) :
      LoopStep s .callOk (s.pullMsg site.opcode site.filter site.pc)
  | started (hpc : s.loopCtx.pc = .starting) : LoopStep s .callOk (s.setLoopPc .subscribing)
  | polled {addr : MeshAddr} {addrs : List MeshAddr} (hpc : s.loopCtx.pc = .polling (addr :: addrs)) :
      LoopStep s .callOk (s.setLoopPc (poll addrs))
  | nodeSent (hpc : s.loopCtx.pc = .addingNode) : LoopStep s .callOk (s.setLoopPc .selecting)
  | scanned {node : Node} (hpc : s.loopCtx.pc = .nodeAdded node .scanning) :
      LoopStep s .callOk (s.setLoopPc (.nodeAdded node .addingAppKey))
  | attachFailed (hpc : s.loopCtx.pc = .attaching) : LoopStep s .callErr s
  | failed (hcalls : s.loopCtx.pc.calls = true) : LoopStep s .callErr (s.leave .failed)
  | attachPanicked (hpc : s.loopCtx.pc = .attaching) :
      LoopStep s .attachPanics (s.setLoopPc .panicked)
  | requested (site : PullSite) {filter : GenericFilter} {tx : ChanId}
      (hpc : s.loopCtx.pc = site.pc (.requesting filter tx)) (hrequests : s.requests = none) :
      LoopStep s .request { s.setLoopPc (site.pc (.waiting tx)) with
        requests := some (filter, .oneshot (some tx)) }
  | requestPanicked (site : PullSite) {filter : GenericFilter} {tx : ChanId}
      (hpc : s.loopCtx.pc = site.pc (.requesting filter tx)) :
      LoopStep s .request (s.leave .panicked)
  | subscribed (hpc : s.loopCtx.pc = .subscribing) (hrequests : s.requests = none) :
      LoopStep s .request { s with
        requests := some (sensorFilter, .stream (streamId s.loopCtx.streams))
        loopCtx := { s.loopCtx with
          pc := .selecting
          discovering := ∅
          run := s.loopCtx.streams
          streams := s.loopCtx.streams + 1 }
        collections := Function.update s.collections s.loopCtx.streams
          { connected := ∅, trigger := false, triggerTx := true, pc := .awaiting, sent := [] } }
  | subscribePanicked (hpc : s.loopCtx.pc = .subscribing) : LoopStep s .request (s.leave .panicked)
  | replied (site : PullSite) {rx : ChanId} {msg : GenericMessage}
      (hpc : s.loopCtx.pc = site.pc (.waiting rx)) (hmsg : (s.channels.handed rx).head? = some msg)
      (hparses : site.parses msg.content.payload = true) : LoopStep s .reply (s.setLoopPc site.next)
  | replyPanicked (site : PullSite) {rx : ChanId} (hpc : s.loopCtx.pc = site.pc (.waiting rx))
      (hlost : ∀ msg, (s.channels.handed rx).head? = some msg →
        site.parses msg.content.payload = false) : LoopStep s .reply (s.leave .panicked)
  | ticked (hpc : s.loopCtx.pc = .selecting) : LoopStep s .tick (s.setLoopPc .triggering)
  | triggered (hpc : s.loopCtx.pc = .triggering) (htrigger : s.collection.trigger = false) :
      LoopStep s .trigger ((s.setLoopPc (poll s.collection.connected.keys)).setCollection
        s.loopCtx.run { s.collection with trigger := true })
  | triggerPanicked (hpc : s.loopCtx.pc = .triggering) : LoopStep s .trigger (s.leave .panicked)
  | known {uuid : Uuid} {rssi : Int16} (hpc : s.loopCtx.pc = .selecting)
      (hevent : s.events = some (.deviceDiscovered uuid rssi))
      (hknown : uuid ∈ s.loopCtx.discovering) : LoopStep s .event { s with events := none }
  | discovered {uuid : Uuid} {rssi : Int16} (hpc : s.loopCtx.pc = .selecting)
      (hevent : s.events = some (.deviceDiscovered uuid rssi))
      (hnew : uuid ∉ s.loopCtx.discovering) : LoopStep s .event { s with
        events := none
        loopCtx := { s.loopCtx with
          pc := .addingNode
          discovering := s.loopCtx.discovering.insert uuid } }
  | nodeAdded {node : Node} (hpc : s.loopCtx.pc = .selecting)
      (hevent : s.events = some (.nodeAdded (.ok node))) : LoopStep s .event { s with
        events := none
        loopCtx := { s.loopCtx with
          pc := .nodeAdded node .scanning
          discovering := s.loopCtx.discovering.erase node.uuid } }
  | nodeNotAdded {e : AddNodeError} (hpc : s.loopCtx.pc = .selecting)
      (hevent : s.events = some (.nodeAdded (.error e))) : LoopStep s .event { s with events := none }
  | inserted {node : Node} (hpc : s.loopCtx.pc = .nodeAdded node .locking)
      (hreads : s.collection.pc.reads = false) :
      LoopStep s .insert ((s.setLoopPc .selecting).setCollection s.loopCtx.run
        { s.collection with connected := s.collection.connected.insert node.unicastAddr node.uuid })
  | restarted (hpc : s.loopCtx.pc = .failed) : LoopStep s .restart (s.setLoopPc .starting)

/-- A request of `pull_msg` is sent, unless the queue task panicked. -/
theorem LoopStep.of_requestOneshot (site : PullSite) {filter : GenericFilter} {tx : ChanId}
    (hpc : s.loopCtx.pc = site.pc (.requesting filter tx))
    (h : s.requestOneshot filter tx site.pc = some s') : s.LoopStep .request s' := by
  unfold requestOneshot at h
  split at h
  · cases h
    exact .requestPanicked site hpc
  · split at h <;> cases h
    rename_i hrequests
    exact .requested site hpc hrequests

/-- The message is there and parses, or the run is over. -/
theorem LoopStep.of_awaitReply {α : Type} (site : PullSite) {rx : ChanId}
    {parsePayload : List UInt8 → Option α} (hpc : s.loopCtx.pc = site.pc (.waiting rx))
    (hparses : ∀ payload, site.parses payload = (parsePayload payload).isSome)
    (h : s.awaitReply rx parsePayload site.next = some s') : s.LoopStep .reply s' := by
  unfold awaitReply at h
  split at h
  · rename_i msg hmsg
    split at h <;> cases h <;> rename_i hvalue
    · refine .replied site hpc hmsg ?_
      rw [hparses, hvalue]
      rfl
    · refine .replyPanicked site hpc fun msg' hmsg' => ?_
      cases hmsg.symm.trans hmsg'
      rw [hparses, hvalue]
      rfl
  · rename_i hnone
    split at h <;> cases h
    refine .replyPanicked site hpc fun msg hmsg => ?_
    cases hnone.symm.trans hmsg

/-- These are the steps of `LoopCtx::run`. -/
theorem loop_cases (h : s.step units a = some s') (ha : a.party = .loop) : s.LoopStep a s' := by
  cases a <;> cases ha
  case callOk =>
    simp only [step, callOk] at h
    split at h <;> rename_i hpc <;> cases h
    · exact .pulls .attach hpc
    · exact .started hpc
    · exact .polled hpc
    · exact .nodeSent hpc
    · exact .scanned hpc
    · exact .pulls (.appKey _) hpc
    · exact .pulls (.modelApp _) hpc
  case callErr =>
    simp only [step, callErr] at h
    split at h <;> rename_i hpc <;> cases h
    case h_1 => exact .attachFailed hpc
    all_goals exact .failed (by rw [hpc]; rfl)
  case attachPanics =>
    simp only [step, attachPanics] at h
    split at h <;> cases h
    rename_i hpc
    exact .attachPanicked hpc
  case request =>
    simp only [step, request] at h
    split at h <;> rename_i hpc
    · exact .of_requestOneshot .attach hpc h
    · unfold subscribe at h
      split at h
      · cases h
        exact .subscribePanicked hpc
      · split at h <;> cases h
        rename_i hrequests
        exact .subscribed hpc hrequests
    · exact .of_requestOneshot (.appKey _) hpc h
    · exact .of_requestOneshot (.modelApp _) hpc h
    · cases h
  case reply =>
    simp only [step, reply] at h
    split at h <;> rename_i hpc
    · exact .of_awaitReply .attach hpc (fun _ => rfl) h
    · exact .of_awaitReply (.appKey _) hpc (fun _ => rfl) h
    · exact .of_awaitReply (.modelApp _) hpc (fun _ => rfl) h
    · cases h
  case tick =>
    simp only [step, tick] at h
    split at h <;> cases h
    rename_i hpc
    exact .ticked hpc
  case trigger =>
    simp only [step, trigger] at h
    split at h
    · rename_i hpc _
      cases h
      exact .triggerPanicked hpc
    · rename_i _ hpc _
      split at h <;> cases h
      rename_i htrigger
      exact .triggered hpc (Bool.eq_false_iff.mpr htrigger)
    · cases h
  case event =>
    simp only [step, event] at h
    split at h
    · rename_i hpc hevent
      split at h <;> rename_i hmem <;> cases h
      · exact .known hpc hevent hmem
      · exact .discovered hpc hevent hmem
    · rename_i hpc hevent
      cases h
      exact .nodeAdded hpc hevent
    · rename_i hpc hevent
      cases h
      exact .nodeNotAdded hpc hevent
    · cases h
  case insert =>
    simp only [step, insert] at h
    split at h
    · rename_i hpc
      split at h <;> cases h
      rename_i hreads
      exact .inserted hpc (Bool.eq_false_iff.mpr hreads)
    · cases h
  case restart =>
    simp only [step, restart] at h
    split at h <;> cases h
    rename_i hpc
    exact .restarted hpc

/-- What `LoopCtx::run` works on. -/
theorem frame_loop (h : s.step units a = some s') (ha : a.party = .loop) :
    s' = { s with
      events := s'.events, requests := s'.requests, loopCtx := s'.loopCtx
      collections := s'.collections } := by
  cases loop_cases h ha <;> rfl

/-! ## The collection tasks -/

/-- The steps of the collection tasks. -/
inductive CollectionStep (units : Units) (s : Service K M) : Label → Service K M → Prop
  | triggered (g : ℕ) (hpc : (s.collections g).pc = .awaiting)
      (htrigger : (s.collections g).trigger = true) : CollectionStep units s (.takeTrigger g)
      (s.setCollection g { s.collections g with trigger := false, pc := .locking })
  | ended (g : ℕ) (hpc : (s.collections g).pc = .awaiting) :
      CollectionStep units s (.takeTrigger g) (s.stopCollection g)
  | opened (g : ℕ) (hpc : (s.collections g).pc = .locking) (hwrites : s.writes g = false) :
      CollectionStep units s (.openWindow g)
        (s.setCollectionPc g (.window (.opened (s.collections g).connected)))
  | panicked (g : ℕ) {window : Window} {msg : GenericMessage}
      (hpc : (s.collections g).pc = .window window)
      (hmsg : (s.channels.handed (streamId g))[s.taken (streamId g)]? = some msg)
      (hreceive : window.receive units msg = .panicked) : CollectionStep units s (.collect g)
      ({ s with taken :=
        Function.update s.taken (streamId g) (s.taken (streamId g) + 1) }.stopCollection g)
  | waits (g : ℕ) {window window' : Window} {msg : GenericMessage}
      (hpc : (s.collections g).pc = .window window)
      (hmsg : (s.channels.handed (streamId g))[s.taken (streamId g)]? = some msg)
      (hreceive : window.receive units msg = .waiting window') : CollectionStep units s (.collect g)
      ({ s with taken :=
        Function.update s.taken (streamId g) (s.taken (streamId g) + 1) }.setCollectionPc g
          (.window window'))
  | completed (g : ℕ) {window window' : Window} {msg : GenericMessage}
      (hpc : (s.collections g).pc = .window window)
      (hmsg : (s.channels.handed (streamId g))[s.taken (streamId g)]? = some msg)
      (hreceive : window.receive units msg = .complete window') : CollectionStep units s (.collect g)
      ({ s with taken :=
        Function.update s.taken (streamId g) (s.taken (streamId g) + 1) }.setCollectionPc g
          (.sending window'))
  | timedOut (g : ℕ) {window : Window} (hpc : (s.collections g).pc = .window window) :
      CollectionStep units s (.timeout g) (s.setCollectionPc g (.sending window))
  | sent (g : ℕ) {window : Window} (hpc : (s.collections g).pc = .sending window)
      (hruns : s.updateRuns = true) (hbatches : s.batches = none) :
      CollectionStep units s (.sendBatch g)
        { s.setCollection g { s.collections g with
          pc := .awaiting, sent := (s.collections g).sent ++ [window] } with
          batches := some window.finish }
  | refused (g : ℕ) {window : Window} (hpc : (s.collections g).pc = .sending window)
      (hruns : s.updateRuns = false) :
      CollectionStep units s (.sendBatch g) (s.stopCollection g)

/-- These are the steps of the collection tasks. -/
theorem collection_cases (h : s.step units a = some s') (ha : a.party = .collection) :
    s.CollectionStep units a s' := by
  cases a <;> cases ha
  case takeTrigger g =>
    simp only [step, takeTrigger] at h
    split at h
    · rename_i hpc
      split at h
      · rename_i htrigger
        cases h
        exact .triggered g hpc htrigger
      · split at h <;> cases h
        exact .ended g hpc
    · cases h
  case openWindow g =>
    simp only [step, openWindow] at h
    split at h
    · rename_i hpc
      split at h <;> cases h
      rename_i hwrites
      exact .opened g hpc (Bool.eq_false_iff.mpr hwrites)
    · cases h
  case collect g =>
    simp only [step, collect] at h
    split at h
    · rename_i window msg hpc hmsg
      split at h <;> rename_i hreceive <;> cases h
      · exact .panicked g hpc hmsg hreceive
      · exact .waits g hpc hmsg hreceive
      · exact .completed g hpc hmsg hreceive
    · cases h
  case timeout g =>
    simp only [step, timeout] at h
    split at h <;> cases h
    rename_i window hpc
    exact .timedOut g hpc
  case sendBatch g =>
    simp only [step, sendBatch] at h
    split at h
    · rename_i window hpc
      split at h <;> rename_i hruns
      · split at h <;> cases h
        rename_i hbatches
        exact .sent g hpc hruns hbatches
      · cases h
        exact .refused g hpc (Bool.eq_false_iff.mpr hruns)
    · cases h

/-- What a collection task works on. -/
theorem frame_collection (h : s.step units a = some s') (ha : a.party = .collection) :
    s' = { s with
      channels := s'.channels, taken := s'.taken, collections := s'.collections
      batches := s'.batches } := by
  cases collection_cases h ha <;> rfl

/-- Of these, the collection task of run `g` works on its own ones. -/
theorem frame_collectionOf {g : ℕ} (h : s.step units a = some s') (ha : a.collectionOf = some g) :
    (∃ c, s'.collections = Function.update s.collections g c) ∧
      s'.channels.handed = s.channels.handed ∧
      (∀ c, c ≠ streamId g → s'.channels.dropped c = s.channels.dropped c) ∧
      ∀ c, c ≠ streamId g → s'.taken c = s.taken c := by
  have hdropped : ∀ c, c ≠ streamId g →
      Function.update s.channels.dropped (streamId g) true c = s.channels.dropped c :=
    fun c hc => Function.update_of_ne hc _ _
  have htaken : ∀ c, c ≠ streamId g →
      Function.update s.taken (streamId g) (s.taken (streamId g) + 1) c = s.taken c :=
    fun c hc => Function.update_of_ne hc _ _
  cases collection_cases h (Label.party_of_collectionOf ha) <;> cases ha
  case triggered => exact ⟨⟨_, rfl⟩, rfl, fun _ _ => rfl, fun _ _ => rfl⟩
  case ended => exact ⟨⟨_, rfl⟩, rfl, hdropped, fun _ _ => rfl⟩
  case opened => exact ⟨⟨_, rfl⟩, rfl, fun _ _ => rfl, fun _ _ => rfl⟩
  case panicked => exact ⟨⟨_, rfl⟩, rfl, hdropped, htaken⟩
  case waits => exact ⟨⟨_, rfl⟩, rfl, fun _ _ => rfl, htaken⟩
  case completed => exact ⟨⟨_, rfl⟩, rfl, fun _ _ => rfl, htaken⟩
  case timedOut => exact ⟨⟨_, rfl⟩, rfl, fun _ _ => rfl, fun _ _ => rfl⟩
  case sent => exact ⟨⟨_, rfl⟩, rfl, fun _ _ => rfl, fun _ _ => rfl⟩
  case refused => exact ⟨⟨_, rfl⟩, rfl, hdropped, fun _ _ => rfl⟩

/-! ## The other tasks -/

/-- What the D-Bus thread works on. -/
theorem frame_dbus (h : s.step units a = some s') (ha : a.party = .dbus) :
    s' = { s with dbus := s'.dbus, clock := s'.clock, events := s'.events, messages := s'.messages } := by
  cases a <;> cases ha
  case call call now =>
    simp only [step, Service.call] at h
    split at h <;> cases h
    rfl
  case dbusSend =>
    simp only [step, dbusSend] at h
    split at h
    · split at h
      · cases h
        rfl
      · split at h <;> cases h
        rfl
    · split at h
      · cases h
        rfl
      · split at h <;> cases h
        rfl
    · cases h

/-- A send to a stream changes its channel and where the task is. -/
theorem frame_sendStream {tx : ChanId} {msg : GenericMessage} {pc : QueuePc}
    (h : s.sendStream tx msg pc = some s') :
    s' = { s with queue := s'.queue, channels := s'.channels } := by
  unfold sendStream at h
  split at h
  · cases h
    rfl
  · split at h <;> cases h
    rfl

/-- What the queue task works on. -/
theorem frame_queue (h : s.step units a = some s') (ha : a.party = .queue) :
    s' = { s with
      requests := s'.requests, messages := s'.messages, queue := s'.queue
      channels := s'.channels } := by
  cases a <;> cases ha
  case queueRequest =>
    simp only [step, queueRequest] at h
    split at h
    · split at h <;> cases h <;> rfl
    · cases h
      rfl
    · cases h
  case queuePull =>
    simp only [step, queuePull] at h
    split at h
    · cases h
      rfl
    · split at h <;> cases h <;> rfl
    · cases h
  case queueMessage =>
    simp only [step, queueMessage] at h
    split at h
    · split at h <;> cases h <;> rfl
    · cases h
  case queueSend =>
    simp only [step, queueSend] at h
    split at h
    · rw [frame_sendStream h]
    · rw [frame_sendStream h]
    · cases h

/-- What the task that is handed the batches works on. -/
theorem frame_update (h : s.step units a = some s') (ha : a.party = .update) :
    s' = { s with batches := s'.batches, updateRuns := s'.updateRuns } := by
  cases a <;> cases ha
  case takeBatch =>
    simp only [step, takeBatch] at h
    split at h <;> cases h
    rfl
  case updateEnds =>
    cases h
    rfl

end Service

end BleWsCentral.Mesh
