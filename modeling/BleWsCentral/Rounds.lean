import BleWsCentral.Mesh.Stamps
import BleWsCentral.Server.Update

/-!
# Rounds

What the sensors in memory are worth after a round: the trigger is sent, the collection task fills a window
and sends its batch, and `update` applies it. A sensor should be shown as connected only if it was heard
after the trigger.

* `Rounds` — the mesh service and the context, with a record of what is needed to say so: the nodes ever put
  into `connected`, the messages that arrived at the queue, and when the triggers were sent.
  `service_of_step` says that the record restricts nothing.
* `Round.Right` — what should hold after a round.
* `Rounds.Covered` — the window took a valid message of a sensor only if one arrived after the trigger, and
  the sensors that are not among the nodes of the window are unconnected already. Messages of the round
  before may be left in the channel of the stream, and `LoopCtx::run` starts with no nodes each time.
* `rounds_right_iff` — all rounds are right if and only if each batch that is applied is covered.
-/

set_option linter.unusedSectionVars false

namespace BleWsCentral.Mesh

open BleWsCentral.Found BleWsCentral.Server

/-! ## What a step means for the rounds -/

/-- The batch holds the last valid readings, and what is missing. -/
structure Window.Faithful (units : Units) (window : Window) : Prop where
  sound : window.Sound units
  unheard : window.Unheard units

namespace Service

variable {K M : Type} [DecidableEq K] [DenseSlotMap K GenericFilter M] {units : Units}
  {s s' : Service K M} {a : Label}

/-- The node that is put into `connected`. -/
def inserts (s : Service K M) : Label → Option (MeshAddr × Uuid)
  | .insert =>
      match s.loopCtx.pc with
      | .nodeAdded node .locking => some (node.unicastAddr, node.uuid)
      | _ => none
  | _ => none

/-- The message that arrives at the queue. -/
def arrives (s : Service K M) : Label → Option GenericMessage
  | .dbusSend =>
      match s.dbus with
      | .pushing msg => if s.queue.pc = .panicked then none else some msg
      | _ => none
  | _ => none

/-- The window whose batch is sent, with its run. -/
def sends (s : Service K M) : Label → Option (ℕ × Window)
  | .sendBatch g =>
      match (s.collections g).pc with
      | .sending window => if s.updateRuns then some (g, window) else none
      | _ => none
  | _ => none

/-- The run whose trigger is sent. -/
def triggers (s : Service K M) : Label → Option ℕ
  | .trigger => some s.loopCtx.run
  | _ => none

/-- In a step of its own collection task, a window is opened, goes on, or takes a message. -/
theorem current_of_collection (h : s.step units a = some s') {g : ℕ} (ha : a.collectionOf = some g)
    {window' : Window} (hcurrent : (s'.collections g).pc.current = some window') :
    (s.collections g).pc.current = some window' ∨ (∃ connected, window' = .opened connected) ∨
      ∃ window msg, (s.collections g).pc.current = some window ∧
        (window.receive units msg = .waiting window' ∨ window.receive units msg = .complete window') := by
  have hpc : ∀ (t : Service K M) (pc : CollectionPc), ((t.setCollectionPc g pc).collections g).pc = pc := by
    intro t pc
    simp [setCollectionPc, setCollection]
  cases collection_cases h (Label.party_of_collectionOf ha) with
  | opened g' hat _ =>
      cases ha
      rw [hpc] at hcurrent
      cases hcurrent
      exact .inr (.inl ⟨_, rfl⟩)
  | @waits g' window _ msg hat _ hreceive =>
      cases ha
      rw [hpc] at hcurrent
      cases hcurrent
      exact .inr (.inr ⟨window, msg, by rw [hat]; rfl, .inl hreceive⟩)
  | @completed g' window _ msg hat _ hreceive =>
      cases ha
      rw [hpc] at hcurrent
      cases hcurrent
      exact .inr (.inr ⟨window, msg, by rw [hat]; rfl, .inr hreceive⟩)
  | timedOut g' hat =>
      cases ha
      rw [hpc] at hcurrent
      cases hcurrent
      exact .inl (by rw [hat]; rfl)
  | triggered g' _ _ | ended g' _ | panicked g' _ _ _ | sent g' _ _ _ | refused g' _ _ =>
      -- there is no window afterwards
      cases ha
      simp [stopCollection, setCollectionPc, setCollection, CollectionPc.current] at hcurrent

/-- A window is opened, goes on, or takes a message. -/
theorem current_of_step (h : s.step units a = some s') (g : ℕ) {window' : Window}
    (hcurrent : (s'.collections g).pc.current = some window') :
    (s.collections g).pc.current = some window' ∨ (∃ connected, window' = .opened connected) ∨
      ∃ window msg, (s.collections g).pc.current = some window ∧
        (window.receive units msg = .waiting window' ∨ window.receive units msg = .complete window') := by
  cases ha : a.party with
  | dbus =>
      rw [frame_dbus h ha] at hcurrent
      exact .inl hcurrent
  | queue =>
      rw [frame_queue h ha] at hcurrent
      exact .inl hcurrent
  | loop =>
      rcases collections_of_loop h ha g with ⟨-, hpc⟩ | ⟨-, -, hpc⟩
      · rw [hpc] at hcurrent
        exact .inl hcurrent
      · rw [hpc] at hcurrent
        cases hcurrent
  | collection =>
      obtain ⟨g', hg'⟩ := Label.exists_collectionOf ha
      by_cases hg : g = g'
      · subst hg
        exact current_of_collection h hg' hcurrent
      · obtain ⟨⟨c, hcollections⟩, -⟩ := frame_collectionOf h hg'
        rw [hcollections, Function.update_of_ne hg] at hcurrent
        exact .inl hcurrent
  | update =>
      rw [frame_update h ha] at hcurrent
      exact .inl hcurrent

/-- A collection task sends the batch of its window, or leaves the channel alone. -/
theorem batches_of_collection (h : s.step units a = some s') (ha : a.party = .collection) :
    (∃ g window, s.sends a = some (g, window) ∧ (s.collections g).pc.current = some window ∧
      s'.batches = some window.finish) ∨ s.sends a = none ∧ s'.batches = s.batches := by
  cases collection_cases h ha with
  | @sent g window hpc hruns _ =>
      refine .inl ⟨g, window, ?_, ?_, rfl⟩
      · simp only [sends, hpc, if_pos hruns]
      · rw [hpc]
        rfl
  | @refused g window hpc hruns =>
      refine .inr ⟨?_, rfl⟩
      simp [sends, hpc, hruns]
  | triggered _ _ _ | ended _ _ | opened _ _ _ | panicked _ _ _ _ | waits _ _ _ _ | completed _ _ _ _
  | timedOut _ _ => exact .inr ⟨rfl, rfl⟩

/-- What lies in the channel of the batches was sent from a window, or was there before. -/
theorem batches_of_step (h : s.step units a = some s') {item : UpdateItem}
    (hitem : s'.batches = some item) :
    (∃ g window, s.sends a = some (g, window) ∧ (s.collections g).pc.current = some window ∧
      item = window.finish) ∨ s.sends a = none ∧ s.batches = some item := by
  have hnone : a.party ≠ .collection → s.sends a = none := by
    intro ha
    cases a <;> first | rfl | exact absurd rfl ha
  cases ha : a.party with
  | dbus =>
      rw [frame_dbus h ha] at hitem
      exact .inr ⟨hnone (by simp [ha]), hitem⟩
  | queue =>
      rw [frame_queue h ha] at hitem
      exact .inr ⟨hnone (by simp [ha]), hitem⟩
  | loop =>
      rw [frame_loop h ha] at hitem
      exact .inr ⟨hnone (by simp [ha]), hitem⟩
  | collection =>
      rcases batches_of_collection h ha with ⟨g, window, hsends, hcurrent, hbatches⟩ | ⟨hsends, hbatches⟩
      · rw [hbatches] at hitem
        cases hitem
        exact .inl ⟨g, window, hsends, hcurrent, rfl⟩
      · exact .inr ⟨hsends, hbatches ▸ hitem⟩
  | update =>
      cases a <;> cases ha
      · simp only [step, takeBatch] at h
        split at h <;> cases h
        cases hitem
      · cases h
        cases hitem

end Service

/-! ## The record -/

/-- A batch that was sent: its window, and how many messages had arrived at the queue when the trigger of its
round was sent. -/
structure Sent where
  window : Window
  triggered : ℕ

/-- A round whose batch was applied. -/
structure Round where
  /-- What was put into `connected` so far, by any run. -/
  inserted : List (MeshAddr × Uuid)
  /-- What arrived at the queue after the trigger. -/
  arrived : List GenericMessage
  sensors : Sensors

/-- A valid message of sensor `id` is among `msgs`, from one of the addresses it was put into `connected`
with. -/
def Heard (units : Units) (inserted : List (MeshAddr × Uuid)) (msgs : List GenericMessage) (id : Uuid) :
    Prop :=
  ∃ msg ∈ msgs, (msg.sourceAddr, id) ∈ inserted ∧ sensorFilter.isMatch msg = true ∧
    ∃ values, convertMsgToValues units msg = .ok values

/-- The state of a sensor in memory. -/
def stateOf (sensors : Sensors) (id : Uuid) : Option SensorState := sensors[id]?.map Sensor.state

/-- A sensor that was ever put into `connected` is connected only if it was heard after the trigger, and
unconnected if not. -/
structure Round.Right (units : Units) (round : Round) : Prop where
  connected : ∀ addr id values, (addr, id) ∈ round.inserted →
    stateOf round.sensors id = some (.connected values) → Heard units round.inserted round.arrived id
  unconnected : ∀ addr id, (addr, id) ∈ round.inserted →
    ¬ Heard units round.inserted round.arrived id → stateOf round.sensors id = some .unconnected

/-- The mesh service and the context, with the record of the rounds. -/
structure Rounds (K M : Type) where
  service : Service K M
  ctx : Context
  /-- The batch that `update` works on. -/
  update : Option UpdateItem
  inserted : List (MeshAddr × Uuid)
  arrived : List GenericMessage
  /-- How many messages had arrived when the last trigger of a run was sent. -/
  triggered : ℕ → ℕ
  /-- The same for the trigger that its collection task took last. -/
  started : ℕ → ℕ
  /-- What was sent last. -/
  sent : Sent
  /-- What `update` took last. -/
  taken : Sent
  rounds : List Round

/-- A step of the mesh service, `update` on the batch it took, or the last step of a `change_label`. -/
inductive RoundStep
  | mesh (a : Label)
  | update (faults : Faults)
  | relabel (id : Uuid) (newLabel : Option String)

namespace Rounds

variable {K M : Type} [DecidableEq K] [DenseSlotMap K GenericFilter M] {units : Units}
  {s s' : Rounds K M}

/-- Nothing happened yet. -/
def init (ctx : Context) : Rounds K M where
  service := .init
  ctx
  update := none
  inserted := []
  arrived := []
  triggered _ := 0
  started _ := 0
  sent := ⟨.opened ∅, 0⟩
  taken := ⟨.opened ∅, 0⟩
  rounds := []

/-- What `update` works on after a step of the mesh service. -/
def noteUpdate (s : Rounds K M) : Label → Option UpdateItem
  | .takeBatch => s.service.batches
  | .updateEnds => none
  | _ => s.update

/-- When the triggers were sent that were sent last. -/
def noteTriggered (s : Rounds K M) (a : Label) : ℕ → ℕ :=
  match s.service.triggers a with
  | some g => Function.update s.triggered g s.arrived.length
  | none => s.triggered

/-- When the triggers were sent that were taken last. -/
def noteStarted (s : Rounds K M) : Label → ℕ → ℕ
  | .takeTrigger g => Function.update s.started g (s.triggered g)
  | _ => s.started

/-- The window whose batch was sent last. -/
def noteSent (s : Rounds K M) (a : Label) : Sent :=
  match s.service.sends a with
  | some (g, window) => ⟨window, s.started g⟩
  | none => s.sent

/-- The window whose batch was taken last. -/
def noteTaken (s : Rounds K M) : Label → Sent
  | .takeBatch => s.sent
  | _ => s.taken

/-- What is noted when a step of the mesh service leads to `service`. -/
def note (s : Rounds K M) (a : Label) (service : Service K M) : Rounds K M where
  service
  ctx := s.ctx
  update := s.noteUpdate a
  inserted := s.inserted ++ (s.service.inserts a).toList
  arrived := s.arrived ++ (s.service.arrives a).toList
  triggered := s.noteTriggered a
  started := s.noteStarted a
  sent := s.noteSent a
  taken := s.noteTaken a
  rounds := s.rounds

/-- A step of the mesh service; `update` takes a batch when it works on none. -/
def mesh (units : Units) (s : Rounds K M) (a : Label) : Option (Rounds K M) :=
  if a = .takeBatch ∧ s.update.isSome then none
  else (s.service.step units a).map (s.note a)

/-- `update` on the batch it took; an error ends it, and drops the receiver of the batches. -/
def process (units : Units) (s : Rounds K M) (faults : Faults) : Option (Rounds K M) :=
  match s.update with
  | none => none
  | some item =>
      match updateBatch faults s.ctx item with
      | (.ok (), ctx) =>
          some { s with
            ctx
            update := none
            rounds := s.rounds ++ [⟨s.inserted, s.arrived.drop s.taken.triggered, ctx.sensors⟩] }
      | (.error _, ctx) =>
          (s.service.step units .updateEnds).map fun service => { s with service, ctx, update := none }

/-- A step of the tasks. -/
def step (units : Units) (s : Rounds K M) : RoundStep → Option (Rounds K M)
  | .mesh a => s.mesh units a
  | .update faults => s.process units faults
  | .relabel id newLabel => some { s with ctx := s.ctx.changeLabelModify id newLabel }

/-- What the batch that `update` works on says is so: the window took a valid message of a sensor only if one
arrived after the trigger, and the sensors that are not among its nodes are unconnected already, or were
heard. -/
structure Covered (units : Units) (s : Rounds K M) : Prop where
  nodes : ∀ addr id, (addr, id) ∈ s.inserted → ∀ msg ∈ s.taken.window.msgs,
    (Window.readingOf units s.taken.window.connected id msg).isSome = true →
      Heard units s.inserted (s.arrived.drop s.taken.triggered) id
  others : ∀ addr id, (addr, id) ∈ s.inserted → id ∉ s.taken.window.connected.values →
    ¬ Heard units s.inserted (s.arrived.drop s.taken.triggered) id →
      stateOf s.ctx.sensors id = some .unconnected

/-- A batch that is applied is covered. -/
def AppliesCovered (units : Units) (s : Rounds K M) : RoundStep → Prop
  | .update faults => ∀ item, s.update = some item → (updateBatch faults s.ctx item).1 = .ok () →
      s.Covered units
  | _ => True

/-- The batches are those of their windows. -/
structure Inv (units : Units) (s : Rounds K M) : Prop where
  current : ∀ g window, (s.service.collections g).pc.current = some window → window.Faithful units
  sent : ∀ item, s.service.batches = some item →
    item = s.sent.window.finish ∧ s.sent.window.Faithful units
  taken : ∀ item, s.update = some item → item = s.taken.window.finish ∧ s.taken.window.Faithful units

theorem Inv.init (ctx : Context) : (Rounds.init ctx : Rounds K M).Inv units where
  current _ _ h := by cases h
  sent _ h := by cases h
  taken _ h := by cases h

/-- The windows of the next state. -/
theorem Inv.current_step (h : s.Inv units) {a : Label} {service : Service K M}
    (hstep : s.service.step units a = some service) (g : ℕ) (window : Window)
    (hcurrent : (service.collections g).pc.current = some window) : window.Faithful units := by
  rcases Service.current_of_step hstep g hcurrent with hbefore | ⟨connected, rfl⟩ |
    ⟨window', msg, hbefore, hreceive⟩
  · exact h.current g window hbefore
  · exact ⟨Window.sound_opened connected, Window.unheard_opened connected⟩
  · obtain ⟨hsound, hunheard⟩ := h.current g window' hbefore
    exact ⟨hsound.receive hreceive, hunheard.receive hreceive⟩

/-- A step of the mesh service. -/
theorem Inv.mesh (h : s.Inv units) {a : Label} {service : Service K M}
    (hstep : s.service.step units a = some service) : (s.note a service).Inv units := by
  refine ⟨h.current_step hstep, fun item hitem => ?_, fun item hitem => ?_⟩
  · rcases Service.batches_of_step hstep hitem with ⟨g, window, hsends, hcurrent, rfl⟩ |
      ⟨hsends, hbefore⟩
    · have hsent : s.noteSent a = ⟨window, s.started g⟩ := by
        simp only [noteSent, hsends]
      rw [note, hsent]
      exact ⟨rfl, h.current g window hcurrent⟩
    · have hsent : s.noteSent a = s.sent := by
        simp only [noteSent, hsends]
      rw [note, hsent]
      exact h.sent item hbefore
  · cases a with
    | takeBatch => exact h.sent item hitem
    | updateEnds => cases hitem
    | _ => exact h.taken item hitem

/-- `update` gives the sensors of the batch their states, and leaves the others alone. -/
theorem stateOf_updateBatch {faults : Faults} {ctx ctx' : Context} {item : UpdateItem}
    (h : updateBatch faults ctx item = (.ok (), ctx')) (id : Uuid) :
    stateOf ctx'.sensors id = item[id]?.or (stateOf ctx.sensors id) := by
  obtain ⟨-, -, -, hsensors⟩ := of_updateBatch h
  rw [stateOf, hsensors, getElem?_applyBatch]
  cases item[id]? with
  | none => rfl
  | some state => rfl

/-- The round whose batch is applied is right exactly if the batch is covered. -/
theorem Inv.right_iff (h : s.Inv units) {faults : Faults} {ctx : Context} {item : UpdateItem}
    (hitem : s.update = some item) (hbatch : updateBatch faults s.ctx item = (.ok (), ctx)) :
    (Round.mk s.inserted (s.arrived.drop s.taken.triggered) ctx.sensors).Right units ↔
      s.Covered units := by
  obtain ⟨rfl, hsound, hunheard⟩ := h.taken item hitem
  have hstate := stateOf_updateBatch hbatch
  constructor
  · intro hright
    refine ⟨fun addr id hid msg hmsg hreading => ?_, fun addr id hid hnot hheard => ?_⟩
    · cases hlast : s.taken.window.lastReading units id with
      | none =>
          rw [Window.lastReading_eq_none.mp hlast msg hmsg] at hreading
          cases hreading
      | some values =>
          apply hright.connected addr id values hid
          rw [hstate, (hsound.finish id values).mpr hlast]
          rfl
    · have hafter := hright.unconnected addr id hid hheard
      rwa [hstate, (hunheard.finish hsound id).mpr hnot] at hafter
  · intro hcovered
    have hconnected : ∀ addr id values, (addr, id) ∈ s.inserted →
        stateOf ctx.sensors id = some (.connected values) →
          Heard units s.inserted (s.arrived.drop s.taken.triggered) id := by
      intro addr id values hid hafter
      rw [hstate] at hafter
      cases hfinish : s.taken.window.finish[id]? with
      | none =>
          by_contra hheard
          have hnot := (hunheard.finish hsound id).mp hfinish
          rw [hfinish, hcovered.others addr id hid hnot hheard] at hafter
          cases hafter
      | some state =>
          rw [hfinish] at hafter
          cases hafter
          have hlast := (hsound.finish id values).mp hfinish
          by_contra hheard
          have hnone : s.taken.window.lastReading units id = none := by
            apply Window.lastReading_eq_none.mpr
            intro msg hmsg
            rw [← Option.not_isSome_iff_eq_none]
            exact fun hreading => hheard (hcovered.nodes addr id hid msg hmsg hreading)
          cases hnone.symm.trans hlast
    refine ⟨hconnected, fun addr id hid hheard => ?_⟩
    cases hfinish : s.taken.window.finish[id]? with
    | none =>
        have hnot := (hunheard.finish hsound id).mp hfinish
        exact (hstate id).trans (by rw [hfinish]; exact hcovered.others addr id hid hnot hheard)
    | some state =>
        have hafter : stateOf ctx.sensors id = some state := by
          rw [hstate, hfinish]
          rfl
        cases state with
        | connected values => exact absurd (hconnected addr id values hid hafter) hheard
        | unconnected => exact hafter

/-- `update` applies the batch it works on, or ends. -/
theorem process_cases {faults : Faults} (h : s.process units faults = some s') :
    ∃ item, s.update = some item ∧
      ((∃ ctx, updateBatch faults s.ctx item = (.ok (), ctx) ∧ s' = { s with
        ctx
        update := none
        rounds := s.rounds ++ [⟨s.inserted, s.arrived.drop s.taken.triggered, ctx.sensors⟩] }) ∨
      ∃ e ctx service, updateBatch faults s.ctx item = (.error e, ctx) ∧
        s.service.step units .updateEnds = some service ∧
        s' = { s with service, ctx, update := none }) := by
  unfold process at h
  split at h
  · cases h
  · rename_i item hitem
    refine ⟨item, hitem, ?_⟩
    split at h
    · rename_i ctx hbatch
      cases h
      exact .inl ⟨ctx, hbatch, rfl⟩
    · rename_i e ctx hbatch
      obtain ⟨service, hstep, rfl⟩ := Option.map_eq_some_iff.mp h
      exact .inr ⟨e, ctx, service, hbatch, hstep, rfl⟩

/-- A step of the mesh service is one of it. -/
theorem mesh_cases {a : Label} (h : s.mesh units a = some s') :
    ∃ service, s.service.step units a = some service ∧ s' = s.note a service := by
  unfold mesh at h
  split at h
  · cases h
  · obtain ⟨service, hstep, rfl⟩ := Option.map_eq_some_iff.mp h
    exact ⟨service, hstep, rfl⟩

/-- The mesh service takes a step of its own, or none. -/
theorem service_of_step {a : RoundStep} (h : s.step units a = some s') :
    s'.service = s.service ∨ ∃ a', s.service.step units a' = some s'.service := by
  cases a with
  | mesh a =>
      obtain ⟨service, hstep, rfl⟩ := mesh_cases h
      exact .inr ⟨a, hstep⟩
  | update faults =>
      obtain ⟨item, -, ⟨ctx, -, rfl⟩ | ⟨e, ctx, service, -, hstep, rfl⟩⟩ := process_cases h
      · exact .inl rfl
      · exact .inr ⟨.updateEnds, hstep⟩
  | relabel id newLabel =>
      cases h
      exact .inl rfl

/-- Every step keeps the batches those of their windows. -/
theorem Inv.step (h : s.Inv units) {a : RoundStep} (hstep : s.step units a = some s') :
    s'.Inv units := by
  cases a with
  | mesh a =>
      obtain ⟨service, hservice, rfl⟩ := mesh_cases hstep
      exact h.mesh hservice
  | update faults =>
      obtain ⟨item, -, ⟨ctx, -, rfl⟩ | ⟨e, ctx, service, -, hservice, rfl⟩⟩ := process_cases hstep
      · exact ⟨h.current, h.sent, fun _ h => by cases h⟩
      · refine ⟨h.current_step hservice, fun item hitem => ?_, fun _ h => by cases h⟩
        cases hservice
        cases hitem
  | relabel id newLabel =>
      cases hstep
      exact ⟨h.current, h.sent, h.taken⟩

/-- After a step all rounds are right exactly if they were before, and a batch that was applied was
covered. -/
theorem Inv.rounds_step (h : s.Inv units) {a : RoundStep} (hstep : s.step units a = some s') :
    (∀ round ∈ s'.rounds, round.Right units) ↔
      (∀ round ∈ s.rounds, round.Right units) ∧ s.AppliesCovered units a := by
  cases a with
  | mesh a =>
      obtain ⟨service, -, rfl⟩ := mesh_cases hstep
      exact (and_iff_left trivial).symm
  | update faults =>
      obtain ⟨item, hitem, ⟨ctx, hbatch, rfl⟩ | ⟨e, ctx, service, hbatch, -, rfl⟩⟩ :=
        process_cases hstep
      · have hcovered : s.AppliesCovered units (.update faults) ↔ s.Covered units := by
          constructor
          · intro happlies
            exact happlies item hitem (by rw [hbatch])
          · intro hcovered _ _ _
            exact hcovered
        simp only [List.forall_mem_append, List.forall_mem_singleton]
        rw [hcovered, h.right_iff hitem hbatch]
      · refine (and_iff_left fun item' hitem' hok => ?_).symm
        cases hitem.symm.trans hitem'
        rw [hbatch] at hok
        cases hok
  | relabel id newLabel =>
      cases hstep
      exact (and_iff_left trivial).symm

/-- The mesh service does in a run what it does on its own. -/
theorem run_service {ctx : Context} {l : List RoundStep}
    (h : Run (Partial (step units)) (init ctx : Rounds K M) l s) :
    ∃ l', Run (Partial (Service.step units)) Service.init l' s.service := by
  induction h with
  | nil => exact ⟨[], .nil _⟩
  | @snoc t s l a _ hstep ih =>
      obtain ⟨l', hrun⟩ := ih
      rcases service_of_step hstep with hsame | ⟨a', hservice⟩
      · exact ⟨l', hsame ▸ hrun⟩
      · exact ⟨l' ++ [a'], .snoc hrun hservice⟩

/-- **Rounds.** In every run, with every context to begin with: after every round whose batch was applied the
sensors that were ever put into `connected` are connected only if they were heard after its trigger and
unconnected if not, if and only if every batch is covered when it is applied. -/
theorem rounds_right_iff {units : Units} {ctx : Context} {l : List RoundStep}
    (h : Run (Partial (step units)) (init ctx : Rounds K M) l s) :
    (∀ round ∈ s.rounds, round.Right units) ↔
      Run (Guarded (Partial (step units)) (AppliesCovered units)) (init ctx : Rounds K M) l s := by
  apply h.iff_guarded_of_invariant (I := Inv units)
    (P := fun s : Rounds K M => ∀ round ∈ s.rounds, round.Right units)
  · intro s a s' hinv hstep
    exact hinv.step hstep
  · intro s a s' hinv hstep
    exact hinv.rounds_step hstep
  · exact .init ctx
  · intro round hround
    cases hround

/-! ## Runs -/

/-- A node is found and added. -/
def setUp : List RoundStep := (Service.attach ++ Service.provision ++ Service.configure).map .mesh

/-- A window is opened by run `g`. -/
def openRound (g : ℕ) : List RoundStep :=
  [.mesh .tick, .mesh .trigger, .mesh (.takeTrigger g), .mesh (.openWindow g)]

/-- The node answers, and its answer is sent to the stream. -/
def answer : List RoundStep := (Service.sensorValues 100 ++ [Label.queueSend]).map .mesh

/-- The batch of run `g` is sent and taken. -/
def closeRound (g : ℕ) : List RoundStep := [.mesh (.sendBatch g), .mesh .takeBatch]

/-- The node is heard in a window. -/
def heardRound : List RoundStep :=
  openRound 0 ++ [.mesh .callOk] ++ answer ++ [.mesh (.collect 0)] ++ closeRound 0

/-- Another device is found when no trigger is pending, and `add_node` fails: `LoopCtx::run` and its collection
task end, and it is started again. -/
def startAgain : List RoundStep :=
  [.mesh (.call (.scanResult 0 (List.replicate 16 9)) 100), .mesh .dbusSend, .mesh .event, .mesh .callErr,
    .mesh (.takeTrigger 0), .mesh .restart, .mesh .callOk, .mesh .request, .mesh .queueRequest,
    .mesh .queuePull]

/-- The UUID of the node. -/
def nodeUuid : Uuid := .fromBytes Service.deviceUuid

/-- An answer that comes after the window, and one window more, in which the node is silent. -/
def lateAnswer : List RoundStep :=
  setUp ++ openRound 0 ++ [.mesh .callOk, .mesh (.timeout 0)] ++ closeRound 0 ++ [.update .none] ++
    answer ++ openRound 0 ++ [.mesh .callOk, .mesh (.collect 0)] ++ closeRound 0 ++ [.update .none]

/-- A node that is heard, and a window of the next run of `LoopCtx::run`, which does not know it. -/
def afterRestart : List RoundStep :=
  setUp ++ heardRound ++ [.update .none] ++ startAgain ++ openRound 1 ++ [.mesh (.timeout 1)] ++
    closeRound 1 ++ [.update .none]

/-- A step that may apply a batch. -/
def applies : RoundStep → Bool
  | .update _ => true
  | _ => false

/-- The other steps meet the condition. -/
theorem run_of_not_applies {l : List RoundStep} (h : Run (Partial (step units)) s l s')
    (hl : ∀ a ∈ l, applies a = false) :
    Run (Guarded (Partial (step units)) (AppliesCovered units)) s l s' := by
  apply h.guarded_of_forall
  intro a ha s
  have ha := hl a ha
  cases a with
  | update faults => cases ha
  | _ => trivial

/-- A sensor that is connected after a round in which nothing arrived is not right. -/
theorem not_right_of_silent {round : Round} {addr : MeshAddr} {id : Uuid} {values : SensorValues}
    (hid : (addr, id) ∈ round.inserted) (harrived : round.arrived = [])
    (hstate : stateOf round.sensors id = some (.connected values)) : ¬ round.Right units := by
  intro hright
  obtain ⟨msg, hmsg, -⟩ := hright.connected addr id values hid hstate
  rw [harrived] at hmsg
  cases hmsg

/-- So a run goes wrong that leaves a sensor connected in such a round. -/
theorem exists_not_right_of_silent {store : Store} {l : List RoundStep} {addr : MeshAddr}
    (id : Uuid) (values : SensorValues)
    (h : ∃ (ctx : Context) (s : Rounds K M) (round : Round),
      Context.create store = .ok ctx ∧ Run (Partial (step units)) (init ctx) l s ∧
        s.rounds.getLast? = some round ∧ round.inserted = [(addr, id)] ∧ round.arrived = [] ∧
        stateOf round.sensors id = some (.connected values)) :
    ∃ (ctx : Context) (s : Rounds K M),
      Context.create store = .ok ctx ∧ Run (Partial (step units)) (init ctx) l s ∧
        ∃ round ∈ s.rounds, ¬ round.Right units := by
  obtain ⟨ctx, s, round, hcreate, hrun, hround, hinserted, harrived, hstate⟩ := h
  have hid : (addr, id) ∈ round.inserted := by
    rw [hinserted]
    exact List.mem_singleton.mpr rfl
  exact ⟨ctx, s, hcreate, hrun, round, List.mem_of_getLast? hround, not_right_of_silent hid harrived hstate⟩

set_option maxRecDepth 8000 in
/-- The theorem for a node that is heard in a window. -/
theorem rounds_right_iff_heard :
    ∃ (ctx : Context) (s : Rounds ℕ (DenseVec GenericFilter)),
      Context.create ⟨∅, ∅⟩ = .ok ctx ∧
        Run (Partial (step .total)) (init ctx) (setUp ++ heardRound ++ [.update .none]) s ∧
        s.rounds.length = 1 ∧ ∀ round ∈ s.rounds, round.Right .total := by
  have hrun : ∃ (ctx : Context) (s₀ s : Rounds ℕ (DenseVec GenericFilter)) (msg : GenericMessage)
      (values : SensorValues),
      Context.create ⟨∅, ∅⟩ = .ok ctx ∧
        Run (Partial (step .total)) (init ctx) (setUp ++ heardRound) s₀ ∧
        s₀.inserted = [(5, nodeUuid)] ∧ s₀.arrived.drop s₀.taken.triggered = [msg] ∧
        msg.sourceAddr = 5 ∧ sensorFilter.isMatch msg = true ∧
        convertMsgToValues .total msg = .ok values ∧ nodeUuid ∈ s₀.taken.window.connected.values ∧
        s₀.step .total (.update .none) = some s ∧ s.rounds.length = 1 :=
    ⟨_, _, _, _, _, rfl, run_partial_iff.mpr rfl, rfl, rfl, rfl, rfl, rfl, by decide +kernel, rfl, rfl⟩
  obtain ⟨ctx, s₀, s, msg, values, hcreate, hrun, hinserted, harrived, haddr, hmatch, hvalues, hnode,
    hstep, hlength⟩ := hrun
  have hid : ∀ addr id, (addr, id) ∈ s₀.inserted → id = nodeUuid := by
    intro addr id hmem
    rw [hinserted, List.mem_singleton] at hmem
    cases hmem
    rfl
  have hheard : Heard .total s₀.inserted (s₀.arrived.drop s₀.taken.triggered) nodeUuid := by
    rw [hinserted, harrived]
    exact ⟨msg, List.mem_singleton.mpr rfl, by rw [haddr]; exact List.mem_singleton.mpr rfl, hmatch,
      values, hvalues⟩
  have hcovered : s₀.Covered .total := by
    refine ⟨fun addr id hmem _ _ _ => ?_, fun addr id hmem hnot => ?_⟩
    · rw [hid addr id hmem]
      exact hheard
    · rw [hid addr id hmem] at hnot
      exact absurd hnode hnot
  have hguarded : Run (Guarded (Partial (step .total)) (AppliesCovered .total)) (init ctx)
      (setUp ++ heardRound ++ [.update .none]) s := by
    refine .snoc (run_of_not_applies hrun ?_) ⟨fun _ _ _ => hcovered, hstep⟩
    decide
  exact ⟨ctx, s, hcreate, hguarded.of_guarded, hlength,
    (rounds_right_iff hguarded.of_guarded).mpr hguarded⟩

set_option maxRecDepth 8000 in
/-- An answer that comes after the window is still in the channel when the next window is opened, in which
the node is silent; and a sensor that was connected stays so when `LoopCtx::run` was started again after
`add_node` failed. -/
theorem rounds_not_right :
    (∃ (ctx : Context) (s : Rounds ℕ (DenseVec GenericFilter)),
      Context.create ⟨∅, ∅⟩ = .ok ctx ∧
        Run (Partial (step .total)) (init ctx) lateAnswer s ∧
        ∃ round ∈ s.rounds, ¬ round.Right .total) ∧
    ∃ (ctx : Context) (s : Rounds ℕ (DenseVec GenericFilter)),
      Context.create ⟨∅, ∅⟩ = .ok ctx ∧
        Run (Partial (step .total)) (init ctx) afterRestart s ∧
        ∃ round ∈ s.rounds, ¬ round.Right .total := by
  constructor
  · apply exists_not_right_of_silent nodeUuid ⟨100, 21, 0, 50⟩
    exact ⟨_, _, _, rfl, run_partial_iff.mpr rfl, rfl, rfl, rfl, by decide +kernel⟩
  · apply exists_not_right_of_silent nodeUuid ⟨100, 21, 0, 50⟩
    exact ⟨_, _, _, rfl, run_partial_iff.mpr rfl, rfl, rfl, rfl, by decide +kernel⟩

end Rounds

end BleWsCentral.Mesh
