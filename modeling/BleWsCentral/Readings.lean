import BleWsCentral.Mesh.Origins
import BleWsCentral.Rounds
import BleWsCentral.Server.Batches

/-!
# Where readings come from

The whole way of a reading: a call over D-Bus brings in a message, the queue task hands it to the stream of a
run, the collection task takes it into a window, and `update` logs what the window is sent with.

* `Window.source` — the message behind a reading of a window; no two sensors have the same one.
* `Service.allSent` — the windows whose batches were sent, by all the runs of `LoopCtx::run`.
* `Rounds.Applies` — what the logs and the sensors in memory hold are the readings of windows that were sent,
  each of which is applied at most once.
* `readings_received` — so every reading that was logged has a message of its own behind it, which a call
  brought in, from an address that a call reported for its sensor.
-/

set_option linter.unusedSectionVars false

namespace BleWsCentral.Mesh

open BleWsCentral.Found BleWsCentral.Server

/-! ## The message behind a reading -/

namespace Window

variable {units : Units} {self : Window} {id : Uuid} {msg : GenericMessage}

/-- The last valid message of a sensor. -/
def source (units : Units) (self : Window) (id : Uuid) : Option GenericMessage :=
  (self.msgs.filter fun msg => (readingOf units self.connected id msg).isSome).getLast?

/-- The last valid reading is the one of this message. -/
theorem lastReading_eq (id : Uuid) :
    self.lastReading units id = (self.source units id).bind (readingOf units self.connected id) := by
  have hlast : ∀ msgs : List GenericMessage,
      (msgs.filterMap (readingOf units self.connected id)).getLast? =
        ((msgs.filter fun msg => (readingOf units self.connected id msg).isSome).getLast?).bind
          (readingOf units self.connected id) := by
    intro msgs
    induction msgs using List.reverseRecOn with
    | nil => rfl
    | append_singleton msgs msg ih =>
        cases hreading : readingOf units self.connected id msg with
        | none => simpa [hreading] using ih
        | some values => simp [hreading]
  exact hlast self.msgs

/-- It is a message of the window, from a node of the sensor, and holds its reading. -/
theorem of_source (h : self.source units id = some msg) :
    msg ∈ self.msgs ∧ self.connected[msg.sourceAddr]? = some id ∧
      ∃ values, convertMsgToValues units msg = .ok values ∧ self.lastReading units id = some values := by
  obtain ⟨hmem, hreading⟩ := List.mem_filter.mp (List.mem_of_getLast? h)
  obtain ⟨values, hvalues⟩ := Option.isSome_iff_exists.mp hreading
  have hlast : self.lastReading units id = some values := by
    rw [lastReading_eq, h, Option.bind_some, hvalues]
  unfold readingOf at hvalues
  split at hvalues
  · rename_i hid
    cases hconvert : convertMsgToValues units msg with
    | error e =>
        rw [hconvert] at hvalues
        cases hvalues
    | ok values' =>
        rw [hconvert] at hvalues
        cases hvalues
        exact ⟨hmem, hid, values, rfl, hlast⟩
  · cases hvalues

/-- A sensor with a reading has such a message. -/
theorem exists_source {values : SensorValues} (h : self.lastReading units id = some values) :
    ∃ msg, self.source units id = some msg ∧ convertMsgToValues units msg = .ok values := by
  cases hsource : self.source units id with
  | none =>
      rw [lastReading_eq, hsource] at h
      cases h
  | some msg =>
      obtain ⟨-, -, values', hvalues, hlast⟩ := of_source hsource
      cases hlast.symm.trans h
      exact ⟨msg, rfl, hvalues⟩

/-- No two sensors have the same one. -/
theorem sum_source_le (ids : Finset Uuid) : ∑ id ∈ ids, held (self.source units id) ≤ self.msgs := by
  have hapart : ∀ (msg : GenericMessage) (id id' : Uuid),
      (readingOf units self.connected id msg).isSome = true →
        (readingOf units self.connected id' msg).isSome = true → id = id' := by
    have hid : ∀ (msg : GenericMessage) (id : Uuid),
        (readingOf units self.connected id msg).isSome = true →
          self.connected[msg.sourceAddr]? = some id := by
      intro msg id h
      unfold readingOf at h
      split at h
      · assumption
      · cases h
    intro msg id id' h h'
    exact Option.some.inj ((hid msg id h).symm.trans (hid msg id' h'))
  refine (Finset.sum_le_sum fun id _ => held_getLast?_le _).trans ?_
  exact sum_filter_le ids (fun id msg => (readingOf units self.connected id msg).isSome) self.msgs hapart

end Window

/-! ## The windows that were sent -/

namespace Service

variable {K M : Type} [DecidableEq K] [DenseSlotMap K GenericFilter M] {units : Units}
  {s s' : Service K M} {a : Label}

/-- The collection tasks that were not started yet have done nothing. -/
def Idle (s : Service K M) : Prop :=
  ∀ g, s.loopCtx.streams ≤ g → (s.collections g).pc = .gone ∧ (s.collections g).sent = []

/-- The windows whose batches were sent. -/
def allSent (s : Service K M) : Multiset Window :=
  ∑ g ∈ Finset.range s.loopCtx.streams, ((s.collections g).sent : Multiset Window)

/-- `LoopCtx::run` leaves the collection tasks alone, or starts the next one. -/
theorem tasks_of_loop (h : s.step units a = some s') (ha : a.party = .loop) :
    (s'.loopCtx.streams = s.loopCtx.streams ∧
      ∀ g, (s'.collections g).pc = (s.collections g).pc ∧
        (s'.collections g).sent = (s.collections g).sent) ∨
    (s'.loopCtx.streams = s.loopCtx.streams + 1 ∧
      (s'.collections s.loopCtx.streams).sent = [] ∧
      ∀ g, g ≠ s.loopCtx.streams → s'.collections g = s.collections g) := by
  have hset : ∀ c : Collection, c.pc = s.collection.pc → c.sent = s.collection.sent → ∀ g,
      (Function.update s.collections s.loopCtx.run c g).pc = (s.collections g).pc ∧
        (Function.update s.collections s.loopCtx.run c g).sent = (s.collections g).sent := by
    intro c hpc hsent g
    by_cases hg : g = s.loopCtx.run
    · subst hg
      rw [Function.update_self]
      exact ⟨hpc, hsent⟩
    · rw [Function.update_of_ne hg]
      exact ⟨rfl, rfl⟩
  cases loop_cases h ha with
  | failed _ | requestPanicked _ _ | subscribePanicked _ | replyPanicked _ _ _ | triggerPanicked _
  | triggered _ _ | inserted _ _ => exact .inl ⟨rfl, hset _ rfl rfl⟩
  | subscribed _ _ =>
      refine .inr ⟨rfl, ?_, fun g hg => Function.update_of_ne hg _ _⟩
      simp only [Function.update_self]
  | _ => exact .inl ⟨rfl, fun _ => ⟨rfl, rfl⟩⟩

/-- A collection task that takes a step has not ended. -/
theorem runs_of_collection (h : s.step units a = some s') {g : ℕ} (ha : a.collectionOf = some g) :
    (s.collections g).pc ≠ .gone := by
  intro hgone
  cases collection_cases h (Label.party_of_collectionOf ha)
  case triggered hpc _ => cases ha; cases hgone.symm.trans hpc
  case ended hpc => cases ha; cases hgone.symm.trans hpc
  case opened hpc _ => cases ha; cases hgone.symm.trans hpc
  case panicked hpc _ _ => cases ha; cases hgone.symm.trans hpc
  case waits hpc _ _ => cases ha; cases hgone.symm.trans hpc
  case completed hpc _ _ => cases ha; cases hgone.symm.trans hpc
  case timedOut hpc => cases ha; cases hgone.symm.trans hpc
  case sent hpc _ _ => cases ha; cases hgone.symm.trans hpc
  case refused hpc _ => cases ha; cases hgone.symm.trans hpc

/-- A collection task sends its window, or leaves what was sent alone. -/
theorem sent_of_collection (h : s.step units a = some s') {g : ℕ} (ha : a.collectionOf = some g) :
    (∃ window, s.sends a = some (g, window) ∧
      (s'.collections g).sent = (s.collections g).sent ++ [window]) ∨
    (s.sends a = none ∧ (s'.collections g).sent = (s.collections g).sent) := by
  cases collection_cases h (Label.party_of_collectionOf ha) with
  | @sent g' window hpc hruns _ =>
      cases ha
      refine .inl ⟨window, ?_, ?_⟩
      · simp only [sends, hpc, if_pos hruns]
      · simp [setCollection]
  | refused g' hpc hruns =>
      cases ha
      refine .inr ⟨?_, ?_⟩
      · simp [sends, hpc, hruns]
      · simp [stopCollection, setCollectionPc, setCollection]
  | triggered g' _ _ | ended g' _ | opened g' _ _ | panicked g' _ _ _ | waits g' _ _ _
  | completed g' _ _ _ | timedOut g' _ =>
      cases ha
      refine .inr ⟨rfl, ?_⟩
      simp [stopCollection, setCollectionPc, setCollection]

theorem Idle.init : (Service.init : Service K M).Idle := fun _ _ => ⟨rfl, rfl⟩

/-- Only tasks that were started do something. -/
theorem Idle.step (h : s.Idle) (hstep : s.step units a = some s') : s'.Idle := by
  cases ha : a.party with
  | dbus =>
      rw [frame_dbus hstep ha]
      exact h
  | queue =>
      rw [frame_queue hstep ha]
      exact h
  | loop =>
      intro g hg
      rcases tasks_of_loop hstep ha with ⟨hstreams, hsame⟩ | ⟨hstreams, -, hsame⟩
      · rw [(hsame g).1, (hsame g).2]
        exact h g (hstreams ▸ hg)
      · rw [hsame g (by omega)]
        exact h g (by omega)
  | collection =>
      obtain ⟨g', hg'⟩ := Label.exists_collectionOf ha
      obtain ⟨⟨c, hcollections⟩, -⟩ := frame_collectionOf hstep hg'
      intro g hg
      rw [frame_collection hstep ha] at hg
      have hne : g ≠ g' := by
        rintro rfl
        exact runs_of_collection hstep hg' (h g hg).1
      rw [hcollections, Function.update_of_ne hne]
      exact h g hg
  | update =>
      rw [frame_update hstep ha]
      exact h

/-- A step adds the window that it sends to those that were sent. -/
theorem allSent_of_step (hidle : s.Idle) (h : s.step units a = some s') :
    s'.allSent = s.allSent + held ((s.sends a).map Prod.snd) := by
  have hnone : a.party ≠ .collection → held ((s.sends a).map Prod.snd) = 0 := by
    intro ha
    cases a <;> first | rfl | exact absurd rfl ha
  cases ha : a.party with
  | dbus =>
      rw [hnone (by simp [ha]), frame_dbus h ha]
      exact (add_zero _).symm
  | queue =>
      rw [hnone (by simp [ha]), frame_queue h ha]
      exact (add_zero _).symm
  | update =>
      rw [hnone (by simp [ha]), frame_update h ha]
      exact (add_zero _).symm
  | loop =>
      rw [hnone (by simp [ha]), add_zero, allSent, allSent]
      rcases tasks_of_loop h ha with ⟨hstreams, hsame⟩ | ⟨hstreams, hnew, hsame⟩
      · rw [hstreams]
        exact Finset.sum_congr rfl fun g _ => by rw [(hsame g).2]
      · rw [hstreams, Finset.sum_range_succ, hnew, Multiset.coe_nil, add_zero]
        refine Finset.sum_congr rfl fun g hg => ?_
        rw [hsame g (Finset.mem_range.mp hg).ne]
  | collection =>
      obtain ⟨g, hg⟩ := Label.exists_collectionOf ha
      obtain ⟨⟨c, hcollections⟩, -⟩ := frame_collectionOf h hg
      have hstreams : s'.loopCtx.streams = s.loopCtx.streams := by rw [frame_collection h ha]
      have hlt : g ∈ Finset.range s.loopCtx.streams := by
        rw [Finset.mem_range]
        by_contra hge
        exact runs_of_collection h hg (hidle g (not_lt.mp hge)).1
      have hother : ∀ g', g' ≠ g → (s'.collections g').sent = (s.collections g').sent := by
        intro g' hg'
        rw [hcollections, Function.update_of_ne hg']
      rw [allSent, allSent, hstreams]
      rcases sent_of_collection h hg with ⟨window, hsends, hsent⟩ | ⟨hsends, hsent⟩
      · have hupdate : ∀ g', (s'.collections g').sent =
            Function.update (fun g => (s.collections g).sent) g ((s.collections g).sent ++ [window]) g' := by
          intro g'
          by_cases hg' : g' = g
          · subst hg'
            rw [Function.update_self, hsent]
          · rw [Function.update_of_ne hg', hother g' hg']
        simp only [hupdate]
        rw [sum_concat_at, if_pos hlt, hsends]
        rfl
      · rw [hsends, Option.map_none, held_none, add_zero]
        refine Finset.sum_congr rfl fun g' _ => ?_
        by_cases hg' : g' = g
        · rw [hg', hsent]
        · rw [hother g' hg']

/-- The messages of the windows that were sent came in, and no two of them are one. -/
theorem sum_allSent_le {l : List Label} (h : Run (Partial (step units)) (init : Service K M) l s) :
    (s.allSent.map fun window => (window.msgs : Multiset GenericMessage)).sum ≤ income Label.incoming l := by
  have hwindows := (h.invariant (I := fun s : Service K M => s.Wf ∧ s.Windows units)
    (fun s a t hs hstep => ⟨hs.1.step hstep, hs.2.step hs.1 hstep⟩) ⟨Wf.init, Windows.init⟩).2
  have hrun : ∀ g, (((s.collections g).sent : Multiset Window).map fun window =>
      (window.msgs : Multiset GenericMessage)).sum ≤ (s.channels.handed (streamId g) : Multiset GenericMessage) := by
    intro g
    have hprefix : (s.collections g).sent.flatMap Window.msgs <+: s.channels.handed (streamId g) := by
      refine List.IsPrefix.trans ?_ (hwindows.msgs g)
      rw [Collection.msgs, Collection.windows, List.flatMap_append]
      exact List.prefix_append _ _
    refine le_trans (le_of_eq ?_) (Multiset.coe_le.mpr hprefix.sublist.subperm)
    induction (s.collections g).sent with
    | nil => rfl
    | cons window sent ih =>
        rw [← Multiset.cons_coe, Multiset.map_cons, Multiset.sum_cons, ih, List.flatMap_cons,
          Multiset.coe_add]
  calc (s.allSent.map fun window => (window.msgs : Multiset GenericMessage)).sum
      = ∑ g ∈ Finset.range s.loopCtx.streams, (((s.collections g).sent : Multiset Window).map
          fun window => (window.msgs : Multiset GenericMessage)).sum := sum_map_sum _ _ _
    _ ≤ ∑ g ∈ Finset.range s.loopCtx.streams,
          (s.channels.handed (streamId g) : Multiset GenericMessage) :=
        Finset.sum_le_sum fun g _ => hrun g
    _ = ∑ c ∈ (Finset.range s.loopCtx.streams).image streamId,
          (s.channels.handed c : Multiset GenericMessage) :=
        (Finset.sum_image (f := fun c => (s.channels.handed c : Multiset GenericMessage))
          streamId_injective.injOn).symm
    _ ≤ s.stock ((Finset.range s.loopCtx.streams).image streamId) := Multiset.le_add_left _ _
    _ ≤ income Label.incoming l := (conserved h _).1

end Service

/-! ## What was applied -/

/-- The step of the mesh service. -/
def RoundStep.label : RoundStep → Option Label
  | .mesh a => some a
  | _ => none

/-- The steps of the mesh service in a run. -/
def meshLabels (l : List RoundStep) : List Label := l.filterMap RoundStep.label

namespace Rounds

variable {K M : Type} [DecidableEq K] [DenseSlotMap K GenericFilter M] {units : Units}
  {s s' : Rounds K M} {ctx : Context}

/-- The window whose batch `update` works on. -/
def working (s : Rounds K M) : Option Window := s.update.map fun _ => s.taken.window

/-- The window whose batch lies in the channel. -/
def waiting (s : Rounds K M) : Option Window := s.service.batches.map fun _ => s.sent.window

/-- The windows `applied` were sent, and no others are in the logs and in memory. -/
structure Applies (units : Units) (ctx : Context) (s : Rounds K M) (applied : List Window) : Prop where
  windows : applied + held s.working + held s.waiting ≤ s.service.allSent
  sensorLog : s.ctx.db.sensorLog = ctx.db.sensorLog
  logged : ∀ id, s.ctx.db.logged id = ctx.db.logged id ++
    if id ∈ ctx.db.sensorLog then applied.filterMap fun window => window.lastReading units id else []
  shown : ∀ id values, stateOf s.ctx.sensors id = some (.connected values) →
    stateOf ctx.sensors id = some (.connected values) ∨
      ∃ window ∈ applied, window.lastReading units id = some values
  known : ∀ id : Uuid, (s.ctx.db.env.store.addr[id]?).isSome = true →
    (ctx.db.env.store.addr[id]?).isSome = true ∨
      ∃ window ∈ s.service.allSent, id ∈ window.connected.values

theorem Applies.init (ctx : Context) : (Rounds.init ctx : Rounds K M).Applies units ctx [] where
  windows := by simp [working, waiting, Rounds.init, Service.init]
  sensorLog := rfl
  logged id := by simp [Rounds.init]
  shown id values h := .inl h
  known id h := .inl h

/-- What lies in the channel was there before, or is sent. -/
theorem waiting_note {a : Label} {service : Service K M} (hstep : s.service.step units a = some service) :
    held (s.note a service).waiting ≤ held s.waiting + held ((s.service.sends a).map Prod.snd) := by
  cases hbatches : service.batches with
  | none =>
      have hnone : (s.note a service).waiting = none := by
        rw [waiting, note, hbatches]
        rfl
      rw [hnone, held_none]
      exact Multiset.zero_le _
  | some item =>
      have hwaiting : (s.note a service).waiting = some (s.noteSent a).window := by
        rw [waiting, note, hbatches]
        rfl
      rcases Service.batches_of_step hstep hbatches with ⟨g, window, hsends, -, -⟩ | ⟨hsends, hbefore⟩
      · rw [hwaiting, noteSent, hsends]
        exact Multiset.le_add_left _ _
      · rw [hwaiting, noteSent, hsends, waiting, hbefore]
        exact Multiset.le_add_right _ _

/-- What `update` works on and what lies in the channel was there before, or is sent. -/
theorem working_note {a : Label} {service : Service K M} (hstep : s.service.step units a = some service) :
    held (s.note a service).working + held (s.note a service).waiting ≤
      held s.working + held s.waiting + held ((s.service.sends a).map Prod.snd) := by
  have hwaiting := waiting_note hstep
  have hsame : (s.note a service).working = s.working → held (s.note a service).working +
      held (s.note a service).waiting ≤
        held s.working + held s.waiting + held ((s.service.sends a).map Prod.snd) := by
    intro hworking
    rw [hworking, add_assoc]
    exact add_le_add_right hwaiting _
  cases a with
  | takeBatch =>
      -- the batch goes from the channel to `update`
      simp only [Service.step, Service.takeBatch] at hstep
      split at hstep <;> cases hstep
      have htaken : (s.note .takeBatch { s.service with batches := none }).working = s.waiting := rfl
      have hempty : (s.note .takeBatch { s.service with batches := none }).waiting = none := rfl
      rw [htaken, hempty, held_none, add_zero]
      exact (Multiset.le_add_left _ _).trans (Multiset.le_add_right _ _)
  | updateEnds =>
      have hnone : (s.note .updateEnds service).working = none := rfl
      rw [hnone, held_none, zero_add]
      refine hwaiting.trans ?_
      rw [add_assoc]
      exact Multiset.le_add_left _ _
  | _ => exact hsame rfl

/-- The mesh service takes a step: a window may be sent, a batch taken, or all of them lost. -/
theorem Applies.mesh {applied : List Window} (h : s.Applies units ctx applied) (hidle : s.service.Idle)
    {a : Label} {service : Service K M} (hstep : s.service.step units a = some service) :
    (s.note a service).Applies units ctx applied := by
  have hsent := Service.allSent_of_step hidle hstep
  refine ⟨?_, h.sensorLog, h.logged, h.shown, fun id hid => ?_⟩
  · calc (applied + held (s.note a service).working + held (s.note a service).waiting : Multiset Window)
        = applied + (held (s.note a service).working + held (s.note a service).waiting) := add_assoc _ _ _
      _ ≤ applied + (held s.working + held s.waiting + held ((s.service.sends a).map Prod.snd)) :=
          add_le_add_right (working_note hstep) _
      _ = applied + held s.working + held s.waiting + held ((s.service.sends a).map Prod.snd) := by
          rw [← add_assoc, ← add_assoc]
      _ ≤ s.service.allSent + held ((s.service.sends a).map Prod.snd) := add_le_add_left h.windows _
      _ = (s.note a service).service.allSent := hsent.symm
  · refine (h.known id hid).imp_right fun ⟨window, hmem, hvalues⟩ => ⟨window, ?_, hvalues⟩
    rw [note, hsent]
    exact Multiset.mem_add.mpr (.inl hmem)

/-- A batch is the readings and the silence of the nodes of its window. -/
theorem reading_finish {window : Window} (h : window.Faithful units) (id : Uuid) :
    reading window.finish id = window.lastReading units id := by
  apply Option.ext
  intro values
  rw [reading_eq_some, h.sound.finish]

theorem mem_finish {window : Window} (h : window.Faithful units) {id : Uuid} (hid : id ∈ window.finish) :
    id ∈ window.connected.values := by
  by_contra hnot
  rw [Std.ExtTreeMap.mem_iff_isSome_getElem?, (h.unheard.finish h.sound id).mpr hnot] at hid
  cases hid

/-- `update` processes its batch. -/
theorem Applies.update {applied : List Window} (h : s.Applies units ctx applied) {item : UpdateItem}
    (hitem : s.update = some item) (hfinish : item = s.taken.window.finish)
    (hfaithful : s.taken.window.Faithful units) {faults : Faults} {ctx' : Context} {rounds : List Round}
    (hbatch : updateBatch faults s.ctx item = (.ok (), ctx')) :
    { s with ctx := ctx', update := none, rounds }.Applies units ctx (applied ++ [s.taken.window]) := by
  subst hfinish
  have hworking : s.working = some s.taken.window := by
    rw [working, hitem]
    rfl
  have hwindows := h.windows
  rw [hworking, held_some] at hwindows
  obtain ⟨hset, hlogged⟩ := logged_of_updateBatch hbatch
  have hreading := reading_finish hfaithful
  refine ⟨?_, hset.trans h.sensorLog, fun id => ?_, fun id values hshown => ?_, fun id hid => ?_⟩
  · have hnone : Rounds.working { s with ctx := ctx', update := none, rounds } = none := rfl
    rw [hnone, held_none, add_zero, coe_concat]
    exact hwindows
  · rw [hlogged, h.logged, h.sensorLog, hreading]
    split
    · cases hlast : s.taken.window.lastReading units id <;>
        simp [hlast, List.filterMap_append]
    · rw [List.append_nil]
  · have hshown : stateOf ctx'.sensors id = some (.connected values) := hshown
    rw [stateOf_updateBatch hbatch] at hshown
    cases hstate : s.taken.window.finish[id]? with
    | none =>
        rw [hstate, Option.none_or] at hshown
        refine (h.shown id values hshown).imp_right fun ⟨window, hmem, hlast⟩ => ?_
        exact ⟨window, List.mem_append_left _ hmem, hlast⟩
    | some state =>
        rw [hstate] at hshown
        cases hshown
        refine .inr ⟨s.taken.window, List.mem_append_right _ (List.mem_singleton.mpr rfl), ?_⟩
        exact (hfaithful.sound.finish id values).mp hstate
  · rcases (known_of_updateBatch hbatch id).mp hid with hbefore | hmem
    · exact h.known id hbefore
    · refine .inr ⟨s.taken.window, ?_, mem_finish hfaithful hmem⟩
      refine Multiset.mem_of_le (le_trans ?_ hwindows) (Multiset.mem_singleton_self _)
      exact (Multiset.le_add_left _ _).trans (Multiset.le_add_right _ _)

/-- `update` ends with an error. -/
theorem Applies.fail {applied : List Window} (h : s.Applies units ctx applied) {item : UpdateItem}
    (hitem : s.update = some item) (hfinish : item = s.taken.window.finish)
    (hfaithful : s.taken.window.Faithful units) {faults : Faults} {ctx' : Context} {e : DbError}
    {service : Service K M} (hbatch : updateBatch faults s.ctx item = (.error e, ctx'))
    (hends : s.service.step units .updateEnds = some service) :
    { s with service, ctx := ctx', update := none }.Applies units ctx applied := by
  subst hfinish
  obtain ⟨hsensors, hset, hlogged, hknown⟩ := of_updateBatch_error hbatch
  cases hends
  refine ⟨?_, hset.trans h.sensorLog, fun id => (hlogged id).trans (h.logged id),
    fun id values hshown => h.shown id values (hsensors ▸ hshown), fun id hid => ?_⟩
  · refine le_trans ?_ h.windows
    simp only [working, waiting, Option.map_none, held_none, add_zero]
    exact (Multiset.le_add_right _ _).trans (Multiset.le_add_right _ _)
  · rcases hknown id hid with hbefore | hmem
    · exact h.known id hbefore
    · refine .inr ⟨s.taken.window, ?_, mem_finish hfaithful hmem⟩
      have hwindows := h.windows
      have hworking : s.working = some s.taken.window := by
        rw [working, hitem]
        rfl
      rw [hworking, held_some] at hwindows
      refine Multiset.mem_of_le (le_trans ?_ hwindows) (Multiset.mem_singleton_self _)
      exact (Multiset.le_add_left _ _).trans (Multiset.le_add_right _ _)

theorem stateOf_relabel (sensors : Sensors) (id id' : Uuid) (newLabel : Option String) :
    stateOf (Context.relabel id newLabel sensors) id' = stateOf sensors id' := by
  rw [stateOf, Context.getElem?_relabel, stateOf]
  split
  · rw [Option.map_map]
    rfl
  · rfl

/-- A change of a label leaves the readings alone. -/
theorem Applies.relabel {applied : List Window} (h : s.Applies units ctx applied) (id : Uuid)
    (newLabel : Option String) :
    { s with ctx := s.ctx.changeLabelModify id newLabel }.Applies units ctx applied := by
  refine ⟨h.windows, h.sensorLog, h.logged, fun id' values hshown => h.shown id' values ?_, h.known⟩
  rw [← stateOf_relabel]
  exact hshown

/-- In every run, the logs and the sensors in memory hold the readings of windows that were sent. -/
theorem Applies.run {l : List RoundStep}
    (h : Run (Partial (Rounds.step units)) (Rounds.init ctx : Rounds K M) l s) :
    ∃ applied, s.Applies units ctx applied := by
  have hinv := h.invariant
    (I := fun s : Rounds K M => s.Inv units ∧ s.service.Idle ∧ ∃ applied, s.Applies units ctx applied)
    (fun s a t ⟨hinv, hidle, applied, happlies⟩ hstep => ?_) ⟨.init ctx, .init, [], .init ctx⟩
  · exact hinv.2.2
  · refine ⟨hinv.step hstep, ?_, ?_⟩
    · rcases service_of_step hstep with hsame | ⟨a', hservice⟩
      · rw [hsame]
        exact hidle
      · exact hidle.step hservice
    · cases a with
      | mesh a =>
          obtain ⟨service, hservice, rfl⟩ := mesh_cases hstep
          exact ⟨applied, happlies.mesh hidle hservice⟩
      | update faults =>
          obtain ⟨item, hitem, ⟨ctx', hbatch, rfl⟩ | ⟨e, ctx', service, hbatch, hends, rfl⟩⟩ :=
            process_cases hstep
          · obtain ⟨hfinish, hfaithful⟩ := hinv.taken item hitem
            exact ⟨applied ++ [s.taken.window], happlies.update hitem hfinish hfaithful hbatch⟩
          · obtain ⟨hfinish, hfaithful⟩ := hinv.taken item hitem
            exact ⟨applied, happlies.fail hitem hfinish hfaithful hbatch hends⟩
      | relabel id newLabel =>
          cases hstep
          exact ⟨applied, happlies.relabel id newLabel⟩

/-- The calls that the mesh service gets are those of the run. -/
theorem calls_of_run {l : List RoundStep} (h : Run (Partial (step units)) (init ctx : Rounds K M) l s) :
    ∃ l', Run (Partial (Service.step units)) Service.init l' s.service ∧
      (∀ call now, Label.call call now ∈ l' → Label.call call now ∈ meshLabels l) ∧
      income Label.incoming l' = income Label.incoming (meshLabels l) := by
  induction h with
  | nil => exact ⟨[], .nil _, fun _ _ h => h, rfl⟩
  | @snoc t s l a _ hstep ih =>
      obtain ⟨l', hrun, hcalls, hincome⟩ := ih
      have hlabels : meshLabels (l ++ [a]) = meshLabels l ++ a.label.toList := by
        rw [meshLabels, List.filterMap_append, meshLabels]
        cases a <;> rfl
      rw [hlabels]
      cases a with
      | mesh a =>
          obtain ⟨service, hservice, rfl⟩ := mesh_cases hstep
          refine ⟨l' ++ [a], .snoc hrun hservice, fun call now hmem => ?_, ?_⟩
          · rcases List.mem_append.mp hmem with hmem | hmem
            · exact List.mem_append_left _ (hcalls call now hmem)
            · exact List.mem_append_right _ hmem
          · rw [income_append, hincome, income_append]
            rfl
      | update faults =>
          obtain ⟨item, -, ⟨ctx', -, rfl⟩ | ⟨e, ctx', service, -, hends, rfl⟩⟩ := process_cases hstep
          · refine ⟨l', hrun, fun call now hmem => ?_, ?_⟩
            · exact List.mem_append_left _ (hcalls call now hmem)
            · rw [hincome, income_append]
              exact (add_zero _).symm
          · have hlast : Partial (Service.step units) t.service .updateEnds service := hends
            refine ⟨l' ++ [.updateEnds], .snoc hrun hlast, fun call now hmem => ?_, ?_⟩
            · rcases List.mem_append.mp hmem with hmem | hmem
              · exact List.mem_append_left _ (hcalls call now hmem)
              · cases List.mem_singleton.mp hmem
            · rw [income_append, hincome, income_append]
              rfl
      | relabel id newLabel =>
          cases hstep
          refine ⟨l', hrun, fun call now hmem => ?_, ?_⟩
          · exact List.mem_append_left _ (hcalls call now hmem)
          · rw [hincome, income_append]
            exact (add_zero _).symm

end Rounds

/-! ## Readings -/

/-- The message holds the reading, and comes from an address that was reported for the sensor. -/
def Measured (units : Units) (l : List Label) (id : Uuid) (values : SensorValues) (msg : GenericMessage) :
    Prop :=
  convertMsgToValues units msg = .ok values ∧ Service.Added l ⟨id, msg.sourceAddr⟩

/-- The messages behind the readings of some windows are no more than the messages of the windows. -/
theorem sum_sources_le (units : Units) (ids : Finset Uuid) (windows : List Window) :
    ∑ id ∈ ids, (windows.filterMap fun window => window.source units id : Multiset GenericMessage) ≤
      ((windows : Multiset Window).map fun window => (window.msgs : Multiset GenericMessage)).sum := by
  induction windows with
  | nil => simp
  | cons window windows ih =>
      have hhead : ∀ id, (((window :: windows).filterMap fun window => window.source units id :
          List GenericMessage) : Multiset GenericMessage) = held (window.source units id) +
            (windows.filterMap fun window => window.source units id : List GenericMessage) := by
        intro id
        cases hsource : window.source units id with
        | none => simp [hsource]
        | some msg => simp [hsource]
      simp only [hhead]
      rw [Finset.sum_add_distrib, ← Multiset.cons_coe, Multiset.map_cons, Multiset.sum_cons]
      exact add_le_add (Window.sum_source_le ids) ih

/-- The readings of windows with nodes that were reported are measured. -/
theorem measured_of_windows {units : Units} {l : List Label} {id : Uuid} {windows : List Window}
    (h : ∀ window ∈ windows, Service.AllAdded l window.connected) :
    List.Forall₂ (Measured units l id) (windows.filterMap fun window => window.lastReading units id)
      (windows.filterMap fun window => window.source units id) := by
  induction windows with
  | nil => exact .nil
  | cons window windows ih =>
      have ih := ih fun window hmem => h window (List.mem_cons_of_mem _ hmem)
      cases hsource : window.source units id with
      | none =>
          have hlast : window.lastReading units id = none := by
            rw [Window.lastReading_eq, hsource]
            rfl
          simp only [List.filterMap_cons, hlast, hsource]
          exact ih
      | some msg =>
          obtain ⟨-, hid, values, hvalues, hlast⟩ := Window.of_source hsource
          simp only [List.filterMap_cons, hlast, hsource]
          exact .cons ⟨hvalues, h window List.mem_cons_self _ _ hid⟩ ih

variable {K M : Type} [DecidableEq K] [DenseSlotMap K GenericFilter M]

/-- **Where readings come from.** In every run, with every context to begin with: what was added to the log of
a sensor has one message behind each reading, which holds the reading and comes from an address that a call
reported for the sensor. The messages behind all the readings of all sensors are among those that calls brought
in, each counted once. A sensor that is shown as connected was so at the start, or there is such a message for
it; and a sensor that is known was known at the start, or a call reported it. -/
theorem readings_received {units : Units} {ctx : Context} {l : List RoundStep} {s : Rounds K M}
    (h : Run (Partial (Rounds.step units)) (Rounds.init ctx) l s) :
    ∃ sources : Uuid → List GenericMessage,
      (∀ id, ∃ added, s.ctx.db.logged id = ctx.db.logged id ++ added ∧
        List.Forall₂ (Measured units (meshLabels l) id) added (sources id)) ∧
      (∀ ids : Finset Uuid, ∑ id ∈ ids, (sources id : Multiset GenericMessage) ≤
        income Label.incoming (meshLabels l)) ∧
      (∀ id values, stateOf s.ctx.sensors id = some (.connected values) →
        stateOf ctx.sensors id = some (.connected values) ∨
          ∃ msg ∈ income Label.incoming (meshLabels l), Measured units (meshLabels l) id values msg) ∧
      ∀ id : Uuid, (s.ctx.db.env.store.addr[id]?).isSome = true →
        (ctx.db.env.store.addr[id]?).isSome = true ∨ ∃ addr, Service.Added (meshLabels l) ⟨id, addr⟩ := by
  obtain ⟨applied, happlies⟩ := Rounds.Applies.run h
  obtain ⟨l', hrun, hcalls, hincome⟩ := Rounds.calls_of_run h
  have hregistered := Service.Registered.run hrun
  have hsent : ∀ window ∈ s.service.allSent, Service.AllAdded (meshLabels l) window.connected := by
    intro window hmem addr id hid
    obtain ⟨g, -, hg⟩ := Multiset.mem_sum.mp hmem
    obtain ⟨uuid, addr', count, now, hcall, hevent⟩ :=
      hregistered.window g window (List.mem_append_left _ hg) addr id hid
    exact ⟨uuid, addr', count, now, hcalls _ _ hcall, hevent⟩
  have hle : (applied : Multiset Window) ≤ s.service.allSent :=
    le_trans ((Multiset.le_add_right _ _).trans (Multiset.le_add_right _ _)) happlies.windows
  have happlied : ∀ window ∈ applied, Service.AllAdded (meshLabels l) window.connected :=
    fun window hmem => hsent window (Multiset.mem_of_le hle hmem)
  have hmsgs : ((applied : Multiset Window).map fun window => (window.msgs : Multiset GenericMessage)).sum ≤
      income Label.incoming (meshLabels l) := by
    rw [← hincome]
    refine le_trans ?_ (Service.sum_allSent_le hrun)
    obtain ⟨rest, hrest⟩ := Multiset.le_iff_exists_add.mp hle
    rw [hrest, Multiset.map_add, Multiset.sum_add]
    exact Multiset.le_add_right _ _
  let sources : Uuid → List GenericMessage := fun id =>
    if id ∈ ctx.db.sensorLog then applied.filterMap fun window => window.source units id else []
  have hsources : ∀ id, (sources id : Multiset GenericMessage) ≤
      (applied.filterMap fun window => window.source units id : List GenericMessage) := by
    intro id
    simp only [sources]
    split
    · exact le_refl _
    · exact Multiset.zero_le _
  refine ⟨sources, fun id => ⟨_, happlies.logged id, ?_⟩, fun ids => ?_, fun id values hshown => ?_,
    fun id hid => ?_⟩
  · simp only [sources]
    split
    · exact measured_of_windows happlied
    · exact .nil
  · exact (Finset.sum_le_sum fun id _ => hsources id).trans
      ((sum_sources_le units ids applied).trans hmsgs)
  · refine (happlies.shown id values hshown).imp_right fun ⟨window, hmem, hlast⟩ => ?_
    obtain ⟨msg, hsource, hvalues⟩ := Window.exists_source hlast
    obtain ⟨hmsg, haddr, -⟩ := Window.of_source hsource
    refine ⟨msg, Multiset.mem_of_le hmsgs ?_, hvalues, happlied window hmem _ _ haddr⟩
    exact Multiset.mem_of_le
      (Multiset.single_le_sum (fun _ _ => Multiset.zero_le _) _ (Multiset.mem_map_of_mem _ hmem)) hmsg
  · refine (happlies.known id hid).imp_right fun ⟨window, hmem, hvalues⟩ => ?_
    obtain ⟨addr, haddr⟩ := mem_values.mp hvalues
    exact ⟨addr, hsent window hmem addr id haddr⟩

/-- A store that knows the node. -/
def knownNode : Store := { addr := (∅ : BTreeMap Uuid IdDbEntry).insert Rounds.nodeUuid {}, logs := ∅ }

set_option maxRecDepth 8000 in
/-- The theorem for a node that is known and heard in a window. -/
theorem readings_received_heard :
    ∃ (ctx : Context) (s : Rounds ℕ (DenseVec GenericFilter)) (sources : Uuid → List GenericMessage),
      Context.create knownNode = .ok ctx ∧
        Run (Partial (Rounds.step .total)) (Rounds.init ctx)
          (Rounds.setUp ++ Rounds.heardRound ++ [.update .none]) s ∧
        s.ctx.db.logged Rounds.nodeUuid = [⟨100, 21, 0, 50⟩] ∧ (sources Rounds.nodeUuid).length = 1 := by
  have hrun : ∃ (ctx : Context) (s : Rounds ℕ (DenseVec GenericFilter)),
      Context.create knownNode = .ok ctx ∧
        Run (Partial (Rounds.step .total)) (Rounds.init ctx)
          (Rounds.setUp ++ Rounds.heardRound ++ [.update .none]) s ∧
        ctx.db.logged Rounds.nodeUuid = [] ∧ s.ctx.db.logged Rounds.nodeUuid = [⟨100, 21, 0, 50⟩] :=
    ⟨_, _, rfl, run_partial_iff.mpr rfl, by decide +kernel, by decide +kernel⟩
  obtain ⟨ctx, s, hcreate, hrun, hbefore, hafter⟩ := hrun
  obtain ⟨sources, hsources, -⟩ := readings_received hrun
  obtain ⟨added, hadded, hmeasured⟩ := hsources Rounds.nodeUuid
  refine ⟨ctx, s, sources, hcreate, hrun, hafter, ?_⟩
  rw [hbefore, hafter, List.nil_append] at hadded
  rw [← hmeasured.length_eq, ← hadded]
  rfl

end BleWsCentral.Mesh
