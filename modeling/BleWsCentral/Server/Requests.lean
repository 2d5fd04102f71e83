import BleWsCentral.Server.Batches
import BleWsCentral.Server.Registry
import BleWsCentral.Server.StoredLabels

/-!
# The server is a registry

What clients are answered, whatever the handlers, the update task and the backend do in between, and however
often the server is killed and started again.

* `Context.getSensorData` — the handler of `rpc.rs` for the readings of a sensor.
* `LifeStep`, `Tasks.live` — the steps of the tasks, and a restart on what is on disk, at any point.
* `Represents` — the registry a state of the server stands for; `Tasks.Effect` says what a step does to it.
* `serves_registry` — in every run the server is a registry, and every answer is that of the registry.
* `readings_resumed` — a client that goes on behind the last reading it got has all readings, each once.
* `readings_frozen` — once the update task has failed, the readings stay as they are.
-/

namespace BleWsCentral.Server

open BleWsCentral.Found

/-! ## Requests for readings -/

/-- `SensorDataRequest`. -/
structure SensorDataRequest where
  id : Option Uuid
  start : UInt32
  stop : UInt32
deriving DecidableEq

/-- What becomes of a request: a response, a status, or a panic of the handler. -/
inductive Reply (α : Type)
  | ok (resp : α)
  | status (status : Status)
  | panicked
deriving DecidableEq

namespace Context

/-- `Server::get_sensor_data`; `logFaulty` says that the backend fails while it reads a log. -/
def getSensorData (faults : Faults) (logFaulty : Bool) (self : Context) (req : SensorDataRequest) :
    Reply SensorDataResponse :=
  if req.stop < req.start then .status ⟨.invalidArgument, "Invalid time range"⟩
  else
    match orStatus (faults.check .readTxn) with
    | .error status => .status status
    | .ok () =>
        let txn := self.db.readTxn
        match req.id with
        | none => .panicked
        | some id =>
            if logFaulty ∧ id ∈ self.db.sensorLog then .status DbError.heed.toStatus
            else
              match self.db.getLog txn id req.start req.stop none with
              | none => .status ⟨.notFound, "Sensor never existed"⟩
              | some log => .ok log

variable {self : Context} {faults : Faults} {logFaulty : Bool} {req : SensorDataRequest} {id : Uuid}

/-- A request with a range that makes sense, for a sensor. -/
theorem getSensorData_of_id (hrange : ¬ req.stop < req.start) (hid : req.id = some id) :
    self.getSensorData .none false req =
      match self.db.getLog self.db.readTxn id req.start req.stop none with
      | none => .status ⟨.notFound, "Sensor never existed"⟩
      | some log => .ok log := by
  unfold getSensorData
  rw [if_neg hrange, hid]
  rfl

/-- A failing backend makes an answer an internal error, and nothing else. -/
theorem getSensorData_faults (faults : Faults) (logFaulty : Bool) (self : Context)
    (req : SensorDataRequest) :
    self.getSensorData faults logFaulty req = self.getSensorData .none false req ∨
      self.getSensorData faults logFaulty req = .status DbError.heed.toStatus := by
  by_cases hrange : req.stop < req.start
  · left
    unfold getSensorData
    rw [if_pos hrange, if_pos hrange]
  · cases hread : faults .readTxn with
    | true =>
        right
        unfold getSensorData
        rw [if_neg hrange, Faults.check, hread]
        rfl
    | false =>
        cases hid : req.id with
        | none =>
            left
            unfold getSensorData
            rw [if_neg hrange, if_neg hrange, Faults.check, hread, hid]
            rfl
        | some id =>
            rw [getSensorData_of_id hrange hid]
            unfold getSensorData
            rw [if_neg hrange, Faults.check, hread, hid]
            simp only [orStatus, Bool.false_eq_true, if_false]
            by_cases hfaulty : logFaulty = true ∧ id ∈ self.db.sensorLog
            · right
              rw [if_pos hfaulty]
            · left
              rw [if_neg hfaulty]

end Context

/-! ## The life of a server -/

/-- A step of one of the tasks, or the server is killed and started again on what is on disk. What was not
committed is lost then, and so is what was in memory. -/
inductive LifeStep
  | task (a : TaskStep)
  | restart

namespace Tasks

/-- The server does not start again if its database cannot be opened. -/
def live (s : Tasks) : LifeStep → Option Tasks
  | .task a => s.step a
  | .restart =>
      match Context.create s.ctx.db.env.store with
      | .ok ctx => some (init ctx)
      | .error _ => none

/-- The sensor is in `id_db`. -/
def Knows (s : Tasks) (id : Uuid) : Prop := (s.ctx.db.env.store.addr[id]?).isSome = true

/-- What a step does to the context, and where the update task is then. -/
inductive Effect (s s' : Tasks) : Prop
  | requests (hctx : s'.ctx = s.ctx) (hupdate : s'.update = s.update)
  | stored {id : Uuid} {label : Option String} (hknown : s.Knows id)
      (hctx : s'.ctx = { s.ctx with db := s.ctx.db.commit (s.ctx.db.writeTxn.putAddr id { label }) })
      (hupdate : s'.update = s.update)
  | named {id : Uuid} {label : Option String} (hctx : s'.ctx = s.ctx.changeLabelModify id label)
      (hupdate : s'.update = s.update)
  | received {faults : Faults} {item : UpdateItem} (hctx : s'.ctx = s.ctx)
      (hupdate : s'.update = .reading faults item)
  | read {faults : Faults} {item : UpdateItem} {newSensors : List Uuid} (hctx : s'.ctx = s.ctx)
      (hupdate : s'.update = .memorizing faults item newSensors)
      (hnew : ∀ id, id ∈ newSensors ↔ id ∈ item ∧ s.ctx.db.env.store.addr[id]? = none)
  | memorized {faults : Faults} {item : UpdateItem} {newSensors : List Uuid} {db : Db}
      (hphase : s.update = .memorizing faults item newSensors)
      (hwrite : memorizeWrite faults s.ctx.db newSensors = .ok db) (hctx : s'.ctx = { s.ctx with db })
      (hupdate : s'.update = .logging faults item)
  | logged {faults : Faults} {item : UpdateItem} {db : Db} (hphase : s.update = .logging faults item)
      (hlog : logBatch faults s.ctx.db item = .ok db) (hctx : s'.ctx = { s.ctx with db })
      (hupdate : s'.update = .applying item)
  | applied {item : UpdateItem} (hphase : s.update = .applying item)
      (hctx : s'.ctx = s.ctx.modifySensors (applyBatch item)) (hupdate : s'.update = .idle)
  | ended (hctx : s'.ctx = s.ctx) (hupdate : s'.update = .ended)

variable {s s' : Tasks} {store : Store}

/-- Every step has one of these effects. -/
theorem effect_of_step (hstore : StoreInv store s) {a : TaskStep} (h : s.step a = some s') :
    s.Effect s' := by
  cases a with
  | request req =>
      cases h
      exact .requests rfl rfl
  | check r faults =>
      simp only [step] at h
      split at h
      · split at h <;> cases h <;> exact .requests rfl rfl
      · cases h
  | write r faults =>
      simp only [step] at h
      split at h
      · rename_i req id hr
        split at h
        · cases h
          exact .requests rfl rfl
        · rename_i ctx hwrite
          cases h
          exact .stored (hstore.known r _ id hr rfl) (Context.of_changeLabelWrite hwrite) rfl
      · cases h
  | modify r =>
      simp only [step] at h
      split at h <;> cases h
      exact .named rfl rfl
  | batch faults item =>
      simp only [step] at h
      split at h <;> cases h
      exact .received rfl rfl
  | memorizeRead =>
      simp only [step] at h
      split at h
      · split at h
        · cases h
          exact .ended rfl rfl
        · rename_i hread
          cases h
          exact .read rfl rfl fun id => mem_of_memorizeRead hread
      · cases h
  | memorizeWrite =>
      simp only [step] at h
      split at h
      · rename_i hphase
        split at h
        · cases h
          exact .ended rfl rfl
        · rename_i hwrite
          cases h
          exact .memorized hphase hwrite rfl rfl
      · cases h
  | log =>
      simp only [step] at h
      split at h
      · rename_i hphase
        split at h
        · cases h
          exact .ended rfl rfl
        · rename_i hlog
          cases h
          exact .logged hphase hlog rfl rfl
      · cases h
  | apply =>
      simp only [step] at h
      split at h <;> cases h
      rename_i hphase
      exact .applied hphase rfl rfl

/-- A sensor in `id_db` stays there. -/
theorem Effect.knows (hstore : StoreInv store s) (h : s.Effect s') {id : Uuid} (hid : s.Knows id) :
    s'.Knows id := by
  unfold Knows at *
  cases h with
  | requests hctx _ => rwa [hctx]
  | stored _ hctx _ =>
      rw [hctx, Db.commit_store, Store.putAddr_addr]
      split
      · rfl
      · exact hid
  | named hctx _ => rwa [hctx]
  | received hctx _ => rwa [hctx]
  | read hctx _ _ => rwa [hctx]
  | memorized hphase hwrite hctx _ =>
      rw [hctx, hstore.memorized hphase hwrite]
      split
      · rfl
      · exact hid
  | logged _ hlog hctx _ => rwa [hctx, (of_logBatch hlog).2.1]
  | applied _ hctx _ => rwa [hctx]
  | ended hctx _ => rwa [hctx]

end Tasks

/-- The sensors of the batch that the update task works on are in `id_db`, or it is about to put them there. -/
def UpdatePhase.Memorized (known : Uuid → Prop) : UpdatePhase → Prop
  | .memorizing _ item newSensors => ∀ id ∈ item, id ∈ newSensors ∨ known id
  | .logging _ item => ∀ id ∈ item, known id
  | .applying item => ∀ id ∈ item, known id
  | _ => True

theorem UpdatePhase.Memorized.mono {known known' : Uuid → Prop} (hle : ∀ id, known id → known' id)
    {phase : UpdatePhase} (h : phase.Memorized known) : phase.Memorized known' := by
  cases phase with
  | memorizing faults item newSensors => exact fun id hid => (h id hid).imp_right (hle id)
  | logging faults item => exact fun id hid => hle id (h id hid)
  | applying item => exact fun id hid => hle id (h id hid)
  | _ => trivial

namespace Tasks

variable {s s' : Tasks}

/-- What holds of a server in every state. -/
structure Sound (s : Tasks) : Prop where
  store : ∃ store, StoreInv store s
  memorized : s.update.Memorized s.Knows

theorem Sound.init {store : Store} {ctx : Context} (h : Context.create store = .ok ctx) :
    (Tasks.init ctx).Sound :=
  ⟨⟨store, .init h⟩, trivial⟩

/-- Every step of a task keeps it. -/
theorem Sound.step (h : s.Sound) {a : TaskStep} (hstep : s.step a = some s') : s'.Sound := by
  obtain ⟨store, hstore⟩ := h.store
  refine ⟨⟨store, hstore.step hstep⟩, ?_⟩
  have heffect := effect_of_step hstore hstep
  have hknows : ∀ id, s.Knows id → s'.Knows id := fun id => heffect.knows hstore
  have hbefore := h.memorized
  cases heffect with
  | requests _ hupdate | stored _ _ hupdate | named _ hupdate =>
      rw [hupdate]
      exact hbefore.mono hknows
  | received _ hupdate | applied _ _ hupdate | ended _ hupdate =>
      rw [hupdate]
      trivial
  | read hctx hupdate hnew =>
      rw [hupdate]
      intro id hid
      cases hknown : s.ctx.db.env.store.addr[id]? with
      | none => exact .inl ((hnew id).mpr ⟨hid, hknown⟩)
      | some entry =>
          refine .inr (hknows id ?_)
          unfold Knows
          rw [hknown]
          rfl
  | memorized hphase hwrite hctx hupdate =>
      rw [hphase] at hbefore
      rw [hupdate]
      intro id hid
      rcases hbefore id hid with hnew | hknown
      · unfold Knows
        rw [hctx, hstore.memorized hphase hwrite, if_pos hnew]
        rfl
      · exact hknows id hknown
  | logged hphase _ _ hupdate =>
      rw [hphase] at hbefore
      rw [hupdate]
      exact fun id hid => hknows id (hbefore id hid)

/-- So does a restart. -/
theorem Sound.live (h : s.Sound) {a : LifeStep} (hstep : s.live a = some s') : s'.Sound := by
  cases a with
  | task a => exact h.step hstep
  | restart =>
      simp only [Tasks.live] at hstep
      split at hstep <;> cases hstep
      rename_i hcreate
      exact .init hcreate

end Tasks

/-! ## The registry of a server -/

/-- The registry that a context stands for. -/
structure Represents (ctx : Context) (r : Registry) : Prop where
  label : ∀ id : Uuid, r.label id = (ctx.db.env.store.addr[id]?).map IdDbEntry.label
  history : ∀ id, r.history id = ctx.db.logged id
  served : ∀ id, id ∈ r.served ↔ id ∈ ctx.db.sensorLog
  shown : ∀ id : Uuid, r.shown id = (ctx.sensors[id]?).map Sensor.state

namespace Represents

variable {ctx ctx' : Context} {r : Registry}

/-- A context that differs in what the registry does not have. -/
theorem congr (h : Represents ctx r) (hstore : ctx'.db = ctx.db)
    (hshown : ∀ id : Uuid, (ctx'.sensors[id]?).map Sensor.state = (ctx.sensors[id]?).map Sensor.state) :
    Represents ctx' r where
  label id := by rw [hstore, h.label]
  history id := by rw [hstore, h.history]
  served id := by rw [hstore, h.served]
  shown id := by rw [hshown, h.shown]

/-- What was stored under an id. -/
theorem stored (h : Represents ctx r) {id : Uuid} (label : Option String)
    (hknown : (ctx.db.env.store.addr[id]?).isSome = true) :
    Represents { ctx with db := ctx.db.commit (ctx.db.writeTxn.putAddr id { label }) }
      (r.relabel id label) where
  label id' := by
    rw [Db.commit_store, Store.putAddr_addr]
    unfold Registry.relabel
    dsimp only
    split
    · rename_i heq
      subst heq
      obtain ⟨entry, hentry⟩ := Option.isSome_iff_exists.mp hknown
      rw [h.label, hentry]
      rfl
    · exact h.label id'
  history id' := h.history id'
  served id' := h.served id'
  shown id' := h.shown id'

/-- New sensors are learnt. -/
theorem memorized (h : Represents ctx r) {faults : Faults} {newSensors : List Uuid} {db : Db}
    (hnd : newSensors.Nodup) (hnew : ∀ id ∈ newSensors, ctx.db.env.store.addr[id]? = none)
    (hwrite : memorizeWrite faults ctx.db newSensors = .ok db) :
    Represents { ctx with db } (r.learn newSensors) := by
  obtain ⟨hset, hlogs, haddr⟩ := of_memorizeWrite hnd hwrite
  refine ⟨fun id => ?_, fun id => ?_, fun id => ?_, h.shown⟩
  · unfold Registry.learn
    dsimp only
    rw [haddr]
    by_cases hid : id ∈ newSensors
    · have hunknown : r.label id = none := by
        rw [h.label, hnew id hid]
        rfl
      rw [if_pos ⟨hid, hunknown⟩, if_pos hid]
      rfl
    · rw [if_neg fun h => hid h.1, if_neg hid]
      exact h.label id
  · rw [Db.logged, hlogs]
    exact h.history id
  · rw [hset]
    exact h.served id

/-- The readings of a batch are recorded. -/
theorem logged (h : Represents ctx r) {faults : Faults} {item : UpdateItem} {db : Db}
    (hlog : logBatch faults ctx.db item = .ok db) :
    ∃ r', Registry.Next r r' ∧ Represents { ctx with db } r' := by
  obtain ⟨hset, haddr, hlogs⟩ := of_logBatch hlog
  let readings : Uuid → Option SensorValues := fun id =>
    if id ∈ ctx.db.sensorLog then reading item id else none
  have hhistory : ∀ id, db.logged id = r.history id ++ (readings id).toList := by
    intro id
    have happended := map_ofEntry_appended (hlogs id)
    rw [Db.logged, happended, h.history, Db.logged]
    simp only [readings, decide_eq_true_eq]
    split <;> rfl
  refine ⟨r.record readings fun id => ?_, .record r readings (fun id hid => ?_) _, ?_⟩
  · rw [← hhistory]
    exact chronological_logged db id
  · rw [h.served]
    by_contra hnot
    simp [readings, hnot] at hid
  · exact ⟨fun id => by rw [haddr]; exact h.label id, fun id => (hhistory id).symm,
      fun id => by rw [hset]; exact h.served id, h.shown⟩

/-- The states of a batch are shown. -/
theorem applied (h : Represents ctx r) {item : UpdateItem}
    (hknown : ∀ id ∈ item, (ctx.db.env.store.addr[id]?).isSome = true) :
    ∃ r', Registry.Next r r' ∧ Represents (ctx.modifySensors (applyBatch item)) r' := by
  refine ⟨_, .present r (fun id => item[id]?) fun id hid => ?_, h.label, h.history, h.served, fun id => ?_⟩
  · rw [h.label, Option.isSome_map]
    exact hknown id (Std.ExtTreeMap.mem_iff_isSome_getElem?.mpr hid)
  · rw [Context.modifySensors_sensors, getElem?_applyBatch]
    unfold Registry.present
    dsimp only
    cases hid : item[id]? with
    | none => exact h.shown id
    | some state => rfl

/-- The server is started again on what is on disk. -/
theorem reopened (h : Represents ctx r) (hcreate : Context.create ctx.db.env.store = .ok ctx') :
    Represents ctx' r.reopen := by
  obtain ⟨hserved, haddr, hlogs, hsensors⟩ := Context.of_create hcreate
  refine ⟨fun id => ?_, fun id => ?_, fun id => ?_, fun id => ?_⟩
  · rw [haddr]
    exact h.label id
  · rw [Db.logged, hlogs]
    exact h.history id
  · rw [hserved, ← Option.isSome_map (f := IdDbEntry.label), ← h.label]
    rfl
  · rw [hsensors, Option.map_map]
    unfold Registry.reopen
    dsimp only
    rw [h.label, Option.map_map]
    rfl

/-- A step of a task is something that happens to the registry, or nothing. -/
theorem effect {s s' : Tasks} (h : Represents s.ctx r) (hsound : s.Sound) (heffect : s.Effect s') :
    ∃ r', Relation.ReflTransGen Registry.Next r r' ∧ Represents s'.ctx r' := by
  obtain ⟨store, hstore⟩ := hsound.store
  have hmemorized := hsound.memorized
  cases heffect with
  | requests hctx _ | received hctx _ | read hctx _ _ | ended hctx _ =>
      rw [hctx]
      exact ⟨r, .refl, h⟩
  | @stored id label hknown hctx _ =>
      rw [hctx]
      exact ⟨_, .single (.relabel r id label), h.stored label hknown⟩
  | named hctx _ =>
      rw [hctx]
      refine ⟨r, .refl, h.congr rfl fun id => ?_⟩
      rw [Context.changeLabelModify, Context.modifySensors_sensors, Context.getElem?_relabel]
      split
      · rw [Option.map_map]
        rfl
      · rfl
  | memorized hphase hwrite hctx _ =>
      obtain ⟨hnd, hnew⟩ := hstore.absent _ _ _ hphase
      rw [hctx]
      exact ⟨_, .single (.learn r _), h.memorized hnd hnew hwrite⟩
  | logged _ hlog hctx _ =>
      rw [hctx]
      obtain ⟨r', hnext, hr'⟩ := h.logged hlog
      exact ⟨r', .single hnext, hr'⟩
  | applied hphase hctx _ =>
      rw [hphase] at hmemorized
      rw [hctx]
      obtain ⟨r', hnext, hr'⟩ := h.applied hmemorized
      exact ⟨r', .single hnext, hr'⟩

/-- So is a step of a server that may be started again. -/
theorem live {s s' : Tasks} (h : Represents s.ctx r) (hsound : s.Sound) {a : LifeStep}
    (hstep : s.live a = some s') :
    ∃ r', Relation.ReflTransGen Registry.Next r r' ∧ Represents s'.ctx r' := by
  cases a with
  | task a =>
      obtain ⟨store, hstore⟩ := hsound.store
      exact h.effect hsound (Tasks.effect_of_step hstore hstep)
  | restart =>
      simp only [Tasks.live] at hstep
      split at hstep <;> cases hstep
      rename_i hcreate
      exact ⟨_, .single (.reopen r), h.reopened hcreate⟩

/-- A run of the server is a run of the registry. -/
theorem run {s s' : Tasks} (h : Represents s.ctx r) (hsound : s.Sound) {l : List LifeStep}
    (hrun : Run (Partial Tasks.live) s l s') :
    ∃ r', Relation.ReflTransGen Registry.Next r r' ∧ Represents s'.ctx r' ∧ s'.Sound := by
  obtain ⟨r', hsteps, hr', hsound'⟩ := hrun.simulates (R := fun s r => Represents s.ctx r ∧ s.Sound)
    (fun s a t r ⟨h, hsound⟩ hstep => by
      obtain ⟨r', hsteps, hr'⟩ := h.live hsound hstep
      exact ⟨r', hsteps, hr', hsound.live hstep⟩) ⟨h, hsound⟩
  exact ⟨r', hsteps, hr', hsound'⟩

end Represents

/-! ## Answers -/

/-- What the registry says to a request for readings. -/
inductive Registry.Replies (r : Registry) (req : SensorDataRequest) : Reply SensorDataResponse → Prop
  | invalid (hrange : req.stop < req.start) :
      Replies r req (.status ⟨.invalidArgument, "Invalid time range"⟩)
  | noId (hrange : ¬ req.stop < req.start) (hid : req.id = none) : Replies r req .panicked
  | unserved {id : Uuid} (hrange : ¬ req.stop < req.start) (hid : req.id = some id) (hserved : id ∉ r.served) :
      Replies r req (.status ⟨.notFound, "Sensor never existed"⟩)
  | readings {id : Uuid} {resp : SensorDataResponse} (hrange : ¬ req.stop < req.start) (hid : req.id = some id)
      (hanswers : r.Answers id req.start req.stop resp) : Replies r req (.ok resp)

namespace Represents

variable {ctx : Context} {r : Registry}

/-- A context gives the readings of the sensors that the registry serves. -/
theorem answers (h : Represents ctx r) {id : Uuid} {start stop : Timestamp} (hrange : ¬ stop < start)
    (hserved : id ∈ r.served) :
    ∃ resp, ctx.getSensorData .none false ⟨some id, start, stop⟩ = .ok resp ∧
      r.Answers id start stop resp := by
  obtain ⟨resp, hget, hshows⟩ := exists_getLog ((h.served id).mp hserved) start stop none
  refine ⟨resp, ?_, hserved, ?_⟩
  · rw [Context.getSensorData_of_id hrange rfl, hget]
  · rw [h.history]
    exact hshows

/-- A context answers with what the registry answers. -/
theorem replies (h : Represents ctx r) (req : SensorDataRequest) :
    r.Replies req (ctx.getSensorData .none false req) := by
  obtain ⟨id, start, stop⟩ := req
  by_cases hrange : stop < start
  · unfold Context.getSensorData
    rw [if_pos hrange]
    exact .invalid hrange
  · cases id with
    | none =>
        unfold Context.getSensorData
        rw [if_neg hrange]
        exact .noId hrange rfl
    | some id =>
        by_cases hserved : id ∈ r.served
        · obtain ⟨resp, hreply, hanswers⟩ := h.answers hrange hserved
          rw [hreply]
          exact .readings hrange rfl hanswers
        · rw [Context.getSensorData_of_id hrange rfl, Db.getLog, if_neg (mt (h.served id).mpr hserved)]
          exact .unserved hrange rfl hserved

/-- Readings that a context gives are those of the registry. -/
theorem answers_of_ok (h : Represents ctx r) {faults : Faults} {logFaulty : Bool} {id : Uuid}
    {start stop : Timestamp} {resp : SensorDataResponse}
    (hreply : ctx.getSensorData faults logFaulty ⟨some id, start, stop⟩ = .ok resp) :
    ¬ stop < start ∧ r.Answers id start stop resp := by
  have hreplies := h.replies ⟨some id, start, stop⟩
  rcases Context.getSensorData_faults faults logFaulty ctx ⟨some id, start, stop⟩ with hsame | hfault
  · rw [← hsame, hreply] at hreplies
    cases hreplies with
    | readings hrange hid hanswers =>
        cases hid
        exact ⟨hrange, hanswers⟩
  · rw [hfault] at hreply
    cases hreply

/-- The overview of a context is that of the registry. -/
theorem overview (h : Represents ctx r) {faults : Faults} {resp : OverviewResponse}
    (hresp : ctx.overview faults = .ok resp) : r.Shown resp := by
  obtain ⟨-, -, hresp⟩ := bind_eq_ok.mp hresp
  obtain ⟨fields, hloop, hfields⟩ := bind_eq_ok.mp hresp
  let field : Uuid × Sensor → OverviewResponseField := fun entry =>
    ⟨entry.1, ⟨ctx.storedLabel entry.1, currentValues entry.2.state⟩⟩
  have hfield : ∀ entry ∈ ctx.sensors.toList, ∀ f,
      Context.overviewField faults ctx.db.readTxn entry = .ok f → f = field entry := by
    intro entry _ f hf
    obtain ⟨-, -, hf⟩ := bind_eq_ok.mp hf
    exact (Except.ok.inj hf).symm
  have heq : resp.overview = ctx.sensors.toList.map field := by
    rw [← Except.ok.inj hfields]
    exact of_mapM_eq_ok hfield hloop
  refine ⟨?_, fun id overview => ?_⟩
  · rw [heq, List.pairwise_map]
    refine (Std.ExtTreeMap.ordered_keys_toList (t := ctx.sensors)).imp fun hlt => ?_
    exact compareOfLessAndEq_eq_lt.mp hlt
  · have hlabel : (r.label id).join = ctx.storedLabel id := by
      rw [h.label, Context.storedLabel, Db.getAddr, Db.readTxn]
      cases ctx.db.env.store.addr[id]? <;> rfl
    rw [heq, List.mem_map, h.shown, hlabel]
    constructor
    · rintro ⟨⟨id', sensor⟩, hmem, hfield⟩
      cases hfield
      exact ⟨sensor.state, by rw [mem_toList.mp hmem]; rfl, rfl⟩
    · rintro ⟨state, hstate, rfl⟩
      obtain ⟨sensor, hsensor, rfl⟩ := Option.map_eq_some_iff.mp hstate
      exact ⟨(id, sensor), mem_toList.mpr hsensor, rfl⟩

/-- There is one, if the backend does not fail. -/
theorem overview_none (ctx : Context) :
    ctx.overview .none = .ok ⟨ctx.sensors.toList.map fun entry =>
      ⟨entry.1, ⟨ctx.storedLabel entry.1, currentValues entry.2.state⟩⟩⟩ := by
  have hloop : ctx.sensors.toList.mapM (Context.overviewField .none ctx.db.readTxn) =
      .ok (ctx.sensors.toList.map fun entry =>
        ⟨entry.1, ⟨ctx.storedLabel entry.1, currentValues entry.2.state⟩⟩) :=
    mapM_eq_ok fun _ _ => rfl
  exact bind_eq_ok.mpr ⟨(), rfl, bind_eq_ok.mpr ⟨_, hloop, rfl⟩⟩

end Represents

/-- The registry that a store holds when it is opened. -/
def Store.registry (store : Store) : Registry where
  label id := (store.addr[id]?).map IdDbEntry.label
  history id := (store.log id).entries.map ofEntry
  served := {id | (store.addr[id]?).isSome = true}
  shown id := (store.addr[id]?).map fun _ => .unconnected
  known_of_served id hid := by
    rwa [Option.isSome_map]
  known_of_shown id hid := by
    rwa [Option.isSome_map] at hid ⊢
  chronological := chronological_logged ⟨⟨0, [], store⟩, ∅⟩

theorem represents_registry {store : Store} {ctx : Context} (h : Context.create store = .ok ctx) :
    Represents ctx store.registry := by
  obtain ⟨hserved, haddr, hlogs, hsensors⟩ := Context.of_create h
  refine ⟨fun id => ?_, fun id => ?_, fun id => (hserved id).symm, fun id => ?_⟩
  · rw [haddr]
    rfl
  · rw [Db.logged, hlogs]
    rfl
  · rw [hsensors, Option.map_map]
    rfl

/-- **The server is a registry.** In every run, whatever the order in which the handlers and the update task
take turns, wherever the backend fails, and however often the server is killed and started again: what the
server answers to requests for readings and for overviews is what a registry answers to which one thing
happened after the other. A backend that fails makes an answer an internal error, and nothing else. -/
theorem serves_registry {store : Store} {ctx : Context} (hcreate : Context.create store = .ok ctx)
    {l : List LifeStep} {s : Tasks} (hrun : Run (Partial Tasks.live) (Tasks.init ctx) l s) :
    ∃ r, Relation.ReflTransGen Registry.Next store.registry r ∧
      (∀ req, r.Replies req (s.ctx.getSensorData .none false req)) ∧
      (∀ faults logFaulty req,
        s.ctx.getSensorData faults logFaulty req = s.ctx.getSensorData .none false req ∨
          s.ctx.getSensorData faults logFaulty req = .status ⟨.internal, "Internal database error"⟩) ∧
      (∃ resp, s.ctx.overview .none = .ok resp) ∧
      ∀ faults resp, s.ctx.overview faults = .ok resp → r.Shown resp := by
  have hinit : Represents (Tasks.init ctx).ctx store.registry := represents_registry hcreate
  obtain ⟨r, hsteps, hr, -⟩ := hinit.run (.init hcreate) hrun
  exact ⟨r, hsteps, hr.replies, fun faults logFaulty req => Context.getSensorData_faults faults logFaulty _ req,
    ⟨_, Represents.overview_none _⟩, fun _ _ => hr.overview⟩

/-- A store with sensor 3. -/
def sensorStore : Store := ⟨(∅ : BTreeMap Uuid IdDbEntry).insert 3 {}, ∅⟩

/-- A batch of sensor 3 is processed. -/
def processed (values : SensorValues) : List LifeStep :=
  [.task (.batch .none ((∅ : UpdateItem).insert 3 (.connected values))), .task .memorizeRead,
    .task .memorizeWrite, .task .log, .task .apply]

/-- The theorem for a reading, and a restart after which it is there and the sensor is not shown any more. -/
theorem serves_registry_restarted :
    ∃ (ctx : Context) (s : Tasks) (r : Registry), Context.create sensorStore = .ok ctx ∧
      Run (Partial Tasks.live) (Tasks.init ctx) (processed ⟨100, 21, 7, 50⟩ ++ [.restart]) s ∧
      Relation.ReflTransGen Registry.Next sensorStore.registry r ∧
      r.Replies ⟨some 3, 50, 150⟩ (.ok ⟨[100], [21], [7], [50]⟩) ∧ r.Shown ⟨[⟨3, ⟨none, none⟩⟩]⟩ := by
  have hexec : ∃ (ctx : Context) (s : Tasks), Context.create sensorStore = .ok ctx ∧
      Run (Partial Tasks.live) (Tasks.init ctx) (processed ⟨100, 21, 7, 50⟩ ++ [.restart]) s ∧
      s.ctx.getSensorData .none false ⟨some 3, 50, 150⟩ = .ok ⟨[100], [21], [7], [50]⟩ ∧
      s.ctx.overview .none = .ok ⟨[⟨3, ⟨none, none⟩⟩]⟩ :=
    ⟨_, _, rfl, run_partial_iff.mpr rfl, by decide +kernel, by decide +kernel⟩
  obtain ⟨ctx, s, hcreate, hrun, hreply, hoverview⟩ := hexec
  obtain ⟨r, hsteps, hreplies, -, -, hshown⟩ := serves_registry hcreate hrun
  refine ⟨ctx, s, r, hcreate, hrun, hsteps, ?_, hshown _ _ hoverview⟩
  rw [← hreply]
  exact hreplies _

/-- **Going on.** A client that got readings, and later asks for those behind the last one it got, has then all
readings of its range, each once and in order: the two answers one below the other are the answer to one
request for the whole range. This is so whatever happens in between, restarts included. -/
theorem readings_resumed {store : Store} {ctx : Context} (hcreate : Context.create store = .ok ctx)
    {l l' : List LifeStep} {s s' : Tasks} (hrun : Run (Partial Tasks.live) (Tasks.init ctx) l s)
    (hlater : Run (Partial Tasks.live) s l' s') {faults : Faults} {logFaulty : Bool} {id : Uuid}
    {start stop : Timestamp} {resp : SensorDataResponse}
    (hreply : s.ctx.getSensorData faults logFaulty ⟨some id, start, stop⟩ = .ok resp) :
    ∃ rest, s'.ctx.getSensorData .none false ⟨some id, Registry.cursor start resp, stop⟩ = .ok rest ∧
      s'.ctx.getSensorData .none false ⟨some id, start, stop⟩ = .ok (Registry.below resp rest) := by
  have hinit : Represents (Tasks.init ctx).ctx store.registry := represents_registry hcreate
  obtain ⟨r, -, hr, hsound⟩ := hinit.run (.init hcreate) hrun
  obtain ⟨r', hsteps, hr', -⟩ := hr.run hsound hlater
  have hgrows := Registry.grows hsteps
  obtain ⟨hrange, hanswers⟩ := hr.answers_of_ok hreply
  have hserved : id ∈ r'.served := hgrows.served hanswers.1
  -- the cursor is in the range
  have hcursor : ¬ stop < Registry.cursor start resp := by
    have hnext := Registry.goesOn_cursor (r.chronological id) hanswers.2
    have hle := (hnext stop.toNat).mpr ⟨?_, fun values hmem => ?_⟩
    · rw [UInt32.lt_iff_toNat_lt]
      exact Nat.not_lt.mpr hle
    · rw [UInt32.lt_iff_toNat_lt] at hrange
      exact Nat.not_lt.mp hrange
    · rw [Registry.within_eq_during] at hmem
      exact (mem_during.mp hmem).2.2
  obtain ⟨rest, hrest, hanswersRest⟩ := hr'.answers hcursor hserved
  obtain ⟨full, hfull, hanswersFull⟩ := hr'.answers hrange hserved
  refine ⟨rest, hrest, ?_⟩
  have hbelow := Registry.answers_resumed hgrows hanswers hanswersRest
  rw [hfull, Registry.shows_unique hanswersFull.2 hbelow.2]

/-- The theorem for a reading before and one after a restart. -/
theorem readings_resumed_restarted :
    ∃ (s s' : Tasks), s.ctx.getSensorData .none false ⟨some 3, 50, 150⟩ = .ok ⟨[100], [21], [7], [50]⟩ ∧
      Run (Partial Tasks.live) s ([.restart] ++ processed ⟨120, 22, 8, 51⟩) s' ∧
      s'.ctx.getSensorData .none false ⟨some 3, 50, 150⟩ =
        .ok ⟨[100, 120], [21, 22], [7, 8], [50, 51]⟩ := by
  have hexec : ∃ (ctx : Context) (s s' : Tasks), Context.create sensorStore = .ok ctx ∧
      Run (Partial Tasks.live) (Tasks.init ctx) (processed ⟨100, 21, 7, 50⟩) s ∧
      Run (Partial Tasks.live) s ([.restart] ++ processed ⟨120, 22, 8, 51⟩) s' ∧
      s.ctx.getSensorData .none false ⟨some 3, 50, 150⟩ = .ok ⟨[100], [21], [7], [50]⟩ ∧
      s'.ctx.getSensorData .none false ⟨some 3, 101, 150⟩ = .ok ⟨[120], [22], [8], [51]⟩ :=
    ⟨_, _, _, rfl, run_partial_iff.mpr rfl, run_partial_iff.mpr rfl, by decide +kernel,
      by decide +kernel⟩
  obtain ⟨ctx, s, s', hcreate, hrun, hlater, hreply, hgoesOn⟩ := hexec
  obtain ⟨rest, hrest, hfull⟩ := readings_resumed hcreate hrun hlater hreply
  refine ⟨s, s', hreply, hlater, ?_⟩
  have hcursor : Registry.cursor 50 ⟨[100], [21], [7], [50]⟩ = 101 := rfl
  rw [hcursor, hgoesOn] at hrest
  cases hrest
  exact hfull

/-! ## After a failure -/

/-- Two contexts hold the same readings and show the same values. -/
structure SameReadings (ctx ctx' : Context) : Prop where
  served : ctx'.db.sensorLog = ctx.db.sensorLog
  log : ∀ id, ctx'.db.env.store.log id = ctx.db.env.store.log id
  state : ∀ id : Uuid, ctx'.sensors[id]?.map Sensor.state = ctx.sensors[id]?.map Sensor.state

namespace SameReadings

variable {ctx ctx' ctx'' : Context}

theorem refl (ctx : Context) : SameReadings ctx ctx := ⟨rfl, fun _ => rfl, fun _ => rfl⟩

theorem trans (h : SameReadings ctx ctx') (h' : SameReadings ctx' ctx'') : SameReadings ctx ctx'' where
  served := h'.served.trans h.served
  log id := (h'.log id).trans (h.log id)
  state id := (h'.state id).trans (h.state id)

/-- They answer requests for readings alike. -/
theorem getSensorData (h : SameReadings ctx ctx') (req : SensorDataRequest) :
    ctx'.getSensorData .none false req = ctx.getSensorData .none false req := by
  have hlog : ∀ id, ctx'.db.getLog ctx'.db.readTxn id req.start req.stop none =
      ctx.db.getLog ctx.db.readTxn id req.start req.stop none := by
    intro id
    unfold Db.getLog Db.readTxn
    rw [h.served, h.log]
  unfold Context.getSensorData
  simp only [hlog, h.served]

/-- Their overviews are about the same sensors, with the same values. -/
theorem overview (h : SameReadings ctx ctx') {resp resp' : OverviewResponse}
    (hresp : ctx.overview .none = .ok resp) (hresp' : ctx'.overview .none = .ok resp') (id : Uuid)
    (values : Option CurrentValues) :
    (∃ label, ⟨id, ⟨label, values⟩⟩ ∈ resp'.overview) ↔ ∃ label, ⟨id, ⟨label, values⟩⟩ ∈ resp.overview := by
  have hfields : ∀ {ctx : Context} {resp : OverviewResponse}, ctx.overview .none = .ok resp →
      ((∃ label, ⟨id, ⟨label, values⟩⟩ ∈ resp.overview) ↔
        ∃ state, ctx.sensors[id]?.map Sensor.state = some state ∧ values = currentValues state) := by
    intro ctx resp hresp
    rw [Represents.overview_none] at hresp
    cases hresp
    constructor
    · rintro ⟨label, hmem⟩
      obtain ⟨⟨id', sensor⟩, hsensor, hfield⟩ := List.mem_map.mp hmem
      cases hfield
      exact ⟨sensor.state, by rw [mem_toList.mp hsensor]; rfl, rfl⟩
    · rintro ⟨state, hstate, rfl⟩
      obtain ⟨sensor, hsensor, rfl⟩ := Option.map_eq_some_iff.mp hstate
      exact ⟨ctx.storedLabel id, List.mem_map.mpr ⟨(id, sensor), mem_toList.mpr hsensor, rfl⟩⟩
  rw [hfields hresp, hfields hresp', h.state]

/-- A new label is not a new reading. -/
theorem relabel {id : Uuid} {label : Option String} (ctx : Context) :
    SameReadings ctx (ctx.changeLabelModify id label) where
  served := rfl
  log _ := rfl
  state id' := by
    have hsensors : (ctx.changeLabelModify id label).sensors = Context.relabel id label ctx.sensors := rfl
    rw [hsensors, Context.getElem?_relabel]
    split
    · rw [Option.map_map]
      rfl
    · rfl

end SameReadings

/-- When the update task has ended, the other tasks leave it so, and leave the readings alone. -/
theorem Tasks.sameReadings_of_step {s s' : Tasks} {a : TaskStep} (hended : s.update = .ended)
    (h : s.step a = some s') : s'.update = .ended ∧ SameReadings s.ctx s'.ctx := by
  cases a with
  | request req =>
      cases h
      exact ⟨hended, .refl _⟩
  | check r faults =>
      simp only [Tasks.step] at h
      split at h
      · split at h <;> cases h <;> exact ⟨hended, .refl _⟩
      · cases h
  | write r faults =>
      simp only [Tasks.step] at h
      split at h
      · split at h
        · cases h
          exact ⟨hended, .refl _⟩
        · rename_i hwrite
          cases h
          refine ⟨hended, ?_⟩
          rw [Context.of_changeLabelWrite hwrite]
          exact ⟨rfl, fun _ => rfl, fun _ => rfl⟩
      · cases h
  | modify r =>
      simp only [Tasks.step] at h
      split at h <;> cases h
      exact ⟨hended, .relabel _⟩
  | batch | memorizeRead | memorizeWrite | log | apply =>
      simp only [Tasks.step, hended] at h
      cases h

/-- **After a failure.** Once the update task of a server has ended, after a failure of the database, this server
answers every request for readings as it did then, and every overview has the sensors and values it had then;
only labels change. It stays so until the server is started again. -/
theorem readings_frozen {s s' : Tasks} (hended : s.update = .ended) {l : List LifeStep}
    (hno : LifeStep.restart ∉ l) (hrun : Run (Partial Tasks.live) s l s') :
    s'.update = .ended ∧
      (∀ req, s'.ctx.getSensorData .none false req = s.ctx.getSensorData .none false req) ∧
      ∀ resp resp', s.ctx.overview .none = .ok resp → s'.ctx.overview .none = .ok resp' → ∀ id values,
        (∃ label, ⟨id, ⟨label, values⟩⟩ ∈ resp'.overview) ↔ ∃ label, ⟨id, ⟨label, values⟩⟩ ∈ resp.overview := by
  have hguarded := hrun.guarded_of_forall (G := fun _ a => a ≠ LifeStep.restart)
    fun a ha _ heq => hno (heq ▸ ha)
  have hkept : ∀ (t : Tasks) (a : LifeStep) (t' : Tasks), t.update = .ended ∧ SameReadings s.ctx t.ctx →
      Guarded (Partial Tasks.live) (fun _ a => a ≠ LifeStep.restart) t a t' →
      t'.update = .ended ∧ SameReadings s.ctx t'.ctx := by
    rintro t a t' ⟨hended, hsame⟩ ⟨hne, hstep⟩
    cases a with
    | task a =>
        obtain ⟨hended', hsame'⟩ := Tasks.sameReadings_of_step hended hstep
        exact ⟨hended', hsame.trans hsame'⟩
    | restart => exact absurd rfl hne
  obtain ⟨hended', hsame⟩ := hguarded.invariant hkept ⟨hended, SameReadings.refl _⟩
  exact ⟨hended', hsame.getSensorData, fun _ _ => hsame.overview⟩

/-- The read transaction of a batch fails. -/
def failed (values : SensorValues) : List LifeStep :=
  [.task (.batch (fun _ => true) ((∅ : UpdateItem).insert 3 (.connected values))), .task .memorizeRead]

/-- A client changes the label of sensor 3. -/
def labelled (label : String) : List LifeStep :=
  [.task (.request ⟨some 3, some label⟩), .task (.check 0 .none), .task (.write 0 .none), .task (.modify 0)]

/-- The theorem for a batch whose read transaction fails, and a label that is changed after it. -/
theorem readings_frozen_relabelled :
    ∃ (ctx : Context) (s s' : Tasks), Context.create sensorStore = .ok ctx ∧
      Run (Partial Tasks.live) (Tasks.init ctx) (processed ⟨100, 21, 7, 50⟩ ++ failed ⟨120, 22, 8, 51⟩) s ∧
      Run (Partial Tasks.live) s (labelled "Attic") s' ∧
      s'.ctx.getSensorData .none false ⟨some 3, 50, 150⟩ = .ok ⟨[100], [21], [7], [50]⟩ ∧
      ∃ resp label, s'.ctx.overview .none = .ok resp ∧
        ⟨3, ⟨label, some ⟨21, 7, 50⟩⟩⟩ ∈ resp.overview := by
  have hexec : ∃ (ctx : Context) (s s' : Tasks), Context.create sensorStore = .ok ctx ∧
      Run (Partial Tasks.live) (Tasks.init ctx) (processed ⟨100, 21, 7, 50⟩ ++ failed ⟨120, 22, 8, 51⟩) s ∧
      Run (Partial Tasks.live) s (labelled "Attic") s' ∧ s.update = .ended ∧
      s.ctx.getSensorData .none false ⟨some 3, 50, 150⟩ = .ok ⟨[100], [21], [7], [50]⟩ ∧
      s.ctx.overview .none = .ok ⟨[⟨3, ⟨none, some ⟨21, 7, 50⟩⟩⟩]⟩ :=
    ⟨_, _, _, rfl, run_partial_iff.mpr rfl, run_partial_iff.mpr rfl, rfl, by decide +kernel,
      by decide +kernel⟩
  obtain ⟨ctx, s, s', hcreate, hrun, hlater, hended, hreply, hoverview⟩ := hexec
  obtain ⟨-, hreplies, hshown⟩ := readings_frozen hended (by simp [labelled]) hlater
  refine ⟨ctx, s, s', hcreate, hrun, hlater, ?_, ?_⟩
  · rw [hreplies]
    exact hreply
  · have hresp' := Represents.overview_none s'.ctx
    obtain ⟨label, hmem⟩ := (hshown _ _ hoverview hresp' _ _).mpr ⟨none, List.mem_singleton_self _⟩
    exact ⟨_, label, hresp', hmem⟩

end BleWsCentral.Server
