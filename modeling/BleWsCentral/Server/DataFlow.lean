import BleWsCentral.Server.Update

/-!
# The flow of data

What becomes of the server when a reading is rejected: `run` in `main.rs` spawns the update task, and
its shutdown future waits for the task and for a signal.

* `Process` — the context, what the update task ended with, and whether the server still serves.
* `Process.step` — the next batch of the sources. `shutdownOn` is the pattern `Err(e) = update_task`,
  which matches a task that panicked, but not one that ended with an error of the database.
* `Flows p items` — every batch is processed to the end, or the server shuts down.
* `flows_iff_sound` — the batches flow if and only if no reading of them is ever rejected or dropped.
-/

namespace BleWsCentral.Server

open BleWsCentral.Found

/-! ## The process -/

/-- What awaiting the handle of the update task gives. -/
inductive JoinResult
  /-- `Ok(result)`: the task ran to its end. -/
  | finished (result : Except DbError Unit)
  /-- `Err(e)`: the task panicked. -/
  | joinError

/-- Whether the branch `Err(e) = update_task` of the `select!` is taken. -/
def shutdownOn : JoinResult → Bool
  | .joinError => true
  | .finished _ => false

/-- The process: `updateTask` is the output of the update task once it ended. -/
structure Process where
  ctx : Context
  updateTask : Option (Except DbError Unit)
  serving : Bool

namespace Process

/-- The sources yield a batch; nobody takes it when the update task has ended. -/
def step (self : Process) (item : UpdateItem) : Process :=
  match self.updateTask with
  | some _ => self
  | none =>
      match updateBatch .none self.ctx item with
      | (.ok (), ctx) => { self with ctx }
      | (.error e, ctx) =>
          { ctx
            updateTask := some (.error e)
            serving := self.serving && !shutdownOn (.finished (.error e)) }

end Process

/-- What a batch that is processed to the end does: the update task goes on, the states of the batch
are in memory, and the readings that are later than the last one of their log are in it. -/
structure Processed (before after : Process) (item : UpdateItem) : Prop where
  running : after.updateTask = none
  states : ∀ (id : Uuid) (state : SensorState), item[id]? = some state →
    (after.ctx.sensors[id]?).map Sensor.state = some state
  readings : ∀ (id : Uuid) (values : SensorValues), item[id]? = some (.connected values) →
    (before.ctx.db.env.store.log id).fits (.new values.timestamp) = true →
      (LEU32.new values.timestamp, values.toRaw) ∈ (after.ctx.db.env.store.log id).entries

/-- Every batch is processed to the end, or the server shuts down. -/
def Flows : Process → List UpdateItem → Prop
  | _, [] => True
  | p, item :: items =>
      (Processed p (p.step item) item ∨ (p.step item).serving = false) ∧ Flows (p.step item) items

/-! ## The readings of a sensor -/

/-- The keys of the readings of a sensor in a sequence of batches. -/
def keys (items : List UpdateItem) (id : Uuid) : List LEU32 :=
  items.filterMap fun item => (reading item id).map fun values => .new values.timestamp

/-- No reading is rejected, and none that is later than the last one of its log is dropped: the
readings of a sensor with a log get later and later, and those of a sensor without one are not new. -/
def Sound (ctx : Context) (items : List UpdateItem) : Prop :=
  ∀ id, if id ∈ ctx.db.sensorLog then
      AppendLog.Increasing ((ctx.db.env.store.log id).last.toList ++ keys items id)
    else ∀ key ∈ keys items id, (ctx.db.env.store.log id).fits key = false

theorem appended_eq (known : Bool) (item : UpdateItem) (id : Uuid) (log : SensorLog) :
    appended known item[id]? log =
      match reading item id with
      | some values => if known then log.append (.new values.timestamp) values.toRaw else some log
      | none => some log := by
  unfold appended reading
  split <;> simp_all

/-- Without readings there is nothing to reject or to drop. -/
theorem sound_nil_at (log : SensorLog) (known : Prop) [Decidable known] :
    if known then AppendLog.Increasing (log.last.toList ++ [])
      else ∀ key ∈ ([] : List LEU32), log.fits key = false := by
  split
  · cases log.last with
    | none => exact List.Pairwise.nil
    | some k => exact List.pairwise_singleton _ _
  · simp

/-- A sequence of keys that can be appended starts with one that can be, and goes on from it. -/
theorem sound_cons_at {log log' : SensorLog} {known : Bool} {item : UpdateItem} {id : Uuid}
    (h : appended known item[id]? log = some log') (items : List UpdateItem) :
    (if known then AppendLog.Increasing (log.last.toList ++ keys (item :: items) id)
      else ∀ key ∈ keys (item :: items) id, log.fits key = false) ↔
    (known = false → ∀ values, reading item id = some values →
      log.fits (.new values.timestamp) = false) ∧
    (if known then AppendLog.Increasing (log'.last.toList ++ keys items id)
      else ∀ key ∈ keys items id, log'.fits key = false) := by
  rw [appended_eq] at h
  cases hreading : reading item id with
  | none =>
      rw [hreading] at h
      cases h
      simp [keys, hreading]
  | some values =>
      rw [hreading] at h
      have hkeys : keys (item :: items) id = .new values.timestamp :: keys items id := by
        simp [keys, hreading]
      rw [hkeys]
      cases known with
      | false =>
          cases h
          simp
      | true =>
          have hfits := (AppendLog.append_eq_some.mp h).1
          simp only [if_true, AppendLog.increasing_last_cons, hfits, AppendLog.last_of_append h]
          simp

/-! ## When the data flows -/

/-- If no reading of the batch is rejected, it is processed, and it remains that no reading of it is
dropped. -/
theorem flows_cons_of_ok {p : Process} {item : UpdateItem} {ctx : Context}
    (hrunning : p.updateTask = none) (hserving : p.serving = true)
    (hbatch : updateBatch .none p.ctx item = (.ok (), ctx)) :
    p.step item = { p with ctx } ∧
      ((Processed p (p.step item) item ∨ (p.step item).serving = false) ↔
        ∀ id, id ∉ p.ctx.db.sensorLog → ∀ values, reading item id = some values →
          (p.ctx.db.env.store.log id).fits (.new values.timestamp) = false) := by
  have hstep : p.step item = { p with ctx } := by
    simp [Process.step, hrunning, hbatch]
  obtain ⟨-, -, hlogs, hsensors⟩ := of_updateBatch hbatch
  refine ⟨hstep, ?_⟩
  rw [hstep]
  constructor
  · rintro (hprocessed | hstopped)
    · intro id hid values hreading
      by_contra hfits
      have hmem := hprocessed.readings id values (reading_eq_some.mp hreading) (by simpa using hfits)
      have hlog := hlogs id
      rw [appended_eq, hreading, decide_eq_false hid] at hlog
      -- the log did not change, so the reading was in it already and is not later than its last one
      obtain hsame : p.ctx.db.env.store.log id = ctx.db.env.store.log id := by simpa using hlog
      have hlt := AppendLog.lt_of_fits (by simpa using hfits) (hsame ▸ hmem)
      rw [Std.ReflOrd.compare_self] at hlt
      cases hlt
    · rw [hserving] at hstopped
      cases hstopped
  · intro hdropped
    refine .inl ⟨hrunning, fun id state hstate => ?_, fun id values hvalues hfits => ?_⟩
    · rw [hsensors, getElem?_applyBatch, hstate]
      rfl
    · have hreading := reading_eq_some.mpr hvalues
      have hid : id ∈ p.ctx.db.sensorLog := by
        by_contra hid
        rw [hdropped id hid values hreading] at hfits
        cases hfits
      have hlog := hlogs id
      rw [appended_eq, hreading, decide_eq_true hid] at hlog
      exact (AppendLog.mem_of_append hlog).mpr (.inr rfl)

/-- A batch with a reading that is rejected ends the update task, and the server goes on serving. -/
theorem not_flows_of_error {p : Process} {item : UpdateItem} {ctx : Context} {e : DbError}
    (hrunning : p.updateTask = none) (hserving : p.serving = true)
    (hbatch : updateBatch .none p.ctx item = (.error e, ctx)) :
    ¬ (Processed p (p.step item) item ∨ (p.step item).serving = false) := by
  have hstep : p.step item = { ctx, updateTask := some (.error e), serving := true } := by
    simp [Process.step, hrunning, hbatch, hserving, shutdownOn]
  rw [hstep]
  rintro (hprocessed | hstopped)
  · cases hprocessed.running
  · cases hstopped

/-- A batch is rejected only if one of its readings is not later than the last one of its log. -/
theorem not_sound_of_error {self self' : Context} {item : UpdateItem} {e : DbError}
    (hbatch : updateBatch .none self item = (.error e, self')) (items : List UpdateItem) :
    ¬ Sound self (item :: items) := by
  intro hsound
  have happend : ∀ id, (appended (decide (id ∈ self.db.sensorLog)) item[id]?
      (self.db.env.store.log id)).isSome := by
    intro id
    rw [appended_eq]
    cases hreading : reading item id with
    | none => rfl
    | some values =>
        by_cases hid : id ∈ self.db.sensorLog
        · have hkeys := hsound id
          rw [if_pos hid] at hkeys
          simp only [keys, List.filterMap_cons, hreading, Option.map_some,
            AppendLog.increasing_last_cons] at hkeys
          simp [hid, AppendLog.isSome_append, hkeys.1]
        · simp [hid]
  obtain ⟨self'', hok⟩ := exists_updateBatch happend
  rw [hbatch] at hok
  cases hok

/-- **The flow of data.** In a server whose update task runs, every batch of a sequence is processed to
the end, or the server shuts down, if and only if the readings of every sensor with a log get later and
later, from the last one in its log on, and those of the other sensors are not new: a reading that is
rejected ends the update task, and nobody looks at what it ended with. -/
theorem flows_iff_sound {p : Process} (hrunning : p.updateTask = none) (hserving : p.serving = true)
    (items : List UpdateItem) : Flows p items ↔ Sound p.ctx items := by
  induction items generalizing p with
  | nil => exact iff_of_true trivial fun id => sound_nil_at _ _
  | cons item items ih =>
      rw [Flows]
      cases hbatch : updateBatch .none p.ctx item with
      | mk result ctx =>
          cases result with
          | error e =>
              exact iff_of_false (fun h => not_flows_of_error hrunning hserving hbatch h.1)
                (not_sound_of_error hbatch items)
          | ok u =>
              obtain ⟨hstep, hiff⟩ := flows_cons_of_ok hrunning hserving hbatch
              obtain ⟨hset, -, hlogs, -⟩ := of_updateBatch hbatch
              have hrest : Flows { p with ctx } items ↔ Sound ctx items := ih hrunning hserving
              rw [hiff, hstep, hrest]
              have hat := fun id => sound_cons_at (hlogs id) items
              simp only [decide_eq_true_eq, decide_eq_false_iff_not] at hat
              simp only [Sound, hset, hat, forall_and]

/-- The theorem for a sensor that was known, with two readings one second apart. -/
theorem flows_iff_sound_two_readings :
    ∃ ctx : Context, Context.create ⟨(∅ : BTreeMap Uuid IdDbEntry).insert 3 {}, ∅⟩ = .ok ctx ∧
      Flows { ctx, updateTask := none, serving := true }
        [(∅ : UpdateItem).insert 3 (.connected ⟨100, 2150, 101325, 40⟩),
          (∅ : UpdateItem).insert 3 (.connected ⟨101, 2150, 101325, 40⟩)] := by
  refine ⟨_, rfl, (flows_iff_sound rfl rfl _).mpr fun id => ?_⟩
  by_cases hid : id = 3
  · subst hid
    rw [if_pos (by decide +kernel)]
    unfold AppendLog.Increasing
    decide +kernel
  · have hother : ((3 : Uuid) = id) = False := eq_false (Ne.symm hid)
    have hkeys : keys [(∅ : UpdateItem).insert 3 (.connected ⟨100, 2150, 101325, 40⟩),
        (∅ : UpdateItem).insert 3 (.connected ⟨101, 2150, 101325, 40⟩)] id = [] := by
      simp only [keys, reading, List.filterMap_cons, Std.ExtTreeMap.getElem?_insert,
        Std.LawfulEqOrd.compare_eq_iff_eq, hother, if_false, Std.ExtTreeMap.getElem?_empty]
      rfl
    rw [hkeys]
    exact sound_nil_at _ _

/-- Two readings of one sensor within a second end the update task, and the server goes on serving. -/
theorem repeated_timestamp_not_flows :
    ∃ (ctx : Context) (items : List UpdateItem),
      Context.create ⟨(∅ : BTreeMap Uuid IdDbEntry).insert 3 {}, ∅⟩ = .ok ctx ∧
        ¬ Flows { ctx, updateTask := none, serving := true } items := by
  refine ⟨_, [(∅ : UpdateItem).insert 3 (.connected ⟨100, 2150, 101325, 40⟩),
    (∅ : UpdateItem).insert 3 (.connected ⟨100, 2160, 101325, 41⟩)], rfl, ?_⟩
  rintro ⟨-, hsecond | hsecond, -⟩
  · have hrunning := hsecond.running
    exact absurd hrunning (by decide +kernel)
  · exact absurd hsecond (by decide +kernel)

end BleWsCentral.Server
