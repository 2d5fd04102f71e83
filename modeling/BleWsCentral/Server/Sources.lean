import BleWsCentral.Found.Local
import BleWsCentral.Server.Batches
import BleWsCentral.Server.Commute

/-!
# The sources of updates

`run` hands `update` the batches of all sources, in the order in which `select_all` yields them: those of one
source in their order, and otherwise in any.

* `SensorPart`, `Context.part` — what a context holds of one sensor.
* `SensorPart.updated` — what a batch does to it; `local_updateStep`: a batch works sensor by sensor.
* `exists_update_iff` — batches are processed as long as the readings of each sensor with a log get later.
* `update_merged` — sources with different sensors do not get in each other's way.
-/

namespace BleWsCentral.Server

open BleWsCentral.Found

/-- What there is of a sensor: its entry, whether it has a log, the log, and what is in memory. -/
structure SensorPart where
  addr : Option IdDbEntry
  known : Bool
  log : SensorLog
  sensor : Option Sensor

/-- What a context holds of a sensor. -/
def Context.part (self : Context) (id : Uuid) : SensorPart where
  addr := self.db.env.store.addr[id]?
  known := decide (id ∈ self.db.sensorLog)
  log := self.db.env.store.log id
  sensor := self.sensors[id]?

/-- What a batch does to it. -/
def SensorPart.updated (item : UpdateItem) (id : Uuid) (part : SensorPart) : Option SensorPart :=
  (appended part.known item[id]? part.log).map fun log =>
    { addr := if id ∈ item ∧ part.addr = none then some {} else part.addr
      known := part.known
      log
      sensor := (item[id]?.map fun state => ⟨part.sensor.bind Sensor.label, state⟩).or part.sensor }

/-- The loop body of `update`, as long as the backend does not fail. -/
def processed? (self : Context) (item : UpdateItem) : Except DbError Context := updateStep self (.none, item)

variable {self ctx : Context} {items : List UpdateItem}

theorem update_eq_run : update self (items.map (Faults.none, ·)) = (.ok (), ctx) ↔
    Run (Fallible processed?) self items ctx := by
  rw [update_eq_ok]
  induction items generalizing self with
  | nil => rw [List.map_nil, Run.nil_iff, Run.nil_iff]
  | cons item items ih =>
      rw [List.map_cons, Run.cons_iff, Run.cons_iff]
      exact exists_congr fun mid => and_congr_right fun _ => ih

/-- A batch works sensor by sensor. -/
theorem local_updateStep : Local (Fallible processed?) Context.part SensorPart.updated where
  at_each := by
    intro self item self' hstep id
    obtain ⟨hset, haddr, hlogs, hsensors⟩ := of_updateBatch (updateStep_eq_ok.mp hstep)
    unfold SensorPart.updated Context.part
    simp only [hlogs id, Option.map_some, hset, haddr id, hsensors, getElem?_applyBatch]
    cases item[id]? <;> rfl
  exists_step := by
    intro self item hall
    have hupdate : ∃ self', updateBatch .none self item = (.ok (), self') := by
      apply exists_updateBatch
      intro id
      have hid := hall id
      rwa [SensorPart.updated, Option.isSome_map] at hid
    obtain ⟨self', hupdate⟩ := hupdate
    exact ⟨self', updateStep_eq_ok.mpr hupdate⟩

/-- Whether a batch has something of a sensor. -/
def has (item : UpdateItem) (id : Uuid) : Bool := decide (id ∈ item)

/-- A batch leaves the other sensors alone. -/
theorem touches_updated : Touches has SensorPart.updated := by
  intro item id part hid
  have hnot : id ∉ item := of_decide_eq_false hid
  unfold SensorPart.updated appended
  simp [hnot]

/-! ## Many batches -/

/-- The readings of a sensor in a sequence of batches. -/
def readings (items : List UpdateItem) (id : Uuid) : List SensorValues := items.filterMap (reading · id)

/-- The states of a sensor in a sequence of batches. -/
def states (items : List UpdateItem) (id : Uuid) : List SensorState := items.filterMap (·[id]?)

theorem of_updated {item : UpdateItem} {id : Uuid} {part part' : SensorPart}
    (h : part.updated item id = some part') :
    part'.known = part.known ∧
      part'.log.entries.map ofEntry =
        part.log.entries.map ofEntry ++ (if part.known then (reading item id).toList else []) ∧
      part'.sensor.map Sensor.state = item[id]?.or (part.sensor.map Sensor.state) := by
  obtain ⟨log, hlog, rfl⟩ := Option.map_eq_some_iff.mp h
  refine ⟨rfl, map_ofEntry_appended hlog, ?_⟩
  dsimp only
  cases item[id]? <;> rfl

/-- The log of a sensor gets all of its readings, and the last of its states is in memory. -/
theorem of_outcome {id : Uuid} {part part' : SensorPart}
    (h : outcome SensorPart.updated id items part = some part') :
    part'.known = part.known ∧
      part'.log.entries.map ofEntry = part.log.entries.map ofEntry ++ (if part.known then readings items id else []) ∧
      part'.sensor.map Sensor.state = (states items id).getLast?.or (part.sensor.map Sensor.state) := by
  induction items generalizing part with
  | nil =>
      cases h
      refine ⟨rfl, ?_, rfl⟩
      rw [readings, List.filterMap_nil, ite_self, List.append_nil]
  | cons item items ih =>
      unfold outcome at h
      rw [List.foldlM_cons] at h
      obtain ⟨mid, hmid, hrest⟩ := Option.bind_eq_some_iff.mp h
      obtain ⟨hknown, hlog, hstate⟩ := of_updated hmid
      obtain ⟨hknown', hlog', hstate'⟩ := ih hrest
      refine ⟨hknown'.trans hknown, ?_, ?_⟩
      · rw [hlog', hlog, hknown]
        unfold readings
        cases hreading : reading item id <;> cases part.known <;> simp [hreading]
      · rw [hstate', hstate]
        unfold states
        cases hitem : item[id]? with
        | none => simp [hitem]
        | some state =>
            simp only [List.filterMap_cons, hitem, List.getLast?_cons]
            cases (items.filterMap (·[id]?)).getLast? <;> rfl

/-- The batches can be processed if the readings of the sensor get later and later, if it has a log. -/
theorem isSome_outcome_iff {id : Uuid} {part : SensorPart} :
    (outcome SensorPart.updated id items part).isSome ↔
      (part.known = true → Chronological (part.log.entries.map ofEntry ++ readings items id)) := by
  constructor
  · intro h hknown
    obtain ⟨part', hpart⟩ := Option.isSome_iff_exists.mp h
    obtain ⟨-, hlog, -⟩ := of_outcome hpart
    rw [hknown, if_pos rfl] at hlog
    rw [← hlog]
    exact chronological_entries part'.log
  · intro h
    induction items generalizing part with
    | nil => rfl
    | cons item items ih =>
        have hupdated : (part.updated item id).isSome := by
          rw [SensorPart.updated, Option.isSome_map]
          unfold appended
          split
          · rename_i values hvalues
            split
            · rename_i hknown
              rw [AppendLog.isSome_append]
              apply fits_of_chronological
              have hreadings : readings (item :: items) id = values :: readings items id :=
                List.filterMap_cons_some (reading_eq_some.mpr hvalues)
              have hall := h hknown
              rw [hreadings, List.append_cons] at hall
              exact (List.pairwise_append.mp hall).1
            · rfl
          · rfl
        obtain ⟨mid, hmid⟩ := Option.isSome_iff_exists.mp hupdated
        obtain ⟨hknown, hlog, -⟩ := of_updated hmid
        unfold outcome
        rw [List.foldlM_cons, hmid]
        refine ih fun hk => ?_
        rw [hknown] at hk
        have hall := h hk
        rw [hlog, hk, if_pos rfl, List.append_assoc]
        unfold readings at hall ⊢
        cases hreading : reading item id <;> simpa [hreading] using hall

/-- Batches are processed as long as the readings of each sensor with a log get later and later. -/
theorem exists_update_iff : (∃ ctx, update self (items.map (Faults.none, ·)) = (.ok (), ctx)) ↔
    ∀ id ∈ self.db.sensorLog, Chronological (self.db.logged id ++ readings items id) := by
  simp only [update_eq_run]
  rw [local_updateStep.exists_run_iff]
  refine forall_congr' fun id => ?_
  rw [isSome_outcome_iff]
  exact imp_congr decide_eq_true_iff Iff.rfl

/-- What is logged then, and what is shown. -/
theorem of_update (h : update self (items.map (Faults.none, ·)) = (.ok (), ctx)) (id : Uuid) :
    ctx.db.logged id = self.db.logged id ++ (if id ∈ self.db.sensorLog then readings items id else []) ∧
      ctx.sensors[id]?.map Sensor.state =
        (states items id).getLast?.or (self.sensors[id]?.map Sensor.state) := by
  obtain ⟨-, hlog, hstate⟩ := of_outcome (local_updateStep.outcome_of_run (update_eq_run.mp h) id)
  refine ⟨?_, hstate⟩
  rw [Db.logged]
  refine hlog.trans (congrArg (self.db.logged id ++ ·) ?_)
  exact if_congr decide_eq_true_iff rfl rfl

theorem sameAt_of_part {id : Uuid} {self' : Context} (h : self.part id = self'.part id) :
    SameAt id self self' where
  addr := congrArg SensorPart.addr h
  known := decide_eq_decide.mp (congrArg SensorPart.known h)
  log := congrArg SensorPart.log h
  sensor := congrArg SensorPart.sensor h

/-- Batches leave alone the sensors that none of them has. -/
theorem sameAt_of_update (h : update self (items.map (Faults.none, ·)) = (.ok (), ctx)) {id : Uuid}
    (hid : ∀ item ∈ items, id ∉ item) : SameAt id self ctx := by
  apply sameAt_of_part
  have hout := local_updateStep.outcome_of_run (update_eq_run.mp h) id
  rw [outcome_of_forall touches_updated fun item hitem => decide_eq_false (hid item hitem)] at hout
  exact Option.some.inj hout

/-! ## Several sources -/

/-- **Sources of updates.** The batches of any number of sources, no two of which have a sensor in common, are all
processed if and only if those of each source would be without the other sources, whatever the order in
which the sources take turns. Each sensor then has the entry, the log and the state that it would have if
its source was the only one, and the sensors of no source are left alone. -/
theorem update_merged (self : Context) {sources : List (List UpdateItem)} {out : List UpdateItem}
    (hmerge : Merge sources out) (hdisjoint : sources.Pairwise fun source other =>
      ∀ item ∈ source, ∀ item' ∈ other, ∀ id : Uuid, id ∈ item → id ∉ item') :
    ((∃ ctx, update self (out.map (Faults.none, ·)) = (.ok (), ctx)) ↔
        ∀ source ∈ sources, ∃ ctx, update self (source.map (Faults.none, ·)) = (.ok (), ctx)) ∧
      ∀ ctx, update self (out.map (Faults.none, ·)) = (.ok (), ctx) →
        (∀ source ∈ sources, ∀ ctx', update self (source.map (Faults.none, ·)) = (.ok (), ctx') →
          ∀ item ∈ source, ∀ id : Uuid, id ∈ item → SameAt id ctx ctx') ∧
        ∀ id : Uuid, (∀ source ∈ sources, ∀ item ∈ source, id ∉ item) → SameAt id self ctx := by
  have hseparate : Separate has sources := by
    apply hdisjoint.imp
    intro source other hboth item hitem item' hitem' id hid
    exact decide_eq_false (hboth item hitem item' hitem' id (of_decide_eq_true hid))
  simp only [update_eq_run]
  refine ⟨local_updateStep.exists_merged_iff touches_updated hmerge hseparate, fun ctx hrun => ⟨?_, ?_⟩⟩
  · intro source hsource ctx' halone item hitem id hid
    apply sameAt_of_part
    exact local_updateStep.get_merged touches_updated hmerge hseparate hrun hsource halone hitem
      (decide_eq_true hid)
  · intro id hnone
    apply sameAt_of_part
    symm
    apply local_updateStep.get_merged_of_forall touches_updated hmerge hseparate hrun
    intro source hsource item hitem
    exact decide_eq_false (hnone source hsource item hitem)

/-- Two sources, each with one sensor. -/
def twoSources : List (List UpdateItem) :=
  [[(∅ : UpdateItem).insert 1 (.connected ⟨100, 2150, 101325, 40⟩), (∅ : UpdateItem).insert 1 .unconnected],
    [(∅ : UpdateItem).insert 2 (.connected ⟨90, 1900, 101325, 50⟩)]]

/-- The theorem for these, with the batch of the second one between those of the first. -/
theorem update_merged_two :
    ∃ (self ctx ctx' : Context), Context.create ⟨(∅ : BTreeMap Uuid IdDbEntry).insert 2 {}, ∅⟩ = .ok self ∧
      update self [(.none, (∅ : UpdateItem).insert 1 (.connected ⟨100, 2150, 101325, 40⟩)),
        (.none, (∅ : UpdateItem).insert 2 (.connected ⟨90, 1900, 101325, 50⟩)),
        (.none, (∅ : UpdateItem).insert 1 .unconnected)] = (.ok (), ctx) ∧
      update self [(.none, (∅ : UpdateItem).insert 2 (.connected ⟨90, 1900, 101325, 50⟩))] = (.ok (), ctx') ∧
      SameAt 2 ctx ctx' := by
  have hruns : ∃ (self ctx ctx' : Context),
      Context.create ⟨(∅ : BTreeMap Uuid IdDbEntry).insert 2 {}, ∅⟩ = .ok self ∧
      update self [(.none, (∅ : UpdateItem).insert 1 (.connected ⟨100, 2150, 101325, 40⟩)),
        (.none, (∅ : UpdateItem).insert 2 (.connected ⟨90, 1900, 101325, 50⟩)),
        (.none, (∅ : UpdateItem).insert 1 .unconnected)] = (.ok (), ctx) ∧
      update self [(.none, (∅ : UpdateItem).insert 2 (.connected ⟨90, 1900, 101325, 50⟩))] = (.ok (), ctx') :=
    ⟨_, _, _, rfl, rfl, rfl⟩
  obtain ⟨self, ctx, ctx', hcreate, hrun, halone⟩ := hruns
  have hmerge : Merge twoSources [(∅ : UpdateItem).insert 1 (.connected ⟨100, 2150, 101325, 40⟩),
      (∅ : UpdateItem).insert 2 (.connected ⟨90, 1900, 101325, 50⟩), (∅ : UpdateItem).insert 1 .unconnected] :=
    @Merge.next _ [] _ _ _ _ (@Merge.next _ [_] _ _ _ _ (@Merge.next _ [] _ _ _ _ (.done (by simp))))
  have hdisjoint : twoSources.Pairwise fun source other =>
      ∀ item ∈ source, ∀ item' ∈ other, ∀ id : Uuid, id ∈ item → id ∉ item' := by
    simp [twoSources]
  have hsources := (update_merged self hmerge hdisjoint).2 ctx hrun
  refine ⟨self, ctx, ctx', hcreate, hrun, halone, ?_⟩
  exact hsources.1 [_] (by simp [twoSources]) ctx' halone _ List.mem_cons_self 2 (by simp)

end BleWsCentral.Server
