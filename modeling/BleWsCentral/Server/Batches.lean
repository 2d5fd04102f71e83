import BleWsCentral.Server.SensorLog

/-!
# What a batch leaves behind

What processing a batch does to the readings in the logs, whether it succeeds or fails.

* `logged_of_updateBatch` — a batch that is processed appends its readings to the logs there are.
* `of_updateBatch_error` — a batch that fails leaves the logs and the sensors in memory alone; it may have
  memorized its new sensors.
-/

namespace BleWsCentral.Server

open BleWsCentral.Found

variable {faults : Faults} {self self' : Context} {item : UpdateItem}

/-- A log gets the reading of its sensor. -/
theorem map_ofEntry_appended {known : Bool} {id : Uuid} {log log' : SensorLog}
    (h : appended known item[id]? log = some log') :
    log'.entries.map ofEntry = log.entries.map ofEntry ++
      if known then (reading item id).toList else [] := by
  cases hstate : item[id]? with
  | none =>
      rw [hstate] at h
      cases h
      simp [reading, hstate]
  | some state =>
      cases state with
      | unconnected =>
          rw [hstate] at h
          cases h
          simp [reading, hstate]
      | connected values =>
          rw [reading_eq_some.mpr hstate, Option.toList_some]
          simp only [hstate, appended] at h
          split at h
          · rename_i hknown
            obtain ⟨-, hentries⟩ := AppendLog.append_eq_some.mp h
            rw [hentries, List.map_append, List.map_singleton, if_pos hknown]
            exact congrArg (fun values => log.entries.map ofEntry ++ [values]) (ofEntry_toEntry values)
          · rename_i hunknown
            cases h
            rw [if_neg hunknown, List.append_nil]

/-- A batch that is processed appends its readings to the logs there are. -/
theorem logged_of_updateBatch (h : updateBatch faults self item = (.ok (), self')) :
    self'.db.sensorLog = self.db.sensorLog ∧
      ∀ id, self'.db.logged id = self.db.logged id ++
        if id ∈ self.db.sensorLog then (reading item id).toList else [] := by
  obtain ⟨hset, -, hlogs, -⟩ := of_updateBatch h
  refine ⟨hset, fun id => ?_⟩
  rw [Db.logged, map_ofEntry_appended (hlogs id), ← Db.logged]
  simp only [decide_eq_true_eq]

/-- A batch that fails leaves the logs and the sensors in memory alone. The sensors that `id_db` has then, and
did not have before, are among those of the batch. -/
theorem of_updateBatch_error {e : DbError} (h : updateBatch faults self item = (.error e, self')) :
    self'.sensors = self.sensors ∧ self'.db.sensorLog = self.db.sensorLog ∧
      (∀ id, self'.db.logged id = self.db.logged id) ∧
      ∀ id : Uuid, (self'.db.env.store.addr[id]?).isSome = true →
        (self.db.env.store.addr[id]?).isSome = true ∨ id ∈ item := by
  unfold updateBatch at h
  cases hread : memorizeRead faults self.db item with
  | error e' =>
      simp only [hread] at h
      cases h
      exact ⟨rfl, rfl, fun _ => rfl, fun _ h => .inl h⟩
  | ok newSensors =>
      cases hwrite : memorizeWrite faults self.db newSensors with
      | error e' =>
          simp only [hread, hwrite] at h
          cases h
          exact ⟨rfl, rfl, fun _ => rfl, fun _ h => .inl h⟩
      | ok db =>
          obtain ⟨hset, hlogs, haddr⟩ := of_memorizeWrite (nodup_of_memorizeRead hread) hwrite
          cases hlog : logBatch faults db item with
          | ok db' => simp [hread, hwrite, hlog] at h
          | error e' =>
              simp only [hread, hwrite, hlog] at h
              cases h
              refine ⟨rfl, hset, fun id => ?_, fun id hid => ?_⟩
              · rw [Db.logged, hlogs, ← Db.logged]
              · rw [haddr] at hid
                split at hid
                · rename_i hnew
                  exact .inr ((mem_of_memorizeRead hread).mp hnew).1
                · exact .inl hid

/-- The sensors that `id_db` has after a batch was processed are those it had, and those of the batch. -/
theorem known_of_updateBatch (h : updateBatch faults self item = (.ok (), self')) (id : Uuid) :
    (self'.db.env.store.addr[id]?).isSome = true ↔
      (self.db.env.store.addr[id]?).isSome = true ∨ id ∈ item := by
  obtain ⟨-, haddr, -⟩ := of_updateBatch h
  rw [haddr]
  split
  · rename_i hnew
    simp [hnew.1]
  · rename_i hold
    constructor
    · exact .inl
    · rintro (hknown | hmem)
      · exact hknown
      · rw [Option.isSome_iff_ne_none]
        exact fun hnone => hold ⟨hmem, hnone⟩

end BleWsCentral.Server
