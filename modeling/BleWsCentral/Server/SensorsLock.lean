import BleWsCentral.Found.FairLock
import BleWsCentral.Server.Publishing

/-!
# The lock of the sensors

`Context::sensors` is a `tokio::sync::RwLock`, which is handed out in the order in which it was asked for. Callers of
`modify_sensors` and the handler `overview` are done with it as soon as they have it. `mqtt_publish` is not: it holds
the lock for a whole round, and waits in it for the broker to take what it sends.

* `SensorsParty` — those who ask for the lock.
* `SharedSensors`, `SharedSensors.step` — the sensors, the lock, and where `mqtt_publish` is in its round.
* `publishes_snapshots` — a round publishes the sensors as they were at one moment.
* `served_iff` — nobody waits forever as long as the broker goes on; and who is served even if it does not.
-/

namespace BleWsCentral.Server

open BleWsCentral.Found

/-- `mqtt_publish`, a call of `modify_sensors`, and a call of the handler `overview`. -/
inductive SensorsParty
  | publisher
  | modifier (r : ℕ)
  | overview (r : ℕ)
deriving DecidableEq

/-- `read_sensors` or `modify_sensors`. -/
def SensorsParty.mode : SensorsParty → Mode
  | .publisher => .read
  | .modifier _ => .write
  | .overview _ => .read

/-- The sensors and their lock, and `mqtt_publish` with the position in the round. -/
structure SharedSensors where
  lock : FairLock SensorsParty
  sensors : Sensors
  publisher : Publisher
  position : ℕ

/-- A step of one of them. -/
inductive SensorsStep
  | ask (i : SensorsParty)
  /-- The first one that waits gets the lock. -/
  | grant
  /-- `mqtt_publish` is done with the next sensor. -/
  | publish
  /-- The end of a round. -/
  | rest
  /-- `modify_sensors` applies its closure. -/
  | modify (r : ℕ) (f : Sensors → Sensors)
  /-- `overview` reads the sensors. -/
  | overview (r : ℕ)

namespace SharedSensors

def init (sensors : Sensors) : SharedSensors where
  lock := .init
  sensors := sensors
  publisher := { topicBuf := "", jsonBuf := [], published := [] }
  position := 0

def step (F : PublishFormats) (s : SharedSensors) : SensorsStep → Option SharedSensors
  | .ask i => (s.lock.step (.ask i i.mode)).map fun lock => { s with lock }
  | .grant => (s.lock.step .grant).map fun lock => { s with lock }
  | .publish =>
      if s.lock.Holds .publisher then
        match s.sensors.toList[s.position]? with
        | some entry =>
            (publishSensor F s.publisher entry).map fun publisher =>
              { s with publisher, position := s.position + 1 }
        | none => none
      else none
  | .rest =>
      if s.position = s.sensors.toList.length then
        (s.lock.step (.release .publisher)).map fun lock => { s with lock, position := 0 }
      else none
  | .modify r f =>
      (s.lock.step (.release (.modifier r))).map fun lock => { s with lock, sensors := f s.sensors }
  | .overview r => (s.lock.step (.release (.overview r))).map fun lock => { s with lock }

variable {F : PublishFormats} {s s' : SharedSensors} {a : SensorsStep} {l : List SensorsStep}
  {sensors : Sensors} {i : SensorsParty}

/-- The steps, with what they need. -/
inductive Effect (F : PublishFormats) (s : SharedSensors) : SensorsStep → SharedSensors → Prop
  | ask {i : SensorsParty} {lock : FairLock SensorsParty} (hlock : s.lock.step (.ask i i.mode) = some lock) :
      Effect F s (.ask i) { s with lock }
  | grant {lock : FairLock SensorsParty} (hlock : s.lock.step .grant = some lock) :
      Effect F s .grant { s with lock }
  | publish {entry : Uuid × Sensor} {publisher : Publisher} (hholds : s.lock.Holds .publisher)
      (hentry : s.sensors.toList[s.position]? = some entry)
      (hpublish : publishSensor F s.publisher entry = some publisher) :
      Effect F s .publish { s with publisher, position := s.position + 1 }
  | rest {lock : FairLock SensorsParty} (hend : s.position = s.sensors.toList.length)
      (hlock : s.lock.step (.release .publisher) = some lock) : Effect F s .rest { s with lock, position := 0 }
  | modify {r : ℕ} {f : Sensors → Sensors} {lock : FairLock SensorsParty}
      (hlock : s.lock.step (.release (.modifier r)) = some lock) :
      Effect F s (.modify r f) { s with lock, sensors := f s.sensors }
  | overview {r : ℕ} {lock : FairLock SensorsParty} (hlock : s.lock.step (.release (.overview r)) = some lock) :
      Effect F s (.overview r) { s with lock }

theorem effect_of_step (h : s.step F a = some s') : s.Effect F a s' := by
  unfold step at h
  split at h
  · obtain ⟨lock, hlock, rfl⟩ := Option.map_eq_some_iff.mp h
    exact .ask hlock
  · obtain ⟨lock, hlock, rfl⟩ := Option.map_eq_some_iff.mp h
    exact .grant hlock
  · split at h
    · split at h
      · obtain ⟨publisher, hpublish, rfl⟩ := Option.map_eq_some_iff.mp h
        exact .publish ‹_› ‹_› hpublish
      · cases h
    · cases h
  · split at h
    · obtain ⟨lock, hlock, rfl⟩ := Option.map_eq_some_iff.mp h
      exact .rest ‹_› hlock
    · cases h
  · obtain ⟨lock, hlock, rfl⟩ := Option.map_eq_some_iff.mp h
    exact .modify hlock
  · obtain ⟨lock, hlock, rfl⟩ := Option.map_eq_some_iff.mp h
    exact .overview hlock

/-- What a step does to the lock. -/
def lockStep : SensorsStep → Option (LockStep SensorsParty)
  | .ask i => some (.ask i i.mode)
  | .grant => some .grant
  | .publish => none
  | .rest => some (.release .publisher)
  | .modify r _ => some (.release (.modifier r))
  | .overview r => some (.release (.overview r))

theorem lock_of_step (h : s.step F a = some s') :
    match lockStep a with
    | some b => s.lock.step b = some s'.lock
    | none => s'.lock = s.lock := by
  cases effect_of_step h with
  | ask hlock | grant hlock | rest _ hlock | modify hlock | overview hlock => exact hlock
  | publish => rfl

/-- The sensors after a step. -/
def after (sensors : Sensors) : SensorsStep → Sensors
  | .modify _ f => f sensors
  | _ => sensors

/-- The sensors after each of the steps. -/
def history (sensors : Sensors) : List SensorsStep → List Sensors
  | [] => []
  | a :: l => after sensors a :: history (after sensors a) l

theorem history_concat (sensors : Sensors) (l : List SensorsStep) (a : SensorsStep) :
    history sensors (l ++ [a]) = history sensors l ++ [after (l.foldl after sensors) a] := by
  induction l generalizing sensors with
  | nil => rfl
  | cons b l ih => exact congrArg (after sensors b :: ·) (ih (after sensors b))

/-- The end of a round. -/
def isRest : SensorsStep → Bool
  | .rest => true
  | _ => false

/-! ## Rounds -/

/-- What holds after a run from `sensors`: everybody asks for what it should, what was published is that of whole
rounds and of the part of a round that is over, and each round was about the sensors after one of the steps. -/
structure PublishInv (F : PublishFormats) (sensors : Sensors) (l : List SensorsStep) (s : SharedSensors) :
    Prop where
  sound : s.lock.Sound
  modes : ∀ e ∈ s.lock.queue, e.2 = e.1.mode
  value : s.sensors = l.foldl after sensors
  idle : ¬ s.lock.Holds .publisher → s.position = 0
  inside : s.position ≤ s.sensors.toList.length
  rounds : ∃ rounds : List Sensors,
    mqttPublish F (rounds.map (·.toList) ++ [s.sensors.toList.take s.position]) = some s.publisher ∧
      rounds.length = l.countP isRest ∧
      rounds.Sublist (history sensors l) ∧
      (s.lock.Holds .publisher → (rounds ++ [s.sensors]).Sublist (history sensors l))

theorem PublishInv.init (F : PublishFormats) (sensors : Sensors) : PublishInv F sensors [] (init sensors) where
  sound := .init
  modes := by
    intro e he
    cases he
  value := rfl
  idle _ := rfl
  inside := Nat.zero_le _
  rounds := ⟨[], rfl, rfl, List.Sublist.slnil, fun hholds => absurd hholds List.not_mem_nil⟩

/-- A sensor more in the last round. -/
theorem mqttPublish_concat (F : PublishFormats) (rounds : List (List (Uuid × Sensor)))
    (front : List (Uuid × Sensor)) (entry : Uuid × Sensor) :
    mqttPublish F (rounds ++ [front ++ [entry]]) =
      (mqttPublish F (rounds ++ [front])).bind (publishSensor F · entry) := by
  unfold mqttPublish
  rw [foldlM_publishRound, foldlM_publishRound, List.flatten_append, List.flatten_append, List.flatten_singleton,
    List.flatten_singleton, ← List.append_assoc, List.foldlM_append]
  simp only [List.foldlM_cons, List.foldlM_nil]
  exact congrArg _ (funext fun publisher => bind_pure _)

/-- A round that has not begun. -/
theorem mqttPublish_nil (F : PublishFormats) (rounds : List (List (Uuid × Sensor))) :
    mqttPublish F (rounds ++ [[]]) = mqttPublish F rounds := by
  unfold mqttPublish
  rw [foldlM_publishRound, foldlM_publishRound, List.flatten_append, List.flatten_singleton, List.append_nil]

/-- Everybody asks for what it should. -/
theorem modes_of_step (h : s.step F a = some s') (hmodes : ∀ e ∈ s.lock.queue, e.2 = e.1.mode) :
    ∀ e ∈ s'.lock.queue, e.2 = e.1.mode := by
  intro e he
  have hlock := lock_of_step h
  cases hb : lockStep a with
  | none =>
      simp only [hb] at hlock
      rw [hlock] at he
      exact hmodes e he
  | some b =>
      simp only [hb] at hlock
      rcases FairLock.mem_queue_of_step hlock he with he | rfl
      · exact hmodes e he
      · cases a with
        | ask i =>
            obtain ⟨hi, hmode⟩ := LockStep.ask.inj (Option.some.inj hb)
            rw [← hmode, ← hi]
        | _ => cases hb

theorem sound_of_step (h : s.step F a = some s') (hsound : s.lock.Sound) : s'.lock.Sound := by
  have hlock := lock_of_step h
  cases hb : lockStep a with
  | none =>
      simp only [hb] at hlock
      rwa [hlock]
  | some b =>
      simp only [hb] at hlock
      exact hsound.step hlock

/-- Who applies a closure to the sensors holds the lock alone. -/
theorem not_holds_of_modify {r : ℕ} {lock : FairLock SensorsParty} (hsound : s.lock.Sound)
    (hmodes : ∀ e ∈ s.lock.queue, e.2 = e.1.mode) (hlock : s.lock.step (.release (.modifier r)) = some lock) :
    ¬ s.lock.Holds .publisher := by
  intro hholds
  obtain ⟨⟨_, mode⟩, hmem, rfl⟩ := List.mem_map.mp (FairLock.holds_of_release hlock)
  have hmode : mode = .write := hmodes _ (List.mem_append_left _ hmem)
  subst hmode
  have heq := hsound.eq_of_write hmem hholds
  cases heq

/-- Every step keeps it. -/
theorem PublishInv.step (h : PublishInv F sensors l s) (hstep : s.step F a = some s') :
    PublishInv F sensors (l ++ [a]) s' := by
  have hsound := sound_of_step hstep h.sound
  have hmodes := modes_of_step hstep h.modes
  obtain ⟨hvalue, hidle, hinside, rounds, hpublished, hlength, hrounds, hround⟩ := And.intro h.value
    (And.intro h.idle (And.intro h.inside h.rounds))
  have hvalue' : (l ++ [a]).foldl after sensors = after s.sensors a := by
    rw [List.foldl_append, ← hvalue]
    rfl
  have hhistory : history sensors (l ++ [a]) = history sensors l ++ [after s.sensors a] := by
    rw [history_concat, ← hvalue]
  have hcount : (l ++ [a]).countP isRest = rounds.length + if isRest a then 1 else 0 := by
    rw [List.countP_append, List.countP_singleton, hlength]
  have hgrows : ∀ {snapshots : List Sensors}, snapshots.Sublist (history sensors l) →
      snapshots.Sublist (history sensors (l ++ [a])) := by
    intro snapshots hsub
    rw [hhistory]
    exact hsub.trans (List.sublist_append_left _ _)
  cases effect_of_step hstep with
  | ask hlock =>
      refine ⟨hsound, hmodes, hvalue'.symm, fun hnot => hidle ?_, hinside, rounds, hpublished, hcount.symm,
        hgrows hrounds, fun hholds => hgrows (hround ?_)⟩
      · rwa [FairLock.holds_ask hlock] at hnot
      · rwa [FairLock.holds_ask hlock] at hholds
  | grant hlock =>
      refine ⟨hsound, hmodes, hvalue'.symm, fun hnot => hidle fun hholds => ?_, hinside, rounds, hpublished,
        hcount.symm, hgrows hrounds, fun _ => ?_⟩
      · exact hnot (FairLock.holds_grant hlock hholds)
      · -- a round is about the sensors as they are now
        rw [hhistory]
        exact hrounds.append (List.Sublist.refl _)
  | publish hholds hentry hpublish =>
      obtain ⟨hlt, hget⟩ := List.getElem?_eq_some_iff.mp hentry
      refine ⟨hsound, hmodes, hvalue'.symm, fun hnot => absurd hholds hnot, hlt, rounds, ?_, hcount.symm,
        hgrows hrounds, fun _ => hgrows (hround hholds)⟩
      dsimp only
      rw [List.take_succ_eq_append_getElem hlt, hget, mqttPublish_concat, hpublished]
      exact hpublish
  | rest hend hlock =>
      have hholds := FairLock.holds_of_release hlock
      refine ⟨hsound, hmodes, hvalue'.symm, fun _ => rfl, Nat.zero_le _, rounds ++ [s.sensors], ?_,
        ?_, hgrows (hround hholds), fun hholds' => ?_⟩
      · rw [hend, List.take_length] at hpublished
        rw [List.take_zero, mqttPublish_nil, List.map_append]
        exact hpublished
      · rw [hcount, List.length_append]
        rfl
      · exact absurd rfl ((FairLock.holds_release hlock).mp hholds').2
  | modify hlock =>
      have hnot := not_holds_of_modify h.sound h.modes hlock
      have hzero := hidle hnot
      refine ⟨hsound, hmodes, hvalue'.symm, fun _ => hzero, ?_, rounds, ?_, hcount.symm, hgrows hrounds,
        fun hholds => ?_⟩
      · dsimp only
        rw [hzero]
        exact Nat.zero_le _
      · dsimp only
        rw [hzero, List.take_zero] at hpublished ⊢
        exact hpublished
      · exact absurd ((FairLock.holds_release hlock).mp hholds).1 hnot
  | overview hlock =>
      refine ⟨hsound, hmodes, hvalue'.symm, fun hnot => hidle fun hholds => hnot ?_, hinside, rounds, hpublished,
        hcount.symm, hgrows hrounds, fun hholds => hgrows (hround ((FairLock.holds_release hlock).mp hholds).1)⟩
      exact (FairLock.holds_release hlock).mpr ⟨hholds, SensorsParty.noConfusion⟩

theorem PublishInv.run (h : Run (Partial (SharedSensors.step F)) (SharedSensors.init sensors) l s) :
    PublishInv F sensors l s :=
  h.history (fun _ _ _ _ hinv hstep => hinv.step hstep) (.init F sensors)

end SharedSensors

/-- **A round is a snapshot.** Whatever else happens in between, with which closures `modify_sensors` is called, and
how long the broker takes: what `mqtt_publish` has published is what it publishes of whole states of the
sensors, one for each round that is over and one for the part of the round it is in. These are the sensors
after some of the steps, in their order, and the last one are the sensors as they are now. -/
theorem publishes_snapshots {F : PublishFormats} {sensors : Sensors} {l : List SensorsStep} {s : SharedSensors}
    (h : Run (Partial (SharedSensors.step F)) (SharedSensors.init sensors) l s) :
    ∃ rounds : List Sensors,
      mqttPublish F (rounds.map (·.toList) ++ [s.sensors.toList.take s.position]) = some s.publisher ∧
        rounds.length = l.countP SharedSensors.isRest ∧
        rounds.Sublist (SharedSensors.history sensors l) ∧
        (s.position ≠ 0 → (rounds ++ [s.sensors]).Sublist (SharedSensors.history sensors l)) := by
  have hinv := SharedSensors.PublishInv.run h
  obtain ⟨rounds, hpublished, hlength, hrounds, hround⟩ := hinv.rounds
  refine ⟨rounds, hpublished, hlength, hrounds, fun hposition => hround ?_⟩
  by_contra hnot
  exact hposition (hinv.idle hnot)

/-- A sensor, with a temperature. -/
def oneSensor (temperature : Int16) : Sensors :=
  (∅ : Sensors).insert 1 ⟨none, .connected ⟨7, temperature, 100000, 40⟩⟩

/-- A round, and a call of `modify_sensors` that comes in while it goes on. -/
def roundAndChange : List SensorsStep :=
  [.ask .publisher, .grant, .ask (.modifier 0), .publish, .rest, .grant, .modify 0 fun _ => oneSensor 22]

/-- What is published is the temperature from before. -/
theorem publishes_snapshots_changed :
    ∃ s : SharedSensors, Run (Partial (SharedSensors.step decimalFormats))
        (SharedSensors.init (oneSensor 21)) roundAndChange s ∧
      s.sensors = oneSensor 22 ∧
      ∃ rounds : List Sensors, rounds.length = 1 ∧
        rounds.Sublist (List.replicate 6 (oneSensor 21) ++ [oneSensor 22]) ∧
        mqttPublish decimalFormats (rounds.map (·.toList) ++ [[]]) = some s.publisher ∧
        s.publisher.published = [(topic 1, json decimalFormats ⟨7, 21, 100000, 40⟩)] := by
  have hrun : ∃ s : SharedSensors, Run (Partial (SharedSensors.step decimalFormats))
        (SharedSensors.init (oneSensor 21)) roundAndChange s ∧ s.sensors = oneSensor 22 ∧ s.position = 0 ∧
      s.publisher.published = [(topic 1, json decimalFormats ⟨7, 21, 100000, 40⟩)] :=
    ⟨_, run_partial_iff.mpr rfl, rfl, rfl, by decide +kernel⟩
  obtain ⟨s, hrun, hsensors, hposition, hpublished⟩ := hrun
  obtain ⟨rounds, hrounds, hlength, hsnapshots, -⟩ := publishes_snapshots hrun
  rw [hposition, List.take_zero] at hrounds
  exact ⟨s, hrun, hsensors, rounds, hlength, hsnapshots, hrounds, hpublished⟩

namespace SharedSensors

variable {F : PublishFormats} {s s' : SharedSensors} {a : SensorsStep} {l : List SensorsStep}
  {sensors : Sensors} {i : SensorsParty}

/-! ## Who is served -/

/-- A step with which nobody comes in. -/
def goesOn : SensorsStep → Bool
  | .ask _ => false
  | _ => true

/-- Such a step that `mqtt_publish` has no part in. -/
def unpublished : SensorsStep → Bool
  | .grant => true
  | .modify _ _ => true
  | .overview _ => true
  | _ => false

theorem goesOn_of_unpublished (h : unpublished a = true) : goesOn a = true := by
  unfold unpublished at h
  split at h <;> first | rfl | cases h

/-- A step of the lock without `mqtt_publish` is a step of somebody else. -/
theorem exists_step_of_lock {b : LockStep SensorsParty} {lock : FairLock SensorsParty}
    (hb : FairLock.clears .publisher b = true) (h : s.lock.step b = some lock) :
    ∃ a s', unpublished a = true ∧ s.step F a = some s' ∧ s'.lock = lock := by
  cases b with
  | ask i mode => cases hb
  | grant => exact ⟨.grant, { s with lock }, rfl, by simp only [step, h, Option.map_some], rfl⟩
  | release i =>
      cases i with
      | publisher => exact absurd rfl (FairLock.clears_release.mp hb)
      | modifier r => exact ⟨.modify r id, _, rfl, by simp only [step, h, Option.map_some]; rfl, rfl⟩
      | overview r => exact ⟨.overview r, _, rfl, by simp only [step, h, Option.map_some]; rfl, rfl⟩

theorem exists_run_of_lock {bs : List (LockStep SensorsParty)} {lock : FairLock SensorsParty}
    (hbs : ∀ b ∈ bs, FairLock.clears .publisher b = true)
    (h : Run (Partial FairLock.step) s.lock bs lock) :
    ∃ l s', (∀ a ∈ l, unpublished a = true) ∧ Run (Partial (step F)) s l s' ∧ s'.lock = lock := by
  induction h with
  | nil => exact ⟨[], s, by simp, .nil s, rfl⟩
  | @snoc t u bs b _ hstep ih =>
      obtain ⟨l, s', hl, hrun, rfl⟩ := ih fun b hb => hbs b (List.mem_append_left _ hb)
      obtain ⟨a, s'', ha, hstep', rfl⟩ :=
        exists_step_of_lock (hbs b (List.mem_append_right _ (List.mem_singleton_self b))) hstep
      refine ⟨l ++ [a], s'', fun c hc => ?_, .snoc hrun hstep', rfl⟩
      rcases List.mem_append.mp hc with hc | hc
      · exact hl c hc
      · rwa [List.mem_singleton.mp hc]

/-- The lock takes part in every run. -/
theorem lock_run (h : Run (Partial (step F)) s l s') :
    Run (Partial FairLock.step) s.lock (l.filterMap lockStep) s'.lock := by
  induction h with
  | nil => exact .nil _
  | @snoc t u l a _ hstep ih =>
      have hlock := lock_of_step hstep
      rw [List.filterMap_append, List.filterMap_cons, List.filterMap_nil]
      cases hb : lockStep a with
      | none =>
          simp only [hb] at hlock ⊢
          rwa [List.append_nil, hlock]
      | some b =>
          simp only [hb] at hlock ⊢
          exact .snoc ih hlock

/-- Who has the lock, and is not `mqtt_publish`, is done with it in a step. -/
theorem exists_done (hsound : s.lock.Sound) (hne : i ≠ .publisher) (hholds : s.lock.Holds i) :
    ∃ a s', unpublished a = true ∧ s.step F a = some s' ∧ i ∉ s'.lock.parties := by
  have hlock : s.lock.step (.release i) = some (s.lock.leave i) := if_pos hholds
  obtain ⟨a, s', ha, hstep, heq⟩ := exists_step_of_lock (F := F) (FairLock.clears_release.mpr hne) hlock
  refine ⟨a, s', ha, hstep, ?_⟩
  rw [heq]
  exact hsound.notMem_of_release hlock

theorem exists_publishSensor (F : PublishFormats) (self : Publisher) (entry : Uuid × Sensor) :
    ∃ self', publishSensor F self entry = some self' := by
  obtain ⟨id, label, state⟩ := entry
  cases state with
  | connected values => exact ⟨_, publishSensor_connected F self id label values⟩
  | unconnected => exact ⟨self, rfl⟩

/-- A round comes to its end when the broker takes what is sent. -/
theorem exists_rest (hsound : s.lock.Sound) (hholds : s.lock.Holds .publisher)
    (hinside : s.position ≤ s.sensors.toList.length) :
    ∃ l s', (∀ a ∈ l, goesOn a = true) ∧ Run (Partial (step F)) s l s' ∧
      SensorsParty.publisher ∉ s'.lock.parties := by
  induction hn : s.sensors.toList.length - s.position generalizing s with
  | zero =>
      have hend : s.position = s.sensors.toList.length := by omega
      have hlock : s.lock.step (.release .publisher) = some (s.lock.leave .publisher) := if_pos hholds
      refine ⟨[.rest], { s with lock := s.lock.leave .publisher, position := 0 }, by simp [goesOn], .single ?_,
        hsound.notMem_of_release hlock⟩
      simp only [Partial, step, hend, hlock, if_true, Option.map_some]
  | succ n ih =>
      have hlt : s.position < s.sensors.toList.length := by omega
      obtain ⟨publisher, hpublish⟩ := exists_publishSensor F s.publisher s.sensors.toList[s.position]
      have hstep : s.step F .publish = some { s with publisher, position := s.position + 1 } := by
        simp only [step, if_pos hholds, List.getElem?_eq_getElem hlt, hpublish, Option.map_some]
      obtain ⟨l, s', hl, hrun, hgone⟩ :=
        ih (s := { s with publisher, position := s.position + 1 }) hsound hholds hlt (by dsimp only; omega)
      exact ⟨.publish :: l, s', List.forall_mem_cons.mpr ⟨rfl, hl⟩, hrun.cons hstep, hgone⟩

/-- Without `mqtt_publish`, everybody is served. -/
theorem exists_served_of_notMem (hsound : s.lock.Sound) (hi : i ∈ s.lock.parties)
    (hgone : SensorsParty.publisher ∉ s.lock.parties) :
    ∃ l s', (∀ a ∈ l, unpublished a = true) ∧ Run (Partial (step F)) s l s' ∧ i ∉ s'.lock.parties := by
  have hne : i ≠ .publisher := by
    rintro rfl
    exact hgone hi
  have hreads : ∀ mode, (SensorsParty.publisher, mode) ∈ s.lock.queue → mode = .read :=
    fun mode hmem => absurd (List.mem_map_of_mem hmem) hgone
  obtain ⟨bs, lock, hbs, hrun, hholds⟩ := FairLock.exists_held hsound hreads hi fun hbehind => hgone hbehind.mem
  obtain ⟨l, s', hl, hrun', rfl⟩ := exists_run_of_lock (F := F) hbs hrun
  obtain ⟨a, s'', ha, hstep, hdone⟩ := exists_done (F := F) (.run hrun hsound) hne hholds
  refine ⟨l ++ [a], s'', fun b hb => ?_, .snoc hrun' hstep, hdone⟩
  rcases List.mem_append.mp hb with hb | hb
  · exact hl b hb
  · rwa [List.mem_singleton.mp hb]

/-- `mqtt_publish` gets the lock, and its round comes to its end. -/
theorem exists_round_over (hinv : PublishInv F sensors l s) :
    ∃ l' s', (∀ a ∈ l', goesOn a = true) ∧ Run (Partial (step F)) s l' s' ∧ s'.lock.Sound ∧
      SensorsParty.publisher ∉ s'.lock.parties := by
  by_cases hgone : SensorsParty.publisher ∈ s.lock.parties
  · have hreads : ∀ mode, (SensorsParty.publisher, mode) ∈ s.lock.queue → mode = .read :=
      fun mode hmem => hinv.modes _ hmem
    obtain ⟨bs, lock, hbs, hrun, hholds⟩ :=
      FairLock.exists_held hinv.sound hreads hgone fun hbehind => hbehind.ne hinv.sound rfl
    obtain ⟨l₁, s₁, hl₁, hrun₁, rfl⟩ := exists_run_of_lock (F := F) hbs hrun
    have hinv₁ : ∃ l, PublishInv F sensors l s₁ := by
      refine hrun₁.invariant (I := fun s => ∃ l, PublishInv F sensors l s) ?_ ⟨l, hinv⟩
      rintro s a s' ⟨l, hinv⟩ hstep
      exact ⟨_, hinv.step hstep⟩
    obtain ⟨history, hinv₁⟩ := hinv₁
    obtain ⟨l₂, s₂, hl₂, hrun₂, hgone₂⟩ := exists_rest (F := F) hinv₁.sound hholds hinv₁.inside
    refine ⟨l₁ ++ l₂, s₂, fun a ha => ?_, hrun₁.append hrun₂, ?_, hgone₂⟩
    · rcases List.mem_append.mp ha with ha | ha
      · exact goesOn_of_unpublished (hl₁ a ha)
      · exact hl₂ a ha
    · exact hrun₂.invariant (I := fun s => s.lock.Sound) (fun _ _ _ hsound hstep => sound_of_step hstep hsound)
        hinv₁.sound
  · exact ⟨[], s, by simp, .nil s, hinv.sound, hgone⟩

end SharedSensors

/-- **Who is served.** In every reachable state, everybody who asked for the lock of the sensors can be served
without anybody else coming in: there is no deadlock, if the broker takes what is sent. If it does not, and
`mqtt_publish` stays where it is, then a caller of `modify_sensors` or of `overview` can still be served if
and only if there is no caller of `modify_sensors` behind `mqtt_publish` and up to this caller. -/
theorem served_iff {F : PublishFormats} {sensors : Sensors} {l : List SensorsStep} {s : SharedSensors}
    (h : Run (Partial (SharedSensors.step F)) (SharedSensors.init sensors) l s) {i : SensorsParty}
    (hi : i ∈ s.lock.parties) :
    (∃ l' s', (∀ a ∈ l', SharedSensors.goesOn a = true) ∧ Run (Partial (SharedSensors.step F)) s l' s' ∧
        i ∉ s'.lock.parties) ∧
      (i ≠ .publisher →
        ((∃ l' s', (∀ a ∈ l', SharedSensors.unpublished a = true) ∧
            Run (Partial (SharedSensors.step F)) s l' s' ∧ i ∉ s'.lock.parties) ↔
          ¬ s.lock.Behind .publisher i)) := by
  have hinv := SharedSensors.PublishInv.run h
  refine ⟨?_, fun hne => ⟨?_, fun hnot => ?_⟩⟩
  · obtain ⟨l₁, s₁, hl₁, hrun₁, hsound₁, hgone₁⟩ := SharedSensors.exists_round_over hinv
    by_cases hi₁ : i ∈ s₁.lock.parties
    · obtain ⟨l₂, s₂, hl₂, hrun₂, hdone⟩ := SharedSensors.exists_served_of_notMem (F := F) hsound₁ hi₁ hgone₁
      refine ⟨l₁ ++ l₂, s₂, fun a ha => ?_, hrun₁.append hrun₂, hdone⟩
      rcases List.mem_append.mp ha with ha | ha
      · exact hl₁ a ha
      · exact SharedSensors.goesOn_of_unpublished (hl₂ a ha)
    · exact ⟨l₁, s₁, hl₁, hrun₁, hi₁⟩
  · rintro ⟨l', s', hl', hrun, hdone⟩ hbehind
    have hguarded := hrun.guarded_of_forall (G := fun _ a => SharedSensors.unpublished a = true)
      fun a ha _ => hl' a ha
    have hstays := hguarded.invariant (I := fun s => s.lock.Sound ∧ s.lock.Behind .publisher i) ?_
      ⟨hinv.sound, hbehind⟩
    · obtain ⟨e, he, rfl⟩ := hstays.2.waits hstays.1
      exact hdone (List.mem_map_of_mem (List.mem_append_right _ he))
    · rintro t a t' ⟨hsound, hbehind⟩ ⟨ha, hstep⟩
      have hsound' := SharedSensors.sound_of_step hstep hsound
      have hlock := SharedSensors.lock_of_step hstep
      refine ⟨hsound', ?_⟩
      cases a with
      | grant => exact hbehind.step hsound rfl hlock
      | modify r f => exact hbehind.step hsound (FairLock.clears_release.mpr SensorsParty.noConfusion) hlock
      | overview r => exact hbehind.step hsound (FairLock.clears_release.mpr SensorsParty.noConfusion) hlock
      | _ => cases ha
  · have hreads : ∀ mode, (SensorsParty.publisher, mode) ∈ s.lock.queue → mode = .read :=
      fun mode hmem => hinv.modes _ hmem
    obtain ⟨bs, lock, hbs, hrun, hholds⟩ := FairLock.exists_held hinv.sound hreads hi hnot
    obtain ⟨l', s', hl', hrun', rfl⟩ := SharedSensors.exists_run_of_lock (F := F) hbs hrun
    obtain ⟨a, s'', ha, hstep, hdone⟩ := SharedSensors.exists_done (F := F) (.run hrun hinv.sound) hne hholds
    refine ⟨l' ++ [a], s'', fun b hb => ?_, .snoc hrun' hstep, hdone⟩
    rcases List.mem_append.mp hb with hb | hb
    · exact hl' b hb
    · rwa [List.mem_singleton.mp hb]

/-- The theorem for an overview that is asked for while a round goes on: it is served, unless a call of
`modify_sensors` came before it. -/
theorem served_iff_round :
    ∃ s s' : SharedSensors,
      Run (Partial (SharedSensors.step decimalFormats)) (SharedSensors.init (oneSensor 21))
        [.ask .publisher, .grant, .ask (.overview 0)] s ∧
      (∃ l t, (∀ a ∈ l, SharedSensors.unpublished a = true) ∧
        Run (Partial (SharedSensors.step decimalFormats)) s l t ∧ SensorsParty.overview 0 ∉ t.lock.parties) ∧
      Run (Partial (SharedSensors.step decimalFormats)) (SharedSensors.init (oneSensor 21))
        [.ask .publisher, .grant, .ask (.modifier 0), .ask (.overview 0)] s' ∧
      ¬ ∃ l t, (∀ a ∈ l, SharedSensors.unpublished a = true) ∧
        Run (Partial (SharedSensors.step decimalFormats)) s' l t ∧ SensorsParty.overview 0 ∉ t.lock.parties := by
  have hruns : ∃ s s' : SharedSensors,
      Run (Partial (SharedSensors.step decimalFormats)) (SharedSensors.init (oneSensor 21))
        [.ask .publisher, .grant, .ask (.overview 0)] s ∧
      s.lock.queue = [(.publisher, .read), (.overview 0, .read)] ∧
      Run (Partial (SharedSensors.step decimalFormats)) (SharedSensors.init (oneSensor 21))
        [.ask .publisher, .grant, .ask (.modifier 0), .ask (.overview 0)] s' ∧
      s'.lock.queue = [(.publisher, .read), (.modifier 0, .write), (.overview 0, .read)] :=
    ⟨_, _, run_partial_iff.mpr rfl, rfl, run_partial_iff.mpr rfl, rfl⟩
  obtain ⟨s, s', hrun, hqueue, hrun', hqueue'⟩ := hruns
  have hasked : SensorsParty.overview 0 ∈ s.lock.parties := by
    unfold FairLock.parties
    rw [hqueue]
    decide
  have hasked' : SensorsParty.overview 0 ∈ s'.lock.parties := by
    unfold FairLock.parties
    rw [hqueue']
    decide
  have hiff := (served_iff hrun hasked).2 SensorsParty.noConfusion
  have hiff' := (served_iff hrun' hasked').2 SensorsParty.noConfusion
  refine ⟨s, s', hrun, hiff.mpr ?_, hrun', fun hserved => hiff'.mp hserved ?_⟩
  · rintro ⟨before, between, w, after, heq, -⟩
    rw [hqueue] at heq
    have hwriter : (w, Mode.write) ∈ [(SensorsParty.publisher, Mode.read), (.overview 0, .read)] := by
      rw [heq]
      simp
    simp at hwriter
  · exact ⟨[], [], .modifier 0, [(.overview 0, .read)], hqueue', .inr (by decide)⟩

end BleWsCentral.Server
