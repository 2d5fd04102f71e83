import BleWsCentral.Mesh.Stamps
import BleWsCentral.Server.Update

/-!
# From the mesh to the logs

What `update` is given by the mesh service, and what it makes of it: the readings of the windows of a
collection task are passed to `LogTransaction::log`, which wants their timestamps to increase.

* `Window.Apart` — the last valid messages of a sensor in two windows did not arrive in the same second.
* `timestamps_increase_iff` — the timestamps passed to the log of a sensor never decrease, and they
  increase if and only if the windows are apart for it.
-/

namespace BleWsCentral.Mesh

open BleWsCentral.Found BleWsCentral.Server

/-- The last valid messages of a sensor in two windows arrived in different seconds. -/
def Window.Apart (units : Units) (id : Uuid) (window window' : Window) : Prop :=
  ∀ t ∈ window.lastArrival units id, ∀ t' ∈ window'.lastArrival units id, t ≠ t'

/-- The batches that a collection task sent, the oldest first. -/
def Collection.batches (c : Collection) : List UpdateItem := c.sent.map Window.finish

/-- The timestamps that are logged are those of the last valid messages. -/
theorem loggedTimestamps_batches {units : Units} {c : Collection} (id : Uuid)
    (h : ∀ window ∈ c.windows, window.Sound units) :
    loggedTimestamps c.batches id = c.sent.filterMap fun window => window.lastArrival units id := by
  rw [loggedTimestamps_eq, Collection.batches, List.filterMap_map]
  apply List.filterMap_congr
  intro window hwindow
  have hsound := h window (List.mem_append_left _ hwindow)
  have hreading : reading window.finish id = window.lastReading units id := by
    apply Option.ext
    intro values
    rw [reading_eq_some, hsound.finish]
  rw [Function.comp_apply, hreading, Window.timestamp_lastReading]

variable {K M : Type} [DecidableEq K] [DenseSlotMap K GenericFilter M]

/-- **The order of the logs.** If the clock does not go backwards, the timestamps that the readings of a
collection task pass to the log of a sensor never decrease. They strictly increase if and only if the last
valid messages of the sensor in any two windows arrived in different seconds. -/
theorem timestamps_increase_iff {units : Units} {l : List Label} {s : Service K M}
    (h : Run (Guarded (Partial (Service.step units)) fun s a => s.clockRuns a = true) Service.init l s)
    (g : ℕ) (id : Uuid) :
    (loggedTimestamps (s.collections g).batches id).Pairwise (· ≤ ·) ∧
      ((loggedTimestamps (s.collections g).batches id).Pairwise (· < ·) ↔
        (s.collections g).sent.Pairwise (Window.Apart units id)) := by
  obtain ⟨horder, hsound⟩ := Service.windows_inOrder h g
  have hle : (s.collections g).sent.Pairwise fun window window' =>
      ∀ t, window.lastArrival units id = some t → ∀ t', window'.lastArrival units id = some t' →
        t ≤ t' := by
    have hwindows := (List.pairwise_flatMap.mp horder).2
    rw [Collection.windows, List.pairwise_append] at hwindows
    refine hwindows.1.imp fun {window window'} hbefore t ht t' ht' => ?_
    obtain ⟨msg, hmsg, rfl⟩ := Window.lastArrival_mem ht
    obtain ⟨msg', hmsg', rfl⟩ := Window.lastArrival_mem ht'
    exact hbefore msg hmsg msg' hmsg'
  rw [loggedTimestamps_batches id hsound, List.pairwise_filterMap, List.pairwise_filterMap]
  refine ⟨hle, fun hlt => hlt.imp fun {window window'} h t ht t' ht' => ?_, fun hapart => ?_⟩
  · exact UInt32.ne_of_lt (h t ht t' ht')
  · refine hle.imp₂ (fun {window window'} hle hapart t ht t' ht' => ?_) hapart
    exact UInt32.lt_of_le_of_ne (hle t ht t' ht') (hapart t ht t' ht')

/-- A node answers in a window, and once more at time `now`, before the next window is opened. -/
def answerTwice (now : Timestamp) : List Label :=
  Service.attach ++ Service.provision ++ Service.configure ++
    [.tick, .trigger, .takeTrigger 0, .openWindow 0, .callOk] ++ Service.sensorValues 100 ++
    [.queueSend, .collect 0, .sendBatch 0, .takeBatch] ++ Service.sensorValues now ++
    [.queueSend, .tick, .trigger, .takeTrigger 0, .openWindow 0, .collect 0, .sendBatch 0]

/-- The sensor of that node. -/
def answeringSensor : Uuid := .fromBytes Service.deviceUuid

set_option maxRecDepth 4000 in
/-- The theorem for a node whose second answer comes a second later. -/
theorem timestamps_increase_iff_later :
    ∃ s : Service ℕ (DenseVec GenericFilter),
      loggedTimestamps (s.collections 0).batches answeringSensor = [100, 101] ∧
        (s.collections 0).sent.Pairwise (Window.Apart .total answeringSensor) := by
  have hrun : ∃ s : Service ℕ (DenseVec GenericFilter),
      Run (Guarded (Partial (Service.step .total)) fun s a =>
        s.clockRuns a = true) Service.init (answerTwice 101) s ∧
        loggedTimestamps (s.collections 0).batches answeringSensor = [100, 101] :=
    ⟨_, run_guarded_iff.mpr rfl, by decide +kernel⟩
  obtain ⟨s, hrun, hlogged⟩ := hrun
  refine ⟨s, hlogged, (timestamps_increase_iff hrun 0 answeringSensor).2.mp ?_⟩
  rw [hlogged]
  decide

set_option maxRecDepth 4000 in
/-- A node that answers twice in one second, the second time after the window was closed: both readings
are logged, with the same timestamp. -/
theorem timestamps_repeat :
    ∃ s : Service ℕ (DenseVec GenericFilter),
      Run (Guarded (Partial (Service.step .total)) fun s a =>
        s.clockRuns a = true) Service.init (answerTwice 100) s ∧
        ¬ (loggedTimestamps (s.collections 0).batches answeringSensor).Pairwise (· < ·) := by
  have hrun : ∃ s : Service ℕ (DenseVec GenericFilter),
      Run (Guarded (Partial (Service.step .total)) fun s a =>
        s.clockRuns a = true) Service.init (answerTwice 100) s ∧
        loggedTimestamps (s.collections 0).batches answeringSensor = [100, 100] :=
    ⟨_, run_guarded_iff.mpr rfl, by decide +kernel⟩
  obtain ⟨s, hrun, hlogged⟩ := hrun
  refine ⟨s, hrun, ?_⟩
  rw [hlogged]
  decide

end BleWsCentral.Mesh
