import BleWsCentral.Found.Broadcast
import BleWsCentral.Server.Labels

/-!
# Subscribers

`Server::subscribe_to_changes`: a stream of the overviews that `modify_sensors` sends on the broadcast
channel, which keeps one value. It is polled at any time between the steps of the other tasks.

* `Watch` — the tasks, and a stream with the items it has yielded. A poll yields the next value, or the
  error `tx dropped` if there was more than one unread value.
* `Watch.KeepsUp` — the polls that come in time.
* `subscriber_iff` — the stream yields no error exactly if all its polls come in time. What it yielded
  last is always the overview of the sensors, once it has read everything.
-/

namespace BleWsCentral.Server

open BleWsCentral.Found

/-- The capacity of the broadcast channel in `Context::create`. -/
def broadcastCapacity : ℕ := 1

/-- The tasks with a stream of `subscribe_to_changes`: how many of the values that were sent it is past,
and what it has yielded. -/
structure Watch where
  tasks : Tasks
  next : ℕ
  items : List (Except Status OverviewResponse)

/-- A step of another task, or a poll of the stream. -/
inductive WatchStep
  | task (a : TaskStep)
  | poll

namespace Watch

/-- `subscribe_to_changes`. -/
def subscribe (tasks : Tasks) : Watch where
  tasks := tasks
  next := tasks.ctx.tx.length
  items := []

/-- What the stream makes of an error of its receiver. -/
def txDropped (_missed : ℕ) : Status := ⟨.internal, "tx dropped"⟩

/-- A step; a poll that finds nothing leaves the stream as it is. -/
def step (s : Watch) : WatchStep → Option Watch
  | .task a => (s.tasks.step a).map fun tasks => { s with tasks }
  | .poll =>
      match recv broadcastCapacity s.tasks.ctx.tx s.next with
      | none => some s
      | some (item, next) => some { s with next, items := s.items ++ [item.mapError txDropped] }

/-- When the stream is polled, there was at most one modification that it has not yielded. -/
def KeepsUp (s : Watch) : WatchStep → Prop
  | .task _ => True
  | .poll => s.tasks.ctx.tx.length - s.next ≤ 1

/-- The stream has yielded no error. -/
def Unbroken (s : Watch) : Prop := ∀ item ∈ s.items, ∃ response, item = .ok response

end Watch

/-! ## What is sent -/

/-- A step changes the sensors and sends their overview, or does neither. -/
theorem Tasks.step_tx {s s' : Tasks} {a : TaskStep} (h : s.step a = some s') :
    (s'.ctx.sensors = s.ctx.sensors ∧ s'.ctx.tx = s.ctx.tx) ∨
      s'.ctx.tx = s.ctx.tx ++ [createOverviewResponse s'.ctx.sensors] := by
  cases a with
  | request req =>
      cases h
      exact .inl ⟨rfl, rfl⟩
  | check r faults =>
      simp only [Tasks.step] at h
      split at h
      · split at h <;> cases h <;> exact .inl ⟨rfl, rfl⟩
      · cases h
  | write r faults =>
      simp only [Tasks.step] at h
      split at h
      · split at h
        · cases h
          exact .inl ⟨rfl, rfl⟩
        · rename_i ctx hwrite
          cases h
          rw [Context.of_changeLabelWrite hwrite]
          exact .inl ⟨rfl, rfl⟩
      · cases h
  | modify r =>
      simp only [Tasks.step] at h
      split at h
      · cases h
        exact .inr rfl
      · cases h
  | batch faults item =>
      simp only [Tasks.step] at h
      split at h <;> cases h
      exact .inl ⟨rfl, rfl⟩
  | memorizeRead =>
      simp only [Tasks.step] at h
      split at h
      · split at h <;> cases h <;> exact .inl ⟨rfl, rfl⟩
      · cases h
  | memorizeWrite =>
      simp only [Tasks.step] at h
      split at h
      · split at h <;> cases h <;> exact .inl ⟨rfl, rfl⟩
      · cases h
  | log =>
      simp only [Tasks.step] at h
      split at h
      · split at h <;> cases h <;> exact .inl ⟨rfl, rfl⟩
      · cases h
  | apply =>
      simp only [Tasks.step] at h
      split at h <;> cases h
      exact .inr rfl

/-! ## What is received -/

/-- What holds of a stream that was opened after `start` values: it follows the channel, and the value
that was sent last since then is the overview of the sensors. -/
structure WatchInv (start : ℕ) (s : Watch) : Prop where
  follows : Follows start s.tasks.ctx.tx s.next s.items
  sent : start < s.tasks.ctx.tx.length →
    s.tasks.ctx.tx.getLast? = some (createOverviewResponse s.tasks.ctx.sensors)

namespace WatchInv

variable {start : ℕ} {s s' : Watch}

theorem subscribe (tasks : Tasks) : WatchInv tasks.ctx.tx.length (.subscribe tasks) where
  follows := Follows.subscribe tasks.ctx.tx
  sent hlt := absurd hlt (Nat.lt_irrefl _)

theorem step (h : WatchInv start s) {a : WatchStep} (hstep : s.step a = some s') :
    WatchInv start s' := by
  cases a with
  | task a =>
      obtain ⟨tasks, htask, rfl⟩ := Option.map_eq_some_iff.mp hstep
      rcases Tasks.step_tx htask with ⟨hsensors, htx⟩ | htx
      · constructor
        · show Follows start tasks.ctx.tx s.next s.items
          rw [htx]
          exact h.follows
        · show start < tasks.ctx.tx.length →
            tasks.ctx.tx.getLast? = some (createOverviewResponse tasks.ctx.sensors)
          rw [htx, hsensors]
          exact h.sent
      · constructor
        · show Follows start tasks.ctx.tx s.next s.items
          rw [htx]
          exact h.follows.send _
        · intro _
          show tasks.ctx.tx.getLast? = some (createOverviewResponse tasks.ctx.sensors)
          rw [htx, List.getLast?_concat]
  | poll =>
      unfold Watch.step at hstep
      simp only at hstep
      split at hstep
      · cases hstep
        exact h
      · rename_i item next hrecv
        cases hstep
        exact ⟨h.follows.recv Nat.one_pos hrecv Watch.txDropped, h.sent⟩

end WatchInv

/-- A step that keeps up yields no error, and without an error every step has kept up. -/
theorem Watch.unbroken_step {s s' : Watch} {a : WatchStep} (hstep : s.step a = some s') :
    s'.Unbroken ↔ s.Unbroken ∧ s.KeepsUp a := by
  unfold Unbroken
  cases a with
  | task a =>
      obtain ⟨tasks, -, rfl⟩ := Option.map_eq_some_iff.mp hstep
      simp [KeepsUp]
  | poll =>
      unfold Watch.step at hstep
      simp only at hstep
      split at hstep
      · rename_i hnone
        cases hstep
        have hread : s.tasks.ctx.tx.length - s.next ≤ broadcastCapacity := by
          by_contra hlag
          simp [recv, hlag] at hnone
        simp only [KeepsUp]
        exact ⟨fun h => ⟨h, hread⟩, And.left⟩
      · rename_i item next hrecv
        cases hstep
        have hmissed := recv_isError_iff hrecv
        have hitem : (∃ response, item.mapError txDropped = .ok response) ↔
            ¬ ∃ missed, item = .error missed := by
          cases item with
          | ok response => simp [Except.mapError]
          | error missed => simp [Except.mapError]
        simp only [List.mem_append, List.mem_singleton, or_imp, forall_and, forall_eq, KeepsUp, hitem,
          hmissed, Nat.not_lt, broadcastCapacity]

/-- **Subscribers.** In every run of the tasks with a stream, from its subscription in any state on: the
stream yields no error if and only if, whenever it was polled, at most one modification had happened that
it had not yielded yet. And when it has yielded something for all modifications, its last item is the
overview of the sensors. -/
theorem subscriber_iff {tasks : Tasks} {steps : List WatchStep} {s : Watch}
    (hrun : Run (Partial Watch.step) (.subscribe tasks) steps s) :
    (s.Unbroken ↔ Run (Guarded (Partial Watch.step) Watch.KeepsUp) (.subscribe tasks) steps s) ∧
    (s.next = s.tasks.ctx.tx.length → tasks.ctx.tx.length < s.tasks.ctx.tx.length →
      s.items.getLast? = some (.ok (createOverviewResponse s.tasks.ctx.sensors))) := by
  constructor
  · exact hrun.iff_guarded (fun _ _ _ hstep => Watch.unbroken_step hstep) (by
      intro item hitem
      cases hitem)
  · intro hdrained hsent
    have hinv : WatchInv tasks.ctx.tx.length s :=
      hrun.invariant (fun _ _ _ h hstep => h.step hstep) (.subscribe tasks)
    obtain ⟨response, hitem, hlast⟩ := hinv.follows.last_of_drained hdrained hsent
    rw [hinv.sent hsent] at hlast
    cases hlast
    exact hitem

/-- The theorem for a stream that is polled after each of two changes of a label. -/
theorem subscriber_iff_two_changes :
    ∃ (ctx : Context) (s : Watch),
      Context.create ⟨(∅ : BTreeMap Uuid IdDbEntry).insert 3 {}, ∅⟩ = .ok ctx ∧
        Run (Partial Watch.step) (.subscribe (Tasks.init ctx))
          [.task (.request ⟨some 3, some "attic"⟩), .task (.check 0 .none), .task (.write 0 .none),
            .task (.modify 0), .poll, .task (.request ⟨some 3, some "cellar"⟩),
            .task (.check 1 .none), .task (.write 1 .none), .task (.modify 1), .poll] s ∧
        s.Unbroken ∧ s.items.length = 2 ∧
        s.items.getLast? = some (.ok (createOverviewResponse s.tasks.ctx.sensors)) := by
  have hexec : ∃ (ctx : Context) (s : Watch),
      Context.create ⟨(∅ : BTreeMap Uuid IdDbEntry).insert 3 {}, ∅⟩ = .ok ctx ∧
        Run (Guarded (Partial Watch.step) Watch.KeepsUp) (.subscribe (Tasks.init ctx))
          [.task (.request ⟨some 3, some "attic"⟩), .task (.check 0 .none), .task (.write 0 .none),
            .task (.modify 0), .poll, .task (.request ⟨some 3, some "cellar"⟩),
            .task (.check 1 .none), .task (.write 1 .none), .task (.modify 1), .poll] s ∧
        ctx.tx.length = 0 ∧ s.next = 2 ∧ s.tasks.ctx.tx.length = 2 ∧ s.items.length = 2 :=
    ⟨_, _, rfl, .cons ⟨trivial, rfl⟩ <| .cons ⟨trivial, rfl⟩ <| .cons ⟨trivial, rfl⟩ <|
      .cons ⟨trivial, rfl⟩ <| .cons ⟨Nat.le_refl 1, rfl⟩ <| .cons ⟨trivial, rfl⟩ <|
      .cons ⟨trivial, rfl⟩ <| .cons ⟨trivial, rfl⟩ <| .cons ⟨trivial, rfl⟩ <|
      .cons ⟨Nat.le_refl 1, rfl⟩ <| .nil _, rfl, rfl, rfl, rfl⟩
  obtain ⟨ctx, s, hcreate, hguarded, hempty, hnext, hsent, hitems⟩ := hexec
  obtain ⟨hunbroken, hlast⟩ := subscriber_iff hguarded.of_guarded
  refine ⟨ctx, s, hcreate, hguarded.of_guarded, hunbroken.mpr hguarded, hitems, hlast ?_ ?_⟩
  · rw [hnext, hsent]
  · show ctx.tx.length < s.tasks.ctx.tx.length
    rw [hempty, hsent]
    exact Nat.two_pos

/-- A stream that is polled after two changes of a label yields the error `tx dropped`, although nothing
was dropped. -/
theorem subscriber_cut_off :
    ∃ (ctx : Context) (s : Watch),
      Context.create ⟨(∅ : BTreeMap Uuid IdDbEntry).insert 3 {}, ∅⟩ = .ok ctx ∧
        Run (Partial Watch.step) (.subscribe (Tasks.init ctx))
          [.task (.request ⟨some 3, some "attic"⟩), .task (.check 0 .none), .task (.write 0 .none),
            .task (.modify 0), .task (.request ⟨some 3, some "cellar"⟩), .task (.check 1 .none),
            .task (.write 1 .none), .task (.modify 1), .poll] s ∧
        s.items = [.error ⟨.internal, "tx dropped"⟩] :=
  ⟨_, _, rfl, .cons rfl <| .cons rfl <| .cons rfl <| .cons rfl <| .cons rfl <| .cons rfl <|
    .cons rfl <| .cons rfl <| .cons rfl <| .nil _, rfl⟩

end BleWsCentral.Server
