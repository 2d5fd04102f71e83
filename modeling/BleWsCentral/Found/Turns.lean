import BleWsCentral.Found.Run

/-!
# Runs with results

A machine that answers each of its labels: a function from a state and a label to a result and a next state.

* `turns f s l` — what happens from `s` on, one turn a label, with the state before it and its result.
* `pairwise_turns_iff` — two relations between turns hold of the same runs if they agree on any two turns, the
  second of which is in a state that is reached after the first.
-/

namespace BleWsCentral.Found

variable {σ α β : Type*}

/-- One label, the state before it and what came back. -/
structure Turn (σ α β : Type*) where
  before : σ
  label : α
  result : β

/-- The steps of a machine with results. -/
def Answering (f : σ → α → β × σ) : σ → α → σ → Prop := fun s a t => (f s a).2 = t

/-- The turn of a machine in a state. -/
def turn (f : σ → α → β × σ) (s : σ) (a : α) : Turn σ α β := ⟨s, a, (f s a).1⟩

/-- The turns of a machine, one after the other. -/
def turns (f : σ → α → β × σ) : σ → List α → List (Turn σ α β)
  | _, [] => []
  | s, a :: l => turn f s a :: turns f (f s a).2 l

variable {f : σ → α → β × σ} {s : σ} {l : List α} {x : Turn σ α β} {R S : Turn σ α β → Turn σ α β → Prop}

/-- Every turn is one of the machine, in a state that it reaches. -/
theorem of_mem_turns (h : x ∈ turns f s l) :
    x = turn f x.before x.label ∧ ∃ l', Run (Answering f) s l' x.before := by
  induction l generalizing s with
  | nil => cases h
  | cons a l ih =>
      rcases List.mem_cons.mp h with rfl | h
      · exact ⟨rfl, [], .nil s⟩
      · obtain ⟨hturn, l', hrun⟩ := ih h
        exact ⟨hturn, a :: l', hrun.cons rfl⟩

/-- Relations that agree on a turn and on those of the states that are reached after it hold of the same runs. -/
theorem pairwise_turns_iff (h : ∀ s a s' a' l', Run (Answering f) (f s a).2 l' s' →
    (R (turn f s a) (turn f s' a') ↔ S (turn f s a) (turn f s' a'))) :
    (turns f s l).Pairwise R ↔ (turns f s l).Pairwise S := by
  induction l generalizing s with
  | nil => simp [turns]
  | cons a l ih =>
      have hfirst : (∀ x ∈ turns f (f s a).2 l, R (turn f s a) x) ↔
          ∀ x ∈ turns f (f s a).2 l, S (turn f s a) x := by
        refine forall₂_congr fun x hx => ?_
        obtain ⟨hturn, l', hrun⟩ := of_mem_turns hx
        rw [hturn]
        exact h s a x.before x.label l' hrun
      unfold turns
      rw [List.pairwise_cons, List.pairwise_cons, hfirst, ih]

end BleWsCentral.Found
