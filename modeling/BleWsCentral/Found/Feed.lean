import Mathlib

/-!
# Feeds

A feed is a list of things in the order of their times, which only ever grows at its end; its readers ask for
those in a range of times.

* `InOrder`, `during` — the order, and what is in a range.
* `during_resume` — a reader who goes on behind what it has seen gets the rest, each thing once.
-/

namespace BleWsCentral.Found

variable {α T : Type*} [LinearOrder T] (time : α → T)

/-- Each thing is later than the ones before it. -/
def InOrder (l : List α) : Prop := l.Pairwise fun a b => time a < time b

/-- The things from `start` on and before `stop`. -/
def during (start stop : T) (l : List α) : List α := l.filter fun a => start ≤ time a ∧ time a < stop

variable {time} {start stop next : T} {l l' added : List α} {a : α}

theorem mem_during : a ∈ during time start stop l ↔ a ∈ l ∧ start ≤ time a ∧ time a < stop := by
  unfold during
  rw [List.mem_filter, decide_eq_true_iff]

theorem during_append :
    during time start stop (l ++ l') = during time start stop l ++ during time start stop l' := by
  unfold during
  exact List.filter_append _ _

/-- A reader goes on with the first time that is later than all it has seen, or where it started. -/
def GoesOn (time : α → T) (start next : T) (seen : List α) : Prop :=
  ∀ t, next ≤ t ↔ start ≤ t ∧ ∀ a ∈ seen, time a < t

/-- A reader goes on behind the last thing it has seen. -/
theorem GoesOn.of_last {seen : List α} (horder : InOrder time (seen ++ [a])) (hstart : start ≤ time a)
    (hnext : ∀ t, next ≤ t ↔ time a < t) : GoesOn time start next (seen ++ [a]) := by
  intro t
  rw [hnext]
  constructor
  · intro ht
    refine ⟨hstart.trans ht.le, fun b hb => ?_⟩
    rcases List.mem_append.mp hb with hb | hb
    · have hlt : time b < time a := (List.pairwise_append.mp horder).2.2 b hb a (List.mem_singleton_self a)
      exact hlt.trans ht
    · rw [List.mem_singleton.mp hb]
      exact ht
  · rintro ⟨-, hseen⟩
    exact hseen a (List.mem_append_right _ (List.mem_singleton_self a))

/-- What is left of a range behind what was seen of it, after more was added. -/
theorem during_resume (horder : InOrder time (l ++ added))
    (hnext : GoesOn time start next (during time start stop l)) :
    during time start stop (l ++ added) =
      during time start stop l ++ during time next stop (l ++ added) := by
  have hseen : during time next stop l = [] := by
    apply List.eq_nil_iff_forall_not_mem.mpr
    intro a ha
    obtain ⟨hmem, hle, hlt⟩ := mem_during.mp ha
    obtain ⟨hstart, hlater⟩ := (hnext _).mp hle
    exact lt_irrefl _ (hlater a (mem_during.mpr ⟨hmem, hstart, hlt⟩))
  have hadded : during time next stop added = during time start stop added := by
    unfold during
    apply List.filter_congr
    intro a ha
    have hlater : ∀ b ∈ during time start stop l, time b < time a := fun b hb =>
      (List.pairwise_append.mp horder).2.2 b (mem_during.mp hb).1 a ha
    rw [decide_eq_decide, hnext]
    exact ⟨fun ⟨⟨hstart, _⟩, hstop⟩ => ⟨hstart, hstop⟩, fun ⟨hstart, hstop⟩ => ⟨⟨hstart, hlater⟩, hstop⟩⟩
  rw [during_append, during_append, hseen, hadded, List.nil_append]

end BleWsCentral.Found
