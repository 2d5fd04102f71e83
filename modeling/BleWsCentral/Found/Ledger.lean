import Mathlib

/-!
# Ledgers of numbered items

Items arrive one after the other and are numbered from `0`. At any time an item is in one place:
it waits in the backlog, or it was handed to one receiver.

* `Ledger ρ` — the backlog and what every receiver of type `ρ` was handed, with the conditions that
  make it an account: the arrived items, and no others, each have one place.
* `keep`, `pass`, `answer` — the three things that can happen: an item arrives and waits, an item
  arrives and is handed over, a waiting item is handed over. Each is again a ledger.
* `placed_once` — the account in terms of counts: one occurrence in one place, none anywhere else.
-/

namespace BleWsCentral.Found

/-- Where the items that arrived so far are. -/
structure Ledger (ρ : Type*) where
  /-- The number of items that arrived. -/
  arrived : ℕ
  /-- The waiting items, in order of arrival. -/
  backlog : List ℕ
  /-- The items a receiver was handed, in the order in which it got them. -/
  handed : ρ → List ℕ
  backlog_sorted : backlog.Pairwise (· < ·)
  handed_sorted : ∀ r, (handed r).Pairwise (· < ·)
  not_handed_of_mem_backlog : ∀ i ∈ backlog, ∀ r, i ∉ handed r
  eq_of_mem_handed : ∀ i r r', i ∈ handed r → i ∈ handed r' → r = r'
  lt_arrived_iff : ∀ i, i < arrived ↔ i ∈ backlog ∨ ∃ r, i ∈ handed r

namespace Ledger

variable {ρ : Type*} [DecidableEq ρ] (L : Ledger ρ)

omit [DecidableEq ρ] in
theorem lt_of_mem_backlog {i : ℕ} (h : i ∈ L.backlog) : i < L.arrived :=
  (L.lt_arrived_iff i).mpr (.inl h)

omit [DecidableEq ρ] in
theorem lt_of_mem_handed {i : ℕ} {r : ρ} (h : i ∈ L.handed r) : i < L.arrived :=
  (L.lt_arrived_iff i).mpr (.inr ⟨r, h⟩)

omit [DecidableEq ρ] in
/-- What waits after the item at position `k` was taken out. -/
theorem mem_backlog_eraseIdx {i k : ℕ} (hk : k < L.backlog.length) :
    i ∈ L.backlog.eraseIdx k ↔ i ≠ L.backlog[k] ∧ i ∈ L.backlog := by
  have hnd : L.backlog.Nodup := L.backlog_sorted.imp ne_of_lt
  rw [← hnd.erase_getElem k hk, hnd.mem_erase_iff]

/-- The ledger before anything arrived. -/
def empty : Ledger ρ where
  arrived := 0
  backlog := []
  handed _ := []
  backlog_sorted := .nil
  handed_sorted _ := .nil
  not_handed_of_mem_backlog := by simp
  eq_of_mem_handed := by simp
  lt_arrived_iff := by simp

/-- The next item arrives and waits. -/
def keep : Ledger ρ where
  arrived := L.arrived + 1
  backlog := L.backlog ++ [L.arrived]
  handed := L.handed
  backlog_sorted := by
    rw [List.pairwise_append]
    refine ⟨L.backlog_sorted, List.pairwise_singleton _ _, ?_⟩
    intro i hi j hj
    rw [List.mem_singleton] at hj
    exact hj ▸ L.lt_of_mem_backlog hi
  handed_sorted := L.handed_sorted
  not_handed_of_mem_backlog := by
    intro i hi r hr
    rcases List.mem_append.mp hi with hi | hi
    · exact L.not_handed_of_mem_backlog i hi r hr
    · rw [List.mem_singleton] at hi
      have := L.lt_of_mem_handed hr
      omega
  eq_of_mem_handed := L.eq_of_mem_handed
  lt_arrived_iff := by
    intro i
    rw [Nat.lt_succ_iff_lt_or_eq, L.lt_arrived_iff, List.mem_append, List.mem_singleton]
    tauto

/-- What the receivers hold after `r` was handed `i`. -/
def handTo (r : ρ) (i : ℕ) : ρ → List ℕ := Function.update L.handed r (L.handed r ++ [i])

theorem mem_handTo {r r' : ρ} {i j : ℕ} :
    j ∈ L.handTo r i r' ↔ j ∈ L.handed r' ∨ j = i ∧ r' = r := by
  unfold handTo
  by_cases h : r' = r
  · subst h; simp
  · simp [h]

theorem handTo_sorted {r : ρ} {i : ℕ} (hi : ∀ j ∈ L.handed r, j < i) (r' : ρ) :
    (L.handTo r i r').Pairwise (· < ·) := by
  unfold handTo
  by_cases h : r' = r
  · subst h
    rw [Function.update_self, List.pairwise_append]
    exact ⟨L.handed_sorted r', List.pairwise_singleton _ _, by simpa using hi⟩
  · rw [Function.update_of_ne h]
    exact L.handed_sorted r'

/-- An item that nobody holds has one holder after it was handed over. -/
theorem eq_of_mem_handTo {r : ρ} {i : ℕ} (hi : ∀ r', i ∉ L.handed r') :
    ∀ j r₁ r₂, j ∈ L.handTo r i r₁ → j ∈ L.handTo r i r₂ → r₁ = r₂ := by
  intro j r₁ r₂ h₁ h₂
  rw [mem_handTo] at h₁ h₂
  rcases h₁ with h₁ | ⟨rfl, rfl⟩
  · rcases h₂ with h₂ | ⟨rfl, rfl⟩
    · exact L.eq_of_mem_handed j r₁ r₂ h₁ h₂
    · exact absurd h₁ (hi r₁)
  · rcases h₂ with h₂ | ⟨-, rfl⟩
    · exact absurd h₂ (hi r₂)
    · rfl

/-- The next item arrives and is handed to `r`. -/
def pass (r : ρ) : Ledger ρ where
  arrived := L.arrived + 1
  backlog := L.backlog
  handed := L.handTo r L.arrived
  backlog_sorted := L.backlog_sorted
  handed_sorted := L.handTo_sorted fun _ => L.lt_of_mem_handed
  not_handed_of_mem_backlog := by
    intro i hi r' hr'
    rcases L.mem_handTo.mp hr' with hr' | ⟨rfl, -⟩
    · exact L.not_handed_of_mem_backlog i hi r' hr'
    · exact absurd (L.lt_of_mem_backlog hi) (lt_irrefl _)
  eq_of_mem_handed := L.eq_of_mem_handTo fun _ h => absurd (L.lt_of_mem_handed h) (lt_irrefl _)
  lt_arrived_iff := by
    intro i
    simp only [mem_handTo]
    rw [Nat.lt_succ_iff_lt_or_eq, L.lt_arrived_iff]
    constructor
    · rintro ((h | ⟨r', h⟩) | rfl)
      · exact .inl h
      · exact .inr ⟨r', .inl h⟩
      · exact .inr ⟨r, .inr ⟨rfl, rfl⟩⟩
    · rintro (h | ⟨r', h | ⟨rfl, -⟩⟩)
      · exact .inl (.inl h)
      · exact .inl (.inr ⟨r', h⟩)
      · exact .inr rfl

/-- The waiting item at position `k` is handed to `r`, which holds older items at most. -/
def answer (r : ρ) (k : ℕ) (hk : k < L.backlog.length) (hr : ∀ j ∈ L.handed r, j < L.backlog[k]) :
    Ledger ρ where
  arrived := L.arrived
  backlog := L.backlog.eraseIdx k
  handed := L.handTo r L.backlog[k]
  backlog_sorted := L.backlog_sorted.sublist (List.eraseIdx_sublist _ _)
  handed_sorted := L.handTo_sorted hr
  not_handed_of_mem_backlog := by
    intro i hi r' hr'
    rcases L.mem_handTo.mp hr' with hr' | ⟨rfl, -⟩
    · exact L.not_handed_of_mem_backlog i (List.mem_of_mem_eraseIdx hi) r' hr'
    · exact (L.mem_backlog_eraseIdx hk).mp hi |>.1 rfl
  eq_of_mem_handed := L.eq_of_mem_handTo
    (L.not_handed_of_mem_backlog _ (List.getElem_mem hk))
  lt_arrived_iff := by
    intro i
    simp only [mem_handTo]
    rw [L.lt_arrived_iff, L.mem_backlog_eraseIdx hk]
    by_cases hi : i = L.backlog[k]
    · subst hi
      exact ⟨fun _ => .inr ⟨r, .inr ⟨rfl, rfl⟩⟩, fun _ => .inl (List.getElem_mem hk)⟩
    · constructor
      · rintro (h | ⟨r', h⟩)
        · exact .inl ⟨hi, h⟩
        · exact .inr ⟨r', .inl h⟩
      · rintro (⟨-, h⟩ | ⟨r', h | ⟨h, -⟩⟩)
        · exact .inl h
        · exact .inr ⟨r', h⟩
        · exact absurd h hi

omit [DecidableEq ρ] in
/-- An item that arrived is in the backlog, once, and with nobody, or it is with one receiver, once,
and neither in the backlog nor with another receiver. -/
theorem placed_once {i : ℕ} (hi : i < L.arrived) :
    (L.backlog.count i = 1 ∧ ∀ r, (L.handed r).count i = 0) ∨
      (L.backlog.count i = 0 ∧
        ∃ r, (L.handed r).count i = 1 ∧ ∀ r', r' ≠ r → (L.handed r').count i = 0) := by
  have hnd : L.backlog.Nodup := L.backlog_sorted.imp ne_of_lt
  rcases (L.lt_arrived_iff i).mp hi with h | ⟨r, h⟩
  · exact .inl ⟨List.count_eq_one_of_mem hnd h,
      fun r => List.count_eq_zero.mpr (L.not_handed_of_mem_backlog i h r)⟩
  · have hndr : (L.handed r).Nodup := (L.handed_sorted r).imp ne_of_lt
    refine .inr ⟨List.count_eq_zero.mpr fun hb => L.not_handed_of_mem_backlog i hb r h, r,
      List.count_eq_one_of_mem hndr h, fun r' hne => List.count_eq_zero.mpr fun h' => ?_⟩
    exact hne (L.eq_of_mem_handed i r' r h' h)

end Ledger

end BleWsCentral.Found
