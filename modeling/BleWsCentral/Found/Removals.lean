import Mathlib

/-!
# Removing positions one after the other

A list from which elements are removed one after the other, each at a position in what is left by then.

* `removeEach l is` — the elements that removing at the positions `is` takes out of `l`, and what is left.
* `getElem?_of_removeEach` — behind the positions removed so far, every element has moved up.
* `removeEach_findIdxs_iff` — so positions that were all looked up beforehand are off by one after the
  first removal: removing at the positions of the elements that satisfy `p` takes out these elements,
  in order, if and only if there is at most one of them.
-/

namespace BleWsCentral.Found

variable {α : Type} {l rest removed : List α} {is : List ℕ} {i j : ℕ} {p : α → Bool}

/-- Behind a position that was taken out, everything has moved up by one. -/
theorem drop_eraseIdx_of_le (h : i ≤ j) : (l.eraseIdx i).drop j = l.drop (j + 1) := by
  apply List.ext_getElem?
  intro n
  rw [List.getElem?_drop, List.getElem?_drop, List.getElem?_eraseIdx_of_ge (by omega)]
  congr 1
  omega

/-- Removes at the positions one after the other; fails if there is nothing at one of them. -/
def removeEach : List α → List ℕ → Option (List α × List α)
  | l, [] => some ([], l)
  | l, i :: is => do
      let a ← l[i]?
      let (removed, rest) ← removeEach (l.eraseIdx i) is
      some (a :: removed, rest)

@[simp] theorem removeEach_nil : removeEach l [] = some ([], l) := rfl

theorem removeEach_cons_eq_some :
    removeEach l (i :: is) = some (removed, rest) ↔ ∃ a removed', l[i]? = some a ∧
      removeEach (l.eraseIdx i) is = some (removed', rest) ∧ removed = a :: removed' := by
  cases ha : l[i]? with
  | none => simp [removeEach, ha]
  | some a =>
      cases hrest : removeEach (l.eraseIdx i) is with
      | none => simp [removeEach, ha, hrest]
      | some r =>
          obtain ⟨removed', rest'⟩ := r
          simp only [removeEach, ha, hrest]
          grind

/-- The last removal takes out what is at its position by then. -/
theorem removeEach_concat (h : removeEach l (is ++ [j]) = some (removed, rest)) :
    ∃ removed' rest' a, removeEach l is = some (removed', rest') ∧ rest'[j]? = some a ∧
      removed = removed' ++ [a] := by
  induction is generalizing l removed with
  | nil =>
      obtain ⟨a, removed', ha, hnil, rfl⟩ := removeEach_cons_eq_some.mp h
      cases hnil
      exact ⟨[], l, a, rfl, ha, rfl⟩
  | cons i is ih =>
      obtain ⟨a, removed', ha, hrest, rfl⟩ := removeEach_cons_eq_some.mp h
      obtain ⟨removed', rest', b, his, hb, rfl⟩ := ih hrest
      exact ⟨a :: removed', rest', b, removeEach_cons_eq_some.mpr ⟨a, removed', ha, his, rfl⟩, hb, rfl⟩

/-- Behind the positions that were removed, every element has moved up by one for each of them. -/
theorem getElem?_of_removeEach (h : removeEach l is = some (removed, rest)) (hle : ∀ i ∈ is, i ≤ j) :
    rest[j]? = l[j + is.length]? := by
  induction is generalizing l removed with
  | nil =>
      cases h
      rfl
  | cons i is ih =>
      obtain ⟨a, removed', -, hrest, -⟩ := removeEach_cons_eq_some.mp h
      have hi : i ≤ j + is.length := (hle i List.mem_cons_self).trans (Nat.le_add_right _ _)
      rw [ih hrest fun i hi => hle i (List.mem_cons_of_mem _ hi), List.getElem?_eraseIdx_of_ge hi,
        List.length_cons, Nat.add_assoc]

/-- A single element that satisfies `p` is where it was looked up. -/
theorem removeEach_findIdxs_of_le (h : l.countP p ≤ 1) :
    removeEach l (l.findIdxs p) = some (l.filter p, l.filter fun a => !p a) := by
  rcases Nat.le_one_iff_eq_zero_or_eq_one.mp h with hnone | hone
  · have hfalse : ∀ a ∈ l, p a = false := by simpa [List.countP_eq_zero] using hnone
    have hrest : (l.filter fun a => !p a) = l :=
      List.filter_eq_self.mpr fun a ha => by simp [hfalse a ha]
    rw [List.findIdxs_eq_nil_iff.mpr hfalse, removeEach_nil, hrest,
      List.filter_eq_nil_iff.mpr fun a ha => by simp [hfalse a ha]]
  · rw [List.countP_eq_length_filter, List.length_eq_one_iff] at hone
    obtain ⟨a, ha⟩ := hone
    obtain ⟨front, back, rfl, hfront, hp, hback⟩ := List.filter_eq_cons_iff.mp ha
    have hfront : ∀ b ∈ front, p b = false := by simpa using hfront
    have hback : ∀ b ∈ back, p b = false := by simpa [List.filter_eq_nil_iff] using hback
    have hidx : (front ++ a :: back).findIdxs p = [front.length] := by
      rw [List.findIdxs_append, List.findIdxs_eq_nil_iff.mpr hfront, List.findIdxs_cons, if_pos hp,
        List.findIdxs_eq_nil_iff.mpr hback]
      simp
    have hkeep : ∀ m : List α, (∀ b ∈ m, p b = false) → (m.filter fun b => !p b) = m :=
      fun m hm => List.filter_eq_self.mpr fun b hb => by simp [hm b hb]
    rw [hidx, ha, removeEach_cons_eq_some]
    refine ⟨a, [], by simp, ?_, rfl⟩
    simp [List.eraseIdx_append_of_length_le, hkeep front hfront, hkeep back hback, hp]

/-- Positions that were looked up beforehand are right for a single element only. -/
theorem removeEach_findIdxs_iff :
    (∃ rest, removeEach l (l.findIdxs p) = some (l.filter p, rest)) ↔ l.countP p ≤ 1 := by
  refine ⟨fun ⟨rest, h⟩ => ?_, fun h => ⟨_, removeEach_findIdxs_of_le h⟩⟩
  by_contra hmany
  -- the last position, and at least one before it
  have hlen : (l.findIdxs p).length = l.countP p := List.length_findIdxs
  obtain ⟨is, j, his⟩ := List.eq_nil_or_concat (l.findIdxs p) |>.resolve_left fun hnil => by
    rw [hnil] at hlen
    simp only [List.length_nil] at hlen
    omega
  rw [List.concat_eq_append] at his
  have hle : ∀ i ∈ l.findIdxs p, i ≤ j := by
    have hpairwise : (l.findIdxs p).Pairwise (· < ·) := List.pairwise_findIdxs
    rw [his, List.pairwise_append] at hpairwise
    intro i hi
    rw [his, List.mem_append, List.mem_singleton] at hi
    rcases hi with hi | rfl
    · exact (hpairwise.2.2 i hi j (List.mem_singleton_self j)).le
    · exact Nat.le_refl i
  rw [his] at h
  obtain ⟨removed', rest', a, heach, ha, hremoved⟩ := removeEach_concat h
  have hpos : l[j + is.length]? = some a := by
    rw [← getElem?_of_removeEach heach fun i hi => hle i (his ▸ List.mem_append_left _ hi), ha]
  -- what is removed last is one of the elements, but they all lie before it
  have hp : p a = true := by
    have hmem : a ∈ l.filter p := by simp [hremoved]
    exact (List.mem_filter.mp hmem).2
  obtain ⟨hlt, hget⟩ := List.getElem?_eq_some_iff.mp hpos
  have hmem : j + is.length ∈ l.findIdxs p := by
    rw [List.mem_findIdxs_iff_pos_getElem hlt, hget]
    exact hp
  have := hle _ hmem
  rw [his, List.length_append, List.length_singleton] at hlen
  omega

end BleWsCentral.Found
