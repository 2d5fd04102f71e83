import Mathlib

/-!
# Slot maps

A slot map hands out a key for every value put into it, and iterates over its live entries in an
order it does not promise.

* `DenseSlotMap K V M` — the interface: `insert`, `remove`, `iter`, with the documented laws. A key
  that was ever `issued` is never handed out again; `iter` lists every live entry once, in any order.
* `DenseVec V` — an implementation with the layout of a dense slot map: the entries lie in one vector,
  `insert` pushes at its end and `remove` is a `swap_remove`, so a removal moves the last entry.
* `SecondaryMap K V` — data attached to the keys of a slot map.
-/

namespace BleWsCentral.Found

/-- What a user of a dense slot map relies on. -/
class DenseSlotMap (K V : outParam Type) (M : Type) where
  /-- The map without entries. -/
  empty : M
  /-- Puts a value in and returns its key. -/
  insert : M → V → K × M
  /-- Takes the entry of a key out. -/
  remove : M → K → M
  /-- The live entries, in iteration order. -/
  iter : M → List (K × V)
  /-- The keys handed out so far, live or removed. -/
  issued : M → K → Prop
  iter_empty : iter empty = []
  keys_nodup : ∀ m, ((iter m).map Prod.fst).Nodup
  issued_of_mem_iter : ∀ m e, e ∈ iter m → issued m e.1
  iter_insert : ∀ m v, (iter (insert m v).2).Perm (((insert m v).1, v) :: iter m)
  not_issued_insert : ∀ m v, ¬ issued m (insert m v).1
  issued_insert : ∀ m v k, issued (insert m v).2 k ↔ k = (insert m v).1 ∨ issued m k
  iter_remove : ∀ m k e, e ∈ iter (remove m k) ↔ e ∈ iter m ∧ e.1 ≠ k
  issued_remove : ∀ m k k', issued (remove m k) k' ↔ issued m k'

namespace DenseSlotMap

variable {K V M : Type} [DenseSlotMap K V M] {m : M} {v : V} {k : K}

@[simp] theorem mem_iter_insert {e : K × V} :
    e ∈ iter (insert m v).2 ↔ e = ((insert m v).1, v) ∨ e ∈ iter m := by
  rw [(iter_insert m v).mem_iff, List.mem_cons]

@[simp] theorem mem_iter_remove {e : K × V} : e ∈ iter (remove m k) ↔ e ∈ iter m ∧ e.1 ≠ k :=
  iter_remove m k e

@[simp] theorem not_mem_iter_empty {e : K × V} : e ∉ iter (empty : M) := by
  simp [iter_empty]

/-- A key has one entry. -/
theorem eq_of_mem_iter {v w : V} (hv : (k, v) ∈ iter m) (hw : (k, w) ∈ iter m) : v = w := by
  have := List.inj_on_of_nodup_map (keys_nodup m) hv hw rfl
  simpa using this

/-- The key of a new entry differs from those of the entries there. -/
theorem ne_of_mem_iter {e : K × V} (h : e ∈ iter m) : e.1 ≠ (insert m v).1 := by
  intro heq
  exact not_issued_insert m v (heq ▸ issued_of_mem_iter m e h)

end DenseSlotMap

/-! ## An implementation -/

/-- Removes the entry of `k`; the last entry takes its place (`Vec::swap_remove`). -/
def swapRemove {V : Type} (k : ℕ) : List (ℕ × V) → List (ℕ × V)
  | [] => []
  | e :: es =>
      if e.1 = k then
        match es.getLast? with
        | none => []
        | some last => last :: es.dropLast
      else e :: swapRemove k es

theorem swapRemove_perm {V : Type} (k : ℕ) :
    ∀ es : List (ℕ × V), (es.map Prod.fst).Nodup →
      (swapRemove k es).Perm (es.filter fun e => e.1 ≠ k)
  | [], _ => .nil
  | e :: es, hnd => by
      rw [List.map_cons, List.nodup_cons] at hnd
      by_cases hk : e.1 = k
      · have hrest : (es.filter fun e => decide (e.1 ≠ k)) = es := by
          rw [List.filter_eq_self]
          intro e' he'
          have hne : e'.1 ≠ k := fun h => hnd.1 (List.mem_map.mpr ⟨e', he', h.trans hk.symm⟩)
          simpa using hne
        rw [List.filter_cons_of_neg (by simpa using hk), hrest, swapRemove, if_pos hk]
        cases hlast : es.getLast? with
        | none => simp [List.getLast?_eq_none_iff.mp hlast]
        | some last =>
            obtain ⟨front, rfl⟩ := List.getLast?_eq_some_iff.mp hlast
            simpa using (List.perm_append_singleton last front).symm
      · rw [List.filter_cons_of_pos (by simpa using hk), swapRemove, if_neg hk]
        exact (swapRemove_perm k es hnd.2).cons e

/-- A dense slot map: the entries in iteration order, and the number of keys handed out so far. A
key is an opaque token, so the order number of its insertion serves for it. -/
structure DenseVec (V : Type) where
  /-- The entries in iteration order. -/
  entries : List (ℕ × V)
  /-- The next key. -/
  next : ℕ
  keys_nodup : (entries.map Prod.fst).Nodup
  keys_lt : ∀ e ∈ entries, e.1 < next

namespace DenseVec

variable {V : Type}

/-- Pushes the entry at the end of the vector. -/
def insert (m : DenseVec V) (v : V) : ℕ × DenseVec V :=
  (m.next,
    { entries := m.entries ++ [(m.next, v)]
      next := m.next + 1
      keys_nodup := by
        rw [List.map_append, List.map_singleton, List.nodup_append]
        refine ⟨m.keys_nodup, List.nodup_singleton _, ?_⟩
        rintro a ha b hb rfl
        obtain ⟨e, he, rfl⟩ := List.mem_map.mp ha
        rw [List.mem_singleton] at hb
        have := m.keys_lt e he
        omega
      keys_lt := by
        intro e he
        rcases List.mem_append.mp he with he | he
        · exact Nat.lt_succ_of_lt (m.keys_lt e he)
        · rw [List.mem_singleton] at he
          simp [he] })

/-- Removes an entry by moving the last one into its place. -/
def remove (m : DenseVec V) (k : ℕ) : DenseVec V where
  entries := swapRemove k m.entries
  next := m.next
  keys_nodup := by
    rw [((swapRemove_perm k m.entries m.keys_nodup).map Prod.fst).nodup_iff]
    exact m.keys_nodup.sublist (List.filter_sublist.map Prod.fst)
  keys_lt := by
    intro e he
    rw [(swapRemove_perm k m.entries m.keys_nodup).mem_iff] at he
    exact m.keys_lt e (List.mem_filter.mp he).1

instance : DenseSlotMap ℕ V (DenseVec V) where
  empty := ⟨[], 0, List.nodup_nil, by simp⟩
  insert := insert
  remove := remove
  iter := entries
  issued m k := k < m.next
  iter_empty := rfl
  keys_nodup := keys_nodup
  issued_of_mem_iter m e he := m.keys_lt e he
  iter_insert m v := List.perm_append_singleton _ _
  not_issued_insert m v := by simp [insert]
  issued_insert m v k := by simp only [insert]; omega
  iter_remove m k e := by
    simp only [remove]
    rw [(swapRemove_perm k m.entries m.keys_nodup).mem_iff, List.mem_filter]
    simp
  issued_remove m k k' := by simp [remove]

end DenseVec

/-! ## Data attached to keys -/

/-- The data attached to the keys of a slot map, where there is any. -/
def SecondaryMap (K V : Type) : Type := K → Option V

namespace SecondaryMap

variable {K V : Type} [DecidableEq K] {m : SecondaryMap K V} {k k' : K} {v : V}

/-- The map without data. -/
def empty : SecondaryMap K V := fun _ => none

/-- The datum of a key. -/
def get (m : SecondaryMap K V) (k : K) : Option V := m k

/-- Attaches a datum to a key. -/
def insert (m : SecondaryMap K V) (k : K) (v : V) : SecondaryMap K V :=
  fun k' => if k' = k then some v else m k'

/-- Detaches the datum of a key. -/
def remove (m : SecondaryMap K V) (k : K) : SecondaryMap K V :=
  fun k' => if k' = k then none else m k'

omit [DecidableEq K] in
@[simp] theorem get_empty : (empty : SecondaryMap K V).get k = none := rfl

theorem get_insert : (m.insert k v).get k' = if k' = k then some v else m.get k' := rfl

theorem get_remove : (m.remove k).get k' = if k' = k then none else m.get k' := rfl

end SecondaryMap

end BleWsCentral.Found
