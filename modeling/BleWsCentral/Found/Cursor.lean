import Mathlib

/-!
# Cursors

A cursor writes into a list that may be there already: it overwrites what it finds and makes the list longer
where it has to, and never shorter.

* `Cursor.write` — one write; `Cursor.writeAll` — writes one after the other.
* `writeAll_new` — what was there before the writes is still there behind what they wrote.
* `writeAll_new_eq_iff` — so only what they wrote is there if the list was not longer.
-/

namespace BleWsCentral.Found

/-- A position in a list. -/
structure Cursor (α : Type*) where
  inner : List α
  pos : ℕ

namespace Cursor

variable {α : Type*} [Inhabited α]

/-- A cursor at the start of a list. -/
def new (inner : List α) : Cursor α := ⟨inner, 0⟩

/-- Puts `buf` at the position, behind defaults if that is not in the list. -/
def write (self : Cursor α) (buf : List α) : Cursor α where
  inner := self.inner.take self.pos ++
    (List.replicate (self.pos - self.inner.length) default ++
      (buf ++ self.inner.drop (self.pos + buf.length)))
  pos := self.pos + buf.length

/-- Writes one after the other. -/
def writeAll (self : Cursor α) (bufs : List (List α)) : Cursor α := bufs.foldl write self

/-- A write at a position in the list. -/
theorem write_inner {front rest buf : List α} :
    write ⟨front ++ rest, front.length⟩ buf =
      ⟨(front ++ buf) ++ rest.drop buf.length, (front ++ buf).length⟩ := by
  simp [write, List.drop_append]

/-- Several writes put what they write together. -/
theorem writeAll_inner {front rest : List α} (bufs : List (List α)) :
    (writeAll ⟨front ++ rest, front.length⟩ bufs).inner =
      front ++ (bufs.flatten ++ rest.drop bufs.flatten.length) := by
  induction bufs generalizing front rest with
  | nil => simp [writeAll]
  | cons buf bufs ih =>
      have hfirst : writeAll ⟨front ++ rest, front.length⟩ (buf :: bufs) =
          writeAll (write ⟨front ++ rest, front.length⟩ buf) bufs := rfl
      rw [hfirst, write_inner, ih]
      simp [List.append_assoc, List.drop_drop]

/-- The writes leave what they wrote, and what was there behind it. -/
theorem writeAll_new (inner : List α) (bufs : List (List α)) :
    ((new inner).writeAll bufs).inner = bufs.flatten ++ inner.drop bufs.flatten.length :=
  @writeAll_inner α _ [] inner bufs

/-- They leave nothing else if the list was not longer. -/
theorem writeAll_new_eq_iff {inner : List α} {bufs : List (List α)} :
    ((new inner).writeAll bufs).inner = bufs.flatten ↔ inner.length ≤ bufs.flatten.length := by
  rw [writeAll_new, List.append_right_eq_self, List.drop_eq_nil_iff]

end Cursor

end BleWsCentral.Found
