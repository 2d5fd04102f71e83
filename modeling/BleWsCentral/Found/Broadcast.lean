import Mathlib

/-!
# Broadcast channels

A channel that keeps the last `capacity` values that were sent, for receivers that each read them at
their own pace. A receiver that falls behind is told how many values it missed, and goes on with the
oldest one that is still there.

* `recv capacity sent next` — what a receiver gets that has read the first `next` of the values `sent`, and
  how far it is then. It gets nothing if it has read them all.
* `recv_isError_iff` — it is told that it missed values if and only if more than `capacity` are unread.
* `Follows` — what holds of a receiver over time: what it got last is the last value, or there is more to
  read. `Follows.send`, `Follows.recv` keep it.
-/

namespace BleWsCentral.Found

variable {α ε : Type} {capacity start next next' : ℕ} {sent : List α} {a : α}

/-- What a receiver gets next, and how far it has read then: a value, or how many values it missed. -/
def recv (capacity : ℕ) (sent : List α) (next : ℕ) : Option (Except ℕ α × ℕ) :=
  if sent.length - next ≤ capacity then (sent[next]?).map fun a => (.ok a, next + 1)
  else some (.error (sent.length - capacity - next), sent.length - capacity)

theorem recv_eq_ok : recv capacity sent next = some (.ok a, next') ↔
    sent.length - next ≤ capacity ∧ sent[next]? = some a ∧ next' = next + 1 := by
  unfold recv
  split
  · rename_i hle
    simp only [Option.map_eq_some_iff, Prod.mk.injEq, Except.ok.injEq, hle, true_and]
    grind
  · rename_i hlt
    simp [hlt]

theorem recv_eq_error {missed : ℕ} : recv capacity sent next = some (.error missed, next') ↔
    capacity < sent.length - next ∧ missed = sent.length - capacity - next ∧
      next' = sent.length - capacity := by
  unfold recv
  split
  · rename_i hle
    simp [Nat.not_lt.mpr hle]
  · rename_i hlt
    simp [Nat.not_le.mp hlt, eq_comm]

/-- A receiver missed values if there are more unread ones than the channel keeps. -/
theorem recv_isError_iff {item : Except ℕ α} (h : recv capacity sent next = some (item, next')) :
    (∃ missed, item = .error missed) ↔ capacity < sent.length - next := by
  cases item with
  | ok a =>
      have hle := (recv_eq_ok.mp h).1
      simp [hle]
  | error missed => exact iff_of_true ⟨missed, rfl⟩ (recv_eq_error.mp h).1

/-- A receiver that has read from `start` on: it has not read more than was sent, and unless there is
more to read, what it got last is the last value. -/
structure Follows (start : ℕ) (sent : List α) (next : ℕ) (items : List (Except ε α)) : Prop where
  start_le : start ≤ next
  le_length : next ≤ sent.length
  last : next = start ∨ next < sent.length ∨ ∃ a, items.getLast? = some (.ok a) ∧ sent.getLast? = some a

namespace Follows

variable {items : List (Except ε α)}

/-- A receiver that has read everything has got the last value last. -/
theorem last_of_drained (h : Follows start sent next items) (hdrained : next = sent.length)
    (hsent : start < sent.length) :
    ∃ a, items.getLast? = some (.ok a) ∧ sent.getLast? = some a := by
  rcases h.last with heq | hlt | hlast
  · omega
  · omega
  · exact hlast

/-- A new receiver reads what is sent from now on. -/
theorem subscribe (sent : List α) : Follows sent.length sent sent.length ([] : List (Except ε α)) :=
  ⟨Nat.le_refl _, Nat.le_refl _, .inl rfl⟩

/-- Something is sent. -/
theorem send (h : Follows start sent next items) (a : α) : Follows start (sent ++ [a]) next items := by
  have := h.le_length
  refine ⟨h.start_le, ?_, .inr (.inl ?_)⟩ <;> rw [List.length_append, List.length_singleton] <;> omega

/-- The receiver gets something, with errors replaced by `f`. -/
theorem recv (h : Follows start sent next items) (hcapacity : 0 < capacity) {item : Except ℕ α}
    (hrecv : recv capacity sent next = some (item, next')) (f : ℕ → ε) :
    Follows start sent next' (items ++ [item.mapError f]) := by
  have hstart := h.start_le
  cases item with
  | ok a =>
      obtain ⟨-, ha, rfl⟩ := recv_eq_ok.mp hrecv
      obtain ⟨hlt, -⟩ := List.getElem?_eq_some_iff.mp ha
      refine ⟨by omega, hlt, ?_⟩
      by_cases hmore : next + 1 < sent.length
      · exact .inr (.inl hmore)
      · refine .inr (.inr ⟨a, by simp [Except.mapError], ?_⟩)
        rw [List.getLast?_eq_getElem?, show sent.length - 1 = next by omega, ha]
  | error missed =>
      obtain ⟨hlag, -, rfl⟩ := recv_eq_error.mp hrecv
      exact ⟨by omega, by omega, .inr (.inl (by omega))⟩

end Follows

end BleWsCentral.Found
