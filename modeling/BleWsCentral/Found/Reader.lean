import Mathlib

/-!
# Readers of fixed width

A reader takes a value off the front of an input and gives what is left, or fails.

* `Exact read put width` — `put` writes every value in `width` symbols and leaves none of these words out,
  and `read` reads back what it writes, whatever follows, and nothing else.
* `Exact.exists_append` — so there is a value at the front of every input that is long enough.
* `Exact.isSome_iff`, `Exact.injective` — nothing else is asked of an input, and no value is written like
  another one.
* `Exact.map` — values of another type that are in bijection with these.
-/

namespace BleWsCentral.Found

/-- The reader accepts what the writer writes, and the writer leaves out no word of that width. -/
structure Exact {β α : Type*} (read : List β → Option (List β × α)) (put : α → List β) (width : ℕ) :
    Prop where
  read_eq_some : ∀ {buf rest : List β} {a : α}, read buf = some (rest, a) ↔ buf = put a ++ rest
  length_put : ∀ a, (put a).length = width
  exists_put : ∀ word : List β, word.length = width → ∃ a, put a = word

namespace Exact

variable {β α γ : Type*} {read : List β → Option (List β × α)} {put : α → List β} {width : ℕ}

/-- What was written is read back, whatever follows. -/
theorem read_put (h : Exact read put width) (a : α) (rest : List β) :
    read (put a ++ rest) = some (rest, a) :=
  h.read_eq_some.mpr rfl

/-- No value is written like another one. -/
theorem injective (h : Exact read put width) : Function.Injective put := by
  intro a b heq
  have hb := h.read_put b []
  rw [← heq, h.read_put a []] at hb
  exact congrArg Prod.snd (Option.some.inj hb)

/-- There is a value at the front of an input that is long enough. -/
theorem exists_append (h : Exact read put width) {buf : List β} (hlen : width ≤ buf.length) :
    ∃ a rest, buf = put a ++ rest ∧ buf.length = width + rest.length := by
  have htake : (buf.take width).length = width := by
    rw [List.length_take]
    exact Nat.min_eq_left hlen
  obtain ⟨a, ha⟩ := h.exists_put (buf.take width) htake
  refine ⟨a, buf.drop width, ?_, ?_⟩
  · rw [ha, List.take_append_drop]
  · rw [List.length_drop]
    omega

/-- An input is accepted if it is long enough. -/
theorem isSome_iff (h : Exact read put width) {buf : List β} :
    (read buf).isSome = true ↔ width ≤ buf.length := by
  constructor
  · intro hsome
    obtain ⟨⟨rest, a⟩, ha⟩ := Option.isSome_iff_exists.mp hsome
    rw [h.read_eq_some.mp ha, List.length_append, h.length_put]
    exact Nat.le_add_right _ _
  · intro hlen
    obtain ⟨a, rest, rfl, -⟩ := h.exists_append hlen
    rw [h.read_put]
    rfl

/-- The values may be given another form. -/
theorem map (h : Exact read put width) (e : α ≃ γ) :
    Exact (fun buf => (read buf).map (Prod.map id e)) (fun c => put (e.symm c)) width where
  read_eq_some {buf rest c} := by
    simp only [Option.map_eq_some_iff, Prod.map, Prod.mk.injEq, Prod.exists, id]
    constructor
    · rintro ⟨rest', a, ha, rfl, rfl⟩
      rw [e.symm_apply_apply]
      exact h.read_eq_some.mp ha
    · intro hbuf
      exact ⟨rest, e.symm c, h.read_eq_some.mpr hbuf, rfl, e.apply_symm_apply c⟩
  length_put c := h.length_put (e.symm c)
  exists_put word hword := by
    obtain ⟨a, ha⟩ := h.exists_put word hword
    exact ⟨e a, by rw [e.symm_apply_apply, ha]⟩

end Exact

end BleWsCentral.Found
