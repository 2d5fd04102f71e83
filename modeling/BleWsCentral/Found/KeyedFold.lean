import BleWsCentral.Found.Run

/-!
# Loops over entries with distinct keys

A loop over entries with distinct keys, of which each turn works on what belongs to its own key.

* `Keyed key get step act` — what a turn does: at its own key it is the partial function `act`, at
  every other key it changes nothing.
* `Keyed.of_foldlM` — what a loop that succeeds did at a key: `act` once if the key has an entry, and
  nothing otherwise.
* `Keyed.exists_foldlM_iff` — a loop succeeds if every turn can be taken from what there is at its key at the
  start.
* `foldlM_ok`, `exists_foldlM_iff` — loops of which no turn fails, or of which it is up to the entry.
-/

namespace BleWsCentral.Found

variable {σ α κ β ε : Type}

/-- The turn for the entry `a` applies `act a` to what `get` gives at the key of `a`, and leaves the
other keys alone. -/
structure Keyed (key : α → κ) (get : σ → κ → β) (step : σ → α → Except ε σ)
    (act : α → β → Option β) : Prop where
  at_key : ∀ s a t, step s a = .ok t → act a (get s (key a)) = some (get t (key a))
  at_other : ∀ s a t, step s a = .ok t → ∀ k, k ≠ key a → get t k = get s k

namespace Keyed

variable {key : α → κ} {get : σ → κ → β} {step : σ → α → Except ε σ} {act : α → β → Option β}
  {l : List α} {s t : σ} {a : α}

/-- A loop over other keys changes nothing at `k`. -/
theorem of_foldlM_of_notMem (h : Keyed key get step act) (hfold : l.foldlM step s = .ok t) {k : κ}
    (hk : k ∉ l.map key) : get t k = get s k := by
  induction l generalizing s with
  | nil =>
      cases hfold
      rfl
  | cons b l ih =>
      rw [List.map_cons, List.mem_cons, not_or] at hk
      rw [List.foldlM_cons] at hfold
      obtain ⟨u, hstep, hrest⟩ := bind_eq_ok.mp hfold
      rw [ih hrest hk.2, h.at_other s b u hstep k hk.1]

/-- An entry behind the first one has another key. -/
theorem key_ne {b : α} (hnd : key b ∉ l.map key) (hmem : a ∈ l) : key a ≠ key b := by
  intro heq
  exact hnd (heq ▸ List.mem_map_of_mem hmem)

/-- A loop over distinct keys acts once at each of them. -/
theorem of_foldlM (h : Keyed key get step act) (hnd : (l.map key).Nodup)
    (hfold : l.foldlM step s = .ok t) (hmem : a ∈ l) :
    act a (get s (key a)) = some (get t (key a)) := by
  induction l generalizing s with
  | nil => cases hmem
  | cons b l ih =>
      rw [List.map_cons, List.nodup_cons] at hnd
      rw [List.foldlM_cons] at hfold
      obtain ⟨u, hstep, hrest⟩ := bind_eq_ok.mp hfold
      rcases List.mem_cons.mp hmem with rfl | hmem
      · rw [h.of_foldlM_of_notMem hrest hnd.1]
        exact h.at_key s a u hstep
      · rw [← h.at_other s b u hstep _ (key_ne hnd.1 hmem)]
        exact ih hnd.2 hrest hmem

/-- A loop over distinct keys succeeds if every turn can be taken at the start. -/
theorem exists_foldlM_iff (h : Keyed key get step act) {ok : α → β → Prop}
    (hok : ∀ s a, (∃ t, step s a = .ok t) ↔ ok a (get s (key a))) (hnd : (l.map key).Nodup) :
    (∃ t, l.foldlM step s = .ok t) ↔ ∀ a ∈ l, ok a (get s (key a)) := by
  induction l generalizing s with
  | nil => exact iff_of_true ⟨s, rfl⟩ (by simp)
  | cons b l ih =>
      rw [List.map_cons, List.nodup_cons] at hnd
      rw [List.forall_mem_cons, ← hok, List.foldlM_cons]
      have hrest : ∀ u, step s b = .ok u →
          ((∃ t, l.foldlM step u = .ok t) ↔ ∀ a ∈ l, ok a (get s (key a))) := by
        intro u hstep
        rw [ih hnd.2]
        apply forall₂_congr
        intro a hmem
        rw [h.at_other s b u hstep _ (key_ne hnd.1 hmem)]
      constructor
      · rintro ⟨t, ht⟩
        obtain ⟨u, hstep, ht⟩ := bind_eq_ok.mp ht
        exact ⟨⟨u, hstep⟩, (hrest u hstep).mp ⟨t, ht⟩⟩
      · rintro ⟨⟨u, hstep⟩, hall⟩
        obtain ⟨t, ht⟩ := (hrest u hstep).mpr hall
        exact ⟨t, bind_eq_ok.mpr ⟨u, hstep, ht⟩⟩

end Keyed

/-- A loop whose turns cannot fail. -/
theorem foldlM_ok (f : σ → α → σ) (l : List α) (s : σ) :
    l.foldlM (fun s a => (.ok (f s a) : Except ε σ)) s = .ok (l.foldl f s) := by
  induction l generalizing s with
  | nil => rfl
  | cons a l ih =>
      rw [List.foldlM_cons, List.foldl_cons]
      exact ih (f s a)

/-- A loop of which it is up to the entry whether a turn succeeds. -/
theorem exists_foldlM_iff {step : σ → α → Except ε σ} {ok : α → Prop}
    (hok : ∀ s a, (∃ t, step s a = .ok t) ↔ ok a) (l : List α) (s : σ) :
    (∃ t, l.foldlM step s = .ok t) ↔ ∀ a ∈ l, ok a := by
  induction l generalizing s with
  | nil => exact iff_of_true ⟨s, rfl⟩ (by simp)
  | cons a l ih =>
      rw [List.forall_mem_cons, ← hok s, List.foldlM_cons]
      constructor
      · rintro ⟨t, ht⟩
        obtain ⟨u, hstep, ht⟩ := bind_eq_ok.mp ht
        exact ⟨⟨u, hstep⟩, (ih u).mp ⟨t, ht⟩⟩
      · rintro ⟨⟨u, hstep⟩, hall⟩
        obtain ⟨t, ht⟩ := (ih u).mpr hall
        exact ⟨t, bind_eq_ok.mpr ⟨u, hstep, ht⟩⟩

end BleWsCentral.Found
