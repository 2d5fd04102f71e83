import Mathlib

/-!
# Append-only logs

An ordered map of which entries are only ever appended: `append` fails unless the new key is greater
than the last one.

* `AppendLog κ ν` — the entries in key order, with the proof that the keys increase.
* `fits`, `append` — what may be appended, and appending it; `append_eq_some` says what it does.
* `range` — the entries with a key in a half-open range, in key order; `range_after` is how a range is
  read in pages.
* `compare_then` — numbers compare as their digits do, the most significant digit first, which is why
  keys of fixed width in big-endian order compare as the numbers they encode.
* `Increasing` — a sequence of keys that can be appended one after the other (`increasing_last_cons`).
-/

namespace BleWsCentral.Found

/-- A log: entries with increasing keys. -/
structure AppendLog (κ ν : Type) [Ord κ] where
  entries : List (κ × ν)
  sorted : entries.Pairwise fun e e' => compare e.1 e'.1 = .lt

namespace AppendLog

variable {κ ν : Type} [Ord κ] {log log' : AppendLog κ ν} {k k' : κ} {v : ν}

@[ext] theorem ext (h : log.entries = log'.entries) : log = log' := by
  cases log
  cases log'
  cases h
  rfl

instance [DecidableEq κ] [DecidableEq ν] : DecidableEq (AppendLog κ ν) := fun log log' =>
  decidable_of_iff (log.entries = log'.entries) ⟨ext, congrArg entries⟩

/-- The log without entries. -/
def empty : AppendLog κ ν := ⟨[], .nil⟩

/-- The last key, if there is one. -/
def last (log : AppendLog κ ν) : Option κ := log.entries.getLast?.map Prod.fst

/-- Whether an entry with key `k` may be appended: it is greater than the last key. -/
def fits (log : AppendLog κ ν) (k : κ) : Bool :=
  match log.last with
  | none => true
  | some k' => compare k' k == .lt

theorem fits_iff : log.fits k = true ↔ ∀ k', log.last = some k' → compare k' k = .lt := by
  unfold fits
  cases log.last with
  | none => simp
  | some k' => simp

/-- No key is greater than the last one. -/
theorem lt_of_fits [Std.TransOrd κ] (h : log.fits k = true) {e : κ × ν} (he : e ∈ log.entries) :
    compare e.1 k = .lt := by
  rcases hentries : log.entries.eq_nil_or_concat with hnil | ⟨front, l, hl⟩
  · simp [hnil] at he
  · rw [List.concat_eq_append] at hl
    have hlast : compare l.1 k = .lt := fits_iff.mp h l.1 (by simp [last, hl])
    rw [hl, List.mem_append, List.mem_singleton] at he
    rcases he with he | rfl
    · have hsorted := log.sorted
      rw [hl, List.pairwise_append] at hsorted
      exact Std.TransCmp.lt_trans (hsorted.2.2 e he l (by simp)) hlast
    · exact hlast

/-- Appends an entry, if its key is greater than the last one. -/
def append [Std.TransOrd κ] (log : AppendLog κ ν) (k : κ) (v : ν) : Option (AppendLog κ ν) :=
  if h : log.fits k = true then
    some
      { entries := log.entries ++ [(k, v)]
        sorted := by
          rw [List.pairwise_append]
          refine ⟨log.sorted, List.pairwise_singleton _ _, ?_⟩
          intro e he e' he'
          rw [List.mem_singleton] at he'
          exact he' ▸ lt_of_fits h he }
  else none

section Append

variable [Std.TransOrd κ]

theorem append_eq_some :
    log.append k v = some log' ↔ log.fits k = true ∧ log'.entries = log.entries ++ [(k, v)] := by
  unfold append
  split
  · rename_i h
    simp [h, AppendLog.ext_iff, eq_comm]
  · rename_i h
    simp [h]

theorem isSome_append : (log.append k v).isSome = log.fits k := by
  unfold append
  split <;> simp_all

/-- The last key after an entry was appended. -/
theorem last_of_append (h : log.append k v = some log') : log'.last = some k := by
  simp [last, (append_eq_some.mp h).2]

theorem mem_of_append (h : log.append k v = some log') {e : κ × ν} :
    e ∈ log'.entries ↔ e ∈ log.entries ∨ e = (k, v) := by
  simp [(append_eq_some.mp h).2]

end Append

/-- The entries with a key from `start` on and below `stop`, in key order. -/
def range (log : AppendLog κ ν) (start stop : κ) : List (κ × ν) :=
  log.entries.filter fun e => (compare start e.1).isLE && compare e.1 stop == .lt

theorem mem_range {start stop : κ} {e : κ × ν} :
    e ∈ log.range start stop ↔
      e ∈ log.entries ∧ (compare start e.1).isLE = true ∧ compare e.1 stop = .lt := by
  simp [range]

section Pages

variable [Std.TransOrd κ]

/-- Of sorted entries, those above the last one of the first `n` are the others. -/
theorem filter_above_last {entries : List (κ × ν)} {n : ℕ} {e : κ × ν}
    (hsorted : entries.Pairwise fun e e' => compare e.1 e'.1 = .lt)
    (he : (entries.take n).getLast? = some e) :
    (entries.filter fun e' => compare e.1 e'.1 == .lt) = entries.drop n := by
  obtain ⟨front, hfront⟩ := List.getLast?_eq_some_iff.mp he
  have hsplit := List.take_append_drop n entries
  rw [← hsplit, List.pairwise_append, hfront, List.pairwise_append] at hsorted
  obtain ⟨⟨-, -, hbefore⟩, -, hafter⟩ := hsorted
  conv_lhs => rw [← hsplit, List.filter_append]
  have htake : ((entries.take n).filter fun e' => compare e.1 e'.1 == .lt) = [] := by
    rw [List.filter_eq_nil_iff, hfront]
    intro e' he'
    rw [beq_iff_eq]
    rcases List.mem_append.mp he' with hmem | hmem
    · rw [Std.OrientedCmp.gt_of_lt (hbefore e' hmem e List.mem_cons_self)]
      exact Ordering.noConfusion
    · rw [List.mem_singleton.mp hmem, Std.ReflOrd.compare_self]
      exact Ordering.noConfusion
  have hdrop : ((entries.drop n).filter fun e' => compare e.1 e'.1 == .lt) = entries.drop n := by
    rw [List.filter_eq_self]
    intro e' he'
    exact beq_iff_eq.mpr (hafter e (List.mem_append_right _ List.mem_cons_self) e' he')
  rw [htake, hdrop, List.nil_append]

/-- The range from the key after the last one of the first `n` entries on holds the others. -/
theorem range_after {start stop next : κ} {n : ℕ} {e : κ × ν}
    (he : ((log.range start stop).take n).getLast? = some e)
    (hnext : ∀ k, (compare next k).isLE = true ↔ compare e.1 k = .lt) :
    log.range next stop = (log.range start stop).drop n := by
  have hsorted : (log.range start stop).Pairwise fun e e' => compare e.1 e'.1 = .lt :=
    log.sorted.filter _
  rw [← filter_above_last hsorted he]
  have hstart := (mem_range.mp (List.mem_of_mem_take (List.mem_of_getLast? he))).2.1
  unfold range
  rw [List.filter_filter]
  refine List.filter_congr fun e' _ => ?_
  rw [Bool.eq_iff_iff]
  simp only [Bool.and_eq_true, beq_iff_eq, hnext]
  refine ⟨fun h => ⟨h.1, Std.TransCmp.isLE_trans hstart ?_, h.2⟩, fun h => ⟨h.1, h.2.2⟩⟩
  rw [h.1]
  rfl

end Pages

/-! ## Sequences of keys -/

/-- A sequence of keys that increases from one to the next. -/
def Increasing (keys : List κ) : Prop := keys.Pairwise fun k k' => compare k k' = .lt

@[simp] theorem increasing_nil : Increasing ([] : List κ) := List.Pairwise.nil

/-- With a first key the rest starts above it. -/
theorem increasing_cons [Std.TransOrd κ] {keys : List κ} :
    Increasing (k :: keys) ↔ (∀ k', keys.head? = some k' → compare k k' = .lt) ∧ Increasing keys := by
  unfold Increasing
  rw [List.pairwise_cons]
  refine and_congr_left fun hkeys => ⟨fun h k' hk' => h k' (List.mem_of_mem_head? hk'), fun h => ?_⟩
  intro k' hk'
  cases keys with
  | nil => cases hk'
  | cons first rest =>
      have hfirst := h first rfl
      rcases List.mem_cons.mp hk' with rfl | hk'
      · exact hfirst
      · exact Std.TransCmp.lt_trans hfirst ((List.pairwise_cons.mp hkeys).1 k' hk')

/-- Keys follow the last one of a log if the first of them may be appended and the rest follows it. -/
theorem increasing_last_cons [Std.TransOrd κ] {keys : List κ} :
    Increasing (log.last.toList ++ k :: keys) ↔ log.fits k = true ∧ Increasing (k :: keys) := by
  rw [fits_iff]
  cases log.last with
  | none => simp
  | some k' =>
      rw [Option.toList_some, List.singleton_append, increasing_cons]
      simp

end AppendLog

/-! ## Keys that are numbers -/

theorem compare_uint8 (a b : UInt8) : compare a b = compare a.toNat b.toNat := by
  simp only [compare, compareOfLessAndEq, UInt8.lt_iff_toNat_lt, ← UInt8.toNat_inj]

theorem compare_uint32 (a b : UInt32) : compare a b = compare a.toNat b.toNat := by
  simp only [compare, compareOfLessAndEq, UInt32.lt_iff_toNat_lt, ← UInt32.toNat_inj]

/-- Two numbers compare as their quotients by a base do, and as their remainders where these are
equal. -/
theorem compare_then (base : ℕ) {q q' r r' : ℕ} (hr : r < base) (hr' : r' < base) :
    (compare q q').then (compare r r') = compare (q * base + r) (q' * base + r') := by
  rcases lt_trichotomy q q' with h | rfl | h
  · have hlt : q * base + r < q' * base + r' := by nlinarith
    rw [compare_lt_iff_lt.mpr h, compare_lt_iff_lt.mpr hlt]
    rfl
  · rw [compare_eq_iff_eq.mpr rfl]
    rcases lt_trichotomy r r' with h | rfl | h
    · rw [compare_lt_iff_lt.mpr h, compare_lt_iff_lt.mpr (by omega)]
      rfl
    · simp
    · rw [compare_gt_iff_gt.mpr h, compare_gt_iff_gt.mpr (by omega)]
      rfl
  · have hlt : q' * base + r' < q * base + r := by nlinarith
    rw [compare_gt_iff_gt.mpr h, compare_gt_iff_gt.mpr hlt]
    rfl

end BleWsCentral.Found
