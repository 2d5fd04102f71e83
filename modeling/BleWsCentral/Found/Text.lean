import Mathlib

/-!
# Texts

Texts with white space around them, and texts as bytes.

* `trim` — takes the white space at both ends off. `trim_eq_empty_iff`: nothing is left if there is nothing else;
  `trim_trim`: a second time nothing happens.
* `Ascii l` — characters that take one byte each. `toUTF8_take`: the first bytes of such a text are those of its
  first characters.
-/

namespace BleWsCentral.Found

/-! ## White space -/

/-- The characters with the property `White_Space`. -/
def whiteSpace (c : Char) : Bool :=
  (0x09 ≤ c.toNat && c.toNat ≤ 0x0d) || c.toNat = 0x20 || c.toNat = 0x85 || c.toNat = 0xa0 ||
    c.toNat = 0x1680 || (0x2000 ≤ c.toNat && c.toNat ≤ 0x200a) || c.toNat = 0x2028 || c.toNat = 0x2029 ||
    c.toNat = 0x202f || c.toNat = 0x205f || c.toNat = 0x3000

/-- Takes the white space at both ends off. -/
def trim (s : String) : String :=
  String.ofList ((s.toList.dropWhile whiteSpace).rdropWhile whiteSpace)

variable {s : String} {l : List Char} {n : ℕ}

theorem ofList_eq_empty_iff : String.ofList l = "" ↔ l = [] := by
  rw [← String.toList_inj, String.toList_ofList, String.toList_empty]

/-- Nothing is left of white space. -/
theorem trim_eq_empty_iff : trim s = "" ↔ ∀ c ∈ s.toList, whiteSpace c = true := by
  unfold trim
  rw [ofList_eq_empty_iff, List.rdropWhile_eq_nil_iff]
  constructor
  · intro h c hc
    rw [← List.takeWhile_append_dropWhile (p := whiteSpace) (l := s.toList)] at hc
    rcases List.mem_append.mp hc with hc | hc
    · exact List.mem_takeWhile_imp hc
    · exact h c hc
  · intro h c hc
    exact h c ((List.dropWhile_sublist _).mem hc)

/-- A text that was trimmed has no white space at its ends. -/
theorem trim_trim (s : String) : trim (trim s) = trim s := by
  have hfront : ∀ l : List Char, ((l.dropWhile whiteSpace).rdropWhile whiteSpace).dropWhile whiteSpace =
      (l.dropWhile whiteSpace).rdropWhile whiteSpace := by
    intro l
    rw [List.dropWhile_eq_self_iff]
    intro hpos
    have hsub := List.rdropWhile_prefix (p := whiteSpace) (l.dropWhile whiteSpace)
    have hlong : 0 < (l.dropWhile whiteSpace).length := hpos.trans_le hsub.length_le
    rw [hsub.getElem hpos]
    exact List.dropWhile_get_zero_not whiteSpace l hlong
  unfold trim
  rw [String.toList_ofList, hfront, List.rdropWhile_idempotent]

/-- A text without white space is left as it is. -/
theorem trim_eq_self (h : ∀ c ∈ s.toList, whiteSpace c = false) : trim s = s := by
  have hdrop : s.toList.dropWhile whiteSpace = s.toList := by
    rw [List.dropWhile_eq_self_iff]
    intro hpos
    simp [h _ (List.getElem_mem hpos)]
  have hrdrop : s.toList.rdropWhile whiteSpace = s.toList := by
    rw [List.rdropWhile_eq_self_iff]
    intro hne
    simp [h _ (List.getLast_mem hne)]
  unfold trim
  rw [hdrop, hrdrop, String.ofList_toList]

/-! ## Letters and digits -/

theorem toNat_of_isAlphanum {c : Char} (h : c.isAlphanum = true) : 48 ≤ c.toNat ∧ c.toNat ≤ 122 := by
  simp only [Char.isAlphanum, Char.isAlpha, Char.isUpper, Char.isLower, Char.isDigit, Bool.or_eq_true,
    Bool.and_eq_true, decide_eq_true_eq, UInt32.le_iff_toNat_le] at h
  have hval : c.val.toNat = c.toNat := rfl
  simp only [hval, Char.reduceVal, UInt32.reduceToNat] at h
  omega

/-! ## Bytes -/

/-- A text is read back from its bytes. -/
theorem fromUTF8?_toUTF8 (s : String) : String.fromUTF8? s.toUTF8 = some s := by
  rw [String.toUTF8_eq_toByteArray, String.fromUTF8?, dif_pos s.isValidUTF8]
  rfl

/-- Characters of one byte. -/
def Ascii (l : List Char) : Prop := ∀ c ∈ l, c.toNat < 128

theorem Ascii.take (h : Ascii l) (n : ℕ) : Ascii (l.take n) :=
  fun c hc => h c (List.mem_of_mem_take hc)

/-- They are as many bytes. -/
theorem size_utf8Encode (h : Ascii l) : l.utf8Encode.size = l.length := by
  induction l with
  | nil => rfl
  | cons c l ih =>
      obtain ⟨hc, hl⟩ := List.forall_mem_cons.mp h
      have hsize : c.utf8Size = 1 := by
        rw [Char.utf8Size_eq_one_iff, UInt32.le_iff_toNat_le]
        exact Nat.le_of_lt_succ hc
      rw [List.utf8Encode_cons, ByteArray.size_append, ih hl, List.utf8Encode_singleton,
        List.size_toByteArray, String.length_utf8EncodeChar, hsize, List.length_cons, Nat.add_comm]

/-- The first bytes are the first characters. -/
theorem toUTF8_take (h : Ascii l) (n : ℕ) :
    (String.ofList l).toUTF8.extract 0 n = (String.ofList (l.take n)).toUTF8 := by
  have hsize := size_utf8Encode (h.take n)
  rw [String.toUTF8_eq_toByteArray, String.toUTF8_eq_toByteArray, String.toByteArray_ofList,
    String.toByteArray_ofList]
  by_cases hn : n ≤ l.length
  · have happend : l.utf8Encode = (l.take n).utf8Encode ++ (l.drop n).utf8Encode := by
      rw [← List.utf8Encode_append, List.take_append_drop]
    rw [List.length_take_of_le hn] at hsize
    rw [happend]
    exact ByteArray.extract_append_eq_left hsize.symm
  · have hall : l.take n = l := List.take_of_length_le (by omega)
    have hlong : l.utf8Encode.size ≤ n := by
      rw [size_utf8Encode h]
      omega
    rw [hall, ← ByteArray.extract_zero_max_size (a := l.utf8Encode) (i := n), Nat.max_eq_left hlong]
    simp [ByteArray.extract_extract]

end BleWsCentral.Found
