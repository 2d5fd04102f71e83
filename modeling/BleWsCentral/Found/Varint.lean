import BleWsCentral.Found.Run

/-!
# Integers of variable length

Numbers in base 128, the least significant digit first, one digit a byte; the top bit of a byte says
that another one follows.

* `encode k n` — `n` in at most `k + 1` bytes.
* `read k` — reads such a number from the front of the input, and says whether the input ended too
  early or the number is too long.
* `read_encode` — reading gives back what was encoded, whatever follows; `read_lt` bounds what is read.
* `length_encode_eq_one` — the numbers that take one byte.
-/

namespace BleWsCentral.Found.Varint

/-- Why a number could not be read. -/
inductive ReadError
  | eof
  | malformed
deriving DecidableEq

/-- `n` in at most `k + 1` bytes. -/
def encode : ℕ → ℕ → List UInt8
  | 0, n => [UInt8.ofNat n]
  | k + 1, n =>
      if n < 128 then [UInt8.ofNat n]
      else UInt8.ofNat (n % 128 + 128) :: encode k (n / 128)

/-- Reads a number of at most `k + 1` bytes. -/
def read : ℕ → List UInt8 → Except ReadError (ℕ × List UInt8)
  | _, [] => .error .eof
  | 0, b :: bytes => if b.toNat < 128 then .ok (b.toNat, bytes) else .error .malformed
  | k + 1, b :: bytes =>
      if b.toNat < 128 then .ok (b.toNat, bytes)
      else
        match read k bytes with
        | .error e => .error e
        | .ok (n, rest) => .ok (b.toNat % 128 + 128 * n, rest)

/-- Reading gives back what was encoded. -/
theorem read_encode {k n : ℕ} (h : n < 128 ^ (k + 1)) (rest : List UInt8) :
    read k (encode k n ++ rest) = .ok (n, rest) := by
  induction k generalizing n with
  | zero =>
      have hn : n % 256 = n := Nat.mod_eq_of_lt (by omega)
      have hlt : n < 128 := by simpa using h
      simp [encode, read, hn, hlt]
  | succ k ih =>
      unfold encode
      split
      · rename_i hlt
        have hn : n % 256 = n := Nat.mod_eq_of_lt (by omega)
        simp [read, hn, hlt]
      · have hdigit : (n % 128 + 128) % 256 = n % 128 + 128 := Nat.mod_eq_of_lt (by omega)
        have hrest : n / 128 < 128 ^ (k + 1) := by
          rw [Nat.div_lt_iff_lt_mul (by decide)]
          calc n < 128 ^ (k + 1 + 1) := h
            _ = 128 ^ (k + 1) * 128 := pow_succ _ _
        have hn : n % 128 + 128 * (n / 128) = n := Nat.mod_add_div n 128
        simp [read, hdigit, ih hrest, hn]

/-- What follows a number does not matter. -/
theorem read_append {k n : ℕ} {bytes rest : List UInt8} (h : read k bytes = .ok (n, rest))
    (tail : List UInt8) : read k (bytes ++ tail) = .ok (n, rest ++ tail) := by
  induction bytes generalizing k n with
  | nil => simp [read] at h
  | cons b bytes ih =>
      cases k with
      | zero =>
          rw [read] at h
          rw [List.cons_append, read]
          split at h
          · rename_i hb
            cases h
            rw [if_pos hb]
          · cases h
      | succ k =>
          rw [read] at h
          rw [List.cons_append, read]
          split at h
          · rename_i hb
            cases h
            rw [if_pos hb]
          · rename_i hb
            rw [if_neg hb]
            cases hread : read k bytes with
            | error e => simp [hread] at h
            | ok r =>
                simp only [hread] at h
                cases h
                simp [ih hread]

/-- A number of at most `k + 1` bytes is below `128 ^ (k + 1)`. -/
theorem read_lt {k n : ℕ} {bytes rest : List UInt8} (h : read k bytes = .ok (n, rest)) :
    n < 128 ^ (k + 1) := by
  induction k generalizing bytes n rest with
  | zero =>
      cases bytes with
      | nil => simp [read] at h
      | cons b bytes =>
          rw [read] at h
          split at h
          · rename_i hb
            cases h
            simpa using hb
          · cases h
  | succ k ih =>
      have hpos : 128 ≤ 128 ^ (k + 1 + 1) := Nat.le_self_pow (by omega) 128
      cases bytes with
      | nil => simp [read] at h
      | cons b bytes =>
          rw [read] at h
          split at h
          · rename_i hb
            cases h
            omega
          · cases hread : read k bytes with
            | error e => simp [hread] at h
            | ok r =>
                obtain ⟨m, rest'⟩ := r
                have hlt := ih hread
                simp only [hread, Except.ok.injEq, Prod.mk.injEq] at h
                rw [← h.1, pow_succ]
                omega

/-- An input that ends too early still does when it is cut further. -/
theorem read_eof_of_append {k : ℕ} {bytes rest : List UInt8}
    (h : read k (bytes ++ rest) = .error .eof) : read k bytes = .error .eof := by
  induction bytes generalizing k with
  | nil => simp [read]
  | cons b bytes ih =>
      cases k with
      | zero =>
          rw [List.cons_append, read] at h
          split at h <;> cases h
      | succ k =>
          rw [List.cons_append, read] at h
          rw [read]
          split at h
          · cases h
          · rename_i hb
            rw [if_neg hb]
            cases hread : read k (bytes ++ rest) with
            | error e =>
                simp only [hread] at h
                obtain rfl : e = .eof := by simpa using h
                simp [ih hread]
            | ok r => simp [hread] at h

theorem length_encode_pos (k n : ℕ) : 0 < (encode k n).length := by
  cases k with
  | zero => simp [encode]
  | succ k =>
      rw [encode]
      split <;> simp

/-- A number takes one byte if it is a digit. -/
theorem length_encode_eq_one {k n : ℕ} : (encode (k + 1) n).length = 1 ↔ n < 128 := by
  rw [encode]
  split
  · rename_i h
    simp [h]
  · rename_i h
    have := length_encode_pos k (n / 128)
    refine iff_of_false ?_ h
    rw [List.length_cons]
    omega

end BleWsCentral.Found.Varint
