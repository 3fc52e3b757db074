import Mathlib.Data.List.Basic

/-!
# Numerals

Whole numbers are written in decimal digits, with a minus sign in front of those below zero. A
numeral tells its number, and it has no character that is used as a mark between numerals.

## Main results

- `numeral_injective`: a numeral tells its number
- `eq_zero_of_head?_toDigits`: only the numeral of zero begins with a zero
- `toList_toString_ofNat`, `toList_toString_negSucc`: the numeral of a number with a sign
-/

namespace ShardManifest

theorem isDigit_of_mem_toDigits {n : Nat} {c : Char} (h : c ∈ Nat.toDigits 10 n) :
    c.isDigit = true :=
  Nat.isDigit_of_mem_toDigits (by decide) (by decide) h

theorem numeral_injective {m n : Nat} (h : toString m = toString n) : m = n := by
  have hdigits : Nat.toDigits 10 m = Nat.toDigits 10 n := by
    simpa [Nat.toString_eq_repr] using congrArg String.toList h
  simpa using congrArg (fun digits => Nat.ofDigitChars 10 digits 0) hdigits

theorem isDigit_of_mem_numeral {n : Nat} {c : Char} (h : c ∈ (toString n).toList) :
    c.isDigit = true := by
  rw [Nat.toString_eq_repr, Nat.toList_repr] at h
  exact isDigit_of_mem_toDigits h

theorem length_numeral_le {n k : Nat} (hk : 0 < k) (h : n < Nat.pow 10 k) :
    (toString n).toList.length ≤ k := by
  rw [Nat.toString_eq_repr, Nat.toList_repr]
  exact (Nat.length_toDigits_le_iff (by decide) hk).2 h

/-- Only the numeral of zero begins with a zero. -/
theorem eq_zero_of_head?_toDigits {n : Nat} (h : (Nat.toDigits 10 n).head? = some '0') : n = 0 := by
  induction n using Nat.strongRecOn with
  | ind n ih =>
    by_cases hsingle : n < 10
    · rw [Nat.toDigits_of_lt_base hsingle] at h
      simpa using h
    · -- the first digit is that of the number without its last digit
      have hlarge : 10 ≤ n := Nat.le_of_not_lt hsingle
      rw [Nat.toDigits_of_base_le (by decide) hlarge,
        List.head?_append_of_ne_nil _ Nat.toDigits_ne_nil] at h
      have hzero := ih (n / 10) (by omega) h
      omega

theorem hyphen_not_mem_numeral (n : Nat) : '-' ∉ (toString n).toList := by
  intro h
  exact absurd (isDigit_of_mem_numeral h) (by decide)

theorem toList_toString_ofNat (n : Nat) :
    (toString (Int.ofNat n)).toList = Nat.toDigits 10 n := by
  rw [Int.toString_eq_repr, Int.repr, Nat.toList_repr]

theorem toList_toString_negSucc (n : Nat) :
    (toString (Int.negSucc n)).toList = '-' :: Nat.toDigits 10 (n + 1) := by
  rw [Int.toString_eq_repr, Int.repr, String.toList_append, Nat.toList_repr]
  rfl

end ShardManifest
