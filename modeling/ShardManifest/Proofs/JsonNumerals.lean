import Mathlib.Algebra.Group.Int.Defs
import Mathlib.Data.List.TakeWhile
import ShardManifest.Json.Reader
import ShardManifest.Proofs.Numerals

/-!
# Whole numbers in JSON

The decimal numeral of a whole number is one word of a JSON text. It is read as that number if 64
bits hold it, with a sign or without one; any other numeral is read as a double, if at all.

## Main results

- `Plain.natural?_toDigits`: a row of digits is read as the number that it spells
- `Json.read?_word`: a text that is one word spells the value of that word
- `Json.word?_numeral_iff`: which numerals are read as whole numbers, and as which
-/

namespace ShardManifest

/-! ### Digits -/

namespace Plain

theorem digit?_of_isDigit {c : Char} (h : c.isDigit = true) :
    digit? 10 c = some (c.toNat - '0'.toNat) := by
  obtain ⟨hlow, hhigh⟩ := Char.isDigit_iff_toNat.1 h
  have hrange : '0' ≤ c ∧ c ≤ '9' := ⟨hlow, hhigh⟩
  have hvalue : c.toNat - '0'.toNat < 10 := by
    have hzero : '0'.toNat = 48 := rfl
    have hnine : c.toNat ≤ 57 := hhigh
    omega
  simp only [digit?, if_pos hrange, if_pos hvalue]

/-- A row of digits is read as the number that it spells. -/
theorem natural?_of_isDigit {cs : List Char} (hne : cs ≠ []) (h : ∀ c ∈ cs, c.isDigit = true) :
    natural? 10 cs = some (Nat.ofDigitChars 10 cs 0) := by
  have hrun : ∀ n : Nat, cs.foldlM (fun n c => (digit? 10 c).map (10 * n + ·)) n =
      some (Nat.ofDigitChars 10 cs n) := by
    clear hne
    induction cs with
    | nil => exact fun n => rfl
    | cons c cs ih =>
      obtain ⟨hc, hcs⟩ := List.forall_mem_cons.1 h
      intro n
      rw [List.foldlM_cons, digit?_of_isDigit hc, Nat.ofDigitChars_cons]
      exact ih hcs _
  rw [natural?, if_neg (by simpa using hne), hrun]

theorem natural?_toDigits (n : Nat) : natural? 10 (Nat.toDigits 10 n) = some n := by
  rw [natural?_of_isDigit Nat.toDigits_ne_nil fun _ => isDigit_of_mem_toDigits,
    Nat.ofDigitChars_ten_toDigits]

end Plain

namespace Json

/-- Only the numeral of zero begins with a zero, so numerals are whole numbers as JSON writes
them. -/
theorem isWhole_toDigits (n : Nat) : isWhole (Nat.toDigits 10 n) = true := by
  have hdigits : ∀ c ∈ Nat.toDigits 10 n, c.isDigit = true := fun _ => isDigit_of_mem_toDigits
  rw [isWhole.eq_def]
  split
  next hnil => exact absurd hnil Nat.toDigits_ne_nil
  next => rfl
  next c rest hne hcons =>
    rw [hcons, List.forall_mem_cons] at hdigits
    have hzero : c ≠ '0' := by
      rintro rfl
      have hn := eq_zero_of_head?_toDigits (congrArg List.head? hcons)
      subst hn
      exact hne rfl (List.cons.inj hcons).2.symm
    simpa [hzero, hdigits.1] using hdigits.2

/-- A row of digits is read as a whole number where 64 bits hold it. -/
theorem magnitude?_toDigits_iff {negative : Bool} {n : Nat} {k : Int} :
    magnitude? negative (Nat.toDigits 10 n) = some (.integer k) ↔
      if negative then k = -n ∧ 0 < n ∧ n ≤ Nat.pow 2 63 else k = n ∧ n < UInt64.size := by
  have htake : (Nat.toDigits 10 n).takeWhile Char.isDigit = Nat.toDigits 10 n :=
    List.takeWhile_eq_self_iff.2 fun _ => isDigit_of_mem_toDigits
  have hdrop : (Nat.toDigits 10 n).dropWhile Char.isDigit = [] :=
    List.dropWhile_eq_nil_iff.2 fun _ => isDigit_of_mem_toDigits
  have hdouble : ∀ x : Binary64, (if x.isFinite then some (Literal.float x) else none) ≠
      some (.integer k) := by
    intro x
    split <;> simp
  simp only [magnitude?, htake, hdrop, isWhole_toDigits, Plain.natural?_toDigits, Bool.not_true,
    Bool.false_eq_true, if_false, Option.bind_eq_bind, Option.bind_some]
  cases negative with
  | false =>
    simp only [Bool.false_eq_true, if_false]
    split
    next hn => simp only [hn, and_true, Option.some.injEq, Literal.integer.injEq, eq_comm]
    next hn => simp only [hn, and_false, hdouble]
  | true =>
    simp only [if_true]
    split
    next hn => simp only [hn, and_true, Option.some.injEq, Literal.integer.injEq, eq_comm]
    next hn => simp only [hn, and_false, hdouble]

/-! ### Words -/

/-- What a word may begin with. -/
def isWordStart (c : Char) : Bool := c.isAlphanum || c = '-'

/-- What a word may go on with. -/
def isWordChar (c : Char) : Bool := c.isAlphanum || c ∈ ['-', '+', '.']

theorem start_of_isWordStart {c : Char} (h : isWordStart c = true) (found : List Token) :
    Scan.start found c = some ⟨.word [c], found⟩ := by
  rw [Scan.start.eq_def]
  split
  case h_12 => exact if_pos h
  all_goals exact absurd h (by decide)

theorem foldlM_step_word {cs read : List Char} (h : ∀ c ∈ cs, isWordChar c = true)
    (found : List Token) :
    cs.foldlM Scan.step ⟨.word read, found⟩ = some ⟨.word (cs.reverse ++ read), found⟩ := by
  induction cs generalizing read with
  | nil => rfl
  | cons c cs ih =>
    obtain ⟨hc, hcs⟩ := List.forall_mem_cons.1 h
    have hstep : Scan.step ⟨.word read, found⟩ c = some ⟨.word (c :: read), found⟩ := if_pos hc
    rw [List.foldlM_cons, hstep, List.reverse_cons, List.append_assoc]
    exact ih hcs

/-- A text that is one word spells the value of that word. -/
theorem read?_word {text : String} {c : Char} {cs : List Char} (htext : text.toList = c :: cs)
    (hc : isWordStart c = true) (hcs : ∀ c ∈ cs, isWordChar c = true) :
    read? text = (word? (c :: cs)).map fun value => .scalar (.fixed value) := by
  have htokens : tokens? text = (word? (c :: cs)).map fun value => [.scalar value] := by
    have hstart : Scan.step ⟨.none, []⟩ c = some ⟨.word [c], []⟩ := start_of_isWordStart hc []
    have hrun : (c :: cs).foldlM Scan.step ⟨.none, []⟩ = some ⟨.word (cs.reverse ++ [c]), []⟩ := by
      rw [List.foldlM_cons, hstart]
      exact foldlM_step_word hcs []
    rw [tokens?, htext, hrun]
    simp
  rw [read?, htokens]
  cases word? (c :: cs) <;> rfl

/-! ### Numerals -/

theorem word?_eq_number? {c : Char} {cs : List Char} (hc : c.isDigit = true ∨ c = '-') :
    word? (c :: cs) = number? (c :: cs) := by
  have hne : ∀ (word : String) (first : Char), word.toList.head? = some first →
      ¬(first.isDigit = true ∨ first = '-') → String.ofList (c :: cs) ≠ word := by
    rintro word first hfirst hword rfl
    rw [String.toList_ofList, List.head?_cons, Option.some.injEq] at hfirst
    exact hword (hfirst ▸ hc)
  rw [word?]
  split
  case h_4 => rfl
  all_goals exact absurd ‹_› (hne _ _ rfl (by decide))

theorem number?_toDigits (n : Nat) :
    number? (Nat.toDigits 10 n) = magnitude? false (Nat.toDigits 10 n) := by
  rw [number?.eq_def]
  split
  next cs hcs =>
    have hsign : '-' ∈ Nat.toDigits 10 n := by simp [hcs]
    exact absurd (isDigit_of_mem_toDigits hsign) (by decide)
  next => rfl

/-- A numeral is a digit or a minus sign, and digits behind it. -/
theorem exists_cons_numeral (n : Int) :
    ∃ c cs, (toString n).toList = c :: cs ∧ (c.isDigit = true ∨ c = '-') ∧
      ∀ c ∈ cs, c.isDigit = true := by
  cases n with
  | ofNat n =>
    have hdigits : ∀ c ∈ Nat.toDigits 10 n, c.isDigit = true := fun _ => isDigit_of_mem_toDigits
    obtain ⟨c, cs, hcons⟩ := List.exists_cons_of_ne_nil (Nat.toDigits_ne_nil (b := 10) (n := n))
    rw [hcons, List.forall_mem_cons] at hdigits
    exact ⟨c, cs, by rw [toList_toString_ofNat, hcons], .inl hdigits.1, hdigits.2⟩
  | negSucc n =>
    exact ⟨_, _, toList_toString_negSucc n, .inr rfl, fun _ => isDigit_of_mem_toDigits⟩

/-- Which numerals are read as whole numbers, and as which. -/
theorem word?_numeral_iff {n k : Int} :
    word? (toString n).toList = some (.integer k) ↔ k = n ∧ -2 ^ 63 ≤ n ∧ n < 2 ^ 64 := by
  have hword : word? (toString n).toList = number? (toString n).toList := by
    obtain ⟨c, cs, hcons, hc, -⟩ := exists_cons_numeral n
    rw [hcons, word?_eq_number? hc]
  have hsize : UInt64.size = 2 ^ 64 := rfl
  have hpower : Nat.pow 2 63 = 2 ^ 63 := rfl
  rw [hword]
  cases n with
  | ofNat n =>
    rw [toList_toString_ofNat, number?_toDigits, magnitude?_toDigits_iff, hsize,
      if_neg Bool.false_ne_true, Int.ofNat_eq_natCast]
    omega
  | negSucc n =>
    rw [toList_toString_negSucc, number?, magnitude?_toDigits_iff, hpower, if_pos rfl]
    omega

/-- A numeral alone is a whole text. -/
theorem read?_numeral (n : Int) :
    read? (toString n) = (word? (toString n).toList).map fun value => .scalar (.fixed value) := by
  obtain ⟨c, cs, hcons, hc, hcs⟩ := exists_cons_numeral n
  have hstart : isWordStart c = true := by
    rcases hc with hc | rfl
    · simp [isWordStart, Char.isAlphanum, hc]
    · rfl
  have hrest : ∀ c ∈ cs, isWordChar c = true := fun c hc => by
    simp [isWordChar, Char.isAlphanum, hcs c hc]
  rw [hcons, read?_word hcons hstart hrest]

end Json

end ShardManifest
