import ShardManifest.Number.Binary64

/-!
# The shortest decimal text of a double

A finite double is written with the fewest digits that read back as the same double; of several
such decimals the nearest is taken. The search looks at coarser grids first: on each grid only the
two neighbours of the value can lie in the interval of reals that round to it. Everything is
compared as natural numbers over a common denominator.

## Main definitions

- `Decimal`: digits and a power of ten
- `Binary64.shortest`: the shortest decimal that reads back
- `NumberStyle` and `Binary64.text`: how such a decimal is laid out
-/

namespace ShardManifest

/-- The number `digits * 10 ^ exponent`. -/
structure Decimal where
  /-- The digits, read as one whole number. -/
  digits : Nat
  /-- The power of ten of the last digit. -/
  exponent : Int
deriving DecidableEq, Repr

/-- Which neighbour is taken when a value lies exactly between two of them. -/
inductive Tie
  | away
  /-- The neighbour whose last digit is even. -/
  | even
deriving DecidableEq, Repr

namespace Binary64

/-- The reals that round to a positive double, with the double itself, over one denominator. -/
structure Interval where
  /-- The least real that still rounds to the value. -/
  lower : Nat
  value : Nat
  /-- The greatest real that still rounds to the value. -/
  upper : Nat
  denominator : Nat
  /-- Whether the bounds belong to the interval. -/
  closed : Bool

/-- The interval of a finite positive magnitude.

Half a unit lies on each side, except below a power of two, where the neighbour is half as far.
The bounds round to the value exactly when its significand is even. -/
def interval (x : Binary64) : Interval :=
  let m := x.significand
  let below := if m = Nat.pow 2 52 && 0 < x.unit then 1 else 2
  { lower := (4 * m - below) * Nat.pow 2 x.unit
    value := 4 * m * Nat.pow 2 x.unit
    upper := (4 * m + 2) * Nat.pow 2 x.unit
    denominator := 4 * Nat.pow 2 1074
    closed := m % 2 = 0 }

namespace Interval

/-- How many digits the whole part has; zero or less counts the zeros behind the point. -/
def wholeDigits (i : Interval) : Int :=
  let whole := i.value / i.denominator
  if 0 < whole then (Nat.toDigits 10 whole).length
  else
    -- the smallest positive double is near 5e-324
    match (List.range 330).find? fun j => i.denominator ≤ i.value * Nat.pow 10 (j + 1) with
    | some j => -(j : Int)
    | none => 0

/-- The nearest of the two neighbours on the grid of `10 ^ exponent`, if one reads back. -/
def nearestOnGrid (i : Interval) (tie : Tie) (exponent : Int) : Option Decimal :=
  let scale := Nat.pow 10 (-exponent).toNat
  let step := i.denominator * Nat.pow 10 exponent.toNat
  let floor := i.value * scale / step
  let inside := fun n =>
    if i.closed then decide (i.lower * scale ≤ n * step ∧ n * step ≤ i.upper * scale)
    else decide (i.lower * scale < n * step ∧ n * step < i.upper * scale)
  let down := i.value * scale - floor * step
  let up := (floor + 1) * step - i.value * scale
  let preferUp := up < down || (up = down && (tie = .away || floor % 2 = 1))
  match inside floor, inside (floor + 1) with
  | true, true => some ⟨if preferUp then floor + 1 else floor, exponent⟩
  | true, false => some ⟨floor, exponent⟩
  | false, true => some ⟨floor + 1, exponent⟩
  | false, false => none

end Interval

/-- The shortest decimal that reads back as a finite positive magnitude; seventeen digits always
suffice. -/
def shortest (x : Binary64) (tie : Tie) : Decimal :=
  let i := x.interval
  let whole := i.wholeDigits
  let found := (List.range 17).findSome? fun k => i.nearestOnGrid tie (whole - (k + 1 : Nat))
  found.getD ⟨i.value / i.denominator, 0⟩

end Binary64

/-- The decisions of a text format about its numbers. -/
structure NumberStyle where
  /-- How a value between two equally short decimals is rounded. -/
  tie : Tie
  /-- Whether a number is written without exponent, given how many digits stand before its point;
  zero or less counts the zeros behind the point. -/
  positional : Int → Bool
  /-- What a whole number written without exponent ends in. -/
  wholeMark : String
  /-- The text of an infinity, behind its sign. -/
  infinity : String
  /-- The text of the word that is no number. -/
  nan : String

namespace NumberStyle

def zeros (n : Nat) : List Char := List.replicate n '0'

/-- Digits and point of a decimal, without exponent. -/
def positionalText (style : NumberStyle) (digits : List Char) (exponent : Int) : List Char :=
  let point := digits.length + exponent
  if 0 ≤ exponent then digits ++ zeros exponent.toNat ++ style.wholeMark.toList
  else if 0 < point then
    digits.take point.toNat ++ '.' :: digits.drop point.toNat
  else '0' :: '.' :: (zeros (-point).toNat ++ digits)

/-- One digit before the point, and the power of ten behind the letter `e`. -/
def exponentText (digits : List Char) (exponent : Int) : List Char :=
  let power := digits.length + exponent - 1
  match digits with
  | [] => []
  | first :: [] => first :: 'e' :: (toString power).toList
  | first :: rest => first :: '.' :: (rest ++ 'e' :: (toString power).toList)

/-- The text of a positive decimal; zeros at its end are dropped first. -/
def decimalText (style : NumberStyle) (d : Decimal) : List Char :=
  let written := Nat.toDigits 10 d.digits
  let digits := (written.reverse.dropWhile (· = '0')).reverse
  let exponent := d.exponent + (written.length - digits.length : Nat)
  if style.positional (digits.length + exponent) then style.positionalText digits exponent
  else exponentText digits exponent

end NumberStyle

/-- The text of a double in a given style. -/
def Binary64.text (style : NumberStyle) (x : Binary64) : String :=
  let sign := if x.isNegative then "-" else ""
  if x.isNaN then style.nan
  else if x.isInfinite then sign ++ style.infinity
  else if x.significand = 0 then sign ++ "0" ++ style.wholeMark
  else sign ++ String.ofList (style.decimalText (x.shortest style.tie))

end ShardManifest
