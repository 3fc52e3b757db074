/-!
# Double precision numbers

A `Binary64` is the 64-bit word of an IEEE 754 double. Its fields are read off by division, and a
decimal numeral is rounded once, in exact natural-number arithmetic, so nothing here depends on the
floating point unit and every definition can be evaluated by the kernel.

## Main definitions

- `Binary64.significand`, `Binary64.unit`: the magnitude is `significand * 2 ^ unit / 2 ^ 1074`
- `Binary64.roundedMagnitude`: a quotient of natural numbers to the nearest double, ties to even
- `Binary64.ofDecimal`: the double nearest to a decimal numeral
-/

namespace ShardManifest

/-- A double precision number, as its word. -/
structure Binary64 where
  /-- Sign, eleven bits of exponent and 52 bits of fraction, from the most significant bit down. -/
  bits : UInt64
deriving DecidableEq, Repr

namespace Binary64

def isNegative (x : Binary64) : Bool := x.bits.toNat / Nat.pow 2 63 = 1

def exponentField (x : Binary64) : Nat := x.bits.toNat / Nat.pow 2 52 % Nat.pow 2 11

/-- The bits behind the leading one of the significand. -/
def fraction (x : Binary64) : Nat := x.bits.toNat % Nat.pow 2 52

/-- Whether the word encodes no number at all. -/
def isNaN (x : Binary64) : Bool := x.exponentField = 2047 && x.fraction ≠ 0

/-- Whether the word encodes an infinity. -/
def isInfinite (x : Binary64) : Bool := x.exponentField = 2047 && x.fraction = 0

/-- The significand as a whole number below `2 ^ 53`. -/
def significand (x : Binary64) : Nat :=
  if x.exponentField = 0 then x.fraction else Nat.pow 2 52 + x.fraction

/-- The exponent of the last place, counted from the smallest positive double `2 ^ -1074`. -/
def unit (x : Binary64) : Nat := x.exponentField - 1

/-- The magnitude bits of infinity; every finite magnitude is below. -/
def infinityMagnitude : Nat := 2047 * Nat.pow 2 52

/-- The number with a sign and magnitude bits. -/
def ofMagnitude (negative : Bool) (magnitude : Nat) : Binary64 :=
  ⟨UInt64.ofNat ((if negative then Nat.pow 2 63 else 0) + magnitude)⟩

/-- Zero, of either sign. -/
def zero (negative : Bool) : Binary64 := ofMagnitude negative 0

/-- Infinity, of either sign. -/
def infinity (negative : Bool) : Binary64 := ofMagnitude negative infinityMagnitude

/-- The word that stands for no number. -/
def nan : Binary64 := ofMagnitude false (infinityMagnitude + Nat.pow 2 51)

/-- Whether the word encodes a number other than the infinities. -/
def isFinite (x : Binary64) : Bool := x.exponentField ≠ 2047

/-- The magnitude bits of the double nearest to `numerator / denominator`, ties to even.

The last place has the least unit that leaves a quotient below `2 ^ 53`. Since a unit more is
`2 ^ 52` in the word, adding the quotient to the shifted unit sets the exponent field, also when
rounding carries into a further bit. -/
def roundedMagnitude (numerator denominator : Nat) : Nat :=
  let scaled := numerator * Nat.pow 2 1074
  let unit := (scaled / denominator).log2 - 52
  let divisor := denominator * Nat.pow 2 unit
  let quotient := scaled / divisor
  let remainder := scaled % divisor
  let up := divisor < 2 * remainder || (2 * remainder = divisor && quotient % 2 = 1)
  unit * Nat.pow 2 52 + (if up then quotient + 1 else quotient)

/-- The double nearest to `digits * 10 ^ exponent`, or an infinity beyond the finite range.

Exponents far outside the range of doubles are decided without computing the power: above 400
every positive number overflows, and a number below `2 ^ n` times `10 ^ -(n + 400)` vanishes. -/
def ofDecimal (negative : Bool) (digits : Nat) (exponent : Int) : Binary64 :=
  if digits = 0 then zero negative
  else
    match exponent with
    | .ofNat e =>
      if 400 < e then infinity negative
      else ofMagnitude negative (min infinityMagnitude (roundedMagnitude (digits * Nat.pow 10 e) 1))
    | .negSucc e =>
      if digits.log2 + 400 < e then zero negative
      else
        ofMagnitude negative (min infinityMagnitude (roundedMagnitude digits (Nat.pow 10 (e + 1))))

end Binary64

end ShardManifest
