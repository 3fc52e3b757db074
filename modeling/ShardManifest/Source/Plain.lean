import ShardManifest.Number.Binary64

/-!
# Kinds of plain scalars

A scalar that stands in a YAML text without quotes is a null, a truth value, a number or a text,
depending on how it is spelled. The spellings are those of the core schema, with these decisions:
a number takes one sign; hexadecimal, octal and binary numerals have lower-case marks; whole numbers
reach up to 128 bits, and beyond that a numeral is a double; digits behind a leading zero are text.

## Main definitions

- `Literal`: what a scalar can stand for
- `Plain.integer?`, `Plain.float?`, `Plain.literal`
-/

namespace ShardManifest

/-- What a scalar stands for where a value of any kind may stand. -/
inductive Literal where
  | null
  | bool (value : Bool)
  | integer (value : Int)
  | float (value : Binary64)
  | text (value : String)
deriving DecidableEq, Repr

namespace Plain

/-- The spellings of null, the empty scalar apart. -/
def isNullWord (s : String) : Bool :=
  s ∈ ["null", "Null", "NULL", "~"]

/-- The truth value that a word spells. -/
def bool? (s : String) : Option Bool :=
  if s ∈ ["true", "True", "TRUE"] then some true
  else if s ∈ ["false", "False", "FALSE"] then some false
  else none

/-- The value of a digit in a base up to sixteen. -/
def digit? (base : Nat) (c : Char) : Option Nat :=
  let value :=
    if '0' ≤ c ∧ c ≤ '9' then c.toNat - '0'.toNat
    else if 'a' ≤ c ∧ c ≤ 'f' then c.toNat - 'a'.toNat + 10
    else if 'A' ≤ c ∧ c ≤ 'F' then c.toNat - 'A'.toNat + 10
    else base
  if value < base then some value else none

/-- The number that a non-empty row of digits spells. -/
def natural? (base : Nat) (cs : List Char) : Option Nat :=
  if cs.isEmpty then none
  else cs.foldlM (fun n c => (digit? base c).map (base * n + ·)) 0

/-- Two or more digits of which the first is zero. -/
def isZeroPadded : List Char → Bool
  | '0' :: c :: rest => (c :: rest).all Char.isDigit
  | _ => false

def magnitude? : List Char → Option Nat
  | '0' :: 'x' :: digits => natural? 16 digits
  | '0' :: 'o' :: digits => natural? 8 digits
  | '0' :: 'b' :: digits => natural? 2 digits
  | cs => if isZeroPadded cs then none else natural? 10 cs

/-- A whole number of at most 128 bits. -/
def integer? (s : String) : Option Int :=
  let positive := fun cs => do
    let n ← magnitude? cs
    if n < Nat.pow 2 128 then some (n : Int) else none
  match s.toList with
  | '-' :: cs => do
    let n ← magnitude? cs
    if n ≤ Nat.pow 2 127 then some (-(n : Int)) else none
  | '+' :: cs => positive cs
  | cs => positive cs

/-- The power of ten behind a numeral's digits: nothing, or a mark, a sign and digits. -/
def exponent? : List Char → Option Int
  | [] => some 0
  | c :: rest =>
    if c = 'e' ∨ c = 'E' then
      match rest with
      | '-' :: digits => (natural? 10 digits).map fun n => -(n : Int)
      | '+' :: digits => (natural? 10 digits).map fun n => (n : Int)
      | digits => (natural? 10 digits).map fun n => (n : Int)
    else none

/-- A decimal numeral without sign: digits with a point somewhere among them or without one, and
possibly a power of ten. The result is the digits as one number and the power of ten of the last. -/
def decimal? (cs : List Char) : Option (Nat × Int) := do
  let whole := cs.takeWhile Char.isDigit
  let behind := cs.dropWhile Char.isDigit
  let (fraction, power) := match behind with
    | '.' :: rest => (rest.takeWhile Char.isDigit, rest.dropWhile Char.isDigit)
    | rest => ([], rest)
  let digits ← natural? 10 (whole ++ fraction)
  let exponent ← exponent? power
  return (digits, exponent - fraction.length)

/-- A double; a numeral beyond the finite range spells none. -/
def float? (s : String) : Option Binary64 :=
  if s ∈ [".inf", ".Inf", ".INF", "+.inf", "+.Inf", "+.INF"] then some (.infinity false)
  else if s ∈ ["-.inf", "-.Inf", "-.INF"] then some (.infinity true)
  else if s ∈ [".nan", ".NaN", ".NAN"] then some .nan
  else do
    let (negative, cs) := match s.toList with
      | '-' :: cs => (true, cs)
      | '+' :: cs => (false, cs)
      | cs => (false, cs)
    let (digits, exponent) ← decimal? cs
    let x := Binary64.ofDecimal negative digits exponent
    if x.isFinite then some x else none

/-- Whether a scalar is a sign or none before two or more digits that begin with zero. -/
def isPaddedText (s : String) : Bool :=
  match s.toList with
  | '-' :: cs => isZeroPadded cs
  | '+' :: cs => isZeroPadded cs
  | cs => isZeroPadded cs

/-- What a plain scalar stands for. -/
def literal (s : String) : Literal :=
  if s.isEmpty || isNullWord s then .null
  else
    match bool? s with
    | some b => .bool b
    | none =>
      match integer? s with
      | some n => .integer n
      | none =>
        match if isPaddedText s then none else float? s with
        | some x => .float x
        | none => .text s

end Plain

end ShardManifest
