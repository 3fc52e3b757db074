import ShardManifest.Source.Plain

/-!
# Tokens of JSON texts

A JSON text is cut into tokens by one pass over its characters. The pass is a fold: a `Scan` holds
what has been read of an unfinished token and the finished tokens, newest first.

Whole numbers that fit neither 64-bit signed nor 64-bit unsigned integers become doubles, and so
does minus zero. A numeral beyond the finite doubles is refused, and so is half of a surrogate pair.

## Main definitions

- `Json.Token`
- `Json.number?`: the number that a numeral spells
- `Json.tokens?`: the tokens of a text, if every character belongs to one
-/

namespace ShardManifest.Json

inductive Token where
  | openList
  | closeList
  | openMapping
  | closeMapping
  | colon
  | comma
  /-- A null, a truth value, a number or a text. -/
  | scalar (value : Literal)
deriving DecidableEq, Repr

/-- Whether digits form a whole number: a lone zero, or no zero in front. -/
def isWhole : List Char → Bool
  | [] => false
  | ['0'] => true
  | c :: rest => c ≠ '0' && c.isDigit && rest.all Char.isDigit

/-- The number that a numeral without sign spells. -/
def magnitude? (negative : Bool) (cs : List Char) : Option Literal := do
  let whole := cs.takeWhile Char.isDigit
  let behind := cs.dropWhile Char.isDigit
  if !isWhole whole then failure
  let double := fun digits exponent =>
    let x := Binary64.ofDecimal negative digits exponent
    if x.isFinite then some (Literal.float x) else none
  match behind with
  | [] =>
    let n ← Plain.natural? 10 whole
    if negative then
      if 0 < n ∧ n ≤ Nat.pow 2 63 then some (.integer (-(n : Int))) else double n 0
    else if n < UInt64.size then some (.integer n) else double n 0
  | '.' :: rest =>
    let fraction := rest.takeWhile Char.isDigit
    if fraction.isEmpty then failure
    let digits ← Plain.natural? 10 (whole ++ fraction)
    let exponent ← Plain.exponent? (rest.dropWhile Char.isDigit)
    double digits (exponent - fraction.length)
  | power =>
    let digits ← Plain.natural? 10 whole
    let exponent ← Plain.exponent? power
    double digits exponent

/-- The number that a numeral spells. -/
def number? : List Char → Option Literal
  | '-' :: cs => magnitude? true cs
  | cs => magnitude? false cs

/-- The value of a row of letters, digits and signs. -/
def word? (cs : List Char) : Option Literal :=
  match String.ofList cs with
  | "null" => some .null
  | "true" => some (.bool true)
  | "false" => some (.bool false)
  | _ => number? cs

/-- The unfinished token at some point of a text; characters are held newest first. -/
inductive Pending where
  | none
  | word (read : List Char)
  | text (read : List Char)
  | escape (read : List Char)
  /-- Within the four digits of a code unit, with the first half of a pair before it, if any. -/
  | codeUnit (read : List Char) (high : Option Nat) (digits : List Char)
  /-- Behind the first half of a pair; the flag tells whether the backslash of the second is read. -/
  | pair (read : List Char) (high : Nat) (backslash : Bool)

/-- The tokens of what has been read, newest first, and the unfinished one. -/
structure Scan where
  pending : Pending
  /-- The finished tokens, newest first. -/
  found : List Token

/-- The character that a one-letter escape stands for. -/
def escaped? (c : Char) : Option Char :=
  match c with
  | '"' => some '"'
  | '\\' => some '\\'
  | '/' => some '/'
  | 'b' => some '\x08'
  | 'f' => some '\x0c'
  | 'n' => some '\n'
  | 'r' => some '\r'
  | 't' => some '\t'
  | _ => none

def Scan.start (found : List Token) (c : Char) : Option Scan :=
  match c with
  | '[' => some ⟨.none, .openList :: found⟩
  | ']' => some ⟨.none, .closeList :: found⟩
  | '\x7b' => some ⟨.none, .openMapping :: found⟩
  | '\x7d' => some ⟨.none, .closeMapping :: found⟩
  | ':' => some ⟨.none, .colon :: found⟩
  | ',' => some ⟨.none, .comma :: found⟩
  | '"' => some ⟨.text [], found⟩
  | ' ' => some ⟨.none, found⟩
  | '\t' => some ⟨.none, found⟩
  | '\n' => some ⟨.none, found⟩
  | '\r' => some ⟨.none, found⟩
  | c => if c.isAlphanum || c = '-' then some ⟨.word [c], found⟩ else none

/-- Takes a code unit of a text. -/
def Scan.codeUnit (read : List Char) (high : Option Nat) (unit : Nat) (found : List Token) :
    Option Scan :=
  match high with
  | some h =>
    if 0xDC00 ≤ unit ∧ unit < 0xE000 then
      some ⟨.text (Char.ofNat (0x10000 + (h - 0xD800) * 0x400 + (unit - 0xDC00)) :: read), found⟩
    else none
  | none =>
    if 0xD800 ≤ unit ∧ unit < 0xDC00 then some ⟨.pair read unit false, found⟩
    else if 0xDC00 ≤ unit ∧ unit < 0xE000 then none
    else some ⟨.text (Char.ofNat unit :: read), found⟩

def Scan.step (s : Scan) (c : Char) : Option Scan :=
  match s.pending with
  | .none => Scan.start s.found c
  | .word read =>
    if c.isAlphanum || c ∈ ['-', '+', '.'] then some ⟨.word (c :: read), s.found⟩
    else (word? read.reverse).bind fun value => Scan.start (.scalar value :: s.found) c
  | .text read =>
    if c = '"' then some ⟨.none, .scalar (.text (String.ofList read.reverse)) :: s.found⟩
    else if c = '\\' then some ⟨.escape read, s.found⟩
    else if c < ' ' then none
    else some ⟨.text (c :: read), s.found⟩
  | .escape read =>
    if c = 'u' then some ⟨.codeUnit read none [], s.found⟩
    else (escaped? c).map fun e => ⟨.text (e :: read), s.found⟩
  | .codeUnit read high digits =>
    if digits.length < 3 then some ⟨.codeUnit read high (c :: digits), s.found⟩
    else (Plain.natural? 16 (c :: digits).reverse).bind fun unit =>
      Scan.codeUnit read high unit s.found
  | .pair read high backslash =>
    if backslash then
      if c = 'u' then some ⟨.codeUnit read (some high) [], s.found⟩ else none
    else if c = '\\' then some ⟨.pair read high true, s.found⟩ else none

/-- The tokens of a text in order. -/
def tokens? (text : String) : Option (List Token) := do
  let s ← text.toList.foldlM Scan.step ⟨.none, []⟩
  match s.pending with
  | .none => some s.found.reverse
  | .word read => (word? read.reverse).map fun value => (.scalar value :: s.found).reverse
  | _ => none

end ShardManifest.Json
