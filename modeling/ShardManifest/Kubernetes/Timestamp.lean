/-!
# Timestamps

Timestamps follow RFC 3339, read leniently: blanks may stand between the parts, a blank may stand
for the letter `T`, leading zeros may be left out, and the offset may lack its colon. They are written
in UTC to the second; a fraction is cut off. An offset is shorter than a day, so the date in UTC is
the given one or a neighbour.

## Main definitions

- `Date`, `Date.next`, `Date.previous`: days of the calendar
- `Timestamp.parse?`, `Timestamp.text`
-/

namespace ShardManifest.Kubernetes

/-- A day of the Gregorian calendar. -/
structure Date where
  year : Int
  /-- The month, from one. -/
  month : Nat
  /-- The day of the month, from one. -/
  day : Nat
deriving DecidableEq, Repr

namespace Date

/-- Whether a year has a 29th of February. -/
def isLeapYear (year : Int) : Bool :=
  year % 4 = 0 && (year % 100 ≠ 0 || year % 400 = 0)

/-- The number of days of a month. -/
def monthLength (year : Int) (month : Nat) : Nat :=
  if month = 2 then if isLeapYear year then 29 else 28
  else if month ∈ [4, 6, 9, 11] then 30
  else 31

/-- Whether a date is on the calendar. -/
def isValid (d : Date) : Bool :=
  1 ≤ d.month && d.month ≤ 12 && 1 ≤ d.day && d.day ≤ monthLength d.year d.month

def next (d : Date) : Date :=
  if d.day < monthLength d.year d.month then { d with day := d.day + 1 }
  else if d.month < 12 then ⟨d.year, d.month + 1, 1⟩
  else ⟨d.year + 1, 1, 1⟩

def previous (d : Date) : Date :=
  if 1 < d.day then { d with day := d.day - 1 }
  else if 1 < d.month then ⟨d.year, d.month - 1, monthLength d.year (d.month - 1)⟩
  else ⟨d.year - 1, 12, 31⟩

end Date

/-- A second of universal time; the second 60 is a leap second. -/
structure Timestamp where
  date : Date
  minute : Nat
  second : Nat
deriving DecidableEq, Repr

namespace Timestamp

/-- A blank: a character with the Unicode property White_Space. -/
def isSpace (c : Char) : Bool :=
  ('\t' ≤ c && c ≤ '\r') || ('\u2000' ≤ c && c ≤ '\u200a')
    || c ∈ [' ', '\u0085', '\u00a0', '\u1680', '\u2028', '\u2029', '\u202f', '\u205f', '\u3000']

def trim (cs : List Char) : List Char := cs.dropWhile isSpace

/-- The number of a row of digits. -/
def ofDigits (digits : List Char) : Nat :=
  digits.foldl (fun n c => 10 * n + (c.toNat - '0'.toNat)) 0

/-- Reads at most `width` digits, at least one, behind blanks. -/
def number? (width : Nat) (cs : List Char) : Option (Nat × List Char) :=
  let cs := trim cs
  let digits := (cs.take width).takeWhile Char.isDigit
  if digits.isEmpty then none else some (ofDigits digits, cs.drop digits.length)

/-- Reads a year: four digits at most without a sign, any number behind one. -/
def year? (cs : List Char) : Option (Int × List Char) :=
  match trim cs with
  | '-' :: rest => signed rest fun n => -(n : Int)
  | '+' :: rest => signed rest fun n => (n : Int)
  | rest => (number? 4 rest).map fun (n, rest) => ((n : Int), rest)
where
  signed (cs : List Char) (sign : Nat → Int) : Option (Int × List Char) :=
    let digits := cs.takeWhile Char.isDigit
    if digits.isEmpty then none else some (sign (ofDigits digits), cs.drop digits.length)

def separator? (c : Char) (cs : List Char) : Option (List Char) :=
  match trim cs with
  | d :: rest => if d = c then some rest else none
  | [] => none

/-- Drops a fraction of a second. -/
def fraction? : List Char → Option (List Char)
  | '.' :: rest =>
    match rest with
    | c :: _ => if c.isDigit then some (rest.dropWhile Char.isDigit) else none
    | [] => none
  | cs => some cs

/-- Reads the offset from universal time in minutes; nothing but blanks may follow. -/
def offset? (cs : List Char) : Option Int :=
  match trim cs with
  | [] => none
  | sign :: rest =>
    if sign = 'Z' ∨ sign = 'z' then if (trim rest).isEmpty then some 0 else none
    else if (sign :: rest).take 3 |>.map Char.toUpper |> (· = ['U', 'T', 'C']) then
      if (trim (rest.drop 2)).isEmpty then some 0 else none
    else if sign = '+' ∨ sign = '-' ∨ sign = '\u2212' then
      match rest with
      | h₁ :: h₂ :: behind =>
        match behind.dropWhile fun c => c = ':' || isSpace c with
        | m₁ :: m₂ :: behind =>
          if [h₁, h₂, m₁, m₂].all Char.isDigit ∧ m₁ < '6' ∧ (trim behind).isEmpty then
            let minutes := 60 * ofDigits [h₁, h₂] + ofDigits [m₁, m₂]
            if 24 * 60 ≤ minutes then none
            else some (if sign = '+' then (minutes : Int) else -(minutes : Int))
          else none
        | _ => none
      | _ => none
    else none

/-- The years a timestamp can lie in. -/
def isYear (year : Int) : Bool := -262143 ≤ year && year ≤ 262142

/-- The second that a text denotes. -/
def parse? (text : String) : Option Timestamp := do
  let (year, cs) ← year? text.toList
  let (month, cs) ← number? 2 (← separator? '-' cs)
  let (day, cs) ← number? 2 (← separator? '-' cs)
  let cs ← match cs with
    | c :: rest => if c ∈ ['T', 't', ' '] then some rest else none
    | [] => none
  let (hour, cs) ← number? 2 cs
  let (minute, cs) ← number? 2 (← separator? ':' cs)
  let (second, cs) ← number? 2 (← separator? ':' cs)
  let offset ← offset? (← fraction? cs)
  let date : Date := ⟨year, month, day⟩
  if !(isYear year && date.isValid && hour < 24 && minute < 60 && second ≤ 60) then none
  else
    let shifted : Int := 60 * hour + minute - offset
    if shifted < 0 then some ⟨date.previous, (shifted + 24 * 60).toNat, second⟩
    else if 24 * 60 ≤ shifted then some ⟨date.next, (shifted - 24 * 60).toNat, second⟩
    else some ⟨date, shifted.toNat, second⟩

/-- A number with leading zeros up to a width. -/
def padded (width n : Nat) : String :=
  let digits := toString n
  String.ofList (List.replicate (width - digits.length) '0') ++ digits

/-- A year with at least four digits; beyond them it has a sign. -/
def yearText (year : Int) : String :=
  if year < 0 then "-" ++ padded 4 year.natAbs
  else if year ≤ 9999 then padded 4 year.toNat
  else "+" ++ padded 4 year.toNat

/-- A timestamp in universal time, to the second. -/
def text (t : Timestamp) : String :=
  yearText t.date.year ++ "-" ++ padded 2 t.date.month ++ "-" ++ padded 2 t.date.day ++ "T"
    ++ padded 2 (t.minute / 60) ++ ":" ++ padded 2 (t.minute % 60) ++ ":" ++ padded 2 t.second
    ++ "Z"

end Timestamp

end ShardManifest.Kubernetes
