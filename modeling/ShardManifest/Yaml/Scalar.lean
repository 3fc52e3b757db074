import ShardManifest.Source.Plain
import ShardManifest.Yaml.Character

/-!
# Texts as YAML scalars

A text is written in the first of these forms that keeps it: as a literal block if it has more than
one line, else plain if it reads back as a text and looks like no other syntax, else between single
quotes, else between double quotes with escapes.

## Main definitions

- `Yaml.ScalarForm`, `Yaml.formOf`: the form of a text
- `Yaml.scalarText`: a text in its form, where lines after the first are not indented yet
-/

namespace ShardManifest.Yaml

inductive ScalarForm where
  | plain
  | singleQuoted
  /-- Between double quotes, with escapes. -/
  | doubleQuoted
  | literal
deriving DecidableEq, Repr

/-- Whether two neighbours of which the first and the second have a property occur. -/
def hasPair (first second : Char → Bool) : List Char → Bool
  | a :: b :: rest => (first a && second b) || hasPair first second (b :: rest)
  | _ => false

/-- Whether a text ends in a space. -/
def endsInSpace (cs : List Char) : Bool := cs.getLast? = some ' '

/-- Whether a text can be a literal block. -/
def fitsLiteral (cs : List Char) : Bool :=
  cs.all isPrintable && !endsInSpace cs && !hasPair (· = ' ') isBreak cs

/-- Whether a text can stand between single quotes. -/
def fitsSingleQuotes (cs : List Char) : Bool :=
  cs.all isPrintable && !hasPair (· = ' ') isBreak cs && !hasPair isBreak (· = ' ') cs

/-- A character that begins another syntax wherever a scalar begins with it. -/
def isIndicator (c : Char) : Bool :=
  c ∈ ['#', ',', '[', ']', '\x7b', '\x7d', '&', '*', '!', '|', '>', '\'', '"', '%', '@', '\x60']

/-- Whether the beginning of a text looks like another syntax. -/
def looksMarked : List Char → Bool
  | '-' :: '-' :: '-' :: _ => true
  | '.' :: '.' :: '.' :: _ => true
  | c :: rest =>
    isIndicator c || ((c = '-' || c = '?' || c = ':') && endsWord rest.head?)
  | [] => false

/-- Whether a colon or a number sign within a text looks like another syntax. -/
def hasMark : List Char → Bool
  | ':' :: rest => endsWord rest.head? || hasMark rest
  | a :: rest =>
    (endsWord (some a) && rest.head? = some '#') || hasMark rest
  | [] => false

/-- Whether a text that is one line can be written as it is. -/
def fitsPlain (cs : List Char) : Bool :=
  cs.all isPrintable && !cs.any isBreak && cs.head? ≠ some ' ' && !endsInSpace cs
    && !looksMarked cs && !hasMark cs

/-- Whether a plain scalar reads back as the text itself. -/
def readsAsText (s : String) : Bool :=
  match Plain.literal s with
  | .text _ => !Plain.isPaddedText s
  | _ => false

def formOf (s : String) : ScalarForm :=
  let cs := s.toList
  if '\n' ∈ cs then
    if fitsLiteral cs then .literal else .doubleQuoted
  else if readsAsText s && fitsPlain cs then .plain
  else if fitsSingleQuotes cs then .singleQuoted
  else .doubleQuoted

/-- The upper-case hexadecimal digits of a number, as many as asked for. -/
def hexDigits : (width : Nat) → Nat → List Char
  | 0, _ => []
  | width + 1, n => hexDigits width (n / 16) ++ [(Nat.digitChar (n % 16)).toUpper]

def escapeChar (c : Char) : List Char :=
  if c = '"' || c = '\\' then ['\\', c]
  else if c = '\x00' then ['\\', '0']
  else if c = '\x07' then ['\\', 'a']
  else if c = '\x08' then ['\\', 'b']
  else if c = '\t' then ['\\', 't']
  else if c = '\n' then ['\\', 'n']
  else if c = '\x0b' then ['\\', 'v']
  else if c = '\x0c' then ['\\', 'f']
  else if c = '\r' then ['\\', 'r']
  else if c = '\x1b' then ['\\', 'e']
  else if c = nextLine then ['\\', 'N']
  else if c = lineSeparator then ['\\', 'L']
  else if c = paragraphSeparator then ['\\', 'P']
  else if isPrintable c then [c]
  else if c.toNat < 0x100 then '\\' :: 'x' :: hexDigits 2 c.toNat
  else if c.toNat < 0x10000 then '\\' :: 'u' :: hexDigits 4 c.toNat
  else '\\' :: 'U' :: hexDigits 8 c.toNat

/-- What the header of a literal block says about the blanks in front of its first line. -/
def indentHint (cs : List Char) : List Char :=
  match cs with
  | c :: _ => if c = ' ' || isBreak c then ['2'] else []
  | [] => []

/-- What the header of a literal block says about its last line breaks: none, one, or all. -/
def chompHint (cs : List Char) : List Char :=
  match cs.reverse with
  | [] => ['-']
  | last :: before =>
    if !isBreak last then ['-']
    else
      match before with
      | [] => ['+']
      | c :: _ => if isBreak c then ['+'] else []

def scalarText (s : String) : List Char :=
  let cs := s.toList
  match formOf s with
  | .plain => cs
  | .singleQuoted => '\'' :: (cs.flatMap fun c => if c = '\'' then [c, c] else [c]) ++ ['\'']
  | .doubleQuoted => '"' :: cs.flatMap escapeChar ++ ['"']
  | .literal => '|' :: (indentHint cs ++ chompHint cs ++ '\n' :: cs)

end ShardManifest.Yaml
