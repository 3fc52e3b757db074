import ShardManifest.Yaml.Character

/-!
# Characters at their places

Layout matters in YAML, so a text is read as a row of characters of which each knows its line and
column. All ways to end a line but the two separators of Unicode count as one character.

## Main definitions

- `Yaml.Glyph`, `Yaml.glyphs?`: the characters of a text
- `Yaml.isBounded`, `Yaml.startsMarker`: what follows a place
-/

namespace ShardManifest.Yaml

structure Glyph where
  char : Char
  line : Nat
  /-- How many characters of its line come before. -/
  column : Nat
deriving DecidableEq, Repr

/-- A character that a YAML text may hold. -/
def isAllowed (c : Char) : Bool :=
  c = '\t' || c = '\n' || c = '\r' || c = nextLine || ('\x20' ≤ c && c ≤ '\x7e')
    || ('\u00a0' ≤ c && c ≤ '\ufffd') || 0x10000 ≤ c.toNat

/-- Writes every end of a line as one character. -/
def unifyBreaks : List Char → List Char
  | '\r' :: '\n' :: rest => '\n' :: unifyBreaks rest
  | c :: rest => (if c = '\r' || c = nextLine then '\n' else c) :: unifyBreaks rest
  | [] => []

/-- Gives the characters that begin at a place their places. -/
def locate (line column : Nat) : List Char → List Glyph
  | [] => []
  | c :: rest =>
    ⟨c, line, column⟩ :: if isBreak c then locate (line + 1) 0 rest else locate line (column + 1) rest

/-- The characters of a text, if it may hold all of them. -/
def glyphs? (text : String) : Option (List Glyph) :=
  let cs := text.toList
  if cs.all isAllowed then some (locate 0 0 (unifyBreaks cs)) else none

/-- Whether a word ends here: before a blank, at the end of a line, or at the end of the text. -/
def isBounded (rest : List Glyph) : Bool :=
  endsWord (rest.head?.map Glyph.char)

/-- Whether a line begins here with a word of three times a character. -/
def startsTriple (c : Char) : List Glyph → Bool
  | g₁ :: g₂ :: g₃ :: rest =>
    g₁.column = 0 && g₁.char = c && g₂.char = c && g₃.char = c && isBounded rest
  | _ => false

/-- Whether a line begins here that begins or ends a document. -/
def startsMarker (gs : List Glyph) : Bool :=
  startsTriple '-' gs || startsTriple '.' gs

/-- What lies between two parts of a scalar, newest character first. -/
inductive Gap where
  | nothing
  | blanks (newestFirst : List Char)
  /-- Ends of lines: the first one, unless it is escaped, and those behind it. -/
  | breaks (first : Option Char) (newestFirst : List Char)
deriving DecidableEq, Repr

namespace Gap

/-- A gap with one more blank; blanks behind the end of a line do not count. -/
def addBlank (c : Char) : Gap → Gap
  | nothing => blanks [c]
  | blanks cs => blanks (c :: cs)
  | breaks first cs => breaks first cs

/-- A gap with one more end of a line; blanks before it do not count. -/
def addBreak (c : Char) : Gap → Gap
  | breaks first cs => breaks first (c :: cs)
  | _ => breaks (some c) []

/-- What a gap leaves in the text, newest character first: a single end of a line becomes a blank. -/
def folded : Gap → List Char
  | nothing => []
  | blanks cs => cs
  | breaks first cs =>
    if first = some '\n' then if cs.isEmpty then [' '] else cs
    else cs ++ first.toList

/-- Whether a gap goes beyond its line. -/
def isBroken : Gap → Bool
  | breaks _ _ => true
  | _ => false

end Gap

end ShardManifest.Yaml
