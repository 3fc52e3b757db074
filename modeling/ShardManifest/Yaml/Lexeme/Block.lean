import ShardManifest.Source.Plain
import ShardManifest.Yaml.Glyph

/-!
# Block scalars

A block scalar has a header, which says how it is indented and what becomes of its last ends of
lines, and lines that are kept or folded.

## Main definitions

- `Yaml.BlockHeader`, `Yaml.blockHeader?`
- `Yaml.blockScalar`: a block scalar from behind its first mark
-/

namespace ShardManifest.Yaml

/-- What becomes of the ends of lines behind the last line of a block. -/
inductive Chomp where
  | strip
  | clip
  | keep
deriving DecidableEq, Repr

/-- The header of a block scalar. -/
structure BlockHeader where
  /-- What becomes of the last ends of lines. -/
  chomp : Chomp
  /-- How far the block is indented beyond its parent, if the header says so. -/
  indent : Option Nat
deriving DecidableEq, Repr

/-- A mark for the last ends of lines. -/
def chompMark? (c : Char) : Option Chomp :=
  if c = '+' then some .keep else if c = '-' then some .strip else none

/-- A mark for the indentation, which is never zero. -/
def indentMark? (c : Char) : Option Nat :=
  if '1' ≤ c ∧ c ≤ '9' then Plain.digit? 10 c else none

/-- The marks of a header, each at most once and in any order. -/
def headerMarks : List Glyph → BlockHeader × List Glyph
  | [] => (⟨.clip, none⟩, [])
  | g :: rest =>
    match chompMark? g.char, indentMark? g.char with
    | some chomp, _ =>
      match rest.head?.bind fun g => indentMark? g.char with
      | some indent => (⟨chomp, some indent⟩, rest.drop 1)
      | none => (⟨chomp, none⟩, rest)
    | none, some indent =>
      match rest.head?.bind fun g => chompMark? g.char with
      | some chomp => (⟨chomp, some indent⟩, rest.drop 1)
      | none => (⟨.clip, some indent⟩, rest)
    | none, none => (⟨.clip, none⟩, g :: rest)

/-- The rest of a line that may hold only blanks and a comment, without its end. -/
def skipComment (gs : List Glyph) : Option (List Glyph) :=
  let behind := gs.dropWhile fun g => isBlank g.char
  match behind with
  | [] => some []
  | g :: _ =>
    if g.char = '#' then some (behind.dropWhile fun g => !isBreak g.char)
    else if isBreak g.char then some behind
    else none

/-- The header of a block scalar and the lines behind it. -/
def blockHeader? (gs : List Glyph) : Option (BlockHeader × List Glyph) := do
  let (header, rest) := headerMarks gs
  return (header, (← skipComment rest).drop 1)

/-- The column of the widest of the lines before the first line of a block, or of that line; a tab
cannot indent it. -/
def widest? (column : Nat) : List Glyph → Option Nat
  | [] => some column
  | g :: rest =>
    if g.char = ' ' then widest? (max column (g.column + 1)) rest
    else if g.char = '\t' then none
    else if isBreak g.char then widest? column rest
    else some column

structure Block where
  /-- The text so far, newest character first. -/
  newestFirst : List Char
  inLine : Bool
  /-- Whether the last line begins with a blank. -/
  blankLine : Bool
  lineEnd : Option Char
  /-- The ends of the empty lines behind it, newest first. -/
  emptyLines : List Char
deriving DecidableEq, Repr

namespace Block

/-- A block before its first line. -/
def start : Block := ⟨[], false, false, none, []⟩

/-- Begins a line. In a folded block the end of the line before becomes a blank, or nothing before
empty lines, unless one of the two lines begins with a blank. -/
def beginLine (folded : Bool) (c : Char) (b : Block) : Block :=
  let joined :=
    if folded && b.lineEnd = some '\n' && !b.blankLine && !isBlank c then
      if b.emptyLines.isEmpty then [' '] else b.emptyLines
    else b.emptyLines ++ b.lineEnd.toList
  ⟨c :: (joined ++ b.newestFirst), true, isBlank c, none, []⟩

/-- The text of a block that has been read. -/
def text (chomp : Chomp) (b : Block) : String :=
  String.ofList <| List.reverse <|
    match chomp with
    | .strip => b.newestFirst
    | .clip => b.lineEnd.toList ++ b.newestFirst
    | .keep => b.emptyLines ++ b.lineEnd.toList ++ b.newestFirst

/-- Reads the lines of a block that is indented to a column. -/
def lines (folded : Bool) (indent : Nat) (b : Block) : List Glyph → Option (Block × List Glyph)
  | [] => some (b, [])
  | g :: rest =>
    if b.inLine then
      if isBreak g.char then
        lines folded indent { b with inLine := false, lineEnd := some g.char } rest
      else lines folded indent { b with newestFirst := g.char :: b.newestFirst } rest
    else if g.column < indent then
      if g.char = ' ' then lines folded indent b rest
      else if g.char = '\t' then none
      else if isBreak g.char then
        lines folded indent { b with emptyLines := g.char :: b.emptyLines } rest
      else some (b, g :: rest)
    else if isBreak g.char then
      lines folded indent { b with emptyLines := g.char :: b.emptyLines } rest
    else lines folded indent (b.beginLine folded g.char) rest

end Block

/-- Reads a block scalar whose parent leaves a margin. -/
def blockScalar (folded : Bool) (margin : Nat) (gs : List Glyph) :
    Option (String × List Glyph) := do
  let (header, rest) ← blockHeader? gs
  let indent ←
    match header.indent with
    | some indent => some (margin - 1 + indent)
    | none => (widest? 0 rest).map fun column => max column (max margin 1)
  let (block, behind) ← Block.start.lines folded indent rest
  return (block.text header.chomp, behind)

end ShardManifest.Yaml
