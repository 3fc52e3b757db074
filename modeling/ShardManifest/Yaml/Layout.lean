import ShardManifest.Yaml.Lexeme.Property

/-!
# The layout of YAML texts

Two things of a YAML text are not written down: where the blocks that are laid out by indentation
begin and end, and that a scalar is a key, which shows only at the colon behind it. A `Layout` keeps
the columns of the open blocks, and for every open bracket the place where a key may have begun. When
the colon comes, the tokens that mark the key are put in at that place.

A key without mark has to fit on one line and into 1024 characters. In a block it is required where
its column is that of the block.

## Main definitions

- `Yaml.Layout`: the tokens so far and what they leave open
- `Yaml.tokens?`: the tokens of a text
-/

namespace ShardManifest.Yaml

/-- A place where a key may have begun. -/
structure KeyPlace where
  before : Nat
  line : Nat
  column : Nat
  /-- Whether there has to be a key. -/
  required : Bool
deriving DecidableEq, Repr

/-- The tokens so far and what they leave open. -/
structure Layout where
  /-- The tokens, newest first. -/
  newestFirst : List Token
  count : Nat
  /-- The columns of the open blocks, innermost first. -/
  columns : List Nat
  /-- Where a key may have begun within the innermost open bracket. -/
  key : Option KeyPlace
  /-- The same for each bracket or text around it, innermost first. -/
  outerKeys : List (Option KeyPlace)
  /-- Whether a key or an item may begin. -/
  keyAllowed : Bool
deriving Repr

namespace Layout

def start : Layout := ⟨[], 0, [], none, [], true⟩

def inFlow (s : Layout) : Bool := !s.outerKeys.isEmpty

/-- The least column of what belongs to the innermost block. -/
def margin (s : Layout) : Nat := s.columns.head?.elim 0 (· + 1)

def emit (t : Token) (s : Layout) : Layout :=
  { s with newestFirst := t :: s.newestFirst, count := s.count + 1 }

/-- Gives up a key that is not required. -/
def dropKey? (s : Layout) : Option Layout :=
  if s.key.any KeyPlace.required then none else some { s with key := none }

/-- Notes that a key may begin at a place, if one may. -/
def noteKey? (g : Glyph) (s : Layout) : Option Layout :=
  if s.keyAllowed then do
    let s ← s.dropKey?
    let required := !s.inFlow && s.columns.head? = some g.column
    return { s with key := some ⟨s.count, g.line, g.column, required⟩ }
  else some s

/-- What becomes of a key that has not been closed when a place is reached. -/
def expireKey? (g : Glyph) : Option KeyPlace → Option (Option KeyPlace)
  | none => some none
  | some k =>
    if k.line < g.line || k.column + 1024 < g.column then
      if k.required then none else some none
    else some (some k)

/-- Gives up the keys that are too far away from a place. -/
def expireKeys? (g : Glyph) (s : Layout) : Option Layout := do
  return { s with key := ← expireKey? g s.key, outerKeys := ← s.outerKeys.mapM (expireKey? g) }

/-- Opens a block at a column that is to the right of the innermost one. -/
def openBlock (column : Nat) (t : Token) (s : Layout) : Layout :=
  if !s.inFlow && s.columns.head?.all (· < column) then
    { s.emit t with columns := column :: s.columns }
  else s

def closeBlocks (count : Nat) (s : Layout) : Layout :=
  if s.inFlow then s
  else
    { s with
      newestFirst := List.replicate count .blockEnd ++ s.newestFirst
      count := s.count + count
      columns := s.columns.drop count }

/-- Closes the blocks that are to the right of a place. -/
def closeBlocksAt (g : Glyph) (s : Layout) : Layout :=
  s.closeBlocks (s.columns.takeWhile (g.column < ·)).length

def closeAll (s : Layout) : Layout := s.closeBlocks s.columns.length

/-- Adds tokens at an earlier place. -/
def insert (before : Nat) (ts : List Token) (s : Layout) : Layout :=
  let later := s.count - before
  { s with
    newestFirst := s.newestFirst.take later ++ ts.reverse ++ s.newestFirst.drop later
    count := s.count + ts.length }

/-- Marks what began at a place as a key; the first one of a block also begins the block. -/
def insertKey (k : KeyPlace) (s : Layout) : Layout :=
  if !s.inFlow && s.columns.head?.all (· < k.column) then
    { s.insert k.before [.blockMapping, .key] with columns := k.column :: s.columns }
  else s.insert k.before [.key]

def marker? (t : Token) (s : Layout) : Option Layout := do
  let s ← s.closeAll.dropKey?
  return { s.emit t with keyAllowed := false }

def openFlow? (g : Glyph) (t : Token) (s : Layout) : Option Layout := do
  let s ← s.noteKey? g
  return { s.emit t with key := none, outerKeys := s.key :: s.outerKeys, keyAllowed := true }

def closeFlow? (t : Token) (s : Layout) : Option Layout := do
  let s ← s.dropKey?
  let s :=
    match s.outerKeys with
    | key :: outerKeys => { s with key, outerKeys }
    | [] => s
  return { s.emit t with keyAllowed := false }

def comma? (s : Layout) : Option Layout := do
  let s ← s.dropKey?
  return { s.emit .comma with keyAllowed := true }

def item? (g : Glyph) (s : Layout) : Option Layout :=
  if s.inFlow || s.keyAllowed then do
    let s ← (s.openBlock g.column .blockList).dropKey?
    return { s.emit .item with keyAllowed := true }
  else none

/-- The question mark before a key. -/
def key? (g : Glyph) (s : Layout) : Option Layout :=
  if s.inFlow || s.keyAllowed then do
    let s ← (s.openBlock g.column .blockMapping).dropKey?
    return { s.emit .key with keyAllowed := !s.inFlow }
  else none

def value? (g : Glyph) (s : Layout) : Option Layout :=
  match s.key with
  | some k => some { (s.insertKey k).emit .value with key := none, keyAllowed := false }
  | none =>
    if s.inFlow || s.keyAllowed then
      let s := s.openBlock g.column .blockMapping
      some { s.emit .value with keyAllowed := !s.inFlow }
    else none

/-- A property of a node, or a scalar on one line. -/
def word? (g : Glyph) (t : Token) (s : Layout) : Option Layout := do
  let s ← s.noteKey? g
  return { s.emit t with keyAllowed := false }

def block? (t : Token) (s : Layout) : Option Layout := do
  let s ← s.dropKey?
  return { s.emit t with keyAllowed := true }

def ending? (s : Layout) : Option Layout := do
  let s ← s.closeAll.dropKey?
  return s.emit .ending

/-- Skips blanks, comments and ends of lines. In a block a tab does not indent, and a new line may
begin with a key. -/
def skip (inFlow : Bool) (inComment keyAllowed : Bool) : List Glyph → Bool × List Glyph
  | [] => (keyAllowed, [])
  | g :: rest =>
    if isBreak g.char then skip inFlow false (keyAllowed || !inFlow) rest
    else if inComment then skip inFlow true keyAllowed rest
    else if g.char = '#' then skip inFlow true keyAllowed rest
    else if g.char = ' ' || (g.char = '\t' && (inFlow || !keyAllowed))
        || (g.char = '\ufeff' && g.column = 0) then
      skip inFlow false keyAllowed rest
    else (keyAllowed, g :: rest)

/-- Whether a plain scalar begins with a character. -/
def beginsPlain (inFlow : Bool) (c : Char) (rest : List Glyph) : Bool :=
  let bounded := isBounded rest
  if c = '-' then !(rest.head?.map Glyph.char).any isBlank
  else if c = '?' || c = ':' then !inFlow && !bounded
  else
    c ∉ [',', '[', ']', '\x7b', '\x7d', '#', '&', '*', '!', '|', '>', '\'', '"', '%', '@', '\x60']
      && !endsWord (some c)

def plain? (g : Glyph) (rest : List Glyph) (s : Layout) : Option (Layout × List Glyph) := do
  if beginsPlain s.inFlow g.char rest then
    let (text, broken, behind) ← plainScalar s.inFlow s.margin .nothing [] (g :: rest)
    let s ← s.word? g (.scalar text .plain)
    return ({ s with keyAllowed := broken }, behind)
  else none

/-- Takes what begins at a place, whose character is not one that is skipped. -/
def take? (g : Glyph) (rest : List Glyph) (s : Layout) : Option (Layout × List Glyph) := do
  let bounded := isBounded rest
  let loose := s.inFlow || bounded
  if g.column = 0 && g.char = '%' then
    let (t, behind) ← directive? rest
    return (← s.marker? t, behind)
  else if startsTriple '-' (g :: rest) then
    return (← s.marker? .documentStart, rest.drop 2)
  else if startsTriple '.' (g :: rest) then
    return (← s.marker? .documentEnd, rest.drop 2)
  else
    match g.char with
    | '[' => return (← s.openFlow? g .flowList, rest)
    | '\x7b' => return (← s.openFlow? g .flowMapping, rest)
    | ']' => return (← s.closeFlow? .flowListEnd, rest)
    | '\x7d' => return (← s.closeFlow? .flowMappingEnd, rest)
    | ',' => return (← s.comma?, rest)
    | '-' => if bounded then return (← s.item? g, rest) else s.plain? g rest
    | '?' => if loose then return (← s.key? g, rest) else s.plain? g rest
    | ':' => if loose then return (← s.value? g, rest) else s.plain? g rest
    | '*' =>
      let (name, behind) ← anchorName? rest
      return (← s.word? g (.repeats name), behind)
    | '&' =>
      let (name, behind) ← anchorName? rest
      return (← s.word? g (.anchor name), behind)
    | '!' =>
      let (t, behind) ← tag? s.inFlow rest
      return (← s.word? g t, behind)
    | '|' =>
      if s.inFlow then none
      else
        let (text, behind) ← blockScalar false s.margin rest
        return (← s.block? (.scalar text .literal), behind)
    | '>' =>
      if s.inFlow then none
      else
        let (text, behind) ← blockScalar true s.margin rest
        return (← s.block? (.scalar text .folded), behind)
    | '\'' =>
      let (text, behind) ← singleQuoted .nothing [] rest
      return (← s.word? g (.scalar text .quoted), behind)
    | '"' =>
      let (text, behind) ← doubleQuoted .nothing none [] rest
      return (← s.word? g (.scalar text .quoted), behind)
    | _ => s.plain? g rest

/-- Takes tokens until the text ends. Each takes at least one character, so that as many steps as
there are characters are enough. -/
def run? : (steps : Nat) → Layout → List Glyph → Option Layout
  | 0, s, _ => s.ending?
  | steps + 1, s, gs =>
    let (keyAllowed, rest) := skip s.inFlow false s.keyAllowed gs
    match rest with
    | [] => { s with keyAllowed }.ending?
    | g :: behind => do
      let s ← { s with keyAllowed }.expireKeys? g
      let (s, rest) ← (s.closeBlocksAt g).take? g behind
      run? steps s rest

end Layout

def tokens? (text : String) : Option (List Token) := do
  let gs ← glyphs? text
  return (← Layout.start.run? (gs.length + 1) gs).newestFirst.reverse

end ShardManifest.Yaml
