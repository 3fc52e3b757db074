import ShardManifest.Yaml.Lexeme.Block
import ShardManifest.Yaml.Lexeme.Quoted
import ShardManifest.Yaml.Token

/-!
# Anchors, tags and directives

What is said about a node before the node, and about a document before the document. Each function
reads from behind the first mark.

## Main definitions

- `Yaml.anchorName?`, `Yaml.tag?`, `Yaml.directive?`
-/

namespace ShardManifest.Yaml

def isWordChar (c : Char) : Bool := c.isAlphanum || c = '_' || c = '-'

/-- A name, which may be empty, and what follows it. -/
def word (gs : List Glyph) : String × List Glyph :=
  (String.ofList ((gs.takeWhile fun g => isWordChar g.char).map Glyph.char),
    gs.dropWhile fun g => isWordChar g.char)

/-- The blanks of a line left out. -/
def skipBlanks (gs : List Glyph) : List Glyph :=
  gs.dropWhile fun g => isBlank g.char

def anchorName? (gs : List Glyph) : Option (String × List Glyph) :=
  let (name, rest) := word gs
  let ends := (rest.head?.map Glyph.char).any fun c =>
    c ∈ ['?', ':', ',', ']', '\x7d', '%', '@', '\x60']
  if !name.isEmpty && (isBounded rest || ends) then some (name, rest) else none

/-- A character of a tag that stands for itself; brackets and commas only if the tag is enclosed. -/
def isTagChar (enclosed : Bool) (c : Char) : Bool :=
  isWordChar c
    || c ∈ [';', '/', '?', ':', '@', '&', '=', '+', '$', '.', '!', '~', '*', '\'', '(', ')']
    || (enclosed && c ∈ [',', '[', ']'])

/-- Adds a byte to a character that is spelled in bytes. `missing` counts the bytes still to come. -/
def addByte? (missing number byte : Nat) : Option (Nat × Nat) :=
  if missing = 0 then
    if byte < 0x80 then some (0, byte)
    else if 0xc0 ≤ byte ∧ byte < 0xe0 then some (1, byte - 0xc0)
    else if 0xe0 ≤ byte ∧ byte < 0xf0 then some (2, byte - 0xe0)
    else if 0xf0 ≤ byte ∧ byte < 0xf8 then some (3, byte - 0xf0)
    else none
  else if 0x80 ≤ byte ∧ byte < 0xc0 then some (missing - 1, 64 * number + (byte - 0x80))
  else none

/-- Reads the characters of a tag, of which some may be spelled as bytes behind percent signs. -/
def tagChars (enclosed : Bool) (missing number : Nat) (newestFirst : List Char) :
    List Glyph → Option (String × List Glyph)
  | [] => if missing = 0 then some (String.ofList newestFirst.reverse, []) else none
  | g :: rest =>
    if g.char = '%' then
      match rest with
      | h :: l :: behind =>
        match Plain.digit? 16 h.char, Plain.digit? 16 l.char with
        | some high, some low =>
          match addByte? missing number (16 * high + low) with
          | some (0, n) =>
            tagChars enclosed 0 0 ((charOfNat? n).getD '\ufffd' :: newestFirst) behind
          | some (missing, n) => tagChars enclosed missing n newestFirst behind
          | none => none
        | _, _ => none
      | _ => none
    else if missing ≠ 0 then none
    else if isTagChar enclosed g.char then
      tagChars enclosed 0 0 (g.char :: newestFirst) rest
    else some (String.ofList newestFirst.reverse, g :: rest)

/-- The same, where a tag must not be empty. -/
def someTagChars (enclosed : Bool) (gs : List Glyph) : Option (String × List Glyph) := do
  let (text, rest) ← tagChars enclosed 0 0 [] gs
  if text.isEmpty then none else some (text, rest)

/-- What follows a character that has to be there. -/
def expect (c : Char) : List Glyph → Option (List Glyph)
  | g :: rest => if g.char = c then some rest else none
  | [] => none

/-- The handle and the rest of a tag; an enclosed tag has no handle. -/
def tagParts? (gs : List Glyph) : Option (String × String × List Glyph) :=
  match expect '<' gs with
  | some inner => do
    let (text, rest) ← someTagChars true inner
    return ("", text, ← expect '>' rest)
  | none =>
    let (name, rest) := word gs
    match expect '!' rest with
    | some behind => do
      let (suffix, rest) ← someTagChars false behind
      return ("!" ++ name ++ "!", suffix, rest)
    | none => do
      let (more, rest) ← tagChars false 0 0 [] rest
      let suffix := name ++ more
      return if suffix.isEmpty then ("", "!", rest) else ("!", suffix, rest)

def tag? (inFlow : Bool) (gs : List Glyph) : Option (Token × List Glyph) := do
  let (handle, suffix, rest) ← tagParts? gs
  if isBounded rest || (inFlow && (expect ',' rest).isSome) then
    some (.tag handle suffix, rest)
  else none

def versionPart? (gs : List Glyph) : Option (Nat × List Glyph) := do
  let digits := (gs.takeWhile fun g => g.char.isDigit).map Glyph.char
  if digits.length ≤ 9 then
    return (← Plain.natural? 10 digits, gs.drop digits.length)
  else none

/-- The value of a directive that names a version. -/
def versionValue? (gs : List Glyph) : Option (Token × List Glyph) := do
  let (major, rest) ← versionPart? (skipBlanks gs)
  let (minor, rest) ← versionPart? (← expect '.' rest)
  return (.version major minor, rest)

/-- The value of a directive that lets a handle stand for the beginning of tags. -/
def shorthandValue? (gs : List Glyph) : Option (Token × List Glyph) := do
  let (name, rest) := word (← expect '!' (skipBlanks gs))
  let (handle, rest) ←
    match expect '!' rest with
    | some rest => some ("!" ++ name ++ "!", rest)
    | none => if name.isEmpty then some ("!", rest) else none
  if rest.head?.any fun g => isBlank g.char then
    let (expansion, rest) ← someTagChars true (skipBlanks rest)
    if isBounded rest then some (.shorthand handle expansion, rest) else none
  else none

def directive? (gs : List Glyph) : Option (Token × List Glyph) := do
  let (name, rest) := word gs
  if isBounded rest then
    let (token, rest) ←
      if name = "YAML" then versionValue? rest
      else if name = "TAG" then shorthandValue? rest
      else none
    return (token, (← skipComment rest).drop 1)
  else none

end ShardManifest.Yaml
