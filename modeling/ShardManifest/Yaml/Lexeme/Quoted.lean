import ShardManifest.Source.Plain
import ShardManifest.Yaml.Glyph

/-!
# Scalars between quotes and without

Each function reads a scalar from behind its first mark; the result is its text and what follows.
Single quotes know one escape, the quote itself; double quotes know many. Lines are folded in all
three forms.

## Main definitions

- `Yaml.singleQuoted`, `Yaml.doubleQuoted`, `Yaml.plainScalar`
-/

namespace ShardManifest.Yaml

/-- Reads up to the closing single quote. -/
def singleQuoted (gap : Gap) (newestFirst : List Char) : List Glyph → Option (String × List Glyph)
  | [] => none
  | g :: rest =>
    if isBlank g.char then singleQuoted (gap.addBlank g.char) newestFirst rest
    else if isBreak g.char then singleQuoted (gap.addBreak g.char) newestFirst rest
    else if startsMarker (g :: rest) then none
    else
      let text := gap.folded ++ newestFirst
      if g.char = '\'' then
        match rest with
        | next :: behind =>
          if next.char = '\'' then singleQuoted .nothing ('\'' :: text) behind
          else some (String.ofList text.reverse, rest)
        | [] => some (String.ofList text.reverse, [])
      else singleQuoted .nothing (g.char :: text) rest

/-- The character that an escape of one character stands for. -/
def escaped? : Char → Option Char
  | '0' => some '\x00'
  | 'a' => some '\x07'
  | 'b' => some '\x08'
  | 't' => some '\t'
  | '\t' => some '\t'
  | 'n' => some '\n'
  | 'v' => some '\x0b'
  | 'f' => some '\x0c'
  | 'r' => some '\r'
  | 'e' => some '\x1b'
  | ' ' => some ' '
  | '"' => some '"'
  | '/' => some '/'
  | '\\' => some '\\'
  | 'N' => some nextLine
  | '_' => some '\u00a0'
  | 'L' => some lineSeparator
  | 'P' => some paragraphSeparator
  | _ => none

/-- How many hexadecimal digits follow an escape. -/
def escapeWidth? : Char → Option Nat
  | 'x' => some 2
  | 'u' => some 4
  | 'U' => some 8
  | _ => none

/-- The character with a given number. -/
def charOfNat? (n : Nat) : Option Char :=
  if n < 0xd800 ∨ (0xdfff < n ∧ n < 0x110000) then some (Char.ofNat n) else none

/-- Reads up to the closing double quote. `code` holds how many digits of a character's number are
still to come, and the number so far. -/
def doubleQuoted (gap : Gap) (code : Option (Nat × Nat)) (newestFirst : List Char) :
    List Glyph → Option (String × List Glyph)
  | [] => none
  | g :: rest =>
    match code with
    | some (missing, number) =>
      match Plain.digit? 16 g.char with
      | none => none
      | some d =>
        if missing ≤ 1 then
          match charOfNat? (16 * number + d) with
          | some c => doubleQuoted .nothing none (c :: newestFirst) rest
          | none => none
        else doubleQuoted gap (some (missing - 1, 16 * number + d)) newestFirst rest
    | none =>
      if isBlank g.char then doubleQuoted (gap.addBlank g.char) none newestFirst rest
      else if isBreak g.char then doubleQuoted (gap.addBreak g.char) none newestFirst rest
      else if startsMarker (g :: rest) then none
      else
        let text := gap.folded ++ newestFirst
        if g.char = '"' then some (String.ofList text.reverse, rest)
        else if g.char = '\\' then
          match rest with
          | [] => none
          | mark :: behind =>
            if isBreak mark.char then doubleQuoted (.breaks none []) none text behind
            else
              match escaped? mark.char, escapeWidth? mark.char with
              | some c, _ => doubleQuoted .nothing none (c :: text) behind
              | none, some width => doubleQuoted .nothing (some (width, 0)) text behind
              | none, none => none
        else doubleQuoted .nothing none (g.char :: text) rest

/-- A mark that ends a plain scalar within brackets. -/
def isFlowMark (c : Char) : Bool := c ∈ [',', '[', ']', '\x7b', '\x7d']

/-- Whether a plain scalar ends at a place behind a gap. -/
def endsPlain (inFlow : Bool) (margin : Nat) (gap : Gap) (g : Glyph) (rest : List Glyph) : Bool :=
  (gap ≠ .nothing && ((!inFlow && g.column < margin) || g.char = '#'))
    || startsMarker (g :: rest)
    || (g.char = ':' && isBounded rest)
    || (inFlow && isFlowMark g.char)

/-- Whether a colon stands at a place within brackets where it can be neither text nor mark. -/
def isStrayColon (inFlow : Bool) (g : Glyph) (rest : List Glyph) : Bool :=
  inFlow && g.char = ':' && (rest.head?.map Glyph.char).any fun c => isFlowMark c || c = '?'

/-- Reads a plain scalar whose lines after the first begin at a margin; the result says also whether
it is followed by the end of its line. -/
def plainScalar (inFlow : Bool) (margin : Nat) (gap : Gap) (newestFirst : List Char) :
    List Glyph → Option (String × Bool × List Glyph)
  | [] => some (String.ofList newestFirst.reverse, gap.isBroken, [])
  | g :: rest =>
    if isBlank g.char then
      if gap.isBroken && g.column < margin && g.char = '\t' then none
      else plainScalar inFlow margin (gap.addBlank g.char) newestFirst rest
    else if isBreak g.char then
      plainScalar inFlow margin (gap.addBreak g.char) newestFirst rest
    else if endsPlain inFlow margin gap g rest then
      some (String.ofList newestFirst.reverse, gap.isBroken, g :: rest)
    else if isStrayColon inFlow g rest then none
    else plainScalar inFlow margin .nothing (g.char :: (gap.folded ++ newestFirst)) rest

end ShardManifest.Yaml
