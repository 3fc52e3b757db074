/-!
# Classes of characters in YAML

What separates lines, what stands for itself, and what has to be escaped.
-/

namespace ShardManifest.Yaml

def nextLine : Char := '\u0085'

def lineSeparator : Char := '\u2028'

def paragraphSeparator : Char := '\u2029'

/-- A character that ends a line. -/
def isBreak (c : Char) : Bool :=
  c = '\n' || c = '\r' || c = nextLine || c = lineSeparator || c = paragraphSeparator

def isBlank (c : Char) : Bool := c = ' ' || c = '\t'

/-- A blank, the end of a line, or the end of the text. -/
def endsWord : Option Char → Bool
  | none => true
  | some c => isBlank c || isBreak c

/-- A character that is written as it is. -/
def isPrintable (c : Char) : Bool :=
  c = '\n' || ('\u0020' ≤ c && c ≤ '\u007e')
    || ('\u00a0' ≤ c && c ≠ '\ufeff' && c ≠ '\ufffe' && c ≠ '\uffff')

end ShardManifest.Yaml
