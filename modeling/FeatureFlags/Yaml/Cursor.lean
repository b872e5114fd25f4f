import FeatureFlags.Error

/-!
# `FeatureFlags.Yaml.Cursor` — a place in a YAML text

A `Cursor` is what remains of a text, together with the line and the column reached.  `Scan` is a
reading that moves a cursor or fails.

## Contents

1. Failures
2. Classes of characters
3. Cursors
4. Readings
-/

namespace FeatureFlags

namespace Yaml

/-! ## Failures -/

/-- Why a text has no value: it is not well formed, or one of its scalars stands for no value. -/
inductive Error where
  | malformed
  /-- Collections are nested too deeply. -/
  | tooDeep
  | value (e : ForeignError)
  deriving DecidableEq

/-! ## Classes of characters -/

/-- The characters that may stand in a text. -/
def isAllowed (c : Char) : Bool :=
  let n := c.toNat
  n == 9 || n == 0xA || n == 0xD || (0x20 ≤ n && n ≤ 0x7E) || n == 0x85 || (0xA0 ≤ n && n ≤ 0xFFFD) ||
    0x10000 ≤ n

/-- The mark that may open a text. -/
def byteOrderMark : Char := '\uFEFF'

/-- The characters that end a line. -/
def isBreak (c : Char) : Bool :=
  c == '\n' || c == '\u0085' || c == '\u2028' || c == '\u2029'

/-- A break, a blank or a tab. -/
def isGap (c : Char) : Bool := c == ' ' || c == '\t' || isBreak c

/-- Whether a line ends here. -/
def endsLine (c : Option Char) : Bool := c.all isBreak

/-- Whether a gap begins here. -/
def endsWord (c : Option Char) : Bool := c.all isGap

/-- Whether a line ends or a blank stands here. -/
def endsField (c : Option Char) : Bool := c.all fun c => c == ' ' || isBreak c

/-- The characters of names: ASCII letters and digits, `-` and `_`. -/
def isNameChar (c : Char) : Bool := c.isAlphanum || c == '-' || c == '_'

/-- Hexadecimal digits. -/
def isHexDigit (c : Char) : Bool :=
  c.isDigit || ('a' ≤ c && c ≤ 'f') || ('A' ≤ c && c ≤ 'F')

/-! ## Cursors -/

/-- A place in a text. -/
structure Cursor where
  rest : List Char
  index : Nat := 0
  line : Nat := 0
  column : Nat := 0

namespace Cursor

/-- Moves over one character. -/
def next (cur : Cursor) : Cursor :=
  match cur.rest with
  | [] => cur
  | c :: rest =>
    if isBreak c then ⟨rest, cur.index + 1, cur.line + 1, 0⟩
    else if c = byteOrderMark then ⟨rest, cur.index + 1, cur.line, cur.column⟩
    else ⟨rest, cur.index + 1, cur.line, cur.column + 1⟩

/-- Moves over several characters. -/
def skip : Nat → Cursor → Cursor
  | 0, cur => cur
  | n + 1, cur => skip n cur.next

/-- Whether the marker of a document's begin or end stands here. -/
def atMarker (marker : List Char) (cur : Cursor) : Bool :=
  cur.rest.take 3 == marker && endsWord cur.rest[3]?

/-- Whether a document ends here, at the begin of a line. -/
def atDocumentEdge (cur : Cursor) : Bool :=
  cur.atMarker ['-', '-', '-'] || cur.atMarker ['.', '.', '.']

end Cursor

/-! ## Readings -/

/-- A reading that moves a cursor or fails. -/
abbrev Scan := StateT Cursor (Except Error)

namespace Scan

/-- Fails because the text is not well formed. -/
def fail {α : Type} : Scan α := throw .malformed

/-- The next character, none at the end. -/
def peek : Scan (Option Char) := return (← get).rest.head?

/-- The character a few places ahead. -/
def peekAt (n : Nat) : Scan (Option Char) := return (← get).rest[n]?

/-- Moves over a few characters. -/
def forward (n : Nat) : Scan Unit := modify (Cursor.skip n)

/-- Takes the characters ahead that satisfy a test. -/
def takeWhile (p : Char → Bool) : Scan (List Char) := do
  let taken := (← get).rest.takeWhile p
  forward taken.length
  return taken

/-- Skips blanks. -/
def skipBlanks : Scan Unit := do
  let _ ← takeWhile (· == ' ')

/-- Skips what remains of a line. -/
def skipLine : Scan Unit := do
  let _ ← takeWhile fun c => !isBreak c

/-- Takes a break if there is one; most breaks count as a line feed. -/
def takeBreak : Scan (List Char) := do
  match ← peek with
  | some c =>
    if c = '\n' ∨ c = '\u0085' then
      forward 1
      return ['\n']
    else if isBreak c then
      forward 1
      return [c]
    else return []
  | none => return []

/-- Ends a line that may hold a comment and nothing else. -/
def endLine : Scan Unit := do
  skipBlanks
  if (← peek) == some '#' then skipLine
  if endsLine (← peek) then
    let _ ← takeBreak
  else fail

/-- A bound on the steps of any loop from here. -/
def bound : Scan Nat := return (← get).rest.length + 2

end Scan

end Yaml

end FeatureFlags
