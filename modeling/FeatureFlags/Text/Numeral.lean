import FeatureFlags.Text.Letter

/-!
# `FeatureFlags.Text.Numeral` — reading integers

An integer may stand between white space, carry a sign and a prefix that names its base, and have
single underscores between its digits.  The decimal digits of every digit system are accepted.
-/

namespace FeatureFlags

namespace Numeral

/-- The white space that may surround a numeral. -/
def isBlank (c : Char) : Bool :=
  c == ' ' || ('\t' ≤ c && c ≤ '\r') || (127 < c.toNat && Text.isSpace c)

/-- The value of a decimal digit of any digit system.  The digits of a system are ten characters in
a row, the first of which is at the start of a range or ten places after another. -/
def decimalValue? (c : Char) : Option Nat :=
  match CodeTable.search Text.decimalSet.table c.toNat 0 Text.decimalSet.table.size with
  | some e => some ((c.toNat - e.first) % 10)
  | none => none

/-- A decimal digit of any digit system as an ASCII digit; other characters stay. -/
def asciiDigit (c : Char) : Char :=
  match decimalValue? c with
  | some d => Char.ofNat ('0'.toNat + d)
  | none => c

/-- The value of a digit in any base up to 36. -/
def digitValue? (c : Char) : Option Nat :=
  if 'a' ≤ c ∧ c ≤ 'z' then some (c.toNat - 'a'.toNat + 10)
  else if 'A' ≤ c ∧ c ≤ 'Z' then some (c.toNat - 'A'.toNat + 10)
  else if c.isDigit then some (c.toNat - '0'.toNat)
  else none

/-- Whether a character is a digit in a base. -/
def isDigitIn (base : Nat) (c : Char) : Bool := (digitValue? c).any (· < base)

/-- The value of digits in a base; other characters count as zero. -/
def value (base : Nat) (cs : List Char) : Nat :=
  cs.foldl (fun n c => base * n + (digitValue? c).getD 0) 0

/-- The letter that follows a zero in the prefix of a base. -/
def prefixLetter? (base : Nat) : Option Char :=
  if base = 16 then some 'x' else if base = 8 then some 'o' else if base = 2 then some 'b' else none

/-- Removes the prefix of a base, and one underscore after it. -/
def dropBase (base : Nat) (cs : List Char) : List Char :=
  match cs with
  | '0' :: c :: rest =>
    if (prefixLetter? base).isSome && prefixLetter? base == some c.toLower then
      match rest with
      | '_' :: r => r
      | _ => rest
    else cs
  | _ => cs

/-- Removes white space from both ends. -/
def trim (cs : List Char) : List Char :=
  ((cs.dropWhile isBlank).reverse.dropWhile isBlank).reverse

/-- How many digits a decimal integer may have. -/
def digitLimit : Nat := 4300

/-- Why a text is no integer. -/
inductive Fault where
  | malformed
  /-- It has more digits than are read. -/
  | tooLong (digits : Nat)
  deriving DecidableEq

/-- The text of a failure to read an integer of too many digits. -/
def tooLongText (digits : Nat) : String :=
  "Exceeds the limit (" ++ toString digitLimit ++
    " digits) for integer string conversion: value has " ++ toString digits ++
    " digits; use sys.set_int_max_str_digits() to increase the limit"

/-- Whether an integer has so few digits that it can be written. -/
def isWritable (n : Int) : Bool := n.natAbs < Nat.pow 10 digitLimit

/-- The text of a failure to write an integer of too many digits. -/
def unwritableText : String :=
  "Exceeds the limit (" ++ toString digitLimit ++
    " digits) for integer string conversion; use sys.set_int_max_str_digits() to increase the limit"

/-- Whether underscores stand only between two digits. -/
def underscoresBetween : List Char → Bool
  | [] => true
  | ['_'] => false
  | '_' :: '_' :: _ => false
  | _ :: rest => underscoresBetween rest

/-- Reads one or more digits.  That there are too many shows before what follows them. -/
def readNatural (base : Nat) (cs : List Char) : Except Fault Nat :=
  let run := cs.takeWhile fun c => c == '_' || isDigitIn base c
  let digits := run.filter (· ≠ '_')
  if run.isEmpty || run.head? == some '_' || !underscoresBetween run then .error .malformed
  else if base = 10 ∧ digitLimit < digits.length then .error (.tooLong digits.length)
  else if run.length < cs.length then .error .malformed
  else .ok (value base digits)

/-- Reads an integer in the given base. -/
def readInteger (base : Nat) (cs : List Char) : Except Fault Int :=
  match (trim cs).map asciiDigit with
  | '-' :: rest => (readNatural base (dropBase base rest)).map fun n => -(n : Int)
  | '+' :: rest => (readNatural base (dropBase base rest)).map Int.ofNat
  | rest => (readNatural base (dropBase base rest)).map Int.ofNat

end Numeral

end FeatureFlags
