import FeatureFlags.Json.Value

/-!
# `FeatureFlags.Json.Reader` — reading JSON text

Besides the standard grammar, `NaN`, `Infinity` and `-Infinity` are numbers.  A number is an integer
unless it has a fraction or an exponent; of several members of one name the last counts, in the
place of the first.

## Contents

1. Blanks and numbers
2. Strings
3. Values
-/

namespace FeatureFlags

namespace Json

namespace Reader

/-! ## Blanks and numbers -/

/-- The characters that may stand between tokens. -/
def isBlank (c : Char) : Bool := c == ' ' || c == '\t' || c == '\n' || c == '\r'

/-- What is left after leading blanks. -/
def skipBlanks (cs : List Char) : List Char := cs.dropWhile isBlank

/-- Decimal digits. -/
def isDigit (c : Char) : Bool := '0' ≤ c && c ≤ '9'

/-- The number that decimal digits denote, after the digits already read. -/
def decimal (value : Nat) (digits : List Char) : Nat :=
  digits.foldl (fun n c => 10 * n + (c.toNat - '0'.toNat)) value

/-- Integers with more digits than this are not read. -/
def maxDigits : Nat := 4300

/-- The digits of the integer part: a zero, or digits that start with none. -/
def integerDigits : List Char → Option (List Char × List Char)
  | '0' :: rest => some (['0'], rest)
  | c :: rest => if isDigit c then some ((c :: rest).span isDigit) else none
  | [] => none

/-- The digits of a fraction, none when there is no fraction. -/
def fractionDigits : List Char → List Char × List Char
  | '.' :: c :: rest =>
    if isDigit c then (c :: rest).span isDigit else ([], '.' :: c :: rest)
  | cs => ([], cs)

/-- The signed digits of an exponent. -/
def signedDigits (cs : List Char) : Option (Int × List Char) :=
  let (negative, digits) :=
    match cs with
    | '-' :: rest => (true, rest)
    | '+' :: rest => (false, rest)
    | rest => (false, rest)
  let (digits, rest) := digits.span isDigit
  if digits.isEmpty then none
  else some (if negative then -(decimal 0 digits : Int) else decimal 0 digits, rest)

/-- An exponent, absent when there is none. -/
def exponent (cs : List Char) : Option Int × List Char :=
  match cs with
  | c :: rest =>
    if c = 'e' ∨ c = 'E' then
      match signedDigits rest with
      | some (e, rest) => (some e, rest)
      | none => (none, cs)
    else (none, cs)
  | [] => (none, cs)

/-- Reads a number after its sign. -/
def number (negative : Bool) (cs : List Char) : Option (Json × List Char) :=
  match integerDigits cs with
  | none => none
  | some (whole, rest) =>
    let (fraction, rest) := fractionDigits rest
    let (e, rest) := exponent rest
    if fraction.isEmpty && e.isNone then
      if whole.length > maxDigits then none
      else
        let n : Int := decimal 0 whole
        some (.int (if negative then -n else n), rest)
    else
      let digits := decimal (decimal 0 whole) fraction
      some (.float (.ofDecimal negative digits (e.getD 0 - fraction.length)), rest)

/-! ## Strings -/

/-- The value of a hexadecimal digit. -/
def hexValue? (c : Char) : Option Nat :=
  if '0' ≤ c ∧ c ≤ '9' then some (c.toNat - '0'.toNat)
  else if 'a' ≤ c ∧ c ≤ 'f' then some (c.toNat - 'a'.toNat + 10)
  else if 'A' ≤ c ∧ c ≤ 'F' then some (c.toNat - 'A'.toNat + 10)
  else none

/-- The number that four hexadecimal digits denote. -/
def hex4? (a b c d : Char) : Option Nat := do
  return ((← hexValue? a) * 16 + (← hexValue? b)) * 256 + (← hexValue? c) * 16 + (← hexValue? d)

/-- The character that a letter after a backslash stands for. -/
def simpleEscape? : Char → Option Char
  | '"' => some '"'
  | '\\' => some '\\'
  | '/' => some '/'
  | 'b' => some '\x08'
  | 'f' => some '\x0c'
  | 'n' => some '\n'
  | 'r' => some '\r'
  | 't' => some '\t'
  | _ => none

/-- The first half of a pair of code units. -/
def isHighSurrogate (n : Nat) : Bool := 0xD800 ≤ n && n ≤ 0xDBFF

/-- The second half of a pair of code units. -/
def isLowSurrogate (n : Nat) : Bool := 0xDC00 ≤ n && n ≤ 0xDFFF

/-- The character of a pair of code units. -/
def ofPair (high low : Nat) : Char :=
  Char.ofNat (0x10000 + (high - 0xD800) * 0x400 + (low - 0xDC00))

/-- The character of a single code unit.  A lone half of a pair is no Unicode scalar value and cannot stand in
a text, so it becomes the replacement character; a reader whose texts are made of code units would keep it. -/
def ofUnit (n : Nat) : Char :=
  if n.isValidChar then Char.ofNat n else '\ufffd'

/-- Reads a string after its opening quote, onto the characters already read in reverse. -/
def stringChars (done : List Char) : List Char → Option (List Char × List Char)
  | [] => none
  | '"' :: rest => some (done.reverse, rest)
  | '\\' :: 'u' :: a :: b :: c :: d :: '\\' :: 'u' :: e :: f :: g :: h :: rest =>
    match hex4? a b c d, hex4? e f g h with
    | some m, some n =>
      if isHighSurrogate m && isLowSurrogate n then stringChars (ofPair m n :: done) rest
      else stringChars (ofUnit m :: done) ('\\' :: 'u' :: e :: f :: g :: h :: rest)
    | some m, none => stringChars (ofUnit m :: done) ('\\' :: 'u' :: e :: f :: g :: h :: rest)
    | none, _ => none
  | '\\' :: 'u' :: a :: b :: c :: d :: rest =>
    match hex4? a b c d with
    | some m => stringChars (ofUnit m :: done) rest
    | none => none
  | '\\' :: c :: rest =>
    match simpleEscape? c with
    | some x => stringChars (x :: done) rest
    | none => none
  | c :: rest => if c.toNat < 0x20 || c == '\\' then none else stringChars (c :: done) rest

/-! ## Values -/

/-- Reads a value that is a word, a number or a string. -/
def scalar : List Char → Option (Json × List Char)
  | 'n' :: 'u' :: 'l' :: 'l' :: rest => some (.null, rest)
  | 't' :: 'r' :: 'u' :: 'e' :: rest => some (.bool true, rest)
  | 'f' :: 'a' :: 'l' :: 's' :: 'e' :: rest => some (.bool false, rest)
  | 'N' :: 'a' :: 'N' :: rest => some (.float .nan, rest)
  | 'I' :: 'n' :: 'f' :: 'i' :: 'n' :: 'i' :: 't' :: 'y' :: rest =>
    some (.float (.infinity false), rest)
  | '-' :: 'I' :: 'n' :: 'f' :: 'i' :: 'n' :: 'i' :: 't' :: 'y' :: rest =>
    some (.float (.infinity true), rest)
  | '-' :: rest => number true rest
  | '"' :: rest => (stringChars [] rest).map fun (chars, rest) => (.str (String.ofList chars), rest)
  | cs => number false cs

/-- The two kinds of values that hold others. -/
inductive Holder where
  | list
  | object
  deriving DecidableEq

/-- Why a text is not read. -/
inductive Fault where
  | malformed
  /-- Values are nested too deeply; the innermost one is of the given kind. -/
  | tooDeep (holder : Holder)
  deriving DecidableEq

/-- The result of a step that can only find a text malformed. -/
def wellFormed {α : Type} (r : Option α) : Except Fault α :=
  match r with
  | some x => .ok x
  | none => .error .malformed

mutual

/-- Reads a value, in which values may be nested as deeply as there is room. -/
def value : Nat → Nat → List Char → Except Fault (Json × List Char)
  | 0, _, _ => .error .malformed
  | fuel + 1, room, cs =>
    match cs, room with
    | '[' :: _, 0 => .error (.tooDeep .list)
    | '\x7b' :: _, 0 => .error (.tooDeep .object)
    | '[' :: rest, room + 1 =>
      match skipBlanks rest with
      | ']' :: rest => .ok (.arr [], rest)
      | rest => items fuel room [] rest
    | '\x7b' :: rest, room + 1 =>
      match skipBlanks rest with
      | '\x7d' :: rest => .ok (.obj [], rest)
      | rest => members fuel room [] rest
    | cs, _ => wellFormed (scalar cs)

/-- Reads the items of a list, onto those already read in reverse. -/
def items : Nat → Nat → List Json → List Char → Except Fault (Json × List Char)
  | 0, _, _, _ => .error .malformed
  | fuel + 1, room, done, cs => do
    let (v, rest) ← value fuel room cs
    match skipBlanks rest with
    | ']' :: rest => .ok (.arr (v :: done).reverse, rest)
    | ',' :: rest => items fuel room (v :: done) (skipBlanks rest)
    | _ => .error .malformed

/-- Reads the members of an object, onto those already read in reverse. -/
def members : Nat → Nat → List (String × Json) → List Char → Except Fault (Json × List Char)
  | 0, _, _, _ => .error .malformed
  | fuel + 1, room, done, cs =>
    match cs with
    | '"' :: rest => do
      let (name, rest) ← wellFormed (stringChars [] rest)
      match skipBlanks rest with
      | ':' :: rest => do
        let (v, rest) ← value fuel room (skipBlanks rest)
        let done := (String.ofList name, v) :: done
        match skipBlanks rest with
        | '\x7d' :: rest => .ok (.ofMembers done.reverse, rest)
        | ',' :: rest => members fuel room done (skipBlanks rest)
        | _ => .error .malformed
      | _ => .error .malformed
    | _ => .error .malformed

end

end Reader

/-- Reads a JSON text, in which values may be nested as deeply as there is room. -/
def parse (room : Nat) (text : List Char) : Except Reader.Fault Json := do
  let (v, rest) ← Reader.value (2 * text.length + 2) room (Reader.skipBlanks text)
  if (Reader.skipBlanks rest).isEmpty then return v else throw .malformed

/-- Reads a JSON text of any depth. -/
def parse? (text : List Char) : Option Json := (parse text.length text).toOption

end Json

end FeatureFlags
