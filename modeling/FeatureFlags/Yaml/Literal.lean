import FeatureFlags.Binary64.Arithmetic
import FeatureFlags.Config.Quantity
import FeatureFlags.Config.Setting
import FeatureFlags.Text.Case
import FeatureFlags.Yaml.Scalar
import FeatureFlags.Yaml.Tag

/-!
# `FeatureFlags.Yaml.Literal` — the values of YAML scalars

Each tag of a scalar has a reader for its text.  A tag may be written out on a text that does not
have its form, so that every reader can fail.

## Contents

1. Truth values
2. Integers, also in base 60
3. Floating-point numbers, also in base 60
4. Binary data
5. Timestamps
-/

namespace FeatureFlags

namespace Yaml

namespace Literal

/-- Fails with a foreign error. -/
def reject {α : Type} (kind : ForeignKind) (message : String) : Except Error α :=
  .error (.value ⟨kind, message⟩)

/-- Fails because a text has no character in a place where one is read. -/
def rejectShort {α : Type} : Except Error α := reject .index "string index out of range"

/-- A text without its underscores. -/
def dropUnderscores (cs : List Char) : List Char := cs.filter (· ≠ '_')

/-! ## Truth values -/

/-- Reads a truth value. -/
def bool (cs : List Char) : Except Error Bool :=
  let word := String.ofList (Text.lowerCase cs)
  if ["yes", "true", "on"].contains word then .ok true
  else if ["no", "false", "off"].contains word then .ok false
  else reject .key word

/-! ## Integers, also in base 60 -/

/-- Reads an integer in a base. -/
def integerIn (base : Nat) (cs : List Char) : Except Error Int :=
  match Numeral.readInteger base cs with
  | .ok n => .ok n
  | .error (.tooLong digits) => reject .value (Numeral.tooLongText digits)
  | .error .malformed =>
    reject .value ("invalid literal for int() with base " ++ toString base ++ ": " ++
      String.ofList ((Text.quoted (String.ofList cs)).toList.take 200))

/-- A sign, if there is one, and what follows it.  Something must stand there. -/
def splitSign : List Char → Except Error (Bool × List Char)
  | [] => rejectShort
  | '-' :: rest => .ok (true, rest)
  | '+' :: rest => .ok (false, rest)
  | cs => .ok (false, cs)

/-- The parts of a text between colons. -/
def splitColons (cs : List Char) : List (List Char) := cs.splitOn ':'

/-- Reads an integer without its sign. -/
def natural (cs : List Char) : Except Error Int :=
  match cs with
  | [] => rejectShort
  | ['0'] => .ok 0
  | '0' :: 'b' :: rest => integerIn 2 rest
  | '0' :: 'x' :: rest => integerIn 16 rest
  | '0' :: _ => integerIn 8 cs
  | _ =>
    if cs.contains ':' then
      return (← (splitColons cs).mapM (integerIn 10)).foldl (fun n d => 60 * n + d) 0
    else integerIn 10 cs

/-- Reads an integer. -/
def integer (text : List Char) : Except Error Int := do
  let (negative, rest) ← splitSign (dropUnderscores text)
  let n ← natural rest
  return if negative then -n else n

/-! ## Floating-point numbers, also in base 60 -/

/-- Reads a decimal number. -/
def decimal (cs : List Char) : Except Error Binary64 :=
  match Quantity.readBare? ((Numeral.trim cs).map Numeral.asciiDigit) with
  | some x => .ok x
  | none =>
    reject .value ("could not convert string to float: " ++ Text.quoted (String.ofList cs))

/-- The value of digits in base 60, the last one first, where the first weighs `weight`. -/
def sexagesimal (weight : Nat) (sum : Binary64) : List Binary64 → Except Error Binary64
  | [] => .ok sum
  | d :: rest =>
    let w := Binary64.ofInt weight
    if w.isFinite then sexagesimal (60 * weight) (sum.add (d.mul w)) rest
    else reject .overflow "int too large to convert to float"

/-- Whether a text is the name of not-a-number, whatever its sign. -/
def namesNan (text : List Char) : Bool :=
  match splitSign (Text.lowerCase (dropUnderscores text)) with
  | .ok (_, rest) => rest = ".nan".toList
  | .error _ => false

/-- Reads a floating-point number. -/
def float (text : List Char) : Except Error Binary64 := do
  let (negative, rest) ← splitSign (Text.lowerCase (dropUnderscores text))
  let x ←
    if rest = ".inf".toList then pure (Binary64.infinity false)
    else if rest = ".nan".toList then pure Binary64.nan
    else if rest.contains ':' then do
      sexagesimal 1 .zero (← (splitColons rest).mapM decimal).reverse
    else decimal rest
  return if negative then x.neg else x

/-! ## Binary data -/

/-- The value of a digit in base 64. -/
def base64Value? (c : Char) : Option Nat :=
  if 'A' ≤ c ∧ c ≤ 'Z' then some (c.toNat - 'A'.toNat)
  else if 'a' ≤ c ∧ c ≤ 'z' then some (c.toNat - 'a'.toNat + 26)
  else if c.isDigit then some (c.toNat - '0'.toNat + 52)
  else if c = '+' then some 62
  else if c = '/' then some 63
  else none

/-- Reads data in base 64.  `place` counts the digits of the group so far, `left` holds the bits
that do not fill a byte yet, and `pads` counts the padding.  Other characters are skipped, and what
follows the padding is not read. -/
def base64 (place left pads : Nat) : List Char → Except Error (List UInt8)
  | [] => if place = 0 then .ok [] else .error .malformed
  | c :: rest =>
    if c = '=' then
      if place ≥ 2 then
        if place + pads + 1 ≥ 4 then .ok [] else base64 place left (pads + 1) rest
      else base64 place left pads rest
    else
      match base64Value? c with
      | none => base64 place left pads rest
      | some d =>
        match place with
        | 0 => base64 1 d 0 rest
        | 1 => (UInt8.ofNat (left * 4 + d / 16) :: ·) <$> base64 2 (d % 16) 0 rest
        | 2 => (UInt8.ofNat (left * 16 + d / 4) :: ·) <$> base64 3 (d % 4) 0 rest
        | _ => (UInt8.ofNat (left * 64 + d) :: ·) <$> base64 0 0 0 rest

/-- Reads binary data. -/
def binary (text : List Char) : Except Error (List UInt8) :=
  if text.all fun c => c.toNat < 128 then base64 0 0 0 text else .error .malformed

/-! ## Timestamps -/

/-- Reads at least `least` and at most `most` digits. -/
def digits? (least most : Nat) (cs : List Char) : Option (Nat × List Char) :=
  let taken := (cs.takeWhile Char.isDigit).take most
  if taken.length < least then none
  else some (Quantity.natural taken, cs.drop taken.length)

/-- Reads one character. -/
def expect? (c : Char) : List Char → Option (List Char)
  | d :: rest => if d = c then some rest else none
  | [] => none

/-- Reads a date. -/
def date? (cs : List Char) : Option (CalendarDate × List Char) := do
  let (year, rest) ← digits? 4 4 cs
  let (month, rest) ← digits? 1 2 (← expect? '-' rest)
  let (day, rest) ← digits? 1 2 (← expect? '-' rest)
  return (⟨year, month, day⟩, rest)

/-- Reads what stands between a date and a time. -/
def timeSeparator? : List Char → Option (List Char)
  | 'T' :: rest => some rest
  | 't' :: rest => some rest
  | cs =>
    let rest := cs.dropWhile fun c => c = ' ' ∨ c = '\t'
    if rest.length < cs.length then some rest else none

/-- Reads the fraction of a second, in microseconds. -/
def microseconds : List Char → Nat × List Char
  | '.' :: rest =>
    let digits := rest.takeWhile Char.isDigit
    let six := (digits ++ List.replicate 6 '0').take 6
    (Quantity.natural six, rest.drop digits.length)
  | cs => (0, cs)

/-- Reads an offset, in seconds, up to the end of a text. -/
def offset? (cs : List Char) : Option (Option Int) :=
  match cs.dropWhile fun c => c = ' ' ∨ c = '\t' with
  | [] => if cs.isEmpty then some none else none
  | ['Z'] => some (some 0)
  | sign :: rest => do
    guard (sign = '+' ∨ sign = '-')
    let (hours, rest) ← digits? 1 2 rest
    let minutes ←
      match rest with
      | [] => some 0
      | _ =>
        match ← digits? 2 2 (← expect? ':' rest) with
        | (n, []) => some n
        | _ => none
    let seconds : Int := (hours * 60 + minutes) * 60
    return some (if sign = '-' then -seconds else seconds)

/-- Reads the time that may follow a date, up to the end of a text. -/
def time? (cs : List Char) : Option (Option TimeOfDay) :=
  match cs with
  | [] => some none
  | _ => do
    let (hour, rest) ← digits? 1 2 (← timeSeparator? cs)
    let (minute, rest) ← digits? 2 2 (← expect? ':' rest)
    let (second, rest) ← digits? 2 2 (← expect? ':' rest)
    let (microsecond, rest) := microseconds rest
    let offset ← offset? rest
    return some { hour, minute, second, microsecond, offset }

/-- Reads the fields of a timestamp. -/
def timestampFields? (cs : List Char) : Option (CalendarDate × Option TimeOfDay) := do
  let (date, rest) ← date? cs
  return (date, ← time? rest)

/-- A text without the line feed at its end, if there is one. -/
def dropFinalBreak (cs : List Char) : List Char :=
  if cs.getLast? = some '\n' then cs.dropLast else cs

/-- Reads a timestamp. -/
def timestamp (text : List Char) : Except Error Moment :=
  match timestampFields? (dropFinalBreak text) with
  | none => reject .attribute "'NoneType' object has no attribute 'groupdict'"
  | some (date, time) =>
    match Moment.ofFields date time with
    | .ok m => .ok m
    | .error fault => reject .value fault

end Literal

end Yaml

end FeatureFlags
