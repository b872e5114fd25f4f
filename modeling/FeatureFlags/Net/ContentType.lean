import FeatureFlags.Net.Percent
import FeatureFlags.Text.Charset
import FeatureFlags.Text.Numeral

/-!
# `FeatureFlags.Net.ContentType` — the charset that a type of content names

A type of content is a text in ASCII that has parameters behind semicolons.  The value of a
parameter may be in quotes, it may be given in parts, and parts may hold escapes, in front of which
stand a charset and a language.

## Contents

1. Parameters
2. Quotes
3. Parts
4. The charset
-/

namespace FeatureFlags

namespace ContentType

/-! ## Parameters -/

/-- Splits a text at the semicolons outside quotes, given in reverse what belongs to the first
piece.  A quote behind a backslash does not count. -/
def pieces (inQuotes behindBackslash : Bool) (done : List Char) : List Char → List (List Char)
  | [] => [done.reverse]
  | c :: rest =>
    if c = ';' ∧ !inQuotes then done.reverse :: pieces false false [] rest
    else pieces (inQuotes != (c == '"' && !behindBackslash)) (c == '\\') (c :: done) rest

/-- A parameter as it is written. -/
structure Parameter where
  name : List Char
  value : List Char

/-- Reads a parameter.  A name without a value keeps its capitals. -/
def Parameter.ofPiece (piece : List Char) : Parameter :=
  if piece.contains '=' then
    ⟨(Text.trim (piece.takeWhile (· ≠ '='))).map Char.toLower,
      Text.trim ((piece.dropWhile (· ≠ '=')).drop 1)⟩
  else ⟨Text.trim piece, []⟩

/-- The parameters of a type, which itself counts as the first one. -/
def parameters (text : String) : List Parameter :=
  (pieces false false [] text.toList).map Parameter.ofPiece

/-! ## Quotes -/

/-- Puts a character in the place of two. -/
def merge (a b c : Char) : List Char → List Char
  | x :: y :: rest =>
    if x = a ∧ y = b then c :: merge a b c rest else x :: merge a b c (y :: rest)
  | cs => cs

/-- A value without the quotes or the angle brackets around it. -/
def unquote (cs : List Char) : List Char :=
  if cs.length < 2 then cs
  else if cs.head? = some '"' ∧ cs.getLast? = some '"' then
    merge '\\' '"' '"' (merge '\\' '\\' '\\' (cs.drop 1).dropLast)
  else if cs.head? = some '<' ∧ cs.getLast? = some '>' then (cs.drop 1).dropLast
  else cs

/-- A text as it stands in quotes. -/
def quote (cs : List Char) : List Char :=
  cs.flatMap fun c => if c = '\\' ∨ c = '"' then ['\\', c] else [c]

/-- A text that is quoted already, read. -/
def reread (quoted : List Char) : List Char := unquote ('"' :: quoted ++ ['"'])

/-! ## Parts -/

/-- Why the charset cannot be told. -/
inductive Fault where
  /-- Of the parts of a value some have numbers. -/
  | mixed (numberedFirst : Bool)
  /-- The number of a part has too many digits. -/
  | tooLong (digits : Nat)
  /-- The name of a charset contains the character zero. -/
  | zero
  deriving DecidableEq

namespace Fault

/-- The wording of a fault. -/
def message : Fault → String
  | .mixed true => "'<' not supported between instances of 'NoneType' and 'int'"
  | .mixed false => "'<' not supported between instances of 'int' and 'NoneType'"
  | .tooLong digits => Numeral.tooLongText digits
  | .zero => "embedded null character"

end Fault

/-- A part of a value. -/
structure Part where
  number : Option Nat
  text : String
  /-- Whether it may hold escapes. -/
  escaped : Bool

namespace Part

/-- Whether a part does not stand behind another one: by number, then by text. -/
def le (a b : Part) : Bool :=
  if a.number ≠ b.number then a.number.getD 0 ≤ b.number.getD 0
  else if a.text ≠ b.text then a.text < b.text
  else !a.escaped || b.escaped

/-- What a part stands for; each escape stands for a character of `latin1`. -/
def content (p : Part) : List Char :=
  if p.escaped then (Percent.decode p.text.toList).map fun b => Char.ofNat b.toNat
  else p.text.toList

end Part

/-- Whether a character may stand in the name of a value that is given in parts. -/
def isWordChar (c : Char) : Bool := c.isAlphanum || c == '_'

/-- The name of the value and the digits of the number that the name of a part consists of. -/
def partName? (name : List Char) : Option (List Char × List Char) :=
  let base := name.takeWhile isWordChar
  match name.drop base.length with
  | '*' :: rest =>
    let digits := rest.takeWhile Char.isDigit
    let after := rest.drop digits.length
    if base.isEmpty then none
    else if after.isEmpty ∨ (after = ['*'] ∧ !digits.isEmpty) then some (base, digits)
    else none
  | _ => none

/-- The number that digits spell; none if there are no digits. -/
def number? (digits : List Char) : Except Fault (Option Nat) :=
  if digits.isEmpty then .ok none
  else if Numeral.digitLimit < digits.length then .error (.tooLong digits.length)
  else .ok (some (digits.foldl (fun n c => 10 * n + (c.toNat - '0'.toNat)) 0))

/-- Parameters with whole values, and values in parts, in the order in which they begin. -/
structure Sorted where
  whole : List (List Char × List Char) := []
  parted : List (List Char × List Part) := []

/-- Adds a part to the value with a name. -/
def addPart (name : List Char) (part : Part) :
    List (List Char × List Part) → List (List Char × List Part)
  | [] => [(name, [part])]
  | (n, parts) :: rest =>
    if n = name then (n, parts ++ [part]) :: rest else (n, parts) :: addPart name part rest

/-- Adds a parameter. -/
def Sorted.add (s : Sorted) (p : Parameter) : Except Fault Sorted :=
  let value := unquote p.value
  match partName? p.name with
  | some (name, digits) => do
    let number ← number? digits
    let part : Part := ⟨number, String.ofList value, p.name.getLast? == some '*'⟩
    return { s with parted := addPart name part s.parted }
  | none => return { s with whole := s.whole ++ [(p.name, reread (quote value))] }

/-- A value. -/
inductive Value where
  | plain (text : List Char)
  /-- A text whose characters are bytes in a charset, if one is named. -/
  | coded (charset : List Char) (text : List Char)

/-- The charset, and what follows the language behind it; the signs between them are apostrophes. -/
def codedValue (quoted : List Char) : Value :=
  let charset := quoted.takeWhile (· ≠ '\'')
  match (quoted.drop charset.length).drop 1 |>.dropWhile (· ≠ '\'') with
  | [] => .coded [] (reread quoted)
  | _ :: text => .coded charset (reread text)

/-- The value that parts make together. -/
def joined (parts : List Part) : Except Fault Value :=
  let numbered (p : Part) : Bool := p.number.isSome
  let first := (parts.head?.map numbered).getD false
  if parts.any fun p => numbered p != first then .error (.mixed first)
  else
    let parts := parts.mergeSort Part.le
    let quoted := quote (parts.flatMap Part.content)
    if parts.any Part.escaped then .ok (codedValue quoted) else .ok (.plain (reread quoted))

/-- The values of the parameters of a type by name. -/
def values (text : String) : Except Fault (List (List Char × Value)) := do
  let ps := parameters text
  let first := ps.take 1 |>.map fun p => (p.name, Value.plain (unquote p.value))
  let sorted ← (ps.drop 1).foldlM Sorted.add {}
  let whole := sorted.whole.map fun (name, value) => (name, Value.plain value)
  let parted ← sorted.parted.mapM fun (name, parts) => (joined parts).map fun v => (name, v)
  return first ++ whole ++ parted

/-! ## The charset -/

/-- The charset with a name, which must not contain the character zero. -/
def charset? (name : String) : Except Fault (Option Charset) :=
  if name.contains '\x00' then .error .zero else .ok (Charset.named? name)

/-- The charset of a text whose charset is not named. -/
def defaultName : String := "us-ascii"

/-- The text of a value.  A text in a charset that does not spell it stands for itself. -/
def Value.text : Value → Except Fault (List Char)
  | .plain text => .ok text
  | .coded charset text => do
    let charset ← charset? (if charset.isEmpty then defaultName else String.ofList charset)
    let bytes := text.map fun c => UInt8.ofNat c.toNat
    return if bytes.isEmpty then [] else (charset.bind fun c => c.decode? bytes).getD text

/-- The name of a charset among the parameters of a type, in small letters; there is none if it is
not in ASCII. -/
def charsetName? (text : String) : Except Fault (Option String) := do
  match (← values text).find? fun (name, _) => name.map Char.toLower = "charset".toList with
  | none => return none
  | some (_, value) =>
    let name ← value.text
    return if name.all fun c => c.toNat < 0x80 then some (String.ofList (name.map Char.toLower))
      else none

/-- The charset that a type names, if it names one that is known. -/
def charsetOf? (text : String) : Except Fault (Option Charset) := do
  match ← charsetName? text with
  | some name => charset? name
  | none => return none

end ContentType

end FeatureFlags
