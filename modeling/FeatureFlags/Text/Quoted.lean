import FeatureFlags.Text.Printable

/-!
# `FeatureFlags.Text.Quoted` — text as a quoted literal

A text is quoted in single quotes, or in double quotes when it holds a single quote and no double
one.  The backslash, the quote in use, line feed, carriage return and tab are escaped by a
backslash; every other character that is not printable is given by its code point.
-/

namespace FeatureFlags

namespace Text

/-- A hexadecimal digit in lower case. -/
def hexChar (n : Nat) : Char :=
  if n < 10 then Char.ofNat ('0'.toNat + n) else Char.ofNat ('a'.toNat + (n - 10))

/-- The last `width` hexadecimal digits of a number. -/
def hexDigits : Nat → Nat → List Char
  | 0, _ => []
  | width + 1, n => hexDigits width (n / 16) ++ [hexChar (n % 16)]

/-- A code point: `\xHH`, `\uHHHH` or `\UHHHHHHHH`, the shortest that holds it. -/
def codePointEscape (n : Nat) : List Char :=
  if n < 0x100 then '\\' :: 'x' :: hexDigits 2 n
  else if n < 0x10000 then '\\' :: 'u' :: hexDigits 4 n
  else '\\' :: 'U' :: hexDigits 8 n

/-- One character of a literal in the given quotes. -/
def quotedChar (quote c : Char) : List Char :=
  if c = '\\' ∨ c = quote then ['\\', c]
  else if c = '\n' then ['\\', 'n']
  else if c = '\r' then ['\\', 'r']
  else if c = '\t' then ['\\', 't']
  else if isPrintable c then [c]
  else codePointEscape c.toNat

/-- The quote a text is put in. -/
def quoteFor (s : List Char) : Char :=
  if s.contains '\'' && !s.contains '"' then '"' else '\''

/-- The quoted literal of a text. -/
def quoted (s : String) : String :=
  let chars := s.toList
  let quote := quoteFor chars
  String.ofList (quote :: (chars.flatMap (quotedChar quote) ++ [quote]))

/-- The quoted literal of a text that is given by code points, which need not be characters. -/
def quotedCodes (codes : List Nat) : String :=
  let quote := quoteFor (codes.map Char.ofNat)
  let code (n : Nat) : List Char :=
    if Nat.isValidChar n then quotedChar quote (Char.ofNat n) else codePointEscape n
  String.ofList (quote :: (codes.flatMap code ++ [quote]))

/-- The quoted literal of bytes, where one that is no printable ASCII character is given by its
value. -/
def quotedBytes (bytes : List UInt8) : String :=
  let chars := bytes.map fun b => Char.ofNat b.toNat
  let quote := quoteFor chars
  let byte (c : Char) : List Char :=
    if c.toNat < 0x7F then quotedChar quote c else '\\' :: 'x' :: hexDigits 2 c.toNat
  String.ofList ('b' :: quote :: (chars.flatMap byte ++ [quote]))

end Text

end FeatureFlags
