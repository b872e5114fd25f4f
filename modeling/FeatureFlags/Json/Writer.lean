import FeatureFlags.Json.Value

/-!
# `FeatureFlags.Json.Writer` — writing JSON text

A style says what stands between items and after names, and whether characters outside ASCII are
escaped.
-/

namespace FeatureFlags

namespace Json

/-- How JSON is written. -/
structure Style where
  betweenItems : String
  afterName : String
  /-- Whether every character that is not printable ASCII is escaped. -/
  ascii : Bool

namespace Style

/-- Without blanks, characters as they are: the form of request bodies. -/
def compact : Style := ⟨",", ":", false⟩

/-- With blanks, in ASCII: the form of log lines. -/
def spaced : Style := ⟨", ", ": ", true⟩

end Style

namespace Writer

/-- A code unit as an escape. -/
def unitEscape (n : Nat) : List Char := '\\' :: 'u' :: Text.hexDigits 4 n

/-- The escape of a character by its code units. -/
def codeEscape (c : Char) : List Char :=
  let n := c.toNat
  if n < 0x10000 then unitEscape n
  else
    unitEscape (0xD800 + (n - 0x10000) / 0x400) ++ unitEscape (0xDC00 + (n - 0x10000) % 0x400)

/-- A character of a string. -/
def char (ascii : Bool) (c : Char) : List Char :=
  if c = '"' then ['\\', '"']
  else if c = '\\' then ['\\', '\\']
  else if c = '\n' then ['\\', 'n']
  else if c = '\r' then ['\\', 'r']
  else if c = '\t' then ['\\', 't']
  else if c = '\x0c' then ['\\', 'f']
  else if c = '\x08' then ['\\', 'b']
  else if c.toNat < 0x20 || (ascii && 0x7E < c.toNat) then codeEscape c
  else [c]

/-- A string in quotes. -/
def string (ascii : Bool) (s : String) : String :=
  String.ofList ('"' :: (s.toList.flatMap (char ascii) ++ ['"']))

/-- A number. -/
def number : Number → String
  | .int n => toString n
  | .float x => x.textWith { Binary64.Layout.standard with nan := "NaN", infinity := "Infinity" }

end Writer

mutual

/-- The text of a value. -/
def write (style : Style) : Json → String
  | .null => "null"
  | .bool true => "true"
  | .bool false => "false"
  | .number n => Writer.number n
  | .str s => Writer.string style.ascii s
  | .arr items => "[" ++ writeItems style items ++ "]"
  | .obj members => "\x7b" ++ writeMembers style members ++ "\x7d"

/-- The items of a list. -/
def writeItems (style : Style) : List Json → String
  | [] => ""
  | [v] => v.write style
  | v :: rest => v.write style ++ style.betweenItems ++ writeItems style rest

/-- The members of an object. -/
def writeMembers (style : Style) : List (String × Json) → String
  | [] => ""
  | [(k, v)] => Writer.string style.ascii k ++ style.afterName ++ v.write style
  | (k, v) :: rest =>
    Writer.string style.ascii k ++ style.afterName ++ v.write style ++ style.betweenItems ++
      writeMembers style rest

end

end Json

end FeatureFlags
