import FeatureFlags.Net.Percent

/-!
# `FeatureFlags.Net.Form` — forms as query texts

A form is a list of names and values.  Names and values are joined by equals signs and the pairs by
ampersands; a blank is written as a plus sign, and every other character that has a meaning of its
own is percent-encoded.
-/

namespace FeatureFlags

namespace Form

/-- Writes a character of a name or a value. -/
def encodeChar (c : Char) : List Char :=
  if c = ' ' then ['+'] else Percent.encodeChar Percent.isUnreserved c

/-- Writes a name or a value. -/
def encodeText (s : String) : List Char := s.toList.flatMap encodeChar

/-- Writes a name and its value. -/
def encodePair (pair : String × String) : List Char :=
  encodeText pair.1 ++ '=' :: encodeText pair.2

/-- Writes a form. -/
def encode (pairs : List (String × String)) : List Char :=
  ['&'].intercalate (pairs.map encodePair)

/-- Reads a name or a value. -/
def decodeText (cs : List Char) : String :=
  Utf8.decodeLossy (Percent.decode (cs.map fun c => if c = '+' then ' ' else c))

/-- Reads a name and its value, which is empty if there is no equals sign. -/
def decodePair (cs : List Char) : String × String :=
  (decodeText (cs.takeWhile (· ≠ '=')), decodeText ((cs.dropWhile (· ≠ '=')).drop 1))

/-- Reads a form. -/
def decode (cs : List Char) : List (String × String) :=
  ((cs.splitOn '&').filter fun part => !part.isEmpty).map decodePair

end Form

end FeatureFlags
