/-!
# `FeatureFlags.Net.Address` — numeric addresses

An address of four numbers, `192.0.2.1`, has a decimal number from 0 to 255 without leading zeros in
each place.  An address of eight, `2001:db8::1`, has up to four hexadecimal digits in each place;
two colons stand for one or more places that are zero, and the last two places may be written as an
address of four numbers.
-/

namespace FeatureFlags

namespace Address

/-! ## Addresses of four numbers -/

/-- Whether a text is a number from 0 to 255 without leading zeros. -/
def isOctet (cs : List Char) : Bool :=
  !cs.isEmpty && cs.all Char.isDigit && cs.length ≤ 3 && (cs == ['0'] || cs.head? != some '0') &&
    cs.foldl (fun n c => 10 * n + (c.toNat - '0'.toNat)) 0 ≤ 255

/-- Whether a text is an address of four numbers. -/
def isFour (cs : List Char) : Bool :=
  let parts := cs.splitOn '.'
  parts.length == 4 && parts.all isOctet

/-- Whether a text is meant as an address of four numbers. -/
def looksLikeFour (cs : List Char) : Bool :=
  let parts := cs.splitOn '.'
  parts.length == 4 && parts.all fun part => !part.isEmpty && part.all Char.isDigit

/-! ## Addresses of eight numbers -/

/-- Whether a character is a hexadecimal digit. -/
def isHexDigit (c : Char) : Bool :=
  c.isDigit || ('a' ≤ c && c ≤ 'f') || ('A' ≤ c && c ≤ 'F')

/-- Whether a text is a number of up to four hexadecimal digits. -/
def isHextet (cs : List Char) : Bool := !cs.isEmpty && cs.length ≤ 4 && cs.all isHexDigit

/-- The parts between colons, where an address of four numbers at the end counts as two. -/
def colonParts? (cs : List Char) : Option (List (List Char)) :=
  let parts := cs.splitOn ':'
  match parts.getLast? with
  | some last =>
    if parts.length < 3 then none
    else if last.contains '.' then
      if isFour last then some (parts.dropLast ++ [['0'], ['0']]) else none
    else some parts
  | none => none

/-- Whether parts on one side of two colons are numbers; there may be none. -/
def isSide (parts : List (List Char)) : Bool := parts == [[]] || parts.all isHextet

/-- Whether the parts between colons make an address: eight numbers, or fewer around one empty
part. -/
def arePlaces (parts : List (List Char)) : Bool :=
  let inner := (parts.drop 1).dropLast
  match inner.findIdx? List.isEmpty with
  | none => parts.length == 8 && parts.all isHextet
  | some i =>
    let left := parts.take (i + 1)
    let right := parts.drop (i + 2)
    let count (side : List (List Char)) : Nat := if side == [[]] then 0 else side.length
    isSide left && isSide right && count left + count right < 8

/-- Whether a text is an address of eight numbers, perhaps with the name of a zone after a percent
sign. -/
def isEight (cs : List Char) : Bool :=
  let address := cs.takeWhile (· ≠ '%')
  let zone := cs.dropWhile (· ≠ '%')
  !cs.contains '/' && (zone.isEmpty || (zone.length != 1 && !(zone.drop 1).contains '%')) &&
    (colonParts? address).any arePlaces

end Address

end FeatureFlags
