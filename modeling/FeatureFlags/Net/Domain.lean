import FeatureFlags.Net.Label.Check
import FeatureFlags.Net.Punycode

/-!
# `FeatureFlags.Net.Domain` — domain names with characters outside ASCII

A domain name consists of labels between dots.  In ASCII, a label with other characters is written
in Punycode behind `xn--`.  Both forms of a label are checked: what stands in Punycode must spell a
label.

## Contents

1. Errors
2. Labels
3. Names
-/

namespace FeatureFlags

namespace Domain

/-! ## Errors -/

/-- What is wrong with a domain name. -/
inductive Fault where
  | empty
  | tooLong
  | label (fault : Label.Fault)
  deriving DecidableEq

namespace Fault

/-- The sort of a fault. -/
def sort : Fault → Label.FaultSort
  | .label fault => fault.sort
  | _ => .label

/-- The wording of a fault. -/
def message : Fault → String
  | .empty => "Empty domain"
  | .tooLong => "Domain too long"
  | .label fault => fault.message

end Fault

/-! ## Labels -/

/-- What stands before a label in Punycode. -/
def sign : List Char := "xn--".toList

/-- Whether a text is ASCII. -/
def isAscii (cs : List Char) : Bool := cs.all fun c => c.toNat < 0x80

/-- The label that an ASCII text stands for. -/
def decodeLabel (cs : List Char) : Except Label.Fault (List Nat) := do
  let cs := cs.map Char.toLower
  let label ←
    if sign.isPrefixOf cs then
      let spelling := cs.drop sign.length
      if spelling.isEmpty then throw .punycodeEmpty
      if spelling.getLast? = some '-' then throw .punycodeHyphen
      match Punycode.decode? spelling with
      | some codes => pure codes
      | none => throw .punycodeMalformed
    else pure (cs.map Char.toNat)
  Label.check label
  return label

/-- How many characters a label may have in ASCII. -/
def maxLabel : Nat := 63

/-- A label in ASCII. -/
def encodeLabel (cs : List Char) : Except Label.Fault (List Char) := do
  let written ←
    if isAscii cs then do
      let _ ← decodeLabel cs
      pure cs
    else do
      Label.check (cs.map Char.toNat)
      pure (sign ++ Punycode.encode cs)
  if maxLabel < written.length then throw .tooLong
  return written

/-! ## Names -/

/-- Whether a character separates labels. -/
def isDot (c : Char) : Bool := ['.', '\u3002', '\uFF0E', '\uFF61'].contains c

/-- How many characters a name may have; a dot at its end does not count. -/
def maxName : Nat := 253

/-- The labels of a name, and whether a dot ends it. -/
def labels (cs : List Char) : Except Fault (List (List Char) × Bool) :=
  if maxName + 1 < cs.length then .error .tooLong
  else
    match cs.splitOnP isDot with
    | [[]] => .error .empty
    | parts =>
      if parts.getLast? = some [] then .ok (parts.dropLast, true) else .ok (parts, false)

/-- Joins labels by dots. -/
def join (parts : List (List Char)) (dotted : Bool) : List Char :=
  ['.'].intercalate parts ++ if dotted then ['.'] else []

/-- A domain name in ASCII. -/
def encode (cs : List Char) : Except Fault (List Char) := do
  let (parts, dotted) ← labels cs
  let written ← parts.mapM fun part => (encodeLabel part).mapError .label
  let name := join written dotted
  if (if dotted then maxName + 1 else maxName) < name.length then throw .tooLong
  return name

/-- The domain name that an ASCII text stands for. -/
def decode (cs : List Char) : Except Fault (List Char) := do
  let (parts, dotted) ← labels cs
  let read ← parts.mapM fun part => (decodeLabel part).mapError .label
  return join (read.map fun codes => codes.map Char.ofNat) dotted

end Domain

end FeatureFlags
