import FeatureFlags.Text.Numeral
import FeatureFlags.Text.Utf8
import FeatureFlags.Yaml.Cursor

/-!
# `FeatureFlags.Yaml.Scalar` — the three ways of writing a scalar

A quoted scalar folds its line breaks and, between double quotes, knows escapes.  A block scalar
takes its lines from the indentation of the first one.  A plain scalar ends where an indicator, a
comment or a line that is indented too little begins.

## Contents

1. Quoted scalars
2. Block scalars
3. Plain scalars
-/

namespace FeatureFlags

namespace Yaml

open Scan

/-! ## Quoted scalars -/

/-- The breaks after a first one.  A document must not end inside a quoted scalar. -/
def quotedBreaks : Nat → Scan (List Char)
  | 0 => return []
  | fuel + 1 => do
    if (← get).atDocumentEdge then fail
    let _ ← takeWhile fun c => c == ' ' || c == '\t'
    match ← takeBreak with
    | [] => return []
    | b => return b ++ (← quotedBreaks fuel)

/-- What a break and the breaks after it fold to. -/
def folded (first more : List Char) : List Char :=
  if first ≠ ['\n'] then first ++ more
  else if more.isEmpty then [' ']
  else more

/-- The gap between two words of a quoted scalar. -/
def quotedGap : Scan (List Char) := do
  let blanks ← takeWhile fun c => c == ' ' || c == '\t'
  if (← peek).isNone then fail
  match ← takeBreak with
  | [] => return blanks
  | b => return folded b (← quotedBreaks (← bound))

/-- The character that a one-letter escape stands for. -/
def simpleEscape? : Char → Option Char
  | '0' => some '\x00'
  | 'a' => some '\x07'
  | 'b' => some '\x08'
  | 't' | '\t' => some '\t'
  | 'n' => some '\n'
  | 'v' => some '\x0B'
  | 'f' => some '\x0C'
  | 'r' => some '\r'
  | 'e' => some '\x1B'
  | ' ' => some ' '
  | '"' => some '"'
  | '\\' => some '\\'
  | '/' => some '/'
  | 'N' => some '\u0085'
  | '_' => some '\u00A0'
  | 'L' => some '\u2028'
  | 'P' => some '\u2029'
  | _ => none

/-- How many hexadecimal digits follow the letter of an escape. -/
def escapeWidth? : Char → Option Nat
  | 'x' => some 2
  | 'u' => some 4
  | 'U' => some 8
  | _ => none

/-- The number that hexadecimal digits spell. -/
def hexValue (digits : List Char) : Nat :=
  digits.foldl (fun n c => 16 * n + (Numeral.digitValue? c).getD 0) 0

/-- Reads so many hexadecimal digits. -/
def hexCode (width : Nat) : Scan Nat := do
  let digits := (← get).rest.take width
  if digits.length = width && digits.all isHexDigit then
    forward width
    return hexValue digits
  else fail

/-- The second half of a character that is written as a pair of surrogates, if it follows. -/
def lowSurrogate? (rest : List Char) : Option Nat :=
  match rest with
  | '\\' :: 'u' :: more =>
    let digits := more.take 4
    let code := hexValue digits
    if digits.length = 4 ∧ digits.all isHexDigit ∧ 0xDC00 ≤ code ∧ code < 0xE000 then some code
    else none
  | _ => none

/-- The character of a code point that an escape gives. -/
def escapedChar (code : Nat) : Scan Char := do
  if code > 0x7FFFFFFF then
    throw (.value ⟨.overflow, "Python int too large to convert to C int"⟩)
  else if code > 0x10FFFF then
    throw (.value ⟨.value, "chr() arg not in range(0x110000)"⟩)
  else if 0xD800 ≤ code ∧ code < 0xDC00 then
    match lowSurrogate? (← get).rest with
    | some low =>
      forward 6
      return Char.ofNat (0x10000 + (code - 0xD800) * 0x400 + (low - 0xDC00))
    | none => return Utf8.replacement
  else if 0xDC00 ≤ code ∧ code < 0xE000 then return Utf8.replacement
  else return Char.ofNat code

/-- What an escape stands for; the backslash has been taken. -/
def escape : Scan (List Char) := do
  match ← peek with
  | none => fail
  | some c =>
    if isBreak c then
      let _ ← takeBreak
      quotedBreaks (← bound)
    else
      match simpleEscape? c, escapeWidth? c with
      | some e, _ =>
        forward 1
        return [e]
      | none, some width =>
        forward 1
        return [← escapedChar (← hexCode width)]
      | none, none => fail

/-- The characters up to the next gap or the closing quote. -/
def quotedWord (double : Bool) : Nat → Scan (List Char)
  | 0 => return []
  | fuel + 1 => do
    let plain ← takeWhile fun c => !isGap c && c != '\'' && c != '"' && c != '\\'
    match ← peek with
    | some '\'' =>
      if double then
        forward 1
        return plain ++ '\'' :: (← quotedWord double fuel)
      else if (← peekAt 1) == some '\'' then
        forward 2
        return plain ++ '\'' :: (← quotedWord double fuel)
      else return plain
    | some '"' =>
      if double then return plain
      else
        forward 1
        return plain ++ '"' :: (← quotedWord double fuel)
    | some '\\' =>
      forward 1
      if double then
        let e ← escape
        return plain ++ e ++ (← quotedWord double fuel)
      else return plain ++ '\\' :: (← quotedWord double fuel)
    | _ => return plain

/-- The words and gaps up to the closing quote. -/
def quotedRest (quote : Char) : Nat → Scan (List Char)
  | 0 => fail
  | fuel + 1 => do
    let word ← quotedWord (quote == '"') (← bound)
    if (← peek) == some quote then
      forward 1
      return word
    else
      let gap ← quotedGap
      return word ++ gap ++ (← quotedRest quote fuel)

/-- A quoted scalar, from its opening quote on. -/
def quotedScalar (quote : Char) : Scan (List Char) := do
  forward 1
  quotedRest quote (← bound)

/-! ## Block scalars -/

/-- What becomes of the breaks at the end of a block scalar. -/
inductive Chomping where
  | strip
  | clip
  | keep

/-- The mark of a chomping. -/
def chomping? : Option Char → Option Chomping
  | some '+' => some .keep
  | some '-' => some .strip
  | _ => none

/-- The digit that gives the indentation of a block scalar, if there is one. -/
def indentDigit : Scan (Option Nat) := do
  match ← peek with
  | some c =>
    if c.isDigit then
      if c = '0' then fail
      forward 1
      return some (c.toNat - '0'.toNat)
    else return none
  | none => return none

/-- The marks in the head of a block scalar, in either order. -/
def blockHead : Scan (Chomping × Option Nat) := do
  let head ←
    match chomping? (← peek) with
    | some chomping =>
      forward 1
      pure (chomping, ← indentDigit)
    | none =>
      match ← indentDigit with
      | none => pure (Chomping.clip, none)
      | some digit =>
        match chomping? (← peek) with
        | some chomping =>
          forward 1
          pure (chomping, some digit)
        | none => pure (Chomping.clip, some digit)
  if endsField (← peek) then return head else fail

/-- Skips the blank lines before a block scalar whose indentation is not given, and measures it. -/
def measureIndent : Nat → Scan (List Char × Nat)
  | 0 => return ([], 0)
  | fuel + 1 => do
    match ← peek with
    | some ' ' =>
      forward 1
      let column := (← get).column
      let (breaks, widest) ← measureIndent fuel
      return (breaks, max column widest)
    | _ =>
      match ← takeBreak with
      | [] => return ([], 0)
      | b =>
        let (breaks, widest) ← measureIndent fuel
        return (b ++ breaks, widest)

/-- Skips blanks up to a column. -/
def skipIndent (indent : Nat) : Scan Unit := do
  let cur ← get
  forward (min (indent - cur.column) (cur.rest.takeWhile (· == ' ')).length)

/-- Skips the blank lines inside a block scalar, and the indentation of the line after them. -/
def blockBreaks (indent : Nat) : Nat → Scan (List Char)
  | 0 => return []
  | fuel + 1 => do
    skipIndent indent
    match ← takeBreak with
    | [] => return []
    | b => return b ++ (← blockBreaks indent fuel)

/-- The lines of a block scalar, from the first on.  The last break and the breaks after it are
given apart. -/
def blockLines (fold : Bool) (indent : Nat) (before : List Char) :
    Nat → Scan (List Char × List Char × List Char)
  | 0 => return ([], [], before)
  | fuel + 1 => do
    if (← get).column ≠ indent || (← peek).isNone then return ([], [], before)
    let isBlank (c : Option Char) : Bool := c == some ' ' || c == some '\t'
    let indented := isBlank (← peek)
    let line ← takeWhile fun c => !isBreak c
    let last ← takeBreak
    let breaks ← blockBreaks indent (← bound)
    if (← get).column = indent && (← peek).isSome then
      let joint :=
        if fold && last == ['\n'] && !indented && !isBlank (← peek) then
          if breaks.isEmpty then [' '] else []
        else last
      let (more, last, tail) ← blockLines fold indent breaks fuel
      return (before ++ line ++ joint ++ more, last, tail)
    else return (before ++ line, last, breaks)

/-- A block scalar, from its indicator on, inside a block of the given indentation. -/
def blockScalar (fold : Bool) (outer : Int) : Scan (List Char) := do
  forward 1
  let (chomping, digit) ← blockHead
  endLine
  let least := (max (outer + 1) 1).toNat
  let (breaks, indent) ←
    match digit with
    | none => do
      let (breaks, widest) ← measureIndent (← bound)
      pure (breaks, max least widest)
    | some d => do
      let indent := least + d - 1
      pure (← blockBreaks indent (← bound), indent)
  let (text, last, tail) ← blockLines fold indent breaks (← bound)
  match chomping with
  | .strip => return text
  | .clip => return text ++ last
  | .keep => return text ++ last ++ tail

/-! ## Plain scalars -/

/-- The indicators of flow collections that end a plain scalar. -/
def flowIndicators : List Char := [',', '?', '[', ']', '\x7b', '\x7d']

/-- The indicators of flow collections that make a colon end a plain scalar. -/
def flowEdges : List Char := [',', '[', ']', '\x7b', '\x7d']

/-- How far a word of a plain scalar goes. -/
def plainWordLength (inFlow : Bool) : List Char → Nat
  | [] => 0
  | c :: rest =>
    let ends :=
      isGap c ||
      (c == ':' && (endsWord rest.head? || (inFlow && rest.head?.any flowEdges.contains))) ||
      (inFlow && flowIndicators.contains c)
    if ends then 0 else plainWordLength inFlow rest + 1

/-- The breaks and blanks before the next line of a plain scalar, none if a document ends. -/
def plainBreaks : Nat → Scan (Option (List Char))
  | 0 => return some []
  | fuel + 1 => do
    skipBlanks
    match ← takeBreak with
    | [] => return some []
    | b =>
      if (← get).atDocumentEdge then return none
      return (← plainBreaks fuel).map (b ++ ·)

/-- The gap after a word of a plain scalar, and whether the line ended in it.  An empty gap ends the
scalar. -/
def plainGap : Scan (List Char × Bool) := do
  let blanks ← takeWhile (· == ' ')
  match ← takeBreak with
  | [] => return (blanks, false)
  | b =>
    if (← get).atDocumentEdge then return ([], true)
    match ← plainBreaks (← bound) with
    | none => return ([], true)
    | some more => return (folded b more, true)

/-- The words of a plain scalar after the given gap, and whether a line ended after the last. -/
def plainRest (inFlow : Bool) (indent : Int) (gap : List Char) (broke : Bool) :
    Nat → Scan (List Char × Bool)
  | 0 => return ([], broke)
  | fuel + 1 => do
    if (← peek) == some '#' then return ([], broke)
    let length := plainWordLength inFlow (← get).rest
    if length = 0 then return ([], broke)
    let word := (← get).rest.take length
    forward length
    let (next, broke) ← plainGap
    if next.isEmpty || (← peek) == some '#' || (!inFlow && (← get).column < indent) then
      return (gap ++ word, broke)
    let (more, broke) ← plainRest inFlow indent next broke fuel
    return (gap ++ word ++ more, broke)

/-- A plain scalar inside a block of the given indentation, and whether a line ended after it. -/
def plainScalar (inFlow : Bool) (outer : Int) : Scan (List Char × Bool) := do
  plainRest inFlow (outer + 1) [] false (← bound)

end Yaml

end FeatureFlags
