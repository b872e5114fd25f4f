import FeatureFlags.Pattern.Syntax
import FeatureFlags.Text.CharacterName
import FeatureFlags.Text.Numeral

/-!
# `FeatureFlags.Pattern.Reader` — reading a pattern

Reading goes token by token, where a backslash and the character after it are one token, and looks
one token ahead.  Sequences that start alike share their start, and sequences of one character each
become a set, so that a branch is kept only where one is needed.

## Contents

1. Tokens and the state of a reading
2. Escapes
3. Character sets
4. Repetition counts, names and flags
5. Sequences and alternatives
6. Whole patterns
-/

namespace FeatureFlags

namespace Pattern

/-! ## Tokens and the state of a reading -/

/-- A token. -/
inductive Token where
  | plain (c : Char)
  | escaped (c : Char)
  /-- A backslash at the end. -/
  | dangling
  deriving DecidableEq

namespace Token

/-- The tokens of a text. -/
def ofText : List Char → List Token
  | [] => []
  | ['\\'] => [.dangling]
  | '\\' :: c :: rest => .escaped c :: ofText rest
  | c :: rest => .plain c :: ofText rest

/-- The text of a token. -/
def chars : Token → List Char
  | .plain c => [c]
  | .escaped c => ['\\', c]
  | .dangling => ['\\']

end Token

/-- The state of a reading. -/
structure ReaderState where
  /-- What is left, the token that is looked at first. -/
  rest : List Token
  /-- The flags of the whole pattern. -/
  flags : Flags := {}
  names : List (String × Nat) := []
  /-- The width of each group, absent while it is open; group 0 is the whole pattern. -/
  widths : Array (Option Width) := #[none]
  /-- The number of groups before the lookbehind that is being read. -/
  lookbehind : Option Nat := none
  /-- Groups that conditions refer to by number. -/
  references : List Nat := []
  /-- How deeply what is being read is nested. -/
  depth : Nat := 0

/-- A step of a reading. -/
abbrev Reader := StateT ReaderState (Except PatternError)

namespace Reader

/-- Gives up. -/
def fail {α : Type} : Reader α := throw .invalid

/-- The token ahead. -/
def peek : Reader (Option Token) := return (← get).rest.head?

/-- Makes what is left start with another token; a lone backslash is not looked at. -/
def moveTo (rest : List Token) : Reader Unit := do
  if rest.head? = some .dangling then fail
  modify fun s => { s with rest := rest }

/-- Takes the token ahead. -/
def next : Reader (Option Token) := do
  match (← get).rest with
  | [] => return none
  | t :: rest =>
    moveTo rest
    return some t

/-- Takes the token ahead if it is the given character. -/
def accept (c : Char) : Reader Bool := do
  if (← peek) = some (.plain c) then
    let _ ← next
    return true
  return false

/-- Takes at most `n` characters of a kind. -/
def takeChars (kind : Char → Bool) : Nat → Reader (List Char)
  | 0 => return []
  | n + 1 => do
    match ← peek with
    | some (.plain c) =>
      if kind c then
        let _ ← next
        return c :: (← takeChars kind n)
      return []
    | _ => return []

/-- Takes all characters of a kind. -/
def takeAll (kind : Char → Bool) : Reader (List Char) := do
  takeChars kind (← get).rest.length

/-- Takes what comes before a character, and the character. -/
def takeUntil (stop : Char) : Nat → Reader (List Char)
  | 0 => fail
  | n + 1 => do
    match ← next with
    | none => fail
    | some t => if t = .plain stop then return [] else return t.chars ++ (← takeUntil stop n)

/-- Takes a name that ends at a character. -/
def name (stop : Char) : Reader (List Char) := do
  let chars ← takeUntil stop ((← get).rest.length + 1)
  if chars.isEmpty then fail
  return chars

/-- The number of groups, the whole pattern included. -/
def groupCount : Reader Nat := return (← get).widths.size

/-- Whether a group has been closed. -/
def isClosed (index : Nat) : Reader Bool := do
  return ((← get).widths[index]?.join).isSome

/-- A reference inside a lookbehind must be to a group closed before it. -/
def checkLookbehind (index : Nat) : Reader Unit := do
  match (← get).lookbehind with
  | none => return ()
  | some groups =>
    unless ← isClosed index do fail
    if index ≥ groups then fail

/-! ## Escapes -/

/-- Hexadecimal digits. -/
def isHexDigit (c : Char) : Bool :=
  ('0' ≤ c && c ≤ '9') || ('a' ≤ c && c ≤ 'f') || ('A' ≤ c && c ≤ 'F')

/-- Octal digits. -/
def isOctalDigit (c : Char) : Bool := '0' ≤ c && c ≤ '7'

/-- Decimal digits. -/
def isDigit (c : Char) : Bool := '0' ≤ c && c ≤ '9'

/-- ASCII letters. -/
def isLetter (c : Char) : Bool := ('a' ≤ c && c ≤ 'z') || ('A' ≤ c && c ≤ 'Z')

/-- The number that digits of a base denote. -/
def numberOf (base : Nat) (digits : List Char) : Nat :=
  Numeral.value base digits

/-- Exactly `n` hexadecimal digits. -/
def hexCode (n : Nat) : Reader Nat := do
  let digits ← takeChars isHexDigit n
  if digits.length ≠ n then fail
  return numberOf 16 digits

/-- The character that an escape by code point or by name stands for. -/
def codeEscape? (c : Char) : Option (Reader Nat) :=
  match c with
  | 'x' => some (hexCode 2)
  | 'u' => some (hexCode 4)
  | 'U' => some do
    let code ← hexCode 8
    if code ≥ 0x80000000 then throw .codeTooLarge
    if code ≥ 0x110000 then fail
    return code
  | 'N' => some do
    unless ← accept '\x7b' do fail
    let chars ← name '\x7d'
    match CharacterName.lookUp? (String.ofList chars) with
    | some code => return code
    | none => fail
  | _ => none

/-- The character that a letter after a backslash stands for. -/
def controlEscape? : Char → Option Nat
  | 'a' => some 7
  | 'b' => some 8
  | 'f' => some 12
  | 'n' => some 10
  | 'r' => some 13
  | 't' => some 9
  | 'v' => some 11
  | '\\' => some 0x5C
  | _ => none

/-- The class that a letter after a backslash stands for. -/
def classEscape? : Char → Option SetMember
  | 'd' => some (.inClass .digit false)
  | 'D' => some (.inClass .digit true)
  | 's' => some (.inClass .space false)
  | 'S' => some (.inClass .space true)
  | 'w' => some (.inClass .word false)
  | 'W' => some (.inClass .word true)
  | _ => none

/-- The anchor that a letter after a backslash stands for. -/
def anchorEscape? : Char → Option Anchor
  | 'A' => some .textStart
  | 'b' => some .wordBoundary
  | 'B' => some .notWordBoundary
  | 'Z' => some .textEnd
  | _ => none

/-- The escape of a character that has no meaning of its own. -/
def plainEscape (c : Char) : Reader Nat :=
  if isLetter c || isDigit c then fail else return c.toNat

/-- An escape in a set. -/
def setEscape (c : Char) : Reader SetMember := do
  match controlEscape? c, classEscape? c, codeEscape? c with
  | some code, _, _ => return .char code
  | _, some member, _ => return member
  | _, _, some read => return .char (← read)
  | none, none, none =>
    if isOctalDigit c then
      let code := numberOf 8 (c :: (← takeChars isOctalDigit 2))
      if code > 0o377 then fail
      return .char code
    return .char (← plainEscape c)

/-- A reference to a closed group. -/
def groupReference (index : Nat) : Reader Item := do
  unless ← isClosed index do fail
  checkLookbehind index
  return .backref index

/-- An escape that starts with a digit other than zero: three octal digits are a character, one or
two decimal digits a reference. -/
def digitEscape (c : Char) : Reader Item := do
  match ← peek with
  | some (.plain d) =>
    if isDigit d then
      let _ ← next
      if isOctalDigit c && isOctalDigit d then
        match ← peek with
        | some (.plain e) =>
          if isOctalDigit e then
            let _ ← next
            let code := numberOf 8 [c, d, e]
            if code > 0o377 then fail
            return .char code
        | _ => pure ()
      return ← groupReference (numberOf 10 [c, d])
    return ← groupReference (numberOf 10 [c])
  | _ => groupReference (numberOf 10 [c])

/-- An escape outside sets. -/
def escape (c : Char) : Reader Item := do
  match anchorEscape? c, classEscape? c, controlEscape? c, codeEscape? c with
  | some a, _, _, _ => return .anchor a
  | _, some member, _, _ => return .set false [member]
  | _, _, some code, _ => return .char code
  | _, _, _, some read => return .char (← read)
  | none, none, none, none =>
    if c = '0' then
      return .char (numberOf 8 (c :: (← takeChars isOctalDigit 2)))
    if isDigit c then
      return ← digitEscape c
    return .char (← plainEscape c)

/-! ## Character sets -/

/-- A member that is one character or one class. -/
def setMember (t : Token) : Reader SetMember :=
  match t with
  | .plain c => return .char c.toNat
  | .escaped c => setEscape c
  | .dangling => fail

/-- The members of a set, up to its end; a bracket right at the start is a member. -/
def setMembers : Nat → List SetMember → Reader (List SetMember)
  | 0, _ => fail
  | fuel + 1, members => do
    let some this ← next | fail
    if this = .plain ']' && !members.isEmpty then return members.reverse
    let first ← setMember this
    if ← accept '-' then
      let some that ← next | fail
      if that = .plain ']' then return (.char 0x2D :: first :: members).reverse
      let second ← setMember that
      match first, second with
      | .char low, .char high =>
        if high < low then fail
        setMembers fuel (.range low high :: members)
      | _, _ => fail
    else setMembers fuel (first :: members)

/-- A set; one that lists a single character is that character. -/
def set : Reader Item := do
  let negated ← accept '^'
  let members ← setMembers ((← get).rest.length + 1) []
  match members.eraseDups with
  | [.char code] => return if negated then .notChar code else .char code
  | distinct => return .set negated distinct

/-! ## Repetition counts, names and flags -/

/-- Counts from here on are too large. -/
def countLimit : Nat := 0xFFFFFFFF

/-- Counts with more digits than this are not read. -/
def countDigits : Nat := 4300

/-- The number of a count. -/
def count (digits : List Char) : Reader Nat := do
  if digits.length > countDigits then throw (.countTooLong digits.length)
  let n := numberOf 10 digits
  if n ≥ countLimit then throw .repetitionTooLarge
  return n

/-- The bounds in braces after an opening brace, or nothing when the brace is a character. -/
def bounds : Reader (Option (Nat × Option Nat)) := do
  if (← peek) = some (.plain '\x7d') then return none
  let here := (← get).rest
  let low ← takeAll isDigit
  let high ← if ← accept ',' then takeAll isDigit else pure low
  unless ← accept '\x7d' do
    moveTo here
    return none
  let least ← if low.isEmpty then pure 0 else count low
  if high.isEmpty then return some (least, none)
  let most ← count high
  if most < least then fail
  return some (least, some most)

/-- How a repetition is tried, by the character after it. -/
def repeatKind : Reader RepeatKind := do
  if ← accept '?' then return .lazily
  if ← accept '+' then return .possessive
  return .greedy

/-- Repeats the last of the items read so far, which are kept in reverse. -/
def repeatLast (least : Nat) (most : Option Nat) (items : List Item) : Reader (List Item) := do
  match items with
  | [] => fail
  | .anchor _ :: _ => fail
  | .repeated _ _ _ _ :: _ => fail
  | item :: before =>
    let body :=
      match item with
      | .group none added removed body =>
        if added = .none ∧ removed = .none then body else [item]
      | _ => [item]
    return .repeated (← repeatKind) least most body :: before

/-- Opens a group. -/
def openGroup (groupName : Option (List Char)) : Reader Nat := do
  let index ← groupCount
  match groupName with
  | none => pure ()
  | some chars =>
    let key := String.ofList chars
    if ((← get).names.lookup key).isSome then fail
    modify fun s => { s with names := (key, index) :: s.names }
  modify fun s => { s with widths := s.widths.push none }
  return index

/-- The width of a closed group. -/
def groupWidth (s : ReaderState) (index : Nat) : Width := s.widths[index]?.join.getD ⟨0, 0⟩

/-- Closes a group. -/
def closeGroup (index : Nat) (body : List Item) : Reader Unit :=
  modify fun s =>
    let width := (sequenceWidth (groupWidth s) body).cut
    { s with widths := s.widths.setIfInBounds index (some width) }

/-- A name of a group. -/
def groupName (stop : Char) : Reader (List Char) := do
  let chars ← name stop
  unless Text.isIdentifier chars do fail
  return chars

/-- The group that a condition names or counts. -/
def conditionGroup : Reader Nat := do
  let chars ← name ')'
  let index ←
    if Text.isIdentifier chars then
      match (← get).names.lookup (String.ofList chars) with
      | some index => pure index
      | none => fail
    else
      match Numeral.readInteger 10 chars with
      | .ok (.ofNat (n + 1)) =>
        modify fun s => { s with references := (n + 1) :: s.references }
        pure (n + 1)
      | _ => fail
  checkLookbehind index
  return index

/-- The flag of a letter. -/
def flag? : Char → Option Flags
  | 'i' => some { ignoreCase := true }
  | 'm' => some { multiline := true }
  | 's' => some { dotAll := true }
  | 'x' => some { verbose := true }
  | 'a' => some { ascii := true }
  | 't' => some { template := true }
  | 'u' => some { unicode := true }
  | _ => none

/-- Whether a flag chooses what characters are. -/
def choosesText (f : Flags) : Bool := f.ascii || f.unicode

/-- The flags to add, from a letter on, and the character after them. -/
def addedFlags : Nat → Flags → Char → Reader (Flags × Char)
  | 0, _, _ => fail
  | fuel + 1, added, c => do
    match flag? c with
    | none => fail
    | some f =>
      let added := added.union f
      if choosesText f && added.ascii && added.unicode then fail
      match ← next with
      | some (.plain d) =>
        if d = ')' ∨ d = '-' ∨ d = ':' then return (added, d)
        addedFlags fuel added d
      | _ => fail

/-- The flags to remove, from a letter on, up to a colon. -/
def removedFlags : Nat → Flags → Char → Reader Flags
  | 0, _, _ => fail
  | fuel + 1, removed, c => do
    match flag? c with
    | none => fail
    | some f =>
      if choosesText f then fail
      let removed := removed.union f
      match ← next with
      | some (.plain d) => if d = ':' then return removed else removedFlags fuel removed d
      | _ => fail

/-- Flags after `(?`: those that a group adds and removes, or none when they are for the whole
pattern. -/
def flagChange (c : Char) : Reader (Option (Flags × Flags)) := do
  let fuel := (← get).rest.length + 1
  let (added, stop) ← if c = '-' then pure (Flags.none, '-') else addedFlags fuel .none c
  if stop = ')' then
    modify fun s => { s with flags := s.flags.union added }
    return none
  if added.template then fail
  let removed ←
    if stop = '-' then
      match ← next with
      | some (.plain d) => removedFlags fuel .none d
      | _ => fail
    else pure .none
  if removed.template then fail
  if added.meets removed then fail
  return some (added, removed)

/-! ## Sequences and alternatives -/

/-- The items that all sequences start with, and what is left of the first and of the others. -/
def splitCommon : List Item → List (List Item) → List Item × List Item × List (List Item)
  | [], others => ([], [], others)
  | item :: rest, others =>
    if others.all fun other => (other.head?.map item.sameLeaf).getD false then
      let (common, first, others) := splitCommon rest (others.map List.tail)
      (item :: common, first, others)
    else ([], item :: rest, others)

/-- The members of a sequence that is one character or one set. -/
def asMembers : List Item → Option (List SetMember)
  | [.char code] => some [.char code]
  | [.set false members] => some members
  | _ => none

/-- One of several sequences, as items. -/
def alternatives (first : List Item) (others : List (List Item)) : List Item :=
  if others.isEmpty then first
  else
    let (common, first, others) := splitCommon first others
    match (first :: others).mapM asMembers with
    | some members => common ++ [.set false members.flatten.eraseDups]
    | none => common ++ [.branch (first :: others)]

/-- Puts the items of groups that do nothing in the place of the groups. -/
def unwrap (items : List Item) : List Item :=
  items.flatMap fun item =>
    match item with
    | .group none added removed body =>
      if added = .none ∧ removed = .none then body else [item]
    | _ => [item]

/-- White space between items of a verbose pattern. -/
def isBlank (c : Char) : Bool := c == ' ' || ('\t' ≤ c && c ≤ '\r')

/-- Takes a comment of a verbose pattern, up to the end of its line. -/
def lineComment : Nat → Reader Unit
  | 0 => return ()
  | n + 1 => do
    match ← next with
    | none => return ()
    | some t => if t = .plain '\n' then return () else lineComment n

/-- Takes a comment group. -/
def commentGroup : Nat → Reader Unit
  | 0 => fail
  | n + 1 => do
    match ← next with
    | none => fail
    | some t => if t = .plain ')' then return () else commentGroup n

/-- How deep sequences may lie. -/
def maxDepth : Nat := 986

/-- Reads what lies deeper by some steps: the sequences of a group by two, those of a conditional
by one. -/
def nested {α : Type} (steps : Nat) (body : Reader α) : Reader α := do
  let outer := (← get).depth
  if maxDepth < outer + steps then throw .tooDeep
  modify fun s => { s with depth := outer + steps }
  let x ← body
  modify fun s => { s with depth := outer }
  return x

/-- Demands the end of a group. -/
def closing : Reader Unit := do
  unless ← accept ')' do fail

mutual

/-- Alternatives, up to the end of the group or of the pattern.  Only the first sequence of the
whole pattern may start with flags for the whole pattern. -/
def readAlternatives : Nat → (verbose top : Bool) → Reader (List Item)
  | 0, _, _ => fail
  | fuel + 1, verbose, top => do
    let first ← readItems fuel verbose top []
    let others ← readOthers fuel verbose top
    return alternatives first others

/-- The alternatives after the first. -/
def readOthers : Nat → (verbose top : Bool) → Reader (List (List Item))
  | 0, _, _ => fail
  | fuel + 1, verbose, top => do
    unless ← accept '|' do return []
    let verbose ← if top then pure (← get).flags.verbose else pure verbose
    let items ← readItems fuel verbose false []
    return items :: (← readOthers fuel verbose top)

/-- A sequence of items after those read so far, which are kept in reverse. -/
def readItems : Nat → (verbose first : Bool) → List Item → Reader (List Item)
  | 0, _, _, _ => fail
  | fuel + 1, verbose, first, items => do
    match ← peek with
    | none | some (.plain '|') | some (.plain ')') => return unwrap items.reverse
    | some this =>
      let _ ← next
      match this with
      | .dangling => fail
      | .escaped c => readItems fuel verbose first ((← escape c) :: items)
      | .plain c =>
        if verbose && isBlank c then readItems fuel verbose first items
        else if verbose && c == '#' then
          lineComment (← get).rest.length
          readItems fuel verbose first items
        else match c with
        | '[' => readItems fuel verbose first ((← set) :: items)
        | '.' => readItems fuel verbose first (.any :: items)
        | '^' => readItems fuel verbose first (.anchor .lineStart :: items)
        | '$' => readItems fuel verbose first (.anchor .lineEnd :: items)
        | '?' => readItems fuel verbose first (← repeatLast 0 (some 1) items)
        | '*' => readItems fuel verbose first (← repeatLast 0 none items)
        | '+' => readItems fuel verbose first (← repeatLast 1 none items)
        | '\x7b' =>
          match ← bounds with
          | none => readItems fuel verbose first (.char c.toNat :: items)
          | some (least, most) =>
            readItems fuel verbose first (← repeatLast least most items)
        | '(' =>
          if ← accept '?' then readExtension fuel verbose first items
          else
            let item ← readCapture fuel verbose none
            readItems fuel verbose first (item :: items)
        | _ => readItems fuel verbose first (.char c.toNat :: items)

/-- A capturing group, after its opening. -/
def readCapture : Nat → (verbose : Bool) → Option (List Char) → Reader Item
  | 0, _, _ => fail
  | fuel + 1, verbose, groupName => do
    let index ← openGroup groupName
    let body ← nested 2 (readAlternatives fuel verbose false)
    closing
    closeGroup index body
    return .group (some index) .none .none body

/-- What follows `(?`, and the items after it. -/
def readExtension : Nat → (verbose first : Bool) → List Item → Reader (List Item)
  | 0, _, _, _ => fail
  | fuel + 1, verbose, first, items => do
    let some (.plain c) ← next | fail
    match c with
    | 'P' =>
      if ← accept '<' then
        let chars ← groupName '>'
        let item ← readCapture fuel verbose (some chars)
        readItems fuel verbose first (item :: items)
      else if ← accept '=' then
        let chars ← groupName ')'
        match (← get).names.lookup (String.ofList chars) with
        | none => fail
        | some index => readItems fuel verbose first ((← groupReference index) :: items)
      else fail
    | ':' =>
      let body ← nested 2 (readAlternatives fuel verbose false)
      closing
      readItems fuel verbose first (.group none .none .none body :: items)
    | '#' =>
      commentGroup ((← get).rest.length + 1)
      readItems fuel verbose first items
    | '=' | '!' =>
      let body ← nested 2 (readAlternatives fuel verbose false)
      closing
      readItems fuel verbose first (.look true (c == '=') body :: items)
    | '<' =>
      let some (.plain d) ← next | fail
      unless d = '=' ∨ d = '!' do fail
      let outer := (← get).lookbehind
      if outer.isNone then
        let groups ← groupCount
        modify fun s => { s with lookbehind := some groups }
      let body ← nested 2 (readAlternatives fuel verbose false)
      modify fun s => { s with lookbehind := outer }
      closing
      readItems fuel verbose first (.look false (d == '=') body :: items)
    | '(' =>
      let index ← conditionGroup
      let yes ← nested 1 (readItems fuel verbose false [])
      let no ←
        if ← accept '|' then
          let no ← nested 1 (readItems fuel verbose false [])
          if (← peek) = some (.plain '|') then fail
          pure no
        else pure []
      closing
      readItems fuel verbose first (.conditional index yes no :: items)
    | '>' =>
      let body ← nested 2 (readAlternatives fuel verbose false)
      closing
      readItems fuel verbose first (.atomic body :: items)
    | _ =>
      if (flag? c).isNone && c != '-' then fail
      match ← flagChange c with
      | none =>
        unless first && items.isEmpty do fail
        readItems fuel (← get).flags.verbose first items
      | some (added, removed) =>
        let inner := (verbose || added.verbose) && !removed.verbose
        let body ← nested 2 (readAlternatives fuel inner false)
        closing
        readItems fuel verbose first (.group none added removed body :: items)

end

end Reader

/-! ## Whole patterns -/

/-- A pattern that has been read. -/
structure Parsed where
  items : List Item
  flags : Flags
  /-- The number of capturing groups. -/
  groups : Nat
  groupWidth : Nat → Width

/-- Reads a pattern. -/
def read (text : List Char) : Except PatternError Parsed := do
  let tokens := Token.ofText text
  if tokens.head? = some .dangling then throw .invalid
  let fuel := 4 * (tokens.length + 2)
  let (items, s) ← (Reader.readAlternatives fuel false true).run { rest := tokens }
  if s.flags.ascii && s.flags.unicode then throw .flagsIncompatible
  unless s.rest.isEmpty do throw .invalid
  if s.references.any (· ≥ s.widths.size) then throw .invalid
  let flags := if s.flags.ascii then s.flags else { s.flags with unicode := true }
  return ⟨items, flags, s.widths.size - 1, Reader.groupWidth s⟩

end Pattern

end FeatureFlags
