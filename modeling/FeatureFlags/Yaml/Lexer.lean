import FeatureFlags.Yaml.Scalar

/-!
# `FeatureFlags.Yaml.Lexer` — the tokens of a YAML text

Tokens are taken from the text on demand.  Indentation opens and closes block collections.  Whatever
could be a simple key is remembered, and when a colon follows it, a key token is put into the queue
where it began; a token is therefore not given out while it could still turn out to be a key.

## Contents

1. Tokens
2. The state of a lexer
3. Simple keys and indentation
4. Directives, anchors and tags
5. Fetching the next token
6. Giving tokens out
-/

namespace FeatureFlags

namespace Yaml

/-! ## Tokens -/

/-- A tag as it is written: a handle and what follows it. -/
structure TagName where
  handle : Option String
  suffix : String

/-- The tokens of a text. -/
inductive Token where
  | version (major : Nat)
  | tagHandle (handle uri : String)
  | unknownDirective
  | documentStart
  | documentEnd
  | streamEnd
  | blockSequenceStart
  | blockMappingStart
  | blockEnd
  | flowSequenceStart
  | flowSequenceEnd
  | flowMappingStart
  | flowMappingEnd
  | blockEntry
  | flowEntry
  | key
  | value
  | reference (name : String)
  | anchor (name : String)
  | tag (name : TagName)
  | scalar (text : String) (plain : Bool)

/-! ## The state of a lexer -/

/-- The beginning of what may turn out to be a simple key. -/
structure SimpleKey where
  /-- The number of the token with which it begins. -/
  token : Nat
  /-- Whether nothing else may stand here. -/
  required : Bool
  index : Nat
  line : Nat
  column : Nat

/-- The state of a lexer. -/
structure Lexer where
  cursor : Cursor
  done : Bool := false
  /-- How many flow collections are open. -/
  flow : Nat := 0
  queue : List Token := []
  /-- How many tokens have been given out. -/
  taken : Nat := 0
  /-- The column of the block that is open, -1 outside any block. -/
  indent : Int := -1
  /-- The columns of the blocks around it. -/
  indents : List Int := []
  /-- Whether a simple key may begin at the next token. -/
  keyAllowed : Bool := true
  /-- The possible simple keys, by the number of open flow collections. -/
  keys : List (Nat × SimpleKey) := []

/-- A step of a lexer, which may fail. -/
abbrev Lex := StateT Lexer (Except Error)

namespace Lex

/-- Fails because the text is not well formed. -/
def fail {α : Type} : Lex α := throw .malformed

/-- Runs a reading at the place of the lexer. -/
def scan {α : Type} (reading : Scan α) : Lex α := do
  let (x, cursor) ← reading.run (← get).cursor
  modify fun l => { l with cursor }
  return x

/-- Puts a token at the end of the queue. -/
def push (t : Token) : Lex Unit := modify fun l => { l with queue := l.queue ++ [t] }

/-- Puts a token into the queue, before the token of the given number. -/
def insert (number : Nat) (t : Token) : Lex Unit :=
  modify fun l =>
    let before := number - l.taken
    { l with queue := l.queue.take before ++ t :: l.queue.drop before }

/-- Says whether a simple key may begin at the next token. -/
def allowKey (allowed : Bool) : Lex Unit := modify fun l => { l with keyAllowed := allowed }

/-! ## Simple keys and indentation -/

/-- Forgets the possible keys that lie on another line or too far back. -/
def dropStaleKeys : Lex Unit := do
  let l ← get
  let stale (k : SimpleKey) : Bool :=
    k.line != l.cursor.line || l.cursor.index - k.index > 1024
  if l.keys.any fun (_, k) => stale k && k.required then fail
  set { l with keys := l.keys.filter fun (_, k) => !stale k }

/-- Forgets the possible key of the collection that is open. -/
def dropKey : Lex Unit := do
  let l ← get
  match l.keys.lookup l.flow with
  | some k =>
    if k.required then fail
    set { l with keys := l.keys.filter fun (level, _) => level != l.flow }
  | none => return ()

/-- Remembers that a simple key may begin here. -/
def saveKey : Lex Unit := do
  let l ← get
  if l.keyAllowed then
    dropKey
    let cur := l.cursor
    let key : SimpleKey :=
      { token := l.taken + l.queue.length
        required := l.flow == 0 && l.indent == cur.column
        index := cur.index, line := cur.line, column := cur.column }
    modify fun l => { l with keys := (l.flow, key) :: l.keys }

/-- Closes the blocks that are indented deeper than a column. -/
def unwindTo (column : Int) : List Int → Lex Unit
  | [] => return ()
  | outer :: rest => do
    if (← get).indent > column then
      modify fun l => { l with indent := outer, indents := rest }
      push .blockEnd
      unwindTo column rest

/-- Closes the blocks that are indented deeper than a column, unless a flow collection is open. -/
def unwind (column : Int) : Lex Unit := do
  let l ← get
  if l.flow = 0 then unwindTo column l.indents

/-- Opens a block at a column, if it is indented deeper than the one that is open. -/
def openBlock (column : Nat) : Lex Bool := do
  let l ← get
  if l.indent < column then
    set { l with indents := l.indent :: l.indents, indent := (column : Int) }
    return true
  else return false

/-- Closes all blocks before something that stands outside them. -/
def leaveBlocks : Lex Unit := do
  unwind (-1)
  dropKey
  allowKey false

/-! ## Directives, anchors and tags -/

/-- One or more characters of a name. -/
def name : Scan String := do
  let chars ← Scan.takeWhile isNameChar
  if chars.isEmpty then Scan.fail
  return String.ofList chars

/-- A number of a version. -/
def versionNumber : Scan Nat := do
  let digits ← Scan.takeWhile Char.isDigit
  if digits.isEmpty then Scan.fail
  if digits.length > Numeral.digitLimit then
    throw (.value ⟨.value, Numeral.tooLongText digits.length⟩)
  return digits.foldl (fun n c => 10 * n + (c.toNat - '0'.toNat)) 0

/-- The major number of a version; the minor one does not matter. -/
def version : Scan Token := do
  Scan.skipBlanks
  let major ← versionNumber
  if (← Scan.peek) != some '.' then Scan.fail
  Scan.forward 1
  let _ ← versionNumber
  if endsField (← Scan.peek) then return .version major else Scan.fail

/-- The handle of a tag: two exclamation marks with a name between them, or one alone. -/
def tagHandle : Scan String := do
  if (← Scan.peek) != some '!' then Scan.fail
  Scan.forward 1
  if (← Scan.peek) == some ' ' then return "!"
  let chars ← Scan.takeWhile isNameChar
  if (← Scan.peek) != some '!' then Scan.fail
  Scan.forward 1
  return String.ofList ('!' :: (chars ++ ['!']))

/-- The bytes of a run of percent escapes. -/
def escapedBytes : Nat → Scan (List UInt8)
  | 0 => return []
  | fuel + 1 => do
    if (← Scan.peek) == some '%' then
      Scan.forward 1
      let byte ← hexCode 2
      return UInt8.ofNat byte :: (← escapedBytes fuel)
    else return []

/-- Whether a character may stand in a tag as it is. -/
def isTagChar (c : Char) : Bool :=
  isNameChar c || [';', '/', '?', ':', '@', '&', '=', '+', '$', ',', '.', '!', '~', '*', '\'', '(',
    ')', '[', ']'].contains c

/-- The characters of a tag, with its percent escapes read as UTF-8. -/
def tagChars : Nat → Scan (List Char)
  | 0 => return []
  | fuel + 1 => do
    let chars ← Scan.takeWhile isTagChar
    if (← Scan.peek) == some '%' then
      match Utf8.decode (← escapedBytes (← Scan.bound)) with
      | .ok s => return chars ++ s.toList ++ (← tagChars fuel)
      | .error _ => Scan.fail
    else return chars

/-- One or more characters of a tag. -/
def tagText : Scan String := do
  let next ← Scan.peek
  if next.any fun c => isTagChar c || c == '%' then
    return String.ofList (← tagChars (← Scan.bound))
  else Scan.fail

/-- The handle that a directive declares, and what it stands for. -/
def tagDeclaration : Scan Token := do
  Scan.skipBlanks
  let handle ← tagHandle
  if (← Scan.peek) != some ' ' then Scan.fail
  Scan.skipBlanks
  let uri ← tagText
  if endsField (← Scan.peek) then return .tagHandle handle uri else Scan.fail

/-- A directive, from its percent sign to the end of its line. -/
def directive : Scan Token := do
  Scan.forward 1
  let kind ← name
  if !endsField (← Scan.peek) then Scan.fail
  let token ←
    if kind = "YAML" then version
    else if kind = "TAG" then tagDeclaration
    else do
      Scan.skipLine
      pure .unknownDirective
  Scan.endLine
  return token

/-- The name of an anchor or of a reference to one, after its indicator. -/
def anchorName : Scan String := do
  Scan.forward 1
  let result ← name
  let next ← Scan.peek
  if endsWord next || next.any ['?', ':', ',', ']', '\x7d', '%', '@', '\x60'].contains then
    return result
  else Scan.fail

/-- A tag, from its exclamation mark on. -/
def tagName : Scan TagName := do
  let next ← Scan.peekAt 1
  let result ←
    if next == some '<' then do
      Scan.forward 2
      let suffix ← tagText
      if (← Scan.peek) != some '>' then Scan.fail
      Scan.forward 1
      pure (⟨none, suffix⟩ : TagName)
    else if endsWord next then do
      Scan.forward 1
      pure ⟨none, "!"⟩
    else do
      let word := (← get).rest.tail.takeWhile fun c => !endsField (some c)
      let handle ←
        if word.contains '!' then tagHandle
        else do
          Scan.forward 1
          pure "!"
      pure ⟨some handle, ← tagText⟩
  if endsField (← Scan.peek) then return result else Scan.fail

/-! ## Fetching the next token -/

/-- Skips blanks, comments and breaks.  Outside flow collections a key may begin after a break. -/
def skipToToken : Nat → Lex Unit
  | 0 => return ()
  | fuel + 1 => do
    scan Scan.skipBlanks
    if (← scan Scan.peek) == some '#' then scan Scan.skipLine
    if (← scan Scan.takeBreak).isEmpty then return ()
    if (← get).flow = 0 then allowKey true
    skipToToken fuel

/-- The begin of a flow collection. -/
def fetchFlowStart (t : Token) : Lex Unit := do
  saveKey
  modify fun l => { l with flow := l.flow + 1 }
  allowKey true
  scan (Scan.forward 1)
  push t

/-- The end of a flow collection. -/
def fetchFlowEnd (t : Token) : Lex Unit := do
  dropKey
  modify fun l => { l with flow := l.flow - 1 }
  allowKey false
  scan (Scan.forward 1)
  push t

/-- A comma in a flow collection. -/
def fetchFlowEntry : Lex Unit := do
  allowKey true
  dropKey
  scan (Scan.forward 1)
  push .flowEntry

/-- Opens a block at the cursor, with the token that says so; outside flow collections only where a
key may begin. -/
def openBlockHere (start : Token) : Lex Unit := do
  let l ← get
  if l.flow = 0 then
    if !l.keyAllowed then fail
    if ← openBlock l.cursor.column then push start

/-- A dash before an item. -/
def fetchBlockEntry : Lex Unit := do
  openBlockHere .blockSequenceStart
  allowKey true
  dropKey
  scan (Scan.forward 1)
  push .blockEntry

/-- A question mark before a key. -/
def fetchKey : Lex Unit := do
  openBlockHere .blockMappingStart
  allowKey ((← get).flow == 0)
  dropKey
  scan (Scan.forward 1)
  push .key

/-- A colon before a value, which may make a simple key of what stands before it. -/
def fetchValue : Lex Unit := do
  let l ← get
  match l.keys.lookup l.flow with
  | some k =>
    set { l with keys := l.keys.filter fun (level, _) => level != l.flow }
    insert k.token .key
    if l.flow = 0 then
      if ← openBlock k.column then insert k.token .blockMappingStart
    allowKey false
  | none =>
    openBlockHere .blockMappingStart
    allowKey (l.flow == 0)
    dropKey
  scan (Scan.forward 1)
  push .value

/-- A token with which a simple key may begin, and after which none may. -/
def fetchKeyable (reading : Scan Token) : Lex Unit := do
  saveKey
  allowKey false
  push (← scan reading)

/-- A block scalar. -/
def fetchBlockScalar (fold : Bool) : Lex Unit := do
  allowKey true
  dropKey
  let text ← scan (blockScalar fold (← get).indent)
  push (.scalar (String.ofList text) false)

/-- A plain scalar. -/
def fetchPlain : Lex Unit := do
  saveKey
  allowKey false
  let l ← get
  let (text, broke) ← scan (plainScalar (l.flow != 0) l.indent)
  allowKey broke
  push (.scalar (String.ofList text) true)

/-- The end of the text. -/
def fetchEnd : Lex Unit := do
  leaveBlocks
  modify fun l => { l with keys := [], done := true }
  push .streamEnd

/-- The marker of a document's begin or end. -/
def fetchMarker (t : Token) : Lex Unit := do
  leaveBlocks
  scan (Scan.forward 3)
  push t

/-- The characters with which a plain scalar does not begin. -/
def indicators : List Char :=
  ['-', '?', ':', ',', '[', ']', '\x7b', '\x7d', '#', '&', '*', '!', '|', '>', '\'', '"', '%', '@',
    '\x60']

/-- Whether a plain scalar begins with a character, given the one after it. -/
def beginsPlain (inFlow : Bool) (c : Char) (after : Option Char) : Bool :=
  (!isGap c && !indicators.contains c) ||
    (!endsWord after && (c == '-' || (!inFlow && (c == '?' || c == ':'))))

/-- Takes the next token from the text, with the tokens that go along with it. -/
def fetch : Lex Unit := do
  if (← get).cursor.index = 0 && (← scan Scan.peek) == some byteOrderMark then
    scan (Scan.forward 1)
  skipToToken (← scan Scan.bound)
  dropStaleKeys
  unwind (← get).cursor.column
  let l ← get
  let cur := l.cursor
  match cur.rest with
  | [] => fetchEnd
  | c :: rest =>
    let inFlow := l.flow != 0
    let apart := endsWord rest.head?
    if cur.column = 0 && c == '%' then
      leaveBlocks
      push (← scan directive)
    else if cur.column = 0 && cur.atMarker ['-', '-', '-'] then fetchMarker .documentStart
    else if cur.column = 0 && cur.atMarker ['.', '.', '.'] then fetchMarker .documentEnd
    else if c == '[' then fetchFlowStart .flowSequenceStart
    else if c == '\x7b' then fetchFlowStart .flowMappingStart
    else if c == ']' then fetchFlowEnd .flowSequenceEnd
    else if c == '\x7d' then fetchFlowEnd .flowMappingEnd
    else if c == ',' then fetchFlowEntry
    else if c == '-' && apart then fetchBlockEntry
    else if c == '?' && (inFlow || apart) then fetchKey
    else if c == ':' && (inFlow || apart) then fetchValue
    else if c == '*' then fetchKeyable (.reference <$> anchorName)
    else if c == '&' then fetchKeyable (.anchor <$> anchorName)
    else if c == '!' then fetchKeyable (.tag <$> tagName)
    else if c == '|' && !inFlow then fetchBlockScalar false
    else if c == '>' && !inFlow then fetchBlockScalar true
    else if c == '\'' || c == '"' then
      fetchKeyable ((.scalar · false) <$> String.ofList <$> quotedScalar c)
    else if beginsPlain inFlow c rest.head? then fetchPlain
    else fail

/-! ## Giving tokens out -/

/-- Whether the first token of the queue cannot be given out yet. -/
def needsMore : Lex Bool := do
  if (← get).done then return false
  if (← get).queue.isEmpty then return true
  dropStaleKeys
  let l ← get
  return l.keys.any fun (_, k) => k.token == l.taken

/-- Fetches tokens until the first one can be given out. -/
def fill : Nat → Lex Unit
  | 0 => return ()
  | fuel + 1 => do
    if ← needsMore then
      fetch
      fill fuel

/-- The next token, which stays in the queue. -/
def peek : Lex Token := do
  fill (← scan Scan.bound)
  return (← get).queue.head?.getD .streamEnd

/-- Takes the next token out of the queue. -/
def take : Lex Unit := do
  let _ ← peek
  modify fun l => { l with queue := l.queue.tail, taken := l.taken + 1 }

end Lex

end Yaml

end FeatureFlags
