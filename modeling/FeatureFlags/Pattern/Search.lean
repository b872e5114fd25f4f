import FeatureFlags.Pattern.Node
import FeatureFlags.Pattern.Trail

/-!
# `FeatureFlags.Pattern.Search` — finding a pattern in a text

A node is matched by trying the ways in order and taking the first that lets the rest match too.
`run` takes that rest as a function of the place reached and the trail so far.

## Contents

1. Anchors and repeated text
2. Repeating one character
3. Repeating a node
4. Matching a node
5. Where a match can begin
6. `compile` and `search`
-/

namespace FeatureFlags

namespace Pattern

/-! ## Anchors and repeated text -/

/-- Whether the character at a place is a word character; there is none outside the text. -/
def isWordAt (asciiClasses : Bool) (text : Array Char) (pos : Nat) : Bool :=
  match text[pos]? with
  | some c => CharClass.word.contains asciiClasses c
  | none => false

/-- Whether the place before which `pos` stands holds a word character. -/
def isWordBefore (asciiClasses : Bool) (text : Array Char) (pos : Nat) : Bool :=
  pos != 0 && isWordAt asciiClasses text (pos - 1)

/-- Whether an anchor holds at a place.  A text without characters has no word boundary and no place
that is none. -/
def Anchor.holds (multiline asciiClasses : Bool) (text : Array Char) (pos : Nat) : Anchor → Bool
  | .textStart => pos == 0
  | .textEnd => pos == text.size
  | .lineStart => pos == 0 || (multiline && text[pos - 1]? == some '\n')
  | .lineEnd =>
    pos == text.size || ((multiline || pos + 1 == text.size) && text[pos]? == some '\n')
  | .wordBoundary =>
    !text.isEmpty && isWordBefore asciiClasses text pos != isWordAt asciiClasses text pos
  | .notWordBoundary =>
    !text.isEmpty && isWordBefore asciiClasses text pos == isWordAt asciiClasses text pos

/-- Whether the text at `pos` repeats the text from `start` on, for `count` characters. -/
def repeatsAt (rule : CaseRule) (text : Array Char) (start pos : Nat) : Nat → Bool
  | 0 => true
  | count + 1 =>
    match text[start]?, text[pos]? with
    | some a, some b =>
      rule.lower a.toNat == rule.lower b.toNat && repeatsAt rule text (start + 1) (pos + 1) count
    | _, _ => false

/-- What is left to match after a node, from a place on. -/
abbrev Rest := Nat → Trail → Outcome

/-- A matcher: what a node does at a place, given the rest. -/
abbrev Matcher := Nat → Trail → Rest → Outcome

/-- The rest that asks for nothing. -/
def accept : Rest := fun pos t => .matched (t.note pos)

/-! ## Repeating one character -/

/-- The number of characters from a place on that pass a test, counted up to a bound. -/
def runLength (t : CharTest) (text : Array Char) (pos : Nat) : Nat → Nat
  | 0 => 0
  | bound + 1 =>
    match text[pos]? with
    | some c => if t.accepts c then runLength t text (pos + 1) bound + 1 else 0
    | none => 0

/-- Whether the character at a place can be the one that must come there. -/
def canFollow (text : Array Char) (pos : Nat) (next : Option Nat) : Bool :=
  match next with
  | some code => text[pos]?.any fun c => c.toNat == code
  | none => true

/-- Tries the rest after `count` characters more than `pos`, and after fewer down to `least`. -/
def tryFewer (looping : Bool) (text : Array Char) (next : Option Nat) (pos least : Nat)
    (rest : Rest) : Nat → Trail → Outcome
  | 0, t =>
    if least = 0 && canFollow text pos next then
      (rest pos (t.note pos)).orElse fun left => .failed (t.undo looping left)
    else .failed t
  | count + 1, t =>
    if count + 1 < least then .failed t
    else if canFollow text (pos + (count + 1)) next then
      (rest (pos + (count + 1)) (t.note (pos + (count + 1)))).orElse fun left =>
        tryFewer looping text next pos least rest count (t.undo looping left)
    else tryFewer looping text next pos least rest count t

/-- Tries the rest at a place, and after more of the `left` characters that follow. -/
def tryMore (looping : Bool) (rest : Rest) (pos : Nat) : Nat → Trail → Outcome
  | 0, t => (rest pos (t.note pos)).orElse fun left => .failed ((t.undo looping left).note pos)
  | left + 1, t =>
    (rest pos (t.note pos)).orElse fun after =>
      tryMore looping rest (pos + 1) left ((t.undo looping after).note pos)

/-- Repeats a test of one character. -/
def repeatTest (looping : Bool) (text : Array Char) (kind : RepeatKind) (least : Nat)
    (most : Option Nat) (check : CharTest) (next : Option Nat) : Matcher := fun pos t rest =>
  let left := text.size - pos
  let available := runLength check text pos (match most with | some n => min n left | none => left)
  if left < least then .failed t
  else if available < least then .failed (t.note pos)
  else
    match kind with
    | .greedy => tryFewer looping text next pos least rest available (t.note pos)
    | .lazily => tryMore looping rest (pos + least) (available - least) (t.note pos)
    | .possessive => rest (pos + available) (t.note pos)

/-! ## Repeating a node -/

/-- Whether a bound allows one more than `count`. -/
def allowsMore (most : Option Nat) (count : Nat) : Bool :=
  match most with
  | some n => count < n
  | none => true

/-- Repeats as often as possible.  Once there are enough, a round that starts where the round
before it started is not tried. -/
def greedyLoop (body : Matcher) (least : Nat) (most : Option Nat) :
    (fuel count : Nat) → (last : Option Nat) → Matcher
  | 0, _, _ => fun _ t _ => .failed t
  | fuel + 1, count, last => fun pos t rest =>
    let t := t.note pos
    Outcome.noteFailure pos <|
      if count < least then
        body pos t fun pos t => greedyLoop body least most fuel (count + 1) last pos t rest
      else if allowsMore most count && last != some pos then
        (body pos t fun next t =>
          greedyLoop body least most fuel (count + 1) (some pos) next t rest).orElse
          fun _ => rest pos t
      else rest pos t

/-- Repeats as rarely as possible. -/
def lazyLoop (looping : Bool) (body : Matcher) (least : Nat) (most : Option Nat) :
    (fuel count : Nat) → (last : Option Nat) → Matcher
  | 0, _, _ => fun _ t _ => .failed t
  | fuel + 1, count, last => fun pos t rest =>
    let t := t.note pos
    Outcome.noteFailure pos <|
      if count < least then
        body pos t fun pos t => lazyLoop looping body least most fuel (count + 1) last pos t rest
      else
        (rest pos t).orElse fun left =>
          let t := (t.undo looping left).note pos
          if allowsMore most count && last != some pos then
            body pos t fun next t =>
              lazyLoop looping body least most fuel (count + 1) (some pos) next t rest
          else .failed t

/-- Repeats as often as possible, taking the first way of each round.  A round that fails ends the
repetition where that round left off. -/
def possessiveLoop (body : Matcher) (least : Nat) (most : Option Nat) :
    (fuel count : Nat) → (last : Option Nat) → Trail → Outcome
  | 0, _, _ => .failed
  | fuel + 1, count, last => fun t =>
    if count < least then
      match body t.place t accept with
      | .matched u => possessiveLoop body least most fuel (count + 1) last u
      | .failed u => .failed u
    else if allowsMore most count && last != some t.place then
      match body t.place t accept with
      | .matched u => possessiveLoop body least most fuel (count + 1) (some t.place) u
      | .failed u => .matched (t.note u.place)
    else .matched t

/-- Repeats a node that is no test of one character. -/
def repeatNode (looping : Bool) (text : Array Char) (kind : RepeatKind) (least : Nat)
    (most : Option Nat) (body : Matcher) : Matcher := fun pos t rest =>
  let fuel := least + text.size + 3
  match kind with
  | .greedy => greedyLoop body least most fuel 0 none pos t rest
  | .lazily => lazyLoop looping body least most fuel 0 none pos t rest
  | .possessive =>
    match possessiveLoop body least most fuel 0 none (t.note pos) with
    | .matched u => rest u.place u
    | .failed u => .failed (u.note pos)

/-! ## Matching a node -/

/-- Matches a node at a place, then the rest. -/
def Node.run (text : Array Char) : (looping : Bool) → Node → Matcher
  | _, .empty => fun pos t rest => rest pos t
  | _, .fail => fun _ t _ => .failed t
  | _, .test check => fun pos t rest =>
    if text[pos]?.any check.accepts then rest (pos + 1) t else .failed t
  | _, .anchor a multiline asciiClasses => fun pos t rest =>
    if a.holds multiline asciiClasses text pos then rest pos t else .failed t
  | looping, .seq first second => fun pos t rest =>
    first.run text looping pos t fun pos t => second.run text looping pos t rest
  | looping, .alt guard first second => fun pos t rest =>
    if guard.all fun g => text[pos]?.any g.accepts then
      (first.run text looping pos (t.note pos) rest).orElse fun left =>
        second.run text looping pos (t.undo looping left) rest
    else second.run text looping pos t rest
  | looping, .capture group body => fun pos t rest =>
    body.run text looping pos (t.setMark (Trail.startMark group) pos) fun pos t =>
      rest pos (t.setMark (Trail.startMark group + 1) pos)
  | _, .backref group rule => fun pos t rest =>
    match t.group? group with
    | some (i, j) => if repeatsAt rule text i pos (j - i) then rest (pos + (j - i)) t else .failed t
    | none => .failed t
  | looping, .conditional group yes no => fun pos t rest =>
    if (t.group? group).isSome then yes.run text looping pos t rest
    else no.run text looping pos t rest
  | looping, .atomic body => fun pos t rest =>
    match body.run text looping pos (t.note pos) accept with
    | .matched u => rest u.place u
    | .failed u => .failed (u.note pos)
  | looping, .look behind positive body => fun pos t rest =>
    let back := behind.getD 0
    if pos < back then if positive then .failed t else rest pos t
    else
      match body.run text looping (pos - back) (t.note (pos - back)) accept, positive with
      | .matched u, true => rest pos u
      | .failed u, false => rest pos (t.undo looping u)
      | .matched u, false | .failed u, true => .failed u
  | looping, .repeatedTest kind least most check next =>
    repeatTest looping text kind least most check next
  | looping, .repeated kind least most body =>
    let inside := match kind with | .possessive => looping | _ => true
    repeatNode looping text kind least most (body.run text inside)

/-! ## Where a match can begin -/

/-- Whether case counts for a member of the set that a match begins with. -/
def SetMember.countsCase (rule : CaseRule) : SetMember → Bool
  | .char code => rule.isCased code
  | .range low high => rule != .exact && (lastTabled < high || rule.isCasedRange low high)
  | .inClass _ _ => false

/-- The members of a set, where case does not count for any of them. -/
def leadingMembers? (flags : Flags) (members : List SetMember) : Option (List SetMember) :=
  if members.any (·.countsCase flags.caseRule) then none else some members

/-- The character that a sequence begins with. -/
def leadingChar? : List Item → Option SetMember
  | .char code :: _ => some (.char code)
  | _ => none

mutual

/-- The set that a match of an item begins with, if it is one for which case does not count. -/
def Item.leadingSet? (flags : Flags) : Item → Option (Bool × List SetMember)
  | .char code => (leadingMembers? flags [.char code]).map (false, ·)
  | .set negated members => (leadingMembers? flags members).map (negated, ·)
  | .branch alternatives =>
    ((alternatives.mapM leadingChar?).bind (leadingMembers? flags)).map (false, ·)
  | .group _ added removed body => sequenceLeadingSet? (flags.enter added removed) body
  | _ => none

/-- The set that a match of a sequence begins with. -/
def sequenceLeadingSet? (flags : Flags) : List Item → Option (Bool × List SetMember)
  | [] => none
  | item :: _ => item.leadingSet? flags

end

/-- The test for the first character of a match, where there is one.  It takes classes by the flags
of the whole pattern, also when a group gives them another meaning. -/
def leadingTest? (flags : Flags) (items : List Item) : Option CharTest :=
  (sequenceLeadingSet? flags items).map fun (negated, members) =>
    .set negated members .exact flags.asciiClasses

/-! ## `compile` and `search` -/

end Pattern

/-- A pattern that can be looked for. -/
structure Pattern where
  node : Pattern.Node
  /-- The least length of a match. -/
  least : Nat
  /-- A match is looked for only where the character passes this test. -/
  leading : Option Pattern.CharTest

namespace Pattern

/-- Compiles the text of a pattern. -/
def compile (text : List Char) : Except PatternError Pattern := do
  let parsed ← read text
  match resolveSequence parsed.groupWidth parsed.flags none parsed.items with
  | some node =>
    let least := (sequenceWidth parsed.groupWidth parsed.items).cut.least
    return ⟨node, least, if least = 0 then none else leadingTest? parsed.flags parsed.items⟩
  | none => throw .invalid

/-- Whether a match is looked for at a place.  Without a test for its first character, a match that
would reach far beyond the end of the text is not. -/
def mayBegin (p : Pattern) (text : Array Char) (pos : Nat) : Bool :=
  match p.leading with
  | none => pos ≤ text.size - (p.least - 1)
  | some t => text[pos]?.any t.accepts

/-- Whether a pattern matches somewhere in a text. -/
def search (p : Pattern) (text : List Char) : Bool :=
  let chars := text.toArray
  p.least ≤ chars.size && (List.range (chars.size + 1)).any fun pos =>
    p.mayBegin chars pos && (p.node.run chars false pos (.initial pos) accept).isMatch

end Pattern

end FeatureFlags
