import FeatureFlags.Pattern.CharTest
import FeatureFlags.Pattern.Reader

/-!
# `FeatureFlags.Pattern.Node` — patterns whose flags have been resolved

An item means different things under different flags.  A node has one meaning: its tests know about
case, its anchors about lines, and each repetition of a single character knows the character that
must follow it, where there is one.

## Contents

1. Nodes
2. What a node begins with
3. Resolving items against flags
-/

namespace FeatureFlags

namespace Pattern

/-! ## Nodes -/

/-- A pattern whose flags have been resolved. -/
inductive Node where
  | empty
  /-- What nothing matches. -/
  | fail
  | test (t : CharTest)
  | anchor (a : Anchor) (multiline asciiClasses : Bool)
  | seq (first second : Node)
  /-- One of two, the first only where the guard accepts the next character. -/
  | alt (guard : Option CharTest) (first second : Node)
  | capture (index : Nat) (body : Node)
  | backref (index : Nat) (rule : CaseRule)
  | conditional (index : Nat) (yes no : Node)
  | atomic (body : Node)
  /-- A look ahead, or behind over a fixed number of characters. -/
  | look (behind : Option Nat) (positive : Bool) (body : Node)
  /-- A repeated test of one character, with the character that must follow. -/
  | repeatedTest (kind : RepeatKind) (least : Nat) (most : Option Nat) (t : CharTest)
    (next : Option Nat)
  | repeated (kind : RepeatKind) (least : Nat) (most : Option Nat) (body : Node)

/-! ## What a node begins with -/

namespace CharTest

/-- The only character that a test accepts, where case counts. -/
def literal? : CharTest → Option Nat
  | .char false code .exact => some code
  | _ => none

/-- A test that is tried before an alternative that begins with it: one character or a set, where
case counts. -/
def guard? : CharTest → Option CharTest
  | .char false code .exact => some (.char false code .exact)
  | .set negated members .exact asciiClasses => some (.set negated members .exact asciiClasses)
  | _ => none

end CharTest

namespace Node

/-- Whether a node asks for nothing. -/
def isEmpty : Node → Bool
  | .empty => true
  | .seq first second => first.isEmpty && second.isEmpty
  | _ => false

/-- The test that a node begins with. -/
def first? : Node → Option CharTest
  | .test t => some t
  | .seq first second => if first.isEmpty then second.first? else first.first?
  | _ => none

/-- The character that must come where a node stands before `next`. -/
def literal? (next : Option Nat) (n : Node) : Option Nat :=
  if n.isEmpty then next else n.first?.bind CharTest.literal?

end Node

/-! ## Resolving items against flags -/

namespace Flags

/-- The case rule that is in force. -/
def caseRule (flags : Flags) : CaseRule :=
  if flags.ignoreCase then if flags.unicode then .unicode else .ascii else .exact

/-- Whether classes hold ASCII characters only. -/
def asciiClasses (flags : Flags) : Bool := !flags.unicode

end Flags

mutual

/-- Resolves an item before which character `next` must follow.  A lookbehind must have one width,
and under the template flag nothing may be repeated. -/
def Item.resolve (widths : Nat → Width) (flags : Flags) (next : Option Nat) : Item → Option Node
  | .char code => some (.test (.ofChar false code flags.caseRule))
  | .notChar code => some (.test (.ofChar true code flags.caseRule))
  | .any => some (.test (if flags.dotAll then .any else .anyButNewline))
  | .set negated members =>
    some (.test (.ofSet negated members flags.caseRule flags.asciiClasses))
  | .anchor a => some (.anchor a flags.multiline flags.asciiClasses)
  | .backref index => some (.backref index flags.caseRule)
  | .branch alternatives => resolveAlternatives widths flags alternatives
  | .group index added removed body =>
    match index with
    | some i => return .capture i (← resolveSequence widths (flags.enter added removed) none body)
    | none => resolveSequence widths (flags.enter added removed) next body
  | .atomic body => return .atomic (← resolveSequence widths flags none body)
  | .repeated kind least most body => do
    if flags.template then none
    else
      match ← resolveSequence widths flags none body with
      | .test t => return .repeatedTest kind least most t next
      | node => return .repeated kind least most node
  | .look ahead positive body => do
    let node ← resolveSequence widths flags none body
    if ahead then return .look none positive node
    let width := (sequenceWidth widths body).cut
    if width.least = width.greatest then return .look (some width.least) positive node else none
  | .conditional index yes no => do
    let yesNext := if no.isEmpty then next else none
    return .conditional index (← resolveSequence widths flags yesNext yes)
      (← resolveSequence widths flags next no)

/-- Resolves a sequence. -/
def resolveSequence (widths : Nat → Width) (flags : Flags) (next : Option Nat) :
    List Item → Option Node
  | [] => some .empty
  | [item] => item.resolve widths flags next
  | item :: rest => do
    let others ← resolveSequence widths flags next rest
    return .seq (← item.resolve widths flags (others.literal? next)) others

/-- Resolves alternatives. -/
def resolveAlternatives (widths : Nat → Width) (flags : Flags) :
    List (List Item) → Option Node
  | [] => some .fail
  | items :: rest => do
    let node ← resolveSequence widths flags none items
    return .alt (node.first?.bind CharTest.guard?) node (← resolveAlternatives widths flags rest)

end

end Pattern

end FeatureFlags
