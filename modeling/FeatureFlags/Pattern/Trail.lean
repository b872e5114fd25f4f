/-!
# `FeatureFlags.Pattern.Trail` — what matching notes on its way

A trail holds the place noted last and the marks where groups start and end.  An attempt that fails
leaves a trail too: its place is where the attempt noted one last, and that is where a possessive
repetition goes on.  Of its marks, those from before the attempt are put back inside a loop; outside
loops only the marks that have been added are taken away.

## Contents

1. Trails
2. Groups
3. Outcomes
-/

namespace FeatureFlags

namespace Pattern

/-! ## Trails -/

/-- What has been noted. -/
structure Trail where
  /-- The place noted last. -/
  place : Nat
  /-- Two marks for each group, its start and its end, as far as groups have been met. -/
  marks : Array (Option Nat)

namespace Trail

/-- The trail at a place where no group has been met. -/
def initial (place : Nat) : Trail := ⟨place, #[]⟩

/-- Notes a place. -/
def note (t : Trail) (place : Nat) : Trail := { t with place }

/-- Sets a mark; marks that are skipped are none. -/
def setMark (t : Trail) (index pos : Nat) : Trail :=
  if index < t.marks.size then { t with marks := t.marks.setIfInBounds index (some pos) }
  else
    { t with
      marks := (t.marks ++ Array.replicate (index - t.marks.size) none).push (some pos) }

/-- What counts of the trail after a failed attempt. -/
def undo (looping : Bool) (before after : Trail) : Trail :=
  { after with marks := if looping then before.marks else after.marks.take before.marks.size }

/-! ## Groups -/

/-- The mark of the start of a group; that of its end comes next. -/
def startMark (group : Nat) : Nat := 2 * (group - 1)

/-- The part of the text that a group matched. -/
def group? (t : Trail) (group : Nat) : Option (Nat × Nat) :=
  match t.marks[startMark group]?.join, t.marks[startMark group + 1]?.join with
  | some i, some j => if i ≤ j then some (i, j) else none
  | _, _ => none

end Trail

/-! ## Outcomes -/

/-- What comes of an attempt, with the trail that it leaves. -/
inductive Outcome where
  /-- The place noted last is the end of the match. -/
  | matched (t : Trail)
  | failed (t : Trail)

namespace Outcome

/-- Whether there is a match. -/
def isMatch : Outcome → Bool
  | .matched _ => true
  | .failed _ => false

/-- Tries something else after a failure. -/
def orElse (o : Outcome) (f : Trail → Outcome) : Outcome :=
  match o with
  | .matched t => .matched t
  | .failed t => f t

/-- Notes a place after a failure. -/
def noteFailure (place : Nat) (o : Outcome) : Outcome := o.orElse fun t => .failed (t.note place)

end Outcome

end Pattern

end FeatureFlags
