import FeatureFlags.Service.Basic

/-!
# `FeatureFlags.Service.Memory` — a service in memory

A service that holds its flags itself, for trying things out.  Its failures are scheduled: the next
listings fail one after the other with the failures in the queue, and every decision fails while a
failure for decisions is set.
-/

namespace FeatureFlags

/-- The state of a service in memory. -/
structure Memory where
  flags : List Flag := []
  /-- The values decided for each subject. -/
  decisions : List (String × Answers) := []
  /-- The failures of the next listings. -/
  failures : List Failure := []
  /-- The failure of every decision, if there is one. -/
  decideFailure : Option Failure := none
  /-- How often the flags were listed. -/
  fetchCount : Nat := 0
  /-- The decisions that were asked for. -/
  decideCalls : List (String × Groups) := []

namespace Memory

/-- Replaces the flags. -/
def setFlags (flags : List Flag) (m : Memory) : Memory := { m with flags }

/-- Sets the values that are decided for a subject. -/
def setDecision (subject : String) (answers : Answers) (m : Memory) : Memory :=
  { m with decisions := (subject, answers) :: m.decisions.filter (·.1 ≠ subject) }

/-- The failure of a listing, unless another one is given. -/
def refusal : Failure := .library (.transport "connection refused" none)

/-- Lets the next listings fail; a negative number of times counts as none. -/
def failNext (failure : Failure) (times : Int) (m : Memory) : Memory :=
  { m with failures := m.failures ++ List.replicate times.toNat failure }

/-- Lets every decision fail, or none. -/
def failDecide (failure : Option Failure) (m : Memory) : Memory :=
  { m with decideFailure := failure }

/-- Lists the flags, unless a failure is scheduled. -/
def fetch (m : Memory) : Except Failure (List Flag) × Memory :=
  let m := { m with fetchCount := m.fetchCount + 1 }
  match m.failures with
  | failure :: rest => (.error failure, { m with failures := rest })
  | [] => (.ok m.flags, m)

/-- Decides the flags of a subject; there are none for an unknown one. -/
def decide (m : Memory) (subject : String) (groups : Groups) : Except Failure Answers × Memory :=
  let m := { m with decideCalls := m.decideCalls ++ [(subject, groups)] }
  match m.decideFailure with
  | some failure => (.error failure, m)
  | none => (.ok ((m.decisions.lookup subject).getD []), m)

/-- The operations of a service in memory; closing it does nothing. -/
def service : Service Memory := ⟨fetch, decide, id⟩

end Memory

end FeatureFlags
