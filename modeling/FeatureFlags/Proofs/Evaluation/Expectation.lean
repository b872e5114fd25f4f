import FeatureFlags.Evaluation.Matching
import FeatureFlags.Flag.Decode
import FeatureFlags.Proofs.Json.Equality

/-!
# `Proofs.Evaluation.Expectation` — what a condition that asks for a value accepts

A condition with *exact* accepts a property that equals its value or, when its value is a list, one that
equals an item of it; *is not* accepts all others.  Both give an answer for every property that there is.

The equality is meant to be strict.  It is so for every property that is no list and no object; inside lists
and objects, a boolean is taken for the number 0 or 1.  `exact_is_strict_but_inside` says which properties
are accepted for that reason only.
-/

namespace FeatureFlags

namespace Json

/-- The values that an expectation stands for: the items of a list, or itself. -/
def alternatives : Json → List Json
  | .arr items => items
  | v => [v]

/-- A property strictly equals one of the values that an expectation stands for. -/
def Accepts (expected actual : Json) : Prop := ∃ v ∈ expected.alternatives, StrictlyEqual v actual

/-- A property equals one of the values that an expectation stands for, but for booleans inside. -/
def Confuses (expected actual : Json) : Prop := ∃ v ∈ expected.alternatives, EqualButInside v actual

variable {expected actual : Json}

theorem matchesExpected_eq :
    expected.matchesExpected actual = expected.alternatives.any (·.matchesValue actual) := by
  cases expected with
  | arr items => rfl
  | null | bool _ | number _ | str _ | obj _ => simp [matchesExpected, alternatives]

theorem WellFormed.alternatives (h : WellFormed expected) : ∀ v ∈ expected.alternatives, WellFormed v := by
  cases h with
  | arr h => exact h
  | null | bool _ | number _ | str _ | obj _ _ =>
      simp only [Json.alternatives, List.forall_mem_singleton]
      constructor <;> assumption

/-- **An expectation is met by what it accepts and by what it confuses.** -/
theorem matchesExpected_iff (he : WellFormed expected) (ha : WellFormed actual) :
    expected.matchesExpected actual ↔ expected.Accepts actual ∨ expected.Confuses actual := by
  rw [matchesExpected_eq, List.any_eq_true, Accepts, Confuses, ← exists_or]
  refine exists_congr fun v => ?_
  rw [← and_or_left]
  exact and_congr_right fun hv => matchesValue_iff (he.alternatives v hv) ha

end Json

namespace Condition

open Json

/-- **A condition compares strictly, but inside lists and objects.**  Let the property of a condition be
given, and take the operators *exact* and *is not*.  Both give an answer, and the answers are opposite.
*Exact* holds of a property that strictly equals the expected value, or an item of it if it is a list; and
besides, of one that would equal it but for booleans that meet numbers inside.  There is none of these
where the property is neither a list nor an object. -/
theorem exact_is_strict_but_inside (c : Condition) {properties : Properties} {actual : Json}
    (hp : properties.lookup c.key = some actual) (he : WellFormed c.value) (ha : WellFormed actual) :
    ∃ equal : Bool,
      { c with operator := .str "exact" }.holds properties = .ok equal ∧
      { c with operator := .str "is_not" }.holds properties = .ok (!equal) ∧
      (equal ↔ c.value.Accepts actual ∨ c.value.Confuses actual) ∧
      ((∀ items, actual ≠ .arr items) → (∀ members, actual ≠ .obj members) →
        (equal ↔ c.value.Accepts actual)) := by
  have hholds (operator : String) (positive : Bool)
      (hop : Operator.ofName? operator = some (.exact positive)) :
      { c with operator := .str operator }.holds properties =
        .ok (c.value.matchesExpected actual == positive) := by
    simp only [holds, Operator.ofJson?, hop, hp, compare]
    rfl
  have hiff := matchesExpected_iff he ha
  refine ⟨c.value.matchesExpected actual, ?_, ?_, hiff, fun harr hobj => ?_⟩
  · rw [hholds "exact" true rfl, beq_true]
  · rw [hholds "is_not" false rfl, beq_false]
  · rw [hiff, or_iff_left]
    rintro ⟨v, _, hinside⟩
    exact not_equalButInside_of_scalar harr hobj hinside

/-- A plan with two seats is accepted by a list of plans, whichever way the number is written. -/
theorem seats_are_compared_by_value :
    let plans : Json := .arr [.arr [.str "basic", .int 1], .arr [.str "team", .int 2]]
    let plan : Json := .arr [.str "team", .float (.ofInt 2)]
    let condition : Condition := { key := "plan", operator := .str "is_not", value := plans }
    [("plan", plan)].lookup condition.key = some plan ∧ WellFormed plans ∧ WellFormed plan ∧
      plans.Accepts plan ∧ condition.holds [("plan", plan)] = .ok false := by
  intro plans plan condition
  have hplan (name : String) (n : Number) : WellFormed (.arr [.str name, .number n]) := by
    refine .arr fun v hv => ?_
    simp only [List.mem_cons, List.not_mem_nil, or_false] at hv
    rcases hv with rfl | rfl
    · exact .str name
    · exact .number n
  have hplans : WellFormed plans := by
    refine .arr fun v hv => ?_
    simp only [List.mem_cons, List.not_mem_nil, or_false] at hv
    rcases hv with rfl | rfl <;> exact hplan _ _
  have htwo : (Number.int 2).SameValue (.float (.ofInt 2)) := Number.sameValue_iff.mp (by decide +kernel)
  have haccepts : plans.Accepts plan := by
    refine ⟨_, List.mem_cons_of_mem _ (List.mem_singleton_self _), .arr rfl fun i hv hw => ?_⟩
    match i with
    | 0 => exact .scalar (.str "team")
    | 1 => exact .scalar (.number htwo)
  have hproperty : [("plan", plan)].lookup condition.key = some plan := rfl
  obtain ⟨equal, -, hnot, hiff, -⟩ := exact_is_strict_but_inside condition hproperty hplans (hplan _ _)
  obtain rfl := hiff.mpr (.inl haccepts)
  exact ⟨hproperty, hplans, hplan _ _, haccepts, hnot⟩

/-- **Inside a list, a boolean is taken for a number**: the property is neither the expected list nor an item
of it, but is accepted. -/
theorem nested_true_is_taken_for_one :
    let condition : Condition := { key := "slots", value := .arr [.arr [.int 1]] }
    let actual : Json := .arr [.bool true]
    Condition.ofJson (.obj [("key", .str "slots"), ("value", condition.value)]) = .ok condition ∧
      WellFormed condition.value ∧ WellFormed actual ∧
      condition.holds [("slots", actual)] = .ok true ∧
      ¬ condition.value.Accepts actual ∧ ¬ StrictlyEqual condition.value actual := by
  intro condition actual
  have hone : WellFormed (.arr [.int 1]) := by
    refine .arr fun v hv => ?_
    obtain rfl := List.mem_singleton.mp hv
    exact .number _
  refine ⟨rfl, .arr fun v hv => ?_, .arr fun v hv => ?_, rfl, ?_, ?_⟩
  · obtain rfl := List.mem_singleton.mp hv
    exact hone
  · obtain rfl := List.mem_singleton.mp hv
    exact .bool true
  · rintro ⟨v, hv, hequal⟩
    obtain rfl := List.mem_singleton.mp hv
    -- the boolean meets the number that it counts as
    have hmixed : Mixed (.int 1) (.bool true) := .right ⟨_, rfl, rfl⟩
    exact hequal.not_meets (.item 0 Nat.one_pos Nat.one_pos (.here hmixed))
  · intro hequal
    have hitems : StrictlyEqual (.arr [.arr [.int 1]]) (.arr [.bool true]) := hequal
    cases hitems with
    | scalar h => cases h
    | arr _ items =>
        cases items 0 Nat.one_pos Nat.one_pos with
        | scalar h => cases h

end Condition

end FeatureFlags
