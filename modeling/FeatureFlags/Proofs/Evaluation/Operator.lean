import FeatureFlags.Proofs.Evaluation.Escape

/-!
# `Proofs.Evaluation.Operator` — what a condition with a known operator answers

A condition names its operator by a text.  If the operator is known, the condition looks one property up,
and what it answers depends on what is found: with a property, the comparison of the operator
(`Condition.holds_of_given`); without one, an answer that only depends on the operator
(`Condition.holds_of_missing`).  Whatever is said of an operator follows from these two, and need not open
`Condition.holds` again; what an operator `Accepts` is said of all conditions and bags at once.
-/

namespace FeatureFlags

theorem Operator.ofJson?_name (op : Operator) : ofJson? (.str op.name) = .ok (some op) :=
  congrArg Except.ok (Condition.ofName?_name op)

theorem Operator.ofJson?_eq_some {v : Json} {op : Operator} :
    ofJson? v = .ok (some op) ↔ v = .str op.name := by
  constructor
  · intro h
    cases v with
    | str name => rw [Condition.ofName?_eq_some.mp (Except.ok.inj h)]
    | null | bool _ | number _ => cases Except.ok.inj h
    | arr _ | obj _ => cases h
  · rintro rfl
    exact ofJson?_name op

/-- What a known operator answers where the property is missing. -/
def Operator.withoutProperty (key : String) : Operator → Except EvaluationError Bool
  | .isSet => .ok false
  | .isNotSet => .error .absenceUndecidable
  | .exact _ | .contains _ | .pattern _ | .order _ => .error (.missingProperty key)

namespace Condition

/-- The condition with another operator. -/
def asking (c : Condition) (op : Operator) : Condition := { c with operator := .str op.name }

variable {c : Condition} {op : Operator} {properties other : Properties} {actual : Json}

/-- With a property, a condition answers as its operator compares. -/
theorem holds_of_given (ho : c.operator = .str op.name) (hp : properties.lookup c.key = some actual) :
    c.holds properties = compare op c.key c.value actual := by
  unfold holds
  rw [ho, Operator.ofJson?_name, hp]
  cases op <;> rfl

/-- Without one, the operator alone decides. -/
theorem holds_of_missing (ho : c.operator = .str op.name) (hp : properties.lookup c.key = none) :
    c.holds properties = op.withoutProperty c.key := by
  unfold holds
  rw [ho, Operator.ofJson?_name, hp]
  cases op <;> rfl

theorem holds_asking_of_given (c : Condition) (op : Operator) (hp : properties.lookup c.key = some actual) :
    (c.asking op).holds properties = compare op c.key c.value actual :=
  @holds_of_given (c.asking op) op properties actual rfl hp

theorem holds_asking_of_missing (c : Condition) (op : Operator) (hp : properties.lookup c.key = none) :
    (c.asking op).holds properties = op.withoutProperty c.key :=
  @holds_of_missing (c.asking op) op properties rfl hp

/-- Whichever condition asks for it, the operator holds of a property that it compares with an expected
value. -/
def Accepts (op : Operator) (expected actual : Json) : Prop :=
  ∀ (c : Condition) (properties : Properties), c.value = expected → properties.lookup c.key = some actual →
    (c.asking op).holds properties = .ok true

/-- What an operator accepts is what it finds in comparing, if its answer does not depend on the name of the
property. -/
theorem accepts_iff {expected : Json} {answer : Bool}
    (h : ∀ key, compare op key expected actual = .ok answer) : Accepts op expected actual ↔ answer := by
  constructor
  · intro haccepts
    -- every condition will do, and a bag with nothing but the property
    let c : Condition := { key := "", value := expected }
    have hproperty : [(c.key, actual)].lookup c.key = some actual := rfl
    have hholds := haccepts c _ rfl hproperty
    rw [holds_asking_of_given c op hproperty, h] at hholds
    exact Except.ok.inj hholds
  · intro hanswer c properties hc hp
    rw [holds_asking_of_given c op hp, hc, h, hanswer]

/-- **A condition looks at one property only.** -/
theorem holds_congr (h : other.lookup c.key = properties.lookup c.key) :
    c.holds other = c.holds properties := by
  unfold holds
  rw [h]

end Condition

end FeatureFlags
