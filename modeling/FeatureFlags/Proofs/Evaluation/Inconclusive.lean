import FeatureFlags.Evaluation.Rules

/-!
# `Proofs.Evaluation.Inconclusive` — which evaluations leave the decision to the service

An evaluation that ends in an *inconclusive* error says that the flag cannot be decided here; every
other error says that its rules failed.  Conditions, rollouts and variants are conclusive, whatever they
end in, and so is the walk through the rule groups.  What is left is the flag without any rules
(`Flag.evaluate_conclusive_iff`).
-/

namespace FeatureFlags

/-! ## Errors and values -/

/-- Whether an error says that a flag cannot be decided from its definition. -/
def EvaluationError.isInconclusive : EvaluationError → Bool
  | .noLocalRules _ | .unknownGroup _ _ => true
  | _ => false

theorem EvaluationError.isInconclusive_iff {e : EvaluationError} :
    e.isInconclusive ↔ ∃ err, e.report = .library err ∧ err.kind.isA .inconclusive := by
  cases e <;> simp [isInconclusive, report, report.library, LibraryError.ofKind] <;> decide

/-- An evaluation that does not leave the decision to the service. -/
def Conclusive {α : Type} (r : Except EvaluationError α) : Prop :=
  ∀ e, r = .error e → e.isInconclusive = false

section

variable {α β : Type} {r : Except EvaluationError α} {f : α → Except EvaluationError β}

@[simp] theorem conclusive_ok {a : α} : Conclusive (.ok a : Except EvaluationError α) := by
  rintro e ⟨⟩

@[simp] theorem conclusive_error {e : EvaluationError} :
    Conclusive (.error e : Except EvaluationError α) ↔ e.isInconclusive = false := by
  simp [Conclusive]

/-- A sequence of conclusive parts is conclusive. -/
theorem Conclusive.bind (hr : Conclusive r) (hf : ∀ a, r = .ok a → Conclusive (f a)) :
    Conclusive (r >>= f) := by
  cases r with
  | ok a => exact hf a rfl
  | error e => exact conclusive_error.mpr (hr e rfl)

theorem Conclusive.map {g : α → β} (hr : Conclusive r) : Conclusive (g <$> r) := by
  cases r with
  | ok a => exact conclusive_ok
  | error e => exact conclusive_error.mpr (hr e rfl)

end

/-! ## Conditions -/

namespace Condition

variable {key : String} {v : Json}

theorem requireText_conclusive {operator : String} {role : TextRole} :
    Conclusive (requireText operator key role v) := by
  cases v <;> simp [requireText, EvaluationError.isInconclusive]

theorem requireNumber_conclusive {role : NumberRole} : Conclusive (requireNumber key role v) := by
  unfold requireNumber
  split <;> split <;> simp [EvaluationError.isInconclusive]

theorem findsPattern_conclusive {pattern text : String} : Conclusive (findsPattern pattern text) := by
  unfold findsPattern
  split <;> simp [EvaluationError.isInconclusive]

theorem compare_conclusive {op : Operator} {expected actual : Json} :
    Conclusive (compare op key expected actual) := by
  cases op with
  | exact positive | isSet => exact conclusive_ok
  | isNotSet => simp [compare, EvaluationError.isInconclusive]
  | contains positive =>
      exact requireText_conclusive.bind fun _ _ => requireText_conclusive.bind fun _ _ => conclusive_ok
  | pattern positive =>
      exact requireText_conclusive.bind fun _ _ => requireText_conclusive.bind fun _ _ =>
        findsPattern_conclusive.bind fun _ _ => conclusive_ok
  | order op =>
      exact requireNumber_conclusive.bind fun _ _ => requireNumber_conclusive.bind fun _ _ =>
        conclusive_ok

theorem ofJson?_conclusive : Conclusive (Operator.ofJson? v) := by
  cases v <;> simp [Operator.ofJson?, EvaluationError.isInconclusive]

theorem holds_conclusive {c : Condition} {properties : Properties} :
    Conclusive (c.holds properties) := by
  refine ofJson?_conclusive.bind fun op _ => ?_
  cases op with
  | none => exact conclusive_ok
  | some op =>
      cases op with
      | isSet => exact conclusive_ok
      | isNotSet => exact conclusive_error.mpr rfl
      | exact _ | contains _ | pattern _ | order _ =>
          -- an operator with two operands looks the property up first
          dsimp only
          split
          · exact conclusive_error.mpr rfl
          · exact compare_conclusive

end Condition

theorem allHold_conclusive {properties : Properties} {conditions : List Condition} :
    Conclusive (allHold properties conditions) := by
  induction conditions with
  | nil => exact conclusive_ok
  | cons c rest ih =>
      refine Condition.holds_conclusive.bind fun holds _ => ?_
      cases holds with
      | true => exact ih
      | false => exact conclusive_ok

/-! ## Rollouts and variants -/

section

variable {digest : Digest} {key subject : String} {flag : Flag} {properties : Properties}

theorem place_conclusive {salt : String} : Conclusive (Bucket.place digest key subject salt) := by
  simp only [Bucket.place]
  split <;> simp [EvaluationError.isInconclusive]

theorem admits_conclusive {percentage : Number} :
    Conclusive (Bucket.admits digest key subject percentage) := by
  refine place_conclusive.bind fun place _ => ?_
  split
  · exact conclusive_ok
  · exact conclusive_error.mpr rfl

theorem find?_conclusive {ranges : List VariantRange} :
    Conclusive (VariantRange.find? digest key subject ranges) := by
  induction ranges with
  | nil => exact conclusive_ok
  | cons r rest ih =>
      refine place_conclusive.bind fun place _ => ?_
      split
      · exact conclusive_ok
      · exact ih

theorem matchedValue_conclusive : Conclusive (flag.matchedValue digest subject) := by
  unfold Flag.matchedValue
  split
  · refine find?_conclusive.bind fun range? _ => ?_
    cases range? <;> exact conclusive_ok
  · exact conclusive_ok

/-! ## Flags -/

theorem groupMatches_conclusive {group : RuleGroup} :
    Conclusive (flag.groupMatches digest subject properties group) := by
  refine allHold_conclusive.bind fun hold _ => ?_
  cases hold with
  | false => exact conclusive_ok
  | true =>
      rw [if_pos rfl]
      split
      · exact admits_conclusive
      · exact conclusive_ok

theorem firstMatch_conclusive {groups : List RuleGroup} :
    Conclusive (flag.firstMatch digest subject properties groups) := by
  induction groups with
  | nil => exact conclusive_ok
  | cons group rest ih =>
      refine groupMatches_conclusive.bind fun found _ => ?_
      cases found with
      | true => exact matchedValue_conclusive
      | false => exact ih

/-- **The evaluation of a flag is conclusive if, and only if, the flag has rules of its own.** -/
theorem Flag.evaluate_conclusive_iff : Conclusive (flag.evaluate digest subject properties) ↔
    flag.groups ≠ [] ∨ flag.isSimple := by
  unfold Flag.evaluate
  by_cases hg : flag.groups = []
  · rw [hg, List.isEmpty_nil, if_pos rfl]
    cases hs : flag.isSimple with
    | true => simpa using admits_conclusive.map
    | false => simp [EvaluationError.isInconclusive]
  · rw [if_neg (by simpa using hg)]
    exact iff_of_true firstMatch_conclusive (.inl hg)

end

end FeatureFlags
