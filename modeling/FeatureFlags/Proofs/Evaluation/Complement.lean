import FeatureFlags.Proofs.Evaluation.Operator
import FeatureFlags.Proofs.Evaluation.Place

/-!
# `Proofs.Evaluation.Complement` — each negated operator is the complement of its positive one

Three operators come in pairs: of one condition, the negated operator gives the opposite answer of the
positive one, or both fail alike.  The messages of their errors differ, for they name the operator; the
errors are of one kind.

The two conditions of a pair are evaluated in `Parallel`.  Both check the same things in the same order, and
either check may fail; the answer is turned around only after all of them (`Condition.compare_opposite`).
A flag with one group for each of the two therefore matches for everybody for whom they can be decided.

## Contents

1. Failures of one kind
2. Evaluations in parallel
3. Operators that come in pairs
4. The theorem
-/

namespace FeatureFlags

/-! ## Failures of one kind -/

/-- Two failures of one kind, both of the library or neither. -/
inductive Failure.SameKind : Failure → Failure → Prop where
  | library {e e' : LibraryError} (h : e.kind = e'.kind) : SameKind (.library e) (.library e')
  | foreign {e e' : ForeignError} (h : e.kind = e'.kind) : SameKind (.foreign e) (.foreign e')

/-- Two errors that are reported as failures of one kind. -/
def EvaluationError.SameKind (e e' : EvaluationError) : Prop := e.report.SameKind e'.report

theorem EvaluationError.SameKind.refl (e : EvaluationError) : e.SameKind e := by
  unfold SameKind
  cases e.report with
  | library e => exact .library rfl
  | foreign e => exact .foreign rfl

/-! ## Evaluations in parallel -/

/-- Two evaluations go in parallel: both give values, which are related, or both fail with errors of one
kind. -/
inductive Parallel {α β : Type} (R : α → β → Prop) :
    Except EvaluationError α → Except EvaluationError β → Prop where
  | values {a : α} {b : β} (h : R a b) : Parallel R (.ok a) (.ok b)
  | errors {e e' : EvaluationError} (h : e.SameKind e') : Parallel R (.error e) (.error e')

/-- Two evaluations that give opposite answers, or fail with errors of one kind. -/
abbrev Opposite : Except EvaluationError Bool → Except EvaluationError Bool → Prop :=
  Parallel fun answer other => other = !answer

section

variable {α β γ δ : Type} {R : α → β → Prop} {S : γ → δ → Prop}

theorem Parallel.refl (r : Except EvaluationError α) : Parallel Eq r r := by
  cases r with
  | ok a => exact .values rfl
  | error e => exact .errors (.refl e)

/-- Sequences go in parallel if their parts do. -/
theorem Parallel.bind {r : Except EvaluationError α} {r' : Except EvaluationError β}
    {f : α → Except EvaluationError γ} {g : β → Except EvaluationError δ} (h : Parallel R r r')
    (hf : ∀ a b, R a b → Parallel S (f a) (g b)) : Parallel S (r >>= f) (r' >>= g) := by
  cases h with
  | values h => exact hf _ _ h
  | errors h => exact .errors h

end

/-! ## Operators that come in pairs -/

/-- The operators that come in pairs, each by whether the positive one is asked for. -/
def Operator.pairs : List (Bool → Operator) := [.exact, .contains, .pattern]

namespace Condition

variable {pair : Bool → Operator} {key : String}

/-- The operator is only named in the error. -/
theorem requireText_parallel (operator operator' key : String) (role : TextRole) (v : Json) :
    Parallel Eq (requireText operator key role v) (requireText operator' key role v) := by
  cases v with
  | str s => exact .values rfl
  | null | bool _ | number _ | arr _ | obj _ => exact .errors (.library rfl)

/-- **The operators of a pair answer the opposite of each other**, or fail alike. -/
theorem compare_opposite (h : pair ∈ Operator.pairs) (key : String) (expected actual : Json) :
    Opposite (compare (pair true) key expected actual) (compare (pair false) key expected actual) := by
  -- what was found is compared with what was asked for, in all three pairs
  have hasked (found : Bool) : (found == false) = !(found == true) := by cases found <;> rfl
  simp only [Operator.pairs, List.mem_cons, List.not_mem_nil, or_false] at h
  rcases h with rfl | rfl | rfl
  · exact .values (hasked _)
  · refine (requireText_parallel _ _ key .expected expected).bind ?_
    rintro needle _ rfl
    refine (requireText_parallel _ _ key .property actual).bind ?_
    rintro haystack _ rfl
    exact .values (hasked _)
  · refine (requireText_parallel _ _ key .pattern expected).bind ?_
    rintro pattern _ rfl
    refine (requireText_parallel _ _ key .property actual).bind ?_
    rintro text _ rfl
    refine (Parallel.refl (findsPattern pattern text)).bind ?_
    rintro found _ rfl
    exact .values (hasked found)

/-- A missing property is the same error for both. -/
theorem withoutProperty_of_mem_pairs (h : pair ∈ Operator.pairs) (positive : Bool) :
    (pair positive).withoutProperty key = .error (.missingProperty key) := by
  simp only [Operator.pairs, List.mem_cons, List.not_mem_nil, or_false] at h
  rcases h with rfl | rfl | rfl <;> rfl

theorem holds_opposite (c : Condition) (h : pair ∈ Operator.pairs) (properties : Properties) :
    Opposite ((c.asking (pair true)).holds properties) ((c.asking (pair false)).holds properties) := by
  cases hp : properties.lookup c.key with
  | none =>
      have hmissing (positive : Bool) :
          (c.asking (pair positive)).holds properties = .error (.missingProperty c.key) :=
        (holds_asking_of_missing c _ hp).trans (withoutProperty_of_mem_pairs h positive)
      rw [hmissing, hmissing]
      exact .errors (.refl _)
  | some actual =>
      have hgiven (positive : Bool) :
          (c.asking (pair positive)).holds properties = compare (pair positive) c.key c.value actual :=
        holds_asking_of_given c _ hp
      rw [hgiven, hgiven]
      exact compare_opposite h c.key c.value actual

end Condition

namespace Flag

variable {flag : Flag} {digest : Digest} {subject : String} {properties : Properties} {c d : Condition}

/-- A group with one condition, and without a rollout, matches if the condition holds. -/
theorem groupMatches_single : flag.groupMatches digest subject properties { conditions := [c] } =
    c.holds properties := by
  simp only [groupMatches, allHold]
  cases c.holds properties with
  | error e => rfl
  | ok holds => cases holds <;> rfl

/-- Of two groups with opposite conditions, one matches. -/
theorem firstMatch_of_opposite {holds : Bool} (hc : c.holds properties = .ok holds)
    (hd : d.holds properties = .ok !holds) :
    flag.firstMatch digest subject properties [{ conditions := [c] }, { conditions := [d] }] =
      flag.matchedValue digest subject := by
  rw [firstMatch, groupMatches_single, hc]
  cases holds with
  | true => rfl
  | false =>
      -- the walk comes to the other group, whose condition then holds
      show firstMatch digest flag subject properties [{ conditions := [d] }] = _
      rw [firstMatch, groupMatches_single, hd]
      rfl

/-! ## The theorem -/

/-- **Each negated operator is the complement of its positive one.**  Of one condition, evaluated with the
same properties, the two operators of a pair give opposite answers, or both fail with errors of one kind.  A
flag that has one group for each of them, in either order and without rollouts, therefore has the value of
a flag that matches, wherever neither fails: it is on, or one of its variants. -/
theorem negated_operator_is_complement (c : Condition) {pair : Bool → Operator}
    (hpair : pair ∈ Operator.pairs) (properties : Properties) :
    Opposite ((c.asking (pair true)).holds properties) ((c.asking (pair false)).holds properties) ∧
    ∀ (flag : Flag) (digest : Digest) (subject : String) (first : Bool),
      flag.groups =
        [{ conditions := [c.asking (pair first)] }, { conditions := [c.asking (pair !first)] }] →
      (∀ positive e, (c.asking (pair positive)).holds properties ≠ .error e) →
      flag.evaluate digest subject properties = flag.matchedValue digest subject ∧
        ((∀ text, IsHex (digest text)) →
          ∃ value, flag.evaluate digest subject properties = .ok value ∧ value ≠ .off) := by
  have hopposite := Condition.holds_opposite c hpair properties
  refine ⟨hopposite, ?_⟩
  intro flag digest subject first hgroups hdecided
  have hanswers : ∃ answer, (c.asking (pair first)).holds properties = .ok answer ∧
      (c.asking (pair !first)).holds properties = .ok !answer := by
    generalize hpositive : (c.asking (pair true)).holds properties = positive,
      hnegative : (c.asking (pair false)).holds properties = negative at hopposite
    cases hopposite with
    | errors _ => exact absurd hpositive (hdecided true _)
    | @values answer other h =>
        subst h
        cases first with
        | true => exact ⟨answer, hpositive, hnegative⟩
        | false => exact ⟨!answer, hnegative, by rw [Bool.not_not]; exact hpositive⟩
  obtain ⟨answer, hfirst, hsecond⟩ := hanswers
  have hmatched : flag.evaluate digest subject properties = flag.matchedValue digest subject := by
    have hsome : flag.groups.isEmpty = false := by rw [hgroups]; rfl
    rw [evaluate, hsome, matchGroups, hgroups]
    exact firstMatch_of_opposite hfirst hsecond
  refine ⟨hmatched, ?_⟩
  intro hdigest
  obtain ⟨place, hplace⟩ := Bucket.exists_place hdigest flag.key subject VariantRange.salt
  rw [hmatched]
  exact exists_matchedValue hplace

/-- A flag for those with a plan that is not *basic*, and for those with a plan that is, is on for
everybody with a plan. -/
theorem basic_or_not_is_on :
    let c : Condition := { key := "plan", value := .str "basic" }
    let properties : Properties := [("plan", .str "Basic 2")]
    let flag : Flag :=
      { key := "beta", filters :=
        { groups := [{ conditions := [c.asking (.contains false)] },
            { conditions := [c.asking (.contains true)] }] } }
    let digest : Digest := fun _ => "8000000000000000000000000000000000000000"
    Operator.contains ∈ Operator.pairs ∧
      (∀ positive e, (c.asking (.contains positive)).holds properties ≠ .error e) ∧
      (∀ text, IsHex (digest text)) ∧ flag.evaluate digest "user" properties = .ok .on := by
  intro c properties flag digest
  have hpair : Operator.contains ∈ Operator.pairs := by simp [Operator.pairs]
  have hplan : properties.lookup c.key = some (.str "Basic 2") := rfl
  have hdecided (positive : Bool) (e : EvaluationError) :
      (c.asking (.contains positive)).holds properties ≠ .error e := by
    rw [Condition.holds_asking_of_given c _ hplan]
    -- both sides are texts, so that no check fails
    show Except.ok (containsFolded "Basic 2" "basic" == positive) ≠ .error e
    nofun
  have hdigest (text : String) : IsHex (digest text) := by
    show IsHex "8000000000000000000000000000000000000000"
    decide +kernel
  have hvalue := ((negated_operator_is_complement c hpair properties).2 flag digest "user" false rfl
    hdecided).1
  exact ⟨hpair, hdecided, hdigest, hvalue⟩

end Flag

end FeatureFlags
