import FeatureFlags.Evaluation.Rules

/-!
# `Proofs.Evaluation.Escape` — which evaluations end in a failure that is not the library's own

A caller of the library handles its errors.  An evaluation *escapes* if it ends in a failure of another
kind.  Rollouts and variants never do, because texts consist of Unicode scalar values: what is digested has
an encoding, as a lone surrogate would not.  A condition escapes for a few operators and values, which
`Condition.Escapes` lists, and a flag does if the walk through its rule groups comes to such a condition
(`Flag.evaluate_escapes_iff`).
-/

namespace FeatureFlags

/-! ## Errors and values -/

/-- Whether an error is reported as a failure that is not the library's own. -/
def EvaluationError.escapes : EvaluationError → Bool
  | .operatorNotHashable _ | .integerTooLarge | .quotientTooLarge | .integerUnwritable
  | .repetitionTooLarge | .codeTooLarge | .flagsIncompatible | .countTooLong _ | .patternTooDeep => true
  | _ => false

theorem EvaluationError.escapes_iff {e : EvaluationError} :
    e.escapes ↔ ∃ err, e.report = .foreign err := by
  cases e <;> simp [escapes, report, report.library]

/-- Whether an evaluation ends in a failure that is not the library's own. -/
def Escapes {α : Type} (r : Except EvaluationError α) : Prop := ∃ e, r = .error e ∧ e.escapes

section

variable {α β : Type} {r : Except EvaluationError α} {f : α → Except EvaluationError β}

@[simp] theorem escapes_ok {a : α} : Escapes (.ok a : Except EvaluationError α) ↔ False := by
  simp [Escapes]

@[simp] theorem escapes_error {e : EvaluationError} :
    Escapes (.error e : Except EvaluationError α) ↔ e.escapes := by
  simp [Escapes]

/-- A sequence escapes if its first part does, or its second part after the first. -/
theorem escapes_bind : Escapes (r >>= f) ↔ Escapes r ∨ ∃ a, r = .ok a ∧ Escapes (f a) := by
  cases r with
  | ok a => simp [Bind.bind, Except.bind]
  | error e => simp [Bind.bind, Except.bind]

theorem escapes_map {g : α → β} : Escapes (g <$> r) ↔ Escapes r := by
  cases r with
  | ok a => simp [Functor.map, Except.map]
  | error e => simp [Functor.map, Except.map]

end

/-- A value that is no number and cannot be written, or a number that has no double: an ordering cannot
even refuse it. -/
def Json.BreaksOrdering (v : Json) : Prop :=
  (∃ n, v = .int n ∧ (Binary64.ofInt n).isFinite = false) ∨
  ((∀ n, v ≠ .number n) ∧ v.isWritable = false)

theorem Number.toBinary64?_eq_none {n : Number} :
    n.toBinary64? = none ↔ ∃ k, n = .int k ∧ (Binary64.ofInt k).isFinite = false := by
  cases n with
  | float x => simp [toBinary64?]
  | int k =>
      have hk : (Number.int k).toBinary64? =
          if (Binary64.ofInt k).isFinite then some (Binary64.ofInt k) else none := rfl
      rw [hk]
      by_cases h : (Binary64.ofInt k).isFinite
      · rw [if_pos h]
        constructor
        · intro hn
          cases hn
        · rintro ⟨k', hk', hf⟩
          cases hk'
          rw [h] at hf
          cases hf
      · rw [if_neg h]
        exact iff_of_true rfl ⟨k, rfl, Bool.eq_false_iff.mpr h⟩

namespace Condition

variable {key : String} {role : NumberRole} {v : Json}

theorem requireNumber_number {n : Number} : Escapes (requireNumber key role (.number n)) ↔
    n.toBinary64? = none := by
  simp only [requireNumber]
  cases n.toBinary64? with
  | some x => simp
  | none => simp [EvaluationError.escapes]

/-- The number of a property or an expectation escapes if the value breaks orderings. -/
theorem requireNumber_escapes : Escapes (requireNumber key role v) ↔ v.BreaksOrdering := by
  cases v with
  | number n =>
      rw [requireNumber_number, Number.toBinary64?_eq_none]
      simp [Json.BreaksOrdering]
  | null | bool _ | str _ =>
      simp [requireNumber, Json.isWritable, Json.BreaksOrdering, EvaluationError.escapes]
  | arr items | obj members =>
      simp only [requireNumber, Json.BreaksOrdering]
      split <;> simp_all [EvaluationError.escapes]

theorem requireText_escapes {operator : String} {role : TextRole} :
    ¬ Escapes (requireText operator key role v) := by
  cases v <;> simp [requireText, EvaluationError.escapes]

theorem requireText_eq_ok {operator : String} {role : TextRole} {s : String} :
    requireText operator key role v = .ok s ↔ v = .str s := by
  cases v <;> simp [requireText]

/-- A pattern escapes if it is refused for another reason than being no pattern. -/
theorem findsPattern_escapes {pattern text : String} : Escapes (findsPattern pattern text) ↔
    ∃ e, Pattern.compile pattern.toList = .error e ∧ e ≠ .invalid := by
  unfold findsPattern
  cases h : Pattern.compile pattern.toList with
  | ok compiled => simp
  | error e => cases e <;> simp [EvaluationError.escapes]

/-! ## Conditions -/

theorem ofName?_name (op : Operator) : Operator.ofName? op.name = some op := by
  cases op with
  | exact positive | contains positive | pattern positive => cases positive <;> rfl
  | order o => cases o <;> rfl
  | isSet | isNotSet => rfl

theorem ofName?_eq_some {name : String} {op : Operator} :
    Operator.ofName? name = some op ↔ name = op.name := by
  constructor
  · intro h
    have := List.find?_some h
    exact (of_decide_eq_true this).symm
  · rintro rfl
    exact ofName?_name op

/-- **When a condition escapes.**  Its operator is a list or an object; or it orders a property or an
expectation that breaks orderings; or its pattern is refused for another reason than being no
pattern. -/
inductive Escapes (c : Condition) (properties : Properties) : Prop where
  | operator (h : (∃ items, c.operator = .arr items) ∨ ∃ members, c.operator = .obj members)
  | order {op : OrderOperator} {actual : Json} (ho : c.operator = .str (Operator.order op).name)
      (hp : properties.lookup c.key = some actual)
      (h : actual.BreaksOrdering ∨ ((∃ n, actual = .number n) ∧ c.value.BreaksOrdering))
  | pattern {positive : Bool} {pattern text : String} {e : PatternError}
      (ho : c.operator = .str (Operator.pattern positive).name)
      (hp : properties.lookup c.key = some (.str text)) (hv : c.value = .str pattern)
      (h : Pattern.compile pattern.toList = .error e) (he : e ≠ .invalid)

theorem compare_order_escapes {op : OrderOperator} {expected actual : Json} :
    FeatureFlags.Escapes (compare (.order op) key expected actual) ↔
      actual.BreaksOrdering ∨ ((∃ n, actual = .number n) ∧ expected.BreaksOrdering) := by
  show FeatureFlags.Escapes (requireNumber key .property actual >>= fun x =>
    requireNumber key .expected expected >>= fun y => .ok (op.compare x y)) ↔ _
  rw [escapes_bind, requireNumber_escapes]
  -- the property is looked at first, and the expectation only if the property is a number
  by_cases hb : actual.BreaksOrdering
  · exact iff_of_true (.inl hb) (.inl hb)
  rw [or_iff_right hb, or_iff_right hb]
  constructor
  · rintro ⟨x, hx, hy⟩
    rw [escapes_bind, requireNumber_escapes] at hy
    refine ⟨?_, hy.resolve_right fun ⟨y, _, h⟩ => escapes_ok.mp h⟩
    cases actual with
    | number n => exact ⟨n, rfl⟩
    | null | bool _ | str _ | arr _ | obj _ => simp only [requireNumber] at hx; split at hx <;> cases hx
  · rintro ⟨⟨n, rfl⟩, he⟩
    cases hx : n.toBinary64? with
    | some x =>
        refine ⟨x, by simp only [requireNumber, hx], ?_⟩
        exact escapes_bind.mpr (.inl (requireNumber_escapes.mpr he))
    | none =>
        have hesc : FeatureFlags.Escapes (requireNumber key .property (.number n)) :=
          requireNumber_number.mpr hx
        exact absurd (requireNumber_escapes.mp hesc) hb

theorem compare_pattern_escapes {positive : Bool} {expected actual : Json} :
    FeatureFlags.Escapes (compare (.pattern positive) key expected actual) ↔
      ∃ pattern text e, expected = .str pattern ∧ actual = .str text ∧
        Pattern.compile pattern.toList = .error e ∧ e ≠ .invalid := by
  show FeatureFlags.Escapes (requireText (Operator.pattern positive).name key .pattern expected >>=
    fun pattern => requireText (Operator.pattern positive).name key .property actual >>= fun text =>
      findsPattern pattern text >>= fun found => .ok (found == positive)) ↔ _
  simp only [escapes_bind, requireText_escapes, requireText_eq_ok, findsPattern_escapes, escapes_ok,
    false_or, and_false, exists_false, or_false]
  constructor
  · rintro ⟨pattern, rfl, text, rfl, e, he, hne⟩
    exact ⟨pattern, text, e, rfl, rfl, he, hne⟩
  · rintro ⟨pattern, text, e, rfl, rfl, he, hne⟩
    exact ⟨pattern, rfl, text, rfl, e, he, hne⟩

theorem compare_contains_not_escapes {positive : Bool} {expected actual : Json} :
    ¬ FeatureFlags.Escapes (compare (.contains positive) key expected actual) := by
  show ¬ FeatureFlags.Escapes (requireText (Operator.contains positive).name key .expected expected >>=
    fun needle => requireText (Operator.contains positive).name key .property actual >>= fun haystack =>
      .ok (containsFolded haystack needle == positive))
  simp [escapes_bind, requireText_escapes]

/-- Which operators with two operands can escape, and when. -/
theorem compare_escapes {op : Operator} {expected actual : Json} :
    FeatureFlags.Escapes (compare op key expected actual) ↔
      (∃ o, op = .order o ∧ (actual.BreaksOrdering ∨
        ((∃ n, actual = .number n) ∧ expected.BreaksOrdering))) ∨
      ∃ positive pattern text e, op = .pattern positive ∧ expected = .str pattern ∧
        actual = .str text ∧ Pattern.compile pattern.toList = .error e ∧ e ≠ .invalid := by
  cases op with
  | order o => simp [compare_order_escapes]
  | pattern positive => simp [compare_pattern_escapes]
  | contains positive => simp [compare_contains_not_escapes]
  | exact positive | isSet => simp [compare]
  | isNotSet => simp [compare, EvaluationError.escapes]

variable {c : Condition} {properties : Properties}

/-- What is asked of a property that may be missing. -/
theorem lookup_escapes (f : Json → Except EvaluationError Bool) :
    FeatureFlags.Escapes (match properties.lookup c.key with
      | none => .error (.missingProperty c.key)
      | some actual => f actual) ↔
    ∃ actual, properties.lookup c.key = some actual ∧ FeatureFlags.Escapes (f actual) := by
  cases properties.lookup c.key with
  | none => simp [EvaluationError.escapes]
  | some actual => simp

/-- A condition with a known operator escapes if its comparison does. -/
theorem holds_escapes_of_known {op : Operator}
    (h : Operator.ofJson? c.operator = .ok (some op)) : FeatureFlags.Escapes (c.holds properties) ↔
      ∃ actual, properties.lookup c.key = some actual ∧
        FeatureFlags.Escapes (compare op c.key c.value actual) := by
  unfold holds
  rw [h]
  cases op with
  | exact positive => exact lookup_escapes (compare (.exact positive) c.key c.value)
  | contains positive => exact lookup_escapes (compare (.contains positive) c.key c.value)
  | pattern positive => exact lookup_escapes (compare (.pattern positive) c.key c.value)
  | order o => exact lookup_escapes (compare (.order o) c.key c.value)
  | isSet => simp [compare, Bind.bind, Except.bind, pure, Except.pure]
  | isNotSet =>
      simp [compare, Bind.bind, Except.bind, throw, throwThe, MonadExceptOf.throw,
        EvaluationError.escapes]

theorem holds_of_unknown (h : Operator.ofJson? c.operator = .ok none) :
    c.holds properties = .ok false := by
  unfold holds
  rw [h]
  rfl

/-- **A condition escapes in the listed cases, and in no others.** -/
theorem holds_escapes_iff : FeatureFlags.Escapes (c.holds properties) ↔ c.Escapes properties := by
  cases ho : c.operator with
  | arr items =>
      refine iff_of_true ?_ (.operator (.inl ⟨items, ho⟩))
      exact ⟨.operatorNotHashable .arr, by unfold holds; rw [ho]; rfl, rfl⟩
  | obj members =>
      refine iff_of_true ?_ (.operator (.inr ⟨members, ho⟩))
      exact ⟨.operatorNotHashable .obj, by unfold holds; rw [ho]; rfl, rfl⟩
  | null | bool _ | number _ =>
      rw [holds_of_unknown (by rw [ho]; rfl), escapes_ok, false_iff]
      intro h
      cases h <;> simp_all
  | str name =>
      have hj : Operator.ofJson? c.operator = .ok (Operator.ofName? name) := by rw [ho]; rfl
      -- an operator that a condition has by name is the one that is found
      have found {op : Operator} (h : c.operator = .str op.name) : Operator.ofName? name = some op := by
        rw [ho] at h
        cases h
        exact ofName?_name op
      cases hn : Operator.ofName? name with
      | none =>
          rw [holds_of_unknown (hj.trans (congrArg _ hn)), escapes_ok, false_iff]
          intro h
          cases h with
          | operator h => simp [ho] at h
          | order ho' _ _ => simp [found ho'] at hn
          | pattern ho' _ _ _ _ => simp [found ho'] at hn
      | some op =>
          rw [holds_escapes_of_known (hj.trans (congrArg _ hn))]
          have hname : c.operator = .str op.name := by rw [ho, ofName?_eq_some.mp hn]
          constructor
          · rintro ⟨actual, hp, hc⟩
            rcases compare_escapes.mp hc with ⟨o, rfl, h⟩ |
              ⟨positive, pattern, text, e, rfl, hv, rfl, he, hne⟩
            · exact .order hname hp h
            · exact .pattern hname hp hv he hne
          · intro h
            cases h with
            | operator h => simp [ho] at h
            | order ho' hp h =>
                obtain rfl := Option.some.inj (hn.symm.trans (found ho'))
                exact ⟨_, hp, compare_escapes.mpr (.inl ⟨_, rfl, h⟩)⟩
            | pattern ho' hp hv h he =>
                obtain rfl := Option.some.inj (hn.symm.trans (found ho'))
                exact ⟨_, hp, compare_escapes.mpr (.inr ⟨_, _, _, _, rfl, hv, rfl, h, he⟩)⟩

end Condition

/-! ## Rollouts and variants -/

section

variable {digest : Digest} {key subject : String}

theorem place_not_escapes {salt : String} : ¬ Escapes (Bucket.place digest key subject salt) := by
  simp only [Bucket.place]
  intro h
  split at h
  · exact escapes_ok.mp h
  · cases escapes_error.mp h

/-- A rollout escapes only if a hundredth of its percentage has no double. -/
theorem admits_not_escapes {percentage : Number} (h : percentage.hundredth?.isSome) :
    ¬ Escapes (Bucket.admits digest key subject percentage) := by
  obtain ⟨share, hs⟩ := Option.isSome_iff_exists.mp h
  unfold Bucket.admits
  rw [escapes_bind]
  rintro (hp | ⟨place, _, hp⟩)
  · exact place_not_escapes hp
  · rw [hs] at hp
    exact escapes_ok.mp hp

theorem find?_not_escapes {ranges : List VariantRange} :
    ¬ Escapes (VariantRange.find? digest key subject ranges) := by
  induction ranges with
  | nil => simp [VariantRange.find?]
  | cons r rest ih =>
      unfold VariantRange.find?
      rw [escapes_bind]
      rintro (hp | ⟨place, _, hp⟩)
      · exact place_not_escapes hp
      · split at hp
        · exact escapes_ok.mp hp
        · exact ih hp

theorem matchedValue_not_escapes {flag : Flag} : ¬ Escapes (flag.matchedValue digest subject) := by
  unfold Flag.matchedValue
  split
  · unfold Flag.resolveVariant
    rw [escapes_bind]
    rintro (hp | ⟨range?, _, hp⟩)
    · exact find?_not_escapes hp
    · cases range? <;> exact escapes_ok.mp hp
  · simp

theorem simpleRollout_not_escapes {flag : Flag} :
    ¬ Escapes (Bucket.admits digest key subject flag.simpleRollout) := by
  refine admits_not_escapes ?_
  unfold Flag.simpleRollout
  cases flag.rollout with
  | some percentage => rfl
  | none => decide +kernel

end

/-! ## The walk through the rule groups -/

section

variable {digest : Digest} {flag : Flag} {subject : String} {properties : Properties}
  {conditions : List Condition} {group : RuleGroup} {groups : List RuleGroup}

/-- A list of conditions escapes at a condition before which all hold. -/
theorem allHold_escapes_iff : Escapes (allHold properties conditions) ↔
    ∃ passed c rest, conditions = passed ++ c :: rest ∧
      (∀ p ∈ passed, p.holds properties = .ok true) ∧ c.Escapes properties := by
  induction conditions with
  | nil => simp [allHold]
  | cons d tail ih =>
      unfold allHold
      rw [escapes_bind, Condition.holds_escapes_iff]
      constructor
      · rintro (hd | ⟨b, hb, ht⟩)
        · exact ⟨[], d, tail, rfl, by simp, hd⟩
        · cases b with
          | false => exact absurd ht (by simp [pure, Except.pure])
          | true =>
              obtain ⟨passed, c, rest, rfl, hpassed, hc⟩ := ih.mp ht
              refine ⟨d :: passed, c, rest, rfl, ?_, hc⟩
              intro p hp
              rcases List.mem_cons.mp hp with rfl | hp
              · exact hb
              · exact hpassed p hp
      · rintro ⟨passed, c, rest, heq, hpassed, hc⟩
        cases passed with
        | nil =>
            obtain ⟨rfl, rfl⟩ := List.cons.inj heq
            exact .inl hc
        | cons p passed =>
            obtain ⟨rfl, rfl⟩ := List.cons.inj heq
            refine .inr ⟨true, hpassed d (by simp), ?_⟩
            exact ih.mpr ⟨passed, c, rest, rfl, fun q hq => hpassed q (by simp [hq]), hc⟩

/-- A rule group escapes if its conditions do. -/
theorem groupMatches_escapes_iff : Escapes (flag.groupMatches digest subject properties group) ↔
    Escapes (allHold properties group.conditions) := by
  unfold Flag.groupMatches
  rw [escapes_bind, or_iff_left_iff_imp]
  rintro ⟨b, _, h⟩
  cases b with
  | false => exact absurd h (by simp [pure, Except.pure])
  | true =>
      cases hr : group.rollout with
      | none => simp [hr, pure, Except.pure] at h
      | some percentage =>
          simp only [hr, if_true] at h
          exact absurd h (admits_not_escapes rfl)

/-- The walk through rule groups escapes at a group before which none matches. -/
theorem firstMatch_escapes_iff : Escapes (flag.firstMatch digest subject properties groups) ↔
    ∃ before group after, groups = before ++ group :: after ∧
      (∀ g ∈ before, flag.groupMatches digest subject properties g = .ok false) ∧
      Escapes (allHold properties group.conditions) := by
  induction groups with
  | nil => simp [Flag.firstMatch]
  | cons g tail ih =>
      unfold Flag.firstMatch
      rw [escapes_bind, groupMatches_escapes_iff]
      constructor
      · rintro (hg | ⟨b, hb, ht⟩)
        · exact ⟨[], g, tail, rfl, by simp, hg⟩
        · cases b with
          | true => exact absurd ht matchedValue_not_escapes
          | false =>
              obtain ⟨before, group, after, rfl, hbefore, hgroup⟩ := ih.mp ht
              refine ⟨g :: before, group, after, rfl, ?_, hgroup⟩
              intro g' hg'
              rcases List.mem_cons.mp hg' with rfl | hg'
              · exact hb
              · exact hbefore g' hg'
      · rintro ⟨before, group, after, heq, hbefore, hgroup⟩
        cases before with
        | nil =>
            obtain ⟨rfl, rfl⟩ := List.cons.inj heq
            exact .inl hgroup
        | cons g' before =>
            obtain ⟨rfl, rfl⟩ := List.cons.inj heq
            refine .inr ⟨false, hbefore g (by simp), ?_⟩
            exact ih.mpr ⟨before, group, after, rfl, fun h hh => hbefore h (by simp [hh]), hgroup⟩

/-- The walk through the rule groups of a flag comes to a condition: no group before its own matches,
and the conditions before it hold. -/
def Flag.Reaches (digest : Digest) (flag : Flag) (subject : String) (properties : Properties)
    (c : Condition) : Prop :=
  ∃ before group after passed rest, flag.groups = before ++ group :: after ∧
    (∀ g ∈ before, flag.groupMatches digest subject properties g = .ok false) ∧
    group.conditions = passed ++ c :: rest ∧ ∀ p ∈ passed, p.holds properties = .ok true

/-- **A flag escapes if the walk through its rule groups comes to a condition that does.** -/
theorem Flag.evaluate_escapes_iff : Escapes (flag.evaluate digest subject properties) ↔
    ∃ c, flag.Reaches digest subject properties c ∧ c.Escapes properties := by
  unfold Flag.evaluate
  by_cases hg : flag.groups.isEmpty
  · rw [if_pos hg]
    have hnil : flag.groups = [] := List.isEmpty_iff.mp hg
    refine iff_of_false ?_ ?_
    · by_cases hs : flag.isSimple
      · rw [if_pos hs, escapes_map]
        exact simpleRollout_not_escapes
      · simp [hs, EvaluationError.escapes]
    · rintro ⟨c, ⟨before, group, after, _, _, h, _⟩, _⟩
      simp [hnil] at h
  · rw [if_neg hg]
    show Escapes (flag.firstMatch digest subject properties flag.groups) ↔ _
    rw [firstMatch_escapes_iff]
    constructor
    · rintro ⟨before, group, after, hgroups, hbefore, h⟩
      obtain ⟨passed, c, rest, hconditions, hpassed, hc⟩ := allHold_escapes_iff.mp h
      exact ⟨c, ⟨before, group, after, passed, rest, hgroups, hbefore, hconditions, hpassed⟩, hc⟩
    · rintro ⟨c, ⟨before, group, after, passed, rest, hgroups, hbefore, hconditions, hpassed⟩, hc⟩
      exact ⟨before, group, after, hgroups, hbefore,
        allHold_escapes_iff.mpr ⟨passed, c, rest, hconditions, hpassed, hc⟩⟩

end

end FeatureFlags
