import FeatureFlags.Proofs.Evaluation.Operator

/-!
# `Proofs.Evaluation.Dependence` — an evaluation depends only on the properties that a flag names

Two property bags that agree on the names in a flag's conditions give the same outcome, down to the error.
A property that was missing is a different matter, since its absence is an answer in itself: *is set* does
not hold, most operators end in an error, and an unknown operator does not care.  So if a property is
added, a value can become another one only through a condition that asks whether that property is set.

Both follow from one walk through the rule groups, on which the outcomes of all conditions `Stays` the same,
except for errors that may be lost: none of them in the first case, and in the second the error that the
added property is missing.

## Contents

1. Outcomes that stay
2. Properties that are named, and properties that are added
3. The walk through the rule groups
4. The theorem
-/

namespace FeatureFlags

/-! ## Outcomes that stay -/

/-- An outcome stays as it was, unless it was one of the errors that may be lost. -/
inductive Stays {α : Type} (Lost : EvaluationError → Prop) :
    Except EvaluationError α → Except EvaluationError α → Prop where
  | same (r : Except EvaluationError α) : Stays Lost r r
  | lost {e : EvaluationError} (h : Lost e) (r : Except EvaluationError α) : Stays Lost (.error e) r

section

variable {α β : Type} {Lost : EvaluationError → Prop} {r r' : Except EvaluationError α}

/-- A sequence stays if both its parts do: an error that is lost is lost in the whole. -/
theorem Stays.bind {f g : α → Except EvaluationError β} (h : Stays Lost r r')
    (hf : ∀ a, Stays Lost (f a) (g a)) : Stays Lost (r >>= f) (r' >>= g) := by
  cases h with
  | same =>
      cases r with
      | error e => exact .same _
      | ok a => exact hf a
  | lost h => exact .lost h _

theorem Stays.eq_or_lost (h : Stays Lost r r') : r' = r ∨ ∃ e, r = .error e ∧ Lost e := by
  cases h with
  | same => exact .inl rfl
  | lost h => exact .inr ⟨_, rfl, h⟩

end

/-! ## Properties that are named, and properties that are added -/

namespace Flag

/-- A condition of the flag is about the property. -/
def Names (flag : Flag) (key : String) : Prop :=
  ∃ group ∈ flag.groups, ∃ c ∈ group.conditions, c.key = key

/-- A condition of the flag asks whether the property is set. -/
def AsksWhetherSet (flag : Flag) (key : String) : Prop :=
  ∃ group ∈ flag.groups, ∃ c ∈ group.conditions, c.key = key ∧ c.operator = .str "is_set"

end Flag

/-- A bag with one property more: it was missing before, and the others are as they were. -/
structure Properties.Adds (key : String) (properties other : Properties) : Prop where
  missing : properties.lookup key = none
  given : (other.lookup key).isSome
  others : ∀ name, name ≠ key → other.lookup name = properties.lookup name

section

variable {Lost : EvaluationError → Prop} {c : Condition} {conditions : List Condition} {flag : Flag}
  {digest : Digest} {subject : String} {properties other : Properties} {key : String}

/-- *Is not set* never gives an answer. -/
theorem Condition.holds_of_isNotSet (ho : c.operator = .str Operator.isNotSet.name)
    (properties : Properties) : c.holds properties = .error .absenceUndecidable := by
  cases hp : properties.lookup c.key with
  | none => exact holds_of_missing ho hp
  | some actual => exact holds_of_given ho hp

/-- Of a property that was missing, only *is set* gave an answer that another bag can change; what else
changes was the error that the property is missing. -/
theorem Condition.holds_stays (hp : properties.lookup c.key = none) (hset : c.operator ≠ .str "is_set") :
    Stays (· = .missingProperty c.key) (c.holds properties) (c.holds other) := by
  cases hop : Operator.ofJson? c.operator with
  | error e =>
      have herror (bag : Properties) : c.holds bag = .error e := by
        unfold holds
        rw [hop]
        rfl
      rw [herror, herror]
      exact .same _
  | ok known =>
      cases known with
      | none =>
          rw [holds_of_unknown hop, holds_of_unknown hop]
          exact .same _
      | some op =>
          have ho := Operator.ofJson?_eq_some.mp hop
          cases op with
          | isSet => exact absurd ho hset
          | isNotSet =>
              rw [holds_of_isNotSet ho, holds_of_isNotSet ho]
              exact .same _
          | exact _ | contains _ | pattern _ | order _ =>
              rw [holds_of_missing ho hp]
              apply Stays.lost
              rfl

/-- After a property was added, conditions on other properties answer as before. -/
theorem Properties.Adds.holds_stays (h : Properties.Adds key properties other)
    (hset : ¬ (c.key = key ∧ c.operator = .str "is_set")) :
    Stays (· = .missingProperty key) (c.holds properties) (c.holds other) := by
  by_cases hkey : c.key = key
  · subst hkey
    exact Condition.holds_stays h.missing fun ho => hset ⟨rfl, ho⟩
  · rw [Condition.holds_congr (h.others c.key hkey)]
    exact .same _

/-! ## The walk through the rule groups -/

theorem allHold_stays (h : ∀ c ∈ conditions, Stays Lost (c.holds properties) (c.holds other)) :
    Stays Lost (allHold properties conditions) (allHold other conditions) := by
  induction conditions with
  | nil => exact .same _
  | cons c rest ih =>
      obtain ⟨hfirst, hrest⟩ := List.forall_mem_cons.mp h
      refine hfirst.bind fun holds => ?_
      cases holds with
      | false => exact .same _
      | true => exact ih hrest

namespace Flag

theorem groupMatches_stays {group : RuleGroup}
    (h : ∀ c ∈ group.conditions, Stays Lost (c.holds properties) (c.holds other)) :
    Stays Lost (flag.groupMatches digest subject properties group)
      (flag.groupMatches digest subject other group) := by
  -- the gate of the group does not look at properties
  exact (allHold_stays h).bind fun _ => .same _

theorem firstMatch_stays {groups : List RuleGroup}
    (h : ∀ group ∈ groups, ∀ c ∈ group.conditions, Stays Lost (c.holds properties) (c.holds other)) :
    Stays Lost (flag.firstMatch digest subject properties groups)
      (flag.firstMatch digest subject other groups) := by
  induction groups with
  | nil => exact .same _
  | cons group rest ih =>
      obtain ⟨hgroup, hrest⟩ := List.forall_mem_cons.mp h
      refine (groupMatches_stays hgroup).bind fun found => ?_
      cases found with
      | false => exact ih hrest
      | true => exact .same _

/-- **If the outcomes of all conditions stay, so does the outcome of the flag.** -/
theorem evaluate_stays
    (h : ∀ group ∈ flag.groups, ∀ c ∈ group.conditions, Stays Lost (c.holds properties) (c.holds other)) :
    Stays Lost (flag.evaluate digest subject properties) (flag.evaluate digest subject other) := by
  unfold evaluate
  split
  · -- without groups, a flag is evaluated without properties
    exact .same _
  · exact firstMatch_stays h

/-- A flag is evaluated alike with bags that agree on the properties that it names. -/
theorem evaluate_congr (h : ∀ key, flag.Names key → other.lookup key = properties.lookup key) :
    flag.evaluate digest subject other = flag.evaluate digest subject properties := by
  have hstays : Stays (fun _ => False) (flag.evaluate digest subject properties)
      (flag.evaluate digest subject other) := by
    refine evaluate_stays fun group hgroup c hc => ?_
    rw [Condition.holds_congr (h c.key ⟨group, hgroup, c, hc, rfl⟩)]
    exact .same _
  obtain heq | ⟨_, _, hnever⟩ := hstays.eq_or_lost
  · exact heq
  · exact hnever.elim

/-- With a property more, about which the flag does not ask whether it is set, the outcome stays unless it
was the error that this property is missing. -/
theorem evaluate_of_adds (h : Properties.Adds key properties other) (hset : ¬ flag.AsksWhetherSet key) :
    flag.evaluate digest subject other = flag.evaluate digest subject properties ∨
      flag.evaluate digest subject properties = .error (.missingProperty key) := by
  have hstays : Stays (· = .missingProperty key) (flag.evaluate digest subject properties)
      (flag.evaluate digest subject other) :=
    evaluate_stays fun group hgroup c hc => h.holds_stays fun hasks => hset ⟨group, hgroup, c, hc, hasks⟩
  obtain heq | ⟨e, he, rfl⟩ := hstays.eq_or_lost
  · exact .inl heq
  · exact .inr he

/-! ## The theorem -/

/-- **An evaluation depends only on the properties that the flag names.**  Bags that agree on these, in what
they have and in its value, give the same outcome, value or error.  If a missing property is added, an
outcome that is a value changes only if a condition asks whether that property is set; an outcome that is
an error changes only then too, unless it is the error that this very property is missing. -/
theorem evaluation_depends_on_named_properties (flag : Flag) (digest : Digest) (subject : String)
    (properties other : Properties) :
    ((∀ key, flag.Names key → other.lookup key = properties.lookup key) →
      flag.evaluate digest subject other = flag.evaluate digest subject properties) ∧
    ∀ key, Properties.Adds key properties other →
      (∀ value, flag.evaluate digest subject properties = .ok value →
        flag.evaluate digest subject other ≠ .ok value → flag.AsksWhetherSet key) ∧
      (∀ e, flag.evaluate digest subject properties = .error e →
        flag.evaluate digest subject other ≠ .error e → flag.AsksWhetherSet key ∨ e = .missingProperty key) := by
  refine ⟨evaluate_congr, ?_⟩
  intro key hadds
  constructor
  · intro value hvalue hchanged
    by_cases hset : flag.AsksWhetherSet key
    · exact hset
    · rcases evaluate_of_adds hadds hset with heq | hmissing
      · exact absurd (heq.trans hvalue) hchanged
      · -- a value is no error
        cases hvalue.symm.trans hmissing
  · intro e he hchanged
    by_cases hset : flag.AsksWhetherSet key
    · exact .inl hset
    · rcases evaluate_of_adds hadds hset with heq | hmissing
      · exact absurd (heq.trans he) hchanged
      · exact .inr (Except.error.inj (he.symm.trans hmissing))

/-- A flag for testers, and for the large plan. -/
def testersOrLarge : Flag where
  key := "export"
  filters :=
    { groups := [{ conditions := [{ key := "tester", operator := .str "is_set" }] },
        { conditions := [{ key := "plan", value := .str "large" }] }] }

/-- Whoever has the small plan does not have the flag, of whatever age; as a tester they have it, since a
condition asks whether *tester* is set. -/
theorem tester_has_flag_and_age_does_not_matter :
    let digest : Digest := fun _ => "8000000000000000000000000000000000000000"
    let young : Properties := [("age", .int 20), ("plan", .str "small")]
    let old : Properties := [("plan", .str "small"), ("age", .int 80)]
    let tester : Properties := ("tester", .bool true) :: young
    (∀ key, testersOrLarge.Names key → old.lookup key = young.lookup key) ∧
      testersOrLarge.evaluate digest "user" young = .ok .off ∧
      testersOrLarge.evaluate digest "user" old = .ok .off ∧
      Properties.Adds "tester" young tester ∧ testersOrLarge.evaluate digest "user" tester = .ok .on ∧
      testersOrLarge.AsksWhetherSet "tester" := by
  intro digest young old tester
  have hagree : ∀ key, testersOrLarge.Names key → old.lookup key = young.lookup key := by
    rintro key ⟨group, hgroup, c, hc, rfl⟩
    rcases List.mem_cons.mp hgroup with rfl | hlast
    · obtain rfl := List.mem_singleton.mp hc
      rfl
    · obtain rfl := List.mem_singleton.mp hlast
      obtain rfl := List.mem_singleton.mp hc
      rfl
  have hadds : Properties.Adds "tester" young tester := by
    refine ⟨rfl, rfl, fun name hname => ?_⟩
    show List.lookup name (("tester", .bool true) :: young) = young.lookup name
    rw [List.lookup_cons, beq_eq_false_iff_ne.mpr hname]
  have hyoung : testersOrLarge.evaluate digest "user" young = .ok .off := rfl
  have htester : testersOrLarge.evaluate digest "user" tester = .ok .on := rfl
  have hold := (evaluation_depends_on_named_properties testersOrLarge digest "user" young old).1 hagree
  have hset := ((evaluation_depends_on_named_properties testersOrLarge digest "user" young tester).2
    "tester" hadds).1 .off hyoung fun hoff => by cases htester.symm.trans hoff
  exact ⟨hagree, hyoung, hold.trans hyoung, hadds, htester, hset⟩

end Flag

end

end FeatureFlags
