import FeatureFlags.Proofs.Evaluation.Escape
import FeatureFlags.Proofs.Flag.Grammar

/-!
# `Proofs.Evaluation.Unknown` — rule groups that are written for newer clients

A condition may ask for an operator that this library does not know.  It is then meant not to hold, and a
group that begins with it is meant to be passed over, so that a flag keeps its value when such a group is
added to it at any place.

This is so for every operator but lists and objects.  These cannot be looked up among the known operators,
and the evaluation ends at them in a failure which is not the library's own.
`Flag.newer_group_is_ignored_unless_container` says both.

## Contents

1. Unknown operators
2. The walk through the rule groups
3. Added groups
-/

namespace FeatureFlags

/-! ## Unknown operators -/

/-- A list or an object. -/
def Json.IsContainer (v : Json) : Prop := (∃ items, v = .arr items) ∨ ∃ members, v = .obj members

/-- A value is not the name of an operator. -/
def Operator.Unnamed (v : Json) : Prop := ∀ op : Operator, v ≠ .str op.name

/-- A value that is no container is looked up, and found only if it is the name of an operator. -/
theorem Operator.ofJson?_of_unnamed {v : Json} (h : Unnamed v) (hv : ¬ v.IsContainer) :
    ofJson? v = .ok none := by
  cases v with
  | null | bool _ | number _ => rfl
  | str name =>
      refine congrArg Except.ok (Option.eq_none_iff_forall_ne_some.mpr fun op hop => ?_)
      exact h op (congrArg Json.str (Condition.ofName?_eq_some.mp hop))
  | arr items => exact absurd (.inl ⟨items, rfl⟩) hv
  | obj members => exact absurd (.inr ⟨members, rfl⟩) hv

theorem Operator.ofJson?_of_isContainer {v : Json} (h : v.IsContainer) :
    ofJson? v = .error (.operatorNotHashable v.kind) := by
  rcases h with ⟨items, rfl⟩ | ⟨members, rfl⟩ <;> rfl

/-- A condition has an operator without a name if such a value was sent that does not count as absent:
in the place of an empty one stands a known operator. -/
theorem Condition.unnamed_iff_sent {members : Decode.Members} {c : Condition}
    (h : Condition.Described members c) : Operator.Unnamed c.operator ↔
      ∃ v, members.lookup "operator" = some v ∧ v.isEmpty = false ∧ Operator.Unnamed v := by
  have hdefault : ¬ Operator.Unnamed (.str "exact") := fun hu => hu (.exact true) rfl
  have hoperator := h.operator
  generalize members.lookup "operator" = sent, c.operator = operator at hoperator ⊢
  cases hoperator with
  | absent => simp [hdefault]
  | empty he => simp [hdefault, he]
  | given he => simp [he]

variable {c : Condition} {properties : Properties}

theorem Condition.holds_of_unnamed (h : Operator.Unnamed c.operator) (hv : ¬ c.operator.IsContainer)
    (properties : Properties) : c.holds properties = .ok false :=
  holds_of_unknown (Operator.ofJson?_of_unnamed h hv)

theorem Condition.holds_of_isContainer (h : c.operator.IsContainer) (properties : Properties) :
    c.holds properties = .error (.operatorNotHashable c.operator.kind) := by
  rw [holds, Operator.ofJson?_of_isContainer h]
  rfl

/-! ## The walk through the rule groups -/

namespace Flag

variable {flag : Flag} {digest : Digest} {subject : String} {before after groups : List RuleGroup}
  {group : RuleGroup} {rest : List Condition}

/-- A first condition that does not hold decides its group. -/
theorem groupMatches_of_first (h : group.conditions = c :: rest) (hc : c.holds properties ≠ .ok true) :
    flag.groupMatches digest subject properties group = c.holds properties := by
  rw [groupMatches, h, allHold]
  cases hholds : c.holds properties with
  | error e => rfl
  | ok holds =>
      cases holds with
      | false => rfl
      | true => exact absurd hholds hc

/-- The walk passes over groups of which none matches. -/
def PassesOver (digest : Digest) (flag : Flag) (subject : String) (properties : Properties)
    (groups : List RuleGroup) : Prop :=
  ∀ group ∈ groups, flag.groupMatches digest subject properties group = .ok false

/-- Groups that are passed over make no difference. -/
theorem firstMatch_append (h : flag.PassesOver digest subject properties before) :
    flag.firstMatch digest subject properties (before ++ after) =
      flag.firstMatch digest subject properties after := by
  induction before with
  | nil => rfl
  | cons group before ih =>
      obtain ⟨hgroup, hbefore⟩ := List.forall_mem_cons.mp h
      rw [List.cons_append, firstMatch, hgroup]
      exact ih hbefore

/-- A walk that comes to an end in the first groups does not go on to the others. -/
theorem firstMatch_append_of_not (h : ¬ flag.PassesOver digest subject properties before) :
    flag.firstMatch digest subject properties (before ++ after) =
      flag.firstMatch digest subject properties before := by
  induction before with
  | nil => exact absurd (fun group hgroup => absurd hgroup List.not_mem_nil) h
  | cons group before ih =>
      rw [List.cons_append, firstMatch, firstMatch]
      cases hgroup : flag.groupMatches digest subject properties group with
      | error e => rfl
      | ok found =>
          cases found with
          | true => rfl
          | false => exact ih fun hbefore => h (List.forall_mem_cons.mpr ⟨hgroup, hbefore⟩)

/-- The flag with other rule groups. -/
def setGroups (flag : Flag) (groups : List RuleGroup) : Flag :=
  { flag with filters := { flag.filters with groups } }

/-- A group matches, and a walk goes, without regard to the groups that the flag has. -/
theorem firstMatch_setGroups (others : List RuleGroup) :
    (flag.setGroups others).firstMatch digest subject properties groups =
      flag.firstMatch digest subject properties groups := by
  induction groups with
  | nil => rfl
  | cons group rest ih =>
      rw [firstMatch, firstMatch, ih]
      rfl

theorem evaluate_of_groups (h : flag.groups ≠ []) : flag.evaluate digest subject properties =
    flag.firstMatch digest subject properties flag.groups := by
  rw [evaluate, if_neg (by rwa [List.isEmpty_iff])]
  rfl

theorem evaluate_setGroups (h : groups ≠ []) :
    (flag.setGroups groups).evaluate digest subject properties =
      flag.firstMatch digest subject properties groups := by
  rw [evaluate_of_groups h, firstMatch_setGroups]
  rfl

/-! ## Added groups -/

/-- **A group that begins with an unknown operator is ignored, unless the operator is a list or an object.**
Let such a group be added to a flag with rule groups, at any place.

The outcome, value or error, stays as it was for everybody if the operator is neither a list nor an object.
If it is one, the outcome stays for whom the walk ends before the added group; for everybody else it is the
error that names the kind of the operator. -/
theorem newer_group_is_ignored_unless_container (hgroups : flag.groups = before ++ after)
    (hsome : flag.groups ≠ []) (hfirst : group.conditions = c :: rest)
    (hunknown : Operator.Unnamed c.operator) (digest : Digest) (subject : String) (properties : Properties) :
    (¬ c.operator.IsContainer ∨ ¬ flag.PassesOver digest subject properties before →
      (flag.setGroups (before ++ group :: after)).evaluate digest subject properties =
        flag.evaluate digest subject properties) ∧
    (c.operator.IsContainer → flag.PassesOver digest subject properties before →
      (flag.setGroups (before ++ group :: after)).evaluate digest subject properties =
        .error (.operatorNotHashable c.operator.kind)) := by
  rw [evaluate_setGroups (by simp), evaluate_of_groups hsome, hgroups]
  refine ⟨fun h => ?_, fun hcontainer hpasses => ?_⟩
  · by_cases hpasses : flag.PassesOver digest subject properties before
    · have hscalar := h.resolve_right (not_not.mpr hpasses)
      have hfalse := Condition.holds_of_unnamed hunknown hscalar properties
      have hgroup : flag.groupMatches digest subject properties group = .ok false := by
        rw [groupMatches_of_first hfirst (by simp [hfalse]), hfalse]
      rw [firstMatch_append hpasses, firstMatch_append hpasses, firstMatch, hgroup]
      rfl
    · rw [firstMatch_append_of_not hpasses, firstMatch_append_of_not hpasses]
  · have herror := Condition.holds_of_isContainer hcontainer properties
    have hgroup : flag.groupMatches digest subject properties group =
        .error (.operatorNotHashable c.operator.kind) := by
      rw [groupMatches_of_first hfirst (by simp [herror]), herror]
    rw [firstMatch_append hpasses, firstMatch, hgroup]
    rfl

/-- A flag for everybody stays on when a group comes in front that asks for an operator of a newer client. -/
theorem version_group_is_ignored :
    let everybody : RuleGroup := {}
    let flag : Flag := { key := "beta", filters := { groups := [everybody] } }
    let condition : Condition := { key := "version", operator := .str "semver_gt", value := .str "2.1" }
    let group : RuleGroup := { conditions := [condition] }
    let digest : Digest := fun _ => "8000000000000000000000000000000000000000"
    flag.groups = [] ++ [everybody] ∧ flag.groups ≠ [] ∧ group.conditions = [condition] ∧
      Operator.Unnamed condition.operator ∧ flag.evaluate digest "user" [] = .ok .on ∧
      (flag.setGroups ([] ++ group :: [everybody])).evaluate digest "user" [] = .ok .on := by
  intro everybody flag condition group digest
  have hgroups : flag.groups = [] ++ [everybody] := rfl
  have hsome : flag.groups ≠ [] := List.cons_ne_nil _ _
  have hfirst : group.conditions = [condition] := rfl
  have hunknown : Operator.Unnamed condition.operator := by
    intro op hop
    have hnone : Operator.ofName? "semver_gt" = none := by decide
    rw [Json.str.inj hop, Condition.ofName?_name] at hnone
    cases hnone
  have hscalar : ¬ condition.operator.IsContainer := by simp [Json.IsContainer, condition]
  obtain ⟨hignored, -⟩ :=
    newer_group_is_ignored_unless_container hgroups hsome hfirst hunknown digest "user" []
  have hon : flag.evaluate digest "user" [] = .ok .on := rfl
  exact ⟨hgroups, hsome, hfirst, hunknown, hon, (hignored (.inl hscalar)).trans hon⟩

/-- **A list of operators is not ignored**: a flag for everybody cannot be evaluated with a group that has
one, although a record may hold it. -/
theorem list_of_operators_is_not_ignored :
    let condition : Condition := { key := "plan", operator := .arr [.str "gt"], value := .int 1 }
    let group : RuleGroup := { conditions := [condition] }
    let flag : Flag := { key := "beta", active := false, filters := { groups := [{}] } }
    let digest : Digest := fun _ => "8000000000000000000000000000000000000000"
    Flag.ofJson (.obj [("key", .str "beta"), ("filters", .obj [("groups", .arr [.obj []])])]) = .ok flag ∧
      RuleGroup.ofJson (.obj [("properties", .arr [.obj [("key", .str "plan"),
        ("operator", condition.operator), ("value", .int 1)]])]) = .ok group ∧
      Operator.Unnamed condition.operator ∧ flag.evaluate digest "user" [] = .ok .on ∧
      (flag.setGroups (group :: flag.groups)).evaluate digest "user" [] =
        .error (.operatorNotHashable .arr) ∧
      (EvaluationError.operatorNotHashable .arr).report =
        .foreign ⟨.type, "unhashable type: 'list'"⟩ := by
  intro condition group flag digest
  refine ⟨rfl, rfl, fun op hop => ?_, rfl, rfl, rfl⟩
  cases hop

end Flag

end FeatureFlags
