import FeatureFlags.Proofs.Evaluation.Place
import Mathlib.Data.List.Forall2

/-!
# `Proofs.Evaluation.Rearrangement` — the order of groups and conditions matters only for errors

The walk through the rule groups of a flag ends at the first group that matches, and within a group at the
first condition that does not hold.  The order therefore decides which conditions are looked at, and so
which errors come up.  It does not decide what a value says: a value tells whether any of the groups is
*satisfied* (`firstMatch_settled`), and being satisfied does not depend on any order.

`order_matters_only_for_errors` compares two flags that differ in the order of their groups, and of the
conditions within the groups.

## Contents

1. Satisfied groups
2. Rearranged flags
3. Conditions that can be decided
4. The theorem, and an error that comes and goes
-/

namespace FeatureFlags

variable {digest : Digest} {flag other : Flag} {subject : String} {properties : Properties}
  {conditions : List Condition} {group : RuleGroup} {groups : List RuleGroup}

/-! ## Satisfied groups -/

/-- A group of a flag that admits a subject: all its conditions hold, and so does its gate. -/
structure RuleGroup.Satisfied (digest : Digest) (flag : Flag) (subject : String) (properties : Properties)
    (group : RuleGroup) : Prop where
  conditions : ∀ c ∈ group.conditions, c.holds properties = .ok true
  gate : ∀ percentage ∈ group.rollout, Bucket.admits digest flag.key subject (.float percentage) = .ok true

theorem allHold_eq_true_iff :
    allHold properties conditions = .ok true ↔ ∀ c ∈ conditions, c.holds properties = .ok true := by
  induction conditions with
  | nil => simp [allHold]
  | cons c rest ih =>
      rw [List.forall_mem_cons, ← ih, allHold]
      cases hc : c.holds properties with
      | error e => simp [bind, Except.bind]
      | ok holds => cases holds <;> simp [bind, Except.bind, pure, Except.pure]

namespace Flag

/-- A group matches if, and only if, it is satisfied. -/
theorem groupMatches_eq_true_iff : flag.groupMatches digest subject properties group = .ok true ↔
    group.Satisfied digest flag subject properties := by
  have hsatisfied : group.Satisfied digest flag subject properties ↔
      allHold properties group.conditions = .ok true ∧
        ∀ percentage ∈ group.rollout,
          Bucket.admits digest flag.key subject (.float percentage) = .ok true := by
    rw [allHold_eq_true_iff]
    exact ⟨fun h => ⟨h.conditions, h.gate⟩, fun h => ⟨h.1, h.2⟩⟩
  rw [hsatisfied, groupMatches]
  cases allHold properties group.conditions with
  | error e => simp [bind, Except.bind]
  | ok hold =>
      cases hold with
      | false => simp [bind, Except.bind, pure, Except.pure]
      | true =>
          cases group.rollout with
          | none => simp [bind, Except.bind, pure, Except.pure]
          | some percentage => simp [bind, Except.bind]

/-- **What a value says**: that a group is satisfied, and then it is the value of the flag, or that none
is. -/
theorem firstMatch_settled {value : FlagValue}
    (h : flag.firstMatch digest subject properties groups = .ok value) :
    ((∃ group ∈ groups, group.Satisfied digest flag subject properties) ∧
        flag.matchedValue digest subject = .ok value) ∨
      ((∀ group ∈ groups, ¬ group.Satisfied digest flag subject properties) ∧ value = .off) := by
  induction groups with
  | nil => exact .inr ⟨by simp, (Except.ok.inj h).symm⟩
  | cons group rest ih =>
      unfold firstMatch at h
      cases hm : flag.groupMatches digest subject properties group with
      | error e => rw [hm] at h; cases h
      | ok found =>
          rw [hm] at h
          cases found with
          | true => exact .inl ⟨⟨group, by simp, groupMatches_eq_true_iff.mp hm⟩, h⟩
          | false =>
              have hnot : ¬ group.Satisfied digest flag subject properties := by
                rw [← groupMatches_eq_true_iff, hm]
                simp
              rcases ih h with ⟨⟨other, hmem, hs⟩, hvalue⟩ | ⟨hnone, hvalue⟩
              · exact .inl ⟨⟨other, by simp [hmem], hs⟩, hvalue⟩
              · exact .inr ⟨List.forall_mem_cons.mpr ⟨hnot, hnone⟩, hvalue⟩

end Flag

/-! ## Rearranged flags -/

/-- A group with the same gate, and the same conditions in any order. -/
structure RuleGroup.Rearranged (group other : RuleGroup) : Prop where
  conditions : group.conditions.Perm other.conditions
  rollout : other.rollout = group.rollout

/-- A flag with the same key and variants, and the same groups in any order, each of them rearranged. -/
structure Flag.Rearranged (flag other : Flag) : Prop where
  key : other.key = flag.key
  variants : other.variants = flag.variants
  groups : ∃ reordered, flag.groups.Perm reordered ∧
    List.Forall₂ RuleGroup.Rearranged reordered other.groups

theorem RuleGroup.Rearranged.satisfied_iff {rearranged : RuleGroup} (h : group.Rearranged rearranged)
    (hkey : other.key = flag.key) :
    rearranged.Satisfied digest other subject properties ↔
      group.Satisfied digest flag subject properties := by
  constructor
  · rintro ⟨hconditions, hgate⟩
    rw [h.rollout, hkey] at hgate
    exact ⟨fun c hc => hconditions c (h.conditions.mem_iff.mp hc), hgate⟩
  · rintro ⟨hconditions, hgate⟩
    refine ⟨fun c hc => hconditions c (h.conditions.mem_iff.mpr hc), ?_⟩
    rwa [h.rollout, hkey]

namespace Flag

theorem Rearranged.exists_satisfied_iff (h : flag.Rearranged other) :
    (∃ group ∈ other.groups, group.Satisfied digest other subject properties) ↔
      ∃ group ∈ flag.groups, group.Satisfied digest flag subject properties := by
  obtain ⟨reordered, hperm, hgroups⟩ := h.groups
  have hkey := h.key
  simp only [hperm.mem_iff]
  -- the groups now correspond one by one, and the induction goes along both lists
  generalize other.groups = rearranged at hgroups
  clear hperm
  induction hgroups with
  | nil => simp
  | cons hgroup _ ih => simp only [List.exists_mem_cons_iff, hgroup.satisfied_iff hkey, ih]

theorem Rearranged.matchedValue_eq (h : flag.Rearranged other) :
    other.matchedValue digest subject = flag.matchedValue digest subject := by
  simp only [matchedValue, resolveVariant, h.variants, h.key]

/-- Two values of flags of which one is rearranged are the same. -/
theorem Rearranged.value_eq (h : flag.Rearranged other) {value value' : FlagValue}
    (hvalue : flag.matchGroups digest subject properties = .ok value)
    (hvalue' : other.matchGroups digest subject properties = .ok value') : value' = value := by
  rcases firstMatch_settled hvalue with ⟨hsome, hresolved⟩ | ⟨hnone, rfl⟩
  · rcases firstMatch_settled hvalue' with ⟨_, hresolved'⟩ | ⟨hnone', _⟩
    · rw [h.matchedValue_eq, hresolved] at hresolved'
      exact (Except.ok.inj hresolved').symm
    · obtain ⟨group, hmem, hs⟩ := h.exists_satisfied_iff.mpr hsome
      exact absurd hs (hnone' group hmem)
  · rcases firstMatch_settled hvalue' with ⟨hsome', _⟩ | ⟨_, rfl⟩
    · obtain ⟨group, hmem, hs⟩ := h.exists_satisfied_iff.mp hsome'
      exact absurd hs (hnone group hmem)
    · rfl

end Flag

/-! ## Conditions that can be decided -/

/-- A list of conditions of which each can be decided from the properties. -/
def Decided (properties : Properties) (conditions : List Condition) : Prop :=
  ∀ c ∈ conditions, ∃ holds, c.holds properties = .ok holds

theorem exists_allHold (h : Decided properties conditions) :
    ∃ hold, allHold properties conditions = .ok hold := by
  induction conditions with
  | nil => exact ⟨true, rfl⟩
  | cons c rest ih =>
      obtain ⟨⟨holds, hc⟩, hrest⟩ := List.forall_mem_cons.mp h
      rw [allHold, hc]
      cases holds with
      | true => exact ih hrest
      | false => exact ⟨false, rfl⟩

namespace Flag

/-- **If all conditions can be decided, the flag can.** -/
theorem exists_matchGroups (hdigest : ∀ text, IsHex (digest text))
    (h : ∀ group ∈ flag.groups, Decided properties group.conditions) :
    ∃ value, flag.matchGroups digest subject properties = .ok value := by
  obtain ⟨place, hplace⟩ := Bucket.exists_place hdigest flag.key subject ""
  obtain ⟨variantPlace, hvariantPlace⟩ := Bucket.exists_place hdigest flag.key subject VariantRange.salt
  unfold matchGroups
  generalize flag.groups = groups at h
  induction groups with
  | nil => exact ⟨.off, rfl⟩
  | cons group rest ih =>
      obtain ⟨hgroup, hrest⟩ := List.forall_mem_cons.mp h
      obtain ⟨hold, hhold⟩ := exists_allHold hgroup
      rw [firstMatch, groupMatches_of_place hplace, hhold]
      simp only [Functor.map, Except.map, bind, Except.bind]
      split
      · obtain ⟨value, hvalue, _⟩ := exists_matchedValue hvariantPlace
        exact ⟨value, hvalue⟩
      · exact ih hrest

theorem Rearranged.decided (h : flag.Rearranged other)
    (hd : ∀ group ∈ flag.groups, Decided properties group.conditions) :
    ∀ group ∈ other.groups, Decided properties group.conditions := by
  obtain ⟨reordered, hperm, hgroups⟩ := h.groups
  have hreordered : ∀ group ∈ reordered, Decided properties group.conditions :=
    fun group hmem => hd group (hperm.mem_iff.mpr hmem)
  generalize other.groups = rearranged at hgroups
  clear hperm
  induction hgroups with
  | nil => simp
  | cons hgroup _ ih =>
      obtain ⟨hfirst, hrest⟩ := List.forall_mem_cons.mp hreordered
      refine List.forall_mem_cons.mpr ⟨fun c hc => ?_, ih hrest⟩
      exact hfirst c (hgroup.conditions.mem_iff.mpr hc)

/-! ## The theorem, and an error that comes and goes -/

/-- **The order of groups and conditions matters only for errors.**  Let a flag be rearranged.  If both
flags have a value for a subject, it is the same value; so where one is off, the other one is off or cannot
be evaluated.  Where all conditions can be decided, neither ends in an error, and the order does not matter
at all. -/
theorem order_matters_only_for_errors (h : flag.Rearranged other) (digest : Digest) (subject : String)
    (properties : Properties) :
    (∀ value value', flag.matchGroups digest subject properties = .ok value →
        other.matchGroups digest subject properties = .ok value' → value' = value) ∧
      (flag.matchGroups digest subject properties = .ok .off →
        other.matchGroups digest subject properties = .ok .off ∨
          ∃ e, other.matchGroups digest subject properties = .error e) ∧
      ((∀ text, IsHex (digest text)) →
        (∀ group ∈ flag.groups, Decided properties group.conditions) →
          ∃ value, flag.matchGroups digest subject properties = .ok value ∧
            other.matchGroups digest subject properties = .ok value) := by
  refine ⟨fun value value' => h.value_eq, fun hoff => ?_, fun hdigest hd => ?_⟩
  · cases hother : other.matchGroups digest subject properties with
    | error e => exact .inr ⟨e, rfl⟩
    | ok value => exact .inl (by rw [h.value_eq hoff hother])
  · obtain ⟨value, hvalue⟩ : ∃ value, flag.matchGroups digest subject properties = .ok value :=
      exists_matchGroups hdigest hd
    obtain ⟨value', hvalue'⟩ : ∃ value, other.matchGroups digest subject properties = .ok value :=
      exists_matchGroups hdigest (h.decided hd)
    exact ⟨value, hvalue, by rw [hvalue', h.value_eq hvalue hvalue']⟩

/-- Two groups of conditions, in an order of their own. -/
def ofGroups (groups : List (List Condition)) : Flag where
  key := "beta"
  filters := { groups := groups.map fun conditions => { conditions } }

/-- A condition that asks whether there is a property. -/
def given (key : String) : Condition := { key, operator := .str "is_set" }

/-- A flag for members with a plan, or for testers, and the same flag from back to front. -/
theorem members_or_testers_in_any_order :
    let digest : Digest := fun _ => "8000000000000000000000000000000000000000"
    let properties : Properties := [("member", .bool true), ("plan", .str "pro")]
    let flag := ofGroups [[given "tester"], [given "member", given "plan"]]
    let other := ofGroups [[given "plan", given "member"], [given "tester"]]
    flag.Rearranged other ∧ (∀ text, IsHex (digest text)) ∧
      (∀ group ∈ flag.groups, Decided properties group.conditions) ∧
      flag.matchGroups digest "user" properties = .ok .on ∧
      other.matchGroups digest "user" properties = .ok .on := by
  intro digest properties flag other
  have hdigest (text : String) : IsHex (digest text) := by
    show IsHex "8000000000000000000000000000000000000000"
    decide +kernel
  have hrearranged : flag.Rearranged other := by
    refine ⟨rfl, rfl, _, List.Perm.swap _ _ _, .cons ⟨?_, rfl⟩ (.cons ⟨?_, rfl⟩ .nil)⟩
    · exact List.Perm.swap _ _ _
    · exact .refl _
  have hdecided : ∀ group ∈ flag.groups, Decided properties group.conditions := by
    intro group hgroup c hc
    obtain ⟨conditions, hconditions, rfl⟩ := List.mem_map.mp hgroup
    obtain ⟨key, rfl⟩ : ∃ key, c = given key := by
      simp only [List.mem_cons, List.not_mem_nil, or_false] at hconditions
      rcases hconditions with rfl | rfl <;> simp only [List.mem_cons, List.not_mem_nil, or_false] at hc
      · exact ⟨_, hc⟩
      · rcases hc with rfl | rfl <;> exact ⟨_, rfl⟩
    exact ⟨_, rfl⟩
  have hon : flag.matchGroups digest "user" properties = .ok .on := rfl
  obtain ⟨value, hvalue, hvalue'⟩ :=
    (order_matters_only_for_errors hrearranged digest "user" properties).2.2 hdigest hdecided
  obtain rfl := Except.ok.inj (hon.symm.trans hvalue)
  exact ⟨hrearranged, hdigest, hdecided, hon, hvalue'⟩

/-- A condition that cannot be decided comes up if nothing before it has matched. -/
example :
    let absent : Condition := { key := "tester", operator := .str "is_not_set" }
    (ofGroups [[given "plan"], [absent]]).matchGroups (fun _ => "") "user" [("plan", .str "pro")] =
        .ok .on ∧
      (ofGroups [[absent], [given "plan"]]).matchGroups (fun _ => "") "user" [("plan", .str "pro")] =
        .error .absenceUndecidable :=
  ⟨rfl, rfl⟩

end Flag

end FeatureFlags
