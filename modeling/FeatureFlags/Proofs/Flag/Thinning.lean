import FeatureFlags.Evaluation.Rules
import FeatureFlags.Proofs.Flag.Grammar

/-!
# `Proofs.Flag.Thinning` — what may be left out of a listing

A listing is *thinned* by deleting members from its objects: members that are null, and members whose
names no reader asks for.  Reading takes little notice.  Conditions, groups and variants are read as the
same; only an object for variants that is left without members is no longer read as an empty list of
variants, but as none at all.  Both mean that the flag is just on where a group of it matches, so that
nobody gets another value (`thinned_listing_is_evaluated_alike`).

Two readings are compared by `Agree`: both fail with one error, or what they give is related.
-/

namespace FeatureFlags

open Decode

/-! ## Readings that agree -/

/-- Two results agree: they are the same error, or values that are related. -/
inductive Agree {ε α β : Type} (R : α → β → Prop) : Except ε α → Except ε β → Prop where
  | ok {a : α} {b : β} (h : R a b) : Agree R (.ok a) (.ok b)
  | error (e : ε) : Agree R (.error e) (.error e)

namespace Agree

variable {ε α β γ δ : Type} {R : α → β → Prop} {S : γ → δ → Prop}

theorem refl {R : α → α → Prop} (hR : ∀ a, R a a) (r : Except ε α) : Agree R r r := by
  cases r with
  | ok a => exact .ok (hR a)
  | error e => exact .error e

theorem eq {r r' : Except ε α} (h : Agree Eq r r') : r = r' := by
  cases h with
  | ok h => rw [h]
  | error e => rfl

theorem bind {r : Except ε α} {r' : Except ε β} {f : α → Except ε γ} {g : β → Except ε δ}
    (h : Agree R r r') (hf : ∀ a b, R a b → Agree S (f a) (g b)) : Agree S (r >>= f) (r' >>= g) := by
  cases h with
  | ok h => exact hf _ _ h
  | error e => exact .error e

/-- After one and the same beginning, sequences agree if what follows does. -/
theorem bind_same {r : Except ε α} {f : α → Except ε γ} {g : α → Except ε δ}
    (hf : ∀ a, Agree S (f a) (g a)) : Agree S (r >>= f) (r >>= g) := by
  cases r with
  | ok a => exact hf a
  | error e => exact .error e

/-- Results that a function maps to the same agree up to that function. -/
theorem of_map_eq {f : α → γ} {r r' : Except ε α} (h : f <$> r = f <$> r') :
    Agree (fun a b => f a = f b) r r' := by
  cases r with
  | ok a =>
      cases r' with
      | ok b => exact .ok (Except.ok.inj h)
      | error e => cases h
  | error e =>
      cases r' with
      | ok b => cases h
      | error e' =>
          obtain rfl := Except.error.inj h
          exact .error e

theorem mapM {T : γ → δ → Prop} {f : γ → Except ε α} {g : δ → Except ε β}
    (hf : ∀ c d, T c d → Agree R (f c) (g d)) {cs : List γ} {ds : List δ} (h : List.Forall₂ T cs ds) :
    Agree (List.Forall₂ R) (cs.mapM f) (ds.mapM g) := by
  induction h with
  | nil => exact .ok .nil
  | cons hcd _ ih =>
      rw [List.mapM_cons, List.mapM_cons]
      exact (hf _ _ hcd).bind fun _ _ hab => ih.bind fun _ _ hrest => .ok (.cons hab hrest)

end Agree

/-! ## Thinned objects -/

/-- The names that a reader asks an object for, each with what may be done to the value of that name. -/
abbrev Decode.Shape := List (String × (Json → Json → Prop))

/-- What may be done to a member that stays; the value of a name that nobody asks for is left alone. -/
def Decode.Shape.Inside (shape : Shape) (name : String) (v w : Json) : Prop :=
  match shape.lookup name with
  | some R => R v w
  | none => v = w

/-- **Members are deleted** that are null, or that nobody asks for.  The names of an object are distinct,
so that a null member that is deleted is the only one of its name. -/
inductive Thinned (shape : Shape) : Members → Members → Prop where
  | nil : Thinned shape [] []
  | null {name : String} {ms ns : Members} (distinct : ms.lookup name = none) (rest : Thinned shape ms ns) :
      Thinned shape ((name, .null) :: ms) ns
  | unread {name : String} {v : Json} {ms ns : Members} (h : shape.lookup name = none)
      (rest : Thinned shape ms ns) : Thinned shape ((name, v) :: ms) ns
  | kept {name : String} {v w : Json} {ms ns : Members} (h : shape.Inside name v w)
      (rest : Thinned shape ms ns) : Thinned shape ((name, v) :: ms) ((name, w) :: ns)

/-- An object is thinned; what is no object stays as it is. -/
inductive ObjectThinned (shape : Shape) : Json → Json → Prop where
  | same (v : Json) : ObjectThinned shape v v
  | object {ms ns : Members} (h : Thinned shape ms ns) : ObjectThinned shape (.obj ms) (.obj ns)

/-- Each item of a list is thinned; what is no list stays as it is. -/
inductive ItemsThinned (R : Json → Json → Prop) : Json → Json → Prop where
  | same (v : Json) : ItemsThinned R v v
  | items {vs ws : List Json} (h : List.Forall₂ R vs ws) : ItemsThinned R (.arr vs) (.arr ws)

/-- Nothing is deleted in the value of a condition. -/
def Condition.Thinned : Json → Json → Prop :=
  ObjectThinned [("key", Eq), ("operator", Eq), ("value", Eq), ("type", Eq)]

def RuleGroup.Thinned : Json → Json → Prop :=
  ObjectThinned [("properties", ItemsThinned Condition.Thinned), ("rollout_percentage", Eq)]

def Variant.Thinned : Json → Json → Prop :=
  ObjectThinned [("key", Eq), ("rollout_percentage", Eq), ("name", Eq)]

/-- The object that holds the variants of a flag is thinned. -/
def Variant.AllThinned : Json → Json → Prop :=
  ObjectThinned [("variants", ItemsThinned Variant.Thinned)]

def Filters.Thinned : Json → Json → Prop :=
  ObjectThinned [("groups", ItemsThinned RuleGroup.Thinned), ("multivariate", Variant.AllThinned),
    ("aggregation_group_type_index", Eq)]

def Flag.Thinned : Json → Json → Prop :=
  ObjectThinned [("key", Eq), ("is_simple_flag", Eq), ("rollout_percentage", Eq), ("active", Eq),
    ("filters", Filters.Thinned)]

/-- A listing is thinned, anywhere in it. -/
def Flag.AllThinned : Json → Json → Prop :=
  ObjectThinned [("results", ItemsThinned Flag.Thinned)]

section

variable {shape : Shape} {R : Json → Json → Prop} {ms ns : Members} {name : String} {v w : Json}

/-- A name that is absent stays absent. -/
theorem Thinned.lookup_eq_none (h : Thinned shape ms ns) (hn : ms.lookup name = none) :
    ns.lookup name = none := by
  rw [List.lookup_eq_none_iff] at hn ⊢
  induction h with
  | nil => exact hn
  | null _ _ ih | unread _ _ ih => exact ih (List.forall_mem_cons.mp hn).2
  | kept _ _ ih =>
      obtain ⟨hfirst, hrest⟩ := List.forall_mem_cons.mp hn
      exact List.forall_mem_cons.mpr ⟨hfirst, ih hrest⟩

/-- A member that a reader asks for is left, up to what may be done to its value; a null member may be
absent, which reads the same. -/
theorem Thinned.member (h : Thinned shape ms ns) (name : String) (hR : shape.lookup name = some R)
    (hnull : R .null .null) : R (Decode.member ms name) (Decode.member ns name) := by
  unfold Decode.member
  induction h with
  | nil => exact hnull
  | @null name' ms ns distinct rest ih =>
      rw [List.lookup_cons]
      by_cases hn : name = name'
      · -- the deleted member was the only one of its name, and what is absent reads as null
        subst hn
        rw [rest.lookup_eq_none distinct, beq_self_eq_true]
        exact hnull
      · rw [beq_eq_false_iff_ne.mpr hn]
        exact ih
  | @unread name' v ms ns hunread rest ih =>
      have hn : name ≠ name' := by
        rintro rfl
        cases hR.symm.trans hunread
      rw [List.lookup_cons, beq_eq_false_iff_ne.mpr hn]
      exact ih
  | @kept name' v w ms ns hinside rest ih =>
      rw [List.lookup_cons, List.lookup_cons]
      by_cases hn : name = name'
      · subst hn
        rw [beq_self_eq_true]
        simpa [Shape.Inside, hR] using hinside
      · rw [beq_eq_false_iff_ne.mpr hn]
        exact ih

/-- A member that stays as it is reads the same. -/
theorem Thinned.member_eq (h : Thinned shape ms ns) (name : String) (hR : shape.lookup name = some Eq) :
    Decode.member ns name = Decode.member ms name :=
  (h.member name hR rfl).symm

variable {α : Type} {what : String} {f : Json → Except DecodeError α}

/-- A thinned list is read alike if its items are. -/
theorem ItemsThinned.mapM_agree {S : α → α → Prop} (h : ItemsThinned R v w) (hS : ∀ a, S a a)
    (hf : ∀ v w, R v w → Agree S (f v) (f w)) :
    Agree (List.Forall₂ S) (list what v >>= fun items => items.mapM f)
      (list what w >>= fun items => items.mapM f) := by
  cases h with
  | same => exact .refl (fun as => List.forall₂_same.mpr fun a _ => hS a) _
  | items h => exact .mapM hf h

/-- A thinned list reads the same if its items do. -/
theorem ItemsThinned.mapM_eq (h : ItemsThinned R v w) (hf : ∀ v w, R v w → f w = f v) :
    (list what w >>= fun items => items.mapM f) = list what v >>= fun items => items.mapM f := by
  have hagree : Agree (List.Forall₂ Eq) (list what v >>= fun items => items.mapM f)
      (list what w >>= fun items => items.mapM f) :=
    h.mapM_agree (fun _ => rfl) fun v w hvw => hf v w hvw ▸ .refl (fun _ => rfl) _
  rw [List.forall₂_eq_eq_eq] at hagree
  exact hagree.eq.symm

end

/-! ## Thinned records are read as the same -/

section

variable {v w : Json}

theorem Condition.Thinned.ofJson_eq (h : Thinned v w) : ofJson w = ofJson v := by
  cases h with
  | same => rfl
  | object h =>
      simp only [ofJson, object, ok_bind, memberOr, h.member_eq "key" rfl, h.member_eq "operator" rfl,
        h.member_eq "value" rfl, h.member_eq "type" rfl]

theorem RuleGroup.Thinned.ofJson_eq (h : Thinned v w) : ofJson w = ofJson v := by
  cases h with
  | same => rfl
  | object h =>
      rw [ofJson_obj, ofJson_obj, h.member_eq "rollout_percentage" rfl,
        (h.member "properties" rfl (.same _)).mapM_eq fun _ _ => Condition.Thinned.ofJson_eq]

theorem Variant.Thinned.ofJson_eq (h : Thinned v w) : ofJson w = ofJson v := by
  cases h with
  | same => rfl
  | object h =>
      simp only [ofJson, object, ok_bind, memberOr, h.member_eq "key" rfl,
        h.member_eq "rollout_percentage" rfl, h.member_eq "name" rfl]

theorem Variant.AllThinned.listOfJson_eq (h : AllThinned v w) : listOfJson w = listOfJson v := by
  cases h with
  | same => rfl
  | object h => exact (h.member "variants" rfl (.same _)).mapM_eq fun _ _ => Variant.Thinned.ofJson_eq

/-- An object without members is read as no variants, where the reader of variants reads an empty list. -/
theorem Variant.map_optionalOfJson {members : Members} :
    (fun variants => variants.getD []) <$> optionalOfJson (.obj members) = listOfJson (.obj members) := by
  unfold optionalOfJson
  cases members with
  | nil => rfl
  | cons m rest =>
      rw [if_neg (by simp [Json.isEmpty])]
      cases listOfJson (.obj (m :: rest)) <;> rfl

/-- What is read of thinned variants differs at most in that an empty list of them is none. -/
theorem Variant.AllThinned.optionalOfJson (h : AllThinned v w) :
    Agree (fun a b => a.getD [] = b.getD []) (optionalOfJson v) (Variant.optionalOfJson w) := by
  cases h with
  | same => exact .refl (fun a => Eq.refl (a.getD [])) _
  | @object ms ns h =>
      have hlist : listOfJson (.obj ns) = listOfJson (.obj ms) := AllThinned.listOfJson_eq (.object h)
      exact .of_map_eq (by rw [map_optionalOfJson, map_optionalOfJson, hlist])

/-- Rules that are the same but for empty lists of variants, which may be none. -/
structure Filters.Alike (filters filters' : Filters) : Prop where
  groups : filters'.groups = filters.groups
  variants : filters'.variants.getD [] = filters.variants.getD []
  groupTypeIndex : filters'.groupTypeIndex = filters.groupTypeIndex

theorem Filters.Alike.refl (filters : Filters) : filters.Alike filters := ⟨rfl, rfl, rfl⟩

theorem Filters.Thinned.ofJson (h : Thinned v w) : Agree Alike (ofJson v) (Filters.ofJson w) := by
  cases h with
  | same => exact .refl .refl _
  | object h =>
      rw [ofJson_obj, ofJson_obj, h.member_eq "aggregation_group_type_index" rfl,
        (h.member "groups" rfl (.same _)).mapM_eq fun _ _ => RuleGroup.Thinned.ofJson_eq]
      refine .bind_same fun _ => .bind_same fun _ => ?_
      exact (Variant.AllThinned.optionalOfJson (h.member "multivariate" rfl (.same _))).bind
        fun _ _ hvariants => .ok ⟨rfl, hvariants.symm, rfl⟩

/-- Flags that are the same but for empty lists of variants, which may be none. -/
structure Flag.Alike (flag flag' : Flag) : Prop where
  key : flag'.key = flag.key
  isSimple : flag'.isSimple = flag.isSimple
  rollout : flag'.rollout = flag.rollout
  active : flag'.active = flag.active
  filters : flag.filters.Alike flag'.filters

theorem Flag.Alike.refl (flag : Flag) : flag.Alike flag := ⟨rfl, rfl, rfl, rfl, .refl _⟩

theorem Flag.Thinned.ofJson (h : Thinned v w) : Agree Alike (ofJson v) (Flag.ofJson w) := by
  cases h with
  | same => exact .refl .refl _
  | object h =>
      simp only [Flag.ofJson, object, ok_bind, h.member_eq "key" rfl, h.member_eq "is_simple_flag" rfl,
        h.member_eq "rollout_percentage" rfl, h.member_eq "active" rfl]
      refine .bind_same fun _ => .bind_same fun _ => .bind_same fun _ => .bind_same fun _ => ?_
      exact (Filters.Thinned.ofJson (h.member "filters" rfl (.same _))).bind
        fun _ _ hfilters => .ok ⟨rfl, rfl, rfl, rfl, hfilters⟩

/-- A thinned listing is read as flags that are alike, or fails with the same error. -/
theorem Flag.AllThinned.listOfJson (h : AllThinned v w) :
    Agree (List.Forall₂ Alike) (listOfJson v) (Flag.listOfJson w) := by
  cases h with
  | same => exact .refl (fun flags => List.forall₂_same.mpr fun flag _ => .refl flag) _
  | object h => exact (h.member "results" rfl (.same _)).mapM_agree .refl fun _ _ => Flag.Thinned.ofJson

end

/-! ## Flags that are alike -/

namespace Flag

variable {digest : Digest} {flag flag' : Flag} {subject : String} {properties : Properties}

/-- Once a group has matched, the variant is resolved, also where there are no variants. -/
theorem matchedValue_eq_resolveVariant :
    flag.matchedValue digest subject = flag.resolveVariant digest subject := by
  unfold matchedValue
  cases hv : flag.variants with
  | some variants => rfl
  | none =>
      -- the table of no variants has no ranges, so that nobody is found in it and no digest is asked for
      unfold resolveVariant
      rw [hv]
      rfl

theorem Alike.matchedValue_eq (h : flag.Alike flag') :
    flag'.matchedValue digest subject = flag.matchedValue digest subject := by
  simp only [matchedValue_eq_resolveVariant, resolveVariant, variants, h.filters.variants, h.key]

theorem Alike.groupMatches_eq (h : flag.Alike flag') {group : RuleGroup} :
    flag'.groupMatches digest subject properties group =
      flag.groupMatches digest subject properties group := by
  simp only [groupMatches, h.key]

theorem Alike.firstMatch_eq (h : flag.Alike flag') {groups : List RuleGroup} :
    flag'.firstMatch digest subject properties groups = flag.firstMatch digest subject properties groups := by
  induction groups with
  | nil => rfl
  | cons group rest ih => simp only [firstMatch, h.groupMatches_eq, h.matchedValue_eq, ih]

/-- **Flags that are alike have the same value for everybody.** -/
theorem Alike.evaluate_eq (h : flag.Alike flag') :
    flag'.evaluate digest subject properties = flag.evaluate digest subject properties := by
  simp only [evaluate, matchGroups, simpleRollout, groups, h.filters.groups, h.isSimple, h.key, h.rollout,
    h.firstMatch_eq]

/-- **A thinned listing is evaluated alike.**  Both listings are refused with the same error; or both are
read, as equally many flags, and flags that correspond have the same key, are both active or both not, are
decided for groups of the same type, and have the same value, or fail with the same error, for every
subject and all properties. -/
theorem thinned_listing_is_evaluated_alike {v w : Json} (h : AllThinned v w) :
    (∃ e, listOfJson v = .error e ∧ listOfJson w = .error e) ∨
      ∃ flags flags', listOfJson v = .ok flags ∧ listOfJson w = .ok flags' ∧
        flags'.length = flags.length ∧
        List.Forall₂ (fun flag flag' => flag'.key = flag.key ∧ flag'.active = flag.active ∧
          flag'.filters.groupTypeIndex = flag.filters.groupTypeIndex ∧
          ∀ digest subject properties,
            flag'.evaluate digest subject properties = flag.evaluate digest subject properties)
          flags flags' := by
  have hagree := h.listOfJson
  generalize listOfJson v = r at hagree ⊢
  generalize listOfJson w = r' at hagree ⊢
  cases hagree with
  | error e => exact .inl ⟨e, rfl, rfl⟩
  | ok halike =>
      refine .inr ⟨_, _, rfl, rfl, halike.length_eq.symm, halike.imp fun flag flag' hflag => ?_⟩
      exact ⟨hflag.key, hflag.active, hflag.filters.groupTypeIndex, fun _ _ _ => hflag.evaluate_eq⟩

/-- A listing with members that are null, and others that nobody asks for. -/
def wordyListing : Json :=
  .obj [("next", .null), ("results", .arr [.obj [("key", .str "beta"), ("legacy", .int 1),
    ("active", .bool true), ("rollout_percentage", .null), ("filters", .obj
      [("groups", .arr [.obj [("properties", .arr [.obj [("key", .str "plan"), ("operator", .null),
        ("value", .str "large")]]), ("rollout_percentage", .null)]]),
      ("multivariate", .obj [("note", .str "none yet")])])]])]

/-- The same listing without them. -/
def terseListing : Json :=
  .obj [("results", .arr [.obj [("key", .str "beta"), ("active", .bool true), ("filters", .obj
    [("groups", .arr [.obj [("properties", .arr [.obj [("key", .str "plan"), ("value", .str "large")]])]]),
    ("multivariate", .obj [])])]])]

/-- The flag of both listings, with the given variants. -/
def withVariants (variants : Option (List Variant)) : Flag where
  key := "beta"
  filters := { groups := [{ conditions := [{ key := "plan", value := .str "large" }] }], variants }

/-- The object for variants that has lost its note is read as no variants instead of an empty list; the flag
has the same value for everybody. -/
theorem wordy_and_terse_are_evaluated_alike :
    AllThinned wordyListing terseListing ∧ listOfJson wordyListing = .ok [withVariants (some [])] ∧
      listOfJson terseListing = .ok [withVariants none] ∧
      ∀ digest subject properties, (withVariants none).evaluate digest subject properties =
        (withVariants (some [])).evaluate digest subject properties := by
  have hcondition : Condition.Thinned
      (.obj [("key", .str "plan"), ("operator", .null), ("value", .str "large")])
      (.obj [("key", .str "plan"), ("value", .str "large")]) :=
    .object (.kept rfl (.null rfl (.kept rfl .nil)))
  have hthinned : AllThinned wordyListing terseListing := by
    refine .object (.null rfl (.kept (.items (.cons (.object ?_) .nil)) .nil))
    refine .kept rfl (.unread rfl (.kept rfl (.null rfl (.kept (.object ?_) .nil))))
    refine .kept (.items (.cons (.object ?_) .nil)) (.kept (.object (.unread rfl .nil)) .nil)
    exact .kept (.items (.cons hcondition .nil)) (.null rfl .nil)
  have hwordy : listOfJson wordyListing = .ok [withVariants (some [])] := rfl
  have hterse : listOfJson terseListing = .ok [withVariants none] := rfl
  refine ⟨hthinned, hwordy, hterse, ?_⟩
  rcases thinned_listing_is_evaluated_alike hthinned with ⟨e, he, _⟩ | ⟨_, _, hread, hread', _, halike⟩
  · cases hwordy.symm.trans he
  · obtain rfl := Except.ok.inj (hwordy.symm.trans hread)
    obtain rfl := Except.ok.inj (hterse.symm.trans hread')
    cases halike with
    | cons hflag _ => exact hflag.2.2.2

end Flag

end FeatureFlags
