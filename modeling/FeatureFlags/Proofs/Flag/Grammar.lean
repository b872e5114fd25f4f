import FeatureFlags.Flag.Decode
import Mathlib.Data.List.Forall2

/-!
# `Proofs.Flag.Grammar` — which values are listings of flags, and what they say

A listing is read by readers that call each other.  Here its grammar is written down without them, from
the outside in `IsRecord` (what a record may look like) and `Described` (what its members say about the
condition, the group or the flag that it is the record of).

Each reader succeeds where the grammar has the value, and gives what is described (`ofJson_eq_ok`).  The
main statement, `listing_is_read_iff_grammatical`, puts this together for whole listings: everything else
is refused, with an error of decoding.

## Contents

1. Shapes of members
2. The grammar
3. What records say
4. Readers of members
5. Readers of records
6. Listings
-/

namespace FeatureFlags

open Decode

/-! ## Shapes of members -/

namespace Record

/-- A member that can be left out: it is absent or null, or it has a shape. -/
inductive Optional (P : Json → Prop) : Option Json → Prop where
  | absent : Optional P none
  | null : Optional P (some .null)
  | given {v : Json} (h : P v) : Optional P (some v)

/-- An object, by its members. -/
def IsObject (P : Members → Prop) (v : Json) : Prop := ∃ members, v = .obj members ∧ P members

/-- A list, by its items. -/
def IsListOf (P : Json → Prop) (v : Json) : Prop := ∃ items, v = .arr items ∧ ∀ item ∈ items, P item

def IsBoolean (v : Json) : Prop := ∃ b, v = .bool b

/-- A number, which a boolean is not. -/
def IsNumber (v : Json) : Prop := ∃ n, v = .number n

def IsInteger (v : Json) : Prop := ∃ n, v = .int n

/-- What a member that can be left out says: if it is absent or null, that which stands for it. -/
inductive Says {α : Type} (absent : α) (S : Json → α → Prop) : Option Json → α → Prop where
  | absent : Says absent S none absent
  | null : Says absent S (some .null) absent
  | given {v : Json} {a : α} (h : S v a) : Says absent S (some v) a

/-- What a list says, item by item and in order. -/
def ListSays {α : Type} (S : Json → α → Prop) (v : Json) (as : List α) : Prop :=
  ∃ items, v = .arr items ∧ List.Forall₂ S items as

/-- What a percentage says: the number, brought into the range from 0 to 100. -/
def PercentageSays (v : Json) (rollout : Option Binary64) : Prop :=
  ∃ n, v = .number n ∧ rollout = some n.clampPercent

/-- What a member says in whose place a default stands if it is absent or empty. -/
inductive OrDefault (default : Json) : Option Json → Json → Prop where
  | absent : OrDefault default none default
  | empty {v : Json} (h : v.isEmpty) : OrDefault default (some v) default
  | given {v : Json} (h : v.isEmpty = false) : OrDefault default (some v) v

end Record

open Record

/-! ## The grammar -/

/-- The members of a condition. -/
structure Condition.IsRecord (members : Members) : Prop where
  key : ∃ key, members.lookup "key" = some (.str key)

/-- The members of a rule group. -/
structure RuleGroup.IsRecord (members : Members) : Prop where
  conditions : Optional (IsListOf (IsObject Condition.IsRecord)) (members.lookup "properties")
  rollout : Optional IsNumber (members.lookup "rollout_percentage")

/-- The members of a variant. -/
structure Variant.IsRecord (members : Members) : Prop where
  key : ∃ key, members.lookup "key" = some (.str key)
  rollout : Optional IsNumber (members.lookup "rollout_percentage")

/-- The members of the object that holds the variants of a flag. -/
structure Variant.AreRecords (members : Members) : Prop where
  variants : Optional (IsListOf (IsObject Variant.IsRecord)) (members.lookup "variants")

/-- The members of the rules of a flag.  In the place of the variants, any empty value will do. -/
structure Filters.IsRecord (members : Members) : Prop where
  groups : Optional (IsListOf (IsObject RuleGroup.IsRecord)) (members.lookup "groups")
  variants : ∀ v, members.lookup "multivariate" = some v → v.isEmpty ∨ IsObject Variant.AreRecords v
  groupTypeIndex : Optional IsInteger (members.lookup "aggregation_group_type_index")

/-- The members of a flag. -/
structure Flag.IsRecord (members : Members) : Prop where
  key : ∃ key, members.lookup "key" = some (.str key) ∧ key ≠ ""
  isSimple : Optional IsBoolean (members.lookup "is_simple_flag")
  rollout : Optional IsNumber (members.lookup "rollout_percentage")
  active : Optional IsBoolean (members.lookup "active")
  filters : Optional (IsObject Filters.IsRecord) (members.lookup "filters")

/-- The members of a listing. -/
structure Flag.AreRecords (members : Members) : Prop where
  flags : Optional (IsListOf (IsObject Flag.IsRecord)) (members.lookup "results")

/-! ## What records say -/

/-- The members describe a condition. -/
structure Condition.Described (members : Members) (c : Condition) : Prop where
  key : members.lookup "key" = some (.str c.key)
  operator : OrDefault (.str "exact") (members.lookup "operator") c.operator
  value : (members.lookup "value").getD .null = c.value
  scope : OrDefault (.str "person") (members.lookup "type") c.scope

/-- The members describe a rule group. -/
structure RuleGroup.Described (members : Members) (group : RuleGroup) : Prop where
  conditions : Says [] (ListSays fun v c => IsObject (Condition.Described · c) v)
    (members.lookup "properties") group.conditions
  rollout : Says none PercentageSays (members.lookup "rollout_percentage") group.rollout

/-- The members describe a variant. -/
structure Variant.Described (members : Members) (variant : Variant) : Prop where
  key : members.lookup "key" = some (.str variant.key)
  rollout : Says none PercentageSays (members.lookup "rollout_percentage") variant.rollout
  name : OrDefault (.str "") (members.lookup "name") variant.name

/-- The members describe the variants of a flag, in their order. -/
structure Variant.AllDescribed (members : Members) (variants : List Variant) : Prop where
  variants : Says [] (ListSays fun v variant => IsObject (Variant.Described · variant) v)
    (members.lookup "variants") variants

/-- What is said about variants where a flag need not have any. -/
inductive Variant.MaybeDescribed : Option Json → Option (List Variant) → Prop where
  | absent : MaybeDescribed none none
  | empty {v : Json} (h : v.isEmpty) : MaybeDescribed (some v) none
  | given {v : Json} {variants : List Variant} (h : v.isEmpty = false)
      (hv : IsObject (Variant.AllDescribed · variants) v) : MaybeDescribed (some v) (some variants)

/-- The members describe the rules of a flag. -/
structure Filters.Described (members : Members) (filters : Filters) : Prop where
  groups : Says [] (ListSays fun v group => IsObject (RuleGroup.Described · group) v)
    (members.lookup "groups") filters.groups
  variants : Variant.MaybeDescribed (members.lookup "multivariate") filters.variants
  groupTypeIndex : Says none (fun v index => ∃ n, v = .int n ∧ index = some n)
    (members.lookup "aggregation_group_type_index") filters.groupTypeIndex

/-- The members describe a flag. -/
structure Flag.Described (members : Members) (flag : Flag) : Prop where
  key : members.lookup "key" = some (.str flag.key)
  key_ne : flag.key ≠ ""
  isSimple : Says false (fun v b => v = .bool b) (members.lookup "is_simple_flag") flag.isSimple
  rollout : Says none PercentageSays (members.lookup "rollout_percentage") flag.rollout
  active : Says false (fun v b => v = .bool b) (members.lookup "active") flag.active
  filters : Says {} (fun v filters => IsObject (Filters.Described · filters) v)
    (members.lookup "filters") flag.filters

/-- The members describe a listing: one flag for each item, in order. -/
structure Flag.AllDescribed (members : Members) (flags : List Flag) : Prop where
  flags : Says [] (ListSays fun v flag => IsObject (Flag.Described · flag) v)
    (members.lookup "results") flags

/-! ## Readers of members -/

section

variable {ε α β : Type}

/-- A sequence gives a value if its parts do. -/
theorem bind_eq_ok {r : Except ε α} {f : α → Except ε β} {b : β} :
    r >>= f = .ok b ↔ ∃ a, r = .ok a ∧ f a = .ok b := by
  cases r with
  | ok a => simp [Bind.bind, Except.bind]
  | error e => simp [Bind.bind, Except.bind]

theorem ok_bind {a : α} {f : α → Except ε β} : (.ok a : Except ε α) >>= f = f a := rfl

theorem map_eq_ok {r : Except ε α} {f : α → β} {b : β} :
    f <$> r = .ok b ↔ ∃ a, r = .ok a ∧ f a = b := by
  cases r with
  | ok a => simp [Functor.map, Except.map]
  | error e => simp [Functor.map, Except.map]

theorem pure_eq_ok {a b : α} : (pure a : Except ε α) = .ok b ↔ a = b := by
  simp [pure, Except.pure]

/-- A list is read item by item. -/
theorem mapM_eq_ok {f : α → Except ε β} {as : List α} {bs : List β} :
    as.mapM f = .ok bs ↔ List.Forall₂ (fun a b => f a = .ok b) as bs := by
  induction as generalizing bs with
  | nil => cases bs <;> simp [pure, Except.pure]
  | cons a rest ih =>
      rw [List.mapM_cons, bind_eq_ok]
      constructor
      · rintro ⟨b, hb, h⟩
        obtain ⟨bs', hbs', h⟩ := bind_eq_ok.mp h
        obtain rfl := pure_eq_ok.mp h
        exact .cons hb (ih.mp hbs')
      · rintro (_ | ⟨hb, hbs⟩)
        exact ⟨_, hb, bind_eq_ok.mpr ⟨_, ih.mpr hbs, rfl⟩⟩

end

namespace Record

variable {α : Type} {members : Members} {name what : String}

theorem object_eq_ok {v : Json} : object what v = .ok members ↔ v = .obj members := by
  cases v <;> simp [object]

/-- A reader for which null stands for nothing reads a member that can be left out. -/
theorem says_iff (f : Json → Except DecodeError α) {absent : α} {S : Json → α → Prop}
    (hnull : f .null = .ok absent) (hS : ∀ a, ¬ S .null a) (hf : ∀ v a, v ≠ .null → (f v = .ok a ↔ S v a))
    {a : α} : f (member members name) = .ok a ↔ Says absent S (members.lookup name) a := by
  unfold member
  cases members.lookup name with
  | none =>
      rw [Option.getD_none, hnull]
      constructor
      · rintro ⟨⟩
        exact .absent
      · rintro ⟨⟩
        rfl
  | some v =>
      rw [Option.getD_some]
      by_cases hv : v = .null
      · -- null reads as an absent member, and must not be described as a value of its own
        rw [hv, hnull]
        constructor
        · rintro ⟨⟩
          exact .null
        · rintro (_ | _ | h)
          · rfl
          · exact absurd h (hS a)
      · rw [hf v a hv]
        constructor
        · exact .given
        · rintro (_ | _ | h)
          · exact absurd rfl hv
          · exact h

theorem optionalPercentage_eq_ok {rollout : Option Binary64} :
    optionalPercentage what (member members name) = .ok rollout ↔
      Says none PercentageSays (members.lookup name) rollout := by
  refine says_iff (optionalPercentage what) rfl (fun _ => by simp [PercentageSays]) fun v a hv => ?_
  cases v with
  | null => exact absurd rfl hv
  | number n => simp [optionalPercentage, PercentageSays, eq_comm]
  | bool _ | str _ | arr _ | obj _ => simp [optionalPercentage, PercentageSays]

theorem optionalBoolean_eq_ok {key : String} {b : Bool} :
    optionalBoolean key what (member members name) = .ok b ↔
      Says false (fun v b => v = .bool b) (members.lookup name) b := by
  refine says_iff (optionalBoolean key what) rfl (fun _ => by simp) fun v a hv => ?_
  cases v with
  | null => exact absurd rfl hv
  | bool _ | number _ | str _ | arr _ | obj _ => simp [optionalBoolean]

theorem optionalIndex_eq_ok {index : Option Int} :
    optionalIndex (member members name) = .ok index ↔
      Says none (fun v index => ∃ n, v = .int n ∧ index = some n) (members.lookup name) index := by
  refine says_iff optionalIndex rfl (fun _ => by simp) fun v a hv => ?_
  cases v with
  | null => exact absurd rfl hv
  | number n => cases n <;> simp [optionalIndex, eq_comm]
  | bool _ | str _ | arr _ | obj _ => simp [optionalIndex]

theorem textKey_eq_ok {key : String} :
    textKey what (member members name) = .ok key ↔ members.lookup name = some (.str key) := by
  unfold member
  cases members.lookup name with
  | none => simp [textKey]
  | some v => cases v <;> simp [textKey]

theorem memberOr_eq {default v : Json} :
    memberOr members name default = v ↔ OrDefault default (members.lookup name) v := by
  unfold memberOr member
  cases members.lookup name with
  | none =>
      constructor
      · rintro rfl
        exact .absent
      · rintro ⟨⟩
        rfl
  | some w =>
      simp only [Option.getD_some]
      by_cases hw : w.isEmpty
      · rw [if_pos hw]
        constructor
        · rintro rfl
          exact .empty hw
        · rintro (_ | _ | h)
          · rfl
          · cases h.symm.trans hw
      · rw [if_neg hw]
        constructor
        · rintro rfl
          exact .given (Bool.eq_false_iff.mpr hw)
        · rintro (_ | h | _)
          · exact absurd h hw
          · rfl

/-- A list of records is read record by record. -/
theorem list_eq_ok {f : Json → Except DecodeError α} {D : Members → α → Prop}
    (hf : ∀ v a, f v = .ok a ↔ IsObject (D · a) v) {as : List α} :
    (list what (member members name) >>= fun items => items.mapM f) = .ok as ↔
      Says [] (ListSays fun v a => IsObject (D · a) v) (members.lookup name) as := by
  refine says_iff (fun v => list what v >>= fun items => items.mapM f) rfl
    (fun _ => by simp [ListSays]) fun v a hv => ?_
  rw [bind_eq_ok]
  simp only [mapM_eq_ok, hf]
  cases v with
  | null => exact absurd rfl hv
  | arr items => simp [list, ListSays]
  | bool _ | number _ | str _ | obj _ => simp [list, ListSays]

end Record

/-! ## Readers of records -/

/-- A condition is read from what describes it. -/
theorem Condition.ofJson_eq_ok {v : Json} {c : Condition} :
    ofJson v = .ok c ↔ IsObject (Described · c) v := by
  simp only [ofJson, bind_eq_ok, object_eq_ok, textKey_eq_ok, pure_eq_ok]
  constructor
  · rintro ⟨members, rfl, key, hkey, rfl⟩
    exact ⟨members, rfl, hkey, memberOr_eq.mp rfl, rfl, memberOr_eq.mp rfl⟩
  · rintro ⟨members, rfl, h⟩
    refine ⟨members, rfl, c.key, h.key, ?_⟩
    rw [memberOr_eq.mpr h.operator, memberOr_eq.mpr h.scope, member, h.value]

/-- The reader of a rule group, step by step. -/
theorem RuleGroup.ofJson_obj {members : Members} : ofJson (.obj members) = (do
    let conditions ← list "group properties" (member members "properties") >>= fun items =>
      items.mapM Condition.ofJson
    let rollout ← optionalPercentage "group rollout_percentage" (member members "rollout_percentage")
    return { conditions, rollout }) := by
  rw [ofJson, object, ok_bind, bind_assoc]

/-- A rule group is read from what describes it. -/
theorem RuleGroup.ofJson_eq_ok {v : Json} {group : RuleGroup} :
    ofJson v = .ok group ↔ IsObject (Described · group) v := by
  cases v with
  | obj members =>
      rw [ofJson_obj]
      simp only [bind_eq_ok, optionalPercentage_eq_ok, pure_eq_ok]
      constructor
      · rintro ⟨conditions, hconditions, rollout, hrollout, rfl⟩
        exact ⟨members, rfl,
          (list_eq_ok fun _ _ => Condition.ofJson_eq_ok).mp (bind_eq_ok.mpr hconditions), hrollout⟩
      · rintro ⟨_, ⟨⟩, h⟩
        exact ⟨group.conditions,
          bind_eq_ok.mp ((list_eq_ok fun _ _ => Condition.ofJson_eq_ok).mpr h.conditions),
          group.rollout, h.rollout, rfl⟩
  | null | bool _ | number _ | str _ | arr _ => exact iff_of_false nofun nofun

/-- A variant is read from what describes it. -/
theorem Variant.ofJson_eq_ok {v : Json} {variant : Variant} :
    ofJson v = .ok variant ↔ IsObject (Described · variant) v := by
  simp only [ofJson, bind_eq_ok, object_eq_ok, textKey_eq_ok, optionalPercentage_eq_ok, pure_eq_ok]
  constructor
  · rintro ⟨members, rfl, key, hkey, rollout, hrollout, rfl⟩
    exact ⟨members, rfl, hkey, hrollout, memberOr_eq.mp rfl⟩
  · rintro ⟨members, rfl, h⟩
    refine ⟨members, rfl, variant.key, h.key, variant.rollout, h.rollout, ?_⟩
    rw [memberOr_eq.mpr h.name]

/-- The variants of a flag are read from what describes them. -/
theorem Variant.listOfJson_eq_ok {v : Json} {variants : List Variant} :
    listOfJson v = .ok variants ↔ IsObject (AllDescribed · variants) v := by
  unfold listOfJson
  rw [bind_eq_ok]
  constructor
  · rintro ⟨members, hv, h⟩
    exact ⟨members, object_eq_ok.mp hv, ⟨(list_eq_ok fun _ _ => Variant.ofJson_eq_ok).mp h⟩⟩
  · rintro ⟨members, hv, h⟩
    exact ⟨members, object_eq_ok.mpr hv, (list_eq_ok fun _ _ => Variant.ofJson_eq_ok).mpr h.variants⟩

/-- The reader of variants that a flag need not have. -/
def Variant.optionalOfJson (v : Json) : Except DecodeError (Option (List Variant)) :=
  if v.isEmpty then .ok none else some <$> listOfJson v

theorem Variant.optionalOfJson_eq_ok {members : Members} {name : String}
    {variants : Option (List Variant)} :
    optionalOfJson (member members name) = .ok variants ↔
      MaybeDescribed (members.lookup name) variants := by
  unfold optionalOfJson member
  cases members.lookup name with
  | none =>
      rw [Option.getD_none, if_pos (by rfl), Except.ok.injEq]
      constructor
      · rintro rfl
        exact .absent
      · rintro ⟨⟩
        rfl
  | some v =>
      rw [Option.getD_some]
      by_cases hv : v.isEmpty
      · -- an empty value is no variants whatever its kind, so that its kind is not looked at
        rw [if_pos hv, Except.ok.injEq]
        constructor
        · rintro rfl
          exact .empty hv
        · rintro (_ | _ | ⟨h, _⟩)
          · rfl
          · cases h.symm.trans hv
      · rw [if_neg hv, map_eq_ok]
        constructor
        · rintro ⟨list, hlist, rfl⟩
          exact .given (Bool.eq_false_iff.mpr hv) (listOfJson_eq_ok.mp hlist)
        · rintro (_ | h | ⟨_, h⟩)
          · exact absurd h hv
          · exact ⟨_, listOfJson_eq_ok.mpr h, rfl⟩

/-- The reader of the rules of a flag, step by step. -/
theorem Filters.ofJson_obj {members : Members} : ofJson (.obj members) = (do
    let groupTypeIndex ← optionalIndex (member members "aggregation_group_type_index")
    let groups ← list "groups" (member members "groups") >>= fun items => items.mapM RuleGroup.ofJson
    let variants ← Variant.optionalOfJson (member members "multivariate")
    return { groups, variants, groupTypeIndex }) := by
  rw [ofJson, object, ok_bind, Variant.optionalOfJson]
  · simp only [bind_assoc]
    cases (member members "multivariate").isEmpty <;> rfl
  · -- the other equation of the reader is the one for null
    rintro ⟨⟩

/-- The rules of a flag are read from what describes them. -/
theorem Filters.ofJson_eq_ok {v : Json} (hv : v ≠ .null) {filters : Filters} :
    ofJson v = .ok filters ↔ IsObject (Described · filters) v := by
  cases v with
  | null => exact absurd rfl hv
  | obj members =>
      rw [ofJson_obj]
      simp only [bind_eq_ok, optionalIndex_eq_ok, Variant.optionalOfJson_eq_ok, pure_eq_ok]
      constructor
      · rintro ⟨index, hindex, groups, hgroups, variants, hvariants, rfl⟩
        exact ⟨members, rfl,
          (list_eq_ok fun _ _ => RuleGroup.ofJson_eq_ok).mp (bind_eq_ok.mpr hgroups), hvariants, hindex⟩
      · rintro ⟨_, ⟨⟩, h⟩
        exact ⟨filters.groupTypeIndex, h.groupTypeIndex, filters.groups,
          bind_eq_ok.mp ((list_eq_ok fun _ _ => RuleGroup.ofJson_eq_ok).mpr h.groups),
          filters.variants, h.variants, rfl⟩
  | bool _ | number _ | str _ | arr _ => exact iff_of_false nofun nofun

theorem Flag.keyOfJson_eq_ok {members : Members} {name key : String} :
    keyOfJson (member members name) = .ok key ↔ members.lookup name = some (.str key) ∧ key ≠ "" := by
  unfold member
  cases members.lookup name with
  | none => simp [keyOfJson]
  | some v =>
      cases v with
      | str s =>
          by_cases hs : s = ""
          · simp [keyOfJson, hs]
          · simp [keyOfJson, hs]
            rintro rfl
            exact hs
      | null | bool _ | number _ | arr _ | obj _ => simp [keyOfJson]

/-- A flag is read from what describes it. -/
theorem Flag.ofJson_eq_ok {v : Json} {flag : Flag} :
    ofJson v = .ok flag ↔ IsObject (Described · flag) v := by
  have hfilters (members : Members) (filters : Filters) :
      Filters.ofJson (member members "filters") = .ok filters ↔
        Says {} (fun v filters => IsObject (Filters.Described · filters) v) (members.lookup "filters")
          filters :=
    says_iff Filters.ofJson rfl (fun _ => by simp [IsObject]) fun _ _ hv => Filters.ofJson_eq_ok hv
  simp only [ofJson, bind_eq_ok, object_eq_ok, keyOfJson_eq_ok, optionalBoolean_eq_ok,
    optionalPercentage_eq_ok, hfilters, pure_eq_ok]
  constructor
  · rintro ⟨members, rfl, key, ⟨hkey, hne⟩, isSimple, hsimple, rollout, hrollout, active, hactive,
      filters, hfilters, rfl⟩
    exact ⟨members, rfl, hkey, hne, hsimple, hrollout, hactive, hfilters⟩
  · rintro ⟨members, rfl, h⟩
    exact ⟨members, rfl, flag.key, ⟨h.key, h.key_ne⟩, flag.isSimple, h.isSimple, flag.rollout, h.rollout,
      flag.active, h.active, flag.filters, h.filters, rfl⟩

/-- A listing is read from what describes it. -/
theorem Flag.listOfJson_eq_ok {v : Json} {flags : List Flag} :
    listOfJson v = .ok flags ↔ IsObject (AllDescribed · flags) v := by
  unfold listOfJson
  rw [bind_eq_ok]
  constructor
  · rintro ⟨members, hv, h⟩
    exact ⟨members, object_eq_ok.mp hv, ⟨(list_eq_ok fun _ _ => Flag.ofJson_eq_ok).mp h⟩⟩
  · rintro ⟨members, hv, h⟩
    exact ⟨members, object_eq_ok.mpr hv, (list_eq_ok fun _ _ => Flag.ofJson_eq_ok).mpr h.flags⟩

/-! ## What is grammatical says something -/

namespace Record

variable {α : Type} {m : Option Json}

theorem exists_said {absent : α} {S : Json → α → Prop} :
    (∃ a, Says absent S m a) ↔ Optional (fun v => ∃ a, S v a) m := by
  constructor
  · rintro ⟨a, _ | _ | h⟩
    · exact .absent
    · exact .null
    · exact .given ⟨a, h⟩
  · rintro (_ | _ | ⟨a, h⟩)
    · exact ⟨absent, .absent⟩
    · exact ⟨absent, .null⟩
    · exact ⟨a, .given h⟩

/-- Items say something one by one, or all together. -/
theorem exists_forall₂ {β : Type} {S : β → α → Prop} {items : List β} :
    (∃ as, List.Forall₂ S items as) ↔ ∀ item ∈ items, ∃ a, S item a := by
  induction items with
  | nil => simp
  | cons item rest ih =>
      rw [List.forall_mem_cons, ← ih]
      constructor
      · rintro ⟨_, _ | ⟨h, hrest⟩⟩
        exact ⟨⟨_, h⟩, _, hrest⟩
      · rintro ⟨⟨a, h⟩, as, hrest⟩
        exact ⟨a :: as, .cons h hrest⟩

theorem exists_listSays {S : Json → α → Prop} {v : Json} :
    (∃ as, ListSays S v as) ↔ IsListOf (fun v => ∃ a, S v a) v := by
  unfold IsListOf ListSays
  rw [exists_comm]
  simp only [exists_and_left, exists_forall₂]

theorem exists_isObject {D : Members → α → Prop} {v : Json} :
    (∃ a, IsObject (D · a) v) ↔ IsObject (fun members => ∃ a, D members a) v := by
  unfold IsObject
  rw [exists_comm]
  simp only [exists_and_left]

/-- A list of records that is grammatical describes something. -/
theorem exists_records {D : Members → α → Prop} {P : Members → Prop}
    (h : ∀ members, (∃ a, D members a) ↔ P members) :
    (∃ as, Says [] (ListSays fun v a => IsObject (D · a) v) m as) ↔ Optional (IsListOf (IsObject P)) m := by
  simp only [exists_said, exists_listSays, exists_isObject, h]

theorem exists_percentage : (∃ rollout, Says none PercentageSays m rollout) ↔ Optional IsNumber m := by
  have hnumber (v : Json) : (∃ rollout, PercentageSays v rollout) ↔ IsNumber v := by
    simp [PercentageSays, IsNumber]
  simp only [exists_said, hnumber]

theorem exists_boolean : (∃ b, Says false (fun v b => v = .bool b) m b) ↔ Optional IsBoolean m :=
  exists_said

theorem exists_index :
    (∃ index, Says (none : Option Int) (fun v index => ∃ n, v = .int n ∧ index = some n) m index) ↔
      Optional IsInteger m := by
  have hinteger (v : Json) : (∃ index : Option Int, ∃ n, v = .int n ∧ index = some n) ↔ IsInteger v := by
    simp [IsInteger]
  simp only [exists_said, hinteger]

theorem exists_orDefault {default : Json} : ∃ v, OrDefault default m v := by
  cases m with
  | none => exact ⟨default, .absent⟩
  | some v =>
      cases hv : v.isEmpty with
      | true => exact ⟨default, .empty hv⟩
      | false => exact ⟨v, .given hv⟩

end Record

section

variable {members : Members}

theorem Condition.exists_described : (∃ c, Described members c) ↔ IsRecord members := by
  constructor
  · rintro ⟨c, h⟩
    exact ⟨c.key, h.key⟩
  · rintro ⟨key, hkey⟩
    obtain ⟨operator, hoperator⟩ := exists_orDefault
    obtain ⟨scope, hscope⟩ := exists_orDefault
    exact ⟨⟨key, operator, _, scope⟩, hkey, hoperator, rfl, hscope⟩

theorem RuleGroup.exists_described : (∃ group, Described members group) ↔ IsRecord members := by
  constructor
  · rintro ⟨group, h⟩
    exact ⟨(exists_records fun _ => Condition.exists_described).mp ⟨_, h.conditions⟩,
      exists_percentage.mp ⟨_, h.rollout⟩⟩
  · rintro ⟨hconditions, hrollout⟩
    obtain ⟨conditions, hconditions⟩ := (exists_records fun _ => Condition.exists_described).mpr hconditions
    obtain ⟨rollout, hrollout⟩ := exists_percentage.mpr hrollout
    exact ⟨⟨conditions, rollout⟩, hconditions, hrollout⟩

theorem Variant.exists_described : (∃ variant, Described members variant) ↔ IsRecord members := by
  constructor
  · rintro ⟨variant, h⟩
    exact ⟨⟨variant.key, h.key⟩, exists_percentage.mp ⟨_, h.rollout⟩⟩
  · rintro ⟨⟨key, hkey⟩, hrollout⟩
    obtain ⟨rollout, hrollout⟩ := exists_percentage.mpr hrollout
    obtain ⟨name, hname⟩ := exists_orDefault
    exact ⟨⟨key, rollout, name⟩, hkey, hrollout, hname⟩

theorem Variant.exists_allDescribed :
    (∃ variants, AllDescribed members variants) ↔ AreRecords members := by
  constructor
  · rintro ⟨variants, h⟩
    exact ⟨(exists_records fun _ => exists_described).mp ⟨_, h.variants⟩⟩
  · rintro ⟨h⟩
    obtain ⟨variants, hvariants⟩ := (exists_records fun _ => exists_described).mpr h
    exact ⟨variants, ⟨hvariants⟩⟩

theorem Variant.exists_maybeDescribed {m : Option Json} : (∃ variants, MaybeDescribed m variants) ↔
    ∀ v, m = some v → v.isEmpty ∨ IsObject AreRecords v := by
  constructor
  · rintro ⟨variants, _ | hempty | ⟨_, members, hv, h⟩⟩ v ⟨⟩
    · exact .inl hempty
    · exact .inr ⟨members, hv, exists_allDescribed.mp ⟨_, h⟩⟩
  · intro h
    cases m with
    | none => exact ⟨none, .absent⟩
    | some v =>
        cases hv : v.isEmpty with
        | true => exact ⟨none, .empty hv⟩
        | false =>
            obtain ⟨members, hobj, hrecords⟩ := (h v rfl).resolve_left (by simp [hv])
            obtain ⟨variants, hvariants⟩ := exists_allDescribed.mpr hrecords
            exact ⟨some variants, .given hv ⟨members, hobj, hvariants⟩⟩

theorem Filters.exists_described : (∃ filters, Described members filters) ↔ IsRecord members := by
  constructor
  · rintro ⟨filters, h⟩
    exact ⟨(exists_records fun _ => RuleGroup.exists_described).mp ⟨_, h.groups⟩,
      Variant.exists_maybeDescribed.mp ⟨_, h.variants⟩, exists_index.mp ⟨_, h.groupTypeIndex⟩⟩
  · rintro ⟨hgroups, hvariants, hindex⟩
    obtain ⟨groups, hgroups⟩ := (exists_records fun _ => RuleGroup.exists_described).mpr hgroups
    obtain ⟨variants, hvariants⟩ := Variant.exists_maybeDescribed.mpr hvariants
    obtain ⟨index, hindex⟩ := exists_index.mpr hindex
    exact ⟨⟨groups, variants, index⟩, hgroups, hvariants, hindex⟩

theorem Flag.exists_described : (∃ flag, Described members flag) ↔ IsRecord members := by
  have hfilters : (∃ filters, Says {} (fun v filters => IsObject (Filters.Described · filters) v)
      (members.lookup "filters") filters) ↔
        Optional (IsObject Filters.IsRecord) (members.lookup "filters") := by
    simp only [exists_said, exists_isObject, Filters.exists_described]
  constructor
  · rintro ⟨flag, h⟩
    exact ⟨⟨flag.key, h.key, h.key_ne⟩, exists_boolean.mp ⟨_, h.isSimple⟩,
      exists_percentage.mp ⟨_, h.rollout⟩, exists_boolean.mp ⟨_, h.active⟩, hfilters.mp ⟨_, h.filters⟩⟩
  · rintro ⟨⟨key, hkey, hne⟩, hsimple, hrollout, hactive, hf⟩
    obtain ⟨isSimple, hsimple⟩ := exists_boolean.mpr hsimple
    obtain ⟨rollout, hrollout⟩ := exists_percentage.mpr hrollout
    obtain ⟨active, hactive⟩ := exists_boolean.mpr hactive
    obtain ⟨filters, hf⟩ := hfilters.mpr hf
    exact ⟨⟨key, isSimple, rollout, active, filters⟩, hkey, hne, hsimple, hrollout, hactive, hf⟩

theorem Flag.exists_allDescribed : (∃ flags, AllDescribed members flags) ↔ AreRecords members := by
  constructor
  · rintro ⟨flags, h⟩
    exact ⟨(exists_records fun _ => exists_described).mp ⟨_, h.flags⟩⟩
  · rintro ⟨h⟩
    obtain ⟨flags, hflags⟩ := (exists_records fun _ => exists_described).mpr h
    exact ⟨flags, ⟨hflags⟩⟩

end

/-! ## Listings -/

/-- **A value is read as a listing if, and only if, it is grammatical**, and then as the flags that it
describes, one for each item and in order.  Every other value is refused with an error of decoding. -/
theorem Flag.listing_is_read_iff_grammatical (v : Json) :
    ((∃ flags, listOfJson v = .ok flags) ↔ IsObject AreRecords v) ∧
      (∀ flags, listOfJson v = .ok flags ↔ IsObject (AllDescribed · flags) v) ∧
      ((∃ e, listOfJson v = .error e ∧ e.report.kind = .decode ∧ e.report.code = "DECODE_ERROR") ↔
        ¬ IsObject AreRecords v) := by
  have hread : (∃ flags, listOfJson v = .ok flags) ↔ IsObject AreRecords v := by
    simp only [listOfJson_eq_ok, exists_isObject, exists_allDescribed]
  refine ⟨hread, fun flags => listOfJson_eq_ok, ?_⟩
  rw [← hread]
  cases listOfJson v with
  | ok flags => simp
  | error e => simpa using ⟨rfl, rfl⟩

end FeatureFlags
