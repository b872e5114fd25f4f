import FeatureFlags.Json.Equality
import FeatureFlags.Proofs.Json.Exact
import Mathlib.Data.List.Perm.Subperm

/-!
# `Proofs.Json.Equality` — what the two equalities of values say

Two values are equal if they are alike place by place: lists item by item, objects name by name in any
order, and scalars by an equality of scalars.  `EqualBy` is this relation for any equality of scalars.  With
`SameScalar` it is strict, so that a boolean equals only the same boolean at every depth; when a boolean may
also stand for the number 0 or 1 (`Mixed`), it is loose.

`looselyEqual_iff` and `matchesValue_iff` say what the functions compute.  Strict equality is loose equality
without a place at which a boolean and a number meet (`strictlyEqual_iff`).  The equality of conditions
looks for such a place at the top only, and misses those inside (`EqualButInside`).

## Contents

1. Well-formed values
2. Equality place by place
3. Booleans that meet numbers
4. What is computed
-/

namespace FeatureFlags

namespace Json

/-! ## Well-formed values -/

/-- A value as it is read: at every depth, the names in an object are distinct. -/
inductive WellFormed : Json → Prop where
  | null : WellFormed .null
  | bool (b : Bool) : WellFormed (.bool b)
  | number (n : Number) : WellFormed (.number n)
  | str (s : String) : WellFormed (.str s)
  | arr {items : List Json} (h : ∀ v ∈ items, WellFormed v) : WellFormed (.arr items)
  | obj {members : List (String × Json)} (names : (members.map (·.1)).Nodup)
      (h : ∀ m ∈ members, WellFormed m.2) : WellFormed (.obj members)

section

variable {α : Type} {members : List (String × α)} {name : String} {v : α}

theorem isSome_lookup_iff : (members.lookup name).isSome ↔ name ∈ members.map (·.1) := by
  simp [List.lookup_isSome_iff, eq_comm (a := name)]

/-- Where names are distinct, an object holds what is found in it, and what it holds is found. -/
theorem mem_iff_lookup (names : (members.map (·.1)).Nodup) :
    (name, v) ∈ members ↔ members.lookup name = some v := by
  induction members with
  | nil => simp
  | cons m rest ih =>
      rw [List.map_cons, List.nodup_cons] at names
      rw [List.lookup_cons, List.mem_cons]
      by_cases h : name = m.1
      · -- the name does not come again
        have hrest : (name, v) ∉ rest := fun hmem => names.1 (h ▸ List.mem_map_of_mem hmem)
        rw [or_iff_left hrest, beq_iff_eq.mpr h]
        simp [Prod.ext_iff, h, eq_comm]
      · rw [beq_eq_false_iff_ne.mpr h, ← ih names.2]
        simp [Prod.ext_iff, h]

end

/-! ## Equality place by place -/

/-- Values that are alike place by place, by an equality of scalars: lists item by item, and objects name by
name, in any order. -/
inductive EqualBy (scalar : Json → Json → Prop) : Json → Json → Prop where
  | scalar {v w : Json} (h : scalar v w) : EqualBy scalar v w
  | arr {vs ws : List Json} (length : vs.length = ws.length)
      (items : ∀ i (hv : i < vs.length) (hw : i < ws.length), EqualBy scalar vs[i] ws[i]) :
      EqualBy scalar (.arr vs) (.arr ws)
  | obj {ms ns : List (String × Json)}
      (names : ∀ name, (ms.lookup name).isSome ↔ (ns.lookup name).isSome)
      (members : ∀ name v w, ms.lookup name = some v → ns.lookup name = some w → EqualBy scalar v w) :
      EqualBy scalar (.obj ms) (.obj ns)

/-- Equal scalars: numbers by exact value, texts character by character, and booleans only with
booleans. -/
inductive SameScalar : Json → Json → Prop where
  | null : SameScalar .null .null
  | bool (b : Bool) : SameScalar (.bool b) (.bool b)
  | number {m n : Number} (h : m.SameValue n) : SameScalar (.number m) (.number n)
  | str (s : String) : SameScalar (.str s) (.str s)

/-- A boolean and the number that it counts as. -/
inductive Mixed : Json → Json → Prop where
  | left {b : Bool} {n : Number} (h : (boolNumber b).SameValue n) : Mixed (.bool b) (.number n)
  | right {m : Number} {b : Bool} (h : m.SameValue (boolNumber b)) : Mixed (.number m) (.bool b)

/-- Equality in which a boolean equals only the same boolean, at every depth. -/
abbrev StrictlyEqual : Json → Json → Prop := EqualBy SameScalar

/-- Equality in which a boolean may stand for the number 0 or 1. -/
abbrev LooselyEqual : Json → Json → Prop := EqualBy fun v w => SameScalar v w ∨ Mixed v w

theorem EqualBy.mono {P Q : Json → Json → Prop} (h : ∀ v w, P v w → Q v w) {v w : Json}
    (hvw : EqualBy P v w) : EqualBy Q v w := by
  induction hvw with
  | scalar hs => exact .scalar (h _ _ hs)
  | arr length _ ih => exact .arr length ih
  | obj names _ ih => exact .obj names ih

/-! ## Booleans that meet numbers -/

/-- At some place of both values, a boolean meets the number that it counts as. -/
inductive Meets : Json → Json → Prop where
  | here {v w : Json} (h : Mixed v w) : Meets v w
  | item {vs ws : List Json} (i : Nat) (hv : i < vs.length) (hw : i < ws.length) (h : Meets vs[i] ws[i]) :
      Meets (.arr vs) (.arr ws)
  | member {ms ns : List (String × Json)} {name : String} {v w : Json} (hv : ms.lookup name = some v)
      (hw : ns.lookup name = some w) (h : Meets v w) : Meets (.obj ms) (.obj ns)

variable {v w : Json}

theorem StrictlyEqual.looselyEqual (h : StrictlyEqual v w) : LooselyEqual v w :=
  h.mono fun _ _ => .inl

theorem StrictlyEqual.not_meets (h : StrictlyEqual v w) : ¬ Meets v w := by
  induction h with
  | scalar h =>
      rintro (⟨⟨⟩⟩ | _ | _) <;> cases h
  | arr _ _ ih =>
      rintro (⟨⟨⟩⟩ | ⟨i, hv, hw, hmeets⟩)
      exact ih i hv hw hmeets
  | obj _ _ ih =>
      rintro (⟨⟨⟩⟩ | _ | ⟨hv, hw, hmeets⟩)
      exact ih _ _ _ hv hw hmeets

theorem LooselyEqual.strictlyEqual (h : LooselyEqual v w) (hmeets : ¬ Meets v w) : StrictlyEqual v w := by
  induction h with
  | scalar h => exact .scalar (h.resolve_right fun hmixed => hmeets (.here hmixed))
  | arr length _ ih => exact .arr length fun i hv hw => ih i hv hw fun h => hmeets (.item i hv hw h)
  | obj names _ ih =>
      exact .obj names fun name v w hv hw => ih name v w hv hw fun h => hmeets (.member hv hw h)

/-- **Strict equality is loose equality in which no boolean meets a number.** -/
theorem strictlyEqual_iff : StrictlyEqual v w ↔ LooselyEqual v w ∧ ¬ Meets v w :=
  ⟨fun h => ⟨h.looselyEqual, h.not_meets⟩, fun h => h.1.strictlyEqual h.2⟩

/-- Values that are loosely equal and not strictly, though at the top no boolean meets a number: it happens
at a place inside. -/
structure EqualButInside (v w : Json) : Prop where
  looselyEqual : LooselyEqual v w
  inside : Meets v w
  top : ¬ Mixed v w

/-- Between a scalar and another value there is no place inside. -/
theorem not_equalButInside_of_scalar (harr : ∀ items, w ≠ .arr items) (hobj : ∀ members, w ≠ .obj members) :
    ¬ EqualButInside v w := by
  rintro ⟨_, hinside, htop⟩
  cases hinside with
  | here h => exact htop h
  | item => exact harr _ rfl
  | member => exact hobj _ rfl

/-! ## What is computed -/

theorem itemsLooselyEqual_iff {vs ws : List Json} : itemsLooselyEqual vs ws ↔ vs.length = ws.length ∧
    ∀ i (hv : i < vs.length) (hw : i < ws.length), looselyEqual vs[i] ws[i] := by
  induction vs generalizing ws with
  | nil => cases ws <;> simp [itemsLooselyEqual]
  | cons v vs ih =>
      cases ws with
      | nil => simp [itemsLooselyEqual]
      | cons w ws =>
          simp only [itemsLooselyEqual, Bool.and_eq_true, ih, List.length_cons, Nat.add_right_cancel_iff]
          constructor
          · rintro ⟨hfirst, hlength, hrest⟩
            refine ⟨hlength, fun i hv hw => ?_⟩
            cases i with
            | zero => exact hfirst
            | succ i => exact hrest i (Nat.lt_of_succ_lt_succ hv) (Nat.lt_of_succ_lt_succ hw)
          · rintro ⟨hlength, hall⟩
            exact ⟨hall 0 (Nat.succ_pos _) (Nat.succ_pos _), hlength,
              fun i hv hw => hall (i + 1) (Nat.succ_lt_succ hv) (Nat.succ_lt_succ hw)⟩

theorem membersLooselyIn_iff {ms ns : List (String × Json)} : membersLooselyIn ms ns ↔
    ∀ m ∈ ms, ∃ w, ns.lookup m.1 = some w ∧ looselyEqual m.2 w := by
  induction ms with
  | nil => simp [membersLooselyIn]
  | cons m ms ih =>
      rw [membersLooselyIn, Bool.and_eq_true, ih, List.forall_mem_cons]
      refine and_congr_left fun _ => ?_
      cases ns.lookup m.1 <;> simp

/-- Objects with as many distinct names have the same names if those of one are among those of the other. -/
theorem names_iff {ms ns : List (String × Json)} (hms : (ms.map (·.1)).Nodup)
    (hlength : ms.length = ns.length) (hsubset : ∀ name, (ms.lookup name).isSome → (ns.lookup name).isSome)
    (name : String) : (ms.lookup name).isSome ↔ (ns.lookup name).isSome := by
  simp only [isSome_lookup_iff] at hsubset ⊢
  have hperm := (hms.subperm hsubset).perm_of_length_le (by simp [hlength])
  exact hperm.mem_iff

theorem length_eq_of_names {ms ns : List (String × Json)} (hms : (ms.map (·.1)).Nodup)
    (hns : (ns.map (·.1)).Nodup) (hnames : ∀ name, (ms.lookup name).isSome ↔ (ns.lookup name).isSome) :
    ms.length = ns.length := by
  simp only [isSome_lookup_iff] at hnames
  simpa using ((List.perm_ext_iff_of_nodup hms hns).mpr hnames).length_eq

section

variable {vs ws : List Json} {ms ns : List (String × Json)} {b : Bool} {m : Number} {s : String}

theorem looselyEqual_null : LooselyEqual .null w ↔ .null = w := by
  constructor
  · rintro (h | _ | _)
    rcases h with h | h <;> cases h
    rfl
  · rintro rfl
    exact .scalar (.inl .null)

theorem looselyEqual_bool : LooselyEqual (.bool b) w ↔
    .bool b = w ∨ ∃ n, w = .number n ∧ (boolNumber b).SameValue n := by
  constructor
  · rintro (h | _ | _)
    rcases h with h | h
    · cases h with
      | bool => exact .inl rfl
    · cases h with
      | left h => exact .inr ⟨_, rfl, h⟩
  · rintro (rfl | ⟨n, rfl, h⟩)
    · exact .scalar (.inl (.bool b))
    · exact .scalar (.inr (.left h))

theorem looselyEqual_number : LooselyEqual (.number m) w ↔
    (∃ n, w = .number n ∧ m.SameValue n) ∨ ∃ b, w = .bool b ∧ m.SameValue (boolNumber b) := by
  constructor
  · rintro (h | _ | _)
    rcases h with h | h
    · cases h with
      | number h => exact .inl ⟨_, rfl, h⟩
    · cases h with
      | right h => exact .inr ⟨_, rfl, h⟩
  · rintro (⟨n, rfl, h⟩ | ⟨b, rfl, h⟩)
    · exact .scalar (.inl (.number h))
    · exact .scalar (.inr (.right h))

theorem looselyEqual_str : LooselyEqual (.str s) w ↔ .str s = w := by
  constructor
  · rintro (h | _ | _)
    rcases h with h | h <;> cases h
    rfl
  · rintro rfl
    exact .scalar (.inl (.str s))

theorem looselyEqual_arr : LooselyEqual (.arr vs) w ↔ ∃ ws, w = .arr ws ∧ vs.length = ws.length ∧
    ∀ i (hv : i < vs.length) (hw : i < ws.length), LooselyEqual vs[i] ws[i] := by
  constructor
  · rintro (h | ⟨length, items⟩ | _)
    · rcases h with h | h <;> cases h
    · exact ⟨_, rfl, length, items⟩
  · rintro ⟨ws, rfl, length, items⟩
    exact .arr length items

theorem looselyEqual_obj : LooselyEqual (.obj ms) w ↔ ∃ ns, w = .obj ns ∧
    (∀ name, (ms.lookup name).isSome ↔ (ns.lookup name).isSome) ∧
    ∀ name v w, ms.lookup name = some v → ns.lookup name = some w → LooselyEqual v w := by
  constructor
  · rintro (h | _ | ⟨names, members⟩)
    · rcases h with h | h <;> cases h
    · exact ⟨_, rfl, names, members⟩
  · rintro ⟨ns, rfl, names, members⟩
    exact .obj names members

end

/-- **The loose equality is what is computed** for it. -/
theorem looselyEqual_iff (hv : WellFormed v) (hw : WellFormed w) :
    looselyEqual v w ↔ LooselyEqual v w := by
  induction hv generalizing w with
  | null => cases w <;> simp [looselyEqual, looselyEqual_null]
  | bool b => cases w <;> simp [looselyEqual, looselyEqual_bool, Number.sameValue_iff]
  | number m => cases w <;> simp [looselyEqual, looselyEqual_number, Number.sameValue_iff]
  | str s => cases w <;> simp [looselyEqual, looselyEqual_str]
  | @arr vs _ ih =>
      rw [looselyEqual_arr]
      cases hw with
      | @arr ws hws =>
          have hitem (i : Nat) (hv : i < vs.length) (hw : i < ws.length) :
              looselyEqual vs[i] ws[i] ↔ LooselyEqual vs[i] ws[i] :=
            ih _ (List.getElem_mem hv) (hws _ (List.getElem_mem hw))
          simp only [looselyEqual, itemsLooselyEqual_iff, Json.arr.injEq, exists_eq_left', hitem]
      | _ => simp [looselyEqual]
  | @obj ms hms hall ih =>
      rw [looselyEqual_obj]
      cases hw with
      | @obj ns hns hall' =>
          simp only [looselyEqual, Bool.and_eq_true, beq_iff_eq, membersLooselyIn_iff, Json.obj.injEq,
            exists_eq_left']
          have hmember {name : String} {v w : Json} (hv : ms.lookup name = some v)
              (hw : ns.lookup name = some w) : looselyEqual v w ↔ LooselyEqual v w :=
            ih _ ((mem_iff_lookup hms).mpr hv) (hall' _ ((mem_iff_lookup hns).mpr hw))
          constructor
          · rintro ⟨hlength, hin⟩
            have hfound (name : String) (v : Json) (hv : ms.lookup name = some v) :
                ∃ w, ns.lookup name = some w ∧ looselyEqual v w :=
              hin _ ((mem_iff_lookup hms).mpr hv)
            refine ⟨names_iff hms hlength fun name hname => ?_, fun name v w hv hw => ?_⟩
            · obtain ⟨v, hv⟩ := Option.isSome_iff_exists.mp hname
              obtain ⟨w, hw, _⟩ := hfound name v hv
              exact Option.isSome_iff_exists.mpr ⟨w, hw⟩
            · obtain ⟨w', hw', heq⟩ := hfound name v hv
              obtain rfl := Option.some.inj (hw.symm.trans hw')
              exact (hmember hv hw).mp heq
          · rintro ⟨hnames, heq⟩
            refine ⟨length_eq_of_names hms hns hnames, fun m hm => ?_⟩
            have hv := (mem_iff_lookup hms).mp hm
            obtain ⟨w, hw⟩ :=
              Option.isSome_iff_exists.mp ((hnames m.1).mp (Option.isSome_iff_exists.mpr ⟨_, hv⟩))
            exact ⟨w, hw, (hmember hv hw).mpr (heq _ _ _ hv hw)⟩
      | _ => simp [looselyEqual]

/-- Conditions compare loosely, but tell a boolean from a number at the top. -/
theorem matchesValue_iff_not_mixed : matchesValue v w ↔ looselyEqual v w ∧ ¬ Mixed v w := by
  have hleft {b : Bool} {n : Number} : Mixed (.bool b) (.number n) ↔ (boolNumber b).SameValue n :=
    ⟨fun (.left h) => h, .left⟩
  have hright {m : Number} {b : Bool} : Mixed (.number m) (.bool b) ↔ m.SameValue (boolNumber b) :=
    ⟨fun (.right h) => h, .right⟩
  cases v with
  | bool b =>
      cases w with
      | bool b' => exact (and_iff_left nofun).symm
      | number n => simp [matchesValue, looselyEqual, hleft, Number.sameValue_iff]
      | _ => simp [matchesValue, looselyEqual]
  | number m =>
      cases w with
      | bool b => simp [matchesValue, looselyEqual, hright, Number.sameValue_iff]
      | _ => exact (and_iff_left nofun).symm
  | null | str _ | arr _ | obj _ =>
      cases w with
      | bool b => simp [matchesValue, looselyEqual]
      | _ => exact (and_iff_left nofun).symm

/-- **What the equality of conditions says**: strict equality, but for places inside at which a boolean meets
a number. -/
theorem matchesValue_iff (hv : WellFormed v) (hw : WellFormed w) :
    matchesValue v w ↔ StrictlyEqual v w ∨ EqualButInside v w := by
  rw [matchesValue_iff_not_mixed, looselyEqual_iff hv hw, strictlyEqual_iff]
  constructor
  · rintro ⟨h, hnot⟩
    by_cases hmeets : Meets v w
    · exact .inr ⟨h, hmeets, hnot⟩
    · exact .inl ⟨h, hmeets⟩
  · rintro (⟨h, hmeets⟩ | ⟨h, _, hnot⟩)
    · exact ⟨h, fun hmixed => hmeets (.here hmixed)⟩
    · exact ⟨h, hnot⟩

end Json

end FeatureFlags
