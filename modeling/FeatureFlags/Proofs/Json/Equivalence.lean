import FeatureFlags.Proofs.Json.Equality

/-!
# `Proofs.Json.Equivalence` — the equality of conditions is an equivalence

Loose equality of scalars is symmetric and transitive, because to have the same exact value is: a number
that equals two booleans is 0 or 1, and tells them to be the same (`LooseScalar.trans`).  Both properties pass
from scalars to all places inside by induction on the first derivation.  Every number but not-a-number equals
itself, and so does every value without it (`NanFree.looselyEqual_self`).

The equality of conditions is loose equality between values of which both or neither is a boolean
(`matchesValue_iff_kind`), and so it inherits all three properties (`matchesValue_equivalence`).

## Contents

1. Numbers
2. Scalars
3. Loose equality
4. The equality of conditions
-/

namespace FeatureFlags

/-! ## Numbers -/

namespace Number

variable {l m n : Number}

theorem SameValue.symm : m.SameValue n → n.SameValue m
  | ⟨a, hm, hn⟩ => ⟨a, hn, hm⟩

theorem SameValue.trans : l.SameValue m → m.SameValue n → l.SameValue n
  | ⟨a, hl, hm⟩, ⟨_, hm', hn⟩ => ⟨a, hl, hn.trans (hm'.symm.trans hm)⟩

/-- Every number but not-a-number has an exact value, its own. -/
theorem SameValue.rfl_of_ne_nan (h : n ≠ .float .nan) : n.SameValue n := by
  cases n with
  | int n => exact ⟨_, rfl, rfl⟩
  | float x =>
      cases x with
      | nan => exact absurd rfl h
      | num negative rank hr => exact ⟨_, rfl, rfl⟩

end Number

namespace Json

theorem boolNumber_inj {a b : Bool} (h : (boolNumber a).SameValue (boolNumber b)) : a = b := by
  obtain ⟨_, ha, hb⟩ := h
  have hnumber := Extended.ofInt_strictMono.injective (Option.some.inj (ha.trans hb.symm))
  cases a <;> cases b <;> first | rfl | cases hnumber

variable {u v w : Json}

/-! ## Scalars -/

theorem SameScalar.symm (h : SameScalar v w) : SameScalar w v := by
  cases h with
  | null => exact .null
  | bool b => exact .bool b
  | number h => exact .number h.symm
  | str s => exact .str s

theorem Mixed.symm (h : Mixed v w) : Mixed w v := by
  cases h with
  | left h => exact .right h.symm
  | right h => exact .left h.symm

/-- Loosely equal scalars. -/
abbrev LooseScalar (v w : Json) : Prop := SameScalar v w ∨ Mixed v w

theorem LooseScalar.symm (h : LooseScalar v w) : LooseScalar w v := h.imp SameScalar.symm Mixed.symm

theorem LooseScalar.trans (huv : LooseScalar u v) (hvw : LooseScalar v w) : LooseScalar u w := by
  rcases huv with huv | huv
  · cases huv with
    | null | bool _ | str _ => exact hvw
    | number h =>
        rcases hvw with hvw | hvw
        · cases hvw with
          | number h' => exact .inl (.number (h.trans h'))
        · cases hvw with
          | right h' => exact .inr (.right (h.trans h'))
  · cases huv with
    | left h =>
        rcases hvw with hvw | hvw
        · cases hvw with
          | number h' => exact .inr (.left (h.trans h'))
        · cases hvw with
          | right h' =>
              -- a number between two booleans is what both count as
              obtain rfl := boolNumber_inj (h.trans h')
              exact .inl (.bool _)
    | right h =>
        rcases hvw with hvw | hvw
        · cases hvw with
          | bool b => exact .inr (.right h)
        · cases hvw with
          | left h' => exact .inl (.number (h.trans h'))

/-! ## Loose equality -/

theorem LooselyEqual.symm (h : LooselyEqual v w) : LooselyEqual w v := by
  induction h with
  | scalar h => exact .scalar (LooseScalar.symm h)
  | arr length _ ih => exact .arr length.symm fun i hw hv => ih i hv hw
  | obj names _ ih => exact .obj (fun name => (names name).symm) fun name w v hw hv => ih name v w hv hw

theorem LooselyEqual.trans (huv : LooselyEqual u v) (hvw : LooselyEqual v w) : LooselyEqual u w := by
  induction huv generalizing w with
  | scalar h =>
      cases hvw with
      | scalar h' => exact .scalar (LooseScalar.trans h h')
      -- no scalar equals a list or an object
      | arr | obj => rcases h with h | h <;> cases h
  | arr length _ ih =>
      obtain ⟨ws, rfl, length', items⟩ := looselyEqual_arr.mp hvw
      exact .arr (length.trans length') fun i hu hw => ih i hu (length ▸ hu) (items i (length ▸ hu) hw)
  | obj names _ ih =>
      obtain ⟨ns, rfl, names', members⟩ := looselyEqual_obj.mp hvw
      refine .obj (fun name => (names name).trans (names' name)) fun name u w hu hw => ?_
      -- what has the name in the object between
      obtain ⟨v, hv⟩ := Option.isSome_iff_exists.mp ((names name).mp (Option.isSome_of_eq_some hu))
      exact ih name u v hu hv (members name v w hv hw)

/-- No number in the value, at any depth, is not-a-number. -/
inductive NanFree : Json → Prop where
  | null : NanFree .null
  | bool (b : Bool) : NanFree (.bool b)
  | number {n : Number} (h : n ≠ .float .nan) : NanFree (.number n)
  | str (s : String) : NanFree (.str s)
  | arr {items : List Json} (h : ∀ v ∈ items, NanFree v) : NanFree (.arr items)
  | obj {members : List (String × Json)} (h : ∀ m ∈ members, NanFree m.2) : NanFree (.obj members)

theorem NanFree.looselyEqual_self (h : NanFree v) : LooselyEqual v v := by
  induction h with
  | null => exact .scalar (.inl .null)
  | bool b => exact .scalar (.inl (.bool b))
  | number h => exact .scalar (.inl (.number (.rfl_of_ne_nan h)))
  | str s => exact .scalar (.inl (.str s))
  | arr _ ih => exact .arr rfl fun i hi _ => ih _ (List.getElem_mem hi)
  | @obj members _ ih =>
      refine .obj (fun _ => Iff.rfl) fun name v w hv hw => ?_
      obtain rfl := Option.some.inj (hv.symm.trans hw)
      obtain ⟨_, _, hmembers, _⟩ := List.lookup_eq_some_iff.mp hv
      exact ih (name, v) (hmembers ▸ List.mem_append_right _ List.mem_cons_self)

/-! ## The equality of conditions -/

/-- Loosely equal values are mixed at the top exactly if one is a boolean and the other is not. -/
theorem LooselyEqual.not_mixed_iff (h : LooselyEqual v w) :
    ¬ Mixed v w ↔ (v.kind = .bool ↔ w.kind = .bool) := by
  have hnumber (n : Number) : (Json.number n).kind ≠ .bool := by cases n <;> exact nofun
  cases h with
  | scalar h =>
      rcases h with h | h
      · have hnot : ¬ Mixed v w := by
          rintro (_ | _) <;> cases h
        cases h with
        | null | bool _ | str _ => exact iff_of_true hnot Iff.rfl
        | @number m n _ => exact iff_of_true hnot (iff_of_false (hnumber m) (hnumber n))
      · refine iff_of_false (not_not_intro h) ?_
        cases h with
        | @left b n _ => exact fun hkind => hnumber n (hkind.mp rfl)
        | @right m b _ => exact fun hkind => hnumber m (hkind.mpr rfl)
  | arr | obj => exact iff_of_true nofun Iff.rfl

/-- **The equality of conditions is loose equality between booleans, or between values that are none.** -/
theorem matchesValue_iff_kind (hv : WellFormed v) (hw : WellFormed w) :
    matchesValue v w ↔ LooselyEqual v w ∧ (v.kind = .bool ↔ w.kind = .bool) := by
  rw [matchesValue_iff_not_mixed, looselyEqual_iff hv hw]
  exact and_congr_right LooselyEqual.not_mixed_iff

theorem matchesValue_symm (hv : WellFormed v) (hw : WellFormed w) (h : matchesValue v w) :
    matchesValue w v := by
  obtain ⟨hequal, hkind⟩ := (matchesValue_iff_kind hv hw).mp h
  exact (matchesValue_iff_kind hw hv).mpr ⟨hequal.symm, hkind.symm⟩

theorem matchesValue_trans (hu : WellFormed u) (hv : WellFormed v) (hw : WellFormed w)
    (huv : matchesValue u v) (hvw : matchesValue v w) : matchesValue u w := by
  obtain ⟨hequal, hkind⟩ := (matchesValue_iff_kind hu hv).mp huv
  obtain ⟨hequal', hkind'⟩ := (matchesValue_iff_kind hv hw).mp hvw
  exact (matchesValue_iff_kind hu hw).mpr ⟨hequal.trans hequal', hkind.trans hkind'⟩

/-- A value as it is read, in which no number is not-a-number. -/
structure Comparable (v : Json) : Prop where
  wellFormed : WellFormed v
  nanFree : NanFree v

/-- **Values without not-a-number are sorted into classes by the equality of conditions.** -/
theorem matchesValue_equivalence :
    Equivalence fun v w : {v : Json // Comparable v} => (v.1.matchesValue w.1 : Prop) where
  refl v := (matchesValue_iff_kind v.2.wellFormed v.2.wellFormed).mpr
    ⟨v.2.nanFree.looselyEqual_self, Iff.rfl⟩
  symm {v w} := matchesValue_symm v.2.wellFormed w.2.wellFormed
  trans {u v w} := matchesValue_trans u.2.wellFormed v.2.wellFormed w.2.wellFormed

end Json

end FeatureFlags
