import FeatureFlags.Proofs.Evaluation.Allocation
import Mathlib.Data.List.Forall2

/-!
# `Proofs.Evaluation.Partition` — the ranges of variants are disjoint

The ends of the ranges are a running sum, of which each term is rounded when it is added.  A rounded sum
of shares is no less than the sum so far; so every range lies at or above the end of those before it, and no
two of them have a place in common (`pairwise_disjoint_layOut`).  It therefore does not matter that a
subject gets the *first* range in which it lies: there is only one (`find?_eq_some_of_contains`).

A variant with no percentage, or with none of the subjects, leaves the sum as it is, and its range is
empty.  `ranges_divide_in_order` puts this together for percentages between 0 and 100.

## Contents

1. Percentages as they are compared
2. One range after another
3. The theorem
-/

namespace FeatureFlags

/-! ## Percentages as they are compared -/

namespace Binary64

variable {x y p : Binary64}

/-- The percentages are the numbers from 0 to 100; not-a-number is not among them. -/
theorem isPercentage_iff : p.IsPercentage ↔ zero.le p ∧ p.le (ofInt 100) := by
  have hhundred : (ofInt 100).IsNonneg := (isPercentage_ofInt (by decide) (by decide)).isNonneg
  constructor
  · intro h
    exact ⟨(le_iff_rank isNonneg_zero h.isNonneg).mpr (Nat.zero_le _),
      (le_iff_rank h.isNonneg hhundred).mpr h.rank_le⟩
  · rintro ⟨hzero, hle⟩
    have hnonneg := isNonneg_of_zero_le hzero
    exact ⟨hnonneg, (le_iff_rank hnonneg hhundred).mp hle⟩

/-- To add zero changes nothing but, perhaps, a sign. -/
theorem rank_add_of_rank_eq_zero (hx : x.IsNonneg) (hy : y.IsNonneg) (h : y.rank = 0) :
    (x.add y).rank = x.rank := by
  -- the sum is a place already, so that rounding it changes nothing
  have hround : roundRank (units x.rank * 1) 1 = x.rank := roundRank_units Nat.one_pos x.rank_le
  rw [Nat.mul_one] at hround
  have hzero : (0 : Nat) ≠ infRank := by decide
  rw [(add_share hx hy).2, h, sumRank, units_zero, Nat.add_zero, hround]
  split
  · next hinf => exact (hinf.resolve_right hzero).symm
  · rfl

end Binary64

/-! ## One range after another -/

namespace VariantRange

variable {low place : Binary64} {shares : List (String × Binary64)} {variants : List Variant}
  {r : VariantRange}

/-- Two ranges that have no place in common. -/
def Disjoint (r s : VariantRange) : Prop := ∀ place, ¬ (r.contains place ∧ s.contains place)

theorem contains_iff : r.contains place ↔ r.low.le place ∧ place.lt r.high := by
  simp [contains]

/-- A range that ends no later than it starts is empty. -/
theorem not_contains_of_le (h : r.high.le r.low) : ¬ r.contains place := by
  intro hin
  obtain ⟨hlow, hhigh⟩ := contains_iff.mp hin
  exact Binary64.not_lt_of_le (Binary64.le_trans h hlow) hhigh

/-- A range that ends no later than another one starts has no place in common with it. -/
theorem disjoint_of_le {s : VariantRange} (h : r.high.le s.low) : r.Disjoint s := by
  rintro place ⟨hr, hs⟩
  exact Binary64.not_lt_of_le (Binary64.le_trans h (contains_iff.mp hs).1) (contains_iff.mp hr).2

/-- All ranges lie at or above the point where they start. -/
theorem le_low_of_mem_layOut (hlow : low.IsNonneg) (hw : ∀ share ∈ shares, share.2.IsNonneg)
    (hr : r ∈ layOut low shares) : low.le r.low := by
  have hself : low.le low := (Binary64.le_iff_rank hlow hlow).mpr (Nat.le_refl _)
  induction shares generalizing low with
  | nil => cases hr
  | cons share rest ih =>
      obtain ⟨hshare, hrest⟩ := List.forall_mem_cons.mp hw
      have hhigh := (Binary64.add_share hlow hshare).1
      rcases List.mem_cons.mp hr with rfl | hmem
      · exact hself
      · have hstep : low.le (low.add share.2) :=
          (Binary64.le_iff_rank hlow hhigh).mpr (Binary64.rank_le_add_left hlow hshare)
        exact Binary64.le_trans hstep
          (ih hhigh hrest hmem ((Binary64.le_iff_rank hhigh hhigh).mpr (Nat.le_refl _)))

/-- **No two ranges have a place in common**: each of them ends before the others start. -/
theorem pairwise_disjoint_layOut (hlow : low.IsNonneg) (hw : ∀ share ∈ shares, share.2.IsNonneg) :
    (layOut low shares).Pairwise Disjoint := by
  induction shares generalizing low with
  | nil => exact .nil
  | cons share rest ih =>
      obtain ⟨hshare, hrest⟩ := List.forall_mem_cons.mp hw
      have hhigh := (Binary64.add_share hlow hshare).1
      refine .cons (fun s hs => disjoint_of_le ?_) (ih hhigh hrest)
      exact le_low_of_mem_layOut hhigh hrest hs

/-- Where no two ranges have a place in common, the first one that contains a place is the only one. -/
theorem find?_eq_some_of_contains {ranges : List VariantRange} (h : ranges.Pairwise Disjoint)
    (hr : r ∈ ranges) (hin : r.contains place) : ranges.find? (·.contains place) = some r := by
  induction ranges with
  | nil => cases hr
  | cons s rest ih =>
      obtain ⟨hs, hrest⟩ := List.pairwise_cons.mp h
      rcases List.mem_cons.mp hr with rfl | hmem
      · exact List.find?_cons_of_pos hin
      · refine (List.find?_cons_of_neg fun hfirst => ?_).trans (ih hrest hmem)
        exact hs r hmem place ⟨hfirst, hin⟩

/-- The part of a variant: a range that has its key and does not run backwards, and that is empty if the
variant has no percentage, or zero. -/
structure IsPart (variant : Variant) (r : VariantRange) : Prop where
  key : r.key = variant.key
  ordered : r.low.le r.high
  empty : (∀ p ∈ variant.rollout, p.isZero) → ∀ place, ¬ r.contains place

/-- The ranges that `layOut` puts one after another, each starting where the one before it ends. -/
theorem isChain_layOut (low : Binary64) (shares : List (String × Binary64)) :
    (layOut low shares).IsChain fun r next => next.low = r.high := by
  induction shares generalizing low with
  | nil => exact .nil
  | cons share rest ih =>
      cases rest with
      | nil => exact .singleton _
      | cons next rest => exact .cons_cons rfl (ih (low.add share.2))

theorem low_of_head_layOut (hr : r ∈ (layOut low shares).head?) : r.low = low := by
  cases shares with
  | nil => cases hr
  | cons share rest =>
      obtain rfl := Option.some.inj hr
      rfl

theorem width_of_isZero {rollout : Option Binary64} (h : ∀ p ∈ rollout, p.isZero) :
    width rollout = .zero := by
  cases rollout with
  | none => rfl
  | some p => exact if_pos (h p rfl)

/-- Each variant has its part, in order. -/
theorem forall₂_isPart_layOut (hlow : low.IsNonneg) (h : ArePercentages variants) :
    List.Forall₂ IsPart variants (layOut low (variants.map fun v => (v.key, width v.rollout))) := by
  induction variants generalizing low with
  | nil => exact .nil
  | cons v rest ih =>
      have hwidth := (width_spec (h v (by simp))).1
      have hrest : ArePercentages rest := fun w hw => h w (by simp [hw])
      have hhigh := (Binary64.add_share hlow hwidth).1
      refine .cons ⟨rfl, ?_, fun hzero place => not_contains_of_le ?_⟩ (ih hhigh hrest)
      · exact (Binary64.le_iff_rank hlow hhigh).mpr (Binary64.rank_le_add_left hlow hwidth)
      · refine (Binary64.le_iff_rank hhigh hlow).mpr (Nat.le_of_eq ?_)
        refine Binary64.rank_add_of_rank_eq_zero hlow hwidth ?_
        show (width v.rollout).rank = 0
        rw [width_of_isZero hzero]
        rfl

/-- The table of variants whose percentages are doubles can always be computed. -/
theorem tableOfNumbers_float (variants : List Variant) :
    tableOfNumbers (variants.map fun v => (v.key, v.rollout.map .float)) = .ok (table variants) := by
  have hwidth (rollout : Option Binary64) :
      widthOfNumber (rollout.map .float) = .ok (width rollout) := by
    cases rollout <;> rfl
  refine bind_eq_ok.mpr ⟨_, mapM_eq_ok.mpr ?_, rfl⟩
  rw [List.forall₂_map_left_iff, List.forall₂_map_right_iff, List.forall₂_same]
  intro v _
  show (do return (v.key, ← widthOfNumber (v.rollout.map .float))) = _
  rw [hwidth]
  rfl

/-! ## The theorem -/

/-- Ranges that divide a part of the unit interval among variants: one for each of them, in order, the first
of them starting at zero and each of the others where the one before it ends. -/
structure Divides (variants : List Variant) (ranges : List VariantRange) : Prop where
  parts : List.Forall₂ IsPart variants ranges
  start : ∀ r ∈ ranges.head?, r.low = .zero
  meets : ranges.IsChain fun r next => next.low = r.high
  disjoint : ranges.Pairwise Disjoint

theorem divides_table (h : ArePercentages variants) : Divides variants (table variants) where
  parts := forall₂_isPart_layOut Binary64.isNonneg_zero h
  start _ hr := low_of_head_layOut hr
  meets := isChain_layOut _ _
  disjoint := pairwise_disjoint_layOut Binary64.isNonneg_zero (isNonneg_of_arePercentages h)

end VariantRange

namespace Flag

open VariantRange

variable {variants : List Variant}

/-- **The ranges of variants divide the unit interval in order, and a subject has the variant of its
place.**  For percentages from 0 to 100 the ranges can be computed; there is one for each variant, in
order, with the first starting at zero, the others where the one before ends, and none ending before it
starts.  No two of them have a place in common, and that of a variant without a percentage, or with
zero, has none at all.  A subject gets the variant in whose range its place lies, and is just *on* if it
lies in none. -/
theorem ranges_divide_in_order
    (h : ∀ v ∈ variants, ∀ p ∈ v.rollout, Binary64.zero.le p ∧ p.le (.ofInt 100)) :
    tableOfNumbers (variants.map fun v => (v.key, v.rollout.map .float)) = .ok (table variants) ∧
      Divides variants (table variants) ∧
      (∀ place (i j : Fin (table variants).length), (table variants)[i].contains place →
        (table variants)[j].contains place → i = j) ∧
      ∀ (flag : Flag) (digest : Digest) (subject : String), flag.variants = some variants →
        IsHex (digest (Bucket.source flag.key subject salt)) → ∃ place value,
          Bucket.place digest flag.key subject salt = .ok place ∧
            flag.resolveVariant digest subject = .ok value ∧
            (∀ r ∈ table variants, r.contains place → value = .variant r.key) ∧
            ((∀ r ∈ table variants, ¬ r.contains place) → value = .on) := by
  have hpercentages : ArePercentages variants :=
    fun v hv p hp => Binary64.isPercentage_iff.mpr (h v hv p hp)
  have hdivides := divides_table hpercentages
  refine ⟨tableOfNumbers_float variants, hdivides, fun place i j hi hj => ?_, ?_⟩
  · have hpairs := List.pairwise_iff_getElem.mp hdivides.disjoint
    rcases Nat.lt_trichotomy i j with hlt | heq | hgt
    · exact absurd ⟨hi, hj⟩ (hpairs i j i.isLt j.isLt hlt place)
    · exact Fin.ext heq
    · exact absurd ⟨hj, hi⟩ (hpairs j i j.isLt i.isLt hgt place)
  · intro flag digest subject hvariants hhex
    have hplace := Bucket.place_of_isHex hhex
    refine ⟨_, _, hplace, resolveVariant_of_place hplace, fun r hr hin => ?_, fun hnone => ?_⟩
    · rw [hvariants, Option.getD_some, find?_eq_some_of_contains hdivides.disjoint hr hin]
    · rw [hvariants, Option.getD_some, List.find?_eq_none.mpr hnone]

/-- A half, a variant without a percentage, one without subjects, and the other half. -/
def halves : List Variant :=
  [{ key := "control", rollout := some (.ofInt 50) }, { key := "draft" },
    { key := "retired", rollout := some .zero }, { key := "test", rollout := some (.ofInt 50) }]

/-- The subject in the middle of the unit interval gets the other half. -/
theorem middle_gets_other_half :
    let digest : Digest := fun _ => "8000000000000000000000000000000000000000"
    let flag : Flag := { key := "split", filters := { variants := some halves } }
    (∀ v ∈ halves, ∀ p ∈ v.rollout, Binary64.zero.le p ∧ p.le (.ofInt 100)) ∧
      IsHex (digest (Bucket.source flag.key "user" salt)) ∧
      flag.resolveVariant digest "user" = .ok (.variant "test") := by
  intro digest flag
  have hpercentages : ∀ v ∈ halves, ∀ p ∈ v.rollout, Binary64.zero.le p ∧ p.le (.ofInt 100) := by
    decide +kernel
  have hhex : IsHex (digest (Bucket.source flag.key "user" salt)) := by
    show IsHex "8000000000000000000000000000000000000000"
    decide +kernel
  obtain ⟨place, value, hplace, hvalue, hgets, -⟩ :=
    (ranges_divide_in_order hpercentages).2.2.2 flag digest "user" rfl hhex
  obtain rfl := Except.ok.inj ((Bucket.place_of_isHex hhex).symm.trans hplace)
  refine ⟨hpercentages, hhex, hvalue.trans (congrArg Except.ok ?_)⟩
  exact hgets (table halves)[3] (List.getElem_mem _) (by decide +kernel)

end Flag

end FeatureFlags
