import FeatureFlags.Proofs.Binary64.Order
import Mathlib.Algebra.Order.Field.Rat
import Mathlib.Tactic.FieldSimp
import Mathlib.Tactic.NormNum

/-!
# `Proofs.Binary64.Magnitude` — shares, and what rounding takes from them

A share is zero or positive, and is known by the rank of its magnitude (`IsNonneg`).  Hundredths and sums
of shares are shares again (`hundredth_share`, `add_share`), and a sum is no less than its terms.

Below one, neighbouring doubles are at most `2 ^ -53` apart, so that what is rounded to a share below one
loses at most half of that: `value_le_hundredth` and `value_add_le`.  How far a long sum of hundredths can
fall short follows step by step.

## Contents

1. Shares and their order
2. Hundredths and sums of shares
3. One
4. What rounding takes away
-/

namespace FeatureFlags

namespace Binary64

/-! ## Shares and their order -/

/-- The rank of the magnitude of a number. -/
def rank : Binary64 → Nat
  | .nan => 0
  | .num _ rank _ => rank

/-- Whether a number is zero or positive. -/
def IsNonneg (x : Binary64) : Prop := x.place? = some (x.rank : Int)

instance (x : Binary64) : Decidable x.IsNonneg :=
  inferInstanceAs (Decidable (x.place? = some (x.rank : Int)))

/-- The exact value of a finite number.  Infinities and not-a-number have none; zero stands for it. -/
def value : Binary64 → ℚ
  | .nan => 0
  | .num negative rank _ => if rank = infRank then 0 else (signedUnits negative rank : ℚ) / unitsPerOne

section

variable {x y z : Binary64} {negative : Bool} {r : Nat} {h : r ≤ infRank}

@[simp] theorem rank_num : (num negative r h).rank = r := rfl

theorem isNonneg_num : (num negative r h).IsNonneg ↔ (negative → r = 0) := by
  unfold IsNonneg place?
  cases negative with
  | false => simp
  | true =>
      simp only [if_true, rank_num, Option.some.injEq, true_implies]
      omega

theorem isNonneg_zero : zero.IsNonneg := isNonneg_num.mpr (by simp)

theorem isNonneg_of_zero_le (hx : zero.le x) : x.IsNonneg := by
  obtain ⟨a, b, ha, hb, hab⟩ := le_iff.mp hx
  obtain rfl : (0 : Int) = a := Option.some.inj (isNonneg_zero.symm.trans ha)
  cases x with
  | nan => cases hb
  | num negative r h =>
      refine isNonneg_num.mpr fun hn => ?_
      simp only [place?, hn, if_true, Option.some.injEq] at hb
      omega

theorem rank_le (x : Binary64) : x.rank ≤ infRank := by
  cases x with
  | nan => exact Nat.zero_le _
  | num _ _ h => exact h

theorem le_iff_rank (hx : x.IsNonneg) (hy : y.IsNonneg) : x.le y ↔ x.rank ≤ y.rank := by
  rw [le_iff, hx, hy]
  simp

theorem lt_iff_rank (hx : x.IsNonneg) (hy : y.IsNonneg) : x.lt y ↔ x.rank < y.rank := by
  unfold lt compare?
  rw [hx, hy]
  simp [Int.compare_eq_lt]

/-- The sign of a share makes no difference to what it counts. -/
theorem signedUnits_of_nonneg (hn : negative → r = 0) : signedUnits negative r = units r := by
  cases negative with
  | false => rfl
  | true => rw [hn rfl, units_zero]; rfl

/-- The value of a share is what its rank says. -/
theorem value_of_isNonneg (hx : x.IsNonneg) (hr : x.rank < infRank) :
    x.value = (units x.rank : ℚ) / unitsPerOne := by
  cases x with
  | nan => cases hx
  | num negative r h =>
      have hfinite : r ≠ infRank := Nat.ne_of_lt hr
      rw [value, if_neg hfinite, signedUnits_of_nonneg (isNonneg_num.mp hx), rank_num, Int.cast_natCast]

theorem value_of_isZero (hx : x.isZero) : x.value = 0 := by
  cases x with
  | nan => cases hx
  | num negative r h =>
      obtain rfl : r = 0 := by simpa [isZero] using hx
      have hnonneg : (num negative 0 h).IsNonneg := isNonneg_num.mpr fun _ => rfl
      have hfinite : 0 < infRank := by decide
      rw [value_of_isNonneg hnonneg hfinite, rank_num, units_zero, Nat.cast_zero, zero_div]

@[simp] theorem value_zero : zero.value = 0 := value_of_isZero rfl

theorem unitsPerOne_pos : 0 < (unitsPerOne : ℚ) := by
  have h : 0 < unitsPerOne := by decide +kernel
  exact Nat.cast_pos.mpr h

theorem isFinite_iff_rank (hx : x.IsNonneg) : x.isFinite ↔ x.rank < infRank := by
  cases x with
  | nan => cases hx
  | num negative r h => exact decide_eq_true_iff

/-- Finite shares are ordered as their values. -/
theorem lt_iff_value (hx : x.IsNonneg) (hy : y.IsNonneg) (hxr : x.rank < infRank) (hyr : y.rank < infRank) :
    x.lt y ↔ x.value < y.value := by
  rw [lt_iff_rank hx hy, value_of_isNonneg hx hxr, value_of_isNonneg hy hyr,
    div_lt_div_iff_of_pos_right unitsPerOne_pos, Nat.cast_lt, units_lt_iff]

end

/-! ## Hundredths and sums of shares -/

/-- The rank of a sum of shares. -/
def sumRank (a b : Nat) : Nat :=
  if a = infRank ∨ b = infRank then infRank else roundRank (units a + units b) 1

section

variable {x y : Binary64}

theorem hundredth_share (hx : x.IsNonneg) :
    x.hundredth.IsNonneg ∧ x.hundredth.rank = hundredthRank x.rank := by
  cases x with
  | nan => cases hx
  | num negative r h =>
      rw [isNonneg_num] at hx
      by_cases hr : r = infRank
      · have hsame : (num negative r h).hundredth = num negative r h := if_pos hr
        rw [hsame, rank_num, hundredthRank, if_pos hr]
        exact ⟨isNonneg_num.mpr hx, hr⟩
      · have hround : (num negative r h).hundredth =
            num negative (roundRank (units r) 100) (roundRank_le_infRank _ _) := if_neg hr
        rw [hround, rank_num, rank_num, hundredthRank, if_neg hr]
        refine ⟨isNonneg_num.mpr fun hn => ?_, rfl⟩
        have hzero : hundredthRank r = 0 := (congrArg hundredthRank (hx hn)).trans hundredthRank_zero
        rwa [hundredthRank, if_neg hr] at hzero

theorem add_share (hx : x.IsNonneg) (hy : y.IsNonneg) :
    (x.add y).IsNonneg ∧ (x.add y).rank = sumRank x.rank y.rank := by
  cases x with
  | nan => cases hx
  | num s a ha =>
      cases y with
      | nan => cases hy
      | num t b hb =>
          rw [isNonneg_num] at hx hy
          -- only zero may have a sign, so that infinities of opposite sign do not meet
          have hinf : infRank ≠ 0 := by decide
          by_cases hai : a = infRank
          · have hs : s = false := Bool.eq_false_iff.mpr fun hs => hinf (hai ▸ hx hs)
            have hst : ¬(b = infRank ∧ s ≠ t) := fun ⟨hbi, hne⟩ =>
              hinf (hbi ▸ hy (Bool.eq_true_of_not_eq_false fun ht => hne (hs.trans ht.symm)))
            simp only [add, sumRank, rank_num, hai, true_or, if_true]
            rw [if_neg hst]
            exact ⟨isNonneg_num.mpr (by simp [hs]), rfl⟩
          · by_cases hbi : b = infRank
            · simp only [add, sumRank, rank_num, hbi, or_true, if_true, if_neg hai]
              exact ⟨isNonneg_num.mpr (hbi ▸ hy), trivial⟩
            · have hsum : signedUnits s a + signedUnits t b = ((units a + units b : Nat) : Int) := by
                rw [signedUnits_of_nonneg hx, signedUnits_of_nonneg hy, Int.natCast_add]
              simp only [add, sumRank, rank_num, hai, hbi, or_self, if_false, hsum]
              by_cases hzero : units a + units b = 0
              · -- a sum that is zero is not rounded, but would be rounded to the same
                have hround : roundRank (units 0 * 1) 1 = 0 := roundRank_units Nat.one_pos (Nat.zero_le _)
                rw [units_zero, Nat.zero_mul] at hround
                rw [if_pos (by rw [hzero]; rfl), hzero, hround]
                exact ⟨isNonneg_num.mpr fun _ => rfl, rfl⟩
              · rw [if_neg (by exact_mod_cast hzero), ofSignedUnits]
                refine ⟨isNonneg_num.mpr fun hn => ?_, by rw [rank_num, Int.natAbs_natCast]⟩
                exact absurd (of_decide_eq_true hn) (by omega)

/-- The product of numbers above zero is rounded, unless one of them is infinite. -/
theorem mul_share (hx : x.IsNonneg) (hy : y.IsNonneg) (hx0 : 0 < x.rank) (hy0 : 0 < y.rank) :
    (x.mul y).IsNonneg ∧ (x.mul y).rank = if x.rank = infRank ∨ y.rank = infRank then infRank
      else roundRank (units x.rank * units y.rank) unitsPerOne := by
  cases x with
  | nan => cases hx
  | num s a ha =>
      cases y with
      | nan => cases hy
      | num t b hb =>
          rw [rank_num] at hx0 hy0
          have hs : s = false := Bool.eq_false_iff.mpr fun hs => by simp [isNonneg_num.mp hx hs] at hx0
          have ht : t = false := Bool.eq_false_iff.mpr fun ht => by simp [isNonneg_num.mp hy ht] at hy0
          simp only [mul, rank_num, hs, ht]
          by_cases hinf : a = infRank ∨ b = infRank
          · rw [if_pos hinf, if_pos hinf, if_neg (by omega)]
            exact ⟨rfl, rfl⟩
          · rw [if_neg hinf, if_neg hinf]
            exact ⟨isNonneg_num.mpr (by simp), rfl⟩

/-- What counts no less than a rank is not rounded below it. -/
theorem le_roundRank {r n : Nat} (hr : r ≤ infRank) (h : units r ≤ n) : r ≤ roundRank n 1 := by
  calc r = roundRank (units r * 1) 1 := (roundRank_units Nat.one_pos hr).symm
    _ ≤ roundRank n 1 := roundRank_mono Nat.one_pos Nat.one_pos (by omega)

/-- A sum of shares is no less than its first term. -/
theorem rank_le_add_left (hx : x.IsNonneg) (hy : y.IsNonneg) : x.rank ≤ (x.add y).rank := by
  rw [(add_share hx hy).2, sumRank]
  split
  · exact x.rank_le
  · exact le_roundRank x.rank_le (Nat.le_add_right _ _)

/-- A sum of shares is no less than its second term. -/
theorem rank_le_add_right (hx : x.IsNonneg) (hy : y.IsNonneg) : y.rank ≤ (x.add y).rank := by
  rw [(add_share hx hy).2, sumRank]
  split
  · exact y.rank_le
  · exact le_roundRank y.rank_le (Nat.le_add_left _ _)

end

/-! ## One -/

/-- The rank of one. -/
def oneRank : Nat := 1023 * binadeSize

theorem oneRank_lt : oneRank < infRank := by decide

/-- One. -/
def one : Binary64 := .num false oneRank oneRank_lt.le

theorem units_oneRank : units oneRank = unitsPerOne := by decide +kernel

theorem isNonneg_one : one.IsNonneg := rfl

theorem value_one : one.value = 1 := by
  rw [value_of_isNonneg isNonneg_one oneRank_lt, one, rank_num, units_oneRank,
    div_self unitsPerOne_pos.ne']

/-! ## What rounding takes away -/

/-- How often the spacing of ranks has been doubled in the last binade below one. -/
def doublings : Nat := 1021

/-- The largest distance of neighbours below one, counted in smallest positive magnitudes. -/
def spacing : Nat := 2 ^ doublings

theorem units_succ_le {r : Nat} (hr : r < oneRank) : units (r + 1) ≤ units r + spacing := by
  obtain ⟨d, m, rfl, hm, hd⟩ := exists_place r
  rw [units_succ hm hd, units_add hm hd, Nat.add_one_mul]
  have hbinade : d ≤ doublings := by
    rcases hd with rfl | hd
    · exact Nat.zero_le _
    · have hlt : (d + 1) * binadeSize < 1023 * binadeSize := by
        rw [Nat.add_one_mul]
        exact Nat.lt_of_le_of_lt (Nat.add_le_add_left hd _) hr
      exact Nat.le_of_lt_add_one (Nat.lt_of_add_lt_add_right (Nat.lt_of_mul_lt_mul_right hlt))
  have hpow : 2 ^ d ≤ spacing := Nat.pow_le_pow_right (by decide) hbinade
  exact Nat.add_le_add_left hpow _

/-- The most that rounding takes from a share below one. -/
def roundingLoss : ℚ := 1 / 2 ^ 54

theorem spacing_div : (spacing : ℚ) / 2 / unitsPerOne = roundingLoss := by
  have hspacing : (spacing : ℚ) ≠ 0 := Nat.cast_ne_zero.mpr (by decide +kernel)
  have hunits : unitsPerOne = spacing * 2 ^ 53 := by decide +kernel
  rw [hunits, roundingLoss]
  generalize spacing = s at hspacing
  push_cast
  field_simp
  norm_num

/-- **What is rounded to a share below one loses at most half a spacing.** -/
theorem div_le_of_roundRank_lt {num den : Nat} (hden : 0 < den) (h : roundRank num den < oneRank) :
    (num : ℚ) / den / unitsPerOne ≤ (units (roundRank num den) : ℚ) / unitsPerOne + roundingLoss := by
  -- what is rounded to a rank does not lie above the middle between it and the next one
  have hnot : ¬ Above (roundRank num den) num den := fun ha =>
    Nat.lt_irrefl _ ((lt_roundRank_iff hden).mpr ⟨h.trans oneRank_lt, ha⟩)
  have hmiddle : 2 * num ≤ den * (units (roundRank num den) + units (roundRank num den + 1)) :=
    Nat.le_of_not_lt fun hlt => hnot (.inl hlt)
  have hnat : 2 * num ≤ den * (2 * units (roundRank num den) + spacing) := by
    refine hmiddle.trans (Nat.mul_le_mul_left den ?_)
    have := units_succ_le h
    omega
  have hrat : 2 * (num : ℚ) ≤ den * (2 * units (roundRank num den) + spacing) := by exact_mod_cast hnat
  rw [← spacing_div, ← add_div, div_le_div_iff_of_pos_right unitsPerOne_pos,
    div_le_iff₀ (Nat.cast_pos.mpr hden)]
  linarith

section

variable {x y : Binary64}

theorem rank_lt_of_lt_one (hx : x.IsNonneg) (h : x.lt one) : x.rank < oneRank :=
  (lt_iff_rank hx isNonneg_one).mp h

/-- A share that is not less than one is at least one. -/
theorem oneRank_le_of_not_lt (hx : x.IsNonneg) (h : ¬ x.lt one) : oneRank ≤ x.rank :=
  Nat.le_of_not_lt fun hlt => h ((lt_iff_rank hx isNonneg_one).mpr hlt)

/-- A hundredth that is less than one has lost little. -/
theorem value_le_hundredth (hx : x.IsNonneg) (h : x.hundredth.lt one) :
    x.value / 100 ≤ x.hundredth.value + roundingLoss := by
  obtain ⟨hnonneg, hrank⟩ := hundredth_share hx
  have hlt := rank_lt_of_lt_one hnonneg h
  have hfinite : x.rank ≠ infRank := by
    intro hinf
    rw [hrank, hundredthRank, if_pos hinf] at hlt
    exact absurd oneRank_lt (Nat.lt_asymm hlt)
  rw [value_of_isNonneg hnonneg (hlt.trans oneRank_lt),
    value_of_isNonneg hx (Nat.lt_of_le_of_ne x.rank_le hfinite)]
  rw [hrank, hundredthRank, if_neg hfinite] at hlt ⊢
  calc (units x.rank : ℚ) / unitsPerOne / 100 = (units x.rank : ℚ) / (100 : Nat) / unitsPerOne := by
        rw [div_right_comm, Nat.cast_ofNat]
    _ ≤ _ := div_le_of_roundRank_lt (by decide) hlt

/-- A sum that is less than one has lost little. -/
theorem value_add_le (hx : x.IsNonneg) (hy : y.IsNonneg) (h : (x.add y).lt one) :
    x.value + y.value ≤ (x.add y).value + roundingLoss := by
  obtain ⟨hnonneg, hrank⟩ := add_share hx hy
  have hlt := rank_lt_of_lt_one hnonneg h
  have hxr : x.rank < infRank := ((rank_le_add_left hx hy).trans_lt hlt).trans oneRank_lt
  have hyr : y.rank < infRank := ((rank_le_add_right hx hy).trans_lt hlt).trans oneRank_lt
  rw [value_of_isNonneg hx hxr, value_of_isNonneg hy hyr, value_of_isNonneg hnonneg (hlt.trans oneRank_lt)]
  rw [hrank, sumRank, if_neg (not_or.mpr ⟨hxr.ne, hyr.ne⟩)] at hlt ⊢
  calc (units x.rank : ℚ) / unitsPerOne + units y.rank / unitsPerOne
      = ((units x.rank + units y.rank : Nat) : ℚ) / (1 : Nat) / unitsPerOne := by
        rw [Nat.cast_one, div_one, Nat.cast_add, add_div]
    _ ≤ _ := div_le_of_roundRank_lt Nat.one_pos hlt

end

end Binary64

end FeatureFlags
