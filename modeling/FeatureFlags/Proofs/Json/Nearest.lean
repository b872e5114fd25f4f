import FeatureFlags.Proofs.Json.Exact
import Mathlib.Algebra.Order.Field.Basic

/-!
# `Proofs.Json.Nearest` — the nearest double keeps the order of numbers

An integer may lie between two doubles, so that numbers which differ have the same nearest double.  What
rounding never does is turn two numbers around: the place of the nearest double is a monotone function of
the exact value (`Extended.nearestPlace_mono`), and it is the place of the double that a number is brought
to, whichever way the number is written (`Number.place?_of_toBinary64?`).  A number that is a double already
stays where it is.
-/

namespace FeatureFlags

/-! ## The nearest rank -/

namespace Binary64

/-- The rank nearest to the magnitude of a rational number. -/
def nearestRank (q : ℚ) : Nat := roundRank (q.num.natAbs * unitsPerOne) q.den

theorem nearestRank_le (q : ℚ) : nearestRank q ≤ infRank := roundRank_le_infRank _ _

/-- The larger magnitude has the larger rank. -/
theorem nearestRank_mono {q r : ℚ} (h : |q| ≤ |r|) : nearestRank q ≤ nearestRank r := by
  have hcross : q.num.natAbs * r.den ≤ r.num.natAbs * q.den := by
    rw [Rat.le_iff, Rat.num_abs_eq_abs_num, Rat.num_abs_eq_abs_num, Rat.den_abs_eq_den, Rat.den_abs_eq_den,
      Int.abs_eq_natAbs, Int.abs_eq_natAbs] at h
    exact_mod_cast h
  refine roundRank_mono q.den_pos r.den_pos ?_
  calc q.num.natAbs * unitsPerOne * r.den = q.num.natAbs * r.den * unitsPerOne := Nat.mul_right_comm _ _ _
    _ ≤ r.num.natAbs * q.den * unitsPerOne := Nat.mul_le_mul_right _ hcross
    _ = r.num.natAbs * unitsPerOne * q.den := Nat.mul_right_comm _ _ _

/-- A magnitude that is the value of a rank has that rank. -/
theorem nearestRank_of_units {q : ℚ} {rank : Nat} (h : |q| = ofUnits (units rank)) (hr : rank ≤ infRank) :
    nearestRank q = rank := by
  have hcross : q.num.natAbs * unitsPerOne = units rank * q.den := by
    have hden : (q.den : ℚ) ≠ 0 := Nat.cast_ne_zero.mpr q.den_nz
    have hquotient : (q.num.natAbs : ℚ) / q.den = units rank / unitsPerOne := by
      calc (q.num.natAbs : ℚ) / q.den = |(q.num : ℚ)| / |(q.den : ℚ)| := by
            rw [Nat.cast_natAbs, Int.cast_abs, Nat.abs_cast]
        _ = |q| := by rw [← abs_div, Rat.num_div_den]
        _ = units rank / unitsPerOne := by rw [h, ofUnits, Int.cast_natCast]
    rw [div_eq_div_iff hden unitsPerOne_pos.ne'] at hquotient
    exact_mod_cast hquotient
  rw [nearestRank, hcross]
  exact roundRank_units q.den_pos hr

end Binary64

/-! ## The nearest place -/

open Binary64

/-- The place of the double nearest to a value; the infinities keep theirs. -/
def Extended.nearestPlace : Extended → Int
  | ⊥ => -infRank
  | (q : ℚ) => if q < 0 then -(nearestRank q : Int) else nearestRank q
  | ⊤ => infRank

namespace Extended

theorem nearestPlace_coe (q : ℚ) :
    nearestPlace q = if q < 0 then -(nearestRank q : Int) else nearestRank q := rfl

theorem nearestPlace_mem (a : Extended) : nearestPlace a ∈ Set.Icc (-infRank : Int) infRank := by
  induction a using WithBotTop.rec with
  | bot => simp [nearestPlace]
  | top => simp [nearestPlace]
  | coe q =>
      have hle := nearestRank_le q
      rw [nearestPlace_coe]
      split <;> constructor <;> omega

/-- **Rounding keeps the order** of all values. -/
theorem nearestPlace_mono : Monotone nearestPlace := by
  intro a b h
  induction a using WithBotTop.rec with
  | bot => exact (nearestPlace_mem b).1
  | top =>
      obtain rfl : b = ⊤ := top_le_iff.mp h
      exact le_rfl
  | coe q =>
      induction b using WithBotTop.rec with
      | bot => exact absurd (le_bot_iff.mp h) (WithBotTop.coe_ne_bot q)
      | top => exact (nearestPlace_mem _).2
      | coe r =>
          have hqr : q ≤ r := WithBotTop.coe_le_coe.mp h
          rw [nearestPlace_coe, nearestPlace_coe]
          by_cases hq : q < 0 <;> by_cases hr : r < 0 <;> simp only [hq, hr, if_true, if_false]
          · -- below zero the larger number has the smaller magnitude
            have hmagnitude : |r| ≤ |q| := by
              rw [abs_of_neg hr, abs_of_neg hq]
              exact neg_le_neg hqr
            have := nearestRank_mono hmagnitude
            omega
          · omega
          · exact absurd (hqr.trans_lt hr) hq
          · have hmagnitude : |q| ≤ |r| := by
              rwa [abs_of_nonneg (not_lt.mp hr), abs_of_nonneg (not_lt.mp hq)]
            exact Int.ofNat_le.mpr (nearestRank_mono hmagnitude)

end Extended

/-! ## The double that a number is brought to -/

namespace Binary64

/-- The values of places have the signs of the places. -/
theorem ofUnits_unitsAt_lt_zero_iff {place : Int} : ofUnits (unitsAt place) < 0 ↔ place < 0 := by
  have hzero : ofUnits (unitsAt 0) = 0 := by simp [ofUnits, unitsAt, signedUnits]
  rw [← hzero]
  exact (ofUnits_strictMono.comp unitsAt_strictMono).lt_iff_lt

theorem abs_ofUnits_unitsAt (place : Int) : |ofUnits (unitsAt place)| = ofUnits (units place.natAbs) := by
  have hunits : (0 : ℚ) ≤ ofUnits (units place.natAbs) :=
    div_nonneg (Int.cast_nonneg (Int.natCast_nonneg _)) unitsPerOne_pos.le
  by_cases hneg : place < 0
  · have hvalue : ofUnits (unitsAt place) = -ofUnits (units place.natAbs) := by
      simp [unitsAt, signedUnits, hneg, ofUnits, neg_div]
    rw [hvalue, abs_neg, abs_of_nonneg hunits]
  · have hvalue : ofUnits (unitsAt place) = ofUnits (units place.natAbs) := by
      simp [unitsAt, signedUnits, hneg]
    rw [hvalue, abs_of_nonneg hunits]

/-- **A double stays at its place.** -/
theorem nearestPlace_placeValue {place : Int} (h : place ∈ Set.Icc (-infRank : Int) infRank) :
    (placeValue place).nearestPlace = place := by
  obtain ⟨hlo, hhi⟩ := h
  unfold placeValue
  split
  · next htop => exact htop.symm
  · split
    · next hbot => exact hbot.symm
    · have hrank : place.natAbs ≤ infRank := by omega
      rw [Extended.nearestPlace_coe, nearestRank_of_units (abs_ofUnits_unitsAt place) hrank]
      simp only [ofUnits_unitsAt_lt_zero_iff]
      split <;> omega

/-- An integer is brought to the double nearest to it. -/
theorem place?_ofInt (n : Int) : (ofInt n).place? = some (Extended.ofInt n).nearestPlace := by
  have hsign : ((n : ℚ) < 0) = (n < 0) := propext Int.cast_lt_zero
  rw [Extended.ofInt, Extended.nearestPlace_coe, nearestRank, Rat.num_intCast, Rat.den_intCast]
  simp only [ofInt, ofRatio, place?, hsign, decide_eq_true_eq]

end Binary64

namespace Number

variable {n : Number} {a : Extended} {x : Binary64}

/-- Every number but not-a-number has an exact value. -/
theorem exists_exactValue? (h : n ≠ .float .nan) : ∃ a, n.exactValue? = some a := by
  cases n with
  | int k => exact ⟨_, rfl⟩
  | float x =>
      cases x with
      | nan => exact absurd rfl h
      | num negative rank hr => exact ⟨_, rfl⟩

/-- **A number is brought to the place nearest to its exact value**, whichever way it is written. -/
theorem place?_of_toBinary64? (ha : n.exactValue? = some a) (hx : n.toBinary64? = some x) :
    x.place? = some a.nearestPlace := by
  cases n with
  | int k =>
      obtain rfl := Option.some.inj ha
      simp only [toBinary64?] at hx
      split at hx
      · obtain rfl := Option.some.inj hx
        exact place?_ofInt k
      · cases hx
  | float y =>
      obtain rfl := Option.some.inj hx
      obtain ⟨place, hplace, rfl⟩ := Option.map_eq_some_iff.mp ha
      rw [hplace, nearestPlace_placeValue (place?_mem hplace)]

end Number

end FeatureFlags
