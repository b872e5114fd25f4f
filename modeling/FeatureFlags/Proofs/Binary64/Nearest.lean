import FeatureFlags.Proofs.Binary64.Magnitude
import Mathlib.Algebra.Order.Field.Basic

/-!
# `Proofs.Binary64.Nearest` — a quotient is rounded once, to the nearest double

What rounding once means is said of exact values, without ranks (`IsNearest`): no double is nearer to the
value, and of two that are as near, the one with the even rank is taken.

Rounding is known by the middles between neighbours: the result lies above a rank exactly if the quotient
lies above the middle that follows it.  So the middle between the result and any other share lies on the
other side of the quotient (`middle_le_of_lt` and `le_middle_of_lt`), which is to say that the other share
is not nearer.  Numbers below zero are even farther away than zero.
-/

namespace FeatureFlags

namespace Binary64

/-! ## The nearest double -/

/-- A finite double is what a value is rounded to: none is nearer, and if another one is as near, the rank
of this one is even. -/
structure IsNearest (q : ℚ) (x : Binary64) : Prop where
  finite : x.isFinite
  nearest : ∀ y : Binary64, y.isFinite → |x.value - q| ≤ |y.value - q|
  even : ∀ y : Binary64, y.isFinite → y.value ≠ x.value → |y.value - q| = |x.value - q| → x.rank % 2 = 0

section

variable {q v w : ℚ}

/-- Of two values, the one on the other side of their middle is not nearer. -/
theorem abs_sub_le_of_middle_le (h : w ≤ v) (hq : w + v ≤ 2 * q) : |v - q| ≤ |w - q| := by
  refine abs_le.mpr ⟨?_, ?_⟩
  · have := neg_abs_le (w - q)
    linarith
  · have := neg_le_abs (w - q)
    linarith

theorem abs_sub_le_of_le_middle (h : v ≤ w) (hq : 2 * q ≤ w + v) : |v - q| ≤ |w - q| := by
  refine abs_le.mpr ⟨?_, ?_⟩
  · have := le_abs_self (w - q)
    linarith
  · have := le_abs_self (w - q)
    linarith

/-- Two values are as near only to their middle. -/
theorem middle_eq_of_abs_sub_eq (hne : w ≠ v) (h : |w - q| = |v - q|) : w + v = 2 * q := by
  rcases abs_eq_abs.mp h with heq | heq
  · exact absurd (by linarith) hne
  · linarith

end

/-! ## Middles -/

section

variable {num den rank : Nat}

/-- A quotient in smallest positive magnitudes that lies above a rank is at least the middle to the result of
rounding, and is that middle only if the result is even. -/
theorem middle_le_of_lt (hden : 0 < den) (h : rank < roundRank num den) :
    den * (units rank + units (roundRank num den)) ≤ 2 * num ∧
      (den * (units rank + units (roundRank num den)) = 2 * num → roundRank num den % 2 = 0) := by
  obtain ⟨last, hlast⟩ := Nat.exists_eq_add_one_of_ne_zero (Nat.ne_of_gt (Nat.zero_lt_of_lt h))
  -- the rank before the result has the quotient above it
  have habove : Above last num den := ((lt_roundRank_iff hden).mp (by omega)).2
  rw [hlast] at h ⊢
  have hunits : units rank ≤ units last := units_le_iff.mpr (Nat.le_of_lt_succ h)
  have hmiddle : den * (units rank + units (last + 1)) ≤ den * (units last + units (last + 1)) :=
    Nat.mul_le_mul_left den (Nat.add_le_add_right hunits _)
  rcases habove with hlt | ⟨heq, hodd⟩
  · exact ⟨by omega, by omega⟩
  · exact ⟨by omega, fun _ => by omega⟩

/-- A quotient that rounds to a finite rank is at most the middle to any rank above, and is that middle only
if the result is even. -/
theorem le_middle_of_lt (hden : 0 < den) (hfinite : roundRank num den < infRank)
    (h : roundRank num den < rank) :
    2 * num ≤ den * (units (roundRank num den) + units rank) ∧
      (den * (units (roundRank num den) + units rank) = 2 * num → roundRank num den % 2 = 0) := by
  have hnot : ¬ Above (roundRank num den) num den := fun habove =>
    Nat.lt_irrefl _ ((lt_roundRank_iff hden).mpr ⟨hfinite, habove⟩)
  generalize roundRank num den = r at h hnot ⊢
  have hunits : units (r + 1) ≤ units rank := units_le_iff.mpr h
  have hmiddle : den * (units r + units (r + 1)) ≤ den * (units r + units rank) :=
    Nat.mul_le_mul_left den (Nat.add_le_add_left hunits _)
  unfold Above at hnot
  exact ⟨by omega, fun _ => by omega⟩

end

/-! ## Quotients -/

/-- The exact value of a finite share, by its rank. -/
def magnitude (rank : Nat) : ℚ := units rank / unitsPerOne

theorem magnitude_mono {a b : Nat} (h : a ≤ b) : magnitude a ≤ magnitude b :=
  (div_le_div_iff_of_pos_right unitsPerOne_pos).mpr (Nat.cast_le.mpr (units_le_iff.mpr h))

section

variable {num den : Nat}

theorem magnitude_add (hden : 0 < den) (a b : Nat) :
    magnitude a + magnitude b = (den * (units a + units b) : Nat) / (den * unitsPerOne) := by
  have hd : (den : ℚ) ≠ 0 := Nat.cast_ne_zero.mpr (Nat.ne_of_gt hden)
  rw [magnitude, magnitude, ← add_div, ← Nat.cast_add, Nat.cast_mul, mul_div_mul_left _ _ hd]

theorem twice_quotient (num den : Nat) :
    2 * (num / den : ℚ) = (2 * (num * unitsPerOne) : Nat) / (den * unitsPerOne) := by
  rw [Nat.cast_mul, Nat.cast_mul, ← mul_assoc, mul_div_mul_right _ _ unitsPerOne_pos.ne', Nat.cast_ofNat,
    mul_div_assoc]

/-- **No other share is nearer to a quotient than the one that it is rounded to.** -/
theorem magnitude_nearest (hden : 0 < den) (hfinite : roundRank (num * unitsPerOne) den < infRank)
    (rank : Nat) : |magnitude (roundRank (num * unitsPerOne) den) - num / den| ≤
        |magnitude rank - num / den| ∧
      (magnitude rank ≠ magnitude (roundRank (num * unitsPerOne) den) →
        |magnitude rank - num / den| = |magnitude (roundRank (num * unitsPerOne) den) - num / den| →
          roundRank (num * unitsPerOne) den % 2 = 0) := by
  have hunit : (0 : ℚ) < den * unitsPerOne := mul_pos (Nat.cast_pos.mpr hden) unitsPerOne_pos
  rcases Nat.lt_trichotomy rank (roundRank (num * unitsPerOne) den) with hlt | rfl | hgt
  · obtain ⟨hle, heven⟩ := middle_le_of_lt hden hlt
    generalize roundRank (num * unitsPerOne) den = r at hlt hle heven ⊢
    have hmiddle : magnitude rank + magnitude r ≤ 2 * (num / den) := by
      rw [magnitude_add hden, twice_quotient, div_le_div_iff_of_pos_right hunit]
      exact Nat.cast_le.mpr hle
    refine ⟨abs_sub_le_of_middle_le (magnitude_mono hlt.le) hmiddle, fun hne htie => heven ?_⟩
    have heq := middle_eq_of_abs_sub_eq hne htie
    rw [magnitude_add hden, twice_quotient, div_left_inj' hunit.ne'] at heq
    exact Nat.cast_injective heq
  · exact ⟨le_rfl, fun hne => absurd rfl hne⟩
  · obtain ⟨hle, heven⟩ := le_middle_of_lt hden hfinite hgt
    generalize roundRank (num * unitsPerOne) den = r at hgt hle heven ⊢
    have hmiddle : 2 * (num / den) ≤ magnitude r + magnitude rank := by
      rw [magnitude_add hden, twice_quotient, div_le_div_iff_of_pos_right hunit]
      exact Nat.cast_le.mpr hle
    refine ⟨abs_sub_le_of_le_middle (magnitude_mono hgt.le) (by linarith), fun hne htie => heven ?_⟩
    have heq := middle_eq_of_abs_sub_eq hne htie
    rw [add_comm, magnitude_add hden, twice_quotient, div_left_inj' hunit.ne'] at heq
    exact Nat.cast_injective heq

/-- A finite number is a share, or lies below zero. -/
theorem value_eq_magnitude_or_neg {x : Binary64} (h : x.isFinite) :
    x.value = magnitude x.rank ∨ x.value < 0 := by
  cases x with
  | nan => cases h
  | num negative r hr =>
      have hfinite : r ≠ infRank := Nat.ne_of_lt (of_decide_eq_true h)
      rw [value, if_neg hfinite]
      rcases Nat.eq_zero_or_pos r with rfl | hpos
      · left
        cases negative <;> simp [signedUnits, magnitude]
      · cases negative with
        | false => exact .inl (by simp [signedUnits, magnitude])
        | true =>
            have hunits : 0 < units r := units_zero ▸ units_strictMono hpos
            have hneg : (signedUnits true r : ℚ) < 0 := Int.cast_lt_zero.mpr (by simpa [signedUnits])
            exact .inr (div_neg_of_neg_of_pos hneg unitsPerOne_pos)

/-- **A quotient is rounded to the double nearest to it.** -/
theorem isNearest_ofRatio (hden : 0 < den) (hfinite : roundRank (num * unitsPerOne) den < infRank) :
    IsNearest (num / den) (ofRatio false num den) := by
  have hvalue : (ofRatio false num den).value = magnitude (roundRank (num * unitsPerOne) den) := by
    rw [ofRatio, value, if_neg hfinite.ne]
    simp [signedUnits, magnitude]
  have hquotient : (0 : ℚ) ≤ num / den := div_nonneg (Nat.cast_nonneg _) (Nat.cast_nonneg _)
  -- a number below zero is farther away than zero, which is a share
  have hbelow {y : Binary64} (hy : y.value < 0) :
      |(ofRatio false num den).value - num / den| < |y.value - num / den| := by
    have hzero := (magnitude_nearest hden hfinite 0).1
    have hmagnitude : magnitude 0 = 0 := by simp [magnitude]
    rw [hmagnitude, zero_sub, abs_neg, abs_of_nonneg hquotient] at hzero
    rw [hvalue]
    refine hzero.trans_lt ?_
    rw [abs_of_neg (by linarith)]
    linarith
  refine ⟨decide_eq_true hfinite, fun y hy => ?_, fun y hy hne htie => ?_⟩
  · rcases value_eq_magnitude_or_neg hy with hshare | hneg
    · rw [hvalue, hshare]
      exact (magnitude_nearest hden hfinite y.rank).1
    · exact (hbelow hneg).le
  · rcases value_eq_magnitude_or_neg hy with hshare | hneg
    · rw [hvalue, hshare] at hne htie
      exact (magnitude_nearest hden hfinite y.rank).2 hne htie
    · exact absurd htie (hbelow hneg).ne'

end

end Binary64

end FeatureFlags
