import FeatureFlags.Proofs.Binary64.Rounding

/-!
# `Proofs.Binary64.Order` — the order of doubles, and hundredths

Doubles are ordered by their places; not-a-number has none.  A hundredth is rounded, and rounding keeps
the order, so that the hundredth of a larger percentage is never the smaller share
(`hundredth_le_hundredth`).
-/

namespace FeatureFlags

namespace Binary64

/-! ## The order -/

section

variable {x y z : Binary64}

/-- One number is at most another if its place is. -/
theorem le_iff : x.le y ↔ ∃ a b, x.place? = some a ∧ y.place? = some b ∧ a ≤ b := by
  unfold le compare?
  cases x.place? with
  | none => simp
  | some a =>
      cases y.place? with
      | none => simp
      | some b =>
          simp only [Option.some.injEq, beq_iff_eq, Bool.or_eq_true, Int.compare_eq_lt,
            Int.compare_eq_eq]
          constructor
          · intro h
            exact ⟨a, b, rfl, rfl, by omega⟩
          · rintro ⟨_, _, rfl, rfl, h⟩
            omega

theorem le_trans (hxy : x.le y) (hyz : y.le z) : x.le z := by
  obtain ⟨a, b, hx, hy, hab⟩ := le_iff.mp hxy
  obtain ⟨b', c, hy', hz, hbc⟩ := le_iff.mp hyz
  obtain rfl := Option.some.inj (hy.symm.trans hy')
  exact le_iff.mpr ⟨a, c, hx, hz, Int.le_trans hab hbc⟩

theorem le_of_lt (h : x.lt y) : x.le y := by
  unfold le lt at *
  rw [h, Bool.true_or]

/-- What lies above a number does not lie below it. -/
theorem not_lt_of_le (h : x.le y) : ¬ y.lt x := by
  obtain ⟨a, b, hx, hy, hab⟩ := le_iff.mp h
  unfold lt compare?
  rw [hx, hy]
  simp only [Option.some_beq_some, beq_iff_eq, Int.compare_eq_lt]
  exact Int.not_lt.mpr hab

end

/-! ## Hundredths -/

/-- The rank of a hundredth. -/
def hundredthRank (rank : Nat) : Nat :=
  if rank = infRank then infRank else roundRank (units rank) 100

theorem hundredth_place? {negative : Bool} {rank : Nat} (h : rank ≤ infRank) :
    (num negative rank h).hundredth.place? =
      some (if negative then -(hundredthRank rank : Int) else hundredthRank rank) := by
  simp only [hundredth, hundredthRank]
  by_cases hi : rank = infRank
  · rw [if_pos hi, if_pos hi, place?, hi]
  · rw [if_neg hi, if_neg hi, place?]

theorem hundredthRank_zero : hundredthRank 0 = 0 := by
  have h : roundRank (units 0 * 100) 100 = 0 := roundRank_units (by decide) (Nat.zero_le _)
  rwa [units_zero, Nat.zero_mul, ← units_zero] at h

theorem hundredthRank_mono {a b : Nat} (h : a ≤ b) (hb : b ≤ infRank) :
    hundredthRank a ≤ hundredthRank b := by
  unfold hundredthRank
  by_cases hbi : b = infRank
  · rw [if_pos hbi]
    split
    · exact Nat.le_refl _
    · exact roundRank_le_infRank _ _
  · rw [if_neg hbi, if_neg (by omega)]
    exact roundRank_mono (by decide) (by decide) (Nat.mul_le_mul_right _ (units_le_iff.mpr h))

/-- **A hundredth keeps the order.** -/
theorem hundredth_le_hundredth {x y : Binary64} (h : x.le y) : x.hundredth.le y.hundredth := by
  obtain ⟨a, b, hx, hy, hab⟩ := le_iff.mp h
  cases x with
  | nan => cases hx
  | num negative rank hr =>
      cases y with
      | nan => cases hy
      | num negative' rank' hr' =>
          obtain rfl := Option.some.inj hx
          obtain rfl := Option.some.inj hy
          refine le_iff.mpr ⟨_, _, hundredth_place? hr, hundredth_place? hr', ?_⟩
          cases negative <;> cases negative' <;>
            simp only [Bool.false_eq_true, if_false, if_true, Int.neg_le_neg_iff, Int.ofNat_le] at hab ⊢
          · exact hundredthRank_mono hab hr'
          · -- a positive number is at most a negative one only if both are zero
            obtain ⟨rfl, rfl⟩ : rank = 0 ∧ rank' = 0 := by omega
            simp [hundredthRank_zero]
          · omega
          · exact hundredthRank_mono hab hr

end Binary64

end FeatureFlags
