import FeatureFlags.Binary64.Arithmetic
import Mathlib.Order.Monotone.Basic
import Mathlib.Tactic.Linarith
import Mathlib.Tactic.Ring

/-!
# `Proofs.Binary64.Rounding` — what rounding does to the order

A quotient is rounded to the nearest rank.  Seen from a rank, this is one comparison: the result lies
above the rank if the quotient lies above the middle between the values of the rank and the next one, or
is that middle and the rank is odd (`lt_roundRank_iff`).  Everything about the order follows:
`roundRank_mono` says that rounding keeps it, and `roundRank_units` that values of ranks stay what they
are.

## Contents

1. Values of ranks
2. The rank below a value
3. The nearest rank
4. Rounding keeps the order
-/

namespace FeatureFlags

namespace Binary64

/-! ## Values of ranks -/

theorem binadeSize_pos : 0 < binadeSize := by decide

theorem binadeSize_eq : binadeSize = 2 ^ 52 := by decide

/-- The value of a rank, by its place in its binade: the first two binades have spacing one. -/
theorem units_add {d m : Nat} (hm : m < 2 * binadeSize) (hd : d = 0 ∨ binadeSize ≤ m) :
    units (d * binadeSize + m) = m * 2 ^ d := by
  have hdoublings : (d * binadeSize + m) / binadeSize - 1 = d := by
    rw [Nat.mul_comm, Nat.mul_add_div binadeSize_pos]
    rcases hd with rfl | hd
    · have : m / binadeSize < 2 := Nat.div_lt_of_lt_mul (by omega)
      omega
    · have : m / binadeSize = 1 := Nat.div_eq_of_lt_le (by omega) (by omega)
      omega
  simp only [units, hdoublings]
  rw [Nat.add_sub_cancel_left, Nat.shiftLeft_eq]

/-- Every rank has a place in its binade. -/
theorem exists_place (rank : Nat) : ∃ d m, rank = d * binadeSize + m ∧ m < 2 * binadeSize ∧
    (d = 0 ∨ binadeSize ≤ m) := by
  have hmod := Nat.mod_lt rank binadeSize_pos
  have hdiv := Nat.div_add_mod rank binadeSize
  by_cases hq : rank / binadeSize = 0
  · refine ⟨0, rank, by omega, ?_, .inl rfl⟩
    rw [hq] at hdiv
    omega
  · refine ⟨rank / binadeSize - 1, binadeSize + rank % binadeSize, ?_, by omega, .inr (by omega)⟩
    obtain ⟨q, hq⟩ := Nat.exists_eq_succ_of_ne_zero hq
    rw [hq, Nat.mul_comm, Nat.succ_mul] at hdiv
    rw [hq, Nat.succ_sub_one]
    omega

/-- From a rank to the next one the value grows by the spacing of the rank's binade. -/
theorem units_succ {d m : Nat} (hm : m < 2 * binadeSize) (hd : d = 0 ∨ binadeSize ≤ m) :
    units (d * binadeSize + m + 1) = (m + 1) * 2 ^ d := by
  by_cases hlast : m + 1 = 2 * binadeSize
  · -- the next rank is the first one of the next binade
    have hnext : d * binadeSize + m + 1 = (d + 1) * binadeSize + binadeSize := by
      rw [Nat.add_mul]
      omega
    rw [hnext, units_add (by have := binadeSize_pos; omega) (.inr (Nat.le_refl _)), hlast, Nat.pow_succ,
      Nat.mul_comm 2, Nat.mul_assoc, Nat.mul_comm 2]
  · rw [Nat.add_assoc]
    exact units_add (by omega) (hd.imp_right fun h => by omega)

/-- **The value of a rank grows with the rank.** -/
theorem units_strictMono : StrictMono units := by
  refine strictMono_nat_of_lt_succ fun rank => ?_
  obtain ⟨d, m, rfl, hm, hd⟩ := exists_place rank
  rw [units_succ hm hd, units_add hm hd]
  exact Nat.mul_lt_mul_of_pos_right (Nat.lt_succ_self m) (Nat.two_pow_pos d)

theorem units_le_iff {a b : Nat} : units a ≤ units b ↔ a ≤ b := units_strictMono.le_iff_le

theorem units_lt_iff {a b : Nat} : units a < units b ↔ a < b := units_strictMono.lt_iff_lt

@[simp] theorem units_zero : units 0 = 0 := by decide

/-! ## The rank below a value -/

/-- A value lies between those of its rank and of the next one. -/
theorem floorRank_spec (n : Nat) : units (floorRank n) ≤ n ∧ n < units (floorRank n + 1) := by
  have hplace : floorRank n = (Nat.log2 n - 52) * binadeSize + n / 2 ^ (Nat.log2 n - 52) := by
    simp only [floorRank, Nat.shiftRight_eq_div_pow]
  generalize hd : Nat.log2 n - 52 = d at hplace
  have hm : n / 2 ^ d < 2 * binadeSize := by
    rw [binadeSize_eq]
    refine Nat.div_lt_of_lt_mul ?_
    have hlog : n < 2 ^ (Nat.log2 n + 1) := Nat.lt_log2_self
    refine hlog.trans_le ?_
    rw [← Nat.pow_succ', ← Nat.pow_add]
    exact Nat.pow_le_pow_right (by omega) (by omega)
  have hfull : d = 0 ∨ binadeSize ≤ n / 2 ^ d := by
    rcases Nat.eq_zero_or_pos d with h | h
    · exact .inl h
    · refine .inr ((Nat.le_div_iff_mul_le (Nat.two_pow_pos d)).mpr ?_)
      have hn : n ≠ 0 := by
        rintro rfl
        simp at hd
        omega
      have hlog : 2 ^ Nat.log2 n ≤ n := Nat.log2_self_le hn
      rw [binadeSize_eq, ← Nat.pow_add]
      exact (Nat.pow_le_pow_right (by omega) (by omega)).trans hlog
  rw [hplace, units_succ hm hfull, units_add hm hfull]
  exact ⟨Nat.div_mul_le_self n (2 ^ d), Nat.lt_mul_of_div_lt (Nat.lt_succ_self _) (Nat.two_pow_pos d)⟩

/-! ## The nearest rank -/

/-- A quotient lies nearer to the next rank than to a given one: it is above the middle between their
values, or is the middle and the given rank is odd. -/
def Above (rank num den : Nat) : Prop :=
  den * (units rank + units (rank + 1)) < 2 * num ∨
    (den * (units rank + units (rank + 1)) = 2 * num ∧ rank % 2 = 1)

variable {num den rank : Nat}

/-- The nearest rank is the one below the quotient or the next one, by the side of the middle on which
the quotient lies. -/
theorem roundRank_cases (num den : Nat) : ∃ nearest, roundRank num den = min nearest infRank ∧
    (nearest = floorRank (num / den) ∨ nearest = floorRank (num / den) + 1) ∧
      (floorRank (num / den) < nearest ↔ Above (floorRank (num / den)) num den) := by
  simp only [roundRank, Above]
  generalize floorRank (num / den) = lo
  refine ⟨_, rfl, ?_⟩
  cases hc : compare (2 * num) (den * (units lo + units (lo + 1))) with
  | lt =>
      rw [Nat.compare_eq_lt] at hc
      exact ⟨.inl rfl, iff_of_false (lt_irrefl lo) (by omega)⟩
  | gt =>
      rw [Nat.compare_eq_gt] at hc
      exact ⟨.inr rfl, iff_of_true (Nat.lt_succ_self lo) (.inl hc)⟩
  | eq =>
      rw [Nat.compare_eq_eq] at hc
      by_cases he : lo % 2 = 0
      · simp only [he, if_true]
        exact ⟨.inl trivial, iff_of_false (lt_irrefl lo) (by omega)⟩
      · simp only [he, if_false]
        exact ⟨.inr trivial, iff_of_true (Nat.lt_succ_self lo) (.inr ⟨hc.symm, by omega⟩)⟩

/-- **Rounding, seen from a rank.** -/
theorem lt_roundRank_iff (hden : 0 < den) :
    rank < roundRank num den ↔ rank < infRank ∧ Above rank num den := by
  have hlo : den * units (floorRank (num / den)) ≤ num :=
    Nat.mul_comm .. ▸ (Nat.le_div_iff_mul_le hden).mp (floorRank_spec (num / den)).1
  have hhi : num < den * units (floorRank (num / den) + 1) :=
    Nat.mul_comm .. ▸ (Nat.div_lt_iff_lt_mul hden).mp (floorRank_spec (num / den)).2
  obtain ⟨nearest, hround, hnear, hlt⟩ := roundRank_cases num den
  rw [hround]
  generalize floorRank (num / den) = lo at hlo hhi hnear hlt
  rw [Nat.lt_min, and_comm, and_congr_right_iff]
  intro _
  rcases Nat.lt_trichotomy rank lo with hr | rfl | hr
  · -- the middle above the rank lies below the value of `lo`
    refine iff_of_true (by omega) (.inl ?_)
    have hunits : units rank < units lo := units_lt_iff.mpr hr
    have hnext : units (rank + 1) ≤ units lo := units_le_iff.mpr hr
    calc den * (units rank + units (rank + 1)) < den * (2 * units lo) :=
          Nat.mul_lt_mul_of_pos_left (by omega) hden
      _ = 2 * (den * units lo) := by rw [Nat.mul_left_comm]
      _ ≤ 2 * num := Nat.mul_le_mul_left 2 hlo
  · exact hlt
  · -- the middle above the rank lies above the quotient
    have hmiddle : 2 * num < den * (units rank + units (rank + 1)) := by
      have hnext : units (lo + 1) ≤ units rank := units_le_iff.mpr hr
      have hunits : units rank < units (rank + 1) := units_strictMono (Nat.lt_succ_self rank)
      calc 2 * num < 2 * (den * units (lo + 1)) := by omega
        _ = den * (2 * units (lo + 1)) := by rw [Nat.mul_left_comm]
        _ ≤ den * (units rank + units (rank + 1)) := Nat.mul_le_mul_left den (by omega)
    refine iff_of_false (by omega) ?_
    rintro (h | ⟨h, _⟩) <;> omega

/-! ## Rounding keeps the order -/

theorem Above.mono {num' den' : Nat} (hden : 0 < den) (hden' : 0 < den') (h : Above rank num den)
    (hle : num * den' ≤ num' * den) : Above rank num' den' := by
  unfold Above at h ⊢
  generalize units rank + units (rank + 1) = middle at h ⊢
  rcases h with h | ⟨h, hodd⟩
  · refine .inl (Nat.lt_of_not_le fun hn => ?_)
    have hbelow : 2 * num' * den ≤ den' * middle * den := Nat.mul_le_mul_right den hn
    have habove : den * middle * den' < 2 * num * den' := Nat.mul_lt_mul_of_pos_right h hden'
    linarith
  · have hmiddle : den' * middle ≤ 2 * num' := by
      refine Nat.le_of_not_lt fun hn => ?_
      have hbelow : 2 * num' * den < den' * middle * den := Nat.mul_lt_mul_of_pos_right hn hden
      have htie : den * middle * den' = 2 * num * den' := congrArg (· * den') h
      linarith
    rcases Nat.lt_or_eq_of_le hmiddle with hlt | heq
    · exact .inl hlt
    · exact .inr ⟨heq, hodd⟩

/-- **Rounding keeps the order** of quotients. -/
theorem roundRank_mono {num' den' : Nat} (hden : 0 < den) (hden' : 0 < den')
    (hle : num * den' ≤ num' * den) : roundRank num den ≤ roundRank num' den' := by
  refine le_of_forall_lt fun rank hr => ?_
  rw [lt_roundRank_iff hden] at hr
  exact (lt_roundRank_iff hden').mpr ⟨hr.1, hr.2.mono hden hden' hle⟩

/-- The value of a rank is not rounded. -/
theorem roundRank_units (hden : 0 < den) (hr : rank ≤ infRank) :
    roundRank (units rank * den) den = rank := by
  refine eq_of_forall_lt_iff fun r => ?_
  rw [lt_roundRank_iff hden, Above]
  have hunits : units r < units (r + 1) := units_strictMono (Nat.lt_succ_self r)
  have htwice : 2 * (units rank * den) = den * (2 * units rank) := by
    rw [Nat.mul_comm (units rank), Nat.mul_left_comm]
  rw [htwice, Nat.mul_lt_mul_left hden, Nat.mul_right_inj (Nat.ne_of_gt hden)]
  rcases Nat.lt_or_ge r rank with h | h
  · have hlt : units r < units rank := units_lt_iff.mpr h
    have hle : units (r + 1) ≤ units rank := units_le_iff.mpr h
    exact iff_of_true ⟨by omega, .inl (by omega)⟩ h
  · have hle : units rank ≤ units r := units_le_iff.mpr h
    refine iff_of_false ?_ (by omega)
    rintro ⟨_, h | ⟨h, _⟩⟩ <;> omega

end Binary64

end FeatureFlags
