import FeatureFlags.Proofs.Binary64.Nearest
import FeatureFlags.Proofs.Evaluation.Allocation

/-!
# `Proofs.Evaluation.Interval` — where the places of subjects lie, and in which order

The place of a subject is the quotient of the number that its digest begins with and the largest number of
so many digits, rounded once.  Rounding keeps the order, so that places are ordered as the digests.

Places are meant to lie below one.  But the numbers have sixty bits, of which a double keeps fifty-three: a
quotient that is less than half a spacing away from one is rounded to one.  These are the quotients of the
64 largest numbers with fifteen digits (`roundRank_lt_oneRank_iff`).
-/

namespace FeatureFlags

namespace Bucket

open Binary64 (unitsPerOne roundRank Above units oneRank spacing IsNearest)

/-! ## Quotients near one -/

/-- The middle between one and the double below it lies under the quotients of the 64 largest numbers. -/
theorem above_last_iff (n : Nat) :
    Above (oneRank - 1) (n * unitsPerOne) scale ↔ 16 ^ digits - 64 ≤ n := by
  have hmiddle : units (oneRank - 1) + units (oneRank - 1 + 1) = (2 ^ 54 - 1) * spacing := by
    decide +kernel
  have hunit : unitsPerOne = 2 ^ 53 * spacing := by decide +kernel
  have hpos : 0 < spacing := by decide +kernel
  unfold Above
  rw [hmiddle, hunit]
  generalize spacing = s at hpos
  have hleft : scale * ((2 ^ 54 - 1) * s) = scale * (2 ^ 54 - 1) * s := (Nat.mul_assoc _ _ _).symm
  have hright : 2 * (n * (2 ^ 53 * s)) = n * 2 ^ 54 * s := by ring
  rw [hleft, hright, Nat.mul_lt_mul_right hpos, Nat.mul_left_inj hpos.ne']
  simp only [scale, digits]
  omega

/-- **A quotient is rounded to a place below one, unless its number is one of the 64 largest.** -/
theorem roundRank_lt_oneRank_iff (n : Nat) :
    roundRank (n * unitsPerOne) scale < oneRank ↔ n < 16 ^ digits - 64 := by
  have hscale : 0 < scale := by decide
  have hlast : oneRank - 1 < Binary64.infRank := by decide
  have hone : oneRank = oneRank - 1 + 1 := by decide
  rw [← Nat.not_le, ← Nat.not_le, ← above_last_iff, not_iff_not]
  constructor
  · intro h
    exact ((Binary64.lt_roundRank_iff hscale).mp (by omega)).2
  · intro h
    have := (Binary64.lt_roundRank_iff hscale).mpr ⟨hlast, h⟩
    omega

/-! ## Places -/

variable {digest other : Digest} {key key' subject subject' salt salt' : String}

/-- **Places lie between zero and one, in the order of the digests, and one itself is reached.**  Let a digest
consist of forty hexadecimal digits.  Then its subject has a place, which is the double nearest to the exact
quotient of the number that the digest begins with.  It is zero or more, and it lies below one unless that
number is one of the 64 largest with fifteen digits, where it is one.  A digest that begins with the same
number or a larger one never has the smaller place. -/
theorem place_lies_below_one_unless_among_last (h : IsHex (digest (source key subject salt))) :
    ∃ p, place digest key subject salt = .ok p ∧
      IsNearest (lead (digest (source key subject salt)) / scale) p ∧
      Binary64.zero.le p ∧
      (p.lt .one ↔ lead (digest (source key subject salt)) < 16 ^ digits - 64) ∧
      (¬ p.lt .one → p = .one) ∧
      ∀ (other : Digest) (key' subject' salt' : String), IsHex (other (source key' subject' salt')) →
        lead (digest (source key subject salt)) ≤ lead (other (source key' subject' salt')) →
          ∃ p', place other key' subject' salt' = .ok p' ∧ p.le p' := by
  have hscale : 0 < scale := by decide
  have hshare (n : Nat) : (Binary64.ofRatio false n scale).IsNonneg := Binary64.isNonneg_num.mpr nofun
  have hle := roundRank_lead_le h
  have hbelow := Binary64.lt_iff_rank (hshare (lead (digest (source key subject salt)))) Binary64.isNonneg_one
  refine ⟨_, place_of_isHex h, ?_, ?_, ?_, ?_, ?_⟩
  · exact Binary64.isNearest_ofRatio hscale (hle.trans_lt Binary64.oneRank_lt)
  · exact (Binary64.le_iff_rank Binary64.isNonneg_zero (hshare _)).mpr (Nat.zero_le _)
  · rw [hbelow]
    exact roundRank_lt_oneRank_iff _
  · intro hnot
    have hone : roundRank (lead (digest (source key subject salt)) * unitsPerOne) scale = oneRank :=
      Nat.le_antisymm hle (Nat.le_of_not_lt fun hlt => hnot (hbelow.mpr hlt))
    simp only [Binary64.ofRatio, Binary64.one, hone]
  · intro other key' subject' salt' hother hlead
    refine ⟨_, place_of_isHex hother, (Binary64.le_iff_rank (hshare _) (hshare _)).mpr ?_⟩
    refine Binary64.roundRank_mono hscale hscale ?_
    exact Nat.mul_le_mul_right _ (Nat.mul_le_mul_right _ hlead)

/-- The largest place below one, next to that of the largest digest. -/
theorem last_place_lies_below_one :
    let digest : Digest := fun _ => "fffffffffffffbf0000000000000000000000000"
    IsHex (digest (source "beta" "user" "")) ∧ IsHex (Flag.largestDigest (source "beta" "user" "")) ∧
      ∃ p, place digest "beta" "user" "" = .ok p ∧ p.lt .one ∧ p.le .one := by
  intro digest
  have hhex : IsHex (digest (source "beta" "user" "")) := by
    show IsHex "fffffffffffffbf0000000000000000000000000"
    decide +kernel
  have hlargest := Flag.isHex_largestDigest (source "beta" "user" "")
  have hlast : lead (digest (source "beta" "user" "")) < 16 ^ digits - 64 := by
    show lead "fffffffffffffbf0000000000000000000000000" < 16 ^ digits - 64
    decide +kernel
  have hlead : lead (digest (source "beta" "user" "")) ≤
      lead (Flag.largestDigest (source "beta" "user" "")) := by
    show lead "fffffffffffffbf0000000000000000000000000" ≤ lead "ffffffffffffffffffffffffffffffffffffffff"
    decide +kernel
  obtain ⟨p, hp, -, -, hbelow, -, hordered⟩ := place_lies_below_one_unless_among_last hhex
  obtain ⟨one, hone, hle⟩ := hordered Flag.largestDigest "beta" "user" "" hlargest hlead
  obtain rfl := Except.ok.inj ((Flag.place_largestDigest "beta" "user" "").symm.trans hone)
  exact ⟨hhex, hlargest, p, hp, hbelow.mpr hlast, hle⟩

/-- **One is the place of a subject**, even though the exact quotient lies below one. -/
theorem quotient_below_one_has_place_one :
    let digest : Digest := fun _ => "fffffffffffffc00000000000000000000000000"
    (∀ text, IsHex (digest text)) ∧ lead (digest (source "beta" "user" "")) < scale ∧
      place digest "beta" "user" "" = .ok .one ∧ ¬ Binary64.one.lt .one := by
  intro digest
  have hhex (text : String) : IsHex (digest text) := by
    show IsHex "fffffffffffffc00000000000000000000000000"
    decide +kernel
  have hlead : lead (digest (source "beta" "user" "")) < scale := by
    show lead "fffffffffffffc00000000000000000000000000" < scale
    decide +kernel
  have hone : Binary64.ofRatio false (lead (digest (source "beta" "user" ""))) scale = .one := by
    show Binary64.ofRatio false (lead "fffffffffffffc00000000000000000000000000") scale = .one
    decide +kernel
  exact ⟨hhex, hlead, (place_of_isHex (hhex _)).trans (congrArg Except.ok hone), by decide +kernel⟩

end Bucket

end FeatureFlags
