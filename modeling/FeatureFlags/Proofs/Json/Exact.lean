import FeatureFlags.Json.Value
import FeatureFlags.Proofs.Binary64.Magnitude
import Mathlib.Data.Int.ConditionallyCompleteOrder
import Mathlib.Order.Compare
import Mathlib.Order.WithBotTop

/-!
# `Proofs.Json.Exact` — numbers are compared by exact value

A number is an integer of any size or a double, and either way it is compared without rounding.  Its exact
value is a rational or one of the two infinities; not-a-number has none.  `Number.compare?_eq_some_iff` says
that the comparison of numbers is the order of exact values, whichever way the numbers are written.

The exact value of a double grows with its place among all doubles (`placeValue_strictMonoOn`), so that to
compare places is to compare values.  An integer has no place of its own; it is compared in the unit in which
doubles are counted.
-/

namespace FeatureFlags

/-- The rational numbers and both infinities. -/
abbrev Extended := WithBotTop ℚ

theorem Extended.strictMono_coe : StrictMono fun q : ℚ => (q : Extended) := WithBotTop.coe_strictMono

/-- The value of an integer. -/
def Extended.ofInt (n : Int) : Extended := ((n : ℚ) : Extended)

theorem Extended.ofInt_strictMono : StrictMono Extended.ofInt :=
  strictMono_coe.comp Int.cast_strictMono

/-! ## Exact values of doubles -/

namespace Binary64

/-- What a place counts, downwards for negative numbers. -/
def unitsAt (place : Int) : Int := signedUnits (place < 0) place.natAbs

theorem unitsAt_strictMono : StrictMono unitsAt := by
  intro a b hab
  have hmono {m n : Nat} (h : m < n) : units m < units n := units_strictMono h
  have hpos {n : Nat} (h : 0 < n) : 0 < units n := units_zero ▸ units_strictMono h
  unfold unitsAt signedUnits
  by_cases ha : a < 0 <;> by_cases hb : b < 0 <;> simp only [ha, hb, decide_true, decide_false, if_true,
    Bool.false_eq_true, if_false]
  · have := hmono (m := b.natAbs) (n := a.natAbs) (by omega)
    omega
  · have := hpos (n := a.natAbs) (by omega)
    omega
  · omega
  · have := hmono (m := a.natAbs) (n := b.natAbs) (by omega)
    omega

/-- A count of smallest positive magnitudes as a rational. -/
def ofUnits (n : Int) : ℚ := n / unitsPerOne

theorem ofUnits_strictMono : StrictMono ofUnits := fun _ _ h =>
  (div_lt_div_iff_of_pos_right unitsPerOne_pos).mpr (Int.cast_lt.mpr h)

theorem ofUnits_mul (n : Int) : ofUnits (n * unitsPerOne) = n := by
  rw [ofUnits, Int.cast_mul, Int.cast_natCast, mul_div_cancel_right₀ _ unitsPerOne_pos.ne']

/-- The exact value of a place: infinite at both ends. -/
def placeValue (place : Int) : Extended :=
  if place = infRank then ⊤
  else if place = -infRank then ⊥
  else (ofUnits (unitsAt place) : ℚ)

theorem placeValue_strictMonoOn : StrictMonoOn placeValue (Set.Icc (-infRank) infRank) := by
  rintro a ⟨halo, hahi⟩ b ⟨hblo, hbhi⟩ hab
  have hfinite : ((ofUnits (unitsAt a) : ℚ) : Extended) < (ofUnits (unitsAt b) : ℚ) :=
    Extended.strictMono_coe (ofUnits_strictMono (unitsAt_strictMono hab))
  have haTop : a ≠ infRank := by omega
  have hbBot : b ≠ -infRank := by omega
  simp only [placeValue, if_neg haTop, if_neg hbBot]
  by_cases ha : a = -infRank <;> by_cases hb : b = infRank <;> simp only [ha, hb, if_true, if_false]
  · exact WithBot.bot_lt_coe _
  · exact WithBot.bot_lt_coe _
  · exact WithBot.coe_lt_coe.mpr (WithTop.coe_lt_top _)
  · exact hfinite

/-- The exact value of a double.  Not-a-number has none. -/
def exactValue? (x : Binary64) : Option Extended := x.place?.map placeValue

@[simp] theorem exactValue?_nan : nan.exactValue? = none := rfl

theorem place?_mem {x : Binary64} {place : Int} (h : x.place? = some place) :
    place ∈ Set.Icc (-infRank : Int) infRank := by
  cases x with
  | nan => cases h
  | num negative rank hr =>
      obtain rfl := Option.some.inj h
      cases negative <;> simp <;> omega

variable {x y : Binary64} {o : Ordering}

/-- **Doubles are compared by exact value.** -/
theorem compare?_eq_some_iff :
    x.compare? y = some o ↔ ∃ a b, x.exactValue? = some a ∧ y.exactValue? = some b ∧ o.Compares a b := by
  unfold compare? exactValue?
  cases hx : x.place? with
  | none => simp
  | some p =>
      cases hy : y.place? with
      | none => simp
      | some q =>
          simp only [Option.map_some, Option.some.injEq, exists_and_left, exists_eq_left',
            placeValue_strictMonoOn.compares (place?_mem hx) (place?_mem hy)]
          exact compare_iff p q

/-- The exact value of a finite double. -/
theorem exactValue?_of_isFinite (h : x.isFinite) : x.exactValue? = some (x.value : Extended) := by
  cases x with
  | nan => cases h
  | num negative rank hr =>
      have hrank : rank < infRank := of_decide_eq_true h
      have hunits : unitsAt (if negative then -(rank : Int) else rank) = signedUnits negative rank := by
        cases negative with
        | false => simp [unitsAt, Int.not_lt.mpr (Int.natCast_nonneg rank)]
        | true =>
            rcases Nat.eq_zero_or_pos rank with rfl | hpos
            · rfl
            · have hneg : -(rank : Int) < 0 := by omega
              simp only [unitsAt, if_true, Int.natAbs_neg, Int.natAbs_natCast, hneg, decide_true]
      have hplace : ∀ p : Int, p = (if negative then -(rank : Int) else rank) →
          p ≠ infRank ∧ p ≠ -infRank := by
        rintro p rfl
        cases negative <;> simp <;> omega
      obtain ⟨htop, hbot⟩ := hplace _ rfl
      simp only [exactValue?, place?, Option.map_some, placeValue, if_neg htop, if_neg hbot, hunits, value,
        if_neg hrank.ne, ofUnits]

theorem exactValue?_infinity (negative : Bool) :
    (infinity negative).exactValue? = some (if negative then ⊥ else ⊤) := by
  cases negative with
  | false => simp [exactValue?, infinity, place?, placeValue]
  | true =>
      have hne : -(infRank : Int) ≠ infRank := by decide
      simp [exactValue?, infinity, place?, placeValue, hne]

/-- **A double is compared with an integer by exact value.** -/
theorem compareInt?_eq_some_iff {n : Int} :
    x.compareInt? n = some o ↔ ∃ a, x.exactValue? = some a ∧ o.Compares a (.ofInt n) := by
  cases x with
  | nan => simp [compareInt?]
  | num negative rank hr =>
      by_cases hinf : rank = infRank
      · -- an infinity lies beyond all integers
        subst hinf
        have hexact := exactValue?_infinity negative
        rw [infinity] at hexact
        simp only [compareInt?, if_true, hexact, Option.some.injEq, exists_eq_left']
        have hcompares : (if negative then Ordering.lt else .gt).Compares
            (if negative then ⊥ else ⊤ : Extended) (Extended.ofInt n) := by
          cases negative with
          | false => exact WithBot.coe_lt_coe.mpr (WithTop.coe_lt_top _)
          | true => exact WithBot.bot_lt_coe _
        exact ⟨fun ho => ho ▸ hcompares, hcompares.inj⟩
      · have hfinite : (num negative rank hr).isFinite := decide_eq_true (Nat.lt_of_le_of_ne hr hinf)
        rw [exactValue?_of_isFinite hfinite]
        simp only [compareInt?, if_neg hinf, value, Option.some.injEq, exists_eq_left']
        show compare (signedUnits negative rank) (n * unitsPerOne) = o ↔
          o.Compares ((ofUnits (signedUnits negative rank) : ℚ) : Extended) (Extended.ofInt n)
        rw [Extended.ofInt, ← ofUnits_mul n, Extended.strictMono_coe.compares, ofUnits_strictMono.compares]
        exact compare_iff _ _

end Binary64

/-! ## Exact values of numbers -/

namespace Number

/-- The exact value of a number.  Not-a-number has none. -/
def exactValue? : Number → Option Extended
  | .int n => some (.ofInt n)
  | .float x => x.exactValue?

variable {m n : Number} {o : Ordering}

/-- **Numbers are compared by exact value**, whichever way they are written. -/
theorem compare?_eq_some_iff :
    m.compare? n = some o ↔ ∃ a b, m.exactValue? = some a ∧ n.exactValue? = some b ∧ o.Compares a b := by
  cases m with
  | int a =>
      cases n with
      | int b =>
          simp only [compare?, exactValue?, Option.some.injEq, exists_and_left, exists_eq_left',
            Extended.ofInt_strictMono.compares]
          exact compare_iff a b
      | float y =>
          simp only [compare?, exactValue?, Option.some.injEq, exists_and_left, exists_eq_left',
            Option.map_eq_some_iff]
          constructor
          · rintro ⟨o, ho, rfl⟩
            obtain ⟨b, hb, hcompares⟩ := Binary64.compareInt?_eq_some_iff.mp ho
            exact ⟨b, hb, Ordering.compares_swap.mpr hcompares⟩
          · rintro ⟨b, hb, hcompares⟩
            have hswap : o.swap.Compares b (.ofInt a) := Ordering.compares_swap.mpr hcompares
            exact ⟨o.swap, Binary64.compareInt?_eq_some_iff.mpr ⟨b, hb, hswap⟩, o.swap_swap⟩
  | float x =>
      cases n with
      | int b =>
          simp only [compare?, exactValue?, Option.some.injEq, exists_and_left, exists_eq_left',
            Binary64.compareInt?_eq_some_iff]
      | float y => exact Binary64.compare?_eq_some_iff

/-- Two numbers that have an exact value, and the same one. -/
def SameValue (m n : Number) : Prop := ∃ a, m.exactValue? = some a ∧ n.exactValue? = some a

/-- **Numbers are equal if, and only if, they have the same exact value.** -/
theorem sameValue_iff : m.sameValue n ↔ m.SameValue n := by
  unfold sameValue SameValue
  rw [beq_iff_eq, compare?_eq_some_iff]
  constructor
  · rintro ⟨a, b, ha, hb, rfl⟩
    exact ⟨a, ha, hb⟩
  · rintro ⟨a, ha, hb⟩
    exact ⟨a, a, ha, hb, rfl⟩

end Number

end FeatureFlags
