import FeatureFlags.Proofs.Evaluation.Operator
import FeatureFlags.Proofs.Json.Nearest

/-!
# `Proofs.Evaluation.Ordering` — orderings never invert the order of numbers

A condition that orders a property brings both numbers to their nearest doubles and compares these, while
*exact* compares the numbers themselves.  Integers beyond all doubles' precision may thus be equal to an
ordering although they differ.  But as rounding keeps the order, an ordering never says the opposite of what
is true: what it finds greater or less is so, and it misses a difference only where both numbers have one
nearest double.

Nearest doubles are known by their places, so that all of this becomes a statement about two integers
(`Condition.orders_iff`).

## Contents

1. Comparisons of places
2. What an ordering says of two numbers
3. The theorem
-/

namespace FeatureFlags

/-! ## Comparisons of places -/

namespace OrderOperator

/-- The order that an operator asks for. -/
def Relates {α : Type} [LT α] [LE α] (op : OrderOperator) (a b : α) : Prop :=
  match op with
  | .gt => b < a
  | .lt => a < b
  | .gte => b ≤ a
  | .lte => a ≤ b

variable {op : OrderOperator} {x y : Binary64} {p q : Int}

/-- Doubles are compared by their places. -/
theorem compare_iff (hx : x.place? = some p) (hy : y.place? = some q) : op.compare x y ↔ op.Relates p q := by
  cases op <;> simp only [compare, Relates, Binary64.lt, Binary64.le, Binary64.compare?, hx, hy,
    Option.some_beq_some, beq_iff_eq, Bool.or_eq_true, Int.compare_eq_lt, Int.compare_eq_eq] <;> omega

/-- Not-a-number is in no order with anything. -/
theorem compare_eq_false (h : x.place? = none ∨ y.place? = none) : op.compare x y = false := by
  have hcompare : x.compare? y = none ∧ y.compare? x = none := by
    unfold Binary64.compare?
    rcases h with h | h <;> rw [h] <;> constructor <;> split <;> simp_all
  obtain ⟨hxy, hyx⟩ := hcompare
  cases op <;> simp [compare, Binary64.lt, Binary64.le, hxy, hyx]

end OrderOperator

/-! ## What an ordering says of two numbers -/

namespace Condition

/-- Conditions with this operator and this expected number hold of such a property. -/
def Orders (op : OrderOperator) (actual expected : Number) : Prop :=
  Accepts (.order op) (.number expected) (.number actual)

variable {op : OrderOperator} {m n : Number} {x y : Binary64} {a b : Extended}

/-- An ordering compares the nearest doubles. -/
theorem compare_numbers (hm : m.toBinary64? = some x) (hn : n.toBinary64? = some y) (key : String) :
    compare (.order op) key (.number n) (.number m) = .ok (op.compare x y) := by
  have hactual : requireNumber key .property (.number m) = .ok x := by
    simp only [requireNumber, hm]
  have hexpected : requireNumber key .expected (.number n) = .ok y := by
    simp only [requireNumber, hn]
  simp only [compare, hactual, hexpected]
  rfl

theorem holds_ordering (hm : m.toBinary64? = some x) (hn : n.toBinary64? = some y) {c : Condition}
    {properties : Properties} (hc : c.value = .number n) (hp : properties.lookup c.key = some (.number m)) :
    (c.asking (.order op)).holds properties = .ok (op.compare x y) := by
  rw [holds_asking_of_given c _ hp, hc, compare_numbers hm hn]

theorem orders_iff_compare (hm : m.toBinary64? = some x) (hn : n.toBinary64? = some y) :
    Orders op m n ↔ op.compare x y :=
  accepts_iff (compare_numbers hm hn)

/-- **An ordering of two numbers is the order of the places nearest to them.** -/
theorem orders_iff (ha : m.exactValue? = some a) (hb : n.exactValue? = some b)
    (hm : m.toBinary64?.isSome) (hn : n.toBinary64?.isSome) :
    Orders op m n ↔ op.Relates a.nearestPlace b.nearestPlace := by
  obtain ⟨x, hx⟩ := Option.isSome_iff_exists.mp hm
  obtain ⟨y, hy⟩ := Option.isSome_iff_exists.mp hn
  rw [orders_iff_compare hx hy]
  exact OrderOperator.compare_iff (Number.place?_of_toBinary64? ha hx) (Number.place?_of_toBinary64? hb hy)

/-- *Exact* holds of numbers of one exact value. -/
theorem exactValue?_eq_of_exact {c : Condition} {properties : Properties} (hc : c.value = .number n)
    (hp : properties.lookup c.key = some (.number m))
    (h : (c.asking (.exact true)).holds properties = .ok true) :
    ∃ a, m.exactValue? = some a ∧ n.exactValue? = some a := by
  rw [holds_asking_of_given c _ hp, hc] at h
  have hsame : n.sameValue m := by
    have hequal : ((Json.number n).matchesExpected (.number m) == true) = true := Except.ok.inj h
    rwa [beq_true] at hequal
  obtain ⟨a, hn, hm⟩ := Number.sameValue_iff.mp hsame
  exact ⟨a, hm, hn⟩

/-- The four orderings of two numbers, a property and what is expected, follow the order of their exact
values. -/
structure FollowsOrder (m n : Number) (a b : Extended) : Prop where
  gt_iff_not_lte : Orders .gt m n ↔ ¬ Orders .lte m n
  lt_iff_not_gte : Orders .lt m n ↔ ¬ Orders .gte m n
  gt_iff_lt_swapped : Orders .gt m n ↔ Orders .lt n m
  gte_iff_lte_swapped : Orders .gte m n ↔ Orders .lte n m
  /-- A difference that is found is there. -/
  greater_of_gt : Orders .gt m n → b < a
  less_of_lt : Orders .lt m n → a < b
  /-- What is true is not denied. -/
  gte_of_le : b ≤ a → Orders .gte m n
  lte_of_le : a ≤ b → Orders .lte m n
  /-- Numbers that are equal to *exact* are equal to the orderings. -/
  of_exact : ∀ (c : Condition) (properties : Properties), c.value = .number n →
    properties.lookup c.key = some (.number m) →
      (c.asking (.exact true)).holds properties = .ok true → Orders .gte m n ∧ Orders .lte m n
  /-- A property that grows stays above what is expected. -/
  grows : ∀ (m' : Number) (a' : Extended), m'.exactValue? = some a' → m'.toBinary64?.isSome → a ≤ a' →
    (Orders .gt m n → Orders .gt m' n) ∧ (Orders .gte m n → Orders .gte m' n)

theorem followsOrder (ha : m.exactValue? = some a) (hb : n.exactValue? = some b)
    (hm : m.toBinary64?.isSome) (hn : n.toBinary64?.isSome) : FollowsOrder m n a b := by
  have horders (op : OrderOperator) := @orders_iff op m n a b ha hb hm hn
  have hswapped (op : OrderOperator) := @orders_iff op n m b a hb ha hn hm
  have hkeeps := Extended.nearestPlace_mono
  constructor
  case gt_iff_not_lte =>
    rw [horders, horders]
    exact not_le.symm
  case lt_iff_not_gte =>
    rw [horders, horders]
    exact not_le.symm
  case gt_iff_lt_swapped =>
    rw [horders, hswapped]
    exact Iff.rfl
  case gte_iff_lte_swapped =>
    rw [horders, hswapped]
    exact Iff.rfl
  case greater_of_gt =>
    rw [horders]
    exact hkeeps.reflect_lt
  case less_of_lt =>
    rw [horders]
    exact hkeeps.reflect_lt
  case gte_of_le =>
    rw [horders]
    exact fun h => hkeeps h
  case lte_of_le =>
    rw [horders]
    exact fun h => hkeeps h
  case of_exact =>
    intro c properties hc hp hexact
    obtain ⟨v, hv, hv'⟩ := exactValue?_eq_of_exact hc hp hexact
    obtain rfl := Option.some.inj (ha.symm.trans hv)
    obtain rfl := Option.some.inj (hb.symm.trans hv')
    rw [horders, horders]
    exact ⟨le_rfl, le_rfl⟩
  case grows =>
    intro m' a' ha' hm' hle
    have hgrown (op : OrderOperator) := @orders_iff op m' n a' b ha' hb hm' hn
    rw [horders, horders, hgrown, hgrown]
    exact ⟨fun h => lt_of_lt_of_le h (hkeeps hle), fun h => le_trans h (hkeeps hle)⟩

/-! ## The theorem -/

/-- **Orderings never invert the order of numbers.**  Let a property and an expected number be integers that
a double can be found for, or doubles.  All four orderings give an answer.  If neither number is
not-a-number, both have an exact value, and the answers follow the order of these; if one of them is, no
ordering holds. -/
theorem orderings_never_invert {m n : Number} (hm : m.toBinary64?.isSome) (hn : n.toBinary64?.isSome) :
    (∀ (op : OrderOperator) (c : Condition) (properties : Properties), c.value = .number n →
      properties.lookup c.key = some (.number m) →
        ∃ answer, (c.asking (.order op)).holds properties = .ok answer ∧ (answer ↔ Orders op m n)) ∧
    (m ≠ .float .nan → n ≠ .float .nan →
      ∃ a b, m.exactValue? = some a ∧ n.exactValue? = some b ∧ FollowsOrder m n a b) ∧
    (m = .float .nan ∨ n = .float .nan →
      ∀ (op : OrderOperator) (c : Condition) (properties : Properties), c.value = .number n →
        properties.lookup c.key = some (.number m) →
          (c.asking (.order op)).holds properties = .ok false) := by
  obtain ⟨x, hx⟩ := Option.isSome_iff_exists.mp hm
  obtain ⟨y, hy⟩ := Option.isSome_iff_exists.mp hn
  refine ⟨?_, ?_, ?_⟩
  · intro op c properties hc hp
    exact ⟨op.compare x y, holds_ordering hx hy hc hp, (orders_iff_compare hx hy).symm⟩
  · intro hmnan hnnan
    obtain ⟨a, ha⟩ := Number.exists_exactValue? hmnan
    obtain ⟨b, hb⟩ := Number.exists_exactValue? hnnan
    exact ⟨a, b, ha, hb, followsOrder ha hb hm hn⟩
  · intro hnan op c properties hc hp
    have hnone : x.place? = none ∨ y.place? = none := by
      rcases hnan with rfl | rfl
      · obtain rfl := Option.some.inj hx
        exact .inl rfl
      · obtain rfl := Option.some.inj hy
        exact .inr rfl
    rw [holds_ordering hx hy hc hp, OrderOperator.compare_eq_false hnone]

/-- The integer after 2 ^ 53 is no double: an ordering takes it for 2 ^ 53, so that it is not found to be
greater, but both *at least* and *at most*. -/
theorem next_integer_is_not_found_greater :
    let next : Number := .int (2 ^ 53 + 1)
    let expected : Number := .float (.ofInt (2 ^ 53))
    next.toBinary64?.isSome ∧ expected.toBinary64?.isSome ∧ next ≠ .float .nan ∧ expected ≠ .float .nan ∧
      next.compare? expected = some .gt ∧ Orders .gte next expected ∧ ¬ Orders .gt next expected := by
  intro next expected
  -- the next integer is rounded to 2 ^ 53
  have hrounded : next.toBinary64? = some (.ofInt (2 ^ 53)) := by decide +kernel
  have hnext : next.toBinary64?.isSome := Option.isSome_iff_exists.mpr ⟨_, hrounded⟩
  have hexpected : expected.toBinary64?.isSome := rfl
  have hnextNumber : next ≠ .float .nan := nofun
  have hexpectedNumber : expected ≠ .float .nan := by decide +kernel
  have hgreater : next.compare? expected = some .gt := by decide +kernel
  obtain ⟨-, hfollows, -⟩ := orderings_never_invert hnext hexpected
  obtain ⟨a, b, ha, hb, horder⟩ := hfollows hnextNumber hexpectedNumber
  have hless : b < a := by
    obtain ⟨a', b', ha', hb', hlt⟩ := Number.compare?_eq_some_iff.mp hgreater
    obtain rfl := Option.some.inj (ha.symm.trans ha')
    obtain rfl := Option.some.inj (hb.symm.trans hb')
    exact hlt
  have hlte : Orders .lte next expected := (orders_iff_compare hrounded rfl).mpr (by decide +kernel)
  exact ⟨hnext, hexpected, hnextNumber, hexpectedNumber, hgreater, horder.gte_of_le hless.le,
    fun hgt => horder.gt_iff_not_lte.mp hgt hlte⟩

end Condition

end FeatureFlags
