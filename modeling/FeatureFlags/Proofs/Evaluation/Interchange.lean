import FeatureFlags.Proofs.Evaluation.Expectation
import FeatureFlags.Proofs.Evaluation.Operator
import FeatureFlags.Proofs.Json.Equivalence

/-!
# `Proofs.Evaluation.Interchange` — what conditions with *exact* and *is not* do not see

An expectation is met by a property if one of the values that it stands for equals the property
(`matchesExpected_iff_exists`).  Of a list it therefore only matters which items it has, not in which order and
how often (`matchesExpected_arr_congr`); and because equality is symmetric and transitive, equal properties
meet the same expectations (`matchesExpected_congr`).  Whether its expectation is met is all that a condition
with *exact* or *is not* answers from (`holds_exact_of_given`).
-/

namespace FeatureFlags

namespace Json

variable {expected v w : Json}

theorem matchesExpected_iff_exists :
    expected.matchesExpected v ↔ ∃ u ∈ expected.alternatives, u.matchesValue v := by
  rw [matchesExpected_eq, List.any_eq_true]

/-- Of a list, only the items matter. -/
theorem matchesExpected_arr_congr {xs ys : List Json} (h : ∀ v, v ∈ xs ↔ v ∈ ys) :
    (arr xs).matchesExpected w = (arr ys).matchesExpected w := by
  rw [Bool.eq_iff_iff]
  simp only [matchesExpected_iff_exists, alternatives, h]

/-- An expectation that is met by a value is met by every value equal to it. -/
theorem matchesExpected_of_matchesValue (he : WellFormed expected) (hv : WellFormed v) (hw : WellFormed w)
    (h : v.matchesValue w) (hmet : expected.matchesExpected v) : expected.matchesExpected w := by
  obtain ⟨u, hu, huv⟩ := matchesExpected_iff_exists.mp hmet
  exact matchesExpected_iff_exists.mpr ⟨u, hu, matchesValue_trans (he.alternatives u hu) hv hw huv h⟩

/-- **Equal values meet the same expectations.** -/
theorem matchesExpected_congr (he : WellFormed expected) (hv : WellFormed v) (hw : WellFormed w)
    (h : v.matchesValue w) : expected.matchesExpected v = expected.matchesExpected w :=
  Bool.eq_iff_iff.mpr ⟨matchesExpected_of_matchesValue he hv hw h,
    matchesExpected_of_matchesValue he hw hv (matchesValue_symm hv hw h)⟩

end Json

namespace Condition

open Json

/-- With a property, *exact* and *is not* answer from whether the expectation is met. -/
theorem holds_exact_of_given (c : Condition) (positive : Bool) {properties : Properties} {v : Json}
    (hp : properties.lookup c.key = some v) :
    (c.asking (.exact positive)).holds properties = .ok (c.value.matchesExpected v == positive) :=
  holds_asking_of_given c (.exact positive) hp

/-- **Values are compared by an equivalence, and conditions respect it.**  The equality of conditions is loose
equality between values of which both or neither is a boolean.  Among the values in which no number is
not-a-number, it is reflexive, symmetric and transitive.

Let a condition ask for *exact* or *is not*.  It gives the same result, be it an answer or an error, whether it
expects one list or another with the same items, in any order and repeated at will.  For two properties that
are equal it gives one answer, by whether some value that it expects equals the first of them. -/
theorem equality_is_an_equivalence_that_conditions_respect :
    (∀ v w, WellFormed v → WellFormed w →
      (v.matchesValue w ↔ LooselyEqual v w ∧ (v.kind = .bool ↔ w.kind = .bool))) ∧
    (Equivalence fun v w : {v : Json // Comparable v} => (v.1.matchesValue w.1 : Prop)) ∧
    (∀ (c : Condition) (positive : Bool) (properties : Properties) (xs ys : List Json),
      (∀ v, v ∈ xs ↔ v ∈ ys) →
      ({ c with value := .arr xs }.asking (.exact positive)).holds properties =
        ({ c with value := .arr ys }.asking (.exact positive)).holds properties) ∧
    (∀ (c : Condition) (positive : Bool) (properties other : Properties) (v w : Json),
      WellFormed c.value → Comparable v → Comparable w → v.matchesValue w →
      properties.lookup c.key = some v → other.lookup c.key = some w →
      ∃ met : Bool, (met ↔ ∃ u ∈ c.value.alternatives, u.matchesValue v) ∧
        (c.asking (.exact positive)).holds properties = .ok (met == positive) ∧
        (c.asking (.exact positive)).holds other = .ok (met == positive)) := by
  refine ⟨fun v w => matchesValue_iff_kind, matchesValue_equivalence,
    fun c positive properties xs ys hitems => ?_,
    fun c positive properties other v w hc hv hw hequal hp ho => ?_⟩
  · cases hp : properties.lookup c.key with
    | none =>
        rw [holds_asking_of_missing { c with value := .arr xs } _ hp,
          holds_asking_of_missing { c with value := .arr ys } _ hp]
    | some v =>
        rw [holds_exact_of_given { c with value := .arr xs } positive hp,
          holds_exact_of_given { c with value := .arr ys } positive hp, matchesExpected_arr_congr hitems]
  · refine ⟨c.value.matchesExpected v, matchesExpected_iff_exists, holds_exact_of_given c positive hp, ?_⟩
    rw [matchesExpected_congr hc hv.wellFormed hw.wellFormed hequal]
    exact holds_exact_of_given c positive ho

/-- A team with two seats is the same team however its members and its numbers are written, and is found in
every list that has it. -/
theorem team_is_found_however_written :
    let team : Json := .obj [("plan", .str "team"), ("seats", .int 2)]
    let rewritten : Json := .obj [("seats", .float (.ofInt 2)), ("plan", .str "team")]
    let condition : Condition := { key := "account", value := .arr [.str "basic", team] }
    let reordered : Condition := { condition with value := .arr [team, .str "basic", team] }
    Comparable team ∧ Comparable rewritten ∧ team.matchesValue rewritten ∧ rewritten.matchesValue team ∧
      (condition.asking (.exact false)).holds [("account", rewritten)] = .ok false ∧
      (reordered.asking (.exact false)).holds [("account", team)] = .ok false := by
  intro team rewritten condition reordered
  obtain ⟨-, hequivalence, hlist, hproperty⟩ := equality_is_an_equivalence_that_conditions_respect
  have htwo : Number.float (.ofInt 2) ≠ .float .nan := by decide
  have hpair {α : Type} {p : α → Prop} {a b : α} (ha : p a) (hb : p b) : ∀ x ∈ [a, b], p x :=
    List.forall_mem_cons.mpr ⟨ha, List.forall_mem_singleton.mpr hb⟩
  have hteam : Comparable team :=
    ⟨.obj (by decide) (hpair (.str _) (.number _)), .obj (hpair (.str _) (.number nofun))⟩
  have hrewritten : Comparable rewritten :=
    ⟨.obj (by decide) (hpair (.number _) (.str _)), .obj (hpair (.number htwo) (.str _))⟩
  have hexpected : WellFormed condition.value := .arr (hpair (.str _) hteam.wellFormed)
  have hequal : team.matchesValue rewritten := by decide +kernel
  have hfound : (condition.asking (.exact false)).holds [("account", team)] = .ok false := rfl
  refine ⟨hteam, hrewritten, hequal,
    @hequivalence.symm ⟨team, hteam⟩ ⟨rewritten, hrewritten⟩ hequal, ?_, ?_⟩
  · obtain ⟨met, -, hanswer, hsame⟩ :=
      hproperty condition false [("account", team)] [("account", rewritten)] team rewritten hexpected hteam
        hrewritten hequal rfl rfl
    rw [hsame, ← hanswer, hfound]
  · rw [← hfound]
    refine hlist condition false _ [team, .str "basic", team] [.str "basic", team] fun v => ?_
    simp only [List.mem_cons, List.not_mem_nil, or_false]
    exact ⟨fun h => h.elim .inr id, .inr⟩

end Condition

end FeatureFlags
