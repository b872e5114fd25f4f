import FeatureFlags.Proofs.Evaluation.Operator
import FeatureFlags.Proofs.Evaluation.Place
import Mathlib.Data.List.Infix

/-!
# `Proofs.Evaluation.Containment` — texts are ordered by what is found in them

A condition with *icontains* folds both texts and looks for the one in the other.  Folding can make a text
longer, so that where a folded text is found need not be a place of the unfolded one.  What carries over is
that folding goes character by character: the folding of a text that is put together is put together from
the foldings (`Text.caseFold_append`).  With a search that is complete (`occursIn_iff`), containment has
the laws of an order, up to texts that fold alike.

## Contents

1. Search and folding
2. The order of texts
3. A letter that folds to two
-/

namespace FeatureFlags

/-! ## Search and folding -/

/-- **A text occurs in another if the other has it as a part**: no place is missed. -/
theorem occursIn_iff {needle haystack : List Char} : occursIn needle haystack ↔ needle <:+: haystack := by
  induction haystack with
  | nil => rw [occursIn, List.isEmpty_iff, List.infix_nil]
  | cons c rest ih =>
      rw [occursIn, Bool.or_eq_true, List.isPrefixOf_iff_prefix, ih]
      exact List.infix_cons_iff.symm

/-- Folding goes through a text character by character. -/
theorem Text.caseFold_append (s t : List Char) : caseFold (s ++ t) = caseFold s ++ caseFold t :=
  List.flatMap_append

variable {needle haystack text : String}

theorem containsFolded_iff : containsFolded haystack needle ↔
    Text.caseFold needle.toList <:+: Text.caseFold haystack.toList := occursIn_iff

/-- The folding of a part is a part of the folding. -/
theorem infix_caseFold_append (before text after : String) :
    Text.caseFold text.toList <:+: Text.caseFold (before ++ text ++ after).toList := by
  rw [String.toList_append, String.toList_append, Text.caseFold_append, Text.caseFold_append]
  exact List.infix_append _ _ _

/-! ## The order of texts -/

namespace Condition

/-- Conditions that look for a text find it in such a property. -/
def Finds (needle haystack : String) : Prop := Accepts (.contains true) (.str needle) (.str haystack)

/-- Of two texts, both operators give an answer. -/
theorem compare_texts (positive : Bool) (key : String) :
    compare (.contains positive) key (.str needle) (.str haystack) =
      .ok (containsFolded haystack needle == positive) := rfl

theorem finds_iff : Finds needle haystack ↔
    Text.caseFold needle.toList <:+: Text.caseFold haystack.toList := by
  have hfinds : Finds needle haystack ↔ (containsFolded haystack needle == true) = true :=
    accepts_iff (compare_texts true)
  rw [hfinds, beq_true, containsFolded_iff]

theorem finds_append (h : Finds needle haystack) (before after : String) :
    Finds needle (before ++ haystack ++ after) := by
  rw [finds_iff] at h ⊢
  exact h.trans (infix_caseFold_append before haystack after)

theorem finds_self (text : String) : Finds text text := finds_iff.mpr (List.infix_refl _)

/-- Texts that are found in each other fold alike: neither folding is longer than the other. -/
theorem finds_antisymm_iff : Finds needle haystack ∧ Finds haystack needle ↔
    Text.caseFold needle.toList = Text.caseFold haystack.toList := by
  rw [finds_iff, finds_iff]
  constructor
  · rintro ⟨hin, hback⟩
    exact hin.eq_of_length_le hback.length_le
  · intro h
    rw [h]
    exact ⟨List.infix_refl _, List.infix_refl _⟩

/-- **Containment orders texts up to case.**  Of a text to look for and a property that is a text, both
operators give an answer, and opposite ones.  A text is found wherever it is a part, and in whatever
contains a text in which it is found; each is found in itself, and the empty text everywhere; what is found
in a text that is found in a third one is found there.  Two texts are found in each other if, and only if,
they have the same full case folding. -/
theorem containment_orders_texts :
    (∀ (c : Condition) (properties : Properties) (needle haystack : String) (positive : Bool),
      c.value = .str needle → properties.lookup c.key = some (.str haystack) →
        ∃ answer, (c.asking (.contains positive)).holds properties = .ok answer ∧
          (answer = positive ↔ Finds needle haystack)) ∧
    (∀ needle before after, Finds needle (before ++ needle ++ after)) ∧
    (∀ needle haystack before after, Finds needle haystack → Finds needle (before ++ haystack ++ after)) ∧
    (∀ text, Finds text text) ∧
    (∀ first second third, Finds first second → Finds second third → Finds first third) ∧
    (∀ haystack, Finds "" haystack) ∧
    ∀ first second, Finds first second ∧ Finds second first ↔
      Text.caseFold first.toList = Text.caseFold second.toList := by
  refine ⟨?_, ?_, ?_, finds_self, ?_, ?_, fun first second => finds_antisymm_iff⟩
  · intro c properties needle haystack positive hc hp
    have hanswer : (c.asking (.contains positive)).holds properties =
        .ok (containsFolded haystack needle == positive) := by
      rw [holds_asking_of_given c _ hp, hc, compare_texts]
    refine ⟨_, hanswer, ?_⟩
    rw [finds_iff, ← containsFolded_iff]
    cases positive <;> cases containsFolded haystack needle <;> decide
  · intro needle before after
    exact finds_append (finds_self needle) before after
  · intro needle haystack before after h
    exact finds_append h before after
  · intro first second third h h'
    rw [finds_iff] at h h' ⊢
    exact h.trans h'
  · intro haystack
    rw [finds_iff]
    exact List.nil_infix

end Condition

/-! ## A letter that folds to two -/

namespace Text

-- The kernel must not look a character up in the table, which it would when it compares a definition
-- applied to a character with its body; so the definition is opened as a function.
theorem foldChar_of_lookup {c : Char} {found : Option (List Char)} (h : fullFolding.lookup c = found) :
    foldChar c = found.getD [simpleFolding.apply c] := by
  suffices hdef : ∀ f, f = foldChar → f c = found.getD [simpleFolding.apply c] from hdef _ rfl
  intro f hf
  delta foldChar at hf
  rw [hf]
  dsimp only
  rw [h]
  cases found <;> rfl

-- The tables are given by their characters: to decode the literals is slow.
set_option maxRecDepth 20000 in
theorem exists_fullFolding : ∃ cs, fullFoldingText = String.ofList cs ∧
    ((CodeTable.wordsOf cs).map readFolding).lookup 'ß' = some ['s', 's'] ∧
    ((CodeTable.wordsOf cs).map readFolding).lookup 's' = none :=
  ⟨_, rfl, by decide +kernel⟩

set_option maxRecDepth 20000 in
theorem exists_simpleFolding : ∃ cs, simpleFolding = .ofText (String.ofList cs) ∧
    (CodeTable.wordsOf cs).all fun word => !(CodeTable.Entry.ofWord word).covers 's'.toNat :=
  ⟨_, rfl, by decide +kernel⟩

theorem simpleFolding_small_s : simpleFolding.apply 's' = 's' := by
  obtain ⟨cs, hmap, hall⟩ := exists_simpleFolding
  rw [CodeMap.apply]
  cases hsearch : CodeTable.search simpleFolding.table 's'.toNat 0 simpleFolding.table.size with
  | none => rfl
  | some e =>
      -- an entry that is found covers the letter, and no word of the table does
      obtain ⟨hmem, hcovers⟩ := CodeTable.search_eq_some hsearch (Nat.le_refl _)
      rw [hmap, CodeMap.ofText, CodeTable.entries, CodeTable.words_ofList, List.mem_toArray] at hmem
      obtain ⟨word, hword, rfl⟩ := List.mem_map.mp hmem
      have hnot := List.all_eq_true.mp hall word hword
      rw [hcovers] at hnot
      cases hnot

/-- The sharp s folds to two letters. -/
theorem caseFold_sharp_s : caseFold "ss".toList = caseFold "ß".toList := by
  obtain ⟨cs, htext, hsharp, hsmall⟩ := exists_fullFolding
  have hfull : fullFolding = (CodeTable.wordsOf cs).map readFolding := by
    rw [fullFolding, htext, CodeTable.words_ofList]
  have hs : foldChar 's' = ['s'] := by
    have hnone : fullFolding.lookup 's' = none := hfull ▸ hsmall
    rw [foldChar_of_lookup hnone, Option.getD_none, simpleFolding_small_s]
  have hss : foldChar 'ß' = ['s', 's'] := by
    have hsome : fullFolding.lookup 'ß' = some ['s', 's'] := hfull ▸ hsharp
    rw [foldChar_of_lookup hsome, Option.getD_some]
  have hletters : "ss".toList = ['s', 's'] := by decide
  have hsharpLetter : "ß".toList = ['ß'] := by decide
  rw [hletters, hsharpLetter]
  simp only [caseFold, List.flatMap_cons, List.flatMap_nil, hs, hss]
  rfl

end Text

namespace Condition

/-- Two letters s are found in an address that is written with a sharp s, although they do not stand in
it. -/
theorem sharp_s_is_found_as_two_letters :
    let c : Condition := { key := "street", value := .str "ss" }
    let properties : Properties := [("street", .str ("Stra" ++ "ß" ++ "e"))]
    Text.caseFold "ss".toList = Text.caseFold "ß".toList ∧
      properties.lookup c.key = some (.str ("Stra" ++ "ß" ++ "e")) ∧
      (c.asking (.contains true)).holds properties = .ok true ∧
      (c.asking (.contains false)).holds properties = .ok false := by
  intro c properties
  obtain ⟨hanswers, hpart, -, -, htrans, -, halike⟩ := containment_orders_texts
  have hstreet : properties.lookup c.key = some (.str ("Stra" ++ "ß" ++ "e")) := rfl
  have hletters : Finds "ss" "ß" := ((halike "ss" "ß").mpr Text.caseFold_sharp_s).1
  have hfound : Finds "ss" ("Stra" ++ "ß" ++ "e") := htrans _ _ _ hletters (hpart "ß" "Stra" "e")
  obtain ⟨answer, hanswer, hiff⟩ := hanswers c properties _ _ false rfl hstreet
  obtain rfl := hiff.mpr hfound
  exact ⟨Text.caseFold_sharp_s, hstreet, hfound c properties rfl hstreet, hanswer⟩

end Condition

end FeatureFlags
