import FeatureFlags.Evaluation.Rules

/-!
# `Proofs.Evaluation.Place` — every subject has a place

A digest is read as a number, and reading can fail.  The reader of numbers allows blanks, a sign, a
prefix, underscores, and the digits of any digit system; in hexadecimal digits there is none of these, so
that the leading digits of a digest are read as what they denote, and every subject has a place
(`place_of_isHex`).  Once it is known, rollouts and variants are decided by comparing numbers.
-/

namespace FeatureFlags

/-! ## Digit systems -/

namespace CodeTable

/-- An entry that is found in a table is one of it, and covers what was looked for. -/
theorem search_eq_some {table : Array Entry} {c lo hi : Nat} {e : Entry}
    (h : search table c lo hi = some e) (hhi : hi ≤ table.size) : e ∈ table ∧ e.covers c := by
  fun_induction search table c lo hi with
  | case1 lo hi hlt mid entry hc ih => exact ih h (by omega)
  | case2 lo hi hlt mid entry hc hl ih => exact ih h hhi
  | case3 lo hi hlt mid entry hc hl hcovers =>
      obtain rfl := Option.some.inj h
      have hmid : mid < table.size := by omega
      refine ⟨?_, hcovers⟩
      simp only [entry, getElem!_pos table mid hmid]
      exact Array.getElem_mem hmid
  | case4 | case5 => cases h

/-- The words of a list of characters. -/
def wordsOf (cs : List Char) : List (List Char) :=
  let (word, rest) := cs.foldr
    (fun c (word, rest) =>
      if c = ' ' ∨ c = '\n' then ([], if word.isEmpty then rest else word :: rest)
      else (c :: word, rest))
    ([], [])
  if word.isEmpty then rest else word :: rest

theorem words_ofList (cs : List Char) : words (String.ofList cs) = wordsOf cs := by
  simp only [words, wordsOf, String.toList_ofList]

end CodeTable

namespace Numeral

-- The text is given by its characters: to decode the literal is slow.
set_option maxRecDepth 20000 in
theorem exists_decimalSet : ∃ cs, Text.decimalSet = .ofText (String.ofList cs) ∧
    (CodeTable.wordsOf cs).all fun word =>
      let e := CodeTable.Entry.ofWord word
      'f'.toNat < e.first || (e.first == '0'.toNat && e.last == '9'.toNat) :=
  ⟨_, rfl, by decide +kernel⟩

/-- Up to the last hexadecimal digit, there are no digits but those of ASCII. -/
theorem decimalSet_spec {e : CodeTable.Entry} (h : e ∈ Text.decimalSet.table)
    (hf : e.first ≤ 'f'.toNat) : e.first = '0'.toNat ∧ e.last = '9'.toNat := by
  obtain ⟨cs, hset, hall⟩ := exists_decimalSet
  rw [hset, CodeSet.ofText, CodeTable.entries, CodeTable.words_ofList, List.mem_toArray] at h
  obtain ⟨word, hword, rfl⟩ := List.mem_map.mp h
  have hspec := List.all_eq_true.mp hall word hword
  simp only [Bool.or_eq_true, decide_eq_true_eq, Bool.and_eq_true, beq_iff_eq] at hspec
  exact hspec.resolve_left (by omega)

-- The kernel must not look for a digit in the table, which it would when it compares a definition applied
-- to a character with its body; so the definitions are opened as functions.
theorem decimalValue?_of_search {c : Char} {found : Option CodeTable.Entry}
    (h : CodeTable.search Text.decimalSet.table c.toNat 0 Text.decimalSet.table.size = found) :
    decimalValue? c = found.map fun e => (c.toNat - e.first) % 10 := by
  suffices hdef : ∀ f, f = decimalValue? → f c = found.map fun e => (c.toNat - e.first) % 10 from
    hdef _ rfl
  intro f hf
  delta decimalValue? at hf
  rw [hf]
  dsimp only
  rw [h]
  cases found <;> rfl

theorem asciiDigit_of_decimalValue? {c : Char} {d : Option Nat} (h : decimalValue? c = d) :
    asciiDigit c = (d.map fun d => Char.ofNat ('0'.toNat + d)).getD c := by
  suffices hdef : ∀ f, f = asciiDigit → f c = (d.map fun d => Char.ofNat ('0'.toNat + d)).getD c from
    hdef _ rfl
  intro f hf
  delta asciiDigit at hf
  rw [hf]
  dsimp only
  rw [h]
  cases d <;> rfl

/-- A character that comes no later than the hexadecimal digits stays what it is. -/
theorem asciiDigit_of_le {c : Char} (h : c.toNat ≤ 'f'.toNat) : asciiDigit c = c := by
  cases hs : CodeTable.search Text.decimalSet.table c.toNat 0 Text.decimalSet.table.size with
  | none => exact asciiDigit_of_decimalValue? (decimalValue?_of_search hs)
  | some e =>
      obtain ⟨hmem, hcovers⟩ := CodeTable.search_eq_some hs (Nat.le_refl _)
      simp only [CodeTable.Entry.covers, Bool.and_eq_true, decide_eq_true_eq] at hcovers
      obtain ⟨⟨hfirst, hlast⟩, _⟩ := hcovers
      obtain ⟨h0, h9⟩ := decimalSet_spec hmem (by omega)
      have hnine : '9'.toNat = '0'.toNat + 9 := rfl
      have hcode : '0'.toNat + (c.toNat - e.first) % 10 = c.toNat := by omega
      rw [asciiDigit_of_decimalValue? (decimalValue?_of_search hs), Option.map_some, Option.map_some,
        hcode, Char.ofNat_toNat, Option.getD_some]

end Numeral

/-! ## Hexadecimal digits -/

/-- The hexadecimal digits. -/
def hexDigits : List Char := "0123456789abcdefABCDEF".toList

/-- A digest as it should be: forty hexadecimal digits. -/
structure IsHex (text : String) : Prop where
  length : text.length = 40
  digits : ∀ c ∈ text.toList, c ∈ hexDigits

instance (text : String) : Decidable (IsHex text) :=
  decidable_of_iff (text.length = 40 ∧ text.toList.all (hexDigits.contains ·))
    ⟨fun ⟨hlength, hdigits⟩ => ⟨hlength, by simpa using hdigits⟩,
      fun h => ⟨h.length, by simpa using h.digits⟩⟩

namespace Numeral

theorem hexDigits_spec : ∀ c ∈ hexDigits, isDigitIn 16 c ∧ isBlank c = false ∧ c.toNat ≤ 'f'.toNat ∧
    c ≠ '-' ∧ c ≠ '+' ∧ c ≠ '_' ∧ c.toLower ≠ 'x' := by
  have hall : hexDigits.all fun c => isDigitIn 16 c && !isBlank c && decide (c.toNat ≤ 'f'.toNat) &&
      c != '-' && c != '+' && c != '_' && c.toLower != 'x' := by
    decide +kernel
  intro c hc
  simpa only [Bool.and_eq_true, Bool.not_eq_true', decide_eq_true_eq, bne_iff_ne, ne_eq, and_assoc]
    using List.all_eq_true.mp hall c hc

section

variable {cs : List Char} (h : ∀ c ∈ cs, c ∈ hexDigits)

include h

/-- There is nothing around digits to be removed. -/
theorem trim_of_hexDigits : trim cs = cs := by
  have hblank {l : List Char} (hl : ∀ c ∈ l, c ∈ hexDigits) : l.dropWhile isBlank = l := by
    cases l with
    | nil => rfl
    | cons c rest => rw [List.dropWhile_cons, (hexDigits_spec c (hl c (by simp))).2.1]; rfl
  rw [trim, hblank h, hblank (fun c hc => h c (List.mem_reverse.mp hc)), List.reverse_reverse]

theorem map_asciiDigit_of_hexDigits : cs.map asciiDigit = cs := by
  induction cs with
  | nil => rfl
  | cons c rest ih =>
      rw [List.map_cons, asciiDigit_of_le (hexDigits_spec c (h c (by simp))).2.2.1,
        ih fun d hd => h d (List.mem_cons_of_mem c hd)]

theorem dropBase_of_hexDigits : dropBase 16 cs = cs := by
  unfold dropBase
  split
  · next c rest =>
      have hx : c.toLower ≠ 'x' := (hexDigits_spec c (h c (by simp))).2.2.2.2.2.2
      rw [if_neg (by simpa [prefixLetter?] using hx.symm)]
  · rfl

theorem underscoresBetween_of_hexDigits : underscoresBetween cs := by
  induction cs with
  | nil => rfl
  | cons c rest ih =>
      have hc : c ≠ '_' := (hexDigits_spec c (h c (by simp))).2.2.2.2.2.1
      rw [underscoresBetween]
      · exact ih fun d hd => h d (List.mem_cons_of_mem c hd)
      all_goals simp [hc]

theorem readNatural_of_hexDigits (hne : cs ≠ []) : readNatural 16 cs = .ok (value 16 cs) := by
  have hrun : (cs.takeWhile fun c => c == '_' || isDigitIn 16 c) = cs := by
    rw [← List.append_nil cs, List.takeWhile_append_of_pos, List.takeWhile_nil]
    exact fun c hc => by simp [(hexDigits_spec c (h c hc)).1]
  have hdigits : cs.filter (· ≠ '_') = cs :=
    List.filter_eq_self.mpr fun c hc => by simp [(hexDigits_spec c (h c hc)).2.2.2.2.2.1]
  have hhead : cs.head? ≠ some '_' := fun hhead =>
    (hexDigits_spec '_' (h '_' (List.mem_of_mem_head? hhead))).2.2.2.2.2.1 rfl
  simp only [readNatural, hrun, hdigits, underscoresBetween_of_hexDigits h]
  simp [hne, hhead]

/-- **Digits are read as what they denote.** -/
theorem readInteger_of_hexDigits (hne : cs ≠ []) : readInteger 16 cs = .ok (value 16 cs : Nat) := by
  have hminus (rest : List Char) : cs ≠ '-' :: rest := fun heq =>
    (hexDigits_spec '-' (h '-' (by simp [heq]))).2.2.2.1 rfl
  have hplus (rest : List Char) : cs ≠ '+' :: rest := fun heq =>
    (hexDigits_spec '+' (h '+' (by simp [heq]))).2.2.2.2.1 rfl
  rw [readInteger, trim_of_hexDigits h, map_asciiDigit_of_hexDigits h]
  split
  · next rest => exact absurd rfl (hminus rest)
  · next rest => exact absurd rfl (hplus rest)
  · rw [dropBase_of_hexDigits h, readNatural_of_hexDigits h hne]
    rfl

end

end Numeral

/-- The digest that clients agree on is as it should be. -/
theorem isHex_hexDigest (text : String) : IsHex (Sha1.hexDigest text) := by
  have hdigit : ∀ d < 16,
      (if d < 10 then Char.ofNat ('0'.toNat + d) else Char.ofNat ('a'.toNat + (d - 10))) ∈ hexDigits := by
    decide +kernel
  have hword (w : UInt32) : ∀ c ∈ Sha1.wordDigits w, c ∈ hexDigits := by
    intro c hc
    obtain ⟨i, _, rfl⟩ := List.mem_map.mp hc
    exact hdigit _ (Nat.mod_lt _ (by decide))
  constructor
  · simp [Sha1.hexDigest, Sha1.wordDigits]
  · intro c hc
    simp only [Sha1.hexDigest, String.toList_ofList, List.mem_flatMap] at hc
    obtain ⟨w, _, hc⟩ := hc
    exact hword w c hc

/-! ## The place of a subject -/

namespace Bucket

variable {digest : Digest} {key subject salt : String}

/-- The number that a digest begins with. -/
def lead (hex : String) : Nat := Numeral.value 16 (hex.toList.take digits)

/-- **Every subject has a place**: the quotient of the number that its digest begins with and the largest
number of so many digits, rounded once. -/
theorem place_of_isHex (h : IsHex (digest (source key subject salt))) :
    place digest key subject salt = .ok (.ofRatio false (lead (digest (source key subject salt))) scale) := by
  have htake : ∀ c ∈ (digest (source key subject salt)).toList.take digits, c ∈ hexDigits :=
    fun c hc => h.digits c (List.mem_of_mem_take hc)
  have hne : (digest (source key subject salt)).toList.take digits ≠ [] := by
    have hlength := h.length
    simp only [← String.length_toList] at hlength
    intro hnil
    have := congrArg List.length hnil
    simp [digits, hlength] at this
  have hpos : ¬(Numeral.value 16 ((digest (source key subject salt)).toList.take digits) : Int) < 0 := by
    omega
  simp only [place, lead, leading?, Numeral.readInteger_of_hexDigits htake hne, Except.toOption,
    Int.natAbs_natCast, hpos, decide_false]

theorem exists_place (h : ∀ text, IsHex (digest text)) (key subject salt : String) :
    ∃ p, place digest key subject salt = .ok p :=
  ⟨_, place_of_isHex (h _)⟩

/-- A rollout compares the place of a subject with its share. -/
theorem admits_of_place {p share : Binary64} {percentage : Number} (hp : place digest key subject "" = .ok p)
    (hs : percentage.hundredth? = some share) :
    admits digest key subject percentage = .ok (p.le share) := by
  simp only [admits, hp, hs]
  rfl

end Bucket

/-- The choice of a variant is the search for a range that contains the place of the subject. -/
theorem VariantRange.find?_of_place {digest : Digest} {key subject : String} {p : Binary64}
    (hp : Bucket.place digest key subject salt = .ok p) (ranges : List VariantRange) :
    find? digest key subject ranges = .ok (ranges.find? (·.contains p)) := by
  induction ranges with
  | nil => rfl
  | cons r rest ih =>
      simp only [find?, hp, List.find?_cons]
      cases hr : r.contains p with
      | true => simp [bind, Except.bind, hr, pure, Except.pure]
      | false => simpa [bind, Except.bind, hr] using ih

namespace Flag

variable {digest : Digest} {flag : Flag} {subject : String} {p : Binary64}

theorem resolveVariant_of_place (hp : Bucket.place digest flag.key subject VariantRange.salt = .ok p) :
    flag.resolveVariant digest subject =
      .ok (match (VariantRange.table (flag.variants.getD [])).find? (·.contains p) with
        | some r => .variant r.key
        | none => .on) := by
  simp only [resolveVariant, VariantRange.find?_of_place hp]
  cases (VariantRange.table (flag.variants.getD [])).find? (·.contains p) <;> rfl

/-- A group matches if its conditions hold and its rollout, if it has one, admits the subject. -/
theorem groupMatches_of_place {properties : Properties} {group : RuleGroup}
    (hp : Bucket.place digest flag.key subject "" = .ok p) :
    flag.groupMatches digest subject properties group =
      (fun hold => hold && group.rollout.all fun q => p.le q.hundredth) <$>
        allHold properties group.conditions := by
  unfold groupMatches
  cases allHold properties group.conditions with
  | error e => rfl
  | ok hold =>
      cases hold with
      | false => rfl
      | true =>
          cases group.rollout with
          | none => rfl
          | some q =>
              have hs : (Number.float q).hundredth? = some q.hundredth := rfl
              show Bucket.admits digest flag.key subject (.float q) = .ok (p.le q.hundredth)
              exact Bucket.admits_of_place hp hs

/-- Once a group has matched, the flag is on or one of its variants. -/
theorem exists_matchedValue (hp : Bucket.place digest flag.key subject VariantRange.salt = .ok p) :
    ∃ value, flag.matchedValue digest subject = .ok value ∧ value ≠ .off := by
  unfold matchedValue
  cases flag.variants with
  | none => exact ⟨.on, rfl, by decide⟩
  | some variants =>
      refine ⟨_, resolveVariant_of_place hp, ?_⟩
      split <;> simp [FlagValue.off]

end Flag

end FeatureFlags
