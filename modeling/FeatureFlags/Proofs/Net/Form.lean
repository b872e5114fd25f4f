import FeatureFlags.Net.Form
import FeatureFlags.Net.Url
import FeatureFlags.Proofs.Text.Utf8

/-!
# `Proofs.Net.Form` — forms are read back

A character is written as itself, as a plus sign, or as the escapes of its bytes.  Each of the three is undone
by reading (`decode_encodeChar_append`), and none of them brings in a sign that separates names, values and
pairs (`IsWritten`).  So a form is read back as it was (`Form.decode_encode`), whatever characters its names
and values are made of.

A written form is not changed any more when it becomes the query of a resource (`quote_encode`).

## Contents

1. Characters
2. Escapes
3. Names and values
4. Forms
-/

namespace FeatureFlags

/-! ## Characters -/

/-- In parts that are joined there is what is in the parts, and what joins them. -/
theorem mem_of_mem_intercalate {α : Type} {sep a : α} {parts : List (List α)}
    (h : a ∈ [sep].intercalate parts) : a = sep ∨ ∃ part ∈ parts, a ∈ part := by
  induction parts with
  | nil => cases h
  | cons part parts ih =>
      cases parts with
      | nil => exact .inr ⟨part, by simp, by simpa using h⟩
      | cons next parts =>
          rw [List.intercalate_cons_cons, List.mem_append, List.mem_append, List.mem_singleton] at h
          rcases h with (ha | rfl) | ha
          · exact .inr ⟨part, by simp, ha⟩
          · exact .inl rfl
          · exact (ih ha).imp id fun ⟨p, hp, hmem⟩ => ⟨p, List.mem_cons_of_mem _ hp, hmem⟩

/-- What holds of each character of ASCII. -/
theorem forall_ascii {P : Char → Prop} (h : ∀ n : Fin 0x80, P (Char.ofNat n)) {c : Char}
    (hc : c.toNat < 0x80) : P c := by
  have hchar := h ⟨c.toNat, hc⟩
  rwa [Char.ofNat_toNat] at hchar

theorem toNat_lt_of_isAlphanum {c : Char} (h : c.isAlphanum) : c.toNat < 0x80 := by
  have hbelow {last : UInt32} (hle : c.val ≤ last) (hlast : last.toNat < 0x80) : c.toNat < 0x80 :=
    Nat.lt_of_le_of_lt (UInt32.le_iff_toNat_le.mp hle) hlast
  rcases Bool.or_eq_true_iff.mp h with hletter | hdigit
  · rcases Bool.or_eq_true_iff.mp hletter with hcapital | hsmall
    · have hrange : 'A'.val ≤ c.val ∧ c.val ≤ 'Z'.val := of_decide_eq_true hcapital
      exact hbelow hrange.2 (by decide)
    · have hle : c.val ≤ 'z'.val := of_decide_eq_true (Bool.and_eq_true_iff.mp hsmall).2
      exact hbelow hle (by decide)
  · have hle : c.val ≤ '9'.val := of_decide_eq_true (Bool.and_eq_true_iff.mp hdigit).2
    exact hbelow hle (by decide)

theorem Percent.toNat_lt_of_isUnreserved {c : Char} (h : isUnreserved c) : c.toNat < 0x80 := by
  rw [isUnreserved, Bool.or_eq_true] at h
  rcases h with h | h
  · exact toNat_lt_of_isAlphanum h
  · have hall : ['-', '.', '_', '~'].all fun c => c.toNat < 0x80 := by decide
    exact of_decide_eq_true (List.all_eq_true.mp hall c (List.contains_iff_mem.mp h))

/-! ## Escapes -/

namespace Percent

/-- What escapes are made of. -/
def IsDigit (c : Char) : Prop := ∃ n < 16, c = digit n

theorem value?_digit {n : Nat} (h : n < 16) : value? (digit n) = some n := by
  have hall : ∀ n : Fin 16, value? (digit n) = some n.val := by decide +kernel
  exact hall ⟨n, h⟩

/-- The two digits of a byte give the byte. -/
theorem byte?_escape (b : UInt8) : byte? (digit (b.toNat / 16)) (digit (b.toNat % 16)) = some b := by
  have hlt : b.toNat < 256 := b.toNat_lt
  have hhigh : value? (digit (b.toNat / 16)) = some (b.toNat / 16) := value?_digit (by omega)
  have hlow : value? (digit (b.toNat % 16)) = some (b.toNat % 16) := value?_digit (by omega)
  have hbyte : 16 * (b.toNat / 16) + b.toNat % 16 = b.toNat := Nat.div_add_mod _ _
  simp only [byte?, hhigh, hlow, hbyte, UInt8.ofNat_toNat]

/-- Escapes are read as the bytes that they were written for. -/
theorem decode_flatMap_escape (bytes : List UInt8) (rest : List Char) :
    decode (bytes.flatMap escape ++ rest) = bytes ++ decode rest := by
  induction bytes with
  | nil => rfl
  | cons b bytes ih =>
      show decode ('%' :: digit (b.toNat / 16) :: digit (b.toNat % 16) ::
        (bytes.flatMap escape ++ rest)) = b :: (bytes ++ decode rest)
      simp only [decode, byte?_escape, ih]

/-- A character that begins no escape is read as itself. -/
theorem decode_cons {c : Char} (h : c ≠ '%') (rest : List Char) :
    decode (c :: rest) = String.utf8EncodeChar c ++ decode rest := by
  rw [decode]
  intro a b more hc
  exact absurd hc h

/-- A character is read back from what is written for it, unless percent signs are kept. -/
theorem decode_encodeChar_append {keep : Char → Bool} (hkeep : keep '%' = false) (c : Char)
    (rest : List Char) :
    decode (encodeChar keep c ++ rest) = String.utf8EncodeChar c ++ decode rest := by
  unfold encodeChar
  split
  · next hc =>
      refine decode_cons ?_ rest
      rintro rfl
      exact absurd hc (by simp [hkeep])
  · exact decode_flatMap_escape _ _

/-- What is written for a character is the character, if it is kept, or made of escapes. -/
theorem mem_encodeChar {keep : Char → Bool} {c d : Char} (h : d ∈ encodeChar keep c) :
    keep d ∨ d = '%' ∨ IsDigit d := by
  unfold encodeChar at h
  split at h
  · next hc => exact .inl (List.mem_singleton.mp h ▸ hc)
  · obtain ⟨b, -, hd⟩ := List.mem_flatMap.mp h
    have hlt : b.toNat < 256 := b.toNat_lt
    rcases List.mem_cons.mp hd with rfl | hd
    · exact .inr (.inl rfl)
    rcases List.mem_cons.mp hd with rfl | hd
    · exact .inr (.inr ⟨_, by omega, rfl⟩)
    · exact .inr (.inr ⟨_, Nat.mod_lt _ (by decide), List.mem_singleton.mp hd⟩)

/-- Nothing is escaped where every character is kept. -/
theorem quote_of_kept {keep : Char → Bool} {cs : List Char} (h : ∀ c ∈ cs, keep c) :
    quote keep cs = cs := by
  fun_induction quote keep cs with
  | case1 => rfl
  | case2 a b rest hbyte ih => rw [ih fun c hc => h c (by simp [hc])]
  | case3 a b rest hbyte ih =>
      rw [ih fun c hc => h c (List.mem_cons_of_mem _ hc), encodeChar, if_pos (h '%' (by simp))]
      rfl
  | case4 c rest hno ih =>
      rw [ih fun d hd => h d (by simp [hd]), encodeChar, if_pos (h c (by simp))]
      rfl

end Percent

/-! ## Names and values -/

namespace Form

/-- The characters that names and values are written with. -/
def IsWritten (c : Char) : Prop := Percent.isUnreserved c ∨ c = '%' ∨ c = '+'

theorem isUnreserved_of_isDigit {c : Char} (h : Percent.IsDigit c) : Percent.isUnreserved c := by
  obtain ⟨n, hn, rfl⟩ := h
  have hall : ∀ n : Fin 16, Percent.isUnreserved (Percent.digit n) := by decide +kernel
  exact hall ⟨n, hn⟩

theorem isWritten_of_mem_encodeChar {c d : Char} (h : d ∈ encodeChar c) : IsWritten d := by
  unfold encodeChar at h
  split at h
  · exact .inr (.inr (List.mem_singleton.mp h))
  · rcases Percent.mem_encodeChar h with hd | hd | hd
    · exact .inl hd
    · exact .inr (.inl hd)
    · exact .inl (isUnreserved_of_isDigit hd)

theorem isWritten_of_mem_encodeText {s : String} {c : Char} (h : c ∈ encodeText s) : IsWritten c := by
  obtain ⟨d, -, hc⟩ := List.mem_flatMap.mp h
  exact isWritten_of_mem_encodeChar hc

/-- A blank for a plus sign. -/
def unplus (c : Char) : Char := if c = '+' then ' ' else c

/-- A character is read back from what is written for it, the plus sign taken for a blank. -/
theorem decode_map_encodeChar_append (c : Char) (rest : List Char) :
    Percent.decode ((encodeChar c).map unplus ++ rest) =
      String.utf8EncodeChar c ++ Percent.decode rest := by
  by_cases hc : c = ' '
  · subst hc
    exact Percent.decode_cons (by decide) rest
  · have hkeep : (Percent.encodeChar Percent.isUnreserved c).map unplus =
        Percent.encodeChar Percent.isUnreserved c := by
      refine (List.map_congr_left fun d hd => ?_).trans (List.map_id _)
      refine if_neg ?_
      rintro rfl
      -- a plus sign is neither kept, nor is it part of an escape
      rcases Percent.mem_encodeChar hd with hd | hd | hd
      · exact absurd hd (by decide)
      · exact absurd hd (by decide)
      · exact absurd (isUnreserved_of_isDigit hd) (by decide)
    rw [encodeChar, if_neg hc, hkeep]
    exact Percent.decode_encodeChar_append (by decide) c rest

/-- **A name or a value is read back as it was.** -/
theorem decodeText_encodeText (s : String) : decodeText (encodeText s) = s := by
  have hbytes : Percent.decode ((encodeText s).map unplus) = Utf8.encode s := by
    rw [Utf8.encode_eq, encodeText]
    induction s.toList with
    | nil => rfl
    | cons c cs ih =>
        rw [List.flatMap_cons, List.map_append, decode_map_encodeChar_append, ih, List.flatMap_cons]
  show Utf8.decodeLossy (Percent.decode ((encodeText s).map unplus)) = s
  rw [hbytes, Utf8.decodeLossy_encode]

/-! ## Forms -/

/-- A pair is read back as it was: the first equals sign in it is the one between name and value. -/
theorem decodePair_encodePair (pair : String × String) : decodePair (encodePair pair) = pair := by
  have hname : ∀ c ∈ encodeText pair.1, (c ≠ '=' : Bool) := by
    intro c hc
    rcases isWritten_of_mem_encodeText hc with hc | rfl | rfl
    · rw [decide_eq_true_iff]
      rintro rfl
      exact absurd hc (by decide)
    · rfl
    · rfl
  have htake : (encodePair pair).takeWhile (· ≠ '=') = encodeText pair.1 := by
    rw [encodePair, List.takeWhile_append_of_pos hname, List.takeWhile_cons_of_neg (by simp), List.append_nil]
  have hdrop : (encodePair pair).dropWhile (· ≠ '=') = '=' :: encodeText pair.2 := by
    rw [encodePair, List.dropWhile_append_of_pos hname, List.dropWhile_cons_of_neg (by simp)]
  rw [decodePair, htake, hdrop, List.drop_one, List.tail_cons, decodeText_encodeText, decodeText_encodeText]

/-- The characters that forms are written with. -/
theorem mem_encodePair {pair : String × String} {c : Char} (h : c ∈ encodePair pair) :
    IsWritten c ∨ c = '=' := by
  rcases List.mem_append.mp h with hc | hc
  · exact .inl (isWritten_of_mem_encodeText hc)
  rcases List.mem_cons.mp hc with rfl | hc
  · exact .inr rfl
  · exact .inl (isWritten_of_mem_encodeText hc)

theorem mem_encode {pairs : List (String × String)} {c : Char} (h : c ∈ encode pairs) :
    IsWritten c ∨ c = '=' ∨ c = '&' := by
  rcases mem_of_mem_intercalate h with hc | ⟨part, hpart, hc⟩
  · exact .inr (.inr hc)
  · obtain ⟨pair, -, rfl⟩ := List.mem_map.mp hpart
    exact (mem_encodePair hc).imp id .inl

/-- **A form is read back as it was**, whatever characters it has. -/
theorem decode_encode (pairs : List (String × String)) : decode (encode pairs) = pairs := by
  cases pairs with
  | nil => rfl
  | cons pair rest =>
      have hparts : ∀ part ∈ (pair :: rest).map encodePair, '&' ∉ part := by
        intro part hpart hmem
        obtain ⟨p, -, rfl⟩ := List.mem_map.mp hpart
        rcases mem_encodePair hmem with (hc | hc | hc) | hc
        · exact absurd hc (by decide)
        all_goals cases hc
      have hfilled : ∀ part ∈ (pair :: rest).map encodePair, !part.isEmpty := by
        intro part hpart
        obtain ⟨p, -, rfl⟩ := List.mem_map.mp hpart
        simp [encodePair]
      rw [decode, encode, List.splitOn_intercalate '&' hparts (by simp), List.filter_eq_self.mpr hfilled,
        List.map_map]
      exact (List.map_congr_left fun p _ => decodePair_encodePair p).trans (List.map_id _)

/-- What a form is written with stands in a query as it is. -/
theorem keptInQuery_of_mem_encode {pairs : List (String × String)} {c : Char} (h : c ∈ encode pairs) :
    Url.keptInQuery c := by
  have hunreserved (c : Char) (hlt : c.toNat < 0x80) : Percent.isUnreserved c → Url.keptInQuery c :=
    forall_ascii (P := fun c => Percent.isUnreserved c → Url.keptInQuery c) (by decide +kernel) hlt
  rcases mem_encode h with (hc | rfl | rfl) | rfl | rfl
  · exact hunreserved c (Percent.toNat_lt_of_isUnreserved hc) hc
  all_goals decide

/-- Nothing in a form is unprintable. -/
theorem isControl_of_mem_encode {pairs : List (String × String)} {c : Char} (h : c ∈ encode pairs) :
    Url.isControl c = false := by
  have hkept := keptInQuery_of_mem_encode h
  simp only [Url.keptInQuery, Url.printableExcept, Bool.and_eq_true, decide_eq_true_eq] at hkept
  simp only [Url.isControl, Bool.or_eq_false_iff, decide_eq_false_iff_not]
  omega

/-- **A form is not changed when it becomes a query.** -/
theorem quote_encode (pairs : List (String × String)) :
    Percent.quote Url.keptInQuery (encode pairs) = encode pairs :=
  Percent.quote_of_kept fun _ hc => keptInQuery_of_mem_encode hc

end Form

end FeatureFlags
