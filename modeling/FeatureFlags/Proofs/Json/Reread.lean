import FeatureFlags.Proofs.Text.Utf8
import FeatureFlags.Service.Http

/-!
# `Proofs.Json.Reread` — texts and objects are read back

The writer escapes what must not stand in a string, one character at a time; the reader undoes each escape
(`stringChars_flatMap_char`), so a string is read back as it was, whatever follows it.  `ReadsBack` carries
this from a value to the objects that hold it.  Objects keep the order of their members, and lose none of
them if no name is repeated.

Bytes are taken for UTF-8 if they begin like a JSON text.  So a written value is what its bytes are read as
(`Http.jsonOfBody_encode`).

## Contents

1. Strings
2. Objects
3. Bytes
-/

namespace FeatureFlags

/-! ## Strings -/

namespace Json

namespace Reader

variable {done rest : List Char}

/-- An escape of a code unit that is not the first half of a pair is read as its character. -/
theorem stringChars_unit {a b c d : Char} {n : Nat} (hn : hex4? a b c d = some n)
    (hhalf : isHighSurrogate n = false) :
    stringChars done ('\\' :: 'u' :: a :: b :: c :: d :: rest) = stringChars (ofUnit n :: done) rest := by
  rw [stringChars.eq_def]
  split
  · rename_i heq
    cases heq
  · rename_i heq
    cases heq
  · rename_i heq
    cases heq
    rename_i e f g h more
    cases hex4? e f g h <;> simp [hn, hhalf]
  · rename_i heq
    cases heq
    simp only [hn]
  · rename_i hno heq
    cases heq
    exact (hno _ _ _ _ _ rfl rfl).elim
  · rename_i hno heq
    cases heq
    exact (hno _ _ rfl rfl).elim

/-- A backslash and a letter are read as what the letter stands for. -/
theorem stringChars_simple {c x : Char} (hc : c ≠ 'u') (hx : simpleEscape? c = some x) :
    stringChars done ('\\' :: c :: rest) = stringChars (x :: done) rest := by
  rw [stringChars]
  · rw [hx]
  · rintro a b c d e f g h more rfl
    exact absurd rfl hc
  · rintro a b c d more rfl
    exact absurd rfl hc

/-- A character that needs no escape is read as itself. -/
theorem stringChars_plain {c : Char} (hquote : c ≠ '"') (hescape : c ≠ '\\') (hvisible : 0x20 ≤ c.toNat) :
    stringChars done (c :: rest) = stringChars (c :: done) rest := by
  have hkept : ¬ (decide (c.toNat < 0x20) || c == '\\') = true := by
    simp [hescape, Nat.not_lt.mpr hvisible]
  rw [stringChars, if_neg hkept]
  · exact hquote
  · rintro a b c d e f g h more rfl
    exact absurd rfl hescape
  · rintro a b c d more rfl
    exact absurd rfl hescape
  · rintro c more rfl
    exact absurd rfl hescape

theorem hexValue?_hexChar {n : Nat} (h : n < 16) : hexValue? (Text.hexChar n) = some n := by
  have hall : ∀ n : Fin 16, hexValue? (Text.hexChar n) = some n.val := by decide +kernel
  exact hall ⟨n, h⟩

/-- The escape of a control character is read as the character. -/
theorem stringChars_codeEscape {c : Char} (h : c.toNat < 0x20) :
    stringChars done (Writer.codeEscape c ++ rest) = stringChars (c :: done) rest := by
  have hescape : Writer.codeEscape c = ['\\', 'u', Text.hexChar (c.toNat / 16 / 16 / 16 % 16),
      Text.hexChar (c.toNat / 16 / 16 % 16), Text.hexChar (c.toNat / 16 % 16), Text.hexChar (c.toNat % 16)] :=
    if_pos (by omega)
  have hnumber : hex4? (Text.hexChar (c.toNat / 16 / 16 / 16 % 16)) (Text.hexChar (c.toNat / 16 / 16 % 16))
      (Text.hexChar (c.toNat / 16 % 16)) (Text.hexChar (c.toNat % 16)) = some c.toNat := by
    simp only [hex4?, hexValue?_hexChar (Nat.mod_lt _ (by decide : 0 < 16)), Option.bind_eq_bind,
      Option.bind_some, Option.pure_def, Option.some.injEq]
    omega
  have hunit : ofUnit c.toNat = c := by
    rw [ofUnit, if_pos (Or.inl (by omega)), Char.ofNat_toNat]
  have hwhole : isHighSurrogate c.toNat = false := by
    simp only [isHighSurrogate, Bool.and_eq_false_iff, decide_eq_false_iff_not]
    omega
  rw [hescape, List.cons_append, List.cons_append, List.cons_append, List.cons_append, List.cons_append,
    List.cons_append, List.nil_append, stringChars_unit hnumber hwhole, hunit]

/-- **A character is read back from what is written for it.** -/
theorem stringChars_char_append (c : Char) :
    stringChars done (Writer.char false c ++ rest) = stringChars (c :: done) rest := by
  unfold Writer.char
  split_ifs with hquote hescape h3 h4 h5 h6 h7 hcontrol
  rotate_left 7
  · exact stringChars_codeEscape (by simpa using hcontrol)
  · exact stringChars_plain hquote hescape (by simpa using hcontrol)
  -- the other seven characters are written as a backslash and a letter
  all_goals
    subst_vars
    exact stringChars_simple (by decide) rfl

/-- **A string is read back as it was**, up to the quote that ends it. -/
theorem stringChars_flatMap_char (cs done rest : List Char) :
    stringChars done (cs.flatMap (Writer.char false) ++ '"' :: rest) = some (done.reverse ++ cs, rest) := by
  induction cs generalizing done with
  | nil => rw [List.flatMap_nil, List.nil_append, stringChars, List.append_nil]
  | cons c cs ih =>
      rw [List.flatMap_cons, List.append_assoc, stringChars_char_append, ih, List.reverse_cons,
        List.append_assoc, List.singleton_append]

end Reader

/-! ## Objects -/

theorem insertMember_of_notMem {α : Type} {name : String} {value : α} {members : List (String × α)}
    (h : name ∉ members.map Prod.fst) : insertMember name value members = members ++ [(name, value)] := by
  induction members with
  | nil => rfl
  | cons m rest ih =>
      obtain ⟨hne, hrest⟩ := not_or.mp (List.mem_cons.not.mp h)
      rw [insertMember, if_neg (Ne.symm hne), ih hrest, List.cons_append]

/-- Members without a repeated name are the members of their object. -/
theorem ofMembers_of_nodup {members : List (String × Json)} (h : (members.map Prod.fst).Nodup) :
    ofMembers members = .obj members := by
  -- the members put in so far have none of the names that are still to come
  suffices hfrom : ∀ before : List (String × Json), ((before ++ members).map Prod.fst).Nodup →
      members.foldl (fun acc m => insertMember m.1 m.2 acc) before = before ++ members by
    rw [ofMembers, hfrom [] h, List.nil_append]
  clear h
  induction members with
  | nil => intro before _; simp
  | cons m rest ih =>
      intro before h
      have hnew : m.1 ∉ before.map Prod.fst := by
        rw [List.map_append, List.map_cons, List.nodup_append] at h
        intro hm
        exact h.2.2 _ hm _ List.mem_cons_self rfl
      rw [List.foldl_cons, insertMember_of_notMem hnew, ih]
      · simp
      · simpa using h

/-- The characters of a value as it is written. -/
def spelling (v : Json) : List Char := (v.write .compact).toList

/-- The characters of a name or a string as it is written. -/
def quotedSpelling (s : String) : List Char := '"' :: (s.toList.flatMap (Writer.char false) ++ ['"'])

/-- The characters of members as they are written. -/
def membersSpelling (members : List (String × Json)) : List Char :=
  (writeMembers .compact members).toList

theorem spelling_str (s : String) : spelling (.str s) = quotedSpelling s := by
  rw [spelling, write, Writer.string, String.toList_ofList]
  rfl

theorem spelling_obj (members : List (String × Json)) :
    spelling (.obj members) = '\x7b' :: (membersSpelling members ++ ['\x7d']) := by
  rw [spelling, write, String.toList_append, String.toList_append]
  rfl

theorem membersSpelling_singleton (name : String) (v : Json) :
    membersSpelling [(name, v)] = quotedSpelling name ++ ':' :: spelling v := by
  rw [membersSpelling, writeMembers, Writer.string, String.toList_append, String.toList_append,
    String.toList_ofList, List.append_assoc]
  rfl

theorem membersSpelling_cons (name : String) (v : Json) (m : String × Json) (rest : List (String × Json)) :
    membersSpelling ((name, v) :: m :: rest) =
      quotedSpelling name ++ ':' :: (spelling v ++ ',' :: membersSpelling (m :: rest)) := by
  rw [membersSpelling, writeMembers, Writer.string, String.toList_append, String.toList_append,
    String.toList_append, String.toList_append, String.toList_ofList]
  · simp only [List.append_assoc]
    rfl
  · rintro ⟨⟩

namespace Reader

/-- Blanks are not skipped where there are none. -/
theorem skipBlanks_cons {c : Char} (h : isBlank c = false) (rest : List Char) :
    skipBlanks (c :: rest) = c :: rest := List.dropWhile_cons_of_neg (by simp [h])

variable {fuel room : Nat} {rest after more : List Char} {name : List Char} {v : Json}
  {done : List (String × Json)}

theorem value_string (h : stringChars [] rest = some (name, more)) :
    value (fuel + 1) room ('"' :: rest) = .ok (.str (String.ofList name), more) := by
  have hscalar : value (fuel + 1) room ('"' :: rest) = wellFormed (scalar ('"' :: rest)) := by
    cases room <;> rfl
  rw [hscalar, scalar, h]
  rfl

/-- The members of an object are read after its bracket, unless there are none. -/
theorem value_object {c : Char} (hblank : isBlank c = false) (hc : c ≠ '\x7d') :
    value (fuel + 1) (room + 1) ('\x7b' :: c :: rest) = members fuel room [] (c :: rest) := by
  rw [value, skipBlanks_cons hblank]
  split
  · rename_i heq
    cases heq
    exact absurd rfl hc
  · rfl

/-- The end of an object follows its last member. -/
theorem members_last (hname : stringChars [] rest = some (name, ':' :: after))
    (hblank : skipBlanks after = after) (hv : value fuel room after = .ok (v, '\x7d' :: more)) :
    members (fuel + 1) room done ('"' :: rest) =
      .ok (.ofMembers (done.reverse ++ [(String.ofList name, v)]), more) := by
  have hcolon : skipBlanks (':' :: after) = ':' :: after := skipBlanks_cons rfl after
  have hend : skipBlanks ('\x7d' :: more) = '\x7d' :: more := skipBlanks_cons rfl more
  simp only [members, hname, wellFormed, bind, Except.bind, hcolon, hblank, hv, hend, List.reverse_cons]

/-- Behind a comma an object goes on with the next member. -/
theorem members_next (hname : stringChars [] rest = some (name, ':' :: after))
    (hblank : skipBlanks after = after) (hv : value fuel room after = .ok (v, ',' :: '"' :: more)) :
    members (fuel + 1) room done ('"' :: rest) =
      members fuel room ((String.ofList name, v) :: done) ('"' :: more) := by
  have hcolon : skipBlanks (':' :: after) = ':' :: after := skipBlanks_cons rfl after
  have hcomma : skipBlanks (',' :: '"' :: more) = ',' :: '"' :: more := skipBlanks_cons rfl _
  have hquote : skipBlanks ('"' :: more) = '"' :: more := skipBlanks_cons rfl more
  rw [members]
  simp only [hname, wellFormed, bind, Except.bind, hcolon, hblank, hv, hcomma, hquote]

end Reader

open Reader in
/-- A value is read back as it was, with room for what it holds, whatever follows it; and it does not begin
with a blank. -/
structure ReadsBack (room : Nat) (v : Json) : Prop where
  visible : ∃ c cs, spelling v = c :: cs ∧ isBlank c = false
  read : ∀ fuel rest, (spelling v).length ≤ fuel →
    value fuel room (spelling v ++ rest) = .ok (v, rest)

theorem ReadsBack.skipBlanks {room : Nat} {v : Json} (h : ReadsBack room v) (rest : List Char) :
    Reader.skipBlanks (spelling v ++ rest) = spelling v ++ rest := by
  obtain ⟨c, cs, hv, hc⟩ := h.visible
  rw [hv, List.cons_append, Reader.skipBlanks_cons hc]

/-- **A string is read back as it was.** -/
theorem readsBack_str (room : Nat) (s : String) : ReadsBack room (.str s) := by
  refine ⟨⟨'"', _, spelling_str s, rfl⟩, fun fuel rest hfuel => ?_⟩
  rw [spelling_str] at hfuel ⊢
  cases fuel with
  | zero => cases hfuel
  | succ fuel =>
      rw [quotedSpelling, List.cons_append, List.append_assoc, List.singleton_append,
        Reader.value_string (Reader.stringChars_flatMap_char s.toList [] rest), List.reverse_nil,
        List.nil_append, String.ofList_toList]

theorem exists_membersSpelling (m : String × Json) (members : List (String × Json)) :
    ∃ cs, membersSpelling (m :: members) = '"' :: cs := by
  obtain ⟨name, v⟩ := m
  cases members with
  | nil => exact ⟨_, membersSpelling_singleton name v⟩
  | cons m members => exact ⟨_, membersSpelling_cons name v m members⟩

section

variable {room fuel : Nat} {v : Json} (h : ReadsBack room v) (hfuel : (spelling v).length ≤ fuel)
  (name : String) (done : List (String × Json)) (rest : List Char)

include h hfuel

/-- A member is read back that ends its object. -/
theorem ReadsBack.lastMember :
    Reader.members (fuel + 1) room done (quotedSpelling name ++ ':' :: (spelling v ++ '\x7d' :: rest)) =
      .ok (ofMembers (done.reverse ++ [(name, v)]), rest) := by
  have hname := Reader.stringChars_flatMap_char name.toList [] (':' :: (spelling v ++ '\x7d' :: rest))
  rw [quotedSpelling, List.cons_append, List.append_assoc, List.singleton_append,
    Reader.members_last hname (h.skipBlanks _) (h.read fuel _ hfuel), List.reverse_nil, List.nil_append,
    String.ofList_toList]

/-- A member is read back that another one follows. -/
theorem ReadsBack.nextMember :
    Reader.members (fuel + 1) room done (quotedSpelling name ++ ':' :: (spelling v ++ ',' :: '"' :: rest)) =
      Reader.members fuel room ((name, v) :: done) ('"' :: rest) := by
  have hname := Reader.stringChars_flatMap_char name.toList [] (':' :: (spelling v ++ ',' :: '"' :: rest))
  rw [quotedSpelling, List.cons_append, List.append_assoc, List.singleton_append,
    Reader.members_next hname (h.skipBlanks _) (h.read fuel _ hfuel), List.reverse_nil, List.nil_append,
    String.ofList_toList]

end

/-- Members whose values are read back are read back, up to the end of their object. -/
theorem members_membersSpelling {room fuel : Nat} {members : List (String × Json)} (hne : members ≠ [])
    (hvalues : ∀ m ∈ members, ReadsBack room m.2) (hfuel : (membersSpelling members).length ≤ fuel)
    (done : List (String × Json)) (rest : List Char) :
    Reader.members fuel room done (membersSpelling members ++ '\x7d' :: rest) =
      .ok (ofMembers (done.reverse ++ members), rest) := by
  induction members generalizing done fuel with
  | nil => exact absurd rfl hne
  | cons m members ih =>
      obtain ⟨name, v⟩ := m
      obtain ⟨hv, hmembers⟩ := List.forall_mem_cons.mp hvalues
      cases fuel with
      | zero =>
          obtain ⟨cs, hcs⟩ := exists_membersSpelling (name, v) members
          simp [hcs] at hfuel
      | succ fuel =>
          cases members with
          | nil =>
              rw [membersSpelling_singleton] at hfuel ⊢
              have hlength : (spelling v).length ≤ fuel := by
                simp only [List.length_append, List.length_cons] at hfuel
                omega
              rw [List.append_assoc, List.cons_append]
              exact hv.lastMember hlength name done rest
          | cons m members =>
              obtain ⟨cs, hcs⟩ := exists_membersSpelling m members
              rw [membersSpelling_cons] at hfuel ⊢
              have hlength : (spelling v).length ≤ fuel ∧ (membersSpelling (m :: members)).length ≤ fuel := by
                simp only [List.length_append, List.length_cons] at hfuel
                omega
              have hnext := ih (by simp) hmembers hlength.2 ((name, v) :: done)
              rw [hcs] at hnext ⊢
              rw [List.append_assoc, List.cons_append, List.append_assoc, List.cons_append,
                List.cons_append, hv.nextMember hlength.1 name done, ← List.cons_append, hnext,
                List.reverse_cons, List.append_assoc, List.singleton_append]

/-- **An object is read back as it was** if its values are, and no name is repeated. -/
theorem readsBack_obj {room : Nat} {members : List (String × Json)}
    (hnames : (members.map Prod.fst).Nodup) (hvalues : ∀ m ∈ members, ReadsBack room m.2) :
    ReadsBack (room + 1) (.obj members) := by
  refine ⟨⟨'\x7b', _, spelling_obj members, rfl⟩, fun fuel rest hfuel => ?_⟩
  rw [spelling_obj] at hfuel ⊢
  cases fuel with
  | zero => cases hfuel
  | succ fuel =>
      cases members with
      | nil => rfl
      | cons m members =>
          have hlength : (membersSpelling (m :: members)).length ≤ fuel := by
            simp only [List.length_append, List.length_cons] at hfuel
            omega
          obtain ⟨cs, hcs⟩ := exists_membersSpelling m members
          have hread := members_membersSpelling (by simp) hvalues hlength [] rest
          rw [hcs, List.cons_append] at hread
          rw [hcs, List.cons_append, List.cons_append, List.cons_append, List.append_assoc,
            List.singleton_append, Reader.value_object rfl (by decide), hread, List.reverse_nil,
            List.nil_append, ofMembers_of_nodup hnames]

/-- A value that is read back is what its text is parsed as. -/
theorem parse_spelling {room : Nat} {v : Json} (h : ReadsBack room v) : parse room (spelling v) = .ok v := by
  have hread := h.read (2 * (spelling v).length + 2) [] (by omega)
  have hblank := h.skipBlanks []
  rw [List.append_nil] at hread hblank
  rw [parse, hblank, hread]
  rfl

end Json

/-! ## Bytes -/

namespace Utf8

theorem replaceHalves_cons {b : UInt8} (h : b ≠ 0xED) (rest : List UInt8) :
    replaceHalves (b :: rest) = b :: replaceHalves rest := by
  rw [replaceHalves]
  rintro b c more rfl
  exact absurd rfl h

/-- Bytes without the one that half a pair begins with stay as they are. -/
theorem replaceHalves_append {bytes : List UInt8} (h : ∀ b ∈ bytes, b ≠ 0xED) (rest : List UInt8) :
    replaceHalves (bytes ++ rest) = bytes ++ replaceHalves rest := by
  induction bytes with
  | nil => rfl
  | cons b bytes ih =>
      obtain ⟨hb, hbytes⟩ := List.forall_mem_cons.mp h
      rw [List.cons_append, replaceHalves_cons hb, ih hbytes, List.cons_append]

/-- What begins like half a pair, but goes on with a smaller byte, stays as it is. -/
theorem replaceHalves_of_lt {b₁ b₂ : UInt8} (h₁ : b₁.toNat < 0xA0) (h₂ : b₂ ≠ 0xED) (rest : List UInt8) :
    replaceHalves (0xED :: b₁ :: b₂ :: rest) = 0xED :: b₁ :: b₂ :: replaceHalves rest := by
  have hhalf : (0xA0 : UInt8).toNat = 0xA0 := rfl
  have hsmaller : ¬ (0xA0 ≤ b₁ ∧ b₁ ≤ 0xBF ∧ 0x80 ≤ b₂ ∧ b₂ ≤ 0xBF) := by
    rintro ⟨hb, -⟩
    rw [UInt8.le_iff_toNat_le, hhalf] at hb
    omega
  have hfirst : b₁ ≠ 0xED := by
    rintro rfl
    exact absurd h₁ (by decide)
  rw [replaceHalves, if_neg hsmaller, replaceHalves_cons hfirst, replaceHalves_cons h₂]

theorem ofNat_ne {m : Nat} (hm : m < 256) {b : UInt8} (h : m ≠ b.toNat) : UInt8.ofNat m ≠ b := by
  rintro rfl
  rw [UInt8.toNat_ofNat_of_lt' hm] at h
  exact h rfl

/-- In the encoding of a character no bytes are taken for half a pair. -/
theorem replaceHalves_utf8EncodeChar (c : Char) (rest : List UInt8) :
    replaceHalves (String.utf8EncodeChar c ++ rest) = String.utf8EncodeChar c ++ replaceHalves rest := by
  have hvalid : c.toNat < 0xD800 ∨ (0xDFFF < c.toNat ∧ c.toNat < 0x110000) := c.valid
  have hval : c.val.toNat = c.toNat := rfl
  have hhalf : (0xED : UInt8).toNat = 0xED := rfl
  unfold String.utf8EncodeChar
  rw [hval]
  generalize c.toNat = n at hvalid
  dsimp only
  split_ifs with h1 h2 h3
  · refine replaceHalves_append (fun b hb => ?_) rest
    rw [List.mem_singleton] at hb
    exact hb ▸ ofNat_ne (by omega) (by omega)
  · refine replaceHalves_append (fun b hb => ?_) rest
    simp only [List.mem_cons, List.not_mem_nil, or_false] at hb
    rcases hb with rfl | rfl <;> exact ofNat_ne (by omega) (by omega)
  · by_cases hfirst : n / 4096 % 16 + 224 = 0xED
    · -- a character that begins like half a pair is none, so its second byte is smaller
      have hsecond : (UInt8.ofNat (n / 64 % 64 + 128)).toNat < 0xA0 := by
        have hlt : n / 64 % 64 + 128 < 256 := by omega
        rw [UInt8.toNat_ofNat_of_lt' hlt]
        omega
      rw [hfirst]
      exact replaceHalves_of_lt hsecond (ofNat_ne (by omega) (by omega)) rest
    · refine replaceHalves_append (fun b hb => ?_) rest
      simp only [List.mem_cons, List.not_mem_nil, or_false] at hb
      rcases hb with rfl | rfl | rfl <;> exact ofNat_ne (by omega) (by omega)
  · refine replaceHalves_append (fun b hb => ?_) rest
    simp only [List.mem_cons, List.not_mem_nil, or_false] at hb
    rcases hb with rfl | rfl | rfl | rfl <;> exact ofNat_ne (by omega) (by omega)

theorem replaceHalves_encode (s : String) : replaceHalves (encode s) = encode s := by
  rw [encode_eq]
  induction s.toList with
  | nil => rfl
  | cons c cs ih => rw [List.flatMap_cons, replaceHalves_utf8EncodeChar, ih]

end Utf8

namespace Charset

/-- Bytes that begin with a character of ASCII, and do not go on with a zero, are taken for UTF-8. -/
theorem ofJson_cons {a b : UInt8} (ha : 0 < a ∧ a < 0x80) (hb : b ≠ 0) (rest : List UInt8) :
    ofJson (a :: b :: rest) = .utf8 := by
  have hmarks : a ≠ 0 ∧ a ≠ 0xFF ∧ a ≠ 0xFE ∧ a ≠ 0xEF := by
    refine ⟨?_, ?_, ?_, ?_⟩ <;> rintro rfl <;> exact absurd ha (by decide)
  obtain ⟨h0, hFF, hFE, hEF⟩ := hmarks
  have h32 : Wide.mark32? (a :: b :: rest) = none := by
    unfold Wide.mark32?
    split <;> simp_all
  have h16 : Wide.mark16? (a :: b :: rest) = none := by
    unfold Wide.mark16?
    split <;> simp_all
  have h8 : utf8Mark.isPrefixOf (a :: b :: rest) = false := by
    simp [utf8Mark, List.isPrefixOf, hEF.symm]
  simp only [ofJson, h32, h16, h8, Option.isSome_none, Bool.false_eq_true, if_false]
  -- neither of the first two bytes is zero, on which every other charset depends
  split <;> simp_all

theorem decodeJson?_encode {s : String} (h : ofJson (Utf8.encode s) = .utf8) :
    decodeJson? (Utf8.encode s) = some s.toList := by
  have hitems : Utf8.items 0 0 (Utf8.encode s) = s.toList.map .ok :=
    Utf8.items_eq_iff.mpr (Utf8.encode_eq s).symm
  rw [decodeJson?, h]
  have hall (cs : List Char) : (cs.map some).mapM id = some cs := by
    induction cs with
    | nil => rfl
    | cons c cs ih => simp [ih]
  simp only [Utf8.replaceHalves_encode, decode?, plainChars?, utf8Chars, hitems, Option.bind_some,
    List.map_map]
  exact hall s.toList

end Charset

/-- **An object is what the bytes of its text are read as**, if it is read back from the text. -/
theorem Http.jsonOfBody_encode {members : List (String × Json)} (h : Json.ReadsBack maxDepth (.obj members)) :
    jsonOfBody (Utf8.encode ((Json.obj members).write .compact)) = .ok (.obj members) := by
  obtain ⟨d, rest, hspelling, hd⟩ : ∃ d rest, Json.spelling (.obj members) = '\x7b' :: d :: rest ∧
      (d = '"' ∨ d = '\x7d') := by
    rw [Json.spelling_obj]
    cases members with
    | nil => exact ⟨_, _, rfl, .inr rfl⟩
    | cons m members =>
        obtain ⟨cs, hcs⟩ := Json.exists_membersSpelling m members
        rw [hcs]
        exact ⟨_, _, rfl, .inl rfl⟩
  have hutf8 : Charset.ofJson (Utf8.encode ((Json.obj members).write .compact)) = .utf8 := by
    rw [Utf8.encode_eq]
    show Charset.ofJson ((Json.spelling (.obj members)).flatMap String.utf8EncodeChar) = .utf8
    rw [hspelling, List.flatMap_cons, List.flatMap_cons]
    rcases hd with rfl | rfl
    · exact Charset.ofJson_cons (by decide) (by decide) _
    · exact Charset.ofJson_cons (by decide) (by decide) _
  rw [jsonOfBody, Charset.decodeJson?_encode hutf8]
  exact Json.parse_spelling h

end FeatureFlags
