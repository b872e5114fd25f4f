import FeatureFlags.Net.Punycode
import FeatureFlags.Text.Charset.CodePage
import FeatureFlags.Text.Charset.Escaped
import FeatureFlags.Text.Charset.Multibyte
import FeatureFlags.Text.Charset.Name
import FeatureFlags.Text.Charset.Utf7
import FeatureFlags.Text.Charset.Wide

/-!
# `FeatureFlags.Text.Charset` — the encodings that bytes may be in

An encoding says which text bytes spell.  A strict reading fails at the first flaw; a lenient one
puts one replacement character in the place of each.  There are encodings that cannot be read in
the lenient way, and codings that are none of text at all: for them a lenient reading is a fault.

## Contents

1. Charsets
2. Faults
3. What bytes spell
4. Strict and lenient reading
5. Which charset JSON is in
-/

namespace FeatureFlags

/-! ## Charsets -/

/-- An encoding of text. -/
inductive Charset where
  | utf8
  /-- UTF-8 behind a mark that is no part of the text. -/
  | markedUtf8
  | utf7
  | utf16 (order : ByteOrder)
  | utf32 (order : ByteOrder)
  /-- UTF-16 whose byte order a mark tells. -/
  | markedUtf16
  /-- UTF-32 whose byte order a mark tells. -/
  | markedUtf32
  | ascii
  | latin1
  | page (p : Charset.CodePage)
  | multibyte (m : Charset.Multibyte)
  | escaped
  | rawEscaped
  | punycode
  /-- The domain names in ASCII, which are read strictly or not at all. -/
  | domain
  /-- The encoding in which there is no text. -/
  | undefined
  /-- A coding of texts as texts, which bytes are not. -/
  | rotated
  /-- A coding of bytes as bytes. -/
  | bytes

namespace Charset

/-- The charsets that are neither code pages nor encodings of several bytes, by name. -/
def names : List (String × Charset) :=
  [("utf_8", .utf8), ("utf_8_sig", .markedUtf8), ("utf_7", .utf7), ("utf_16", .markedUtf16),
    ("utf_16_be", .utf16 .big), ("utf_16_le", .utf16 .little), ("utf_32", .markedUtf32),
    ("utf_32_be", .utf32 .big), ("utf_32_le", .utf32 .little), ("ascii", .ascii),
    ("latin_1", .latin1), ("charmap", .latin1), ("unicode_escape", .escaped),
    ("raw_unicode_escape", .rawEscaped), ("punycode", .punycode), ("idna", .domain),
    ("undefined", .undefined), ("rot_13", .rotated), ("base64_codec", .bytes),
    ("bz2_codec", .bytes), ("hex_codec", .bytes), ("quopri_codec", .bytes), ("uu_codec", .bytes),
    ("zlib_codec", .bytes)]

/-- The charset with a name. -/
def named? (name : String) : Option Charset := do
  let name ← Name.canonical? name
  names.lookup name <|> (Multibyte.names.lookup name).map .multibyte <|>
    (CodePage.named? name).map .page

/-! ## Faults -/

/-- Why bytes cannot be read in the lenient way. -/
inductive Fault where
  /-- There is no mark at the beginning of UTF-16. -/
  | unmarked16
  /-- There is no mark at the beginning of UTF-32. -/
  | unmarked32
  /-- Too many bytes at the end wait for the rest of a character. -/
  | unfinished
  /-- A byte outside ASCII stands where digits are expected. -/
  | notAscii (byte position : Nat)
  /-- The charset knows strict reading only. -/
  | strictOnly
  | undefined
  | rotated
  | bytes
  deriving DecidableEq

/-- The sorts of faults. -/
inductive FaultSort where
  /-- The bytes are not in the charset. -/
  | charset
  /-- A byte is not in ASCII. -/
  | byte
  /-- The operation is none for bytes. -/
  | type
  /-- The coding cannot be used so. -/
  | misuse
  deriving DecidableEq

namespace Fault

/-- The sort of a fault. -/
def sort : Fault → FaultSort
  | .notAscii .. => .byte
  | .rotated => .type
  | .bytes => .misuse
  | _ => .charset

/-- The wording of a fault. -/
def message : Fault → String
  | .unmarked16 => "UTF-16 stream does not start with BOM"
  | .unmarked32 => "UTF-32 stream does not start with BOM"
  | .unfinished => "pending buffer overflow"
  | .notAscii byte position =>
    "'ascii' codec can't decode byte 0x" ++ String.ofList (Text.hexDigits 2 byte) ++
      " in position " ++ toString position ++ ": ordinal not in range(128)"
  | .strictOnly => "Unsupported error handling replace"
  | .undefined => "undefined encoding"
  | .rotated => "descriptor 'translate' for 'str' objects doesn't apply to a 'bytes' object"
  | .bytes => ""

end Fault

/-! ## What bytes spell -/

/-- The character with a code point, if there is one. -/
def char? (n : Nat) : Option Char := if n.isValidChar then some (Char.ofNat n) else none

/-- The character with a code point; half of a pair is replaced. -/
def wholeChar (n : Nat) : Char := (char? n).getD Utf8.replacement

/-- What bytes spell in UTF-8. -/
def utf8Chars (bytes : List UInt8) : List (Option Char) :=
  (Utf8.items 0 0 bytes).map Except.toOption

/-- The bytes in front of which a mark may stand. -/
def utf8Mark : List UInt8 := [0xEF, 0xBB, 0xBF]

/-- UTF-8 without the mark in front of it. -/
def afterUtf8Mark (bytes : List UInt8) : List UInt8 :=
  if utf8Mark.isPrefixOf bytes then bytes.drop utf8Mark.length else bytes

/-- What bytes spell in UTF-16. -/
def chars16 (order : ByteOrder) (bytes : List UInt8) : List (Option Char) :=
  (Wide.codes16 order bytes).map (·.bind char?)

/-- What bytes spell in UTF-32. -/
def chars32 (order : ByteOrder) (bytes : List UInt8) : List (Option Char) :=
  (Wide.codes32 order bytes).map (·.bind char?)

/-- What bytes spell in ASCII. -/
def asciiChars (bytes : List UInt8) : List (Option Char) :=
  bytes.map fun b => if b < 0x80 then char? b.toNat else none

/-- What bytes spell, where no mark is needed and strict reading does not differ. -/
def plainChars? (charset : Charset) (bytes : List UInt8) : Option (List (Option Char)) :=
  let numbers := bytes.map UInt8.toNat
  match charset with
  | .utf8 => some (utf8Chars bytes)
  | .markedUtf8 => some (utf8Chars (afterUtf8Mark bytes))
  | .utf7 => some (Utf7.chars numbers)
  | .utf16 order => some (chars16 order bytes)
  | .utf32 order => some (chars32 order bytes)
  | .ascii => some (asciiChars bytes)
  | .latin1 => some (numbers.map char?)
  | .page p => some (numbers.map p.char?)
  | .multibyte m => some (m.spelling numbers).chars
  | .escaped => some (Spelling.ofChunks Escaped.escaped numbers).chars
  | .rawEscaped => some (Spelling.ofChunks Escaped.raw numbers).chars
  | _ => none

/-! ## Strict and lenient reading -/

/-- The text that bytes spell, if they spell one.  Without a mark, the lower byte of a unit comes
first. -/
def decode? (charset : Charset) (bytes : List UInt8) : Option (List Char) :=
  match charset with
  | .markedUtf16 =>
    let (order, bytes) := (Wide.mark16? bytes).getD (.little, bytes)
    (chars16 order bytes).mapM id
  | .markedUtf32 =>
    let (order, bytes) := (Wide.mark32? bytes).getD (.little, bytes)
    (chars32 order bytes).mapM id
  | .punycode => do
    let codes ← Punycode.decode? (← (asciiChars bytes).mapM id)
    codes.mapM char?
  | .domain => (asciiChars bytes).mapM id
  | _ => (charset.plainChars? bytes).bind fun chars => chars.mapM id

/-- A text with a replacement character for each flaw. -/
def lenient (chars : List (Option Char)) : String :=
  String.ofList (chars.map fun c => c.getD Utf8.replacement)

/-- The text that bytes spell in Punycode, as far as they do.  Bytes outside ASCII in front of the
digits are replaced. -/
def lenientPunycode (bytes : List UInt8) : Except Fault String :=
  let after := (bytes.reverse.takeWhile (· ≠ 0x2D)).reverse
  let before := (bytes.take (bytes.length - after.length)).dropLast
  match after.findIdx? (0x80 ≤ ·) with
  | some i => .error (.notAscii (after[i]?.getD 0).toNat i)
  | none =>
    let basic := (asciiChars before).map fun c => (c.getD Utf8.replacement).toNat
    let digits := after.map fun b => Char.ofNat b.toNat
    let (codes, _) := Punycode.readCodes (some '?'.toNat) { output := basic } digits
    .ok (String.ofList (codes.map wholeChar))

/-- The text that bytes spell, with a replacement character for what spells none.  The beginning of
a mark is no text. -/
def decodeLossy (charset : Charset) (bytes : List UInt8) : Except Fault String :=
  match charset with
  | .markedUtf8 =>
    if bytes.isPrefixOf utf8Mark then .ok ""
    else .ok (lenient (utf8Chars (afterUtf8Mark bytes)))
  | .markedUtf16 =>
    match Wide.mark16? bytes with
    | some (order, bytes) => .ok (lenient (chars16 order bytes))
    | none => if bytes.length < 2 then .ok (lenient (chars16 .little bytes)) else .error .unmarked16
  | .markedUtf32 =>
    match Wide.mark32? bytes with
    | some (order, bytes) => .ok (lenient (chars32 order bytes))
    | none => if bytes.length < 4 then .ok (lenient (chars32 .little bytes)) else .error .unmarked32
  | .multibyte m =>
    let spelling := m.spelling (bytes.map UInt8.toNat)
    if Multibyte.maxUnfinished < spelling.unfinished then .error .unfinished
    else .ok (lenient spelling.chars)
  | .punycode => lenientPunycode bytes
  | .domain => .error .strictOnly
  | .undefined => .error .undefined
  | .rotated => .error .rotated
  | .bytes => .error .bytes
  | _ => .ok (lenient ((charset.plainChars? bytes).getD []))

/-! ## Which charset JSON is in -/

/-- The charset of a JSON text.  A mark at the beginning tells it; without a mark, the places of
zeros among the first bytes do, for a JSON text begins with ASCII. -/
def ofJson (bytes : List UInt8) : Charset :=
  if (Wide.mark32? bytes).isSome then .markedUtf32
  else if (Wide.mark16? bytes).isSome then .markedUtf16
  else if utf8Mark.isPrefixOf bytes then .markedUtf8
  else
    match bytes with
    | [0, _] => .utf16 .big
    | [_, 0] => .utf16 .little
    | a :: b :: c :: d :: _ =>
      if a = 0 then if b = 0 then .utf32 .big else .utf16 .big
      else if b = 0 then if c = 0 && d = 0 then .utf32 .little else .utf16 .little
      else .utf8
    | _ => .utf8

/-- The characters of code points, among which halves of pairs are replaced. -/
def wholeChars? (codes : List (Option Nat)) : Option (List Char) :=
  codes.mapM fun code => code.map wholeChar

/-- The text of JSON, if the bytes spell one, in which halves of pairs may stand alone. -/
def decodeJson? (bytes : List UInt8) : Option (List Char) :=
  match ofJson bytes with
  | .utf16 order => wholeChars? (Wide.codes16 order bytes)
  | .utf32 order => wholeChars? (Wide.codes32 order bytes)
  | .markedUtf16 =>
    (Wide.mark16? bytes).bind fun (order, bytes) => wholeChars? (Wide.codes16 order bytes)
  | .markedUtf32 =>
    (Wide.mark32? bytes).bind fun (order, bytes) => wholeChars? (Wide.codes32 order bytes)
  | charset => charset.decode? (Utf8.replaceHalves bytes)

end Charset

end FeatureFlags
