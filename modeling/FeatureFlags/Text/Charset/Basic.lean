import FeatureFlags.Text.Utf8

/-!
# `FeatureFlags.Text.Charset.Basic` — reading bytes piece by piece

An encoding says what the first bytes of some data spell and how many bytes that takes.  Bytes that
spell nothing are a flaw.  The last bytes of data may be the beginning of a character; together they
are one flaw.
-/

namespace FeatureFlags

namespace Charset

/-- What the first bytes of data spell, where none is a flaw, and how many bytes that takes. -/
structure Chunk where
  chars : List (Option Char)
  size : Nat
  /-- Whether the data ends before the character does. -/
  isShort : Bool := false

namespace Chunk

/-- A character. -/
def char (c : Char) (size : Nat) : Chunk := ⟨[some c], size, false⟩

/-- The character with a code point; half of a pair is replaced. -/
def code (n : Nat) (size : Nat) : Chunk :=
  char (if n.isValidChar then Char.ofNat n else Utf8.replacement) size

/-- A flaw. -/
def flaw (size : Nat) : Chunk := ⟨[none], size, false⟩

/-- Data that ends before the character does. -/
def short (bytes : List Nat) : Chunk := ⟨[none], bytes.length, true⟩

/-- A character, or a flaw of one byte if there is none. -/
def ofChar? (c : Option Char) (size : Nat) : Chunk :=
  match c with
  | some c => char c size
  | none => flaw 1

end Chunk

/-- What data spells. -/
structure Spelling where
  chars : List (Option Char)
  /-- How many bytes at the end are the beginning of a character. -/
  unfinished : Nat := 0

namespace Spelling

/-- Reads chunks one after the other, onto what was read before in reverse.  The first argument
bounds the number of chunks. -/
def read {σ : Type} (step : σ → List Nat → Chunk × σ) :
    Nat → σ → List (Option Char) → List Nat → Spelling
  | 0, _, done, _ => ⟨done.reverse, 0⟩
  | _ + 1, _, done, [] => ⟨done.reverse, 0⟩
  | fuel + 1, s, done, bytes =>
    let (chunk, s) := step s bytes
    let done := chunk.chars.reverse ++ done
    if chunk.isShort then ⟨done.reverse, chunk.size⟩
    else read step fuel s done (bytes.drop (max 1 chunk.size))

/-- What data spells in an encoding whose state goes from chunk to chunk. -/
def ofSteps {σ : Type} (step : σ → List Nat → Chunk × σ) (s : σ) (bytes : List Nat) : Spelling :=
  read step bytes.length s [] bytes

/-- What data spells in an encoding without a state. -/
def ofChunks (step : List Nat → Chunk) (bytes : List Nat) : Spelling :=
  ofSteps (fun (_ : Unit) bytes => (step bytes, ())) () bytes

end Spelling

/-- What the code of a single character stands for. -/
def single (c : Option Char) : Option (List (Option Char)) := c.map fun c => [some c]

/-- The code of two bytes. -/
def pairCode (a b : Nat) : Nat := 256 * a + b

/-- The code of two bytes without their highest bits, which must be set. -/
def highPair? (a b : Nat) : Option Nat :=
  if 0x80 ≤ a ∧ 0x80 ≤ b then some (pairCode (a - 0x80) (b - 0x80)) else none

end Charset

end FeatureFlags
