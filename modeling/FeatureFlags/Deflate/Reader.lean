/-!
# `FeatureFlags.Deflate.Reader` — reading compressed data bit by bit

Compressed data is a sequence of bits, the lowest bit of a byte first.  Reading it ends early for
one of two reasons: the data is at fault, or more of it is needed.  What was put out until then
remains. -/

namespace FeatureFlags

namespace Deflate

/-- What is wrong with compressed data. -/
inductive Fault where
  | header
  | method
  | window
  | flags
  | headerCheck
  | blockKind
  | storedLength
  | tooManySymbols
  | lengthCode
  | repetition
  | noEndSymbol
  | literalCode
  | distanceCode
  | literalSymbol
  | distanceSymbol
  | distance
  | check
  | length
  /-- A dictionary is asked for, and there is none. -/
  | dictionary
  deriving DecidableEq

namespace Fault

/-- What a fault is called. -/
def name : Fault → String
  | .header => "incorrect header check"
  | .method => "unknown compression method"
  | .window => "invalid window size"
  | .flags => "unknown header flags set"
  | .headerCheck => "header crc mismatch"
  | .blockKind => "invalid block type"
  | .storedLength => "invalid stored block lengths"
  | .tooManySymbols => "too many length or distance symbols"
  | .lengthCode => "invalid code lengths set"
  | .repetition => "invalid bit length repeat"
  | .noEndSymbol => "invalid code -- missing end-of-block"
  | .literalCode => "invalid literal/lengths set"
  | .distanceCode => "invalid distances set"
  | .literalSymbol => "invalid literal/length code"
  | .distanceSymbol => "invalid distance code"
  | .distance => "invalid distance too far back"
  | .check => "incorrect data check"
  | .length => "incorrect length check"
  | .dictionary => ""

/-- The wording of a fault. -/
def message : Fault → String
  | .dictionary => "Error 2 while decompressing data"
  | fault => "Error -3 while decompressing data: " ++ fault.name

end Fault

/-- Why reading ends early. -/
inductive Stop where
  | fault (f : Fault)
  /-- The data goes on beyond its end. -/
  | incomplete
  deriving DecidableEq

/-- How far the reading of compressed data has come. -/
structure Reading where
  input : Array UInt8
  /-- How many bits have been read. -/
  place : Nat := 0
  /-- What has been put out. -/
  output : Array UInt8 := #[]

namespace Reading

/-- How many bits there are. -/
def size (r : Reading) : Nat := 8 * r.input.size

end Reading

/-- A step of reading; what it has put out remains when it ends early. -/
abbrev Read := ExceptT Stop (StateM Reading)

namespace Read

/-- Ends because of a fault. -/
def fail {α : Type} (f : Fault) : Read α := throw (.fault f)

/-- A bit of data. -/
def bitAt (input : Array UInt8) (place : Nat) : Nat :=
  ((input[place / 8]?.getD 0).toNat >>> (place % 8)) &&& 1

/-- The number that some bits give, the lowest one first. -/
def number (input : Array UInt8) (place : Nat) : Nat → Nat
  | 0 => 0
  | n + 1 => bitAt input place + 2 * number input (place + 1) n

/-- Reads a number of the given count of bits. -/
def bits (n : Nat) : Read Nat := do
  let r ← get
  if r.place + n ≤ r.size then
    set { r with place := r.place + n }
    return number r.input r.place n
  else throw .incomplete

/-- Skips the rest of a byte. -/
def align : Read Unit := modify fun r => { r with place := (r.place + 7) / 8 * 8 }

/-- Puts a byte out. -/
def put (b : UInt8) : Read Unit := modify fun r => { r with output := r.output.push b }

/-- Puts the bytes out that follow, as many as asked for. -/
def copyInput (count : Nat) : Read Unit := do
  let r ← get
  let first := r.place / 8
  let last := min (first + count) r.input.size
  set { r with place := 8 * last, output := r.output ++ r.input.extract first last }
  if last < first + count then throw .incomplete

/-- Puts bytes out again that lie the given distance back. -/
def copyBack (distance : Nat) : Nat → Read Unit
  | 0 => return ()
  | count + 1 => do
    modify fun r =>
      let b := r.output[r.output.size - distance]?.getD 0
      { r with output := r.output.push b }
    copyBack distance count

end Read

end Deflate

end FeatureFlags
