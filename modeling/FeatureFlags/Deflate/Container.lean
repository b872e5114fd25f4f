import FeatureFlags.Deflate.Inflate
import FeatureFlags.Digest.Adler32
import FeatureFlags.Digest.Crc32

/-!
# `FeatureFlags.Deflate.Container` — what compressed data is wrapped in

Compressed data stands alone, or between a header and a check of what it puts out.  There are two
such wrappings: the one of files, `gzip`, and the one of streams, `zlib`.  Data that breaks off
gives what can be read of it, and what follows the end of data is left alone.
-/

namespace FeatureFlags

namespace Deflate

/-- What compressed data is wrapped in. -/
inductive Container where
  | none
  | gzip
  | zlib
  deriving DecidableEq

namespace Read

/-- Reads compressed data. -/
def data : Read Unit := do
  blocks ((← get).size + 1)
  align

/-! ## The wrapping of files -/

/-- Reads bytes up to a zero. -/
def skipText : Nat → Read Unit
  | 0 => throw .incomplete
  | fuel + 1 => do if (← bits 8) ≠ 0 then skipText fuel

/-- Skips the given number of bytes. -/
def skip : Nat → Read Unit
  | 0 => return ()
  | n + 1 => do
    let _ ← bits 8
    skip n

/-- Reads the header of a file.  Its flags tell which of its parts are there. -/
def gzipHeader : Read Unit := do
  if (← bits 16) ≠ 0x8B1F then fail .header
  let flags ← bits 16
  if flags % 256 ≠ 8 then fail .method
  if flags.testBit 13 || flags.testBit 14 || flags.testBit 15 then fail .flags
  let _ ← bits 48
  if flags.testBit 10 then skip (← bits 16)
  let size := (← get).size
  if flags.testBit 11 then skipText (size + 1)
  if flags.testBit 12 then skipText (size + 1)
  if flags.testBit 9 then
    let r ← get
    let check := Crc32.check (r.input.toList.take (r.place / 8))
    if (← bits 16) ≠ check % 65536 then fail .headerCheck

/-- Reads what follows the data of a file. -/
def gzipTrailer : Read Unit := do
  let output := (← get).output
  if (← bits 32) ≠ Crc32.check output.toList then fail .check
  if (← bits 32) ≠ output.size % 0x100000000 then fail .length

/-! ## The wrapping of streams -/

/-- Reads the header of a stream. -/
def zlibHeader : Read Unit := do
  let first ← bits 8
  let second ← bits 8
  if (256 * first + second) % 31 ≠ 0 then fail .header
  if first % 16 ≠ 8 then fail .method
  if 7 < first / 16 then fail .window
  if second.testBit 5 then
    let _ ← bits 32
    fail .dictionary

/-- Reads a number of four bytes, the highest one first. -/
def number32 : Read Nat := do
  let high ← bits 8
  let upper ← bits 8
  let lower ← bits 8
  return ((high * 256 + upper) * 256 + lower) * 256 + (← bits 8)

/-- Reads what follows the data of a stream. -/
def zlibTrailer : Read Unit := do
  if (← number32) ≠ Adler32.check (← get).output.toList then fail .check

/-- Reads wrapped data. -/
def container : Container → Read Unit
  | .none => data
  | .gzip => do
    gzipHeader
    data
    gzipTrailer
  | .zlib => do
    zlibHeader
    data
    zlibTrailer

end Read

/-- What wrapped data puts out. -/
def decompress (container : Container) (bytes : List UInt8) : Except Fault (List UInt8) :=
  match (Read.container container).run.run { input := bytes.toArray } with
  | (.error (.fault f), _) => .error f
  | (_, r) => .ok r.output.toList

end Deflate

end FeatureFlags
