import FeatureFlags.Deflate.PrefixCode

/-!
# `FeatureFlags.Deflate.Inflate` — the blocks of compressed data

Compressed data is a sequence of blocks, the last of which says so.  A block is stored as it is, or
is written in two codes: one for bytes, for lengths and for the end of the block, the other for the
distances that follow lengths.  A length and a distance stand for bytes that have been put out
before.  The codes are fixed ones or stand at the beginning of the block.

## Contents

1. Lengths and distances
2. The bytes of a block
3. The codes of a block
4. Blocks
-/

namespace FeatureFlags

namespace Deflate

/-! ## Lengths and distances -/

/-- The smallest value that a symbol stands for, and how many bits follow that tell it. -/
abbrev Span := Nat × Nat

/-- The spans of the symbols for lengths. -/
def lengthSpans : Array Span :=
  #[(3, 0), (4, 0), (5, 0), (6, 0), (7, 0), (8, 0), (9, 0), (10, 0), (11, 1), (13, 1), (15, 1),
    (17, 1), (19, 2), (23, 2), (27, 2), (31, 2), (35, 3), (43, 3), (51, 3), (59, 3), (67, 4),
    (83, 4), (99, 4), (115, 4), (131, 5), (163, 5), (195, 5), (227, 5), (258, 0)]

/-- The spans of the symbols for distances. -/
def distanceSpans : Array Span :=
  #[(1, 0), (2, 0), (3, 0), (4, 0), (5, 1), (7, 1), (9, 2), (13, 2), (17, 3), (25, 3), (33, 4),
    (49, 4), (65, 5), (97, 5), (129, 6), (193, 6), (257, 7), (385, 7), (513, 8), (769, 8),
    (1025, 9), (1537, 9), (2049, 10), (3073, 10), (4097, 11), (6145, 11), (8193, 12), (12289, 12),
    (16385, 13), (24577, 13)]

/-- The symbol for the end of a block; bytes come before it and lengths after it. -/
def endSymbol : Nat := 256

/-- The two codes of a block. -/
structure Codes where
  literals : PrefixCode
  distances : PrefixCode

/-- The codes of the blocks that bring none. -/
def fixedCodes : Codes where
  literals := .ofLengths (List.replicate 144 8 ++ List.replicate 112 9 ++ List.replicate 24 7 ++
    List.replicate 8 8)
  distances := .ofLengths (List.replicate 32 5)

namespace Read

/-! ## The bytes of a block -/

/-- Reads the value in the span of a symbol. -/
def inSpan (span : Span) : Read Nat := return span.1 + (← bits span.2)

/-- Reads a distance and puts bytes out again. -/
def matched (codes : Codes) (lengthSpan : Span) : Read Unit := do
  let length ← inSpan lengthSpan
  match (← codes.distances.symbol?).bind (distanceSpans[·]?) with
  | none => fail .distanceSymbol
  | some span =>
    let distance ← inSpan span
    if (← get).output.size < distance then fail .distance
    copyBack distance length

/-- Reads the bytes of a block up to its end. -/
def content (codes : Codes) : Nat → Read Unit
  | 0 => throw .incomplete
  | fuel + 1 => do
    match ← codes.literals.symbol? with
    | none => fail .literalSymbol
    | some symbol =>
      if symbol = endSymbol then return ()
      if symbol < endSymbol then put (UInt8.ofNat symbol)
      else
        match lengthSpans[symbol - endSymbol - 1]? with
        | none => fail .literalSymbol
        | some span => matched codes span
      content codes fuel

/-- Reads a block that is stored as it is. -/
def stored : Read Unit := do
  align
  let length ← bits 16
  let inverse ← bits 16
  if length + inverse ≠ 0xFFFF then fail .storedLength
  copyInput length

/-! ## The codes of a block -/

/-- The order in which the lengths of the code words for lengths are given. -/
def lengthOrder : List Nat := [16, 17, 18, 0, 8, 7, 9, 6, 10, 5, 11, 4, 12, 3, 13, 2, 14, 1, 15]

/-- Reads the code in which the lengths of code words are written. -/
def lengthCode (count : Nat) : Read PrefixCode := do
  let given ← (lengthOrder.take count).mapM fun symbol => return (symbol, ← bits 3)
  let code := PrefixCode.ofLengths ((List.range 19).map fun symbol => (given.lookup symbol).getD 0)
  if code.isValid false then return code else fail .lengthCode

/-- Reads how often a length is repeated; a length that is no repetition stands for itself. -/
def lengthRun (symbol : Nat) (last : Option Nat) : Read (Nat × Nat) := do
  match symbol with
  | 16 =>
    let count ← bits 2
    match last with
    | some length => return (length, 3 + count)
    | none => fail .repetition
  | 17 => return (0, 3 + (← bits 3))
  | 18 => return (0, 11 + (← bits 7))
  | length => return (length, 1)

/-- Reads lengths of code words, as many as are wanted, onto those read before in reverse.  Where
the code has no code words, every bit stands for a length of zero. -/
def lengths (code : PrefixCode) : Nat → Nat → List Nat → Read (List Nat)
  | 0, _, _ => throw .incomplete
  | fuel + 1, wanted, done => do
    if wanted = 0 then return done.reverse
    let (length, count) ← lengthRun ((← code.symbol?).getD 0) done.head?
    if wanted < count then fail .repetition
    lengths code fuel (wanted - count) (List.replicate count length ++ done)

/-- Reads the codes of a block. -/
def codes : Read Codes := do
  let literalCount := 257 + (← bits 5)
  let distanceCount := 1 + (← bits 5)
  let lengthCount := 4 + (← bits 4)
  if 286 < literalCount ∨ 30 < distanceCount then fail .tooManySymbols
  let code ← lengthCode lengthCount
  let wanted := literalCount + distanceCount
  let all ← lengths code (wanted + 1) wanted []
  if all[endSymbol]?.getD 0 = 0 then fail .noEndSymbol
  let literals := PrefixCode.ofLengths (all.take literalCount)
  if !literals.isValid true then fail .literalCode
  let distances := PrefixCode.ofLengths (all.drop literalCount)
  if !distances.isValid true then fail .distanceCode
  return ⟨literals, distances⟩

/-! ## Blocks -/

/-- Reads a block and tells whether it is the last one. -/
def block : Read Bool := do
  let last ← bits 1
  match ← bits 2 with
  | 0 => stored
  | 1 => content fixedCodes ((← get).size + 1)
  | 2 => content (← codes) ((← get).size + 1)
  | _ => fail .blockKind
  return last = 1

/-- Reads blocks up to the last one. -/
def blocks : Nat → Read Unit
  | 0 => throw .incomplete
  | fuel + 1 => do if !(← block) then blocks fuel

end Read

end Deflate

end FeatureFlags
