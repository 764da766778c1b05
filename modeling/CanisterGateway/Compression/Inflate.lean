import CanisterGateway.Bytes.Basic

/-!
# Compressed bodies

Reads the compressed format of blocks, each stored as it is or coded with canonical prefix codes for
literals, lengths and distances. Bits are taken from the lowest bit of a byte up, the bits of a code
from its most significant one down.

Every symbol takes at least one bit, so the number of input bits bounds the work. A stream that ends
early keeps what was read of it: that is for the caller to judge.
-/

namespace CanisterGateway.Compression

/-- Why reading stops before the last block is complete. -/
inductive Halt
  | truncated
  | corrupt
  deriving DecidableEq

/-- The input that is left, the number of bits already taken from its first byte, and the output so
far. -/
structure Progress where
  input : Bytes
  taken : Nat
  output : Array UInt8

/-- A reading step, which keeps its progress when it halts. -/
abbrev Step (α : Type) := EStateM Halt Progress α

namespace Step

/-- The next bit. -/
def bit : Step Bool := do
  let s ← get
  match s.input with
  | [] => throw .truncated
  | b :: rest =>
    set (if s.taken = 7 then { s with input := rest, taken := 0 }
      else { s with taken := s.taken + 1 })
    return b.toNat.testBit s.taken

/-- A number of so many bits, lowest first. -/
def bits : (count : Nat) → Step Nat
  | 0 => return 0
  | count + 1 => do
    let low ← bit
    let high ← bits count
    return low.toNat + 2 * high

/-- Drops the bits up to the next byte. -/
def align : Step Unit :=
  modify fun s => if s.taken = 0 then s else { s with input := s.input.drop 1, taken := 0 }

/-- The next byte, after `align`. -/
def byte : Step UInt8 := do
  let s ← get
  match s.input with
  | [] => throw .truncated
  | b :: rest => do
    set { s with input := rest }
    return b

def emit (b : UInt8) : Step Unit :=
  modify fun s => { s with output := s.output.push b }

/-- Copies bytes of the input. -/
def copyInput : (count : Nat) → Step Unit
  | 0 => return ()
  | count + 1 => do
    emit (← byte)
    copyInput count

/-- Repeats output from a distance back. -/
def copyOutput (distance : Nat) : (count : Nat) → Step Unit
  | 0 => return ()
  | count + 1 => do
    let s ← get
    if distance > s.output.size then throw .corrupt
    emit (s.output[s.output.size - distance]?.getD 0)
    copyOutput distance count

end Step

/-! ## Prefix codes -/

/-- A canonical prefix code: how many codes there are of each length, and the symbols in the order
of their codes. -/
structure PrefixCode where
  counts : List Nat
  symbols : Array Nat

namespace PrefixCode

/-- The code in which each symbol has the length that stands at its place, zero for none. -/
def ofLengths (lengths : List Nat) : PrefixCode where
  counts := (List.range 15).map fun i => lengths.count (i + 1)
  symbols := ((List.range 15).flatMap fun i =>
    (lengths.zipIdx.filter (·.1 = i + 1)).map (·.2)).toArray

/-- How many codes of the longest length are left over, negative if there are too many codes. -/
def room (code : PrefixCode) : Int :=
  code.counts.foldl (fun (left : Int) (count : Nat) => 2 * left - count) 1

/-- A code must leave nothing over, unless it has at most one symbol. -/
def isAdmissible (code : PrefixCode) : Bool :=
  code.room = 0 || (code.symbols.size ≤ 1 && code.room > 0)

/-- Reads a symbol: `value` is the code so far, `first` the first code of its length and `index` the
number of symbols with shorter codes. -/
def readFrom (symbols : Array Nat) : (counts : List Nat) → (value first index : Nat) → Step Nat
  | [], _, _, _ => throw .corrupt
  | count :: counts, value, first, index => do
    let value := 2 * value + (← Step.bit).toNat
    let first := 2 * first
    if value < first + count then
      return symbols[index + (value - first)]?.getD 0
    else readFrom symbols counts value (first + count) (index + count)

def read (code : PrefixCode) : Step Nat :=
  readFrom code.symbols code.counts 0 0 0

end PrefixCode

/-! ## Blocks -/

/-- Base and number of extra bits of the length symbols from 257 on. -/
def lengthTable : Array (Nat × Nat) := #[
  (3, 0), (4, 0), (5, 0), (6, 0), (7, 0), (8, 0), (9, 0), (10, 0), (11, 1), (13, 1), (15, 1),
  (17, 1), (19, 2), (23, 2), (27, 2), (31, 2), (35, 3), (43, 3), (51, 3), (59, 3), (67, 4), (83, 4),
  (99, 4), (115, 4), (131, 5), (163, 5), (195, 5), (227, 5), (258, 0)]

/-- Base and number of extra bits of the distance symbols. -/
def distanceTable : Array (Nat × Nat) := #[
  (1, 0), (2, 0), (3, 0), (4, 0), (5, 1), (7, 1), (9, 2), (13, 2), (17, 3), (25, 3), (33, 4),
  (49, 4), (65, 5), (97, 5), (129, 6), (193, 6), (257, 7), (385, 7), (513, 8), (769, 8), (1025, 9),
  (1537, 9), (2049, 10), (3073, 10), (4097, 11), (6145, 11), (8193, 12), (12289, 12), (16385, 13),
  (24577, 13)]

/-- The number that a symbol of a table and its extra bits write. -/
def extended (table : Array (Nat × Nat)) (symbol : Nat) : Step Nat :=
  match table[symbol]? with
  | none => throw .corrupt
  | some (base, extra) => do return base + (← Step.bits extra)

/-- Reads coded symbols up to the end of the block. -/
def readSymbols (literals distances : PrefixCode) : (limit : Nat) → Step Unit
  | 0 => throw .truncated
  | limit + 1 => do
    let symbol ← literals.read
    if symbol < 256 then
      Step.emit (UInt8.ofNat symbol)
      readSymbols literals distances limit
    else if symbol = 256 then return ()
    else
      let length ← extended lengthTable (symbol - 257)
      let distance ← extended distanceTable (← distances.read)
      Step.copyOutput distance length
      readSymbols literals distances limit

/-- The order in which the lengths of the length code are written. -/
def lengthOrder : List Nat :=
  [16, 17, 18, 0, 8, 7, 9, 6, 10, 5, 11, 4, 12, 3, 13, 2, 14, 1, 15]

/-- Reads code lengths, with runs, until there are `total` of them. -/
def readLengths (code : PrefixCode) (total : Nat) : (limit : Nat) → Array Nat → Step (Array Nat)
  | 0, lengths => return lengths
  | limit + 1, lengths => do
    if lengths.size = total then return lengths
    else
      let symbol ← code.read
      if symbol < 16 then readLengths code total limit (lengths.push symbol)
      else
        let value ←
          if symbol = 16 then
            match lengths.back? with
            | some last => pure last
            | none => throw .corrupt
          else pure 0
        let run ←
          if symbol = 16 then do pure (3 + (← Step.bits 2))
          else if symbol = 17 then do pure (3 + (← Step.bits 3))
          else do pure (11 + (← Step.bits 7))
        if lengths.size + run > total then throw .corrupt
        readLengths code total limit (lengths ++ Array.replicate run value)

/-- Reads the two codes of a block that brings its own. -/
def readCodes : Step (PrefixCode × PrefixCode) := do
  let literalCount := 257 + (← Step.bits 5)
  let distanceCount := 1 + (← Step.bits 5)
  let lengthCount := 4 + (← Step.bits 4)
  if literalCount > 286 || distanceCount > 30 then throw .corrupt
  let written ← (List.range lengthCount).mapM fun _ => Step.bits 3
  let placed := lengthOrder.zip written
  let lengthCode := PrefixCode.ofLengths ((List.range 19).map fun symbol =>
    ((placed.find? (·.1 = symbol)).map (·.2)).getD 0)
  if !lengthCode.isAdmissible then throw .corrupt
  let total := literalCount + distanceCount
  let lengths := (← readLengths lengthCode total total #[]).toList
  let literals := PrefixCode.ofLengths (lengths.take literalCount)
  let distances := PrefixCode.ofLengths (lengths.drop literalCount)
  if !literals.isAdmissible || !distances.isAdmissible then throw .corrupt
  return (literals, distances)

/-- The codes of a block that brings none. -/
def fixedCodes : PrefixCode × PrefixCode :=
  (.ofLengths (List.replicate 144 8 ++ List.replicate 112 9 ++ List.replicate 24 7
    ++ List.replicate 8 8), .ofLengths (List.replicate 32 5))

/-- Reads blocks up to the last one. -/
def readBlocks : (limit : Nat) → Step Unit
  | 0 => throw .truncated
  | limit + 1 => do
    let isLast ← Step.bit
    match ← Step.bits 2 with
    | 0 =>
      Step.align
      let low ← Step.byte
      let high ← Step.byte
      let lowCheck ← Step.byte
      let highCheck ← Step.byte
      if low ^^^ lowCheck ≠ 0xFF || high ^^^ highCheck ≠ 0xFF then throw .corrupt
      Step.copyInput (low.toNat + 256 * high.toNat)
    | 1 => readSymbols fixedCodes.1 fixedCodes.2 (8 * (← get).input.length + 1)
    | 2 =>
      let (literals, distances) ← readCodes
      readSymbols literals distances (8 * (← get).input.length + 1)
    | _ => throw .corrupt
    if isLast then return () else readBlocks limit

/-- What reading a stream gives: the output, and either the input after the stream or why there is
no end of it. -/
structure Inflated where
  output : Bytes
  rest : Except Halt Bytes

/-- Reads a compressed stream from the front of the bytes. -/
def inflate (bytes : Bytes) : Inflated :=
  match (do readBlocks (8 * bytes.length + 1); Step.align : Step Unit).run ⟨bytes, 0, #[]⟩ with
  | .ok _ s => ⟨s.output.toList, .ok s.input⟩
  | .error halt s => ⟨s.output.toList, .error halt⟩

end CanisterGateway.Compression
