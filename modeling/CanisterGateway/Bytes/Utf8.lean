import CanisterGateway.Bytes.Basic

/-!
# UTF-8

Bytes are split into pieces from the left. A piece is one scalar value, or the longest beginning
of a sequence that cannot go on: either because the next byte does not fit, or because the bytes
end. Each of the three readings is then a plain function of the pieces:

* `decode?` accepts only scalar values,
* `decodeLossy` puts one replacement character where a piece is not a scalar value,
* `fault?` says where the first such piece stands and how wide it is.

A lead byte fixes the range of the byte after it (`E0` is followed by `A0` to `BF`, `ED` by `80` to
`9F`, and so on), which is what rules out overlong forms and surrogates.
-/

namespace CanisterGateway.Bytes.Utf8

/-- What a lead byte announces: the value of its own bits, how many continuation bytes follow,
and the range of the first of them. -/
structure Lead where
  bits : Nat
  tails : Nat
  low : UInt8
  high : UInt8

/-- The announcement of a lead byte; none for a continuation byte and for a byte that begins no
sequence. -/
def lead? (b : UInt8) : Option Lead :=
  if b < 0x80 then some ⟨b.toNat, 0, 0x80, 0xBF⟩
  else if b < 0xC2 then none
  else if b < 0xE0 then some ⟨b.toNat % 32, 1, 0x80, 0xBF⟩
  else if b = 0xE0 then some ⟨0, 2, 0xA0, 0xBF⟩
  else if b = 0xED then some ⟨13, 2, 0x80, 0x9F⟩
  else if b < 0xF0 then some ⟨b.toNat % 16, 2, 0x80, 0xBF⟩
  else if b = 0xF0 then some ⟨0, 3, 0x90, 0xBF⟩
  else if b < 0xF4 then some ⟨b.toNat % 8, 3, 0x80, 0xBF⟩
  else if b = 0xF4 then some ⟨4, 3, 0x80, 0x8F⟩
  else none

/-- A piece at the front of a byte string, with its width in bytes. -/
inductive Piece
  | scalar (c : Char) (width : Nat)
  | malformed (width : Nat)
  | truncated (width : Nat)
  deriving DecidableEq

/-- The number of bytes of a piece. -/
def Piece.width : Piece → Nat
  | scalar _ w => w
  | malformed w => w
  | truncated w => w

/-- The scalar value of a piece, if it is one. -/
def Piece.char? : Piece → Option Char
  | scalar c _ => some c
  | _ => none

/-- Reads the continuation bytes that are still due after `width` bytes. -/
def tailPiece : (due : Nat) → (low high : UInt8) → (bits width : Nat) → Bytes → Piece
  | 0, _, _, bits, width, _ => .scalar (Char.ofNat bits) width
  | _ + 1, _, _, _, width, [] => .truncated width
  | due + 1, low, high, bits, width, b :: rest =>
    if low ≤ b ∧ b ≤ high then
      tailPiece due 0x80 0xBF (bits * 64 + b.toNat % 64) (width + 1) rest
    else .malformed width

/-- The piece that begins with the byte `b`. -/
def frontPiece (b : UInt8) (rest : Bytes) : Piece :=
  match lead? b with
  | none => .malformed 1
  | some l => tailPiece l.tails l.low l.high l.bits 1 rest

/-- The pieces of a byte string, after passing over `skip` bytes that belong to the piece before. -/
def piecesFrom : (skip : Nat) → Bytes → List Piece
  | _, [] => []
  | skip + 1, _ :: rest => piecesFrom skip rest
  | 0, b :: rest =>
    let piece := frontPiece b rest
    piece :: piecesFrom (piece.width - 1) rest

/-- The pieces of a byte string from left to right. -/
def pieces (bytes : Bytes) : List Piece :=
  piecesFrom 0 bytes

/-- The replacement character U+FFFD. -/
def replacement : Char := Char.ofNat 0xFFFD

/-- The text of the bytes, with one replacement character for each piece that is no scalar value. -/
def decodeLossy (bytes : Bytes) : String :=
  String.ofList ((pieces bytes).map fun piece => piece.char?.getD replacement)

/-- The text of the bytes, if every piece is a scalar value. -/
def decode? (bytes : Bytes) : Option String :=
  ((pieces bytes).mapM Piece.char?).map String.ofList

/-- Why bytes are not UTF-8: the index of the first piece that is no scalar value, and its width
unless it is cut short by the end. -/
structure Fault where
  index : Nat
  width? : Option Nat
  deriving DecidableEq

/-- The first fault among pieces that begin at `index`. -/
def firstFault : (index : Nat) → List Piece → Option Fault
  | _, [] => none
  | index, .scalar _ w :: rest => firstFault (index + w) rest
  | index, .malformed w :: _ => some ⟨index, some w⟩
  | index, .truncated _ :: _ => some ⟨index, none⟩

/-- The first fault of a byte string, if it is not UTF-8. -/
def fault? (bytes : Bytes) : Option Fault :=
  firstFault 0 (pieces bytes)

/-- The wording of a fault. -/
def Fault.message : Fault → String
  | ⟨index, some width⟩ => s!"invalid utf-8 sequence of {width} bytes from index {index}"
  | ⟨index, none⟩ => s!"incomplete utf-8 byte sequence from index {index}"

end CanisterGateway.Bytes.Utf8
