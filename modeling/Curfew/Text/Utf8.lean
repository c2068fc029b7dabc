import Curfew.Bytes

/-!
# Reading UTF-8

* **`scan`** walks over bytes one at a time; the state is the sequence begun but not yet finished
  (`Pending`). It yields a `Piece` per character and one per *maximal ill-formed part*, that is,
  per longest run of bytes that could still have become a character.
* **`decode?`** is the text of bytes that are wholly well formed.
* **`decodeLossy`** puts U+FFFD in the place of each ill-formed part.
-/

namespace Curfew.Text.Utf8

/-- A sequence begun by a lead byte: the bounds of the byte expected next, the number of
continuation bytes after that one, and the bits read so far. -/
structure Pending where
  low : UInt8
  high : UInt8
  more : Nat
  bits : Nat

inductive Lead
  | ascii (c : Char)
  | opens (pending : Pending)
  | illFormed

/-- One character, or one maximal ill-formed part. -/
inductive Piece
  | char (c : Char)
  | illFormed

/-- The well-formed first bytes. The bounds of the second byte keep out overlong forms (after
`E0`, `F0`), surrogates (after `ED`) and values past U+10FFFF (after `F4`). -/
def Lead.ofByte (b : UInt8) : Lead :=
  let bits := b.toNat
  if b < 0x80 then .ascii (Char.ofNat bits)
  else if b < 0xC2 then .illFormed
  else if b < 0xE0 then .opens ⟨0x80, 0xBF, 0, bits - 0xC0⟩
  else if b == 0xE0 then .opens ⟨0xA0, 0xBF, 1, 0⟩
  else if b == 0xED then .opens ⟨0x80, 0x9F, 1, 0xD⟩
  else if b < 0xF0 then .opens ⟨0x80, 0xBF, 1, bits - 0xE0⟩
  else if b == 0xF0 then .opens ⟨0x90, 0xBF, 2, 0⟩
  else if b < 0xF4 then .opens ⟨0x80, 0xBF, 2, bits - 0xF0⟩
  else if b == 0xF4 then .opens ⟨0x80, 0x8F, 2, 4⟩
  else .illFormed

/-- How far a scan has come: the unfinished sequence, and the pieces found, newest first. -/
structure Scan where
  pending : Option Pending
  pieces : List Piece

/-- Nothing read yet. -/
def Scan.empty : Scan := ⟨none, []⟩

/-- Reads `b` where a character may begin. -/
def Scan.begin (pieces : List Piece) (b : UInt8) : Scan :=
  match Lead.ofByte b with
  | .ascii c => ⟨none, .char c :: pieces⟩
  | .opens pending => ⟨some pending, pieces⟩
  | .illFormed => ⟨none, .illFormed :: pieces⟩

/-- Reads one byte. A byte that cannot continue the unfinished sequence ends it as an ill-formed
part and is itself read afresh. -/
def Scan.step (scan : Scan) (b : UInt8) : Scan :=
  match scan.pending with
  | none => Scan.begin scan.pieces b
  | some p =>
    if p.low ≤ b ∧ b ≤ p.high then
      let bits := p.bits * 64 + (b.toNat - 0x80)
      match p.more with
      | 0 => ⟨none, .char (Char.ofNat bits) :: scan.pieces⟩
      | more + 1 => ⟨some ⟨0x80, 0xBF, more, bits⟩, scan.pieces⟩
    else Scan.begin (.illFormed :: scan.pieces) b

/-- The pieces in order; a sequence cut off by the end is an ill-formed part. -/
def Scan.finish (scan : Scan) : List Piece :=
  match scan.pending with
  | none => scan.pieces.reverse
  | some _ => (.illFormed :: scan.pieces).reverse

/-- The characters and ill-formed parts of `bytes`. -/
def scan (bytes : Bytes) : List Piece :=
  (bytes.foldl Scan.step .empty).finish

/-- The character of a piece, if it is one. -/
def Piece.char? : Piece → Option Char
  | .char c => some c
  | .illFormed => none

/-- The text of `bytes`, or `none` where they hold an ill-formed part. -/
def decode? (bytes : Bytes) : Option String :=
  ((scan bytes).mapM Piece.char?).map String.ofList

/-- The text of `bytes`, U+FFFD standing for each ill-formed part. -/
def decodeLossy (bytes : Bytes) : String :=
  String.ofList ((scan bytes).map fun piece => piece.char?.getD '\uFFFD')

end Curfew.Text.Utf8
