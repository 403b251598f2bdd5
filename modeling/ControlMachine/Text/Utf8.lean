/- Reading UTF-8. Bytes fall into pieces: a character, or the longest beginning of one that is
   there, which is at least one byte. -/
namespace ControlMachine.Utf8

inductive Piece where
  | char (c : Char)
  /-- So many bytes that the next byte, or the last of them, makes impossible. -/
  | invalid (length : Nat)
  /-- So many bytes of a character that the end of the input cuts off. -/
  | incomplete (length : Nat)
  deriving DecidableEq, Repr

/-- For each first byte of a character, the ranges of the bytes that follow it. -/
def tailRanges? (lead : UInt8) : Option (List (UInt8 × UInt8)) :=
  if lead < 0x80 then some []
  else if lead < 0xC2 then none
  else if lead < 0xE0 then some [(0x80, 0xBF)]
  else if lead = 0xE0 then some [(0xA0, 0xBF), (0x80, 0xBF)]
  else if lead = 0xED then some [(0x80, 0x9F), (0x80, 0xBF)]
  else if lead < 0xF0 then some [(0x80, 0xBF), (0x80, 0xBF)]
  else if lead = 0xF0 then some [(0x90, 0xBF), (0x80, 0xBF), (0x80, 0xBF)]
  else if lead < 0xF4 then some [(0x80, 0xBF), (0x80, 0xBF), (0x80, 0xBF)]
  else if lead = 0xF4 then some [(0x80, 0x8F), (0x80, 0xBF), (0x80, 0xBF)]
  else none

def matching : List (UInt8 × UInt8) → List UInt8 → Nat
  | (low, high) :: ranges, b :: bytes =>
    if low ≤ b ∧ b ≤ high then matching ranges bytes + 1 else 0
  | _, _ => 0

def leadBits (lead : UInt8) (tail : Nat) : Nat :=
  if tail = 0 then lead.toNat else lead.toNat % Nat.pow 2 (6 - tail)

def codePoint (lead : UInt8) (tail : List UInt8) : Nat :=
  tail.foldl (fun n b => n * 64 + b.toNat % 64) (leadBits lead tail.length)

def firstPiece (lead : UInt8) (rest : List UInt8) : Piece :=
  match tailRanges? lead with
  | none => .invalid 1
  | some ranges =>
    let n := matching ranges rest
    if n = ranges.length then .char (Char.ofNat (codePoint lead (rest.take n)))
    else if n = rest.length then .incomplete (n + 1)
    else .invalid (n + 1)

def Piece.bytes : Piece → Nat
  | .char c => c.utf8Size
  | .invalid length => length
  | .incomplete length => length

def pieces : List UInt8 → List Piece
  | [] => []
  | lead :: rest =>
    let piece := firstPiece lead rest
    piece :: pieces (rest.drop (piece.bytes - 1))
termination_by bytes => bytes.length
decreasing_by rw [List.length_drop, List.length_cons]; omega

/-- Every piece that is no character becomes one replacement character. -/
def lossy (bytes : List UInt8) : String :=
  String.ofList ((pieces bytes).map fun
    | .char c => c
    | _ => '\uFFFD')

structure Defect where
  index : Nat
  /-- Bytes at fault; none if the input ends too early. -/
  length? : Option Nat
  deriving DecidableEq, Repr

def Defect.message (d : Defect) : String :=
  match d.length? with
  | some length => s!"invalid utf-8 sequence of {length} bytes from index {d.index}"
  | none => s!"incomplete utf-8 byte sequence from index {d.index}"

/-- The characters, or the first piece that is none and the bytes before it. -/
def strict : List Piece → Nat → Except Defect (List Char)
  | [], _ => .ok []
  | .char c :: rest, index => (strict rest (index + c.utf8Size)).map (c :: ·)
  | .invalid length :: _, index => .error ⟨index, some length⟩
  | .incomplete _ :: _, index => .error ⟨index, none⟩

def decode (bytes : List UInt8) : Except Defect (List Char) := strict (pieces bytes) 0

end ControlMachine.Utf8
