import ControlMachine.Decimal.Positional

/- Numbers read from text. Whole numbers are digits after at most one sign; others may have a
   point, an exponent, or be spelled out as an infinity or as no number. -/
namespace ControlMachine.Numeral
open Datum

inductive Error where
  | empty
  | malformed
  deriving DecidableEq, Repr

def splitSign : List Char → Bool × List Char
  | '-' :: rest => (true, rest)
  | '+' :: rest => (false, rest)
  | rest => (false, rest)

def isDigit (c : Char) : Bool := '0' ≤ c && c ≤ '9'

def digitValue (c : Char) : Nat := c.toNat - '0'.toNat

def value (digits : List Char) : Nat :=
  digits.foldl (fun n c => n * 10 + digitValue c) 0

def readInt (text : List Char) : Except Error Int :=
  let (negative, digits) := splitSign text
  if text.isEmpty then .error .empty
  else if digits.isEmpty || !digits.all isDigit then .error .malformed
  else .ok (if negative then -(value digits : Int) else value digits)

/-- The number `digits * 10 ^ exponent` in double precision. Exponents past every double are
    settled by the place of the first digit. -/
def toDouble (negative : Bool) (digits : Nat) (exponent : Int) : Datum :=
  let place : Int := (Nat.toDigits 10 digits).length + exponent
  if digits = 0 ∨ place < -400 then .finite negative 0 binary64.least
  else if 400 < place then .infinite negative
  else binary64.round negative (digits * tens exponent) (tens (-exponent))

def word? (text : List Char) (negative : Bool) : Option Datum :=
  match String.ofList (text.map Char.toLower) with
  | "inf" => some (.infinite negative)
  | "infinity" => some (.infinite negative)
  | "nan" => some .nan
  | _ => none

def exponent? : List Char → Option Int
  | [] => some 0
  | c :: rest => if c = 'e' ∨ c = 'E' then (readInt rest).toOption else none

def readDouble (text : List Char) : Except Error Datum :=
  let (negative, body) := splitSign text
  let whole := body.takeWhile isDigit
  let rest := body.dropWhile isDigit
  let (fraction, rest) := match rest with
    | '.' :: tail => (tail.takeWhile isDigit, tail.dropWhile isDigit)
    | rest => ([], rest)
  if text.isEmpty then .error .empty
  else match word? body negative with
    | some d => .ok d
    | none => match exponent? rest with
      | some e =>
        if whole.isEmpty && fraction.isEmpty then .error .malformed
        else .ok (toDouble negative (value (whole ++ fraction)) (e - fraction.length))
      | none => .error .malformed

end ControlMachine.Numeral
