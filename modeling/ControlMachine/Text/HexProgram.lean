import ControlMachine.Text.Hex
import ControlMachine.Text.Blank
import ControlMachine.Text.Quoted

/- Programs written as hexadecimal digits, two to a byte. Blanks do not count, not even between the
   two digits of a byte. -/
namespace ControlMachine.HexProgram

inductive Error where
  | oddDigits (count : Nat)
  | invalidDigits (high low : Char) (index : Nat)
  deriving DecidableEq, Repr

def Error.message : Error → String
  | .oddDigits count => s!"invalid hex program: odd number of digits ({count})"
  | .invalidDigits high low index =>
    s!"invalid hex program: invalid digits {Quoted.char high}{Quoted.char low} at byte {index}"

def pairs : List Char → Nat → Except Error (List UInt8)
  | high :: low :: rest, index =>
    match Hex.digit? high, Hex.digit? low with
    | some h, some l => (pairs rest (index + 1)).map (UInt8.ofNat (h * 16 + l) :: ·)
    | _, _ => .error (.invalidDigits high low index)
  | _, _ => .ok []

/-- An odd count is reported before any wrong digit. -/
def decode (text : List Char) : Except Error (List UInt8) :=
  let digits := text.filter fun c => !isBlank c
  if digits.length % 2 = 0 then pairs digits 0 else .error (.oddDigits digits.length)

end ControlMachine.HexProgram
