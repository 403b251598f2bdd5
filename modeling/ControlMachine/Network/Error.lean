import ControlMachine.Fault
import ControlMachine.Text.Utf8
import ControlMachine.Text.Quoted
import ControlMachine.Decimal.Numeral

/- Why a value could not be passed between the network and a mapped cell. -/
namespace ControlMachine

inductive NumberKind where
  | integer | float
  deriving DecidableEq, Repr

def NumberKind.problem : NumberKind → Numeral.Error → String
  | .integer, .empty => "cannot parse integer from empty string"
  | .integer, .malformed => "invalid digit found in string"
  | .float, .empty => "cannot parse float from empty string"
  | .float, .malformed => "invalid float literal"

inductive PayloadDefect where
  | tooShort (expected length : Nat)
  | notText (defect : Utf8.Defect)
  | notNumber (text : List Char) (kind : NumberKind) (error : Numeral.Error)
  deriving DecidableEq, Repr

def PayloadDefect.message : PayloadDefect → String
  | .tooShort expected length => s!"expected {expected} bytes, got {length}"
  | .notText defect => defect.message
  | .notNumber text kind error => Quoted.text text ++ ": " ++ kind.problem error

inductive NetworkError where
  | fault (cause : Fault)
  | noMapping (id : UInt8)
  | unsupportedType (selector : UInt8)
  | payloadTooLarge (length limit : Nat)
  | invalidPayload (defect : PayloadDefect)
  deriving DecidableEq, Repr

def NetworkError.message : NetworkError → String
  | .fault cause => cause.message
  | .noMapping id => s!"mapping {id} is not active"
  | .unsupportedType selector =>
    s!"mapping optype 0x{Hex.upper 2 selector.toNat} has no value type"
  | .payloadTooLarge length limit =>
    s!"payload of {length} bytes exceeds the {limit} byte limit"
  | .invalidPayload defect => "invalid payload: " ++ defect.message

def networkFault {α : Type} : Except Fault α → Except NetworkError α
  | .ok a => .ok a
  | .error fault => .error (.fault fault)

end ControlMachine
