import ControlMachine.Network.Error
import ControlMachine.Store
import ControlMachine.Decimal.Places
import ControlMachine.Text.Blank

/- Values of mapped cells as payloads. A payload is the bytes of the cell or a short text; a mapping
   for one transfer is used up by it. -/
namespace ControlMachine

inductive PayloadFormat where
  | text | octets
  deriving DecidableEq, Repr

def PayloadFormat.ofCode (code : UInt16) : PayloadFormat := if code = 42 then .octets else .text

def PayloadFormat.code : PayloadFormat → UInt16
  | .text => 0
  | .octets => 42

namespace Mapping

def dataType (m : Mapping) : Except NetworkError DataType :=
  match Selector.dataType? ⟨m.selector⟩ with
  | some type => .ok type
  | none => .error (.unsupportedType m.selector)

end Mapping

def MappingTable.active (t : MappingTable) (id : UInt8) : Except NetworkError Mapping :=
  match t.slot? id with
  | some mapping => if mapping.isActive then .ok mapping else .error (.noMapping id)
  | none => .error (.noMapping id)

namespace Payload

def textLimit : Nat := 14

def cellText (R : Type) [Rational R] (memory : Memory) (type : DataType) (address : UInt16) :
    Except Fault String := do
  match type with
  | .word width => return toString (← memory.loadWord width address).toNat
  | .rational =>
    let value : R ← memory.loadRational address
    return Decimal.truncatedText (Rational.toDouble value)

def read (R : Type) [Rational R] (memory : Memory) (format : PayloadFormat) (type : DataType)
    (address : UInt16) : Except Fault (List UInt8) := do
  match format with
  | .octets => memory.readBytes address type.bytes
  | .text => return (← cellText R memory type address).toUTF8.toList

/-- Text is trimmed and read as a number of the cell's type; whole numbers keep their low bits. -/
def writeText (R : Type) [Rational R] (memory : Memory) (type : DataType) (address : UInt16)
    (payload : List UInt8) : Except NetworkError Memory := do
  if textLimit < payload.length then throw (.payloadTooLarge payload.length textLimit)
  match Utf8.decode payload with
  | .error defect => throw (.invalidPayload (.notText defect))
  | .ok chars =>
    let text := trimBlanks chars
    match type with
    | .word width =>
      match Numeral.readInt text with
      | .error error => throw (.invalidPayload (.notNumber text .integer error))
      | .ok value =>
        networkFault (memory.storeWord width address (UInt32.ofNat (value % 0x100000000).toNat))
    | .rational =>
      match Numeral.readDouble text with
      | .error error => throw (.invalidPayload (.notNumber text .float error))
      | .ok value => networkFault (memory.storeRational address (Rational.ofDouble value : R))

/-- Bytes past the width of the cell are left out. -/
def writeOctets (memory : Memory) (type : DataType) (address : UInt16)
    (payload : List UInt8) : Except NetworkError Memory :=
  if payload.length < type.bytes then
    .error (.invalidPayload (.tooShort type.bytes payload.length))
  else networkFault (memory.writeBytes address (payload.take type.bytes))

def write (R : Type) [Rational R] (memory : Memory) (format : PayloadFormat) (type : DataType)
    (address : UInt16) (payload : List UInt8) : Except NetworkError Memory :=
  match format with
  | .octets => writeOctets memory type address payload
  | .text => writeText R memory type address payload

end Payload

namespace Store

/-- Whether a read in this format uses the mapping up. A text read of a mapping with errors does
    not. -/
def usedUpByRead (format : PayloadFormat) (served : Mapping) : Bool :=
  match format with
  | .octets => served.isOnce
  | .text => served.isOnce && decide (served.status ≤ Mapping.done)

def loadValue (R : Type) [Rational R] (s : Store) (format : PayloadFormat) (id : UInt8) :
    Except NetworkError (List UInt8 × Store) := do
  let served ← s.mappings.active id
  let type ← served.dataType
  let payload ← networkFault (Payload.read R s.memory format type served.valueAddress)
  if usedUpByRead format served then
    let (_, mappings) ← networkFault (s.mappings.consumeOnce id served)
    return (payload, { s with mappings := mappings })
  else return (payload, s)

def storeValue (R : Type) [Rational R] (s : Store) (format : PayloadFormat) (id : UInt8)
    (payload : List UInt8) : Except NetworkError Store := do
  let served ← s.mappings.active id
  let type ← served.dataType
  let memory ← Payload.write R s.memory format type served.valueAddress payload
  let (_, mappings) ← networkFault (s.mappings.consumeOnce id served)
  return ⟨memory, mappings⟩

end Store
end ControlMachine
