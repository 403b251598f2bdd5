import ControlMachine.Proofs.Remapping

/- What a payload comes down to: the bytes for the cell, found without a look at memory, and one
   access that writes all of them or none. -/
namespace ControlMachine

namespace Memory

def wordAccess : Width → Access
  | .one => .store
  | .two => .storeAddress
  | .four => .storeUnsigned

def wordBytes : Width → UInt32 → List UInt8
  | .one, value => [value.toUInt8]
  | .two, value => LittleEndian.bytes 2 value.toUInt16.toNat
  | .four, value => LittleEndian.bytes 4 value.toNat

theorem storeWord_eq_write (m : Memory) (width : Width) (address : UInt16) (value : UInt32) :
    m.storeWord width address value =
      m.write (wordAccess width) address (wordBytes width value) := by
  cases width <;> rfl

theorem length_wordBytes (width : Width) (value : UInt32) :
    (wordBytes width value).length = width.bytes := by
  cases width with
  | one => rfl
  | two => exact LittleEndian.length_bytes 2 _
  | four => exact LittleEndian.length_bytes 4 _

end Memory

namespace Payload
variable {R : Type} [Rational R] {m after : Memory} {type : DataType} {address : UInt16}
  {format : PayloadFormat} {payload : List UInt8} {text : List Char}

structure CellWrite where
  access : Access
  values : List UInt8

variable {pending : CellWrite}

def CellWrite.make (pending : CellWrite) (m : Memory) (address : UInt16) :
    Except NetworkError Memory :=
  networkFault (m.write pending.access address pending.values)

def numberBytes (R : Type) [Rational R] (type : DataType) (text : List Char) :
    Except NetworkError CellWrite :=
  match type with
  | .word width =>
    match Numeral.readInt text with
    | .error error => .error (.invalidPayload (.notNumber text .integer error))
    | .ok n => .ok ⟨Memory.wordAccess width,
        Memory.wordBytes width (UInt32.ofNat (n % 0x100000000).toNat)⟩
  | .rational =>
    match Numeral.readDouble text with
    | .error error => .error (.invalidPayload (.notNumber text .float error))
    | .ok d => .ok ⟨.storeRational,
        LittleEndian.bytes 4 (Rational.toBits (Rational.ofDouble d : R)).toNat⟩

def textBytes (R : Type) [Rational R] (type : DataType) (payload : List UInt8) :
    Except NetworkError CellWrite :=
  if textLimit < payload.length then .error (.payloadTooLarge payload.length textLimit)
  else
    match Utf8.decode payload with
    | .error defect => .error (.invalidPayload (.notText defect))
    | .ok chars => numberBytes R type (trimBlanks chars)

def cellBytes (R : Type) [Rational R] (format : PayloadFormat) (type : DataType)
    (payload : List UInt8) : Except NetworkError CellWrite :=
  match format with
  | .octets =>
    if payload.length < type.bytes then
      .error (.invalidPayload (.tooShort type.bytes payload.length))
    else .ok ⟨.writeBytes, payload.take type.bytes⟩
  | .text => textBytes R type payload

theorem writeText_eq (m : Memory) (type : DataType) (address : UInt16) (payload : List UInt8) :
    writeText R m type address payload =
      (do (← textBytes R type payload).make m address) := by
  unfold writeText textBytes
  by_cases long : textLimit < payload.length
  · simp only [if_pos long]
    rfl
  · simp only [if_neg long]
    cases Utf8.decode payload with
    | error defect => rfl
    | ok chars =>
      cases type with
      | word width =>
        dsimp only [numberBytes]
        cases Numeral.readInt (trimBlanks chars) with
        | error error => rfl
        | ok n =>
          dsimp only
          rw [Memory.storeWord_eq_write]
          rfl
      | rational =>
        dsimp only [numberBytes]
        cases Numeral.readDouble (trimBlanks chars) with
        | error error => rfl
        | ok d => rfl

/-- A write is refused for the payload before memory is looked at, and made by one access. -/
theorem write_eq (m : Memory) (format : PayloadFormat) (type : DataType) (address : UInt16)
    (payload : List UInt8) :
    write R m format type address payload =
      (do (← cellBytes R format type payload).make m address) := by
  cases format with
  | octets =>
    unfold write writeOctets cellBytes
    dsimp only
    split <;> rfl
  | text => exact writeText_eq m type address payload

theorem textBytes_word {width : Width} : textBytes R (.word width) payload = .ok pending ↔
    payload.length ≤ textLimit ∧ ∃ chars, Utf8.decode payload = .ok chars ∧
      ∃ n, Numeral.readInt (trimBlanks chars) = .ok n ∧
        pending = ⟨Memory.wordAccess width,
          Memory.wordBytes width (UInt32.ofNat (n % 0x100000000).toNat)⟩ := by
  unfold textBytes
  by_cases long : textLimit < payload.length
  · simp [long, Nat.not_le.mpr long]
  · simp only [if_neg long, Nat.not_lt.mp long, true_and]
    cases Utf8.decode payload with
    | error defect => simp
    | ok chars =>
      simp only [numberBytes, Except.ok.injEq, exists_eq_left']
      cases Numeral.readInt (trimBlanks chars) <;> simp [eq_comm]

theorem textBytes_rational {d : Datum} (short : payload.length ≤ textLimit)
    (decoded : Utf8.decode payload = .ok text)
    (read : Numeral.readDouble (trimBlanks text) = .ok d) :
    textBytes R .rational payload = .ok ⟨.storeRational,
      LittleEndian.bytes 4 (Rational.toBits (Rational.ofDouble d : R)).toNat⟩ := by
  simp only [textBytes, if_neg (Nat.not_lt.mpr short), decoded, numberBytes, read]

theorem length_numberBytes (given : numberBytes R type text = .ok pending) :
    pending.values.length = type.bytes := by
  cases type with
  | word width =>
    dsimp only [numberBytes] at given
    split at given
    · cases given
    · cases given
      exact Memory.length_wordBytes width _
  | rational =>
    dsimp only [numberBytes] at given
    split at given
    · cases given
    · cases given
      exact LittleEndian.length_bytes 4 _

theorem length_cellBytes (given : cellBytes R format type payload = .ok pending) :
    pending.values.length = type.bytes := by
  cases format with
  | octets =>
    dsimp only [cellBytes] at given
    split at given
    · cases given
    · cases given
      rw [List.length_take]
      omega
  | text =>
    dsimp only [cellBytes, textBytes] at given
    split at given
    · cases given
    · split at given
      · cases given
      · exact length_numberBytes given

theorem write_eq_ok : write R m format type address payload = .ok after ↔
    ∃ pending, cellBytes R format type payload = .ok pending ∧
      m.write pending.access address pending.values = .ok after := by
  rw [write_eq, except_bind_eq_ok]
  simp only [CellWrite.make, networkFault_eq_ok]

theorem write_overwritten (written : write R m format type address payload = .ok after) :
    m.Overwritten after address.toNat type.bytes := by
  obtain ⟨pending, given, made⟩ := write_eq_ok.mp written
  exact Memory.write_overwritten (length_cellBytes given) made

end Payload
end ControlMachine
