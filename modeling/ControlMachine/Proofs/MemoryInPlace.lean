import ControlMachine.Machine.Instruction
import ControlMachine.Proofs.InPlace

/- What is done to memory, worked out on memory itself, byte after byte. All that can fail comes before
   the first byte is set, so it is the same as what gives back a new memory. -/
namespace ControlMachine.Memory
open InPlace
variable {ε : Type}

def setBytes : Nat → List UInt8 → InPlace ε Memory Unit
  | _, [] => pure ()
  | start, b :: values => do
    modify fun m => m.patch start [b]
    setBytes (start + 1) values

def writeInPlace (access : Access) (address : UInt16) (values : List UInt8) :
    InPlace Fault Memory Unit := do
  lookUp fun m => m.check access address values.length
  setBytes address.toNat values

/-- Each byte is read when its turn comes, from memory as it is by then. -/
def carryBytes (source dest : Nat) : List Nat → InPlace Fault Memory Unit
  | [] => pure ()
  | i :: offsets => do
    modify fun m => m.patch (dest + i) [m.byteAt (source + i)]
    carryBytes source dest offsets

def copyInPlace (source : UInt16) (length : UInt8) (dest : UInt16) :
    InPlace Fault Memory Unit := do
  lookUp fun m => m.check .copy source length.toNat
  lookUp fun m => m.check .copy dest length.toNat
  carryBytes source.toNat dest.toNat (copyOrder source.toNat dest.toNat length.toNat)

theorem setBytes_eq (start : Nat) (values : List UInt8) (m : Memory) :
    setBytes (ε := ε) start values m = .ok () (m.patch start values) := by
  induction values generalizing start m with
  | nil => rfl
  | cons b values ih => exact ih (start + 1) (m.patch start [b])

theorem writeInPlace_eq (m : Memory) (access : Access) (address : UInt16) (values : List UInt8) :
    writeInPlace access address values m = changed m (m.write access address values) :=
  lookUp_bind_changed fun _ => setBytes_eq address.toNat values m

theorem carryBytes_eq (source dest : Nat) (offsets : List Nat) (m : Memory) :
    carryBytes source dest offsets m = .ok () (moveBytes source dest offsets m) := by
  induction offsets generalizing m with
  | nil => rfl
  | cons i offsets ih => exact ih (m.patch (dest + i) [m.byteAt (source + i)])

theorem copyInPlace_eq (m : Memory) (source : UInt16) (length : UInt8) (dest : UInt16) :
    copyInPlace source length dest m = changed m (m.copy source length dest) :=
  lookUp_bind_changed fun _ => lookUp_bind_changed fun _ => carryBytes_eq _ _ _ m

def storeWordInPlace (width : Width) (address : UInt16) (value : UInt32) :
    InPlace Fault Memory Unit :=
  match width with
  | .one => writeInPlace .store address [value.toUInt8]
  | .two => writeInPlace .storeAddress address (LittleEndian.bytes 2 value.toUInt16.toNat)
  | .four => writeInPlace .storeUnsigned address (LittleEndian.bytes 4 value.toNat)

def storeRationalInPlace {R : Type} [Rational R] (address : UInt16) (value : R) :
    InPlace Fault Memory Unit :=
  writeInPlace .storeRational address (LittleEndian.bytes 4 (Rational.toBits value).toNat)

def arithmeticInPlace (R : Type) [Rational R] (op : Arithmetic) (type : DataType)
    (dest source : UInt16) : InPlace Fault Memory Unit := do
  match type with
  | .word width =>
    let b ← lookUp fun m => m.loadWord width source
    let a ← lookUp fun m => m.loadWord width dest
    let value ← lookUp fun _ => op.onWords a b
    storeWordInPlace width dest value
  | .rational =>
    let b : R ← lookUp fun m => m.loadRational source
    let a : R ← lookUp fun m => m.loadRational dest
    let value ← lookUp fun _ => op.onNumbers a b
    storeRationalInPlace dest value

def bitwiseInPlace (op : Bitwise) (width : Width) (dest source : UInt16) :
    InPlace Fault Memory Unit := do
  let b ← lookUp fun m => m.loadWord width source
  let a ← lookUp fun m => m.loadWord width dest
  storeWordInPlace width dest (op.onWords a b)

def complementInPlace (width : Width) (dest : UInt16) : InPlace Fault Memory Unit := do
  let a ← lookUp fun m => m.loadWord width dest
  storeWordInPlace width dest (~~~a)

def moveInPlace (R : Type) [Rational R] (type : DataType) (dest source : UInt16) :
    InPlace Fault Memory Unit := do
  match type with
  | .word width =>
    let value ← lookUp fun m => m.loadWord width source
    storeWordInPlace width dest value
  | .rational =>
    let value : R ← lookUp fun m => m.loadRational source
    storeRationalInPlace dest value

theorem storeWordInPlace_eq (m : Memory) (width : Width) (address : UInt16) (value : UInt32) :
    storeWordInPlace width address value m = changed m (m.storeWord width address value) := by
  cases width with
  | one | two | four => exact writeInPlace_eq m _ address _

theorem storeRationalInPlace_eq {R : Type} [Rational R] (m : Memory) (address : UInt16)
    (value : R) : storeRationalInPlace address value m = changed m (m.storeRational address value) :=
  writeInPlace_eq m .storeRational address _

theorem arithmeticInPlace_eq (R : Type) [Rational R] (m : Memory) (op : Arithmetic)
    (type : DataType) (dest source : UInt16) :
    arithmeticInPlace R op type dest source m =
      changed m (m.arithmetic R op type dest source) := by
  cases type with
  | word width =>
    exact lookUp_bind_changed fun b => lookUp_bind_changed fun a => lookUp_bind_changed fun value =>
      storeWordInPlace_eq m width dest value
  | rational =>
    exact lookUp_bind_changed fun b => lookUp_bind_changed fun a => lookUp_bind_changed fun value =>
      storeRationalInPlace_eq m dest value

theorem bitwiseInPlace_eq (m : Memory) (op : Bitwise) (width : Width) (dest source : UInt16) :
    bitwiseInPlace op width dest source m = changed m (m.bitwise op width dest source) :=
  lookUp_bind_changed fun _ => lookUp_bind_changed fun _ => storeWordInPlace_eq m width dest _

theorem complementInPlace_eq (m : Memory) (width : Width) (dest : UInt16) :
    complementInPlace width dest m = changed m (m.complement width dest) :=
  lookUp_bind_changed fun _ => storeWordInPlace_eq m width dest _

theorem moveInPlace_eq (R : Type) [Rational R] (m : Memory) (type : DataType)
    (dest source : UInt16) :
    moveInPlace R type dest source m = changed m (m.move R type dest source) := by
  cases type with
  | word width => exact lookUp_bind_changed fun value => storeWordInPlace_eq m width dest value
  | rational => exact lookUp_bind_changed fun value => storeRationalInPlace_eq m dest value

end ControlMachine.Memory
