import ControlMachine.Fault

/- Slots that offer a memory cell to the network, or ask the network to fill it. -/
namespace ControlMachine

inductive Method where
  | get | post | put
  deriving DecidableEq, Repr

def Method.name : Method → String
  | .get => "GET"
  | .post => "POST"
  | .put => "PUT"

def Method.ofOptions? (options : UInt8) : Option Method :=
  match options &&& 0xF0 with
  | 0x10 => some .get
  | 0x20 => some .post
  | 0x30 => some .put
  | _ => none

structure Mapping where
  selector : UInt8
  options : UInt8
  valueAddress : UInt16
  urlAddress : UInt16
  resourceAddress : UInt16
  port : UInt16
  status : UInt8
  deriving DecidableEq, Repr

namespace Mapping

def nowhere : UInt16 := 0xFFFF

/-- Status bit of a finished transfer; every higher bit is an error. -/
def done : UInt8 := 0x01

def unmapped : Mapping := ⟨0, 0, nowhere, nowhere, nowhere, 0, 0x80⟩

def isActive (m : Mapping) : Bool :=
  m.valueAddress != nowhere && m.urlAddress != nowhere && m.resourceAddress != nowhere &&
    m.status &&& 0x80 == 0

def urlIsLiteral (options : UInt8) : Bool := options &&& 0x01 != 0

def resourceIsLiteral (options : UInt8) : Bool := options &&& 0x02 != 0

def isOnce (m : Mapping) : Bool := m.options &&& 0x04 == 0

def isClient (m : Mapping) : Bool := m.options &&& 0x08 != 0

def method? (m : Mapping) : Option Method := Method.ofOptions? m.options

def isCleanDone (m : Mapping) : Bool := m.status == done

/-- The status a poll sees, and the slot after it. A poll may give up a slot that served its one
    transfer without an error. -/
def poll (m : Mapping) (release : Bool) : UInt8 × Mapping :=
  if m.isActive then (m.status, if release && m.isCleanDone && m.isOnce then unmapped else m)
  else (0, m)

def completed (m : Mapping) : Mapping :=
  if m.isActive then { m with status := done } else m

def failed (m : Mapping) (code : UInt8) : Mapping :=
  if m.isActive then { m with status := m.status ||| (code ||| done) } else m

/-- Whether a transfer of `served` uses the slot up. A slot mapped anew since then does not match
    and stays. -/
def consumedBy (m served : Mapping) : Bool := served.isOnce && m == served

end Mapping

/-- Slots by id; an id has four bits. -/
structure MappingTable where
  slots : List Mapping
  few : slots.length ≤ 16

namespace MappingTable

def ofSize (size : Nat) : MappingTable where
  slots := List.replicate (min size 16) .unmapped
  few := by rw [List.length_replicate]; omega

def slot? (t : MappingTable) (id : UInt8) : Option Mapping := t.slots[id.toNat]?

def slot (t : MappingTable) (id : UInt8) : Except Fault Mapping :=
  match t.slot? id with
  | some mapping => .ok mapping
  | none => .error (.idUnavailable .mapping id)

def set (t : MappingTable) (id : UInt8) (mapping : Mapping) : MappingTable where
  slots := t.slots.set id.toNat mapping
  few := by simpa using t.few

def update (t : MappingTable) (id : UInt8) (f : Mapping → Mapping) : Except Fault MappingTable := do
  let mapping ← t.slot id
  return t.set id (f mapping)

def map (t : MappingTable) (id selector options : UInt8)
    (valueAddress port urlAddress resourceAddress : UInt16) : Except Fault MappingTable :=
  t.update id fun _ => ⟨selector, options, valueAddress, urlAddress, resourceAddress, port, 0⟩

def unmap (t : MappingTable) (id : UInt8) : Except Fault MappingTable :=
  t.update id fun _ => .unmapped

def check (t : MappingTable) (id : UInt8) (release : Bool) :
    Except Fault (UInt8 × MappingTable) := do
  let (status, mapping) := (← t.slot id).poll release
  return (status, t.set id mapping)

def complete (t : MappingTable) (id : UInt8) : Except Fault MappingTable :=
  t.update id Mapping.completed

def fail (t : MappingTable) (id code : UInt8) : Except Fault MappingTable :=
  t.update id (Mapping.failed · code)

def consumeOnce (t : MappingTable) (id : UInt8) (served : Mapping) :
    Except Fault (Bool × MappingTable) := do
  if (← t.slot id).consumedBy served then return (true, t.set id .unmapped)
  else return (false, t)

def idForAddress? (t : MappingTable) (address : UInt16) : Option UInt8 :=
  (t.slots.findIdx? (·.valueAddress == address)).map UInt8.ofNat

def clear (t : MappingTable) : MappingTable where
  slots := t.slots.map fun _ => .unmapped
  few := by simpa using t.few

def report (t : MappingTable) : List UInt8 :=
  UInt8.ofNat t.slots.length :: t.slots.map (·.status)

end MappingTable
end ControlMachine
