import ControlMachine.Network.Payload

/- What the network finds in the mapping table: the slot that serves a path, and the requests that
   client slots ask for. -/
namespace ControlMachine

structure ClientRequest where
  id : UInt8
  method : Method
  host : String
  port : UInt16
  resource : String
  deriving DecidableEq, Repr

namespace Store

def host (s : Store) (id : UInt8) : Except NetworkError String := do
  networkFault (s.memory.loadString (← s.mappings.active id).urlAddress)

def resource (s : Store) (id : UInt8) : Except NetworkError String := do
  networkFault (s.memory.loadString (← s.mappings.active id).resourceAddress)

def serves (memory : Memory) (path : String) (m : Mapping) : Bool :=
  m.isActive && match memory.loadString m.resourceAddress with
    | .ok resource => resource == path
    | .error _ => false

def findServer? (s : Store) (path : String) : Option UInt8 :=
  (s.mappings.slots.findIdx? (serves s.memory path)).map UInt8.ofNat

/-- Slots for one transfer ask until they have a status, the others always. A slot whose texts
    cannot be read asks for nothing. -/
def request? (memory : Memory) (id : UInt8) (m : Mapping) : Option ClientRequest := do
  guard (m.isActive && m.isClient && (m.status == 0 || !m.isOnce))
  let method ← m.method?
  let host ← (memory.loadString m.urlAddress).toOption
  let resource ← (memory.loadString m.resourceAddress).toOption
  return ⟨id, method, host, m.port, resource⟩

def pendingRequests (s : Store) : List ClientRequest :=
  s.mappings.slots.zipIdx.filterMap fun (m, id) => request? s.memory (UInt8.ofNat id) m

end Store
end ControlMachine
