import ControlMachine.Fault

/- Return addresses, up to a fixed depth. A popped address stays in its slot until it is written
   over, and dumps show it. -/
namespace ControlMachine

structure CallStack where
  /-- Live addresses, the newest first. -/
  live : List UInt16
  /-- What the other slots hold, the lowest slot first. -/
  spare : List UInt16
  deriving DecidableEq, Repr

namespace CallStack

def ofCapacity (capacity : Nat) : CallStack := ⟨[], List.replicate capacity 0⟩

def depth (s : CallStack) : Nat := s.live.length

def capacity (s : CallStack) : Nat := s.live.length + s.spare.length

def isEmpty (s : CallStack) : Bool := s.live.isEmpty

def isFull (s : CallStack) : Bool := s.spare.isEmpty

/-- Live addresses, the oldest first. -/
def entries (s : CallStack) : List UInt16 := s.live.reverse

def slots (s : CallStack) : List UInt16 := s.entries ++ s.spare

def push (s : CallStack) (address : UInt16) : Except Fault CallStack :=
  match s.spare with
  | [] => .error (.stackOverflow s.capacity)
  | _ :: spare => .ok ⟨address :: s.live, spare⟩

def peek (s : CallStack) : Except Fault UInt16 :=
  match s.live with
  | [] => .error .stackUnderflow
  | top :: _ => .ok top

def pop (s : CallStack) : Except Fault (UInt16 × CallStack) :=
  match s.live with
  | [] => .error .stackUnderflow
  | top :: live => .ok (top, ⟨live, top :: s.spare⟩)

def clear (s : CallStack) : CallStack := .ofCapacity s.capacity

end CallStack
end ControlMachine
