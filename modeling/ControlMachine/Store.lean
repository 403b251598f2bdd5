import ControlMachine.Memory
import ControlMachine.Mapping

/- What programs, controllers and the network share: memory and the slots that map it. -/
namespace ControlMachine

structure Store where
  memory : Memory
  mappings : MappingTable

namespace Store

def ofSizes (capacity mapSize : Nat) : Store := ⟨.ofCapacity capacity, .ofSize mapSize⟩

def debugText (R : Type) [Rational R] (s : Store) : String :=
  "Memory \x7b capacity: " ++ toString s.memory.capacity ++
    ", map_size: " ++ toString s.mappings.slots.length ++
    ", rational: \"" ++ Rational.name R ++ "\" \x7d"

def clear (s : Store) : Store := ⟨s.memory.clear, s.mappings.clear⟩

end Store
end ControlMachine
