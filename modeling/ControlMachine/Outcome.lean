import ControlMachine.Fault

/- An answer or a fault, and the state that is left in either case. -/
namespace ControlMachine

abbrev Outcome (σ α : Type) := EStateM.Result Fault σ α

namespace Outcome
variable {σ τ α : Type}

def state : Outcome σ α → σ
  | .ok _ s => s
  | .error _ s => s

def answer : Outcome σ α → Except Fault α
  | .ok a _ => .ok a
  | .error fault _ => .error fault

def mapState (f : σ → τ) : Outcome σ α → Outcome τ α
  | .ok a s => .ok a (f s)
  | .error fault s => .error fault (f s)

@[simp] theorem state_mapState (f : σ → τ) (x : Outcome σ α) :
    (x.mapState f).state = f x.state := by
  cases x <;> rfl

theorem mapState_mapState {υ : Type} (f : σ → τ) (g : τ → υ) (x : Outcome σ α) :
    (x.mapState f).mapState g = x.mapState fun s => g (f s) := by
  cases x <;> rfl

theorem mapState_eq_self {f : σ → σ} {x : Outcome σ α} (fixed : f x.state = x.state) :
    x.mapState f = x := by
  cases x with
  | ok a s => rw [mapState, show f s = s from fixed]
  | error fault s => rw [mapState, show f s = s from fixed]

theorem eq_ok_of_answer {x : Outcome σ α} {a : α} (given : x.answer = .ok a) :
    x = .ok a x.state := by
  cases x with
  | ok b s =>
    cases given
    rfl
  | error fault s => cases given

theorem eq_error_of_answer {x : Outcome σ α} {fault : Fault} (given : x.answer = .error fault) :
    x = .error fault x.state := by
  cases x with
  | ok a s => cases given
  | error reason s =>
    cases given
    rfl

end Outcome
end ControlMachine
