import ControlMachine.Outcome

/- Work done on a state itself, one change after the other. What was done before a failure stays done,
   so that a failure leaves all as it was only if nothing that can fail follows the first change. -/
namespace ControlMachine

abbrev InPlace (ε σ : Type) := EStateM ε σ

namespace InPlace
variable {ε σ τ α β : Type} {s after : σ}

def lookUp (f : σ → Except ε α) : InPlace ε σ α := fun s =>
  match f s with
  | .ok a => .ok a s
  | .error error => .error error s

/-- Work on a part of the state. The part is put back also after a failure. -/
def within (part : σ → τ) (put : σ → τ → σ) (work : InPlace ε τ α) : InPlace ε σ α := fun s =>
  match work (part s) with
  | .ok a changed => .ok a (put s changed)
  | .error error changed => .error error (put s changed)

def left : EStateM.Result ε σ α → σ
  | .ok _ s => s
  | .error _ s => s

/-- Work that a failure keeps from happening at all. -/
def allOrNothing (s : σ) : Except ε (α × σ) → EStateM.Result ε σ α
  | .ok (a, after) => .ok a after
  | .error error => .error error s

def changed (s : σ) : Except ε σ → EStateM.Result ε σ Unit
  | .ok after => .ok () after
  | .error error => .error error s

section AllOrNothing
variable {x : Except ε (α × σ)} {a : α} {error : ε}

theorem allOrNothing_ok (done : allOrNothing s x = .ok a after) : x = .ok (a, after) := by
  cases x with
  | error error => cases done
  | ok pair =>
    cases done
    rfl

theorem allOrNothing_error (failed : allOrNothing s x = .error error after) : after = s := by
  cases x with
  | error error =>
    cases failed
    rfl
  | ok pair => cases failed

theorem left_allOrNothing (s : σ) (x : Except ε (α × σ)) :
    left (allOrNothing s x) = s ∨ ∃ a, x = .ok (a, left (allOrNothing s x)) := by
  cases x with
  | error error => exact Or.inl rfl
  | ok pair => exact Or.inr ⟨pair.1, rfl⟩

theorem changed_error {x : Except ε σ} (failed : changed s x = .error error after) :
    x = .error error ∧ after = s := by
  cases x with
  | error error =>
    cases failed
    exact ⟨rfl, rfl⟩
  | ok last => cases failed

end AllOrNothing

theorem lookUp_bind (f : σ → Except ε α) (g : α → InPlace ε σ β) (s : σ) :
    (lookUp f >>= g) s = match f s with
      | .ok a => g a s
      | .error error => .error error s := by
  simp only [bind, EStateM.bind, lookUp]
  cases f s <;> rfl

theorem get_bind (f : σ → InPlace ε σ β) (s : σ) : (get >>= f) s = f s s := rfl

theorem modify_bind (f : σ → σ) (g : Unit → InPlace ε σ β) (s : σ) :
    (modify f >>= g) s = g () (f s) := rfl

theorem lookUp_bind_changed {f : σ → Except ε α} {g : α → InPlace ε σ Unit}
    {h : α → Except ε σ} (rest : ∀ a, g a s = changed s (h a)) :
    (lookUp f >>= g) s = changed s (f s >>= h) := by
  rw [lookUp_bind]
  cases f s with
  | error error => rfl
  | ok a => exact rest a

theorem within_changed {part : σ → τ} {put : σ → τ → σ} {work : InPlace ε τ Unit}
    {result : Except ε τ} (same : work (part s) = changed (part s) result)
    (back : put s (part s) = s) : within part put work s = changed s (put s <$> result) := by
  rw [within, same]
  cases result with
  | error error => simp only [changed, back, Functor.map, Except.map]
  | ok next => rfl

end InPlace
end ControlMachine
