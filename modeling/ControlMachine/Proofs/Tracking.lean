import ControlMachine.Proofs.FieldReading

/- Two readers side by side. One keeps another's answers if it gives them wherever the other does;
   one tracks another if, wherever the other gets through, it stops at the same place. -/
namespace ControlMachine

def Code.Extends (code wider : Code) : Prop :=
  ∀ address b, code address = .ok b → wider address = .ok b

theorem Code.extends_refl (code : Code) : code.Extends code := fun _ _ found => found

theorem Code.load_extends_ofArray (m : Memory) :
    Code.Extends m.load (Code.ofArray m.bytes.data) := by
  intro address b loaded
  obtain ⟨inside, rfl⟩ := Memory.load_eq_ok.mp loaded
  have inArray : address.toNat < m.bytes.data.size := by
    rw [ByteArray.size_data]
    exact inside
  rw [Memory.byteAt_eq_getD, Array.getD_eq_getD_getElem?, ofArray,
    Array.getElem?_eq_getElem inArray]
  rfl

namespace Fetch
variable {α β γ δ : Type} {code wider : Code}

def Keeps (act shown : Fetch α) : Prop :=
  ∀ pc a last, act pc = .ok a last → shown pc = .ok a last

def Tracks (act : Fetch α) (shown : Fetch β) : Prop :=
  ∀ pc a last, act pc = .ok a last → ∃ b, shown pc = .ok b last

theorem Keeps.refl (act : Fetch α) : Keeps act act := fun _ _ _ done => done

theorem Keeps.bind {act shown : Fetch α} {f g : α → Fetch β} (first : Keeps act shown)
    (rest : ∀ a, Keeps (f a) (g a)) : Keeps (act >>= f) (shown >>= g) := by
  intro pc b last done
  obtain ⟨a, middle, head, tail⟩ := bind_eq_ok.mp done
  exact bind_eq_ok.mpr ⟨a, middle, first pc a middle head, rest a middle b last tail⟩

theorem Keeps.map {act shown : Fetch α} (f : α → β) (kept : Keeps act shown) :
    Keeps (f <$> act) (f <$> shown) := by
  intro pc b last done
  obtain ⟨a, head, same⟩ := map_eq_ok.mp done
  exact map_eq_ok.mpr ⟨a, kept pc a last head, same⟩

theorem byte_keeps (wide : code.Extends wider) : Keeps (byte code) (byte wider) := by
  refine Keeps.bind (Keeps.refl get) fun address => Keeps.bind ?_ fun b => Keeps.refl _
  intro pc b last done
  obtain ⟨found, same⟩ := lift_eq_ok.mp done
  exact lift_eq_ok.mpr ⟨wide address b found, same⟩

theorem bytes_keeps (wide : code.Extends wider) (n : Nat) :
    Keeps (bytes code n) (bytes wider n) := by
  induction n with
  | zero => exact Keeps.refl _
  | succ n ih => exact (byte_keeps wide).bind fun b => ih.bind fun rest => Keeps.refl _

theorem selector_keeps (wide : code.Extends wider) : Keeps (selector code) (selector wider) :=
  (byte_keeps wide).map Selector.mk

theorem address_keeps (wide : code.Extends wider) : Keeps (address code) (address wider) :=
  (bytes_keeps wide 2).bind fun _ => Keeps.refl _

theorem unsigned_keeps (wide : code.Extends wider) : Keeps (unsigned code) (unsigned wider) :=
  (bytes_keeps wide 4).bind fun _ => Keeps.refl _

/-- By induction on the text: the wider code has its zero byte at the same place. -/
theorem text_keeps (wide : code.Extends wider) : Keeps (text code) (text wider) := by
  intro pc values last done
  induction values generalizing pc with
  | nil =>
    obtain ⟨b, head, ⟨zero, empty, ends⟩ | ⟨_, _, _, impossible⟩⟩ := text_eq_ok.mp done
    · exact text_eq_ok.mpr ⟨b, byte_keeps wide _ _ _ head, Or.inl ⟨zero, empty, ends⟩⟩
    · cases impossible
  | cons v values ih =>
    obtain ⟨b, head, ⟨_, impossible, _⟩ | ⟨more, rest, tail, same⟩⟩ := text_eq_ok.mp done
    · cases impossible
    · cases same
      exact text_eq_ok.mpr ⟨v, byte_keeps wide _ _ _ head, Or.inr ⟨more, values, ih _ tail, rfl⟩⟩

theorem Tracks.bind {act : Fetch α} {shown : Fetch β} {f : α → Fetch γ} {g : β → Fetch δ}
    (first : Tracks act shown) (rest : ∀ a b, Tracks (f a) (g b)) :
    Tracks (act >>= f) (shown >>= g) := by
  intro pc c last done
  obtain ⟨a, middle, head, tail⟩ := bind_eq_ok.mp done
  obtain ⟨b, seen⟩ := first pc a middle head
  obtain ⟨d, ends⟩ := rest a b middle c last tail
  exact ⟨d, bind_eq_ok.mpr ⟨b, middle, seen, ends⟩⟩

theorem Tracks.bind_keeps {act shown : Fetch α} {f : α → Fetch γ} {g : α → Fetch δ}
    (first : Keeps act shown) (rest : ∀ a, Tracks (f a) (g a)) :
    Tracks (act >>= f) (shown >>= g) := by
  intro pc c last done
  obtain ⟨a, middle, head, tail⟩ := bind_eq_ok.mp done
  obtain ⟨d, ends⟩ := rest a middle c last tail
  exact ⟨d, bind_eq_ok.mpr ⟨a, middle, first pc a middle head, ends⟩⟩

theorem Tracks.lift_bind {result : Except Fault α} {f : α → Fetch γ} {shown : Fetch δ}
    (rest : ∀ a, result = .ok a → Tracks (f a) shown) : Tracks (lift result >>= f) shown := by
  intro pc c last done
  obtain ⟨a, middle, head, tail⟩ := bind_eq_ok.mp done
  obtain ⟨good, same⟩ := lift_eq_ok.mp head
  subst same
  exact rest a good pc c last tail

theorem Tracks.bind_lift {result : Except Fault β} {b : β} {act : Fetch γ} {g : β → Fetch δ}
    (good : result = .ok b) (rest : Tracks act (g b)) : Tracks act (lift result >>= g) := by
  intro pc c last done
  obtain ⟨d, ends⟩ := rest pc c last done
  exact ⟨d, bind_eq_ok.mpr ⟨b, pc, lift_eq_ok.mpr ⟨good, rfl⟩, ends⟩⟩

theorem Tracks.lift_pure (result : Except Fault α) (b : β) : Tracks (lift result) (pure b) := by
  intro pc a last done
  exact ⟨b, pure_eq_ok.mpr ⟨rfl, (lift_eq_ok.mp done).2⟩⟩

theorem Tracks.pure_pure (a : α) (b : β) : Tracks (pure a : Fetch α) (pure b) :=
  fun _ _ _ done => ⟨b, pure_eq_ok.mpr ⟨rfl, (pure_eq_ok.mp done).2⟩⟩

end Fetch
end ControlMachine
