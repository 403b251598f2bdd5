import ControlMachine.Proofs.Steps

/- Results side by side, the second with at least as much memory to compute in as the first. What the
   first gives the second gives as well, and only where the first reaches outside its memory or its
   code does it not matter what the second does. -/
namespace ControlMachine

def Fault.isOutside : Fault → Bool
  | .accessViolation _ _ _ => true
  | _ => false

inductive Follows {α β : Type} (rel : α → β → Prop) : Except Fault α → Except Fault β → Prop where
  | ok {a : α} {b : β} (related : rel a b) : Follows rel (.ok a) (.ok b)
  | error (fault : Fault) : Follows rel (.error fault) (.error fault)
  | outside {fault : Fault} (reached : fault.isOutside = true) (y : Except Fault β) :
      Follows rel (.error fault) y

namespace Follows
variable {α β γ δ : Type} {rel : α → β → Prop} {out : γ → δ → Prop}

theorem refl (x : Except Fault α) : Follows Eq x x := by
  cases x with
  | ok a => exact .ok rfl
  | error fault => exact .error fault

theorem of_ok {a : α} {y : Except Fault α} (alike : Follows Eq (.ok a) y) : y = .ok a := by
  cases alike with
  | ok same => rw [same]

theorem bind {x : Except Fault α} {y : Except Fault β} {f : α → Except Fault γ}
    {g : β → Except Fault δ} (first : Follows rel x y)
    (rest : ∀ a b, rel a b → Follows out (f a) (g b)) : Follows out (x >>= f) (y >>= g) := by
  cases first with
  | ok related => exact rest _ _ related
  | error fault => exact .error fault
  | outside reached => exact .outside reached _

theorem bind_same {x y : Except Fault α} {f : α → Except Fault γ} {g : α → Except Fault δ}
    (first : Follows Eq x y) (rest : ∀ a, Follows out (f a) (g a)) :
    Follows out (x >>= f) (y >>= g) := by
  apply first.bind
  intro a b same
  subst same
  exact rest a

theorem map {x y : Except Fault α} (f : α → γ) (first : Follows Eq x y) :
    Follows Eq (f <$> x) (f <$> y) := by
  cases first with
  | ok same =>
    cases same
    exact .ok rfl
  | error fault => exact .error fault
  | outside reached => exact .outside reached _

end Follows

namespace Outcome

def isOutside {σ α : Type} : Outcome σ α → Bool
  | .ok _ _ => false
  | .error fault _ => fault.isOutside

inductive Follows {σ τ α β : Type} (keep : σ → τ → Prop) (rel : α → β → Prop) :
    Outcome σ α → Outcome τ β → Prop where
  | ok {a : α} {b : β} {s : σ} {t : τ} (kept : keep s t) (related : rel a b) :
      Follows keep rel (.ok a s) (.ok b t)
  | error {s : σ} {t : τ} (kept : keep s t) (fault : Fault) :
      Follows keep rel (.error fault s) (.error fault t)
  | outside {fault : Fault} (reached : fault.isOutside = true) (s : σ) (y : Outcome τ β) :
      Follows keep rel (.error fault s) y

theorem Follows.mapState {σ σ' τ τ' α : Type} {keep : σ → τ → Prop} {keep' : σ' → τ' → Prop}
    {x : Outcome σ α} {y : Outcome τ α} {f : σ → σ'} {g : τ → τ'} (alike : Follows keep Eq x y)
    (both : ∀ s t, keep s t → keep' (f s) (g t)) :
    Follows keep' Eq (x.mapState f) (y.mapState g) := by
  cases alike with
  | ok kept same => exact .ok (both _ _ kept) same
  | error kept fault => exact .error (both _ _ kept) fault
  | outside reached s => exact .outside reached _ _

end Outcome

def Fetch.Follows {α β : Type} (rel : α → β → Prop) (act : Fetch α) (shown : Fetch β) : Prop :=
  ∀ pc, Outcome.Follows Eq rel (act pc) (shown pc)

def Code.FollowedBy (code wider : Code) : Prop :=
  ∀ address, Follows Eq (code address) (wider address)

namespace Fetch
variable {α β γ δ : Type} {rel : α → β → Prop} {out : γ → δ → Prop} {code wider : Code}

theorem Follows.refl (act : Fetch α) : Follows Eq act act := by
  intro pc
  cases act pc with
  | ok a last => exact .ok rfl rfl
  | error fault last => exact .error rfl fault

theorem Follows.bind {act : Fetch α} {shown : Fetch β} {f : α → Fetch γ} {g : β → Fetch δ}
    (first : Follows rel act shown) (rest : ∀ a b, rel a b → Follows out (f a) (g b)) :
    Follows out (act >>= f) (shown >>= g) := by
  intro pc
  have head := first pc
  change Outcome.Follows Eq out (EStateM.bind act f pc) (EStateM.bind shown g pc)
  unfold EStateM.bind
  generalize act pc = x, shown pc = y at head ⊢
  cases head with
  | ok same related =>
    subst same
    exact rest _ _ related _
  | error same fault => exact .error same fault
  | outside reached last => exact .outside reached last _

theorem Follows.bind_same {act shown : Fetch α} {f : α → Fetch γ} {g : α → Fetch δ}
    (first : Follows Eq act shown) (rest : ∀ a, Follows out (f a) (g a)) :
    Follows out (act >>= f) (shown >>= g) := by
  apply first.bind
  intro a b same
  subst same
  exact rest a

theorem Follows.lift {x : Except Fault α} {y : Except Fault β}
    (alike : ControlMachine.Follows rel x y) : Follows rel (lift x) (lift y) := by
  intro pc
  cases alike with
  | ok related => exact .ok rfl related
  | error fault => exact .error rfl fault
  | outside reached => exact .outside reached pc _

theorem byte_follows (wide : code.FollowedBy wider) : Follows Eq (byte code) (byte wider) :=
  (Follows.refl get).bind_same fun address =>
    (Follows.lift (wide address)).bind_same fun _ => .refl _

theorem bytes_follows (wide : code.FollowedBy wider) (n : Nat) :
    Follows Eq (bytes code n) (bytes wider n) := by
  induction n with
  | zero => exact .refl _
  | succ n ih => exact (byte_follows wide).bind_same fun b => ih.bind_same fun rest => .refl _

theorem selector_follows (wide : code.FollowedBy wider) :
    Follows Eq (selector code) (selector wider) :=
  (byte_follows wide).bind_same fun _ => .refl _

theorem address_follows (wide : code.FollowedBy wider) :
    Follows Eq (address code) (address wider) :=
  (bytes_follows wide 2).bind_same fun _ => .refl _

theorem unsigned_follows (wide : code.FollowedBy wider) :
    Follows Eq (unsigned code) (unsigned wider) :=
  (bytes_follows wide 4).bind_same fun _ => .refl _

theorem operand_follows (wide : code.FollowedBy wider) (s : Selector) (width : Nat) :
    Follows Eq (operand code s width) (operand wider s width) := by
  unfold operand
  split
  · exact .refl _
  · exact address_follows wide

/-- By induction on the text: at every place the second reader has the byte of the first, unless the
    first has none there. -/
theorem text_follows (wide : code.FollowedBy wider) : Follows Eq (text code) (text wider) := by
  intro pc
  fun_induction text code pc with
  | case1 pc fault missing =>
    have head := wide pc
    rw [missing] at head
    rw [text]
    generalize wider pc = y at head
    cases head with
    | error fault => exact .error rfl fault
    | outside reached => exact .outside reached pc _
  | case2 pc room found =>
    have head := wide pc
    rw [found] at head
    rw [text, head.of_ok]
    simp only [room, if_true]
    exact .ok rfl rfl
  | case3 pc b found room more rest next tail ih =>
    have head := wide pc
    rw [found] at head
    rw [text, head.of_ok]
    simp only [room, more, if_true, if_false]
    rw [tail] at ih
    generalize text wider (pc + 1) = y at ih
    cases ih with
    | ok same values => exact .ok same (congrArg (b :: ·) values)
  | case4 pc b found room more fault next tail ih =>
    have head := wide pc
    rw [found] at head
    rw [text, head.of_ok]
    simp only [room, more, if_true, if_false]
    rw [tail] at ih
    generalize text wider (pc + 1) = y at ih
    cases ih with
    | error same => exact .error same fault
    | outside reached => exact .outside reached next _
  | case5 pc b found stuck => exact .outside rfl pc _

theorem string_follows (wide : code.FollowedBy wider) : Follows Eq (string code) (string wider) :=
  (Follows.refl get).bind_same fun _ => (text_follows wide).bind_same fun _ => .refl _

end Fetch
end ControlMachine
