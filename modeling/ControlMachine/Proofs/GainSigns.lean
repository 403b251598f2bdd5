import ControlMachine.Proofs.ControlLoop

/- The signs of the gains and the direction of a controller. Gains that are accepted are given the sign
   of the direction, and scaling them to another period leaves it to them. A change of direction in
   automatic mode turns the gains over, and in manual mode it does not, so from then on the signs are
   those of the other direction until gains are accepted again. -/
namespace ControlMachine

namespace Datum

def OnSide (negative : Bool) : Datum → Prop
  | .nan => True
  | .infinite sign => sign = negative
  | .finite sign m _ => m = 0 ∨ sign = negative

variable {f : Format} {negative sign : Bool} {x y : Datum}

theorem onSide_of_isNegative (same : x.isNegative = negative) : x.OnSide negative := by
  cases x with
  | nan => trivial
  | infinite sign => exact same
  | finite sign m e => exact Or.inr same

theorem isNegative_round (f : Format) (sign : Bool) (num den : Nat) :
    (f.round sign num den).isNegative = sign := by
  have either : ∀ (large : Prop) [Decidable large] (m : Nat) (e : Int),
      (if large then infinite sign else finite sign m e).isNegative = sign := by
    intro large _ m e
    split <;> rfl
  unfold Format.round
  by_cases zero : num = 0
  · rw [if_pos zero]
    rfl
  · rw [if_neg zero]
    exact either _ _ _

theorem onSide_round {num den : Nat} (side : num = 0 ∨ sign = negative) :
    (f.round sign num den).OnSide negative := by
  rcases side with zero | same
  · rw [Format.round, if_pos zero]
    exact Or.inl rfl
  · exact onSide_of_isNegative ((isNegative_round f sign num den).trans same)

theorem numerator_of_zero {m : Nat} (zero : m = 0) (e : Int) : numerator m e = 0 := by
  rw [numerator, zero, Nat.zero_mul]

theorem onSide_mul (side : x.OnSide negative) (positive : y.isNegative = false) :
    (x.mul f y).OnSide negative := by
  cases x with
  | nan => trivial
  | infinite a =>
    cases y with
    | nan => trivial
    | infinite b => simpa [mul, OnSide, show b = false from positive] using side
    | finite nb mb eb =>
      by_cases zero : mb = 0
      · simp [mul, OnSide, zero]
      · simpa [mul, OnSide, zero, show nb = false from positive] using side
  | finite na ma ea =>
    cases y with
    | nan => trivial
    | infinite b =>
      by_cases zero : ma = 0
      · simp [mul, OnSide, zero]
      · simpa [mul, OnSide, zero, show b = false from positive] using side
    | finite nb mb eb =>
      apply onSide_round
      rcases side with zero | same
      · exact Or.inl (numerator_of_zero (by rw [zero, Nat.zero_mul]) _)
      · exact Or.inr (by simp [same, show nb = false from positive])

theorem onSide_div (side : x.OnSide negative) (positive : y.isNegative = false) :
    (x.div f y).OnSide negative := by
  cases x with
  | nan => trivial
  | infinite a =>
    cases y with
    | nan | infinite => trivial
    | finite nb mb eb => simpa [div, OnSide, show nb = false from positive] using side
  | finite na ma ea =>
    cases y with
    | nan => trivial
    | infinite b => exact Or.inl rfl
    | finite nb mb eb =>
      by_cases zero : mb = 0
      · by_cases none : ma = 0
        · simp [div, OnSide, zero, none]
        · simpa [div, OnSide, zero, none, show nb = false from positive] using side
      · simp only [div, if_neg zero]
        apply onSide_round
        rcases side with none | same
        · exact Or.inl (numerator_of_zero none _)
        · exact Or.inr (by simp [same, show nb = false from positive])

theorem isNegative_ratio (f : Format) (a b : Nat) :
    ((ofNat a).div f (ofNat b)).isNegative = false := by
  by_cases zero : b = 0
  · by_cases none : a = 0
    · simp [ofNat, div, zero, none, isNegative]
    · simp [ofNat, div, zero, none, isNegative]
  · simp only [ofNat, div, if_neg zero]
    exact isNegative_round f false _ _

end Datum

namespace Fixed

def OnSide : Bool → Fixed → Prop
  | false, x => 0 ≤ x.units
  | true, x => x.units ≤ 0

variable {x : Fixed} {d : Datum} {negative : Bool}

theorem onSide_of_zero (zero : x.units = 0) : OnSide negative x := by
  cases negative with
  | false => exact Int.le_of_eq zero.symm
  | true => exact Int.le_of_eq zero

theorem ne_least_of_onSide (side : OnSide false x) : x ≠ least := by
  rintro rfl
  exact absurd side (by decide : ¬ 0 ≤ least.units)

theorem least_le_units (x : Fixed) : least.units ≤ x.units := Int32.le_toInt x.raw

theorem natAbs_le (x : Fixed) : x.units.natAbs ≤ 2147483648 := by
  have low := least_le_units x
  have high : x.units ≤ greatest.units := Int32.toInt_le x.raw
  have bottom : least.units = -2147483648 := by decide
  have top : greatest.units = 2147483647 := by decide
  omega

theorem units_ofUnits {n : Int} (low : least.units ≤ n) (high : n ≤ greatest.units) :
    (ofUnits n).units = n :=
  Int32.toInt_ofInt_of_le low (Int.lt_of_le_of_lt high (by decide))

theorem units_neg (above : x ≠ least) : (-x).units = -x.units := by
  have low := least_le_units x
  have high : x.units ≤ greatest.units := Int32.toInt_le x.raw
  have apart : x.units ≠ least.units := by
    intro same
    exact above (congrArg Fixed.mk (Int32.toInt_inj.mp same))
  have bottom : least.units = -2147483648 := by decide
  have top : greatest.units = 2147483647 := by decide
  apply units_ofUnits <;> omega

theorem onSide_neg (above : x ≠ least) (side : OnSide negative x) : OnSide (!negative) (-x) := by
  have turned := units_neg above
  cases negative with
  | false =>
    have plus : 0 ≤ x.units := side
    show (-x).units ≤ 0
    omega
  | true =>
    have minus : x.units ≤ 0 := side
    show 0 ≤ (-x).units
    omega

theorem onSide_toDouble (side : OnSide negative x) : x.toDouble.OnSide negative := by
  by_cases zero : x.units = 0
  · exact Or.inl (Int.natAbs_eq_zero.mpr zero)
  · right
    cases negative with
    | false =>
      have plus : 0 ≤ x.units := side
      exact decide_eq_false (by omega)
    | true =>
      have minus : x.units ≤ 0 := side
      exact decide_eq_true (by omega)

theorem truncate_nonneg (m : Nat) (e : Int) : 0 ≤ Datum.truncate false m e := Int.natCast_nonneg _

theorem truncate_nonpos (m : Nat) (e : Int) : Datum.truncate true m e ≤ 0 :=
  Int.neg_nonpos_of_nonneg (Int.natCast_nonneg _)

theorem truncate_of_zero {m : Nat} (zero : m = 0) (sign : Bool) (e : Int) :
    Datum.truncate sign m e = 0 := by
  simp [Datum.truncate, Datum.numerator_of_zero zero]

/-- Fractions are dropped toward zero and what is too large goes to the limit on its side. -/
theorem onSide_ofDouble (side : d.OnSide negative) : OnSide negative (ofDouble d) := by
  have bottom : least.units = -2147483648 := by decide
  have top : greatest.units = 2147483647 := by decide
  cases d with
  | nan => exact onSide_of_zero rfl
  | infinite sign =>
    subst side
    cases sign with
    | false =>
      show 0 ≤ greatest.units
      omega
    | true =>
      show least.units ≤ 0
      omega
  | finite sign m e =>
    have shown : (ofDouble (.finite sign m e)).units =
        max least.units (min greatest.units (Datum.truncate sign m (e + 8))) := by
      apply units_ofUnits <;> omega
    rcases side with zero | rfl
    · have none := truncate_of_zero zero sign (e + 8)
      apply onSide_of_zero
      omega
    · cases sign with
      | false =>
        have plus := truncate_nonneg m (e + 8)
        show 0 ≤ (ofDouble _).units
        omega
      | true =>
        have minus := truncate_nonpos m (e + 8)
        show (ofDouble _).units ≤ 0
        omega

end Fixed

namespace Direction

def isReverse : Direction → Bool
  | .direct => false
  | .reverse => true

def opposite : Direction → Direction
  | .direct => .reverse
  | .reverse => .direct

theorem isReverse_opposite (d : Direction) : d.opposite.isReverse = !d.isReverse := by
  cases d <;> rfl

theorem eq_opposite {d other : Direction} (differs : d ≠ other) : d = other.opposite := by
  cases d <;> cases other <;> first | rfl | exact absurd rfl differs

end Direction

namespace Controller
variable {c : Controller Fixed} {kp ki kd : Fixed} {direction : Direction}

def GainsFor (c : Controller Fixed) : Direction → Prop
  | .direct => 0 ≤ c.kp.units ∧ 0 ≤ c.ki.units ∧ 0 ≤ c.kd.units
  | .reverse => c.kp.units ≤ 0 ∧ c.ki.units ≤ 0 ∧ c.kd.units ≤ 0

instance (c : Controller Fixed) : (direction : Direction) → Decidable (c.GainsFor direction)
  | .direct => inferInstanceAs (Decidable (_ ∧ _ ∧ _))
  | .reverse => inferInstanceAs (Decidable (_ ∧ _ ∧ _))

def acceptable (kp ki kd : Fixed) : Bool :=
  !(Rational.isNegative kp || Rational.isNegative ki || Rational.isNegative kd)

/-- A gain that stays below zero when its sign is turned. -/
def HasLeastGain (c : Controller Fixed) : Prop :=
  c.kp = Fixed.least ∨ c.ki = Fixed.least ∨ c.kd = Fixed.least

theorem gainsFor_iff : c.GainsFor direction ↔ Fixed.OnSide direction.isReverse c.kp ∧
    Fixed.OnSide direction.isReverse c.ki ∧ Fixed.OnSide direction.isReverse c.kd := by
  cases direction <;> rfl

theorem acceptable_iff : acceptable kp ki kd = true ↔
    0 ≤ kp.units ∧ 0 ≤ ki.units ∧ 0 ≤ kd.units := by
  have nonneg : ∀ x : Fixed, Rational.isNegative x = false ↔ 0 ≤ x.units := by
    intro x
    rw [← Bool.not_eq_true, Rational.isNegative, Fixed.less_iff]
    exact Int.not_lt
  simp only [acceptable, Bool.not_eq_true', Bool.or_eq_false_iff, nonneg, and_assoc]

theorem gainsFor_negateGains (gains : c.GainsFor direction) (above : ¬ c.HasLeastGain) :
    c.negateGains.GainsFor direction.opposite := by
  simp only [HasLeastGain, not_or] at above
  obtain ⟨p, i, d⟩ := gainsFor_iff.mp gains
  rw [gainsFor_iff, Direction.isReverse_opposite]
  exact ⟨Fixed.onSide_neg above.1 p, Fixed.onSide_neg above.2.1 i, Fixed.onSide_neg above.2.2 d⟩

theorem above_least (gains : c.GainsFor .direct) : ¬ c.HasLeastGain := by
  obtain ⟨p, i, d⟩ := gains
  rintro (same | same | same)
  · exact Fixed.ne_least_of_onSide p same
  · exact Fixed.ne_least_of_onSide i same
  · exact Fixed.ne_least_of_onSide d same

theorem setTunings_refused (refused : acceptable kp ki kd = false) :
    c.setTunings kp ki kd = c := by
  rw [acceptable, Bool.not_eq_false'] at refused
  rw [setTunings, if_pos refused]

/-- Accepted gains are scaled as gains for direct action, and turned over for reverse action. -/
theorem gainsFor_setTunings (accepted : acceptable kp ki kd = true) :
    (c.setTunings kp ki kd).GainsFor c.direction := by
  obtain ⟨p, i, d⟩ := acceptable_iff.mp accepted
  rw [acceptable, Bool.not_eq_true'] at accepted
  have seconds := Datum.isNegative_ratio binary64 c.sampleMs.toNat 1000
  have proportional : Fixed.OnSide false kp := p
  have whole : ki.toDouble.OnSide false := Fixed.onSide_toDouble i
  have rate : kd.toDouble.OnSide false := Fixed.onSide_toDouble d
  have integral := Fixed.onSide_ofDouble (Datum.onSide_mul (f := binary64) whole seconds)
  have derivative := Fixed.onSide_ofDouble (Datum.onSide_div (f := binary64) rate seconds)
  rw [setTunings, if_neg (by rw [accepted]; exact Bool.false_ne_true)]
  dsimp only
  cases toward : c.direction with
  | direct => exact ⟨proportional, integral, derivative⟩
  | reverse =>
    have scaled : Controller.GainsFor { c with
        kp := kp
        ki := Fixed.ofDouble (ki.toDouble.mul binary64
          ((Datum.ofNat c.sampleMs.toNat).div binary64 (Datum.ofNat 1000)))
        kd := Fixed.ofDouble (kd.toDouble.div binary64
          ((Datum.ofNat c.sampleMs.toNat).div binary64 (Datum.ofNat 1000))) } .direct :=
      ⟨proportional, integral, derivative⟩
    exact gainsFor_negateGains scaled (above_least scaled)

theorem gainsFor_setSampleTime (gains : c.GainsFor direction) (ms : UInt32) :
    (c.setSampleTime ms).GainsFor direction := by
  obtain ⟨p, i, d⟩ := gainsFor_iff.mp gains
  have ratio := Datum.isNegative_ratio binary64 ms.toNat c.sampleMs.toNat
  unfold setSampleTime
  by_cases none : ms = 0
  · rw [if_pos none]
    exact gains
  · rw [if_neg none, gainsFor_iff]
    exact ⟨p, Fixed.onSide_ofDouble (Datum.onSide_mul (Fixed.onSide_toDouble i) ratio),
      Fixed.onSide_ofDouble (Datum.onSide_div (Fixed.onSide_toDouble d) ratio)⟩

theorem gainsFor_setDirection (gains : c.GainsFor c.direction)
    (turnable : direction = c.direction ∨ c.mode = .automatic ∧ ¬ c.HasLeastGain) :
    (c.setDirection direction).GainsFor direction := by
  unfold setDirection
  by_cases turns : direction = c.direction
  · rw [if_neg (fun changed => changed.2 turns)]
    exact turns ▸ gains
  · obtain ⟨automatic, above⟩ := turnable.resolve_left turns
    have turned := gainsFor_negateGains gains above
    rw [← Direction.eq_opposite turns] at turned
    rw [if_pos ⟨automatic, turns⟩]
    exact turned

theorem gainsFor_tiedTo (c : Controller Fixed) (settings : PidSettings Fixed) (now : UInt64)
    (mappings : MappingTable) :
    (c.tiedTo settings now mappings).direction = settings.direction ∧
      (acceptable settings.kp settings.ki settings.kd = true →
        (c.tiedTo settings now mappings).GainsFor settings.direction) ∧
      (acceptable settings.kp settings.ki settings.kd = false →
        ∀ direction, (c.tiedTo settings now mappings).GainsFor direction ↔
          c.GainsFor direction) := by
  obtain ⟨kp, ki, kd, tied⟩ := tiedTo_gains c settings now mappings
  refine ⟨by rw [tied]; rfl, ?_, ?_⟩
  · intro accepted
    have gains := gainsFor_setTunings (c := c.boundTo settings) accepted
    exact gainsFor_iff.mpr (gainsFor_iff.mp gains)
  · intro refused direction
    rw [tiedTo, setTunings_refused refused]
    cases direction <;> exact Iff.rfl

end Controller

namespace ControlLoop
variable {l : ControlLoop Fixed} {capacity : Nat}

/-- The controller feeds back in its own direction. -/
def Matched (l : ControlLoop Fixed) : Prop := l.controller.GainsFor l.controller.direction

instance (l : ControlLoop Fixed) : Decidable l.Matched :=
  inferInstanceAs (Decidable (l.controller.GainsFor l.controller.direction))

/-- The direction turns and the gains do not all turn with it. -/
inductive Upsets (l : ControlLoop Fixed) : ControlEvent Fixed capacity → Prop where
  | manual (direction : Direction) (turns : direction ≠ l.controller.direction)
      (manual : l.controller.mode = .manual) : Upsets l (.setDirection direction)
  | least (direction : Direction) (turns : direction ≠ l.controller.direction)
      (automatic : l.controller.mode = .automatic) (least : l.controller.HasLeastGain) :
      Upsets l (.setDirection direction)
  | refused (settings : PidSettings Fixed) (now : UInt64)
      (cleared : l.controller.initialized = false)
      (turns : settings.direction ≠ l.controller.direction)
      (refused : Controller.acceptable settings.kp settings.ki settings.kd = false) :
      Upsets l (.init settings now)

inductive Retunes (l : ControlLoop Fixed) : ControlEvent Fixed capacity → Prop where
  | tuned (kp ki kd : Fixed) (accepted : Controller.acceptable kp ki kd = true) :
      Retunes l (.setTunings kp ki kd)
  | tied (settings : PidSettings Fixed) (now : UInt64)
      (cleared : l.controller.initialized = false)
      (accepted : Controller.acceptable settings.kp settings.ki settings.kd = true) :
      Retunes l (.init settings now)

def Untuned (l : ControlLoop Fixed) : List (ControlEvent Fixed capacity) → Prop
  | [] => True
  | event :: events => ¬ Retunes l event ∧ Untuned (l.react event) events

theorem matched_of_retunes {event : ControlEvent Fixed capacity} (retunes : Retunes l event) :
    (l.react event).Matched := by
  cases retunes with
  | tuned kp ki kd accepted =>
    obtain ⟨_, _, _, same⟩ := Controller.setTunings_gains l.controller kp ki kd
    have kept : (l.controller.setTunings kp ki kd).direction = l.controller.direction := by
      rw [same]
    rw [Matched, react, withController, kept]
    exact Controller.gainsFor_setTunings accepted
  | tied settings now cleared accepted =>
    obtain ⟨toward, gains, -⟩ := l.controller.gainsFor_tiedTo settings now l.store.mappings
    rcases react_init l settings now with ⟨initialized, -⟩ | ⟨-, same⟩
    · rw [cleared] at initialized
      cases initialized
    · rw [same, Matched, withController, toward]
      exact gains accepted

theorem matched_react (matched : l.Matched) (event : ControlEvent Fixed capacity) :
    Upsets l event ∨ (l.react event).Matched := by
  cases event with
  | init settings now =>
    rcases react_init l settings now with ⟨-, same⟩ | ⟨cleared, same⟩
    · rw [same]
      exact Or.inr matched
    · obtain ⟨toward, accepted, refused⟩ :=
        l.controller.gainsFor_tiedTo settings now l.store.mappings
      rw [same]
      cases gains : Controller.acceptable settings.kp settings.ki settings.kd with
      | true =>
        right
        rw [Matched, withController, toward]
        exact accepted gains
      | false =>
        by_cases turns : settings.direction = l.controller.direction
        · right
          rw [Matched, withController, toward, turns]
          exact (refused gains _).mpr matched
        · exact Or.inl (.refused settings now cleared turns gains)
  | setDirection direction =>
    obtain ⟨_, _, _, same⟩ := Controller.setDirection_gains l.controller direction
    have toward : (l.controller.setDirection direction).direction = direction := by rw [same]
    by_cases turns : direction = l.controller.direction
    · right
      rw [Matched, react, withController, toward]
      exact Controller.gainsFor_setDirection matched (Or.inl turns)
    · cases mode : l.controller.mode with
      | manual => exact Or.inl (.manual direction turns mode)
      | automatic =>
        by_cases least : l.controller.HasLeastGain
        · exact Or.inl (.least direction turns mode least)
        · right
          rw [Matched, react, withController, toward]
          exact Controller.gainsFor_setDirection matched (Or.inr ⟨mode, least⟩)
  | setTunings kp ki kd =>
    right
    cases gains : Controller.acceptable kp ki kd with
    | true => exact matched_of_retunes (.tuned kp ki kd gains)
    | false =>
      rw [react, Controller.setTunings_refused gains]
      exact matched
  | setSampleTime ms =>
    right
    have kept : (l.controller.setSampleTime ms).direction = l.controller.direction := by
      rcases Controller.setSampleTime_gains l.controller ms with same | ⟨-, _, _, same⟩
      · rw [same]
      · rw [same]
    rw [Matched, react, withController, kept]
    exact Controller.gainsFor_setSampleTime matched ms
  | compute now =>
    obtain ⟨_, _, _, same⟩ := Controller.compute_changes l.controller l.store now
    right
    rw [Matched, react, withBoth, same]
    exact matched
  | setMode mode =>
    obtain ⟨_, _, _, same⟩ := Controller.setMode_changes l.controller l.store.memory mode
    right
    rw [Matched, react, withController, same]
    exact matched
  | setLimits lower upper =>
    obtain ⟨_, _, _, same⟩ := Controller.setLimits_changes l.controller l.store.memory lower upper
    right
    rw [Matched, react, withBoth, same]
    exact matched
  | clear => exact Or.inr matched
  | disturb store same => exact Or.inr matched

/-- The events have upset the controller and not retuned it since. -/
def UpsetBy (l : ControlLoop Fixed) (events : List (ControlEvent Fixed capacity)) : Prop :=
  ∃ earlier event later, events = earlier ++ event :: later ∧
    Upsets (earlier.foldl react l) event ∧ Untuned ((earlier ++ [event]).foldl react l) later

theorem upsetBy_cons {event : ControlEvent Fixed capacity}
    {events : List (ControlEvent Fixed capacity)} (upset : (l.react event).UpsetBy events) :
    l.UpsetBy (event :: events) := by
  obtain ⟨earlier, upsetting, later, rfl, upsets, untuned⟩ := upset
  exact ⟨event :: earlier, upsetting, later, rfl, upsets, untuned⟩

/-- A controller that is not matched may be so from the start. -/
theorem matched_or_upset (l : ControlLoop Fixed) (events : List (ControlEvent Fixed capacity)) :
    (events.foldl react l).Matched ∨ (¬ l.Matched ∧ l.Untuned events) ∨ l.UpsetBy events := by
  induction events generalizing l with
  | nil =>
    by_cases matched : l.Matched
    · exact Or.inl matched
    · exact Or.inr (Or.inl ⟨matched, trivial⟩)
  | cons event events ih =>
    rcases ih (l.react event) with matched | ⟨unmatched, untuned⟩ | upset
    · exact Or.inl matched
    · right
      by_cases matched : l.Matched
      · right
        have upsets := (matched_react matched event).resolve_right unmatched
        exact ⟨[], event, events, rfl, upsets, untuned⟩
      · left
        exact ⟨matched, fun retunes => unmatched (matched_of_retunes retunes), untuned⟩
    · exact Or.inr (Or.inr (upsetBy_cons upset))

/-- A new controller is matched, having no gains, and its gains follow its direction unless that was
    turned without them since they were last accepted. -/
theorem matched_unless_upset (id : UInt8) (store : Store)
    (events : List (ControlEvent Fixed capacity)) :
    (events.foldl react ⟨.fresh id, store⟩).Matched ∨ UpsetBy ⟨.fresh id, store⟩ events := by
  rcases matched_or_upset ⟨.fresh id, store⟩ events with matched | ⟨unmatched, -⟩ | upset
  · exact Or.inl matched
  · exact absurd ⟨Int.le_refl 0, Int.le_refl 0, Int.le_refl 0⟩ unmatched
  · exact Or.inr upset

def tied (kp ki : Fixed) (direction : Direction) : ControlEvent Fixed 12 :=
  .init ⟨0, 4, 8, kp, ki, 0, 100, direction, 0, .ofUnits 2560⟩ 1000

/-- The direction is turned in manual mode; gains are refused for the new direction; one gain has been
    scaled up to the least number, and cannot turn. -/
theorem direction_turned_alone :
    ¬ ([tied (.ofUnits 256) 0 .direct, .setDirection .reverse].foldl react
      ⟨.fresh 0, plant⟩).Matched ∧
    ¬ ([tied (.ofUnits 256) 0 .direct, .clear, tied (.ofUnits (-256)) 0 .reverse].foldl react
      ⟨.fresh 0, plant⟩).Matched ∧
    ¬ ([tied 0 .greatest .reverse, .setSampleTime 4000, .setMode .automatic,
      .setDirection .direct].foldl react ⟨.fresh 0, plant⟩).Matched := by
  decide

end ControlLoop
end ControlMachine
