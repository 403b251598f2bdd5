import ControlMachine.Proofs.DecimalPlaces
import ControlMachine.Proofs.FixedArithmetic
import ControlMachine.Proofs.GainSigns
import ControlMachine.Proofs.RoundedQuotients

/- Fixed point numbers as text and back. Four places are as many as a sixteenth needs, so a number of
   sixteenths comes back as it was. Any other one is cut off when it is written and cut off again when
   it is read, and comes back one unit nearer to zero. -/
namespace ControlMachine

namespace Fixed
open Datum Decimal Numeral
variable {x : Fixed} {c : Char} {n : Nat}

def steps (n : Nat) : Nat := n * 10000 / 256

def kept (n : Nat) : Nat := if n % 16 = 0 then n else n - 1

def sign (x : Fixed) : Sign := if x.units < 0 then .minus else .none

def text (x : Fixed) : List Char :=
  x.sign.chars ++ (Nat.toDigits 10 (x.units.natAbs / 256) ++
    '.' :: (Nat.toDigits 10 (x.units.natAbs % 256 * 10000 / 256)).leftpad 4 '0')

theorem steps_split (n : Nat) : steps n = n / 256 * 10000 + n % 256 * 10000 / 256 := by
  have parts : n * 10000 = 256 * (n / 256 * 10000) + n % 256 * 10000 := by omega
  rw [steps, parts, Nat.mul_add_div (by decide)]

theorem text_eq (x : Fixed) : x.text = x.sign.chars ++
    (Nat.toDigits 10 (steps x.units.natAbs / Nat.pow 10 4) ++
      '.' :: lastDigits 4 (steps x.units.natAbs)) := by
  have split := steps_split x.units.natAbs
  have whole : steps x.units.natAbs / Nat.pow 10 4 = x.units.natAbs / 256 := by
    change _ / 10000 = _
    omega
  have places : steps x.units.natAbs % Nat.pow 10 4 = x.units.natAbs % 256 * 10000 / 256 := by
    change _ % 10000 = _
    omega
  have few : steps x.units.natAbs % Nat.pow 10 4 < Nat.pow 10 4 := Nat.mod_lt _ (by decide)
  rw [text, ← places, leftpad_toDigits (by decide) few, lastDigits_mod, whole]

theorem mem_text (among : c ∈ x.text) : c ∈ x.sign.chars ∨ c = '.' ∨ isDigit c = true := by
  rw [text_eq, List.mem_append, List.mem_append, List.mem_cons] at among
  rcases among with first | whole | point | place
  · exact Or.inl first
  · exact Or.inr (Or.inr (isDigit_of_mem_toDigits whole))
  · exact Or.inr (Or.inl point)
  · exact Or.inr (Or.inr (isDigit_of_mem_lastDigits place))

theorem clear_text (among : c ∈ x.text) : isBlank c = false := by
  rcases mem_text among with first | rfl | digit
  · exact sign_clear first
  · rfl
  · exact digit_clear digit

theorem ascii_text (among : c ∈ x.text) : c.toNat < 0x80 := by
  rcases mem_text among with first | rfl | digit
  · rw [sign] at first
    split at first
    · cases List.mem_singleton.mp first
      decide
    · cases first
  · decide
  · have range := isDigit_iff.mp digit
    omega

theorem length_text (x : Fixed) : x.text.length ≤ 13 := by
  have small := x.natAbs_le
  have split := steps_split x.units.natAbs
  have first : x.sign.chars.length ≤ 1 := by
    rw [sign]
    split <;> decide
  have whole : (Nat.toDigits 10 (steps x.units.natAbs / Nat.pow 10 4)).length ≤ 7 := by
    refine (Nat.length_toDigits_le_iff (by decide) (by decide)).mpr ?_
    change _ / 10000 < 10000000
    omega
  rw [text_eq, List.length_append, List.length_append, List.length_cons, length_lastDigits]
  omega

/-- No number below zero has the magnitude zero, so the sign is written whenever there is one. -/
theorem isMinus_sign (x : Fixed) :
    x.sign.isMinus = (decide (x.units < 0) && x.units.natAbs != 0) := by
  rw [sign]
  by_cases below : x.units < 0
  · have some : (x.units.natAbs != 0) = true := bne_iff_ne.mpr (by omega)
    rw [if_pos below, some, decide_eq_true below]
    rfl
  · rw [if_neg below, decide_eq_false below]
    rfl

theorem signed_toList (sign : Sign) (unmarked : sign ≠ .plus) (magnitude : String) :
    (signed sign.isMinus magnitude).toList = sign.chars ++ magnitude.toList := by
  cases sign with
  | none => rfl
  | plus => exact absurd rfl unmarked
  | minus => exact String.toList_append

theorem truncatedText_toDouble (x : Fixed) : (truncatedText x.toDouble).toList = x.text := by
  have small := x.natAbs_le
  have unmarked : x.sign ≠ .plus := by
    rw [sign]
    split <;> decide
  have units : numerator x.units.natAbs (-8) * 10000 / denominator (-8) = steps x.units.natAbs := by
    rw [steps]
    exact congrArg (· * 10000 / 256) (Nat.mul_one _)
  have whole : min (steps x.units.natAbs / 10000) 0xFFFFFFFFFFFFFFFF * 10000 +
      steps x.units.natAbs % 10000 = steps x.units.natAbs := by
    rw [steps]
    omega
  rw [toDouble, truncatedText, units, whole, ← isMinus_sign, signed_toList x.sign unmarked,
    pointed_toList (by decide), text_eq]

theorem readDouble_text (x : Fixed) :
    readDouble x.text = .ok (Numeral.toDouble x.sign.isMinus (steps x.units.natAbs) (-4)) := by
  rw [text_eq, readDouble_spelled x.sign Nat.toDigits_ne_nil (fun _ => isDigit_of_mem_toDigits)
    (fun _ => isDigit_of_mem_lastDigits), value_split, length_lastDigits]
  rfl

/-- So few steps are a number of double precision, or next to one. -/
theorem toDouble_eq_round (negative : Bool) (some : n ≠ 0) (small : n < Nat.pow 10 11) :
    Numeral.toDouble negative n (-4) = binary64.round negative n 10000 := by
  have few : (Nat.toDigits 10 n).length ≤ 11 :=
    (Nat.length_toDigits_le_iff (by decide) (by decide)).mpr small
  have low : ¬ (n = 0 ∨ ((Nat.toDigits 10 n).length : Int) + -4 < -400) := by omega
  have high : ¬ 400 < ((Nat.toDigits 10 n).length : Int) + -4 := by omega
  rw [Numeral.toDouble, if_neg low, if_neg high]
  exact congrArg (binary64.round negative · _) (Nat.mul_one n)

theorem kept_le (n : Nat) : kept n ≤ n := by
  rw [kept]
  split <;> omega

theorem steps_le (small : n ≤ 2147483648) : steps n ≤ 83886080000 := by
  rw [steps]
  omega

/-- The steps are at least so many units, and so far short of one more that no rounding gets there. -/
theorem steps_between (n : Nat) : kept n * 10000 ≤ steps n * Nat.pow 2 8 ∧
    steps n * Nat.pow 2 8 + 16 ≤ (kept n + 1) * 10000 := by
  have unit : Nat.pow 2 8 = 256 := rfl
  rw [unit, steps, kept]
  split <;> omega

theorem floorLog2_steps (some : steps n ≠ 0) (small : n ≤ 2147483648) :
    floorLog2 (steps n) 10000 ≤ 23 := by
  have most := steps_le small
  have above := floorLog2_le (steps n) 10000
  have high : (steps n).log2 < 37 := (Nat.log2_lt some).mpr (by omega)
  have low : Nat.log2 10000 = 13 := by decide
  omega

theorem toDouble_steps (negative : Bool) (small : n ≤ 2147483648) : ∃ (m : Nat) (e : Int),
    Numeral.toDouble negative (steps n) (-4) = .finite negative m e ∧
      numerator m (e + 8) / denominator (e + 8) = kept n := by
  by_cases zero : n = 0
  · subst zero
    refine ⟨0, binary64.least, rfl, ?_⟩
    rw [numerator_of_zero rfl, Nat.zero_div]
    rfl
  have some : steps n ≠ 0 := by
    rw [steps]
    omega
  have most : steps n < Nat.pow 10 11 := Nat.lt_of_le_of_lt (steps_le small) (by decide)
  have fine : floorLog2 (steps n) 10000 - (binary64.precision - 1) ≤ -(29 : Nat) := by
    have top := floorLog2_steps some small
    change _ - (53 - 1 : Int) ≤ _
    omega
  obtain ⟨p, m, e, far, rounded, cut⟩ :=
    binary64.exists_round negative some (by decide) fine (by decide)
  obtain ⟨more, rfl⟩ := Nat.exists_eq_add_of_le (show 8 ≤ p by omega)
  obtain ⟨low, high⟩ := steps_between n
  have wide : 10000 < 2 * 16 * Nat.pow 2 more := by
    have places : Nat.pow 2 21 ≤ Nat.pow 2 more := Nat.pow_le_pow_right (by decide) (by omega)
    have many : 10000 < 2 * 16 * Nat.pow 2 21 := by decide
    omega
  refine ⟨m, e, (toDouble_eq_round negative some most).trans rounded, ?_⟩
  have units := cut 8 (by omega)
  rw [Nat.add_sub_cancel_left, Format.roundEven_div (by decide) low high wide] at units
  exact units

/-- How a number comes back that was written as text: as it was if it is a number of sixteenths, and
    otherwise one unit nearer to zero. -/
structure ComesBackAs (x y : Fixed) : Prop where
  same : 16 ∣ x.units → y = x
  nearer : ¬ 16 ∣ x.units → y.units = x.units - x.units.sign

theorem apply_sign (x : Fixed) (n : Nat) :
    x.sign.apply n = if x.units < 0 then -(n : Int) else n := by
  rw [sign]
  split <;> rfl

theorem comesBackAs_of_units {y : Fixed} (units : y.units = x.sign.apply (kept x.units.natAbs)) :
    ComesBackAs x y := by
  rw [apply_sign] at units
  constructor
  · intro sixteenths
    have all : kept x.units.natAbs = x.units.natAbs := if_pos (by omega)
    have whole : y.units = x.units := by omega
    rw [← ofUnits_units y, whole, ofUnits_units]
  · intro between
    have less : kept x.units.natAbs = x.units.natAbs - 1 := if_neg (by omega)
    rcases Int.lt_or_gt_of_ne (show x.units ≠ 0 by omega) with below | above
    · rw [Int.sign_eq_neg_one_of_neg below]
      omega
    · rw [Int.sign_eq_one_of_pos above]
      omega

theorem ofDouble_readDouble (x : Fixed) :
    ∃ d, readDouble x.text = .ok d ∧ ComesBackAs x (ofDouble d) := by
  obtain ⟨m, e, read, cut⟩ := toDouble_steps x.sign.isMinus x.natAbs_le
  have whole : truncate x.sign.isMinus m (e + 8) = x.sign.apply (kept x.units.natAbs) := by
    rw [truncate, cut, apply_eq]
  have within : least.units ≤ x.sign.apply (kept x.units.natAbs) ∧
      x.sign.apply (kept x.units.natAbs) ≤ greatest.units := by
    have low := least_le_units x
    have high : x.units ≤ greatest.units := Int32.toInt_le x.raw
    have bottom : least.units = -2147483648 := by decide
    have top : greatest.units = 2147483647 := by decide
    have most := kept_le x.units.natAbs
    rw [apply_sign]
    omega
  refine ⟨_, readDouble_text x, comesBackAs_of_units ?_⟩
  rw [read, ofDouble, whole, Int.min_eq_right within.2, Int.max_eq_right within.1]
  exact units_ofUnits within.1 within.2

end Fixed
end ControlMachine
