import ControlMachine.Proofs.FixedArithmetic
import ControlMachine.Proofs.GainSigns

/- Products, quotients and remainders of fixed point numbers. Products and quotients are worked out in
   64 bits and then cut to 32, and each drops its fraction toward zero. So a number that is divided
   and multiplied again comes back a little nearer to zero, and never on the other side of it. -/
namespace ControlMachine.Fixed
variable {a b x : Fixed} {n k : Int}

/-- A number on the way from zero to another one, both included. -/
def OnTheWay (n k : Int) : Prop := 0 ≤ n ∧ n ≤ k ∨ k ≤ n ∧ n ≤ 0

theorem OnTheWay.natAbs_le (way : OnTheWay n k) : n.natAbs ≤ k.natAbs := by
  unfold OnTheWay at way
  omega

theorem OnTheWay.sign (way : OnTheWay n k) : n = 0 ∨ n.sign = k.sign := by
  unfold OnTheWay at way
  rcases Int.lt_trichotomy n 0 with minus | zero | plus
  · have other : k < 0 := by omega
    rw [Int.sign_eq_neg_one_of_neg minus, Int.sign_eq_neg_one_of_neg other]
    exact Or.inr rfl
  · exact Or.inl zero
  · have other : 0 < k := by omega
    rw [Int.sign_eq_one_of_pos plus, Int.sign_eq_one_of_pos other]
    exact Or.inr rfl

theorem OnTheWay.rest (way : OnTheWay n k) : OnTheWay (k - n) k := by
  unfold OnTheWay at way ⊢
  omega

theorem OnTheWay.units (way : OnTheWay n x.units) : (ofUnits n).units = n := by
  have low := least_le_units x
  have high : x.units ≤ greatest.units := Int32.toInt_le x.raw
  have bottom : least.units ≤ 0 := by decide
  have top : 0 ≤ greatest.units := by decide
  unfold OnTheWay at way
  apply units_ofUnits <;> omega

theorem onTheWay_tmod (n d : Int) : OnTheWay (n.tmod d) n := by
  have short : (n.tmod d).natAbs ≤ n.natAbs := by
    rw [Int.natAbs_tmod]
    exact Nat.mod_le _ _
  rcases Int.le_total 0 n with plus | minus
  · have left := Int.tmod_nonneg d plus
    exact Or.inl ⟨left, by omega⟩
  · have left := Int.tmod_nonneg d (Int.neg_nonneg_of_nonpos minus)
    rw [Int.neg_tmod] at left
    exact Or.inr ⟨by omega, by omega⟩

theorem tdiv_mul_eq (n d : Int) : n.tdiv d * d = n - n.tmod d := by
  rw [Int.tmod_def, Int.mul_comm]
  omega

theorem onTheWay_tdiv {d : Int} (positive : 0 < d) (way : OnTheWay n (k * d)) :
    OnTheWay (n.tdiv d) k := by
  have zero := Int.zero_tdiv d
  have whole := Int.mul_tdiv_cancel k (Int.ne_of_gt positive)
  -- quotients by the same divisor are in the order of their dividends
  rcases way with ⟨plus, below⟩ | ⟨above, minus⟩
  · have first := Int.tdiv_le_tdiv positive plus
    have second := Int.tdiv_le_tdiv positive below
    rw [zero] at first
    rw [whole] at second
    exact Or.inl ⟨first, second⟩
  · have first := Int.tdiv_le_tdiv positive above
    have second := Int.tdiv_le_tdiv positive minus
    rw [whole] at first
    rw [zero] at second
    exact Or.inr ⟨first, second⟩

def wideProduct (a b : Fixed) : Int64 := a.raw.toInt64 * b.raw.toInt64

def wideDividend (a : Fixed) : Int64 := a.raw.toInt64 <<< 8

/-- Products and quotients are the low bits of what 64 bits give, and those hold the exact numbers
    all the way. -/
structure ExactInWide (a b : Fixed) : Prop where
  product : (wideProduct a b).toInt = a.units * b.units
  scaled : (wideProduct a b / 256).toInt = (a.units * b.units).tdiv 256
  mul : a * b = ⟨(wideProduct a b / 256).toInt32⟩
  dividend : (wideDividend a).toInt = a.units * 256
  quotient : (wideDividend a / b.raw.toInt64).toInt = (a.units * 256).tdiv b.units
  div : a / b = ⟨(wideDividend a / b.raw.toInt64).toInt32⟩

theorem bmod_wide (small : n.natAbs < 0x8000000000000000) : n.bmod 0x10000000000000000 = n := by
  apply Int.bmod_eq_of_le <;> omega

theorem natAbs_product_le (a b : Fixed) : (a.units * b.units).natAbs ≤ 0x4000000000000000 := by
  rw [Int.natAbs_mul]
  calc a.units.natAbs * b.units.natAbs
      ≤ 2147483648 * 2147483648 := Nat.mul_le_mul (natAbs_le a) (natAbs_le b)
    _ = 0x4000000000000000 := by decide

theorem natAbs_dividend_le (a : Fixed) : (a.units * 256).natAbs ≤ 0x8000000000 := by
  rw [Int.natAbs_mul]
  exact Nat.mul_le_mul_right 256 (natAbs_le a)

theorem toInt_wideProduct (a b : Fixed) : (wideProduct a b).toInt = a.units * b.units := by
  have small := natAbs_product_le a b
  rw [wideProduct, Int64.toInt_mul, Int32.toInt_toInt64, Int32.toInt_toInt64]
  exact bmod_wide (Nat.lt_of_le_of_lt small (by decide))

theorem shiftLeft_eq_mul (w : Int64) : w <<< 8 = w * 256 := by
  rw [← Int64.toBitVec_inj, Int64.toBitVec_shiftLeft, Int64.toBitVec_mul,
    show (Int64.toBitVec 8).smod 64 = 8#64 from rfl, BitVec.shiftLeft_eq',
    BitVec.shiftLeft_eq_mul_twoPow]
  rfl

theorem toInt_wideDividend (a : Fixed) : (wideDividend a).toInt = a.units * 256 := by
  have small := natAbs_dividend_le a
  rw [wideDividend, shiftLeft_eq_mul, Int64.toInt_mul, Int32.toInt_toInt64]
  exact bmod_wide (Nat.lt_of_le_of_lt small (by decide))

/-- The one quotient of 64 bits that is out of range has the least dividend. -/
theorem toInt_quotient {w : Int64} (small : w.toInt.natAbs < 0x8000000000000000) (d : Int64) :
    (w / d).toInt = w.toInt.tdiv d.toInt := by
  have shorter := Int.natAbs_tdiv_le_natAbs w.toInt d.toInt
  rw [Int64.toInt_div]
  exact bmod_wide (by omega)

theorem div_def (some : b.units ≠ 0) : a / b = ofUnits ((a.units * 256).tdiv b.units) :=
  if_neg some

theorem exactInWide (a : Fixed) (some : b.units ≠ 0) : ExactInWide a b := by
  have product := toInt_wideProduct a b
  have productSmall := natAbs_product_le a b
  have dividend := toInt_wideDividend a
  have dividendSmall := natAbs_dividend_le a
  have scaled : (wideProduct a b / 256).toInt = (a.units * b.units).tdiv 256 := by
    rw [toInt_quotient (by rw [product]; omega), product]
    rfl
  have quotient : (wideDividend a / b.raw.toInt64).toInt = (a.units * 256).tdiv b.units := by
    rw [toInt_quotient (by rw [dividend]; omega), dividend, Int32.toInt_toInt64]
    rfl
  constructor
  case product => exact product
  case scaled => exact scaled
  case mul => rw [mul_def, ofUnits, ← scaled, Int32.ofInt_int64ToInt]
  case dividend => exact dividend
  case quotient => exact quotient
  case div => rw [div_def some, ofUnits, ← quotient, Int32.ofInt_int64ToInt]

def QuotientFits (a b : Fixed) : Prop :=
  least.units ≤ (a.units * 256).tdiv b.units ∧ (a.units * 256).tdiv b.units ≤ greatest.units

instance (a b : Fixed) : Decidable (QuotientFits a b) := inferInstanceAs (Decidable (_ ∧ _))

/-- A number after it was divided and multiplied again: on its side of zero, not farther from it, and
    nearer by no more than a 256th of the other number, rounded up. -/
structure Restored (a b : Fixed) : Prop where
  sign : (a / b * b).units = 0 ∨ (a / b * b).units.sign = a.units.sign
  below : (a / b * b).units.natAbs ≤ a.units.natAbs
  near : a.units.natAbs - (a / b * b).units.natAbs ≤ (b.units.natAbs + 255) / 256

theorem units_restored (some : b.units ≠ 0) (fits : QuotientFits a b) :
    (a / b * b).units = (a.units * 256 - (a.units * 256).tmod b.units).tdiv 256 ∧
      OnTheWay (a / b * b).units a.units := by
  have quotient : (a / b).units = (a.units * 256).tdiv b.units := by
    rw [div_def some]
    exact units_ofUnits fits.1 fits.2
  have way : OnTheWay ((a.units * 256 - (a.units * 256).tmod b.units).tdiv 256) a.units :=
    onTheWay_tdiv (by decide) (onTheWay_tmod _ b.units).rest
  have same : (a / b * b).units =
      (a.units * 256 - (a.units * 256).tmod b.units).tdiv 256 := by
    rw [mul_def, quotient, tdiv_mul_eq, way.units]
  exact ⟨same, by rw [same]; exact way⟩

theorem natAbs_tmod_lt (n : Int) {d : Int} (some : d ≠ 0) : (n.tmod d).natAbs < d.natAbs := by
  rw [Int.natAbs_tmod]
  exact Nat.mod_lt _ (Int.natAbs_pos.mpr some)

theorem restored_of_fits (some : b.units ≠ 0) (fits : QuotientFits a b) : Restored a b := by
  obtain ⟨same, way⟩ := units_restored some fits
  constructor
  case sign => exact way.sign
  case below => exact way.natAbs_le
  case near =>
    -- both fractions that are dropped are counted in units of the dividend
    have first := natAbs_tmod_lt (a.units * 256) some
    have left := onTheWay_tmod (a.units * 256) b.units
    have second : (a / b * b).units.natAbs =
        (a.units * 256 - (a.units * 256).tmod b.units).natAbs / 256 := by
      rw [same, Int.natAbs_tdiv]
      rfl
    unfold OnTheWay at left
    omega

/-- What is left of a number when another is taken from it as often as it goes. -/
structure LeftOver (a b : Fixed) : Prop where
  small : (remainder a b).units.natAbs < b.units.natAbs
  sign : (remainder a b).units = 0 ∨ (remainder a b).units.sign = a.units.sign
  taken : (a - remainder a b).units = a.units - (remainder a b).units
  multiple : b.units ∣ a.units - (remainder a b).units

theorem leftOver (a : Fixed) (some : b.units ≠ 0) : LeftOver a b := by
  have way := onTheWay_tmod a.units b.units
  have same : (remainder a b).units = a.units.tmod b.units := by
    rw [remainder, if_neg some, way.units]
  constructor
  case small =>
    rw [same]
    exact natAbs_tmod_lt a.units some
  case sign =>
    rw [same]
    exact way.sign
  case taken =>
    have rest := way.rest
    rw [← same] at rest
    exact rest.units
  case multiple =>
    rw [same, ← tdiv_mul_eq]
    exact Int.dvd_mul_left _ _

theorem quotients_fit_together (a b : Fixed) (some : b ≠ 0) :
    ExactInWide a b ∧ (QuotientFits a b → Restored a b) ∧ LeftOver a b := by
  have nonzero : b.units ≠ 0 := by
    intro zero
    exact some (congrArg Fixed.mk (Int32.toInt_inj.mp zero))
  exact ⟨exactInWide a nonzero, restored_of_fits nonzero, leftOver a nonzero⟩

/-- The least number over one step below zero gives 2^39, far out of 32 bits. Over 281 of these steps
    it comes back with two units less, and no more are allowed. -/
theorem quotients_fit_together_at_least :
    (ofUnits (-1) ≠ 0 ∧ (wideDividend least / (ofUnits (-1)).raw.toInt64).toInt = 0x8000000000) ∧
      ofUnits (-281) ≠ 0 ∧ QuotientFits least (ofUnits (-281)) ∧
      Restored least (ofUnits (-281)) ∧
      (least / ofUnits (-281) * ofUnits (-281)).units = least.units + 2 ∧
      LeftOver least (ofUnits (-281)) := by
  have step : ofUnits (-1) ≠ 0 := by decide
  have steps : ofUnits (-281) ≠ 0 := by decide
  have fits : QuotientFits least (ofUnits (-281)) := by decide
  obtain ⟨exact, -, -⟩ := quotients_fit_together least (ofUnits (-1)) step
  obtain ⟨-, restored, left⟩ := quotients_fit_together least (ofUnits (-281)) steps
  exact ⟨⟨step, exact.quotient.trans (by decide)⟩, steps, fits, restored fits, by decide, left⟩

end ControlMachine.Fixed
