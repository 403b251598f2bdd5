import ControlMachine.Binary.Format

/- Quotients rounded to a format. Rounding moves a number by half a place at most, so one that is not
   too near the next multiple of a unit keeps its whole number of units. -/
namespace ControlMachine
variable {num den k whole : Nat}

theorem le_roundEven (positive : 0 < den) (le : k * den ≤ num) : k ≤ roundEven num den := by
  have below : k ≤ num / den := (Nat.le_div_iff_mul_le positive).mpr le
  unfold roundEven
  dsimp only
  split
  · exact below
  · split
    · exact Nat.le_succ_of_le below
    · exact Nat.le_add_right_of_le below

theorem roundEven_lt (lt : 2 * num + den < 2 * k * den) : roundEven num den < k := by
  have parts := Nat.div_add_mod num den
  have scaled : ∀ n, 2 * (n * den) ≤ 2 * num + den → n < k := by
    intro n le
    have product : n * den < k * den := by
      rw [Nat.mul_assoc] at lt
      omega
    exact Nat.lt_of_mul_lt_mul_right product
  have next : (num / den + 1) * den = den * (num / den) + den := by
    rw [Nat.add_mul, Nat.one_mul, Nat.mul_comm]
  unfold roundEven
  dsimp only
  split
  · apply scaled
    rw [Nat.mul_comm (num / den)]
    omega
  · split
    · apply scaled
      omega
    · have least : num / den % 2 ≤ 1 := by omega
      exact Nat.lt_of_le_of_lt (Nat.add_le_add_left least _) (scaled _ (by omega))

theorem floorLog2_le (num den : Nat) : floorLog2 num den ≤ num.log2 - den.log2 := by
  unfold floorLog2
  dsimp only
  split
  · exact Int.le_refl _
  · omega

namespace Format
open Datum
variable {f : Format} {least p : Nat}

theorem twos_natCast (n : Nat) : twos (n : Int) = Nat.pow 2 n := by
  rw [twos, Int.toNat_natCast]

theorem twos_of_nonpos {e : Int} (nonpos : e ≤ 0) : twos e = 1 := by
  rw [twos, Int.toNat_of_nonpos nonpos]

theorem cut_off {e : Int} {more : Nat} (m : Nat) (place : e = -(more : Int)) :
    numerator m e / denominator e = m / Nat.pow 2 more := by
  have back : -e = more := by omega
  rw [numerator, denominator, back, twos_natCast, twos_of_nonpos (by omega), Nat.mul_one]

/-- A quotient whose last place is far behind the point is rounded to a finite number. Cut off at a
    place before the last, it is what the nearest multiple of the last place is. -/
theorem exists_round (negative : Bool) (some : num ≠ 0) (lowest : f.least ≤ -(least : Int))
    (fine : floorLog2 num den - (f.precision - 1) ≤ -(least : Int))
    (room : 1 ≤ f.greatest) :
    ∃ (p m : Nat) (e : Int), least ≤ p ∧ f.round negative num den = .finite negative m e ∧
      ∀ k < p, numerator m (e + k) / denominator (e + k) =
        roundEven (num * Nat.pow 2 p) den / Nat.pow 2 (p - k) := by
  obtain ⟨p, place⟩ : ∃ p : Nat,
      max f.least (floorLog2 num den - (f.precision - 1)) = -(p : Int) :=
    ⟨(-max f.least (floorLog2 num den - (f.precision - 1))).toNat, by omega⟩
  have ones : twos (-(p : Int)) = 1 := twos_of_nonpos (by omega)
  refine ⟨p, ?_⟩
  unfold Format.round
  rw [if_neg some]
  simp only [place, Int.neg_neg, twos_natCast, ones, Nat.mul_one]
  generalize roundEven (num * Nat.pow 2 p) den = m
  by_cases carried : m = Nat.pow 2 f.precision
  · simp only [if_pos carried, if_neg (show ¬ f.greatest < -(p : Int) + 1 by omega)]
    refine ⟨m / 2, -(p : Int) + 1, by omega, rfl, fun k before => ?_⟩
    obtain ⟨more, rfl⟩ := Nat.exists_eq_add_of_lt before
    have both : k + more + 1 - k = more + 1 := by omega
    have twice : Nat.pow 2 (more + 1) = 2 * Nat.pow 2 more := Nat.mul_comm _ _
    have left : -((k + more + 1 : Nat) : Int) + 1 + k = -(more : Int) := by omega
    rw [cut_off (m / 2) left, both, twice, Nat.div_div_eq_div_mul]
  · simp only [if_neg carried, if_neg (show ¬ f.greatest < -(p : Int) by omega)]
    refine ⟨m, -(p : Int), by omega, rfl, fun k before => cut_off m (by omega)⟩

/-- The whole number of units is kept if the quotient is short of the next one by a gap that is
    more than half of a last place. -/
theorem roundEven_div {gap more : Nat} (positive : 0 < den) (low : whole * den ≤ num * Nat.pow 2 k)
    (high : num * Nat.pow 2 k + gap ≤ (whole + 1) * den) (wide : den < 2 * gap * Nat.pow 2 more) :
    roundEven (num * Nat.pow 2 (k + more)) den / Nat.pow 2 more = whole := by
  have unit : 0 < Nat.pow 2 more := Nat.pow_pos (by decide)
  have scaled : num * Nat.pow 2 (k + more) = num * Nat.pow 2 k * Nat.pow 2 more := by
    rw [Nat.mul_assoc, show Nat.pow 2 (k + more) = Nat.pow 2 k * Nat.pow 2 more from
      Nat.pow_add 2 k more]
  rw [scaled]
  apply Nat.div_eq_of_lt_le
  · apply le_roundEven positive
    rw [Nat.mul_right_comm]
    exact Nat.mul_le_mul_right _ low
  · apply roundEven_lt
    have most := Nat.mul_le_mul_right (Nat.pow 2 more) high
    rw [Nat.add_mul, Nat.mul_right_comm (whole + 1)] at most
    rw [Nat.mul_assoc] at wide
    rw [Nat.mul_assoc 2]
    omega

end Format
end ControlMachine
