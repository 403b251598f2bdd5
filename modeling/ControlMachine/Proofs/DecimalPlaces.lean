import ControlMachine.Decimal.Places
import ControlMachine.Proofs.WholeNumbers

/- Decimals with a point as text: what stands in front of the point and behind it, and that the digits
   of both, read as one number, are the number that was written. -/
namespace ControlMachine

namespace Decimal
open Numeral
variable {c : Char} {n k : Nat}

/-- So many digits of a number, the last ones, with zeros where there are none. -/
def lastDigits : Nat → Nat → List Char
  | 0, _ => []
  | k + 1, n => lastDigits k (n / 10) ++ [Nat.digitChar (n % 10)]

@[simp] theorem length_lastDigits (k n : Nat) : (lastDigits k n).length = k := by
  induction k generalizing n with
  | zero => rfl
  | succ k ih => rw [lastDigits, List.length_append, ih, List.length_singleton]

theorem isDigit_digitChar (small : n < 10) : isDigit (Nat.digitChar n) = true := by
  rw [isDigit_iff, Nat.toNat_digitChar_of_lt_ten small]
  omega

theorem isDigit_of_mem_lastDigits (among : c ∈ lastDigits k n) : isDigit c = true := by
  induction k generalizing n with
  | zero => cases among
  | succ k ih =>
    rcases List.mem_append.mp among with before | last
    · exact ih before
    · rw [List.mem_singleton.mp last]
      exact isDigit_digitChar (Nat.mod_lt n (by decide))

theorem lastDigits_mod (k n : Nat) : lastDigits k (n % Nat.pow 10 k) = lastDigits k n := by
  induction k generalizing n with
  | zero => rfl
  | succ k ih =>
    have whole : Nat.pow 10 (k + 1) = 10 * Nat.pow 10 k := Nat.mul_comm _ _
    have last : n % Nat.pow 10 (k + 1) % 10 = n % 10 := by
      rw [whole, Nat.mod_mul_right_mod]
    have before : n % Nat.pow 10 (k + 1) / 10 = n / 10 % Nat.pow 10 k := by
      rw [whole, Nat.mod_mul_right_div_self]
    rw [lastDigits, lastDigits, last, before, ih]

theorem leftpad_concat (k : Nat) (digits : List Char) :
    (digits ++ [c]).leftpad (k + 1) '0' = digits.leftpad k '0' ++ [c] := by
  simp only [List.leftpad, List.length_append, List.length_singleton, Nat.add_sub_add_right,
    List.append_assoc]

theorem leftpad_nothing (k : Nat) : [].leftpad (k + 1) '0' = ['0'].leftpad (k + 1) '0' := by
  simp [List.leftpad, ← List.replicate_succ']

theorem leftpad_split (k n : Nat) : (Nat.toDigits 10 n).leftpad (k + 1) '0' =
    Nat.toDigits 10 (n / Nat.pow 10 k) ++ lastDigits k n := by
  induction k generalizing n with
  | zero =>
    have some : 0 < (Nat.toDigits 10 n).length := List.length_pos_iff.mpr Nat.toDigits_ne_nil
    have unpadded : 0 + 1 - (Nat.toDigits 10 n).length = 0 := by omega
    rw [List.leftpad, unpadded, lastDigits, List.append_nil]
    exact congrArg (Nat.toDigits 10) (Nat.div_one n).symm
  | succ k ih =>
    have tenth : n / Nat.pow 10 (k + 1) = n / 10 / Nat.pow 10 k := by
      rw [Nat.div_div_eq_div_mul, show Nat.pow 10 (k + 1) = 10 * Nat.pow 10 k from Nat.mul_comm _ _]
    rw [tenth, lastDigits, ← List.append_assoc, ← ih]
    by_cases single : n < 10
    · rw [Nat.toDigits_of_lt_base single, Nat.div_eq_of_lt single, Nat.mod_eq_of_lt single,
        ← List.nil_append [Nat.digitChar n], leftpad_concat, leftpad_nothing]
      rfl
    · rw [Nat.toDigits_of_base_le (by decide) (Nat.le_of_not_lt single), leftpad_concat]

theorem leftpad_toDigits (positive : 0 < k) (small : n < Nat.pow 10 k) :
    (Nat.toDigits 10 n).leftpad k '0' = lastDigits k n := by
  have short : (Nat.toDigits 10 n).length ≤ k :=
    (Nat.length_toDigits_le_iff (by decide) positive).mpr small
  have split := leftpad_split k n
  rw [Nat.div_eq_of_lt small, List.leftpad, Nat.succ_sub short, List.replicate_succ] at split
  exact List.cons.inj split |>.2

theorem value_split (k n : Nat) :
    value (Nat.toDigits 10 (n / Nat.pow 10 k) ++ lastDigits k n) = n := by
  induction k generalizing n with
  | zero =>
    rw [lastDigits, List.append_nil, value_toDigits]
    exact Nat.div_one n
  | succ k ih =>
    have tenth : n / Nat.pow 10 (k + 1) = n / 10 / Nat.pow 10 k := by
      rw [Nat.div_div_eq_div_mul, show Nat.pow 10 (k + 1) = 10 * Nat.pow 10 k from Nat.mul_comm _ _]
    have last : digitValue (Nat.digitChar (n % 10)) = n % 10 := by
      rw [digitValue, Nat.toNat_digitChar_of_lt_ten (Nat.mod_lt n (by decide))]
      exact Nat.add_sub_cancel_left 48 (n % 10)
    have before := ih (n / 10)
    unfold value at before ⊢
    rw [tenth, lastDigits, ← List.append_assoc, List.foldl_append, before, List.foldl_cons,
      List.foldl_nil, last]
    exact Nat.div_add_mod' n 10

theorem pointed_toList (positive : 0 < k) (n : Nat) : (pointed n k).toList =
    Nat.toDigits 10 (n / Nat.pow 10 k) ++ '.' :: lastDigits k n := by
  have places : k ≠ 0 := Nat.pos_iff_ne_zero.mp positive
  have front : (Nat.toDigits 10 (n / Nat.pow 10 k) ++ lastDigits k n).length - k =
      (Nat.toDigits 10 (n / Nat.pow 10 k)).length := by
    rw [List.length_append, length_lastDigits, Nat.add_sub_cancel]
  simp only [pointed, if_neg places, leftpad_split, front, String.toList_ofList,
    List.take_left, List.drop_left]

end Decimal

namespace Numeral
variable {c : Char} {whole fraction rest : List Char}

theorem splitSign_leading (sign : Sign) (digit : isDigit c = true) :
    splitSign (sign.chars ++ c :: rest) = (sign.isMinus, c :: rest) := by
  cases sign with
  | none =>
    have range := isDigit_iff.mp digit
    change splitSign (c :: rest) = _
    unfold splitSign
    split
    · rename_i same
      cases same
      exact absurd range (by decide)
    · rename_i same
      cases same
      exact absurd range (by decide)
    · rfl
  | plus | minus => rfl

theorem word?_leading (digit : isDigit c = true) (negative : Bool) :
    word? (c :: rest) negative = none := by
  have range := isDigit_iff.mp digit
  have lower : c.toLower = c := by
    unfold Char.toLower
    refine dif_neg fun capital => ?_
    have low : 65 ≤ c.toNat := capital.1
    omega
  have other : ∀ (d : Char) (word : List Char), 57 < d.toNat →
      String.ofList ((c :: rest).map Char.toLower) ≠ String.ofList (d :: word) := by
    intro d word high same
    have letters := String.ofList_injective same
    rw [List.map_cons, lower] at letters
    obtain ⟨rfl, -⟩ := List.cons.inj letters
    omega
  unfold word?
  split
  · rename_i same
    exact absurd same (other 'i' ['n', 'f'] (by decide))
  · rename_i same
    exact absurd same (other 'i' ['n', 'f', 'i', 'n', 'i', 't', 'y'] (by decide))
  · rename_i same
    exact absurd same (other 'n' ['a', 'n'] (by decide))
  · rfl

theorem readDouble_spelled (sign : Sign) (some : whole ≠ [])
    (wholeDigits : ∀ c ∈ whole, isDigit c = true)
    (fractionDigits : ∀ c ∈ fraction, isDigit c = true) :
    readDouble (sign.chars ++ (whole ++ '.' :: fraction)) =
      .ok (toDouble sign.isMinus (value (whole ++ fraction)) (-fraction.length)) := by
  obtain ⟨c, others, rfl⟩ := List.exists_cons_of_ne_nil some
  have leading := wholeDigits c List.mem_cons_self
  have point : isDigit '.' = false := by decide
  have front : (c :: others ++ '.' :: fraction).takeWhile isDigit = c :: others := by
    rw [List.takeWhile_append_of_pos wholeDigits, List.takeWhile_cons_of_neg (by simp [point]),
      List.append_nil]
  have back : (c :: others ++ '.' :: fraction).dropWhile isDigit = '.' :: fraction := by
    rw [List.dropWhile_append_of_pos wholeDigits, List.dropWhile_cons_of_neg (by simp [point])]
  have places : (fraction ++ []).takeWhile isDigit = fraction ++ [].takeWhile isDigit :=
    List.takeWhile_append_of_pos fractionDigits
  have nothing : (fraction ++ []).dropWhile isDigit = [].dropWhile isDigit :=
    List.dropWhile_append_of_pos fractionDigits
  rw [List.append_nil] at places nothing
  have text : (sign.chars ++ (c :: others ++ '.' :: fraction)).isEmpty = false := by simp
  have split : splitSign (sign.chars ++ (c :: others ++ '.' :: fraction)) =
      (sign.isMinus, c :: others ++ '.' :: fraction) := splitSign_leading sign leading
  have words : word? (c :: others ++ '.' :: fraction) sign.isMinus = none := word?_leading leading _
  simp only [readDouble, split, front, back, places, nothing, text, words, exponent?]
  simp

end Numeral
end ControlMachine
