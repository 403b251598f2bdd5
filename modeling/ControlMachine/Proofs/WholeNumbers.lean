import ControlMachine.Decimal.Numeral
import ControlMachine.Text.Blank

/- Whole numbers as text: digits after at most one sign. That is all that is read as a whole number,
   and the digits that a number is written with are read as that number. Short texts are read by
   numbers of 64 bits as well. -/
namespace ControlMachine

section Trimming
variable {before core trailing text : List Char} {c : Char}

theorem exists_trimmed (text : List Char) :
    ∃ before trailing, text = before ++ trimBlanks text ++ trailing ∧
      (∀ c ∈ before, isBlank c = true) ∧ ∀ c ∈ trailing, isBlank c = true := by
  let rest := text.dropWhile isBlank
  refine ⟨text.takeWhile isBlank, (rest.reverse.takeWhile isBlank).reverse, ?_, ?_, ?_⟩
  · have back : trimBlanks text ++ (rest.reverse.takeWhile isBlank).reverse = rest := by
      rw [trimBlanks, ← List.reverse_append, List.takeWhile_append_dropWhile, List.reverse_reverse]
    rw [List.append_assoc, back, List.takeWhile_append_dropWhile]
  · exact fun c => List.all_eq_true.mp List.all_takeWhile c
  · intro c among
    exact List.all_eq_true.mp List.all_takeWhile c (List.mem_reverse.mp among)

theorem dropWhile_clear (blank : ∀ c ∈ before, isBlank c = true) (some : core ≠ [])
    (clear : ∀ c ∈ core, isBlank c = false) :
    (before ++ (core ++ trailing)).dropWhile isBlank = core ++ trailing := by
  rw [List.dropWhile_append_of_pos blank]
  cases core with
  | nil => exact absurd rfl some
  | cons c core => rw [List.cons_append, List.dropWhile_cons, clear c (by simp)]; rfl

theorem trimBlanks_spelled (blank : ∀ c ∈ before, isBlank c = true)
    (blankToo : ∀ c ∈ trailing, isBlank c = true) (some : core ≠ [])
    (clear : ∀ c ∈ core, isBlank c = false) :
    trimBlanks (before ++ core ++ trailing) = core := by
  have back : (core ++ trailing).reverse.dropWhile isBlank = core.reverse := by
    have ends : (trailing.reverse ++ (core.reverse ++ [])).dropWhile isBlank = core.reverse ++ [] :=
      dropWhile_clear (by simpa using blankToo) (by simpa using some) (by simpa using clear)
    rwa [List.append_nil, ← List.reverse_append] at ends
  rw [trimBlanks, List.append_assoc, dropWhile_clear blank some clear, back, List.reverse_reverse]

end Trimming

namespace Numeral

inductive Sign where
  | none | plus | minus
  deriving DecidableEq, Repr

namespace Sign

def chars : Sign → List Char
  | .none => []
  | .plus => ['+']
  | .minus => ['-']

def apply : Sign → Nat → Int
  | .minus, n => -n
  | _, n => n

def isMinus (sign : Sign) : Bool := sign == .minus

end Sign

variable {text digits : List Char} {n : Int} {c : Char} {sign : Sign}

theorem isDigit_iff : isDigit c = true ↔ 48 ≤ c.toNat ∧ c.toNat ≤ 57 := by
  simp only [isDigit, Bool.and_eq_true, decide_eq_true_eq]
  rfl

theorem digit_clear (digit : isDigit c = true) : isBlank c = false := by
  have range := isDigit_iff.mp digit
  simp only [isBlank, Bool.or_eq_false_iff, Bool.and_eq_false_iff, decide_eq_false_iff_not,
    beq_eq_false_iff_ne]
  omega

theorem sign_clear (first : c ∈ sign.chars) : isBlank c = false := by
  cases sign with
  | none => cases first
  | plus =>
    cases List.mem_singleton.mp first
    rfl
  | minus =>
    cases List.mem_singleton.mp first
    rfl

theorem splitSign_chars (sign : Sign) (decimal : ∀ c ∈ digits, isDigit c = true) :
    splitSign (sign.chars ++ digits) = (sign.isMinus, digits) := by
  cases sign with
  | none =>
    cases digits with
    | nil => rfl
    | cons c digits =>
      have range := isDigit_iff.mp (decimal c (by simp))
      unfold splitSign
      split
      · rename_i same
        cases same
        exact absurd range (by decide)
      · rename_i same
        cases same
        exact absurd range (by decide)
      · rfl
  | plus => rfl
  | minus => rfl

theorem exists_sign (text : List Char) :
    ∃ sign : Sign, text = sign.chars ++ (splitSign text).2 ∧ (splitSign text).1 = sign.isMinus := by
  unfold splitSign
  split
  · exact ⟨.minus, rfl, rfl⟩
  · exact ⟨.plus, rfl, rfl⟩
  · exact ⟨.none, rfl, rfl⟩

theorem apply_eq (sign : Sign) (n : Nat) :
    sign.apply n = if sign.isMinus then -(n : Int) else n := by
  cases sign <;> rfl

theorem readInt_spelled (sign : Sign) (some : digits ≠ [])
    (decimal : ∀ c ∈ digits, isDigit c = true) :
    readInt (sign.chars ++ digits) = .ok (sign.apply (value digits)) := by
  have text : (sign.chars ++ digits).isEmpty = false := by simp [some]
  have digitsToo : digits.isEmpty = false := by simp [some]
  have all : digits.all isDigit = true := List.all_eq_true.mpr decimal
  simp [readInt, splitSign_chars sign decimal, text, digitsToo, all, apply_eq]

theorem readInt_eq_ok : readInt text = .ok n ↔
    ∃ (sign : Sign) (digits : List Char), text = sign.chars ++ digits ∧ digits ≠ [] ∧
      (∀ c ∈ digits, isDigit c = true) ∧ n = sign.apply (value digits) := by
  constructor
  · intro read
    obtain ⟨sign, spelled, minus⟩ := exists_sign text
    simp only [readInt] at read
    split at read
    · cases read
    · split at read
      · cases read
      · rename_i shape
        simp only [Bool.or_eq_true, Bool.not_eq_true', not_or, Bool.not_eq_false,
          List.isEmpty_iff] at shape
        refine ⟨sign, _, spelled, shape.1, List.all_eq_true.mp shape.2, ?_⟩
        rw [apply_eq, ← minus]
        exact (Except.ok.inj read).symm
  · rintro ⟨sign, digits, rfl, some, decimal, rfl⟩
    exact readInt_spelled sign some decimal

theorem value_toDigits (n : Nat) : value (Nat.toDigits 10 n) = n := by
  have step : ∀ (digits : List Char) (start : Nat),
      digits.foldl (fun n c => n * 10 + digitValue c) start =
        Nat.ofDigitChars 10 digits start := by
    intro digits start
    simp only [Nat.ofDigitChars, digitValue, Nat.mul_comm]
  rw [value, step]
  exact Nat.ofDigitChars_toDigits (by decide) (by decide)

theorem isDigit_of_mem_toDigits {n : Nat} (among : c ∈ Nat.toDigits 10 n) : isDigit c = true :=
  Nat.isDigit_of_mem_toDigits (by decide) (by decide) among

section Checked

def valueFrom (start : Nat) (digits : List Char) : Nat :=
  digits.foldl (fun n c => n * 10 + digitValue c) start

theorem le_valueFrom (start : Nat) (digits : List Char) : start ≤ valueFrom start digits := by
  induction digits generalizing start with
  | nil => exact Nat.le_refl start
  | cons c digits ih =>
    have more : start * 10 + digitValue c ≤ valueFrom start (c :: digits) := ih _
    omega

theorem valueFrom_lt (start : Nat) (decimal : ∀ c ∈ digits, isDigit c = true) :
    valueFrom start digits < (start + 1) * Nat.pow 10 digits.length := by
  induction digits generalizing start with
  | nil =>
    have unit : (start + 1) * Nat.pow 10 0 = start + 1 := Nat.mul_one _
    rw [List.length_nil, unit]
    exact Nat.lt_succ_self start
  | cons c digits ih =>
    have below : digitValue c ≤ 9 := by
      have range := isDigit_iff.mp (decimal c (by simp))
      change c.toNat - 48 ≤ 9
      omega
    have rest := ih (start * 10 + digitValue c) fun c among => decimal c (by simp [among])
    have wider : (start * 10 + digitValue c + 1) * Nat.pow 10 digits.length ≤
        (start + 1) * Nat.pow 10 (digits.length + 1) := by
      rw [show Nat.pow 10 (digits.length + 1) = 10 * Nat.pow 10 digits.length from
        Nat.mul_comm _ _, ← Nat.mul_assoc]
      exact Nat.mul_le_mul_right _ (by omega)
    exact Nat.lt_of_lt_of_le rest wider

def fits64 (n : Int) : Bool := decide (-0x8000000000000000 ≤ n ∧ n < 0x8000000000000000)

def take64 (negative : Bool) (n : Int) (c : Char) : Option Int :=
  let next := if negative then n * 10 - digitValue c else n * 10 + digitValue c
  if fits64 (n * 10) && fits64 next then some next else none

inductive Error64 where
  | refused (error : Error)
  | overflow
  deriving DecidableEq, Repr

def readInt64 (text : List Char) : Except Error64 Int :=
  match readInt text with
  | .error error => .error (.refused error)
  | .ok _ =>
    let (negative, digits) := splitSign text
    match digits.foldlM (take64 negative) 0 with
    | some n => .ok n
    | none => .error .overflow

theorem foldlM_take64 (sign : Sign) {start : Nat}
    (small : valueFrom start digits < 0x8000000000000000) :
    digits.foldlM (take64 sign.isMinus) (sign.apply start) =
      some (sign.apply (valueFrom start digits)) := by
  induction digits generalizing start with
  | nil => rfl
  | cons c digits ih =>
    -- no number on the way is greater than the last one, which fits
    have next : start * 10 + digitValue c ≤ valueFrom start (c :: digits) :=
      le_valueFrom (start * 10 + digitValue c) digits
    have taken : take64 sign.isMinus (sign.apply start) c =
        some (sign.apply (start * 10 + digitValue c)) := by
      have step : (if sign.isMinus then sign.apply start * 10 - digitValue c
          else sign.apply start * 10 + digitValue c) = sign.apply (start * 10 + digitValue c) := by
        rw [apply_eq, apply_eq]
        split <;> omega
      have within : fits64 (sign.apply start * 10) &&
          fits64 (sign.apply (start * 10 + digitValue c)) := by
        simp only [fits64, apply_eq, Bool.and_eq_true, decide_eq_true_eq]
        split <;> omega
      simp only [take64, step, within, if_true]
    rw [List.foldlM_cons, taken]
    exact ih small

theorem fits_short (short : digits.length ≤ 18)
    (decimal : ∀ c ∈ digits, isDigit c = true) : valueFrom 0 digits < 0x8000000000000000 := by
  have below := valueFrom_lt 0 decimal
  have most : Nat.pow 10 digits.length ≤ Nat.pow 10 18 := Nat.pow_le_pow_right (by decide) short
  have bound : Nat.pow 10 18 < 0x8000000000000000 := by decide
  omega

theorem readInt64_spelled (sign : Sign) (some : digits ≠ [])
    (decimal : ∀ c ∈ digits, isDigit c = true) (short : digits.length ≤ 18) :
    readInt64 (sign.chars ++ digits) = .ok (sign.apply (value digits)) := by
  have zero : sign.apply 0 = 0 := by cases sign <;> rfl
  have read := foldlM_take64 sign (fits_short short decimal)
  rw [zero] at read
  simp only [readInt64, readInt_spelled sign some decimal, splitSign_chars sign decimal, read]
  rfl

end Checked

end Numeral
end ControlMachine
