import ControlMachine.Text.HexProgram

/- Programs spelled in hexadecimal digits. Without its blanks, and with its letters as capitals, a
   text that is accepted is what the bytes are written as, two digits to each. All other texts are
   refused: for an odd number of characters, or else for their first pair that is not two digits. -/
namespace ControlMachine

namespace Hex
variable {c : Char} {d : Nat}

/-- The digits of either case, by their capitals. -/
def IsDigit (c : Char) : Prop :=
  c.toUpper ∈
    ['0', '1', '2', '3', '4', '5', '6', '7', '8', '9', 'A', 'B', 'C', 'D', 'E', 'F']

def capital (d : Nat) : Char := (Nat.digitChar d).toUpper

theorem toNat_capital : ∀ d < 16, (capital d).toNat = if d < 10 then 48 + d else 55 + d := by
  decide

theorem toNat_toUpper (c : Char) :
    c.toUpper.toNat = if 97 ≤ c.toNat ∧ c.toNat ≤ 122 then c.toNat - 32 else c.toNat := by
  have lower : 'a'.val ≤ c.val ∧ c.val ≤ 'z'.val ↔ 97 ≤ c.toNat ∧ c.toNat ≤ 122 := Iff.rfl
  unfold Char.toUpper
  split
  · rename_i small
    rw [if_pos (lower.mp small)]
    change (c.val + ('A'.val - 'a'.val)).toNat = c.val.toNat - 32
    have range : 97 ≤ c.val.toNat ∧ c.val.toNat ≤ 122 := lower.mp small
    have shift : ('A'.val - 'a'.val).toNat = 4294967264 := by decide
    rw [UInt32.toNat_add, shift]
    omega
  · rename_i other
    rw [if_neg (fun small => other (lower.mpr small))]

theorem digit?_eq_some : digit? c = some d ↔ d < 16 ∧ c.toUpper = capital d := by
  have decimal : '0' ≤ c ∧ c ≤ '9' ↔ 48 ≤ c.toNat ∧ c.toNat ≤ 57 := Iff.rfl
  have small : 'a' ≤ c ∧ c ≤ 'f' ↔ 97 ≤ c.toNat ∧ c.toNat ≤ 102 := Iff.rfl
  have large : 'A' ≤ c ∧ c ≤ 'F' ↔ 65 ≤ c.toNat ∧ c.toNat ≤ 70 := Iff.rfl
  have same : d < 16 ∧ c.toUpper = capital d ↔
      d < 16 ∧ c.toUpper.toNat = if d < 10 then 48 + d else 55 + d := by
    refine and_congr_right fun below => ?_
    rw [← toNat_capital d below, Char.toNat_inj]
  have zero : '0'.toNat = 48 := rfl
  have a : 'a'.toNat = 97 := rfl
  have capitalA : 'A'.toNat = 65 := rfl
  rw [same, toNat_toUpper, digit?]
  simp only [decimal, small, large, zero, a, capitalA]
  grind

theorem isDigit_iff : IsDigit c ↔ ∃ d, digit? c = some d := by
  have all : ['0', '1', '2', '3', '4', '5', '6', '7', '8', '9', 'A', 'B', 'C', 'D', 'E', 'F'] =
      (List.range 16).map capital := by decide
  rw [IsDigit, all, List.mem_map]
  simp only [List.mem_range, digit?_eq_some]
  exact exists_congr fun d => and_congr_right fun _ => eq_comm

end Hex

namespace HexProgram
open Hex
variable {digits : List Char} {bytes : List UInt8} {index : Nat} {error : Error}

def withoutBlanks (text : List Char) : List Char := text.filter fun c => !isBlank c

def written (b : UInt8) : List Char := (Hex.upper 2 b.toNat).toList

theorem written_eq (b : UInt8) : written b = [capital (b.toNat / 16), capital (b.toNat % 16)] := by
  have small := b.toNat_lt
  rw [written, Hex.upper, String.toList_ofList]
  by_cases single : b.toNat < 16
  · rw [Nat.toDigits_of_lt_base single, Nat.div_eq_of_lt single, Nat.mod_eq_of_lt single]
    rfl
  · rw [Nat.toDigits_of_base_le (by decide) (by omega), Nat.toDigits_of_lt_base (by omega)]
    rfl

theorem written_pair {h l : Nat} (high : h < 16) (low : l < 16) :
    written (UInt8.ofNat (h * 16 + l)) = [capital h, capital l] := by
  have value : (UInt8.ofNat (h * 16 + l)).toNat = h * 16 + l :=
    UInt8.toNat_ofNat_of_lt' (by simp only [UInt8.size]; omega)
  have first : (h * 16 + l) / 16 = h := by omega
  have second : (h * 16 + l) % 16 = l := by omega
  rw [written_eq, value, first, second]

/-- By induction on the bytes, each of which takes up two digits. -/
theorem pairs_of_written (spelled : digits.map Char.toUpper = bytes.flatMap written) :
    pairs digits index = .ok bytes := by
  induction bytes generalizing digits index with
  | nil =>
    rw [List.map_eq_nil_iff.mp spelled]
    rfl
  | cons b bytes ih =>
    rw [List.flatMap_cons, written_eq] at spelled
    obtain ⟨high, others, rfl, highSpelled, spelled⟩ := List.map_eq_cons_iff.mp spelled
    obtain ⟨low, rest, rfl, lowSpelled, spelled⟩ := List.map_eq_cons_iff.mp spelled
    have small := b.toNat_lt
    have highDigit := digit?_eq_some.mpr ⟨by omega, highSpelled⟩
    have lowDigit := digit?_eq_some.mpr ⟨by omega, lowSpelled⟩
    have whole : b.toNat / 16 * 16 + b.toNat % 16 = b.toNat := by omega
    simp only [pairs, highDigit, lowDigit, ih spelled, whole, UInt8.ofNat_toNat]
    rfl

/-- By induction on the pairs. An even number of characters leaves none over. -/
theorem written_of_pairs (even : digits.length % 2 = 0) (read : pairs digits index = .ok bytes) :
    digits.map Char.toUpper = bytes.flatMap written := by
  induction digits, index using pairs.induct generalizing bytes with
  | case1 high low rest index h l lowDigit highDigit ih =>
    obtain ⟨highSmall, highSpelled⟩ := digit?_eq_some.mp highDigit
    obtain ⟨lowSmall, lowSpelled⟩ := digit?_eq_some.mp lowDigit
    simp only [pairs, highDigit, lowDigit] at read
    cases later : pairs rest (index + 1) with
    | error error =>
      rw [later] at read
      cases read
    | ok others =>
      rw [later] at read
      cases read
      rw [List.flatMap_cons, written_pair highSmall lowSmall, ← ih _ later]
      · rw [List.map_cons, List.map_cons, highSpelled, lowSpelled]
        rfl
      · simp only [List.length_cons] at even
        omega
  | case2 high low rest index other =>
    simp only [pairs] at read
    cases read
  | case3 digits index short =>
    match digits with
    | [] =>
      cases read
      rfl
    | [_] => cases even
    | high :: low :: rest => exact (short high low rest rfl).elim

/-- The pair with the index is the first that is not two digits. -/
structure Misspelled (digits : List Char) (high low : Char) (index : Nat) : Prop where
  place : ∃ before rest, digits = before ++ high :: low :: rest ∧ before.length = 2 * index ∧
    ∀ c ∈ before, IsDigit c
  wrong : ¬ (IsDigit high ∧ IsDigit low)

theorem misspelled_zero {high low first second : Char} {rest : List Char} :
    Misspelled (first :: second :: rest) high low 0 ↔
      high = first ∧ low = second ∧ ¬ (IsDigit first ∧ IsDigit second) := by
  constructor
  · rintro ⟨⟨before, after, same, size, -⟩, wrong⟩
    rw [List.length_eq_zero_iff.mp size] at same
    cases same
    exact ⟨rfl, rfl, wrong⟩
  · rintro ⟨rfl, rfl, wrong⟩
    exact ⟨⟨[], rest, rfl, rfl, by simp⟩, wrong⟩

theorem misspelled_succ {high low first second : Char} {rest : List Char} {k : Nat} :
    Misspelled (first :: second :: rest) high low (k + 1) ↔
      (IsDigit first ∧ IsDigit second) ∧ Misspelled rest high low k := by
  constructor
  · rintro ⟨⟨before, after, same, size, good⟩, wrong⟩
    obtain ⟨x, y, others, rfl⟩ : ∃ x y others, before = x :: y :: others := by
      match before with
      | x :: y :: others => exact ⟨x, y, others, rfl⟩
      | [_] =>
        simp only [List.length_singleton] at size
        omega
    cases same
    obtain ⟨firstDigit, good⟩ := List.forall_mem_cons.mp good
    obtain ⟨secondDigit, good⟩ := List.forall_mem_cons.mp good
    simp only [List.length_cons] at size
    exact ⟨⟨firstDigit, secondDigit⟩, ⟨others, after, rfl, by omega, good⟩, wrong⟩
  · rintro ⟨⟨firstDigit, secondDigit⟩, ⟨before, after, rfl, size, good⟩, wrong⟩
    refine ⟨⟨first :: second :: before, after, rfl, ?_, ?_⟩, wrong⟩
    · simp only [List.length_cons]
      omega
    · exact List.forall_mem_cons.mpr ⟨firstDigit, List.forall_mem_cons.mpr ⟨secondDigit, good⟩⟩

theorem Misspelled.two_le {high low : Char} {k : Nat} (missed : Misspelled digits high low k) :
    2 ≤ digits.length := by
  obtain ⟨before, rest, rfl, -, -⟩ := missed.place
  simp only [List.length_append, List.length_cons]
  omega

/-- By induction on the pairs. What is refused is the first pair, or the first behind it. -/
theorem pairs_eq_error : pairs digits index = .error error ↔
    ∃ high low k, error = .invalidDigits high low (index + k) ∧ Misspelled digits high low k := by
  induction digits, index using pairs.induct with
  | case1 first second rest index h l secondDigit firstDigit ih =>
    have good : IsDigit first ∧ IsDigit second :=
      ⟨isDigit_iff.mpr ⟨h, firstDigit⟩, isDigit_iff.mpr ⟨l, secondDigit⟩⟩
    have passed : pairs (first :: second :: rest) index = .error error ↔
        pairs rest (index + 1) = .error error := by
      simp only [pairs, firstDigit, secondDigit]
      cases pairs rest (index + 1) <;> simp [Except.map]
    rw [passed, ih]
    constructor
    · rintro ⟨high, low, k, rfl, missed⟩
      rw [Nat.add_assoc, Nat.add_comm 1 k]
      exact ⟨high, low, k + 1, rfl, misspelled_succ.mpr ⟨good, missed⟩⟩
    · rintro ⟨high, low, k, rfl, missed⟩
      cases k with
      | zero => exact absurd good (misspelled_zero.mp missed).2.2
      | succ k =>
        refine ⟨high, low, k, ?_, (misspelled_succ.mp missed).2⟩
        rw [Nat.add_assoc, Nat.add_comm 1 k]
  | case2 first second rest index other =>
    have wrong : ¬ (IsDigit first ∧ IsDigit second) := by
      rintro ⟨firstGood, secondGood⟩
      obtain ⟨h, firstDigit⟩ := isDigit_iff.mp firstGood
      obtain ⟨l, secondDigit⟩ := isDigit_iff.mp secondGood
      exact other h l firstDigit secondDigit
    have refused : pairs (first :: second :: rest) index =
        .error (.invalidDigits first second index) := by
      simp only [pairs]
    rw [refused]
    constructor
    · intro same
      cases same
      exact ⟨first, second, 0, rfl, misspelled_zero.mpr ⟨rfl, rfl, wrong⟩⟩
    · rintro ⟨high, low, k, rfl, missed⟩
      cases k with
      | zero =>
        obtain ⟨rfl, rfl, -⟩ := misspelled_zero.mp missed
        rfl
      | succ k => exact absurd (misspelled_succ.mp missed).1 wrong
  | case3 digits index short =>
    have few : digits.length < 2 := by
      match digits with
      | [] => exact Nat.two_pos
      | [_] => exact Nat.one_lt_two
      | first :: second :: rest => exact (short first second rest rfl).elim
    constructor
    · intro failed
      simp only [pairs] at failed
      cases failed
    · rintro ⟨high, low, k, -, missed⟩
      have most := missed.two_le
      omega

theorem length_written (bytes : List UInt8) :
    (bytes.flatMap written).length = 2 * bytes.length := by
  induction bytes with
  | nil => rfl
  | cons b bytes ih =>
    rw [List.flatMap_cons, List.length_append, ih, written_eq, List.length_cons]
    simp only [List.length_cons, List.length_nil]
    omega

section Texts
variable {text : List Char}

theorem decode_even (even : (withoutBlanks text).length % 2 = 0) :
    decode text = pairs (withoutBlanks text) 0 := if_pos even

theorem decode_odd (odd : ¬ (withoutBlanks text).length % 2 = 0) :
    decode text = .error (.oddDigits (withoutBlanks text).length) := if_neg odd

theorem decode_eq_ok : decode text = .ok bytes ↔
    (withoutBlanks text).map Char.toUpper = bytes.flatMap written := by
  by_cases even : (withoutBlanks text).length % 2 = 0
  · rw [decode_even even]
    exact ⟨written_of_pairs even, pairs_of_written⟩
  · rw [decode_odd even]
    constructor
    · intro impossible
      cases impossible
    · intro spelled
      have size := congrArg List.length spelled
      rw [List.length_map, length_written] at size
      omega

theorem decode_eq_odd {count : Nat} : decode text = .error (.oddDigits count) ↔
    (withoutBlanks text).length = count ∧ count % 2 = 1 := by
  by_cases even : (withoutBlanks text).length % 2 = 0
  · rw [decode_even even, pairs_eq_error]
    constructor
    · rintro ⟨high, low, k, impossible, -⟩
      cases impossible
    · rintro ⟨rfl, odd⟩
      omega
  · rw [decode_odd even]
    constructor
    · intro same
      cases same
      exact ⟨rfl, by omega⟩
    · rintro ⟨rfl, -⟩
      rfl

theorem decode_eq_misspelled {high low : Char} :
    decode text = .error (.invalidDigits high low index) ↔
      (withoutBlanks text).length % 2 = 0 ∧ Misspelled (withoutBlanks text) high low index := by
  by_cases even : (withoutBlanks text).length % 2 = 0
  · rw [decode_even even, pairs_eq_error]
    constructor
    · rintro ⟨first, second, k, same, missed⟩
      cases same
      rw [Nat.zero_add]
      exact ⟨even, missed⟩
    · rintro ⟨-, missed⟩
      exact ⟨high, low, index, by rw [Nat.zero_add], missed⟩
  · rw [decode_odd even]
    constructor
    · intro impossible
      cases impossible
    · rintro ⟨paired, -⟩
      exact absurd paired even

end Texts

structure Spells (text : List Char) : Prop where
  accepted : ∀ bytes, decode text = .ok bytes ↔
    (withoutBlanks text).map Char.toUpper = bytes.flatMap written
  odd : ∀ count, decode text = .error (.oddDigits count) ↔
    (withoutBlanks text).length = count ∧ count % 2 = 1
  misspelled : ∀ high low index, decode text = .error (.invalidDigits high low index) ↔
    (withoutBlanks text).length % 2 = 0 ∧ Misspelled (withoutBlanks text) high low index

/-- Whatever the text is, its bytes are those that are written as it is, blanks and case apart. If
    there are none, the fault is the first that there is. -/
theorem spelled_in_hex (text : List Char) : Spells text where
  accepted := fun _ => decode_eq_ok
  odd := fun _ => decode_eq_odd
  misspelled := fun _ _ _ => decode_eq_misspelled

/-- A blank between the digits of a byte, and a letter of each case. -/
example : decode ['0', '\u3000', '1', 'a', '\n', 'B'] = .ok [0x01, 0xAB] := by rfl

end HexProgram
end ControlMachine
