import ControlMachine.Proofs.Transfers
import ControlMachine.Proofs.WordCells
import ControlMachine.Proofs.Utf8Encoding
import ControlMachine.Proofs.WholeNumbers

/- Whole numbers that pass between the network and a word in memory as text. A payload is accepted
   exactly if it is short and spells a whole number between blanks, the cell keeps the low bits, and
   what the cell is read as brings back the cell. -/
namespace ControlMachine

def Width.modulus (width : Width) : Nat := Nat.pow 2 (8 * width.bytes)

/-- A whole number as it may be spelled: blanks, a sign or none, digits, blanks. -/
structure WholeNumber where
  before : List Char
  sign : Numeral.Sign
  digits : List Char
  trailing : List Char
  blankBefore : ∀ c ∈ before, isBlank c = true
  blankTrailing : ∀ c ∈ trailing, isBlank c = true
  decimal : ∀ c ∈ digits, Numeral.isDigit c = true
  nonempty : digits ≠ []

namespace WholeNumber
open Numeral
variable {number : WholeNumber} {n : Int}

def text (number : WholeNumber) : List Char :=
  number.before ++ (number.sign.chars ++ number.digits) ++ number.trailing

def bytes (number : WholeNumber) : List UInt8 := number.text.flatMap String.utf8EncodeChar

def value (number : WholeNumber) : Int := number.sign.apply (Numeral.value number.digits)

theorem trimmed (number : WholeNumber) :
    trimBlanks number.text = number.sign.chars ++ number.digits := by
  have clear : ∀ c ∈ number.sign.chars ++ number.digits, isBlank c = false := by
    intro c among
    rcases List.mem_append.mp among with first | digit
    · exact sign_clear first
    · exact digit_clear (number.decimal c digit)
  exact trimBlanks_spelled number.blankBefore number.blankTrailing (by simp [number.nonempty]) clear

theorem decoded (number : WholeNumber) : Utf8.decode number.bytes = .ok number.text :=
  Utf8.decode_eq_ok.mpr rfl

theorem read (number : WholeNumber) : readInt (trimBlanks number.text) = .ok number.value := by
  rw [trimmed]
  exact readInt_spelled number.sign number.nonempty number.decimal

theorem exists_of_read {chars : List Char} (read : readInt (trimBlanks chars) = .ok n) :
    ∃ number : WholeNumber, number.text = chars ∧ number.value = n := by
  obtain ⟨before, trailing, whole, blank, blankToo⟩ := exists_trimmed chars
  obtain ⟨sign, digits, spelled, nonempty, decimal, rfl⟩ := readInt_eq_ok.mp read
  rw [spelled] at whole
  exact ⟨⟨before, sign, digits, trailing, blank, blankToo, decimal, nonempty⟩, whole.symm, rfl⟩

/-- Two spellings with the same bytes spell the same number. -/
theorem value_congr {other : WholeNumber} (same : number.bytes = other.bytes) :
    number.value = other.value := by
  have texts := number.decoded
  rw [same, other.decoded] at texts
  have values := number.read
  rw [← Except.ok.inj texts, other.read] at values
  exact (Except.ok.inj values).symm

theorem length_digits (number : WholeNumber) : number.digits.length ≤ number.bytes.length := by
  have most := Utf8.length_le_encoding number.text
  simp only [text, List.length_append] at most
  rw [bytes, text]
  omega

theorem read64 (short : number.bytes.length ≤ 18) :
    readInt64 (trimBlanks number.text) = .ok number.value := by
  rw [trimmed]
  exact readInt64_spelled number.sign number.nonempty number.decimal
    (Nat.le_trans number.length_digits short)

def ofNat (n : Nat) : WholeNumber where
  before := []
  sign := .none
  digits := Nat.toDigits 10 n
  trailing := []
  blankBefore := by simp
  blankTrailing := by simp
  decimal := fun _ => isDigit_of_mem_toDigits
  nonempty := Nat.toDigits_ne_nil

theorem text_ofNat (n : Nat) : (ofNat n).text = Nat.toDigits 10 n := by
  simp [text, ofNat, Sign.chars]

theorem value_ofNat (n : Nat) : (ofNat n).value = n :=
  congrArg Int.ofNat (value_toDigits n)

theorem bytes_ofNat (n : Nat) : (toString n).toUTF8.toList = (ofNat n).bytes := by
  rw [Utf8.toUTF8_toList, bytes, text_ofNat]
  exact congrArg _ Nat.toList_repr

theorem length_bytes_ofNat {n k : Nat} (positive : 0 < k) (small : n < Nat.pow 10 k) :
    (ofNat n).bytes.length ≤ k := by
  have ascii : ∀ c ∈ Nat.toDigits 10 n, c.toNat < 0x80 := by
    intro c among
    have range := isDigit_iff.mp (isDigit_of_mem_toDigits among)
    omega
  rw [bytes, text_ofNat, Utf8.length_encoding_ascii ascii]
  exact (Nat.length_toDigits_le_iff (by decide) positive).mpr small

end WholeNumber

namespace Store
variable {R : Type} [Rational R] {s after : Store} {id : UInt8} {served : Mapping} {width : Width}
  {payload : List UInt8}

structure OffersWord (s : Store) (id : UInt8) (served : Mapping) (width : Width) : Prop where
  active : s.mappings.active id = .ok served
  lasting : served.isOnce = false
  typed : served.dataType = .ok (.word width)
  inside : served.valueAddress.toNat + width.bytes ≤ s.memory.capacity

theorem storeText_eq_ok (offers : s.OffersWord id served width) :
    s.storeValue R .text id payload = .ok after ↔
      payload.length ≤ Payload.textLimit ∧ ∃ number : WholeNumber, payload = number.bytes ∧
        ∃ memory, s.memory.storeWord width served.valueAddress
          (UInt32.ofNat (number.value % 0x100000000).toNat) = .ok memory ∧
          after = { s with memory := memory } := by
  constructor
  · intro done
    obtain ⟨other, type, memory, read, typed, written, rfl⟩ := storeValue_eq_ok.mp done
    cases offers.active.symm.trans read
    cases offers.typed.symm.trans typed
    obtain ⟨pending, given, made⟩ := Payload.write_eq_ok.mp written
    obtain ⟨short, chars, decoded, n, spelled, rfl⟩ := Payload.textBytes_word.mp given
    obtain ⟨number, rfl, rfl⟩ := WholeNumber.exists_of_read spelled
    rw [← Memory.storeWord_eq_write] at made
    refine ⟨short, number, Utf8.decode_eq_ok.mp decoded, memory, made, ?_⟩
    rw [offers.lasting, if_neg Bool.false_ne_true]
  · rintro ⟨short, number, rfl, memory, stored, rfl⟩
    have given : Payload.cellBytes R .text (.word width) number.bytes = .ok _ :=
      Payload.textBytes_word.mpr
        ⟨short, number.text, number.decoded, number.value, number.read, rfl⟩
    rw [Memory.storeWord_eq_write] at stored
    have written := Payload.write_eq_ok.mpr ⟨_, given, stored⟩
    exact storeValue_lasting offers.active offers.typed offers.lasting written

theorem exists_storeWord (offers : s.OffersWord id served width) (value : UInt32) :
    ∃ memory, s.memory.storeWord width served.valueAddress value = .ok memory :=
  ⟨_, Memory.storeWord_eq_ok.mpr ⟨offers.inside, rfl⟩⟩

theorem storeText_accepts (offers : s.OffersWord id served width) :
    (∃ after, s.storeValue R .text id payload = .ok after) ↔
      payload.length < 15 ∧ ∃ number : WholeNumber, payload = number.bytes := by
  constructor
  · rintro ⟨after, done⟩
    obtain ⟨short, number, same, -⟩ := (storeText_eq_ok offers).mp done
    exact ⟨Nat.lt_succ_of_le short, number, same⟩
  · rintro ⟨short, number, rfl⟩
    obtain ⟨memory, stored⟩ :=
      exists_storeWord offers (UInt32.ofNat (number.value % 0x100000000).toNat)
    exact ⟨_, (storeText_eq_ok (R := R) offers).mpr
      ⟨Nat.le_of_lt_succ short, number, rfl, memory, stored, rfl⟩⟩

/-- The low bits of a number are the same whether or not it was cut to 32 bits before. -/
theorem low_bits (width : Width) (n : Int) :
    (((UInt32.ofNat (n % 0x100000000).toNat).toNat % Nat.pow 256 width.bytes : Nat) : Int) =
      n % width.modulus := by
  rw [UInt32.toNat_ofNat']
  cases width with
  | one =>
    change ((_ % 256 : Nat) : Int) = n % 256
    omega
  | two =>
    change ((_ % 65536 : Nat) : Int) = n % 65536
    omega
  | four =>
    change ((_ % 4294967296 : Nat) : Int) = n % 4294967296
    omega

theorem storeText_stored (offers : s.OffersWord id served width) {number : WholeNumber}
    (done : s.storeValue R .text id number.bytes = .ok after) :
    after.mappings = s.mappings ∧
      ∃ word, after.memory.loadWord width served.valueAddress = .ok word ∧
        (word.toNat : Int) = number.value % width.modulus := by
  obtain ⟨-, other, same, memory, stored, rfl⟩ := (storeText_eq_ok offers).mp done
  obtain ⟨word, loaded, low⟩ := Memory.loadWord_of_stored stored
  refine ⟨rfl, word, loaded, ?_⟩
  rw [low, WholeNumber.value_congr same]
  exact low_bits width other.value

theorem loadText_eq_ok (offers : s.OffersWord id served width) {word : UInt32}
    (loaded : s.memory.loadWord width served.valueAddress = .ok word) :
    s.loadValue R .text id = .ok ((WholeNumber.ofNat word.toNat).bytes, s) := by
  refine loadValue_lasting offers.active offers.typed offers.lasting ?_
  rw [← WholeNumber.bytes_ofNat]
  simp only [Payload.read, Payload.cellText, loaded]
  rfl

theorem storeText_ofNat (offers : s.OffersWord id served width) {word : UInt32}
    (loaded : s.memory.loadWord width served.valueAddress = .ok word) :
    s.storeValue R .text id (WholeNumber.ofNat word.toNat).bytes = .ok s := by
  have ten : word.toNat < Nat.pow 10 10 := Nat.lt_trans word.toNat_lt (by decide)
  have short : (WholeNumber.ofNat word.toNat).bytes.length ≤ 10 :=
    WholeNumber.length_bytes_ofNat (by decide) ten
  have whole : UInt32.ofNat ((WholeNumber.ofNat word.toNat).value % 0x100000000).toNat = word := by
    have small := word.toNat_lt
    rw [WholeNumber.value_ofNat, ← UInt32.toNat_inj, UInt32.toNat_ofNat']
    omega
  refine (storeText_eq_ok offers).mpr
    ⟨Nat.le_trans short (by decide), _, rfl, s.memory, ?_, rfl⟩
  rw [whole]
  exact Memory.storeWord_loaded loaded

/-- A word as text: which payloads are accepted, what they leave, and what the word is read as. -/
structure WordAsText (R : Type) [Rational R] (s : Store) (id : UInt8) (served : Mapping)
    (width : Width) : Prop where
  accepted : ∀ payload, (∃ after, s.storeValue R .text id payload = .ok after) ↔
    payload.length < 15 ∧ ∃ number : WholeNumber, payload = number.bytes
  stored : ∀ (number : WholeNumber) (after : Store),
    s.storeValue R .text id number.bytes = .ok after → after.mappings = s.mappings ∧
      ∃ word, after.memory.loadWord width served.valueAddress = .ok word ∧
        (word.toNat : Int) = number.value % width.modulus
  checked : ∀ number : WholeNumber, number.bytes.length < 15 →
    Numeral.readInt64 (trimBlanks number.text) = .ok number.value
  written : ∃ (number : WholeNumber) (word : UInt32), number.bytes.length < 15 ∧
    s.memory.loadWord width served.valueAddress = .ok word ∧ number.value = word.toNat ∧
    s.loadValue R .text id = .ok (number.bytes, s) ∧
    s.storeValue R .text id number.bytes = .ok s

theorem words_as_text (R : Type) [Rational R] (s : Store) (id : UInt8) (served : Mapping)
    (width : Width) (offers : s.OffersWord id served width) : WordAsText R s id served width := by
  constructor
  case accepted => exact fun payload => storeText_accepts offers
  case stored => exact fun number after => storeText_stored offers
  case checked => exact fun number short => WholeNumber.read64 (by omega)
  case written =>
    obtain ⟨word, loaded⟩ := Memory.exists_loadWord offers.inside
    have again := storeText_ofNat (R := R) offers loaded
    have short := ((storeText_accepts offers).mp ⟨s, again⟩).1
    exact ⟨.ofNat word.toNat, word, short, loaded, WholeNumber.value_ofNat _,
      loadText_eq_ok offers loaded, again⟩

def byteCell : Mapping := ⟨0x04, 0x04, 3, 0, 0, 5683, 0⟩

def byteOffer : Store := ⟨.ofCapacity 4, ⟨[byteCell], by decide⟩⟩

def minusOne : WholeNumber where
  before := [' ']
  sign := .minus
  digits := ['1']
  trailing := ['\n']
  blankBefore := List.forall_mem_singleton.mpr rfl
  blankTrailing := List.forall_mem_singleton.mpr rfl
  decimal := List.forall_mem_singleton.mpr rfl
  nonempty := List.cons_ne_nil _ _

theorem words_as_text_wrapping :
    byteOffer.OffersWord 0 byteCell .one ∧ minusOne.bytes = [0x20, 0x2D, 0x31, 0x0A] ∧
      ∃ after word, byteOffer.storeValue Fixed .text 0 minusOne.bytes = .ok after ∧
        after.memory.loadWord .one 3 = .ok word ∧ (word.toNat : Int) = 255 := by
  have offers : byteOffer.OffersWord 0 byteCell .one := ⟨by rfl, by rfl, by rfl, by decide⟩
  have speaks := words_as_text Fixed byteOffer 0 byteCell .one offers
  obtain ⟨after, done⟩ := (speaks.accepted minusOne.bytes).mpr ⟨by decide, minusOne, rfl⟩
  obtain ⟨-, word, loaded, low⟩ := speaks.stored minusOne after done
  exact ⟨offers, by rfl, after, word, done, loaded, low⟩

end Store
end ControlMachine
