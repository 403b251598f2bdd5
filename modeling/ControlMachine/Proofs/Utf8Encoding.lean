import ControlMachine.Text.Utf8

/- Decoding undoes the encoding of the library: bytes are read without an error exactly if they are
   the encoding of some characters, and then those are the characters read. -/
namespace ControlMachine.Utf8
open String (utf8EncodeChar)

variable {lead b : UInt8} {rest tail bytes : List UInt8} {ranges : List (UInt8 × UInt8)}

def Fits : List (UInt8 × UInt8) → List UInt8 → Prop
  | [], [] => True
  | (low, high) :: ranges, b :: tail =>
    (low.toNat ≤ b.toNat ∧ b.toNat ≤ high.toNat) ∧ Fits ranges tail
  | _, _ => False

theorem length_of_fits (fits : Fits ranges tail) : tail.length = ranges.length := by
  induction ranges generalizing tail with
  | nil =>
    cases tail with
    | nil => rfl
    | cons b tail => cases fits
  | cons range ranges ih =>
    cases tail with
    | nil => cases fits
    | cons b tail => simp only [List.length_cons, ih fits.2]

theorem matching_append (fits : Fits ranges tail) (more : List UInt8) :
    matching ranges (tail ++ more) = ranges.length := by
  induction ranges generalizing tail with
  | nil => cases more <;> rfl
  | cons range ranges ih =>
    cases tail with
    | nil => cases fits
    | cons b tail =>
      have inside : range.1 ≤ b ∧ b ≤ range.2 := fits.1
      rw [List.cons_append, matching, if_pos inside, ih fits.2, List.length_cons]

theorem fits_of_matching (matched : matching ranges rest = ranges.length) :
    ∃ tail more, rest = tail ++ more ∧ Fits ranges tail := by
  induction ranges generalizing rest with
  | nil => exact ⟨[], rest, rfl, trivial⟩
  | cons range ranges ih =>
    cases rest with
    | nil => cases matched
    | cons b rest =>
      rw [matching] at matched
      split at matched
      · rename_i inside
        obtain ⟨tail, more, rfl, fits⟩ := ih (Nat.succ.inj matched)
        exact ⟨b :: tail, more, rfl, inside, fits⟩
      · cases matched

theorem toNat_ofNat {n : Nat} (scalar : n.isValidChar) : (Char.ofNat n).toNat = n := by
  have made : Char.ofNat n = Char.ofNatAux n scalar := dif_pos scalar
  rw [made]
  rfl

theorem byte_eq {n : Nat} (same : n = b.toNat) : UInt8.ofNat n = b := by
  rw [same, UInt8.ofNat_toNat]

/-- What encoding makes of a number below each bound. -/
theorem encode_ofNat {n : Nat} (scalar : n.isValidChar) :
    utf8EncodeChar (Char.ofNat n) =
      if n ≤ 0x7F then [UInt8.ofNat n]
      else if n ≤ 0x7FF then [UInt8.ofNat (n / 64 % 32 + 192), UInt8.ofNat (n % 64 + 128)]
      else if n ≤ 0xFFFF then
        [UInt8.ofNat (n / 4096 % 16 + 224), UInt8.ofNat (n / 64 % 64 + 128),
          UInt8.ofNat (n % 64 + 128)]
      else
        [UInt8.ofNat (n / 262144 % 8 + 240), UInt8.ofNat (n / 4096 % 64 + 128),
          UInt8.ofNat (n / 64 % 64 + 128), UInt8.ofNat (n % 64 + 128)] := by
  have code : (Char.ofNat n).val.toNat = n := toNat_ofNat scalar
  simp only [utf8EncodeChar, code]

/-- The bytes of a character. The bounds on the second byte rule out overlong encodings, surrogates
    and numbers past the last character. -/
inductive Sequence (lead : UInt8) : List UInt8 → Prop
  | one (first : lead.toNat < 0x80) : Sequence lead []
  | two {b : UInt8} (first : 0xC2 ≤ lead.toNat ∧ lead.toNat < 0xE0)
    (second : 0x80 ≤ b.toNat ∧ b.toNat ≤ 0xBF) : Sequence lead [b]
  | three {b c : UInt8} (first : 0xE0 ≤ lead.toNat ∧ lead.toNat < 0xF0)
    (second : 0x80 ≤ b.toNat ∧ b.toNat ≤ 0xBF) (third : 0x80 ≤ c.toNat ∧ c.toNat ≤ 0xBF)
    (long : lead.toNat = 0xE0 → 0xA0 ≤ b.toNat)
    (whole : lead.toNat = 0xED → b.toNat ≤ 0x9F) : Sequence lead [b, c]
  | four {b c d : UInt8} (first : 0xF0 ≤ lead.toNat ∧ lead.toNat < 0xF5)
    (second : 0x80 ≤ b.toNat ∧ b.toNat ≤ 0xBF) (third : 0x80 ≤ c.toNat ∧ c.toNat ≤ 0xBF)
    (fourth : 0x80 ≤ d.toNat ∧ d.toNat ≤ 0xBF) (long : lead.toNat = 0xF0 → 0x90 ≤ b.toNat)
    (small : lead.toNat = 0xF4 → b.toNat ≤ 0x8F) : Sequence lead [b, c, d]

theorem tailRanges?_eq (lead : UInt8) :
    tailRanges? lead =
      if lead.toNat < 0x80 then some []
      else if lead.toNat < 0xC2 then none
      else if lead.toNat < 0xE0 then some [(0x80, 0xBF)]
      else if lead.toNat = 0xE0 then some [(0xA0, 0xBF), (0x80, 0xBF)]
      else if lead.toNat = 0xED then some [(0x80, 0x9F), (0x80, 0xBF)]
      else if lead.toNat < 0xF0 then some [(0x80, 0xBF), (0x80, 0xBF)]
      else if lead.toNat = 0xF0 then some [(0x90, 0xBF), (0x80, 0xBF), (0x80, 0xBF)]
      else if lead.toNat < 0xF4 then some [(0x80, 0xBF), (0x80, 0xBF), (0x80, 0xBF)]
      else if lead.toNat = 0xF4 then some [(0x80, 0x8F), (0x80, 0xBF), (0x80, 0xBF)]
      else none := by
  simp only [tailRanges?, UInt8.lt_iff_toNat_lt, ← UInt8.toNat_inj]
  rfl

theorem sequence_of_fits (known : tailRanges? lead = some ranges) (fits : Fits ranges tail) :
    Sequence lead tail := by
  rw [tailRanges?_eq] at known
  -- one case for each row of the table, in its order
  repeat' split at known
  all_goals cases known
  · match tail, fits with
    | [], _ => exact .one (by omega)
  · match tail, fits with
    | [b], ⟨second, _⟩ => exact .two (by omega) second
  · match tail, fits with
    | [b, c], ⟨second, third, _⟩ =>
      have second : 0xA0 ≤ b.toNat ∧ b.toNat ≤ 0xBF := second
      exact .three (by omega) (by omega) third (by omega) (by omega)
  · match tail, fits with
    | [b, c], ⟨second, third, _⟩ =>
      have second : 0x80 ≤ b.toNat ∧ b.toNat ≤ 0x9F := second
      exact .three (by omega) (by omega) third (by omega) (by omega)
  · match tail, fits with
    | [b, c], ⟨second, third, _⟩ => exact .three (by omega) second third (by omega) (by omega)
  · match tail, fits with
    | [b, c, d], ⟨second, third, fourth, _⟩ =>
      have second : 0x90 ≤ b.toNat ∧ b.toNat ≤ 0xBF := second
      exact .four (by omega) (by omega) third fourth (by omega) (by omega)
  · match tail, fits with
    | [b, c, d], ⟨second, third, fourth, _⟩ =>
      exact .four (by omega) second third fourth (by omega) (by omega)
  · match tail, fits with
    | [b, c, d], ⟨second, third, fourth, _⟩ =>
      have second : 0x80 ≤ b.toNat ∧ b.toNat ≤ 0x8F := second
      exact .four (by omega) (by omega) third fourth (by omega) (by omega)

theorem fits_of_sequence (sequence : Sequence lead tail) :
    ∃ ranges, tailRanges? lead = some ranges ∧ Fits ranges tail := by
  rw [tailRanges?_eq]
  cases sequence with
  | one first => exact ⟨_, if_pos first, trivial⟩
  | two first second =>
    rw [if_neg (by omega), if_neg (by omega), if_pos (by omega)]
    exact ⟨_, rfl, second, trivial⟩
  | three first second third long whole =>
    rw [if_neg (by omega), if_neg (by omega), if_neg (by omega)]
    by_cases least : lead.toNat = 0xE0
    · rw [if_pos least]
      exact ⟨_, rfl, ⟨long least, second.2⟩, third, trivial⟩
    rw [if_neg least]
    by_cases surrogates : lead.toNat = 0xED
    · rw [if_pos surrogates]
      exact ⟨_, rfl, ⟨second.1, whole surrogates⟩, third, trivial⟩
    rw [if_neg surrogates, if_pos (by omega)]
    exact ⟨_, rfl, second, third, trivial⟩
  | four first second third fourth long small =>
    rw [if_neg (by omega), if_neg (by omega), if_neg (by omega), if_neg (by omega),
      if_neg (by omega), if_neg (by omega)]
    by_cases least : lead.toNat = 0xF0
    · rw [if_pos least]
      exact ⟨_, rfl, ⟨long least, second.2⟩, third, fourth, trivial⟩
    rw [if_neg least]
    by_cases middle : lead.toNat < 0xF4
    · rw [if_pos middle]
      exact ⟨_, rfl, second, third, fourth, trivial⟩
    have greatest : lead.toNat = 0xF4 := by omega
    rw [if_neg middle, if_pos greatest]
    exact ⟨_, rfl, ⟨second.1, small greatest⟩, third, fourth, trivial⟩

theorem encode_sequence (sequence : Sequence lead tail) :
    utf8EncodeChar (Char.ofNat (codePoint lead tail)) = lead :: tail := by
  cases sequence with
  | one first =>
    have point : codePoint lead [] = lead.toNat := rfl
    rw [encode_ofNat (by unfold Nat.isValidChar; omega), if_pos (by omega), byte_eq point]
  | @two b first second =>
    have point : codePoint lead [b] = lead.toNat % 32 * 64 + b.toNat % 64 := rfl
    rw [encode_ofNat (by unfold Nat.isValidChar; omega), if_neg (by omega), if_pos (by omega),
      byte_eq (b := lead) (by omega), byte_eq (b := b) (by omega)]
  | @three b c first second third long whole =>
    have point : codePoint lead [b, c] =
      (lead.toNat % 16 * 64 + b.toNat % 64) * 64 + c.toNat % 64 := rfl
    rw [encode_ofNat (by unfold Nat.isValidChar; omega), if_neg (by omega), if_neg (by omega),
      if_pos (by omega), byte_eq (b := lead) (by omega), byte_eq (b := b) (by omega),
      byte_eq (b := c) (by omega)]
  | @four b c d first second third fourth long small =>
    have point : codePoint lead [b, c, d] =
      ((lead.toNat % 8 * 64 + b.toNat % 64) * 64 + c.toNat % 64) * 64 + d.toNat % 64 := rfl
    rw [encode_ofNat (by unfold Nat.isValidChar; omega), if_neg (by omega), if_neg (by omega),
      if_neg (by omega), byte_eq (b := lead) (by omega), byte_eq (b := b) (by omega),
      byte_eq (b := c) (by omega), byte_eq (b := d) (by omega)]

theorem toNat_byte {n : Nat} (small : n < 256) : (UInt8.ofNat n).toNat = n := by
  rw [UInt8.toNat_ofNat']
  omega

theorem exists_sequence {n : Nat} (scalar : n.isValidChar) :
    ∃ lead tail, Sequence lead tail ∧ codePoint lead tail = n := by
  unfold Nat.isValidChar at scalar
  have low := toNat_byte (n := n % 64 + 128) (by omega)
  have next := toNat_byte (n := n / 64 % 64 + 128) (by omega)
  have high := toNat_byte (n := n / 4096 % 64 + 128) (by omega)
  by_cases one : n < 0x80
  · have first := toNat_byte (n := n) (by omega)
    exact ⟨UInt8.ofNat n, [], .one (by omega), first⟩
  by_cases two : n < 0x800
  · have first := toNat_byte (n := n / 64 + 192) (by omega)
    refine ⟨UInt8.ofNat (n / 64 + 192), [UInt8.ofNat (n % 64 + 128)],
      .two (by omega) (by omega), ?_⟩
    change _ % 32 * 64 + _ % 64 = n
    omega
  by_cases three : n < 0x10000
  · have first := toNat_byte (n := n / 4096 + 224) (by omega)
    refine ⟨UInt8.ofNat (n / 4096 + 224),
      [UInt8.ofNat (n / 64 % 64 + 128), UInt8.ofNat (n % 64 + 128)],
      .three (by omega) (by omega) (by omega) (by omega) (by omega), ?_⟩
    change (_ % 16 * 64 + _ % 64) * 64 + _ % 64 = n
    omega
  · have first := toNat_byte (n := n / 262144 + 240) (by omega)
    refine ⟨UInt8.ofNat (n / 262144 + 240),
      [UInt8.ofNat (n / 4096 % 64 + 128), UInt8.ofNat (n / 64 % 64 + 128),
        UInt8.ofNat (n % 64 + 128)],
      .four (by omega) (by omega) (by omega) (by omega) (by omega) (by omega), ?_⟩
    change ((_ % 8 * 64 + _ % 64) * 64 + _ % 64) * 64 + _ % 64 = n
    omega

theorem encode_eq (ch : Char) :
    ∃ lead tail, utf8EncodeChar ch = lead :: tail ∧ Sequence lead tail ∧
      Char.ofNat (codePoint lead tail) = ch := by
  obtain ⟨lead, tail, sequence, point⟩ := exists_sequence ch.valid
  have same : Char.ofNat (codePoint lead tail) = ch := by
    rw [point]
    exact Char.ofNat_toNat ch
  exact ⟨lead, tail, by rw [← same, encode_sequence sequence], sequence, same⟩

theorem firstPiece_sequence (sequence : Sequence lead tail) (more : List UInt8) :
    firstPiece lead (tail ++ more) = .char (Char.ofNat (codePoint lead tail)) := by
  obtain ⟨ranges, known, fits⟩ := fits_of_sequence sequence
  have matched := matching_append fits more
  unfold firstPiece
  simp only [known, matched, if_true]
  rw [← length_of_fits fits, List.take_left]

theorem sequence_of_firstPiece {ch : Char} (read : firstPiece lead rest = .char ch) :
    ∃ tail more, rest = tail ++ more ∧ Sequence lead tail ∧
      Char.ofNat (codePoint lead tail) = ch := by
  unfold firstPiece at read
  split at read
  · cases read
  · rename_i ranges known
    dsimp only at read
    split at read
    · rename_i matched
      obtain ⟨tail, more, rfl, fits⟩ := fits_of_matching matched
      refine ⟨tail, more, rfl, sequence_of_fits known fits, ?_⟩
      rw [matched, ← length_of_fits fits, List.take_left] at read
      exact Piece.char.inj read
    · split at read <;> cases read

theorem pieces_char (ch : Char) (more : List UInt8) :
    pieces (utf8EncodeChar ch ++ more) = .char ch :: pieces more := by
  obtain ⟨lead, tail, bytes, sequence, same⟩ := encode_eq ch
  have size : ch.utf8Size - 1 = tail.length := by
    rw [← String.length_utf8EncodeChar, bytes, List.length_cons, Nat.add_sub_cancel]
  rw [bytes, List.cons_append, pieces]
  simp only [firstPiece_sequence sequence, same, Piece.bytes, size, List.drop_left]

/-- A character is read first only where its encoding stands first. -/
theorem exists_encoding {ch : Char} {others : List Piece}
    (read : pieces bytes = .char ch :: others) :
    ∃ more, bytes = utf8EncodeChar ch ++ more ∧ pieces more = others := by
  cases bytes with
  | nil =>
    rw [pieces] at read
    cases read
  | cons lead rest =>
    have first : firstPiece lead rest = .char ch := by
      rw [pieces] at read
      exact (List.cons.inj read).1
    obtain ⟨tail, more, rfl, sequence, same⟩ := sequence_of_firstPiece first
    have encoding : lead :: (tail ++ more) = utf8EncodeChar ch ++ more := by
      rw [← same, encode_sequence sequence, List.cons_append]
    rw [encoding, pieces_char] at read
    exact ⟨more, encoding, (List.cons.inj read).2⟩

theorem pieces_eq_chars {chars : List Char} :
    pieces bytes = chars.map .char ↔ bytes = chars.flatMap utf8EncodeChar := by
  constructor
  · intro read
    induction chars generalizing bytes with
    | nil =>
      cases bytes with
      | nil => rfl
      | cons lead rest =>
        rw [pieces] at read
        cases read
    | cons ch chars ih =>
      obtain ⟨more, rfl, following⟩ := exists_encoding read
      rw [List.flatMap_cons, ← ih following]
  · rintro rfl
    induction chars with
    | nil => rw [List.flatMap_nil, pieces, List.map_nil]
    | cons ch chars ih => rw [List.flatMap_cons, pieces_char, ih, List.map_cons]

theorem strict_eq_ok {found : List Piece} {index : Nat} {chars : List Char} :
    strict found index = .ok chars ↔ found = chars.map .char := by
  induction found generalizing index chars with
  | nil => cases chars <;> simp [strict]
  | cons piece found ih =>
    cases piece with
    | char ch =>
      cases chars with
      | nil => cases read : strict found (index + ch.utf8Size) <;> simp [strict, read, Except.map]
      | cons first chars =>
        rw [List.map_cons, List.cons.injEq, ← @ih (index + ch.utf8Size) chars]
        cases read : strict found (index + ch.utf8Size) <;>
          simp [strict, read, Except.map]
    | invalid | incomplete => cases chars <;> simp [strict]

theorem decode_eq_ok {chars : List Char} :
    decode bytes = .ok chars ↔ bytes = chars.flatMap utf8EncodeChar := by
  rw [decode, strict_eq_ok, pieces_eq_chars]

theorem length_le_encoding (chars : List Char) :
    chars.length ≤ (chars.flatMap utf8EncodeChar).length := by
  induction chars with
  | nil => exact Nat.le_refl 0
  | cons ch chars ih =>
    have some := ch.utf8Size_pos
    rw [List.flatMap_cons, List.length_append, String.length_utf8EncodeChar, List.length_cons]
    omega

theorem length_encoding_ascii {chars : List Char} (ascii : ∀ ch ∈ chars, ch.toNat < 0x80) :
    (chars.flatMap utf8EncodeChar).length = chars.length := by
  induction chars with
  | nil => rfl
  | cons ch chars ih =>
    have one : ch.utf8Size = 1 := by
      have small := ascii ch (by simp)
      rw [Char.utf8Size_eq_one_iff, UInt32.le_iff_toNat_le]
      exact Nat.le_of_lt_succ small
    have rest := ih fun other among => ascii other (by simp [among])
    rw [List.flatMap_cons, List.length_append, String.length_utf8EncodeChar, List.length_cons, one,
      rest, Nat.add_comm]

theorem toList_loop (bytes : ByteArray) (i : Nat) (found : List UInt8) :
    ByteArray.toList.loop bytes i found = found.reverse ++ bytes.data.toList.drop i := by
  induction i, found using ByteArray.toList.loop.induct bytes with
  | case1 i found inside ih =>
    have here : i < bytes.data.toList.length := inside
    have next : bytes.get! i = bytes.data.toList[i] := by
      rw [ByteArray.get!, Array.getElem_toList]
      exact getElem!_pos bytes.data i inside
    rw [ByteArray.toList.loop, if_pos inside, ih, List.drop_eq_getElem_cons here, next]
    simp
  | case2 i found past =>
    have done : bytes.data.toList.length ≤ i := Nat.not_lt.mp past
    rw [ByteArray.toList.loop, if_neg past, List.drop_eq_nil_of_le done, List.append_nil]

theorem toUTF8_toList (text : String) :
    text.toUTF8.toList = text.toList.flatMap utf8EncodeChar := by
  have bytes : text.toUTF8 = (text.toList.flatMap utf8EncodeChar).toByteArray :=
    String.utf8Encode_toList.symm
  rw [bytes, ByteArray.toList, toList_loop, List.drop_zero, List.reverse_nil, List.nil_append,
    List.toList_data_toByteArray]

end ControlMachine.Utf8
