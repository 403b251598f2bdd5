import ControlMachine.Proofs.FixedText
import ControlMachine.Proofs.Transfers
import ControlMachine.Proofs.Utf8Encoding

/- Fixed point cells that the network reads as text and writes back. The text is always short enough
   to be taken, and what it leaves in the cell is the number or, if four places were too few for it,
   the next one nearer to zero. -/
namespace ControlMachine

namespace Fixed
variable {x : Fixed}

def bytes (x : Fixed) : List UInt8 := x.text.flatMap String.utf8EncodeChar

theorem length_bytes_text (x : Fixed) : x.bytes.length = x.text.length :=
  Utf8.length_encoding_ascii fun _ => ascii_text

theorem decode_bytes (x : Fixed) : Utf8.decode x.bytes = .ok x.text := Utf8.decode_eq_ok.mpr rfl

theorem trimBlanks_text (x : Fixed) : trimBlanks x.text = x.text := by
  have some : x.text ≠ [] := by simp [text]
  have trimmed : trimBlanks ([] ++ x.text ++ []) = x.text :=
    trimBlanks_spelled (by simp) (by simp) some fun _ => clear_text
  rwa [List.append_nil, List.nil_append] at trimmed

end Fixed

namespace Store
variable {s : Store} {id : UInt8} {served : Mapping} {x : Fixed}

structure OffersNumber (s : Store) (id : UInt8) (served : Mapping) : Prop where
  active : s.mappings.active id = .ok served
  lasting : served.isOnce = false
  typed : served.dataType = .ok .rational
  inside : served.valueAddress.toNat + 4 ≤ s.memory.capacity

theorem loadText_number (offers : s.OffersNumber id served)
    (loaded : s.memory.loadRational served.valueAddress = .ok x) :
    s.loadValue Fixed .text id = .ok (x.bytes, s) := by
  refine loadValue_lasting offers.active offers.typed offers.lasting ?_
  rw [Fixed.bytes, ← Fixed.truncatedText_toDouble, ← Utf8.toUTF8_toList]
  simp only [Payload.read, Payload.cellText, loaded]
  rfl

theorem storeText_number (offers : s.OffersNumber id served) (x : Fixed) :
    ∃ memory y, s.storeValue Fixed .text id x.bytes = .ok { s with memory := memory } ∧
      s.memory.storeRational served.valueAddress y = .ok memory ∧ x.ComesBackAs y := by
  have short : x.bytes.length ≤ Payload.textLimit := by
    rw [Fixed.length_bytes_text]
    exact Nat.le_succ_of_le x.length_text
  obtain ⟨d, read, back⟩ := x.ofDouble_readDouble
  rw [← x.trimBlanks_text] at read
  have given : Payload.cellBytes Fixed .text .rational x.bytes = .ok _ :=
    Payload.textBytes_rational short x.decode_bytes read
  have inside : served.valueAddress.toNat +
      (LittleEndian.bytes 4 (Rational.toBits (Fixed.ofDouble d)).toNat).length ≤
        s.memory.capacity := by
    rw [LittleEndian.length_bytes]
    exact offers.inside
  have stored : s.memory.storeRational served.valueAddress (Fixed.ofDouble d) = .ok _ :=
    Memory.write_eq_ok.mpr ⟨inside, rfl⟩
  have written := Payload.write_eq_ok.mpr ⟨_, given, stored⟩
  exact ⟨_, _, storeValue_lasting offers.active offers.typed offers.lasting written, stored, back⟩

/-- A number as text: what it is written as, that this is taken again, and what it leaves. -/
structure NumberAsText (s : Store) (id : UInt8) (served : Mapping) (x : Fixed) : Prop where
  loaded : s.memory.loadRational served.valueAddress = .ok x
  written : s.loadValue Fixed .text id = .ok (x.bytes, s)
  short : x.text.length ≤ 13
  stored : ∃ (after : Store) (y : Fixed), s.storeValue Fixed .text id x.bytes = .ok after ∧
    after.mappings = s.mappings ∧
    s.memory.Overwritten after.memory served.valueAddress.toNat 4 ∧
    after.memory.loadRational served.valueAddress = .ok y ∧ x.ComesBackAs y

theorem numbers_as_text (s : Store) (id : UInt8) (served : Mapping)
    (offers : s.OffersNumber id served) : ∃ x, NumberAsText s id served x := by
  obtain ⟨x, loaded⟩ : ∃ x : Fixed, s.memory.loadRational served.valueAddress = .ok x :=
    ⟨_, Memory.loadRational_eq_ok.mpr ⟨offers.inside, rfl⟩⟩
  obtain ⟨memory, y, taken, stored, back⟩ := storeText_number offers x
  exact ⟨x, loaded, loadText_number offers loaded, x.length_text, _, y, taken, rfl,
    Memory.storeRational_overwritten stored, Memory.loadRational_of_stored stored, back⟩

def numberCell : Mapping := ⟨0x02, 0x04, 0, 0, 0, 5683, 0⟩

def numberOffer : Store :=
  ⟨(Memory.ofCapacity 4).patch 0 [0xFF, 0xFF, 0xFF, 0xFF], ⟨[numberCell], by decide⟩⟩

theorem numbers_as_text_negative :
    numberOffer.OffersNumber 0 numberCell ∧
      numberOffer.loadValue Fixed .text 0 = .ok ("-0.0039".toUTF8.toList, numberOffer) ∧
      ∃ after, numberOffer.storeValue Fixed .text 0 "-0.0039".toUTF8.toList = .ok after ∧
        after.memory.loadRational 0 = .ok (0 : Fixed) := by
  have offers : numberOffer.OffersNumber 0 numberCell := ⟨by rfl, by rfl, by rfl, by decide⟩
  obtain ⟨x, loaded, written, -, after, y, taken, -, -, left, back⟩ :=
    numbers_as_text numberOffer 0 numberCell offers
  have below : numberOffer.memory.loadRational 0 = .ok (Fixed.ofUnits (-1)) := by rfl
  cases below.symm.trans loaded
  have text : (Fixed.ofUnits (-1)).bytes = "-0.0039".toUTF8.toList := by
    have spelled : (Fixed.ofUnits (-1)).text = "-0.0039".toList := by decide
    rw [Utf8.toUTF8_toList, Fixed.bytes, spelled]
  have nothing : y.units = 0 := back.nearer (by decide)
  have zero : y = 0 := by rw [← Fixed.ofUnits_units y, nothing]; rfl
  rw [text] at written taken
  rw [zero] at left
  exact ⟨offers, written, after, taken, left⟩

end Store
end ControlMachine
