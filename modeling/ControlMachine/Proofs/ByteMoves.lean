import ControlMachine.Proofs.MemoryContents

/- Bytes moved within one memory. The loop writes into the bytes that it still has to read, and that
   does no harm as long as none of them is written over before its turn. The order of the loop is
   chosen so, and then the move is the same as if all bytes had been read before the first was
   written. -/
namespace ControlMachine.Memory
variable {m : Memory} {source dest length i k : Nat} {offsets : List Nat}

theorem byteAt_patch_one (fits : dest < m.capacity) (b : UInt8) (k : Nat) :
    (m.patch dest [b]).byteAt k = if k = dest then b else m.byteAt k := by
  have room : dest + [b].length ≤ m.capacity := fits
  by_cases here : k = dest
  · subst here
    rw [byteAt_patch m k [b] room, if_pos (Nat.le_refl k), if_pos rfl, Nat.sub_self]
    rfl
  · rw [if_neg here]
    apply byteAt_patch_outside room
    simp only [List.length_singleton]
    omega

theorem capacity_moveBytes (m : Memory) (source dest : Nat) (offsets : List Nat) :
    (moveBytes source dest offsets m).capacity = m.capacity := by
  induction offsets generalizing m with
  | nil => rfl
  | cons i offsets ih => rw [moveBytes, ih, capacity_patch]

theorem byteAt_moveBytes_apart (fits : ∀ i ∈ offsets, dest + i < m.capacity)
    (apart : ∀ i ∈ offsets, k ≠ dest + i) :
    (moveBytes source dest offsets m).byteAt k = m.byteAt k := by
  induction offsets generalizing m with
  | nil => rfl
  | cons i offsets ih =>
    simp only [List.mem_cons, forall_eq_or_imp] at fits apart
    have later : (moveBytes source dest offsets (m.patch (dest + i) [m.byteAt (source + i)])).byteAt
        k = (m.patch (dest + i) [m.byteAt (source + i)]).byteAt k := by
      apply ih
      · simpa only [capacity_patch] using fits.2
      · exact apart.2
    rw [moveBytes, later, byteAt_patch_one fits.1, if_neg apart.1]

/-- No byte is written over before its turn. -/
def Orderly (source dest : Nat) (offsets : List Nat) : Prop :=
  offsets.Pairwise fun i j => dest + i ≠ source + j

/-- In such an order every byte arrives as it was before the move. By induction on what is still to
    be carried: its bytes are as they were, since the byte that goes first is not put on them. -/
theorem byteAt_moveBytes (orderly : Orderly source dest offsets)
    (fits : ∀ i ∈ offsets, dest + i < m.capacity) (among : i ∈ offsets) :
    (moveBytes source dest offsets m).byteAt (dest + i) = m.byteAt (source + i) := by
  induction offsets generalizing m with
  | nil => cases among
  | cons first offsets ih =>
    obtain ⟨unread, rest⟩ := List.pairwise_cons.mp orderly
    simp only [List.mem_cons, forall_eq_or_imp] at fits
    have room : ∀ j ∈ offsets,
        dest + j < (m.patch (dest + first) [m.byteAt (source + first)]).capacity := by
      simpa only [capacity_patch] using fits.2
    rw [moveBytes]
    by_cases again : i ∈ offsets
    · have untouched := unread i again
      rw [ih rest room again, byteAt_patch_one fits.1, if_neg (Ne.symm untouched)]
    · have here : i = first := by
        rcases List.mem_cons.mp among with here | later
        · exact here
        · exact absurd later again
      subst here
      have last : ∀ j ∈ offsets, dest + i ≠ dest + j := by
        intro j member same
        have equal : i = j := by omega
        subst equal
        exact again member
      rw [byteAt_moveBytes_apart room last, byteAt_patch_one fits.1, if_pos rfl]

theorem orderly_copyOrder (source dest length : Nat) :
    Orderly source dest (copyOrder source dest length) := by
  have rising := List.pairwise_lt_range (n := length)
  unfold Orderly copyOrder
  split
  · rename_i up
    rw [List.pairwise_reverse]
    refine rising.imp ?_
    intro i j less
    omega
  · rename_i down
    refine rising.imp ?_
    intro i j less
    omega

theorem mem_copyOrder : i ∈ copyOrder source dest length ↔ i < length := by
  unfold copyOrder
  split <;> simp

/-- The loop comes to one write of the bytes that were there before it. -/
theorem moveBytes_copyOrder (fits : dest + length ≤ m.capacity) :
    moveBytes source dest (copyOrder source dest length) m =
      m.patch dest (m.slice source length) := by
  have long := length_slice m source length
  have room : dest + (m.slice source length).length ≤ m.capacity := by rwa [long]
  have inside : ∀ i ∈ copyOrder source dest length, dest + i < m.capacity := by
    intro i member
    have small := mem_copyOrder.mp member
    omega
  apply eq_of_bytes
  · rw [capacity_moveBytes, capacity_patch]
  · intro k
    by_cases within : dest ≤ k ∧ k < dest + length
    · obtain ⟨i, rfl⟩ := Nat.exists_eq_add_of_le within.1
      have small : i < length := by omega
      have arrived := byteAt_moveBytes (m := m) (orderly_copyOrder source dest length) inside
        (mem_copyOrder.mpr small)
      rw [arrived, byteAt_patch m dest _ room, if_pos within.1, Nat.add_sub_cancel_left]
      simp [slice, small]
    · rw [byteAt_patch_outside room (by omega)]
      apply byteAt_moveBytes_apart inside
      intro i member same
      have small := mem_copyOrder.mp member
      omega

section
variable {after : Memory} {source dest : UInt16} {length : UInt8}

theorem copy_eq (m : Memory) (source : UInt16) (length : UInt8) (dest : UInt16) :
    m.copy source length dest = (do
      let values ← m.read .copy source length.toNat
      m.write .copy dest values) := by
  unfold copy read write
  cases m.check .copy source length.toNat with
  | error fault => rfl
  | ok u =>
    simp only [bind, Except.bind, pure, Except.pure, length_slice]
    cases room : m.check .copy dest length.toNat with
    | error fault => rfl
    | ok v => rw [moveBytes_copyOrder (check_eq_ok.mp room)]

theorem copy_eq_ok : m.copy source length dest = .ok after ↔
    source.toNat + length.toNat ≤ m.capacity ∧ dest.toNat + length.toNat ≤ m.capacity ∧
      after = m.patch dest.toNat (m.slice source.toNat length.toNat) := by
  simp only [copy_eq, except_bind_eq_ok, read_eq_ok, write_eq_ok]
  constructor
  · rintro ⟨_, ⟨inside, rfl⟩, room, same⟩
    rw [length_slice] at room
    exact ⟨inside, room, same⟩
  · rintro ⟨inside, room, same⟩
    refine ⟨_, ⟨inside, rfl⟩, ?_, same⟩
    rwa [length_slice]

theorem copy_overwritten (done : m.copy source length dest = .ok after) :
    m.Overwritten after dest.toNat length.toNat := by
  obtain ⟨-, room, same⟩ := copy_eq_ok.mp done
  exact ⟨_, length_slice m source.toNat length.toNat, room, same⟩

end
end ControlMachine.Memory
