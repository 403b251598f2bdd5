import ControlMachine.Proofs.MemoryAccess

/- Memory is what stands at its addresses. Writes that do not meet can be made in either order, and
   a write of what stands there already changes nothing. -/
namespace ControlMachine.Memory
variable {m n : Memory} {start width : Nat} {values others : List UInt8}

theorem eq_of_bytes (size : n.capacity = m.capacity) (same : ∀ i, n.byteAt i = m.byteAt i) :
    n = m := by
  have data : n.bytes.data = m.bytes.data := by
    apply Array.ext
    · exact size
    · intro i here there
      have byte := same i
      simp only [byteAt_eq_getD, Array.getD_eq_getD_getElem?, Array.getElem?_eq_getElem here,
        Array.getElem?_eq_getElem there, Option.getD_some] at byte
      exact byte
  cases n
  cases m
  simp only [mk.injEq]
  exact ByteArray.ext data

theorem slice_congr (same : ∀ i, start ≤ i → i < start + width → n.byteAt i = m.byteAt i) :
    n.slice start width = m.slice start width := by
  refine List.map_congr_left ?_
  intro i small
  have below := List.mem_range.mp small
  exact same (start + i) (by omega) (by omega)

theorem byteAt_patch_outside (fits : start + values.length ≤ m.capacity) {i : Nat}
    (outside : i < start ∨ start + values.length ≤ i) :
    (m.patch start values).byteAt i = m.byteAt i :=
  overwritten_outside ⟨values, rfl, fits, rfl⟩ outside

theorem slice_patch_outside (fits : start + values.length ≤ m.capacity) {other : Nat}
    (apart : start + values.length ≤ other ∨ other + width ≤ start) :
    (m.patch start values).slice other width = m.slice other width := by
  apply slice_congr
  intro i above below
  exact byteAt_patch_outside fits (by omega)

theorem byteAt_patch_inside (fits : start + values.length ≤ m.capacity)
    (fitsToo : start + values.length ≤ n.capacity) {i : Nat} (above : start ≤ i)
    (below : i < start + values.length) :
    (m.patch start values).byteAt i = (n.patch start values).byteAt i := by
  have small : i - start < values.length := by omega
  rw [byteAt_patch m start values fits, byteAt_patch n start values fitsToo, if_pos above,
    if_pos above, List.getD_eq_getElem?_getD, List.getD_eq_getElem?_getD,
    List.getElem?_eq_getElem small, Option.getD_some, Option.getD_some]

theorem patch_comm {other : Nat} (fits : start + values.length ≤ m.capacity)
    (fitsToo : other + others.length ≤ m.capacity)
    (apart : start + values.length ≤ other ∨ other + others.length ≤ start) :
    (m.patch start values).patch other others = (m.patch other others).patch start values := by
  have second : other + others.length ≤ (m.patch start values).capacity := by
    rwa [capacity_patch]
  have first : start + values.length ≤ (m.patch other others).capacity := by
    rwa [capacity_patch]
  apply eq_of_bytes
  · simp only [capacity_patch]
  · intro i
    by_cases one : start ≤ i ∧ i < start + values.length
    · rw [byteAt_patch_outside second (by omega)]
      exact byteAt_patch_inside fits first one.1 one.2
    · rw [byteAt_patch_outside first (by omega)]
      by_cases two : other ≤ i ∧ i < other + others.length
      · exact byteAt_patch_inside second fitsToo two.1 two.2
      · rw [byteAt_patch_outside second (by omega), byteAt_patch_outside fits (by omega),
          byteAt_patch_outside fitsToo (by omega)]

theorem patch_slice_self (m : Memory) (fits : start + width ≤ m.capacity) :
    m.patch start (m.slice start width) = m := by
  have long := length_slice m start width
  have inside : start + (m.slice start width).length ≤ m.capacity := by rwa [long]
  apply eq_of_bytes
  · exact capacity_patch m start _
  · intro i
    by_cases here : start ≤ i ∧ i < start + width
    · have small : i - start < (m.slice start width).length := by omega
      rw [byteAt_patch m start _ inside, if_pos here.1, List.getD_eq_getElem?_getD,
        List.getElem?_eq_getElem small, Option.getD_some]
      simp only [slice, List.getElem_map, List.getElem_range]
      rw [Nat.add_sub_cancel' here.1]
    · exact byteAt_patch_outside inside (by omega)

end ControlMachine.Memory
