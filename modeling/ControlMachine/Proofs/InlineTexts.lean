import ControlMachine.Network.Requests
import ControlMachine.Proofs.HeldBytes
import ControlMachine.Proofs.Remapping
import ControlMachine.Proofs.Utf8Encoding

/- Texts that an instruction carries. The machine passes over them to find the next instruction, and
   the network reads them later as texts in memory; both scans stop at the same zero. -/
namespace ControlMachine

namespace Utf8

theorem lossy_toUTF8 (text : String) : lossy text.toUTF8.toList = text := by
  have read : pieces text.toUTF8.toList = text.toList.map .char := by
    rw [pieces_eq_chars]
    exact toUTF8_toList text
  rw [lossy, read, List.map_map]
  exact (congrArg String.ofList (List.map_id text.toList)).trans text.ofList_toList

theorem zero_of_mem_encoding {ch : Char} (among : 0 ∈ String.utf8EncodeChar ch) : ch = '\x00' := by
  obtain ⟨lead, tail, bytes, sequence, same⟩ := encode_eq ch
  rw [bytes] at among
  -- all bytes but that of a one-byte character are at least 0x80
  cases sequence with
  | one first =>
    rw [← same, ← List.mem_singleton.mp among]
    rfl
  | two first second =>
    simp only [List.mem_cons, List.not_mem_nil, or_false] at among
    rcases among with rfl | rfl <;> simp at first second
  | three first second third long whole =>
    simp only [List.mem_cons, List.not_mem_nil, or_false] at among
    rcases among with rfl | rfl | rfl <;> simp at first second third
  | four first second third fourth long small =>
    simp only [List.mem_cons, List.not_mem_nil, or_false] at among
    rcases among with rfl | rfl | rfl | rfl <;> simp at first second third fourth

theorem zero_notMem_toUTF8 {text : String} (whole : '\x00' ∉ text.toList) :
    0 ∉ text.toUTF8.toList := by
  rw [toUTF8_toList, List.mem_flatMap]
  rintro ⟨ch, among, zero⟩
  rw [zero_of_mem_encoding zero] at among
  exact whole among

end Utf8

namespace Memory
variable {m : Memory} {address : UInt16} {values rest : List UInt8}

theorem slice_add (m : Memory) (start width more : Nat) :
    m.slice start (width + more) = m.slice start width ++ m.slice (start + width) more := by
  induction width generalizing start with
  | zero => rw [Nat.zero_add, Nat.add_zero]; rfl
  | succ width ih =>
    rw [Nat.add_right_comm, slice_succ, ih, slice_succ, List.cons_append, Nat.add_right_comm,
      Nat.add_assoc]

theorem loadString_of_held (held : m.Holds address.toNat (values ++ 0 :: rest))
    (whole : 0 ∉ values) : m.loadString address = .ok (Utf8.lossy values) := by
  obtain ⟨here, later⟩ := holds_append.mp held
  obtain ⟨zero, -⟩ := holds_cons.mp later
  have room := later.fits
  rw [List.length_cons] at room
  obtain ⟨more, size⟩ : ∃ more, m.capacity - address.toNat = values.length + (more + 1) :=
    ⟨m.capacity - address.toNat - values.length - 1, by omega⟩
  have split : m.slice address.toNat (m.capacity - address.toNat) =
      values ++ 0 :: m.slice (address.toNat + values.length + 1) more := by
    rw [size, slice_add, here.same, slice_succ, zero]
  have taken : (values ++ 0 :: m.slice (address.toNat + values.length + 1) more).takeWhile
      (· != 0) = values := by
    rw [List.takeWhile_append_of_pos, List.takeWhile_cons_of_neg, List.append_nil]
    · simp
    · intro b among
      have some : b ≠ 0 := by
        rintro rfl
        exact whole among
      simpa using some
  have inside : m.check .loadString address 1 = .ok () := check_eq_ok.mpr (by omega)
  unfold loadString
  rw [inside, split]
  simp only [except_ok_bind, taken]
  rw [if_pos (by simp), except_pure]

theorem ne_nowhere_of_inside (inside : address.toNat < m.capacity) :
    address ≠ Mapping.nowhere := by
  rintro rfl
  have small : m.capacity ≤ 0xFFFF := m.addressable
  exact absurd inside (Nat.not_lt.mpr small)

end Memory

namespace Store
variable {s : Store} {id : UInt8} {path : String} {mapping : Mapping}

theorem serves_iff : serves s.memory path mapping = true ↔
    mapping.isActive = true ∧ s.memory.loadString mapping.resourceAddress = .ok path := by
  unfold serves
  cases s.memory.loadString mapping.resourceAddress <;> simp

theorem host_eq_ok : s.host id = .ok path ↔ ∃ mapping, s.mappings.slot? id = some mapping ∧
    mapping.isActive = true ∧ s.memory.loadString mapping.urlAddress = .ok path := by
  unfold host
  simp only [except_bind_eq_ok, MappingTable.active_eq_ok, networkFault_eq_ok, and_assoc]

theorem resource_eq_ok : s.resource id = .ok path ↔
    ∃ mapping, s.mappings.slot? id = some mapping ∧ serves s.memory path mapping = true := by
  unfold resource
  simp only [except_bind_eq_ok, MappingTable.active_eq_ok, networkFault_eq_ok, serves_iff,
    and_assoc]

theorem small_of_slot {t : MappingTable} {i : Nat} (inside : i < t.slots.length) :
    (UInt8.ofNat i).toNat = i := by
  have few := t.few
  rw [UInt8.toNat_ofNat']
  omega

theorem findServer?_eq_some : s.findServer? path = some id ↔
    s.resource id = .ok path ∧ ∀ other, s.resource other = .ok path → id ≤ other := by
  simp only [findServer?, Option.map_eq_some_iff, List.findIdx?_eq_some_iff_getElem,
    resource_eq_ok, MappingTable.slot?, List.getElem?_eq_some_iff]
  constructor
  · rintro ⟨i, ⟨inside, serving, first⟩, rfl⟩
    have place := small_of_slot inside
    refine ⟨⟨s.mappings.slots[i], ⟨by rwa [place], by simp only [place]⟩, serving⟩, ?_⟩
    rintro other ⟨mapping, ⟨known, rfl⟩, reads⟩
    rw [UInt8.le_iff_toNat_le, place]
    exact Nat.not_lt.mp fun before => first other.toNat before reads
  · rintro ⟨⟨mapping, ⟨inside, rfl⟩, serving⟩, least⟩
    refine ⟨id.toNat, ⟨inside, serving, ?_⟩, UInt8.ofNat_toNat⟩
    intro j before reads
    have known : j < s.mappings.slots.length := Nat.lt_trans before inside
    have place := small_of_slot known
    have after := least (UInt8.ofNat j)
      ⟨s.mappings.slots[j], ⟨by rwa [place], by simp only [place]⟩, reads⟩
    rw [UInt8.le_iff_toNat_le, place] at after
    omega

end Store

structure InlineMap where
  selector : UInt8
  options : UInt8
  value : UInt16
  port : UInt16
  url : String
  resource : String
  inline : Mapping.urlIsLiteral options = true ∧ Mapping.resourceIsLiteral options = true
  valued : value ≠ Mapping.nowhere
  urlWhole : '\x00' ∉ url.toList
  resourceWhole : '\x00' ∉ resource.toList

namespace InlineMap
variable {i : InlineMap}

def id (i : InlineMap) : UInt8 := Selector.id ⟨i.selector⟩

def terminated (text : String) : List UInt8 := text.toUTF8.toList ++ [0]

theorem length_terminated (text : String) :
    (terminated text).length = text.toUTF8.toList.length + 1 := by
  rw [terminated, List.length_append, List.length_singleton]

def bytes (i : InlineMap) : List UInt8 :=
  Opcode.urlMap.byte :: i.selector :: i.options ::
    (LittleEndian.bytes 2 i.value.toNat ++ (LittleEndian.bytes 2 i.port.toNat ++
      (terminated i.url ++ terminated i.resource)))

def mapping (i : InlineMap) (urlAt resourceAt : UInt16) : Mapping :=
  ⟨i.selector, i.options, i.value, urlAt, resourceAt, i.port, 0⟩

theorem isActive_mapping {urlAt resourceAt : UInt16} (urlInside : urlAt ≠ Mapping.nowhere)
    (resourceInside : resourceAt ≠ Mapping.nowhere) :
    (i.mapping urlAt resourceAt).isActive = true := by
  simp [mapping, Mapping.isActive, i.valued, urlInside, resourceInside]

/-- The slot is active, whatever its status, and its texts are still at these addresses. -/
def MappedIn (i : InlineMap) (s : Store) (urlAt resourceAt : UInt16) : Prop :=
  ∃ mapping, s.mappings.slot? i.id = some mapping ∧ mapping.isActive = true ∧
    mapping.urlAddress = urlAt ∧ mapping.resourceAddress = resourceAt

theorem loadString_terminated {memory : Memory} {address : UInt16} {text : String}
    (held : memory.Holds address.toNat (terminated text)) (whole : '\x00' ∉ text.toList) :
    memory.loadString address = .ok text := by
  rw [Memory.loadString_of_held held (Utf8.zero_notMem_toUTF8 whole), Utf8.lossy_toUTF8]

theorem ne_nowhere_of_terminated {memory : Memory} {address : UInt16} {text : String}
    (held : memory.Holds address.toNat (terminated text)) : address ≠ Mapping.nowhere := by
  have fits := held.fits
  rw [length_terminated] at fits
  exact Memory.ne_nowhere_of_inside (m := memory) (by omega)

structure ServedIn (i : InlineMap) (s : Store) (urlAt resourceAt : UInt16) : Prop where
  host : s.memory.Holds urlAt.toNat (terminated i.url) → s.host i.id = .ok i.url
  resource : s.memory.Holds resourceAt.toNat (terminated i.resource) →
    s.resource i.id = .ok i.resource
  server : s.memory.Holds resourceAt.toNat (terminated i.resource) →
    ∃ least, s.findServer? i.resource = some least ∧ least ≤ i.id ∧
      s.resource least = .ok i.resource ∧
      ∀ other, s.resource other = .ok i.resource → least ≤ other

theorem exists_server {s : Store} {path : String} {id : UInt8} (reads : s.resource id = .ok path) :
    ∃ least, s.findServer? path = some least := by
  obtain ⟨mapping, known, serving⟩ := Store.resource_eq_ok.mp reads
  have among : mapping ∈ s.mappings.slots := List.mem_of_getElem? known
  cases found : s.findServer? path with
  | some least => exact ⟨least, rfl⟩
  | none =>
    rw [Store.findServer?, Option.map_eq_none_iff, List.findIdx?_eq_none_iff] at found
    have silent := found mapping among
    rw [serving] at silent
    cases silent

theorem servedIn_of_mappedIn {s : Store} {urlAt resourceAt : UInt16}
    (mapped : i.MappedIn s urlAt resourceAt) : i.ServedIn s urlAt resourceAt := by
  obtain ⟨mapping, known, active, rfl, rfl⟩ := mapped
  have reads : s.memory.Holds mapping.resourceAddress.toNat (terminated i.resource) →
      s.resource i.id = .ok i.resource := by
    intro held
    have text := loadString_terminated held i.resourceWhole
    exact Store.resource_eq_ok.mpr ⟨mapping, known, Store.serves_iff.mpr ⟨active, text⟩⟩
  constructor
  case host =>
    intro held
    have text := loadString_terminated held i.urlWhole
    exact Store.host_eq_ok.mpr ⟨mapping, known, active, text⟩
  case resource => exact reads
  case server =>
    intro held
    obtain ⟨least, found⟩ := exists_server (reads held)
    obtain ⟨readsToo, first⟩ := Store.findServer?_eq_some.mp found
    exact ⟨least, found, first i.id (reads held), readsToo, first⟩

end InlineMap

namespace Machine
open Fetch Memory InlineMap
variable {R : Type} {m : Machine R} {i : InlineMap}

theorem changingMappings_of_read {act : Fetch MappingTable} {mappings : MappingTable}
    {next : UInt16} (read : act (m.pc + 1) = .ok mappings next) :
    m.changingMappings act = .ok next (m.withMappings mappings) := by
  unfold changingMappings
  rw [read]

theorem textAddress_of_held {pc : UInt16} {text : String} {rest : List UInt8} {literal : Bool}
    (held : m.memory.Holds pc.toNat (terminated text ++ rest)) (whole : '\x00' ∉ text.toList)
    (here : literal = true) :
    ∃ next, textAddress m.code literal pc = .ok pc next ∧
      next.toNat = pc.toNat + (terminated text).length ∧ m.memory.Holds next.toNat rest := by
  rw [terminated, List.append_assoc, List.singleton_append] at held
  obtain ⟨next, read, place, later⟩ := string_of_held held (Utf8.zero_notMem_toUTF8 whole)
  refine ⟨next, ?_, ?_, later⟩
  · rw [textAddress, if_pos here]
    exact read
  · rw [place, length_terminated, Nat.add_assoc]

variable [Rational R]

theorem execute_inlineMap (clock : Clock) {old : Mapping}
    (held : m.memory.Holds m.pc.toNat i.bytes)
    (known : m.store.mappings.slot? i.id = some old) :
    ∃ urlAt resourceAt next, m.execute clock .urlMap = .ok next
        (m.withMappings (m.store.mappings.set i.id (i.mapping urlAt resourceAt))) ∧
      next.toNat = m.pc.toNat + i.bytes.length ∧ urlAt.toNat = m.pc.toNat + 7 ∧
      resourceAt.toNat = urlAt.toNat + (i.url.toUTF8.toList.length + 1) ∧
      m.memory.Holds urlAt.toNat (terminated i.url) ∧
      m.memory.Holds resourceAt.toNat (terminated i.resource) := by
  obtain ⟨begins, held⟩ := held_afterOpcode held
  obtain ⟨p1, selector, place1, held⟩ := selector_of_held held
  obtain ⟨p2, options, place2, held⟩ := byte_of_held held
  obtain ⟨p3, value, place3, held⟩ := address_of_held held
  obtain ⟨p4, port, place4, held⟩ := address_of_held held
  have urlHeld := (holds_append.mp held).1
  obtain ⟨p5, url, place5, resourceHeld⟩ := textAddress_of_held held i.urlWhole i.inline.1
  have ending := (List.append_nil (terminated i.resource)).symm ▸ resourceHeld
  obtain ⟨p6, resource, place6, -⟩ := textAddress_of_held ending i.resourceWhole i.inline.2
  have mapped : m.store.mappings.map i.id i.selector i.options i.value i.port p4 p5 =
      .ok (m.store.mappings.set i.id (i.mapping p4 p5)) :=
    MappingTable.update_eq_ok.mpr ⟨old, known, rfl⟩
  rw [length_terminated] at place5
  refine ⟨p4, p5, p6, ?_, ?_, by omega, place5, urlHeld, resourceHeld⟩
  · apply changingMappings_of_read
    exact bind_eq_ok.mpr ⟨_, p1, selector, bind_eq_ok.mpr ⟨_, p2, options,
      bind_eq_ok.mpr ⟨_, p3, value, bind_eq_ok.mpr ⟨_, p4, port,
      bind_eq_ok.mpr ⟨_, p5, url, bind_eq_ok.mpr ⟨_, p6, resource,
      lift_eq_ok.mpr ⟨mapped, rfl⟩⟩⟩⟩⟩⟩⟩
  · simp only [InlineMap.bytes, List.length_cons, List.length_append, LittleEndian.length_bytes,
      length_terminated] at place6 ⊢
    omega

/-- What the instruction leaves behind. The texts of the slot are the ones in the instruction, the URL
    right after the fields of fixed width and the resource right after the URL and its zero. -/
structure Mapped (i : InlineMap) (m after : Machine R) (urlAt resourceAt : UInt16) : Prop where
  past : after.pc.toNat = m.pc.toNat + i.bytes.length
  urlPlace : urlAt.toNat = m.pc.toNat + 7
  resourcePlace : resourceAt.toNat = urlAt.toNat + (i.url.toUTF8.toList.length + 1)
  memory : after.memory = m.memory
  slot : after.store.mappings.slot? i.id = some (i.mapping urlAt resourceAt)
  active : (i.mapping urlAt resourceAt).isActive = true
  fresh : (i.mapping urlAt resourceAt).status = 0
  url : after.memory.Holds urlAt.toNat (terminated i.url)
  resource : after.memory.Holds resourceAt.toNat (terminated i.resource)

/-- Both texts reach the network as they stand in the code, for as long as they stand there and the
    slot is mapped to them. No address in memory is the one that stands for no address. -/
theorem inline_texts_served (m : Machine R) (clock : Clock) (i : InlineMap)
    (running : m.isHalted = false) (held : m.memory.Holds m.pc.toNat i.bytes)
    (known : i.id.toNat < m.store.mappings.slots.length) :
    (∃ after urlAt resourceAt, m.step clock = .ok () after ∧ Mapped i m after urlAt resourceAt ∧
      i.MappedIn after.store urlAt resourceAt ∧
      ∀ later : Store, i.MappedIn later urlAt resourceAt → i.ServedIn later urlAt resourceAt) ∧
      ∀ (memory : Memory) (address : UInt16), address.toNat < memory.capacity →
        address ≠ Mapping.nowhere := by
  refine ⟨?_, fun memory address inside => ne_nowhere_of_inside inside⟩
  have found : m.store.mappings.slot? i.id = some m.store.mappings.slots[i.id.toNat] :=
    List.getElem?_eq_getElem known
  obtain ⟨urlAt, resourceAt, next, run, past, urlPlace, resourcePlace, urlHeld, resourceHeld⟩ :=
    execute_inlineMap (m := m.started) clock held found
  have slot := MappingTable.slot?_set_self found (i.mapping urlAt resourceAt)
  have active : (i.mapping urlAt resourceAt).isActive = true :=
    isActive_mapping (ne_nowhere_of_terminated urlHeld) (ne_nowhere_of_terminated resourceHeld)
  have stepped := step_of_execute running (opcode_of_held held) run
  exact ⟨_, urlAt, resourceAt, stepped,
    ⟨past, urlPlace, resourcePlace, rfl, slot, active, rfl, urlHeld, resourceHeld⟩,
    ⟨i.mapping urlAt resourceAt, slot, active, rfl, rfl⟩, fun later => servedIn_of_mappedIn⟩

def mappingAtEnd : InlineMap where
  selector := 0x04
  options := 0x1F
  value := 2
  port := 5683
  url := "h"
  resource := "/té"
  inline := by decide
  valued := by decide
  urlWhole := by decide
  resourceWhole := by decide

theorem inline_texts_served_at_end :
    mappingAtEnd.bytes = [0x70, 0x04, 0x1F, 0x02, 0x00, 0x33, 0x16, 0x68, 0x00, 0x2F, 0x74, 0xC3,
        0xA9, 0x00] ∧
      (filled mappingAtEnd.bytes).memory.Holds 0 mappingAtEnd.bytes ∧
      ∃ after, (filled mappingAtEnd.bytes).step ⟨0⟩ = .ok () after ∧ after.pc.toNat = 14 ∧
        after.store.host 0 = .ok "h" ∧ after.store.resource 0 = .ok "/té" ∧
        after.store.findServer? "/té" = some 0 := by
  have written : mappingAtEnd.bytes = [0x70, 0x04, 0x1F, 0x02, 0x00, 0x33, 0x16, 0x68, 0x00, 0x2F,
      0x74, 0xC3, 0xA9, 0x00] := by
    simp only [InlineMap.bytes, terminated, Utf8.toUTF8_toList]
    decide
  have held : (filled mappingAtEnd.bytes).memory.Holds 0 mappingAtEnd.bytes := by
    apply holds_patch
    rw [written]
    decide
  obtain ⟨⟨after, urlAt, resourceAt, stepped, mapped, here, serves⟩, -⟩ :=
    inline_texts_served (filled mappingAtEnd.bytes) ⟨0⟩ mappingAtEnd rfl held (by decide)
  have served := serves after.store here
  obtain ⟨least, found, low, -⟩ := served.server mapped.resource
  have first : least = 0 := by
    rw [UInt8.le_iff_toNat_le] at low
    exact UInt8.toNat_inj.mp (Nat.le_zero.mp low)
  refine ⟨written, held, after, stepped, ?_, served.host mapped.url,
    served.resource mapped.resource, ?_⟩
  · rw [mapped.past, written]
    rfl
  · exact first ▸ found

end Machine
end ControlMachine
