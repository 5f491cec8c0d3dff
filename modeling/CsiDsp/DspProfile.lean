import CsiDsp.RbFile
import Mathlib.Data.List.Induction

set_option autoImplicit false

-- The profile buffer: entries appended to a ring that nobody reads meanwhile.
namespace CsiDsp.RbFile

open CInt RingList

def sizeofProfiler : Nat := 16

-- A buffer and its size. Without a buffer the old one stays.
def dspProfileInit (old : Option XrpRingBuffer) (buf : Option (Nat → UInt8)) (bufSize : Nat) : Option XrpRingBuffer × Int :=
  match buf with
  | none => (old, -1)
  | some data => (some ⟨0, 0, u32 ((bufSize : Int) - sizeofProfiler), data⟩, 0)

def dspProfileEntryAdd (rb : XrpRingBuffer) (entry : List UInt8) : XrpRingBuffer := (xrpRbWrite rb entry).1

-- An entry without room empties the ring, and is lost with what was in it.
def dspProfileEntryAddRing (rb : XrpRingBuffer) (entry : List UInt8) : XrpRingBuffer :=
  let wrote := xrpRbWrite rb entry
  if wrote.2 < entry.length then { wrote.1 with read := 0, write := 0 } else wrote.1

section Add

variable (rb : XrpRingBuffer) (valid : rb.Valid)

include valid

theorem entries_add_unread (entries : List (List UInt8)) : (entries.foldl dspProfileEntryAdd rb).Valid ∧
    (entries.foldl dspProfileEntryAdd rb).unread = rb.unread ++ entries.flatten.take (rb.size - 1 - rb.count) := by
  induction entries generalizing rb with
  | nil => exact ⟨valid, by simp⟩
  | cons entry rest ih =>
      have below := count_below rb valid
      obtain ⟨next, wrote, nextValid, -, same, unread, count⟩ := xrp_rb_write_spec rb valid entry
      have added : dspProfileEntryAdd rb entry = next := by rw [dspProfileEntryAdd, wrote]
      obtain ⟨lastValid, last⟩ := ih next nextValid
      rw [List.foldl_cons, added]
      refine ⟨lastValid, last.trans ?_⟩
      rw [unread, same, count, List.append_assoc, List.flatten_cons, List.take_append]
      have head : entry.take (min entry.length (rb.size - 1 - rb.count)) = entry.take (rb.size - 1 - rb.count) := by
        rw [← List.take_take, List.take_of_length_le (by rw [List.length_take]; omega)]
      have room : rb.size - 1 - (rb.count + min entry.length (rb.size - 1 - rb.count)) = rb.size - 1 - rb.count - entry.length := by omega
      rw [head, room]

theorem entry_add_ring_cases (entry : List UInt8) : (dspProfileEntryAddRing rb entry).Valid ∧
    (dspProfileEntryAddRing rb entry).size = rb.size ∧
    (dspProfileEntryAddRing rb entry).unread = if rb.count + entry.length < rb.size then rb.unread ++ entry else [] := by
  have below := count_below rb valid
  obtain ⟨next, wrote, nextValid, -, same, unread, -⟩ := xrp_rb_write_spec rb valid entry
  rw [dspProfileEntryAddRing, wrote]
  by_cases room : rb.count + entry.length < rb.size
  · have whole : min entry.length (rb.size - 1 - rb.count) = entry.length := by omega
    rw [whole] at unread ⊢
    rw [if_neg (Nat.lt_irrefl _), if_pos room, unread, List.take_length]
    exact ⟨nextValid, same, rfl⟩
  · have short : min entry.length (rb.size - 1 - rb.count) < entry.length := by omega
    rw [if_pos short, if_neg room]
    have positive := nextValid.read
    exact ⟨⟨by simp only; omega, by simp only; omega, nextValid.size⟩, same, rfl⟩

end Add

section Profile

variable (old : Option XrpRingBuffer) (data : Nat → UInt8) (bufSize : Nat) (room : sizeofProfiler < bufSize) (fits : bufSize < 4294967296)

include room fits

theorem init_valid : ∃ rb : XrpRingBuffer, dspProfileInit old (some data) bufSize = (some rb, 0) ∧ rb.Valid ∧ rb.unread = [] ∧
    rb.size = bufSize - sizeofProfiler := by
  have size : u32 ((bufSize : Int) - sizeofProfiler) = bufSize - sizeofProfiler := by
    have same : (bufSize : Int) - sizeofProfiler = (bufSize - sizeofProfiler : Nat) := by omega
    rw [same, u32_fits _ (by omega)]
  refine ⟨_, rfl, ⟨?_, ?_, ?_⟩, rfl, size⟩ <;> simp only [size] <;> omega

-- The plain mode keeps the first entries, and cuts the one that does not fit.
theorem profile_keeps_first (entries : List (List UInt8)) : ∃ rb, (dspProfileInit old (some data) bufSize).1 = some rb ∧
    (entries.foldl dspProfileEntryAdd rb).unread = entries.flatten.take (bufSize - sizeofProfiler - 1) := by
  obtain ⟨rb, started, valid, empty, size⟩ := init_valid old data bufSize room fits
  have count : rb.count = 0 := (ring_length ..).symm.trans (congrArg List.length empty)
  refine ⟨rb, congrArg Prod.fst started, ?_⟩
  rw [(entries_add_unread rb valid entries).2, empty, count, size, List.nil_append, Nat.sub_zero]

omit room fits in
theorem profile_keeps_first_cut : ∃ rb, (dspProfileInit none (some fun _ => 0) 20).1 = some rb ∧
    ([[1, 2], [3, 4]].foldl dspProfileEntryAdd rb).unread = [1, 2, 3] :=
  profile_keeps_first none (fun _ => 0) 20 (by decide) (by decide) [[1, 2], [3, 4]]

-- The ring mode holds whole entries only: those since it was last emptied, and
-- it is emptied by every entry that is one too many.
theorem profile_ring_last (entries : List (List UInt8)) (entrySize : Nat) (positive : 0 < entrySize)
    (sizes : ∀ entry ∈ entries, entry.length = entrySize) : ∃ rb, (dspProfileInit old (some data) bufSize).1 = some rb ∧
      (entries.foldl dspProfileEntryAddRing rb).unread =
        (entries.drop (entries.length - entries.length % ((bufSize - sizeofProfiler - 1) / entrySize + 1))).flatten := by
  obtain ⟨rb, started, valid, empty, size⟩ := init_valid old data bufSize room fits
  refine ⟨rb, congrArg Prod.fst started, ?_⟩
  generalize slots : (bufSize - sizeofProfiler - 1) / entrySize = capacity
  have most : capacity * entrySize ≤ rb.size - 1 := by
    rw [size, ← slots]
    exact Nat.div_mul_le_self _ _
  have past : rb.size - 1 < (capacity + 1) * entrySize := by
    rw [size, ← slots, Nat.mul_comm]
    exact Nat.lt_mul_div_succ _ positive
  suffices all : (entries.foldl dspProfileEntryAddRing rb).Valid ∧ (entries.foldl dspProfileEntryAddRing rb).size = rb.size ∧
      (entries.foldl dspProfileEntryAddRing rb).unread = (entries.drop (entries.length - entries.length % (capacity + 1))).flatten ∧
      (entries.foldl dspProfileEntryAddRing rb).count = entries.length % (capacity + 1) * entrySize from all.2.2.1
  -- The induction is on the entries so far, the last one added at the end.
  induction entries using List.reverseRecOn with
  | nil => exact ⟨valid, rfl, empty, (ring_length ..).symm.trans (by rw [← XrpRingBuffer.unread, List.foldl_nil, empty]; simp)⟩
  | append_singleton before entry ih =>
      obtain ⟨nowValid, nowSize, unread, count⟩ := ih fun other listed => sizes other (List.mem_append_left _ listed)
      have length := sizes entry (List.mem_append_right _ (List.mem_singleton.mpr rfl))
      obtain ⟨nextValid, same, next⟩ := entry_add_ring_cases _ nowValid entry
      rw [List.foldl_append, List.foldl_cons, List.foldl_nil, List.length_append, List.length_singleton]
      have counted (rb : XrpRingBuffer) : rb.count = rb.unread.length := (ring_length ..).symm
      have small := Nat.mod_lt before.length (show 0 < capacity + 1 by omega)
      rw [count, length, nowSize] at next
      refine ⟨nextValid, same.trans nowSize, ?_⟩
      rw [counted, next]
      by_cases last : before.length % (capacity + 1) = capacity
      · have full : ¬ before.length % (capacity + 1) * entrySize + entrySize < rb.size := by
          rw [last, ← Nat.add_one_mul]
          omega
        have emptied : (before.length + 1) % (capacity + 1) = 0 := by
          rw [Nat.add_mod, last]
          rcases Nat.eq_zero_or_pos capacity with none_ | some_
          · simp [none_]
          · rw [Nat.mod_eq_of_lt (show 1 < capacity + 1 by omega), Nat.mod_self]
        rw [if_neg full, emptied, Nat.sub_zero, Nat.zero_mul]
        exact ⟨by rw [List.drop_eq_nil_of_le (by simp)]; rfl, rfl⟩
      · have more : before.length % (capacity + 1) * entrySize + entrySize < rb.size := by
          have rows : (before.length % (capacity + 1) + 1) * entrySize ≤ capacity * entrySize := Nat.mul_le_mul_right _ (by omega)
          have sizePositive := valid.read
          rw [Nat.add_one_mul] at rows
          omega
        have one_ : 1 % (capacity + 1) = 1 := Nat.mod_eq_of_lt (by omega)
        have counts : (before.length + 1) % (capacity + 1) = before.length % (capacity + 1) + 1 := by
          rw [Nat.add_mod, one_, Nat.mod_eq_of_lt (by omega)]
        have within := Nat.mod_le before.length (capacity + 1)
        rw [if_pos more, counts]
        have start : before.length + 1 - (before.length % (capacity + 1) + 1) = before.length - before.length % (capacity + 1) := by omega
        refine ⟨?_, ?_⟩
        · rw [start, List.drop_append_of_le_length (by omega), List.flatten_append, List.flatten_singleton, unread]
        · rw [List.length_append, ← counted, count, length, Nat.add_one_mul]

omit room fits in
theorem profile_ring_last_two : ∃ rb, (dspProfileInit none (some fun _ => 0) 22).1 = some rb ∧
    ([[1, 2], [3, 4], [5, 6], [7, 8], [9, 10]].foldl dspProfileEntryAddRing rb).unread = [7, 8, 9, 10] :=
  profile_ring_last none (fun _ => 0) 22 (by decide) (by decide) [[1, 2], [3, 4], [5, 6], [7, 8], [9, 10]] 2 (by decide) (by decide)

end Profile

end CsiDsp.RbFile
