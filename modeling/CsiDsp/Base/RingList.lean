import Mathlib.Logic.Function.Basic
import CsiDsp.Base.Window

set_option autoImplicit false

-- A list in the cells of a ring: its first item is in the cell head, and the
-- cells go on modulo the size.
namespace RingList

variable {Item : Type} (size : Nat)

def ringList (head count : Nat) (cells : Nat → Item) : List Item :=
  (List.range count).map fun offset => cells ((head + offset) % size)

def writeRing (first : Nat) (items : Nat → Item) (count : Nat) (cells : Nat → Item) : Nat → Item :=
  (List.range count).foldl (fun cells offset => Function.update cells ((first + offset) % size) (items offset)) cells

theorem ring_length (head count : Nat) (cells : Nat → Item) : (ringList size head count cells).length = count := by
  rw [ringList, List.length_map, List.length_range]

theorem ring_take (head count : Nat) (cells : Nat → Item) :
    ringList size head (count + 1) cells = cells (head % size) :: ringList size ((head + 1) % size) count cells := by
  rw [ringList, ringList, List.range_succ_eq_map, List.map_cons, List.map_map]
  refine congrArg _ (List.map_congr_left fun offset _ => ?_)
  rw [Function.comp_apply, Nat.mod_add_mod, Nat.succ_eq_add_one, Nat.add_right_comm, Nat.add_assoc head]

theorem ring_extend (head count : Nat) (cells : Nat → Item) :
    ringList size head (count + 1) cells = ringList size head count cells ++ [cells ((head + count) % size)] := by
  rw [ringList, ringList, List.range_succ, List.map_append, List.map_singleton]

theorem ring_congr (head count : Nat) (first second : Nat → Item)
    (same : ∀ offset < count, first ((head + offset) % size) = second ((head + offset) % size)) :
    ringList size head count first = ringList size head count second :=
  List.map_congr_left fun offset member => same offset (List.mem_range.mp member)

theorem write_succ (first : Nat) (items : Nat → Item) (count : Nat) (cells : Nat → Item) :
    writeRing size first items (count + 1) cells =
      Function.update (writeRing size first items count cells) ((first + count) % size) (items count) := by
  rw [writeRing, List.range_succ, List.foldl_append]
  rfl

-- A write behind the list leaves its items alone, as long as there is room for both.
theorem write_keeps (head count more : Nat) (items cells : Nat → Item) (room : count + more ≤ size) (offset : Nat)
    (inside : offset < count) :
    writeRing size (head + count) items more cells ((head + offset) % size) = cells ((head + offset) % size) := by
  induction more with
  | zero => rfl
  | succ more ih =>
      have apart : (head + offset) % size ≠ (head + count + more) % size := Window.distinct_cells _ _ (by omega) (by omega)
      rw [write_succ, Function.update_of_ne apart, ih (by omega)]

theorem ring_write (head count more : Nat) (items cells : Nat → Item) (room : count + more ≤ size) :
    ringList size head (count + more) (writeRing size (head + count) items more cells) =
      ringList size head count cells ++ (List.range more).map items := by
  induction more with
  | zero => rw [List.range_zero, List.map_nil, List.append_nil, Nat.add_zero, writeRing, List.range_zero, List.foldl_nil]
  | succ more ih =>
      have kept : ringList size head (count + more) (writeRing size (head + count) items (more + 1) cells) =
          ringList size head (count + more) (writeRing size (head + count) items more cells) := by
        refine ring_congr size head (count + more) _ _ fun offset inside => ?_
        have apart : (head + offset) % size ≠ (head + count + more) % size := Window.distinct_cells _ _ (by omega) (by omega)
        rw [write_succ, Function.update_of_ne apart]
      rw [← Nat.add_assoc, ring_extend, kept, ih (by omega), write_succ, ← Nat.add_assoc, Function.update_self, List.append_assoc,
        List.range_succ, List.map_append, List.map_singleton]

end RingList
