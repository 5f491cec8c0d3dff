set_option autoImplicit false

-- A ring of depth cells that carries an endless stream: cell i % depth holds
-- item i, and the items between the two counters are in use. The bounds are
-- part of the structure, so a window never holds more items than the ring has.
@[ext] structure Window (depth : Nat) where
  popped : Nat
  pushed : Nat
  ordered : popped ≤ pushed
  bounded : pushed ≤ popped + depth

namespace Window

variable {depth : Nat}

def held (window : Window depth) : Nat := window.pushed - window.popped

def items (window : Window depth) : List Nat := List.range' window.popped window.held

def cells (window : Window depth) : List Nat := window.items.map (· % depth)

def pushCells (window : Window depth) (count : Nat) : List Nat := (List.range' window.pushed count).map (· % depth)

def push (window : Window depth) (count : Nat) (room : window.pushed + count ≤ window.popped + depth) : Window depth :=
  ⟨window.popped, window.pushed + count, by have order := window.ordered; omega, room⟩

def pop (window : Window depth) (count : Nat) (stored : window.popped + count ≤ window.pushed) : Window depth :=
  ⟨window.popped + count, window.pushed, stored, by have bound := window.bounded; omega⟩

theorem cells_length (window : Window depth) : window.cells.length = window.pushed - window.popped := by
  simp [cells, items, held]

theorem push_items (window : Window depth) (count : Nat) (room : window.pushed + count ≤ window.popped + depth) :
    (window.push count room).items = window.items ++ List.range' window.pushed count := by
  have order := window.ordered
  have total : window.pushed + count - window.popped = (window.pushed - window.popped) + count := by omega
  have next : window.popped + (window.pushed - window.popped) = window.pushed := by omega
  simp only [items, held, push, total, ← List.range'_append_1, next]

theorem push_cells (window : Window depth) (count : Nat) (room : window.pushed + count ≤ window.popped + depth) :
    (window.push count room).cells = window.cells ++ window.pushCells count := by
  simp only [cells, pushCells, push_items, List.map_append]

theorem pop_items (window : Window depth) (count : Nat) (stored : window.popped + count ≤ window.pushed) :
    window.items = List.range' window.popped count ++ (window.pop count stored).items := by
  have total : window.pushed - window.popped = count + (window.pushed - (window.popped + count)) := by omega
  simp only [items, held, pop, List.range'_append_1, ← total]

theorem pop_cells (window : Window depth) (count : Nat) (stored : window.popped + count ≤ window.pushed) :
    (window.pop count stored).cells = window.cells.drop count := by
  simp [cells, pop_items window count stored]

theorem distinct_cells (first second : Nat) (before : first < second) (near : second < first + depth) :
    first % depth ≠ second % depth := by
  intro same
  have gap : (second - first) % depth = 0 := Nat.sub_mod_eq_zero_of_mod_eq same.symm
  have small : (second - first) % depth = second - first := Nat.mod_eq_of_lt (by omega)
  omega

-- A push has room exactly when its cells are disjoint from those in use.
theorem room_iff_disjoint (window : Window depth) (count : Nat) (fits : count ≤ depth) :
    window.pushed + count ≤ window.popped + depth ↔ ∀ cell ∈ window.pushCells count, cell ∉ window.cells := by
  have order := window.ordered
  have bound := window.bounded
  constructor
  · intro room cell fresh used
    simp only [pushCells, cells, items, held, List.mem_map, List.mem_range'_1] at fresh used
    obtain ⟨second, inPush, atSecond⟩ := fresh
    obtain ⟨first, inUse, atFirst⟩ := used
    exact distinct_cells first second (by omega) (by omega) (atFirst.trans atSecond.symm)
  · intro disjoint
    apply Nat.le_of_not_lt
    intro crowded
    -- The first item in use and the item one ring later share their cell.
    refine disjoint (window.popped % depth) ?_ ?_
    · refine List.mem_map.mpr ⟨window.popped + depth, ?_, by simp⟩
      exact List.mem_range'_1.mpr ⟨by omega, by omega⟩
    · refine List.mem_map.mpr ⟨window.popped, ?_, rfl⟩
      exact List.mem_range'_1.mpr ⟨by omega, by unfold held; omega⟩

theorem block_inside (block item : Nat) (positive : 0 < depth) (ring : block ∣ depth) (aligned : block ∣ item) :
    item % depth + block ≤ depth := by
  have below := Nat.mod_lt item positive
  obtain ⟨blocks, ringEq⟩ := ring
  obtain ⟨index, cellEq⟩ : block ∣ item % depth := (Nat.dvd_mod_iff ⟨blocks, ringEq⟩).mpr aligned
  have earlier : index < blocks := by
    apply Nat.lt_of_mul_lt_mul_left (a := block)
    omega
  have step := Nat.mul_le_mul_left block (show index + 1 ≤ blocks by omega)
  rw [Nat.mul_succ] at step
  omega

theorem block_cells (item count : Nat) (inside : item % depth + count ≤ depth) :
    (List.range' item count).map (· % depth) = List.range' (item % depth) count := by
  apply List.ext_getElem
  · simp
  · intro k bound _
    have small : k < count := by simpa using bound
    simp only [List.getElem_map, List.getElem_range', Nat.one_mul]
    rw [← Nat.mod_add_mod, Nat.mod_eq_of_lt (by omega)]

end Window
