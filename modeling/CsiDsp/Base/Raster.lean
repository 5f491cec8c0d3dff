import Mathlib.Algebra.Ring.Int.Defs
import Mathlib.Tactic.Linarith
import Mathlib.Tactic.Ring

set_option autoImplicit false

-- Pictures laid out row by row in a memory of bytes.
namespace Raster

abbrev Memory := Int → UInt8

-- The rows lie a pitch apart, and a pixel takes a unit of bytes.
structure Plane where
  origin : Int
  pitch : Int
  unit : Int

def Plane.addr (plane : Plane) (y x byte : Int) : Int := plane.origin + y * plane.pitch + x * plane.unit + byte

structure Box where
  top : Int
  bottom : Int
  left : Int
  right : Int
deriving DecidableEq, Repr

def Box.Has (box : Box) (y x : Int) : Prop := (box.top ≤ y ∧ y ≤ box.bottom) ∧ box.left ≤ x ∧ x ≤ box.right

def Box.meet (box other : Box) : Box where
  top := max box.top other.top
  bottom := min box.bottom other.bottom
  left := max box.left other.left
  right := min box.right other.right

-- A box with at least one pixel.
def Box.Filled (box : Box) : Prop := box.top ≤ box.bottom ∧ box.left ≤ box.right

instance (box : Box) (y x : Int) : Decidable (box.Has y x) := inferInstanceAs (Decidable (_ ∧ _))

instance (box : Box) : Decidable box.Filled := inferInstanceAs (Decidable (_ ∧ _))

theorem has_meet (box other : Box) (y x : Int) : (box.meet other).Has y x ↔ box.Has y x ∧ other.Has y x := by
  simp only [Box.Has, Box.meet]
  omega

theorem has_filled (box : Box) (y x : Int) (has : box.Has y x) : box.Filled :=
  ⟨has.1.1.trans has.1.2, has.2.1.trans has.2.2⟩

-- The bytes of the pixels of a box.
def Plane.Covers (plane : Plane) (box : Box) (addr : Int) : Prop :=
  ∃ y x byte, box.Has y x ∧ (0 ≤ byte ∧ byte < plane.unit) ∧ addr = plane.addr y x byte

-- Columns that fit between two row starts.
structure Plane.Wide (plane : Plane) (left right : Int) : Prop where
  unit : 0 < plane.unit
  row : (right - left + 1) * plane.unit ≤ plane.pitch

def Shows (mem : Memory) (plane : Plane) (area : Int → Int → Prop) (picture : Int → Int → Int → UInt8) : Prop :=
  ∀ y x byte, area y x → 0 ≤ byte → byte < plane.unit → mem (plane.addr y x byte) = picture y x byte

def writeRow (mem : Memory) (dst len : Int) (value : Int → UInt8) : Memory :=
  fun addr => if dst ≤ addr ∧ addr < dst + len then value (addr - dst) else mem addr

-- Rows written one after the other, each from what the memory holds by then.
def sweep (mem : Memory) (dst pitch len : Int) (value : Memory → Int → Int → UInt8) : Nat → Memory
  | 0 => mem
  | rows + 1 =>
      let before := sweep mem dst pitch len value rows
      writeRow before (dst + rows * pitch) len (value before rows)

section Sweep

variable (mem : Memory) (dst pitch len : Int) (value : Memory → Int → Int → UInt8)

theorem sweep_outside (rows : Nat) (addr : Int)
    (outside : ∀ row : Nat, row < rows → ¬ (dst + row * pitch ≤ addr ∧ addr < dst + row * pitch + len)) :
    sweep mem dst pitch len value rows addr = mem addr := by
  induction rows with
  | zero => rfl
  | succ rows ih =>
      rw [sweep, writeRow, if_neg (outside rows (Nat.lt_succ_self rows))]
      exact ih fun row below => outside row (Nat.lt_succ_of_lt below)

-- A row is not written again by the rows after it.
theorem sweep_inside (narrow : len ≤ pitch) (rows row : Nat) (below : row < rows) (place : Int) (low : 0 ≤ place) (high : place < len) :
    sweep mem dst pitch len value rows (dst + row * pitch + place) = value (sweep mem dst pitch len value row) row place := by
  induction rows with
  | zero => exact absurd below (Nat.not_lt_zero row)
  | succ rows ih =>
      rw [sweep, writeRow]
      by_cases last : row = rows
      · subst last
        rw [if_pos ⟨by omega, by omega⟩]
        congr 1
        omega
      · have earlier : row < rows := by omega
        have above : (row : Int) * pitch + pitch ≤ rows * pitch := by
          have step : ((row : Int) + 1) * pitch ≤ rows * pitch := mul_le_mul_of_nonneg_right (by omega) (by omega)
          linarith
        rw [if_neg (by omega)]
        exact ih earlier

end Sweep

section Plane

variable (plane : Plane) (left right : Int) (wide : plane.Wide left right)

include wide

theorem row_offset (x byte : Int) (from_ : left ≤ x) (upTo : x ≤ right) (low : 0 ≤ byte) (high : byte < plane.unit) :
    0 ≤ (x - left) * plane.unit + byte ∧ (x - left) * plane.unit + byte < plane.pitch := by
  have unit := wide.unit
  have start : 0 ≤ (x - left) * plane.unit := mul_nonneg (by omega) (by omega)
  have stop : (x - left) * plane.unit ≤ (right - left) * plane.unit := mul_le_mul_of_nonneg_right (by omega) (by omega)
  have row := wide.row
  constructor
  · omega
  · linarith

-- Different pixels lie at different addresses.
theorem addr_injective (y x byte row column other : Int) (from_ : left ≤ x ∧ left ≤ column) (upTo : x ≤ right ∧ column ≤ right)
    (inPixel : 0 ≤ byte ∧ byte < plane.unit) (inOther : 0 ≤ other ∧ other < plane.unit)
    (same : plane.addr y x byte = plane.addr row column other) : y = row ∧ x = column ∧ byte = other := by
  have unit := wide.unit
  have first := row_offset plane left right wide x byte from_.1 upTo.1 inPixel.1 inPixel.2
  have second := row_offset plane left right wide column other from_.2 upTo.2 inOther.1 inOther.2
  have rows : y * plane.pitch + ((x - left) * plane.unit + byte) = row * plane.pitch + ((column - left) * plane.unit + other) := by
    rw [Plane.addr, Plane.addr] at same
    linarith
  have sameRow : y = row := by
    by_contra apart
    rcases Int.lt_or_gt_of_ne apart with less | more
    · have step : (y + 1) * plane.pitch ≤ row * plane.pitch := mul_le_mul_of_nonneg_right (by omega) (by omega)
      linarith
    · have step : (row + 1) * plane.pitch ≤ y * plane.pitch := mul_le_mul_of_nonneg_right (by omega) (by omega)
      linarith
  subst sameRow
  have columns : (x - left) * plane.unit + byte = (column - left) * plane.unit + other := by linarith
  have sameColumn : x = column := by
    by_contra apart
    rcases Int.lt_or_gt_of_ne apart with less | more
    · have step : (x - left + 1) * plane.unit ≤ (column - left) * plane.unit := mul_le_mul_of_nonneg_right (by omega) (by omega)
      linarith
    · have step : (column - left + 1) * plane.unit ≤ (x - left) * plane.unit := mul_le_mul_of_nonneg_right (by omega) (by omega)
      linarith
  subst sameColumn
  exact ⟨rfl, rfl, by linarith⟩

theorem covers_iff (box : Box) (within : left ≤ box.left ∧ box.right ≤ right) (y x byte : Int) (from_ : left ≤ x) (upTo : x ≤ right)
    (low : 0 ≤ byte) (high : byte < plane.unit) : plane.Covers box (plane.addr y x byte) ↔ box.Has y x := by
  constructor
  · rintro ⟨row, column, other, has, inOther, same⟩
    obtain ⟨rfl, rfl, -⟩ := addr_injective plane left right wide y x byte row column other ⟨from_, within.1.trans has.2.1⟩
      ⟨upTo, has.2.2.trans within.2⟩ ⟨low, high⟩ inOther same
    exact has
  · intro has
    exact ⟨y, x, byte, has, ⟨low, high⟩, rfl⟩

end Plane

-- The rows of a box, written from its first pixel on.
def paint (mem : Memory) (plane : Plane) (box : Box) (value : Memory → Int → Int → UInt8) : Memory :=
  sweep mem (plane.addr box.top box.left 0) plane.pitch ((box.right - box.left + 1) * plane.unit) value (box.bottom - box.top + 1).toNat

section Paint

variable (mem : Memory) (plane : Plane) (box : Box) (value : Memory → Int → Int → UInt8)

-- What a row of the sweep writes belongs to the box.
theorem row_covered (unit : 0 < plane.unit) (row : Nat) (below : row < (box.bottom - box.top + 1).toNat) (addr : Int)
    (inside : plane.addr box.top box.left 0 + row * plane.pitch ≤ addr ∧
      addr < plane.addr box.top box.left 0 + row * plane.pitch + (box.right - box.left + 1) * plane.unit) : plane.Covers box addr := by
  obtain ⟨place, rfl⟩ : ∃ place, addr = plane.addr box.top box.left 0 + row * plane.pitch + place :=
    ⟨addr - (plane.addr box.top box.left 0 + row * plane.pitch), by omega⟩
  have low : 0 ≤ place := by omega
  have high : place < (box.right - box.left + 1) * plane.unit := by omega
  have parts := Int.mul_ediv_add_emod place plane.unit
  have column : 0 ≤ place / plane.unit := Int.ediv_nonneg low (by omega)
  have lastColumn : place / plane.unit < box.right - box.left + 1 := Int.ediv_lt_of_lt_mul unit high
  refine ⟨box.top + row, box.left + place / plane.unit, place % plane.unit, ⟨⟨by omega, by omega⟩, by omega, by omega⟩,
    ⟨Int.emod_nonneg place (by omega), Int.emod_lt_of_pos place unit⟩, ?_⟩
  rw [Plane.addr, Plane.addr]
  linarith

theorem paint_outside (unit : 0 < plane.unit) (addr : Int) (outside : ¬ plane.Covers box addr) : paint mem plane box value addr = mem addr :=
  sweep_outside mem _ _ _ value _ addr fun row below inside => outside (row_covered plane box unit row below addr inside)

variable (left right : Int) (wide : plane.Wide left right) (within : left ≤ box.left ∧ box.right ≤ right)

include wide within

theorem paint_inside (y x byte : Int) (has : box.Has y x) (low : 0 ≤ byte) (high : byte < plane.unit) (target : UInt8)
    (agree : ∀ now : Memory, (∀ addr, ¬ plane.Covers box addr → now addr = mem addr) →
      value now (y - box.top) ((x - box.left) * plane.unit + byte) = target) :
    paint mem plane box value (plane.addr y x byte) = target := by
  obtain ⟨⟨fromTop, toBottom⟩, fromLeft, toRight⟩ := has
  have unit := wide.unit
  obtain ⟨row, rowValue⟩ : ∃ row : Nat, (row : Int) = y - box.top := ⟨(y - box.top).toNat, by omega⟩
  have narrow : (box.right - box.left + 1) * plane.unit ≤ plane.pitch :=
    le_trans (mul_le_mul_of_nonneg_right (by omega) (by omega)) wide.row
  have inBox : plane.Wide box.left box.right := ⟨unit, narrow⟩
  have start : 0 ≤ (x - box.left) * plane.unit := mul_nonneg (by omega) (by omega)
  have stop : (x - box.left) * plane.unit ≤ (box.right - box.left) * plane.unit := mul_le_mul_of_nonneg_right (by omega) (by omega)
  have place : plane.addr y x byte = plane.addr box.top box.left 0 + row * plane.pitch + ((x - box.left) * plane.unit + byte) := by
    rw [rowValue, Plane.addr, Plane.addr]
    ring
  rw [paint, place, sweep_inside mem _ _ _ value narrow _ row (by omega) _ (by omega) (by linarith), rowValue]
  exact agree _ fun addr outside => sweep_outside mem _ _ _ value row addr fun earlier before inside =>
    outside (row_covered plane box unit earlier (by omega) addr inside)

-- What is shown afterwards: the good part of the box, and what was shown around it.
theorem shows_painted (area good : Int → Int → Prop) (picture : Int → Int → Int → UInt8) (shown : Shows mem plane area picture)
    (columns : ∀ y x, area y x → left ≤ x ∧ x ≤ right)
    (agree : ∀ now : Memory, (∀ addr, ¬ plane.Covers box addr → now addr = mem addr) → ∀ y x byte, box.Has y x → good y x → 0 ≤ byte →
      byte < plane.unit → value now (y - box.top) ((x - box.left) * plane.unit + byte) = picture y x byte) :
    Shows (paint mem plane box value) plane (fun y x => area y x ∧ ¬ box.Has y x ∨ box.Has y x ∧ good y x) picture := by
  intro y x byte shownHere low high
  rcases shownHere with ⟨here, apart⟩ | ⟨has, fine⟩
  · obtain ⟨from_, upTo⟩ := columns y x here
    rw [paint_outside mem plane box value wide.unit _
      (mt (covers_iff plane left right wide box within y x byte from_ upTo low high).mp apart)]
    exact shown y x byte here low high
  · exact paint_inside mem plane box value left right wide within y x byte has low high _ fun now same =>
      agree now same y x byte has fine low high

-- Painting adds the box to what is shown.
theorem shows_paint (area : Int → Int → Prop) (picture : Int → Int → Int → UInt8) (shown : Shows mem plane area picture)
    (columns : ∀ y x, area y x → left ≤ x ∧ x ≤ right)
    (agree : ∀ now : Memory, (∀ addr, ¬ plane.Covers box addr → now addr = mem addr) → ∀ y x byte, box.Has y x → 0 ≤ byte →
      byte < plane.unit → value now (y - box.top) ((x - box.left) * plane.unit + byte) = picture y x byte) :
    Shows (paint mem plane box value) plane (fun y x => area y x ∨ box.Has y x) picture := by
  have whole := shows_painted mem plane box value left right wide within area (fun _ _ => True) picture shown columns
    fun now same y x byte has _ => agree now same y x byte has
  intro y x byte shownHere low high
  refine whole y x byte ?_ low high
  by_cases has : box.Has y x
  · exact .inr ⟨has, trivial⟩
  · exact .inl ⟨shownHere.resolve_right has, has⟩

end Paint

theorem shows_mono (mem : Memory) (plane : Plane) (area smaller : Int → Int → Prop) (picture : Int → Int → Int → UInt8)
    (shown : Shows mem plane area picture) (inside : ∀ y x, smaller y x → area y x) : Shows mem plane smaller picture :=
  fun y x byte has low high => shown y x byte (inside y x has) low high

theorem shows_congr (mem now : Memory) (plane : Plane) (area : Int → Int → Prop) (picture : Int → Int → Int → UInt8)
    (shown : Shows mem plane area picture) (same : ∀ y x byte, area y x → 0 ≤ byte → byte < plane.unit →
      now (plane.addr y x byte) = mem (plane.addr y x byte)) : Shows now plane area picture :=
  fun y x byte has low high => (same y x byte has low high).trans (shown y x byte has low high)

-- A copy of rows from one place to another.
structure Transfer where
  dst : Int
  src : Int
  rowSize : Nat
  numRows : Nat
  srcPitch : Int
  dstPitch : Int
deriving DecidableEq, Repr

def Transfer.perform (mem : Memory) (transfer : Transfer) : Memory :=
  sweep mem transfer.dst transfer.dstPitch transfer.rowSize
    (fun now row place => now (transfer.src + row * transfer.srcPitch + place)) transfer.numRows

def performAll (mem : Memory) (transfers : List Transfer) : Memory := transfers.foldl Transfer.perform mem

def Transfer.Reads (transfer : Transfer) (addr : Int) : Prop :=
  ∃ row : Nat, row < transfer.numRows ∧ transfer.src + row * transfer.srcPitch ≤ addr ∧
    addr < transfer.src + row * transfer.srcPitch + transfer.rowSize

def Transfer.Writes (transfer : Transfer) (addr : Int) : Prop :=
  ∃ row : Nat, row < transfer.numRows ∧ transfer.dst + row * transfer.dstPitch ≤ addr ∧
    addr < transfer.dst + row * transfer.dstPitch + transfer.rowSize

-- The copy of a box from one plane to another.
def between (dst src : Plane) (box : Box) : Transfer where
  dst := dst.addr box.top box.left 0
  src := src.addr box.top box.left 0
  rowSize := ((box.right - box.left + 1) * dst.unit).toNat
  numRows := (box.bottom - box.top + 1).toNat
  srcPitch := src.pitch
  dstPitch := dst.pitch

section Transfers

variable (mem now : Memory) (transfer : Transfer) (region : Int → Prop)

theorem perform_outside (addr : Int) (outside : ¬ transfer.Writes addr) : transfer.perform mem addr = mem addr :=
  sweep_outside mem _ _ _ _ _ addr fun row below inside => outside ⟨row, below, inside⟩

theorem perform_all_outside (transfers : List Transfer) (addr : Int) (outside : ∀ transfer ∈ transfers, ¬ transfer.Writes addr) :
    performAll mem transfers addr = mem addr := by
  induction transfers generalizing mem with
  | nil => rfl
  | cons transfer rest ih =>
      have later := ih (transfer.perform mem) fun other listed => outside other (List.mem_cons_of_mem _ listed)
      exact later.trans (perform_outside mem transfer addr (outside transfer List.mem_cons_self))

-- What a transfer does not read does not matter for what it leaves elsewhere.
theorem perform_agree (same : ∀ addr, ¬ region addr → now addr = mem addr) (unread : ∀ addr, transfer.Reads addr → ¬ region addr)
    (addr : Int) (outside : ¬ region addr) : transfer.perform now addr = transfer.perform mem addr := by
  have rows (count : Nat) (within : count ≤ transfer.numRows) (addr : Int) (outside : ¬ region addr) :
      sweep now transfer.dst transfer.dstPitch transfer.rowSize (fun now row place => now (transfer.src + row * transfer.srcPitch + place))
        count addr =
      sweep mem transfer.dst transfer.dstPitch transfer.rowSize (fun now row place => now (transfer.src + row * transfer.srcPitch + place))
        count addr := by
    induction count generalizing addr with
    | zero => exact same addr outside
    | succ count ih =>
        rw [sweep, sweep, writeRow, writeRow]
        by_cases written : transfer.dst + count * transfer.dstPitch ≤ addr ∧
            addr < transfer.dst + count * transfer.dstPitch + transfer.rowSize
        · rw [if_pos written, if_pos written]
          exact ih (by omega) _ (unread _ ⟨count, by omega, by omega, by omega⟩)
        · rw [if_neg written, if_neg written]
          exact ih (by omega) addr outside
  exact rows transfer.numRows (Nat.le_refl _) addr outside

theorem perform_all_agree (transfers : List Transfer) (same : ∀ addr, ¬ region addr → now addr = mem addr)
    (unread : ∀ transfer ∈ transfers, ∀ addr, transfer.Reads addr → ¬ region addr) (addr : Int) (outside : ¬ region addr) :
    performAll now transfers addr = performAll mem transfers addr := by
  induction transfers generalizing mem now with
  | nil => exact same addr outside
  | cons transfer rest ih =>
      have first := unread transfer List.mem_cons_self
      exact ih (transfer.perform mem) (transfer.perform now) (perform_agree mem now transfer region same first)
        fun other listed => unread other (List.mem_cons_of_mem _ listed)

theorem perform_all_append (transfers rest : List Transfer) :
    performAll mem (transfers ++ rest) = performAll (performAll mem transfers) rest := List.foldl_append

end Transfers

section Between

variable (mem : Memory) (dst src : Plane) (box : Box) (order : box.left ≤ box.right + 1) (unit : 0 < dst.unit)

include order unit

theorem between_row_size : ((between dst src box).rowSize : Int) = (box.right - box.left + 1) * dst.unit := by
  have size : 0 ≤ (box.right - box.left + 1) * dst.unit := mul_nonneg (by omega) (by omega)
  exact Int.toNat_of_nonneg size

theorem perform_between : (between dst src box).perform mem =
    paint mem dst box fun now row place => now (src.addr box.top box.left 0 + row * src.pitch + place) := by
  rw [Transfer.perform, paint, between_row_size dst src box order unit]
  rfl

theorem between_writes (addr : Int) (written : (between dst src box).Writes addr) : dst.Covers box addr := by
  obtain ⟨row, below, inside⟩ := written
  rw [between_row_size dst src box order unit] at inside
  exact row_covered dst box unit row below addr inside

theorem between_reads (sameUnit : src.unit = dst.unit) (addr : Int) (read : (between dst src box).Reads addr) : src.Covers box addr := by
  obtain ⟨row, below, inside⟩ := read
  rw [between_row_size dst src box order unit, ← sameUnit] at inside
  exact row_covered src box (sameUnit ▸ unit) row below addr inside

theorem shows_between (sameUnit : src.unit = dst.unit) (left right : Int) (wide : dst.Wide left right)
    (within : left ≤ box.left ∧ box.right ≤ right) (area : Int → Int → Prop) (picture : Int → Int → Int → UInt8)
    (shown : Shows mem dst area picture) (columns : ∀ y x, area y x → left ≤ x ∧ x ≤ right) (source : Shows mem src box.Has picture)
    (apart : ∀ addr, src.Covers box addr → ¬ dst.Covers box addr) :
    Shows ((between dst src box).perform mem) dst (fun y x => area y x ∨ box.Has y x) picture := by
  rw [perform_between mem dst src box order unit]
  refine shows_paint mem dst box _ left right wide within area picture shown columns ?_
  intro now same y x byte has low high
  have place : src.addr box.top box.left 0 + (y - box.top) * src.pitch + ((x - box.left) * dst.unit + byte) = src.addr y x byte := by
    rw [Plane.addr, Plane.addr, sameUnit]
    ring
  have inPixel : byte < src.unit := sameUnit ▸ high
  rw [place, same _ (apart _ ⟨y, x, byte, has, ⟨low, inPixel⟩, rfl⟩)]
  exact source y x byte has low inPixel

end Between

section Pieces

variable (dst : Plane) (region : Int → Prop) (picture : Int → Int → Int → UInt8) (left right : Int) (wide : dst.Wide left right)

-- A box of a picture to be copied into a region of the memory, from outside of it.
structure Source (mem : Memory) (piece : Plane × Box) : Prop where
  filled : piece.2.Filled
  from_ : left ≤ piece.2.left
  upTo : piece.2.right ≤ right
  unit : piece.1.unit = dst.unit
  shown : Shows mem piece.1 piece.2.Has picture
  outside : ∀ addr, piece.1.Covers piece.2 addr → ¬ region addr
  inside : ∀ addr, dst.Covers piece.2 addr → region addr

theorem source_kept (mem now : Memory) (piece : Plane × Box) (source : Source dst region picture left right mem piece)
    (same : ∀ addr, ¬ region addr → now addr = mem addr) : Source dst region picture left right now piece :=
  { source with
    shown := shows_congr mem now piece.1 _ picture source.shown fun y x byte has low high =>
      same _ (source.outside _ ⟨y, x, byte, has, ⟨low, high⟩, rfl⟩) }

include wide

-- Pieces copied one after the other show all that they cover.
theorem shows_pieces (pieces : List (Plane × Box)) (mem : Memory) (area : Int → Int → Prop) (shown : Shows mem dst area picture)
    (columns : ∀ y x, area y x → left ≤ x ∧ x ≤ right) (sources : ∀ piece ∈ pieces, Source dst region picture left right mem piece) :
    Shows (performAll mem (pieces.map fun piece => between dst piece.1 piece.2)) dst
      (fun y x => area y x ∨ ∃ piece ∈ pieces, piece.2.Has y x) picture := by
  induction pieces generalizing mem area with
  | nil => exact shows_mono mem dst area _ picture shown fun y x has => has.resolve_right (by simp)
  | cons piece rest ih =>
      have first := sources piece List.mem_cons_self
      have order : piece.2.left ≤ piece.2.right + 1 := by
        have filled := first.filled.2
        omega
      have added := shows_between mem dst piece.1 piece.2 order wide.unit first.unit left right wide ⟨first.from_, first.upTo⟩ area picture
        shown columns first.shown fun addr read written => first.outside addr read (first.inside addr written)
      have same (addr : Int) (outside : ¬ region addr) : (between dst piece.1 piece.2).perform mem addr = mem addr :=
        perform_outside mem _ addr fun written => outside (first.inside addr (between_writes dst piece.1 piece.2 order wide.unit addr written))
      have later := ih ((between dst piece.1 piece.2).perform mem) _ added
        (fun y x has => has.elim (columns y x) fun inBox => ⟨first.from_.trans inBox.2.1, inBox.2.2.trans first.upTo⟩)
        fun other listed => source_kept dst region picture left right mem _ other (sources other (List.mem_cons_of_mem _ listed)) same
      refine shows_mono _ dst _ _ picture later fun y x has => ?_
      rcases has with before | ⟨other, listed, inOther⟩
      · exact .inl (.inl before)
      · rcases List.mem_cons.mp listed with rfl | tail
        · exact .inl (.inr inOther)
        · exact .inr ⟨other, tail, inOther⟩

end Pieces

end Raster
