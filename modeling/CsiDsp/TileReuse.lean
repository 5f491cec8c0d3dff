import CsiDsp.TilePicture

set_option autoImplicit false

namespace CsiDsp.Tiles

open CInt Raster

-- Where the columns x1 to x2 of some rows come from, when the previous tile
-- holds px1 to px2 of them.
def columnPieces (frameP prevP : Plane) (y1 y2 x1 x2 px1 px2 : Int) : List (Plane × Box) :=
  (if px1 ≤ x1 ∧ px2 < x2 then [(prevP, ⟨y1, y2, x1, px2⟩), (frameP, ⟨y1, y2, px2 + 1, x2⟩)] else []) ++
  (if x1 < px1 ∧ px2 < x2 then
    [(frameP, ⟨y1, y2, x1, px1 - 1⟩), (prevP, ⟨y1, y2, px1, px2⟩), (frameP, ⟨y1, y2, px2 + 1, x2⟩)]
  else []) ++
  (if x1 < px1 ∧ x2 ≤ px2 then [(frameP, ⟨y1, y2, x1, px1 - 1⟩), (prevP, ⟨y1, y2, px1, x2⟩)] else []) ++
  (if px1 ≤ x1 ∧ x2 ≤ px2 then [(prevP, ⟨y1, y2, x1, x2⟩)] else [])

def reusePieces (frameP prevP : Plane) (box : Box) (before : PrevExtent) : List (Plane × Box) :=
  let columns (y1 y2 : Int) := columnPieces frameP prevP y1 y2 box.left box.right before.px1 before.px2
  (if before.py1 ≤ box.top ∧ before.py2 < box.bottom then
    (frameP, ⟨before.py2 + 1, box.bottom, box.left, box.right⟩) :: columns box.top before.py2
  else []) ++
  (if box.top < before.py1 ∧ before.py2 < box.bottom then
    (frameP, ⟨box.top, before.py1, box.left, box.right⟩) :: (frameP, ⟨before.py2 + 1, box.bottom, box.left, box.right⟩) ::
      columns before.py1 before.py2
  else []) ++
  (if box.top < before.py1 ∧ box.bottom ≤ before.py2 then
    (frameP, ⟨box.top, before.py1 - 1, box.left, box.right⟩) :: columns before.py1 box.bottom
  else []) ++
  (if before.py1 ≤ box.top ∧ box.bottom ≤ before.py2 then columns box.top box.bottom else [])

def copies (dst : Plane) (pieces : List (Plane × Box)) : List Transfer := pieces.map fun piece => between dst piece.1 piece.2

-- The previous tile and a box have a pixel in common.
structure Overlaps (box : Box) (before : PrevExtent) : Prop where
  filled : box.Filled
  rows : before.py1 ≤ before.py2
  columns : before.px1 ≤ before.px2
  top : before.py1 ≤ box.bottom
  bottom : box.top ≤ before.py2
  left : before.px1 ≤ box.right
  right : box.left ≤ before.px2

-- A piece inside a box; what comes from the previous tile is in there.
structure PieceOf (frameP prevP : Plane) (box : Box) (before : PrevExtent) (piece : Plane × Box) : Prop where
  filled : piece.2.Filled
  rows : box.top ≤ piece.2.top ∧ piece.2.bottom ≤ box.bottom
  columns : box.left ≤ piece.2.left ∧ piece.2.right ≤ box.right
  source : piece.1 = frameP ∨ piece.1 = prevP ∧ (before.py1 ≤ piece.2.top ∧ piece.2.bottom ≤ before.py2) ∧
    before.px1 ≤ piece.2.left ∧ piece.2.right ≤ before.px2

section Columns

variable (frameP prevP : Plane) (y1 y2 x1 x2 px1 px2 : Int)

theorem column_cases :
    (px1 ≤ x1 ∧ px2 < x2 ∧ columnPieces frameP prevP y1 y2 x1 x2 px1 px2 =
      [(prevP, ⟨y1, y2, x1, px2⟩), (frameP, ⟨y1, y2, px2 + 1, x2⟩)]) ∨
    (x1 < px1 ∧ px2 < x2 ∧ columnPieces frameP prevP y1 y2 x1 x2 px1 px2 =
      [(frameP, ⟨y1, y2, x1, px1 - 1⟩), (prevP, ⟨y1, y2, px1, px2⟩), (frameP, ⟨y1, y2, px2 + 1, x2⟩)]) ∨
    (x1 < px1 ∧ x2 ≤ px2 ∧ columnPieces frameP prevP y1 y2 x1 x2 px1 px2 =
      [(frameP, ⟨y1, y2, x1, px1 - 1⟩), (prevP, ⟨y1, y2, px1, x2⟩)]) ∨
    (px1 ≤ x1 ∧ x2 ≤ px2 ∧ columnPieces frameP prevP y1 y2 x1 x2 px1 px2 = [(prevP, ⟨y1, y2, x1, x2⟩)]) := by
  rw [columnPieces]
  by_cases starts : px1 ≤ x1 <;> by_cases ends : px2 < x2
  · have apart : ¬ x1 < px1 ∧ ¬ x2 ≤ px2 := by omega
    simp [starts, ends, apart]
  · have apart : ¬ x1 < px1 ∧ x2 ≤ px2 := by omega
    simp [starts, ends, apart]
  · have apart : x1 < px1 ∧ ¬ x2 ≤ px2 := by omega
    simp [starts, ends, apart]
  · have apart : x1 < px1 ∧ x2 ≤ px2 := by omega
    simp [starts, ends, apart]

-- All columns are covered, each by a piece with the given rows.
theorem columns_covered (y x : Int) (row : y1 ≤ y ∧ y ≤ y2) (from_ : x1 ≤ x)
    (upTo : x ≤ x2) : ∃ piece ∈ columnPieces frameP prevP y1 y2 x1 x2 px1 px2, piece.2.Has y x := by
  rcases column_cases frameP prevP y1 y2 x1 x2 px1 px2 with
    ⟨starts, ends, same⟩ | ⟨starts, ends, same⟩ | ⟨starts, ends, same⟩ | ⟨starts, ends, same⟩
  · rw [same]
    by_cases before : x ≤ px2
    · exact ⟨_, List.mem_cons_self, row, from_, before⟩
    · exact ⟨_, List.mem_cons_of_mem _ List.mem_cons_self, row, by simp only; omega, upTo⟩
  · rw [same]
    by_cases before : x < px1
    · exact ⟨_, List.mem_cons_self, row, from_, by simp only; omega⟩
    · by_cases inside : x ≤ px2
      · exact ⟨_, List.mem_cons_of_mem _ List.mem_cons_self, row, by simp only; omega, inside⟩
      · exact ⟨_, List.mem_cons_of_mem _ (List.mem_cons_of_mem _ List.mem_cons_self), row, by simp only; omega, upTo⟩
  · rw [same]
    by_cases before : x < px1
    · exact ⟨_, List.mem_cons_self, row, from_, by simp only; omega⟩
    · exact ⟨_, List.mem_cons_of_mem _ List.mem_cons_self, row, by simp only; omega, upTo⟩
  · rw [same]
    exact ⟨_, List.mem_cons_self, row, from_, upTo⟩

theorem columns_inside (box : Box) (before : PrevExtent) (overlaps : Overlaps box before) (order : y1 ≤ y2)
    (rows : box.top ≤ y1 ∧ y2 ≤ box.bottom) (held : before.py1 ≤ y1 ∧ y2 ≤ before.py2) (piece : Plane × Box)
    (listed : piece ∈ columnPieces frameP prevP y1 y2 box.left box.right before.px1 before.px2) :
    PieceOf frameP prevP box before piece := by
  obtain ⟨filled, -, columns, -, -, left, right⟩ := overlaps
  have across := filled.2
  rcases column_cases frameP prevP y1 y2 box.left box.right before.px1 before.px2 with
    ⟨starts, ends, same⟩ | ⟨starts, ends, same⟩ | ⟨starts, ends, same⟩ | ⟨starts, ends, same⟩
  · rw [same] at listed
    simp only [List.mem_cons, List.not_mem_nil, or_false] at listed
    rcases listed with rfl | rfl
    · exact ⟨⟨order, right⟩, rows, ⟨by simp, by simp only; omega⟩, .inr ⟨rfl, held, starts, by simp⟩⟩
    · exact ⟨⟨order, by simp only; omega⟩, rows, ⟨by simp only; omega, by simp⟩, .inl rfl⟩
  · rw [same] at listed
    simp only [List.mem_cons, List.not_mem_nil, or_false] at listed
    rcases listed with rfl | rfl | rfl
    · exact ⟨⟨order, by simp only; omega⟩, rows, ⟨by simp, by simp only; omega⟩, .inl rfl⟩
    · exact ⟨⟨order, columns⟩, rows, ⟨by simp only; omega, by simp only; omega⟩, .inr ⟨rfl, held, by simp, by simp⟩⟩
    · exact ⟨⟨order, by simp only; omega⟩, rows, ⟨by simp only; omega, by simp⟩, .inl rfl⟩
  · rw [same] at listed
    simp only [List.mem_cons, List.not_mem_nil, or_false] at listed
    rcases listed with rfl | rfl
    · exact ⟨⟨order, by simp only; omega⟩, rows, ⟨by simp, by simp only; omega⟩, .inl rfl⟩
    · exact ⟨⟨order, left⟩, rows, ⟨by simp only; omega, by simp⟩, .inr ⟨rfl, held, by simp, ends⟩⟩
  · rw [same] at listed
    simp only [List.mem_cons, List.not_mem_nil, or_false] at listed
    subst listed
    exact ⟨⟨order, across⟩, rows, ⟨by simp, by simp⟩, .inr ⟨rfl, held, starts, ends⟩⟩

end Columns

section Rows

variable (frameP prevP : Plane) (box : Box) (before : PrevExtent) (overlaps : Overlaps box before)

include overlaps

theorem row_cases :
    (before.py1 ≤ box.top ∧ before.py2 < box.bottom ∧ reusePieces frameP prevP box before =
      (frameP, ⟨before.py2 + 1, box.bottom, box.left, box.right⟩) ::
        columnPieces frameP prevP box.top before.py2 box.left box.right before.px1 before.px2) ∨
    (box.top < before.py1 ∧ before.py2 < box.bottom ∧ reusePieces frameP prevP box before =
      (frameP, ⟨box.top, before.py1, box.left, box.right⟩) :: (frameP, ⟨before.py2 + 1, box.bottom, box.left, box.right⟩) ::
        columnPieces frameP prevP before.py1 before.py2 box.left box.right before.px1 before.px2) ∨
    (box.top < before.py1 ∧ box.bottom ≤ before.py2 ∧ reusePieces frameP prevP box before =
      (frameP, ⟨box.top, before.py1 - 1, box.left, box.right⟩) ::
        columnPieces frameP prevP before.py1 box.bottom box.left box.right before.px1 before.px2) ∨
    (before.py1 ≤ box.top ∧ box.bottom ≤ before.py2 ∧ reusePieces frameP prevP box before =
      columnPieces frameP prevP box.top box.bottom box.left box.right before.px1 before.px2) := by
  have rows := overlaps.rows
  rw [reusePieces]
  by_cases starts : before.py1 ≤ box.top <;> by_cases ends : before.py2 < box.bottom
  · have apart : ¬ box.top < before.py1 ∧ ¬ box.bottom ≤ before.py2 := by omega
    simp [starts, ends, apart]
  · have apart : ¬ box.top < before.py1 ∧ box.bottom ≤ before.py2 := by omega
    simp [starts, ends, apart]
  · have apart : box.top < before.py1 ∧ ¬ box.bottom ≤ before.py2 := by omega
    simp [starts, ends, apart]
  · have apart : box.top < before.py1 ∧ box.bottom ≤ before.py2 := by omega
    simp [starts, ends, apart]

theorem reuse_covered (y x : Int) (has : box.Has y x) : ∃ piece ∈ reusePieces frameP prevP box before, piece.2.Has y x := by
  obtain ⟨⟨fromTop, toBottom⟩, fromLeft, toRight⟩ := has
  have covered (y1 y2 : Int) (row : y1 ≤ y ∧ y ≤ y2) :=
    columns_covered frameP prevP y1 y2 box.left box.right before.px1 before.px2 y x row fromLeft toRight
  rcases row_cases frameP prevP box before overlaps with
    ⟨starts, ends, same⟩ | ⟨starts, ends, same⟩ | ⟨starts, ends, same⟩ | ⟨starts, ends, same⟩
  · rw [same]
    by_cases held : y ≤ before.py2
    · obtain ⟨piece, listed, inPiece⟩ := covered box.top before.py2 ⟨fromTop, held⟩
      exact ⟨piece, List.mem_cons_of_mem _ listed, inPiece⟩
    · exact ⟨_, List.mem_cons_self, ⟨by simp only; omega, toBottom⟩, fromLeft, toRight⟩
  · rw [same]
    by_cases above : y < before.py1
    · exact ⟨_, List.mem_cons_self, ⟨fromTop, by simp only; omega⟩, fromLeft, toRight⟩
    · by_cases held : y ≤ before.py2
      · obtain ⟨piece, listed, inPiece⟩ := covered before.py1 before.py2 ⟨by omega, held⟩
        exact ⟨piece, List.mem_cons_of_mem _ (List.mem_cons_of_mem _ listed), inPiece⟩
      · exact ⟨_, List.mem_cons_of_mem _ List.mem_cons_self, ⟨by simp only; omega, toBottom⟩, fromLeft, toRight⟩
  · rw [same]
    by_cases above : y < before.py1
    · exact ⟨_, List.mem_cons_self, ⟨fromTop, by simp only; omega⟩, fromLeft, toRight⟩
    · obtain ⟨piece, listed, inPiece⟩ := covered before.py1 box.bottom ⟨by omega, toBottom⟩
      exact ⟨piece, List.mem_cons_of_mem _ listed, inPiece⟩
  · rw [same]
    exact covered box.top box.bottom ⟨fromTop, toBottom⟩

theorem reuse_inside (piece : Plane × Box) (listed : piece ∈ reusePieces frameP prevP box before) : PieceOf frameP prevP box before piece := by
  have filled := overlaps.filled
  have down := filled.1
  have rows := overlaps.rows
  have top := overlaps.top
  have bottom := overlaps.bottom
  have inside (y1 y2 : Int) := columns_inside frameP prevP y1 y2 box before overlaps
  have band (first last : Int) (order : first ≤ last) (within : box.top ≤ first ∧ last ≤ box.bottom) :
      PieceOf frameP prevP box before (frameP, ⟨first, last, box.left, box.right⟩) :=
    ⟨⟨order, filled.2⟩, within, ⟨Int.le_refl _, Int.le_refl _⟩, .inl rfl⟩
  rcases row_cases frameP prevP box before overlaps with
    ⟨starts, ends, same⟩ | ⟨starts, ends, same⟩ | ⟨starts, ends, same⟩ | ⟨starts, ends, same⟩
  · rw [same, List.mem_cons] at listed
    rcases listed with rfl | later
    · exact band _ _ (by omega) ⟨by omega, by omega⟩
    · exact inside _ _ (by omega) ⟨by omega, by omega⟩ ⟨by omega, by omega⟩ piece later
  · rw [same, List.mem_cons, List.mem_cons] at listed
    rcases listed with rfl | rfl | later
    · exact band _ _ (by omega) ⟨by omega, by omega⟩
    · exact band _ _ (by omega) ⟨by omega, by omega⟩
    · exact inside _ _ (by omega) ⟨by omega, by omega⟩ ⟨by omega, by omega⟩ piece later
  · rw [same, List.mem_cons] at listed
    rcases listed with rfl | later
    · exact band _ _ (by omega) ⟨by omega, by omega⟩
    · exact inside _ _ (by omega) ⟨by omega, by omega⟩ ⟨by omega, by omega⟩ piece later
  · rw [same] at listed
    exact inside _ _ (by omega) ⟨by omega, by omega⟩ ⟨by omega, by omega⟩ piece listed

end Rows

-- A request whose sizes are small is the copy of a box.
theorem request_between (dst src : Plane) (box : Box) (dstPtr srcPtr rowSize numRows : Int)
    (atDst : dstPtr = dst.addr box.top box.left 0) (atSrc : srcPtr = src.addr box.top box.left 0)
    (size : rowSize = (box.right - box.left + 1) * dst.unit) (rows : numRows = box.bottom - box.top + 1)
    (unit : 0 < dst.unit ∧ dst.unit ≤ 127) (filled : box.Filled) (down : box.bottom - box.top ≤ 32766) (across : box.right - box.left ≤ 32766) :
    addIdmaRequest dstPtr srcPtr rowSize numRows src.pitch dst.pitch = between dst src box := by
  have positive : 0 ≤ (box.right - box.left + 1) * dst.unit := mul_nonneg (by have order := filled.2; omega) (by omega)
  have small : (box.right - box.left + 1) * dst.unit ≤ 32767 * 127 :=
    mul_le_mul (by omega) unit.2 (by omega) (by omega)
  have order := filled.1
  rw [addIdmaRequest, between, atDst, atSrc, size, rows, u32_small _ positive (by omega), u32_small _ (by omega) (by omega)]

section Model

variable (frame : XvFrame) (tile prev : XvTile) (fits : TileFits frame tile) (prevFits : TileFits frame prev)

include fits

theorem tile_unit : 0 < (tilePlane frame tile).unit ∧ (tilePlane frame tile).unit ≤ 127 := by
  have positive := fits.unit
  have narrow := fits.narrow
  simp only [tilePlane]
  omega

theorem core_within : (core frame tile).bottom - (core frame tile).top ≤ 32766 ∧ (core frame tile).right - (core frame tile).left ≤ 32766 := by
  have short := box_short frame tile fits
  simp only [core, Box.meet]
  omega

omit fits in
theorem core_in_frame (y x : Int) (row : (core frame tile).top ≤ y ∧ y ≤ (core frame tile).bottom)
    (column : (core frame tile).left ≤ x ∧ x ≤ (core frame tile).right) : (frameBox frame).Has y x := by
  simp only [core, Box.meet] at row column
  exact ⟨by omega, by omega⟩

theorem rows_from_frame (filled : (core frame tile).Filled) (first last : Int) (order : first ≤ last)
    (within : (core frame tile).top ≤ first ∧ last ≤ (core frame tile).bottom) (numRows : Int) (count : numRows = last - first + 1) :
    rowsFromFrame frame tile first numRows =
      between (tilePlane frame tile) (framePlane frame) ⟨first, last, (core frame tile).left, (core frame tile).right⟩ := by
  obtain ⟨⟨top, -, -⟩, left, right, -⟩ := clip_core frame tile fits filled
  have short := core_within frame tile fits
  rw [rowsFromFrame, fits_pitch frame tile fits]
  refine request_between _ (framePlane frame) ⟨first, last, (core frame tile).left, (core frame tile).right⟩ _ _ _ _ ?_ ?_ ?_ count
    (tile_unit frame tile fits) ⟨order, filled.2⟩ (by simp only; omega) short.2
  · rw [dst_ptr_value frame tile fits filled, top, Plane.addr, Plane.addr]
    simp only [tilePlane]
    ring
  · rw [framePtr, fits_unit frame tile fits, left]
    exact fits_offset frame tile fits first _ (core_in_frame frame tile first _ ⟨within.1, by omega⟩ ⟨Int.le_refl _, filled.2⟩)
  · rw [dmaWidthBytes, left, right, fits_unit frame tile fits]
    rfl

theorem whole_between (filled : (core frame tile).Filled) :
    wholeTransfer frame tile = between (tilePlane frame tile) (framePlane frame) (core frame tile) := by
  obtain ⟨⟨top, bottom, -⟩, -⟩ := clip_core frame tile fits filled
  rw [wholeTransfer, top, rows_from_frame frame tile fits filled _ _ filled.1 ⟨Int.le_refl _, Int.le_refl _⟩]
  rw [dmaHeight, top, bottom]

theorem solve_between (y1 y2 x1 x2 px1 px2 : Int) (rows : y1 ≤ y2 ∧ y2 - y1 ≤ 32766) (across : x1 ≤ x2 ∧ x2 - x1 ≤ 32766)
    (within : ∀ x, x1 ≤ x → x ≤ x2 → (frameBox frame).Has y1 x)
    (order : px1 ≤ px2) (left : px1 ≤ x2) (right : x1 ≤ px2) :
    solveForX frame ((tilePlane frame tile).addr y1 x1 0) ((tilePlane frame prev).addr y1 px1 0) y1 y2 x1 x2 px1 px2
        (tilePlane frame tile).pitch (tilePlane frame prev).pitch =
      copies (tilePlane frame tile) (columnPieces (framePlane frame) (tilePlane frame prev) y1 y2 x1 x2 px1 px2) := by
  have unit := tile_unit frame tile fits
  have size := fits_unit_unsigned frame tile fits
  have fromPrev (first last : Int) (inside : first ≤ last ∧ x1 ≤ first ∧ last ≤ x2) (dstPtr srcPtr rowSize : Int)
      (atDst : dstPtr = (tilePlane frame tile).addr y1 first 0) (atSrc : srcPtr = (tilePlane frame prev).addr y1 first 0)
      (bytes : rowSize = (last - first + 1) * (tilePlane frame tile).unit) :
      addIdmaRequest dstPtr srcPtr rowSize (y2 - y1 + 1) (tilePlane frame prev).pitch (tilePlane frame tile).pitch =
        between (tilePlane frame tile) (tilePlane frame prev) ⟨y1, y2, first, last⟩ :=
    request_between _ _ ⟨y1, y2, first, last⟩ _ _ _ _ atDst atSrc bytes rfl unit ⟨rows.1, inside.1⟩ rows.2 (by simp only; omega)
  have fromFrame (first last : Int) (inside : first ≤ last ∧ x1 ≤ first ∧ last ≤ x2) (dstPtr srcPtr rowSize : Int)
      (atDst : dstPtr = (tilePlane frame tile).addr y1 first 0) (atSrc : srcPtr = (framePlane frame).addr y1 first 0)
      (bytes : rowSize = (last - first + 1) * (tilePlane frame tile).unit) :
      addIdmaRequest dstPtr srcPtr rowSize (y2 - y1 + 1) frame.framePitchBytes (tilePlane frame tile).pitch =
        between (tilePlane frame tile) (framePlane frame) ⟨y1, y2, first, last⟩ := by
    rw [fits_pitch frame tile fits]
    exact request_between _ (framePlane frame) ⟨y1, y2, first, last⟩ _ _ _ _ atDst atSrc bytes rfl unit ⟨rows.1, inside.1⟩ rows.2
      (by simp only; omega)
  have added (offset : Int) (column : Int) (same : column = px1 + offset) :
      (tilePlane frame prev).addr y1 px1 0 + offset * (tilePlane frame prev).unit = (tilePlane frame prev).addr y1 column 0 := by
    rw [Plane.addr, Plane.addr, same]
    ring
  have moved (offset : Int) (column : Int) (same : column = x1 + offset) :
      (tilePlane frame tile).addr y1 x1 0 + offset * (tilePlane frame tile).unit = (tilePlane frame tile).addr y1 column 0 := by
    rw [Plane.addr, Plane.addr, same]
    ring
  have source (column : Int) (inside : x1 ≤ column ∧ column ≤ x2) :
      (frame.pFrameData : Int) + frame.offset (tilePlane frame tile).unit y1 column = (framePlane frame).addr y1 column 0 :=
    fits_offset frame tile fits y1 column (within column inside.1 inside.2)
  have width : (u8 (frame.pixelRes * frame.numChannels : Nat) : Int) = (tilePlane frame tile).unit := size
  rw [copies, solveForX, width]
  rcases column_cases (framePlane frame) (tilePlane frame prev) y1 y2 x1 x2 px1 px2 with
    ⟨starts, ends, same⟩ | ⟨starts, ends, same⟩ | ⟨starts, ends, same⟩ | ⟨starts, ends, same⟩
  · have apart : ¬ x1 < px1 ∧ ¬ x2 ≤ px2 := by omega
    rw [same, if_pos ⟨starts, ends⟩, if_neg (fun both => apart.1 both.1), if_neg (fun both => apart.1 both.1),
      if_neg (fun both => apart.2 both.2)]
    exact congrArg₂ List.cons (fromPrev x1 px2 (by omega) _ _ _ rfl (added (x1 - px1) x1 (by omega)) rfl)
      (congrArg₂ List.cons (fromFrame (px2 + 1) x2 (by omega) _ _ _ (moved (px2 - x1 + 1) _ (by omega)) (source _ (by omega)) (by ring)) rfl)
  · have apart : ¬ px1 ≤ x1 ∧ ¬ x2 ≤ px2 := by omega
    rw [same, if_neg (fun both => apart.1 both.1), if_pos ⟨starts, ends⟩, if_neg (fun both => apart.2 both.2),
      if_neg (fun both => apart.1 both.1)]
    exact congrArg₂ List.cons (fromFrame x1 (px1 - 1) (by omega) _ _ _ rfl (source _ (by omega)) (by ring))
      (congrArg₂ List.cons (fromPrev px1 px2 (by omega) _ _ _ (moved (px1 - x1) _ (by omega)) rfl rfl)
        (congrArg₂ List.cons (fromFrame (px2 + 1) x2 (by omega) _ _ _ (moved (px2 - x1 + 1) _ (by omega)) (source _ (by omega)) (by ring)) rfl))
  · have apart : ¬ px1 ≤ x1 ∧ ¬ px2 < x2 := by omega
    rw [same, if_neg (fun both => apart.1 both.1), if_neg (fun both => apart.2 both.2), if_pos ⟨starts, ends⟩,
      if_neg (fun both => apart.1 both.1)]
    exact congrArg₂ List.cons (fromFrame x1 (px1 - 1) (by omega) _ _ _ rfl (source _ (by omega)) (by ring))
      (congrArg₂ List.cons (fromPrev px1 x2 (by omega) _ _ _ (moved (px1 - x1) _ (by omega)) rfl rfl) rfl)
  · have apart : ¬ x1 < px1 ∧ ¬ px2 < x2 := by omega
    rw [same, if_neg (fun both => apart.2 both.2), if_neg (fun both => apart.1 both.1), if_neg (fun both => apart.1 both.1),
      if_pos ⟨starts, ends⟩]
    exact congrArg₂ List.cons (fromPrev x1 x2 (by omega) _ _ _ rfl (added (x1 - px1) x1 (by omega)) rfl) rfl

theorem prev_edge : prev.pData - (prev.tileEdgeTop * prev.pitch * frame.pixelRes + prev.tileEdgeLeft * frame.pixWidth) =
    (tilePlane frame prev).addr prev.extent.py1 prev.extent.px1 0 := by
  rw [fits_unit frame tile fits, Plane.addr]
  simp only [tilePlane, XvTile.extent, XvTile.tilePitchBytes]
  ring

include prevFits in
theorem dependent_overlaps (filled : (core frame tile).Filled) (dependent : independent frame tile prev = false) :
    Overlaps (core frame tile) prev.extent := by
  obtain ⟨⟨top, bottom, -⟩, left, right, -⟩ := clip_core frame tile fits filled
  have width := prevFits.width
  have height := prevFits.height
  simp only [independent, top, bottom, left, right, Bool.or_eq_false_iff, decide_eq_false_iff_not, not_lt, gt_iff_lt] at dependent
  obtain ⟨⟨⟨below, above⟩, after⟩, ahead⟩ := dependent
  exact ⟨filled, by simp only [XvTile.extent]; omega, by simp only [XvTile.extent]; omega, above, below, ahead, after⟩

theorem reuse_between (filled : (core frame tile).Filled) (overlaps : Overlaps (core frame tile) prev.extent) :
    reuseTransfers frame tile prev =
      copies (tilePlane frame tile) (reusePieces (framePlane frame) (tilePlane frame prev) (core frame tile) prev.extent) := by
  obtain ⟨⟨top, bottom, -⟩, left, right, -⟩ := clip_core frame tile fits filled
  have short := core_within frame tile fits
  have down := filled.1
  have rows := overlaps.rows
  have above := overlaps.top
  have below := overlaps.bottom
  have band := rows_from_frame frame tile fits filled
  have solve (y1 y2 : Int) (order : y1 ≤ y2) (within : (core frame tile).top ≤ y1 ∧ y2 ≤ (core frame tile).bottom) (dstPtr srcPtr : Int)
      (atDst : dstPtr = (tilePlane frame tile).addr y1 (core frame tile).left 0)
      (atSrc : srcPtr = (tilePlane frame prev).addr y1 prev.extent.px1 0) :
      solveForX frame dstPtr srcPtr y1 y2 (core frame tile).left (core frame tile).right prev.extent.px1 prev.extent.px2
          (tile.tilePitchBytes frame) (prev.pitch * frame.pixelRes) =
        copies (tilePlane frame tile) (columnPieces (framePlane frame) (tilePlane frame prev) y1 y2 (core frame tile).left
          (core frame tile).right prev.extent.px1 prev.extent.px2) := by
    rw [atDst, atSrc]
    exact solve_between frame tile prev fits y1 y2 _ _ _ _ ⟨order, by omega⟩ ⟨filled.2, short.2⟩
      (fun x before after => core_in_frame frame tile y1 x ⟨within.1, by omega⟩ ⟨before, after⟩) overlaps.columns overlaps.left
      overlaps.right
  have moved (row : Int) : (tilePlane frame tile).addr (core frame tile).top (core frame tile).left 0 +
      (row - (core frame tile).top) * tile.tilePitchBytes frame = (tilePlane frame tile).addr row (core frame tile).left 0 := by
    rw [Plane.addr, Plane.addr]
    simp only [tilePlane]
    ring
  have added : (tilePlane frame prev).addr prev.extent.py1 prev.extent.px1 0 +
      ((core frame tile).top - prev.extent.py1) * (prev.pitch * frame.pixelRes) =
        (tilePlane frame prev).addr (core frame tile).top prev.extent.px1 0 := by
    rw [Plane.addr, Plane.addr]
    simp only [tilePlane, XvTile.tilePitchBytes]
    ring
  rw [reuseTransfers, prev_edge frame tile prev fits, dst_ptr_value frame tile fits filled, top, bottom, left, right, copies]
  rcases row_cases (framePlane frame) (tilePlane frame prev) (core frame tile) prev.extent overlaps with
    ⟨starts, ends, same⟩ | ⟨starts, ends, same⟩ | ⟨starts, ends, same⟩ | ⟨starts, ends, same⟩
  · have apart : ¬ (core frame tile).top < prev.extent.py1 ∧ ¬ (core frame tile).bottom ≤ prev.extent.py2 := by omega
    rw [same, if_pos ⟨starts, ends⟩, if_neg (fun both => apart.1 both.1), if_neg (fun both => apart.1 both.1),
      if_neg (fun both => apart.2 both.2), List.append_nil, List.append_nil, List.append_nil]
    exact congrArg₂ List.cons (band _ _ (by omega) (by omega) _ (by omega)) (solve _ _ (by omega) (by omega) _ _ rfl added)
  · have apart : ¬ prev.extent.py1 ≤ (core frame tile).top ∧ ¬ (core frame tile).bottom ≤ prev.extent.py2 := by omega
    rw [same, if_neg (fun both => apart.1 both.1), if_pos ⟨starts, ends⟩, if_neg (fun both => apart.2 both.2),
      if_neg (fun both => apart.1 both.1), List.append_nil, List.append_nil, List.nil_append]
    exact congrArg₂ List.cons (band _ _ (by omega) (by omega) _ (by omega)) (congrArg₂ List.cons
      (band _ _ (by omega) (by omega) _ (by omega)) (solve _ _ (by omega) (by omega) _ _ (moved _) rfl))
  · have apart : ¬ prev.extent.py1 ≤ (core frame tile).top ∧ ¬ prev.extent.py2 < (core frame tile).bottom := by omega
    rw [same, if_neg (fun both => apart.1 both.1), if_neg (fun both => apart.2 both.2), if_pos ⟨starts, ends⟩,
      if_neg (fun both => apart.1 both.1), List.append_nil, List.nil_append, List.nil_append]
    exact congrArg₂ List.cons (band _ _ (by omega) (by omega) _ (by omega)) (solve _ _ (by omega) (by omega) _ _ (moved _) rfl)
  · have apart : ¬ (core frame tile).top < prev.extent.py1 ∧ ¬ prev.extent.py2 < (core frame tile).bottom := by omega
    rw [same, if_neg (fun both => apart.2 both.2), if_neg (fun both => apart.1 both.1), if_neg (fun both => apart.1 both.1),
      if_pos ⟨starts, ends⟩, List.nil_append, List.nil_append, List.nil_append]
    exact solve _ _ (by omega) (by omega) _ _ rfl added

end Model

end CsiDsp.Tiles
