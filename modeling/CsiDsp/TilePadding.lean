import CsiDsp.TilePicture

set_option autoImplicit false

namespace CsiDsp.Tiles

open CInt Raster

-- What the checks in front of a transfer know of a tile, and that its sizes fit.
structure Checked (dram : Dram) (frame : XvFrame) (tile : XvTile) : Prop where
  fits : TileFits frame tile
  passed : xvCheckTile dram tile = true
  channels : frame.numChannels = typeChannels tile.type
  res : frame.pixelRes = bytePerPel tile.type

def InBuffer (tile : XvTile) (addr : Int) : Prop := tile.pBuffer ≤ addr ∧ addr < tile.pBuffer + tile.bufferSize

section Checked

variable (dram : Dram) (frame : XvFrame) (tile : XvTile) (checked : Checked dram frame tile)

include checked

theorem checked_wide : (tilePlane frame tile).Wide (tileBox tile).left (tileBox tile).right := by
  obtain ⟨fits, passed, channels, -⟩ := checked
  simp only [xvCheckTile, xvTileIsConsistent, xvTilePitchIsConsistent, Bool.and_eq_true, decide_eq_true_eq, ← channels] at passed
  obtain ⟨-, ⟨pitch, -⟩, -⟩ := passed
  have positive := fits.unit
  constructor
  · simp only [tilePlane]
    omega
  · have wide : (tile.width + tile.tileEdgeLeft + tile.tileEdgeRight) * frame.numChannels * frame.pixelRes ≤ tile.pitch * frame.pixelRes :=
      mul_le_mul_of_nonneg_right pitch (by omega)
    simp only [tilePlane, tileBox, XvTile.tilePitchBytes, Nat.cast_mul]
    linarith

-- The rows of the tile with its edges lie in its buffer.
theorem checked_buffer (addr : Int) (covered : (tilePlane frame tile).Covers (tileBox tile) addr) : InBuffer tile addr := by
  have wide := checked_wide dram frame tile checked
  obtain ⟨fits, passed, -, res⟩ := checked
  simp only [xvCheckTile, xvTileIsConsistent, xvTileBaseIsConsistent, xvTileEndIsConsistent, Bool.and_eq_true, decide_eq_true_eq, ← res,
    fits.element] at passed
  obtain ⟨-, ⟨-, base⟩, stop⟩ := passed
  obtain ⟨y, x, byte, ⟨⟨fromTop, toBottom⟩, fromLeft, toRight⟩, ⟨low, high⟩, rfl⟩ := covered
  have offset := row_offset (tilePlane frame tile) (tileBox tile).left (tileBox tile).right wide x byte fromLeft toRight low high
  have pitch : 0 ≤ (tilePlane frame tile).pitch := by omega
  have first : (tileBox tile).top * (tilePlane frame tile).pitch ≤ y * (tilePlane frame tile).pitch :=
    mul_le_mul_of_nonneg_right fromTop pitch
  have last : y * (tilePlane frame tile).pitch ≤ (tileBox tile).bottom * (tilePlane frame tile).pitch :=
    mul_le_mul_of_nonneg_right toBottom pitch
  rw [Plane.addr]
  simp only [tilePlane, tileBox, XvTile.tilePitchBytes, Nat.cast_mul] at first last offset base stop ⊢
  constructor <;> nlinarith

end Checked

-- The bytes of the padding value come again with every pixel.
theorem pad_byte_pixel (unit column byte : Int) (paddingType paddingVal : Nat) :
    padByte unit paddingType paddingVal (column * unit + byte) = padByte unit paddingType paddingVal byte := by
  rw [padByte, padByte]
  by_cases even : unit % 2 = 0
  · have same : (column * unit + byte) % 2 = byte % 2 := by
      rw [Int.add_emod, Int.mul_emod, even]
      simp
    rw [same]
  · simp only [even, false_and, if_false]

section Edges

variable (mem : Memory) (plane : Plane) (box : Box) (left right : Int) (wide : plane.Wide left right)
  (within : left ≤ box.left ∧ box.right ≤ right) (paddingType paddingVal : Nat) (area : Int → Int → Prop)
  (picture : Int → Int → Int → UInt8) (shown : Shows mem plane area picture) (columns : ∀ y x, area y x → left ≤ x ∧ x ≤ right)
  (constant : paddingType ≠ frameEdgePadding → ∀ y x byte, box.Has y x →
    picture y x byte = padByte plane.unit paddingType paddingVal byte)

include wide within shown columns constant

-- Rows filled from the row next to them, good where that row is.
theorem shows_edge_rows (row : Int) (good : Int → Prop) (apart : ¬ (box.top ≤ row ∧ row ≤ box.bottom)) (held : ∀ x, good x → area row x)
    (edge : paddingType = frameEdgePadding → ∀ y x byte, box.Has y x → picture y x byte = picture row x byte) :
    Shows (copyBufferEdgeDataH mem (plane.addr row box.left 0) (plane.addr box.top box.left 0) plane.unit (box.bottom - box.top + 1)
        plane.pitch paddingType paddingVal ((box.right - box.left + 1) * plane.unit)) plane
      (fun y x => area y x ∧ ¬ box.Has y x ∨ box.Has y x ∧ good x) picture := by
  rw [copyBufferEdgeDataH]
  by_cases edges : paddingType = frameEdgePadding
  · rw [if_pos edges]
    refine shows_painted mem plane box _ left right wide within area (fun _ x => good x) picture shown columns ?_
    intro now same y x byte has fine low high
    have place : plane.addr row box.left 0 + ((x - box.left) * plane.unit + byte) = plane.addr row x byte := by
      rw [Plane.addr, Plane.addr]
      ring
    obtain ⟨from_, upTo⟩ := columns row x (held x fine)
    rw [place, same _ (mt (covers_iff plane left right wide box within row x byte from_ upTo low high).mp fun other => apart other.1),
      shown row x byte (held x fine) low high, edge edges y x byte has]
  · rw [if_neg edges]
    refine shows_painted mem plane box _ left right wide within area (fun _ x => good x) picture shown columns ?_
    intro now same y x byte has fine low high
    rw [pad_byte_pixel, constant edges y x byte has]

-- Columns filled from the column next to them.
theorem shows_edge_columns (column : Int) (apart : ¬ (box.left ≤ column ∧ column ≤ box.right))
    (held : ∀ y, box.top ≤ y → y ≤ box.bottom → area y column)
    (edge : paddingType = frameEdgePadding → ∀ y x byte, box.Has y x → picture y x byte = picture y column byte) :
    Shows (copyBufferEdgeDataV mem (plane.addr box.top column 0) (plane.addr box.top box.left 0) plane.unit (box.bottom - box.top + 1)
        plane.pitch paddingType paddingVal (box.right - box.left + 1)) plane (fun y x => area y x ∨ box.Has y x) picture := by
  rw [copyBufferEdgeDataV]
  by_cases edges : paddingType = frameEdgePadding
  · rw [if_pos edges]
    refine shows_paint mem plane box _ left right wide within area picture shown columns ?_
    intro now same y x byte has low high
    have offset : ((x - box.left) * plane.unit + byte) % plane.unit = byte := by
      rw [Int.add_comm, Int.add_mul_emod_self_right, Int.emod_eq_of_lt low high]
    have place : plane.addr box.top column 0 + (y - box.top) * plane.pitch + byte = plane.addr y column byte := by
      rw [Plane.addr, Plane.addr]
      ring
    have here := held y has.1.1 has.1.2
    obtain ⟨from_, upTo⟩ := columns y column here
    rw [offset, place,
      same _ (mt (covers_iff plane left right wide box within y column byte from_ upTo low high).mp fun other => apart other.2),
      shown y column byte here low high, edge edges y x byte has]
  · rw [if_neg edges]
    refine shows_paint mem plane box _ left right wide within area picture shown columns ?_
    intro now same y x byte has low high
    rw [pad_byte_pixel, constant edges y x byte has]

end Edges

section Padded

variable (frame : XvFrame) (mem : Memory) (y x byte : Int)

theorem padded_inside (inside : (frameBox frame).Has y x) : padded frame mem y x byte = frameView frame mem y x byte := by
  rw [padded, if_pos inside]

theorem padded_constant (outside : ¬ (frameBox frame).Has y x) (constant : frame.paddingType ≠ frameEdgePadding) :
    padded frame mem y x byte = padByte (framePlane frame).unit frame.paddingType frame.paddingVal byte := by
  rw [padded, if_neg outside, if_neg constant]
  rfl

theorem padded_edge (edge : frame.paddingType = frameEdgePadding) : padded frame mem y x byte =
    frameView frame mem (clampTo (frameBox frame).top (frameBox frame).bottom y) (clampTo (frameBox frame).left (frameBox frame).right x)
      byte := by
  rw [padded]
  by_cases inside : (frameBox frame).Has y x
  · obtain ⟨⟨fromTop, toBottom⟩, fromLeft, toRight⟩ := inside
    rw [if_pos ⟨⟨fromTop, toBottom⟩, fromLeft, toRight⟩, clampTo, clampTo, min_eq_right toBottom, max_eq_right fromTop, min_eq_right toRight,
      max_eq_right fromLeft]
  · rw [if_neg inside, if_pos edge]

-- Under edge padding only the place nearest to the frame counts.
theorem padded_same (edge : frame.paddingType = frameEdgePadding) (row column : Int)
    (sameRow : clampTo (frameBox frame).top (frameBox frame).bottom y = clampTo (frameBox frame).top (frameBox frame).bottom row)
    (sameColumn : clampTo (frameBox frame).left (frameBox frame).right x = clampTo (frameBox frame).left (frameBox frame).right column) :
    padded frame mem y x byte = padded frame mem row column byte := by
  rw [padded_edge frame mem y x byte edge, padded_edge frame mem row column byte edge, sameRow, sameColumn]

end Padded

-- The parts of a tile around its core.
def topBand (frame : XvFrame) (tile : XvTile) : Box :=
  ⟨(tileBox tile).top, (core frame tile).top - 1, (tileBox tile).left, (tileBox tile).right⟩

def bottomBand (frame : XvFrame) (tile : XvTile) : Box :=
  ⟨(core frame tile).bottom + 1, (tileBox tile).bottom, (tileBox tile).left, (tileBox tile).right⟩

def leftBand (frame : XvFrame) (tile : XvTile) : Box :=
  ⟨(tileBox tile).top, (tileBox tile).bottom, (tileBox tile).left, (core frame tile).left - 1⟩

def rightBand (frame : XvFrame) (tile : XvTile) : Box :=
  ⟨(tileBox tile).top, (tileBox tile).bottom, (core frame tile).right + 1, (tileBox tile).right⟩

-- Rows of the tile in the columns of the core.
def coreColumns (frame : XvFrame) (tile : XvTile) (top bottom : Int) : Box :=
  ⟨top, bottom, (core frame tile).left, (core frame tile).right⟩

-- The columns of the tile up to the right end of the core.
def upToCore (frame : XvFrame) (tile : XvTile) : Box :=
  ⟨(tileBox tile).top, (tileBox tile).bottom, (tileBox tile).left, (core frame tile).right⟩

section Values

variable (frame : XvFrame) (tile : XvTile) (fits : TileFits frame tile) (filled : (core frame tile).Filled) (mem : Memory)

include fits

theorem copy_row_bytes_value : tile.copyRowBytes = ((tileBox tile).right - (tileBox tile).left + 1) * (tilePlane frame tile).unit := by
  obtain ⟨left, right, -, -⟩ := fits_edges frame tile fits
  rw [XvTile.copyRowBytes, left, right, fits.element]
  simp only [tileBox, tilePlane]
  ring

theorem copy_height_value : tile.copyHeight = (tileBox tile).bottom - (tileBox tile).top + 1 := by
  obtain ⟨-, -, top, bottom⟩ := fits_edges frame tile fits
  rw [XvTile.copyHeight, top, bottom]
  simp only [tileBox]
  ring

include filled

theorem core_bounds : ((tileBox tile).top ≤ (core frame tile).top ∧ (core frame tile).bottom ≤ (tileBox tile).bottom) ∧
    ((tileBox tile).left ≤ (core frame tile).left ∧ (core frame tile).right ≤ (tileBox tile).right) ∧
    ((core frame tile).top ≤ (core frame tile).bottom ∧ (core frame tile).left ≤ (core frame tile).right) ∧
    ((tileBox tile).bottom - (tileBox tile).top ≤ 32766 ∧ (tileBox tile).right - (tileBox tile).left ≤ 32766) := by
  obtain ⟨down, across⟩ := filled
  have short := box_short frame tile fits
  refine ⟨?_, ?_, ⟨down, across⟩, short⟩
  · simp only [core, Box.meet]
    omega
  · simp only [core, Box.meet]
    omega

theorem pad_top_value (outside : (core frame tile).top = (frameBox frame).top) : padTop frame tile mem =
    copyBufferEdgeDataH mem ((tilePlane frame tile).addr (core frame tile).top (topBand frame tile).left 0)
      ((tilePlane frame tile).addr (topBand frame tile).top (topBand frame tile).left 0) (tilePlane frame tile).unit
      ((topBand frame tile).bottom - (topBand frame tile).top + 1) (tilePlane frame tile).pitch frame.paddingType frame.paddingVal
      (((topBand frame tile).right - (topBand frame tile).left + 1) * (tilePlane frame tile).unit) := by
  obtain ⟨-, -, top, -⟩ := fits_edges frame tile fits
  obtain ⟨-, -, before, -⟩ := fits_pads frame tile fits
  have bounds := core_bounds frame tile fits filled
  have extra : i16 (-(frame.topEdgePadHeight : Int) - (tile.y - tile.tileEdgeTop)) = (core frame tile).top - (tileBox tile).top := by
    have same : -(frame.topEdgePadHeight : Int) - (tile.y - tile.tileEdgeTop) = (core frame tile).top - (tileBox tile).top := by
      rw [outside]
      rfl
    rw [same, i16_small _ (by omega) (by omega)]
  rw [padTop, before, top, extra, edge_ptr_value frame tile fits, copy_row_bytes_value frame tile fits, fits_unit frame tile fits]
  have source : (tilePlane frame tile).addr (tileBox tile).top (tileBox tile).left 0 +
      ((core frame tile).top - (tileBox tile).top) * tile.tilePitchBytes frame =
        (tilePlane frame tile).addr (core frame tile).top (topBand frame tile).left 0 := by
    rw [Plane.addr, Plane.addr]
    simp only [tilePlane, topBand]
    ring
  have height : (topBand frame tile).bottom - (topBand frame tile).top + 1 = (core frame tile).top - (tileBox tile).top := by
    simp only [topBand]
    ring
  rw [source, height]
  rfl

theorem pad_bottom_value (outside : (core frame tile).bottom = (frameBox frame).bottom) : padBottom frame tile mem =
    copyBufferEdgeDataH mem ((tilePlane frame tile).addr (core frame tile).bottom (bottomBand frame tile).left 0)
      ((tilePlane frame tile).addr (bottomBand frame tile).top (bottomBand frame tile).left 0) (tilePlane frame tile).unit
      ((bottomBand frame tile).bottom - (bottomBand frame tile).top + 1) (tilePlane frame tile).pitch frame.paddingType frame.paddingVal
      (((bottomBand frame tile).right - (bottomBand frame tile).left + 1) * (tilePlane frame tile).unit) := by
  obtain ⟨left, -, -, bottom⟩ := fits_edges frame tile fits
  obtain ⟨-, -, -, after⟩ := fits_pads frame tile fits
  have bounds := core_bounds frame tile fits filled
  have last : frame.frameHeight - 1 + (frame.bottomEdgePadHeight : Int) = (core frame tile).bottom := outside.symm
  have extra : i16 (tile.y + (tile.height - 1) + tile.tileEdgeBottom - (core frame tile).bottom) =
      (tileBox tile).bottom - (core frame tile).bottom := i16_small _ (by simp only [tileBox] at bounds ⊢; omega) (by
        simp only [tileBox] at bounds ⊢; omega)
  rw [padBottom, after, last, left, bottom, extra, copy_row_bytes_value frame tile fits, fits_unit frame tile fits]
  have start : tile.pData + ((core frame tile).bottom - tile.y + 1) * tile.tilePitchBytes frame -
      tile.tileEdgeLeft * (frame.pixelRes * frame.numChannels : Nat) =
        (tilePlane frame tile).addr (bottomBand frame tile).top (bottomBand frame tile).left 0 := by
    rw [Plane.addr]
    simp only [tilePlane, bottomBand, tileBox]
    ring
  have source : (tilePlane frame tile).addr (bottomBand frame tile).top (bottomBand frame tile).left 0 - tile.tilePitchBytes frame =
      (tilePlane frame tile).addr (core frame tile).bottom (bottomBand frame tile).left 0 := by
    rw [Plane.addr, Plane.addr]
    simp only [tilePlane, bottomBand]
    ring
  have height : (bottomBand frame tile).bottom - (bottomBand frame tile).top + 1 = (tileBox tile).bottom - (core frame tile).bottom := by
    simp only [bottomBand]
    ring
  rw [start, source, height]
  rfl

theorem pad_left_value (outside : (core frame tile).left = (frameBox frame).left) : padLeft frame tile mem =
    copyBufferEdgeDataV mem ((tilePlane frame tile).addr (leftBand frame tile).top (core frame tile).left 0)
      ((tilePlane frame tile).addr (leftBand frame tile).top (leftBand frame tile).left 0) (tilePlane frame tile).unit
      ((leftBand frame tile).bottom - (leftBand frame tile).top + 1) (tilePlane frame tile).pitch frame.paddingType frame.paddingVal
      ((leftBand frame tile).right - (leftBand frame tile).left + 1) := by
  obtain ⟨left, -, -, -⟩ := fits_edges frame tile fits
  obtain ⟨before, -, -, -⟩ := fits_pads frame tile fits
  have bounds := core_bounds frame tile fits filled
  have extra : i16 (-(frame.leftEdgePadWidth : Int) - (tile.x - tile.tileEdgeLeft)) = (core frame tile).left - (tileBox tile).left := by
    have same : -(frame.leftEdgePadWidth : Int) - (tile.x - tile.tileEdgeLeft) = (core frame tile).left - (tileBox tile).left := by
      rw [outside]
      rfl
    rw [same, i16_small _ (by omega) (by omega)]
  rw [padLeft, before, left, extra, edge_ptr_value frame tile fits, copy_height_value frame tile fits, fits_unit frame tile fits]
  have source : (tilePlane frame tile).addr (tileBox tile).top (tileBox tile).left 0 +
      ((core frame tile).left - (tileBox tile).left) * (frame.pixelRes * frame.numChannels : Nat) =
        (tilePlane frame tile).addr (leftBand frame tile).top (core frame tile).left 0 := by
    rw [Plane.addr, Plane.addr]
    simp only [tilePlane, leftBand]
    ring
  have width : (leftBand frame tile).right - (leftBand frame tile).left + 1 = (core frame tile).left - (tileBox tile).left := by
    simp only [leftBand]
    ring
  rw [source, width]
  rfl

theorem pad_right_value (outside : (core frame tile).right = (frameBox frame).right) : padRight frame tile mem =
    copyBufferEdgeDataV mem ((tilePlane frame tile).addr (rightBand frame tile).top (core frame tile).right 0)
      ((tilePlane frame tile).addr (rightBand frame tile).top (rightBand frame tile).left 0) (tilePlane frame tile).unit
      ((rightBand frame tile).bottom - (rightBand frame tile).top + 1) (tilePlane frame tile).pitch frame.paddingType frame.paddingVal
      ((rightBand frame tile).right - (rightBand frame tile).left + 1) := by
  obtain ⟨-, right, top, -⟩ := fits_edges frame tile fits
  obtain ⟨-, after, -, -⟩ := fits_pads frame tile fits
  have bounds := core_bounds frame tile fits filled
  have last : frame.frameWidth - 1 + (frame.rightEdgePadWidth : Int) = (core frame tile).right := outside.symm
  have extra : i16 (tile.x + (tile.width - 1) + tile.tileEdgeRight - (core frame tile).right) =
      (tileBox tile).right - (core frame tile).right := i16_small _ (by simp only [tileBox] at bounds ⊢; omega) (by
        simp only [tileBox] at bounds ⊢; omega)
  rw [padRight, after, last, right, top, extra, copy_height_value frame tile fits, fits_unit frame tile fits]
  have start : tile.pData - tile.tileEdgeTop * tile.tilePitchBytes frame +
      ((core frame tile).right - tile.x + 1) * (frame.pixelRes * frame.numChannels : Nat) =
        (tilePlane frame tile).addr (rightBand frame tile).top (rightBand frame tile).left 0 := by
    rw [Plane.addr]
    simp only [tilePlane, rightBand, tileBox]
    ring
  have source : (tilePlane frame tile).addr (rightBand frame tile).top (rightBand frame tile).left 0 -
      (frame.pixelRes * frame.numChannels : Nat) = (tilePlane frame tile).addr (rightBand frame tile).top (core frame tile).right 0 := by
    rw [Plane.addr, Plane.addr]
    simp only [tilePlane, rightBand]
    ring
  have width : (rightBand frame tile).right - (rightBand frame tile).left + 1 = (tileBox tile).right - (core frame tile).right := by
    simp only [rightBand]
    ring
  rw [start, source, width]
  rfl

end Values

-- The bytes of a tile around its core.
def Halo (frame : XvFrame) (tile : XvTile) (addr : Int) : Prop :=
  (tilePlane frame tile).Covers (tileBox tile) addr ∧ ¬ (tilePlane frame tile).Covers (core frame tile) addr

section Steps

variable (dram : Dram) (frame : XvFrame) (tile : XvTile) (checked : Checked dram frame tile) (filled : (core frame tile).Filled)
  (origin mem : Memory)

include checked filled

theorem band_halo (band : Box) (inside : ∀ y x, band.Has y x → (tileBox tile).Has y x ∧ ¬ (core frame tile).Has y x) (addr : Int)
    (covered : (tilePlane frame tile).Covers band addr) : Halo frame tile addr := by
  have wide := checked_wide dram frame tile checked
  obtain ⟨-, ⟨left, right⟩, -⟩ := core_bounds frame tile checked.fits filled
  obtain ⟨y, x, byte, has, inPixel, rfl⟩ := covered
  obtain ⟨inTile, apart⟩ := inside y x has
  exact ⟨⟨y, x, byte, inTile, inPixel, rfl⟩,
    mt (covers_iff _ _ _ wide (core frame tile) ⟨left, right⟩ y x byte inTile.2.1 inTile.2.2 inPixel.1 inPixel.2).mp apart⟩

-- A step of the padding, done where the tile sticks out.
structure PadStep (now : Memory) (area : Box) : Prop where
  shown : Shows now (tilePlane frame tile) area.Has (padded frame origin)
  kept : ∀ addr, ¬ Halo frame tile addr → now addr = mem addr

theorem pad_rows_step (now : Memory) (area next band : Box) (row : Int) (before : PadStep frame tile origin mem now area)
    (areaColumns : (tileBox tile).left ≤ area.left ∧ area.right ≤ (tileBox tile).right)
    (bandColumns : band.left = (tileBox tile).left ∧ band.right = (tileBox tile).right)
    (around : ∀ y x, band.Has y x → (tileBox tile).Has y x ∧ ¬ (frameBox frame).Has y x)
    (apart : ¬ (band.top ≤ row ∧ row ≤ band.bottom))
    (held : ∀ x, (core frame tile).left ≤ x → x ≤ (core frame tile).right → area.Has row x)
    (nearest : ∀ y, band.top ≤ y → y ≤ band.bottom →
      clampTo (frameBox frame).top (frameBox frame).bottom y = clampTo (frameBox frame).top (frameBox frame).bottom row)
    (reached : ∀ y x, next.Has y x → area.Has y x ∧ ¬ band.Has y x ∨
      band.Has y x ∧ (core frame tile).left ≤ x ∧ x ≤ (core frame tile).right) :
    PadStep frame tile origin mem (copyBufferEdgeDataH now ((tilePlane frame tile).addr row band.left 0)
      ((tilePlane frame tile).addr band.top band.left 0) (tilePlane frame tile).unit (band.bottom - band.top + 1)
      (tilePlane frame tile).pitch frame.paddingType frame.paddingVal ((band.right - band.left + 1) * (tilePlane frame tile).unit)) next := by
  have wide := checked_wide dram frame tile checked
  constructor
  · have painted := shows_edge_rows now (tilePlane frame tile) band (tileBox tile).left (tileBox tile).right wide
      ⟨by omega, by omega⟩ frame.paddingType frame.paddingVal area.Has (padded frame origin) before.shown
      (fun y x has => ⟨areaColumns.1.trans has.2.1, has.2.2.trans areaColumns.2⟩)
      (fun constant y x byte has => padded_constant frame origin y x byte (around y x has).2 constant) row
      (fun x => (core frame tile).left ≤ x ∧ x ≤ (core frame tile).right) apart (fun x inside => held x inside.1 inside.2)
      (fun edge y x byte has => padded_same frame origin y x byte edge row x (nearest y has.1.1 has.1.2) rfl)
    exact shows_mono _ _ _ _ _ painted reached
  · intro addr outside
    rw [← before.kept addr outside]
    have uncovered : ¬ (tilePlane frame tile).Covers band addr := fun covered =>
      outside (band_halo dram frame tile checked filled band
        (fun y x has => ⟨(around y x has).1, fun inCore => (around y x has).2 ((has_meet _ _ y x).mp inCore).2⟩) addr covered)
    rw [copyBufferEdgeDataH]
    split
    · exact paint_outside now (tilePlane frame tile) band _ wide.unit addr uncovered
    · exact paint_outside now (tilePlane frame tile) band _ wide.unit addr uncovered

theorem pad_columns_step (now : Memory) (area next band : Box) (column : Int) (before : PadStep frame tile origin mem now area)
    (areaColumns : (tileBox tile).left ≤ area.left ∧ area.right ≤ (tileBox tile).right)
    (bandColumns : (tileBox tile).left ≤ band.left ∧ band.right ≤ (tileBox tile).right)
    (around : ∀ y x, band.Has y x → (tileBox tile).Has y x ∧ ¬ (frameBox frame).Has y x)
    (apart : ¬ (band.left ≤ column ∧ column ≤ band.right)) (held : ∀ y, band.top ≤ y → y ≤ band.bottom → area.Has y column)
    (nearest : ∀ x, band.left ≤ x → x ≤ band.right →
      clampTo (frameBox frame).left (frameBox frame).right x = clampTo (frameBox frame).left (frameBox frame).right column)
    (reached : ∀ y x, next.Has y x → area.Has y x ∨ band.Has y x) :
    PadStep frame tile origin mem (copyBufferEdgeDataV now ((tilePlane frame tile).addr band.top column 0)
      ((tilePlane frame tile).addr band.top band.left 0) (tilePlane frame tile).unit (band.bottom - band.top + 1)
      (tilePlane frame tile).pitch frame.paddingType frame.paddingVal (band.right - band.left + 1)) next := by
  have wide := checked_wide dram frame tile checked
  constructor
  · have painted := shows_edge_columns now (tilePlane frame tile) band (tileBox tile).left (tileBox tile).right wide bandColumns
      frame.paddingType frame.paddingVal area.Has (padded frame origin) before.shown
      (fun y x has => ⟨areaColumns.1.trans has.2.1, has.2.2.trans areaColumns.2⟩)
      (fun constant y x byte has => padded_constant frame origin y x byte (around y x has).2 constant) column apart held
      (fun edge y x byte has => padded_same frame origin y x byte edge y column rfl (nearest x has.2.1 has.2.2))
    exact shows_mono _ _ _ _ _ painted reached
  · intro addr outside
    rw [← before.kept addr outside]
    have uncovered : ¬ (tilePlane frame tile).Covers band addr := fun covered =>
      outside (band_halo dram frame tile checked filled band
        (fun y x has => ⟨(around y x has).1, fun inCore => (around y x has).2 ((has_meet _ _ y x).mp inCore).2⟩) addr covered)
    rw [copyBufferEdgeDataV]
    split
    · exact paint_outside now (tilePlane frame tile) band _ wide.unit addr uncovered
    · exact paint_outside now (tilePlane frame tile) band _ wide.unit addr uncovered

theorem pad_top_step (now : Memory) (before : PadStep frame tile origin mem now (core frame tile)) :
    PadStep frame tile origin mem (if (tileBox tile).top < (frameBox frame).top then padTop frame tile now else now)
      (coreColumns frame tile (tileBox tile).top (core frame tile).bottom) := by
  have bounds := core_bounds frame tile checked.fits filled
  have meets : (core frame tile).top = max (tileBox tile).top (frameBox frame).top ∧
      (core frame tile).bottom = min (tileBox tile).bottom (frameBox frame).bottom := ⟨rfl, rfl⟩
  split
  case isTrue outside =>
    rw [pad_top_value frame tile checked.fits filled now (by omega)]
    refine pad_rows_step dram frame tile checked filled origin mem now _ _ (topBand frame tile) (core frame tile).top before
      bounds.2.1 ⟨rfl, rfl⟩ ?_ ?_ ?_ ?_ ?_
    · intro y x has
      simp only [Box.Has, topBand] at has ⊢
      omega
    · simp only [topBand]
      omega
    · intro x from_ upTo
      exact ⟨⟨Int.le_refl _, bounds.2.2.1.1⟩, from_, upTo⟩
    · intro y from_ upTo
      simp only [topBand] at from_ upTo
      simp only [clampTo]
      omega
    · intro y x has
      simp only [Box.Has, coreColumns, topBand] at has ⊢
      omega
  case isFalse inside =>
    refine ⟨shows_mono _ _ _ _ _ before.shown ?_, before.kept⟩
    intro y x has
    simp only [Box.Has, coreColumns] at has ⊢
    omega

theorem pad_bottom_step (now : Memory)
    (before : PadStep frame tile origin mem now (coreColumns frame tile (tileBox tile).top (core frame tile).bottom)) :
    PadStep frame tile origin mem (if (tileBox tile).bottom > (frameBox frame).bottom then padBottom frame tile now else now)
      (coreColumns frame tile (tileBox tile).top (tileBox tile).bottom) := by
  have bounds := core_bounds frame tile checked.fits filled
  have meets : (core frame tile).top = max (tileBox tile).top (frameBox frame).top ∧
      (core frame tile).bottom = min (tileBox tile).bottom (frameBox frame).bottom := ⟨rfl, rfl⟩
  split
  case isTrue outside =>
    rw [pad_bottom_value frame tile checked.fits filled now (by omega)]
    refine pad_rows_step dram frame tile checked filled origin mem now _ _ (bottomBand frame tile) (core frame tile).bottom before
      bounds.2.1 ⟨rfl, rfl⟩ ?_ ?_ ?_ ?_ ?_
    · intro y x has
      simp only [Box.Has, bottomBand] at has ⊢
      omega
    · simp only [bottomBand]
      omega
    · intro x from_ upTo
      exact ⟨⟨by simp only [coreColumns]; omega, Int.le_refl _⟩, from_, upTo⟩
    · intro y from_ upTo
      simp only [bottomBand] at from_ upTo
      simp only [clampTo]
      omega
    · intro y x has
      simp only [Box.Has, coreColumns, bottomBand] at has ⊢
      omega
  case isFalse inside =>
    refine ⟨shows_mono _ _ _ _ _ before.shown ?_, before.kept⟩
    intro y x has
    simp only [Box.Has, coreColumns] at has ⊢
    omega

theorem pad_left_step (now : Memory)
    (before : PadStep frame tile origin mem now (coreColumns frame tile (tileBox tile).top (tileBox tile).bottom)) :
    PadStep frame tile origin mem (if (tileBox tile).left < (frameBox frame).left then padLeft frame tile now else now)
      (upToCore frame tile) := by
  have bounds := core_bounds frame tile checked.fits filled
  have meets : (core frame tile).left = max (tileBox tile).left (frameBox frame).left ∧
      (core frame tile).right = min (tileBox tile).right (frameBox frame).right := ⟨rfl, rfl⟩
  split
  case isTrue outside =>
    rw [pad_left_value frame tile checked.fits filled now (by omega)]
    refine pad_columns_step dram frame tile checked filled origin mem now _ _ (leftBand frame tile) (core frame tile).left before
      bounds.2.1 ?_ ?_ ?_ ?_ ?_ ?_
    · simp only [leftBand]
      omega
    · intro y x has
      simp only [Box.Has, leftBand] at has ⊢
      omega
    · simp only [leftBand]
      omega
    · intro y from_ upTo
      exact ⟨⟨from_, upTo⟩, Int.le_refl _, bounds.2.2.1.2⟩
    · intro x from_ upTo
      simp only [leftBand] at from_ upTo
      simp only [clampTo]
      omega
    · intro y x has
      simp only [Box.Has, coreColumns, leftBand, upToCore] at has ⊢
      omega
  case isFalse inside =>
    refine ⟨shows_mono _ _ _ _ _ before.shown ?_, before.kept⟩
    intro y x has
    simp only [Box.Has, coreColumns, upToCore] at has ⊢
    omega

theorem pad_right_step (now : Memory) (before : PadStep frame tile origin mem now (upToCore frame tile)) :
    PadStep frame tile origin mem (if (tileBox tile).right > (frameBox frame).right then padRight frame tile now else now)
      (tileBox tile) := by
  have bounds := core_bounds frame tile checked.fits filled
  have meets : (core frame tile).left = max (tileBox tile).left (frameBox frame).left ∧
      (core frame tile).right = min (tileBox tile).right (frameBox frame).right := ⟨rfl, rfl⟩
  split
  case isTrue outside =>
    rw [pad_right_value frame tile checked.fits filled now (by omega)]
    refine pad_columns_step dram frame tile checked filled origin mem now _ _ (rightBand frame tile) (core frame tile).right before
      ⟨Int.le_refl _, bounds.2.1.2⟩ ?_ ?_ ?_ ?_ ?_ ?_
    · simp only [rightBand]
      omega
    · intro y x has
      simp only [Box.Has, rightBand] at has ⊢
      omega
    · simp only [rightBand]
      omega
    · intro y from_ upTo
      exact ⟨⟨from_, upTo⟩, by simp only [upToCore]; omega, Int.le_refl _⟩
    · intro x from_ upTo
      simp only [rightBand] at from_ upTo
      simp only [clampTo]
      omega
    · intro y x has
      simp only [Box.Has, rightBand, upToCore] at has ⊢
      omega
  case isFalse inside =>
    refine ⟨shows_mono _ _ _ _ _ before.shown ?_, before.kept⟩
    intro y x has
    simp only [Box.Has, upToCore] at has ⊢
    omega

end Steps

-- The flags of the four edges can be told apart.
theorem flags_told (top bottom left right : Bool) :
    let flags := flagIf statusTopEdgePaddingNeeded top ||| flagIf statusBottomEdgePaddingNeeded bottom |||
      flagIf statusLeftEdgePaddingNeeded left ||| flagIf statusRightEdgePaddingNeeded right
    hasFlag flags statusTopEdgePaddingNeeded = top ∧ hasFlag flags statusBottomEdgePaddingNeeded = bottom ∧
      hasFlag flags statusLeftEdgePaddingNeeded = left ∧ hasFlag flags statusRightEdgePaddingNeeded = right ∧
      hasFlag flags statusEdgePaddingNeeded = (top || bottom || left || right) ∧ flags &&& ~~~statusEdgePaddingNeeded = 0 ∧
      (flags ||| statusDmaOngoing) &&& ~~~statusDmaOngoing = flags ∧
      hasFlag (flags ||| statusDmaOngoing) statusDummyIdmaIndexNeeded = false ∧ flags ||| statusDmaOngoing ≠ 0 ∧
      hasFlag (flags ||| statusDummyIdmaIndexNeeded ||| statusDmaOngoing) statusDummyIdmaIndexNeeded = true ∧
      flags ||| statusDummyIdmaIndexNeeded ||| statusDmaOngoing ≠ 0 := by
  revert top bottom left right
  decide

section Finish

variable (dram : Dram) (frame : XvFrame) (tile : XvTile) (checked : Checked dram frame tile) (origin mem : Memory)

theorem fits_flags (fits : TileFits frame tile) : paddingFlags (clipRows frame tile) (clipColumns frame tile) =
    flagIf statusTopEdgePaddingNeeded (decide ((tileBox tile).top < (frameBox frame).top)) |||
      flagIf statusBottomEdgePaddingNeeded (decide ((tileBox tile).bottom > (frameBox frame).bottom)) |||
      flagIf statusLeftEdgePaddingNeeded (decide ((tileBox tile).left < (frameBox frame).left)) |||
      flagIf statusRightEdgePaddingNeeded (decide ((tileBox tile).right > (frameBox frame).right)) := by
  have sizes := frame_sizes frame tile fits
  have rows := clip_pads (tileBox tile).top (tileBox tile).bottom _ _ _ sizes.1
  have columns := clip_pads (tileBox tile).left (tileBox tile).right _ _ _ sizes.2
  rw [paddingFlags, clip_rows_value frame tile fits, clip_columns_value frame tile fits, rows.1, rows.2, columns.1, columns.2]
  rfl

include checked

-- The edges of a tile that holds its core are filled.
theorem pad_edges_shown (filled : (core frame tile).Filled)
    (shown : Shows mem (tilePlane frame tile) (core frame tile).Has (frameView frame origin)) :
    let status := paddingFlags (clipRows frame tile) (clipColumns frame tile)
    PadStep frame tile origin mem
      (if hasFlag status statusEdgePaddingNeeded then padEdges frame { tile with status := status } mem else mem) (tileBox tile) := by
  intro status
  have started : PadStep frame tile origin mem mem (core frame tile) := by
    refine ⟨fun y x byte has low high => ?_, fun _ _ => rfl⟩
    rw [padded_inside frame origin y x byte ((has_meet _ _ y x).mp has).2]
    exact shown y x byte has low high
  obtain ⟨top, bottom, left, right, any, -⟩ := flags_told (decide ((tileBox tile).top < (frameBox frame).top))
    (decide ((tileBox tile).bottom > (frameBox frame).bottom)) (decide ((tileBox tile).left < (frameBox frame).left))
    (decide ((tileBox tile).right > (frameBox frame).right))
  have flags : status = _ := fits_flags frame tile checked.fits
  rw [← flags] at top bottom left right any
  have whole : (if hasFlag status statusEdgePaddingNeeded then padEdges frame { tile with status := status } mem else mem) =
      padEdges frame { tile with status := status } mem := by
    split
    · rfl
    case isFalse none_ =>
      simp only [any, Bool.or_eq_true, not_or, Bool.not_eq_true] at none_
      obtain ⟨⟨⟨noTop, noBottom⟩, noLeft⟩, noRight⟩ := none_
      simp only [padEdges, top, bottom, left, right, noTop, noBottom, noLeft, noRight, Bool.false_eq_true, if_false]
  rw [whole]
  have steps := pad_right_step dram frame tile checked filled origin mem _
    (pad_left_step dram frame tile checked filled origin mem _
      (pad_bottom_step dram frame tile checked filled origin mem _ (pad_top_step dram frame tile checked filled origin mem mem started)))
  simp only [padEdges, top, bottom, left, right, decide_eq_true_eq]
  exact steps

omit checked in
theorem fill_tile_value (fits : TileFits frame tile) (constant : frame.paddingType ≠ frameEdgePadding) : fillTile frame tile mem =
    paint mem (tilePlane frame tile) (tileBox tile)
      (fun _ _ place => padByte (tilePlane frame tile).unit frame.paddingType frame.paddingVal place) := by
  obtain ⟨-, -, top, bottom⟩ := fits_edges frame tile fits
  have height : (tile.height : Int) + tile.tileEdgeTop + tile.tileEdgeBottom = (tileBox tile).bottom - (tileBox tile).top + 1 := by
    simp only [tileBox]
    ring
  rw [fillTile, if_pos constant, copyBufferEdgeDataH, if_neg constant, top, bottom, height, edge_ptr_value frame tile fits,
    copy_row_bytes_value frame tile fits, fits_unit frame tile fits]
  rfl

-- A tile beside the frame is filled with the padding value.
theorem fill_tile_shown (empty : ¬ (core frame tile).Filled) (constant : frame.paddingType ≠ frameEdgePadding) :
    Shows (fillTile frame tile mem) (tilePlane frame tile) (tileBox tile).Has (padded frame origin) := by
  have wide := checked_wide dram frame tile checked
  rw [fill_tile_value frame tile mem checked.fits constant]
  have painted := shows_paint mem (tilePlane frame tile) (tileBox tile)
    (fun _ _ place => padByte (tilePlane frame tile).unit frame.paddingType frame.paddingVal place) _ _ wide
    ⟨Int.le_refl _, Int.le_refl _⟩ (fun _ _ => False) (padded frame origin) (fun _ _ _ none_ => none_.elim) (fun _ _ none_ => none_.elim)
    fun now same y x byte has low high => by
      have outside : ¬ (frameBox frame).Has y x := fun inside => empty (has_filled _ y x ((has_meet _ _ y x).mpr ⟨has, inside⟩))
      rw [pad_byte_pixel, padded_constant frame origin y x byte outside constant]
      rfl
  exact shows_mono _ _ _ _ _ painted fun y x has => .inr has

theorem fill_tile_outside (addr : Int) (outside : ¬ (tilePlane frame tile).Covers (tileBox tile) addr) :
    fillTile frame tile mem addr = mem addr := by
  by_cases constant : frame.paddingType ≠ frameEdgePadding
  · rw [fill_tile_value frame tile mem checked.fits constant]
    exact paint_outside mem _ _ _ (checked_wide dram frame tile checked).unit addr outside
  · rw [fillTile, if_neg constant]

end Finish

end CsiDsp.Tiles
