import CsiDsp.TileTransfer

set_option autoImplicit false

-- What a transfer should show: the pixels of the frame around the tile, and the
-- padding where there is no frame.
namespace CsiDsp.Tiles

open CInt Raster

def framePlane (frame : XvFrame) : Plane where
  origin := frame.pFrameData
  pitch := frame.framePitch * frame.pixelRes
  unit := (frame.pixelRes * frame.numChannels : Nat)

-- The tile in the coordinates of its frame.
def tilePlane (frame : XvFrame) (tile : XvTile) : Plane where
  origin := tile.pData - tile.y * tile.tilePitchBytes frame - tile.x * (frame.pixelRes * frame.numChannels : Nat)
  pitch := tile.tilePitchBytes frame
  unit := (frame.pixelRes * frame.numChannels : Nat)

-- The frame with the border it has of its own.
def frameBox (frame : XvFrame) : Box where
  top := -frame.topEdgePadHeight
  bottom := frame.frameHeight - 1 + frame.bottomEdgePadHeight
  left := -frame.leftEdgePadWidth
  right := frame.frameWidth - 1 + frame.rightEdgePadWidth

def tileBox (tile : XvTile) : Box where
  top := tile.y - tile.tileEdgeTop
  bottom := tile.y + (tile.height - 1) + tile.tileEdgeBottom
  left := tile.x - tile.tileEdgeLeft
  right := tile.x + (tile.width - 1) + tile.tileEdgeRight

def core (frame : XvFrame) (tile : XvTile) : Box := (tileBox tile).meet (frameBox frame)

def clampTo (low high place : Int) : Int := max low (min high place)

def frameView (frame : XvFrame) (mem : Memory) (y x byte : Int) : UInt8 := mem ((framePlane frame).addr y x byte)

-- The frame continued without end.
def padded (frame : XvFrame) (mem : Memory) (y x byte : Int) : UInt8 :=
  if (frameBox frame).Has y x then frameView frame mem y x byte
  else if frame.paddingType = frameEdgePadding then
    frameView frame mem (clampTo (frameBox frame).top (frameBox frame).bottom y) (clampTo (frameBox frame).left (frameBox frame).right x) byte
  else padByte (frame.pixelRes * frame.numChannels : Nat) frame.paddingType frame.paddingVal byte

-- The sizes at which the narrow locals of the C code hold what is put into them,
-- and the frames of which every pixel is within 2 GiB of the first.
structure TileFits (frame : XvFrame) (tile : XvTile) : Prop where
  padLeft : frame.leftEdgePadWidth ≤ 127
  padRight : frame.rightEdgePadWidth ≤ 127
  padTop : frame.topEdgePadHeight ≤ 127
  padBottom : frame.bottomEdgePadHeight ≤ 127
  frameWidth : 0 ≤ frame.frameWidth
  frameHeight : 0 ≤ frame.frameHeight
  frameRight : frame.frameWidth + frame.rightEdgePadWidth ≤ 2147483647
  frameBottom : frame.frameHeight + frame.bottomEdgePadHeight ≤ 2147483647
  unit : 0 < frame.pixelRes * frame.numChannels
  narrow : frame.pixelRes * frame.numChannels ≤ 127
  width : 0 < tile.width
  height : 0 < tile.height
  rows : tile.tileEdgeTop + tile.height + tile.tileEdgeBottom ≤ 32767
  columns : tile.tileEdgeLeft + tile.width + tile.tileEdgeRight ≤ 32767
  buffer : tile.bufferSize ≤ 2147483647
  element : typeElementSize tile.type = frame.pixelRes * frame.numChannels
  pitch : 0 ≤ frame.framePitch ∧ frame.framePitch * frame.pixelRes ≤ 2147483647
  firstPixel : -2147483648 ≤ (frameBox frame).top * (framePlane frame).pitch + (frameBox frame).left * (framePlane frame).unit
  lastPixel : (frameBox frame).bottom * (framePlane frame).pitch + (frameBox frame).right * (framePlane frame).unit ≤ 2147483647

theorem i8_small (value : Nat) (small : value ≤ 127) : i8 (value : Int) = value :=
  wrap_s_fits 8 value (by omega) (by simp only [Nat.reducePow]; omega)

theorem i16_small (value : Int) (low : 0 ≤ value) (small : value ≤ 32767) : i16 value = value :=
  wrap_s_fits 16 value (by omega) (by simp only [Nat.reducePow]; omega)

theorem u32_small (value : Int) (low : 0 ≤ value) (small : value < 4294967296) : u32 value = value.toNat := by
  obtain ⟨size, rfl⟩ := Int.eq_ofNat_of_zero_le low
  exact u32_fits size (by omega)

section Clip

variable (low high size before after : Int) (order : low ≤ high) (nonneg : 0 ≤ size ∧ 0 ≤ before ∧ 0 ≤ after)

include order nonneg

omit order in
theorem clip_pads : (clip low high size before after).padLow = decide (low < -before) ∧
    (clip low high size before after).padHigh = decide (high > size - 1 + after) := by
  simp only [clip, decide_eq_decide]
  constructor <;> split <;> omega

theorem clip_empty : 0 < (clip low high size before after).high - (clip low high size before after).low + 1 ↔
    max low (-before) ≤ min high (size - 1 + after) := by
  simp only [clip]
  split <;> split <;> split <;> split <;> omega

theorem clip_meets (meets : max low (-before) ≤ min high (size - 1 + after)) (short : high - low ≤ 32767) :
    (clip low high size before after).low = max low (-before) ∧ (clip low high size before after).high = min high (size - 1 + after) ∧
      (clip low high size before after).extra = max low (-before) - low := by
  have start : ¬ low > size + after := by omega
  have stop : ¬ high < -before := by omega
  simp only [clip, if_neg start, if_neg stop]
  refine ⟨?_, ?_, ?_⟩
  · split <;> omega
  · split <;> omega
  · by_cases outside : low < -before
    · rw [if_pos outside, i16_small _ (by omega) (by omega)]
      omega
    · rw [if_neg outside]
      omega

end Clip

section Fits

variable (frame : XvFrame) (tile : XvTile) (fits : TileFits frame tile)

include fits

theorem fits_unit : frame.pixWidth = (frame.pixelRes * frame.numChannels : Nat) := i8_small _ fits.narrow

theorem fits_unit_unsigned : (u8 (frame.pixelRes * frame.numChannels : Nat) : Int) = (frame.pixelRes * frame.numChannels : Nat) := by
  have small := fits.narrow
  rw [u8, wrap_u_fits 8 _ (by omega)]

theorem fits_pitch : frame.framePitchBytes = (framePlane frame).pitch := by
  obtain ⟨low, high⟩ := fits.pitch
  have positive := mul_nonneg low (Int.natCast_nonneg frame.pixelRes)
  exact wrap_s_fits 32 _ (by simp only [Nat.reducePow]; omega) (by simp only [Nat.reducePow]; omega)

-- The offset grows along both directions of the frame.
theorem fits_offset (y x : Int) (inside : (frameBox frame).Has y x) :
    frame.pFrameData + frame.offset (framePlane frame).unit y x = (framePlane frame).addr y x 0 := by
  obtain ⟨⟨top, bottom⟩, left, right⟩ := inside
  have pitch : 0 ≤ (framePlane frame).pitch := mul_nonneg fits.pitch.1 (Int.natCast_nonneg _)
  have unit : 0 ≤ (framePlane frame).unit := Int.natCast_nonneg _
  have first := fits.firstPixel
  have last := fits.lastPixel
  have rowsLow := mul_le_mul_of_nonneg_right top pitch
  have rowsHigh := mul_le_mul_of_nonneg_right bottom pitch
  have columnsLow := mul_le_mul_of_nonneg_right left unit
  have columnsHigh := mul_le_mul_of_nonneg_right right unit
  have exact_ : i32 (y * (framePlane frame).pitch + x * (framePlane frame).unit) =
      y * (framePlane frame).pitch + x * (framePlane frame).unit :=
    wrap_s_fits 32 _ (by simp only [Nat.reducePow]; omega) (by simp only [Nat.reducePow]; omega)
  rw [XvFrame.offset, fits_pitch frame tile fits, exact_, Plane.addr]
  simp only [framePlane]
  ring

theorem fits_pads : frame.framePadLeft = frame.leftEdgePadWidth ∧ frame.framePadRight = frame.rightEdgePadWidth ∧
    frame.framePadTop = frame.topEdgePadHeight ∧ frame.framePadBottom = frame.bottomEdgePadHeight :=
  ⟨i8_small _ fits.padLeft, i8_small _ fits.padRight, i8_small _ fits.padTop, i8_small _ fits.padBottom⟩

theorem fits_edges : i16 tile.tileEdgeLeft = tile.tileEdgeLeft ∧ i16 tile.tileEdgeRight = tile.tileEdgeRight ∧
    i16 tile.tileEdgeTop = tile.tileEdgeTop ∧ i16 tile.tileEdgeBottom = tile.tileEdgeBottom := by
  have rows := fits.rows
  have columns := fits.columns
  have width := fits.width
  exact ⟨i16_small _ (by omega) (by omega), i16_small _ (by omega) (by omega), i16_small _ (by omega) (by omega),
    i16_small _ (by omega) (by omega)⟩

theorem clip_rows_value : clipRows frame tile =
    clip (tileBox tile).top (tileBox tile).bottom frame.frameHeight frame.topEdgePadHeight frame.bottomEdgePadHeight := by
  obtain ⟨-, -, top, bottom⟩ := fits_edges frame tile fits
  obtain ⟨-, -, before, after⟩ := fits_pads frame tile fits
  rw [clipRows, top, bottom, before, after]
  rfl

theorem clip_columns_value : clipColumns frame tile =
    clip (tileBox tile).left (tileBox tile).right frame.frameWidth frame.leftEdgePadWidth frame.rightEdgePadWidth := by
  obtain ⟨left, right, -, -⟩ := fits_edges frame tile fits
  obtain ⟨before, after, -, -⟩ := fits_pads frame tile fits
  rw [clipColumns, left, right, before, after]
  rfl

theorem box_order : (tileBox tile).top ≤ (tileBox tile).bottom ∧ (tileBox tile).left ≤ (tileBox tile).right := by
  have width := fits.width
  have height := fits.height
  simp only [tileBox]
  omega

theorem box_short : (tileBox tile).bottom - (tileBox tile).top ≤ 32766 ∧ (tileBox tile).right - (tileBox tile).left ≤ 32766 := by
  have rows := fits.rows
  have columns := fits.columns
  simp only [tileBox]
  omega

theorem frame_sizes : (0 ≤ frame.frameHeight ∧ (0 : Int) ≤ frame.topEdgePadHeight ∧ (0 : Int) ≤ frame.bottomEdgePadHeight) ∧
    0 ≤ frame.frameWidth ∧ (0 : Int) ≤ frame.leftEdgePadWidth ∧ (0 : Int) ≤ frame.rightEdgePadWidth :=
  ⟨⟨fits.frameHeight, by omega, by omega⟩, fits.frameWidth, by omega, by omega⟩

-- There is something to copy where the tile meets the frame.
theorem sizes_positive : dmaHeight frame tile > 0 ∧ dmaWidthBytes frame tile > 0 ↔ (core frame tile).Filled := by
  have order := box_order frame tile fits
  have sizes := frame_sizes frame tile fits
  have unit : (0 : Int) < (frame.pixelRes * frame.numChannels : Nat) := by exact_mod_cast fits.unit
  have rows := clip_empty _ _ frame.frameHeight frame.topEdgePadHeight frame.bottomEdgePadHeight order.1 sizes.1
  have columns := clip_empty _ _ frame.frameWidth frame.leftEdgePadWidth frame.rightEdgePadWidth order.2 sizes.2
  rw [dmaHeight, dmaWidthBytes, clip_rows_value frame tile fits, clip_columns_value frame tile fits, fits_unit frame tile fits,
    gt_iff_lt, gt_iff_lt, mul_pos_iff_of_pos_right unit, rows, columns]
  rfl

theorem clip_core (filled : (core frame tile).Filled) :
    ((clipRows frame tile).low = (core frame tile).top ∧ (clipRows frame tile).high = (core frame tile).bottom ∧
      (clipRows frame tile).extra = (core frame tile).top - (tileBox tile).top) ∧
    (clipColumns frame tile).low = (core frame tile).left ∧ (clipColumns frame tile).high = (core frame tile).right ∧
      (clipColumns frame tile).extra = (core frame tile).left - (tileBox tile).left := by
  have order := box_order frame tile fits
  have short := box_short frame tile fits
  have sizes := frame_sizes frame tile fits
  rw [clip_rows_value frame tile fits, clip_columns_value frame tile fits]
  exact ⟨clip_meets _ _ _ _ _ order.1 sizes.1 filled.1 (by omega), clip_meets _ _ _ _ _ order.2 sizes.2 filled.2 (by omega)⟩

theorem edge_ptr_value : tile.edgePtr frame = (tilePlane frame tile).addr (tileBox tile).top (tileBox tile).left 0 := by
  obtain ⟨left, -, top, -⟩ := fits_edges frame tile fits
  rw [XvTile.edgePtr, left, top, fits_unit frame tile fits, Plane.addr]
  simp only [tilePlane, tileBox]
  ring

theorem dst_ptr_value (filled : (core frame tile).Filled) :
    tile.dstPtr frame = (tilePlane frame tile).addr (core frame tile).top (core frame tile).left 0 := by
  obtain ⟨⟨-, -, rows⟩, -, -, columns⟩ := clip_core frame tile fits filled
  rw [XvTile.dstPtr, edge_ptr_value frame tile fits, rows, columns, fits_unit frame tile fits, Plane.addr, Plane.addr]
  simp only [tilePlane]
  ring

end Fits

end CsiDsp.Tiles
