import CsiDsp.TilePadding
import CsiDsp.TileReuse

set_option autoImplicit false

-- What the copies of one request do to the memory.
namespace CsiDsp.Tiles

open CInt Raster

-- A piece of the core of a tile, out of the frame or out of the core of the
-- tile that is used again.
structure CorePiece (frame : XvFrame) (tile : XvTile) (prev : Option XvTile) (piece : Plane × Box) : Prop where
  filled : piece.2.Filled
  inCore : ∀ y x, piece.2.Has y x → (core frame tile).Has y x
  source : piece.1 = framePlane frame ∨
    ∃ before, prev = some before ∧ piece.1 = tilePlane frame before ∧ ∀ y x, piece.2.Has y x → (core frame before).Has y x

-- The copies of a request, piece by piece.
structure CoreCopies (frame : XvFrame) (tile : XvTile) (prev : Option XvTile) (transfers : List Transfer) : Prop where
  pieces : ∃ pieces, transfers = copies (tilePlane frame tile) pieces ∧ (∀ piece ∈ pieces, CorePiece frame tile prev piece) ∧
    ∀ y x, (core frame tile).Has y x → ∃ piece ∈ pieces, piece.2.Has y x

section Copies

variable (frame : XvFrame) (tile prev : XvTile) (fits : TileFits frame tile) (filled : (core frame tile).Filled)

include fits filled

theorem whole_copies (before : Option XvTile) : CoreCopies frame tile before [wholeTransfer frame tile] := by
  refine ⟨[(framePlane frame, core frame tile)], ?_, ?_, ?_⟩
  · rw [whole_between frame tile fits filled]
    rfl
  · intro piece listed
    rw [List.mem_singleton] at listed
    subst listed
    exact ⟨filled, fun _ _ has => has, .inl rfl⟩
  · intro y x has
    exact ⟨_, List.mem_singleton.mpr rfl, has⟩

theorem reuse_copies (prevFits : TileFits frame prev) (dependent : independent frame tile prev = false) :
    CoreCopies frame tile (some prev) (reuseTransfers frame tile prev) := by
  have overlaps := dependent_overlaps frame tile prev fits prevFits filled dependent
  refine ⟨_, reuse_between frame tile prev fits filled overlaps, ?_, ?_⟩
  · intro piece listed
    obtain ⟨inPiece, rows, columns, source⟩ := reuse_inside _ _ _ _ overlaps piece listed
    have inCore (y x : Int) (has : piece.2.Has y x) : (core frame tile).Has y x :=
      ⟨⟨rows.1.trans has.1.1, has.1.2.trans rows.2⟩, columns.1.trans has.2.1, has.2.2.trans columns.2⟩
    refine ⟨inPiece, inCore, source.imp_right fun ⟨same, held, across⟩ => ⟨prev, rfl, same, fun y x has => ?_⟩⟩
    refine (has_meet _ _ y x).mpr ⟨?_, ((has_meet _ _ y x).mp (inCore y x has)).2⟩
    simp only [XvTile.extent] at held across
    simp only [Box.Has, tileBox] at has ⊢
    omega
  · exact reuse_covered _ _ _ _ overlaps

end Copies

section Effects

variable (dram : Dram) (frame : XvFrame) (tile : XvTile) (prev : Option XvTile) (transfers : List Transfer)
  (asked : CoreCopies frame tile prev transfers)

include asked

theorem copies_some (filled : (core frame tile).Filled) : transfers ≠ [] := by
  obtain ⟨pieces, rfl, -, covered⟩ := asked.pieces
  obtain ⟨piece, listed, -⟩ := covered (core frame tile).top (core frame tile).left
    ⟨⟨Int.le_refl _, filled.1⟩, Int.le_refl _, filled.2⟩
  exact List.ne_nil_of_mem (List.mem_map_of_mem listed)

theorem copies_write (unit : 0 < (tilePlane frame tile).unit) (transfer : Transfer) (listed : transfer ∈ transfers) (addr : Int)
    (written : transfer.Writes addr) : (tilePlane frame tile).Covers (core frame tile) addr := by
  obtain ⟨pieces, rfl, good, -⟩ := asked.pieces
  obtain ⟨piece, inPieces, rfl⟩ := List.mem_map.mp listed
  obtain ⟨filled, inCore, -⟩ := good piece inPieces
  have across := filled.2
  obtain ⟨y, x, byte, has, inPixel, same⟩ := between_writes _ _ _ (by omega) unit addr written
  exact ⟨y, x, byte, inCore y x has, inPixel, same⟩

theorem copies_read (unit : 0 < (tilePlane frame tile).unit) (transfer : Transfer) (listed : transfer ∈ transfers) (addr : Int)
    (read : transfer.Reads addr) : (framePlane frame).Covers (frameBox frame) addr ∨
      ∃ before, prev = some before ∧ (tilePlane frame before).Covers (core frame before) addr := by
  obtain ⟨pieces, rfl, good, -⟩ := asked.pieces
  obtain ⟨piece, inPieces, rfl⟩ := List.mem_map.mp listed
  obtain ⟨filled, inCore, source⟩ := good piece inPieces
  have across := filled.2
  rcases source with fromFrame | ⟨before, given, same, inBefore⟩
  · rw [fromFrame] at read
    obtain ⟨y, x, byte, has, inPixel, place⟩ := between_reads (tilePlane frame tile) (framePlane frame) piece.2 (by omega) unit rfl addr read
    exact .inl ⟨y, x, byte, ((has_meet _ _ y x).mp (inCore y x has)).2, inPixel, place⟩
  · rw [same] at read
    obtain ⟨y, x, byte, has, inPixel, place⟩ :=
      between_reads (tilePlane frame tile) (tilePlane frame before) piece.2 (by omega) unit rfl addr read
    exact .inr ⟨before, given, y, x, byte, inBefore y x has, inPixel, place⟩

-- After the copies the core of the tile shows the frame.
theorem copies_show (checked : Checked dram frame tile) (origin mem : Memory)
    (frameShown : Shows mem (framePlane frame) (frameBox frame).Has (frameView frame origin))
    (frameApart : ∀ addr, (framePlane frame).Covers (frameBox frame) addr → ¬ InBuffer tile addr)
    (prevShown : ∀ before, prev = some before → Shows mem (tilePlane frame before) (core frame before).Has (frameView frame origin))
    (prevApart : ∀ before, prev = some before → ∀ addr, (tilePlane frame before).Covers (core frame before) addr → ¬ InBuffer tile addr) :
    Shows (performAll mem transfers) (tilePlane frame tile) (core frame tile).Has (frameView frame origin) := by
  have wide := checked_wide dram frame tile checked
  obtain ⟨pieces, rfl, good, covered⟩ := asked.pieces
  have shown := shows_pieces (tilePlane frame tile) (InBuffer tile) (frameView frame origin) _ _ wide pieces mem (fun _ _ => False)
    (fun _ _ _ none_ => none_.elim) (fun _ _ none_ => none_.elim) fun piece listed => ?_
  · exact shows_mono _ _ _ _ _ shown fun y x has => .inr (covered y x has)
  · obtain ⟨filled, inCore, source⟩ := good piece listed
    have inTile (y x : Int) (has : piece.2.Has y x) : (tileBox tile).Has y x := ((has_meet _ _ y x).mp (inCore y x has)).1
    have inFrame (y x : Int) (has : piece.2.Has y x) : (frameBox frame).Has y x := ((has_meet _ _ y x).mp (inCore y x has)).2
    have inside (addr : Int) (written : (tilePlane frame tile).Covers piece.2 addr) : InBuffer tile addr := by
      obtain ⟨y, x, byte, has, inPixel, same⟩ := written
      exact checked_buffer dram frame tile checked addr ⟨y, x, byte, inTile y x has, inPixel, same⟩
    have corner : piece.2.Has piece.2.top piece.2.left := ⟨⟨Int.le_refl _, filled.1⟩, Int.le_refl _, filled.2⟩
    have end_ : piece.2.Has piece.2.top piece.2.right := ⟨⟨Int.le_refl _, filled.1⟩, filled.2, Int.le_refl _⟩
    have bounds : (tileBox tile).left ≤ piece.2.left ∧ piece.2.right ≤ (tileBox tile).right :=
      ⟨(inTile _ _ corner).2.1, (inTile _ _ end_).2.2⟩
    rcases source with fromFrame | ⟨before, given, same, inBefore⟩
    · refine ⟨filled, bounds.1, bounds.2, by rw [fromFrame]; rfl, ?_, ?_, inside⟩
      · rw [fromFrame]
        exact shows_mono _ _ _ _ _ frameShown inFrame
      · rw [fromFrame]
        rintro addr ⟨y, x, byte, has, inPixel, place⟩
        exact frameApart addr ⟨y, x, byte, inFrame y x has, inPixel, place⟩
    · refine ⟨filled, bounds.1, bounds.2, by rw [same]; rfl, ?_, ?_, inside⟩
      · rw [same]
        exact shows_mono _ _ _ _ _ (prevShown before given) inBefore
      · rw [same]
        rintro addr ⟨y, x, byte, has, inPixel, place⟩
        exact prevApart before given addr ⟨y, x, byte, inBefore y x has, inPixel, place⟩

end Effects

end CsiDsp.Tiles
