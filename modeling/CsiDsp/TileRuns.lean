import CsiDsp.TileRequest

set_option autoImplicit false

namespace CsiDsp.Tiles

open CInt Raster Runs

structure TileInv (known : Nat → Prop) (base system : TileSystem) (held : Nat → Bool) : Prop where
  books : Books known base system (pendingOf system) held
  pictures : Pictures known base system (pendingOf system) held

-- Nothing is asked for.
structure Resting (known : Nat → Prop) (base : TileSystem) : Prop where
  tiles : ∀ pTile, known pTile → (base.tiles pTile).status = 0 ∧ (base.tiles pTile).pPrevTile = none ∧ (base.tiles pTile).reuseCount = 0
  channels : ∀ channel, (base.channels channel).tileDMApendingCount = 0 ∧ (base.channels channel).outstanding = []

theorem resting_inv (known : Nat → Prop) (base : TileSystem) (resting : Resting known base) :
    TileInv known base base fun _ => false := by
  have empty (channel : Nat) : pendingOf base channel = [] := by
    rw [pendingOf, TileChannel.pending, (resting.channels channel).1]
    rfl
  have none_ (channel pTile : Nat) : pTile ∉ pendingOf base channel := by
    rw [empty]
    exact List.not_mem_nil
  refine ⟨⟨rfl, rfl, fun _ => rfl, ?_, ?_, ?_, ?_, ?_, ?_, ?_, ?_, ?_⟩, ⟨fun _ _ => rfl, ?_, ?_⟩⟩
  · exact fun channel pTile waits => absurd waits (none_ channel pTile)
  · intro channel
    rw [empty]
    exact List.nodup_nil
  · exact fun channel _ pTile waits => absurd waits (none_ channel pTile)
  · intro pTile here _
    obtain ⟨ready, alone, -⟩ := resting.tiles pTile here
    exact ⟨ready, alone⟩
  · exact fun channel pTile waits => absurd waits (none_ channel pTile)
  · exact fun channel pTile waits => absurd waits (none_ channel pTile)
  · intro before here
    refine ⟨∅, (resting.tiles before here).2.2, fun pTile => ⟨fun reader => absurd reader (Finset.notMem_empty pTile), ?_⟩⟩
    rintro ⟨knownReader, linked⟩
    rw [(resting.tiles pTile knownReader).2.1] at linked
    cases linked
  · intro channel entry listed
    rw [(resting.channels channel).2] at listed
    exact absurd listed List.not_mem_nil
  · exact fun channel pTile waits => absurd waits (none_ channel pTile)
  · exact fun channel pTile waits => absurd waits (none_ channel pTile)
  · exact fun pTile _ wanted => absurd wanted Bool.false_ne_true

section Touch

variable (known : Nat → Prop) (base system : TileSystem) (held : Nat → Bool) (setting : Setting known base) (pTile : Nat)
  (here : known pTile) (ready : (system.tiles pTile).status = 0) (free : (system.tiles pTile).reuseCount = 0)

include setting here ready free

-- A tile that waits for nothing and is not used again may lose its picture.
theorem released_inv (inv : TileInv known base system held) : TileInv known base system (Function.update held pTile false) := by
  obtain ⟨books, pictures⟩ := inv
  have idle := ready_idle known base system _ held setting books pTile ready
  have unread := free_unread known base system _ held books pTile here free
  have kept (other : Nat) (unlike : other ≠ pTile) : Function.update held pTile false other = held other := Function.update_of_ne unlike ..
  refine ⟨{ books with asked := ?_, source := ?_ }, { pictures with full := ?_ }⟩
  · intro channel other waits
    have unlike : other ≠ pTile := by
      rintro rfl
      exact idle channel waits
    rw [kept other unlike]
    exact books.asked channel other waits
  · intro channel other waits before linked
    have lends := books.source channel other waits before linked
    have unlike : before ≠ pTile := by
      rintro rfl
      exact unread other (books.listed channel other waits) linked
    exact { lends with held := (kept before unlike).trans lends.held }
  · intro other knownOther wanted absent
    have unlike : other ≠ pTile := by
      rintro rfl
      simp at wanted
    rw [kept other unlike] at wanted
    exact pictures.full other knownOther wanted absent

theorem move_inv (x y : Int) (inv : TileInv known base system held) (untaken : held pTile = false) :
    TileInv known base (moveTile system pTile x y) held := by
  obtain ⟨books, pictures⟩ := inv
  have idle := ready_idle known base system _ held setting books pTile ready
  have unread := free_unread known base system _ held books pTile here free
  have own : (moveTile system pTile x y).tiles pTile = { system.tiles pTile with x := x, y := y } := Function.update_self ..
  have other_ (other : Nat) (unlike : other ≠ pTile) : (moveTile system pTile x y).tiles other = system.tiles other :=
    Function.update_of_ne unlike ..
  have waits_ (channel other : Nat) (waits : other ∈ pendingOf system channel) :
      (moveTile system pTile x y).tiles other = system.tiles other := other_ other fun same => idle channel (same ▸ waits)
  have links (other : Nat) : ((moveTile system pTile x y).tiles other).pPrevTile = (system.tiles other).pPrevTile := by
    by_cases same : other = pTile
    · subst same
      rw [own]
    · rw [other_ other same]
  refine ⟨⟨books.dram, books.frames, ?_, books.listed, books.single, books.apart, ?_, ?_, ?_, ?_, ?_, ?_⟩, ⟨pictures.outside, ?_, ?_⟩⟩
  · intro other
    refine Eq.trans ?_ (books.shapes other)
    by_cases same : other = pTile
    · subst same
      rw [own]
      rfl
    · rw [other_ other same]
  · intro other knownOther absent
    rw [links]
    refine ⟨?_, (books.idle other knownOther absent).2⟩
    by_cases same : other = pTile
    · subst same
      rw [own]
      exact ready
    · rw [other_ other same]
      exact (books.idle other knownOther absent).1
  · intro channel other waits
    rw [waits_ channel other waits]
    exact books.asked channel other waits
  · intro channel other waits before linked
    rw [waits_ channel other waits] at linked
    exact books.source channel other waits before linked
  · intro before knownBefore
    obtain ⟨readers, count, reads⟩ := books.readers before knownBefore
    refine ⟨readers, ?_, fun other => by rw [links, reads other]⟩
    by_cases same : before = pTile
    · subst same
      rw [own]
      exact count
    · rw [other_ before same]
      exact count
  · intro channel entry listed
    obtain ⟨owner, waits, filled, index, writes, reads⟩ := books.entries channel entry listed
    refine ⟨owner, waits, ?_⟩
    have same := waits_ channel owner waits
    refine ⟨same ▸ filled, same ▸ index, same ▸ writes, fun addr read => ?_⟩
    refine (reads addr read).imp_right fun ⟨before, linked, covered⟩ => ?_
    have unlike : before ≠ pTile := by
      rintro rfl
      exact unread owner (books.listed channel owner waits) linked
    rw [same]
    exact ⟨before, linked, by rw [other_ before unlike]; exact covered⟩
  · intro channel other waits
    rw [waits_ channel other waits]
    exact books.numbered channel other waits
  · intro channel other waits
    rw [waits_ channel other waits]
    exact pictures.cores channel other waits
  · intro other knownOther wanted absent
    have unlike : other ≠ pTile := by
      rintro rfl
      rw [untaken] at wanted
      cases wanted
    rw [other_ other unlike]
    exact pictures.full other knownOther wanted absent

theorem work_inv (bytes : Memory) (inv : TileInv known base system held) (untaken : held pTile = false) :
    TileInv known base (workOn system pTile bytes) held := by
  obtain ⟨books, pictures⟩ := inv
  have idle := ready_idle known base system _ held setting books pTile ready
  have unread := free_unread known base system _ held books pTile here free
  have inside (addr : Int) (inBuffer : InBuffer (system.tiles pTile) addr) : InBuffer (base.tiles pTile) addr :=
    (buffer_now known base system _ held books pTile addr).mp inBuffer
  have same (addr : Int) (outside : ¬ InBuffer (system.tiles pTile) addr) : (workOn system pTile bytes).mem addr = system.mem addr :=
    if_neg outside
  refine ⟨books_kept known base system _ _ held rfl (fun _ => rfl) (fun _ => rfl) rfl rfl books,
    change_outside known base system _ held pictures pTile here _ inside _ same, ?_, ?_⟩
  · intro channel other waits
    have unlike : other ≠ pTile := fun taken => idle channel (taken ▸ waits)
    refine change_cores known base system _ held setting books pictures pTile here _ inside _ same channel ?_ other waits unlike
    exact copies_unread known base system _ held setting books pTile here _ inside channel fun reader readerWaits linked =>
      absurd linked (unread reader (books.listed channel reader readerWaits))
  · intro other knownOther wanted absent painted
    have unlike : other ≠ pTile := by
      rintro rfl
      rw [untaken] at wanted
      cases wanted
    exact change_full known base system _ held setting books pictures pTile here _ inside _ same other knownOther wanted absent unlike painted

end Touch

theorem tile_step_inv (known : Nat → Prop) (base : TileSystem) (setting : Setting known base) (state : TileRun) (event : TileEvent)
    (next : TileRun) (inv : TileInv known base state.system state.held) (allowed : Allowed known state event) (taken : tileStep state event = some next) :
    TileInv known base next.system next.held := by
  obtain ⟨system, held⟩ := state
  cases event with
  | request dmaChannel pTile pPrevTile interruptOnCompletion =>
      cases taken
      have kept := request_step known base system held setting inv.books inv.pictures dmaChannel pTile pPrevTile interruptOnCompletion allowed
        _ _ rfl
      exact ⟨kept.1, kept.2⟩
  | complete dmaChannel =>
      obtain ⟨after, copied, rfl⟩ := Option.map_eq_some_iff.mp taken
      have kept := complete_step known base system after _ held setting inv.books inv.pictures dmaChannel copied
      have queues : pendingOf after = pendingOf system := by
        rw [completeCopy] at copied
        split at copied
        · cases copied
        · cases copied
          funext channel
          by_cases same : channel = dmaChannel
          · subst same
            simp only [pendingOf, Function.update_self]
            rfl
          · simp only [pendingOf, Function.update_of_ne same]
      exact ⟨queues ▸ kept.1, queues ▸ kept.2⟩
  | check dmaChannel pTile seen =>
      cases taken
      have kept := check_step known base system held setting inv.books inv.pictures dmaChannel pTile seen allowed.2
      exact ⟨kept.1, kept.2⟩
  | move pTile x y =>
      cases taken
      obtain ⟨here, ready, free⟩ := allowed
      exact move_inv known base system _ setting pTile here ready free x y
        (released_inv known base system held setting pTile here ready free inv) (Function.update_self ..)
  | work pTile bytes =>
      cases taken
      obtain ⟨here, ready, free⟩ := allowed
      exact work_inv known base system _ setting pTile here ready free bytes
        (released_inv known base system held setting pTile here ready free inv) (Function.update_self ..)

section Results

variable (known : Nat → Prop) (base system : TileSystem) (held : Nat → Bool) (setting : Setting known base)
  (inv : TileInv known base system held)

include setting inv

omit setting in
-- The tiles that use a tile again all wait in a queue.
theorem counted_readers (pTile : Nat) (here : known pTile) : ∃ readers : Finset Nat, (system.tiles pTile).reuseCount = readers.card ∧
    ∀ reader, reader ∈ readers ↔ known reader ∧ (∃ channel, reader ∈ pendingOf system channel) ∧
      (system.tiles reader).pPrevTile = some pTile := by
  obtain ⟨readers, count, reads⟩ := inv.books.readers pTile here
  refine ⟨readers, count, fun reader => (reads reader).trans ⟨fun ⟨knownReader, linked⟩ => ⟨knownReader, ?_, linked⟩, fun all => ⟨all.1, all.2.2⟩⟩⟩
  by_contra absent
  have alone := (inv.books.idle reader knownReader fun channel waits => absent ⟨channel, waits⟩).2
  rw [alone] at linked
  cases linked

theorem check_free_result (pTile : Nat) (here : known pTile) :
    (xvCheckInputTileFree system pTile).2 = 1 ↔ (system.tiles pTile).reuseCount = 0 := by
  have passed := (checked_now known base system _ held setting inv.books pTile here).passed
  rw [← inv.books.dram] at passed
  rw [xvCheckInputTileFree, passed, Bool.not_true, if_neg Bool.false_ne_true]
  split
  case isTrue free => exact iff_of_true rfl free
  case isFalse used => exact iff_of_false Int.zero_ne_one used

-- No copy touches the buffer of a tile that is ready and free.
theorem free_buffer (pTile : Nat) (here : known pTile) (ready : (system.tiles pTile).status = 0) (free : (system.tiles pTile).reuseCount = 0)
    (channel : Nat) (entry : Nat × Transfer) (listed : entry ∈ (system.channels channel).outstanding) (addr : Int)
    (inBuffer : InBuffer (base.tiles pTile) addr) : ¬ entry.2.Reads addr ∧ ¬ entry.2.Writes addr := by
  have books := inv.books
  have idle := ready_idle known base system _ held setting books pTile ready
  have unread := free_unread known base system _ held books pTile here free
  constructor
  · intro read
    exact copies_unread known base system _ held setting books pTile here (InBuffer (base.tiles pTile)) (fun _ inside => inside) channel
      (fun reader waits linked => absurd linked (unread reader (books.listed channel reader waits))) entry.2
      (List.mem_map_of_mem listed) addr read inBuffer
  · intro written
    obtain ⟨owner, waits, serves⟩ := books.entries channel entry listed
    have unlike : pTile ≠ owner := by
      rintro rfl
      exact idle channel waits
    have knownOwner := books.listed channel owner waits
    exact setting.buffers pTile owner here knownOwner unlike addr inBuffer
      (core_in_buffer known base system _ held setting books owner knownOwner addr (serves.writes addr written))

theorem check_result (dmaChannel pTile seen : Nat) (past : ∀ entry ∈ (system.channels dmaChannel).outstanding, seen ≤ entry.1)
    (before after : List Nat) (queue : pendingOf system dmaChannel = before ++ pTile :: after) :
    (xvCheckTileReadyMultiChannel system dmaChannel pTile seen).2 = 1 ↔ ∀ tile ∈ before ++ [pTile], Past system seen tile := by
  have books := inv.books
  have waits : pTile ∈ pendingOf system dmaChannel := queue ▸ List.mem_append_right before List.mem_cons_self
  have checked := checked_now known base system _ held setting books pTile (books.listed dmaChannel pTile waits)
  have passed := checked.passed
  rw [← books.dram] at passed
  have unready := waiting_status _ _ checked.fits (books.asked dmaChannel pTile waits).2
  obtain ⟨toldBooks, toldPictures⟩ := told_kept known base system held books inv.pictures .success
  have whole : Function.update (pendingOf system) dmaChannel ((system.channels dmaChannel).pending.drop 0) = pendingOf system :=
    Function.update_eq_self dmaChannel (pendingOf system)
  have loop := check_loop_ready (system.channels dmaChannel) known base (pendingOf system) held setting dmaChannel pTile seen _ 0
    (Nat.zero_add _) { system with errFlag := .success } (system.channels dmaChannel).tileDMAstartIndex rfl past
    (by rw [whole]; exact toldBooks) (by rw [whole]; exact toldPictures) before after queue
  rw [xvCheckTileReadyMultiChannel, passed, Bool.not_true, if_neg Bool.false_ne_true, if_neg unready]
  simp only
  split
  case isTrue finished => exact iff_of_true rfl (loop.mp finished)
  case isFalse unfinished => exact iff_of_false Int.zero_ne_one fun all => unfinished (loop.mpr all)

-- Once the engine has done all it was asked for, every tile is past.
theorem drained_past (dmaChannel seen : Nat) (reached : (system.channels dmaChannel).nextIndex ≤ seen) (pTile : Nat)
    (waits : pTile ∈ pendingOf system dmaChannel) : Past system seen pTile := by
  have books := inv.books
  have waiting := (books.asked dmaChannel pTile waits).2
  rw [Past, waiting_dummy known base system _ held setting books dmaChannel pTile waits waiting]
  by_cases filled : (core (base.frameAt pTile) (system.tiles pTile)).Filled
  · have below := books.numbered dmaChannel pTile waits filled
    exact .inr (by omega)
  · rw [decide_eq_false filled, Bool.not_false]
    exact .inl rfl

end Results

-- A frame of four times four pixels and two tiles of two times two, with an edge
-- of one pixel all around. The second tile uses the first one again.
def smallFrame : XvFrame := ⟨1, 1000, 4, 4, 4, 1, 1, 0, 0, 0, 0, frameConstantPadding, 7⟩

def smallTile (pBuffer : Nat) (place : Int) : XvTile :=
  ⟨pBuffer, 16, pBuffer + 5, 2, 4, 0, 0x4001, 2, some 0, place, place, 1, 1, 1, 1, 0, 0, none⟩

def twoTiles : TileSystem where
  mem := fun addr => UInt8.ofNat addr.toNat
  dram := ⟨0, 64⟩
  frames := fun _ => smallFrame
  tiles := fun pTile => if pTile = 0 then smallTile 0 0 else smallTile 16 1
  channels := fun _ => ⟨0, 0, fun _ => 0, [], 0⟩
  errFlag := .success

def tileScript : List TileEvent := [.request 0 0 none 0, .complete 0, .check 0 0 1, .request 0 1 (some 0) 0]

theorem two_tiles_setting : Setting (· < 2) twoTiles := by
  have cases_ (pTile : Nat) (here : pTile < 2) : pTile = 0 ∨ pTile = 1 := by omega
  refine ⟨fun pTile here => ?_, fun pTile other here there apart addr inBuffer => ?_, fun pTile other here there addr covered => ?_⟩
  · rcases cases_ pTile here with rfl | rfl
    · exact ⟨by constructor <;> decide, by decide, by decide, by decide⟩
    · exact ⟨by constructor <;> decide, by decide, by decide, by decide⟩
  · rcases cases_ pTile here with rfl | rfl <;> rcases cases_ other there with rfl | rfl <;>
      simp [InBuffer, twoTiles, smallTile] at inBuffer apart ⊢ <;> omega
  · obtain ⟨y, x, byte, has, inPixel, rfl⟩ := covered
    rcases cases_ pTile here with rfl | rfl <;> rcases cases_ other there with rfl | rfl <;>
      simp [InBuffer, twoTiles, smallTile, smallFrame, TileSystem.frameAt, TileSystem.frameOf, framePlane, frameBox, Box.Has, Plane.addr] at has inPixel ⊢ <;> omega

theorem two_tiles_resting : Resting (· < 2) twoTiles := by
  refine ⟨fun pTile here => ?_, fun channel => ⟨rfl, rfl⟩⟩
  obtain rfl | rfl : pTile = 0 ∨ pTile = 1 := by omega
  · exact ⟨rfl, rfl, rfl⟩
  · exact ⟨rfl, rfl, rfl⟩

theorem two_tiles_guarded : Guarded tileStep (Allowed (· < 2)) ⟨twoTiles, fun _ => false⟩ tileScript := by
  refine ⟨⟨by decide, rfl, rfl, by decide, by decide, fun before given => by cases given⟩, ?_⟩
  rintro next ⟨⟩
  refine ⟨trivial, ?_⟩
  rintro next ⟨⟩
  refine ⟨⟨by decide, by decide⟩, ?_⟩
  rintro next ⟨⟩
  refine ⟨⟨by decide, rfl, rfl, by decide, by decide, ?_⟩, fun next taken => trivial⟩
  rintro before ⟨⟩
  refine ⟨by decide, by decide, rfl, rfl, ?_⟩
  intro other listed
  match other with
  | 0 => rfl
  | other + 1 => exact absurd listed List.not_mem_nil

section Run

variable (known : Nat → Prop) (base : TileSystem) (setting : Setting known base) (resting : Resting known base) (events : List TileEvent)
  (finish : TileRun) (guarded : Guarded tileStep (Allowed known) ⟨base, fun _ => false⟩ events)
  (ran : run tileStep ⟨base, fun _ => false⟩ events = some finish)

include setting resting guarded ran

theorem tile_run_inv : TileInv known base finish.system finish.held :=
  guarded_run_invariant tileStep (Allowed known) (fun state => TileInv known base state.system state.held)
    (fun state event next inv allowed taken => tile_step_inv known base setting state event next inv allowed taken)
    _ finish events (resting_inv known base resting) guarded ran

-- A tile that was asked for and is ready shows its frame, padded around it, and
-- nothing but the buffers of the tiles is ever written.
theorem tiles_show_frame :
    (∀ pTile, known pTile → finish.held pTile = true → (finish.system.tiles pTile).status = 0 →
      (core (base.frameAt pTile) (finish.system.tiles pTile)).Filled ∨ (base.frameAt pTile).paddingType ≠ frameEdgePadding →
      Shows finish.system.mem (tilePlane (base.frameAt pTile) (finish.system.tiles pTile)) (tileBox (finish.system.tiles pTile)).Has
        (padded (base.frameAt pTile) base.mem)) ∧
    ∀ addr, (∀ pTile, known pTile → ¬ InBuffer (base.tiles pTile) addr) → finish.system.mem addr = base.mem addr := by
  obtain ⟨books, pictures⟩ := tile_run_inv known base setting resting events finish guarded ran
  refine ⟨fun pTile here wanted ready painted => ?_, pictures.outside⟩
  exact pictures.full pTile here wanted (ready_idle known base finish.system _ finish.held setting books pTile ready) painted

omit setting resting guarded ran in
theorem tiles_show_frame_two : ∃ finish, run tileStep ⟨twoTiles, fun _ => false⟩ tileScript = some finish ∧ finish.held 0 = true ∧
    (finish.system.tiles 0).status = 0 ∧ Shows finish.system.mem (tilePlane smallFrame (finish.system.tiles 0))
      (tileBox (finish.system.tiles 0)).Has (padded smallFrame twoTiles.mem) := by
  refine ⟨_, rfl, rfl, rfl, ?_⟩
  exact (tiles_show_frame (· < 2) twoTiles two_tiles_setting two_tiles_resting tileScript _ two_tiles_guarded rfl).1 0 (by decide) rfl rfl
    (.inl (by decide))

-- The reuse count of a tile is the number of tiles that wait for its pixels, and
-- no copy touches a tile that is reported as ready and free.
theorem free_tiles_untouched (pTile : Nat) (here : known pTile) :
    (∃ readers : Finset Nat, (finish.system.tiles pTile).reuseCount = readers.card ∧
      ∀ reader, reader ∈ readers ↔ known reader ∧ (∃ channel, reader ∈ pendingOf finish.system channel) ∧
        (finish.system.tiles reader).pPrevTile = some pTile) ∧
    ((xvCheckInputTileFree finish.system pTile).2 = 1 → (finish.system.tiles pTile).status = 0 →
      ∀ channel, ∀ entry ∈ (finish.system.channels channel).outstanding, ∀ addr, InBuffer (base.tiles pTile) addr →
        ¬ entry.2.Reads addr ∧ ¬ entry.2.Writes addr) := by
  have inv := tile_run_inv known base setting resting events finish guarded ran
  refine ⟨counted_readers known base finish.system finish.held inv pTile here, fun reported ready => ?_⟩
  have free := (check_free_result known base finish.system finish.held setting inv pTile here).mp reported
  exact free_buffer known base finish.system finish.held setting inv pTile here ready free

omit setting resting guarded ran in
theorem free_tiles_untouched_two : ∃ finish, run tileStep ⟨twoTiles, fun _ => false⟩ tileScript = some finish ∧
    (∃ readers : Finset Nat, (finish.system.tiles 0).reuseCount = readers.card ∧
      ∀ reader, reader ∈ readers ↔ reader < 2 ∧ (∃ channel, reader ∈ pendingOf finish.system channel) ∧
        (finish.system.tiles reader).pPrevTile = some 0) ∧
    (finish.system.tiles 0).reuseCount = 1 := by
  refine ⟨_, rfl, ?_, rfl⟩
  exact (free_tiles_untouched (· < 2) twoTiles two_tiles_setting two_tiles_resting tileScript _ two_tiles_guarded rfl 0 (by decide)).1

-- A check finishes a tile if and only if its copies and those of all tiles before
-- it are done, and after the last copy of the channel every check does.
theorem checks_in_order (dmaChannel pTile seen : Nat) (past : ∀ entry ∈ (finish.system.channels dmaChannel).outstanding, seen ≤ entry.1)
    (before after : List Nat) (queue : pendingOf finish.system dmaChannel = before ++ pTile :: after) :
    ((xvCheckTileReadyMultiChannel finish.system dmaChannel pTile seen).2 = 1 ↔
      ∀ tile ∈ before ++ [pTile], Past finish.system seen tile) ∧
    ((finish.system.channels dmaChannel).nextIndex ≤ seen → (xvCheckTileReadyMultiChannel finish.system dmaChannel pTile seen).2 = 1) := by
  have inv := tile_run_inv known base setting resting events finish guarded ran
  have result := check_result known base finish.system finish.held setting inv dmaChannel pTile seen past before after queue
  refine ⟨result, fun reached => result.mpr fun tile listed => ?_⟩
  refine drained_past known base finish.system finish.held setting inv dmaChannel seen reached tile ?_
  rw [queue, List.append_cons]
  exact List.mem_append_left after listed

omit setting resting guarded ran in
theorem checks_in_order_two : ∃ finish, run tileStep ⟨twoTiles, fun _ => false⟩ tileScript = some finish ∧
    (xvCheckTileReadyMultiChannel finish.system 0 1 1).2 ≠ 1 ∧ ((xvCheckTileReadyMultiChannel finish.system 0 1 1).2 = 1 ↔
      ∀ tile ∈ [] ++ [1], Past finish.system 1 tile) := by
  refine ⟨_, rfl, by decide, ?_⟩
  exact (checks_in_order (· < 2) twoTiles two_tiles_setting two_tiles_resting tileScript _ two_tiles_guarded rfl 0 1 1 (by decide) [] [] rfl).1

end Run

end CsiDsp.Tiles
