import CsiDsp.TileQueue

set_option autoImplicit false

namespace CsiDsp.Tiles

open CInt Raster

section Complete

variable (known : Nat → Prop) (base system next : TileSystem) (pending : Nat → List Nat) (held : Nat → Bool)
  (setting : Setting known base) (books : Books known base system pending held)
  (pictures : Pictures known base system pending held)

include setting books pictures

-- The engine of a channel does its next copy.
theorem complete_step (dmaChannel : Nat) (taken : completeCopy system dmaChannel = some next) :
    Books known base next pending held ∧ Pictures known base next pending held := by
  rw [completeCopy] at taken
  cases queue : (system.channels dmaChannel).outstanding with
  | nil => simp [queue] at taken
  | cons entry rest =>
      simp only [queue, Option.some.injEq] at taken
      subst taken
      obtain ⟨owner, waits, serves⟩ := books.entries dmaChannel entry (queue ▸ List.mem_cons_self)
      have knownOwner := books.listed dmaChannel owner waits
      have inside (addr : Int) (written : entry.2.Writes addr) : InBuffer (base.tiles owner) addr :=
        core_in_buffer known base system pending held setting books owner knownOwner addr (serves.writes addr written)
      have same (addr : Int) (unwritten : ¬ entry.2.Writes addr) : entry.2.perform system.mem addr = system.mem addr :=
        perform_outside system.mem entry.2 addr unwritten
      constructor
      · refine ⟨books.dram, books.frames, books.shapes, books.listed, books.single, books.apart, books.idle, books.asked, books.source,
          books.readers, ?_, ?_⟩
        · intro channel other listed
          refine books.entries channel other ?_
          by_cases here : channel = dmaChannel
          · subst here
            simp only [Function.update_self] at listed
            exact queue ▸ List.mem_cons_of_mem _ listed
          · simpa only [Function.update_of_ne here] using listed
        · intro channel pTile listed filled
          by_cases here : channel = dmaChannel
          · subst here
            simpa only [Function.update_self] using books.numbered channel pTile listed filled
          · simpa only [Function.update_of_ne here] using books.numbered channel pTile listed filled
      · refine ⟨change_outside known base system pending held pictures owner knownOwner _ inside _ same, ?_, ?_⟩
        · intro channel pTile listed
          by_cases here : channel = dmaChannel
          · subst here
            have shown := pictures.cores channel pTile listed
            simp only [TileSystem.eager, TileChannel.copies, queue, List.map_cons] at shown
            simp only [TileSystem.eager, TileChannel.copies, Function.update_self]
            exact shown
          · have other : pTile ≠ owner := by
              rintro rfl
              exact here (books.apart channel dmaChannel pTile listed waits)
            simp only [TileSystem.eager, Function.update_of_ne here]
            refine change_cores known base system pending held setting books pictures owner knownOwner _ inside _ same channel ?_ pTile
              listed other
            refine copies_unread known base system pending held setting books owner knownOwner _ inside channel ?_
            intro reader readerWaits linked
            have lends := books.source channel reader readerWaits owner linked
            exact absurd (lends.busy dmaChannel waits).symm here
        · intro pTile here wanted ready painted
          have other : pTile ≠ owner := by
            rintro rfl
            exact ready dmaChannel waits
          exact change_full known base system pending held setting books pictures owner knownOwner _ inside _ same pTile here wanted ready
            other painted

end Complete

section Same

variable (base : TileSystem) (tiles others : Nat → XvTile) (places : ∀ pTile, (others pTile).place = (tiles pTile).place)

include places

theorem serves_same (pTile : Nat) (entry : Nat × Transfer) (prev : (others pTile).pPrevTile = (tiles pTile).pPrevTile)
    (index : (others pTile).dmaIndex = (tiles pTile).dmaIndex) (serves : Serves base tiles pTile entry) :
    Serves base others pTile entry := by
  have plane (tile : Nat) (frame : XvFrame) := plane_place frame _ _ (places tile)
  have box (tile : Nat) (frame : XvFrame) := core_place frame _ _ (places tile)
  obtain ⟨filled, below, writes, reads⟩ := serves
  refine ⟨?_, ?_, ?_, ?_⟩
  · rw [box]
    exact filled
  · rw [index]
    exact below
  · rw [plane, box]
    exact writes
  · intro addr read
    rw [prev]
    refine (reads addr read).imp_right fun ⟨before, linked, covered⟩ => ⟨before, linked, ?_⟩
    rw [plane, box]
    exact covered

omit places in
theorem waiting_same (frame : XvFrame) (tile other : XvTile) (place : other.place = tile.place) (status : other.status = tile.status)
    (prev : other.pPrevTile = tile.pPrevTile) (waiting : Waiting frame tile) : Waiting frame other := by
  have box := core_place frame _ _ place
  have flags := flags_place frame _ _ place
  cases waiting with
  | copied filled asked => exact .copied (box ▸ filled) (by rw [status, flags, asked])
  | dummy empty asked alone => exact .dummy (box ▸ empty) (by rw [status, flags, asked]) (prev.trans alone)

end Same

-- What the end of a transfer does to the tiles.
structure Finished (system next : TileSystem) (pTile : Nat) : Prop where
  dram : next.dram = system.dram
  frames : next.frames = system.frames
  channels : next.channels = system.channels
  places : ∀ other, (next.tiles other).place = (system.tiles other).place
  ready : (next.tiles pTile).status = 0 ∧ (next.tiles pTile).pPrevTile = none
  others : ∀ other, other ≠ pTile → (next.tiles other).status = (system.tiles other).status ∧
    (next.tiles other).pPrevTile = (system.tiles other).pPrevTile ∧ (next.tiles other).dmaIndex = (system.tiles other).dmaIndex
  counts : ∀ other, (next.tiles other).reuseCount =
    (system.tiles other).reuseCount - if (system.tiles pTile).pPrevTile = some other then 1 else 0

section Finished

variable (known : Nat → Prop) (base system next : TileSystem) (pending : Nat → List Nat) (held : Nat → Bool)
  (setting : Setting known base) (books : Books known base system pending held)
  (pictures : Pictures known base system pending held) (dmaChannel pTile : Nat) (rest : List Nat)
  (head : pending dmaChannel = pTile :: rest) (finished : Finished system next pTile)

include books head

-- The tiles that still wait are others, and waited before.
theorem waits_still (channel other : Nat) (waits : other ∈ Function.update pending dmaChannel rest channel) :
    other ∈ pending channel ∧ other ≠ pTile := by
  have front : pTile ∈ pending dmaChannel := head ▸ List.mem_cons_self
  by_cases here : channel = dmaChannel
  · subst here
    rw [Function.update_self] at waits
    have single := books.single channel
    rw [head] at single ⊢
    refine ⟨List.mem_cons_of_mem _ waits, ?_⟩
    rintro rfl
    exact (List.nodup_cons.mp single).1 waits
  · rw [Function.update_of_ne here] at waits
    refine ⟨waits, ?_⟩
    rintro rfl
    exact here (books.apart channel dmaChannel other waits front)

omit books in
theorem waited_before (other : Nat) (unlike : other ≠ pTile)
    (ready : ∀ channel, other ∉ Function.update pending dmaChannel rest channel) (channel : Nat) : other ∉ pending channel := by
  intro waits
  have absent := ready channel
  by_cases here : channel = dmaChannel
  · subst here
    rw [Function.update_self] at absent
    rw [head, List.mem_cons] at waits
    exact waits.elim unlike absent
  · rw [Function.update_of_ne here] at absent
    exact absent waits

include finished

theorem finished_books (unserved : ∀ entry ∈ (system.channels dmaChannel).outstanding, ¬ Serves base system.tiles pTile entry) :
    Books known base next (Function.update pending dmaChannel rest) held := by
  have still := waits_still known base system pending held books dmaChannel pTile rest head
  have front : pTile ∈ pending dmaChannel := head ▸ List.mem_cons_self
  refine ⟨finished.dram.trans books.dram, finished.frames.trans books.frames, ?_, ?_, ?_, ?_, ?_, ?_, ?_, ?_, ?_, ?_⟩
  · intro other
    exact (shape_of_place _ _ (finished.places other)).trans (books.shapes other)
  · intro channel other waits
    exact books.listed channel other (still channel other waits).1
  · intro channel
    by_cases here : channel = dmaChannel
    · subst here
      rw [Function.update_self]
      have single := books.single channel
      rw [head] at single
      exact (List.nodup_cons.mp single).2
    · rw [Function.update_of_ne here]
      exact books.single channel
  · intro channel second other waits again
    exact books.apart channel second other (still channel other waits).1 (still second other again).1
  · intro other here ready
    by_cases same : other = pTile
    · exact same ▸ finished.ready
    · obtain ⟨status, prev, -⟩ := finished.others other same
      rw [status, prev]
      exact books.idle other here (waited_before pending dmaChannel pTile rest head other same ready)
  · intro channel other waits
    obtain ⟨waited, unlike⟩ := still channel other waits
    obtain ⟨status, prev, -⟩ := finished.others other unlike
    obtain ⟨wanted, waiting⟩ := books.asked channel other waited
    exact ⟨wanted, waiting_same _ _ _ (finished.places other) status prev waiting⟩
  · intro channel other waits before linked
    obtain ⟨waited, unlike⟩ := still channel other waits
    obtain ⟨-, prev, -⟩ := finished.others other unlike
    have lends := books.source channel other waited before (prev ▸ linked)
    exact { lends with busy := fun second again => lends.busy second (still second before again).1 }
  · intro before here
    obtain ⟨readers, count, reads⟩ := books.readers before here
    refine ⟨readers.erase pTile, ?_, fun other => ?_⟩
    · rw [finished.counts before, count]
      by_cases linked : (system.tiles pTile).pPrevTile = some before
      · have reader : pTile ∈ readers := (reads pTile).mpr ⟨books.listed dmaChannel pTile front, linked⟩
        have positive := Finset.card_pos.mpr ⟨pTile, reader⟩
        rw [if_pos linked, Finset.card_erase_of_mem reader]
        omega
      · have absent : pTile ∉ readers := fun reader => linked ((reads pTile).mp reader).2
        rw [if_neg linked, Finset.erase_eq_of_notMem absent, sub_zero]
    · rw [Finset.mem_erase, reads other]
      by_cases same : other = pTile
      · subst same
        rw [finished.ready.2]
        simp
      · rw [(finished.others other same).2.1]
        simp [same]
  · intro channel entry listed
    rw [finished.channels] at listed
    obtain ⟨owner, waits, serves⟩ := books.entries channel entry listed
    have unlike : owner ≠ pTile := by
      rintro rfl
      have here := books.apart channel dmaChannel owner waits front
      subst here
      exact unserved entry listed serves
    obtain ⟨-, prev, index⟩ := finished.others owner unlike
    refine ⟨owner, ?_, serves_same base system.tiles next.tiles finished.places owner entry prev index serves⟩
    by_cases here : channel = dmaChannel
    · subst here
      rw [head, List.mem_cons] at waits
      rw [Function.update_self]
      exact waits.resolve_left unlike
    · rw [Function.update_of_ne here]
      exact waits
  · intro channel other waits filled
    obtain ⟨waited, unlike⟩ := still channel other waits
    rw [core_place _ _ _ (finished.places other)] at filled
    rw [(finished.others other unlike).2.2, finished.channels]
    exact books.numbered channel other waited filled

include setting pictures

theorem finished_pictures (kept : ∀ addr, ¬ Halo (base.frameAt pTile) (system.tiles pTile) addr → next.mem addr = system.mem addr)
    (shown : (core (base.frameAt pTile) (system.tiles pTile)).Filled ∨ (base.frameAt pTile).paddingType ≠ frameEdgePadding →
      Shows next.mem (tilePlane (base.frameAt pTile) (system.tiles pTile)) (tileBox (system.tiles pTile)).Has
        (padded (base.frameAt pTile) base.mem)) :
    Pictures known base next (Function.update pending dmaChannel rest) held := by
  have still := waits_still known base system pending held books dmaChannel pTile rest head
  have here := books.listed dmaChannel pTile (head ▸ List.mem_cons_self)
  have inside (addr : Int) (around : Halo (base.frameAt pTile) (system.tiles pTile) addr) : InBuffer (base.tiles pTile) addr :=
    box_in_buffer known base system pending held setting books pTile here addr around.1
  have plane (tile : Nat) (frame : XvFrame) := plane_place frame _ _ (finished.places tile)
  have box (tile : Nat) := box_place _ _ (finished.places tile)
  have middle (tile : Nat) (frame : XvFrame) := core_place frame _ _ (finished.places tile)
  refine ⟨change_outside known base system pending held pictures pTile here _ inside _ kept, ?_, ?_⟩
  · intro channel other waits
    obtain ⟨waited, unlike⟩ := still channel other waits
    rw [TileSystem.eager, finished.channels, plane, middle]
    refine change_cores known base system pending held setting books pictures pTile here _ inside _ kept channel ?_ other waited unlike
    exact copies_unread known base system pending held setting books pTile here _ inside channel
      fun _ _ _ addr covered around => around.2 covered
  · intro other knownOther wanted ready painted
    rw [plane, box]
    rw [middle] at painted
    by_cases same : other = pTile
    · exact same ▸ shown (same ▸ painted)
    · exact change_full known base system pending held setting books pictures pTile here _ inside _ kept other knownOther wanted
        (waited_before pending dmaChannel pTile rest head other same ready) same painted

end Finished

section Finish

variable (system : TileSystem) (pTile : Nat)

theorem finish_tile_finished (apart : (system.tiles pTile).pPrevTile ≠ some pTile)
    (clear : (system.tiles pTile).status &&& ~~~statusDmaOngoing &&& ~~~statusEdgePaddingNeeded = 0) :
    Finished system (finishTile system pTile) pTile := by
  cases linked : (system.tiles pTile).pPrevTile with
  | none =>
      simp only [finishTile, TileSystem.dropPrev, linked, TileSystem.setTile]
      refine ⟨rfl, rfl, rfl, fun other => ?_, ?_, fun other unlike => ?_, fun other => ?_⟩
      · by_cases same : other = pTile
        · subst same
          simp only [Function.update_self]
          rfl
        · simp only [Function.update_of_ne same]
      · simp only [Function.update_self]
        exact ⟨clear, trivial⟩
      · simp only [Function.update_of_ne unlike]
        exact ⟨trivial, trivial, trivial⟩
      · by_cases same : other = pTile
        · subst same
          simp [linked]
        · simp [Function.update_of_ne same, linked]
  | some before =>
      have unlike : before ≠ pTile := by
        rintro rfl
        exact apart linked
      simp only [finishTile, TileSystem.dropPrev, linked, TileSystem.setTile]
      refine ⟨rfl, rfl, rfl, fun other => ?_, ?_, fun other unlike => ?_, fun other => ?_⟩
      · by_cases same : other = pTile
        · subst same
          simp only [Function.update_self, Function.update_of_ne unlike.symm]
          rfl
        · by_cases lent : other = before
          · subst lent
            simp only [Function.update_of_ne same, Function.update_self]
            rfl
          · simp only [Function.update_of_ne same, Function.update_of_ne lent]
      · simp only [Function.update_self]
        exact ⟨clear, trivial⟩
      · by_cases lent : other = before
        · subst lent
          simp only [Function.update_of_ne unlike, Function.update_self]
          exact ⟨trivial, trivial, trivial⟩
        · simp only [Function.update_of_ne unlike, Function.update_of_ne lent]
          exact ⟨trivial, trivial, trivial⟩
      · by_cases same : other = pTile
        · subst same
          simp [Function.update_of_ne unlike.symm, linked, unlike]
        · by_cases lent : other = before
          · subst lent
            simp [Function.update_of_ne same, linked]
          · simp [Function.update_of_ne same, Function.update_of_ne lent, linked, Ne.symm lent]

theorem finish_tile_mem : (finishTile system pTile).mem =
    if hasFlag ((system.tiles pTile).status &&& ~~~statusDmaOngoing) statusEdgePaddingNeeded then
      padEdges (system.frameAt pTile) { system.tiles pTile with status := (system.tiles pTile).status &&& ~~~statusDmaOngoing } system.mem
    else system.mem := by
  rw [finishTile, TileSystem.dropPrev]
  split <;> rfl

theorem finish_dummy_finished (alone : (system.tiles pTile).pPrevTile = none) : Finished system (finishDummy system pTile) pTile := by
  simp only [finishDummy, TileSystem.setTile]
  refine ⟨rfl, rfl, rfl, fun other => ?_, ?_, fun other unlike => ?_, fun other => ?_⟩
  · by_cases same : other = pTile
    · subst same
      simp only [Function.update_self]
      rfl
    · simp only [Function.update_of_ne same]
  · simp only [Function.update_self]
    exact ⟨trivial, alone⟩
  · simp only [Function.update_of_ne unlike]
    exact ⟨trivial, trivial, trivial⟩
  · by_cases same : other = pTile
    · subst same
      simp [alone]
    · simp [Function.update_of_ne same, alone]

end Finish

section Next

variable (known : Nat → Prop) (base system : TileSystem) (pending : Nat → List Nat) (held : Nat → Bool)
  (setting : Setting known base) (books : Books known base system pending held)
  (pictures : Pictures known base system pending held) (dmaChannel pTile : Nat) (rest : List Nat)
  (head : pending dmaChannel = pTile :: rest)

include setting books pictures head

theorem finish_next_dummy (empty : ¬ (core (base.frameAt pTile) (system.tiles pTile)).Filled)
    (alone : (system.tiles pTile).pPrevTile = none) :
    Books known base (finishDummy system pTile) (Function.update pending dmaChannel rest) held ∧
      Pictures known base (finishDummy system pTile) (Function.update pending dmaChannel rest) held := by
  have here := books.listed dmaChannel pTile (head ▸ List.mem_cons_self)
  have checked := checked_now known base system pending held setting books pTile here
  have finished := finish_dummy_finished system pTile alone
  have mem : (finishDummy system pTile).mem = fillTile (base.frameAt pTile) (system.tiles pTile) system.mem := by
    rw [← frame_now known base system pending held books pTile]
    rfl
  refine ⟨finished_books known base system _ pending held books dmaChannel pTile rest head finished fun _ _ serves => empty serves.filled,
    finished_pictures known base system _ pending held setting books pictures dmaChannel pTile rest head finished ?_ ?_⟩
  · intro addr outside
    rw [mem]
    refine fill_tile_outside base.dram _ _ checked system.mem addr fun covered => outside ⟨covered, ?_⟩
    rintro ⟨y, x, byte, has, -⟩
    exact empty (has_filled _ y x has)
  · intro painted
    rw [mem]
    exact fill_tile_shown base.dram _ _ checked base.mem system.mem empty (painted.resolve_left empty)

omit pictures in
theorem finish_tile_waiting
    (status : (system.tiles pTile).status = paddingFlags (clipRows (base.frameAt pTile) (system.tiles pTile))
      (clipColumns (base.frameAt pTile) (system.tiles pTile)) ||| statusDmaOngoing) :
    Finished system (finishTile system pTile) pTile ∧ (system.tiles pTile).status &&& ~~~statusDmaOngoing =
      paddingFlags (clipRows (base.frameAt pTile) (system.tiles pTile)) (clipColumns (base.frameAt pTile) (system.tiles pTile)) := by
  have front : pTile ∈ pending dmaChannel := head ▸ List.mem_cons_self
  have checked := checked_now known base system pending held setting books pTile (books.listed dmaChannel pTile front)
  have told := flags_told (decide ((tileBox (system.tiles pTile)).top < (frameBox (base.frameAt pTile)).top))
    (decide ((tileBox (system.tiles pTile)).bottom > (frameBox (base.frameAt pTile)).bottom))
    (decide ((tileBox (system.tiles pTile)).left < (frameBox (base.frameAt pTile)).left))
    (decide ((tileBox (system.tiles pTile)).right > (frameBox (base.frameAt pTile)).right))
  simp only [← fits_flags (base.frameAt pTile) (system.tiles pTile) checked.fits] at told
  obtain ⟨-, -, -, -, -, cleared, flags, -⟩ := told
  rw [← status] at flags
  have apart : (system.tiles pTile).pPrevTile ≠ some pTile := fun linked => (books.source dmaChannel pTile front pTile linked).other rfl
  exact ⟨finish_tile_finished system pTile apart (by rw [flags, cleared]), flags⟩

theorem finish_next_copied (filled : (core (base.frameAt pTile) (system.tiles pTile)).Filled)
    (status : (system.tiles pTile).status = paddingFlags (clipRows (base.frameAt pTile) (system.tiles pTile))
      (clipColumns (base.frameAt pTile) (system.tiles pTile)) ||| statusDmaOngoing)
    (past : ∀ entry ∈ (system.channels dmaChannel).outstanding, (system.tiles pTile).dmaIndex < entry.1) :
    Books known base (finishTile system pTile) (Function.update pending dmaChannel rest) held ∧
      Pictures known base (finishTile system pTile) (Function.update pending dmaChannel rest) held := by
  have front : pTile ∈ pending dmaChannel := head ▸ List.mem_cons_self
  have here := books.listed dmaChannel pTile front
  have checked := checked_now known base system pending held setting books pTile here
  have unserved : ∀ entry ∈ (system.channels dmaChannel).outstanding, ¬ Serves base system.tiles pTile entry := fun entry listed serves =>
    absurd serves.index (not_le.mpr (past entry listed))
  obtain ⟨finished, flags⟩ := finish_tile_waiting known base system pending held setting books dmaChannel pTile rest head status
  have shown : Shows system.mem (tilePlane (base.frameAt pTile) (system.tiles pTile))
      (core (base.frameAt pTile) (system.tiles pTile)).Has (frameView (base.frameAt pTile) base.mem) := by
    refine shows_congr _ _ _ _ _ (pictures.cores dmaChannel pTile front) fun y x byte has low high => ?_
    refine (perform_all_outside system.mem _ _ fun transfer listed written => ?_).symm
    obtain ⟨entry, inQueue, rfl⟩ := List.mem_map.mp listed
    obtain ⟨owner, waits, serves⟩ := books.entries dmaChannel entry inQueue
    have unlike : owner ≠ pTile := by
      rintro rfl
      exact unserved entry inQueue serves
    have knownOwner := books.listed dmaChannel owner waits
    exact setting.buffers owner pTile knownOwner here unlike _
      (core_in_buffer known base system pending held setting books owner knownOwner _ (serves.writes _ written))
      (core_in_buffer known base system pending held setting books pTile here _ ⟨y, x, byte, has, ⟨low, high⟩, rfl⟩)
  have padding := pad_edges_shown base.dram _ _ checked base.mem system.mem filled shown
  have mem := finish_tile_mem system pTile
  rw [flags, frame_now known base system pending held books pTile] at mem
  refine ⟨finished_books known base system _ pending held books dmaChannel pTile rest head finished unserved,
    finished_pictures known base system _ pending held setting books pictures dmaChannel pTile rest head finished ?_ ?_⟩
  · rw [mem]
    exact padding.kept
  · intro _
    rw [mem]
    exact padding.shown

omit pictures head in
-- Whether a tile that waits has pixels to be copied is told by its status.
theorem waiting_dummy (waits : pTile ∈ pending dmaChannel) (waiting : Waiting (base.frameAt pTile) (system.tiles pTile)) :
    hasFlag (system.tiles pTile).status statusDummyIdmaIndexNeeded = !decide (core (base.frameAt pTile) (system.tiles pTile)).Filled := by
  have checked := checked_now known base system pending held setting books pTile (books.listed dmaChannel pTile waits)
  have told := flags_told (decide ((tileBox (system.tiles pTile)).top < (frameBox (base.frameAt pTile)).top))
    (decide ((tileBox (system.tiles pTile)).bottom > (frameBox (base.frameAt pTile)).bottom))
    (decide ((tileBox (system.tiles pTile)).left < (frameBox (base.frameAt pTile)).left))
    (decide ((tileBox (system.tiles pTile)).right > (frameBox (base.frameAt pTile)).right))
  simp only [← fits_flags (base.frameAt pTile) (system.tiles pTile) checked.fits] at told
  obtain ⟨-, -, -, -, -, -, -, plain, -, dummy, -⟩ := told
  cases waiting with
  | copied filled status => rw [status, plain, decide_eq_true filled, Bool.not_true]
  | dummy empty status => rw [status, dummy, decide_eq_false empty, Bool.not_false]

omit pictures in
theorem finish_next_finished : Finished system (finishNext system pTile) pTile := by
  have front : pTile ∈ pending dmaChannel := head ▸ List.mem_cons_self
  have waiting := (books.asked dmaChannel pTile front).2
  rw [finishNext, waiting_dummy known base system pending held setting books dmaChannel pTile front waiting]
  cases waiting with
  | copied filled status =>
      rw [decide_eq_true filled, Bool.not_true, if_neg Bool.false_ne_true]
      exact (finish_tile_waiting known base system pending held setting books dmaChannel pTile rest head status).1
  | dummy empty _ alone =>
      rw [decide_eq_false empty, Bool.not_false, if_pos rfl]
      exact finish_dummy_finished system pTile alone

-- What the check asks of a tile before it finishes it.
def Past (system : TileSystem) (seen pTile : Nat) : Prop :=
  hasFlag (system.tiles pTile).status statusDummyIdmaIndexNeeded = true ∨ (system.tiles pTile).dmaIndex < seen

theorem finish_next_step (seen : Nat) (past : ∀ entry ∈ (system.channels dmaChannel).outstanding, seen ≤ entry.1)
    (done : Past system seen pTile) :
    Books known base (finishNext system pTile) (Function.update pending dmaChannel rest) held ∧
      Pictures known base (finishNext system pTile) (Function.update pending dmaChannel rest) held := by
  have front : pTile ∈ pending dmaChannel := head ▸ List.mem_cons_self
  have waiting := (books.asked dmaChannel pTile front).2
  rw [Past] at done
  rw [finishNext]
  rw [waiting_dummy known base system pending held setting books dmaChannel pTile front waiting] at done ⊢
  cases waiting with
  | copied filled status =>
      rw [decide_eq_true filled, Bool.not_true] at done ⊢
      rw [if_neg Bool.false_ne_true]
      refine finish_next_copied known base system pending held setting books pictures dmaChannel pTile rest head filled status ?_
      intro entry listed
      have reached := past entry listed
      have before := done.resolve_left Bool.false_ne_true
      omega
  | dummy empty _ alone =>
      rw [decide_eq_false empty, Bool.not_false, if_pos rfl]
      exact finish_next_dummy known base system pending held setting books pictures dmaChannel pTile rest head empty alone

end Next

section Kept

variable (known : Nat → Prop) (base system next : TileSystem) (pending : Nat → List Nat) (held : Nat → Bool)
  (tiles : next.tiles = system.tiles) (outstanding : ∀ channel, (next.channels channel).outstanding = (system.channels channel).outstanding)
  (indices : ∀ channel, (next.channels channel).nextIndex = (system.channels channel).nextIndex)

include tiles outstanding

include indices in
theorem books_kept (dram : next.dram = system.dram) (frames : next.frames = system.frames)
    (books : Books known base system pending held) : Books known base next pending held := by
  obtain ⟨sameDram, sameFrames, shapes, listed, single, apart, idle, asked, source, readers, entries, numbered⟩ := books
  rw [← tiles] at shapes idle asked source readers entries numbered
  exact ⟨dram.trans sameDram, frames.trans sameFrames, shapes, listed, single, apart, idle, asked, source, readers,
    fun channel entry inQueue => entries channel entry (outstanding channel ▸ inQueue),
    fun channel pTile waits filled => indices channel ▸ numbered channel pTile waits filled⟩

theorem pictures_kept (mem : next.mem = system.mem) (pictures : Pictures known base system pending held) :
    Pictures known base next pending held := by
  obtain ⟨outside, cores, full⟩ := pictures
  refine ⟨mem ▸ outside, ?_, ?_⟩
  · intro channel pTile waits
    rw [TileSystem.eager, TileChannel.copies, mem, tiles, outstanding]
    exact cores channel pTile waits
  · rw [mem, tiles]
    exact full

end Kept

theorem waiting_status (frame : XvFrame) (tile : XvTile) (fits : TileFits frame tile) (waiting : Waiting frame tile) : tile.status ≠ 0 := by
  obtain ⟨-, -, -, -, -, -, -, -, copied, -, dummy⟩ := flags_told (decide ((tileBox tile).top < (frameBox frame).top))
    (decide ((tileBox tile).bottom > (frameBox frame).bottom)) (decide ((tileBox tile).left < (frameBox frame).left))
    (decide ((tileBox tile).right > (frameBox frame).right))
  rw [← fits_flags frame tile fits] at copied dummy
  cases waiting with
  | copied _ status => exact status ▸ copied
  | dummy _ status _ => exact status ▸ dummy

section Loop

theorem stops_iff (system : TileSystem) (seen pTile : Nat) : (!hasFlag (system.tiles pTile).status statusDummyIdmaIndexNeeded &&
    !decide ((system.tiles pTile).dmaIndex < seen)) = true ↔ ¬ Past system seen pTile := by
  simp [Past]

variable (channel : TileChannel)

theorem pending_length : channel.pending.length = channel.tileDMApendingCount := by
  rw [TileChannel.pending, List.length_map, List.length_range]

theorem pending_drop (place : Nat) (below : place < channel.tileDMApendingCount) : channel.pending.drop place =
    channel.tileProcQueue ((channel.tileDMAstartIndex + place) % maxNumDmaQueueLength) :: channel.pending.drop (place + 1) := by
  have inside : place < channel.pending.length := by rw [pending_length]; exact below
  rw [List.drop_eq_getElem_cons inside]
  simp [TileChannel.pending]

-- The queue after its first tiles are done.
theorem pending_after (index done : Nat) (next :
    index % maxNumDmaQueueLength = (channel.tileDMAstartIndex + done) % maxNumDmaQueueLength ∨ done = channel.tileDMApendingCount) :
    TileChannel.pending { channel with tileDMAstartIndex := index, tileDMApendingCount := channel.tileDMApendingCount - done } =
      channel.pending.drop done := by
  refine List.ext_getElem (by simp [TileChannel.pending]) fun place first second => ?_
  simp only [TileChannel.pending, List.length_map, List.length_range] at first
  have moved := next.resolve_right (by omega)
  simp only [TileChannel.pending, List.getElem_map, List.getElem_range, List.getElem_drop]
  rw [← Nat.add_assoc, Nat.add_mod, moved, ← Nat.add_mod]

variable (known : Nat → Prop) (base : TileSystem) (pending : Nat → List Nat) (held : Nat → Bool) (setting : Setting known base)
  (dmaChannel pTile seen : Nat)

include setting

theorem check_loop_step (left loopInd : Nat) (total : loopInd + left = channel.tileDMApendingCount) (system : TileSystem)
    (index : Nat) (same : (system.channels dmaChannel).outstanding = channel.outstanding)
    (past : ∀ entry ∈ channel.outstanding, seen ≤ entry.1)
    (books : Books known base system (Function.update pending dmaChannel (channel.pending.drop loopInd)) held)
    (pictures : Pictures known base system (Function.update pending dmaChannel (channel.pending.drop loopInd)) held) :
    ∃ last index' done, checkLoop channel pTile seen left loopInd system index loopInd = (last, index', done) ∧
      done ≤ channel.tileDMApendingCount ∧ last.channels = system.channels ∧
      (index' % maxNumDmaQueueLength = (channel.tileDMAstartIndex + done) % maxNumDmaQueueLength ∨ done = channel.tileDMApendingCount) ∧
      Books known base last (Function.update pending dmaChannel (channel.pending.drop done)) held ∧
      Pictures known base last (Function.update pending dmaChannel (channel.pending.drop done)) held := by
  induction left generalizing loopInd system index with
  | zero => exact ⟨system, index, loopInd, rfl, by omega, rfl, .inr (by omega), books, pictures⟩
  | succ left ih =>
      rw [checkLoop]
      have slot : (channel.tileDMAstartIndex + loopInd) % maxNumDmaQueueLength % maxNumDmaQueueLength =
          (channel.tileDMAstartIndex + loopInd) % maxNumDmaQueueLength := Nat.mod_mod _ _
      simp only [slot]
      have front := pending_drop channel loopInd (by omega)
      generalize channel.tileProcQueue ((channel.tileDMAstartIndex + loopInd) % maxNumDmaQueueLength) = pTile1 at front ⊢
      split
      · exact ⟨system, _, loopInd, rfl, by omega, rfl, .inl slot, books, pictures⟩
      case isFalse proceeds =>
        have done : Past system seen pTile1 := by
          rw [stops_iff, not_not] at proceeds
          exact proceeds
        have head : Function.update pending dmaChannel (channel.pending.drop loopInd) dmaChannel =
            pTile1 :: channel.pending.drop (loopInd + 1) := by rw [Function.update_self, front]
        have stepped := finish_next_step known base system _ held setting books pictures dmaChannel pTile1 _ head seen
          (same ▸ past) done
        rw [Function.update_idem] at stepped
        have kept : (finishNext system pTile1).channels = system.channels := by
          rw [finishNext, finishDummy, finishTile, TileSystem.dropPrev]
          split
          · rfl
          · split <;> rfl
        split
        · refine ⟨_, _, _, rfl, by omega, kept, .inl ?_, stepped.1, stepped.2⟩
          rw [Nat.mod_mod, Nat.mod_add_mod, Nat.add_assoc]
        · obtain ⟨last, index', count, ran, within, channels, next, laterBooks, laterPictures⟩ :=
            ih (loopInd + 1) (by omega) (finishNext system pTile1) _ (by rw [kept, same]) stepped.1 stepped.2
          exact ⟨last, index', count, ran, within, channels.trans kept, next, laterBooks, laterPictures⟩

-- The loop gets to the end of a tile if it gets past all before it.
theorem check_loop_ready (left loopInd : Nat) (total : loopInd + left = channel.tileDMApendingCount) (system : TileSystem)
    (index : Nat) (same : (system.channels dmaChannel).outstanding = channel.outstanding)
    (past : ∀ entry ∈ channel.outstanding, seen ≤ entry.1)
    (books : Books known base system (Function.update pending dmaChannel (channel.pending.drop loopInd)) held)
    (pictures : Pictures known base system (Function.update pending dmaChannel (channel.pending.drop loopInd)) held)
    (before after : List Nat) (queue : channel.pending.drop loopInd = before ++ pTile :: after) :
    ((checkLoop channel pTile seen left loopInd system index loopInd).1.tiles pTile).status = 0 ↔
      ∀ tile ∈ before ++ [pTile], Past system seen tile := by
  induction left generalizing loopInd system index before with
  | zero =>
      rw [List.drop_eq_nil_of_le (by rw [pending_length]; omega)] at queue
      exact absurd queue.symm (List.append_ne_nil_of_right_ne_nil before (List.cons_ne_nil pTile after))
  | succ left ih =>
      rw [checkLoop]
      have front := pending_drop channel loopInd (by omega)
      simp only [Nat.mod_mod]
      generalize channel.tileProcQueue ((channel.tileDMAstartIndex + loopInd) % maxNumDmaQueueLength) = pTile1 at front ⊢
      have head : Function.update pending dmaChannel (channel.pending.drop loopInd) dmaChannel =
          pTile1 :: channel.pending.drop (loopInd + 1) := by rw [Function.update_self, front]
      have waits : pTile ∈ Function.update pending dmaChannel (channel.pending.drop loopInd) dmaChannel := by
        rw [Function.update_self, queue]
        exact List.mem_append_right before List.mem_cons_self
      have unready : (system.tiles pTile).status ≠ 0 := waiting_status _ _
        (checked_now known base system _ held setting books pTile (books.listed dmaChannel pTile waits)).fits
        (books.asked dmaChannel pTile waits).2
      rw [queue] at front
      split
      case isTrue stops =>
        refine iff_of_false unready fun all => (stops_iff system seen pTile1).mp stops (all pTile1 ?_)
        cases before with
        | nil => exact (List.cons.inj front).1 ▸ List.mem_singleton.mpr rfl
        | cons first rest => exact (List.cons.inj front).1 ▸ List.mem_cons_self
      case isFalse proceeds =>
        have done : Past system seen pTile1 := by
          rw [stops_iff, not_not] at proceeds
          exact proceeds
        have finished := finish_next_finished known base system _ held setting books dmaChannel pTile1 _ head
        have single := books.single dmaChannel
        rw [Function.update_self, queue] at single
        cases before with
        | nil =>
            obtain ⟨rfl, -⟩ := List.cons.inj front
            rw [if_pos rfl]
            refine iff_of_true finished.ready.1 fun tile listed => ?_
            rw [List.nil_append, List.mem_singleton] at listed
            exact listed ▸ done
        | cons first rest =>
            obtain ⟨rfl, tail⟩ := List.cons.inj front
            have unlike : first ≠ pTile := by
              rintro rfl
              exact (List.nodup_cons.mp single).1 (List.mem_append_right rest List.mem_cons_self)
            have stepped := finish_next_step known base system _ held setting books pictures dmaChannel first _ head seen (same ▸ past) done
            rw [Function.update_idem] at stepped
            rw [if_neg unlike, ih (loopInd + 1) (by omega) (finishNext system first) _ (finished.channels ▸ same) stepped.1 stepped.2 rest
              tail.symm, List.cons_append, List.forall_mem_cons]
            refine ⟨fun all => ⟨done, fun tile listed => ?_⟩, fun all tile listed => ?_⟩
            · have other : tile ≠ first := by
                rintro rfl
                exact (List.nodup_cons.mp single).1 ((List.append_cons rest pTile after ▸ List.mem_append_left after) listed)
              obtain ⟨status, -, place⟩ := finished.others tile other
              have reached := all tile listed
              rwa [Past, status, place] at reached
            · have other : tile ≠ first := by
                rintro rfl
                exact (List.nodup_cons.mp single).1 ((List.append_cons rest pTile after ▸ List.mem_append_left after) listed)
              obtain ⟨status, -, place⟩ := finished.others tile other
              rw [Past, status, place]
              exact all.2 tile listed

end Loop

def pendingOf (system : TileSystem) (channel : Nat) : List Nat := (system.channels channel).pending

section Check

variable (known : Nat → Prop) (base system : TileSystem) (held : Nat → Bool) (setting : Setting known base)
  (books : Books known base system (pendingOf system) held) (pictures : Pictures known base system (pendingOf system) held)

include books pictures

theorem told_kept (error : XvError) : Books known base { system with errFlag := error } (pendingOf system) held ∧
    Pictures known base { system with errFlag := error } (pendingOf system) held :=
  ⟨books_kept known base system _ _ held rfl (fun _ => rfl) (fun _ => rfl) rfl rfl books,
    pictures_kept known base system _ _ held rfl (fun _ => rfl) rfl pictures⟩

omit books pictures in
-- The queue of a channel is put back without its first tiles.
theorem queue_kept (last : TileSystem) (dmaChannel index done : Nat) (channels : last.channels = system.channels)
    (next : index % maxNumDmaQueueLength = ((system.channels dmaChannel).tileDMAstartIndex + done) % maxNumDmaQueueLength ∨
      done = (system.channels dmaChannel).tileDMApendingCount)
    (books : Books known base last (Function.update (pendingOf system) dmaChannel ((system.channels dmaChannel).pending.drop done)) held)
    (pictures : Pictures known base last (Function.update (pendingOf system) dmaChannel ((system.channels dmaChannel).pending.drop done)) held) :
    let ended := { last with channels := Function.update last.channels dmaChannel { system.channels dmaChannel with
      tileDMAstartIndex := index, tileDMApendingCount := (system.channels dmaChannel).tileDMApendingCount - done } }
    Books known base ended (pendingOf ended) held ∧ Pictures known base ended (pendingOf ended) held := by
  intro ended
  have queues : pendingOf ended = Function.update (pendingOf system) dmaChannel ((system.channels dmaChannel).pending.drop done) := by
    funext channel
    by_cases here : channel = dmaChannel
    · subst here
      simp only [pendingOf, ended, Function.update_self]
      exact pending_after _ index done next
    · simp only [pendingOf, ended, channels, Function.update_of_ne here]
  have same (channel : Nat) : (ended.channels channel).outstanding = (last.channels channel).outstanding := by
    by_cases here : channel = dmaChannel
    · subst here
      simp only [ended, Function.update_self, channels]
    · simp only [ended, Function.update_of_ne here]
  have indices (channel : Nat) : (ended.channels channel).nextIndex = (last.channels channel).nextIndex := by
    by_cases here : channel = dmaChannel
    · subst here
      simp only [ended, Function.update_self, channels]
    · simp only [ended, Function.update_of_ne here]
  rw [queues]
  exact ⟨books_kept known base last ended _ held rfl same indices rfl rfl books, pictures_kept known base last ended _ held rfl same rfl pictures⟩

include setting

-- A check finishes the first tiles of the queue of its channel.
theorem check_step (dmaChannel pTile seen : Nat) (past : ∀ entry ∈ (system.channels dmaChannel).outstanding, seen ≤ entry.1) :
    Books known base (xvCheckTileReadyMultiChannel system dmaChannel pTile seen).1
        (pendingOf (xvCheckTileReadyMultiChannel system dmaChannel pTile seen).1) held ∧
      Pictures known base (xvCheckTileReadyMultiChannel system dmaChannel pTile seen).1
        (pendingOf (xvCheckTileReadyMultiChannel system dmaChannel pTile seen).1) held := by
  rw [xvCheckTileReadyMultiChannel]
  split
  · exact told_kept known base system held books pictures _
  · split
    · exact told_kept known base system held books pictures _
    · obtain ⟨toldBooks, toldPictures⟩ := told_kept known base system held books pictures .success
      have whole : Function.update (pendingOf system) dmaChannel ((system.channels dmaChannel).pending.drop 0) = pendingOf system :=
        Function.update_eq_self dmaChannel (pendingOf system)
      obtain ⟨last, index, done, ran, -, channels, next, laterBooks, laterPictures⟩ :=
        check_loop_step (system.channels dmaChannel) known base (pendingOf system) held setting dmaChannel pTile seen _ 0 (Nat.zero_add _)
          { system with errFlag := .success } (system.channels dmaChannel).tileDMAstartIndex rfl past (by rw [whole]; exact toldBooks)
          (by rw [whole]; exact toldPictures)
      simp only [ran]
      exact queue_kept known base system held last dmaChannel index done channels next laterBooks laterPictures

end Check

end CsiDsp.Tiles
