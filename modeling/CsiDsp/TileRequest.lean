import CsiDsp.TileSteps

set_option autoImplicit false

-- What a request does to the tiles and to the queue of its channel.
namespace CsiDsp.Tiles

open CInt Raster

theorem queue_pending (channel : TileChannel) (pTile : Nat) (transfers : List Transfer)
    (room : channel.tileDMApendingCount < maxNumDmaQueueLength) :
    (channel.queueTile pTile transfers).pending = channel.pending ++ [pTile] := by
  simp only [TileChannel.pending, TileChannel.queueTile, List.range_succ, List.map_append, List.map_cons, List.map_nil, Function.update_self]
  congr 1
  refine List.map_congr_left fun place listed => ?_
  have earlier := List.mem_range.mp listed
  refine Function.update_of_ne ?_ _ _
  simp only [maxNumDmaQueueLength] at room ⊢
  omega

theorem queue_entries (channel : TileChannel) (pTile : Nat) (transfers : List Transfer) (entry : Nat × Transfer)
    (listed : entry ∈ (channel.queueTile pTile transfers).outstanding) : entry ∈ channel.outstanding ∨
      entry.2 ∈ transfers ∧ entry.1 < channel.nextIndex + transfers.length := by
  refine (List.mem_append.mp listed).imp_right fun added => ?_
  obtain ⟨place, below, same⟩ := List.mem_mapIdx.mp added
  subst same
  exact ⟨List.getElem_mem below, by simp only; omega⟩

theorem queue_copies (channel : TileChannel) (pTile : Nat) (transfers : List Transfer) :
    (channel.queueTile pTile transfers).copies = channel.copies ++ transfers := by
  rw [TileChannel.copies, TileChannel.queueTile, List.map_append]
  congr 1
  refine List.ext_getElem (by simp) fun place first second => ?_
  simp

structure Asked (frame : XvFrame) (system next : TileSystem) (dmaChannel pTile : Nat) (prev : Option Nat) (transfers : List Transfer) :
    Prop where
  dram : next.dram = system.dram
  frames : next.frames = system.frames
  mem : next.mem = system.mem
  channels : next.channels = Function.update system.channels dmaChannel ((system.channels dmaChannel).queueTile pTile transfers)
  places : ∀ other, (next.tiles other).place = (system.tiles other).place
  waiting : Waiting frame (next.tiles pTile)
  link : (next.tiles pTile).pPrevTile = prev
  index : transfers ≠ [] → (next.tiles pTile).dmaIndex = (system.channels dmaChannel).nextIndex + transfers.length - 1
  others : ∀ other, other ≠ pTile → (next.tiles other).status = (system.tiles other).status ∧
    (next.tiles other).pPrevTile = (system.tiles other).pPrevTile ∧ (next.tiles other).dmaIndex = (system.tiles other).dmaIndex
  counts : ∀ other, (next.tiles other).reuseCount = (system.tiles other).reuseCount + if prev = some other then 1 else 0

section Idle

variable (known : Nat → Prop) (base system : TileSystem) (pending : Nat → List Nat) (held : Nat → Bool) (setting : Setting known base)
  (books : Books known base system pending held) (pTile : Nat)

include books

include setting in
theorem ready_idle (ready : (system.tiles pTile).status = 0) (channel : Nat) : pTile ∉ pending channel := fun waits =>
  waiting_status _ _ (checked_now known base system pending held setting books pTile (books.listed channel pTile waits)).fits
    (books.asked channel pTile waits).2 ready

theorem free_unread (here : known pTile) (free : (system.tiles pTile).reuseCount = 0) (other : Nat) (knownOther : known other) :
    (system.tiles other).pPrevTile ≠ some pTile := by
  obtain ⟨readers, count, reads⟩ := books.readers pTile here
  have empty : readers = ∅ := Finset.card_eq_zero.mp (by omega)
  intro linked
  have reader := (reads other).mpr ⟨knownOther, linked⟩
  rw [empty] at reader
  exact absurd reader (Finset.notMem_empty other)

end Idle

section Asked

variable (known : Nat → Prop) (base system next : TileSystem) (pending : Nat → List Nat) (held : Nat → Bool)
  (setting : Setting known base) (books : Books known base system pending held)
  (pictures : Pictures known base system pending held) (dmaChannel pTile : Nat) (here : known pTile)
  (idle : ∀ channel, pTile ∉ pending channel) (prev : Option Nat) (transfers : List Transfer)
  (asked : Asked (base.frameAt pTile) system next dmaChannel pTile prev transfers)
  (lends : ∀ before, prev = some before → Lends known base pending held dmaChannel pTile before)

theorem waits_now (channel other : Nat) :
    other ∈ Function.update pending dmaChannel (pending dmaChannel ++ [pTile]) channel ↔
      other ∈ pending channel ∨ other = pTile ∧ channel = dmaChannel := by
  by_cases same : channel = dmaChannel
  · subst same
    simp
  · simp [same]

include books here idle asked lends

theorem asked_books (free : (system.tiles pTile).reuseCount = 0)
    (copied : transfers ≠ [] → (core (base.frameAt pTile) (system.tiles pTile)).Filled ∧
      CoreCopies (base.frameAt pTile) (system.tiles pTile) (prev.map system.tiles) transfers)
    (some_ : (core (base.frameAt pTile) (system.tiles pTile)).Filled → transfers ≠ [])
    (unit : 0 < (tilePlane (base.frameAt pTile) (system.tiles pTile)).unit) :
    Books known base next (Function.update pending dmaChannel (pending dmaChannel ++ [pTile])) (Function.update held pTile true) := by
  have unread := free_unread known base system pending held books pTile here free
  have heldNow (other : Nat) (wanted : held other = true) : Function.update held pTile true other = true := by
    by_cases same : other = pTile
    · subst same
      exact Function.update_self ..
    · rw [Function.update_of_ne same]
      exact wanted
  have unlike (channel other : Nat) (waits : other ∈ pending channel) : other ≠ pTile := by
    rintro rfl
    exact idle channel waits
  refine ⟨asked.dram.trans books.dram, asked.frames.trans books.frames, ?_, ?_, ?_, ?_, ?_, ?_, ?_, ?_, ?_, ?_⟩
  · intro other
    exact (shape_of_place _ _ (asked.places other)).trans (books.shapes other)
  · intro channel other waits
    rcases (waits_now pending dmaChannel pTile channel other).mp waits with before | ⟨rfl, -⟩
    · exact books.listed channel other before
    · exact here
  · intro channel
    by_cases same : channel = dmaChannel
    · subst same
      rw [Function.update_self, List.nodup_append]
      refine ⟨books.single channel, List.nodup_singleton pTile, fun other waits last listed => ?_⟩
      rw [List.mem_singleton] at listed
      exact listed ▸ unlike channel other waits
    · rw [Function.update_of_ne same]
      exact books.single channel
  · intro channel second other waits again
    rcases (waits_now pending dmaChannel pTile channel other).mp waits with first | ⟨rfl, rfl⟩
    · rcases (waits_now pending dmaChannel pTile second other).mp again with last | ⟨rfl, -⟩
      · exact books.apart channel second other first last
      · exact absurd first (idle channel)
    · rcases (waits_now pending channel other second other).mp again with last | ⟨-, rfl⟩
      · exact absurd last (idle second)
      · rfl
  · intro other knownOther ready
    have absent (channel : Nat) : other ∉ pending channel := fun waits =>
      ready channel ((waits_now pending dmaChannel pTile channel other).mpr (.inl waits))
    have different : other ≠ pTile := fun same => ready dmaChannel ((waits_now pending dmaChannel pTile dmaChannel other).mpr (.inr ⟨same, rfl⟩))
    obtain ⟨status, link, -⟩ := asked.others other different
    rw [status, link]
    exact books.idle other knownOther absent
  · intro channel other waits
    rcases (waits_now pending dmaChannel pTile channel other).mp waits with before | ⟨rfl, -⟩
    · obtain ⟨status, link, -⟩ := asked.others other (unlike channel other before)
      obtain ⟨wanted, waiting⟩ := books.asked channel other before
      exact ⟨heldNow other wanted, waiting_same _ _ _ (asked.places other) status link waiting⟩
    · exact ⟨Function.update_self .., asked.waiting⟩
  · intro channel other waits before linked
    rcases (waits_now pending dmaChannel pTile channel other).mp waits with first | ⟨rfl, rfl⟩
    · obtain ⟨-, link, -⟩ := asked.others other (unlike channel other first)
      rw [link] at linked
      have given := books.source channel other first before linked
      refine ⟨given.known, given.other, heldNow before given.held, given.frame, fun second again => ?_⟩
      rcases (waits_now pending dmaChannel pTile second before).mp again with last | ⟨rfl, -⟩
      · exact given.busy second last
      · exact absurd linked (unread other (books.listed channel other first))
    · rw [asked.link] at linked
      have given := lends before linked
      refine ⟨given.known, given.other, heldNow before given.held, given.frame, fun second again => ?_⟩
      exact given.busy second (((waits_now pending channel other second before).mp again).resolve_right fun last => given.other last.1)
  · intro before knownBefore
    obtain ⟨readers, count, reads⟩ := books.readers before knownBefore
    have alone := (books.idle pTile here idle).2
    have absent : pTile ∉ readers := fun reader => by
      have linked := ((reads pTile).mp reader).2
      rw [alone] at linked
      cases linked
    by_cases linked : prev = some before
    · refine ⟨insert pTile readers, ?_, fun other => ?_⟩
      · rw [asked.counts before, count, if_pos linked, Finset.card_insert_of_notMem absent]
        omega
      · rw [Finset.mem_insert, reads other]
        by_cases same : other = pTile
        · subst same
          simp [asked.link, linked, here]
        · simp [(asked.others other same).2.1, same]
    · refine ⟨readers, ?_, fun other => ?_⟩
      · rw [asked.counts before, count, if_neg linked, add_zero]
      · rw [reads other]
        by_cases same : other = pTile
        · subst same
          simp [asked.link, linked, alone]
        · rw [(asked.others other same).2.1]
  · intro channel entry listed
    have old (second : Nat) (inQueue : entry ∈ (system.channels second).outstanding) :
        ∃ owner ∈ Function.update pending dmaChannel (pending dmaChannel ++ [pTile]) second, Serves base next.tiles owner entry := by
      obtain ⟨owner, waits, serves⟩ := books.entries second entry inQueue
      obtain ⟨-, link, index⟩ := asked.others owner (unlike second owner waits)
      exact ⟨owner, (waits_now pending dmaChannel pTile second owner).mpr (.inl waits),
        serves_same base system.tiles next.tiles asked.places owner entry link index serves⟩
    rw [asked.channels] at listed
    by_cases same : channel = dmaChannel
    · subst same
      rw [Function.update_self] at listed
      rcases queue_entries _ pTile transfers entry listed with before | ⟨added, below⟩
      · exact old channel before
      · have given : transfers ≠ [] := List.ne_nil_of_mem added
        obtain ⟨filled, pieces⟩ := copied given
        have plane (tile : Nat) (frame : XvFrame) := plane_place frame _ _ (asked.places tile)
        have box (tile : Nat) (frame : XvFrame) := core_place frame _ _ (asked.places tile)
        refine ⟨pTile, (waits_now pending channel pTile channel pTile).mpr (.inr ⟨rfl, rfl⟩), ?_, ?_, ?_, ?_⟩
        · rw [box]
          exact filled
        · rw [asked.index given]
          omega
        · intro addr written
          rw [plane, box]
          exact copies_write _ _ _ transfers pieces unit entry.2 added addr written
        · intro addr read
          refine (copies_read _ _ _ transfers pieces unit entry.2 added addr read).imp_right fun ⟨tile, given, covered⟩ => ?_
          obtain ⟨before, linked, rfl⟩ := Option.map_eq_some_iff.mp given
          refine ⟨before, asked.link.trans linked, ?_⟩
          rw [plane, box, (lends before linked).frame]
          exact covered
    · rw [Function.update_of_ne same] at listed
      exact old channel listed
  · intro channel other waits filled
    rw [core_place _ _ _ (asked.places other)] at filled
    rw [asked.channels]
    rcases (waits_now pending dmaChannel pTile channel other).mp waits with before | ⟨rfl, rfl⟩
    · rw [(asked.others other (unlike channel other before)).2.2]
      have below := books.numbered channel other before filled
      by_cases same : channel = dmaChannel
      · subst same
        rw [Function.update_self, TileChannel.queueTile]
        simp only
        omega
      · rw [Function.update_of_ne same]
        exact below
    · rw [Function.update_self, asked.index (some_ filled), TileChannel.queueTile]
      simp only
      omega

include setting pictures

omit idle asked in
-- What the queue of the channel leads up to shows the frame and the tile that
-- is used again, so the new copies take the right pixels.
theorem asked_shown (pieces : CoreCopies (base.frameAt pTile) (system.tiles pTile) (prev.map system.tiles) transfers) :
    Shows (performAll (system.eager dmaChannel) transfers) (tilePlane (base.frameAt pTile) (system.tiles pTile))
      (core (base.frameAt pTile) (system.tiles pTile)).Has (frameView (base.frameAt pTile) base.mem) := by
  have checked := checked_now known base system pending held setting books pTile here
  have buffer := buffer_now known base system pending held books pTile
  refine copies_show base.dram _ _ _ transfers pieces checked base.mem (system.eager dmaChannel) ?_ ?_ ?_ ?_
  · intro y x byte has low high
    have covered : (framePlane (base.frameAt pTile)).Covers (frameBox (base.frameAt pTile)) ((framePlane (base.frameAt pTile)).addr y x byte) :=
      ⟨y, x, byte, has, ⟨low, high⟩, rfl⟩
    have apart (other : Nat) (knownOther : known other) := setting.frames pTile other here knownOther _ covered
    rw [TileSystem.eager, copies_elsewhere known base system pending held setting books dmaChannel system.mem _
      fun other waits => apart other (books.listed dmaChannel other waits)]
    exact pictures.outside _ apart
  · exact fun addr covered inBuffer => setting.frames pTile pTile here here addr covered ((buffer addr).mp inBuffer)
  · intro tile given
    obtain ⟨before, linked, rfl⟩ := Option.map_eq_some_iff.mp given
    have lent := lends before linked
    rw [← lent.frame]
    by_cases waits : before ∈ pending dmaChannel
    · exact pictures.cores dmaChannel before waits
    · have ready (channel : Nat) : before ∉ pending channel := fun listed => waits (lent.busy channel listed ▸ listed)
      refine shows_congr _ _ _ _ _ (idle_core known base system pending held pictures before lent.known lent.held ready) ?_
      intro y x byte has low high
      refine copies_elsewhere known base system pending held setting books dmaChannel system.mem _ fun other listed inBuffer => ?_
      have different : before ≠ other := by
        rintro rfl
        exact waits listed
      exact setting.buffers before other lent.known (books.listed dmaChannel other listed) different _
        (core_in_buffer known base system pending held setting books before lent.known _ ⟨y, x, byte, has, ⟨low, high⟩, rfl⟩) inBuffer
  · intro tile given addr covered inBuffer
    obtain ⟨before, linked, rfl⟩ := Option.map_eq_some_iff.mp given
    have lent := lends before linked
    rw [← lent.frame] at covered
    exact setting.buffers before pTile lent.known here lent.other addr
      (core_in_buffer known base system pending held setting books before lent.known addr covered) ((buffer addr).mp inBuffer)

theorem asked_pictures
    (copied : (core (base.frameAt pTile) (system.tiles pTile)).Filled →
      CoreCopies (base.frameAt pTile) (system.tiles pTile) (prev.map system.tiles) transfers)
    (written : ∀ transfer ∈ transfers, ∀ addr, transfer.Writes addr → InBuffer (base.tiles pTile) addr) :
    Pictures known base next (Function.update pending dmaChannel (pending dmaChannel ++ [pTile])) (Function.update held pTile true) := by
  have plane (tile : Nat) (frame : XvFrame) := plane_place frame _ _ (asked.places tile)
  have middle (tile : Nat) (frame : XvFrame) := core_place frame _ _ (asked.places tile)
  have box (tile : Nat) := box_place _ _ (asked.places tile)
  refine ⟨asked.mem ▸ pictures.outside, ?_, ?_⟩
  · intro channel other waits
    rw [TileSystem.eager, asked.channels, asked.mem, plane, middle]
    by_cases same : channel = dmaChannel
    · subst same
      rw [Function.update_self, queue_copies, perform_all_append]
      rcases (waits_now pending channel pTile channel other).mp waits with before | ⟨rfl, -⟩
      · refine shows_congr _ _ _ _ _ (pictures.cores channel other before) fun y x byte has low high => ?_
        refine perform_all_outside _ transfers _ fun transfer listed reached => ?_
        have different : other ≠ pTile := by
          rintro rfl
          exact idle channel before
        have knownOther := books.listed channel other before
        exact setting.buffers other pTile knownOther here different _
          (core_in_buffer known base system pending held setting books other knownOther _ ⟨y, x, byte, has, ⟨low, high⟩, rfl⟩)
          (written transfer listed _ reached)
      · intro y x byte has
        exact asked_shown known base system pending held setting books pictures channel other here prev transfers lends
          (copied (has_filled _ y x has)) y x byte has
    · rw [Function.update_of_ne same]
      refine pictures.cores channel other (((waits_now pending dmaChannel pTile channel other).mp waits).resolve_right fun now => same now.2)
  · intro other knownOther wanted ready painted
    have different : other ≠ pTile := fun same => ready dmaChannel ((waits_now pending dmaChannel pTile dmaChannel other).mpr (.inr ⟨same, rfl⟩))
    rw [Function.update_of_ne different] at wanted
    rw [plane, box, asked.mem]
    rw [middle] at painted
    exact pictures.full other knownOther wanted
      (fun channel waits => ready channel ((waits_now pending dmaChannel pTile channel other).mpr (.inl waits))) painted

end Asked

theorem check_transfer_frame (dram : Dram) (tile : XvTile) (frames : Nat → XvFrame) (interruptOnCompletion : Int) (frame : XvFrame)
    (passed : checkTransfer dram tile frames interruptOnCompletion = .ok frame) : frame = frames (tile.pFrame.getD 0) := by
  rw [checkTransfer] at passed
  split at passed
  · cases passed
  · split at passed
    · cases passed
    · split at passed
      · cases passed
      case h_2 pFrame pointer =>
        simp only at passed
        split at passed
        · cases passed
        · split at passed
          · cases passed
          · split at passed
            · cases passed
            · cases passed
              rw [pointer]
              rfl

theorem without_prev (tile : XvTile) (alone : tile.pPrevTile = none) : { tile with pPrevTile := none } = tile := by
  obtain ⟨⟩ := tile
  cases alone
  rfl

theorem without_readers (tile : XvTile) (alone : tile.pPrevTile = none) (free : tile.reuseCount = 0) :
    { tile with pPrevTile := none, reuseCount := 0 } = tile := by
  obtain ⟨⟩ := tile
  cases alone
  cases free
  rfl

section Outcome

variable (system : TileSystem) (dmaChannel pTile : Nat)

-- A tile whose link was set is put into the queue.
theorem ask_asked (frame : XvFrame) (middle : TileSystem) (prev : Option Nat) (transfers : List Transfer) (status : BitVec 32)
    (dram : middle.dram = system.dram) (frames : middle.frames = system.frames) (mem : middle.mem = system.mem)
    (channels : middle.channels = system.channels) (tiles : ∀ other, middle.tiles other = { system.tiles other with
      pPrevTile := if other = pTile then prev else (system.tiles other).pPrevTile
      reuseCount := (system.tiles other).reuseCount + if prev = some other then 1 else 0 })
    (waiting : ∀ dmaIndex reuseCount, Waiting frame { system.tiles pTile with
      status := status ||| statusDmaOngoing, dmaIndex := dmaIndex, reuseCount := reuseCount, pPrevTile := prev }) :
    Asked frame system (middle.ask dmaChannel pTile transfers status) dmaChannel pTile prev transfers := by
  have own : ((middle.ask dmaChannel pTile transfers status).tiles pTile) = { system.tiles pTile with
      status := status ||| statusDmaOngoing
      dmaIndex := if transfers = [] then xvtmDummyDmaIndex else (system.channels dmaChannel).nextIndex + transfers.length - 1
      reuseCount := (system.tiles pTile).reuseCount + if prev = some pTile then 1 else 0
      pPrevTile := prev } := by
    simp only [TileSystem.ask, TileSystem.setTile, Function.update_self, tiles pTile, if_true, channels, TileChannel.queueTile, Nat.cast_add]
  have kept (other : Nat) (unlike : other ≠ pTile) : (middle.ask dmaChannel pTile transfers status).tiles other =
      { system.tiles other with reuseCount := (system.tiles other).reuseCount + if prev = some other then 1 else 0 } := by
    simp only [TileSystem.ask, TileSystem.setTile, Function.update_of_ne unlike, tiles other, if_neg unlike]
  refine ⟨dram, frames, mem, by rw [← channels]; rfl, fun other => ?_, ?_, ?_, fun some_ => ?_, fun other unlike => ?_, fun other => ?_⟩
  · by_cases same : other = pTile
    · subst same
      rw [own]
      rfl
    · rw [kept other same]
      rfl
  · rw [own]
    exact waiting _ _
  · rw [own]
  · rw [own]
    simp only [if_neg some_]
  · rw [kept other unlike]
    exact ⟨rfl, rfl, rfl⟩
  · by_cases same : other = pTile
    · subst same
      rw [own]
    · rw [kept other same]

structure Accepted (next : TileSystem) (pPrevTile prev : Option Nat) (transfers : List Transfer) : Prop where
  asked : Asked (system.frameAt pTile) system next dmaChannel pTile prev transfers
  chosen : prev = none ∨ prev = pPrevTile
  some_ : transfers ≠ [] → (core (system.frameAt pTile) (system.tiles pTile)).Filled
  copied : (core (system.frameAt pTile) (system.tiles pTile)).Filled →
    CoreCopies (system.frameAt pTile) (system.tiles pTile) (prev.map system.tiles) transfers

variable (ready : (system.tiles pTile).status = 0) (alone : (system.tiles pTile).pPrevTile = none)
  (free : (system.tiles pTile).reuseCount = 0) (fits : TileFits (system.frameAt pTile) (system.tiles pTile)) (pPrevTile : Option Nat)
  (prevFits : ∀ before, pPrevTile = some before → before ≠ pTile ∧ TileFits (system.frameAt pTile) (system.tiles before))

include ready alone free fits prevFits

-- A request is refused, and then only the error flag is set, or it is accepted.
theorem request_cases (interruptOnCompletion : Int) :
    (∃ error, xvReqTileTransferInMultiChannel system dmaChannel pTile pPrevTile interruptOnCompletion =
      ({ system with errFlag := error }, xvtmError)) ∨
    ∃ next prev transfers, xvReqTileTransferInMultiChannel system dmaChannel pTile pPrevTile interruptOnCompletion = (next, xvtmSuccess) ∧
      Accepted system dmaChannel pTile next pPrevTile prev transfers := by
  have fresh := without_readers (system.tiles pTile) alone free
  have unchanged : system.setTile pTile (system.tiles pTile) = system := by
    rw [TileSystem.setTile, Function.update_eq_self]
  have sizes := sizes_positive (system.frameAt pTile) (system.tiles pTile) fits
  have whole (filled : (core (system.frameAt pTile) (system.tiles pTile)).Filled) : Accepted system dmaChannel pTile
      (TileSystem.ask { system with errFlag := .success } dmaChannel pTile [wholeTransfer (system.frameAt pTile) (system.tiles pTile)]
        (0 ||| paddingFlags (clipRows (system.frameAt pTile) (system.tiles pTile)) (clipColumns (system.frameAt pTile) (system.tiles pTile))))
      pPrevTile none [wholeTransfer (system.frameAt pTile) (system.tiles pTile)] := by
    refine ⟨ask_asked system dmaChannel pTile _ _ none _ _ rfl rfl rfl rfl (fun other => ?_) fun dmaIndex reuseCount => ?_, .inl rfl,
      fun _ => filled, fun _ => whole_copies _ _ fits filled _⟩
    · by_cases same : other = pTile
      · subst same
        simp [without_prev _ alone]
      · simp [same]
    · exact .copied filled (congrArg (· ||| statusDmaOngoing) BitVec.zero_or)
  rw [xvReqTileTransferInMultiChannel]
  cases checks : checkTransfer system.dram (system.tiles pTile) system.frames interruptOnCompletion with
  | error error => exact .inl ⟨error, rfl⟩
  | ok frame =>
      obtain rfl : frame = system.frameAt pTile := check_transfer_frame _ _ _ _ _ checks
      simp only [fresh, unchanged]
      rw [ready]
      split
      case isTrue positive =>
        have filled := sizes.mp positive
        cases pPrevTile with
        | none => exact .inr ⟨_, _, _, rfl, whole filled⟩
        | some before =>
            obtain ⟨unlike, beforeFits⟩ := prevFits before rfl
            simp only
            split
            · exact .inl ⟨_, rfl⟩
            · split
              · exact .inr ⟨_, _, _, rfl, whole filled⟩
              case isFalse dependent =>
                refine .inr ⟨_, some before, _, rfl, ?_, .inr rfl, fun _ => filled, fun _ =>
                  reuse_copies _ _ _ fits filled beforeFits (Bool.eq_false_iff.mpr dependent)⟩
                refine ask_asked system dmaChannel pTile _ _ (some before) _ _ rfl rfl rfl rfl (fun other => ?_) fun _ _ => ?_
                · by_cases same : other = pTile
                  · subst same
                    simp [TileSystem.setTile, Function.update_of_ne unlike.symm, unlike, ready, free]
                  · by_cases lent : other = before
                    · subst lent
                      simp [TileSystem.setTile, same]
                    · simp [TileSystem.setTile, same, lent, Ne.symm lent]
                · exact .copied filled (congrArg (· ||| statusDmaOngoing) BitVec.zero_or)
      case isFalse none_ =>
        have empty := mt sizes.mpr none_
        refine .inr ⟨_, none, [], rfl, ?_, .inl rfl, fun some_ => absurd rfl some_, fun filled => absurd filled empty⟩
        refine ask_asked system dmaChannel pTile _ _ none _ _ rfl rfl rfl rfl (fun other => ?_) fun _ _ => ?_
        · by_cases same : other = pTile
          · subst same
            simp [without_prev _ alone]
          · simp [same]
        · exact .dummy empty (congrArg (· ||| statusDummyIdmaIndexNeeded ||| statusDmaOngoing) BitVec.zero_or) rfl

end Outcome

section Request

variable (known : Nat → Prop) (base system : TileSystem) (held : Nat → Bool) (setting : Setting known base)
  (books : Books known base system (pendingOf system) held) (pictures : Pictures known base system (pendingOf system) held)

include setting books pictures

theorem request_step (dmaChannel pTile : Nat) (pPrevTile : Option Nat) (interruptOnCompletion : Int)
    (allowed : Allowed known ⟨system, held⟩ (.request dmaChannel pTile pPrevTile interruptOnCompletion)) (next : TileSystem) (result : Int)
    (ran : xvReqTileTransferInMultiChannel system dmaChannel pTile pPrevTile interruptOnCompletion = (next, result)) :
    Books known base next (pendingOf next) (if result = xvtmSuccess then Function.update held pTile true else held) ∧
      Pictures known base next (pendingOf next) (if result = xvtmSuccess then Function.update held pTile true else held) := by
  obtain ⟨here, ready, free, -, room, lent⟩ := allowed
  have idle := ready_idle known base system (pendingOf system) held setting books pTile ready
  have alone := (books.idle pTile here idle).2
  have frame := frame_now known base system (pendingOf system) held books
  have checked := checked_now known base system (pendingOf system) held setting books
  have sameFrame (before : Nat) (pointer : (system.tiles before).pFrame = (system.tiles pTile).pFrame) :
      base.frameAt before = base.frameAt pTile := by
    rw [← frame before, ← frame pTile, TileSystem.frameAt, TileSystem.frameAt, TileSystem.frameOf, TileSystem.frameOf, pointer]
  have prevFits (before : Nat) (given : pPrevTile = some before) :
      before ≠ pTile ∧ TileFits (system.frameAt pTile) (system.tiles before) := by
    obtain ⟨knownBefore, unlike, -, pointer, -⟩ := lent before given
    rw [frame, ← sameFrame before pointer]
    exact ⟨unlike, (checked before knownBefore).fits⟩
  have fits := (checked pTile here).fits
  rw [← frame] at fits
  rcases request_cases system dmaChannel pTile ready alone free fits pPrevTile prevFits interruptOnCompletion with
    ⟨error, same⟩ | ⟨after, prev, transfers, same, accepted⟩
  · obtain ⟨rfl, rfl⟩ := Prod.mk.inj (ran.symm.trans same)
    rw [if_neg (by decide)]
    exact told_kept known base system held books pictures error
  · obtain ⟨rfl, rfl⟩ := Prod.mk.inj (ran.symm.trans same)
    obtain ⟨asked, chosen, some_, copied⟩ := accepted
    rw [frame] at asked some_ copied
    have lends (before : Nat) (linked : prev = some before) : Lends known base (pendingOf system) held dmaChannel pTile before := by
      have given : pPrevTile = some before := by
        rcases chosen with none_ | given
        · rw [none_] at linked
          cases linked
        · exact given ▸ linked
      obtain ⟨knownBefore, unlike, wanted, pointer, busy⟩ := lent before given
      exact ⟨knownBefore, unlike, wanted, sameFrame before pointer, busy⟩
    have queues : pendingOf next = Function.update (pendingOf system) dmaChannel (pendingOf system dmaChannel ++ [pTile]) := by
      funext channel
      rw [pendingOf, asked.channels]
      by_cases same : channel = dmaChannel
      · subst same
        rw [Function.update_self, Function.update_self, queue_pending _ _ _ room]
        rfl
      · rw [Function.update_of_ne same, Function.update_of_ne same]
        rfl
    have unit := (tile_unit _ _ (checked pTile here).fits).1
    rw [if_pos rfl, queues]
    constructor
    · exact asked_books known base system next (pendingOf system) held books dmaChannel pTile here idle prev transfers asked lends free
        (fun given => ⟨some_ given, copied (some_ given)⟩) (fun filled => copies_some _ _ _ _ (copied filled) filled) unit
    · refine asked_pictures known base system next (pendingOf system) held setting books pictures dmaChannel pTile here idle prev transfers asked
        lends copied fun transfer listed addr written => ?_
      have filled := some_ (List.ne_nil_of_mem listed)
      exact core_in_buffer known base system (pendingOf system) held setting books pTile here addr
        (copies_write _ _ _ transfers (copied filled) unit transfer listed addr written)

end Request

end CsiDsp.Tiles
