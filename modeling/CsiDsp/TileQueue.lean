import CsiDsp.Base.Runs
import CsiDsp.TileContent
import Mathlib.Data.Finset.Card

set_option autoImplicit false

-- The tiles on their way over all channels.
namespace CsiDsp.Tiles

open CInt Raster

instance (tile : XvTile) (addr : Int) : Decidable (InBuffer tile addr) := inferInstanceAs (Decidable (_ ∧ _))

-- What happens to the tiles: a request, a copy done by the engine of a channel,
-- a check, and the program moving a tile or working on its pixels.
inductive TileEvent where
  | request (dmaChannel pTile : Nat) (pPrevTile : Option Nat) (interruptOnCompletion : Int)
  | complete (dmaChannel : Nat)
  | check (dmaChannel pTile seen : Nat)
  | move (pTile : Nat) (x y : Int)
  | work (pTile : Nat) (bytes : Memory)

-- With the tiles that were asked for since the program last touched them.
structure TileRun where
  system : TileSystem
  held : Nat → Bool

def completeCopy (system : TileSystem) (dmaChannel : Nat) : Option TileSystem :=
  match (system.channels dmaChannel).outstanding with
  | [] => none
  | entry :: rest => some { system with
      mem := entry.2.perform system.mem
      channels := Function.update system.channels dmaChannel { system.channels dmaChannel with outstanding := rest } }

def moveTile (system : TileSystem) (pTile : Nat) (x y : Int) : TileSystem :=
  system.setTile pTile { system.tiles pTile with x := x, y := y }

def workOn (system : TileSystem) (pTile : Nat) (bytes : Memory) : TileSystem :=
  { system with mem := fun addr => if InBuffer (system.tiles pTile) addr then bytes addr else system.mem addr }

def tileStep (state : TileRun) : TileEvent → Option TileRun
  | .request dmaChannel pTile pPrevTile interruptOnCompletion =>
      let asked := xvReqTileTransferInMultiChannel state.system dmaChannel pTile pPrevTile interruptOnCompletion
      some ⟨asked.1, if asked.2 = xvtmSuccess then Function.update state.held pTile true else state.held⟩
  | .complete dmaChannel => (completeCopy state.system dmaChannel).map fun next => ⟨next, state.held⟩
  | .check dmaChannel pTile seen => some ⟨(xvCheckTileReadyMultiChannel state.system dmaChannel pTile seen).1, state.held⟩
  | .move pTile x y => some ⟨moveTile state.system pTile x y, Function.update state.held pTile false⟩
  | .work pTile bytes => some ⟨workOn state.system pTile bytes, Function.update state.held pTile false⟩

-- The tiles in the queue of a channel, the oldest first.
def TileChannel.pending (channel : TileChannel) : List Nat :=
  (List.range channel.tileDMApendingCount).map fun place =>
    channel.tileProcQueue ((channel.tileDMAstartIndex + place) % maxNumDmaQueueLength)

-- The first and the last row and column of a tile are ints.
def IntBox (tile : XvTile) : Prop :=
  (-2147483648 ≤ (tileBox tile).top ∧ (tileBox tile).bottom ≤ 2147483647) ∧
    -2147483648 ≤ (tileBox tile).left ∧ (tileBox tile).right ≤ 2147483647

instance (tile : XvTile) : Decidable (IntBox tile) := inferInstanceAs (Decidable (_ ∧ _))

-- The program asks for a tile, moves it or works on it only while it is ready
-- and free, and fills no queue over its end. It uses a tile again that it has
-- asked for, over the channel that is still busy with it, if one is. The engine
-- reports no copy before it has done all up to it.
def Allowed (known : Nat → Prop) (state : TileRun) : TileEvent → Prop
  | .request dmaChannel pTile pPrevTile _ =>
      known pTile ∧ (state.system.tiles pTile).status = 0 ∧ (state.system.tiles pTile).reuseCount = 0 ∧ IntBox (state.system.tiles pTile) ∧
        (state.system.channels dmaChannel).tileDMApendingCount < maxNumDmaQueueLength ∧
        ∀ before, pPrevTile = some before → known before ∧ before ≠ pTile ∧ state.held before = true ∧
          (state.system.tiles before).pFrame = (state.system.tiles pTile).pFrame ∧
          ∀ other, before ∈ (state.system.channels other).pending → other = dmaChannel
  | .complete _ => True
  | .check dmaChannel pTile seen => known pTile ∧ ∀ entry ∈ (state.system.channels dmaChannel).outstanding, seen ≤ entry.1
  | .move pTile _ _ | .work pTile _ =>
      known pTile ∧ (state.system.tiles pTile).status = 0 ∧ (state.system.tiles pTile).reuseCount = 0

-- The fields of a tile that no step changes, and those that the transfers leave.
def XvTile.shape (tile : XvTile) : XvTile :=
  { tile with x := 0, y := 0, status := 0, dmaIndex := 0, reuseCount := 0, pPrevTile := none }

def XvTile.place (tile : XvTile) : XvTile := { tile with status := 0, dmaIndex := 0, reuseCount := 0, pPrevTile := none }

section Shape

variable (dram : Dram) (frame : XvFrame) (tile other : XvTile)

theorem checked_shape (same : tile.shape = other.shape) (checked : Checked dram frame tile) : Checked dram frame other := by
  have shaped : Checked dram frame tile.shape := by
    obtain ⟨fits, passed, channels, res⟩ := checked
    exact ⟨⟨fits.padLeft, fits.padRight, fits.padTop, fits.padBottom, fits.frameWidth, fits.frameHeight, fits.frameRight,
      fits.frameBottom, fits.unit, fits.narrow, fits.width, fits.height, fits.rows, fits.columns, fits.buffer, fits.element, fits.pitch, fits.firstPixel, fits.lastPixel⟩, passed, channels, res⟩
  rw [same] at shaped
  obtain ⟨fits, passed, channels, res⟩ := shaped
  exact ⟨⟨fits.padLeft, fits.padRight, fits.padTop, fits.padBottom, fits.frameWidth, fits.frameHeight, fits.frameRight,
    fits.frameBottom, fits.unit, fits.narrow, fits.width, fits.height, fits.rows, fits.columns, fits.buffer, fits.element, fits.pitch, fits.firstPixel, fits.lastPixel⟩, passed, channels, res⟩

theorem in_buffer_shape (same : tile.shape = other.shape) (addr : Int) : InBuffer tile addr ↔ InBuffer other addr := by
  have shaped : InBuffer tile.shape addr ↔ InBuffer other.shape addr := by rw [same]
  exact shaped

theorem shape_of_place (same : tile.place = other.place) : tile.shape = other.shape := by
  have shaped : tile.place.shape = other.place.shape := by rw [same]
  exact shaped

variable (same : tile.place = other.place)

include same

theorem plane_place : tilePlane frame tile = tilePlane frame other := by
  have placed : tilePlane frame tile.place = tilePlane frame other.place := by rw [same]
  exact placed

theorem box_place : tileBox tile = tileBox other := by
  have placed : tileBox tile.place = tileBox other.place := by rw [same]
  exact placed

theorem core_place : core frame tile = core frame other := by
  have placed : core frame tile.place = core frame other.place := by rw [same]
  exact placed

theorem flags_place :
    paddingFlags (clipRows frame tile) (clipColumns frame tile) = paddingFlags (clipRows frame other) (clipColumns frame other) := by
  have placed : paddingFlags (clipRows frame tile.place) (clipColumns frame tile.place) =
      paddingFlags (clipRows frame other.place) (clipColumns frame other.place) := by rw [same]
  exact placed

end Shape

def TileSystem.frameAt (system : TileSystem) (pTile : Nat) : XvFrame := system.frameOf (system.tiles pTile)

def TileChannel.copies (channel : TileChannel) : List Transfer := channel.outstanding.map Prod.snd

-- The memory once a channel has done all it was asked for.
def TileSystem.eager (system : TileSystem) (dmaChannel : Nat) : Memory := performAll system.mem (system.channels dmaChannel).copies

-- Tiles that pass the checks, in buffers of their own and beside the frames.
structure Setting (known : Nat → Prop) (base : TileSystem) : Prop where
  checked : ∀ pTile, known pTile → Checked base.dram (base.frameAt pTile) (base.tiles pTile)
  buffers : ∀ pTile other, known pTile → known other → pTile ≠ other → ∀ addr, InBuffer (base.tiles pTile) addr →
    ¬ InBuffer (base.tiles other) addr
  frames : ∀ pTile other, known pTile → known other → ∀ addr,
    (framePlane (base.frameAt pTile)).Covers (frameBox (base.frameAt pTile)) addr → ¬ InBuffer (base.tiles other) addr

-- What a tile that waits in a queue carries.
inductive Waiting (frame : XvFrame) (tile : XvTile) : Prop where
  | copied (filled : (core frame tile).Filled)
      (status : tile.status = paddingFlags (clipRows frame tile) (clipColumns frame tile) ||| statusDmaOngoing)
  | dummy (empty : ¬ (core frame tile).Filled)
      (status : tile.status =
        paddingFlags (clipRows frame tile) (clipColumns frame tile) ||| statusDummyIdmaIndexNeeded ||| statusDmaOngoing)
      (alone : tile.pPrevTile = none)

-- A copy that is outstanding, for a tile in the queue of its channel.
structure Serves (base : TileSystem) (tiles : Nat → XvTile) (pTile : Nat) (entry : Nat × Transfer) : Prop where
  filled : (core (base.frameAt pTile) (tiles pTile)).Filled
  index : (entry.1 : Int) ≤ (tiles pTile).dmaIndex
  writes : ∀ addr, entry.2.Writes addr →
    (tilePlane (base.frameAt pTile) (tiles pTile)).Covers (core (base.frameAt pTile) (tiles pTile)) addr
  reads : ∀ addr, entry.2.Reads addr → (framePlane (base.frameAt pTile)).Covers (frameBox (base.frameAt pTile)) addr ∨
    ∃ before, (tiles pTile).pPrevTile = some before ∧
      (tilePlane (base.frameAt before) (tiles before)).Covers (core (base.frameAt before) (tiles before)) addr

-- A tile that is being used again.
structure Lends (known : Nat → Prop) (base : TileSystem) (pending : Nat → List Nat) (held : Nat → Bool)
    (dmaChannel pTile before : Nat) : Prop where
  known : known before
  other : before ≠ pTile
  held : held before = true
  frame : base.frameAt before = base.frameAt pTile
  busy : ∀ channel, before ∈ pending channel → channel = dmaChannel

structure Books (known : Nat → Prop) (base system : TileSystem) (pending : Nat → List Nat) (held : Nat → Bool) : Prop where
  dram : system.dram = base.dram
  frames : system.frames = base.frames
  shapes : ∀ pTile, (system.tiles pTile).shape = (base.tiles pTile).shape
  listed : ∀ channel, ∀ pTile ∈ pending channel, known pTile
  single : ∀ channel, (pending channel).Nodup
  apart : ∀ channel other pTile, pTile ∈ pending channel → pTile ∈ pending other → channel = other
  idle : ∀ pTile, known pTile → (∀ channel, pTile ∉ pending channel) →
    (system.tiles pTile).status = 0 ∧ (system.tiles pTile).pPrevTile = none
  asked : ∀ channel, ∀ pTile ∈ pending channel, held pTile = true ∧ Waiting (base.frameAt pTile) (system.tiles pTile)
  source : ∀ channel, ∀ pTile ∈ pending channel, ∀ before, (system.tiles pTile).pPrevTile = some before →
    Lends known base pending held channel pTile before
  readers : ∀ before, known before → ∃ readers : Finset Nat, (system.tiles before).reuseCount = readers.card ∧
    ∀ pTile, pTile ∈ readers ↔ known pTile ∧ (system.tiles pTile).pPrevTile = some before
  entries : ∀ channel, ∀ entry ∈ (system.channels channel).outstanding, ∃ pTile ∈ pending channel, Serves base system.tiles pTile entry
  numbered : ∀ channel, ∀ pTile ∈ pending channel, (core (base.frameAt pTile) (system.tiles pTile)).Filled →
    (system.tiles pTile).dmaIndex < (system.channels channel).nextIndex

structure Pictures (known : Nat → Prop) (base system : TileSystem) (pending : Nat → List Nat) (held : Nat → Bool) : Prop where
  outside : ∀ addr, (∀ pTile, known pTile → ¬ InBuffer (base.tiles pTile) addr) → system.mem addr = base.mem addr
  cores : ∀ channel, ∀ pTile ∈ pending channel, Shows (system.eager channel) (tilePlane (base.frameAt pTile) (system.tiles pTile))
    (core (base.frameAt pTile) (system.tiles pTile)).Has (frameView (base.frameAt pTile) base.mem)
  full : ∀ pTile, known pTile → held pTile = true → (∀ channel, pTile ∉ pending channel) →
    (core (base.frameAt pTile) (system.tiles pTile)).Filled ∨ (base.frameAt pTile).paddingType ≠ frameEdgePadding →
    Shows system.mem (tilePlane (base.frameAt pTile) (system.tiles pTile)) (tileBox (system.tiles pTile)).Has
      (padded (base.frameAt pTile) base.mem)

section Books

variable (known : Nat → Prop) (base system : TileSystem) (pending : Nat → List Nat) (held : Nat → Bool) (setting : Setting known base)
  (books : Books known base system pending held)

include setting books

theorem checked_now (pTile : Nat) (here : known pTile) : Checked base.dram (base.frameAt pTile) (system.tiles pTile) :=
  checked_shape _ _ _ _ (books.shapes pTile).symm (setting.checked pTile here)

omit setting in
theorem frame_now (pTile : Nat) : system.frameAt pTile = base.frameAt pTile := by
  have pointer : (system.tiles pTile).shape.pFrame = (base.tiles pTile).shape.pFrame := by rw [books.shapes pTile]
  have same : (system.tiles pTile).pFrame = (base.tiles pTile).pFrame := pointer
  rw [TileSystem.frameAt, TileSystem.frameAt, TileSystem.frameOf, TileSystem.frameOf, same, books.frames]

omit setting in
theorem buffer_now (pTile : Nat) (addr : Int) : InBuffer (system.tiles pTile) addr ↔ InBuffer (base.tiles pTile) addr :=
  in_buffer_shape _ _ (books.shapes pTile) addr

theorem box_in_buffer (pTile : Nat) (here : known pTile) (addr : Int)
    (covered : (tilePlane (base.frameAt pTile) (system.tiles pTile)).Covers (tileBox (system.tiles pTile)) addr) :
    InBuffer (base.tiles pTile) addr :=
  (buffer_now known base system pending held books pTile addr).mp
    (checked_buffer base.dram _ _ (checked_now known base system pending held setting books pTile here) addr covered)

theorem core_in_buffer (pTile : Nat) (here : known pTile) (addr : Int)
    (covered : (tilePlane (base.frameAt pTile) (system.tiles pTile)).Covers (core (base.frameAt pTile) (system.tiles pTile)) addr) :
    InBuffer (base.tiles pTile) addr := by
  obtain ⟨y, x, byte, has, inPixel, same⟩ := covered
  exact box_in_buffer known base system pending held setting books pTile here addr ⟨y, x, byte, ((has_meet _ _ y x).mp has).1, inPixel, same⟩

-- Copies write into the buffers of tiles that wait.
theorem copies_elsewhere (channel : Nat) (mem : Memory) (addr : Int)
    (elsewhere : ∀ pTile ∈ pending channel, ¬ InBuffer (base.tiles pTile) addr) :
    performAll mem (system.channels channel).copies addr = mem addr := by
  refine perform_all_outside mem _ addr fun transfer listed written => ?_
  obtain ⟨entry, inQueue, rfl⟩ := List.mem_map.mp listed
  obtain ⟨pTile, waits, serves⟩ := books.entries channel entry inQueue
  exact elsewhere pTile waits
    (core_in_buffer known base system pending held setting books pTile (books.listed channel pTile waits) addr (serves.writes addr written))

-- A change inside the buffer of one tile leaves what is shown in another.
theorem shows_elsewhere (changed pTile : Nat) (knownChanged : known changed) (here : known pTile) (other : pTile ≠ changed)
    (region : Int → Prop) (inside : ∀ addr, region addr → InBuffer (base.tiles changed) addr) (mem now : Memory)
    (same : ∀ addr, ¬ region addr → now addr = mem addr) (transfers : List Transfer)
    (unread : ∀ transfer ∈ transfers, ∀ addr, transfer.Reads addr → ¬ region addr) (area : Int → Int → Prop)
    (inTile : ∀ y x, area y x → (tileBox (system.tiles pTile)).Has y x) (picture : Int → Int → Int → UInt8)
    (shown : Shows (performAll mem transfers) (tilePlane (base.frameAt pTile) (system.tiles pTile)) area picture) :
    Shows (performAll now transfers) (tilePlane (base.frameAt pTile) (system.tiles pTile)) area picture := by
  refine shows_congr _ _ _ _ _ shown fun y x byte has low high => ?_
  have owned := box_in_buffer known base system pending held setting books pTile here _ ⟨y, x, byte, inTile y x has, ⟨low, high⟩, rfl⟩
  exact perform_all_agree mem now region transfers same unread _ fun inRegion =>
    setting.buffers pTile changed here knownChanged other _ owned (inside _ inRegion)

-- What lies in the buffer of one tile is read only through its core, by those
-- that use it again.
theorem copies_unread (changed : Nat) (knownChanged : known changed) (region : Int → Prop)
    (inside : ∀ addr, region addr → InBuffer (base.tiles changed) addr) (channel : Nat)
    (spared : ∀ pTile ∈ pending channel, (system.tiles pTile).pPrevTile = some changed → ∀ addr,
      (tilePlane (base.frameAt changed) (system.tiles changed)).Covers (core (base.frameAt changed) (system.tiles changed)) addr →
        ¬ region addr) (transfer : Transfer) (listed : transfer ∈ (system.channels channel).copies) (addr : Int)
    (read : transfer.Reads addr) : ¬ region addr := by
  obtain ⟨entry, inQueue, rfl⟩ := List.mem_map.mp listed
  obtain ⟨pTile, waits, serves⟩ := books.entries channel entry inQueue
  have here := books.listed channel pTile waits
  rcases serves.reads addr read with fromFrame | ⟨before, linked, fromCore⟩
  · exact fun inRegion => setting.frames pTile changed here knownChanged addr fromFrame (inside addr inRegion)
  · have lends := books.source channel pTile waits before linked
    by_cases same : before = changed
    · subst same
      exact spared pTile waits linked addr fromCore
    · have owned := core_in_buffer known base system pending held setting books before lends.known addr fromCore
      exact fun inRegion => setting.buffers before changed lends.known knownChanged same addr owned (inside addr inRegion)

-- A tile that is ready shows its core, too.
omit setting books in
theorem idle_core (pictures : Pictures known base system pending held) (pTile : Nat) (here : known pTile) (wanted : held pTile = true)
    (ready : ∀ channel, pTile ∉ pending channel) : Shows system.mem (tilePlane (base.frameAt pTile) (system.tiles pTile))
      (core (base.frameAt pTile) (system.tiles pTile)).Has (frameView (base.frameAt pTile) base.mem) := by
  intro y x byte has low high
  have filled := has_filled _ y x has
  rw [← padded_inside _ _ y x byte ((has_meet _ _ y x).mp has).2]
  exact pictures.full pTile here wanted ready (.inl filled) y x byte ((has_meet _ _ y x).mp has).1 low high

-- A change of the memory inside the buffer of one tile, that no outstanding
-- copy reads, leaves the pictures of all others.
theorem change_cores (pictures : Pictures known base system pending held) (changed : Nat) (knownChanged : known changed)
    (region : Int → Prop) (inside : ∀ addr, region addr → InBuffer (base.tiles changed) addr) (now : Memory)
    (same : ∀ addr, ¬ region addr → now addr = system.mem addr) (channel : Nat)
    (unread : ∀ transfer ∈ (system.channels channel).copies, ∀ addr, transfer.Reads addr → ¬ region addr) (pTile : Nat)
    (waits : pTile ∈ pending channel) (other : pTile ≠ changed) :
    Shows (performAll now (system.channels channel).copies) (tilePlane (base.frameAt pTile) (system.tiles pTile))
      (core (base.frameAt pTile) (system.tiles pTile)).Has (frameView (base.frameAt pTile) base.mem) :=
  shows_elsewhere known base system pending held setting books changed pTile knownChanged (books.listed channel pTile waits) other region
    inside system.mem now same _ unread _ (fun y x has => ((has_meet _ _ y x).mp has).1) _ (pictures.cores channel pTile waits)

theorem change_full (pictures : Pictures known base system pending held) (changed : Nat) (knownChanged : known changed)
    (region : Int → Prop) (inside : ∀ addr, region addr → InBuffer (base.tiles changed) addr) (now : Memory)
    (same : ∀ addr, ¬ region addr → now addr = system.mem addr) (pTile : Nat) (here : known pTile) (wanted : held pTile = true)
    (ready : ∀ channel, pTile ∉ pending channel) (other : pTile ≠ changed)
    (painted : (core (base.frameAt pTile) (system.tiles pTile)).Filled ∨ (base.frameAt pTile).paddingType ≠ frameEdgePadding) :
    Shows now (tilePlane (base.frameAt pTile) (system.tiles pTile)) (tileBox (system.tiles pTile)).Has
      (padded (base.frameAt pTile) base.mem) :=
  shows_elsewhere known base system pending held setting books changed pTile knownChanged here other region inside system.mem now same []
    (fun _ none_ => absurd none_ List.not_mem_nil) _ (fun _ _ has => has) _ (pictures.full pTile here wanted ready painted)

omit setting books in
theorem change_outside (pictures : Pictures known base system pending held) (changed : Nat) (knownChanged : known changed)
    (region : Int → Prop) (inside : ∀ addr, region addr → InBuffer (base.tiles changed) addr) (now : Memory)
    (same : ∀ addr, ¬ region addr → now addr = system.mem addr) (addr : Int)
    (elsewhere : ∀ pTile, known pTile → ¬ InBuffer (base.tiles pTile) addr) : now addr = base.mem addr :=
  (same addr fun inRegion => elsewhere changed knownChanged (inside addr inRegion)).trans (pictures.outside addr elsewhere)

end Books

end CsiDsp.Tiles
