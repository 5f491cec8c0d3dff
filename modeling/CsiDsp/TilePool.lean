import CsiDsp.Base.Holders
import CsiDsp.Base.Transcript
import CsiDsp.TileManager
import Mathlib.Data.Fintype.Basic

set_option autoImplicit false

namespace CsiDsp

open CInt Holders Runs Transcript XvTileManager

-- The tile manager, and the tiles set up and not released.
structure TilePool where
  manager : XvTileManager
  live : Finset (Fin 32)

inductive TileCall where
  | setup (frame : FrameArgs) (tile : TileArgs) (garbage : XvFrame) (buffer : Option Nat)
  | release (pointer : TilePtr)
deriving DecidableEq

inductive TileAnswer where
  | setup (tile : Option (Fin 32)) (failedFrameUsed : Bool)
  | release (ok : Bool)
deriving DecidableEq, Repr

-- What the allocator may answer: a free block of a bank of that color.
def BufferGiven (banks : List MemBank) (manager : XvTileManager) (color : Int32) (addr : Nat) : Prop :=
  addr ≠ 0 ∧ addr ∉ manager.buffers ∧ (banksOfColor banks color).any (fun bank => bank.contains addr) = true

instance (banks : List MemBank) (manager : XvTileManager) (color : Int32) (addr : Nat) :
    Decidable (BufferGiven banks manager color addr) := inferInstanceAs (Decidable (_ ∧ _ ∧ _))

-- The checks of the tile look at the frame whether or not there is one.
def failedFrameUsed (banks : List MemBank) (manager : XvTileManager) (frame : FrameArgs) (tile : TileArgs) : Bool :=
  (manager.createFrame frame).2 = .error && !tileRefused banks.length tile

def tileStep (banks : List MemBank) (pool : TilePool) : TileCall → Option (TilePool × TileAnswer)
  | .setup frame tile garbage buffer =>
      if ∀ addr ∈ buffer, BufferGiven banks pool.manager tile.color addr then
        let (manager, made) := setup banks pool.manager frame tile garbage buffer
        some (⟨manager, made.elim pool.live fun index => insert index pool.live⟩,
          .setup made (failedFrameUsed banks pool.manager frame tile))
      else none
  | .release pointer =>
      let (manager, ok) := release banks pool.manager pointer
      some (⟨manager, if ok = true then pointer.index.elim pool.live pool.live.erase else pool.live⟩, .release ok)

structure Unchanged (before after : XvTileManager) : Prop where
  frames : after.frameAllocFlags = before.frameAllocFlags
  tiles : after.tileAllocFlags = before.tileAllocFlags
  buffers : after.buffers = before.buffers

-- One frame, one tile and one buffer are free that were not.
structure PoolReturned (before after : XvTileManager) : Prop where
  frame : ∃ index ∈ before.frameAllocFlags, after.frameAllocFlags = before.frameAllocFlags.erase index
  tile : ∃ index ∈ before.tileAllocFlags, after.tileAllocFlags = before.tileAllocFlags.erase index
  buffer : ∃ addr ∈ before.buffers, after.buffers = before.buffers.erase addr

def AnswerConserves (before after : TilePool) : TileAnswer → Prop
  | .setup none used => used = false ∧ Unchanged before.manager after.manager
  | .setup (some _) used => used = false
  | .release true => PoolReturned before.manager after.manager
  | .release false => True

structure Balanced (pool : TilePool) : Prop where
  frames : pool.manager.frameAllocFlags.card = pool.live.card
  tiles : pool.manager.tileAllocFlags.card = pool.live.card
  buffers : pool.manager.buffers.card = pool.live.card

structure Conserved (before after : TilePool) (answer : TileAnswer) : Prop where
  answered : AnswerConserves before after answer
  balanced : Balanced after

-- A frame, and a tile for it, can be had.
def FrameFits (manager : XvTileManager) (frame : FrameArgs) : Prop :=
  frameRefused frame = false ∧ manager.frameAllocFlags ≠ Finset.univ

def TileFits (banks : List MemBank) (manager : XvTileManager) (frame : FrameArgs) (tile : TileArgs) (buffer : Option Nat) : Prop :=
  tileRefused banks.length tile = false ∧ frameMismatch tile ⟨frame.pixRes, frame.numChannels⟩ = false ∧
    ¬ tile.tileBuffSize ≤ 0 ∧ buffer ≠ none ∧ manager.tileAllocFlags ≠ Finset.univ

def InBanks (banks : List MemBank) (addr : Nat) : Prop := addr ≠ 0 ∧ (banks.any fun bank => bank.contains addr) = true

-- Frame and tile are both to be had, or the frame is not and the tile is refused
-- before its frame is looked at. A tile is released that is set up, or one whose
-- buffer is nobody's.
def TileInTime (banks : List MemBank) (pool : TilePool) : TileCall → Prop
  | .setup frame tile _ buffer => FrameFits pool.manager frame ∧ TileFits banks pool.manager frame tile buffer ∨
      ¬ FrameFits pool.manager frame ∧ tileRefused banks.length tile = true
  | .release .null => True
  | .release (.slot index) => index ∈ pool.live ∨ ¬ InBanks banks (pool.manager.tileArray index).pBuffer
  | .release (.other tile) => tile.pBuffer ∉ pool.manager.buffers

instance (manager : XvTileManager) (frame : FrameArgs) : Decidable (FrameFits manager frame) :=
  inferInstanceAs (Decidable (_ ∧ _))

instance (banks : List MemBank) (manager : XvTileManager) (frame : FrameArgs) (tile : TileArgs) (buffer : Option Nat) :
    Decidable (TileFits banks manager frame tile buffer) := inferInstanceAs (Decidable (_ ∧ _ ∧ _ ∧ _ ∧ _))

instance (banks : List MemBank) (addr : Nat) : Decidable (InBanks banks addr) := inferInstanceAs (Decidable (_ ∧ _))

instance (banks : List MemBank) (pool : TilePool) (call : TileCall) : Decidable (TileInTime banks pool call) :=
  match call with
  | .setup _ _ _ _ => inferInstanceAs (Decidable (_ ∨ _))
  | .release .null => .isTrue trivial
  | .release (.slot _) => inferInstanceAs (Decidable (_ ∨ _))
  | .release (.other _) => inferInstanceAs (Decidable (_ ∉ _))

-- Each tile set up holds a frame and a buffer of its own.
structure PoolHeld (banks : List MemBank) (pool : TilePool) : Prop where
  tiles : pool.manager.tileAllocFlags = pool.live
  frames : ∃ frameOf : Fin 32 → Fin 8, (∀ index ∈ pool.live, (pool.manager.tileArray index).pFrame = .slot (frameOf index)) ∧
    Held pool.live frameOf pool.manager.frameAllocFlags
  buffers : Held pool.live (fun index => (pool.manager.tileArray index).pBuffer) pool.manager.buffers
  inBanks : ∀ addr ∈ pool.manager.buffers, InBanks banks addr

theorem pool_held_balanced (banks : List MemBank) (pool : TilePool) (held : PoolHeld banks pool) : Balanced pool := by
  obtain ⟨frameOf, -, frames⟩ := held.frames
  exact ⟨held_card _ _ _ frames, congrArg Finset.card held.tiles, held_card _ _ _ held.buffers⟩

theorem first_free_some {count : Nat} (flags : Finset (Fin count)) (index : Fin count) (found : firstFree flags = some index) :
    index ∉ flags := by
  simpa using List.find?_some found

theorem first_free_none {count : Nat} (flags : Finset (Fin count)) : firstFree flags = none ↔ flags = Finset.univ := by
  rw [firstFree, List.find?_eq_none, Finset.eq_univ_iff_forall]
  simp

section Setup

variable (banks : List MemBank) (pool : TilePool) (frame : FrameArgs) (tile : TileArgs) (garbage : XvFrame)

theorem create_frame_fits (fits : FrameFits pool.manager frame) : ∃ index, index ∉ pool.manager.frameAllocFlags ∧
    pool.manager.createFrame frame = ({ pool.manager with
      frameAllocFlags := insert index pool.manager.frameAllocFlags,
      frameArray := Function.update pool.manager.frameArray index ⟨frame.pixRes, frame.numChannels⟩ }, .slot index) := by
  obtain ⟨accepted, room⟩ := fits
  cases found : firstFree pool.manager.frameAllocFlags with
  | none => exact absurd ((first_free_none _).mp found) room
  | some index =>
      refine ⟨index, first_free_some _ index found, ?_⟩
      rw [createFrame, accepted, found]
      rfl

theorem create_frame_error (unfit : ¬ FrameFits pool.manager frame) : pool.manager.createFrame frame = (pool.manager, .error) := by
  rw [createFrame]
  by_cases refused : frameRefused frame = true
  · rw [if_pos refused]
  · rw [if_neg refused]
    have full : firstFree pool.manager.frameAllocFlags = none := by
      rw [first_free_none]
      by_contra room
      exact unfit ⟨Bool.eq_false_iff.mpr refused, room⟩
    rw [full]

theorem setup_fits (addr : Nat) (frameFits : FrameFits pool.manager frame)
    (tileFits : TileFits banks pool.manager frame tile (some addr)) :
    ∃ slot index, slot ∉ pool.manager.frameAllocFlags ∧ index ∉ pool.manager.tileAllocFlags ∧
      setup banks pool.manager frame tile garbage (some addr) =
        ({ frameAllocFlags := insert slot pool.manager.frameAllocFlags,
           frameArray := Function.update pool.manager.frameArray slot ⟨frame.pixRes, frame.numChannels⟩,
           tileAllocFlags := insert index pool.manager.tileAllocFlags,
           tileArray := Function.update pool.manager.tileArray index ⟨addr, .slot slot⟩,
           buffers := insert addr pool.manager.buffers }, some index) := by
  obtain ⟨accepted, alike, positive, -, room⟩ := tileFits
  obtain ⟨slot, freeFrame, created⟩ := create_frame_fits pool frame frameFits
  cases found : firstFree pool.manager.tileAllocFlags with
  | none => exact absurd ((first_free_none _).mp found) room
  | some index =>
      refine ⟨slot, index, freeFrame, first_free_some _ index found, ?_⟩
      rw [setup, created]
      simp only [createTile, accepted, frameAt, Function.update_self, alike, positive, found]
      simp

theorem setup_unfit (buffer : Option Nat) (unfit : ¬ FrameFits pool.manager frame)
    (refused : tileRefused banks.length tile = true) :
    setup banks pool.manager frame tile garbage buffer = (pool.manager, none) := by
  rw [setup, create_frame_error pool frame unfit]
  simp only [createTile, refused]
  rfl

theorem failed_frame_unused (safe : FrameFits pool.manager frame ∨ tileRefused banks.length tile = true) :
    failedFrameUsed banks pool.manager frame tile = false := by
  rw [failedFrameUsed]
  rcases safe with fits | refused
  · obtain ⟨index, -, created⟩ := create_frame_fits pool frame fits
    rw [created]
    rfl
  · rw [refused]
    exact Bool.and_false _

end Setup

section Held

variable (banks : List MemBank) (pool : TilePool) (held : PoolHeld banks pool)

theorem buffer_given_in_banks (color : Int32) (addr : Nat) (given : BufferGiven banks pool.manager color addr) : InBanks banks addr := by
  obtain ⟨nonzero, -, inside⟩ := given
  refine ⟨nonzero, ?_⟩
  rw [banksOfColor] at inside
  by_cases anyColor : u32 color.toInt = memBankColorAny
  · rwa [if_pos anyColor] at inside
  · rw [if_neg anyColor, List.any_eq_true] at inside
    obtain ⟨bank, member, contained⟩ := inside
    exact List.any_eq_true.mpr ⟨bank, List.mem_of_getElem? (Option.mem_toList.mp member), contained⟩

include held

theorem pool_held_setup (slot : Fin 8) (index : Fin 32) (addr : Nat) (frames : Fin 8 → XvFrame)
    (freeFrame : slot ∉ pool.manager.frameAllocFlags) (freeTile : index ∉ pool.manager.tileAllocFlags)
    (freeBuffer : addr ∉ pool.manager.buffers) (inside : InBanks banks addr) :
    PoolHeld banks ⟨{ frameAllocFlags := insert slot pool.manager.frameAllocFlags,
                      frameArray := frames,
                      tileAllocFlags := insert index pool.manager.tileAllocFlags,
                      tileArray := Function.update pool.manager.tileArray index ⟨addr, .slot slot⟩,
                      buffers := insert addr pool.manager.buffers }, insert index pool.live⟩ := by
  rw [held.tiles] at freeTile
  obtain ⟨frameOf, pointers, owned⟩ := held.frames
  constructor
  · rw [held.tiles]
  · refine ⟨Function.update frameOf index slot, ?_, held_take pool.live frameOf _ index slot owned freeTile freeFrame⟩
    intro other member
    show (Function.update pool.manager.tileArray index ⟨addr, .slot slot⟩ other).pFrame = .slot (Function.update frameOf index slot other)
    by_cases same : other = index
    · rw [same, Function.update_self, Function.update_self]
    · rw [Function.update_of_ne same, Function.update_of_ne same]
      exact pointers other (Finset.mem_of_mem_insert_of_ne member same)
  · refine held_congr _ _ _ _ (held_take pool.live _ _ index addr held.buffers freeTile freeBuffer) ?_
    intro other _
    exact Function.apply_update (fun _ => XvTile.pBuffer) pool.manager.tileArray index ⟨addr, .slot slot⟩ other
  · intro other member
    rcases Finset.mem_insert.mp member with rfl | before
    · exact inside
    · exact held.inBanks other before

theorem free_held_buffer (addr : Nat) (member : addr ∈ pool.manager.buffers) :
    freeBuffer banks pool.manager addr = ({ pool.manager with buffers := pool.manager.buffers.erase addr }, true) := by
  obtain ⟨nonzero, inside⟩ := held.inBanks addr member
  rw [freeBuffer, if_neg nonzero, if_pos inside]

theorem release_live (index : Fin 32) (member : index ∈ pool.live) : ∃ slot ∈ pool.manager.frameAllocFlags,
    (pool.manager.tileArray index).pFrame = .slot slot ∧
      release banks pool.manager (.slot index) = ({ pool.manager with
        frameAllocFlags := pool.manager.frameAllocFlags.erase slot,
        tileAllocFlags := pool.manager.tileAllocFlags.erase index,
        buffers := pool.manager.buffers.erase (pool.manager.tileArray index).pBuffer }, true) := by
  obtain ⟨frameOf, pointers, owned⟩ := held.frames
  have buffer := held_mem _ _ _ held.buffers index member
  refine ⟨frameOf index, held_mem _ _ _ owned index member, pointers index member, ?_⟩
  rw [release, if_neg TilePtr.noConfusion]
  simp only [tileAt, free_held_buffer banks pool held _ buffer, pointers index member, TilePtr.index, freeTile, freeFrame]
  rfl

theorem pool_held_release (index : Fin 32) (slot : Fin 8) (member : index ∈ pool.live)
    (pointer : (pool.manager.tileArray index).pFrame = .slot slot) :
    PoolHeld banks ⟨{ pool.manager with
      frameAllocFlags := pool.manager.frameAllocFlags.erase slot,
      tileAllocFlags := pool.manager.tileAllocFlags.erase index,
      buffers := pool.manager.buffers.erase (pool.manager.tileArray index).pBuffer }, pool.live.erase index⟩ := by
  obtain ⟨frameOf, pointers, owned⟩ := held.frames
  have same : frameOf index = slot := FramePtr.slot.inj ((pointers index member).symm.trans pointer)
  constructor
  · rw [held.tiles]
  · refine ⟨frameOf, fun other later => pointers other (Finset.mem_of_mem_erase later), ?_⟩
    rw [← same]
    exact held_return pool.live frameOf _ index owned member
  · exact held_return pool.live _ _ index held.buffers member
  · exact fun other later => held.inBanks other (Finset.mem_of_mem_erase later)

end Held

-- What is no buffer of the banks is refused before anything is freed.
theorem release_refused (banks : List MemBank) (manager : XvTileManager) (pointer : TilePtr)
    (unfit : ¬ InBanks banks (manager.tileAt pointer).pBuffer) : release banks manager pointer = (manager, false) := by
  rw [release]
  by_cases null : pointer = .null
  · rw [if_pos null]
  · rw [if_neg null]
    have refused : freeBuffer banks manager (manager.tileAt pointer).pBuffer = (manager, false) := by
      rw [freeBuffer]
      by_cases zero : (manager.tileAt pointer).pBuffer = 0
      · rw [if_pos zero]
      · rw [if_neg zero, if_neg fun inside => unfit ⟨zero, inside⟩]
    simp only [refused]
    rfl

theorem release_other (banks : List MemBank) (manager : XvTileManager) (tile : XvTile) (foreign : tile.pBuffer ∉ manager.buffers) :
    release banks manager (.other tile) = (manager, false) := by
  by_cases inside : InBanks banks tile.pBuffer
  · have freed : freeBuffer banks manager tile.pBuffer = (manager, true) := by
      rw [freeBuffer, if_neg inside.1, if_pos inside.2, Finset.erase_eq_of_notMem foreign]
    rw [release, if_neg TilePtr.noConfusion]
    simp only [tileAt, freed, TilePtr.index, freeTile]
    rfl
  · exact release_refused banks manager (.other tile) inside

theorem setup_step_held (banks : List MemBank) (pool next : TilePool) (frame : FrameArgs) (tile : TileArgs) (garbage : XvFrame)
    (buffer : Option Nat) (answer : TileAnswer) (held : PoolHeld banks pool)
    (inTime : TileInTime banks pool (.setup frame tile garbage buffer))
    (taken : tileStep banks pool (.setup frame tile garbage buffer) = some (next, answer)) :
    PoolHeld banks next ∧ AnswerConserves pool next answer := by
  have given : ∀ addr ∈ buffer, BufferGiven banks pool.manager tile.color addr := by
    by_contra notGiven
    rw [tileStep, if_neg notGiven] at taken
    cases taken
  rcases inTime with ⟨frameFits, tileFits⟩ | ⟨unfit, refused⟩
  · cases buffer with
    | none => exact absurd rfl tileFits.2.2.2.1
    | some addr =>
        have addrGiven := given addr rfl
        obtain ⟨slot, index, freeFrame, freeTile, done⟩ := setup_fits banks pool frame tile garbage addr frameFits tileFits
        rw [tileStep, if_pos given, done, failed_frame_unused banks pool frame tile (.inl frameFits)] at taken
        cases taken
        refine ⟨?_, rfl⟩
        exact pool_held_setup banks pool held slot index addr _ freeFrame freeTile addrGiven.2.1
          (buffer_given_in_banks banks pool tile.color addr addrGiven)
  · rw [tileStep, if_pos given, setup_unfit banks pool frame tile garbage buffer unfit refused,
      failed_frame_unused banks pool frame tile (.inr refused)] at taken
    cases taken
    exact ⟨held, rfl, rfl, rfl, rfl⟩

theorem release_step_held (banks : List MemBank) (pool next : TilePool) (pointer : TilePtr) (answer : TileAnswer)
    (held : PoolHeld banks pool) (inTime : TileInTime banks pool (.release pointer))
    (taken : tileStep banks pool (.release pointer) = some (next, answer)) :
    PoolHeld banks next ∧ AnswerConserves pool next answer := by
  cases pointer with
  | null =>
      cases taken
      exact ⟨held, trivial⟩
  | slot index =>
      rcases inTime with member | unfit
      · obtain ⟨slot, used, pointer, done⟩ := release_live banks pool held index member
        rw [tileStep, done] at taken
        cases taken
        refine ⟨pool_held_release banks pool held index slot member pointer, ?_⟩
        exact ⟨⟨slot, used, rfl⟩, ⟨index, held.tiles ▸ member, rfl⟩, ⟨_, held_mem _ _ _ held.buffers index member, rfl⟩⟩
      · rw [tileStep, release_refused banks pool.manager (.slot index) unfit] at taken
        cases taken
        exact ⟨held, trivial⟩
  | other tile =>
      rw [tileStep, release_other banks pool.manager tile inTime] at taken
      cases taken
      exact ⟨held, trivial⟩

theorem tile_step_held (banks : List MemBank) (pool next : TilePool) (call : TileCall) (answer : TileAnswer)
    (held : PoolHeld banks pool) (inTime : TileInTime banks pool call) (taken : tileStep banks pool call = some (next, answer)) :
    PoolHeld banks next ∧ AnswerConserves pool next answer := by
  cases call with
  | setup frame tile garbage buffer => exact setup_step_held banks pool next frame tile garbage buffer answer held inTime taken
  | release pointer => exact release_step_held banks pool next pointer answer held inTime taken

-- What init leaves.
def initialPool : TilePool := ⟨⟨∅, fun _ => ⟨0, 0⟩, ∅, fun _ => ⟨0, .null⟩, ∅⟩, ∅⟩

theorem pool_held_initial (banks : List MemBank) : PoolHeld banks initialPool :=
  ⟨rfl, ⟨fun _ => 0, fun _ member => absurd member (Finset.notMem_empty _), held_empty _⟩, held_empty _,
    fun _ member => absurd member (Finset.notMem_empty _)⟩

theorem tile_pool_conserved (banks : List MemBank) (calls : List TileCall) (call : TileCall) (pool next : TilePool)
    (answer : TileAnswer) (inTime : Guarded (silent (tileStep banks)) (TileInTime banks) initialPool (calls ++ [call]))
    (ran : run (silent (tileStep banks)) initialPool calls = some pool) (taken : tileStep banks pool call = some (next, answer)) :
    Conserved pool next answer := by
  obtain ⟨earlier, last⟩ := (guarded_append (silent (tileStep banks)) (TileInTime banks) initialPool calls [call]).mp inTime
  have held : PoolHeld banks pool := by
    refine guarded_run_invariant _ (TileInTime banks) (PoolHeld banks) ?_ _ _ calls (pool_held_initial banks) earlier ran
    intro before each after held inTime stepped
    obtain ⟨result, taken, rfl⟩ := Option.map_eq_some_iff.mp stepped
    exact (tile_step_held banks before result.1 each result.2 held inTime taken).1
  obtain ⟨kept, answered⟩ := tile_step_held banks pool next call answer held (last pool ran).1 taken
  exact ⟨answered, pool_held_balanced banks next kept⟩

-- A frame of 16 by 16 bytes, and a tile of 8 by 8.
def smallFrame : FrameArgs := ⟨0x40000000, 256, 16, 16, 16, 1, 1, 0⟩
def smallTile : TileArgs := ⟨64, 8, 8, 8, 0, 0, 0, 1, 1⟩
def oneBank : List MemBank := [⟨4096, 1024⟩]

theorem tile_pool_conserved_once : ∃ pool next,
    run (silent (tileStep oneBank)) initialPool [.setup smallFrame smallTile ⟨0, 0⟩ (some 4096)] = some pool ∧
    tileStep oneBank pool (.release (.slot 0)) = some (next, .release true) ∧ Conserved pool next (.release true) := by
  refine ⟨_, _, rfl, rfl, ?_⟩
  exact tile_pool_conserved oneBank [.setup smallFrame smallTile ⟨0, 0⟩ (some 4096)] (.release (.slot 0)) _ _ _ (by decide) rfl rfl

-- A tile with TILE_UNALIGNED leaves its frame behind.
theorem frame_left_behind : ¬ ∀ (banks : List MemBank) (calls : List TileCall) (call : TileCall) (pool next : TilePool)
    (answer : TileAnswer), run (silent (tileStep banks)) initialPool calls = some pool →
    tileStep banks pool call = some (next, answer) → Conserved pool next answer := by
  intro claim
  have conserved := claim oneBank [] (.setup smallFrame { smallTile with alignType := 0 } ⟨0, 0⟩ none) _ _ _ rfl rfl
  exact absurd conserved.balanced.frames (by decide)

end CsiDsp
