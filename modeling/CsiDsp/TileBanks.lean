import CsiDsp.MemBanks
import CsiDsp.TilePool

set_option autoImplicit false

namespace CsiDsp

open CInt Runs Transcript XvTileManager

-- The tile manager over its memory banks. The allocated buffers are what the banks have given.
structure TileBanks where
  manager : XvTileManager
  allocator : BankAllocator

inductive TileAsk where
  | setup (frame : FrameArgs) (tile : TileArgs) (garbage : XvFrame)
  | release (pointer : TilePtr)
deriving DecidableEq

def tileBuffAlignment : Int := 64

def bankList (allocator : BankAllocator) : List MemBank :=
  (List.range allocator.numMemBanks).map fun index => ⟨(allocator.banks index).start, (allocator.banks index).size.toNat⟩

section Calls

variable (state : TileBanks)

-- xvCreateTile, with xvAllocateBuffer and xvFreeBuffer. It is stuck where the allocator is.
def createTileOn (args : TileArgs) (pFrame : FramePtr) (garbage : XvFrame) : Option (TileBanks × Option (Fin 32)) :=
  if tileRefused state.allocator.numMemBanks args then some (state, none)
  else if pFrame ≠ .null ∧ frameMismatch args (state.manager.frameAt garbage pFrame) = true then some (state, none)
  else (xvAllocateBuffer state.allocator args.tileBuffSize.toInt args.color.toInt tileBuffAlignment).bind fun (allocator, buffer) =>
    match buffer with
    | none => some (⟨state.manager, allocator⟩, none)
    | some addr =>
        match firstFree state.manager.tileAllocFlags with
        | none => (xvFreeBuffer allocator addr).map fun (allocator, _) => (⟨state.manager, allocator⟩, none)
        | some index => some (⟨{ state.manager with
            tileAllocFlags := insert index state.manager.tileAllocFlags,
            tileArray := Function.update state.manager.tileArray index ⟨addr, pFrame⟩ }, allocator⟩, some index)

def setupOn (frame : FrameArgs) (tile : TileArgs) (garbage : XvFrame) : Option (TileBanks × Option (Fin 32)) :=
  let (created, pFrame) := state.manager.createFrame frame
  createTileOn ⟨created, state.allocator⟩ tile pFrame garbage

def releaseOn (pointer : TilePtr) : Option (TileBanks × Bool) :=
  if pointer = .null then some (state, false)
  else
    let tile := state.manager.tileAt pointer
    (xvFreeBuffer state.allocator tile.pBuffer).map fun (allocator, buffer) =>
      if buffer = false then (⟨state.manager, allocator⟩, false)
      else
        let (second, freed) := freeTile state.manager pointer.index
        if freed = false then (⟨second, allocator⟩, false)
        else
          let (last, ok) := freeFrame second tile.pFrame
          (⟨last, allocator⟩, ok)

def tileBankStep : TileAsk → Option (TileBanks × TileAnswer)
  | .setup frame tile garbage => (setupOn state frame tile garbage).map fun (next, made) =>
      (next, .setup made (failedFrameUsed (bankList state.allocator) state.manager frame tile))
  | .release pointer => (releaseOn state pointer).map fun (next, ok) => (next, .release ok)

end Calls

def TileAsk.answered : TileAsk → Option Nat → TileCall
  | .setup frame tile garbage, buffer => .setup frame tile garbage buffer
  | .release pointer, _ => .release pointer

-- A tile outside the array has no bank's start, where the header is, for its buffer.
def TileAllowed (state : TileBanks) : TileAsk → Prop
  | .setup _ _ _ => True
  | .release (.other tile) => ∀ index < state.allocator.numMemBanks, tile.pBuffer ≠ (state.allocator.banks index).start
  | .release .null => True
  | .release (.slot _) => True

instance (state : TileBanks) (ask : TileAsk) : Decidable (TileAllowed state ask) :=
  match ask with
  | .setup _ _ _ => .isTrue trivial
  | .release .null => .isTrue trivial
  | .release (.slot _) => .isTrue trivial
  | .release (.other _) => inferInstanceAs (Decidable (∀ index < _, _))

-- The buffers are those that the banks have given and that are not freed.
structure Backs (banks : List MemBank) (buffers : Finset Nat) (allocator : BankAllocator) (live : Nat → List HeapBuffer) : Prop where
  banks : bankList allocator = banks
  held : BankHeld ⟨allocator, live⟩
  buffers : ∀ addr, addr ∈ buffers ↔ ∃ index < allocator.numMemBanks, ∃ buffer ∈ live index, buffer.address = addr

-- No tile of the array has a bank's start for its buffer.
def SlotsSafe (state : TileBanks) : Prop :=
  ∀ slot, ∀ index < state.allocator.numMemBanks, (state.manager.tileArray slot).pBuffer ≠ (state.allocator.banks index).start

section Refine

variable (banks : List MemBank) (buffers : Finset Nat) (allocator : BankAllocator) (live : Nat → List HeapBuffer)

theorem bank_list_same (next : BankAllocator) (same : SameBanks allocator next) : bankList next = bankList allocator := by
  simp only [bankList, same.number, same.start, same.size]

variable (backs : Backs banks buffers allocator live)

include backs

theorem bank_list_length : banks.length = allocator.numMemBanks := by simp [← backs.banks, bankList]

theorem bank_list_get (index : Nat) (valid : index < allocator.numMemBanks) :
    banks[index]? = some ⟨(allocator.banks index).start, (allocator.banks index).size.toNat⟩ := by
  simp [← backs.banks, bankList, valid]

-- The two lists of banks agree on what lies in a bank.
theorem bank_contains (index addr : Nat) (valid : index < allocator.numMemBanks) :
    (⟨(allocator.banks index).start, (allocator.banks index).size.toNat⟩ : MemBank).contains addr = (allocator.banks index).has addr := by
  have size := (backs.held.owns index valid).sized.size
  have size_ : 520 ≤ (allocator.banks index).size := size
  simp only [MemBank.contains, XvBank.has]
  congr 1
  exact decide_eq_decide.mpr (by omega)

theorem any_contains (addr : Nat) : (banks.any fun bank => bank.contains addr) = (bankOf allocator addr).isSome := by
  rw [Bool.eq_iff_iff, List.any_eq_true, Option.isSome_iff_exists, ← backs.banks]
  constructor
  · rintro ⟨bank, member, inside⟩
    obtain ⟨index, listed, rfl⟩ := List.mem_map.mp member
    have valid := List.mem_range.mp listed
    rw [bank_contains banks buffers allocator live backs index addr valid] at inside
    exact ⟨index, bank_of_some allocator backs.held.apart addr index valid inside⟩
  · rintro ⟨index, found⟩
    obtain ⟨valid, here⟩ := bank_of_has allocator addr index found
    refine ⟨_, List.mem_map_of_mem (List.mem_range.mpr valid), ?_⟩
    rw [bank_contains banks buffers allocator live backs index addr valid]
    exact here

-- What the banks give is what the allocator of the pool may answer.
theorem given_buffer (manager : XvTileManager) (color : Int32) (next : BankAllocator) (index : Nat) (buffer : HeapBuffer)
    (valid : index < allocator.numMemBanks) (colored : Colored color.toInt index) (same : SameBanks allocator next)
    (held : BankHeld ⟨next, Function.update live index (buffer :: live index)⟩) (is : manager.buffers = buffers) :
    BufferGiven banks manager color buffer.address := by
  have valid_ : index < next.numMemBanks := by rw [same.number]; exact valid
  obtain ⟨inside, fresh⟩ := given_fresh next live index buffer valid_ held
  have owns := held.owns index valid_
  simp only [Function.update_self] at owns
  have low := (owned_inside _ _ owns buffer List.mem_cons_self).2.1
  have here : (allocator.banks index).has buffer.address = true := by
    simpa only [XvBank.has, same.start, same.size] using inside
  refine ⟨by omega, fun member => ?_, ?_⟩
  · rw [is] at member
    obtain ⟨other, valid_, old, listed, equal⟩ := (backs.buffers _).mp member
    exact fresh other (by rw [same.number]; exact valid_) old listed equal
  · rw [banksOfColor]
    split
    · rw [any_contains banks buffers allocator live backs, bank_of_some allocator backs.held.apart _ index valid here]
      rfl
    · rename_i named
      have color_ : color.toInt = index := colored.resolve_left named
      rw [color_, Int.toNat_natCast, bank_list_get banks buffers allocator live backs index valid]
      simp only [Option.toList_some, List.any_cons, List.any_nil, Bool.or_false]
      rw [bank_contains banks buffers allocator live backs index _ valid]
      exact here

theorem backs_same (next : BankAllocator) (same : SameBanks allocator next) (held : BankHeld ⟨next, live⟩) : Backs banks buffers next live :=
  ⟨(bank_list_same allocator next same).trans backs.banks, held, fun addr => by rw [backs.buffers, same.number]⟩

-- The set of buffers after one more was given.
theorem backs_insert (next : BankAllocator) (index : Nat) (buffer : HeapBuffer) (valid : index < allocator.numMemBanks)
    (same : SameBanks allocator next) (held : BankHeld ⟨next, Function.update live index (buffer :: live index)⟩) :
    Backs banks (insert buffer.address buffers) next (Function.update live index (buffer :: live index)) := by
  refine ⟨(bank_list_same allocator next same).trans backs.banks, held, fun addr => ?_⟩
  rw [Finset.mem_insert, backs.buffers, same.number]
  constructor
  · rintro (rfl | ⟨other, valid_, old, listed, equal⟩)
    · exact ⟨index, valid, buffer, by simp, rfl⟩
    · refine ⟨other, valid_, old, ?_, equal⟩
      by_cases alike : other = index
      · subst alike
        rw [Function.update_self]
        exact List.mem_cons_of_mem _ listed
      · rw [Function.update_of_ne alike]
        exact listed
  · rintro ⟨other, valid_, old, listed, equal⟩
    by_cases alike : other = index
    · subst alike
      rw [Function.update_self] at listed
      rcases List.mem_cons.mp listed with rfl | before
      · exact .inl equal.symm
      · exact .inr ⟨other, valid_, old, before, equal⟩
    · rw [Function.update_of_ne alike] at listed
      exact .inr ⟨other, valid_, old, listed, equal⟩

-- And after one was freed.
theorem backs_erase (next : BankAllocator) (pointer : Nat) (same : SameBanks allocator next)
    (held : BankHeld ⟨next, (⟨allocator, live⟩ : BankClient).freed pointer⟩) :
    Backs banks (buffers.erase pointer) next ((⟨allocator, live⟩ : BankClient).freed pointer) := by
  refine ⟨(bank_list_same allocator next same).trans backs.banks, held, fun addr => ?_⟩
  rw [Finset.mem_erase, backs.buffers, same.number]
  have rest (index : Nat) (valid : index < allocator.numMemBanks) (buffer : HeapBuffer) :
      buffer ∈ (⟨allocator, live⟩ : BankClient).freed pointer index ↔ buffer ∈ live index ∧ buffer.address ≠ pointer := by
    cases found : bankOf allocator pointer with
    | none =>
        simp only [BankClient.freed, found, Option.elim_none]
        refine ⟨fun member => ⟨member, fun equal => ?_⟩, fun both => both.1⟩
        have inside := owned_has _ _ (backs.held.owns index valid) buffer member
        rw [equal] at inside
        have some_ := bank_of_some allocator backs.held.apart pointer index valid inside
        rw [found] at some_
        cases some_
    | some owner =>
        simp only [BankClient.freed, found, Option.elim_some]
        by_cases alike : index = owner
        · subst alike
          simp
        · rw [Function.update_of_ne alike]
          refine ⟨fun member => ⟨member, fun equal => ?_⟩, fun both => both.1⟩
          have inside := owned_has _ _ (backs.held.owns index valid) buffer member
          rw [equal] at inside
          have some_ := bank_of_some allocator backs.held.apart pointer index valid inside
          rw [found] at some_
          exact alike (Option.some.inj some_).symm
  constructor
  · rintro ⟨different, index, valid, buffer, member, equal⟩
    exact ⟨index, valid, buffer, (rest index valid buffer).mpr ⟨member, fun same => different (equal.symm.trans same)⟩, equal⟩
  · rintro ⟨index, valid, buffer, member, equal⟩
    obtain ⟨listed, different⟩ := (rest index valid buffer).mp member
    exact ⟨fun same => different (equal.trans same), index, valid, buffer, listed, equal⟩

end Refine

-- The manager of the pool, and the banks below it.
structure Backed (banks : List MemBank) (manager : XvTileManager) (state : TileBanks) (live : Nat → List HeapBuffer) : Prop where
  alike : manager = { state.manager with buffers := manager.buffers }
  backs : Backs banks manager.buffers state.allocator live
  slots : SlotsSafe state

section Steps

variable (banks : List MemBank) (manager : XvTileManager) (state : TileBanks) (live : Nat → List HeapBuffer)

theorem slots_safe_same (next : TileBanks) (same : SameBanks state.allocator next.allocator) (slots : SlotsSafe state)
    (array : next.manager.tileArray = state.manager.tileArray) : SlotsSafe next := by
  intro slot index valid
  rw [same.start, array]
  exact slots slot index (same.number ▸ valid)

-- The start of a bank is never given.
theorem given_no_start (next : BankAllocator) (index : Nat) (buffer : HeapBuffer) (valid : index < next.numMemBanks)
    (held : BankHeld ⟨next, Function.update live index (buffer :: live index)⟩) (bank : Nat) (valid_ : bank < next.numMemBanks) :
    buffer.address ≠ (next.banks bank).start := by
  intro equal
  have owns := held.owns index valid
  simp only [Function.update_self] at owns
  have size : 520 ≤ (next.banks bank).size := (held.owns bank valid_).sized.size
  have start : (next.banks bank).has buffer.address = true := by
    rw [equal]
    simp only [XvBank.has, Bool.and_eq_true, decide_eq_true_eq]
    omega
  have one := has_apart next held.apart buffer.address bank index valid_ valid start (owned_has _ _ owns buffer List.mem_cons_self)
  have inside := owned_inside _ _ owns buffer List.mem_cons_self
  rw [one] at equal
  omega

-- A buffer has been given for the tile.
theorem place_tile_refines (backed : Backed banks manager state live) (next : BankAllocator) (index : Nat) (buffer : HeapBuffer)
    (pFrame : FramePtr) (valid : index < state.allocator.numMemBanks) (same : SameBanks state.allocator next)
    (held : BankHeld ⟨next, Function.update live index (buffer :: live index)⟩) (slot : Fin 32) :
    Backed banks { manager with
        tileAllocFlags := insert slot manager.tileAllocFlags,
        tileArray := Function.update manager.tileArray slot ⟨buffer.address, pFrame⟩,
        buffers := insert buffer.address manager.buffers }
      ⟨{ state.manager with
        tileAllocFlags := insert slot state.manager.tileAllocFlags,
        tileArray := Function.update state.manager.tileArray slot ⟨buffer.address, pFrame⟩ }, next⟩
      (Function.update live index (buffer :: live index)) := by
  obtain ⟨alike, backs, slots⟩ := backed
  refine ⟨?_, backs_insert banks _ _ live backs next index buffer valid same held, fun other bank valid_ => ?_⟩
  · rw [alike]
  · by_cases here : other = slot
    · subst here
      simp only [Function.update_self]
      exact given_no_start live next index buffer (by rw [same.number]; exact valid) held bank valid_
    · simp only [Function.update_of_ne here, same.start]
      exact slots other bank (same.number ▸ valid_)

variable (backed : Backed banks manager state live)

include backed

theorem frame_at_alike (pFrame : FramePtr) (garbage : XvFrame) : manager.frameAt garbage pFrame = state.manager.frameAt garbage pFrame := by
  rw [backed.alike]
  cases pFrame <;> rfl

theorem create_tile_refines (args : TileArgs) (pFrame : FramePtr) (garbage : XvFrame) :
    ∃ buffer next made last after, createTileOn state args pFrame garbage = some (next, made) ∧
      (∀ addr ∈ buffer, BufferGiven banks manager args.color addr) ∧
      createTile banks manager args pFrame garbage buffer = (last, made) ∧ Backed banks last next after := by
  have few : banks.length = state.allocator.numMemBanks := bank_list_length banks _ _ live backed.backs
  have frame := frame_at_alike banks manager state live backed pFrame garbage
  have noBuffer : ∀ addr ∈ (none : Option Nat), BufferGiven banks manager args.color addr := fun addr none_ => by cases none_
  rw [createTileOn]
  by_cases refused : tileRefused state.allocator.numMemBanks args = true
  · refine ⟨none, state, none, manager, live, by rw [if_pos refused], noBuffer, ?_, backed⟩
    rw [createTile, few, if_pos refused]
  · rw [if_neg refused]
    by_cases mismatch : pFrame ≠ .null ∧ frameMismatch args (state.manager.frameAt garbage pFrame) = true
    · refine ⟨none, state, none, manager, live, by rw [if_pos mismatch], noBuffer, ?_, backed⟩
      rw [createTile, few, if_neg refused, frame, if_pos mismatch]
    · rw [if_neg mismatch]
      by_cases empty : args.tileBuffSize ≤ 0
      · have none_ : xvAllocateBuffer state.allocator args.tileBuffSize.toInt args.color.toInt tileBuffAlignment =
            some (state.allocator, none) := by
          rw [xvAllocateBuffer, if_pos (by simpa using Int32.le_iff_toInt_le.mp empty)]
        refine ⟨none, state, none, manager, live, by rw [none_]; rfl, noBuffer, ?_, backed⟩
        rw [createTile, few, if_neg refused, frame, if_neg mismatch, if_pos empty]
      · have bound : args.tileBuffSize.toInt < 2147483648 := args.tileBuffSize.toInt_lt
        obtain ⟨result, call, outcome⟩ := allocate_outcome ⟨state.allocator, live⟩ backed.backs.held args.tileBuffSize.toInt args.color.toInt
          tileBuffAlignment bound (by decide)
        simp only at call
        rw [call, Option.bind_some]
        cases outcome with
        | refused next held same =>
            refine ⟨none, ⟨state.manager, next⟩, none, manager, live, rfl, noBuffer, ?_, backed.alike,
              backs_same banks _ _ live backed.backs next same held, slots_safe_same state ⟨state.manager, next⟩ same backed.slots rfl⟩
            rw [createTile, few, if_neg refused, frame, if_neg mismatch, if_neg empty]
        | given next index address valid colored held same =>
            have given := given_buffer banks _ _ live backed.backs manager args.color next index _ valid colored same held rfl
            have one : ∀ addr ∈ some address, BufferGiven banks manager args.color addr := fun addr is => by
              rw [← Option.some.inj is]
              exact given
            have tiles : manager.tileAllocFlags = state.manager.tileAllocFlags := by rw [backed.alike]
            cases found : firstFree state.manager.tileAllocFlags with
            | some slot =>
                refine ⟨some address, _, _, _, _, rfl, one, ?_,
                  place_tile_refines banks manager state live backed next index _ pFrame valid same held slot⟩
                rw [createTile, few, if_neg refused, frame, if_neg mismatch, if_neg empty]
                simp only [tiles, found]
            | none =>
                have placed := backs_insert banks _ _ live backed.backs next index _ valid same held
                have valid_ : index < next.numMemBanks := by rw [same.number]; exact valid
                have inside := (given_fresh next live index _ valid_ held).1
                have place := bank_of_some next held.apart address index valid_ inside
                obtain ⟨last, freed, same_, done⟩ := free_outcome_bank ⟨next, _⟩ held address
                  fun bank bank_ => given_no_start live next index _ valid_ held bank bank_
                rcases done with ⟨-, -, zero | lost⟩ | ⟨-, held_, -⟩
                · exact absurd zero given.1
                · rw [show bankOf next address = some index from place] at lost
                  cases lost
                · simp only at freed
                  have erased := backs_erase banks _ _ _ placed last.1 address same_ held_
                  rw [Finset.erase_insert given.2.1] at erased
                  refine ⟨some address, ⟨state.manager, last.1⟩, none, manager, _, ?_, one, ?_, backed.alike, erased,
                    slots_safe_same state ⟨state.manager, last.1⟩ (same_banks_trans _ _ _ same same_) backed.slots rfl⟩
                  · simp only [freed, Option.map_some]
                  · have any_ := any_contains banks _ _ _ placed address
                    rw [place] at any_
                    rw [createTile, few, if_neg refused, frame, if_neg mismatch, if_neg empty]
                    have full : firstFree manager.tileAllocFlags = none := tiles ▸ found
                    simp only [full]
                    rw [freeBuffer, if_neg given.1, if_pos (by exact any_)]
                    have outside : address ∉ manager.buffers := given.2.1
                    simp only [Finset.erase_insert outside]

theorem release_refines (pointer : TilePtr) (allowed : TileAllowed state (.release pointer)) :
    ∃ next ok last after, releaseOn state pointer = some (next, ok) ∧ release banks manager pointer = (last, ok) ∧ Backed banks last next after := by
  rw [releaseOn, release]
  by_cases null : pointer = .null
  · exact ⟨state, false, manager, live, by rw [if_pos null], by rw [if_pos null], backed⟩
  · rw [if_neg null, if_neg null]
    have tile_ : manager.tileAt pointer = state.manager.tileAt pointer := by
      rw [backed.alike]
      cases pointer <;> rfl
    have noStart : ∀ bank < state.allocator.numMemBanks, (state.manager.tileAt pointer).pBuffer ≠ (state.allocator.banks bank).start := by
      intro bank valid
      cases pointer with
      | null => exact absurd rfl null
      | slot index => exact backed.slots index bank valid
      | other tile => exact allowed bank valid
    simp only [tile_]
    clear tile_
    generalize state.manager.tileAt pointer = tile at noStart ⊢
    obtain ⟨last, freed, same, done⟩ := free_outcome_bank ⟨state.allocator, live⟩ backed.backs.held tile.pBuffer noStart
    simp only at freed
    rw [freed, Option.map_some]
    have any_ := any_contains banks _ _ live backed.backs tile.pBuffer
    rcases done with ⟨refused, unchanged, outside⟩ | ⟨accepted, held, nonzero, inside⟩
    · have refused_ : freeBuffer banks manager tile.pBuffer = (manager, false) := by
        rw [freeBuffer]
        rcases outside with zero | lost
        · rw [if_pos zero]
        · rw [show bankOf state.allocator tile.pBuffer = none from lost] at any_
          rw [any_]
          split <;> rfl
      simp only at unchanged
      simp only [refused, refused_, if_true, unchanged]
      exact ⟨_, _, manager, live, rfl, rfl, backed⟩
    · have erased := backs_erase banks _ _ live backed.backs last.1 tile.pBuffer same held
      have accepted_ : freeBuffer banks manager tile.pBuffer = ({ manager with buffers := manager.buffers.erase tile.pBuffer }, true) := by
        have inside_ : (banks.any fun bank => bank.contains tile.pBuffer) = true := any_.trans inside
        rw [freeBuffer, if_neg nonzero, if_pos inside_]
      have gone : ∀ middle : XvTileManager, middle.tileArray = state.manager.tileArray → SlotsSafe ⟨middle, last.1⟩ :=
        fun middle array => slots_safe_same state ⟨middle, last.1⟩ same backed.slots array
      have alike := backed.alike
      generalize manager.buffers = buffers at alike accepted_ erased
      subst alike
      simp only [accepted, accepted_, Bool.true_eq_false, if_false]
      cases pointer.index with
      | none => exact ⟨_, _, _, _, rfl, rfl, rfl, erased, gone _ rfl⟩
      | some index =>
          simp only [freeTile, Bool.true_eq_false, if_false]
          cases tile.pFrame with
          | slot frame => exact ⟨_, _, _, _, rfl, rfl, rfl, erased, gone _ rfl⟩
          | null => exact ⟨_, _, _, _, rfl, rfl, rfl, erased, gone _ rfl⟩
          | error => exact ⟨_, _, _, _, rfl, rfl, rfl, erased, gone _ rfl⟩

theorem create_frame_refines (frame : FrameArgs) : (manager.createFrame frame).2 = (state.manager.createFrame frame).2 ∧
    (manager.createFrame frame).1.buffers = manager.buffers ∧
      Backed banks (manager.createFrame frame).1 ⟨(state.manager.createFrame frame).1, state.allocator⟩ live := by
  obtain ⟨alike, backs, slots⟩ := backed
  generalize manager.buffers = buffers at alike backs ⊢
  subst alike
  simp only [createFrame]
  split
  · exact ⟨rfl, rfl, rfl, backs, slots⟩
  · cases firstFree state.manager.frameAllocFlags with
    | none => exact ⟨rfl, rfl, rfl, backs, slots⟩
    | some index => exact ⟨rfl, rfl, rfl, backs, slots⟩

-- A step over the banks is a step of the pool, with what the banks gave for the allocator's answer.
theorem tile_bank_step_refines (ask : TileAsk) (tiles : Finset (Fin 32)) (allowed : TileAllowed state ask) :
    ∃ buffer next answer last others after, tileBankStep state ask = some (next, answer) ∧
      tileStep banks ⟨manager, tiles⟩ (ask.answered buffer) = some (⟨last, others⟩, answer) ∧ Backed banks last next after := by
  cases ask with
  | setup frame tile garbage =>
      obtain ⟨pointer, buffers, created⟩ := create_frame_refines banks manager state live backed frame
      obtain ⟨buffer, next, made, last, after, done, given, done_, backed_⟩ := create_tile_refines banks _ _ live created tile
        (state.manager.createFrame frame).2 garbage
      have given_ : ∀ addr ∈ buffer, BufferGiven banks manager tile.color addr := fun addr is => by
        obtain ⟨nonzero, fresh, inside⟩ := given addr is
        exact ⟨nonzero, buffers ▸ fresh, inside⟩
      have used : failedFrameUsed (bankList state.allocator) state.manager frame tile = failedFrameUsed banks manager frame tile := by
        rw [failedFrameUsed, failedFrameUsed, pointer, backed.backs.banks]
      refine ⟨buffer, next, .setup made (failedFrameUsed banks manager frame tile), last,
        made.elim tiles fun index => insert index tiles, after, ?_, ?_, backed_⟩
      · rw [tileBankStep, setupOn, used]
        simp only [done, Option.map_some]
      · rw [TileAsk.answered, tileStep, if_pos given_, setup]
        simp only [pointer, done_]
  | release pointer =>
      obtain ⟨next, ok, last, after, done, done_, backed_⟩ := release_refines banks manager state live backed pointer allowed
      refine ⟨none, next, .release ok, last, if ok = true then pointer.index.elim tiles tiles.erase else tiles, after, ?_, ?_, backed_⟩
      · rw [tileBankStep, done, Option.map_some]
      · rw [TileAsk.answered, tileStep]
        simp only [done_]

end Steps

section TileRuns

variable (banks : List MemBank)

theorem tile_bank_run_refines (asks : List TileAsk) (pool : TilePool) (state : TileBanks) (live : Nat → List HeapBuffer)
    (backed : Backed banks pool.manager state live) (guarded : Guarded (silent tileBankStep) TileAllowed state asks) :
    ∃ buffers finish answers last after, buffers.length = asks.length ∧ transcript tileBankStep state asks = some (finish, answers) ∧
      transcript (tileStep banks) pool (List.zipWith TileAsk.answered asks buffers) = some (last, answers) ∧
        Backed banks last.manager finish after := by
  induction asks generalizing pool state live with
  | nil => exact ⟨[], state, [], pool, live, rfl, rfl, rfl, backed⟩
  | cons ask rest ih =>
      obtain ⟨buffer, next, answer, last, others, after, taken, taken_, backed_⟩ :=
        tile_bank_step_refines banks pool.manager state live backed ask pool.live guarded.1
      obtain ⟨buffers, finish, answers, final, later, length, done, done_, kept⟩ := ih ⟨last, others⟩ next after backed_
        (guarded.2 next (by rw [silent, taken]; rfl))
      refine ⟨buffer :: buffers, finish, answer :: answers, final, later, by simp [length], ?_, ?_, kept⟩
      · exact (transcript_cons tileBankStep state finish ask rest _).mpr ⟨next, answer, answers, taken, done, rfl⟩
      · exact (transcript_cons (tileStep banks) pool final _ _ _).mpr ⟨⟨last, others⟩, answer, answers, taken_, done_, rfl⟩

end TileRuns

-- The tile manager over banks just made.
theorem initial_backed (dramStart dramEnd : Nat) (pools : Nat → Nat × Int) (allocator : BankAllocator) (numMemBanks : Int)
    (given : PoolsGiven pools numMemBanks.toNat) (ok : (xvInitMemAllocator dramStart dramEnd allocator numMemBanks pools).2 = true) :
    Backed (bankList (xvInitMemAllocator dramStart dramEnd allocator numMemBanks pools).1) initialPool.manager
      ⟨initialPool.manager, (xvInitMemAllocator dramStart dramEnd allocator numMemBanks pools).1⟩ fun _ => [] := by
  have held := init_bank_held dramStart dramEnd pools allocator numMemBanks given ok
  refine ⟨rfl, ⟨rfl, held, fun addr => ?_⟩, fun slot index valid => ?_⟩
  · simp [initialPool]
  · have start : 0 < ((xvInitMemAllocator dramStart dramEnd allocator numMemBanks pools).1.banks index).start :=
      (held.owns index valid).sized.start
    exact Nat.ne_of_lt start

-- Every run of set-ups and releases over the banks is answered, and as the pool of tiles answers it when its allocator
-- gives what the banks gave. The buffers of the pool are then disjoint.
theorem tile_banks_refine_pool (dramStart dramEnd : Nat) (pools : Nat → Nat × Int) (allocator : BankAllocator) (numMemBanks : Int)
    (given : PoolsGiven pools numMemBanks.toNat) (ok : (xvInitMemAllocator dramStart dramEnd allocator numMemBanks pools).2 = true)
    (asks : List TileAsk)
    (guarded : Guarded (silent tileBankStep) TileAllowed
      ⟨initialPool.manager, (xvInitMemAllocator dramStart dramEnd allocator numMemBanks pools).1⟩ asks) :
    ∃ buffers finish answers last live, buffers.length = asks.length ∧
      transcript tileBankStep ⟨initialPool.manager, (xvInitMemAllocator dramStart dramEnd allocator numMemBanks pools).1⟩ asks =
        some (finish, answers) ∧
      transcript (tileStep (bankList (xvInitMemAllocator dramStart dramEnd allocator numMemBanks pools).1)) initialPool
        (List.zipWith TileAsk.answered asks buffers) = some (last, answers) ∧
      last.manager = { finish.manager with buffers := last.manager.buffers } ∧ BankSound ⟨finish.allocator, live⟩ ∧
      ∀ addr, addr ∈ last.manager.buffers ↔
        ∃ index < finish.allocator.numMemBanks, ∃ buffer ∈ live index, buffer.address = addr := by
  obtain ⟨buffers, finish, answers, last, live, length, done, done_, backed⟩ := tile_bank_run_refines _ asks initialPool _ _
    (initial_backed dramStart dramEnd pools allocator numMemBanks given ok) guarded
  exact ⟨buffers, finish, answers, last, live, length, done, done_, backed.alike, bank_held_sound _ backed.backs.held, backed.backs.buffers⟩

theorem tile_banks_refine_pool_twice : ∃ buffers finish answers last, buffers.length = 2 ∧
    transcript tileBankStep ⟨initialPool.manager, (xvInitMemAllocator 4096 65536 blankBanks 2 twoPools).1⟩
      [.setup smallFrame smallTile ⟨0, 0⟩, .release (.slot 0)] = some (finish, answers) ∧
    transcript (tileStep (bankList (xvInitMemAllocator 4096 65536 blankBanks 2 twoPools).1)) initialPool
      (List.zipWith TileAsk.answered [.setup smallFrame smallTile ⟨0, 0⟩, .release (.slot 0)] buffers) = some (last, answers) := by
  obtain ⟨buffers, finish, answers, last, -, length, done, done_, -⟩ := tile_banks_refine_pool 4096 65536 twoPools blankBanks 2 two_pools_given
    (by decide +kernel) [.setup smallFrame smallTile ⟨0, 0⟩, .release (.slot 0)] (by decide +kernel)
  exact ⟨buffers, finish, answers, last, length, done, done_⟩

end CsiDsp
