import CsiDsp.HeapRuns

set_option autoImplicit false

namespace CsiDsp

open CInt Regions Runs

-- One bank of the tile manager: pMemBankStart, memBankSize and memBankMgr.
structure XvBank where
  start : Nat
  size : Int
  mgr : XvmemMgr

structure BankAllocator where
  numMemBanks : Nat
  banks : Nat → XvBank

def maxNumMemBanks : Nat := 8

-- XV_MEM_BANK_COLOR_ANY
def colorAny : Nat := 0xBEEDDEAF

namespace BankAllocator

variable (allocator : BankAllocator)

def setMgr (color : Nat) (mgr : XvmemMgr) : BankAllocator :=
  { allocator with banks := Function.update allocator.banks color { allocator.banks color with mgr := mgr } }

end BankAllocator

-- The loop of xvInitMemAllocator over the pools. The data RAM ends at dramEnd.
def initBanks (dramStart dramEnd : Nat) (pools : Nat → Nat × Int) : (turns index : Nat) → BankAllocator → BankAllocator × Bool
  | 0, _, allocator => (allocator, true)
  | turns + 1, index, allocator =>
      let (start, size) := pools index
      if start = 0 ∨ size ≤ 0 then (allocator, false)
      else if ¬ (dramStart ≤ start ∧ u32 (start + size) ≤ dramEnd) then (allocator, false)
      else
        let (mgr, status) := xvmemInit (allocator.banks index).mgr start (u32 size) none
        let allocator := { allocator with banks := Function.update allocator.banks index ⟨start, size, mgr⟩ }
        if status ≠ .ok then (allocator, false) else initBanks dramStart dramEnd pools turns (index + 1) allocator

def xvInitMemAllocator (dramStart dramEnd : Nat) (allocator : BankAllocator) (numMemBanks : Int) (pools : Nat → Nat × Int) :
    BankAllocator × Bool :=
  if numMemBanks ≤ 0 ∨ numMemBanks > maxNumMemBanks then (allocator, false)
  else initBanks dramStart dramEnd pools numMemBanks.toNat 0 { allocator with numMemBanks := numMemBanks.toNat }

section Calls

variable (allocator : BankAllocator) (buffSize buffColor buffAlignment : Int)

def allocateIn (color : Nat) : Option (BankAllocator × Option Nat) :=
  (xvmemAlloc (allocator.banks color).mgr (u32 buffSize) (u32 buffAlignment)).map fun (mgr, address, _) =>
    (allocator.setMgr color mgr, address)

-- The banks in turn, up to the first that has room.
def allocateAny : (turns currColor : Nat) → BankAllocator → Option (BankAllocator × Option Nat)
  | 0, _, allocator => some (allocator, none)
  | turns + 1, currColor, allocator => (allocateIn allocator buffSize buffAlignment currColor).bind fun (allocator, address) =>
      match address with
      | some address => some (allocator, some address)
      | none => allocateAny turns (currColor + 1) allocator

def xvAllocateBuffer : Option (BankAllocator × Option Nat) :=
  if buffSize ≤ 0 then some (allocator, none)
  else if buffAlignment ≤ 0 then some (allocator, none)
  else if ¬ (0 ≤ buffColor ∧ buffColor < allocator.numMemBanks ∨ u32 buffColor = colorAny) then some (allocator, none)
  else if u32 buffColor = colorAny then allocateAny buffSize buffAlignment allocator.numMemBanks 0 allocator
  else allocateIn allocator buffSize buffAlignment buffColor.toNat

def XvBank.has (bank : XvBank) (pointer : Nat) : Bool := bank.start ≤ pointer && pointer < bank.start + bank.size

-- The first bank that the pointer lies in.
def bankOf (pointer : Nat) : Option Nat := (List.range allocator.numMemBanks).find? fun index => (allocator.banks index).has pointer

def xvFreeBuffer (pointer : Nat) : Option (BankAllocator × Bool) :=
  if pointer = 0 then some (allocator, false)
  else match bankOf allocator pointer with
  | none => some (allocator, false)
  | some index => (xvmemFree (allocator.banks index).mgr pointer).map fun mgr => (allocator.setMgr index mgr, true)

-- Every bank as xvInitMemAllocator makes it, whatever is given.
def xvFreeAllBuffers : BankAllocator :=
  { allocator with banks := fun index =>
      if index < allocator.numMemBanks then
        { allocator.banks index with
            mgr := (xvmemInit (allocator.banks index).mgr (allocator.banks index).start (u32 (allocator.banks index).size) none).1 }
      else allocator.banks index }

end Calls

-- The banks, and what was given from each of them.
structure BankClient where
  allocator : BankAllocator
  live : Nat → List HeapBuffer

inductive BankCall where
  | alloc (size color align : Int)
  | free (pointer : Nat)
  | freeAll
deriving DecidableEq, Repr

def BankClient.given (client : BankClient) (size align : Int) (address : Nat) : Nat → List HeapBuffer :=
  (bankOf client.allocator address).elim client.live fun index =>
    Function.update client.live index (⟨address, size.toNat, align.toNat⟩ :: client.live index)

def BankClient.freed (client : BankClient) (pointer : Nat) : Nat → List HeapBuffer :=
  (bankOf client.allocator pointer).elim client.live fun index =>
    Function.update client.live index ((client.live index).filter fun buffer => buffer.address ≠ pointer)

def bankStep (client : BankClient) : BankCall → Option BankClient
  | .alloc size color align => (xvAllocateBuffer client.allocator size color align).map fun (allocator, address) =>
      ⟨allocator, address.elim client.live (client.given size align)⟩
  | .free pointer => (xvFreeBuffer client.allocator pointer).map fun (allocator, ok) =>
      ⟨allocator, if ok then client.freed pointer else client.live⟩
  | .freeAll => some ⟨xvFreeAllBuffers client.allocator, fun _ => []⟩

-- Sizes and alignments are int32_t. The start of a bank, where its header is, is not freed.
def BankAllowed (client : BankClient) : BankCall → Prop
  | .alloc size _ align => size < 2147483648 ∧ align < 2147483648
  | .free pointer => ∀ index < client.allocator.numMemBanks, pointer ≠ (client.allocator.banks index).start
  | .freeAll => True

instance (client : BankClient) (call : BankCall) : Decidable (BankAllowed client call) :=
  match call with
  | .alloc _ _ _ => inferInstanceAs (Decidable (_ ∧ _))
  | .free _ => inferInstanceAs (Decidable (∀ index < _, _))
  | .freeAll => .isTrue trivial

structure BankSized (bank : XvBank) : Prop where
  start : 0 < bank.start
  size : 520 ≤ bank.size
  stop : bank.start + bank.size ≤ 0xffffffff

def BanksApart (allocator : BankAllocator) : Prop :=
  ∀ one < allocator.numMemBanks, ∀ two < allocator.numMemBanks, one ≠ two →
    (allocator.banks one).start + (allocator.banks one).size ≤ (allocator.banks two).start ∨
      (allocator.banks two).start + (allocator.banks two).size ≤ (allocator.banks one).start

structure BankOwns (bank : XvBank) (live : List HeapBuffer) : Prop where
  held : ∃ free owners, HeapHeld ⟨bank.mgr, live⟩ free owners
  buffer : bank.mgr.buffer = bank.start
  bufferSize : (bank.mgr.bufferSize : Int) = bank.size
  headed : bank.mgr.hasHeader = false
  sized : BankSized bank

structure BankHeld (client : BankClient) : Prop where
  owns : ∀ index < client.allocator.numMemBanks, BankOwns (client.allocator.banks index) (client.live index)
  apart : BanksApart client.allocator

section Owns

variable (bank : XvBank) (live : List HeapBuffer) (owns : BankOwns bank live)

include owns

theorem owned_inside (buffer : HeapBuffer) (member : buffer ∈ live) : 0 < buffer.size ∧ bank.start < buffer.address ∧
    (buffer.address : Int) + buffer.size ≤ bank.start + bank.size := by
  obtain ⟨⟨free, owners, held⟩, start, size, headed, sized⟩ := owns
  have inside := buffer_inside _ free owners held buffer member
  obtain ⟨index, -, holds⟩ := related_member _ _ _ held.holds buffer member
  have header : 0 ∈ headerBlocks bank.mgr := by simp [headerBlocks, headed]
  have filled := held.inv.layout.filled 0 (by simp [header])
  rw [(held.header 0 header).1] at filled
  simp only [XvmemMgr.low, XvmemMgr.high, headed, Bool.false_eq_true, if_false] at inside filled
  exact ⟨holds.some_, by omega, by omega⟩

theorem owned_has (buffer : HeapBuffer) (member : buffer ∈ live) : bank.has buffer.address = true := by
  have inside := owned_inside bank live owns buffer member
  simp only [XvBank.has, Bool.and_eq_true, decide_eq_true_eq]
  omega

-- What one call of the heap does to a bank.
theorem owns_step (next : XvmemMgr) (after : List HeapBuffer) (call : HeapCall) (allowed : HeapAllowed ⟨bank.mgr, live⟩ call)
    (taken : heapStep ⟨bank.mgr, live⟩ call = some ⟨next, after⟩) : BankOwns { bank with mgr := next } after := by
  obtain ⟨⟨free, owners, held⟩, start, size, headed, sized⟩ := owns
  obtain ⟨reached, rest, others, done, held_, pool⟩ := heap_step_held _ free owners held call allowed
  obtain rfl : reached = ⟨next, after⟩ := Option.some.inj (done.symm.trans taken)
  exact ⟨⟨rest, others, held_⟩, pool.buffer.trans start, (congrArg Int.ofNat pool.bufferSize).trans size, pool.hasHeader.trans headed,
    ⟨sized.start, sized.size, sized.stop⟩⟩

theorem owns_total (call : HeapCall) (allowed : HeapAllowed ⟨bank.mgr, live⟩ call) :
    ∃ next after, heapStep ⟨bank.mgr, live⟩ call = some ⟨next, after⟩ := by
  obtain ⟨free, owners, held⟩ := owns.held
  obtain ⟨reached, rest, others, done, -, -⟩ := heap_step_held _ free owners held call allowed
  exact ⟨reached.mgr, reached.live, done⟩

end Owns

section Banks

variable (client : BankClient) (held : BankHeld client)

theorem has_apart (allocator : BankAllocator) (apart : BanksApart allocator) (pointer one two : Nat) (first : one < allocator.numMemBanks)
    (second : two < allocator.numMemBanks) (inOne : (allocator.banks one).has pointer = true) (inTwo : (allocator.banks two).has pointer = true) :
    one = two := by
  by_contra different
  have away := apart one first two second different
  simp only [XvBank.has, Bool.and_eq_true, decide_eq_true_eq] at inOne inTwo
  omega

theorem bank_of_has (allocator : BankAllocator) (pointer index : Nat) (found : bankOf allocator pointer = some index) :
    index < allocator.numMemBanks ∧ (allocator.banks index).has pointer = true :=
  ⟨List.mem_range.mp (List.mem_of_find?_eq_some found), List.find?_some (p := fun other => (allocator.banks other).has pointer) found⟩

theorem bank_of_some (allocator : BankAllocator) (apart : BanksApart allocator) (pointer index : Nat) (valid : index < allocator.numMemBanks)
    (inside : (allocator.banks index).has pointer = true) : bankOf allocator pointer = some index := by
  cases found : bankOf allocator pointer with
  | none =>
      have missing := List.find?_eq_none.mp found index (List.mem_range.mpr valid)
      exact absurd inside missing
  | some other =>
      obtain ⟨listed, here⟩ := bank_of_has allocator pointer other found
      rw [has_apart allocator apart pointer other index listed valid here inside]

structure SameBanks (allocator next : BankAllocator) : Prop where
  number : next.numMemBanks = allocator.numMemBanks
  start : ∀ index, (next.banks index).start = (allocator.banks index).start
  size : ∀ index, (next.banks index).size = (allocator.banks index).size

theorem same_banks_set (allocator : BankAllocator) (index : Nat) (mgr : XvmemMgr) : SameBanks allocator (allocator.setMgr index mgr) := by
  refine ⟨rfl, fun other => ?_, fun other => ?_⟩
  · by_cases here : other = index
    · subst here
      simp [BankAllocator.setMgr]
    · simp [BankAllocator.setMgr, Function.update_of_ne here]
  · by_cases here : other = index
    · subst here
      simp [BankAllocator.setMgr]
    · simp [BankAllocator.setMgr, Function.update_of_ne here]

theorem same_banks_trans (allocator middle next : BankAllocator) (first : SameBanks allocator middle) (second : SameBanks middle next) :
    SameBanks allocator next :=
  ⟨second.number.trans first.number, fun index => (second.start index).trans (first.start index),
    fun index => (second.size index).trans (first.size index)⟩

-- A bank that changes as one call of its heap does.
theorem bank_held_set (index : Nat) (mgr : XvmemMgr) (live : List HeapBuffer)
    (owns : BankOwns { client.allocator.banks index with mgr := mgr } live) (held : BankHeld client) :
    BankHeld ⟨client.allocator.setMgr index mgr, Function.update client.live index live⟩ := by
  have same := same_banks_set client.allocator index mgr
  constructor
  · intro other valid
    by_cases here : other = index
    · subst here
      simp only [BankAllocator.setMgr, Function.update_self]
      exact owns
    · simp only [BankAllocator.setMgr, Function.update_of_ne here]
      exact held.owns other valid
  · intro one first two second different
    rw [same.start, same.size, same.start, same.size]
    exact held.apart one first two second different

-- A call of the allocator leaves the buffers as they are, or gives one more from a bank that was asked.
inductive BankOutcome (client : BankClient) (size align : Int) (asked : Nat → Prop) : BankAllocator × Option Nat → Prop where
  | refused (next : BankAllocator) (held : BankHeld ⟨next, client.live⟩) (same : SameBanks client.allocator next) :
      BankOutcome client size align asked (next, none)
  | given (next : BankAllocator) (index address : Nat) (valid : index < client.allocator.numMemBanks) (asked_ : asked index)
      (held : BankHeld ⟨next, Function.update client.live index (⟨address, size.toNat, align.toNat⟩ :: client.live index)⟩)
      (same : SameBanks client.allocator next) : BankOutcome client size align asked (next, some address)

theorem allocate_in_outcome (held : BankHeld client) (size align : Int) (some_ : 0 < size) (align_ : 0 < align) (fits : size < 2147483648)
    (fits_ : align < 2147483648) (color : Nat) (valid : color < client.allocator.numMemBanks) :
    ∃ result, allocateIn client.allocator size align color = some result ∧
      BankOutcome client size align (fun index => index = color) result := by
  have owns := held.owns color valid
  have size_ : u32 size = size.toNat := by
    have whole : size = (size.toNat : Int) := by omega
    rw [whole, u32_fits _ (by omega)]
    omega
  have align__ : u32 align = align.toNat := by
    have whole : align = (align.toNat : Int) := by omega
    rw [whole, u32_fits _ (by omega)]
    omega
  have allowed : HeapAllowed ⟨(client.allocator.banks color).mgr, client.live color⟩ (.alloc size.toNat align.toNat) :=
    ⟨by omega, by omega, by omega⟩
  obtain ⟨next, after, taken⟩ := owns_total _ _ owns (.alloc size.toNat align.toNat) allowed
  have changed := owns_step _ _ owns next after _ allowed taken
  rw [heapStep, Option.map_eq_some_iff] at taken
  obtain ⟨⟨mgr, address, status⟩, call, same⟩ := taken
  obtain ⟨rfl, rfl⟩ := XvmemHeap.mk.inj same
  refine ⟨(client.allocator.setMgr color mgr, address), ?_, ?_⟩
  · rw [allocateIn, size_, align__, call]
    rfl
  · have kept := bank_held_set client color mgr _ changed held
    cases address with
    | none =>
        rw [Option.elim_none, Function.update_eq_self] at kept
        exact .refused _ kept (same_banks_set _ color mgr)
    | some address => exact .given _ color address valid rfl kept (same_banks_set _ color mgr)

theorem bank_outcome_asked (size align : Int) (asked others : Nat → Prop) (result : BankAllocator × Option Nat)
    (outcome : BankOutcome client size align asked result) (more : ∀ index, asked index → others index) :
    BankOutcome client size align others result := by
  cases outcome with
  | refused next held same => exact .refused next held same
  | given next index address valid asked_ held same => exact .given next index address valid (more index asked_) held same

theorem allocate_any_outcome (held : BankHeld client) (size align : Int) (some_ : 0 < size) (align_ : 0 < align) (fits : size < 2147483648)
    (fits_ : align < 2147483648) (turns color : Nat) (valid : color + turns ≤ client.allocator.numMemBanks) :
    ∃ result, allocateAny size align turns color client.allocator = some result ∧ BankOutcome client size align (fun _ => True) result := by
  induction turns generalizing client color with
  | zero => exact ⟨_, rfl, .refused _ held ⟨rfl, fun _ => rfl, fun _ => rfl⟩⟩
  | succ turns ih =>
      obtain ⟨result, call, outcome⟩ := allocate_in_outcome client held size align some_ align_ fits fits_ color (by omega)
      rw [allocateAny, call, Option.bind_some]
      cases outcome with
      | given next index address valid_ asked held_ same =>
          exact ⟨_, rfl, .given next index address valid_ trivial held_ same⟩
      | refused next held_ same =>
          obtain ⟨last, later, outcome⟩ := ih ⟨next, client.live⟩ held_ (color + 1) (by simp only [same.number]; omega)
          refine ⟨last, later, ?_⟩
          cases outcome with
          | refused final held__ same_ => exact .refused final held__ (same_banks_trans _ _ _ same same_)
          | given final index address valid_ asked held__ same_ =>
              exact .given final index address (same.number ▸ valid_) trivial held__ (same_banks_trans _ _ _ same same_)

-- The banks that a color names.
def Colored (color : Int) (index : Nat) : Prop := u32 color = colorAny ∨ color = index

theorem allocate_outcome (held : BankHeld client) (size color align : Int) (fits : size < 2147483648) (fits_ : align < 2147483648) :
    ∃ result, xvAllocateBuffer client.allocator size color align = some result ∧ BankOutcome client size align (Colored color) result := by
  have unchanged : BankOutcome client size align (Colored color) (client.allocator, none) :=
    .refused _ held ⟨rfl, fun _ => rfl, fun _ => rfl⟩
  rw [xvAllocateBuffer]
  split
  · exact ⟨_, rfl, unchanged⟩
  · rename_i some_
    split
    · exact ⟨_, rfl, unchanged⟩
    · rename_i align_
      split
      · exact ⟨_, rfl, unchanged⟩
      · rename_i colored
        split
        · rename_i any_
          obtain ⟨result, call, outcome⟩ := allocate_any_outcome client held size align (by omega) (by omega) fits fits_
            client.allocator.numMemBanks 0 (by omega)
          exact ⟨result, call, bank_outcome_asked client size align _ _ result outcome fun index _ => .inl any_⟩
        · rename_i named
          have valid : 0 ≤ color ∧ color < client.allocator.numMemBanks := by
            by_contra outside
            exact colored fun either => either.elim outside named
          obtain ⟨result, call, outcome⟩ := allocate_in_outcome client held size align (by omega) (by omega) fits fits_ color.toNat (by omega)
          refine ⟨result, call, bank_outcome_asked client size align _ _ result outcome fun index same => .inr ?_⟩
          rw [same]
          omega

theorem free_outcome_bank (held : BankHeld client) (pointer : Nat)
    (allowed : ∀ index < client.allocator.numMemBanks, pointer ≠ (client.allocator.banks index).start) :
    ∃ next, xvFreeBuffer client.allocator pointer = some next ∧ SameBanks client.allocator next.1 ∧
      (next.2 = false ∧ next.1 = client.allocator ∧ (pointer = 0 ∨ bankOf client.allocator pointer = none) ∨
        next.2 = true ∧ BankHeld ⟨next.1, client.freed pointer⟩ ∧ pointer ≠ 0 ∧ (bankOf client.allocator pointer).isSome) := by
  have stay : SameBanks client.allocator client.allocator := ⟨rfl, fun _ => rfl, fun _ => rfl⟩
  rw [xvFreeBuffer]
  split
  · rename_i zero
    exact ⟨_, rfl, stay, .inl ⟨rfl, rfl, .inl zero⟩⟩
  · rename_i some_
    cases found : bankOf client.allocator pointer with
    | none => exact ⟨_, rfl, stay, .inl ⟨rfl, rfl, .inr rfl⟩⟩
    | some index =>
        have valid := (bank_of_has _ pointer index found).1
        have owns := held.owns index valid
        have free_ : HeapAllowed ⟨(client.allocator.banks index).mgr, client.live index⟩ (.free pointer) := fun _ => by
          rw [owns.buffer]
          exact allowed index valid
        obtain ⟨next, after, taken⟩ := owns_total _ _ owns (.free pointer) free_
        have changed := owns_step _ _ owns next after _ free_ taken
        rw [heapStep, Option.map_eq_some_iff] at taken
        obtain ⟨mgr, call, same⟩ := taken
        obtain ⟨rfl, rfl⟩ := XvmemHeap.mk.inj same
        refine ⟨(client.allocator.setMgr index mgr, true), ?_, same_banks_set _ index mgr, .inr ⟨rfl, ?_, some_, rfl⟩⟩
        · simp only [call, Option.map_some]
        · have kept := bank_held_set client index mgr _ changed held
          rw [BankClient.freed, found]
          exact kept

-- A bank that is made anew.
theorem owns_fresh (mgr : XvmemMgr) (start : Nat) (size : Int) (sized : BankSized ⟨start, size, mgr⟩) :
    BankOwns ⟨start, size, (xvmemInit mgr start (u32 size) none).1⟩ [] := by
  obtain ⟨some_, room, stop⟩ := sized
  simp only at some_ room stop
  have size_ : u32 size = size.toNat := by
    have whole : size = (size.toNat : Int) := by omega
    rw [whole, u32_fits _ (by omega)]
    omega
  have given : PoolGiven mgr start size.toNat none := ⟨some_, by omega, by omega, fun _ none_ => by cases none_⟩
  have ok := (init_internal_ok mgr start size.toNat some_).mpr (by omega)
  obtain ⟨first, held⟩ := init_held mgr start size.toNat none given ok
  have fresh := init_internal_fresh mgr start size.toNat given ok
  rw [size_]
  have pool : (xvmemInit mgr start size.toNat none).1.buffer = start ∧ (xvmemInit mgr start size.toNat none).1.bufferSize = size.toNat := by
    rw [xvmemInit, if_neg (Nat.ne_of_gt some_)]
    simp only
    split
    · exact ⟨rfl, rfl⟩
    · exact ⟨rfl, rfl⟩
  exact ⟨⟨[first], [], held⟩, pool.1, (congrArg Int.ofNat pool.2).trans (by simp only [Int.ofNat_eq_natCast]; omega), fresh.hasHeader,
    ⟨some_, room, stop⟩⟩

theorem bank_step_held (held : BankHeld client) (call : BankCall) (allowed : BankAllowed client call) :
    ∃ next, bankStep client call = some next ∧ BankHeld next ∧ SameBanks client.allocator next.allocator := by
  cases call with
  | alloc size color align =>
      obtain ⟨result, taken, outcome⟩ := allocate_outcome client held size color align allowed.1 allowed.2
      rw [bankStep, taken, Option.map_some]
      cases outcome with
      | refused next held_ same => exact ⟨_, rfl, held_, same⟩
      | given next index address valid asked held_ same =>
          refine ⟨_, rfl, ?_, same⟩
          have owns := held_.owns index (by simp only [same.number]; exact valid)
          simp only [Function.update_self] at owns
          have inside := owned_has _ _ owns _ List.mem_cons_self
          have here : (client.allocator.banks index).has address = true := by
            simpa only [XvBank.has, same.start, same.size] using inside
          have place := bank_of_some client.allocator held.apart address index valid here
          simp only [Option.elim_some, BankClient.given, place]
          exact held_
  | free pointer =>
      obtain ⟨next, taken, same, done⟩ := free_outcome_bank client held pointer allowed
      rw [bankStep, taken, Option.map_some]
      rcases done with ⟨refused, unchanged, -⟩ | ⟨freed, held_, -⟩
      · refine ⟨_, rfl, ?_, same⟩
        simp only [refused, unchanged]
        exact held
      · refine ⟨_, rfl, ?_, same⟩
        simp only [freed]
        exact held_
  | freeAll =>
      have same : SameBanks client.allocator (xvFreeAllBuffers client.allocator) := by
        refine ⟨rfl, fun index => ?_, fun index => ?_⟩
        · simp only [xvFreeAllBuffers]
          split <;> rfl
        · simp only [xvFreeAllBuffers]
          split <;> rfl
      refine ⟨_, rfl, ⟨fun index valid => ?_, ?_⟩, same⟩
      · have valid_ : index < client.allocator.numMemBanks := valid
        have sized := (held.owns index valid_).sized
        simp only [xvFreeAllBuffers, if_pos valid_]
        exact owns_fresh _ _ _ ⟨sized.start, sized.size, sized.stop⟩
      · intro one first two second different
        rw [same.start, same.size, same.start, same.size]
        exact held.apart one first two second different

end Banks

section InitBanks

variable (dramStart dramEnd : Nat) (pools : Nat → Nat × Int)

-- The pools are memory of the address space, and apart.
structure PoolsGiven (number : Nat) : Prop where
  stop : ∀ index < number, (pools index).1 + (pools index).2 ≤ 0xffffffff
  apart : ∀ one < number, ∀ two < number, one ≠ two →
    (pools one).1 + (pools one).2 ≤ (pools two).1 ∨ (pools two).1 + (pools two).2 ≤ (pools one).1

theorem init_banks_done (turns index : Nat) (allocator final : BankAllocator)
    (fits : ∀ other < index + turns, index ≤ other → (pools other).1 + (pools other).2 ≤ 0xffffffff)
    (done : initBanks dramStart dramEnd pools turns index allocator = (final, true)) :
    final.numMemBanks = allocator.numMemBanks ∧ (∀ other < index, final.banks other = allocator.banks other) ∧
      ∀ other < index + turns, index ≤ other → BankOwns (final.banks other) [] ∧
        (final.banks other).start = (pools other).1 ∧ (final.banks other).size = (pools other).2 := by
  induction turns generalizing index allocator with
  | zero =>
      obtain ⟨rfl, -⟩ := Prod.mk.inj done
      exact ⟨rfl, fun _ _ => rfl, fun other below above => by omega⟩
  | succ turns ih =>
      rw [initBanks] at done
      simp only at done
      split at done
      · simp at done
      · rename_i positive
        split at done
        · simp at done
        · split at done
          · simp at done
          · rename_i ok
            obtain ⟨number, kept, owned⟩ := ih (index + 1) _ (fun other below above => fits other (by omega) (by omega)) done
            have here := kept index (Nat.lt_succ_self index)
            simp only [Function.update_self] at here
            refine ⟨number, fun other below => ?_, fun other below above => ?_⟩
            · have apart : other ≠ index := by omega
              exact (kept other (by omega)).trans (Function.update_of_ne apart _ _)
            · rcases Nat.eq_or_lt_of_le above with rfl | later
              · have bound := fits index (by omega) (Nat.le_refl _)
                rw [not_or] at positive
                have size_ : u32 (pools index).2 = (pools index).2.toNat := by
                  have whole : (pools index).2 = ((pools index).2.toNat : Int) := by omega
                  rw [whole, u32_fits _ (by omega)]
                  omega
                have fine : (xvmemInit (allocator.banks index).mgr (pools index).1 (pools index).2.toNat none).2 = .ok := by
                  rw [← size_]
                  exact not_not.mp ok
                have room := (init_internal_ok _ _ _ (Nat.pos_of_ne_zero positive.1)).mp fine
                rw [here]
                exact ⟨owns_fresh (allocator.banks index).mgr _ _ ⟨Nat.pos_of_ne_zero positive.1, by simp only; omega, bound⟩, rfl, rfl⟩
              · exact owned other (by omega) (by omega)

theorem init_bank_held (allocator : BankAllocator) (numMemBanks : Int) (given : PoolsGiven pools numMemBanks.toNat)
    (ok : (xvInitMemAllocator dramStart dramEnd allocator numMemBanks pools).2 = true) :
    BankHeld ⟨(xvInitMemAllocator dramStart dramEnd allocator numMemBanks pools).1, fun _ => []⟩ := by
  rw [xvInitMemAllocator] at ok ⊢
  split at ok
  · cases ok
  · rename_i number
    rw [if_neg number]
    cases made : initBanks dramStart dramEnd pools numMemBanks.toNat 0 { allocator with numMemBanks := numMemBanks.toNat } with
    | mk final done =>
        rw [made] at ok
        obtain rfl : done = true := ok
        obtain ⟨count, -, owned⟩ := init_banks_done dramStart dramEnd pools numMemBanks.toNat 0 _ final
          (fun other below _ => given.stop other (by omega)) made
        simp only at count
        refine ⟨fun index valid => (owned index (by simp only [count] at valid; omega) (Nat.zero_le index)).1, ?_⟩
        intro one first two second different
        simp only [count] at first second
        have left_ := (owned one (by omega) (Nat.zero_le one)).2
        have right_ := (owned two (by omega) (Nat.zero_le two)).2
        rw [left_.1, left_.2, right_.1, right_.2]
        exact given.apart one first two second different

end InitBanks

-- All buffers, of whatever bank, are disjoint, aligned and inside their banks.
structure BankSound (client : BankClient) : Prop where
  inside : ∀ index < client.allocator.numMemBanks, ∀ buffer ∈ client.live index, 0 < buffer.size ∧ buffer.align ∣ buffer.address ∧
    (client.allocator.banks index).start < buffer.address ∧
      (buffer.address : Int) + buffer.size ≤ (client.allocator.banks index).start + (client.allocator.banks index).size
  apart : ∀ one < client.allocator.numMemBanks, ∀ two < client.allocator.numMemBanks, one ≠ two →
    ∀ first ∈ client.live one, ∀ second ∈ client.live two,
      first.address + first.size ≤ second.address ∨ second.address + second.size ≤ first.address
  within : ∀ index < client.allocator.numMemBanks, (client.live index).Pairwise fun first second =>
    first.address + first.size ≤ second.address ∨ second.address + second.size ≤ first.address

theorem bank_held_sound (client : BankClient) (held : BankHeld client) : BankSound client := by
  have inside : ∀ index < client.allocator.numMemBanks, ∀ buffer ∈ client.live index, 0 < buffer.size ∧
      (client.allocator.banks index).start < buffer.address ∧
        (buffer.address : Int) + buffer.size ≤ (client.allocator.banks index).start + (client.allocator.banks index).size :=
    fun index valid buffer member => owned_inside _ _ (held.owns index valid) buffer member
  refine ⟨fun index valid buffer member => ?_, fun one first_ two second_ different first member second member_ => ?_, fun index valid => ?_⟩
  · obtain ⟨size, low, high⟩ := inside index valid buffer member
    obtain ⟨free, owners, heap⟩ := (held.owns index valid).held
    exact ⟨size, (held_sound _ free owners heap).aligned buffer member, low, high⟩
  · have here := inside one first_ first member
    have there := inside two second_ second member_
    have away := held.apart one first_ two second_ different
    omega
  · obtain ⟨free, owners, heap⟩ := (held.owns index valid).held
    exact (held_sound _ free owners heap).apart

-- A buffer that comes on top is none of those before it.
theorem given_fresh (next : BankAllocator) (live : Nat → List HeapBuffer) (index : Nat) (buffer : HeapBuffer) (valid : index < next.numMemBanks)
    (held : BankHeld ⟨next, Function.update live index (buffer :: live index)⟩) : (next.banks index).has buffer.address = true ∧
      ∀ other < next.numMemBanks, ∀ old ∈ live other, old.address ≠ buffer.address := by
  have owns := held.owns index valid
  simp only [Function.update_self] at owns
  have here := owned_has _ _ owns buffer List.mem_cons_self
  refine ⟨here, fun other valid_ old member same => ?_⟩
  by_cases alike : other = index
  · subst alike
    have sound := (bank_held_sound _ held).within other valid
    simp only [Function.update_self] at sound
    have apart := (List.pairwise_cons.mp sound).1 old member
    have size := (owned_inside _ _ owns buffer List.mem_cons_self).1
    have size_ := (owned_inside _ _ owns old (List.mem_cons_of_mem _ member)).1
    omega
  · have owns_ := held.owns other valid_
    simp only [Function.update_of_ne alike] at owns_
    have there := owned_has _ _ owns_ old member
    rw [same] at there
    exact alike (has_apart next held.apart buffer.address other index valid_ valid there here)

section BankRuns

variable (dramStart dramEnd : Nat) (pools : Nat → Nat × Int) (allocator : BankAllocator) (numMemBanks : Int)
  (given : PoolsGiven pools numMemBanks.toNat) (ok : (xvInitMemAllocator dramStart dramEnd allocator numMemBanks pools).2 = true)
  (calls : List BankCall)
  (guarded : Guarded bankStep BankAllowed ⟨(xvInitMemAllocator dramStart dramEnd allocator numMemBanks pools).1, fun _ => []⟩ calls)

include given ok guarded

-- Every run of calls is answered, and a buffer is given from a bank of the color that was asked for.
theorem bank_run_sound : ∃ finish,
    run bankStep ⟨(xvInitMemAllocator dramStart dramEnd allocator numMemBanks pools).1, fun _ => []⟩ calls = some finish ∧ BankSound finish ∧
      ∀ size color align next address, size < 2147483648 → align < 2147483648 →
        xvAllocateBuffer finish.allocator size color align = some (next, some address) →
          ∃ index < finish.allocator.numMemBanks, Colored color index ∧ (finish.allocator.banks index).has address = true ∧
            ∀ other < finish.allocator.numMemBanks, ∀ buffer ∈ finish.live other, buffer.address ≠ address := by
  obtain ⟨finish, ran, held⟩ := guarded_run_total bankStep BankAllowed BankHeld
    (fun client call held allowed => by
      obtain ⟨next, taken, held_, -⟩ := bank_step_held client held call allowed
      exact ⟨next, taken, held_⟩) _ calls (init_bank_held dramStart dramEnd pools allocator numMemBanks given ok) guarded
  refine ⟨finish, ran, bank_held_sound finish held, fun size color align next address fits fits_ call => ?_⟩
  obtain ⟨result, call_, outcome⟩ := allocate_outcome finish held size color align fits fits_
  obtain rfl : result = (next, some address) := Option.some.inj (call_.symm.trans call)
  cases outcome with
  | given next index address valid asked held_ same =>
      obtain ⟨here, fresh⟩ := given_fresh next finish.live index _ (by rw [same.number]; exact valid) held_
      refine ⟨index, valid, asked, ?_, fun other valid_ buffer member => fresh other (by rw [same.number]; exact valid_) buffer member⟩
      simpa only [XvBank.has, same.start, same.size] using here

end BankRuns

-- Two banks of 4096 bytes.
def twoPools (index : Nat) : Nat × Int := (4096 + 4096 * index, 4096)

def blankBanks : BankAllocator := ⟨0, fun _ => ⟨0, 0, blankMgr⟩⟩

theorem two_pools_given : PoolsGiven twoPools (2 : Int).toNat := by
  refine ⟨fun index valid => ?_, fun one first two second different => ?_⟩
  · have below : index < 2 := valid
    simp only [twoPools]
    omega
  · simp only [twoPools]
    omega

theorem bank_run_sound_twice : ∃ finish,
    run bankStep ⟨(xvInitMemAllocator 4096 65536 blankBanks 2 twoPools).1, fun _ => []⟩ [.alloc 3000 (-1091707217) 64, .alloc 3000 (-1091707217) 64] =
      some finish ∧ BankSound finish := by
  obtain ⟨finish, ran, sound, -⟩ := bank_run_sound 4096 65536 twoPools blankBanks 2 two_pools_given (by decide +kernel)
    [.alloc 3000 (-1091707217) 64, .alloc 3000 (-1091707217) 64] (by decide +kernel)
  exact ⟨finish, ran, sound⟩

end CsiDsp
