import CsiDsp.Base.Runs
import CsiDsp.HeapFree

set_option autoImplicit false

namespace CsiDsp

open CInt BitArray Regions Runs Segment

-- A buffer that was given and not freed.
structure HeapBuffer where
  address : Nat
  size : Nat
  align : Nat
deriving DecidableEq, Repr

structure XvmemHeap where
  mgr : XvmemMgr
  live : List HeapBuffer

inductive HeapCall where
  | alloc (size align : Nat)
  | free (pointer : Nat)
deriving DecidableEq, Repr

def heapStep (heap : XvmemHeap) : HeapCall → Option XvmemHeap
  | .alloc size align => (xvmemAlloc heap.mgr size align).map fun (mgr, address, _) =>
      ⟨mgr, address.elim heap.live fun address => ⟨address, size, align⟩ :: heap.live⟩
  | .free pointer => (xvmemFree heap.mgr pointer).map fun mgr =>
      ⟨mgr, heap.live.filter fun buffer => buffer.address ≠ pointer⟩

-- A size and an alignment that the allocator can count with. The header in the pool, which is
-- no buffer, is never freed.
def HeapAllowed (heap : XvmemHeap) : HeapCall → Prop
  | .alloc size align => 0 < size ∧ 0 < align ∧ size + align ≤ 4294967296
  | .free pointer => heap.mgr.hasHeader = false → pointer ≠ heap.mgr.buffer

instance (heap : XvmemHeap) (call : HeapCall) : Decidable (HeapAllowed heap call) :=
  match call with
  | .alloc _ _ => inferInstanceAs (Decidable (_ ∧ _ ∧ _))
  | .free _ => inferInstanceAs (Decidable (_ → _))

-- The block that the header in the pool is in.
def headerBlocks (mgr : XvmemMgr) : List Nat := if mgr.hasHeader then [] else [0]

structure Holds (mgr : XvmemMgr) (buffer : HeapBuffer) (index : Nat) : Prop where
  address : buffer.address = mgr.aligned index
  aligned : buffer.align ∣ buffer.address
  room : buffer.address + buffer.size ≤ (mgr.region index).stop
  front : buffer.address < (mgr.region index).start + buffer.align
  tight : (mgr.region index).stop ≤ buffer.address + buffer.size + heap3MinAllocSize
  some_ : 0 < buffer.size

structure HeapHeld (heap : XvmemHeap) (free owners : List Nat) : Prop where
  inv : XvmemInv heap.mgr free [] (owners ++ headerBlocks heap.mgr)
  holds : List.Forall₂ (Holds heap.mgr) heap.live owners
  header : ∀ index ∈ headerBlocks heap.mgr,
    heap.mgr.region index = ⟨heap.mgr.buffer, heap.mgr.headerSize⟩ ∧ heap.mgr.aligned index = heap.mgr.buffer

section Init

variable (mgr : XvmemMgr) (buf size : Nat)

-- Blocks behind the first word of the bits are free, as the caller has to leave them.
structure PoolGiven (header : Option Nat) : Prop where
  start : 0 < buf
  some_ : 0 < size
  stop : buf + size ≤ 0xffffffff
  blocks : ∀ numBlocks ∈ header, 0 < numBlocks ∧ numBlocks < 2147483648 ∧
    ∀ index, 32 ≤ index → index < numBlocks → bit mgr.blockFreeBitvec index = true

theorem bit_first (bitvec : Nat → BitVec 32) (word : BitVec 32) (index : Nat) :
    bit (Function.update bitvec 0 word) index = if index < 32 then word.getLsbD index else bit bitvec index := by
  rcases Nat.lt_or_ge index 32 with inside | behind
  · have place := bit_of_word (Function.update bitvec 0 word) 0 index inside
    rw [Nat.mul_zero, Nat.zero_add, Function.update_self] at place
    rw [place, if_pos inside]
  · rw [bit, Function.update_of_ne (by omega), if_neg (by omega)]
    rfl

-- A manager whose pool is one free block, behind the header if that is in the pool.
structure FreshHeap (header : Bool) (next : XvmemMgr) (first : Nat) : Prop where
  hasHeader : next.hasHeader = header
  freeHead : next.next .freeListHead = some (.block first)
  freeNext : next.next (.block first) = some .freeListTail
  usedLinked : Path next.next (next.next .allocListHead) ((headerBlocks next).map .block) none
  tail : (next.nodes .freeListTail).buffer = 0xffffffff ∧ (next.nodes .freeListTail).blockSize = 0xffffffff
  valid : first < next.numBlocks ∧ next.numBlocks < 2147483648
  bits : ∀ index < next.numBlocks, bit next.blockFreeBitvec index = decide (first < index)
  layout : Layout next.region [first] (headerBlocks next) next.buffer (next.buffer + next.bufferSize)
  headerBlock : ∀ index ∈ headerBlocks next, index < first ∧
    next.region index = ⟨next.buffer, next.headerSize⟩ ∧ next.aligned index = next.buffer ∧ 0 < next.headerSize
  only : ∀ index < first, index ∈ headerBlocks next
  freeBytes : next.freeBytes = (next.region first).size
  allocatedBytes : next.allocatedBytes = total ((headerBlocks next).map next.region)
  whole : next.freeBytes + next.allocatedBytes = next.bufferSize
  pool : 0 < next.buffer ∧ next.buffer + next.bufferSize ≤ 0xffffffff

theorem fresh_held (header : Bool) (next : XvmemMgr) (first : Nat) (fresh : FreshHeap header next first) : HeapHeld ⟨next, []⟩ [first] [] := by
  refine ⟨⟨⟨fresh.freeHead, fresh.freeNext⟩, fresh.usedLinked, fun index member => ?_, fun index inside => ?_, fresh.tail, fresh.layout,
    fun index member => ?_, ?_, fresh.allocatedBytes, fresh.whole, fresh.pool, fresh.valid.2⟩, .nil, fun index member => ?_⟩
  · rcases List.mem_cons.mp member with same | inHeader
    · rw [same]
      exact fresh.valid.1
    · exact Nat.lt_trans (fresh.headerBlock index inHeader).1 fresh.valid.1
  · rw [fresh.bits index inside]
    refine decide_eq_decide.mpr ⟨fun above listed => ?_, fun missing => ?_⟩
    · rcases List.mem_cons.mp listed with same | inHeader
      · exact Nat.ne_of_gt above same
      · exact Nat.lt_asymm above (fresh.headerBlock index inHeader).1
    · by_contra low
      rcases Nat.lt_or_eq_of_le (Nat.le_of_not_lt low) with below | same
      · exact missing (List.mem_cons_of_mem first (fresh.only index below))
      · exact missing (by simp [same])
  · obtain ⟨-, region, aligned, some_⟩ := fresh.headerBlock index member
    simp only [region, aligned, Region.Has, Region.stop]
    omega
  · simp [fresh.freeBytes]
  · obtain ⟨-, region, aligned, -⟩ := fresh.headerBlock index member
    exact ⟨region, aligned⟩

theorem init_external_fresh (numBlocks : Nat) (given : PoolGiven mgr buf size (some numBlocks)) :
    FreshHeap true (xvmemInit mgr buf size (some numBlocks)).1 0 := by
  obtain ⟨start, some_, stop, blocks⟩ := given
  obtain ⟨any_, few, bits⟩ := blocks numBlocks rfl
  have made : (xvmemInit mgr buf size (some numBlocks)).1 = xvmemInitExternal (xvmemSentinels { mgr with
      buffer := buf, bufferSize := size, numBlocks := numBlocks, hasHeader := true,
      headerSize := u32 (blockStructSize * numBlocks + u32 (numBlocks + 31) / 32 * 4) }) buf size := by
    rw [xvmemInit, if_neg (Nat.ne_of_gt start)]
    rfl
  rw [made]
  generalize u32 (blockStructSize * numBlocks + u32 (numBlocks + 31) / 32 * 4) = headerSize
  have word : ∀ index < 32, (0xfffffffe : BitVec 32).getLsbD index = decide (0 < index) := by decide
  refine ⟨rfl, rfl, rfl, rfl, ⟨rfl, rfl⟩, ⟨any_, few⟩, fun index inside => ?_, layout_single _ 0 some_, fun index member => ?_,
    fun index below => ?_, rfl, rfl, rfl, ⟨start, stop⟩⟩
  · refine (bit_first mgr.blockFreeBitvec _ index).trans ?_
    split
    · exact word index (by assumption)
    · rw [bits index (by omega) inside]
      exact (decide_eq_true (by omega)).symm
  · cases member
  · exact absurd below (Nat.not_lt_zero index)

-- A manager with its header in the pool, before there is a block.
def headedPool : XvmemMgr :=
  xvmemSentinels { mgr with buffer := buf, bufferSize := size, numBlocks := 32, hasHeader := false, headerSize := 516 }

theorem header_size_value : u32 (blockStructSize * (heap3DefaultNumBlocks : Nat) + u32 ((heap3DefaultNumBlocks : Nat) + 31) / 32 * 4) = 516 := by
  decide

-- The pool has to have room for the header and a few bytes more.
theorem init_internal_ok (start : 0 < buf) : (xvmemInit mgr buf size none).2 = .ok ↔ 520 ≤ size := by
  have bound : u32 (516 + heap3MinAllocSize) = 520 := by decide
  rw [xvmemInit, if_neg (Nat.ne_of_gt start)]
  simp only [Option.getD_none, header_size_value]
  by_cases short : size < u32 (516 + heap3MinAllocSize)
  · rw [if_pos (by exact short)]
    rw [bound] at short
    simp only [reduceCtorEq, false_iff, Nat.not_le]
    exact short
  · rw [if_neg (by exact short)]
    rw [bound] at short
    simp only [true_iff]
    exact Nat.le_of_not_lt short

theorem init_internal_fresh (given : PoolGiven mgr buf size none) (ok : (xvmemInit mgr buf size none).2 = .ok) :
    FreshHeap false (xvmemInit mgr buf size none).1 1 := by
  obtain ⟨start, some_, stop, -⟩ := given
  have room := (init_internal_ok mgr buf size start).mp ok
  have enough : ¬ size < u32 (516 + heap3MinAllocSize) := Nat.not_lt.mpr room
  have made : (xvmemInit mgr buf size none).1 = xvmemInitInternal (headedPool mgr buf size) buf size := by
    rw [xvmemInit, if_neg (Nat.ne_of_gt start)]
    simp only [Option.getD_none, header_size_value]
    rw [if_neg (by exact enough)]
    rfl
  have rest : u32 ((buf : Int) + (516 : Nat)) = buf + 516 := u32_fits (buf + 516) (by omega)
  have left_ : u32 ((size : Int) - (516 : Nat)) = size - 516 := by
    have whole : ((size : Int) - (516 : Nat)) = ((size - 516 : Nat) : Int) := by omega
    rw [whole, u32_fits _ (by omega)]
  have word : ∀ index < 32, (0xfffffffc : BitVec 32).getLsbD index = decide (1 < index) := by decide
  rw [made]
  have front : (xvmemInitInternal (headedPool mgr buf size) buf size).region 0 = ⟨buf, 516⟩ := rfl
  have behind : (xvmemInitInternal (headedPool mgr buf size) buf size).region 1 =
        ⟨u32 ((buf : Int) + (516 : Nat)), u32 ((size : Int) - (516 : Nat))⟩ := rfl
  rw [rest, left_] at behind
  have layout := layout_front (xvmemInitInternal (headedPool mgr buf size) buf size).region 0 1
    (by omega) (by rw [front, behind]; rfl) (by rw [front]; simp) (by rw [behind]; simp only; omega)
  rw [front, behind] at layout
  refine ⟨rfl, rfl, rfl, ⟨rfl, rfl⟩, ⟨rfl, rfl⟩, ⟨(by omega : 1 < 32), (by omega : 32 < 2147483648)⟩, fun index inside => ?_, ?_, fun index member => ?_,
    fun index below => ?_, rfl, rfl, ?_, ⟨start, stop⟩⟩
  · refine (bit_first mgr.blockFreeBitvec _ index).trans ?_
    rw [if_pos (by exact inside)]
    exact word index inside
  · have high : (⟨buf + 516, size - 516⟩ : Region).stop = buf + size := by simp only [Region.stop]; omega
    rw [high] at layout
    exact layout
  · obtain rfl : index = 0 := List.mem_singleton.mp member
    exact ⟨by omega, rfl, rfl, (by omega : 0 < 516)⟩
  · obtain rfl : index = 0 := by omega
    exact List.mem_singleton_self 0
  · have bytes : (xvmemInitInternal (headedPool mgr buf size) buf size).freeBytes =
        u32 ((size : Int) - (516 : Nat)) := rfl
    rw [bytes, left_]
    exact (by omega : size - 516 + 516 = size)

-- A pool that xvmem_init takes holds no buffer yet.
theorem init_held (header : Option Nat) (given : PoolGiven mgr buf size header) (ok : (xvmemInit mgr buf size header).2 = .ok) :
    ∃ first, HeapHeld ⟨(xvmemInit mgr buf size header).1, []⟩ [first] [] := by
  cases header with
  | none => exact ⟨1, fresh_held false _ 1 (init_internal_fresh mgr buf size given ok)⟩
  | some numBlocks => exact ⟨0, fresh_held true _ 0 (init_external_fresh mgr buf size numBlocks given)⟩

end Init

section Step

variable (heap : XvmemHeap) (free owners : List Nat)

theorem header_blocks_same (mgr next : XvmemMgr) (pool : SamePool mgr next) : headerBlocks next = headerBlocks mgr := by
  rw [headerBlocks, headerBlocks, pool.hasHeader]

theorem holds_kept (mgr next : XvmemMgr) (live : List HeapBuffer) (holds : List.Forall₂ (Holds mgr) live owners)
    (kept : ∀ index ∈ owners, next.region index = mgr.region index ∧ next.aligned index = mgr.aligned index) :
    List.Forall₂ (Holds next) live owners := by
  induction holds with
  | nil => exact .nil
  | @cons buffer index buffers rest here later ih =>
      obtain ⟨region, aligned⟩ := kept index List.mem_cons_self
      refine .cons ?_ (ih fun other member => kept other (List.mem_cons_of_mem index member))
      exact ⟨by rw [aligned]; exact here.address, here.aligned, by rw [region]; exact here.room, by rw [region]; exact here.front,
        by rw [region]; exact here.tight, here.some_⟩

-- Blocks that stay as they are stay the buffers' and the header's.
theorem heap_held_next (next : XvmemMgr) (rest others : List Nat) (live : List HeapBuffer)
    (inv : XvmemInv next rest [] (others ++ headerBlocks heap.mgr)) (pool : SamePool heap.mgr next)
    (holds : List.Forall₂ (Holds next) live others)
    (header : ∀ index ∈ headerBlocks heap.mgr,
      heap.mgr.region index = ⟨heap.mgr.buffer, heap.mgr.headerSize⟩ ∧ heap.mgr.aligned index = heap.mgr.buffer)
    (kept : ∀ index ∈ headerBlocks heap.mgr, next.region index = heap.mgr.region index ∧ next.aligned index = heap.mgr.aligned index) :
    HeapHeld ⟨next, live⟩ rest others := by
  have blocks := header_blocks_same heap.mgr next pool
  refine ⟨by rw [blocks]; exact inv, holds, fun index member => ?_⟩
  rw [blocks] at member
  obtain ⟨region, aligned⟩ := kept index member
  obtain ⟨region_, aligned_⟩ := header index member
  exact ⟨by rw [region, region_, pool.buffer, pool.headerSize], by rw [aligned, aligned_, pool.buffer]⟩

variable (held : HeapHeld heap free owners)

include held

theorem heap_alloc_step (size align : Nat) (some_ : 0 < size) (align_ : 0 < align) (room : size + align ≤ 4294967296) :
    ∃ next rest others, heapStep heap (.alloc size align) = some next ∧ HeapHeld next rest others ∧ SamePool heap.mgr next.mgr := by
  by_cases legal : align &&& u32 (align - 1) = 0
  · obtain ⟨exponent, rfl⟩ := (align_legal align align_ (by omega)).mp legal
    obtain ⟨result, call, outcome⟩ := alloc_outcome heap.mgr free _ size exponent held.inv some_ room
    rw [heapStep, call, Option.map_some]
    cases outcome with
    | full unfit => exact ⟨heap, free, owners, rfl, held, ⟨rfl, rfl, rfl, rfl, rfl⟩⟩
    | headersOut next out =>
        have kept : ∀ index ∈ owners ++ headerBlocks heap.mgr,
            next.region index = heap.mgr.region index ∧ next.aligned index = heap.mgr.aligned index := fun index member =>
          ⟨congrFun out.region index, out.kept index member⟩
        exact ⟨⟨next, heap.live⟩, free, owners, rfl, heap_held_next heap next free owners heap.live out.inv out.pool
          (holds_kept owners heap.mgr next heap.live held.holds fun index member => kept index (List.mem_append_left _ member)) held.header
          fun index member => kept index (List.mem_append_right _ member), out.pool⟩
    | given next rest index given =>
        refine ⟨_, rest, index :: owners, rfl, heap_held_next heap next rest (index :: owners) _ given.inv given.pool (.cons ?_ ?_) held.header
          fun other member => given.kept other (List.mem_append_right _ member), given.pool⟩
        · have less := padding_lt (heap.mgr.region index).start (2 ^ exponent) align_
          have aligned := padding_aligned (heap.mgr.region index).start (2 ^ exponent) align_
          rw [← given.aligned] at aligned
          refine ⟨rfl, aligned, given.room, ?_, given.tight, some_⟩
          simp only [given.start, given.aligned]
          omega
        · exact holds_kept owners heap.mgr next heap.live held.holds fun other member => given.kept other (List.mem_append_left _ member)
  · refine ⟨heap, free, owners, ?_, held, ⟨rfl, rfl, rfl, rfl, rfl⟩⟩
    rw [heapStep, xvmemAlloc, if_pos legal]
    rfl

theorem aligned_apart (one two : Nat) (first : one ∈ owners ++ headerBlocks heap.mgr) (second : two ∈ owners ++ headerBlocks heap.mgr)
    (same : heap.mgr.aligned one = heap.mgr.aligned two) : one = two := by
  by_contra different
  have apart := layout_apart heap.mgr.region free _ one two _ _ held.inv.layout (List.mem_append_right _ first)
    (List.mem_append_right _ second) different
  have inside := held.inv.aligned one first
  have inside_ := held.inv.aligned two second
  simp only [Apart, Region.Has] at apart inside inside_
  omega

theorem heap_free_step (pointer : Nat) (allowed : heap.mgr.hasHeader = false → pointer ≠ heap.mgr.buffer) :
    ∃ next rest others, heapStep heap (.free pointer) = some next ∧ HeapHeld next rest others ∧ SamePool heap.mgr next.mgr := by
  obtain ⟨next, call, outcome⟩ := free_outcome heap.mgr free _ pointer held.inv
  have spared : ∀ index ∈ headerBlocks heap.mgr, heap.mgr.aligned index ≠ pointer := fun index member same => by
    cases header : heap.mgr.hasHeader with
    | true => simp [headerBlocks, header] at member
    | false => exact allowed header (same.symm.trans (held.header index member).2)
  have filtered : List.Forall₂ (Holds heap.mgr) (heap.live.filter fun buffer => buffer.address ≠ pointer)
      (owners.filter fun index => heap.mgr.aligned index ≠ pointer) := by
    refine List.rel_filter ?_ held.holds
    intro buffer index holds
    simp only [decide_eq_true_eq, holds.address]
  have stay : (headerBlocks heap.mgr).filter (fun index => heap.mgr.aligned index ≠ pointer) = headerBlocks heap.mgr :=
    List.filter_eq_self.mpr fun index member => decide_eq_true (spared index member)
  rw [heapStep, call, Option.map_some]
  cases outcome with
  | unknown missing =>
      have all : owners.filter (fun index => heap.mgr.aligned index ≠ pointer) = owners :=
        List.filter_eq_self.mpr fun index member => decide_eq_true (missing index (List.mem_append_left _ member))
      rw [all] at filtered
      exact ⟨_, free, owners, rfl, ⟨held.inv, filtered, held.header⟩, ⟨rfl, rfl, rfl, rfl, rfl⟩⟩
  | freed next before index after rest cut hit back =>
      have distinct := (List.nodup_append.mp held.inv.layout.distinct).2.1
      rw [List.nil_append, cut] at distinct
      have others (name : Nat) (member : name ∈ before ++ after) : heap.mgr.aligned name ≠ pointer := fun same => by
        have listed : name ∈ owners ++ headerBlocks heap.mgr := by
          rw [cut]
          simp only [List.mem_append, List.mem_cons] at member ⊢
          tauto
        have equal := aligned_apart heap free owners held name index listed (by simp [cut]) (same.trans hit.symm)
        rw [equal] at member
        simp only [List.nodup_append, List.nodup_cons, List.mem_cons, List.mem_append] at distinct member
        grind
      have left_ : (owners ++ headerBlocks heap.mgr).filter (fun name => heap.mgr.aligned name ≠ pointer) = before ++ after := by
        rw [cut, List.filter_append, List.filter_cons_of_neg (by simp [hit]), ← List.filter_append]
        exact List.filter_eq_self.mpr fun name member => decide_eq_true (others name member)
      rw [List.filter_append, stay] at left_
      have inv := back.inv
      rw [← left_] at inv
      have kept : ∀ name ∈ before ++ after, next.region name = heap.mgr.region name ∧ next.aligned name = heap.mgr.aligned name :=
        fun name member => ⟨back.kept name member, congrFun back.aligned name⟩
      rw [← left_] at kept
      exact ⟨_, rest, _, rfl, heap_held_next heap next rest _ _ inv back.pool
        (holds_kept _ heap.mgr next _ filtered fun name member => kept name (List.mem_append_left _ member)) held.header
        fun name member => kept name (List.mem_append_right _ member), back.pool⟩

theorem heap_step_held (call : HeapCall) (allowed : HeapAllowed heap call) :
    ∃ next rest others, heapStep heap call = some next ∧ HeapHeld next rest others ∧ SamePool heap.mgr next.mgr := by
  cases call with
  | alloc size align => exact heap_alloc_step heap free owners held size align allowed.1 allowed.2.1 allowed.2.2
  | free pointer => exact heap_free_step heap free owners held pointer allowed

end Step

-- Where the buffers may lie.
def XvmemMgr.low (mgr : XvmemMgr) : Nat := if mgr.hasHeader then mgr.buffer else mgr.buffer + mgr.headerSize

def XvmemMgr.high (mgr : XvmemMgr) : Nat := mgr.buffer + mgr.bufferSize

-- The buffers are disjoint parts of the pool, and what is no buffer cannot be freed.
structure HeapSound (heap : XvmemHeap) : Prop where
  aligned : ∀ buffer ∈ heap.live, buffer.align ∣ buffer.address
  inside : ∀ buffer ∈ heap.live, heap.mgr.low ≤ buffer.address ∧ buffer.address + buffer.size ≤ heap.mgr.high
  apart : heap.live.Pairwise fun first second =>
    first.address + first.size ≤ second.address ∨ second.address + second.size ≤ first.address
  whole : heap.mgr.freeBytes + heap.mgr.allocatedBytes = heap.mgr.bufferSize
  enough : (heap.live.map HeapBuffer.size).sum ≤ heap.mgr.allocatedBytes
  strange : ∀ pointer, HeapAllowed heap (.free pointer) → (∀ buffer ∈ heap.live, buffer.address ≠ pointer) →
    xvmemFree heap.mgr pointer = some heap.mgr

section Related

variable {First Second : Type} (relation : First → Second → Prop) (first : List First) (second : List Second)
  (related : List.Forall₂ relation first second)

include related

theorem related_member (one : First) (member : one ∈ first) : ∃ other ∈ second, relation one other := by
  induction related with
  | nil => cases member
  | @cons here there rest others alike later ih =>
      rcases List.mem_cons.mp member with rfl | inRest
      · exact ⟨there, List.mem_cons_self, alike⟩
      · obtain ⟨other, listed, found⟩ := ih inRest
        exact ⟨other, List.mem_cons_of_mem there listed, found⟩

theorem related_pairs (above : First → First → Prop) (below : Second → Second → Prop)
    (lifts : ∀ one two other another, relation one other → relation two another → below other another → above one two)
    (pairs : second.Pairwise below) : first.Pairwise above := by
  induction related with
  | nil => exact .nil
  | @cons here there rest others alike later ih =>
      obtain ⟨ahead, behind⟩ := List.pairwise_cons.mp pairs
      refine List.pairwise_cons.mpr ⟨fun one member => ?_, ih behind⟩
      obtain ⟨other, listed, found⟩ := related_member relation rest others later one member
      exact lifts here one there other alike found (ahead other listed)

end Related

section Held

variable (heap : XvmemHeap) (free owners : List Nat) (held : HeapHeld heap free owners)

include held

theorem owners_distinct : owners.Nodup ∧ ∀ index ∈ owners, index ∉ headerBlocks heap.mgr := by
  have distinct : (free ++ (owners ++ headerBlocks heap.mgr)).Nodup := held.inv.layout.distinct
  have parts := List.nodup_append.mp (List.nodup_append.mp distinct).2.1
  exact ⟨parts.1, fun index member listed => parts.2.2 index member index listed rfl⟩

theorem owner_aligned (index : Nat) (member : index ∈ owners) : (heap.mgr.region index).Has (heap.mgr.aligned index) :=
  held.inv.aligned index (by simp [member])

-- What is no header block lies behind the header.
theorem block_inside (index : Nat) (member : index ∈ free ++ owners) :
    heap.mgr.low ≤ (heap.mgr.region index).start ∧ (heap.mgr.region index).stop ≤ heap.mgr.high := by
  have all : (free ++ (owners ++ headerBlocks heap.mgr)).Nodup := held.inv.layout.distinct
  rw [← List.append_assoc] at all
  have listed : index ∈ free ++ ([] ++ (owners ++ headerBlocks heap.mgr)) := by
    rw [List.nil_append, ← List.append_assoc]
    exact List.mem_append_left _ member
  have inside := layout_inside heap.mgr.region free _ index _ _ held.inv.layout listed
  refine ⟨?_, inside.2⟩
  rw [XvmemMgr.low]
  cases has : heap.mgr.hasHeader with
  | true => exact inside.1
  | false =>
      have header : 0 ∈ headerBlocks heap.mgr := by simp [headerBlocks, has]
      have block := (held.header 0 header).1
      have different : (0 : Nat) ≠ index := fun same => (List.nodup_append.mp all).2.2 index member 0 header same.symm
      have apart := layout_apart heap.mgr.region free _ 0 index _ _ held.inv.layout (by simp [header]) listed different
      have filled := held.inv.layout.filled index listed
      rw [block] at apart
      simp only [Apart, Region.stop, Bool.false_eq_true, if_false] at apart inside ⊢
      omega

theorem buffer_inside (buffer : HeapBuffer) (member : buffer ∈ heap.live) :
    heap.mgr.low ≤ buffer.address ∧ buffer.address + buffer.size ≤ heap.mgr.high := by
  obtain ⟨index, listed, holds⟩ := related_member _ _ _ held.holds buffer member
  have inside := block_inside heap free owners held index (List.mem_append_right _ listed)
  have within := owner_aligned heap free owners held index listed
  have room := holds.room
  rw [← holds.address] at within
  simp only [Region.Has] at within
  omega

theorem buffers_apart : heap.live.Pairwise fun first second =>
    first.address + first.size ≤ second.address ∨ second.address + second.size ≤ first.address := by
  have layout := held.inv.layout
  have pairs : owners.Pairwise fun one two => one ∈ owners ∧ two ∈ owners ∧ one ≠ two := by
    have distinct := (owners_distinct heap free owners held).1
    exact (List.pairwise_iff_forall_sublist.mpr fun {one two} sub => ⟨sub.subset (by simp), sub.subset (by simp),
      List.pairwise_iff_forall_sublist.mp distinct sub⟩)
  refine related_pairs _ _ _ held.holds _ _ (fun first second one two here there both => ?_) pairs
  have apart := layout_apart heap.mgr.region free _ one two _ _ layout (by simp [both.1]) (by simp [both.2.1]) both.2.2
  have inside := owner_aligned heap free owners held one both.1
  have inside_ := owner_aligned heap free owners held two both.2.1
  rw [← here.address] at inside
  rw [← there.address] at inside_
  have room := here.room
  have room_ := there.room
  simp only [Apart, Region.Has] at apart inside inside_
  omega

theorem buffers_total : (heap.live.map HeapBuffer.size).sum ≤ total (owners.map heap.mgr.region) := by
  have aligned := owner_aligned heap free owners held
  have holds := held.holds
  clear held
  generalize heap.live = live at holds ⊢
  induction holds with
  | nil => exact Nat.le_refl 0
  | @cons buffer index rest others here later ih =>
      have fewer := ih fun other member => aligned other (List.mem_cons_of_mem index member)
      have inside := aligned index List.mem_cons_self
      have room := here.room
      have address := here.address
      simp only [Region.Has, Region.stop] at inside room
      rw [List.map_cons, List.sum_cons, List.map_cons, total_cons]
      omega

theorem held_sound : HeapSound heap := by
  refine ⟨fun buffer member => ?_, buffer_inside heap free owners held, buffers_apart heap free owners held, held.inv.whole, ?_,
    fun pointer allowed strange => ?_⟩
  · obtain ⟨index, listed, holds⟩ := related_member _ _ _ held.holds buffer member
    exact holds.aligned
  · have sizes := buffers_total heap free owners held
    rw [held.inv.allocatedBytes, List.map_append, total_append]
    omega
  · obtain ⟨next, call, outcome⟩ := free_outcome heap.mgr free _ pointer held.inv
    rw [call]
    cases outcome with
    | unknown missing => rfl
    | freed next before index after rest cut hit back =>
        exfalso
        have listed : index ∈ owners ++ headerBlocks heap.mgr := by simp [cut]
        rcases List.mem_append.mp listed with isOwner | isHeader
        · obtain ⟨buffer, member, holds⟩ := related_member _ _ _ held.holds.flip index isOwner
          exact strange buffer member (holds.address.trans hit)
        · cases has : heap.mgr.hasHeader with
          | true => simp [headerBlocks, has] at isHeader
          | false => exact allowed has (hit.symm.trans (held.header index isHeader).2)

theorem header_outside (room : Region) (low : heap.mgr.low ≤ room.start) :
    ∀ index ∈ headerBlocks heap.mgr, Apart room (heap.mgr.region index) := by
  intro index member
  have block := (held.header index member).1
  cases has : heap.mgr.hasHeader with
  | true => simp [headerBlocks, has] at member
  | false =>
      rw [XvmemMgr.low, has] at low
      rw [block]
      exact .inr low

-- Where every buffer stays clear of a room by what its block may be larger than it, a free block has the room.
theorem room_in_free (room : Region) (some_ : 0 < room.size) (low : heap.mgr.low ≤ room.start) (high : room.stop ≤ heap.mgr.high)
    (clear : ∀ buffer ∈ heap.live, room.start < buffer.address + buffer.size + heap3MinAllocSize →
      room.stop + buffer.align ≤ buffer.address + 1) :
    ∃ index ∈ free, (heap.mgr.region index).start ≤ room.start ∧ room.stop ≤ (heap.mgr.region index).stop := by
  have layout := held.inv.layout
  have tiled := layout.tiled
  rw [List.map_append] at tiled
  have bottom : heap.mgr.buffer ≤ room.start := by
    rw [XvmemMgr.low] at low
    split at low <;> omega
  obtain ⟨region, member, covers⟩ := free_room _ _ _ _ tiled layout.separated room some_ bottom high fun region listed => by
    obtain ⟨index, used, rfl⟩ := List.mem_map.mp listed
    have listed_ : index ∈ owners ++ headerBlocks heap.mgr := used
    rcases List.mem_append.mp listed_ with isOwner | isHeader
    · obtain ⟨buffer, given, holds⟩ := related_member _ _ _ held.holds.flip index isOwner
      have apart := clear buffer given
      have tight := holds.tight
      have front := holds.front
      simp only [Apart, Region.stop] at *
      omega
    · exact header_outside heap free owners held room low index isHeader
  obtain ⟨index, listed, rfl⟩ := List.mem_map.mp member
  exact ⟨index, listed, covers⟩

-- A request is refused where there is no room for it, or no header.
theorem refused_full (size exponent : Nat) (some_ : 0 < size) (room : size + 2 ^ exponent ≤ 4294967296) (next : XvmemMgr) (status : XvmemStatus)
    (refused : xvmemAlloc heap.mgr size (2 ^ exponent) = some (next, none, status)) :
    (∀ index ∈ free, ¬ Fits heap.mgr size exponent index) ∨ heap.mgr.numBlocks ≤ free.length + (heap.live.length + (headerBlocks heap.mgr).length) := by
  obtain ⟨result, call, outcome⟩ := alloc_outcome heap.mgr free _ size exponent held.inv some_ room
  have same : result = (next, none, status) := Option.some.inj (call.symm.trans refused)
  cases outcome with
  | full unfit => exact .inl unfit
  | headersOut other out =>
      right
      have all : List.range heap.mgr.numBlocks ⊆ free ++ (owners ++ headerBlocks heap.mgr) :=
        fun index member => out.full index (List.mem_range.mp member)
      have count := (List.subperm_of_subset List.nodup_range all).length_le
      rw [List.length_range, List.length_append, List.length_append] at count
      rw [held.holds.length_eq]
      exact count
  | given other rest index given => simp at same

-- When every buffer has been freed, the free list is one block.
theorem emptied_block (empty : heap.live = [])
    (some_ : heap.mgr.low < heap.mgr.high) : ∃ index, free = [index] ∧ owners = [] ∧
      (heap.mgr.region index).start = heap.mgr.low ∧ (heap.mgr.region index).stop = heap.mgr.high := by
  have none_ : owners = [] := by
    have holds := held.holds
    rw [empty] at holds
    exact List.forall₂_nil_left_iff.mp holds
  subst none_
  have inside (index : Nat) (member : index ∈ free) := block_inside heap free [] held index (List.mem_append_left _ member)
  obtain ⟨index, listed, start, stop⟩ : ∃ index ∈ free, (heap.mgr.region index).start ≤ heap.mgr.low ∧
      heap.mgr.low + (heap.mgr.high - heap.mgr.low) ≤ (heap.mgr.region index).stop := room_in_free heap free [] held ⟨heap.mgr.low, heap.mgr.high - heap.mgr.low⟩
    (by simp only; omega) (Nat.le_refl _) (by simp only [Region.stop]; omega) (fun buffer member => by rw [empty] at member; cases member)
  have bounds := inside index listed
  simp only [Region.stop] at stop bounds
  refine ⟨index, ?_, rfl, by omega, by simp only [Region.stop]; omega⟩
  have only : ∀ other ∈ free, other = index := fun other member => by
    by_contra different
    have apart := layout_apart heap.mgr.region free _ other index _ _ held.inv.layout (List.mem_append_left _ member)
      (List.mem_append_left _ listed) different
    have filled := held.inv.layout.filled other (List.mem_append_left _ member)
    have bounds_ := inside other member
    simp only [Apart, Region.stop] at apart bounds_
    omega
  have distinct := (List.nodup_append.mp held.inv.layout.distinct).1
  have count : free.length ≤ 1 := by
    have sub : free ⊆ [index] := fun other member => List.mem_singleton.mpr (only other member)
    exact (List.subperm_of_subset distinct sub).length_le
  obtain ⟨other, rfl⟩ := List.length_eq_one_iff.mp (Nat.le_antisymm count (List.length_pos_of_mem listed))
  rw [List.mem_singleton.mp listed]

end Held

theorem init_blocks (mgr : XvmemMgr) (buf size : Nat) (header : Option Nat) (start : 0 < buf) :
    (xvmemInit mgr buf size header).1.numBlocks = header.getD heap3DefaultNumBlocks ∧
      (xvmemInit mgr buf size header).1.hasHeader = header.isSome := by
  rw [xvmemInit, if_neg (Nat.ne_of_gt start)]
  cases header with
  | some numBlocks => exact ⟨rfl, rfl⟩
  | none =>
      simp only
      split
      · exact ⟨rfl, rfl⟩
      · exact ⟨rfl, rfl⟩

section Runs

variable (mgr : XvmemMgr) (buf size : Nat) (header : Option Nat) (given : PoolGiven mgr buf size header)
  (ok : (xvmemInit mgr buf size header).2 = .ok) (calls : List HeapCall)
  (guarded : Guarded heapStep HeapAllowed ⟨(xvmemInit mgr buf size header).1, []⟩ calls)

include given ok guarded

theorem heap_run_held : ∃ finish, run heapStep ⟨(xvmemInit mgr buf size header).1, []⟩ calls = some finish ∧
    (∃ free owners, HeapHeld finish free owners) ∧ SamePool (xvmemInit mgr buf size header).1 finish.mgr := by
  obtain ⟨first, held⟩ := init_held mgr buf size header given ok
  refine guarded_run_total heapStep HeapAllowed
    (fun heap => (∃ free owners, HeapHeld heap free owners) ∧ SamePool (xvmemInit mgr buf size header).1 heap.mgr)
    (fun heap call invariant allowed => ?_) _ calls ⟨⟨[first], [], held⟩, ⟨rfl, rfl, rfl, rfl, rfl⟩⟩ guarded
  obtain ⟨⟨free, owners, held⟩, pool⟩ := invariant
  obtain ⟨next, rest, others, taken, held_, pool_⟩ := heap_step_held heap free owners held call allowed
  exact ⟨next, taken, ⟨rest, others, held_⟩, same_pool_trans _ _ _ pool pool_⟩

-- Every run of calls is answered, and leaves disjoint buffers inside the pool.
theorem heap_run_sound : ∃ finish, run heapStep ⟨(xvmemInit mgr buf size header).1, []⟩ calls = some finish ∧ HeapSound finish := by
  obtain ⟨finish, ran, ⟨free, owners, held⟩, -⟩ := heap_run_held mgr buf size header given ok calls guarded
  exact ⟨finish, ran, held_sound finish free owners held⟩

variable (finish : XvmemHeap) (ran : run heapStep ⟨(xvmemInit mgr buf size header).1, []⟩ calls = some finish)

include ran

theorem heap_reached : (∃ free owners, HeapHeld finish free owners) ∧ SamePool (xvmemInit mgr buf size header).1 finish.mgr := by
  obtain ⟨other, ran_, held⟩ := heap_run_held mgr buf size header given ok calls guarded
  rw [Option.some.inj (ran.symm.trans ran_)]
  exact held

-- A request is refused only where every aligned place for it is taken, up to what a block may be larger than
-- its buffer, or where no header can be had, which takes half as many buffers as there are headers.
theorem heap_refused_full (request align : Nat) (some_ : 0 < request) (align_ : 0 < align) (room : request + align ≤ 4294967296)
    (next : XvmemMgr) (refused : xvmemAlloc finish.mgr request align = some (next, none, .allocFailed)) :
    (∀ address, align ∣ address → finish.mgr.low ≤ address → address + request ≤ finish.mgr.high →
      ∃ buffer ∈ finish.live, address < buffer.address + buffer.size + heap3MinAllocSize ∧
        buffer.address + 1 < address + request + buffer.align) ∨
      finish.mgr.numBlocks ≤ 2 * (finish.live.length + (headerBlocks finish.mgr).length) + 1 := by
  obtain ⟨⟨free, owners, held⟩, -⟩ := heap_reached mgr buf size header given ok calls guarded finish ran
  by_cases legal : align &&& u32 (align - 1) = 0
  · obtain ⟨exponent, rfl⟩ := (align_legal align align_ (by omega)).mp legal
    rcases refused_full finish free owners held request exponent some_ room next .allocFailed refused with unfit | full
    · left
      intro address aligned low high
      by_contra clear
      simp only [not_exists, not_and, Nat.not_lt] at clear
      obtain ⟨index, listed, start, stop⟩ := room_in_free finish free owners held ⟨address, request⟩ some_ low high
        fun buffer member near => clear buffer member near
      have least := padding_least (finish.mgr.region index).start (2 ^ exponent) address align_ start aligned
      refine unfit index listed ?_
      simp only [Fits, Region.stop] at stop ⊢
      omega
    · right
      have few := free_few finish.mgr.region free _ _ _ held.inv.layout
      rw [List.nil_append, List.length_append, ← held.holds.length_eq] at few
      omega
  · rw [xvmemAlloc, if_pos legal] at refused
    simp at refused

-- When every buffer has been freed, any request is met that the pool has room for.
theorem heap_emptied_whole (empty : finish.live = []) (blocks : ∀ numBlocks ∈ header, 2 ≤ numBlocks) (request exponent : Nat)
    (some_ : 0 < request) (room : request + 2 ^ exponent ≤ 4294967296)
    (fits : finish.mgr.low + padding finish.mgr.low (2 ^ exponent) + request ≤ finish.mgr.high) :
    ∃ next, xvmemAlloc finish.mgr request (2 ^ exponent) = some (next, some (finish.mgr.low + padding finish.mgr.low (2 ^ exponent)), .ok) := by
  obtain ⟨⟨free, owners, held⟩, pool⟩ := heap_reached mgr buf size header given ok calls guarded finish ran
  obtain ⟨index, rfl, rfl, start, stop⟩ := emptied_block finish free owners held empty (by omega)
  obtain ⟨result, call, outcome⟩ := alloc_outcome finish.mgr [index] _ request exponent held.inv some_ room
  cases outcome with
  | full unfit =>
      refine absurd ?_ (unfit index List.mem_cons_self)
      rw [Fits, start]
      simp only [Region.stop] at stop
      omega
  | headersOut next out =>
      exfalso
      have all : List.range finish.mgr.numBlocks ⊆ [index] ++ headerBlocks finish.mgr :=
        fun other member => out.full other (List.mem_range.mp member)
      have count := (List.subperm_of_subset List.nodup_range all).length_le
      obtain ⟨number, place⟩ := init_blocks mgr buf size header given.start
      rw [List.length_range, List.length_append, List.length_singleton, pool.numBlocks, number, headerBlocks, pool.hasHeader, place] at count
      cases header with
      | none => simp [heap3DefaultNumBlocks] at count
      | some numBlocks =>
          have enough := blocks numBlocks rfl
          simp at count
          omega
  | given next rest other given_ =>
      have same : other = index := List.mem_singleton.mp given_.was
      refine ⟨next, call.trans ?_⟩
      rw [given_.aligned, same, start]

end Runs

-- A pool of 4096 bytes with its header in it.
def blankMgr : XvmemMgr := ⟨0, 0, 0, 0, 0, fun _ => ⟨none, 0, 0, 0⟩, 0, fun _ => 0, 0, false⟩

theorem blank_pool_given : PoolGiven blankMgr 4096 4096 none := ⟨by omega, by omega, by omega, fun _ none_ => by cases none_⟩

def twoTaken : List HeapCall := [.alloc 100 64, .alloc 8 4, .free 4672]

theorem heap_run_sound_twice : ∃ finish, run heapStep ⟨(xvmemInit blankMgr 4096 4096 none).1, []⟩ twoTaken = some finish ∧ HeapSound finish :=
  heap_run_sound blankMgr 4096 4096 none blank_pool_given (by decide +kernel) twoTaken (by decide +kernel)

theorem heap_refused_full_large : ∃ finish next, run heapStep ⟨(xvmemInit blankMgr 4096 4096 none).1, []⟩ twoTaken = some finish ∧
    xvmemAlloc finish.mgr 8192 64 = some (next, none, .allocFailed) ∧
    ((∀ address, 64 ∣ address → finish.mgr.low ≤ address → address + 8192 ≤ finish.mgr.high →
      ∃ buffer ∈ finish.live, address < buffer.address + buffer.size + heap3MinAllocSize ∧
        buffer.address + 1 < address + 8192 + buffer.align) ∨
      finish.mgr.numBlocks ≤ 2 * (finish.live.length + (headerBlocks finish.mgr).length) + 1) :=
  ⟨_, _, rfl, rfl, heap_refused_full blankMgr 4096 4096 none blank_pool_given (by decide +kernel) twoTaken (by decide +kernel) _ rfl 8192 64
    (by omega) (by omega) (by omega) _ rfl⟩

theorem heap_emptied_whole_once : ∃ finish next,
    run heapStep ⟨(xvmemInit blankMgr 4096 4096 none).1, []⟩ [.alloc 100 64, .alloc 8 4, .free 4672, .free 4772] = some finish ∧
    xvmemAlloc finish.mgr 3520 (2 ^ 6) = some (next, some (finish.mgr.low + padding finish.mgr.low (2 ^ 6)), .ok) := by
  obtain ⟨next, call⟩ := heap_emptied_whole blankMgr 4096 4096 none blank_pool_given (by decide +kernel)
    [.alloc 100 64, .alloc 8 4, .free 4672, .free 4772] (by decide +kernel) _ rfl rfl (fun _ none_ => by cases none_) 3520 6 (by omega) (by omega)
    (by decide +kernel)
  exact ⟨_, next, rfl, call⟩

end CsiDsp
