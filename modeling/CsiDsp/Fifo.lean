import CsiDsp.Base.CInt

set_option autoImplicit false

namespace CsiDsp

open CInt

inductive EfifoStatus where
  | empty
  | notmal
  | full
  | missPush
  | reachMax
  | overflow
deriving DecidableEq, Repr

-- head, tail, depth and max_index are uint16_t and offset is int16_t: every
-- store below goes through the conversion to the field's type.
structure Sfifo where
  head : Nat
  tail : Nat
  depth : Nat
  maxIndex : Nat
  offset : Int
  status : EfifoStatus
deriving DecidableEq, Repr

def resetFifo (depth : Nat) (baseIndex : Int) (max : Nat) : Sfifo := ⟨0, 0, depth, max, baseIndex, .empty⟩

def isEnoughSpaceToPushFifo (fifo : Sfifo) (element : Nat) : Bool :=
  decide ((fifo.tail : Int) + element - fifo.head ≤ fifo.depth)

def isEnoughElementToPopFifo (fifo : Sfifo) (element : Nat) : Bool := decide (fifo.head + element ≤ fifo.tail)

def isOverflowFifo (fifo : Sfifo) : Bool := fifo.status == .overflow

def isEmptyFifo (fifo : Sfifo) : Bool := fifo.tail == fifo.head

def pushFifo (fifo : Sfifo) (element offset : Nat) : Sfifo × Bool :=
  if isEnoughSpaceToPushFifo fifo (u16 (element + offset : Nat)) then
    ({ fifo with tail := u16 (fifo.tail + element : Nat) }, true)
  else ({ fifo with status := .overflow }, false)

def popFifo (fifo : Sfifo) (element : Nat) : Sfifo × Bool :=
  if isEmptyFifo fifo || isOverflowFifo fifo || !isEnoughElementToPopFifo fifo element then (fifo, false)
  else ({ fifo with head := u16 (fifo.head + element : Nat) }, true)

-- The result none is the trap of a division by zero.
def getHeadFifo (fifo : Sfifo) : Option Nat :=
  if fifo.depth = 0 then none else some (u16 (Int.tmod (fifo.head + fifo.offset) fifo.depth))

def getTailFifo (fifo : Sfifo) : Option Int :=
  if fifo.depth = 0 then none else some (i16 (Int.tmod (fifo.tail + fifo.offset) fifo.depth))

def getElementNumFifo (fifo : Sfifo) : Nat := u16 ((fifo.tail : Int) - fifo.head)

def getHeadIndexFifo (fifo : Sfifo) : Int := i16 fifo.head

def getTailIndexFifo (fifo : Sfifo) : Int := i16 fifo.tail

def isLastEntryPushFifo (fifo : Sfifo) : Bool := fifo.tail == fifo.maxIndex

def isLastEntryToPushFifo (fifo : Sfifo) (elements : Nat) : Bool := (fifo.tail : Int) == (fifo.maxIndex : Int) - elements

def isLastEntryPopFifo (fifo : Sfifo) : Bool := fifo.head == fifo.maxIndex

def isLastEntryToPopFifo (fifo : Sfifo) (elements : Nat) : Bool := (fifo.head : Int) == (fifo.maxIndex : Int) - elements

-- The FIFO of one frame whose first line lies at ring line base. The status
-- is left free: nothing but a refused push changes it.
structure FrameFifo (fifo : Sfifo) (depth maxIndex base head tail : Nat) : Prop where
  headEq : fifo.head = head
  tailEq : fifo.tail = tail
  depthEq : fifo.depth = depth
  maxEq : fifo.maxIndex = maxIndex
  offsetEq : fifo.offset = base

theorem frame_fifo_reset (depth maxIndex base : Nat) :
    FrameFifo (resetFifo depth base maxIndex) depth maxIndex base 0 0 := ⟨rfl, rfl, rfl, rfl, rfl⟩

-- An Eisp_bool is never negative, whatever its callers test it for.
@[simp] theorem eisp_bool_never (answer : Bool) : ¬ answer.toInt < 0 := by
  cases answer <;> decide

section FrameFifo

variable (fifo : Sfifo) (depth maxIndex base head tail : Nat) (frame : FrameFifo fifo depth maxIndex base head tail)

include frame

theorem frame_fifo_head (positive : 0 < depth) (short : depth ≤ 65536) :
    getHeadFifo fifo = some ((base + head) % depth) := by
  have below := Nat.mod_lt (base + head) positive
  have sum : (head : Int) + (base : Int) = ((base + head : Nat) : Int) := by omega
  rw [getHeadFifo, frame.headEq, frame.depthEq, frame.offsetEq, if_neg (by omega), sum, tmod_nat, u16_fits _ (by omega)]

theorem frame_fifo_tail (positive : 0 < depth) (short : (base + tail) % depth < 32768) :
    getTailFifo fifo = some (((base + tail) % depth : Nat) : Int) := by
  have sum : (tail : Int) + (base : Int) = ((base + tail : Nat) : Int) := by omega
  rw [getTailFifo, frame.tailEq, frame.depthEq, frame.offsetEq, if_neg (by omega), sum, tmod_nat, i16_fits _ short]

theorem frame_fifo_elements (ordered : head ≤ tail) (fits : tail < 65536) : getElementNumFifo fifo = tail - head := by
  have difference : (tail : Int) - (head : Int) = ((tail - head : Nat) : Int) := by omega
  rw [getElementNumFifo, frame.headEq, frame.tailEq, difference, u16_fits _ (by omega)]

theorem frame_fifo_head_index (short : head < 32768) : getHeadIndexFifo fifo = head := by
  rw [getHeadIndexFifo, frame.headEq, i16_fits _ short]

theorem frame_fifo_push (element offset : Nat) (small : element + offset < 65536) (fits : tail + element < 65536)
    (room : tail + element + offset ≤ depth + head) :
    pushFifo fifo element offset = ({ fifo with tail := tail + element }, true) := by
  have enough : isEnoughSpaceToPushFifo fifo (element + offset) = true := by
    simp only [isEnoughSpaceToPushFifo, frame.headEq, frame.tailEq, frame.depthEq, decide_eq_true_eq]
    omega
  rw [pushFifo, u16_fits _ small, if_pos enough, frame.tailEq, u16_fits _ fits]

theorem frame_fifo_push_refused (element offset : Nat) (small : element + offset < 65536)
    (crowded : depth + head < tail + element + offset) :
    pushFifo fifo element offset = ({ fifo with status := .overflow }, false) := by
  have scarce : ¬ isEnoughSpaceToPushFifo fifo (element + offset) = true := by
    simp only [isEnoughSpaceToPushFifo, frame.headEq, frame.tailEq, frame.depthEq, decide_eq_true_eq]
    omega
  rw [pushFifo, u16_fits _ small, if_neg scarce]

theorem frame_fifo_pop (element : Nat) (fits : tail < 65536) (healthy : fifo.status ≠ .overflow)
    (filled : head < tail) (enough : head + element ≤ tail) :
    popFifo fifo element = ({ fifo with head := head + element }, true) := by
  have different : tail ≠ head := by omega
  have allowed : ¬ (isEmptyFifo fifo || isOverflowFifo fifo || !isEnoughElementToPopFifo fifo element) = true := by
    simp [isEmptyFifo, isOverflowFifo, isEnoughElementToPopFifo, frame.headEq, frame.tailEq, healthy, enough, different]
  rw [popFifo, if_neg allowed, frame.headEq, u16_fits _ (by omega)]

theorem frame_fifo_pushed (element : Nat) :
    FrameFifo { fifo with tail := tail + element } depth maxIndex base head (tail + element) :=
  ⟨frame.headEq, rfl, frame.depthEq, frame.maxEq, frame.offsetEq⟩

theorem frame_fifo_popped (element : Nat) :
    FrameFifo { fifo with head := head + element } depth maxIndex base (head + element) tail :=
  ⟨rfl, frame.tailEq, frame.depthEq, frame.maxEq, frame.offsetEq⟩

theorem frame_fifo_status (status : EfifoStatus) :
    FrameFifo { fifo with status := status } depth maxIndex base head tail :=
  ⟨frame.headEq, frame.tailEq, frame.depthEq, frame.maxEq, frame.offsetEq⟩

end FrameFifo

end CsiDsp
