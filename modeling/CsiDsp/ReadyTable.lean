import Mathlib.Logic.Function.Basic

set_option autoImplicit false

namespace CsiDsp

-- The number of the lowest bit set in a byte, and 0 for the byte 0.
def taskUmmap : List Nat :=
  [0, 0, 1, 0, 2, 0, 1, 0, 3, 0, 1, 0, 2, 0, 1, 0, 4, 0, 1, 0, 2, 0, 1, 0, 3, 0, 1, 0, 2, 0, 1, 0,
   5, 0, 1, 0, 2, 0, 1, 0, 3, 0, 1, 0, 2, 0, 1, 0, 4, 0, 1, 0, 2, 0, 1, 0, 3, 0, 1, 0, 2, 0, 1, 0,
   6, 0, 1, 0, 2, 0, 1, 0, 3, 0, 1, 0, 2, 0, 1, 0, 4, 0, 1, 0, 2, 0, 1, 0, 3, 0, 1, 0, 2, 0, 1, 0,
   5, 0, 1, 0, 2, 0, 1, 0, 3, 0, 1, 0, 2, 0, 1, 0, 4, 0, 1, 0, 2, 0, 1, 0, 3, 0, 1, 0, 2, 0, 1, 0,
   7, 0, 1, 0, 2, 0, 1, 0, 3, 0, 1, 0, 2, 0, 1, 0, 4, 0, 1, 0, 2, 0, 1, 0, 3, 0, 1, 0, 2, 0, 1, 0,
   5, 0, 1, 0, 2, 0, 1, 0, 3, 0, 1, 0, 2, 0, 1, 0, 4, 0, 1, 0, 2, 0, 1, 0, 3, 0, 1, 0, 2, 0, 1, 0,
   6, 0, 1, 0, 2, 0, 1, 0, 3, 0, 1, 0, 2, 0, 1, 0, 4, 0, 1, 0, 2, 0, 1, 0, 3, 0, 1, 0, 2, 0, 1, 0,
   5, 0, 1, 0, 2, 0, 1, 0, 3, 0, 1, 0, 2, 0, 1, 0, 4, 0, 1, 0, 2, 0, 1, 0, 3, 0, 1, 0, 2, 0, 1, 0]

-- g_task_rdy_grp and g_task_rdy_Tbl: bit lsb of tbl[msb] stands for priority
-- 8 * msb + lsb, and bit msb of grp says that tbl[msb] has a bit set. A plain
-- char is unsigned on this machine.
structure ReadyTable where
  grp : BitVec 8
  tbl : Fin 8 → BitVec 8

def zeroReady : ReadyTable := ⟨0, fun _ => 0⟩

def priLsb (pri : Nat) : Nat := pri % 8

def priMsb (pri : Nat) : Fin 8 := Fin.ofNat 8 (pri / 8)

def setReadyTask (ready : ReadyTable) (pri : Nat) : ReadyTable :=
  { grp := ready.grp ||| BitVec.twoPow 8 (priMsb pri).val
    tbl := Function.update ready.tbl (priMsb pri) (ready.tbl (priMsb pri) ||| BitVec.twoPow 8 (priLsb pri)) }

-- The part of clr_ready_task behind the is_done check.
def clearBit (ready : ReadyTable) (pri : Nat) : ReadyTable :=
  let row := ready.tbl (priMsb pri) &&& ~~~BitVec.twoPow 8 (priLsb pri)
  { grp := if row = 0 then ready.grp &&& ~~~BitVec.twoPow 8 (priMsb pri).val else ready.grp
    tbl := Function.update ready.tbl (priMsb pri) row }

-- A task's task_empty_check: it may set other bits before it answers.
abbrev EmptyCheck := ReadyTable → ReadyTable × Bool

def clrReadyTask (ready : ReadyTable) (pri : Nat) (isDone : Option EmptyCheck) : ReadyTable :=
  match isDone with
  | none => clearBit ready pri
  | some check => if (check ready).2 then clearBit (check ready).1 pri else (check ready).1

def psIsIdleTaskDone : EmptyCheck := fun ready => (ready, false)

-- empty is the answer of ps_is_vipre_task_empty.
def dspVipreTaskCheck (empty : Bool) (highPriTask : Int) : EmptyCheck := fun ready =>
  if empty || decide (highPriTask < 0) then (ready, true) else (setReadyTask ready highPriTask.toNat, false)

def getReadyTask (ready : ReadyTable) : Nat :=
  let msb := taskUmmap.getD ready.grp.toNat 0
  let lsb := taskUmmap.getD (ready.tbl (Fin.ofNat 8 msb)).toNat 0
  8 * msb + lsb

def isReady (ready : ReadyTable) (pri : Nat) : Bool := (ready.tbl (priMsb pri)).getLsbD (priLsb pri)

def GroupsAgree (ready : ReadyTable) : Prop := ∀ msb : Fin 8, ready.grp.getLsbD msb.val = true ↔ ready.tbl msb ≠ 0

theorem task_ummap_lowest (byte : BitVec 8) (nonzero : byte ≠ 0) :
    taskUmmap.getD byte.toNat 0 < 8 ∧ byte.getLsbD (taskUmmap.getD byte.toNat 0) = true ∧
    ∀ bit < taskUmmap.getD byte.toNat 0, byte.getLsbD bit = false := by
  have table : ∀ value : Fin 256, value.val ≠ 0 → taskUmmap.getD value.val 0 < 8 ∧
      value.val.testBit (taskUmmap.getD value.val 0) = true ∧
      ∀ bit < taskUmmap.getD value.val 0, value.val.testBit bit = false := by
    decide +kernel
  exact table byte.toFin (fun zero => nonzero (BitVec.eq_of_toNat_eq zero))

section Ready

variable (ready : ReadyTable) (pri other : Nat)

theorem pri_split (small : pri < 64) : 8 * (priMsb pri).val + priLsb pri = pri := by
  have row : (priMsb pri).val = pri / 8 := Nat.mod_eq_of_lt (show pri / 8 < 8 by omega)
  rw [row, priLsb]
  omega

theorem pri_bits_ne (small : pri < 64) (otherSmall : other < 64) (different : other ≠ pri) (row : priMsb other = priMsb pri) :
    priLsb other ≠ priLsb pri := by
  intro same
  have split := pri_split pri small
  have otherSplit := pri_split other otherSmall
  rw [row, same, split] at otherSplit
  exact different otherSplit.symm

theorem set_row : (setReadyTask ready pri).tbl (priMsb pri) = ready.tbl (priMsb pri) ||| BitVec.twoPow 8 (priLsb pri) :=
  Function.update_self _ _ _

theorem set_row_other (row : Fin 8) (different : row ≠ priMsb pri) : (setReadyTask ready pri).tbl row = ready.tbl row :=
  Function.update_of_ne different _ _

theorem clear_row : (clearBit ready pri).tbl (priMsb pri) = ready.tbl (priMsb pri) &&& ~~~BitVec.twoPow 8 (priLsb pri) :=
  Function.update_self _ _ _

theorem clear_row_other (row : Fin 8) (different : row ≠ priMsb pri) : (clearBit ready pri).tbl row = ready.tbl row :=
  Function.update_of_ne different _ _

@[simp] theorem is_ready_set_same : isReady (setReadyTask ready pri) pri = true := by
  have bit : priLsb pri < 8 := Nat.mod_lt _ (by decide)
  rw [isReady, set_row]
  simp [bit]

theorem is_ready_set_mono (set : isReady ready other = true) : isReady (setReadyTask ready pri) other = true := by
  by_cases row : priMsb other = priMsb pri
  · rw [isReady, row] at set
    rw [isReady, row, set_row]
    simp [set]
  · rw [isReady, set_row_other ready pri _ row]
    exact set

theorem is_ready_set_other (small : pri < 64) (otherSmall : other < 64) (different : other ≠ pri) :
    isReady (setReadyTask ready pri) other = isReady ready other := by
  by_cases row : priMsb other = priMsb pri
  · have bits := pri_bits_ne pri other small otherSmall different row
    rw [isReady, isReady, row, set_row]
    simp [bits.symm]
  · rw [isReady, isReady, set_row_other ready pri _ row]

@[simp] theorem is_ready_clear_same : isReady (clearBit ready pri) pri = false := by
  rw [isReady, clear_row]
  simp

theorem is_ready_clear_other (small : pri < 64) (otherSmall : other < 64) (different : other ≠ pri) :
    isReady (clearBit ready pri) other = isReady ready other := by
  by_cases row : priMsb other = priMsb pri
  · have bits := pri_bits_ne pri other small otherSmall different row
    have bit : priLsb other < 8 := Nat.mod_lt _ (by decide)
    rw [isReady, isReady, row, clear_row]
    simp [bits, bit]
  · rw [isReady, isReady, clear_row_other ready pri _ row]

theorem is_ready_of_clear (small : pri < 64) (otherSmall : other < 64) (set : isReady (clearBit ready pri) other = true) :
    isReady ready other = true := by
  by_cases same : other = pri
  · rw [same, is_ready_clear_same] at set
    cases set
  · rw [← is_ready_clear_other ready pri other small otherSmall same, set]

theorem groups_agree_zero : GroupsAgree zeroReady := by
  intro msb
  simp [zeroReady]

theorem groups_agree_set (agree : GroupsAgree ready) : GroupsAgree (setReadyTask ready pri) := by
  intro msb
  have same : (setReadyTask ready pri).grp = ready.grp ||| BitVec.twoPow 8 (priMsb pri).val := rfl
  have inGroup := msb.isLt
  by_cases row : msb = priMsb pri
  · subst row
    constructor
    · intro _ zero
      have ready := is_ready_set_same ready pri
      rw [isReady, zero] at ready
      simp at ready
    · intro _
      simp [same, inGroup]
  · have differ : (priMsb pri).val ≠ msb.val := fun equal => row (Fin.ext equal.symm)
    rw [set_row_other ready pri msb row, ← agree msb, same]
    simp [differ.symm]

theorem groups_agree_clear (agree : GroupsAgree ready) : GroupsAgree (clearBit ready pri) := by
  intro msb
  have inGroup := msb.isLt
  have same : (clearBit ready pri).grp = if (clearBit ready pri).tbl (priMsb pri) = 0 then
      ready.grp &&& ~~~BitVec.twoPow 8 (priMsb pri).val else ready.grp := by
    rw [clear_row]
    rfl
  by_cases row : msb = priMsb pri
  · subst row
    by_cases empty : (clearBit ready pri).tbl (priMsb pri) = 0
    · rw [same, if_pos empty]
      simp [empty]
    · rw [same, if_neg empty, agree]
      refine ⟨fun _ => empty, fun _ zero => empty ?_⟩
      rw [clear_row, zero]
      exact BitVec.zero_and
  · have differ : (priMsb pri).val ≠ msb.val := fun equal => row (Fin.ext equal.symm)
    rw [clear_row_other ready pri msb row, ← agree msb, same]
    split
    · simp [differ.symm, inGroup]
    · rfl

theorem get_ready_task_ready (agree : GroupsAgree ready) (anyReady : ready.grp ≠ 0) :
    isReady ready (getReadyTask ready) = true ∧ getReadyTask ready < 64 := by
  obtain ⟨msbSmall, msbSet, -⟩ := task_ummap_lowest ready.grp anyReady
  have row : Fin.ofNat 8 (taskUmmap.getD ready.grp.toNat 0) = ⟨taskUmmap.getD ready.grp.toNat 0, msbSmall⟩ :=
    Fin.ext (Nat.mod_eq_of_lt msbSmall)
  have nonzero := (agree ⟨_, msbSmall⟩).mp msbSet
  obtain ⟨lsbSmall, lsbSet, -⟩ := task_ummap_lowest (ready.tbl ⟨_, msbSmall⟩) nonzero
  have msb : priMsb (getReadyTask ready) = ⟨_, msbSmall⟩ := by
    apply Fin.ext
    rw [getReadyTask, row]
    simp only [priMsb, Fin.ofNat]
    omega
  have lsb : priLsb (getReadyTask ready) = taskUmmap.getD (ready.tbl ⟨_, msbSmall⟩).toNat 0 := by
    rw [getReadyTask, row, priLsb]
    omega
  constructor
  · rw [isReady, msb, lsb]
    exact lsbSet
  · rw [getReadyTask, row]
    omega

theorem get_ready_task_least (agree : GroupsAgree ready) (small : other < 64) (set : isReady ready other = true) :
    getReadyTask ready ≤ other := by
  have split := pri_split other small
  have nonzeroRow : ready.tbl (priMsb other) ≠ 0 := by
    intro zero
    rw [isReady, zero] at set
    simp at set
  have group := (agree (priMsb other)).mpr nonzeroRow
  have anyReady : ready.grp ≠ 0 := by
    intro zero
    rw [zero] at group
    simp at group
  obtain ⟨msbSmall, msbSet, msbLeast⟩ := task_ummap_lowest ready.grp anyReady
  have row : Fin.ofNat 8 (taskUmmap.getD ready.grp.toNat 0) = ⟨taskUmmap.getD ready.grp.toNat 0, msbSmall⟩ :=
    Fin.ext (Nat.mod_eq_of_lt msbSmall)
  have nonzero := (agree ⟨_, msbSmall⟩).mp msbSet
  obtain ⟨lsbSmall, -, lsbLeast⟩ := task_ummap_lowest (ready.tbl ⟨_, msbSmall⟩) nonzero
  rw [getReadyTask, row]
  rcases Nat.lt_trichotomy (priMsb other).val (taskUmmap.getD ready.grp.toNat 0) with less | same | more
  · rw [msbLeast _ less] at group
    exact absurd group (by decide)
  · have sameRow : priMsb other = ⟨_, msbSmall⟩ := Fin.ext same
    rw [isReady, sameRow] at set
    by_cases earlier : priLsb other < taskUmmap.getD (ready.tbl ⟨_, msbSmall⟩).toNat 0
    · rw [lsbLeast _ earlier] at set
      exact absurd set (by decide)
    · omega
  · omega

end Ready

end CsiDsp
