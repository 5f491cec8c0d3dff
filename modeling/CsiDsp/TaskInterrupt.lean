import CsiDsp.Task

set_option autoImplicit false

namespace CsiDsp

open Chain

def dspGetLatestHwTask (dsp : Dsp) (pri : Nat) (irq : Irq) : Int :=
  match (List.range psMaxTaskType).find? fun id =>
    id ≠ pri && (dsp.tasks id).type.isHw && (dsp.tasks id).status == .runing && (dsp.tasks id).irqNum == irq with
  | some id => id
  | none => -1

-- The three writes of ps_task_interrupt_register, in their order.
def installTrigger (dsp : Dsp) (pri : Nat) (irq : Irq) : Dsp :=
  { dsp with vectors := Function.update dsp.vectors irq ⟨.trigger, pri⟩ }

def linkOldHandler (dsp : Dsp) (pri : Nat) (irq : Irq) (old : Handler) : Dsp :=
  let arg := if old = .trigger then dspGetLatestHwTask dsp pri irq else -1
  modifyTask dsp pri fun task => { task with intrArg := arg, intrHandler := old }

def enableLine (dsp : Dsp) (irq : Irq) : Dsp := { dsp with enabled := Function.update dsp.enabled irq true }

def psTaskInterruptRegister (dsp : Dsp) (pri : Nat) (irq : Irq) : Dsp × Bool :=
  let old := (dsp.vectors irq).handler
  let dsp := installTrigger dsp pri irq
  if old = .null then (dsp, false) else (enableLine (linkOldHandler dsp pri irq old) irq, true)

def reinstallOld (dsp : Dsp) (pri : Nat) (irq : Irq) : Dsp :=
  { dsp with vectors := Function.update dsp.vectors irq ⟨(dsp.tasks pri).intrHandler, pri⟩ }

def disableLine (dsp : Dsp) (irq : Irq) : Dsp := { dsp with enabled := Function.update dsp.enabled irq false }

def psTaskInterruptDisable (dsp : Dsp) (pri : Nat) (irq : Irq) : Dsp := disableLine (reinstallOld dsp pri irq) irq

-- What a call of a handler leads to: the entry of the task it triggers, or the
-- end of the chain when the handler is a driver's or the entry does not exist.
def vectorLink (vector : Vector) : Link Nat Vector :=
  if vector.handler = .trigger ∧ 0 ≤ vector.arg ∧ vector.arg < psMaxTaskType then .node vector.arg.toNat else .last vector

def taskVector (task : DspTask) : Vector := ⟨task.intrHandler, task.intrArg⟩

def taskLink (dsp : Dsp) (pri : Nat) : Link Nat Vector := vectorLink (taskVector (dsp.tasks pri))

-- The calls of ps_task_trigger_intr_handler behind one interrupt of a line: the
-- tasks in the order of the calls, and the handler that is called last. A call
-- that returns meets every entry at most once.
def interruptWalk (dsp : Dsp) (irq : Irq) : Option (List Nat × Vector) :=
  walk (taskLink dsp) psMaxTaskType (vectorLink (dsp.vectors irq))

structure DeviceRegisters where
  isp : IspInterrupt
  vipre : VipreInterrupt
  postIsp : PostIspInterrupt

def runDriver (dsp : Dsp) (registers : DeviceRegisters) : Handler → Option Dsp
  | .isp => (ispInterruptHandler dsp.isp registers.isp).map fun handler => { dsp with isp := handler }
  | .vipre => (vipreInterruptHandler dsp.vipre registers.vipre).map fun handler => { dsp with vipre := handler }
  | .postIsp => (postIspInterruptHandler dsp.postIsp registers.postIsp).map fun handler => { dsp with postIsp := handler }
  | .xrp | .unhandled => some dsp
  | .null | .trigger => none

-- The driver's handler returns first; then each call on the way back sets the
-- ready bit of its task. The result none is a call that does not come back.
def takeInterrupt (dsp : Dsp) (irq : Irq) (registers : DeviceRegisters) : Option Dsp := do
  let (visited, last) ← interruptWalk dsp irq
  let dsp ← runDriver dsp registers last.handler
  some { dsp with ready := visited.reverse.foldl setReadyTask dsp.ready }

def Running (dsp : Dsp) (pri : Nat) : Prop := (dsp.tasks pri).status = .runing

instance (dsp : Dsp) (pri : Nat) : Decidable (Running dsp pri) := inferInstanceAs (Decidable (_ = _))

def driverHandler : Irq → Handler
  | .isp0 | .isp1 => .isp
  | .vipre => .vipre
  | .postIsp => .postIsp
  | .xrp => .xrp
  | .unused => .unhandled

theorem driver_not_trigger (irq : Irq) : driverHandler irq ≠ .trigger := by
  cases irq <;> decide

theorem vector_link_last (vector : Vector) (other : vector.handler ≠ .trigger) : vectorLink vector = .last vector :=
  if_neg fun found => other found.1

theorem vector_link_trigger (pri : Nat) (inTable : pri < psMaxTaskType) : vectorLink ⟨.trigger, pri⟩ = .node pri := by
  rw [vectorLink, if_pos ⟨rfl, Int.natCast_nonneg pri, Int.ofNat_lt.mpr inTable⟩, Int.toNat_natCast]

theorem run_driver_frame (dsp driven : Dsp) (registers : DeviceRegisters) (handler : Handler)
    (ran : runDriver dsp registers handler = some driven) :
    driven = { dsp with isp := driven.isp, vipre := driven.vipre, postIsp := driven.postIsp } := by
  cases handler with
  | isp | vipre | postIsp =>
      simp only [runDriver, Option.map_eq_some_iff] at ran
      obtain ⟨_, -, rfl⟩ := ran
      rfl
  | xrp | unhandled =>
      cases ran
      rfl
  | null | trigger => cases ran

section Latest

variable (dsp : Dsp) (pri : Nat) (irq : Irq)

theorem latest_cases : dspGetLatestHwTask dsp pri irq = -1 ∨ ∃ id : Nat, dspGetLatestHwTask dsp pri irq = id ∧
    id < psMaxTaskType ∧ id ≠ pri ∧ Running dsp id ∧ (dsp.tasks id).irqNum = irq := by
  cases found : (List.range psMaxTaskType).find? fun id =>
      id ≠ pri && (dsp.tasks id).type.isHw && (dsp.tasks id).status == .runing && (dsp.tasks id).irqNum == irq with
  | none =>
      refine .inl ?_
      rw [dspGetLatestHwTask, found]
  | some id =>
      have holds := List.find?_some found
      simp only [Bool.and_eq_true, decide_eq_true_eq, beq_iff_eq] at holds
      refine .inr ⟨id, ?_, List.mem_range.mp (List.mem_of_find?_eq_some found), holds.1.1.1, holds.1.2, holds.2⟩
      rw [dspGetLatestHwTask, found]

end Latest

section Ready

variable (ready : ReadyTable) (visited : List Nat) (pri : Nat)

theorem ready_fold (small : ∀ id ∈ visited, id < 64) (priSmall : pri < 64) :
    isReady (visited.foldl setReadyTask ready) pri = true ↔ pri ∈ visited ∨ isReady ready pri = true := by
  induction visited generalizing ready with
  | nil => simp
  | cons head rest ih =>
      rw [List.foldl_cons, ih _ (fun id member => small id (List.mem_cons_of_mem head member))]
      by_cases same : pri = head
      · subst same
        simp
      · rw [is_ready_set_other ready head pri (small head List.mem_cons_self) priSmall same]
        simp [same]

theorem groups_agree_fold (agree : GroupsAgree ready) : GroupsAgree (visited.foldl setReadyTask ready) := by
  induction visited generalizing ready with
  | nil => exact agree
  | cons head rest ih => exact ih _ (groups_agree_set ready head agree)

end Ready

end CsiDsp
