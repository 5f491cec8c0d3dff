import Mathlib.Logic.Function.Basic
import CsiDsp.Base.Chain
import CsiDsp.ReadyTable
import CsiDsp.SwBackEnd
import CsiDsp.VipreHandler
import CsiDsp.XrpDsp

set_option autoImplicit false

namespace CsiDsp

def psMaxTaskType : Nat := 16

-- csi_dsp_task_mode_e: sw and hw are the unions of the two kinds of each side.
inductive TaskMode where
  | swToSw
  | swToHw
  | hwToSw
  | hwToHw
  | sw
  | hw
deriving DecidableEq, Repr

def TaskMode.bits : TaskMode → BitVec 32
  | .swToSw => 1
  | .swToHw => 2
  | .hwToSw => 4
  | .hwToHw => 8
  | .sw => 3
  | .hw => 12

def TaskMode.isSw (mode : TaskMode) : Bool := mode.bits &&& TaskMode.sw.bits != 0

def TaskMode.isHw (mode : TaskMode) : Bool := mode.bits &&& TaskMode.hw.bits != 0

inductive TaskStatus where
  | free
  | idel
  | ready
  | runing
  | invalid
deriving DecidableEq, Repr

inductive FeType where
  | cpu
  | isp
  | vipre
  | invalid
deriving DecidableEq, Repr

inductive BeType where
  | host
  | postIsp
  | invalid
deriving DecidableEq, Repr

-- The driver whose functions the pointers of a front end or a back end name.
inductive FeOps where
  | isp
  | vipre
deriving DecidableEq, Repr

inductive BeOps where
  | host
  | postIsp
deriving DecidableEq, Repr

-- The interrupt lines of the drivers and of the host, and line 0, which a task
-- that has had no front end is bound to.
inductive Irq where
  | unused
  | isp0
  | isp1
  | vipre
  | postIsp
  | xrp
deriving DecidableEq, Repr

-- The functions an interrupt vector or an intr_handler may point to.
inductive Handler where
  | null
  | unhandled
  | isp
  | vipre
  | postIsp
  | xrp
  | trigger
deriving DecidableEq, Repr

structure Vector where
  handler : Handler
  arg : Int
deriving DecidableEq, Repr

inductive TaskPro where
  | hw
  | xrp
  | idle
deriving DecidableEq, Repr

inductive TaskCheck where
  | vipre
  | idle
deriving DecidableEq, Repr

structure DspFeHandler where
  type : FeType
  id : Int
  ops : Option FeOps
deriving DecidableEq, Repr

structure DspBeHandler where
  type : BeType
  id : Int
  ops : Option BeOps
deriving DecidableEq, Repr

-- param is an address and algoProcess the address of a function; none is NULL.
structure DspAlgoHandler where
  algoId : Int
  param : Option Nat
  algoProcess : Option Nat
deriving DecidableEq, Repr

structure DspTaskReport where
  reportId : BitVec 32
  buf : Option Nat
  bufSize : Nat
deriving DecidableEq, Repr

-- An entry of task_table. Its prio is its index.
structure DspTask where
  type : TaskMode
  status : TaskStatus
  fe : DspFeHandler
  be : DspBeHandler
  algo : DspAlgoHandler
  taskPro : Option TaskPro
  report : DspTaskReport
  emptyCheck : Option TaskCheck
  irqNum : Irq
  intrHandler : Handler
  intrArg : Int
deriving DecidableEq, Repr

-- csi_dsp_algo_param_t, as far as the firmware itself reads it.
structure AlgoParam where
  bufDescNum : Nat
  bufferNum : Nat
  bufferStructPtr : Option Nat
  setBufPtr : Option Nat
  setBufSize : Nat
deriving DecidableEq, Repr

structure CsiDspPlane where
  fd : Int
  stride : UInt32
  size : UInt32
  bufPhy : UInt64
  bufVir : UInt64
deriving DecidableEq, Repr

-- csi_dsp_buf_type_e, as the host may write it.
inductive BufType where
  | dmaBuf
  | allocApp
  | allocDrv
  | allocFm
  | unknown (code : UInt32)
deriving DecidableEq, Repr

-- csi_dsp_buffer with all its fields.
structure AlgoBuffer where
  bufId : UInt8
  dir : UInt32
  type : BufType
  format : UInt8
  planeCount : UInt8
  width : UInt32
  height : UInt32
  planes : Fin 3 → CsiDspPlane

def zeroAlgoBuffer : AlgoBuffer := ⟨0, 0, .dmaBuf, 0, 0, 0, 0, fun _ => ⟨0, 0, 0, 0, 0⟩⟩

def AlgoBuffer.slot (buffer : AlgoBuffer) : Nat := buffer.bufId.toNat

-- Which blocks malloc has handed out, and what the blocks hold that the firmware
-- writes for an algorithm: the parameter blocks, the settings and the lists of
-- buffers.
structure Heap where
  live : Nat → Bool
  params : Nat → AlgoParam
  settings : Nat → Nat → UInt8
  bufs : Nat → Nat → AlgoBuffer

-- malloc returns a block that is not in use, or NULL.
def malloc (heap : Heap) : Option Nat → Option Heap
  | none => some heap
  | some address => if heap.live address then none else some { heap with live := Function.update heap.live address true }

def freeBlock (heap : Heap) : Option Nat → Heap
  | none => heap
  | some address => { heap with live := Function.update heap.live address false }

-- The global state of the firmware: the task table and the scheduler, the
-- interrupt vectors, the heap, the drivers and the memory shared with the host.
-- extraReport holds the report_size bytes of the algorithm's extra report.
structure Dsp where
  tasks : Nat → DspTask
  taskHandler : Nat → Option Nat
  taskNum : Nat
  ready : ReadyTable
  highPriTask : Int
  vectors : Irq → Vector
  enabled : Irq → Bool
  heap : Heap
  isp : SispHandler
  postIsp : SispHandler
  vipre : SvipreHandler
  swBe : Int → SwBeHandler
  cmd : XrpDspCmd
  payload : ReportItem
  extraReport : List UInt8

def noReport : BitVec 32 := -1

-- The entries of task_table as they are written in the source.
def tableEntry (index : Nat) : DspTask :=
  ⟨if index < 3 then .hw else .sw, .free, ⟨.invalid, -1, none⟩, ⟨.invalid, -1, none⟩, ⟨0, none, none⟩, none,
    ⟨0, none, 0⟩, none, .unused, .null, 0⟩

def zeroParam : AlgoParam := ⟨0, 0, none, none, 0⟩

-- The state after init_scheduler and ps_task_enable_common_task. The common
-- task is the first software entry, and the last entry is the idle task.
def initDsp (cmd : XrpDspCmd) (payload : ReportItem) : Dsp := {
  tasks := fun index =>
    let entry := tableEntry index
    if index = 3 then { entry with
      status := .idel, taskPro := some .xrp, report := ⟨noReport, none, 0⟩, irqNum := .xrp, intrHandler := .xrp, intrArg := -1 }
    else if index = 15 then { entry with status := .idel, taskPro := some .idle, emptyCheck := some .idle }
    else entry
  taskHandler := fun id => if id = 0 then some 3 else if id = 1 then some 15 else none
  taskNum := 2
  ready := setReadyTask zeroReady 15
  highPriTask := -1
  vectors := fun irq => if irq = .xrp then ⟨.trigger, 3⟩ else ⟨.unhandled, 0⟩
  enabled := fun irq => irq == .xrp
  heap := ⟨fun _ => false, fun _ => zeroParam, fun _ _ => 0, fun _ _ => zeroAlgoBuffer⟩
  isp := zeroHandler 0
  postIsp := zeroHandler 0
  vipre := zeroVipre
  swBe := fun _ => freeSwBe
  cmd := cmd
  payload := payload
  extraReport := [] }

def anyCmd : XrpDspCmd := ⟨syncDspToHost, 0, 0, 0, 0, 0⟩

def reportCmd : XrpDspCmd := ⟨syncDspToHost, 0, 1, 0, 0x2000, 256⟩

def anyReport : ReportItem := ⟨.normal, zeroBuffer, []⟩

def modifyTask (dsp : Dsp) (pri : Nat) (change : DspTask → DspTask) : Dsp :=
  { dsp with tasks := Function.update dsp.tasks pri (change (dsp.tasks pri)) }

section Modify

variable (dsp : Dsp) (pri other : Nat) (change : DspTask → DspTask)

@[simp] theorem modify_task_same : (modifyTask dsp pri change).tasks pri = change (dsp.tasks pri) :=
  Function.update_self _ _ _

@[simp] theorem modify_task_other (different : other ≠ pri) : (modifyTask dsp pri change).tasks other = dsp.tasks other :=
  Function.update_of_ne different _ _

theorem modify_task_keeps {Value : Type} (view : DspTask → Value) (keeps : view (change (dsp.tasks pri)) = view (dsp.tasks pri)) :
    view ((modifyTask dsp pri change).tasks other) = view (dsp.tasks other) := by
  by_cases same : other = pri
  · rw [same, modify_task_same, keeps]
  · rw [modify_task_other dsp pri other change same]

end Modify

def psGetIspIrq (id : Nat) : Irq := if id = 0 then .isp0 else .isp1

-- xtos_set_interrupt_handler and xtos_interrupt_enable, as the drivers use them.
def registerDriver (dsp : Dsp) (irq : Irq) (handler : Handler) : Dsp :=
  { dsp with vectors := Function.update dsp.vectors irq ⟨handler, 0⟩, enabled := Function.update dsp.enabled irq true }

-- The result false is a status that is not XRP_STATUS_SUCCESS, and none the
-- trap of a division by zero in a driver.
def psIspConfigMessageHandler (dsp : Dsp) (pri : Nat) (config : SispConfigPar) : Option (Dsp × Bool) :=
  let (handler, started) := ispInitialize config.id.toNat dsp.isp
  if started = false then some (dsp, false)
  else do
    let (handler, ret) ← ispHandlerConfig handler config
    let dsp := { dsp with isp := handler }
    if ret ≠ .ok then some (dsp, false)
    else some (modifyTask (registerDriver dsp (psGetIspIrq config.id.toNat) .isp) pri fun task =>
      { task with fe := ⟨.isp, config.id.toNat, some .isp⟩ }, true)

def psVipreConfigMessageHandler (dsp : Dsp) (pri : Nat) (config : VipreConfigPar) : Option (Dsp × Bool) := do
  let (handler, ok) ← vipreConfigure config
  let dsp := { dsp with vipre := handler }
  if ok = false then some (dsp, false)
  else some (modifyTask (registerDriver dsp .vipre .vipre) pri fun task =>
    { task with fe := ⟨.vipre, config.id.toNat, some .vipre⟩ }, true)

def psPostIspConfigMessageHandler (dsp : Dsp) (pri : Nat) (config : SispConfigPar) : Option (Dsp × Bool) :=
  let (handler, ret) := postIspInitialize config.id.toNat dsp.postIsp
  if ret ≠ .ok then some (dsp, false)
  else do
    let (handler, ret) ← postIspHandlerConfig handler config
    let dsp := { dsp with postIsp := handler }
    if ret ≠ .ok then some (dsp, false)
    else some (modifyTask (registerDriver dsp .postIsp .postIsp) pri fun task =>
      { task with be := { task.be with type := .postIsp, ops := some .postIsp } }, true)

-- bufs is what malloc returns for the list of buffers.
def psSwTaskOutConfigMessageHandler (dsp : Dsp) (pri : Nat) (config : SwBeConfigPar) (bufs : Option Nat) :
    Option (Dsp × Bool) :=
  match freeSwBeId dsp.swBe with
  | none => some (dsp, false)
  | some id => do
      let heap ← malloc dsp.heap bufs
      if bufs = none then some ({ dsp with heap := heap }, false)
      else
        let report := (dsp.tasks pri).report
        let handlers := Function.update dsp.swBe id (swBeStart config report.buf report.bufSize)
        some (modifyTask { dsp with heap := heap, swBe := handlers } pri fun task =>
          { task with be := ⟨.host, id, some .host⟩ }, true)

end CsiDsp
