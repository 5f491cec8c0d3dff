import CsiDsp.TaskInterrupt

set_option autoImplicit false

namespace CsiDsp

open CInt

inductive CsiDspStatus where
  | errIllegalParam
  | taskNotValid
  | taskAllocFail
  | taskAddToSchedulerFail
  | taskAlreadyRunning
  | taskStartFail
  | feConfigFail
  | beConfigFail
  | beErr
  | algoInvalid
  | algoLoadFail
  | malloFail
  | algoBufFail
  | fail
  | ok
deriving DecidableEq, Repr

-- What a handler answers: a status in its response, the id of a new task, or
-- XRP_STATUS_FAILURE without a response.
inductive Reply where
  | status (code : CsiDspStatus)
  | created (id : Nat)
  | failure
deriving DecidableEq, Repr

-- id is the place in the scheduler's list, as it was answered to the host.
def dspSearchTaskById (dsp : Dsp) (id : Nat) : Option Nat := if id ≥ psMaxTaskType then none else dsp.taskHandler id

def getFreeTask (dsp : Dsp) (kind : TaskMode → Bool) : Option Nat :=
  (List.range psMaxTaskType).find? fun id => kind (dsp.tasks id).type && (dsp.tasks id).status == .free

def getFreeSwTask (dsp : Dsp) : Option Nat := getFreeTask dsp TaskMode.isSw

def getFreeHwTask (dsp : Dsp) : Option Nat := getFreeTask dsp TaskMode.isHw

def dspAddTaskToScheduler (dsp : Dsp) (pri : Nat) : Option (Dsp × Nat) :=
  if dsp.taskNum ≥ psMaxTaskType then
    match (List.range dsp.taskNum).find? fun place => dsp.taskHandler place == none with
    | some place => some ({ dsp with taskHandler := Function.update dsp.taskHandler place (some pri) }, place)
    | none => none
  else
    some ({ dsp with
      taskHandler := Function.update dsp.taskHandler dsp.taskNum (some pri)
      taskNum := dsp.taskNum + 1 }, dsp.taskNum)

def dspRemoveTaskFromScheduler (dsp : Dsp) (id : Nat) : Dsp :=
  { dsp with
    taskNum := if dsp.taskNum = id + 1 then dsp.taskNum - 1 else dsp.taskNum
    taskHandler := Function.update dsp.taskHandler id none }

def releaseTask (dsp : Dsp) (pri : Nat) : Dsp := modifyTask dsp pri fun task => { task with status := .free }

-- The entry of a new task. Its old algorithm and drivers stay behind.
def enteredTask (mode : TaskMode) (task : DspTask) : DspTask :=
  { task with
    status := if mode = .swToSw then .ready else .idel
    type := mode
    report := ⟨noReport, none, 0⟩
    fe := { task.fe with type := .invalid }
    be := { task.be with type := .invalid }
    algo := { task.algo with algoId := -1, param := none } }

def enterTask (dsp : Dsp) (pri : Nat) (mode : TaskMode) : Dsp × Reply :=
  let dsp := modifyTask dsp pri (enteredTask mode)
  match dspAddTaskToScheduler dsp pri with
  | none => (releaseTask dsp pri, .status .taskAddToSchedulerFail)
  | some (dsp, id) => (dsp, .created id)

-- mode is none when the host asks for a type that does not exist, and
-- registered says whether the namespace of a software task could be registered.
def psCreateTask (dsp : Dsp) (mode : Option TaskMode) (registered : Bool) : Dsp × Reply :=
  match mode with
  | none => (dsp, .status .errIllegalParam)
  | some mode =>
      if mode.isSw then
        match getFreeSwTask dsp with
        | none => (dsp, .status .taskAllocFail)
        | some pri => if registered then enterTask dsp pri mode else (dsp, .status .taskAllocFail)
      else
        match getFreeHwTask dsp with
        | none => (dsp, .status .taskAllocFail)
        | some pri => enterTask (modifyTask dsp pri fun task => { task with taskPro := some .hw }) pri mode

def writeParam (dsp : Dsp) (param : Nat) (change : AlgoParam → AlgoParam) : Dsp :=
  { dsp with heap := { dsp.heap with params := Function.update dsp.heap.params param (change (dsp.heap.params param)) } }

def freeInDsp (dsp : Dsp) (block : Option Nat) : Dsp := { dsp with heap := freeBlock dsp.heap block }

def setParam (dsp : Dsp) (pri : Nat) (param : Option Nat) : Dsp :=
  modifyTask dsp pri fun task => { task with algo := { task.algo with param := param } }

def freeAlgoParam (dsp : Dsp) (pri : Nat) : Dsp :=
  match (dsp.tasks pri).algo.param with
  | none => dsp
  | some param =>
      let block := dsp.heap.params param
      let dsp := if (dsp.tasks pri).type.isHw then freeInDsp (freeInDsp dsp block.bufferStructPtr) block.setBufPtr else dsp
      freeInDsp dsp (some param)

def psDestroyTask (dsp : Dsp) (id : Nat) : Dsp × Reply :=
  match dspSearchTaskById dsp id with
  | none => (dsp, .status .taskNotValid)
  | some pri =>
      let dsp := freeAlgoParam (dspRemoveTaskFromScheduler dsp id) pri
      (releaseTask (modifyTask dsp pri fun task => { task with algo := ⟨-1, none, none⟩ }) pri, .status .ok)

def dspTaskStart (dsp : Dsp) (id : Nat) : Dsp × Reply :=
  match dspSearchTaskById dsp id with
  | none => (dsp, .status .errIllegalParam)
  | some pri =>
      match (dsp.tasks pri).status with
      | .runing => (dsp, .status .taskAlreadyRunning)
      | .ready =>
          let (dsp, registered) := psTaskInterruptRegister dsp pri (dsp.tasks pri).irqNum
          if registered then (modifyTask dsp pri fun task => { task with status := .runing }, .status .ok) else (dsp, .failure)
      | _ => (dsp, .status .taskStartFail)

def dspTaskStop (dsp : Dsp) (id : Nat) : Dsp × Reply :=
  match dspSearchTaskById dsp id with
  | none => (dsp, .status .errIllegalParam)
  | some pri =>
      match (dsp.tasks pri).status with
      | .runing =>
          (modifyTask (psTaskInterruptDisable dsp pri (dsp.tasks pri).irqNum) pri fun task => { task with status := .ready },
            .status .ok)
      | _ => (dsp, .status .ok)

def updatedStatus (task : DspTask) : TaskStatus :=
  match task.type with
  | .swToHw =>
      if task.status = .idel ∧ task.be.type ≠ .invalid ∧ task.algo.algoProcess ≠ none then .ready else task.status
  | .hwToSw | .hwToHw =>
      if task.status = .idel ∧ task.fe.type ≠ .invalid ∧ task.be.type ≠ .invalid ∧ task.algo.algoProcess ≠ none then .ready
      else task.status
  | _ => task.status

def updateTaskStatus (dsp : Dsp) (pri : Nat) : Dsp := modifyTask dsp pri fun task => { task with status := updatedStatus task }

def dspSearchHigherPrioTask (dsp : Dsp) (pri : Nat) : Int :=
  match (List.range dsp.taskNum).findSome? fun place =>
    (dsp.taskHandler place).bind fun other =>
      if other ≠ pri ∧ (dsp.tasks other).fe.type = (dsp.tasks pri).fe.type ∧ other < pri then some other else none with
  | some other => other
  | none => -1

inductive FeConfig where
  | cpu
  | isp (config : SispConfigPar)
  | vipre (config : VipreConfigPar)
  | illegal

def bindIrq (dsp : Dsp) (pri : Nat) (irq : Irq) : Dsp := modifyTask dsp pri fun task => { task with irqNum := irq }

def chooseEmptyCheck (dsp : Dsp) (pri : Nat) : Dsp :=
  let high := dspSearchHigherPrioTask dsp pri
  modifyTask { dsp with highPriTask := high } pri fun task =>
    { task with emptyCheck := if high ≥ 0 then some .vipre else none }

def dspTaskFeConfig (dsp : Dsp) (id : Nat) (message : FeConfig) : Option (Dsp × Reply) :=
  match dspSearchTaskById dsp id with
  | none => some (dsp, .status .taskNotValid)
  | some pri =>
      match message with
      | .cpu => some (updateTaskStatus dsp pri, .status .ok)
      | .isp config => do
          let (dsp, accepted) ← psIspConfigMessageHandler dsp pri config
          if accepted = false then some (dsp, .status .feConfigFail)
          else some (updateTaskStatus (bindIrq dsp pri (psGetIspIrq config.id.toNat)) pri, .status .ok)
      | .vipre config => do
          let (dsp, accepted) ← psVipreConfigMessageHandler dsp pri config
          if accepted = false then some (dsp, .status .feConfigFail)
          else some (updateTaskStatus (chooseEmptyCheck (bindIrq dsp pri .vipre) pri) pri, .status .ok)
      | .illegal => some (dsp, .status .errIllegalParam)

inductive BeConfig where
  | host (config : SwBeConfigPar) (bufs : Option Nat)
  | postIsp (config : SispConfigPar)
  | illegal

def dspTaskBeConfig (dsp : Dsp) (id : Nat) (message : BeConfig) : Option (Dsp × Reply) :=
  match dspSearchTaskById dsp id with
  | none => some (dsp, .status .taskNotValid)
  | some pri =>
      match message with
      | .host config bufs => do
          let (dsp, accepted) ← psSwTaskOutConfigMessageHandler dsp pri config bufs
          if accepted = false then some (dsp, .status .beConfigFail) else some (updateTaskStatus dsp pri, .status .ok)
      | .postIsp config => do
          let (dsp, accepted) ← psPostIspConfigMessageHandler dsp pri config
          if accepted = false then some (dsp, .status .beConfigFail) else some (updateTaskStatus dsp pri, .status .ok)
      | .illegal => some (dsp, .status .errIllegalParam)

-- csi_dsp_algo_config_par. The pointers are 0 for NULL.
structure AlgoConfigPar where
  algoId : Int
  algoPtr : Nat
  settPtr : Nat
  settLength : Nat
  bufsPtr : Nat
  bufNum : UInt32
deriving DecidableEq, Repr

-- What the loader meets: the bytes of code and of data of the library, malloc
-- for its data and its code, and the function and number of buffers that the
-- start function of the loaded library answers. A firmware built with
-- USE_FL_OBJ loads overlays, which take no memory from the heap.
inductive Loader where
  | overlay (entry : Option (Nat × Nat))
  | split (sizes : Option (Nat × Nat)) (dataBlock codeBlock : Option Nat) (entry : Option (Nat × Nat))
deriving DecidableEq, Repr

-- The blocks that malloc hands out to csi_dsp_load_pilsl. Nothing frees them.
def Loader.blocks : Loader → List Nat
  | .overlay _ | .split none _ _ _ => []
  | .split (some _) dataBlock codeBlock _ => dataBlock.toList ++ codeBlock.toList

def Loader.answer : Loader → Option (Nat × Nat)
  | .overlay entry => entry
  | .split sizes dataBlock codeBlock entry => if sizes.isSome && dataBlock.isSome && codeBlock.isSome then entry else none

-- What malloc returns for the parameter block, the buffer list and the
-- settings, what the loader meets, and what lies at sett_ptr and at bufs_ptr.
structure AlgoEnv where
  paramBlock : Option Nat
  library : Loader
  bufsBlock : Option Nat
  setBlock : Option Nat
  settings : Nat → UInt8
  bufs : Nat → AlgoBuffer

-- dsp_algo_load: the function and its number of buffers.
def AlgoEnv.load (env : AlgoEnv) : Option (Nat × Nat) := env.library.answer

-- csi_dsp_load_flo or csi_dsp_load_pilsl.
def loadLibrary (heap : Heap) : Loader → Option Heap
  | .overlay _ | .split none _ _ _ => some heap
  | .split (some _) dataBlock codeBlock _ => (malloc heap dataBlock).bind fun heap => malloc heap codeBlock

def dspAlgoLoad (dsp : Dsp) (env : AlgoEnv) : Option Dsp := (loadLibrary dsp.heap env.library).map fun heap => { dsp with heap := heap }

def extraBufStartIndex : Nat := 2

-- The results false below are the source's -1.
def dspTaskAlgoSettingUpdate (block : AlgoParam) (old : Nat → UInt8) (message : AlgoConfigPar) (settings : Nat → UInt8) :
    (Nat → UInt8) × Bool :=
  if message.settPtr = 0 ∨ message.settLength = 0 then (old, true)
  else if block.setBufPtr = none ∨ block.setBufSize ≠ message.settLength then (old, false)
  else (fun offset => if offset < block.setBufSize then settings offset else old offset, true)

-- The loop of dsp_task_algo_buf_update. The list of the task is what lies behind
-- buffer_struct_ptr, also past its end.
def updateBuffers (old : Nat → AlgoBuffer) : List AlgoBuffer → (Nat → AlgoBuffer) × Bool
  | [] => (old, true)
  | buffer :: rest =>
      if (old buffer.slot).bufId ≠ buffer.bufId then (old, false)
      else updateBuffers (Function.update old buffer.slot buffer) rest

-- The buffers of the message that the update looks at.
def namedBuffers (message : AlgoConfigPar) (bufs : Nat → AlgoBuffer) : List AlgoBuffer :=
  if message.bufsPtr = 0 then [] else (List.range message.bufNum.toNat).map bufs

def dspTaskAlgoBufUpdate (bufferNum : UInt32) (old : Nat → AlgoBuffer) (message : AlgoConfigPar) (bufs : Nat → AlgoBuffer) :
    (Nat → AlgoBuffer) × Bool :=
  if message.bufsPtr = 0 ∨ message.bufNum.toNat = 0 then (old, true)
  else if message.bufNum.toNat > u32 ((bufferNum.toNat : Int) - extraBufStartIndex) then (old, false)
  else updateBuffers old (namedBuffers message bufs)

def writeSettings (dsp : Dsp) (address : Nat) (settings : Nat → UInt8) : Dsp :=
  { dsp with heap := { dsp.heap with settings := Function.update dsp.heap.settings address settings } }

def writeBufs (dsp : Dsp) (address : Nat) (bufs : Nat → AlgoBuffer) : Dsp :=
  { dsp with heap := { dsp.heap with bufs := Function.update dsp.heap.bufs address bufs } }

def updateSettings (dsp : Dsp) (block : AlgoParam) (message : AlgoConfigPar) (settings : Nat → UInt8) : Dsp × Bool :=
  let address := block.setBufPtr.getD 0
  let (written, ok) := dspTaskAlgoSettingUpdate block (dsp.heap.settings address) message settings
  (writeSettings dsp address written, ok)

-- The result none is a read of a buffer behind a NULL pointer.
def updateBufs (dsp : Dsp) (block : AlgoParam) (message : AlgoConfigPar) (bufs : Nat → AlgoBuffer) : Option (Dsp × Bool) :=
  let number := UInt32.ofNat block.bufferNum
  match block.bufferStructPtr with
  | none =>
      if message.bufsPtr = 0 ∨ message.bufNum.toNat = 0 then some (dsp, true)
      else if message.bufNum.toNat > u32 ((number.toNat : Int) - extraBufStartIndex) then some (dsp, false)
      else none
  | some address =>
      let (written, ok) := dspTaskAlgoBufUpdate number (dsp.heap.bufs address) message bufs
      some (writeBufs dsp address written, ok)

-- The buffers are updated also when the settings could not be.
def dspTaskAlgoUpdate (dsp : Dsp) (param : Nat) (message : AlgoConfigPar) (env : AlgoEnv) : Option (Dsp × Reply) :=
  let block := dsp.heap.params param
  let (dsp, settled) := updateSettings dsp block message env.settings
  (updateBufs dsp block message env.bufs).map fun (dsp, updated) =>
    (dsp, .status (if settled && updated then .ok else .fail))

def setAlgo (dsp : Dsp) (pri : Nat) (algoId : Int) (process : Option Nat) : Dsp :=
  modifyTask dsp pri fun task => { task with algo := { task.algo with algoId := algoId, algoProcess := process } }

-- The exits of dsp_task_algo_config that give the parameter block back.
def dropParam (dsp : Dsp) (pri param : Nat) (blocks : List (Option Nat)) : Dsp :=
  setParam (freeInDsp (blocks.foldl freeInDsp dsp) (some param)) pri none

def takeSettings (dsp : Dsp) (pri param : Nat) (message : AlgoConfigPar) (env : AlgoEnv) : Option (Dsp × Bool) :=
  if message.settPtr ≠ 0 ∧ message.settLength ≠ 0 then do
    let heap ← malloc dsp.heap env.setBlock
    let dsp := writeParam { dsp with heap := heap } param fun block =>
      { block with setBufSize := message.settLength, setBufPtr := env.setBlock }
    match env.setBlock with
    | none => some (dropParam dsp pri param [(dsp.heap.params param).bufferStructPtr], false)
    | some address =>
        let old := dsp.heap.settings address
        some (writeSettings dsp address fun offset => if offset < message.settLength then env.settings offset else old offset, true)
  else some (dsp, true)

-- The buffers of the message come behind the two of the front and the back end.
def takeBuffers (dsp : Dsp) (param : Nat) (message : AlgoConfigPar) (bufs : Nat → AlgoBuffer) : Dsp × Bool :=
  let block := dsp.heap.params param
  if message.bufsPtr = 0 ∨ message.bufNum.toNat = 0 then (dsp, true)
  else if u32 (message.bufNum.toNat + extraBufStartIndex : Nat) ≤ block.bufferNum then
    let address := block.bufferStructPtr.getD 0
    let old := dsp.heap.bufs address
    (writeBufs dsp address fun slot =>
      if extraBufStartIndex ≤ slot ∧ slot < extraBufStartIndex + message.bufNum.toNat then bufs (slot - extraBufStartIndex)
      else old slot, true)
  else (dsp, false)

-- With more buffers than there is room for the blocks are freed, and then the
-- message of the error reads buffer_num through the NULL pointer to them.
def takeBufferList (dsp : Dsp) (pri param : Nat) (message : AlgoConfigPar) (env : AlgoEnv) (descNum : Nat) :
    Option (Dsp × Reply) := do
  let heap ← malloc dsp.heap env.bufsBlock
  let dsp := writeParam { dsp with heap := heap } param fun block =>
    { block with bufferNum := descNum, bufferStructPtr := env.bufsBlock }
  match env.bufsBlock with
  | none => some (dropParam dsp pri param [], .status .malloFail)
  | some address =>
      let old := dsp.heap.bufs address
      let cleared := writeBufs dsp address fun slot => if slot < descNum then zeroAlgoBuffer else old slot
      let (dsp, taken) ← takeSettings cleared pri param message env
      if taken = false then some (dsp, .status .malloFail)
      else
        let (dsp, fits) := takeBuffers dsp param message env.bufs
        if fits = false then none else some (updateTaskStatus dsp pri, .status .ok)

-- dsp_task_algo_config behind dsp_algo_load.
def dspTaskAlgoLoadConfig (dsp : Dsp) (pri param : Nat) (message : AlgoConfigPar) (env : AlgoEnv) : Option (Dsp × Reply) :=
  match env.load with
  | none => some (dropParam (setAlgo dsp pri message.algoId none) pri param [], .status .algoInvalid)
  | some (process, descNum) =>
      let dsp := writeParam (setAlgo dsp pri message.algoId (some process)) param fun block => { block with bufDescNum := descNum }
      if (dsp.tasks pri).type.isHw = false then some (updateTaskStatus dsp pri, .status .ok)
      else if descNum = 0 then some (dsp, .status .algoBufFail)
      else takeBufferList dsp pri param message env descNum

def takeParam (dsp : Dsp) (pri : Nat) (heap : Heap) (param : Nat) : Dsp :=
  writeParam (setParam { dsp with heap := heap } pri (some param)) param fun _ => zeroParam

def dspTaskAlgoConfig (dsp : Dsp) (id : Nat) (message : AlgoConfigPar) (env : AlgoEnv) : Option (Dsp × Reply) :=
  match dspSearchTaskById dsp id with
  | none => some (dsp, .status .taskNotValid)
  | some pri =>
      match (dsp.tasks pri).algo.param with
      | none => do
          let heap ← malloc dsp.heap env.paramBlock
          match env.paramBlock with
          | none => some (dsp, .status .malloFail)
          | some param => do
              let dsp ← dspAlgoLoad (takeParam dsp pri heap param) env
              dspTaskAlgoLoadConfig dsp pri param message env
      | some param =>
          if (dsp.tasks pri).algo.algoProcess ≠ none ∧ message.algoPtr = 0 ∧ message.algoId = -1 then
            dspTaskAlgoUpdate dsp param message env
          else do
            let dsp ← dspAlgoLoad dsp env
            dspTaskAlgoLoadConfig dsp pri param message env

-- Unlike dsp_task_algo_config, the failing exits keep the pointer.
def csiDspTaskAlgoLoad (dsp : Dsp) (id : Nat) (algoId : Int) (env : AlgoEnv) : Option (Dsp × Reply) :=
  match dspSearchTaskById dsp id with
  | none => some (dsp, .status .taskNotValid)
  | some pri => do
      let heap ← malloc dsp.heap env.paramBlock
      match env.paramBlock with
      | none => some (setParam dsp pri none, .status .malloFail)
      | some param => do
          let dsp ← dspAlgoLoad (takeParam dsp pri heap param) env
          match env.load with
          | none =>
              some (freeInDsp (setAlgo dsp pri (dsp.tasks pri).algo.algoId none) (some param), .status .algoLoadFail)
          | some (process, descNum) =>
              let dsp := writeParam (setAlgo dsp pri algoId (some process)) param fun block => { block with bufDescNum := descNum }
              if (dsp.tasks pri).type.isHw = false ∨ descNum = 0 then some (dsp, .status .ok)
              else
                let heap ← malloc dsp.heap env.bufsBlock
                let dsp := writeParam { dsp with heap := heap } param fun block =>
                  { block with bufferNum := descNum, bufferStructPtr := env.bufsBlock }
                if env.bufsBlock = none then some (freeInDsp dsp (some param), .status .algoLoadFail) else some (dsp, .status .ok)

inductive ReportFlag where
  | setup
  | release
  | other
deriving DecidableEq, Repr

-- id is the report id of the message, which is the id of the task.
def psRegisterReportToTask (dsp : Dsp) (id : Nat) (flag : ReportFlag) (size : Nat) : Dsp × Reply :=
  match dspSearchTaskById dsp id with
  | none => (dsp, .failure)
  | some pri =>
      match flag with
      | .other => (dsp, .failure)
      | .release => (modifyTask dsp pri fun task => { task with report := { task.report with reportId := noReport } }, .status .ok)
      | .setup =>
          match xrpGetReportBuffer dsp.cmd with
          | none => (dsp, .failure)
          | some (address, limit) =>
              if limit < size then
                (modifyTask dsp pri fun task => { task with report := { task.report with buf := some address, bufSize := limit } },
                  .failure)
              else
                (modifyTask dsp pri fun task => { task with report := ⟨BitVec.ofNat 32 id, some address, size⟩ }, .status .ok)

-- The result none is also an access outside the array of handlers: the id of a
-- back end that has not been configured is -1.
def dspBackendAssginBufHandler (dsp : Dsp) (id : Nat) (config : SwBeConfigPar) : Option (Dsp × Reply) :=
  match dspSearchTaskById dsp id with
  | none => some (dsp, .status .taskNotValid)
  | some pri =>
      let place := (dsp.tasks pri).be.id
      if place < 0 ∨ (maxSwBe : Int) ≤ place then none
      else do
        let (handler, assigned) ← swBeAsginBuf (dsp.swBe place) config
        some ({ dsp with swBe := Function.update dsp.swBe place handler }, .status (if assigned then .ok else .beErr))

inductive Command where
  | taskAlloc (mode : Option TaskMode) (registered : Bool)
  | taskFree (id : Nat)
  | taskStart (id : Nat)
  | taskStop (id : Nat)
  | feConfig (id : Nat) (message : FeConfig)
  | beConfig (id : Nat) (message : BeConfig)
  | algoConfig (id : Nat) (message : AlgoConfigPar) (env : AlgoEnv)
  | algoLoad (id : Nat) (algoId : Int) (env : AlgoEnv)
  | reportConfig (id : Nat) (flag : ReportFlag) (size : Nat)
  | beAssginBuf (id : Nat) (config : SwBeConfigPar)

def psCommonCommand (dsp : Dsp) : Command → Option (Dsp × Reply)
  | .taskAlloc mode registered => some (psCreateTask dsp mode registered)
  | .taskFree id => some (psDestroyTask dsp id)
  | .taskStart id => some (dspTaskStart dsp id)
  | .taskStop id => some (dspTaskStop dsp id)
  | .feConfig id message => dspTaskFeConfig dsp id message
  | .beConfig id message => dspTaskBeConfig dsp id message
  | .algoConfig id message env => dspTaskAlgoConfig dsp id message env
  | .algoLoad id algoId env => csiDspTaskAlgoLoad dsp id algoId env
  | .reportConfig id flag size => some (psRegisterReportToTask dsp id flag size)
  | .beAssginBuf id config => dspBackendAssginBufHandler dsp id config

def Command.id : Command → Option Nat
  | .taskAlloc _ _ => none
  | .taskFree id | .taskStart id | .taskStop id | .feConfig id _ | .beConfig id _ | .algoConfig id _ _ | .algoLoad id _ _
  | .reportConfig id _ _ | .beAssginBuf id _ => some id

def Command.target (dsp : Dsp) (command : Command) : Option Nat := command.id.bind (dspSearchTaskById dsp)

-- A command for a task that does not exist changes nothing.
theorem unknown_task (dsp next : Dsp) (command : Command) (id : Nat) (reply : Reply) (asked : command.id = some id)
    (missing : dspSearchTaskById dsp id = none) (done : psCommonCommand dsp command = some (next, reply)) : next = dsp := by
  cases command with
  | taskAlloc => cases asked
  | taskFree | taskStart | taskStop | feConfig | beConfig | algoConfig | algoLoad | reportConfig | beAssginBuf =>
      cases asked
      simp only [psCommonCommand, psDestroyTask, dspTaskStart, dspTaskStop, dspTaskFeConfig, dspTaskBeConfig, dspTaskAlgoConfig,
        csiDspTaskAlgoLoad, psRegisterReportToTask, dspBackendAssginBufHandler, missing] at done
      cases done
      rfl

-- A library that loads, and host memory that is zero.
def blocksEnv (param : Nat) (entry : Nat × Nat) (bufs : Option Nat) : AlgoEnv :=
  ⟨some param, .split (some (4096, 1024)) (some (param + 1)) (some (param + 2)) (some entry), bufs, none, fun _ => 0, fun _ => zeroAlgoBuffer⟩

-- What makes a hardware task on the ISP with three buffers of the host READY.
def ispConfiguration : List Command :=
  [.taskAlloc (some .hwToSw) true, .reportConfig 2 .setup 256, .feConfig 2 (.isp (smallIspConfig 512)),
    .beConfig 2 (.host ⟨3, fun _ => zeroBuffer⟩ (some 100)),
    .algoConfig 2 ⟨0, 0, 0, 0, 0, 0⟩ (blocksEnv 200 (7, 2) (some 300))]

end CsiDsp
