import CsiDsp.SwTask

set_option autoImplicit false

namespace CsiDsp

open CInt

def csiDspMaxBuffer : Nat := 8

-- What a handler of the host's requests indexes with a number of the host, and
-- the bytes of in_data and out_data it touches.
inductive Access where
  | inData (first : Int) (size : Nat)
  | outData (first size : Nat)
  | taskHandler (id : Int)
  | swBe (id : Int)
  | ringSlot (index : Int) (count : Nat)
  | algoBuffer (index count : Nat)
  | requestBuffer (index : Int)
  | planes (count : Nat)
deriving DecidableEq, Repr

def Access.InRange (inSize outSize : UInt32) : Access → Prop
  | .inData first size => size = 0 ∨ 0 ≤ first ∧ first + size ≤ inSize.toNat
  | .outData first size => size = 0 ∨ first + size ≤ outSize.toNat
  | .taskHandler id => 0 ≤ id ∧ id < psMaxTaskType
  | .swBe id => 0 ≤ id ∧ id < maxSwBe
  | .ringSlot index count => 0 ≤ index ∧ index < count
  | .algoBuffer index count => index < count
  | .requestBuffer index => 0 ≤ index ∧ index < csiDspMaxBuffer
  | .planes count => count ≤ 3

-- The message lies behind the word with the number of the command.
def field (first size : Nat) : Access := .inData (4 + first : Nat) size

def fieldIf (asked : Bool) (first size : Nat) : List Access := if asked then [field first size] else []

-- The ids of the buffers of an update, and the ids in the task's own list.
structure BufferIds where
  fresh : Nat → UInt8
  listed : Nat → UInt8

def searchAccesses (id : Nat) : List Access := if id ≥ psMaxTaskType then [] else [.taskHandler id]

def reportAccesses (dsp : Dsp) (id : Nat) (flag : ReportFlag) : List Access :=
  field 4 4 :: searchAccesses id ++
    if dspSearchTaskById dsp id = none then []
    else field 0 4 :: fieldIf (flag = .setup && (xrpGetReportBuffer dsp.cmd).isSome) 24 4

def createAccesses (created : Bool) : List Access :=
  field 0 4 :: .outData 0 4 :: if created then [.outData 20 4, .outData 4 16] else []

def freeAccesses (id : Nat) : List Access := .outData 0 4 :: field 0 4 :: searchAccesses id

def startAccesses (dsp : Dsp) (id : Nat) : List Access :=
  field 0 4 :: searchAccesses id ++ if (dspTaskStart dsp id).2 = .failure then [] else [.outData 0 4]

def stopAccesses (id : Nat) : List Access := field 0 4 :: searchAccesses id ++ [.outData 0 4]

-- The parameters of the ISP are read when it exists.
def sispAccesses (known : Bool) : List Access := field 8 2 :: fieldIf known 8 24

-- The list of addresses is read up to its last one once the rest is accepted.
def vipreAccesses (config : VipreConfigPar) : List Access :=
  field 8 12 :: fieldIf (config.lineNum ≠ 0) 20 4 ++ fieldIf ((vipreConfigure config).map Prod.snd = some true) 24 96

def feAccesses (dsp : Dsp) (id : Nat) (message : FeConfig) : List Access :=
  .outData 0 4 :: field 4 4 :: searchAccesses id ++
    if dspSearchTaskById dsp id = none then []
    else field 0 4 :: match message with
      | .cpu | .illegal => []
      | .isp config => sispAccesses (config.id.toNat ≤ maxIsp)
      | .vipre config => vipreAccesses config

-- The size of the copy of the buffers is a size_t.
def beAccesses (dsp : Dsp) (id : Nat) (message : BeConfig) : List Access :=
  .outData 0 4 :: field 4 4 :: searchAccesses id ++
    if dspSearchTaskById dsp id = none then []
    else field 0 4 :: match message with
      | .illegal => []
      | .postIsp config => sispAccesses (config.id.toNat ≤ maxPostIsp)
      | .host config bufs =>
          if freeSwBeId dsp.swBe = none then []
          else field 8 4 :: if bufs = none then [] else [field 16 (u32 (bufferSize * config.numBuf))]

-- The places of the task's list that dsp_task_algo_buf_update looks at: it
-- stops at a buffer that is not the one listed there.
def updateSlots (ids : BufferIds) : Nat → Nat → List Nat
  | _, 0 => []
  | place, rest + 1 =>
      (ids.fresh place).toNat ::
        if ids.listed (ids.fresh place).toNat = ids.fresh place then updateSlots ids (place + 1) rest else []

def updateAccesses (block : AlgoParam) (message : AlgoConfigPar) (ids : BufferIds) : List Access :=
  field 16 8 :: fieldIf (message.settPtr ≠ 0) 24 4 ++ field 32 8 :: fieldIf (message.bufsPtr ≠ 0) 40 4 ++
    if message.bufsPtr = 0 ∨ u32 ((block.bufferNum : Int) - extraBufStartIndex) < message.bufNum.toNat then []
    else (updateSlots ids 0 message.bufNum.toNat).map fun index => .algoBuffer index block.bufferNum

-- The last place of the list that the buffers of a new algorithm are copied to.
def takeAccesses (message : AlgoConfigPar) (descNum : Nat) : List Access :=
  field 32 8 :: fieldIf (message.bufsPtr ≠ 0) 40 4 ++
    if message.bufsPtr = 0 ∨ message.bufNum.toNat = 0 ∨ descNum < u32 (message.bufNum.toNat + extraBufStartIndex : Nat) then []
    else [.algoBuffer (message.bufNum.toNat + 1) descNum]

def loadConfigAccesses (hw : Bool) (message : AlgoConfigPar) (env : AlgoEnv) : List Access :=
  field 0 2 :: field 8 8 ::
    match env.load with
    | none => []
    | some (_, descNum) =>
        if hw = false ∨ descNum = 0 ∨ env.bufsBlock = none then []
        else field 16 8 :: fieldIf (message.settPtr ≠ 0) 24 4 ++
          if message.settPtr ≠ 0 ∧ message.settLength ≠ 0 ∧ env.setBlock = none then [] else takeAccesses message descNum

def algoConfigAccesses (dsp : Dsp) (id : Nat) (message : AlgoConfigPar) (env : AlgoEnv) (ids : BufferIds) : List Access :=
  field 4 4 :: searchAccesses id ++ .outData 0 4 ::
    match dspSearchTaskById dsp id with
    | none => []
    | some pri =>
        let task := dsp.tasks pri
        match task.algo.param with
        | none => if env.paramBlock = none then [] else loadConfigAccesses task.type.isHw message env
        | some param =>
            if task.algo.algoProcess ≠ none ∧ message.algoPtr = 0 ∧ message.algoId = -1 then
              field 8 8 :: field 0 2 :: updateAccesses (dsp.heap.params param) message ids
            else loadConfigAccesses task.type.isHw message env

def algoLoadAccesses (dsp : Dsp) (id : Nat) (env : AlgoEnv) : List Access :=
  field 4 4 :: searchAccesses id ++ .outData 0 4 ::
    if dspSearchTaskById dsp id = none ∨ env.paramBlock = none then [] else [field 0 2, field 8 8]

-- A back end outside the array has no number of buffers to go on with.
def assginAccesses (dsp : Dsp) (id : Nat) (config : SwBeConfigPar) : List Access :=
  field 4 4 :: searchAccesses id ++ .outData 0 4 ::
    match dspSearchTaskById dsp id with
    | none => []
    | some pri =>
        let place := (dsp.tasks pri).be.id
        let handler := dsp.swBe place
        .swBe place ::
          if place < 0 ∨ (maxSwBe : Int) ≤ place then []
          else field 8 4 ::
            if i32 (handler.validBufNum + config.numBuf) > handler.bufNum then []
            else (List.range config.numBuf.toNat).flatMap fun (index : Nat) =>
              [.ringSlot (Int.tmod (i32 (index + (handler.headId + handler.validBufNum))) handler.bufNum) handler.bufNum,
                field (16 + bufferSize * index) bufferSize]

-- What may come as a common command. A negative id makes dsp_search_task_by_id
-- read in front of task_handler, and what follows is undefined. A test reads
-- the name of its group and prints into the response.
inductive CommonRequest where
  | loopback
  | dataMove
  | heartBeat
  | unknown
  | ipTest (nameSize resultSize : Nat)
  | negativeId (id : Int) (negative : id < 0)
  | command (command : Command) (memory : Option (Nat → XrpCmdNs)) (ids : BufferIds)

def taskCreated (state : NsDsp) (mode : Option TaskMode) (memory : Option (Nat → XrpCmdNs)) : Bool :=
  match (nsCreateTask state mode memory).2 with
  | .created _ => true
  | _ => false

def commandAccesses (state : NsDsp) (memory : Option (Nat → XrpCmdNs)) (ids : BufferIds) : Command → List Access
  | .taskAlloc mode _ => createAccesses (taskCreated state mode memory)
  | .taskFree id => freeAccesses id
  | .taskStart id => startAccesses state.dsp id
  | .taskStop id => stopAccesses id
  | .feConfig id message => feAccesses state.dsp id message
  | .beConfig id message => beAccesses state.dsp id message
  | .algoConfig id message env => algoConfigAccesses state.dsp id message env ids
  | .algoLoad id _ env => algoLoadAccesses state.dsp id env
  | .reportConfig id flag _ => reportAccesses state.dsp id flag
  | .beAssginBuf id config => assginAccesses state.dsp id config

def loopbackSize (inSize outSize : UInt32) : Nat := u32 ((max inSize.toNat outSize.toNat : Nat) - 4)

def commonAccesses (state : NsDsp) (inSize outSize : UInt32) : CommonRequest → List Access
  | .loopback => [.inData 0 4, .outData 0 (loopbackSize inSize outSize), .inData 4 (loopbackSize inSize outSize)]
  | .dataMove | .heartBeat | .unknown => [.inData 0 4]
  | .ipTest nameSize resultSize => [.inData 0 4, field 32 nameSize, field 64 4, .outData 0 resultSize]
  | .negativeId id _ => [.inData 0 4, .taskHandler id]
  | .command command memory ids => .inData 0 4 :: commandAccesses state memory ids command

-- A request to a software task has no word in front of it. The last of its
-- buffers is looked at, and written to if the firmware is to fill it in.
def lastBuffer (request : SwTaskReq) : Int := (request.bufferNum.toNat : Int) - 1

def fillSwAccesses (task : DspTask) (request : SwTaskReq) : List Access :=
  if task.algo.param = none then []
  else [.inData 4 2, .inData 16 8, .inData 12 4] ++
    if task.type = .swToHw then
      .requestBuffer (lastBuffer request) :: .inData (24 + bufferSize * lastBuffer request + 8) 4 ::
        if request.allocatedFm (lastBuffer request) then [.inData (24 + bufferSize * lastBuffer request + 12) 36] else []
    else []

def beIndexAccesses (task : DspTask) : List Access :=
  if task.type = .swToHw ∧ task.be.ops = some .host then [.swBe task.be.id] else []

-- A task that fails says so in out_data, one that succeeds writes nothing.
def swAnswers (algo : AlgoResult) (dsp : Dsp) (task : DspTask) : Bool :=
  task.algo.algoProcess = none || algo = .failure || (task.type = .swToHw && beGetState dsp task.be ≠ some 0)

def swTaskAccesses (scratch : Scratch) (algo : AlgoResult) (dsp : Dsp) (pri : Nat) (request : SwTaskReq) : List Access :=
  let task := dsp.tasks pri
  beIndexAccesses task ++
    match swTaskOut scratch dsp task with
    | none => []
    | some (dsp, _) => fillSwAccesses task request ++ if swAnswers algo dsp task then [.outData 0 4] else []

-- What fill_hw_task_algo_param copies of a buffer of the back end.
def fillHwAccesses (dsp : Dsp) (pri : Nat) (out : CsiDspBuffer) : List Access :=
  match (dsp.tasks pri).algo.param with
  | none => []
  | some param =>
      if (dsp.heap.params param).bufferNum < 2 then []
      else [.algoBuffer 1 (dsp.heap.params param).bufferNum, .planes out.planeCount]

-- TASK_ALLOC finds a FREE entry, and a software task gets its namespace.
def AllocGranted (state : NsDsp) (memory : Option (Nat → XrpCmdNs)) : Option TaskMode → Prop
  | none => False
  | some kind =>
      if kind.isSw then ∃ pri, getFreeSwTask state.dsp = some pri ∧ (xrpRegisterNamespace state.nsMap (swTaskEntry pri) memory).2 = true
      else getFreeHwTask state.dsp ≠ none

def NoHandler (dsp : Dsp) (id : Nat) : Prop :=
  ∃ pri, dspSearchTaskById dsp id = some pri ∧ (dsp.tasks pri).status = .ready ∧ (dsp.vectors (dsp.tasks pri).irqNum).handler = .null

-- How many bytes of in_data a message takes.
def sispNeeds (known : Bool) : Nat := if known then 36 else 14

def vipreNeeds (config : VipreConfigPar) : Nat :=
  if (vipreConfigure config).map Prod.snd = some true then 124 else if config.lineNum = 0 then 24 else 28

def feNeeds (dsp : Dsp) (id : Nat) (message : FeConfig) : Nat :=
  if dspSearchTaskById dsp id = none then 12
  else match message with
    | .cpu | .illegal => 12
    | .isp config => sispNeeds (config.id.toNat ≤ maxIsp)
    | .vipre config => vipreNeeds config

def beNeeds (dsp : Dsp) (id : Nat) (message : BeConfig) : Nat :=
  if dspSearchTaskById dsp id = none then 12
  else match message with
    | .illegal => 12
    | .postIsp config => sispNeeds (config.id.toNat ≤ maxPostIsp)
    | .host config bufs =>
        if freeSwBeId dsp.swBe = none then 12
        else if bufs = none ∨ u32 (bufferSize * config.numBuf) = 0 then 16 else 20 + u32 (bufferSize * config.numBuf)

def reportNeeds (dsp : Dsp) (id : Nat) (flag : ReportFlag) : Nat :=
  if dspSearchTaskById dsp id ≠ none ∧ flag = .setup ∧ (xrpGetReportBuffer dsp.cmd).isSome then 32 else 12

def loadNeeds (hw : Bool) (message : AlgoConfigPar) (env : AlgoEnv) : Nat :=
  match env.load with
  | none => 20
  | some (_, descNum) =>
      if hw = false ∨ descNum = 0 ∨ env.bufsBlock = none then 20
      else if message.settPtr ≠ 0 ∧ message.settLength ≠ 0 ∧ env.setBlock = none then 32
      else if message.bufsPtr ≠ 0 then 48 else 44

def ListTaken (hw : Bool) (message : AlgoConfigPar) (env : AlgoEnv) : Prop :=
  match env.load with
  | none => True
  | some (_, descNum) =>
      hw = true → descNum ≠ 0 → env.bufsBlock ≠ none → ¬ (message.settPtr ≠ 0 ∧ message.settLength ≠ 0 ∧ env.setBlock = none) →
        message.bufsPtr ≠ 0 → message.bufNum.toNat ≠ 0 → descNum < u32 (message.bufNum.toNat + extraBufStartIndex : Nat) ∨
          message.bufNum.toNat + extraBufStartIndex ≤ descNum

def SlotsListed (block : AlgoParam) (message : AlgoConfigPar) (ids : BufferIds) : Prop :=
  message.bufsPtr ≠ 0 → message.bufNum.toNat ≤ u32 ((block.bufferNum : Int) - extraBufStartIndex) →
    ∀ index ∈ updateSlots ids 0 message.bufNum.toNat, index < block.bufferNum

def AlgoConfigBounded (dsp : Dsp) (id : Nat) (message : AlgoConfigPar) (env : AlgoEnv) (ids : BufferIds) (inSize : UInt32) : Prop :=
  12 ≤ inSize.toNat ∧ ∀ pri, dspSearchTaskById dsp id = some pri →
    let task := dsp.tasks pri
    match task.algo.param with
    | none => env.paramBlock ≠ none → loadNeeds task.type.isHw message env ≤ inSize.toNat ∧ ListTaken task.type.isHw message env
    | some param =>
        if task.algo.algoProcess ≠ none ∧ message.algoPtr = 0 ∧ message.algoId = -1 then
          (if message.bufsPtr ≠ 0 then 48 else 44) ≤ inSize.toNat ∧ SlotsListed (dsp.heap.params param) message ids
        else loadNeeds task.type.isHw message env ≤ inSize.toNat ∧ ListTaken task.type.isHw message env

-- The task has a back end, whose list takes the buffers from a place on that is
-- not in front of it.
def AssginBounded (dsp : Dsp) (id : Nat) (config : SwBeConfigPar) (inSize : UInt32) : Prop :=
  12 ≤ inSize.toNat ∧ ∀ pri, dspSearchTaskById dsp id = some pri →
    let handler := dsp.swBe (dsp.tasks pri).be.id
    0 ≤ (dsp.tasks pri).be.id ∧ 16 ≤ inSize.toNat ∧
      (i32 (handler.validBufNum + config.numBuf) ≤ handler.bufNum → 0 < config.numBuf → handler.bufNum ≠ 0 ∧
        (∀ index < config.numBuf.toNat, 0 ≤ Int.tmod (i32 (index + (handler.headId + handler.validBufNum))) handler.bufNum) ∧
        20 + bufferSize * config.numBuf.toNat ≤ inSize.toNat)

def CommandBounded (state : NsDsp) (memory : Option (Nat → XrpCmdNs)) (ids : BufferIds) (inSize outSize : UInt32) : Command → Prop
  | .taskAlloc mode _ => 8 ≤ inSize.toNat ∧ 4 ≤ outSize.toNat ∧ (AllocGranted state memory mode → 24 ≤ outSize.toNat)
  | .taskFree _ | .taskStop _ => 8 ≤ inSize.toNat ∧ 4 ≤ outSize.toNat
  | .taskStart id => 8 ≤ inSize.toNat ∧ (NoHandler state.dsp id ∨ 4 ≤ outSize.toNat)
  | .feConfig id message => feNeeds state.dsp id message ≤ inSize.toNat ∧ 4 ≤ outSize.toNat
  | .beConfig id message => beNeeds state.dsp id message ≤ inSize.toNat ∧ 4 ≤ outSize.toNat
  | .algoConfig id message env => AlgoConfigBounded state.dsp id message env ids inSize ∧ 4 ≤ outSize.toNat
  | .algoLoad id _ env =>
      (if dspSearchTaskById state.dsp id = none ∨ env.paramBlock = none then 12 else 20) ≤ inSize.toNat ∧ 4 ≤ outSize.toNat
  | .reportConfig id flag _ => reportNeeds state.dsp id flag ≤ inSize.toNat
  | .beAssginBuf id config => AssginBounded state.dsp id config inSize ∧ 4 ≤ outSize.toNat

def RequestBounded (state : NsDsp) (inSize outSize : UInt32) : CommonRequest → Prop
  | .loopback => 4 ≤ inSize.toNat ∧ outSize.toNat ≤ inSize.toNat ∧ inSize.toNat ≤ outSize.toNat + 4
  | .dataMove | .heartBeat | .unknown => 4 ≤ inSize.toNat
  | .ipTest nameSize resultSize => 72 ≤ inSize.toNat ∧ 36 + nameSize ≤ inSize.toNat ∧ resultSize ≤ outSize.toNat
  | .negativeId _ _ => False
  | .command command memory ids => CommandBounded state memory ids inSize outSize command

-- The last buffer is one of the eight, and it lies within in_data.
def SwRequestBounded (scratch : Scratch) (algo : AlgoResult) (dsp : Dsp) (pri : Nat) (request : SwTaskReq)
    (inSize outSize : UInt32) : Prop :=
  let task := dsp.tasks pri
  (task.type = .swToHw → task.be.ops = some .host → 0 ≤ task.be.id) ∧
    ∀ middle out, swTaskOut scratch dsp task = some (middle, out) →
      (task.algo.param ≠ none → 24 ≤ inSize.toNat ∧ (task.type = .swToHw → 1 ≤ request.bufferNum.toNat ∧
        request.bufferNum.toNat ≤ csiDspMaxBuffer ∧
        bufferSize * (request.bufferNum.toNat - 1) + (if request.allocatedFm (lastBuffer request) then 72 else 36) ≤ inSize.toNat)) ∧
      (swAnswers algo middle task = true → 4 ≤ outSize.toNat)

def PlanesBounded (dsp : Dsp) (pri : Nat) (out : CsiDspBuffer) : Prop :=
  ∀ param, (dsp.tasks pri).algo.param = some param → 2 ≤ (dsp.heap.params param).bufferNum → out.planeCount ≤ 3

def AllInRange (inSize outSize : UInt32) (accesses : List Access) : Prop := ∀ access ∈ accesses, access.InRange inSize outSize

section Accesses

variable (inSize outSize : UInt32)

@[simp] theorem all_nil : AllInRange inSize outSize [] := fun _ member => absurd member List.not_mem_nil

@[simp] theorem all_cons (access : Access) (rest : List Access) :
    AllInRange inSize outSize (access :: rest) ↔ access.InRange inSize outSize ∧ AllInRange inSize outSize rest :=
  List.forall_mem_cons

@[simp] theorem all_append (first second : List Access) : AllInRange inSize outSize (first ++ second) ↔
    AllInRange inSize outSize first ∧ AllInRange inSize outSize second :=
  List.forall_mem_append

@[simp] theorem field_in_range (first size : Nat) :
    (field first size).InRange inSize outSize ↔ size = 0 ∨ 4 + first + size ≤ inSize.toNat := by
  simp only [field, Access.InRange]
  omega

@[simp] theorem out_in_range (first size : Nat) :
    (Access.outData first size).InRange inSize outSize ↔ size = 0 ∨ first + size ≤ outSize.toNat := .rfl

theorem ring_in_range (index : Int) (count : Nat) :
    (Access.ringSlot index count).InRange inSize outSize ↔ 0 ≤ index ∧ index < count := .rfl

@[simp] theorem slot_in_range (index count : Nat) : (Access.algoBuffer index count).InRange inSize outSize ↔ index < count := .rfl

@[simp] theorem all_field_if (asked : Bool) (first size : Nat) : AllInRange inSize outSize (fieldIf asked first size) ↔
    (asked = true → (field first size).InRange inSize outSize) := by
  cases asked <;> simp [fieldIf]

-- The comparison of dsp_search_task_by_id is enough for an id that is not
-- negative.
@[simp] theorem all_search (id : Nat) : AllInRange inSize outSize (searchAccesses id) := by
  rw [searchAccesses]
  split
  · exact all_nil inSize outSize
  · simp only [all_cons, all_nil, and_true, Access.InRange]
    omega

-- The size of the copy wraps when both sizes are below that of the command.
theorem loopback_bounded (state : NsDsp) : AllInRange inSize outSize (commonAccesses state inSize outSize .loopback) ↔
    RequestBounded state inSize outSize .loopback := by
  have inSmall := inSize.toNat_lt
  have outSmall := outSize.toNat_lt
  simp only [commonAccesses, RequestBounded, all_cons, all_nil, and_true, Access.InRange]
  by_cases enough : 4 ≤ max inSize.toNat outSize.toNat
  · have size : loopbackSize inSize outSize = max inSize.toNat outSize.toNat - 4 := by
      rw [loopbackSize, show ((max inSize.toNat outSize.toNat : Nat) : Int) - 4 =
        ((max inSize.toNat outSize.toNat - 4 : Nat) : Int) by omega]
      exact wrap_u_fits 32 _ (by omega)
    omega
  · omega

theorem report_bounded (dsp : Dsp) (id : Nat) (flag : ReportFlag) :
    (4 ≤ inSize.toNat ∧ AllInRange inSize outSize (reportAccesses dsp id flag)) ↔ reportNeeds dsp id flag ≤ inSize.toNat := by
  rw [reportAccesses, reportNeeds]
  by_cases missing : dspSearchTaskById dsp id = none
  · simp [missing]
    omega
  · by_cases asked : flag = .setup ∧ (xrpGetReportBuffer dsp.cmd).isSome = true
    · simp [missing, asked]
      omega
    · simp [missing, asked]
      omega

theorem sisp_bounded (known : Bool) : AllInRange inSize outSize (sispAccesses known) ↔ sispNeeds known ≤ inSize.toNat := by
  cases known with
  | false => simp [sispAccesses, sispNeeds]
  | true =>
      simp [sispAccesses, sispNeeds]
      omega

theorem vipre_bounded (config : VipreConfigPar) : AllInRange inSize outSize (vipreAccesses config) ↔
    vipreNeeds config ≤ inSize.toNat := by
  rw [vipreAccesses, vipreNeeds]
  by_cases accepted : (vipreConfigure config).map Prod.snd = some true
  · by_cases frames : config.lineNum = 0
    · simp [accepted, frames]
      omega
    · simp [accepted, frames]
      omega
  · by_cases frames : config.lineNum = 0
    · simp [accepted, frames]
    · simp [accepted, frames]
      omega

theorem fe_bounded (dsp : Dsp) (id : Nat) (message : FeConfig) :
    (4 ≤ inSize.toNat ∧ AllInRange inSize outSize (feAccesses dsp id message)) ↔
    feNeeds dsp id message ≤ inSize.toNat ∧ 4 ≤ outSize.toNat := by
  rw [feAccesses.eq_def, feNeeds.eq_def]
  by_cases missing : dspSearchTaskById dsp id = none
  · simp [missing]
    omega
  · cases message with
    | cpu | illegal =>
        simp [missing]
        omega
    | isp config =>
        have more : 12 ≤ sispNeeds (config.id.toNat ≤ maxIsp) := by
          rw [sispNeeds]
          split <;> omega
        simp only [missing, if_false, all_append, all_cons, all_search, and_true, field_in_range, out_in_range, sisp_bounded]
        omega
    | vipre config =>
        have more : 12 ≤ vipreNeeds config := by
          rw [vipreNeeds]
          split
          · omega
          · split <;> omega
        simp only [missing, if_false, all_append, all_cons, all_search, and_true, field_in_range, out_in_range, vipre_bounded]
        omega

theorem be_bounded (dsp : Dsp) (id : Nat) (message : BeConfig) :
    (4 ≤ inSize.toNat ∧ AllInRange inSize outSize (beAccesses dsp id message)) ↔
    beNeeds dsp id message ≤ inSize.toNat ∧ 4 ≤ outSize.toNat := by
  rw [beAccesses.eq_def, beNeeds.eq_def]
  by_cases missing : dspSearchTaskById dsp id = none
  · simp [missing]
    omega
  · cases message with
    | illegal =>
        simp [missing]
        omega
    | postIsp config =>
        have more : 12 ≤ sispNeeds (config.id.toNat ≤ maxPostIsp) := by
          rw [sispNeeds]
          split <;> omega
        simp only [missing, if_false, all_append, all_cons, all_search, and_true, field_in_range, out_in_range, sisp_bounded]
        omega
    | host config bufs =>
        by_cases full : freeSwBeId dsp.swBe = none
        · simp [missing, full]
          omega
        · by_cases noMemory : bufs = none
          · simp [missing, full, noMemory]
            omega
          · by_cases empty : u32 (bufferSize * config.numBuf) = 0
            · simp [missing, full, noMemory, empty]
              omega
            · simp [missing, full, noMemory, empty]
              omega

theorem take_bounded (message : AlgoConfigPar) (descNum : Nat) : AllInRange inSize outSize (takeAccesses message descNum) ↔
    (if message.bufsPtr ≠ 0 then 48 else 44) ≤ inSize.toNat ∧
      (message.bufsPtr ≠ 0 → message.bufNum.toNat ≠ 0 → descNum < u32 (message.bufNum.toNat + extraBufStartIndex : Nat) ∨
        message.bufNum.toNat + extraBufStartIndex ≤ descNum) := by
  rw [takeAccesses]
  generalize u32 ((message.bufNum.toNat + extraBufStartIndex : Nat) : Int) = grown
  by_cases noBufs : message.bufsPtr = 0
  · simp [noBufs]
  · by_cases refused : message.bufNum.toNat = 0 ∨ descNum < grown
    · have skipped : message.bufNum.toNat ≠ 0 → descNum < grown ∨ message.bufNum.toNat + extraBufStartIndex ≤ descNum :=
        fun some_ => .inl (refused.resolve_left some_)
      simp only [noBufs, refused, or_true, if_true, all_append, all_cons, all_nil, and_true, field_in_range, all_field_if]
      simp [noBufs]
      omega
    · rw [not_or] at refused
      simp only [noBufs, refused, or_self, if_false, all_append, all_cons, all_nil, field_in_range, slot_in_range, all_field_if]
      simp [noBufs, extraBufStartIndex]
      omega

theorem load_needs_least (hw : Bool) (message : AlgoConfigPar) (env : AlgoEnv) : 20 ≤ loadNeeds hw message env := by
  rw [loadNeeds]
  split
  · exact Nat.le_refl 20
  · split
    · exact Nat.le_refl 20
    · split
      · omega
      · split <;> omega

theorem load_config_bounded (hw : Bool) (message : AlgoConfigPar) (env : AlgoEnv) :
    (12 ≤ inSize.toNat ∧ AllInRange inSize outSize (loadConfigAccesses hw message env)) ↔
      loadNeeds hw message env ≤ inSize.toNat ∧ ListTaken hw message env := by
  rw [loadConfigAccesses, loadNeeds, ListTaken]
  cases loaded : env.load with
  | none =>
      simp
      omega
  | some result =>
      obtain ⟨process, descNum⟩ := result
      dsimp only
      by_cases plain : hw = false ∨ descNum = 0 ∨ env.bufsBlock = none
      · have skipped : hw = true → descNum ≠ 0 → env.bufsBlock ≠ none → False := by
          rintro rfl some_ block
          rcases plain with software | zero | missing
          · exact absurd software (by decide)
          · exact some_ zero
          · exact block missing
        simp only [if_pos plain, all_cons, all_nil, field_in_range, and_true]
        exact ⟨fun inside => ⟨by omega, fun hardware some_ block => (skipped hardware some_ block).elim⟩, fun inside => by omega⟩
      · have taken : hw = true ∧ descNum ≠ 0 ∧ env.bufsBlock ≠ none := by
          simpa [not_or] using plain
        by_cases refused : message.settPtr ≠ 0 ∧ message.settLength ≠ 0 ∧ env.setBlock = none
        · simp only [if_neg plain, if_pos refused, all_append, all_cons, all_nil, field_in_range, all_field_if]
          simp [refused]
          omega
        · have asked (condition : Prop) : (hw = true → descNum ≠ 0 → env.bufsBlock ≠ none →
              ¬ (message.settPtr ≠ 0 ∧ message.settLength ≠ 0 ∧ env.setBlock = none) → condition) ↔ condition :=
            ⟨fun held => held taken.1 taken.2.1 taken.2.2 refused, fun held _ _ _ _ => held⟩
          have order : 44 ≤ if message.bufsPtr ≠ 0 then 48 else 44 := by
            split <;> omega
          rw [asked]
          simp only [if_neg plain, if_neg refused, all_append, all_cons, field_in_range, all_field_if, take_bounded]
          constructor
          · rintro ⟨-, -, -, -, last⟩
            exact last
          · rintro ⟨enough, listed⟩
            exact ⟨by omega, .inr (by omega), .inr (by omega), ⟨.inr (by omega), fun _ => .inr (by omega)⟩, enough, listed⟩

theorem update_bounded (block : AlgoParam) (message : AlgoConfigPar) (ids : BufferIds) :
    (12 ≤ inSize.toNat ∧ AllInRange inSize outSize (field 8 8 :: field 0 2 :: updateAccesses block message ids)) ↔
      (if message.bufsPtr ≠ 0 then 48 else 44) ≤ inSize.toNat ∧ SlotsListed block message ids := by
  rw [updateAccesses, SlotsListed]
  generalize u32 ((block.bufferNum : Int) - extraBufStartIndex) = room
  have slots : AllInRange inSize outSize ((updateSlots ids 0 message.bufNum.toNat).map fun index => .algoBuffer index block.bufferNum) ↔
      ∀ index ∈ updateSlots ids 0 message.bufNum.toNat, index < block.bufferNum := List.forall_mem_map
  by_cases noBufs : message.bufsPtr = 0
  · simp [noBufs]
    omega
  · by_cases refused : room < message.bufNum.toNat
    · simp [noBufs, refused]
      omega
    · simp only [noBufs, refused, or_self, if_false, all_append, all_cons, field_in_range, all_field_if, slots]
      generalize (∀ index ∈ updateSlots ids 0 message.bufNum.toNat, index < block.bufferNum) = listed
      simp [noBufs, Nat.not_lt.mp refused]
      exact ⟨fun inside => ⟨by omega, inside.2.2.2.2⟩, fun inside => ⟨by omega, by omega, by omega, by omega, inside.2⟩⟩

theorem algo_config_bounded (dsp : Dsp) (id : Nat) (message : AlgoConfigPar) (env : AlgoEnv) (ids : BufferIds) :
    (4 ≤ inSize.toNat ∧ AllInRange inSize outSize (algoConfigAccesses dsp id message env ids)) ↔
      AlgoConfigBounded dsp id message env ids inSize ∧ 4 ≤ outSize.toNat := by
  rw [algoConfigAccesses, AlgoConfigBounded]
  have first (rest : List Access) (condition : Prop) (tail : 12 ≤ inSize.toNat ∧ AllInRange inSize outSize rest ↔
      12 ≤ inSize.toNat ∧ condition) : (4 ≤ inSize.toNat ∧
        AllInRange inSize outSize (field 4 4 :: searchAccesses id ++ .outData 0 4 :: rest)) ↔
      (12 ≤ inSize.toNat ∧ condition) ∧ 4 ≤ outSize.toNat := by
    simp only [all_append, all_cons, all_search, field_in_range, out_in_range, and_true]
    rw [← tail]
    constructor
    · exact fun inside => ⟨⟨by omega, inside.2.2.2⟩, by omega⟩
    · exact fun inside => ⟨by omega, by omega, by omega, inside.1.2⟩
  refine first _ _ ?_
  cases found : dspSearchTaskById dsp id with
  | none => simp
  | some pri =>
      have loads := load_config_bounded inSize outSize (dsp.tasks pri).type.isHw message env
      have more : loadNeeds (dsp.tasks pri).type.isHw message env ≤ inSize.toNat → 12 ≤ inSize.toNat := by
        have least := load_needs_least (dsp.tasks pri).type.isHw message env
        omega
      have same (known : Prop) (enough : known → 12 ≤ inSize.toNat) : (12 ≤ inSize.toNat ∧ known) ↔ known :=
        ⟨fun both => both.2, fun held => ⟨enough held, held⟩⟩
      simp only [Option.some.injEq, forall_eq']
      cases held : (dsp.tasks pri).algo.param with
      | none =>
          by_cases noMemory : env.paramBlock = none
          · simp [noMemory]
          · simp only [if_neg noMemory, loads]
            exact ⟨fun inside => ⟨more inside.1, fun _ => inside⟩, fun inside => inside.2 noMemory⟩
      | some param =>
          by_cases update : (dsp.tasks pri).algo.algoProcess ≠ none ∧ message.algoPtr = 0 ∧ message.algoId = -1
          · have order : 44 ≤ if message.bufsPtr ≠ 0 then 48 else 44 := by
              split <;> omega
            simp only [if_pos update, update_bounded]
            exact ⟨fun inside => ⟨by omega, inside⟩, fun inside => inside.2⟩
          · simp only [if_neg update, loads]
            exact ⟨fun inside => ⟨more inside.1, inside⟩, fun inside => inside.2⟩

theorem algo_load_bounded (dsp : Dsp) (id : Nat) (env : AlgoEnv) :
    (4 ≤ inSize.toNat ∧ AllInRange inSize outSize (algoLoadAccesses dsp id env)) ↔
      (if dspSearchTaskById dsp id = none ∨ env.paramBlock = none then 12 else 20) ≤ inSize.toNat ∧ 4 ≤ outSize.toNat := by
  rw [algoLoadAccesses]
  by_cases refused : dspSearchTaskById dsp id = none ∨ env.paramBlock = none
  · simp only [if_pos refused, all_append, all_cons, all_nil, all_search, field_in_range, out_in_range, and_true]
    omega
  · simp only [if_neg refused, all_append, all_cons, all_nil, all_search, field_in_range, out_in_range, and_true]
    omega

theorem ring_bounded (start numBuf : Int) (bufNum : Nat) :
    AllInRange inSize outSize ((List.range numBuf.toNat).flatMap fun (index : Nat) =>
      [.ringSlot (Int.tmod (i32 (index + start)) bufNum) bufNum, field (16 + bufferSize * index) bufferSize]) ↔
    (0 < numBuf → bufNum ≠ 0 ∧ (∀ index < numBuf.toNat, 0 ≤ Int.tmod (i32 (index + start)) bufNum) ∧
      20 + bufferSize * numBuf.toNat ≤ inSize.toNat) := by
  have each : AllInRange inSize outSize ((List.range numBuf.toNat).flatMap fun (index : Nat) =>
        [.ringSlot (Int.tmod (i32 (index + start)) bufNum) bufNum, field (16 + bufferSize * index) bufferSize]) ↔
      ∀ index < numBuf.toNat, (0 ≤ Int.tmod (i32 (index + start)) bufNum ∧ Int.tmod (i32 (index + start)) bufNum < bufNum) ∧
        20 + bufferSize * (index + 1) ≤ inSize.toNat := by
    simp only [AllInRange, List.forall_mem_flatMap, List.mem_range]
    refine forall_congr' fun index => imp_congr_right fun _ => ?_
    simp only [List.forall_mem_cons, field_in_range, ring_in_range, List.not_mem_nil, false_implies, implies_true, and_true, bufferSize]
    omega
  rw [each]
  constructor
  · intro inside positive
    have last := (inside (numBuf.toNat - 1) (by omega)).2
    have first := (inside 0 (by omega)).1
    rw [Nat.sub_add_cancel (by omega)] at last
    exact ⟨by omega, fun index small => (inside index small).1.1, last⟩
  · intro bounded index small
    obtain ⟨some_, slots, last⟩ := bounded (by omega)
    have below := Int.tmod_lt_of_pos (i32 ((index : Int) + start)) (b := bufNum) (by omega)
    have order : bufferSize * (index + 1) ≤ bufferSize * numBuf.toNat := Nat.mul_le_mul_left _ small
    exact ⟨⟨slots index small, below⟩, by omega⟩

-- Which entry a software back end is for comes from BE_CONFIG, so its id is
-- only ever too small.
theorem assgin_bounded (dsp : Dsp) (known : BackEndsKnown dsp) (id : Nat) (config : SwBeConfigPar) :
    (4 ≤ inSize.toNat ∧ AllInRange inSize outSize (assginAccesses dsp id config)) ↔
      AssginBounded dsp id config inSize ∧ 4 ≤ outSize.toNat := by
  rw [assginAccesses, AssginBounded]
  cases found : dspSearchTaskById dsp id with
  | none =>
      simp
      omega
  | some pri =>
      have below := (known pri).2
      simp only [Option.some.injEq, forall_eq']
      generalize (dsp.tasks pri).be.id = place at below
      generalize dsp.swBe place = handler
      by_cases missing : place < 0
      · have outside : ¬ (Access.swBe place).InRange inSize outSize := fun inside => absurd inside.1 (by omega)
        simp [outside, show ¬ 0 ≤ place by omega]
      · have inside : (Access.swBe place).InRange inSize outSize := ⟨by omega, below⟩
        have listed : ¬ (place < 0 ∨ (maxSwBe : Int) ≤ place) := by omega
        simp only [if_neg listed, all_append, all_cons, all_search, field_in_range, out_in_range, and_true, inside, true_and,
          Int.not_lt.mp missing]
        by_cases refused : i32 (handler.validBufNum + config.numBuf) > handler.bufNum
        · have skipped : ¬ i32 (handler.validBufNum + config.numBuf) ≤ handler.bufNum := by omega
          simp only [if_pos refused, skipped, false_implies, all_nil, and_true]
          omega
        · simp only [if_neg refused, Int.not_lt.mp refused, forall_const, ring_bounded]
          generalize (0 < config.numBuf → _) = taken
          constructor
          · exact fun inside => ⟨⟨by omega, by omega, inside.2.2.2.2⟩, by omega⟩
          · exact fun inside => ⟨by omega, .inr (by omega), .inr (by omega), .inr (by omega), inside.1.2.2⟩

theorem start_bounded (dsp : Dsp) (id : Nat) : (4 ≤ inSize.toNat ∧ AllInRange inSize outSize (startAccesses dsp id)) ↔
    8 ≤ inSize.toNat ∧ (NoHandler dsp id ∨ 4 ≤ outSize.toNat) := by
  have silent : (dspTaskStart dsp id).2 = .failure ↔ NoHandler dsp id := by
    simp only [dspTaskStart, NoHandler]
    cases found : dspSearchTaskById dsp id with
    | none => simp
    | some pri =>
        simp only [Option.some.injEq, exists_eq_left']
        cases (dsp.tasks pri).status with
        | ready => by_cases null : (dsp.vectors (dsp.tasks pri).irqNum).handler = .null <;> simp [psTaskInterruptRegister, null]
        | free | idel | runing | invalid => simp
  rw [startAccesses]
  by_cases failed : (dspTaskStart dsp id).2 = .failure
  · simp [failed, silent.mp failed]
    omega
  · have handled : ¬ NoHandler dsp id := fun missing => failed (silent.mpr missing)
    simp [failed, handled]
    omega

theorem alloc_bounded (state : NsDsp) (inv : NsInv state) (mode : Option TaskMode) (memory : Option (Nat → XrpCmdNs)) :
    (4 ≤ inSize.toNat ∧ AllInRange inSize outSize (createAccesses (taskCreated state mode memory))) ↔
      8 ≤ inSize.toNat ∧ 4 ≤ outSize.toNat ∧ (AllocGranted state memory mode → 24 ≤ outSize.toNat) := by
  have granted : taskCreated state mode memory = true ↔ AllocGranted state memory mode := by
    rw [taskCreated, nsCreateTask.eq_def, AllocGranted.eq_def]
    cases mode with
    | none => simp [psCreateTask]
    | some kind =>
        by_cases software : kind.isSw = true
        · simp only [software, if_true]
          cases found : getFreeSwTask state.dsp with
          | none => simp [psCreateTask, software, found]
          | some pri =>
              obtain ⟨place, count, made, -⟩ := create_sw_placed state.dsp pri inv.names kind software found
              cases registered : (xrpRegisterNamespace state.nsMap (swTaskEntry pri) memory).2 with
              | false => simp [registered, psCreateTask, software, found]
              | true => simp [registered, made]
        · simp only [if_neg software]
          cases found : getFreeHwTask state.dsp with
          | none => simp [psCreateTask, software, found]
          | some pri =>
              obtain ⟨place, count, made, -⟩ := create_hw_placed state.dsp pri inv.names kind software true found
              simp [made]
  rw [← granted, createAccesses]
  cases taskCreated state mode memory with
  | false => simp; omega
  | true => simp; omega

theorem request_bounded (state : NsDsp) (inv : NsInv state) (known : BackEndsKnown state.dsp) (request : CommonRequest) :
    AllInRange inSize outSize (commonAccesses state inSize outSize request) ↔ RequestBounded state inSize outSize request := by
  have word : (Access.inData 0 4).InRange inSize outSize ↔ 4 ≤ inSize.toNat := by
    simp only [Access.InRange]
    omega
  cases request with
  | loopback => exact loopback_bounded inSize outSize state
  | dataMove | heartBeat | unknown => simp [commonAccesses, RequestBounded, word]
  | ipTest nameSize resultSize =>
      simp only [commonAccesses, RequestBounded, all_cons, all_nil, word, field_in_range, out_in_range, and_true]
      omega
  | negativeId id negative =>
      have outside : ¬ (Access.taskHandler id).InRange inSize outSize := fun inside => absurd inside.1 (by omega)
      simp [commonAccesses, RequestBounded, outside]
  | command command memory ids =>
      rw [commonAccesses, all_cons, word, RequestBounded]
      cases command with
      | taskAlloc mode registered => exact alloc_bounded inSize outSize state inv mode memory
      | taskFree id =>
          simp [commandAccesses, freeAccesses, CommandBounded]
          omega
      | taskStart id => exact start_bounded inSize outSize state.dsp id
      | taskStop id =>
          simp [commandAccesses, stopAccesses, CommandBounded]
          omega
      | feConfig id message => exact fe_bounded inSize outSize state.dsp id message
      | beConfig id message => exact be_bounded inSize outSize state.dsp id message
      | algoConfig id message env => exact algo_config_bounded inSize outSize state.dsp id message env ids
      | algoLoad id algoId env => exact algo_load_bounded inSize outSize state.dsp id env
      | reportConfig id flag size => exact report_bounded inSize outSize state.dsp id flag
      | beAssginBuf id config => exact assgin_bounded inSize outSize state.dsp known id config

theorem fill_sw_bounded (task : DspTask) (request : SwTaskReq) : AllInRange inSize outSize (fillSwAccesses task request) ↔
    (task.algo.param ≠ none → 24 ≤ inSize.toNat ∧ (task.type = .swToHw → 1 ≤ request.bufferNum.toNat ∧
      request.bufferNum.toNat ≤ csiDspMaxBuffer ∧
      bufferSize * (request.bufferNum.toNat - 1) + (if request.allocatedFm (lastBuffer request) then 72 else 36) ≤ inSize.toNat)) := by
  have bytes (first : Int) (size : Nat) (some_ : size ≠ 0) : (Access.inData first size).InRange inSize outSize ↔
      0 ≤ first ∧ first + size ≤ inSize.toNat := by simp [Access.InRange, some_]
  have place : (Access.requestBuffer (lastBuffer request)).InRange inSize outSize ↔
      0 ≤ lastBuffer request ∧ lastBuffer request < csiDspMaxBuffer := .rfl
  rw [fillSwAccesses]
  by_cases noParam : task.algo.param = none
  · simp [noParam]
  · by_cases hardware : task.type = .swToHw
    · by_cases filled : request.allocatedFm (lastBuffer request) = true
      · simp [noParam, hardware, filled, place, bytes]
        simp only [lastBuffer, bufferSize, csiDspMaxBuffer]
        omega
      · simp [noParam, hardware, filled, place, bytes]
        simp only [lastBuffer, bufferSize, csiDspMaxBuffer]
        omega
    · simp [noParam, hardware, bytes]
      omega

theorem sw_request_bounded (scratch : Scratch) (algo : AlgoResult) (dsp : Dsp) (known : BackEndsKnown dsp) (pri : Nat)
    (request : SwTaskReq) : AllInRange inSize outSize (swTaskAccesses scratch algo dsp pri request) ↔
      SwRequestBounded scratch algo dsp pri request inSize outSize := by
  have index : AllInRange inSize outSize (beIndexAccesses (dsp.tasks pri)) ↔
      ((dsp.tasks pri).type = .swToHw → (dsp.tasks pri).be.ops = some .host → 0 ≤ (dsp.tasks pri).be.id) := by
    rw [beIndexAccesses]
    by_cases used : (dsp.tasks pri).type = .swToHw ∧ (dsp.tasks pri).be.ops = some .host
    · simp [used, Access.InRange, (known pri).2]
    · rw [if_neg used]
      simp only [all_nil, true_iff]
      exact fun hardware host => absurd ⟨hardware, host⟩ used
  rw [swTaskAccesses, SwRequestBounded, all_append, index]
  refine and_congr_right fun _ => ?_
  cases looked : swTaskOut scratch dsp (dsp.tasks pri) with
  | none => simp
  | some result =>
      obtain ⟨middle, out⟩ := result
      have answer : AllInRange inSize outSize (if swAnswers algo middle (dsp.tasks pri) then [.outData 0 4] else []) ↔
          (swAnswers algo middle (dsp.tasks pri) = true → 4 ≤ outSize.toNat) := by
        cases swAnswers algo middle (dsp.tasks pri) <;> simp
      simp only [all_append, fill_sw_bounded, answer]
      constructor
      · intro inside last buffer same
        cases same
        exact inside
      · exact fun inside => inside middle out rfl

theorem planes_bounded (dsp : Dsp) (pri : Nat) (out : CsiDspBuffer) :
    AllInRange inSize outSize (fillHwAccesses dsp pri out) ↔ PlanesBounded dsp pri out := by
  rw [fillHwAccesses, PlanesBounded]
  cases held : (dsp.tasks pri).algo.param with
  | none => simp
  | some param =>
      simp only [Option.some.injEq, forall_eq']
      by_cases few : (dsp.heap.params param).bufferNum < 2
      · rw [if_pos few]
        simp
        omega
      · rw [if_neg few]
        have planes : (Access.planes out.planeCount).InRange inSize outSize ↔ out.planeCount ≤ 3 := .rfl
        simp [planes]
        omega

end Accesses

-- Which of the host's numbers stay in range, in one state of the firmware.
structure HostNumbersBounded (state : Firmware) : Prop where
  common : ∀ inSize outSize request, AllInRange inSize outSize (commonAccesses state.ns inSize outSize request) ↔
    RequestBounded state.ns inSize outSize request
  software : ∀ inSize outSize scratch algo pri request,
    AllInRange inSize outSize (swTaskAccesses scratch algo state.ns.dsp pri request) ↔
      SwRequestBounded scratch algo state.ns.dsp pri request inSize outSize
  frames : ∀ inSize outSize pri out, AllInRange inSize outSize (fillHwAccesses state.ns.dsp pri out) ↔ PlanesBounded state.ns.dsp pri out

-- Exactly the requests that keep to their bounds themselves stay in range: the
-- handlers check an id against the size of its table, and little else.
theorem host_numbers_bounded (cmd : XrpDspCmd) (payload : ReportItem) (cells : Nat → XrpCmdNs) (finish : Firmware)
    (events : List ServedEvent) (ran : Runs.run servedStep (firstBoot cmd payload cells) events = some finish) :
    HostNumbersBounded finish := by
  have inv := served_run_inv cmd payload cells finish events ran
  exact ⟨fun inSize outSize request => request_bounded inSize outSize finish.ns inv.routing inv.known request,
    fun inSize outSize scratch algo pri request => sw_request_bounded inSize outSize scratch algo finish.ns.dsp inv.known pri request,
    fun inSize outSize pri out => planes_bounded inSize outSize finish.ns.dsp pri out⟩

-- A software task is allocated, and gets a request before it has an algorithm.
def servedEvents : List ServedEvent :=
  (hostCommand (.taskAlloc (some .swToSw) true) none).map .firmware ++
    (((hostCommand (.taskStop 0) none).take 2).map .firmware ++
      [.request zeroScratch .failure (allocteNsId 4) ⟨1, 0, none, 100, fun _ => false⟩])

theorem host_numbers_bounded_served :
    HostNumbersBounded ((Runs.run servedStep (firstBoot reportCmd anyReport zeroCells) servedEvents).get (by decide)) :=
  host_numbers_bounded reportCmd anyReport zeroCells _ servedEvents (Option.some_get _).symm

-- A response that is larger than the request makes the loopback read behind it.
theorem loopback_reads_past : ¬ ∀ (cmd : XrpDspCmd) (payload : ReportItem) (cells : Nat → XrpCmdNs) (finish : Firmware)
    (events : List ServedEvent) (inSize outSize : UInt32) (request : CommonRequest),
    Runs.run servedStep (firstBoot cmd payload cells) events = some finish →
      AllInRange inSize outSize (commonAccesses finish.ns inSize outSize request) := by
  intro claim
  have inside := claim reportCmd anyReport zeroCells (firstBoot reportCmd anyReport zeroCells) [] 8 16 .loopback rfl
    (.inData 4 12) (by decide)
  simp [Access.InRange] at inside

end CsiDsp
