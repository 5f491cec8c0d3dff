import CsiDsp.LineArithmetic
import CsiDsp.PostIspRing
import CsiDsp.VipreFrames

set_option autoImplicit false

namespace CsiDsp

open CInt

inductive PostLineEvent where
  | interrupt (registers : PostIspInterrupt)
  | getEntry (entry : SispBuffer) (bufEntry : CsiDspBuffer)
  | entryStart (bufEntry : CsiDspBuffer)
  | updateState

def postLineStep (run : LineRun) : PostLineEvent → Option LineRun
  | .interrupt registers => (postIspInterruptHandler run.handler registers).map fun next =>
      ⟨next, if registers.frameEnd = true ∧ run.handler.status = .recoverying then run.frames + 1 else run.frames⟩
  | .getEntry entry bufEntry => (getPostIspNextEntry entry run.handler bufEntry).map fun answer => { run with handler := answer.1 }
  | .entryStart bufEntry => (postIspEntryStart run.handler bufEntry).map fun answer =>
      ⟨answer.1, run.frames + flipped run.handler answer.1⟩
  | .updateState => (postIspRecoveryStateUpdate run.handler).map fun next =>
      ⟨next, if run.handler.status = .recoverying then run.frames + 1 else run.frames⟩

section PostIsp

variable (config : SispConfigPar)

-- The last entry of a frame takes a full entry's place in the ring.
def postUsedLines : Nat := config.ver.toNat + config.lineInEntry.toNat - lastEntryLines config.ver.toNat config.lineInEntry.toNat

def postEntryHeight (fifo : Sfifo) : Nat :=
  if isLastEntryToPushFifo fifo (lastEntryLines config.ver.toNat config.lineInEntry.toNat) then
    lastEntryLines config.ver.toNat config.lineInEntry.toNat
  else config.lineInEntry.toNat

def PostHandsExact (handler : SispHandler) : Prop :=
  ∀ entry bufEntry next outInfo, getPostIspNextEntry entry handler bufEntry = some (next, outInfo, true) →
    ∀ (param : HwAlgoParam) (inInfo : EntryStruct), 2 ≤ param.bufferNum →
      ImageExact (fillHwTaskAlgoParam param inInfo outInfo).output (postEntryHeight config (producerFifo handler)) config.lineStride.toNat

def PostIspArithmetic : Prop :=
  ∃ start ret, postIspHandlerConfig (zeroHandler config.id.toNat) config = some (start, ret) ∧
    (ret = .ok → ConfigExact config start.base (postUsedLines config) ∧
      ∀ events, ∃ finish, Runs.run postLineStep ⟨start, 0⟩ events = some finish ∧
        FrameOffsetExact config finish (postUsedLines config) ∧ PostHandsExact config finish.handler)

def PostIspGeometryFits : Prop := IspRefused config ∨ RingFits config (postUsedLines config)

end PostIsp

-- Serving a read entry neither starts nor ends a recovery.
theorem pop_recoverying (handler : SispHandler) (count : Nat) :
    (ispcPopNewLine handler count).1.status = .recoverying ↔ handler.status = .recoverying := by
  have outcome := pop_outcome handler count
  generalize ispcPopNewLine handler count = answer at outcome ⊢
  obtain ⟨next, taken⟩ := answer
  cases outcome with
  | idle => exact Iff.rfl
  | kept ok head => exact Iff.rfl
  | finished ok head ahead => exact Iff.rfl
  | outside ok head => rw [ok]; exact ⟨EhwErrorCode.noConfusion, EhwErrorCode.noConfusion⟩
  | unswitched ok head => rw [ok]; exact ⟨EhwErrorCode.noConfusion, EhwErrorCode.noConfusion⟩

section PostRun

variable (base : SispControlInfo) (geometry : Geometry base) (positive : 0 < base.lineNumPerBuffer) (short : ShortStarts base)

include positive short in
theorem ready_post_update (handler : SispHandler) (frames : Nat) (ready : RunReady base handler frames) :
    ∃ next, postIspRecoveryStateUpdate handler = some next ∧
      RunReady base next (if handler.status = .recoverying then frames + 1 else frames) := by
  by_cases recovering : handler.status = .recoverying
  · obtain ⟨next, taken, -, sides, kept⟩ := ready_reset_step base handler frames ready positive short
    refine ⟨{ next with currentNValue := 0, status := .recoveryDone }, ?_, ?_⟩
    · rw [postIspRecoveryStateUpdate, recovering, postIspFifoReset, taken]
      rfl
    · rw [if_pos recovering]
      refine ⟨kept.baseEq, kept.producer, kept.offset, fun _ => ?_⟩
      dsimp only
      rw [sides]
      exact kept.producer
  · rw [if_neg recovering]
    by_cases overflow : handler.status = .overFlow
    · refine ⟨handler, ?_, ready⟩
      rw [postIspRecoveryStateUpdate, overflow]
    · by_cases done : handler.status = .recoveryDone
      · refine ⟨{ handler with status := .ok }, ?_, ready.baseEq, ready.producer, ready.offset, fun _ => ready.customer (.inr done)⟩
        rw [postIspRecoveryStateUpdate, done]
      · refine ⟨{ handler with
            currentNValue := u16 (handler.currentNValue + handler.base.lineNumPerEntry : Nat), status := .recoverying }, ?_,
          ready.baseEq, ready.producer, ready.offset, fun healthy => ?_⟩
        · rw [postIspRecoveryStateUpdate]
          split
          · rename_i same
            exact absurd same recovering
          · rename_i same
            exact absurd same overflow
          · rename_i same
            exact absurd same done
          · rfl
        · rcases healthy with healthy | healthy <;> cases healthy

theorem ready_serve_entry (handler : SispHandler) (frames : Nat) (ready : RunReady base handler frames) :
    RunReady base (postIspServeEntry handler) frames ∧
      ((postIspServeEntry handler).status = .recoverying ↔ handler.status = .recoverying) := by
  rw [postIspServeEntry]
  split
  · exact ⟨ready_pop_step base handler frames ready _, pop_recoverying handler _⟩
  · split
    · exact ⟨⟨ready.baseEq, ready.producer, ready.offset, ready.customer⟩, Iff.rfl⟩
    · exact ⟨ready, Iff.rfl⟩

theorem recoverying_code (status : EhwErrorCode) : status.code = EhwErrorCode.recoverying.code ↔ status = .recoverying := by
  cases status <;> decide

include positive short in
theorem ready_post_interrupt (handler : SispHandler) (frames : Nat) (ready : RunReady base handler frames)
    (registers : PostIspInterrupt) : ∃ next, postIspInterruptHandler handler registers = some next ∧
      RunReady base next (if registers.frameEnd = true ∧ handler.status = .recoverying then frames + 1 else frames) := by
  have served : ∃ middle, (if registers.entryDone then postIspServeEntry handler else handler) = middle ∧
      RunReady base middle frames ∧ (middle.status = .recoverying ↔ handler.status = .recoverying) := by
    cases registers.entryDone with
    | true => exact ⟨_, rfl, ready_serve_entry base handler frames ready⟩
    | false => exact ⟨handler, rfl, ready, Iff.rfl⟩
  obtain ⟨middle, same, kept, recovering⟩ := served
  rw [postIspInterruptHandler, same]
  by_cases ended : registers.frameEnd = true
  · rw [if_pos ended, postIspServeFrameEnd, postIspGetStatus]
    simp only [recoverying_code, ended, true_and, ← recovering]
    by_cases given : middle.status = .recoverying
    · obtain ⟨next, taken, still⟩ := ready_post_update base positive short middle frames kept
      rw [if_pos given] at still
      rw [if_pos given, if_pos given]
      exact ⟨next, taken, still⟩
    · rw [if_neg given, if_neg given]
      exact ⟨middle, rfl, kept⟩
  · rw [if_neg ended, if_neg fun held => ended held.1]
    exact ⟨middle, rfl, kept⟩

include geometry positive in
-- Asking for the next entry traps nowhere, and fills in what it hands out.
theorem ready_post_get (handler : SispHandler) (frames : Nat) (ready : RunReady base handler frames) (entry : SispBuffer)
    (bufEntry : CsiDspBuffer) : ∃ next outInfo found, getPostIspNextEntry entry handler bufEntry = some (next, outInfo, found) ∧
      RunReady base next frames ∧
      (found = true → outInfo.planeCount = 1 ∧ ∃ lines, lines =
          (if isLastEntryToPushFifo (producerFifo handler) base.lineNumInLastEntry then base.lineNumInLastEntry
          else base.lineNumPerEntry) ∧
        outInfo.height = lines ∧ outInfo.stride = base.sizePerLine ∧ outInfo.size = u32 (base.sizePerLine * lines : Nat)) := by
  have depth : (producerFifo handler).depth ≠ 0 := Nat.ne_of_gt (Nat.lt_of_lt_of_eq positive ready.producer.depth.symm)
  have divisor : base.lineNumPerEntry ≠ 0 := Nat.ne_of_gt geometry.entryPos
  have info : handler.info.get handler.producePingPongFlag = base := ready.producer.infoEq
  have failed := ready_failed base handler frames ready .parmaInvalid (by decide)
  rw [producerFifo] at depth
  rw [getPostIspNextEntry, postIspGetNextEntry, getTailFifo, if_neg depth]
  dsimp only [Option.bind_eq_bind, Option.bind_some]
  rw [info, if_neg divisor]
  by_cases negative : i16 (Int.tmod ((handler.fifo.get handler.producePingPongFlag).tail +
      (handler.fifo.get handler.producePingPongFlag).offset) (handler.fifo.get handler.producePingPongFlag).depth) < 0
  · rw [if_pos negative]
    exact ⟨_, _, _, rfl, failed, Bool.noConfusion⟩
  · rw [if_neg negative]
    split
    · exact ⟨_, _, _, rfl, failed, Bool.noConfusion⟩
    · exact ⟨_, _, _, rfl, ready, fun _ => ⟨rfl, _, rfl, rfl, rfl, rfl⟩⟩

include geometry positive short in
theorem ready_post_step (run : LineRun) (event : PostLineEvent) (ready : RunReady base run.handler run.frames) :
    ∃ next, postLineStep run event = some next ∧ RunReady base next.handler next.frames := by
  cases event with
  | interrupt registers =>
      obtain ⟨next, taken, kept⟩ := ready_post_interrupt base positive short run.handler run.frames ready registers
      refine ⟨⟨next, _⟩, ?_, kept⟩
      rw [postLineStep, taken]
      rfl
  | getEntry entry bufEntry =>
      obtain ⟨next, outInfo, found, got, kept, -⟩ := ready_post_get base geometry positive run.handler run.frames ready entry bufEntry
      refine ⟨⟨next, run.frames⟩, ?_, kept⟩
      rw [postLineStep, got]
      rfl
  | entryStart bufEntry =>
      obtain ⟨next, recorded, pushed⟩ :=
        push_runs run.handler (Nat.lt_of_lt_of_eq positive ready.producer.depth.symm) (u16 bufEntry.height)
      have kept := ready_push_step base run.handler run.frames ready geometry short _ next recorded pushed
      cases recorded with
      | true =>
          obtain ⟨value, started⟩ := post_isp_push_entry run.handler next _ pushed
          refine ⟨⟨{ next with currentNValue := value }, run.frames + flipped run.handler next⟩, ?_,
            kept.baseEq, kept.producer, kept.offset, kept.customer⟩
          rw [postLineStep, postIspEntryStart, started]
          rfl
      | false =>
          refine ⟨⟨next, run.frames + flipped run.handler next⟩, ?_, kept⟩
          rw [postLineStep, postIspEntryStart, postIspPushEntry, pushed]
          rfl
  | updateState =>
      obtain ⟨next, taken, kept⟩ := ready_post_update base positive short run.handler run.frames ready
      refine ⟨⟨next, _⟩, ?_, kept⟩
      rw [postLineStep, taken]
      rfl

end PostRun

section PostConfig

variable (config : SispConfigPar) (passed : ¬ IspRefused config)

theorem last_entry_bound (height entry : Nat) (positive : 0 < entry) : lastEntryLines height entry ≤ height + entry := by
  have below := Nat.mod_lt height positive
  rw [lastEntryLines]
  split <;> omega

include passed

theorem post_used_exact (entryPos : 0 < config.lineInEntry.toNat) :
    u16 ((config.ver.toNat : Int) - (lastEntryLines config.ver.toNat config.lineInEntry.toNat : Nat) + config.lineInEntry.toNat) =
      postUsedLines config := by
  have geometry := accepted_geometry config passed 0 entryPos
  have entryMax : config.lineInEntry.toNat ≤ 8191 := entry_bound _ geometry
  have frameMax : config.ver.toNat ≤ 3192 := frame_bound _ geometry
  have last := last_entry_bound config.ver.toNat config.lineInEntry.toNat entryPos
  have exact : (config.ver.toNat : Int) - (lastEntryLines config.ver.toNat config.lineInEntry.toNat : Nat) + config.lineInEntry.toNat =
      (postUsedLines config : Nat) := by
    rw [postUsedLines]
    omega
  rw [exact]
  refine u16_fits _ ?_
  rw [postUsedLines]
  omega

theorem post_config_passed : postIspHandlerConfig (zeroHandler config.id.toNat) config =
    if 0 < config.lineStride.toNat ∧ 0 < config.lineInEntry.toNat then some (acceptedStart config (postUsedLines config), .ok)
    else none := by
  rw [postIspHandlerConfig, base_info_passed config passed]
  by_cases divisors : 0 < config.lineStride.toNat ∧ 0 < config.lineInEntry.toNat
  · have used := post_used_exact config passed divisors.2
    rw [← accepted_last config 0] at used
    have stored : u16 (((acceptedInfo config 0).lineNumPerFrame : Int) - (acceptedInfo config 0).lineNumInLastEntry +
        (acceptedInfo config 0).lineNumPerEntry) = postUsedLines config := used
    have zero : (zeroHandler config.id.toNat).base.lineNumUsedPerFrame = 0 := rfl
    rw [if_pos divisors, if_pos divisors, zero]
    simp only [Option.bind_eq_bind, Option.bind_some, ne_eq, not_true_eq_false, if_false, stored]
    rfl
  · rw [if_neg divisors, if_neg divisors]
    rfl

omit passed in
theorem accepted_start (used frame : Nat) (lines : (acceptedInfo config used).lineNumPerBuffer = ringLines config) :
    frameStart (acceptedInfo config used) frame = frame * used % ringLines config := by
  rw [frameStart, lines]
  rfl

theorem post_fits_exact (fits : RingFits config (postUsedLines config)) : PostIspArithmetic config := by
  have geometry := accepted_geometry config passed (postUsedLines config) fits.entryPos
  have exact := accepted_exact config (postUsedLines config) fits.linesMax
  have lines : (acceptedInfo config (postUsedLines config)).lineNumPerBuffer = ringLines config := exact.lines
  have positive : 0 < (acceptedInfo config (postUsedLines config)).lineNumPerBuffer := Nat.lt_of_lt_of_eq fits.linesPos lines.symm
  have short : ShortStarts (acceptedInfo config (postUsedLines config)) := by
    intro frame
    rw [accepted_start config _ frame lines]
    exact fits.short frame
  refine ⟨acceptedStart config (postUsedLines config), .ok, ?_, fun _ => ⟨exact, fun events => ?_⟩⟩
  · rw [post_config_passed config passed, if_pos ⟨fits.stridePos, fits.entryPos⟩]
  · obtain ⟨finish, ran, ready⟩ := Runs.run_total postLineStep
      (fun run => RunReady (acceptedInfo config (postUsedLines config)) run.handler run.frames)
      (fun run event held => ready_post_step _ geometry positive short run event held)
      ⟨acceptedStart config (postUsedLines config), 0⟩ events (fits_ready config _ _)
    refine ⟨finish, ran, ?_, fun entry bufEntry next outInfo got param inInfo two => ?_⟩
    · rw [FrameOffsetExact, LineRun.fifo, ready.offset, accepted_start config _ _ lines]
    · obtain ⟨after, handed, found, gotten, -, exactly⟩ := ready_post_get _ geometry positive finish.handler finish.frames ready
        entry bufEntry
      cases got.symm.trans gotten
      obtain ⟨planes, height, chosen, heightEq, strideEq, sizeEq⟩ := exactly rfl
      have asked : height = postEntryHeight config (producerFifo finish.handler) := by
        rw [chosen, accepted_last]
        rfl
      have heightMax : height < 8192 := by
        have lastLines := last_entry_lines _ geometry
        have entryMax := entry_bound _ geometry
        rw [chosen]
        split <;> omega
      have product : config.lineStride.toNat * height < 65536 * 8192 := Nat.mul_lt_mul'' config.lineStride.toNat_lt heightMax
      have kept : (fillHwTaskAlgoParam param inInfo outInfo).output = outInfo := by
        rw [fillHwTaskAlgoParam, if_neg (Nat.not_lt.mpr two)]
        dsimp only
        rw [planes, if_neg Nat.one_ne_zero]
      rw [kept, ← asked]
      refine ⟨heightEq, strideEq, ?_⟩
      rw [sizeEq, Nat.mul_comm height]
      exact u32_fits _ (by dsimp only [acceptedInfo]; omega)

omit passed in
theorem reset_runs (handler : SispHandler) (positive : 0 < (producerFifo handler).depth) :
    ∃ next, ispcFifoReset handler = some next ∧ next.base = handler.base ∧
      (producerFifo next).depth = handler.base.lineNumPerBuffer ∧ (producerFifo next).offset < 32768 := by
  have index := next_base_runs (handler.fifo.get handler.producePingPongFlag) (handler.info.get handler.producePingPongFlag) positive
  rw [ispcFifoReset, index]
  refine ⟨_, rfl, rfl, ?_, ?_⟩
  · rw [producerFifo, PingPong.get_set_same]
    rfl
  · rw [producerFifo, PingPong.get_set_same]
    exact i16_lt _

structure PostIdle (base : SispControlInfo) (run : LineRun) : Prop where
  ok : run.handler.status = .ok
  baseEq : run.handler.base = base
  depth : (producerFifo run.handler).depth = base.lineNumPerBuffer
  near : (producerFifo run.handler).offset < 32768

omit passed in
-- Three calls of the state update lay out the next frame.
theorem post_frame_step (base : SispControlInfo) (positive : 0 < base.lineNumPerBuffer) (run : LineRun) (idle : PostIdle base run) :
    ∃ finish, Runs.run postLineStep run [.updateState, .updateState, .updateState] = some finish ∧ finish.frames = run.frames + 1 ∧
      PostIdle base finish := by
  have failing : postLineStep run .updateState = some ⟨{ run.handler with
      currentNValue := u16 (run.handler.currentNValue + run.handler.base.lineNumPerEntry : Nat)
      status := .recoverying }, run.frames⟩ := by
    rw [postLineStep, postIspRecoveryStateUpdate, idle.ok]
    rfl
  obtain ⟨next, taken, baseEq, depth, near⟩ := reset_runs { run.handler with
      currentNValue := u16 (run.handler.currentNValue + run.handler.base.lineNumPerEntry : Nat), status := .recoverying }
    (Nat.lt_of_lt_of_eq positive idle.depth.symm)
  refine ⟨⟨{ next with currentNValue := 0, status := .ok }, run.frames + 1⟩, ?_, rfl, rfl, baseEq.trans idle.baseEq, ?_, near⟩
  · rw [Runs.run, failing, Option.bind_some, Runs.run, postLineStep, postIspRecoveryStateUpdate, postIspFifoReset]
    dsimp only
    rw [taken]
    rfl
  · exact depth.trans (congrArg _ idle.baseEq)

omit passed in
theorem post_frames_reached (base : SispControlInfo) (positive : 0 < base.lineNumPerBuffer) (start : SispHandler)
    (idle : PostIdle base ⟨start, 0⟩) (frames : Nat) :
    ∃ events finish, Runs.run postLineStep ⟨start, 0⟩ events = some finish ∧ finish.frames = frames ∧ PostIdle base finish := by
  induction frames with
  | zero => exact ⟨[], ⟨start, 0⟩, rfl, rfl, idle⟩
  | succ frames ih =>
      obtain ⟨events, middle, ran, count, still⟩ := ih
      obtain ⟨finish, cycle, more, again⟩ := post_frame_step base positive middle still
      refine ⟨events ++ [.updateState, .updateState, .updateState], finish, ?_, more.trans (congrArg (· + 1) count), again⟩
      rw [Runs.run_append, ran]
      exact cycle

theorem post_exact_fits (exactly : PostIspArithmetic config) : RingFits config (postUsedLines config) := by
  obtain ⟨start, ret, configured, kept⟩ := exactly
  rw [post_config_passed config passed] at configured
  by_cases divisors : 0 < config.lineStride.toNat ∧ 0 < config.lineInEntry.toNat
  · rw [if_pos divisors] at configured
    cases configured
    obtain ⟨exact, runs⟩ := kept rfl
    have geometry := accepted_geometry config passed (postUsedLines config) divisors.2
    have lines : (acceptedInfo config (postUsedLines config)).lineNumPerBuffer = ringLines config := exact.lines
    have linesMax : ringLines config ≤ 65535 := by
      have below := geometry.depthMax
      omega
    have linesPos : 0 < ringLines config := by
      refine Nat.pos_of_ne_zero fun empty => ?_
      obtain ⟨finish, ran, -⟩ := runs [.getEntry noBuffer zeroBuffer]
      have depth : ((acceptedStart config (postUsedLines config)).fifo.get
          (acceptedStart config (postUsedLines config)).producePingPongFlag).depth = 0 := lines.trans empty
      rw [Runs.run, postLineStep, getPostIspNextEntry, postIspGetNextEntry, getTailFifo, if_pos depth] at ran
      cases ran
    refine ⟨divisors.1, divisors.2, linesPos, linesMax, fun frame => ?_⟩
    obtain ⟨events, finish, ran, count, idle⟩ := post_frames_reached _ (Nat.lt_of_lt_of_eq linesPos lines.symm)
      (acceptedStart config (postUsedLines config)) ⟨rfl, rfl, rfl, (by decide : (0 : Int) < 32768)⟩ frame
    obtain ⟨other, same, offset, -⟩ := runs events
    cases ran.symm.trans same
    have near : finish.fifo.offset < 32768 := idle.near
    rw [offset, count] at near
    omega
  · rw [if_neg divisors] at configured
    cases configured

end PostConfig

theorem post_arithmetic_iff (config : SispConfigPar) : PostIspArithmetic config ↔ PostIspGeometryFits config := by
  by_cases refused : IspRefused config
  · refine iff_of_true ⟨{ zeroHandler config.id.toNat with status := .parmaInvalid }, .parmaInvalid, ?_,
      fun accepted => by cases accepted⟩
      (.inl refused)
    rw [postIspHandlerConfig, base_info_refused config _ refused]
    rfl
  · rw [PostIspGeometryFits, or_iff_right refused]
    exact ⟨post_exact_fits config refused, post_fits_exact config refused⟩

structure VipreLineRun where
  handler : SvipreHandler
  frames : Nat

def VipreLineRun.fifo (run : VipreLineRun) : Sfifo := run.handler.fifo.get run.handler.producePingPongFlag

inductive VipreLineEvent where
  | interrupt (registers : VipreInterrupt)
  | getEntry (buffer : SvipreBuffer) (id : Int) (ctrlInfo : EntryStruct)
  | entryDone (lineNum : Int)
  | updateState

def vipreLineStep (run : VipreLineRun) : VipreLineEvent → Option VipreLineRun
  | .interrupt registers => (vipreInterruptHandler run.handler registers).map fun next =>
      ⟨next, if next.producePingPongFlag = run.handler.producePingPongFlag then run.frames else run.frames + 1⟩
  | .getEntry buffer id ctrlInfo => (getVipreNextEntry buffer id run.handler ctrlInfo).map fun answer => { run with handler := answer.1 }
  | .entryDone lineNum => (viprePopNewEntry run.handler lineNum).map fun answer => { run with handler := answer.1 }
  | .updateState => (vipreRecoveryStateUpdate run.handler).map fun next => { run with handler := next }

section Vipre

variable (config : VipreConfigPar)

def vipreRingLines : Nat := config.bufferSize.toNat / config.lineStride.toNat

def VipreHandsExact (handler : SvipreHandler) : Prop :=
  ∀ buffer id ctrlInfo next entry, getVipreNextEntry buffer id handler ctrlInfo = some (next, entry, true) →
    ∀ (param : HwAlgoParam) (outInfo : CsiDspBuffer), 2 ≤ param.bufferNum →
      ImageExact (fillHwTaskAlgoParam param entry outInfo).input
        (entryHeight config.ver.toNat config.lineNum.toNat
          ((handler.fifo.get handler.customerPingPongFlag).tail - (handler.fifo.get handler.customerPingPongFlag).head))
        config.lineStride.toNat

structure VipreConfigExact (base : SvipreNLineInfo) : Prop where
  lines : base.lineNumPerBuffer = vipreRingLines config
  lastEntry : base.lineNumInLastEntry = lastEntryLines config.ver.toNat config.lineNum.toNat
  pitch : base.sizePerLine = config.lineStride.toNat
  usedLines : base.lineNumUsedPerFrame = config.ver.toNat

def VipreArithmetic : Prop :=
  ∃ start accepted, vipreHandlerNlineConfig zeroVipre config = some (start, accepted) ∧
    (accepted = true → VipreConfigExact config start.base ∧
      ∀ events, ∃ finish, Runs.run vipreLineStep ⟨start, 0⟩ events = some finish ∧
        finish.fifo.offset = (finish.frames * config.ver.toNat % vipreRingLines config : Nat) ∧ VipreHandsExact config finish.handler)

def VipreRefused : Prop :=
  config.hor.toNat > maxHorizontal ∨ config.ver.toNat > maxVertical ∨ config.lineNum.toNat > linesMask ∨
    config.lineStride.toNat ≠ 0 ∧ config.bufferSize.toNat % config.lineStride.toNat ≠ 0

-- The lines the first push of a run records.
def firstPushLines : Nat :=
  if config.ver.toNat = lastEntryLines config.ver.toNat config.lineNum.toNat then config.ver.toNat else config.lineNum.toNat

-- The getter leaves the pitch as it was on the stack: only a ring that takes no
-- entry at all hands out no wrong one.
def VipreGeometryFits : Prop :=
  VipreRefused config ∨ 0 < config.lineStride.toNat ∧ 0 < config.lineNum.toNat ∧ vipreRingLines config ≤ 65535 ∧
    vipreRingLines config < firstPushLines config

end Vipre

def acceptedVipre (config : VipreConfigPar) : SvipreNLineInfo := {
  lineNumPerEntry := config.lineNum.toNat
  lineNumPerFrame := config.ver.toNat
  lineNumInLastEntry := if config.ver.toNat % config.lineNum.toNat = 0 then config.lineNum.toNat
    else config.ver.toNat % config.lineNum.toNat
  sizePerLine := config.lineStride.toNat
  lineNumPerBuffer := u16 (config.bufferSize.toNat / config.lineStride.toNat : Nat)
  lineNumUsedPerFrame := config.ver.toNat
  bufferAddr := fun channel =>
    if channel ∈ activeChannels config.actChannel.toNat then (config.bufferAddr channel).toNat else zeroVipre.base.bufferAddr channel }

def acceptedVipreStart (config : VipreConfigPar) : SvipreHandler := { zeroVipre with
  frameMetaReg := u32 (config.bufferAddr 11).toNat
  activeChannle := config.actChannel.toNat
  vipreMode := .nLine
  status := .ok
  base := acceptedVipre config
  customerPingPongFlag := false
  producePingPongFlag := false
  info := zeroVipre.info.set false (acceptedVipre config)
  fifo := zeroVipre.fifo.set false (resetFifo (acceptedVipre config).lineNumPerBuffer 0 config.ver.toNat) }

-- A driver that has taken no entry since it was configured.
structure VipreUnfilled (config : VipreConfigPar) (handler : SvipreHandler) : Prop where
  mode : handler.vipreMode = .nLine
  customer : handler.customerPingPongFlag = false
  producer : handler.producePingPongFlag = false
  info : handler.info.get false = acceptedVipre config
  fifo : FrameFifo (handler.fifo.get false) (acceptedVipre config).lineNumPerBuffer config.ver.toNat 0 0 0

section VipreRun

variable (config : VipreConfigPar)

theorem vipre_config_refused (refused : VipreRefused config) : vipreHandlerNlineConfig zeroVipre config = some (zeroVipre, false) := by
  rw [vipreHandlerNlineConfig]
  dsimp only
  by_cases large : config.hor.toNat > maxHorizontal ∨ config.ver.toNat > maxVertical ∨ config.lineNum.toNat > linesMask
  · rw [if_pos (by simpa [or_assoc] using large)]
  · have unfit : config.lineStride.toNat ≠ 0 ∧ config.bufferSize.toNat % config.lineStride.toNat ≠ 0 := by
      rcases refused with hor | ver | entry | unfit
      · exact absurd (.inl hor) large
      · exact absurd (.inr (.inl ver)) large
      · exact absurd (.inr (.inr entry)) large
      · exact unfit
    rw [if_neg (by simpa [or_assoc] using large), if_neg unfit.1, if_pos unfit.2]

theorem vipre_accepted_last : (acceptedVipre config).lineNumInLastEntry = lastEntryLines config.ver.toNat config.lineNum.toNat := by
  simp only [lastEntryLines, Nat.dvd_iff_mod_eq_zero]
  rfl

variable (passed : ¬ VipreRefused config)

include passed

theorem vipre_config_passed : vipreHandlerNlineConfig zeroVipre config =
    if 0 < config.lineStride.toNat ∧ 0 < config.lineNum.toNat then some (acceptedVipreStart config, true) else none := by
  rw [VipreRefused, not_or, not_or, not_or] at passed
  obtain ⟨hor, ver, entry, fit⟩ := passed
  rw [vipreHandlerNlineConfig]
  dsimp only
  rw [if_neg (by simpa [or_assoc] using And.intro (Nat.not_lt.mp hor) ⟨Nat.not_lt.mp ver, Nat.not_lt.mp entry⟩)]
  by_cases stride : config.lineStride.toNat = 0
  · rw [if_pos stride, if_neg fun held => Nat.ne_of_gt held.1 stride]
  · rw [if_neg stride, if_neg fun unfit => fit ⟨stride, unfit⟩]
    by_cases lines : config.lineNum.toNat = 0
    · rw [if_pos lines, if_neg fun held => Nat.ne_of_gt held.2 lines]
    · have divisors : 0 < config.lineStride.toNat ∧ 0 < config.lineNum.toNat := ⟨Nat.pos_of_ne_zero stride, Nat.pos_of_ne_zero lines⟩
      rw [if_neg lines, if_pos divisors]
      rfl

theorem vipre_limits : config.ver.toNat ≤ 3192 ∧ config.lineNum.toNat ≤ 8191 := by
  rw [VipreRefused, not_or, not_or, not_or] at passed
  exact ⟨Nat.le_of_not_lt passed.2.1, Nat.le_of_not_lt passed.2.2.1⟩

omit passed in
theorem vipre_unfilled_start : VipreUnfilled config (acceptedVipreStart config) := ⟨rfl, rfl, rfl, rfl, rfl, rfl, rfl, rfl, rfl⟩

omit passed in
theorem unfilled_push_lines (handler : SvipreHandler) (unfilled : VipreUnfilled config handler) :
    (if vipreIsLastEntryPushInFrame handler then (handler.info.get false).lineNumInLastEntry
      else (handler.info.get false).lineNumPerEntry) = firstPushLines config := by
  rw [vipreIsLastEntryPushInFrame, unfilled.mode]
  dsimp only
  rw [unfilled.producer, unfilled.info, isLastEntryToPushFifo, unfilled.fifo.tailEq, unfilled.fifo.maxEq, vipre_accepted_last,
    firstPushLines]
  by_cases whole : config.ver.toNat = lastEntryLines config.ver.toNat config.lineNum.toNat
  · rw [if_pos whole, ← whole, Int.sub_self]
    rfl
  · rw [if_neg whole, if_neg ?_]
    · rfl
    · rw [beq_iff_eq]
      omega

omit passed in
theorem first_push_pos (positive : 0 < config.lineNum.toNat) : 0 < firstPushLines config := by
  rw [firstPushLines]
  split
  · rename_i whole
    rw [whole, lastEntryLines]
    split
    · exact positive
    · rename_i ragged
      exact Nat.pos_of_ne_zero fun none => ragged (Nat.dvd_of_mod_eq_zero none)
  · exact positive

omit passed in
theorem first_push_le : firstPushLines config ≤ config.ver.toNat + config.lineNum.toNat := by
  rw [firstPushLines]
  split
  · exact Nat.le_add_right _ _
  · exact Nat.le_add_left _ _

section Unfilled

variable (handler : SvipreHandler) (unfilled : VipreUnfilled config handler)

include unfilled

omit passed in
theorem unfilled_empty : isEmptyFifo (handler.fifo.get handler.customerPingPongFlag) = true := by
  rw [unfilled.customer, isEmptyFifo, unfilled.fifo.tailEq, unfilled.fifo.headEq]
  rfl

theorem unfilled_push (small : (acceptedVipre config).lineNumPerBuffer < firstPushLines config) :
    ∃ next, viprePushNewLine handler = some (next, false) ∧ VipreUnfilled config next := by
  have limits := vipre_limits config passed
  have lines := first_push_le config
  have sized := unfilled_push_lines config handler unfilled
  have scarce : ¬ isEnoughSpaceToPushFifo (handler.fifo.get false) (u16 ((firstPushLines config + 0 : Nat) : Int)) = true := by
    rw [Nat.add_zero, u16_fits _ (by omega), isEnoughSpaceToPushFifo, unfilled.fifo.tailEq, unfilled.fifo.headEq,
      unfilled.fifo.depthEq, decide_eq_true_eq]
    omega
  rw [viprePushNewLine, unfilled.producer]
  dsimp only
  by_cases marked : isOverflowFifo (handler.fifo.get false) = true
  · rw [if_pos marked]
    exact ⟨_, rfl, unfilled.mode, unfilled.customer, rfl, unfilled.info, unfilled.fifo⟩
  · rw [if_neg marked, sized]
    simp only [pushFifo, if_neg scarce, if_true]
    exact ⟨_, rfl, unfilled.mode, unfilled.customer, rfl, unfilled.info, frame_fifo_status _ _ _ _ _ _ unfilled.fifo .overflow⟩

theorem unfilled_step (small : (acceptedVipre config).lineNumPerBuffer < firstPushLines config)
    (event : VipreLineEvent) :
    ∃ next, vipreLineStep ⟨handler, 0⟩ event = some ⟨next, 0⟩ ∧ VipreUnfilled config next := by
  have empty := unfilled_empty config handler unfilled
  have popped (lineNum : Int) := vipre_pop_idle handler lineNum empty
  cases event with
  | interrupt registers =>
      have taken : ∃ next, vipreInterruptHandler handler registers = some next ∧ VipreUnfilled config next := by
        rw [vipreInterruptHandler]
        split
        · refine ⟨handler, ?_, unfilled⟩
          rw [viprePushNewEntry, unfilled.mode]
          rfl
        · split
          · obtain ⟨next, pushed, kept⟩ := unfilled_push config passed handler unfilled small
            refine ⟨next, ?_, kept⟩
            rw [pushed]
            rfl
          · split
            · refine ⟨handler, ?_, unfilled⟩
              rw [popped]
              rfl
            · exact ⟨handler, rfl, unfilled⟩
      obtain ⟨next, served, kept⟩ := taken
      refine ⟨next, ?_, kept⟩
      rw [vipreLineStep, served, Option.map_some, if_pos (kept.producer.trans unfilled.producer.symm)]
  | getEntry buffer id ctrlInfo =>
      refine ⟨handler, ?_, unfilled⟩
      rw [vipreLineStep, getVipreNextEntry, vipreGetNextEntry]
      dsimp only
      rw [if_pos empty]
      rfl
  | entryDone lineNum =>
      refine ⟨handler, ?_, unfilled⟩
      rw [vipreLineStep, popped]
      rfl
  | updateState =>
      refine ⟨handler, ?_, unfilled⟩
      rw [vipreLineStep, vipreRecoveryStateUpdate, unfilled.mode]
      rfl

end Unfilled

theorem vipre_fits_exact (stridePos : 0 < config.lineStride.toNat) (entryPos : 0 < config.lineNum.toNat)
    (linesMax : vipreRingLines config ≤ 65535) (small : vipreRingLines config < firstPushLines config) : VipreArithmetic config := by
  have lines : (acceptedVipre config).lineNumPerBuffer = vipreRingLines config := u16_fits _ (Nat.lt_succ_of_le linesMax)
  refine ⟨acceptedVipreStart config, true, ?_, fun _ => ⟨⟨lines, vipre_accepted_last config, rfl, rfl⟩, fun events => ?_⟩⟩
  · rw [vipre_config_passed config passed, if_pos ⟨stridePos, entryPos⟩]
  · obtain ⟨finish, ran, kept⟩ := Runs.run_total vipreLineStep (fun run => run.frames = 0 ∧ VipreUnfilled config run.handler)
      (fun run event held => by
        obtain ⟨next, taken, still⟩ := unfilled_step config passed run.handler held.2 (Nat.lt_of_le_of_lt (Nat.le_of_eq lines) small) event
        refine ⟨⟨next, 0⟩, ?_, rfl, still⟩
        rw [← taken, ← held.1])
      ⟨acceptedVipreStart config, 0⟩ events ⟨rfl, vipre_unfilled_start config⟩
    obtain ⟨frames, unfilled⟩ := kept
    refine ⟨finish, ran, ?_, fun buffer id ctrlInfo next entry got => ?_⟩
    · rw [VipreLineRun.fifo, unfilled.producer, unfilled.fifo.offsetEq, frames, Nat.zero_mul, Nat.zero_mod]
    · rw [getVipreNextEntry, vipreGetNextEntry] at got
      dsimp only at got
      rw [if_pos (unfilled_empty config finish.handler unfilled)] at got
      cases got

omit passed in
-- An entry comes with the pitch the caller's buffer had before.
theorem vipre_entry_pitch (handler : SvipreHandler) (lines maxIndex count : Nat) (mode : handler.vipreMode = .nLine)
    (fifo : FrameFifo (handler.fifo.get handler.customerPingPongFlag) lines maxIndex 0 0 count)
    (healthy : isOverflowFifo (handler.fifo.get handler.customerPingPongFlag) = false)
    (positive : 0 < lines) (linesMax : lines ≤ 65536) (filled : 0 < count) (countIn : count < 65536)
    (enough : (handler.info.get handler.customerPingPongFlag).lineNumPerEntry ≤ count ∨
      (handler.info.get handler.customerPingPongFlag).lineNumInLastEntry ≤ count)
    (buffer : SvipreBuffer) (id : Int) (ctrlInfo : EntryStruct) :
    ∃ next entry, getVipreNextEntry buffer id handler ctrlInfo = some (next, entry, true) ∧ entry.pitch = i16 buffer.lineSize := by
  have head := frame_fifo_head _ _ _ _ _ _ fifo positive linesMax
  have elements := frame_fifo_elements _ _ _ _ _ _ fifo (Nat.zero_le _) countIn
  have nonempty : isEmptyFifo (handler.fifo.get handler.customerPingPongFlag) = false := by
    rw [isEmptyFifo, fifo.tailEq, fifo.headEq, beq_eq_false_iff_ne]
    omega
  have popped (lineNum : Nat) (stored : lineNum ≤ count) : ∃ parts, vipreGetEntryToPop handler lineNum buffer =
    some (handler, parts, true) ∧
      parts.lineSize = buffer.lineSize := by
    rw [vipreGetEntryToPop, healthy, nonempty, if_neg Bool.false_ne_true, if_neg Bool.false_ne_true, elements, if_neg (by omega), head]
    exact ⟨_, rfl, rfl⟩
  have got : ∃ parts, vipreGetNextEntry handler (u16 id) buffer = some (handler, parts, true) ∧ parts.lineSize = buffer.lineSize := by
    rw [vipreGetNextEntry]
    dsimp only
    rw [nonempty, if_neg Bool.false_ne_true, mode]
    rw [isEnoughElementToPopFifo, isEnoughElementToPopFifo, fifo.headEq, fifo.tailEq, Nat.zero_add, Nat.zero_add]
    by_cases full : (handler.info.get handler.customerPingPongFlag).lineNumPerEntry ≤ count
    · obtain ⟨parts, found, pitch⟩ := popped _ full
      rw [if_pos (decide_eq_true full), found]
      exact ⟨parts, rfl, pitch⟩
    · have last := enough.resolve_left full
      obtain ⟨parts, found, pitch⟩ := popped _ last
      rw [if_neg (Bool.eq_false_iff.mp (decide_eq_false full)), if_pos (decide_eq_true last), found]
      exact ⟨parts, rfl, pitch⟩
  obtain ⟨parts, found, pitch⟩ := got
  rw [getVipreNextEntry, found]
  simp only [Option.bind_eq_bind, Option.bind_some, vipreGetFrameMeta, mode, Bool.true_eq_false, if_false]
  refine ⟨handler, _, rfl, ?_⟩
  dsimp only
  rw [pitch]

omit passed in
theorem vipre_first_push (room : firstPushLines config ≤ (acceptedVipre config).lineNumPerBuffer)
    (pushIn : firstPushLines config < 65536) (positive : 0 < firstPushLines config) :
    ∃ next, viprePushNewLine (acceptedVipreStart config) = some (next, true) ∧ next.vipreMode = .nLine ∧
      next.customerPingPongFlag = false ∧ next.info.get false = acceptedVipre config ∧
      FrameFifo (next.fifo.get false) (acceptedVipre config).lineNumPerBuffer config.ver.toNat 0 0 (firstPushLines config) ∧
      isOverflowFifo (next.fifo.get false) = false := by
  have sized := unfilled_push_lines config (acceptedVipreStart config) (vipre_unfilled_start config)
  have pushed := frame_fifo_push ((acceptedVipreStart config).fifo.get false) _ _ 0 0 0 (vipre_unfilled_start config).fifo
    (firstPushLines config) 0 pushIn (by omega) (by omega)
  have depth : ((acceptedVipreStart config).fifo.get false).depth ≠ 0 := Nat.ne_of_gt (Nat.lt_of_lt_of_le positive room)
  have producer : (acceptedVipreStart config).producePingPongFlag = false := rfl
  have healthy : isOverflowFifo ((acceptedVipreStart config).fifo.get false) = false := rfl
  rw [viprePushNewLine, producer]
  dsimp only
  rw [healthy, if_neg Bool.false_ne_true, sized, pushed]
  simp only [Bool.true_eq_false, if_false, if_neg depth]
  split
  · exact ⟨_, rfl, rfl, rfl, rfl, ⟨rfl, Nat.zero_add _, rfl, rfl, rfl⟩, rfl⟩
  · exact ⟨_, rfl, rfl, rfl, rfl, ⟨rfl, Nat.zero_add _, rfl, rfl, rfl⟩, rfl⟩

theorem vipre_exact_fits (exactly : VipreArithmetic config) : 0 < config.lineStride.toNat ∧ 0 < config.lineNum.toNat ∧
    vipreRingLines config ≤ 65535 ∧ vipreRingLines config < firstPushLines config := by
  obtain ⟨start, accepted, configured, kept⟩ := exactly
  rw [vipre_config_passed config passed] at configured
  by_cases divisors : 0 < config.lineStride.toNat ∧ 0 < config.lineNum.toNat
  · rw [if_pos divisors] at configured
    cases configured
    obtain ⟨exact, runs⟩ := kept rfl
    have lines : (acceptedVipre config).lineNumPerBuffer = vipreRingLines config := exact.lines
    have linesMax : vipreRingLines config < 65536 := by
      rw [← lines]
      exact u16_lt ((config.bufferSize.toNat / config.lineStride.toNat : Nat) : Int)
    refine ⟨divisors.1, divisors.2, Nat.le_of_lt_succ linesMax, Nat.lt_of_not_le fun room => ?_⟩
    have limits := vipre_limits config passed
    have countMax := first_push_le config
    have countPos := first_push_pos config divisors.2
    obtain ⟨next, pushed, mode, customer, info, fifo, healthy⟩ := vipre_first_push config (by omega) (by omega) countPos
    have enough : (acceptedVipre config).lineNumPerEntry ≤ firstPushLines config ∨
        (acceptedVipre config).lineNumInLastEntry ≤ firstPushLines config := by
      rw [firstPushLines, vipre_accepted_last]
      split
      · rename_i whole
        exact .inr (Nat.le_of_eq whole.symm)
      · exact .inl (Nat.le_refl _)
    let buffer : SvipreBuffer := ⟨0, 0, 0, 0, fun _ => 0⟩
    let ctrlInfo : EntryStruct := ⟨0, 0, 0, 0, 0, 0, 0, zeroMeta⟩
    obtain ⟨after, entry, got, pitch⟩ := vipre_entry_pitch next (acceptedVipre config).lineNumPerBuffer config.ver.toNat
      (firstPushLines config) mode (by rw [customer]; exact fifo) (by rw [customer]; exact healthy) (by omega) (by omega)
      countPos (by omega) (by rw [customer, info]; exact enough) buffer 0 ctrlInfo
    obtain ⟨finish, ran, -, handed⟩ := runs [.interrupt ⟨false, true, false, zeroMeta⟩]
    rw [Runs.run, vipreLineStep, vipreInterruptHandler, if_neg Bool.false_ne_true, if_pos rfl, pushed] at ran
    cases ran
    have image := handed buffer 0 ctrlInfo after entry got ⟨2, zeroBuffer, zeroBuffer, 0, 0, 0, zeroMeta⟩ zeroBuffer (Nat.le_refl _)
    have stride := image.strideEq
    simp only [fillHwTaskAlgoParam, Nat.lt_irrefl, if_false, pitch] at stride
    have zero : u32 (i16 ((0 : Nat) : Int)) = 0 := by decide
    exact Nat.ne_of_gt divisors.1 (stride.symm.trans zero)
  · rw [if_neg divisors] at configured
    cases configured

end VipreRun

theorem vipre_arithmetic_iff (config : VipreConfigPar) : VipreArithmetic config ↔ VipreGeometryFits config := by
  by_cases refused : VipreRefused config
  · exact iff_of_true ⟨zeroVipre, false, vipre_config_refused config refused, fun accepted => by cases accepted⟩ (.inl refused)
  · rw [VipreGeometryFits, or_iff_right refused]
    exact ⟨vipre_exact_fits config refused, fun fits => vipre_fits_exact config refused fits.1 fits.2.1 fits.2.2.1 fits.2.2.2⟩

-- The arithmetic of a line configuration is exact if and only if it is refused
-- or fits the fields it passes through.
theorem line_arithmetic_exact (isp postIsp : SispConfigPar) (vipre : VipreConfigPar) :
    (IspArithmetic isp ↔ IspGeometryFits isp) ∧ (PostIspArithmetic postIsp ↔ PostIspGeometryFits postIsp) ∧
      (VipreArithmetic vipre ↔ VipreGeometryFits vipre) :=
  ⟨isp_arithmetic_iff isp, post_arithmetic_iff postIsp, vipre_arithmetic_iff vipre⟩

-- A stride of 40000 is handed to the algorithm as -25536.
def widePitch : SispConfigPar := ⟨0, 640, 8, 0, 4, 40000, 640000, 0x1000⟩

def zeroEntry : EntryStruct := ⟨0, 0, 0, 0, 0, 0, 0, zeroMeta⟩

def widePitchRun : LineRun := (Runs.run ispLineStep ⟨acceptedStart widePitch 8, 0⟩ [.nLines 4]).get (by decide)

def widePitchEntry : EntryStruct := ((getIspNextEntry noBuffers widePitchRun.handler zeroEntry).get (by decide)).2.1

theorem wide_pitch_wrong : ¬ ∀ (isp postIsp : SispConfigPar) (vipre : VipreConfigPar),
    IspArithmetic isp ∧ PostIspArithmetic postIsp ∧ VipreArithmetic vipre := by
  intro claim
  obtain ⟨start, ret, configured, kept⟩ := (claim widePitch widePitch ⟨0, 0, 0, 0, 0, 0, 0, 0, 0, fun _ => 0⟩).1
  have begun : ispHandlerConfig (zeroHandler 0) widePitch = some (acceptedStart widePitch 8, .ok) := by decide
  cases configured.symm.trans begun
  obtain ⟨finish, ran, -, handed⟩ := (kept rfl).2 [.nLines 4]
  have after : Runs.run ispLineStep ⟨acceptedStart widePitch 8, 0⟩ [.nLines 4] = some widePitchRun := by decide
  cases ran.symm.trans after
  have image := handed noBuffers zeroEntry widePitchRun.handler widePitchEntry (by decide)
    ⟨2, zeroBuffer, zeroBuffer, 0, 0, 0, zeroMeta⟩ zeroBuffer
    (Nat.le_refl _)
  exact absurd image.strideEq (by decide)

end CsiDsp
