import Mathlib.Logic.Function.Basic
import CsiDsp.Base.Runs

set_option autoImplicit false

namespace CsiDsp

-- isp_int_tick, post_isp_tick and vipre_int_tick, each with its counter: an
-- int32_t that wraps around.
structure IntrTrace where
  tick : Nat → BitVec 32
  cnt : BitVec 32

def zeroTrace : IntrTrace := ⟨fun _ => 0, 0⟩

-- The result none is a write outside of the array.
def traceWrite (words : Nat) (index : BitVec 32) (trace : IntrTrace) (value : BitVec 32) : Option IntrTrace :=
  if 0 ≤ index.toInt ∧ index.toInt < words then
    some ⟨Function.update trace.tick index.toInt.toNat value, trace.cnt + 1⟩
  else none

-- What isp_interrupt_handler reads for its trace.
structure IspTraceRegs where
  mi3 : BitVec 32
  mi : BitVec 32
  mi1 : BitVec 32
  mi2 : BitVec 32
  lineEntry : BitVec 16

def ispTick (trace : IntrTrace) (value : BitVec 32) : Option IntrTrace := traceWrite 1536 (trace.cnt.srem 1536) trace value

def ispTrace (trace : IntrTrace) (regs : IspTraceRegs) : Option IntrTrace :=
  [regs.mi3, regs.mi, regs.mi1, regs.mi2, 0xf0000000 ||| regs.lineEntry.setWidth 32].foldlM ispTick trace

-- What post_isp_interrupt_handler reads, and the lines the post ISP has popped.
structure PostIspTraceRegs where
  interruptStatus : BitVec 32
  miMis : BitVec 32
  mpLineCnt : BitVec 32
  miMis2 : BitVec 32
  popedLineNum : BitVec 16

def postIspTick (trace : IntrTrace) (value : BitVec 32) : Option IntrTrace := traceWrite 1536 trace.cnt trace value

def postIspTrace (trace : IntrTrace) (regs : PostIspTraceRegs) : Option IntrTrace :=
  ([regs.interruptStatus, regs.miMis, regs.mpLineCnt, regs.miMis2, regs.popedLineNum.signExtend 32].foldlM postIspTick trace).map
    fun trace => { trace with cnt := trace.cnt &&& 0x3ff }

structure VipreTraceRegs where
  ccount : BitVec 32
  interruptStatus : BitVec 32
  bufferStatus : BitVec 32

def vipreTick (trace : IntrTrace) (value : BitVec 32) : Option IntrTrace := traceWrite 1024 (trace.cnt &&& 0x3ff) trace value

def vipreTrace (trace : IntrTrace) (regs : VipreTraceRegs) : Option IntrTrace :=
  [regs.ccount, regs.interruptStatus, regs.bufferStatus].foldlM vipreTick trace

structure IntrTraces where
  isp : IntrTrace
  postIsp : IntrTrace
  vipre : IntrTrace

def zeroTraces : IntrTraces := ⟨zeroTrace, zeroTrace, zeroTrace⟩

inductive ServedIntr where
  | isp (regs : IspTraceRegs)
  | postIsp (regs : PostIspTraceRegs)
  | vipre (regs : VipreTraceRegs)

def ServedIntr.isIsp : ServedIntr → Bool
  | .isp _ => true
  | .postIsp _ | .vipre _ => false

def traceStep (traces : IntrTraces) : ServedIntr → Option IntrTraces
  | .isp regs => (ispTrace traces.isp regs).map fun trace => { traces with isp := trace }
  | .postIsp regs => (postIspTrace traces.postIsp regs).map fun trace => { traces with postIsp := trace }
  | .vipre regs => (vipreTrace traces.vipre regs).map fun trace => { traces with vipre := trace }

def TracesInside (events : List ServedIntr) : Prop := (Runs.run traceStep zeroTraces events).isSome = true

section Writes

variable (trace : IntrTrace)

theorem masked_index (cnt : BitVec 32) : (cnt &&& 0x3ff).toNat < 1024 ∧ (cnt &&& 0x3ff).toInt = (cnt &&& 0x3ff).toNat := by
  have small : (cnt &&& 0x3ff).toNat < 1024 := by
    rw [BitVec.toNat_and]
    exact Nat.lt_succ_of_le Nat.and_le_right
  exact ⟨small, BitVec.toInt_eq_toNat_of_lt (by omega)⟩

theorem vipre_tick_inside (value : BitVec 32) : ∃ next, vipreTick trace value = some next := by
  obtain ⟨small, index⟩ := masked_index trace.cnt
  rw [vipreTick, traceWrite, if_pos (by rw [index]; omega)]
  exact ⟨_, rfl⟩

theorem vipre_trace_inside (regs : VipreTraceRegs) : ∃ next, vipreTrace trace regs = some next := by
  obtain ⟨first, here⟩ := vipre_tick_inside trace regs.ccount
  obtain ⟨second, there⟩ := vipre_tick_inside first regs.interruptStatus
  obtain ⟨last, done⟩ := vipre_tick_inside second regs.bufferStatus
  exact ⟨last, by simp only [vipreTrace, List.foldlM_cons, List.foldlM_nil, here, there, done, Option.bind_eq_bind, Option.bind_some,
    Option.pure_def]⟩

-- The five writes begin below 1024 and are counted on before the mask.
theorem post_isp_ticks_inside (values : List (BitVec 32)) (start : IntrTrace) (room : start.cnt.toNat + values.length ≤ 1536) :
    ∃ next, values.foldlM postIspTick start = some next := by
  induction values generalizing start with
  | nil => exact ⟨start, rfl⟩
  | cons value rest ih =>
      rw [List.length_cons] at room
      have index : start.cnt.toInt = start.cnt.toNat := BitVec.toInt_eq_toNat_of_lt (by omega)
      have written : postIspTick start value = some ⟨Function.update start.tick start.cnt.toInt.toNat value, start.cnt + 1⟩ := by
        rw [postIspTick, traceWrite, if_pos (by rw [index]; omega)]
      have counted : (start.cnt + 1).toNat = start.cnt.toNat + 1 := by
        have one : (1 : BitVec 32).toNat = 1 := rfl
        rw [BitVec.toNat_add, one]
        omega
      obtain ⟨next, done⟩ := ih ⟨Function.update start.tick start.cnt.toInt.toNat value, start.cnt + 1⟩ (by dsimp only; omega)
      exact ⟨next, by rw [List.foldlM_cons, written]; exact done⟩

theorem post_isp_trace_inside (regs : PostIspTraceRegs) (small : trace.cnt.toNat < 1024) :
    ∃ next, postIspTrace trace regs = some next ∧ next.cnt.toNat < 1024 := by
  obtain ⟨last, done⟩ := post_isp_ticks_inside [regs.interruptStatus, regs.miMis, regs.mpLineCnt, regs.miMis2,
    regs.popedLineNum.signExtend 32] trace (by simp only [List.length_cons, List.length_nil]; omega)
  exact ⟨{ last with cnt := last.cnt &&& 0x3ff }, by rw [postIspTrace, done]; rfl, (masked_index last.cnt).1⟩

-- The counter is used as a signed number: after 2 ^ 31 writes the remainder is negative.
theorem isp_tick_counted (value : BitVec 32) (count : Nat) (counted : trace.cnt = BitVec.ofNat 32 count) (near : count ≤ 2147483648) :
    if count < 2147483648 then ∃ next, ispTick trace value = some next ∧ next.cnt = BitVec.ofNat 32 (count + 1)
    else ispTick trace value = none := by
  split
  · rename_i before
    have unsigned : (BitVec.ofNat 32 count).toNat = count := by
      rw [BitVec.toNat_ofNat]
      omega
    have index : (trace.cnt.srem 1536).toInt = ((count % 1536 : Nat) : Int) := by
      rw [BitVec.toInt_srem, counted, BitVec.toInt_eq_toNat_of_lt (by omega), unsigned]
      rfl
    refine ⟨⟨Function.update trace.tick (count % 1536) value, trace.cnt + 1⟩, ?_, ?_⟩
    · rw [ispTick, traceWrite, index, if_pos (by omega), Int.toNat_natCast]
    · rw [counted, BitVec.ofNat_add]
      rfl
  · rename_i far
    have last : count = 2147483648 := by omega
    rw [ispTick, traceWrite, counted, last, if_neg (by decide)]

theorem isp_ticks_counted (values : List (BitVec 32)) (start : IntrTrace) (count : Nat) (counted : start.cnt = BitVec.ofNat 32 count)
    (near : count ≤ 2147483648) :
    if count + values.length ≤ 2147483648 then
      ∃ next, values.foldlM ispTick start = some next ∧ next.cnt = BitVec.ofNat 32 (count + values.length)
    else values.foldlM ispTick start = none := by
  induction values generalizing start count with
  | nil =>
      rw [List.length_nil, Nat.add_zero, if_pos near]
      exact ⟨start, rfl, counted⟩
  | cons value rest ih =>
      have written := isp_tick_counted start value count counted near
      rw [List.length_cons, Nat.add_comm rest.length, ← Nat.add_assoc]
      by_cases before : count < 2147483648
      · rw [if_pos before] at written
        obtain ⟨next, written, more⟩ := written
        rw [List.foldlM_cons, written]
        exact ih next (count + 1) more before
      · rw [if_neg before] at written
        rw [if_neg (by omega), List.foldlM_cons, written]
        rfl

theorem isp_trace_counted (regs : IspTraceRegs) (count : Nat) (counted : trace.cnt = BitVec.ofNat 32 count) (near : count ≤ 2147483648) :
    if count + 5 ≤ 2147483648 then ∃ next, ispTrace trace regs = some next ∧ next.cnt = BitVec.ofNat 32 (count + 5)
    else ispTrace trace regs = none :=
  isp_ticks_counted [regs.mi3, regs.mi, regs.mi1, regs.mi2, 0xf0000000 ||| regs.lineEntry.setWidth 32] trace count counted near

end Writes

structure TracesCounted (traces : IntrTraces) (count : Nat) : Prop where
  counted : traces.isp.cnt = BitVec.ofNat 32 count
  near : count ≤ 2147483648
  small : traces.postIsp.cnt.toNat < 1024

def ServedIntr.counts (event : ServedIntr) : Nat := 5 * if event.isIsp then 1 else 0

-- Only the writes of the ISP are counted: the two other counters are masked.
theorem trace_step_counted (traces : IntrTraces) (event : ServedIntr) (count : Nat) (held : TracesCounted traces count) :
    if count + event.counts ≤ 2147483648 then
      ∃ next, traceStep traces event = some next ∧ TracesCounted next (count + event.counts)
    else traceStep traces event = none := by
  cases event with
  | isp regs =>
      have traced := isp_trace_counted traces.isp regs count held.counted held.near
      have five : (ServedIntr.isp regs).counts = 5 := rfl
      rw [five]
      by_cases fits : count + 5 ≤ 2147483648
      · rw [if_pos fits] at traced ⊢
        obtain ⟨next, traced, more⟩ := traced
        exact ⟨{ traces with isp := next }, by rw [traceStep, traced, Option.map_some], more, fits, held.small⟩
      · rw [if_neg fits] at traced ⊢
        rw [traceStep, traced, Option.map_none]
  | postIsp regs =>
      obtain ⟨next, traced, kept⟩ := post_isp_trace_inside traces.postIsp regs held.small
      have none_ : count + (ServedIntr.postIsp regs).counts = count := rfl
      rw [none_, if_pos held.near]
      exact ⟨{ traces with postIsp := next }, by rw [traceStep, traced, Option.map_some], held.counted, held.near, kept⟩
  | vipre regs =>
      obtain ⟨next, traced⟩ := vipre_trace_inside traces.vipre regs
      have none_ : count + (ServedIntr.vipre regs).counts = count := rfl
      rw [none_, if_pos held.near]
      exact ⟨{ traces with vipre := next }, by rw [traceStep, traced, Option.map_some], held.counted, held.near, held.small⟩

theorem traces_counted (events : List ServedIntr) (traces : IntrTraces) (count : Nat) (held : TracesCounted traces count) :
    (Runs.run traceStep traces events).isSome = true ↔ count + 5 * events.countP ServedIntr.isIsp ≤ 2147483648 := by
  induction events generalizing traces count with
  | nil => exact iff_of_true rfl held.near
  | cons event rest ih =>
      have stepped := trace_step_counted traces event count held
      have total : count + 5 * (event :: rest).countP ServedIntr.isIsp =
          count + event.counts + 5 * rest.countP ServedIntr.isIsp := by
        rw [List.countP_cons, ServedIntr.counts]
        omega
      rw [total]
      by_cases fits : count + event.counts ≤ 2147483648
      · rw [if_pos fits] at stepped
        obtain ⟨next, moved, more⟩ := stepped
        rw [Runs.run, moved, Option.bind_some]
        exact ih next _ more
      · rw [if_neg fits] at stepped
        rw [Runs.run, stepped]
        exact iff_of_false Bool.false_ne_true (by omega)

theorem traces_inside_counted (events : List ServedIntr) : TracesInside events ↔ 5 * events.countP ServedIntr.isIsp ≤ 2147483648 := by
  rw [TracesInside, traces_counted events zeroTraces 0 ⟨rfl, Nat.zero_le _, by decide⟩, Nat.zero_add]

-- The traces stay inside as long as the ISP has interrupted at most 2 ^ 31 / 5 times.
theorem trace_writes_inside (events : List ServedIntr) : TracesInside events ↔ events.countP ServedIntr.isIsp ≤ 429496729 := by
  rw [traces_inside_counted]
  omega

theorem trace_write_outside : ¬ ∀ events, TracesInside events := by
  intro claim
  have inside := (traces_inside_counted (List.replicate 429496730 (.isp ⟨0, 0, 0, 0, 0⟩))).mp (claim _)
  rw [List.countP_replicate] at inside
  exact absurd inside (by decide)

end CsiDsp
