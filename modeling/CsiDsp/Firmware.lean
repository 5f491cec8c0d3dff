import CsiDsp.CommandLoop
import CsiDsp.NsRouting
import CsiDsp.Scheduler

set_option autoImplicit false

namespace CsiDsp

-- The tables and the drivers, and where the loop is. The common task takes one
-- command of the host each time it runs.
structure Firmware where
  ns : NsDsp
  pc : SchedPc

inductive FirmwareEvent where
  | loop (event : LoopEvent)
  | command (command : Command) (memory : Option (Nat → XrpCmdNs))
  | heapWrite (cells : Nat → XrpCmdNs)

def firmwareStep (state : Firmware) : FirmwareEvent → Option Firmware
  | .loop event => (loopStep ⟨state.ns.dsp, state.pc⟩ event).map fun sched => ⟨{ state.ns with dsp := sched.dsp }, sched.pc⟩
  | .command command memory =>
      if state.pc = .other commonPri then (nsCommand state.ns memory command).map fun answered => ⟨answered.1, .clear commonPri⟩
      else none
  | .heapWrite cells => some { state with ns := { state.ns with nsMap := heapWrite state.ns.nsMap cells } }

def firstBoot (cmd : XrpDspCmd) (payload : ReportItem) (cells : Nat → XrpCmdNs) : Firmware := ⟨initNsDsp cmd payload cells, .pick⟩

-- The host raises its interrupt, the loop turns to the common task, and the
-- command is answered.
def hostCommand (command : Command) (memory : Option (Nat → XrpCmdNs)) : List FirmwareEvent :=
  [.loop (.interrupt .xrp ⟨⟨false, 0, false⟩, ⟨false, false, false, zeroMeta⟩, ⟨false, false⟩⟩),
    .loop (.schedule zeroScratch .failure), .command command memory, .loop (.schedule zeroScratch .failure)]

theorem loop_frame_places (pri : Nat) (dsp next : Dsp) (frame : LoopFrame dsp next) : KeepsPlaces pri dsp next := by
  rw [LoopFrame] at frame
  exact places_same pri dsp next (by rw [frame]) (by rw [frame]) (by rw [frame])

theorem firmware_step_inv (state next : Firmware) (event : FirmwareEvent) (inv : NsInv state.ns)
    (taken : firmwareStep state event = some next) : NsInv next.ns := by
  cases event with
  | loop event =>
      obtain ⟨sched, moved, rfl⟩ := Option.map_eq_some_iff.mp taken
      have frame := loop_step_frame ⟨state.ns.dsp, state.pc⟩ sched event moved
      exact kept_owners_inv state.ns inv 0 sched.dsp (loop_frame_places 0 state.ns.dsp sched.dsp frame)
  | command command memory =>
      simp only [firmwareStep, Option.ite_none_right_eq_some] at taken
      obtain ⟨⟨ns, reply⟩, answered, rfl⟩ := Option.map_eq_some_iff.mp taken.2
      exact ns_step_inv state.ns ns inv (.command command memory) (by rw [nsStep, answered]; rfl)
  | heapWrite cells =>
      cases taken
      exact heap_write_inv state.ns inv cells

end CsiDsp
