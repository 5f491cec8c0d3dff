set_option autoImplicit false

namespace CsiDsp

inductive XrpStatus where
  | success
  | failure
  | pending
deriving DecidableEq, Repr

def flagRequestValid : BitVec 32 := 0x1
def flagResponseValid : BitVec 32 := 0x2
def flagResponseDeliveryFail : BitVec 32 := 0x8
def syncDspToHost : BitVec 32 := 0x3
def syncStart : BitVec 32 := 0x101
def reportToHostFlag : BitVec 32 := 0x10000000

-- The words of xrp_dsp_cmd through which the two sides signal each other.
structure XrpDspCmd where
  flags : BitVec 32
  cmdFlag : BitVec 32
  reportStatus : BitVec 32
  reportId : BitVec 32
  reportAddr : Nat
  reportPayladSize : Nat
deriving DecidableEq, Repr

def xrpRequestValid (flags : BitVec 32) : Bool := flags &&& (flagRequestValid ||| flagResponseValid) == flagRequestValid

def completeRequest (cmd : XrpDspCmd) (flags : BitVec 32) : XrpDspCmd :=
  { cmd with flags := flags ||| flagResponseValid, cmdFlag := reportToHostFlag }

-- How process_command gets to its end: the namespace of the request is not
-- registered, there is no memory for its buffers, or its handler has returned.
inductive CommandOutcome where
  | noNamespace
  | noMemory
  | handled (status : XrpStatus)
deriving DecidableEq, Repr

def processCommand (cmd : XrpDspCmd) (flags : BitVec 32) : CommandOutcome → XrpDspCmd × XrpStatus
  | .noNamespace => (completeRequest cmd (flags ||| flagResponseDeliveryFail), .failure)
  | .noMemory => (completeRequest cmd flags, .failure)
  | .handled status =>
      (completeRequest cmd (if status ≠ .success then flags ||| flagResponseDeliveryFail else flags), status)

-- The request the dispatcher goes on with after its one read of the flags.
def dispatchable (flags : BitVec 32) : Bool := xrpRequestValid flags && flags != syncStart

def xrpDeviceCommandDispatch (cmd : XrpDspCmd) (outcome : CommandOutcome) : XrpDspCmd × XrpStatus :=
  if dispatchable cmd.flags then processCommand cmd cmd.flags outcome else (cmd, .failure)

def xrpGetReportBuffer (cmd : XrpDspCmd) : Option (Nat × Nat) :=
  if cmd.reportStatus = 0 then none else some (cmd.reportAddr, cmd.reportPayladSize)

def xrpSendReport (cmd : XrpDspCmd) (id : BitVec 32) : XrpDspCmd × XrpStatus :=
  if cmd.reportId ≠ 0 then (cmd, .pending) else ({ cmd with reportId := id }, .success)

def xrpGetReportStatus (cmd : XrpDspCmd) : XrpStatus := if cmd.reportId ≠ 0 then .pending else .success

theorem answered_not_dispatchable (flags : BitVec 32) : dispatchable (flags ||| flagResponseValid) = false := by
  have second : (flags ||| flagResponseValid).getLsbD 1 = true := by simp [flagResponseValid]
  have invalid : xrpRequestValid (flags ||| flagResponseValid) = false := by
    rw [xrpRequestValid, beq_eq_false_iff_ne]
    intro same
    have bit := congrArg (fun word => word.getLsbD 1) same
    rw [BitVec.getLsbD_and, second] at bit
    exact absurd bit (by decide)
  rw [dispatchable, invalid, Bool.false_and]

theorem processed_not_dispatchable (cmd : XrpDspCmd) (flags : BitVec 32) (outcome : CommandOutcome) :
    dispatchable (processCommand cmd flags outcome).1.flags = false := by
  cases outcome <;> exact answered_not_dispatchable _

end CsiDsp
