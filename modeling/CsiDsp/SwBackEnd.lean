import Mathlib.Logic.Function.Basic
import CsiDsp.FrontEnd

set_option autoImplicit false

namespace CsiDsp

open CInt

-- The members of csi_dsp_report_e that the firmware writes itself.
inductive CsiDspReport where
  | normal
  | result
  | resultWithExraParam
  | noBuf
  | hwFrameDrop
  | exraParam
deriving DecidableEq, Repr

-- csi_dsp_report_item_t: data is the buffer description at the start of the
-- payload, and extra the bytes behind it.
structure ReportItem where
  type : CsiDspReport
  data : CsiDspBuffer
  extra : List UInt8
deriving DecidableEq, Repr

def maxReportSize : Nat := 256

-- sizeof(struct csi_dsp_buffer)
def bufferSize : Nat := 120

-- Every caller passes an empty payload. Every report buffer that is not NULL is
-- the one xrp_get_report_buffer returns.
def psFillReport (buffer : Option Nat) (type : CsiDspReport) (item : ReportItem) : ReportItem :=
  match buffer with
  | some _ => { item with type := type }
  | none => item

def csiDspResultReport (reportBuf : Option Nat) (result : CsiDspBuffer) (extra : List UInt8) (item : ReportItem) :
    ReportItem × Bool :=
  match reportBuf with
  | none => (item, false)
  | some _ =>
      if bufferSize + extra.length < maxReportSize then
        if extra = [] then ({ item with type := .result, data := result }, true)
        else (⟨.resultWithExraParam, result, extra⟩, true)
      else (item, false)

def maxSwBe : Nat := 3

-- buffer_status_e
def bufStatusFree : Int := -40
def bufStatusInvalid : Int := -39
def bufStatusNoMemory : Int := -38
def bufStatusAllocted : Int := 0

structure SwBeHandler where
  bufNum : Nat
  headId : Nat
  validBufNum : Int
  status : Int
  reportSize : Nat
  report : Option Nat
  bufs : Nat → CsiDspBuffer

structure SwBeConfigPar where
  numBuf : Int
  bufs : Nat → CsiDspBuffer

def zeroBuffer : CsiDspBuffer := ⟨0, 0, 0, 0, 0, 0⟩

-- A handler of the static array after sw_be_init.
def freeSwBe : SwBeHandler := ⟨0, 0, 0, bufStatusFree, 0, none, fun _ => zeroBuffer⟩

def getSwBeNextEntry (handler : SwBeHandler) : Option CsiDspBuffer :=
  if handler.status ≠ bufStatusAllocted then none
  else if handler.validBufNum ≤ 0 then none
  else some (handler.bufs handler.headId)

def swBeGetExeptional (handler : SwBeHandler) : Int := handler.status

-- The sums are ints. The result none is the trap of a division by zero, or a
-- write in front of the list.
def swBeAsginBuf (handler : SwBeHandler) (config : SwBeConfigPar) : Option (SwBeHandler × Bool) :=
  let start := handler.headId + handler.validBufNum
  if i32 (handler.validBufNum + config.numBuf) > handler.bufNum then some (handler, false)
  else if 0 < config.numBuf ∧ handler.bufNum = 0 then none
  else if (List.range config.numBuf.toNat).any fun index => Int.tmod (i32 (index + start)) handler.bufNum < 0 then none
  else
    let place (bufs : Nat → CsiDspBuffer) (index : Nat) :=
      Function.update bufs (Int.tmod (i32 (index + start)) handler.bufNum).toNat (config.bufs index)
    let valid := i8 (handler.validBufNum + config.numBuf)
    some ({ handler with
      bufs := (List.range config.numBuf.toNat).foldl place handler.bufs
      validBufNum := valid
      status := if handler.status = bufStatusNoMemory ∧ valid > 1 then bufStatusAllocted else handler.status }, true)

-- available is the answer of ps_report_avaiable, and the result false the
-- source's -1.
def swBeEntryStart (available : Bool) (handler : SwBeHandler) (item : ReportItem) :
    SwBeHandler × ReportItem × Bool :=
  if handler.report = none then ({ handler with status := bufStatusInvalid }, item, false)
  else if handler.status ≠ bufStatusAllocted then (handler, item, false)
  else if handler.validBufNum ≤ 1 then
    ({ handler with status := bufStatusNoMemory }, psFillReport handler.report .noBuf item, false)
  else if handler.headId ≥ handler.bufNum then ({ handler with status := bufStatusInvalid }, item, false)
  else if available = false then (handler, psFillReport handler.report .hwFrameDrop item, false)
  else
    ({ handler with
      headId := u8 ((handler.headId + 1) % handler.bufNum : Nat)
      validBufNum := i8 (handler.validBufNum - 1) }, item, true)

def swRecoveryStateUpdate (handler : SwBeHandler) : SwBeHandler :=
  { handler with status :=
      if handler.status = EhwErrorCode.recoveryDone.code then EhwErrorCode.ok.code else EhwErrorCode.recoveryDone.code }

-- The first free handler of the static array, and the state it starts in.
def freeSwBeId (handlers : Int → SwBeHandler) : Option Nat :=
  (List.range maxSwBe).find? fun id => (handlers id).status == bufStatusFree

def swBeStart (config : SwBeConfigPar) (reportBuf : Option Nat) (reportSize : Nat) : SwBeHandler :=
  let number := u8 config.numBuf
  ⟨number, 0, i8 number, bufStatusAllocted, reportSize, reportBuf, config.bufs⟩

end CsiDsp
