import CsiDsp.Base.RowCopy
import CsiDsp.Base.Transcript
import CsiDsp.DmaAlign
import Mathlib.Logic.Function.Basic

set_option autoImplicit false

namespace CsiDsp

open RowCopy

-- What init leaves in dmaAlignment, and DMA_DESCR_CNT.
def dmaAlignment : UInt32 := 32
def dmaDescrCnt : Nat := 8

-- _ALIGN_(a, dmaAlignment)
def alignRow (bytes : UInt32) : UInt32 := (bytes + (dmaAlignment - 1)) / dmaAlignment * dmaAlignment

structure DmaRequest where
  pdst64 : UInt64
  psrc64 : UInt64
  srcPitchBytes : UInt32
  dstPitchBytes : UInt32
  numRows : UInt32
  numBytesPerRow : UInt32
deriving DecidableEq, Repr

-- The row length of load and store.
def dmaRow (bytes dstPitch : UInt32) : UInt32 := if alignRow bytes > dstPitch then dstPitch else alignRow bytes

def DmaRequest.withRow (request : DmaRequest) (bytes : UInt32) : DmaRequest := { request with numBytesPerRow := bytes }

-- What load and store hand to the engine.
def DmaRequest.descriptor (request : DmaRequest) : DmaRequest := request.withRow (dmaRow request.numBytesPerRow request.dstPitchBytes)

def DmaRequest.bytes (request : DmaRequest) : UInt32 := request.numBytesPerRow * request.numRows

-- The engine copies the rows of a descriptor.
def engineMove (mem : Memory) (request : DmaRequest) : Memory :=
  copyRows mem (fun row => request.pdst64.toNat + request.dstPitchBytes.toNat * row)
    (fun row => request.psrc64.toNat + request.srcPitchBytes.toNat * row) request.numBytesPerRow.toNat request.numRows.toNat

-- The processor has 32-bit pointers.
def copy (mem : Memory) (request : DmaRequest) : Memory × UInt32 :=
  if (request.pdst64 &&& 0xffffffff00000000) ||| (request.psrc64 &&& 0xffffffff00000000) ≠ 0 then (mem, 0)
  else (copyRows mem (fun row => (request.pdst64.toUInt32 + request.dstPitchBytes * UInt32.ofNat row).toNat)
    (fun row => (request.psrc64.toUInt32 + request.srcPitchBytes * UInt32.ofNat row).toNat)
    request.numBytesPerRow.toNat request.numRows.toNat, request.bytes)

-- One direction: the requests up to idxDmaCnt, what the engine has yet to do for
-- calls without a tile, and the error flag of the channel.
structure DmaChannel where
  requests : List Int
  queued : List (Int × DmaRequest)
  idmaErrorFlag : Bool

def DmaChannel.queue (channel : DmaChannel) (id : Int) (request : DmaRequest) : DmaChannel :=
  if 0 ≤ id then { channel with queued := channel.queued ++ [(id, request)] } else channel

-- A transfer of no bytes is not recorded. Everything else is, whatever its id.
def DmaChannel.record (channel : DmaChannel) (id : Int) (request : DmaRequest) : DmaChannel :=
  if request.numBytesPerRow ≠ 0 ∧ request.numRows ≠ 0 then { channel with requests := channel.requests ++ [id] } else channel

-- Where the caller is. A wait without a tile is at the request it polls, and waitDone
-- waits for its stores after its loads.
inductive DmaPc where
  | idle
  | wait (dir : TmDmaDirection) (tile : Bool) (loop : Nat) (ret : Bool) (stores : Option Bool)
deriving DecidableEq, Repr

structure DmaState where
  channel : TmDmaDirection → DmaChannel
  mem : Memory
  pc : DmaPc

def DmaState.setChannel (state : DmaState) (dir : TmDmaDirection) (channel : DmaChannel) : DmaState :=
  { state with channel := Function.update state.channel dir channel }

inductive DmaEvent where
  | request (dir : TmDmaDirection) (request : DmaRequest) (id : Int)
  | requestTile (dir : TmDmaDirection) (ids : List Int)
  | waitLoadDone (tile : Bool)
  | waitStoreDone (tile : Bool)
  | waitDone (tileIn tileOut : Bool)
  | check (descDone : Int)
  | ret
  | complete (dir : TmDmaDirection) (position : Nat)
  | error (dir : TmDmaDirection)
deriving DecidableEq, Repr

inductive DmaAnswer where
  | silent
  | size (bytes : UInt32) (queued : Bool)
  | waited (dir : TmDmaDirection) (tile done : Bool) (ret : Option Bool)
deriving DecidableEq, Repr

-- load and store without a tile, where id is what the new descriptor is given.
def requestStep (state : DmaState) (dir : TmDmaDirection) (request : DmaRequest) (id : Int) : DmaState × DmaAnswer :=
  let channel := state.channel dir
  if dmaDescrCnt ≤ channel.requests.length then (state, .size 0 false)
  else (state.setChannel dir ((channel.queue id request.descriptor).record id request.descriptor),
    .size request.descriptor.bytes (0 ≤ id))

-- With a tile the request reports success whatever its descriptors are given. It
-- adds none where the tile lies outside its frame.
def requestTileAnswer (ids : List Int) : DmaAnswer := .size 1 (ids ≠ [] ∧ ∀ id ∈ ids, 0 ≤ id)

-- xvCheckForIdmaIndexMultiChannel
def checkForIdmaIndex (index descDone : Int) : Int := if index < 0 then -1 else descDone

-- A descriptor is reported done only once the engine has done it.
def DoneReported (channel : DmaChannel) (index descDone : Int) : Prop :=
  0 ≤ index → descDone ≠ 0 → index ∉ channel.queued.map Prod.fst

instance (channel : DmaChannel) (index descDone : Int) : Decidable (DoneReported channel index descDone) :=
  inferInstanceAs (Decidable (_ → _ → _))

def checkStep (state : DmaState) (descDone : Int) : Option DmaState :=
  match state.pc with
  | .wait dir false loop ret stores =>
      let channel := state.channel dir
      (channel.requests[loop]?).bind fun index =>
        if DoneReported channel index descDone then
          if checkForIdmaIndex index descDone ≠ 0 ∨ channel.idmaErrorFlag = true then
            some { state with pc := .wait dir false (loop + 1) ret stores }
          else some state
        else none
  | _ => none

def pcAfterWait (ret : Bool) : Option Bool → DmaPc
  | some tileOut => .wait .dirOut tileOut 0 ret none
  | none => .idle

def retAfterWait (ret : Bool) : Option Bool → Option Bool
  | some _ => none
  | none => some ret

-- The end of a wait: the counter is reset, and the error flag tells the result.
def retStep (state : DmaState) : Option (DmaState × DmaAnswer) :=
  match state.pc with
  | .wait dir tile loop ret stores =>
      let channel := state.channel dir
      if tile = true ∨ loop = channel.requests.length then
        let done := !channel.idmaErrorFlag
        some ({ state.setChannel dir { channel with requests := [] } with pc := pcAfterWait (ret && done) stores },
          .waited dir tile done (retAfterWait (ret && done) stores))
      else none
  | .idle => none

def completeStep (state : DmaState) (dir : TmDmaDirection) (position : Nat) : Option DmaState :=
  let channel := state.channel dir
  (channel.queued[position]?).map fun done =>
    { state.setChannel dir { channel with queued := channel.queued.eraseIdx position } with mem := engineMove state.mem done.2 }

def errorStep (state : DmaState) (dir : TmDmaDirection) : DmaState :=
  state.setChannel dir { state.channel dir with idmaErrorFlag := true }

-- The calls are made by one thread, and the engine goes on meanwhile.
def dmaStep (state : DmaState) : DmaEvent → Option (DmaState × DmaAnswer)
  | .request dir request id => if state.pc = .idle then some (requestStep state dir request id) else none
  | .requestTile _ ids => if state.pc = .idle then some (state, requestTileAnswer ids) else none
  | .waitLoadDone tile => if state.pc = .idle then some ({ state with pc := .wait .dirIn tile 0 true none }, .silent) else none
  | .waitStoreDone tile => if state.pc = .idle then some ({ state with pc := .wait .dirOut tile 0 true none }, .silent) else none
  | .waitDone tileIn tileOut =>
      if state.pc = .idle then some ({ state with pc := .wait .dirIn tileIn 0 true (some tileOut) }, .silent) else none
  | .check descDone => (checkStep state descDone).map fun next => (next, .silent)
  | .ret => retStep state
  | .complete dir position => (completeStep state dir position).map fun next => (next, .silent)
  | .error dir => some (errorStep state dir, .silent)

-- What the end of a wait does to the channels.
def DmaState.reset (state : DmaState) (dir : TmDmaDirection) : DmaState :=
  state.setChannel dir { state.channel dir with requests := [] }

def waitResult (state : DmaState) (dir : TmDmaDirection) : Bool := !(state.channel dir).idmaErrorFlag

section Steps

variable (state next : DmaState)

@[simp] theorem set_channel_same (dir : TmDmaDirection) (channel : DmaChannel) : (state.setChannel dir channel).channel dir = channel := by
  simp [DmaState.setChannel]

@[simp] theorem set_channel_other (dir : TmDmaDirection) (channel : DmaChannel) (other : TmDmaDirection) (apart : other ≠ dir) :
    (state.setChannel dir channel).channel other = state.channel other := by
  simp [DmaState.setChannel, apart]

theorem check_step_cases (descDone : Int) (taken : checkStep state descDone = some next) :
    ∃ dir loop ret stores index, state.pc = .wait dir false loop ret stores ∧ (state.channel dir).requests[loop]? = some index ∧
      DoneReported (state.channel dir) index descDone ∧
      (next = { state with pc := .wait dir false (loop + 1) ret stores } ∧
          (checkForIdmaIndex index descDone ≠ 0 ∨ (state.channel dir).idmaErrorFlag = true) ∨
        next = state) := by
  unfold checkStep at taken
  split at taken
  case h_1 dir loop ret stores waiting =>
    obtain ⟨index, current, answered⟩ := Option.bind_eq_some_iff.mp taken
    refine ⟨dir, loop, ret, stores, index, waiting, current, ?_⟩
    by_cases reported : DoneReported (state.channel dir) index descDone
    · refine ⟨reported, ?_⟩
      rw [if_pos reported] at answered
      by_cases passed : checkForIdmaIndex index descDone ≠ 0 ∨ (state.channel dir).idmaErrorFlag = true
      · rw [if_pos passed] at answered
        cases answered
        exact .inl ⟨rfl, passed⟩
      · rw [if_neg passed] at answered
        cases answered
        exact .inr rfl
    · rw [if_neg reported] at answered
      cases answered
  case h_2 => cases taken

theorem ret_step_cases (answer : DmaAnswer) (taken : retStep state = some (next, answer)) :
    ∃ dir tile loop ret stores, state.pc = .wait dir tile loop ret stores ∧
      (tile = true ∨ loop = (state.channel dir).requests.length) ∧
      next = { state.reset dir with pc := pcAfterWait (ret && waitResult state dir) stores } ∧
      answer = .waited dir tile (waitResult state dir) (retAfterWait (ret && waitResult state dir) stores) := by
  unfold retStep at taken
  split at taken
  case h_1 dir tile loop ret stores waiting =>
    by_cases ended : tile = true ∨ loop = (state.channel dir).requests.length
    · rw [if_pos ended] at taken
      cases taken
      exact ⟨dir, tile, loop, ret, stores, waiting, ended, rfl, rfl⟩
    · rw [if_neg ended] at taken
      cases taken
  case h_2 => cases taken

theorem complete_step_cases (dir : TmDmaDirection) (position : Nat) (taken : completeStep state dir position = some next) :
    ∃ done, (state.channel dir).queued[position]? = some done ∧
      next = { state.setChannel dir { state.channel dir with queued := (state.channel dir).queued.eraseIdx position } with
        mem := engineMove state.mem done.2 } := by
  obtain ⟨done, present, rfl⟩ := Option.map_eq_some_iff.mp taken
  exact ⟨done, present, rfl⟩

end Steps

def initialChannel : DmaChannel := ⟨[], [], false⟩

def initialDma (mem : Memory) : DmaState := ⟨fun _ => initialChannel, mem, .idle⟩

end CsiDsp
