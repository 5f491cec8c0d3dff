import CsiDsp.Base.KeyedWrites
import CsiDsp.Base.Runs
import CsiDsp.XrpDsp
import Mathlib.Data.List.Basic

set_option autoImplicit false

-- The handshake with the host, and the entries of type, length and value that it
-- hands over.
namespace CsiDsp.Sync

open Runs

abbrev Word := BitVec 32

def syncHostToDsp : Word := 0x1
def syncDspReadyV2 : Word := 0x303

def syncTypeAccept : Word := 0x80000000
def syncTypeMask : Word := 0x00ffffff
def syncTypeLast : Word := 0
def syncTypeHwSpecData : Word := 1
def syncTypeHwQueues : Word := 2
def syncTypeHwDebugInfo : Word := 3

def maxTlvLength : Nat := 0x10000

inductive IrqMode where
  | none
  | level
  | edge
deriving DecidableEq, Repr

-- What the entries set. A panic address of zero is NULL.
structure HwSync where
  mmioBase : Word
  deviceIrqMode : IrqMode
  deviceIrqOffset : Word
  deviceIrqBit : Word
  deviceIrq : Word
  hostIrqMode : IrqMode
  hostIrqOffset : Word
  hostIrqBit : Word
  panic : Word
  dspLogLevel : Word
deriving DecidableEq, Repr

def irqMode (mode : Word) : Option IrqMode :=
  if mode = 0 then some .none else if mode = 1 then some .level else if mode = 2 then some .edge else none

def setDeviceIrq (hw : HwSync) (mode offset bit irq : Word) : HwSync :=
  match irqMode mode with
  | some deviceIrqMode => { hw with deviceIrqMode := deviceIrqMode, deviceIrqOffset := offset, deviceIrqBit := bit, deviceIrq := irq }
  | none => { hw with deviceIrqMode := .none }

def setHostIrq (hw : HwSync) (mode offset bit : Word) : HwSync :=
  match irqMode mode with
  | some hostIrqMode => { hw with hostIrqMode := hostIrqMode, hostIrqOffset := offset, hostIrqBit := bit }
  | none => { hw with hostIrqMode := .none }

-- struct xrp_hw_simple_sync_data. The value is read whatever its length says.
def xrpHwSetSyncData (hw : HwSync) : List Word → Option HwSync
  | base :: hostMode :: hostOffset :: hostBit :: deviceMode :: deviceOffset :: deviceBit :: deviceIrq :: _ =>
      some (setHostIrq (setDeviceIrq { hw with mmioBase := base } deviceMode deviceOffset deviceBit deviceIrq) hostMode hostOffset hostBit)
  | _ => none

-- struct xrp_dsp_debug_info
def setDebugProfileInfo (hw : HwSync) : List Word → Option (HwSync × Bool)
  | panicAddr :: rest =>
      if panicAddr = 0 then some (hw, false) else rest.head?.map fun logLevel => ({ hw with panic := panicAddr, dspLogLevel := logLevel }, true)
  | [] => none

section Walk

-- What update_hw_queues answers. It creates none unless the user supplies a function for it.
variable (updateHwQueues : List Word → Bool)

-- One entry: what it sets, and whether it is accepted. The result none stands
-- for a read behind the area.
def applyEntry (hw : HwSync) (type length : Word) (value : List Word) : Option (HwSync × Bool) :=
  if type &&& syncTypeMask = syncTypeHwSpecData then (xrpHwSetSyncData hw value).map fun next => (next, true)
  else if type &&& syncTypeMask = syncTypeHwQueues then some (hw, updateHwQueues (value.take (length.toNat / 4)))
  else if type &&& syncTypeMask = syncTypeHwDebugInfo then setDebugProfileInfo hw value
  else some (hw, false)

def markType (type : Word) (accepted : Bool) : Word := if accepted then type ||| syncTypeAccept else type

def valueWords (length : Word) : Nat := (length.toNat + 3) / 4

def processSyncData (hw : HwSync) : List Word → Option (List Word × HwSync)
  | type :: length :: rest =>
      if length.toNat ≥ maxTlvLength ∨ type &&& syncTypeMask = syncTypeLast then some (type :: length :: rest, hw)
      else match applyEntry updateHwQueues hw type length rest with
      | none => none
      | some (next, accepted) => (processSyncData next (rest.drop (valueWords length))).map fun done =>
          (markType type accepted :: length :: rest.take (valueWords length) ++ done.1, done.2)
  | _ => none
termination_by words => words.length
decreasing_by
  simp only [List.length_drop, List.length_cons]
  omega

structure SyncEntry where
  type : Word
  length : Word
  value : List Word
deriving DecidableEq, Repr

-- An entry whose value is all there.
structure SyncEntry.Whole (entry : SyncEntry) : Prop where
  length : entry.length.toNat < maxTlvLength
  value : entry.value.length = valueWords entry.length
  inner : entry.type &&& syncTypeMask ≠ syncTypeLast
  spec : entry.type &&& syncTypeMask = syncTypeHwSpecData → 8 ≤ entry.value.length
  debug : entry.type &&& syncTypeMask = syncTypeHwDebugInfo → 2 ≤ entry.value.length

def SyncEntry.words (entry : SyncEntry) : List Word := entry.type :: entry.length :: entry.value

def SyncEntry.kind (entry : SyncEntry) : Word := entry.type &&& syncTypeMask

def encodeEntries (entries : List SyncEntry) : List Word := entries.flatMap SyncEntry.words

-- Which entries the device accepts.
def SyncEntry.accepted (entry : SyncEntry) : Bool :=
  entry.kind = syncTypeHwSpecData ∨
    (entry.kind = syncTypeHwQueues ∧ updateHwQueues (entry.value.take (entry.length.toNat / 4)) = true) ∨
    (entry.kind = syncTypeHwDebugInfo ∧ entry.value.head? ≠ some 0)

def SyncEntry.answer (entry : SyncEntry) : SyncEntry := { entry with type := markType entry.type (entry.accepted updateHwQueues) }

-- What an entry sets.
def setEntry (hw : HwSync) (entry : SyncEntry) : HwSync :=
  if entry.kind = syncTypeHwSpecData then (xrpHwSetSyncData hw entry.value).getD hw
  else if entry.kind = syncTypeHwDebugInfo then ((setDebugProfileInfo hw entry.value).map Prod.fst).getD hw
  else hw

-- What comes behind a value that is all there does not matter.
theorem apply_whole (hw : HwSync) (entry : SyncEntry) (whole : entry.Whole) (rest : List Word) :
    applyEntry updateHwQueues hw entry.type entry.length (entry.value ++ rest) =
      some (setEntry hw entry, entry.accepted updateHwQueues) := by
  obtain ⟨-, size, -, spec, debug⟩ := whole
  rw [applyEntry, setEntry, SyncEntry.accepted, SyncEntry.kind]
  by_cases isSpec : entry.type &&& syncTypeMask = syncTypeHwSpecData
  · have eight := spec isSpec
    rw [if_pos isSpec, if_pos isSpec]
    match value : entry.value, eight with
    | base :: hostMode :: hostOffset :: hostBit :: deviceMode :: deviceOffset :: deviceBit :: deviceIrq :: more, _ =>
        simp [isSpec, xrpHwSetSyncData]
  · rw [if_neg isSpec, if_neg isSpec]
    by_cases isQueues : entry.type &&& syncTypeMask = syncTypeHwQueues
    · have within : entry.length.toNat / 4 ≤ entry.value.length := by
        rw [size, valueWords]
        omega
      have apart : syncTypeHwQueues ≠ syncTypeHwSpecData ∧ syncTypeHwQueues ≠ syncTypeHwDebugInfo := by decide
      rw [if_pos isQueues, List.take_append_of_le_length within]
      simp [isQueues, apart]
    · rw [if_neg isQueues]
      by_cases isDebug : entry.type &&& syncTypeMask = syncTypeHwDebugInfo
      · have two := debug isDebug
        have apart : syncTypeHwDebugInfo ≠ syncTypeHwSpecData ∧ syncTypeHwDebugInfo ≠ syncTypeHwQueues := by decide
        rw [if_pos isDebug, if_pos isDebug]
        match value : entry.value, two with
        | panicAddr :: logLevel :: more, _ =>
            by_cases null : panicAddr = 0#32 <;> simp [setDebugProfileInfo, null, isDebug, apart]
      · rw [if_neg isDebug, if_neg isDebug]
        simp [isSpec, isQueues, isDebug]

theorem walk_entries (hw : HwSync) (entries : List SyncEntry) (whole : ∀ entry ∈ entries, entry.Whole) (type length : Word)
    (rest : List Word) (stops : length.toNat ≥ maxTlvLength ∨ type &&& syncTypeMask = syncTypeLast) :
    processSyncData updateHwQueues hw (encodeEntries entries ++ type :: length :: rest) =
      some (encodeEntries (entries.map (SyncEntry.answer updateHwQueues)) ++ type :: length :: rest, entries.foldl setEntry hw) := by
  induction entries generalizing hw with
  | nil =>
      rw [encodeEntries, List.flatMap_nil, List.nil_append, processSyncData, if_pos stops]
      rfl
  | cons entry later ih =>
      have here := whole entry List.mem_cons_self
      have goesOn : ¬ (entry.length.toNat ≥ maxTlvLength ∨ entry.type &&& syncTypeMask = syncTypeLast) := by
        rintro (long | last)
        · exact absurd here.length (Nat.not_lt.mpr long)
        · exact here.inner last
      have first : encodeEntries (entry :: later) ++ type :: length :: rest =
          entry.type :: entry.length :: (entry.value ++ (encodeEntries later ++ type :: length :: rest)) := by
        rw [encodeEntries, List.flatMap_cons, SyncEntry.words, List.append_assoc]
        rfl
      rw [first, processSyncData, if_neg goesOn, apply_whole updateHwQueues hw entry here]
      simp only
      rw [← here.value, List.drop_left, List.take_left, ih _ fun other listed => whole other (List.mem_cons_of_mem entry listed)]
      simp only [Option.map_some, encodeEntries, List.map_cons, List.flatMap_cons, List.foldl_cons, SyncEntry.words, SyncEntry.answer,
        List.append_assoc, List.cons_append]

theorem mark_kind (type : Word) (accepted : Bool) : markType type accepted &&& syncTypeMask = type &&& syncTypeMask := by
  have apart : syncTypeAccept &&& syncTypeMask = 0#32 := by decide
  rw [markType]
  split
  · rw [BitVec.and_or_distrib_right, apart, BitVec.or_zero]
  · rfl

theorem mark_twice (type : Word) (accepted : Bool) : markType (markType type accepted) accepted = markType type accepted := by
  cases accepted with
  | false => rfl
  | true => simp only [markType, if_true, BitVec.or_assoc, BitVec.or_self]

theorem answer_kind (entry : SyncEntry) : (entry.answer updateHwQueues).kind = entry.kind := mark_kind _ _

theorem answer_set (hw : HwSync) (entry : SyncEntry) : setEntry hw (entry.answer updateHwQueues) = setEntry hw entry := by
  rw [setEntry, setEntry, answer_kind]
  rfl

theorem answer_accepted (entry : SyncEntry) :
    (entry.answer updateHwQueues).accepted updateHwQueues = entry.accepted updateHwQueues := by
  rw [SyncEntry.accepted, SyncEntry.accepted, answer_kind]
  rfl

theorem answer_twice (entry : SyncEntry) :
    (entry.answer updateHwQueues).answer updateHwQueues = entry.answer updateHwQueues := by
  rw [SyncEntry.answer, answer_accepted, SyncEntry.answer]
  simp only [mark_twice]

theorem answer_whole (entry : SyncEntry) (whole : entry.Whole) : (entry.answer updateHwQueues).Whole := by
  obtain ⟨length, value, inner, spec, debug⟩ := whole
  have kind := mark_kind entry.type (entry.accepted updateHwQueues)
  exact ⟨length, value, fun last => inner (kind.symm.trans last), fun isSpec => spec (kind.symm.trans isSpec),
    fun isDebug => debug (kind.symm.trans isDebug)⟩

theorem spec_fields (hw : HwSync) (base hostMode hostOffset hostBit deviceMode deviceOffset deviceBit deviceIrq : Word) :
    setHostIrq (setDeviceIrq { hw with mmioBase := base } deviceMode deviceOffset deviceBit deviceIrq) hostMode hostOffset hostBit =
      { mmioBase := base
        deviceIrqMode := (irqMode deviceMode).getD .none
        deviceIrqOffset := if (irqMode deviceMode).isSome then deviceOffset else hw.deviceIrqOffset
        deviceIrqBit := if (irqMode deviceMode).isSome then deviceBit else hw.deviceIrqBit
        deviceIrq := if (irqMode deviceMode).isSome then deviceIrq else hw.deviceIrq
        hostIrqMode := (irqMode hostMode).getD .none
        hostIrqOffset := if (irqMode hostMode).isSome then hostOffset else hw.hostIrqOffset
        hostIrqBit := if (irqMode hostMode).isSome then hostBit else hw.hostIrqBit
        panic := hw.panic
        dspLogLevel := hw.dspLogLevel } := by
  rw [setHostIrq, setDeviceIrq]
  cases irqMode hostMode <;> cases irqMode deviceMode <;> rfl

theorem short_spec (words : List Word) (short : words.length < 8) (hw : HwSync) : xrpHwSetSyncData hw words = none := by
  unfold xrpHwSetSyncData
  split
  · simp only [List.length_cons] at short
    omega
  · rfl

-- It is enough to look at the two kinds of entry that set anything.
theorem set_overwrites {Value : Type} (field : HwSync → Value)
    (spec : ∀ base hostMode hostOffset hostBit deviceMode deviceOffset deviceBit deviceIrq,
      let set := fun hw => setHostIrq (setDeviceIrq { hw with mmioBase := base } deviceMode deviceOffset deviceBit deviceIrq)
        hostMode hostOffset hostBit
      (∃ value, ∀ hw, field (set hw) = value) ∨ ∀ hw, field (set hw) = field hw)
    (debug : ∀ panicAddr logLevel, (∃ value, ∀ hw : HwSync, field { hw with panic := panicAddr, dspLogLevel := logLevel } = value) ∨
      ∀ hw : HwSync, field { hw with panic := panicAddr, dspLogLevel := logLevel } = field hw)
    (entry : SyncEntry) : KeyedWrites.Overwrites setEntry field entry := by
  simp only [KeyedWrites.Overwrites, setEntry]
  split
  · rcases Nat.lt_or_ge entry.value.length 8 with short | eight
    · exact .inr fun hw => by rw [short_spec entry.value short]; rfl
    · match entry.value, eight with
      | base :: hostMode :: hostOffset :: hostBit :: deviceMode :: deviceOffset :: deviceBit :: deviceIrq :: _, _ =>
          exact spec base hostMode hostOffset hostBit deviceMode deviceOffset deviceBit deviceIrq
  · split
    · match entry.value with
      | [] => exact .inr fun _ => rfl
      | [panicAddr] =>
          refine .inr fun hw => ?_
          by_cases null : panicAddr = 0#32 <;> simp [setDebugProfileInfo, null]
      | panicAddr :: logLevel :: _ =>
          by_cases null : panicAddr = 0#32
          · exact .inr fun hw => by simp [setDebugProfileInfo, null]
          · simpa [setDebugProfileInfo, null] using debug panicAddr logLevel
    · exact .inr fun _ => rfl

-- The entries set the same a second time.
theorem set_twice (hw : HwSync) (entries : List SyncEntry) : entries.foldl setEntry (entries.foldl setEntry hw) = entries.foldl setEntry hw := by
  have base := KeyedWrites.overwrites_twice setEntry HwSync.mmioBase entries
    (fun entry _ => set_overwrites _ (by simp only [spec_fields]; exact fun base _ _ _ _ _ _ _ => .inl ⟨base, fun _ => rfl⟩)
      (fun _ _ => .inr fun _ => rfl) entry) hw
  have deviceMode := KeyedWrites.overwrites_twice setEntry HwSync.deviceIrqMode entries
    (fun entry _ => set_overwrites _ (by simp only [spec_fields]; exact fun _ _ _ _ _ _ _ _ => .inl ⟨_, fun _ => rfl⟩)
      (fun _ _ => .inr fun _ => rfl) entry) hw
  have hostMode := KeyedWrites.overwrites_twice setEntry HwSync.hostIrqMode entries
    (fun entry _ => set_overwrites _ (by simp only [spec_fields]; exact fun _ _ _ _ _ _ _ _ => .inl ⟨_, fun _ => rfl⟩)
      (fun _ _ => .inr fun _ => rfl) entry) hw
  have device := KeyedWrites.overwrites_twice setEntry (fun hw => (hw.deviceIrqOffset, hw.deviceIrqBit, hw.deviceIrq)) entries
    (fun entry _ => set_overwrites _ (by
      intro _ _ _ _ mode offset bit irq
      simp only [spec_fields]
      cases irqMode mode with
      | none => exact .inr fun _ => rfl
      | some _ => exact .inl ⟨(offset, bit, irq), fun _ => rfl⟩) (fun _ _ => .inr fun _ => rfl) entry) hw
  have host := KeyedWrites.overwrites_twice setEntry (fun hw => (hw.hostIrqOffset, hw.hostIrqBit)) entries
    (fun entry _ => set_overwrites _ (by
      intro _ mode offset bit _ _ _ _
      simp only [spec_fields]
      cases irqMode mode with
      | none => exact .inr fun _ => rfl
      | some _ => exact .inl ⟨(offset, bit), fun _ => rfl⟩) (fun _ _ => .inr fun _ => rfl) entry) hw
  have panic := KeyedWrites.overwrites_twice setEntry (fun hw => (hw.panic, hw.dspLogLevel)) entries
    (fun entry _ => set_overwrites _ (by simp [spec_fields])
      (fun panicAddr logLevel => .inl ⟨(panicAddr, logLevel), fun _ => rfl⟩) entry) hw
  generalize entries.foldl setEntry (entries.foldl setEntry hw) = second at *
  generalize entries.foldl setEntry hw = once at *
  simp only [Prod.mk.injEq] at device host panic
  obtain ⟨offset, bit, irq⟩ := device
  cases second
  cases once
  simp_all

-- Every entry is applied once and in order, only the accept bits of those
-- accepted are written, and the answered area handed over again changes nothing.
theorem sync_data_exact (hw : HwSync) (entries : List SyncEntry) (whole : ∀ entry ∈ entries, entry.Whole) (type length : Word)
    (rest : List Word) (stops : length.toNat ≥ maxTlvLength ∨ type &&& syncTypeMask = syncTypeLast) :
    let answered := encodeEntries (entries.map (SyncEntry.answer updateHwQueues)) ++ type :: length :: rest
    let after := entries.foldl setEntry hw
    processSyncData updateHwQueues hw (encodeEntries entries ++ type :: length :: rest) = some (answered, after) ∧
      processSyncData updateHwQueues after answered = some (answered, after) := by
  refine ⟨walk_entries updateHwQueues hw entries whole type length rest stops, ?_⟩
  have wholeAnswers : ∀ answer ∈ entries.map (SyncEntry.answer updateHwQueues), answer.Whole := by
    intro answer listed
    obtain ⟨entry, isEntry, rfl⟩ := List.mem_map.mp listed
    exact answer_whole updateHwQueues entry (whole entry isEntry)
  have again : (entries.map (SyncEntry.answer updateHwQueues)).map (SyncEntry.answer updateHwQueues) =
      entries.map (SyncEntry.answer updateHwQueues) := by
    rw [List.map_map]
    exact List.map_congr_left fun entry _ => answer_twice updateHwQueues entry
  rw [walk_entries updateHwQueues _ _ wholeAnswers type length rest stops, again, List.foldl_map]
  simp only [answer_set, set_twice]

-- An interrupt mode out of range, a queue entry that is refused, and an unknown type.
theorem sync_data_exact_three :
    let spec : SyncEntry := ⟨1, 32, [0x100, 7, 4, 1, 2, 8, 3, 5]⟩
    let queues : SyncEntry := ⟨2, 6, [9, 9]⟩
    let other : SyncEntry := ⟨0x7f, 0, []⟩
    processSyncData (fun _ => false) ⟨0, .none, 0, 0, 0, .edge, 1, 2, 0, 0⟩
        (encodeEntries [spec, queues, other] ++ 0 :: 4 :: [1]) =
      some (encodeEntries [{ spec with type := 0x80000001 }, queues, other] ++ 0 :: 4 :: [1],
        ⟨0x100, .edge, 8, 3, 5, .none, 1, 2, 0, 0⟩) := by
  intro spec queues other
  have exact_ := (sync_data_exact (fun _ => false) ⟨0, .none, 0, 0, 0, .edge, 1, 2, 0, 0⟩ [spec, queues, other]
    (by
      intro entry listed
      simp only [List.mem_cons, List.not_mem_nil, or_false] at listed
      rcases listed with rfl | rfl | rfl <;> exact ⟨by decide, by decide, by decide, by decide, by decide⟩)
    0 4 [1] (.inr (by decide))).1
  have answers : [spec, queues, other].map (SyncEntry.answer fun _ => false) = [{ spec with type := 0x80000001 }, queues, other] := by
    decide
  have after : [spec, queues, other].foldl setEntry ⟨0, .none, 0, 0, 0, .edge, 1, 2, 0, 0⟩ =
      ⟨0x100, .edge, 8, 3, 5, .none, 1, 2, 0, 0⟩ := by decide
  rw [answers, after] at exact_
  exact exact_

end Walk

end CsiDsp.Sync
