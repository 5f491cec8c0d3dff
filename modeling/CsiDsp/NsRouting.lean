import CsiDsp.CmdNs
import CsiDsp.TaskNames

set_option autoImplicit false

namespace CsiDsp

open SortedArray

def xrpPsNsidCommonCmd : NsId :=
  [0xf9, 0x3c, 0x09, 0x61, 0x9d, 0x3f, 0x45, 0x29, 0xbd, 0xe9, 0x7a, 0x4b, 0x18, 0x91, 0xdb, 0x15]

def allocteNsId (taskId : Nat) : NsId := xrpPsNsidCommonCmd.map fun byte => byte + Fin.ofNat 256 taskId

def zeroNsId : NsId := List.replicate xrpNamespaceIdSize 0

def commonEntry : XrpCmdNs := ⟨xrpPsNsidCommonCmd, .psCommonCommand, none⟩

def swTaskEntry (pri : Nat) : XrpCmdNs := ⟨allocteNsId pri, .dspProcessSwTask, some pri⟩

-- The firmware with the namespace ids of the tasks and the map of namespaces.
structure NsDsp where
  dsp : Dsp
  nsid : Nat → NsId
  nsMap : XrpCmdNsMap

def initNsDsp (cmd : XrpDspCmd) (payload : ReportItem) (cells : Nat → XrpCmdNs) : NsDsp := {
  dsp := initDsp cmd payload
  nsid := fun pri => if pri = 3 then xrpPsNsidCommonCmd else zeroNsId
  nsMap := (xrpRegisterNamespace ⟨0, 0, cells⟩ commonEntry (some cells)).1 }

-- TASK_ALLOC writes the id of an entry before it registers it.
def nsCreateTask (state : NsDsp) (mode : Option TaskMode) (memory : Option (Nat → XrpCmdNs)) : NsDsp × Reply :=
  match mode with
  | none => (state, (psCreateTask state.dsp mode true).2)
  | some kind =>
      if kind.isSw then
        match getFreeSwTask state.dsp with
        | none => (state, (psCreateTask state.dsp mode true).2)
        | some pri =>
            let registered := xrpRegisterNamespace state.nsMap (swTaskEntry pri) memory
            let created := psCreateTask state.dsp mode registered.2
            (⟨created.1, Function.update state.nsid pri (allocteNsId pri), registered.1⟩, created.2)
      else
        match getFreeHwTask state.dsp with
        | none => (state, (psCreateTask state.dsp mode true).2)
        | some pri =>
            let created := psCreateTask state.dsp mode true
            ({ state with dsp := created.1, nsid := Function.update state.nsid pri (allocteNsId pri) }, created.2)

def nsDestroyTask (state : NsDsp) (id : Nat) : NsDsp × Reply :=
  let destroyed := psDestroyTask state.dsp id
  match dspSearchTaskById state.dsp id with
  | none => ({ state with dsp := destroyed.1 }, destroyed.2)
  | some pri =>
      let map := if (state.dsp.tasks pri).type.isSw then (xrpUnregisterNamespace state.nsMap (state.nsid pri)).1 else state.nsMap
      ({ state with dsp := destroyed.1, nsMap := map }, destroyed.2)

def nsCommand (state : NsDsp) (memory : Option (Nat → XrpCmdNs)) : Command → Option (NsDsp × Reply)
  | .taskAlloc mode _ => some (nsCreateTask state mode memory)
  | .taskFree id => some (nsDestroyTask state id)
  | command => (psCommonCommand state.dsp command).map fun result => ({ state with dsp := result.1 }, result.2)

-- A command, with what realloc returns for the map, or writes of others to the
-- memory behind the map.
inductive NsEvent where
  | command (command : Command) (memory : Option (Nat → XrpCmdNs))
  | heapWrite (cells : Nat → XrpCmdNs)

def heapWrite (map : XrpCmdNsMap) (cells : Nat → XrpCmdNs) : XrpCmdNsMap :=
  { map with cmdNs := fun place => if place < map.sizeCmdNs then map.cmdNs place else cells place }

def nsStep (state : NsDsp) : NsEvent → Option NsDsp
  | .command command memory => (nsCommand state memory command).map Prod.fst
  | .heapWrite cells => some { state with nsMap := heapWrite state.nsMap cells }

-- A software task of TASK_ALLOC: unlike the common task and the idle task, it
-- has its id from allocte_ns_id.
structure SoftwareTask (state : NsDsp) (pri : Nat) : Prop where
  inTable : pri < psMaxTaskType
  used : (state.dsp.tasks pri).status ≠ .free
  software : (state.dsp.tasks pri).type.isSw = true
  named : state.nsid pri = allocteNsId pri

structure CommonAlive (state : NsDsp) : Prop where
  used : (state.dsp.tasks 3).status ≠ .free
  named : state.nsid 3 = xrpPsNsidCommonCmd

structure NsInv (state : NsDsp) : Prop where
  names : NamesFaithful state.dsp
  sound : MapSound state.nsMap
  nsids : ∀ pri < psMaxTaskType, (state.dsp.tasks pri).status ≠ .free → (state.dsp.tasks pri).type.isSw = true →
    state.nsid pri = allocteNsId pri ∨ pri = 3 ∧ state.nsid pri = xrpPsNsidCommonCmd ∨ pri = 15 ∧ state.nsid pri = zeroNsId
  entries : ∀ entry, state.nsMap.Registered entry ↔
    (∃ pri, SoftwareTask state pri ∧ entry = swTaskEntry pri) ∨ CommonAlive state ∧ entry = commonEntry

theorem allocte_injective : ∀ pri < psMaxTaskType, ∀ other < psMaxTaskType, allocteNsId pri = allocteNsId other → pri = other := by
  decide +kernel

theorem allocte_not_common : ∀ pri < psMaxTaskType, 0 < pri → allocteNsId pri ≠ xrpPsNsidCommonCmd := by decide +kernel

theorem allocte_not_zero : ∀ pri < psMaxTaskType, allocteNsId pri ≠ zeroNsId := by decide +kernel

section Step

variable (state next : NsDsp) (inv : NsInv state)

-- Nobody is allocated or freed, and the ids of the tasks in use stay.
structure KeepsOwners (state next : NsDsp) : Prop where
  kind : ∀ pri, (next.dsp.tasks pri).type = (state.dsp.tasks pri).type
  free : ∀ pri, (next.dsp.tasks pri).status = .free ↔ (state.dsp.tasks pri).status = .free
  nsid : ∀ pri, (state.dsp.tasks pri).status ≠ .free → next.nsid pri = state.nsid pri

theorem owners_software (owners : KeepsOwners state next) (pri : Nat) : SoftwareTask next pri ↔ SoftwareTask state pri := by
  constructor
  · rintro ⟨inTable, used, software, named⟩
    have before : (state.dsp.tasks pri).status ≠ .free := fun freed => used ((owners.free pri).mpr freed)
    exact ⟨inTable, before, owners.kind pri ▸ software, owners.nsid pri before ▸ named⟩
  · rintro ⟨inTable, used, software, named⟩
    exact ⟨inTable, fun freed => used ((owners.free pri).mp freed), (owners.kind pri).symm ▸ software,
      (owners.nsid pri used).symm ▸ named⟩

theorem owners_common (owners : KeepsOwners state next) : CommonAlive next ↔ CommonAlive state := by
  constructor
  · rintro ⟨used, named⟩
    have before : (state.dsp.tasks 3).status ≠ .free := fun freed => used ((owners.free 3).mpr freed)
    exact ⟨before, owners.nsid 3 before ▸ named⟩
  · rintro ⟨used, named⟩
    exact ⟨fun freed => used ((owners.free 3).mp freed), (owners.nsid 3 used).symm ▸ named⟩

include inv

theorem ns_inv_owners (owners : KeepsOwners state next) (names : NamesFaithful next.dsp) (sound : MapSound next.nsMap)
    (registered : ∀ entry, next.nsMap.Registered entry ↔ state.nsMap.Registered entry) : NsInv next := by
  refine ⟨names, sound, fun pri inTable used software => ?_, fun entry => ?_⟩
  · have before : (state.dsp.tasks pri).status ≠ .free := fun freed => used ((owners.free pri).mpr freed)
    rw [owners.nsid pri before]
    exact inv.nsids pri inTable before (owners.kind pri ▸ software)
  · rw [registered, inv.entries]
    simp only [owners_software state next owners, owners_common state next owners]

theorem heap_write_inv (cells : Nat → XrpCmdNs) : NsInv { state with nsMap := heapWrite state.nsMap cells } := by
  have same : ∀ place < state.nsMap.nCmdNs, (heapWrite state.nsMap cells).cmdNs place = state.nsMap.cmdNs place :=
    fun place small => if_pos (Nat.lt_of_lt_of_le small inv.sound.room)
  refine ns_inv_owners state _ inv ⟨fun _ => rfl, fun _ => .rfl, fun _ _ => rfl⟩ inv.names
    ⟨inv.sound.allocated, inv.sound.room, fun low high less small => ?_⟩ fun entry => ?_
  · simp only [XrpCmdNsMap.ids, same high small, same low (Nat.lt_trans less small)]
    exact inv.sound.sorted low high less small
  · constructor
    · rintro ⟨place, small, held⟩
      exact ⟨place, small, by rw [← same place small, held]⟩
    · rintro ⟨place, small, held⟩
      exact ⟨place, small, by rw [same place small, held]⟩

theorem kept_owners_inv (pri : Nat) (dsp : Dsp) (work : KeepsPlaces pri state.dsp dsp) : NsInv { state with dsp := dsp } := by
  refine ns_inv_owners state _ inv ⟨fun other => ?_, fun other => ?_, fun _ _ => rfl⟩ (names_kept state.dsp dsp pri work inv.names)
    inv.sound fun _ => .rfl
  · by_cases same : other = pri
    · exact same ▸ work.kind
    · simp only [work.others other same]
  · by_cases same : other = pri
    · exact same ▸ work.free
    · simp only [work.others other same]

-- Only the id of a FREE entry has been written.
theorem named_free_inv (pri : Nat) (free : (state.dsp.tasks pri).status = .free) (id : NsId) :
    NsInv { state with nsid := Function.update state.nsid pri id } := by
  refine ns_inv_owners state _ inv ⟨fun _ => rfl, fun _ => .rfl, fun other used => ?_⟩ inv.names inv.sound fun _ => .rfl
  exact Function.update_of_ne (fun same => used (by rw [same]; exact free)) _ _

omit inv in
-- Which tasks there are after TASK_ALLOC has entered a FREE entry.
theorem entered_software (kind : TaskMode) (pri place count : Nat) (inTable : pri < psMaxTaskType)
    (sameClass : kind.sameClass (state.dsp.tasks pri)) (map : XrpCmdNsMap) (other : Nat) :
    SoftwareTask ⟨placeTask state.dsp pri (allocatedTask kind (state.dsp.tasks pri)) place count,
        Function.update state.nsid pri (allocteNsId pri), map⟩ other ↔
      other = pri ∧ kind.isSw = true ∨ other ≠ pri ∧ SoftwareTask state other := by
  by_cases same : other = pri
  · subst same
    have named := Function.update_self other (allocteNsId other) state.nsid
    constructor
    · rintro ⟨-, -, software, -⟩
      simp only [placeTask, Function.update_self, allocatedTask, enteredTask] at software
      exact .inl ⟨rfl, software⟩
    · rintro (⟨-, software⟩ | ⟨different, -⟩)
      · refine ⟨inTable, ?_, ?_, named⟩
        · simp only [placeTask, Function.update_self, allocatedTask]
          exact entered_used kind _
        · simpa only [placeTask, Function.update_self, allocatedTask, enteredTask] using software
      · exact absurd rfl different
  · have task : (placeTask state.dsp pri (allocatedTask kind (state.dsp.tasks pri)) place count).tasks other =
        state.dsp.tasks other := Function.update_of_ne same _ _
    have named : Function.update state.nsid pri (allocteNsId pri) other = state.nsid other := Function.update_of_ne same _ _
    constructor
    · rintro ⟨small, used, software, id⟩
      rw [task] at used software
      exact .inr ⟨same, small, used, software, named ▸ id⟩
    · rintro (⟨here, -⟩ | ⟨-, small, used, software, id⟩)
      · exact absurd here same
      · refine ⟨small, ?_, ?_, named.trans id⟩ <;> rw [task] <;> assumption

omit inv in
theorem entered_common (kind : TaskMode) (pri place count : Nat) (free : (state.dsp.tasks pri).status = .free) (map : XrpCmdNsMap) :
    CommonAlive ⟨placeTask state.dsp pri (allocatedTask kind (state.dsp.tasks pri)) place count,
        Function.update state.nsid pri (allocteNsId pri), map⟩ ↔ CommonAlive state := by
  by_cases same : pri = 3
  · subst same
    constructor
    · rintro ⟨-, named⟩
      have id : Function.update state.nsid 3 (allocteNsId 3) 3 = allocteNsId 3 := Function.update_self _ _ _
      exact absurd (id.symm.trans named) (allocte_not_common 3 (by decide) (by decide))
    · rintro ⟨used, -⟩
      exact absurd free used
  · have task : (placeTask state.dsp pri (allocatedTask kind (state.dsp.tasks pri)) place count).tasks 3 = state.dsp.tasks 3 :=
      Function.update_of_ne (Ne.symm same) _ _
    have id : Function.update state.nsid pri (allocteNsId pri) 3 = state.nsid 3 := Function.update_of_ne (Ne.symm same) _ _
    constructor
    · rintro ⟨used, named⟩
      rw [task] at used
      exact ⟨used, id ▸ named⟩
    · rintro ⟨used, named⟩
      exact ⟨by rw [task]; exact used, id.trans named⟩

theorem entered_inv (kind : TaskMode) (pri place count : Nat) (inTable : pri < psMaxTaskType)
    (free : (state.dsp.tasks pri).status = .free) (sameClass : kind.sameClass (state.dsp.tasks pri)) (map : XrpCmdNsMap)
    (names : NamesFaithful (placeTask state.dsp pri (allocatedTask kind (state.dsp.tasks pri)) place count)) (sound : MapSound map)
    (registered : ∀ entry, map.Registered entry ↔ kind.isSw = true ∧ entry = swTaskEntry pri ∨ state.nsMap.Registered entry) :
    NsInv ⟨placeTask state.dsp pri (allocatedTask kind (state.dsp.tasks pri)) place count,
      Function.update state.nsid pri (allocteNsId pri), map⟩ := by
  refine ⟨names, sound, fun other small used software => ?_, fun entry => ?_⟩
  · by_cases same : other = pri
    · exact .inl (by rw [same]; exact Function.update_self _ _ _)
    · simp only [placeTask, Function.update_of_ne same] at used software ⊢
      exact inv.nsids other small used software
  · have others : ∀ other, SoftwareTask state other → other ≠ pri := fun other task same => task.used (same ▸ free)
    rw [registered, inv.entries, entered_common state kind pri place count free map]
    simp only [entered_software state kind pri place count inTable sameClass map]
    constructor
    · rintro (⟨software, same⟩ | ⟨other, task, same⟩ | common)
      · exact .inl ⟨pri, .inl ⟨rfl, software⟩, same⟩
      · exact .inl ⟨other, .inr ⟨others other task, task⟩, same⟩
      · exact .inr common
    · rintro (⟨other, ⟨here, software⟩ | ⟨-, task⟩, same⟩ | common)
      · exact .inl ⟨software, by rw [same, here]⟩
      · exact .inr (.inl ⟨other, task, same⟩)
      · exact .inr (.inr common)

-- TASK_ALLOC fails, perhaps behind the write of an id into a FREE entry, or
-- enters an entry, whose namespace is registered if the task is a software task.
inductive NsCreateOutcome (next : NsDsp) : Prop where
  | refused (same : next = state)
  | named (pri : Nat) (free : (state.dsp.tasks pri).status = .free)
      (same : next = { state with nsid := Function.update state.nsid pri (allocteNsId pri) })
  | created (kind : TaskMode) (pri place count : Nat) (inTable : pri < psMaxTaskType)
      (free : (state.dsp.tasks pri).status = .free) (sameClass : kind.sameClass (state.dsp.tasks pri))
      (empty : state.dsp.taskHandler place = none)
      (names : NamesFaithful (placeTask state.dsp pri (allocatedTask kind (state.dsp.tasks pri)) place count))
      (sound : MapSound next.nsMap)
      (registered : ∀ entry, next.nsMap.Registered entry ↔ kind.isSw = true ∧ entry = swTaskEntry pri ∨ state.nsMap.Registered entry)
      (same : next = ⟨placeTask state.dsp pri (allocatedTask kind (state.dsp.tasks pri)) place count,
        Function.update state.nsid pri (allocteNsId pri), next.nsMap⟩)

theorem create_ns_outcome (mode : Option TaskMode) (memory : Option (Nat → XrpCmdNs)) :
    NsCreateOutcome state (nsCreateTask state mode memory).1 := by
  rw [nsCreateTask.eq_def]
  cases mode with
  | none => exact .refused rfl
  | some kind =>
      dsimp only
      by_cases software : kind.isSw = true
      · rw [if_pos software]
        cases found : getFreeSwTask state.dsp with
        | none => exact .refused rfl
        | some pri =>
            obtain ⟨inTable, owned, free⟩ := free_task_found state.dsp pri _ found
            have sameClass : kind.sameClass (state.dsp.tasks pri) := (same_class_sw kind software _).mpr owned
            dsimp only
            rcases made : xrpRegisterNamespace state.nsMap (swTaskEntry pri) memory with ⟨map, ok⟩
            rcases register_outcome state.nsMap inv.sound (swTaskEntry pri) memory map ok made with
              ⟨rfl, rfl⟩ | ⟨rfl, sound, fresh, registered⟩
            · have refused : (psCreateTask state.dsp (some kind) false).1 = state.dsp := by
                simp [psCreateTask, software, found]
              simp only [refused]
              exact .named pri free rfl
            · obtain ⟨place, count, created, empty, below, grown, bounded⟩ :=
                create_sw_placed state.dsp pri inv.names kind software found
              simp only [created]
              refine .created kind pri place count inTable free sameClass empty
                (names_placed state.dsp pri kind place count inv.names inTable free sameClass below grown bounded empty) sound
                (fun entry => ?_) rfl
              rw [registered, and_iff_right software]
      · rw [if_neg software]
        cases found : getFreeHwTask state.dsp with
        | none => exact .refused rfl
        | some pri =>
            obtain ⟨inTable, owned, free⟩ := free_task_found state.dsp pri _ found
            have sameClass : kind.sameClass (state.dsp.tasks pri) := (same_class_hw kind software _).mpr owned
            obtain ⟨place, count, created, empty, below, grown, bounded⟩ :=
              create_hw_placed state.dsp pri inv.names kind software true found
            simp only [created]
            exact .created kind pri place count inTable free sameClass empty
              (names_placed state.dsp pri kind place count inv.names inTable free sameClass below grown bounded empty) inv.sound
              (fun entry => ⟨.inr, fun held => held.resolve_left fun soft => software soft.1⟩) rfl

theorem create_ns_inv (outcome : NsCreateOutcome state next) : NsInv next := by
  cases outcome with
  | refused same => exact same ▸ inv
  | named pri free same => exact same ▸ named_free_inv state inv pri free _
  | created kind pri place count inTable free sameClass empty names sound registered same =>
      rw [same]
      exact entered_inv state inv kind pri place count inTable free sameClass next.nsMap names sound registered

omit inv in
theorem left_software (id pri : Nat) (dsp : Dsp) (outcome : DestroyOutcome state.dsp id pri dsp) (map : XrpCmdNsMap) (other : Nat) :
    SoftwareTask ⟨dsp, state.nsid, map⟩ other ↔ SoftwareTask state other ∧ other ≠ pri := by
  by_cases same : other = pri
  · subst same
    refine ⟨fun task => absurd ?_ task.used, fun task => absurd rfl task.2⟩
    rw [outcome.entry]
  · constructor
    · rintro ⟨small, used, software, named⟩
      rw [outcome.others other same] at used software
      exact ⟨⟨small, used, software, named⟩, same⟩
    · rintro ⟨⟨small, used, software, named⟩, -⟩
      refine ⟨small, ?_, ?_, named⟩ <;> rw [outcome.others other same] <;> assumption

omit inv in
theorem left_common (id pri : Nat) (dsp : Dsp) (outcome : DestroyOutcome state.dsp id pri dsp) (map : XrpCmdNsMap) :
    CommonAlive ⟨dsp, state.nsid, map⟩ ↔ CommonAlive state ∧ pri ≠ 3 := by
  by_cases same : pri = 3
  · subst same
    refine ⟨fun alive => absurd ?_ alive.used, fun alive => absurd rfl alive.2⟩
    rw [outcome.entry]
  · constructor
    · rintro ⟨used, named⟩
      rw [outcome.others 3 (Ne.symm same)] at used
      exact ⟨⟨used, named⟩, same⟩
    · rintro ⟨⟨used, named⟩, -⟩
      exact ⟨by rw [outcome.others 3 (Ne.symm same)]; exact used, named⟩

-- An entry that is registered has the id of a task that is freed only if it is
-- the entry of that task.
theorem freed_entry (pri : Nat) (inTable : pri < psMaxTaskType) (used : (state.dsp.tasks pri).status ≠ .free)
    (software : (state.dsp.tasks pri).type.isSw = true) :
    (∀ other, SoftwareTask state other → ((swTaskEntry other).id ≠ state.nsid pri ↔ other ≠ pri)) ∧
      (CommonAlive state → (commonEntry.id ≠ state.nsid pri ↔ pri ≠ 3)) := by
  have above : ∀ other, (state.dsp.tasks other).type.isSw = true → 3 ≤ other := by
    intro other soft
    rw [(inv.names.classes other).2] at soft
    simpa using soft
  have three : (3 : Nat) < psMaxTaskType := by decide
  rcases inv.nsids pri inTable used software with named | ⟨common, named⟩ | ⟨idle, named⟩
  · rw [named]
    refine ⟨fun other task => not_congr ⟨fun same => ?_, fun same => by rw [same]; rfl⟩, fun alive => ?_⟩
    · exact allocte_injective other task.inTable pri inTable same
    · have apart := allocte_not_common pri inTable (by have := above pri software; omega)
      refine iff_of_true apart.symm fun same => ?_
      rw [same, alive.named] at named
      exact allocte_not_common 3 three (by decide) named.symm
  · rw [named, common]
    refine ⟨fun other task => iff_of_true ?_ fun same => ?_, fun _ => iff_of_false (fun apart => apart rfl) fun apart => apart rfl⟩
    · exact allocte_not_common other task.inTable (by have := above other task.software; omega)
    · have id := task.named
      rw [same, ← common, named] at id
      exact allocte_not_common pri inTable (by omega) id.symm
  · rw [named]
    refine ⟨fun other task => iff_of_true (allocte_not_zero other task.inTable) fun same => ?_,
      fun _ => iff_of_true (by decide) (by omega)⟩
    have id := task.named
    rw [same, named] at id
    exact allocte_not_zero pri inTable id.symm

theorem destroy_ns_inv (id : Nat) : NsInv (nsDestroyTask state id).1 := by
  rw [nsDestroyTask]
  cases found : dspSearchTaskById state.dsp id with
  | none =>
      have same : (psDestroyTask state.dsp id).1 = state.dsp := by simp [psDestroyTask, found]
      simp only [same]
      exact inv
  | some pri =>
      have outcome := destroy_outcome state.dsp (psDestroyTask state.dsp id).1 pri id found (psDestroyTask state.dsp id).2 rfl
      have names := names_destroyed state.dsp _ pri id inv.names found outcome
      dsimp only
      generalize (psDestroyTask state.dsp id).1 = dsp at outcome names
      obtain ⟨inTable, -, used⟩ := inv.names.slots.placed id pri (search_listed state.dsp id pri found)
      have nsids (map : XrpCmdNsMap) : ∀ other < psMaxTaskType, (dsp.tasks other).status ≠ .free →
          (dsp.tasks other).type.isSw = true → state.nsid other = allocteNsId other ∨
            other = 3 ∧ state.nsid other = xrpPsNsidCommonCmd ∨ other = 15 ∧ state.nsid other = zeroNsId := by
        intro other small alive soft
        have apart : other ≠ pri := fun same => alive (by rw [same, outcome.entry])
        rw [outcome.others other apart] at alive soft
        exact inv.nsids other small alive soft
      by_cases software : (state.dsp.tasks pri).type.isSw = true
      · rw [if_pos software]
        rcases taken : xrpUnregisterNamespace state.nsMap (state.nsid pri) with ⟨map, ok⟩
        obtain ⟨sound, registered⟩ := unregister_outcome state.nsMap inv.sound (state.nsid pri) map ok taken
        obtain ⟨tasks, common⟩ := freed_entry state inv pri inTable used software
        refine ⟨names, sound, nsids map, fun entry => ?_⟩
        rw [registered, inv.entries, left_common state id pri dsp outcome map]
        simp only [left_software state id pri dsp outcome map]
        constructor
        · rintro ⟨⟨other, task, rfl⟩ | ⟨alive, rfl⟩, apart⟩
          · exact .inl ⟨other, ⟨task, (tasks other task).mp apart⟩, rfl⟩
          · exact .inr ⟨⟨alive, (common alive).mp apart⟩, rfl⟩
        · rintro (⟨other, ⟨task, apart⟩, rfl⟩ | ⟨⟨alive, apart⟩, rfl⟩)
          · exact ⟨.inl ⟨other, task, rfl⟩, (tasks other task).mpr apart⟩
          · exact ⟨.inr ⟨alive, rfl⟩, (common alive).mpr apart⟩
      · rw [if_neg software]
        refine ⟨names, inv.sound, nsids state.nsMap, fun entry => ?_⟩
        have apart : ∀ other, SoftwareTask state other → other ≠ pri := fun other task same => software (same ▸ task.software)
        have three : CommonAlive state → pri ≠ 3 := by
          rintro - rfl
          exact software (by rw [(inv.names.classes 3).2]; rfl)
        rw [inv.entries, left_common state id pri dsp outcome]
        simp only [left_software state id pri dsp outcome]
        refine or_congr (exists_congr fun other => and_congr_left fun _ => ?_) (and_congr_left fun _ => ?_)
        · exact ⟨fun task => ⟨task, apart other task⟩, fun task => task.1⟩
        · exact ⟨fun alive => ⟨alive, three alive⟩, fun alive => alive.1⟩

inductive NsOutcome (command : Command) (next : NsDsp) : Prop where
  | kept (pri : Nat) (dsp : Dsp) (work : KeepsPlaces pri state.dsp dsp) (same : next = { state with dsp := dsp })
  | alloc (mode : Option TaskMode) (registered : Bool) (asked : command = .taskAlloc mode registered)
      (outcome : NsCreateOutcome state next)
  | free (id : Nat) (asked : command = .taskFree id) (same : next = (nsDestroyTask state id).1)

theorem ns_command_outcome (command : Command) (memory : Option (Nat → XrpCmdNs)) (reply : Reply)
    (done : nsCommand state memory command = some (next, reply)) : NsOutcome state command next := by
  cases command with
  | taskAlloc mode registered =>
      have outcome := create_ns_outcome state inv mode memory
      rw [Option.some.inj done] at outcome
      exact .alloc mode registered rfl outcome
  | taskFree id => exact .free id rfl (congrArg Prod.fst (Option.some.inj done)).symm
  | taskStart | taskStop | feConfig | beConfig | algoConfig | algoLoad | reportConfig | beAssginBuf =>
      simp only [nsCommand, Option.map_eq_some_iff] at done
      obtain ⟨⟨dsp, answer⟩, given, equal⟩ := done
      cases equal
      cases places_outcome state.dsp dsp _ answer given with
      | kept pri work => exact .kept pri dsp work rfl
      | alloc mode registered asked => cases asked
      | free id pri asked => cases asked

theorem ns_step_inv (event : NsEvent) (taken : nsStep state event = some next) : NsInv next := by
  cases event with
  | heapWrite cells =>
      cases taken
      exact heap_write_inv state inv cells
  | command command memory =>
      obtain ⟨⟨result, reply⟩, done, rfl⟩ := Option.map_eq_some_iff.mp taken
      cases ns_command_outcome state result inv command memory reply done with
      | kept pri dsp work same => exact same ▸ kept_owners_inv state inv pri dsp work
      | alloc mode registered asked outcome => exact create_ns_inv state result inv outcome
      | free id asked same => exact same ▸ destroy_ns_inv state inv id

end Step

theorem init_map (cmd : XrpDspCmd) (payload : ReportItem) (cells : Nat → XrpCmdNs) :
    (initNsDsp cmd payload cells).nsMap = ⟨1, 2, insertAt cells 0 0 commonEntry⟩ := by
  simp [initNsDsp, xrpRegisterNamespace, xrpFindCmdNs, search, halve, cmdNsPresent, insertCmdNs, growCmdNs]

theorem init_ns_inv (cmd : XrpDspCmd) (payload : ReportItem) (cells : Nat → XrpCmdNs) : NsInv (initNsDsp cmd payload cells) := by
  have alive : CommonAlive (initNsDsp cmd payload cells) := ⟨by simp [initNsDsp, initDsp], rfl⟩
  have nobody : ∀ pri, ¬ SoftwareTask (initNsDsp cmd payload cells) pri := by
    rintro pri ⟨inTable, used, -, named⟩
    by_cases common : pri = 3
    · rw [common] at named
      exact allocte_not_common 3 (by decide) (by decide) named.symm
    · have id : (initNsDsp cmd payload cells).nsid pri = zeroNsId := if_neg common
      exact allocte_not_zero pri inTable (named.symm.trans id)
  refine ⟨init_names cmd payload, ?_, fun pri inTable used software => ?_, fun entry => ?_⟩
  · rw [init_map]
    refine ⟨Nat.succ_ne_zero 1, Nat.le_succ 1, fun low high less small => ?_⟩
    dsimp only at small
    omega
  · by_cases common : pri = 3
    · exact .inr (.inl ⟨common, if_pos common⟩)
    · by_cases idle : pri = 15
      · exact .inr (.inr ⟨idle, if_neg common⟩)
      · simp [initNsDsp, initDsp, tableEntry, common, idle] at used
  · have registered := holds_insert cells 0 0 commonEntry (Nat.le_refl 0) entry
    rw [init_map]
    refine registered.trans ⟨?_, ?_⟩
    · rintro (same | ⟨place, small, -⟩)
      · exact .inr ⟨alive, same⟩
      · exact absurd small (Nat.not_lt_zero place)
    · rintro (⟨pri, task, -⟩ | ⟨-, same⟩)
      · exact absurd task (nobody pri)
      · exact .inl same

-- Requests with an id go to the software task that has it, and only there.
structure Routes (state : NsDsp) (id : NsId) : Prop where
  routed : ∀ pri, commandHandler state.nsMap (some id) = .handler .dspProcessSwTask (some pri) ↔
    SoftwareTask state pri ∧ state.nsid pri = id
  refused : (∀ pri, SoftwareTask state pri → state.nsid pri ≠ id) → ¬ (CommonAlive state ∧ id = xrpPsNsidCommonCmd) →
    commandHandler state.nsMap (some id) = .noNamespace

structure DistinctIds (state : NsDsp) : Prop where
  single : ∀ pri other, SoftwareTask state pri → SoftwareTask state other → state.nsid pri = state.nsid other → pri = other
  notCommon : ∀ pri, SoftwareTask state pri → state.nsid pri ≠ xrpPsNsidCommonCmd

theorem distinct_ids_of_inv (state : NsDsp) (inv : NsInv state) : DistinctIds state := by
  refine ⟨fun pri other task second same => ?_, fun pri task same => ?_⟩
  · rw [task.named, second.named] at same
    exact allocte_injective pri task.inTable other second.inTable same
  · have software := task.software
    rw [(inv.names.classes pri).2] at software
    rw [task.named] at same
    refine allocte_not_common pri task.inTable ?_ same
    by_contra zero
    simp [Nat.eq_zero_of_not_pos zero] at software

-- Exactly stale memory behind the last namespace breaks the routing.
theorem routes_iff (state : NsDsp) (inv : NsInv state) (id : NsId) : Routes state id ↔ ¬ Stale state.nsMap id := by
  have owned (pri : Nat) (task : SoftwareTask state pri) (same : state.nsid pri = id) :
      ∃ entry, state.nsMap.Registered entry ∧ entry.id = id :=
    ⟨swTaskEntry pri, (inv.entries _).mpr (.inl ⟨pri, task, rfl⟩), task.named.symm.trans same⟩
  have missing (unowned : ∀ pri, SoftwareTask state pri → state.nsid pri ≠ id) (notCommon : ¬ (CommonAlive state ∧ id = xrpPsNsidCommonCmd))
      (entry : XrpCmdNs) (registered : state.nsMap.Registered entry) : entry.id ≠ id := by
    rintro rfl
    rcases (inv.entries entry).mp registered with ⟨pri, task, rfl⟩ | ⟨alive, rfl⟩
    · exact unowned pri task task.named
    · exact notCommon ⟨alive, rfl⟩
  constructor
  · rintro ⟨routed, refused⟩ stale
    have absent : ∀ entry, state.nsMap.Registered entry → entry.id ≠ id := by
      rintro entry ⟨place, small, rfl⟩
      exact ne_of_lt (stale.1 place small)
    refine (dispatch_unregistered state.nsMap inv.sound id absent).mp (refused (fun pri task same => ?_) ?_) stale
    · obtain ⟨entry, registered, held⟩ := owned pri task same
      exact absent entry registered held
    · rintro ⟨alive, same⟩
      exact absent commonEntry ((inv.entries _).mpr (.inr ⟨alive, rfl⟩)) same.symm
  · intro fresh
    refine ⟨fun pri => ⟨fun sent => ?_, fun ⟨task, same⟩ => ?_⟩, fun unowned notCommon => ?_⟩
    · by_cases present : ∃ entry, state.nsMap.Registered entry ∧ entry.id = id
      · obtain ⟨entry, registered, rfl⟩ := present
        rw [dispatch_registered state.nsMap inv.sound entry registered] at sent
        rcases (inv.entries entry).mp registered with ⟨other, task, rfl⟩ | ⟨alive, rfl⟩
        · cases sent
          exact ⟨task, task.named⟩
        · cases sent
      · have none_ := (dispatch_unregistered state.nsMap inv.sound id fun entry registered same =>
          present ⟨entry, registered, same⟩).mpr fresh
        rw [none_] at sent
        cases sent
    · have registered := (inv.entries _).mpr (.inl ⟨pri, task, rfl⟩)
      rw [← same, task.named]
      exact dispatch_registered state.nsMap inv.sound (swTaskEntry pri) registered
    · exact (dispatch_unregistered state.nsMap inv.sound id (missing unowned notCommon)).mpr fresh

-- In every state of every run the ids of the software tasks are distinct, and
-- exactly the requests that do not meet stale memory are routed as they should.
theorem namespace_routing (cmd : XrpDspCmd) (payload : ReportItem) (cells : Nat → XrpCmdNs) (finish : NsDsp) (events : List NsEvent)
    (ran : Runs.run nsStep (initNsDsp cmd payload cells) events = some finish) :
    DistinctIds finish ∧ ∀ id, Routes finish id ↔ ¬ Stale finish.nsMap id := by
  have inv := Runs.run_invariant nsStep NsInv (fun state event next held taken => ns_step_inv state next held event taken)
    _ finish events (init_ns_inv cmd payload cells) ran
  exact ⟨distinct_ids_of_inv finish inv, routes_iff finish inv⟩

def zeroCells : Nat → XrpCmdNs := fun _ => ⟨zeroNsId, .other 0, none⟩

def twoTasks : List NsEvent :=
  [.command (.taskAlloc (some .swToSw) true) none, .command (.taskAlloc (some .hwToSw) true) none,
    .command (.taskAlloc (some .swToHw) true) (some zeroCells)]

theorem namespace_routing_two : DistinctIds ((Runs.run nsStep (initNsDsp anyCmd anyReport zeroCells) twoTasks).get (by decide)) ∧
    ∀ id, Routes ((Runs.run nsStep (initNsDsp anyCmd anyReport zeroCells) twoTasks).get (by decide)) id ↔
      ¬ Stale ((Runs.run nsStep (initNsDsp anyCmd anyReport zeroCells) twoTasks).get (by decide)).nsMap id :=
  namespace_routing anyCmd anyReport zeroCells _ twoTasks (Option.some_get _).symm

def NsEvent.isLife : NsEvent → Bool
  | .command (.taskAlloc _ _) _ | .command (.taskFree _) _ => true
  | _ => false

-- The id of the only software task still reaches its freed entry.
theorem freed_id_routed : ¬ ∀ (cmd : XrpDspCmd) (payload : ReportItem) (cells : Nat → XrpCmdNs) (finish : NsDsp)
    (events : List NsEvent), (∀ event ∈ events, event.isLife = true) →
    Runs.run nsStep (initNsDsp cmd payload cells) events = some finish → DistinctIds finish ∧ ∀ id, Routes finish id := by
  intro claim
  let events : List NsEvent := [.command (.taskAlloc (some .swToSw) true) none, .command (.taskFree 2) none]
  have routes := (claim anyCmd anyReport zeroCells ((Runs.run nsStep (initNsDsp anyCmd anyReport zeroCells) events).get (by decide))
    events (by simp [events, NsEvent.isLife]) (Option.some_get _).symm).2 (allocteNsId 4)
  have task := ((routes.routed 4).mp (by decide)).1
  exact task.used (by decide)

end CsiDsp
