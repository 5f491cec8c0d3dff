import Mathlib.Data.List.Lex
import Mathlib.Data.Fin.Basic
import Mathlib.Order.Fin.Basic
import Mathlib.Logic.Function.Basic
import CsiDsp.Base.SortedArray
import CsiDsp.XrpDsp

set_option autoImplicit false

namespace CsiDsp

open SortedArray

-- The bytes of a namespace id; memcmp compares them as the lists are ordered.
abbrev NsId := List (Fin 256)

def xrpNamespaceIdSize : Nat := 16

-- What a namespace entry may point to: the handlers the firmware registers, or
-- whatever address the memory behind the entries holds.
inductive CommandHandler where
  | psCommonCommand
  | dspProcessSwTask
  | other (address : Nat)
deriving DecidableEq, Repr

-- The context of a software task is the index of its entry, none is NULL.
structure XrpCmdNs where
  id : NsId
  handler : CommandHandler
  context : Option Nat
deriving DecidableEq, Repr

-- The pointer cmd_ns is NULL as long as sizeCmdNs is 0.
structure XrpCmdNsMap where
  nCmdNs : Nat
  sizeCmdNs : Nat
  cmdNs : Nat → XrpCmdNs

def XrpCmdNsMap.ids (map : XrpCmdNsMap) (place : Nat) : NsId := (map.cmdNs place).id

def xrpCmdNsMatch (map : XrpCmdNsMap) (id : NsId) (place : Nat) : Bool := map.sizeCmdNs != 0 && id == map.ids place

def cmdNsPresent (map : XrpCmdNsMap) (place : Nat) : Bool := decide (place < map.nCmdNs)

def xrpFindCmdNs (map : XrpCmdNsMap) (id : NsId) : Nat := search map.ids map.nCmdNs id

-- memory is what realloc returns: its first cells are the old ones.
def growCmdNs (map : XrpCmdNsMap) (memory : Option (Nat → XrpCmdNs)) : Option XrpCmdNsMap :=
  if map.nCmdNs = map.sizeCmdNs then
    memory.map fun cells => { map with
      sizeCmdNs := (map.sizeCmdNs + 1) * 2
      cmdNs := fun place => if place < map.sizeCmdNs then map.cmdNs place else cells place }
  else some map

def insertCmdNs (map : XrpCmdNsMap) (place : Nat) (entry : XrpCmdNs) (memory : Option (Nat → XrpCmdNs)) : Option XrpCmdNsMap :=
  (growCmdNs map memory).map fun grown => { grown with
    nCmdNs := grown.nCmdNs + 1
    cmdNs := insertAt grown.cmdNs grown.nCmdNs place entry }

def removeCmdNs (map : XrpCmdNsMap) (place : Nat) : XrpCmdNsMap :=
  { map with nCmdNs := map.nCmdNs - 1, cmdNs := shiftDown map.cmdNs map.nCmdNs place }

def xrpRegisterNamespace (map : XrpCmdNsMap) (entry : XrpCmdNs) (memory : Option (Nat → XrpCmdNs)) : XrpCmdNsMap × Bool :=
  let place := xrpFindCmdNs map entry.id
  if cmdNsPresent map place && xrpCmdNsMatch map entry.id place then (map, false)
  else
    match insertCmdNs map place entry memory with
    | none => (map, false)
    | some map => (map, true)

def xrpUnregisterNamespace (map : XrpCmdNsMap) (id : NsId) : XrpCmdNsMap × Bool :=
  let place := xrpFindCmdNs map id
  if cmdNsPresent map place && xrpCmdNsMatch map id place then (removeCmdNs map place, true) else (map, false)

-- The handler process_command chooses for a request: the one of a namespace,
-- or none when the id matches nothing. A request without an id goes to
-- xrp_run_command_handler.
inductive Dispatch where
  | runCommand
  | handler (handler : CommandHandler) (context : Option Nat)
  | noNamespace
deriving DecidableEq, Repr

def commandHandler (map : XrpCmdNsMap) : Option NsId → Dispatch
  | none => .runCommand
  | some id =>
      let place := xrpFindCmdNs map id
      if xrpCmdNsMatch map id place then .handler (map.cmdNs place).handler (map.cmdNs place).context else .noNamespace

def Dispatch.outcome (returned : XrpStatus) : Dispatch → CommandOutcome
  | .noNamespace => .noNamespace
  | .runCommand => .handled .failure
  | .handler _ _ => .handled returned

-- The map is allocated, has room for what it counts and is sorted.
structure MapSound (map : XrpCmdNsMap) : Prop where
  allocated : map.sizeCmdNs ≠ 0
  room : map.nCmdNs ≤ map.sizeCmdNs
  sorted : Sorted map.ids map.nCmdNs

def XrpCmdNsMap.Registered (map : XrpCmdNsMap) (entry : XrpCmdNs) : Prop := Holds map.cmdNs map.nCmdNs entry

-- The search for an id may stop behind the last entry, on memory that happens
-- to hold the id.
def Stale (map : XrpCmdNsMap) (id : NsId) : Prop := (∀ place < map.nCmdNs, map.ids place < id) ∧ map.ids map.nCmdNs = id

instance (map : XrpCmdNsMap) (id : NsId) : Decidable (Stale map id) := inferInstanceAs (Decidable ((∀ place < _, _) ∧ _))

section Map

variable (map : XrpCmdNsMap) (sound : MapSound map) (entry : XrpCmdNs) (id : NsId)

include sound

theorem find_belongs : Belongs map.ids map.nCmdNs id (xrpFindCmdNs map id) := search_belongs map.ids map.nCmdNs id sound.sorted

theorem match_iff (place : Nat) : xrpCmdNsMatch map id place = true ↔ map.ids place = id := by
  rw [xrpCmdNsMatch, Bool.and_eq_true, bne_iff_ne, beq_iff_eq, and_iff_right sound.allocated]
  exact eq_comm

-- The entry a search stops on is the registered one with the id, if there is one.
theorem found_registered (registered : map.Registered entry) : cmdNsPresent map (xrpFindCmdNs map entry.id) = true ∧
    map.cmdNs (xrpFindCmdNs map entry.id) = entry := by
  obtain ⟨spot, inside, same⟩ := registered
  have found := belongs_found map.ids map.nCmdNs entry.id _ (find_belongs map sound entry.id) spot inside
    (by rw [XrpCmdNsMap.ids, same]) sound.sorted
  rw [found]
  exact ⟨decide_eq_true inside, same⟩

theorem present_match_iff : (cmdNsPresent map (xrpFindCmdNs map id) && xrpCmdNsMatch map id (xrpFindCmdNs map id)) = true ↔
    ∃ entry, map.Registered entry ∧ entry.id = id := by
  rw [Bool.and_eq_true, match_iff map sound]
  constructor
  · rintro ⟨present, same⟩
    exact ⟨map.cmdNs (xrpFindCmdNs map id), ⟨_, of_decide_eq_true present, rfl⟩, same⟩
  · rintro ⟨entry, registered, rfl⟩
    obtain ⟨present, same⟩ := found_registered map sound entry registered
    exact ⟨present, by rw [XrpCmdNsMap.ids, same]⟩

theorem dispatch_registered (registered : map.Registered entry) :
    commandHandler map (some entry.id) = .handler entry.handler entry.context := by
  obtain ⟨-, same⟩ := found_registered map sound entry registered
  have matched := (match_iff map sound entry.id (xrpFindCmdNs map entry.id)).mpr (by rw [XrpCmdNsMap.ids, same])
  simp only [commandHandler, matched, if_true, same]

-- Without a registered entry the search still meets the id in stale memory.
theorem dispatch_unregistered (missing : ∀ entry, map.Registered entry → entry.id ≠ id) :
    commandHandler map (some id) = .noNamespace ↔ ¬ Stale map id := by
  have belongs := find_belongs map sound id
  have missed : xrpCmdNsMatch map id (xrpFindCmdNs map id) = true ↔ Stale map id := by
    rw [match_iff map sound]
    constructor
    · intro same
      have outside : ¬ xrpFindCmdNs map id < map.nCmdNs := fun inside =>
        missing (map.cmdNs (xrpFindCmdNs map id)) ⟨_, inside, rfl⟩ same
      have last : xrpFindCmdNs map id = map.nCmdNs := Nat.le_antisymm belongs.inside (Nat.not_lt.mp outside)
      rw [last] at belongs same
      exact ⟨belongs.below, same⟩
    · rintro ⟨below, same⟩
      have outside : ¬ xrpFindCmdNs map id < map.nCmdNs := fun inside =>
        absurd (below _ inside) (not_lt.mpr (belongs.above _ (Nat.le_refl _) inside))
      rw [Nat.le_antisymm belongs.inside (Nat.not_lt.mp outside), same]
  rw [← missed]
  by_cases matched : xrpCmdNsMatch map id (xrpFindCmdNs map id) = true
  · simp [commandHandler, matched]
  · simp [commandHandler, matched]

theorem register_outcome (memory : Option (Nat → XrpCmdNs)) (next : XrpCmdNsMap) (ok : Bool)
    (done : xrpRegisterNamespace map entry memory = (next, ok)) :
    ok = false ∧ next = map ∨
    ok = true ∧ MapSound next ∧ (∀ other, map.Registered other → other.id ≠ entry.id) ∧
      ∀ other, next.Registered other ↔ other = entry ∨ map.Registered other := by
  simp only [xrpRegisterNamespace] at done
  split at done
  · cases done
    exact .inl ⟨rfl, rfl⟩
  · rename_i absent
    have missing : ∀ other, map.Registered other → other.id ≠ entry.id := fun other registered same =>
      absent ((present_match_iff map sound entry.id).mpr ⟨other, registered, same⟩)
    have belongs := find_belongs map sound entry.id
    generalize xrpFindCmdNs map entry.id = place at belongs done
    cases inserted : insertCmdNs map place entry memory with
    | none =>
        rw [inserted] at done
        cases done
        exact .inl ⟨rfl, rfl⟩
    | some last =>
        rw [inserted] at done
        cases done
        obtain ⟨grown, grew, rfl⟩ := Option.map_eq_some_iff.mp inserted
        have kept : grown.nCmdNs = map.nCmdNs ∧ grown.nCmdNs < grown.sizeCmdNs ∧
            ∀ spot < map.nCmdNs, grown.cmdNs spot = map.cmdNs spot := by
          have room := sound.room
          simp only [growCmdNs] at grew
          split at grew
          · rename_i full
            obtain ⟨cells, -, rfl⟩ := Option.map_eq_some_iff.mp grew
            exact ⟨rfl, by dsimp only; omega, fun spot small => if_pos (by omega)⟩
          · rename_i space
            cases grew
            exact ⟨rfl, by omega, fun _ _ => rfl⟩
        obtain ⟨count, space, same⟩ := kept
        have ids : ∀ spot < map.nCmdNs, grown.ids spot = map.ids spot := fun spot small => by
          rw [XrpCmdNsMap.ids, same spot small]
          rfl
        have sorted : Sorted grown.ids grown.nCmdNs := by
          rw [count]
          intro low high less small
          rw [ids low (by omega), ids high small]
          exact sound.sorted low high less small
        have holds : ∀ other, grown.Registered other ↔ map.Registered other := by
          intro other
          rw [XrpCmdNsMap.Registered, XrpCmdNsMap.Registered, count]
          constructor
          · rintro ⟨spot, small, held⟩
            exact ⟨spot, small, by rw [← same spot small, held]⟩
          · rintro ⟨spot, small, held⟩
            exact ⟨spot, small, by rw [same spot small, held]⟩
        have grownBelongs : Belongs grown.ids grown.nCmdNs entry.id place := by
          rw [count]
          refine ⟨belongs.inside, fun spot small => ?_, fun spot from_ small => ?_⟩
          · have inside := belongs.inside
            rw [ids spot (by omega)]
            exact belongs.below spot small
          · rw [ids spot small]
            exact belongs.above spot from_ small
        refine .inr ⟨rfl, ⟨?_, space, ?_⟩, missing, fun other => ?_⟩
        · dsimp only
          omega
        · exact sorted_insert grown.cmdNs grown.nCmdNs place entry XrpCmdNs.id sorted grownBelongs fun spot small =>
            missing _ ((holds _).mp ⟨spot, small, rfl⟩)
        · exact (holds_insert grown.cmdNs grown.nCmdNs place entry grownBelongs.inside other).trans (or_congr_right (holds other))

theorem unregister_outcome (next : XrpCmdNsMap) (ok : Bool) (done : xrpUnregisterNamespace map id = (next, ok)) :
    MapSound next ∧ ∀ other, next.Registered other ↔ map.Registered other ∧ other.id ≠ id := by
  simp only [xrpUnregisterNamespace] at done
  split at done
  · rename_i present
    rw [Bool.and_eq_true] at present
    cases done
    have inside : xrpFindCmdNs map id < map.nCmdNs := of_decide_eq_true present.1
    have same := (match_iff map sound id _).mp present.2
    have room := sound.room
    refine ⟨⟨sound.allocated, by simp only [removeCmdNs]; omega, sorted_remove map.cmdNs map.nCmdNs _ XrpCmdNs.id sound.sorted⟩,
      fun other => ?_⟩
    have removed := holds_remove map.cmdNs map.nCmdNs (xrpFindCmdNs map id) XrpCmdNs.id sound.sorted inside other
    rwa [show (map.cmdNs (xrpFindCmdNs map id)).id = id from same] at removed
  · rename_i absent
    cases done
    refine ⟨sound, fun other => ⟨fun registered => ⟨registered, fun same => ?_⟩, fun held => held.1⟩⟩
    exact absent ((present_match_iff map sound id).mpr ⟨other, registered, same⟩)

-- A namespace can be registered unless its id is taken or memory is short.
theorem registers_iff (memory : Option (Nat → XrpCmdNs)) : (xrpRegisterNamespace map entry memory).2 = true ↔
    (∀ other, map.Registered other → other.id ≠ entry.id) ∧ (map.nCmdNs = map.sizeCmdNs → memory ≠ none) := by
  have taken := present_match_iff map sound entry.id
  simp only [xrpRegisterNamespace]
  by_cases present : (cmdNsPresent map (xrpFindCmdNs map entry.id) && xrpCmdNsMatch map entry.id (xrpFindCmdNs map entry.id)) = true
  · rw [if_pos present]
    obtain ⟨other, registered, same⟩ := taken.mp present
    exact iff_of_false Bool.false_ne_true fun both => both.1 other registered same
  · rw [if_neg present]
    have free : ∀ other, map.Registered other → other.id ≠ entry.id := fun other registered same =>
      present (taken.mpr ⟨other, registered, same⟩)
    simp only [insertCmdNs, growCmdNs, and_iff_right free]
    by_cases full : map.nCmdNs = map.sizeCmdNs
    · cases memory <;> simp [full]
    · simp [full]

omit sound in
theorem register_counts (memory : Option (Nat → XrpCmdNs)) (next : XrpCmdNsMap)
    (done : xrpRegisterNamespace map entry memory = (next, true)) :
    next.nCmdNs = map.nCmdNs + 1 ∧ map.sizeCmdNs ≤ next.sizeCmdNs := by
  simp only [xrpRegisterNamespace] at done
  split at done
  · cases done
  · cases inserted : insertCmdNs map (xrpFindCmdNs map entry.id) entry memory with
    | none =>
        rw [inserted] at done
        cases done
    | some last =>
        rw [inserted] at done
        cases done
        obtain ⟨grown, grew, rfl⟩ := Option.map_eq_some_iff.mp inserted
        simp only [growCmdNs] at grew
        split at grew
        · obtain ⟨cells, -, rfl⟩ := Option.map_eq_some_iff.mp grew
          exact ⟨rfl, by dsimp only; omega⟩
        · cases grew
          exact ⟨rfl, Nat.le_refl _⟩

theorem unregister_counts (registered : map.Registered entry) :
    (xrpUnregisterNamespace map entry.id).1.nCmdNs = map.nCmdNs - 1 ∧
      (xrpUnregisterNamespace map entry.id).1.sizeCmdNs = map.sizeCmdNs := by
  have present := (present_match_iff map sound entry.id).mpr ⟨entry, registered, rfl⟩
  simp only [xrpUnregisterNamespace, present, if_true]
  exact ⟨rfl, rfl⟩

-- A namespace that comes and goes leaves the others, and perhaps more room.
theorem register_unregister (memory : Option (Nat → XrpCmdNs)) (next : XrpCmdNsMap)
    (done : xrpRegisterNamespace map entry memory = (next, true)) :
    (∀ other, (xrpUnregisterNamespace next entry.id).1.Registered other ↔ map.Registered other) ∧
      (xrpUnregisterNamespace next entry.id).1.nCmdNs = map.nCmdNs ∧
        map.sizeCmdNs ≤ (xrpUnregisterNamespace next entry.id).1.sizeCmdNs := by
  rcases register_outcome map sound entry memory next true done with ⟨refused, -⟩ | ⟨-, grown, missing, registered⟩
  · cases refused
  · have present : next.Registered entry := (registered entry).mpr (.inl rfl)
    obtain ⟨more, size⟩ := register_counts map entry memory next done
    obtain ⟨fewer, same⟩ := unregister_counts next grown entry present
    have left := (unregister_outcome next grown entry.id (xrpUnregisterNamespace next entry.id).1
      (xrpUnregisterNamespace next entry.id).2 rfl).2
    refine ⟨fun other => ?_, by rw [fewer, more]; exact Nat.add_sub_cancel _ _, by rw [same]; exact size⟩
    rw [left, registered]
    constructor
    · rintro ⟨rfl | before, apart⟩
      · exact absurd rfl apart
      · exact before
    · exact fun before => ⟨.inr before, missing other before⟩

-- Nothing wipes the cell behind the entries: the id of the last namespace is
-- still there when that namespace has been unregistered.
theorem unregistered_last_stale (last : Nat) (count : map.nCmdNs = last + 1) :
    Stale (xrpUnregisterNamespace map (map.ids last)).1 (map.ids last) := by
  have inside : last < map.nCmdNs := by omega
  have place : xrpFindCmdNs map (map.ids last) = last :=
    belongs_found map.ids map.nCmdNs _ _ (find_belongs map sound _) last inside rfl sound.sorted
  have present : (cmdNsPresent map last && xrpCmdNsMatch map (map.ids last) last) = true := by
    rw [Bool.and_eq_true, match_iff map sound]
    exact ⟨decide_eq_true inside, rfl⟩
  have cells : ∀ spot ≤ last, (removeCmdNs map last).ids spot = map.ids spot := fun spot small => by
    rw [XrpCmdNsMap.ids, removeCmdNs]
    simp only [shiftDown, if_neg (show ¬ (last ≤ spot ∧ spot + 1 < map.nCmdNs) by omega)]
    rfl
  have left : (removeCmdNs map last).nCmdNs = last := by simp [removeCmdNs, count]
  simp only [xrpUnregisterNamespace, place, present, if_true, Stale, left]
  exact ⟨fun spot small => cells spot (by omega) ▸ sound.sorted spot last small inside, cells last (Nat.le_refl last)⟩

end Map

end CsiDsp
