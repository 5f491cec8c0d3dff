import Mathlib.Data.List.Induction
import Mathlib.Data.List.Nodup
import Mathlib.Logic.Function.Basic

set_option autoImplicit false

-- Singly linked lists that are changed through the pointers of their nodes.
namespace Segment

variable {Node : Type}

-- The nodes met from a pointer on, and the pointer behind the last of them.
def Path (next : Node → Option Node) : Option Node → List Node → Option Node → Prop
  | start, [], stop => start = stop
  | start, node :: rest, stop => start = some node ∧ Path next (next node) rest stop

variable (next : Node → Option Node)

theorem path_append (start stop : Option Node) (first second : List Node) :
    Path next start (first ++ second) stop ↔ ∃ middle, Path next start first middle ∧ Path next middle second stop := by
  induction first generalizing start with
  | nil => exact ⟨fun path => ⟨start, rfl, path⟩, fun ⟨_, same, path⟩ => same ▸ path⟩
  | cons node rest ih =>
      constructor
      · rintro ⟨here, later⟩
        obtain ⟨middle, before, after⟩ := (ih _).mp later
        exact ⟨middle, ⟨here, before⟩, after⟩
      · rintro ⟨middle, ⟨here, before⟩, after⟩
        exact ⟨here, (ih _).mpr ⟨middle, before, after⟩⟩

theorem path_frame (other : Node → Option Node) (start stop : Option Node) (nodes : List Node)
    (same : ∀ node ∈ nodes, other node = next node) (path : Path next start nodes stop) : Path other start nodes stop := by
  induction nodes generalizing start with
  | nil => exact path
  | cons node rest ih =>
      refine ⟨path.1, ?_⟩
      rw [same node List.mem_cons_self]
      exact ih _ (fun later member => same later (List.mem_cons_of_mem node member)) path.2

-- The last node of a list that hangs on a head.
def lastNode (head : Node) (nodes : List Node) : Node := nodes.getLastD head

@[simp] theorem last_nil (head : Node) : lastNode head [] = head := rfl

@[simp] theorem last_cons (head node : Node) (nodes : List Node) : lastNode head (node :: nodes) = lastNode node nodes := List.getLastD_cons

@[simp] theorem last_append (head node : Node) (nodes : List Node) : lastNode head (nodes ++ [node]) = node := by
  simp [lastNode]

theorem last_mem (head : Node) (nodes : List Node) : lastNode head nodes ∈ head :: nodes := by
  induction nodes using List.reverseRecOn with
  | nil => exact List.mem_cons_self
  | append_singleton nodes node ih => simp

theorem path_last (head : Node) (nodes : List Node) (stop : Option Node) (path : Path next (next head) nodes stop) :
    next (lastNode head nodes) = stop := by
  induction nodes using List.reverseRecOn with
  | nil => exact path
  | append_singleton nodes node ih =>
      obtain ⟨middle, -, here, same⟩ := (path_append next _ _ _ _).mp path
      rw [last_append]
      exact same

variable [DecidableEq Node]

theorem path_update (node : Node) (other start stop : Option Node) (nodes : List Node) (apart : node ∉ nodes)
    (path : Path next start nodes stop) : Path (Function.update next node other) start nodes stop :=
  path_frame next _ start stop nodes (fun _ member => Function.update_of_ne (ne_of_mem_of_not_mem member apart) _ _) path

-- The same for a list that hangs on a head.
theorem hung_update (node head : Node) (other stop : Option Node) (nodes : List Node) (apart : node ∉ head :: nodes)
    (path : Path next (next head) nodes stop) :
    Path (Function.update next node other) (Function.update next node other head) nodes stop := by
  rw [Function.update_of_ne (ne_of_mem_of_not_mem List.mem_cons_self apart)]
  exact path_update next node other _ stop nodes (fun member => apart (List.mem_cons_of_mem head member)) path

-- Where the pointer of the last node is redirected, the list ends in the new place.
theorem path_redirect (head : Node) (nodes : List Node) (stop other : Option Node) (distinct : (head :: nodes).Nodup)
    (path : Path next (next head) nodes stop) :
    Path (Function.update next (lastNode head nodes) other) (Function.update next (lastNode head nodes) other head) nodes other := by
  induction nodes using List.reverseRecOn with
  | nil => exact Function.update_self _ _ _
  | append_singleton nodes node ih =>
      obtain ⟨middle, before, here, -⟩ := (path_append next _ _ _ _).mp path
      rw [← List.cons_append, List.nodup_append] at distinct
      have apart : ∀ other ∈ head :: nodes, other ≠ node := fun other member => distinct.2.2 other member node (by simp)
      have kept : ∀ start ∈ head :: nodes, Function.update next node other start = next start :=
        fun start member => Function.update_of_ne (apart start member) _ _
      rw [last_append, path_append]
      refine ⟨some node, ?_, rfl, Function.update_self _ _ _⟩
      rw [kept head List.mem_cons_self]
      subst here
      exact path_frame next _ _ _ nodes (fun later member => kept later (List.mem_cons_of_mem head member)) before

-- A node is taken out of a list, or put into it, behind the last node of its first part.
theorem path_unlink (head node : Node) (before after : List Node) (stop : Option Node)
    (distinct : (head :: (before ++ node :: after)).Nodup) (path : Path next (next head) (before ++ node :: after) stop) :
    Path (Function.update next (lastNode head before) (next node))
      (Function.update next (lastNode head before) (next node) head) (before ++ after) stop := by
  obtain ⟨middle, first, here, second⟩ := (path_append next _ _ _ _).mp path
  rw [← List.cons_append, List.nodup_append] at distinct
  refine (path_append _ _ _ _ _).mpr ⟨next node, path_redirect next head before middle _ distinct.1 first, ?_⟩
  refine path_frame next _ _ _ after (fun later member => Function.update_of_ne ?_ _ _) second
  exact (distinct.2.2 _ (last_mem head before) later (List.mem_cons_of_mem node member)).symm

theorem path_link (head node : Node) (before after : List Node) (stop : Option Node)
    (distinct : (head :: (before ++ after)).Nodup) (fresh : node ∉ head :: (before ++ after))
    (points : next node = next (lastNode head before)) (path : Path next (next head) (before ++ after) stop) :
    Path (Function.update next (lastNode head before) (some node))
      (Function.update next (lastNode head before) (some node) head) (before ++ node :: after) stop := by
  obtain ⟨middle, first, second⟩ := (path_append next _ _ _ _).mp path
  rw [← List.cons_append, List.nodup_append] at distinct
  have last := path_last next head before middle first
  have apart : node ≠ lastNode head before := fun same => fresh <| by
    rw [← List.cons_append, same]
    exact List.mem_append_left after (last_mem head before)
  refine (path_append _ _ _ _ _).mpr ⟨some node, path_redirect next head before middle _ distinct.1 first, rfl, ?_⟩
  rw [Function.update_of_ne apart, points, last]
  refine path_frame next _ _ _ after (fun later member => Function.update_of_ne ?_ _ _) second
  exact (distinct.2.2 _ (last_mem head before) later member).symm

-- Another node takes the place of a node, and its pointer.
theorem path_replace (head node other : Node) (before after : List Node) (stop : Option Node)
    (distinct : (head :: (before ++ node :: after)).Nodup) (fresh : other ∉ head :: (before ++ after))
    (path : Path next (next head) (before ++ node :: after) stop) :
    Path (Function.update (Function.update next other (next node)) (lastNode head before) (some other))
      (Function.update (Function.update next other (next node)) (lastNode head before) (some other) head)
      (before ++ other :: after) stop := by
  have gone := path_unlink next head node before after stop distinct path
  have fewer : (head :: (before ++ after)).Nodup :=
    distinct.sublist (((List.Sublist.refl before).append (List.sublist_cons_self node after)).cons_cons head)
  have last : lastNode head before ∈ head :: (before ++ after) := by
    rw [← List.cons_append]
    exact List.mem_append_left after (last_mem head before)
  have apart : other ≠ lastNode head before := fun same => fresh (same ▸ last)
  have placed := hung_update _ other head (next node) stop (before ++ after) fresh gone
  have linked := path_link _ head other before after stop fewer fresh
    (by rw [Function.update_self, Function.update_of_ne apart.symm, Function.update_self]) placed
  rw [Function.update_comm apart.symm, Function.update_idem] at linked
  exact linked

-- A node is put in front of a list.
theorem path_push (head node : Node) (nodes : List Node) (stop : Option Node) (distinct : (head :: nodes).Nodup)
    (fresh : node ∉ head :: nodes) (path : Path next (next head) nodes stop) :
    Path (Function.update (Function.update next node (next head)) head (some node))
      (Function.update (Function.update next node (next head)) head (some node) head) (node :: nodes) stop := by
  have apart : node ≠ head := fun same => fresh (same ▸ List.mem_cons_self)
  have placed := hung_update next node head (next head) stop nodes fresh path
  exact path_link _ head node [] nodes stop distinct fresh
    (by rw [Function.update_self, last_nil, Function.update_of_ne apart.symm]) placed

end Segment
