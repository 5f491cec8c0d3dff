import Mathlib.Data.List.Nodup

set_option autoImplicit false

-- Chains of nodes in which every node carries the link to the one after it.
namespace Chain

variable {Node End : Type}

inductive Link (Node End : Type) where
  | node (name : Node)
  | last (stop : End)
deriving DecidableEq, Repr

-- The nodes met from a link on and what stands at the end; none when the fuel
-- runs out before the end.
def walk (next : Node → Link Node End) : Nat → Link Node End → Option (List Node × End)
  | _, .last stop => some ([], stop)
  | 0, .node _ => none
  | fuel + 1, .node name => (walk next fuel (next name)).map fun found => (name :: found.1, found.2)

inductive Chained (next : Node → Link Node End) : Link Node End → List Node → End → Prop where
  | last (stop : End) : Chained next (.last stop) [] stop
  | node (name : Node) (rest : List Node) (stop : End) (tail : Chained next (next name) rest stop) :
      Chained next (.node name) (name :: rest) stop

section Chained

variable (next : Node → Link Node End) (start : Link Node End) (nodes : List Node) (stop : End)

theorem walk_of_chained (chained : Chained next start nodes stop) (fuel : Nat) (enough : nodes.length ≤ fuel) :
    walk next fuel start = some (nodes, stop) := by
  induction chained generalizing fuel with
  | last stop => cases fuel <;> rfl
  | node name rest stop _ ih =>
      cases fuel with
      | zero => exact absurd enough (by simp)
      | succ fuel => simp [walk, ih fuel (by simpa using enough)]

theorem chained_of_walk (fuel : Nat) (found : walk next fuel start = some (nodes, stop)) :
    Chained next start nodes stop := by
  induction fuel generalizing start nodes with
  | zero =>
      cases start with
      | node name => cases found
      | last other =>
          cases found
          exact .last stop
  | succ fuel ih =>
      cases start with
      | last other =>
          cases found
          exact .last stop
      | node name =>
          simp only [walk, Option.map_eq_some_iff] at found
          obtain ⟨⟨rest, last⟩, tail, same⟩ := found
          obtain ⟨rfl, rfl⟩ := Prod.mk.inj same
          exact .node name rest _ (ih (next name) rest tail)

-- A walk that stays among safe nodes looks at the links of safe nodes only.
theorem walk_safe (other : Node → Link Node End) (safe : Node → Prop) (same : ∀ name, safe name → other name = next name)
    (stays : ∀ name follow, safe name → next name = .node follow → safe follow) (begins : ∀ name, start = .node name → safe name)
    (fuel : Nat) : walk other fuel start = walk next fuel start := by
  induction fuel generalizing start with
  | zero => cases start <;> rfl
  | succ fuel ih =>
      cases start with
      | last stop => rfl
      | node name =>
          have here := begins name rfl
          rw [walk, walk, same name here, ih (next name) fun follow link => stays name follow here link]

theorem chained_safe (safe : Node → Prop) (stays : ∀ name follow, safe name → next name = .node follow → safe follow)
    (begins : ∀ name, start = .node name → safe name) (chained : Chained next start nodes stop) : ∀ name ∈ nodes, safe name := by
  induction chained with
  | last stop => exact fun name member => absurd member List.not_mem_nil
  | node name rest stop _ ih =>
      have here := begins name rfl
      intro other member
      rcases List.mem_cons.mp member with same | later
      · exact same ▸ here
      · exact ih (fun follow link => stays name follow here link) other later

theorem chained_unique (others : List Node) (otherStop : End) (chained : Chained next start nodes stop)
    (other : Chained next start others otherStop) : nodes = others ∧ stop = otherStop := by
  induction chained generalizing others with
  | last stop =>
      cases other
      exact ⟨rfl, rfl⟩
  | node name rest stop _ ih =>
      cases other with
      | node _ otherRest _ tail =>
          obtain ⟨rfl, rfl⟩ := ih otherRest tail
          exact ⟨rfl, rfl⟩

theorem chained_suffix (chained : Chained next start nodes stop) (name : Node) (member : name ∈ nodes) :
    ∃ before after, nodes = before ++ name :: after ∧ Chained next (next name) after stop := by
  induction chained with
  | last stop => cases member
  | node head rest stop tail ih =>
      rcases List.mem_cons.mp member with rfl | later
      · exact ⟨[], rest, rfl, tail⟩
      · obtain ⟨before, after, split, found⟩ := ih later
        exact ⟨head :: before, after, by rw [split, List.cons_append], found⟩

theorem chained_nodup (chained : Chained next start nodes stop) : nodes.Nodup := by
  induction chained with
  | last stop => exact List.nodup_nil
  | node name rest stop tail ih =>
      refine List.nodup_cons.mpr ⟨fun again => ?_, ih⟩
      obtain ⟨before, after, split, found⟩ := chained_suffix next (next name) rest stop tail name again
      have same := (chained_unique next (next name) rest stop after stop tail found).1
      have lengths := congrArg List.length split
      rw [same, List.length_append, List.length_cons] at lengths
      omega

theorem chained_frame (other : Node → Link Node End) (same : ∀ name ∈ nodes, other name = next name)
    (chained : Chained next start nodes stop) : Chained other start nodes stop := by
  induction chained with
  | last stop => exact .last stop
  | node name rest stop _ ih =>
      refine .node name rest stop ?_
      rw [same name List.mem_cons_self]
      exact ih fun later member => same later (List.mem_cons_of_mem name member)

end Chained

end Chain
