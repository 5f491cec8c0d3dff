import Mathlib.Data.Finset.Card

set_option autoImplicit false

-- A pool of items, each of which is held by one user.
namespace Holders

variable {User Item : Type} [DecidableEq Item]

structure Held (users : Finset User) (item : User → Item) (pool : Finset Item) : Prop where
  all : pool = users.image item
  alone : Set.InjOn item users

theorem held_empty (item : User → Item) : Held ∅ item ∅ := by
  refine ⟨rfl, ?_⟩
  rw [Finset.coe_empty]
  exact Set.injOn_empty item

section Held

variable (users : Finset User) (item : User → Item) (pool : Finset Item)

theorem held_card (held : Held users item pool) : pool.card = users.card := by
  rw [held.all]
  exact Finset.card_image_of_injOn held.alone

theorem held_mem (held : Held users item pool) (user : User) (member : user ∈ users) : item user ∈ pool := by
  rw [held.all]
  exact Finset.mem_image_of_mem item member

theorem held_congr (other : User → Item) (held : Held users item pool) (same : ∀ user ∈ users, other user = item user) :
    Held users other pool := by
  constructor
  · rw [held.all]
    exact Finset.image_congr fun user member => (same user member).symm
  · intro one first two second equal
    rw [same one first, same two second] at equal
    exact held.alone first second equal

variable [DecidableEq User]

theorem held_take (user : User) (new : Item) (held : Held users item pool) (fresh : user ∉ users) (free : new ∉ pool) :
    Held (insert user users) (Function.update item user new) (insert new pool) := by
  have kept : Held users (Function.update item user new) pool := by
    refine held_congr users item pool _ held fun other member => ?_
    exact Function.update_of_ne (ne_of_mem_of_not_mem member fresh) new item
  constructor
  · rw [Finset.image_insert, Function.update_self, kept.all]
  · rw [Finset.coe_insert]
    refine (Set.injOn_insert fresh).mpr ⟨kept.alone, ?_⟩
    rw [Function.update_self]
    rintro ⟨other, member, same⟩
    have inside := held_mem users _ pool kept other member
    rw [same] at inside
    exact free inside

theorem held_return (user : User) (held : Held users item pool) (member : user ∈ users) :
    Held (users.erase user) item (pool.erase (item user)) := by
  constructor
  · rw [held.all]
    ext other
    rw [Finset.mem_erase, Finset.mem_image, Finset.mem_image]
    constructor
    · rintro ⟨apart, one, inside, rfl⟩
      exact ⟨one, Finset.mem_erase.mpr ⟨fun same => apart (congrArg item same), inside⟩, rfl⟩
    · rintro ⟨one, inside, rfl⟩
      obtain ⟨apart, inside⟩ := Finset.mem_erase.mp inside
      exact ⟨fun same => apart (held.alone inside member same), one, inside, rfl⟩
  · exact held.alone.mono (Finset.coe_subset.mpr (Finset.erase_subset user users))

end Held

end Holders
