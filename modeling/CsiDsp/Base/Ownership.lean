set_option autoImplicit false

-- Blocks of memory that belong to several parties, each block to one party.
namespace Ownership

variable {Block Party : Type}

def Owned (live : Block → Bool) (own : Party → List Block) : Prop :=
  ∀ party block, block ∈ own party → live block = true ∧ ∀ other, other ≠ party → block ∉ own other

-- What one party may do: it takes blocks that were not in use and gives back
-- blocks of its own.
structure Works (party : Party) (live live' : Block → Bool) (own own' : Party → List Block) : Prop where
  others : ∀ other, other ≠ party → own' other = own other
  taken : ∀ block ∈ own' party, block ∈ own party ∨ live block = false
  alive : ∀ block ∈ own' party, live' block = true
  kept : ∀ block, live block = true → block ∉ own party → live' block = true

theorem owned_works (party : Party) (live live' : Block → Bool) (own own' : Party → List Block) (owned : Owned live own)
    (works : Works party live live' own own') : Owned live' own' := by
  -- Nobody else has a block that the party holds afterwards.
  have apart : ∀ block ∈ own' party, ∀ other, other ≠ party → block ∉ own other := by
    intro block member other different held
    rcases works.taken block member with before | free
    · exact (owned party block before).2 other different held
    · exact absurd (owned other block held).1 (by simp [free])
  intro holder block member
  by_cases same : holder = party
  · subst same
    refine ⟨works.alive block member, fun other different => ?_⟩
    rw [works.others other different]
    exact apart block member other different
  · rw [works.others holder same] at member
    obtain ⟨alive, alone⟩ := owned holder block member
    refine ⟨works.kept block alive fun held => (owned party block held).2 holder same member, fun other different => ?_⟩
    by_cases isParty : other = party
    · subst isParty
      exact fun held => apart block held holder same member
    · rw [works.others other isParty]
      exact alone other different

end Ownership
