import Mathlib.Data.Nat.Basic
import Mathlib.Tactic.Attr.Core

set_option autoImplicit false

namespace CsiDsp

-- idma_max_block_t: blocks of 32, 64, 128 and 256 bytes.
inductive IdmaMaxBlock where
  | block2
  | block4
  | block8
  | block16
deriving DecidableEq, Repr

def IdmaMaxBlock.code : IdmaMaxBlock → Nat
  | .block2 => 0
  | .block4 => 1
  | .block8 => 2
  | .block16 => 3

inductive TmDmaDirection where
  | dirIn
  | dirOut
deriving DecidableEq, Repr

-- ialign, the size of the largest block.
def blockAlign (block : IdmaMaxBlock) : BitVec 32 := 1#32 <<< (block.code + 5)

def localAlign (block : IdmaMaxBlock) : BitVec 32 := if blockAlign block < 64 then blockAlign block else 64

-- The first i with numBytesPerRow >> i = 0, where the loop breaks.
def rowShift (numBytesPerRow : BitVec 32) : Nat := ((List.range' 1 5).find? fun i => numBytesPerRow >>> i == 0).getD 6

-- idma_block_index and the arguments that are looked at. Both branches for the
-- direction test the source twice, as they are written.
def alignCheck (block : IdmaMaxBlock) (dst src : BitVec 64) (numBytesPerRow : BitVec 32) (direction : TmDmaDirection) : Bool :=
  let src32 := src.setWidth 32
  let dst32 := dst.setWidth 32
  if numBytesPerRow ≤ 16 then
    1#32 <<< rowShift numBytesPerRow == numBytesPerRow && (src32 &&& 0x0F == 0 && dst32 &&& 0x0F == 0)
  else
    numBytesPerRow &&& ~~~blockAlign block == 0 &&
      match direction with
      | .dirIn => src32 &&& ~~~blockAlign block == 0 && src32 &&& ~~~localAlign block == 0
      | .dirOut => src32 &&& ~~~blockAlign block == 0 && src32 &&& ~~~localAlign block == 0

-- The alignment of the row length, of the system memory and of the local memory.
def getAlignment (block : IdmaMaxBlock) (numBytesPerRow : BitVec 32) : BitVec 32 × BitVec 32 × BitVec 32 :=
  if numBytesPerRow ≤ 16 then (1, 16, 16) else (blockAlign block, blockAlign block, localAlign block)

def externalAddr (dst src : BitVec 64) : TmDmaDirection → BitVec 64
  | .dirIn => src
  | .dirOut => dst

def localAddr (dst src : BitVec 64) : TmDmaDirection → BitVec 64
  | .dirIn => dst
  | .dirOut => src

-- The constraints of the comment in align_check.
def DmaRule (block : IdmaMaxBlock) (dst src : BitVec 64) (numBytesPerRow : BitVec 32) (direction : TmDmaDirection) : Prop :=
  let bytes := numBytesPerRow.toNat
  if bytes ≤ 16 then
    bytes ∈ [1, 2, 4, 8, 16] ∧ src.toNat % 16 = dst.toNat % 16 ∧ bytes ∣ src.toNat ∧ bytes ∣ dst.toNat
  else ∃ size ∈ [32, 64, 128, 256], size ≤ (blockAlign block).toNat ∧ size ∣ bytes ∧
    size ∣ (externalAddr dst src direction).toNat ∧ min 64 size ∣ (localAddr dst src direction).toNat

-- A row whose length and addresses are what get_alignment asks for.
def AlignedRow (block : IdmaMaxBlock) (dst src : BitVec 64) (numBytesPerRow : BitVec 32) (direction : TmDmaDirection) : Prop :=
  let (rowByteAlign, sysMemAlign, sMemAlign) := getAlignment block numBytesPerRow
  16 < numBytesPerRow.toNat ∧ rowByteAlign.toNat ∣ numBytesPerRow.toNat ∧
    sysMemAlign.toNat ∣ (externalAddr dst src direction).toNat ∧ sMemAlign.toNat ∣ (localAddr dst src direction).toNat

structure AlignDecided (block : IdmaMaxBlock) (dst src : BitVec 64) (numBytesPerRow : BitVec 32) (direction : TmDmaDirection) : Prop where
  rule : alignCheck block dst src numBytesPerRow direction = true ↔ DmaRule block dst src numBytesPerRow direction
  aligned : AlignedRow block dst src numBytesPerRow direction → alignCheck block dst src numBytesPerRow direction = true

-- What the masks let through: one row length, and a source at the bottom of its
-- 32-bit half.
def Unmasked (block : IdmaMaxBlock) (src : BitVec 64) (numBytesPerRow : BitVec 32) : Prop :=
  numBytesPerRow = blockAlign block ∧
    (src.setWidth 32 = 0 ∨ blockAlign block ≤ 64 ∧ src.setWidth 32 = blockAlign block)

theorem masked_single (word : BitVec 32) (bit : Nat) :
    word &&& ~~~BitVec.twoPow 32 bit = 0 ↔ word = 0 ∨ word = BitVec.twoPow 32 bit := by
  constructor
  · intro masked
    have clear (other : Nat) (inside : other < 32) (apart : other ≠ bit) : word.getLsbD other = false := by
      have cleared := congrArg (fun value => value.getLsbD other) masked
      simpa [inside, apart, apart.symm] using cleared
    by_cases set : word.getLsbD bit = true
    · refine .inr (BitVec.eq_of_getLsbD_eq fun other inside => ?_)
      by_cases same : other = bit
      · rw [same] at inside ⊢
        simp [set, inside]
      · simp [clear other inside same, Ne.symm same]
    · refine .inl (BitVec.eq_of_getLsbD_eq fun other inside => ?_)
      by_cases same : other = bit
      · rw [same]
        simpa using set
      · simp [clear other inside same]
  · rintro (rfl | rfl)
    · exact BitVec.zero_and
    · exact BitVec.and_not_self _

section Rows

variable (block : IdmaMaxBlock) (dst src : BitVec 64) (numBytesPerRow : BitVec 32) (direction : TmDmaDirection)

-- 1 << i is twice the row length where the row length is a power of two.
theorem short_rows_refused (short : numBytesPerRow ≤ 16) : 1#32 <<< rowShift numBytesPerRow ≠ numBytesPerRow := by
  have every : ∀ length : Fin 17, 1#32 <<< rowShift (BitVec.ofNat 32 length.val) ≠ BitVec.ofNat 32 length.val := by decide
  have bound : numBytesPerRow.toNat < 17 := Nat.lt_succ_of_le short
  have same := every ⟨numBytesPerRow.toNat, bound⟩
  rwa [BitVec.ofNat_toNat, BitVec.setWidth_eq] at same

theorem masked_block (word : BitVec 32) : word &&& ~~~blockAlign block = 0 ↔ word = 0 ∨ word = blockAlign block :=
  masked_single word (block.code + 5)

-- The two masks of an address let the same values through, up to 64 bytes.
theorem masked_source (word : BitVec 32) :
    (word &&& ~~~blockAlign block = 0 ∧ word &&& ~~~localAlign block = 0) ↔
      word = 0 ∨ blockAlign block ≤ 64 ∧ word = blockAlign block := by
  by_cases narrow : blockAlign block ≤ 64
  · have same : localAlign block = blockAlign block := by
      cases block with
      | block2 | block4 => decide
      | block8 | block16 => exact absurd narrow (by decide)
    rw [same, and_self, masked_block, and_iff_right narrow]
  · have local_ : localAlign block = BitVec.twoPow 32 6 := by
      cases block with
      | block2 | block4 => exact absurd (by decide) narrow
      | block8 | block16 => decide
    have apart : blockAlign block ≠ BitVec.twoPow 32 6 := by
      rintro same
      exact narrow (same ▸ by decide)
    rw [local_, masked_block, masked_single]
    constructor
    · rintro ⟨zero | wide, zero' | short⟩
      · exact .inl zero
      · exact .inl zero
      · exact .inl zero'
      · exact absurd (wide.symm.trans short) apart
    · rintro (zero | ⟨small, -⟩)
      · exact ⟨.inl zero, .inl zero⟩
      · exact absurd small narrow

theorem block_bounds : 16 < (blockAlign block).toNat ∧ 32 ∣ (blockAlign block).toNat ∧ (blockAlign block).toNat ∣ 256 := by
  cases block <;> decide

theorem align_check_iff : alignCheck block dst src numBytesPerRow direction = true ↔ Unmasked block src numBytesPerRow := by
  have bounds := block_bounds block
  by_cases short : numBytesPerRow ≤ 16
  · have refused := short_rows_refused numBytesPerRow short
    have rejected : alignCheck block dst src numBytesPerRow direction = false := by
      simp only [alignCheck, if_pos short, beq_eq_false_iff_ne.mpr refused, Bool.false_and]
    rw [rejected]
    refine iff_of_false Bool.false_ne_true fun unmasked => ?_
    have small : numBytesPerRow.toNat ≤ 16 := short
    rw [unmasked.1] at small
    omega
  · have nonzero : numBytesPerRow ≠ 0 := by
      rintro rfl
      exact short (by decide)
    have tests : alignCheck block dst src numBytesPerRow direction = true ↔ numBytesPerRow &&& ~~~blockAlign block = 0 ∧
        src.setWidth 32 &&& ~~~blockAlign block = 0 ∧ src.setWidth 32 &&& ~~~localAlign block = 0 := by
      cases direction <;> simp only [alignCheck, if_neg short, Bool.and_eq_true, beq_iff_eq]
    rw [tests, masked_block, masked_source, or_iff_right nonzero]
    rfl

theorem unmasked_source (unmasked : Unmasked block src numBytesPerRow) : 32 ∣ src.toNat := by
  have low : src.toNat % 4294967296 = (src.setWidth 32).toNat := (BitVec.toNat_setWidth 32 src).symm
  obtain ⟨-, zero | ⟨-, same⟩⟩ := unmasked
  · rw [zero] at low
    exact Nat.dvd_of_mod_eq_zero (by have none_ : (0 : BitVec 32).toNat = 0 := rfl; omega)
  · rw [same] at low
    obtain ⟨-, divides, -⟩ := block_bounds block
    omega

-- An accepted row has the length of a block, so that the smallest block decides.
theorem unmasked_rule (unmasked : Unmasked block src numBytesPerRow) :
    DmaRule block dst src numBytesPerRow direction ↔ 32 ∣ dst.toNat := by
  obtain ⟨large, divides, -⟩ := block_bounds block
  have source := unmasked_source block src numBytesPerRow unmasked
  rw [DmaRule, unmasked.1]
  rw [if_neg (by omega)]
  constructor
  · rintro ⟨size, member, -, -, external, local_⟩
    have least : 32 ∣ size ∧ 32 ∣ min 64 size := by
      simp only [List.mem_cons, List.not_mem_nil, or_false] at member
      rcases member with rfl | rfl | rfl | rfl <;> decide
    cases direction with
    | dirIn => exact Nat.dvd_trans least.2 local_
    | dirOut => exact Nat.dvd_trans least.1 external
  · intro aligned
    refine ⟨32, by decide, Nat.le_of_dvd (by omega) divides, divides, ?_⟩
    cases direction with
    | dirIn => exact ⟨source, aligned⟩
    | dirOut => exact ⟨aligned, source⟩

theorem aligned_row_rule (aligned : AlignedRow block dst src numBytesPerRow direction) :
    DmaRule block dst src numBytesPerRow direction := by
  have long : ¬ numBytesPerRow ≤ 16 := by
    rw [AlignedRow] at aligned
    exact fun short => Nat.not_lt_of_ge short aligned.1
  rw [AlignedRow, getAlignment, if_neg long] at aligned
  obtain ⟨more, row, external, local_⟩ := aligned
  rw [DmaRule, if_neg (Nat.not_le_of_gt more)]
  refine ⟨(blockAlign block).toNat, by cases block <;> decide, Nat.le_refl _, row, external, ?_⟩
  have smaller : min 64 (blockAlign block).toNat = (localAlign block).toNat := by cases block <;> decide
  rw [smaller]
  exact local_

-- The check decides the rule for a row of one block from the bottom of a 32-bit
-- half if and only if the destination is aligned, and else if and only if the
-- rule is broken.
theorem align_check_decides : AlignDecided block dst src numBytesPerRow direction ↔
    (Unmasked block src numBytesPerRow ∧ 32 ∣ dst.toNat ∨
      ¬ Unmasked block src numBytesPerRow ∧ ¬ DmaRule block dst src numBytesPerRow direction) := by
  have decided : AlignDecided block dst src numBytesPerRow direction ↔
      (Unmasked block src numBytesPerRow ↔ DmaRule block dst src numBytesPerRow direction) := by
    rw [← align_check_iff block dst src numBytesPerRow direction]
    exact ⟨AlignDecided.rule, fun rule => ⟨rule, fun aligned => rule.mpr (aligned_row_rule block dst src numBytesPerRow direction aligned)⟩⟩
  rw [decided]
  refine Iff.trans iff_iff_and_or_not_and_not (or_congr (and_congr_right fun unmasked => ?_) Iff.rfl)
  exact unmasked_rule block dst src numBytesPerRow direction unmasked

end Rows

-- Two blocks of 256 bytes between aligned addresses are refused.
theorem aligned_rows_refused : ¬ ∀ (block : IdmaMaxBlock) (dst src : BitVec 64) (numBytesPerRow : BitVec 32)
    (direction : TmDmaDirection), AlignDecided block dst src numBytesPerRow direction := by
  intro claim
  exact absurd ((claim .block16 0x3ffc0000 0x40000000 512 .dirIn).aligned (by
    refine ⟨by decide, ?_, ?_, ?_⟩ <;> decide)) (by decide)

end CsiDsp
