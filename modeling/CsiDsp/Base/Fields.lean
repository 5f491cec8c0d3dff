import Mathlib.Algebra.Group.Nat.Defs
import Mathlib.Data.List.Basic
import Mathlib.Logic.Function.Basic

set_option autoImplicit false

-- The fields of a structure in a memory of bytes, the least significant byte first.
namespace Fields

structure Field where
  offset : Nat
  width : Nat
deriving DecidableEq, Repr

def Apart (one other : Field) : Prop := one.offset + one.width ≤ other.offset ∨ other.offset + other.width ≤ one.offset

instance (one other : Field) : Decidable (Apart one other) := inferInstanceAs (Decidable (_ ∨ _))

def loadBytes (memory : Nat → UInt8) : Nat → Nat → Nat
  | _, 0 => 0
  | place, width + 1 => (memory place).toNat + 256 * loadBytes memory (place + 1) width

def storeBytes : (Nat → UInt8) → Nat → Nat → Nat → (Nat → UInt8)
  | memory, _, _, 0 => memory
  | memory, place, value, width + 1 => storeBytes (Function.update memory place (UInt8.ofNat value)) (place + 1) (value / 256) width

def Field.read (field : Field) (memory : Nat → UInt8) : Nat := loadBytes memory field.offset field.width

def Field.write (field : Field) (value : Nat) (memory : Nat → UInt8) : Nat → UInt8 := storeBytes memory field.offset value field.width

-- The assignments of a run of code, the first one first.
def writeFields : List (Field × Nat) → (Nat → UInt8) → (Nat → UInt8)
  | [], memory => memory
  | (field, value) :: rest, memory => writeFields rest (field.write value memory)

theorem store_outside (memory : Nat → UInt8) (place value width other : Nat) (outside : other < place ∨ place + width ≤ other) :
    storeBytes memory place value width other = memory other := by
  induction width generalizing memory place value with
  | zero => rfl
  | succ width ih =>
      rw [storeBytes, ih _ (place + 1) _ (by omega), Function.update_of_ne (by omega)]

theorem load_congr (memory other : Nat → UInt8) (place width : Nat)
    (same : ∀ index, place ≤ index → index < place + width → memory index = other index) :
    loadBytes memory place width = loadBytes other place width := by
  induction width generalizing place with
  | zero => rfl
  | succ width ih =>
      rw [loadBytes, loadBytes, same place (by omega) (by omega), ih (place + 1) fun index low high => same index (by omega) (by omega)]

theorem load_store (memory : Nat → UInt8) (place value width : Nat) :
    loadBytes (storeBytes memory place value width) place width = value % 256 ^ width := by
  induction width generalizing memory place value with
  | zero => rw [Nat.pow_zero, Nat.mod_one, loadBytes]
  | succ width ih =>
      have first : storeBytes (Function.update memory place (UInt8.ofNat value)) (place + 1) (value / 256) width place =
          UInt8.ofNat value := by
        rw [store_outside _ _ _ _ _ (by omega), Function.update_self]
      have digits : value % 256 ^ (width + 1) = value % 256 + 256 * (value / 256 % 256 ^ width) := by
        rw [Nat.pow_succ']
        exact Nat.mod_mul
      rw [storeBytes, loadBytes, first, ih, UInt8.toNat_ofNat', digits]

theorem load_lt (memory : Nat → UInt8) (place width : Nat) : loadBytes memory place width < 256 ^ width := by
  induction width generalizing place with
  | zero => exact Nat.one_pos
  | succ width ih =>
      have byte := (memory place).toNat_lt
      have rest := ih (place + 1)
      rw [loadBytes, Nat.pow_succ']
      omega

section Field

variable (field other : Field) (value : Nat) (memory : Nat → UInt8)

theorem read_lt : field.read memory < 256 ^ field.width := load_lt memory field.offset field.width

theorem read_write_same : field.read (field.write value memory) = value % 256 ^ field.width :=
  load_store memory field.offset value field.width

theorem read_write_apart (apart : Apart field other) : field.read (other.write value memory) = field.read memory := by
  refine load_congr _ _ _ _ fun index low high => store_outside _ _ _ _ _ ?_
  rcases apart with before | after
  · exact .inl (by omega)
  · exact .inr (by omega)

theorem read_fields_apart (fields : List (Field × Nat)) (apart : ∀ written ∈ fields, Apart field written.1) :
    field.read (writeFields fields memory) = field.read memory := by
  induction fields generalizing memory with
  | nil => rfl
  | cons written rest ih =>
      rw [writeFields, ih _ fun later member => apart later (List.mem_cons_of_mem _ member)]
      exact read_write_apart field written.1 written.2 memory (apart written List.mem_cons_self)

-- A field that nothing overlaps holds what it has been given.
theorem read_fields_member (fields : List (Field × Nat))
    (apart : fields.Pairwise fun earlier later => Apart earlier.1 later.1) (member : (field, value) ∈ fields) :
    field.read (writeFields fields memory) = value % 256 ^ field.width := by
  induction fields generalizing memory with
  | nil => cases member
  | cons written rest ih =>
      obtain ⟨first, others⟩ := List.pairwise_cons.mp apart
      rcases List.mem_cons.mp member with rfl | later
      · rw [writeFields, read_fields_apart field _ rest first, read_write_same]
      · exact ih _ others later

end Field

end Fields
