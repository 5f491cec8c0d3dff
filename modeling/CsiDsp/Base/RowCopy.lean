import Mathlib.Logic.Basic

set_option autoImplicit false

-- Copies of rows in a memory of bytes.
namespace RowCopy

abbrev Memory := Nat → UInt8

def copyBlock (mem : Memory) (dst src len : Nat) : Memory :=
  fun addr => if dst ≤ addr ∧ addr < dst + len then mem (src + (addr - dst)) else mem addr

def copyRows (mem : Memory) (dst src : Nat → Nat) (len : Nat) : Nat → Memory
  | 0 => mem
  | rows + 1 => copyBlock (copyRows mem dst src len rows) (dst rows) (src rows) len

section Rows

variable (mem : Memory) (dst src : Nat → Nat) (len : Nat)

theorem copy_block_outside (start from_ addr : Nat) (outside : addr < start ∨ start + len ≤ addr) :
    copyBlock mem start from_ len addr = mem addr := by
  rw [copyBlock, if_neg (by omega)]

theorem copy_block_empty (start from_ : Nat) : copyBlock mem start from_ 0 = mem := by
  funext addr
  exact copy_block_outside mem 0 start from_ addr (by omega)

theorem copy_rows_empty (rows : Nat) : copyRows mem dst src 0 rows = mem := by
  induction rows with
  | zero => rfl
  | succ rows ih => rw [copyRows, ih, copy_block_empty]

-- What lies between the rows stays.
theorem copy_rows_outside (rows addr : Nat) (outside : ∀ row < rows, addr < dst row ∨ dst row + len ≤ addr) :
    copyRows mem dst src len rows addr = mem addr := by
  induction rows with
  | zero => rfl
  | succ rows ih =>
      rw [copyRows, copy_block_outside _ len _ _ addr (outside rows (Nat.lt_succ_self rows))]
      exact ih fun row below => outside row (Nat.lt_succ_of_lt below)

theorem copy_rows_congr (rows : Nat) (other origin : Nat → Nat) (sameDst : ∀ row < rows, dst row = other row)
    (sameSrc : ∀ row < rows, src row = origin row) :
    copyRows mem dst src len rows = copyRows mem other origin len rows := by
  induction rows with
  | zero => rfl
  | succ rows ih =>
      have last : rows < rows + 1 := Nat.lt_succ_self rows
      rw [copyRows, copyRows, sameDst rows last, sameSrc rows last]
      rw [ih (fun row below => sameDst row (Nat.lt_succ_of_lt below)) fun row below => sameSrc row (Nat.lt_succ_of_lt below)]

end Rows

end RowCopy
