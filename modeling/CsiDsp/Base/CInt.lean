import Mathlib.Algebra.Group.Nat.Defs

set_option autoImplicit false

-- Integers of C on a two's complement machine: a value is stored by reducing
-- it to the width of its type, and % rounds towards zero.
namespace CInt

def wrapU (bits : Nat) (value : Int) : Nat := (value % (2 ^ bits : Nat)).toNat
def wrapS (bits : Nat) (value : Int) : Int := value.bmod (2 ^ bits)

def u8 (value : Int) : Nat := wrapU 8 value
def u16 (value : Int) : Nat := wrapU 16 value
def u32 (value : Int) : Nat := wrapU 32 value
def u64 (value : Int) : Nat := wrapU 64 value
def i8 (value : Int) : Int := wrapS 8 value
def i16 (value : Int) : Int := wrapS 16 value
def i32 (value : Int) : Int := wrapS 32 value

theorem wrap_u_lt (bits : Nat) (value : Int) : wrapU bits value < 2 ^ bits := by
  have positive : 0 < 2 ^ bits := Nat.two_pow_pos bits
  have nonneg := Int.emod_nonneg value (b := (2 ^ bits : Nat)) (by omega)
  have below := Int.emod_lt_of_pos value (b := (2 ^ bits : Nat)) (by omega)
  rw [wrapU]
  omega

theorem wrap_u_fits (bits value : Nat) (fits : value < 2 ^ bits) : wrapU bits (value : Int) = value := by
  rw [wrapU]
  rw [Int.emod_eq_of_lt (by omega) (by omega)]
  rfl

theorem wrap_s_fits (bits : Nat) (value : Int) (low : -((2 ^ bits / 2 : Nat) : Int) ≤ value)
    (high : value < ((2 ^ bits + 1) / 2 : Nat)) : wrapS bits value = value := by
  rw [wrapS]
  exact Int.bmod_eq_of_le (by omega) (by omega)

theorem tmod_nat (a b : Nat) : Int.tmod (a : Int) (b : Int) = ((a % b : Nat) : Int) := by
  rw [Int.tmod_eq_emod_of_nonneg (by omega)]
  rfl

theorem u16_fits (value : Nat) (fits : value < 65536) : u16 (value : Int) = value :=
  wrap_u_fits 16 value fits

theorem u16_lt (value : Int) : u16 value < 65536 := wrap_u_lt 16 value

theorem u32_fits (value : Nat) (fits : value < 4294967296) : u32 (value : Int) = value :=
  wrap_u_fits 32 value fits

theorem i16_fits (value : Nat) (fits : value < 32768) : i16 (value : Int) = value :=
  wrap_s_fits 16 value (by omega) (by simp only [Nat.reducePow]; omega)

theorem i32_fits (value : Nat) (fits : value < 2147483648) : i32 (value : Int) = value :=
  wrap_s_fits 32 value (by omega) (by simp only [Nat.reducePow]; omega)

-- INT_MAX
def intMax : Int := 2147483647

theorem i32_int (value : Int) (low : -intMax ≤ value) (high : value ≤ intMax) : i32 value = value := by
  rw [intMax] at low high
  exact wrap_s_fits 32 value (by simp only [Nat.reducePow]; omega) (by simp only [Nat.reducePow]; omega)

-- A sum of two ints that is too large becomes negative.
theorem i32_overflow (value : Int) (low : intMax < value) (high : value ≤ 2 * intMax) : i32 value < 0 := by
  rw [intMax] at low high
  rw [i32, wrapS, Int.bmod_def]
  have rest : value % ((2 ^ 32 : Nat) : Int) = value := Int.emod_eq_of_lt (by omega) (by omega)
  rw [rest, if_neg (by omega)]
  omega

end CInt
