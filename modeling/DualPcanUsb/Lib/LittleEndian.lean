/-
Little-endian words out of bytes, for the two widths a byte-oriented wire format
meets most: a 16-bit and a 32-bit word, each as the concatenation of its bytes
and each with the round trip through them.
-/
import Mathlib

set_option autoImplicit false

namespace LittleEndian

/-- Byte `i` of a word, counted from the least significant one. -/
def byte {w : ℕ} (x : BitVec w) (i : ℕ) : BitVec 8 := x.extractLsb' (8 * i) 8

/-- The 16-bit word whose bytes in memory order are `b0`, `b1`. -/
def le16 (b0 b1 : BitVec 8) : BitVec 16 := b0.setWidth 16 ||| b1.setWidth 16 <<< 8

/-- The 32-bit word whose bytes in memory order are `b0` to `b3`. -/
def le32 (b0 b1 b2 b3 : BitVec 8) : BitVec 32 :=
  b0.setWidth 32 ||| b1.setWidth 32 <<< 8 ||| b2.setWidth 32 <<< 16 ||| b3.setWidth 32 <<< 24

/-- Storing a 16-bit word and loading it again. -/
theorem le16_byte (x : BitVec 16) : le16 (byte x 0) (byte x 1) = x := by
  apply BitVec.eq_of_getLsbD_eq
  intro i hi
  interval_cases i <;> simp [le16, byte]

/-- Storing a 32-bit word and loading it again. -/
theorem le32_byte (x : BitVec 32) : le32 (byte x 0) (byte x 1) (byte x 2) (byte x 3) = x := by
  apply BitVec.eq_of_getLsbD_eq
  intro i hi
  interval_cases i <;> simp [le32, byte]

end LittleEndian
