/-
Formatted text, as `sprintf` makes it.

A format with its arguments filled in is a list of pieces: literal characters, decimal and
upper-case hexadecimal numbers padded with zeros, strings. The width of a conversion is a
minimum, so what bounds the length of the text is a bound on the number.
-/
import Mathlib

set_option autoImplicit false

namespace Printf

/-- A literal, or one of the conversions `%0<width>d`, `%0<width>X` and `%s` with its
argument. -/
inductive Piece
  | lit (cs : String)
  | dec (width : ℕ) (n : Int)
  | hex (width : ℕ) (n : ℕ)
  | str (bytes : List (BitVec 8))

def ascii (cs : List Char) : List (BitVec 8) :=
  cs.map fun c => BitVec.ofNat 8 c.toNat

/-- The sign takes part of the width. -/
def decimal (width : ℕ) (n : Int) : List Char :=
  if n < 0 then '-' :: (Nat.toDigits 10 n.natAbs).leftpad (width - 1) '0'
  else (Nat.toDigits 10 n.natAbs).leftpad width '0'

def hexadecimal (width n : ℕ) : List Char :=
  ((Nat.toDigits 16 n).map Char.toUpper).leftpad width '0'

def Piece.text : Piece → List (BitVec 8)
  | .lit cs => ascii cs.toList
  | .dec width n => ascii (decimal width n)
  | .hex width n => ascii (hexadecimal width n)
  | .str bytes => bytes

def text (pieces : List Piece) : List (BitVec 8) :=
  pieces.flatMap Piece.text

theorem length_text (pieces : List Piece) :
    (text pieces).length = (pieces.map fun p => p.text.length).sum := by
  rw [text, List.length_flatMap]

/-- A literal has its own length; so has a string. -/
theorem length_lit (cs : String) : (Piece.lit cs).text.length = cs.toList.length :=
  List.length_map ..

/-- A number that fits its width is as long as the width. -/
theorem length_dec {width : ℕ} {n : Int} (hwidth : 0 < width) (hnonneg : 0 ≤ n)
    (hfits : n < 10 ^ width) : (Piece.dec width n).text.length = width := by
  have hdigits : (Nat.toDigits 10 n.natAbs).length ≤ width := by
    rw [Nat.length_toDigits_le_iff (by decide) hwidth]
    zify
    rwa [abs_of_nonneg hnonneg]
  rw [Piece.text, ascii, List.length_map, decimal, if_neg (not_lt.mpr hnonneg),
    List.length_leftpad, max_eq_left hdigits]

/-- A hexadecimal number of fixed width is as long as that. -/
theorem length_hex {width n : ℕ} (hwidth : 0 < width) (hfits : n < 16 ^ width) :
    (Piece.hex width n).text.length = width := by
  have hdigits : (Nat.toDigits 16 n).length ≤ width :=
    (Nat.length_toDigits_le_iff (by decide) hwidth).mpr hfits
  rw [Piece.text, ascii, List.length_map, hexadecimal, List.length_leftpad, List.length_map,
    max_eq_left hdigits]

/-! ## Texts without NULs -/

/-- Literals and strings bring their own characters; numbers bring digits, zeros and a
sign. -/
def Piece.NulFree : Piece → Prop
  | .lit cs => 0 ∉ ascii cs.toList
  | .str bytes => 0 ∉ bytes
  | _ => True

/-- A literal without NUL gives bytes without NUL. -/
theorem nul_notMem_ascii {cs : List Char} (h : ∀ c ∈ cs, BitVec.ofNat 8 c.toNat ≠ 0) :
    0 ∉ ascii cs := by
  intro hzero
  obtain ⟨c, hc, hcode⟩ := List.mem_map.mp hzero
  exact h c hc hcode

/-- The digits of a number are digits of its base. -/
theorem mem_toDigits {b n : ℕ} {c : Char} (hb : 1 < b) (h : c ∈ Nat.toDigits b n) :
    ∃ d < b, c = Nat.digitChar d := by
  induction n using Nat.strongRecOn with
  | ind n ih =>
    by_cases hlt : n < b
    · rw [Nat.toDigits_of_lt_base hlt, List.mem_singleton] at h
      exact ⟨n, hlt, h⟩
    · rw [Nat.toDigits_of_base_le hb (not_lt.mp hlt), List.mem_append] at h
      rcases h with h | h
      · exact ih (n / b) (Nat.div_lt_self (by omega) hb) h
      · exact ⟨n % b, Nat.mod_lt _ (by omega), List.mem_singleton.mp h⟩

/-- No digit is a NUL, in either case. -/
theorem digit_not_nul {d : ℕ} (hd : d < 16) :
    BitVec.ofNat 8 (Nat.digitChar d).toNat ≠ 0
      ∧ BitVec.ofNat 8 (Nat.digitChar d).toUpper.toNat ≠ 0 := by
  interval_cases d <;> decide

/-- Padding with zeros brings no NUL. -/
theorem leftpad_not_nul {width : ℕ} {cs : List Char} (h : ∀ c ∈ cs, BitVec.ofNat 8 c.toNat ≠ 0) :
    ∀ c ∈ cs.leftpad width '0', BitVec.ofNat 8 c.toNat ≠ 0 := by
  intro c hc
  rcases List.mem_append.mp hc with hc | hc
  · rw [List.eq_of_mem_replicate hc]
    decide
  · exact h c hc

/-- A decimal number has no NUL. -/
theorem nul_notMem_dec (width : ℕ) (n : Int) : 0 ∉ (Piece.dec width n).text := by
  have hdigits : ∀ c ∈ Nat.toDigits 10 n.natAbs, BitVec.ofNat 8 c.toNat ≠ 0 := by
    intro c hc
    obtain ⟨d, hd, rfl⟩ := mem_toDigits (by decide) hc
    exact (digit_not_nul (by omega)).1
  apply nul_notMem_ascii
  intro c hc
  rw [decimal] at hc
  split at hc
  · rcases List.mem_cons.mp hc with rfl | hc
    · decide
    · exact leftpad_not_nul hdigits c hc
  · exact leftpad_not_nul hdigits c hc

/-- A hexadecimal number has no NUL. -/
theorem nul_notMem_hex (width n : ℕ) : 0 ∉ (Piece.hex width n).text := by
  apply nul_notMem_ascii
  refine leftpad_not_nul fun c hc => ?_
  obtain ⟨c', hc', rfl⟩ := List.mem_map.mp hc
  obtain ⟨d, hd, rfl⟩ := mem_toDigits (by decide) hc'
  exact (digit_not_nul hd).2

/-- A text made of pieces without NUL has none. -/
theorem nul_notMem_text {pieces : List Piece} (h : ∀ p ∈ pieces, p.NulFree) :
    0 ∉ text pieces := by
  intro hzero
  obtain ⟨p, hp, hmem⟩ := List.mem_flatMap.mp hzero
  cases p with
  | lit cs => exact h _ hp hmem
  | dec width n => exact nul_notMem_dec width n hmem
  | hex width n => exact nul_notMem_hex width n hmem
  | str bytes => exact h _ hp hmem

end Printf
