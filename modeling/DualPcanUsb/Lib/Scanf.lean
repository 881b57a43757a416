/-
Formatted text, read back.

A literal and a number each have a scanner that takes them off the front of a text. A number
is read at the width it was printed with, so it comes back, whatever follows, as long as it
fits that width; a word is read up to the character that ends it.
-/
import DualPcanUsb.Lib.Printf

set_option autoImplicit false

namespace Scanf

open Printf

/-! ## Scanners -/

/-- The value of a digit, decimal or upper-case hexadecimal. -/
def digit_value (b : BitVec 8) : Option ℕ :=
  if 48 ≤ b.toNat ∧ b.toNat ≤ 57 then some (b.toNat - 48)
  else if 65 ≤ b.toNat ∧ b.toNat ≤ 70 then some (b.toNat - 55)
  else none

/-- The number the digits make behind those already read. -/
def number (base : ℕ) : ℕ → List (BitVec 8) → Option ℕ
  | n, [] => some n
  | n, b :: bs =>
    match digit_value b with
    | some d => if d < base then number base (n * base + d) bs else none
    | none => none

def scan_number (base width : ℕ) (bs : List (BitVec 8)) : Option (ℕ × List (BitVec 8)) :=
  if width ≤ bs.length then (number base 0 (bs.take width)).map fun n => (n, bs.drop width)
  else none

def scan_lit (cs : String) (bs : List (BitVec 8)) : Option (List (BitVec 8)) :=
  if bs.take cs.toList.length = ascii cs.toList then some (bs.drop cs.toList.length) else none

/-- What stands before the first `stop`. -/
def scan_word (stop : BitVec 8) (bs : List (BitVec 8)) : List (BitVec 8) × List (BitVec 8) :=
  bs.span (· ≠ stop)

/-! ## Digits -/

/-- Digits are read from the left, in any two parts. -/
theorem number_append (base n : ℕ) (bs cs : List (BitVec 8)) :
    number base n (bs ++ cs) = (number base n bs).bind fun m => number base m cs := by
  induction bs generalizing n with
  | nil => rfl
  | cons b bs ih =>
    rw [List.cons_append, number, number]
    split
    · split
      · exact ih _
      · rfl
    · rfl

/-- One digit more is one place more. -/
theorem number_digit {base n d : ℕ} {b : BitVec 8} (hd : digit_value b = some d) (hlt : d < base) :
    number base n [b] = some (n * base + d) := by
  rw [number, hd]
  dsimp only
  rw [if_pos hlt]
  rfl

/-- Digits written by `f` have the value of the number. -/
theorem number_toDigits {base : ℕ} (hbase : 1 < base) {f : Char → Char}
    (hf : ∀ d < base, digit_value (BitVec.ofNat 8 (f (Nat.digitChar d)).toNat) = some d) (n : ℕ) :
    number base 0 (ascii ((Nat.toDigits base n).map f)) = some n := by
  induction n using Nat.strongRecOn with
  | ind n ih =>
    by_cases hlt : n < base
    · rw [Nat.toDigits_of_lt_base hlt]
      refine (number_digit (hf n hlt) hlt).trans ?_
      rw [Nat.zero_mul, Nat.zero_add]
    · have hle : base ≤ n := not_lt.mp hlt
      have hmod : n % base < base := Nat.mod_lt _ (by omega)
      have hhead := ih (n / base) (Nat.div_lt_self (by omega) hbase)
      have hsplit : ascii ((Nat.toDigits base n).map f)
          = ascii ((Nat.toDigits base (n / base)).map f)
            ++ [BitVec.ofNat 8 (f (Nat.digitChar (n % base))).toNat] := by
        rw [Nat.toDigits_of_base_le hbase hle, List.map_append, ascii, List.map_append]
        rfl
      rw [hsplit, number_append, hhead, Option.bind_some, number_digit (hf _ hmod) hmod,
        Nat.div_add_mod']

/-- Zeros in front do not count. -/
theorem number_leftpad {base : ℕ} (hbase : 0 < base) (width : ℕ) (cs : List Char) :
    number base 0 (ascii (cs.leftpad width '0')) = number base 0 (ascii cs) := by
  have hzeros : ∀ k, number base 0 (ascii (List.replicate k '0' ++ cs))
      = number base 0 (ascii cs) := by
    intro k
    induction k with
    | zero => rfl
    | succ k ih =>
      have hzero : digit_value (BitVec.ofNat 8 '0'.toNat) = some 0 := by decide
      rw [List.replicate_succ, List.cons_append, ascii, List.map_cons, number, hzero]
      dsimp only
      rw [if_pos hbase, Nat.zero_mul]
      exact ih
  exact hzeros _

theorem decimal_digits : ∀ d < 10,
    digit_value (BitVec.ofNat 8 (Nat.digitChar d).toNat) = some d := by
  decide

theorem hexadecimal_digits : ∀ d < 16,
    digit_value (BitVec.ofNat 8 (Nat.digitChar d).toUpper.toNat) = some d := by
  decide

/-! ## What was printed is read back -/

/-- A text as long as the width, in front of others. -/
theorem scan_number_append {base width n : ℕ} {bs : List (BitVec 8)} (hlen : bs.length = width)
    (hvalue : number base 0 bs = some n) (rest : List (BitVec 8)) :
    scan_number base width (bs ++ rest) = some (n, rest) := by
  subst hlen
  rw [scan_number, if_pos (by simp), List.take_left, List.drop_left, hvalue]
  rfl

/-- A decimal number of fixed width is read back, whatever follows it. -/
theorem scan_dec {width : ℕ} {n : Int} (hwidth : 0 < width) (hnonneg : 0 ≤ n)
    (hfits : n < 10 ^ width) (rest : List (BitVec 8)) :
    scan_number 10 width ((Piece.dec width n).text ++ rest) = some (n.toNat, rest) := by
  refine scan_number_append (length_dec hwidth hnonneg hfits) ?_ rest
  rw [Piece.text, decimal, if_neg (not_lt.mpr hnonneg), number_leftpad (by decide)]
  have hvalue := @number_toDigits 10 (by decide) id decimal_digits n.natAbs
  rw [List.map_id] at hvalue
  rw [hvalue]
  congr 1
  omega

/-- A hexadecimal number of fixed width is read back, whatever follows it. -/
theorem scan_hex {width n : ℕ} (hwidth : 0 < width) (hfits : n < 16 ^ width)
    (rest : List (BitVec 8)) :
    scan_number 16 width ((Piece.hex width n).text ++ rest) = some (n, rest) := by
  refine scan_number_append (length_hex hwidth hfits) ?_ rest
  rw [Piece.text, hexadecimal, number_leftpad (by decide)]
  exact number_toDigits (by decide) hexadecimal_digits n

/-- A literal is skipped. -/
theorem scan_lit_append (cs : String) (rest : List (BitVec 8)) :
    scan_lit cs ((Piece.lit cs).text ++ rest) = some rest := by
  have hlen : (Piece.lit cs).text.length = cs.toList.length := length_lit cs
  rw [scan_lit, ← hlen, List.take_left, List.drop_left]
  exact if_pos rfl

/-- A word is read up to the character that ends it. -/
theorem scan_word_append {stop : BitVec 8} {bs : List (BitVec 8)} (hstop : stop ∉ bs)
    (rest : List (BitVec 8)) :
    scan_word stop (bs ++ stop :: rest) = (bs, stop :: rest) := by
  have hkeep : ∀ b ∈ bs, decide (b ≠ stop) = true := by
    intro b hb
    rw [decide_eq_true_iff]
    rintro rfl
    exact hstop hb
  rw [scan_word, List.span_eq_takeWhile_dropWhile, List.takeWhile_append_of_pos hkeep,
    List.dropWhile_append_of_pos hkeep]
  simp

/-! ## Along a format

A scanner in front of a text goes on with what the rest of the pieces print. -/

section

variable {β : Type} (pieces : List Piece) (rest : List (BitVec 8))

/-- The text of a format is that of its first piece and then the rest. -/
theorem text_cons_append (piece : Piece) :
    text (piece :: pieces) ++ rest = piece.text ++ (text pieces ++ rest) := by
  rw [text, List.flatMap_cons, List.append_assoc]
  rfl

/-- A scanner of a literal passes that piece. -/
theorem lit_bind (cs : String) (k : List (BitVec 8) → Option β) :
    (scan_lit cs (text (.lit cs :: pieces) ++ rest) >>= k) = k (text pieces ++ rest) := by
  rw [text_cons_append, scan_lit_append]
  rfl

/-- A scanner of a decimal number takes that piece. -/
theorem dec_bind {width : ℕ} {n : Int} (hwidth : 0 < width) (hnonneg : 0 ≤ n)
    (hfits : n < 10 ^ width) (k : ℕ × List (BitVec 8) → Option β) :
    (scan_number 10 width (text (.dec width n :: pieces) ++ rest) >>= k)
      = k (n.toNat, text pieces ++ rest) := by
  rw [text_cons_append, scan_dec hwidth hnonneg hfits]
  rfl

/-- A scanner of a hexadecimal number takes that piece. -/
theorem hex_bind {width n : ℕ} (hwidth : 0 < width) (hfits : n < 16 ^ width)
    (k : ℕ × List (BitVec 8) → Option β) :
    (scan_number 16 width (text (.hex width n :: pieces) ++ rest) >>= k)
      = k (n, text pieces ++ rest) := by
  rw [text_cons_append, scan_hex hwidth hfits]
  rfl

/-- A word in front of a literal that begins with its end. -/
theorem scan_word_text {stop : BitVec 8} {bytes bs : List (BitVec 8)} {cs : String}
    (hstop : stop ∉ bytes) (hcs : (Piece.lit cs).text = stop :: bs) :
    scan_word stop (text (.str bytes :: .lit cs :: pieces) ++ rest)
      = (bytes, text (.lit cs :: pieces) ++ rest) := by
  rw [text_cons_append, text_cons_append, hcs]
  exact scan_word_append hstop _

end

end Scanf
