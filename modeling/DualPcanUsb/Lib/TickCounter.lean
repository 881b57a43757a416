/-
A free-running tick counter read as time.

The counter has `n` bits and is kept in a wider word. The ticks between two readings
are their difference, masked to `n` bits only if it went below zero; `elapsed_modEq` says
that this is the true distance modulo `2 ^ n`, and `toNat_elapsed_iff` when it is the
distance itself.

Ticks become a unit of time by a multiplication and a shift. `scale_error` bounds what
the rounded factor and the cut-off fraction do together, against the ideal rate `p / q`.
-/
import Mathlib

set_option autoImplicit false

namespace TickCounter

/-! ## Ticks between two readings -/

def elapsed (n : ℕ) {w : ℕ} (now prev : BitVec w) : BitVec w :=
  if now < prev then (now - prev) &&& BitVec.ofNat w (2 ^ n - 1) else now - prev

/-- A reading of the true tick count `t`. -/
def reading (n w t : ℕ) : BitVec w := BitVec.ofNat w (t % 2 ^ n)

/-- A reading is the count modulo one turn. -/
theorem toNat_reading {n w : ℕ} (h : n ≤ w) (t : ℕ) : (reading n w t).toNat = t % 2 ^ n := by
  have hlt : t % 2 ^ n < 2 ^ n := Nat.mod_lt _ (Nat.two_pow_pos n)
  have hpow : 2 ^ n ≤ 2 ^ w := Nat.pow_le_pow_right (by decide) h
  rw [reading, BitVec.toNat_ofNat, Nat.mod_eq_of_lt (by omega)]

/-- The mask has a one in each of its bits. -/
theorem toNat_mask {n w : ℕ} (h : n ≤ w) : (BitVec.ofNat w (2 ^ n - 1)).toNat = 2 ^ n - 1 := by
  have hpow : 2 ^ n ≤ 2 ^ w := Nat.pow_le_pow_right (by decide) h
  have hpos : 0 < 2 ^ n := Nat.two_pow_pos n
  rw [BitVec.toNat_ofNat, Nat.mod_eq_of_lt (by omega)]

section

variable {n w : ℕ} {now prev : BitVec w}

/-- However many turns lie between two readings, the distance leads from one to the other. -/
theorem elapsed_modEq (h : n < w) :
    (elapsed n now prev).toNat + prev.toNat ≡ now.toNat [MOD 2 ^ n] := by
  have hpow : 2 ^ n ∣ 2 ^ w := Nat.pow_dvd_pow 2 h.le
  have hlt : 2 ^ n < 2 ^ w := Nat.pow_lt_pow_right (by decide) h
  have hprev : prev.toNat < 2 ^ w := prev.isLt
  unfold elapsed
  split
  · rw [BitVec.toNat_and, toNat_mask h.le, Nat.and_two_pow_sub_one_eq_mod, BitVec.toNat_sub,
      Nat.mod_mod_of_dvd _ hpow]
    -- a whole word more or less is a number of turns
    have hword : 2 ^ w - prev.toNat + now.toNat + prev.toNat = now.toNat + 2 ^ w := by omega
    calc (2 ^ w - prev.toNat + now.toNat) % 2 ^ n + prev.toNat
        ≡ 2 ^ w - prev.toNat + now.toNat + prev.toNat [MOD 2 ^ n] :=
          (Nat.mod_modEq _ _).add_right _
      _ = now.toNat + 2 ^ w := hword
      _ ≡ now.toNat + 0 [MOD 2 ^ n] := Nat.ModEq.add_left _ (Nat.modEq_zero_iff_dvd.mpr hpow)
  · rename_i hge
    rw [BitVec.toNat_sub_of_le (BitVec.not_lt.mp hge), Nat.sub_add_cancel]
    simpa [BitVec.lt_def] using hge

/-- From one reading to the next there is less than a turn. -/
theorem elapsed_lt (h : n < w) (hnow : now.toNat < 2 ^ n) :
    (elapsed n now prev).toNat < 2 ^ n := by
  unfold elapsed
  split
  · rw [BitVec.toNat_and, toNat_mask h.le, Nat.and_two_pow_sub_one_eq_mod]
    exact Nat.mod_lt _ (Nat.two_pow_pos n)
  · rename_i hge
    rw [BitVec.toNat_sub_of_le (BitVec.not_lt.mp hge)]
    omega

/-- Less than one turn after tick `s`, the distance is the true one exactly if it is taken
from a reading of `s`. -/
theorem toNat_elapsed_iff (h : n < w) {s t : ℕ} (hnow : now.toNat = t % 2 ^ n) (hle : s ≤ t)
    (hlt : t < s + 2 ^ n) :
    (elapsed n now prev).toNat = t - s ↔ prev.toNat ≡ s [MOD 2 ^ n] := by
  have hreading : now.toNat < 2 ^ n := hnow ▸ Nat.mod_lt _ (Nat.two_pow_pos n)
  have hcount : (elapsed n now prev).toNat + prev.toNat ≡ t - s + s [MOD 2 ^ n] := by
    rw [Nat.sub_add_cancel hle]
    exact (elapsed_modEq h).trans (hnow ▸ Nat.mod_modEq t _)
  constructor
  · intro heq
    rw [heq] at hcount
    exact hcount.add_left_cancel'
  · intro hprev
    have hmod := Nat.ModEq.add_right_cancel hprev hcount
    exact hmod.eq_of_lt_of_lt (elapsed_lt h hreading) (by omega)

end

/-! ## Ticks as time -/

/-- `ticks` in units of time: a factor with `shift` binary digits after the point. -/
def scale (factor shift ticks : ℕ) : ℕ := ticks * factor / 2 ^ shift

theorem scale_mono (factor shift : ℕ) : Monotone (scale factor shift) := by
  intro a b h
  exact Nat.div_le_div_right (Nat.mul_le_mul_right factor h)

/-- Where the factor is `p / q` rounded up, by `r` parts of `q * 2 ^ shift`, a count comes out
less than one unit below the ideal rate, and above it by no more than the factor is. -/
theorem scale_error {factor shift p q r : ℕ} (hq : 0 < q)
    (hfactor : factor * q = p * 2 ^ shift + r) (ticks : ℕ) :
    -1 < (scale factor shift ticks : ℚ) - ticks * (p / q)
      ∧ (scale factor shift ticks : ℚ) - ticks * (p / q) ≤ ticks * r / (q * 2 ^ shift) := by
  have hqpos : (0 : ℚ) < q := by exact_mod_cast hq
  have hpow : (0 : ℚ) < 2 ^ shift := by positivity
  have hcut : ticks * factor = 2 ^ shift * scale factor shift ticks + ticks * factor % 2 ^ shift :=
    (Nat.div_add_mod ..).symm
  have hrest : ((ticks * factor % 2 ^ shift : ℕ) : ℚ) < 2 ^ shift := by
    exact_mod_cast Nat.mod_lt (ticks * factor) (Nat.two_pow_pos shift)
  generalize ticks * factor % 2 ^ shift = rest at hcut hrest
  -- the ideal time, in the same terms as the computed one
  have hideal : (ticks : ℚ) * (p / q) = scale factor shift ticks + rest / 2 ^ shift
      - ticks * r / (q * 2 ^ shift) := by
    have hfactor' : (factor : ℚ) * q = p * 2 ^ shift + r := by exact_mod_cast hfactor
    have hcut' : (ticks : ℚ) * factor = 2 ^ shift * scale factor shift ticks + rest := by
      exact_mod_cast hcut
    field_simp
    linear_combination q * hcut' - ticks * hfactor'
  have hrest' : (rest : ℚ) / 2 ^ shift < 1 := by rw [div_lt_one hpow]; exact hrest
  have hnonneg : 0 ≤ (ticks : ℚ) * r / (q * 2 ^ shift) := by positivity
  have hcutpos : 0 ≤ (rest : ℚ) / 2 ^ shift := by positivity
  rw [hideal]
  constructor
  · linarith
  · linarith

end TickCounter
