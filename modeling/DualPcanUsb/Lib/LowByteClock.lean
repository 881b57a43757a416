/-
A 16-bit clock followed by its low byte.

A sender that ticks fewer than 256 times between two messages can leave out the
high byte: the receiver keeps the last 16-bit reading, replaces its low byte, and
adds one to the high byte when the low byte went backwards. `advance_ofNat` says
that this recovers the sender's clock modulo `2 ^ 16`, across any wrap.

The receiver keeps the low byte to compare with in a variable of its own. A word that
sets the clock but not that variable leaves the two out of step, and the next wrap can be
missed or seen twice. `right_iff_follows` says when a row of readings stays right.
-/
import Mathlib

set_option autoImplicit false

namespace LowByteClock

/-- The low byte of a tick count. -/
def low (t : ℕ) : BitVec 8 := BitVec.ofNat 8 t

/-- The next reading, from the last one, its low byte and the new low byte. -/
def advance (clock : BitVec 16) (prev lo : BitVec 8) : BitVec 16 :=
  ((if lo < prev then clock + 0x100 else clock) &&& 0xff00) ||| lo.setWidth 16

/-- Replacing the low byte, as numbers. -/
theorem toNat_replace_low (x : BitVec 16) (lo : BitVec 8) :
    ((x &&& 0xff00) ||| lo.setWidth 16).toNat = 256 * (x.toNat / 256) + lo.toNat := by
  -- masking the low byte is shifting it out and back
  have hmask : x &&& (0xff00 : BitVec 16) = (x >>> 8) <<< 8 := by
    apply BitVec.eq_of_getLsbD_eq
    intro i hi
    interval_cases i <;> simp
  have hhigh : (x >>> 8 <<< 8).toNat = (x.toNat / 256) <<< 8 := by
    rw [BitVec.toNat_shiftLeft, BitVec.toNat_ushiftRight, Nat.shiftRight_eq_div_pow,
      Nat.shiftLeft_eq]
    exact Nat.mod_eq_of_lt (by have := x.isLt; omega)
  have hlow : (lo.setWidth 16).toNat = lo.toNat :=
    BitVec.toNat_setWidth_of_le (by decide)
  rw [hmask, BitVec.toNat_or, hhigh, hlow, ← Nat.shiftLeft_add_eq_or_of_lt lo.isLt,
    Nat.shiftLeft_eq, Nat.mul_comm]

theorem low_lt_iff (t t' : ℕ) : low t' < low t ↔ t' % 256 < t % 256 := by
  rw [BitVec.lt_def, low, low, BitVec.toNat_ofNat, BitVec.toNat_ofNat]

/-- Fewer than 256 ticks later, the new low byte is enough, if the byte it is compared
with tells a wrap as the last tick would. -/
theorem advance_eq_iff {t t' : ℕ} (stamp : ℕ) (hle : t ≤ t') (hlt : t' < t + 256) :
    advance (BitVec.ofNat 16 t) (low stamp) (low t') = BitVec.ofNat 16 t'
      ↔ (t' % 256 < stamp % 256 ↔ t' % 256 < t % 256) := by
  have hlow : (low t').toNat = t' % 256 := BitVec.toNat_ofNat ..
  have hgoal : ∀ clock : BitVec 16,
      (clock &&& 0xff00) ||| (low t').setWidth 16 = BitVec.ofNat 16 t'
        ↔ 256 * (clock.toNat / 256) + t' % 256 = t' % 65536 := by
    intro clock
    rw [← BitVec.toNat_inj, toNat_replace_low, hlow, BitVec.toNat_ofNat]
  unfold advance
  rw [hgoal]
  -- the high byte has to move exactly when the low byte wrapped
  by_cases hwrap : t' % 256 < stamp % 256
  · rw [if_pos ((low_lt_iff _ _).mpr hwrap), BitVec.toNat_add, BitVec.toNat_ofNat]
    change 256 * ((t % 65536 + 256) % 65536 / 256) + t' % 256 = t' % 65536 ↔ _
    omega
  · rw [if_neg ((low_lt_iff _ _).not.mpr hwrap), BitVec.toNat_ofNat]
    change 256 * (t % 65536 / 256) + t' % 256 = t' % 65536 ↔ _
    omega

theorem advance_ofNat {t t' : ℕ} (hle : t ≤ t') (hlt : t' < t + 256) :
    advance (BitVec.ofNat 16 t) (low t) (low t') = BitVec.ofNat 16 t' :=
  (advance_eq_iff t hle hlt).mpr Iff.rfl

/-! ## Rows of readings -/

/-- How a tick arrives: as a word, as its low byte, or as a word whose low byte is not
kept to compare with. -/
inductive Field
  | word | low_byte | loose_word
deriving DecidableEq, Repr

structure Reading where
  field : Field
  tick : ℕ
deriving DecidableEq, Repr

/-- The clock, and the byte kept to compare with. -/
structure Receiver where
  clock : BitVec 16
  prev : BitVec 8
deriving DecidableEq, Repr

def Receiver.read (r : Receiver) (x : Reading) : Receiver :=
  match x.field with
  | .word => ⟨BitVec.ofNat 16 x.tick, low x.tick⟩
  | .low_byte => ⟨advance r.clock r.prev (low x.tick), low x.tick⟩
  | .loose_word => ⟨BitVec.ofNat 16 x.tick, r.prev⟩

/-- The clock is right behind each reading. -/
def Right (r : Receiver) : List Reading → Prop
  | [] => True
  | x :: readings => (r.read x).clock = BitVec.ofNat 16 x.tick ∧ Right (r.read x) readings

/-- The sender ticked on by less than 256 between two readings. -/
def NextTick (x y : Reading) : Prop := x.tick ≤ y.tick ∧ y.tick < x.tick + 256

instance (x y : Reading) : Decidable (NextTick x y) := inferInstanceAs (Decidable (_ ∧ _))

/-- At each low byte, the tick `stamp` whose byte was kept tells a wrap as the `last` tick
does. -/
def FollowsFrom (stamp last : ℕ) : List Reading → Prop
  | [] => True
  | x :: readings =>
    (x.field = .low_byte → (x.tick % 256 < stamp % 256 ↔ x.tick % 256 < last % 256))
      ∧ FollowsFrom (if x.field = .loose_word then stamp else x.tick) x.tick readings

instance decidableFollowsFrom :
    ∀ (stamp last : ℕ) (readings : List Reading), Decidable (FollowsFrom stamp last readings)
  | _, _, [] => .isTrue trivial
  | stamp, _, x :: readings =>
    have := decidableFollowsFrom (if x.field = .loose_word then stamp else x.tick) x.tick readings
    inferInstanceAs (Decidable (_ ∧ _))

/-- One reading: right or not, and what is kept if it is. -/
theorem read_right_iff {r : Receiver} {stamp : ℕ} (last : ℕ) (x : Reading)
    (hclock : x.field = .low_byte →
      r.clock = BitVec.ofNat 16 last ∧ last ≤ x.tick ∧ x.tick < last + 256)
    (hprev : r.prev = low stamp) :
    ((r.read x).clock = BitVec.ofNat 16 x.tick
        ↔ (x.field = .low_byte → (x.tick % 256 < stamp % 256 ↔ x.tick % 256 < last % 256)))
      ∧ (r.read x).prev = low (if x.field = .loose_word then stamp else x.tick) := by
  unfold Receiver.read
  cases hfield : x.field with
  | word => simp
  | loose_word => simpa using hprev
  | low_byte =>
    obtain ⟨hclock, hle, hlt⟩ := hclock hfield
    simp [hclock, hprev, advance_eq_iff stamp hle hlt]

/-- Only the tick of a reading matters to the next one. -/
theorem chain_of_tick {x : Reading} {readings : List Reading}
    (h : List.IsChain NextTick (x :: readings)) :
    List.IsChain NextTick (⟨.word, x.tick⟩ :: readings) := by
  cases readings with
  | nil => exact List.isChain_singleton _
  | cons y readings =>
    obtain ⟨hnext, hrest⟩ := List.isChain_cons_cons.mp h
    exact List.isChain_cons_cons.mpr ⟨hnext, hrest⟩

/-- A row of readings comes out right exactly if each low byte tells its wrap as the last tick
does. -/
theorem right_iff_followsFrom (readings : List Reading) : ∀ {r : Receiver} {stamp last : ℕ},
    r.clock = BitVec.ofNat 16 last → r.prev = low stamp →
    List.IsChain NextTick (⟨.word, last⟩ :: readings) →
    (Right r readings ↔ FollowsFrom stamp last readings) := by
  induction readings with
  | nil => exact fun _ _ _ => Iff.rfl
  | cons x readings ih =>
    intro r stamp last hclock hprev hchain
    rw [List.isChain_cons_cons] at hchain
    obtain ⟨hstep, hprev'⟩ := read_right_iff last x (fun _ => ⟨hclock, hchain.1⟩) hprev
    rw [Right, FollowsFrom, ← hstep]
    exact and_congr_right fun hright => ih hright hprev' (chain_of_tick hchain.2)

/-- From any clock, a row that does not begin with a low byte stays right exactly if every
later low byte is compared with one that tells wraps alike. -/
theorem right_iff_follows {readings : List Reading} {r : Receiver} {stamp : ℕ}
    (hprev : r.prev = low stamp) (hhead : ∀ x ∈ readings.head?, x.field ≠ .low_byte)
    (hchain : List.IsChain NextTick readings) :
    Right r readings ↔ FollowsFrom stamp 0 readings := by
  cases readings with
  | nil => exact Iff.rfl
  | cons x readings =>
    have hfirst : x.field ≠ .low_byte := hhead x rfl
    obtain ⟨hstep, hprev'⟩ := read_right_iff 0 x (fun h => absurd h hfirst) hprev
    rw [Right, FollowsFrom, ← hstep]
    exact and_congr_right fun hright =>
      right_iff_followsFrom readings hright hprev' (chain_of_tick hchain)

end LowByteClock
