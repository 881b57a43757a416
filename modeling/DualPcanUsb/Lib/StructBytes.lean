/-
Structures in memory, by the bytes that are stored into them.

An assignment to a member stores the member's bytes and no others, so what stands between
the members, and what an assignment did not reach, is what stood there before.
`shown_stored_eq_iff` says when that can be seen: two memories look the same behind the same
stores exactly if they agreed where nothing was stored.
-/
import DualPcanUsb.Lib.LittleEndian

set_option autoImplicit false

namespace StructBytes

/-- Memory, by byte offset. -/
abbrev Bytes := ℕ → BitVec 8

structure Store where
  offset : ℕ
  bytes : List (BitVec 8)
deriving DecidableEq, Repr

def Store.Covers (s : Store) (i : ℕ) : Prop := s.offset ≤ i ∧ i < s.offset + s.bytes.length

instance (s : Store) (i : ℕ) : Decidable (s.Covers i) := inferInstanceAs (Decidable (_ ∧ _))

def Store.apply (s : Store) (mem : Bytes) : Bytes :=
  fun i => if s.Covers i then s.bytes.getD (i - s.offset) 0 else mem i

/-- The same store into a structure that lies `d` bytes further on. -/
def Store.shift (d : ℕ) (s : Store) : Store := { s with offset := d + s.offset }

/-- The stores of a row, the first one first. -/
def stored (stores : List Store) (mem : Bytes) : Bytes :=
  stores.foldl (fun mem s => s.apply mem) mem

def Covered (stores : List Store) (i : ℕ) : Prop := ∃ s ∈ stores, s.Covers i

instance (stores : List Store) (i : ℕ) : Decidable (Covered stores i) :=
  inferInstanceAs (Decidable (∃ s ∈ stores, s.Covers i))

/-- The first `n` bytes. -/
def shown (n : ℕ) (mem : Bytes) : List (BitVec 8) := (List.range n).map mem

/-- A word, in memory order. -/
def le_bytes (n : ℕ) {w : ℕ} (x : BitVec w) : List (BitVec 8) :=
  (List.range n).map (LittleEndian.byte x)

@[simp] theorem length_le_bytes (n : ℕ) {w : ℕ} (x : BitVec w) : (le_bytes n x).length = n := by
  simp [le_bytes]

@[simp] theorem length_shown (n : ℕ) (mem : Bytes) : (shown n mem).length = n := by
  simp [shown]

theorem apply_of_covers {s : Store} {i : ℕ} (h : s.Covers i) (mem : Bytes) :
    s.apply mem i = s.bytes.getD (i - s.offset) 0 := if_pos h

theorem apply_of_not_covers {s : Store} {i : ℕ} (h : ¬ s.Covers i) (mem : Bytes) :
    s.apply mem i = mem i := if_neg h

/-- A store moved up covers what is that much higher. -/
theorem covers_shift {d i : ℕ} {s : Store} : (s.shift d).Covers i ↔ d ≤ i ∧ s.Covers (i - d) := by
  unfold Store.Covers Store.shift
  dsimp only
  omega

theorem covered_cons {s : Store} {stores : List Store} {i : ℕ} :
    Covered (s :: stores) i ↔ s.Covers i ∨ Covered stores i := by
  simp [Covered]

theorem covered_append {stores stores' : List Store} {i : ℕ} :
    Covered (stores ++ stores') i ↔ Covered stores i ∨ Covered stores' i := by
  simp [Covered, or_and_right, exists_or]

theorem covered_shift {d i : ℕ} {stores : List Store} :
    Covered (stores.map (Store.shift d)) i ↔ d ≤ i ∧ Covered stores (i - d) := by
  simp [Covered, covers_shift, and_left_comm]

/-- What is not stored to stays. -/
theorem stored_of_not_covered {stores : List Store} {i : ℕ} (h : ¬ Covered stores i)
    (mem : Bytes) : stored stores mem i = mem i := by
  induction stores generalizing mem with
  | nil => rfl
  | cons s stores ih =>
    rw [covered_cons, not_or] at h
    change stored stores (s.apply mem) i = mem i
    rw [ih h.2, apply_of_not_covers h.1]

/-- What is stored to does not depend on what was there. -/
theorem stored_of_covered {stores : List Store} {i : ℕ} (h : Covered stores i)
    (mem mem' : Bytes) : stored stores mem i = stored stores mem' i := by
  induction stores generalizing mem mem' with
  | nil => simp [Covered] at h
  | cons s stores ih =>
    change stored stores (s.apply mem) i = stored stores (s.apply mem') i
    by_cases hrest : Covered stores i
    · exact ih hrest _ _
    · have hs : s.Covers i := (covered_cons.mp h).resolve_right hrest
      rw [stored_of_not_covered hrest, stored_of_not_covered hrest, apply_of_covers hs,
        apply_of_covers hs]

theorem shown_eq_iff {n : ℕ} {mem mem' : Bytes} :
    shown n mem = shown n mem' ↔ ∀ i < n, mem i = mem' i := by
  simp [shown, List.map_inj_left]

/-- Inside a store its bytes are read back. -/
theorem apply_add {i : ℕ} {bs : List (BitVec 8)} (hi : i < bs.length) (a : ℕ) (mem : Bytes) :
    (Store.mk a bs).apply mem (a + i) = bs[i] := by
  have hcov : (Store.mk a bs).Covers (a + i) := ⟨Nat.le_add_right a i, Nat.add_lt_add_left hi a⟩
  rw [apply_of_covers hcov]
  simp [hi]

/-- A copy of the first `n` bytes to another place. -/
theorem apply_shown {n i : ℕ} (hi : i < n) (a : ℕ) (mem mem' : Bytes) :
    (Store.mk a (shown n mem)).apply mem' (a + i) = mem i := by
  rw [apply_add (by simpa using hi)]
  simp [shown]

/-- Behind the same stores, two memories look the same exactly if they agreed wherever
nothing was stored. -/
theorem shown_stored_eq_iff {n : ℕ} {stores : List Store} {mem mem' : Bytes} :
    shown n (stored stores mem) = shown n (stored stores mem')
      ↔ ∀ i < n, ¬ Covered stores i → mem i = mem' i := by
  rw [shown_eq_iff]
  constructor
  · intro h i hi hfree
    have hsame := h i hi
    rwa [stored_of_not_covered hfree, stored_of_not_covered hfree] at hsame
  · intro h i hi
    by_cases hcov : Covered stores i
    · exact stored_of_covered hcov mem mem'
    · rw [stored_of_not_covered hcov, stored_of_not_covered hcov]
      exact h i hi hcov

/-- The same for bytes handed out elsewhere, with a description of what is not stored to. -/
theorem handed_eq_iff {n : ℕ} {stores : List Store} {mem mem' out out' : Bytes} {Kept : ℕ → Prop}
    (hout : ∀ i < n, out i = stored stores mem i) (hout' : ∀ i < n, out' i = stored stores mem' i)
    (hkept : ∀ i < n, ¬ Covered stores i ↔ Kept i) (hinside : ∀ i, Kept i → i < n) :
    (∀ i < n, out i = out' i) ↔ ∀ i, Kept i → mem i = mem' i := by
  have hshown := @shown_stored_eq_iff n stores mem mem'
  rw [shown_eq_iff] at hshown
  constructor
  · intro h i hi
    have hlt := hinside i hi
    refine hshown.mp (fun j hj => ?_) i hlt ((hkept i hlt).mpr hi)
    rw [← hout j hj, ← hout' j hj]
    exact h j hj
  · intro h i hi
    rw [hout i hi, hout' i hi]
    exact hshown.mpr (fun j hj hfree => h j ((hkept j hj).mp hfree)) i hi

end StructBytes
