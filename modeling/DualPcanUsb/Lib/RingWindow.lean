/-
A circular buffer seen as a list.

The buffer is a memory indexed by integers, of which the indices below `size` are
used. Its contents are the `n` cells before the write index `w`, counted around
the end: `window mem size w n`. The rules say what a write into the cell at `w`,
moving `w` on, and reading from the front do to that list.
-/
import Mathlib

set_option autoImplicit false

namespace RingWindow

variable {α : Type*}

/-- The `n` cells before `w`, oldest first. -/
def window (mem : ℤ → α) (size : ℕ) (w : ℤ) (n : ℕ) : List α :=
  (List.range n).map fun k : ℕ => mem ((w - n + k) % size)

@[simp] theorem length_window (mem : ℤ → α) (size : ℕ) (w : ℤ) (n : ℕ) :
    (window mem size w n).length = n := by
  rw [window, List.length_map, List.length_range]

/-- Only the residue of the write index matters. -/
theorem window_emod (mem : ℤ → α) (size : ℕ) (w : ℤ) (n : ℕ) :
    window mem size (w % size) n = window mem size w n := by
  refine List.map_congr_left fun k _ => congrArg mem ?_
  rw [sub_add, sub_add, Int.emod_sub_emod]

/-- The cell at the write index is outside, as long as the buffer is not full. -/
theorem window_update (mem : ℤ → α) {size : ℕ} {w : ℤ} {n : ℕ} (hw : 0 ≤ w) (hlt : w < size)
    (hn : n < size) (x : α) : window (Function.update mem w x) size w n = window mem size w n := by
  refine List.map_congr_left fun k hk => Function.update_of_ne ?_ _ _
  rw [List.mem_range] at hk
  -- the cell lies between one and `n` steps before `w`
  intro heq
  rcases lt_or_ge (w - n + k) 0 with hneg | hpos
  · rw [← Int.add_emod_right, Int.emod_eq_of_lt (by omega) (by omega)] at heq
    omega
  · rw [Int.emod_eq_of_lt hpos (by omega)] at heq
    omega

/-- Nor is a cell outside the buffer. -/
theorem window_update_of_out {mem : ℤ → α} {size : ℕ} {w : ℤ} (hsize : 0 < size)
    (hout : w < 0 ∨ size ≤ w) (v : ℤ) (n : ℕ) (x : α) :
    window (Function.update mem w x) size v n = window mem size v n := by
  refine List.map_congr_left fun k _ => Function.update_of_ne ?_ _ _
  have hnonneg := Int.emod_nonneg (v - n + k) (show (size : ℤ) ≠ 0 by omega)
  have hlt := Int.emod_lt_of_pos (v - n + k) (show (0 : ℤ) < size by omega)
  omega

/-- Filling the cell at the write index and moving on appends its contents. -/
theorem window_push (mem : ℤ → α) {size : ℕ} {w : ℤ} {n : ℕ} (hw : 0 ≤ w) (hlt : w < size) :
    window mem size ((w + 1) % size) (n + 1) = window mem size w n ++ [mem w] := by
  rw [window_emod, window, List.range_succ, List.map_append, List.map_singleton]
  congr 1
  · refine List.map_congr_left fun k _ => congrArg mem ?_
    congr 1
    push_cast
    omega
  · rw [show w + 1 - ((n + 1 : ℕ) : ℤ) + n = w by push_cast; omega, Int.emod_eq_of_lt hw hlt]

/-- Dropping from the front keeps the write index. -/
theorem window_sub (mem : ℤ → α) (size : ℕ) (w : ℤ) {n j : ℕ} (hj : j ≤ n) :
    window mem size w (n - j) = (window mem size w n).drop j := by
  apply List.ext_getElem
  · simp
  intro i hi hi'
  simp only [window, List.getElem_map, List.getElem_range, List.getElem_drop]
  congr 2
  push_cast [hj]
  omega

/-- Cells read one after the other from index `r`, stepping around the end. -/
def readFrom (mem : ℤ → α) (size : ℕ) (r : ℤ) : ℕ → List α
  | 0 => []
  | j + 1 => mem r :: readFrom mem size ((r + 1) % size) j

/-- Reading from the oldest cell takes from the front. -/
theorem readFrom_eq_take (mem : ℤ → α) (size : ℕ) (w : ℤ) {n j : ℕ} (hj : j ≤ n) :
    readFrom mem size ((w - n) % size) j = (window mem size w n).take j := by
  induction j generalizing n with
  | zero => rfl
  | succ j ih =>
    obtain ⟨n, rfl⟩ : ∃ m, n = m + 1 := ⟨n - 1, by omega⟩
    have htail := ih (show j ≤ n by omega)
    -- the next cell to read is the oldest of a window one shorter
    have hnext : ((w - ((n + 1 : ℕ) : ℤ)) % size + 1) % size = (w - n) % size := by
      rw [Int.emod_add_emod]
      congr 1
      push_cast
      omega
    have hcons : window mem size w (n + 1)
        = mem ((w - ((n + 1 : ℕ) : ℤ)) % size) :: window mem size w n := by
      rw [window, List.range_succ_eq_map, List.map_cons, List.map_map]
      congr 1
      · congr 2
        push_cast
        omega
      · refine List.map_congr_left fun k _ => congrArg mem ?_
        congr 1
        push_cast
        omega
    rw [readFrom, hnext, htail, hcons, List.take_succ_cons]

end RingWindow
