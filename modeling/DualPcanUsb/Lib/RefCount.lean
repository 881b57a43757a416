/-
Reference counts.

An object is allocated with one reference, everyone who keeps it takes one more, and the
drop that leaves none frees it. While only holders take and drop, the count is the number
of holders, and the object has been freed exactly once when nobody holds it any more and
not at all before.
-/
import Mathlib

set_option autoImplicit false

namespace RefCount

/-- A reference count, with how often its object has been freed. -/
structure Kref where
  refs : ℤ
  freed : ℕ
deriving DecidableEq, Repr

def Kref.init : Kref := ⟨1, 0⟩

def Kref.get (kref : Kref) : Kref := { kref with refs := kref.refs + 1 }

/-- The drop that leaves no reference. -/
def Kref.last (kref : Kref) : Bool := kref.refs - 1 = 0

def Kref.put (kref : Kref) : Kref :=
  { refs := kref.refs - 1, freed := if kref.last then kref.freed + 1 else kref.freed }

/-- The references are those of so many holders. -/
structure Kref.HeldBy (kref : Kref) (holders : ℕ) : Prop where
  refs_eq : kref.refs = holders
  freed_eq : kref.freed = if holders = 0 then 1 else 0

theorem held_init : Kref.init.HeldBy 1 := ⟨rfl, rfl⟩

variable {kref : Kref} {holders : ℕ}

/-- Only a holder can hand out a reference. -/
theorem Kref.HeldBy.get (h : kref.HeldBy (holders + 1)) : kref.get.HeldBy (holders + 2) := by
  obtain ⟨hrefs, hfreed⟩ := h
  refine ⟨?_, ?_⟩
  · rw [Kref.get, hrefs]
    push_cast
    ring
  · rw [Kref.get, hfreed]
    rfl

/-- A put is the last one exactly if there is no other holder. -/
theorem Kref.HeldBy.last_iff (h : kref.HeldBy (holders + 1)) :
    kref.last = true ↔ holders = 0 := by
  rw [Kref.last, decide_eq_true_eq, h.refs_eq]
  push_cast
  omega

/-- Each put is of one holder. -/
theorem Kref.HeldBy.put (h : kref.HeldBy (holders + 1)) : kref.put.HeldBy holders := by
  refine ⟨?_, ?_⟩
  · rw [Kref.put, h.refs_eq]
    push_cast
    ring
  · rw [Kref.put, h.freed_eq]
    by_cases hzero : holders = 0
    · rw [if_pos (h.last_iff.mpr hzero), if_pos hzero]
      rfl
    · rw [if_neg (fun hlast => hzero (h.last_iff.mp hlast)), if_neg hzero]
      rfl

/-- Freed exactly once is held by nobody. -/
theorem Kref.HeldBy.freed_once_iff (h : kref.HeldBy holders) : kref.freed = 1 ↔ holders = 0 := by
  rw [h.freed_eq]
  by_cases hzero : holders = 0
  · rw [if_pos hzero]
    exact iff_of_true rfl hzero
  · rw [if_neg hzero]
    exact iff_of_false Nat.zero_ne_one hzero

end RefCount
