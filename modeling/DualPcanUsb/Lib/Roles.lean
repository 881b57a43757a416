/-
Counting users by their role.

The users of a shared thing are a list of roles. When one of them changes its role, one unit
moves between two counts and all others stay.
-/
import Mathlib

set_option autoImplicit false

namespace Roles

/-- One user exchanged moves a count by what it was and what it becomes. -/
theorem countP_set {α : Type*} (p : α → Bool) {users : List α} {i : ℕ} {old : α}
    (h : users[i]? = some old) (new : α) :
    (users.set i new).countP p + (if p old then 1 else 0)
      = users.countP p + (if p new then 1 else 0) := by
  obtain ⟨hi, rfl⟩ := List.getElem?_eq_some_iff.mp h
  -- the subtraction in `List.countP_set` never underflows
  have hle : (if p users[i] then 1 else 0) ≤ users.countP p := List.boole_getElem_le_countP hi
  rw [List.countP_set hi]
  omega

/-- One user exchanged moves the count of a role by what it was and what it becomes. -/
theorem count_set {α : Type*} [DecidableEq α] {users : List α} {i : ℕ} {old : α}
    (h : users[i]? = some old) (new role : α) :
    (users.set i new).count role + (if old = role then 1 else 0)
      = users.count role + (if new = role then 1 else 0) := by
  have hcount := countP_set (· == role) h new
  simpa only [List.count_eq_countP, beq_iff_eq] using hcount

/-- A new user counts for its own role. -/
theorem count_concat {α : Type*} [DecidableEq α] (users : List α) (new role : α) :
    (users ++ [new]).count role = users.count role + (if new = role then 1 else 0) := by
  rw [List.count_append, List.count_singleton]
  simp only [beq_iff_eq]

/-- A user that changes nothing about its role changes nothing. -/
theorem set_self {α : Type*} {users : List α} {i : ℕ} {role : α} (h : users[i]? = some role) :
    users.set i role = users := by
  obtain ⟨hi, rfl⟩ := List.getElem?_eq_some_iff.mp h
  exact List.set_getElem_self hi

end Roles
