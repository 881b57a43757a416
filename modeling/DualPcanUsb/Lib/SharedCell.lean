/-
One cell, many users.

Each user relies on something about the cell while it is between its own store and its last
load, and on nothing about it outside. What all users rely on is kept by every step that
leaves the cell alone, and by a store of a user that finds all others outside.
-/
import Mathlib

set_option autoImplicit false

namespace SharedCell

variable {α π : Type*} (relies : π → α → Prop)

/-- Every user finds in the cell what it relies on. -/
def Holds (cell : α) (users : List π) : Prop :=
  ∀ u ∈ users, relies u cell

/-- A user that is outside relies on nothing about the cell. -/
def Outside (u : π) : Prop :=
  ∀ c c', relies u c → relies u c'

/-- All users but the `i`-th are outside. -/
def Alone (outside : π → Prop) (users : List π) (i : ℕ) : Prop :=
  ∀ j u, users[j]? = some u → j ≠ i → outside u

instance (outside : π → Prop) [DecidablePred outside] (users : List π) (i : ℕ) :
    Decidable (Alone outside users i) :=
  decidable_of_iff (∀ j < users.length, ∀ u ∈ users[j]?, j ≠ i → outside u)
    ⟨fun h j u hu hne => h j (List.getElem?_eq_some_iff.mp hu).1 u hu hne,
      fun h j _ u hu hne => h j u hu hne⟩

variable {relies}

theorem holds_nil (cell : α) : Holds relies cell [] :=
  fun _ h => by cases h

/-- A new user may rely on what is there. -/
theorem Holds.append {cell : α} {users : List π} (h : Holds relies cell users) {u : π}
    (hu : relies u cell) : Holds relies cell (users ++ [u]) := by
  intro v hv
  rcases List.mem_append.mp hv with hv | hv
  · exact h v hv
  · obtain rfl := List.mem_singleton.mp hv
    exact hu

/-- A step that leaves the cell as it is. -/
theorem Holds.set {cell : α} {users : List π} (h : Holds relies cell users) (i : ℕ) {u : π}
    (hu : relies u cell) : Holds relies cell (users.set i u) := by
  intro v hv
  rcases List.mem_or_eq_of_mem_set hv with hv | rfl
  · exact h v hv
  · exact hu

/-- A store. -/
theorem Holds.store {outside : π → Prop} (houtside : ∀ u, outside u → Outside relies u)
    {cell cell' : α} {users : List π} (h : Holds relies cell users) {i : ℕ}
    (halone : Alone outside users i) {u : π} (hu : relies u cell') :
    Holds relies cell' (users.set i u) := by
  intro v hv
  obtain ⟨j, hj⟩ := List.mem_iff_getElem?.mp hv
  rw [List.getElem?_set] at hj
  by_cases hij : i = j
  · rw [if_pos hij] at hj
    split at hj
    · obtain rfl := Option.some.inj hj
      exact hu
    · cases hj
  · rw [if_neg hij] at hj
    exact houtside v (halone j v hj (Ne.symm hij)) cell cell' (h v (List.mem_of_getElem? hj))

end SharedCell
