/-
Ownership of dynamically named resources, on traces of actions.

A trace is a list of acquisitions, uses and releases, each of one resource. It is
disciplined when every resource, seen by itself, is either untouched or acquired,
used some number of times and released, with nothing behind the release. Traces
about different resources can be checked apart.
-/
import Mathlib

set_option autoImplicit false

namespace Ownership

inductive Action
  | acquire | use | release
deriving DecidableEq, Repr

section

variable {ι : Type*} [DecidableEq ι]

/-- The actions on the resource `i`. -/
def word (i : ι) (trace : List (ι × Action)) : List Action :=
  (trace.filter fun entry => entry.1 = i).map Prod.snd

/-- The life of one resource: nothing, or an acquisition, uses and one release. -/
inductive Balanced : List Action → Prop
  | untouched : Balanced []
  | owned (uses : ℕ) : Balanced (.acquire :: (List.replicate uses .use ++ [.release]))

/-- Every resource has a life of that form. -/
def Disciplined (trace : List (ι × Action)) : Prop := ∀ i, Balanced (word i trace)

theorem word_append (i : ι) (a b : List (ι × Action)) : word i (a ++ b) = word i a ++ word i b := by
  simp only [word, List.filter_append, List.map_append]

theorem word_eq_nil_of_forall_ne {i : ι} {trace : List (ι × Action)}
    (h : ∀ entry ∈ trace, entry.1 ≠ i) : word i trace = [] := by
  rw [word, List.filter_eq_nil_iff.mpr (by simpa using h), List.map_nil]

/-- A trace about one resource. -/
theorem word_map_mk (i j : ι) (actions : List Action) :
    word j (actions.map (Prod.mk i)) = if i = j then actions else [] := by
  by_cases hij : i = j
  · subst hij
    simp [word, List.filter_eq_self.mpr]
  · rw [if_neg hij]
    refine word_eq_nil_of_forall_ne ?_
    simp [hij]

theorem disciplined_nil : Disciplined ([] : List (ι × Action)) := fun _ => .untouched

/-- With a single resource the discipline is that of its actions. -/
theorem disciplined_map_mk_iff (i : ι) (actions : List Action) :
    Disciplined (actions.map (Prod.mk i)) ↔ Balanced actions := by
  constructor
  · intro h
    have hi := h i
    rwa [word_map_mk, if_pos rfl] at hi
  · intro h j
    rw [word_map_mk]
    split
    · exact h
    · exact .untouched

/-- Two traces without a common resource are disciplined together exactly when
each of them is. -/
theorem disciplined_append_iff {a b : List (ι × Action)}
    (hdisj : ∀ i, word i a = [] ∨ word i b = []) :
    Disciplined (a ++ b) ↔ Disciplined a ∧ Disciplined b := by
  constructor
  · intro h
    refine ⟨fun i => ?_, fun i => ?_⟩
    · have hi := h i
      rw [word_append] at hi
      rcases hdisj i with hnil | hnil
      · rw [hnil]; exact .untouched
      · rwa [hnil, List.append_nil] at hi
    · have hi := h i
      rw [word_append] at hi
      rcases hdisj i with hnil | hnil
      · rwa [hnil, List.nil_append] at hi
      · rw [hnil]; exact .untouched
  · rintro ⟨ha, hb⟩ i
    rw [word_append]
    rcases hdisj i with hnil | hnil
    · rw [hnil, List.nil_append]; exact hb i
    · rw [hnil, List.append_nil]; exact ha i

end

/-- A release ends a life. -/
theorem Balanced.release_notMem_dropLast {actions : List Action} (h : Balanced actions) :
    Action.release ∉ actions.dropLast := by
  cases h with
  | untouched => simp
  | owned uses =>
    -- the one release is the last action
    rw [← List.cons_append, List.dropLast_concat]
    simp

/-- No action may follow a release. -/
theorem not_balanced_of_after_release (before : List Action) {after : List Action}
    (h : after ≠ []) : ¬ Balanced (before ++ .release :: after) := by
  intro hbal
  refine hbal.release_notMem_dropLast ?_
  rw [List.dropLast_append_of_ne_nil (by simp), List.dropLast_cons_of_ne_nil h]
  simp

end Ownership
