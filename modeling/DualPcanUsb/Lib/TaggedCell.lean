/-
A cell that does not say what it holds.

Values of several kinds are stored into one cell, such as the members of a union; whoever
uses or undoes the value says what he takes it for. For the specification only, a cell
here remembers which value it holds and what was done so far. It is used faithfully if
every use and every undo takes the value for what it was stored as, and every value stored
is undone exactly once, or held still. For each operation there is the exact condition on
the cell under which it keeps this.
-/
import Mathlib

set_option autoImplicit false

namespace TaggedCell

/-- A value: what it was stored as, and which of the values stored it is. -/
structure Held (τ : Type*) where
  kind : τ
  name : ℕ
deriving DecidableEq

/-- What is done with a cell; a use or an undo finds in it what it held then. -/
inductive Event (τ : Type*)
  | stored (value : Held τ)
  | used (taken_for : τ) (found : Option (Held τ))
  | undone (taken_for : τ) (found : Option (Held τ))
deriving DecidableEq

variable {τ : Type*}

/-- A value found is one of the kind it is taken for. -/
def Event.Right : Event τ → Prop
  | .stored _ => True
  | .used taken_for found => found.map Held.kind = some taken_for
  | .undone taken_for found => found.map Held.kind = some taken_for

/-- A trace is right up to its last event, and that one is. -/
theorem Event.right_concat_iff (trace : List (Event τ)) (event : Event τ) :
    (∀ event' ∈ trace ++ [event], event'.Right)
      ↔ (∀ event' ∈ trace, event'.Right) ∧ event.Right := by
  rw [List.forall_mem_append, List.forall_mem_singleton]

/-- A cell and its past. A value held was stored, and has not been undone since. -/
structure Cell (τ : Type*) where
  held : Option (Held τ)
  next : ℕ
  trace : List (Event τ)
  stored_lt : ∀ value, .stored value ∈ trace → value.name < next
  undone_stored : ∀ kind value, .undone kind (some value) ∈ trace → .stored value ∈ trace
  held_stored : ∀ value, held = some value → .stored value ∈ trace
  held_not_undone : ∀ kind value, held = some value → .undone kind (some value) ∉ trace

namespace Cell

/-- A cell nothing was done with. -/
def fresh : Cell τ where
  held := none
  next := 0
  trace := []
  stored_lt := by simp
  undone_stored := by simp
  held_stored := by simp
  held_not_undone := by simp

/-- A new value takes the place of what the cell holds. -/
def store (c : Cell τ) (kind : τ) : Cell τ where
  held := some ⟨kind, c.next⟩
  next := c.next + 1
  trace := c.trace ++ [.stored ⟨kind, c.next⟩]
  stored_lt := by
    intro value h
    rcases List.mem_append.mp h with h | h
    · exact Nat.lt_succ_of_lt (c.stored_lt value h)
    · obtain rfl := Event.stored.inj (List.mem_singleton.mp h)
      exact Nat.lt_succ_self _
  undone_stored := by
    intro kind' value h
    have h : Event.undone kind' (some value) ∈ c.trace := by simpa using h
    exact List.mem_append_left _ (c.undone_stored kind' value h)
  held_stored := by
    intro value h
    obtain rfl := Option.some.inj h
    simp
  held_not_undone := by
    intro kind' value h hundone
    obtain rfl := Option.some.inj h
    have hundone : Event.undone kind' (some ⟨kind, c.next⟩) ∈ c.trace := by simpa using hundone
    exact lt_irrefl _ (c.stored_lt _ (c.undone_stored _ _ hundone))

/-- The value is used for one of a kind. -/
def use (c : Cell τ) (kind : τ) : Cell τ where
  held := c.held
  next := c.next
  trace := c.trace ++ [.used kind c.held]
  stored_lt := by simpa using c.stored_lt
  undone_stored := by simpa using c.undone_stored
  held_stored := by simpa using c.held_stored
  held_not_undone := by simpa using c.held_not_undone

/-- The value is undone as one of a kind, and the cell emptied. -/
def undo (c : Cell τ) (kind : τ) : Cell τ where
  held := none
  next := c.next
  trace := c.trace ++ [.undone kind c.held]
  stored_lt := by simpa using c.stored_lt
  undone_stored := by
    intro kind' value h
    refine List.mem_append_left _ ?_
    rcases List.mem_append.mp h with h | h
    · exact c.undone_stored kind' value h
    · obtain ⟨-, hheld⟩ := Event.undone.inj (List.mem_singleton.mp h)
      exact c.held_stored value hheld.symm
  held_stored := by simp
  held_not_undone := by simp

/-- The cell is emptied, whatever it holds. -/
def clear (c : Cell τ) : Cell τ where
  held := none
  next := c.next
  trace := c.trace
  stored_lt := c.stored_lt
  undone_stored := c.undone_stored
  held_stored := by simp
  held_not_undone := by simp

@[simp] theorem store_held (c : Cell τ) (kind : τ) :
    (c.store kind).held = some ⟨kind, c.next⟩ := rfl

@[simp] theorem use_held (c : Cell τ) (kind : τ) : (c.use kind).held = c.held := rfl

@[simp] theorem undo_held (c : Cell τ) (kind : τ) : (c.undo kind).held = none := rfl

@[simp] theorem clear_held (c : Cell τ) : c.clear.held = none := rfl

/-- The cell holds a value of the kind. -/
def Holds (c : Cell τ) (kind : τ) : Prop := c.held.map Held.kind = some kind

instance [DecidableEq τ] (c : Cell τ) (kind : τ) : Decidable (c.Holds kind) :=
  inferInstanceAs (Decidable (_ = _))

theorem not_holds_of_empty {c : Cell τ} (h : c.held = none) (kind : τ) : ¬ c.Holds kind := by
  simp [Holds, h]

theorem holds_store (c : Cell τ) (kind : τ) : (c.store kind).Holds kind := rfl

@[simp] theorem holds_use_iff (c : Cell τ) (kind kind' : τ) :
    (c.use kind).Holds kind' ↔ c.Holds kind' := Iff.rfl

theorem Holds.unique {c : Cell τ} {kind kind' : τ} (h : c.Holds kind) (h' : c.Holds kind') :
    kind = kind' :=
  Option.some.inj (h.symm.trans h')

theorem Holds.ne_none {c : Cell τ} {kind : τ} (h : c.Holds kind) : c.held ≠ none :=
  fun hnone => not_holds_of_empty hnone kind h

/-! ## Faithful use -/

section

variable [DecidableEq τ]

/-- Every value stored has been undone exactly once, or never and is held. -/
def UndoneOnce (c : Cell τ) : Prop :=
  ∀ value, .stored value ∈ c.trace →
    c.trace.count (.undone value.kind (some value)) = if c.held = some value then 0 else 1

structure Faithful (c : Cell τ) : Prop where
  right : ∀ event ∈ c.trace, event.Right
  undone_once : c.UndoneOnce

theorem faithful_iff (c : Cell τ) :
    c.Faithful ↔ (∀ event ∈ c.trace, event.Right) ∧ c.UndoneOnce :=
  ⟨fun h => ⟨h.right, h.undone_once⟩, fun h => ⟨h.1, h.2⟩⟩

theorem faithful_fresh : (fresh : Cell τ).Faithful :=
  ⟨by simp [fresh], by simp [UndoneOnce, fresh]⟩

theorem count_undone_held (c : Cell τ) {value : Held τ} (h : c.held = some value) :
    c.trace.count (.undone value.kind (some value)) = 0 :=
  List.count_eq_zero.mpr (c.held_not_undone _ value h)

/-- What is lost from the cell without being undone never is. -/
theorem UndoneOnce.empty_of_lost {c c' : Cell τ} (h : c'.UndoneOnce)
    (hstored : ∀ value, .stored value ∈ c.trace → .stored value ∈ c'.trace)
    (hcount : ∀ value, c'.trace.count (.undone value.kind (some value))
      = c.trace.count (.undone value.kind (some value)))
    (hlost : ∀ value, c.held = some value → c'.held ≠ some value) : c.held = none := by
  by_contra hne
  obtain ⟨value, hvalue⟩ := Option.ne_none_iff_exists'.mp hne
  have honce := h value (hstored value (c.held_stored value hvalue))
  rw [hcount, c.count_undone_held hvalue, if_neg (hlost value hvalue)] at honce
  exact zero_ne_one honce

/-- A use undoes nothing. -/
theorem undone_once_use_iff (c : Cell τ) (kind : τ) :
    (c.use kind).UndoneOnce ↔ c.UndoneOnce := by
  refine forall_congr' fun value => ?_
  have hstored : .stored value ∈ (c.use kind).trace ↔ .stored value ∈ c.trace := by simp [use]
  have hcount : (c.use kind).trace.count (.undone value.kind (some value))
      = c.trace.count (.undone value.kind (some value)) := by simp [use]
  rw [hstored, hcount, use_held]

/-- A use is right exactly if the cell holds what it is used as. -/
theorem faithful_use_iff (c : Cell τ) (kind : τ) :
    (c.use kind).Faithful ↔ c.Faithful ∧ c.Holds kind := by
  have hright : (∀ event ∈ (c.use kind).trace, event.Right)
      ↔ (∀ event ∈ c.trace, event.Right) ∧ c.Holds kind := Event.right_concat_iff _ _
  rw [faithful_iff, faithful_iff, hright, undone_once_use_iff, and_right_comm]

/-- An undo counts for the value held, and for no other. -/
theorem count_undo {c : Cell τ} {kind : τ} (h : c.Holds kind) (value : Held τ) :
    (c.undo kind).trace.count (.undone value.kind (some value))
      = c.trace.count (.undone value.kind (some value))
        + if c.held = some value then 1 else 0 := by
  by_cases hvalue : c.held = some value
  · have hkind : value.kind = kind := by simpa [Holds, hvalue] using h
    simp [undo, hvalue, hkind]
  · simp [undo, hvalue]

/-- What is held is undone once. -/
theorem undone_once_undo_iff {c : Cell τ} {kind : τ} (h : c.Holds kind) :
    (c.undo kind).UndoneOnce ↔ c.UndoneOnce := by
  have hstored : ∀ value, .stored value ∈ (c.undo kind).trace ↔ .stored value ∈ c.trace := by
    simp [undo]
  refine forall_congr' fun value => ?_
  rw [hstored, count_undo h, undo_held, if_neg (Option.some_ne_none value).symm]
  refine imp_congr_right fun _ => ?_
  split
  · omega
  · rfl

/-- Undoing is right exactly if the cell holds what is undone. -/
theorem faithful_undo_iff (c : Cell τ) (kind : τ) :
    (c.undo kind).Faithful ↔ c.Faithful ∧ c.Holds kind := by
  have hright : (∀ event ∈ (c.undo kind).trace, event.Right)
      ↔ (∀ event ∈ c.trace, event.Right) ∧ c.Holds kind := Event.right_concat_iff _ _
  rw [faithful_iff, faithful_iff, hright, and_right_comm]
  refine and_congr_left fun h => ?_
  rw [undone_once_undo_iff h]

/-- A store loses what was held, if anything was. -/
theorem undone_once_store_iff (c : Cell τ) (kind : τ) :
    (c.store kind).UndoneOnce ↔ c.UndoneOnce ∧ c.held = none := by
  have hcount : ∀ value, (c.store kind).trace.count (.undone value.kind (some value))
      = c.trace.count (.undone value.kind (some value)) := by
    intro value
    simp [store]
  -- the new value is none of the old ones
  have hnew : ∀ value, .stored value ∈ c.trace → (c.store kind).held ≠ some value := by
    intro value hv heq
    obtain rfl := Option.some.inj heq
    exact lt_irrefl _ (c.stored_lt _ hv)
  constructor
  · intro h
    have hempty : c.held = none := h.empty_of_lost (fun _ => List.mem_append_left _) hcount
      fun value hvalue => hnew value (c.held_stored value hvalue)
    refine ⟨fun value hv => ?_, hempty⟩
    rw [← hcount, h value (List.mem_append_left _ hv), if_neg (hnew value hv), hempty,
      if_neg (Option.some_ne_none value).symm]
  · rintro ⟨h, hempty⟩ value hv
    rcases List.mem_append.mp hv with hv | hv
    · rw [hcount, h value hv, if_neg (hnew value hv), hempty,
        if_neg (Option.some_ne_none value).symm]
    · obtain rfl := Event.stored.inj (List.mem_singleton.mp hv)
      rw [count_undone_held _ rfl, store_held, if_pos rfl]

/-- A store is right exactly if the cell was empty. -/
theorem faithful_store_iff (c : Cell τ) (kind : τ) :
    (c.store kind).Faithful ↔ c.Faithful ∧ c.held = none := by
  have hright : (∀ event ∈ (c.store kind).trace, event.Right)
      ↔ (∀ event ∈ c.trace, event.Right) ∧ True := Event.right_concat_iff _ _
  rw [faithful_iff, faithful_iff, hright, and_true, undone_once_store_iff, and_assoc]

/-- A cell is left with nothing to undo exactly if it was empty. -/
theorem undone_once_clear_iff (c : Cell τ) :
    c.clear.UndoneOnce ↔ c.UndoneOnce ∧ c.held = none := by
  constructor
  · intro h
    have hempty : c.held = none :=
      h.empty_of_lost (fun _ hv => hv) (fun _ => rfl) fun value _ =>
        (Option.some_ne_none value).symm
    refine ⟨fun value hv => ?_, hempty⟩
    rw [hempty]
    exact h value hv
  · rintro ⟨h, hempty⟩ value hv
    have honce := h value hv
    rwa [hempty] at honce

theorem faithful_clear_iff (c : Cell τ) : c.clear.Faithful ↔ c.Faithful ∧ c.held = none := by
  rw [faithful_iff, faithful_iff, undone_once_clear_iff, and_assoc]
  rfl

end

end Cell

end TaggedCell
