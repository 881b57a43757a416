/-
A pool of slots, and what went in and out of it.

Each slot is free or in use; `inUse` counts. Things are put into empty slots and taken
out again, and the ledger lists both in order. `Balanced` says that the two lists and
the slots agree: what was put in has been taken out once, or is still in its slot.
-/
import Mathlib

set_option autoImplicit false

namespace SlotLedger

variable {ι : Type*}

/-! ## Counting -/

section Count

variable [Fintype ι]

/-- The number of slots in use. -/
def inUse (used : ι → Bool) : ℕ := (Finset.univ.filter fun i => used i = true).card

theorem inUse_le_card (used : ι → Bool) : inUse used ≤ Fintype.card ι :=
  Finset.card_le_univ _

/-- Some are in use exactly if one is. -/
theorem inUse_pos_iff {used : ι → Bool} : 0 < inUse used ↔ ∃ i, used i = true := by
  rw [inUse, Finset.card_pos]
  constructor
  · rintro ⟨i, hi⟩
    exact ⟨i, (Finset.mem_filter.mp hi).2⟩
  · rintro ⟨i, hi⟩
    exact ⟨i, Finset.mem_filter.mpr ⟨Finset.mem_univ i, hi⟩⟩

/-- As many are in use as there are exactly if each one is. -/
theorem inUse_eq_card_iff {used : ι → Bool} :
    inUse used = Fintype.card ι ↔ ∀ i, used i = true := by
  rw [inUse, Finset.card_eq_iff_eq_univ, Finset.filter_eq_self]
  simp

/-- Occupying a free slot counts one more. -/
theorem inUse_occupy [DecidableEq ι] {used : ι → Bool} {i : ι} (h : used i = false) :
    inUse (Function.update used i true) = inUse used + 1 := by
  have hinsert : (Finset.univ.filter fun j => Function.update used i true j = true)
      = insert i (Finset.univ.filter fun j => used j = true) := by
    ext j
    rcases eq_or_ne j i with rfl | hne
    · simp
    · simp [hne]
  rw [inUse, hinsert, Finset.card_insert_of_notMem (by simp [h])]
  rfl

/-- Vacating one counts one less. -/
theorem inUse_vacate [DecidableEq ι] {used : ι → Bool} {i : ι} (h : used i = true) :
    inUse (Function.update used i false) + 1 = inUse used := by
  -- occupying the slot again undoes it
  have hfree : Function.update used i false i = false := Function.update_self i false used
  have hback := inUse_occupy hfree
  rw [Function.update_idem, ← h, Function.update_eq_self] at hback
  exact hback.symm

end Count

/-! ## The ledger -/

variable {α : Type*}

/-- What was put in, what was taken out, and what the slots hold. -/
structure Balanced (stored released : List α) (slot : ι → Option α) : Prop where
  stored_nodup : stored.Nodup
  released_nodup : released.Nodup
  mem_stored_iff : ∀ x, x ∈ stored ↔ x ∈ released ∨ ∃ i, slot i = some x
  not_both : ∀ x i, slot i = some x → x ∉ released
  one_slot : ∀ x i j, slot i = some x → slot j = some x → i = j

/-- At first nothing is stored and nothing released. -/
theorem balanced_nil : Balanced ([] : List α) [] (fun _ : ι => none) where
  stored_nodup := List.nodup_nil
  released_nodup := List.nodup_nil
  mem_stored_iff := by simp
  not_both := by simp
  one_slot := by simp

variable [DecidableEq ι] {stored released : List α} {slot : ι → Option α} {i : ι} {x : α}

/-- Something new is put into an empty slot. -/
theorem Balanced.put (h : Balanced stored released slot) (hempty : slot i = none)
    (hnew : x ∉ stored) : Balanced (stored ++ [x]) released (Function.update slot i (some x)) := by
  have hold : ∀ y j, Function.update slot i (some x) j = some y →
      j = i ∧ y = x ∨ slot j = some y := by
    intro y j hj
    rcases eq_or_ne j i with rfl | hne
    · rw [Function.update_self] at hj
      exact .inl ⟨rfl, (Option.some.inj hj).symm⟩
    · rw [Function.update_of_ne hne] at hj
      exact .inr hj
  -- what a slot held before was stored before, so it is not the new one
  have hne : ∀ y j, slot j = some y → y ≠ x := by
    rintro y j hj rfl
    exact hnew ((h.mem_stored_iff y).mpr (.inr ⟨j, hj⟩))
  have hkeep : ∀ y j, slot j = some y → Function.update slot i (some x) j = some y := by
    intro y j hj
    rw [Function.update_of_ne]
    · exact hj
    · rintro rfl
      rw [hempty] at hj
      cases hj
  refine ⟨?_, h.released_nodup, ?_, ?_, ?_⟩
  · rw [List.nodup_append]
    refine ⟨h.stored_nodup, List.nodup_singleton x, ?_⟩
    rintro y hy z hz rfl
    exact hnew (List.mem_singleton.mp hz ▸ hy)
  · intro y
    rw [List.mem_append, List.mem_singleton, h.mem_stored_iff]
    constructor
    · rintro ((hy | ⟨j, hj⟩) | rfl)
      · exact .inl hy
      · exact .inr ⟨j, hkeep y j hj⟩
      · exact .inr ⟨i, Function.update_self i _ slot⟩
    · rintro (hy | ⟨j, hj⟩)
      · exact .inl (.inl hy)
      · rcases hold y j hj with ⟨-, rfl⟩ | hj
        · exact .inr rfl
        · exact .inl (.inr ⟨j, hj⟩)
  · intro y j hj
    rcases hold y j hj with ⟨-, rfl⟩ | hj
    · exact fun hy => hnew ((h.mem_stored_iff y).mpr (.inl hy))
    · exact h.not_both y j hj
  · intro y j k hj hk
    rcases hold y j hj with ⟨hji, hyx⟩ | hj' <;> rcases hold y k hk with ⟨hki, hyx'⟩ | hk'
    · exact hji.trans hki.symm
    · exact absurd hyx (hne y k hk')
    · exact absurd hyx' (hne y j hj')
    · exact h.one_slot y j k hj' hk'

/-- A slot is emptied, and what it held is released. -/
theorem Balanced.take (h : Balanced stored released slot) (hx : slot i = some x) :
    Balanced stored (released ++ [x]) (Function.update slot i none) := by
  have hold : ∀ y j, Function.update slot i none j = some y → j ≠ i ∧ slot j = some y := by
    intro y j hj
    rcases eq_or_ne j i with rfl | hne
    · rw [Function.update_self] at hj
      cases hj
    · rw [Function.update_of_ne hne] at hj
      exact ⟨hne, hj⟩
  refine ⟨h.stored_nodup, ?_, ?_, ?_, ?_⟩
  · rw [List.nodup_append]
    refine ⟨h.released_nodup, List.nodup_singleton x, ?_⟩
    rintro y hy z hz rfl
    exact h.not_both x i hx (List.mem_singleton.mp hz ▸ hy)
  · intro y
    rw [List.mem_append, List.mem_singleton, h.mem_stored_iff]
    constructor
    · rintro (hy | ⟨j, hj⟩)
      · exact .inl (.inl hy)
      · rcases eq_or_ne j i with rfl | hne
        · exact .inl (.inr (Option.some.inj (hj.symm.trans hx)))
        · exact .inr ⟨j, by rw [Function.update_of_ne hne]; exact hj⟩
    · rintro ((hy | rfl) | ⟨j, hj⟩)
      · exact .inl hy
      · exact .inr ⟨i, hx⟩
      · exact .inr ⟨j, (hold y j hj).2⟩
  · intro y j hj
    obtain ⟨hne, hj⟩ := hold y j hj
    rw [List.mem_append, List.mem_singleton]
    rintro (hy | rfl)
    · exact h.not_both y j hj hy
    -- it would have been in two slots
    · exact hne (h.one_slot y j i hj hx)
  · intro y j k hj hk
    exact h.one_slot y j k (hold y j hj).2 (hold y k hk).2

/-- Something new passes through an empty slot. -/
theorem Balanced.pass (h : Balanced stored released slot) (hempty : slot i = none)
    (hnew : x ∉ stored) : Balanced (stored ++ [x]) (released ++ [x]) slot := by
  have hback : Function.update (Function.update slot i (some x)) i none = slot := by
    rw [Function.update_idem, ← hempty, Function.update_eq_self]
  rw [← hback]
  exact (h.put hempty hnew).take (Function.update_self i _ slot)

omit [DecidableEq ι] in
/-- Something new is released at once and enters no slot. -/
theorem Balanced.refuse (h : Balanced stored released slot) (hnew : x ∉ stored) :
    Balanced (stored ++ [x]) (released ++ [x]) slot := by
  -- what was released or is held was stored before, so it is not the new one
  have hreleased : x ∉ released := fun hx => hnew ((h.mem_stored_iff x).mpr (.inl hx))
  refine ⟨?_, ?_, fun y => ?_, fun y j hj => ?_, h.one_slot⟩
  · rw [List.nodup_append_comm]
    exact List.nodup_cons.mpr ⟨hnew, h.stored_nodup⟩
  · rw [List.nodup_append_comm]
    exact List.nodup_cons.mpr ⟨hreleased, h.released_nodup⟩
  · rw [List.mem_append, List.mem_append, h.mem_stored_iff, or_right_comm]
  · rw [List.mem_append, List.mem_singleton]
    rintro (hy | rfl)
    · exact h.not_both y j hj hy
    · exact hnew ((h.mem_stored_iff y).mpr (.inr ⟨j, hj⟩))

end SlotLedger
