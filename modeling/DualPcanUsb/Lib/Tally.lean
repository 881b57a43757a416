/-
Counters that are kept beside a log.

A system appends to a log and adds to counters. `Tallied` says that between two states the
counters have grown by what the new entries weigh; it holds of a run as soon as it holds of
every step.
-/
import DualPcanUsb.Lib.Runs

set_option autoImplicit false

variable {σ ε M α : Type*} [AddMonoid M] {log : σ → List ε} {count : σ → M} {weight : ε → M}

/-- The log has grown, and the counters by the weight of what is new. -/
def Tallied (log : σ → List ε) (count : σ → M) (weight : ε → M) (s s' : σ) : Prop :=
  ∃ entries, log s' = log s ++ entries ∧ count s' = count s + (entries.map weight).sum

namespace Tallied

theorem of_same {s s' : σ} (hlog : log s' = log s) (hcount : count s' = count s) :
    Tallied log count weight s s' :=
  ⟨[], by rw [hlog, List.append_nil], by rw [hcount, List.map_nil, List.sum_nil, add_zero]⟩

theorem refl (s : σ) : Tallied log count weight s s := of_same rfl rfl

/-- Two parts of a run add up what each of them logs. -/
theorem trans {s s' s'' : σ} (h : Tallied log count weight s s')
    (h' : Tallied log count weight s' s'') : Tallied log count weight s s'' := by
  obtain ⟨entries, hlog, hcount⟩ := h
  obtain ⟨entries', hlog', hcount'⟩ := h'
  refine ⟨entries ++ entries', ?_, ?_⟩
  · rw [hlog', hlog, List.append_assoc]
  · rw [hcount', hcount, List.map_append, List.sum_append, add_assoc]

/-- A run tallies if each of its steps does. -/
theorem run {step : σ → α → Option σ} {P : α → Prop}
    (hstep : ∀ s a s', P a → step s a = some s' → Tallied log count weight s s')
    {s t : σ} {actions : List α} (hall : ∀ a ∈ actions, P a)
    (hrun : Runs.run step s actions = some t) : Tallied log count weight s t :=
  Runs.run_invariant_along step
    (fun u a u' hu hP hnext => hu.trans (hstep u a u' hP hnext)) (refl s)
    (Runs.along_of_mem step hall s) hrun

end Tallied
