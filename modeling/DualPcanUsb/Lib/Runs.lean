/-
Runs of a system that takes one action at a time.

A step is a partial function of the state and the action; an action that is not
possible has no result. The rules reduce a statement about every state a run
reaches to one about a step: an invariant, without or with a condition on the
steps taken.
-/
import Mathlib

set_option autoImplicit false

namespace Runs

variable {σ α : Type*} (step : σ → α → Option σ)

/-- The state after a list of actions, if each was possible in its turn. -/
def run (s : σ) : List α → Option σ
  | [] => some s
  | a :: actions => (step s a).bind fun s' => run s' actions

/-- A condition on each step taken, in the state before it. -/
def Along (P : σ → α → Prop) (s : σ) : List α → Prop
  | [] => True
  | a :: actions => P s a ∧ ∀ s', step s a = some s' → Along P s' actions

/-- A decidable condition is decided by taking the run. -/
instance decidableAlong (P : σ → α → Prop) [∀ s a, Decidable (P s a)] :
    ∀ (s : σ) (actions : List α), Decidable (Along step P s actions)
  | _, [] => .isTrue trivial
  | s, a :: actions =>
    match hs : step s a with
    | none => decidable_of_iff (P s a) (by simp [Along, hs])
    | some s' =>
      have := decidableAlong P s' actions
      decidable_of_iff (P s a ∧ Along step P s' actions) (by simp [Along, hs])

/-- A run starts with its first step. -/
theorem run_cons_eq_some {s t : σ} {a : α} {actions : List α} :
    run step s (a :: actions) = some t
      ↔ ∃ s', step s a = some s' ∧ run step s' actions = some t := by
  rw [run, Option.bind_eq_some_iff]

/-- A step has one result. -/
theorem forall_next_iff {Q : σ → Prop} {s s' : σ} {a : α} (h : step s a = some s') :
    (∀ s₁, step s a = some s₁ → Q s₁) ↔ Q s' := by
  constructor
  · exact fun hall => hall s' h
  · intro hQ s₁ hs₁
    obtain rfl := Option.some.inj (h.symm.trans hs₁)
    exact hQ

/-- Along a run that goes through, the condition is one on the step and the rest. -/
theorem along_cons_iff {P : σ → α → Prop} {s s' : σ} {a : α} (h : step s a = some s')
    (actions : List α) : Along step P s (a :: actions) ↔ P s a ∧ Along step P s' actions := by
  rw [Along, forall_next_iff step h]

/-- Where a run goes through, and what holds of its end, are found by taking it. -/
theorem exists_run_of_any {P : σ → Prop} [DecidablePred P] {s : σ} {actions : List α}
    (h : (run step s actions).any (fun t => decide (P t)) = true) :
    ∃ t, run step s actions = some t ∧ P t := by
  obtain ⟨t, hrun, ht⟩ := (Option.any_eq_true _ _).mp h
  exact ⟨t, hrun, of_decide_eq_true ht⟩

/-- Two runs, one behind the other. -/
theorem run_append {s s' t : σ} {actions actions' : List α} (h : run step s actions = some s')
    (h' : run step s' actions' = some t) : run step s (actions ++ actions') = some t := by
  induction actions generalizing s with
  | nil =>
    rw [run, Option.some.injEq] at h
    exact h ▸ h'
  | cons a actions ih =>
    obtain ⟨s₁, hs₁, hrest⟩ := (run_cons_eq_some step).mp h
    exact (run_cons_eq_some step).mpr ⟨s₁, hs₁, ih hrest⟩

/-- Two conditions along a run are one. -/
theorem along_and {P Q : σ → α → Prop} {s : σ} {actions : List α} (hP : Along step P s actions)
    (hQ : Along step Q s actions) : Along step (fun s a => P s a ∧ Q s a) s actions := by
  induction actions generalizing s with
  | nil => trivial
  | cons a actions ih =>
    exact ⟨⟨hP.1, hQ.1⟩, fun s' hs' => ih (hP.2 s' hs') (hQ.2 s' hs')⟩

/-- A condition on the actions alone. -/
theorem along_of_mem {Q : α → Prop} {actions : List α} (h : ∀ a ∈ actions, Q a) (s : σ) :
    Along step (fun _ a => Q a) s actions := by
  induction actions generalizing s with
  | nil => trivial
  | cons a actions ih =>
    exact ⟨h a List.mem_cons_self, fun s' _ => ih (fun b hb => h b (List.mem_cons_of_mem a hb)) s'⟩

/-- A condition that keeps an invariant, and with it implies another one, implies it along
the whole run. -/
theorem along_of_inv {Inv : σ → Prop} {P Q : σ → α → Prop}
    (hstep : ∀ s a s', Inv s → P s a → step s a = some s' → Inv s')
    (himp : ∀ s a, Inv s → P s a → Q s a) {s : σ} (hinv : Inv s) {actions : List α}
    (halong : Along step P s actions) : Along step Q s actions := by
  induction actions generalizing s with
  | nil => trivial
  | cons a actions ih =>
    exact ⟨himp s a hinv halong.1, fun s' hs' =>
      ih (hstep s a s' hinv halong.1 hs') (halong.2 s' hs')⟩

/-- Two conditions that agree where the first keeps an invariant agree along runs. -/
theorem along_iff {Inv : σ → Prop} {P Q : σ → α → Prop}
    (hstep : ∀ s a s', Inv s → P s a → step s a = some s' → Inv s')
    (hiff : ∀ s a, Inv s → (P s a ↔ Q s a)) {s : σ} (hinv : Inv s) (actions : List α) :
    Along step P s actions ↔ Along step Q s actions := by
  constructor
  · exact along_of_inv step hstep (fun s a hinv => (hiff s a hinv).mp) hinv
  · refine along_of_inv step (fun s a s' hinv hQ => ?_) (fun s a hinv => (hiff s a hinv).mpr) hinv
    exact hstep s a s' hinv ((hiff s a hinv).mpr hQ)

/-- Along a run that goes through, they need to agree on possible steps only. -/
theorem along_iff_of_run {Inv : σ → Prop} {P Q : σ → α → Prop}
    (hstep : ∀ s a s', Inv s → Q s a → step s a = some s' → Inv s')
    (hiff : ∀ s a s', Inv s → step s a = some s' → (P s a ↔ Q s a)) {s t : σ} (hinv : Inv s)
    {actions : List α} (hrun : run step s actions = some t) :
    Along step P s actions ↔ Along step Q s actions := by
  induction actions generalizing s with
  | nil => exact Iff.rfl
  | cons a actions ih =>
    obtain ⟨s', hs', hrest⟩ := (run_cons_eq_some step).mp hrun
    rw [along_cons_iff step hs', along_cons_iff step hs', hiff s a s' hinv hs']
    refine and_congr_right fun hQ => ih (hstep s a s' hinv hQ hs') hrest

/-- What every step meeting the condition preserves holds behind every run of
such steps. -/
theorem run_invariant_along {Inv : σ → Prop} {P : σ → α → Prop}
    (hstep : ∀ s a s', Inv s → P s a → step s a = some s' → Inv s') {s t : σ}
    {actions : List α} (hinv : Inv s) (halong : Along step P s actions)
    (hrun : run step s actions = some t) : Inv t := by
  induction actions generalizing s with
  | nil =>
    rw [run, Option.some.injEq] at hrun
    exact hrun ▸ hinv
  | cons a actions ih =>
    obtain ⟨s', hs', hrest⟩ := (run_cons_eq_some step).mp hrun
    exact ih (hstep s a s' hinv halong.1 hs') (halong.2 s' hs') hrest

/-- The same with an invariant that also speaks about the actions taken so far. -/
theorem run_invariant_history {Inv : List α → σ → Prop} {P : σ → α → Prop}
    (hstep : ∀ past s a s', Inv past s → P s a → step s a = some s' → Inv (past ++ [a]) s')
    {s t : σ} {actions : List α} (past : List α) (hinv : Inv past s)
    (halong : Along step P s actions) (hrun : run step s actions = some t) :
    Inv (past ++ actions) t := by
  induction actions generalizing s past with
  | nil =>
    rw [run, Option.some.injEq] at hrun
    rw [List.append_nil]
    exact hrun ▸ hinv
  | cons a actions ih =>
    obtain ⟨s', hs', hrest⟩ := (run_cons_eq_some step).mp hrun
    have hnext := ih (past ++ [a]) (hstep past s a s' hinv halong.1 hs') (halong.2 s' hs') hrest
    rwa [List.append_assoc] at hnext

/-- What every step preserves holds behind every run. -/
theorem run_invariant {Inv : σ → Prop}
    (hstep : ∀ s a s', Inv s → step s a = some s' → Inv s') {s t : σ} {actions : List α}
    (hinv : Inv s) (hrun : run step s actions = some t) : Inv t := by
  induction actions generalizing s with
  | nil =>
    rw [run, Option.some.injEq] at hrun
    exact hrun ▸ hinv
  | cons a actions ih =>
    obtain ⟨s', hs', hrest⟩ := (run_cons_eq_some step).mp hrun
    exact ih (hstep s a s' hinv hs') hrest

/-- Each step seen as one of another system, or as none: so is the run. -/
theorem run_simulated {τ β : Type*} {step' : τ → β → Option τ} {view : σ → τ} {Inv : σ → Prop}
    (hstep : ∀ s a s', Inv s → step s a = some s' → Inv s')
    (hview : ∀ s a s', Inv s → step s a = some s' →
      view s' = view s ∨ ∃ b, step' (view s) b = some (view s')) {s t : σ} {actions : List α}
    (hinv : Inv s) (hrun : run step s actions = some t) :
    ∃ actions', run step' (view s) actions' = some (view t) := by
  induction actions generalizing s with
  | nil =>
    rw [run, Option.some.injEq] at hrun
    exact ⟨[], by rw [hrun]; rfl⟩
  | cons a actions ih =>
    obtain ⟨s', hs', hrest⟩ := (run_cons_eq_some step).mp hrun
    obtain ⟨actions', hrun'⟩ := ih (hstep s a s' hinv hs') hrest
    rcases hview s a s' hinv hs' with hsame | ⟨b, hb⟩
    · exact ⟨actions', hsame ▸ hrun'⟩
    · exact ⟨b :: actions', (run_cons_eq_some step').mpr ⟨_, hb, hrun'⟩⟩

/-- What holds before each step of a run and at its end holds at its start. -/
theorem along_head {P : σ → Prop} {s t : σ} {actions : List α}
    (halong : Along step (fun s _ => P s) s actions) (hrun : run step s actions = some t)
    (hend : P t) : P s := by
  cases actions with
  | nil =>
    rw [run, Option.some.injEq] at hrun
    exact hrun ▸ hend
  | cons a actions => exact halong.1

/-- If the steps meeting `P` keep a measure and all others lower it, a run keeps the
measure exactly if all its steps meet `P`. -/
theorem run_keeps_iff {μ : σ → ℕ} {P : σ → α → Prop} {Q : α → Prop}
    (hkeep : ∀ s a s', Q a → P s a → step s a = some s' → μ s' = μ s)
    (hlower : ∀ s a s', Q a → ¬ P s a → step s a = some s' → μ s' < μ s) {s t : σ}
    {actions : List α} (hQ : ∀ a ∈ actions, Q a) (hrun : run step s actions = some t) :
    μ t ≤ μ s ∧ (μ t = μ s ↔ Along step P s actions) := by
  induction actions generalizing s with
  | nil =>
    rw [run, Option.some.injEq] at hrun
    subst hrun
    exact ⟨le_rfl, fun _ => trivial, fun _ => rfl⟩
  | cons a actions ih =>
    obtain ⟨s', hs', hrest⟩ := (run_cons_eq_some step).mp hrun
    obtain ⟨hle, hiff⟩ := ih (fun b hb => hQ b (List.mem_cons_of_mem a hb)) hrest
    have ha := hQ a List.mem_cons_self
    rw [along_cons_iff step hs']
    by_cases hP : P s a
    · have heq := hkeep s a s' ha hP hs'
      rw [heq] at hle hiff
      exact ⟨hle, hiff.trans (and_iff_right hP).symm⟩
    · -- once lowered, the measure never comes back
      have hlt := hlower s a s' ha hP hs'
      exact ⟨by omega, fun heq => by omega, fun h => absurd h.1 hP⟩

/-- If, of an invariant's states, a step's result is good exactly if its start was and the
step meets `P`, a run from a good state ends in one exactly if all its steps meet `P`. -/
theorem run_good_iff {Inv Good : σ → Prop} {P : σ → α → Prop}
    (hinv : ∀ s a s', Inv s → step s a = some s' → Inv s')
    (hgood : ∀ s a s', Inv s → step s a = some s' → (Good s' ↔ Good s ∧ P s a)) {s t : σ}
    {actions : List α} (hs : Inv s) (hrun : run step s actions = some t) :
    Good t ↔ Good s ∧ Along step P s actions := by
  induction actions generalizing s with
  | nil =>
    rw [run, Option.some.injEq] at hrun
    subst hrun
    exact ⟨fun h => ⟨h, trivial⟩, fun h => h.1⟩
  | cons a actions ih =>
    obtain ⟨s', hs', hrest⟩ := (run_cons_eq_some step).mp hrun
    rw [along_cons_iff step hs', ih (hinv s a s' hs hs') hrest, hgood s a s' hs hs', and_assoc]

end Runs
