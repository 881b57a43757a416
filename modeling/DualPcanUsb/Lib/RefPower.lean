/-
A switch shared by counted users.

Whoever raises the count to one switches on, whoever lowers it to zero switches
off, and both take some time after the count has changed, without a common lock.
Whether the switch is on is decided by the order in which the slow halves end, so
the count alone does not tell.

The discipline below is what makes the count right: a start fails only while no
second user relies on it, and a switch-off takes effect only while nobody uses the
switch, or while a start that will switch on again is under way.
-/
import DualPcanUsb.Lib.Roles

set_option autoImplicit false

namespace RefPower

/-- A user: not counted, counted and switching on, counted and relying on the
switch, or no longer counted and still to switch off. -/
inductive Role
  | out | starting | holding | leaving
deriving DecidableEq, Repr

structure State where
  count : ℤ
  on : Bool
  users : List Role

inductive Event
  | enter
  | arrive (i : ℕ)
  | started (i : ℕ)
  | failed (i : ℕ)
  | depart (i : ℕ)
  | off (i : ℕ)

def State.moved (s : State) (i : ℕ) (role : Role) : State :=
  { s with users := s.users.set i role }

@[simp] theorem moved_count (s : State) (i : ℕ) (role : Role) : (s.moved i role).count = s.count :=
  rfl

theorem moved_self {s : State} {i : ℕ} {role : Role} (h : s.users[i]? = some role) :
    s.moved i role = s := by
  rw [State.moved, Roles.set_self h]

/-- One step, if the user is where the event starts from. -/
def State.step (s : State) : Event → Option State
  | .enter => some { s with users := s.users ++ [.out] }
  | .arrive i =>
    if s.users[i]? = some .out then
      some { s.moved i (if s.count + 1 > 1 then .holding else .starting) with
        count := s.count + 1 }
    else none
  | .started i =>
    if s.users[i]? = some .starting then some { s.moved i .holding with on := true } else none
  | .failed i =>
    if s.users[i]? = some .starting then some { s.moved i .out with count := s.count - 1 }
    else none
  | .depart i =>
    if s.users[i]? = some .holding then
      some { s.moved i (if s.count - 1 < 1 then .leaving else .out) with count := s.count - 1 }
    else none
  | .off i =>
    if s.users[i]? = some .leaving then some { s.moved i .out with on := false } else none

/-- Arriving counts, and the first to arrive is to start. -/
theorem step_arrive {s : State} {i : ℕ} (h : s.users[i]? = some .out) :
    s.step (.arrive i) = some
      ⟨s.count + 1, s.on, s.users.set i (if s.count + 1 > 1 then .holding else .starting)⟩ := by
  rw [State.step, if_pos h]
  rfl

/-- A start that succeeds turns the power on. -/
theorem step_started {s : State} {i : ℕ} (h : s.users[i]? = some .starting) :
    s.step (.started i) = some ⟨s.count, true, s.users.set i .holding⟩ := by
  rw [State.step, if_pos h]
  rfl

/-- A start that fails takes the count back. -/
theorem step_failed {s : State} {i : ℕ} (h : s.users[i]? = some .starting) :
    s.step (.failed i) = some ⟨s.count - 1, s.on, s.users.set i .out⟩ := by
  rw [State.step, if_pos h]
  rfl

/-- Departing counts, and the last to depart is to turn off. -/
theorem step_depart {s : State} {i : ℕ} (h : s.users[i]? = some .holding) :
    s.step (.depart i) = some
      ⟨s.count - 1, s.on, s.users.set i (if s.count - 1 < 1 then .leaving else .out)⟩ := by
  rw [State.step, if_pos h]
  rfl

/-- Turning off ends the departure. -/
theorem step_off {s : State} {i : ℕ} (h : s.users[i]? = some .leaving) :
    s.step (.off i) = some ⟨s.count, false, s.users.set i .out⟩ := by
  rw [State.step, if_pos h]
  rfl

/-- The discipline, in the state before the event. -/
def Orderly (s : State) : Event → Prop
  | .failed _ => s.count ≤ 1
  | .off _ => s.count < 1 ∨ .starting ∈ s.users
  | _ => True

/-- The count is the counted users. The switch is on for those who rely on it, and
where it may be on without them, somebody is about to switch it off. -/
structure Inv (s : State) : Prop where
  count_eq : s.count = s.users.count .starting + s.users.count .holding
  one_starting : s.users.count .starting ≤ 1
  on_of_used : 0 < s.count → s.users.count .starting = 0 → s.on = true
  off_owed : s.count ≤ 0 ∨ 0 < s.users.count .starting → s.on = true →
    0 < s.users.count .leaving

/-- The roles' numbers behind `moved`. -/
theorem counts_moved {s : State} {i : ℕ} {old : Role} (h : s.users[i]? = some old) (new : Role) :
    ((s.moved i new).users.count .starting + (if old = .starting then 1 else 0)
        = s.users.count .starting + (if new = .starting then 1 else 0))
      ∧ ((s.moved i new).users.count .holding + (if old = .holding then 1 else 0)
        = s.users.count .holding + (if new = .holding then 1 else 0))
      ∧ ((s.moved i new).users.count .leaving + (if old = .leaving then 1 else 0)
        = s.users.count .leaving + (if new = .leaving then 1 else 0)) :=
  ⟨Roles.count_set h new _, Roles.count_set h new _, Roles.count_set h new _⟩

/-! ## Every orderly event keeps the invariant -/

/-- A new user does not count yet. -/
theorem inv_enter {s : State} (hinv : Inv s) : Inv { s with users := s.users ++ [.out] } := by
  obtain ⟨hcount, hone, hon, howed⟩ := hinv
  have hs : (s.users ++ [Role.out]).count .starting = s.users.count .starting := by simp
  have hh : (s.users ++ [Role.out]).count .holding = s.users.count .holding := by simp
  have hl : (s.users ++ [Role.out]).count .leaving = s.users.count .leaving := by simp
  -- a new user is not counted, so no number moves
  refine ⟨?_, ?_, ?_, ?_⟩ <;> dsimp only
  · rw [hs, hh]; exact hcount
  · rw [hs]; exact hone
  · rw [hs]; exact hon
  · rw [hs, hl]; exact howed

/-- Only one that finds nobody is to start. -/
theorem inv_arrive {s s' : State} {i : ℕ} (hinv : Inv s) (h : s.step (.arrive i) = some s') :
    Inv s' := by
  obtain ⟨hcount, hone, hon, howed⟩ := hinv
  rw [State.step] at h
  obtain ⟨hrole, heq⟩ := Option.ite_none_right_eq_some.mp h
  obtain rfl := Option.some.inj heq
  by_cases hjoin : s.count + 1 > 1
  · -- a later one relies on the starter, or on the switch that is on already
    obtain ⟨hs, hh, hl⟩ := counts_moved hrole .holding
    simp only [reduceCtorEq, if_true, if_false] at hs hh hl
    rw [if_pos hjoin]
    refine ⟨by dsimp only [moved_count]; omega, by dsimp only [moved_count]; omega, ?_, ?_⟩
    · intro _ hnone
      exact hon (by omega) (by dsimp only at hnone; omega)
    · intro hidle hison
      have := howed (by dsimp only at hidle; omega) hison
      dsimp only
      omega
  · -- the first finds nobody counted, so nobody starting either
    obtain ⟨hs, hh, hl⟩ := counts_moved hrole .starting
    simp only [reduceCtorEq, if_true, if_false] at hs hh hl
    rw [if_neg hjoin]
    refine ⟨by dsimp only [moved_count]; omega, by dsimp only [moved_count]; omega, ?_, ?_⟩
    · intro _ hnone
      dsimp only at hnone
      omega
    · intro _ hison
      -- idle before, so whoever left the switch on is still to turn it off
      have := howed (by omega) hison
      dsimp only
      omega

/-- With the power on, one more user holds it. -/
theorem inv_started {s s' : State} {i : ℕ} (hinv : Inv s) (h : s.step (.started i) = some s') :
    Inv s' := by
  obtain ⟨hcount, hone, hon, howed⟩ := hinv
  rw [State.step] at h
  obtain ⟨hrole, heq⟩ := Option.ite_none_right_eq_some.mp h
  obtain rfl := Option.some.inj heq
  obtain ⟨hs, hh, hl⟩ := counts_moved hrole .holding
  simp only [reduceCtorEq, if_true, if_false] at hs hh hl
  -- the starter was the only one, so the switch is nobody's to turn off
  refine ⟨by dsimp only [moved_count]; omega, by dsimp only [moved_count]; omega,
    fun _ _ => rfl, ?_⟩
  intro hidle _
  dsimp only [moved_count] at hidle
  omega

/-- A failed start may leave the power off, if nobody else has come to rely on it. -/
theorem inv_failed {s s' : State} {i : ℕ} (hinv : Inv s) (hlast : s.count ≤ 1)
    (h : s.step (.failed i) = some s') : Inv s' := by
  obtain ⟨hcount, hone, hon, howed⟩ := hinv
  rw [State.step] at h
  obtain ⟨hrole, heq⟩ := Option.ite_none_right_eq_some.mp h
  obtain rfl := Option.some.inj heq
  obtain ⟨hs, hh, hl⟩ := counts_moved hrole .out
  simp only [reduceCtorEq, if_true, if_false] at hs hh hl
  -- the starter was the only one counted, so the count is down to zero
  refine ⟨by dsimp only [moved_count]; omega, by dsimp only [moved_count]; omega, ?_, ?_⟩
  · intro hused
    dsimp only at hused
    omega
  · intro _ hison
    have := howed (by omega) hison
    dsimp only
    omega

/-- One that is not the last leaves the power to the others. -/
theorem inv_depart {s s' : State} {i : ℕ} (hinv : Inv s) (h : s.step (.depart i) = some s') :
    Inv s' := by
  obtain ⟨hcount, hone, hon, howed⟩ := hinv
  rw [State.step] at h
  obtain ⟨hrole, heq⟩ := Option.ite_none_right_eq_some.mp h
  obtain rfl := Option.some.inj heq
  by_cases hlast : s.count - 1 < 1
  · -- the last one is to switch off
    obtain ⟨hs, hh, hl⟩ := counts_moved hrole .leaving
    simp only [reduceCtorEq, if_true, if_false] at hs hh hl
    rw [if_pos hlast]
    refine ⟨by dsimp only [moved_count]; omega, by dsimp only [moved_count]; omega, ?_, ?_⟩
    · intro hused
      dsimp only at hused
      omega
    · intro _ _
      dsimp only
      omega
  · obtain ⟨hs, hh, hl⟩ := counts_moved hrole .out
    simp only [reduceCtorEq, if_true, if_false] at hs hh hl
    rw [if_neg hlast]
    refine ⟨by dsimp only [moved_count]; omega, by dsimp only [moved_count]; omega, ?_, ?_⟩
    · intro _ hnone
      exact hon (by omega) (by dsimp only at hnone; omega)
    · intro hidle hison
      have := howed (by dsimp only at hidle; omega) hison
      dsimp only
      omega

/-- Turning off does no harm with nobody counted, or with somebody about to turn it on. -/
theorem inv_off {s s' : State} {i : ℕ} (hinv : Inv s)
    (hidle : s.count < 1 ∨ .starting ∈ s.users) (h : s.step (.off i) = some s') : Inv s' := by
  obtain ⟨hcount, hone, hon, howed⟩ := hinv
  rw [State.step] at h
  obtain ⟨hrole, heq⟩ := Option.ite_none_right_eq_some.mp h
  obtain rfl := Option.some.inj heq
  obtain ⟨hs, hh, hl⟩ := counts_moved hrole .out
  simp only [reduceCtorEq, if_true, if_false] at hs hh hl
  refine ⟨by dsimp only [moved_count]; omega, by dsimp only [moved_count]; omega, ?_, ?_⟩
  · intro hused hnone
    dsimp only [moved_count] at hused hnone
    -- used and nobody starting contradicts the discipline
    rcases hidle with hunused | hstarting
    · omega
    · have := List.count_pos_iff.mpr hstarting
      omega
  · intro _ hison
    cases hison

/-- Every orderly event, by its case. -/
theorem inv_step (s : State) (event : Event) (s' : State) (hinv : Inv s)
    (horderly : Orderly s event) (h : s.step event = some s') : Inv s' := by
  cases event with
  | enter => obtain rfl := Option.some.inj h; exact inv_enter hinv
  | arrive i => exact inv_arrive hinv h
  | started i => exact inv_started hinv h
  | failed i => exact inv_failed hinv horderly h
  | depart i => exact inv_depart hinv h
  | off i => exact inv_off hinv horderly h

/-- With nobody on the way in or out, the switch is on exactly for those who hold it. -/
theorem Inv.on_iff_holding {s : State} (hinv : Inv s) (hstarting : .starting ∉ s.users)
    (hleaving : .leaving ∉ s.users) : s.on = true ↔ .holding ∈ s.users := by
  have hs := List.count_eq_zero.mpr hstarting
  have hl := List.count_eq_zero.mpr hleaving
  have hcount := hinv.count_eq
  rw [← List.count_pos_iff]
  constructor
  · intro hon
    -- nobody counted and still on: somebody owes the switch-off
    by_contra hnone
    have := hinv.off_owed (.inl (by omega)) hon
    omega
  · intro hholding
    exact hinv.on_of_used (by omega) hs

end RefPower
