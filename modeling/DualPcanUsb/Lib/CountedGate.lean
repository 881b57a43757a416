/-
A gate that counts first and looks afterwards.

Whoever comes raises the count and is let in if the raised count is within the limit;
whoever is turned away lowers it again, and so does whoever leaves. The count is therefore
all of those inside and those about to go away, and since the former are part of it, no
more than the limit are ever inside.
-/
import DualPcanUsb.Lib.Roles

set_option autoImplicit false

namespace CountedGate

/-- A user: not counted, counted and turned away, or counted and let in. -/
inductive Role
  | out | rejected | inside
deriving DecidableEq, Repr

structure State where
  count : ℤ
  users : List Role

inductive Event
  | enter
  | arrive (i : ℕ)
  | leave (i : ℕ)

/-- One step at a gate with a limit, if the user is where the event starts from. -/
def State.step (limit : ℕ) (s : State) : Event → Option State
  | .enter => some { s with users := s.users ++ [.out] }
  | .arrive i =>
    if s.users[i]? = some .out then
      some ⟨s.count + 1, s.users.set i (if s.count + 1 > limit then .rejected else .inside)⟩
    else none
  | .leave i =>
    if s.users[i]? = some .rejected ∨ s.users[i]? = some .inside then
      some ⟨s.count - 1, s.users.set i .out⟩
    else none

/-- One too many counts as well, and is turned away. -/
theorem step_turned_away {limit : ℕ} {s : State} {i : ℕ} (h : s.users[i]? = some .out)
    (hfull : s.count + 1 > limit) :
    s.step limit (.arrive i) = some ⟨s.count + 1, s.users.set i .rejected⟩ := by
  rw [State.step, if_pos h, if_pos hfull]

/-- One for whom there is room is let in. -/
theorem step_let_in {limit : ℕ} {s : State} {i : ℕ} (h : s.users[i]? = some .out)
    (hfree : ¬ s.count + 1 > limit) :
    s.step limit (.arrive i) = some ⟨s.count + 1, s.users.set i .inside⟩ := by
  rw [State.step, if_pos h, if_neg hfree]

/-- Whoever was counted in is counted out. -/
theorem step_leave {limit : ℕ} {s : State} {i : ℕ}
    (h : s.users[i]? = some .rejected ∨ s.users[i]? = some .inside) :
    s.step limit (.leave i) = some ⟨s.count - 1, s.users.set i .out⟩ := by
  rw [State.step, if_pos h]

structure Inv (limit : ℕ) (s : State) : Prop where
  count_eq : s.count = s.users.count .inside + s.users.count .rejected
  inside_le : s.users.count .inside ≤ limit

/-- The count is of those inside and those on their way out, so no more than the limit are let in.
-/
theorem inv_step {limit : ℕ} (s : State) (event : Event) (s' : State) (hinv : Inv limit s)
    (hstep : s.step limit event = some s') : Inv limit s' := by
  obtain ⟨hcount, hinside⟩ := hinv
  cases event with
  | enter =>
    obtain rfl := Option.some.inj hstep
    constructor <;> simpa [Roles.count_concat]
  | arrive i =>
    obtain ⟨hout, heq⟩ := Option.ite_none_right_eq_some.mp hstep
    obtain rfl := Option.some.inj heq
    -- within the limit, those inside are fewer than it was
    by_cases hfull : s.count + 1 > limit
    · have hin := Roles.count_set hout .rejected .inside
      have hrej := Roles.count_set hout .rejected .rejected
      simp only [reduceCtorEq, if_false, if_true] at hin hrej
      constructor <;> dsimp only <;> rw [if_pos hfull] <;> omega
    · have hin := Roles.count_set hout .inside .inside
      have hrej := Roles.count_set hout .inside .rejected
      simp only [reduceCtorEq, if_false, if_true] at hin hrej
      constructor <;> dsimp only <;> rw [if_neg hfull] <;> omega
  | leave i =>
    obtain ⟨hcounted, heq⟩ := Option.ite_none_right_eq_some.mp hstep
    obtain rfl := Option.some.inj heq
    rcases hcounted with hrejected | hin'
    · have hin := Roles.count_set hrejected .out .inside
      have hrej := Roles.count_set hrejected .out .rejected
      simp only [reduceCtorEq, if_false, if_true] at hin hrej
      constructor <;> dsimp only <;> omega
    · have hin := Roles.count_set hin' .out .inside
      have hrej := Roles.count_set hin' .out .rejected
      simp only [reduceCtorEq, if_false, if_true] at hin hrej
      constructor <;> dsimp only <;> omega

end CountedGate
