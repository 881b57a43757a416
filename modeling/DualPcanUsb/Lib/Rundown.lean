/-
A resource behind a gate and a count.

A user looks at the gate, and raises the count only behind it; whoever tears the resource
down shuts the gate and waits until the count is zero. A user between the look and the
count is inside without being counted, so a count of zero means that nobody is inside only
if nobody is just there. Behind a shut gate it then stays so.
-/
import DualPcanUsb.Lib.Roles

set_option autoImplicit false

namespace Rundown

/-- A user: outside, let in but not counted yet, or counted. -/
inductive Role
  | out | admitted | counted
deriving DecidableEq, Repr

structure State where
  gate : Bool
  count : ℤ
  users : List Role

inductive Event
  | gate (shown : Bool)
  | enter
  | pass (i : ℕ)
  | count (i : ℕ)
  | leave (i : ℕ)

/-- One step, if the user is where the event starts from. -/
def State.step (s : State) : Event → Option State
  | .gate shown => some { s with gate := shown }
  | .enter => some { s with users := s.users ++ [.out] }
  | .pass i =>
    if s.gate = true ∧ s.users[i]? = some .out then
      some { s with users := s.users.set i .admitted }
    else none
  | .count i =>
    if s.users[i]? = some .admitted then
      some { s with users := s.users.set i .counted, count := s.count + 1 }
    else none
  | .leave i =>
    if s.users[i]? = some .counted then
      some { s with users := s.users.set i .out, count := s.count - 1 }
    else none

theorem step_pass {s : State} {i : ℕ} (hgate : s.gate = true) (h : s.users[i]? = some .out) :
    s.step (.pass i) = some ⟨s.gate, s.count, s.users.set i .admitted⟩ := by
  rw [State.step, if_pos ⟨hgate, h⟩]

theorem step_count {s : State} {i : ℕ} (h : s.users[i]? = some .admitted) :
    s.step (.count i) = some ⟨s.gate, s.count + 1, s.users.set i .counted⟩ := by
  rw [State.step, if_pos h]

theorem step_leave {s : State} {i : ℕ} (h : s.users[i]? = some .counted) :
    s.step (.leave i) = some ⟨s.gate, s.count - 1, s.users.set i .out⟩ := by
  rw [State.step, if_pos h]

/-! ## The count -/

def Inv (s : State) : Prop := s.count = s.users.count .counted

/-- Each event moves the count with the user that it counts. -/
theorem inv_step (s : State) (event : Event) (s' : State) (hinv : Inv s)
    (hstep : s.step event = some s') : Inv s' := by
  unfold Inv at hinv ⊢
  cases event with
  | gate shown =>
    obtain rfl := Option.some.inj hstep
    exact hinv
  | enter =>
    obtain rfl := Option.some.inj hstep
    simpa using hinv
  | pass i =>
    obtain ⟨⟨-, hout⟩, heq⟩ := Option.ite_none_right_eq_some.mp hstep
    obtain rfl := Option.some.inj heq
    have hcount := Roles.count_set hout .admitted .counted
    simp only [reduceCtorEq, if_false] at hcount
    dsimp only
    omega
  | count i =>
    obtain ⟨hadmitted, heq⟩ := Option.ite_none_right_eq_some.mp hstep
    obtain rfl := Option.some.inj heq
    have hcount := Roles.count_set hadmitted .counted .counted
    simp only [reduceCtorEq, if_false, if_true] at hcount
    dsimp only
    omega
  | leave i =>
    obtain ⟨hcounted, heq⟩ := Option.ite_none_right_eq_some.mp hstep
    obtain rfl := Option.some.inj heq
    have hcount := Roles.count_set hcounted .out .counted
    simp only [reduceCtorEq, if_false, if_true] at hcount
    dsimp only
    omega

/-! ## Nobody inside -/

def Idle (s : State) : Prop := ∀ role ∈ s.users, role = .out

/-- What a count of zero tells. -/
theorem idle_of_count {s : State} (hinv : Inv s) (hzero : s.count ≤ 0)
    (hnone : .admitted ∉ s.users) : Idle s := by
  intro role hmem
  cases role with
  | out => rfl
  | admitted => exact absurd hmem hnone
  | counted =>
    have hpos : 0 < s.users.count .counted := List.count_pos_iff.mpr hmem
    unfold Inv at hinv
    omega

/-- Behind a shut gate, nobody comes in any more. -/
theorem idle_step {s s' : State} {event : Event} (hshut : s.gate = false) (hidle : Idle s)
    (hstep : s.step event = some s') : Idle s' := by
  have hrole : ∀ {i : ℕ} {role : Role}, s.users[i]? = some role → role = .out :=
    fun h => hidle _ (List.mem_of_getElem? h)
  cases event with
  | gate shown =>
    obtain rfl := Option.some.inj hstep
    exact hidle
  | enter =>
    obtain rfl := Option.some.inj hstep
    intro role hmem
    rcases List.mem_append.mp hmem with hold | hnew
    · exact hidle role hold
    · exact List.mem_singleton.mp hnew
  | pass i =>
    have hgate := (Option.ite_none_right_eq_some.mp hstep).1.1
    rw [hshut] at hgate
    cases hgate
  | count i => cases hrole (Option.ite_none_right_eq_some.mp hstep).1
  | leave i => cases hrole (Option.ite_none_right_eq_some.mp hstep).1

end Rundown
