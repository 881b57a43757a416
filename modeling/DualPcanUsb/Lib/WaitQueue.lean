/-
Sleeping on a wait queue until a condition holds.

A waiter puts itself on the queue first, then looks at the parts of the condition one after
the other, and goes to sleep if it has seen all of them false. A waker makes a part hold
first and wakes the queue behind that; in between it owes a wake-up. So for a part that a
waiter on the queue has seen false and that holds by now, a wake-up is still to come: what
is looked at before the waiter is on the queue, or waited for without being looked at again,
has no such promise.
-/
import Mathlib

set_option autoImplicit false

namespace WaitQueue

variable {ι P : Type*}

/-- A waiter: not at the queue, taken off it by a wake-up, or on it, awake or asleep, with
the parts of the condition it has seen false since it is there. -/
inductive Waiter (P : Type*)
  | off
  | woken
  | on (asleep : Bool) (seen : List P)
deriving DecidableEq, Repr

def Waiter.seen : Waiter P → List P
  | .on _ seen => seen
  | .off | .woken => []

/-- A wake-up takes everybody off the queue. -/
def Waiter.wake : Waiter P → Waiter P
  | .on _ _ => .woken
  | .off => .off
  | .woken => .woken

/-- A look at a part that does not hold; it counts on the queue only. -/
def Waiter.look (p : P) : Waiter P → Waiter P
  | .on asleep seen => .on asleep (p :: seen)
  | .off => .off
  | .woken => .woken

@[simp] theorem seen_off : (Waiter.off : Waiter P).seen = [] := rfl

@[simp] theorem seen_woken : (Waiter.woken : Waiter P).seen = [] := rfl

@[simp] theorem seen_on (asleep : Bool) (seen : List P) : (Waiter.on asleep seen).seen = seen := rfl

@[simp] theorem seen_wake (w : Waiter P) : w.wake.seen = [] := by
  cases w <;> rfl

/-- What has been seen false is the part just looked at, or was seen before. -/
theorem mem_seen_look {p p' : P} {w : Waiter P} (h : p' ∈ (w.look p).seen) :
    p' = p ∨ p' ∈ w.seen := by
  cases w with
  | off => exact .inr h
  | woken => exact .inr h
  | on asleep seen => exact List.mem_cons.mp h

/-- The parts that hold, the parts a wake-up is owed for, and the waiters. -/
structure State (ι P : Type*) where
  ready : P → Bool
  owed : P → Bool
  waiters : ι → Waiter P

/-- For each part seen false that holds by now, a wake-up is owed. -/
def Covered (s : State ι P) : Prop :=
  ∀ i, ∀ p ∈ (s.waiters i).seen, s.ready p = true → s.owed p = true

/-- Nobody on the queue can miss anything. -/
theorem covered_of_off {s : State ι P} (h : ∀ i, s.waiters i = .off) : Covered s := by
  intro i p hp
  rw [h i] at hp
  cases hp

/-- The condition changes: a part that comes to hold has its wake-up owed, and what is owed
stays so, as far as anybody has seen the part false. -/
theorem Covered.change {s : State ι P} (h : Covered s) (ready owed : P → Bool)
    (hchange : ∀ p, ready p = true → (∃ i, p ∈ (s.waiters i).seen) →
      owed p = true ∨ s.ready p = true ∧ s.owed p = false) :
    Covered ⟨ready, owed, s.waiters⟩ := by
  intro i p hp hready
  rcases hchange p hready ⟨i, hp⟩ with howed | ⟨hready', howed'⟩
  · exact howed
  · -- it was covered already, so it was owed
    rw [h i p hp hready'] at howed'
    cases howed'

variable [DecidableEq ι]

/-- A waiter queues up, goes to sleep, wakes or leaves: it has seen nothing new. -/
theorem Covered.move {s : State ι P} (h : Covered s) (i : ι) (w : Waiter P)
    (hseen : ∀ p ∈ w.seen, p ∈ (s.waiters i).seen) :
    Covered { s with waiters := Function.update s.waiters i w } := by
  intro j p hp
  dsimp only at hp ⊢
  rcases eq_or_ne j i with rfl | hne
  · rw [Function.update_self] at hp
    exact h j p (hseen p hp)
  · rw [Function.update_of_ne hne] at hp
    exact h j p hp

/-- A waiter sees a part false. -/
theorem Covered.look {s : State ι P} (h : Covered s) (i : ι) {p : P} (hfalse : s.ready p = false) :
    Covered { s with waiters := Function.update s.waiters i ((s.waiters i).look p) } := by
  intro j p' hp'
  dsimp only at hp' ⊢
  rcases eq_or_ne j i with rfl | hne
  · rw [Function.update_self] at hp'
    rcases mem_seen_look hp' with rfl | hold
    · rw [hfalse]
      exact nofun
    · exact h j p' hold
  · rw [Function.update_of_ne hne] at hp'
    exact h j p' hp'

omit [DecidableEq ι] in
/-- Behind a wake-up, whatever holds and whatever is owed. -/
theorem covered_wake (ready owed : P → Bool) (waiters : ι → Waiter P) :
    Covered ⟨ready, owed, fun i => (waiters i).wake⟩ := by
  intro i p hp
  rw [seen_wake] at hp
  cases hp

end WaitQueue
