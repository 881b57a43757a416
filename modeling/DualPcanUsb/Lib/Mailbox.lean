/-
A mailbox of bounded size that drops what comes while it is full.

`serve` runs a schedule of messages put in and of readers that take some from the front. What
is handed out, followed by what is left, is always a subsequence of what was put in, and all of
it as long as the box is never found full.
-/
import Mathlib

set_option autoImplicit false

namespace Mailbox

variable {α : Type*} (cap : ℕ)

/-- The box keeps the message if there is room. -/
def put (box : List α) (msg : α) : List α := if box.length < cap then box ++ [msg] else box

inductive Op (α : Type*)
  | put (msg : α)
  | take (n : ℕ)

/-- What a schedule hands out, and the box behind it. -/
def serve : List (Op α) → List α → List α × List α
  | [], box => ([], box)
  | .put msg :: ops, box => serve ops (put cap box msg)
  | .take n :: ops, box => (box.take n ++ (serve ops (box.drop n)).1, (serve ops (box.drop n)).2)

/-- The messages of a schedule. -/
def offered : List (Op α) → List α
  | [] => []
  | .put msg :: ops => msg :: offered ops
  | .take _ :: ops => offered ops

/-- The box has room whenever a message comes. -/
def KeepsUp : List (Op α) → List α → Prop
  | [], _ => True
  | .put msg :: ops, box => box.length < cap ∧ KeepsUp ops (box ++ [msg])
  | .take n :: ops, box => KeepsUp ops (box.drop n)

instance decidableKeepsUp : ∀ (ops : List (Op α)) (box : List α), Decidable (KeepsUp cap ops box)
  | [], _ => .isTrue trivial
  | .put msg :: ops, box =>
    have := decidableKeepsUp ops (box ++ [msg])
    inferInstanceAs (Decidable (box.length < cap ∧ KeepsUp cap ops (box ++ [msg])))
  | .take n :: ops, box => decidableKeepsUp ops (box.drop n)

/-- A schedule in two parts is served one after the other. -/
theorem serve_append (ops ops' : List (Op α)) : ∀ box : List α,
    serve cap (ops ++ ops') box
      = ((serve cap ops box).1 ++ (serve cap ops' (serve cap ops box).2).1,
          (serve cap ops' (serve cap ops box).2).2) := by
  induction ops with
  | nil => exact fun _ => rfl
  | cons op ops ih =>
    intro box
    cases op with
    | put msg => exact ih (put cap box msg)
    | take n =>
      rw [List.cons_append, serve, ih, serve, List.append_assoc]

/-- What two parts offer comes in that order. -/
theorem offered_append (ops ops' : List (Op α)) :
    offered (ops ++ ops') = offered ops ++ offered ops' := by
  induction ops with
  | nil => rfl
  | cons op ops ih =>
    cases op with
    | put msg => exact congrArg (msg :: ·) ih
    | take n => exact ih

/-- A row of messages offers just these. -/
theorem offered_puts (msgs : List α) : offered (msgs.map Op.put) = msgs := by
  induction msgs with
  | nil => rfl
  | cons msg msgs ih => exact congrArg (msg :: ·) ih

/-- A row of messages with no reader in between. -/
theorem serve_puts (msgs : List α) : ∀ box : List α,
    serve cap (msgs.map Op.put) box = ([], msgs.foldl (put cap) box) := by
  induction msgs with
  | nil => exact fun _ => rfl
  | cons msg msgs ih => exact fun box => ih (put cap box msg)

/-- Nothing is handed out twice, or out of order. -/
theorem serve_sublist (ops : List (Op α)) : ∀ box : List α,
    ((serve cap ops box).1 ++ (serve cap ops box).2).Sublist (box ++ offered ops) := by
  induction ops with
  | nil =>
    intro box
    rw [offered, List.append_nil]
    exact List.Sublist.refl box
  | cons op ops ih =>
    intro box
    cases op with
    | put msg =>
      refine (ih (put cap box msg)).trans ?_
      rw [offered, put]
      split
      · rw [List.append_assoc]
        exact List.Sublist.refl _
      · exact (List.sublist_cons_self msg (offered ops)).append_left box
    | take n =>
      rw [serve, List.append_assoc, offered]
      have hrest := (ih (box.drop n)).append_left (box.take n)
      rwa [← List.append_assoc (box.take n) (box.drop n), List.take_append_drop] at hrest

/-- A reader that keeps up loses nothing. -/
theorem serve_of_keepsUp (ops : List (Op α)) : ∀ {box : List α}, KeepsUp cap ops box →
    (serve cap ops box).1 ++ (serve cap ops box).2 = box ++ offered ops := by
  induction ops with
  | nil =>
    intro box _
    rw [offered, List.append_nil]
    rfl
  | cons op ops ih =>
    intro box hkeeps
    cases op with
    | put msg =>
      obtain ⟨hroom, hrest⟩ := hkeeps
      rw [serve, put, if_pos hroom, ih hrest, offered, List.append_assoc, List.singleton_append]
    | take n =>
      rw [serve, List.append_assoc, ih hkeeps, ← List.append_assoc, List.take_append_drop]
      rfl

end Mailbox
