/-
Texts in a buffer that is used again.

A text stored at the front of a buffer covers what stood there; the rest stays. A C string
ends at the first NUL, so where the buffer was filled with NULs and the texts bring none,
the string in it is the last text with what longer ones have left behind it. Echoing the
string after every text gives back the texts exactly if none is shorter than the one before
it.
-/
import Mathlib

set_option autoImplicit false

namespace CString

/-! ## Texts over one another -/

section

variable {β : Type*}

/-- `bs`, stored at the front of `s`. -/
def overlay (bs s : List β) : List β := bs ++ s.drop bs.length

/-- What the texts make of `s`, one after the other. -/
def overlays (s : List β) (texts : List (List β)) : List β :=
  texts.foldl (fun s bs => overlay bs s) s

/-- All of it, shown again after every text. -/
def echo (s : List β) : List (List β) → List β
  | [] => []
  | bs :: texts => overlay bs s ++ echo (overlay bs s) texts

/-- A text over another is as long as the longer one. -/
@[simp] theorem length_overlay (bs s : List β) :
    (overlay bs s).length = max bs.length s.length := by
  rw [overlay, List.length_append, List.length_drop]
  omega

theorem overlay_of_le {bs s : List β} (h : s.length ≤ bs.length) : overlay bs s = bs := by
  rw [overlay, List.drop_eq_nil_of_le h, List.append_nil]

theorem overlay_append (bs s rest : List β) :
    overlay bs (s ++ rest) = overlay bs s ++ rest.drop (bs.length - s.length) := by
  rw [overlay, overlay, List.drop_append, List.append_assoc]

/-- The last text comes on top. -/
theorem overlays_concat (s : List β) (texts : List (List β)) (bs : List β) :
    overlays s (texts ++ [bs]) = overlay bs (overlays s texts) := by
  rw [overlays, List.foldl_append]
  rfl

/-- What is printed of a row ends with what is printed of its last text. -/
theorem echo_concat (s : List β) (texts : List (List β)) (bs : List β) :
    echo s (texts ++ [bs]) = echo s texts ++ overlay bs (overlays s texts) := by
  induction texts generalizing s with
  | nil => simp [echo, overlays]
  | cons bs' texts ih =>
    rw [List.cons_append, echo, echo, ih, List.append_assoc]
    rfl

/-- What is shown is at least what came. -/
theorem length_flatten_le_echo (s : List β) (texts : List (List β)) :
    texts.flatten.length ≤ (echo s texts).length := by
  induction texts generalizing s with
  | nil => exact Nat.zero_le _
  | cons bs texts ih =>
    have hrest := ih (overlay bs s)
    rw [List.flatten_cons, echo, List.length_append, List.length_append, length_overlay]
    omega

/-- And it is just that if no text leaves something of an earlier one. -/
theorem echo_eq_flatten_iff (s : List β) (texts : List (List β)) :
    echo s texts = texts.flatten
      ↔ (s :: texts).IsChain fun a b => a.length ≤ b.length := by
  induction texts generalizing s with
  | nil => simp [echo]
  | cons bs texts ih =>
    rw [List.isChain_cons_cons, echo, List.flatten_cons]
    constructor
    · intro h
      have hlen := congrArg List.length h
      have hrest := length_flatten_le_echo (overlay bs s) texts
      rw [List.length_append, List.length_append, length_overlay] at hlen
      have hle : s.length ≤ bs.length := by omega
      rw [overlay_of_le hle] at h
      exact ⟨hle, (ih bs).mp (List.append_cancel_left h)⟩
    · rintro ⟨hle, hchain⟩
      rw [overlay_of_le hle, (ih bs).mpr hchain]

end

/-! ## Strings in a buffer -/

section

variable {w : ℕ}

/-- What `%s` prints of an array: up to the first NUL, and without one the end of the array is
passed. -/
def print (buf : List (BitVec w)) : Option (List (BitVec w)) :=
  if 0 ∈ buf then some (buf.takeWhile (· ≠ 0)) else none

/-- The buffer holds a text, and NULs behind it. -/
structure Padded (buf s : List (BitVec w)) : Prop where
  not_nul : 0 ∉ s
  buf_eq : buf = s ++ List.replicate (buf.length - s.length) 0

theorem padded_replicate (n : ℕ) : Padded (List.replicate n (0 : BitVec w)) [] :=
  ⟨List.not_mem_nil, by simp⟩

variable {buf s : List (BitVec w)}

/-- A string that ends inside its buffer is printed as it is. -/
theorem Padded.print (h : Padded buf s) (hroom : s.length < buf.length) :
    CString.print buf = some s := by
  obtain ⟨n, hn⟩ : ∃ n, buf.length - s.length = n + 1 := ⟨buf.length - s.length - 1, by omega⟩
  have hbuf := h.buf_eq
  rw [hn, List.replicate_succ] at hbuf
  have hall : ∀ b ∈ s, decide (b ≠ 0) = true := by
    intro b hb
    exact decide_eq_true fun hzero => h.not_nul (hzero ▸ hb)
  rw [hbuf, CString.print, if_pos (by simp), List.takeWhile_append_of_pos hall]
  simp

/-- A text without NULs keeps it so. -/
theorem Padded.overlay (h : Padded buf s) {bs : List (BitVec w)} (hbs : 0 ∉ bs)
    (hfits : bs.length ≤ buf.length) : Padded (overlay bs buf) (CString.overlay bs s) := by
  refine ⟨?_, ?_⟩
  · rw [CString.overlay, List.mem_append]
    exact not_or.mpr ⟨hbs, fun hmem => h.not_nul (List.mem_of_mem_drop hmem)⟩
  · rw [length_overlay, length_overlay]
    conv_lhs => rw [h.buf_eq]
    rw [overlay_append, List.drop_replicate]
    congr 2
    omega

end

end CString
