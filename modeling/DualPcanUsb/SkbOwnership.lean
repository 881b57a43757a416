/-
The life of the socket buffers a packet causes to be allocated.

A buffer given to `netif_rx` or `dev_kfree_skb` belongs to the kernel, and neither
it nor the frame inside may be touched again. The failure path of `decode_data`
keeps to that. Both delivery paths count `frame->can_dlc` after `netif_rx`, and
`decode_data` copies the frame to the ring there, so the discipline holds exactly
for packets that deliver nothing to the network stack.
-/
import DualPcanUsb.PacketLoop
import DualPcanUsb.Lib.Ownership

set_option autoImplicit false

namespace DualPcanUsb

open Ownership

/-- What an event does to which buffer. -/
def Event.action : Event → Option (ℕ × Action)
  | .alloc_can_skb skb => some (skb, .acquire)
  | .access skb => some (skb, .use)
  | .netif_rx skb _ _ _ => some (skb, .release)
  | .dev_kfree_skb skb => some (skb, .release)
  | .can_bus_off => none
  | .compute_kernel_time _ => none

def skb_actions (events : List Event) : List (ℕ × Action) := events.filterMap Event.action

/-- The events `decode_incoming_buf` adds to the trace. -/
def packet_events (env : Env) (ibuf : ℕ → u8) (size : ℕ) (s : RxState) : List Event :=
  (decode_incoming_buf env ibuf size s).2.2.trace.drop s.trace.length

/-- What a packet logs is accounted for by the fates of its records. -/
theorem packet_events_spec (env : Env) (ibuf : ℕ → u8) (size : ℕ) (s : RxState) :
    FatesTrace env s.skbs (decode_incoming_buf env ibuf size s).2.2.skbs
      (packet_fates env ibuf size s) (packet_events env ibuf size s) := by
  obtain ⟨events, hevents, htrace⟩ := (decode_incoming_buf_fates env ibuf size s).trace
  rw [packet_events, hevents, List.drop_left]
  exact htrace

theorem skb_actions_append (a b : List Event) :
    skb_actions (a ++ b) = skb_actions a ++ skb_actions b := List.filterMap_append ..

/-- Socket buffers are numbered upward. -/
theorem RecordTrace.le {env : Env} {k k' : ℕ} {delivers : Option RecordKind}
    {events : List Event} (h : RecordTrace env k k' delivers events) : k ≤ k' := by
  cases h with
  | quiet _ hk => exact hk
  | in_place => exact le_rfl
  | _ => exact Nat.le_succ k

/-- A record's trace is about one fresh buffer, and it is a disciplined life of it
exactly when nothing is delivered. -/
theorem RecordTrace.actions {env : Env} {k k' : ℕ} {delivers : Option RecordKind}
    {events : List Event} (h : RecordTrace env k k' delivers events) :
    ∃ actions, skb_actions events = actions.map (Prod.mk k) ∧ (actions = [] ∨ k < k')
      ∧ (Balanced actions ↔ delivers = none) := by
  cases h with
  | quiet _ hk => exact ⟨[], rfl, .inl rfl, by simp [Balanced.untouched]⟩
  | in_place => exact ⟨[], rfl, .inl rfl, by simp [Balanced.untouched]⟩
  | freed stores =>
    refine ⟨.acquire :: (List.replicate stores .use ++ [.release]), ?_, .inr k.lt_succ_self, ?_⟩
    · simp [skb_actions, Event.action, List.filterMap_append, List.filterMap_replicate]
    · simp [Balanced.owned]
  | data frame hframe ts16 now slot =>
    let before : List Action := [.acquire, .use, .use, .use, .use]
    let after : List Action := .use :: if slot.isSome then [.use] else []
    refine ⟨before ++ .release :: after, ?_, .inr k.lt_succ_self, ?_⟩
    · cases slot <;> rfl
    -- the length is read for the statistics behind `netif_rx`
    · have hnot : ¬ Balanced (before ++ .release :: after) :=
        not_balanced_of_after_release before (List.cons_ne_nil _ _)
      simp only [hnot, reduceCtorEq]
  | status new_state status_len ts16 frame halloc now =>
    let before : List Action := .acquire :: .use ::
      if status_len &&& PCAN_USB_STATUSLEN_TIMESTAMP ≠ 0 then [.use] else []
    let after : List Action := [.use]
    refine ⟨before ++ .release :: after, ?_, .inr k.lt_succ_self, ?_⟩
    -- `can_bus_off` is no action on a buffer
    · unfold error_events
      by_cases hts : status_len &&& PCAN_USB_STATUSLEN_TIMESTAMP ≠ 0
      · simp only [before, if_pos hts]
        split_ifs <;> rfl
      · simp only [before, if_neg hts]
        split_ifs <;> rfl
    · have hnot : ¬ Balanced (before ++ .release :: after) :=
        not_balanced_of_after_release before (List.cons_ne_nil _ _)
      simp only [hnot, reduceCtorEq]

/-- The buffers of a row of records have numbers from `k` on. -/
theorem FatesTrace.word_eq_nil {env : Env} {k k' : ℕ} {fates : List Fate} {events : List Event}
    (h : FatesTrace env k k' fates events) {i : ℕ} (hi : i < k) :
    word i (skb_actions events) = [] := by
  induction h with
  | nil => rfl
  | cons head _ ih =>
    obtain ⟨actions, hactions, -, -⟩ := head.actions
    rw [skb_actions_append, word_append, ih (hi.trans_le head.le), hactions, word_map_mk,
      if_neg (by omega), List.append_nil]

/-- The discipline holds over a row of records exactly if none of them delivers. -/
theorem FatesTrace.disciplined_iff {env : Env} {k k' : ℕ} {fates : List Fate}
    {events : List Event} (h : FatesTrace env k k' fates events) :
    Disciplined (skb_actions events) ↔ ∀ fate ∈ fates, fate.delivers = none := by
  induction h with
  | nil => simp [skb_actions, disciplined_nil]
  | cons head tail ih =>
    rename_i k₀ k₁ _ _ _ _ _
    -- the record's buffer is new, so its life is over before the next record begins
    obtain ⟨actions, hactions, hfresh, hbalanced⟩ := head.actions
    rw [skb_actions_append, hactions, disciplined_append_iff, disciplined_map_mk_iff, hbalanced,
      ih, List.forall_mem_cons]
    -- later records use later numbers
    intro i
    rcases hfresh with rfl | hlt
    · exact .inl rfl
    by_cases hi : k₀ = i
    · exact .inr (tail.word_eq_nil (by omega))
    · rw [word_map_mk, if_neg hi]; exact .inl rfl

/-- Socket buffers are handled properly in exactly the packets of which no frame
is delivered. -/
theorem skb_discipline_iff (env : Env) (ibuf : ℕ → u8) (size : ℕ) (s : RxState) :
    Disciplined (skb_actions (packet_events env ibuf size s))
      ↔ ∀ fate ∈ packet_fates env ibuf size s, fate.delivers = none :=
  (packet_events_spec env ibuf size s).disciplined_iff

/-- One remote frame for id 1. -/
def remote_frame_packet : ℕ → u8 := buffer [0, 1, 0x10, 0x20, 0x00, 0x34, 0x12]

/-- The delivered buffer is accessed behind `netif_rx`. -/
theorem remote_frame_undisciplined :
    ¬ Disciplined (skb_actions (packet_events Env.plenty remote_frame_packet 7
      (RxState.idle true))) := by
  have hactions : skb_actions (packet_events Env.plenty remote_frame_packet 7 (RxState.idle true))
      = ([Action.acquire, .use, .use, .use, .use] ++ .release :: [Action.use]).map (Prod.mk 0) := by
    decide
  rw [hactions, disciplined_map_mk_iff]
  exact not_balanced_of_after_release _ (List.cons_ne_nil _ _)

end DualPcanUsb
