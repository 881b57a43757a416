/-
The transmit queue between `netif_stop_queue` and `netif_wake_queue`.

A transmit call stops the queue when all contexts are taken, and only a completion with
status 0 wakes it again, by design. So a stopped queue without a URB in flight is possible,
but only behind completions that failed, unless the last URB completes between the check of
`active_tx_urbs` and the stop that follows from it.
-/
import DualPcanUsb.TxAccounting

set_option autoImplicit false

namespace DualPcanUsb

open SlotLedger

section

variable {E : Type} {slots : EchoSlots E}

/-- A completion between the check and the stop of a transmit call leaves another URB in
flight. -/
def SparesWindow (tx : TxState E) : TxAction → Prop
  | .complete i _ => tx.xmit = .stopping → ∃ j, j ≠ i ∧ tx.in_flight j = true
  | _ => True

instance (tx : TxState E) : DecidablePred (SparesWindow tx)
  | .complete i _ =>
    inferInstanceAs (Decidable (tx.xmit = .stopping → ∃ j, j ≠ i ∧ tx.in_flight j = true))
  | .transmit _ _ _ | .check_active | .stop_queue | .detach => .isTrue trivial

/-- The queue was stopped by the last `netif_stop_queue` among `past`, and now a URB is in
flight, or a completion since then failed. -/
def StoppedBehind (past : List TxAction) (tx : TxState E) : Prop :=
  ∃ before after, past = before ++ .stop_queue :: after ∧ .stop_queue ∉ after
    ∧ ((∃ i, tx.in_flight i = true) ∨ ∃ i status, .complete i status ∈ after ∧ status ≠ 0)

variable (slots) in
/-- While the device is present: the accounting, and what a decision to stop rests on. -/
structure QueueInv (past : List TxAction) (tx : TxState E) : Prop where
  accounting : TxInv slots tx
  stopping : tx.xmit = .stopping → ∃ i, tx.in_flight i = true
  stopped : tx.queue_stopped = true → StoppedBehind past tx

/-- The next step is no stop, and a URB in flight stays, or it failed. -/
theorem StoppedBehind.next {past : List TxAction} {tx tx' : TxState E} {action : TxAction}
    (h : StoppedBehind past tx) (hnostop : action ≠ .stop_queue)
    (hnext : (∀ i, tx.in_flight i = true → tx'.in_flight i = true)
      ∨ ∃ i status, action = .complete i status ∧ status ≠ 0) :
    StoppedBehind (past ++ [action]) tx' := by
  obtain ⟨before, after, rfl, hlast, hwhy⟩ := h
  refine ⟨before, after ++ [action], by simp, ?_, ?_⟩
  · rw [List.mem_append, List.mem_singleton]
    rintro (hmem | heq)
    · exact hlast hmem
    · exact hnostop heq.symm
  · rcases hnext with hkeep | ⟨i, status, rfl, hfailed⟩
    · rcases hwhy with ⟨i, hi⟩ | ⟨i, status, hmem, hfailed⟩
      · exact .inl ⟨i, hkeep i hi⟩
      · exact .inr ⟨i, status, List.mem_append_left _ hmem, hfailed⟩
    · exact .inr ⟨i, status, List.mem_append_right _ (List.mem_singleton_self _), hfailed⟩

/-- A transmit call takes no URB back, and with the device still there leaves the queue
alone. -/
theorem Transmitted.queue {tx tx' : TxState E} (h : Transmitted slots tx tx')
    (hidle : tx.xmit = .idle) (hpresent : tx'.netif_device_present = true) :
    tx.netif_device_present = true ∧ tx'.queue_stopped = tx.queue_stopped
      ∧ tx'.xmit ≠ .stopping ∧ ∀ i, tx.in_flight i = true → tx'.in_flight i = true := by
  cases h with
  | refused hcontexts _ _ _ _ hpresent' hqueue hxmit =>
    refine ⟨hpresent' ▸ hpresent, hqueue, by rw [hxmit, hidle]; decide, fun i hi => ?_⟩
    rw [TxState.in_flight, hcontexts]
    exact hi
  | failed i hfree _ _ _ hcontexts _ _ _ _ hpresent' hxmit =>
    obtain ⟨hbefore, hqueue⟩ := hpresent' hpresent
    refine ⟨hbefore, hqueue, by rw [hxmit, hidle]; decide, fun j hj => ?_⟩
    rw [in_flight_update hcontexts]
    exact (congrFun (Function.update_eq_self i tx.in_flight) j).trans hj
  | sent i hfree _ hcontexts _ _ _ _ hpresent' hqueue hxmit =>
    refine ⟨hpresent' ▸ hpresent, hqueue, by rw [hxmit]; decide, fun j hj => ?_⟩
    rw [in_flight_update hcontexts]
    rcases eq_or_ne j i with rfl | hne
    · rw [Function.update_self]
    · rw [Function.update_of_ne hne]
      exact hj

variable (slots) in
/-- The invariant is about the device while it is present. -/
def QueueKept (past : List TxAction) (tx : TxState E) : Prop :=
  tx.netif_device_present = true → QueueInv slots past tx

/-- Whoever finds the tenth URB in flight stops the queue, unless the window is hit. -/
theorem queueKept_step (past : List TxAction) (tx : TxState E) (action : TxAction)
    (tx' : TxState E) (h : QueueKept slots past tx) (hspares : SparesWindow tx action)
    (hstep : tx.step slots action = some tx') : QueueKept slots (past ++ [action]) tx' := by
  intro hpresent'
  cases tx_step_cases slots hstep with
  | transmit frame invalid submit_err _ hidle htransmit hskbs =>
    obtain ⟨hpresent, hqueue, hxmit, hkeep⟩ := htransmit.queue hidle hpresent'
    have hinv := h hpresent
    refine ⟨hinv.accounting.transmitted htransmit hskbs, fun hstop => absurd hstop hxmit, ?_⟩
    intro hstopped
    exact (hinv.stopped (hqueue ▸ hstopped)).next (by simp) (.inl hkeep)
  | check_active hsubmitted =>
    have hinv := h hpresent'
    refine ⟨txInv_step tx .check_active _ hinv.accounting trivial hstep, ?_, ?_⟩
    · intro hstop
      -- ten active URBs were counted, so one of them is in flight
      have hten : tx.active_tx_urbs ≥ PCAN_USB_MAX_TX_URBS := by
        by_contra hfew
        rw [check_active_tx_urbs, if_neg hfew] at hstop
        cases hstop
      refine inUse_pos_iff.mp ?_
      have hactive := hinv.accounting.active_eq
      have hmax : PCAN_USB_MAX_TX_URBS = 10 := rfl
      change 0 < inUse tx.in_flight
      omega
    · intro hstopped
      exact (hinv.stopped hstopped).next (by simp) (.inl fun _ hi => hi)
  | stop_queue hstopping =>
    have hinv := h hpresent'
    refine ⟨txInv_step tx .stop_queue _ hinv.accounting trivial hstep, nofun, fun _ => ?_⟩
    exact ⟨past, [], rfl, List.not_mem_nil, .inl (hinv.stopping hstopping)⟩
  | complete i status _ hflight hcomplete hactive hskbs hxmit =>
    cases hcomplete with
    | kept habsent _ hsame =>
      rw [hsame, habsent] at hpresent'
      cases hpresent'
    | gave_back hpresent transfer_buffer hcontexts _ _ _ _ hqueue =>
      have hinv := h hpresent
      refine ⟨txInv_step tx (.complete i status) tx' hinv.accounting hpresent hstep, ?_, ?_⟩
      · intro hstop
        obtain ⟨j, hne, hj⟩ := hspares (hxmit ▸ hstop)
        exact ⟨j, by rw [in_flight_update hcontexts, Function.update_of_ne hne]; exact hj⟩
      · intro hstopped
        -- a success would have woken the queue
        rw [hqueue] at hstopped
        split at hstopped
        · cases hstopped
        · rename_i hfailed
          exact (hinv.stopped hstopped).next (by simp) (.inr ⟨i, status, rfl, hfailed⟩)
  | detach => cases hpresent'

/-- In every run in which no completion between the check and the stop of a transmit call
takes the last URB in flight: while the device is present, a stopped queue was stopped by a
transmit call, and still has a URB in flight unless a completion since the stop failed. -/
theorem stopped_queue_awaits_completion (slots : EchoSlots E) (tx₀ tx : TxState E)
    (actions : List TxAction) (hunused : tx₀.Unused slots) (hstarted : tx₀.queue_stopped = false)
    (hrun : Runs.run (TxState.step slots) tx₀ actions = some tx)
    (hspares : Runs.Along (TxState.step slots) SparesWindow tx₀ actions)
    (hpresent : tx.netif_device_present = true) (hstopped : tx.queue_stopped = true) :
    StoppedBehind actions tx := by
  have hkept : QueueKept slots ([] ++ actions) tx := by
    refine Runs.run_invariant_history (TxState.step slots) queueKept_step [] (fun _ => ?_) hspares
      hrun
    refine ⟨hunused.inv, fun hstop => ?_, fun hstop => ?_⟩
    · rw [hunused.xmit_eq] at hstop
      cases hstop
    · rw [hstarted] at hstop
      cases hstop
  exact (hkept hpresent).stopped hstopped

end

/-- Ten frames are sent, and the call of the last one stops the queue. -/
def ten_sent : List TxAction :=
  (List.replicate 10 [.transmit CanFrame.zero false 0, .check_active]).flatten ++ [.stop_queue]

theorem stopped_queue_awaits_completion_ten_sent :
    ∃ tx, Runs.run (TxState.step EchoSlots.kernel) TxState.opened ten_sent = some tx
      ∧ StoppedBehind ten_sent tx := by
  obtain ⟨tx, hrun, hpresent, hstopped⟩ :
      ∃ tx, Runs.run (TxState.step EchoSlots.kernel) TxState.opened ten_sent = some tx
        ∧ tx.netif_device_present = true ∧ tx.queue_stopped = true :=
    Runs.exists_run_of_any (TxState.step EchoSlots.kernel) (by decide)
  exact ⟨tx, hrun, stopped_queue_awaits_completion EchoSlots.kernel TxState.opened tx ten_sent
    TxState.opened_unused rfl hrun (by decide) hpresent hstopped⟩

/-- Then all ten fail. -/
def ten_failed : List TxAction :=
  ten_sent ++ (List.finRange PCAN_USB_MAX_TX_URBS).map fun i => .complete i (-EPROTO)

/-- The queue is stopped by a transmit call, no transmit call is in progress, the device is
present, and no URB is in flight. -/
theorem ten_failed_stalls :
    ∃ tx, TxState.opened.Unused EchoSlots.kernel
      ∧ Runs.run (TxState.step EchoSlots.kernel) TxState.opened ten_failed = some tx
      ∧ Runs.Along (TxState.step EchoSlots.kernel) SparesWindow TxState.opened ten_failed
      ∧ tx.netif_device_present = true ∧ tx.queue_stopped = true ∧ tx.xmit = .idle
      ∧ inUse tx.in_flight = 0 := by
  obtain ⟨tx, hrun, hbad⟩ :
      ∃ tx, Runs.run (TxState.step EchoSlots.kernel) TxState.opened ten_failed = some tx
        ∧ tx.netif_device_present = true ∧ tx.queue_stopped = true ∧ tx.xmit = .idle
        ∧ inUse tx.in_flight = 0 :=
    Runs.exists_run_of_any (TxState.step EchoSlots.kernel) (by decide)
  exact ⟨tx, TxState.opened_unused, hrun, by decide, hbad⟩

end DualPcanUsb
