/-
What becomes of every socket buffer the stack hands over.

Beside the transmit path stands a ledger of its own: which buffer and which frame each URB
in flight was submitted for, and how every other buffer ended. The ledger does not disturb
the path. Over every run, a device that vanishes in the middle included, each buffer ends
once or is in flight, and the interface's counters say how many ended in which way. What a
vanished device costs is told as well: the contexts that are lost are those of the abandoned
buffers.
-/
import DualPcanUsb.TxAccounting
import DualPcanUsb.RoundTrip
import DualPcanUsb.Lib.Tally

set_option autoImplicit false

namespace DualPcanUsb

open SlotLedger

/-- How a socket buffer leaves the driver. -/
inductive Ending
  /-- Freed, and counted in `tx_dropped`. -/
  | dropped
  /-- Given back to the stack. -/
  | busy
  /-- Freed by a submission that found no device. -/
  | detached
  | sent
  | failed
  /-- Left in its slot by a completion without device. -/
  | abandoned
deriving DecidableEq, Repr

/-- What an ending adds to `tx_packets`, `tx_dropped` and `shared_tx_counter`. -/
def Ending.adds : Ending → ulong × ulong × u32
  | .dropped => (0, 1, 0)
  | .sent => (1, 0, 1)
  | .busy | .detached | .failed | .abandoned => 0

section

variable {E : Type} (slots : EchoSlots E)

def TxState.counts (tx : TxState E) : ulong × ulong × u32 :=
  (tx.stats.tx_packets, tx.stats.tx_dropped, tx.shared_tx_counter)

/-! ## The ledger -/

/-- What a transmit call does with its buffer: it ends, or a context takes it. -/
def TxState.fate (tx : TxState E) (invalid : Bool) (submit_err : Int) :
    Ending ⊕ Fin PCAN_USB_MAX_TX_URBS :=
  if tx.ctrlmode &&& CAN_CTRLMODE_LISTENONLY ≠ 0 then .inl .dropped
  else if invalid then .inl .dropped
  else
    match tx.free_context with
    | none => .inl .busy
    | some i =>
      if submit_err ≠ 0 then .inl (if submit_err = -ENODEV then .detached else .dropped)
      else .inr i

/-- What a completion makes of the buffer. -/
def TxState.completion (tx : TxState E) (status : Int) : Ending :=
  if ¬ tx.netif_device_present then .abandoned
  else if status = 0 then .sent
  else .failed

/-- The transmit path with its ledger: the buffer and the frame of each URB in flight, and
the buffers that ended, by their numbers. -/
structure TxLedger (E : Type) where
  tx : TxState E
  carried : Fin PCAN_USB_MAX_TX_URBS → Option (ℕ × CanFrame)
  ended : List (ℕ × Ending)

/-- The ledger behind a step to `tx'`. -/
def TxLedger.entered (l : TxLedger E) (tx' : TxState E) : TxAction → TxLedger E
  | .transmit frame invalid submit_err =>
    match l.tx.fate invalid submit_err with
    | .inl ending => ⟨tx', l.carried, l.ended ++ [(l.tx.skbs, ending)]⟩
    | .inr i => ⟨tx', Function.update l.carried i (some (l.tx.skbs, frame)), l.ended⟩
  | .complete i status =>
    ⟨tx', Function.update l.carried i none,
      l.ended ++ (l.carried i).toList.map fun c => (c.1, l.tx.completion status)⟩
  | .check_active | .stop_queue | .detach => ⟨tx', l.carried, l.ended⟩

def TxLedger.step (l : TxLedger E) (action : TxAction) : Option (TxLedger E) :=
  (l.tx.step slots action).map fun tx' => l.entered tx' action

/-- The buffers in flight, by number. -/
def TxLedger.carried_skb (l : TxLedger E) (i : Fin PCAN_USB_MAX_TX_URBS) : Option ℕ :=
  (l.carried i).map Prod.fst

/-- The ledger of an interface that has not sent anything yet. -/
def TxLedger.blank (tx : TxState E) : TxLedger E := ⟨tx, fun _ => none, []⟩

/-- The ledger is kept beside the machine and does not disturb it. -/
@[simp] theorem entered_tx (l : TxLedger E) (tx' : TxState E) (action : TxAction) :
    (l.entered tx' action).tx = tx' := by
  cases action with
  | transmit frame invalid submit_err =>
    rw [TxLedger.entered]
    split <;> rfl
  | _ => rfl

/-- A step of the ledger is one of the path, entered. -/
theorem ledger_step_eq_some {l l' : TxLedger E} {action : TxAction}
    (h : l.step slots action = some l') :
    l.tx.step slots action = some l'.tx ∧ l' = l.entered l'.tx action := by
  obtain ⟨tx', hstep, rfl⟩ := Option.map_eq_some_iff.mp h
  rw [entered_tx]
  exact ⟨hstep, rfl⟩

/-! ## The two functions, with their data -/

/-- A call whose buffer ends: contexts in use and their slots are left alone, and a free
context stays free. -/
structure Ends (ending : Ending) (tx tx' : TxState E) : Prop where
  skbs_eq : tx'.skbs = tx.skbs + 1
  counts_eq : tx'.counts = tx.counts + ending.adds
  active_eq : tx'.active_tx_urbs = tx.active_tx_urbs
  in_use : ∀ j, (tx.tx_contexts j).echo_index ≠ 0 →
    tx'.tx_contexts j = tx.tx_contexts j ∧ tx'.echo_skb slots j = tx.echo_skb slots j
  free : ∀ j, (tx.tx_contexts j).echo_index = 0 →
    (tx'.tx_contexts j).echo_index = 0 ∧ tx'.in_flight j = tx.in_flight j
      ∧ (tx.echo_skb slots j = none → tx'.echo_skb slots j = none)

/-- A call whose buffer the context `i` takes. -/
structure Takes (i : Fin PCAN_USB_MAX_TX_URBS) (tx tx' : TxState E) :
    Prop where
  skbs_eq : tx'.skbs = tx.skbs + 1
  counts_eq : tx'.counts = tx.counts
  active_eq : tx'.active_tx_urbs = tx.active_tx_urbs + 1
  contexts_eq : tx'.tx_contexts = Function.update tx.tx_contexts i
    ⟨BitVec.ofNat 32 (i + 1), (tx.tx_contexts i).transfer_buffer, true⟩
  echo_eq : tx'.echo = slots.can_put_echo_skb tx.skbs i tx.echo

variable {slots}

theorem counts_drop (tx : TxState E) : tx.drop.counts = tx.counts + Ending.dropped.adds := by
  simp [TxState.counts, TxState.drop, Ending.adds]

theorem counts_sent (packets dropped : ulong) (counter : u32) :
    (packets + 1, dropped, counter + 1) = (packets, dropped, counter) + Ending.sent.adds := by
  simp [Ending.adds]

/-- Only counters have changed. -/
theorem Ends.of_counted {tx tx' : TxState E} {ending : Ending} (hskbs : tx'.skbs = tx.skbs + 1)
    (hcounts : tx'.counts = tx.counts + ending.adds)
    (hactive : tx'.active_tx_urbs = tx.active_tx_urbs)
    (hcontexts : tx'.tx_contexts = tx.tx_contexts) (hecho : tx'.echo = tx.echo) :
    Ends slots ending tx tx' := by
  have hslots : tx'.echo_skb slots = tx.echo_skb slots := by
    unfold TxState.echo_skb
    rw [hecho]
  refine ⟨hskbs, hcounts, hactive, fun j _ => ?_, fun j hj => ?_⟩
  · rw [hcontexts, hslots]
    exact ⟨rfl, rfl⟩
  · rw [TxState.in_flight, hcontexts, hslots]
    exact ⟨hj, rfl, id⟩

/-- A submission failed: the context chosen was used and given back. -/
theorem Ends.of_failed {tx tx' : TxState E} {ending : Ending} {i : Fin PCAN_USB_MAX_TX_URBS}
    {transfer_buffer : ℕ} (hfree : tx.free_context = some i)
    (hskbs : tx'.skbs = tx.skbs + 1)
    (hcounts : tx'.counts = tx.counts + ending.adds)
    (hactive : tx'.active_tx_urbs = tx.active_tx_urbs)
    (hcontexts : tx'.tx_contexts = Function.update tx.tx_contexts i
      ⟨0, transfer_buffer, (tx.tx_contexts i).in_flight⟩)
    (hecho : tx'.echo
      = slots.can_free_echo_skb i (slots.can_put_echo_skb tx.skbs i tx.echo)) :
    Ends slots ending tx tx' := by
  have hzero := free_context_eq_some hfree
  have hother : ∀ j, j ≠ i → tx'.tx_contexts j = tx.tx_contexts j
      ∧ tx'.echo_skb slots j = tx.echo_skb slots j := by
    intro j hne
    have hval : j.val ≠ i.val := fun heq => hne (Fin.ext heq)
    refine ⟨by rw [hcontexts, Function.update_of_ne hne], ?_⟩
    rw [TxState.echo_skb, hecho, slots.free_other _ _ _ hval, slots.put_other _ _ _ _ hval]
    rfl
  refine ⟨hskbs, hcounts, hactive, fun j hj => hother j ?_, fun j hj => ?_⟩
  · rintro rfl
    exact hj hzero
  · rcases eq_or_ne j i with rfl | hne
    · rw [TxState.in_flight, hcontexts, Function.update_self]
      refine ⟨rfl, rfl, fun _ => ?_⟩
      rw [TxState.echo_skb, hecho]
      exact slots.free_self ..
    · obtain ⟨hsame, hslot⟩ := hother j hne
      rw [TxState.in_flight, hsame, hslot]
      exact ⟨hj, rfl, id⟩

/-- The call does what its fate says. -/
theorem start_transmit_ends {tx : TxState E} (frame : CanFrame) {invalid : Bool}
    {submit_err : Int} {ending : Ending} (hfate : tx.fate invalid submit_err = .inl ending) :
    Ends slots ending tx (pcan_net_start_transmit slots frame invalid submit_err tx).2 := by
  unfold TxState.fate at hfate
  unfold pcan_net_start_transmit
  dsimp only
  split at hfate
  · next hlisten =>
    cases hfate
    rw [if_pos hlisten]
    exact .of_counted rfl (counts_drop tx) rfl rfl rfl
  next hlisten =>
  rw [if_neg hlisten]
  split at hfate
  · next hinvalid =>
    cases hfate
    rw [if_pos hinvalid]
    exact .of_counted rfl (counts_drop tx) rfl rfl rfl
  next hinvalid =>
  rw [if_neg hinvalid]
  have hchoice : TxState.free_context { tx with skbs := tx.skbs + 1 } = tx.free_context := rfl
  rw [hchoice]
  cases hfree : tx.free_context with
  | none =>
    rw [hfree] at hfate
    cases hfate
    exact .of_counted rfl (add_zero _).symm rfl rfl rfl
  | some i =>
    rw [hfree] at hfate
    dsimp only at hfate ⊢
    have hslot : ∀ ctx : TxContext, ctx.echo_index = BitVec.ofNat 32 (i + 1) → ctx.slot = i :=
      fun ctx hidx => by rw [TxContext.slot, hidx, slot_of_taken]
    rw [hslot _ rfl]
    by_cases herr : submit_err ≠ 0
    · rw [if_pos herr] at hfate ⊢
      by_cases hgone : submit_err = -ENODEV
      · rw [if_pos hgone] at hfate ⊢
        cases hfate
        exact .of_failed hfree rfl (add_zero _).symm (Int.add_sub_cancel ..) (Function.update_idem ..) rfl
      · rw [if_neg hgone] at hfate ⊢
        cases hfate
        exact .of_failed hfree rfl (counts_drop tx) (Int.add_sub_cancel ..) (Function.update_idem ..) rfl
    · rw [if_neg herr] at hfate
      cases hfate

/-- A call that does not end its socket buffer puts it in flight with a free context. -/
theorem start_transmit_takes {tx : TxState E} (frame : CanFrame) {invalid : Bool}
    {submit_err : Int} {i : Fin PCAN_USB_MAX_TX_URBS}
    (hfate : tx.fate invalid submit_err = .inr i) :
    tx.free_context = some i
      ∧ Takes slots i tx (pcan_net_start_transmit slots frame invalid submit_err tx).2 := by
  unfold TxState.fate at hfate
  unfold pcan_net_start_transmit
  dsimp only
  split at hfate
  · cases hfate
  next hlisten =>
  rw [if_neg hlisten]
  split at hfate
  · cases hfate
  next hinvalid =>
  rw [if_neg hinvalid]
  have hchoice : TxState.free_context { tx with skbs := tx.skbs + 1 } = tx.free_context := rfl
  rw [hchoice]
  cases hfree : tx.free_context with
  | none =>
    rw [hfree] at hfate
    cases hfate
  | some k =>
    rw [hfree] at hfate
    dsimp only at hfate ⊢
    by_cases herr : submit_err ≠ 0
    · rw [if_pos herr] at hfate
      cases hfate
    · rw [if_neg herr] at hfate
      cases hfate
      have hslot : ∀ ctx : TxContext, ctx.echo_index = BitVec.ofNat 32 (i + 1) → ctx.slot = i :=
        fun ctx hidx => by rw [TxContext.slot, hidx, slot_of_taken]
      rw [hslot _ rfl, if_neg herr]
      exact ⟨rfl, rfl, rfl, rfl, Function.update_idem .., rfl⟩

variable (slots) in
/-- A completion: the URB is given back, and what else happens depends on how the buffer
ends. -/
structure Completes (ending : Ending) (i : Fin PCAN_USB_MAX_TX_URBS) (tx tx' : TxState E) :
    Prop where
  skbs_eq : tx'.skbs = tx.skbs
  counts_eq : tx'.counts = tx.counts + ending.adds
  active_eq : tx'.active_tx_urbs = tx.active_tx_urbs - 1
  contexts_eq : tx'.tx_contexts = Function.update tx.tx_contexts i
    ⟨if ending = .abandoned then (tx.tx_contexts i).echo_index else 0,
      (tx.tx_contexts i).transfer_buffer, false⟩
  echo_eq : tx'.echo = if ending = .abandoned then tx.echo
    else (slots.can_get_echo_skb (tx.tx_contexts i).slot tx.echo).2

/-- A completion ends the socket buffer of its context, in one of three ways. -/
theorem write_bulk_callback_completes (tx : TxState E) (i : Fin PCAN_USB_MAX_TX_URBS)
    (status : Int) :
    Completes slots (tx.completion status) i tx
      (usb_write_bulk_callback slots i status (tx.given_back i)) := by
  unfold usb_write_bulk_callback
  dsimp only
  by_cases hpresent : tx.netif_device_present = true
  · have hpresent' : (tx.given_back i).netif_device_present = true := hpresent
    rw [if_neg (not_not.mpr hpresent')]
    have hcontexts : Function.update (tx.given_back i).tx_contexts i
          { (tx.given_back i).tx_contexts i with echo_index := 0 }
        = Function.update tx.tx_contexts i ⟨0, (tx.tx_contexts i).transfer_buffer, false⟩ := by
      rw [given_back_self, TxState.given_back, TxState.set_context]
      exact Function.update_idem ..
    have hslot : ((tx.given_back i).tx_contexts i).slot = (tx.tx_contexts i).slot := by
      rw [given_back_self]
      rfl
    rw [hslot, TxState.completion, if_neg (not_not.mpr hpresent)]
    by_cases hok : status = 0
    · rw [if_pos hok, if_pos hok]
      exact ⟨rfl, counts_sent .., rfl, hcontexts, rfl⟩
    · rw [if_neg hok, if_neg hok]
      exact ⟨rfl, (add_zero _).symm, rfl, hcontexts, rfl⟩
  · have hpresent' : ¬ (tx.given_back i).netif_device_present = true := hpresent
    rw [if_pos hpresent', TxState.completion, if_pos hpresent]
    exact ⟨rfl, (add_zero _).symm, rfl, rfl, rfl⟩

/-! ## The invariant -/

variable (slots) in
/-- What the contexts, the slots and the ledger agree on, with or without device. A free
context has no URB in flight and an empty slot, so taking it overwrites nothing. -/
structure Carries (l : TxLedger E) : Prop where
  free : ∀ i, (l.tx.tx_contexts i).echo_index = 0 →
    l.tx.in_flight i = false ∧ l.tx.echo_skb slots i = none
  in_use : ∀ i, (l.tx.tx_contexts i).echo_index ≠ 0 →
    (l.tx.tx_contexts i).echo_index = BitVec.ofNat 32 (i + 1)
  carried_iff : ∀ i, (l.carried i).isSome = l.tx.in_flight i
  own_echo : ∀ i skb frame, l.carried i = some (skb, frame) →
    l.tx.echo_skb slots i = some skb ∨ l.tx.echo_skb slots i = none
  ledger : Balanced (List.range l.tx.skbs) (l.ended.map Prod.fst) l.carried_skb
  active_eq : l.tx.active_tx_urbs = inUse l.tx.in_flight

/-- An unused interface carries nothing. -/
theorem Carries.blank {tx : TxState E} (hunused : tx.Unused slots) (hskbs : tx.skbs = 0) :
    Carries slots (.blank tx) := by
  have hidle : tx.in_flight = fun _ => false := funext fun i => (hunused.contexts i).2
  refine ⟨fun i _ => ⟨(hunused.contexts i).2, hunused.slots_empty i⟩, fun i hi => ?_, fun i => ?_,
    nofun, ?_, ?_⟩
  · exact absurd (hunused.contexts i).1 hi
  · exact (hunused.contexts i).2.symm
  · change Balanced (List.range tx.skbs) [] fun _ => none
    rw [hskbs]
    exact balanced_nil
  · change tx.active_tx_urbs = inUse tx.in_flight
    rw [hunused.active_eq, hidle, inUse]
    simp

/-- What is in flight has its context. -/
theorem Carries.taken {l : TxLedger E} (h : Carries slots l) {i : Fin PCAN_USB_MAX_TX_URBS}
    (hflight : l.tx.in_flight i = true) : (l.tx.tx_contexts i).echo_index ≠ 0 := by
  intro hzero
  rw [(h.free i hzero).1] at hflight
  cases hflight

/-- What is carried is in flight. -/
theorem Carries.in_flight {l : TxLedger E} (h : Carries slots l) {i : Fin PCAN_USB_MAX_TX_URBS}
    {c : ℕ × CanFrame} (hc : l.carried i = some c) : l.tx.in_flight i = true := by
  rw [← h.carried_iff i, hc]
  rfl

/-- A call that ends its socket buffer at once puts nothing in flight. -/
theorem Ends.in_flight_eq {ending : Ending} {tx tx' : TxState E} (h : Ends slots ending tx tx') :
    tx'.in_flight = tx.in_flight := by
  funext j
  by_cases hj : (tx.tx_contexts j).echo_index = 0
  · exact (h.free j hj).2.1
  · rw [TxState.in_flight, (h.in_use j hj).1]
    rfl

/-- The next number is new. -/
theorem next_skb_new (skbs : ℕ) : skbs ∉ List.range skbs :=
  fun hmem => lt_irrefl _ (List.mem_range.mp hmem)

/-- The ledger gets an entry for a socket buffer ended at once. -/
theorem Carries.ends {l : TxLedger E} {tx' : TxState E} {ending : Ending} (h : Carries slots l)
    (hends : Ends slots ending l.tx tx') :
    Carries slots ⟨tx', l.carried, l.ended ++ [(l.tx.skbs, ending)]⟩ := by
  have hflight := hends.in_flight_eq
  -- a context is in use afterwards exactly if it was before
  have hzero : ∀ i, (tx'.tx_contexts i).echo_index = 0 → (l.tx.tx_contexts i).echo_index = 0 := by
    intro i hi
    by_contra huse
    rw [(hends.in_use i huse).1] at hi
    exact huse hi
  refine ⟨fun i hi => ?_, fun i hi => ?_, fun i => ?_, fun i skb frame hc => ?_, ?_, ?_⟩
  · obtain ⟨hidle, hempty⟩ := h.free i (hzero i hi)
    rw [hflight]
    exact ⟨hidle, (hends.free i (hzero i hi)).2.2 hempty⟩
  · have huse : (l.tx.tx_contexts i).echo_index ≠ 0 := fun hi' => hi (hends.free i hi').1
    change (tx'.tx_contexts i).echo_index = _
    rw [(hends.in_use i huse).1]
    exact h.in_use i huse
  · rw [hflight]
    exact h.carried_iff i
  · change tx'.echo_skb slots i = _ ∨ tx'.echo_skb slots i = _
    rw [(hends.in_use i (h.taken (h.in_flight hc))).2]
    exact h.own_echo i skb frame hc
  · change Balanced (List.range tx'.skbs) ((l.ended ++ [(l.tx.skbs, ending)]).map Prod.fst) _
    rw [hends.skbs_eq, List.range_succ, List.map_append]
    exact h.ledger.refuse (next_skb_new l.tx.skbs)
  · change tx'.active_tx_urbs = inUse tx'.in_flight
    rw [hflight, hends.active_eq]
    exact h.active_eq

/-- The ledger gets an entry for a socket buffer in flight. -/
theorem Carries.takes {l : TxLedger E} {tx' : TxState E} {frame : CanFrame}
    {i : Fin PCAN_USB_MAX_TX_URBS} (h : Carries slots l) (hfree : l.tx.free_context = some i)
    (htakes : Takes slots i l.tx tx') :
    Carries slots ⟨tx', Function.update l.carried i (some (l.tx.skbs, frame)), l.ended⟩ := by
  obtain ⟨hidle, hempty⟩ := h.free i (free_context_eq_some hfree)
  have hflight := in_flight_update htakes.contexts_eq
  have hself : l.carried i = none := by
    rw [← Option.not_isSome_iff_eq_none, h.carried_iff i, hidle]
    exact Bool.false_ne_true
  have hcontext : ∀ j, j ≠ i → tx'.tx_contexts j = l.tx.tx_contexts j := fun j hne => by
    rw [htakes.contexts_eq, Function.update_of_ne hne]
  have hslot : ∀ j, j ≠ i → tx'.echo_skb slots j = l.tx.echo_skb slots j := by
    intro j hne
    rw [TxState.echo_skb, htakes.echo_eq, slots.put_other _ _ _ _ fun heq => hne (Fin.ext heq)]
    rfl
  refine ⟨fun j hj => ?_, fun j hj => ?_, fun j => ?_, fun j skb frame' hc => ?_, ?_, ?_⟩
  all_goals dsimp only at *
  · rcases eq_or_ne j i with rfl | hne
    · rw [htakes.contexts_eq, Function.update_self] at hj
      exact absurd hj (taken_ne_zero j)
    · rw [hcontext j hne] at hj
      rw [hflight, Function.update_of_ne hne, hslot j hne]
      exact h.free j hj
  · rcases eq_or_ne j i with rfl | hne
    · rw [htakes.contexts_eq, Function.update_self]
    · rw [hcontext j hne] at hj ⊢
      exact h.in_use j hj
  · rw [hflight]
    rcases eq_or_ne j i with rfl | hne
    · rw [Function.update_self, Function.update_self]
      rfl
    · rw [Function.update_of_ne hne, Function.update_of_ne hne]
      exact h.carried_iff j
  · rcases eq_or_ne j i with rfl | hne
    · rw [Function.update_self] at hc
      cases hc
      rw [TxState.echo_skb, htakes.echo_eq]
      exact slots.put_self _ _ _ hempty
    · rw [Function.update_of_ne hne] at hc
      rw [hslot j hne]
      exact h.own_echo j skb frame' hc
  · have hcarried : TxLedger.carried_skb
          ⟨tx', Function.update l.carried i (some (l.tx.skbs, frame)), l.ended⟩
        = Function.update l.carried_skb i (some l.tx.skbs) := by
      funext j
      rcases eq_or_ne j i with rfl | hne
      · simp [TxLedger.carried_skb]
      · simp [TxLedger.carried_skb, Function.update_of_ne hne]
    rw [htakes.skbs_eq, List.range_succ, hcarried]
    refine h.ledger.put ?_ (next_skb_new l.tx.skbs)
    rw [TxLedger.carried_skb, hself]
    rfl
  · rw [hflight, inUse_occupy hidle, htakes.active_eq, h.active_eq]
    rfl

/-- An entry moves from those in flight to those ended. -/
theorem Carries.completes {l : TxLedger E} {tx' : TxState E} {ending : Ending}
    {i : Fin PCAN_USB_MAX_TX_URBS} (h : Carries slots l) (hflight : l.tx.in_flight i = true)
    (hcompletes : Completes slots ending i l.tx tx') :
    Carries slots ⟨tx', Function.update l.carried i none,
      l.ended ++ (l.carried i).toList.map fun c => (c.1, ending)⟩ := by
  have htaken := h.taken hflight
  have hslot : (l.tx.tx_contexts i).slot = i := by
    rw [TxContext.slot, h.in_use i htaken, slot_of_taken]
  obtain ⟨⟨skb, frame⟩, hself⟩ := Option.isSome_iff_exists.mp ((h.carried_iff i).trans hflight)
  have hflight' := in_flight_update hcompletes.contexts_eq
  have hcontext : ∀ j, j ≠ i → tx'.tx_contexts j = l.tx.tx_contexts j := fun j hne => by
    rw [hcompletes.contexts_eq, Function.update_of_ne hne]
  have hother : ∀ j, j ≠ i → tx'.echo_skb slots j = l.tx.echo_skb slots j := by
    intro j hne
    rw [TxState.echo_skb, hcompletes.echo_eq, hslot]
    split
    · rfl
    · exact slots.get_other _ _ _ fun heq => hne (Fin.ext heq)
  refine ⟨fun j hj => ?_, fun j hj => ?_, fun j => ?_, fun j skb' frame' hc => ?_, ?_, ?_⟩
  all_goals dsimp only at *
  · rcases eq_or_ne j i with rfl | hne
    · rw [hcompletes.contexts_eq, Function.update_self] at hj
      -- an abandoned context keeps its index
      have hgiven : ending ≠ .abandoned := by
        rintro rfl
        exact htaken hj
      rw [hflight', Function.update_self, TxState.echo_skb, hcompletes.echo_eq, if_neg hgiven,
        hslot]
      exact ⟨rfl, slots.get_self ..⟩
    · rw [hcontext j hne] at hj
      rw [hflight', Function.update_of_ne hne, hother j hne]
      exact h.free j hj
  · rcases eq_or_ne j i with rfl | hne
    · rw [hcompletes.contexts_eq, Function.update_self] at hj ⊢
      dsimp only at hj ⊢
      split at hj
      · next habandoned =>
        rw [if_pos habandoned]
        exact h.in_use j hj
      · exact absurd rfl hj
    · rw [hcontext j hne] at hj ⊢
      exact h.in_use j hj
  · rw [hflight']
    rcases eq_or_ne j i with rfl | hne
    · rw [Function.update_self, Function.update_self]
      rfl
    · rw [Function.update_of_ne hne, Function.update_of_ne hne]
      exact h.carried_iff j
  · rcases eq_or_ne j i with rfl | hne
    · rw [Function.update_self] at hc
      cases hc
    · rw [Function.update_of_ne hne] at hc
      rw [hother j hne]
      exact h.own_echo j skb' frame' hc
  · have hcarried : TxLedger.carried_skb
          ⟨tx', Function.update l.carried i none,
            l.ended ++ (l.carried i).toList.map fun c => (c.1, ending)⟩
        = Function.update l.carried_skb i none := by
      funext j
      rcases eq_or_ne j i with rfl | hne
      · simp [TxLedger.carried_skb]
      · simp [TxLedger.carried_skb, Function.update_of_ne hne]
    rw [hcompletes.skbs_eq, hcarried, hself, List.map_append]
    refine h.ledger.take ?_
    rw [TxLedger.carried_skb, hself]
    rfl
  · have hcount : inUse (Function.update l.tx.in_flight i false) + 1 = inUse l.tx.in_flight :=
      inUse_vacate hflight
    rw [hflight', hcompletes.active_eq, h.active_eq]
    omega

/-- Every step keeps it, a completion without device too. -/
theorem carries_step (l : TxLedger E) (action : TxAction) (l' : TxLedger E)
    (h : Carries slots l) (hstep : l.step slots action = some l') : Carries slots l' := by
  obtain ⟨tx', hpath, rfl⟩ := Option.map_eq_some_iff.mp hstep
  cases action with
  | transmit frame invalid submit_err =>
    obtain ⟨-, heq⟩ := Option.ite_none_right_eq_some.mp hpath
    cases heq
    rw [TxLedger.entered]
    split
    · next ending hfate => exact h.ends (start_transmit_ends frame hfate)
    · next i hfate =>
      obtain ⟨hfree, htakes⟩ := start_transmit_takes frame hfate
      exact h.takes hfree htakes
  | complete i status =>
    obtain ⟨hflight, heq⟩ := Option.ite_none_right_eq_some.mp hpath
    cases heq
    exact h.completes hflight (write_bulk_callback_completes l.tx i status)
  -- the others change no context, slot or counter
  | check_active =>
    obtain ⟨-, ⟨⟩⟩ := Option.ite_none_right_eq_some.mp hpath
    exact ⟨h.free, h.in_use, h.carried_iff, h.own_echo, h.ledger, h.active_eq⟩
  | stop_queue =>
    obtain ⟨-, ⟨⟩⟩ := Option.ite_none_right_eq_some.mp hpath
    exact ⟨h.free, h.in_use, h.carried_iff, h.own_echo, h.ledger, h.active_eq⟩
  | detach =>
    cases hpath
    exact ⟨h.free, h.in_use, h.carried_iff, h.own_echo, h.ledger, h.active_eq⟩

/-- The ledger is true of every run from an unused interface. -/
theorem Carries.run {tx₀ : TxState E} (hunused : tx₀.Unused slots) (hskbs : tx₀.skbs = 0)
    {actions : List TxAction} {l : TxLedger E}
    (hrun : Runs.run (TxLedger.step slots) (.blank tx₀) actions = some l) : Carries slots l :=
  Runs.run_invariant (TxLedger.step slots) carries_step (Carries.blank hunused hskbs) hrun

/-! ## The counters -/

/-- How many buffers ended in this way. -/
def TxLedger.ended_as (l : TxLedger E) (ending : Ending) : ℕ :=
  (l.ended.map Prod.snd).count ending

/-- The counters added up over a list of endings are the numbers of each kind. -/
theorem sum_adds (endings : List Ending) :
    (endings.map Ending.adds).sum
      = ((endings.count .sent : ulong), (endings.count .dropped : ulong),
        (endings.count .sent : u32)) := by
  induction endings with
  | nil => rfl
  | cons ending endings ih =>
    rw [List.map_cons, List.sum_cons, ih]
    cases ending <;> simp [Ending.adds, add_comm]

/-- Between the two states the counters have grown by what the new entries add. -/
abbrev TxTallied : TxLedger E → TxLedger E → Prop :=
  Tallied TxLedger.ended (fun l => l.tx.counts) fun entry => entry.2.adds

/-- The counters move by what the entries of the step add. -/
theorem tallied_step (l : TxLedger E) (action : TxAction) (l' : TxLedger E)
    (hcarries : Carries slots l) (hstep : l.step slots action = some l') : TxTallied l l' := by
  obtain ⟨tx', hpath, rfl⟩ := Option.map_eq_some_iff.mp hstep
  cases action with
  | transmit frame invalid submit_err =>
    obtain ⟨-, heq⟩ := Option.ite_none_right_eq_some.mp hpath
    cases heq
    rw [TxLedger.entered]
    split
    · next ending hfate =>
      refine ⟨[(l.tx.skbs, ending)], rfl, ?_⟩
      rw [List.map_singleton, List.sum_singleton]
      exact (start_transmit_ends frame hfate).counts_eq
    · next i hfate => exact .of_same rfl (start_transmit_takes frame hfate).2.counts_eq
  | complete i status =>
    obtain ⟨hflight, heq⟩ := Option.ite_none_right_eq_some.mp hpath
    cases heq
    obtain ⟨c, hc⟩ := Option.isSome_iff_exists.mp ((hcarries.carried_iff i).trans hflight)
    refine ⟨[(c.1, l.tx.completion status)], ?_, ?_⟩
    · rw [TxLedger.entered, hc]
      rfl
    · rw [List.map_singleton, List.sum_singleton]
      exact (write_bulk_callback_completes l.tx i status).counts_eq
  | check_active =>
    obtain ⟨-, ⟨⟩⟩ := Option.ite_none_right_eq_some.mp hpath
    exact .of_same rfl rfl
  | stop_queue =>
    obtain ⟨-, ⟨⟩⟩ := Option.ite_none_right_eq_some.mp hpath
    exact .of_same rfl rfl
  | detach =>
    cases hpath
    exact .of_same rfl rfl

/-! ## The contexts a vanished device costs -/

/-- One entry more counts for its own kind. -/
theorem ended_as_append (l : TxLedger E) (tx : TxState E)
    (carried : Fin PCAN_USB_MAX_TX_URBS → Option (ℕ × CanFrame)) (skb : ℕ)
    (ending ending' : Ending) :
    TxLedger.ended_as ⟨tx, carried, l.ended ++ [(skb, ending)]⟩ ending'
      = l.ended_as ending' + if ending = ending' then 1 else 0 := by
  rw [TxLedger.ended_as, List.map_append, List.count_append, List.map_singleton,
    List.count_singleton]
  simp only [beq_iff_eq]
  rfl

/-- Only a completion abandons a socket buffer. -/
theorem fate_ne_abandoned {tx : TxState E} {invalid : Bool} {submit_err : Int} {ending : Ending}
    (hfate : tx.fate invalid submit_err = .inl ending) : ending ≠ .abandoned := by
  unfold TxState.fate at hfate
  rintro rfl
  split at hfate
  · cases hfate
  split at hfate
  · cases hfate
  split at hfate
  · cases hfate
  split at hfate
  · split at hfate <;> cases hfate
  · cases hfate

/-- The contexts with an echo index are those in flight and one for each abandoned buffer. -/
def TxLedger.Lost (l : TxLedger E) : Prop :=
  inUse l.tx.busy = inUse l.tx.in_flight + l.ended_as .abandoned

/-- A context is busy by its own echo index. -/
theorem busy_update {tx tx' : TxState E} {i : Fin PCAN_USB_MAX_TX_URBS} {ctx : TxContext}
    (h : tx'.tx_contexts = Function.update tx.tx_contexts i ctx) :
    tx'.busy = Function.update tx.busy i (decide (ctx.echo_index ≠ 0)) := by
  funext j
  rw [TxState.busy, h]
  rcases eq_or_ne j i with rfl | hne
  · rw [Function.update_self, Function.update_self]
  · rw [Function.update_of_ne hne, Function.update_of_ne hne]
    rfl

/-- A context is lost with the socket buffer abandoned in it, and by nothing else. -/
theorem lost_step (l : TxLedger E) (action : TxAction) (l' : TxLedger E)
    (hcarries : Carries slots l) (hlost : l.Lost) (hstep : l.step slots action = some l') :
    l'.Lost := by
  obtain ⟨tx', hpath, rfl⟩ := Option.map_eq_some_iff.mp hstep
  cases action with
  | transmit frame invalid submit_err =>
    obtain ⟨-, heq⟩ := Option.ite_none_right_eq_some.mp hpath
    cases heq
    rw [TxLedger.entered]
    split
    · next ending hfate =>
      have hends : Ends slots ending l.tx
          (pcan_net_start_transmit slots frame invalid submit_err l.tx).2 :=
        start_transmit_ends frame hfate
      have hbusy : (pcan_net_start_transmit slots frame invalid submit_err l.tx).2.busy
          = l.tx.busy := by
        funext j
        by_cases hj : (l.tx.tx_contexts j).echo_index = 0
        · rw [TxState.busy, TxState.busy, (hends.free j hj).1, hj]
        · rw [TxState.busy, TxState.busy, (hends.in_use j hj).1]
      rw [TxLedger.Lost, ended_as_append, if_neg (fate_ne_abandoned hfate), add_zero, hbusy,
        hends.in_flight_eq]
      exact hlost
    · next i hfate =>
      obtain ⟨hfree, htakes⟩ := @start_transmit_takes E slots l.tx frame _ _ i hfate
      have hzero := free_context_eq_some hfree
      have hidle : l.tx.busy i = false := by
        rw [TxState.busy, hzero]
        exact decide_eq_false fun hne => hne rfl
      rw [TxLedger.Lost, busy_update htakes.contexts_eq, in_flight_update htakes.contexts_eq,
        decide_eq_true (taken_ne_zero i), inUse_occupy hidle,
        inUse_occupy (hcarries.free i hzero).1, hlost]
      exact Nat.add_right_comm ..
  | complete i status =>
    obtain ⟨hflight, heq⟩ := Option.ite_none_right_eq_some.mp hpath
    cases heq
    have hcompletes : Completes slots (l.tx.completion status) i l.tx _ :=
      write_bulk_callback_completes l.tx i status
    obtain ⟨c, hc⟩ := Option.isSome_iff_exists.mp ((hcarries.carried_iff i).trans hflight)
    have hcount : inUse (Function.update l.tx.in_flight i false) + 1 = inUse l.tx.in_flight :=
      inUse_vacate hflight
    have htaken : l.tx.busy i = true := decide_eq_true (hcarries.taken hflight)
    rw [TxLedger.entered, hc]
    change TxLedger.Lost ⟨_, _, l.ended ++ [(c.1, l.tx.completion status)]⟩
    have hvacated : (usb_write_bulk_callback slots i status (l.tx.given_back i)).in_flight
        = Function.update l.tx.in_flight i false := in_flight_update hcompletes.contexts_eq
    rw [TxLedger.Lost, ended_as_append, busy_update hcompletes.contexts_eq, hvacated]
    unfold TxLedger.Lost at hlost
    by_cases habandoned : l.tx.completion status = .abandoned
    -- the context keeps its index, and is lost
    · rw [if_pos habandoned, if_pos habandoned,
        decide_eq_true (hcarries.taken hflight), ← htaken, Function.update_eq_self, hlost]
      omega
    · have hvacate : inUse (Function.update l.tx.busy i false) + 1 = inUse l.tx.busy :=
        inUse_vacate htaken
      rw [if_neg habandoned, if_neg habandoned]
      change inUse (Function.update l.tx.busy i false) = _
      omega
  | check_active =>
    obtain ⟨-, ⟨⟩⟩ := Option.ite_none_right_eq_some.mp hpath
    exact hlost
  | stop_queue =>
    obtain ⟨-, ⟨⟩⟩ := Option.ite_none_right_eq_some.mp hpath
    exact hlost
  | detach =>
    cases hpath
    exact hlost

/-- No context is free exactly if all have an echo index. -/
theorem free_context_eq_none_iff {tx : TxState E} :
    tx.free_context = none ↔ inUse tx.busy = PCAN_USB_MAX_TX_URBS := by
  have hall : inUse tx.busy = PCAN_USB_MAX_TX_URBS ↔ ∀ i, tx.busy i = true := by
    rw [← inUse_eq_card_iff, Fintype.card_fin]
  rw [hall, TxState.free_context, List.find?_eq_none]
  simp [TxState.busy]

/-- A call gives its buffer back exactly if it is to be sent and no context is free. -/
theorem returns_busy_iff {tx : TxState E} {frame : CanFrame} {invalid : Bool}
    {submit_err : Int} :
    (pcan_net_start_transmit slots frame invalid submit_err tx).1 = .NETDEV_TX_BUSY
      ↔ tx.ctrlmode &&& CAN_CTRLMODE_LISTENONLY = 0 ∧ invalid = false
        ∧ tx.free_context = none := by
  unfold pcan_net_start_transmit
  dsimp only
  have hchoice : TxState.free_context { tx with skbs := tx.skbs + 1 } = tx.free_context := rfl
  rw [hchoice]
  by_cases hlisten : tx.ctrlmode &&& CAN_CTRLMODE_LISTENONLY = 0
  · rw [if_neg (not_not.mpr hlisten)]
    cases invalid with
    | true => simp
    | false =>
      rw [if_neg Bool.false_ne_true]
      cases hfree : tx.free_context with
      | none => simp [hlisten]
      | some i =>
        dsimp only
        split <;> simp
  · rw [if_pos hlisten]
    exact iff_of_false nofun fun h => hlisten h.1

/-! ## Runs -/

/-- What a ledger that began with `tx₀` comes to. -/
structure Settled (tx₀ : TxState E) (l : TxLedger E) : Prop where
  ends_once : Balanced (List.range l.tx.skbs) (l.ended.map Prod.fst) l.carried_skb
  packets : l.tx.stats.tx_packets = tx₀.stats.tx_packets + (l.ended_as .sent : ulong)
  dropped : l.tx.stats.tx_dropped = tx₀.stats.tx_dropped + (l.ended_as .dropped : ulong)
  counter : l.tx.shared_tx_counter = tx₀.shared_tx_counter + (l.ended_as .sent : u32)

/-- From zeroed counters the tally is the count. -/
theorem TxTallied.settled {tx₀ : TxState E} {l : TxLedger E} (h : TxTallied (.blank tx₀) l)
    (hcarries : Carries slots l) : Settled tx₀ l := by
  obtain ⟨entries, hended, hcounts⟩ := h
  obtain rfl : l.ended = entries := hended
  have hsum : (l.ended.map fun entry => entry.2.adds).sum
      = ((l.ended_as .sent : ulong), (l.ended_as .dropped : ulong), (l.ended_as .sent : u32)) := by
    rw [TxLedger.ended_as, TxLedger.ended_as, ← sum_adds, List.map_map]
    rfl
  rw [hsum] at hcounts
  exact ⟨hcarries.ledger, congrArg Prod.fst hcounts, congrArg (fun c => c.2.1) hcounts,
    congrArg (fun c => c.2.2) hcounts⟩

/-- In every state of such a run `active_tx_urbs` is the number of URBs in flight, but a context whose completion
found no device never serves again: the next call has to give a valid buffer back exactly
when the URBs in flight and the abandoned buffers are ten together. -/
theorem abandoned_contexts_lost (slots : EchoSlots E) (tx₀ : TxState E)
    (actions : List TxAction) (l : TxLedger E) (hunused : tx₀.Unused slots)
    (hskbs : tx₀.skbs = 0)
    (hrun : Runs.run (TxLedger.step slots) (.blank tx₀) actions = some l)
    (frame : CanFrame) (invalid : Bool) (submit_err : Int) :
    l.tx.active_tx_urbs = inUse l.tx.in_flight
      ∧ ((pcan_net_start_transmit slots frame invalid submit_err l.tx).1 = .NETDEV_TX_BUSY
        ↔ l.tx.ctrlmode &&& CAN_CTRLMODE_LISTENONLY = 0 ∧ invalid = false
          ∧ inUse l.tx.in_flight + l.ended_as .abandoned = PCAN_USB_MAX_TX_URBS) := by
  have hstep : ∀ l₁ action l₂, Carries slots l₁ ∧ l₁.Lost → l₁.step slots action = some l₂ →
      Carries slots l₂ ∧ l₂.Lost :=
    fun l₁ action l₂ ⟨hcarries, hlost⟩ hnext =>
      ⟨carries_step l₁ action l₂ hcarries hnext, lost_step l₁ action l₂ hcarries hlost hnext⟩
  have hnone : TxLedger.Lost (.blank tx₀) := by
    have hbusy : tx₀.busy = fun _ => false := by
      funext i
      rw [TxState.busy, (hunused.contexts i).1]
      rfl
    have hidle : tx₀.in_flight = fun _ => false := funext fun i => (hunused.contexts i).2
    rw [TxLedger.Lost, TxLedger.blank, hbusy, hidle]
    rfl
  obtain ⟨hcarries, hlost⟩ := Runs.run_invariant (TxLedger.step slots) hstep
    ⟨Carries.blank hunused hskbs, hnone⟩ hrun
  refine ⟨hcarries.active_eq, ?_⟩
  rw [← hlost, returns_busy_iff, free_context_eq_none_iff]

end

/-! ## A run with every kind of trouble -/

/-- Five buffers: one is sent, one is refused, one is not submitted, and of two in flight
when the device goes, one has completed. -/
def mixed_transmits : List TxAction :=
  [.transmit CanFrame.zero false 0, .check_active, .transmit CanFrame.zero true 0,
    .transmit CanFrame.zero false (-EPROTO), .complete first_context 0,
    .transmit CanFrame.zero false 0, .check_active, .transmit CanFrame.zero false 0,
    .check_active, .detach, .complete first_context (-ESHUTDOWN)]

def second_context : Fin PCAN_USB_MAX_TX_URBS := ⟨1, by decide⟩

/-- The device vanishes with one buffer in flight, and nine more are submitted. -/
def nine_behind_one : List TxAction :=
  [.transmit CanFrame.zero false 0, .check_active, .detach,
      .complete first_context (-ESHUTDOWN)]
    ++ (List.replicate 9 [.transmit CanFrame.zero false 0, .check_active]).flatten

/-- One is abandoned and nine are in flight, so the tenth is told to wait. -/
theorem abandoned_contexts_lost_nine_behind_one :
    ∃ l, Runs.run (TxLedger.step EchoSlots.kernel) (.blank TxState.opened) nine_behind_one = some l
      ∧ inUse l.tx.in_flight = 9 ∧ l.ended_as .abandoned = 1 ∧ l.tx.active_tx_urbs = 9
      ∧ (pcan_net_start_transmit EchoSlots.kernel CanFrame.zero false 0 l.tx).1
        = .NETDEV_TX_BUSY := by
  obtain ⟨l, hrun, hflight, hlost, hmode⟩ :
      ∃ l, Runs.run (TxLedger.step EchoSlots.kernel) (.blank TxState.opened) nine_behind_one
          = some l
        ∧ inUse l.tx.in_flight = 9 ∧ l.ended_as .abandoned = 1
        ∧ l.tx.ctrlmode &&& CAN_CTRLMODE_LISTENONLY = 0 :=
    Runs.exists_run_of_any (TxLedger.step EchoSlots.kernel) (by decide)
  obtain ⟨hactive, hbusy⟩ :=
    abandoned_contexts_lost EchoSlots.kernel TxState.opened nine_behind_one l
      TxState.opened_unused rfl hrun CanFrame.zero false 0
  refine ⟨l, hrun, hflight, hlost, ?_, hbusy.mpr ⟨hmode, rfl, ?_⟩⟩
  · rw [hactive, hflight]
    rfl
  · rw [hflight, hlost]
    rfl

end DualPcanUsb
