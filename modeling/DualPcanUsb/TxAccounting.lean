/-
Three views of one fact: the counter `active_tx_urbs`, the echo index of each context
and the kernel's echo slots all say which URBs are in flight.

A transmit call and a completion update them in different orders, and each whole step
keeps them in agreement, with one exception: the completion handler returns early when
the device is gone, having lowered the counter only. So the accounting is right in every
state of a run exactly if every completion of the run finds the device present.
-/
import DualPcanUsb.Transmit

set_option autoImplicit false

namespace DualPcanUsb

open SlotLedger

section

variable {E : Type} (slots : EchoSlots E)

def TxState.in_flight (tx : TxState E) (i : Fin PCAN_USB_MAX_TX_URBS) : Bool :=
  (tx.tx_contexts i).in_flight

/-- Whether the context `i` has an echo index. -/
def TxState.busy (tx : TxState E) (i : Fin PCAN_USB_MAX_TX_URBS) : Bool :=
  (tx.tx_contexts i).echo_index ≠ 0

def TxState.echo_skb (tx : TxState E) (i : Fin PCAN_USB_MAX_TX_URBS) : Option ℕ :=
  slots.echo_skb tx.echo i

/-- The accounting is right: the counter counts the contexts with an echo index and stays
in its range, no context in flight can be chosen again, and every stored buffer has been
released once or is still in the slot of a URB in flight. -/
structure Accounted (tx : TxState E) : Prop where
  active_eq : tx.active_tx_urbs = inUse tx.busy
  active_range : 0 ≤ tx.active_tx_urbs ∧ tx.active_tx_urbs ≤ PCAN_USB_MAX_TX_URBS
  chosen_idle : ∀ i, tx.free_context = some i → tx.in_flight i = false
  ledger : Balanced tx.stored tx.released
    (fun i => if tx.in_flight i then tx.echo_skb slots i else none)

/-- An interface that has not sent anything yet. -/
structure TxState.Unused (tx : TxState E) : Prop where
  contexts : ∀ i, (tx.tx_contexts i).echo_index = 0 ∧ (tx.tx_contexts i).in_flight = false
  active_eq : tx.active_tx_urbs = 0
  slots_empty : ∀ i, tx.echo_skb slots i = none
  stored_eq : tx.stored = []
  released_eq : tx.released = []
  xmit_eq : tx.xmit = .idle

/-- A completion finds the device present. -/
def FindsDevice (tx : TxState E) : TxAction → Prop
  | .complete _ _ => tx.netif_device_present = true
  | _ => True

/-! ## The invariant -/

structure TxInv (tx : TxState E) : Prop where
  echo_index_eq : ∀ i, (tx.tx_contexts i).echo_index
    = if tx.in_flight i then BitVec.ofNat 32 (i + 1) else 0
  active_eq : tx.active_tx_urbs = inUse tx.in_flight
  slot_empty : ∀ i, tx.in_flight i = false → tx.echo_skb slots i = none
  ledger : Balanced tx.stored tx.released (tx.echo_skb slots)
  fresh : ∀ skb ∈ tx.stored, skb < tx.skbs

variable {slots}

/-- An unused interface has nothing to account for. -/
theorem TxState.Unused.inv {tx : TxState E} (h : tx.Unused slots) : TxInv slots tx := by
  have hidle : tx.in_flight = fun _ => false := funext fun i => (h.contexts i).2
  refine ⟨fun i => ?_, ?_, fun i _ => h.slots_empty i, ?_, ?_⟩
  · rw [(h.contexts i).1, hidle, if_neg Bool.false_ne_true]
  · rw [h.active_eq, hidle, inUse]
    simp
  · rw [h.stored_eq, h.released_eq, show tx.echo_skb slots = _ from funext h.slots_empty]
    exact balanced_nil
  · rw [h.stored_eq]
    simp

/-- The index stored in a context is not the one of a free context. -/
theorem taken_ne_zero (i : Fin PCAN_USB_MAX_TX_URBS) : (BitVec.ofNat 32 (i + 1) : u32) ≠ 0 := by
  have hlt : i.val < 10 := i.isLt
  intro h
  have hnat := congrArg BitVec.toNat h
  rw [BitVec.toNat_ofNat] at hnat
  simp at hnat
  omega

/-- Under the invariant the busy contexts are those in flight. -/
theorem TxInv.busy_eq {tx : TxState E} (h : TxInv slots tx) : tx.busy = tx.in_flight := by
  funext i
  rw [TxState.busy, h.echo_index_eq i]
  cases tx.in_flight i with
  | false => simp
  | true => simpa using taken_ne_zero i

/-- A context found free is marked free. -/
theorem free_context_eq_some {tx : TxState E} {i : Fin PCAN_USB_MAX_TX_URBS}
    (h : tx.free_context = some i) : (tx.tx_contexts i).echo_index = 0 := by
  have hfound := List.find?_some h
  exact of_decide_eq_true hfound

/-- A chosen context is idle. -/
theorem TxInv.chosen_idle {tx : TxState E} (h : TxInv slots tx) {i : Fin PCAN_USB_MAX_TX_URBS}
    (hfree : tx.free_context = some i) : tx.in_flight i = false := by
  have hzero := free_context_eq_some hfree
  rw [h.echo_index_eq i] at hzero
  by_contra hflight
  rw [if_pos (Bool.eq_true_of_not_eq_false hflight)] at hzero
  exact taken_ne_zero i hzero

/-- Under the invariant the interface is accounted for. -/
theorem TxInv.accounted {tx : TxState E} (h : TxInv slots tx) : Accounted slots tx := by
  have hle : inUse tx.in_flight ≤ PCAN_USB_MAX_TX_URBS := by
    have hcard := inUse_le_card tx.in_flight
    rwa [Fintype.card_fin] at hcard
  refine ⟨?_, ?_, fun i hfree => h.chosen_idle hfree, ?_⟩
  · rw [h.busy_eq, h.active_eq]
  · rw [h.active_eq]
    omega
  -- a slot without a URB in flight is empty anyway
  · have hsame : (fun i => if tx.in_flight i then tx.echo_skb slots i else none)
        = tx.echo_skb slots := by
      funext i
      cases hflight : tx.in_flight i with
      | false => rw [if_neg Bool.false_ne_true, h.slot_empty i hflight]
      | true => rw [if_pos rfl]
    rw [hsame]
    exact h.ledger

/-! ## Every step but a completion without device keeps it -/

/-- One slot changed. -/
theorem echo_skb_of_others {tx tx' : TxState E} {i : Fin PCAN_USB_MAX_TX_URBS}
    (h : ∀ idx, idx ≠ i.val → slots.echo_skb tx'.echo idx = slots.echo_skb tx.echo idx) :
    tx'.echo_skb slots = Function.update (tx.echo_skb slots) i (slots.echo_skb tx'.echo i) := by
  funext j
  rcases eq_or_ne j i with rfl | hne
  · rw [Function.update_self]
    rfl
  · rw [Function.update_of_ne hne]
    exact h j fun heq => hne (Fin.ext heq)

/-- One context written is one flag changed. -/
theorem in_flight_update {tx tx' : TxState E} {i : Fin PCAN_USB_MAX_TX_URBS} {ctx : TxContext}
    (h : tx'.tx_contexts = Function.update tx.tx_contexts i ctx) :
    tx'.in_flight = Function.update tx.in_flight i ctx.in_flight := by
  funext j
  rw [TxState.in_flight, h]
  rcases eq_or_ne j i with rfl | hne
  · rw [Function.update_self, Function.update_self]
  · rw [Function.update_of_ne hne, Function.update_of_ne hne]
    rfl

/-- A changed context shows its number while its URB is in flight, and zero else. -/
theorem echo_index_update {tx tx' : TxState E} (h : TxInv slots tx)
    {i : Fin PCAN_USB_MAX_TX_URBS} {ctx : TxContext}
    (hcontexts : tx'.tx_contexts = Function.update tx.tx_contexts i ctx)
    (hctx : ctx.echo_index = if ctx.in_flight then BitVec.ofNat 32 (i + 1) else 0)
    (j : Fin PCAN_USB_MAX_TX_URBS) : (tx'.tx_contexts j).echo_index
      = if tx'.in_flight j then BitVec.ofNat 32 (j + 1) else 0 := by
  rw [in_flight_update hcontexts, hcontexts]
  rcases eq_or_ne j i with rfl | hne
  · rw [Function.update_self, Function.update_self]
    exact hctx
  · rw [Function.update_of_ne hne, Function.update_of_ne hne]
    exact h.echo_index_eq j

/-- What a put may have stored was handed over before the next call. -/
theorem TxInv.fresh_put {tx : TxState E} (h : TxInv slots tx) {held : Option ℕ}
    (hheld : held = some tx.skbs ∨ held = none) :
    ∀ skb ∈ tx.stored ++ held.toList, skb < tx.skbs + 1 := by
  intro skb hmem
  rcases List.mem_append.mp hmem with hmem | hmem
  · exact (h.fresh skb hmem).trans (Nat.lt_succ_self _)
  · rcases hheld with hsome | hnone
    · rw [hsome] at hmem
      rw [List.mem_singleton.mp hmem]
      exact Nat.lt_succ_self _
    · rw [hnone] at hmem
      cases hmem

/-- A call takes a context together with its echo slot, or gives both back. -/
theorem TxInv.transmitted {tx tx' : TxState E} (h : TxInv slots tx)
    (htransmit : Transmitted slots tx tx') (hskbs : tx'.skbs = tx.skbs + 1) :
    TxInv slots tx' := by
  have hnew : tx.skbs ∉ tx.stored := fun hmem => lt_irrefl _ (h.fresh _ hmem)
  cases htransmit with
  | refused hcontexts hactive hecho hstored hreleased =>
    have hflight : tx'.in_flight = tx.in_flight := by
      unfold TxState.in_flight
      rw [hcontexts]
    have hslots : tx'.echo_skb slots = tx.echo_skb slots := by
      unfold TxState.echo_skb
      rw [hecho]
    refine ⟨fun i => ?_, ?_, ?_, ?_, ?_⟩
    · rw [hflight, hcontexts]; exact h.echo_index_eq i
    · rw [hflight, hactive]; exact h.active_eq
    · rw [hflight, hslots]; exact h.slot_empty
    · rw [hstored, hreleased, hslots]; exact h.ledger
    · rw [hstored, hskbs]
      exact fun skb hmem => (h.fresh skb hmem).trans (Nat.lt_succ_self _)
  | failed i hfree transfer_buffer echo hput hcontexts hactive hecho hstored hreleased =>
    have hidle := h.chosen_idle hfree
    have hempty : tx.echo_skb slots i = none := h.slot_empty i hidle
    have hflight : tx'.in_flight = tx.in_flight := by
      rw [in_flight_update hcontexts]
      exact Function.update_eq_self i tx.in_flight
    -- put in and freed again, the slot is what it was
    have hself : slots.echo_skb tx'.echo i = none := by rw [hecho]; exact slots.free_self ..
    have hslots : tx'.echo_skb slots = tx.echo_skb slots := by
      have hothers : ∀ idx, idx ≠ i.val →
          slots.echo_skb tx'.echo idx = slots.echo_skb tx.echo idx := by
        intro idx hne
        rw [hecho, slots.free_other _ _ _ hne, hput, slots.put_other _ _ _ _ hne]
      rw [echo_skb_of_others hothers, hself, ← hempty, Function.update_eq_self]
    refine ⟨echo_index_update h hcontexts ?_, ?_, ?_, ?_, ?_⟩
    · exact (if_neg (by rw [show (tx.tx_contexts i).in_flight = false from hidle]; decide)).symm
    · rw [hflight, hactive]; exact h.active_eq
    · rw [hflight, hslots]; exact h.slot_empty
    · rw [hstored, hreleased, hslots]
      rcases slots.put_self tx.skbs i tx.echo hempty with hsome | hnone
      · rw [hput, hsome]; exact h.ledger.pass hempty hnew
      · rw [hput, hnone, Option.toList_none, List.append_nil, List.append_nil]; exact h.ledger
    · rw [hstored, hskbs, hput]
      exact h.fresh_put (slots.put_self tx.skbs i tx.echo hempty)
  | sent i hfree transfer_buffer hcontexts hactive hecho hstored hreleased =>
    have hidle := h.chosen_idle hfree
    have hempty : tx.echo_skb slots i = none := h.slot_empty i hidle
    have hflight := in_flight_update hcontexts
    have hothers : ∀ idx, idx ≠ i.val →
        slots.echo_skb tx'.echo idx = slots.echo_skb tx.echo idx :=
      fun idx hne => by rw [hecho, slots.put_other _ _ _ _ hne]
    have hslots := echo_skb_of_others hothers
    have hput := slots.put_self tx.skbs i tx.echo hempty
    rw [← hecho] at hput
    refine ⟨echo_index_update h hcontexts (if_pos rfl).symm, ?_, ?_, ?_, ?_⟩
    · rw [hflight, inUse_occupy hidle, hactive, h.active_eq]
      rfl
    · intro j hj
      rw [hflight] at hj
      -- the context taken is the only one whose slot changed
      rcases eq_or_ne j i with rfl | hne
      · rw [Function.update_self] at hj
        cases hj
      · rw [Function.update_of_ne hne] at hj
        rw [hslots, Function.update_of_ne hne]
        exact h.slot_empty j hj
    · rw [hstored, hreleased, hslots]
      rcases hput with hsome | hnone
      · rw [hsome]; exact h.ledger.put hempty hnew
      · rw [hnone, Option.toList_none, List.append_nil, ← hempty, Function.update_eq_self]
        exact h.ledger
    · rw [hstored, hskbs]
      exact h.fresh_put hput

/-- A completion that finds the device releases both. -/
theorem TxInv.completed {tx tx' : TxState E} {i : Fin PCAN_USB_MAX_TX_URBS} {status : Int}
    (h : TxInv slots tx) (hflight : (tx.tx_contexts i).in_flight = true)
    (hpresent : tx.netif_device_present = true) (hcomplete : Completed slots i status tx tx')
    (hactive : tx'.active_tx_urbs = tx.active_tx_urbs - 1) (hskbs : tx'.skbs = tx.skbs) :
    TxInv slots tx' := by
  cases hcomplete with
  | kept habsent =>
    rw [hpresent] at habsent
    cases habsent
  | gave_back _ transfer_buffer hcontexts hecho hstored hreleased =>
    -- the index of a context in flight is its number and one
    have hslot : (tx.tx_contexts i).slot = i := by
      rw [TxContext.slot, h.echo_index_eq i, TxState.in_flight, if_pos hflight, slot_of_taken]
    rw [hslot] at hecho hreleased
    have hflight' := in_flight_update hcontexts
    have hself : slots.echo_skb tx'.echo i = none := by rw [hecho]; exact slots.get_self ..
    have hothers : ∀ idx, idx ≠ i.val →
        slots.echo_skb tx'.echo idx = slots.echo_skb tx.echo idx :=
      fun idx hne => by rw [hecho, slots.get_other _ _ _ hne]
    have hslots := echo_skb_of_others hothers
    rw [hself] at hslots
    refine ⟨echo_index_update h hcontexts (if_neg Bool.false_ne_true).symm, ?_, ?_, ?_, ?_⟩
    · have hcount : inUse (Function.update tx.in_flight i false) + 1 = inUse tx.in_flight :=
        inUse_vacate hflight
      rw [hflight', hactive, h.active_eq]
      dsimp only
      omega
    · intro j hj
      rw [hslots]
      rcases eq_or_ne j i with rfl | hne
      · rw [Function.update_self]
      · rw [hflight', Function.update_of_ne hne] at hj
        rw [Function.update_of_ne hne]
        exact h.slot_empty j hj
    · rw [hstored, hreleased, hslots]
      -- the slot may be empty: the buffer was freed when it was put in
      cases hheld : slots.echo_skb tx.echo i with
      | some skb => exact h.ledger.take hheld
      | none =>
        have hempty : tx.echo_skb slots i = none := hheld
        rw [Option.toList_none, List.append_nil, ← hempty, Function.update_eq_self]
        exact h.ledger
    · rw [hstored, hskbs]
      exact h.fresh

/-- Every action keeps the account, if completions find the device. -/
theorem txInv_step (tx : TxState E) (action : TxAction) (tx' : TxState E) (h : TxInv slots tx)
    (hfinds : FindsDevice tx action) (hstep : tx.step slots action = some tx') :
    TxInv slots tx' := by
  cases tx_step_cases slots hstep with
  | transmit frame invalid submit_err _ _ htransmit hskbs => exact h.transmitted htransmit hskbs
  | complete i status _ hflight hcomplete hactive hskbs =>
    exact h.completed hflight hfinds hcomplete hactive hskbs
  -- the others change no context, counter or slot
  | check_active =>
    exact ⟨h.echo_index_eq, h.active_eq, h.slot_empty, h.ledger, h.fresh⟩
  | stop_queue => exact ⟨h.echo_index_eq, h.active_eq, h.slot_empty, h.ledger, h.fresh⟩
  | detach => exact ⟨h.echo_index_eq, h.active_eq, h.slot_empty, h.ledger, h.fresh⟩

/-- A completion without its device lowers the counter below the contexts in use. -/
theorem not_accounted_of_kept {tx tx' : TxState E} {i : Fin PCAN_USB_MAX_TX_URBS} {status : Int}
    (h : TxInv slots tx) (habsent : tx.netif_device_present = false)
    (hcomplete : Completed slots i status tx tx')
    (hactive : tx'.active_tx_urbs = tx.active_tx_urbs - 1) : ¬ Accounted slots tx' := by
  cases hcomplete with
  | gave_back hpresent =>
    rw [hpresent] at habsent
    cases habsent
  | kept _ hcontexts =>
    intro haccounted
    -- giving the URB back leaves the echo index
    have hbusy : tx'.busy = tx.busy := by
      funext j
      rw [TxState.busy, hcontexts, TxState.busy]
      rcases eq_or_ne j i with rfl | hne
      · rw [given_back_self]
      · rw [given_back_other tx hne]
    have hcount := haccounted.active_eq
    rw [hbusy, h.busy_eq, ← h.active_eq, hactive] at hcount
    omega

/-! ## Runs -/

/-- Every state the next step can lead to is accounted for. -/
def StaysAccounted (slots : EchoSlots E) (tx : TxState E) (action : TxAction) : Prop :=
  ∀ tx', tx.step slots action = some tx' → Accounted slots tx'

/-- With agreement before it, a possible step ends in agreement exactly if it is no
completion without its device. -/
theorem staysAccounted_iff {tx : TxState E} {action : TxAction} (h : TxInv slots tx)
    (hpossible : (tx.step slots action).isSome = true) :
    StaysAccounted slots tx action ↔ FindsDevice tx action := by
  obtain ⟨tx', hstep⟩ := Option.isSome_iff_exists.mp hpossible
  constructor
  · intro hstays
    by_contra hmissing
    cases tx_step_cases slots hstep with
    | complete i status _ hflight hcomplete hactive =>
      exact not_accounted_of_kept h (Bool.eq_false_iff.mpr hmissing) hcomplete hactive
        (hstays tx' hstep)
    | _ => exact hmissing trivial
  · intro hfinds tx'' hstep'
    exact (txInv_step tx action tx'' h hfinds hstep').accounted

/-- In every run of transmit calls, completions and detachments from an unused
interface, the accounting is right after every step exactly if every completion finds the
device present. -/
theorem tx_accounting_iff (slots : EchoSlots E) (tx₀ tx : TxState E) (actions : List TxAction)
    (hunused : tx₀.Unused slots)
    (hrun : Runs.run (TxState.step slots) tx₀ actions = some tx) :
    Runs.Along (TxState.step slots) (StaysAccounted slots) tx₀ actions
      ↔ Runs.Along (TxState.step slots) FindsDevice tx₀ actions := by
  have hstep : ∀ s a s', TxInv slots s → FindsDevice s a → s.step slots a = some s' →
      TxInv slots s' := txInv_step
  have hiff : ∀ s a s', TxInv slots s → s.step slots a = some s' →
      (StaysAccounted slots s a ↔ FindsDevice s a) :=
    fun s a s' hinv hstep => staysAccounted_iff hinv (by rw [hstep]; rfl)
  exact Runs.along_iff_of_run (TxState.step slots) hstep hiff hunused.inv hrun

end

/-! ## An interface to try transmissions on -/

/-- The kernel's slots, for frames without payload. -/
def EchoSlots.kernel : EchoSlots (ℕ → Option ℕ) where
  echo_skb e idx := e idx
  can_put_echo_skb skb idx e := if e idx = none then Function.update e idx (some skb) else e
  can_get_echo_skb idx e := (0, Function.update e idx none)
  can_free_echo_skb idx e := Function.update e idx none
  put_self skb idx e h := by rw [if_pos h, Function.update_self]; exact .inl rfl
  put_other skb idx e idx' hne := by
    split
    · rw [Function.update_of_ne hne]
    · rfl
  get_self idx e := Function.update_self ..
  get_other idx e idx' hne := Function.update_of_ne hne ..
  free_self idx e := Function.update_self ..
  free_other idx e idx' hne := Function.update_of_ne hne ..

/-- A network interface just opened, its buffers in a row as `kmalloc` may give them out. -/
def TxState.opened : TxState (ℕ → Option ℕ) where
  mem := fun _ => 0
  ctrlmode := 0
  netif_device_present := true
  queue_stopped := false
  tx_contexts := fun i => ⟨0, PCAN_USB_TX_BUFFER_SIZE * i, false⟩
  active_tx_urbs := 0
  shared_tx_counter := 0
  echo := fun _ => none
  stats := ⟨0, 0, 0⟩
  xmit := .idle
  skbs := 0
  stored := []
  released := []

theorem TxState.opened_unused : TxState.opened.Unused EchoSlots.kernel :=
  ⟨fun _ => ⟨rfl, rfl⟩, rfl, fun _ => rfl, rfl, rfl, rfl⟩

/-- The context whose slot is the first one. -/
def first_context : Fin PCAN_USB_MAX_TX_URBS := ⟨0, by decide⟩

/-- A frame is sent, and its URB completes. -/
def frame_sent : List TxAction :=
  [.transmit CanFrame.zero false 0, .check_active, .complete first_context 0]

theorem tx_accounting_iff_frame_sent :
    Runs.Along (TxState.step EchoSlots.kernel) (StaysAccounted EchoSlots.kernel) TxState.opened
      frame_sent := by
  have hsome : (Runs.run (TxState.step EchoSlots.kernel) TxState.opened frame_sent).isSome
      = true := by decide
  obtain ⟨tx, hrun⟩ := Option.isSome_iff_exists.mp hsome
  have hiff := tx_accounting_iff EchoSlots.kernel TxState.opened tx frame_sent
    TxState.opened_unused hrun
  refine hiff.mpr ⟨trivial, fun s₁ hs₁ => ⟨trivial, fun s₂ hs₂ => ⟨?_, fun _ _ => trivial⟩⟩⟩
  -- nothing has detached the device on the way
  cases hs₁
  cases hs₂
  rfl

/-- The device is pulled while a URB is in flight. -/
def pulled_in_flight : List TxAction :=
  [.transmit CanFrame.zero false 0, .check_active, .detach,
    .complete first_context (-ESHUTDOWN)]

/-- All URBs have completed, the counter is zero, and still a context has its echo index
and a socket buffer was never released. -/
theorem pulled_in_flight_not_accounted :
    ∃ tx, TxState.opened.Unused EchoSlots.kernel
      ∧ Runs.run (TxState.step EchoSlots.kernel) TxState.opened pulled_in_flight = some tx
      ∧ inUse tx.in_flight = 0 ∧ tx.active_tx_urbs = 0 ∧ inUse tx.busy = 1
      ∧ tx.stored = [0] ∧ tx.released = [] ∧ ¬ Accounted EchoSlots.kernel tx := by
  obtain ⟨tx, hrun, hflight, hactive, hbusy, hstored, hreleased⟩ :
      ∃ tx, Runs.run (TxState.step EchoSlots.kernel) TxState.opened pulled_in_flight = some tx
        ∧ inUse tx.in_flight = 0 ∧ tx.active_tx_urbs = 0 ∧ inUse tx.busy = 1
        ∧ tx.stored = [0] ∧ tx.released = [] :=
    Runs.exists_run_of_any (TxState.step EchoSlots.kernel) (by decide)
  refine ⟨tx, TxState.opened_unused, hrun, hflight, hactive, hbusy, hstored, hreleased, ?_⟩
  intro haccounted
  have hcount := haccounted.active_eq
  rw [hactive, hbusy] at hcount
  cases hcount

end DualPcanUsb
