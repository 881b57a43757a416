/-
The network interface's transmit path: `pcan_net_start_transmit` and
`usb_write_bulk_callback`.

A socket buffer to be sent takes the first context without an echo index, leaves its
copy in the echo slot of that number, and goes out with the context's URB; the
completion gives slot and context back. A transmit call that has submitted its URB looks
at `active_tx_urbs` once more and may stop the queue; completions come in at any point,
so these are steps of their own. Calls of `ndo_start_xmit` exclude each other.

The kernel's echo slots are a parameter: three functions and what is relied on of them.
A socket buffer is named by the number of the call that hands it over. The transfer buffers
are addresses in one memory, as the encoder does not keep to the buffer it is given.
-/
import DualPcanUsb.FrameLayout
import DualPcanUsb.RxUrbs
import DualPcanUsb.Lib.SlotLedger

set_option autoImplicit false

namespace DualPcanUsb

def CAN_CTRLMODE_LISTENONLY : u32 := 0x02
def EPROTO : Int := 71

/-! ## The kernel's echo slots -/

/-- The slots `can_priv.echo_skb` and the three functions on them. An empty slot may
stay empty: a device without local echo, or without memory, frees the buffer instead. -/
structure EchoSlots (E : Type) where
  echo_skb : E → ℕ → Option ℕ
  can_put_echo_skb : ℕ → ℕ → E → E
  can_get_echo_skb : ℕ → E → ℕ × E
  can_free_echo_skb : ℕ → E → E
  put_self : ∀ skb idx e, echo_skb e idx = none →
    echo_skb (can_put_echo_skb skb idx e) idx = some skb
      ∨ echo_skb (can_put_echo_skb skb idx e) idx = none
  put_other : ∀ skb idx e idx', idx' ≠ idx →
    echo_skb (can_put_echo_skb skb idx e) idx' = echo_skb e idx'
  get_self : ∀ idx e, echo_skb (can_get_echo_skb idx e).2 idx = none
  get_other : ∀ idx e idx', idx' ≠ idx →
    echo_skb (can_get_echo_skb idx e).2 idx' = echo_skb e idx'
  free_self : ∀ idx e, echo_skb (can_free_echo_skb idx e) idx = none
  free_other : ∀ idx e idx', idx' ≠ idx →
    echo_skb (can_free_echo_skb idx e) idx' = echo_skb e idx'

/-! ## The state -/

/-- `pcan_tx_urb_context_t` with its URB: the address of the URB's buffer, and whether the
USB core has the URB. -/
structure TxContext where
  echo_index : u32
  transfer_buffer : ℕ
  in_flight : Bool

/-- Where the transmit call in progress is. -/
inductive Xmit
  | idle
  | submitted
  | stopping
deriving DecidableEq, Repr

/-- The counters of `struct net_device_stats` the transmit path touches. -/
structure TxStats where
  tx_packets : ulong
  tx_bytes : ulong
  tx_dropped : ulong
deriving DecidableEq, Repr

/-- The network half of `tx_contexts` with what is counted around it. `mem` is the memory the
URBs' buffers lie in, one memory for all, since the encoder does not keep to its buffer.
`stored` and `released` list the socket buffers that entered an echo slot and that left one. -/
structure TxState (E : Type) where
  mem : ℕ → u8
  ctrlmode : u32
  netif_device_present : Bool
  queue_stopped : Bool
  tx_contexts : Fin PCAN_USB_MAX_TX_URBS → TxContext
  active_tx_urbs : Int
  shared_tx_counter : u32
  echo : E
  stats : TxStats
  xmit : Xmit
  skbs : ℕ
  stored : List ℕ
  released : List ℕ

section

variable {E : Type} (slots : EchoSlots E)

def TxState.set_context (tx : TxState E) (i : Fin PCAN_USB_MAX_TX_URBS) (ctx : TxContext) :
    TxState E :=
  { tx with tx_contexts := Function.update tx.tx_contexts i ctx }

def TxState.drop (tx : TxState E) : TxState E :=
  { tx with stats := { tx.stats with tx_dropped := tx.stats.tx_dropped + 1 } }

/-- What a pointer to `addr` shows. -/
def memory_from (mem : ℕ → u8) (addr : ℕ) : ℕ → u8 := fun i => mem (addr + i)

/-- The memory behind stores through such a pointer, none of which goes back. -/
def memory_stored (mem : ℕ → u8) (addr : ℕ) (bytes : ℕ → u8) : ℕ → u8 :=
  fun a => if addr ≤ a then bytes (a - addr) else mem a

/-- The first context without an echo index. -/
def TxState.free_context (tx : TxState E) : Option (Fin PCAN_USB_MAX_TX_URBS) :=
  (List.finRange PCAN_USB_MAX_TX_URBS).find? fun i => (tx.tx_contexts i).echo_index = 0

/-- The context a transmit call takes, if it comes to that. -/
def TxState.taken_context (tx : TxState E) (invalid : Bool) :
    Option (Fin PCAN_USB_MAX_TX_URBS) :=
  if tx.ctrlmode &&& CAN_CTRLMODE_LISTENONLY ≠ 0 then none
  else if invalid then none
  else tx.free_context

theorem taken_context_eq_some_iff {tx : TxState E} {invalid : Bool}
    {i : Fin PCAN_USB_MAX_TX_URBS} : tx.taken_context invalid = some i
      ↔ ¬ tx.ctrlmode &&& CAN_CTRLMODE_LISTENONLY ≠ 0 ∧ ¬ invalid ∧ tx.free_context = some i := by
  rw [TxState.taken_context, Option.ite_none_left_eq_some, Option.ite_none_left_eq_some]

/-- The echo slot of a context. -/
def TxContext.slot (ctx : TxContext) : ℕ := (ctx.echo_index - 1).toNat

def TxState.put_echo_skb (tx : TxState E) (skb idx : ℕ) : TxState E :=
  let echo := slots.can_put_echo_skb skb idx tx.echo
  { tx with echo := echo, stored := tx.stored ++ (slots.echo_skb echo idx).toList }

def TxState.get_echo_skb (tx : TxState E) (idx : ℕ) : ℕ × TxState E :=
  let (tx_bytes, echo) := slots.can_get_echo_skb idx tx.echo
  (tx_bytes, { tx with
    echo := echo, released := tx.released ++ (slots.echo_skb tx.echo idx).toList })

def TxState.free_echo_skb (tx : TxState E) (idx : ℕ) : TxState E :=
  { tx with
    echo := slots.can_free_echo_skb idx tx.echo
    released := tx.released ++ (slots.echo_skb tx.echo idx).toList }

/-- Detaching a running interface stops its queue. -/
def netif_device_detach (tx : TxState E) : TxState E :=
  { tx with netif_device_present := false, queue_stopped := true }

/-! ## The functions -/

inductive NetdevTx
  | NETDEV_TX_OK | NETDEV_TX_BUSY
deriving DecidableEq, Repr

/-- The call up to its last look at `active_tx_urbs`. `invalid` is what
`can_dropped_invalid_skb` returns, which drops the buffer then; `submit_err` is what
`usb_submit_urb` returns. Encoding cannot fail. -/
def pcan_net_start_transmit (frame : CanFrame) (invalid : Bool) (submit_err : Int)
    (tx : TxState E) : NetdevTx × TxState E :=
  let skb := tx.skbs
  let tx : TxState E := { tx with skbs := tx.skbs + 1 }
  if tx.ctrlmode &&& CAN_CTRLMODE_LISTENONLY ≠ 0 then (.NETDEV_TX_OK, tx.drop)
  else if invalid then (.NETDEV_TX_OK, tx.drop)
  else
    match tx.free_context with
    | none => (.NETDEV_TX_BUSY, tx)
    | some i =>
      let obuf := (tx.tx_contexts i).transfer_buffer
      let encoded := pcan_encode_frame_to_buf (tx.shared_tx_counter.setWidth 8) frame
        (memory_from tx.mem obuf) PCAN_USB_TX_BUFFER_SIZE
      let tx : TxState E := { tx with mem := memory_stored tx.mem obuf encoded.bytes }
      let ctx : TxContext := { tx.tx_contexts i with echo_index := BitVec.ofNat 32 (i + 1) }
      let tx := (tx.set_context i ctx).put_echo_skb slots skb ctx.slot
      let tx : TxState E := { tx with active_tx_urbs := tx.active_tx_urbs + 1 }
      if submit_err ≠ 0 then
        let tx := (tx.free_echo_skb slots ctx.slot).set_context i { ctx with echo_index := 0 }
        let tx : TxState E := { tx with active_tx_urbs := tx.active_tx_urbs - 1 }
        (.NETDEV_TX_OK, if submit_err = -ENODEV then netif_device_detach tx else tx.drop)
      else
        (.NETDEV_TX_OK, { tx.set_context i { ctx with in_flight := true } with xmit := .submitted })

/-- `if (atomic_read(&forwarder->active_tx_urbs) >= PCAN_USB_MAX_TX_URBS)`, at the end of
the call. -/
def check_active_tx_urbs (tx : TxState E) : TxState E :=
  { tx with xmit := if tx.active_tx_urbs ≥ PCAN_USB_MAX_TX_URBS then .stopping else .idle }

def netif_stop_queue (tx : TxState E) : TxState E :=
  { tx with queue_stopped := true, xmit := .idle }

/-- The completion of the URB of context `i`, which the USB core no longer has. -/
def usb_write_bulk_callback (i : Fin PCAN_USB_MAX_TX_URBS) (status : Int) (tx : TxState E) :
    TxState E :=
  let tx : TxState E := { tx with active_tx_urbs := tx.active_tx_urbs - 1 }
  -- returning here, the handler keeps the context and its echo skb
  if ¬ tx.netif_device_present then tx
  else
    let (tx_bytes, tx) := tx.get_echo_skb slots (tx.tx_contexts i).slot
    let tx := tx.set_context i { tx.tx_contexts i with echo_index := 0 }
    if status = 0 then
      { tx with
        shared_tx_counter := tx.shared_tx_counter + 1
        stats := { tx.stats with
          tx_packets := tx.stats.tx_packets + 1
          tx_bytes := tx.stats.tx_bytes + BitVec.ofNat 64 tx_bytes }
        -- do wakeup tx queue in case of success only
        queue_stopped := false }
    else tx

/-! ## The machine -/

inductive TxAction
  | transmit (frame : CanFrame) (invalid : Bool) (submit_err : Int)
  | check_active
  | stop_queue
  | complete (i : Fin PCAN_USB_MAX_TX_URBS) (status : Int)
  | detach

/-- The URB of context `i` is given back. -/
def TxState.given_back (tx : TxState E) (i : Fin PCAN_USB_MAX_TX_URBS) : TxState E :=
  tx.set_context i { tx.tx_contexts i with in_flight := false }

def TxState.step (tx : TxState E) : TxAction → Option (TxState E)
  | .transmit frame invalid submit_err =>
    if tx.xmit = .idle then some (pcan_net_start_transmit slots frame invalid submit_err tx).2
    else none
  | .check_active => if tx.xmit = .submitted then some (check_active_tx_urbs tx) else none
  | .stop_queue => if tx.xmit = .stopping then some (netif_stop_queue tx) else none
  | .complete i status =>
    -- only a URB the core has can complete
    if (tx.tx_contexts i).in_flight then
      some (usb_write_bulk_callback slots i status (tx.given_back i))
    else none
  | .detach => some (netif_device_detach tx)

/-! ## What a transmit call does -/

/-- A transmit call up to its check: it changes counters at most, or its submission
fails, or its URB is in flight. -/
inductive Transmitted (tx tx' : TxState E) : Prop
  | refused (hcontexts : tx'.tx_contexts = tx.tx_contexts)
      (hactive : tx'.active_tx_urbs = tx.active_tx_urbs) (hecho : tx'.echo = tx.echo)
      (hstored : tx'.stored = tx.stored) (hreleased : tx'.released = tx.released)
      (hpresent : tx'.netif_device_present = tx.netif_device_present)
      (hqueue : tx'.queue_stopped = tx.queue_stopped) (hxmit : tx'.xmit = tx.xmit)
  | failed (i : Fin PCAN_USB_MAX_TX_URBS) (hfree : tx.free_context = some i)
      (transfer_buffer : ℕ) (echo : E)
      (hput : echo = slots.can_put_echo_skb tx.skbs i tx.echo)
      (hcontexts : tx'.tx_contexts = Function.update tx.tx_contexts i
        ⟨0, transfer_buffer, (tx.tx_contexts i).in_flight⟩)
      (hactive : tx'.active_tx_urbs = tx.active_tx_urbs)
      (hecho : tx'.echo = slots.can_free_echo_skb i echo)
      (hstored : tx'.stored = tx.stored ++ (slots.echo_skb echo i).toList)
      (hreleased : tx'.released = tx.released ++ (slots.echo_skb echo i).toList)
      (hpresent : tx'.netif_device_present = true →
        tx.netif_device_present = true ∧ tx'.queue_stopped = tx.queue_stopped)
      (hxmit : tx'.xmit = tx.xmit)
  | sent (i : Fin PCAN_USB_MAX_TX_URBS) (hfree : tx.free_context = some i)
      (transfer_buffer : ℕ)
      (hcontexts : tx'.tx_contexts = Function.update tx.tx_contexts i
        ⟨BitVec.ofNat 32 (i + 1), transfer_buffer, true⟩)
      (hactive : tx'.active_tx_urbs = tx.active_tx_urbs + 1)
      (hecho : tx'.echo = slots.can_put_echo_skb tx.skbs i tx.echo)
      (hstored : tx'.stored = tx.stored ++ (slots.echo_skb tx'.echo i).toList)
      (hreleased : tx'.released = tx.released)
      (hpresent : tx'.netif_device_present = tx.netif_device_present)
      (hqueue : tx'.queue_stopped = tx.queue_stopped) (hxmit : tx'.xmit = .submitted)

/-- The slot of a context just taken is its number. -/
theorem slot_of_taken (i : Fin PCAN_USB_MAX_TX_URBS) :
    (BitVec.ofNat 32 (i + 1) - 1 : u32).toNat = i := by
  have hlt : i.val < 10 := i.isLt
  rw [BitVec.toNat_sub_of_le]
  · simp
    omega
  · rw [BitVec.le_def, BitVec.toNat_ofNat]
    simp
    omega

/-- A transmit call gives its socket buffer an end at once, or puts it in flight; each counts one.
-/
theorem pcan_net_start_transmit_cases (frame : CanFrame) (invalid : Bool) (submit_err : Int)
    (tx : TxState E) :
    Transmitted slots tx (pcan_net_start_transmit slots frame invalid submit_err tx).2
      ∧ (pcan_net_start_transmit slots frame invalid submit_err tx).2.skbs = tx.skbs + 1 := by
  unfold pcan_net_start_transmit
  dsimp only
  split
  · exact ⟨.refused rfl rfl rfl rfl rfl rfl rfl rfl, rfl⟩
  split
  · exact ⟨.refused rfl rfl rfl rfl rfl rfl rfl rfl, rfl⟩
  split
  · exact ⟨.refused rfl rfl rfl rfl rfl rfl rfl rfl, rfl⟩
  rename_i i hfree
  -- the slot used throughout is the one of the index just stored
  have hslot : ∀ ctx : TxContext, ctx.echo_index = BitVec.ofNat 32 (i + 1) → ctx.slot = i := by
    intro ctx hidx
    rw [TxContext.slot, hidx, slot_of_taken]
  rw [hslot _ rfl]
  by_cases herr : submit_err ≠ 0
  · rw [if_pos herr]
    by_cases hgone : submit_err = -ENODEV
    · rw [if_pos hgone]
      refine ⟨.failed i hfree _ _ rfl (Function.update_idem ..) ?_ rfl rfl rfl nofun rfl, rfl⟩
      exact Int.add_sub_cancel ..
    · rw [if_neg hgone]
      refine ⟨.failed i hfree _ _ rfl (Function.update_idem ..) ?_ rfl rfl rfl
        (fun h => ⟨h, rfl⟩) rfl, rfl⟩
      exact Int.add_sub_cancel ..
  · rw [if_neg herr]
    exact ⟨.sent i hfree _ (Function.update_idem ..) rfl rfl rfl rfl rfl rfl rfl, rfl⟩

/-! ## What a completion does -/

/-- A completion: without its device it only counts, else it gives context and slot back. -/
inductive Completed (i : Fin PCAN_USB_MAX_TX_URBS) (status : Int) (tx tx' : TxState E) : Prop
  | kept (habsent : tx.netif_device_present = false)
      (hcontexts : tx'.tx_contexts = (tx.given_back i).tx_contexts)
      (hpresent : tx'.netif_device_present = tx.netif_device_present)
  | gave_back (hpresent : tx.netif_device_present = true) (transfer_buffer : ℕ)
      (hcontexts : tx'.tx_contexts = Function.update tx.tx_contexts i ⟨0, transfer_buffer, false⟩)
      (hecho : tx'.echo = (slots.can_get_echo_skb (tx.tx_contexts i).slot tx.echo).2)
      (hstored : tx'.stored = tx.stored)
      (hreleased : tx'.released
        = tx.released ++ (slots.echo_skb tx.echo (tx.tx_contexts i).slot).toList)
      (hpresent' : tx'.netif_device_present = true)
      (hqueue : tx'.queue_stopped = if status = 0 then false else tx.queue_stopped)

@[simp] theorem given_back_self (tx : TxState E) (i : Fin PCAN_USB_MAX_TX_URBS) :
    (tx.given_back i).tx_contexts i = { tx.tx_contexts i with in_flight := false } :=
  Function.update_self i _ _

theorem given_back_other (tx : TxState E) {i j : Fin PCAN_USB_MAX_TX_URBS} (hne : j ≠ i) :
    (tx.given_back i).tx_contexts j = tx.tx_contexts j :=
  Function.update_of_ne hne _ _

/-- A completion finds its device or not, and releases in the one case only. -/
theorem usb_write_bulk_callback_cases (i : Fin PCAN_USB_MAX_TX_URBS) (status : Int)
    (tx : TxState E) :
    Completed slots i status tx (usb_write_bulk_callback slots i status (tx.given_back i))
      ∧ (usb_write_bulk_callback slots i status (tx.given_back i)).active_tx_urbs
          = tx.active_tx_urbs - 1
      ∧ (usb_write_bulk_callback slots i status (tx.given_back i)).skbs = tx.skbs
      ∧ (usb_write_bulk_callback slots i status (tx.given_back i)).xmit = tx.xmit := by
  unfold usb_write_bulk_callback
  dsimp only
  by_cases hpresent : (tx.given_back i).netif_device_present = true
  · rw [if_neg (not_not.mpr hpresent)]
    -- the context stored back is the one given back, without its index
    have hcontexts : Function.update (tx.given_back i).tx_contexts i
          { (tx.given_back i).tx_contexts i with echo_index := 0 }
        = Function.update tx.tx_contexts i ⟨0, (tx.tx_contexts i).transfer_buffer, false⟩ := by
      rw [given_back_self, TxState.given_back, TxState.set_context]
      exact Function.update_idem ..
    have hslot : ((tx.given_back i).tx_contexts i).slot = (tx.tx_contexts i).slot := by
      rw [given_back_self]
      rfl
    rw [hslot]
    by_cases hok : status = 0
    · rw [if_pos hok]
      refine ⟨.gave_back hpresent _ hcontexts rfl rfl rfl hpresent ?_, rfl, rfl, rfl⟩
      rw [if_pos hok]
    · rw [if_neg hok]
      refine ⟨.gave_back hpresent _ hcontexts rfl rfl rfl hpresent ?_, rfl, rfl, rfl⟩
      rw [if_neg hok]
      rfl
  · rw [if_pos hpresent]
    exact ⟨.kept (Bool.eq_false_iff.mpr hpresent) rfl rfl, rfl, rfl, rfl⟩

/-! ## What a step does -/

inductive TxStep (tx : TxState E) : TxAction → TxState E → Prop
  | transmit (frame : CanFrame) (invalid : Bool) (submit_err : Int) (tx' : TxState E)
      (hidle : tx.xmit = .idle) (h : Transmitted slots tx tx') (hskbs : tx'.skbs = tx.skbs + 1) :
    TxStep tx (.transmit frame invalid submit_err) tx'
  | check_active (hsubmitted : tx.xmit = .submitted) :
    TxStep tx .check_active (check_active_tx_urbs tx)
  | stop_queue (hstopping : tx.xmit = .stopping) : TxStep tx .stop_queue (netif_stop_queue tx)
  | complete (i : Fin PCAN_USB_MAX_TX_URBS) (status : Int) (tx' : TxState E)
      (hflight : (tx.tx_contexts i).in_flight = true) (h : Completed slots i status tx tx')
      (hactive : tx'.active_tx_urbs = tx.active_tx_urbs - 1) (hskbs : tx'.skbs = tx.skbs)
      (hxmit : tx'.xmit = tx.xmit) :
    TxStep tx (.complete i status) tx'
  | detach : TxStep tx .detach (netif_device_detach tx)

/-- Every action of the machine, by whose it is. -/
theorem tx_step_cases {tx tx' : TxState E} {action : TxAction}
    (h : tx.step slots action = some tx') : TxStep slots tx action tx' := by
  cases action with
  | transmit frame invalid submit_err =>
    obtain ⟨hidle, heq⟩ := Option.ite_none_right_eq_some.mp h
    cases heq
    obtain ⟨hcases, hskbs⟩ := pcan_net_start_transmit_cases slots frame invalid submit_err tx
    exact .transmit frame invalid submit_err _ hidle hcases hskbs
  | check_active =>
    obtain ⟨hsubmitted, heq⟩ := Option.ite_none_right_eq_some.mp h
    cases heq
    exact .check_active hsubmitted
  | stop_queue =>
    obtain ⟨hstopping, heq⟩ := Option.ite_none_right_eq_some.mp h
    cases heq
    exact .stop_queue hstopping
  | complete i status =>
    obtain ⟨hflight, heq⟩ := Option.ite_none_right_eq_some.mp h
    cases heq
    obtain ⟨hcases, hactive, hskbs, hxmit⟩ := usb_write_bulk_callback_cases slots i status tx
    exact .complete i status _ hflight hcases hactive hskbs hxmit
  | detach =>
    cases h
    exact .detach

end

end DualPcanUsb
