/-
What a failed probe leaves behind.

`pcan_usb_plugin` acquires its resources one after the other, and its labels release them in
the opposite order. Here it is run with any outcome of its fallible calls, and each resource
keeps a record of its releases. Four kinds of failure go wrong: where `cmd_buf` or the
submission of a receive URB fails, memory is freed a second time, and where the device does
not answer, the labels do not know of the URBs.
-/
import DualPcanUsb.Probe
import DualPcanUsb.UrbCounts

set_option autoImplicit false

namespace DualPcanUsb

open RefCount

/-! ## Resources -/

/-- Something that can be acquired, and how often it was released. -/
structure Holding where
  acquired : Bool
  released : ℕ
deriving DecidableEq, Repr

def Holding.none : Holding := ⟨false, 0⟩

def Holding.acquire (h : Holding) : Holding := { h with acquired := true }

def Holding.release (h : Holding) : Holding := { h with released := h.released + 1 }

/-- Released exactly once if it was acquired, and else never. -/
def Holding.Settled (h : Holding) : Prop := h.released = if h.acquired then 1 else 0

instance (h : Holding) : Decidable h.Settled := inferInstanceAs (Decidable (_ = _))

/-- A pointer, with whether it is not `NULL`, and the memory that was allocated for it. -/
structure Block where
  ptr : Bool
  memory : Holding
deriving DecidableEq, Repr

def Block.null : Block := ⟨false, .none⟩

def Block.kmalloc (b : Block) : Block := ⟨true, b.memory.acquire⟩

/-- `kfree`, which does not look at a `NULL` pointer, and does not make one. -/
def Block.kfree (b : Block) : Block := if b.ptr then { b with memory := b.memory.release } else b

def Block.set_null (b : Block) : Block := { b with ptr := false }

/-- What the probe acquires before the URBs; `candev` is the registration, `item` that of the
character device, `sysfs` the files of it. -/
structure Holdings where
  netdev : Holding
  candev : Holding
  item : Holding
  sysfs : Holding
  ioctl_rxmsgs : Block
  cmd_buf : Block
  rd_kernel_buf : Block
deriving DecidableEq, Repr

def Holdings.none : Holdings := ⟨.none, .none, .none, .none, .null, .null, .null⟩

def Holdings.Settled (h : Holdings) : Prop :=
  h.netdev.Settled ∧ h.candev.Settled ∧ h.item.Settled ∧ h.sysfs.Settled
    ∧ h.ioctl_rxmsgs.memory.Settled ∧ h.cmd_buf.memory.Settled ∧ h.rd_kernel_buf.memory.Settled

instance (h : Holdings) : Decidable h.Settled := inferInstanceAs (Decidable (_ ∧ _))

/-- A receive URB, whether it is in its anchor, and whether the USB core has it. -/
structure RxUrb where
  urb : CountedUrb
  anchored : Bool
  in_flight : Bool
deriving DecidableEq, Repr

/-- The resources of a probe. A transmit URB that came into no context counts as one that is
not linked. -/
structure PluginState where
  held : Holdings
  rx_urbs : List RxUrb
  tx_contexts : List ContextUrb

/-! ## Outcomes -/

/-- How the fallible calls end; an allocation that fails gives `false`. The submission of a
URB returns zero, or a negative error. -/
structure ProbeOutcomes where
  check_endpoints : Int
  alloc_candev : Bool
  ioctl_rxmsgs : Bool
  cmd_buf : Bool
  register_candev : Int
  make_item : Int
  rd_kernel_buf : Bool
  sysfs_create_files : Int
  rx_urb : ℕ → Bool
  rx_buf : ℕ → Bool
  submit_rx_urb : ℕ → Int
  tx_urb : ℕ → Bool
  tx_buf : ℕ → Bool
  get_device_info : Int
  reset_bus : Int
  submit_le : ∀ i, submit_rx_urb i ≤ 0

/-! ## The functions -/

def Holdings.alloc_subitems (h : Holdings) (o : ProbeOutcomes) : Int × Holdings :=
  if ¬ o.ioctl_rxmsgs then (-ENOMEM, h)
  else
    let h := { h with ioctl_rxmsgs := h.ioctl_rxmsgs.kmalloc }
    -- the pointer stays
    if ¬ o.cmd_buf then (-ENOMEM, { h with ioctl_rxmsgs := h.ioctl_rxmsgs.kfree })
    else (0, { h with cmd_buf := h.cmd_buf.kmalloc })

def Holdings.free_subitems (h : Holdings) : Holdings :=
  let h := if h.cmd_buf.ptr then { h with cmd_buf := h.cmd_buf.kfree.set_null } else h
  if h.ioctl_rxmsgs.ptr then { h with ioctl_rxmsgs := h.ioctl_rxmsgs.kfree.set_null } else h

def Holdings.pcan_chardev_initialize (h : Holdings) (map_umem : Bool) (o : ProbeOutcomes) :
    Int × Holdings :=
  if o.make_item < 0 then (o.make_item, h)
  else
    let h := { h with item := h.item.acquire }
    if map_umem then (0, h)
    else if ¬ o.rd_kernel_buf then (-ENOMEM, { h with item := h.item.release })
    else (0, { h with rd_kernel_buf := h.rd_kernel_buf.kmalloc })

/-- Nothing is mapped before the first read. -/
def Holdings.pcan_chardev_finalize (h : Holdings) (map_umem : Bool) : Holdings :=
  let h :=
    if map_umem = false ∧ h.rd_kernel_buf.ptr then
      { h with rd_kernel_buf := h.rd_kernel_buf.kfree.set_null }
    else h
  { h with item := h.item.release }

/-- A loop that breaks at the first error, `n` rounds from round `i` on: the error, and what
the rounds left. -/
def rounds {α : Type} (round : ℕ → Int × List α) : ℕ → ℕ → Int × List α
  | _, 0 => (0, [])
  | i, n + 1 =>
    let (err, left) := round i
    if err ≠ 0 then (err, left)
    else
      let (err, more) := rounds round (i + 1) n
      (err, left ++ more)

/-- The body of the loop over the receive URBs. -/
def ProbeOutcomes.rx_round (o : ProbeOutcomes) (i : ℕ) : Int × List RxUrb :=
  if ¬ o.rx_urb i then (-ENOMEM, [])
  else if ¬ o.rx_buf i then (-ENOMEM, [⟨usb_free_urb usb_alloc_urb, false, false⟩])
  else
    let urb := usb_anchor_urb alloc_with_buffer
    let err := o.submit_rx_urb i
    let urb := usb_free_urb (usb_submit_urb err urb)
    if err ≠ 0 then
      let urb := usb_unanchor_urb urb
      -- needed or not?
      (err, [⟨{ urb with transfer_buffer := kfree urb.transfer_buffer }, false, false⟩])
    else (0, [⟨urb, true, true⟩])

/-- The body of the loop over the transmit URBs. -/
def ProbeOutcomes.tx_round (o : ProbeOutcomes) (i : ℕ) : Int × List ContextUrb :=
  if ¬ o.tx_urb i then (-ENOMEM, [])
  else if ¬ o.tx_buf i then (-ENOMEM, [⟨usb_free_urb usb_alloc_urb, false⟩])
  else (0, [alloc_tx_urb])

/-- `usb_free_urb(ctx->urb)` and `ctx->urb = NULL`. -/
def ContextUrb.free (ctx : ContextUrb) : ContextUrb :=
  if ctx.linked then ⟨usb_free_urb ctx.urb, false⟩ else ctx

/-- The core takes each anchored URB, gives it back and drops what it took. The completion
handler does nothing before the device is started. -/
def usb_kill_anchored_urbs (rx_urbs : List RxUrb) : List RxUrb :=
  rx_urbs.map fun rx =>
    if rx.anchored then ⟨usb_free_urb (usb_hcd_giveback_urb id (usb_get_urb rx.urb)), false, false⟩
    else rx

def ProbeOutcomes.usbdrv_alloc_urbs (o : ProbeOutcomes) : Int × List RxUrb × List ContextUrb :=
  let (err, rx_urbs) := rounds o.rx_round 0 PCAN_USB_MAX_RX_URBS
  if err ≠ 0 then (err, usb_kill_anchored_urbs rx_urbs, [])
  else
    let (err, tx_contexts) := rounds o.tx_round 0 MAX_TX_URBS
    if err ≠ 0 then (err, usb_kill_anchored_urbs rx_urbs, tx_contexts.map ContextUrb.free)
    else (0, rx_urbs, tx_contexts)

/-! ## The probe -/

/-- `lbl_release_res` -/
def Holdings.release_res (h : Holdings) : Holdings :=
  let h := h.free_subitems
  { h with netdev := h.netdev.release }

/-- `lbl_unreg_can` -/
def Holdings.unreg_can (h : Holdings) : Holdings :=
  Holdings.release_res { h with candev := h.candev.release }

/-- `lbl_unreg_chardev` -/
def Holdings.unreg_chardev (h : Holdings) (map_umem : Bool) : Holdings :=
  (h.pcan_chardev_finalize map_umem).unreg_can

/-- `lbl_remove_dev_attrs` -/
def Holdings.remove_dev_attrs (h : Holdings) (map_umem : Bool) : Holdings :=
  Holdings.unreg_chardev { h with sysfs := h.sysfs.release } map_umem

/-- From `usbdrv_alloc_urbs` on. -/
def ProbeOutcomes.plugin_urbs (o : ProbeOutcomes) (map_umem : Bool) (h : Holdings) :
    Int × PluginState :=
  let (err, rx_urbs, tx_contexts) := o.usbdrv_alloc_urbs
  if err < 0 then (err, ⟨h.remove_dev_attrs map_umem, rx_urbs, tx_contexts⟩)
  else if o.get_device_info < 0 then
    (o.get_device_info, ⟨h.remove_dev_attrs map_umem, rx_urbs, tx_contexts⟩)
  else if o.reset_bus < 0 then
    (o.reset_bus, ⟨h.remove_dev_attrs map_umem, rx_urbs, tx_contexts⟩)
  else (0, ⟨h, rx_urbs, tx_contexts⟩)

/-- From `pcan_chardev_initialize` on. -/
def ProbeOutcomes.plugin_chardev (o : ProbeOutcomes) (map_umem : Bool) (h : Holdings) :
    Int × PluginState :=
  let (err, h) := h.pcan_chardev_initialize map_umem o
  if err < 0 then (err, ⟨h.unreg_can, [], []⟩)
  else if o.sysfs_create_files < 0 then
    (o.sysfs_create_files, ⟨h.unreg_chardev map_umem, [], []⟩)
  else o.plugin_urbs map_umem { h with sysfs := h.sysfs.acquire }

def ProbeOutcomes.pcan_usb_plugin (o : ProbeOutcomes) (map_umem : Bool) : Int × PluginState :=
  if o.check_endpoints ≠ 0 then (o.check_endpoints, ⟨.none, [], []⟩)
  else if ¬ o.alloc_candev then (-ENOMEM, ⟨.none, [], []⟩)
  else
    let h := { Holdings.none with netdev := Holding.none.acquire }
    let (err, h) := h.alloc_subitems o
    if err < 0 then (err, ⟨h.release_res, [], []⟩)
    else if o.register_candev < 0 then (o.register_candev, ⟨h.release_res, [], []⟩)
    else o.plugin_chardev map_umem { h with candev := h.candev.acquire }

/-- Everything that was acquired has been released exactly once, nothing else has been
released, and the USB core has no receive URB. -/
structure PluginState.NothingLeft (s : PluginState) : Prop where
  held : s.held.Settled
  rx_urbs : ∀ rx ∈ s.rx_urbs, rx.urb.FreedOnce ∧ rx.in_flight = false
  tx_urbs : ∀ ctx ∈ s.tx_contexts, ctx.urb.FreedOnce

/-! ## The call that fails -/

inductive ProbeCall
  | check_endpoints
  | alloc_candev
  | alloc_ioctl_rxmsgs
  | alloc_cmd_buf
  | register_candev
  | make_item
  | alloc_rd_kernel_buf
  | sysfs_create_files
  | alloc_rx_urb (i : ℕ)
  | alloc_rx_buf (i : ℕ)
  | submit_rx_urb (i : ℕ)
  | alloc_tx_urb (i : ℕ)
  | alloc_tx_buf (i : ℕ)
  | get_device_info
  | reset_bus
deriving DecidableEq, Repr

def ProbeOutcomes.fails (o : ProbeOutcomes) : ProbeCall → Bool
  | .check_endpoints => o.check_endpoints ≠ 0
  | .alloc_candev => ¬ o.alloc_candev
  | .alloc_ioctl_rxmsgs => ¬ o.ioctl_rxmsgs
  | .alloc_cmd_buf => ¬ o.cmd_buf
  | .register_candev => o.register_candev < 0
  | .make_item => o.make_item < 0
  | .alloc_rd_kernel_buf => ¬ o.rd_kernel_buf
  | .sysfs_create_files => o.sysfs_create_files < 0
  | .alloc_rx_urb i => ¬ o.rx_urb i
  | .alloc_rx_buf i => ¬ o.rx_buf i
  | .submit_rx_urb i => o.submit_rx_urb i ≠ 0
  | .alloc_tx_urb i => ¬ o.tx_urb i
  | .alloc_tx_buf i => ¬ o.tx_buf i
  | .get_device_info => o.get_device_info < 0
  | .reset_bus => o.reset_bus < 0

def rx_calls (i : ℕ) : List ProbeCall := [.alloc_rx_urb i, .alloc_rx_buf i, .submit_rx_urb i]

def tx_calls (i : ℕ) : List ProbeCall := [.alloc_tx_urb i, .alloc_tx_buf i]

/-- The fallible calls from `usbdrv_alloc_urbs` on. -/
def urb_calls : List ProbeCall :=
  (List.range' 0 PCAN_USB_MAX_RX_URBS).flatMap rx_calls
    ++ ((List.range' 0 MAX_TX_URBS).flatMap tx_calls ++ [.get_device_info, .reset_bus])

/-- The fallible calls of a probe, in the order in which it makes them. -/
def probe_calls (map_umem : Bool) : List ProbeCall :=
  [.check_endpoints, .alloc_candev, .alloc_ioctl_rxmsgs, .alloc_cmd_buf, .register_candev,
    .make_item] ++ ((if map_umem then [] else [.alloc_rd_kernel_buf])
      ++ .sysfs_create_files :: urb_calls)

def ProbeOutcomes.first_failure (o : ProbeOutcomes) (map_umem : Bool) : Option ProbeCall :=
  (probe_calls map_umem).find? o.fails

/-- Whether the labels take back exactly what was acquired before this call. -/
def ProbeCall.taken_back : ProbeCall → Bool
  | .alloc_cmd_buf | .submit_rx_urb _ | .get_device_info | .reset_bus => false
  | _ => true

/-! ## The two loops -/

section

variable {α κ : Type} (fails : κ → Bool) (Good : α → Prop) (Last : κ → List α → Prop)

/-- A round goes through and leaves one thing, or breaks at a call that fails. -/
inductive RoundEnds (calls : List κ) : Int × List α → Prop
  | passed (a : α) (hnone : calls.find? fails = none) (hgood : Good a) : RoundEnds calls (0, [a])
  | broken (err : Int) (herr : err < 0) (call : κ) (hfails : calls.find? fails = some call)
      (left : List α) (hlast : Last call left) : RoundEnds calls (err, left)

/-- The same for `n` rounds. -/
inductive RoundsEnd (n : ℕ) (calls : List κ) : Int × List α → Prop
  | passed (left : List α) (hlen : left.length = n) (hnone : calls.find? fails = none)
      (hgood : ∀ a ∈ left, Good a) : RoundsEnd n calls (0, left)
  | broken (err : Int) (herr : err < 0) (call : κ) (hfails : calls.find? fails = some call)
      (done left : List α) (hgood : ∀ a ∈ done, Good a) (hlast : Last call left) :
    RoundsEnd n calls (err, done ++ left)

variable {fails Good Last}

/-- A loop ends where its rounds do, at the first that fails. -/
theorem rounds_end {round : ℕ → Int × List α} {calls : ℕ → List κ}
    (hround : ∀ i, RoundEnds fails Good Last (calls i) (round i)) (n i : ℕ) :
    RoundsEnd fails Good Last n ((List.range' i n).flatMap calls) (rounds round i n) := by
  induction n generalizing i with
  | zero => exact .passed [] rfl rfl (by simp)
  | succ n ih =>
    have hfirst := hround i
    rw [List.range'_succ, List.flatMap_cons, rounds]
    generalize round i = result at hfirst ⊢
    cases hfirst with
    | broken err herr call hfails left hlast =>
      have hfound : ((calls i) ++ (List.range' (i + 1) n).flatMap calls).find? fails = some call := by
        rw [List.find?_append, hfails]
        rfl
      dsimp only
      rw [if_pos herr.ne]
      exact .broken err herr call hfound [] left (by simp) hlast
    | passed a hnone hgood =>
      dsimp only
      rw [if_neg (not_not.mpr rfl)]
      have hrest := ih (i + 1)
      have hskip : ((calls i) ++ (List.range' (i + 1) n).flatMap calls).find? fails
          = ((List.range' (i + 1) n).flatMap calls).find? fails := by
        rw [List.find?_append, hnone]
        rfl
      generalize rounds round (i + 1) n = result at hrest ⊢
      cases hrest with
      | passed left hlen hnone' hgood' =>
        refine .passed (a :: left) (by rw [List.length_cons, hlen]) (hskip.trans hnone') ?_
        rintro b (_ | ⟨_, hb⟩)
        · exact hgood
        · exact hgood' b hb
      | broken err herr call hfails done left hgood' hlast =>
        refine .broken err herr call (hskip.trans hfails) (a :: done) left ?_ hlast
        rintro b (_ | ⟨_, hb⟩)
        · exact hgood
        · exact hgood' b hb

end

/-- A receive URB in the hands of the USB core. -/
structure RxUrb.Submitted (rx : RxUrb) : Prop where
  anchored : rx.anchored = true
  held : rx.urb.WithBuffer 2

/-- What the round that breaks leaves: nothing submitted, and each URB freed once with its
buffer, if the failure is one that is taken back. -/
structure RxLast (call : ProbeCall) (left : List RxUrb) : Prop where
  idle : ∀ rx ∈ left, rx.anchored = false ∧ rx.in_flight = false
  freed_iff : (∀ rx ∈ left, rx.urb.FreedOnce) ↔ call.taken_back = true

/-- A URB without a buffer, freed at once. -/
theorem usb_free_urb_freedOnce : (usb_free_urb usb_alloc_urb).FreedOnce :=
  ⟨rfl, fun freed hmem => by cases hmem⟩

/-- A round of the first loop submits its URB or leaves it. -/
theorem rx_round_ends (o : ProbeOutcomes) (i : ℕ) :
    RoundEnds o.fails RxUrb.Submitted RxLast (rx_calls i) (o.rx_round i) := by
  have hanchored : (usb_anchor_urb alloc_with_buffer).WithBuffer 2 := alloc_with_buffer_held.get
  have hnomem : -ENOMEM < 0 := by decide
  unfold ProbeOutcomes.rx_round rx_calls
  by_cases hurb : ¬ o.rx_urb i
  · rw [if_pos hurb]
    refine .broken _ hnomem (.alloc_rx_urb i) ?_ _ ⟨by simp, by simp [ProbeCall.taken_back]⟩
    simp [ProbeOutcomes.fails, hurb]
  rw [if_neg hurb]
  by_cases hbuf : ¬ o.rx_buf i
  · rw [if_pos hbuf]
    refine .broken _ hnomem (.alloc_rx_buf i) ?_ _ ⟨by simp, ?_⟩
    · simp [List.find?, ProbeOutcomes.fails, hurb, hbuf]
    · simp [ProbeCall.taken_back, usb_free_urb_freedOnce]
  rw [if_neg hbuf]
  dsimp only
  have hcalls : ([.alloc_rx_urb i, .alloc_rx_buf i, .submit_rx_urb i] : List ProbeCall).find? o.fails
      = if o.submit_rx_urb i ≠ 0 then some (.submit_rx_urb i) else none := by
    by_cases hsubmit : o.submit_rx_urb i ≠ 0 <;>
      simp [List.find?, ProbeOutcomes.fails, hurb, hbuf, hsubmit]
  by_cases hsubmit : o.submit_rx_urb i ≠ 0
  · rw [if_pos hsubmit] at hcalls ⊢
    have hneg : o.submit_rx_urb i < 0 := lt_of_le_of_ne (o.submit_le i) hsubmit
    refine .broken _ hneg _ hcalls _ ⟨by simp, ?_⟩
    -- the last reference has freed the buffer already
    refine iff_of_false (fun hfreed => ?_) (by simp [ProbeCall.taken_back])
    have hgone : (usb_unanchor_urb (usb_free_urb (usb_anchor_urb alloc_with_buffer))).WithBuffer 0 :=
      CountedUrb.WithBuffer.free (CountedUrb.WithBuffer.free hanchored)
    have hfirst := (hgone.freed_once_iff.mpr rfl).urb_once
    have hbuffer := hgone.buffer_eq
    rw [hfirst] at hbuffer
    have hsecond := (hfreed _ (List.mem_singleton_self _)).buffer_once 2
    rw [usb_submit_urb, if_neg hsubmit] at hsecond
    dsimp only at hsecond
    rw [hbuffer] at hsecond
    exact absurd (hsecond rfl) (by decide)
  · rw [if_neg hsubmit] at hcalls ⊢
    refine .passed _ hcalls ⟨rfl, ?_⟩
    rw [not_not.mp hsubmit]
    exact CountedUrb.WithBuffer.free (CountedUrb.WithBuffer.get hanchored)

/-- A transmit URB of a context. -/
structure ContextUrb.Allocated (ctx : ContextUrb) : Prop where
  linked : ctx.linked = true
  held : ctx.urb.WithBuffer 1

structure TxLast (call : ProbeCall) (left : List ContextUrb) : Prop where
  taken_back : call.taken_back = true
  freed : ∀ ctx ∈ left, ctx.linked = false ∧ ctx.urb.FreedOnce

/-- A round of the second loop allocates its context or leaves it. -/
theorem tx_round_ends (o : ProbeOutcomes) (i : ℕ) :
    RoundEnds o.fails ContextUrb.Allocated TxLast (tx_calls i) (o.tx_round i) := by
  have hnomem : -ENOMEM < 0 := by decide
  unfold ProbeOutcomes.tx_round tx_calls
  by_cases hurb : ¬ o.tx_urb i
  · rw [if_pos hurb]
    refine .broken _ hnomem (.alloc_tx_urb i) ?_ _ ⟨rfl, by simp⟩
    simp [ProbeOutcomes.fails, hurb]
  rw [if_neg hurb]
  by_cases hbuf : ¬ o.tx_buf i
  · rw [if_pos hbuf]
    refine .broken _ hnomem (.alloc_tx_buf i) ?_ _ ⟨rfl, ?_⟩
    · simp [List.find?, ProbeOutcomes.fails, hurb, hbuf]
    · simp [usb_free_urb_freedOnce]
  · rw [if_neg hbuf]
    refine .passed _ ?_ ⟨rfl, alloc_with_buffer_held⟩
    simp [List.find?, ProbeOutcomes.fails, hurb, hbuf]

/-! ## Killing and freeing -/

/-- A URB in the hands of the core comes back, and goes with its last reference. -/
theorem kill_submitted {rx_urbs : List RxUrb} (h : ∀ rx ∈ rx_urbs, rx.Submitted) :
    ∀ rx ∈ usb_kill_anchored_urbs rx_urbs, rx.urb.FreedOnce ∧ rx.in_flight = false := by
  intro rx hrx
  obtain ⟨rx, hmem, rfl⟩ := List.mem_map.mp hrx
  have hheld := (h rx hmem).held
  rw [if_pos (h rx hmem).anchored]
  have hback : (usb_hcd_giveback_urb id (usb_get_urb rx.urb)).WithBuffer 1 :=
    CountedUrb.WithBuffer.giveback hheld.get
  exact ⟨hback.free.freed_once_iff.mpr rfl, rfl⟩

/-- With no URB anchored there is nothing to kill. -/
theorem kill_idle {rx_urbs : List RxUrb} (h : ∀ rx ∈ rx_urbs, rx.anchored = false) :
    usb_kill_anchored_urbs rx_urbs = rx_urbs := by
  have hkeep : ∀ rx ∈ rx_urbs, (if rx.anchored then
      ⟨usb_free_urb (usb_hcd_giveback_urb id (usb_get_urb rx.urb)), false, false⟩ else rx)
        = id rx := by
    intro rx hmem
    rw [if_neg (by rw [h rx hmem]; decide)]
    rfl
  rw [usb_kill_anchored_urbs, List.map_congr_left hkeep, List.map_id]

/-- Freeing the contexts frees those that have a URB. -/
theorem free_contexts {done left : List ContextUrb} (hdone : ∀ ctx ∈ done, ctx.Allocated)
    (hleft : ∀ ctx ∈ left, ctx.linked = false ∧ ctx.urb.FreedOnce) :
    ∀ ctx ∈ (done ++ left).map ContextUrb.free, ctx.urb.FreedOnce := by
  intro ctx hctx
  obtain ⟨ctx, hmem, rfl⟩ := List.mem_map.mp hctx
  unfold ContextUrb.free
  rcases List.mem_append.mp hmem with hmem | hmem
  · rw [if_pos (hdone ctx hmem).linked]
    exact (hdone ctx hmem).held.free.freed_once_iff.mpr rfl
  · rw [if_neg (by rw [(hleft ctx hmem).1]; decide)]
    exact (hleft ctx hmem).2

/-- The URBs part of `NothingLeft`. -/
def UrbsFreed (rx_urbs : List RxUrb) (tx_contexts : List ContextUrb) : Prop :=
  (∀ rx ∈ rx_urbs, rx.urb.FreedOnce ∧ rx.in_flight = false) ∧ ∀ ctx ∈ tx_contexts, ctx.urb.FreedOnce

/-- `usbdrv_alloc_urbs` has all its URBs, or fails at one of its calls, and then it has freed
what it had allocated if that call is one that is taken back. -/
inductive AllocEnds (o : ProbeOutcomes) : Int × List RxUrb × List ContextUrb → Prop
  | passed (rx_urbs : List RxUrb) (tx_contexts : List ContextUrb)
      (hskip : urb_calls.find? o.fails = [.get_device_info, .reset_bus].find? o.fails)
      (hkept : ¬ UrbsFreed rx_urbs tx_contexts) : AllocEnds o (0, rx_urbs, tx_contexts)
  | broken (err : Int) (herr : err < 0) (call : ProbeCall)
      (hfails : urb_calls.find? o.fails = some call) (rx_urbs : List RxUrb)
      (tx_contexts : List ContextUrb)
      (hfreed : UrbsFreed rx_urbs tx_contexts ↔ call.taken_back = true) :
    AllocEnds o (err, rx_urbs, tx_contexts)

/-- The cleanup kills what a broken receive round left: the URBs of the rounds before it come
back, and its own is as it was. -/
theorem killed_iff {call : ProbeCall} {done left : List RxUrb}
    (hdone : ∀ rx ∈ done, rx.Submitted) (hleft : RxLast call left) :
    UrbsFreed (usb_kill_anchored_urbs (done ++ left)) [] ↔ call.taken_back = true := by
  have hidle := kill_idle fun rx hmem => (hleft.idle rx hmem).1
  have hsplit : usb_kill_anchored_urbs (done ++ left) = usb_kill_anchored_urbs done ++ left := by
    rw [usb_kill_anchored_urbs, List.map_append]
    exact congrArg _ hidle
  rw [hsplit, ← hleft.freed_iff]
  constructor
  · exact fun hfreed rx hmem => (hfreed.1 rx (List.mem_append_right _ hmem)).1
  · intro hfreed
    refine ⟨fun rx hmem => ?_, by simp⟩
    rcases List.mem_append.mp hmem with hmem | hmem
    · exact kill_submitted hdone rx hmem
    · exact ⟨hfreed rx hmem, (hleft.idle rx hmem).2⟩

/-- A context that is left allocated is not freed. -/
theorem not_freed_of_allocated {rx_urbs : List RxUrb} {tx_contexts : List ContextUrb}
    (hsome : 0 < tx_contexts.length) (hallocated : ∀ ctx ∈ tx_contexts, ctx.Allocated) :
    ¬ UrbsFreed rx_urbs tx_contexts := by
  intro hfreed
  -- the first context is there, and holds its URB
  have hmem := List.getElem_mem hsome
  exact absurd ((hallocated _ hmem).held.freed_once_iff.mp (hfreed.2 _ hmem)) one_ne_zero

/-- The two loops and what is undone where one of them breaks off. -/
theorem usbdrv_alloc_urbs_ends (o : ProbeOutcomes) : AllocEnds o o.usbdrv_alloc_urbs := by
  have hrx := rounds_end (rx_round_ends o) PCAN_USB_MAX_RX_URBS 0
  have htx := rounds_end (tx_round_ends o) MAX_TX_URBS 0
  have hcalls : urb_calls.find? o.fails
      = (((List.range' 0 PCAN_USB_MAX_RX_URBS).flatMap rx_calls).find? o.fails).or
          ((((List.range' 0 MAX_TX_URBS).flatMap tx_calls).find? o.fails).or
            ([.get_device_info, .reset_bus].find? o.fails)) := by
    rw [urb_calls, List.find?_append, List.find?_append]
  unfold ProbeOutcomes.usbdrv_alloc_urbs
  generalize rounds o.rx_round 0 PCAN_USB_MAX_RX_URBS = rx at hrx ⊢
  cases hrx with
  | broken err herr call hfails done left hdone hleft =>
    rw [hfails] at hcalls
    dsimp only
    rw [if_pos herr.ne]
    exact .broken err herr call hcalls _ _ (killed_iff hdone hleft)
  | passed rx_urbs hlen hnone hsubmitted =>
    rw [hnone, Option.none_or] at hcalls
    dsimp only
    rw [if_neg (not_not.mpr rfl)]
    generalize rounds o.tx_round 0 MAX_TX_URBS = tx at htx ⊢
    cases htx with
    | broken err herr call hfails done left hdone hleft =>
      rw [hfails] at hcalls
      dsimp only
      rw [if_pos herr.ne]
      refine .broken err herr call hcalls _ _ ?_
      exact iff_of_true ⟨kill_submitted hsubmitted, free_contexts hdone hleft.freed⟩
        hleft.taken_back
    | passed tx_contexts hlen' hnone' hallocated =>
      rw [hnone', Option.none_or] at hcalls
      dsimp only
      rw [if_neg (not_not.mpr rfl)]
      have hsome : 0 < tx_contexts.length := by rw [hlen']; decide
      exact .passed rx_urbs tx_contexts hcalls (not_freed_of_allocated hsome hallocated)

/-! ## The whole probe -/

/-- A part of the probe goes through, or fails at the first of its calls that does. -/
def ProbeEnds (o : ProbeOutcomes) (calls : List ProbeCall) (r : Int × PluginState) : Prop :=
  r.1 = 0 ∨ r.1 ≠ 0 ∧ ∃ call, calls.find? o.fails = some call
    ∧ (r.2.NothingLeft ↔ call.taken_back = true)

section

variable {o : ProbeOutcomes} {call : ProbeCall} {calls : List ProbeCall} {r : Int × PluginState}

/-- A call that succeeds is passed. -/
theorem ProbeEnds.skip (hgoes : o.fails call = false) (h : ProbeEnds o calls r) :
    ProbeEnds o (call :: calls) r := by
  rw [ProbeEnds, List.find?_cons_of_neg (by rw [hgoes]; decide)]
  exact h

theorem ProbeEnds.fail (hfails : o.fails call = true) (herr : r.1 ≠ 0)
    (hleft : r.2.NothingLeft ↔ call.taken_back = true) : ProbeEnds o (call :: calls) r :=
  .inr ⟨herr, call, List.find?_cons_of_pos hfails, hleft⟩

/-- Where the labels settle the rest, it is on the URBs. -/
theorem nothingLeft_iff {held : Holdings} (h : held.Settled) (rx_urbs : List RxUrb)
    (tx_contexts : List ContextUrb) :
    (PluginState.mk held rx_urbs tx_contexts).NothingLeft ↔ UrbsFreed rx_urbs tx_contexts :=
  ⟨fun hleft => ⟨hleft.rx_urbs, hleft.tx_urbs⟩, fun hfreed => ⟨h, hfreed.1, hfreed.2⟩⟩

theorem nothingLeft_of_settled {held : Holdings} (h : held.Settled) :
    (PluginState.mk held [] []).NothingLeft := ⟨h, by simp, by simp⟩

end

/-- The last part of the probe undoes the rest where it fails. -/
theorem plugin_urbs_ends (o : ProbeOutcomes) (map_umem : Bool) {h : Holdings}
    (hsettles : (h.remove_dev_attrs map_umem).Settled) :
    ProbeEnds o urb_calls (o.plugin_urbs map_umem h) := by
  have hends := usbdrv_alloc_urbs_ends o
  unfold ProbeOutcomes.plugin_urbs
  generalize o.usbdrv_alloc_urbs = result at hends ⊢
  cases hends with
  | broken err herr call hfails rx_urbs tx_contexts hfreed =>
    dsimp only
    rw [if_pos herr]
    exact .inr ⟨herr.ne, call, hfails, (nothingLeft_iff hsettles _ _).trans hfreed⟩
  | passed rx_urbs tx_contexts hskip hkept =>
    dsimp only
    rw [if_neg (lt_irrefl 0), ProbeEnds, hskip]
    change ProbeEnds o [.get_device_info, .reset_bus] _
    have hleft := (nothingLeft_iff hsettles rx_urbs tx_contexts).not.mpr hkept
    by_cases hinfo : o.get_device_info < 0
    · rw [if_pos hinfo]
      exact .fail (decide_eq_true hinfo) hinfo.ne (iff_of_false hleft (by decide))
    rw [if_neg hinfo]
    refine .skip (decide_eq_false hinfo) ?_
    by_cases hreset : o.reset_bus < 0
    · rw [if_pos hreset]
      exact .fail (decide_eq_true hreset) hreset.ne (iff_of_false hleft (by decide))
    rw [if_neg hreset]
    exact .inl rfl

/-- What is held in front of `register_candev`. -/
def Holdings.with_subitems : Holdings :=
  { Holdings.none with
    netdev := ⟨true, 0⟩
    ioctl_rxmsgs := ⟨true, true, 0⟩
    cmd_buf := ⟨true, true, 0⟩ }

/-- What is held in front of `pcan_chardev_initialize`. -/
def Holdings.with_candev : Holdings := { Holdings.with_subitems with candev := ⟨true, 0⟩ }

/-- What is held behind it. -/
def Holdings.with_chardev (map_umem : Bool) : Holdings :=
  { Holdings.with_candev with
    item := ⟨true, 0⟩
    rd_kernel_buf := if map_umem then .null else ⟨true, true, 0⟩ }

/-- The part behind the character device. -/
theorem plugin_behind_chardev {o : ProbeOutcomes} {map_umem : Bool}
    (hinit : Holdings.with_candev.pcan_chardev_initialize map_umem o
      = (0, .with_chardev map_umem)) :
    ProbeEnds o (.sysfs_create_files :: urb_calls) (o.plugin_chardev map_umem .with_candev) := by
  have hsettles : ((Holdings.with_chardev map_umem).unreg_chardev map_umem).Settled := by
    cases map_umem <;> decide
  unfold ProbeOutcomes.plugin_chardev
  rw [hinit]
  dsimp only
  rw [if_neg (lt_irrefl 0)]
  by_cases hsysfs : o.sysfs_create_files < 0
  · rw [if_pos hsysfs]
    exact .fail (decide_eq_true hsysfs) hsysfs.ne
      (iff_of_true (nothingLeft_of_settled hsettles) rfl)
  · rw [if_neg hsysfs]
    refine .skip (decide_eq_false hsysfs) (plugin_urbs_ends o map_umem ?_)
    cases map_umem <;> decide

/-- The part from the character device on. -/
theorem plugin_chardev_ends (o : ProbeOutcomes) (map_umem : Bool) :
    ProbeEnds o
      (.make_item :: ((if map_umem then [] else [.alloc_rd_kernel_buf])
        ++ .sysfs_create_files :: urb_calls))
      (o.plugin_chardev map_umem .with_candev) := by
  by_cases hitem : o.make_item < 0
  · have hinit : Holdings.with_candev.pcan_chardev_initialize map_umem o
        = (o.make_item, .with_candev) := if_pos hitem
    unfold ProbeOutcomes.plugin_chardev
    rw [hinit]
    dsimp only
    rw [if_pos hitem]
    exact .fail (decide_eq_true hitem) hitem.ne
      (iff_of_true (nothingLeft_of_settled (by decide)) rfl)
  refine .skip (decide_eq_false hitem) ?_
  cases map_umem with
  | true =>
    -- no buffer is needed
    exact plugin_behind_chardev (if_neg hitem)
  | false =>
    change ProbeEnds o (.alloc_rd_kernel_buf :: .sysfs_create_files :: urb_calls) _
    by_cases hbuf : o.rd_kernel_buf = true
    · refine .skip (by simp [ProbeOutcomes.fails, hbuf]) (plugin_behind_chardev ?_)
      exact (if_neg hitem).trans (if_neg (not_not.mpr hbuf))
    · have hinit : Holdings.with_candev.pcan_chardev_initialize false o
          = (-ENOMEM, { Holdings.with_candev with item := ⟨true, 1⟩ }) :=
        (if_neg hitem).trans (if_pos hbuf)
      unfold ProbeOutcomes.plugin_chardev
      rw [hinit]
      dsimp only
      rw [if_pos (by decide)]
      exact .fail (by simp [ProbeOutcomes.fails, hbuf]) (by decide)
        (iff_of_true (nothingLeft_of_settled (by decide)) rfl)

/-- `alloc_subitems` fails with nothing, or with memory that it has freed and still points
to. -/
theorem plugin_behind_subitems {o : ProbeOutcomes} {map_umem : Bool}
    (hendpoints : o.check_endpoints = 0) (hcandev : o.alloc_candev = true) :
    o.pcan_usb_plugin map_umem
      = if o.ioctl_rxmsgs = false then
          (-ENOMEM, ⟨{ Holdings.none with netdev := ⟨true, 1⟩ }, [], []⟩)
        else if o.cmd_buf = false then
          (-ENOMEM, ⟨{ Holdings.none with
            netdev := ⟨true, 1⟩
            ioctl_rxmsgs := ⟨false, true, 2⟩ }, [], []⟩)
        else if o.register_candev < 0 then
          (o.register_candev, ⟨Holdings.with_subitems.release_res, [], []⟩)
        else o.plugin_chardev map_umem .with_candev := by
  unfold ProbeOutcomes.pcan_usb_plugin Holdings.alloc_subitems
  rw [if_neg (not_not.mpr hendpoints), if_neg (not_not.mpr hcandev)]
  cases hrxmsgs : o.ioctl_rxmsgs with
  | false => rfl
  | true =>
    cases hcmd : o.cmd_buf with
    | false => rfl
    | true => rfl

/-- The whole probe ends at the first call that fails. -/
theorem pcan_usb_plugin_ends (o : ProbeOutcomes) (map_umem : Bool) :
    ProbeEnds o (probe_calls map_umem) (o.pcan_usb_plugin map_umem) := by
  have hnomem : -ENOMEM ≠ 0 := by decide
  by_cases hendpoints : o.check_endpoints ≠ 0
  · have hplugin : o.pcan_usb_plugin map_umem = (o.check_endpoints, ⟨.none, [], []⟩) :=
      if_pos hendpoints
    rw [hplugin]
    exact .fail (decide_eq_true hendpoints) hendpoints
      (iff_of_true (nothingLeft_of_settled (by decide)) rfl)
  refine .skip (decide_eq_false hendpoints) ?_
  cases hcandev : o.alloc_candev with
  | false =>
    have hplugin : o.pcan_usb_plugin map_umem = (-ENOMEM, ⟨.none, [], []⟩) :=
      (if_neg hendpoints).trans (if_pos (by simp [hcandev]))
    rw [hplugin]
    exact .fail (by simp [ProbeOutcomes.fails, hcandev]) hnomem
      (iff_of_true (nothingLeft_of_settled (by decide)) rfl)
  | true =>
    refine .skip (by simp [ProbeOutcomes.fails, hcandev]) ?_
    rw [plugin_behind_subitems (not_not.mp hendpoints) hcandev]
    by_cases hrxmsgs : o.ioctl_rxmsgs = false
    · rw [if_pos hrxmsgs]
      exact .fail (by simp [ProbeOutcomes.fails, hrxmsgs]) hnomem
        (iff_of_true (nothingLeft_of_settled (by decide)) rfl)
    rw [if_neg hrxmsgs]
    refine .skip (by simp [ProbeOutcomes.fails, hrxmsgs]) ?_
    by_cases hcmd : o.cmd_buf = false
    · rw [if_pos hcmd]
      refine .fail (by simp [ProbeOutcomes.fails, hcmd]) hnomem (iff_of_false ?_ (by decide))
      exact fun hleft => absurd hleft.held (by decide)
    rw [if_neg hcmd]
    refine .skip (by simp [ProbeOutcomes.fails, hcmd]) ?_
    by_cases hregister : o.register_candev < 0
    · rw [if_pos hregister]
      exact .fail (decide_eq_true hregister) hregister.ne
        (iff_of_true (nothingLeft_of_settled (by decide)) rfl)
    · rw [if_neg hregister]
      exact .skip (decide_eq_false hregister) (plugin_chardev_ends o map_umem)

/-- For every combination of outcomes with which the probe returns an error: it leaves nothing
behind exactly if the first of its calls that fails is none of the allocation of `cmd_buf`,
the submission of a receive URB, `get_device_info` and `usbdrv_reset_bus`. -/
theorem failed_probe_leaves_nothing_iff (o : ProbeOutcomes) (map_umem : Bool)
    (herr : (o.pcan_usb_plugin map_umem).1 ≠ 0) :
    ∃ call, o.first_failure map_umem = some call
      ∧ ((o.pcan_usb_plugin map_umem).2.NothingLeft ↔ call.taken_back = true) := by
  rcases pcan_usb_plugin_ends o map_umem with hok | ⟨-, hfails⟩
  · exact absurd hok herr
  · exact hfails

/-- Nothing fails. -/
def ProbeOutcomes.fine : ProbeOutcomes where
  check_endpoints := 0
  alloc_candev := true
  ioctl_rxmsgs := true
  cmd_buf := true
  register_candev := 0
  make_item := 0
  rd_kernel_buf := true
  sysfs_create_files := 0
  rx_urb := fun _ => true
  rx_buf := fun _ => true
  submit_rx_urb := fun _ => 0
  tx_urb := fun _ => true
  tx_buf := fun _ => true
  get_device_info := 0
  reset_bus := 0
  submit_le := fun _ => le_refl 0

/-- No memory for the third transmit buffer. -/
def ProbeOutcomes.no_tx_buf : ProbeOutcomes := { ProbeOutcomes.fine with tx_buf := fun i => i ≠ 2 }

theorem failed_probe_leaves_nothing_iff_tx_buf :
    ∃ call, ProbeOutcomes.no_tx_buf.first_failure false = some call
      ∧ ((ProbeOutcomes.no_tx_buf.pcan_usb_plugin false).2.NothingLeft
        ↔ call.taken_back = true) :=
  failed_probe_leaves_nothing_iff .no_tx_buf false (by decide)

def ProbeOutcomes.no_cmd_buf : ProbeOutcomes := { ProbeOutcomes.fine with cmd_buf := false }

/-- The second receive URB is not taken. -/
def ProbeOutcomes.not_submitted : ProbeOutcomes :=
  { ProbeOutcomes.fine with
    submit_rx_urb := fun i => if i = 1 then -ENODEV else 0
    submit_le := fun i => by split <;> decide }

/-- The device does not tell its serial number. -/
def ProbeOutcomes.no_answer : ProbeOutcomes := { ProbeOutcomes.fine with get_device_info := -ENODEV }

/-- Three failed probes: the memory of `ioctl_rxmsgs` is freed twice, the buffer of a receive
URB is freed twice, all receive URBs stay with the USB core. -/
theorem failed_probes_leave :
    ((ProbeOutcomes.no_cmd_buf.pcan_usb_plugin false).1 = -ENOMEM
        ∧ ¬ (ProbeOutcomes.no_cmd_buf.pcan_usb_plugin false).2.NothingLeft)
      ∧ ((ProbeOutcomes.not_submitted.pcan_usb_plugin false).1 = -ENODEV
        ∧ ¬ (ProbeOutcomes.not_submitted.pcan_usb_plugin false).2.NothingLeft)
      ∧ ((ProbeOutcomes.no_answer.pcan_usb_plugin false).1 = -ENODEV
        ∧ ¬ (ProbeOutcomes.no_answer.pcan_usb_plugin false).2.NothingLeft) := by
  have hbuffers : ∀ {s : PluginState}, s.NothingLeft →
      ∀ buffer ∈ s.rx_urbs.map fun rx => rx.urb.transfer_buffer, buffer ≠ some 2 := by
    intro s hleft buffer hbuffer htwice
    obtain ⟨rx, hmem, rfl⟩ := List.mem_map.mp hbuffer
    exact absurd ((hleft.rx_urbs rx hmem).1.buffer_once 2 htwice) (by decide)
  refine ⟨⟨by decide, fun hleft => ?_⟩, ⟨by decide, fun hleft => ?_⟩, by decide,
    fun hleft => ?_⟩
  · exact absurd hleft.held (by decide)
  · exact absurd (hbuffers hleft) (by decide)
  · have hback : ∀ rx ∈ (ProbeOutcomes.no_answer.pcan_usb_plugin false).2.rx_urbs,
        rx.in_flight = false := fun rx hmem => (hleft.rx_urbs rx hmem).2
    exact absurd hback (by decide)

end DualPcanUsb
