/-
The receive URBs of a connected device.

`usbdrv_alloc_urbs` submits them once, when the device is plugged in; from then on the
completion handler submits each one again. Its early returns give a URB up for good,
so the number in flight only falls, and it stays what it was exactly while no
completion takes one of them.
-/
import DualPcanUsb.BusPower

set_option autoImplicit false

namespace DualPcanUsb

def PCAN_USB_MAX_TX_URBS : ℕ := 10

/-! ## Allocation -/

/-- A loop over `n` URBs from `i` on, left at the first error of an allocation or
submission: that error, and the URB it is left at. -/
def alloc_loop (urb_err : ℕ → Int) (i : ℕ) : ℕ → Int × ℕ
  | 0 => (0, i)
  | n + 1 => if urb_err i ≠ 0 then (urb_err i, i) else alloc_loop urb_err (i + 1) n

/-- Any failure ends with `usb_kill_anchored_urbs`. -/
def usbdrv_alloc_urbs (rx_err tx_err : ℕ → Int) (d : Device) : Int × Device :=
  let (err, i) := alloc_loop rx_err 0 PCAN_USB_MAX_RX_URBS
  let d := { d with rx_urbs := d.rx_urbs + i }
  if i < PCAN_USB_MAX_RX_URBS then (err, { d with rx_urbs := 0 })
  else
    let (err, i) := alloc_loop tx_err 0 (PCAN_USB_MAX_TX_URBS * 2)
    if i < PCAN_USB_MAX_TX_URBS * 2 then (err, { d with rx_urbs := 0 })
    else (0, d)

/-- The loop stops early only with an error. -/
theorem alloc_loop_spec (urb_err : ℕ → Int) (n : ℕ) : ∀ i,
    (alloc_loop urb_err i n).2 ≤ i + n
      ∧ ((alloc_loop urb_err i n).2 < i + n → (alloc_loop urb_err i n).1 ≠ 0) := by
  induction n with
  | zero => exact fun i => ⟨le_rfl, fun h => absurd h (Nat.lt_irrefl i)⟩
  | succ n ih =>
    intro i
    rw [alloc_loop]
    by_cases herr : urb_err i ≠ 0
    · rw [if_pos herr]
      exact ⟨Nat.le_add_right .., fun _ => herr⟩
    · rw [if_neg herr, show i + (n + 1) = i + 1 + n by omega]
      exact ih (i + 1)

/-- Success means that all receive URBs are submitted. -/
theorem usbdrv_alloc_urbs_rx_urbs {rx_err tx_err : ℕ → Int} {d d₀ : Device}
    (hempty : d.rx_urbs = 0) (h : usbdrv_alloc_urbs rx_err tx_err d = (0, d₀)) :
    d₀.rx_urbs = PCAN_USB_MAX_RX_URBS := by
  obtain ⟨hle, hrx⟩ := alloc_loop_spec rx_err PCAN_USB_MAX_RX_URBS 0
  obtain ⟨-, htx⟩ := alloc_loop_spec tx_err (PCAN_USB_MAX_TX_URBS * 2) 0
  unfold usbdrv_alloc_urbs at h
  -- a short loop of either kind returns its error, which is not zero
  generalize alloc_loop rx_err 0 PCAN_USB_MAX_RX_URBS = rx at h hle hrx
  generalize alloc_loop tx_err 0 (PCAN_USB_MAX_TX_URBS * 2) = tx at h htx
  obtain ⟨err, i⟩ := rx
  obtain ⟨err', i'⟩ := tx
  dsimp only at h hle hrx htx
  rw [Nat.zero_add] at hle hrx htx
  split at h
  · rename_i hshort
    exact absurd (Prod.mk.inj h).1 (hrx hshort)
  split at h
  · rename_i hshort
    exact absurd (Prod.mk.inj h).1 (htx hshort)
  · obtain rfl := (Prod.mk.inj h).2
    dsimp only
    omega

/-! ## Completions -/

/-- The completions in question: not a cancellation, and submitting again works. -/
def OrdinaryCompletion : DeviceAction → Prop
  | .complete _ urb submit_err =>
    urb.status ∉ [-ENOENT, -ECONNRESET, -ESHUTDOWN] ∧ submit_err = 0
  | _ => True

/-- The completion handler gets to submit the URB again: an interface is started, and
the URB did not fail with `-EILSEQ`. -/
def Resubmits (d : Device) : DeviceAction → Prop
  | .complete _ urb _ => PCAN_USB_STAGE_ONE_STARTED ≤ d.stage ∧ urb.status ≠ -EILSEQ
  | _ => True

instance : DecidablePred OrdinaryCompletion
  | .complete _ _ _ => inferInstanceAs (Decidable (_ ∧ _))
  | .open_ _ | .close _ | .advance _ _ => .isTrue trivial

instance (d : Device) : DecidablePred (Resubmits d)
  | .complete _ _ _ => inferInstanceAs (Decidable (_ ∧ _))
  | .open_ _ | .close _ | .advance _ _ => .isTrue trivial

/-- A completion that resubmits puts its URB back. -/
theorem usb_read_bulk_callback_resubmits {env : Env} {urb : Urb} {submit_err : Int} {d : Device}
    (hcompletion : OrdinaryCompletion (.complete env urb submit_err))
    (hresubmits : Resubmits d (.complete env urb submit_err)) :
    (usb_read_bulk_callback env urb submit_err d).rx_urbs = d.rx_urbs + 1 := by
  obtain ⟨hstatus, rfl⟩ := hcompletion
  obtain ⟨hstage, hseq⟩ := hresubmits
  unfold usb_read_bulk_callback
  rw [if_neg (by omega)]
  by_cases hok : urb.status = 0
  · rw [if_pos hok]
    by_cases hlen : urb.actual_length > 0
    · rw [if_pos hlen]
      rfl
    · rw [if_neg hlen]
      rfl
  · -- the other statuses of the list are cancellations
    rw [if_neg hok, if_neg (by simpa [hseq] using hstatus)]
    rfl

/-- A completion that does not resubmit puts no URB back. -/
theorem usb_read_bulk_callback_gives_up {env : Env} {urb : Urb} {submit_err : Int} {d : Device}
    (hlost : ¬ Resubmits d (.complete env urb submit_err)) :
    (usb_read_bulk_callback env urb submit_err d).rx_urbs = d.rx_urbs := by
  unfold usb_read_bulk_callback
  by_cases hstage : d.stage < PCAN_USB_STAGE_ONE_STARTED
  · rw [if_pos hstage]
  -- started all the same, so it was the status that made it give up
  have hseq : urb.status = -EILSEQ := by
    by_contra hne
    exact hlost ⟨by omega, hne⟩
  rw [if_neg hstage, if_neg (by rw [hseq]; decide),
    if_pos (by rw [hseq]; exact List.mem_cons_self)]

/-- Opening and closing do not touch the URBs, and a completion that resubmits its own
puts it back. -/
theorem step_keeps_rx_urbs (d : Device) (action : DeviceAction) (d' : Device)
    (hcompletion : OrdinaryCompletion action) (hresubmits : Resubmits d action)
    (h : d.step action = some d') : d'.rx_urbs = d.rx_urbs := by
  cases step_cases h with
  | open_chardev => rfl
  | open_netdev => rfl
  | close_chardev => rfl
  | close_netdev => rfl
  | advance i sent iface phase phase' d₁ hproc hop => exact (operate_spec hop).1.rx_urbs_eq
  | complete env urb submit_err hsubmitted =>
    -- the endpoint gave one up on completion, and gets it back
    have hback := @usb_read_bulk_callback_resubmits env urb submit_err
      { d with rx_urbs := d.rx_urbs - 1 } hcompletion hresubmits
    rw [hback]
    dsimp only
    omega

/-- A completion that does not resubmit leaves fewer URBs in flight. -/
theorem step_loses_rx_urb (d : Device) (action : DeviceAction) (d' : Device)
    (_ : OrdinaryCompletion action) (hlost : ¬ Resubmits d action)
    (h : d.step action = some d') : d'.rx_urbs < d.rx_urbs := by
  cases step_cases h with
  | complete env urb submit_err hsubmitted =>
    -- the endpoint gave one up on completion, for good
    have hback := @usb_read_bulk_callback_gives_up env urb submit_err
      { d with rx_urbs := d.rx_urbs - 1 } hlost
    rw [hback]
    dsimp only
    omega
  | _ => exact absurd trivial hlost

/-! ## Runs -/

/-- In every state reached from a successful `usbdrv_alloc_urbs`, all receive URBs are
in flight exactly if no completion so far came while no interface was started, or
failed with `-EILSEQ`. -/
theorem rx_urbs_full_iff (rx_err tx_err : ℕ → Int) (d₁ d₀ d : Device)
    (actions : List DeviceAction) (hempty : d₁.rx_urbs = 0)
    (halloc : usbdrv_alloc_urbs rx_err tx_err d₁ = (0, d₀))
    (hcompletions : ∀ action ∈ actions, OrdinaryCompletion action)
    (hrun : Runs.run Device.step d₀ actions = some d) :
    d.rx_urbs = PCAN_USB_MAX_RX_URBS ↔ Runs.Along Device.step Resubmits d₀ actions := by
  rw [← usbdrv_alloc_urbs_rx_urbs hempty halloc]
  exact (Runs.run_keeps_iff Device.step step_keeps_rx_urbs step_loses_rx_urb hcompletions
    hrun).2

/-- A plugged device before its URBs are allocated. -/
def Device.bare : Device := { Device.idle with rx_urbs := 0 }

theorem usbdrv_alloc_urbs_bare :
    usbdrv_alloc_urbs (fun _ => 0) (fun _ => 0) Device.bare = (0, Device.idle) := rfl

/-- An empty packet arrives. -/
def packet_arrives : DeviceAction := .complete Env.plenty ⟨0, buffer [0, 0], 2⟩ 0

/-- The process `i` opens the character device. -/
def open_chardev (i : ℕ) : List DeviceAction := .open_ .chardev :: List.replicate 5 (.advance i 0)

theorem rx_urbs_full_iff_open :
    ∃ d, Runs.run Device.step Device.idle (open_chardev 0 ++ [packet_arrives]) = some d
      ∧ d.rx_urbs = PCAN_USB_MAX_RX_URBS := by
  have hend : (Runs.run Device.step Device.idle (open_chardev 0 ++ [packet_arrives])).isSome
      = true := by decide
  obtain ⟨d, hrun⟩ := Option.isSome_iff_exists.mp hend
  exact ⟨d, hrun, (rx_urbs_full_iff (fun _ => 0) (fun _ => 0) Device.bare Device.idle d
    (open_chardev 0 ++ [packet_arrives]) rfl usbdrv_alloc_urbs_bare (by decide) hrun).mpr
    (by decide)⟩

/-- `pcan_chardev_release` has lowered the stage and not yet switched the bus off, when
packets arrive; then the character device is opened again. -/
def packets_during_release : List DeviceAction :=
  open_chardev 0 ++ [.close 0, .advance 0 0, .advance 0 0] ++ List.replicate 4 packet_arrives
    ++ [.advance 0 0, .advance 0 0] ++ open_chardev 1

/-- The character device is open on a connected device with its bus on, and no receive
URB is left. -/
theorem reception_dies_on_release :
    ∃ d, usbdrv_alloc_urbs (fun _ => 0) (fun _ => 0) Device.bare = (0, Device.idle)
      ∧ (∀ action ∈ packets_during_release, OrdinaryCompletion action)
      ∧ Runs.run Device.step Device.idle packets_during_release = some d
      ∧ d.quiescent ∧ d.in_use ∧ d.bus_on = true ∧ d.rx_urbs = 0 := by
  obtain ⟨d, hrun, hbad⟩ : ∃ d, Runs.run Device.step Device.idle packets_during_release = some d
      ∧ d.quiescent ∧ d.in_use ∧ d.bus_on = true ∧ d.rx_urbs = 0 :=
    Runs.exists_run_of_any Device.step (by decide)
  exact ⟨d, usbdrv_alloc_urbs_bare, by decide, hrun, hbad⟩

end DualPcanUsb
