/-
The two interfaces of one connected device, interleaved.

Opening and closing the character device (`pcan_chardev_open`,
`pcan_chardev_release`) and the network interface (`pcan_net_open` with
`start_can_interface`, `pcan_net_stop`) are cut at each atomic operation and each
command sent to the device. A process is one such open and its close; its phase is
what it does next. The processes take turns in any order, and completions of receive
URBs come in between.

Of the kernel around the driver the machine keeps: `netif_running` is set before
`ndo_open`, cleared if that fails and before `ndo_stop`; the network interface's
operations exclude each other (`rtnl_lock`), and a detached one is not opened; a file
is released once. What `close_candev` and the transmit queue do is left out.
-/
import DualPcanUsb.PacketFrame

set_option autoImplicit false

namespace DualPcanUsb

def PCAN_USB_MAX_RX_URBS : ℕ := 4

inductive Iface
  | chardev | netdev
deriving DecidableEq, Repr

/-- What a process does next, or how it ended. -/
inductive Phase
  | inc_open_count
  | undo_too_many
  | open_candev
  | inc_stage
  | set_silent
  | set_ext_vcc
  | set_bus_on
  | undo_stage (err : Int)
  | undo_open_count (err : Int)
  | close_candev (err : Int)
  | opened
  | dec_open_count
  | dec_stage
  | set_bus_off
  | init_sja1000
  | finished (ret : Int)
deriving DecidableEq, Repr

structure Proc where
  iface : Iface
  phase : Phase
deriving DecidableEq, Repr

/-- The driver's data of one device, the state of the device's CAN bus, and the
number of receive URBs the endpoint has. -/
structure Device where
  rx : RxState
  dev_revision : ℕ
  netif_device_present : Bool
  bus_on : Bool
  rx_urbs : ℕ
  procs : List Proc

def Device.stage (d : Device) : Int := d.rx.fwd.stage

def Device.open_count (d : Device) : Int := d.rx.fwd.char_dev.open_count

def Device.set_fwd (d : Device) (fwd : Forwarder) : Device :=
  { d with rx := { d.rx with fwd := fwd } }

def Device.set_stage (d : Device) (stage : Int) : Device :=
  d.set_fwd { d.rx.fwd with stage := stage }

def Device.set_can_state (d : Device) (state : CanState) : Device :=
  d.set_fwd { d.rx.fwd with can_state := state }

def Device.set_netif_running (d : Device) (netif_running : Bool) : Device :=
  d.set_fwd { d.rx.fwd with netif_running := netif_running }

def Device.set_open_count (d : Device) (open_count : Int) : Device :=
  d.set_fwd { d.rx.fwd with char_dev := { d.rx.fwd.char_dev with open_count := open_count } }

/-- The `atomic_set`s of the ring's counters. -/
def Device.reset_ring (d : Device) : Device :=
  d.set_fwd { d.rx.fwd with
    char_dev := { d.rx.fwd.char_dev with rx_write_idx := 0, rx_unread_cnt := 0, rx_packets := 0 } }

def Device.clear_time_ref (d : Device) : Device :=
  d.set_fwd { d.rx.fwd with time_ref := TimeRef.zero }

/-! ## Commands

`sent` is what the bulk transfer of a command returns. -/

def pcan_oneway_command (sent : Int) (d : Device) : Int :=
  if d.stage < PCAN_USB_STAGE_CONNECTED then -ENOTCONN else sent

def pcan_cmd_set_bus (sent : Int) (is_on : Bool) (d : Device) : Int × Device :=
  let err := pcan_oneway_command sent d
  (err, if err = 0 then { d with bus_on := is_on } else d)

/-- `usbdrv_reset_bus(forwarder, 0)`; the caller returns `ret err`. -/
def usbdrv_reset_bus_off (sent : Int) (ret : Int → Int) (d : Device) :
    Phase → Option (Phase × Device)
  | .set_bus_off =>
    let (err, d) := pcan_cmd_set_bus sent false d
    some (if err ≠ 0 then .finished (ret err) else .init_sja1000, d)
  | .init_sja1000 => some (.finished (ret (pcan_oneway_command sent d)), d)
  | _ => none

/-- `pcan_cmd_set_silent` is skipped on old devices. -/
def Device.first_command (d : Device) : Phase :=
  if d.dev_revision > 3 then .set_silent else .set_ext_vcc

/-- The commands both open functions send; `done` is what success is followed by. -/
def start_commands (sent : Int) (done : Device → Device) (d : Device) :
    Phase → Option (Phase × Device)
  | .set_silent =>
    let err := pcan_oneway_command sent d
    some (if err ≠ 0 then .undo_stage err else .set_ext_vcc, d)
  | .set_ext_vcc =>
    let err := pcan_oneway_command sent d
    some (if err ≠ 0 then .undo_stage err else .set_bus_on, d)
  | .set_bus_on =>
    -- waiting for the device comes behind this, and changes nothing
    let (err, d) := pcan_cmd_set_bus sent true d
    if err ≠ 0 then some (.undo_stage err, d) else some (.opened, done d)
  | _ => none

/-! ## The four operations -/

def pcan_chardev_open (sent : Int) (d : Device) : Phase → Option (Phase × Device)
  | .inc_open_count =>
    let d := d.set_open_count (d.open_count + 1)
    -- the second file is turned away; the first one empties the ring
    if d.open_count > 1 then some (.undo_too_many, d) else some (.inc_stage, d.reset_ring)
  | .undo_too_many => some (.finished (-EMFILE), d.set_open_count (d.open_count - 1))
  | .inc_stage =>
    let d := d.set_stage (d.stage + 1)
    -- the other interface is taken to have switched on already
    if d.stage > PCAN_USB_STAGE_ONE_STARTED then some (.opened, d)
    else some (d.first_command, d.clear_time_ref)
  | .undo_stage err => some (.undo_open_count err, d.set_stage (d.stage - 1))
  | .undo_open_count err => some (.finished err, d.set_open_count (d.open_count - 1))
  | phase => start_commands sent id d phase

def pcan_chardev_release (sent : Int) (d : Device) : Phase → Option (Phase × Device)
  | .dec_open_count => some (.dec_stage, d.set_open_count (d.open_count - 1))
  | .dec_stage =>
    let d := d.set_stage (d.stage - 1)
    some (if d.stage < PCAN_USB_STAGE_ONE_STARTED then .set_bus_off else .finished 0, d)
  -- a failure to switch off is not reported
  | phase => usbdrv_reset_bus_off sent (fun _ => 0) d phase

def start_can_interface (sent : Int) (d : Device) : Phase → Option (Phase × Device)
  | .inc_stage =>
    let d := d.set_stage (d.stage + 1)
    if d.stage > PCAN_USB_STAGE_ONE_STARTED then some (.opened, d.set_can_state .ERROR_ACTIVE)
    else some (d.first_command, d.clear_time_ref)
  | .undo_stage err =>
    let d := d.set_stage (d.stage - 1)
    some (.close_candev err, if -ENODEV = err then { d with netif_device_present := false } else d)
  | phase => start_commands sent (Device.set_can_state · .ERROR_ACTIVE) d phase

/-- `sent` is the result of `open_candev` in its phase. -/
def pcan_net_open (sent : Int) (d : Device) : Phase → Option (Phase × Device)
  | .open_candev =>
    if sent ≠ 0 then some (.finished sent, d.set_netif_running false) else some (.inc_stage, d)
  | .close_candev err => some (.finished err, d.set_netif_running false)
  | phase => start_can_interface sent d phase

def pcan_net_stop (sent : Int) (d : Device) : Phase → Option (Phase × Device)
  | .dec_stage =>
    let d := d.set_stage (d.stage - 1)
    some (if d.stage < PCAN_USB_STAGE_ONE_STARTED then .set_bus_off else .finished 0,
      d.set_can_state .STOPPED)
  | phase => usbdrv_reset_bus_off sent id d phase

/-- One atomic operation or command of a process. -/
def Device.operate (d : Device) (iface : Iface) (sent : Int) (phase : Phase) :
    Option (Phase × Device) :=
  match iface with
  | .chardev => pcan_chardev_open sent d phase <|> pcan_chardev_release sent d phase
  | .netdev => pcan_net_open sent d phase <|> pcan_net_stop sent d phase

/-! ## Completions -/

structure Urb where
  status : Int
  transfer_buffer : ℕ → u8
  actual_length : ℕ

/-- Anchor and submit again; `submit_err` is what `usb_submit_urb` returns. -/
def Device.resubmit_urb (d : Device) (submit_err : Int) : Device :=
  if submit_err = 0 then { d with rx_urbs := d.rx_urbs + 1 }
  else if -ENODEV = submit_err then { d with netif_device_present := false }
  else d

/-- The completion handler, entered with the URB given back to the driver. It reads
`stage` once. -/
def usb_read_bulk_callback (env : Env) (urb : Urb) (submit_err : Int) (d : Device) : Device :=
  -- returning here, the handler does not submit the URB again
  if d.stage < PCAN_USB_STAGE_ONE_STARTED then d
  else if urb.status = 0 then
    let d :=
      if urb.actual_length > 0 then
        { d with
          rx := (pcan_decode_and_handle_urb env urb.transfer_buffer urb.actual_length d.rx).2 }
      else d
    d.resubmit_urb submit_err
  -- nor here
  else if urb.status ∈ [-EILSEQ, -ENOENT, -ECONNRESET, -ESHUTDOWN] then d
  else d.resubmit_urb submit_err

/-- What a completion leaves alone, and what it does to the receiver. -/
structure ReadCompleted (d d' : Device) : Prop where
  procs_eq : d'.procs = d.procs
  bus_eq : d'.bus_on = d.bus_on
  rx : ∀ {R : RxState → RxState → Prop}, PacketFrame R → R d.rx d'.rx

/-- Resubmitting or not, a completion does no more than a completion does. -/
theorem ReadCompleted.resubmit {d d' : Device} (h : ReadCompleted d d') (submit_err : Int) :
    ReadCompleted d (d'.resubmit_urb submit_err) := by
  unfold Device.resubmit_urb
  split
  · exact ⟨h.procs_eq, h.bus_eq, h.rx⟩
  split
  · exact ⟨h.procs_eq, h.bus_eq, h.rx⟩
  · exact h

/-- A completion changes the receiver, and its URB. -/
theorem usb_read_bulk_callback_completed (env : Env) (urb : Urb) (submit_err : Int) (d : Device) :
    ReadCompleted d (usb_read_bulk_callback env urb submit_err d) := by
  have hsame : ReadCompleted d d := ⟨rfl, rfl, fun h => h.refl _⟩
  unfold usb_read_bulk_callback
  split
  · exact hsame
  split
  · apply ReadCompleted.resubmit
    split
    · exact ⟨rfl, rfl, fun h => h.handle_urb env urb.transfer_buffer urb.actual_length d.rx⟩
    · exact hsame
  split
  · exact hsame
  · exact hsame.resubmit submit_err

/-! ## The machine -/

inductive DeviceAction
  | open_ (iface : Iface)
  | close (i : ℕ)
  | advance (i : ℕ) (sent : Int)
  | complete (env : Env) (urb : Urb) (submit_err : Int)

/-- No operation of the network interface under way, and the interface closed. -/
def Device.net_closed (d : Device) : Prop :=
  ∀ proc ∈ d.procs, proc.iface = .netdev → ∃ ret, proc.phase = .finished ret

instance (phase : Phase) : Decidable (∃ ret, phase = .finished ret) :=
  match phase with
  | .finished ret => .isTrue ⟨ret, rfl⟩
  | .inc_open_count | .undo_too_many | .open_candev | .inc_stage | .set_silent | .set_ext_vcc
  | .set_bus_on | .undo_stage _ | .undo_open_count _ | .close_candev _ | .opened
  | .dec_open_count | .dec_stage | .set_bus_off | .init_sja1000 => .isFalse (by simp)

instance (d : Device) : Decidable d.net_closed :=
  inferInstanceAs (Decidable (∀ proc ∈ d.procs, _ → _))

def Device.enter (d : Device) (iface : Iface) (phase : Phase) : Device :=
  { d with procs := d.procs ++ [⟨iface, phase⟩] }

def Device.set_phase (d : Device) (i : ℕ) (iface : Iface) (phase : Phase) : Device :=
  { d with procs := d.procs.set i ⟨iface, phase⟩ }

def Device.step (d : Device) : DeviceAction → Option Device
  | .open_ .chardev => some (d.enter .chardev .inc_open_count)
  | .open_ .netdev =>
    if d.net_closed ∧ d.netif_device_present then
      some ((d.set_netif_running true).enter .netdev .open_candev)
    else none
  | .close i =>
    match d.procs[i]? with
    | some ⟨.chardev, .opened⟩ => some (d.set_phase i .chardev .dec_open_count)
    | some ⟨.netdev, .opened⟩ =>
      some ((d.set_netif_running false).set_phase i .netdev .dec_stage)
    | _ => none
  | .advance i sent =>
    match d.procs[i]? with
    | some ⟨iface, phase⟩ =>
      match d.operate iface sent phase with
      | some (phase, d) => some (d.set_phase i iface phase)
      | none => none
    | none => none
  | .complete env urb submit_err =>
    -- only a URB the endpoint has can complete, and it no longer has it then
    if 0 < d.rx_urbs then
      some (usb_read_bulk_callback env urb submit_err { d with rx_urbs := d.rx_urbs - 1 })
    else none

/-- What a step that is possible does. -/
inductive StepCase (d : Device) : DeviceAction → Device → Prop
  | open_chardev : StepCase d (.open_ .chardev) (d.enter .chardev .inc_open_count)
  | open_netdev (hclosed : d.net_closed) (hpresent : d.netif_device_present = true) :
    StepCase d (.open_ .netdev) ((d.set_netif_running true).enter .netdev .open_candev)
  | close_chardev (i : ℕ) (hproc : d.procs[i]? = some ⟨.chardev, .opened⟩) :
    StepCase d (.close i) (d.set_phase i .chardev .dec_open_count)
  | close_netdev (i : ℕ) (hproc : d.procs[i]? = some ⟨.netdev, .opened⟩) :
    StepCase d (.close i) ((d.set_netif_running false).set_phase i .netdev .dec_stage)
  | advance (i : ℕ) (sent : Int) (iface : Iface) (phase phase' : Phase) (d₁ : Device)
      (hproc : d.procs[i]? = some ⟨iface, phase⟩)
      (hop : d.operate iface sent phase = some (phase', d₁)) :
    StepCase d (.advance i sent) (d₁.set_phase i iface phase')
  | complete (env : Env) (urb : Urb) (submit_err : Int) (hsubmitted : 0 < d.rx_urbs) :
    StepCase d (.complete env urb submit_err)
      (usb_read_bulk_callback env urb submit_err { d with rx_urbs := d.rx_urbs - 1 })

/-- Every action of the device: a step of an operation, a new one, or a completion. -/
theorem step_cases {d d' : Device} {action : DeviceAction} (h : d.step action = some d') :
    StepCase d action d' := by
  cases action with
  | open_ iface =>
    cases iface with
    | chardev =>
      cases h
      exact .open_chardev
    | netdev =>
      rw [Device.step] at h
      obtain ⟨⟨hclosed, hpresent⟩, heq⟩ := Option.ite_none_right_eq_some.mp h
      cases heq
      exact .open_netdev hclosed hpresent
  | close i =>
    rw [Device.step] at h
    split at h
    · rename_i hproc
      cases h
      exact .close_chardev i hproc
    · rename_i hproc
      cases h
      exact .close_netdev i hproc
    · cases h
  | advance i sent =>
    rw [Device.step] at h
    split at h
    · rename_i iface phase hproc
      split at h
      · rename_i phase' d₁ hop
        cases h
        exact .advance i sent iface phase phase' d₁ hproc hop
      · cases h
    · cases h
  | complete env urb submit_err =>
    rw [Device.step] at h
    obtain ⟨hsubmitted, heq⟩ := Option.ite_none_right_eq_some.mp h
    cases heq
    exact .complete env urb submit_err hsubmitted

end DualPcanUsb
