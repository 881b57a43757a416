/-
Plugging, unplugging and the files that stay open.

Whole operations run one after the other: plugging a device in and out, opening,
using and releasing its character device, starting and stopping its network
interface, and the delayed work that frees its `usb_forwarder_t`. Open and close are
the operations of `Interfaces`, run to their end.

A forwarder is reached from a file in two ways: the pointer `pcan_chardev_open` left
in `file->private_data`, or a look-up by minor number in the character device group.
The group is another project's code and a parameter here; what the driver relies on
is `ChrdevGroup.Lawful`. Pointers to forwarders are numbers that are never reused.

Mapped user memory (`map_umem`), texts and the copies to user space are left out.
-/
import DualPcanUsb.Operations
import DualPcanUsb.RxRing

set_option autoImplicit false

namespace DualPcanUsb

def ERESTARTSYS : Int := 512

def POLLIN : u32 := 0x0001
def POLLOUT : u32 := 0x0004
def POLLERR : u32 := 0x0008
def POLLRDNORM : u32 := 0x0040
def POLLWRNORM : u32 := 0x0100

/-! ## The state -/

/-- The character device group, with states `G`: the forwarder registered under a
minor number, a new item, and an item's removal. -/
structure ChrdevGroup (G : Type) where
  find_item_privdata : G → ℕ → Option ℕ
  make_item : G → ℕ → Option (ℕ × G)
  unmake_item : G → ℕ → G

/-- A new item is found under its minor number, a removed one is not found any more,
and neither changes what is found under another. -/
structure ChrdevGroup.Lawful {G : Type} (grp : ChrdevGroup G) : Prop where
  find_make : ∀ {g g' : G} {f minor : ℕ}, grp.make_item g f = some (minor, g') →
    grp.find_item_privdata g' minor = some f
  find_make_of_ne : ∀ {g g' : G} {f minor m : ℕ}, grp.make_item g f = some (minor, g') →
    m ≠ minor → grp.find_item_privdata g' m = grp.find_item_privdata g m
  find_unmake : ∀ (g : G) (minor : ℕ),
    grp.find_item_privdata (grp.unmake_item g minor) minor = none
  find_unmake_of_ne : ∀ (g : G) {minor m : ℕ}, m ≠ minor →
    grp.find_item_privdata (grp.unmake_item g minor) m = grp.find_item_privdata g m

/-- Where a forwarder is in its life: its memory is allocated until `free_candev`; its
interfaces are registered from `pcan_usb_plugin` to `pcan_usb_plugout`, which
schedules the destroy work. -/
structure Life where
  minor : ℕ
  allocated : Bool
  registered : Bool
  destroy_work : Bool
deriving DecidableEq, Repr

/-- `usb_forwarder_t` with its device. -/
structure UsbForwarder where
  dev : Device
  pending_ops : Int
  life : Life

structure File where
  minor : ℕ
  private_data : Option ℕ
  is_open : Bool
deriving DecidableEq, Repr

/-- The driver with all its devices. `faults` lists the pointers file operations have
dereferenced after they were freed. -/
structure DriverState (G : Type) where
  group : G
  next_forwarder : ℕ
  forwarders : ℕ → UsbForwarder
  files : List File
  faults : List ℕ

section

variable {G : Type}

def DriverState.life (s : DriverState G) (f : ℕ) : Life := (s.forwarders f).life

def DriverState.dev (s : DriverState G) (f : ℕ) : Device := (s.forwarders f).dev

def DriverState.set_dev (s : DriverState G) (f : ℕ) (dev : Device) : DriverState G :=
  { s with forwarders := Function.update s.forwarders f { s.forwarders f with dev := dev } }

def DriverState.set_life (s : DriverState G) (f : ℕ) (life : Life) : DriverState G :=
  { s with forwarders := Function.update s.forwarders f { s.forwarders f with life := life } }

/-- `atomic_inc` and `atomic_dec` of `pending_ops`. -/
def DriverState.add_pending_ops (s : DriverState G) (f : ℕ) (n : Int) : DriverState G :=
  { s with
    forwarders := Function.update s.forwarders f
      { s.forwarders f with pending_ops := (s.forwarders f).pending_ops + n } }

def DriverState.set_file (s : DriverState G) (i : ℕ) (file : File) : DriverState G :=
  { s with files := s.files.set i file }

/-- The first access of a file operation to the forwarder. What freed memory holds is
arbitrary; the machine goes on with the last values there. -/
def DriverState.deref (s : DriverState G) (f : ℕ) : DriverState G :=
  if (s.life f).allocated then s else { s with faults := s.faults ++ [f] }

/-! ## File operations -/

variable (grp : ChrdevGroup G)

def get_usb_forwarder_from_file (s : DriverState G) (file : File) : Option ℕ :=
  match file.private_data with
  | some f => some f
  | none => grp.find_item_privdata s.group file.minor

/-- `CHRDEV_OP_PRECHECK` on the file `i`: whether the operation goes on. -/
def chrdev_op_precheck (f i : ℕ) (file : File) (s : DriverState G) : Bool × DriverState G :=
  let s := s.deref f
  if (s.dev f).stage < PCAN_USB_STAGE_ONE_STARTED then
    -- the only place where a cached pointer is given up
    (false, s.set_file i { file with private_data := none })
  else (true, s)

/-- A failed open leaves no file behind, whatever it stored in `private_data`. -/
def pcan_chardev_open_file (minor : ℕ) (sent : ℕ → Int) (s : DriverState G) :
    Int × DriverState G :=
  match grp.find_item_privdata s.group minor with
  | none => (-ENODEV, s)
  | some f =>
    let s := s.deref f
    let (phase, dev) := perform .chardev sent operation_fuel .inc_open_count (s.dev f)
    let s := s.set_dev f dev
    if phase = .opened then (0, { s with files := s.files ++ [⟨minor, some f, true⟩] })
    else (phase.ret, s)

def pcan_chardev_release_file (i : ℕ) (file : File) (sent : ℕ → Int) (s : DriverState G) :
    DriverState G :=
  match grp.find_item_privdata s.group file.minor with
  | none => s.set_file i { file with is_open := false }
  | some f =>
    -- found by the look-up, not by `private_data`
    let s := s.deref f
    let dev := (perform .chardev sent operation_fuel .dec_open_count (s.dev f)).2
    (s.set_dev f dev).set_file i { file with private_data := none, is_open := false }

/-- No chardev transmission exists, so the write side is always ready. -/
def pcan_chardev_poll (i : ℕ) (file : File) (s : DriverState G) : u32 × DriverState G :=
  match get_usb_forwarder_from_file grp s file with
  | none => (POLLERR, s)
  | some f =>
    let (goes_on, s) := chrdev_op_precheck f i file s
    if ¬ goes_on then (POLLERR, s)
    else
      let mask := if (s.dev f).rx.fwd.char_dev.rx_unread_cnt > 0 then POLLIN ||| POLLRDNORM else 0
      (mask ||| (POLLOUT ||| POLLWRNORM), s)

/-- How a wait for messages goes: `O_NONBLOCK`, or what `wait_event_interruptible`
returns and whether a signal is pending behind it. -/
inductive Wait
  | nonblock
  | block (err : Int) (signal_pending : Bool)
deriving DecidableEq, Repr

/-- The wait of the three readers. -/
def wait_for_msgs (wait : Wait) (d : Device) : Int :=
  match wait with
  | .nonblock => if d.rx.fwd.char_dev.rx_unread_cnt ≤ 0 then -EAGAIN else 0
  | .block err signal_pending =>
    if err ≠ 0 then err
    else if d.stage < PCAN_USB_STAGE_ONE_STARTED then -ENODEV
    else if d.rx.fwd.char_dev.rx_unread_cnt ≤ 0 then
      if signal_pending then -ERESTARTSYS else -EAGAIN
    else 0

/-- A wait and the locked section behind it. -/
def Device.receive (wait : Wait)
    (section_ : Chardev → Except Int (List ChardevMsg) × Chardev) (d : Device) :
    Except Int (List ChardevMsg) × Device :=
  let err := wait_for_msgs wait d
  if err ≠ 0 then (.error err, d)
  else
    let (result, dev) := section_ d.rx.fwd.char_dev
    (result, d.set_fwd { d.rx.fwd with char_dev := dev })

/-- An operation counted in `pending_ops`. -/
def DriverState.pending (f : ℕ) (s : DriverState G)
    (op : Device → Except Int (List ChardevMsg) × Device) :
    Except Int (List ChardevMsg) × DriverState G :=
  let s := s.add_pending_ops f 1
  let (result, dev) := op (s.dev f)
  (result, (s.set_dev f dev).add_pending_ops f (-1))

/-- The length is checked before the forwarder is touched. -/
def pcan_chardev_read (i : ℕ) (file : File) (count : ℕ) (wait : Wait) (s : DriverState G) :
    Except Int (List ChardevMsg) × DriverState G :=
  match get_usb_forwarder_from_file grp s file with
  | none => (.error (-ENODEV), s)
  | some f =>
    -- too short a read leaves the cached pointer alone
    if ¬ (count : Int) > PCAN_CHRDEV_MAX_BYTES_PER_READ then (.error (-EINVAL), s)
    else
      let (goes_on, s) := chrdev_op_precheck f i file s
      if ¬ goes_on then (.error (-ENODEV), s)
      else s.pending f (Device.receive wait (pcan_chardev_read_section count))

/-- The requests that take messages, and the others with what they return. -/
inductive Ioctl
  | read_msg
  | fd_recv_msgs (count : u32)
  | other (ret : Int)
deriving DecidableEq, Repr

/-- The handler of a request. -/
def ioctl_handler (wait : Wait) (cmd : Ioctl) (d : Device) :
    Except Int (List ChardevMsg) × Device :=
  match cmd with
  | .read_msg => d.receive wait ioctl_read_msg_section
  | .fd_recv_msgs count =>
    if wait_for_msgs wait d = 0 ∧ count = 0 then (.error (-EINVAL), d)
    else d.receive wait (ioctl_fd_recv_msgs_section count)
  | .other ret => (if ret = 0 then .ok [] else .error ret, d)

def pcan_chardev_ioctl (i : ℕ) (file : File) (cmd : Ioctl) (wait : Wait) (s : DriverState G) :
    Except Int (List ChardevMsg) × DriverState G :=
  match get_usb_forwarder_from_file grp s file with
  | none => (.error (-ENODEV), s)
  | some f =>
    let (goes_on, s) := chrdev_op_precheck f i file s
    if ¬ goes_on then (.error (-ENODEV), s)
    else s.pending f (ioctl_handler wait cmd)

/-! ## Plugging and unplugging -/

/-- A device as `pcan_usb_plugin` leaves it. -/
def Device.plugged (dev_revision : ℕ) : Device where
  rx := { RxState.idle false with fwd := { Forwarder.idle false with can_state := .STOPPED } }
  dev_revision := dev_revision
  netif_device_present := true
  bus_on := false
  rx_urbs := PCAN_USB_MAX_RX_URBS
  procs := []

/-- `early` and `late` are the first errors before and behind `CHRDEV_GRP_MAKE_ITEM`;
a failure undoes everything. With `net_up` the network interface is started next,
which is an operation of its own. -/
def pcan_usb_plugin (dev_revision : ℕ) (early late : Int) (s : DriverState G) : DriverState G :=
  if early ≠ 0 then s
  else
    match grp.make_item s.group s.next_forwarder with
    | none => s
    | some (minor, group) =>
      -- the item is in the group by now, and taken out again
      if late ≠ 0 then { s with group := grp.unmake_item group minor }
      else
        { s with
          group := group
          next_forwarder := s.next_forwarder + 1
          forwarders := Function.update s.forwarders s.next_forwarder
            ⟨Device.plugged dev_revision, 0, ⟨minor, true, true, false⟩⟩ }

/-- `unregister_candev` stops a running network interface. -/
def unregister_candev (sent : ℕ → Int) (d : Device) : Device :=
  if d.rx.fwd.netif_running then
    (perform .netdev sent operation_fuel .dec_stage (d.set_netif_running false)).2
  else d

def pcan_usb_plugout (f : ℕ) (sent : ℕ → Int) (s : DriverState G) : DriverState G :=
  -- files are neither closed nor told
  let dev := unregister_candev sent ((s.dev f).set_stage PCAN_USB_STAGE_DISCONNECTED)
  let life := s.life f
  ({ s with group := grp.unmake_item s.group life.minor }.set_dev f
    { dev with rx_urbs := 0 }).set_life f { life with registered := false, destroy_work := true }

/-- One run of the delayed work, which schedules itself again while operations are
pending. -/
def destroy_usb_forwarder (f : ℕ) (s : DriverState G) : DriverState G :=
  if (s.forwarders f).pending_ops > 0 then
    s.set_dev f ((s.dev f).set_stage PCAN_USB_STAGE_DISCONNECTED)
  else s.set_life f { s.life f with allocated := false, destroy_work := false }

/-! ## The machine -/

inductive Op
  | plugin (dev_revision : ℕ) (early late : Int)
  | open_ (minor : ℕ) (sent : ℕ → Int)
  | read (i : ℕ) (count : ℕ) (wait : Wait)
  | poll (i : ℕ)
  | ioctl (i : ℕ) (cmd : Ioctl) (wait : Wait)
  | release (i : ℕ) (sent : ℕ → Int)
  | net_open (f : ℕ) (sent : ℕ → Int)
  | net_stop (f : ℕ) (sent : ℕ → Int)
  | plugout (f : ℕ) (sent : ℕ → Int)
  | destroy (f : ℕ)

/-- The file `i`, if it is open. -/
def DriverState.open_file (s : DriverState G) (i : ℕ) : Option File :=
  s.files[i]?.filter File.is_open

/-- One whole operation. Files are used and released while they are open, network
interfaces while they are registered, and a device is unplugged once. -/
def DriverState.step (s : DriverState G) : Op → Option (DriverState G)
  | .plugin dev_revision early late => some (pcan_usb_plugin grp dev_revision early late s)
  | .open_ minor sent => some (pcan_chardev_open_file grp minor sent s).2
  | .read i count wait =>
    (s.open_file i).map fun file => (pcan_chardev_read grp i file count wait s).2
  | .poll i => (s.open_file i).map fun file => (pcan_chardev_poll grp i file s).2
  | .ioctl i cmd wait =>
    (s.open_file i).map fun file => (pcan_chardev_ioctl grp i file cmd wait s).2
  | .release i sent => (s.open_file i).map fun file => pcan_chardev_release_file grp i file sent s
  | .net_open f sent =>
    if (s.life f).registered ∧ ¬ (s.dev f).rx.fwd.netif_running
        ∧ (s.dev f).netif_device_present then
      some (s.set_dev f (perform .netdev sent operation_fuel .open_candev
        ((s.dev f).set_netif_running true)).2)
    else none
  | .net_stop f sent =>
    if (s.life f).registered ∧ (s.dev f).rx.fwd.netif_running then
      some (s.set_dev f (perform .netdev sent operation_fuel .dec_stage
        ((s.dev f).set_netif_running false)).2)
    else none
  | .plugout f sent => if (s.life f).registered then some (pcan_usb_plugout grp f sent s) else none
  | .destroy f => if (s.life f).destroy_work then some (destroy_usb_forwarder f s) else none

end

end DualPcanUsb
