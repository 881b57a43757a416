/-
The C types and constants the driver's sources share.

Fixed-width words are `BitVec`s under the kernel's own names, so masks, shifts
and wrap-around are the machine's. Error codes stay the negative integers the C
functions return (`0` is success), and a `ktime_t` is an integer number of
nanoseconds with the wrap of its 64-bit carrier written out in the operations.

The structures keep the fields that some modelled function reads or writes;
what only appears in log lines (device names, URB addresses) is left out.
-/
import Mathlib

set_option autoImplicit false

namespace DualPcanUsb

/-! ## Machine words -/

abbrev u8 := BitVec 8
abbrev u16 := BitVec 16
abbrev u32 := BitVec 32
abbrev u64 := BitVec 64

/-- `unsigned long`, on a 64-bit machine. -/
abbrev ulong := BitVec 64

/-- Nanoseconds, in the kernel's signed 64-bit carrier. -/
abbrev ktime_t := Int

/-- The value an `s64` register holds for the exact integer `x`. -/
def s64 (x : Int) : Int := x.bmod (2 ^ 64)

/-! ## Error codes -/

def ENOENT : Int := 2
def EAGAIN : Int := 11
def ENOMEM : Int := 12
def ENODEV : Int := 19
def EINVAL : Int := 22
def EMFILE : Int := 24
def EILSEQ : Int := 84
def ECONNRESET : Int := 104
def ENOBUFS : Int := 105
def ENOTCONN : Int := 107
def ESHUTDOWN : Int := 108

/-! ## CAN frames -/

def CAN_EFF_FLAG : u32 := 0x80000000
def CAN_RTR_FLAG : u32 := 0x40000000
def CAN_ERR_FLAG : u32 := 0x20000000
def CAN_EFF_MASK : u32 := 0x1FFFFFFF
def CAN_ERR_MASK : u32 := 0x1FFFFFFF
def CAN_MAX_DLC : u8 := 8
/-- Length of an error message frame: all eight data bytes are used. -/
def CAN_ERR_DLC : u8 := 8

def CAN_ERR_CRTL : u32 := 0x00000004
def CAN_ERR_BUSOFF : u32 := 0x00000040
def CAN_ERR_CRTL_RX_OVERFLOW : u8 := 0x01
def CAN_ERR_CRTL_RX_WARNING : u8 := 0x04
def CAN_ERR_CRTL_TX_WARNING : u8 := 0x08
def CAN_ERR_CRTL_RX_PASSIVE : u8 := 0x10
def CAN_ERR_CRTL_TX_PASSIVE : u8 := 0x20

/-- The frame of `linux/can.h`. -/
structure CanFrame where
  can_id : u32
  can_dlc : u8
  data : Vector u8 8
deriving DecidableEq, Repr

/-- A frame with all fields zero, as `memset` leaves it. -/
def CanFrame.zero : CanFrame := ⟨0, 0, Vector.replicate 8 0⟩

/-- The error state machine's states, `enum can_state`. -/
inductive CanState
  | ERROR_ACTIVE | ERROR_WARNING | ERROR_PASSIVE | BUS_OFF | STOPPED | SLEEPING | MAX
deriving DecidableEq, Repr

/-! ## Driver structures -/

/-- The device clock's anchor to the host clock, `pcan_time_ref_t`. -/
structure TimeRef where
  tv_host_0 : ktime_t
  tv_host : ktime_t
  ts_dev_1 : u32
  ts_dev_2 : u32
  ts_total : u64
  tick_count : u32
deriving DecidableEq, Repr

/-- The reference after the `memset` both open functions do. -/
def TimeRef.zero : TimeRef := ⟨0, 0, 0, 0, 0, 0⟩

def PCAN_CHRDEV_MAX_BYTES_PER_READ : Int := 80
def PCAN_CHRDEV_MAX_RX_BUF_COUNT : Int := 8

/-- One slot of the character device's ring, `pcan_chardev_msg_t`. -/
structure ChardevMsg where
  hwtstamp : ktime_t
  frame : CanFrame
deriving DecidableEq, Repr

/-- The character device, `pcan_chardev_t`. The ring is addressed like the C
array, by an integer: that the indices stay in `0..7` is a theorem and not part
of the type. `rx_packets` is counted without its wrap at 64 bits, which what
reads it takes on. -/
structure Chardev where
  rx_msgs : Int → ChardevMsg
  rx_write_idx : Int
  rx_unread_cnt : Int
  rx_packets : Nat
  open_count : Int

/-- The counters of `struct can_device_stats` the decoder touches. -/
structure CanStats where
  bus_off : u32
  error_passive : u32
  error_warning : u32
deriving DecidableEq, Repr

/-- The counters of `struct net_device_stats` the decoder touches. -/
structure NetStats where
  rx_packets : ulong
  rx_bytes : ulong
  rx_errors : ulong
  rx_over_errors : ulong
deriving DecidableEq, Repr

def PCAN_USB_STAGE_DISCONNECTED : Int := 0
def PCAN_USB_STAGE_CONNECTED : Int := 1
def PCAN_USB_STAGE_ONE_STARTED : Int := 2

/-- The driver's private data, `usb_forwarder_t`, with the parts of its
`net_device` the decoder uses: whether the interface is running
(`netif_running`) and the receive statistics. -/
structure Forwarder where
  can_state : CanState
  can_stats : CanStats
  netif_running : Bool
  stats : NetStats
  char_dev : Chardev
  stage : Int
  time_ref : TimeRef

end DualPcanUsb
