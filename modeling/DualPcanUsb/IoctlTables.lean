/-
The requests of `pcan_chardev_ioctl`, from the command number to the handler.

A command number is compared with the labels of a `switch` and its low byte turned into an
index of one of two tables of handlers. The labels come from one header, the tables stand in
another file, and the new table has holes where no request is supported. The names of the
options a user can ask for stand in a third table: `pcanfd_option_name` checks a name
against the number of options in the header, which is one more than the table has entries.

What a handler does is modelled as far as it can be seen from here: the two readers and the
two option requests in full, the others by their results, with the contents of the
structures they fill in left open. Structures have the layout of a 64-bit machine.
-/
import DualPcanUsb.ReaderCalls
import DualPcanUsb.Recovery

set_option autoImplicit false

namespace DualPcanUsb

open LittleEndian StructBytes

/-! ## The layout of the structures -/

def EBADRQC : Int := 56

/-- Size and alignment of a C type. -/
structure CType where
  size : ℕ
  align : ℕ
deriving DecidableEq, Repr

def CType.u8 : CType := ⟨1, 1⟩
def CType.u16 : CType := ⟨2, 2⟩
def CType.u32 : CType := ⟨4, 4⟩
def CType.u64 : CType := ⟨8, 8⟩
def CType.int : CType := ⟨4, 4⟩
def CType.unsigned_long : CType := ⟨8, 8⟩
def CType.pointer : CType := ⟨8, 8⟩

def CType.array (t : CType) (n : ℕ) : CType := { t with size := n * t.size }

def round_up (offset align : ℕ) : ℕ := (offset + align - 1) / align * align

/-- Each member at the next offset that suits it, and room up to the next structure. -/
def CType.struct (members : List CType) : CType :=
  let align := (members.map CType.align).foldl max 1
  let size := members.foldl (fun offset t => round_up offset t.align + t.size) 0
  ⟨round_up size align, align⟩

def CType.union (members : List CType) : CType :=
  let align := (members.map CType.align).foldl max 1
  ⟨round_up ((members.map CType.size).foldl max 0) align, align⟩

def pcan_ioctl_init_t : CType := .struct [.u16, .u8, .u8]
def pcan_ioctl_wr_msg_t : CType := .struct [.u32, .u8, .u8, .array .u8 8]
def pcan_ioctl_rd_msg_t : CType := .struct [pcan_ioctl_wr_msg_t, .u32, .u16]
def pcan_ioctl_status_t : CType := .struct [.u16, .int]
def pcan_ioctl_diag_t : CType :=
  .struct [.u16, .u32, .u16, .u32, .u32, .u32, .u32, .u16, .int, .int, .array .u8 64]
def pcan_ioctl_btr0btr1_t : CType := .struct [.u32, .u16]
def pcan_ioctl_extra_status_t : CType := .struct [.u16, .int, .int, .int]
def pcan_ioctl_msg_filter_t : CType := .struct [.u32, .u32, .u8]
def pcan_ioctl_extra_params_t : CType := .struct [.int, .union [.u32, .u8, .array .u8 64]]

def pcan_bittiming_t : CType := .struct [.u32, .u32, .u32, .u32, .u32, .u32, .u32, .u32, .u32]
def pcanfd_ioctl_init_t : CType := .struct [.u32, .u32, pcan_bittiming_t, pcan_bittiming_t]

/-- `struct timeval`: two longs. -/
def timeval : CType := .struct [.unsigned_long, .unsigned_long]

def pcanfd_ioctl_state_t : CType :=
  .struct [.u16, .u16, .u16, timeval, .int, .u32, .u32, .u32, .u16, .u16, .u16, .u16,
    .u32, .u32, .u32, .u32, .u32, .u32, .u32, .u32, .u64, .u64]

/-- The payload is aligned to eight bytes. -/
def pcanfd_ioctl_msg_t : CType :=
  .struct [.u16, .u16, .u32, .u32, timeval, .array .u8 4, ⟨64, 8⟩]
def pcanfd_ioctl_msgs_t : CType := .struct [.u32, .array pcanfd_ioctl_msg_t 0]
def pcanfd_ioctl_option_t : CType := .struct [.int, .int, .pointer]

/-- The layouts are those the readers copy. -/
theorem sizeof_eq :
    pcan_ioctl_rd_msg_t.size = sizeof_pcan_ioctl_rd_msg
      ∧ pcanfd_ioctl_msg_t.size = sizeof_pcanfd_ioctl_msg
      ∧ pcanfd_ioctl_msgs_t.size = sizeof_pcanfd_ioctl_msgs := by
  decide

/-! ## Command numbers -/

/-- The number, the type, the size and the direction, from the lowest bits up. -/
def _IOC (dir type_ nr size : u32) : u32 := dir <<< 30 ||| type_ <<< 8 ||| nr ||| size <<< 16

def _IOW (type_ nr : u32) (t : CType) : u32 := _IOC 1 type_ nr (BitVec.ofNat 32 t.size)
def _IOR (type_ nr : u32) (t : CType) : u32 := _IOC 2 type_ nr (BitVec.ofNat 32 t.size)
def _IOWR (type_ nr : u32) (t : CType) : u32 := _IOC 3 type_ nr (BitVec.ofNat 32 t.size)

def _IOC_NR (cmd : u32) : u32 := cmd &&& 0xff

/-- `'z'` -/
def PCAN_MAGIC_NUMBER : u32 := 0x7a

def PCAN_IOCTL_SEQ_START : u32 := 0x80

def PCAN_IOCTL_INIT : u32 := _IOWR PCAN_MAGIC_NUMBER PCAN_IOCTL_SEQ_START pcan_ioctl_init_t
def PCAN_IOCTL_WRITE_MSG : u32 :=
  _IOW PCAN_MAGIC_NUMBER (PCAN_IOCTL_SEQ_START + 1) pcan_ioctl_wr_msg_t
def PCAN_IOCTL_READ_MSG : u32 :=
  _IOR PCAN_MAGIC_NUMBER (PCAN_IOCTL_SEQ_START + 2) pcan_ioctl_rd_msg_t
def PCAN_IOCTL_GET_STATUS : u32 :=
  _IOR PCAN_MAGIC_NUMBER (PCAN_IOCTL_SEQ_START + 3) pcan_ioctl_status_t
def PCAN_IOCTL_GET_DIAGNOSIS : u32 :=
  _IOR PCAN_MAGIC_NUMBER (PCAN_IOCTL_SEQ_START + 4) pcan_ioctl_diag_t
def PCAN_IOCTL_BTR0BTR1 : u32 :=
  _IOWR PCAN_MAGIC_NUMBER (PCAN_IOCTL_SEQ_START + 5) pcan_ioctl_btr0btr1_t
def PCAN_IOCTL_GET_EXT_STATUS : u32 :=
  _IOR PCAN_MAGIC_NUMBER (PCAN_IOCTL_SEQ_START + 6) pcan_ioctl_extra_status_t
def PCAN_IOCTL_SET_FILTER : u32 :=
  _IOW PCAN_MAGIC_NUMBER (PCAN_IOCTL_SEQ_START + 7) pcan_ioctl_msg_filter_t
def PCAN_IOCTL_EXT_PARAMS : u32 :=
  _IOWR PCAN_MAGIC_NUMBER (PCAN_IOCTL_SEQ_START + 8) pcan_ioctl_extra_params_t

def PCANFD_IOCTL_SEQ_START : u32 := 0x90

/-- The enumeration of `PCANFD_SEQ_*`, in its order. -/
inductive PcanfdSeq
  | SET_INIT | GET_INIT | GET_STATE | ADD_FILTERS | GET_FILTERS | SEND_MSG | RECV_MSG
  | SEND_MSGS | RECV_MSGS | GET_AVAILABLE_CLOCKS | GET_BITTIMING_RANGES | GET_OPTION
  | SET_OPTION | RESET

def PcanfdSeq.number (seq : PcanfdSeq) : u32 :=
  PCANFD_IOCTL_SEQ_START + BitVec.ofNat 32 seq.ctorIdx

def PCANFD_IOCTL_SET_INIT : u32 :=
  _IOW PCAN_MAGIC_NUMBER PcanfdSeq.SET_INIT.number pcanfd_ioctl_init_t
def PCANFD_IOCTL_GET_INIT : u32 :=
  _IOR PCAN_MAGIC_NUMBER PcanfdSeq.GET_INIT.number pcanfd_ioctl_init_t
def PCANFD_IOCTL_GET_STATE : u32 :=
  _IOR PCAN_MAGIC_NUMBER PcanfdSeq.GET_STATE.number pcanfd_ioctl_state_t
def PCANFD_IOCTL_SEND_MSG : u32 :=
  _IOW PCAN_MAGIC_NUMBER PcanfdSeq.SEND_MSG.number pcanfd_ioctl_msg_t
def PCANFD_IOCTL_RECV_MSG : u32 :=
  _IOR PCAN_MAGIC_NUMBER PcanfdSeq.RECV_MSG.number pcanfd_ioctl_msg_t
def PCANFD_IOCTL_SEND_MSGS : u32 :=
  _IOWR PCAN_MAGIC_NUMBER PcanfdSeq.SEND_MSGS.number pcanfd_ioctl_msgs_t
def PCANFD_IOCTL_RECV_MSGS : u32 :=
  _IOWR PCAN_MAGIC_NUMBER PcanfdSeq.RECV_MSGS.number pcanfd_ioctl_msgs_t
def PCANFD_IOCTL_GET_OPTION : u32 :=
  _IOWR PCAN_MAGIC_NUMBER PcanfdSeq.GET_OPTION.number pcanfd_ioctl_option_t
def PCANFD_IOCTL_SET_OPTION : u32 :=
  _IOW PCAN_MAGIC_NUMBER PcanfdSeq.SET_OPTION.number pcanfd_ioctl_option_t
def PCANFD_IOCTL_RESET : u32 :=
  _IOW PCAN_MAGIC_NUMBER PcanfdSeq.RESET.number .unsigned_long

/-- The labels of the `switch` that lead to the old handlers. -/
def old_commands : List u32 :=
  [PCAN_IOCTL_INIT, PCAN_IOCTL_WRITE_MSG, PCAN_IOCTL_READ_MSG, PCAN_IOCTL_GET_STATUS,
    PCAN_IOCTL_GET_DIAGNOSIS, PCAN_IOCTL_BTR0BTR1, PCAN_IOCTL_GET_EXT_STATUS,
    PCAN_IOCTL_SET_FILTER, PCAN_IOCTL_EXT_PARAMS]

/-- The labels that lead to the new ones. -/
def new_commands : List u32 :=
  [PCANFD_IOCTL_SET_INIT, PCANFD_IOCTL_GET_INIT, PCANFD_IOCTL_GET_STATE, PCANFD_IOCTL_SEND_MSG,
    PCANFD_IOCTL_RECV_MSG, PCANFD_IOCTL_SEND_MSGS, PCANFD_IOCTL_RECV_MSGS,
    PCANFD_IOCTL_GET_OPTION, PCANFD_IOCTL_SET_OPTION, PCANFD_IOCTL_RESET]

/-! ## The options -/

/-- The enumeration of the options, in its order; `MAX` is how many there are. -/
inductive PcanfdOpt
  | CHANNEL_FEATURES | DEVICE_ID | AVAILABLE_CLOCKS | BITTIMING_RANGES | DBITTIMING_RANGES
  | ALLOWED_MSGS | ACC_FILTER_11B | ACC_FILTER_29B | IFRAME_DELAYUS | HWTIMESTAMP_MODE
  | DRV_VERSION | FW_VERSION | IO_DIGITAL_CFG | IO_DIGITAL_VAL | IO_DIGITAL_SET | IO_DIGITAL_CLR
  | IO_ANALOG_VAL | MASS_STORAGE_MODE | FLASH_LED | DRV_CLK_REF | LINGER | SELF_ACK | BRS_IGNORE
  -- internal use only
  | DEFERRED_FRM
  | MAX

def PcanfdOpt.value (opt : PcanfdOpt) : Int := opt.ctorIdx

def S_OPT_NAMES : List String :=
  ["PCANFD_OPT_CHANNEL_FEATURES", "PCANFD_OPT_DEVICE_ID", "PCANFD_OPT_AVAILABLE_CLOCKS",
    "PCANFD_OPT_BITTIMING_RANGES", "PCANFD_OPT_DBITTIMING_RANGES", "PCANFD_OPT_ALLOWED_MSGS",
    "PCANFD_OPT_ACC_FILTER_11B", "PCANFD_OPT_ACC_FILTER_29B", "PCANFD_OPT_IFRAME_DELAYUS",
    "PCANFD_OPT_HWTIMESTAMP_MODE", "PCANFD_OPT_DRV_VERSION", "PCANFD_OPT_FW_VERSION",
    "PCANFD_IO_DIGITAL_CFG", "PCANFD_IO_DIGITAL_VAL", "PCANFD_IO_DIGITAL_SET",
    "PCANFD_IO_DIGITAL_CLR", "PCANFD_IO_ANALOG_VAL", "PCANFD_OPT_MASS_STORAGE_MODE",
    "PCANFD_OPT_FLASH_LED", "PCANFD_OPT_DRV_CLK_REF", "PCANFD_OPT_LINGER", "PCANFD_OPT_SELF_ACK",
    "PCANFD_OPT_BRS_IGNORE"]

/-- Nothing where the array is read behind its end. -/
def pcanfd_option_name (index : Int) : Option String :=
  if index ≥ 0 ∧ index < PcanfdOpt.MAX.value then S_OPT_NAMES[index.toNat]?
  else some "UNKNOWN_OPTION"

def PCANFD_FEATURE_HWTIMESTAMP : u32 := 0x00000008
def PCANFD_FEATURE_DEVICEID : u32 := 0x00000010
def PCANFD_OPT_HWTIMESTAMP_RAW : u32 := 3

/-! ## The handlers -/

/-- The functions the tables point to. -/
inductive IoctlFunc
  | init | write_msg | read_msg | get_status | get_diagnostic_info | btr0btr1 | get_extra_status
  | set_filter | extra_params | fd_set_init | fd_get_init | fd_get_state | fd_send_msg
  | fd_recv_msg | fd_send_msgs | fd_recv_msgs | fd_get_option | fd_set_option | fd_reset
deriving DecidableEq, Repr

/-- How the services answer a request: as they answer a reader, and whether
`__copy_from_user` and `put_user` fail. `msg` is what the stack holds where an object of that
name comes to be, `report` the structure a handler fills in for the user. -/
structure IoctlServices extends Services where
  copy_from_user_fault : Bool
  put_user_fault : Bool
  msg : Bytes
  report : IoctlFunc → List u8

/-- What can be told of a call: the entries of the tables it looks at, the functions it
calls, and the text `pcanfd_option_name` gives for an option's name. -/
inductive IoctlEvent
  | entry (new : Bool) (index : ℕ)
  | called (func : IoctlFunc)
  | option_name (name : Int) (text : Option String)
deriving DecidableEq, Repr

section

variable (st : ReaderState) (services : IoctlServices) (env : ReadEnv) (arg : ℕ)

/-- "FIXME: Implement this request in future!" -/
def ReaderState.ioctl_to_implement : Int × ReaderState := (0, st)

/-- "Request not supported yet!" -/
def ReaderState.ioctl_not_supported : Int × ReaderState := (-EOPNOTSUPP, st)

/-- A structure for the user. -/
def ReaderState.ioctl_report (func : IoctlFunc) : Int × ReaderState :=
  let (left, st) := st.copy_to_user arg (services.report func) services.not_copied
  (if left ≠ 0 then -EFAULT else 0, st)

def ReaderState.ioctl_init : Int × ReaderState := st.ioctl_to_implement
def ReaderState.ioctl_write_msg : Int × ReaderState := st.ioctl_not_supported
def ReaderState.ioctl_get_status : Int × ReaderState := st.ioctl_to_implement
def ReaderState.ioctl_get_diagnostic_info : Int × ReaderState :=
  st.ioctl_report services arg .get_diagnostic_info
def ReaderState.ioctl_btr0btr1 : Int × ReaderState := st.ioctl_to_implement
def ReaderState.ioctl_get_extra_status : Int × ReaderState :=
  st.ioctl_report services arg .get_extra_status
def ReaderState.ioctl_set_filter : Int × ReaderState := st.ioctl_not_supported
def ReaderState.ioctl_extra_params : Int × ReaderState :=
  if services.copy_from_user_fault then (-EFAULT, st)
  else st.ioctl_report services arg .extra_params
/-- The flags it keeps are not modelled. -/
def ReaderState.ioctl_fd_set_init : Int × ReaderState :=
  if services.copy_from_user_fault then (-EFAULT, st) else (0, st)
def ReaderState.ioctl_fd_get_init : Int × ReaderState := st.ioctl_report services arg .fd_get_init
def ReaderState.ioctl_fd_get_state : Int × ReaderState :=
  st.ioctl_report services arg .fd_get_state
def ReaderState.ioctl_fd_send_msg : Int × ReaderState := st.ioctl_not_supported
def ReaderState.ioctl_fd_recv_msg : Int × ReaderState := st.ioctl_not_supported
def ReaderState.ioctl_fd_send_msgs : Int × ReaderState := st.ioctl_not_supported
def ReaderState.ioctl_fd_reset : Int × ReaderState := st.ioctl_to_implement

/-- `opt.name`, behind `opt.size`. -/
def ReaderState.opt_name : Int :=
  (le32 (st.user (arg + 4)) (st.user (arg + 5)) (st.user (arg + 6)) (st.user (arg + 7))).toInt

/-- `opt.value`, a user address. -/
def ReaderState.opt_value : ℕ :=
  (le32 (st.user (arg + 8)) (st.user (arg + 9)) (st.user (arg + 10)) (st.user (arg + 11))).toNat
    + 2 ^ 32 * (le32 (st.user (arg + 12)) (st.user (arg + 13)) (st.user (arg + 14))
        (st.user (arg + 15))).toNat

/-- The value of the two options that have one. -/
def option_u32_val (name : Int) : Option u32 :=
  if name = PcanfdOpt.CHANNEL_FEATURES.value then
    some (PCANFD_FEATURE_HWTIMESTAMP ||| PCANFD_FEATURE_DEVICEID)
  else if name = PcanfdOpt.HWTIMESTAMP_MODE.value then some PCANFD_OPT_HWTIMESTAMP_RAW
  else none

/-- Behind the log line of an option request, which prints the name's text: with a pointer
from behind the table, nothing is known of the call. -/
def log_option_name (name : Int) (rest : Int × ReaderState) :
    List IoctlEvent × Option (Int × ReaderState) :=
  let text := pcanfd_option_name name
  ([.option_name name text], text.map fun _ => rest)

def ReaderState.ioctl_fd_get_option : List IoctlEvent × Option (Int × ReaderState) :=
  if services.copy_from_user_fault then ([], some (-EFAULT, st))
  else
    log_option_name (st.opt_name arg) <|
      match option_u32_val (st.opt_name arg) with
      | some u32_val =>
        if services.put_user_fault then (-EFAULT, st)
        else (0, { st with user := (Store.mk (st.opt_value arg) (le_bytes 4 u32_val)).apply st.user })
      | none => (-EOPNOTSUPP, st)

def ReaderState.ioctl_fd_set_option : List IoctlEvent × Option (Int × ReaderState) :=
  if services.copy_from_user_fault then ([], some (-EFAULT, st))
  else log_option_name (st.opt_name arg) st.ioctl_to_implement

/-- The function a pointer of the tables stands for. -/
def ReaderState.ioctl_func : IoctlFunc → List IoctlEvent × Option (Int × ReaderState)
  | .init => ([], some st.ioctl_init)
  | .write_msg => ([], some st.ioctl_write_msg)
  | .read_msg => ([], some (st.ioctl_read_msg services.toServices arg services.msg))
  | .get_status => ([], some st.ioctl_get_status)
  | .get_diagnostic_info => ([], some (st.ioctl_get_diagnostic_info services arg))
  | .btr0btr1 => ([], some st.ioctl_btr0btr1)
  | .get_extra_status => ([], some (st.ioctl_get_extra_status services arg))
  | .set_filter => ([], some st.ioctl_set_filter)
  | .extra_params => ([], some (st.ioctl_extra_params services arg))
  | .fd_set_init => ([], some (st.ioctl_fd_set_init services))
  | .fd_get_init => ([], some (st.ioctl_fd_get_init services arg))
  | .fd_get_state => ([], some (st.ioctl_fd_get_state services arg))
  | .fd_send_msg => ([], some st.ioctl_fd_send_msg)
  | .fd_recv_msg => ([], some st.ioctl_fd_recv_msg)
  | .fd_send_msgs => ([], some st.ioctl_fd_send_msgs)
  | .fd_recv_msgs => ([], some (st.ioctl_fd_recv_msgs services.toServices env arg))
  | .fd_get_option => st.ioctl_fd_get_option services arg
  | .fd_set_option => st.ioctl_fd_set_option services arg
  | .fd_reset => ([], some st.ioctl_fd_reset)

end

/-- `ioctl_handler_t` -/
structure IoctlHandler where
  name : String
  func : Option IoctlFunc
deriving DecidableEq, Repr

def G_IOCTL_HANDLERS : List IoctlHandler :=
  [⟨"INIT", some .init⟩, ⟨"WRITE_MSG", some .write_msg⟩, ⟨"READ_MSG", some .read_msg⟩,
    ⟨"GET_STATUS", some .get_status⟩, ⟨"GET_DIAGNOSIS", some .get_diagnostic_info⟩,
    ⟨"BTR0BTR1", some .btr0btr1⟩, ⟨"GET_EXT_STATUS", some .get_extra_status⟩,
    ⟨"SET_FILTER", some .set_filter⟩, ⟨"EXT_PARAMS", some .extra_params⟩]

def G_FD_IOCTL_HANDLERS : List IoctlHandler :=
  [⟨"FD_SET_INIT", some .fd_set_init⟩, ⟨"FD_GET_INIT", some .fd_get_init⟩,
    ⟨"FD_GET_STATE", some .fd_get_state⟩, ⟨"FD_ADD_FILTERS", none⟩, ⟨"FD_GET_FILTERS", none⟩,
    ⟨"FD_SEND_MSG", some .fd_send_msg⟩, ⟨"FD_RECV_MSG", some .fd_recv_msg⟩,
    ⟨"FD_SEND_MSGS", some .fd_send_msgs⟩, ⟨"FD_RECV_MSGS", some .fd_recv_msgs⟩,
    ⟨"FD_GET_AVAILABLE_CLOCKS", none⟩, ⟨"FD_GET_BITTIMING_RANGES", none⟩,
    ⟨"FD_GET_OPTION", some .fd_get_option⟩, ⟨"FD_SET_OPTION", some .fd_set_option⟩,
    ⟨"FD_RESET", some .fd_reset⟩]

/-- The old or the new table. -/
def ioctl_table (new : Bool) : List IoctlHandler :=
  if new then G_FD_IOCTL_HANDLERS else G_IOCTL_HANDLERS

/-! ## A call -/

/-- A call of `pcan_chardev_ioctl`: what it did, what it returned and the state behind it, if
a forwarder was found. There is no result where a table was read behind its end, or a null
pointer called. -/
structure IoctlRun where
  events : List IoctlEvent
  result : Option (Int × Option ReaderState)

section

variable (st : ReaderState) (services : IoctlServices) (env : ReadEnv) (cmd : u32) (arg : ℕ)

/-- `handler->func(file, forwarder, argp)` -/
def IoctlHandler.call (handler : IoctlHandler) : IoctlRun :=
  match handler.func with
  | none => ⟨[], none⟩
  | some func =>
    let (events, result) := st.ioctl_func services env arg func
    ⟨.called func :: events, result.map fun (err, st) => (err, some st)⟩

/-- A request of a table whose first one has the number `start`. -/
def ReaderState.ioctl_dispatch (new : Bool) (start : u32) : IoctlRun :=
  let index := (_IOC_NR cmd - start).toNat
  match (ioctl_table new)[index]? with
  | none => ⟨[.entry new index], none⟩
  | some handler =>
    if ¬ services.access_ok then ⟨[.entry new index], some (-EINVAL, some st)⟩
    else
      let run := handler.call st services env arg
      ⟨.entry new index :: run.events, run.result⟩

/-- With the forwarder `get_usb_forwarder_from_file` finds. -/
def IoctlRun.pcan_chardev_ioctl (forwarder : Option ReaderState) : IoctlRun :=
  match forwarder with
  | none => ⟨[], some (-ENODEV, none)⟩
  | some st =>
    if st.d.stage < PCAN_USB_STAGE_ONE_STARTED then ⟨[], some (-ENODEV, some st)⟩
    else if cmd ∈ old_commands then
      st.ioctl_dispatch services env cmd arg false PCAN_IOCTL_SEQ_START
    else if cmd ∈ new_commands then
      st.ioctl_dispatch services env cmd arg true PCANFD_IOCTL_SEQ_START
    else ⟨[], some (-EBADRQC, some st)⟩

end

/-! ## The device behind a request

`Lifecycle` has requests by what they do to the device; the handlers do just that. -/

section

variable (st : ReaderState) (services : IoctlServices) (env : ReadEnv) (arg : ℕ)

/-- What a handler is to `ioctl_handler`, which sees the device only. -/
def ReaderState.device_request : IoctlFunc → Ioctl
  | .read_msg => .read_msg
  | .fd_recv_msgs =>
    if services.get_user_fault then .other (-EFAULT) else .fd_recv_msgs (st.asked arg)
  | _ => .other 0

/-- `ioctl_read_msg` does to the device what its request does. -/
theorem read_msg_device (services : Services) (msg : Bytes) :
    (st.ioctl_read_msg services arg msg).2.d
      = (ioctl_handler services.wait .read_msg st.d).2 := by
  unfold ReaderState.ioctl_read_msg ReaderState.ioctl_read_msg_seen ioctl_handler Device.receive
  dsimp only
  by_cases hwait : wait_for_msgs services.wait st.d ≠ 0
  · rw [if_pos hwait, if_pos hwait]
  rw [if_neg hwait, if_neg hwait]
  unfold ReaderState.read_msg_copied ReaderState.dev Device.char_dev
  generalize ioctl_read_msg_section st.d.rx.fwd.char_dev = taken
  obtain ⟨result, dev⟩ := taken
  cases result <;> rfl

/-- `ioctl_fd_recv_msgs` does to the device what its request does, for the count that it got. -/
theorem recv_msgs_device (services : Services) (hfault : services.get_user_fault = false) :
    (st.ioctl_fd_recv_msgs services env arg).2.d
      = (ioctl_handler services.wait (.fd_recv_msgs (st.asked arg)) st.d).2 := by
  unfold ReaderState.ioctl_fd_recv_msgs ReaderState.ioctl_fd_recv_msgs_seen ioctl_handler Device.receive
  dsimp only
  by_cases hwait : wait_for_msgs services.wait st.d ≠ 0
  · rw [if_pos hwait, if_neg (fun h => hwait h.1), if_pos hwait]
  rw [if_neg hwait, if_neg (by simp [hfault])]
  by_cases hasked : st.asked arg = 0
  · rw [if_pos hasked, if_pos ⟨not_not.mp hwait, hasked⟩]
    rfl
  rw [if_neg hasked, if_neg (fun h => hasked h.2), if_neg hwait]
  unfold ReaderState.recv_msgs_copied ReaderState.dev Device.char_dev
  generalize hsec : ioctl_fd_recv_msgs_section (st.asked arg) st.d.rx.fwd.char_dev = taken
  have hsec' : ioctl_fd_recv_msgs_section (st.asked arg)
      (st.get_count services arg).d.rx.fwd.char_dev = taken := hsec
  rw [hsec']
  obtain ⟨result, dev⟩ := taken
  cases result <;> rfl

/-- An option request that has a result has left the device alone. -/
theorem log_option_name_device {name : Int} {rest : Int × ReaderState} {err : Int}
    {st' : ReaderState} (hrest : rest.2.d = st.d)
    (h : (log_option_name name rest).2 = some (err, st')) : st'.d = st.d := by
  obtain ⟨text, -, rfl⟩ := Option.map_eq_some_iff.mp h
  exact hrest

/-- Options leave the device alone. -/
theorem option_requests_device {err : Int} {st' : ReaderState}
    (h : (st.ioctl_fd_get_option services arg).2 = some (err, st')
      ∨ (st.ioctl_fd_set_option services arg).2 = some (err, st')) : st'.d = st.d := by
  unfold ReaderState.ioctl_fd_get_option ReaderState.ioctl_fd_set_option at h
  cases hfault : services.copy_from_user_fault with
  | true =>
    rw [hfault, if_pos rfl, if_pos rfl, or_self] at h
    obtain rfl := congrArg Prod.snd (Option.some.inj h)
    rfl
  | false =>
    rw [hfault, if_neg (by decide), if_neg (by decide)] at h
    refine h.elim (log_option_name_device st ?_) (log_option_name_device st rfl)
    cases option_u32_val (st.opt_name arg) with
    | none => rfl
    | some u32_val => cases services.put_user_fault <;> rfl

/-- A handler does to the device what its request does to the device that `Lifecycle` has. -/
theorem ioctl_func_device (func : IoctlFunc) {err : Int} {st' : ReaderState}
    (h : (st.ioctl_func services env arg func).2 = some (err, st')) :
    st'.d = (ioctl_handler services.wait (st.device_request services arg func) st.d).2 := by
  cases func with
  | fd_get_option => exact option_requests_device st services arg (.inl h)
  | fd_set_option => exact option_requests_device st services arg (.inr h)
  | read_msg =>
    obtain rfl := congrArg Prod.snd (Option.some.inj h)
    exact read_msg_device st arg services.toServices services.msg
  | fd_recv_msgs =>
    obtain rfl := congrArg Prod.snd (Option.some.inj h)
    unfold ReaderState.device_request
    cases hfault : services.get_user_fault with
    | false => exact recv_msgs_device st env arg services.toServices hfault
    | true =>
      -- nothing is taken for a request that cannot be read
      unfold ReaderState.ioctl_fd_recv_msgs ReaderState.ioctl_fd_recv_msgs_seen
      dsimp only
      split <;> rfl
  | extra_params | fd_set_init =>
    obtain rfl := congrArg Prod.snd (Option.some.inj h)
    cases hfault : services.copy_from_user_fault
    all_goals
      simp only [ReaderState.ioctl_extra_params, ReaderState.ioctl_fd_set_init, hfault]
      rfl
  | _ =>
    obtain rfl := congrArg Prod.snd (Option.some.inj h)
    rfl
end

/-! ## Staying inside the tables -/

/-- A command of the header, by what its name has behind `PCAN_IOCTL_` or
`PCANFD_IOCTL_`. -/
structure IoctlCommand where
  new : Bool
  name : String
  cmd : u32
deriving DecidableEq, Repr

def ioctl_commands : List IoctlCommand :=
  [⟨false, "INIT", PCAN_IOCTL_INIT⟩, ⟨false, "WRITE_MSG", PCAN_IOCTL_WRITE_MSG⟩,
    ⟨false, "READ_MSG", PCAN_IOCTL_READ_MSG⟩, ⟨false, "GET_STATUS", PCAN_IOCTL_GET_STATUS⟩,
    ⟨false, "GET_DIAGNOSIS", PCAN_IOCTL_GET_DIAGNOSIS⟩,
    ⟨false, "BTR0BTR1", PCAN_IOCTL_BTR0BTR1⟩,
    ⟨false, "GET_EXT_STATUS", PCAN_IOCTL_GET_EXT_STATUS⟩,
    ⟨false, "SET_FILTER", PCAN_IOCTL_SET_FILTER⟩, ⟨false, "EXT_PARAMS", PCAN_IOCTL_EXT_PARAMS⟩,
    ⟨true, "SET_INIT", PCANFD_IOCTL_SET_INIT⟩, ⟨true, "GET_INIT", PCANFD_IOCTL_GET_INIT⟩,
    ⟨true, "GET_STATE", PCANFD_IOCTL_GET_STATE⟩, ⟨true, "SEND_MSG", PCANFD_IOCTL_SEND_MSG⟩,
    ⟨true, "RECV_MSG", PCANFD_IOCTL_RECV_MSG⟩, ⟨true, "SEND_MSGS", PCANFD_IOCTL_SEND_MSGS⟩,
    ⟨true, "RECV_MSGS", PCANFD_IOCTL_RECV_MSGS⟩, ⟨true, "GET_OPTION", PCANFD_IOCTL_GET_OPTION⟩,
    ⟨true, "SET_OPTION", PCANFD_IOCTL_SET_OPTION⟩, ⟨true, "RESET", PCANFD_IOCTL_RESET⟩]

/-- The name of a command in its table. -/
def IoctlCommand.handler_name (c : IoctlCommand) : String :=
  if c.new then "FD_" ++ c.name else c.name

/-- The call refuses, and calls no handler. -/
structure IoctlRun.Refuses (run : IoctlRun) (access_ok : Bool) : Prop where
  not_called : ∀ func, .called func ∉ run.events
  returns : ∃ err st, run.result = some (err, st)
    ∧ (err = -ENODEV ∨ err = -EBADRQC ∨ err = -EINVAL ∧ access_ok = false)

/-- The call finds the handler with the command's name in its table, and calls it and no
other. -/
def IoctlRun.CallsHandler (run : IoctlRun) (cmd : u32) : Prop :=
  ∃ c ∈ ioctl_commands, c.cmd = cmd ∧ ∃ index func rest,
    (ioctl_table c.new)[index]? = some ⟨c.handler_name, some func⟩
      ∧ run.events = .entry c.new index :: .called func :: rest
      ∧ ∀ func', .called func' ∉ rest

/-- An entry of a table is inside it, and so is an option's text, unless it is that of an
unknown option. -/
def IoctlEvent.Inside : IoctlEvent → Prop
  | .entry new index => index < (ioctl_table new).length
  | .called _ => True
  | .option_name name text => text = some "UNKNOWN_OPTION"
      ∨ 0 ≤ name ∧ name < S_OPT_NAMES.length ∧ text = S_OPT_NAMES[name.toNat]?

structure IoctlRun.StaysInside (run : IoctlRun) (cmd : u32) (access_ok : Bool) : Prop where
  dispatched : run.Refuses access_ok ∨ run.CallsHandler cmd
  inside : ∀ e ∈ run.events, e.Inside

/-! ## The tables and the header -/

/-- Where a command's entry is. -/
def IoctlCommand.index (c : IoctlCommand) : ℕ :=
  (_IOC_NR c.cmd - if c.new then PCANFD_IOCTL_SEQ_START else PCAN_IOCTL_SEQ_START).toNat

def IoctlCommand.entry (c : IoctlCommand) : Option IoctlHandler := (ioctl_table c.new)[c.index]?

/-- The labels of the `switch` are the commands of the header. -/
theorem old_commands_eq :
    old_commands = (ioctl_commands.filter fun c => !c.new).map IoctlCommand.cmd := rfl

theorem new_commands_eq :
    new_commands = (ioctl_commands.filter IoctlCommand.new).map IoctlCommand.cmd := rfl

/-- Every command has its name at its place. -/
theorem handler_names :
    ioctl_commands.map (fun c => c.entry.map IoctlHandler.name)
      = ioctl_commands.map fun c => some c.handler_name := rfl

/-- None of them is at a hole. -/
theorem handler_funcs :
    ioctl_commands.map (fun c => (c.entry.bind IoctlHandler.func).isSome)
      = ioctl_commands.map fun _ => true := rfl

theorem get_option_funcs :
    ioctl_commands.map (fun c => decide (c.entry.bind IoctlHandler.func = some .fd_get_option))
      = ioctl_commands.map fun c => decide (c.cmd = PCANFD_IOCTL_GET_OPTION) := rfl

theorem set_option_funcs :
    ioctl_commands.map (fun c => decide (c.entry.bind IoctlHandler.func = some .fd_set_option))
      = ioctl_commands.map fun c => decide (c.cmd = PCANFD_IOCTL_SET_OPTION) := rfl

/-- Each command has its own entry in the tables. -/
theorem entry_of_command {c : IoctlCommand} (hc : c ∈ ioctl_commands) :
    ∃ func, c.entry = some ⟨c.handler_name, some func⟩
      ∧ (func = .fd_get_option ↔ c.cmd = PCANFD_IOCTL_GET_OPTION)
      ∧ (func = .fd_set_option ↔ c.cmd = PCANFD_IOCTL_SET_OPTION) := by
  have hname := List.map_inj_left.mp handler_names c hc
  have hget := decide_eq_decide.mp (List.map_inj_left.mp get_option_funcs c hc)
  have hset := decide_eq_decide.mp (List.map_inj_left.mp set_option_funcs c hc)
  obtain ⟨func, hfunc⟩ := Option.isSome_iff_exists.mp (List.map_inj_left.mp handler_funcs c hc)
  rw [hfunc, Option.some.injEq] at hget hset
  obtain ⟨⟨name, func'⟩, hentry, rfl⟩ := Option.bind_eq_some_iff.mp hfunc
  rw [hentry] at hname
  obtain rfl : name = c.handler_name := Option.some.inj hname
  exact ⟨func, hentry, hget, hset⟩

/-- Each of the old commands is listed. -/
theorem command_of_old {cmd : u32} (h : cmd ∈ old_commands) :
    ∃ c ∈ ioctl_commands, c.new = false ∧ c.cmd = cmd := by
  rw [old_commands_eq] at h
  obtain ⟨c, hc, rfl⟩ := List.mem_map.mp h
  obtain ⟨hmem, hold⟩ := List.mem_filter.mp hc
  exact ⟨c, hmem, by simpa using hold, rfl⟩

/-- Each of the new commands is listed. -/
theorem command_of_new {cmd : u32} (h : cmd ∈ new_commands) :
    ∃ c ∈ ioctl_commands, c.new = true ∧ c.cmd = cmd := by
  rw [new_commands_eq] at h
  obtain ⟨c, hc, rfl⟩ := List.mem_map.mp h
  obtain ⟨hmem, hnew⟩ := List.mem_filter.mp hc
  exact ⟨c, hmem, hnew, rfl⟩

/-! ## An option's text -/

/-- A name is looked up inside the table unless it is the one behind the last entry. -/
theorem option_name_inside_iff (name : Int) :
    (IoctlEvent.option_name name (pcanfd_option_name name)).Inside
      ↔ name ≠ PcanfdOpt.DEFERRED_FRM.value := by
  have hmax : PcanfdOpt.MAX.value = 24 := rfl
  have hlast : PcanfdOpt.DEFERRED_FRM.value = 23 := rfl
  have hlen : (S_OPT_NAMES.length : Int) = 23 := rfl
  unfold IoctlEvent.Inside pcanfd_option_name
  dsimp only
  rw [hmax, hlast, hlen]
  by_cases hin : name ≥ 0 ∧ name < 24
  · rw [if_pos hin]
    constructor
    · rintro (hunknown | ⟨-, hlt, -⟩)
      · rintro rfl
        cases hunknown
      · omega
    · intro hne
      exact .inr ⟨hin.1, by omega, rfl⟩
  · rw [if_neg hin]
    refine iff_of_true (.inl rfl) ?_
    rintro rfl
    exact hin (by decide)

/-- The two option requests look up one text, the others none. -/
theorem ioctl_func_events (st : ReaderState) (services : IoctlServices) (env : ReadEnv) (arg : ℕ)
    (func : IoctlFunc) :
    (st.ioctl_func services env arg func).1
      = if (func = .fd_get_option ∨ func = .fd_set_option)
            ∧ services.copy_from_user_fault = false then
          [.option_name (st.opt_name arg) (pcanfd_option_name (st.opt_name arg))]
        else [] := by
  cases func with
  | fd_get_option =>
    unfold ReaderState.ioctl_func ReaderState.ioctl_fd_get_option
    cases services.copy_from_user_fault <;> rfl
  | fd_set_option =>
    unfold ReaderState.ioctl_func ReaderState.ioctl_fd_set_option
    cases services.copy_from_user_fault <;> rfl
  | _ => rfl

/-! ## Every call -/

section

variable (st : ReaderState) (services : IoctlServices) (env : ReadEnv) (cmd : u32) (arg : ℕ)

/-- The request is about an option, and gets as far as naming the one that has no name. -/
def ReaderState.NamesDeferred : Prop :=
  (cmd = PCANFD_IOCTL_GET_OPTION ∨ cmd = PCANFD_IOCTL_SET_OPTION)
    ∧ services.access_ok = true ∧ services.copy_from_user_fault = false
    ∧ st.opt_name arg = PcanfdOpt.DEFERRED_FRM.value

/-- A refusal that has looked at nothing but entries inside their tables. -/
theorem refusal_stays_inside {run : IoctlRun} {access_ok : Bool}
    (hentries : ∀ e ∈ run.events, ∃ new index, e = .entry new index
      ∧ index < (ioctl_table new).length)
    (hreturns : ∃ err st, run.result = some (err, st)
      ∧ (err = -ENODEV ∨ err = -EBADRQC ∨ err = -EINVAL ∧ access_ok = false)) :
    run.StaysInside cmd access_ok := by
  refine ⟨.inl ⟨fun func hcalled => ?_, hreturns⟩, fun e he => ?_⟩
  · obtain ⟨new, index, heq, -⟩ := hentries _ hcalled
    cases heq
  · obtain ⟨new, index, rfl, hlt⟩ := hentries e he
    exact hlt

/-- The dispatch of a command, once its entry is known. -/
theorem dispatch_of_entry {c : IoctlCommand} {start : u32} {func : IoctlFunc}
    (hstart : start = if c.new then PCANFD_IOCTL_SEQ_START else PCAN_IOCTL_SEQ_START)
    (hentry : c.entry = some ⟨c.handler_name, some func⟩) :
    st.ioctl_dispatch services env c.cmd arg c.new start
      = if services.access_ok = true then
          ⟨.entry c.new c.index :: .called func :: (st.ioctl_func services env arg func).1,
            (st.ioctl_func services env arg func).2.map fun (err, st) => (err, some st)⟩
        else ⟨[.entry c.new c.index], some (-EINVAL, some st)⟩ := by
  have hfound : (ioctl_table c.new)[(_IOC_NR c.cmd - start).toNat]?
      = some ⟨c.handler_name, some func⟩ := hstart ▸ hentry
  have hindex : (_IOC_NR c.cmd - start).toNat = c.index := by rw [hstart, IoctlCommand.index]
  unfold ReaderState.ioctl_dispatch
  dsimp only
  rw [hfound, hindex]
  cases services.access_ok <;> rfl

/-- A call of the command's handler is as it should be, so what the handler looks at decides. -/
theorem call_stays_inside_iff {c : IoctlCommand} (hc : c ∈ ioctl_commands) {func : IoctlFunc}
    (hentry : c.entry = some ⟨c.handler_name, some func⟩) {rest : List IoctlEvent}
    (hrest : ∀ func', .called func' ∉ rest) (result : Option (Int × Option ReaderState))
    (access_ok : Bool) :
    (⟨.entry c.new c.index :: .called func :: rest, result⟩ : IoctlRun).StaysInside c.cmd access_ok
      ↔ ∀ e ∈ rest, e.Inside := by
  obtain ⟨hlt, -⟩ := List.getElem?_eq_some_iff.mp hentry
  constructor
  · exact fun h e he => h.inside e (List.mem_cons_of_mem _ (List.mem_cons_of_mem _ he))
  · intro h
    refine ⟨.inr ⟨c, hc, rfl, c.index, func, rest, hentry, rfl, hrest⟩, fun e he => ?_⟩
    rcases List.mem_cons.mp he with rfl | he
    · exact hlt
    rcases List.mem_cons.mp he with rfl | he
    · trivial
    · exact h e he

/-- A known command stays inside the tables unless it names that option. -/
theorem dispatch_inside_iff {c : IoctlCommand} {start : u32} (hc : c ∈ ioctl_commands)
    (hstart : start = if c.new then PCANFD_IOCTL_SEQ_START else PCAN_IOCTL_SEQ_START) :
    (st.ioctl_dispatch services env c.cmd arg c.new start).StaysInside c.cmd services.access_ok
      ↔ ¬ st.NamesDeferred services c.cmd arg := by
  obtain ⟨func, hentry, hget, hset⟩ := entry_of_command hc
  rw [dispatch_of_entry st services env arg hstart hentry, ReaderState.NamesDeferred, ← hget,
    ← hset]
  cases haccess : services.access_ok with
  | false =>
    rw [if_neg (by decide)]
    refine iff_of_true (refusal_stays_inside c.cmd ?_ ⟨_, _, rfl, .inr (.inr ⟨rfl, rfl⟩)⟩) ?_
    · intro e he
      exact ⟨_, _, List.mem_singleton.mp he, (List.getElem?_eq_some_iff.mp hentry).1⟩
    · rintro ⟨-, haccess', -⟩
      cases haccess'
  | true =>
    rw [if_pos rfl, ioctl_func_events]
    by_cases hnames : (func = .fd_get_option ∨ func = .fd_set_option)
        ∧ services.copy_from_user_fault = false
    · rw [if_pos hnames, call_stays_inside_iff hc hentry (by simp), List.forall_mem_singleton,
        option_name_inside_iff]
      exact not_congr ⟨fun hname => ⟨hnames.1, rfl, hnames.2, hname⟩, fun h => h.2.2.2⟩
    · rw [if_neg hnames, call_stays_inside_iff hc hentry (by simp)]
      refine iff_of_true (by simp) ?_
      rintro ⟨hfunc, -, hcopied, -⟩
      exact hnames ⟨hfunc, hcopied⟩

/-- Every call, for every command number and everything the argument points to: a handler of
the command's name is called, or none and the call refuses; and it looks at no entry outside
a table, unless the request names the option that has no name. -/
theorem ioctl_stays_inside_iff (forwarder : Option ReaderState) :
    (IoctlRun.pcan_chardev_ioctl services env cmd arg forwarder).StaysInside cmd services.access_ok
      ↔ ¬ ∃ st, forwarder = some st ∧ PCAN_USB_STAGE_ONE_STARTED ≤ st.d.stage
          ∧ st.NamesDeferred services cmd arg := by
  unfold IoctlRun.pcan_chardev_ioctl
  cases forwarder with
  | none =>
    refine iff_of_true (refusal_stays_inside cmd (by simp) ⟨_, _, rfl, .inl rfl⟩) ?_
    rintro ⟨st, hsome, -⟩
    cases hsome
  | some st =>
    dsimp only
    have hst : (∃ st', some st = some st' ∧ PCAN_USB_STAGE_ONE_STARTED ≤ st'.d.stage
        ∧ st'.NamesDeferred services cmd arg)
          ↔ PCAN_USB_STAGE_ONE_STARTED ≤ st.d.stage ∧ st.NamesDeferred services cmd arg := by
      simp
    rw [hst]
    by_cases hstage : st.d.stage < PCAN_USB_STAGE_ONE_STARTED
    · rw [if_pos hstage]
      refine iff_of_true (refusal_stays_inside cmd (by simp) ⟨_, _, rfl, .inl rfl⟩) ?_
      exact fun h => absurd hstage (not_lt.mpr h.1)
    rw [if_neg hstage, and_iff_right (not_lt.mp hstage)]
    by_cases hold : cmd ∈ old_commands
    · obtain ⟨c, hc, hnew, rfl⟩ := command_of_old hold
      rw [if_pos hold, ← hnew]
      exact dispatch_inside_iff st services env arg hc (by rw [hnew]; rfl)
    rw [if_neg hold]
    by_cases hnew : cmd ∈ new_commands
    · obtain ⟨c, hc, hnew', rfl⟩ := command_of_new hnew
      rw [if_pos hnew, ← hnew']
      exact dispatch_inside_iff st services env arg hc (by rw [hnew']; rfl)
    rw [if_neg hnew]
    refine iff_of_true (refusal_stays_inside cmd (by simp) ⟨_, _, rfl, .inr (.inl rfl)⟩) ?_
    -- both option commands are labels
    rintro ⟨rfl | rfl, -⟩
    · exact hnew (by simp [new_commands])
    · exact hnew (by simp [new_commands])

end

/-- Nothing fails, and every structure is empty. -/
def IoctlServices.granting : IoctlServices :=
  { Services.leaving 0 with
    copy_from_user_fault := false, put_user_fault := false, msg := fun _ => 0,
    report := fun _ => [] }

/-- A request about the option 23, the one for internal use. -/
def deferred_request : ReaderState :=
  { reader_of 0 with user := fun a => if a = 65540 then 23 else 0 }

/-- Both requests read behind the table of names. -/
theorem deferred_option_unnamed :
    ¬ (IoctlRun.pcan_chardev_ioctl .granting read_env PCANFD_IOCTL_GET_OPTION 65536
        (some deferred_request)).StaysInside PCANFD_IOCTL_GET_OPTION true
      ∧ ¬ (IoctlRun.pcan_chardev_ioctl .granting read_env PCANFD_IOCTL_SET_OPTION 65536
        (some deferred_request)).StaysInside PCANFD_IOCTL_SET_OPTION true := by
  have hget : IoctlEvent.option_name 23 none ∈ (IoctlRun.pcan_chardev_ioctl .granting read_env
      PCANFD_IOCTL_GET_OPTION 65536 (some deferred_request)).events := by decide
  have hset : IoctlEvent.option_name 23 none ∈ (IoctlRun.pcan_chardev_ioctl .granting read_env
      PCANFD_IOCTL_SET_OPTION 65536 (some deferred_request)).events := by decide
  have houtside : ¬ (IoctlEvent.option_name 23 none).Inside :=
    fun h => (option_name_inside_iff 23).mp h rfl
  exact ⟨fun h => houtside (h.inside _ hget), fun h => houtside (h.inside _ hset)⟩

end DualPcanUsb
