/-
The command buffer: what a command looks like on the wire.

Every command to the device is sixteen bytes, a functionality, a number and fourteen bytes
of arguments, written by `pcan_fill_command_buffer` into memory of which nothing is known.
The holders are the ones the `CMD_HOLDER_OF_*` macros of the header make.
-/
import DualPcanUsb.PacketCodec

set_option autoImplicit false

namespace DualPcanUsb

def PCAN_CMD_ARGS_LEN : ℕ := 14
def PCAN_CMD_TOTAL_LEN : ℕ := PCAN_CMD_ARG_INDEX_ARG + PCAN_CMD_ARGS_LEN

/-- `pcan_cmd_holder_t`, with the memory behind `args` if the pointer is set, and whether
`result` is set. -/
structure CmdHolder where
  functionality : u8
  number : u8
  args : Option (Vector u8 PCAN_CMD_ARGS_LEN)
  has_result : Bool
deriving DecidableEq, Repr

/-! ## The holders of the header -/

/-- The array `{ [idx] = arg, }`. -/
def single_arg (idx : ℕ) (arg : u8) : Vector u8 PCAN_CMD_ARGS_LEN :=
  (Vector.replicate PCAN_CMD_ARGS_LEN 0).setIfInBounds idx arg

def CMD_HOLDER_OF_SET_SAJ1000 (args : Vector u8 PCAN_CMD_ARGS_LEN) : CmdHolder :=
  { functionality := 9, number := 2, args := some args, has_result := false }

def CMD_HOLDER_OF_SET_BUS (args : Vector u8 PCAN_CMD_ARGS_LEN) : CmdHolder :=
  { functionality := 3, number := 2, args := some args, has_result := false }

def CMD_HOLDER_OF_SET_SILENT (args : Vector u8 PCAN_CMD_ARGS_LEN) : CmdHolder :=
  { functionality := 3, number := 3, args := some args, has_result := false }

def CMD_HOLDER_OF_SET_EXT_VCC (args : Vector u8 PCAN_CMD_ARGS_LEN) : CmdHolder :=
  { functionality := 10, number := 2, args := some args, has_result := false }

def CMD_HOLDER_OF_SET_BTR0BTR1 (args : Vector u8 PCAN_CMD_ARGS_LEN) : CmdHolder :=
  { functionality := 1, number := 2, args := some args, has_result := false }

def CMD_HOLDER_OF_GET_SERIAL_NUMBER : CmdHolder :=
  { functionality := 6, number := 1, args := none, has_result := true }

/-! What `pcan_cmd_set_sja1000`, `pcan_cmd_set_bus`, `pcan_cmd_set_silent` and
`pcan_cmd_set_ext_vcc` issue. -/

def SJA1000_MODE_INIT : u8 := 0x01

/-- `!!is_on` -/
def on_off (is_on : u8) : u8 :=
  if is_on ≠ 0 then 1 else 0

def CmdHolder.set_sja1000 (mode : u8) : CmdHolder :=
  CMD_HOLDER_OF_SET_SAJ1000 (single_arg 1 mode)

def CmdHolder.set_bus (is_on : u8) : CmdHolder :=
  CMD_HOLDER_OF_SET_BUS (single_arg 0 (on_off is_on))

def CmdHolder.set_silent (is_on : u8) : CmdHolder :=
  CMD_HOLDER_OF_SET_SILENT (single_arg 0 (on_off is_on))

def CmdHolder.set_ext_vcc (is_on : u8) : CmdHolder :=
  CMD_HOLDER_OF_SET_EXT_VCC (single_arg 0 (on_off is_on))

/-! ## The sixteen bytes -/

/-- A buffer as the C code addresses it. -/
abbrev CmdBuf := ℕ → u8

def CmdBuf.memset (p : CmdBuf) (b : u8) (len : ℕ) : CmdBuf :=
  fun i => if i < len then b else p i

def CmdBuf.memcpy (p : CmdBuf) (pos : ℕ) (bytes : List u8) : CmdBuf :=
  fun i => if pos ≤ i ∧ i < pos + bytes.length then bytes.getD (i - pos) 0 else p i

/-- The first `len` bytes, as a transfer takes them. -/
def CmdBuf.bytes (p : CmdBuf) (len : ℕ) : List u8 :=
  (List.range len).map p

def pcan_fill_command_buffer (functionality number : u8)
    (args_ptr : Option (Vector u8 PCAN_CMD_ARGS_LEN)) (args_len : ℕ) (buf : CmdBuf) : CmdBuf :=
  let args_len := if args_len > PCAN_CMD_ARGS_LEN then PCAN_CMD_ARGS_LEN else args_len
  let p : CmdBuf := buf.memset 0 (args_len + PCAN_CMD_ARG_INDEX_ARG)
  let p : CmdBuf := Function.update p PCAN_CMD_ARG_INDEX_FUNC functionality
  let p : CmdBuf := Function.update p PCAN_CMD_ARG_INDEX_NUM number
  match args_ptr with
  | some args => p.memcpy PCAN_CMD_ARG_INDEX_ARG (args.toList.take args_len)
  | none => p

/-- What a command has to be on the wire: functionality, number, and its arguments or
zeros. -/
def CmdHolder.wire (h : CmdHolder) : List u8 :=
  h.functionality :: h.number ::
    (match h.args with
      | some args => args.toList
      | none => List.replicate PCAN_CMD_ARGS_LEN 0)

/-- A command takes sixteen bytes, with arguments or without. -/
theorem CmdHolder.wire_length (h : CmdHolder) : h.wire.length = PCAN_CMD_TOTAL_LEN := by
  unfold CmdHolder.wire
  cases h.args with
  | none => rfl
  | some args =>
    rw [List.length_cons, List.length_cons, Vector.length_toList]
    rfl

/-- Whatever the buffer had before, every byte that goes out is the command's own. -/
theorem fill_command_buffer_apply (h : CmdHolder) (buf : CmdBuf) (i : ℕ)
    (hi : i < PCAN_CMD_TOTAL_LEN) :
    pcan_fill_command_buffer h.functionality h.number h.args PCAN_CMD_ARGS_LEN buf i
      = h.wire.getD i 0 := by
  have hlt : i < 2 + PCAN_CMD_ARGS_LEN := hi
  unfold pcan_fill_command_buffer CmdHolder.wire
  rw [if_neg (lt_irrefl _)]
  cases h.args with
  | none =>
    match i with
    | 0 => simp [PCAN_CMD_ARG_INDEX_FUNC, PCAN_CMD_ARG_INDEX_NUM]
    | 1 => simp [PCAN_CMD_ARG_INDEX_NUM]
    | j + 2 =>
      have hj : j < PCAN_CMD_ARGS_LEN := by omega
      simp [CmdBuf.memset, PCAN_CMD_ARG_INDEX_FUNC, PCAN_CMD_ARG_INDEX_NUM,
        PCAN_CMD_ARG_INDEX_ARG, hj]
  | some args =>
    have hlen : (args.toList.take PCAN_CMD_ARGS_LEN).length = PCAN_CMD_ARGS_LEN := by
      rw [List.length_take, Vector.length_toList, min_self]
    have htake : args.toList.take PCAN_CMD_ARGS_LEN = args.toList :=
      List.take_of_length_le (Vector.length_toList ..).le
    match i with
    | 0 => simp [CmdBuf.memcpy, PCAN_CMD_ARG_INDEX_FUNC, PCAN_CMD_ARG_INDEX_NUM,
        PCAN_CMD_ARG_INDEX_ARG]
    | 1 => simp [CmdBuf.memcpy, PCAN_CMD_ARG_INDEX_NUM, PCAN_CMD_ARG_INDEX_ARG]
    | j + 2 =>
      change CmdBuf.memcpy _ 2 _ (j + 2) = args.toList.getD j 0
      rw [CmdBuf.memcpy, if_pos ⟨by omega, by omega⟩, htake, Nat.add_sub_cancel]

/-- The buffer holds the command that was filled in, whatever it held before. -/
theorem fill_command_buffer_bytes (h : CmdHolder) (buf : CmdBuf) :
    (pcan_fill_command_buffer h.functionality h.number h.args PCAN_CMD_ARGS_LEN buf).bytes
      PCAN_CMD_TOTAL_LEN = h.wire := by
  refine List.ext_getElem? fun i => ?_
  rw [CmdBuf.bytes, List.getElem?_map]
  by_cases hi : i < PCAN_CMD_TOTAL_LEN
  · have hwire : i < h.wire.length := h.wire_length ▸ hi
    rw [List.getElem?_range hi, Option.map_some, fill_command_buffer_apply h buf i hi,
      List.getD_eq_getElem _ _ hwire, List.getElem?_eq_getElem hwire]
  · rw [List.getElem?_eq_none (by simpa using hi),
      List.getElem?_eq_none (by rw [h.wire_length]; omega), Option.map_none]

end DualPcanUsb
