/-
The packet codec, `packet_codec.c`: `pcan_encode_frame_to_buf` and everything
below `pcan_decode_and_handle_urb`.

A received packet is a count byte and a row of variable-length records. The
decoder walks it with a cursor (`MsgContext`), reconstructs the device clock on
the way, delivers data frames to the network stack and to the character device's
ring, and turns error records into error frames and state changes.

Three things that C leaves implicit are explicit here. The packet is a memory
`ℕ → u8` without an end, and the cursor keeps the list of indices it has read.
The kernel services are an environment `Env`: the outcome of each
`alloc_can_skb` call and the value of each `ktime_get` call, by call number. And
what the decoder does to the outside is a trace of `Event`s. A socket buffer is
named by the number of the call that allocated it.
-/
import DualPcanUsb.TimeRef
import DualPcanUsb.Lib.LittleEndian

set_option autoImplicit false

namespace DualPcanUsb

open LittleEndian

/-! ## Record layout -/

def PCAN_USB_MSG_HEADER_LEN : ℕ := 2

def PCAN_USB_STATUSLEN_TIMESTAMP : u8 := 0x80
def PCAN_USB_STATUSLEN_INTERNAL : u8 := 0x40
def PCAN_USB_STATUSLEN_EXT_ID : u8 := 0x20
def PCAN_USB_STATUSLEN_RTR : u8 := 0x10
def PCAN_USB_STATUSLEN_DLC : u8 := 0xf

def PCAN_USB_ERROR_RXQOVR : u8 := 0x02
def PCAN_USB_ERROR_BUS_LIGHT : u8 := 0x04
def PCAN_USB_ERROR_BUS_HEAVY : u8 := 0x08
def PCAN_USB_ERROR_BUS_OFF : u8 := 0x10
def PCAN_USB_ERROR_QOVR : u8 := 0x40

def PCAN_USB_REC_ERROR : u8 := 1
def PCAN_USB_REC_ANALOG : u8 := 2
def PCAN_USB_REC_BUSLOAD : u8 := 3
def PCAN_USB_REC_TS : u8 := 4

def PCAN_CMD_ARG_INDEX_FUNC : ℕ := 0
def PCAN_CMD_ARG_INDEX_NUM : ℕ := 1
def PCAN_CMD_ARG_INDEX_ARG : ℕ := 2

/-! ## Encoder -/

/-- The transmit buffer while it is being filled: its bytes, the write pointer
as an index, and the indices stored to so far. -/
structure OutBuf where
  bytes : ℕ → u8
  pos : ℕ
  stores : List ℕ

/-- Store at index `i`. -/
def OutBuf.store (o : OutBuf) (i : ℕ) (b : u8) : OutBuf :=
  { o with bytes := Function.update o.bytes i b, stores := o.stores ++ [i] }

/-- The C idiom `*obuf++ = b`. -/
def OutBuf.push (o : OutBuf) (b : u8) : OutBuf :=
  { o.store o.pos b with pos := o.pos + 1 }

/-- A `memcpy` to the write pointer, which then moves behind the copy. -/
def OutBuf.append (o : OutBuf) (bs : List u8) : OutBuf := bs.foldl OutBuf.push o

/-- The status/len byte as it ends up: `can_dlc` with the two flag bits or-ed in. -/
def status_len_of (frame : CanFrame) : u8 :=
  let b := frame.can_dlc
  let b := if frame.can_id &&& CAN_RTR_FLAG ≠ 0 then b ||| PCAN_USB_STATUSLEN_RTR else b
  if frame.can_id &&& CAN_EFF_FLAG ≠ 0 then b ||| PCAN_USB_STATUSLEN_EXT_ID else b

/-- The id field: a `__le32` shifted by three for extended frames, a `__le16`
shifted by five for standard ones. -/
def id_bytes (frame : CanFrame) : List u8 :=
  if frame.can_id &&& CAN_EFF_FLAG ≠ 0 then
    let tmp32 : u32 := (frame.can_id &&& CAN_ERR_MASK) <<< 3
    [byte tmp32 0, byte tmp32 1, byte tmp32 2, byte tmp32 3]
  else
    let tmp16 : u16 := ((frame.can_id &&& CAN_ERR_MASK) <<< 5).setWidth 16
    [byte tmp16 0, byte tmp16 1]

/-- The payload the record carries: nothing for a remote frame. -/
def payload_bytes (frame : CanFrame) : List u8 :=
  if frame.can_id &&& CAN_RTR_FLAG = 0 then frame.data.toList.take frame.can_dlc.toNat else []

/-- The buffer is filled through a moving pointer, and the trailing counter byte
is stored relative to where that pointer has got to. -/
def pcan_encode_frame_to_buf (shared_tx_counter : u8) (frame : CanFrame) (obuf : ℕ → u8)
    (size : ℕ) : OutBuf :=
  let o : OutBuf := ⟨obuf, 0, []⟩
  -- the two header bytes, then `*obuf |=` on the third until it is complete
  let o := (o.push 2).push 1
  let o := o.push (status_len_of frame)
  let o := o.append (id_bytes frame)
  let o := o.append (payload_bytes frame)
  -- `obuf[*size - 1]`, and `obuf` has moved by now
  o.store (o.pos + size - 1) shared_tx_counter

/-! ## Decoder state -/

/-- The parser's cursor, `msg_context_t`. Pointers into the packet are indices;
`reads` lists the indices read so far. -/
structure MsgContext where
  ibuf : ℕ → u8
  ts16 : u16
  prev_ts8 : u8
  ptr : ℕ
  end_ : ℕ
  rec_cnt : u8
  rec_idx : u8
  rec_data_idx : u8
  reads : List ℕ

/-- Byte `i` behind the cursor. -/
def MsgContext.peek (ctx : MsgContext) (i : ℕ) : u8 := ctx.ibuf (ctx.ptr + i)

/-- Reading `n` bytes at the cursor and moving it by `len`. -/
def MsgContext.take (ctx : MsgContext) (n len : ℕ) : MsgContext :=
  { ctx with ptr := ctx.ptr + len, reads := ctx.reads ++ List.range' ctx.ptr n }

/-- The two kinds of record a frame can be delivered for. -/
inductive RecordKind
  | data | status
deriving DecidableEq, Repr

/-- What the decoder does to the rest of the kernel, plus the calls of
`compute_kernel_time` with the tick they convert. -/
inductive Event
  | alloc_can_skb (skb : ℕ)
  | access (skb : ℕ)
  | netif_rx (skb : ℕ) (kind : RecordKind) (frame : CanFrame) (hwtstamp : Option ktime_t)
  | dev_kfree_skb (skb : ℕ)
  | can_bus_off
  | compute_kernel_time (ts16 : u16)
deriving DecidableEq, Repr

/-- The kernel services, by call number. A successful `alloc_can_skb` hands out
a frame with some contents. -/
structure Env where
  alloc_can_skb : ℕ → Option CanFrame
  ktime_get : ℕ → ktime_t

/-- The driver during reception: its private data, the number of calls of each
service so far, and the trace. -/
structure RxState where
  fwd : Forwarder
  skbs : ℕ
  clocks : ℕ
  trace : List Event

def RxState.log (s : RxState) (events : List Event) : RxState :=
  { s with trace := s.trace ++ events }

/-- Allocate a socket buffer with a CAN frame inside. -/
def alloc_can_skb (env : Env) (s : RxState) : Option (ℕ × CanFrame) × RxState :=
  match env.alloc_can_skb s.skbs with
  | none => (none, { s with skbs := s.skbs + 1 })
  | some frame =>
    (some (s.skbs, frame), ({ s with skbs := s.skbs + 1 } : RxState).log [.alloc_can_skb s.skbs])

/-- The time of a message with tick `ts16`: `compute_kernel_time`, which reads
the host clock when no time base is active. -/
def kernel_time (env : Env) (ts16 : u16) (s : RxState) : ktime_t × RxState :=
  (compute_kernel_time (env.ktime_get s.clocks) s.fwd.time_ref (ts16.setWidth 32),
    ({ s with clocks := if s.fwd.time_ref.tv_host > 0 then s.clocks else s.clocks + 1 } :
      RxState).log [.compute_kernel_time ts16])

/-! ## Timestamps -/

/-- Two bytes set the clock, one byte moves it: the high byte is carried over and
incremented when the low byte went backwards. -/
def decode_timestamp_in_context (is_first_packet : Bool) (ctx : MsgContext) : Int × MsgContext :=
  if is_first_packet then
    if ctx.ptr + 2 > ctx.end_ then (-EINVAL, ctx)
    else
      let tmp16 := le16 (ctx.peek 0) (ctx.peek 1)
      (0, { ctx.take 2 2 with ts16 := tmp16, prev_ts8 := (tmp16 &&& 0x00ff).setWidth 8 })
  else
    if ctx.ptr + 1 > ctx.end_ then (-EINVAL, ctx)
    else
      let ts8 := ctx.peek 0
      -- u16 arithmetic: the carry out of the high byte is lost
      let ts16 := if ts8 < ctx.prev_ts8 then ctx.ts16 + 0x100 else ctx.ts16
      -- the high byte of the old tick, the low byte of the new one
      (0, { ctx.take 1 1 with ts16 := (ts16 &&& 0xff00) ||| ts8.setWidth 16, prev_ts8 := ts8 })

/-- A timestamp record carries its tick in the body. The cursor stays: the body
is skipped by the caller. -/
def update_timestamp_in_context (env : Env) (ctx : MsgContext) (s : RxState) :
    Int × MsgContext × RxState :=
  if ctx.ptr + 2 > ctx.end_ then (-EINVAL, ctx, s)
  else
    let ts16 := le16 (ctx.peek 0) (ctx.peek 1)
    -- read, but not skipped
    let ctx : MsgContext := { ctx.take 2 0 with ts16 := ts16 }
    if ctx.rec_idx > 0 then
      let time_ref := update_time_reference (ts16.setWidth 32) s.fwd.time_ref
      (0, ctx, { s with fwd := { s.fwd with time_ref := time_ref } })
    else
      let time_ref :=
        set_time_reference (env.ktime_get s.clocks) (ts16.setWidth 32) s.fwd.time_ref
      (0, ctx, { s with
        fwd := { s.fwd with time_ref := time_ref }
        clocks := if set_reads_clock s.fwd.time_ref then s.clocks + 1 else s.clocks })

/-! ## Error records -/

/-- How the `switch` over the current state ends: a bare return, the return to
the active state, or `break` with a `new_state`. -/
inductive ErrorSwitch
  | ignore
  | back_to_active
  | new_state (state : CanState)
deriving DecidableEq, Repr

/-- The cases of the warning state, which the active state falls through to. -/
def error_switch_warning (state : CanState) (number : u8) : ErrorSwitch :=
  if number &&& PCAN_USB_ERROR_BUS_HEAVY ≠ 0 then .new_state .ERROR_PASSIVE
  else if number &&& PCAN_USB_ERROR_BUS_OFF ≠ 0 then .new_state .BUS_OFF
  else if number &&& (PCAN_USB_ERROR_RXQOVR ||| PCAN_USB_ERROR_QOVR) ≠ 0 then
    -- trick to bypass next comparison and process other errors
    .new_state .MAX
  else if number &&& PCAN_USB_ERROR_BUS_LIGHT = 0 then .back_to_active
  else .new_state state

def error_switch (state : CanState) (number : u8) : ErrorSwitch :=
  match state with
  | .ERROR_ACTIVE =>
    if number &&& PCAN_USB_ERROR_BUS_LIGHT ≠ 0 then .new_state .ERROR_WARNING
    else error_switch_warning state number
  | .ERROR_WARNING => error_switch_warning state number
  | .ERROR_PASSIVE =>
    if number &&& PCAN_USB_ERROR_BUS_OFF ≠ 0 then .new_state .BUS_OFF
    else if number &&& PCAN_USB_ERROR_BUS_LIGHT ≠ 0 then .new_state .ERROR_WARNING
    else if number &&& (PCAN_USB_ERROR_RXQOVR ||| PCAN_USB_ERROR_QOVR) ≠ 0 then .new_state .MAX
    else if number &&& PCAN_USB_ERROR_BUS_HEAVY = 0 then .back_to_active
    else .new_state state
  | _ => .ignore

/-- The error class bits or-ed into the frame, by new state. -/
def error_frame (new_state : CanState) (frame : CanFrame) : CanFrame :=
  match new_state with
  | .BUS_OFF => { frame with can_id := frame.can_id ||| CAN_ERR_BUSOFF }
  | .ERROR_PASSIVE =>
    { frame with
      can_id := frame.can_id ||| CAN_ERR_CRTL
      data := frame.data.set 1
        (frame.data[1] ||| (CAN_ERR_CRTL_TX_PASSIVE ||| CAN_ERR_CRTL_RX_PASSIVE)) }
  | .ERROR_WARNING =>
    { frame with
      can_id := frame.can_id ||| CAN_ERR_CRTL
      data := frame.data.set 1
        (frame.data[1] ||| (CAN_ERR_CRTL_TX_WARNING ||| CAN_ERR_CRTL_RX_WARNING)) }
  | _ =>
    { frame with
      can_id := frame.can_id ||| CAN_ERR_CRTL
      data := frame.data.set 1 (frame.data[1] ||| CAN_ERR_CRTL_RX_OVERFLOW) }

/-- The counters and the state `decode_error` updates, by new state. -/
def error_account (new_state : CanState) (fwd : Forwarder) : Forwarder :=
  match new_state with
  | .BUS_OFF =>
    { fwd with
      can_stats := { fwd.can_stats with bus_off := fwd.can_stats.bus_off + 1 }
      can_state := new_state }
  | .ERROR_PASSIVE =>
    { fwd with
      can_stats := { fwd.can_stats with error_passive := fwd.can_stats.error_passive + 1 }
      can_state := new_state }
  | .ERROR_WARNING =>
    { fwd with
      can_stats := { fwd.can_stats with error_warning := fwd.can_stats.error_warning + 1 }
      can_state := new_state }
  | _ =>
    { fwd with
      stats := { fwd.stats with
        rx_over_errors := fwd.stats.rx_over_errors + 1
        rx_errors := fwd.stats.rx_errors + 1 } }

/-- Hand a frame to the network stack and count it. The count reads
`frame->can_dlc`, after the buffer has been given away. -/
def deliver (skb : ℕ) (kind : RecordKind) (frame : CanFrame) (hwtstamp : Option ktime_t)
    (s : RxState) : RxState :=
  let s := s.log [.netif_rx skb kind frame hwtstamp]
  let stats : NetStats := { s.fwd.stats with
    rx_packets := s.fwd.stats.rx_packets + 1
    rx_bytes := s.fwd.stats.rx_bytes + frame.can_dlc.setWidth 64 }
  ({ s with fwd := { s.fwd with stats := stats } } : RxState).log [.access skb]

/-- The second half of `decode_error`, with the buffer in hand. -/
def post_error (env : Env) (ctx : MsgContext) (status_len : u8) (new_state : CanState)
    (skb : ℕ) (frame : CanFrame) (s : RxState) : RxState :=
  let frame := error_frame new_state frame
  let s := s.log [.access skb]
  -- `can_bus_off` is called from inside the switch
  let s := if new_state = .BUS_OFF then s.log [.can_bus_off] else s
  let s : RxState := { s with fwd := error_account new_state s.fwd }
  if status_len &&& PCAN_USB_STATUSLEN_TIMESTAMP ≠ 0 then
    let (hardware_timestamp, s) := kernel_time env ctx.ts16 s
    deliver skb .status frame (some hardware_timestamp) (s.log [.access skb])
  else
    deliver skb .status frame none s

def decode_error (env : Env) (ctx : MsgContext) (number status_len : u8) (s : RxState) :
    Int × RxState :=
  if ¬ s.fwd.netif_running then (0, s)
  -- ignore this error until 1st ts received
  else if number = PCAN_USB_ERROR_QOVR ∧ s.fwd.time_ref.tick_count = 0 then (0, s)
  else
    match error_switch s.fwd.can_state number with
    | .ignore => (0, s)
    | .back_to_active => (0, { s with fwd := { s.fwd with can_state := .ERROR_ACTIVE } })
    | .new_state new_state =>
      -- donot post any error if current state didn't change
      if s.fwd.can_state = new_state then (0, s)
      else
        match alloc_can_skb env s with
        | (none, s) => (-ENOMEM, s)
        | (some (skb, frame), s) => (0, post_error env ctx status_len new_state skb frame s)

/-- The number of body bytes: the low nibble, except for the two record types of
fixed length. -/
def status_body_len (functionality status_len : u8) : ℕ :=
  if functionality = PCAN_USB_REC_ANALOG then 2
  else if functionality = PCAN_USB_REC_BUSLOAD then 1
  else (status_len &&& PCAN_USB_STATUSLEN_DLC).toNat

/-- The `switch` over the record type. Bus events and unknown types only log. -/
def decode_functionality (env : Env) (functionality number status_len : u8)
    (ctx : MsgContext) (s : RxState) : Int × MsgContext × RxState :=
  if functionality = PCAN_USB_REC_ERROR then
    let (err, s) := decode_error env ctx number status_len s
    (err, ctx, s)
  else if functionality = PCAN_USB_REC_TS then update_timestamp_in_context env ctx s
  else (0, ctx, s)

def decode_status_and_error (env : Env) (status_len : u8) (ctx : MsgContext) (s : RxState) :
    Int × MsgContext × RxState :=
  if ctx.ptr + PCAN_CMD_ARG_INDEX_ARG > ctx.end_ then (-EINVAL, ctx, s)
  else
    let functionality := ctx.peek PCAN_CMD_ARG_INDEX_FUNC
    let number := ctx.peek PCAN_CMD_ARG_INDEX_NUM
    let ctx := ctx.take 2 PCAN_CMD_ARG_INDEX_ARG
    let (err, ctx) :=
      if status_len &&& PCAN_USB_STATUSLEN_TIMESTAMP ≠ 0 then
        decode_timestamp_in_context (ctx.rec_idx = 0) ctx
      else (0, ctx)
    if err ≠ 0 then (err, ctx, s)
    else
      let (err, ctx, s) := decode_functionality env functionality number status_len ctx s
      if err ≠ 0 then (err, ctx, s)
      else
        -- checked behind the switch, so what it did stays done
        let rec_len := status_body_len functionality status_len
        if ctx.ptr + rec_len > ctx.end_ then (-EINVAL, ctx, s)
        else (0, ctx.take 0 rec_len, s)

/-! ## Data records

`decode_data` runs in three phases as far as the character device's ring is
concerned: it samples the ring's counters without the lock, fills the slot it
found free, and commits index and count under the lock. -/

/-- What `decode_data` samples on entry. -/
structure RxSample where
  unread_count : Int
  rx_write_idx : Int
deriving DecidableEq, Repr

def decode_data_sample (dev : Chardev) : RxSample where
  unread_count := if dev.open_count < 1 then -ESHUTDOWN else dev.rx_unread_cnt
  rx_write_idx := dev.rx_write_idx

/-- The slot `chardev_msg` points to, or `NULL`. -/
def RxSample.chardev_msg (sample : RxSample) : Option Int :=
  if sample.unread_count < 0 ∨ sample.unread_count ≥ PCAN_CHRDEV_MAX_RX_BUF_COUNT then none
  else some sample.rx_write_idx

/-- Where the `frame` pointer points: into a socket buffer or into a ring slot. -/
inductive FrameHome
  | skb (skb : ℕ)
  | slot (idx : Int)
deriving DecidableEq, Repr

def Chardev.set_slot (dev : Chardev) (idx : Int) (msg : ChardevMsg) : Chardev :=
  { dev with rx_msgs := Function.update dev.rx_msgs idx msg }

def RxState.set_slot (s : RxState) (idx : Int) (msg : ChardevMsg) : RxState :=
  { s with fwd := { s.fwd with char_dev := s.fwd.char_dev.set_slot idx msg } }

/-- A store through the `frame` pointer. -/
def RxState.store_frame (s : RxState) (home : FrameHome) (frame : CanFrame) : RxState :=
  match home with
  | .skb skb => s.log [.access skb]
  | .slot idx => s.set_slot idx { s.fwd.char_dev.rx_msgs idx with frame := frame }

def decode_can_id (status_len : u8) (ctx : MsgContext) : Option (u32 × MsgContext) :=
  if status_len &&& PCAN_USB_STATUSLEN_EXT_ID ≠ 0 then
    if ctx.ptr + 4 > ctx.end_ then none
    else
      let tmp32 := le32 (ctx.peek 0) (ctx.peek 1) (ctx.peek 2) (ctx.peek 3)
      some ((tmp32 >>> 3) ||| CAN_EFF_FLAG, ctx.take 4 4)
  else
    if ctx.ptr + 2 > ctx.end_ then none
    else
      let tmp16 := le16 (ctx.peek 0) (ctx.peek 1)
      some (tmp16.setWidth 32 >>> 5, ctx.take 2 2)

/-- The payload of `n` bytes at the cursor, zero padded to eight. -/
def payload_at (ctx : MsgContext) (n : ℕ) : Vector u8 8 :=
  Vector.ofFn fun i => if i.val < n then ctx.peek i.val else 0

/-- The record's fields, stored through the `frame` pointer one after the other;
`none` is the jump to `decode_failed`. -/
def decode_frame (home : FrameHome) (status_len : u8) (frame : CanFrame)
    (ctx : MsgContext) (s : RxState) : Option CanFrame × MsgContext × RxState :=
  let rec_len := status_len &&& PCAN_USB_STATUSLEN_DLC
  match decode_can_id status_len ctx with
  | none => (none, ctx, s)
  | some (can_id, ctx) =>
    let frame : CanFrame := { frame with
      can_id := can_id
      -- `min_t`; the nibble can say up to fifteen
      can_dlc := if rec_len < CAN_MAX_DLC then rec_len else CAN_MAX_DLC }
    let s := s.store_frame home frame
    let (err, ctx) := decode_timestamp_in_context (ctx.rec_data_idx = 0) ctx
    if err ≠ 0 then (none, ctx, s)
    else
      let frame : CanFrame := { frame with data := Vector.replicate 8 0 }
      let s := s.store_frame home frame
      if status_len &&& PCAN_USB_STATUSLEN_RTR ≠ 0 then
        let frame : CanFrame := { frame with can_id := frame.can_id ||| CAN_RTR_FLAG }
        (some frame, ctx, s.store_frame home frame)
      else
        if ctx.ptr + rec_len.toNat > ctx.end_ then (none, ctx, s)
        else
          let frame : CanFrame := { frame with data := payload_at ctx frame.can_dlc.toNat }
          -- `memcpy` of `can_dlc` bytes, and the cursor moves by `rec_len`
          (some frame, ctx.take frame.can_dlc.toNat rec_len.toNat, s.store_frame home frame)

/-- The end of a successful record: the time is computed, the network stack gets
its frame, and the sampled slot gets a copy unless the frame already lives there. -/
def finish_data (env : Env) (sample : RxSample) (home : FrameHome) (frame : CanFrame)
    (ctx : MsgContext) (s : RxState) : ChardevMsg × RxState :=
  let (hardware_timestamp, s) := kernel_time env ctx.ts16 s
  let s :=
    match home with
    | .skb skb => deliver skb .data frame (some hardware_timestamp) (s.log [.access skb])
    | .slot _ => s
  let msg : ChardevMsg := ⟨hardware_timestamp, frame⟩
  let s :=
    match sample.chardev_msg with
    | none => s
    | some idx =>
      match home with
      | .skb skb => (s.set_slot idx msg).log [.access skb]
      | .slot _ => s.set_slot idx msg
  (msg, s)

/-- Everything between the sample and the lock: the message on success, the
error code otherwise. -/
def decode_data_fill (env : Env) (sample : RxSample) (status_len : u8) (ctx : MsgContext)
    (s : RxState) : Except Int ChardevMsg × MsgContext × RxState :=
  if s.fwd.netif_running then
    match alloc_can_skb env s with
    | (none, s) => (.error (-ENOMEM), ctx, s)
    | (some (skb, frame), s) =>
      match decode_frame (.skb skb) status_len frame ctx s with
      | (none, ctx, s) => (.error (-EINVAL), ctx, s.log [.dev_kfree_skb skb])
      | (some frame, ctx, s) =>
        let (msg, s) := finish_data env sample (.skb skb) frame ctx s
        (.ok msg, ctx, s)
  else if sample.unread_count < 0 then (.error sample.unread_count, ctx, s)
  else if sample.unread_count ≥ PCAN_CHRDEV_MAX_RX_BUF_COUNT then (.error (-ENOBUFS), ctx, s)
  else
    -- the record is decoded straight into the free slot
    let home := FrameHome.slot sample.rx_write_idx
    let frame := (s.fwd.char_dev.rx_msgs sample.rx_write_idx).frame
    match decode_frame home status_len frame ctx s with
    | (none, ctx, s) => (.error (-EINVAL), ctx, s)
    | (some frame, ctx, s) =>
      let (msg, s) := finish_data env sample home frame ctx s
      (.ok msg, ctx, s)

/-- The section under `chardev->lock`: the index moves past the sampled one, the
count past the current one. -/
def decode_data_commit (sample : RxSample) (dev : Chardev) : Chardev :=
  match sample.chardev_msg with
  | none => dev
  | some idx =>
    { dev with
      -- the C remainder, of the index sampled before the record was parsed
      rx_write_idx := (idx + 1).tmod PCAN_CHRDEV_MAX_RX_BUF_COUNT
      rx_unread_cnt := dev.rx_unread_cnt + 1
      rx_packets := dev.rx_packets + 1 }

def decode_data (env : Env) (status_len : u8) (ctx : MsgContext) (s : RxState) :
    Int × MsgContext × RxState :=
  let sample := decode_data_sample s.fwd.char_dev
  match decode_data_fill env sample status_len ctx s with
  | (.error err, ctx, s) => (err, ctx, s)
  | (.ok _, ctx, s) =>
    (0, ctx, { s with fwd := { s.fwd with char_dev := decode_data_commit sample s.fwd.char_dev } })

/-! ## The packet -/

/-- The body of the loop, without the increment of `rec_idx`. The status byte is
read before anything is compared with `end_`. -/
def decode_record (env : Env) (ctx : MsgContext) (s : RxState) : Int × MsgContext × RxState :=
  let status_len := ctx.peek 0
  let ctx := ctx.take 1 1
  if status_len &&& PCAN_USB_STATUSLEN_INTERNAL ≠ 0 then
    decode_status_and_error env status_len ctx s
  else
    let (err, ctx, s) := decode_data env status_len ctx s
    (err, { ctx with rec_data_idx := ctx.rec_data_idx + 1 }, s)

/-- The `for` loop, entered with `err` and run for at most `fuel` records. -/
def decode_records (env : Env) : ℕ → Int → MsgContext → RxState → Int × MsgContext × RxState
  | 0, err, ctx, s => (err, ctx, s)
  | fuel + 1, err, ctx, s =>
    if ctx.rec_idx < ctx.rec_cnt ∧ err = 0 then
      let (err, ctx, s) := decode_record env ctx s
      decode_records env fuel err { ctx with rec_idx := ctx.rec_idx + 1 } s
    else (err, ctx, s)

/-- The cursor at the first record, the count byte read. -/
def MsgContext.start (ibuf : ℕ → u8) (size : ℕ) : MsgContext where
  ibuf := ibuf
  ts16 := 0
  prev_ts8 := 0
  ptr := PCAN_USB_MSG_HEADER_LEN
  end_ := size
  rec_cnt := ibuf 1
  rec_idx := 0
  rec_data_idx := 0
  reads := [1]

/-- The count is one byte, so 256 rounds are more than the loop can make. -/
def decode_incoming_buf (env : Env) (ibuf : ℕ → u8) (size : ℕ) (s : RxState) :
    Int × MsgContext × RxState :=
  decode_records env 256 0 (MsgContext.start ibuf size) s

def pcan_decode_and_handle_urb (env : Env) (transfer_buffer : ℕ → u8) (actual_length : ℕ)
    (s : RxState) : Int × RxState :=
  if actual_length > PCAN_USB_MSG_HEADER_LEN then
    let (err, _, s) := decode_incoming_buf env transfer_buffer actual_length s
    (err, s)
  else if actual_length = 0 then (0, s)
  else (-EINVAL, s)

end DualPcanUsb
