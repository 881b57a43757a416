/-
What is in the ring.

The frames of the ring come from a record of the device, whose bytes may be anything: the
length is a nibble, the id up to thirty-two bits, and the bytes of a slot are stored one
field after the other. `decode_data` bounds and clears before it copies, so what it ends with
is a proper frame, and only such a slot is ever made visible. The machine takes the steps of
`decode_data`, the readers and the interfaces' operations in any order.
-/
import DualPcanUsb.RecordClock
import DualPcanUsb.ExclusiveOpen
import DualPcanUsb.RecvMsgs

set_option autoImplicit false

namespace DualPcanUsb

open LittleEndian

/-! ## Proper frames -/

/-- The id without the flags above it. -/
def CanFrame.id (frame : CanFrame) : ℕ := (frame.can_id &&& CAN_EFF_MASK).toNat

structure CanFrame.WellFormed (frame : CanFrame) : Prop where
  dlc_le : frame.can_dlc.toNat ≤ 8
  padding : ∀ (i : ℕ) (hi : i < 8), frame.can_dlc.toNat ≤ i → frame.data[i] = 0
  remote_empty : frame.can_id &&& CAN_RTR_FLAG ≠ 0 → frame.data = Vector.replicate 8 0
  no_error : frame.can_id &&& CAN_ERR_FLAG = 0
  long_id : frame.can_id &&& CAN_EFF_FLAG ≠ 0 → frame.id < 2 ^ 29
  short_id : frame.can_id &&& CAN_EFF_FLAG = 0 → frame.id < 2 ^ 11

/-- The identifier read from a record has no flag of its own. -/
theorem can_id_rtr (status_len : u8) (ctx : MsgContext) :
    ctx.can_id status_len &&& CAN_RTR_FLAG = 0 := by
  have hflags := can_id_flags status_len ctx
  have hsub : CAN_RTR_FLAG = (CAN_ERR_FLAG ||| CAN_RTR_FLAG) &&& CAN_RTR_FLAG := by decide
  rw [hsub, ← BitVec.and_assoc, hflags]
  decide

/-- Masking never makes a word larger. -/
theorem toNat_and_le (x y : u32) : (x &&& y).toNat ≤ x.toNat := by
  rw [BitVec.toNat_and]
  exact Nat.and_le_left

/-- Shifted down, a standard identifier has eleven bits. -/
theorem short_id_lt (ctx : MsgContext) :
    ((le16 (ctx.peek 0) (ctx.peek 1)).setWidth 32 >>> 5 : u32).toNat < 2 ^ 11 := by
  generalize le16 (ctx.peek 0) (ctx.peek 1) = x
  have hx := x.isLt
  rw [BitVec.toNat_ushiftRight, BitVec.toNat_setWidth, Nat.shiftRight_eq_div_pow]
  omega

/-- Whatever the bytes are, the frame a record stands for is a proper one. -/
theorem data_frame_wellFormed (status_len : u8) (ctx : MsgContext) :
    (ctx.data_frame status_len).WellFormed where
  dlc_le := (record_dlc_le status_len).2
  padding i hi hpad := by
    unfold MsgContext.data_frame
    dsimp only
    by_cases hrtr : status_len &&& PCAN_USB_STATUSLEN_RTR ≠ 0
    · simp only [if_pos hrtr, Vector.getElem_replicate]
    · have hlt : ¬ i < (record_dlc status_len).toNat := not_lt.mpr hpad
      simp only [if_neg hrtr, payload_at, Vector.getElem_ofFn, if_neg hlt]
  remote_empty hremote := by
    by_cases hrtr : status_len &&& PCAN_USB_STATUSLEN_RTR ≠ 0
    · unfold MsgContext.data_frame
      dsimp only
      rw [if_pos hrtr]
    · -- the flag is set for a remote record only
      unfold MsgContext.data_frame at hremote
      dsimp only at hremote
      rw [if_neg hrtr] at hremote
      exact absurd (can_id_rtr status_len ctx) hremote
  no_error := data_frame_err_flag status_len ctx
  long_id _ := by
    unfold CanFrame.id
    have hle := toNat_and_le CAN_EFF_MASK (ctx.data_frame status_len).can_id
    rw [BitVec.and_comm] at hle
    exact hle.trans_lt (by decide)
  short_id hshort := by
    have hid : ctx.can_id status_len &&& CAN_EFF_FLAG = 0 := by
      unfold MsgContext.data_frame at hshort
      dsimp only at hshort
      split at hshort
      · rw [BitVec.and_or_distrib_right] at hshort
        have hrtr : CAN_RTR_FLAG &&& CAN_EFF_FLAG = 0#32 := by decide
        rwa [hrtr, BitVec.or_zero] at hshort
      · exact hshort
    have hlong : ¬ status_len &&& PCAN_USB_STATUSLEN_EXT_ID ≠ 0 := by
      intro hext
      unfold MsgContext.can_id at hid
      rw [if_pos hext] at hid
      -- the long form sets the flag
      have hbit := congrArg (·.getLsbD 31) hid
      simp [CAN_EFF_FLAG] at hbit
    have hcan_id : ctx.can_id status_len
        = (le16 (ctx.peek 0) (ctx.peek 1)).setWidth 32 >>> 5 := by
      unfold MsgContext.can_id
      rw [if_neg hlong]
    have hmask : (ctx.data_frame status_len).can_id &&& CAN_EFF_MASK
        = ctx.can_id status_len &&& CAN_EFF_MASK := by
      unfold MsgContext.data_frame
      dsimp only
      split
      · have hrtr : CAN_RTR_FLAG &&& CAN_EFF_MASK = 0#32 := by decide
        rw [BitVec.and_or_distrib_right, hrtr, BitVec.or_zero]
      · rfl
    unfold CanFrame.id
    rw [hmask, hcan_id]
    exact (toNat_and_le _ _).trans_lt (short_id_lt ctx)

/-! ## The readers' copies -/

/-- Length of `data` in `pcan_ioctl_wr_msg_t`. -/
def PCAN_MSG_DATA_LEN : ℕ := 8

/-- Length of `data` in `pcanfd_ioctl_msg_t`. -/
def PCANFD_MSG_DATA_LEN : ℕ := 64

/-- `pcan_ioctl_rd_msg_t`, on the stack of `ioctl_read_msg`. -/
structure PcanRdMsg where
  id : u32
  type : u8
  len : u8
  data : ℕ → u8
  time_msecs : u32
  remainder_usecs : u16

/-- What `ioctl_read_msg` writes there, on a 64-bit machine. -/
def PcanRdMsg.receive (rx_msg : ChardevMsg) (msg : PcanRdMsg) : PcanRdMsg :=
  let frame := rx_msg.frame
  let hardware_timestamp := rx_msg.hwtstamp
  let time_msecs : u32 := BitVec.ofInt 32 (hardware_timestamp.tdiv 1000000)
  { id := frame.can_id
    type := get_msgtype_from_canid frame.can_id
    len := frame.can_dlc
    data := fun i => if i < frame.can_dlc.toNat then frame.data.toList.getD i 0 else msg.data i
    time_msecs := time_msecs
    -- the product is the one of a `u32`
    remainder_usecs :=
      BitVec.ofInt 16 (hardware_timestamp.tdiv 1000 - (time_msecs * 1000).toNat) }

/-- Both copies read `frame.data` inside, and write nothing behind their own `data`. -/
structure ChardevMsg.CopiesInside (rx_msg : ChardevMsg) : Prop where
  source : rx_msg.frame.can_dlc.toNat ≤ 8
  rd_msg : ∀ (msg : PcanRdMsg) (i : ℕ), PCAN_MSG_DATA_LEN ≤ i →
    (msg.receive rx_msg).data i = msg.data i
  fd_msg : ∀ (base : TimeBase) (m : PcanfdMsg) (i : ℕ), PCANFD_MSG_DATA_LEN ≤ i →
    (m.receive base rx_msg).data i = m.data i

/-- A proper frame is copied without leaving its array or theirs. -/
theorem CanFrame.WellFormed.copiesInside {rx_msg : ChardevMsg} (h : rx_msg.frame.WellFormed) :
    rx_msg.CopiesInside where
  source := h.dlc_le
  rd_msg msg i hi := if_neg (not_lt.mpr (h.dlc_le.trans hi))
  fd_msg base m i hi :=
    if_neg (not_lt.mpr (h.dlc_le.trans ((by decide : 8 ≤ PCANFD_MSG_DATA_LEN).trans hi)))

/-! ## The contents of the ring -/

/-- What a completion in progress has in hand: a sample that is no good for storing, or one
that is still good, and a proper frame once the slot is filled. -/
def Producer.Sound (dev : Chardev) : Producer → Prop
  | .idle => True
  | .sampled sample => sample.chardev_msg = none ∨ sample.Good dev
  | .filled sample msg => msg.frame.WellFormed
    ∧ (sample.chardev_msg = none
      ∨ sample.Good dev ∧ ∀ idx, sample.chardev_msg = some idx → dev.rx_msgs idx = msg)

/-- Whatever keeps samples good and the slots as they are keeps this. -/
theorem Producer.Sound.mono {dev dev' : Chardev} {producer : Producer}
    (h : producer.Sound dev) (hgood : ∀ sample : RxSample, sample.Good dev → sample.Good dev')
    (hmsgs : dev'.rx_msgs = dev.rx_msgs) : producer.Sound dev' := by
  cases producer with
  | idle => trivial
  | sampled sample => exact h.imp_right (hgood sample)
  | filled sample msg =>
    refine ⟨h.1, h.2.imp_right fun ⟨hok, hslot⟩ => ⟨hgood sample hok, ?_⟩⟩
    rwa [hmsgs]

/-- The unread slots hold proper frames. -/
structure Contents (dev : Chardev) (producer : Producer) : Prop where
  count_range : 0 ≤ dev.rx_unread_cnt ∧ dev.rx_unread_cnt ≤ 8
  idx_range : 0 ≤ dev.rx_write_idx ∧ dev.rx_write_idx < 8
  unread : ∀ msg ∈ dev.unread_msgs, msg.frame.WellFormed
  producer_sound : producer.Sound dev

/-- The ring is the same: its slots, and what counts them. -/
structure SameRing (dev dev' : Chardev) : Prop where
  msgs_eq : dev'.rx_msgs = dev.rx_msgs
  idx_eq : dev'.rx_write_idx = dev.rx_write_idx
  count_eq : dev'.rx_unread_cnt = dev.rx_unread_cnt

/-- The contents are a matter of the ring alone. -/
theorem Contents.same {dev dev' : Chardev} {producer : Producer} (h : Contents dev producer)
    (hsame : SameRing dev dev') : Contents dev' producer := by
  obtain ⟨hcount, hidx, hunread, hsound⟩ := h
  obtain ⟨hmsgs, hi, hc⟩ := hsame
  have hgood : ∀ sample : RxSample, sample.Good dev → sample.Good dev' := by
    intro sample hgood
    exact ⟨hgood.nonneg, hgood.idx_range, by rw [hc]; exact hgood.count_le,
      by rw [hi, hc]; exact hgood.idx_eq⟩
  refine ⟨hc ▸ hcount, hi ▸ hidx, ?_, ?_⟩
  · unfold Chardev.unread_msgs at hunread ⊢
    rwa [hmsgs, hi, hc]
  · exact hsound.mono hgood hmsgs

/-- An open empties the ring; a sample from before is still good then. -/
theorem Contents.reset {dev dev' : Chardev} {producer : Producer} (h : Contents dev producer)
    (hmsgs : dev'.rx_msgs = dev.rx_msgs) (hidx : dev'.rx_write_idx = 0)
    (hcount : dev'.rx_unread_cnt = 0) : Contents dev' producer := by
  have hgood : ∀ sample : RxSample, sample.Good dev → sample.Good dev' := by
    intro sample hgood
    exact ⟨hgood.nonneg, hgood.idx_range, hcount ▸ hgood.nonneg, .inr hcount⟩
  have hsound := h.producer_sound
  refine ⟨by rw [hcount]; decide, by rw [hidx]; decide, ?_, ?_⟩
  · unfold Chardev.unread_msgs
    rw [hcount]
    exact fun msg hmem => absurd hmem (List.not_mem_nil)
  · exact hsound.mono hgood hmsgs

/-- A reader takes proper frames, and leaves proper frames. -/
theorem Contents.take {dev : Chardev} {producer : Producer}
    {result : Except Int (List ChardevMsg) × Chardev} (h : Contents dev producer)
    (htake : TakesFront dev result) :
    Contents result.2 producer
      ∧ ∀ msgs, result.1 = .ok msgs → ∀ msg ∈ msgs, msg.frame.WellFormed := by
  obtain ⟨hcount, hidx, hunread, hsound⟩ := h
  obtain ⟨hmsgs, hi, -, hrange, heq⟩ := id htake
  rw [heq] at hunread
  have hgood : ∀ sample : RxSample, sample.Good dev → sample.Good result.2 :=
    fun sample hgood => hgood.of_takesFront htake
  refine ⟨⟨⟨hrange.1, hrange.2.trans hcount.2⟩, hi ▸ hidx,
    fun msg hmem => hunread msg (List.mem_append_right _ hmem), ?_⟩, fun msgs hok msg hmem => ?_⟩
  · exact hsound.mono hgood hmsgs
  · rw [hok] at hunread
    exact hunread msg (List.mem_append_left _ hmem)

/-! ### `decode_data` -/

/-- Looking at the counters changes no slot. -/
theorem Contents.sample {dev : Chardev} {producer : Producer} (h : Contents dev producer) :
    Contents dev (.sampled (decode_data_sample dev)) := by
  refine ⟨h.count_range, h.idx_range, h.unread, ?_⟩
  by_cases hclosed : dev.open_count < 1
  · left
    unfold decode_data_sample
    rw [if_pos hclosed]
    rfl
  · right
    have heq : decode_data_sample dev = ⟨dev.rx_unread_cnt, dev.rx_write_idx⟩ := by
      rw [decode_data_sample, if_neg hclosed]
    rw [heq]
    exact ⟨h.count_range.1, h.idx_range, le_rfl, .inl rfl⟩

/-- A record that is accepted fills its slot with a proper frame. -/
theorem DataFill.wellFormed {env : Env} {sample : RxSample} {status_len : u8}
    {ctx ctx' : MsgContext} {s s' : RxState} {msg : ChardevMsg}
    (h : DataFill env sample status_len ctx s (.ok msg) ctx' s') : msg.frame.WellFormed := by
  cases h with
  | skb_fits => exact data_frame_wellFormed status_len ctx
  | slot_fits => exact data_frame_wellFormed status_len ctx

/-- A slot half written is not among the unread ones, and a filled one holds the frame. -/
theorem Contents.fill {env : Env} {sample : RxSample} {status_len : u8} {ctx ctx' : MsgContext}
    {s s' : RxState} {result : Except Int ChardevMsg}
    (h : Contents s.fwd.char_dev (.sampled sample))
    (hfill : DataFill env sample status_len ctx s result ctx' s') :
    Contents s'.fwd.char_dev .idle
      ∧ ∀ msg, result = .ok msg → Contents s'.fwd.char_dev (.filled sample msg) := by
  obtain ⟨hcount, hidx, hunread, hsound⟩ := h
  rcases hsound with hnone | hgood
  · -- without a slot the ring is not touched
    have hdev : s'.fwd.char_dev = s.fwd.char_dev := by
      rcases hfill.ring with ⟨hdev, -⟩ | ⟨idx, msg, hslot, -⟩
      · exact hdev
      · rw [hnone] at hslot
        cases hslot
    rw [hdev]
    refine ⟨⟨hcount, hidx, hunread, trivial⟩, fun msg hok => ⟨hcount, hidx, hunread, ?_, .inl hnone⟩⟩
    subst hok
    exact hfill.wellFormed
  · obtain ⟨hcnt, hw, -, hsame, hmsg⟩ := fill_keeps hfill hgood hidx
    have hgood' : sample.Good s'.fwd.char_dev :=
      ⟨hgood.nonneg, hgood.idx_range, by rw [hcnt]; exact hgood.count_le,
        by rw [hcnt, hw]; exact hgood.idx_eq⟩
    rw [← hsame] at hunread
    refine ⟨⟨hcnt ▸ hcount, hw ▸ hidx, hunread, trivial⟩,
      fun msg hok => ⟨hcnt ▸ hcount, hw ▸ hidx, hunread, ?_, .inr ⟨hgood', hmsg msg hok⟩⟩⟩
    subst hok
    exact hfill.wellFormed

/-- Counting the message makes it one of the unread. -/
theorem Contents.commit {dev : Chardev} {sample : RxSample} {msg : ChardevMsg}
    (h : Contents dev (.filled sample msg)) : Contents (decode_data_commit sample dev) .idle := by
  obtain ⟨hcount, hidx, hunread, hframe, hsound⟩ := h
  have hcnt := commit_unread sample dev
  cases hslot : sample.chardev_msg with
  | none =>
    have hdev : decode_data_commit sample dev = dev := by
      rw [decode_data_commit, hslot]
    rw [hdev]
    exact ⟨hcount, hidx, hunread, trivial⟩
  | some idx =>
    obtain ⟨hgood, hmsg⟩ := hsound.resolve_left (by rw [hslot]; exact Option.some_ne_none idx)
    rw [hslot, Option.isSome_some, if_pos rfl] at hcnt
    have hroom : sample.unread_count < 8 := by
      by_contra hfull
      rw [chardev_msg_eq hgood.nonneg, if_neg hfull] at hslot
      cases hslot
    have hle := hgood.count_le
    refine ⟨by rw [hcnt]; omega, commit_idx_range hgood hidx, ?_, trivial⟩
    rw [unread_msgs_commit hgood hcount.1 hslot, hmsg idx hslot]
    intro msg' hmem
    rcases List.mem_append.mp hmem with hold | hnew
    · exact hunread msg' hold
    · rw [List.mem_singleton.mp hnew]
      exact hframe

/-- The three parts of `decode_data`, one after the other. -/
theorem Contents.decode_data (env : Env) (status_len : u8) (ctx : MsgContext) (s : RxState)
    (h : Contents s.fwd.char_dev .idle) :
    Contents (decode_data env status_len ctx s).2.2.fwd.char_dev .idle := by
  have hcases := decode_data_fill_cases env (decode_data_sample s.fwd.char_dev) status_len ctx s
  have hfill := h.sample.fill hcases
  unfold DualPcanUsb.decode_data
  dsimp only
  generalize decode_data_fill env (decode_data_sample s.fwd.char_dev) status_len ctx s = filled
    at hfill
  obtain ⟨_ | msg, ctx', s'⟩ := filled
  · exact hfill.1
  · exact (hfill.2 msg rfl).commit

/-- Only data records touch the ring. -/
theorem Contents.decode_record (env : Env) (ctx : MsgContext) (s : RxState)
    (h : Contents s.fwd.char_dev .idle) :
    Contents (decode_record env ctx s).2.2.fwd.char_dev .idle := by
  unfold DualPcanUsb.decode_record
  dsimp only
  split
  · rw [decode_status_char_dev]
    exact h
  · exact h.decode_data env _ _ s

/-- The loop, by its fuel. -/
theorem Contents.decode_records (env : Env) (fuel : ℕ) : ∀ (err : Int) (ctx : MsgContext)
    (s : RxState), Contents s.fwd.char_dev .idle →
      Contents (decode_records env fuel err ctx s).2.2.fwd.char_dev .idle := by
  induction fuel with
  | zero => exact fun _ _ s h => h
  | succ fuel ih =>
    intro err ctx s h
    rw [DualPcanUsb.decode_records]
    split
    · exact ih _ _ _ (h.decode_record env ctx s)
    · exact h

/-- A packet leaves proper frames in the ring. -/
theorem Contents.handle_urb (env : Env) (transfer_buffer : ℕ → u8) (actual_length : ℕ)
    (s : RxState) (h : Contents s.fwd.char_dev .idle) :
    Contents (pcan_decode_and_handle_urb env transfer_buffer actual_length s).2.fwd.char_dev
      .idle := by
  unfold pcan_decode_and_handle_urb
  split
  · exact h.decode_records env _ _ _ s
  split
  · exact h
  · exact h

/-! ## The machine -/

/-- A device, and the completion in progress on its ring. -/
structure RingDevice where
  dev : Device
  producer : Producer

/-- Operations of the interfaces and whole completions, and single steps on the ring. -/
inductive RingDeviceAction
  | operate (action : DeviceAction)
  | ring (action : RingAction)

def RingDevice.char_dev (st : RingDevice) : Chardev := st.dev.char_dev

/-- The ring's machine, with nothing accepted or taken yet. -/
def RingDevice.ring (st : RingDevice) : RingState := ⟨st.dev.rx, st.producer, [], []⟩

/-- A completion runs through only if none is in progress. -/
def RingDevice.step (st : RingDevice) : RingDeviceAction → Option RingDevice
  | .operate (.complete env urb submit_err) =>
    match st.producer with
    | .idle => (st.dev.step (.complete env urb submit_err)).map (⟨·, .idle⟩)
    | _ => none
  | .operate action => (st.dev.step action).map (⟨·, st.producer⟩)
  | .ring action =>
    (st.ring.step action).map fun ring => ⟨{ st.dev with rx := ring.rx }, ring.producer⟩

/-- The messages a step hands to a reader. -/
def RingDevice.taken (st : RingDevice) : RingDeviceAction → List ChardevMsg
  | .operate _ => []
  | .ring action =>
    match st.ring.step action with
    | some ring => ring.taken
    | none => []

/-! ### Operations -/

/-- Opening and closing leave the contents, or empty them. -/
theorem operate_ring {sent : Int} {iface : Iface} {d d' : Device} {phase phase' : Phase}
    (h : d.operate iface sent phase = some (phase', d')) {producer : Producer}
    (hc : Contents d.char_dev producer) : Contents d'.char_dev producer := by
  -- either the counters are as they were, or an open has cleared them
  have hcounters : ∀ {dev dev' : Chardev}, dev'.counters = dev.counters →
      dev'.rx_msgs = dev.rx_msgs → SameRing dev dev' := by
    intro dev dev' hcnt hmsgs
    simp only [Chardev.counters, Prod.mk.injEq] at hcnt
    exact ⟨hmsgs, hcnt.1, hcnt.2.1⟩
  cases iface with
  | netdev =>
    have hdev := operate_netdev_char_dev h
    rw [hdev]
    exact hc
  | chardev =>
    cases operate_counted h with
    | turned_away _ _ _ _ hring hmsgs => exact hc.same (hcounters hring hmsgs)
    | let_in _ _ _ _ hring hmsgs =>
      simp only [Chardev.counters, Prod.mk.injEq] at hring
      exact hc.reset hmsgs hring.1 hring.2.1
    | leave _ _ _ _ hring hmsgs => exact hc.same (hcounters hring hmsgs)
    | aside haside =>
      rw [haside.char_dev_eq]
      exact hc

/-- A completion leaves what its packet leaves. -/
theorem completion_contents (env : Env) (urb : Urb) (submit_err : Int) (d : Device)
    (hc : Contents d.char_dev .idle) :
    Contents (usb_read_bulk_callback env urb submit_err d).char_dev .idle := by
  have hresubmit : ∀ d : Device, (d.resubmit_urb submit_err).char_dev = d.char_dev := by
    intro d
    unfold Device.resubmit_urb
    split
    · rfl
    split
    · rfl
    · rfl
  unfold usb_read_bulk_callback
  split
  · exact hc
  split
  · dsimp only
    rw [hresubmit]
    split
    · exact hc.handle_urb env urb.transfer_buffer urb.actual_length d.rx
    · exact hc
  split
  · exact hc
  · rw [hresubmit]
    exact hc

/-- An operation on the device, by its kind. -/
theorem operation_contents {d d' : Device} {action : DeviceAction} {producer : Producer}
    (hidle : ∀ env urb submit_err, action = .complete env urb submit_err → producer = .idle)
    (hc : Contents d.char_dev producer) (h : d.step action = some d') :
    Contents d'.char_dev producer := by
  cases step_cases h with
  | open_chardev => exact hc
  | open_netdev => exact hc
  | close_chardev => exact hc
  | close_netdev => exact hc
  | advance i sent iface phase phase' d₁ hproc hop => exact operate_ring hop hc
  | complete env urb submit_err hsubmitted =>
    obtain rfl := hidle env urb submit_err rfl
    exact completion_contents env urb submit_err _ hc

/-! ### Steps on the ring -/

/-- What a reader takes were proper frames, and what stays are. -/
theorem take_out_contents {st : RingState} (hc : Contents st.dev st.producer)
    (htaken : st.taken = []) {section_ : Chardev → Except Int (List ChardevMsg) × Chardev}
    (htake : TakesFront st.dev (section_ st.dev)) :
    Contents (st.take_out section_).dev (st.take_out section_).producer
      ∧ ∀ msg ∈ (st.take_out section_).taken, msg.frame.WellFormed := by
  obtain ⟨hleft, hmsgs⟩ := hc.take htake
  unfold RingState.take_out
  generalize section_ st.dev = result at hleft hmsgs
  obtain ⟨outcome, dev⟩ := result
  cases outcome with
  | error err =>
    refine ⟨hleft, fun msg hmem => ?_⟩
    rw [show (st.set_dev dev).taken = [] from htaken] at hmem
    cases hmem
  | ok msgs =>
    refine ⟨hleft, fun msg hmem => hmsgs msgs rfl msg ?_⟩
    dsimp only at hmem
    rwa [htaken] at hmem

/-- Each step on the ring, producers' and readers'. -/
theorem ring_contents {st st' : RingState} {action : RingAction}
    (hc : Contents st.dev st.producer) (htaken : st.taken = [])
    (h : st.step action = some st') :
    Contents st'.dev st'.producer ∧ ∀ msg ∈ st'.taken, msg.frame.WellFormed := by
  have hnothing : ∀ st' : RingState, st'.taken = st.taken →
      ∀ msg ∈ st'.taken, msg.frame.WellFormed := by
    intro st' hsame msg hmem
    rw [hsame, htaken] at hmem
    cases hmem
  cases action with
  | sample =>
    rw [RingState.step] at h
    split at h
    · cases h
      exact ⟨hc.sample, hnothing _ rfl⟩
    · cases h
  | fill env status_len ctx =>
    rw [RingState.step] at h
    split at h
    · rename_i sample hsampled
      rw [hsampled] at hc
      have hfill := decode_data_fill_cases env sample status_len ctx st.rx
      generalize decode_data_fill env sample status_len ctx st.rx = filled at h hfill
      obtain ⟨result, ctx', rx⟩ := filled
      obtain ⟨hfailed, hok⟩ := Contents.fill hc hfill
      cases result with
      | error err =>
        cases h
        exact ⟨hfailed, hnothing _ rfl⟩
      | ok msg =>
        cases h
        exact ⟨hok msg rfl, hnothing _ rfl⟩
    · cases h
  | commit =>
    rw [RingState.step] at h
    split at h
    · rename_i sample msg hfilled
      rw [hfilled] at hc
      cases h
      exact ⟨hc.commit, hnothing _ rfl⟩
    · cases h
  | read count =>
    rw [RingState.step] at h
    obtain ⟨hlong, heq⟩ := Option.ite_none_right_eq_some.mp h
    cases heq
    refine take_out_contents hc htaken (read_section_takesFront ?_ hc.count_range hc.idx_range)
    change 0 ≤ ((count / 80 : ℕ) : Int) + if count % 80 ≠ 0 then 0 else -1
    have hbytes : (80 : Int) < count := hlong
    split <;> omega
  | read_msg =>
    cases h
    exact take_out_contents hc htaken
      (read_section_takesFront (by decide) hc.count_range hc.idx_range)
  | fd_recv_msgs count =>
    rw [RingState.step] at h
    obtain ⟨-, heq⟩ := Option.ite_none_right_eq_some.mp h
    cases heq
    exact take_out_contents hc htaken
      (read_section_takesFront (Int.natCast_nonneg _) hc.count_range hc.idx_range)
  | elsewhere fwd =>
    cases h
    exact ⟨hc, hnothing _ rfl⟩

/-! ### Runs -/

def RingDevice.Proper (st : RingDevice) : Prop := Contents st.char_dev st.producer

/-- Both kinds of step together. -/
theorem proper_step (st : RingDevice) (action : RingDeviceAction) (st' : RingDevice)
    (hc : st.Proper) (h : st.step action = some st') : st'.Proper := by
  cases action with
  | ring action =>
    obtain ⟨ring, hring, rfl⟩ := Option.map_eq_some_iff.mp h
    exact (@ring_contents st.ring ring action hc rfl hring).1
  | operate action =>
    cases action with
    | complete env urb submit_err =>
      rw [RingDevice.step] at h
      split at h
      · rename_i hidle
        obtain ⟨d, hd, rfl⟩ := Option.map_eq_some_iff.mp h
        rw [RingDevice.Proper, hidle] at hc
        exact operation_contents (fun _ _ _ _ => rfl) hc hd
      · cases h
    | open_ iface =>
      obtain ⟨d, hd, rfl⟩ := Option.map_eq_some_iff.mp h
      exact operation_contents (fun _ _ _ hact => by cases hact) hc hd
    | close i =>
      obtain ⟨d, hd, rfl⟩ := Option.map_eq_some_iff.mp h
      exact operation_contents (fun _ _ _ hact => by cases hact) hc hd
    | advance i sent =>
      obtain ⟨d, hd, rfl⟩ := Option.map_eq_some_iff.mp h
      exact operation_contents (fun _ _ _ hact => by cases hact) hc hd

/-- Behind `pcan_usb_plugin`, which allocates the ring zeroed, with no completion yet. -/
structure RingDevice.Fresh (st : RingDevice) : Prop where
  rx_write_idx_eq : st.char_dev.rx_write_idx = 0
  rx_unread_cnt_eq : st.char_dev.rx_unread_cnt = 0
  producer_eq : st.producer = .idle

/-- A device just plugged in has an empty ring. -/
theorem RingDevice.Fresh.proper {st : RingDevice} (h : st.Fresh) : st.Proper := by
  obtain ⟨hidx, hcount, hidle⟩ := h
  rw [RingDevice.Proper, hidle]
  refine ⟨by rw [hcount]; decide, by rw [hidx]; decide, ?_, trivial⟩
  unfold Chardev.unread_msgs
  rw [hcount]
  exact fun msg hmem => absurd hmem List.not_mem_nil

/-- Whatever packets come, and however opens, releases and reads interleave with them, the
unread slots hold proper frames, and so does what the readers take; their copies of it stay
inside. -/
theorem unread_messages_well_formed (st₀ st : RingDevice) (actions : List RingDeviceAction)
    (hfresh : st₀.Fresh) (hrun : Runs.run RingDevice.step st₀ actions = some st) :
    (∀ msg ∈ st.char_dev.unread_msgs, msg.frame.WellFormed)
      ∧ ∀ action, ∀ msg ∈ st.taken action, msg.frame.WellFormed ∧ msg.CopiesInside := by
  have hc : Contents st.char_dev st.producer :=
    Runs.run_invariant RingDevice.step proper_step hfresh.proper hrun
  refine ⟨hc.unread, fun action msg hmem => ?_⟩
  cases action with
  | operate action => cases hmem
  | ring action =>
    rw [RingDevice.taken] at hmem
    split at hmem
    · rename_i ring hring
      have hframe := (@ring_contents st.ring ring action hc rfl hring).2 msg hmem
      exact ⟨hframe, hframe.copiesInside⟩
    · cases hmem

/-- A file is opened; a remote record with fifteen in its length nibble comes in, and one cut
short, which spoils the slot behind it. -/
def long_remote_record : List RingDeviceAction :=
  [.operate (.open_ .chardev), .operate (.advance 0 0), .operate (.advance 0 0),
    .ring .sample, .ring (.fill Env.plenty 0x1f (MsgContext.start (fun _ => 0xff) 40)),
    .ring .commit,
    .ring .sample, .ring (.fill Env.plenty 0x0f (MsgContext.start (fun _ => 0xff) 12))]

theorem unread_messages_well_formed_long_remote_record :
    ∃ st, Runs.run RingDevice.step ⟨Device.plugged 8, .idle⟩ long_remote_record = some st
      ∧ st.char_dev.rx_unread_cnt = 1
      ∧ (∀ msg ∈ st.char_dev.unread_msgs, msg.frame.WellFormed)
      ∧ ∀ msg ∈ st.taken (.ring .read_msg), msg.CopiesInside := by
  obtain ⟨st, hrun, hcount⟩ :
      ∃ st, Runs.run RingDevice.step ⟨Device.plugged 8, .idle⟩ long_remote_record = some st
        ∧ st.char_dev.rx_unread_cnt = 1 :=
    Runs.exists_run_of_any RingDevice.step (by decide)
  obtain ⟨hunread, htaken⟩ :=
    unread_messages_well_formed ⟨Device.plugged 8, .idle⟩ st long_remote_record ⟨rfl, rfl, rfl⟩ hrun
  exact ⟨st, hrun, hcount, hunread, fun msg hmem => (htaken _ msg hmem).2⟩

end DualPcanUsb
