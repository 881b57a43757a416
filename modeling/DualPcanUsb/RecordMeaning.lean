/-
What the records of a packet mean, and that the decoder acts on nothing else.

`Record.run` is the effect of a record on the driver in closed form: the counters, the
ring, the clock and the trace are given outright, and no cursor is left in it. The decoder
interleaves parsing and acting, and the main result is that it might as well not:
`decode_incoming_buf` is `packet_records` followed by `run_records`, for every packet, driver
and kernel.
-/
import DualPcanUsb.PacketRecords
import DualPcanUsb.NetIsolation

set_option autoImplicit false

namespace DualPcanUsb

open LittleEndian

/-! ## Effects -/

/-- The counters of a frame handed to the network stack. -/
def NetStats.count (stats : NetStats) (frame : CanFrame) : NetStats :=
  { stats with
    rx_packets := stats.rx_packets + 1
    rx_bytes := stats.rx_bytes + frame.can_dlc.setWidth 64 }

/-- The ring takes the message if the sample found a slot for it. -/
def Chardev.offer (dev : Chardev) (sample : RxSample) (msg : ChardevMsg) : Chardev :=
  match sample.chardev_msg with
  | none => dev
  | some idx => decode_data_commit sample (dev.set_slot idx msg)

/-- The error of a device that takes no message. -/
def RxSample.refusal (sample : RxSample) : Int :=
  if sample.unread_count < 0 then sample.unread_count else -ENOBUFS

/-- The clock readings once the time of a tick has been asked for. -/
def RxState.clocks_after (s : RxState) : ℕ :=
  if s.fwd.time_ref.tv_host > 0 then s.clocks else s.clocks + 1

/-- A data record goes to the network stack and the ring, or to the ring alone. -/
def run_data (env : Env) (frame : CanFrame) (ts16 : u16) (s : RxState) : Int × RxState :=
  let sample := decode_data_sample s.fwd.char_dev
  let msg := message_of env ts16 frame s
  let char_dev := s.fwd.char_dev.offer sample msg
  if s.fwd.netif_running then
    match env.alloc_can_skb s.skbs with
    | none => (-ENOMEM, { s with skbs := s.skbs + 1 })
    | some _ =>
      (0, { fwd := { s.fwd with stats := s.fwd.stats.count frame, char_dev := char_dev }
            skbs := s.skbs + 1
            clocks := s.clocks_after
            trace := s.trace ++ ([.alloc_can_skb s.skbs] ++ List.replicate 3 (.access s.skbs)
              ++ posted_events s.skbs ts16 msg sample.chardev_msg) })
  else if sample.chardev_msg.isSome then
    (0, { fwd := { s.fwd with char_dev := char_dev }
          skbs := s.skbs
          clocks := s.clocks_after
          trace := s.trace ++ [.compute_kernel_time ts16] })
  else (sample.refusal, s)

/-- The stores through the frame pointer before the record breaks off. -/
def Torn.stores (frame : CanFrame) : Torn → List CanFrame
  | .at_id => []
  | .at_timestamp can_id can_dlc => [{ frame with can_id := can_id, can_dlc := can_dlc }]
  | .at_payload can_id can_dlc =>
    [{ frame with can_id := can_id, can_dlc := can_dlc },
      ⟨can_id, can_dlc, Vector.replicate 8 0⟩]

/-- A torn data record: the buffer is freed again, or a free slot is left half written. -/
def run_torn (env : Env) (cut : Torn) (s : RxState) : Int × RxState :=
  let sample := decode_data_sample s.fwd.char_dev
  let frame := (s.fwd.char_dev.rx_msgs sample.rx_write_idx).frame
  if s.fwd.netif_running then
    match env.alloc_can_skb s.skbs with
    | none => (-ENOMEM, { s with skbs := s.skbs + 1 })
    | some frame =>
      (-EINVAL, s.with_skb.log
        (List.replicate (cut.stores frame).length (.access s.skbs) ++ [.dev_kfree_skb s.skbs]))
  else if sample.chardev_msg.isSome then
    (-EINVAL, s.store_frames (.slot sample.rx_write_idx) (cut.stores frame))
  else (sample.refusal, s)

/-- The events of a report, from its allocation on. -/
def report_events (skb : ℕ) (new_state : CanState) (stamp : Option (u16 × ktime_t))
    (frame : CanFrame) : List Event :=
  [.alloc_can_skb skb, .access skb] ++ (if new_state = .BUS_OFF then [.can_bus_off] else [])
    ++ (match stamp with
      | none => [.netif_rx skb .status frame none]
      | some (ts16, now) =>
        [.compute_kernel_time ts16, .access skb, .netif_rx skb .status frame (some now)])
    ++ [.access skb]

/-- The change of state an error record reports, in the buffer's `frame`. -/
def report (env : Env) (new_state : CanState) (stamp : Option u16) (frame : CanFrame)
    (s : RxState) : RxState :=
  let frame := error_frame new_state frame
  let fwd := error_account new_state s.fwd
  { fwd := { fwd with stats := fwd.stats.count frame }
    skbs := s.skbs + 1
    clocks := if stamp.isSome then s.clocks_after else s.clocks
    trace := s.trace ++ report_events s.skbs new_state
      (stamp.map fun ts16 => (ts16, (kernel_time env ts16 s).1)) frame }

def run_error (env : Env) (number : u8) (stamp : Option u16) (s : RxState) : Int × RxState :=
  match error_verdict s.fwd.netif_running s.fwd.time_ref.tick_count s.fwd.can_state number with
  | .ignore => (0, s)
  | .back_to_active => (0, { s with fwd := { s.fwd with can_state := .ERROR_ACTIVE } })
  | .new_state new_state =>
    match env.alloc_can_skb s.skbs with
    | none => (-ENOMEM, { s with skbs := s.skbs + 1 })
    | some frame => (0, report env new_state stamp frame s)

/-- A tick the device sent for itself. In the first record it sets the reference or counts a
pass, in any other it adds to it. -/
def run_timestamp (env : Env) (ts16 : u16) (first : Bool) (s : RxState) : RxState :=
  if first then
    { s with
      fwd := { s.fwd with time_ref :=
        set_time_reference (env.ktime_get s.clocks) (ts16.setWidth 32) s.fwd.time_ref }
      clocks := if set_reads_clock s.fwd.time_ref then s.clocks + 1 else s.clocks }
  else
    { s with fwd := { s.fwd with
      time_ref := update_time_reference (ts16.setWidth 32) s.fwd.time_ref } }

/-- The body is looked for last, and only once nothing else has failed. -/
def then_body (whole : Bool) (result : Int × RxState) : Int × RxState :=
  if result.1 ≠ 0 then result else (if whole then 0 else -EINVAL, result.2)

/-- What a record does to the driver, and what the decoder returns if it is the last. -/
def Record.run (env : Env) : Record → RxState → Int × RxState
  | .data frame ts16, s => run_data env frame ts16 s
  | .torn cut, s => run_torn env cut s
  | .malformed, s => (-EINVAL, s)
  | .error number stamp whole, s => then_body whole (run_error env number stamp s)
  | .timestamp ts16 first whole, s => then_body whole (0, run_timestamp env ts16 first s)
  | .other whole, s => then_body whole (0, s)

/-- A row of records, up to the first that fails. -/
def run_records (env : Env) : List Record → RxState → Int × RxState
  | [], s => (0, s)
  | record :: records, s =>
    if (record.run env s).1 = 0 then run_records env records (record.run env s).2
    else record.run env s

/-! ## The decoder's result -/

theorem EINVAL_ne : -EINVAL ≠ 0 := by decide

theorem ENOMEM_ne : -ENOMEM ≠ 0 := by decide

/-- The decoder did what the record means, and a record it got past is behind its cursor. -/
structure Means (env : Env) (s : RxState) (read : Record × MsgContext)
    (result : Int × MsgContext × RxState) : Prop where
  err_eq : result.1 = (read.1.run env s).1
  state_eq : result.2.2 = (read.1.run env s).2
  cursor_eq : result.1 = 0 → result.2.1 = read.2

/-! ## Data records -/

/-- Stores into a socket buffer are accesses, in front of what is logged next. -/
theorem store_frames_skb_log (s : RxState) (skb : ℕ) (frames : List CanFrame)
    (events : List Event) :
    (s.store_frames (.skb skb) frames).log events
      = s.log (List.replicate frames.length (.access skb) ++ events) := by
  rw [store_frames_skb, log_log]

/-- A data record that does not fit stores what `torn` says and no more. -/
theorem decode_frame_of_torn (home : FrameHome) (status_len : u8) (frame : CanFrame)
    (ctx : MsgContext) (s : RxState)
    (h : ¬ ctx.ptr + data_len status_len (ctx.rec_data_idx = 0) ≤ ctx.end_) :
    ∃ ctx', decode_frame home status_len frame ctx s
      = (none, ctx', s.store_frames home ((ctx.torn status_len).stores frame)) := by
  unfold data_len at h
  unfold decode_frame MsgContext.torn
  by_cases hid : ctx.end_ < ctx.ptr + id_width status_len
  · rw [decode_can_id_of_short status_len ctx hid, if_pos hid]
    exact ⟨ctx, rfl⟩
  have htake := take_advanced ctx (id_width status_len) (Nat.le_of_not_lt hid)
  rw [decode_can_id_of_fits status_len ctx (Nat.le_of_not_lt hid), if_neg hid]
  dsimp only
  rw [show (ctx.take (id_width status_len) (id_width status_len)).rec_data_idx
    = ctx.rec_data_idx from rfl]
  by_cases hts : ctx.end_ < ctx.ptr + id_width status_len + ts_width (ctx.rec_data_idx = 0)
  · rw [decode_timestamp_of_short _ _ hts, if_pos hts]
    exact ⟨_, rfl⟩
  rw [decode_timestamp_of_fits _ _ (Nat.le_of_not_lt hts), if_neg hts]
  dsimp only
  -- id and timestamp are there, so the payload is not, and the frame is no remote one
  have hpayload : ctx.end_ < ctx.ptr + id_width status_len
      + ts_width (ctx.rec_data_idx = 0) + payload_len status_len := by omega
  have hrtr : ¬ status_len &&& PCAN_USB_STATUSLEN_RTR ≠ 0 := by
    intro hrtr
    rw [payload_len, if_pos hrtr] at hpayload
    omega
  rw [payload_len, if_neg hrtr] at hpayload
  rw [if_neg (by decide), if_neg hrtr, if_pos]
  · exact ⟨_, rfl⟩
  · rw [(htake.trans (stamp_advanced (ctx.rec_data_idx = 0) _ (Nat.le_of_not_lt hts))).end_eq,
      stamp_ptr]
    exact hpayload

/-- The end of a record in a socket buffer, with all it does. -/
theorem finish_data_skb_eq (env : Env) (sample : RxSample) (skb : ℕ) (frame : CanFrame)
    (ctx : MsgContext) (s : RxState) :
    ∃ s', finish_data env sample (.skb skb) frame ctx s = (message_of env ctx.ts16 frame s, s')
      ∧ ({ s' with fwd := { s'.fwd with
            char_dev := decode_data_commit sample s'.fwd.char_dev } } : RxState)
        = { fwd := { s.fwd with
              stats := s.fwd.stats.count frame
              char_dev := s.fwd.char_dev.offer sample (message_of env ctx.ts16 frame s) }
            skbs := s.skbs
            clocks := s.clocks_after
            trace := s.trace ++ posted_events skb ctx.ts16
              (message_of env ctx.ts16 frame s) sample.chardev_msg } := by
  refine ⟨_, rfl, ?_⟩
  unfold posted_events Chardev.offer decode_data_commit
  cases hslot : sample.chardev_msg with
  | none => simp [kernel_time, deliver, message_of, NetStats.count, RxState.clocks_after]
  | some idx =>
    simp [kernel_time, deliver, message_of, NetStats.count, RxState.clocks_after,
      RxState.set_slot]

/-- The end of a record in the ring. -/
theorem finish_data_slot_eq (env : Env) (sample : RxSample) (frame : CanFrame)
    (ctx : MsgContext) (s : RxState) (frames : List CanFrame)
    (hslot : sample.chardev_msg = some sample.rx_write_idx) :
    ∃ s', finish_data env sample (.slot sample.rx_write_idx) frame ctx
          (s.store_frames (.slot sample.rx_write_idx) frames)
        = (message_of env ctx.ts16 frame s, s')
      ∧ ({ s' with fwd := { s'.fwd with
            char_dev := decode_data_commit sample s'.fwd.char_dev } } : RxState)
        = { fwd := { s.fwd with
              char_dev := s.fwd.char_dev.offer sample (message_of env ctx.ts16 frame s) }
            skbs := s.skbs
            clocks := s.clocks_after
            trace := s.trace ++ [.compute_kernel_time ctx.ts16] } := by
  obtain ⟨msg, hmsg⟩ := store_frames_slot s sample.rx_write_idx frames
  refine ⟨_, by rw [hmsg, finish_data_slot env sample _ _ _ _ hslot]; rfl, ?_⟩
  -- the clock does not look at the ring, so the last store wins
  simp only [message_of_set_slot, kernel_time_set_slot, set_slot_set_slot]
  rw [Chardev.offer, hslot]
  rfl

/-- With the network up, in a socket buffer. -/
theorem decode_data_means_up (env : Env) (status_len : u8) (ctx : MsgContext) (s : RxState)
    (hup : s.fwd.netif_running = true) :
    Means env s (ctx.read_data status_len) (decode_data env status_len ctx s) := by
  unfold decode_data decode_data_fill MsgContext.read_data
  dsimp only
  rw [if_pos hup, alloc_can_skb]
  cases halloc : env.alloc_can_skb s.skbs with
  | none =>
    -- the record is not looked at, so it makes no difference whether it is all there
    have hdata : ∀ frame ts16,
        run_data env frame ts16 s = (-ENOMEM, { s with skbs := s.skbs + 1 }) := by
      intro frame ts16
      simp only [run_data, hup, halloc, if_true]
    have htorn : ∀ cut, run_torn env cut s = (-ENOMEM, { s with skbs := s.skbs + 1 }) := by
      intro cut
      simp only [run_torn, hup, halloc, if_true]
    split
    · exact ⟨by rw [Record.run, hdata], by rw [Record.run, hdata], fun h => absurd h ENOMEM_ne⟩
    · exact ⟨by rw [Record.run, htorn], by rw [Record.run, htorn], fun h => absurd h ENOMEM_ne⟩
  | some frame =>
    dsimp only
    by_cases hfits : ctx.ptr + data_len status_len (ctx.rec_data_idx = 0) ≤ ctx.end_
    · obtain ⟨f₁, f₂, heq⟩ := decode_frame_of_fits (.skb s.skbs) status_len frame ctx
        s.with_skb hfits
      obtain ⟨s', hfinish, hstate⟩ := finish_data_skb_eq env (decode_data_sample s.fwd.char_dev)
        s.skbs (ctx.data_frame status_len) (ctx.data_end status_len)
        (s.with_skb.store_frames (.skb s.skbs) [f₁, f₂, ctx.data_frame status_len])
      rw [show ({ s with skbs := s.skbs + 1 } : RxState).log [.alloc_can_skb s.skbs]
        = s.with_skb from rfl, heq, if_pos hfits]
      dsimp only
      rw [hfinish]
      refine ⟨?_, ?_, fun _ => rfl⟩
      · simp only [Record.run, run_data, hup, halloc, if_true]
      · dsimp only
        rw [hstate, store_frames_skb]
        simp only [Record.run, run_data, hup, halloc, if_true, RxState.with_skb, log_log,
          log_fwd, log_skbs, log_trace, List.append_assoc]
        rfl
    · obtain ⟨ctx', heq⟩ := decode_frame_of_torn (.skb s.skbs) status_len frame ctx
        s.with_skb hfits
      rw [show ({ s with skbs := s.skbs + 1 } : RxState).log [.alloc_can_skb s.skbs]
        = s.with_skb from rfl, heq, if_neg hfits]
      dsimp only
      rw [store_frames_skb_log]
      refine ⟨?_, ?_, by intro h; cases h⟩
      · simp only [Record.run, run_torn, hup, halloc, if_true]
      · simp only [Record.run, run_torn, hup, halloc, if_true]

/-- With the network down, in the ring's free slot. -/
theorem decode_data_means_down (env : Env) (status_len : u8) (ctx : MsgContext) (s : RxState)
    (hdown : ¬ s.fwd.netif_running = true) :
    Means env s (ctx.read_data status_len) (decode_data env status_len ctx s) := by
  generalize hsample : decode_data_sample s.fwd.char_dev = sample
  by_cases hslot : sample.chardev_msg = none
  -- a closed device, or a full ring
  · have hdata : ∀ frame ts16, run_data env frame ts16 s = (sample.refusal, s) := by
      intro frame ts16
      simp only [run_data, hdown, hsample, hslot, Option.isSome_none, Bool.false_eq_true, if_false]
    have htorn : ∀ cut, run_torn env cut s = (sample.refusal, s) := by
      intro cut
      simp only [run_torn, hdown, hsample, hslot, Option.isSome_none, Bool.false_eq_true, if_false]
    obtain ⟨hrefuse, hfill⟩ : sample.refusal ≠ 0
        ∧ decode_data_fill env sample status_len ctx s = (.error sample.refusal, ctx, s) := by
      unfold decode_data_fill RxSample.refusal
      rw [if_neg hdown]
      by_cases hneg : sample.unread_count < 0
      · rw [if_pos hneg, if_pos hneg]
        exact ⟨hneg.ne, rfl⟩
      · have hfull : sample.unread_count ≥ PCAN_CHRDEV_MAX_RX_BUF_COUNT := by
          by_contra hroom
          rw [RxSample.chardev_msg, if_neg (by tauto)] at hslot
          cases hslot
        rw [if_neg hneg, if_neg hneg, if_pos hfull]
        exact ⟨by decide, rfl⟩
    unfold decode_data MsgContext.read_data
    rw [hsample]
    dsimp only
    rw [hfill]
    split
    · exact ⟨by rw [Record.run, hdata], by rw [Record.run, hdata], fun h => absurd h hrefuse⟩
    · exact ⟨by rw [Record.run, htorn], by rw [Record.run, htorn], fun h => absurd h hrefuse⟩
  · have hroom : ¬ (sample.unread_count < 0
        ∨ sample.unread_count ≥ PCAN_CHRDEV_MAX_RX_BUF_COUNT) := by
      intro hno
      exact hslot (by rw [RxSample.chardev_msg, if_pos hno])
    obtain ⟨hneg, hfull⟩ := not_or.mp hroom
    have hidx' : sample.chardev_msg = some sample.rx_write_idx := by
      rw [RxSample.chardev_msg, if_neg hroom]
    have hopen : sample.chardev_msg.isSome = true := by rw [hidx']; rfl
    unfold decode_data decode_data_fill MsgContext.read_data
    rw [hsample]
    dsimp only
    rw [if_neg hdown, if_neg hneg, if_neg hfull]
    by_cases hfits : ctx.ptr + data_len status_len (ctx.rec_data_idx = 0) ≤ ctx.end_
    · obtain ⟨f₁, f₂, heq⟩ := decode_frame_of_fits (.slot sample.rx_write_idx) status_len
        (s.fwd.char_dev.rx_msgs sample.rx_write_idx).frame ctx s hfits
      obtain ⟨s', hfinish, hstate⟩ := finish_data_slot_eq env sample (ctx.data_frame status_len)
        (ctx.data_end status_len) s [f₁, f₂, ctx.data_frame status_len] hidx'
      rw [heq, if_pos hfits]
      dsimp only
      rw [hfinish]
      refine ⟨?_, ?_, fun _ => rfl⟩
      · simp only [Record.run, run_data, hdown, hsample, hopen, Bool.false_eq_true, if_false,
          if_true]
      · dsimp only
        rw [hstate]
        simp only [Record.run, run_data, hdown, hsample, hopen, Bool.false_eq_true, if_false,
          if_true]
    · obtain ⟨ctx', heq⟩ := decode_frame_of_torn (.slot sample.rx_write_idx) status_len
        (s.fwd.char_dev.rx_msgs sample.rx_write_idx).frame ctx s hfits
      rw [heq, if_neg hfits]
      refine ⟨?_, ?_, by intro h; cases h⟩
      · simp only [Record.run, run_torn, hdown, hsample, hopen, Bool.false_eq_true, if_false,
          if_true]
      · simp only [Record.run, run_torn, hdown, hsample, hopen, Bool.false_eq_true, if_false,
          if_true]

/-- A data record means its frame and its time. -/
theorem decode_data_means (env : Env) (status_len : u8) (ctx : MsgContext) (s : RxState) :
    Means env s (ctx.read_data status_len) (decode_data env status_len ctx s) := by
  by_cases hup : s.fwd.netif_running = true
  · exact decode_data_means_up env status_len ctx s hup
  · exact decode_data_means_down env status_len ctx s hup

/-! ## Status records -/

/-- What is posted for an error is the report of its state. -/
theorem post_error_eq (env : Env) (ctx : MsgContext) (status_len : u8) (new_state : CanState)
    (frame : CanFrame) (s : RxState) :
    post_error env ctx status_len new_state s.skbs frame s.with_skb
      = report env new_state
          (if status_len &&& PCAN_USB_STATUSLEN_TIMESTAMP ≠ 0 then some ctx.ts16 else none)
          frame s := by
  unfold post_error report report_events
  by_cases hts : status_len &&& PCAN_USB_STATUSLEN_TIMESTAMP ≠ 0
  · simp only [if_pos hts]
    cases new_state <;>
      simp [kernel_time, deliver, RxState.with_skb, NetStats.count, RxState.clocks_after,
        error_account, RxState.log]
  · simp only [if_neg hts]
    cases new_state <;>
      simp [deliver, RxState.with_skb, NetStats.count, error_account, RxState.log]

/-- An error record is a number, and a time if it has one. -/
theorem decode_error_eq (env : Env) (ctx : MsgContext) (number status_len : u8) (s : RxState) :
    decode_error env ctx number status_len s
      = run_error env number
          (if status_len &&& PCAN_USB_STATUSLEN_TIMESTAMP ≠ 0 then some ctx.ts16 else none) s := by
  unfold decode_error run_error error_verdict
  by_cases hdown : s.fwd.netif_running = false
  · rw [if_pos (by simp [hdown]), if_pos (.inl hdown)]
  by_cases hearly : number = PCAN_USB_ERROR_QOVR ∧ s.fwd.time_ref.tick_count = 0
  · rw [if_neg (by simpa using hdown), if_pos hearly, if_pos (.inr hearly)]
  rw [if_neg (by simpa using hdown), if_neg hearly, if_neg (by tauto)]
  cases error_switch s.fwd.can_state number with
  | ignore => rfl
  | back_to_active => rfl
  | new_state new_state =>
    dsimp only
    by_cases hsame : s.fwd.can_state = new_state
    · rw [if_pos hsame, if_pos hsame]
    rw [if_neg hsame, if_neg hsame, alloc_can_skb]
    cases env.alloc_can_skb s.skbs with
    | none => rfl
    | some frame => exact congrArg (Prod.mk 0) (post_error_eq env ctx status_len new_state frame s)

/-- The check of the body, behind an effect that is known. -/
theorem body_means (env : Env) {record : Record} (ctx : MsgContext) (len : ℕ) {s : RxState}
    (result : Int × RxState)
    (hrun : record.run env s = then_body (ctx.ptr + len ≤ ctx.end_) result) :
    Means env s (record, ctx.take 0 len)
      (if result.1 ≠ 0 then (result.1, ctx, result.2)
      else if ctx.ptr + len > ctx.end_ then (-EINVAL, ctx, result.2)
      else (0, ctx.take 0 len, result.2)) := by
  by_cases herr : result.1 ≠ 0
  · rw [if_pos herr]
    rw [then_body, if_pos herr] at hrun
    exact ⟨congrArg Prod.fst hrun.symm, congrArg Prod.snd hrun.symm, fun h => absurd h herr⟩
  rw [then_body, if_neg herr] at hrun
  rw [if_neg herr]
  by_cases hbody : ctx.ptr + len > ctx.end_
  · rw [decide_eq_false (Nat.not_le_of_gt hbody)] at hrun
    rw [if_pos hbody]
    exact ⟨congrArg Prod.fst hrun.symm, congrArg Prod.snd hrun.symm, fun h => absurd h EINVAL_ne⟩
  · rw [decide_eq_true (Nat.le_of_not_gt hbody)] at hrun
    rw [if_neg hbody]
    exact ⟨congrArg Prod.fst hrun.symm, congrArg Prod.snd hrun.symm, fun _ => rfl⟩

/-- The decoder compares the record's index, the parse notes whether it is the first. -/
theorem update_timestamp_eq (env : Env) (ctx : MsgContext) (s : RxState)
    (hfits : ctx.ptr + 2 ≤ ctx.end_) :
    update_timestamp_in_context env ctx s
      = (0, { ctx.take 2 0 with ts16 := le16 (ctx.peek 0) (ctx.peek 1) },
          run_timestamp env (le16 (ctx.peek 0) (ctx.peek 1)) (ctx.rec_idx = 0) s) := by
  unfold update_timestamp_in_context run_timestamp
  rw [if_neg (Nat.not_lt_of_le hfits)]
  dsimp only
  by_cases hfirst : ctx.rec_idx = 0
  · rw [if_neg (by change ¬ ctx.rec_idx > 0; rw [hfirst]; decide),
      if_pos (decide_eq_true hfirst)]
  · rw [if_pos (by change 0 < ctx.rec_idx; bv_omega),
      if_neg (fun h => hfirst (of_decide_eq_true h))]

/-- A status record from its body on. -/
theorem read_body_means (env : Env) (status_len : u8) (ctx body : MsgContext) (s : RxState)
    (hidx : body.rec_idx = ctx.rec_idx) :
    Means env s (ctx.read_body status_len body)
      (let (err, ctx', s') := decode_functionality env (ctx.peek 0) (ctx.peek 1) status_len body s
      if err ≠ 0 then (err, ctx', s')
      else if ctx'.ptr + ctx.status_rec_len status_len > ctx'.end_ then (-EINVAL, ctx', s')
      else (0, ctx'.take 0 (ctx.status_rec_len status_len), s')) := by
  unfold decode_functionality MsgContext.read_body
  by_cases herr : ctx.peek 0 = PCAN_USB_REC_ERROR
  · rw [if_pos herr, if_pos herr, decode_error_eq]
    exact body_means env body _ _ rfl
  rw [if_neg herr, if_neg herr]
  by_cases hts : ctx.peek 0 = PCAN_USB_REC_TS
  · rw [if_pos hts, if_pos hts]
    by_cases hshort : body.end_ < body.ptr + 2
    · rw [update_timestamp_in_context, if_pos hshort, if_pos hshort]
      exact ⟨rfl, rfl, fun h => absurd h EINVAL_ne⟩
    · rw [update_timestamp_eq env body s (Nat.le_of_not_lt hshort), if_neg hshort, hidx]
      exact body_means env { body.take 2 0 with ts16 := le16 (body.peek 0) (body.peek 1) }
        (ctx.status_rec_len status_len)
        (0, run_timestamp env (le16 (body.peek 0) (body.peek 1)) (ctx.rec_idx = 0) s) rfl
  · rw [if_neg hts, if_neg hts]
    exact body_means env body _ (0, s) rfl

/-- A status record means what its functionality says. -/
theorem decode_status_means (env : Env) (status_len : u8) (ctx : MsgContext) (s : RxState) :
    Means env s (ctx.read_status status_len) (decode_status_and_error env status_len ctx s) := by
  unfold MsgContext.read_status
  by_cases hshort : ctx.end_ < ctx.ptr + status_head_len status_len (ctx.rec_idx = 0)
  · obtain ⟨ctx', heq, -⟩ := decode_status_and_error_of_short env status_len ctx s hshort
    rw [heq, if_pos hshort]
    exact ⟨rfl, rfl, fun h => absurd h EINVAL_ne⟩
  have hhead := Nat.le_of_not_lt hshort
  rw [decode_status_and_error_of_head env status_len ctx s hhead, if_neg hshort]
  exact read_body_means env status_len ctx _ s (status_body_advanced status_len ctx hhead).rec_idx_eq

/-! ## Packets -/

/-- Each record read from the bytes means what the decoder does. -/
theorem decode_record_means (env : Env) (ctx : MsgContext) (s : RxState) :
    Means env s ctx.read_record (decode_record env ctx s) := by
  unfold decode_record MsgContext.read_record
  dsimp only
  split
  · exact decode_status_means env (ctx.peek 0) (ctx.take 1 1) s
  · obtain ⟨herr, hstate, hcursor⟩ := decode_data_means env (ctx.peek 0) (ctx.take 1 1) s
    refine ⟨herr, hstate, fun hok => ?_⟩
    dsimp only
    rw [hcursor hok]

/-- A body that is cut off changes the result only. -/
theorem then_body_state (whole : Bool) (result : Int × RxState) :
    (then_body whole result).2 = result.2 := by
  unfold then_body
  split <;> rfl

/-- A body that is cut off is an error. -/
theorem then_body_of_not_whole {result : Int × RxState} : (then_body false result).1 ≠ 0 := by
  unfold then_body
  split
  · assumption
  · exact EINVAL_ne

/-- A full ring refuses with an error. -/
theorem refusal_ne (sample : RxSample) : sample.refusal ≠ 0 := by
  unfold RxSample.refusal
  split
  · rename_i hneg
    exact hneg.ne
  · decide

/-- A torn record always fails. -/
theorem run_torn_ne (env : Env) (cut : Torn) (s : RxState) : (run_torn env cut s).1 ≠ 0 := by
  unfold run_torn
  dsimp only
  split
  · split
    · exact ENOMEM_ne
    · exact EINVAL_ne
  split
  · exact EINVAL_ne
  · exact refusal_ne _

/-- A record the decoder gets past is all there. -/
theorem Record.whole_of_run {env : Env} {record : Record} {s : RxState}
    (h : (record.run env s).1 = 0) : record.whole = true := by
  have hbody : ∀ {whole : Bool} {result : Int × RxState},
      (then_body whole result).1 = 0 → whole = true := by
    intro whole result hok
    cases whole with
    | true => rfl
    | false => exact absurd hok then_body_of_not_whole
  cases record with
  | data => rfl
  | torn cut => exact absurd h (run_torn_ne env cut s)
  | malformed => exact absurd h EINVAL_ne
  | error => exact hbody h
  | timestamp => exact hbody h
  | other => exact hbody h

/-- The loop with `n` records to go runs what is read from there. -/
theorem decode_records_eq_run (env : Env) (n : ℕ) : ∀ (fuel : ℕ) (ctx : MsgContext)
    (s : RxState) {first first_data : Bool}, Counters ctx n first first_data → n ≤ fuel →
    (decode_records env fuel 0 ctx s).1 = (run_records env (read_records n ctx) s).1
      ∧ (decode_records env fuel 0 ctx s).2.2 = (run_records env (read_records n ctx) s).2 := by
  induction n with
  | zero =>
    intro fuel ctx s first first_data hcount _
    rw [decode_records_of_done env fuel 0 ctx s hcount.done]
    exact ⟨rfl, rfl⟩
  | succ n ih =>
    intro fuel ctx s first first_data hcount hfuel
    obtain ⟨fuel, rfl⟩ : ∃ m, fuel = m + 1 := ⟨fuel - 1, by omega⟩
    have hmeans := decode_record_means env ctx s
    have hrec := decode_record_fate env ctx s hcount.first_eq hcount.first_data_eq
      (describes_outlook first s)
    rw [decode_records_succ env fuel ctx s hcount.more, read_records]
    dsimp only
    rw [run_records]
    generalize decode_record env ctx s = result at hmeans hrec ⊢
    obtain ⟨err, ctx', s'⟩ := result
    obtain ⟨herr, hstate, hcursor⟩ := hmeans
    dsimp only at herr hstate hcursor hrec ⊢
    by_cases hok : err = 0
    · subst hok
      obtain rfl := hcursor rfl
      obtain ⟨delivers, is_data, next, o, hfate⟩ := hrec.went_on
      rw [hfate] at hrec
      rw [if_pos herr.symm, if_pos (Record.whole_of_run herr.symm), ← hstate]
      exact ih fuel _ s' (hrec.counters hcount) (by omega)
    · rw [decode_records_of_err env fuel hok, if_neg (herr ▸ hok)]
      exact ⟨herr, hstate⟩

/-- The decoder is the run of the records its packet holds. -/
theorem decode_incoming_buf_eq_run (env : Env) (ibuf : ℕ → u8) (size : ℕ) (s : RxState) :
    (decode_incoming_buf env ibuf size s).1 = (run_records env (packet_records ibuf size) s).1
      ∧ (decode_incoming_buf env ibuf size s).2.2
          = (run_records env (packet_records ibuf size) s).2 :=
  decode_records_eq_run env (ibuf 1).toNat 256 (MsgContext.start ibuf size) s
    (Counters.start ibuf size) (by have := (ibuf 1).isLt; omega)

/-- A completed transfer as a row of records: one too short for a packet is malformed, and an
empty one says nothing. -/
def urb_records (transfer_buffer : ℕ → u8) (actual_length : ℕ) : List Record :=
  if actual_length > PCAN_USB_MSG_HEADER_LEN then packet_records transfer_buffer actual_length
  else if actual_length = 0 then []
  else [.malformed]

/-- The driver parses a transfer and does what its records mean: the parse sees the bytes
only, the meaning the driver and the kernel only. -/
theorem handle_urb_eq_run (env : Env) (transfer_buffer : ℕ → u8) (actual_length : ℕ)
    (s : RxState) : pcan_decode_and_handle_urb env transfer_buffer actual_length s
      = run_records env (urb_records transfer_buffer actual_length) s := by
  unfold pcan_decode_and_handle_urb urb_records
  split
  · obtain ⟨herr, hstate⟩ := decode_incoming_buf_eq_run env transfer_buffer actual_length s
    exact Prod.ext herr hstate
  split
  · rfl
  · rfl

/-! ## Bytes behind the transfer

A transfer buffer is submitted again as it is, so behind `actual_length` it holds what earlier
transfers left. A count byte that promises too much makes the decoder read one byte of that. -/

/-- A record that starts behind the packet does nothing that lasts, or that is seen. -/
theorem run_outside (env : Env) {record : Record} (hout : record.outside) (s : RxState) :
    (record.run env s).1 ≠ 0 ∧ (record.run env s).2.fwd = s.fwd
      ∧ network_events (record.run env s).2.trace = network_events s.trace := by
  cases record with
  | malformed => exact ⟨EINVAL_ne, rfl, rfl⟩
  | torn cut =>
    cases cut with
    | at_timestamp => exact hout.elim
    | at_payload => exact hout.elim
    | at_id =>
      refine ⟨run_torn_ne env .at_id s, ?_⟩
      rw [Record.run, run_torn]
      split
      · split
        · exact ⟨rfl, rfl⟩
        -- a buffer allocated and freed again
        · refine ⟨rfl, ?_⟩
          rw [log_trace, RxState.with_skb, log_trace, network_events_append,
            network_events_append]
          simp [network_events, Event.reaches_network, Torn.stores]
      split
      · exact ⟨rfl, rfl⟩
      · exact ⟨rfl, rfl⟩
  | data => exact hout.elim
  | error => exact hout.elim
  | timestamp => exact hout.elim
  | other => exact hout.elim

/-- Records that differ behind a cut only have the same effect. -/
theorem run_records_same (env : Env) {records records' : List Record}
    (h : SameRecords records records') : ∀ s : RxState,
    ((run_records env records s).1 = 0 ↔ (run_records env records' s).1 = 0)
      ∧ (run_records env records s).2.fwd = (run_records env records' s).2.fwd
      ∧ network_events (run_records env records s).2.trace
          = network_events (run_records env records' s).2.trace := by
  induction h with
  | nil => exact fun s => ⟨Iff.rfl, rfl, rfl⟩
  | outside hout hout' =>
    intro s
    obtain ⟨herr, hfwd, hnet⟩ := run_outside env hout s
    obtain ⟨herr', hfwd', hnet'⟩ := run_outside env hout' s
    rw [run_records, if_neg herr, run_records, if_neg herr']
    exact ⟨iff_of_false herr herr', hfwd.trans hfwd'.symm, hnet.trans hnet'.symm⟩
  | cons record _ ih =>
    intro s
    rw [run_records, run_records]
    split
    · exact ih _
    · exact ⟨Iff.rfl, rfl, rfl⟩

/-- What a transfer does to the driver and to the network stack is a matter of its own bytes:
nothing of what the buffer held before gets through, not even by a count byte that promises
more records than there are. -/
theorem stale_bytes_unseen (env : Env) (transfer_buffer transfer_buffer' : ℕ → u8)
    (actual_length : ℕ) (s : RxState)
    (hagree : ∀ i < actual_length, transfer_buffer' i = transfer_buffer i) :
    ((pcan_decode_and_handle_urb env transfer_buffer' actual_length s).1 = 0
        ↔ (pcan_decode_and_handle_urb env transfer_buffer actual_length s).1 = 0)
      ∧ (pcan_decode_and_handle_urb env transfer_buffer' actual_length s).2.fwd
          = (pcan_decode_and_handle_urb env transfer_buffer actual_length s).2.fwd
      ∧ network_events (pcan_decode_and_handle_urb env transfer_buffer' actual_length s).2.trace
          = network_events (pcan_decode_and_handle_urb env transfer_buffer actual_length s).2.trace
      := by
  rw [handle_urb_eq_run, handle_urb_eq_run]
  unfold urb_records
  split
  · rename_i hlong
    exact run_records_same env (packet_records_over (lt_trans (by decide) hlong) hagree) s
  · exact ⟨Iff.rfl, rfl, rfl⟩

/-- One data record where two are promised, in a buffer whose next byte would be the status
byte of another. -/
theorem stale_bytes_unseen_promised :
    ((pcan_decode_and_handle_urb Env.plenty (buffer [0, 2, 0, 0x20, 0, 0x34, 0x12, 0x40]) 7
          (RxState.idle true)).1 = 0
        ↔ (pcan_decode_and_handle_urb Env.plenty (buffer [0, 2, 0, 0x20, 0, 0x34, 0x12]) 7
          (RxState.idle true)).1 = 0)
      ∧ (pcan_decode_and_handle_urb Env.plenty (buffer [0, 2, 0, 0x20, 0, 0x34, 0x12, 0x40]) 7
            (RxState.idle true)).2.fwd
          = (pcan_decode_and_handle_urb Env.plenty (buffer [0, 2, 0, 0x20, 0, 0x34, 0x12]) 7
            (RxState.idle true)).2.fwd
      ∧ network_events (pcan_decode_and_handle_urb Env.plenty
            (buffer [0, 2, 0, 0x20, 0, 0x34, 0x12, 0x40]) 7 (RxState.idle true)).2.trace
          = network_events (pcan_decode_and_handle_urb Env.plenty
            (buffer [0, 2, 0, 0x20, 0, 0x34, 0x12]) 7 (RxState.idle true)).2.trace :=
  stale_bytes_unseen Env.plenty (buffer [0, 2, 0, 0x20, 0, 0x34, 0x12])
    (buffer [0, 2, 0, 0x20, 0, 0x34, 0x12, 0x40]) 7 (RxState.idle true) (by decide)

end DualPcanUsb
