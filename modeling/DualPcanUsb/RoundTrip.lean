/-
From the Tx record layout back through the Rx decoder.

A packet is built of records the way `pcan_encode_frame_to_buf` lays out a frame,
with the device's tick between id and payload: two bytes of it in the first
record, the low byte in every later one. The decoder hands exactly these frames
to the network stack and reads the device's clock off them modulo `2 ^ 16`. The
run lemma is an induction over the frames; what it carries along is that the
cursor's clock is the tick of the frame before.
-/
import DualPcanUsb.DataRecord
import DualPcanUsb.FrameLayout
import DualPcanUsb.PacketLoop
import DualPcanUsb.Lib.LowByteClock

set_option autoImplicit false

namespace DualPcanUsb

open LittleEndian LowByteClock

/-! ## Bytes in memory -/

/-- The bytes stand in the memory `ibuf` from `p` on. -/
def Holds (ibuf : ℕ → u8) (p : ℕ) (bytes : List u8) : Prop :=
  ∀ (i : ℕ) (hi : i < bytes.length), ibuf (p + i) = bytes[i]

instance (ibuf : ℕ → u8) (p : ℕ) (bytes : List u8) : Decidable (Holds ibuf p bytes) :=
  inferInstanceAs (Decidable (∀ (i : ℕ) (hi : i < bytes.length), ibuf (p + i) = bytes[i]))

/-- Two rows of bytes in a row. -/
theorem holds_append_iff {ibuf : ℕ → u8} {p : ℕ} {a b : List u8} :
    Holds ibuf p (a ++ b) ↔ Holds ibuf p a ∧ Holds ibuf (p + a.length) b := by
  constructor
  · intro h
    refine ⟨fun i hi => ?_, fun i hi => ?_⟩
    · have hat := h i (by rw [List.length_append]; omega)
      rwa [List.getElem_append_left hi] at hat
    · have hat := h (a.length + i) (by rw [List.length_append]; omega)
      rw [List.getElem_append_right (Nat.le_add_right ..)] at hat
      simpa only [Nat.add_sub_cancel_left, Nat.add_assoc] using hat
  · rintro ⟨ha, hb⟩ i hi
    by_cases hlt : i < a.length
    · rw [List.getElem_append_left hlt]; exact ha i hlt
    · rw [List.length_append] at hi
      have hat := hb (i - a.length) (by omega)
      rw [List.getElem_append_right (Nat.le_of_not_lt hlt), ← hat]
      congr 1
      omega

/-! ## Packets of sent frames -/

/-- A frame on its way: the frame, the true tick of its reception, and the counter
and buffer it was encoded with. -/
structure Sent where
  frame : CanFrame
  tick : ℕ
  shared_tx_counter : u8
  obuf : ℕ → u8

/-- The tick's bytes: all sixteen bits in the first record, the low byte later. -/
def tick_bytes (first : Bool) (tick : ℕ) : List u8 :=
  if first then [byte (BitVec.ofNat 16 tick) 0, byte (BitVec.ofNat 16 tick) 1]
  else [byte (BitVec.ofNat 16 tick) 0]

/-- The record of a frame. -/
def Sent.record (first : Bool) (x : Sent) : List u8 :=
  encoded_head x.shared_tx_counter x.frame x.obuf
    ++ (tick_bytes first x.tick ++ payload_bytes x.frame)

def records : Bool → List Sent → List u8
  | _, [] => []
  | first, x :: sent => x.record first ++ records false sent

/-- The packet: any first byte, the number of frames, and their records. -/
def sent_packet (byte0 : u8) (sent : List Sent) : List u8 :=
  byte0 :: BitVec.ofNat 8 sent.length :: records true sent

/-- The device ticked on by less than 256 between two frames. -/
def TicksOn (x y : Sent) : Prop := x.tick ≤ y.tick ∧ y.tick < x.tick + 256

/-! ## What the network stack and the clock see -/

/-- The frames handed to `netif_rx`, in order. -/
def delivered (events : List Event) : List CanFrame :=
  events.filterMap fun
    | .netif_rx _ _ frame _ => some frame
    | _ => none

/-- The ticks converted to kernel time, in order. -/
def tick_readings (events : List Event) : List u16 :=
  events.filterMap fun
    | .compute_kernel_time ts16 => some ts16
    | _ => none

theorem delivered_append (a b : List Event) : delivered (a ++ b) = delivered a ++ delivered b :=
  List.filterMap_append ..

theorem tick_readings_append (a b : List Event) :
    tick_readings (a ++ b) = tick_readings a ++ tick_readings b := List.filterMap_append ..

/-- With the network up, a buffer granted and the record complete, `decode_data`
succeeds, and delivers the record's frame at the record's tick. -/
theorem decode_data_posts (env : Env) (status_len : u8) (ctx : MsgContext) (s : RxState)
    (hup : s.fwd.netif_running = true) (halloc : (env.alloc_can_skb s.skbs).isSome = true)
    (hfits : ctx.ptr + data_len status_len (ctx.rec_data_idx = 0) ≤ ctx.end_) :
    ∃ s' events, decode_data env status_len ctx s = (0, ctx.data_end status_len, s')
      ∧ s'.fwd.netif_running = true ∧ s'.trace = s.trace ++ events
      ∧ delivered events = [ctx.data_frame status_len]
      ∧ tick_readings events = [(ctx.data_end status_len).ts16] := by
  have hfill := decode_data_fill_cases env (decode_data_sample s.fwd.char_dev) status_len ctx s
  unfold decode_data
  dsimp only
  generalize decode_data_fill env (decode_data_sample s.fwd.char_dev) status_len ctx s
    = filled at hfill ⊢
  obtain ⟨result, ctx₁, s₁⟩ := filled
  dsimp only at hfill
  cases hfill with
  | no_skb _ hnone => rw [hnone] at halloc; cases halloc
  | skb_short _ _ _ hshort => omega
  | skb_fits _ frame _ _ _ htrace _ hrun =>
    refine ⟨_, _, rfl, hrun.trans hup, htrace, ?_, ?_⟩
    · cases hslot : (decode_data_sample s.fwd.char_dev).chardev_msg <;>
        simp [delivered, posted_events, message_of, List.replicate]
    · cases hslot : (decode_data_sample s.fwd.char_dev).chardev_msg <;>
        simp [tick_readings, posted_events, List.replicate]
  | refused hdown => rw [hdown] at hup; cases hup
  | slot_short hdown => rw [hdown] at hup; cases hup
  | slot_fits hdown => rw [hdown] at hup; cases hup

/-! ## One record read back -/

section Record

variable {frame : CanFrame} (hsend : Sendable frame)
include hsend

/-- The decoder takes as many identifier bytes as were sent. -/
theorem id_width_sent : id_width (status_len_of frame) = (id_bytes frame).length := by
  have hext := (status_len_of_fields frame hsend.dlc_le).2.1
  unfold id_width id_bytes
  by_cases heff : frame.can_id &&& CAN_EFF_FLAG ≠ 0
  · rw [if_pos (hext.mpr heff), if_pos heff]; rfl
  · rw [if_neg (hext.not.mpr heff), if_neg heff]; rfl

/-- The decoder takes as many data bytes as were sent. -/
theorem payload_len_sent : payload_len (status_len_of frame) = (payload_bytes frame).length := by
  obtain ⟨-, -, hrtr, hdlc⟩ := status_len_of_fields frame hsend.dlc_le
  unfold payload_len payload_bytes
  by_cases hremote : frame.can_id &&& CAN_RTR_FLAG = 0
  · rw [if_neg (hrtr.not.mpr (not_not.mpr hremote)), if_pos hremote, hdlc, List.length_take]
    have hle := hsend.dlc_le
    simp
    omega
  · rw [if_pos (hrtr.mpr hremote), if_neg hremote]; rfl

/-- The decoder reads the length that was sent. -/
theorem record_dlc_sent : record_dlc (status_len_of frame) = frame.can_dlc := by
  have hdlc := (status_len_of_fields frame hsend.dlc_le).2.2.2
  have hle := hsend.dlc_le
  have hmax : CAN_MAX_DLC.toNat = 8 := rfl
  rw [record_dlc, hdlc]
  split
  · rfl
  · rename_i hge
    rw [BitVec.lt_def] at hge
    exact BitVec.eq_of_toNat_eq (by omega)

/-- The id field, read back without its remote flag. -/
theorem can_id_sent {ctx : MsgContext} (hid : Holds ctx.ibuf ctx.ptr (id_bytes frame)) :
    ctx.can_id (status_len_of frame) = frame.can_id &&& ~~~CAN_RTR_FLAG := by
  have hext := (status_len_of_fields frame hsend.dlc_le).2.1
  have herr := (err_flag_eq_zero_iff _).mp hsend.no_error
  unfold MsgContext.can_id
  unfold id_bytes at hid
  by_cases heff : frame.can_id &&& CAN_EFF_FLAG ≠ 0
  · rw [if_pos heff] at hid
    rw [if_pos (hext.mpr heff)]
    have h0 : ctx.peek 0 = _ := hid 0 (by simp)
    have h1 : ctx.peek 1 = _ := hid 1 (by simp)
    have h2 : ctx.peek 2 = _ := hid 2 (by simp)
    have h3 : ctx.peek 3 = _ := hid 3 (by simp)
    rw [h0, h1, h2, h3]
    dsimp only [List.getElem_cons_zero, List.getElem_cons_succ]
    rw [le32_byte]
    exact extended_id_back _ herr (by simpa using (eff_flag_eq_zero_iff _).not.mp heff)
  · rw [if_neg heff] at hid
    rw [if_neg (hext.not.mpr heff)]
    have h0 : ctx.peek 0 = _ := hid 0 (by simp)
    have h1 : ctx.peek 1 = _ := hid 1 (by simp)
    rw [h0, h1]
    dsimp only [List.getElem_cons_zero, List.getElem_cons_succ]
    rw [le16_byte]
    have heff0 := not_not.mp heff
    exact standard_id_back _ herr ((eff_flag_eq_zero_iff _).mp heff0) (hsend.short_bits heff0)

end Record

/-- The low byte of the tick field. -/
theorem byte_tick (tick : ℕ) : byte (BitVec.ofNat 16 tick) 0 = low tick := by
  rw [byte, low, Nat.mul_zero, ← BitVec.setWidth_eq_extractLsb' (by decide),
    BitVec.setWidth_ofNat_of_le (by decide)]

/-- The cursor's clock shows this tick. -/
def MsgContext.Shows (ctx : MsgContext) (tick : ℕ) : Prop :=
  ctx.ts16 = BitVec.ofNat 16 tick ∧ ctx.prev_ts8 = low tick

/-- The first record sets the clock. -/
theorem stamp_first_shows {ctx : MsgContext} {tick : ℕ}
    (hbytes : Holds ctx.ibuf ctx.ptr (tick_bytes true tick)) : (ctx.stamp true).Shows tick := by
  have h0 : ctx.peek 0 = byte (BitVec.ofNat 16 tick) 0 := hbytes 0 (by simp [tick_bytes])
  have h1 : ctx.peek 1 = byte (BitVec.ofNat 16 tick) 1 := hbytes 1 (by simp [tick_bytes])
  have hword : le16 (ctx.peek 0) (ctx.peek 1) = BitVec.ofNat 16 tick := by
    rw [h0, h1, le16_byte]
  -- bit by bit, sixteen of them
  have hmask : ∀ x : u16, (x &&& 0x00ff).setWidth 8 = byte x 0 := by
    intro x
    apply BitVec.eq_of_getLsbD_eq
    intro i hi
    interval_cases i <;> simp [byte]
  refine ⟨hword, ?_⟩
  change (le16 (ctx.peek 0) (ctx.peek 1) &&& 0x00ff).setWidth 8 = _
  rw [hword, hmask, byte_tick]

/-- Every later one moves it on. -/
theorem stamp_later_shows {ctx : MsgContext} {tick tick' : ℕ} (hclock : ctx.Shows tick)
    (hle : tick ≤ tick') (hlt : tick' < tick + 256)
    (hbytes : Holds ctx.ibuf ctx.ptr (tick_bytes false tick')) :
    (ctx.stamp false).Shows tick' := by
  have h0 : ctx.peek 0 = low tick' := by
    rw [← byte_tick]; exact hbytes 0 (by simp [tick_bytes])
  refine ⟨?_, h0⟩
  change advance ctx.ts16 ctx.prev_ts8 (ctx.peek 0) = _
  rw [hclock.1, hclock.2, h0]
  exact advance_ofNat hle hlt

/-- The frame of a sent record. -/
theorem data_frame_sent {frame : CanFrame} (hsend : Sendable frame) {ctx : MsgContext}
    {first : Bool} {tick : ℕ} (hfirst : decide (ctx.rec_data_idx = 0) = first)
    (hbytes : Holds ctx.ibuf ctx.ptr
      (id_bytes frame ++ (tick_bytes first tick ++ payload_bytes frame))) :
    ctx.data_frame (status_len_of frame) = received_frame frame := by
  obtain ⟨hid, hrest⟩ := holds_append_iff.mp hbytes
  obtain ⟨-, hpayload⟩ := holds_append_iff.mp hrest
  have hrtr := (status_len_of_fields frame hsend.dlc_le).2.2.1
  have htick : (tick_bytes first tick).length = ts_width first := by cases first <;> rfl
  have hremote := remote_flag_back frame.can_id
  unfold MsgContext.data_frame received_frame
  rw [can_id_sent hsend hid, record_dlc_sent hsend]
  by_cases hremote0 : frame.can_id &&& CAN_RTR_FLAG = 0
  · rw [if_neg (not_not.mpr hremote0)] at hremote
    -- payload bytes stand behind id and tick
    have hpeek : ∀ i (hi : i < frame.can_dlc.toNat) (hi8 : i < 8),
        (ctx.data_body (status_len_of frame)).peek i = frame.data[i] := by
      intro i hi hi8
      have hat := hpayload i (by
        rw [← payload_len_sent hsend, payload_len,
          if_neg (hrtr.not.mpr (not_not.mpr hremote0)),
          (status_len_of_fields frame hsend.dlc_le).2.2.2]
        exact hi)
      simp only [payload_bytes, if_pos hremote0, List.getElem_take, Vector.getElem_toList] at hat
      rw [← hat, MsgContext.peek, data_body_ptr, data_body_ibuf, hfirst, id_width_sent hsend,
        htick]
    rw [if_neg (hrtr.not.mpr (not_not.mpr hremote0)), if_neg (hrtr.not.mpr (not_not.mpr hremote0)),
      hremote]
    refine congrArg (CanFrame.mk frame.can_id frame.can_dlc) ?_
    apply Vector.ext
    intro i hi
    simp only [payload_at, Vector.getElem_ofFn, hremote0, true_and]
    split
    · rename_i hlt
      exact hpeek i hlt hi
    · rfl
  · rw [if_pos hremote0] at hremote
    rw [if_pos (hrtr.mpr hremote0), if_pos (hrtr.mpr hremote0), hremote]
    -- a remote frame carries none
    refine congrArg (CanFrame.mk frame.can_id frame.can_dlc) ?_
    apply Vector.ext
    intro i hi
    simp only [Vector.getElem_replicate, Vector.getElem_ofFn, hremote0, false_and, if_false]

/-- The clock behind a sent record. -/
theorem data_end_shows {frame : CanFrame} (hsend : Sendable frame) {ctx : MsgContext}
    {first : Bool} {tick : ℕ} (hfirst : decide (ctx.rec_data_idx = 0) = first)
    (hclock : first = false → ∃ tick₀, ctx.Shows tick₀ ∧ tick₀ ≤ tick ∧ tick < tick₀ + 256)
    (hbytes : Holds ctx.ibuf ctx.ptr
      (id_bytes frame ++ (tick_bytes first tick ++ payload_bytes frame))) :
    (ctx.data_end (status_len_of frame)).Shows tick := by
  have hbody : (ctx.data_body (status_len_of frame)).Shows tick := by
    obtain ⟨-, hrest⟩ := holds_append_iff.mp hbytes
    obtain ⟨htick, -⟩ := holds_append_iff.mp hrest
    rw [← id_width_sent hsend] at htick
    unfold MsgContext.data_body
    rw [hfirst]
    cases first with
    | true => exact stamp_first_shows htick
    | false =>
      obtain ⟨tick₀, hshows, hle, hlt⟩ := hclock rfl
      exact stamp_later_shows hshows hle hlt htick
  unfold MsgContext.data_end
  split <;> exact hbody

/-- What reading back a row of records comes to. -/
structure ReadBack (ctx : MsgContext) (s : RxState) (length : ℕ) (frames : List CanFrame)
    (ticks : List u16) (ctx' : MsgContext) (s' : RxState) : Prop where
  ibuf_eq : ctx'.ibuf = ctx.ibuf
  end_eq : ctx'.end_ = ctx.end_
  rec_cnt_eq : ctx'.rec_cnt = ctx.rec_cnt
  rec_idx_eq : ctx'.rec_idx = ctx.rec_idx
  ptr_eq : ctx'.ptr = ctx.ptr + length
  net_up : s'.fwd.netif_running = true
  trace : ∃ events, s'.trace = s.trace ++ events ∧ delivered events = frames
    ∧ tick_readings events = ticks

/-- The decoder reads back one record. -/
theorem decode_record_sent (env : Env) {ctx : MsgContext} {s : RxState} {x : Sent} {first : Bool}
    (hsend : Sendable x.frame) (hfirst : decide (ctx.rec_data_idx = 0) = first)
    (hclock : first = false →
      ∃ tick₀, ctx.Shows tick₀ ∧ tick₀ ≤ x.tick ∧ x.tick < tick₀ + 256)
    (hbytes : Holds ctx.ibuf ctx.ptr (x.record first))
    (hfits : ctx.ptr + (x.record first).length ≤ ctx.end_)
    (hup : s.fwd.netif_running = true) (halloc : ∀ k, (env.alloc_can_skb k).isSome = true) :
    ∃ ctx' s', decode_record env ctx s = (0, ctx', s')
      ∧ ReadBack ctx s (x.record first).length [received_frame x.frame] [BitVec.ofNat 16 x.tick]
          ctx' s'
      ∧ ctx'.rec_data_idx = ctx.rec_data_idx + 1 ∧ ctx'.Shows x.tick := by
  have htick : (tick_bytes first x.tick).length = ts_width first := by cases first <;> rfl
  rw [Sent.record, encoded_head_eq, List.cons_append] at hbytes hfits ⊢
  obtain ⟨hstatus, hrest⟩ := (@holds_append_iff _ _ [status_len_of x.frame] _).mp hbytes
  have hbyte : ctx.ibuf ctx.ptr = status_len_of x.frame := hstatus 0 (by simp)
  have hint := (status_len_of_fields x.frame hsend.dlc_le).1
  -- from the id field on, the record is `decode_data`'s
  let head := ctx.take 1 1
  have hlen : data_len (status_len_of x.frame) (head.rec_data_idx = 0)
      = (id_bytes x.frame ++ (tick_bytes first x.tick ++ payload_bytes x.frame)).length := by
    change data_len (status_len_of x.frame) (decide (ctx.rec_data_idx = 0)) = _
    rw [hfirst, data_len, id_width_sent hsend, payload_len_sent hsend, List.length_append,
      List.length_append, htick, Nat.add_assoc]
  have hfits' : head.ptr + data_len (status_len_of x.frame) (head.rec_data_idx = 0)
      ≤ head.end_ := by
    rw [hlen]
    change ctx.ptr + 1 + _ ≤ ctx.end_
    rw [List.length_cons] at hfits
    omega
  obtain ⟨s', events, hdata, hup', htrace, hframes, hticks⟩ :=
    decode_data_posts env (status_len_of x.frame) head s hup (halloc _) hfits'
  -- clock and frame behind the record
  have hadv := data_end_advanced (status_len_of x.frame) head hfits'
  have hshows : (head.data_end (status_len_of x.frame)).Shows x.tick :=
    data_end_shows hsend hfirst hclock hrest
  have hframe : head.data_frame (status_len_of x.frame) = received_frame x.frame :=
    data_frame_sent hsend hfirst hrest
  refine ⟨{ head.data_end (status_len_of x.frame) with
      rec_data_idx := (head.data_end (status_len_of x.frame)).rec_data_idx + 1 }, s', ?_, ?_, ?_,
    hshows⟩
  · unfold decode_record
    rw [show ctx.peek 0 = status_len_of x.frame from hbyte]
    dsimp only
    rw [if_neg (not_not.mpr hint), show decode_data env (status_len_of x.frame) (ctx.take 1 1) s
      = (0, head.data_end (status_len_of x.frame), s') from hdata]
  · refine ⟨hadv.ibuf_eq, hadv.end_eq, hadv.rec_cnt_eq, hadv.rec_idx_eq, ?_, hup',
      events, htrace, ?_, ?_⟩
    · change (head.data_end (status_len_of x.frame)).ptr = _
      rw [data_end_ptr, hlen, List.length_cons]
      change ctx.ptr + 1 + _ = _
      omega
    · rw [hframes, hframe]
    · rw [hticks, hshows.1]
  · exact congrArg (· + 1) hadv.rec_data_idx_eq

/-! ## The packet read back -/

/-- The loop reads back the records it has left. `prev` is the frame before them,
and the cursor's clock shows its tick. -/
theorem decode_records_sent (env : Env) (halloc : ∀ k, (env.alloc_can_skb k).isSome = true)
    (sent : List Sent) : ∀ (fuel : ℕ) (ctx : MsgContext) (s : RxState) (prev : Option Sent),
    ctx.rec_idx.toNat + sent.length = ctx.rec_cnt.toNat → sent.length ≤ fuel →
    ctx.rec_data_idx = ctx.rec_idx → decide (ctx.rec_data_idx = 0) = prev.isNone →
    (∀ x, prev = some x → ctx.Shows x.tick) → List.IsChain TicksOn (prev.toList ++ sent) →
    (∀ x ∈ sent, Sendable x.frame) → Holds ctx.ibuf ctx.ptr (records prev.isNone sent) →
    ctx.ptr + (records prev.isNone sent).length ≤ ctx.end_ → s.fwd.netif_running = true →
    ∃ ctx' s' events, decode_records env fuel 0 ctx s = (0, ctx', s')
      ∧ s'.trace = s.trace ++ events
      ∧ delivered events = sent.map (fun x => received_frame x.frame)
      ∧ tick_readings events = sent.map (fun x => BitVec.ofNat 16 x.tick) := by
  induction sent with
  | nil =>
    intro fuel ctx s prev hn _ _ _ _ _ _ _ _ _
    have hdone : ¬ ctx.rec_idx < ctx.rec_cnt := by
      rw [BitVec.lt_def]; rw [List.length_nil] at hn; omega
    exact ⟨ctx, s, [], decode_records_of_done env fuel 0 ctx s hdone, by simp, rfl, rfl⟩
  | cons x sent ih =>
    intro fuel ctx s prev hn hfuel hidx hfirst hclock hchain hsend hbytes hfits hup
    rw [List.length_cons] at hn hfuel
    obtain ⟨fuel, rfl⟩ : ∃ m, fuel = m + 1 := ⟨fuel - 1, by omega⟩
    have hlt : ctx.rec_idx < ctx.rec_cnt := by rw [BitVec.lt_def]; omega
    obtain ⟨hx, hsend'⟩ := List.forall_mem_cons.mp hsend
    rw [records] at hbytes hfits
    obtain ⟨hrecord, hrest⟩ := holds_append_iff.mp hbytes
    rw [List.length_append] at hfits
    -- the tick before is the one the cursor's clock shows
    have hclock' : prev.isNone = false →
        ∃ tick₀, ctx.Shows tick₀ ∧ tick₀ ≤ x.tick ∧ x.tick < tick₀ + 256 := by
      intro hsome
      obtain ⟨y, rfl⟩ := Option.isSome_iff_exists.mp (by simpa using hsome)
      have hstep : TicksOn y x := (List.isChain_cons_cons.mp hchain).1
      exact ⟨y.tick, hclock y rfl, hstep.1, hstep.2⟩
    have hchain' : List.IsChain TicksOn ((some x).toList ++ sent) := by
      cases prev with
      | none => exact hchain
      | some y => exact (List.isChain_cons_cons.mp hchain).2
    obtain ⟨ctx', s', hrec, hback, hdidx, hshows⟩ :=
      decode_record_sent env hx hfirst hclock' hrecord (by omega) hup halloc
    obtain ⟨events, htrace, hframes, hticks⟩ := hback.trace
    have hidx' : (ctx'.rec_idx + 1).toNat = ctx.rec_idx.toNat + 1 := by
      have hcnt := ctx.rec_cnt.isLt
      rw [hback.rec_idx_eq, BitVec.toNat_add]
      exact Nat.mod_eq_of_lt (by change ctx.rec_idx.toNat + 1 < 256; omega)
    -- all records are data records, so both counters move together and stay below 256
    have hlater : decide (ctx'.rec_data_idx = 0) = (some x).isNone := by
      refine decide_eq_false ?_
      rw [hdidx, hidx, ← hback.rec_idx_eq]
      intro hzero
      rw [hzero] at hidx'
      cases hidx'
    obtain ⟨ctx₂, s₂, events₂, hloop, htrace₂, hframes₂, hticks₂⟩ :=
      ih fuel { ctx' with rec_idx := ctx'.rec_idx + 1 } s' (some x)
        (by dsimp only; rw [hidx', hback.rec_cnt_eq]; omega) (by omega)
        (by dsimp only; rw [hdidx, hidx, hback.rec_idx_eq]) hlater
        (fun y hy => by obtain rfl := Option.some.inj hy; exact hshows) hchain' hsend'
        (by dsimp only; rw [hback.ibuf_eq, hback.ptr_eq]; exact hrest)
        (by
          dsimp only
          rw [hback.end_eq, hback.ptr_eq]
          change _ + (records false sent).length ≤ _
          omega)
        hback.net_up
    refine ⟨ctx₂, s₂, events ++ events₂, ?_, ?_, ?_, ?_⟩
    · rw [decode_records, if_pos ⟨hlt, rfl⟩, hrec]
      exact hloop
    · rw [htrace₂, htrace, List.append_assoc]
    · rw [delivered_append, hframes, hframes₂]; rfl
    · rw [tick_readings_append, hticks, hticks₂]; rfl

/-- Every list of at most 255 frames comes back: the decoder accepts the packet,
delivers these frames in this order, and dates each by its true tick modulo
`2 ^ 16`. -/
theorem decode_sent_packet (env : Env) (s : RxState) (ibuf : ℕ → u8) (byte0 : u8)
    (sent : List Sent) (hcount : sent.length ≤ 255) (hsend : ∀ x ∈ sent, Sendable x.frame)
    (hticks : List.IsChain TicksOn sent) (hbytes : Holds ibuf 0 (sent_packet byte0 sent))
    (hup : s.fwd.netif_running = true) (halloc : ∀ k, (env.alloc_can_skb k).isSome = true) :
    ∃ ctx' s' events,
      decode_incoming_buf env ibuf (sent_packet byte0 sent).length s = (0, ctx', s')
        ∧ s'.trace = s.trace ++ events
        ∧ delivered events = sent.map (fun x => received_frame x.frame)
        ∧ tick_readings events = sent.map (fun x => BitVec.ofNat 16 x.tick) := by
  obtain ⟨hhead, hrecords⟩ :=
    (@holds_append_iff ibuf 0 [byte0, BitVec.ofNat 8 sent.length] (records true sent)).mp hbytes
  have hcnt : ibuf 1 = BitVec.ofNat 8 sent.length := hhead 1 (by simp)
  have hlen : (ibuf 1).toNat = sent.length := by
    rw [hcnt, BitVec.toNat_ofNat]; exact Nat.mod_eq_of_lt (by omega)
  refine decode_records_sent env halloc sent 256
    (MsgContext.start ibuf (sent_packet byte0 sent).length) s none ?_ (by omega) rfl rfl
    (fun x hx => by cases hx) hticks hsend hrecords ?_ hup
  · change 0 + sent.length = (ibuf 1).toNat
    rw [hlen, Nat.zero_add]
  · change 2 + (records true sent).length ≤ (sent_packet byte0 sent).length
    rw [sent_packet, List.length_cons, List.length_cons]
    omega

theorem holds_buffer (bytes : List u8) : Holds (buffer bytes) 0 bytes := by
  intro i hi
  rw [Nat.zero_add, buffer, List.getD_eq_getElem _ _ hi]

/-- A standard data frame, an extended remote frame and an extended data frame;
the device's low byte wraps once and its clock once. -/
def three_sent : List Sent :=
  [⟨⟨0x123, 2, #v[1, 2, 0, 0, 0, 0, 0, 0]⟩, 65400, 7, fun _ => 0⟩,
    ⟨⟨0xc1234567, 4, Vector.replicate 8 0⟩, 65530, 8, fun _ => 0⟩,
    ⟨⟨0x9fffffff, 8, #v[1, 2, 3, 4, 5, 6, 7, 8]⟩, 65700, 9, fun _ => 0⟩]

theorem decode_sent_packet_three :
    ∃ ctx' s' events,
      decode_incoming_buf Env.plenty (buffer (sent_packet 0 three_sent))
          (sent_packet 0 three_sent).length (RxState.idle true) = (0, ctx', s')
        ∧ s'.trace = (RxState.idle true).trace ++ events
        ∧ delivered events = three_sent.map (fun x => received_frame x.frame)
        ∧ tick_readings events = three_sent.map (fun x => BitVec.ofNat 16 x.tick) := by
  refine decode_sent_packet Env.plenty (RxState.idle true) _ 0 three_sent (by decide) ?_ ?_
    (holds_buffer _) rfl (fun _ => rfl)
  · simp only [three_sent, List.forall_mem_cons, List.not_mem_nil, false_implies, implies_true,
      and_true]
    exact ⟨⟨by decide, by decide, by decide⟩, ⟨by decide, by decide, by decide⟩,
      ⟨by decide, by decide, by decide⟩⟩
  · simp only [three_sent, List.isChain_cons_cons, List.isChain_singleton, and_true, TicksOn]
    decide

end DualPcanUsb
