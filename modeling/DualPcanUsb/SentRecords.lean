/-
From one adapter's frames to another's text.

The frames of a packet are encoded as the transmit path encodes them; parsed, the packet is
the row of their data records again, each with its frame and its tick. With a character
device that has room and no network interface, the records become the ring's messages, and a
row of reads shows them as lines. So what the lines say, put side by side with the frames
that were sent, is their ids and their bytes, in the order they were sent in.
-/
import DualPcanUsb.Reception
import DualPcanUsb.TextStream
import DualPcanUsb.RoundTrip

set_option autoImplicit false

namespace DualPcanUsb

/-! ## Encoded and parsed -/

/-- The record a sent frame arrives as. -/
def Sent.arrives (x : Sent) : Record := .data (received_frame x.frame) (BitVec.ofNat 16 x.tick)

/-- Where the cursor is behind a record of a sent frame. -/
structure Behind (x : Sent) (first : Bool) (ctx ctx' : MsgContext) : Prop where
  ibuf_eq : ctx'.ibuf = ctx.ibuf
  end_eq : ctx'.end_ = ctx.end_
  rec_idx_eq : ctx'.rec_idx = ctx.rec_idx
  rec_data_idx_eq : ctx'.rec_data_idx = ctx.rec_data_idx + 1
  ptr_eq : ctx'.ptr = ctx.ptr + (x.record first).length
  shows : ctx'.Shows x.tick

/-- The parser reads back one record. -/
theorem read_record_sent {ctx : MsgContext} {x : Sent} {first : Bool}
    (hsend : Sendable x.frame) (hfirst : decide (ctx.rec_data_idx = 0) = first)
    (hclock : first = false →
      ∃ tick₀, ctx.Shows tick₀ ∧ tick₀ ≤ x.tick ∧ x.tick < tick₀ + 256)
    (hbytes : Holds ctx.ibuf ctx.ptr (x.record first))
    (hfits : ctx.ptr + (x.record first).length ≤ ctx.end_) :
    ctx.read_record.1 = x.arrives ∧ Behind x first ctx ctx.read_record.2 := by
  have htick : (tick_bytes first x.tick).length = ts_width first := by cases first <;> rfl
  have hlength : (x.record first).length
      = 1 + data_len (status_len_of x.frame) (decide ((ctx.take 1 1).rec_data_idx = 0)) := by
    change _ = 1 + data_len (status_len_of x.frame) (decide (ctx.rec_data_idx = 0))
    rw [Sent.record, encoded_head_eq, hfirst, data_len, id_width_sent hsend,
      payload_len_sent hsend, ← htick]
    simp only [List.length_append, List.length_cons]
    omega
  rw [Sent.record, encoded_head_eq, List.cons_append] at hbytes
  obtain ⟨hstatus, hrest⟩ := (@holds_append_iff _ _ [status_len_of x.frame] _).mp hbytes
  have hbyte : ctx.peek 0 = status_len_of x.frame := hstatus 0 (by simp)
  have hint := (status_len_of_fields x.frame hsend.dlc_le).1
  -- from the id field on, it is a data record that fits
  have hfits' : (ctx.take 1 1).ptr
        + data_len (status_len_of x.frame) (decide ((ctx.take 1 1).rec_data_idx = 0))
      ≤ (ctx.take 1 1).end_ := by
    change ctx.ptr + 1 + _ ≤ ctx.end_
    omega
  have hadv := data_end_advanced (status_len_of x.frame) (ctx.take 1 1) hfits'
  have hshows : ((ctx.take 1 1).data_end (status_len_of x.frame)).Shows x.tick :=
    data_end_shows hsend hfirst hclock hrest
  have hframe : (ctx.take 1 1).data_frame (status_len_of x.frame) = received_frame x.frame :=
    data_frame_sent hsend hfirst hrest
  have hread : ctx.read_record
      = (x.arrives, { (ctx.take 1 1).data_end (status_len_of x.frame) with
          rec_data_idx := ((ctx.take 1 1).data_end (status_len_of x.frame)).rec_data_idx + 1 }) := by
    unfold MsgContext.read_record
    rw [hbyte]
    dsimp only
    rw [if_neg (not_not.mpr hint), MsgContext.read_data, if_pos hfits', hframe, hshows.1]
    rfl
  rw [hread]
  refine ⟨rfl, hadv.ibuf_eq, hadv.end_eq, hadv.rec_idx_eq, congrArg (· + 1) hadv.rec_data_idx_eq,
    ?_, hshows⟩
  change ((ctx.take 1 1).data_end (status_len_of x.frame)).ptr = _
  rw [data_end_ptr, hlength]
  change ctx.ptr + 1 + _ = _
  omega

/-- And a row of them. `prev` is the frame before, whose tick the cursor's clock shows. -/
theorem read_records_sent (sent : List Sent) : ∀ (ctx : MsgContext) (prev : Option Sent),
    ctx.rec_idx.toNat + sent.length ≤ 255 → ctx.rec_data_idx = ctx.rec_idx →
    decide (ctx.rec_data_idx = 0) = prev.isNone → (∀ x, prev = some x → ctx.Shows x.tick) →
    List.IsChain TicksOn (prev.toList ++ sent) → (∀ x ∈ sent, Sendable x.frame) →
    Holds ctx.ibuf ctx.ptr (records prev.isNone sent) →
    ctx.ptr + (records prev.isNone sent).length ≤ ctx.end_ →
    read_records sent.length ctx = sent.map Sent.arrives := by
  induction sent with
  | nil => exact fun _ _ _ _ _ _ _ _ _ _ => rfl
  | cons x sent ih =>
    intro ctx prev hcount hidx hfirst hclock hchain hsend hbytes hfits
    rw [List.length_cons] at hcount
    obtain ⟨hx, hsend'⟩ := List.forall_mem_cons.mp hsend
    rw [records] at hbytes hfits
    obtain ⟨hrecord, hrest⟩ := holds_append_iff.mp hbytes
    rw [List.length_append] at hfits
    have hclock' : prev.isNone = false →
        ∃ tick₀, ctx.Shows tick₀ ∧ tick₀ ≤ x.tick ∧ x.tick < tick₀ + 256 := by
      intro hsome
      obtain ⟨y, rfl⟩ := Option.isSome_iff_exists.mp (by simpa using hsome)
      have hstep : TicksOn y x := (List.isChain_cons_cons.mp hchain).1
      exact ⟨y.tick, hclock y rfl, hstep.1, hstep.2⟩
    have hchain' : List.IsChain TicksOn ((some x).toList ++ sent) := by
      cases prev with
      | none => exact hchain
      | some y => exact (List.isChain_cons_cons.mp hchain).2
    obtain ⟨harrives, hibuf, hend, hrec_idx, hrec_data_idx, hptr, hshows⟩ :=
      read_record_sent hx hfirst hclock' hrecord (by omega)
    have hidx' : (ctx.read_record.2.rec_idx + 1).toNat = ctx.rec_idx.toNat + 1 := by
      rw [hrec_idx, BitVec.toNat_add]
      exact Nat.mod_eq_of_lt (by change ctx.rec_idx.toNat + 1 < 256; omega)
    -- all records are data records, so both counters move together and stay below 256
    have hlater : decide (ctx.read_record.2.rec_data_idx = 0) = (some x).isNone := by
      refine decide_eq_false ?_
      rw [hrec_data_idx, hidx, ← hrec_idx]
      intro hzero
      rw [hzero] at hidx'
      cases hidx'
    have hrow := ih { ctx.read_record.2 with rec_idx := ctx.read_record.2.rec_idx + 1 } (some x)
      (by dsimp only; rw [hidx']; omega) (by dsimp only; rw [hrec_data_idx, hidx, hrec_idx])
      hlater (fun y hy => by obtain rfl := Option.some.inj hy; exact hshows) hchain' hsend'
      (by dsimp only; rw [hibuf, hptr]; exact hrest)
      (by
        dsimp only
        rw [hend, hptr]
        change _ + (records false sent).length ≤ _
        omega)
    rw [List.length_cons, read_records]
    dsimp only
    rw [harrives, if_pos (show x.arrives.whole = true from rfl), hrow, List.map_cons]

/-- The packet of any frames that can be sent is parsed as their records, and as nothing
else. -/
theorem sent_packet_parses (ibuf : ℕ → u8) (byte0 : u8) (sent : List Sent)
    (hcount : sent.length ≤ 255) (hsend : ∀ x ∈ sent, Sendable x.frame)
    (hticks : List.IsChain TicksOn sent) (hbytes : Holds ibuf 0 (sent_packet byte0 sent)) :
    packet_records ibuf (sent_packet byte0 sent).length = sent.map Sent.arrives := by
  obtain ⟨hhead, hrecords⟩ :=
    (@holds_append_iff ibuf 0 [byte0, BitVec.ofNat 8 sent.length] (records true sent)).mp hbytes
  have hcnt : ibuf 1 = BitVec.ofNat 8 sent.length := hhead 1 (by simp)
  have hlen : (ibuf 1).toNat = sent.length := by
    rw [hcnt, BitVec.toNat_ofNat]
    exact Nat.mod_eq_of_lt (by omega)
  rw [packet_records, hlen]
  refine read_records_sent sent (MsgContext.start ibuf (sent_packet byte0 sent).length) none ?_
    rfl rfl (fun x hx => by cases hx) hticks hsend hrecords ?_
  · change 0 + sent.length ≤ 255
    omega
  · change 2 + (records true sent).length ≤ (sent_packet byte0 sent).length
    rw [sent_packet, List.length_cons, List.length_cons]
    omega

/-! ## Into the ring -/

/-- The character device is open, and the network interface is down. -/
structure RxState.StreamOnly (s : RxState) : Prop where
  down : s.fwd.netif_running = false
  in_use : s.fwd.char_dev.InUse

def RxState.unread (s : RxState) : List ChardevMsg := s.fwd.char_dev.unread_msgs

/-- A data record goes to a ring that has room. -/
theorem RxState.StreamOnly.run_data {s : RxState} (h : s.StreamOnly)
    (hroom : s.unread.length < ring_size) (env : Env) (frame : CanFrame) (ts16 : u16) :
    (run_data env frame ts16 s).1 = 0 ∧ (run_data env frame ts16 s).2.StreamOnly
      ∧ (run_data env frame ts16 s).2.unread
        = s.unread ++ [message_of env ts16 frame s] := by
  obtain ⟨hunread, hin_use⟩ := h.in_use.offer (message_of env ts16 frame s)
  have hslot := h.in_use.sample.2
  have hlt : s.fwd.char_dev.rx_unread_cnt < 8 := by
    have hlen : s.fwd.char_dev.unread_msgs.length < 8 := hroom
    rw [length_unread_msgs] at hlen
    omega
  rw [if_pos hlt] at hslot
  unfold DualPcanUsb.run_data
  dsimp only
  rw [if_neg (by rw [h.down]; decide), if_pos (by rw [hslot]; rfl)]
  refine ⟨rfl, ⟨h.down, hin_use⟩, ?_⟩
  rw [Mailbox.put] at hunread
  exact hunread.trans (if_pos hroom)

/-- So do the records of a packet, as long as there is room for all. -/
theorem RxState.StreamOnly.run_sent (env : Env) (sent : List Sent) : ∀ {s : RxState},
    s.StreamOnly → s.unread.length + sent.length ≤ ring_size →
    ∃ s' msgs, run_records env (sent.map Sent.arrives) s = (0, s') ∧ s'.StreamOnly
      ∧ s'.unread = s.unread ++ msgs
      ∧ msgs.map ChardevMsg.frame = sent.map fun x => received_frame x.frame := by
  induction sent with
  | nil => exact fun {s} h _ => ⟨s, [], rfl, h, (List.append_nil _).symm, rfl⟩
  | cons x sent ih =>
    intro s h hroom
    rw [List.length_cons] at hroom
    obtain ⟨hok, honly, hunread⟩ := h.run_data (by omega) env (received_frame x.frame)
      (BitVec.ofNat 16 x.tick)
    have hroom' : (DualPcanUsb.run_data env (received_frame x.frame) (BitVec.ofNat 16 x.tick)
        s).2.unread.length + sent.length ≤ ring_size := by
      rw [hunread, List.length_append, List.length_singleton]
      omega
    obtain ⟨s', msgs, hrun, honly', hunread', hframes⟩ := ih honly hroom'
    refine ⟨s', message_of env (BitVec.ofNat 16 x.tick) (received_frame x.frame) s :: msgs,
      ?_, honly', ?_, ?_⟩
    · rw [List.map_cons, run_records]
      exact (if_pos hok).trans hrun
    · rw [hunread', hunread, List.append_assoc]
      rfl
    · rw [List.map_cons, List.map_cons, hframes]
      rfl

/-- The transfer is accepted. -/
theorem RxState.StreamOnly.handle_sent {s : RxState} (h : s.StreamOnly) (env : Env)
    {ibuf : ℕ → u8} {byte0 : u8} {sent : List Sent}
    (hroom : s.unread.length + sent.length ≤ ring_size) (hsome : sent ≠ [])
    (hsend : ∀ x ∈ sent, Sendable x.frame) (hticks : List.IsChain TicksOn sent)
    (hbytes : Holds ibuf 0 (sent_packet byte0 sent)) :
    ∃ s' msgs, pcan_decode_and_handle_urb env ibuf (sent_packet byte0 sent).length s = (0, s')
      ∧ s'.StreamOnly ∧ s'.unread = s.unread ++ msgs
      ∧ msgs.map ChardevMsg.frame = sent.map fun x => received_frame x.frame := by
  have hle : sent.length ≤ 8 := by
    have : ring_size = 8 := rfl
    omega
  have hlong : (sent_packet byte0 sent).length > PCAN_USB_MSG_HEADER_LEN := by
    obtain ⟨x, rest, rfl⟩ := List.exists_cons_of_ne_nil hsome
    change 2 < _
    rw [sent_packet, records, Sent.record, encoded_head_eq]
    simp only [List.length_cons, List.length_append]
    omega
  have hrecords : urb_records ibuf (sent_packet byte0 sent).length = sent.map Sent.arrives := by
    rw [urb_records, if_pos hlong]
    exact sent_packet_parses ibuf byte0 sent (by omega) hsend hticks hbytes
  obtain ⟨s', msgs, hrun, honly, hunread, hframes⟩ := h.run_sent env sent hroom
  exact ⟨s', msgs, by rw [handle_urb_eq_run, hrecords, hrun], honly, hunread, hframes⟩

/-! ## Out as text -/

/-- The conversion of seconds to a calendar time gives a date, with a year of four digits. -/
def ReadEnv.Calendar (env : ReadEnv) : Prop :=
  ∀ msg, (env.when_ msg).Valid
    ∧ 0 ≤ (env.when_ msg).tm_year + 1900 ∧ (env.when_ msg).tm_year + 1900 ≤ 9999

/-- What a line is to say of a sent frame: its id without the flags, and its bytes. -/
def shown_as (frame : CanFrame) : ℕ × List u8 :=
  ((frame.can_id &&& CAN_EFF_MASK).toNat,
    (received_frame frame).data.toList.take frame.can_dlc.toNat)

/-- What a line does say. -/
def LineFields.says (line : LineFields) : ℕ × List u8 := (line.id, line.data)

/-- At most eight frames, encoded by one driver and decoded by another with an empty ring:
whatever the sizes of the reads that follow, the lines they return say, in order, what the
first of the frames are, and as many frames are left in the ring as no line has been
returned for. -/
theorem sent_frames_read_as_text (env : Env) (renv : ReadEnv) (s : RxState) (ibuf : ℕ → u8)
    (byte0 : u8) (sent : List Sent) (st : ReaderState) (calls : List StreamCall)
    (hdown : s.StreamOnly) (hempty : s.unread = []) (hsome : sent ≠ [])
    (hroom : sent.length ≤ ring_size) (hsend : ∀ x ∈ sent, Sendable x.frame)
    (hticks : List.IsChain TicksOn sent) (hbytes : Holds ibuf 0 (sent_packet byte0 sent))
    (hst : st.d.rx
      = (pcan_decode_and_handle_urb env ibuf (sent_packet byte0 sent).length s).2)
    (hname : 32 ∉ renv.dev_name) (hname_le : renv.dev_name.length ≤ 9)
    (hcalendar : renv.Calendar) (hserved : ∀ call ∈ calls, call.Served) :
    ∃ text st' lines, st.read_row renv calls = some (text, st')
      ∧ parse_text text = some lines
      ∧ lines.map LineFields.says
        = ((sent.take lines.length).map fun x => shown_as x.frame)
      ∧ lines.length + st'.dev.unread_msgs.length = sent.length := by
  obtain ⟨s', msgs, hhandle, honly, hunread, hframes⟩ := hdown.handle_sent env
    (by rw [hempty, List.length_nil, Nat.zero_add]; exact hroom) hsome hsend hticks hbytes
  rw [hempty, List.nil_append] at hunread
  rw [hhandle] at hst
  have hdev : st.dev.unread_msgs = msgs := by
    rw [← hunread, ReaderState.dev, Device.char_dev, hst]
    rfl
  -- each of the ring's frames is one that was sent, so it has at most eight bytes
  have hreadable : renv.Readable st.dev := by
    have hring : st.dev = s'.fwd.char_dev := by
      rw [ReaderState.dev, Device.char_dev, hst]
    refine ⟨?_, ?_, fun msg hmsg => ?_, hname_le⟩
    · rw [hring]
      exact honly.in_use.count_range
    · rw [hring]
      exact honly.in_use.idx_range
    · rw [hdev] at hmsg
      have hframe : msg.frame ∈ sent.map fun x => received_frame x.frame := by
        rw [← hframes]
        exact List.mem_map_of_mem hmsg
      obtain ⟨x, hx, hxframe⟩ := List.mem_map.mp hframe
      obtain ⟨hvalid, hyear⟩ := hcalendar msg
      refine ⟨?_, hyear, hvalid⟩
      rw [← hxframe]
      exact (hsend x hx).dlc_le
  obtain ⟨st', front, hrow, hsplit, hprint⟩ := read_row_lines calls hreadable hserved
  have hfront : front.map ChardevMsg.frame
      = (sent.take front.length).map fun x => received_frame x.frame := by
    have hmap := hframes
    rw [← hdev, hsplit, List.map_append] at hmap
    have hlen : front.length = (front.map ChardevMsg.frame).length := (List.length_map ..).symm
    rw [List.map_take, ← hmap, hlen, List.take_left]
  refine ⟨_, st', _, hrow, text_reads_back hname front hprint, ?_, ?_⟩
  · rw [List.length_map, List.map_map]
    have hsays := congrArg (List.map fun frame : CanFrame =>
      ((frame.can_id &&& CAN_EFF_MASK).toNat, frame.data.toList.take frame.can_dlc.toNat)) hfront
    rw [List.map_map, List.map_map] at hsays
    exact hsays
  · have hlen := congrArg List.length hframes
    rw [List.length_map, List.length_map, ← hdev, hsplit, List.length_append] at hlen
    rw [List.length_map, hlen]

/-- Each of them is a frame that can be sent. -/
theorem three_sent_sendable : ∀ x ∈ three_sent, Sendable x.frame := by
  simp only [three_sent, List.forall_mem_cons, List.not_mem_nil, false_implies, implies_true,
    and_true]
  exact ⟨⟨by decide, by decide, by decide⟩, ⟨by decide, by decide, by decide⟩,
    ⟨by decide, by decide, by decide⟩⟩

theorem three_sent_ticks_on : List.IsChain TicksOn three_sent := by
  simp only [three_sent, List.isChain_cons_cons, List.isChain_singleton, and_true, TicksOn]
  decide

/-- A started device, whose character device alone is open. -/
def stream_opened : RxState :=
  { ring_opened false with
    fwd := { (ring_opened false).fwd with stage := PCAN_USB_STAGE_ONE_STARTED } }

/-- The three frames have come to an empty ring. -/
def three_received : ReaderState where
  d := { (Device.plugged 8) with
    rx := (pcan_decode_and_handle_urb Env.plenty (buffer (sent_packet 0 three_sent))
      (sent_packet 0 three_sent).length stream_opened).2 }
  ioctl_rxmsgs := fun _ => 0
  rd_kernel_buf := fun _ => 0
  rd_user_buf := 0
  rd_mapped_addr := none
  user := fun _ => 0

/-- The calendar always gives the same morning, which can be printed. -/
theorem read_env_calendar : read_env.Calendar := by
  intro msg
  have hwhen : read_env.when_ msg
      = { tm_sec := 0, tm_min := 0, tm_hour := 8, tm_mday := 2, tm_mon := 0, tm_year := 124 } := rfl
  rw [hwhen]
  exact ⟨⟨by decide, by decide, by decide, by decide, by decide⟩, by decide, by decide⟩

theorem sent_frames_read_as_text_three :
    ∃ text st' lines, three_received.read_row read_env three_calls = some (text, st')
      ∧ parse_text text = some lines
      ∧ lines.map LineFields.says
        = ((three_sent.take lines.length).map fun x => shown_as x.frame)
      ∧ lines.length + st'.dev.unread_msgs.length = three_sent.length := by
  refine sent_frames_read_as_text Env.plenty read_env stream_opened
    (buffer (sent_packet 0 three_sent)) 0 three_sent three_received three_calls
    ⟨rfl, ring_opened_in_use false⟩ rfl (by decide) (by decide) three_sent_sendable
    three_sent_ticks_on (holds_buffer _) rfl (by decide) (by decide) read_env_calendar
    fun call hcall => ?_
  simp only [three_calls, List.mem_cons, List.not_mem_nil, or_false] at hcall
  rcases hcall with rfl | rfl | rfl
  all_goals
    refine ⟨rfl, fun err signal_pending hblock => ?_⟩
    cases hblock

end DualPcanUsb
