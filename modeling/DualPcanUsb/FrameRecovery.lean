/-
What `PCANFD_IOCTL_RECV_MSGS` tells about a frame.

The id of a message is masked; the format and the remote flag go into its flags, through
`get_msgtype_from_canid`. That function returns at the first class it finds, and asks for the
remote flag before it asks for the format, so a remote frame's format is not reported. All
the rest is: the frame can be put together again from the message.
-/
import DualPcanUsb.RingContents

set_option autoImplicit false

namespace DualPcanUsb

/-! ## Frames and messages -/

def PCANFD_MSG_RTR : u32 := 0x00000001
def PCANFD_MSG_EXT : u32 := 0x00000002

def CanFrame.Extended (frame : CanFrame) : Prop := frame.can_id &&& CAN_EFF_FLAG ≠ 0

def CanFrame.Remote (frame : CanFrame) : Prop := frame.can_id &&& CAN_RTR_FLAG ≠ 0

instance (frame : CanFrame) : Decidable frame.Extended := inferInstanceAs (Decidable (_ ≠ _))

instance (frame : CanFrame) : Decidable frame.Remote := inferInstanceAs (Decidable (_ ≠ _))

/-- The same id, format, remote flag, length and payload. -/
structure CanFrame.Alike (f g : CanFrame) : Prop where
  id : f.id = g.id
  extended : f.Extended ↔ g.Extended
  remote : f.Remote ↔ g.Remote
  dlc : f.can_dlc = g.can_dlc
  payload : ∀ (i : ℕ) (hi : i < 8), i < f.can_dlc.toNat → f.data[i] = g.data[i]

/-- The same id, flags, length and payload. -/
structure PcanfdMsg.Alike (m m' : PcanfdMsg) : Prop where
  id : m.id = m'.id
  flags : m.flags = m'.flags
  data_len : m.data_len = m'.data_len
  payload : ∀ i < m.data_len.toNat, m.data i = m'.data i

/-- The frame a message is about, from its id, the two flag bits and its payload. -/
def PcanfdMsg.recover (m : PcanfdMsg) : CanFrame where
  can_id := m.id ||| (if m.flags &&& PCANFD_MSG_EXT ≠ 0 then CAN_EFF_FLAG else 0)
    ||| (if m.flags &&& PCANFD_MSG_RTR ≠ 0 then CAN_RTR_FLAG else 0)
  can_dlc := m.data_len.setWidth 8
  data := Vector.ofFn fun i => if i.val < m.data_len.toNat then m.data i else 0

/-! ## The type of a message -/

/-- An id and its flag bits. -/
theorem can_id_parts (x : u32) (herr : x &&& CAN_ERR_FLAG = 0) :
    x = x &&& CAN_EFF_MASK ||| x &&& CAN_EFF_FLAG ||| x &&& CAN_RTR_FLAG := by
  have hall : CAN_EFF_MASK ||| CAN_EFF_FLAG ||| CAN_RTR_FLAG ||| CAN_ERR_FLAG = BitVec.allOnes 32 := by
    decide
  calc x = x &&& (CAN_EFF_MASK ||| CAN_EFF_FLAG ||| CAN_RTR_FLAG ||| CAN_ERR_FLAG) := by
        rw [hall, BitVec.and_allOnes]
    _ = x &&& CAN_EFF_MASK ||| x &&& CAN_EFF_FLAG ||| x &&& CAN_RTR_FLAG ||| x &&& CAN_ERR_FLAG := by
        simp only [BitVec.and_or_distrib_left]
    _ = x &&& CAN_EFF_MASK ||| x &&& CAN_EFF_FLAG ||| x &&& CAN_RTR_FLAG := by
        rw [herr]
        exact BitVec.or_zero

/-- A flag masked is the flag or nothing. -/
theorem and_flag_eq (x : u32) (i : ℕ) (hi : i < 32) :
    x &&& BitVec.twoPow 32 i
      = if x &&& BitVec.twoPow 32 i ≠ 0 then BitVec.twoPow 32 i else 0 := by
  by_cases hzero : x &&& BitVec.twoPow 32 i = 0
  · rw [if_neg (not_not.mpr hzero), hzero]
  · rw [if_pos hzero]
    have hbit : x.getLsbD i = true := by
      simpa using (and_twoPow_eq_zero_iff x i hi).not.mp hzero
    rw [BitVec.and_twoPow, if_pos hbit]

theorem and_eff_flag_eq (frame : CanFrame) :
    frame.can_id &&& CAN_EFF_FLAG = if frame.Extended then CAN_EFF_FLAG else 0 :=
  and_flag_eq frame.can_id 31 (by decide)

theorem and_rtr_flag_eq (frame : CanFrame) :
    frame.can_id &&& CAN_RTR_FLAG = if frame.Remote then CAN_RTR_FLAG else 0 :=
  and_flag_eq frame.can_id 30 (by decide)

/-- Bits above a standard id: for a data frame, those of a long one. -/
theorem above_sff_iff {frame : CanFrame} (h : frame.WellFormed) (hdata : ¬ frame.Remote) :
    frame.can_id &&& ~~~CAN_SFF_MASK ≠ 0 ↔ frame.Extended := by
  have hsub : CAN_EFF_FLAG = ~~~CAN_SFF_MASK &&& CAN_EFF_FLAG := by decide
  constructor
  · intro habove
    by_contra hshort
    have hshort : frame.can_id &&& CAN_EFF_FLAG = 0 := not_not.mp hshort
    have hdata : frame.can_id &&& CAN_RTR_FLAG = 0 := not_not.mp hdata
    -- without flags the word is the id, which is short
    have hid := can_id_parts frame.can_id h.no_error
    simp only [hshort, hdata, BitVec.ofNat_eq_ofNat, BitVec.or_zero] at hid
    have hlt : frame.can_id.toNat < 2 ^ 11 := by
      rw [hid]
      exact h.short_id hshort
    apply habove
    apply BitVec.eq_of_getLsbD_eq
    intro i hi
    by_cases hlow : i < 11
    · interval_cases i <;> simp [CAN_SFF_MASK]
    · have hbit : frame.can_id.getLsbD i = false := by
        rw [← BitVec.testBit_toNat]
        exact Nat.testBit_lt_two_pow (hlt.trans_le (Nat.pow_le_pow_right (by decide) (by omega)))
      simp [hbit]
  · intro hext hzero
    apply hext
    rw [hsub, ← BitVec.and_assoc, hzero]
    exact BitVec.zero_and

/-- The chain of early returns, for the frames there are. -/
theorem msgtype_of_wellFormed {frame : CanFrame} (h : frame.WellFormed) :
    get_msgtype_from_canid frame.can_id = if frame.Remote then MSGTYPE_RTR
      else if frame.Extended then MSGTYPE_EXTENDED else MSGTYPE_STANDARD := by
  unfold get_msgtype_from_canid
  rw [if_neg (not_not.mpr h.no_error)]
  by_cases hremote : frame.Remote
  · rw [if_pos hremote, if_pos (show frame.can_id &&& CAN_RTR_FLAG ≠ 0 from hremote)]
  · rw [if_neg hremote, if_neg (show ¬ frame.can_id &&& CAN_RTR_FLAG ≠ 0 from hremote)]
    simp only [above_sff_iff h hremote]

/-- The two bits of a message's flags. -/
theorem flags_of_wellFormed (base : TimeBase) (t : ktime_t) (m : PcanfdMsg) {frame : CanFrame}
    (h : frame.WellFormed) :
    ((m.receive base ⟨t, frame⟩).flags &&& PCANFD_MSG_RTR ≠ 0 ↔ frame.Remote)
      ∧ ((m.receive base ⟨t, frame⟩).flags &&& PCANFD_MSG_EXT ≠ 0
          ↔ ¬ frame.Remote ∧ frame.Extended) := by
  have hflags : (m.receive base ⟨t, frame⟩).flags
      = (get_msgtype_from_canid frame.can_id).setWidth 32
        ||| (PCANFD_TIMESTAMP ||| PCANFD_HWTIMESTAMP) := rfl
  rw [hflags, msgtype_of_wellFormed h]
  by_cases hremote : frame.Remote
  · simp only [hremote, if_true, not_true_eq_false, false_and, iff_true, iff_false]
    decide
  · by_cases hext : frame.Extended
    · simp only [hremote, hext, if_true, if_false, not_false_eq_true, true_and, iff_true, iff_false]
      decide
    · simp only [hremote, hext, if_false, and_false, iff_false]
      decide

/-! ## Back from the message -/

theorem data_len_toNat (base : TimeBase) (rx_msg : ChardevMsg) (m : PcanfdMsg) :
    (m.receive base rx_msg).data_len.toNat = rx_msg.frame.can_dlc.toNat :=
  BitVec.toNat_setWidth_of_le (by decide)

/-- The payload is copied byte by byte. -/
theorem receive_payload (base : TimeBase) (t : ktime_t) (m : PcanfdMsg) (frame : CanFrame) {i : ℕ}
    (hi : i < 8) (hlt : i < frame.can_dlc.toNat) :
    (m.receive base ⟨t, frame⟩).data i = frame.data[i] := by
  change (if i < frame.can_dlc.toNat then frame.data.toList.getD i 0 else m.data i) = _
  rw [if_pos hlt, List.getD_eq_getElem _ _ (by simpa using hi), Vector.getElem_toList]

/-- Put together again, a frame has lost its format bit if it is a remote one, and nothing
else. -/
theorem recover_receive (base : TimeBase) (t : ktime_t) (m : PcanfdMsg) {frame : CanFrame}
    (h : frame.WellFormed) :
    (m.receive base ⟨t, frame⟩).recover
      = { frame with
          can_id := frame.can_id &&& CAN_EFF_MASK
            ||| (if ¬ frame.Remote ∧ frame.Extended then CAN_EFF_FLAG else 0)
            ||| (if frame.Remote then CAN_RTR_FLAG else 0) } := by
  obtain ⟨hrtr, hext⟩ := flags_of_wellFormed base t m h
  have hlen := data_len_toNat base ⟨t, frame⟩ m
  unfold PcanfdMsg.recover
  simp only [hrtr, hext, hlen, CanFrame.mk.injEq]
  refine ⟨rfl, ?_, ?_⟩
  · change (frame.can_dlc.setWidth 16).setWidth 8 = frame.can_dlc
    simp
  · ext i hi
    rw [Vector.getElem_ofFn]
    by_cases hlt : i < frame.can_dlc.toNat
    · rw [if_pos hlt, receive_payload base t m frame hi hlt]
    · rw [if_neg hlt, h.padding i hi (not_lt.mp hlt)]

/-- The original comes back unless it is a remote frame in the extended format. -/
theorem recover_receive_iff (base : TimeBase) (t : ktime_t) (m : PcanfdMsg) {frame : CanFrame}
    (h : frame.WellFormed) :
    (m.receive base ⟨t, frame⟩).recover = frame ↔ ¬ (frame.Remote ∧ frame.Extended) := by
  have hparts := can_id_parts frame.can_id h.no_error
  rw [and_eff_flag_eq, and_rtr_flag_eq] at hparts
  rw [recover_receive base t m h]
  constructor
  · rintro heq ⟨hremote, hext⟩
    -- the recovered id has no format bit
    have hid : _ = frame.can_id := congrArg CanFrame.can_id heq
    dsimp only at hid
    rw [if_neg (fun hneg => hneg.1 hremote), if_pos hremote] at hid
    apply hext
    rw [← hid]
    simp only [BitVec.ofNat_eq_ofNat, BitVec.or_zero, BitVec.and_or_distrib_right, BitVec.and_assoc]
    have hmask : CAN_EFF_MASK &&& CAN_EFF_FLAG = 0 := by decide
    have hrtr : CAN_RTR_FLAG &&& CAN_EFF_FLAG = 0 := by decide
    simp only [hmask, hrtr, BitVec.ofNat_eq_ofNat, BitVec.and_zero, BitVec.or_zero]
  · intro hnot
    have hext : (¬ frame.Remote ∧ frame.Extended) ↔ frame.Extended := by
      constructor
      · exact fun hboth => hboth.2
      · exact fun hext => ⟨fun hremote => hnot ⟨hremote, hext⟩, hext⟩
    simp only [hext]
    rw [← hparts]

/-! ## Two frames -/

section

variable (base base' : TimeBase) (t t' : ktime_t) (m m' : PcanfdMsg) {f g : CanFrame}

/-- What messages that are alike say about their frames. -/
theorem alike_receive_iff (hf : f.WellFormed) (hg : g.WellFormed) :
    (m.receive base ⟨t, f⟩).Alike (m'.receive base' ⟨t', g⟩)
      ↔ f.id = g.id ∧ (f.Remote ↔ g.Remote) ∧ (¬ f.Remote → (f.Extended ↔ g.Extended))
        ∧ f.can_dlc = g.can_dlc
        ∧ ∀ (i : ℕ) (hi : i < 8), i < f.can_dlc.toNat → f.data[i] = g.data[i] := by
  obtain ⟨hrtr, hext⟩ := flags_of_wellFormed base t m hf
  obtain ⟨hrtr', hext'⟩ := flags_of_wellFormed base' t' m' hg
  have hlen := data_len_toNat base ⟨t, f⟩ m
  constructor
  · rintro ⟨hid, hflags, hdlc, hpayload⟩
    rw [hflags] at hrtr hext
    have hremote : f.Remote ↔ g.Remote := hrtr.symm.trans hrtr'
    have hcan_dlc : f.can_dlc = g.can_dlc := by
      have hdlc' := congrArg (BitVec.setWidth 8) hdlc
      change (f.can_dlc.setWidth 16).setWidth 8 = (g.can_dlc.setWidth 16).setWidth 8 at hdlc'
      simpa using hdlc'
    refine ⟨congrArg BitVec.toNat hid, hremote, fun hdata => ?_, hcan_dlc, fun i hi hlt => ?_⟩
    · have hboth := hext.symm.trans hext'
      simpa [hdata, ← hremote] using hboth
    · have hbyte := hpayload i (by rw [hlen]; exact hlt)
      rw [receive_payload base t m f hi hlt,
        receive_payload base' t' m' g hi (by rw [← hcan_dlc]; exact hlt)] at hbyte
      exact hbyte
  · rintro ⟨hid, hremote, hformat, hdlc, hpayload⟩
    refine ⟨BitVec.eq_of_toNat_eq hid, ?_, ?_, fun i hi => ?_⟩
    · change (get_msgtype_from_canid f.can_id).setWidth 32 ||| _
        = (get_msgtype_from_canid g.can_id).setWidth 32 ||| _
      rw [msgtype_of_wellFormed hf, msgtype_of_wellFormed hg]
      by_cases hf_remote : f.Remote
      · rw [if_pos hf_remote, if_pos (hremote.mp hf_remote)]
      · rw [if_neg hf_remote, if_neg (fun hg_remote => hf_remote (hremote.mpr hg_remote))]
        simp only [hformat hf_remote]
    · change f.can_dlc.setWidth 16 = g.can_dlc.setWidth 16
      rw [hdlc]
    · rw [hlen] at hi
      have hi8 : i < 8 := hi.trans_le hf.dlc_le
      rw [receive_payload base t m f hi8 hi,
        receive_payload base' t' m' g hi8 (by rw [← hdlc]; exact hi)]
      exact hpayload i hi8 hi

/-- Different frames of the decoder give different messages, whatever their times and the
entries before, exactly if they are not two remote frames that differ in their format only;
and the one frame is recovered from its message exactly if it is not a remote one in the
extended format. -/
theorem frames_told_apart_iff (hf : f.WellFormed) (hg : g.WellFormed) :
    ((¬ f.Alike g → ¬ (m.receive base ⟨t, f⟩).Alike (m'.receive base' ⟨t', g⟩))
        ↔ ¬ (f.Remote ∧ g.Remote ∧ ¬ (f.Extended ↔ g.Extended) ∧ f.id = g.id
            ∧ f.can_dlc = g.can_dlc))
      ∧ ((m.receive base ⟨t, f⟩).recover = f ↔ ¬ (f.Remote ∧ f.Extended)) := by
  refine ⟨?_, recover_receive_iff base t m hf⟩
  rw [alike_receive_iff base base' t t' m m' hf hg]
  constructor
  · rintro happart ⟨hremote, hremote', hformat, hid, hdlc⟩
    refine happart (fun h => hformat h.extended) ⟨hid, iff_of_true hremote hremote',
      fun hdata => absurd hremote hdata, hdlc, fun i hi _ => ?_⟩
    -- remote frames have no payload
    rw [hf.remote_empty hremote, hg.remote_empty hremote']
  · rintro hnot hdiffer ⟨hid, hremote, hformat, hdlc, hpayload⟩
    refine hdiffer ⟨hid, ?_, hremote, hdlc, hpayload⟩
    by_cases hf_remote : f.Remote
    · by_contra hne
      exact hnot ⟨hf_remote, hremote.mp hf_remote, hne, hid, hdlc⟩
    · exact hformat hf_remote

end

/-- Remote requests for id `0x123`, in both formats. -/
def remote_short : CanFrame := ⟨0x40000123, 0, Vector.replicate 8 0⟩
def remote_long : CanFrame := ⟨0xC0000123, 0, Vector.replicate 8 0⟩

theorem remote_short_wellFormed : remote_short.WellFormed :=
  ⟨by decide, by decide, by decide, by decide, by decide, by decide⟩

theorem remote_long_wellFormed : remote_long.WellFormed :=
  ⟨by decide, by decide, by decide, by decide, by decide, by decide⟩

theorem frames_told_apart_iff_remote :
    let base : TimeBase := ⟨⟨1704153600, 0⟩, 0⟩
    let m : PcanfdMsg := ⟨0, 0, 0, 0, 0, 0, fun _ => 0⟩
    ((¬ remote_short.Alike remote_long
          → ¬ (m.receive base ⟨0, remote_short⟩).Alike (m.receive base ⟨0, remote_long⟩))
        ↔ ¬ (remote_short.Remote ∧ remote_long.Remote
            ∧ ¬ (remote_short.Extended ↔ remote_long.Extended)
            ∧ remote_short.id = remote_long.id ∧ remote_short.can_dlc = remote_long.can_dlc))
      ∧ ((m.receive base ⟨0, remote_short⟩).recover = remote_short
          ↔ ¬ (remote_short.Remote ∧ remote_short.Extended)) :=
  frames_told_apart_iff ⟨⟨1704153600, 0⟩, 0⟩ ⟨⟨1704153600, 0⟩, 0⟩ 0 0
    ⟨0, 0, 0, 0, 0, 0, fun _ => 0⟩ ⟨0, 0, 0, 0, 0, 0, fun _ => 0⟩
    remote_short_wellFormed remote_long_wellFormed

/-- Two records the decoder stores the two requests from, and messages that do not tell them
apart. -/
theorem remote_formats_confused :
    let env := Env.plenty
    let s := opened_ring.rx
    let base : TimeBase := ⟨⟨1704153600, 0⟩, 0⟩
    let m : PcanfdMsg := ⟨0, 0, 0, 0, 0, 0, fun _ => 0⟩
    ((decode_incoming_buf env (buffer [0, 1, 0x10, 0x60, 0x24, 0x00, 0x01]) 7
          s).2.2.fwd.char_dev.rx_msgs 0).frame = remote_short
      ∧ ((decode_incoming_buf env (buffer [0, 1, 0x30, 0x18, 0x09, 0x00, 0x00, 0x00, 0x01]) 9
          s).2.2.fwd.char_dev.rx_msgs 0).frame = remote_long
      ∧ ¬ remote_short.Alike remote_long
      ∧ (m.receive base ⟨0, remote_short⟩).Alike (m.receive base ⟨0, remote_long⟩)
      ∧ (m.receive base ⟨0, remote_long⟩).recover ≠ remote_long := by
  refine ⟨by decide, by decide, ?_, ?_, by decide⟩
  · intro h
    exact absurd h.extended (by decide)
  · exact ⟨by decide, by decide, by decide, by decide⟩

end DualPcanUsb
