/-
The record layout of one frame, seen from both sides.

`pcan_encode_frame_to_buf` fills a buffer through a moving pointer; the first
section says what stands where afterwards. The second section reads a status byte
and an id field the way `decode_data` does and finds the frame again: four shapes
of id, with the length code and the flags packed around it.
-/
import DualPcanUsb.PacketCodec

set_option autoImplicit false

namespace DualPcanUsb

open LittleEndian

/-! ## The buffer behind the moving pointer -/

def PCAN_USB_TX_BUFFER_SIZE : ℕ := 64

/-- The pointer moves by what was stored. -/
theorem append_pos (o : OutBuf) (bs : List u8) : (o.append bs).pos = o.pos + bs.length := by
  unfold OutBuf.append
  induction bs generalizing o with
  | nil => rfl
  | cons b bs ih =>
    rw [List.foldl_cons, ih, List.length_cons]
    change o.pos + 1 + bs.length = _
    omega

/-- An append leaves what lies before the pointer. -/
theorem append_bytes_of_lt (o : OutBuf) (bs : List u8) {i : ℕ} (hi : i < o.pos) :
    (o.append bs).bytes i = o.bytes i := by
  unfold OutBuf.append
  induction bs generalizing o with
  | nil => rfl
  | cons b bs ih =>
    rw [List.foldl_cons, ih (o.push b) (Nat.lt_succ_of_lt hi)]
    exact Function.update_of_ne hi.ne _ _

/-- And puts its bytes at the pointer. -/
theorem append_bytes (o : OutBuf) (bs : List u8) {i : ℕ} (hi : i < bs.length) :
    (o.append bs).bytes (o.pos + i) = bs[i] := by
  induction bs generalizing o i with
  | nil => exact absurd hi (Nat.not_lt_zero i)
  | cons b bs ih =>
    change ((o.push b).append bs).bytes (o.pos + i) = _
    cases i with
    | zero =>
      rw [append_bytes_of_lt _ _ (Nat.lt_succ_self o.pos)]
      exact Function.update_self ..
    | succ i =>
      have hrest := ih (o.push b) (Nat.lt_of_succ_lt_succ hi)
      rw [show o.pos + (i + 1) = (o.push b).pos + i from by change _ = o.pos + 1 + i; omega, hrest]
      rfl

/-- The bytes of an encoded frame, without the trailing counter. -/
def encoded_bytes (frame : CanFrame) : List u8 :=
  [2, 1, status_len_of frame] ++ (id_bytes frame ++ payload_bytes frame)

/-- The encoder writes these bytes from the start of the buffer and stores the
counter `size - 1` bytes behind them. -/
theorem encode_eq (shared_tx_counter : u8) (frame : CanFrame) (obuf : ℕ → u8) (size : ℕ) :
    pcan_encode_frame_to_buf shared_tx_counter frame obuf size
      = ((⟨obuf, 0, []⟩ : OutBuf).append (encoded_bytes frame)).store
          ((encoded_bytes frame).length + size - 1) shared_tx_counter := by
  have hpos := append_pos ⟨obuf, 0, []⟩ (encoded_bytes frame)
  rw [Nat.zero_add] at hpos
  rw [← hpos]
  simp only [pcan_encode_frame_to_buf, encoded_bytes, OutBuf.append, List.foldl_append,
    List.foldl_cons, List.foldl_nil]

/-- As long as the caller passes a nonzero size, the counter spares the frame. -/
theorem encode_bytes (shared_tx_counter : u8) (frame : CanFrame) (obuf : ℕ → u8) {size i : ℕ}
    (hsize : 0 < size) (hi : i < (encoded_bytes frame).length) :
    (pcan_encode_frame_to_buf shared_tx_counter frame obuf size).bytes i
      = (encoded_bytes frame)[i] := by
  have hat := append_bytes ⟨obuf, 0, []⟩ (encoded_bytes frame) hi
  rw [Nat.zero_add] at hat
  rw [encode_eq, ← hat]
  exact Function.update_of_ne (by omega) _ _

/-- The status/len byte and the id field as the encoder leaves them in a transmit
buffer. -/
def encoded_head (shared_tx_counter : u8) (frame : CanFrame) (obuf : ℕ → u8) : List u8 :=
  (List.range' 2 (1 + (id_bytes frame).length)).map
    (pcan_encode_frame_to_buf shared_tx_counter frame obuf PCAN_USB_TX_BUFFER_SIZE).bytes

/-- The encoder starts a record with its flags and its identifier. -/
theorem encoded_head_eq (shared_tx_counter : u8) (frame : CanFrame) (obuf : ℕ → u8) :
    encoded_head shared_tx_counter frame obuf = status_len_of frame :: id_bytes frame := by
  apply List.ext_getElem
  · rw [encoded_head, List.length_map, List.length_range', List.length_cons, Nat.add_comm]
  intro i hi hi'
  rw [List.length_cons] at hi'
  have hlen : (encoded_bytes frame).length
      = 3 + ((id_bytes frame).length + (payload_bytes frame).length) := by
    rw [encoded_bytes, List.length_append, List.length_append]; rfl
  simp only [encoded_head, List.getElem_map, List.getElem_range', Nat.one_mul]
  -- the counter goes behind the buffer's first bytes, so it spares the record
  rw [encode_bytes _ _ _ (by decide) (by omega)]
  cases i with
  | zero => rfl
  | succ i =>
    rw [List.getElem_cons_succ]
    simp only [encoded_bytes]
    rw [List.getElem_append_right (by simp; omega),
      List.getElem_append_left (by simp; omega)]
    congr 1
    simp
    omega

/-! ## Reading the fields back -/

/-- A frame the driver sends: at most eight bytes, no error flag, and an id that
fits its format. The 29 bits of an extended id fit by themselves. -/
structure Sendable (frame : CanFrame) : Prop where
  dlc_le : frame.can_dlc.toNat ≤ 8
  no_error : frame.can_id &&& CAN_ERR_FLAG = 0
  short_id : frame.can_id &&& CAN_EFF_FLAG = 0 →
    (frame.can_id &&& CAN_EFF_MASK).toNat < 2 ^ 11

/-- The frame as the receiver gets it: bytes behind the length are zero, and a
remote frame has none. -/
def received_frame (frame : CanFrame) : CanFrame :=
  { frame with
    data := Vector.ofFn fun i =>
      if frame.can_id &&& CAN_RTR_FLAG = 0 ∧ i.val < frame.can_dlc.toNat then frame.data[i]
      else 0 }

/-- Masking with a flag is asking for its bit. -/
theorem and_twoPow_eq_zero_iff (x : u32) (i : ℕ) (hi : i < 32) :
    x &&& BitVec.twoPow 32 i = 0 ↔ x.getLsbD i = false := by
  rw [BitVec.and_twoPow]
  cases hbit : x.getLsbD i with
  | false => simp
  | true =>
    rw [if_pos rfl]
    refine iff_of_false (fun hzero => ?_) (by decide)
    -- the bit itself tells the mask from zero
    have hone : (BitVec.twoPow 32 i).getLsbD i = true := by simp [hi]
    rw [hzero] at hone
    simp at hone

theorem eff_flag_eq_zero_iff (x : u32) : x &&& CAN_EFF_FLAG = 0 ↔ x.getLsbD 31 = false :=
  and_twoPow_eq_zero_iff x 31 (by decide)

theorem rtr_flag_eq_zero_iff (x : u32) : x &&& CAN_RTR_FLAG = 0 ↔ x.getLsbD 30 = false :=
  and_twoPow_eq_zero_iff x 30 (by decide)

theorem err_flag_eq_zero_iff (x : u32) : x &&& CAN_ERR_FLAG = 0 ↔ x.getLsbD 29 = false :=
  and_twoPow_eq_zero_iff x 29 (by decide)

/-- A length code with the two flag bits around it. -/
def packed_status (dlc : u8) (rtr ext : Bool) : u8 :=
  let b := if rtr then dlc ||| PCAN_USB_STATUSLEN_RTR else dlc
  if ext then b ||| PCAN_USB_STATUSLEN_EXT_ID else b

/-- From the first byte of a record each field is read back. -/
theorem packed_status_fields : ∀ n ≤ 8, ∀ rtr ext : Bool,
    packed_status (BitVec.ofNat 8 n) rtr ext &&& PCAN_USB_STATUSLEN_INTERNAL = 0
      ∧ (packed_status (BitVec.ofNat 8 n) rtr ext &&& PCAN_USB_STATUSLEN_EXT_ID ≠ 0 ↔ ext = true)
      ∧ (packed_status (BitVec.ofNat 8 n) rtr ext &&& PCAN_USB_STATUSLEN_RTR ≠ 0 ↔ rtr = true)
      ∧ packed_status (BitVec.ofNat 8 n) rtr ext &&& PCAN_USB_STATUSLEN_DLC
          = BitVec.ofNat 8 n := by
  decide

/-- The status byte of a frame, taken apart: a data record with the frame's two
flags and its length. -/
theorem status_len_of_fields (frame : CanFrame) (hdlc : frame.can_dlc.toNat ≤ 8) :
    status_len_of frame &&& PCAN_USB_STATUSLEN_INTERNAL = 0
      ∧ (status_len_of frame &&& PCAN_USB_STATUSLEN_EXT_ID ≠ 0
          ↔ frame.can_id &&& CAN_EFF_FLAG ≠ 0)
      ∧ (status_len_of frame &&& PCAN_USB_STATUSLEN_RTR ≠ 0
          ↔ frame.can_id &&& CAN_RTR_FLAG ≠ 0)
      ∧ status_len_of frame &&& PCAN_USB_STATUSLEN_DLC = frame.can_dlc := by
  have hpacked : status_len_of frame = packed_status (BitVec.ofNat 8 frame.can_dlc.toNat)
      (decide (frame.can_id &&& CAN_RTR_FLAG ≠ 0))
      (decide (frame.can_id &&& CAN_EFF_FLAG ≠ 0)) := by
    rw [BitVec.ofNat_toNat, BitVec.setWidth_eq]
    simp only [status_len_of, packed_status, decide_eq_true_eq]
  have hfields := packed_status_fields frame.can_dlc.toNat hdlc
    (decide (frame.can_id &&& CAN_RTR_FLAG ≠ 0)) (decide (frame.can_id &&& CAN_EFF_FLAG ≠ 0))
  rw [← hpacked] at hfields
  simpa only [decide_eq_true_eq, BitVec.ofNat_toNat, BitVec.setWidth_eq] using hfields

/-- An extended id, shifted up by three into four bytes and down again, comes back
without its remote flag. -/
theorem extended_id_back (x : u32) (herr : x.getLsbD 29 = false) (heff : x.getLsbD 31 = true) :
    (((x &&& CAN_ERR_MASK) <<< 3) >>> 3) ||| CAN_EFF_FLAG = x &&& ~~~CAN_RTR_FLAG := by
  apply BitVec.eq_of_getLsbD_eq
  intro i hi
  -- the top three bits are the flags: set back, shifted out, and clear
  interval_cases i <;> simp_all [CAN_ERR_MASK, CAN_EFF_FLAG, CAN_RTR_FLAG]

/-- So does a standard id, shifted by five into two bytes. -/
theorem standard_id_back (x : u32) (herr : x.getLsbD 29 = false) (heff : x.getLsbD 31 = false)
    (hshort : ∀ i, 11 ≤ i → i < 29 → x.getLsbD i = false) :
    (((x &&& CAN_ERR_MASK) <<< 5).setWidth 16).setWidth 32 >>> 5 = x &&& ~~~CAN_RTR_FLAG := by
  apply BitVec.eq_of_getLsbD_eq
  intro i hi
  -- bits that two bytes cannot hold were clear before
  by_cases hmid : 11 ≤ i ∧ i < 29
  · have hzero := hshort i hmid.1 hmid.2
    simp only [BitVec.getLsbD_and, hzero, Bool.false_and]
    obtain ⟨hlo, hhi⟩ := hmid
    interval_cases i <;> simp
  · obtain hlow | hhigh : i < 11 ∨ 29 ≤ i := by omega
    · interval_cases i <;> simp [CAN_ERR_MASK, CAN_RTR_FLAG]
    · interval_cases i <;> simp_all [CAN_ERR_MASK, CAN_RTR_FLAG]

/-- Taking a flag off and putting it back where it was. -/
theorem remote_flag_back (x : u32) :
    (if x &&& CAN_RTR_FLAG ≠ 0 then (x &&& ~~~CAN_RTR_FLAG) ||| CAN_RTR_FLAG
      else x &&& ~~~CAN_RTR_FLAG) = x := by
  by_cases hrtr : x &&& CAN_RTR_FLAG = 0
  · rw [if_neg (not_not.mpr hrtr)]
    have hbit := (rtr_flag_eq_zero_iff x).mp hrtr
    apply BitVec.eq_of_getLsbD_eq
    intro i hi
    interval_cases i <;> simp_all [CAN_RTR_FLAG]
  · rw [if_pos hrtr]
    have hbit : x.getLsbD 30 = true := by
      simpa using (rtr_flag_eq_zero_iff x).not.mp hrtr
    apply BitVec.eq_of_getLsbD_eq
    intro i hi
    interval_cases i <;> simp_all [CAN_RTR_FLAG]

/-- A bound on the id is a bound on its bits. -/
theorem Sendable.short_bits {frame : CanFrame} (h : Sendable frame)
    (heff : frame.can_id &&& CAN_EFF_FLAG = 0) (i : ℕ) (hlo : 11 ≤ i) (hhi : i < 29) :
    frame.can_id.getLsbD i = false := by
  have htest : (frame.can_id &&& CAN_EFF_MASK).toNat.testBit i = false :=
    Nat.testBit_lt_two_pow ((h.short_id heff).trans_le (Nat.pow_le_pow_right (by decide) hlo))
  have hmask : CAN_EFF_MASK.getLsbD i = true := by interval_cases i <;> rfl
  rw [BitVec.testBit_toNat, BitVec.getLsbD_and, hmask, Bool.and_true] at htest
  exact htest

end DualPcanUsb
