/-
What each function of the record decoder does, stated once.

A record is parsed field by field, and every field has a width that the status
byte and the cursor's counters fix in advance. Each spec below is therefore a
pair: the field fits before `end_`, and the function returns success with an
explicit cursor; or it does not, and the function fails having read nothing at
or past `end_`. Callers cite these and never unfold the callee.
-/
import DualPcanUsb.PacketCodec

set_option autoImplicit false

namespace DualPcanUsb

open LittleEndian

/-! ## Field widths -/

/-- Bytes of the id field. -/
def id_width (status_len : u8) : ℕ :=
  if status_len &&& PCAN_USB_STATUSLEN_EXT_ID ≠ 0 then 4 else 2

/-- Bytes of a timestamp field. -/
def ts_width (is_first : Bool) : ℕ := if is_first then 2 else 1

/-- Bytes of a data record's payload. -/
def payload_len (status_len : u8) : ℕ :=
  if status_len &&& PCAN_USB_STATUSLEN_RTR ≠ 0 then 0
  else (status_len &&& PCAN_USB_STATUSLEN_DLC).toNat

/-- Bytes of a status record's timestamp field. -/
def status_ts_width (status_len : u8) (is_first : Bool) : ℕ :=
  if status_len &&& PCAN_USB_STATUSLEN_TIMESTAMP ≠ 0 then ts_width is_first else 0

/-! ## The cursor only moves forward, and reads below `end_` -/

/-- What every parsing function leaves alone, and what it reads. -/
structure Advanced (ctx ctx' : MsgContext) : Prop where
  ibuf_eq : ctx'.ibuf = ctx.ibuf
  end_eq : ctx'.end_ = ctx.end_
  rec_cnt_eq : ctx'.rec_cnt = ctx.rec_cnt
  rec_idx_eq : ctx'.rec_idx = ctx.rec_idx
  rec_data_idx_eq : ctx'.rec_data_idx = ctx.rec_data_idx
  reads_lt : ∃ rs, ctx'.reads = ctx.reads ++ rs ∧ ∀ i ∈ rs, i < ctx.end_

theorem Advanced.refl (ctx : MsgContext) : Advanced ctx ctx :=
  ⟨rfl, rfl, rfl, rfl, rfl, [], by simp, by simp⟩

/-- Moves forward add up. -/
theorem Advanced.trans {a b c : MsgContext} (hab : Advanced a b) (hbc : Advanced b c) :
    Advanced a c := by
  obtain ⟨rs, hrs, hlt⟩ := hab.reads_lt
  obtain ⟨rs', hrs', hlt'⟩ := hbc.reads_lt
  refine ⟨hbc.ibuf_eq.trans hab.ibuf_eq, hbc.end_eq.trans hab.end_eq,
    hbc.rec_cnt_eq.trans hab.rec_cnt_eq, hbc.rec_idx_eq.trans hab.rec_idx_eq,
    hbc.rec_data_idx_eq.trans hab.rec_data_idx_eq, rs ++ rs', ?_, ?_⟩
  · rw [hrs', hrs, List.append_assoc]
  · intro i hi
    rcases List.mem_append.mp hi with h | h
    · exact hlt i h
    -- the second half compared with its own `end_`, which is the same
    · rw [← hab.end_eq]; exact hlt' i h

/-- Reading bytes that fit advances the cursor, whatever happens to the clock. -/
theorem Advanced.take (ctx : MsgContext) {n : ℕ} (len : ℕ) (ts16 : u16) (prev_ts8 : u8)
    (h : ctx.ptr + n ≤ ctx.end_) :
    Advanced ctx { ctx.take n len with ts16 := ts16, prev_ts8 := prev_ts8 } := by
  refine ⟨rfl, rfl, rfl, rfl, rfl, _, rfl, ?_⟩
  intro i hi
  rw [List.mem_range'_1] at hi
  omega

theorem take_advanced (ctx : MsgContext) {n : ℕ} (len : ℕ) (h : ctx.ptr + n ≤ ctx.end_) :
    Advanced ctx (ctx.take n len) :=
  Advanced.take ctx len ctx.ts16 ctx.prev_ts8 h

/-! ## Timestamps -/

/-- The cursor after a timestamp field. -/
def MsgContext.stamp (is_first : Bool) (ctx : MsgContext) : MsgContext :=
  if is_first then
    { ctx.take 2 2 with
      ts16 := le16 (ctx.peek 0) (ctx.peek 1)
      prev_ts8 := (le16 (ctx.peek 0) (ctx.peek 1) &&& 0x00ff).setWidth 8 }
  else
    { ctx.take 1 1 with
      ts16 := ((if ctx.peek 0 < ctx.prev_ts8 then ctx.ts16 + 0x100 else ctx.ts16) &&& 0xff00)
        ||| (ctx.peek 0).setWidth 16
      prev_ts8 := ctx.peek 0 }

/-- A timestamp that fits is taken. -/
theorem decode_timestamp_of_fits (is_first : Bool) (ctx : MsgContext)
    (h : ctx.ptr + ts_width is_first ≤ ctx.end_) :
    decode_timestamp_in_context is_first ctx = (0, ctx.stamp is_first) := by
  cases is_first with
  | true => rw [decode_timestamp_in_context, if_pos rfl, if_neg (by simpa [ts_width] using h)]; rfl
  | false =>
    rw [decode_timestamp_in_context, if_neg (by decide), if_neg (by simpa [ts_width] using h)]; rfl

/-- A timestamp that does not fit is an error, and nothing is read. -/
theorem decode_timestamp_of_short (is_first : Bool) (ctx : MsgContext)
    (h : ctx.end_ < ctx.ptr + ts_width is_first) :
    decode_timestamp_in_context is_first ctx = (-EINVAL, ctx) := by
  cases is_first with
  | true => rw [decode_timestamp_in_context, if_pos rfl, if_pos (by simpa [ts_width] using h)]
  | false =>
    rw [decode_timestamp_in_context, if_neg (by decide), if_pos (by simpa [ts_width] using h)]

@[simp] theorem stamp_ptr (is_first : Bool) (ctx : MsgContext) :
    (ctx.stamp is_first).ptr = ctx.ptr + ts_width is_first := by
  cases is_first <;> rfl

@[simp] theorem stamp_ibuf (is_first : Bool) (ctx : MsgContext) :
    (ctx.stamp is_first).ibuf = ctx.ibuf := by
  cases is_first <;> rfl

/-- Taking a timestamp moves forward inside the packet. -/
theorem stamp_advanced (is_first : Bool) (ctx : MsgContext)
    (h : ctx.ptr + ts_width is_first ≤ ctx.end_) : Advanced ctx (ctx.stamp is_first) := by
  cases is_first with
  | true => exact Advanced.take ctx 2 _ _ h
  | false => exact Advanced.take ctx 1 _ _ h

/-! ## The id field -/

/-- The id field at the cursor, as `can_id` gets it. -/
def MsgContext.can_id (status_len : u8) (ctx : MsgContext) : u32 :=
  if status_len &&& PCAN_USB_STATUSLEN_EXT_ID ≠ 0 then
    (le32 (ctx.peek 0) (ctx.peek 1) (ctx.peek 2) (ctx.peek 3) >>> 3) ||| CAN_EFF_FLAG
  else (le16 (ctx.peek 0) (ctx.peek 1)).setWidth 32 >>> 5

/-- An identifier that fits is taken, of two bytes or four. -/
theorem decode_can_id_of_fits (status_len : u8) (ctx : MsgContext)
    (h : ctx.ptr + id_width status_len ≤ ctx.end_) :
    decode_can_id status_len ctx
      = some (ctx.can_id status_len, ctx.take (id_width status_len) (id_width status_len)) := by
  unfold decode_can_id MsgContext.can_id
  unfold id_width at h ⊢
  by_cases hext : status_len &&& PCAN_USB_STATUSLEN_EXT_ID ≠ 0
  · rw [if_pos hext] at h
    rw [if_pos hext, if_pos hext, if_pos hext, if_neg (by omega)]
  · rw [if_neg hext] at h
    rw [if_neg hext, if_neg hext, if_neg hext, if_neg (by omega)]

/-- An identifier that does not fit is not read. -/
theorem decode_can_id_of_short (status_len : u8) (ctx : MsgContext)
    (h : ctx.end_ < ctx.ptr + id_width status_len) : decode_can_id status_len ctx = none := by
  unfold decode_can_id
  unfold id_width at h
  by_cases hext : status_len &&& PCAN_USB_STATUSLEN_EXT_ID ≠ 0
  · rw [if_pos hext] at h
    rw [if_pos hext, if_pos (by omega)]
  · rw [if_neg hext] at h
    rw [if_neg hext, if_pos (by omega)]

/-- No id field can reach the error flag, nor the remote flag: the shift leaves
29 bits of the long form and 11 of the short one. -/
theorem can_id_flags (status_len : u8) (ctx : MsgContext) :
    ctx.can_id status_len &&& (CAN_ERR_FLAG ||| CAN_RTR_FLAG) = 0 := by
  unfold MsgContext.can_id
  split
  · generalize le32 (ctx.peek 0) (ctx.peek 1) (ctx.peek 2) (ctx.peek 3) = x
    apply BitVec.eq_of_getLsbD_eq
    intro i hi
    interval_cases i <;> simp [CAN_ERR_FLAG, CAN_RTR_FLAG, CAN_EFF_FLAG]
  · generalize le16 (ctx.peek 0) (ctx.peek 1) = x
    apply BitVec.eq_of_getLsbD_eq
    intro i hi
    interval_cases i <;> simp [CAN_ERR_FLAG, CAN_RTR_FLAG]

/-! ## The fields of a data record

From here on the cursor of a data record stands at its id field, one byte behind
the status byte. -/

/-- The length code a frame gets: at most eight. -/
def record_dlc (status_len : u8) : u8 :=
  if status_len &&& PCAN_USB_STATUSLEN_DLC < CAN_MAX_DLC then
    status_len &&& PCAN_USB_STATUSLEN_DLC
  else CAN_MAX_DLC

/-- The cursor at the payload. -/
def MsgContext.data_body (status_len : u8) (ctx : MsgContext) : MsgContext :=
  (ctx.take (id_width status_len) (id_width status_len)).stamp (ctx.rec_data_idx = 0)

/-- The cursor behind the record. -/
def MsgContext.data_end (status_len : u8) (ctx : MsgContext) : MsgContext :=
  if status_len &&& PCAN_USB_STATUSLEN_RTR ≠ 0 then ctx.data_body status_len
  else (ctx.data_body status_len).take (record_dlc status_len).toNat (payload_len status_len)

/-- The frame the record stands for. -/
def MsgContext.data_frame (status_len : u8) (ctx : MsgContext) : CanFrame where
  can_id :=
    if status_len &&& PCAN_USB_STATUSLEN_RTR ≠ 0 then ctx.can_id status_len ||| CAN_RTR_FLAG
    else ctx.can_id status_len
  can_dlc := record_dlc status_len
  data :=
    if status_len &&& PCAN_USB_STATUSLEN_RTR ≠ 0 then Vector.replicate 8 0
    else payload_at (ctx.data_body status_len) (record_dlc status_len).toNat

/-- No data record yields an error message frame. -/
theorem data_frame_err_flag (status_len : u8) (ctx : MsgContext) :
    (ctx.data_frame status_len).can_id &&& CAN_ERR_FLAG = 0 := by
  have hflags := can_id_flags status_len ctx
  have herr : ctx.can_id status_len &&& CAN_ERR_FLAG = 0 := by
    -- one mask covers both flags; project the error flag out of it
    have hsub : CAN_ERR_FLAG = (CAN_ERR_FLAG ||| CAN_RTR_FLAG) &&& CAN_ERR_FLAG := by decide
    rw [hsub, ← BitVec.and_assoc, hflags]; decide
  unfold MsgContext.data_frame
  dsimp only
  split
  · rw [BitVec.and_or_distrib_right, herr]; decide
  · exact herr

/-- Where the record ends, counted from its id field. -/
def data_len (status_len : u8) (is_first : Bool) : ℕ :=
  id_width status_len + ts_width is_first + payload_len status_len

/-- The length is capped at eight, and never more than the record says. -/
theorem record_dlc_le (status_len : u8) :
    (record_dlc status_len).toNat ≤ (status_len &&& PCAN_USB_STATUSLEN_DLC).toNat
      ∧ (record_dlc status_len).toNat ≤ 8 := by
  have hmax : CAN_MAX_DLC.toNat = 8 := rfl
  unfold record_dlc
  by_cases h : status_len &&& PCAN_USB_STATUSLEN_DLC < CAN_MAX_DLC
  · have hlt := BitVec.lt_def.mp h
    rw [if_pos h]
    omega
  · have hle := BitVec.lt_def.not.mp h
    rw [if_neg h]
    omega

/-- The payload is behind identifier and timestamp. -/
@[simp] theorem data_body_ptr (status_len : u8) (ctx : MsgContext) :
    (ctx.data_body status_len).ptr
      = ctx.ptr + id_width status_len + ts_width (ctx.rec_data_idx = 0) := by
  rw [MsgContext.data_body, stamp_ptr]; rfl

@[simp] theorem data_body_ibuf (status_len : u8) (ctx : MsgContext) :
    (ctx.data_body status_len).ibuf = ctx.ibuf := by
  rw [MsgContext.data_body, stamp_ibuf]; rfl

/-- Getting to the payload moves forward inside the packet. -/
theorem data_body_advanced (status_len : u8) (ctx : MsgContext)
    (h : ctx.ptr + data_len status_len (ctx.rec_data_idx = 0) ≤ ctx.end_) :
    Advanced ctx (ctx.data_body status_len) := by
  unfold data_len at h
  have hid : ctx.ptr + id_width status_len ≤ ctx.end_ := by omega
  have htake := take_advanced ctx (id_width status_len) hid
  refine htake.trans (stamp_advanced _ _ ?_)
  change ctx.ptr + id_width status_len + _ ≤ ctx.end_
  omega

/-- A record ends behind its payload. -/
theorem data_end_ptr (status_len : u8) (ctx : MsgContext) :
    (ctx.data_end status_len).ptr = ctx.ptr + data_len status_len (ctx.rec_data_idx = 0) := by
  unfold MsgContext.data_end data_len payload_len
  split
  · rw [data_body_ptr]; omega
  · change (ctx.data_body status_len).ptr + _ = _
    rw [data_body_ptr]; omega

/-- Getting to the end of a data record moves forward inside the packet. -/
theorem data_end_advanced (status_len : u8) (ctx : MsgContext)
    (h : ctx.ptr + data_len status_len (ctx.rec_data_idx = 0) ≤ ctx.end_) :
    Advanced ctx (ctx.data_end status_len) := by
  have hbody := data_body_advanced status_len ctx h
  unfold MsgContext.data_end
  split
  · exact hbody
  · rename_i hrtr
    refine hbody.trans (take_advanced _ _ ?_)
    -- at most `rec_len` of the checked bytes are copied
    have hdlc := (record_dlc_le status_len).1
    simp only [data_len, payload_len, if_neg hrtr] at h
    rw [data_body_ptr, hbody.end_eq]
    omega

/-- The stores through the frame pointer, one after the other. -/
def RxState.store_frames (s : RxState) (home : FrameHome) (frames : List CanFrame) : RxState :=
  frames.foldl (fun s frame => s.store_frame home frame) s

/-- A record that fits is decoded to its frame, which is what the last of the
stores through the frame pointer leaves behind. -/
theorem decode_frame_of_fits (home : FrameHome) (status_len : u8) (frame : CanFrame)
    (ctx : MsgContext) (s : RxState)
    (h : ctx.ptr + data_len status_len (ctx.rec_data_idx = 0) ≤ ctx.end_) :
    ∃ f₁ f₂, decode_frame home status_len frame ctx s
      = (some (ctx.data_frame status_len), ctx.data_end status_len,
          s.store_frames home [f₁, f₂, ctx.data_frame status_len]) := by
  have hadv := data_body_advanced status_len ctx h
  have hptr := data_body_ptr status_len ctx
  unfold data_len at h
  have hid := decode_can_id_of_fits status_len ctx (by omega)
  have hts : decode_timestamp_in_context (ctx.rec_data_idx = 0)
      (ctx.take (id_width status_len) (id_width status_len)) = (0, ctx.data_body status_len) :=
    decode_timestamp_of_fits _ _
      (by change ctx.ptr + id_width status_len + _ ≤ ctx.end_; omega)
  -- the frame after id and length are stored, and after the payload is cleared
  let f₁ : CanFrame :=
    { frame with can_id := ctx.can_id status_len, can_dlc := record_dlc status_len }
  refine ⟨f₁, { f₁ with data := Vector.replicate 8 0 }, ?_⟩
  unfold decode_frame
  rw [hid]
  dsimp only
  rw [show (ctx.take (id_width status_len) (id_width status_len)).rec_data_idx
    = ctx.rec_data_idx from rfl, hts]
  dsimp only
  rw [if_neg (by decide), MsgContext.data_frame, MsgContext.data_end]
  by_cases hrtr : status_len &&& PCAN_USB_STATUSLEN_RTR ≠ 0
  · simp only [if_pos hrtr]
    rfl
  -- the record is no remote one, so `data_len` counts its payload too
  · have hfit : ¬ (ctx.data_body status_len).ptr + (status_len &&& PCAN_USB_STATUSLEN_DLC).toNat
        > (ctx.data_body status_len).end_ := by
      simp only [payload_len, if_neg hrtr] at h
      rw [hptr, hadv.end_eq]
      omega
    simp only [if_neg hrtr, if_neg hfit, payload_len]
    rfl

/-- A record that does not fit fails, having stored through the frame pointer at
most. -/
theorem decode_frame_of_short (home : FrameHome) (status_len : u8) (frame : CanFrame)
    (ctx : MsgContext) (s : RxState)
    (h : ctx.end_ < ctx.ptr + data_len status_len (ctx.rec_data_idx = 0)) :
    ∃ ctx' frames, decode_frame home status_len frame ctx s
        = (none, ctx', s.store_frames home frames)
      ∧ Advanced ctx ctx' := by
  unfold data_len at h
  unfold decode_frame
  -- the fields in order; the first that does not fit ends the parse
  rcases Nat.lt_or_ge ctx.end_ (ctx.ptr + id_width status_len) with hid | hid
  · rw [decode_can_id_of_short status_len ctx hid]
    exact ⟨ctx, [], rfl, Advanced.refl ctx⟩
  have htake := take_advanced ctx (id_width status_len) hid
  rw [decode_can_id_of_fits status_len ctx hid]
  dsimp only
  rw [show (ctx.take (id_width status_len) (id_width status_len)).rec_data_idx
    = ctx.rec_data_idx from rfl]
  rcases Nat.lt_or_ge ctx.end_
    (ctx.ptr + id_width status_len + ts_width (ctx.rec_data_idx = 0)) with hts | hts
  · rw [decode_timestamp_of_short _ _ hts]
    dsimp only
    rw [if_pos (by decide)]
    exact ⟨_, [_], rfl, htake⟩
  rw [decode_timestamp_of_fits _ _ hts]
  dsimp only
  rw [if_neg (by decide)]
  by_cases hrtr : status_len &&& PCAN_USB_STATUSLEN_RTR ≠ 0
  · simp only [payload_len, if_pos hrtr] at h
    omega
  · simp only [payload_len, if_neg hrtr] at h
    -- id and timestamp fit, so it is the payload that does not
    have hadv := htake.trans (stamp_advanced (ctx.rec_data_idx = 0) _ hts)
    rw [if_neg hrtr, if_pos]
    · exact ⟨_, [_, _], rfl, hadv⟩
    · rw [hadv.end_eq, stamp_ptr]
      change ctx.end_ < ctx.ptr + id_width status_len + _ + _
      omega

end DualPcanUsb
