/-
A packet as a row of records.

`decode_incoming_buf` parses a record and acts on it before it looks at the next one, and
how far it parses depends on how the action went. Here the parse stands alone: from the
packet's bytes to a list of `Record`s, with neither the driver nor the kernel in sight. A
record says what its bytes say and how far they go: a packet can end within a record, and
what had been read by then already counts.

What the records do is the next module's subject, and that the two together are the
decoder is its theorem.
-/
import DualPcanUsb.PacketLoop

set_option autoImplicit false

namespace DualPcanUsb

open LittleEndian

/-! ## Records -/

/-- Where a data record breaks off that the packet ends in, with the fields before that. -/
inductive Torn
  | at_id
  | at_timestamp (can_id : u32) (can_dlc : u8)
  | at_payload (can_id : u32) (can_dlc : u8)
deriving DecidableEq, Repr

/-- A record of a packet. A status record without its head or its tick says nothing; every
other status record is acted on before its body is known to be there (`whole`). -/
inductive Record
  | data (frame : CanFrame) (ts16 : u16)
  | torn (torn : Torn)
  | malformed
  | error (number : u8) (stamp : Option u16) (whole : Bool)
  | timestamp (ts16 : u16) (first whole : Bool)
  | other (whole : Bool)
deriving DecidableEq, Repr

/-- Whether all of the record is there. -/
def Record.whole : Record → Bool
  | .data _ _ => true
  | .torn _ => false
  | .malformed => false
  | .error _ _ whole => whole
  | .timestamp _ _ whole => whole
  | .other whole => whole

/-! ## The parse -/

/-- Where the data record at the cursor breaks off, if it does. -/
def MsgContext.torn (status_len : u8) (ctx : MsgContext) : Torn :=
  if ctx.end_ < ctx.ptr + id_width status_len then .at_id
  else if ctx.end_ < ctx.ptr + id_width status_len + ts_width (ctx.rec_data_idx = 0) then
    .at_timestamp (ctx.can_id status_len) (record_dlc status_len)
  else .at_payload (ctx.can_id status_len) (record_dlc status_len)

def MsgContext.read_data (status_len : u8) (ctx : MsgContext) : Record × MsgContext :=
  if ctx.ptr + data_len status_len (ctx.rec_data_idx = 0) ≤ ctx.end_ then
    (.data (ctx.data_frame status_len) (ctx.data_end status_len).ts16, ctx.data_end status_len)
  else (.torn (ctx.torn status_len), ctx)

/-- The cursor stands at the record's body; `ctx` at its head. -/
def MsgContext.read_body (status_len : u8) (ctx body : MsgContext) : Record × MsgContext :=
  let whole : Bool := body.ptr + ctx.status_rec_len status_len ≤ body.end_
  let next := body.take 0 (ctx.status_rec_len status_len)
  if ctx.peek 0 = PCAN_USB_REC_ERROR then
    (.error (ctx.peek 1)
      (if status_len &&& PCAN_USB_STATUSLEN_TIMESTAMP ≠ 0 then some body.ts16 else none) whole,
      next)
  else if ctx.peek 0 = PCAN_USB_REC_TS then
    if body.end_ < body.ptr + 2 then (.malformed, body)
    else
      let ts16 := le16 (body.peek 0) (body.peek 1)
      (.timestamp ts16 (ctx.rec_idx = 0) whole,
        { (body.take 2 0).take 0 (ctx.status_rec_len status_len) with ts16 := ts16 })
  else (.other whole, next)

def MsgContext.read_status (status_len : u8) (ctx : MsgContext) : Record × MsgContext :=
  if ctx.end_ < ctx.ptr + status_head_len status_len (ctx.rec_idx = 0) then (.malformed, ctx)
  else ctx.read_body status_len (ctx.status_body status_len)

def MsgContext.read_record (ctx : MsgContext) : Record × MsgContext :=
  let status_len := ctx.peek 0
  let ctx := ctx.take 1 1
  if status_len &&& PCAN_USB_STATUSLEN_INTERNAL ≠ 0 then ctx.read_status status_len
  else
    let (record, ctx) := ctx.read_data status_len
    (record, { ctx with rec_data_idx := ctx.rec_data_idx + 1 })

/-- Up to `n` records from the cursor on; one that is not all there is the last. -/
def read_records : ℕ → MsgContext → List Record
  | 0, _ => []
  | n + 1, ctx =>
    let (record, ctx) := ctx.read_record
    record :: if record.whole then read_records n { ctx with rec_idx := ctx.rec_idx + 1 } else []

/-- The records of a packet. -/
def packet_records (ibuf : ℕ → u8) (size : ℕ) : List Record :=
  read_records (ibuf 1).toNat (MsgContext.start ibuf size)

/-- Reading a record leaves the packet as it is. -/
theorem read_record_packet (ctx : MsgContext) :
    ctx.read_record.2.ibuf = ctx.ibuf ∧ ctx.read_record.2.end_ = ctx.end_ := by
  have hdata : ∀ (status_len : u8) (ctx : MsgContext),
      (ctx.read_data status_len).2.ibuf = ctx.ibuf
        ∧ (ctx.read_data status_len).2.end_ = ctx.end_ := by
    intro status_len ctx
    unfold MsgContext.read_data
    split
    · rename_i hfits
      have hadv := data_end_advanced status_len ctx hfits
      exact ⟨hadv.ibuf_eq, hadv.end_eq⟩
    · exact ⟨rfl, rfl⟩
  have hstatus : ∀ (status_len : u8) (ctx : MsgContext),
      (ctx.read_status status_len).2.ibuf = ctx.ibuf
        ∧ (ctx.read_status status_len).2.end_ = ctx.end_ := by
    intro status_len ctx
    unfold MsgContext.read_status MsgContext.read_body
    split
    · exact ⟨rfl, rfl⟩
    rename_i hhead
    have hadv := status_body_advanced status_len ctx (Nat.le_of_not_lt hhead)
    split_ifs <;> exact ⟨hadv.ibuf_eq, hadv.end_eq⟩
  unfold MsgContext.read_record
  dsimp only
  split
  · exact hstatus _ _
  · exact hdata _ _

/-! ## Bytes behind the packet -/

/-- The same cursor in another buffer. -/
def MsgContext.over (ctx : MsgContext) (ibuf : ℕ → u8) : MsgContext := { ctx with ibuf := ibuf }

/-- The byte at the cursor is the last thing read of a record that starts outside the packet. -/
def Record.outside : Record → Prop
  | .torn .at_id | .malformed => True
  | _ => False

@[simp] theorem over_take (ctx : MsgContext) (ibuf : ℕ → u8) (n len : ℕ) :
    (ctx.over ibuf).take n len = (ctx.take n len).over ibuf := rfl

section Over

variable {ctx : MsgContext} {ibuf : ℕ → u8} (hagree : ∀ i < ctx.end_, ibuf i = ctx.ibuf i)
include hagree

theorem over_peek {i : ℕ} (hi : ctx.ptr + i < ctx.end_) :
    (ctx.over ibuf).peek i = ctx.peek i := hagree _ hi

/-- The identifier is a matter of the packet's own bytes. -/
theorem over_can_id (status_len : u8) (hfits : ctx.ptr + id_width status_len ≤ ctx.end_) :
    (ctx.over ibuf).can_id status_len = ctx.can_id status_len := by
  unfold MsgContext.can_id
  unfold id_width at hfits
  by_cases hext : status_len &&& PCAN_USB_STATUSLEN_EXT_ID ≠ 0
  · rw [if_pos hext] at hfits
    rw [if_pos hext, if_pos hext, over_peek hagree (by omega), over_peek hagree (by omega),
      over_peek hagree (by omega), over_peek hagree (by omega)]
  · rw [if_neg hext] at hfits
    rw [if_neg hext, if_neg hext, over_peek hagree (by omega), over_peek hagree (by omega)]

/-- The timestamp is a matter of the packet's own bytes. -/
theorem over_stamp (is_first : Bool) (hfits : ctx.ptr + ts_width is_first ≤ ctx.end_) :
    (ctx.over ibuf).stamp is_first = (ctx.stamp is_first).over ibuf := by
  unfold ts_width at hfits
  have hpeek : (ctx.over ibuf).peek 0 = ctx.peek 0 :=
    over_peek hagree (by split at hfits <;> omega)
  cases is_first with
  | true =>
    have hpeek' : (ctx.over ibuf).peek 1 = ctx.peek 1 :=
      over_peek hagree (by rw [if_pos rfl] at hfits; omega)
    simp only [MsgContext.stamp, hpeek, hpeek']
    rfl
  | false =>
    simp only [MsgContext.stamp, hpeek]
    rfl

/-- The payload is read from the packet's own bytes. -/
theorem over_payload_at {n : ℕ} (hfits : ctx.ptr + n ≤ ctx.end_) :
    payload_at (ctx.over ibuf) n = payload_at ctx n := by
  unfold payload_at
  congr 1
  funext i
  split
  · exact over_peek hagree (by omega)
  · rfl

/-- Where the payload begins does not depend on the bytes behind the packet. -/
theorem over_data_body (status_len : u8)
    (hfits : ctx.ptr + id_width status_len + ts_width (ctx.rec_data_idx = 0) ≤ ctx.end_) :
    (ctx.over ibuf).data_body status_len = (ctx.data_body status_len).over ibuf :=
  @over_stamp (ctx.take (id_width status_len) (id_width status_len)) ibuf hagree _ hfits

/-- Where a data record ends does not depend on the bytes behind the packet. -/
theorem over_data_end (status_len : u8)
    (hfits : ctx.ptr + data_len status_len (ctx.rec_data_idx = 0) ≤ ctx.end_) :
    (ctx.over ibuf).data_end status_len = (ctx.data_end status_len).over ibuf := by
  unfold data_len at hfits
  have hbody := over_data_body hagree status_len (by omega)
  unfold MsgContext.data_end
  rw [hbody]
  split <;> rfl

/-- A frame that lies in the packet is made of its bytes alone. -/
theorem over_data_frame (status_len : u8)
    (hfits : ctx.ptr + data_len status_len (ctx.rec_data_idx = 0) ≤ ctx.end_) :
    (ctx.over ibuf).data_frame status_len = ctx.data_frame status_len := by
  unfold data_len at hfits
  have hbody := over_data_body hagree status_len (by omega)
  have hadv := data_body_advanced status_len ctx (by unfold data_len; omega)
  unfold MsgContext.data_frame
  rw [over_can_id hagree status_len (by omega), hbody]
  by_cases hrtr : status_len &&& PCAN_USB_STATUSLEN_RTR ≠ 0
  · rw [if_pos hrtr, if_pos hrtr, if_pos hrtr]
  -- the bytes copied are among those the record's length was checked for
  · have hdlc := (record_dlc_le status_len).1
    simp only [payload_len, if_neg hrtr] at hfits
    rw [if_neg hrtr, if_neg hrtr, if_neg hrtr, over_payload_at]
    · rw [hadv.end_eq, hadv.ibuf_eq]
      exact hagree
    · rw [hadv.end_eq, data_body_ptr]
      omega

/-- A data record is read alike, whole or cut off. -/
theorem over_read_data (status_len : u8) :
    (ctx.over ibuf).read_data status_len
      = ((ctx.read_data status_len).1, (ctx.read_data status_len).2.over ibuf) := by
  unfold MsgContext.read_data
  by_cases hfits : ctx.ptr + data_len status_len (ctx.rec_data_idx = 0) ≤ ctx.end_
  · rw [if_pos hfits, if_pos (by exact hfits), over_data_frame hagree status_len hfits,
      over_data_end hagree status_len hfits]
    rfl
  rw [if_neg hfits, if_neg (by exact hfits)]
  have htorn : (ctx.over ibuf).torn status_len = ctx.torn status_len := by
    by_cases hid : ctx.end_ < ctx.ptr + id_width status_len
    · rw [MsgContext.torn, MsgContext.torn, if_pos hid, if_pos (by exact hid)]
    -- the id is there, so it is the same in both
    rw [MsgContext.torn, MsgContext.torn, if_neg hid, if_neg (by exact hid),
      over_can_id hagree status_len (by omega)]
    rfl
  rw [htorn]

/-- The body of a status record begins at the same place. -/
theorem over_status_body (status_len : u8)
    (hhead : ctx.ptr + status_head_len status_len (ctx.rec_idx = 0) ≤ ctx.end_) :
    (ctx.over ibuf).status_body status_len = (ctx.status_body status_len).over ibuf := by
  unfold status_head_len status_ts_width at hhead
  unfold MsgContext.status_body
  by_cases hts : status_len &&& PCAN_USB_STATUSLEN_TIMESTAMP ≠ 0
  · rw [if_pos hts] at hhead
    have hfits : (ctx.take 2 2).ptr + ts_width (ctx.rec_idx = 0) ≤ (ctx.take 2 2).end_ := by
      change ctx.ptr + 2 + _ ≤ ctx.end_
      omega
    rw [if_pos hts, if_pos hts]
    exact @over_stamp (ctx.take 2 2) ibuf hagree _ hfits
  · rw [if_neg hts, if_neg hts]
    rfl

/-- A status record is read alike as far as it lies in the packet. -/
theorem over_read_status (status_len : u8) :
    (ctx.over ibuf).read_status status_len
      = ((ctx.read_status status_len).1, (ctx.read_status status_len).2.over ibuf) := by
  unfold MsgContext.read_status
  by_cases hshort : ctx.end_ < ctx.ptr + status_head_len status_len (ctx.rec_idx = 0)
  · rw [if_pos hshort, if_pos (by exact hshort)]
  rw [if_neg hshort, if_neg (by exact hshort),
    over_status_body hagree status_len (Nat.le_of_not_lt hshort)]
  have hadv := status_body_advanced status_len ctx (Nat.le_of_not_lt hshort)
  have hhead : ctx.ptr + 2 ≤ ctx.end_ := by
    unfold status_head_len at hshort
    omega
  have hfun : (ctx.over ibuf).peek 0 = ctx.peek 0 := over_peek hagree (by omega)
  have hnum : (ctx.over ibuf).peek 1 = ctx.peek 1 := over_peek hagree (by omega)
  have hlen : (ctx.over ibuf).status_rec_len status_len = ctx.status_rec_len status_len := by
    rw [MsgContext.status_rec_len, hfun]
    rfl
  unfold MsgContext.read_body
  rw [hfun, hnum, hlen]
  by_cases herr : ctx.peek 0 = PCAN_USB_REC_ERROR
  · rw [if_pos herr, if_pos herr]
    rfl
  rw [if_neg herr, if_neg herr]
  by_cases hts : ctx.peek 0 = PCAN_USB_REC_TS
  · rw [if_pos hts, if_pos hts]
    by_cases hbody : (ctx.status_body status_len).end_ < (ctx.status_body status_len).ptr + 2
    · rw [if_pos hbody, if_pos (by exact hbody)]
    · have hagree' : ∀ i < (ctx.status_body status_len).end_,
          ibuf i = (ctx.status_body status_len).ibuf i := by
        rw [hadv.end_eq, hadv.ibuf_eq]
        exact hagree
      have hlo := over_peek hagree' (by omega : (ctx.status_body status_len).ptr + 0 < _)
      have hhi := over_peek hagree' (by omega : (ctx.status_body status_len).ptr + 1 < _)
      rw [if_neg hbody, if_neg (by exact hbody), hlo, hhi]
      rfl
  · rw [if_neg hts, if_neg hts]
    rfl

/-- A record that starts inside the packet is made of the packet's bytes. -/
theorem over_read_record (hin : ctx.ptr < ctx.end_) :
    (ctx.over ibuf).read_record = (ctx.read_record.1, ctx.read_record.2.over ibuf) := by
  have hstatus : (ctx.over ibuf).peek 0 = ctx.peek 0 := over_peek hagree (by omega)
  unfold MsgContext.read_record
  rw [hstatus]
  dsimp only
  rw [over_take]
  by_cases hint : ctx.peek 0 &&& PCAN_USB_STATUSLEN_INTERNAL ≠ 0
  · rw [if_pos hint, if_pos hint]
    exact @over_read_status (ctx.take 1 1) ibuf hagree (ctx.peek 0)
  · rw [if_neg hint, if_neg hint, @over_read_data (ctx.take 1 1) ibuf hagree (ctx.peek 0)]
    rfl

end Over

/-- A record that starts behind the packet is read no further than its status byte. -/
theorem read_record_outside (ctx : MsgContext) (hout : ctx.end_ ≤ ctx.ptr) :
    ctx.read_record.1.outside := by
  unfold MsgContext.read_record
  dsimp only
  split
  · have hshort : (ctx.take 1 1).end_ < (ctx.take 1 1).ptr
        + status_head_len (ctx.peek 0) ((ctx.take 1 1).rec_idx = 0) := by
      change ctx.end_ < ctx.ptr + 1 + _
      omega
    rw [MsgContext.read_status, if_pos hshort]
    trivial
  · have hid : (ctx.take 1 1).end_ < (ctx.take 1 1).ptr + id_width (ctx.peek 0) := by
      change ctx.end_ < ctx.ptr + 1 + _
      omega
    have hshort : ¬ (ctx.take 1 1).ptr
        + data_len (ctx.peek 0) ((ctx.take 1 1).rec_data_idx = 0) ≤ (ctx.take 1 1).end_ := by
      unfold data_len
      omega
    rw [MsgContext.read_data, if_neg hshort, MsgContext.torn, if_pos hid]
    trivial

/-- What reaches behind the packet is not whole. -/
theorem Record.not_whole_of_outside {record : Record} (h : record.outside) :
    record.whole = false := by
  cases record with
  | torn => rfl
  | malformed => rfl
  | data => exact h.elim
  | error => exact h.elim
  | timestamp => exact h.elim
  | other => exact h.elim

/-- The same records, or records that differ in a last one outside the packet. -/
inductive SameRecords : List Record → List Record → Prop
  | nil : SameRecords [] []
  | outside {record record' : Record} (hout : record.outside) (hout' : record'.outside) :
    SameRecords [record] [record']
  | cons (record : Record) {records records' : List Record}
      (tail : SameRecords records records') :
    SameRecords (record :: records) (record :: records')

/-- The records of two buffers that agree on the packet, up to one that is cut off. -/
theorem read_records_over (n : ℕ) : ∀ (ctx : MsgContext) (ibuf : ℕ → u8),
    (∀ i < ctx.end_, ibuf i = ctx.ibuf i) →
    SameRecords (read_records n (ctx.over ibuf)) (read_records n ctx) := by
  induction n with
  | zero => exact fun _ _ _ => .nil
  | succ n ih =>
    intro ctx ibuf hagree
    rw [read_records, read_records]
    dsimp only
    rcases Nat.lt_or_ge ctx.ptr ctx.end_ with hin | hout
    · rw [over_read_record hagree hin]
      obtain ⟨hibuf, hend⟩ := read_record_packet ctx
      dsimp only
      split
      · refine .cons _ (ih { ctx.read_record.2 with
          rec_idx := ctx.read_record.2.rec_idx + 1 } ibuf ?_)
        dsimp only
        rw [hibuf, hend]
        exact hagree
      · exact .cons _ .nil
    -- either byte there is read as a record that breaks off at once
    · have hrec := read_record_outside ctx hout
      have hrec' := read_record_outside (ctx.over ibuf) hout
      rw [Record.not_whole_of_outside hrec, Record.not_whole_of_outside hrec']
      exact .outside hrec' hrec

/-- The records of a packet are a matter of its `size` bytes. -/
theorem packet_records_over {ibuf ibuf' : ℕ → u8} {size : ℕ} (hsize : 1 < size)
    (hagree : ∀ i < size, ibuf' i = ibuf i) :
    SameRecords (packet_records ibuf' size) (packet_records ibuf size) := by
  have hsame := read_records_over (ibuf 1).toNat (MsgContext.start ibuf size) ibuf' hagree
  unfold packet_records
  rw [hagree 1 hsize]
  -- the count byte is the same in both
  have hstart : (MsgContext.start ibuf size).over ibuf' = MsgContext.start ibuf' size := by
    unfold MsgContext.over MsgContext.start
    rw [hagree 1 hsize]
  rwa [hstart] at hsame

end DualPcanUsb
