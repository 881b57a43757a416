/-
The device clock across a packet of mixed records.

A record carries its tick where the decoder looks for it: a data record behind its id, a
status record behind its two head bytes, a timestamp record in its body. Head fields
are kept to compare the next low byte with; the body of a timestamp record sets the clock
and leaves that byte alone. So the cursor is a receiver of readings of three kinds, and the
library says when it stays right.
-/
import DualPcanUsb.RoundTrip
import DualPcanUsb.PacketGrammar

set_option autoImplicit false

namespace DualPcanUsb

open LittleEndian LowByteClock

/-! ## Records with ticks -/

/-- How the record at `p` carries its tick, if it has one. -/
def tick_field (ibuf : ℕ → u8) (first first_data : Bool) (p : ℕ) : Option Field :=
  if ibuf p &&& PCAN_USB_STATUSLEN_INTERNAL = 0 then
    some (if first_data then .word else .low_byte)
  else if ibuf (p + 1) = PCAN_USB_REC_TS then
    -- the body has all sixteen bits, but only the head's byte is kept
    some (if ibuf p &&& PCAN_USB_STATUSLEN_TIMESTAMP ≠ 0 then .word else .loose_word)
  else if ibuf p &&& PCAN_USB_STATUSLEN_TIMESTAMP ≠ 0 then
    some (if first then .word else .low_byte)
  else none

/-- The tick stands in each field of the record at `p` it is read from. -/
structure CarriesTick (ibuf : ℕ → u8) (first first_data : Bool) (p tick : ℕ) : Prop where
  data : ibuf p &&& PCAN_USB_STATUSLEN_INTERNAL = 0 →
    Holds ibuf (p + 1 + id_width (ibuf p)) (tick_bytes first_data tick)
  head : ibuf p &&& PCAN_USB_STATUSLEN_INTERNAL ≠ 0 → ibuf p &&& PCAN_USB_STATUSLEN_TIMESTAMP ≠ 0 →
    Holds ibuf (p + 1 + 2) (tick_bytes first tick)
  body : ibuf p &&& PCAN_USB_STATUSLEN_INTERNAL ≠ 0 → ibuf (p + 1) = PCAN_USB_REC_TS →
    Holds ibuf (p + 1 + status_head_len (ibuf p) first) (tick_bytes true tick)

/-- The records from `p` on carry these ticks, the way the decoder reads them; a record
without a tick has `none`. -/
inductive TicksAt (ibuf : ℕ → u8) (size : ℕ) :
    Bool → Bool → ℕ → List (Option Reading) → Prop
  | nil (first first_data : Bool) (p : ℕ) : TicksAt ibuf size first first_data p []
  | cons {first first_data is_data : Bool} {p next : ℕ} {reading : Option Reading}
      {readings : List (Option Reading)}
      (record : RecordAt ibuf size first first_data p is_data next)
      (field : reading.map Reading.field = tick_field ibuf first first_data p)
      (carries : ∀ x ∈ reading, CarriesTick ibuf first first_data p x.tick)
      (tail : TicksAt ibuf size false (first_data && !is_data) next readings) :
    TicksAt ibuf size first first_data p (reading :: readings)

/-- What the cursor knows of the clock. -/
def MsgContext.receiver (ctx : MsgContext) : Receiver := ⟨ctx.ts16, ctx.prev_ts8⟩

/-- What a record without or with a tick does to it. -/
def Receiver.hear (r : Receiver) : Option Reading → Receiver
  | none => r
  | some x => r.read x

/-! ## One record -/

/-- Taking a timestamp is reading a word or a low byte. -/
theorem stamp_receiver (ctx : MsgContext) {first : Bool} {tick : ℕ}
    (hbytes : Holds ctx.ibuf ctx.ptr (tick_bytes first tick)) :
    (ctx.stamp first).receiver
      = ctx.receiver.read ⟨if first then .word else .low_byte, tick⟩ := by
  cases first with
  | true =>
    obtain ⟨hclock, hprev⟩ := stamp_first_shows hbytes
    exact congrArg₂ Receiver.mk hclock hprev
  | false =>
    have h0 : ctx.peek 0 = low tick := by
      rw [← byte_tick]; exact hbytes 0 (by simp [tick_bytes])
    change Receiver.mk (advance ctx.ts16 ctx.prev_ts8 (ctx.peek 0)) (ctx.peek 0) = _
    rw [h0]
    rfl

/-- A data record that succeeds leaves the cursor at its end. -/
theorem decode_data_cursor {env : Env} {status_len : u8} {ctx : MsgContext} {s : RxState}
    (h : (decode_data env status_len ctx s).1 = 0) :
    (decode_data env status_len ctx s).2.1 = ctx.data_end status_len := by
  have hfill := decode_data_fill_cases env (decode_data_sample s.fwd.char_dev) status_len ctx s
  unfold decode_data at h ⊢
  dsimp only at h ⊢
  generalize decode_data_fill env (decode_data_sample s.fwd.char_dev) status_len ctx s
    = filled at hfill h ⊢
  obtain ⟨result, ctx', s'⟩ := filled
  dsimp only at hfill
  cases hfill with
  | no_skb => exact absurd (show -ENOMEM = 0 from h) (by decide)
  | skb_short => exact absurd (show -EINVAL = 0 from h) (by decide)
  | skb_fits => rfl
  | refused _ _ err herr => exact absurd h herr
  | slot_short => exact absurd (show -EINVAL = 0 from h) (by decide)
  | slot_fits => rfl

/-- A data record is one such reading. -/
theorem data_end_receiver (status_len : u8) (ctx : MsgContext) {tick : ℕ}
    (hbytes : Holds ctx.ibuf (ctx.ptr + id_width status_len)
      (tick_bytes (ctx.rec_data_idx = 0) tick)) :
    (ctx.data_end status_len).receiver
      = ctx.receiver.read ⟨if ctx.rec_data_idx = 0 then .word else .low_byte, tick⟩ := by
  have hbody : (ctx.data_body status_len).receiver
      = ctx.receiver.read ⟨if decide (ctx.rec_data_idx = 0) then .word else .low_byte, tick⟩ :=
    stamp_receiver (ctx.take (id_width status_len) (id_width status_len)) hbytes
  simp only [decide_eq_true_eq] at hbody
  unfold MsgContext.data_end
  split
  · exact hbody
  · exact hbody

/-- Within a status record only a timestamp body is read, and it leaves `prev_ts8` as it was. -/
theorem StatusEffect.receiver {env : Env} {functionality number status_len : u8}
    {ctx ctx' : MsgContext} {s s' : RxState}
    (h : StatusEffect env functionality number status_len ctx s 0 ctx' s') :
    ctx'.receiver = if functionality = PCAN_USB_REC_TS then
      ⟨le16 (ctx.peek 0) (ctx.peek 1), ctx.prev_ts8⟩ else ctx.receiver := by
  have hne : PCAN_USB_REC_ERROR ≠ PCAN_USB_REC_TS := by decide
  cases h with
  | skipped _ hts => rw [if_neg hts]
  | settled herr => rw [if_neg (by rw [herr]; exact hne)]
  | posted herr => rw [if_neg (by rw [herr]; exact hne)]
  | ts_later hts => rw [if_pos hts]; rfl
  | ts_first hts => rw [if_pos hts]; rfl

/-- A status record that succeeds has read its head, and a timestamp record its body. -/
theorem StatusRecord.receiver {env : Env} {status_len : u8} {ctx ctx' : MsgContext}
    {s s' : RxState} (h : StatusRecord env status_len ctx s 0 ctx' s') :
    ctx'.receiver = if ctx.peek 0 = PCAN_USB_REC_TS then
        ⟨le16 ((ctx.status_body status_len).peek 0) ((ctx.status_body status_len).peek 1),
          (ctx.status_body status_len).prev_ts8⟩
      else (ctx.status_body status_len).receiver := by
  cases h with
  | stopped _ _ herr => exact absurd rfl herr
  | fits _ _ _ heffect => exact heffect.receiver

/-- What reading the head of a status record does to the receiver. -/
theorem status_body_receiver {ctx : MsgContext} {status_len : u8} {tick : ℕ}
    (hbytes : status_len &&& PCAN_USB_STATUSLEN_TIMESTAMP ≠ 0 →
      Holds ctx.ibuf (ctx.ptr + 2) (tick_bytes (ctx.rec_idx = 0) tick)) :
    (ctx.status_body status_len).receiver
      = if status_len &&& PCAN_USB_STATUSLEN_TIMESTAMP ≠ 0 then
          ctx.receiver.read ⟨if ctx.rec_idx = 0 then .word else .low_byte, tick⟩
        else ctx.receiver := by
  unfold MsgContext.status_body
  by_cases hts : status_len &&& PCAN_USB_STATUSLEN_TIMESTAMP ≠ 0
  · have hstamp := stamp_receiver (ctx.take 2 2) (hbytes hts)
    simp only [decide_eq_true_eq] at hstamp
    rw [if_pos hts, if_pos hts]
    exact hstamp
  · rw [if_neg hts, if_neg hts]
    rfl

/-- The body of a timestamp record. -/
theorem le16_of_holds (ctx : MsgContext) {tick : ℕ}
    (hbytes : Holds ctx.ibuf ctx.ptr (tick_bytes true tick)) :
    le16 (ctx.peek 0) (ctx.peek 1) = BitVec.ofNat 16 tick := by
  have h0 : ctx.peek 0 = byte (BitVec.ofNat 16 tick) 0 := hbytes 0 (by simp [tick_bytes])
  have h1 : ctx.peek 1 = byte (BitVec.ofNat 16 tick) 1 := hbytes 1 (by simp [tick_bytes])
  rw [h0, h1, le16_byte]

/-- A status record is heard as its head's reading, its body's, or none. -/
theorem decode_status_receiver {env : Env} (status_len : u8) (ctx : MsgContext) {ctx' : MsgContext}
    {s s' : RxState} {first : Bool} (hfirst : first = decide (ctx.rec_idx = 0))
    (h : StatusRecord env status_len ctx s 0 ctx' s') {reading : Option Reading}
    (hfield : reading.map Reading.field
      = if ctx.peek 0 = PCAN_USB_REC_TS then
          some (if status_len &&& PCAN_USB_STATUSLEN_TIMESTAMP ≠ 0 then .word else .loose_word)
        else if status_len &&& PCAN_USB_STATUSLEN_TIMESTAMP ≠ 0 then
          some (if first then .word else .low_byte)
        else none)
    (hhead : ∀ x ∈ reading, status_len &&& PCAN_USB_STATUSLEN_TIMESTAMP ≠ 0 →
      Holds ctx.ibuf (ctx.ptr + 2) (tick_bytes first x.tick))
    (hbody : ∀ x ∈ reading, ctx.peek 0 = PCAN_USB_REC_TS →
      Holds ctx.ibuf (ctx.ptr + status_head_len status_len first) (tick_bytes true x.tick)) :
    ctx'.receiver = Receiver.hear ctx.receiver reading := by
  subst hfirst
  rw [h.receiver]
  have hstamp : ∀ x ∈ reading, _ := fun x hx => status_body_receiver (hhead x hx)
  by_cases hts : ctx.peek 0 = PCAN_USB_REC_TS
  · rw [if_pos hts, Option.map_eq_some_iff] at hfield
    obtain ⟨⟨field, tick⟩, rfl, hx⟩ := hfield
    have hbytes := hbody ⟨field, tick⟩ rfl hts
    rw [← status_body_ptr, ← status_body_ibuf status_len] at hbytes
    have hword := le16_of_holds (ctx.status_body status_len) hbytes
    have hprev := congrArg Receiver.prev (hstamp ⟨field, tick⟩ rfl)
    dsimp only at hx hprev
    rw [if_pos hts, hword]
    -- the byte kept is the head's, if there is one
    by_cases hhas : status_len &&& PCAN_USB_STATUSLEN_TIMESTAMP ≠ 0
    · rw [if_pos hhas] at hx hprev
      subst hx
      refine congrArg (Receiver.mk _) (hprev.trans ?_)
      split <;> rfl
    · rw [if_neg hhas] at hx hprev
      subst hx
      exact congrArg (Receiver.mk _) hprev
  · rw [if_neg hts] at hfield ⊢
    by_cases hhas : status_len &&& PCAN_USB_STATUSLEN_TIMESTAMP ≠ 0
    · rw [if_pos hhas, Option.map_eq_some_iff] at hfield
      obtain ⟨⟨field, tick⟩, rfl, hx⟩ := hfield
      simp only [decide_eq_true_eq] at hx
      rw [hstamp ⟨field, tick⟩ rfl, if_pos hhas, hx]
      rfl
    · rw [if_neg hhas, Option.map_eq_none_iff] at hfield
      subst hfield
      unfold MsgContext.status_body
      rw [if_neg hhas]
      rfl

/-- One round of the loop that succeeds is one reading. -/
theorem decode_record_receiver {env : Env} {ctx : MsgContext} {s : RxState}
    {first first_data : Bool} (hfirst : first = decide (ctx.rec_idx = 0))
    (hdata : first_data = decide (ctx.rec_data_idx = 0)) (h : (decode_record env ctx s).1 = 0)
    {reading : Option Reading}
    (hfield : reading.map Reading.field = tick_field ctx.ibuf first first_data ctx.ptr)
    (hcarries : ∀ x ∈ reading, CarriesTick ctx.ibuf first first_data ctx.ptr x.tick) :
    (decode_record env ctx s).2.1.receiver = Receiver.hear ctx.receiver reading := by
  unfold decode_record at h ⊢
  rw [show ctx.peek 0 = ctx.ibuf ctx.ptr from rfl] at h ⊢
  dsimp only at h ⊢
  unfold tick_field at hfield
  by_cases hint : ctx.ibuf ctx.ptr &&& PCAN_USB_STATUSLEN_INTERNAL = 0
  · rw [if_neg (not_not.mpr hint)] at h ⊢
    rw [if_pos hint, Option.map_eq_some_iff] at hfield
    obtain ⟨x, rfl, hx⟩ := hfield
    have hend := decode_data_cursor h
    have hbytes := (hcarries x rfl).data hint
    rw [hdata] at hbytes hx
    have hread := data_end_receiver (ctx.ibuf ctx.ptr) (ctx.take 1 1) hbytes
    simp only [decide_eq_true_eq] at hx
    change (decode_data env (ctx.ibuf ctx.ptr) (ctx.take 1 1) s).2.1.receiver = _
    rw [hend, hread]
    change ctx.receiver.read _ = ctx.receiver.read x
    rw [show (ctx.take 1 1).rec_data_idx = ctx.rec_data_idx from rfl, ← hx]
  · rw [if_pos hint] at h ⊢
    rw [if_neg hint] at hfield
    have hcases := decode_status_and_error_cases env (ctx.ibuf ctx.ptr) (ctx.take 1 1) s
    rw [h] at hcases
    exact decode_status_receiver (ctx.ibuf ctx.ptr) (ctx.take 1 1) hfirst hcases hfield
      (fun x hx => (hcarries x hx).head hint) (fun x hx => (hcarries x hx).body hint)

/-! ## The packet -/

/-- Where a record that the loop gets past ends is up to the packet. -/
theorem RecordAt.go_eq {has_skb : ℕ → Bool} {ibuf : ℕ → u8} {size p next next' : ℕ}
    {first first_data is_data is_data' : Bool} {o o' : Outlook} {delivers : Option RecordKind}
    (h : RecordAt ibuf size first first_data p is_data next)
    (hgo : record_fate has_skb size first o (record_shape ibuf size first first_data p)
      = .go delivers is_data' next' o') : is_data' = is_data ∧ next' = next := by
  cases is_data with
  | true =>
    rw [recordAt_data_iff.mp h, record_fate] at hgo
    split_ifs at hgo <;> cases hgo <;> exact ⟨rfl, rfl⟩
  | false =>
    obtain ⟨functionality, number, body, len, hshape, -, hfits, rfl⟩ := recordAt_status_iff.mp h
    rw [hshape, record_fate] at hgo
    cases heffect : status_effect has_skb size first o functionality number body with
    | none => rw [heffect] at hgo; cases hgo
    | some after =>
      rw [heffect, body_fate, if_pos hfits] at hgo
      cases hgo
      exact ⟨rfl, rfl⟩

/-- A statement about each reading, from the first on. -/
theorem forall_reading_cons {P : ℕ → Reading → Prop} (reading : Option Reading)
    (readings : List (Option Reading)) :
    (∀ i x, (reading :: readings)[i]? = some (some x) → P i x)
      ↔ (∀ x ∈ reading, P 0 x) ∧ ∀ i x, readings[i]? = some (some x) → P (i + 1) x := by
  constructor
  · exact fun h => ⟨fun x hx => h 0 x (congrArg some hx), fun i x hx => h (i + 1) x hx⟩
  · rintro ⟨hfirst, hrest⟩ i x hx
    cases i with
    | zero => exact hfirst x (Option.some.inj hx)
    | succ i => exact hrest i x hx

/-- The clock is right from the first reading on. -/
theorem right_cons_iff (r : Receiver) (reading : Option Reading)
    (readings : List (Option Reading)) :
    Right r ((reading :: readings).filterMap id)
      ↔ (∀ x ∈ reading, (r.read x).clock = BitVec.ofNat 16 x.tick)
        ∧ Right (Receiver.hear r reading) (readings.filterMap id) := by
  cases reading with
  | none => exact ⟨fun h => ⟨nofun, h⟩, fun h => h.2⟩
  | some y =>
    constructor
    · rintro ⟨hnow, hrest⟩
      refine ⟨fun x hx => ?_, hrest⟩
      obtain rfl := Option.some.inj hx
      exact hnow
    · exact fun h => ⟨h.1 y rfl, h.2⟩

/-- The records the loop gets past are right exactly if their readings are. -/
theorem decode_records_right_iff (env : Env) (readings : List (Option Reading)) :
    ∀ (ctx : MsgContext) (s : RxState) {n : ℕ} {first first_data : Bool},
      Counters ctx n first first_data → readings.length ≤ n →
      TicksAt ctx.ibuf ctx.end_ first first_data ctx.ptr readings →
      (decode_records env readings.length 0 ctx s).1 = 0 →
      ((∀ i x, readings[i]? = some (some x) →
          (decode_records env (i + 1) 0 ctx s).2.1.ts16 = BitVec.ofNat 16 x.tick)
        ↔ Right ctx.receiver (readings.filterMap id)) := by
  induction readings with
  | nil => exact fun _ _ _ _ _ _ _ _ _ => ⟨fun _ => trivial, fun _ i x h => by simp at h⟩
  | cons reading readings ih =>
    intro ctx s n first first_data hcount hle hticks hgone
    rw [List.length_cons] at hle hgone
    obtain ⟨n, rfl⟩ : ∃ m, n = m + 1 := ⟨n - 1, by omega⟩
    cases hticks with
    | cons record field carries tail =>
      have hloop := fun fuel => decode_records_succ env fuel ctx s hcount.more
      have hrec := decode_record_fate env ctx s hcount.first_eq hcount.first_data_eq
        (describes_outlook first s)
      have hread := @decode_record_receiver env ctx s first first_data hcount.first_eq
        hcount.first_data_eq
      rw [hloop] at hgone
      simp only [hloop]
      generalize decode_record env ctx s = result at hrec hread hgone ⊢
      obtain ⟨err, ctx', s'⟩ := result
      dsimp only at hrec hread hgone ⊢
      -- the loop got past this record, so it went on to the next one of the packet
      obtain rfl : err = 0 := by
        by_contra herr
        rw [decode_records_of_err env _ herr] at hgone
        exact herr hgone
      obtain ⟨delivers, is_data, next, o, hgo⟩ := hrec.went_on
      obtain ⟨rfl, rfl⟩ := record.go_eq hgo
      rw [hgo] at hrec
      have hnow := hread rfl field carries
      have hrest := ih { ctx' with rec_idx := ctx'.rec_idx + 1 } s' (hrec.counters hcount)
        (by omega) (by dsimp only; rw [hrec.ibuf_eq, hrec.end_eq, hrec.verdict.2.1]; exact tail)
        hgone
      rw [show MsgContext.receiver { ctx' with rec_idx := ctx'.rec_idx + 1 } = ctx'.receiver from rfl,
        hnow] at hrest
      rw [forall_reading_cons, right_cons_iff]
      refine and_congr (forall₂_congr fun x hx => ?_) hrest
      rw [Option.mem_def] at hx
      subst hx
      rw [show (ctx.receiver.read x).clock = ctx'.ts16 from (congrArg Receiver.clock hnow).symm]
      rfl

/-- Whatever the driver's state, in the records of a packet that the decoder gets past the
clock shows the true tick behind each exactly if each low byte wraps against the last head
field when it does against the last tick. -/
theorem mixed_ticks_right_iff (env : Env) (ibuf : ℕ → u8) (size : ℕ) (s : RxState)
    (readings : List (Option Reading)) (hcount : readings.length ≤ (ibuf 1).toNat)
    (hticks : TicksAt ibuf size true true PCAN_USB_MSG_HEADER_LEN readings)
    (hgone : (decode_records env readings.length 0 (MsgContext.start ibuf size) s).1 = 0)
    (hchain : List.IsChain NextTick (readings.filterMap id))
    (hhead : ∀ x ∈ (readings.filterMap id).head?, x.field ≠ .low_byte) :
    (∀ i x, readings[i]? = some (some x) →
        (decode_records env (i + 1) 0 (MsgContext.start ibuf size) s).2.1.ts16
          = BitVec.ofNat 16 x.tick)
      ↔ FollowsFrom 0 0 (readings.filterMap id) := by
  rw [decode_records_right_iff env readings (MsgContext.start ibuf size) s
    (Counters.start ibuf size) hcount hticks hgone]
  exact right_iff_follows rfl hhead hchain

/-- A data record at tick `0x01f0`, a timestamp record at `0x0205`, and a data record at
`0x0210`, of which the packet has the low byte. -/
def wrapped_packet : ℕ → u8 :=
  buffer [0, 3, 0x00, 0x20, 0x03, 0xf0, 0x01, 0x42, 4, 0, 0x05, 0x02, 0x00, 0x20, 0x03, 0x10]

def wrapped_readings : List (Option Reading) :=
  [some ⟨.word, 0x01f0⟩, some ⟨.loose_word, 0x0205⟩, some ⟨.low_byte, 0x0210⟩]

theorem wrapped_packet_ticks :
    TicksAt wrapped_packet 16 true true PCAN_USB_MSG_HEADER_LEN wrapped_readings := by
  have hfirst : CarriesTick wrapped_packet true true 2 0x01f0 := ⟨by decide, by decide, by decide⟩
  have hts : CarriesTick wrapped_packet false false 7 0x0205 := ⟨by decide, by decide, by decide⟩
  have hlast : CarriesTick wrapped_packet false false 12 0x0210 := ⟨by decide, by decide, by decide⟩
  refine .cons (.data (by decide) (by decide)) rfl (fun x hx => ?_)
    (.cons (.status (by decide) 10 rfl (by decide) (by decide) (by decide)) rfl (fun x hx => ?_)
      (.cons (.data (by decide) (by decide)) rfl (fun x hx => ?_) (.nil ..)))
  · obtain rfl := Option.some.inj hx
    exact hfirst
  · obtain rfl := Option.some.inj hx
    exact hts
  · obtain rfl := Option.some.inj hx
    exact hlast

theorem mixed_ticks_right_iff_wrapped :
    (∀ i x, wrapped_readings[i]? = some (some x) →
        (decode_records Env.plenty (i + 1) 0 (MsgContext.start wrapped_packet 16)
          (RxState.idle true)).2.1.ts16 = BitVec.ofNat 16 x.tick)
      ↔ FollowsFrom 0 0 (wrapped_readings.filterMap id) :=
  mixed_ticks_right_iff Env.plenty wrapped_packet 16 (RxState.idle true) wrapped_readings
    (by decide) wrapped_packet_ticks (by decide)
    (.cons_cons (by decide) (.cons_cons (by decide) (.singleton _))) (by decide)

/-- The wrap between the first and the second record is seen again at the third. -/
theorem wrap_counted_twice :
    TicksAt wrapped_packet 16 true true PCAN_USB_MSG_HEADER_LEN wrapped_readings
      ∧ List.IsChain NextTick (wrapped_readings.filterMap id)
      ∧ (∀ x ∈ (wrapped_readings.filterMap id).head?, x.field ≠ .low_byte)
      ∧ (decode_incoming_buf Env.plenty wrapped_packet 16 (RxState.idle true)).1 = 0
      ∧ ¬ ∀ i x, wrapped_readings[i]? = some (some x) →
        (decode_records Env.plenty (i + 1) 0 (MsgContext.start wrapped_packet 16)
          (RxState.idle true)).2.1.ts16 = BitVec.ofNat 16 x.tick := by
  refine ⟨wrapped_packet_ticks, .cons_cons (by decide) (.cons_cons (by decide) (.singleton _)),
    by decide, by decide, fun hright => ?_⟩
  exact absurd (hright 2 ⟨.low_byte, 0x0210⟩ rfl) (by decide)

end DualPcanUsb
