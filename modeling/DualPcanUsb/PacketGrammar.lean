/-
The packet grammar and the decoder's verdict.

The grammar is a relation on the packet's bytes alone: `RecordAt` for one record,
`RecordsAt` for a row of them. It is context sensitive in two bits, whether a
record is the packet's first and whether a data record is its first. With the
network up and no allocation failing, the driver's state has no say in how far
the loop gets, and the decoder accepts exactly this grammar.
-/
import DualPcanUsb.PacketLoop

set_option autoImplicit false

namespace DualPcanUsb

/-! ## The grammar

Its widths and kinds are stated on the bits of the status/len byte, next to the decoder's
masks and not through them. -/

/-- Bytes of a data record's id. -/
def Grammar.id_bytes (status_len : u8) : ℕ := if status_len.getLsbD 5 then 4 else 2

/-- Bytes of a timestamp. -/
def Grammar.ts_bytes (first : Bool) : ℕ := if first then 2 else 1

/-- Bytes of a data record's payload. -/
def Grammar.payload_bytes (status_len : u8) : ℕ :=
  if status_len.getLsbD 4 then 0 else status_len.toNat % 16

/-- Bytes of a data record behind its status/len byte. -/
def Grammar.data_bytes (status_len : u8) (first_data : Bool) : ℕ :=
  Grammar.id_bytes status_len + Grammar.ts_bytes first_data + Grammar.payload_bytes status_len

/-- Bytes of a status record's timestamp. -/
def Grammar.status_ts_bytes (status_len : u8) (first : Bool) : ℕ :=
  if status_len.getLsbD 7 then Grammar.ts_bytes first else 0

/-- Bytes of a status record's body. -/
def Grammar.body_bytes (function status_len : u8) : ℕ :=
  if function = 2 then 2 else if function = 3 then 1 else status_len.toNat % 16

/-- A record at `p` that ends at the last argument; the Boolean before it says
whether it is a data record. -/
inductive RecordAt (ibuf : ℕ → u8) (size : ℕ) (first first_data : Bool) (p : ℕ) :
    Bool → ℕ → Prop
  | data (hkind : (ibuf p).getLsbD 6 = false)
      (hfits : p + 1 + Grammar.data_bytes (ibuf p) first_data ≤ size) :
    RecordAt ibuf size first first_data p true
      (p + 1 + Grammar.data_bytes (ibuf p) first_data)
  | status (hkind : (ibuf p).getLsbD 6 = true) (body : ℕ)
      (hbody : body = p + 1 + 2 + Grammar.status_ts_bytes (ibuf p) first) (hhead : body ≤ size)
      (hts : ibuf (p + 1) = 4 → body + 2 ≤ size)
      (hfits : body + Grammar.body_bytes (ibuf (p + 1)) (ibuf p) ≤ size) :
    RecordAt ibuf size first first_data p false
      (body + Grammar.body_bytes (ibuf (p + 1)) (ibuf p))

/-- `n` records from `p` on; what comes behind them is not looked at. -/
inductive RecordsAt (ibuf : ℕ → u8) (size : ℕ) : ℕ → Bool → Bool → ℕ → Prop
  | nil (first first_data : Bool) (p : ℕ) : RecordsAt ibuf size 0 first first_data p
  | cons {n : ℕ} {first first_data is_data : Bool} {p next : ℕ}
      (head : RecordAt ibuf size first first_data p is_data next)
      (tail : RecordsAt ibuf size n false (first_data && !is_data) next) :
    RecordsAt ibuf size (n + 1) first first_data p

/-- A row of records is a first one and the rest. -/
theorem RecordsAt.uncons {ibuf : ℕ → u8} {size n p : ℕ} {first first_data : Bool}
    (h : RecordsAt ibuf size (n + 1) first first_data p) :
    ∃ is_data next, RecordAt ibuf size first first_data p is_data next
      ∧ RecordsAt ibuf size n false (first_data && !is_data) next := by
  cases h with
  | cons head tail => exact ⟨_, _, head, tail⟩

/-- A packet of `size` bytes with as many records as its count byte says. -/
def WellFormedPacket (ibuf : ℕ → u8) (size : ℕ) : Prop :=
  RecordsAt ibuf size (ibuf 1).toNat true true PCAN_USB_MSG_HEADER_LEN

/-- A record is made of bytes below `size`. -/
theorem RecordAt.congr {ibuf ibuf' : ℕ → u8} {size : ℕ} {first first_data is_data : Bool}
    {p next : ℕ} (hagree : ∀ i < size, ibuf' i = ibuf i)
    (h : RecordAt ibuf size first first_data p is_data next) :
    RecordAt ibuf' size first first_data p is_data next := by
  cases h with
  | data hkind hfits =>
    -- `size` lies behind the status byte in either kind
    have hp := hagree p (by omega)
    rw [← hp] at hkind hfits ⊢
    exact .data hkind hfits
  | status hkind body hbody hhead hts hfits =>
    have hp := hagree p (by omega)
    have hfun := hagree (p + 1) (by omega)
    rw [← hp] at hkind hbody
    rw [← hfun] at hts
    rw [← hp, ← hfun] at hfits ⊢
    exact .status hkind body hbody hhead hts hfits

/-- The grammar looks at the packet's own bytes only. -/
theorem RecordsAt.congr {ibuf ibuf' : ℕ → u8} {size n : ℕ} {first first_data : Bool} {p : ℕ}
    (hagree : ∀ i < size, ibuf' i = ibuf i) (h : RecordsAt ibuf size n first first_data p) :
    RecordsAt ibuf' size n first first_data p := by
  induction h with
  | nil first first_data p => exact .nil first first_data p
  | cons head _ ih => exact .cons (head.congr hagree) ih

/-- Whether a packet is well formed is a matter of its `size` bytes. -/
theorem wellFormedPacket_congr {ibuf ibuf' : ℕ → u8} {size : ℕ} (hsize : 1 < size)
    (hagree : ∀ i < size, ibuf' i = ibuf i) :
    WellFormedPacket ibuf' size ↔ WellFormedPacket ibuf size := by
  unfold WellFormedPacket
  rw [hagree 1 hsize]
  exact ⟨RecordsAt.congr fun i hi => (hagree i hi).symm, RecordsAt.congr hagree⟩

/-! ## The grammar and the decoder's view -/

/-- The decoder's mask is bit 6. -/
theorem internal_iff (status_len : u8) :
    status_len &&& PCAN_USB_STATUSLEN_INTERNAL ≠ 0 ↔ status_len.getLsbD 6 = true := by
  revert status_len
  decide

/-- The decoder's mask is the low nibble. -/
theorem dlc_toNat (status_len : u8) :
    (status_len &&& PCAN_USB_STATUSLEN_DLC).toNat = status_len.toNat % 16 := by
  revert status_len
  decide

theorem id_width_eq (status_len : u8) : id_width status_len = Grammar.id_bytes status_len := by
  revert status_len
  decide

/-- The decoder's payload length, by the bits of the first byte. -/
theorem payload_len_eq (status_len : u8) :
    payload_len status_len = Grammar.payload_bytes status_len := by
  revert status_len
  decide

/-- A status record's timestamp, by its bit and its place. -/
theorem status_ts_width_eq (status_len : u8) (first : Bool) :
    status_ts_width status_len first = Grammar.status_ts_bytes status_len first := by
  revert status_len first
  decide

/-- A data record's length, by its three fields. -/
theorem data_len_eq (status_len : u8) (first_data : Bool) :
    data_len status_len first_data = Grammar.data_bytes status_len first_data := by
  unfold data_len Grammar.data_bytes
  rw [id_width_eq, payload_len_eq]
  rfl

/-- The decoder's body is the grammar's: fixed for functions 2 and 3, the low nibble else. -/
theorem status_body_len_eq (function status_len : u8) :
    status_body_len function status_len = Grammar.body_bytes function status_len := by
  unfold status_body_len Grammar.body_bytes
  rw [dlc_toNat]
  rfl

/-- The decoder sees a data record where the grammar has one. -/
theorem recordAt_data_iff {ibuf : ℕ → u8} {size : ℕ} {first first_data : Bool} {p next : ℕ} :
    RecordAt ibuf size first first_data p true next
      ↔ record_shape ibuf size first first_data p = .data next := by
  have hlen : data_len (ibuf p) first_data = Grammar.data_bytes (ibuf p) first_data :=
    data_len_eq _ _
  constructor
  · intro h
    cases h with
    | data hkind hfits =>
      have hmask : ¬ ibuf p &&& PCAN_USB_STATUSLEN_INTERNAL ≠ 0 := by
        rw [internal_iff, hkind]
        exact Bool.false_ne_true
      rw [← hlen] at hfits ⊢
      exact shape_of_data first hmask hfits
  · intro hshape
    unfold record_shape at hshape
    split_ifs at hshape with _ hint _ hfits
    cases hshape
    rw [internal_iff, Bool.not_eq_true] at hint
    rw [hlen] at hfits ⊢
    exact .data hint hfits

/-- Where it sees the head of a status record, what the grammar asks for beyond that is
that the body fits, and a tick in it. -/
theorem recordAt_status_iff {ibuf : ℕ → u8} {size : ℕ} {first first_data : Bool} {p next : ℕ} :
    RecordAt ibuf size first first_data p false next
      ↔ ∃ functionality number body len,
        record_shape ibuf size first first_data p = .status functionality number body len
          ∧ (functionality = PCAN_USB_REC_TS → body + 2 ≤ size)
          ∧ body + len ≤ size ∧ next = body + len := by
  have hbody : p + 1 + status_head_len (ibuf p) first
      = p + 1 + 2 + Grammar.status_ts_bytes (ibuf p) first := by
    rw [status_head_len, status_ts_width_eq, ← Nat.add_assoc]
  have hlen : status_body_len (ibuf (p + 1)) (ibuf p)
      = Grammar.body_bytes (ibuf (p + 1)) (ibuf p) := status_body_len_eq _ _
  constructor
  · intro h
    cases h with
    | status hkind body hbody' hhead hts hfits =>
      rw [← hbody] at hbody'
      rw [← hlen] at hfits ⊢
      subst hbody'
      exact ⟨_, _, _, _, shape_of_status first_data ((internal_iff _).mpr hkind) hhead, hts,
        hfits, rfl⟩
  · rintro ⟨functionality, number, body, len, hshape, hts, hfits, rfl⟩
    unfold record_shape at hshape
    split_ifs at hshape with _ hint hhead
    cases hshape
    rw [hlen] at hfits ⊢
    exact .status ((internal_iff _).mp hint) _ hbody hhead hts hfits

/-! ## The verdict -/

section AlwaysServed

variable {has_skb : ℕ → Bool} (hall : ∀ k, has_skb k = true)
include hall

/-- With every buffer granted, a status record stops the loop only by its
timestamp. -/
theorem status_effect_isSome (size : ℕ) (first : Bool) (o : Outlook) (functionality number : u8)
    (body : ℕ) : (status_effect has_skb size first o functionality number body).isSome
      ↔ (functionality = PCAN_USB_REC_TS → body + 2 ≤ size) := by
  have hne : PCAN_USB_REC_ERROR ≠ PCAN_USB_REC_TS := by decide
  unfold status_effect
  by_cases herr : functionality = PCAN_USB_REC_ERROR
  -- an error record: allocation is the only obstacle, and never fails
  · rw [if_pos herr]
    have hnts : functionality ≠ PCAN_USB_REC_TS := by rw [herr]; exact hne
    simp only [hnts, false_implies, iff_true]
    split
    · rfl
    · rfl
    · rw [if_pos (hall _)]; rfl
  rw [if_neg herr]
  by_cases hts : functionality = PCAN_USB_REC_TS
  · rw [if_pos hts]
    simp only [hts, true_implies]
    split_ifs with hfits
    · simpa using hfits
    · simpa using hfits
  · rw [if_neg hts]
    simp [hts]

/-- The loop gets past a record exactly when the grammar has one there, and then
stands at its end. -/
theorem fate_goes_iff (ibuf : ℕ → u8) (size : ℕ) (first first_data : Bool) (p : ℕ) (o : Outlook)
    (hup : o.net_up = true) (is_data : Bool) (next : ℕ) :
    (∃ delivers o', record_fate has_skb size first o (record_shape ibuf size first first_data p)
        = .go delivers is_data next o')
      ↔ RecordAt ibuf size first first_data p is_data next := by
  constructor
  · rintro ⟨delivers, o', heq⟩
    cases hshape : record_shape ibuf size first first_data p with
    | exhausted => rw [hshape] at heq; cases heq
    | malformed => rw [hshape] at heq; cases heq
    | data end_ =>
      rw [hshape, record_fate, if_pos hup, if_pos (hall _)] at heq
      cases heq
      exact recordAt_data_iff.mpr hshape
    | status functionality number body len =>
      -- the effect succeeds, and then the body decides
      have hsome := status_effect_isSome hall size first o functionality number body
      rw [hshape, record_fate] at heq
      cases heffect : status_effect has_skb size first o functionality number body with
      | none => rw [heffect] at heq; cases heq
      | some after =>
        rw [heffect] at hsome heq
        rw [body_fate] at heq
        split_ifs at heq with hfits
        cases heq
        exact recordAt_status_iff.mpr ⟨_, _, _, _, hshape, hsome.mp rfl, hfits, rfl⟩
  · intro h
    cases is_data with
    | true =>
      rw [recordAt_data_iff.mp h, record_fate, if_pos hup, if_pos (hall _)]
      exact ⟨_, _, rfl⟩
    | false =>
      obtain ⟨functionality, number, body, len, hshape, hts, hfits, rfl⟩ :=
        recordAt_status_iff.mp h
      obtain ⟨⟨delivers, o'⟩, heffect⟩ := Option.isSome_iff_exists.mp
        ((status_effect_isSome hall size first o functionality number body).mpr hts)
      exact ⟨delivers, o', by rw [hshape, record_fate, heffect, body_fate, if_pos hfits]⟩

/-- The loop gets through all records exactly when the grammar has them. -/
theorem fates_go_iff (ibuf : ℕ → u8) (size n : ℕ) : ∀ (first first_data : Bool) (p : ℕ)
    (o : Outlook), o.net_up = true →
    ((∀ fate ∈ fates has_skb ibuf size n first first_data p o, fate.goes_on = true)
      ↔ RecordsAt ibuf size n first first_data p) := by
  induction n with
  | zero =>
    intro first first_data p o _
    simp only [fates, List.not_mem_nil, false_implies, implies_true, true_iff]
    exact .nil first first_data p
  | succ n ih =>
    intro first first_data p o hup
    have hiff := fate_goes_iff hall ibuf size first first_data p o hup
    rw [fates]
    -- the first record that stops the loop is the first one the grammar lacks
    cases hfate : record_fate has_skb size first o
        (record_shape ibuf size first first_data p) with
    | go delivers is_data next o' =>
      have hup' : o'.net_up = true := (fate_net_up hfate).trans hup
      have hrec := (hiff is_data next).mp ⟨delivers, o', hfate⟩
      have hgoes : (Fate.go delivers is_data next o').goes_on = true := rfl
      rw [List.forall_mem_cons, and_iff_right hgoes,
        ih false (first_data && !is_data) next o' hup']
      constructor
      · exact fun htail => .cons hrec htail
      · intro h
        cases h with
        | cons head tail =>
          obtain ⟨_, _, heq⟩ := (hiff _ _).mpr head
          rw [hfate] at heq
          cases heq
          exact tail
    | overrun =>
      refine ⟨fun h => absurd (h .overrun (List.mem_singleton_self _)) (by decide), fun h => ?_⟩
      cases h with
      | cons head _ =>
        obtain ⟨_, _, heq⟩ := (hiff _ _).mpr head
        rw [hfate] at heq
        cases heq
    | stop delivers =>
      refine ⟨fun h => absurd (h _ (List.mem_singleton_self _)) (by simp [Fate.goes_on]),
        fun h => ?_⟩
      cases h with
      | cons head _ =>
        obtain ⟨_, _, heq⟩ := (hiff _ _).mpr head
        rw [hfate] at heq
        cases heq

end AlwaysServed

/-- With the network up and every allocation granted, `decode_incoming_buf` returns
0 on the packets of the grammar and `-EINVAL` on all others, whatever the bytes
behind the packet. -/
theorem decode_verdict_iff_grammar (env : Env) (ibuf : ℕ → u8) (size : ℕ) (s : RxState)
    (hsize : size > PCAN_USB_MSG_HEADER_LEN) (hup : s.fwd.netif_running = true)
    (halloc : ∀ k, (env.alloc_can_skb k).isSome = true) :
    ((decode_incoming_buf env ibuf size s).1 = 0 ↔ WellFormedPacket ibuf size)
      ∧ (¬ WellFormedPacket ibuf size → (decode_incoming_buf env ibuf size s).1 = -EINVAL)
      ∧ ∀ ibuf' : ℕ → u8, (∀ i < size, ibuf' i = ibuf i) →
          (decode_incoming_buf env ibuf' size s).1 = (decode_incoming_buf env ibuf size s).1 := by
  have hverdict : ∀ ibuf : ℕ → u8,
      ((decode_incoming_buf env ibuf size s).1 = 0 ↔ WellFormedPacket ibuf size)
        ∧ (¬ WellFormedPacket ibuf size →
            (decode_incoming_buf env ibuf size s).1 = -EINVAL) := by
    intro ibuf
    have hloop := decode_incoming_buf_fates env ibuf size s
    have hiff : (decode_incoming_buf env ibuf size s).1 = 0 ↔ WellFormedPacket ibuf size :=
      hloop.verdict.trans (fates_go_iff halloc ibuf size _ true true _ s.outlook hup)
    refine ⟨hiff, fun hbad => ?_⟩
    rcases hloop.invalid hup halloc with hok | herr
    · exact absurd (hiff.mp hok) hbad
    · exact herr
  refine ⟨(hverdict ibuf).1, (hverdict ibuf).2, fun ibuf' hagree => ?_⟩
  -- bytes from `size` on are not part of any record
  have hcongr := wellFormedPacket_congr (lt_trans (by decide) hsize) hagree
  by_cases hwell : WellFormedPacket ibuf size
  · rw [(hverdict ibuf).1.mpr hwell, (hverdict ibuf').1.mpr (hcongr.mpr hwell)]
  · rw [(hverdict ibuf).2 hwell, (hverdict ibuf').2 (fun h => hwell (hcongr.mp h))]

/-- A remote frame and a timestamp record, with three bytes behind them. -/
def two_record_packet : ℕ → u8 :=
  buffer [0, 2, 0x10, 0x20, 0x03, 0x34, 0x12, 0x44, 4, 0, 0x78, 0x56, 0x9a, 0xbc, 1, 2, 3]

theorem decode_verdict_iff_grammar_two_records :
    ((decode_incoming_buf Env.plenty two_record_packet 17 (RxState.idle true)).1 = 0
        ↔ WellFormedPacket two_record_packet 17)
      ∧ (¬ WellFormedPacket two_record_packet 17 →
          (decode_incoming_buf Env.plenty two_record_packet 17 (RxState.idle true)).1 = -EINVAL)
      ∧ ∀ ibuf' : ℕ → u8, (∀ i < 17, ibuf' i = two_record_packet i) →
          (decode_incoming_buf Env.plenty ibuf' 17 (RxState.idle true)).1
            = (decode_incoming_buf Env.plenty two_record_packet 17 (RxState.idle true)).1 :=
  decode_verdict_iff_grammar Env.plenty two_record_packet 17 (RxState.idle true) (by decide) rfl
    (fun _ => rfl)

example : (decode_incoming_buf Env.plenty two_record_packet 17 (RxState.idle true)).1 = 0 := by
  decide

end DualPcanUsb
