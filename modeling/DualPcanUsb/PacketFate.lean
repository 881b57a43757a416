/-
What becomes of a packet: the walk of `decode_incoming_buf` reduced to what
decides its course.

Where a record ends depends on the packet's bytes only (`record_shape`). Whether
the loop gets past it also depends on the driver: on the outcome of socket buffer
allocations and, through the ring and the error state, on earlier records. The
`Outlook` carries just that part of the state, `Fate` says what one record leads
to, and `packet_fates` lists the fates of the records the loop gets to.
`decode_record_fate` says that a round of the loop does what the record's fate
says; the loop itself follows in `PacketLoop`.
-/
import DualPcanUsb.StatusRecord

set_option autoImplicit false

namespace DualPcanUsb

/-! ## The shape of a record -/

/-- What stands at a position of the packet. A status record is given by its two
head bytes, the position of its body and the length of it. -/
inductive Shape
  | exhausted
  | malformed
  | data (next : ℕ)
  | status (functionality number : u8) (body len : ℕ)
deriving DecidableEq, Repr

/-- The record at `p` in a packet of `size` bytes; `first` and `first_data` say
whether it would be the first record, and the first data record. -/
def record_shape (ibuf : ℕ → u8) (size : ℕ) (first first_data : Bool) (p : ℕ) : Shape :=
  if size ≤ p then .exhausted
  else if ibuf p &&& PCAN_USB_STATUSLEN_INTERNAL ≠ 0 then
    if p + 1 + status_head_len (ibuf p) first ≤ size then
      .status (ibuf (p + 1)) (ibuf (p + 1 + 1)) (p + 1 + status_head_len (ibuf p) first)
        (status_body_len (ibuf (p + 1)) (ibuf p))
    else .malformed
  else if p + 1 + data_len (ibuf p) first_data ≤ size then
    .data (p + 1 + data_len (ibuf p) first_data)
  else .malformed

/-! ## The outlook -/

/-- The part of the driver's state that decides how far the loop gets.
`counts_pass` says whether a timestamp in the first record counts a pass. -/
structure Outlook where
  net_up : Bool
  open_count : Int
  unread : Int
  can_state : CanState
  tick_count : u32
  counts_pass : Bool
  skbs : ℕ
deriving DecidableEq, Repr

/-- The outlook of a state at the start of a packet. -/
def RxState.outlook (s : RxState) : Outlook where
  net_up := s.fwd.netif_running
  open_count := s.fwd.char_dev.open_count
  unread := s.fwd.char_dev.rx_unread_cnt
  can_state := s.fwd.can_state
  tick_count := s.fwd.time_ref.tick_count
  -- the two guards of `set_time_reference`
  counts_pass := s.fwd.time_ref.tv_host_0 ≠ 0 ∧ s.fwd.time_ref.tv_host ≠ 0
  skbs := s.skbs

/-- `o` describes `s`. Behind the first record no timestamp counts a pass, and
that field is free. -/
structure Describes (first : Bool) (o : Outlook) (s : RxState) : Prop where
  net_up_eq : s.fwd.netif_running = o.net_up
  open_count_eq : s.fwd.char_dev.open_count = o.open_count
  unread_eq : s.fwd.char_dev.rx_unread_cnt = o.unread
  can_state_eq : s.fwd.can_state = o.can_state
  tick_count_eq : s.fwd.time_ref.tick_count = o.tick_count
  counts_pass_eq : first = true →
    o.counts_pass = decide (s.fwd.time_ref.tv_host_0 ≠ 0 ∧ s.fwd.time_ref.tv_host ≠ 0)
  skbs_eq : s.skbs = o.skbs

theorem describes_outlook (first : Bool) (s : RxState) : Describes first s.outlook s :=
  ⟨rfl, rfl, rfl, rfl, rfl, fun _ => rfl, rfl⟩

/-- The ring has room for a sampled message. -/
def Outlook.slot_free (o : Outlook) : Bool :=
  1 ≤ o.open_count ∧ 0 ≤ o.unread ∧ o.unread < PCAN_CHRDEV_MAX_RX_BUF_COUNT

/-- The sample finds a slot exactly if the outlook has one free. -/
theorem chardev_msg_isSome {first : Bool} {o : Outlook} {s : RxState}
    (h : Describes first o s) :
    (decode_data_sample s.fwd.char_dev).chardev_msg.isSome = o.slot_free := by
  unfold RxSample.chardev_msg decode_data_sample Outlook.slot_free
  rw [← h.open_count_eq, ← h.unread_eq]
  by_cases hopen : s.fwd.char_dev.open_count < 1
  · simp [hopen, ESHUTDOWN]
  · by_cases hroom : s.fwd.char_dev.rx_unread_cnt < 0
      ∨ s.fwd.char_dev.rx_unread_cnt ≥ PCAN_CHRDEV_MAX_RX_BUF_COUNT
    · simp only [hopen, if_false, if_pos hroom]
      exact (decide_eq_false (by omega)).symm
    · simp only [hopen, if_false, if_neg hroom]
      exact (decide_eq_true (by omega)).symm

/-- After a data record that was decoded. -/
def Outlook.after_data (o : Outlook) : Outlook :=
  { o with
    skbs := if o.net_up then o.skbs + 1 else o.skbs
    -- the ring takes a copy of what the network gets
    unread := if o.slot_free then o.unread + 1 else o.unread }

/-- After an error record with this verdict. -/
def Outlook.after_error (o : Outlook) (verdict : ErrorSwitch) : Outlook :=
  { o with can_state := verdict.state_after o.can_state }

/-- After a timestamp record. -/
def Outlook.after_ts (o : Outlook) (first : Bool) : Outlook :=
  { o with tick_count := if first && o.counts_pass then o.tick_count + 1 else o.tick_count }

/-! ## Fates -/

/-- What one record leads to: the status byte is read outside the packet, the
loop stops, or it goes on. `delivers` is the kind of frame handed to the network
stack on the way. -/
inductive Fate
  | overrun
  | stop (delivers : Option RecordKind)
  | go (delivers : Option RecordKind) (is_data : Bool) (next : ℕ) (outlook : Outlook)
deriving DecidableEq, Repr

def Fate.delivers : Fate → Option RecordKind
  | .overrun => none
  | .stop delivers => delivers
  | .go delivers _ _ _ => delivers

def Fate.goes_on : Fate → Bool
  | .go _ _ _ _ => true
  | _ => false

/-- What a status record does before its body is checked: the frame delivered and
the outlook after it, or `none` where the loop stops. -/
def status_effect (has_skb : ℕ → Bool) (size : ℕ) (first : Bool) (o : Outlook)
    (functionality number : u8) (body : ℕ) : Option (Option RecordKind × Outlook) :=
  if functionality = PCAN_USB_REC_ERROR then
    match error_verdict o.net_up o.tick_count o.can_state number with
    | .ignore => some (none, o.after_error .ignore)
    | .back_to_active => some (none, o.after_error .back_to_active)
    | .new_state new_state =>
      if has_skb o.skbs then
        some (some .status, { o.after_error (.new_state new_state) with skbs := o.skbs + 1 })
      else none
  else if functionality = PCAN_USB_REC_TS then
    if body + 2 ≤ size then some (none, o.after_ts first) else none
  else some (none, o)

/-- The body of a status record is checked last. -/
def body_fate (size body len : ℕ) : Option (Option RecordKind × Outlook) → Fate
  | none => .stop none
  | some (delivers, o) =>
    if body + len ≤ size then .go delivers false (body + len) o else .stop delivers

/-- The fate of a record, given which allocations succeed. -/
def record_fate (has_skb : ℕ → Bool) (size : ℕ) (first : Bool) (o : Outlook) : Shape → Fate
  | .exhausted => .overrun
  | .malformed => .stop none
  | .data next =>
    if o.net_up then
      if has_skb o.skbs then .go (some .data) true next o.after_data else .stop none
    -- without a network the ring is the only taker
    else if o.slot_free then .go none true next o.after_data
    else .stop none
  | .status functionality number body len =>
    body_fate size body len (status_effect has_skb size first o functionality number body)

/-- The fates of up to `n` records from position `p` on. -/
def fates (has_skb : ℕ → Bool) (ibuf : ℕ → u8) (size : ℕ) :
    ℕ → Bool → Bool → ℕ → Outlook → List Fate
  | 0, _, _, _, _ => []
  | n + 1, first, first_data, p, o =>
    match record_fate has_skb size first o (record_shape ibuf size first first_data p) with
    | .go delivers is_data next o' =>
      .go delivers is_data next o'
        :: fates has_skb ibuf size n false (first_data && !is_data) next o'
    | fate => [fate]

/-- Whether the allocation with this number succeeds. -/
def Env.has_skb (env : Env) (k : ℕ) : Bool := (env.alloc_can_skb k).isSome

/-- No socket buffer, as the outlook sees it. -/
theorem Env.has_skb_of_none {env : Env} {k : ℕ} (h : env.alloc_can_skb k = none) :
    env.has_skb k = false := by
  rw [Env.has_skb, h]
  rfl

/-- A socket buffer, as the outlook sees it. -/
theorem Env.has_skb_of_some {env : Env} {k : ℕ} {frame : CanFrame}
    (h : env.alloc_can_skb k = some frame) : env.has_skb k = true := by
  rw [Env.has_skb, h]
  rfl

/-- The fates of a packet's records, as far as the loop gets. -/
def packet_fates (env : Env) (ibuf : ℕ → u8) (size : ℕ) (s : RxState) : List Fate :=
  fates env.has_skb ibuf size (ibuf 1).toNat true true PCAN_USB_MSG_HEADER_LEN s.outlook

/-! ## The trace of one record -/

/-- The events of one record. `k` is the number of the next allocation before it
and `k'` after it, so a record that allocates a buffer gets the fresh name `k`. -/
inductive RecordTrace (env : Env) (k : ℕ) : ℕ → Option RecordKind → List Event → Prop
  | quiet (k' : ℕ) (hk : k ≤ k') : RecordTrace env k k' none []
  | in_place (ts16 : u16) : RecordTrace env k k none [.compute_kernel_time ts16]
  | freed (stores : ℕ) :
    RecordTrace env k (k + 1) none
      (.alloc_can_skb k :: (List.replicate stores (.access k) ++ [.dev_kfree_skb k]))
  | data (frame : CanFrame) (hframe : frame.can_id &&& CAN_ERR_FLAG = 0) (ts16 : u16)
      (now : ktime_t) (slot : Option Int) :
    RecordTrace env k (k + 1) (some .data)
      (.alloc_can_skb k :: (List.replicate 3 (.access k) ++ posted_events k ts16 ⟨now, frame⟩ slot))
  | status (new_state : CanState) (status_len : u8) (ts16 : u16) (frame : CanFrame)
      (halloc : env.alloc_can_skb k = some frame) (now : ktime_t) :
    RecordTrace env k (k + 1) (some .status)
      (.alloc_can_skb k :: error_events k new_state status_len ts16 frame now)

/-- A record that logged nothing. -/
theorem quiet_trace {env : Env} {s s' : RxState} (htrace : s'.trace = s.trace)
    (hskbs : s.skbs ≤ s'.skbs) :
    ∃ events, s'.trace = s.trace ++ events ∧ RecordTrace env s.skbs s'.skbs none events := by
  refine ⟨[], ?_, .quiet _ hskbs⟩
  rw [htrace, List.append_nil]

/-- How the loop stands after a record's effect: it goes on with a described
state, or stops with an error, which is `-EINVAL` if no allocation is to blame. -/
def EffectVerdict (env : Env) (s : RxState) (err : Int) (s' : RxState) :
    Option (Option RecordKind × Outlook) → Prop
  | some (_, o) => err = 0 ∧ Describes false o s'
  | none => err ≠ 0 ∧ (s.fwd.netif_running = true → (∀ k, env.has_skb k = true) → err = -EINVAL)

/-- What a status record did before its body was checked. -/
structure EffectOutcome (env : Env) (s : RxState) (effect : Option (Option RecordKind × Outlook))
    (err : Int) (s' : RxState) : Prop where
  trace : ∃ events, s'.trace = s.trace ++ events
    ∧ RecordTrace env s.skbs s'.skbs (effect.bind (·.1)) events
  verdict : EffectVerdict env s err s' effect

/-- The switch of a status record does not move the position. -/
theorem StatusEffect.advanced {env : Env} {functionality number status_len : u8}
    {ctx ctx' : MsgContext} {s s' : RxState} {err : Int}
    (h : StatusEffect env functionality number status_len ctx s err ctx' s') :
    Advanced ctx ctx' ∧ ctx'.ptr = ctx.ptr := by
  cases h with
  | ts_later _ hfits _ => exact ⟨Advanced.take ctx 0 _ _ hfits, rfl⟩
  | ts_first _ hfits _ _ => exact ⟨Advanced.take ctx 0 _ _ hfits, rfl⟩
  | _ => exact ⟨Advanced.refl ctx, rfl⟩

/-- Where a timestamp counts a pass. -/
theorem set_host_time_tick_count (now : ktime_t) (time_ref : TimeRef) :
    (set_host_time now time_ref).tick_count
      = if time_ref.tv_host_0 ≠ 0 ∧ time_ref.tv_host ≠ 0 then time_ref.tick_count + 1
        else time_ref.tick_count := by
  unfold set_host_time
  by_cases h0 : time_ref.tv_host_0 = 0
  · rw [if_pos h0, if_neg (by tauto)]
  rw [if_neg h0]
  by_cases hhost : time_ref.tv_host ≠ 0
  · rw [if_pos hhost, if_pos ⟨h0, hhost⟩]
    dsimp only
    split <;> rfl
  · rw [if_neg hhost, if_neg (by tauto)]

/-- What the switch does is what the outlook says that it will. -/
theorem StatusEffect.outcome {env : Env} {functionality number status_len : u8}
    {ctx ctx' : MsgContext} {s s' : RxState} {err : Int} {first : Bool} {o : Outlook}
    (h : StatusEffect env functionality number status_len ctx s err ctx' s')
    (hdesc : Describes first o s) (hfirst : first = decide (ctx.rec_idx = 0)) :
    EffectOutcome env s
      (status_effect env.has_skb ctx.end_ first o functionality number ctx.ptr) err s' := by
  obtain ⟨hup, hopen, hunread, hstate, htick, hpass, hskbs⟩ := hdesc
  have hts : PCAN_USB_REC_TS ≠ PCAN_USB_REC_ERROR := by decide
  unfold status_effect
  -- the branches of `decode_functionality`; only an error record that is posted, and
  -- a first timestamp, change what the outlook records
  cases h with
  | skipped herr hnts =>
    rw [if_neg herr, if_neg hnts]
    exact ⟨quiet_trace rfl le_rfl, rfl, hup, hopen, hunread, hstate, htick, by simp, hskbs⟩
  | settled herr verdict hverdict hquiet =>
    rw [if_pos herr, ← hup, ← htick, ← hstate, hverdict]
    cases verdict with
    | new_state new_state => exact absurd rfl (hquiet new_state)
    | ignore =>
      exact ⟨quiet_trace rfl le_rfl, rfl, hup, hopen, hunread, hstate, htick, by simp,
        hskbs⟩
    | back_to_active =>
      exact ⟨quiet_trace rfl le_rfl, rfl, hup, hopen, hunread, rfl, htick, by simp, hskbs⟩
  | no_skb herr new_state hverdict halloc =>
    have hno : env.has_skb s.skbs = false := Env.has_skb_of_none halloc
    rw [if_pos herr, ← hup, ← htick, ← hstate, hverdict]
    dsimp only
    rw [← hskbs, if_neg (by simp [hno])]
    refine ⟨quiet_trace rfl (Nat.le_succ _), by decide, ?_⟩
    intro _ hall
    rw [hall] at hno
    cases hno
  | posted herr new_state hverdict frame halloc s' htrace hskbs' hrunning hdev href hcan =>
    have hyes : env.has_skb s.skbs = true := Env.has_skb_of_some halloc
    rw [if_pos herr, ← hup, ← htick, ← hstate, hverdict]
    dsimp only
    rw [← hskbs, if_pos hyes]
    refine ⟨⟨_, htrace, ?_⟩, rfl, hrunning.trans hup, ?_, ?_, ?_, ?_, by simp, hskbs'⟩
    · rw [hskbs']; exact .status new_state status_len ctx.ts16 frame halloc _
    · rw [hdev]; exact hopen
    · rw [hdev]; exact hunread
    · rw [hcan, Outlook.after_error, ← hstate]
    · rw [href]; exact htick
  | ts_short hts' hshort =>
    rw [if_neg (by rw [hts']; exact hts), if_pos hts', if_neg (by omega)]
    exact ⟨quiet_trace rfl le_rfl, by decide, fun _ _ => rfl⟩
  | ts_later hts' hfits hidx =>
    rw [if_neg (by rw [hts']; exact hts), if_pos hts', if_pos hfits]
    have hlater : first = false := by rw [hfirst]; simpa using hidx
    refine ⟨quiet_trace rfl le_rfl, rfl, hup, hopen, hunread, hstate, ?_, by simp, hskbs⟩
    rw [Outlook.after_ts, hlater]
    simpa using htick
  | ts_first hts' hfits hidx clocks =>
    rw [if_neg (by rw [hts']; exact hts), if_pos hts', if_pos hfits]
    -- `set_time_reference` counts a pass if both host times were there
    have hnow : first = true := by rw [hfirst]; simpa using hidx
    refine ⟨quiet_trace rfl le_rfl, rfl, hup, hopen, hunread, hstate, ?_, by simp, hskbs⟩
    dsimp only
    rw [set_tick_count, set_host_time_tick_count, Outlook.after_ts, hnow, hpass hnow, htick]
    simp

/-! ## One record -/

/-- How the loop stands after a record: at the next one with a described state, or
stopped with an error, which is `-EINVAL` if no allocation is to blame. -/
def Fate.Verdict (env : Env) (ctx : MsgContext) (s : RxState) (err : Int) (ptr : ℕ)
    (rec_data_idx : u8) (s' : RxState) : Fate → Prop
  | .go _ is_data next o => err = 0 ∧ ptr = next
      ∧ rec_data_idx = (if is_data then ctx.rec_data_idx + 1 else ctx.rec_data_idx)
      ∧ Describes false o s'
  | _ => err ≠ 0 ∧ (s.fwd.netif_running = true → (∀ k, env.has_skb k = true) → err = -EINVAL)

/-- What one round of the loop did, in terms of the record's fate. -/
structure RecordOutcome (env : Env) (ctx : MsgContext) (s : RxState) (fate : Fate) (err : Int)
    (ctx' : MsgContext) (s' : RxState) : Prop where
  ibuf_eq : ctx'.ibuf = ctx.ibuf
  end_eq : ctx'.end_ = ctx.end_
  rec_cnt_eq : ctx'.rec_cnt = ctx.rec_cnt
  rec_idx_eq : ctx'.rec_idx = ctx.rec_idx
  reads : ∃ rs, ctx'.reads = ctx.reads ++ ctx.ptr :: rs ∧ ∀ i ∈ rs, i < ctx.end_
  trace : ∃ events, s'.trace = s.trace ++ events
    ∧ RecordTrace env s.skbs s'.skbs fate.delivers events
  verdict : fate.Verdict env ctx s err ctx'.ptr ctx'.rec_data_idx s'

/-- The cursor part of an outcome, from a cursor that moved on behind the status
byte; the data record counter may move too. -/
theorem Advanced.outcome {ctx ctx' : MsgContext} (h : Advanced (ctx.take 1 1) ctx')
    (rec_data_idx : u8) {env : Env} {s s' : RxState} {fate : Fate} {err : Int}
    (htrace : ∃ events, s'.trace = s.trace ++ events
      ∧ RecordTrace env s.skbs s'.skbs fate.delivers events)
    (hverdict : fate.Verdict env ctx s err ctx'.ptr rec_data_idx s') :
    RecordOutcome env ctx s fate err { ctx' with rec_data_idx := rec_data_idx } s' := by
  obtain ⟨rs, hrs, hlt⟩ := h.reads_lt
  refine ⟨h.ibuf_eq, h.end_eq, h.rec_cnt_eq, h.rec_idx_eq, ⟨rs, ?_, hlt⟩, htrace, ?_⟩
  · change ctx'.reads = _
    rw [hrs, MsgContext.take]
    simp
  · exact hverdict

/-- The same for a record that stops the loop, wherever its status byte was. -/
theorem Advanced.outcome_stop {ctx ctx' : MsgContext} (h : Advanced (ctx.take 1 1) ctx')
    (rec_data_idx : u8) {env : Env} {s s' : RxState} {fate : Fate} {err : Int}
    (hfate : fate = .overrun ∨ fate = .stop none)
    (htrace : ∃ events, s'.trace = s.trace ++ events
      ∧ RecordTrace env s.skbs s'.skbs none events)
    (herr : err ≠ 0)
    (hinvalid : s.fwd.netif_running = true → (∀ k, env.has_skb k = true) → err = -EINVAL) :
    RecordOutcome env ctx s fate err { ctx' with rec_data_idx := rec_data_idx } s' := by
  rcases hfate with rfl | rfl
  · exact h.outcome rec_data_idx htrace ⟨herr, hinvalid⟩
  · exact h.outcome rec_data_idx htrace ⟨herr, hinvalid⟩

/-- A record that does not fit has one of two fates. -/
theorem fate_of_short (has_skb : ℕ → Bool) {ibuf : ℕ → u8} {size p : ℕ}
    (first first_data : Bool) (o : Outlook)
    (h : if ibuf p &&& PCAN_USB_STATUSLEN_INTERNAL ≠ 0 then
        size < p + 1 + status_head_len (ibuf p) first
      else size < p + 1 + data_len (ibuf p) first_data) :
    record_fate has_skb size first o (record_shape ibuf size first first_data p) = .overrun
      ∨ record_fate has_skb size first o (record_shape ibuf size first first_data p)
        = .stop none := by
  unfold record_shape
  by_cases hp : size ≤ p
  · rw [if_pos hp]; exact .inl rfl
  rw [if_neg hp]
  by_cases hint : ibuf p &&& PCAN_USB_STATUSLEN_INTERNAL ≠ 0
  -- a status record lacks its head, a data record some byte
  · rw [if_pos hint] at h
    rw [if_pos hint, if_neg (by omega)]; exact .inr rfl
  · rw [if_neg hint] at h
    rw [if_neg hint, if_neg (by omega)]; exact .inr rfl

/-- A status record whose head fits, by its bytes. -/
theorem shape_of_status {ibuf : ℕ → u8} {size p : ℕ} {first : Bool} (first_data : Bool)
    (hint : ibuf p &&& PCAN_USB_STATUSLEN_INTERNAL ≠ 0)
    (h : p + 1 + status_head_len (ibuf p) first ≤ size) :
    record_shape ibuf size first first_data p
      = .status (ibuf (p + 1)) (ibuf (p + 1 + 1)) (p + 1 + status_head_len (ibuf p) first)
          (status_body_len (ibuf (p + 1)) (ibuf p)) := by
  rw [record_shape, if_neg (by omega), if_pos hint, if_pos h]

/-- A data record that fits, by its bytes. -/
theorem shape_of_data {ibuf : ℕ → u8} {size p : ℕ} (first : Bool) {first_data : Bool}
    (hint : ¬ ibuf p &&& PCAN_USB_STATUSLEN_INTERNAL ≠ 0)
    (h : p + 1 + data_len (ibuf p) first_data ≤ size) :
    record_shape ibuf size first first_data p = .data (p + 1 + data_len (ibuf p) first_data) := by
  rw [record_shape, if_neg (by omega), if_neg hint, if_pos h]

/-- The effect of a status record whose head is there, seen from the status byte. -/
theorem StatusEffect.outcome_behind_head {env : Env} {ctx ctx' : MsgContext} {s s' : RxState}
    {err : Int} {first : Bool} {o : Outlook} (hfirst : first = decide (ctx.rec_idx = 0))
    (hdesc : Describes first o s)
    (hhead : (ctx.take 1 1).ptr
      + status_head_len (ctx.ibuf ctx.ptr) ((ctx.take 1 1).rec_idx = 0) ≤ (ctx.take 1 1).end_)
    (h : StatusEffect env ((ctx.take 1 1).peek 0) ((ctx.take 1 1).peek 1) (ctx.ibuf ctx.ptr)
      ((ctx.take 1 1).status_body (ctx.ibuf ctx.ptr)) s err ctx' s') :
    Advanced (ctx.take 1 1) ctx'
      ∧ ctx'.ptr = ctx.ptr + 1 + status_head_len (ctx.ibuf ctx.ptr) first
      ∧ EffectOutcome env s (status_effect env.has_skb ctx.end_ first o
          (ctx.ibuf (ctx.ptr + 1)) (ctx.ibuf (ctx.ptr + 1 + 1))
          (ctx.ptr + 1 + status_head_len (ctx.ibuf ctx.ptr) first)) err s' := by
  have hidx : decide ((ctx.take 1 1).rec_idx = 0) = first := hfirst.symm
  have hptr : (ctx.take 1 1).ptr = ctx.ptr + 1 := rfl
  have hbody := status_body_advanced _ _ hhead
  obtain ⟨hadv, hptr'⟩ := h.advanced
  have hout := h.outcome hdesc (by rw [hbody.rec_idx_eq]; exact hfirst)
  rw [status_body_ptr, hidx, hptr, hbody.end_eq] at hout
  rw [status_body_ptr, hidx, hptr] at hptr'
  exact ⟨hbody.trans hadv, hptr', hout⟩

/-- A status record, from the status byte on. -/
theorem StatusRecord.outcome {env : Env} {ctx ctx' : MsgContext} {s s' : RxState} {err : Int}
    {first first_data : Bool} {o : Outlook}
    (h : StatusRecord env (ctx.ibuf ctx.ptr) (ctx.take 1 1) s err ctx' s')
    (hint : ctx.ibuf ctx.ptr &&& PCAN_USB_STATUSLEN_INTERNAL ≠ 0)
    (hfirst : first = decide (ctx.rec_idx = 0)) (hdesc : Describes first o s) :
    RecordOutcome env ctx s (record_fate env.has_skb ctx.end_ first o
      (record_shape ctx.ibuf ctx.end_ first first_data ctx.ptr)) err ctx' s' := by
  have hidx : decide ((ctx.take 1 1).rec_idx = 0) = first := hfirst.symm
  have hptr : (ctx.take 1 1).ptr = ctx.ptr + 1 := rfl
  have hend : (ctx.take 1 1).end_ = ctx.end_ := rfl
  have hlen : (ctx.take 1 1).status_rec_len (ctx.ibuf ctx.ptr)
    = status_body_len (ctx.ibuf (ctx.ptr + 1)) (ctx.ibuf ctx.ptr) := rfl
  by_cases hshort : ctx.end_ < ctx.ptr + 1 + status_head_len (ctx.ibuf ctx.ptr) first
  · -- nothing but the head was looked at
    have hfate := fate_of_short env.has_skb first first_data o
      (by rw [if_pos hint]; exact hshort)
    cases h with
    | head_short _ _ hadv =>
      exact hadv.outcome_stop ctx'.rec_data_idx hfate (quiet_trace rfl le_rfl) (by decide)
        (fun _ _ => rfl)
    | stopped hhead | body_short hhead | fits hhead => rw [hidx, hptr, hend] at hhead; omega
  rw [shape_of_status first_data hint (by omega), record_fate]
  have hhead : (ctx.take 1 1).ptr
      + status_head_len (ctx.ibuf ctx.ptr) ((ctx.take 1 1).rec_idx = 0) ≤ (ctx.take 1 1).end_ := by
    rw [hidx, hptr, hend]; omega
  -- the effect comes first, then the body check decides
  have heffect_outcome := fun {err : Int} {ctx' : MsgContext} {s' : RxState} =>
    @StatusEffect.outcome_behind_head env ctx ctx' s s' err first o hfirst hdesc hhead
  -- from here on only the outcome of the effect matters
  generalize status_effect env.has_skb ctx.end_ first o (ctx.ibuf (ctx.ptr + 1))
    (ctx.ibuf (ctx.ptr + 1 + 1)) (ctx.ptr + 1 + status_head_len (ctx.ibuf ctx.ptr) first)
    = effect at heffect_outcome ⊢
  cases h with
  | head_short hshort' => rw [hidx, hptr, hend] at hshort'; omega
  | stopped _ _ herr _ _ heffect =>
    obtain ⟨hadv, -, htrace, hverdict⟩ := heffect_outcome heffect
    cases effect with
    | some after => exact absurd hverdict.1 herr
    | none => exact hadv.outcome ctx'.rec_data_idx htrace hverdict
  | body_short _ _ _ heffect hshort' =>
    obtain ⟨hadv, hptr', htrace, hverdict⟩ := heffect_outcome heffect
    rw [hlen, hptr', hadv.end_eq, hend] at hshort'
    cases effect with
    | none => exact absurd rfl hverdict.1
    | some after =>
      rw [body_fate, if_neg (by omega)]
      exact hadv.outcome ctx'.rec_data_idx htrace ⟨by decide, fun _ _ => rfl⟩
  | fits _ ctx' _ heffect hfits =>
    obtain ⟨hadv, hptr', htrace, hverdict⟩ := heffect_outcome heffect
    have hdata : ctx'.rec_data_idx = ctx.rec_data_idx := hadv.rec_data_idx_eq
    -- skipping the body reads nothing
    have htake := hadv.trans (@take_advanced ctx' 0
      ((ctx.take 1 1).status_rec_len (ctx.ibuf ctx.ptr)) (by omega))
    rw [hlen, hptr', hadv.end_eq, hend] at hfits
    cases effect with
    | none => exact absurd rfl hverdict.1
    | some after =>
      rw [body_fate, if_pos hfits]
      refine htake.outcome ctx'.rec_data_idx htrace ⟨rfl, ?_, hdata, hverdict.2⟩
      rw [← hlen, ← hptr']
      rfl

/-- A data record that cannot be taken has one of two fates, fitting or not. -/
theorem fate_of_not_taken (has_skb : ℕ → Bool) {ibuf : ℕ → u8} (size : ℕ) {p : ℕ}
    (first first_data : Bool) (o : Outlook)
    (hint : ¬ ibuf p &&& PCAN_USB_STATUSLEN_INTERNAL ≠ 0)
    (h : if o.net_up then has_skb o.skbs = false else o.slot_free = false) :
    record_fate has_skb size first o (record_shape ibuf size first first_data p) = .overrun
      ∨ record_fate has_skb size first o (record_shape ibuf size first first_data p)
        = .stop none := by
  by_cases hshort : size < p + 1 + data_len (ibuf p) first_data
  · exact fate_of_short has_skb first first_data o (by rw [if_neg hint]; exact hshort)
  rw [shape_of_data first hint (by omega), record_fate]
  -- fitting, it is refused by the network or by the ring
  cases hup : o.net_up <;> simp_all

/-- What the outlook says of the state behind a data record that was taken. -/
theorem Describes.after_data {first : Bool} {o : Outlook} {s s₁ : RxState}
    (h : Describes first o s) (hrun : s₁.fwd.netif_running = s.fwd.netif_running)
    (hopen : s₁.fwd.char_dev.open_count = s.fwd.char_dev.open_count)
    (hunread : s₁.fwd.char_dev.rx_unread_cnt = s.fwd.char_dev.rx_unread_cnt)
    (hstate : s₁.fwd.can_state = s.fwd.can_state)
    (htick : s₁.fwd.time_ref.tick_count = s.fwd.time_ref.tick_count)
    (hskbs : s₁.skbs = if s.fwd.netif_running then s.skbs + 1 else s.skbs) :
    Describes false o.after_data { s₁ with fwd := { s₁.fwd with
      char_dev := decode_data_commit (decode_data_sample s.fwd.char_dev) s₁.fwd.char_dev } } where
  net_up_eq := hrun.trans h.net_up_eq
  open_count_eq := (commit_open_count ..).trans (hopen.trans h.open_count_eq)
  unread_eq := by
    dsimp only
    rw [commit_unread, chardev_msg_isSome h, hunread, h.unread_eq]
    rfl
  can_state_eq := hstate.trans h.can_state_eq
  tick_count_eq := htick.trans h.tick_count_eq
  counts_pass_eq := by simp
  skbs_eq := by
    dsimp only
    rw [hskbs, h.net_up_eq, h.skbs_eq]
    rfl

/-- A data record that is cut off. -/
theorem fate_of_data_short (has_skb : ℕ → Bool) {ctx : MsgContext} (first : Bool)
    {first_data : Bool} (o : Outlook) (hint : ¬ ctx.ibuf ctx.ptr &&& PCAN_USB_STATUSLEN_INTERNAL ≠ 0)
    (hdata : first_data = decide (ctx.rec_data_idx = 0))
    (hshort : (ctx.take 1 1).end_ < (ctx.take 1 1).ptr
      + data_len (ctx.ibuf ctx.ptr) ((ctx.take 1 1).rec_data_idx = 0)) :
    record_fate has_skb ctx.end_ first o
        (record_shape ctx.ibuf ctx.end_ first first_data ctx.ptr) = .overrun
      ∨ record_fate has_skb ctx.end_ first o
        (record_shape ctx.ibuf ctx.end_ first first_data ctx.ptr) = .stop none := by
  have hidx : decide ((ctx.take 1 1).rec_data_idx = 0) = first_data := hdata.symm
  have hptr : (ctx.take 1 1).ptr = ctx.ptr + 1 := rfl
  have hend : (ctx.take 1 1).end_ = ctx.end_ := rfl
  rw [hidx, hptr, hend] at hshort
  exact fate_of_short has_skb first first_data o (by rw [if_neg hint]; exact hshort)

/-- A data record that fits, and that the network or the ring took. -/
theorem outcome_of_data_fits {env : Env} {ctx : MsgContext} {s s' : RxState}
    {first first_data : Bool} {o : Outlook} (delivers : Option RecordKind)
    (hint : ¬ ctx.ibuf ctx.ptr &&& PCAN_USB_STATUSLEN_INTERNAL ≠ 0)
    (hdata : first_data = decide (ctx.rec_data_idx = 0))
    (hfits : (ctx.take 1 1).ptr + data_len (ctx.ibuf ctx.ptr) ((ctx.take 1 1).rec_data_idx = 0)
      ≤ (ctx.take 1 1).end_)
    (hfate : ∀ next, record_fate env.has_skb ctx.end_ first o (.data next)
      = .go delivers true next o.after_data)
    (htrace : ∃ events, s'.trace = s.trace ++ events
      ∧ RecordTrace env s.skbs s'.skbs delivers events)
    (hdesc : Describes false o.after_data s') :
    RecordOutcome env ctx s (record_fate env.has_skb ctx.end_ first o
        (record_shape ctx.ibuf ctx.end_ first first_data ctx.ptr)) 0
      { (ctx.take 1 1).data_end (ctx.ibuf ctx.ptr) with
        rec_data_idx := ((ctx.take 1 1).data_end (ctx.ibuf ctx.ptr)).rec_data_idx + 1 } s' := by
  have hidx : decide ((ctx.take 1 1).rec_data_idx = 0) = first_data := hdata.symm
  have hptr : (ctx.take 1 1).ptr = ctx.ptr + 1 := rfl
  have hend : (ctx.take 1 1).end_ = ctx.end_ := rfl
  have hadv := data_end_advanced _ _ hfits
  have hnext := data_end_ptr (ctx.ibuf ctx.ptr) (ctx.take 1 1)
  rw [hidx, hptr, hend] at hfits
  rw [hidx, hptr] at hnext
  rw [shape_of_data first hint hfits, hfate]
  refine hadv.outcome _ htrace ⟨rfl, hnext, ?_, hdesc⟩
  rw [hadv.rec_data_idx_eq]
  rfl

/-- A data record, from the status byte on. -/
theorem decode_data_outcome (env : Env) (ctx : MsgContext) (s : RxState) {first first_data : Bool}
    {o : Outlook} (hint : ¬ ctx.ibuf ctx.ptr &&& PCAN_USB_STATUSLEN_INTERNAL ≠ 0)
    (hdata : first_data = decide (ctx.rec_data_idx = 0)) (hdesc : Describes first o s)
    {err : Int} {ctx' : MsgContext} {s' : RxState}
    (h : decode_data env (ctx.ibuf ctx.ptr) (ctx.take 1 1) s = (err, ctx', s')) :
    RecordOutcome env ctx s (record_fate env.has_skb ctx.end_ first o
        (record_shape ctx.ibuf ctx.end_ first first_data ctx.ptr))
      err { ctx' with rec_data_idx := ctx'.rec_data_idx + 1 } s' := by
  have hslot := chardev_msg_isSome hdesc
  have hfill := decode_data_fill_cases env (decode_data_sample s.fwd.char_dev)
    (ctx.ibuf ctx.ptr) (ctx.take 1 1) s
  -- take the result of the fill apart; the commit comes behind a successful one only
  unfold decode_data at h
  dsimp only at h
  generalize decode_data_fill env (decode_data_sample s.fwd.char_dev)
    (ctx.ibuf ctx.ptr) (ctx.take 1 1) s = filled at h hfill
  obtain ⟨result, ctx₁, s₁⟩ := filled
  dsimp only at h hfill
  have hup := hdesc.net_up_eq
  have hskbs := hdesc.skbs_eq
  cases hfill with
  | no_skb hrun halloc =>
    simp only [Prod.mk.injEq] at h
    obtain ⟨rfl, rfl, rfl⟩ := h
    have hno : env.has_skb s.skbs = false := Env.has_skb_of_none halloc
    have hfate := fate_of_not_taken env.has_skb ctx.end_ first first_data o hint
      (by rw [← hup, hrun, ← hskbs]; exact hno)
    refine (Advanced.refl _).outcome_stop _ hfate (quiet_trace rfl (Nat.le_succ _)) (by decide) ?_
    -- `-ENOMEM` needs an allocation to blame
    intro _ hall
    rw [hall] at hno
    cases hno
  | skb_short hrun frame halloc hshort ctx' hadv stores =>
    simp only [Prod.mk.injEq] at h
    obtain ⟨rfl, rfl, rfl⟩ := h
    have hfate := fate_of_data_short env.has_skb first o hint hdata hshort
    have htrace : (s.with_skb.log (List.replicate stores (Event.access s.skbs)
        ++ [Event.dev_kfree_skb s.skbs])).trace = s.trace ++ (Event.alloc_can_skb s.skbs
          :: (List.replicate stores (Event.access s.skbs) ++ [Event.dev_kfree_skb s.skbs])) := by
      rw [log_trace, RxState.with_skb, log_trace, List.append_assoc]
      rfl
    exact hadv.outcome_stop _ hfate ⟨_, htrace, .freed stores⟩ (by decide) (fun _ _ => rfl)
  | skb_fits hrun frame halloc hfits _ htrace hskbs₂ hrun₂ hstate₂ href₂ hdev₂ =>
    simp only [Prod.mk.injEq] at h
    obtain ⟨rfl, rfl, rfl⟩ := h
    have hyes : env.has_skb s.skbs = true := Env.has_skb_of_some halloc
    -- the fill may write the slot, but not the counters
    have hcnt : s₁.fwd.char_dev.open_count = s.fwd.char_dev.open_count
        ∧ s₁.fwd.char_dev.rx_unread_cnt = s.fwd.char_dev.rx_unread_cnt := by
      rw [hdev₂]
      cases (decode_data_sample s.fwd.char_dev).chardev_msg <;> exact ⟨rfl, rfl⟩
    refine outcome_of_data_fits (some .data) hint hdata hfits (fun next => ?_) ⟨_, htrace, ?_⟩ ?_
    · rw [record_fate, ← hup, if_pos hrun, ← hskbs, if_pos hyes]
    · dsimp only
      rw [hskbs₂]
      exact .data _ (data_frame_err_flag _ _) _ _ _
    · exact hdesc.after_data hrun₂ hcnt.1 hcnt.2 hstate₂ (by rw [href₂])
        (by rw [hskbs₂, hrun]; rfl)
  | refused hdown hnone err herr =>
    simp only [Prod.mk.injEq] at h
    obtain ⟨rfl, rfl, rfl⟩ := h
    have hfull : o.slot_free = false := by rw [← hslot, hnone]; rfl
    have hfate := fate_of_not_taken env.has_skb ctx.end_ first first_data o hint
      (by rw [← hup, hdown]; exact hfull)
    refine (Advanced.refl _).outcome_stop _ hfate (quiet_trace rfl le_rfl) herr ?_
    -- any error may come back here, but only with the network down
    intro hrun
    rw [hdown] at hrun
    cases hrun
  | slot_short hdown hsome hshort ctx' hadv msg =>
    simp only [Prod.mk.injEq] at h
    obtain ⟨rfl, rfl, rfl⟩ := h
    have hfate := fate_of_data_short env.has_skb first o hint hdata hshort
    exact hadv.outcome_stop _ hfate (quiet_trace rfl le_rfl) (by decide)
      (fun _ _ => rfl)
  | slot_fits hdown hsome hfits =>
    simp only [Prod.mk.injEq] at h
    obtain ⟨rfl, rfl, rfl⟩ := h
    have hfree : o.slot_free = true := by rw [← hslot, hsome]; rfl
    refine outcome_of_data_fits none hint hdata hfits (fun next => ?_) ⟨_, rfl, .in_place _⟩ ?_
    · rw [record_fate, ← hup, if_neg (by simp [hdown]), if_pos hfree]
    · exact hdesc.after_data rfl rfl rfl rfl rfl (by rw [hdown]; rfl)

/-- One round of the loop. -/
theorem decode_record_fate (env : Env) (ctx : MsgContext) (s : RxState) {first first_data : Bool}
    {o : Outlook} (hfirst : first = decide (ctx.rec_idx = 0))
    (hdata : first_data = decide (ctx.rec_data_idx = 0)) (hdesc : Describes first o s) :
    RecordOutcome env ctx s (record_fate env.has_skb ctx.end_ first o
        (record_shape ctx.ibuf ctx.end_ first first_data ctx.ptr))
      (decode_record env ctx s).1 (decode_record env ctx s).2.1 (decode_record env ctx s).2.2 := by
  unfold decode_record
  rw [show ctx.peek 0 = ctx.ibuf ctx.ptr from rfl]
  dsimp only
  by_cases hint : ctx.ibuf ctx.ptr &&& PCAN_USB_STATUSLEN_INTERNAL ≠ 0
  · rw [if_pos hint]
    exact (decode_status_and_error_cases env _ (ctx.take 1 1) s).outcome hint hfirst hdesc
  · rw [if_neg hint]
    exact decode_data_outcome env ctx s hint hdata hdesc rfl

end DualPcanUsb
