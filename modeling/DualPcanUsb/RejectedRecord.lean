/-
What a record that is rejected has done.

`decode_data` parses first and acts last, so a data record that fails leaves nothing that
anyone can see. A status record acts first: its body is compared with the end of the packet
behind the `switch`, when an error record has changed the state and reported it, and a
timestamp record has moved the time reference.
-/
import DualPcanUsb.RecordClock
import DualPcanUsb.PacketLoop
import DualPcanUsb.RxRing
import DualPcanUsb.TickCount

set_option autoImplicit false

namespace DualPcanUsb

open RingWindow TickCounter

/-! ## What can be seen -/

/-- What an event gives to the network stack. -/
def Event.given : Event → Option (RecordKind × CanFrame × Option ktime_t)
  | .netif_rx _ kind frame hwtstamp => some (kind, frame, hwtstamp)
  | _ => none

/-- The driver as its users see it: the unread messages, the frames given to the network
stack, the statistics, the error state and the time reference. -/
structure Observed where
  unread_msgs : List ChardevMsg
  given : List (RecordKind × CanFrame × Option ktime_t)
  stats : NetStats
  can_stats : CanStats
  can_state : CanState
  time_ref : TimeRef

def RxState.observed (s : RxState) : Observed where
  unread_msgs := s.fwd.char_dev.unread_msgs
  given := s.trace.filterMap Event.given
  stats := s.fwd.stats
  can_stats := s.fwd.can_stats
  can_state := s.fwd.can_state
  time_ref := s.fwd.time_ref

/-- Events that give nothing to the network stack cannot be seen. -/
theorem observed_log (s : RxState) {events : List Event} (h : events.filterMap Event.given = []) :
    (s.log events).observed = s.observed := by
  simp only [RxState.observed, log_trace, log_fwd, List.filterMap_append, h, List.append_nil]

/-- Nor can the slot that is written while its sample is good: it is not an unread one. -/
theorem observed_set_slot (s : RxState) {idx : Int} (msg : ChardevMsg)
    (hidx : (decode_data_sample s.fwd.char_dev).chardev_msg = some idx) :
    (s.set_slot idx msg).observed = s.observed := by
  have hwindow : (s.fwd.char_dev.set_slot idx msg).unread_msgs = s.fwd.char_dev.unread_msgs := by
    by_cases hbusy : (decode_data_sample s.fwd.char_dev).unread_count < 0
        ∨ (decode_data_sample s.fwd.char_dev).unread_count ≥ PCAN_CHRDEV_MAX_RX_BUF_COUNT
    · rw [RxSample.chardev_msg, if_pos hbusy] at hidx
      cases hidx
    rw [RxSample.chardev_msg, if_neg hbusy] at hidx
    obtain rfl := Option.some.inj hidx
    have hcount : s.fwd.char_dev.rx_unread_cnt.toNat < 8 := by
      unfold decode_data_sample ESHUTDOWN PCAN_CHRDEV_MAX_RX_BUF_COUNT at hbusy
      dsimp only at hbusy
      split at hbusy <;> omega
    unfold Chardev.unread_msgs
    change window (Function.update _ s.fwd.char_dev.rx_write_idx _) 8 _ _ = _
    by_cases hin : 0 ≤ s.fwd.char_dev.rx_write_idx ∧ s.fwd.char_dev.rx_write_idx < (8 : ℕ)
    · exact window_update _ hin.1 hin.2 hcount msg
    · exact window_update_of_out (by decide) (by omega) _ _ msg
  simp only [RxState.observed, RxState.set_slot, hwindow]

/-- A data record that fails has not been seen. -/
theorem decode_data_error_observed {env : Env} {status_len : u8} {ctx : MsgContext} {s : RxState}
    (herr : (decode_data env status_len ctx s).1 ≠ 0) :
    (decode_data env status_len ctx s).2.2.observed = s.observed := by
  have hfill := decode_data_fill_cases env (decode_data_sample s.fwd.char_dev) status_len ctx s
  unfold decode_data at herr ⊢
  dsimp only at herr ⊢
  generalize decode_data_fill env (decode_data_sample s.fwd.char_dev) status_len ctx s
    = filled at hfill herr ⊢
  obtain ⟨result, ctx', s'⟩ := filled
  dsimp only at hfill
  cases hfill with
  | no_skb => rfl
  | refused => rfl
  | skb_short hup frame halloc hshort ctx' hadv stores =>
    dsimp only
    rw [observed_log]
    · exact observed_log _ rfl
    · simp [Event.given]
  | slot_short hdown hslot hshort ctx' hadv msg =>
    exact observed_set_slot s msg hslot
  -- the record went through
  | skb_fits => exact absurd rfl herr
  | slot_fits => exact absurd rfl herr

/-! ## Timestamps that change nothing -/

/-- The time reference is at this tick already, and counts no ticks for it. -/
structure TimeRef.At (time_ref : TimeRef) (tick : u32) : Prop where
  ts_dev_2_eq : time_ref.ts_dev_2 = tick
  no_ticks : 0 < time_ref.tv_host → elapsed PCAN_USB_TS_USED_BITS tick time_ref.ts_dev_1 = 0

/-- A first timestamp finds everything as it would leave it. -/
structure TimeRef.SetAt (time_ref : TimeRef) (now : ktime_t) (tick : u32) : Prop where
  tv_host_eq : time_ref.tv_host = 0
  base_eq : time_ref.tv_host_0 = 0 → now = 0
  ts_dev_1_eq : time_ref.ts_dev_1 = tick
  ts_dev_2_eq : time_ref.ts_dev_2 = tick

theorem setWidth_64_eq_zero_iff (ticks : u32) : ticks.setWidth 64 = (0 : u64) ↔ ticks = 0 := by
  rw [← BitVec.toNat_inj, ← BitVec.toNat_inj, BitVec.toNat_setWidth_of_le (by decide)]
  rfl

/-- An update changes nothing exactly if the tick is the last one, and adds nothing. -/
theorem update_time_reference_eq_self_iff (tick : u32) (time_ref : TimeRef) :
    update_time_reference tick time_ref = time_ref ↔ time_ref.At tick := by
  constructor
  · intro h
    refine ⟨?_, fun hhost => ?_⟩
    · rw [← h, update_ts_dev_2]
    · have htotal := update_ts_total tick hhost
      rw [h, left_eq_add] at htotal
      exact (setWidth_64_eq_zero_iff _).mp htotal
  · rintro ⟨rfl, hticks⟩
    rw [update_time_reference_eq]
    by_cases hhost : 0 < time_ref.tv_host
    · rw [if_pos hhost, hticks hhost]
      simp
    · rw [if_neg hhost]

/-- With no host time yet, only a first base would be stored. -/
theorem set_host_time_eq_self {now : ktime_t} {time_ref : TimeRef} (hhost : time_ref.tv_host = 0)
    (hbase : time_ref.tv_host_0 = 0 → now = 0) : set_host_time now time_ref = time_ref := by
  unfold set_host_time
  by_cases h : time_ref.tv_host_0 = 0
  · rw [if_pos h, hbase h]
    obtain ⟨tv_host_0, tv_host, ts_dev_1, ts_dev_2, ts_total, tick_count⟩ := time_ref
    obtain rfl : tv_host_0 = 0 := h
    obtain rfl : tv_host = 0 := hhost
    rfl
  · rw [if_neg h, if_neg (not_not.mpr hhost)]

/-- Setting the reference changes nothing exactly where it was set so before. -/
theorem set_time_reference_eq_self_iff (now : ktime_t) (tick : u32) (time_ref : TimeRef) :
    set_time_reference now tick time_ref = time_ref ↔ time_ref.SetAt now tick := by
  constructor
  · intro h
    have hhost : time_ref.tv_host = 0 := by
      by_contra hhost
      by_cases hbase : time_ref.tv_host_0 = 0
      · -- the first call clears it
        have hcleared := set_tv_host now tick time_ref
        rw [h, set_host_time, if_pos hbase] at hcleared
        exact hhost hcleared
      · -- any later one counts a pass
        have hpass := set_tick_count now tick time_ref
        rw [h, set_host_time_tick_count, if_pos ⟨hbase, hhost⟩] at hpass
        simp at hpass
    have hdev_2 := set_ts_dev_2 now tick time_ref
    rw [h] at hdev_2
    refine ⟨hhost, fun hbase => ?_, ?_, hdev_2⟩
    · have hset := set_tv_host_0 now tick time_ref
      rw [h, set_host_time, if_pos hbase, hbase] at hset
      exact hset.symm
    · have hdev_1 := congrArg TimeRef.ts_dev_1 h
      rw [set_time_reference, update_time_reference_eq] at hdev_1
      dsimp only at hdev_1
      rw [← hdev_1, set_host_ts_dev_2, hdev_2]
  · rintro ⟨hhost, hbase, hdev_1, hdev_2⟩
    have hsame : ({ time_ref with ts_dev_1 := time_ref.ts_dev_2 } : TimeRef) = time_ref :=
      congrArg (fun ts_dev_1 => ({ time_ref with ts_dev_1 := ts_dev_1 } : TimeRef))
        (hdev_2.trans hdev_1.symm)
    rw [set_time_reference, set_host_time_eq_self hhost hbase]
    rw [hsame, update_time_reference_eq_self_iff]
    exact ⟨hdev_2, fun hpos => absurd hhost hpos.ne'⟩

/-! ## What a status record does before its body is checked -/

section

variable (env : Env) (ibuf : ℕ → u8) (size : ℕ) (first : Bool) (s : RxState)

/-- The error state changes, or a frame reports it. -/
def error_acts (number : u8) : Prop :=
  match error_verdict s.fwd.netif_running s.fwd.time_ref.tick_count s.fwd.can_state number with
  | .ignore => False
  | .back_to_active => s.fwd.can_state ≠ .ERROR_ACTIVE
  | .new_state _ => env.has_skb s.skbs = true

/-- The time reference moves. -/
def tick_acts (tick : u32) : Prop :=
  if first then ¬ s.fwd.time_ref.SetAt (env.ktime_get s.clocks) tick
  else ¬ s.fwd.time_ref.At tick

/-- The `switch` over a status record with this head, and its body here, does something. -/
def status_acts (functionality number : u8) (body : ℕ) : Prop :=
  functionality = PCAN_USB_REC_ERROR ∧ error_acts env s number
    ∨ functionality = PCAN_USB_REC_TS ∧ body + 2 ≤ size
      ∧ tick_acts env first s (body_tick ibuf body)

/-- A status record that does something, and whose body runs past the end of the packet. -/
def Shape.ActsCutOff : Shape → Prop
  | .status functionality number body len =>
    size < body + len ∧ status_acts env ibuf size first s functionality number body
  | _ => False

variable {env ibuf size first s}

/-- An error record acts by its number. -/
theorem status_acts_error {number : u8} {body : ℕ} :
    status_acts env ibuf size first s PCAN_USB_REC_ERROR number body ↔ error_acts env s number := by
  have hne : PCAN_USB_REC_ERROR ≠ PCAN_USB_REC_TS := by decide
  simp [status_acts, hne]

/-- A timestamp acts by its tick, if it lies in the packet. -/
theorem status_acts_ts {number : u8} {body : ℕ} :
    status_acts env ibuf size first s PCAN_USB_REC_TS number body
      ↔ body + 2 ≤ size ∧ tick_acts env first s (body_tick ibuf body) := by
  have hne : PCAN_USB_REC_TS ≠ PCAN_USB_REC_ERROR := by decide
  simp [status_acts, hne]

end

/-- A report gives one frame to the network stack. -/
theorem error_events_given (skb : ℕ) (new_state : CanState) (status_len : u8) (ts16 : u16)
    (frame : CanFrame) (now : ktime_t) :
    ((error_events skb new_state status_len ts16 frame now).filterMap Event.given).length = 1 := by
  unfold error_events
  split <;> split <;> rfl

/-- A state that differs in the time reference at most. -/
theorem observed_with_time_ref (s : RxState) (time_ref : TimeRef) (clocks : ℕ) :
    ({ s with clocks := clocks, fwd := { s.fwd with time_ref := time_ref } } : RxState).observed
        = s.observed
      ↔ time_ref = s.fwd.time_ref := by
  constructor
  · exact congrArg Observed.time_ref
  · rintro rfl
    rfl

/-- A state behind a report: one frame more is seen. -/
theorem observed_ne_of_posted {s s' : RxState} {skb : ℕ} {new_state : CanState} {status_len : u8}
    {ts16 : u16} {frame : CanFrame} {now : ktime_t}
    (htrace : s'.trace = s.trace ++ ([.alloc_can_skb s.skbs]
      ++ error_events skb new_state status_len ts16 frame now)) : s'.observed ≠ s.observed := by
  intro hsame
  have hgiven := congrArg (fun o => o.given.length) hsame
  dsimp only [RxState.observed] at hgiven
  rw [htrace, List.filterMap_append, List.filterMap_append, List.length_append,
    List.length_append, error_events_given] at hgiven
  omega

/-- What the `switch` did is seen exactly if it does something. -/
theorem StatusEffect.observed_iff {env : Env} {functionality number status_len : u8}
    {ctx ctx' : MsgContext} {s s' : RxState} {err : Int}
    (h : StatusEffect env functionality number status_len ctx s err ctx' s') :
    s'.observed = s.observed
      ↔ ¬ status_acts env ctx.ibuf ctx.end_ (decide (ctx.rec_idx = 0)) s functionality number
        ctx.ptr := by
  cases h with
  | skipped herr hts => simp [status_acts, herr, hts]
  | settled herr verdict hverdict hquiet =>
    rw [herr, status_acts_error, error_acts, hverdict]
    cases verdict with
    | ignore => simp [ErrorSwitch.state_after]
    | back_to_active =>
      rw [not_not]
      constructor
      · intro hsame
        exact (congrArg Observed.can_state hsame).symm
      · intro hactive
        simp [ErrorSwitch.state_after, RxState.observed, hactive]
    | new_state new_state => exact absurd rfl (hquiet new_state)
  | no_skb herr new_state hverdict halloc =>
    rw [herr, status_acts_error, error_acts, hverdict]
    simp [Env.has_skb, halloc, RxState.observed]
  | posted herr new_state hverdict frame halloc s' htrace =>
    rw [herr, status_acts_error, error_acts, hverdict]
    have hskb : env.has_skb s.skbs = true := Env.has_skb_of_some halloc
    exact iff_of_false (observed_ne_of_posted htrace) (not_not.mpr hskb)
  | ts_short hts hshort =>
    rw [hts, status_acts_ts]
    exact iff_of_true rfl fun hacts => by omega
  | ts_later hts hfits hidx =>
    have hlater : decide (ctx.rec_idx = 0) = false := decide_eq_false hidx
    rw [hts, status_acts_ts, hlater]
    refine (observed_with_time_ref s _ s.clocks).trans ?_
    rw [update_time_reference_eq_self_iff]
    simp only [tick_acts, hfits, true_and, Bool.false_eq_true, if_false, not_not]
    rfl
  | ts_first hts hfits hidx clocks =>
    have hfirst : decide (ctx.rec_idx = 0) = true := decide_eq_true hidx
    rw [hts, status_acts_ts, hfirst]
    refine (observed_with_time_ref s _ clocks).trans ?_
    rw [set_time_reference_eq_self_iff]
    simp only [tick_acts, hfits, true_and, if_true, not_not]
    rfl

/-- A status record that fails in its switch has done nothing that can be seen. -/
theorem StatusEffect.observed_of_err {env : Env} {functionality number status_len : u8}
    {ctx ctx' : MsgContext} {s s' : RxState} {err : Int}
    (h : StatusEffect env functionality number status_len ctx s err ctx' s') (herr : err ≠ 0) :
    s'.observed = s.observed := by
  cases h with
  | no_skb => rfl
  | ts_short => rfl
  | _ => exact absurd rfl herr

/-! ## One record -/

/-- The shape of the record at the cursor. -/
def MsgContext.shape (ctx : MsgContext) : Shape :=
  record_shape ctx.ibuf ctx.end_ (ctx.rec_idx = 0) (ctx.rec_data_idx = 0) ctx.ptr

/-- The record at the cursor does something, and its body runs past the end. -/
def MsgContext.ActsCutOff (env : Env) (s : RxState) (ctx : MsgContext) : Prop :=
  ctx.shape.ActsCutOff env ctx.ibuf ctx.end_ (ctx.rec_idx = 0) s

/-- A record that is no whole status record does not act when cut off. -/
theorem shape_not_status {ibuf : ℕ → u8} {size p : ℕ} {first : Bool} (first_data : Bool)
    (h : ¬ (ibuf p &&& PCAN_USB_STATUSLEN_INTERNAL ≠ 0
      ∧ p + 1 + status_head_len (ibuf p) first ≤ size)) (env : Env) (s : RxState) :
    ¬ (record_shape ibuf size first first_data p).ActsCutOff env ibuf size first s := by
  unfold record_shape
  by_cases hp : size ≤ p
  · rw [if_pos hp]
    exact id
  rw [if_neg hp]
  by_cases hint : ibuf p &&& PCAN_USB_STATUSLEN_INTERNAL ≠ 0
  · rw [if_pos hint, if_neg fun hhead => h ⟨hint, hhead⟩]
    exact id
  · rw [if_neg hint]
    split <;> exact id

/-- A status record that is rejected has been seen exactly if it did something, and it was
its body that did not fit. -/
theorem rejected_status_iff {env : Env} {ctx : MsgContext} {s : RxState}
    (hint : ctx.ibuf ctx.ptr &&& PCAN_USB_STATUSLEN_INTERNAL ≠ 0) {err : Int} {ctx' : MsgContext}
    {s' : RxState} (h : StatusRecord env (ctx.ibuf ctx.ptr) (ctx.take 1 1) s err ctx' s')
    (herr : err ≠ 0) :
    s'.observed = s.observed ↔ ¬ ctx.ActsCutOff env s := by
  unfold MsgContext.ActsCutOff MsgContext.shape
  by_cases hshort : ctx.end_
      < ctx.ptr + 1 + status_head_len (ctx.ibuf ctx.ptr) (ctx.rec_idx = 0)
  · have hquiet := @shape_not_status ctx.ibuf ctx.end_ ctx.ptr (ctx.rec_idx = 0)
      (ctx.rec_data_idx = 0) (fun hhead => absurd hshort (not_lt.mpr hhead.2)) env s
    cases h with
    | head_short => exact iff_of_true rfl hquiet
    | stopped hhead | body_short hhead | fits hhead => exact absurd hshort (Nat.not_lt.mpr hhead)
  rw [shape_of_status _ hint (not_lt.mp hshort)]
  have hbody := status_body_advanced (ctx.ibuf ctx.ptr) (ctx.take 1 1)
    (show (ctx.take 1 1).ptr + _ ≤ _ from not_lt.mp hshort)
  -- what the effect is said of is the packet at the body
  have heffect_iff : ∀ {err : Int} {ctx' : MsgContext} {s' : RxState},
      StatusEffect env ((ctx.take 1 1).peek 0) ((ctx.take 1 1).peek 1) (ctx.ibuf ctx.ptr)
        ((ctx.take 1 1).status_body (ctx.ibuf ctx.ptr)) s err ctx' s' → _ :=
    fun heffect => heffect.observed_iff
  rw [hbody.ibuf_eq, hbody.end_eq, hbody.rec_idx_eq, status_body_ptr] at heffect_iff
  cases h with
  | head_short hshort' => exact absurd hshort' hshort
  | fits => exact absurd rfl herr
  | stopped hhead err herr' ctx' s' heffect =>
    have hsame := heffect.observed_of_err herr
    have hquiet := (heffect_iff heffect).mp hsame
    exact iff_of_true hsame fun hacts => hquiet hacts.2
  | body_short hhead ctx' s' heffect hshort' =>
    obtain ⟨hadv, hptr⟩ := heffect.advanced
    rw [hptr, hadv.end_eq, hbody.end_eq, status_body_ptr] at hshort'
    rw [heffect_iff heffect]
    apply not_congr
    constructor
    · exact fun hacts => ⟨hshort', hacts⟩
    · exact fun hacts => hacts.2

/-- For one record rejected: nothing is seen of it exactly if it is not one of those that act
first. -/
theorem rejected_record_iff {env : Env} {ctx : MsgContext} {s : RxState}
    (herr : (decode_record env ctx s).1 ≠ 0) :
    (decode_record env ctx s).2.2.observed = s.observed ↔ ¬ ctx.ActsCutOff env s := by
  by_cases hint : ctx.ibuf ctx.ptr &&& PCAN_USB_STATUSLEN_INTERNAL ≠ 0
  · rw [decode_record_of_status hint] at herr ⊢
    exact rejected_status_iff hint (decode_status_and_error_cases ..) herr
  · have hquiet := @shape_not_status ctx.ibuf ctx.end_ ctx.ptr (ctx.rec_idx = 0)
      (ctx.rec_data_idx = 0) (fun hstatus => hint hstatus.1) env s
    unfold decode_record at herr ⊢
    rw [show ctx.peek 0 = ctx.ibuf ctx.ptr from rfl] at herr ⊢
    dsimp only at herr ⊢
    rw [if_neg hint] at herr ⊢
    exact iff_of_true (decode_data_error_observed herr) hquiet

/-! ## The loop -/

/-- The loop in two parts. -/
theorem decode_records_add (env : Env) (m n : ℕ) (err : Int) (ctx : MsgContext) (s : RxState) :
    decode_records env (m + n) err ctx s
      = decode_records env n (decode_records env m err ctx s).1
          (decode_records env m err ctx s).2.1 (decode_records env m err ctx s).2.2 := by
  induction m generalizing err ctx s with
  | zero => rw [Nat.zero_add]; rfl
  | succ m ih =>
    rw [Nat.succ_add, decode_records, decode_records]
    by_cases hgo : ctx.rec_idx < ctx.rec_cnt ∧ err = 0
    · rw [if_pos hgo, if_pos hgo]
      exact ih ..
    · rw [if_neg hgo, if_neg hgo]
      cases n with
      | zero => rfl
      | succ n => rw [decode_records, if_neg hgo]

/-- The packet after its first `k` records. -/
def after_records (env : Env) (ibuf : ℕ → u8) (size : ℕ) (s : RxState) (k : ℕ) :
    Int × MsgContext × RxState :=
  decode_records env k 0 (MsgContext.start ibuf size) s

/-- Decoding record `k` makes the packet fail. -/
structure FailsAt (env : Env) (ibuf : ℕ → u8) (size : ℕ) (s : RxState) (k : ℕ) : Prop where
  before : (after_records env ibuf size s k).1 = 0
  error : (after_records env ibuf size s (k + 1)).1 ≠ 0

section

variable {env : Env} {ibuf : ℕ → u8} {size : ℕ} {s : RxState} {k : ℕ}

/-- The record that ends the loop is the one behind those that went well. -/
theorem after_records_succ (hbefore : (after_records env ibuf size s k).1 = 0)
    (herror : (after_records env ibuf size s (k + 1)).1 ≠ 0) :
    (after_records env ibuf size s (k + 1)).1
        = (decode_record env (after_records env ibuf size s k).2.1
            (after_records env ibuf size s k).2.2).1
      ∧ (after_records env ibuf size s (k + 1)).2.2
        = (decode_record env (after_records env ibuf size s k).2.1
            (after_records env ibuf size s k).2.2).2.2 := by
  have hsplit : after_records env ibuf size s (k + 1)
      = decode_records env 1 (after_records env ibuf size s k).1
          (after_records env ibuf size s k).2.1 (after_records env ibuf size s k).2.2 :=
    decode_records_add env k 1 0 (MsgContext.start ibuf size) s
  rw [hbefore] at hsplit
  by_cases hmore : (after_records env ibuf size s k).2.1.rec_idx
      < (after_records env ibuf size s k).2.1.rec_cnt
  · rw [decode_records_succ env 0 _ _ hmore] at hsplit
    have herr := congrArg Prod.fst hsplit
    have hstate := congrArg (fun r => r.2.2) hsplit
    exact ⟨herr, hstate⟩
  · -- with no record left nothing fails any more
    rw [decode_records_of_done env 1 0 _ _ hmore] at hsplit
    rw [hsplit] at herror
    exact absurd rfl herror

/-- However many rounds more, the packet is done. -/
theorem after_all_records (env : Env) (ibuf : ℕ → u8) (size : ℕ) (s : RxState) (n : ℕ) :
    after_records env ibuf size s (256 + n) = decode_incoming_buf env ibuf size s := by
  have hdone := (decode_incoming_buf_fates env ibuf size s).done
  rw [after_records, decode_records_add]
  change decode_records env n (decode_incoming_buf env ibuf size s).1 _ _ = _
  by_cases herr : (decode_incoming_buf env ibuf size s).1 = 0
  · exact decode_records_of_done env n _ _ _ fun hmore => hdone ⟨hmore, herr⟩
  · exact decode_records_of_err env n herr _ _

/-- The record that fails is the last one. -/
theorem FailsAt.result (h : FailsAt env ibuf size s k) :
    after_records env ibuf size s (k + 1) = decode_incoming_buf env ibuf size s := by
  by_cases hk : k < 256
  · rw [← after_all_records env ibuf size s 0, Nat.add_zero,
      show 256 = k + 1 + (255 - k) by omega]
    exact ((decode_records_add ..).trans (decode_records_of_err env _ h.error _ _)).symm
  · -- every record was decoded before
    obtain ⟨n, rfl⟩ : ∃ n, k = 256 + n := ⟨k - 256, by omega⟩
    have hbefore := h.before
    have herror := h.error
    rw [Nat.add_assoc, after_all_records] at herror
    rw [after_all_records] at hbefore
    exact absurd hbefore herror

/-- A packet that fails does so at one of its records. -/
theorem exists_failsAt (herr : (decode_incoming_buf env ibuf size s).1 ≠ 0) :
    ∃ k, FailsAt env ibuf size s k := by
  by_contra hnone
  have hall : ∀ k, (after_records env ibuf size s k).1 = 0 := by
    intro k
    induction k with
    | zero => rfl
    | succ k ih =>
      by_contra herror
      exact hnone ⟨k, ih, herror⟩
  exact herr (by rw [← after_all_records env ibuf size s 0]; exact hall _)

/-- For every packet and every state of the driver: where decoding a record makes the packet
fail, what can be seen afterwards is what could be seen before that record, unless it is a
status record that changes something and whose body is cut off. -/
theorem rejected_record_unseen_iff (h : FailsAt env ibuf size s k) :
    (decode_incoming_buf env ibuf size s).2.2.observed
        = (after_records env ibuf size s k).2.2.observed
      ↔ ¬ (after_records env ibuf size s k).2.1.ActsCutOff env
          (after_records env ibuf size s k).2.2 := by
  obtain ⟨herr, hstate⟩ := after_records_succ h.before h.error
  have herror := h.error
  rw [herr] at herror
  rw [← h.result, hstate]
  exact rejected_record_iff herror

end

/-- A timestamp record, and a data record that announces eight bytes and has two. -/
def short_data_packet : ℕ → u8 := buffer [2, 2, 0x42, 4, 0, 0x10, 0x27, 8, 0x60, 0x24, 0x11, 1, 2]

theorem rejected_record_unseen_iff_short_data :
    (decode_incoming_buf Env.plenty short_data_packet 13 (RxState.idle true)).2.2.observed
        = (after_records Env.plenty short_data_packet 13 (RxState.idle true) 1).2.2.observed
      ↔ ¬ (after_records Env.plenty short_data_packet 13 (RxState.idle true) 1).2.1.ActsCutOff
          Env.plenty (after_records Env.plenty short_data_packet 13 (RxState.idle true) 1).2.2 :=
  rejected_record_unseen_iff ⟨by decide, by decide⟩

/-- An error record that announces a byte of body and has none. -/
def cut_error_packet : ℕ → u8 := buffer [2, 1, 0x41, 1, 4]

/-- A timestamp record that announces four bytes of body and has its tick. -/
def cut_tick_packet : ℕ → u8 := buffer [2, 1, 0x44, 4, 0, 0x10, 0x27]

/-- Either packet is rejected at its only record: the first has put the device into the
warning state and reported it, the second has started the time base. -/
theorem cut_off_records_seen :
    FailsAt Env.plenty cut_error_packet 5 (RxState.idle true) 0
      ∧ (decode_incoming_buf Env.plenty cut_error_packet 5 (RxState.idle true)).2.2.observed
        ≠ (after_records Env.plenty cut_error_packet 5 (RxState.idle true) 0).2.2.observed
      ∧ FailsAt Env.plenty cut_tick_packet 7 (RxState.idle true) 0
      ∧ (decode_incoming_buf Env.plenty cut_tick_packet 7 (RxState.idle true)).2.2.observed
        ≠ (after_records Env.plenty cut_tick_packet 7 (RxState.idle true) 0).2.2.observed := by
  refine ⟨⟨by decide, by decide⟩, ?_, ⟨by decide, by decide⟩, ?_⟩
  · intro hsame
    exact absurd (congrArg Observed.can_state hsame) (by decide)
  · intro hsame
    exact absurd (congrArg Observed.time_ref hsame) (by decide)

end DualPcanUsb
