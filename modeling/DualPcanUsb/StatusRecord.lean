/-
What a status record can do: `decode_error`, `update_timestamp_in_context` and
`decode_status_and_error`.

An error record is judged first (`error_verdict`): ignored, a return to the
active state, or a new state to report. Only a report needs a socket buffer. A
timestamp record moves the time reference. Every other record is just skipped.
The body is checked last, so a truncated record may already have had its effect.
-/
import DualPcanUsb.DataRecord

set_option autoImplicit false

namespace DualPcanUsb

open LittleEndian

/-! ## Error records -/

/-- What an error record leads to, from what the decoder looks at: `new_state`
only where it differs from the current state, and nothing at all while the
network is down or the clock has not started. -/
def error_verdict (net_up : Bool) (tick_count : u32) (state : CanState) (number : u8) :
    ErrorSwitch :=
  if net_up = false ∨ (number = PCAN_USB_ERROR_QOVR ∧ tick_count = 0) then .ignore
  else
    match error_switch state number with
    | .new_state new_state => if state = new_state then .ignore else .new_state new_state
    | verdict => verdict

/-- The error state after a verdict was carried out. -/
def ErrorSwitch.state_after (state : CanState) : ErrorSwitch → CanState
  | .ignore => state
  | .back_to_active => .ERROR_ACTIVE
  | .new_state .BUS_OFF => .BUS_OFF
  | .new_state .ERROR_PASSIVE => .ERROR_PASSIVE
  | .new_state .ERROR_WARNING => .ERROR_WARNING
  | .new_state _ => state

/-- The state is the new one, or stays where the switch leaves it. -/
theorem error_account_can_state (new_state : CanState) (fwd : Forwarder) :
    (error_account new_state fwd).can_state
      = (ErrorSwitch.new_state new_state).state_after fwd.can_state := by
  cases new_state <;> rfl

/-- The accounts leave the interface, the ring and the clock alone. -/
theorem error_account_rest (new_state : CanState) (fwd : Forwarder) :
    (error_account new_state fwd).netif_running = fwd.netif_running
      ∧ (error_account new_state fwd).char_dev = fwd.char_dev
      ∧ (error_account new_state fwd).time_ref = fwd.time_ref := by
  cases new_state <;> exact ⟨rfl, rfl, rfl⟩

/-- The events of a report, once its buffer is allocated. -/
def error_events (skb : ℕ) (new_state : CanState) (status_len : u8) (ts16 : u16)
    (frame : CanFrame) (now : ktime_t) : List Event :=
  [.access skb] ++ (if new_state = .BUS_OFF then [.can_bus_off] else [])
    ++ (if status_len &&& PCAN_USB_STATUSLEN_TIMESTAMP ≠ 0 then
        [.compute_kernel_time ts16, .access skb,
          .netif_rx skb .status (error_frame new_state frame) (some now)]
      else [.netif_rx skb .status (error_frame new_state frame) none])
    ++ [.access skb]

/-- What posting a report logs, counts and changes, and what it leaves. -/
theorem post_error_spec (env : Env) (ctx : MsgContext) (status_len : u8) (new_state : CanState)
    (skb : ℕ) (frame : CanFrame) (s : RxState) :
    ∃ s', post_error env ctx status_len new_state skb frame s = s'
      ∧ s'.trace = s.trace ++ error_events skb new_state status_len ctx.ts16 frame
          (kernel_time env ctx.ts16 s).1
      ∧ s'.skbs = s.skbs
      ∧ s'.fwd.netif_running = s.fwd.netif_running
      ∧ s'.fwd.char_dev = s.fwd.char_dev
      ∧ s'.fwd.time_ref = s.fwd.time_ref
      ∧ s'.fwd.can_state = (ErrorSwitch.new_state new_state).state_after s.fwd.can_state := by
  obtain ⟨hrun, hdev, href⟩ := error_account_rest new_state s.fwd
  have hstate := error_account_can_state new_state s.fwd
  refine ⟨_, rfl, ?_⟩
  unfold post_error error_events
  by_cases hts : status_len &&& PCAN_USB_STATUSLEN_TIMESTAMP ≠ 0
  -- with and without the timestamp, and with and without `can_bus_off`
  · by_cases hoff : new_state = .BUS_OFF <;>
      simp [hoff, kernel_time, deliver, hrun, hdev, href, hstate] <;> simp_all
  · by_cases hoff : new_state = .BUS_OFF <;>
      simp [hoff, deliver, hrun, hdev, href, hstate] <;> simp_all

/-- What `decode_functionality` does, branch by branch. -/
inductive StatusEffect (env : Env) (functionality number status_len : u8) (ctx : MsgContext)
    (s : RxState) : Int → MsgContext → RxState → Prop
  | skipped (herr : functionality ≠ PCAN_USB_REC_ERROR) (hts : functionality ≠ PCAN_USB_REC_TS) :
    StatusEffect env functionality number status_len ctx s 0 ctx s
  | settled (herr : functionality = PCAN_USB_REC_ERROR) (verdict : ErrorSwitch)
      (hverdict : error_verdict s.fwd.netif_running s.fwd.time_ref.tick_count s.fwd.can_state
        number = verdict)
      (hquiet : ∀ new_state, verdict ≠ .new_state new_state) :
    StatusEffect env functionality number status_len ctx s 0 ctx
      { s with fwd := { s.fwd with can_state := verdict.state_after s.fwd.can_state } }
  | no_skb (herr : functionality = PCAN_USB_REC_ERROR) (new_state : CanState)
      (hverdict : error_verdict s.fwd.netif_running s.fwd.time_ref.tick_count s.fwd.can_state
        number = .new_state new_state)
      (halloc : env.alloc_can_skb s.skbs = none) :
    StatusEffect env functionality number status_len ctx s (-ENOMEM) ctx
      { s with skbs := s.skbs + 1 }
  | posted (herr : functionality = PCAN_USB_REC_ERROR) (new_state : CanState)
      (hverdict : error_verdict s.fwd.netif_running s.fwd.time_ref.tick_count s.fwd.can_state
        number = .new_state new_state)
      (frame : CanFrame) (halloc : env.alloc_can_skb s.skbs = some frame) (s' : RxState)
      (htrace : s'.trace = s.trace ++ ([.alloc_can_skb s.skbs]
        ++ error_events s.skbs new_state status_len ctx.ts16 frame (kernel_time env ctx.ts16 s).1))
      (hskbs : s'.skbs = s.skbs + 1)
      (hrunning : s'.fwd.netif_running = s.fwd.netif_running)
      (hdev : s'.fwd.char_dev = s.fwd.char_dev)
      (href : s'.fwd.time_ref = s.fwd.time_ref)
      (hstate : s'.fwd.can_state
        = (ErrorSwitch.new_state new_state).state_after s.fwd.can_state) :
    StatusEffect env functionality number status_len ctx s 0 ctx s'
  | ts_short (hts : functionality = PCAN_USB_REC_TS) (hshort : ctx.end_ < ctx.ptr + 2) :
    StatusEffect env functionality number status_len ctx s (-EINVAL) ctx s
  | ts_later (hts : functionality = PCAN_USB_REC_TS) (hfits : ctx.ptr + 2 ≤ ctx.end_)
      (hidx : ctx.rec_idx ≠ 0) :
    StatusEffect env functionality number status_len ctx s 0
      { ctx.take 2 0 with ts16 := le16 (ctx.peek 0) (ctx.peek 1) }
      { s with fwd := { s.fwd with
        time_ref := update_time_reference ((le16 (ctx.peek 0) (ctx.peek 1)).setWidth 32)
          s.fwd.time_ref } }
  | ts_first (hts : functionality = PCAN_USB_REC_TS) (hfits : ctx.ptr + 2 ≤ ctx.end_)
      (hidx : ctx.rec_idx = 0) (clocks : ℕ) :
    StatusEffect env functionality number status_len ctx s 0
      { ctx.take 2 0 with ts16 := le16 (ctx.peek 0) (ctx.peek 1) }
      { s with
        clocks := clocks
        fwd := { s.fwd with
          time_ref := set_time_reference (env.ktime_get s.clocks)
            ((le16 (ctx.peek 0) (ctx.peek 1)).setWidth 32) s.fwd.time_ref } }

/-- An error record, by what the switch decides. -/
theorem decode_error_cases (env : Env) (number status_len : u8) (ctx : MsgContext) (s : RxState) :
    StatusEffect env PCAN_USB_REC_ERROR number status_len ctx s
      (decode_error env ctx number status_len s).1 ctx
      (decode_error env ctx number status_len s).2 := by
  have hsettled := @StatusEffect.settled env PCAN_USB_REC_ERROR number status_len ctx s rfl
  unfold decode_error
  by_cases hdown : s.fwd.netif_running = false
  · rw [if_pos (by simp [hdown])]
    exact hsettled .ignore (by rw [error_verdict, if_pos (.inl hdown)]) (by simp)
  rw [if_neg (by simpa using hdown)]
  by_cases hearly : number = PCAN_USB_ERROR_QOVR ∧ s.fwd.time_ref.tick_count = 0
  · rw [if_pos hearly]
    exact hsettled .ignore (by rw [error_verdict, if_pos (.inr hearly)]) (by simp)
  rw [if_neg hearly]
  -- past both early returns, the verdict is the switch's
  have hawake : ¬ (s.fwd.netif_running = false ∨
      (number = PCAN_USB_ERROR_QOVR ∧ s.fwd.time_ref.tick_count = 0)) := by tauto
  cases hswitch : error_switch s.fwd.can_state number with
  | ignore => exact hsettled .ignore (by rw [error_verdict, if_neg hawake, hswitch]) (by simp)
  | back_to_active =>
    exact hsettled .back_to_active (by rw [error_verdict, if_neg hawake, hswitch]) (by simp)
  | new_state new_state =>
    dsimp only
    by_cases hsame : s.fwd.can_state = new_state
    · rw [if_pos hsame]
      exact hsettled .ignore
        (by rw [error_verdict, if_neg hawake, hswitch]; exact if_pos hsame) (by simp)
    rw [if_neg hsame]
    have hnew : error_verdict s.fwd.netif_running s.fwd.time_ref.tick_count s.fwd.can_state number
        = .new_state new_state := by
      rw [error_verdict, if_neg hawake, hswitch]; exact if_neg hsame
    rw [alloc_can_skb]
    cases halloc : env.alloc_can_skb s.skbs with
    | none => exact .no_skb rfl new_state hnew halloc
    | some frame =>
      obtain ⟨s', heq, htrace, hskbs, hrunning, hdev, href, hstate⟩ :=
        post_error_spec env ctx status_len new_state s.skbs frame s.with_skb
      refine .posted rfl new_state hnew frame halloc _ ?_ ?_ ?_ ?_ ?_ ?_
      all_goals dsimp only
      all_goals
        rw [show ({ s with skbs := s.skbs + 1 } : RxState).log [.alloc_can_skb s.skbs]
          = s.with_skb from rfl, heq]
      -- the allocation is the first event of the report
      · rw [htrace, RxState.with_skb, log_trace, List.append_assoc]; rfl
      · exact hskbs
      · exact hrunning
      · exact hdev
      · exact href
      · exact hstate

/-- A timestamp record, by whether it fits. -/
theorem update_timestamp_cases (env : Env) (number status_len : u8) (ctx : MsgContext)
    (s : RxState) :
    StatusEffect env PCAN_USB_REC_TS number status_len ctx s
      (update_timestamp_in_context env ctx s).1 (update_timestamp_in_context env ctx s).2.1
      (update_timestamp_in_context env ctx s).2.2 := by
  unfold update_timestamp_in_context
  rcases Nat.lt_or_ge ctx.end_ (ctx.ptr + 2) with hshort | hfits
  · rw [if_pos hshort]
    exact .ts_short rfl hshort
  rw [if_neg (by omega)]
  dsimp only
  by_cases hidx : ctx.rec_idx = 0
  -- only the first record of a packet counts a pass
  · rw [if_neg (by change ¬ ctx.rec_idx > 0; rw [hidx]; decide)]
    exact .ts_first rfl hfits hidx _
  · rw [if_pos (by change 0 < ctx.rec_idx; bv_omega)]
    exact .ts_later rfl hfits hidx

/-- Every kind of status record. -/
theorem decode_functionality_cases (env : Env) (functionality number status_len : u8)
    (ctx : MsgContext) (s : RxState) :
    StatusEffect env functionality number status_len ctx s
      (decode_functionality env functionality number status_len ctx s).1
      (decode_functionality env functionality number status_len ctx s).2.1
      (decode_functionality env functionality number status_len ctx s).2.2 := by
  unfold decode_functionality
  by_cases herr : functionality = PCAN_USB_REC_ERROR
  · rw [if_pos herr, herr]
    exact decode_error_cases env number status_len ctx s
  rw [if_neg herr]
  by_cases hts : functionality = PCAN_USB_REC_TS
  · rw [if_pos hts, hts]
    exact update_timestamp_cases env number status_len ctx s
  rw [if_neg hts]
  exact .skipped herr hts

/-! ## The whole record -/

/-- The cursor at the body of a status record. -/
def MsgContext.status_body (status_len : u8) (ctx : MsgContext) : MsgContext :=
  if status_len &&& PCAN_USB_STATUSLEN_TIMESTAMP ≠ 0 then
    (ctx.take 2 2).stamp (ctx.rec_idx = 0)
  else ctx.take 2 2

/-- Bytes between the status byte and the body. -/
def status_head_len (status_len : u8) (is_first : Bool) : ℕ :=
  2 + status_ts_width status_len is_first

/-- The body is behind the head. -/
@[simp] theorem status_body_ptr (status_len : u8) (ctx : MsgContext) :
    (ctx.status_body status_len).ptr
      = ctx.ptr + status_head_len status_len (ctx.rec_idx = 0) := by
  unfold MsgContext.status_body status_head_len status_ts_width
  split
  · rw [stamp_ptr, ← Nat.add_assoc]; rfl
  · rfl

/-- The body of a status record is in the same buffer. -/
@[simp] theorem status_body_ibuf (status_len : u8) (ctx : MsgContext) :
    (ctx.status_body status_len).ibuf = ctx.ibuf := by
  unfold MsgContext.status_body
  split
  · exact stamp_ibuf _ _
  · rfl

/-- Passing the head moves forward inside the packet. -/
theorem status_body_advanced (status_len : u8) (ctx : MsgContext)
    (h : ctx.ptr + status_head_len status_len (ctx.rec_idx = 0) ≤ ctx.end_) :
    Advanced ctx (ctx.status_body status_len) := by
  unfold status_head_len status_ts_width at h
  have htake := take_advanced ctx 2 (show ctx.ptr + 2 ≤ ctx.end_ by omega)
  unfold MsgContext.status_body
  split
  · rename_i hts
    rw [if_pos hts] at h
    refine htake.trans (stamp_advanced _ _ ?_)
    change ctx.ptr + 2 + _ ≤ ctx.end_
    omega
  · exact htake

/-- Bytes of the body, when the record's two head bytes are the next ones. -/
def MsgContext.status_rec_len (status_len : u8) (ctx : MsgContext) : ℕ :=
  status_body_len (ctx.peek 0) status_len

/-- Result, cursor and state of `decode_status_and_error`, branch by branch. -/
inductive StatusRecord (env : Env) (status_len : u8) (ctx : MsgContext) (s : RxState) :
    Int → MsgContext → RxState → Prop
  | head_short (hshort : ctx.end_ < ctx.ptr + status_head_len status_len (ctx.rec_idx = 0))
      (ctx' : MsgContext) (hadv : Advanced ctx ctx') :
    StatusRecord env status_len ctx s (-EINVAL) ctx' s
  | stopped (hhead : ctx.ptr + status_head_len status_len (ctx.rec_idx = 0) ≤ ctx.end_)
      (err : Int) (herr : err ≠ 0) (ctx' : MsgContext) (s' : RxState)
      (heffect : StatusEffect env (ctx.peek 0) (ctx.peek 1) status_len
        (ctx.status_body status_len) s err ctx' s') :
    StatusRecord env status_len ctx s err ctx' s'
  | body_short (hhead : ctx.ptr + status_head_len status_len (ctx.rec_idx = 0) ≤ ctx.end_)
      (ctx' : MsgContext) (s' : RxState)
      (heffect : StatusEffect env (ctx.peek 0) (ctx.peek 1) status_len
        (ctx.status_body status_len) s 0 ctx' s')
      (hshort : ctx'.end_ < ctx'.ptr + ctx.status_rec_len status_len) :
    StatusRecord env status_len ctx s (-EINVAL) ctx' s'
  | fits (hhead : ctx.ptr + status_head_len status_len (ctx.rec_idx = 0) ≤ ctx.end_)
      (ctx' : MsgContext) (s' : RxState)
      (heffect : StatusEffect env (ctx.peek 0) (ctx.peek 1) status_len
        (ctx.status_body status_len) s 0 ctx' s')
      (hfits : ctx'.ptr + ctx.status_rec_len status_len ≤ ctx'.end_) :
    StatusRecord env status_len ctx s 0 (ctx'.take 0 (ctx.status_rec_len status_len)) s'

/-- The head of a status record: both bytes and the timestamp, or failure before
anything happened. -/
theorem decode_status_and_error_of_head (env : Env) (status_len : u8) (ctx : MsgContext)
    (s : RxState) (hhead : ctx.ptr + status_head_len status_len (ctx.rec_idx = 0) ≤ ctx.end_) :
    decode_status_and_error env status_len ctx s
      = (let (err, ctx', s') := decode_functionality env (ctx.peek 0) (ctx.peek 1) status_len
            (ctx.status_body status_len) s
        if err ≠ 0 then (err, ctx', s')
        else if ctx'.ptr + ctx.status_rec_len status_len > ctx'.end_ then (-EINVAL, ctx', s')
        else (0, ctx'.take 0 (ctx.status_rec_len status_len), s')) := by
  unfold status_head_len status_ts_width at hhead
  unfold decode_status_and_error MsgContext.status_body
  rw [if_neg (by change ¬ ctx.end_ < ctx.ptr + 2; omega)]
  by_cases hts : status_len &&& PCAN_USB_STATUSLEN_TIMESTAMP ≠ 0
  · rw [if_pos hts] at hhead
    have hstamp := decode_timestamp_of_fits (ctx.rec_idx = 0)
      (ctx.take 2 PCAN_CMD_ARG_INDEX_ARG) (by change ctx.ptr + 2 + _ ≤ ctx.end_; omega)
    have hidx : (ctx.take 2 PCAN_CMD_ARG_INDEX_ARG).rec_idx = ctx.rec_idx := rfl
    simp only [if_pos hts, hidx, hstamp]
    rfl
  · simp only [if_neg hts]
    rfl

/-- A head that does not fit has no effect on the driver. -/
theorem decode_status_and_error_of_short (env : Env) (status_len : u8) (ctx : MsgContext)
    (s : RxState) (hshort : ctx.end_ < ctx.ptr + status_head_len status_len (ctx.rec_idx = 0)) :
    ∃ ctx', decode_status_and_error env status_len ctx s = (-EINVAL, ctx', s)
      ∧ Advanced ctx ctx' := by
  unfold status_head_len status_ts_width at hshort
  unfold decode_status_and_error
  rcases Nat.lt_or_ge ctx.end_ (ctx.ptr + 2) with hargs | hargs
  · rw [if_pos (by change ctx.end_ < ctx.ptr + 2; exact hargs)]
    exact ⟨ctx, rfl, Advanced.refl ctx⟩
  rw [if_neg (by change ¬ ctx.end_ < ctx.ptr + 2; omega)]
  by_cases hts : status_len &&& PCAN_USB_STATUSLEN_TIMESTAMP ≠ 0
  · rw [if_pos hts] at hshort
    -- the two head bytes are there, so a timestamp is announced and missing
    have hstamp := decode_timestamp_of_short (ctx.rec_idx = 0)
      (ctx.take 2 PCAN_CMD_ARG_INDEX_ARG) (by change ctx.end_ < ctx.ptr + 2 + _; omega)
    have hidx : (ctx.take 2 PCAN_CMD_ARG_INDEX_ARG).rec_idx = ctx.rec_idx := rfl
    simp only [if_pos hts, hidx, hstamp]
    exact ⟨_, rfl, take_advanced ctx 2 hargs⟩
  · rw [if_neg hts] at hshort
    omega

/-- A status record: its head, its effect, and the check of its body. -/
theorem decode_status_and_error_cases (env : Env) (status_len : u8) (ctx : MsgContext)
    (s : RxState) :
    StatusRecord env status_len ctx s (decode_status_and_error env status_len ctx s).1
      (decode_status_and_error env status_len ctx s).2.1
      (decode_status_and_error env status_len ctx s).2.2 := by
  rcases Nat.lt_or_ge ctx.end_ (ctx.ptr + status_head_len status_len (ctx.rec_idx = 0))
    with hshort | hhead
  · obtain ⟨ctx', heq, hadv⟩ := decode_status_and_error_of_short env status_len ctx s hshort
    rw [heq]
    exact .head_short hshort ctx' hadv
  rw [decode_status_and_error_of_head env status_len ctx s hhead]
  have heffect := decode_functionality_cases env (ctx.peek 0) (ctx.peek 1) status_len
    (ctx.status_body status_len) s
  -- the effect is fixed before the body is looked at
  generalize decode_functionality env (ctx.peek 0) (ctx.peek 1) status_len
    (ctx.status_body status_len) s = outcome at heffect ⊢
  obtain ⟨err, ctx', s'⟩ := outcome
  dsimp only at heffect ⊢
  by_cases herr : err = 0
  · subst herr
    rw [if_neg (by decide)]
    by_cases hbody : ctx'.ptr + ctx.status_rec_len status_len > ctx'.end_
    · rw [if_pos hbody]
      exact .body_short hhead ctx' s' heffect hbody
    · rw [if_neg hbody]
      exact .fits hhead ctx' s' heffect (by omega)
  · rw [if_pos herr]
    exact .stopped hhead err herr ctx' s' heffect

end DualPcanUsb
