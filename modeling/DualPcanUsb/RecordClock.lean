/-
What a record does to the driver's clocks.

Only a timestamp record moves the time reference, by the one call its position in the
packet calls for; which call that is can be read off the packet's bytes. And whatever a
record does, the host clock is only ever read forward.
-/
import DualPcanUsb.PacketFate

set_option autoImplicit false

namespace DualPcanUsb

open LittleEndian

/-! ## The time reference -/

/-- The tick in the body of a timestamp record. -/
def body_tick (ibuf : ℕ → u8) (body : ℕ) : u32 := (le16 (ibuf body) (ibuf (body + 1))).setWidth 32

/-- The tick of a timestamp record, if that is what stands there and it fits. -/
def shape_tick (ibuf : ℕ → u8) (size : ℕ) : Shape → Option u32
  | .status functionality _ body _ =>
    if functionality = PCAN_USB_REC_TS ∧ body + 2 ≤ size then some (body_tick ibuf body) else none
  | _ => none

/-- The calls on the time reference a record makes: none, or one for its tick. `now` is the
host clock at that moment. -/
def shape_calls (now : ktime_t) (ibuf : ℕ → u8) (size : ℕ) (first : Bool) (shape : Shape) :
    List TimeCall :=
  (shape_tick ibuf size shape).toList.map fun tick =>
    if first then .set now tick else .update tick

/-- Parsing and storing a data record does not move the reference. -/
theorem DataFill.time_ref_eq {env : Env} {sample : RxSample} {status_len : u8}
    {ctx ctx' : MsgContext} {s s' : RxState} {result : Except Int ChardevMsg}
    (h : DataFill env sample status_len ctx s result ctx' s') :
    s'.fwd.time_ref = s.fwd.time_ref := by
  cases h with
  | skb_fits _ _ _ _ _ _ _ _ _ href => exact href
  | _ => rfl

/-- Data records do not touch the time reference. -/
theorem decode_data_time_ref (env : Env) (status_len : u8) (ctx : MsgContext) (s : RxState) :
    (decode_data env status_len ctx s).2.2.fwd.time_ref = s.fwd.time_ref := by
  have hfill := (decode_data_fill_cases env (decode_data_sample s.fwd.char_dev) status_len ctx
    s).time_ref_eq
  unfold decode_data
  dsimp only
  generalize decode_data_fill env (decode_data_sample s.fwd.char_dev) status_len ctx s
    = filled at hfill ⊢
  obtain ⟨_ | msg, ctx', s'⟩ := filled
  · exact hfill
  · exact hfill

/-- A status record without its head has no shape, and makes no call. -/
theorem shape_calls_of_short (now : ktime_t) {ibuf : ℕ → u8} {size p : ℕ} {first : Bool}
    (first_data : Bool) (hint : ibuf p &&& PCAN_USB_STATUSLEN_INTERNAL ≠ 0)
    (hshort : size < p + 1 + status_head_len (ibuf p) first) :
    shape_calls now ibuf size first (record_shape ibuf size first first_data p) = [] := by
  unfold record_shape
  by_cases hp : size ≤ p
  · rw [if_pos hp]; rfl
  · rw [if_neg hp, if_pos hint, if_neg (by omega)]; rfl

/-- The effect of a status record on the time reference is that call. -/
theorem StatusEffect.time_ref_eq {env : Env} {functionality number status_len : u8}
    {ctx ctx' : MsgContext} {s s' : RxState} {err : Int}
    (h : StatusEffect env functionality number status_len ctx s err ctx' s') (len : ℕ) :
    s'.fwd.time_ref = s.fwd.time_ref.after
      (shape_calls (env.ktime_get s.clocks) ctx.ibuf ctx.end_ (ctx.rec_idx = 0)
        (.status functionality number ctx.ptr len)) := by
  have hne : PCAN_USB_REC_ERROR ≠ PCAN_USB_REC_TS := by decide
  unfold shape_calls shape_tick
  dsimp only
  cases h with
  | skipped _ hts => rw [if_neg (fun h => hts h.1)]; rfl
  | settled herr => rw [if_neg (fun h => hne (herr.symm.trans h.1))]; rfl
  | no_skb herr => rw [if_neg (fun h => hne (herr.symm.trans h.1))]; rfl
  | posted herr _ _ _ _ _ _ _ _ _ href =>
    rw [if_neg (fun h => hne (herr.symm.trans h.1))]
    exact href
  | ts_short _ hshort => rw [if_neg (fun h => by omega)]; rfl
  | ts_later hts hfits hidx =>
    rw [if_pos ⟨hts, hfits⟩, Option.toList_some, List.map_singleton,
      if_neg (by simpa using hidx)]
    rfl
  | ts_first hts hfits hidx =>
    rw [if_pos ⟨hts, hfits⟩, Option.toList_some, List.map_singleton,
      if_pos (by simpa using hidx)]
    rfl

/-- A record does to the time reference what its shape says. -/
theorem decode_record_time_ref (env : Env) (ctx : MsgContext) (s : RxState) :
    (decode_record env ctx s).2.2.fwd.time_ref = s.fwd.time_ref.after
      (shape_calls (env.ktime_get s.clocks) ctx.ibuf ctx.end_ (ctx.rec_idx = 0)
        (record_shape ctx.ibuf ctx.end_ (ctx.rec_idx = 0) (ctx.rec_data_idx = 0) ctx.ptr)) := by
  unfold decode_record
  rw [show ctx.peek 0 = ctx.ibuf ctx.ptr from rfl]
  dsimp only
  by_cases hint : ctx.ibuf ctx.ptr &&& PCAN_USB_STATUSLEN_INTERNAL ≠ 0
  · rw [if_pos hint]
    have hcases := decode_status_and_error_cases env (ctx.ibuf ctx.ptr) (ctx.take 1 1) s
    generalize decode_status_and_error env (ctx.ibuf ctx.ptr) (ctx.take 1 1) s = result
      at hcases ⊢
    obtain ⟨err, ctx', s'⟩ := result
    dsimp only at hcases ⊢
    by_cases hshort : ctx.end_
        < ctx.ptr + 1 + status_head_len (ctx.ibuf ctx.ptr) (ctx.rec_idx = 0)
    · rw [shape_calls_of_short _ _ hint hshort]
      cases hcases with
      | head_short => rfl
      | stopped hhead | body_short hhead | fits hhead => exact absurd hshort (Nat.not_lt.mpr hhead)
    -- with the head there, the effect is one of the body, whatever the body check says
    rw [shape_of_status _ hint (by omega)]
    have hbody := status_body_advanced (ctx.ibuf ctx.ptr) (ctx.take 1 1)
      (show (ctx.take 1 1).ptr + _ ≤ _ from Nat.not_lt.mp hshort)
    have htime : ∀ {err : Int} {ctx' : MsgContext} {s' : RxState},
        StatusEffect env ((ctx.take 1 1).peek 0) ((ctx.take 1 1).peek 1) (ctx.ibuf ctx.ptr)
          ((ctx.take 1 1).status_body (ctx.ibuf ctx.ptr)) s err ctx' s' → _ :=
      fun heffect => heffect.time_ref_eq (status_body_len (ctx.ibuf (ctx.ptr + 1)) (ctx.ibuf ctx.ptr))
    rw [hbody.ibuf_eq, hbody.end_eq, hbody.rec_idx_eq, status_body_ptr] at htime
    cases hcases with
    | head_short hshort' => exact absurd hshort' hshort
    | stopped _ _ _ _ _ heffect => exact htime heffect
    | body_short _ _ _ heffect => exact htime heffect
    | fits _ _ _ heffect => exact htime heffect
  · rw [if_neg hint]
    -- a data record has no call to make, whether it fits or not
    have hnone : shape_calls (env.ktime_get s.clocks) ctx.ibuf ctx.end_ (ctx.rec_idx = 0)
        (record_shape ctx.ibuf ctx.end_ (ctx.rec_idx = 0) (ctx.rec_data_idx = 0) ctx.ptr) = [] := by
      unfold record_shape
      rw [if_neg hint]
      split
      · rfl
      split
      · rfl
      · rfl
    rw [hnone]
    exact decode_data_time_ref env (ctx.ibuf ctx.ptr) (ctx.take 1 1) s

/-- The base moves at one kind of record only. -/
theorem base_after_shape_calls {time_ref : TimeRef} (h : Dormant time_ref) (now : ktime_t)
    (ibuf : ℕ → u8) (size : ℕ) (first : Bool) (shape : Shape) :
    (time_ref.after (shape_calls now ibuf size first shape)).tv_host_0
      = if time_ref.tv_host_0 = 0 ∧ first = true ∧ (shape_tick ibuf size shape).isSome = true
          then now
        else time_ref.tv_host_0 := by
  unfold shape_calls
  cases shape_tick ibuf size shape with
  | none => rw [if_neg (by simp)]; rfl
  | some tick =>
    cases first with
    | false =>
      rw [if_neg (by simp)]
      exact update_tv_host_0 tick time_ref
    | true =>
      change (set_time_reference now tick time_ref).tv_host_0 = _
      rw [set_tv_host_0, set_host_time_base h]
      simp

/-! ## The ring -/

/-- Status records do not touch the ring. -/
theorem StatusEffect.char_dev_eq {env : Env} {functionality number status_len : u8}
    {ctx ctx' : MsgContext} {s s' : RxState} {err : Int}
    (h : StatusEffect env functionality number status_len ctx s err ctx' s') :
    s'.fwd.char_dev = s.fwd.char_dev := by
  cases h with
  | posted _ _ _ _ _ _ _ _ _ hdev => exact hdev
  | _ => rfl

/-- A record with the internal bit is a status record. -/
theorem decode_record_of_status {ctx : MsgContext}
    (hint : ctx.ibuf ctx.ptr &&& PCAN_USB_STATUSLEN_INTERNAL ≠ 0) (env : Env) (s : RxState) :
    decode_record env ctx s
      = decode_status_and_error env (ctx.ibuf ctx.ptr) (ctx.take 1 1) s := by
  unfold decode_record
  exact if_pos hint

/-- A status record leaves the character device alone. -/
theorem decode_status_char_dev (env : Env) (status_len : u8) (ctx : MsgContext) (s : RxState) :
    (decode_status_and_error env status_len ctx s).2.2.fwd.char_dev = s.fwd.char_dev := by
  have hcases := decode_status_and_error_cases env status_len ctx s
  generalize decode_status_and_error env status_len ctx s = result at hcases ⊢
  obtain ⟨err, ctx', s'⟩ := result
  dsimp only at hcases ⊢
  cases hcases with
  | head_short => rfl
  | stopped _ _ _ _ _ heffect => exact heffect.char_dev_eq
  | body_short _ _ _ heffect => exact heffect.char_dev_eq
  | fits _ _ _ heffect => exact heffect.char_dev_eq

end DualPcanUsb
