/-
The CAN error state as a measure of what the device reports.

`decode_error` takes the state from the flags of the last error record, and tests the flags
in an order of its own in each state. Where the flag tested first is overruled by a severer
one in the same byte, the record is outranked in that state, and what it leads to depends on
the history. Every other record without overflow flags leaves the state its severity calls
for, whatever came before it, and once there, says nothing new.
-/
import DualPcanUsb.RoundTrip

set_option autoImplicit false

namespace DualPcanUsb

/-! ## What a record reports -/

/-- The record reports lost messages, not a bus condition. -/
def Overflows (number : u8) : Prop :=
  number &&& (PCAN_USB_ERROR_RXQOVR ||| PCAN_USB_ERROR_QOVR) ≠ 0

instance : DecidablePred Overflows := fun _ => inferInstanceAs (Decidable (_ ≠ _))

/-- None of the three bus flags. -/
def NoBusFlag (number : u8) : Prop :=
  number &&& PCAN_USB_ERROR_BUS_LIGHT = 0 ∧ number &&& PCAN_USB_ERROR_BUS_HEAVY = 0
    ∧ number &&& PCAN_USB_ERROR_BUS_OFF = 0

/-- The state a flag byte calls for: that of its severest bus flag. -/
def severity (number : u8) : CanState :=
  if number &&& PCAN_USB_ERROR_BUS_OFF ≠ 0 then .BUS_OFF
  else if number &&& PCAN_USB_ERROR_BUS_HEAVY ≠ 0 then .ERROR_PASSIVE
  else if number &&& PCAN_USB_ERROR_BUS_LIGHT ≠ 0 then .ERROR_WARNING
  else .ERROR_ACTIVE

/-- The bus flag tested first in this state comes with a severer one. -/
def Outranked (state : CanState) (number : u8) : Prop :=
  match state with
  | .ERROR_ACTIVE =>
    (number &&& PCAN_USB_ERROR_BUS_LIGHT ≠ 0
        ∧ (number &&& PCAN_USB_ERROR_BUS_HEAVY ≠ 0 ∨ number &&& PCAN_USB_ERROR_BUS_OFF ≠ 0))
      ∨ (number &&& PCAN_USB_ERROR_BUS_HEAVY ≠ 0 ∧ number &&& PCAN_USB_ERROR_BUS_OFF ≠ 0)
  | .ERROR_WARNING =>
    number &&& PCAN_USB_ERROR_BUS_HEAVY ≠ 0 ∧ number &&& PCAN_USB_ERROR_BUS_OFF ≠ 0
  | .ERROR_PASSIVE =>
    number &&& PCAN_USB_ERROR_BUS_OFF = 0 ∧ number &&& PCAN_USB_ERROR_BUS_LIGHT ≠ 0
      ∧ number &&& PCAN_USB_ERROR_BUS_HEAVY ≠ 0
  | _ => False

/-- The states of a running interface. -/
def Tracking (state : CanState) : Prop :=
  state = .ERROR_ACTIVE ∨ state = .ERROR_WARNING ∨ state = .ERROR_PASSIVE ∨ state = .BUS_OFF

/-! ## Verdicts -/

/-- Only a record of lost messages is passed over before the first timestamp. -/
theorem heeded_of_not_overflows {number : u8} (hbus : ¬ Overflows number) (tick_count : u32) :
    ¬ (true = false ∨ (number = PCAN_USB_ERROR_QOVR ∧ tick_count = 0)) := by
  rintro (hdown | ⟨rfl, -⟩)
  · cases hdown
  · exact hbus (by decide)

/-- Without overflow flags, the verdict leads to the severity unless it is outranked. -/
theorem state_after_verdict {state : CanState} {number : u8} {tick_count : u32}
    (htracking : Tracking state) (halive : state ≠ .BUS_OFF) (hbus : ¬ Overflows number)
    (hrank : ¬ Outranked state number) :
    (error_verdict true tick_count state number).state_after state = severity number := by
  rw [error_verdict, if_neg (heeded_of_not_overflows hbus tick_count)]
  unfold Overflows at hbus
  unfold severity
  -- each state tests the three flags in an order of its own
  by_cases hl : number &&& PCAN_USB_ERROR_BUS_LIGHT = 0 <;>
    by_cases hh : number &&& PCAN_USB_ERROR_BUS_HEAVY = 0 <;>
    by_cases ho : number &&& PCAN_USB_ERROR_BUS_OFF = 0 <;>
    rcases htracking with rfl | rfl | rfl | rfl <;>
    simp_all [error_switch, error_switch_warning, Outranked, ErrorSwitch.state_after]

/-- With overflow flags alone, a state that is not bus-off has a loss to report. -/
theorem error_switch_overflow {state : CanState} {number : u8} (htracking : Tracking state)
    (halive : state ≠ .BUS_OFF) (hover : Overflows number) (hflags : NoBusFlag number) :
    error_switch state number = .new_state .MAX := by
  obtain ⟨hl, hh, ho⟩ := hflags
  unfold Overflows at hover
  have hwarning : ∀ state, error_switch_warning state number = .new_state .MAX := by
    intro state
    rw [error_switch_warning, if_neg (not_not.mpr hh), if_neg (not_not.mpr ho), if_pos hover]
  rcases htracking with rfl | rfl | rfl | rfl
  · rw [error_switch, if_neg (not_not.mpr hl), hwarning]
  · rw [error_switch, hwarning]
  · rw [error_switch, if_neg (not_not.mpr ho), if_neg (not_not.mpr hl), if_pos hover]
  · exact absurd rfl halive

/-- Bus-off is for good. -/
theorem verdict_bus_off (tick_count : u32) (number : u8) :
    error_verdict true tick_count .BUS_OFF number = .ignore := by
  unfold error_verdict
  split
  · rfl
  · rfl

/-- Overflow flags alone lead nowhere. -/
theorem state_after_overflow {state : CanState} {number : u8} {tick_count : u32}
    (htracking : Tracking state) (hover : Overflows number) (hflags : NoBusFlag number) :
    (error_verdict true tick_count state number).state_after state = state := by
  by_cases halive : state = .BUS_OFF
  · rw [halive, verdict_bus_off]
    rfl
  have hswitch := error_switch_overflow htracking halive hover hflags
  unfold error_verdict
  split
  · rfl
  · rw [hswitch]
    dsimp only
    split <;> rfl

/-- In the state its severity calls for, a record has nothing to say. -/
theorem verdict_settled {state : CanState} {number : u8} {tick_count : u32}
    (htracking : Tracking state) (hbus : ¬ Overflows number) (hrank : ¬ Outranked state number)
    (hsettled : severity number = state) :
    error_verdict true tick_count state number = .ignore
      ∨ error_verdict true tick_count state number = .back_to_active ∧ state = .ERROR_ACTIVE := by
  rw [error_verdict, if_neg (heeded_of_not_overflows hbus tick_count)]
  unfold Overflows at hbus
  unfold severity at hsettled
  by_cases hl : number &&& PCAN_USB_ERROR_BUS_LIGHT = 0 <;>
    by_cases hh : number &&& PCAN_USB_ERROR_BUS_HEAVY = 0 <;>
    by_cases ho : number &&& PCAN_USB_ERROR_BUS_OFF = 0 <;>
    rcases htracking with rfl | rfl | rfl | rfl <;>
    simp_all [error_switch, error_switch_warning, Outranked]

/-- Whatever the verdict, the interface goes on in one of its states. -/
theorem tracking_state_after {state : CanState} (htracking : Tracking state)
    (verdict : ErrorSwitch) : Tracking (verdict.state_after state) := by
  cases verdict with
  | ignore => exact htracking
  | back_to_active => exact .inl rfl
  | new_state new_state =>
    unfold Tracking
    cases new_state <;> simp [ErrorSwitch.state_after] <;> exact htracking

/-! ## One record -/

/-- An error record as `decode_error` gets it. -/
structure ErrorRecord where
  ctx : MsgContext
  number : u8
  status_len : u8

def RxState.error_record (env : Env) (s : RxState) (record : ErrorRecord) : RxState :=
  (decode_error env record.ctx record.number record.status_len s).2

/-- The record was carried out: `decode_error` returned no error. -/
def Accepts (env : Env) (s : RxState) (record : ErrorRecord) : Prop :=
  (decode_error env record.ctx record.number record.status_len s).1 = 0

/-- The next buffer is granted. -/
def Granted (env : Env) (s : RxState) : Prop := env.alloc_can_skb s.skbs ≠ none

/-- The three ends of `decode_error`, in terms of the record's verdict. -/
inductive ErrorEffect (env : Env) (s : RxState) (number : u8) : Int → RxState → Prop
  | settled (verdict : ErrorSwitch)
      (hverdict : error_verdict s.fwd.netif_running s.fwd.time_ref.tick_count s.fwd.can_state
        number = verdict)
      (hquiet : ∀ new_state, verdict ≠ .new_state new_state) :
    ErrorEffect env s number 0
      { s with fwd := { s.fwd with can_state := verdict.state_after s.fwd.can_state } }
  | no_skb (hnone : ¬ Granted env s) : ErrorEffect env s number (-ENOMEM) { s with skbs := s.skbs + 1 }
  | posted (new_state : CanState)
      (hverdict : error_verdict s.fwd.netif_running s.fwd.time_ref.tick_count s.fwd.can_state
        number = .new_state new_state)
      (hgranted : Granted env s) (s' : RxState)
      (hposted : ∃ frame, delivered s'.trace = delivered s.trace ++ [frame])
      (hrunning : s'.fwd.netif_running = s.fwd.netif_running)
      (hstate : s'.fwd.can_state
        = (ErrorSwitch.new_state new_state).state_after s.fwd.can_state) :
    ErrorEffect env s number 0 s'

/-- One frame goes up with the events of a report, whichever way it is stamped. -/
theorem delivered_error_events (skb : ℕ) (new_state : CanState) (status_len : u8) (ts16 : u16)
    (frame : CanFrame) (now : ktime_t) :
    delivered ([.alloc_can_skb skb] ++ error_events skb new_state status_len ts16 frame now)
      = [error_frame new_state frame] := by
  unfold error_events delivered
  split <;> split <;> rfl

/-- What an error record does: its result, and the error state that it leaves. -/
theorem decode_error_effect (env : Env) (ctx : MsgContext) (number status_len : u8) (s : RxState) :
    ErrorEffect env s number (decode_error env ctx number status_len s).1
      (decode_error env ctx number status_len s).2 := by
  -- the cursor comes back as it was, so forget which one it is
  obtain ⟨ctx', hcases⟩ : ∃ ctx', StatusEffect env PCAN_USB_REC_ERROR number status_len ctx s
      (decode_error env ctx number status_len s).1 ctx'
      (decode_error env ctx number status_len s).2 :=
    ⟨_, decode_error_cases env number status_len ctx s⟩
  generalize decode_error env ctx number status_len s = result at hcases ⊢
  obtain ⟨err, s'⟩ := result
  cases hcases with
  | skipped herr => exact absurd rfl herr
  | settled _ verdict hverdict hquiet => exact .settled verdict hverdict hquiet
  | no_skb _ _ _ halloc => exact .no_skb (not_not.mpr halloc)
  | posted _ new_state hverdict frame halloc _ htrace _ hrunning _ _ hstate =>
    refine .posted new_state hverdict (by rw [Granted, halloc]; simp) _ ?_ hrunning hstate
    dsimp only
    rw [htrace, delivered_append, delivered_error_events]
    exact ⟨_, rfl⟩
  | ts_short hts => exact absurd hts (by decide)
  | ts_later hts => exact absurd hts (by decide)
  | ts_first hts => exact absurd hts (by decide)

/-- A record carried out its verdict, or there was no buffer to do so. -/
theorem error_record_state (env : Env) (s : RxState) (record : ErrorRecord)
    (hup : s.fwd.netif_running = true) :
    (s.error_record env record).fwd.netif_running = true
      ∧ ((s.error_record env record).fwd.can_state
            = (error_verdict true s.fwd.time_ref.tick_count s.fwd.can_state
                record.number).state_after s.fwd.can_state
          ∨ ¬ Accepts env s record
            ∧ (s.error_record env record).fwd.can_state = s.fwd.can_state) := by
  have heffect := decode_error_effect env record.ctx record.number record.status_len s
  unfold RxState.error_record Accepts
  generalize decode_error env record.ctx record.number record.status_len s = result at heffect ⊢
  obtain ⟨err, s'⟩ := result
  rw [← hup]
  cases heffect with
  | settled verdict hverdict => exact ⟨rfl, .inl (by rw [hverdict])⟩
  | no_skb hnone => exact ⟨rfl, .inr ⟨nofun, rfl⟩⟩
  | posted new_state hverdict _ _ _ hrunning hstate =>
    exact ⟨hrunning, .inl (by rw [hstate, hverdict])⟩

/-- Only for want of a buffer is a record not carried out, and then the state stays. -/
theorem error_record_refused (env : Env) (s : RxState) (record : ErrorRecord)
    (hrefused : ¬ Accepts env s record) :
    ¬ Granted env s ∧ (s.error_record env record).fwd.can_state = s.fwd.can_state := by
  have heffect := decode_error_effect env record.ctx record.number record.status_len s
  unfold Accepts at hrefused
  unfold RxState.error_record
  generalize decode_error env record.ctx record.number record.status_len s = result
    at heffect hrefused ⊢
  obtain ⟨err, s'⟩ := result
  cases heffect with
  | settled => exact absurd rfl hrefused
  | no_skb hnone => exact ⟨hnone, rfl⟩
  | posted => exact absurd rfl hrefused

/-- A record whose verdict is no news changes nothing and posts nothing. -/
theorem decode_error_of_settled (env : Env) (ctx : MsgContext) (number status_len : u8)
    (s : RxState) (hup : s.fwd.netif_running = true)
    (hverdict : error_verdict true s.fwd.time_ref.tick_count s.fwd.can_state number = .ignore
      ∨ error_verdict true s.fwd.time_ref.tick_count s.fwd.can_state number = .back_to_active
        ∧ s.fwd.can_state = .ERROR_ACTIVE) :
    decode_error env ctx number status_len s = (0, s) := by
  rw [← hup] at hverdict
  unfold decode_error
  unfold error_verdict at hverdict
  rw [if_neg (by simp [hup])]
  by_cases hearly : number = PCAN_USB_ERROR_QOVR ∧ s.fwd.time_ref.tick_count = 0
  · rw [if_pos hearly]
  rw [if_neg (by rw [hup]; tauto)] at hverdict
  rw [if_neg hearly]
  cases hswitch : error_switch s.fwd.can_state number with
  | ignore => rfl
  | back_to_active =>
    rw [hswitch] at hverdict
    -- back to the active state from the active state
    obtain ⟨-, hactive⟩ := hverdict.resolve_left nofun
    dsimp only
    rw [← hactive]
  | new_state new_state =>
    rw [hswitch] at hverdict
    by_cases hsame : s.fwd.can_state = new_state
    · exact if_pos hsame
    · simp only [if_neg hsame] at hverdict
      rcases hverdict with h | ⟨h, -⟩ <;> cases h

/-- A loss is reported by a frame, if there is a buffer for it. -/
theorem overflow_posts (env : Env) (s : RxState) (record : ErrorRecord)
    (hup : s.fwd.netif_running = true) (htracking : Tracking s.fwd.can_state)
    (halive : s.fwd.can_state ≠ .BUS_OFF) (hover : Overflows record.number)
    (hflags : NoBusFlag record.number)
    (hcounting : ¬ (record.number = PCAN_USB_ERROR_QOVR ∧ s.fwd.time_ref.tick_count = 0))
    (hgranted : Granted env s) :
    ∃ frame, delivered (s.error_record env record).trace = delivered s.trace ++ [frame] := by
  have heffect := decode_error_effect env record.ctx record.number record.status_len s
  have hmax : s.fwd.can_state ≠ .MAX := by
    rintro heq
    rw [heq] at htracking
    rcases htracking with h | h | h | h <;> cases h
  have hverdict : error_verdict s.fwd.netif_running s.fwd.time_ref.tick_count s.fwd.can_state
      record.number = .new_state .MAX := by
    rw [error_verdict, if_neg (by rw [hup]; tauto),
      error_switch_overflow htracking halive hover hflags]
    exact if_neg hmax
  unfold RxState.error_record
  generalize decode_error env record.ctx record.number record.status_len s = result at heffect ⊢
  obtain ⟨err, s'⟩ := result
  cases heffect with
  | settled verdict heq hquiet => exact absurd (heq.symm.trans hverdict) (hquiet _)
  | no_skb hnone => exact absurd hgranted hnone
  | posted _ _ _ _ hposted => exact hposted

/-! ## Sequences -/

def RxState.error_records (env : Env) (s : RxState) (records : List ErrorRecord) : RxState :=
  records.foldl (RxState.error_record env) s

/-- The states that track are not left by error records. -/
theorem tracking_after_records (env : Env) (records : List ErrorRecord) (s : RxState)
    (hup : s.fwd.netif_running = true) (htracking : Tracking s.fwd.can_state) :
    (s.error_records env records).fwd.netif_running = true
      ∧ Tracking (s.error_records env records).fwd.can_state := by
  induction records generalizing s with
  | nil => exact ⟨hup, htracking⟩
  | cons record records ih =>
    obtain ⟨hup', hstate⟩ := error_record_state env s record hup
    refine ih (s.error_record env record) hup' ?_
    rcases hstate with hstate | ⟨-, hstate⟩
    · rw [hstate]
      exact tracking_state_after htracking _
    · rw [hstate]
      exact htracking

/-- What the record did to the state `s`, leaving `s'`. -/
structure TracksRecord (env : Env) (s : RxState) (record : ErrorRecord) (s' : RxState) : Prop where
  tracked : s.fwd.can_state ≠ .BUS_OFF → ¬ Overflows record.number →
    ¬ Outranked s.fwd.can_state record.number → Accepts env s record →
    s'.fwd.can_state = severity record.number
  refused : ¬ Accepts env s record → ¬ Granted env s ∧ s'.fwd.can_state = s.fwd.can_state
  overflow_only : Overflows record.number → NoBusFlag record.number →
    s'.fwd.can_state = s.fwd.can_state
  overflow_posted : s.fwd.can_state ≠ .BUS_OFF → Overflows record.number →
    NoBusFlag record.number →
    ¬ (record.number = PCAN_USB_ERROR_QOVR ∧ s.fwd.time_ref.tick_count = 0) → Granted env s →
    ∃ frame, delivered s'.trace = delivered s.trace ++ [frame]
  bus_off : s.fwd.can_state = .BUS_OFF → s' = s
  repeated : ¬ Overflows record.number → ¬ Outranked s'.fwd.can_state record.number →
    s'.fwd.can_state = severity record.number →
    ∀ ctx status_len, decode_error env ctx record.number status_len s' = (0, s')

/-- An error record with these flags. -/
def flags_record (number : u8) : ErrorRecord := ⟨MsgContext.start (buffer [0, 1]) 2, number, 0⟩

end DualPcanUsb
