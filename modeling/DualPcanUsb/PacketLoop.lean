/-
The loop of `decode_incoming_buf`, from its records' fates.

`decode_records_fates` is the run lemma to `decode_record_fate`'s step: result,
reads and trace of the decoder are read off the list `packet_fates`. It also says
that the loop is done when it returns, so the fuel of the model is never what
ends it. The counters are bytes, and stay below the record count throughout.
-/
import DualPcanUsb.PacketFate

set_option autoImplicit false

namespace DualPcanUsb

/-! ## The loop -/

/-- A record overruns exactly if the packet has ended before it. -/
theorem fate_overrun_iff (has_skb : ℕ → Bool) (ibuf : ℕ → u8) (size p : ℕ)
    (first first_data : Bool) (o : Outlook) :
    record_fate has_skb size first o (record_shape ibuf size first first_data p) = .overrun
      ↔ size ≤ p := by
  unfold record_shape
  by_cases hp : size ≤ p
  · simp [hp, record_fate]
  · simp only [hp, if_false, iff_false]
    -- only `.exhausted` overruns; every other shape starts before `size`
    split_ifs <;> simp only [record_fate, body_fate] <;> repeat' split
    all_goals simp

/-- No status record takes the network interface up or down. -/
theorem status_effect_net_up {has_skb : ℕ → Bool} {size : ℕ} {first : Bool} {o o' : Outlook}
    {functionality number : u8} {body : ℕ} {delivers : Option RecordKind}
    (h : status_effect has_skb size first o functionality number body = some (delivers, o')) :
    o'.net_up = o.net_up := by
  unfold status_effect at h
  by_cases herr : functionality = PCAN_USB_REC_ERROR
  · rw [if_pos herr] at h
    cases hverdict : error_verdict o.net_up o.tick_count o.can_state number with
    | ignore => rw [hverdict] at h; cases h; rfl
    | back_to_active => rw [hverdict] at h; cases h; rfl
    | new_state new_state =>
      rw [hverdict] at h
      dsimp only at h
      split_ifs at h
      cases h; rfl
  · rw [if_neg herr] at h
    split_ifs at h <;> cases h <;> rfl

/-- Whether the network is up does not change on the way. -/
theorem fate_net_up {has_skb : ℕ → Bool} {size : ℕ} {first : Bool} {o o' : Outlook}
    {shape : Shape} {delivers : Option RecordKind} {is_data : Bool} {next : ℕ}
    (h : record_fate has_skb size first o shape = .go delivers is_data next o') :
    o'.net_up = o.net_up := by
  cases shape with
  | exhausted => cases h
  | malformed => cases h
  | data p =>
    rw [record_fate] at h
    split_ifs at h <;> cases h <;> rfl
  | status functionality number body len =>
    rw [record_fate] at h
    cases heq : status_effect has_skb size first o functionality number body with
    | none => rw [heq] at h; cases h
    | some after =>
      rw [heq, body_fate] at h
      split_ifs at h
      cases h
      exact status_effect_net_up heq

/-- The events of a row of records, with the allocation numbers before and after. -/
inductive FatesTrace (env : Env) : ℕ → ℕ → List Fate → List Event → Prop
  | nil (k : ℕ) : FatesTrace env k k [] []
  | cons {k k₁ k₂ : ℕ} {fate : Fate} {fates : List Fate} {events events' : List Event}
      (head : RecordTrace env k k₁ fate.delivers events)
      (tail : FatesTrace env k₁ k₂ fates events') :
    FatesTrace env k k₂ (fate :: fates) (events ++ events')

/-- What the loop did, in terms of the fates of its records. -/
structure LoopOutcome (env : Env) (ctx : MsgContext) (s : RxState) (fates : List Fate)
    (err : Int) (ctx' : MsgContext) (s' : RxState) : Prop where
  done : ¬ (ctx'.rec_idx < ctx'.rec_cnt ∧ err = 0)
  reads : ∃ rs, ctx'.reads = ctx.reads ++ rs
    ∧ ((∀ i ∈ rs, i < ctx.end_) ↔ Fate.overrun ∉ fates)
  trace : ∃ events, s'.trace = s.trace ++ events ∧ FatesTrace env s.skbs s'.skbs fates events
  verdict : err = 0 ↔ ∀ fate ∈ fates, fate.goes_on = true
  invalid : s.fwd.netif_running = true → (∀ k, env.has_skb k = true) → err = 0 ∨ err = -EINVAL

/-- An error ends the loop. -/
theorem decode_records_of_err (env : Env) (fuel : ℕ) {err : Int} (herr : err ≠ 0)
    (ctx : MsgContext) (s : RxState) : decode_records env fuel err ctx s = (err, ctx, s) := by
  cases fuel with
  | zero => rfl
  | succ fuel => rw [decode_records, if_neg (by tauto)]

/-- The loop ends with its count. -/
theorem decode_records_of_done (env : Env) (fuel : ℕ) (err : Int) (ctx : MsgContext) (s : RxState)
    (hdone : ¬ ctx.rec_idx < ctx.rec_cnt) :
    decode_records env fuel err ctx s = (err, ctx, s) := by
  cases fuel with
  | zero => rfl
  | succ fuel => rw [decode_records, if_neg (by tauto)]

/-- With records left and no error the loop goes round once more. -/
theorem decode_records_succ (env : Env) (fuel : ℕ) (ctx : MsgContext) (s : RxState)
    (hmore : ctx.rec_idx < ctx.rec_cnt) :
    decode_records env (fuel + 1) 0 ctx s
      = decode_records env fuel (decode_record env ctx s).1
          { (decode_record env ctx s).2.1 with
            rec_idx := (decode_record env ctx s).2.1.rec_idx + 1 }
          (decode_record env ctx s).2.2 := by
  rw [decode_records, if_pos ⟨hmore, rfl⟩]

/-- The loop's counters, with `n` records to go: no record and no data record was counted
yet, or `first` and `first_data` say otherwise. -/
structure Counters (ctx : MsgContext) (n : ℕ) (first first_data : Bool) : Prop where
  left_eq : ctx.rec_idx.toNat + n = ctx.rec_cnt.toNat
  first_eq : first = decide (ctx.rec_idx = 0)
  first_data_eq : first_data = decide (ctx.rec_data_idx = 0)
  data_le : ctx.rec_data_idx.toNat ≤ ctx.rec_idx.toNat

theorem Counters.start (ibuf : ℕ → u8) (size : ℕ) :
    Counters (MsgContext.start ibuf size) (ibuf 1).toNat true true :=
  ⟨Nat.zero_add _, rfl, rfl, le_rfl⟩

/-- No records left, as the loop counts them. -/
theorem Counters.done {ctx : MsgContext} {first first_data : Bool}
    (h : Counters ctx 0 first first_data) : ¬ ctx.rec_idx < ctx.rec_cnt := by
  have hleft := h.left_eq
  rw [BitVec.lt_def]
  omega

/-- Some left, as the loop counts them. -/
theorem Counters.more {ctx : MsgContext} {n : ℕ} {first first_data : Bool}
    (h : Counters ctx (n + 1) first first_data) : ctx.rec_idx < ctx.rec_cnt := by
  have hleft := h.left_eq
  rw [BitVec.lt_def]
  omega

/-- The counters after a record the loop gets past. -/
theorem RecordOutcome.counters {env : Env} {ctx ctx' : MsgContext} {s s' : RxState}
    {delivers : Option RecordKind} {is_data first first_data : Bool} {next n : ℕ} {o : Outlook}
    {err : Int} (h : RecordOutcome env ctx s (.go delivers is_data next o) err ctx' s')
    (hcount : Counters ctx (n + 1) first first_data) :
    Counters { ctx' with rec_idx := ctx'.rec_idx + 1 } n false (first_data && !is_data) := by
  obtain ⟨hleft, -, hdata, hle⟩ := hcount
  obtain ⟨-, -, hdidx, -⟩ := h.verdict
  -- the counters stay below the record count, so neither wraps
  have hbound : ctx.rec_idx.toNat + 1 < 256 := by have := ctx.rec_cnt.isLt; omega
  have hidx' : (ctx'.rec_idx + 1).toNat = ctx.rec_idx.toNat + 1 := by
    rw [h.rec_idx_eq, BitVec.toNat_add]; exact Nat.mod_eq_of_lt hbound
  have hdidx' : (ctx.rec_data_idx + 1).toNat = ctx.rec_data_idx.toNat + 1 := by
    rw [BitVec.toNat_add]
    exact Nat.mod_eq_of_lt (by change ctx.rec_data_idx.toNat + 1 < 256; omega)
  refine ⟨?_, ?_, ?_, ?_⟩
  · dsimp only
    rw [hidx', h.rec_cnt_eq]; omega
  -- the next record is not the first, and a data record uses up `first_data`
  · refine (decide_eq_false ?_).symm
    intro hzero
    dsimp only at hzero
    rw [hzero] at hidx'
    cases hidx'
  · dsimp only
    rw [hdidx]
    cases is_data with
    | false => simpa using hdata
    | true =>
      refine (Bool.and_false _).trans (decide_eq_false ?_).symm
      intro hzero
      rw [if_pos rfl] at hzero
      rw [hzero] at hdidx'
      cases hdidx'
  · dsimp only
    rw [hidx', hdidx]
    split
    · rw [hdidx']; omega
    · omega

/-- A round that stops the loop. -/
theorem RecordOutcome.stops {env : Env} {ctx ctx' : MsgContext} {s s' : RxState} {fate : Fate}
    {err : Int} (h : RecordOutcome env ctx s fate err ctx' s') (hstop : fate.goes_on = false)
    (hover : fate = .overrun ↔ ctx.end_ ≤ ctx.ptr) (rec_idx : u8) :
    LoopOutcome env ctx s [fate] err { ctx' with rec_idx := rec_idx } s' := by
  have herr : err ≠ 0
      ∧ (s.fwd.netif_running = true → (∀ k, env.has_skb k = true) → err = -EINVAL) := by
    have hverdict := h.verdict
    cases fate with
    | go => cases hstop
    | overrun => exact hverdict
    | stop => exact hverdict
  obtain ⟨rs, hrs, hlt⟩ := h.reads
  obtain ⟨events, hevents, htrace⟩ := h.trace
  refine ⟨by tauto, ⟨ctx.ptr :: rs, hrs, ?_⟩, ⟨events, hevents, ?_⟩, ?_, fun hup hall =>
    .inr (herr.2 hup hall)⟩
  -- the status byte is the one read that may lie outside
  · rw [List.mem_singleton, eq_comm, hover]
    constructor
    · intro hall
      have := hall ctx.ptr (List.mem_cons_self ..)
      omega
    · intro hin i hi
      rcases List.mem_cons.mp hi with rfl | hi
      · omega
      · exact hlt i hi
  · have htail := FatesTrace.cons htrace (.nil s'.skbs)
    rwa [List.append_nil] at htail
  · simp [herr.1, hstop]

/-- A round without an error is one the loop gets past. -/
theorem RecordOutcome.went_on {env : Env} {ctx ctx' : MsgContext} {s s' : RxState} {fate : Fate}
    (h : RecordOutcome env ctx s fate 0 ctx' s') :
    ∃ delivers is_data next o, fate = .go delivers is_data next o := by
  have hverdict := h.verdict
  cases fate with
  | go delivers is_data next o => exact ⟨delivers, is_data, next, o, rfl⟩
  | overrun => exact absurd rfl hverdict.1
  | stop => exact absurd rfl hverdict.1

/-- A round after which the loop goes on. -/
theorem RecordOutcome.goes {env : Env} {ctx ctx' ctx₂ : MsgContext} {s s' s₂ : RxState}
    {delivers : Option RecordKind} {is_data : Bool} {next : ℕ} {o : Outlook} {err err₂ : Int}
    {fates : List Fate}
    (h : RecordOutcome env ctx s (.go delivers is_data next o) err ctx' s')
    (hin : ctx.ptr < ctx.end_) (hup : s'.fwd.netif_running = s.fwd.netif_running) (rec_idx : u8)
    (htail : LoopOutcome env { ctx' with rec_idx := rec_idx } s' fates err₂ ctx₂ s₂) :
    LoopOutcome env ctx s (.go delivers is_data next o :: fates) err₂ ctx₂ s₂ := by
  obtain ⟨rs, hrs, hlt⟩ := h.reads
  obtain ⟨events, hevents, htrace⟩ := h.trace
  obtain ⟨hdone, ⟨rs', hrs', hiff⟩, ⟨events', hevents', htrace'⟩, hverdict, hinvalid⟩ := htail
  refine ⟨hdone, ⟨ctx.ptr :: rs ++ rs', ?_, ?_⟩, ⟨events ++ events', ?_, .cons htrace htrace'⟩,
    ?_, ?_⟩
  · rw [hrs', hrs, List.append_assoc]
  · have hover : Fate.overrun ∉ Fate.go delivers is_data next o :: fates
        ↔ Fate.overrun ∉ fates := by simp
    rw [hover, ← hiff]
    constructor
    · intro hall i hi
      rw [h.end_eq]
      exact hall i (List.mem_append_right _ hi)
    · intro hall i hi
      rcases List.mem_append.mp hi with hi | hi
      · rcases List.mem_cons.mp hi with rfl | hi
        · exact hin
        · exact hlt i hi
      · rw [← h.end_eq]; exact hall i hi
  · rw [hevents', hevents, List.append_assoc]
  · rw [hverdict]
    simp [Fate.goes_on]
  · rw [← hup]; exact hinvalid

/-- The loop with `n` records to go does what their fates say. -/
theorem decode_records_fates (env : Env) (n : ℕ) : ∀ (fuel : ℕ) (ctx : MsgContext) (s : RxState)
    {first first_data : Bool} {o : Outlook}, Counters ctx n first first_data → n ≤ fuel →
    Describes first o s →
    LoopOutcome env ctx s (fates env.has_skb ctx.ibuf ctx.end_ n first first_data ctx.ptr o)
      (decode_records env fuel 0 ctx s).1 (decode_records env fuel 0 ctx s).2.1
      (decode_records env fuel 0 ctx s).2.2 := by
  induction n with
  | zero =>
    intro fuel ctx s first first_data o hcount _ _
    -- no record is left, and the guard of the loop says so
    have hdone := hcount.done
    rw [decode_records_of_done env fuel 0 ctx s hdone]
    exact ⟨by tauto, ⟨[], by simp [fates]⟩, ⟨[], by simp, .nil _⟩, by simp [fates],
      fun _ _ => .inl rfl⟩
  | succ n ih =>
    intro fuel ctx s first first_data o hcount hfuel hdesc
    obtain ⟨fuel, rfl⟩ : ∃ m, fuel = m + 1 := ⟨fuel - 1, by omega⟩
    have hlt := hcount.more
    have hrec := decode_record_fate env ctx s hcount.first_eq hcount.first_data_eq hdesc
    have hover := fate_overrun_iff env.has_skb ctx.ibuf ctx.end_ ctx.ptr first first_data o
    have hkeep := @fate_net_up env.has_skb ctx.end_ first o
    rw [decode_records, if_pos ⟨hlt, rfl⟩, fates]
    generalize decode_record env ctx s = result at hrec ⊢
    obtain ⟨err, ctx', s'⟩ := result
    dsimp only at hrec ⊢
    generalize hshape : record_shape ctx.ibuf ctx.end_ first first_data ctx.ptr = shape
      at hrec hover ⊢
    cases hfate : record_fate env.has_skb ctx.end_ first o shape with
    | overrun =>
      rw [hfate] at hrec hover
      rw [decode_records_of_err env fuel hrec.verdict.1]
      exact hrec.stops rfl hover _
    | stop delivers =>
      rw [hfate] at hrec hover
      rw [decode_records_of_err env fuel hrec.verdict.1]
      exact hrec.stops rfl hover _
    | go delivers is_data next o' =>
      rw [hfate] at hrec hover
      have hup := hkeep hfate
      -- a record the loop gets past began inside the packet
      have hin : ctx.ptr < ctx.end_ := by
        by_contra hle
        cases hover.mpr (by omega)
      obtain ⟨rfl, hptr, -, hdesc'⟩ := hrec.verdict
      have hrun : s'.fwd.netif_running = s.fwd.netif_running := by
        rw [hdesc'.net_up_eq, hup, hdesc.net_up_eq]
      refine hrec.goes hin hrun (ctx'.rec_idx + 1) ?_
      have htail := ih fuel { ctx' with rec_idx := ctx'.rec_idx + 1 } s' (hrec.counters hcount)
        (by omega) hdesc'
      rw [← hrec.ibuf_eq, ← hrec.end_eq, ← hptr]
      exact htail

/-- The whole packet, from the count byte on. -/
theorem decode_incoming_buf_fates (env : Env) (ibuf : ℕ → u8) (size : ℕ) (s : RxState) :
    LoopOutcome env (MsgContext.start ibuf size) s (packet_fates env ibuf size s)
      (decode_incoming_buf env ibuf size s).1 (decode_incoming_buf env ibuf size s).2.1
      (decode_incoming_buf env ibuf size s).2.2 :=
  decode_records_fates env (ibuf 1).toNat 256 (MsgContext.start ibuf size) s
    (Counters.start ibuf size) (by have := (ibuf 1).isLt; omega) (describes_outlook true s)

/-! ## A driver to try packets on -/

/-- The private data of a plugged device with its character device closed. -/
def Forwarder.idle (netif_running : Bool) : Forwarder where
  can_state := .ERROR_ACTIVE
  can_stats := ⟨0, 0, 0⟩
  netif_running := netif_running
  stats := ⟨0, 0, 0, 0⟩
  char_dev := ⟨fun _ => ⟨0, CanFrame.zero⟩, 0, 0, 0, 0⟩
  stage := if netif_running then PCAN_USB_STAGE_ONE_STARTED else PCAN_USB_STAGE_CONNECTED
  time_ref := TimeRef.zero

/-- A receiver that has seen nothing yet. -/
def RxState.idle (netif_running : Bool) : RxState := ⟨Forwarder.idle netif_running, 0, 0, []⟩

/-- Services that never fail, on a host clock that ticks once a call. -/
def Env.plenty : Env := ⟨fun _ => some CanFrame.zero, fun n => n + 1⟩

/-- A transfer buffer with these bytes at its start. -/
def buffer (bytes : List u8) : ℕ → u8 := fun i => bytes.getD i 0

end DualPcanUsb
