/-
What a full ring costs, with the network interface down.

Then the ring is the only taker of data records, and one that finds no free slot ends the
packet: the timestamp records behind it are not heard. How many calls on the time
reference a packet makes is therefore a matter of its bytes and of the number of free
slots, and two readers that leave different numbers of slots free see different clocks,
unless what the slower one misses is a repetition.
-/
import DualPcanUsb.RecordClock
import DualPcanUsb.PacketGrammar
import DualPcanUsb.NetIsolation
import DualPcanUsb.TickCount

set_option autoImplicit false

namespace DualPcanUsb

/-! ## The calls that are heard -/

/-- The number of data records the ring can still take. -/
def Chardev.free (dev : Chardev) : ℕ :=
  if dev.rx_unread_cnt < 0 then 0 else (PCAN_CHRDEV_MAX_RX_BUF_COUNT - dev.rx_unread_cnt).toNat

/-- The calls on the time reference made by `n` records from `p` on, until a ring with
`free` slots refuses a data record. -/
def heard_calls (now : ktime_t) (ibuf : ℕ → u8) (size : ℕ) :
    ℕ → ℕ → Bool → Bool → ℕ → List TimeCall
  | 0, _, _, _, _ => []
  | n + 1, free, first, first_data, p =>
    match record_shape ibuf size first first_data p with
    | .data next =>
      match free with
      | 0 => []
      | free + 1 => heard_calls now ibuf size n free false false next
    | .status functionality number body len =>
      shape_calls now ibuf size first (.status functionality number body len)
        ++ heard_calls now ibuf size n free false first_data (body + len)
    | _ => []

/-- The calls of a whole packet. -/
def packet_calls (now : ktime_t) (ibuf : ℕ → u8) (size free : ℕ) : List TimeCall :=
  heard_calls now ibuf size (ibuf 1).toNat free true true PCAN_USB_MSG_HEADER_LEN

/-- Only the first record of a packet reads the host clock. -/
theorem shape_calls_later (now : ktime_t) (ibuf : ℕ → u8) (size : ℕ) (shape : Shape) :
    ∀ call ∈ shape_calls now ibuf size false shape, ∃ tick, call = .update tick := by
  intro call hcall
  obtain ⟨tick, -, rfl⟩ := List.mem_map.mp hcall
  exact ⟨tick, rfl⟩

/-- Behind the first record every call heard is an update. -/
theorem heard_calls_later (now : ktime_t) (ibuf : ℕ → u8) (size n : ℕ) :
    ∀ (free : ℕ) (first_data : Bool) (p : ℕ),
      ∀ call ∈ heard_calls now ibuf size n free false first_data p, ∃ tick, call = .update tick := by
  induction n with
  | zero => exact fun _ _ _ call hcall => absurd hcall List.not_mem_nil
  | succ n ih =>
    intro free first_data p call hcall
    rw [heard_calls] at hcall
    split at hcall
    · split at hcall
      · exact absurd hcall List.not_mem_nil
      · exact ih _ _ _ call hcall
    · rcases List.mem_append.mp hcall with h | h
      · exact shape_calls_later now ibuf size _ call h
      · exact ih _ _ _ call h
    · exact absurd hcall List.not_mem_nil

/-- So behind it the clock does not matter. -/
theorem heard_calls_clock (now now' : ktime_t) (ibuf : ℕ → u8) (size n : ℕ) :
    ∀ (free : ℕ) (first_data : Bool) (p : ℕ),
      heard_calls now ibuf size n free false first_data p
        = heard_calls now' ibuf size n free false first_data p := by
  induction n with
  | zero => exact fun _ _ _ => rfl
  | succ n ih =>
    intro free first_data p
    rw [heard_calls, heard_calls]
    split
    · split
      · rfl
      · exact ih _ _ _
    · rw [ih]; rfl
    · rfl

/-- A ring with more free slots hears what one with fewer does, and then timestamps that
are not the packet's first record. -/
theorem heard_calls_prefix (now : ktime_t) (ibuf : ℕ → u8) (size n : ℕ) :
    ∀ {free free' : ℕ} (first first_data : Bool) (p : ℕ), free ≤ free' →
      ∃ missed, heard_calls now ibuf size n free' first first_data p
          = heard_calls now ibuf size n free first first_data p ++ missed
        ∧ ∀ call ∈ missed, ∃ tick, call = .update tick := by
  induction n with
  | zero => exact fun _ _ _ _ => ⟨[], rfl, by simp⟩
  | succ n ih =>
    intro free free' first first_data p hle
    rw [heard_calls, heard_calls]
    cases record_shape ibuf size first first_data p with
    | data next =>
      cases free with
      | zero =>
        -- everything the other ring hears is missed
        cases free' with
        | zero => exact ⟨[], rfl, by simp⟩
        | succ free' => exact ⟨_, rfl, heard_calls_later now ibuf size n free' false next⟩
      | succ free =>
        obtain ⟨free', rfl⟩ : ∃ m, free' = m + 1 := ⟨free' - 1, by omega⟩
        exact ih false false next (Nat.le_of_succ_le_succ hle)
    | status functionality number body len =>
      obtain ⟨missed, heq, hlater⟩ := ih false first_data (body + len) hle
      refine ⟨missed, ?_, hlater⟩
      dsimp only
      rw [heq, List.append_assoc]
    | exhausted => exact ⟨[], rfl, by simp⟩
    | malformed => exact ⟨[], rfl, by simp⟩

/-! ## The loop -/

/-- With the network down and its body inside the packet, no status record stops the
loop, nor does it touch the ring. -/
theorem fate_of_status_down (has_skb : ℕ → Bool) {ibuf : ℕ → u8} {size p next : ℕ}
    {first first_data : Bool} {o : Outlook} (hdown : o.net_up = false)
    (h : RecordAt ibuf size first first_data p false next) :
    ∃ functionality number body len o',
      record_shape ibuf size first first_data p = .status functionality number body len
        ∧ next = body + len
        ∧ record_fate has_skb size first o (.status functionality number body len)
          = .go none false next o'
        ∧ o'.unread = o.unread := by
  obtain ⟨functionality, number, body, len, hshape, hts, hfits, rfl⟩ := recordAt_status_iff.mp h
  have heffect : ∃ o', status_effect has_skb size first o functionality number body
      = some (none, o') ∧ o'.unread = o.unread := by
    unfold status_effect error_verdict
    by_cases herr : functionality = PCAN_USB_REC_ERROR
    · rw [if_pos herr, if_pos (.inl hdown)]
      exact ⟨_, rfl, rfl⟩
    rw [if_neg herr]
    by_cases hrec : functionality = PCAN_USB_REC_TS
    · rw [if_pos hrec, if_pos (hts hrec)]
      exact ⟨_, rfl, rfl⟩
    · rw [if_neg hrec]
      exact ⟨_, rfl, rfl⟩
  obtain ⟨o', heq, hunread⟩ := heffect
  refine ⟨_, _, _, _, o', hshape, rfl, ?_, hunread⟩
  rw [record_fate, heq, body_fate, if_pos hfits]

/-- A data record is taken if the ring has a free slot, and ends the loop if not. -/
theorem fate_of_data_down (has_skb : ℕ → Bool) (size : ℕ) (first : Bool) {o : Outlook}
    (hdown : o.net_up = false) (next : ℕ) :
    record_fate has_skb size first o (.data next)
      = if o.slot_free then .go none true next o.after_data else .stop none :=
  if_neg (by rw [hdown]; decide)

/-- The free slots are there as long as the device is open. -/
theorem slot_free_iff {s : RxState} (hopen : 1 ≤ s.fwd.char_dev.open_count) :
    s.outlook.slot_free = true ↔ 0 < s.fwd.char_dev.free := by
  unfold Outlook.slot_free RxState.outlook Chardev.free
  simp only [decide_eq_true_eq]
  have hmax : PCAN_CHRDEV_MAX_RX_BUF_COUNT = 8 := rfl
  split <;> omega

/-- A message stored uses up a free slot. -/
theorem free_after_data {dev dev' : Chardev} {free : ℕ} (hfree : dev.free = free + 1)
    (hunread : dev'.rx_unread_cnt = dev.rx_unread_cnt + 1) : dev'.free = free := by
  have hmax : PCAN_CHRDEV_MAX_RX_BUF_COUNT = 8 := rfl
  unfold Chardev.free at hfree ⊢
  rw [hunread]
  split at hfree
  · cases hfree
  · rw [if_neg (by omega)]; omega

/-- The time reference behind a row of records: the network is down, the device open. -/
theorem decode_records_time_ref (env : Env) (n : ℕ) : ∀ (fuel : ℕ) (ctx : MsgContext)
    (s : RxState) {first first_data : Bool}, Counters ctx n first first_data → n ≤ fuel →
    s.fwd.netif_running = false → 1 ≤ s.fwd.char_dev.open_count →
    RecordsAt ctx.ibuf ctx.end_ n first first_data ctx.ptr →
    (decode_records env fuel 0 ctx s).2.2.fwd.time_ref
      = s.fwd.time_ref.after (heard_calls (env.ktime_get s.clocks) ctx.ibuf ctx.end_ n
          s.fwd.char_dev.free first first_data ctx.ptr) := by
  induction n with
  | zero =>
    intro fuel ctx s first first_data hcount _ _ _ _
    rw [decode_records_of_done env fuel 0 ctx s hcount.done]
    rfl
  | succ n ih =>
    intro fuel ctx s first first_data hcount hfuel hdown hopen hrecs
    obtain ⟨fuel, rfl⟩ : ∃ m, fuel = m + 1 := ⟨fuel - 1, by omega⟩
    obtain ⟨is_data, next, hat, htail⟩ := hrecs.uncons
    have hrec := decode_record_fate env ctx s hcount.first_eq hcount.first_data_eq
      (describes_outlook first s)
    have htime := decode_record_time_ref env ctx s
    have hkeep := decode_record_undisturbed env ctx s
    rw [← hcount.first_eq, ← hcount.first_data_eq] at htime
    rw [decode_records, if_pos ⟨hcount.more, rfl⟩, heard_calls]
    generalize decode_record env ctx s = result at hrec htime hkeep ⊢
    obtain ⟨err, ctx', s'⟩ := result
    dsimp only at hrec htime hkeep ⊢
    have hdown' := hkeep.running_eq.trans hdown
    have hopen' : 1 ≤ s'.fwd.char_dev.open_count := hkeep.open_count_eq ▸ hopen
    -- the rest of the loop, once the record is known to let it go on
    have hgoes : ∀ {delivers : Option RecordKind} {o' : Outlook},
        RecordOutcome env ctx s (.go delivers is_data next o') err ctx' s' →
        (decode_records env fuel err { ctx' with rec_idx := ctx'.rec_idx + 1 } s').2.2.fwd.time_ref
          = s'.fwd.time_ref.after (heard_calls (env.ktime_get s.clocks) ctx.ibuf ctx.end_ n
              s'.fwd.char_dev.free false (first_data && !is_data) next) := by
      intro delivers o' hout
      obtain ⟨rfl, hptr, -, -⟩ := hout.verdict
      have hrest := ih fuel { ctx' with rec_idx := ctx'.rec_idx + 1 } s' (hout.counters hcount)
        (by omega) hdown' hopen' (by dsimp only; rw [hout.ibuf_eq, hout.end_eq, hptr]; exact htail)
      dsimp only at hrest
      rw [hrest, hout.ibuf_eq, hout.end_eq, hptr, heard_calls_clock _ (env.ktime_get s.clocks)]
    cases is_data with
    | true =>
      rw [recordAt_data_iff.mp hat] at hrec htime ⊢
      rw [fate_of_data_down _ _ _ (show s.outlook.net_up = false from hdown)] at hrec
      have hiff := slot_free_iff hopen
      -- a data record makes no call, and uses up a slot if there is one
      cases hfree : s.fwd.char_dev.free with
      | zero =>
        rw [if_neg (by rw [hiff, hfree]; decide)] at hrec
        rw [decode_records_of_err env fuel hrec.verdict.1]
        exact htime
      | succ free =>
        rw [if_pos (by rw [hiff, hfree]; exact Nat.succ_pos _)] at hrec
        have hunread := hrec.verdict.2.2.2.unread_eq
        rw [Outlook.after_data] at hunread
        have hfree' := free_after_data hfree
          (hunread.trans (if_pos (hiff.mpr (by rw [hfree]; exact Nat.succ_pos _))))
        have hrest := hgoes hrec
        rw [hfree', htime, Bool.not_true, Bool.and_false] at hrest
        exact hrest
    | false =>
      obtain ⟨functionality, number, body, len, o', hshape, rfl, hfate, hunread⟩ :=
        fate_of_status_down env.has_skb (show s.outlook.net_up = false from hdown) hat
      rw [hshape] at hrec htime ⊢
      rw [hfate] at hrec
      have hfree' : s'.fwd.char_dev.free = s.fwd.char_dev.free := by
        unfold Chardev.free
        rw [hrec.verdict.2.2.2.unread_eq, hunread]
        rfl
      have hrest := hgoes hrec
      rw [hfree', htime, Bool.not_false, Bool.and_true] at hrest
      rw [hrest]
      exact (List.foldl_append ..).symm

/-! ## When the missed calls do not matter -/

def TimeCall.tick : TimeCall → u32
  | .set _ ts_now => ts_now
  | .update ts_now => ts_now

/-- The device tick the reference holds after these calls. -/
def last_tick (ts_dev_2 : u32) (calls : List TimeCall) : u32 :=
  (calls.getLast?.map TimeCall.tick).getD ts_dev_2

/-- What `update_time_reference` adds to `ts_total` for a timestamp at `ts_now`. -/
def elapsed_ticks (ts_dev_1 ts_now : u32) : u64 :=
  (TickCounter.elapsed PCAN_USB_TS_USED_BITS ts_now ts_dev_1).setWidth 64

/-- The anchor the updates of a packet start from: a timestamp in its first record sets it. -/
def TimeRef.anchored (time_ref : TimeRef) : List TimeCall → TimeRef
  | .set now _ :: _ => { set_host_time now time_ref with ts_dev_1 := time_ref.ts_dev_2 }
  | _ => time_ref

/-- The missed calls repeat what was heard: the last tick is the same, and if ticks are
being summed up they add nothing. -/
def Repeats (time_ref : TimeRef) (heard missed : List TimeCall) : Prop :=
  last_tick time_ref.ts_dev_2 (heard ++ missed) = last_tick time_ref.ts_dev_2 heard
    ∧ ((time_ref.anchored heard).tv_host > 0 →
      (missed.map fun call => elapsed_ticks (time_ref.anchored heard).ts_dev_1 call.tick).sum = 0)

instance (time_ref : TimeRef) (heard missed : List TimeCall) :
    Decidable (Repeats time_ref heard missed) :=
  inferInstanceAs (Decidable (_ ∧ _))

/-- The last tick of two rows is that of the second, where it has one. -/
theorem last_tick_append (ts_dev_2 : u32) (calls calls' : List TimeCall) :
    last_tick ts_dev_2 (calls ++ calls') = last_tick (last_tick ts_dev_2 calls) calls' := by
  unfold last_tick
  rw [List.getLast?_append]
  cases calls'.getLast? <;> rfl

theorem last_tick_cons (ts_dev_2 : u32) (call : TimeCall) (calls : List TimeCall) :
    last_tick ts_dev_2 (call :: calls) = last_tick call.tick calls :=
  last_tick_append ts_dev_2 [call] calls

/-- A row of updates moves the device tick and, with a time base, the sum. -/
theorem after_updates (calls : List TimeCall) : ∀ (time_ref : TimeRef),
    (∀ call ∈ calls, ∃ tick, call = .update tick) →
    time_ref.after calls
      = { time_ref with
          ts_dev_2 := last_tick time_ref.ts_dev_2 calls
          ts_total := if time_ref.tv_host > 0
            then time_ref.ts_total
              + (calls.map fun call => elapsed_ticks time_ref.ts_dev_1 call.tick).sum
            else time_ref.ts_total } := by
  induction calls with
  | nil =>
    intro time_ref _
    simp [TimeRef.after, last_tick]
  | cons call calls ih =>
    intro time_ref hlater
    obtain ⟨⟨tick, rfl⟩, hrest⟩ := List.forall_mem_cons.mp hlater
    have hstep : time_ref.after (.update tick :: calls)
        = (update_time_reference tick time_ref).after calls := rfl
    rw [hstep, ih _ hrest, last_tick_cons, update_time_reference_eq]
    by_cases hhost : time_ref.tv_host > 0
    · simp only [if_pos hhost, List.map_cons, List.sum_cons, add_assoc]
      rfl
    · simp only [if_neg hhost]
      rfl

/-- A reference after the calls of a packet, as far as updates depend on it. -/
theorem after_packet_calls {calls : List TimeCall} (time_ref : TimeRef)
    (hlater : ∀ call ∈ calls.tail, ∃ tick, call = .update tick) :
    (time_ref.after calls).ts_dev_2 = last_tick time_ref.ts_dev_2 calls
      ∧ (time_ref.after calls).tv_host = (time_ref.anchored calls).tv_host
      ∧ (time_ref.after calls).ts_dev_1 = (time_ref.anchored calls).ts_dev_1 := by
  cases calls with
  | nil => exact ⟨rfl, rfl, rfl⟩
  | cons call calls =>
    have hstep : time_ref.after (call :: calls) = (call.apply time_ref).after calls := rfl
    rw [hstep, after_updates calls _ hlater, last_tick_cons]
    cases call with
    | update tick => simp [TimeCall.apply, update_time_reference_eq, TimeRef.anchored, TimeCall.tick]
    | set now tick =>
      simp [TimeCall.apply, set_time_reference, update_time_reference_eq, TimeRef.anchored,
        TimeCall.tick, set_host_ts_dev_2]

/-- What is missed does not matter exactly if it repeats what was heard. -/
theorem after_append_eq_iff {heard missed : List TimeCall} (time_ref : TimeRef)
    (hheard : ∀ call ∈ heard.tail, ∃ tick, call = .update tick)
    (hmissed : ∀ call ∈ missed, ∃ tick, call = .update tick) :
    time_ref.after (heard ++ missed) = time_ref.after heard ↔ Repeats time_ref heard missed := by
  obtain ⟨hdev2, hhost, hdev1⟩ := after_packet_calls time_ref hheard
  have hsplit : time_ref.after (heard ++ missed) = (time_ref.after heard).after missed :=
    List.foldl_append ..
  rw [hsplit, after_updates missed _ hmissed, Repeats, last_tick_append, ← hdev2, ← hhost, ← hdev1]
  generalize time_ref.after heard = r
  -- the other four fields are the same either way
  rw [TimeRef.mk.injEq]
  by_cases hactive : r.tv_host > 0
  · simp [hactive]
  · simp [hactive]

/-! ## Two readers -/

/-- Of the calls of a packet all but the first are updates. -/
theorem heard_calls_tail (now : ktime_t) (ibuf : ℕ → u8) (size n free : ℕ)
    (first first_data : Bool) (p : ℕ) :
    ∀ call ∈ (heard_calls now ibuf size n free first first_data p).tail,
      ∃ tick, call = .update tick := by
  cases n with
  | zero => exact fun call hcall => absurd hcall List.not_mem_nil
  | succ n =>
    have hrest := heard_calls_later now ibuf size n
    rw [heard_calls]
    split
    · split
      · exact fun call hcall => absurd hcall List.not_mem_nil
      · exact fun call hcall => hrest _ _ _ call (List.mem_of_mem_tail hcall)
    -- a status record makes one call at most
    · rw [shape_calls]
      cases shape_tick ibuf size _ with
      | none => exact fun call hcall => hrest _ _ _ call (List.mem_of_mem_tail hcall)
      | some tick => exact hrest _ _ _
    · exact fun call hcall => absurd hcall List.not_mem_nil

/-- The time reference behind a packet. -/
theorem decode_incoming_buf_time_ref (env : Env) (ibuf : ℕ → u8) (size : ℕ) (s : RxState)
    (hwell : WellFormedPacket ibuf size) (hdown : s.fwd.netif_running = false)
    (hopen : 1 ≤ s.fwd.char_dev.open_count) :
    (decode_incoming_buf env ibuf size s).2.2.fwd.time_ref
      = s.fwd.time_ref.after
          (packet_calls (env.ktime_get s.clocks) ibuf size s.fwd.char_dev.free) :=
  decode_records_time_ref env (ibuf 1).toNat 256 (MsgContext.start ibuf size) s
    (Counters.start ibuf size) (by have := (ibuf 1).isLt; omega) hdown hopen hwell

/-- The calls a ring with `free'` slots hears and one with `free` of them misses. -/
def missed_calls (now : ktime_t) (ibuf : ℕ → u8) (size free free' : ℕ) : List TimeCall :=
  (packet_calls now ibuf size free').drop (packet_calls now ibuf size free).length

/-- With the network down, a packet leaves two states that differ in the ring only with
the same time reference exactly if the timestamp records the fuller ring misses repeat
those both hear. -/
theorem slow_reader_keeps_time_iff (env : Env) (ibuf : ℕ → u8) (size : ℕ) (s : RxState)
    (dev : Chardev) (hwell : WellFormedPacket ibuf size) (hdown : s.fwd.netif_running = false)
    (hopen : 1 ≤ s.fwd.char_dev.open_count) (hopen' : 1 ≤ dev.open_count) :
    (decode_incoming_buf env ibuf size (s.with_chardev dev)).2.2.fwd.time_ref
        = (decode_incoming_buf env ibuf size s).2.2.fwd.time_ref
      ↔ Repeats s.fwd.time_ref
          (packet_calls (env.ktime_get s.clocks) ibuf size (min s.fwd.char_dev.free dev.free))
          (missed_calls (env.ktime_get s.clocks) ibuf size (min s.fwd.char_dev.free dev.free)
            (max s.fwd.char_dev.free dev.free)) := by
  have hs := decode_incoming_buf_time_ref env ibuf size s hwell hdown hopen
  have ht := decode_incoming_buf_time_ref env ibuf size (s.with_chardev dev) hwell hdown hopen'
  rw [hs, ht]
  change s.fwd.time_ref.after (packet_calls (env.ktime_get s.clocks) ibuf size dev.free) = _ ↔ _
  -- whichever ring is the fuller one, its calls are a prefix of the other's
  have hiff : ∀ {free free' : ℕ}, free ≤ free' →
      (s.fwd.time_ref.after (packet_calls (env.ktime_get s.clocks) ibuf size free')
          = s.fwd.time_ref.after (packet_calls (env.ktime_get s.clocks) ibuf size free)
        ↔ Repeats s.fwd.time_ref (packet_calls (env.ktime_get s.clocks) ibuf size free)
            (missed_calls (env.ktime_get s.clocks) ibuf size free free')) := by
    intro free free' hle
    obtain ⟨missed, heq, hlater⟩ := heard_calls_prefix (env.ktime_get s.clocks) ibuf size
      (ibuf 1).toNat true true PCAN_USB_MSG_HEADER_LEN hle
    have hmissed : missed_calls (env.ktime_get s.clocks) ibuf size free free' = missed := by
      rw [missed_calls, packet_calls, packet_calls, heq, List.drop_left]
    rw [hmissed, packet_calls, heq]
    exact after_append_eq_iff s.fwd.time_ref (heard_calls_tail _ _ _ _ _ _ _ _) hlater
  rcases Nat.le_total s.fwd.char_dev.free dev.free with hle | hle
  · rw [min_eq_left hle, max_eq_right hle]
    exact hiff hle
  · rw [min_eq_right hle, max_eq_left hle, eq_comm]
    exact hiff hle

/-- A device just opened. -/
def Chardev.empty : Chardev := { Chardev.closed with open_count := 1 }

theorem two_record_packet_wellFormed : WellFormedPacket two_record_packet 17 :=
  .cons (.data (by decide) (by decide))
    (.cons (.status (by decide) 10 (by decide) (by decide) (by decide) (by decide)) (.nil ..))

/-- A full ring against an empty one. -/
theorem slow_reader_keeps_time_iff_two_records :
    let s := (RxState.idle false).with_chardev Chardev.full
    (decode_incoming_buf Env.plenty two_record_packet 17
          (s.with_chardev Chardev.empty)).2.2.fwd.time_ref
        = (decode_incoming_buf Env.plenty two_record_packet 17 s).2.2.fwd.time_ref
      ↔ Repeats TimeRef.zero (packet_calls 1 two_record_packet 17 0)
          (missed_calls 1 two_record_packet 17 0 8) :=
  slow_reader_keeps_time_iff Env.plenty two_record_packet 17
    ((RxState.idle false).with_chardev Chardev.full) Chardev.empty two_record_packet_wellFormed rfl
    (by decide) (by decide)

/-- The timestamp record behind the remote frame is lost on a full ring. -/
theorem full_ring_loses_time :
    WellFormedPacket two_record_packet 17
      ∧ (decode_incoming_buf Env.plenty two_record_packet 17
            ((RxState.idle false).with_chardev Chardev.full)).2.2.fwd.time_ref
        ≠ (decode_incoming_buf Env.plenty two_record_packet 17
            ((RxState.idle false).with_chardev Chardev.empty)).2.2.fwd.time_ref :=
  ⟨two_record_packet_wellFormed, by decide⟩

end DualPcanUsb
