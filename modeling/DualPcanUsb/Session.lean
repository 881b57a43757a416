/-
A bus session as the readers of the character device see it.

A session begins when `time_ref` is zeroed and `bus_up_time` is taken. From then on packets
come in, record by record, and readers take messages out at any moment between; each message
taken by `pcan_chardev_read` or `ioctl_fd_recv_msgs` is reported at `bus_up_time` plus its
stamp relative to `tv_host_0`. The machine adds to the receive ring the status records, the
host clock and what was reported; `Session.queue` is what remains of a session when only the
stamps and the base are looked at, and every step is one of the queue's or none.
-/
import DualPcanUsb.RxRing
import DualPcanUsb.RecordClock
import DualPcanUsb.PacketFrame
import DualPcanUsb.Lib.StampQueue

set_option autoImplicit false

namespace DualPcanUsb

open StampQueue

/-! ## The machine -/

/-- The ring with its receiver, and the last host clock reading. `arrivals` has the base of
the moment each unread message was stored. -/
structure Session where
  ring : RingState
  bus_up_time : Int
  now : ktime_t
  arrivals : List ktime_t
  reports : List Report

inductive SessionAction
  | status (env : Env) (ctx : MsgContext)
  | sample
  | fill (env : Env) (status_len : u8) (ctx : MsgContext)
  | commit
  | read (count : ℕ)
  | read_msg
  | fd_recv_msgs (count : u32)
  | elsewhere (fwd : Forwarder)

def Session.time_ref (st : Session) : TimeRef := st.ring.rx.fwd.time_ref

def Session.base (st : Session) : ktime_t := st.time_ref.tv_host_0

/-- The next host clock reading. -/
def Session.reading (st : Session) (env : Env) : ktime_t := env.ktime_get st.ring.rx.clocks

/-- The clock is positive and does not go back. -/
def Session.ClockGoesOn (st : Session) (env : Env) : Prop :=
  0 < st.reading env ∧ st.now ≤ st.reading env

instance (st : Session) (env : Env) : Decidable (st.ClockGoesOn env) :=
  inferInstanceAs (Decidable (_ ∧ _))

/-- The bookkeeping behind a step of the ring: messages stored get the present base, and of
those taken the reports are kept if the reader makes any. -/
def Session.follow (st : Session) (reported : Bool) (ring : RingState) : Session :=
  let arrived := ring.accepted.drop st.ring.accepted.length
  let gone := ring.taken.drop st.ring.taken.length
  { st with
    ring := ring
    arrivals := (st.arrivals ++ arrived.map fun _ => st.base).drop gone.length
    reports :=
      if reported then
        st.reports ++ List.zipWith (fun msg arrival => ⟨⟨msg.hwtstamp, arrival⟩, st.base⟩) gone
          (st.arrivals.take gone.length)
      else st.reports }

/-- One step. A status record is decoded in one go, with no other completion under way;
`elsewhere` is the rest of the driver, which in a session leaves ring and reference alone. -/
def Session.step (st : Session) : SessionAction → Option Session
  | .status env ctx =>
    match st.ring.producer with
    | .idle =>
      if ctx.ibuf ctx.ptr &&& PCAN_USB_STATUSLEN_INTERNAL ≠ 0 ∧ st.ClockGoesOn env then
        some { st with
          ring := { st.ring with rx := (decode_record env ctx st.ring.rx).2.2 }
          now := st.reading env }
      else none
    | _ => none
  | .sample => (st.ring.step .sample).map (st.follow false)
  | .fill env status_len ctx =>
    if st.ClockGoesOn env then
      (st.ring.step (.fill env status_len ctx)).map fun ring =>
        { st.follow false ring with now := st.reading env }
    else none
  | .commit => (st.ring.step .commit).map (st.follow false)
  | .read count => (st.ring.step (.read count)).map (st.follow true)
  -- the ioctl hands out the raw stamp
  | .read_msg => (st.ring.step .read_msg).map (st.follow false)
  | .fd_recv_msgs count => (st.ring.step (.fd_recv_msgs count)).map (st.follow true)
  | .elsewhere fwd =>
    (st.ring.step (.elsewhere { fwd with time_ref := st.time_ref })).map (st.follow false)

/-- The session as a queue of stamps. -/
def Session.queue (st : Session) : Queue where
  epoch := st.bus_up_time
  base := st.base
  waiting := List.zipWith (fun msg arrival => ⟨msg.hwtstamp, arrival⟩) st.ring.dev.unread_msgs
    st.arrivals
  reports := st.reports

/-! ## The invariant -/

/-- What holds all through a session: the base is past, and so is every stamp; a message
under way to the ring is the latest. -/
structure SessionInv (st : Session) : Prop where
  ring : RingInv st.ring
  dormant : Dormant st.time_ref
  base_range : 0 ≤ st.base ∧ st.base ≤ st.now
  arrivals_length : st.ring.dev.unread_msgs.length = st.arrivals.length
  until_now : Until st.queue st.now
  filled : ∀ sample msg, st.ring.producer = .filled sample msg →
    Until st.queue msg.hwtstamp ∧ st.base ≤ msg.hwtstamp ∧ msg.hwtstamp ≤ st.now

/-- The record at the cursor sets the base: a timestamp, first in its packet, with the base
still zero. -/
def Session.SetsBase (st : Session) (ctx : MsgContext) : Prop :=
  st.base = 0 ∧ ctx.rec_idx = 0 ∧ (shape_tick ctx.ibuf ctx.end_ (record_shape ctx.ibuf ctx.end_
    (ctx.rec_idx = 0) (ctx.rec_data_idx = 0) ctx.ptr)).isSome = true

/-- The commit that is due puts this message into the ring. -/
def Session.Stores (st : Session) (msg : ChardevMsg) : Prop :=
  ∃ sample, st.ring.producer = .filled sample msg ∧ sample.chardev_msg.isSome = true

/-- The action neither sets the base nor stores a message. -/
def Session.Quiet (st : Session) : SessionAction → Prop
  | .status _ ctx => ¬ st.SetsBase ctx
  | .commit => ∀ msg, ¬ st.Stores msg
  | _ => True

/-- What a step does to the queue. -/
inductive SessionStep (st : Session) : SessionAction → Session → Prop
  | quiet {action : SessionAction} {st' : Session} (hquiet : st.Quiet action)
      (hqueue : st'.queue = st.queue) : SessionStep st action st'
  | taken {action : SessionAction} {st' : Session} (hquiet : st.Quiet action) (n : ℕ)
      (reported : Bool) (hqueue : st'.queue = st.queue.take n reported) :
    SessionStep st action st'
  | stored {st' : Session} (msg : ChardevMsg) (hstores : st.Stores msg)
      (hqueue : st'.queue = st.queue.arrive msg.hwtstamp) : SessionStep st .commit st'
  | based {env : Env} {ctx : MsgContext} {st' : Session} (hsets : st.SetsBase ctx)
      (hclock : st.ClockGoesOn env) (hqueue : st'.queue = st.queue.rebase (st.reading env)) :
    SessionStep st (.status env ctx) st'

/-! ## Steps of the ring -/

/-- The session remembers at which base each unread message came. -/
theorem follow_arrivals (st : Session) (reported : Bool) (ring : RingState) :
    (st.follow reported ring).arrivals
      = (st.arrivals ++ (ring.accepted.drop st.ring.accepted.length).map fun _ => st.base).drop
          (ring.taken.drop st.ring.taken.length).length := rfl

/-- A read that reports notes, for each message, the base at which it came and the present one. -/
theorem follow_reports (st : Session) (ring : RingState) :
    (st.follow true ring).reports
      = st.reports ++ List.zipWith (fun msg arrival => ⟨⟨msg.hwtstamp, arrival⟩, st.base⟩)
          (ring.taken.drop st.ring.taken.length)
          (st.arrivals.take (ring.taken.drop st.ring.taken.length).length) := rfl

/-- Messages go, and what is left of the ring's history tells which. -/
theorem follow_queue_take {st : Session} (h : SessionInv st) {ring : RingState}
    (hring : RingInv ring) (haccepted : ring.accepted = st.ring.accepted)
    (href : ring.rx.fwd.time_ref = st.time_ref) {msgs : List ChardevMsg}
    (htaken : ring.taken = st.ring.taken ++ msgs) (reported : Bool) :
    (st.follow reported ring).queue = st.queue.take msgs.length reported
      ∧ ring.dev.unread_msgs.length = (st.follow reported ring).arrivals.length := by
  have hgone : ring.taken.drop st.ring.taken.length = msgs := by rw [htaken, List.drop_left]
  have hnone : ring.accepted.drop st.ring.accepted.length = [] := by
    rw [haccepted, List.drop_length]
  have harrivals : (st.follow reported ring).arrivals = st.arrivals.drop msgs.length := by
    rw [follow_arrivals, hgone, hnone, List.map_nil, List.append_nil]
  have hunread : st.ring.dev.unread_msgs = msgs ++ ring.dev.unread_msgs := by
    have hhistory := hring.history
    rw [haccepted, h.ring.history, htaken, List.append_assoc] at hhistory
    exact List.append_cancel_left hhistory
  have hbase : (st.follow reported ring).base = st.base := congrArg TimeRef.tv_host_0 href
  have hdrop : ring.dev.unread_msgs = st.ring.dev.unread_msgs.drop msgs.length := by
    rw [hunread, List.drop_left]
  have htake : msgs = st.ring.dev.unread_msgs.take msgs.length := by
    rw [hunread, List.take_left]
  refine ⟨?_, ?_⟩
  · unfold Session.queue Queue.take
    rw [hbase, harrivals, List.drop_zipWith, ← hdrop]
    refine congrArg (Queue.mk _ _ _) ?_
    cases reported with
    | false => rfl
    | true =>
      rw [follow_reports, hgone, if_pos rfl, List.take_zipWith, ← htake, List.map_zipWith]
  · rw [harrivals, hdrop, List.length_drop, List.length_drop, h.arrivals_length]

/-- A step of the ring that stores nothing. A message newly under way carries the clock's
last reading. -/
theorem SessionInv.took {st : Session} (h : SessionInv st) {ring : RingState}
    (hring : RingInv ring) (haccepted : ring.accepted = st.ring.accepted)
    (href : ring.rx.fwd.time_ref = st.time_ref) {msgs : List ChardevMsg}
    (htaken : ring.taken = st.ring.taken ++ msgs) (reported : Bool) {now : ktime_t}
    (hnow : st.now ≤ now)
    (hfilled : ∀ sample msg, ring.producer = .filled sample msg →
      st.ring.producer = .filled sample msg ∨ msg.hwtstamp = now) :
    SessionInv { st.follow reported ring with now := now } := by
  obtain ⟨hqueue, hlength⟩ := follow_queue_take h hring haccepted href htaken reported
  have hbase : (st.follow reported ring).base = st.base := congrArg TimeRef.tv_host_0 href
  have huntil : ∀ {t : ktime_t}, Until st.queue t → Until (st.follow reported ring).queue t :=
    fun hbefore => hqueue ▸ hbefore.take msgs.length reported
  refine ⟨hring, ?_, ?_, hlength, huntil (h.until_now.mono hnow), ?_⟩
  · exact (href ▸ h.dormant :)
  · exact ⟨hbase ▸ h.base_range.1, (hbase ▸ h.base_range.2).trans hnow⟩
  · intro sample msg hproducer
    rcases hfilled sample msg hproducer with hold | hnew
    · obtain ⟨hbefore, hlow, hhigh⟩ := h.filled sample msg hold
      exact ⟨huntil hbefore, hbase ▸ hlow, hhigh.trans hnow⟩
    · rw [hnew]
      exact ⟨huntil (h.until_now.mono hnow), (hbase ▸ h.base_range.2).trans hnow, le_rfl⟩

/-- A step of the ring that stores the message under way. -/
theorem SessionInv.stored {st : Session} (h : SessionInv st) {ring : RingState}
    (hring : RingInv ring) (href : ring.rx.fwd.time_ref = st.time_ref) {sample : RxSample}
    {msg : ChardevMsg} (hfilled : st.ring.producer = .filled sample msg)
    (haccepted : ring.accepted = st.ring.accepted ++ [msg])
    (htaken : ring.taken = st.ring.taken) (hidle : ring.producer = .idle) :
    SessionInv (st.follow false ring)
      ∧ (st.follow false ring).queue = st.queue.arrive msg.hwtstamp := by
  have hnone : ring.taken.drop st.ring.taken.length = [] := by rw [htaken, List.drop_length]
  have harrivals : (st.follow false ring).arrivals = st.arrivals ++ [st.base] := by
    rw [follow_arrivals, hnone, haccepted, List.drop_left]
    rfl
  have hunread : ring.dev.unread_msgs = st.ring.dev.unread_msgs ++ [msg] := by
    have hhistory := hring.history
    rw [haccepted, h.ring.history, htaken, List.append_assoc] at hhistory
    exact (List.append_cancel_left hhistory).symm
  have hbase : (st.follow false ring).base = st.base := congrArg TimeRef.tv_host_0 href
  have hqueue : (st.follow false ring).queue = st.queue.arrive msg.hwtstamp := by
    unfold Session.queue Queue.arrive
    rw [hbase, harrivals, show (st.follow false ring).ring = ring from rfl, hunread,
      List.zipWith_append h.arrivals_length]
    rfl
  obtain ⟨huntil, hlow, hhigh⟩ := h.filled sample msg hfilled
  refine ⟨⟨hring, ?_, ?_, ?_, ?_, ?_⟩, hqueue⟩
  · exact (href ▸ h.dormant :)
  · exact ⟨hbase ▸ h.base_range.1, hbase ▸ h.base_range.2⟩
  · rw [harrivals, List.length_append, ← h.arrivals_length]
    exact (congrArg List.length hunread).trans (List.length_append ..)
  · rw [hqueue]
    exact h.until_now.arrive hhigh
  · intro sample' msg' hproducer
    rw [show (st.follow false ring).ring.producer = .idle from hidle] at hproducer
    cases hproducer

/-- A reader changes nothing but what is unread and what is taken. -/
theorem take_out_effect (st : RingState)
    (section_ : Chardev → Except Int (List ChardevMsg) × Chardev) :
    (st.take_out section_).producer = st.producer
      ∧ (st.take_out section_).accepted = st.accepted
      ∧ (st.take_out section_).rx.fwd.time_ref = st.rx.fwd.time_ref
      ∧ ∃ msgs, (st.take_out section_).taken = st.taken ++ msgs := by
  unfold RingState.take_out
  generalize section_ st.dev = result
  obtain ⟨_ | msgs, dev⟩ := result
  · exact ⟨rfl, rfl, rfl, [], (List.append_nil _).symm⟩
  · exact ⟨rfl, rfl, rfl, msgs, rfl⟩

/-! ## Steps of the session -/

/-- A read reports the messages that waited longest. -/
theorem SessionInv.read {st : Session} (h : SessionInv st) (action : SessionAction)
    (hquiet : st.Quiet action) (section_ : Chardev → Except Int (List ChardevMsg) × Chardev)
    (hring : RingInv (st.ring.take_out section_)) (reported : Bool) :
    SessionInv (st.follow reported (st.ring.take_out section_))
      ∧ SessionStep st action (st.follow reported (st.ring.take_out section_)) := by
  obtain ⟨hproducer, haccepted, href, msgs, htaken⟩ := take_out_effect st.ring section_
  refine ⟨h.took hring haccepted href htaken reported le_rfl fun sample msg hfilled => ?_,
    .taken hquiet msgs.length reported (follow_queue_take h hring haccepted href htaken reported).1⟩
  exact .inl (hproducer ▸ hfilled)

/-- The message a fill leaves under way is stamped by the clock. -/
theorem fill_hwtstamp {env : Env} {sample : RxSample} {status_len : u8} {ctx ctx' : MsgContext}
    {s s' : RxState} {msg : ChardevMsg}
    (h : DataFill env sample status_len ctx s (.ok msg) ctx' s')
    (hdormant : Dormant s.fwd.time_ref) : msg.hwtstamp = env.ktime_get s.clocks := by
  cases h with
  | skb_fits => exact compute_kernel_time_of_dormant hdormant _ _
  | slot_fits => exact compute_kernel_time_of_dormant hdormant _ _

/-- A record that is decoded moves the clock on. -/
theorem SessionInv.fill {st st' : Session} (h : SessionInv st) {env : Env} {status_len : u8}
    {ctx : MsgContext} (hstep : st.step (.fill env status_len ctx) = some st') :
    SessionInv st' ∧ SessionStep st (.fill env status_len ctx) st' := by
  obtain ⟨hclock, hmap⟩ := Option.ite_none_right_eq_some.mp hstep
  obtain ⟨ring, hring, rfl⟩ := Option.map_eq_some_iff.mp hmap
  have hinv := ringInv_step _ _ _ h.ring hring
  rw [RingState.step] at hring
  split at hring
  · rename_i sample hsampled
    have hfill := decode_data_fill_cases env sample status_len ctx st.ring.rx
    generalize decode_data_fill env sample status_len ctx st.ring.rx = filled at hring hfill
    obtain ⟨_ | msg, ctx', rx⟩ := filled
    -- a failed fill ends the completion
    · obtain rfl := Option.some.inj hring
      have htaken := (List.append_nil st.ring.taken).symm
      have hidle : ∀ sample msg, Producer.idle ≠ .filled sample msg := fun _ _ h => by cases h
      exact ⟨h.took hinv rfl hfill.time_ref_eq htaken false hclock.2
          fun sample msg hfilled => absurd hfilled (hidle sample msg),
        .taken trivial 0 false (follow_queue_take h hinv rfl hfill.time_ref_eq htaken false).1⟩
    · obtain rfl := Option.some.inj hring
      have htaken := (List.append_nil st.ring.taken).symm
      refine ⟨h.took hinv rfl hfill.time_ref_eq htaken false hclock.2 fun sample' msg' hnew => ?_,
        .taken trivial 0 false (follow_queue_take h hinv rfl hfill.time_ref_eq htaken false).1⟩
      obtain ⟨-, rfl⟩ := Producer.filled.inj hnew
      exact .inr (fill_hwtstamp hfill h.dormant)
  · cases hring

/-- A message that is committed waits at the present base. -/
theorem SessionInv.commit {st st' : Session} (h : SessionInv st)
    (hstep : st.step .commit = some st') : SessionInv st' ∧ SessionStep st .commit st' := by
  obtain ⟨ring, hring, rfl⟩ := Option.map_eq_some_iff.mp hstep
  have hinv := ringInv_step _ _ _ h.ring hring
  rw [RingState.step] at hring
  split at hring
  · rename_i sample msg hfilled
    obtain rfl := Option.some.inj hring
    by_cases hslot : sample.chardev_msg.isSome = true
    · obtain ⟨hnext, hqueue⟩ := h.stored hinv rfl hfilled (if_pos hslot) rfl rfl
      exact ⟨hnext, .stored msg ⟨sample, hfilled, hslot⟩ hqueue⟩
    -- no slot was sampled, so the message is not for the ring
    · have hquiet : st.Quiet .commit := by
        rintro msg' ⟨sample', hfilled', hsome⟩
        obtain ⟨rfl, -⟩ := Producer.filled.inj (hfilled.symm.trans hfilled')
        exact hslot hsome
      have htaken := (List.append_nil st.ring.taken).symm
      have hidle : ∀ sample msg, Producer.idle ≠ .filled sample msg := fun _ _ h => by cases h
      exact ⟨h.took hinv (if_neg hslot) rfl htaken false le_rfl
          fun sample msg hfilled => absurd hfilled (hidle sample msg),
        .taken hquiet 0 false (follow_queue_take h hinv (if_neg hslot) rfl htaken false).1⟩
  · cases hring

/-- A status record moves the reference, and with it the base at most. -/
theorem SessionInv.status {st st' : Session} (h : SessionInv st) {env : Env} {ctx : MsgContext}
    (hstep : st.step (.status env ctx) = some st') :
    SessionInv st' ∧ SessionStep st (.status env ctx) st' := by
  rw [Session.step] at hstep
  split at hstep
  · rename_i hidle
    obtain ⟨⟨hint, hclock⟩, heq⟩ := Option.ite_none_right_eq_some.mp hstep
    obtain rfl := Option.some.inj heq
    have hdev := decode_status_char_dev env (ctx.ibuf ctx.ptr) (ctx.take 1 1) st.ring.rx
    rw [← decode_record_of_status hint] at hdev
    have href : (decode_record env ctx st.ring.rx).2.2.fwd.time_ref
        = st.time_ref.after (shape_calls (st.reading env) ctx.ibuf ctx.end_ (ctx.rec_idx = 0)
          (record_shape ctx.ibuf ctx.end_ (ctx.rec_idx = 0) (ctx.rec_data_idx = 0) ctx.ptr)) :=
      decode_record_time_ref env ctx st.ring.rx
    generalize (decode_record env ctx st.ring.rx).2.2 = rx at hdev href
    have hbase := congrArg TimeRef.tv_host_0 href
    rw [base_after_shape_calls h.dormant] at hbase
    have hdormant : Dormant rx.fwd.time_ref := href ▸ dormant_after _ h.dormant
    -- the ring is the same, whatever else the record changed
    have hsame : RingState.dev { st.ring with rx := rx } = st.ring.dev := hdev
    have hring : RingInv { st.ring with rx := rx } := by
      obtain ⟨hcount, hidx, hopen, hhistory, hgood⟩ := h.ring
      exact ⟨hsame ▸ hcount, hsame ▸ hidx, hsame ▸ hopen, hsame ▸ hhistory, hsame ▸ hgood⟩
    have hqueue : Session.queue { st with
          ring := { st.ring with rx := rx }
          now := st.reading env }
        = st.queue.rebase rx.fwd.time_ref.tv_host_0 := by
      unfold Session.queue Queue.rebase
      rw [hsame]
      rfl
    have hinv : (0 ≤ rx.fwd.time_ref.tv_host_0 ∧ rx.fwd.time_ref.tv_host_0 ≤ st.reading env) →
        SessionInv { st with ring := { st.ring with rx := rx }, now := st.reading env } := by
      intro hrange
      refine ⟨hring, hdormant, hrange, ?_, ?_, ?_⟩
      · rw [hsame]
        exact h.arrivals_length
      · rw [hqueue]
        exact (h.until_now.mono hclock.2).rebase _
      · intro sample msg hfilled
        cases hidle.symm.trans hfilled
    by_cases hsets : st.SetsBase ctx
    · rw [if_pos ⟨hsets.1, by simpa using hsets.2.1, hsets.2.2⟩] at hbase
      rw [hbase] at hinv hqueue
      exact ⟨hinv ⟨hclock.1.le, le_rfl⟩, .based hsets hclock hqueue⟩
    · rw [if_neg fun hif => hsets ⟨hif.1, by simpa using hif.2.1, hif.2.2⟩] at hbase
      rw [hbase] at hinv hqueue
      exact ⟨hinv ⟨h.base_range.1, h.base_range.2.trans hclock.2⟩, .quiet hsets hqueue⟩
  · cases hstep

/-- Every step keeps the invariant, and is one of the queue's. -/
theorem session_step {st st' : Session} {action : SessionAction} (h : SessionInv st)
    (hstep : st.step action = some st') : SessionInv st' ∧ SessionStep st action st' := by
  cases action with
  | status env ctx => exact h.status hstep
  | fill env status_len ctx => exact h.fill hstep
  | commit => exact h.commit hstep
  | sample =>
    obtain ⟨ring, hring, rfl⟩ := Option.map_eq_some_iff.mp hstep
    have hinv := ringInv_step _ _ _ h.ring hring
    rw [RingState.step] at hring
    split at hring
    · obtain rfl := Option.some.inj hring
      have htaken := (List.append_nil st.ring.taken).symm
      have hsampled : ∀ sample sample' msg, Producer.sampled sample ≠ .filled sample' msg :=
        fun _ _ _ h => by cases h
      exact ⟨h.took hinv rfl rfl htaken false le_rfl
          fun sample msg hfilled => absurd hfilled (hsampled _ sample msg),
        .taken trivial 0 false (follow_queue_take h hinv rfl rfl htaken false).1⟩
    · cases hring
  | read count =>
    obtain ⟨ring, hring, rfl⟩ := Option.map_eq_some_iff.mp hstep
    have hinv := ringInv_step _ _ _ h.ring hring
    obtain ⟨-, heq⟩ := Option.ite_none_right_eq_some.mp hring
    obtain rfl := Option.some.inj heq
    exact h.read (.read count) trivial _ hinv true
  | read_msg =>
    rw [Session.step] at hstep
    obtain ⟨ring, hring, rfl⟩ := Option.map_eq_some_iff.mp hstep
    have hinv := ringInv_step _ _ _ h.ring hring
    obtain rfl := Option.some.inj hring
    exact h.read (.read_msg) trivial _ hinv false
  | fd_recv_msgs count =>
    obtain ⟨ring, hring, rfl⟩ := Option.map_eq_some_iff.mp hstep
    have hinv := ringInv_step _ _ _ h.ring hring
    obtain ⟨-, heq⟩ := Option.ite_none_right_eq_some.mp hring
    obtain rfl := Option.some.inj heq
    exact h.read (.fd_recv_msgs count) trivial _ hinv true
  | elsewhere fwd =>
    rw [Session.step] at hstep
    obtain ⟨ring, hring, rfl⟩ := Option.map_eq_some_iff.mp hstep
    have hinv := ringInv_step _ _ _ h.ring hring
    obtain rfl := Option.some.inj hring
    have htaken := (List.append_nil st.ring.taken).symm
    exact ⟨h.took hinv rfl rfl htaken false le_rfl fun _ _ hfilled => .inl hfilled,
      .taken trivial 0 false (follow_queue_take h hinv rfl rfl htaken false).1⟩

/-! ## Packets are runs

A packet is decoded by steps of the machine, a record at a time, if the host clock of its
completion goes on from the last reading. -/

section Packets

variable {env : Env} (hpos : ∀ k, 0 < env.ktime_get k) (hmono : Monotone env.ktime_get)
include hpos hmono

/-- What a record does is a run of the session. -/
theorem run_decode_record {st : Session} (hidle : st.ring.producer = .idle)
    (hnow : st.now ≤ st.reading env) (ctx : MsgContext) :
    ∃ actions st', Runs.run Session.step st actions = some st'
      ∧ st'.ring.rx = (decode_record env ctx st.ring.rx).2.2 ∧ st'.ring.producer = .idle
      ∧ st'.now ≤ st'.reading env := by
  have hclock : st.ClockGoesOn env := ⟨hpos _, hnow⟩
  have hlater := hmono (clocks_frame.decode_record env ctx st.ring.rx)
  by_cases hint : ctx.ibuf ctx.ptr &&& PCAN_USB_STATUSLEN_INTERNAL ≠ 0
  · refine ⟨[.status env ctx], { st with
        ring := { st.ring with rx := (decode_record env ctx st.ring.rx).2.2 }
        now := st.reading env }, ?_, rfl, hidle, hlater⟩
    rw [Runs.run, Session.step, hidle]
    dsimp only
    rw [if_pos ⟨hint, hclock⟩]
    rfl
  · have hrecord : (decode_record env ctx st.ring.rx).2.2
        = (decode_data env (ctx.ibuf ctx.ptr) (ctx.take 1 1) st.ring.rx).2.2 := by
      unfold decode_record
      dsimp only
      rw [if_neg (show ¬ ctx.peek 0 &&& PCAN_USB_STATUSLEN_INTERNAL ≠ 0 from hint)]
      rfl
    obtain ⟨ring', hrun, hrx, hidle'⟩ := run_decode_data st.ring hidle env (ctx.ibuf ctx.ptr)
      (ctx.take 1 1)
    rw [List.cons_append, List.cons_append, List.nil_append] at hrun
    obtain ⟨ring₁, hsample, hrun⟩ := (Runs.run_cons_eq_some _).mp hrun
    obtain ⟨ring₂, hfill, hrun⟩ := (Runs.run_cons_eq_some _).mp hrun
    have hsampled : ring₁.rx = st.ring.rx := by
      rw [RingState.step, hidle] at hsample
      obtain rfl := Option.some.inj hsample
      rfl
    let st₁ := st.follow false ring₁
    let st₂ : Session := { st₁.follow false ring₂ with now := st.reading env }
    have hreading : st₁.reading env = st.reading env :=
      congrArg (fun rx : RxState => env.ktime_get rx.clocks) hsampled
    have hfirst : st.step .sample = some st₁ := congrArg (Option.map (st.follow false)) hsample
    have hsecond : st₁.step (.fill env (ctx.ibuf ctx.ptr) (ctx.take 1 1)) = some st₂ := by
      rw [Session.step, if_pos (by rw [Session.ClockGoesOn, hreading]; exact hclock),
        show st₁.ring.step _ = _ from hfill, hreading]
      rfl
    rw [hrecord, ← hrx] at hlater ⊢
    split at hrun
    · obtain ⟨ring₃, hcommit, hdone⟩ := (Runs.run_cons_eq_some _).mp hrun
      obtain rfl := Option.some.inj hdone
      have hthird : st₂.step .commit = some (st₂.follow false ring₃) :=
        congrArg (Option.map (st₂.follow false)) hcommit
      refine ⟨[.sample, .fill env (ctx.ibuf ctx.ptr) (ctx.take 1 1), .commit],
        st₂.follow false ring₃, ?_, rfl, hidle', hlater⟩
      rw [Runs.run, hfirst, Option.bind_some, Runs.run, hsecond, Option.bind_some, Runs.run, hthird]
      rfl
    · obtain rfl := Option.some.inj hrun
      refine ⟨[.sample, .fill env (ctx.ibuf ctx.ptr) (ctx.take 1 1)], st₂, ?_, rfl, hidle', hlater⟩
      rw [Runs.run, hfirst, Option.bind_some, Runs.run, hsecond]
      rfl

/-- What the loop does is a run of the session. -/
theorem run_decode_records (fuel : ℕ) : ∀ (err : Int) (ctx : MsgContext) {st : Session},
    st.ring.producer = .idle → st.now ≤ st.reading env →
    ∃ actions st', Runs.run Session.step st actions = some st'
      ∧ st'.ring.rx = (decode_records env fuel err ctx st.ring.rx).2.2
      ∧ st'.ring.producer = .idle ∧ st'.now ≤ st'.reading env := by
  induction fuel with
  | zero => exact fun _ _ st hidle hnow => ⟨[], st, rfl, rfl, hidle, hnow⟩
  | succ fuel ih =>
    intro err ctx st hidle hnow
    rw [decode_records]
    split
    · obtain ⟨actions, st₁, hrun, hrx, hidle₁, hnow₁⟩ :=
        run_decode_record hpos hmono hidle hnow ctx
      obtain ⟨actions', st₂, hrun', hrx', hidle₂, hnow₂⟩ := ih (decode_record env ctx st.ring.rx).1
        { (decode_record env ctx st.ring.rx).2.1 with
          rec_idx := (decode_record env ctx st.ring.rx).2.1.rec_idx + 1 } hidle₁ hnow₁
      rw [hrx] at hrx'
      exact ⟨actions ++ actions', st₂, Runs.run_append _ hrun hrun', hrx', hidle₂, hnow₂⟩
    · exact ⟨[], st, rfl, rfl, hidle, hnow⟩

/-- A whole transfer is a run of the session. -/
theorem run_handle_urb {st : Session} (hidle : st.ring.producer = .idle)
    (hnow : st.now ≤ st.reading env) (transfer_buffer : ℕ → u8) (actual_length : ℕ) :
    ∃ actions st', Runs.run Session.step st actions = some st'
      ∧ st'.ring.rx
        = (pcan_decode_and_handle_urb env transfer_buffer actual_length st.ring.rx).2
      ∧ st'.ring.producer = .idle ∧ st'.now ≤ st'.reading env := by
  unfold pcan_decode_and_handle_urb
  split
  · exact run_decode_records hpos hmono 256 0 (MsgContext.start transfer_buffer actual_length)
      hidle hnow
  split
  · exact ⟨[], st, rfl, rfl, hidle, hnow⟩
  · exact ⟨[], st, rfl, rfl, hidle, hnow⟩

end Packets

end DualPcanUsb
