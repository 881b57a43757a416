/-
Sleeping for a message: `wait_event_interruptible` and `poll` on `wait_queue_rd`.

The calls of `Teardown` that block do not spin in their wait. A call looks at the condition
once, queues up, looks again, and sleeps if neither half of it holds; `poll` queues up and
looks at the message count only. Two places wake the queue: `decode_data` behind its commit,
and the destroy work where it finds operations pending. `pcan_usb_plugout` sets the stage
back and wakes nobody.

With the queue taken away the machine is the one of `Teardown`, some of its steps being none.
A call waits in the phases `wait_unread` and `wait_stage`; its entry in the queue says
whether it has looked already, and whether it sleeps. The write side never blocks and has no
queue here. Of the kernel's `poll` loop the machine keeps the passes over the file; its
caller asks for `POLLIN`.
-/
import DualPcanUsb.PendingOps
import DualPcanUsb.Lib.WaitQueue

set_option autoImplicit false

namespace DualPcanUsb

open WaitQueue

/-! ## The condition and the waiters -/

/-- The halves of the condition, in the order they are looked at. -/
inductive WaitCond
  | unread | disconnected
deriving DecidableEq, Repr

/-- Who can be on `wait_queue_rd`. -/
inductive Sleeper
  | call (i : ℕ)
  | poll (i : ℕ)
deriving DecidableEq, Repr

/-- A pass of `poll`: `pcan_chardev_poll` up to the count, then the sleep between passes. -/
inductive PollPhase
  | precheck
  | poll_wait
  | look
  | schedule
  | returned (mask : u32)
deriving DecidableEq, Repr

/-- `committed`: `decode_data` is between its commit and its wake-up. `waking`: the destroy
work is between the stage and its wake-up. -/
structure WaitState where
  td : Teardown
  polls : List PollPhase
  wait_queue_rd : Sleeper → Waiter WaitCond
  committed : Bool
  waking : Bool

def Teardown.holds (st : Teardown) : WaitCond → Bool
  | .unread => decide (0 < st.rx_unread_cnt)
  | .disconnected => decide (st.stage < PCAN_USB_STAGE_ONE_STARTED)

/-- One step of a call with its entry in the queue. -/
def Call.wait_event_interruptible (outcome : Int) (call : Call) (entry : Waiter WaitCond)
    (st : Teardown) : Option ((CallPhase × Waiter WaitCond) × Teardown) :=
  match call.phase, entry with
  -- asleep
  | _, .on true _ => none
  -- `prepare_to_wait_event`, round the loop
  | .wait_unread, .woken => some ((.wait_unread, .on false []), st)
  -- both halves seen: `schedule`
  | .wait_unread, .on false (p :: seen) => some ((.wait_unread, .on true (p :: seen)), st)
  | .wait_unread, entry =>
    (call.operate outcome st).map fun (phase, st) =>
      ((phase, if phase = .wait_stage then entry.look .unread else .off), st)
  | .wait_stage, .off =>
    -- the first look comes before the queue, and before any signal
    (call.operate 0 st).map fun (phase, st) =>
      ((phase, if phase = .wait_unread then .on false [] else .off), st)
  | .wait_stage, entry =>
    (call.operate outcome st).map fun (phase, st) =>
      ((phase, if phase = .wait_unread then entry.look .disconnected else .off), st)
  | _, entry => (call.operate outcome st).map fun (phase, st) => ((phase, entry), st)

/-- One step of a `poll`; `outcome` tells of a signal, or that its time is up. -/
def PollPhase.step (outcome : Int) (entry : Waiter WaitCond) (st : Teardown) :
    PollPhase → Option (PollPhase × Waiter WaitCond)
  | .precheck =>
    some (
      if st.stage < PCAN_USB_STAGE_ONE_STARTED then (.returned POLLERR, .off)
      -- later passes are on the queue already
      else if entry = .off then (.poll_wait, .off) else (.look, entry))
  | .poll_wait => some (.look, .on false [])
  | .look =>
    some (
      if st.rx_unread_cnt > 0 then
        (.returned ((POLLIN ||| POLLRDNORM) ||| (POLLOUT ||| POLLWRNORM)), .off)
      else (.schedule, entry.look .unread))
  | .schedule =>
    if outcome ≠ 0 then some (.returned 0, .off)
    else
      match entry with
      | .on true _ => none
      | .on false seen => some (.schedule, .on true seen)
      | _ => some (.precheck, .on false [])
  | .returned _ => none

/-! ## The machine -/

def CallPhase.ended : CallPhase → Bool
  | .returned _ => true
  | _ => false

def PollPhase.ended : PollPhase → Bool
  | .returned _ => true
  | _ => false

/-- No operation on the file is in flight. -/
def WaitState.quiet (w : WaitState) : Bool :=
  w.td.calls.all (fun call => call.phase.ended) && w.polls.all PollPhase.ended

def WaitState.wake_up_interruptible (w : WaitState) : WaitState :=
  { w with wait_queue_rd := fun who => (w.wait_queue_rd who).wake }

inductive WaitAction
  | enter (request : Request) (nonblock : Bool)
  | advance (i : ℕ) (outcome : Int)
  | signal (i : ℕ)
  | poll
  | poll_advance (i : ℕ) (outcome : Int)
  | commit (sample : RxSample)
  | wake_up
  | plugout
  | destroy
  | elsewhere (fwd : Forwarder)

/-- One step. The rest of the driver takes no message into the ring, and its stage stays
with the file: it is set back when the file is released, behind all operations on it. -/
def WaitState.step (w : WaitState) : WaitAction → Option WaitState
  | .enter request nonblock =>
    (w.td.step (.enter request nonblock)).map fun td => { w with td := td }
  | .advance i outcome =>
    match w.td.calls[i]? with
    | some call =>
      (call.wait_event_interruptible outcome (w.wait_queue_rd (.call i)) w.td).map
        fun ((phase, entry), td) =>
          { w with
            td := { td with calls := td.calls.set i { call with phase := phase } }
            wait_queue_rd := Function.update w.wait_queue_rd (.call i) entry }
    | none => none
  | .signal i =>
    match w.wait_queue_rd (.call i) with
    | .on true _ =>
      some { w with wait_queue_rd := Function.update w.wait_queue_rd (.call i) .woken }
    | _ => none
  | .poll => some { w with polls := w.polls ++ [.precheck] }
  | .poll_advance i outcome =>
    match w.polls[i]? with
    | some phase =>
      (phase.step outcome (w.wait_queue_rd (.poll i)) w.td).map fun (phase, entry) =>
        { w with
          polls := w.polls.set i phase
          wait_queue_rd := Function.update w.wait_queue_rd (.poll i) entry }
    | none => none
  | .commit sample =>
    if w.committed then none
    else
      some { w with
        td := w.td.set_char_dev (decode_data_commit sample w.td.fwd.char_dev)
        committed := sample.chardev_msg.isSome }
  | .wake_up => if w.committed then some { w.wake_up_interruptible with committed := false } else none
  | .plugout => w.td.pcan_usb_plugout.map fun td => { w with td := td }
  | .destroy =>
    if w.waking then some { w.wake_up_interruptible with waking := false }
    else
      w.td.destroy_usb_forwarder.map fun td =>
        { w with td := td, waking := w.td.destroy = .resched }
  | .elsewhere fwd =>
    if fwd.char_dev.rx_unread_cnt ≤ w.td.rx_unread_cnt
        ∧ (w.td.plugout = .connected → PCAN_USB_STAGE_ONE_STARTED ≤ fwd.stage ∨ w.quiet = true) then
      (w.td.step (.elsewhere fwd)).map fun td => { w with td := td }
    else none

/-! ## Reads of more than a message -/

/-- A read whose count was checked. -/
def Call.checked (call : Call) : Prop :=
  ∀ count : ℕ, call.request = .read count → call.phase.ended = false →
    PCAN_CHRDEV_MAX_BYTES_PER_READ < count

/-- Every request enters at its check. -/
theorem entry_checked (request : Request) (nonblock : Bool) :
    Call.checked ⟨request, nonblock, request.entry⟩ := by
  rintro count rfl hlive
  by_contra hshort
  rw [show Request.entry (.read count) = .returned (-EINVAL) from if_neg hshort] at hlive
  cases hlive

/-- A call goes through the phases of its own kind. -/
theorem operate_checked {outcome : Int} {call : Call} {st st' : Teardown} {phase' : CallPhase}
    (h : call.checked) (hop : call.operate outcome st = some (phase', st')) :
    Call.checked { call with phase := phase' } := by
  intro count hread _
  refine h count hread ?_
  obtain ⟨request, nonblock, phase⟩ := call
  cases phase with
  | returned ret => cases hop
  | _ => rfl

/-- Reading does not add messages. -/
theorem read_section_unread_le {msgs_to_read : Int} (hwant : 0 ≤ msgs_to_read) (dev : Chardev) :
    (read_section msgs_to_read dev).2.rx_unread_cnt ≤ dev.rx_unread_cnt := by
  unfold read_section
  dsimp only
  split
  · exact le_rfl
  · dsimp only
    split <;> omega

/-- The number of messages asked for is a number. -/
theorem section_unread_le {call : Call} (h : call.checked) (hlocked : call.phase = .locked)
    (dev : Chardev) : (call.request.section_ dev).2.rx_unread_cnt ≤ dev.rx_unread_cnt := by
  obtain ⟨request, nonblock, phase⟩ := call
  obtain rfl : phase = .locked := hlocked
  cases request with
  | read count =>
    have hlong : (80 : Int) < count := h count rfl rfl
    have hone : 1 ≤ count / 80 := (Nat.le_div_iff_mul_le (by decide)).mpr (by omega)
    refine read_section_unread_le ?_ dev
    change (0 : Int) ≤ ((count / 80 : ℕ) : Int) + if count % 80 ≠ 0 then 0 else -1
    split <;> omega
  | ioctl cmd =>
    cases cmd with
    | read_msg => exact read_section_unread_le (by decide) dev
    | fd_recv_msgs count => exact read_section_unread_le (Int.natCast_nonneg _) dev
    | other ret => exact le_rfl

/-- A step of a call takes messages at most, and none in its wait. -/
theorem operate_unread_le {outcome : Int} {call : Call} {st st' : Teardown} {phase' : CallPhase}
    (h : call.checked) (hop : call.operate outcome st = some (phase', st')) :
    st'.rx_unread_cnt ≤ st.rx_unread_cnt := by
  unfold Call.operate at hop
  split at hop <;> cases hop <;> try exact le_rfl
  rename_i hlocked
  exact section_unread_le h hlocked st.fwd.char_dev

/-! ## A call in its wait -/

/-- The places of a call's entry: on the queue it is between its second look and its sleep,
with what it has seen there. -/
inductive Waits : CallPhase → Waiter WaitCond → Prop
  | off (phase : CallPhase) : Waits phase .off
  | woken_unread : Waits .wait_unread .woken
  | woken_stage : Waits .wait_stage .woken
  | queued : Waits .wait_unread (.on false [])
  | unread : Waits .wait_stage (.on false [.unread])
  | both (asleep : Bool) : Waits .wait_unread (.on asleep [.disconnected, .unread])

/-- A call on the queue is counted in `pending_ops`. -/
theorem Waits.counted {phase : CallPhase} {entry : Waiter WaitCond} (h : Waits phase entry)
    (hentry : entry ≠ .off) : phase.role = .counted := by
  cases h with
  | off => exact absurd rfl hentry
  | _ => rfl

/-- What a step does to an entry: nothing new is seen, or a half that does not hold. -/
inductive EntryMoved (st : Teardown) (entry entry' : Waiter WaitCond) : Prop
  | move (hseen : ∀ p ∈ entry'.seen, p ∈ entry.seen)
  | look (p : WaitCond) (hfalse : st.holds p = false) (heq : entry' = entry.look p)

theorem holds_unread_eq_false {st : Teardown} (h : ¬ st.rx_unread_cnt > 0) :
    st.holds .unread = false := decide_eq_false h

theorem holds_disconnected_eq_false {st : Teardown} (h : ¬ st.stage < PCAN_USB_STAGE_ONE_STARTED) :
    st.holds .disconnected = false := decide_eq_false h

/-- Behind its wait a call does not wait again. -/
theorem waited_behind (map_umem : Bool) (request : Request) :
    request.waited map_umem ≠ .wait_stage ∧ request.waited map_umem ≠ .wait_unread := by
  unfold Request.waited
  split
  · split <;> exact ⟨nofun, nofun⟩
  · exact ⟨nofun, nofun⟩
  · exact ⟨nofun, nofun⟩

/-- Looking at the count, by a call that blocks. -/
theorem operate_wait_unread {outcome : Int} {call : Call} {st st' : Teardown} {phase' : CallPhase}
    (hphase : call.phase = .wait_unread) (hop : call.operate outcome st = some (phase', st')) :
    st' = st ∧ (phase' = .wait_stage ∧ st.holds .unread = false
      ∨ phase' ≠ .wait_stage ∧ phase' ≠ .wait_unread) := by
  simp only [Call.operate, hphase, Option.some.injEq, Prod.mk.injEq] at hop
  obtain ⟨rfl, rfl⟩ := hop
  refine ⟨rfl, ?_⟩
  split
  · right
    split
    · exact waited_behind st.map_umem call.request
    · exact ⟨nofun, nofun⟩
  · rename_i hunread
    split
    · exact .inr ⟨nofun, nofun⟩
    · exact .inl ⟨rfl, holds_unread_eq_false hunread⟩

/-- The first part of the condition ends the wait, or leads to the second. -/
theorem operate_wait_stage {outcome : Int} {call : Call} {st st' : Teardown} {phase' : CallPhase}
    (hphase : call.phase = .wait_stage) (hop : call.operate outcome st = some (phase', st')) :
    st' = st ∧ (phase' = .wait_unread ∧ st.holds .disconnected = false
      ∨ phase' ≠ .wait_stage ∧ phase' ≠ .wait_unread) := by
  simp only [Call.operate, hphase, Option.some.injEq, Prod.mk.injEq] at hop
  obtain ⟨rfl, rfl⟩ := hop
  refine ⟨rfl, ?_⟩
  split
  · exact .inr ⟨nofun, nofun⟩
  · rename_i hstage
    split
    · exact .inr ⟨nofun, nofun⟩
    · exact .inl ⟨rfl, holds_disconnected_eq_false hstage⟩

/-- A step of a call with its entry: one of the call, or none, and the entry follows. -/
structure WaitStepped (call : Call) (entry : Waiter WaitCond) (st : Teardown) (phase' : CallPhase)
    (entry' : Waiter WaitCond) (st' : Teardown) : Prop where
  call_step : phase' = call.phase ∧ st' = st
    ∨ ∃ outcome, call.operate outcome st = some (phase', st')
  waits : Waits phase' entry'
  moved : EntryMoved st entry entry'
  waiting_st : entry ≠ .off → st' = st

theorem EntryMoved.to_off (st : Teardown) (entry : Waiter WaitCond) : EntryMoved st entry .off :=
  .move (by simp)

/-- Waiting in the phase `wait_unread`, the call looks at the count. -/
theorem looked_at_unread (outcome : Int) {call : Call} {entry entry' : Waiter WaitCond}
    {st st' : Teardown} {phase' : CallPhase} (hphase : call.phase = .wait_unread)
    (hqueue : Waits .wait_stage (entry.look .unread))
    (h : (call.operate outcome st).map (fun (phase, st) =>
      ((phase, if phase = .wait_stage then entry.look .unread else .off), st))
        = some ((phase', entry'), st')) : WaitStepped call entry st phase' entry' st' := by
  obtain ⟨⟨phase₁, st₁⟩, hop, heq⟩ := Option.map_eq_some_iff.mp h
  cases heq
  obtain ⟨rfl, ⟨rfl, hfalse⟩ | ⟨hne, -⟩⟩ := operate_wait_unread hphase hop
  · rw [if_pos rfl]
    exact ⟨.inr ⟨outcome, hop⟩, hqueue, .look .unread hfalse rfl, fun _ => rfl⟩
  · rw [if_neg hne]
    exact ⟨.inr ⟨outcome, hop⟩, .off _, .to_off _ _, fun _ => rfl⟩

/-- Waiting in the phase `wait_stage`, the call looks at the stage. -/
theorem looked_at_stage (outcome : Int) {call : Call} {entry entry' next : Waiter WaitCond}
    {st st' : Teardown} {phase' : CallPhase} (hphase : call.phase = .wait_stage)
    (hqueue : Waits .wait_unread next)
    (hmoved : st.holds .disconnected = false → EntryMoved st entry next)
    (h : (call.operate outcome st).map (fun (phase, st) =>
      ((phase, if phase = .wait_unread then next else .off), st))
        = some ((phase', entry'), st')) : WaitStepped call entry st phase' entry' st' := by
  obtain ⟨⟨phase₁, st₁⟩, hop, heq⟩ := Option.map_eq_some_iff.mp h
  cases heq
  obtain ⟨rfl, ⟨rfl, hfalse⟩ | ⟨-, hne⟩⟩ := operate_wait_stage hphase hop
  · rw [if_pos rfl]
    exact ⟨.inr ⟨outcome, hop⟩, hqueue, hmoved hfalse, fun _ => rfl⟩
  · rw [if_neg hne]
    exact ⟨.inr ⟨outcome, hop⟩, .off _, .to_off _ _, fun _ => rfl⟩

/-- What each step of a wait does to the call and to its entry. -/
theorem wait_event_spec {outcome : Int} {call : Call} {entry entry' : Waiter WaitCond}
    {st st' : Teardown} {phase' : CallPhase} (hwaits : Waits call.phase entry)
    (h : call.wait_event_interruptible outcome entry st = some ((phase', entry'), st')) :
    WaitStepped call entry st phase' entry' st' := by
  obtain ⟨request, nonblock, phase⟩ := call
  dsimp only at hwaits
  cases hwaits with
  | off =>
    cases phase with
    -- nothing seen counts before the call is on the queue
    | wait_unread => exact looked_at_unread outcome rfl (.off _) h
    | wait_stage => exact looked_at_stage 0 rfl .queued (fun _ => .move (by simp)) h
    | _ =>
      simp only [Call.wait_event_interruptible] at h
      obtain ⟨⟨phase₁, st₁⟩, hop, heq⟩ := Option.map_eq_some_iff.mp h
      cases heq
      exact ⟨.inr ⟨outcome, hop⟩, .off _, .to_off _ _, fun hne => absurd rfl hne⟩
  | woken_unread =>
    cases h
    exact ⟨.inl ⟨rfl, rfl⟩, .queued, .move (by simp), fun _ => rfl⟩
  | woken_stage =>
    exact looked_at_stage outcome rfl .woken_unread (fun _ => .move (by simp)) h
  | queued => exact looked_at_unread outcome rfl .unread h
  | unread =>
    exact looked_at_stage outcome rfl (.both false) (fun hfalse => .look .disconnected hfalse rfl) h
  | both asleep =>
    cases asleep with
    | true => cases h
    | false =>
      cases h
      exact ⟨.inl ⟨rfl, rfl⟩, .both true, .move (by simp), fun _ => rfl⟩

/-! ## A `poll` between its passes -/

/-- The places of a poll's entry. -/
inductive PollWaits : PollPhase → Waiter WaitCond → Prop
  | off (phase : PollPhase) : PollWaits phase .off
  | woken (phase : PollPhase) (hlive : phase.ended = false) : PollWaits phase .woken
  | again : PollWaits .precheck (.on false [])
  | look : PollWaits .look (.on false [])
  | schedule (asleep : Bool) : PollWaits .schedule (.on asleep [.unread])

/-- What each step of a poll does to its entry. -/
theorem poll_step_spec {outcome : Int} {phase phase' : PollPhase} {entry entry' : Waiter WaitCond}
    {st : Teardown} (hwaits : PollWaits phase entry)
    (h : phase.step outcome entry st = some (phase', entry')) :
    PollWaits phase' entry' ∧ EntryMoved st entry entry' := by
  cases phase with
  | precheck =>
    obtain heq := Option.some.inj h
    split at heq
    · cases heq
      exact ⟨.off _, .to_off _ _⟩
    split at heq <;> cases heq
    · exact ⟨.off _, .to_off _ _⟩
    · rename_i hentry
      cases hwaits with
      | off => exact absurd rfl hentry
      | woken => exact ⟨.woken _ rfl, .move fun _ => id⟩
      | again => exact ⟨.look, .move fun _ => id⟩
  | poll_wait =>
    cases h
    exact ⟨.look, .move (by simp)⟩
  | look =>
    obtain heq := Option.some.inj h
    split at heq <;> cases heq
    · exact ⟨.off _, .to_off _ _⟩
    · rename_i hunread
      refine ⟨?_, .look .unread (holds_unread_eq_false hunread) rfl⟩
      cases hwaits with
      | off => exact .off _
      | woken => exact .woken _ rfl
      | look => exact .schedule false
  | schedule =>
    by_cases hout : outcome ≠ 0
    · simp only [PollPhase.step, if_pos hout] at h
      cases h
      exact ⟨.off _, .to_off _ _⟩
    cases hwaits with
    | off =>
      simp only [PollPhase.step, if_neg hout] at h
      cases h
      exact ⟨.again, .move (by simp)⟩
    | woken =>
      simp only [PollPhase.step, if_neg hout] at h
      cases h
      exact ⟨.again, .move (by simp)⟩
    | schedule asleep =>
      simp only [PollPhase.step, if_neg hout] at h
      cases asleep with
      | true => cases h
      | false =>
        cases h
        exact ⟨.schedule true, .move fun _ => id⟩
  | returned mask => cases h

end DualPcanUsb
