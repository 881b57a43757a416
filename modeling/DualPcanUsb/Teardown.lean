/-
A forwarder torn down under the calls in flight on it.

`pcan_usb_plugout` sets the stage back, frees the read buffer and schedules the work that
frees the rest, `destroy_usb_forwarder`, once it has found `pending_ops` zero twice.
Meanwhile any number of `pcan_chardev_read` and `pcan_chardev_ioctl` calls stand anywhere
between their stage check and their end. Each atomic operation, locked section, access to
user memory and free is a step of its own.

The stage check and the count are a rundown's gate and count. The read buffer is freed
without a look at the count, so it outlives its users only if each of them still has a
stage check before it, or is done with it.

Of mapped user memory (`map_umem`) the machine keeps that no read buffer is used then; URBs,
sysfs files and `private_data` are left out.
-/
import DualPcanUsb.Lifecycle
import DualPcanUsb.Lib.Rundown
import DualPcanUsb.Lib.Runs

set_option autoImplicit false

namespace DualPcanUsb

def EFAULT : Int := 14

/-! ## Calls -/

/-- What the tear-down frees. -/
inductive Memory
  | rd_kernel_buf | ioctl_rxmsgs | cmd_buf | forwarder
deriving DecidableEq, Repr

inductive Request
  | read (count : ℕ)
  | ioctl (cmd : Ioctl)
deriving DecidableEq, Repr

/-- What a call does next, or what it has returned. -/
inductive CallPhase
  | precheck
  | inc_pending_ops
  | wait_unread
  | wait_stage
  | recheck_stage
  | recheck_unread
  | map_user
  | get_user
  | locked
  | copy_to_user
  | dec_pending_ops (ret : Int)
  | returned (ret : Int)
deriving DecidableEq, Repr

structure Call where
  request : Request
  nonblock : Bool
  phase : CallPhase
deriving DecidableEq, Repr

def Request.is_read : Request → Bool
  | .read _ => true
  | .ioctl _ => false

/-- Too short a read returns before it looks at the forwarder. -/
def Request.entry : Request → CallPhase
  | .read count =>
    if (count : Int) > PCAN_CHRDEV_MAX_BYTES_PER_READ then .precheck else .returned (-EINVAL)
  | .ioctl _ => .precheck

/-- Behind `atomic_inc`: the handlers that take no messages do not wait. -/
def Request.begin_ : Request → CallPhase
  | .ioctl (.other _) => .locked
  | _ => .wait_unread

/-- Behind the wait. -/
def Request.waited (map_umem : Bool) : Request → CallPhase
  | .read _ => if map_umem then .map_user else .locked
  | .ioctl (.fd_recv_msgs _) => .get_user
  | .ioctl _ => .locked

/-- The locked section, or the handler of a request without one. -/
def Request.section_ : Request → Chardev → Except Int (List ChardevMsg) × Chardev
  | .read count => pcan_chardev_read_section count
  | .ioctl .read_msg => ioctl_read_msg_section
  | .ioctl (.fd_recv_msgs count) => ioctl_fd_recv_msgs_section count
  | .ioctl (.other ret) => fun dev => (if ret = 0 then .ok [] else .error ret, dev)

/-- What was taken is copied to user space, unless it was printed there. -/
def Request.copies (map_umem : Bool) : Request → Bool
  | .read _ => !map_umem
  | .ioctl (.other _) => false
  | .ioctl _ => true

/-- A read returns the length of its text, less what was not copied; a request, whether the
copy succeeded. -/
def Request.ret (outcome : Int) : Request → Int
  | .read _ => outcome
  | .ioctl _ => if outcome ≠ 0 then -EFAULT else 0

/-! ## The machine -/

inductive PlugoutPhase
  | connected | finalize | unregister_candev | schedule | done
deriving DecidableEq, Repr

inductive DestroyPhase
  | unscheduled | check | check_twice | free_cmd_buf | free_ioctl_rxmsgs | free_candev | resched
  | done
deriving DecidableEq, Repr

structure Teardown where
  fwd : Forwarder
  pending_ops : Int
  map_umem : Bool
  allocated : Memory → Bool
  calls : List Call
  plugout : PlugoutPhase
  destroy : DestroyPhase

def Teardown.stage (st : Teardown) : Int := st.fwd.stage

def Teardown.rx_unread_cnt (st : Teardown) : Int := st.fwd.char_dev.rx_unread_cnt

def Teardown.set_stage (st : Teardown) (stage : Int) : Teardown :=
  { st with fwd := { st.fwd with stage := stage } }

def Teardown.set_char_dev (st : Teardown) (dev : Chardev) : Teardown :=
  { st with fwd := { st.fwd with char_dev := dev } }

def Teardown.kfree (st : Teardown) (mem : Memory) : Teardown :=
  { st with allocated := Function.update st.allocated mem false }

/-- One step of a call; `outcome` is what the kernel's service returns there, or whether a
signal is pending. -/
def Call.operate (outcome : Int) (call : Call) (st : Teardown) : Option (CallPhase × Teardown) :=
  match call.phase with
  | .precheck =>
    some (if st.stage < PCAN_USB_STAGE_ONE_STARTED then .returned (-ENODEV) else .inc_pending_ops,
      st)
  | .inc_pending_ops =>
    some (call.request.begin_, { st with pending_ops := st.pending_ops + 1 })
  | .wait_unread =>
    some (
      if st.rx_unread_cnt > 0 then
        if call.nonblock then call.request.waited st.map_umem else .recheck_stage
      else if call.nonblock then .dec_pending_ops (-EAGAIN)
      else .wait_stage, st)
  -- the other half of the condition of `wait_event_interruptible`
  | .wait_stage =>
    some (
      if st.stage < PCAN_USB_STAGE_ONE_STARTED then .recheck_stage
      else if outcome ≠ 0 then .dec_pending_ops (-ERESTARTSYS)
      else .wait_unread, st)
  | .recheck_stage =>
    -- has been plugged out
    some (if st.stage < PCAN_USB_STAGE_ONE_STARTED then .dec_pending_ops (-ENODEV)
      else .recheck_unread, st)
  | .recheck_unread =>
    some (
      if st.rx_unread_cnt ≤ 0 then
        .dec_pending_ops (if outcome ≠ 0 then -ERESTARTSYS else -EAGAIN)
      else call.request.waited st.map_umem, st)
  | .map_user => some (if outcome < 0 then .dec_pending_ops outcome else .locked, st)
  | .get_user =>
    some (
      if outcome ≠ 0 then .dec_pending_ops (-EFAULT)
      else if call.request = .ioctl (.fd_recv_msgs 0) then .dec_pending_ops (-EINVAL)
      else .locked, st)
  | .locked =>
    let (result, dev) := call.request.section_ st.fwd.char_dev
    some (
      match result with
      | .error err => .dec_pending_ops err
      | .ok _ =>
        if call.request.copies st.map_umem then .copy_to_user
        else .dec_pending_ops (call.request.ret outcome), st.set_char_dev dev)
  | .copy_to_user => some (.dec_pending_ops (call.request.ret outcome), st)
  | .dec_pending_ops ret => some (.returned ret, { st with pending_ops := st.pending_ops - 1 })
  | .returned _ => none

/-- A buffer exists only where user memory is not mapped. -/
def Teardown.pcan_chardev_finalize (st : Teardown) : Teardown :=
  if st.map_umem then st else st.kfree .rd_kernel_buf

/-- `pcan_net_stop`, if the network interface is running. -/
def Teardown.unregister_candev (st : Teardown) : Teardown :=
  if st.fwd.netif_running then
    { st with
      fwd := { st.fwd with stage := st.stage - 1, netif_running := false, can_state := .STOPPED } }
  else st

def Teardown.pcan_usb_plugout (st : Teardown) : Option Teardown :=
  match st.plugout with
  | .connected => some { st.set_stage PCAN_USB_STAGE_DISCONNECTED with plugout := .finalize }
  -- no look at `pending_ops`
  | .finalize => some { st.pcan_chardev_finalize with plugout := .unregister_candev }
  | .unregister_candev => some { st.unregister_candev with plugout := .schedule }
  | .schedule => some { st with plugout := .done, destroy := .check }
  | .done => none

def Teardown.destroy_usb_forwarder (st : Teardown) : Option Teardown :=
  match st.destroy with
  | .unscheduled => none
  | .check => some { st with destroy := if st.pending_ops > 0 then .resched else .check_twice }
  | .check_twice =>
    some { st with destroy := if st.pending_ops > 0 then .resched else .free_cmd_buf }
  | .free_cmd_buf => some { st.kfree .cmd_buf with destroy := .free_ioctl_rxmsgs }
  | .free_ioctl_rxmsgs => some { st.kfree .ioctl_rxmsgs with destroy := .free_candev }
  | .free_candev => some { st.kfree .forwarder with destroy := .done }
  | .resched => some { st.set_stage PCAN_USB_STAGE_DISCONNECTED with destroy := .check }
  | .done => none

inductive TeardownAction
  | enter (request : Request) (nonblock : Bool)
  | advance (i : ℕ) (outcome : Int)
  | plugout
  | destroy
  | elsewhere (fwd : Forwarder)

/-- One step; `elsewhere` is the rest of the driver, which no longer touches the stage once
`pcan_usb_plugout` has set it back. -/
def Teardown.step (st : Teardown) : TeardownAction → Option Teardown
  | .enter request nonblock =>
    some { st with calls := st.calls ++ [⟨request, nonblock, request.entry⟩] }
  | .advance i outcome =>
    match st.calls[i]? with
    | some call =>
      (call.operate outcome st).map fun (phase, st) =>
        { st with calls := st.calls.set i { call with phase := phase } }
    | none => none
  | .plugout => st.pcan_usb_plugout
  | .destroy => st.destroy_usb_forwarder
  | .elsewhere fwd =>
    some { st with
      fwd := if st.plugout = .connected then fwd else { fwd with stage := st.stage } }

/-! ## The rundown -/

/-- A call is outside until its stage check, and counted between `atomic_inc` and
`atomic_dec`. -/
def CallPhase.role : CallPhase → Rundown.Role
  | .precheck | .returned _ => .out
  | .inc_pending_ops => .admitted
  | .wait_unread | .wait_stage | .recheck_stage | .recheck_unread | .map_user | .get_user
  | .locked | .copy_to_user | .dec_pending_ops _ => .counted

def Teardown.rundown (st : Teardown) : Rundown.State where
  gate := decide (PCAN_USB_STAGE_ONE_STARTED ≤ st.stage)
  count := st.pending_ops
  users := st.calls.map fun call => call.phase.role

/-! ## Steps of a call -/

/-- What no step of a call touches. -/
structure CallFrame (st st' : Teardown) : Prop where
  stage_eq : st'.stage = st.stage
  map_umem_eq : st'.map_umem = st.map_umem
  allocated_eq : st'.allocated = st.allocated
  calls_eq : st'.calls = st.calls
  plugout_eq : st'.plugout = st.plugout
  destroy_eq : st'.destroy = st.destroy

/-- What a step of a call does to its role and the count. -/
inductive CallMoved (st : Teardown) (phase phase' : CallPhase) (st' : Teardown) : Prop
  | quiet (hrole : phase'.role = phase.role) (hpending : st'.pending_ops = st.pending_ops)
  | admitted (hrole : phase.role = .out) (hstage : PCAN_USB_STAGE_ONE_STARTED ≤ st.stage)
      (hrole' : phase'.role = .admitted) (hpending : st'.pending_ops = st.pending_ops)
  | counted (hrole : phase.role = .admitted) (hrole' : phase'.role = .counted)
      (hpending : st'.pending_ops = st.pending_ops + 1)
  | left (hrole : phase.role = .counted) (hrole' : phase'.role = .out)
      (hpending : st'.pending_ops = st.pending_ops - 1)

theorem begin_role (request : Request) : request.begin_.role = .counted := by
  unfold Request.begin_
  split <;> rfl

/-- Behind its wait a call is still counted. -/
theorem waited_role (map_umem : Bool) (request : Request) :
    (request.waited map_umem).role = .counted := by
  unfold Request.waited
  split
  · split <;> rfl
  · rfl
  · rfl

/-- A step of a call moves its phase and the count together. -/
theorem operate_spec_call {outcome : Int} {call : Call} {st st' : Teardown} {phase' : CallPhase}
    (h : call.operate outcome st = some (phase', st')) :
    CallFrame st st' ∧ CallMoved st call.phase phase' st' := by
  have hsame : CallFrame st st := ⟨rfl, rfl, rfl, rfl, rfl, rfl⟩
  obtain ⟨request, nonblock, phase⟩ := call
  unfold Call.operate at h
  cases phase with
  | precheck =>
    cases h
    by_cases hstage : st.stage < PCAN_USB_STAGE_ONE_STARTED
    · rw [if_pos hstage]
      exact ⟨hsame, .quiet rfl rfl⟩
    · rw [if_neg hstage]
      exact ⟨hsame, .admitted rfl (not_lt.mp hstage) rfl rfl⟩
  | inc_pending_ops =>
    cases h
    exact ⟨⟨rfl, rfl, rfl, rfl, rfl, rfl⟩, .counted rfl (begin_role request) rfl⟩
  | wait_unread =>
    cases h
    refine ⟨hsame, .quiet ?_ rfl⟩
    dsimp only
    split
    · split
      · exact waited_role st.map_umem request
      · rfl
    · split <;> rfl
  | wait_stage =>
    cases h
    refine ⟨hsame, .quiet ?_ rfl⟩
    split
    · rfl
    · split <;> rfl
  | recheck_stage =>
    cases h
    refine ⟨hsame, .quiet ?_ rfl⟩
    split <;> rfl
  | recheck_unread =>
    cases h
    refine ⟨hsame, .quiet ?_ rfl⟩
    split
    · rfl
    · exact waited_role st.map_umem request
  | map_user =>
    cases h
    refine ⟨hsame, .quiet ?_ rfl⟩
    split <;> rfl
  | get_user =>
    cases h
    refine ⟨hsame, .quiet ?_ rfl⟩
    split
    · rfl
    · split <;> rfl
  | locked =>
    cases h
    refine ⟨⟨rfl, rfl, rfl, rfl, rfl, rfl⟩, .quiet ?_ rfl⟩
    dsimp only
    split
    · rfl
    · split <;> rfl
  | copy_to_user =>
    cases h
    exact ⟨hsame, .quiet rfl rfl⟩
  | dec_pending_ops ret =>
    cases h
    exact ⟨⟨rfl, rfl, rfl, rfl, rfl, rfl⟩, .left rfl rfl rfl⟩
  | returned ret => cases h

/-! ## Steps of the machine -/

theorem disconnected_lt_one_started : PCAN_USB_STAGE_DISCONNECTED < PCAN_USB_STAGE_ONE_STARTED := by
  decide

/-- What a step of `pcan_usb_plugout` does. -/
structure PlugoutSpec (st st' : Teardown) : Prop where
  calls_eq : st'.calls = st.calls
  pending_eq : st'.pending_ops = st.pending_ops
  begun : st'.plugout ≠ .connected
  stage_lt : st.plugout = .connected ∨ st.stage < PCAN_USB_STAGE_ONE_STARTED →
    st'.stage < PCAN_USB_STAGE_ONE_STARTED
  destroy_eq : st'.destroy = st.destroy ∨ st'.destroy = .check
  allocated : st'.allocated = st.allocated
    ∨ st.plugout = .finalize ∧ st.map_umem = false
      ∧ st'.allocated = Function.update st.allocated .rd_kernel_buf false

/-- What each step of the unplugging does. -/
theorem pcan_usb_plugout_spec {st st' : Teardown} (h : st.pcan_usb_plugout = some st') :
    PlugoutSpec st st' := by
  unfold Teardown.pcan_usb_plugout at h
  have hbegun : ∀ phase, st.plugout = phase → phase ≠ .connected →
      st.plugout = .connected ∨ st.stage < PCAN_USB_STAGE_ONE_STARTED →
        st.stage < PCAN_USB_STAGE_ONE_STARTED := by
    rintro phase rfl hne (hconn | hlt)
    · exact absurd hconn hne
    · exact hlt
  split at h <;> rename_i hphase <;> cases h
  · exact ⟨rfl, rfl, nofun, fun _ => disconnected_lt_one_started, .inl rfl, .inl rfl⟩
  · unfold Teardown.pcan_chardev_finalize
    split
    · exact ⟨rfl, rfl, nofun, hbegun _ hphase nofun, .inl rfl, .inl rfl⟩
    · rename_i hbuf
      exact ⟨rfl, rfl, nofun, hbegun _ hphase nofun, .inl rfl,
        .inr ⟨hphase, Bool.eq_false_iff.mpr hbuf, rfl⟩⟩
  · unfold Teardown.unregister_candev
    split
    · refine ⟨rfl, rfl, nofun, fun hlow => ?_, .inl rfl, .inl rfl⟩
      exact (sub_lt_self st.stage Int.one_pos).trans (hbegun _ hphase nofun hlow)
    · exact ⟨rfl, rfl, nofun, hbegun _ hphase nofun, .inl rfl, .inl rfl⟩
  · exact ⟨rfl, rfl, nofun, hbegun _ hphase nofun, .inr rfl, .inl rfl⟩

/-- The destroy work has found the count zero twice. -/
def DestroyPhase.freeing : DestroyPhase → Bool
  | .free_cmd_buf | .free_ioctl_rxmsgs | .free_candev | .done => true
  | .unscheduled | .check | .check_twice | .resched => false

/-- What a step of the destroy work does. -/
structure DestroySpec (st st' : Teardown) : Prop where
  calls_eq : st'.calls = st.calls
  pending_eq : st'.pending_ops = st.pending_ops
  plugout_eq : st'.plugout = st.plugout
  scheduled : st.destroy ≠ .unscheduled
  stage_lt : st.stage < PCAN_USB_STAGE_ONE_STARTED → st'.stage < PCAN_USB_STAGE_ONE_STARTED
  freeing : st'.destroy.freeing = true →
    st.destroy.freeing = true ∨ st.destroy = .check_twice ∧ st.pending_ops ≤ 0
  allocated : st'.allocated = st.allocated ∨ st.destroy.freeing = true

/-- What each step of the destroy work does. -/
theorem destroy_usb_forwarder_spec {st st' : Teardown} (h : st.destroy_usb_forwarder = some st') :
    DestroySpec st st' := by
  unfold Teardown.destroy_usb_forwarder at h
  split at h <;> rename_i hphase <;> cases h
  · refine ⟨rfl, rfl, rfl, hphase ▸ nofun, id, fun hfreeing => ?_, .inl rfl⟩
    dsimp only at hfreeing
    split at hfreeing <;> cases hfreeing
  · refine ⟨rfl, rfl, rfl, hphase ▸ nofun, id, fun hfreeing => ?_, .inl rfl⟩
    dsimp only at hfreeing
    split at hfreeing
    · cases hfreeing
    · rename_i hzero
      exact .inr ⟨hphase, not_lt.mp hzero⟩
  · exact ⟨rfl, rfl, rfl, hphase ▸ nofun, id, fun _ => .inl (hphase ▸ rfl), .inr (hphase ▸ rfl)⟩
  · exact ⟨rfl, rfl, rfl, hphase ▸ nofun, id, fun _ => .inl (hphase ▸ rfl), .inr (hphase ▸ rfl)⟩
  · exact ⟨rfl, rfl, rfl, hphase ▸ nofun, id, fun _ => .inl (hphase ▸ rfl), .inr (hphase ▸ rfl)⟩
  · exact ⟨rfl, rfl, rfl, hphase ▸ nofun, fun _ => disconnected_lt_one_started, nofun, .inl rfl⟩

/-- What a step of the machine is. -/
inductive TeardownStep (st : Teardown) : TeardownAction → Teardown → Prop
  | enter (request : Request) (nonblock : Bool) :
    TeardownStep st (.enter request nonblock)
      { st with calls := st.calls ++ [⟨request, nonblock, request.entry⟩] }
  | advance (i : ℕ) (outcome : Int) (call : Call) (phase' : CallPhase) (st₁ : Teardown)
      (hcall : st.calls[i]? = some call) (hop : call.operate outcome st = some (phase', st₁))
      (hframe : CallFrame st st₁) (hmoved : CallMoved st call.phase phase' st₁) :
    TeardownStep st (.advance i outcome)
      { st₁ with calls := st₁.calls.set i { call with phase := phase' } }
  | plugout {st' : Teardown} (hspec : PlugoutSpec st st') : TeardownStep st .plugout st'
  | destroy {st' : Teardown} (hspec : DestroySpec st st') : TeardownStep st .destroy st'
  | elsewhere (fwd : Forwarder) :
    TeardownStep st (.elsewhere fwd)
      { st with fwd := if st.plugout = .connected then fwd else { fwd with stage := st.stage } }

/-- Every action of the machine, by whose step it is. -/
theorem teardown_step_cases {st st' : Teardown} {action : TeardownAction}
    (h : st.step action = some st') : TeardownStep st action st' := by
  cases action with
  | enter request nonblock =>
    cases h
    exact .enter request nonblock
  | advance i outcome =>
    rw [Teardown.step] at h
    split at h
    · rename_i call hcall
      obtain ⟨⟨phase', st₁⟩, hop, rfl⟩ := Option.map_eq_some_iff.mp h
      obtain ⟨hframe, hmoved⟩ := operate_spec_call hop
      exact .advance i outcome call phase' st₁ hcall hop hframe hmoved
    · cases h
  | plugout => exact .plugout (pcan_usb_plugout_spec h)
  | destroy => exact .destroy (destroy_usb_forwarder_spec h)
  | elsewhere fwd =>
    cases h
    exact .elsewhere fwd

/-- A call that enters is not counted yet. -/
theorem entry_role (request : Request) : request.entry.role = .out := by
  cases request with
  | read count =>
    unfold Request.entry
    dsimp only
    split <;> rfl
  | ioctl cmd => rfl

/-- Each call is a user of the rundown. -/
theorem rundown_role {st : Teardown} {i : ℕ} {call : Call} (h : st.calls[i]? = some call) :
    st.rundown.users[i]? = some call.phase.role := by
  unfold Teardown.rundown
  rw [List.getElem?_map, h]
  rfl

/-- The rundown behind a step of a call. -/
theorem rundown_advance {st st₁ : Teardown} {i : ℕ} {call : Call} {phase' : CallPhase}
    (hframe : CallFrame st st₁) :
    ({ st₁ with calls := st₁.calls.set i { call with phase := phase' } } : Teardown).rundown
      = ⟨st.rundown.gate, st₁.pending_ops, st.rundown.users.set i phase'.role⟩ := by
  unfold Teardown.rundown Teardown.stage
  dsimp only
  rw [List.map_set, hframe.calls_eq, show st₁.fwd.stage = st.fwd.stage from hframe.stage_eq]

/-- Each step is one of the rundown, or none. -/
theorem rundown_step {st st' : Teardown} {action : TeardownAction}
    (h : st.step action = some st') :
    st'.rundown = st.rundown ∨ ∃ event, st.rundown.step event = some st'.rundown := by
  -- whatever is done to the stage, the calls do not see more than the gate
  have hgate : ∀ st₁ : Teardown, st₁.pending_ops = st.pending_ops → st₁.calls = st.calls →
      st₁.rundown = st.rundown ∨ ∃ event, st.rundown.step event = some st₁.rundown := by
    intro st₁ hpending hcalls
    refine .inr ⟨.gate (decide (PCAN_USB_STAGE_ONE_STARTED ≤ st₁.stage)), ?_⟩
    unfold Teardown.rundown
    rw [hpending, hcalls]
    rfl
  cases teardown_step_cases h with
  | enter request nonblock =>
    refine .inr ⟨.enter, ?_⟩
    unfold Teardown.rundown
    dsimp only
    rw [List.map_append, List.map_singleton, entry_role]
    rfl
  | advance i outcome call phase' st₁ hcall hop hframe hmoved =>
    have hrole := rundown_role hcall
    rw [rundown_advance hframe]
    cases hmoved with
    | quiet hsame hpending =>
      left
      obtain ⟨hi, hget⟩ := List.getElem?_eq_some_iff.mp hrole
      rw [hpending, hsame, ← hget, List.set_getElem_self]
      rfl
    | admitted hout hstage hin hpending =>
      rw [hout] at hrole
      exact .inr ⟨.pass i, by
        rw [Rundown.step_pass (decide_eq_true hstage) hrole, hin, hpending]
        rfl⟩
    | counted hadmitted hin hpending =>
      rw [hadmitted] at hrole
      exact .inr ⟨.count i, by
        rw [Rundown.step_count hrole, hin, hpending]
        rfl⟩
    | left hcounted hout hpending =>
      rw [hcounted] at hrole
      exact .inr ⟨.leave i, by
        rw [Rundown.step_leave hrole, hout, hpending]
        rfl⟩
  | plugout hspec => exact hgate _ hspec.pending_eq hspec.calls_eq
  | destroy hspec => exact hgate _ hspec.pending_eq hspec.calls_eq
  | elsewhere fwd => exact hgate _ rfl rfl

/-- Unplugging has begun, and the stage stays below what the check asks for. -/
structure Unplugged (st : Teardown) : Prop where
  begun : st.plugout ≠ .connected
  stage_lt : st.stage < PCAN_USB_STAGE_ONE_STARTED

theorem Unplugged.gate_shut {st : Teardown} (h : Unplugged st) : st.rundown.gate = false :=
  decide_eq_false (not_le.mpr h.stage_lt)

/-- Once the device is unplugged, it stays so. -/
theorem Unplugged.step {st st' : Teardown} {action : TeardownAction} (h : Unplugged st)
    (hstep : st.step action = some st') : Unplugged st' := by
  obtain ⟨hbegun, hlt⟩ := h
  cases teardown_step_cases hstep with
  | enter request nonblock => exact ⟨hbegun, hlt⟩
  | advance i outcome call phase' st₁ hcall hop hframe =>
    exact ⟨hframe.plugout_eq.symm ▸ hbegun, hframe.stage_eq.symm ▸ hlt⟩
  | plugout hspec => exact ⟨hspec.begun, hspec.stage_lt (.inr hlt)⟩
  | destroy hspec => exact ⟨hspec.plugout_eq.symm ▸ hbegun, hspec.stage_lt hlt⟩
  | elsewhere fwd =>
    refine ⟨hbegun, ?_⟩
    unfold Teardown.stage
    dsimp only
    rw [if_neg hbegun]
    exact hlt

/-- What holds of every call holds behind a step, if each step of a call keeps it. -/
theorem forall_calls_step {P : Call → Prop} {st st' : Teardown} {action : TeardownAction}
    (h : ∀ call ∈ st.calls, P call)
    (henter : ∀ request nonblock, P ⟨request, nonblock, request.entry⟩)
    (hadvance : ∀ {outcome : Int} {call : Call} {phase' : CallPhase} {st₁ : Teardown}, P call →
      call.operate outcome st = some (phase', st₁) → P { call with phase := phase' })
    (hstep : st.step action = some st') : ∀ call ∈ st'.calls, P call := by
  cases teardown_step_cases hstep with
  | enter request nonblock =>
    intro call hmem
    rcases List.mem_append.mp hmem with hold | hnew
    · exact h call hold
    · rw [List.mem_singleton.mp hnew]
      exact henter request nonblock
  | advance i outcome call phase' st₁ hcall hop hframe =>
    intro call' hmem
    rw [show st₁.calls = st.calls from hframe.calls_eq] at hmem
    rcases List.mem_or_eq_of_mem_set hmem with hold | rfl
    · exact h call' hold
    · exact hadvance (h call (List.mem_of_getElem? hcall)) hop
  | plugout hspec => exact hspec.calls_eq ▸ h
  | destroy hspec => exact hspec.calls_eq ▸ h
  | elsewhere fwd => exact h

end DualPcanUsb
