/-
What `pending_ops` protects.

The destroy work waits for the count, so what it frees is used by nobody, unless a call
stands just between its stage check and `atomic_inc` when the count is found zero. The read
buffer goes earlier, in `pcan_chardev_finalize`, and nobody has waited for its readers then.
-/
import DualPcanUsb.Teardown

set_option autoImplicit false

namespace DualPcanUsb

/-! ## Who uses what -/

/-- What the call's next step touches. No call of these uses `cmd_buf`, and the stage check
itself does not count. -/
def Call.touches (map_umem : Bool) (call : Call) : Memory → Prop
  | .rd_kernel_buf =>
    map_umem = false ∧ call.request.is_read = true
      ∧ (call.phase = .locked ∨ call.phase = .copy_to_user)
  | .ioctl_rxmsgs =>
    (∃ count, call.request = .ioctl (.fd_recv_msgs count))
      ∧ (call.phase = .get_user ∨ call.phase = .locked ∨ call.phase = .copy_to_user)
  | .cmd_buf => False
  | .forwarder => call.phase.role ≠ .out

/-- The call may go on to touch the memory behind its stage check. -/
def GoingToUse (st : Teardown) (i : ℕ) (mem : Memory) : Prop :=
  ∃ actions st' call, Runs.run Teardown.step st actions = some st'
    ∧ st'.calls[i]? = some call ∧ call.touches st'.map_umem mem

/-- What the step frees, no call is going to use. -/
def ReleasesUnused (st : Teardown) (action : TeardownAction) : Prop :=
  ∀ st' mem, st.step action = some st' → st.allocated mem = true → st'.allocated mem = false →
    ∀ i, ¬ GoingToUse st' i mem

/-- No stage check is ahead of the call before it takes messages and copies them, and it has
not copied them yet. -/
def Call.committed (call : Call) : Bool :=
  match call.phase with
  | .inc_pending_ops | .wait_unread => call.nonblock
  | .recheck_unread | .map_user | .get_user | .locked | .copy_to_user => true
  | .precheck | .wait_stage | .recheck_stage | .dec_pending_ops _ | .returned _ => false

/-- The read buffer is freed past the reads that are committed to it, and the count is found
zero while no call stands between its stage check and `atomic_inc`. -/
def FreesSettled (st : Teardown) : TeardownAction → Prop
  | .plugout => st.plugout = .finalize → st.map_umem = false →
    ∀ call ∈ st.calls, call.request.is_read = true → call.committed = false
  | .destroy => st.destroy = .check_twice → st.pending_ops ≤ 0 →
    ∀ call ∈ st.calls, call.phase ≠ .inc_pending_ops
  | _ => True

instance (st : Teardown) : DecidablePred (FreesSettled st)
  | .plugout => inferInstanceAs (Decidable (st.plugout = .finalize → st.map_umem = false → _))
  | .destroy => inferInstanceAs (Decidable (st.destroy = .check_twice → st.pending_ops ≤ 0 → _))
  | .enter _ _ | .advance _ _ | .elsewhere _ => .isTrue trivial

/-! ## Memory nobody is going to use -/

/-- With the stage set back, no read commits itself to the buffer any more. -/
theorem operate_committed {outcome : Int} {call : Call} {st st' : Teardown} {phase' : CallPhase}
    (h : call.operate outcome st = some (phase', st'))
    (hstage : st.stage < PCAN_USB_STAGE_ONE_STARTED) (hread : call.request.is_read = true)
    (hfree : call.committed = false) : ({ call with phase := phase' } : Call).committed = false := by
  obtain ⟨request, nonblock, phase⟩ := call
  cases request with
  | ioctl cmd => cases hread
  | read count =>
    unfold Call.operate at h
    cases phase with
    | precheck =>
      cases h
      rw [if_pos hstage]
      rfl
    | inc_pending_ops =>
      cases h
      exact hfree
    | wait_unread =>
      -- not committed, so it does block
      obtain rfl : nonblock = false := hfree
      cases h
      dsimp only
      split <;> rfl
    | wait_stage =>
      cases h
      dsimp only
      rw [if_pos hstage]
      rfl
    | recheck_stage =>
      cases h
      dsimp only
      rw [if_pos hstage]
      rfl
    | dec_pending_ops ret =>
      cases h
      rfl
    | returned ret => cases h
    | _ => cases hfree

/-- What the machine keeps, and no call touching the memory, tells that no call is going to
use it. -/
theorem not_goingToUse {Inv : Teardown → Prop} {mem : Memory}
    (hstep : ∀ st action st', Inv st → st.step action = some st' → Inv st')
    (hfree : ∀ st, Inv st → ∀ call ∈ st.calls, ¬ call.touches st.map_umem mem) {st : Teardown}
    (h : Inv st) (i : ℕ) : ¬ GoingToUse st i mem := by
  rintro ⟨actions, st', call, hrun, hcall, htouches⟩
  have hinv := Runs.run_invariant Teardown.step hstep h hrun
  exact hfree st' hinv call (List.mem_of_getElem? hcall) htouches

/-- Unplugged, with no read committed to the read buffer. -/
structure ReadsDone (st : Teardown) : Prop extends Unplugged st where
  reads : ∀ call ∈ st.calls, call.request.is_read = true → call.committed = false

/-- Once no read is before its copy, and none can enter, it stays so. -/
theorem ReadsDone.step (st : Teardown) (action : TeardownAction) (st' : Teardown)
    (h : ReadsDone st) (hstep : st.step action = some st') : ReadsDone st' := by
  refine ⟨h.toUnplugged.step hstep, forall_calls_step h.reads ?_ ?_ hstep⟩
  · intro request nonblock _
    have hrole := entry_role request
    unfold Call.committed
    dsimp only
    generalize request.entry = phase at hrole
    cases phase <;> first | rfl | cases hrole
  · intro outcome call phase' st₁ hcall hop hread
    exact operate_committed hop h.stage_lt hread (hcall hread)

/-- With every read past its copy nobody touches the read buffer. -/
theorem ReadsDone.untouched {st : Teardown} (h : ReadsDone st) :
    ∀ call ∈ st.calls, ¬ call.touches st.map_umem .rd_kernel_buf := by
  rintro call hmem ⟨-, hread, hphase⟩
  have hdone := h.reads call hmem hread
  unfold Call.committed at hdone
  rcases hphase with hphase | hphase
  · rw [hphase] at hdone
    cases hdone
  · rw [hphase] at hdone
    cases hdone

/-- Unplugged, with no call behind its stage check. -/
structure Gone (st : Teardown) : Prop extends Unplugged st where
  idle : Rundown.Idle st.rundown

/-- Once every call is gone, and none can enter, it stays so. -/
theorem Gone.step (st : Teardown) (action : TeardownAction) (st' : Teardown) (h : Gone st)
    (hstep : st.step action = some st') : Gone st' := by
  refine ⟨h.toUnplugged.step hstep, ?_⟩
  rcases rundown_step hstep with hsame | ⟨event, hevent⟩
  · rw [hsame]
    exact h.idle
  · exact Rundown.idle_step h.gate_shut h.idle hevent

/-- With every call gone nobody touches anything. -/
theorem Gone.untouched {st : Teardown} (h : Gone st) (mem : Memory) :
    ∀ call ∈ st.calls, ¬ call.touches st.map_umem mem := by
  intro call hmem htouches
  have hout : call.phase.role = .out := h.idle _ (List.mem_map_of_mem hmem)
  cases mem with
  | rd_kernel_buf => rcases htouches.2.2 with hphase | hphase <;> rw [hphase] at hout <;> cases hout
  | ioctl_rxmsgs =>
    rcases htouches.2 with hphase | hphase | hphase <;> rw [hphase] at hout <;> cases hout
  | cmd_buf => exact htouches
  | forwarder => exact htouches hout

/-! ## The invariant -/

structure TeardownInv (st : Teardown) : Prop where
  counted : Rundown.Inv st.rundown
  unplugged : st.plugout ≠ .connected → Unplugged st
  scheduled : st.destroy ≠ .unscheduled → st.plugout ≠ .connected
  idle : st.destroy.freeing = true → Rundown.Idle st.rundown

/-- Where the destroy work frees, every call is gone. -/
theorem TeardownInv.gone {st : Teardown} (h : TeardownInv st) (hfreeing : st.destroy.freeing = true) :
    Gone st := by
  have hscheduled : st.destroy ≠ .unscheduled := by
    intro heq
    rw [heq] at hfreeing
    cases hfreeing
  exact ⟨h.unplugged (h.scheduled hscheduled), h.idle hfreeing⟩

/-- Under the condition each free comes behind the last use. -/
theorem teardownInv_step (st : Teardown) (action : TeardownAction) (st' : Teardown)
    (h : TeardownInv st) (hsettled : FreesSettled st action) (hstep : st.step action = some st') :
    TeardownInv st' := by
  refine ⟨?_, fun hbegun' => ?_, fun hscheduled' => ?_, fun hfreeing' => ?_⟩
  · rcases rundown_step hstep with hsame | ⟨event, hevent⟩
    · rw [hsame]
      exact h.counted
    · exact Rundown.inv_step _ event _ h.counted hevent
  · by_cases hbegun : st.plugout = .connected
    · -- only `pcan_usb_plugout` begins, with the stage
      cases teardown_step_cases hstep with
      | enter request nonblock => exact absurd hbegun hbegun'
      | advance i outcome call phase' st₁ hcall hop hframe =>
        exact absurd (hframe.plugout_eq.trans hbegun) hbegun'
      | plugout hspec => exact ⟨hbegun', hspec.stage_lt (.inl hbegun)⟩
      | destroy hspec => exact absurd (hspec.plugout_eq.trans hbegun) hbegun'
      | elsewhere fwd => exact absurd hbegun hbegun'
    · exact (h.unplugged hbegun).step hstep
  · cases teardown_step_cases hstep with
    | enter request nonblock => exact h.scheduled hscheduled'
    | advance i outcome call phase' st₁ hcall hop hframe =>
      exact hframe.plugout_eq.symm ▸ h.scheduled (hframe.destroy_eq ▸ hscheduled')
    | plugout hspec => exact hspec.begun
    | destroy hspec => exact hspec.plugout_eq.symm ▸ h.scheduled hspec.scheduled
    | elsewhere fwd => exact h.scheduled hscheduled'
  · by_cases hfreeing : st.destroy.freeing = true
    · exact ((h.gone hfreeing).step _ _ _ hstep).idle
    · have hzero : action = .destroy ∧ st.destroy = .check_twice ∧ st.pending_ops ≤ 0 := by
        cases teardown_step_cases hstep with
        | enter request nonblock => exact absurd hfreeing' hfreeing
        | advance i outcome call phase' st₁ hcall hop hframe =>
          exact absurd (hframe.destroy_eq ▸ hfreeing') hfreeing
        | plugout hspec =>
          rcases hspec.destroy_eq with hsame | hcheck
          · exact absurd (hsame ▸ hfreeing') hfreeing
          · rw [hcheck] at hfreeing'
            cases hfreeing'
        | destroy hspec =>
          rcases hspec.freeing hfreeing' with hold | hzero
          · exact absurd hold hfreeing
          · exact ⟨rfl, hzero⟩
        | elsewhere fwd => exact absurd hfreeing' hfreeing
      obtain ⟨rfl, htwice, hzero⟩ := hzero
      -- the count is zero, and nobody is on the way to it
      have hnone : .admitted ∉ st.rundown.users := by
        intro hmem
        obtain ⟨call, hcall, hrole⟩ := List.mem_map.mp hmem
        refine hsettled htwice hzero call hcall ?_
        cases hphase : call.phase <;> rw [hphase] at hrole <;> first | rfl | cases hrole
      have hgone : Gone st :=
        ⟨h.unplugged (h.scheduled (htwice ▸ nofun)),
          Rundown.idle_of_count h.counted hzero hnone⟩
      exact (hgone.step _ _ _ hstep).idle

/-- A step from the invariant, with the frees settled, frees only what no call uses. -/
theorem releasesUnused_of_settled {st : Teardown} {action : TeardownAction} (h : TeardownInv st)
    (hsettled : FreesSettled st action) : ReleasesUnused st action := by
  intro st' mem hstep hheld hreleased i
  have hne : st'.allocated mem ≠ st.allocated mem := by
    rw [hheld, hreleased]
    nofun
  cases teardown_step_cases hstep with
  | enter request nonblock => exact absurd rfl hne
  | advance j outcome call phase' st₁ hcall hop hframe =>
    exact absurd (congrFun hframe.allocated_eq mem) hne
  | plugout hspec =>
    rcases hspec.allocated with hsame | ⟨hphase, hmap, hfreed⟩
    · exact absurd (congrFun hsame mem) hne
    obtain rfl : mem = .rd_kernel_buf := by
      by_contra hother
      exact hne (by rw [hfreed, Function.update_of_ne hother])
    have hdone : ReadsDone st := ⟨h.unplugged (hphase ▸ nofun), hsettled hphase hmap⟩
    exact not_goingToUse ReadsDone.step (fun _ => ReadsDone.untouched) (hdone.step _ _ _ hstep) i
  | destroy hspec =>
    rcases hspec.allocated with hsame | hfreeing
    · exact absurd (congrFun hsame mem) hne
    · exact not_goingToUse Gone.step (fun _ hgone => hgone.untouched mem)
        ((h.gone hfreeing).step _ _ _ hstep) i
  | elsewhere fwd => exact absurd rfl hne

/-! ## Runs -/

/-- A device plugged in, with no call in flight. -/
structure Teardown.Connected (st : Teardown) : Prop where
  plugout_eq : st.plugout = .connected
  destroy_eq : st.destroy = .unscheduled
  calls_eq : st.calls = []
  pending_ops_eq : st.pending_ops = 0

/-- Before the unplugging nothing has been freed. -/
theorem Teardown.Connected.inv {st : Teardown} (h : st.Connected) : TeardownInv st := by
  refine ⟨?_, fun hbegun => absurd h.plugout_eq hbegun, fun hscheduled => absurd h.destroy_eq
    hscheduled, fun hfreeing => ?_⟩
  · unfold Rundown.Inv Teardown.rundown
    rw [h.pending_ops_eq, h.calls_eq]
    rfl
  · rw [h.destroy_eq] at hfreeing
    cases hfreeing

/-- In a run in which the read buffer is freed past its readers, and the count is found zero
past the calls on their way to it, every free is one of memory no call is going to use. -/
theorem releases_unused (st₀ : Teardown) (actions : List TeardownAction)
    (hconn : st₀.Connected)
    (hsettled : Runs.Along Teardown.step FreesSettled st₀ actions) :
    Runs.Along Teardown.step ReleasesUnused st₀ actions :=
  Runs.along_of_inv Teardown.step teardownInv_step
    (fun _ _ => releasesUnused_of_settled) hconn.inv hsettled

/-- The character device is open, one message is unread, and user memory is not mapped. -/
def Teardown.connected : Teardown where
  fwd := { Forwarder.idle false with
    stage := PCAN_USB_STAGE_ONE_STARTED
    char_dev := { (Forwarder.idle false).char_dev with open_count := 1, rx_unread_cnt := 1 } }
  pending_ops := 0
  map_umem := false
  allocated := fun _ => true
  calls := []
  plugout := .connected
  destroy := .unscheduled

theorem Teardown.connected_connected : Teardown.connected.Connected := ⟨rfl, rfl, rfl, rfl⟩

/-- A blocking read is about to check the stage again when the device is unplugged. It gives
up, and the rest is freed. -/
def waiting_read_unplugged : List TeardownAction :=
  [.enter (.read 81) false, .advance 0 0, .advance 0 0, .advance 0 0, .plugout, .plugout, .plugout,
    .plugout, .destroy, .destroy, .advance 0 0, .advance 0 0, .destroy, .destroy, .destroy,
    .destroy, .destroy]

theorem releases_unused_waiting_read :
    Runs.Along Teardown.step ReleasesUnused Teardown.connected waiting_read_unplugged
      ∧ (Runs.run Teardown.step Teardown.connected waiting_read_unplugged).any
        (fun st => !st.allocated .rd_kernel_buf && !st.allocated .forwarder) = true :=
  ⟨releases_unused Teardown.connected waiting_read_unplugged Teardown.connected_connected
    (by decide), by decide⟩

/-- A read that does not block has seen a message, and stands before the locked section. -/
def read_before_section : List TeardownAction :=
  [.enter (.read 81) true, .advance 0 0, .advance 0 0, .advance 0 0, .plugout]

/-- A request has passed its stage check, and is not counted yet. -/
def request_uncounted : List TeardownAction :=
  [.enter (.ioctl .read_msg) true, .advance 0 0, .plugout, .plugout, .plugout, .plugout, .destroy,
    .destroy, .destroy, .destroy]

/-- A call that still touches what a step frees is enough to refute it. -/
theorem not_releasesUnused {st st' : Teardown} {action : TeardownAction} {call : Call}
    (mem : Memory) (i : ℕ) (hstep : st.step action = some st') (hheld : st.allocated mem = true)
    (hreleased : st'.allocated mem = false) (hcall : st'.calls[i]? = some call)
    (htouches : call.touches st'.map_umem mem) : ¬ ReleasesUnused st action :=
  fun hunused => hunused st' mem hstep hheld hreleased i ⟨[], st', call, rfl, hcall, htouches⟩

/-- `pcan_chardev_finalize` frees the read buffer under the read, and the destroy work the
forwarder under the request. -/
theorem freed_under_calls :
    Teardown.connected.Connected
      ∧ (∃ st, Runs.run Teardown.step Teardown.connected read_before_section = some st
        ∧ ¬ ReleasesUnused st .plugout)
      ∧ ∃ st, Runs.run Teardown.step Teardown.connected request_uncounted = some st
        ∧ ¬ ReleasesUnused st .destroy :=
  ⟨Teardown.connected_connected,
    ⟨_, rfl, not_releasesUnused .rd_kernel_buf 0 rfl rfl rfl rfl ⟨rfl, rfl, .inl rfl⟩⟩,
    ⟨_, rfl, not_releasesUnused .forwarder 0 rfl rfl rfl rfl
      (show Rundown.Role.admitted ≠ .out from nofun)⟩⟩

end DualPcanUsb
