/-
No wake-up is lost.

A call asleep on `wait_queue_rd` has seen both halves of its condition false on the queue. As
long as the device is plugged in, a message makes the first half hold with a wake-up right
behind it. Unplugging makes the second half hold for good without one; but a call asleep is
counted in `pending_ops`, so the destroy work finds it pending before it frees anything, and
wakes it within a fixed number of its own steps. A `poll` is not counted, and unplugging an
idle device frees the queue it sleeps on.
-/
import DualPcanUsb.Sleepers

set_option autoImplicit false

namespace DualPcanUsb

open WaitQueue

/-! ## The invariant -/

/-- A wake-up is owed for a message between its commit and `wake_up_interruptible`, and for
the unplugging until the destroy work has found nobody left. -/
def WaitState.owed (w : WaitState) : WaitCond → Bool
  | .unread => w.committed
  | .disconnected => decide (w.td.plugout ≠ .connected) && !w.td.destroy.freeing

def WaitState.queue (w : WaitState) : WaitQueue.State Sleeper WaitCond :=
  ⟨w.td.holds, w.owed, w.wait_queue_rd⟩

structure WaitInv (w : WaitState) : Prop where
  covered : Covered w.queue
  calls : ∀ i, w.wait_queue_rd (.call i) = .off
    ∨ ∃ call, w.td.calls[i]? = some call ∧ Waits call.phase (w.wait_queue_rd (.call i))
  polls : ∀ i, w.wait_queue_rd (.poll i) = .off
    ∨ ∃ phase, w.polls[i]? = some phase ∧ PollWaits phase (w.wait_queue_rd (.poll i))
  counted : Rundown.Inv w.td.rundown
  unplugged : w.td.plugout ≠ .connected → Unplugged w.td
  scheduled : w.td.destroy ≠ .unscheduled → w.td.plugout ≠ .connected
  checked : ∀ call ∈ w.td.calls, call.checked

/-- A device plugged in, with nothing in flight. -/
structure WaitState.Connected (w : WaitState) : Prop where
  td : w.td.Connected
  polls_eq : w.polls = []
  entries : ∀ who, w.wait_queue_rd who = .off
  committed_eq : w.committed = false
  waking_eq : w.waking = false

/-- With no call under way nobody is on the queue. -/
theorem WaitState.Connected.inv {w : WaitState} (h : w.Connected) : WaitInv w := by
  refine ⟨covered_of_off h.entries, fun i => .inl (h.entries _), fun i => .inl (h.entries _), ?_,
    fun hbegun => absurd h.td.plugout_eq hbegun, fun hscheduled => absurd h.td.destroy_eq hscheduled,
    ?_⟩
  · unfold Rundown.Inv Teardown.rundown
    rw [h.td.pending_ops_eq, h.td.calls_eq]
    rfl
  · rw [h.td.calls_eq]
    exact nofun

/-- The entry of a call is as its phase says. -/
theorem WaitInv.waits {w : WaitState} (h : WaitInv w) {i : ℕ} {call : Call}
    (hcall : w.td.calls[i]? = some call) : Waits call.phase (w.wait_queue_rd (.call i)) := by
  rcases h.calls i with hoff | ⟨call', hcall', hwaits⟩
  · rw [hoff]
    exact .off _
  · obtain rfl := Option.some.inj (hcall.symm.trans hcall')
    exact hwaits

/-- The entry of a poll is as its phase says. -/
theorem WaitInv.poll_waits {w : WaitState} (h : WaitInv w) {i : ℕ} {phase : PollPhase}
    (hphase : w.polls[i]? = some phase) : PollWaits phase (w.wait_queue_rd (.poll i)) := by
  rcases h.polls i with hoff | ⟨phase', hphase', hwaits⟩
  · rw [hoff]
    exact .off _
  · obtain rfl := Option.some.inj (hphase.symm.trans hphase')
    exact hwaits

/-- Whoever has seen the stage is a call, and counted. -/
theorem WaitInv.pending_of_seen {w : WaitState} (h : WaitInv w) {who : Sleeper}
    (hseen : .disconnected ∈ (w.wait_queue_rd who).seen) : 0 < w.td.pending_ops := by
  cases who with
  | call i =>
    rcases h.calls i with hoff | ⟨call, hcall, hwaits⟩
    · rw [hoff] at hseen
      cases hseen
    have hrole := hwaits.counted (by intro hoff; rw [hoff] at hseen; cases hseen)
    have hmem : Rundown.Role.counted ∈ w.td.rundown.users := by
      rw [← hrole]
      exact List.mem_map_of_mem (List.mem_of_getElem? hcall)
    have hpos : 0 < w.td.rundown.users.count .counted := List.count_pos_iff.mpr hmem
    have hcount : w.td.pending_ops = w.td.rundown.users.count .counted := h.counted
    omega
  | poll i =>
    rcases h.polls i with hoff | ⟨phase, hphase, hwaits⟩
    · rw [hoff] at hseen
      cases hseen
    · -- a poll looks at the count only
      generalize w.wait_queue_rd (.poll i) = entry at hwaits hseen
      cases hwaits <;> simp at hseen

/-- With no operation in flight, nobody has seen anything. -/
theorem WaitInv.unseen_of_quiet {w : WaitState} (h : WaitInv w) (hquiet : w.quiet = true)
    (who : Sleeper) : (w.wait_queue_rd who).seen = [] := by
  obtain ⟨hcalls, hpolls⟩ := Bool.and_eq_true_iff.mp hquiet
  cases who with
  | call i =>
    rcases h.calls i with hoff | ⟨call, hcall, hwaits⟩
    · rw [hoff]
      rfl
    have hended := List.all_eq_true.mp hcalls call (List.mem_of_getElem? hcall)
    generalize w.wait_queue_rd (.call i) = entry at hwaits
    generalize call.phase = phase at hwaits hended
    cases hwaits <;> first | rfl | cases hended
  | poll i =>
    rcases h.polls i with hoff | ⟨phase, hphase, hwaits⟩
    · rw [hoff]
      rfl
    have hended := List.all_eq_true.mp hpolls phase (List.mem_of_getElem? hphase)
    generalize w.wait_queue_rd (.poll i) = entry at hwaits
    cases hwaits <;> first | rfl | cases hended

/-! ## Without the queue -/

/-- A step is one of `Teardown`, or none. -/
theorem wait_step_teardown {w w' : WaitState} {action : WaitAction} (hinv : WaitInv w)
    (h : w.step action = some w') : w'.td = w.td ∨ ∃ a, w.td.step a = some w'.td := by
  cases action with
  | enter request nonblock =>
    rw [WaitState.step] at h
    obtain ⟨td, htd, rfl⟩ := Option.map_eq_some_iff.mp h
    exact .inr ⟨_, htd⟩
  | advance i outcome =>
    rw [WaitState.step] at h
    split at h
    · rename_i call hcall
      obtain ⟨⟨⟨phase', entry'⟩, td'⟩, hop, rfl⟩ := Option.map_eq_some_iff.mp h
      obtain ⟨hstep, -, -, -⟩ := wait_event_spec (hinv.waits hcall) hop
      rcases hstep with ⟨rfl, rfl⟩ | ⟨outcome', hop'⟩
      · left
        obtain ⟨hi, hget⟩ := List.getElem?_eq_some_iff.mp hcall
        dsimp only
        rw [← hget, List.set_getElem_self]
      · refine .inr ⟨.advance i outcome', ?_⟩
        rw [Teardown.step, hcall]
        simp only [hop', Option.map_some]
    · cases h
  | signal i =>
    rw [WaitState.step] at h
    split at h <;> cases h
    exact .inl rfl
  | poll =>
    cases h
    exact .inl rfl
  | poll_advance i outcome =>
    rw [WaitState.step] at h
    split at h
    · obtain ⟨_, _, rfl⟩ := Option.map_eq_some_iff.mp h
      exact .inl rfl
    · cases h
  | commit sample =>
    rw [WaitState.step] at h
    split at h <;> cases h
    refine .inr ⟨.elsewhere { w.td.fwd with
      char_dev := decode_data_commit sample w.td.fwd.char_dev }, ?_⟩
    rw [Teardown.step]
    dsimp only [Teardown.set_char_dev]
    split <;> rfl
  | wake_up =>
    rw [WaitState.step] at h
    split at h <;> cases h
    exact .inl rfl
  | plugout =>
    rw [WaitState.step] at h
    obtain ⟨td, htd, rfl⟩ := Option.map_eq_some_iff.mp h
    exact .inr ⟨.plugout, htd⟩
  | destroy =>
    rw [WaitState.step] at h
    split at h
    · cases h
      exact .inl rfl
    · obtain ⟨td, htd, rfl⟩ := Option.map_eq_some_iff.mp h
      exact .inr ⟨.destroy, htd⟩
  | elsewhere fwd =>
    rw [WaitState.step] at h
    obtain ⟨-, h⟩ := Option.ite_none_right_eq_some.mp h
    obtain ⟨td, htd, rfl⟩ := Option.map_eq_some_iff.mp h
    exact .inr ⟨_, htd⟩

/-- Once the unplugging has lowered the stage, it stays low. -/
theorem unplugged_step {st st' : Teardown} {action : TeardownAction}
    (h : st.plugout ≠ .connected → Unplugged st) (hstep : st.step action = some st')
    (hbegun' : st'.plugout ≠ .connected) : Unplugged st' := by
  by_cases hbegun : st.plugout = .connected
  · cases teardown_step_cases hstep with
    | enter request nonblock => exact absurd hbegun hbegun'
    | advance i outcome call phase' st₁ hcall hop hframe =>
      exact absurd (hframe.plugout_eq.trans hbegun) hbegun'
    | plugout hspec => exact ⟨hbegun', hspec.stage_lt (.inl hbegun)⟩
    | destroy hspec => exact absurd (hspec.plugout_eq.trans hbegun) hbegun'
    | elsewhere fwd => exact absurd hbegun hbegun'
  · exact (h hbegun).step hstep

/-- The destroy work is scheduled by an unplugging only. -/
theorem scheduled_step {st st' : Teardown} {action : TeardownAction}
    (h : st.destroy ≠ .unscheduled → st.plugout ≠ .connected) (hstep : st.step action = some st')
    (hscheduled' : st'.destroy ≠ .unscheduled) : st'.plugout ≠ .connected := by
  cases teardown_step_cases hstep with
  | enter request nonblock => exact h hscheduled'
  | advance i outcome call phase' st₁ hcall hop hframe =>
    exact hframe.plugout_eq.symm ▸ h (hframe.destroy_eq ▸ hscheduled')
  | plugout hspec => exact hspec.begun
  | destroy hspec => exact hspec.plugout_eq.symm ▸ h hspec.scheduled
  | elsewhere fwd => exact h hscheduled'

/-! ## Every step keeps the entries in place -/

/-- A wake-up does not take the entry of a call out of its place. -/
theorem Waits.wake {phase : CallPhase} {entry : Waiter WaitCond} (h : Waits phase entry) :
    Waits phase entry.wake := by
  cases h with
  | off => exact .off _
  | woken_unread => exact .woken_unread
  | woken_stage => exact .woken_stage
  | queued => exact .woken_unread
  | unread => exact .woken_stage
  | both asleep => exact .woken_unread

/-- A wake-up does not take the entry of a poll out of its place. -/
theorem PollWaits.wake {phase : PollPhase} {entry : Waiter WaitCond} (h : PollWaits phase entry) :
    PollWaits phase entry.wake := by
  cases h with
  | off => exact .off _
  | woken _ hlive => exact .woken _ hlive
  | _ => exact .woken _ rfl

/-- Where each entry is, as the invariant has it. -/
def InPlace {α : Type} (items : List α) (waits : α → Waiter WaitCond → Prop)
    (entries : ℕ → Waiter WaitCond) : Prop :=
  ∀ i, entries i = .off ∨ ∃ a, items[i]? = some a ∧ waits a (entries i)

section

variable {α : Type} {items : List α} {waits : α → Waiter WaitCond → Prop}
  {entries : ℕ → Waiter WaitCond}

/-- A new call begins with no entry on the queue. -/
theorem InPlace.append (h : InPlace items waits entries) (a : α) :
    InPlace (items ++ [a]) waits entries := by
  intro i
  rcases h i with hoff | ⟨b, hb, hwaits⟩
  · exact .inl hoff
  · exact .inr ⟨b, by rw [List.getElem?_append_left (List.getElem?_eq_some_iff.mp hb).1, hb],
      hwaits⟩

/-- One item moves with its entry. -/
theorem InPlace.set (h : InPlace items waits entries) {entries' : ℕ → Waiter WaitCond} {i : ℕ}
    {a a' : α} (hi : items[i]? = some a) (hwaits : waits a' (entries' i))
    (hother : ∀ j, j ≠ i → entries' j = entries j) :
    InPlace (items.set i a') waits entries' := by
  intro j
  rcases eq_or_ne j i with rfl | hne
  · exact .inr ⟨a', List.getElem?_set_self (List.getElem?_eq_some_iff.mp hi).1, hwaits⟩
  · rw [hother j hne]
    rcases h j with hoff | ⟨b, hb, hb'⟩
    · exact .inl hoff
    · exact .inr ⟨b, by rw [List.getElem?_set_ne hne.symm, hb], hb'⟩

/-- Waking all keeps all in place. -/
theorem InPlace.wake (h : InPlace items waits entries)
    (hwake : ∀ {a entry}, waits a entry → waits a entry.wake) :
    InPlace items waits fun i => (entries i).wake := by
  intro i
  rcases h i with hoff | ⟨a, ha, hwaits⟩
  · left
    dsimp only
    rw [hoff]
    rfl
  · exact .inr ⟨a, ha, hwake hwaits⟩

end

/-- The entries of the calls, in place. -/
def WaitState.CallsInPlace (w : WaitState) : Prop :=
  InPlace w.td.calls (fun call => Waits call.phase) fun i => w.wait_queue_rd (.call i)

def WaitState.PollsInPlace (w : WaitState) : Prop :=
  InPlace w.polls PollWaits fun i => w.wait_queue_rd (.poll i)

theorem update_call_other {β : Type} (f : Sleeper → β) {i j : ℕ} (b : β) (hne : j ≠ i) :
    Function.update f (.call i) b (.call j) = f (.call j) :=
  Function.update_of_ne (by simpa using hne) _ _

theorem update_poll_other {β : Type} (f : Sleeper → β) {i j : ℕ} (b : β) (hne : j ≠ i) :
    Function.update f (.poll i) b (.poll j) = f (.poll j) :=
  Function.update_of_ne (by simpa using hne) _ _

theorem update_call_poll {β : Type} (f : Sleeper → β) (i j : ℕ) (b : β) :
    Function.update f (.call i) b (.poll j) = f (.poll j) :=
  Function.update_of_ne (by simp) _ _

theorem update_poll_call {β : Type} (f : Sleeper → β) (i j : ℕ) (b : β) :
    Function.update f (.poll i) b (.call j) = f (.call j) :=
  Function.update_of_ne (by simp) _ _

/-- Every step moves an entry together with the phase it belongs to. -/
theorem inPlace_step {w w' : WaitState} {action : WaitAction} (hinv : WaitInv w)
    (h : w.step action = some w') : w'.CallsInPlace ∧ w'.PollsInPlace := by
  have hcalls : w.CallsInPlace := hinv.calls
  have hpolls : w.PollsInPlace := hinv.polls
  -- whoever leaves the calls alone leaves their entries in place
  have hsame : ∀ td : Teardown, td.calls = w.td.calls →
      InPlace td.calls (fun call => Waits call.phase) fun i => w.wait_queue_rd (.call i) :=
    fun td heq => heq ▸ hcalls
  cases action with
  | enter request nonblock =>
    rw [WaitState.step] at h
    obtain ⟨td, htd, rfl⟩ := Option.map_eq_some_iff.mp h
    cases htd
    exact ⟨hcalls.append _, hpolls⟩
  | advance i outcome =>
    rw [WaitState.step] at h
    split at h
    · rename_i call hcall
      obtain ⟨⟨⟨phase', entry'⟩, td'⟩, hop, rfl⟩ := Option.map_eq_some_iff.mp h
      obtain ⟨hstep, hwaits, -, -⟩ := wait_event_spec (hinv.waits hcall) hop
      have heq : td'.calls = w.td.calls := by
        rcases hstep with ⟨-, rfl⟩ | ⟨outcome', hop'⟩
        · rfl
        · exact (operate_spec_call hop').1.calls_eq
      refine ⟨?_, ?_⟩
      · unfold WaitState.CallsInPlace
        dsimp only
        rw [heq]
        refine hcalls.set hcall ?_ fun j hne => update_call_other _ _ hne
        dsimp only
        rw [Function.update_self]
        exact hwaits
      · intro j
        dsimp only
        rw [update_call_poll]
        exact hpolls j
    · cases h
  | signal i =>
    rw [WaitState.step] at h
    split at h <;> cases h
    rename_i seen hasleep
    refine ⟨fun j => ?_, fun j => ?_⟩
    · dsimp only
      rcases eq_or_ne j i with rfl | hne
      · rcases hinv.calls j with hoff | ⟨call, hcall, hwaits⟩
        · rw [hasleep] at hoff
          cases hoff
        · refine .inr ⟨call, hcall, ?_⟩
          rw [Function.update_self]
          rw [hasleep] at hwaits
          exact hwaits.wake
      · rw [update_call_other _ _ hne]
        exact hcalls j
    · dsimp only
      rw [update_call_poll]
      exact hpolls j
  | poll =>
    cases h
    exact ⟨hcalls, hpolls.append _⟩
  | poll_advance i outcome =>
    rw [WaitState.step] at h
    split at h
    · rename_i phase hphase
      obtain ⟨⟨phase', entry'⟩, hop, rfl⟩ := Option.map_eq_some_iff.mp h
      obtain ⟨hwaits, -⟩ := poll_step_spec (hinv.poll_waits hphase) hop
      refine ⟨fun j => ?_, ?_⟩
      · dsimp only
        rw [update_poll_call]
        exact hcalls j
      · refine hpolls.set hphase ?_ fun j hne => update_poll_other _ _ hne
        dsimp only
        rw [Function.update_self]
        exact hwaits
    · cases h
  | commit sample =>
    rw [WaitState.step] at h
    split at h <;> cases h
    exact ⟨hcalls, hpolls⟩
  | wake_up =>
    rw [WaitState.step] at h
    split at h <;> cases h
    exact ⟨hcalls.wake Waits.wake, hpolls.wake PollWaits.wake⟩
  | plugout =>
    rw [WaitState.step] at h
    obtain ⟨td, htd, rfl⟩ := Option.map_eq_some_iff.mp h
    exact ⟨hsame td (pcan_usb_plugout_spec htd).calls_eq, hpolls⟩
  | destroy =>
    rw [WaitState.step] at h
    split at h
    · cases h
      exact ⟨hcalls.wake Waits.wake, hpolls.wake PollWaits.wake⟩
    · obtain ⟨td, htd, rfl⟩ := Option.map_eq_some_iff.mp h
      exact ⟨hsame td (destroy_usb_forwarder_spec htd).calls_eq, hpolls⟩
  | elsewhere fwd =>
    rw [WaitState.step] at h
    obtain ⟨-, h⟩ := Option.ite_none_right_eq_some.mp h
    obtain ⟨td, htd, rfl⟩ := Option.map_eq_some_iff.mp h
    cases htd
    exact ⟨hcalls, hpolls⟩

/-! ## Every step keeps the wake-ups owed -/

/-- A step that leaves the queue alone: a message that comes to be there, or a stage set back,
has its wake-up owed. -/
theorem WaitInv.covered_change {w : WaitState} (h : WaitInv w) {td : Teardown} {committed waking : Bool}
    (hunread : 0 < td.rx_unread_cnt →
      committed = true ∨ 0 < w.td.rx_unread_cnt ∧ w.committed = false)
    (hstage : td.stage < PCAN_USB_STAGE_ONE_STARTED →
      (∃ who, .disconnected ∈ (w.wait_queue_rd who).seen) →
        (td.plugout ≠ .connected ∧ td.destroy.freeing = false)
          ∨ w.td.stage < PCAN_USB_STAGE_ONE_STARTED ∧ w.owed .disconnected = false) :
    Covered ({ w with td := td, committed := committed, waking := waking } : WaitState).queue := by
  refine h.covered.change td.holds _ fun p hp hseen => ?_
  cases p with
  | unread =>
    rcases hunread (of_decide_eq_true hp) with howed | ⟨hold, hnone⟩
    · exact .inl howed
    · exact .inr ⟨decide_eq_true hold, hnone⟩
  | disconnected =>
    rcases hstage (of_decide_eq_true hp) hseen with ⟨hbegun, hlive⟩ | ⟨hold, hnone⟩
    · left
      unfold WaitState.owed
      dsimp only
      rw [decide_eq_true hbegun, hlive]
      rfl
    · exact .inr ⟨decide_eq_true hold, hnone⟩

/-- The destroy work wakes whoever it finds, and then frees. -/
theorem not_owed_of_freeing {w : WaitState} (hfreeing : w.td.destroy.freeing = true) :
    w.owed .disconnected = false := by
  unfold WaitState.owed
  dsimp only
  rw [hfreeing, Bool.not_true, Bool.and_false]

/-- The same stage, in the same state of the unplugging. -/
theorem WaitInv.owed_of_same {w : WaitState} (hbelow : w.td.stage < PCAN_USB_STAGE_ONE_STARTED)
    {td : Teardown} (hplugout : td.plugout = w.td.plugout)
    (hdestroy : td.destroy.freeing = w.td.destroy.freeing) :
    (td.plugout ≠ .connected ∧ td.destroy.freeing = false)
      ∨ w.td.stage < PCAN_USB_STAGE_ONE_STARTED ∧ w.owed .disconnected = false := by
  rw [hplugout, hdestroy]
  by_cases howed : w.td.plugout ≠ .connected ∧ w.td.destroy.freeing = false
  · exact .inl howed
  · refine .inr ⟨hbelow, ?_⟩
    unfold WaitState.owed
    simp_all

/-- Where a message is unread now, one was before or was just committed. -/
theorem unread_kept {w : WaitState} {td : Teardown} (hle : td.rx_unread_cnt ≤ w.td.rx_unread_cnt)
    (hpos : 0 < td.rx_unread_cnt) :
    w.committed = true ∨ 0 < w.td.rx_unread_cnt ∧ w.committed = false := by
  cases hcommitted : w.committed with
  | true => exact .inl rfl
  | false => exact .inr ⟨by omega, rfl⟩

/-- An entry moves, with the state it was looked at in. -/
theorem covered_moved {w : WaitState} (h : Covered w.queue) (who : Sleeper)
    {entry' : Waiter WaitCond} (hmoved : EntryMoved w.td (w.wait_queue_rd who) entry') :
    Covered ({ w with wait_queue_rd := Function.update w.wait_queue_rd who entry' } :
      WaitState).queue := by
  cases hmoved with
  | move hseen => exact h.move who entry' hseen
  | look p hfalse heq =>
    rw [heq]
    exact h.look who hfalse

/-- Unplugging takes no message out. -/
theorem pcan_usb_plugout_unread {st st' : Teardown} (h : st.pcan_usb_plugout = some st') :
    st'.rx_unread_cnt = st.rx_unread_cnt := by
  unfold Teardown.pcan_usb_plugout at h
  split at h <;> cases h
  · rfl
  · unfold Teardown.pcan_chardev_finalize
    split <;> rfl
  · unfold Teardown.unregister_candev
    split <;> rfl
  · rfl

/-- The destroy work takes no message out. -/
theorem destroy_usb_forwarder_unread {st st' : Teardown} (h : st.destroy_usb_forwarder = some st') :
    st'.rx_unread_cnt = st.rx_unread_cnt := by
  unfold Teardown.destroy_usb_forwarder at h
  split at h <;> cases h <;> rfl

/-- Each part of the condition that comes to hold has its wake-up owed by the one who made it
hold. -/
theorem covered_step {w w' : WaitState} {action : WaitAction} (hinv : WaitInv w)
    (h : w.step action = some w') : Covered w'.queue := by
  cases action with
  | enter request nonblock =>
    rw [WaitState.step] at h
    obtain ⟨td, htd, rfl⟩ := Option.map_eq_some_iff.mp h
    cases htd
    exact hinv.covered
  | advance i outcome =>
    rw [WaitState.step] at h
    split at h
    · rename_i call hcall
      obtain ⟨⟨⟨phase', entry'⟩, td'⟩, hop, rfl⟩ := Option.map_eq_some_iff.mp h
      obtain ⟨hstep, -, hmoved, hwaiting⟩ := wait_event_spec (hinv.waits hcall) hop
      by_cases hoff : w.wait_queue_rd (.call i) = .off
      · -- not in the queue before: whatever the step does, the call has seen nothing
        have hseen : entry'.seen = [] := by
          rw [hoff] at hmoved
          cases hmoved with
          | move hseen => exact List.eq_nil_iff_forall_not_mem.mpr fun p hp => by cases hseen p hp
          | look p hfalse heq => rw [heq]; rfl
        have hchange : Covered ({ w with td := td' } : WaitState).queue := by
          rcases hstep with ⟨-, rfl⟩ | ⟨outcome', hop'⟩
          · exact hinv.covered
          have hframe := (operate_spec_call hop').1
          have hle := operate_unread_le (hinv.checked call (List.mem_of_getElem? hcall)) hop'
          refine hinv.covered_change (unread_kept hle) fun hbelow _ => ?_
          exact WaitInv.owed_of_same (hframe.stage_eq ▸ hbelow) hframe.plugout_eq
            (congrArg _ hframe.destroy_eq)
        exact hchange.move (.call i) entry' (by rw [hseen]; simp)
      · obtain rfl := hwaiting hoff
        exact covered_moved hinv.covered (.call i) hmoved
    · cases h
  | signal i =>
    rw [WaitState.step] at h
    split at h <;> cases h
    exact hinv.covered.move (.call i) .woken (by simp)
  | poll =>
    cases h
    exact hinv.covered
  | poll_advance i outcome =>
    rw [WaitState.step] at h
    split at h
    · rename_i phase hphase
      obtain ⟨⟨phase', entry'⟩, hop, rfl⟩ := Option.map_eq_some_iff.mp h
      exact covered_moved hinv.covered (.poll i) (poll_step_spec (hinv.poll_waits hphase) hop).2
    · cases h
  | commit sample =>
    rw [WaitState.step] at h
    split at h <;> cases h
    rename_i hnone
    have hunread := commit_unread sample w.td.fwd.char_dev
    refine hinv.covered_change (fun hpos => ?_) fun hbelow _ => ?_
    · cases hslot : sample.chardev_msg.isSome with
      | true => exact .inl rfl
      | false =>
        -- a full ring: nothing was added
        rw [hslot, if_neg Bool.false_ne_true] at hunread
        have hold : 0 < (decode_data_commit sample w.td.fwd.char_dev).rx_unread_cnt := hpos
        rw [hunread] at hold
        exact .inr ⟨hold, Bool.eq_false_iff.mpr hnone⟩
    · exact WaitInv.owed_of_same hbelow rfl rfl
  | wake_up =>
    rw [WaitState.step] at h
    split at h <;> cases h
    exact covered_wake _ _ _
  | plugout =>
    rw [WaitState.step] at h
    obtain ⟨td, htd, rfl⟩ := Option.map_eq_some_iff.mp h
    have hspec := pcan_usb_plugout_spec htd
    refine hinv.covered_change (unread_kept (pcan_usb_plugout_unread htd).le) fun hbelow _ => ?_
    rcases hspec.destroy_eq with hsame | hcheck
    · cases hfreeing : w.td.destroy.freeing with
      | false => exact .inl ⟨hspec.begun, by rw [hsame, hfreeing]⟩
      | true =>
        have hscheduled : w.td.destroy ≠ .unscheduled := by
          intro heq
          rw [heq] at hfreeing
          cases hfreeing
        exact .inr ⟨(hinv.unplugged (hinv.scheduled hscheduled)).stage_lt,
          not_owed_of_freeing hfreeing⟩
    · exact .inl ⟨hspec.begun, by rw [hcheck]; rfl⟩
  | destroy =>
    rw [WaitState.step] at h
    split at h
    · cases h
      exact covered_wake _ _ _
    obtain ⟨td, htd, rfl⟩ := Option.map_eq_some_iff.mp h
    have hspec := destroy_usb_forwarder_spec htd
    have hbegun := hinv.scheduled hspec.scheduled
    refine hinv.covered_change (unread_kept (destroy_usb_forwarder_unread htd).le)
      fun _ ⟨who, hseen⟩ => ?_
    cases hfreeing' : td.destroy.freeing with
    | false => exact .inl ⟨hspec.plugout_eq.symm ▸ hbegun, rfl⟩
    | true =>
      rcases hspec.freeing hfreeing' with hfreeing | ⟨-, hzero⟩
      · exact .inr ⟨(hinv.unplugged hbegun).stage_lt, not_owed_of_freeing hfreeing⟩
      · -- whoever has seen the stage is pending, and the work has found nobody
        exact absurd (hinv.pending_of_seen hseen) (not_lt.mpr hzero)
  | elsewhere fwd =>
    rw [WaitState.step] at h
    obtain ⟨⟨hle, hstage⟩, h⟩ := Option.ite_none_right_eq_some.mp h
    obtain ⟨td, htd, rfl⟩ := Option.map_eq_some_iff.mp h
    cases htd
    refine hinv.covered_change (fun hpos => unread_kept (w := w) ?_ hpos) fun hbelow ⟨who, hseen⟩ => ?_
    · unfold Teardown.rx_unread_cnt
      dsimp only
      split <;> exact hle
    · by_cases hconn : w.td.plugout = .connected
      · unfold Teardown.stage at hbelow
        dsimp only at hbelow
        rw [if_pos hconn] at hbelow
        rcases hstage hconn with hup | hquiet
        · omega
        · rw [hinv.unseen_of_quiet hquiet who] at hseen
          cases hseen
      · refine WaitInv.owed_of_same ?_ rfl rfl
        unfold Teardown.stage at hbelow ⊢
        dsimp only at hbelow
        rw [if_neg hconn] at hbelow
        exact hbelow

/-- Both halves of the invariant together, over one step. -/
theorem waitInv_step (w : WaitState) (action : WaitAction) (w' : WaitState) (h : WaitInv w)
    (hstep : w.step action = some w') : WaitInv w' := by
  obtain ⟨hcalls, hpolls⟩ := inPlace_step h hstep
  have hcovered := covered_step h hstep
  rcases wait_step_teardown h hstep with hsame | ⟨a, htd⟩
  · exact ⟨hcovered, hcalls, hpolls, hsame ▸ h.counted, hsame ▸ h.unplugged, hsame ▸ h.scheduled,
      hsame ▸ h.checked⟩
  · refine ⟨hcovered, hcalls, hpolls, ?_, unplugged_step h.unplugged htd,
      scheduled_step h.scheduled htd, forall_calls_step h.checked entry_checked operate_checked htd⟩
    rcases rundown_step htd with hsame | ⟨event, hevent⟩
    · rw [hsame]
      exact h.counted
    · exact Rundown.inv_step _ event _ h.counted hevent

/-! ## No wake-up is lost -/

/-- Asleep, a call has seen both halves. -/
theorem WaitInv.call_asleep {w : WaitState} (h : WaitInv w) {i : ℕ} {seen : List WaitCond}
    (hasleep : w.wait_queue_rd (.call i) = .on true seen) (p : WaitCond) : p ∈ seen := by
  rcases h.calls i with hoff | ⟨call, hcall, hwaits⟩
  · rw [hasleep] at hoff
    cases hoff
  · rw [hasleep] at hwaits
    generalize call.phase = phase at hwaits
    cases hwaits
    cases p <;> simp

/-- A poll that sleeps has seen no message. -/
theorem WaitInv.poll_asleep {w : WaitState} (h : WaitInv w) {i : ℕ} {seen : List WaitCond}
    (hasleep : w.wait_queue_rd (.poll i) = .on true seen) : .unread ∈ seen := by
  rcases h.polls i with hoff | ⟨phase, hphase, hwaits⟩
  · rw [hasleep] at hoff
    cases hoff
  · rw [hasleep] at hwaits
    cases hwaits
    simp

/-- Whoever has seen a part false that holds now is owed a wake-up. -/
theorem WaitInv.owed_of_seen {w : WaitState} (h : WaitInv w) {who : Sleeper} {asleep : Bool}
    {seen : List WaitCond} (hentry : w.wait_queue_rd who = .on asleep seen) {p : WaitCond}
    (hp : p ∈ seen) (hholds : w.td.holds p = true) : w.owed p = true :=
  h.covered who p (by rw [show w.queue.waiters who = _ from hentry]; exact hp) hholds

/-- While a call sleeps, an unread message is one whose wake-up follows, and a stage set back
one whose destroy work has not let go of the forwarder yet; while a `poll` sleeps, the former. -/
theorem no_wake_up_lost (w₀ w : WaitState) (actions : List WaitAction) (hconn : w₀.Connected)
    (hrun : Runs.run WaitState.step w₀ actions = some w) :
    (∀ i seen, w.wait_queue_rd (.call i) = .on true seen →
      (0 < w.td.rx_unread_cnt → w.committed = true)
        ∧ (w.td.stage < PCAN_USB_STAGE_ONE_STARTED →
          w.td.plugout ≠ .connected ∧ w.td.destroy.freeing = false))
      ∧ ∀ i seen, w.wait_queue_rd (.poll i) = .on true seen →
        0 < w.td.rx_unread_cnt → w.committed = true := by
  have hinv := Runs.run_invariant WaitState.step waitInv_step hconn.inv hrun
  refine ⟨fun i seen hasleep => ⟨fun hunread => ?_, fun hbelow => ?_⟩, fun i seen hasleep hunread => ?_⟩
  · exact hinv.owed_of_seen hasleep (hinv.call_asleep hasleep .unread) (decide_eq_true hunread)
  · have howed := hinv.owed_of_seen hasleep (hinv.call_asleep hasleep .disconnected)
      (decide_eq_true hbelow)
    obtain ⟨hbegun, hlive⟩ := Bool.and_eq_true_iff.mp howed
    exact ⟨of_decide_eq_true hbegun, by simpa using hlive⟩
  · exact hinv.owed_of_seen hasleep (hinv.poll_asleep hasleep) (decide_eq_true hunread)

/-! ## A plugged device with an open file -/

/-- The character device is open, its ring is empty, and nobody waits. -/
def WaitState.connected : WaitState where
  td := { Teardown.connected with
    fwd := { Teardown.connected.fwd with
      char_dev := { Teardown.connected.fwd.char_dev with rx_unread_cnt := 0 } } }
  polls := []
  wait_queue_rd := fun _ => .off
  committed := false
  waking := false

theorem WaitState.connected_connected : WaitState.connected.Connected :=
  ⟨⟨rfl, rfl, rfl, rfl⟩, rfl, fun _ => rfl, rfl, rfl⟩

/-- A blocking read and a `poll` go to sleep. -/
def going_to_sleep : List WaitAction :=
  [.enter (.read 81) false] ++ List.replicate 7 (.advance 0 0)
    ++ .poll :: List.replicate 4 (.poll_advance 0 0)

/-- A message comes in while they sleep; its wake-up follows. -/
theorem no_wake_up_lost_commit :
    ∃ w, Runs.run WaitState.step WaitState.connected (going_to_sleep ++ [.commit ⟨0, 0⟩]) = some w
      ∧ (∃ seen, w.wait_queue_rd (.call 0) = .on true seen) ∧ 0 < w.td.rx_unread_cnt
      ∧ w.committed = true := by
  refine ⟨_, rfl, ⟨_, rfl⟩, by decide, ?_⟩
  exact ((no_wake_up_lost WaitState.connected _ (going_to_sleep ++ [.commit ⟨0, 0⟩])
    WaitState.connected_connected rfl).1 0 _ rfl).1 (by decide)

/-! ## Unplugging wakes every call -/

/-- The steps of `pcan_usb_plugout` and of the destroy work. -/
def WaitAction.unplugs : WaitAction → Bool
  | .plugout | .destroy => true
  | _ => false

def WaitState.call_asleep (w : WaitState) (i : ℕ) : Bool :=
  match w.wait_queue_rd (.call i) with
  | .on true _ => true
  | _ => false

/-- A call is asleep if its entry says so. -/
theorem call_asleep_iff {w : WaitState} {i : ℕ} :
    w.call_asleep i = true ↔ ∃ seen, w.wait_queue_rd (.call i) = .on true seen := by
  unfold WaitState.call_asleep
  split
  · rename_i seen hentry
    exact ⟨fun _ => ⟨seen, hentry⟩, fun _ => rfl⟩
  · rename_i hother
    exact ⟨nofun, fun ⟨seen, hentry⟩ => absurd hentry (hother seen)⟩

/-- The steps `pcan_usb_plugout` has left. -/
def PlugoutPhase.left : PlugoutPhase → ℕ
  | .connected => 4
  | .finalize => 3
  | .unregister_candev => 2
  | .schedule => 1
  | .done => 0

/-- The steps of the unplugging up to its next wake-up, with operations pending. -/
def WaitState.wake_distance (w : WaitState) : ℕ :=
  if w.waking then 1
  else
    match w.td.destroy with
    | .resched => 2
    | .check | .check_twice => 3
    | .unscheduled => w.td.plugout.left + 3
    | .free_cmd_buf | .free_ioctl_rxmsgs | .free_candev | .done => 0

/-- The destroy work is scheduled by the last step of `pcan_usb_plugout`. -/
structure InOrder (w : WaitState) : Prop where
  plugout_done : w.td.plugout = .done ↔ w.td.destroy ≠ .unscheduled
  waking : w.waking = true → w.td.destroy ≠ .unscheduled

/-- Queueing up and going to sleep change nothing of the device. -/
theorem wait_event_frame {outcome : Int} {call : Call} {entry entry' : Waiter WaitCond}
    {st st' : Teardown} {phase' : CallPhase} (hwaits : Waits call.phase entry)
    (h : call.wait_event_interruptible outcome entry st = some ((phase', entry'), st')) :
    CallFrame st st' := by
  rcases (wait_event_spec hwaits h).call_step with ⟨-, rfl⟩ | ⟨outcome', hop⟩
  · exact ⟨rfl, rfl, rfl, rfl, rfl, rfl⟩
  · exact (operate_spec_call hop).1

/-- Destroy work that takes a step was scheduled. -/
theorem destroy_scheduled {st st' : Teardown} (h : st.destroy_usb_forwarder = some st') :
    st'.destroy ≠ .unscheduled := by
  unfold Teardown.destroy_usb_forwarder at h
  split at h <;> cases h <;> dsimp only <;> (try split) <;> exact nofun

/-- Whatever else happens, the unplugging stays where it is. -/
theorem unplugging_same {w w' : WaitState} {action : WaitAction} (hinv : WaitInv w)
    (h : w.step action = some w') (hother : action.unplugs = false) :
    w'.td.plugout = w.td.plugout ∧ w'.td.destroy = w.td.destroy ∧ w'.waking = w.waking := by
  cases action with
  | enter request nonblock =>
    rw [WaitState.step] at h
    obtain ⟨td, htd, rfl⟩ := Option.map_eq_some_iff.mp h
    cases htd
    exact ⟨rfl, rfl, rfl⟩
  | advance i outcome =>
    rw [WaitState.step] at h
    split at h
    · rename_i call hcall
      obtain ⟨⟨⟨phase', entry'⟩, td'⟩, hop, rfl⟩ := Option.map_eq_some_iff.mp h
      have hframe := wait_event_frame (hinv.waits hcall) hop
      exact ⟨hframe.plugout_eq, hframe.destroy_eq, rfl⟩
    · cases h
  | signal i =>
    rw [WaitState.step] at h
    split at h <;> cases h
    exact ⟨rfl, rfl, rfl⟩
  | poll =>
    cases h
    exact ⟨rfl, rfl, rfl⟩
  | poll_advance i outcome =>
    rw [WaitState.step] at h
    split at h
    · obtain ⟨_, -, rfl⟩ := Option.map_eq_some_iff.mp h
      exact ⟨rfl, rfl, rfl⟩
    · cases h
  | commit sample =>
    rw [WaitState.step] at h
    split at h <;> cases h
    exact ⟨rfl, rfl, rfl⟩
  | wake_up =>
    rw [WaitState.step] at h
    split at h <;> cases h
    exact ⟨rfl, rfl, rfl⟩
  | plugout => cases hother
  | destroy => cases hother
  | elsewhere fwd =>
    rw [WaitState.step] at h
    obtain ⟨-, h⟩ := Option.ite_none_right_eq_some.mp h
    obtain ⟨td, htd, rfl⟩ := Option.map_eq_some_iff.mp h
    cases htd
    exact ⟨rfl, rfl, rfl⟩

/-- `pcan_usb_plugout` comes one step closer to its end, and schedules the work there. -/
theorem plugout_order {st st' : Teardown} (h : st.pcan_usb_plugout = some st') :
    st.plugout ≠ .done ∧ st'.plugout.left + 1 = st.plugout.left
      ∧ st'.destroy = if st'.plugout = .done then .check else st.destroy := by
  unfold Teardown.pcan_usb_plugout at h
  split at h <;> rename_i hphase <;> cases h
  · exact ⟨hphase ▸ nofun, by rw [hphase]; rfl, rfl⟩
  · refine ⟨hphase ▸ nofun, by rw [hphase]; rfl, ?_⟩
    unfold Teardown.pcan_chardev_finalize
    split <;> rfl
  · refine ⟨hphase ▸ nofun, by rw [hphase]; rfl, ?_⟩
    unfold Teardown.unregister_candev
    split <;> rfl
  · exact ⟨hphase ▸ nofun, by rw [hphase]; rfl, rfl⟩

/-- The unplugging and the destroy work go on in the order of the source. -/
theorem inOrder_step {w w' : WaitState} {action : WaitAction} (hinv : WaitInv w) (h : InOrder w)
    (hstep : w.step action = some w') : InOrder w' := by
  cases hunplugs : action.unplugs with
  | false =>
    obtain ⟨hplugout, hdestroy, hwaking⟩ := unplugging_same hinv hstep hunplugs
    exact ⟨by rw [hplugout, hdestroy]; exact h.plugout_done, by rw [hwaking, hdestroy]; exact h.waking⟩
  | true =>
    cases action with
    | plugout =>
      rw [WaitState.step] at hstep
      obtain ⟨td, htd, rfl⟩ := Option.map_eq_some_iff.mp hstep
      obtain ⟨hne, -, hdestroy⟩ := plugout_order htd
      have hunscheduled : w.td.destroy = .unscheduled := by
        by_contra hscheduled
        exact hne (h.plugout_done.mpr hscheduled)
      refine ⟨?_, fun hwaking => absurd hunscheduled (h.waking hwaking)⟩
      dsimp only
      rw [hdestroy]
      by_cases hdone : td.plugout = .done
      · simp [hdone]
      · simp [hdone, hunscheduled]
    | destroy =>
      rw [WaitState.step] at hstep
      split at hstep
      · cases hstep
        exact ⟨h.plugout_done, nofun⟩
      · obtain ⟨td, htd, rfl⟩ := Option.map_eq_some_iff.mp hstep
        have hspec := destroy_usb_forwarder_spec htd
        have hscheduled : td.destroy ≠ .unscheduled := destroy_scheduled htd
        refine ⟨?_, fun _ => hscheduled⟩
        dsimp only
        rw [hspec.plugout_eq]
        exact ⟨fun _ => hscheduled, fun _ => h.plugout_done.mpr hspec.scheduled⟩
    | _ => cases hunplugs

/-- A call asleep is counted, so the destroy work has freed nothing. -/
theorem WaitInv.of_call_asleep {w : WaitState} (h : WaitInv w) {i : ℕ}
    (hasleep : w.call_asleep i = true) : 0 < w.td.pending_ops ∧ w.td.destroy.freeing = false := by
  obtain ⟨seen, hentry⟩ := call_asleep_iff.mp hasleep
  have hseen := h.call_asleep hentry .disconnected
  have hcall : .disconnected ∈ (w.wait_queue_rd (.call i)).seen := by
    rw [hentry]
    exact hseen
  refine ⟨h.pending_of_seen hcall, ?_⟩
  by_contra hfreeing
  have hscheduled : w.td.destroy ≠ .unscheduled := by
    intro heq
    rw [heq] at hfreeing
    exact hfreeing rfl
  have hbelow := (h.unplugged (h.scheduled hscheduled)).stage_lt
  have howed := h.owed_of_seen hentry hseen (decide_eq_true hbelow)
  unfold WaitState.owed at howed
  simp_all

/-- Behind a wake-up no call is asleep. -/
theorem not_asleep_of_wake (w : WaitState) (i : ℕ) : w.wake_up_interruptible.call_asleep i = false := by
  unfold WaitState.call_asleep WaitState.wake_up_interruptible
  dsimp only
  cases w.wait_queue_rd (.call i) <;> rfl

/-- Past a call that sleeps on, each step of the unplugging is one less to the wake-up. -/
theorem wake_distance_step {w w' : WaitState} {action : WaitAction} {i : ℕ} (hinv : WaitInv w)
    (horder : InOrder w) (hstep : w.step action = some w') (hasleep : w.call_asleep i = true)
    (hasleep' : w'.call_asleep i = true) :
    w'.wake_distance + (if action.unplugs then 1 else 0) = w.wake_distance := by
  cases hunplugs : action.unplugs with
  | false =>
    obtain ⟨hplugout, hdestroy, hwaking⟩ := unplugging_same hinv hstep hunplugs
    unfold WaitState.wake_distance
    rw [hplugout, hdestroy, hwaking]
    rfl
  | true =>
    rw [if_pos rfl]
    cases action with
    | plugout =>
      rw [WaitState.step] at hstep
      obtain ⟨td, htd, rfl⟩ := Option.map_eq_some_iff.mp hstep
      obtain ⟨hne, hleft, hdestroy⟩ := plugout_order htd
      have hunscheduled : w.td.destroy = .unscheduled := by
        by_contra hscheduled
        exact hne (horder.plugout_done.mpr hscheduled)
      have hwaking : w.waking = false :=
        Bool.eq_false_iff.mpr fun hwaking => horder.waking hwaking hunscheduled
      unfold WaitState.wake_distance
      dsimp only
      rw [hwaking, hunscheduled, hdestroy, hunscheduled]
      by_cases hdone : td.plugout = .done
      · rw [if_pos hdone, ← hleft, hdone]
        rfl
      · rw [if_neg hdone]
        simp
        omega
    | destroy =>
      obtain ⟨hpending, hlive⟩ := hinv.of_call_asleep hasleep
      rw [WaitState.step] at hstep
      split at hstep
      · -- this is the wake-up, and the call does not sleep behind it
        cases hstep
        have hawake := not_asleep_of_wake w i
        rw [show w.wake_up_interruptible.call_asleep i = true from hasleep'] at hawake
        cases hawake
      · rename_i hwaking
        obtain ⟨td, htd, rfl⟩ := Option.map_eq_some_iff.mp hstep
        unfold Teardown.destroy_usb_forwarder at htd
        unfold WaitState.wake_distance
        rw [if_neg hwaking]
        split at htd <;> rename_i hphase <;> cases htd
        · simp [hphase, hpending]
        · simp [hphase, hpending]
        · rw [hphase] at hlive
          cases hlive
        · rw [hphase] at hlive
          cases hlive
        · rw [hphase] at hlive
          cases hlive
        · simp [hphase]
    | _ => cases hunplugs

/-- The unplugging is never stuck before it wakes a call that sleeps. -/
theorem unplugging_goes_on {w : WaitState} {i : ℕ} (hinv : WaitInv w) (horder : InOrder w)
    (hasleep : w.call_asleep i = true) :
    ∃ action : WaitAction, action.unplugs = true ∧ (w.step action).isSome = true := by
  obtain ⟨-, hlive⟩ := hinv.of_call_asleep hasleep
  by_cases hdone : w.td.plugout = .done
  · refine ⟨.destroy, rfl, ?_⟩
    rw [WaitState.step]
    split
    · rfl
    have hscheduled := horder.plugout_done.mp hdone
    unfold Teardown.destroy_usb_forwarder
    cases hphase : w.td.destroy with
    | unscheduled => exact absurd hphase hscheduled
    | done =>
      rw [hphase] at hlive
      cases hlive
    | _ => rfl
  · refine ⟨.plugout, rfl, ?_⟩
    rw [WaitState.step]
    unfold Teardown.pcan_usb_plugout
    cases hphase : w.td.plugout with
    | done => exact absurd hphase hdone
    | _ => rfl

/-- While a call sleeps, each step of the unplugging brings its wake-up one step nearer. -/
theorem wake_distance_run {i : ℕ} {actions : List WaitAction} : ∀ {w w' : WaitState}, WaitInv w →
    InOrder w → Runs.run WaitState.step w actions = some w' →
    Runs.Along WaitState.step (fun w _ => w.call_asleep i = true) w actions →
    w'.call_asleep i = true →
    w'.wake_distance + actions.countP WaitAction.unplugs = w.wake_distance := by
  induction actions with
  | nil =>
    intro w w' _ _ hrun _ _
    rw [Runs.run, Option.some.injEq] at hrun
    rw [hrun]
    rfl
  | cons action actions ih =>
    intro w w' hinv horder hrun halong hend
    obtain ⟨w₁, hw₁, hrest⟩ := (Runs.run_cons_eq_some WaitState.step).mp hrun
    have htail := halong.2 w₁ hw₁
    have hnext := ih (waitInv_step w action w₁ hinv hw₁) (inOrder_step hinv horder hw₁) hrest htail
      hend
    have hstep := wake_distance_step hinv horder hw₁ halong.1
      (Runs.along_head WaitState.step (P := fun w => w.call_asleep i = true) htail hrest hend)
    rw [List.countP_cons]
    omega

/-- Before the unplugging nothing is out of order. -/
theorem WaitState.Connected.inOrder {w : WaitState} (h : w.Connected) : InOrder w := by
  refine ⟨?_, fun hwaking => ?_⟩
  · rw [h.td.plugout_eq, h.td.destroy_eq]
    exact ⟨nofun, fun hne => absurd rfl hne⟩
  · rw [h.waking_eq] at hwaking
    cases hwaking

/-- Both invariants, over a run. -/
theorem ordered_run {w w' : WaitState} {actions : List WaitAction} (hinv : WaitInv w)
    (horder : InOrder w) (hrun : Runs.run WaitState.step w actions = some w') :
    WaitInv w' ∧ InOrder w' := by
  have hstep : ∀ w action w', WaitInv w ∧ InOrder w → w.step action = some w' →
      WaitInv w' ∧ InOrder w' := fun w action w' h hw =>
    ⟨waitInv_step w action w' h.1 hw, inOrder_step h.1 h.2 hw⟩
  exact Runs.run_invariant WaitState.step hstep ⟨hinv, horder⟩ hrun

/-- While a call sleeps on, the unplugging can always take its next step, and takes six at most:
the seventh at the latest wakes it. -/
theorem unplugging_wakes (w₀ w w' : WaitState) (past actions : List WaitAction) (i : ℕ)
    (hconn : w₀.Connected) (hpast : Runs.run WaitState.step w₀ past = some w)
    (hrun : Runs.run WaitState.step w actions = some w')
    (halong : Runs.Along WaitState.step (fun w _ => w.call_asleep i = true) w actions)
    (hend : w'.call_asleep i = true) :
    actions.countP WaitAction.unplugs ≤ 6
      ∧ ∃ action : WaitAction, action.unplugs = true ∧ (w'.step action).isSome = true := by
  obtain ⟨hinv, horder⟩ := ordered_run hconn.inv hconn.inOrder hpast
  obtain ⟨hinv', horder'⟩ := ordered_run hinv horder hrun
  have hrun' := wake_distance_run hinv horder hrun halong hend
  have hgoes := unplugging_goes_on hinv' horder' hend
  refine ⟨?_, hgoes⟩
  have hle : w.wake_distance ≤ 7 := by
    have hleft : w.td.plugout.left ≤ 4 := by cases w.td.plugout <;> decide
    unfold WaitState.wake_distance
    split
    · omega
    · split <;> omega
  have hpos : 1 ≤ w'.wake_distance := by
    obtain ⟨-, hlive⟩ := hinv'.of_call_asleep hend
    unfold WaitState.wake_distance
    split
    · exact le_rfl
    · split <;> first | omega | (rename_i hphase; rw [hphase] at hlive; cases hlive)
  omega

/-- Six steps of the unplugging, up to the wake-up. -/
def unplugging_begun : List WaitAction := List.replicate 4 .plugout ++ [.destroy, .destroy]

/-- The read of `going_to_sleep` sleeps through them. -/
theorem unplugging_wakes_read :
    ∃ w', Runs.run WaitState.step WaitState.connected (going_to_sleep ++ unplugging_begun) = some w'
      ∧ w'.call_asleep 0 = true ∧ unplugging_begun.countP WaitAction.unplugs ≤ 6 :=
  ⟨_, rfl, rfl, (unplugging_wakes WaitState.connected _ _ going_to_sleep unplugging_begun 0
    WaitState.connected_connected rfl rfl (by decide) rfl).1⟩

/-! ## Sleeping adds nothing to what the calls do -/

/-- Every run with the queue is one of `Teardown`, with the steps of the queue left out. -/
theorem sleeping_is_spinning (w₀ w : WaitState) (actions : List WaitAction)
    (hconn : w₀.Connected) (hrun : Runs.run WaitState.step w₀ actions = some w) :
    ∃ actions', Runs.run Teardown.step w₀.td actions' = some w.td :=
  Runs.run_simulated WaitState.step waitInv_step (fun _ _ _ hinv => wait_step_teardown hinv)
    hconn.inv hrun

/-! ## Unplugging wakes no poll -/

/-- Unplugging from here to the end of `pcan_usb_plugout`. -/
theorem plugout_run (n : ℕ) : ∀ {w : WaitState}, w.td.plugout.left = n + 1 →
    ∃ w', Runs.run WaitState.step w (List.replicate (n + 1) .plugout) = some w'
      ∧ w'.td.destroy = .check ∧ w'.td.pending_ops = w.td.pending_ops
      ∧ w'.wait_queue_rd = w.wait_queue_rd ∧ w'.waking = w.waking := by
  have hstep : ∀ {w : WaitState}, w.td.plugout.left ≠ 0 →
      ∃ td, w.step .plugout = some { w with td := td } ∧ w.td.pcan_usb_plugout = some td := by
    intro w hne
    rw [WaitState.step]
    unfold Teardown.pcan_usb_plugout
    cases hphase : w.td.plugout with
    | done =>
      rw [hphase] at hne
      exact absurd rfl hne
    | _ => exact ⟨_, rfl, rfl⟩
  have hdone : ∀ phase : PlugoutPhase, phase.left = 0 → phase = .done := by
    intro phase h
    cases phase <;> first | rfl | cases h
  induction n with
  | zero =>
    intro w hleft
    obtain ⟨td, hw, htd⟩ := hstep (w := w) (by omega)
    obtain ⟨-, hleft', hdestroy⟩ := plugout_order htd
    have hlast := hdone td.plugout (by omega)
    rw [if_pos hlast] at hdestroy
    exact ⟨_, (Runs.run_cons_eq_some WaitState.step).mpr ⟨_, hw, rfl⟩, hdestroy,
      (pcan_usb_plugout_spec htd).pending_eq, rfl, rfl⟩
  | succ n ih =>
    intro w hleft
    obtain ⟨td, hw, htd⟩ := hstep (w := w) (by omega)
    obtain ⟨-, hleft', -⟩ := plugout_order htd
    obtain ⟨w', hrun, hdestroy, hpending, hqueue, hwaking⟩ :=
      ih (w := { w with td := td }) (by dsimp only; omega)
    exact ⟨w', (Runs.run_cons_eq_some WaitState.step).mpr ⟨_, hw, hrun⟩, hdestroy,
      hpending.trans (pcan_usb_plugout_spec htd).pending_eq, hqueue, hwaking⟩

/-- With nothing pending, the destroy work frees everything and wakes nobody. -/
theorem destroy_run {w : WaitState} (hcheck : w.td.destroy = .check) (hidle : w.td.pending_ops ≤ 0)
    (hwaking : w.waking = false) :
    ∃ w', Runs.run WaitState.step w (List.replicate 5 .destroy) = some w'
      ∧ w'.td.allocated .forwarder = false ∧ w'.wait_queue_rd = w.wait_queue_rd := by
  have hnone : ¬ 0 < w.td.pending_ops := not_lt.mpr hidle
  simp [List.replicate, Runs.run, WaitState.step, Teardown.destroy_usb_forwarder, Teardown.kfree,
    hcheck, hnone, hwaking]

/-- A call that has ended is not counted. -/
theorem role_of_ended {phase : CallPhase} (h : phase.ended = true) : phase.role = .out := by
  cases phase with
  | returned ret => rfl
  | _ => cases h

/-- With every call ended `pending_ops` is zero. -/
theorem WaitInv.pending_eq_zero {w : WaitState} (h : WaitInv w)
    (hended : ∀ call ∈ w.td.calls, call.phase.ended = true) : w.td.pending_ops = 0 := by
  have hcount : w.td.pending_ops = w.td.rundown.users.count .counted := h.counted
  rw [hcount, List.count_eq_zero.mpr]
  · rfl
  intro hmem
  obtain ⟨call, hcall, hrole⟩ := List.mem_map.mp hmem
  rw [role_of_ended (hended call hcall)] at hrole
  cases hrole

/-- Unplugging a device with no call in flight frees the forwarder, and with it the queue, under
every `poll` that sleeps. -/
theorem poll_sleeps_on (w₀ w : WaitState) (past : List WaitAction) (hconn : w₀.Connected)
    (hpast : Runs.run WaitState.step w₀ past = some w) (hplugged : w.td.plugout = .connected)
    (hended : ∀ call ∈ w.td.calls, call.phase.ended = true) :
    ∃ w', Runs.run WaitState.step w (List.replicate 4 .plugout ++ List.replicate 5 .destroy) = some w'
      ∧ w'.td.allocated .forwarder = false ∧ w'.wait_queue_rd = w.wait_queue_rd := by
  obtain ⟨hinv, horder⟩ := ordered_run hconn.inv hconn.inOrder hpast
  have hwaking : w.waking = false := by
    refine Bool.eq_false_iff.mpr fun hwaking => ?_
    have hdone := horder.plugout_done.mpr (horder.waking hwaking)
    rw [hplugged] at hdone
    cases hdone
  obtain ⟨w₁, hrun₁, hcheck, hpending, hqueue, hwaking₁⟩ := plugout_run 3 (w := w) (by rw [hplugged]; rfl)
  obtain ⟨w₂, hrun₂, hfreed, hqueue₂⟩ := destroy_run hcheck
    (by rw [hpending, hinv.pending_eq_zero hended]) (hwaking₁.trans hwaking)
  exact ⟨w₂, Runs.run_append WaitState.step hrun₁ hrun₂, hfreed, hqueue₂.trans hqueue⟩

/-- A lone `poll` asleep. -/
def polling : List WaitAction := .poll :: List.replicate 4 (.poll_advance 0 0)

/-- A poll goes to sleep, the device is unplugged and freed, and the poll sleeps on. -/
theorem poll_sleeps_on_polling :
    ∃ w w', Runs.run WaitState.step WaitState.connected polling = some w
      ∧ Runs.run WaitState.step w (List.replicate 4 .plugout ++ List.replicate 5 .destroy) = some w'
      ∧ w'.td.allocated .forwarder = false
      ∧ w'.wait_queue_rd (.poll 0) = .on true [.unread] := by
  obtain ⟨w', hrun, hfreed, hqueue⟩ := poll_sleeps_on WaitState.connected _ polling
    WaitState.connected_connected rfl rfl nofun
  exact ⟨_, w', rfl, hrun, hfreed, by rw [hqueue]; rfl⟩

end DualPcanUsb
