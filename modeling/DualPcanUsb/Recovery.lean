/-
Restarting behind a bus-off.

`pcan_net_set_can_mode` sends the bus-on command without waiting for it; its completion sets
a timer, and the timer makes the interface active again and wakes the transmit queue. The
completion does not look at its status, and `pcan_net_stop` leaves both the command and the
timer alone. So a restart is sound as long as no such command fails, and none is under way
when the interface is stopped.
-/
import DualPcanUsb.BusPower

set_option autoImplicit false

namespace DualPcanUsb

def EBUSY : Int := 16
def EOPNOTSUPP : Int := 95

inductive CanMode
  | STOP | START | SLEEP
deriving DecidableEq, Repr

/-! ## The machine -/

/-- The device with the bus-on commands in flight, the restart timer and the transmit queue.
A pending timer keeps the status of the command that set it last. -/
structure Recovery where
  dev : Device
  bus_on_urbs : ℕ
  restart_timer : Option Int
  queue_stopped : Bool

def Recovery.can_state (st : Recovery) : CanState := st.dev.rx.fwd.can_state

/-- How sending without waiting goes: whether URB and buffer are allocated, and what
`usb_submit_urb` returns. -/
structure AsyncOutcome where
  urb : Bool
  buf : Bool
  submit_err : Int

def pcan_oneway_command_async (outcome : AsyncOutcome) : Int :=
  if outcome.urb ∧ outcome.buf then outcome.submit_err else -ENOMEM

def pcan_cmd_set_bus_async (outcome : AsyncOutcome) (st : Recovery) : Int × Recovery :=
  let err := pcan_oneway_command_async outcome
  (err, if err = 0 then { st with bus_on_urbs := st.bus_on_urbs + 1 } else st)

def pcan_net_set_can_mode (mode : CanMode) (outcome : AsyncOutcome) (st : Recovery) :
    Int × Recovery :=
  match mode with
  | .START =>
    if st.restart_timer.isSome then (-EBUSY, st) else pcan_cmd_set_bus_async outcome st
  | _ => (-EOPNOTSUPP, st)

/-- The timer is set whatever the status; only a command that went through is one the
device has seen. -/
def activate_timer_and_free_urb (status : Int) (st : Recovery) : Recovery :=
  { st with
    dev := if status = 0 then { st.dev with bus_on := true } else st.dev
    bus_on_urbs := st.bus_on_urbs - 1
    restart_timer := some status }

def pcan_net_wake_up (st : Recovery) : Recovery :=
  { st with
    dev := st.dev.set_can_state .ERROR_ACTIVE
    queue_stopped := false }

/-- The timer's function. -/
def network_up_callback (st : Recovery) : Recovery :=
  pcan_net_wake_up { st with restart_timer := none }

inductive RecoveryAction
  | device (action : DeviceAction)
  | tx_queue (stopped : Bool)
  | set_can_mode (mode : CanMode) (outcome : AsyncOutcome)
  | complete_bus_on (status : Int)
  | expire

/-- `pcan_net_stop` stops the queue, and `pcan_net_open` starts it at its end. -/
def queue_behind (d d' : Device) (stopped : Bool) : DeviceAction → Bool
  | .advance i _ =>
    match d.procs[i]?, d'.procs[i]? with
    | some ⟨.netdev, .dec_stage⟩, _ => true
    | _, some ⟨.netdev, .opened⟩ => false
    | _, _ => stopped
  | _ => stopped

/-- One step; `tx_queue` is the transmit path, which stops and wakes the queue too. -/
def Recovery.step (st : Recovery) : RecoveryAction → Option Recovery
  | .device action =>
    (st.dev.step action).map fun dev =>
      { st with dev := dev, queue_stopped := queue_behind st.dev dev st.queue_stopped action }
  | .tx_queue stopped => some { st with queue_stopped := stopped }
  | .set_can_mode mode outcome => some (pcan_net_set_can_mode mode outcome st).2
  | .complete_bus_on status =>
    if 0 < st.bus_on_urbs then some (activate_timer_and_free_urb status st) else none
  | .expire => if st.restart_timer.isSome then some (network_up_callback st) else none

/-! ## Open, stopped, restarting -/

def Device.net_open (d : Device) : Prop := ⟨.netdev, .opened⟩ ∈ d.procs

/-- The network interface has been stopped, or never opened, and is not open again. -/
def Device.net_stopped (d : Device) : Prop :=
  ⟨.netdev, .opened⟩ ∉ d.procs ∧ ⟨.netdev, .dec_stage⟩ ∉ d.procs

instance (d : Device) : Decidable d.net_open := inferInstanceAs (Decidable (_ ∈ _))

instance (d : Device) : Decidable d.net_stopped := inferInstanceAs (Decidable (_ ∧ _))

/-- A bus-on command is in flight, or the timer is pending. -/
def Recovery.restarting (st : Recovery) : Prop :=
  st.bus_on_urbs ≠ 0 ∨ st.restart_timer.isSome = true

instance (st : Recovery) : Decidable st.restarting := inferInstanceAs (Decidable (_ ∨ _))

/-- Behind `alloc_candev`, with no interface opened yet. -/
structure Recovery.Plugged (st : Recovery) : Prop where
  procs_eq : st.dev.procs = []
  can_state_eq : st.can_state = .STOPPED
  bus_on_urbs_eq : st.bus_on_urbs = 0
  restart_timer_eq : st.restart_timer = none

/-- A restart is asked for while the interface is open, no command of it fails, and none is
under way when the interface is stopped. -/
def RestartsInOrder (st : Recovery) : RecoveryAction → Prop
  | .device (.close i) => st.dev.procs[i]? = some ⟨.netdev, .opened⟩ → ¬ st.restarting
  | .set_can_mode mode _ => mode = .START → st.dev.net_open
  | .complete_bus_on status => status = 0
  | _ => True

instance (st : Recovery) : DecidablePred (RestartsInOrder st)
  | .device (.close i) =>
    inferInstanceAs (Decidable (st.dev.procs[i]? = some ⟨.netdev, .opened⟩ → ¬ st.restarting))
  | .set_can_mode mode _ => inferInstanceAs (Decidable (mode = .START → st.dev.net_open))
  | .complete_bus_on status => inferInstanceAs (Decidable (status = 0))
  | .device (.open_ _) | .device (.advance _ _) | .device (.complete _ _ _) | .tx_queue _
  | .expire => .isTrue trivial

structure RecoveryInv (st : Recovery) : Prop where
  stopped : st.dev.net_stopped → st.can_state = .STOPPED
  restarting : st.restarting → st.dev.net_open
  succeeded : ∀ status, st.restart_timer = some status → status = 0

/-! ## What the interfaces' operations do to the error state -/

/-- The error state behind one operation of a process. -/
inductive StateOperated (iface : Iface) (d : Device) (phase phase' : Phase) (d' : Device) : Prop
  | kept (hstate : d'.rx.fwd.can_state = d.rx.fwd.can_state)
      (hphase : iface = .netdev → phase ≠ .dec_stage)
  | opened (hiface : iface = .netdev) (hphase : phase' = .opened)
  | stopped (hstate : d'.rx.fwd.can_state = .STOPPED)

/-- An open interface has nothing to do but to be closed. -/
theorem operate_opened (d : Device) (iface : Iface) (sent : Int) :
    d.operate iface sent .opened = none := by
  cases iface <;> rfl

/-- The commands do not touch the receiver; what follows their success may. -/
theorem start_commands_rx {sent : Int} {done : Device → Device} {d d' : Device}
    {phase phase' : Phase} (h : start_commands sent done d phase = some (phase', d')) :
    phase ≠ .dec_stage
      ∧ ∃ d₁ : Device, d₁.rx = d.rx ∧ (d' = d₁ ∨ d' = done d₁ ∧ phase' = .opened) := by
  unfold start_commands at h
  split at h
  · cases h
    exact ⟨nofun, d, rfl, .inl rfl⟩
  · cases h
    exact ⟨nofun, d, rfl, .inl rfl⟩
  · refine ⟨nofun, ?_⟩
    unfold pcan_cmd_set_bus at h
    dsimp only at h
    by_cases herr : pcan_oneway_command sent d = 0
    · rw [if_neg (by simpa using herr), if_pos herr] at h
      cases h
      exact ⟨{ d with bus_on := true }, rfl, .inr ⟨rfl, rfl⟩⟩
    · rw [if_pos herr, if_neg herr] at h
      cases h
      exact ⟨d, rfl, .inl rfl⟩
  · cases h

/-- Switching the bus off does not touch the error state. -/
theorem usbdrv_reset_bus_off_rx {sent : Int} {ret : Int → Int} {d d' : Device}
    {phase phase' : Phase} (h : usbdrv_reset_bus_off sent ret d phase = some (phase', d')) :
    phase ≠ .dec_stage ∧ d'.rx = d.rx := by
  unfold usbdrv_reset_bus_off at h
  split at h
  · cases h
    refine ⟨nofun, ?_⟩
    split <;> rfl
  · cases h
    exact ⟨nofun, rfl⟩
  · cases h

/-- The character device leaves the error state alone. -/
theorem operate_chardev_can_state {sent : Int} {d d' : Device} {phase phase' : Phase}
    (h : d.operate .chardev sent phase = some (phase', d')) :
    d'.rx.fwd.can_state = d.rx.fwd.can_state :=
  @operate_chardev_keeps _ (fun d => d.rx.fwd.can_state) (fun _ _ => rfl) (fun _ _ => rfl)
    (fun _ => rfl) (fun _ => rfl) (fun _ _ => rfl) _ _ _ _ _ h

/-- What each step of a start does to the error state. -/
theorem start_can_interface_can_state {sent : Int} {d d' : Device} {phase phase' : Phase}
    (h : start_can_interface sent d phase = some (phase', d')) :
    StateOperated .netdev d phase phase' d' := by
  unfold start_can_interface at h
  split at h
  · dsimp only at h
    split at h
    · cases h
      exact .opened rfl rfl
    · cases h
      exact .kept rfl nofun
  · dsimp only at h
    split at h <;> cases h <;> exact .kept rfl nofun
  · obtain ⟨hphase, d₁, hrx, rfl | ⟨-, hopened⟩⟩ := start_commands_rx h
    · exact .kept (by rw [hrx]) fun _ => hphase
    · exact .opened rfl hopened

/-- What a step of an operation does to the error state. -/
theorem operate_can_state {sent : Int} {iface : Iface} {d d' : Device} {phase phase' : Phase}
    (h : d.operate iface sent phase = some (phase', d')) :
    StateOperated iface d phase phase' d' := by
  cases iface with
  | chardev => exact .kept (operate_chardev_can_state h) nofun
  | netdev =>
    rcases (Option.orElse_eq_some _ _ _).mp h with hopen | ⟨-, hstop⟩
    · unfold pcan_net_open at hopen
      split at hopen
      · split at hopen <;> cases hopen <;> exact .kept rfl nofun
      · cases hopen
        exact .kept rfl nofun
      · exact start_can_interface_can_state hopen
    · unfold pcan_net_stop at hstop
      split at hstop
      · cases hstop
        exact .stopped rfl
      · obtain ⟨hphase, hrx⟩ := usbdrv_reset_bus_off_rx hstop
        exact .kept (by rw [hrx]) fun _ => hphase

/-! ## Steps -/

/-- Other processes stay when one moves on. -/
theorem mem_set_phase {d d₁ : Device} {i : ℕ} {iface : Iface} {phase phase' : Phase} {proc : Proc}
    (hprocs : d₁.procs = d.procs) (hproc : d.procs[i]? = some ⟨iface, phase⟩)
    (hmem : proc ∈ d.procs) (hne : proc ≠ ⟨iface, phase⟩) :
    proc ∈ (d₁.set_phase i iface phase').procs := by
  obtain ⟨j, hj⟩ := List.mem_iff_getElem?.mp hmem
  have hij : i ≠ j := by
    rintro rfl
    exact hne (Option.some.inj (hj.symm.trans hproc))
  unfold Device.set_phase
  dsimp only
  rw [hprocs]
  exact List.mem_of_getElem? ((List.getElem?_set_ne hij).trans hj)

/-- The process itself is in its next phase. -/
theorem self_mem_set_phase {d d₁ : Device} {i : ℕ} {iface : Iface} {phase phase' : Phase}
    (hprocs : d₁.procs = d.procs) (hproc : d.procs[i]? = some ⟨iface, phase⟩) :
    ⟨iface, phase'⟩ ∈ (d₁.set_phase i iface phase').procs := by
  unfold Device.set_phase
  dsimp only
  rw [hprocs]
  exact List.mem_set (List.getElem?_eq_some_iff.mp hproc).1 _

/-- A device step keeps a stopped interface's state stopped. -/
theorem step_stopped {d d' : Device} {action : DeviceAction}
    (h : d.net_stopped → d.rx.fwd.can_state = .STOPPED) (hstep : d.step action = some d')
    (hstopped : d'.net_stopped) : d'.rx.fwd.can_state = .STOPPED := by
  cases step_cases hstep with
  | open_chardev =>
    exact h ⟨fun hmem => hstopped.1 (List.mem_append_left _ hmem),
      fun hmem => hstopped.2 (List.mem_append_left _ hmem)⟩
  | open_netdev =>
    exact h ⟨fun hmem => hstopped.1 (List.mem_append_left _ hmem),
      fun hmem => hstopped.2 (List.mem_append_left _ hmem)⟩
  | close_chardev i hproc =>
    exact h ⟨fun hmem => hstopped.1 (mem_set_phase rfl hproc hmem nofun),
      fun hmem => hstopped.2 (mem_set_phase rfl hproc hmem nofun)⟩
  | close_netdev i hproc =>
    -- not stopped yet: `pcan_net_stop` is only entered
    have hself := @self_mem_set_phase d (d.set_netif_running false) i .netdev .opened .dec_stage rfl
      hproc
    exact absurd hself hstopped.2
  | advance i sent iface phase phase' d₁ hproc hop =>
    have hprocs := (operate_spec hop).1.procs_eq
    have hne : phase ≠ .opened := by
      rintro rfl
      rw [operate_opened] at hop
      cases hop
    have hopen : ⟨.netdev, .opened⟩ ∉ d.procs := fun hmem =>
      hstopped.1 (mem_set_phase hprocs hproc hmem fun heq => hne (Proc.mk.inj heq).2.symm)
    cases operate_can_state hop with
    | kept hstate hphase =>
      refine hstate.trans (h ⟨hopen, fun hmem => ?_⟩)
      refine hstopped.2 (mem_set_phase hprocs hproc hmem fun heq => ?_)
      obtain ⟨hiface, hdec⟩ := Proc.mk.inj heq
      exact hphase hiface.symm hdec.symm
    | opened hiface hphase =>
      subst hiface hphase
      exact absurd (self_mem_set_phase hprocs hproc) hstopped.1
    | stopped hstate => exact hstate
  | complete env urb submit_err hsubmitted =>
    have hdone := usb_read_bulk_callback_completed env urb submit_err
      { d with rx_urbs := d.rx_urbs - 1 }
    refine hdone.rx stopped_frame (h ?_)
    rwa [Device.net_stopped, hdone.procs_eq] at hstopped

/-- Only closing it ends the interface's being open. -/
theorem step_net_open {d d' : Device} {action : DeviceAction} (hopen : d.net_open)
    (hclose : ∀ i, action = .close i → d.procs[i]? ≠ some ⟨.netdev, .opened⟩)
    (hstep : d.step action = some d') : d'.net_open := by
  cases step_cases hstep with
  | open_chardev => exact List.mem_append_left _ hopen
  | open_netdev => exact List.mem_append_left _ hopen
  | close_chardev i hproc => exact mem_set_phase rfl hproc hopen nofun
  | close_netdev i hproc => exact absurd hproc (hclose i rfl)
  | advance i sent iface phase phase' d₁ hproc hop =>
    refine mem_set_phase (operate_spec hop).1.procs_eq hproc hopen fun heq => ?_
    rw [← (Proc.mk.inj heq).2, operate_opened] at hop
    cases hop
  | complete env urb submit_err hsubmitted =>
    rw [Device.net_open, (usb_read_bulk_callback_completed env urb submit_err _).procs_eq]
    exact hopen

/-- A restart that is asked for either leaves everything, or is under way. -/
theorem set_can_mode_cases (mode : CanMode) (outcome : AsyncOutcome) (st : Recovery) :
    (pcan_net_set_can_mode mode outcome st).2 = st
      ∨ mode = .START ∧ (pcan_net_set_can_mode mode outcome st).2
        = { st with bus_on_urbs := st.bus_on_urbs + 1 } := by
  unfold pcan_net_set_can_mode pcan_cmd_set_bus_async
  split
  · split
    · exact .inl rfl
    · dsimp only
      split
      · exact .inr ⟨rfl, rfl⟩
      · exact .inl rfl
  · exact .inl rfl

/-- Under the condition every step keeps the invariant of timer, URB and error state. -/
theorem recoveryInv_step (st : Recovery) (action : RecoveryAction) (st' : Recovery)
    (h : RecoveryInv st) (horder : RestartsInOrder st action) (hstep : st.step action = some st') :
    RecoveryInv st' := by
  cases action with
  | device action =>
    obtain ⟨dev, hdev, rfl⟩ := Option.map_eq_some_iff.mp hstep
    refine ⟨step_stopped h.stopped hdev, fun hrestarting => ?_, h.succeeded⟩
    refine step_net_open (h.restarting hrestarting) ?_ hdev
    rintro i rfl hproc
    exact horder hproc hrestarting
  | tx_queue stopped =>
    obtain rfl := Option.some.inj hstep
    exact ⟨h.stopped, h.restarting, h.succeeded⟩
  | set_can_mode mode outcome =>
    obtain rfl := Option.some.inj hstep
    rcases set_can_mode_cases mode outcome st with heq | ⟨hmode, heq⟩
    · rw [heq]
      exact h
    · rw [heq]
      exact ⟨h.stopped, fun _ => horder hmode, h.succeeded⟩
  | complete_bus_on status =>
    obtain ⟨hflight, heq⟩ := Option.ite_none_right_eq_some.mp hstep
    obtain rfl := Option.some.inj heq
    have hsuccess : status = 0 := horder
    subst hsuccess
    refine ⟨h.stopped, fun _ => h.restarting (.inl hflight.ne'), fun status hset => ?_⟩
    exact (Option.some.inj hset).symm
  | expire =>
    obtain ⟨hpending, heq⟩ := Option.ite_none_right_eq_some.mp hstep
    obtain rfl := Option.some.inj heq
    have hopen : st.dev.net_open := h.restarting (.inr hpending)
    exact ⟨fun hstopped => absurd hopen hstopped.1, fun _ => hopen, nofun⟩

/-! ## Runs -/

/-- A device just plugged in has no restart due. -/
theorem Recovery.Plugged.inv {st : Recovery} (h : st.Plugged) : RecoveryInv st := by
  refine ⟨fun _ => h.can_state_eq, ?_, fun status hset => ?_⟩
  · rintro (hflight | hpending)
    · exact absurd h.bus_on_urbs_eq hflight
    · rw [h.restart_timer_eq] at hpending
      cases hpending
  · rw [h.restart_timer_eq] at hset
    cases hset

/-- In a run with the restarts in order, a stopped interface is in the state `STOPPED`, and
whenever the restart callback can run, the interface is open and the bus-on command it
belongs to succeeded. -/
theorem recovery_sound (st₀ st : Recovery) (actions : List RecoveryAction)
    (hplugged : st₀.Plugged) (hrun : Runs.run Recovery.step st₀ actions = some st)
    (horder : Runs.Along Recovery.step RestartsInOrder st₀ actions) :
    (st.dev.net_stopped → st.can_state = .STOPPED)
      ∧ ∀ st', st.step .expire = some st' →
        st.dev.net_open ∧ st.restart_timer = some 0
          ∧ st'.can_state = .ERROR_ACTIVE ∧ st'.queue_stopped = false := by
  have hinv : RecoveryInv st :=
    Runs.run_invariant_along Recovery.step recoveryInv_step hplugged.inv horder hrun
  refine ⟨hinv.stopped, fun st' hexpire => ?_⟩
  obtain ⟨hpending, heq⟩ := Option.ite_none_right_eq_some.mp hexpire
  obtain rfl := Option.some.inj heq
  obtain ⟨status, hset⟩ := Option.isSome_iff_exists.mp hpending
  exact ⟨hinv.restarting (.inr hpending), hinv.succeeded status hset ▸ hset, rfl, rfl⟩

/-- A device just plugged in. -/
def Recovery.plugged : Recovery :=
  ⟨Device.idle.set_can_state .STOPPED, 0, none, true⟩

theorem Recovery.plugged_plugged : Recovery.plugged.Plugged := ⟨rfl, rfl, rfl, rfl⟩

/-- The network interface is opened, and a restart is asked for and sent. -/
def restart_sent : List RecoveryAction :=
  [.device (.open_ .netdev), .device (.advance 0 0), .device (.advance 0 0),
    .device (.advance 0 0), .device (.advance 0 0), .device (.advance 0 0),
    .set_can_mode .START ⟨true, true, 0⟩]

theorem recovery_sound_restart_sent :
    ∃ st, Runs.run Recovery.step Recovery.plugged (restart_sent ++ [.complete_bus_on 0]) = some st
      ∧ st.dev.net_open ∧ st.restart_timer = some 0 := by
  obtain ⟨st, hrun, hexpires⟩ :
      ∃ st, Runs.run Recovery.step Recovery.plugged (restart_sent ++ [.complete_bus_on 0]) = some st
        ∧ (st.step .expire).isSome = true :=
    Runs.exists_run_of_any Recovery.step (by decide)
  obtain ⟨st', hexpire⟩ := Option.isSome_iff_exists.mp hexpires
  obtain ⟨hopen, hset, -⟩ := (recovery_sound Recovery.plugged st _ Recovery.plugged_plugged hrun
    (by decide)).2 st' hexpire
  exact ⟨st, hrun, hopen, hset⟩

/-- The interface is stopped with the timer pending, and a command fails. -/
theorem stale_restart_wakes_up :
    (∃ st, Runs.run Recovery.step Recovery.plugged
        (restart_sent ++ [.complete_bus_on 0, .device (.close 0), .device (.advance 0 0), .expire])
          = some st
        ∧ st.dev.net_stopped ∧ st.can_state = .ERROR_ACTIVE ∧ st.queue_stopped = false)
      ∧ ∃ st st', Runs.run Recovery.step Recovery.plugged
          (restart_sent ++ [.complete_bus_on (-EILSEQ)]) = some st
        ∧ st.step .expire = some st' ∧ st.restart_timer = some (-EILSEQ)
        ∧ st'.can_state = .ERROR_ACTIVE := by
  constructor
  · exact Runs.exists_run_of_any Recovery.step (by decide)
  obtain ⟨st₁, hrun₁, hexpires, hset⟩ : ∃ st, Runs.run Recovery.step Recovery.plugged
        (restart_sent ++ [.complete_bus_on (-EILSEQ)]) = some st
      ∧ (st.step .expire).isSome = true ∧ st.restart_timer = some (-EILSEQ) :=
    Runs.exists_run_of_any Recovery.step (by decide)
  obtain ⟨st₂, hexpire⟩ := Option.isSome_iff_exists.mp hexpires
  refine ⟨st₁, st₂, hrun₁, hexpire, hset, ?_⟩
  obtain rfl := Option.some.inj (Option.ite_none_right_eq_some.mp hexpire).2
  rfl

end DualPcanUsb
