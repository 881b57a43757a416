/-
Whether the bus of a connected device is on while an interface is open.

The device is a switch shared by counted users: `stage` is the count, one too high,
and a process is a user whose role its phase tells. Every step of the machine is a
step of the switch or leaves it alone, so what holds of the switch under its
discipline holds of the device. The driver does not keep the discipline: nothing
orders one interface's commands after the other's.
-/
import DualPcanUsb.Interfaces
import DualPcanUsb.PacketLoop
import DualPcanUsb.Lib.RefPower
import DualPcanUsb.Lib.Runs

set_option autoImplicit false

namespace DualPcanUsb

open RefPower (Role)

/-! ## The device as a shared switch -/

/-- A start sequence counts from its `atomic_inc_return` on, an open interface up to
its `atomic_dec_return`. -/
def Phase.role : Phase → Role
  | .set_silent | .set_ext_vcc | .set_bus_on | .undo_stage _ => .starting
  | .opened | .dec_open_count | .dec_stage => .holding
  | .set_bus_off => .leaving
  | .inc_open_count | .undo_too_many | .open_candev | .inc_stage | .undo_open_count _
  | .close_candev _ | .init_sja1000 | .finished _ => .out

def Device.power (d : Device) : RefPower.State where
  count := d.stage - PCAN_USB_STAGE_CONNECTED
  on := d.bus_on
  users := d.procs.map fun proc => proc.phase.role

/-- What the process `i` does next. -/
def Device.phase (d : Device) (i : ℕ) : Option Phase := d.procs[i]?.map Proc.phase

/-- A start sequence is under way. -/
def Device.starting (d : Device) : Prop := ∃ proc ∈ d.procs, proc.phase.role = .starting

/-- No operation is in progress: every process has its interface open, or is done. -/
def Device.quiescent (d : Device) : Prop :=
  ∀ proc ∈ d.procs, proc.phase = .opened ∨ ∃ ret, proc.phase = .finished ret

/-- One of the interfaces is open. -/
def Device.in_use (d : Device) : Prop := ∃ proc ∈ d.procs, proc.phase = .opened

/-- Behind `pcan_usb_plugin`, with both interfaces closed. -/
structure Device.Connected (d : Device) : Prop where
  stage_eq : d.stage = PCAN_USB_STAGE_CONNECTED
  bus_off : d.bus_on = false
  procs_eq : d.procs = []

/-! ## What one operation does -/

/-- The effect of one operation of a process on stage, bus and its own role. -/
inductive Operated (sent : Int) (d : Device) (phase phase' : Phase) (d' : Device) : Prop
  | quiet (hrole : phase'.role = phase.role) (hstage : d'.stage = d.stage)
      (hbus : d'.bus_on = d.bus_on)
  | arrive (hphase : phase = .inc_stage)
      (hrole : phase'.role
        = if d.stage + 1 > PCAN_USB_STAGE_ONE_STARTED then .holding else .starting)
      (hstage : d'.stage = d.stage + 1) (hbus : d'.bus_on = d.bus_on)
  | started (hphase : phase = .set_bus_on) (hrole : phase'.role = .holding)
      (hstage : d'.stage = d.stage) (hbus : d'.bus_on = true)
  | failed (err : Int) (hphase : phase = .undo_stage err) (hrole : phase'.role = .out)
      (hstage : d'.stage = d.stage - 1) (hbus : d'.bus_on = d.bus_on)
  | depart (hphase : phase = .dec_stage)
      (hrole : phase'.role
        = if d.stage - 1 < PCAN_USB_STAGE_ONE_STARTED then .leaving else .out)
      (hstage : d'.stage = d.stage - 1) (hbus : d'.bus_on = d.bus_on)
  | off (hphase : phase = .set_bus_off) (hrole : phase'.role = .out)
      (hstage : d'.stage = d.stage) (hbus : d'.bus_on = false)
  | off_failed (hphase : phase = .set_bus_off) (herr : pcan_oneway_command sent d ≠ 0)
      (hrole : phase'.role = .out) (hstage : d'.stage = d.stage) (hbus : d'.bus_on = d.bus_on)

/-- What no operation touches. -/
structure SameRest (d d' : Device) : Prop where
  procs_eq : d'.procs = d.procs
  rx_urbs_eq : d'.rx_urbs = d.rx_urbs

theorem first_command_role (d : Device) : d.first_command.role = .starting := by
  unfold Device.first_command
  split <;> rfl

/-- The commands of an open end in use, or give the stage back. -/
theorem start_commands_spec {sent : Int} {done : Device → Device} {d d' : Device}
    {phase phase' : Phase} (hstage : ∀ d, (done d).stage = d.stage)
    (hbus : ∀ d, (done d).bus_on = d.bus_on) (hrest : ∀ d, SameRest d (done d))
    (h : start_commands sent done d phase = some (phase', d')) :
    SameRest d d' ∧ Operated sent d phase phase' d' := by
  unfold start_commands at h
  split at h
  · cases h
    refine ⟨⟨rfl, rfl⟩, .quiet ?_ rfl rfl⟩
    split <;> rfl
  · cases h
    refine ⟨⟨rfl, rfl⟩, .quiet ?_ rfl rfl⟩
    split <;> rfl
  · unfold pcan_cmd_set_bus at h
    dsimp only at h
    by_cases herr : pcan_oneway_command sent d = 0
    · rw [if_neg (by simpa using herr), if_pos herr] at h
      cases h
      -- switched on; what follows success touches neither stage nor bus
      have hdone := hrest { d with bus_on := true }
      exact ⟨⟨hdone.procs_eq, hdone.rx_urbs_eq⟩, .started rfl rfl (hstage _) (hbus _)⟩
    · rw [if_pos herr, if_neg herr] at h
      cases h
      exact ⟨⟨rfl, rfl⟩, .quiet rfl rfl rfl⟩
  · cases h

/-- The bus is switched off by the one whose count said so. -/
theorem usbdrv_reset_bus_off_spec {sent : Int} {ret : Int → Int} {d d' : Device}
    {phase phase' : Phase} (h : usbdrv_reset_bus_off sent ret d phase = some (phase', d')) :
    SameRest d d' ∧ Operated sent d phase phase' d' := by
  unfold usbdrv_reset_bus_off at h
  split at h
  · unfold pcan_cmd_set_bus at h
    dsimp only at h
    by_cases herr : pcan_oneway_command sent d = 0
    · rw [if_neg (by simpa using herr), if_pos herr] at h
      cases h
      exact ⟨⟨rfl, rfl⟩, .off rfl rfl rfl rfl⟩
    · rw [if_pos herr, if_neg herr] at h
      cases h
      exact ⟨⟨rfl, rfl⟩, .off_failed rfl herr rfl rfl rfl⟩
  · cases h
    exact ⟨⟨rfl, rfl⟩, .quiet rfl rfl rfl⟩
  · cases h

/-- A step of `pcan_chardev_open` raises the stage, commands, or counts. -/
theorem pcan_chardev_open_spec {sent : Int} {d d' : Device} {phase phase' : Phase}
    (h : pcan_chardev_open sent d phase = some (phase', d')) :
    SameRest d d' ∧ Operated sent d phase phase' d' := by
  unfold pcan_chardev_open at h
  split at h
  · dsimp only at h
    split at h <;> cases h <;> exact ⟨⟨rfl, rfl⟩, .quiet rfl rfl rfl⟩
  · cases h
    exact ⟨⟨rfl, rfl⟩, .quiet rfl rfl rfl⟩
  · dsimp only at h
    split at h
    · rename_i hjoin
      cases h
      exact ⟨⟨rfl, rfl⟩, .arrive rfl (if_pos hjoin).symm rfl rfl⟩
    · rename_i hfirst
      cases h
      exact ⟨⟨rfl, rfl⟩,
        .arrive rfl ((first_command_role _).trans (if_neg hfirst).symm) rfl rfl⟩
  · cases h
    exact ⟨⟨rfl, rfl⟩, .failed _ rfl rfl rfl rfl⟩
  · cases h
    exact ⟨⟨rfl, rfl⟩, .quiet rfl rfl rfl⟩
  · exact start_commands_spec (fun _ => rfl) (fun _ => rfl) (fun _ => ⟨rfl, rfl⟩) h

/-- A step of `pcan_chardev_release` counts, lowers the stage, or switches off. -/
theorem pcan_chardev_release_spec {sent : Int} {d d' : Device} {phase phase' : Phase}
    (h : pcan_chardev_release sent d phase = some (phase', d')) :
    SameRest d d' ∧ Operated sent d phase phase' d' := by
  unfold pcan_chardev_release at h
  split at h
  · cases h
    exact ⟨⟨rfl, rfl⟩, .quiet rfl rfl rfl⟩
  · cases h
    refine ⟨⟨rfl, rfl⟩, .depart rfl ?_ rfl rfl⟩
    exact apply_ite Phase.role _ _ _
  · exact usbdrv_reset_bus_off_spec h

/-- A step of `start_can_interface` raises the stage, commands, or gives the stage back. -/
theorem start_can_interface_spec {sent : Int} {d d' : Device} {phase phase' : Phase}
    (h : start_can_interface sent d phase = some (phase', d')) :
    SameRest d d' ∧ Operated sent d phase phase' d' := by
  unfold start_can_interface at h
  split at h
  · dsimp only at h
    split at h
    · rename_i hjoin
      cases h
      exact ⟨⟨rfl, rfl⟩, .arrive rfl (if_pos hjoin).symm rfl rfl⟩
    · rename_i hfirst
      cases h
      exact ⟨⟨rfl, rfl⟩,
        .arrive rfl ((first_command_role _).trans (if_neg hfirst).symm) rfl rfl⟩
  · dsimp only at h
    -- detaching the interface is the only difference to the character device
    split at h <;> cases h <;> exact ⟨⟨rfl, rfl⟩, .failed _ rfl rfl rfl rfl⟩
  · exact @start_commands_spec sent (Device.set_can_state · .ERROR_ACTIVE) d d' phase phase'
      (fun _ => rfl) (fun _ => rfl) (fun _ => ⟨rfl, rfl⟩) h

/-- Around `start_can_interface`, `pcan_net_open` only opens and closes the CAN device. -/
theorem pcan_net_open_spec {sent : Int} {d d' : Device} {phase phase' : Phase}
    (h : pcan_net_open sent d phase = some (phase', d')) :
    SameRest d d' ∧ Operated sent d phase phase' d' := by
  unfold pcan_net_open at h
  split at h
  · split at h <;> cases h <;> exact ⟨⟨rfl, rfl⟩, .quiet rfl rfl rfl⟩
  · cases h
    exact ⟨⟨rfl, rfl⟩, .quiet rfl rfl rfl⟩
  · exact start_can_interface_spec h

/-- A step of `pcan_net_stop` lowers the stage or switches off. -/
theorem pcan_net_stop_spec {sent : Int} {d d' : Device} {phase phase' : Phase}
    (h : pcan_net_stop sent d phase = some (phase', d')) :
    SameRest d d' ∧ Operated sent d phase phase' d' := by
  unfold pcan_net_stop at h
  split at h
  · cases h
    refine ⟨⟨rfl, rfl⟩, .depart rfl ?_ rfl rfl⟩
    exact apply_ite Phase.role _ _ _
  · exact usbdrv_reset_bus_off_spec h

/-- So each step of an operation does to stage and bus what its phase says. -/
theorem operate_spec {sent : Int} {iface : Iface} {d d' : Device} {phase phase' : Phase}
    (h : d.operate iface sent phase = some (phase', d')) :
    SameRest d d' ∧ Operated sent d phase phase' d' := by
  unfold Device.operate at h
  cases iface with
  | chardev =>
    rcases (Option.orElse_eq_some _ _ _).mp h with hopen | ⟨-, hrelease⟩
    · exact pcan_chardev_open_spec hopen
    · exact pcan_chardev_release_spec hrelease
  | netdev =>
    rcases (Option.orElse_eq_some _ _ _).mp h with hopen | ⟨-, hstop⟩
    · exact pcan_net_open_spec hopen
    · exact pcan_net_stop_spec hstop

/-! ## What the character device leaves alone -/

section

variable {β : Type*} {view : Device → β}

/-- A view that does not show the bus does not see the command. -/
theorem pcan_cmd_set_bus_keeps (hbus : ∀ d on, view { d with bus_on := on } = view d)
    (sent : Int) (is_on : Bool) (d : Device) : view (pcan_cmd_set_bus sent is_on d).2 = view d := by
  unfold pcan_cmd_set_bus
  dsimp only
  split
  · exact hbus d is_on
  · rfl

/-- A view that does not show the bus does not see the commands of an open. -/
theorem start_commands_keeps (hbus : ∀ d on, view { d with bus_on := on } = view d) {sent : Int}
    {d d' : Device} {phase phase' : Phase}
    (h : start_commands sent id d phase = some (phase', d')) : view d' = view d := by
  unfold start_commands at h
  split at h
  · cases h
    rfl
  · cases h
    rfl
  · have hkept := pcan_cmd_set_bus_keeps hbus sent true d
    dsimp only at h
    split at h <;> cases h <;> exact hkept
  · cases h

/-- A view that does not show the bus does not see it switched off. -/
theorem usbdrv_reset_bus_off_keeps (hbus : ∀ d on, view { d with bus_on := on } = view d)
    {sent : Int} {ret : Int → Int} {d d' : Device} {phase phase' : Phase}
    (h : usbdrv_reset_bus_off sent ret d phase = some (phase', d')) : view d' = view d := by
  unfold usbdrv_reset_bus_off at h
  split at h
  · have hkept := pcan_cmd_set_bus_keeps hbus sent false d
    dsimp only at h
    split at h <;> cases h <;> exact hkept
  · cases h
    rfl
  · cases h

/-- Whatever does not depend on the counts, the ring, the time reference and the bus. -/
theorem operate_chardev_keeps (hcount : ∀ d n, view (Device.set_open_count d n) = view d)
    (hstage : ∀ d n, view (Device.set_stage d n) = view d)
    (hring : ∀ d, view (Device.reset_ring d) = view d)
    (hclear : ∀ d, view (Device.clear_time_ref d) = view d)
    (hbus : ∀ d on, view { d with bus_on := on } = view d) {sent : Int} {d d' : Device}
    {phase phase' : Phase} (h : d.operate .chardev sent phase = some (phase', d')) :
    view d' = view d := by
  rcases (Option.orElse_eq_some _ _ _).mp h with hopen | ⟨-, hrelease⟩
  · unfold pcan_chardev_open at hopen
    split at hopen
    · dsimp only at hopen
      split at hopen <;> cases hopen
      · exact hcount _ _
      · exact (hring _).trans (hcount _ _)
    · cases hopen
      exact hcount _ _
    · dsimp only at hopen
      split at hopen <;> cases hopen
      · exact hstage _ _
      · exact (hclear _).trans (hstage _ _)
    · cases hopen
      exact hstage _ _
    · cases hopen
      exact hcount _ _
    · exact start_commands_keeps hbus hopen
  · unfold pcan_chardev_release at hrelease
    split at hrelease
    · cases hrelease
      exact hcount _ _
    · cases hrelease
      exact hstage _ _
    · exact usbdrv_reset_bus_off_keeps hbus hrelease

end

/-! ## Each step is a step of the switch, or none -/

/-- Seen as a switch, a phase is the role of its user. -/
theorem power_set_phase {d d' : Device} (i : ℕ) (iface : Iface) (phase : Phase)
    (hrest : SameRest d d') :
    (d'.set_phase i iface phase).power
      = ⟨d'.stage - PCAN_USB_STAGE_CONNECTED, d'.bus_on, d.power.users.set i phase.role⟩ := by
  unfold Device.power Device.set_phase
  dsimp only
  rw [hrest.procs_eq, List.map_set]
  rfl

/-- Each operation is a user of the switch. -/
theorem power_role {d : Device} {i : ℕ} {iface : Iface} {phase : Phase}
    (h : d.procs[i]? = some ⟨iface, phase⟩) : d.power.users[i]? = some phase.role := by
  unfold Device.power
  rw [List.getElem?_map, h]
  rfl

theorem mem_starting_iff (d : Device) : .starting ∈ d.power.users ↔ d.starting := by
  unfold Device.power Device.starting
  rw [List.mem_map]

/-- A bus-off command succeeds. -/
def BusOffSucceeds (d : Device) : DeviceAction → Prop
  | .advance i sent => d.phase i = some .set_bus_off → sent = 0
  | _ => True

/-- When a failed start may be undone, and when a bus-off command may be sent. -/
def Phase.InOrder (d : Device) : Phase → Prop
  | .undo_stage _ => d.stage ≤ PCAN_USB_STAGE_ONE_STARTED
  | .set_bus_off => d.stage < PCAN_USB_STAGE_ONE_STARTED ∨ d.starting
  | _ => True

/-- The order the counter is right for: a failed start is undone before anybody else
counted on it, and a bus-off command is sent before the next start, or during one. -/
def CommandsInOrder (d : Device) : DeviceAction → Prop
  | .advance i _ => ∀ phase ∈ d.phase i, phase.InOrder d
  | _ => True

instance (d : Device) : Decidable d.starting :=
  inferInstanceAs (Decidable (∃ proc ∈ d.procs, proc.phase.role = .starting))

instance (d : Device) : Decidable d.quiescent :=
  inferInstanceAs (Decidable (∀ proc ∈ d.procs, _ ∨ _))

instance (d : Device) : Decidable d.in_use :=
  inferInstanceAs (Decidable (∃ proc ∈ d.procs, proc.phase = .opened))

instance (d : Device) : DecidablePred (BusOffSucceeds d)
  | .advance i sent => inferInstanceAs (Decidable (d.phase i = some .set_bus_off → sent = 0))
  | .open_ _ | .close _ | .complete _ _ _ => .isTrue trivial

instance (d : Device) : DecidablePred (Phase.InOrder d)
  | .undo_stage _ => inferInstanceAs (Decidable (d.stage ≤ PCAN_USB_STAGE_ONE_STARTED))
  | .set_bus_off =>
    inferInstanceAs (Decidable (d.stage < PCAN_USB_STAGE_ONE_STARTED ∨ d.starting))
  | .inc_open_count | .undo_too_many | .open_candev | .inc_stage | .set_silent | .set_ext_vcc
  | .set_bus_on | .undo_open_count _ | .close_candev _ | .opened | .dec_open_count | .dec_stage
  | .init_sja1000 | .finished _ => .isTrue trivial

instance (d : Device) : DecidablePred (CommandsInOrder d)
  | .advance i _ => inferInstanceAs (Decidable (∀ phase ∈ d.phase i, phase.InOrder d))
  | .open_ _ | .close _ | .complete _ _ _ => .isTrue trivial

/-- A device step does nothing to the switch, or is an event of it, and the order of
commands is the switch's discipline. -/
def Simulated (d : Device) (action : DeviceAction) (d' : Device) : Prop :=
  d'.power = d.power
    ∨ ∃ event, d.power.step event = some d'.power
      ∧ (CommandsInOrder d action → RefPower.Orderly d.power event)

/-- A step of an operation is at most one event of the switch, and an orderly one. -/
theorem simulated_operate {d d₁ : Device} {i : ℕ} {sent : Int} {iface : Iface}
    {phase phase' : Phase} (hinv : RefPower.Inv d.power)
    (hproc : d.procs[i]? = some ⟨iface, phase⟩) (hoff : BusOffSucceeds d (.advance i sent))
    (hrest : SameRest d d₁) (hop : Operated sent d phase phase' d₁) :
    Simulated d (.advance i sent) (d₁.set_phase i iface phase') := by
  have hpower := power_set_phase i iface phase' hrest
  have hphase : d.phase i = some phase := by rw [Device.phase, hproc]; rfl
  cases hop with
  | quiet hsame hstage hbus =>
    left
    rw [hpower, hstage, hbus, hsame]
    exact RefPower.moved_self (power_role hproc)
  | arrive heq hjoin hstage hbus =>
    subst heq
    refine .inr ⟨.arrive i, ?_, fun _ => trivial⟩
    -- `stage` is the count and one more
    have hiff : d.stage + 1 > 2 ↔ d.stage - 1 + 1 > 1 := by omega
    have hcount : d.stage - 1 + 1 = d.stage + 1 - 1 := by omega
    rw [RefPower.step_arrive (power_role hproc), hpower, hstage, hbus, hjoin]
    change some (RefPower.State.mk (d.stage - 1 + 1) _
      (d.power.users.set i (if d.stage - 1 + 1 > 1 then _ else _))) = _
    rw [← if_congr hiff rfl rfl, hcount]
    rfl
  | started heq hholding hstage hbus =>
    subst heq
    refine .inr ⟨.started i, ?_, fun _ => trivial⟩
    rw [RefPower.step_started (power_role hproc), hpower, hstage, hbus, hholding]
    rfl
  | failed err heq hout hstage hbus =>
    subst heq
    refine .inr ⟨.failed i, ?_, fun horder => ?_⟩
    · rw [RefPower.step_failed (power_role hproc), hpower, hstage, hbus, hout]
      rfl
    · have hle : d.stage ≤ 2 := horder _ hphase
      change d.stage - 1 ≤ 1
      omega
  | depart heq hlast hstage hbus =>
    subst heq
    refine .inr ⟨.depart i, ?_, fun _ => trivial⟩
    have hiff : d.stage - 1 < 2 ↔ d.stage - 1 - 1 < 1 := by omega
    rw [RefPower.step_depart (power_role hproc), hpower, hstage, hbus, hlast]
    change some (RefPower.State.mk _ _
      (d.power.users.set i (if d.stage - 1 - 1 < 1 then _ else _))) = _
    rw [← if_congr hiff rfl rfl]
    rfl
  | off heq hout hstage hbus =>
    subst heq
    refine .inr ⟨.off i, ?_, fun horder => ?_⟩
    · rw [RefPower.step_off (power_role hproc), hpower, hstage, hbus, hout]
      rfl
    · change d.stage - 1 < 1 ∨ .starting ∈ d.power.users
      rw [mem_starting_iff]
      -- the order of commands is the discipline, in terms of `stage`
      refine (horder _ hphase : _ ∨ d.starting).imp_left fun hlt => ?_
      have hlt' : d.stage < 2 := hlt
      omega
  | off_failed heq herr =>
    -- the stage says connected, so the command is sent, and sent it succeeds
    subst heq
    refine absurd ?_ herr
    have hcount : d.stage - 1 = _ := hinv.count_eq
    unfold pcan_oneway_command
    rw [hoff hphase, if_neg]
    change ¬ d.stage < 1
    omega

/-- A completion is nothing to the switch. -/
theorem usb_read_bulk_callback_power (env : Env) (urb : Urb) (submit_err : Int) (d : Device) :
    (usb_read_bulk_callback env urb submit_err d).power = d.power := by
  have hdone := usb_read_bulk_callback_completed env urb submit_err d
  have hstage : (usb_read_bulk_callback env urb submit_err d).stage = d.stage :=
    (hdone.rx undisturbed_frame).stage_eq
  unfold Device.power
  rw [hdone.procs_eq, hdone.bus_eq, hstage]

/-- Every action of the device is at most one event of the switch, and an orderly one. -/
theorem simulated_step {d d' : Device} {action : DeviceAction} (hinv : RefPower.Inv d.power)
    (hoff : BusOffSucceeds d action) (h : d.step action = some d') : Simulated d action d' := by
  -- a process starts uncounted, whichever interface it is for
  have henter : ∀ d₁ : Device, d₁.power = d.power → ∀ (iface : Iface) (phase : Phase),
      phase.role = .out → Simulated d (.open_ iface) (d₁.enter iface phase) := by
    intro d₁ hpower iface phase hrole
    refine .inr ⟨.enter, ?_, fun _ => trivial⟩
    rw [← hpower, RefPower.State.step]
    unfold Device.power Device.enter
    dsimp only
    rw [List.map_append, List.map_singleton, hrole]
    rfl
  cases step_cases h with
  | open_chardev => exact henter d rfl .chardev .inc_open_count rfl
  | open_netdev => exact henter (d.set_netif_running true) rfl .netdev .open_candev rfl
  | close_chardev i hproc =>
    left
    rw [power_set_phase i .chardev .dec_open_count ⟨rfl, rfl⟩]
    exact RefPower.moved_self (power_role hproc)
  | close_netdev i hproc =>
    left
    rw [@power_set_phase d (d.set_netif_running false) i .netdev .dec_stage ⟨rfl, rfl⟩]
    exact RefPower.moved_self (power_role hproc)
  | advance i sent iface phase phase' d₁ hproc hop =>
    obtain ⟨hrest, heffect⟩ := operate_spec hop
    exact simulated_operate hinv hproc hoff hrest heffect
  | complete env urb submit_err =>
    exact .inl (usb_read_bulk_callback_power env urb submit_err { d with rx_urbs := _ })

/-- In order, a step keeps the switch's invariant. -/
theorem power_inv_step (d : Device) (action : DeviceAction) (d' : Device)
    (hinv : RefPower.Inv d.power) (h : BusOffSucceeds d action ∧ CommandsInOrder d action)
    (hstep : d.step action = some d') : RefPower.Inv d'.power := by
  rcases simulated_step hinv h.1 hstep with hsame | ⟨event, hevent, horderly⟩
  · rw [hsame]; exact hinv
  · exact RefPower.inv_step d.power event d'.power hinv (horderly h.2) hevent

/-! ## Runs -/

/-- A device just connected is a switch that nobody uses. -/
theorem Device.Connected.power_inv {d : Device} (h : d.Connected) : RefPower.Inv d.power := by
  have hpower : d.power = ⟨0, false, []⟩ := by
    unfold Device.power
    rw [h.stage_eq, h.bus_off, h.procs_eq]
    rfl
  rw [hpower]
  exact ⟨rfl, Nat.zero_le 1, by simp, by simp⟩

/-- A run with the commands in order, and the bus-off commands succeeding, leaves the
bus on exactly while an interface is open, once nothing is in progress. -/
theorem bus_on_iff_in_use (d₀ d : Device) (actions : List DeviceAction) (hconn : d₀.Connected)
    (hrun : Runs.run Device.step d₀ actions = some d)
    (hoff : Runs.Along Device.step BusOffSucceeds d₀ actions)
    (horder : Runs.Along Device.step CommandsInOrder d₀ actions) (hquiet : d.quiescent) :
    d.bus_on = true ↔ d.in_use := by
  have hinv : RefPower.Inv d.power :=
    Runs.run_invariant_along Device.step power_inv_step hconn.power_inv
      (Runs.along_and Device.step hoff horder) hrun
  -- with nothing in progress, an interface is held or not used at all
  have hrole : ∀ role, role ∈ d.power.users → role = .holding ∨ role = .out := by
    intro role hmem
    obtain ⟨proc, hproc, rfl⟩ := List.mem_map.mp hmem
    rcases hquiet proc hproc with hopened | ⟨ret, hfinished⟩
    · rw [hopened]; exact .inl rfl
    · rw [hfinished]; exact .inr rfl
  have hiff := hinv.on_iff_holding (fun hmem => by rcases hrole _ hmem with h | h <;> cases h)
    (fun hmem => by rcases hrole _ hmem with h | h <;> cases h)
  refine Iff.trans hiff ?_
  constructor
  · intro hmem
    obtain ⟨proc, hproc, hholding⟩ := List.mem_map.mp hmem
    refine ⟨proc, hproc, ?_⟩
    rcases hquiet proc hproc with hopened | ⟨ret, hfinished⟩
    · exact hopened
    · rw [hfinished] at hholding; cases hholding
  · rintro ⟨proc, hproc, hopened⟩
    refine List.mem_map.mpr ⟨proc, hproc, ?_⟩
    rw [hopened]
    rfl

/-- A device of the newer kind behind `pcan_usb_plugin`. -/
def Device.idle : Device := ⟨RxState.idle false, 8, true, false, PCAN_USB_MAX_RX_URBS, []⟩

theorem Device.idle_connected : Device.idle.Connected := ⟨rfl, rfl, rfl⟩

/-- Both interfaces are opened, the network one while the character device starts,
and the character device is closed again. -/
def both_opened : List DeviceAction :=
  [.open_ .chardev, .advance 0 0, .advance 0 0, .open_ .netdev, .advance 1 0, .advance 1 0,
    .advance 0 0, .advance 0 0, .advance 0 0, .close 0, .advance 0 0, .advance 0 0]

theorem bus_on_iff_in_use_both_opened :
    ∃ d, Runs.run Device.step Device.idle both_opened = some d ∧ d.quiescent
      ∧ (d.bus_on = true ↔ d.in_use) := by
  obtain ⟨d, hrun, hquiet⟩ :
      ∃ d, Runs.run Device.step Device.idle both_opened = some d ∧ d.quiescent :=
    Runs.exists_run_of_any Device.step (by decide)
  exact ⟨d, hrun, hquiet, bus_on_iff_in_use Device.idle d both_opened Device.idle_connected hrun
    (by decide) (by decide) hquiet⟩

/-- `pcan_net_stop` has lowered the stage and is about to switch off; meanwhile the
character device is opened and has switched on. -/
def off_after_start : List DeviceAction :=
  [.open_ .netdev, .advance 0 0, .advance 0 0, .advance 0 0, .advance 0 0, .advance 0 0,
    .close 0, .advance 0 0,
    .open_ .chardev, .advance 1 0, .advance 1 0, .advance 1 0, .advance 1 0, .advance 1 0,
    .advance 0 0, .advance 0 0]

/-- No command fails, nothing is in progress any more, the character device is open,
and the bus is off. -/
theorem bus_off_while_in_use :
    ∃ d, Device.idle.Connected ∧ Runs.run Device.step Device.idle off_after_start = some d
      ∧ Runs.Along Device.step BusOffSucceeds Device.idle off_after_start
      ∧ d.quiescent ∧ d.in_use ∧ d.bus_on = false := by
  obtain ⟨d, hrun, hbad⟩ : ∃ d, Runs.run Device.step Device.idle off_after_start = some d
      ∧ d.quiescent ∧ d.in_use ∧ d.bus_on = false :=
    Runs.exists_run_of_any Device.step (by decide)
  exact ⟨d, Device.idle_connected, hrun, by decide, hbad⟩

end DualPcanUsb
