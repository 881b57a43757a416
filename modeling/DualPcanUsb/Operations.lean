/-
One open or close of an interface, run to its end without interruption.

The steps of `Interfaces` are few, and each brings an operation nearer its end, so a
fixed amount of fuel is enough for all of them.
-/
import DualPcanUsb.BusPower

set_option autoImplicit false

namespace DualPcanUsb

/-! ## Whole operations -/

/-- What an operation that is over returned. -/
def Phase.ret : Phase → Int
  | .finished ret => ret
  | _ => 0

/-- Run an operation from `phase` to its end, for at most `fuel` steps; `sent n` is the
result of the command sent with `n` steps to go. -/
def perform (iface : Iface) (sent : ℕ → Int) : ℕ → Phase → Device → Phase × Device
  | 0, phase, d => (phase, d)
  | fuel + 1, phase, d =>
    match d.operate iface (sent fuel) phase with
    | none => (phase, d)
    | some (phase, d) => perform iface sent fuel phase d

/-- More steps than any operation has. -/
def operation_fuel : ℕ := 8

/-- The number of steps an operation has left at most. -/
def Phase.steps_left : Phase → ℕ
  | .inc_open_count | .open_candev => 7
  | .inc_stage => 6
  | .set_silent => 5
  | .set_ext_vcc | .dec_open_count => 4
  | .set_bus_on | .dec_stage => 3
  | .undo_stage _ | .set_bus_off => 2
  | .undo_too_many | .undo_open_count _ | .close_candev _ | .init_sja1000 => 1
  | .opened | .finished _ => 0

/-- The phases an interface's operations have. -/
def Phase.of (iface : Iface) : Phase → Prop
  | .inc_open_count | .undo_too_many | .undo_open_count _ | .dec_open_count => iface = .chardev
  | .open_candev | .close_candev _ => iface = .netdev
  | _ => True

/-- Behind the counts, either open has fewer than six steps left. -/
theorem first_command_of (d : Device) (iface : Iface) :
    d.first_command.of iface ∧ d.first_command.steps_left < 6 := by
  unfold Device.first_command
  split <;> exact ⟨trivial, by simp [Phase.steps_left]⟩

/-- A step of an operation stays within the operation and brings it nearer its end. -/
def Nearer (iface : Iface) (phase phase' : Phase) : Prop :=
  phase'.of iface ∧ phase'.steps_left < phase.steps_left

/-- Each command brings an open nearer to its end. -/
theorem start_commands_nearer {sent : Int} {done : Device → Device} {d d' : Device} {iface : Iface}
    {phase phase' : Phase} (h : start_commands sent done d phase = some (phase', d')) :
    Nearer iface phase phase' := by
  unfold start_commands at h
  split at h
  · cases h
    split <;> exact ⟨trivial, by simp [Phase.steps_left]⟩
  · cases h
    split <;> exact ⟨trivial, by simp [Phase.steps_left]⟩
  · dsimp only at h
    split at h <;> cases h <;> exact ⟨trivial, by simp [Phase.steps_left]⟩
  · cases h

/-- Switching the bus off brings a close nearer to its end. -/
theorem usbdrv_reset_bus_off_nearer {sent : Int} {ret : Int → Int} {d d' : Device} {iface : Iface}
    {phase phase' : Phase} (h : usbdrv_reset_bus_off sent ret d phase = some (phase', d')) :
    Nearer iface phase phase' := by
  unfold usbdrv_reset_bus_off at h
  split at h
  · cases h
    split <;> exact ⟨trivial, by simp [Phase.steps_left]⟩
  · cases h
    exact ⟨trivial, by simp [Phase.steps_left]⟩
  · cases h

/-- Each step brings an operation nearer to its end. -/
theorem operate_nearer {sent : Int} {iface : Iface} {d d' : Device} {phase phase' : Phase}
    (h : d.operate iface sent phase = some (phase', d')) : Nearer iface phase phase' := by
  unfold Device.operate at h
  cases iface with
  | chardev =>
    rcases (Option.orElse_eq_some _ _ _).mp h with hopen | ⟨-, hrelease⟩
    · unfold pcan_chardev_open at hopen
      split at hopen
      · dsimp only at hopen
        split at hopen <;> cases hopen <;> exact ⟨by trivial, by simp [Phase.steps_left]⟩
      · cases hopen; exact ⟨trivial, by simp [Phase.steps_left]⟩
      · dsimp only at hopen
        split at hopen <;> cases hopen
        · exact ⟨trivial, by simp [Phase.steps_left]⟩
        · exact first_command_of _ _
      · cases hopen; exact ⟨rfl, by simp [Phase.steps_left]⟩
      · cases hopen; exact ⟨trivial, by simp [Phase.steps_left]⟩
      · exact start_commands_nearer hopen
    · unfold pcan_chardev_release at hrelease
      split at hrelease
      · cases hrelease; exact ⟨trivial, by simp [Phase.steps_left]⟩
      · cases hrelease
        split <;> exact ⟨trivial, by simp [Phase.steps_left]⟩
      · exact usbdrv_reset_bus_off_nearer hrelease
  | netdev =>
    rcases (Option.orElse_eq_some _ _ _).mp h with hopen | ⟨-, hstop⟩
    · unfold pcan_net_open start_can_interface at hopen
      split at hopen
      · split at hopen <;> cases hopen <;> exact ⟨trivial, by simp [Phase.steps_left]⟩
      · cases hopen; exact ⟨trivial, by simp [Phase.steps_left]⟩
      split at hopen
      · dsimp only at hopen
        split at hopen <;> cases hopen
        · exact ⟨trivial, by simp [Phase.steps_left]⟩
        · exact first_command_of _ _
      · cases hopen; exact ⟨rfl, by simp [Phase.steps_left]⟩
      · exact start_commands_nearer hopen
    · unfold pcan_net_stop at hstop
      split at hstop
      · cases hstop
        split <;> exact ⟨trivial, by simp [Phase.steps_left]⟩
      · exact usbdrv_reset_bus_off_nearer hstop

/-- The phases of the commands all have a step. -/
theorem start_commands_ne_none (sent : Int) (done : Device → Device) (d : Device) :
    start_commands sent done d .set_silent ≠ none ∧ start_commands sent done d .set_ext_vcc ≠ none
      ∧ start_commands sent done d .set_bus_on ≠ none := by
  refine ⟨nofun, nofun, ?_⟩
  unfold start_commands
  dsimp only
  split <;> nofun

/-- An operation has no next step only at its end. -/
theorem operate_eq_none {sent : Int} {iface : Iface} {d : Device} {phase : Phase}
    (hof : phase.of iface) (h : d.operate iface sent phase = none) : phase.steps_left = 0 := by
  unfold Device.operate at h
  cases iface with
  | chardev =>
    obtain ⟨hopen, hrelease⟩ := (Option.orElse_eq_none _ _).mp h
    obtain ⟨hsilent, hvcc, hbus⟩ := start_commands_ne_none sent id d
    cases phase with
    -- the only phases without a next step are the last ones
    | opened | finished => rfl
    -- phases of the other interface
    | open_candev | close_candev => cases hof
    | inc_open_count | inc_stage =>
      rw [pcan_chardev_open] at hopen
      split at hopen <;> cases hopen
    | undo_too_many | undo_stage | undo_open_count => cases hopen
    | set_silent => exact absurd hopen hsilent
    | set_ext_vcc => exact absurd hopen hvcc
    | set_bus_on => exact absurd hopen hbus
    | dec_open_count | dec_stage | set_bus_off | init_sja1000 => cases hrelease
  | netdev =>
    obtain ⟨hopen, hstop⟩ := (Option.orElse_eq_none _ _).mp h
    obtain ⟨hsilent, hvcc, hbus⟩ :=
      start_commands_ne_none sent (Device.set_can_state · .ERROR_ACTIVE) d
    cases phase with
    | opened | finished => rfl
    | inc_open_count | undo_too_many | undo_open_count | dec_open_count => cases hof
    | open_candev =>
      rw [pcan_net_open] at hopen
      split at hopen <;> cases hopen
    | inc_stage =>
      rw [pcan_net_open, start_can_interface] at hopen
      · split at hopen <;> cases hopen
      · nofun
      · nofun
    | undo_stage | close_candev => cases hopen
    | set_silent => exact absurd hopen hsilent
    | set_ext_vcc => exact absurd hopen hvcc
    | set_bus_on => exact absurd hopen hbus
    | dec_stage | set_bus_off | init_sja1000 => cases hstop

/-- With the fuel given, an operation comes to its end. -/
theorem perform_ends (iface : Iface) (sent : ℕ → Int) (fuel : ℕ) : ∀ (phase : Phase) (d : Device),
    phase.of iface → phase.steps_left ≤ fuel →
    (perform iface sent fuel phase d).1.steps_left = 0 := by
  induction fuel with
  | zero => exact fun phase d _ hle => Nat.le_zero.mp hle
  | succ fuel ih =>
    intro phase d hof hle
    rw [perform]
    cases hop : d.operate iface (sent fuel) phase with
    | none => exact operate_eq_none hof hop
    | some result =>
      obtain ⟨phase', d'⟩ := result
      obtain ⟨hof', hlt⟩ := operate_nearer hop
      exact ih phase' d' hof' (by omega)

/-- A whole operation leaves its interface open, or returns. -/
theorem operation_ends (iface : Iface) (sent : ℕ → Int) (phase : Phase) (d : Device)
    (hof : phase.of iface) :
    (perform iface sent operation_fuel phase d).1 = .opened
      ∨ ∃ ret, (perform iface sent operation_fuel phase d).1 = .finished ret := by
  have hfuel : phase.steps_left ≤ operation_fuel := by
    cases phase <;> simp [Phase.steps_left, operation_fuel]
  have hend := perform_ends iface sent operation_fuel phase d hof hfuel
  generalize (perform iface sent operation_fuel phase d).1 = last at hend
  cases last with
  | opened => exact .inl rfl
  | finished ret => exact .inr ⟨ret, rfl⟩
  | _ => cases hend

/-- Stopping the network interface of an unplugged device: its stage falls once more,
and the bus-off command is not sent. -/
theorem perform_net_stop_unplugged (sent : ℕ → Int) (d : Device)
    (h : d.stage ≤ PCAN_USB_STAGE_DISCONNECTED) :
    (perform .netdev sent operation_fuel .dec_stage d).2.stage = d.stage - 1 := by
  have hstage : d.stage ≤ 0 := h
  have hdec : ∀ sent', d.operate .netdev sent' .dec_stage = some (.set_bus_off,
      (d.set_stage (d.stage - 1)).set_can_state .STOPPED) := by
    intro sent'
    have hlt : (d.set_stage (d.stage - 1)).stage < PCAN_USB_STAGE_ONE_STARTED := by
      change d.stage - 1 < 2
      omega
    change some ((if (d.set_stage (d.stage - 1)).stage < PCAN_USB_STAGE_ONE_STARTED then _ else _),
      _) = _
    rw [if_pos hlt]
  generalize hd : (d.set_stage (d.stage - 1)).set_can_state .STOPPED = d₁ at hdec
  have hstage₁ : d₁.stage = d.stage - 1 := by rw [← hd]; rfl
  -- a command to a disconnected device fails before it is sent
  have hoff : ∀ sent', d₁.operate .netdev sent' .set_bus_off
      = some (.finished (-ENOTCONN), d₁) := by
    intro sent'
    have hcmd : pcan_cmd_set_bus sent' false d₁ = (-ENOTCONN, d₁) := by
      unfold pcan_cmd_set_bus pcan_oneway_command
      rw [if_pos (by change d₁.stage < 1; omega)]
      rfl
    change usbdrv_reset_bus_off sent' id d₁ .set_bus_off = _
    rw [usbdrv_reset_bus_off, hcmd]
    rfl
  -- the fuel left over changes nothing
  have hend : ∀ fuel, perform .netdev sent fuel (.finished (-ENOTCONN)) d₁
      = (.finished (-ENOTCONN), d₁) := by
    intro fuel
    cases fuel <;> rfl
  rw [operation_fuel, perform, hdec]
  dsimp only
  rw [perform, hoff]
  dsimp only
  rw [hend, ← hstage₁]

end DualPcanUsb
