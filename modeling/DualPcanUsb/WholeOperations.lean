/-
What one open or close leaves behind, run to its end, and which commands it issues.

On its way an operation owes what it has added to `stage` and to `open_count` and not taken
back yet; count less debt is the same at every step, so at the end an open that succeeded
has added one to each, one that failed nothing, and a close has taken its one away. The
commands are decided by one look at `stage`, and from there on issued in a fixed order, up
to the first that fails.
-/
import DualPcanUsb.Operations
import DualPcanUsb.ExclusiveOpen

set_option autoImplicit false

namespace DualPcanUsb

/-! ## Debts -/

/-- What an operation has added to `stage` and not taken back. -/
def Phase.stage_due (phase : Phase) : Int :=
  match phase.role with
  | .starting | .holding => 1
  | .leaving | .out => 0

/-- The same for `open_count`, in the character device's operations. -/
def Phase.count_due (phase : Phase) : Int :=
  match phase.gate_role with
  | .rejected | .inside => 1
  | .out => 0

/-- What a step adds to the stage it also adds to what its operation owes. -/
theorem operated_stage_due {sent : Int} {d d' : Device} {phase phase' : Phase}
    (h : Operated sent d phase phase' d') :
    d'.stage - phase'.stage_due = d.stage - phase.stage_due := by
  unfold Phase.stage_due
  cases h with
  | quiet hrole hstage => rw [hrole, hstage]
  | arrive hphase hrole hstage =>
    -- joining or starting, it is counted
    by_cases hjoin : d.stage + 1 > PCAN_USB_STAGE_ONE_STARTED
    · rw [hrole, if_pos hjoin, hstage, hphase]
      simp [Phase.role]
    · rw [hrole, if_neg hjoin, hstage, hphase]
      simp [Phase.role]
  | started hphase hrole hstage =>
    rw [hrole, hstage, hphase]
    rfl
  | failed err hphase hrole hstage =>
    rw [hrole, hstage, hphase]
    simp [Phase.role]
  | depart hphase hrole hstage =>
    by_cases hlast : d.stage - 1 < PCAN_USB_STAGE_ONE_STARTED
    · rw [hrole, if_pos hlast, hstage, hphase]
      simp [Phase.role]
    · rw [hrole, if_neg hlast, hstage, hphase]
      simp [Phase.role]
  | off hphase hrole hstage =>
    rw [hrole, hstage, hphase]
    rfl
  | off_failed hphase herr hrole hstage =>
    rw [hrole, hstage, hphase]
    rfl

/-- What a step adds to the count of open files it also adds to what its operation owes. -/
theorem counted_count_due {d d' : Device} {phase phase' : Phase} (h : Counted d phase phase' d') :
    d'.open_count - phase'.count_due = d.open_count - phase.count_due := by
  unfold Phase.count_due
  cases h with
  | turned_away hphase hfull hphase' hcount =>
    rw [hphase, hphase', hcount]
    simp [Phase.gate_role]
  | let_in hphase hfree hphase' hcount =>
    rw [hphase, hphase', hcount]
    simp [Phase.gate_role]
  | leave hcounted hout hpast hcount =>
    rw [hout, hcount]
    cases hrole : phase.gate_role with
    | out => exact absurd hrole hcounted
    | rejected => simp
    | inside => simp
  | aside haside =>
    have hcount : d'.open_count = d.open_count := congrArg Chardev.open_count haside.char_dev_eq
    rw [haside.role_eq, hcount]

/-- What each operation of an interface keeps, a whole one keeps. -/
theorem perform_inv {iface : Iface} {I : Phase → Device → Prop}
    (hstep : ∀ sent phase d phase' d', I phase d → d.operate iface sent phase = some (phase', d') →
      I phase' d') (sent : ℕ → Int) (fuel : ℕ) : ∀ (phase : Phase) (d : Device), I phase d →
      I (perform iface sent fuel phase d).1 (perform iface sent fuel phase d).2 := by
  induction fuel with
  | zero => exact fun phase d h => h
  | succ fuel ih =>
    intro phase d h
    rw [perform]
    cases hop : d.operate iface (sent fuel) phase with
    | none => exact h
    | some result =>
      obtain ⟨phase', d'⟩ := result
      exact ih phase' d' (hstep (sent fuel) phase d phase' d' h hop)

/-- Over a whole operation the stage moves by what is owed at its end. -/
theorem perform_stage_due (iface : Iface) (sent : ℕ → Int) (fuel : ℕ) (phase : Phase) (d : Device) :
    (perform iface sent fuel phase d).2.stage - (perform iface sent fuel phase d).1.stage_due
      = d.stage - phase.stage_due :=
  @perform_inv iface (fun p d' => d'.stage - p.stage_due = d.stage - phase.stage_due)
    (fun _ _ _ _ _ h hop => (operated_stage_due (operate_spec hop).2).trans h) sent fuel phase d rfl

/-- Over a whole operation the count of open files moves by what is owed at its end. -/
theorem perform_count_due (sent : ℕ → Int) (fuel : ℕ) (phase : Phase) (d : Device) :
    (perform .chardev sent fuel phase d).2.open_count
        - (perform .chardev sent fuel phase d).1.count_due = d.open_count - phase.count_due :=
  @perform_inv .chardev (fun p d' => d'.open_count - p.count_due = d.open_count - phase.count_due)
    (fun _ _ _ _ _ h hop => (counted_count_due (operate_counted hop)).trans h) sent fuel phase d
    rfl

/-- The network interface's operations leave the character device alone. -/
theorem perform_netdev_char_dev (sent : ℕ → Int) (fuel : ℕ) (phase : Phase) (d : Device) :
    (perform .netdev sent fuel phase d).2.char_dev = d.char_dev :=
  @perform_inv .netdev (fun _ d' => d'.char_dev = d.char_dev)
    (fun _ _ _ _ _ h hop => (operate_netdev_char_dev hop).trans h) sent fuel phase d rfl

/-! ## Whether the network interface runs -/

/-- What `netif_running` is in a phase of the network interface. -/
def Phase.running : Phase → Bool
  | .open_candev | .inc_stage | .set_silent | .set_ext_vcc | .set_bus_on | .undo_stage _
  | .close_candev _ | .opened => true
  | .inc_open_count | .undo_too_many | .undo_open_count _ | .dec_open_count | .dec_stage
  | .set_bus_off | .init_sja1000 | .finished _ => false

def Device.netif_running (d : Device) : Bool := d.rx.fwd.netif_running

theorem pcan_cmd_set_bus_running (sent : Int) (is_on : Bool) (d : Device) :
    (pcan_cmd_set_bus sent is_on d).2.netif_running = d.netif_running :=
  @pcan_cmd_set_bus_keeps _ Device.netif_running (fun _ _ => rfl) sent is_on d

/-- The commands of an open do not touch the network interface. -/
theorem start_commands_running {sent : Int} {done : Device → Device} {d d' : Device}
    {phase phase' : Phase} (hdone : ∀ d, (done d).netif_running = d.netif_running)
    (h : start_commands sent done d phase = some (phase', d')) :
    d'.netif_running = d.netif_running ∧ phase'.running = phase.running := by
  unfold start_commands at h
  split at h
  · cases h
    exact ⟨rfl, by split <;> rfl⟩
  · cases h
    exact ⟨rfl, by split <;> rfl⟩
  · have hbus := pcan_cmd_set_bus_running sent true d
    dsimp only at h
    split at h <;> cases h
    · exact ⟨hbus, rfl⟩
    · exact ⟨(hdone _).trans hbus, rfl⟩
  · cases h

/-- Switching the bus off does not touch the network interface. -/
theorem usbdrv_reset_bus_off_running {sent : Int} {ret : Int → Int} {d d' : Device}
    {phase phase' : Phase} (h : usbdrv_reset_bus_off sent ret d phase = some (phase', d')) :
    d'.netif_running = d.netif_running ∧ phase'.running = phase.running := by
  unfold usbdrv_reset_bus_off at h
  split at h
  · have hbus := pcan_cmd_set_bus_running sent false d
    dsimp only at h
    split at h <;> cases h <;> exact ⟨hbus, rfl⟩
  · cases h
    exact ⟨rfl, rfl⟩
  · cases h

/-- An operation on the network interface takes it up or down with its own phase. -/
theorem operate_netdev_running {sent : Int} {d d' : Device} {phase phase' : Phase}
    (h : d.operate .netdev sent phase = some (phase', d'))
    (hrunning : d.netif_running = phase.running) : d'.netif_running = phase'.running := by
  rcases (Option.orElse_eq_some _ _ _).mp h with hopen | ⟨-, hstop⟩
  · unfold pcan_net_open at hopen
    split at hopen
    · split at hopen <;> cases hopen
      · rfl
      · exact hrunning
    · cases hopen
      rfl
    unfold start_can_interface at hopen
    split at hopen
    · dsimp only at hopen
      split at hopen <;> cases hopen
      · exact hrunning
      · refine Eq.trans (show _ = d.netif_running from rfl) (hrunning.trans ?_)
        unfold Device.first_command
        split <;> rfl
    · dsimp only at hopen
      split at hopen <;> cases hopen <;> exact hrunning
    · have hdone : ∀ d : Device,
          (d.set_can_state .ERROR_ACTIVE).netif_running = d.netif_running := fun _ => rfl
      obtain ⟨hsame, hphase⟩ := start_commands_running hdone hopen
      rw [hsame, hphase, hrunning]
  · unfold pcan_net_stop at hstop
    split at hstop
    · cases hstop
      refine Eq.trans (show _ = d.netif_running from rfl) (hrunning.trans ?_)
      split <;> rfl
    · obtain ⟨hsame, hphase⟩ := usbdrv_reset_bus_off_running hstop
      rw [hsame, hphase, hrunning]

/-- One on the character device leaves it alone. -/
theorem operate_chardev_running {sent : Int} {d d' : Device} {phase phase' : Phase}
    (h : d.operate .chardev sent phase = some (phase', d')) :
    d'.netif_running = d.netif_running :=
  @operate_chardev_keeps _ Device.netif_running (fun _ _ => rfl) (fun _ _ => rfl)
    (fun _ => rfl) (fun _ => rfl) (fun _ _ => rfl) _ _ _ _ _ h

/-- At the end of an operation the interface runs exactly if the phase says so. -/
theorem perform_netdev_running (sent : ℕ → Int) (fuel : ℕ) (phase : Phase) (d : Device)
    (h : d.netif_running = phase.running) : (perform .netdev sent fuel phase d).2.netif_running
      = (perform .netdev sent fuel phase d).1.running :=
  @perform_inv .netdev (fun p d' => d'.netif_running = p.running)
    (fun _ _ _ _ _ h hop => operate_netdev_running hop h) sent fuel phase d h

/-- The network interface stays as it was while a file is opened or closed. -/
theorem perform_chardev_running (sent : ℕ → Int) (fuel : ℕ) (phase : Phase) (d : Device) :
    (perform .chardev sent fuel phase d).2.netif_running = d.netif_running :=
  @perform_inv .chardev (fun _ d' => d'.netif_running = d.netif_running)
    (fun _ _ _ _ _ h hop => (operate_chardev_running hop).trans h) sent fuel phase d rfl

/-! ## The commands issued -/

/-- A phase that sends a command. -/
def Phase.is_command : Phase → Bool
  | .set_silent | .set_ext_vcc | .set_bus_on | .set_bus_off | .init_sja1000 => true
  | .inc_open_count | .undo_too_many | .open_candev | .inc_stage | .undo_stage _
  | .undo_open_count _ | .close_candev _ | .opened | .dec_open_count | .dec_stage
  | .finished _ => false

/-- The commands a whole operation issues, each with what it returns. -/
def issued (iface : Iface) (sent : ℕ → Int) : ℕ → Phase → Device → List (Phase × Int)
  | 0, _, _ => []
  | fuel + 1, phase, d =>
    match d.operate iface (sent fuel) phase with
    | none => []
    | some (phase', d') =>
      if phase.is_command then
        (phase, pcan_oneway_command (sent fuel) d) :: issued iface sent fuel phase' d'
      else issued iface sent fuel phase' d'

/-- A sequence of commands, issued one after the other up to the first that fails. -/
inductive UpToFailure : List Phase → List (Phase × Int) → Prop
  | done : UpToFailure [] []
  | failed (cmd : Phase) (rest : List Phase) (err : Int) (herr : err ≠ 0) :
    UpToFailure (cmd :: rest) [(cmd, err)]
  | next (cmd : Phase) {rest : List Phase} {log : List (Phase × Int)}
      (h : UpToFailure rest log) : UpToFailure (cmd :: rest) ((cmd, 0) :: log)

/-- The commands to come from a phase on. -/
def Phase.to_send : Phase → List Phase
  | .set_silent => [.set_silent, .set_ext_vcc, .set_bus_on]
  | .set_ext_vcc => [.set_ext_vcc, .set_bus_on]
  | .set_bus_on => [.set_bus_on]
  | .set_bus_off => [.set_bus_off, .init_sja1000]
  | .init_sja1000 => [.init_sja1000]
  | .inc_open_count | .undo_too_many | .open_candev | .inc_stage | .undo_stage _
  | .undo_open_count _ | .close_candev _ | .opened | .dec_open_count | .dec_stage
  | .finished _ => []

/-- The look at `stage`, which decides whether there are commands, is behind. -/
def Phase.decided : Phase → Prop
  | .inc_open_count | .open_candev | .inc_stage | .dec_open_count | .dec_stage => False
  | _ => True

/-- One step with the commands decided. -/
inductive Sends (sent : Int) (d : Device) (phase phase' : Phase) : Prop
  | none (hphase : phase.is_command = false) (hnothing : phase.to_send = [])
      (hnothing' : phase'.to_send = [])
  | success (hphase : phase.is_command = true) (herr : pcan_oneway_command sent d = 0)
      (hrest : phase.to_send = phase :: phase'.to_send)
  | failure (hphase : phase.is_command = true) (herr : pcan_oneway_command sent d ≠ 0)
      (rest : List Phase) (hrest : phase.to_send = phase :: rest) (hnothing : phase'.to_send = [])

/-- Each step of an open's commands sends at most the one its phase stands for. -/
theorem start_commands_sends {sent : Int} {done : Device → Device} {d d' : Device}
    {phase phase' : Phase} (h : start_commands sent done d phase = some (phase', d')) :
    Sends sent d phase phase' ∧ phase'.decided := by
  by_cases herr : pcan_oneway_command sent d = 0
  · unfold start_commands at h
    split at h
    · dsimp only at h
      rw [if_neg (not_not_intro herr)] at h
      cases h
      exact ⟨.success rfl herr rfl, trivial⟩
    · dsimp only at h
      rw [if_neg (not_not_intro herr)] at h
      cases h
      exact ⟨.success rfl herr rfl, trivial⟩
    · dsimp only at h
      rw [pcan_cmd_set_bus, if_neg (not_not_intro herr)] at h
      cases h
      exact ⟨.success rfl herr rfl, trivial⟩
    · cases h
  · unfold start_commands at h
    split at h
    · dsimp only at h
      rw [if_pos herr] at h
      cases h
      exact ⟨.failure rfl herr _ rfl rfl, trivial⟩
    · dsimp only at h
      rw [if_pos herr] at h
      cases h
      exact ⟨.failure rfl herr _ rfl rfl, trivial⟩
    · dsimp only at h
      rw [pcan_cmd_set_bus, if_pos herr] at h
      cases h
      exact ⟨.failure rfl herr _ rfl rfl, trivial⟩
    · cases h

/-- Each step of switching the bus off sends at most the command of its phase. -/
theorem usbdrv_reset_bus_off_sends {sent : Int} {ret : Int → Int} {d d' : Device}
    {phase phase' : Phase} (h : usbdrv_reset_bus_off sent ret d phase = some (phase', d')) :
    Sends sent d phase phase' ∧ phase'.decided := by
  by_cases herr : pcan_oneway_command sent d = 0
  · unfold usbdrv_reset_bus_off at h
    split at h
    · rw [pcan_cmd_set_bus] at h
      dsimp only at h
      rw [if_neg (not_not_intro herr)] at h
      cases h
      exact ⟨.success rfl herr rfl, trivial⟩
    · cases h
      exact ⟨.success rfl herr rfl, trivial⟩
    · cases h
  · unfold usbdrv_reset_bus_off at h
    split at h
    · rw [pcan_cmd_set_bus] at h
      dsimp only at h
      rw [if_pos herr] at h
      cases h
      exact ⟨.failure rfl herr _ rfl rfl, trivial⟩
    · cases h
      exact ⟨.failure rfl herr _ rfl rfl, trivial⟩
    · cases h

/-- Every step of every operation sends at most the command of its phase. -/
theorem operate_sends {sent : Int} {iface : Iface} {d d' : Device} {phase phase' : Phase}
    (hdecided : phase.decided) (h : d.operate iface sent phase = some (phase', d')) :
    Sends sent d phase phase' ∧ phase'.decided := by
  cases iface with
  | chardev =>
    rcases (Option.orElse_eq_some _ _ _).mp h with hopen | ⟨-, hrelease⟩
    · unfold pcan_chardev_open at hopen
      split at hopen
      · cases hdecided
      · cases hopen
        exact ⟨.none rfl rfl rfl, trivial⟩
      · cases hdecided
      · cases hopen
        exact ⟨.none rfl rfl rfl, trivial⟩
      · cases hopen
        exact ⟨.none rfl rfl rfl, trivial⟩
      · exact start_commands_sends hopen
    · unfold pcan_chardev_release at hrelease
      split at hrelease
      · cases hdecided
      · cases hdecided
      · exact usbdrv_reset_bus_off_sends hrelease
  | netdev =>
    rcases (Option.orElse_eq_some _ _ _).mp h with hopen | ⟨-, hstop⟩
    · unfold pcan_net_open at hopen
      split at hopen
      · cases hdecided
      · cases hopen
        exact ⟨.none rfl rfl rfl, trivial⟩
      unfold start_can_interface at hopen
      split at hopen
      · cases hdecided
      · cases hopen
        exact ⟨.none rfl rfl rfl, trivial⟩
      · exact start_commands_sends hopen
    · unfold pcan_net_stop at hstop
      split at hstop
      · cases hdecided
      · exact usbdrv_reset_bus_off_sends hstop

theorem to_send_of_end {phase : Phase} (h : phase.steps_left = 0) : phase.to_send = [] := by
  cases phase <;> first | rfl | cases h

/-- Once decided, the commands go out in order, up to the first that fails. -/
theorem issued_up_to_failure (iface : Iface) (sent : ℕ → Int) (fuel : ℕ) :
    ∀ (phase : Phase) (d : Device), phase.decided → phase.of iface → phase.steps_left ≤ fuel →
      UpToFailure phase.to_send (issued iface sent fuel phase d) := by
  induction fuel with
  | zero =>
    intro phase d _ _ hle
    rw [to_send_of_end (Nat.le_zero.mp hle), issued]
    exact .done
  | succ fuel ih =>
    intro phase d hdecided hof hle
    rw [issued]
    cases hop : d.operate iface (sent fuel) phase with
    | none =>
      rw [to_send_of_end (operate_eq_none hof hop)]
      exact .done
    | some result =>
      obtain ⟨phase', d'⟩ := result
      obtain ⟨hof', hlt⟩ := operate_nearer hop
      obtain ⟨hsends, hdecided'⟩ := operate_sends hdecided hop
      have hrest := ih phase' d' hdecided' hof' (by omega)
      dsimp only
      cases hsends with
      | none hphase hnothing hnothing' =>
        rw [hphase, hnothing, ← hnothing']
        exact hrest
      | success hphase herr hseq =>
        rw [if_pos hphase, herr, hseq]
        exact .next phase hrest
      | failure hphase herr rest hseq hnothing =>
        -- behind a failure nothing more goes out
        generalize issued iface sent fuel phase' d' = log at hrest
        rw [hnothing] at hrest
        cases hrest
        rw [if_pos hphase, hseq]
        exact .failed phase rest _ herr

/-! ## Opens and closes -/

/-- On the way of an open: it fails with an error, or ends open. -/
def Phase.Opening : Phase → Prop
  | .undo_stage err | .undo_open_count err | .close_candev err | .finished err => err ≠ 0
  | .dec_open_count | .dec_stage | .set_bus_off | .init_sja1000 => False
  | .inc_open_count | .undo_too_many | .open_candev | .inc_stage | .set_silent | .set_ext_vcc
  | .set_bus_on | .opened => True

/-- On the way of a close. -/
def Phase.Closing : Phase → Prop
  | .dec_open_count | .dec_stage | .set_bus_off | .init_sja1000 | .finished _ => True
  | _ => False

/-- An open goes through the phases of an open only. -/
theorem start_commands_opening {sent : Int} {done : Device → Device} {d d' : Device}
    {phase phase' : Phase} (h : start_commands sent done d phase = some (phase', d')) :
    phase'.Opening := by
  unfold start_commands at h
  split at h
  · cases h
    split
    · assumption
    · trivial
  · cases h
    split
    · assumption
    · trivial
  · dsimp only at h
    split at h
    · rename_i herr
      cases h
      exact herr
    · cases h
      trivial
  · cases h

/-- Switching off belongs to closing. -/
theorem usbdrv_reset_bus_off_closing {sent : Int} {ret : Int → Int} {d d' : Device}
    {phase phase' : Phase} (h : usbdrv_reset_bus_off sent ret d phase = some (phase', d')) :
    phase.Closing ∧ ¬ phase.Opening ∧ phase'.Closing := by
  unfold usbdrv_reset_bus_off at h
  split at h
  · cases h
    refine ⟨trivial, id, ?_⟩
    split <;> trivial
  · cases h
    exact ⟨trivial, id, trivial⟩
  · cases h

theorem first_command_opening (d : Device) : d.first_command.Opening := by
  unfold Device.first_command
  split <;> trivial

/-- An open stays one until it ends. -/
theorem operate_opening {iface : Iface} (sent : Int) (phase : Phase) (d : Device) (phase' : Phase)
    (d' : Device) (hopening : phase.Opening) (h : d.operate iface sent phase = some (phase', d')) :
    phase'.Opening := by
  cases iface with
  | chardev =>
    rcases (Option.orElse_eq_some _ _ _).mp h with hopen | ⟨-, hrelease⟩
    · unfold pcan_chardev_open at hopen
      split at hopen
      · dsimp only at hopen
        split at hopen <;> cases hopen <;> trivial
      · cases hopen
        exact (by decide : -EMFILE ≠ 0)
      · dsimp only at hopen
        split at hopen <;> cases hopen
        · trivial
        · exact first_command_opening _
      · cases hopen
        exact hopening
      · cases hopen
        exact hopening
      · exact start_commands_opening hopen
    · unfold pcan_chardev_release at hrelease
      split at hrelease
      · cases hopening
      · cases hopening
      · exact absurd hopening (usbdrv_reset_bus_off_closing hrelease).2.1
  | netdev =>
    rcases (Option.orElse_eq_some _ _ _).mp h with hopen | ⟨-, hstop⟩
    · unfold pcan_net_open at hopen
      split at hopen
      · split at hopen <;> cases hopen
        · assumption
        · trivial
      · cases hopen
        exact hopening
      unfold start_can_interface at hopen
      split at hopen
      · dsimp only at hopen
        split at hopen <;> cases hopen
        · trivial
        · exact first_command_opening _
      · cases hopen
        exact hopening
      · exact start_commands_opening hopen
    · unfold pcan_net_stop at hstop
      split at hstop
      · cases hopening
      · exact absurd hopening (usbdrv_reset_bus_off_closing hstop).2.1

/-- No command of an open is issued from a closing phase. -/
theorem start_commands_not_closing {sent : Int} {done : Device → Device} {d d' : Device}
    {phase phase' : Phase} (h : start_commands sent done d phase = some (phase', d')) :
    ¬ phase.Closing := by
  unfold start_commands at h
  split at h
  · exact id
  · exact id
  · exact id
  · cases h

/-- A close stays one until it ends. -/
theorem operate_closing {iface : Iface} (sent : Int) (phase : Phase) (d : Device) (phase' : Phase)
    (d' : Device) (hclosing : phase.Closing) (h : d.operate iface sent phase = some (phase', d')) :
    phase'.Closing := by
  cases iface with
  | chardev =>
    rcases (Option.orElse_eq_some _ _ _).mp h with hopen | ⟨-, hrelease⟩
    · unfold pcan_chardev_open at hopen
      split at hopen
      -- an open has none of these phases
      · cases hclosing
      · cases hclosing
      · cases hclosing
      · cases hclosing
      · cases hclosing
      · exact absurd hclosing (start_commands_not_closing hopen)
    · unfold pcan_chardev_release at hrelease
      split at hrelease
      · cases hrelease
        trivial
      · cases hrelease
        split <;> trivial
      · exact (usbdrv_reset_bus_off_closing hrelease).2.2
  | netdev =>
    rcases (Option.orElse_eq_some _ _ _).mp h with hopen | ⟨-, hstop⟩
    · unfold pcan_net_open at hopen
      split at hopen
      · cases hclosing
      · cases hclosing
      unfold start_can_interface at hopen
      split at hopen
      · cases hclosing
      · cases hclosing
      · exact absurd hclosing (start_commands_not_closing hopen)
    · unfold pcan_net_stop at hstop
      split at hstop
      · cases hstop
        split <;> trivial
      · exact (usbdrv_reset_bus_off_closing hstop).2.2

/-- A whole open succeeds, or returns an error. -/
theorem open_ends (iface : Iface) (sent : ℕ → Int) (phase : Phase) (d : Device)
    (hof : phase.of iface) (hopening : phase.Opening) :
    (perform iface sent operation_fuel phase d).1 = .opened
      ∨ ∃ err, err ≠ 0 ∧ (perform iface sent operation_fuel phase d).1 = .finished err := by
  have hend := @perform_inv iface (fun phase _ => phase.Opening) operate_opening sent
    operation_fuel phase d hopening
  rcases operation_ends iface sent phase d hof with hopened | ⟨err, hfinished⟩
  · exact .inl hopened
  · rw [hfinished] at hend
    exact .inr ⟨err, hend, hfinished⟩

/-- A close always comes to its end, whatever its commands answer. -/
theorem close_ends (iface : Iface) (sent : ℕ → Int) (phase : Phase) (d : Device)
    (hof : phase.of iface) (hclosing : phase.Closing) :
    ∃ ret, (perform iface sent operation_fuel phase d).1 = .finished ret := by
  have hend := @perform_inv iface (fun phase _ => phase.Closing) operate_closing sent
    operation_fuel phase d hclosing
  rcases operation_ends iface sent phase d hof with hopened | hfinished
  · rw [hopened] at hend
    cases hend
  · exact hfinished

/-- What switches the bus on, as `dev_revision` has it. -/
def Device.start_sequence (d : Device) : List Phase :=
  if d.dev_revision > 3 then [.set_silent, .set_ext_vcc, .set_bus_on]
  else [.set_ext_vcc, .set_bus_on]

def bus_off_sequence : List Phase := [.set_bus_off, .init_sja1000]

theorem first_command_to_send (d : Device) : d.first_command.to_send = d.start_sequence := by
  unfold Device.first_command Device.start_sequence
  exact apply_ite Phase.to_send _ _ _

/-- `atomic_inc_return` of `stage`, in either open. -/
theorem operate_inc_stage (iface : Iface) (sent : Int) (d : Device) :
    ∃ d', d.operate iface sent .inc_stage
      = some (if d.stage + 1 > PCAN_USB_STAGE_ONE_STARTED then .opened else d.first_command, d') := by
  by_cases hjoin : d.stage + 1 > PCAN_USB_STAGE_ONE_STARTED
  · have hjoin' : (d.set_stage (d.stage + 1)).stage > PCAN_USB_STAGE_ONE_STARTED := hjoin
    rw [if_pos hjoin]
    cases iface with
    | chardev =>
      refine ⟨d.set_stage (d.stage + 1), ?_⟩
      change ((if (d.set_stage (d.stage + 1)).stage > PCAN_USB_STAGE_ONE_STARTED then _ else _)
        <|> _) = _
      rw [if_pos hjoin']
      rfl
    | netdev =>
      refine ⟨(d.set_stage (d.stage + 1)).set_can_state .ERROR_ACTIVE, ?_⟩
      change ((if (d.set_stage (d.stage + 1)).stage > PCAN_USB_STAGE_ONE_STARTED then _ else _)
        <|> _) = _
      rw [if_pos hjoin']
      rfl
  · have hjoin' : ¬ (d.set_stage (d.stage + 1)).stage > PCAN_USB_STAGE_ONE_STARTED := hjoin
    rw [if_neg hjoin]
    refine ⟨(d.set_stage (d.stage + 1)).clear_time_ref, ?_⟩
    cases iface with
    | chardev =>
      change ((if (d.set_stage (d.stage + 1)).stage > PCAN_USB_STAGE_ONE_STARTED then _ else _)
        <|> _) = _
      rw [if_neg hjoin']
      rfl
    | netdev =>
      change ((if (d.set_stage (d.stage + 1)).stage > PCAN_USB_STAGE_ONE_STARTED then _ else _)
        <|> _) = _
      rw [if_neg hjoin']
      rfl

/-- `atomic_dec_return` of `stage`, in either close. -/
theorem operate_dec_stage (iface : Iface) (sent : Int) (d : Device) :
    ∃ d', d.operate iface sent .dec_stage
      = some (if d.stage - 1 < PCAN_USB_STAGE_ONE_STARTED then .set_bus_off else .finished 0,
          d') := by
  cases iface with
  | chardev => exact ⟨d.set_stage (d.stage - 1), rfl⟩
  | netdev => exact ⟨(d.set_stage (d.stage - 1)).set_can_state .STOPPED, rfl⟩

/-- An operation that has ended issues nothing more. -/
theorem issued_of_end (iface : Iface) (sent : ℕ → Int) (fuel : ℕ) (phase : Phase) (d : Device)
    (hdecided : phase.decided) (hof : phase.of iface) (hend : phase.steps_left = 0) :
    issued iface sent fuel phase d = [] := by
  have hlog := issued_up_to_failure iface sent fuel phase d hdecided hof (by omega)
  generalize issued iface sent fuel phase d = log at hlog
  rw [to_send_of_end hend] at hlog
  cases hlog
  rfl

/-- A step that is no command issues none. -/
theorem issued_silent {iface : Iface} {sent : ℕ → Int} {fuel : ℕ} {phase phase' : Phase}
    {d d' : Device} (hphase : phase.is_command = false)
    (hop : d.operate iface (sent fuel) phase = some (phase', d')) :
    issued iface sent (fuel + 1) phase d = issued iface sent fuel phase' d' := by
  rw [issued, hop]
  dsimp only
  rw [hphase]
  rfl

/-- An open that joins the other interface issues nothing. -/
theorem issued_joining (iface : Iface) (sent : ℕ → Int) (fuel : ℕ) {d : Device}
    (hjoin : d.stage + 1 > PCAN_USB_STAGE_ONE_STARTED) :
    issued iface sent (fuel + 1) .inc_stage d = [] := by
  obtain ⟨d', hop⟩ := operate_inc_stage iface (sent fuel) d
  rw [if_pos hjoin] at hop
  rw [issued_silent rfl hop]
  exact issued_of_end iface sent fuel .opened d' trivial trivial rfl

/-- The first open issues the start sequence. -/
theorem issued_starting (iface : Iface) (sent : ℕ → Int) (fuel : ℕ) (hfuel : 5 ≤ fuel) {d : Device}
    (hfirst : ¬ d.stage + 1 > PCAN_USB_STAGE_ONE_STARTED) :
    UpToFailure d.start_sequence (issued iface sent (fuel + 1) .inc_stage d) := by
  obtain ⟨d', hop⟩ := operate_inc_stage iface (sent fuel) d
  rw [if_neg hfirst] at hop
  rw [issued_silent rfl hop, ← first_command_to_send]
  obtain ⟨hof, hlt⟩ := operate_nearer hop
  have hle : d.first_command.steps_left < 6 := hlt
  have hdecided : d.first_command.decided := by
    unfold Device.first_command
    split <;> trivial
  exact issued_up_to_failure iface sent fuel _ d' hdecided hof (by omega)

/-- The last close switches off. -/
theorem issued_last (iface : Iface) (sent : ℕ → Int) (fuel : ℕ) (hfuel : 2 ≤ fuel) {d : Device}
    (hlast : d.stage - 1 < PCAN_USB_STAGE_ONE_STARTED) :
    UpToFailure bus_off_sequence (issued iface sent (fuel + 1) .dec_stage d) := by
  obtain ⟨d', hop⟩ := operate_dec_stage iface (sent fuel) d
  rw [if_pos hlast] at hop
  rw [issued_silent rfl hop]
  exact issued_up_to_failure iface sent fuel .set_bus_off d' trivial trivial hfuel

/-- A close that leaves the other interface open issues nothing. -/
theorem issued_leaving (iface : Iface) (sent : ℕ → Int) (fuel : ℕ) {d : Device}
    (hother : ¬ d.stage - 1 < PCAN_USB_STAGE_ONE_STARTED) :
    issued iface sent (fuel + 1) .dec_stage d = [] := by
  obtain ⟨d', hop⟩ := operate_dec_stage iface (sent fuel) d
  rw [if_neg hother] at hop
  rw [issued_silent rfl hop]
  exact issued_of_end iface sent fuel (.finished 0) d' trivial trivial rfl

/-! Around the stage: the count of the character device, and `open_candev`. -/

/-- A second file is turned away before it touches the stage. -/
theorem chardev_open_rejected (sent : ℕ → Int) {d : Device} (hfull : d.open_count + 1 > 1) :
    (perform .chardev sent operation_fuel .inc_open_count d).1 = .finished (-EMFILE)
      ∧ issued .chardev sent operation_fuel .inc_open_count d = [] := by
  have hin : ∀ sent', d.operate .chardev sent' .inc_open_count
      = some (.undo_too_many, d.set_open_count (d.open_count + 1)) := by
    intro sent'
    change ((if d.open_count + 1 > 1 then _ else _) <|> _) = _
    rw [if_pos hfull]
    rfl
  constructor
  · rw [operation_fuel, perform, hin]
    rfl
  · rw [operation_fuel, issued_silent rfl (hin _)]
    rfl

/-- The commands of the first open of a file are those from its stage on. -/
theorem issued_chardev_open (sent : ℕ → Int) {d : Device} (hfree : ¬ d.open_count + 1 > 1) :
    ∃ d', d'.stage = d.stage ∧ d'.dev_revision = d.dev_revision
      ∧ issued .chardev sent operation_fuel .inc_open_count d
        = issued .chardev sent 7 .inc_stage d' := by
  refine ⟨(d.set_open_count (d.open_count + 1)).reset_ring, rfl, rfl, issued_silent rfl ?_⟩
  change ((if d.open_count + 1 > 1 then _ else _) <|> _) = _
  rw [if_neg hfree]
  rfl

/-- Where `open_candev` fails the open ends there and commands nothing. -/
theorem net_open_rejected (sent : ℕ → Int) (d : Device) (herr : sent 7 ≠ 0) :
    (perform .netdev sent operation_fuel .open_candev d).1 = .finished (sent 7)
      ∧ issued .netdev sent operation_fuel .open_candev d = [] := by
  have hfail : d.operate .netdev (sent 7) .open_candev
      = some (.finished (sent 7), d.set_netif_running false) := by
    change ((if sent 7 ≠ 0 then _ else _) <|> _) = _
    rw [if_pos herr]
    rfl
  constructor
  · rw [operation_fuel, perform, hfail]
    rfl
  · rw [operation_fuel, issued_silent rfl hfail]
    exact issued_of_end .netdev sent _ _ _ trivial trivial rfl

/-- Behind `open_candev` the network interface opens as the character device does. -/
theorem issued_net_open (sent : ℕ → Int) (d : Device) (hok : sent 7 = 0) :
    issued .netdev sent operation_fuel .open_candev d = issued .netdev sent 7 .inc_stage d := by
  refine issued_silent rfl ?_
  change ((if sent 7 ≠ 0 then _ else _) <|> _) = _
  rw [if_neg (not_not_intro hok)]
  rfl

/-- The commands of a release are those behind its count. -/
theorem issued_chardev_release (sent : ℕ → Int) (d : Device) :
    issued .chardev sent operation_fuel .dec_open_count d
      = issued .chardev sent 7 .dec_stage (d.set_open_count (d.open_count - 1)) :=
  issued_silent rfl rfl

end DualPcanUsb
