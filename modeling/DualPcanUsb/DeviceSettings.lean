/-
What the device has been told about its bus.

Only the open that starts the bus sends settings, and it takes listen-only from `can.ctrlmode`
as it finds it. The kernel changes `ctrlmode` whenever the network interface is down, so also
while a reader of the character device keeps the bus on; the network interface that joins
then sends nothing, and the device goes on as it was started.
-/
import DualPcanUsb.StageLaw
import DualPcanUsb.RxCounters
import DualPcanUsb.Transmit

set_option autoImplicit false

namespace DualPcanUsb

/-! ## The device's end -/

/-- The settings a command is about, as the device was last told them; `none` if the command
failed, as it may have come through all the same. -/
structure Settings where
  bus_on : Option Bool
  silent : Option Bool
  ext_vcc : Option Bool
deriving DecidableEq, Repr

/-- What is certain behind a command that sets `on`. -/
def heard (err : Int) (on : Bool) : Option Bool := if err = 0 then some on else none

/-- The sixteen bytes of a command. The numbers are those of the `CMD_HOLDER_OF_SET_*`. -/
def Settings.obey (s : Settings) (err : Int) (wire : List u8) : Settings :=
  let on := heard err (decide (wire.getD PCAN_CMD_ARG_INDEX_ARG 0 ≠ 0))
  if wire.take 2 = [3, 2] then { s with bus_on := on }
  else if wire.take 2 = [3, 3] then { s with silent := on }
  else if wire.take 2 = [10, 2] then { s with ext_vcc := on }
  else s

/-- The command a step of an open or close sends. -/
def Phase.holder (ctrlmode : u32) : Phase → Option CmdHolder
  | .set_silent => some (.set_silent ((ctrlmode &&& CAN_CTRLMODE_LISTENONLY).setWidth 8))
  | .set_ext_vcc => some (.set_ext_vcc 0)
  | .set_bus_on => some (.set_bus 1)
  | .set_bus_off => some (.set_bus 0)
  | .init_sja1000 => some (.set_sja1000 SJA1000_MODE_INIT)
  | _ => none

def listen_only (ctrlmode : u32) : Bool := decide (ctrlmode &&& CAN_CTRLMODE_LISTENONLY ≠ 0)

/-! ## The driver's end -/

/-- A device with its open files, the mode the kernel keeps for it, what the command buffer
holds, and what has come of it all at the device. `first_mode` is the mode in which the first
of the open interfaces was opened. -/
structure Configured where
  d : Device
  open_files : ℕ
  ctrlmode : u32
  first_mode : u32
  cmd_buf : CmdBuf
  told : Settings

def Configured.open_interfaces (c : Configured) : ℕ := c.d.open_interfaces c.open_files

/-- A command is written over what was in the buffer, and sent. -/
def Configured.send (c : Configured) (cmd : Phase × Int) : Configured :=
  match cmd.1.holder c.ctrlmode with
  | none => c
  | some h =>
    let buf := pcan_fill_command_buffer h.functionality h.number h.args PCAN_CMD_ARGS_LEN c.cmd_buf
    { c with
      cmd_buf := buf
      told := c.told.obey cmd.2 (buf.bytes PCAN_CMD_TOTAL_LEN) }

inductive SettingsAction
  | use (use : Use)
  | set_ctrlmode (ctrlmode : u32)

instance (d : Device) (open_files : ℕ) (use : Use) : Decidable (use.Possible d open_files) :=
  match use with
  | .open_ .chardev _ => .isTrue trivial
  | .open_ .netdev _ => inferInstanceAs (Decidable (d.netif_running = false))
  | .close .chardev _ => inferInstanceAs (Decidable (0 < open_files))
  | .close .netdev _ => inferInstanceAs (Decidable (d.netif_running = true))

def Configured.perform (c : Configured) (use : Use) : Configured :=
  let first_mode := if c.open_interfaces = 0 then c.ctrlmode else c.first_mode
  { (use.issued c.d).foldl Configured.send c with
    d := (use.perform c.d).2
    open_files := use.open_files c.d c.open_files
    first_mode := first_mode }

/-- The kernel refuses another mode while the network interface is up. -/
def Configured.step (c : Configured) : SettingsAction → Option Configured
  | .use use => if use.Possible c.d c.open_files then some (c.perform use) else none
  | .set_ctrlmode ctrlmode =>
    if c.d.netif_running then none else some { c with ctrlmode := ctrlmode }

/-! ## What a command does -/

/-- The byte sent for the mode is on exactly in listen-only mode. -/
theorem arg_of_listen_only (ctrlmode : u32) :
    decide (on_off ((ctrlmode &&& CAN_CTRLMODE_LISTENONLY).setWidth 8) ≠ 0)
      = listen_only ctrlmode := by
  have hle : (ctrlmode &&& CAN_CTRLMODE_LISTENONLY).toNat ≤ 2 := by
    rw [BitVec.toNat_and]
    exact Nat.and_le_right
  have hzero : (ctrlmode &&& CAN_CTRLMODE_LISTENONLY).setWidth 8 = (0 : u8)
      ↔ ctrlmode &&& CAN_CTRLMODE_LISTENONLY = 0 := by
    rw [← BitVec.toNat_inj, ← BitVec.toNat_inj, BitVec.toNat_setWidth,
      Nat.mod_eq_of_lt (by omega)]
    exact Iff.rfl
  unfold on_off listen_only
  by_cases hoff : ctrlmode &&& CAN_CTRLMODE_LISTENONLY = 0
  · rw [if_neg (not_not_intro (hzero.mpr hoff)), hoff]
    rfl
  · rw [if_pos (fun h => hoff (hzero.mp h))]
    exact (decide_eq_true hoff).symm

/-- What a command is to tell the device. -/
def Settings.after (s : Settings) (ctrlmode : u32) : Phase × Int → Settings
  | (.set_silent, err) => { s with silent := heard err (listen_only ctrlmode) }
  | (.set_ext_vcc, err) => { s with ext_vcc := heard err false }
  | (.set_bus_on, err) => { s with bus_on := heard err true }
  | (.set_bus_off, err) => { s with bus_on := heard err false }
  | _ => s

/-- The device gets out of the bytes what was meant, whatever the buffer held before. -/
theorem Configured.send_told (c : Configured) (cmd : Phase × Int) :
    (c.send cmd).told = c.told.after c.ctrlmode cmd := by
  have hobey : ∀ h, cmd.1.holder c.ctrlmode = some h →
      (c.send cmd).told = c.told.obey cmd.2 h.wire := by
    intro h hholder
    rw [← fill_command_buffer_bytes h c.cmd_buf, Configured.send, hholder]
  obtain ⟨phase, err⟩ := cmd
  cases phase with
  | set_silent =>
    rw [hobey _ rfl, Settings.after, ← arg_of_listen_only]
    rfl
  | set_ext_vcc => exact hobey _ rfl
  | set_bus_on => exact hobey _ rfl
  | set_bus_off => exact hobey _ rfl
  -- the reset of the controller is about none of these
  | init_sja1000 => exact hobey _ rfl
  | _ => rfl

/-- No command changes the mode that is set. -/
theorem Configured.send_ctrlmode (c : Configured) (cmd : Phase × Int) :
    (c.send cmd).ctrlmode = c.ctrlmode := by
  unfold Configured.send
  split <;> rfl

/-- And of a row of commands. -/
theorem Configured.send_all_told (log : List (Phase × Int)) : ∀ c : Configured,
    (log.foldl Configured.send c).told = log.foldl (Settings.after · c.ctrlmode ·) c.told
      ∧ (log.foldl Configured.send c).ctrlmode = c.ctrlmode := by
  induction log with
  | nil => exact fun c => ⟨rfl, rfl⟩
  | cons cmd log ih =>
    intro c
    obtain ⟨htold, hmode⟩ := ih (c.send cmd)
    rw [c.send_ctrlmode cmd] at htold hmode
    rw [List.foldl_cons, List.foldl_cons, htold, c.send_told cmd]
    exact ⟨rfl, hmode⟩

/-! ## Whether a start has gone through

An operation's result and its commands are two records of the same steps: it ends open exactly
if none of the commands has failed. -/

inductive Way
  | before
  | starting
  | failing
  | closing
deriving DecidableEq

def Phase.way : Phase → Way
  | .inc_open_count | .open_candev | .inc_stage => .before
  | .set_silent | .set_ext_vcc | .set_bus_on | .opened => .starting
  | .undo_too_many | .undo_stage _ | .undo_open_count _ | .close_candev _ | .finished _ => .failing
  | .dec_open_count | .dec_stage | .set_bus_off | .init_sja1000 => .closing

/-- One step of an open. -/
inductive GoesOn (sent : Int) (d : Device) (phase phase' : Phase) : Prop
  | before (hphase : phase.way = .before) (hsilent : phase.is_command = false)
      (hphase' : phase'.way ≠ .closing)
  | success (hphase : phase.way = .starting) (hcommand : phase.is_command = true)
      (herr : pcan_oneway_command sent d = 0) (hphase' : phase'.way = .starting)
  | failure (hphase : phase.way = .starting) (hcommand : phase.is_command = true)
      (herr : pcan_oneway_command sent d ≠ 0) (hphase' : phase'.way = .failing)
  | failing (hphase : phase.way = .failing) (hsilent : phase.is_command = false)
      (hphase' : phase'.way = .failing)

/-- A start goes on to its next command, or gives up. -/
theorem start_commands_goesOn {sent : Int} {done : Device → Device} {d d' : Device}
    {phase phase' : Phase} (h : start_commands sent done d phase = some (phase', d')) :
    GoesOn sent d phase phase' := by
  by_cases herr : pcan_oneway_command sent d = 0
  · unfold start_commands at h
    split at h
    · dsimp only at h
      rw [if_neg (not_not_intro herr)] at h
      cases h
      exact .success rfl rfl herr rfl
    · dsimp only at h
      rw [if_neg (not_not_intro herr)] at h
      cases h
      exact .success rfl rfl herr rfl
    · dsimp only at h
      rw [pcan_cmd_set_bus, if_neg (not_not_intro herr)] at h
      cases h
      exact .success rfl rfl herr rfl
    · cases h
  · unfold start_commands at h
    split at h
    · dsimp only at h
      rw [if_pos herr] at h
      cases h
      exact .failure rfl rfl herr rfl
    · dsimp only at h
      rw [if_pos herr] at h
      cases h
      exact .failure rfl rfl herr rfl
    · dsimp only at h
      rw [pcan_cmd_set_bus, if_pos herr] at h
      cases h
      exact .failure rfl rfl herr rfl
    · cases h

theorem first_command_way (d : Device) : d.first_command.way ≠ .closing := by
  unfold Device.first_command
  split <;> nofun

/-- The bus is switched off on the way down only. -/
theorem usbdrv_reset_bus_off_way {sent : Int} {ret : Int → Int} {d d' : Device}
    {phase phase' : Phase} (h : usbdrv_reset_bus_off sent ret d phase = some (phase', d')) :
    phase.way = .closing := by
  unfold usbdrv_reset_bus_off at h
  split at h
  · rfl
  · rfl
  · cases h

/-- Each step of an open that starts goes on to the next command, or gives up. -/
theorem operate_goesOn {iface : Iface} {sent : Int} {phase phase' : Phase} {d d' : Device}
    (hway : phase.way ≠ .closing) (h : d.operate iface sent phase = some (phase', d')) :
    GoesOn sent d phase phase' := by
  cases iface with
  | chardev =>
    rcases (Option.orElse_eq_some _ _ _).mp h with hopen | ⟨-, hrelease⟩
    · unfold pcan_chardev_open at hopen
      split at hopen
      · dsimp only at hopen
        split at hopen <;> cases hopen <;> exact .before rfl rfl nofun
      · cases hopen
        exact .failing rfl rfl rfl
      · dsimp only at hopen
        split at hopen <;> cases hopen
        · exact .before rfl rfl nofun
        · exact .before rfl rfl (first_command_way _)
      · cases hopen
        exact .failing rfl rfl rfl
      · cases hopen
        exact .failing rfl rfl rfl
      · exact start_commands_goesOn hopen
    · unfold pcan_chardev_release at hrelease
      split at hrelease
      · exact absurd rfl hway
      · exact absurd rfl hway
      · exact absurd (usbdrv_reset_bus_off_way hrelease) hway
  | netdev =>
    rcases (Option.orElse_eq_some _ _ _).mp h with hopen | ⟨-, hstop⟩
    · unfold pcan_net_open at hopen
      split at hopen
      · split at hopen <;> cases hopen <;> exact .before rfl rfl nofun
      · cases hopen
        exact .failing rfl rfl rfl
      unfold start_can_interface at hopen
      split at hopen
      · dsimp only at hopen
        split at hopen <;> cases hopen
        · exact .before rfl rfl nofun
        · exact .before rfl rfl (first_command_way _)
      · cases hopen
        exact .failing rfl rfl rfl
      · exact start_commands_goesOn hopen
    · unfold pcan_net_stop at hstop
      split at hstop
      · exact absurd rfl hway
      · exact absurd (usbdrv_reset_bus_off_way hstop) hway

/-- Open or failed at the end, and the commands issued on the way. -/
structure Agrees (started : Prop) (last : Phase) (log : List (Phase × Int)) : Prop where
  way_ne : last.way ≠ .closing
  succeeded : last = .opened → ∀ cmd ∈ log, cmd.2 = 0
  failed : last.way = .failing → started ∨ log ≠ [] → ∃ cmd ∈ log, cmd.2 ≠ 0

/-- On the failing way nothing is issued any more, and nothing opened. -/
theorem perform_failing (iface : Iface) (sent : ℕ → Int) (fuel : ℕ) : ∀ (phase : Phase)
    (d : Device), phase.way = .failing → (perform iface sent fuel phase d).1.way = .failing
      ∧ issued iface sent fuel phase d = [] := by
  induction fuel with
  | zero => exact fun phase d h => ⟨h, rfl⟩
  | succ fuel ih =>
    intro phase d hway
    rw [perform, issued]
    cases hop : d.operate iface (sent fuel) phase with
    | none => exact ⟨hway, rfl⟩
    | some result =>
      obtain ⟨phase', d'⟩ := result
      dsimp only
      have hopening : phase.way ≠ .closing := by
        rw [hway]
        decide
      cases operate_goesOn hopening hop with
      | before hphase => cases hway.symm.trans hphase
      | success hphase => cases hway.symm.trans hphase
      | failure hphase => cases hway.symm.trans hphase
      | failing _ hsilent hphase' =>
        rw [hsilent]
        exact ih phase' d' hphase'

/-- An operation that is not starting issues none of the commands of a start. -/
theorem agrees_of_none {phase : Phase} (hway : phase.way ≠ .closing) :
    Agrees (phase.way = .starting) phase [] := by
  refine ⟨hway, fun _ cmd hcmd => absurd hcmd List.not_mem_nil, fun hfailing hsome => ?_⟩
  rcases hsome with hstarting | hne
  · cases hstarting.symm.trans hfailing
  · exact absurd rfl hne

/-- The commands issued are those of a start, up to the first that fails. -/
theorem perform_agrees (iface : Iface) (sent : ℕ → Int) (fuel : ℕ) : ∀ (phase : Phase)
    (d : Device), phase.way ≠ .closing →
      Agrees (phase.way = .starting) (perform iface sent fuel phase d).1
        (issued iface sent fuel phase d) := by
  induction fuel with
  | zero => exact fun phase d hway => agrees_of_none hway
  | succ fuel ih =>
    intro phase d hway
    rw [perform, issued]
    cases hop : d.operate iface (sent fuel) phase with
    | none => exact agrees_of_none hway
    | some result =>
      obtain ⟨phase', d'⟩ := result
      dsimp only
      cases operate_goesOn hway hop with
      | before hphase hsilent hphase' =>
        rw [hsilent]
        obtain ⟨hend, hsucceeded, hfailed⟩ := ih phase' d' hphase'
        refine ⟨hend, hsucceeded, fun hfailing hsome => ?_⟩
        rcases hsome with hstarting | hne
        · cases hphase.symm.trans hstarting
        · exact hfailed hfailing (.inr hne)
      | success _ hcommand herr hphase' =>
        have hopening : phase'.way ≠ .closing := by
          rw [hphase']
          decide
        obtain ⟨hend, hsucceeded, hfailed⟩ := ih phase' d' hopening
        rw [if_pos hcommand, herr]
        refine ⟨hend, fun hopened => ?_, fun hfailing _ => ?_⟩
        · exact List.forall_mem_cons.mpr ⟨rfl, hsucceeded hopened⟩
        · obtain ⟨cmd, hcmd, hne⟩ := hfailed hfailing (.inl hphase')
          exact ⟨cmd, List.mem_cons_of_mem _ hcmd, hne⟩
      | failure _ hcommand herr hphase' =>
        obtain ⟨hend, -⟩ := perform_failing iface sent fuel phase' d' hphase'
        rw [if_pos hcommand]
        refine ⟨by rw [hend]; decide, fun hopened => ?_, fun _ _ => ?_⟩
        · rw [hopened] at hend
          cases hend
        · exact ⟨_, List.mem_cons_self, herr⟩
      | failing hphase hsilent hphase' =>
        obtain ⟨hend, hnone⟩ := perform_failing iface sent fuel phase' d' hphase'
        rw [hsilent, hnone]
        refine ⟨by rw [hend]; decide, fun hopened => ?_, fun _ hsome => ?_⟩
        · rw [hopened] at hend
          cases hend
        · rcases hsome with hstarting | hne
          · cases hphase.symm.trans hstarting
          · exact absurd rfl hne

/-! ## Runs of opens, closes and changes of mode -/

/-- Without a failure all commands of a start are issued. -/
theorem UpToFailure.eq_of_succeeded {seq : List Phase} {log : List (Phase × Int)}
    (h : UpToFailure seq log) (hok : ∀ cmd ∈ log, cmd.2 = 0) : log = seq.map (·, 0) := by
  induction h with
  | done => rfl
  | failed cmd rest err herr => exact absurd (hok _ List.mem_cons_self) herr
  | next cmd _ ih =>
    rw [ih fun c hc => hok c (List.mem_cons_of_mem _ hc)]
    rfl

/-- An open as a whole, from its first phase. -/
theorem use_opening (iface : Iface) (sent : ℕ → Int) (d : Device) :
    Agrees False ((Use.open_ iface sent).perform d).1 ((Use.open_ iface sent).issued d) := by
  cases iface with
  | chardev =>
    have hagrees := perform_agrees .chardev sent operation_fuel .inc_open_count d nofun
    exact ⟨hagrees.way_ne, hagrees.succeeded,
      fun hfailing hsome => hagrees.failed hfailing (hsome.imp_left False.elim)⟩
  | netdev =>
    have hagrees := perform_agrees .netdev sent operation_fuel .open_candev
      (d.set_netif_running true) nofun
    exact ⟨hagrees.way_ne, hagrees.succeeded,
      fun hfailing hsome => hagrees.failed hfailing (hsome.imp_left False.elim)⟩

/-- How the device has been told to be, with `first_mode`, on a device of the revision. -/
structure Settings.Started (told : Settings) (dev_revision : ℕ) (first_mode : u32) : Prop where
  bus_on : told.bus_on = some true
  ext_vcc : told.ext_vcc = some false
  silent : dev_revision > 3 → told.silent = some (listen_only first_mode)

/-- A start that has gone through has told it everything. -/
theorem started_of_succeeded {d : Device} {log : List (Phase × Int)} (told : Settings)
    (ctrlmode : u32) (h : UpToFailure d.start_sequence log) (hok : ∀ cmd ∈ log, cmd.2 = 0) :
    (log.foldl (Settings.after · ctrlmode ·) told).Started d.dev_revision ctrlmode := by
  rw [h.eq_of_succeeded hok, Device.start_sequence]
  split
  · exact ⟨rfl, rfl, fun _ => rfl⟩
  · rename_i hold
    exact ⟨rfl, rfl, fun hnew => absurd hnew hold⟩

/-- One that has not has not got as far as switching the bus on. -/
theorem off_of_failed {d : Device} {log : List (Phase × Int)} {told : Settings} (ctrlmode : u32)
    (h : UpToFailure d.start_sequence log) (hfailed : ∃ cmd ∈ log, cmd.2 ≠ 0)
    (hoff : told.bus_on ≠ some true) :
    (log.foldl (Settings.after · ctrlmode ·) told).bus_on ≠ some true := by
  have hlast : ∀ {told : Settings} {log : List (Phase × Int)}, told.bus_on ≠ some true →
      UpToFailure [.set_ext_vcc, .set_bus_on] log → (∃ cmd ∈ log, cmd.2 ≠ 0) →
      (log.foldl (Settings.after · ctrlmode ·) told).bus_on ≠ some true := by
    intro told log hoff h hfailed
    cases h with
    | failed _ _ err herr => exact hoff
    | next _ hrest =>
      cases hrest with
      | failed _ _ err herr =>
        change heard err true ≠ some true
        rw [heard, if_neg herr]
        nofun
      | next _ hrest =>
        cases hrest
        obtain ⟨cmd, hcmd, hne⟩ := hfailed
        simp only [List.mem_cons, List.not_mem_nil, or_false] at hcmd
        rcases hcmd with rfl | rfl <;> exact absurd rfl hne
  rw [Device.start_sequence] at h
  split at h
  · cases h with
    | failed _ _ err herr => exact hoff
    | next _ hrest =>
      obtain ⟨cmd, hcmd, hne⟩ := hfailed
      rcases List.mem_cons.mp hcmd with rfl | hcmd
      · exact absurd rfl hne
      · exact @hlast (told.after ctrlmode (.set_silent, 0)) _ hoff hrest ⟨cmd, hcmd, hne⟩
  · exact hlast hoff h hfailed

/-- The last close switches the bus off, or has tried to. -/
theorem off_of_closed {log : List (Phase × Int)} (told : Settings) (ctrlmode : u32)
    (h : UpToFailure bus_off_sequence log) :
    (log.foldl (Settings.after · ctrlmode ·) told).bus_on ≠ some true := by
  have hoff : ∀ err, heard err false ≠ some true := by
    intro err
    unfold heard
    split <;> nofun
  cases h with
  | failed _ _ err herr => exact hoff err
  | next _ hrest =>
    cases hrest with
    | failed _ _ err herr => exact hoff 0
    | next _ hrest =>
      cases hrest
      exact hoff 0

/-- An open succeeds, or returns an error. -/
theorem use_open_ends (iface : Iface) (sent : ℕ → Int) (d : Device) :
    ((Use.open_ iface sent).perform d).1 = .opened
      ∨ ∃ err, err ≠ 0 ∧ ((Use.open_ iface sent).perform d).1 = .finished err := by
  cases iface with
  | chardev => exact open_ends .chardev sent .inc_open_count d rfl trivial
  | netdev => exact open_ends .netdev sent .open_candev (d.set_netif_running true) rfl trivial

/-- An open turned away does not succeed. -/
theorem use_turned_away {iface : Iface} {sent : ℕ → Int} {d : Device}
    (h : (Use.open_ iface sent).TurnedAway d) :
    ((Use.open_ iface sent).perform d).1 ≠ .opened := by
  cases iface with
  | chardev =>
    have hrejected := (chardev_open_rejected sent h).1
    exact fun hopened => by cases hopened.symm.trans hrejected
  | netdev =>
    have hrejected := (net_open_rejected sent (d.set_netif_running true) h).1
    exact fun hopened => by cases hopened.symm.trans hrejected

/-- The revision is the device's own. -/
theorem operate_dev_revision {iface : Iface} {sent : Int} {phase phase' : Phase} {d d' : Device}
    (h : d.operate iface sent phase = some (phase', d')) : d'.dev_revision = d.dev_revision := by
  cases iface with
  | chardev =>
    exact @operate_chardev_keeps _ Device.dev_revision (fun _ _ => rfl) (fun _ _ => rfl)
      (fun _ => rfl) (fun _ => rfl) (fun _ _ => rfl) _ _ _ _ _ h
  | netdev =>
    exact @operate_netdev_keeps _ Device.dev_revision (fun _ _ => rfl) (fun _ _ => rfl)
      (fun _ => rfl) (fun _ _ => rfl) (fun _ _ => rfl) (fun _ _ => rfl) _ _ _ _ _ h

/-- No operation changes the revision of its device. -/
theorem use_dev_revision (use : Use) (d : Device) :
    (use.perform d).2.dev_revision = d.dev_revision := by
  have hperform : ∀ (iface : Iface) (sent : ℕ → Int) (phase : Phase) (d' : Device),
      d'.dev_revision = d.dev_revision →
      (perform iface sent operation_fuel phase d').2.dev_revision = d.dev_revision := by
    intro iface sent phase d' hsame
    exact @perform_inv iface (fun _ d' => d'.dev_revision = d.dev_revision)
      (fun _ _ _ _ _ h hop => (operate_dev_revision hop).trans h) sent operation_fuel phase d' hsame
  match use with
  | .open_ .chardev sent => exact hperform _ sent _ _ rfl
  | .open_ .netdev sent => exact hperform _ sent _ _ rfl
  | .close .chardev sent => exact hperform _ sent _ _ rfl
  | .close .netdev sent => exact hperform _ sent _ _ rfl

/-- While an interface is open, the device is as the mode at the first open had it; while
none is, it has not been left on knowingly. -/
structure Configured.AsStarted (c : Configured) : Prop where
  counts : c.d.Counts c.open_files
  started : 0 < c.open_interfaces → c.told.Started c.d.dev_revision c.first_mode
  off : c.open_interfaces = 0 → c.told.bus_on ≠ some true

/-- Behind an open the device has the mode of the first interface opened. -/
theorem Configured.AsStarted.open_ {c : Configured} (h : c.AsStarted) {iface : Iface}
    {sent : ℕ → Int} (hpossible : (Use.open_ iface sent).Possible c.d c.open_files) :
    (c.perform (.open_ iface sent)).AsStarted := by
  obtain ⟨⟨hsuccess, hfailure, hstarts, hsilent⟩, hcounts'⟩ := use_law _ h.counts hpossible
  have hagrees := use_opening iface sent c.d
  have hrevision := use_dev_revision (.open_ iface sent) c.d
  have htold : (c.perform (.open_ iface sent)).told = _ :=
    (Configured.send_all_told ((Use.open_ iface sent).issued c.d) c).1
  have hinterfaces : (c.perform (.open_ iface sent)).open_interfaces
    = ((Use.open_ iface sent).perform c.d).2.open_interfaces
        ((Use.open_ iface sent).open_files c.d c.open_files) := rfl
  by_cases hnone : c.open_interfaces = 0
  · have hmode : (c.perform (.open_ iface sent)).first_mode = c.ctrlmode := if_pos hnone
    rcases use_open_ends iface sent c.d with hopened | ⟨err, herr, hfinished⟩
    · -- the first open has gone through: the start sequence has come to its end
      have hlog := hstarts hnone fun haway => use_turned_away haway hopened
      have hone := hsuccess (by rw [hopened]; rfl)
      refine ⟨hcounts', fun _ => ?_, fun hzero => ?_⟩
      · rw [htold, hmode]
        change Settings.Started _ ((Use.open_ iface sent).perform c.d).2.dev_revision _
        rw [hrevision]
        exact started_of_succeeded c.told c.ctrlmode hlog (hagrees.succeeded hopened)
      · rw [hinterfaces, hone] at hzero
        cases hzero
    · have hsame := (hfailure (by rw [hfinished]; exact herr)).1
      refine ⟨hcounts', fun hsome => ?_, fun _ => ?_⟩
      · rw [hinterfaces, hsame] at hsome
        exact absurd hnone hsome.ne'
      · rw [htold]
        by_cases haway : (Use.open_ iface sent).TurnedAway c.d
        · rw [hsilent (.inr haway)]
          exact h.off hnone
        · have hlog := hstarts hnone haway
          have hsome : (Use.open_ iface sent).issued c.d ≠ [] := by
            intro hempty
            rw [hempty, Device.start_sequence] at hlog
            split at hlog <;> cases hlog
          exact off_of_failed c.ctrlmode hlog
            (hagrees.failed (by rw [hfinished]; rfl) (.inr hsome)) (h.off hnone)
  · -- one that joins sends nothing
    have hmode : (c.perform (.open_ iface sent)).first_mode = c.first_mode := if_neg hnone
    have hstill : 0 < (c.perform (.open_ iface sent)).open_interfaces := by
      rw [hinterfaces]
      rcases use_open_ends iface sent c.d with hopened | ⟨err, herr, hfinished⟩
      · rw [hsuccess (by rw [hopened]; rfl)]
        exact Nat.succ_pos _
      · rw [(hfailure (by rw [hfinished]; exact herr)).1]
        exact Nat.pos_of_ne_zero hnone
    refine ⟨hcounts', fun _ => ?_, fun hzero => absurd hzero hstill.ne'⟩
    rw [htold, hmode, hsilent (.inl hnone)]
    change Settings.Started _ ((Use.open_ iface sent).perform c.d).2.dev_revision _
    rw [hrevision]
    exact h.started (Nat.pos_of_ne_zero hnone)

/-- The last close turns it off, any other leaves it. -/
theorem Configured.AsStarted.close {c : Configured} (h : c.AsStarted) {iface : Iface}
    {sent : ℕ → Int} (hpossible : (Use.close iface sent).Possible c.d c.open_files) :
    (c.perform (.close iface sent)).AsStarted := by
  obtain ⟨⟨hclosed, hswitches, hsilent⟩, hcounts'⟩ := use_law _ h.counts hpossible
  have hrevision := use_dev_revision (.close iface sent) c.d
  have htold : (c.perform (.close iface sent)).told = _ :=
    (Configured.send_all_told ((Use.close iface sent).issued c.d) c).1
  have hsome : c.open_interfaces ≠ 0 := by
    rw [Configured.open_interfaces, hclosed]
    exact Nat.succ_ne_zero _
  have hmode : (c.perform (.close iface sent)).first_mode = c.first_mode := if_neg hsome
  refine ⟨hcounts', fun hother => ?_, fun hlast => ?_⟩
  · rw [htold, hmode, hsilent hother.ne']
    change Settings.Started _ ((Use.close iface sent).perform c.d).2.dev_revision _
    rw [hrevision]
    exact h.started (Nat.pos_of_ne_zero hsome)
  · rw [htold]
    exact off_of_closed c.told c.ctrlmode (hswitches hlast)

/-- A mode set while something is open waits for the next start. -/
theorem asStarted_step (c : Configured) (action : SettingsAction) (c' : Configured)
    (h : c.AsStarted) (hstep : c.step action = some c') : c'.AsStarted := by
  cases action with
  | use use =>
    obtain ⟨hpossible, ⟨⟩⟩ := Option.ite_none_right_eq_some.mp hstep
    cases use with
    | open_ iface sent => exact h.open_ hpossible
    | close iface sent => exact h.close hpossible
  | set_ctrlmode ctrlmode =>
    obtain ⟨-, ⟨⟩⟩ := Option.ite_none_left_eq_some.mp hstep
    exact ⟨h.counts, h.started, h.off⟩

/-- Behind the probe: nothing open, and the bus last switched off. -/
structure Configured.Plugged (c : Configured) : Prop where
  counts : c.d.Counts 0
  down : c.d.netif_running = false
  no_files : c.open_files = 0
  off : c.told.bus_on = some false

/-- In every run of opens, closes and changes of mode, a device with an interface open has been
told to be on, without external power, and silent exactly if the mode was listen-only when the
first of the open interfaces was opened; one with none open is not known to be on. -/
theorem device_keeps_first_mode (c₀ c : Configured) (actions : List SettingsAction)
    (hplugged : c₀.Plugged) (hrun : Runs.run Configured.step c₀ actions = some c) :
    (0 < c.open_interfaces → c.told.bus_on = some true ∧ c.told.ext_vcc = some false
        ∧ (c.d.dev_revision > 3 → c.told.silent = some (listen_only c.first_mode)))
      ∧ (c.open_interfaces = 0 → c.told.bus_on ≠ some true) := by
  have hinit : c₀.AsStarted := by
    have hnone : c₀.open_interfaces = 0 := by
      rw [Configured.open_interfaces, Device.open_interfaces, hplugged.down, hplugged.no_files]
      rfl
    refine ⟨?_, fun hsome => absurd hnone hsome.ne', fun _ => ?_⟩
    · rw [hplugged.no_files]
      exact hplugged.counts
    · rw [hplugged.off]
      nofun
  have hend : c.AsStarted := Runs.run_invariant Configured.step asStarted_step hinit hrun
  exact ⟨fun hsome => ⟨(hend.started hsome).bus_on, (hend.started hsome).ext_vcc,
    (hend.started hsome).silent⟩, hend.off⟩

/-- A plugged device that has been told nothing but to be off. -/
def configured : Configured where
  d := Device.plugged 8
  open_files := 0
  ctrlmode := 0
  first_mode := 0
  cmd_buf := fun _ => 0
  told := ⟨some false, none, none⟩

/-- A file is opened, listen-only is set, and the network interface is started. -/
def listen_only_too_late : List SettingsAction :=
  [.use (.open_ .chardev fun _ => 0), .set_ctrlmode CAN_CTRLMODE_LISTENONLY,
    .use (.open_ .netdev fun _ => 0)]

/-- The network interface is in listen-only mode, and the device was told not to be silent. -/
theorem device_keeps_first_mode_too_late :
    ∃ c, Runs.run Configured.step configured listen_only_too_late = some c
      ∧ (c.d.netif_running = true ∧ listen_only c.ctrlmode = true ∧ c.told.silent = some false)
      ∧ (0 < c.open_interfaces → c.told.bus_on = some true ∧ c.told.ext_vcc = some false
          ∧ (c.d.dev_revision > 3 → c.told.silent = some (listen_only c.first_mode)))
      ∧ (c.open_interfaces = 0 → c.told.bus_on ≠ some true) := by
  obtain ⟨c, hrun, hlate⟩ :
      ∃ c, Runs.run Configured.step configured listen_only_too_late = some c
        ∧ c.d.netif_running = true ∧ listen_only c.ctrlmode = true
        ∧ c.told.silent = some false :=
    Runs.exists_run_of_any Configured.step (by decide)
  exact ⟨c, hrun, hlate, device_keeps_first_mode configured c listen_only_too_late
    ⟨⟨rfl, rfl, by decide⟩, rfl, rfl, rfl⟩ hrun⟩

end DualPcanUsb
