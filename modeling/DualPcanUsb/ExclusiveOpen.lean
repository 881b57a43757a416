/-
The character device is opened by one file at a time.

`open_count` is a gate that counts first and looks afterwards: every open raises it, and one
that finds it above one lowers it again and returns `-EMFILE`. Whatever the other threads do
in between, at most one open gets past, and only that one empties the ring. The network
interface and the receiver do not touch the count.
-/
import DualPcanUsb.BusPower
import DualPcanUsb.Lib.CountedGate

set_option autoImplicit false

namespace DualPcanUsb

open CountedGate (Role)

/-! ## The device as a gate -/

/-- A file that holds the device: open, or being released and still counted. -/
def Phase.holds : Phase → Bool
  | .opened | .dec_open_count => true
  | _ => false

/-- An open between its increment and the matching decrement, or its success. -/
def Phase.opening : Phase → Bool
  | .undo_too_many | .inc_stage | .set_silent | .set_ext_vcc | .set_bus_on | .undo_stage _
  | .undo_open_count _ => true
  | _ => false

def Phase.gate_role : Phase → Role
  | .undo_too_many => .rejected
  | .inc_stage | .set_silent | .set_ext_vcc | .set_bus_on | .undo_stage _ | .undo_open_count _
  | .opened | .dec_open_count => .inside
  | .inc_open_count | .open_candev | .close_candev _ | .dec_stage | .set_bus_off
  | .init_sja1000 | .finished _ => .out

def Proc.gate_role (proc : Proc) : Role :=
  match proc.iface with
  | .chardev => proc.phase.gate_role
  | .netdev => .out

/-- A file of the character device that holds it. -/
def Proc.holds (proc : Proc) : Bool :=
  proc.iface = .chardev ∧ proc.phase.holds

def Proc.opening (proc : Proc) : Bool :=
  proc.iface = .chardev ∧ proc.phase.opening

def Device.gate (d : Device) : CountedGate.State where
  count := d.open_count
  users := d.procs.map Proc.gate_role

def Device.char_dev (d : Device) : Chardev := d.rx.fwd.char_dev

/-- The counters of the ring: where to write next, how many are unread, how many came. -/
def Chardev.counters (dev : Chardev) : Int × Int × ℕ :=
  (dev.rx_write_idx, dev.rx_unread_cnt, dev.rx_packets)

/-- Past the guard: in the start sequence or failing there with an error, open, or released
after that. -/
def Phase.PastGuard : Phase → Prop
  | .inc_open_count | .undo_too_many | .open_candev | .close_candev _ => False
  | .undo_stage err | .undo_open_count err => err ≠ 0
  | _ => True

/-! ## What an operation does to the count and to the ring -/

/-- A step that has nothing to do with either. -/
structure Aside (d : Device) (phase phase' : Phase) (d' : Device) : Prop where
  role_eq : phase'.gate_role = phase.gate_role
  past : phase.PastGuard → phase'.PastGuard
  char_dev_eq : d'.char_dev = d.char_dev

/-- The effect of one operation of the character device. -/
inductive Counted (d : Device) (phase phase' : Phase) (d' : Device) : Prop
  | turned_away (hphase : phase = .inc_open_count) (hfull : d.open_count + 1 > 1)
      (hphase' : phase' = .undo_too_many) (hcount : d'.open_count = d.open_count + 1)
      (hring : d'.char_dev.counters = d.char_dev.counters)
      (hmsgs : d'.char_dev.rx_msgs = d.char_dev.rx_msgs)
  | let_in (hphase : phase = .inc_open_count) (hfree : ¬ d.open_count + 1 > 1)
      (hphase' : phase' = .inc_stage) (hcount : d'.open_count = d.open_count + 1)
      (hring : d'.char_dev.counters = (0, 0, 0))
      (hmsgs : d'.char_dev.rx_msgs = d.char_dev.rx_msgs)
  | leave (hcounted : phase.gate_role ≠ .out) (hout : phase'.gate_role = .out)
      (hpast : phase.PastGuard → phase'.PastGuard) (hcount : d'.open_count = d.open_count - 1)
      (hring : d'.char_dev.counters = d.char_dev.counters)
      (hmsgs : d'.char_dev.rx_msgs = d.char_dev.rx_msgs)
  | aside (haside : Aside d phase phase' d')

theorem pcan_cmd_set_bus_char_dev (sent : Int) (is_on : Bool) (d : Device) :
    (pcan_cmd_set_bus sent is_on d).2.char_dev = d.char_dev :=
  @pcan_cmd_set_bus_keeps _ Device.char_dev (fun _ _ => rfl) sent is_on d

/-- The commands of an open do not count files. -/
theorem start_commands_aside {sent : Int} {done : Device → Device} {d d' : Device}
    {phase phase' : Phase} (hdone : ∀ d, (done d).char_dev = d.char_dev)
    (h : start_commands sent done d phase = some (phase', d')) : Aside d phase phase' d' := by
  unfold start_commands at h
  split at h
  · cases h
    by_cases herr : pcan_oneway_command sent d ≠ 0
    · rw [if_pos herr]
      exact ⟨rfl, fun _ => herr, rfl⟩
    · rw [if_neg herr]
      exact ⟨rfl, fun _ => trivial, rfl⟩
  · cases h
    by_cases herr : pcan_oneway_command sent d ≠ 0
    · rw [if_pos herr]
      exact ⟨rfl, fun _ => herr, rfl⟩
    · rw [if_neg herr]
      exact ⟨rfl, fun _ => trivial, rfl⟩
  · have hbus := pcan_cmd_set_bus_char_dev sent true d
    dsimp only at h
    split at h
    · rename_i herr
      cases h
      exact ⟨rfl, fun _ => herr, hbus⟩
    · cases h
      exact ⟨rfl, fun _ => trivial, (hdone _).trans hbus⟩
  · cases h

/-- Switching the bus off does not count files. -/
theorem usbdrv_reset_bus_off_aside {sent : Int} {ret : Int → Int} {d d' : Device}
    {phase phase' : Phase} (h : usbdrv_reset_bus_off sent ret d phase = some (phase', d')) :
    Aside d phase phase' d' := by
  unfold usbdrv_reset_bus_off at h
  split at h
  · have hbus := pcan_cmd_set_bus_char_dev sent false d
    dsimp only at h
    split at h <;> cases h <;> exact ⟨rfl, fun _ => trivial, hbus⟩
  · cases h
    exact ⟨rfl, fun _ => trivial, rfl⟩
  · cases h

/-- An operation on the character device counts itself in at its start and out at its end. -/
theorem operate_counted {sent : Int} {d d' : Device} {phase phase' : Phase}
    (h : d.operate .chardev sent phase = some (phase', d')) : Counted d phase phase' d' := by
  rcases (Option.orElse_eq_some _ _ _).mp h with hopen | ⟨-, hrelease⟩
  · unfold pcan_chardev_open at hopen
    split at hopen
    · dsimp only at hopen
      split at hopen
      · rename_i hfull
        cases hopen
        exact .turned_away rfl hfull rfl rfl rfl rfl
      · rename_i hfree
        cases hopen
        exact .let_in rfl hfree rfl rfl rfl rfl
    · cases hopen
      exact .leave (by decide) rfl (fun hpast => hpast.elim) rfl rfl rfl
    · dsimp only at hopen
      split at hopen
      · cases hopen
        exact .aside ⟨rfl, fun _ => trivial, rfl⟩
      · cases hopen
        refine .aside ⟨?_, fun _ => ?_, rfl⟩ <;> unfold Device.first_command <;> split <;> trivial
    · cases hopen
      exact .aside ⟨rfl, id, rfl⟩
    · cases hopen
      exact .leave (by simp [Phase.gate_role]) rfl (fun _ => trivial) rfl rfl rfl
    · exact .aside (start_commands_aside (fun _ => rfl) hopen)
  · unfold pcan_chardev_release at hrelease
    split at hrelease
    · cases hrelease
      exact .leave (by decide) rfl (fun _ => trivial) rfl rfl rfl
    · cases hrelease
      refine .aside ⟨?_, fun _ => ?_, rfl⟩ <;> split <;> trivial
    · exact .aside (usbdrv_reset_bus_off_aside hrelease)

/-- The network interface's operations do not come near the character device. -/
theorem operate_netdev_char_dev {sent : Int} {d d' : Device} {phase phase' : Phase}
    (h : d.operate .netdev sent phase = some (phase', d')) : d'.char_dev = d.char_dev := by
  rcases (Option.orElse_eq_some _ _ _).mp h with hopen | ⟨-, hstop⟩
  · unfold pcan_net_open at hopen
    split at hopen
    · split at hopen <;> cases hopen <;> rfl
    · cases hopen
      rfl
    unfold start_can_interface at hopen
    split at hopen
    · dsimp only at hopen
      split at hopen <;> cases hopen <;> rfl
    · dsimp only at hopen
      split at hopen <;> cases hopen <;> rfl
    · have hdone : ∀ d : Device, (d.set_can_state .ERROR_ACTIVE).char_dev = d.char_dev :=
        fun _ => rfl
      exact (start_commands_aside hdone hopen).char_dev_eq
  · unfold pcan_net_stop at hstop
    split at hstop
    · cases hstop
      rfl
    · exact (usbdrv_reset_bus_off_aside hstop).char_dev_eq

/-! ## Each step is a step of the gate, or none -/

/-- Seen as a gate, a phase is the role of its user. -/
theorem gate_set_phase {d d' : Device} (i : ℕ) (iface : Iface) (phase : Phase)
    (hprocs : d'.procs = d.procs) :
    (d'.set_phase i iface phase).gate
      = ⟨d'.open_count, d.gate.users.set i (Proc.gate_role ⟨iface, phase⟩)⟩ := by
  unfold Device.gate Device.set_phase
  dsimp only
  rw [hprocs, List.map_set]
  rfl

/-- Each operation is a user of the gate. -/
theorem gate_user {d : Device} {i : ℕ} {proc : Proc} (h : d.procs[i]? = some proc) :
    d.gate.users[i]? = some proc.gate_role := by
  unfold Device.gate
  rw [List.getElem?_map, h]
  rfl

/-- Writing a phase with the same role back changes nothing about the gate. -/
theorem gate_same {d d' : Device} {i : ℕ} {iface : Iface} {phase phase' : Phase}
    (hproc : d.procs[i]? = some ⟨iface, phase⟩) (hprocs : d'.procs = d.procs)
    (hrole : Proc.gate_role ⟨iface, phase'⟩ = Proc.gate_role ⟨iface, phase⟩)
    (hcount : d'.open_count = d.open_count) : (d'.set_phase i iface phase').gate = d.gate := by
  rw [gate_set_phase i iface phase' hprocs, hrole, Roles.set_self (gate_user hproc), hcount]
  rfl

/-- A completion, to the ring: it leaves the counters, or puts a message in. -/
theorem completion_counters_frame :
    PacketFrame fun s s' => s'.fwd.char_dev.counters = s.fwd.char_dev.counters
      ∨ s.fwd.char_dev.rx_packets < s'.fwd.char_dev.rx_packets where
  refl _ := .inl rfl
  trans {s s' s''} h h' := by
    rcases h with h | h <;> rcases h' with h' | h'
    · exact .inl (h'.trans h)
    · rw [Chardev.counters, Chardev.counters, Prod.mk.injEq, Prod.mk.injEq] at h
      exact .inr (h.2.2 ▸ h')
    · rw [Chardev.counters, Chardev.counters, Prod.mk.injEq, Prod.mk.injEq] at h'
      exact .inr (h'.2.2 ▸ h)
    · exact .inr (h.trans h')
  log _ _ := .inl rfl
  alloc _ := .inl rfl
  clock _ _ _ := .inl rfl
  can_state _ _ _ := .inl rfl
  account _ new_state _ := by cases new_state <;> exact .inl rfl
  stats _ _ := .inl rfl
  time_ref _ _ := .inl rfl
  set_slot _ _ _ := .inl rfl
  commit s sample := by
    dsimp only
    unfold decode_data_commit
    cases sample.chardev_msg with
    | none => exact .inl rfl
    | some idx => exact .inr (Nat.lt_succ_self _)

/-- An open that gets past the guard, with the ring emptied. -/
def LetIn (d : Device) (action : DeviceAction) (d' : Device) : Prop :=
  ∃ i sent, action = .advance i sent ∧ d.procs[i]? = some ⟨.chardev, .inc_open_count⟩
    ∧ d'.procs[i]? = some ⟨.chardev, .inc_stage⟩ ∧ d'.char_dev.counters = (0, 0, 0)

/-- A step of an open or a release of the character device: it arrives, leaves, or stays
where it is. -/
theorem advance_simulated {d d₁ : Device} {i : ℕ} {sent : Int} {phase phase' : Phase}
    (hproc : d.procs[i]? = some ⟨.chardev, phase⟩)
    (hop : d.operate .chardev sent phase = some (phase', d₁)) :
    ((d₁.set_phase i .chardev phase').gate = d.gate
        ∨ ∃ event, d.gate.step 1 event = some (d₁.set_phase i .chardev phase').gate)
      ∧ (d₁.char_dev.counters = d.char_dev.counters
        ∨ LetIn d (.advance i sent) (d₁.set_phase i .chardev phase')) := by
  have hprocs : d₁.procs = d.procs := (operate_spec hop).1.procs_eq
  have huser := gate_user hproc
  rw [gate_set_phase i .chardev phase' hprocs]
  cases operate_counted hop with
  | turned_away hphase hfull hphase' hcount hring =>
    subst hphase hphase'
    refine ⟨.inr ⟨.arrive i, ?_⟩, .inl hring⟩
    rw [hcount]
    exact CountedGate.step_turned_away huser hfull
  | let_in hphase hfree hphase' hcount hring =>
    subst hphase hphase'
    refine ⟨.inr ⟨.arrive i, ?_⟩, .inr ⟨i, sent, rfl, hproc, ?_, hring⟩⟩
    · rw [hcount]
      exact CountedGate.step_let_in huser hfree
    · have hi : i < d₁.procs.length := by
        rw [hprocs]
        exact (List.getElem?_eq_some_iff.mp hproc).1
      exact List.getElem?_set_self hi
  | leave hcounted hout hpast hcount hring =>
    refine ⟨.inr ⟨.leave i, ?_⟩, .inl hring⟩
    have hrole : d.gate.users[i]? = some .rejected ∨ d.gate.users[i]? = some .inside := by
      rw [huser]
      change some phase.gate_role = _ ∨ some phase.gate_role = _
      cases hrole : phase.gate_role with
      | out => exact absurd hrole hcounted
      | rejected => exact .inl rfl
      | inside => exact .inr rfl
    rw [hcount, show Proc.gate_role ⟨.chardev, phase'⟩ = .out from hout]
    exact CountedGate.step_leave hrole
  | aside haside =>
    have hcount := congrArg Chardev.open_count haside.char_dev_eq
    refine ⟨.inl ?_, .inl (congrArg Chardev.counters haside.char_dev_eq)⟩
    rw [← gate_set_phase i .chardev phase' hprocs]
    exact gate_same hproc hprocs haside.role_eq hcount

/-- A step is one of the gate or leaves it alone, and the counters of the ring stay, or
count one more message, unless the step lets an open in. -/
theorem gate_simulated {d d' : Device} {action : DeviceAction} (h : d.step action = some d') :
    (d'.gate = d.gate ∨ ∃ event, d.gate.step 1 event = some d'.gate)
      ∧ (d'.char_dev.counters = d.char_dev.counters
        ∨ d.char_dev.rx_packets < d'.char_dev.rx_packets ∨ LetIn d action d') := by
  cases step_cases h with
  | open_chardev =>
    refine ⟨.inr ⟨.enter, ?_⟩, .inl rfl⟩
    simp [CountedGate.State.step, Device.gate, Device.enter, Proc.gate_role, Phase.gate_role]
    rfl
  | open_netdev hclosed hpresent =>
    refine ⟨.inr ⟨.enter, ?_⟩, .inl rfl⟩
    simp [CountedGate.State.step, Device.gate, Device.enter, Device.set_netif_running,
      Device.set_fwd, Proc.gate_role]
    rfl
  | close_chardev i hproc => exact ⟨.inl (gate_same hproc rfl rfl rfl), .inl rfl⟩
  | close_netdev i hproc =>
    have hstopped : (d.set_netif_running false).procs = d.procs := rfl
    exact ⟨.inl (gate_same hproc hstopped rfl rfl), .inl rfl⟩
  | complete env urb submit_err hsubmitted =>
    have hread := usb_read_bulk_callback_completed env urb submit_err
      { d with rx_urbs := d.rx_urbs - 1 }
    refine ⟨.inl ?_, ?_⟩
    · unfold Device.gate Device.open_count
      rw [hread.procs_eq, (hread.rx undisturbed_frame).open_count_eq]
    · rcases hread.rx completion_counters_frame with hsame | hmore
      · exact .inl hsame
      · exact .inr (.inl hmore)
  | advance i sent iface phase phase' d₁ hproc hop =>
    cases iface with
    | netdev =>
      have hdev := operate_netdev_char_dev hop
      have hprocs : d₁.procs = d.procs := (operate_spec hop).1.procs_eq
      refine ⟨.inl (gate_same hproc hprocs rfl ?_), .inl (congrArg Chardev.counters hdev)⟩
      exact congrArg Chardev.open_count hdev
    | chardev =>
      obtain ⟨hgate, hcounters⟩ := advance_simulated hproc hop
      exact ⟨hgate, hcounters.imp_right .inr⟩

/-! ## What the roles say about the files -/

/-- Those with a file and those opening are inside or on their way out. -/
theorem holds_add_opening (procs : List Proc) :
    procs.countP Proc.holds + procs.countP Proc.opening
      = (procs.map Proc.gate_role).count .inside + (procs.map Proc.gate_role).count .rejected := by
  induction procs with
  | nil => rfl
  | cons proc procs ih =>
    -- one process holds or opens exactly if it is counted
    have hone : (if proc.holds then 1 else 0) + (if proc.opening then 1 else 0)
        = (if proc.gate_role = .inside then 1 else 0)
          + (if proc.gate_role = .rejected then 1 else 0) := by
      obtain ⟨iface, phase⟩ := proc
      cases iface <;> cases phase <;> rfl
    rw [List.countP_cons, List.countP_cons, List.map_cons, List.count_cons, List.count_cons]
    simp only [beq_iff_eq]
    omega

/-- Whoever has the file open is inside. -/
theorem holds_le_inside (procs : List Proc) :
    procs.countP Proc.holds ≤ (procs.map Proc.gate_role).count .inside := by
  rw [List.count, List.countP_map]
  refine List.countP_mono_left fun proc _ hholds => ?_
  obtain ⟨iface, phase⟩ := proc
  cases iface <;> cases phase <;> first | rfl | cases hholds

/-! ## Past the guard, always past the guard -/

/-- What another process does leaves the phase of this one. -/
theorem set_phase_other {d : Device} {i j : ℕ} (iface : Iface) (phase : Phase) (hne : j ≠ i) :
    (d.set_phase j iface phase).procs[i]? = d.procs[i]? :=
  List.getElem?_set_ne hne

/-- A phase set is read back. -/
theorem set_phase_own {d : Device} {i : ℕ} {proc : Proc} (iface : Iface) (phase : Phase)
    (hproc : d.procs[i]? = some proc) :
    (d.set_phase i iface phase).procs[i]? = some ⟨iface, phase⟩ :=
  List.getElem?_set_self (List.getElem?_eq_some_iff.mp hproc).1

def Device.PastGuard (i : ℕ) (d : Device) : Prop :=
  ∃ phase, d.procs[i]? = some ⟨.chardev, phase⟩ ∧ phase.PastGuard

/-- Past the guard, an open does not come back to it. -/
theorem operate_past_guard {sent : Int} {d d' : Device} {phase phase' : Phase}
    (h : d.operate .chardev sent phase = some (phase', d')) (hpast : phase.PastGuard) :
    phase'.PastGuard := by
  cases operate_counted h with
  | turned_away hphase => exact (hphase ▸ hpast : Phase.PastGuard .inc_open_count).elim
  | let_in hphase => exact (hphase ▸ hpast : Phase.PastGuard .inc_open_count).elim
  | leave _ _ hkeep => exact hkeep hpast
  | aside haside => exact haside.past hpast

/-- No step of any operation takes an open back to before its guard. -/
theorem past_guard_step {i : ℕ} (d : Device) (action : DeviceAction) (d' : Device)
    (hpast : d.PastGuard i) (h : d.step action = some d') : d'.PastGuard i := by
  obtain ⟨phase, hproc, hphase⟩ := hpast
  have hi : i < d.procs.length := (List.getElem?_eq_some_iff.mp hproc).1
  cases step_cases h with
  | open_chardev => exact ⟨phase, (List.getElem?_append_left hi).trans hproc, hphase⟩
  | open_netdev => exact ⟨phase, (List.getElem?_append_left hi).trans hproc, hphase⟩
  | close_chardev j hother =>
    by_cases hij : j = i
    · subst hij
      exact ⟨.dec_open_count, set_phase_own .chardev .dec_open_count hproc, trivial⟩
    · exact ⟨phase, (set_phase_other .chardev .dec_open_count hij).trans hproc, hphase⟩
  | close_netdev j hother =>
    have hij : j ≠ i := by
      rintro rfl
      cases hproc.symm.trans hother
    exact ⟨phase, (set_phase_other .netdev .dec_stage hij).trans hproc, hphase⟩
  | complete env urb submit_err hsubmitted =>
    have hread := usb_read_bulk_callback_completed env urb submit_err
      { d with rx_urbs := d.rx_urbs - 1 }
    refine ⟨phase, ?_, hphase⟩
    rw [hread.procs_eq]
    exact hproc
  | advance j sent iface from_ to_ d₁ hother hop =>
    have hprocs : d₁.procs = d.procs := (operate_spec hop).1.procs_eq
    by_cases hij : j = i
    · subst hij
      cases hproc.symm.trans hother
      have hproc' : d₁.procs[j]? = some ⟨.chardev, phase⟩ := hprocs ▸ hproc
      exact ⟨to_, set_phase_own .chardev to_ hproc', operate_past_guard hop hphase⟩
    · refine ⟨phase, (set_phase_other iface to_ hij).trans ?_, hphase⟩
      rw [hprocs]
      exact hproc

/-! ## Runs -/

/-- At most one file holds the device, and the count is those that hold it and those still
opening. -/
structure Device.Exclusive (d : Device) : Prop where
  holders_le : d.procs.countP Proc.holds ≤ 1
  count_eq : d.open_count = d.procs.countP Proc.holds + d.procs.countP Proc.opening
  count_nonneg : 0 ≤ d.open_count

/-- Each step is one of the gate, or none. -/
theorem gate_inv_step (d : Device) (action : DeviceAction) (d' : Device)
    (hinv : CountedGate.Inv 1 d.gate) (h : d.step action = some d') :
    CountedGate.Inv 1 d'.gate := by
  rcases (gate_simulated h).1 with hsame | ⟨event, hevent⟩
  · rw [hsame]
    exact hinv
  · exact CountedGate.inv_step d.gate event d'.gate hinv hevent

/-- A gate for one lets one in. -/
theorem exclusive_of_inv {d : Device} (hinv : CountedGate.Inv 1 d.gate) : d.Exclusive := by
  have hcount : d.open_count = _ := hinv.count_eq
  have hsum := holds_add_opening d.procs
  have hcount' : d.open_count
      = d.procs.countP Proc.holds + d.procs.countP Proc.opening := by
    rw [hcount]
    exact_mod_cast hsum.symm
  refine ⟨(holds_le_inside d.procs).trans hinv.inside_le, hcount', ?_⟩
  rw [hcount']
  positivity

/-- However opens, releases and completions interleave, the character device has one holder
at most and is counted right, and its ring is reset by an open that is past the guard for
good: a step that is not one leaves the counters of the ring, or counts a message more. -/
theorem chardev_open_exclusive (d₀ d : Device) (actions : List DeviceAction)
    (hprocs : d₀.procs = []) (hcount : d₀.open_count = 0)
    (hrun : Runs.run Device.step d₀ actions = some d) :
    d.Exclusive ∧ ∀ action d', d.step action = some d' →
      d'.char_dev.counters = d.char_dev.counters
        ∨ d.char_dev.rx_packets < d'.char_dev.rx_packets
        ∨ ∃ i sent, action = .advance i sent
          ∧ d.procs[i]? = some ⟨.chardev, .inc_open_count⟩ ∧ d'.char_dev.counters = (0, 0, 0)
          ∧ ∀ later d'', Runs.run Device.step d' later = some d'' → d''.PastGuard i := by
  have hinit : CountedGate.Inv 1 d₀.gate := by
    have hgate : d₀.gate = ⟨0, []⟩ := by
      unfold Device.gate
      rw [hcount, hprocs]
      rfl
    rw [hgate]
    exact ⟨rfl, Nat.zero_le 1⟩
  refine ⟨exclusive_of_inv (Runs.run_invariant Device.step gate_inv_step hinit hrun), ?_⟩
  intro action d' hstep
  rcases (gate_simulated hstep).2 with hsame | hmore | ⟨i, sent, haction, hproc, hin, hreset⟩
  · exact .inl hsame
  · exact .inr (.inl hmore)
  · refine .inr (.inr ⟨i, sent, haction, hproc, hreset, fun later d'' hlater => ?_⟩)
    exact Runs.run_invariant Device.step past_guard_step ⟨.inc_stage, hin, trivial⟩ hlater

/-- Two files open at once; the second is turned away while the first still starts. -/
def second_file : List DeviceAction :=
  [.open_ .chardev, .open_ .chardev, .advance 0 0, .advance 1 0, .advance 0 0, .advance 1 0]

theorem chardev_open_exclusive_second_file :
    ∃ d, Runs.run Device.step Device.idle second_file = some d ∧ d.Exclusive
      ∧ d.procs = [⟨.chardev, .set_silent⟩, ⟨.chardev, .finished (-EMFILE)⟩] := by
  obtain ⟨d, hrun, hprocs⟩ : ∃ d, Runs.run Device.step Device.idle second_file = some d
      ∧ d.procs = [⟨.chardev, .set_silent⟩, ⟨.chardev, .finished (-EMFILE)⟩] :=
    Runs.exists_run_of_any Device.step (by decide)
  exact ⟨d, hrun, (chardev_open_exclusive Device.idle d second_file rfl rfl hrun).1, hprocs⟩

end DualPcanUsb
