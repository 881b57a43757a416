/-
Whether a file operation reaches a forwarder that has been freed.

A look-up in the group never finds one: the item is removed when the device is
unplugged, long before the memory goes. The pointer in `private_data` may: nothing
but the file's own next operation takes it away, and the destroy work does not wait
for that. So file operations are safe exactly as long as the destroy work never frees
a forwarder an open file still has in `private_data`.
-/
import DualPcanUsb.Lifecycle
import DualPcanUsb.Lib.Runs

set_option autoImplicit false

namespace DualPcanUsb

section

variable {G : Type} (grp : ChrdevGroup G)

/-- The driver behind `usbdrv_register`, with an empty group. -/
def DriverState.loaded (group : G) : DriverState G where
  group := group
  next_forwarder := 0
  forwarders := fun _ => ⟨(Device.plugged 0).set_stage PCAN_USB_STAGE_DISCONNECTED, 0,
    ⟨0, false, false, false⟩⟩
  files := []
  faults := []

/-- No file operation has used freed memory, and none on an open file is about to. -/
def DriverState.Safe (s : DriverState G) : Prop :=
  s.faults = [] ∧ ∀ file ∈ s.files, file.is_open = true →
    ∀ f, get_usb_forwarder_from_file grp s file = some f → (s.life f).allocated = true

/-- The operation leads to a safe state. -/
def EndsSafe (s : DriverState G) (op : Op) : Prop :=
  ∀ s', s.step grp op = some s' → s'.Safe grp

/-- This run of the destroy work frees the forwarder. -/
def DriverState.frees (s : DriverState G) (f : ℕ) : Prop :=
  (s.life f).destroy_work = true ∧ (s.forwarders f).pending_ops ≤ 0

/-- The destroy work frees a forwarder only when no open file has it cached. -/
def FreesUncached (s : DriverState G) : Op → Prop
  | .destroy f => s.frees f → ∀ file ∈ s.files, file.is_open = true → file.private_data ≠ some f
  | _ => True

/-! ## The invariant -/

structure LifeInv (s : DriverState G) : Prop where
  faults_nil : s.faults = []
  cached : ∀ file ∈ s.files, file.is_open = true → ∀ f, file.private_data = some f →
    (s.life f).allocated = true
  found : ∀ minor f, grp.find_item_privdata s.group minor = some f →
    (s.life f).registered = true ∧ (s.life f).minor = minor
  registered_allocated : ∀ f, (s.life f).registered = true → (s.life f).allocated = true
  destroy_unregistered : ∀ f, (s.life f).destroy_work = true → (s.life f).registered = false
  fresh : ∀ f, s.next_forwarder ≤ f → (s.life f).registered = false
  unplugged : ∀ f, (s.life f).registered = false → (s.dev f).stage < PCAN_USB_STAGE_ONE_STARTED

variable {grp}

/-- Just loaded, the driver has neither devices nor files. -/
theorem lifeInv_loaded {group : G} (hempty : ∀ minor, grp.find_item_privdata group minor = none) :
    LifeInv grp (DriverState.loaded group) where
  faults_nil := rfl
  cached := nofun
  found := fun minor f h => by
    rw [show (DriverState.loaded group).group = group from rfl, hempty minor] at h
    cases h
  registered_allocated := nofun
  destroy_unregistered := nofun
  fresh := fun _ _ => rfl
  unplugged := fun _ _ => by
    change PCAN_USB_STAGE_DISCONNECTED < PCAN_USB_STAGE_ONE_STARTED
    decide

/-- Neither way from an open file leads to freed memory. -/
theorem LifeInv.allocated {s : DriverState G} (hinv : LifeInv grp s) {file : File}
    (hmem : file ∈ s.files) (hopen : file.is_open = true) {f : ℕ}
    (h : get_usb_forwarder_from_file grp s file = some f) : (s.life f).allocated = true := by
  unfold get_usb_forwarder_from_file at h
  split at h
  · rename_i hdata
    cases h
    exact hinv.cached file hmem hopen f hdata
  -- found in the group, so registered, and freed only after that
  · exact hinv.registered_allocated f (hinv.found file.minor f h).1

theorem LifeInv.safe {s : DriverState G} (hinv : LifeInv grp s) : s.Safe grp :=
  ⟨hinv.faults_nil, fun _ hmem hopen _ h => hinv.allocated hmem hopen h⟩

/-! ## Operations that leave the forwarders' lives alone -/

/-- The state of a device is apart from the life of its memory. -/
@[simp] theorem life_set_dev (s : DriverState G) (f f' : ℕ) (dev : Device) :
    (s.set_dev f dev).life f' = s.life f' := by
  unfold DriverState.life DriverState.set_dev
  dsimp only
  rcases eq_or_ne f' f with rfl | hne
  · rw [Function.update_self]
  · rw [Function.update_of_ne hne]

/-- Counting a call is no matter of life either. -/
@[simp] theorem life_add_pending_ops (s : DriverState G) (f f' : ℕ) (n : Int) :
    (s.add_pending_ops f n).life f' = s.life f' := by
  unfold DriverState.life DriverState.add_pending_ops
  dsimp only
  rcases eq_or_ne f' f with rfl | hne
  · rw [Function.update_self]
  · rw [Function.update_of_ne hne]

/-- A device set is read back, and the others are as before. -/
theorem dev_set_dev (s : DriverState G) (f f' : ℕ) (dev : Device) :
    (s.set_dev f dev).dev f' = if f' = f then dev else s.dev f' := by
  unfold DriverState.dev DriverState.set_dev
  dsimp only
  rcases eq_or_ne f' f with rfl | hne
  · rw [Function.update_self, if_pos rfl]
  · rw [Function.update_of_ne hne, if_neg hne]

/-- The count of calls is not part of the device. -/
@[simp] theorem dev_add_pending_ops (s : DriverState G) (f f' : ℕ) (n : Int) :
    (s.add_pending_ops f n).dev f' = s.dev f' := by
  unfold DriverState.dev DriverState.add_pending_ops
  dsimp only
  rcases eq_or_ne f' f with rfl | hne
  · rw [Function.update_self]
  · rw [Function.update_of_ne hne]

/-- The life of the memory is not part of the device. -/
@[simp] theorem dev_set_life (s : DriverState G) (f f' : ℕ) (life : Life) :
    (s.set_life f life).dev f' = s.dev f' := by
  unfold DriverState.dev DriverState.set_life
  dsimp only
  rcases eq_or_ne f' f with rfl | hne
  · rw [Function.update_self]
  · rw [Function.update_of_ne hne]

/-- A life set is read back, and the others are as before. -/
theorem life_set_life (s : DriverState G) (f f' : ℕ) (life : Life) :
    (s.set_life f life).life f' = if f' = f then life else s.life f' := by
  unfold DriverState.life DriverState.set_life
  dsimp only
  rcases eq_or_ne f' f with rfl | hne
  · rw [Function.update_self, if_pos rfl]
  · rw [Function.update_of_ne hne, if_neg hne]

theorem deref_of_allocated {s : DriverState G} {f : ℕ} (h : (s.life f).allocated = true) :
    s.deref f = s := by
  rw [DriverState.deref, if_pos h]

variable (grp) in
/-- An operation that changes devices and files only, starts no unplugged device, and
caches no pointer that was not cached or found before. -/
structure Quiet (s s' : DriverState G) : Prop where
  group_eq : s'.group = s.group
  next_eq : s'.next_forwarder = s.next_forwarder
  faults_eq : s'.faults = s.faults
  life_eq : ∀ f, s'.life f = s.life f
  unplugged : ∀ f, (s.life f).registered = false →
    (s.dev f).stage < PCAN_USB_STAGE_ONE_STARTED → (s'.dev f).stage < PCAN_USB_STAGE_ONE_STARTED
  files : ∀ file ∈ s'.files, file.is_open = true → ∀ f, file.private_data = some f →
    (∃ old ∈ s.files, old.is_open = true ∧ old.private_data = some f)
      ∨ ∃ minor, grp.find_item_privdata s.group minor = some f

theorem Quiet.refl (s : DriverState G) : Quiet grp s s :=
  ⟨rfl, rfl, rfl, fun _ => rfl, fun _ _ h => h, fun file hmem hopen _ hdata =>
    .inl ⟨file, hmem, hopen, hdata⟩⟩

/-- Two quiet operations in a row are quiet. -/
theorem Quiet.trans {s s' s'' : DriverState G} (h : Quiet grp s s') (h' : Quiet grp s' s'') :
    Quiet grp s s'' := by
  refine ⟨h'.group_eq.trans h.group_eq, h'.next_eq.trans h.next_eq,
    h'.faults_eq.trans h.faults_eq, fun f => (h'.life_eq f).trans (h.life_eq f), ?_, ?_⟩
  · intro f hunreg hlow
    exact h'.unplugged f (by rw [h.life_eq]; exact hunreg) (h.unplugged f hunreg hlow)
  · intro file hmem hopen f hdata
    -- what the second operation found was to be found before the first
    rcases h'.files file hmem hopen f hdata with ⟨old, hold, holdopen, holddata⟩ | hfound
    · exact h.files old hold holdopen f holddata
    · rw [h.group_eq] at hfound
      exact .inr hfound

/-- A change of a device is quiet if it does not start one that is unplugged. -/
theorem quiet_set_dev (s : DriverState G) (f : ℕ) (dev : Device)
    (h : (s.life f).registered = true
      ∨ ((s.dev f).stage < PCAN_USB_STAGE_ONE_STARTED → dev.stage < PCAN_USB_STAGE_ONE_STARTED)) :
    Quiet grp s (s.set_dev f dev) := by
  refine ⟨rfl, rfl, rfl, fun _ => life_set_dev .., ?_, fun file hmem hopen _ hdata =>
    .inl ⟨file, hmem, hopen, hdata⟩⟩
  intro f' hunreg hlow
  rw [dev_set_dev]
  split
  · rename_i heq
    subst heq
    rcases h with hreg | hkeeps
    · rw [hreg] at hunreg; cases hunreg
    · exact hkeeps hlow
  · exact hlow

/-- Counting a call in or out is quiet. -/
theorem quiet_add_pending_ops (s : DriverState G) (f : ℕ) (n : Int) :
    Quiet grp s (s.add_pending_ops f n) :=
  ⟨rfl, rfl, rfl, fun _ => life_add_pending_ops .., fun _ _ hlow => by
    rwa [dev_add_pending_ops], fun file hmem hopen _ hdata => .inl ⟨file, hmem, hopen, hdata⟩⟩

/-- A file without a cached pointer, or a closed one, is replaced freely. -/
theorem quiet_set_file (s : DriverState G) (i : ℕ) {file : File}
    (h : file.is_open = false ∨ file.private_data = none) : Quiet grp s (s.set_file i file) := by
  refine ⟨rfl, rfl, rfl, fun _ => rfl, fun _ _ hlow => hlow, fun file' hmem hopen f hdata => ?_⟩
  rcases List.mem_or_eq_of_mem_set hmem with hold | rfl
  · exact .inl ⟨file', hold, hopen, hdata⟩
  · rcases h with hclosed | hnone
    · rw [hclosed] at hopen; cases hopen
    · rw [hnone] at hdata; cases hdata

/-- Quiet operations keep the invariant; the lemmas below find nearly all of them quiet. -/
theorem LifeInv.of_quiet {s s' : DriverState G} (hinv : LifeInv grp s) (h : Quiet grp s s') :
    LifeInv grp s' := by
  refine ⟨h.faults_eq.trans hinv.faults_nil, ?_, ?_, ?_, ?_, ?_, ?_⟩
  · intro file hmem hopen f hdata
    rw [h.life_eq]
    rcases h.files file hmem hopen f hdata with ⟨old, hold, holdopen, holddata⟩ | ⟨minor, hfound⟩
    · exact hinv.cached old hold holdopen f holddata
    · exact hinv.registered_allocated f (hinv.found minor f hfound).1
  · intro minor f hfound
    rw [h.group_eq] at hfound
    rw [h.life_eq]
    exact hinv.found minor f hfound
  · intro f hreg
    rw [h.life_eq] at hreg ⊢
    exact hinv.registered_allocated f hreg
  · intro f hdestroy
    rw [h.life_eq] at hdestroy ⊢
    exact hinv.destroy_unregistered f hdestroy
  · intro f hle
    rw [h.next_eq] at hle
    rw [h.life_eq]
    exact hinv.fresh f hle
  · intro f hunreg
    rw [h.life_eq] at hunreg
    exact h.unplugged f hunreg (hinv.unplugged f hunreg)

/-! ## File operations are such -/

/-- A file that can be operated on is one of the open ones. -/
theorem open_file_eq_some {s : DriverState G} {i : ℕ} {file : File}
    (h : s.open_file i = some file) : file ∈ s.files ∧ file.is_open = true := by
  unfold DriverState.open_file at h
  obtain ⟨hget, hopen⟩ := Option.filter_eq_some_iff.mp h
  exact ⟨List.mem_of_getElem? hget, hopen⟩

/-- An open finds its forwarder in the group, where only allocated ones are. -/
theorem quiet_open {s : DriverState G} (hinv : LifeInv grp s) (minor : ℕ) (sent : ℕ → Int) :
    Quiet grp s (pcan_chardev_open_file grp minor sent s).2 := by
  unfold pcan_chardev_open_file
  split
  · exact .refl s
  · rename_i f hfound
    -- a look-up finds registered forwarders only
    have hreg := (hinv.found minor f hfound).1
    dsimp only
    rw [deref_of_allocated (hinv.registered_allocated f hreg)]
    have hquiet : ∀ dev, Quiet grp s (s.set_dev f dev) :=
      fun dev => quiet_set_dev s f dev (.inl hreg)
    split
    · refine ⟨rfl, rfl, rfl, (hquiet _).life_eq, (hquiet _).unplugged,
        fun file hmem hopen f' hdata => ?_⟩
      rcases List.mem_append.mp hmem with hold | hnew
      · exact .inl ⟨file, hold, hopen, hdata⟩
      · -- the new file caches what the look-up found
        obtain rfl := List.mem_singleton.mp hnew
        cases hdata
        exact .inr ⟨minor, hfound⟩
    · exact hquiet _

/-- The stage check looks at a forwarder that is allocated, and may drop a pointer. -/
theorem quiet_precheck {s : DriverState G} {f : ℕ} (halloc : (s.life f).allocated = true) (i : ℕ)
    (file : File) : Quiet grp s (chrdev_op_precheck f i file s).2 := by
  unfold chrdev_op_precheck
  dsimp only
  rw [deref_of_allocated halloc]
  split
  · exact quiet_set_file s i (.inr rfl)
  · exact .refl s

/-- Taking messages out leaves the stage alone. -/
theorem receive_stage (wait : Wait)
    (section_ : Chardev → Except Int (List ChardevMsg) × Chardev) (d : Device) :
    (d.receive wait section_).2.stage = d.stage := by
  unfold Device.receive
  dsimp only
  split <;> rfl

/-- No request starts or stops anything. -/
theorem ioctl_handler_stage (wait : Wait) (cmd : Ioctl) (d : Device) :
    (ioctl_handler wait cmd d).2.stage = d.stage := by
  cases cmd with
  | read_msg => exact receive_stage ..
  | fd_recv_msgs count =>
    rw [ioctl_handler]
    split
    · rfl
    · exact receive_stage ..
  | other ret => rfl

/-- A call between its two counts is quiet if it leaves the stage alone. -/
theorem quiet_pending (s : DriverState G) (f : ℕ)
    {op : Device → Except Int (List ChardevMsg) × Device}
    (hop : ∀ d, (op d).2.stage = d.stage) : Quiet grp s (s.pending f op).2 := by
  refine ((quiet_add_pending_ops s f 1).trans (quiet_set_dev _ f _ (.inr ?_))).trans
    (quiet_add_pending_ops _ f (-1))
  rw [hop]
  exact fun h => h

/-- A read of an open file is quiet. -/
theorem quiet_read {s : DriverState G} (hinv : LifeInv grp s) {i : ℕ} {file : File}
    (hmem : file ∈ s.files) (hopen : file.is_open = true) (count : ℕ) (wait : Wait) :
    Quiet grp s (pcan_chardev_read grp i file count wait s).2 := by
  unfold pcan_chardev_read
  split
  · exact .refl s
  · rename_i f hget
    have hcheck : Quiet grp s (chrdev_op_precheck f i file s).2 :=
      quiet_precheck (hinv.allocated hmem hopen hget) i file
    split
    · exact .refl s
    dsimp only
    split
    · exact hcheck
    · exact hcheck.trans (quiet_pending _ f (receive_stage wait _))

/-- A poll of an open file is quiet. -/
theorem quiet_poll {s : DriverState G} (hinv : LifeInv grp s) {i : ℕ} {file : File}
    (hmem : file ∈ s.files) (hopen : file.is_open = true) :
    Quiet grp s (pcan_chardev_poll grp i file s).2 := by
  unfold pcan_chardev_poll
  split
  · exact .refl s
  · rename_i f hget
    have hcheck : Quiet grp s (chrdev_op_precheck f i file s).2 :=
      quiet_precheck (hinv.allocated hmem hopen hget) i file
    dsimp only
    split
    · exact hcheck
    · exact hcheck

/-- A request on an open file is quiet. -/
theorem quiet_ioctl {s : DriverState G} (hinv : LifeInv grp s) {i : ℕ} {file : File}
    (hmem : file ∈ s.files) (hopen : file.is_open = true) (cmd : Ioctl) (wait : Wait) :
    Quiet grp s (pcan_chardev_ioctl grp i file cmd wait s).2 := by
  unfold pcan_chardev_ioctl
  split
  · exact .refl s
  · rename_i f hget
    have hcheck : Quiet grp s (chrdev_op_precheck f i file s).2 :=
      quiet_precheck (hinv.allocated hmem hopen hget) i file
    dsimp only
    split
    · exact hcheck
    · exact hcheck.trans (quiet_pending _ f (ioctl_handler_stage wait cmd))

/-- A release stops its device at most, and closes the file. -/
theorem quiet_release {s : DriverState G} (hinv : LifeInv grp s) (i : ℕ) (file : File)
    (sent : ℕ → Int) : Quiet grp s (pcan_chardev_release_file grp i file sent s) := by
  unfold pcan_chardev_release_file
  split
  · exact quiet_set_file s i (.inl rfl)
  · rename_i f hfound
    have hreg := (hinv.found file.minor f hfound).1
    dsimp only
    rw [deref_of_allocated (hinv.registered_allocated f hreg)]
    exact (quiet_set_dev s f _ (.inl hreg)).trans (quiet_set_file _ i (.inl rfl))

/-- What takes a stale pointer away: behind the unplugging, the next poll or request on
the file, or a read that is long enough, fails and drops the pointer. A read that is too
short fails without looking at it. -/
theorem io_drops_unplugged {s : DriverState G} (hinv : LifeInv grp s) {i f : ℕ} {file : File}
    (hfile : s.open_file i = some file) (hdata : file.private_data = some f)
    (hunreg : (s.life f).registered = false) :
    let dropped := s.set_file i { file with private_data := none }
    pcan_chardev_poll grp i file s = (POLLERR, dropped)
      ∧ (∀ cmd wait, pcan_chardev_ioctl grp i file cmd wait s = (.error (-ENODEV), dropped))
      ∧ ∀ count wait, pcan_chardev_read grp i file count wait s
          = if (count : Int) > PCAN_CHRDEV_MAX_BYTES_PER_READ then (.error (-ENODEV), dropped)
            else (.error (-EINVAL), s) := by
  obtain ⟨hmem, hopen⟩ := open_file_eq_some hfile
  have hget : get_usb_forwarder_from_file grp s file = some f := by
    rw [get_usb_forwarder_from_file, hdata]
  -- an unplugged device stays below the stage the check asks for
  have hcheck : chrdev_op_precheck f i file s
      = (false, s.set_file i { file with private_data := none }) := by
    rw [chrdev_op_precheck, deref_of_allocated (hinv.cached file hmem hopen f hdata)]
    exact if_pos (hinv.unplugged f hunreg)
  refine ⟨?_, fun cmd wait => ?_, fun count wait => ?_⟩
  · rw [pcan_chardev_poll, hget]
    dsimp only
    rw [hcheck]
    rfl
  · rw [pcan_chardev_ioctl, hget]
    dsimp only
    rw [hcheck]
    rfl
  · rw [pcan_chardev_read, hget]
    dsimp only
    by_cases hlong : (count : Int) > PCAN_CHRDEV_MAX_BYTES_PER_READ
    · rw [if_neg (not_not_intro hlong), if_pos hlong, hcheck]
      rfl
    · rw [if_pos hlong, if_neg hlong]

/-! ## Plugging, unplugging and freeing -/

/-- One forwarder enters a new part of its life: what has to be right about it. -/
theorem LifeInv.of_life {s s' : DriverState G} {f : ℕ} {life : Life} (hinv : LifeInv grp s)
    (hlife : ∀ f', s'.life f' = if f' = f then life else s.life f')
    (hdev : ∀ f', f' ≠ f → s'.dev f' = s.dev f') (hfaults : s'.faults = s.faults)
    (hfiles : s'.files = s.files) (hnext : s.next_forwarder ≤ s'.next_forwarder)
    (hcached : life.allocated = true
      ∨ ∀ file ∈ s.files, file.is_open = true → file.private_data ≠ some f)
    (hfound : ∀ minor f', grp.find_item_privdata s'.group minor = some f' →
      f' = f ∧ life.registered = true ∧ life.minor = minor
        ∨ f' ≠ f ∧ grp.find_item_privdata s.group minor = some f')
    (hregistered : life.registered = true →
      life.allocated = true ∧ life.destroy_work = false ∧ f < s'.next_forwarder)
    (hunplugged : life.registered = false → (s'.dev f).stage < PCAN_USB_STAGE_ONE_STARTED) :
    LifeInv grp s' := by
  refine ⟨hfaults.trans hinv.faults_nil, ?_, ?_, ?_, ?_, ?_, ?_⟩
  · intro file hmem hopen f' hdata
    rw [hfiles] at hmem
    rw [hlife]
    split
    · rename_i heq
      subst heq
      -- either its memory is still there, or nobody has it cached
      exact hcached.resolve_right fun huncached => huncached file hmem hopen hdata
    · exact hinv.cached file hmem hopen f' hdata
  · intro minor f' hlookup
    rw [hlife]
    rcases hfound minor f' hlookup with ⟨rfl, hreg, hminor⟩ | ⟨hne, hold⟩
    · rw [if_pos rfl]
      exact ⟨hreg, hminor⟩
    · rw [if_neg hne]
      exact hinv.found minor f' hold
  · intro f' hreg
    rw [hlife] at hreg ⊢
    split
    · rename_i heq
      rw [if_pos heq] at hreg
      exact (hregistered hreg).1
    · rename_i hne
      rw [if_neg hne] at hreg
      exact hinv.registered_allocated f' hreg
  · intro f' hdestroy
    rw [hlife] at hdestroy ⊢
    split
    · rename_i heq
      rw [if_pos heq] at hdestroy
      rw [← Bool.not_eq_true]
      intro hreg
      rw [(hregistered hreg).2.1] at hdestroy
      cases hdestroy
    · rename_i hne
      rw [if_neg hne] at hdestroy
      exact hinv.destroy_unregistered f' hdestroy
  · intro f' hle
    rw [hlife]
    split
    · rename_i heq
      rw [← Bool.not_eq_true]
      intro hreg
      have := (hregistered hreg).2.2
      omega
    · exact hinv.fresh f' (by omega)
  · intro f' hunreg
    rw [hlife] at hunreg
    rcases eq_or_ne f' f with rfl | hne
    · rw [if_pos rfl] at hunreg
      exact hunplugged hunreg
    · rw [if_neg hne] at hunreg
      rw [hdev f' hne]
      exact hinv.unplugged f' hunreg

/-- Plugging in gives a new forwarder to the group, or undoes what it did. -/
theorem lifeInv_plugin (hgrp : grp.Lawful) {s : DriverState G} (hinv : LifeInv grp s)
    (dev_revision : ℕ) (early late : Int) :
    LifeInv grp (pcan_usb_plugin grp dev_revision early late s) := by
  unfold pcan_usb_plugin
  split
  · exact hinv
  split
  · exact hinv
  · rename_i minor group hmake
    -- the pointer is a new one
    have hunreg := hinv.fresh s.next_forwarder le_rfl
    split
    · -- made and removed again, the item leaves the other look-ups as they were
      refine ⟨hinv.faults_nil, hinv.cached, ?_, hinv.registered_allocated,
        hinv.destroy_unregistered, hinv.fresh, hinv.unplugged⟩
      intro m f hfound
      dsimp only at hfound
      rcases eq_or_ne m minor with rfl | hne
      · rw [hgrp.find_unmake] at hfound
        cases hfound
      · rw [hgrp.find_unmake_of_ne group hne, hgrp.find_make_of_ne hmake hne] at hfound
        exact hinv.found m f hfound
    · apply hinv.of_life
      · intro f'
        unfold DriverState.life
        dsimp only
        rw [Function.update_apply, apply_ite UsbForwarder.life]
      · intro f' hne
        exact congrArg UsbForwarder.dev (Function.update_of_ne hne ..)
      · rfl
      · rfl
      · exact Nat.le_succ _
      · exact .inl rfl
      · intro m f hfound
        rcases eq_or_ne m minor with rfl | hne
        · rw [hgrp.find_make hmake] at hfound
          cases hfound
          exact .inl ⟨rfl, rfl, rfl⟩
        · -- what was found before is registered, and the new forwarder was not
          rw [hgrp.find_make_of_ne hmake hne] at hfound
          refine .inr ⟨?_, hfound⟩
          rintro rfl
          rw [(hinv.found m _ hfound).1] at hunreg
          cases hunreg
      · intro _
        exact ⟨rfl, rfl, Nat.lt_succ_self _⟩
      · intro hfalse
        cases hfalse

/-- Stopping the network interface of an unplugged device does not raise the stage. -/
theorem unregister_candev_stage_le (sent : ℕ → Int) (d : Device) :
    (unregister_candev sent (d.set_stage PCAN_USB_STAGE_DISCONNECTED)).stage
      ≤ PCAN_USB_STAGE_DISCONNECTED := by
  unfold unregister_candev
  split
  · rw [perform_net_stop_unplugged sent _ le_rfl]
    change (0 : Int) - 1 ≤ 0
    decide
  · exact le_rfl

/-- So the stage stays below the one that the checks ask for. -/
theorem stage_unregister_candev (sent : ℕ → Int) (d : Device) :
    (unregister_candev sent (d.set_stage PCAN_USB_STAGE_DISCONNECTED)).stage
      < PCAN_USB_STAGE_ONE_STARTED :=
  (unregister_candev_stage_le sent d).trans_lt (by decide)

/-- Behind the unplugging the forwarder is out of the group, its stage down and its memory still
there. -/
theorem lifeInv_plugout (hgrp : grp.Lawful) {s : DriverState G} (hinv : LifeInv grp s) {f : ℕ}
    (sent : ℕ → Int) (hreg : (s.life f).registered = true) :
    LifeInv grp (pcan_usb_plugout grp f sent s) := by
  unfold pcan_usb_plugout
  apply hinv.of_life
  · intro f'
    rw [life_set_life, life_set_dev]
    rfl
  · intro f' hne
    rw [dev_set_life, dev_set_dev, if_neg hne]
    rfl
  · rfl
  · rfl
  · exact le_rfl
  · exact .inl (hinv.registered_allocated f hreg)
  · intro minor f' hfound
    change grp.find_item_privdata (grp.unmake_item s.group (s.life f).minor) minor = _ at hfound
    rcases eq_or_ne minor (s.life f).minor with rfl | hne
    · rw [hgrp.find_unmake] at hfound
      cases hfound
    · -- the forwarder was to be found under its own minor number only
      rw [hgrp.find_unmake_of_ne _ hne] at hfound
      refine .inr ⟨?_, hfound⟩
      rintro rfl
      exact hne (hinv.found minor _ hfound).2.symm
  · intro hfalse
    cases hfalse
  · intro _
    rw [dev_set_life, dev_set_dev, if_pos rfl]
    exact stage_unregister_candev sent (s.dev f)

/-- Freeing a forwarder that no open file points to leaves no pointer to freed memory. -/
theorem lifeInv_destroy {s : DriverState G} (hinv : LifeInv grp s) {f : ℕ}
    (hdestroy : (s.life f).destroy_work = true) (huncached : FreesUncached s (.destroy f)) :
    LifeInv grp (destroy_usb_forwarder f s) := by
  have hunreg := hinv.destroy_unregistered f hdestroy
  unfold destroy_usb_forwarder
  split
  -- operations are pending, so the work only lowers the stage and comes back
  · refine hinv.of_quiet (quiet_set_dev s f _ (.inr fun _ => ?_))
    change PCAN_USB_STAGE_DISCONNECTED < PCAN_USB_STAGE_ONE_STARTED
    decide
  · rename_i hpending
    apply hinv.of_life
    · exact fun f' => life_set_life s f f' _
    · exact fun f' _ => dev_set_life s f f' _
    · rfl
    · rfl
    · exact le_rfl
    · exact .inr (huncached ⟨hdestroy, by omega⟩)
    · intro minor f' hfound
      refine .inr ⟨?_, hfound⟩
      rintro rfl
      rw [(hinv.found minor _ hfound).1] at hunreg
      cases hunreg
    · intro hreg
      rw [show (s.life f).registered = true from hreg] at hunreg
      cases hunreg
    · intro _
      rw [dev_set_life]
      exact hinv.unplugged f hunreg

/-! ## Runs -/

/-- Under the condition every operation keeps every pointer that can be followed alive. -/
theorem lifeInv_step (hgrp : grp.Lawful) (s : DriverState G) (op : Op) (s' : DriverState G)
    (hinv : LifeInv grp s) (huncached : FreesUncached s op) (h : s.step grp op = some s') :
    LifeInv grp s' := by
  cases op with
  | plugin dev_revision early late =>
    cases h
    exact lifeInv_plugin hgrp hinv dev_revision early late
  | open_ minor sent =>
    cases h
    exact hinv.of_quiet (quiet_open hinv minor sent)
  | read i count wait =>
    obtain ⟨file, hfile, rfl⟩ := Option.map_eq_some_iff.mp h
    obtain ⟨hmem, hopen⟩ := open_file_eq_some hfile
    exact hinv.of_quiet (quiet_read hinv hmem hopen count wait)
  | poll i =>
    obtain ⟨file, hfile, rfl⟩ := Option.map_eq_some_iff.mp h
    obtain ⟨hmem, hopen⟩ := open_file_eq_some hfile
    exact hinv.of_quiet (quiet_poll hinv hmem hopen)
  | ioctl i cmd wait =>
    obtain ⟨file, hfile, rfl⟩ := Option.map_eq_some_iff.mp h
    obtain ⟨hmem, hopen⟩ := open_file_eq_some hfile
    exact hinv.of_quiet (quiet_ioctl hinv hmem hopen cmd wait)
  | release i sent =>
    obtain ⟨file, hfile, rfl⟩ := Option.map_eq_some_iff.mp h
    exact hinv.of_quiet (quiet_release hinv i file sent)
  | net_open f sent =>
    rw [DriverState.step] at h
    obtain ⟨hguard, heq⟩ := Option.ite_none_right_eq_some.mp h
    cases heq
    exact hinv.of_quiet (quiet_set_dev s f _ (.inl hguard.1))
  | net_stop f sent =>
    rw [DriverState.step] at h
    obtain ⟨hguard, heq⟩ := Option.ite_none_right_eq_some.mp h
    cases heq
    exact hinv.of_quiet (quiet_set_dev s f _ (.inl hguard.1))
  | plugout f sent =>
    rw [DriverState.step] at h
    obtain ⟨hreg, heq⟩ := Option.ite_none_right_eq_some.mp h
    cases heq
    exact lifeInv_plugout hgrp hinv sent hreg
  | destroy f =>
    rw [DriverState.step] at h
    obtain ⟨hdestroy, heq⟩ := Option.ite_none_right_eq_some.mp h
    cases heq
    exact lifeInv_destroy hinv hdestroy huncached

/-- Freeing a forwarder that an open file has cached is unsafe at once. -/
theorem freesUncached_of_endsSafe {s : DriverState G} {op : Op} (h : EndsSafe grp s op) :
    FreesUncached s op := by
  cases op with
  | destroy f =>
    intro hfrees file hmem hopen hdata
    have hstep : s.step grp (.destroy f)
        = some (s.set_life f { s.life f with allocated := false, destroy_work := false }) := by
      have hnone := hfrees.2
      rw [DriverState.step, if_pos hfrees.1, destroy_usb_forwarder, if_neg (by omega)]
    have hget : get_usb_forwarder_from_file grp
        (s.set_life f { s.life f with allocated := false, destroy_work := false }) file
          = some f := by
      rw [get_usb_forwarder_from_file, hdata]
    -- the very next state is unsafe: the open file leads to freed memory
    have halloc := (h _ hstep).2 file hmem hopen f hget
    rw [life_set_life, if_pos rfl] at halloc
    cases halloc
  | _ => trivial

/-- From loading the driver on, no file operation uses a freed forwarder and no open
file leads to one, after each operation of a run, exactly if no run of the destroy work
frees a forwarder that an open file still has in `private_data`. -/
theorem no_use_after_free_iff (hgrp : grp.Lawful) (group : G)
    (hempty : ∀ minor, grp.find_item_privdata group minor = none) (ops : List Op) :
    Runs.Along (DriverState.step grp) (EndsSafe grp) (DriverState.loaded group) ops
      ↔ Runs.Along (DriverState.step grp) FreesUncached (DriverState.loaded group) ops := by
  have hsafe : ∀ s op, LifeInv grp s → (FreesUncached s op ↔ EndsSafe grp s op) := by
    intro s op hinv
    refine ⟨fun huncached s' hs' => ?_, freesUncached_of_endsSafe⟩
    exact (lifeInv_step hgrp s op s' hinv huncached hs').safe
  exact (Runs.along_iff _ (lifeInv_step hgrp) hsafe (lifeInv_loaded hempty) ops).symm

end

/-! ## A group of eight minor numbers -/

instance {G : Type} (s : DriverState G) (f : ℕ) : Decidable (s.frees f) :=
  inferInstanceAs (Decidable (_ ∧ _))

instance {G : Type} (s : DriverState G) : DecidablePred (FreesUncached s)
  | .destroy f => inferInstanceAs (Decidable (s.frees f → ∀ file ∈ s.files, _ → _))
  | .plugin _ _ _ | .open_ _ _ | .read _ _ _ | .poll _ | .ioctl _ _ _ | .release _ _
  | .net_open _ _ | .net_stop _ _ | .plugout _ _ => .isTrue trivial

/-- The lowest free minor number is given away. -/
def minor_table : ChrdevGroup (ℕ → Option ℕ) where
  find_item_privdata := fun table minor => table minor
  make_item := fun table f =>
    ((List.range 8).find? fun minor => (table minor).isNone).map fun minor =>
      (minor, Function.update table minor (some f))
  unmake_item := fun table minor => Function.update table minor none

/-- A table of eight numbers is a group as the driver expects one. -/
theorem minor_table_lawful : minor_table.Lawful where
  find_make := by
    intro table table' f minor h
    obtain ⟨_, -, heq⟩ := Option.map_eq_some_iff.mp h
    obtain ⟨rfl, rfl⟩ := Prod.mk.inj heq
    exact Function.update_self ..
  find_make_of_ne := by
    intro table table' f minor m h hne
    obtain ⟨_, -, heq⟩ := Option.map_eq_some_iff.mp h
    obtain ⟨rfl, rfl⟩ := Prod.mk.inj heq
    exact Function.update_of_ne hne ..
  find_unmake := fun table minor => Function.update_self ..
  find_unmake_of_ne := fun table _ _ hne => Function.update_of_ne hne ..

/-- No command fails. -/
def no_error : ℕ → Int := fun _ => 0

/-- A file stays open across the unplugging, and is polled before the memory goes. -/
def polled_in_time : List Op :=
  [.plugin 8 0 0, .open_ 0 no_error, .plugout 0 no_error, .poll 0, .destroy 0, .poll 0]

theorem no_use_after_free_iff_polled_in_time :
    Runs.Along (DriverState.step minor_table) (EndsSafe minor_table)
      (DriverState.loaded fun _ => none) polled_in_time :=
  (no_use_after_free_iff minor_table_lawful (fun _ => none) (fun _ => rfl) polled_in_time).mpr
    (by decide)

/-- The same without the first poll. -/
def polled_too_late : List Op :=
  [.plugin 8 0 0, .open_ 0 no_error, .plugout 0 no_error, .destroy 0, .poll 0]

/-- The poll dereferences the freed forwarder. -/
theorem poll_uses_freed_forwarder :
    ∃ s, Runs.run (DriverState.step minor_table) (DriverState.loaded fun _ => none) polled_too_late
        = some s ∧ s.faults = [0] ∧ ¬ s.Safe minor_table := by
  obtain ⟨s, hrun, hfault⟩ : ∃ s, Runs.run (DriverState.step minor_table)
        (DriverState.loaded fun _ => none) polled_too_late = some s
      ∧ s.faults = [0] :=
    Runs.exists_run_of_any (DriverState.step minor_table) (by decide)
  refine ⟨s, hrun, hfault, fun hsafe => ?_⟩
  rw [hsafe.1] at hfault
  cases hfault

end DualPcanUsb
