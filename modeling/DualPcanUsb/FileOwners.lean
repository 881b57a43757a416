/-
Files of several devices.

A file finds its device by its minor number, in `pcan_chardev_release` always and in the other
operations once `private_data` has been dropped. Unplugging a device gives its number back
while files of it may still be open, and the next device can get it: then the old file reads
the new device's messages, and closing it takes from the new device's counts. So every file
stays with the device it was opened on, and the counts of every device are right, exactly as
long as no number is given away again while an open file still has it.
-/
import DualPcanUsb.StageLaw

set_option autoImplicit false

namespace DualPcanUsb

section

variable {G : Type} (grp : ChrdevGroup G)

/-! ## Owners -/

/-- The driver, and the forwarder each of its files was opened on. -/
structure Owned (G : Type) where
  s : DriverState G
  owner : List ℕ

def Owned.loaded (group : G) : Owned G := ⟨DriverState.loaded group, []⟩

/-- A new file is one of the forwarder that the open has stored in it. -/
def Owned.step (w : Owned G) (op : Op) : Option (Owned G) :=
  (w.s.step grp op).map fun s' =>
    ⟨s', w.owner ++ (s'.files.drop w.s.files.length).filterMap File.private_data⟩

/-- Whichever way an open file leads, it leads to the forwarder `f` or to none. -/
def StaysWith (s : DriverState G) (file : File) (f : ℕ) : Prop :=
  file.is_open = true → ∀ f', get_usb_forwarder_from_file grp s file = some f'
    ∨ grp.find_item_privdata s.group file.minor = some f' → f' = f

/-- Each file stays with its owner. -/
def Owned.AtHome (w : Owned G) : Prop := List.Forall₂ (StaysWith grp w.s) w.s.files w.owner

def EndsAtHome (w : Owned G) (op : Op) : Prop :=
  ∀ w', w.step grp op = some w' → w'.AtHome grp

/-- A device that is plugged in gets a minor number that no open file has. -/
def MinorUnused (w : Owned G) : Op → Prop
  | .plugin _ early late => early = 0 → late = 0 →
    ∀ item ∈ grp.make_item w.s.group w.s.next_forwarder,
      ∀ file ∈ w.s.files, file.is_open = true → file.minor ≠ item.1
  | _ => True

/-- The forwarder an operation is for. -/
def Owned.target (w : Owned G) : Op → Option ℕ
  | .plugin _ _ _ => some w.s.next_forwarder
  | .open_ minor _ => grp.find_item_privdata w.s.group minor
  | .read i _ _ | .poll i | .ioctl i _ _ | .release i _ => w.owner[i]?
  | .net_open f _ | .net_stop f _ | .plugout f _ | .destroy f => some f

/-- The number of open files that were opened on `f`. -/
def Owned.files_of (w : Owned G) (f : ℕ) : ℕ :=
  (w.s.files.zip w.owner).countP fun p => p.1.is_open ∧ p.2 = f

/-- A new item gets a minor number that is free. -/
def ChrdevGroup.GivesFree (grp : ChrdevGroup G) : Prop :=
  ∀ {g g' : G} {f minor : ℕ}, grp.make_item g f = some (minor, g') →
    grp.find_item_privdata g minor = none

/-! ## Files, one by one -/

/-- One entry of a list can be exchanged if what it was related to is related to the new one. -/
theorem forall₂_set {α β : Type} {R : α → β → Prop} {as : List α} {bs : List β}
    (h : List.Forall₂ R as bs) {i : ℕ} {a a' : α} (hi : as[i]? = some a)
    (himp : ∀ b, R a b → R a' b) : List.Forall₂ R (as.set i a') bs := by
  induction h generalizing i with
  | nil => cases hi
  | cons hab hrest ih =>
    cases i with
    | zero =>
      obtain rfl := Option.some.inj hi
      exact .cons (himp _ hab) hrest
    | succ i => exact .cons hab (ih hi)

/-! ## What reading, polling and requests leave alone -/

/-- What the counts of a device are about. -/
def Device.account (d : Device) : Int × Int × Bool := (d.stage, d.open_count, d.netif_running)

/-- The counts are a matter of the account alone. -/
theorem Device.Counts.congr {d d' : Device} {open_files : ℕ} (hsame : d'.account = d.account)
    (h : d.Counts open_files) : d'.Counts open_files := by
  obtain ⟨hstage, hcount, hrunning⟩ :
      d'.stage = d.stage ∧ d'.open_count = d.open_count ∧ d'.netif_running = d.netif_running := by
    simpa [Device.account] using hsame
  refine ⟨?_, hcount.trans h.open_count_eq, h.open_files_le⟩
  rw [hstage, h.stage_eq, Device.open_interfaces, Device.open_interfaces, hrunning]

/-- Taking messages out does not open or close anything. -/
theorem read_section_open_count (want : Int) (dev : Chardev) :
    (read_section want dev).2.open_count = dev.open_count := by
  unfold read_section
  dsimp only
  split <;> rfl

/-- A request for messages changes nothing that is counted. -/
theorem receive_account (wait : Wait) (want : Int) (d : Device) :
    (d.receive wait (read_section want)).2.account = d.account := by
  unfold Device.receive
  dsimp only
  split
  · rfl
  · exact congrArg (d.stage, ·, d.netif_running) (read_section_open_count want _)

/-- No request changes anything that is counted. -/
theorem ioctl_handler_account (wait : Wait) (cmd : Ioctl) (d : Device) :
    (ioctl_handler wait cmd d).2.account = d.account := by
  cases cmd with
  | read_msg => exact receive_account wait _ d
  | fd_recv_msgs count =>
    rw [ioctl_handler]
    split
    · rfl
    · exact receive_account wait _ d
  | other ret => rfl

/-- An operation on the open file `i`, up to the counts of the devices: at most it drops the
file's pointer. -/
structure Io (s : DriverState G) (i : ℕ) (file : File) (s' : DriverState G) : Prop where
  group_eq : s'.group = s.group
  next_eq : s'.next_forwarder = s.next_forwarder
  life_eq : ∀ f, s'.life f = s.life f
  account_eq : ∀ f, (s'.dev f).account = (s.dev f).account
  files_eq : s'.files = s.files ∨ s'.files = s.files.set i { file with private_data := none }

variable {grp}

@[simp] theorem life_deref (s : DriverState G) (f f' : ℕ) : (s.deref f').life f = s.life f := by
  unfold DriverState.deref
  split <;> rfl

/-- Looking at a forwarder, freed or not, allocates none. -/
@[simp] theorem next_deref (s : DriverState G) (f' : ℕ) :
    (s.deref f').next_forwarder = s.next_forwarder := by
  unfold DriverState.deref
  split <;> rfl

theorem Io.refl (s : DriverState G) (i : ℕ) (file : File) : Io s i file s :=
  ⟨rfl, rfl, fun _ => rfl, fun _ => rfl, .inl rfl⟩

/-- The stage check at most drops the pointer of the file it is made for. -/
theorem io_precheck (s : DriverState G) (f i : ℕ) (file : File) :
    Io s i file (chrdev_op_precheck f i file s).2 := by
  unfold chrdev_op_precheck
  dsimp only
  split
  · refine ⟨group_deref s f, next_deref s f, fun f' => life_deref s f' f, fun f' => ?_,
      .inr (congrArg (List.set · i _) (files_deref s f))⟩
    exact congrArg Device.account (dev_deref s f' f)
  · exact ⟨group_deref s f, next_deref s f, fun f' => life_deref s f' f,
      fun f' => congrArg Device.account (dev_deref s f' f), .inl (files_deref s f)⟩

/-- Counting a call in and out around what it does keeps to the same file and account. -/
theorem Io.pending {s s₁ : DriverState G} {i : ℕ} {file : File} (h : Io s i file s₁) (f : ℕ)
    {op : Device → Except Int (List ChardevMsg) × Device}
    (hop : ∀ d, (op d).2.account = d.account) : Io s i file (s₁.pending f op).2 := by
  refine ⟨h.group_eq, h.next_eq, fun f' => ?_, fun f' => ?_, h.files_eq⟩
  · unfold DriverState.pending
    dsimp only
    rw [life_add_pending_ops, life_set_dev, life_add_pending_ops, h.life_eq]
  · unfold DriverState.pending
    dsimp only
    rw [dev_add_pending_ops, dev_set_dev]
    split
    · rename_i heq
      subst heq
      rw [hop, dev_add_pending_ops, h.account_eq]
    · rw [dev_add_pending_ops, h.account_eq]

/-- All that a read changes outside the ring is its own file's pointer. -/
theorem io_read (s : DriverState G) (i : ℕ) (file : File) (count : ℕ) (wait : Wait) :
    Io s i file (pcan_chardev_read grp i file count wait s).2 := by
  unfold pcan_chardev_read
  split
  · exact .refl s i file
  · rename_i f hget
    have hcheck := io_precheck s f i file
    split
    · exact .refl s i file
    dsimp only
    split
    · exact hcheck
    · exact hcheck.pending f (receive_account wait _)

/-- All that a poll changes is its own file's pointer. -/
theorem io_poll (s : DriverState G) (i : ℕ) (file : File) :
    Io s i file (pcan_chardev_poll grp i file s).2 := by
  unfold pcan_chardev_poll
  split
  · exact .refl s i file
  · rename_i f hget
    have hcheck := io_precheck s f i file
    dsimp only
    split
    · exact hcheck
    · exact hcheck

/-- All that a request changes outside its device is its own file's pointer. -/
theorem io_ioctl (s : DriverState G) (i : ℕ) (file : File) (cmd : Ioctl) (wait : Wait) :
    Io s i file (pcan_chardev_ioctl grp i file cmd wait s).2 := by
  unfold pcan_chardev_ioctl
  split
  · exact .refl s i file
  · rename_i f hget
    have hcheck := io_precheck s f i file
    dsimp only
    split
    · exact hcheck
    · exact hcheck.pending f (ioctl_handler_account wait cmd)

/-! ## The invariant -/

variable (grp)

/-- A file and the forwarder it was opened on: nothing leads from the file elsewhere. -/
structure OwnedBy (s : DriverState G) (file : File) (f : ℕ) : Prop where
  lt : f < s.next_forwarder
  cached : file.is_open = true → ∀ f', file.private_data = some f' → f' = f
  minor_eq : file.is_open = true → (s.life f).minor = file.minor
  found : file.is_open = true → ∀ f', grp.find_item_privdata s.group file.minor = some f' → f' = f

structure OwnInv (w : Owned G) : Prop where
  found : ∀ minor f, grp.find_item_privdata w.s.group minor = some f →
    (w.s.life f).registered = true ∧ (w.s.life f).minor = minor
  listed : ∀ f, (w.s.life f).registered = true →
    grp.find_item_privdata w.s.group (w.s.life f).minor = some f
  destroy_unregistered : ∀ f, (w.s.life f).destroy_work = true → (w.s.life f).registered = false
  fresh : ∀ f, w.s.next_forwarder ≤ f → (w.s.life f).registered = false
  owned : List.Forall₂ (OwnedBy grp w.s) w.s.files w.owner
  counts : ∀ f, (w.s.life f).registered = true → w.s.Counts grp f

variable {grp}

/-- A driver just loaded has no files, so none is with the wrong device. -/
theorem ownInv_loaded {group : G} (hempty : ∀ minor, grp.find_item_privdata group minor = none) :
    OwnInv grp (Owned.loaded group) where
  found := fun minor f h => by
    rw [show (Owned.loaded group).s.group = group from rfl, hempty minor] at h
    cases h
  listed := nofun
  destroy_unregistered := nofun
  fresh := fun _ _ => rfl
  owned := .nil
  counts := nofun

/-- Under the invariant every open file is with its own device. -/
theorem OwnInv.atHome {w : Owned G} (h : OwnInv grp w) : w.AtHome grp := by
  refine h.owned.imp fun file f hown hopen f' hleads => ?_
  rcases hleads with hget | hfound
  · unfold get_usb_forwarder_from_file at hget
    split at hget
    · rename_i hdata
      cases hget
      exact hown.cached hopen f' hdata
    · exact hown.found hopen f' hget
  · exact hown.found hopen f' hfound

/-- Under the invariant a plugged device's files are those with its minor number. -/
theorem OwnInv.files_of_eq {w : Owned G} (h : OwnInv grp w) {f : ℕ}
    (hreg : (w.s.life f).registered = true) : w.files_of f = w.s.open_files grp f := by
  have hfst : w.s.files = (w.s.files.zip w.owner).map Prod.fst :=
    (List.map_fst_zip h.owned.length_eq.le).symm
  unfold Owned.files_of DriverState.open_files
  conv_rhs => rw [hfst, List.countP_map]
  refine List.countP_congr fun p hp => ?_
  have hown := List.forall₂_zip h.owned hp
  unfold DriverState.is_file_of
  simp only [Function.comp_apply, decide_eq_true_eq]
  refine and_congr_right fun hopen => ⟨fun hf => ?_, fun hfound => ?_⟩
  · rw [← hown.minor_eq hopen, hf]
    exact h.listed f hreg
  · exact (hown.found hopen f hfound).symm

/-! ## Operations that plug nothing in or out -/

/-- The table of minor numbers and the devices that are plugged in stay as they are. -/
structure Steady (s s' : DriverState G) : Prop where
  group_eq : s'.group = s.group
  next_eq : s'.next_forwarder = s.next_forwarder
  registered_eq : ∀ f, (s'.life f).registered = (s.life f).registered
  minor_eq : ∀ f, (s'.life f).minor = (s.life f).minor
  destroy_work : ∀ f, (s'.life f).destroy_work = true → (s.life f).destroy_work = true

/-- Nothing is plugged in or out where group, allocations and lives are the same. -/
theorem Steady.of_life {s s' : DriverState G} (hgroup : s'.group = s.group)
    (hnext : s'.next_forwarder = s.next_forwarder) (hlife : ∀ f, s'.life f = s.life f) :
    Steady s s' :=
  ⟨hgroup, hnext, fun f => congrArg Life.registered (hlife f),
    fun f => congrArg Life.minor (hlife f), fun f h => by rwa [hlife] at h⟩

/-- A file stays with its device while nothing is plugged in or out. -/
theorem Steady.ownedBy {s s' : DriverState G} (h : Steady s s') {file : File} {f : ℕ}
    (hown : OwnedBy grp s file f) : OwnedBy grp s' file f := by
  obtain ⟨hlt, hcached, hminor, hfound⟩ := hown
  refine ⟨h.next_eq ▸ hlt, hcached, fun hopen => (h.minor_eq f).trans (hminor hopen),
    fun hopen => ?_⟩
  rw [h.group_eq]
  exact hfound hopen

/-- Without plugging, only the files and the counts are left to be checked. -/
theorem OwnInv.of_steady {w w' : Owned G} (hinv : OwnInv grp w) (h : Steady w.s w'.s)
    (howned : List.Forall₂ (OwnedBy grp w'.s) w'.s.files w'.owner)
    (hcounts : ∀ f, (w'.s.life f).registered = true → w'.s.Counts grp f) : OwnInv grp w' := by
  refine ⟨fun minor f hfound => ?_, fun f hreg => ?_, fun f hdestroy => ?_, fun f hle => ?_,
    howned, hcounts⟩
  · rw [h.group_eq] at hfound
    rw [h.registered_eq, h.minor_eq]
    exact hinv.found minor f hfound
  · rw [h.registered_eq] at hreg
    rw [h.group_eq, h.minor_eq]
    exact hinv.listed f hreg
  · rw [h.registered_eq]
    exact hinv.destroy_unregistered f (h.destroy_work f hdestroy)
  · rw [h.registered_eq]
    rw [h.next_eq] at hle
    exact hinv.fresh f hle

/-- No file is new. -/
theorem owner_same (w : Owned G) {s' : DriverState G} (hlen : s'.files.length = w.s.files.length) :
    w.owner ++ (s'.files.drop w.s.files.length).filterMap File.private_data = w.owner := by
  rw [← hlen, List.drop_length, List.filterMap_nil, List.append_nil]

/-- Reads, polls and requests keep files with their devices. -/
theorem OwnInv.of_io {w : Owned G} (hinv : OwnInv grp w) {i : ℕ} {file : File}
    {s' : DriverState G} (hfile : w.s.open_file i = some file) (h : Io w.s i file s') :
    OwnInv grp ⟨s', w.owner⟩ := by
  have hsteady : Steady w.s s' := .of_life h.group_eq h.next_eq h.life_eq
  obtain ⟨hi, -⟩ := Option.filter_eq_some_iff.mp hfile
  have hold : List.Forall₂ (OwnedBy grp s') w.s.files w.owner :=
    hinv.owned.imp fun _ _ => hsteady.ownedBy
  have hopen_files : ∀ f, s'.open_files grp f = w.s.open_files grp f := by
    intro f
    rcases h.files_eq with hsame | hset
    · exact open_files_same f h.group_eq hsame
    · unfold DriverState.open_files
      have hsame : s'.is_file_of grp f = w.s.is_file_of grp f := by
        unfold DriverState.is_file_of
        rw [h.group_eq]
      have hcount := Roles.countP_set (w.s.is_file_of grp f) hi
        { file with private_data := none }
      rw [hset, hsame]
      exact Nat.add_right_cancel hcount
  refine hinv.of_steady hsteady ?_ fun f hreg => ?_
  · rcases h.files_eq with hsame | hset
    · exact hsame ▸ hold
    · dsimp only
      rw [hset]
      exact forall₂_set hold hi fun f hown => ⟨hown.lt, nofun, hown.minor_eq, hown.found⟩
  · rw [show (Owned.mk s' w.owner).s = s' from rfl] at hreg ⊢
    rw [hsteady.registered_eq] at hreg
    rw [DriverState.Counts, hopen_files]
    exact (hinv.counts f hreg).congr (h.account_eq f)

/-- Uses of the interfaces keep the counts by the step lemma for a single device. -/
theorem OwnInv.of_use {w w' : Owned G} (hinv : OwnInv grp w) {op : Op} (hop : op.is_use)
    (hstep : w.s.step grp op = some w'.s) (hsteady : Steady w.s w'.s)
    (howned : List.Forall₂ (OwnedBy grp w'.s) w'.s.files w'.owner) : OwnInv grp w' := by
  refine hinv.of_steady hsteady howned fun f hreg => ?_
  rw [hsteady.registered_eq] at hreg
  exact counts_step w.s op w'.s (hinv.counts f hreg) hop hstep

/-- An open, turned away or not, plugs nothing in or out. -/
theorem steady_open (s : DriverState G) (minor : ℕ) (sent : ℕ → Int) :
    Steady s (pcan_chardev_open_file grp minor sent s).2 := by
  unfold pcan_chardev_open_file
  split
  · exact .of_life rfl rfl fun _ => rfl
  · rename_i f hfind
    have hlife : ∀ dev f', ((s.deref f).set_dev f dev).life f' = s.life f' :=
      fun dev f' => (life_set_dev _ f f' dev).trans (life_deref s f' f)
    dsimp only
    split
    · exact .of_life (group_deref s f) (next_deref s f) (hlife _)
    · exact .of_life (group_deref s f) (next_deref s f) (hlife _)

/-- A release closes its file, whatever it finds. -/
theorem steady_release (s : DriverState G) (i : ℕ) (file : File) (sent : ℕ → Int) :
    Steady s (pcan_chardev_release_file grp i file sent s)
      ∧ ∃ file' : File, (pcan_chardev_release_file grp i file sent s).files = s.files.set i file'
        ∧ file'.is_open = false := by
  unfold pcan_chardev_release_file
  split
  · exact ⟨.of_life rfl rfl fun _ => rfl, _, rfl, rfl⟩
  · rename_i f hfind
    refine ⟨.of_life (group_deref s f) (next_deref s f) fun f' => ?_, _,
      congrArg (List.set · i _) (files_deref s f), rfl⟩
    exact (life_set_dev _ f f' _).trans (life_deref s f' f)

/-- A file newly opened is with the device that its minor number stands for. -/
theorem OwnInv.of_open {w : Owned G} (hinv : OwnInv grp w) (minor : ℕ) (sent : ℕ → Int)
    {w' : Owned G} (hstep : w.step grp (.open_ minor sent) = some w') : OwnInv grp w' := by
  obtain ⟨s', hs', rfl⟩ := Option.map_eq_some_iff.mp hstep
  obtain rfl := Option.some.inj hs'
  cases hfind : grp.find_item_privdata w.s.group minor with
  | none =>
    have hsame : (pcan_chardev_open_file grp minor sent w.s).2 = w.s := by
      unfold pcan_chardev_open_file
      rw [hfind]
    rw [hsame, owner_same w rfl]
    exact hinv
  | some f =>
    obtain ⟨hgroup, hdev, hfiles⟩ := open_file_effect sent hfind
    have hsteady := @steady_open G grp w.s minor sent
    have hold : List.Forall₂ (OwnedBy grp (pcan_chardev_open_file grp minor sent w.s).2)
        w.s.files w.owner := hinv.owned.imp fun _ _ => hsteady.ownedBy
    refine @OwnInv.of_use _ _ w _ hinv (.open_ minor sent) trivial rfl hsteady ?_
    dsimp only
    by_cases hopened :
        (perform .chardev sent operation_fuel .inc_open_count (w.s.dev f)).1 = .opened
    · rw [if_pos hopened] at hfiles
      rw [hfiles, List.drop_left]
      obtain ⟨hreg, hminor⟩ := hinv.found minor f hfind
      have hlt : f < w.s.next_forwarder := by
        by_contra hle
        rw [hinv.fresh f (not_lt.mp hle)] at hreg
        cases hreg
      refine List.rel_append hold (.cons ⟨hsteady.next_eq ▸ hlt, ?_, ?_, ?_⟩ .nil)
      · intro _ f' hdata
        exact (Option.some.inj hdata).symm
      · exact fun _ => (hsteady.minor_eq f).trans hminor
      · intro _ f' hfound
        rw [hgroup] at hfound
        exact Option.some.inj (hfound.symm.trans hfind)
    · rw [if_neg hopened] at hfiles
      rw [owner_same w (congrArg List.length hfiles), hfiles]
      exact hold

/-- A release is of the device the file was opened on, so the right count goes down. -/
theorem OwnInv.of_release {w : Owned G} (hinv : OwnInv grp w) {i : ℕ} {file : File}
    (sent : ℕ → Int) (hfile : w.s.open_file i = some file)
    (hstep : w.s.step grp (.release i sent) = some (pcan_chardev_release_file grp i file sent w.s)) :
    OwnInv grp ⟨pcan_chardev_release_file grp i file sent w.s, w.owner⟩ := by
  obtain ⟨hi, -⟩ := Option.filter_eq_some_iff.mp hfile
  obtain ⟨hsteady, file', hfiles, hclosed⟩ := @steady_release G grp w.s i file sent
  have hold : List.Forall₂ (OwnedBy grp (pcan_chardev_release_file grp i file sent w.s))
      w.s.files w.owner := hinv.owned.imp fun _ _ => hsteady.ownedBy
  refine @OwnInv.of_use _ _ w _ hinv (.release i sent) trivial hstep hsteady ?_
  dsimp only
  rw [hfiles]
  have hshut : file'.is_open = true → False := by
    rw [hclosed]
    nofun
  exact forall₂_set hold hi fun f hown => ⟨hown.lt, fun hopen => (hshut hopen).elim,
    fun hopen => (hshut hopen).elim, fun hopen => (hshut hopen).elim⟩

theorem steady_set_dev (s : DriverState G) (f : ℕ) (dev : Device) : Steady s (s.set_dev f dev) :=
  .of_life rfl rfl fun f' => life_set_dev s f f' dev

/-- Operations of the network interface touch no file. -/
theorem OwnInv.of_netdev {w : Owned G} (hinv : OwnInv grp w) {op : Op} (hop : op.is_use) {f : ℕ}
    {dev : Device} (hstep : w.s.step grp op = some (w.s.set_dev f dev)) :
    OwnInv grp ⟨w.s.set_dev f dev, w.owner⟩ := by
  have hsteady := steady_set_dev w.s f dev
  refine @OwnInv.of_use _ _ w ⟨w.s.set_dev f dev, w.owner⟩ hinv op hop hstep hsteady ?_
  exact hinv.owned.imp fun _ _ => hsteady.ownedBy

/-- Freeing a forwarder leaves the files and the other forwarders alone. -/
theorem steady_destroy (s : DriverState G) (f : ℕ) : Steady s (destroy_usb_forwarder f s)
    ∧ (destroy_usb_forwarder f s).files = s.files
    ∧ ∀ f', f' ≠ f → (destroy_usb_forwarder f s).dev f' = s.dev f' := by
  unfold destroy_usb_forwarder
  split
  · exact ⟨.of_life rfl rfl fun f' => life_set_dev s f f' _, rfl,
      fun f' hne => (dev_set_dev s f f' _).trans (if_neg hne)⟩
  · refine ⟨⟨rfl, rfl, fun f' => ?_, fun f' => ?_, fun f' => ?_⟩, rfl,
      fun f' _ => dev_set_life s f f' _⟩
    · rw [life_set_life]
      split
      · rename_i heq
        rw [heq]
      · rfl
    · rw [life_set_life]
      split
      · rename_i heq
        rw [heq]
      · rfl
    · rw [life_set_life]
      split
      · nofun
      · exact id

/-- A device keeps its counts while it and the number of its files stay the same. -/
theorem counts_carry {s s' : DriverState G} {f : ℕ} (h : s.Counts grp f)
    (hdev : s'.dev f = s.dev f) (hfiles : s'.open_files grp f = s.open_files grp f) :
    s'.Counts grp f := by
  rw [DriverState.Counts] at h ⊢
  rw [hdev, hfiles]
  exact h

/-- The delayed work is scheduled for unplugged devices only. -/
theorem OwnInv.of_destroy {w : Owned G} (hinv : OwnInv grp w) {f : ℕ}
    (hdestroy : (w.s.life f).destroy_work = true) :
    OwnInv grp ⟨destroy_usb_forwarder f w.s, w.owner⟩ := by
  have hunreg := hinv.destroy_unregistered f hdestroy
  obtain ⟨hsteady, hfiles, hdev⟩ := steady_destroy w.s f
  refine @OwnInv.of_steady _ _ w _ hinv hsteady ?_ fun f' hreg => ?_
  · dsimp only
    rw [hfiles]
    exact hinv.owned.imp fun _ _ => hsteady.ownedBy
  · have hreg' : (w.s.life f').registered = true := (hsteady.registered_eq f').symm.trans hreg
    have hne : f' ≠ f := by
      rintro rfl
      rw [hunreg] at hreg'
      cases hreg'
    exact counts_carry (hinv.counts f' hreg') (hdev f' hne)
      (open_files_same f' hsteady.group_eq hfiles)

/-! ## Plugging in and out -/

/-- The files of a device are the same where its minor number is looked up the same. -/
theorem open_files_congr {s s' : DriverState G} {f : ℕ} (hfiles : s'.files = s.files)
    (hlookup : ∀ minor, grp.find_item_privdata s'.group minor = some f
      ↔ grp.find_item_privdata s.group minor = some f) :
    s'.open_files grp f = s.open_files grp f := by
  unfold DriverState.open_files
  rw [hfiles]
  refine List.countP_congr fun file _ => ?_
  unfold DriverState.is_file_of
  simp only [decide_eq_true_eq, hlookup]

/-- Unplugging takes one device out of the group and schedules its destroy work. -/
theorem life_plugout (s : DriverState G) (f f' : ℕ) (sent : ℕ → Int) :
    (pcan_usb_plugout grp f sent s).life f'
      = if f' = f then { s.life f with registered := false, destroy_work := true }
        else s.life f' := by
  rw [pcan_usb_plugout, life_set_life, life_set_dev]
  rfl

/-- Unplugging one device does nothing to the state of the others. -/
theorem dev_plugout (s : DriverState G) (sent : ℕ → Int) {f f' : ℕ} (hne : f' ≠ f) :
    (pcan_usb_plugout grp f sent s).dev f' = s.dev f' := by
  rw [pcan_usb_plugout, dev_set_life, dev_set_dev, if_neg hne]
  rfl

/-- A number is looked up as before, or is the one given back. -/
theorem find_plugout (hgrp : grp.Lawful) (s : DriverState G) (f : ℕ) (sent : ℕ → Int)
    (minor : ℕ) : grp.find_item_privdata (pcan_usb_plugout grp f sent s).group minor
      = if minor = (s.life f).minor then none else grp.find_item_privdata s.group minor := by
  change grp.find_item_privdata (grp.unmake_item s.group (s.life f).minor) minor = _
  split
  · rename_i heq
    rw [heq]
    exact hgrp.find_unmake _ _
  · rename_i hne
    exact hgrp.find_unmake_of_ne _ hne

/-- The files of an unplugged device are still its own. -/
theorem OwnInv.of_plugout (hgrp : grp.Lawful) {w : Owned G} (hinv : OwnInv grp w) {f : ℕ}
    (sent : ℕ → Int) (hreg : (w.s.life f).registered = true) :
    OwnInv grp ⟨pcan_usb_plugout grp f sent w.s, w.owner⟩ := by
  have hlife := fun f' => @life_plugout G grp w.s f f' sent
  have hlookup := find_plugout hgrp w.s f sent
  set s' := pcan_usb_plugout grp f sent w.s with hs'
  have hsub : ∀ minor f', grp.find_item_privdata s'.group minor = some f' →
      f' ≠ f ∧ grp.find_item_privdata w.s.group minor = some f' := by
    intro minor f' hfound
    rw [hlookup] at hfound
    split at hfound
    · cases hfound
    · rename_i hne
      refine ⟨?_, hfound⟩
      rintro rfl
      exact hne (hinv.found minor f' hfound).2.symm
  have hother : ∀ f', f' ≠ f → ∀ minor, grp.find_item_privdata s'.group minor = some f'
      ↔ grp.find_item_privdata w.s.group minor = some f' := by
    intro f' hne minor
    refine ⟨fun hfound => (hsub minor f' hfound).2, fun hfound => ?_⟩
    rw [hlookup, if_neg, hfound]
    rintro rfl
    exact hne (Option.some.inj (hfound.symm.trans (hinv.listed f hreg)))
  have hne_of_reg : ∀ f', (s'.life f').registered = true → f' ≠ f := by
    rintro f' hreg' rfl
    rw [hlife, if_pos rfl] at hreg'
    cases hreg'
  refine ⟨fun minor f' hfound => ?_, fun f' hreg' => ?_, fun f' hdestroy => ?_,
    fun f' hle => ?_, ?_, fun f' hreg' => ?_⟩
  · obtain ⟨hne, hold⟩ := hsub minor f' hfound
    dsimp only
    rw [hlife, if_neg hne]
    exact hinv.found minor f' hold
  · have hne := hne_of_reg f' hreg'
    dsimp only at hreg' ⊢
    rw [hlife, if_neg hne] at hreg' ⊢
    exact (hother f' hne _).mpr (hinv.listed f' hreg')
  · dsimp only at hdestroy ⊢
    rw [hlife] at hdestroy ⊢
    split
    · rfl
    · rename_i hne
      rw [if_neg hne] at hdestroy
      exact hinv.destroy_unregistered f' hdestroy
  · dsimp only
    rw [hlife]
    split
    · rfl
    · exact hinv.fresh f' hle
  · refine hinv.owned.imp fun file f' hown => ⟨hown.lt, hown.cached, fun hopen => ?_,
      fun hopen f'' hfound => hown.found hopen f'' (hsub _ f'' hfound).2⟩
    refine Eq.trans ?_ (hown.minor_eq hopen)
    rw [hlife]
    split
    · rename_i heq
      rw [heq]
    · rfl
  · have hne := hne_of_reg f' hreg'
    dsimp only at hreg' ⊢
    rw [hlife, if_neg hne] at hreg'
    exact counts_carry (hinv.counts f' hreg') (dev_plugout w.s sent hne)
      (open_files_congr rfl (hother f' hne))

/-- An item made and removed again. -/
theorem OwnInv.of_lookup {w : Owned G} (hinv : OwnInv grp w) {group : G}
    (hlookup : ∀ minor, grp.find_item_privdata group minor
      = grp.find_item_privdata w.s.group minor) :
    OwnInv grp ⟨{ w.s with group := group }, w.owner⟩ := by
  refine ⟨fun minor f hfound => hinv.found minor f ((hlookup minor).symm.trans hfound),
    fun f hreg => (hlookup _).trans (hinv.listed f hreg), hinv.destroy_unregistered, hinv.fresh,
    ?_, fun f hreg => ?_⟩
  · exact hinv.owned.imp fun file f hown => ⟨hown.lt, hown.cached, hown.minor_eq,
      fun hopen f' hfound => hown.found hopen f' ((hlookup _).symm.trans hfound)⟩
  · have hsame : ∀ minor, grp.find_item_privdata group minor = some f
        ↔ grp.find_item_privdata w.s.group minor = some f := by
      intro minor
      rw [hlookup]
    exact counts_carry (hinv.counts f hreg) rfl (open_files_congr rfl hsame)

/-- One more device, under the number it was given. -/
def DriverState.add_device (s : DriverState G) (dev_revision minor : ℕ) (group : G) :
    DriverState G :=
  { s with
    group := group
    next_forwarder := s.next_forwarder + 1
    forwarders := Function.update s.forwarders s.next_forwarder
      ⟨Device.plugged dev_revision, 0, ⟨minor, true, true, false⟩⟩ }

section

variable (s : DriverState G) (dev_revision minor : ℕ) (group : G)

/-- A new device gets a forwarder of its own. -/
theorem forwarders_add_device (f : ℕ) :
    (s.add_device dev_revision minor group).forwarders f
      = if f = s.next_forwarder then ⟨Device.plugged dev_revision, 0, ⟨minor, true, true, false⟩⟩
        else s.forwarders f := Function.update_apply ..

/-- The life of a new device begins, and no other changes. -/
theorem life_add_device (f : ℕ) : (s.add_device dev_revision minor group).life f
    = if f = s.next_forwarder then ⟨minor, true, true, false⟩ else s.life f := by
  unfold DriverState.life
  rw [forwarders_add_device]
  split <;> rfl

/-- A new device starts with nothing open; the others are as they were. -/
theorem dev_add_device (f : ℕ) : (s.add_device dev_revision minor group).dev f
    = if f = s.next_forwarder then Device.plugged dev_revision else s.dev f := by
  unfold DriverState.dev
  rw [forwarders_add_device]
  split <;> rfl

end

/-- The new number leads to the new device, the others where they did. -/
theorem find_add_device (hgrp : grp.Lawful) {s : DriverState G} (dev_revision : ℕ) {minor : ℕ}
    {group : G} (hmake : grp.make_item s.group s.next_forwarder = some (minor, group)) (m : ℕ) :
    grp.find_item_privdata (s.add_device dev_revision minor group).group m
      = if m = minor then some s.next_forwarder else grp.find_item_privdata s.group m := by
  change grp.find_item_privdata group m = _
  split
  · rename_i heq
    rw [heq]
    exact hgrp.find_make hmake
  · rename_i hne
    exact hgrp.find_make_of_ne hmake hne

/-- A new device takes over no open file, if no open file has its minor number. -/
theorem OwnInv.of_new_device (hgrp : grp.Lawful) {w : Owned G} (hinv : OwnInv grp w)
    (dev_revision : ℕ) {minor : ℕ} {group : G}
    (hmake : grp.make_item w.s.group w.s.next_forwarder = some (minor, group))
    (hfree : grp.find_item_privdata w.s.group minor = none)
    (hunused : ∀ file ∈ w.s.files, file.is_open = true → file.minor ≠ minor) :
    OwnInv grp ⟨w.s.add_device dev_revision minor group, w.owner⟩ := by
  have hlife := life_add_device w.s dev_revision minor group
  have hdev := dev_add_device w.s dev_revision minor group
  have hlookup := find_add_device hgrp dev_revision hmake
  set new := w.s.next_forwarder with hnew
  set s' := w.s.add_device dev_revision minor group with hs'
  have hother : ∀ f, f ≠ new → ∀ m, grp.find_item_privdata s'.group m = some f
      ↔ grp.find_item_privdata w.s.group m = some f := by
    intro f hne m
    rw [hlookup]
    split
    · rename_i heq
      rw [heq, hfree]
      exact iff_of_false (fun h => hne (Option.some.inj h).symm) nofun
    · exact Iff.rfl
  have hne_of_found : ∀ {m f}, grp.find_item_privdata w.s.group m = some f → f ≠ new := by
    rintro m f hfound rfl
    have hreg := (hinv.found m _ hfound).1
    rw [hinv.fresh new le_rfl] at hreg
    cases hreg
  refine ⟨fun m f hfound => ?_, fun f hreg => ?_, fun f hdestroy => ?_, fun f hle => ?_, ?_,
    fun f hreg => ?_⟩
  · dsimp only at hfound ⊢
    rw [hlookup] at hfound
    split at hfound
    · rename_i heq
      obtain rfl := Option.some.inj hfound
      rw [hlife, if_pos rfl, heq]
      exact ⟨rfl, rfl⟩
    · rw [hlife, if_neg (hne_of_found hfound)]
      exact hinv.found m f hfound
  · dsimp only at hreg ⊢
    rcases eq_or_ne f new with rfl | hne
    · rw [hlife, if_pos rfl, hlookup, if_pos rfl]
    · rw [hlife, if_neg hne] at hreg ⊢
      exact (hother f hne _).mpr (hinv.listed f hreg)
  · dsimp only at hdestroy ⊢
    rcases eq_or_ne f new with rfl | hne
    · rw [hlife, if_pos rfl] at hdestroy
      cases hdestroy
    · rw [hlife, if_neg hne] at hdestroy ⊢
      exact hinv.destroy_unregistered f hdestroy
  · have hlt : new < f := hle
    dsimp only
    rw [hlife, if_neg hlt.ne']
    exact hinv.fresh f hlt.le
  · have hfiles : s'.files = w.s.files := rfl
    dsimp only
    rw [hfiles]
    refine List.forall₂_iff_zip.mpr ⟨hinv.owned.length_eq, fun {file f} hmem => ?_⟩
    have hown := List.forall₂_zip hinv.owned hmem
    refine ⟨Nat.lt_succ_of_lt hown.lt, hown.cached, fun hopen => ?_, fun hopen f' hfound => ?_⟩
    · rw [hlife, if_neg hown.lt.ne]
      exact hown.minor_eq hopen
    · rw [hlookup, if_neg (hunused file (List.of_mem_zip hmem).1 hopen)] at hfound
      exact hown.found hopen f' hfound
  · dsimp only at hreg ⊢
    rcases eq_or_ne f new with rfl | hne
    · have hnone : s'.open_files grp new = 0 := by
        refine List.countP_eq_zero.mpr fun file hmem => ?_
        unfold DriverState.is_file_of
        simp only [decide_eq_true_eq, not_and]
        intro hopen hfound
        rw [hlookup, if_neg (hunused file hmem hopen)] at hfound
        exact hne_of_found hfound rfl
      rw [DriverState.Counts, hnone, hdev, if_pos rfl]
      exact ⟨rfl, rfl, Nat.zero_le 1⟩
    · rw [hlife, if_neg hne] at hreg
      exact counts_carry (hinv.counts f hreg) ((hdev f).trans (if_neg hne))
        (open_files_congr rfl (hother f hne))

/-- Whether plugging in succeeds or is undone, no open file changes its device. -/
theorem OwnInv.of_plugin (hgrp : grp.Lawful) (hfree : grp.GivesFree) {w : Owned G}
    (hinv : OwnInv grp w) {dev_revision : ℕ} {early late : Int}
    (hunused : MinorUnused grp w (.plugin dev_revision early late)) :
    OwnInv grp ⟨pcan_usb_plugin grp dev_revision early late w.s, w.owner⟩ := by
  unfold pcan_usb_plugin
  split
  · exact hinv
  rename_i hearly
  split
  · exact hinv
  rename_i minor group hmake
  split
  · refine hinv.of_lookup fun m => ?_
    rcases eq_or_ne m minor with rfl | hne
    · rw [hgrp.find_unmake, hfree hmake]
    · rw [hgrp.find_unmake_of_ne group hne, hgrp.find_make_of_ne hmake hne]
  · rename_i hlate
    exact hinv.of_new_device hgrp dev_revision hmake (hfree hmake)
      (hunused (not_not.mp hearly) (not_not.mp hlate) _ hmake)

/-! ## Runs -/

/-- Under the condition every operation keeps files with their devices. -/
theorem ownInv_step (hgrp : grp.Lawful) (hfree : grp.GivesFree) (w : Owned G) (op : Op)
    (w' : Owned G) (hinv : OwnInv grp w) (hunused : MinorUnused grp w op)
    (h : w.step grp op = some w') : OwnInv grp w' := by
  by_cases hopens : ∃ minor sent, op = .open_ minor sent
  · obtain ⟨minor, sent, rfl⟩ := hopens
    exact hinv.of_open minor sent h
  obtain ⟨s', hs', rfl⟩ := Option.map_eq_some_iff.mp h
  -- only an open makes a new file
  suffices hkeeps : s'.files.length = w.s.files.length ∧ OwnInv grp ⟨s', w.owner⟩ by
    rw [owner_same w hkeeps.1]
    exact hkeeps.2
  have hio : ∀ {i : ℕ} {file : File} {s₁ : DriverState G}, w.s.open_file i = some file →
      Io w.s i file s₁ → s₁.files.length = w.s.files.length ∧ OwnInv grp ⟨s₁, w.owner⟩ := by
    intro i file s₁ hfile hsame
    refine ⟨?_, hinv.of_io hfile hsame⟩
    rcases hsame.files_eq with hfiles | hfiles
    · rw [hfiles]
    · rw [hfiles, List.length_set]
  cases op with
  | plugin dev_revision early late =>
    obtain rfl := Option.some.inj hs'
    refine ⟨?_, hinv.of_plugin hgrp hfree hunused⟩
    unfold pcan_usb_plugin
    split
    · rfl
    split
    · rfl
    split <;> rfl
  | open_ minor sent => exact absurd ⟨minor, sent, rfl⟩ hopens
  | read i count wait =>
    obtain ⟨file, hfile, rfl⟩ := Option.map_eq_some_iff.mp hs'
    exact hio hfile (io_read w.s i file count wait)
  | poll i =>
    obtain ⟨file, hfile, rfl⟩ := Option.map_eq_some_iff.mp hs'
    exact hio hfile (io_poll w.s i file)
  | ioctl i cmd wait =>
    obtain ⟨file, hfile, rfl⟩ := Option.map_eq_some_iff.mp hs'
    exact hio hfile (io_ioctl w.s i file cmd wait)
  | release i sent =>
    obtain ⟨file, hfile, rfl⟩ := Option.map_eq_some_iff.mp hs'
    refine ⟨?_, hinv.of_release sent hfile hs'⟩
    unfold pcan_chardev_release_file
    split
    · exact List.length_set
    · exact List.length_set.trans (congrArg List.length (files_deref w.s _))
  | net_open f sent =>
    obtain ⟨-, heq⟩ := Option.ite_none_right_eq_some.mp hs'
    cases heq
    exact ⟨rfl, @OwnInv.of_netdev _ _ w hinv (.net_open f sent) trivial f _ hs'⟩
  | net_stop f sent =>
    obtain ⟨-, heq⟩ := Option.ite_none_right_eq_some.mp hs'
    cases heq
    exact ⟨rfl, @OwnInv.of_netdev _ _ w hinv (.net_stop f sent) trivial f _ hs'⟩
  | plugout f sent =>
    obtain ⟨hreg, heq⟩ := Option.ite_none_right_eq_some.mp hs'
    cases heq
    exact ⟨rfl, hinv.of_plugout hgrp sent hreg⟩
  | destroy f =>
    obtain ⟨hdestroy, heq⟩ := Option.ite_none_right_eq_some.mp hs'
    cases heq
    refine ⟨?_, hinv.of_destroy hdestroy⟩
    unfold destroy_usb_forwarder
    split <;> rfl

/-- A number given away under an open file leads that file to the new device at once. -/
theorem minorUnused_of_endsAtHome (hgrp : grp.Lawful) {w : Owned G} {op : Op}
    (hinv : OwnInv grp w) (h : EndsAtHome grp w op) : MinorUnused grp w op := by
  cases op with
  | plugin dev_revision early late =>
    rintro rfl rfl ⟨minor, group⟩ hmake file hmem hopen hminor
    obtain ⟨f, hpair⟩ : ∃ f, (file, f) ∈ w.s.files.zip w.owner := by
      obtain ⟨i, hi, rfl⟩ := List.getElem_of_mem hmem
      have hi' : i < w.owner.length := hinv.owned.length_eq ▸ hi
      refine ⟨w.owner[i], List.mem_iff_getElem.mpr ⟨i, ?_, List.getElem_zip⟩⟩
      rw [List.length_zip]
      omega
    have hlt := (List.forall₂_zip hinv.owned hpair).lt
    have hmake' : grp.make_item w.s.group w.s.next_forwarder = some (minor, group) := hmake
    have hplugged : pcan_usb_plugin grp dev_revision 0 0 w.s = { w.s with
        group := group
        next_forwarder := w.s.next_forwarder + 1
        forwarders := Function.update w.s.forwarders w.s.next_forwarder
          ⟨Device.plugged dev_revision, 0, ⟨minor, true, true, false⟩⟩ } := by
      unfold pcan_usb_plugin
      rw [hmake']
      rfl
    have hstep : w.step grp (.plugin dev_revision 0 0)
        = some ⟨pcan_usb_plugin grp dev_revision 0 0 w.s, w.owner⟩ := by
      have hlen : (pcan_usb_plugin grp dev_revision 0 0 w.s).files.length
          = w.s.files.length := by rw [hplugged]
      exact congrArg (fun owner => some (Owned.mk _ owner)) (owner_same w hlen)
    have hhome := h _ hstep
    rw [Owned.AtHome, hplugged] at hhome
    have hstays := List.forall₂_zip hhome hpair
    have hnew := hstays hopen w.s.next_forwarder (.inr (by
      dsimp only
      rw [hminor]
      exact hgrp.find_make hmake'))
    omega
  | _ => trivial

/-- And then, in every state reached, `stage` and `open_count` of every device that is plugged
in count its own interfaces and files, of which one file at most is open. -/
theorem plugged_devices_count (hgrp : grp.Lawful) (hfree : grp.GivesFree) (group : G)
    (hempty : ∀ minor, grp.find_item_privdata group minor = none) (ops : List Op) (w : Owned G)
    (hunused : Runs.Along (Owned.step grp) (MinorUnused grp) (Owned.loaded group) ops)
    (hrun : Runs.run (Owned.step grp) (Owned.loaded group) ops = some w) (f : ℕ)
    (hplugged : (w.s.life f).registered = true) :
    (w.s.dev f).stage = PCAN_USB_STAGE_CONNECTED
        + ((if (w.s.dev f).netif_running then 1 else 0) + w.files_of f : ℕ)
      ∧ (w.s.dev f).open_count = w.files_of f ∧ w.files_of f ≤ 1 := by
  have hinv : OwnInv grp w := Runs.run_invariant_along _ (ownInv_step hgrp hfree)
    (ownInv_loaded hempty) hunused hrun
  obtain ⟨hstage, hcount, hle⟩ := hinv.counts f hplugged
  rw [hinv.files_of_eq hplugged]
  exact ⟨hstage, hcount, hle⟩

/-! ## Other devices -/

theorem forwarders_deref (s : DriverState G) (f : ℕ) : (s.deref f).forwarders = s.forwarders := by
  unfold DriverState.deref
  split <;> rfl

/-- The stage check leaves every forwarder alone. -/
theorem forwarders_precheck (s : DriverState G) (f i : ℕ) (file : File) :
    (chrdev_op_precheck f i file s).2.forwarders = s.forwarders := by
  unfold chrdev_op_precheck
  dsimp only
  split
  · exact forwarders_deref s f
  · exact forwarders_deref s f

/-- A call counts itself in its own forwarder only. -/
theorem forwarders_pending (s : DriverState G) {f f' : ℕ} (hne : f' ≠ f)
    (op : Device → Except Int (List ChardevMsg) × Device) :
    (s.pending f op).2.forwarders f' = s.forwarders f' :=
  (Function.update_of_ne hne ..).trans
    ((Function.update_of_ne hne ..).trans (Function.update_of_ne hne ..))

/-- The operations on an open file reach the forwarder they look up, and no other. -/
theorem forwarders_io {s : DriverState G} {i : ℕ} {file : File} {f' : ℕ}
    (hother : get_usb_forwarder_from_file grp s file ≠ some f') :
    (∀ count wait, (pcan_chardev_read grp i file count wait s).2.forwarders f' = s.forwarders f')
      ∧ (pcan_chardev_poll grp i file s).2.forwarders f' = s.forwarders f'
      ∧ ∀ cmd wait, (pcan_chardev_ioctl grp i file cmd wait s).2.forwarders f'
          = s.forwarders f' := by
  unfold pcan_chardev_read pcan_chardev_poll pcan_chardev_ioctl
  cases hget : get_usb_forwarder_from_file grp s file with
  | none => exact ⟨fun _ _ => rfl, rfl, fun _ _ => rfl⟩
  | some f =>
    have hne : f' ≠ f := fun heq => hother (heq ▸ hget)
    have hcheck := congrFun (forwarders_precheck s f i file) f'
    refine ⟨fun count wait => ?_, ?_, fun cmd wait => ?_⟩
    · dsimp only
      split
      · rfl
      split
      · exact hcheck
      · exact (forwarders_pending _ hne _).trans hcheck
    · dsimp only
      split
      · exact hcheck
      · exact hcheck
    · dsimp only
      split
      · exact hcheck
      · exact (forwarders_pending _ hne _).trans hcheck

/-- What an operation is not for, it leaves as it is. -/
theorem forwarders_other {w w' : Owned G} {op : Op} (hinv : OwnInv grp w)
    (h : w.step grp op = some w') {f' : ℕ} (hother : w.target grp op ≠ some f') :
    w'.s.forwarders f' = w.s.forwarders f' := by
  obtain ⟨s', hs', rfl⟩ := Option.map_eq_some_iff.mp h
  dsimp only
  -- an open file leads to its owner, which is another one
  have haway : ∀ {i : ℕ} {file : File}, w.s.open_file i = some file → w.owner[i]? ≠ some f' →
      get_usb_forwarder_from_file grp w.s file ≠ some f'
        ∧ grp.find_item_privdata w.s.group file.minor ≠ some f' := by
    intro i file hfile hne
    obtain ⟨hi, hopen⟩ := Option.filter_eq_some_iff.mp hfile
    obtain ⟨hlt, rfl⟩ := List.getElem?_eq_some_iff.mp hi
    have hlt' : i < w.owner.length := hinv.owned.length_eq ▸ hlt
    have hpair : (w.s.files[i], w.owner[i]) ∈ w.s.files.zip w.owner := by
      refine List.mem_iff_getElem.mpr ⟨i, ?_, List.getElem_zip⟩
      rw [List.length_zip]
      omega
    have hstays := List.forall₂_zip hinv.atHome hpair
    rw [List.getElem?_eq_getElem hlt'] at hne
    exact ⟨fun hget => hne (congrArg some (hstays hopen f' (.inl hget)).symm),
      fun hfound => hne (congrArg some (hstays hopen f' (.inr hfound)).symm)⟩
  cases op with
  | plugin dev_revision early late =>
    obtain rfl := Option.some.inj hs'
    unfold pcan_usb_plugin
    split
    · rfl
    split
    · rfl
    split
    · rfl
    · exact Function.update_of_ne (fun heq => hother (congrArg some heq.symm)) ..
  | open_ minor sent =>
    obtain rfl := Option.some.inj hs'
    unfold pcan_chardev_open_file
    cases hfind : grp.find_item_privdata w.s.group minor with
    | none => rfl
    | some f =>
      have hne : f' ≠ f := fun heq => hother (heq ▸ hfind)
      dsimp only
      split <;> exact (Function.update_of_ne hne ..).trans (congrFun (forwarders_deref w.s f) f')
  | read i count wait =>
    obtain ⟨file, hfile, rfl⟩ := Option.map_eq_some_iff.mp hs'
    exact (forwarders_io (haway hfile hother).1).1 count wait
  | poll i =>
    obtain ⟨file, hfile, rfl⟩ := Option.map_eq_some_iff.mp hs'
    exact (forwarders_io (haway hfile hother).1).2.1
  | ioctl i cmd wait =>
    obtain ⟨file, hfile, rfl⟩ := Option.map_eq_some_iff.mp hs'
    exact (forwarders_io (haway hfile hother).1).2.2 cmd wait
  | release i sent =>
    obtain ⟨file, hfile, rfl⟩ := Option.map_eq_some_iff.mp hs'
    have hnot := (haway hfile hother).2
    unfold pcan_chardev_release_file
    cases hfind : grp.find_item_privdata w.s.group file.minor with
    | none => rfl
    | some f =>
      have hne : f' ≠ f := fun heq => hnot (heq ▸ hfind)
      exact (Function.update_of_ne hne ..).trans (congrFun (forwarders_deref w.s f) f')
  | net_open f sent =>
    obtain ⟨-, heq⟩ := Option.ite_none_right_eq_some.mp hs'
    cases heq
    exact Function.update_of_ne (fun heq => hother (congrArg some heq.symm)) ..
  | net_stop f sent =>
    obtain ⟨-, heq⟩ := Option.ite_none_right_eq_some.mp hs'
    cases heq
    exact Function.update_of_ne (fun heq => hother (congrArg some heq.symm)) ..
  | plugout f sent =>
    obtain ⟨-, heq⟩ := Option.ite_none_right_eq_some.mp hs'
    cases heq
    have hne : f' ≠ f := fun heq => hother (congrArg some heq.symm)
    exact (Function.update_of_ne hne ..).trans (Function.update_of_ne hne ..)
  | destroy f =>
    obtain ⟨-, heq⟩ := Option.ite_none_right_eq_some.mp hs'
    cases heq
    have hne : f' ≠ f := fun heq => hother (congrArg some heq.symm)
    unfold destroy_usb_forwarder
    split <;> exact Function.update_of_ne hne ..

end

/-! ## A group of eight minor numbers -/

/-- The table hands out numbers that are not in use. -/
theorem minor_table_givesFree : minor_table.GivesFree := by
  intro table table' f minor h
  obtain ⟨m, hm, heq⟩ := Option.map_eq_some_iff.mp h
  obtain ⟨rfl, -⟩ := Prod.mk.inj heq
  have hnone : (table m).isNone = true := @List.find?_some _ (fun m => (table m).isNone) _ _ hm
  exact Option.isNone_iff_eq_none.mp hnone

instance {G : Type} (grp : ChrdevGroup G) (w : Owned G) : DecidablePred (MinorUnused grp w)
  | .plugin _ early late => inferInstanceAs (Decidable (early = 0 → late = 0 →
      ∀ item ∈ grp.make_item w.s.group w.s.next_forwarder,
        ∀ file ∈ w.s.files, file.is_open = true → file.minor ≠ item.1))
  | .open_ _ _ | .read _ _ _ | .poll _ | .ioctl _ _ _ | .release _ _ | .net_open _ _
  | .net_stop _ _ | .plugout _ _ | .destroy _ => .isTrue trivial

/-- The file is closed before the next device comes, and gets the number. -/
def closed_in_time : List Op :=
  [.plugin 8 0 0, .open_ 0 no_error, .plugout 0 no_error, .release 0 no_error, .plugin 8 0 0,
    .open_ 0 no_error]

/-- The device that came second has the one open file. -/
theorem plugged_devices_count_closed_in_time :
    ∃ w, Runs.run (Owned.step minor_table) (Owned.loaded fun _ => none) closed_in_time = some w
      ∧ w.files_of 1 = 1
      ∧ (w.s.dev 1).stage = PCAN_USB_STAGE_CONNECTED
          + ((if (w.s.dev 1).netif_running then 1 else 0) + w.files_of 1 : ℕ)
      ∧ (w.s.dev 1).open_count = w.files_of 1 ∧ w.files_of 1 ≤ 1 := by
  obtain ⟨w, hrun, hone, hplugged⟩ :
      ∃ w, Runs.run (Owned.step minor_table) (Owned.loaded fun _ => none) closed_in_time = some w
        ∧ w.files_of 1 = 1 ∧ (w.s.life 1).registered = true :=
    Runs.exists_run_of_any (Owned.step minor_table) (by decide)
  exact ⟨w, hrun, hone, plugged_devices_count minor_table_lawful minor_table_givesFree
    (fun _ => none) (fun _ => rfl) closed_in_time w (by decide) hrun 1 hplugged⟩

/-- Two devices, each with a file; closing the second file is nothing to the first device. -/
def two_devices : List Op :=
  [.plugin 8 0 0, .plugin 8 0 0, .open_ 0 no_error, .open_ 1 no_error]

/-- The file is still open when the next device gets the number: closing it takes from the new
device's counts, and its commands are refused from then on. -/
def closed_too_late : List Op :=
  [.plugin 8 0 0, .open_ 0 no_error, .plugout 0 no_error, .plugin 8 0 0, .release 0 no_error]

example : ∃ w,
    Runs.run (Owned.step minor_table) (Owned.loaded fun _ => none) closed_too_late = some w
      ∧ (w.s.life 1).registered = true ∧ (w.s.dev 1).stage = PCAN_USB_STAGE_DISCONNECTED
      ∧ (w.s.dev 1).open_count = -1 :=
  Runs.exists_run_of_any (Owned.step minor_table) (by decide)

end DualPcanUsb
