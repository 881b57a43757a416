/-
What `stage` and `open_count` say between whole operations.

On a plugged device `stage` is `CONNECTED` and one for each open interface, `open_count` the
number of open files, and the bus is switched by the first open and the last close. The law
is one about a device and a number of files; the driver's operations are brought to it by
what they are to one forwarder. Unplugged, a device has no stage left, and whatever still
comes takes it further down.
-/
import DualPcanUsb.WholeOperations
import DualPcanUsb.UseAfterFree
import DualPcanUsb.Commands

set_option autoImplicit false

namespace DualPcanUsb

/-! ## One device -/

/-- The number of open interfaces, with that of open files given. -/
def Device.open_interfaces (d : Device) (open_files : ℕ) : ℕ :=
  (if d.netif_running then 1 else 0) + open_files

structure Device.Counts (d : Device) (open_files : ℕ) : Prop where
  stage_eq : d.stage = PCAN_USB_STAGE_CONNECTED + d.open_interfaces open_files
  open_count_eq : d.open_count = open_files
  open_files_le : open_files ≤ 1

/-- An open or close, and what its steps return. -/
inductive Use
  | open_ (iface : Iface) (sent : ℕ → Int)
  | close (iface : Iface) (sent : ℕ → Int)

/-- The interface, the results, the first phase, and what the kernel does to the device
before it. -/
def Use.start : Use → Iface × (ℕ → Int) × Phase × (Device → Device)
  | .open_ .chardev sent => (.chardev, sent, .inc_open_count, id)
  | .open_ .netdev sent => (.netdev, sent, .open_candev, (Device.set_netif_running · true))
  | .close .chardev sent => (.chardev, sent, .dec_open_count, id)
  | .close .netdev sent => (.netdev, sent, .dec_stage, (Device.set_netif_running · false))

def Use.perform (use : Use) (d : Device) : Phase × Device :=
  let (iface, sent, phase, prepare) := use.start
  DualPcanUsb.perform iface sent operation_fuel phase (prepare d)

/-- The commands it issues. -/
def Use.issued (use : Use) (d : Device) : List (Phase × Int) :=
  let (iface, sent, phase, prepare) := use.start
  DualPcanUsb.issued iface sent operation_fuel phase (prepare d)

/-- The use finds the device as the kernel has it: a network interface is started while it
is down and stopped while it is up, a file closed while it is open. -/
def Use.Possible (d : Device) (open_files : ℕ) : Use → Prop
  | .open_ .chardev _ => True
  | .open_ .netdev _ => d.netif_running = false
  | .close .chardev _ => 0 < open_files
  | .close .netdev _ => d.netif_running = true

/-- The number of open files behind it. -/
def Use.open_files (use : Use) (d : Device) (open_files : ℕ) : ℕ :=
  match use with
  | .open_ .chardev _ => if (use.perform d).1 = .opened then open_files + 1 else open_files
  | .close .chardev _ => open_files - 1
  | .open_ .netdev _ | .close .netdev _ => open_files

/-- An open that does not get as far as `stage`: a second file, or a network interface
whose `open_candev` fails. -/
def Use.TurnedAway (d : Device) : Use → Prop
  | .open_ .chardev _ => d.open_count + 1 > 1
  | .open_ .netdev sent => sent 7 ≠ 0
  | .close _ _ => False

/-- An open succeeds and one more interface is open, or fails and has changed neither
count. It issues the start sequence if it is accepted while none is open. -/
structure OpenLaw (use : Use) (d : Device) (open_files : ℕ) : Prop where
  success : (use.perform d).1.ret = 0 →
    (use.perform d).2.open_interfaces (use.open_files d open_files)
      = d.open_interfaces open_files + 1
  failure : (use.perform d).1.ret ≠ 0 →
    (use.perform d).2.open_interfaces (use.open_files d open_files) = d.open_interfaces open_files
      ∧ (use.perform d).2.stage = d.stage ∧ (use.perform d).2.open_count = d.open_count
  starts : d.open_interfaces open_files = 0 → ¬ use.TurnedAway d →
    UpToFailure d.start_sequence (use.issued d)
  silent : d.open_interfaces open_files ≠ 0 ∨ use.TurnedAway d → use.issued d = []

/-- A close issues the bus-off sequence if it leaves no interface open. -/
structure CloseLaw (use : Use) (d : Device) (open_files : ℕ) : Prop where
  closed : d.open_interfaces open_files
    = (use.perform d).2.open_interfaces (use.open_files d open_files) + 1
  switches_off : (use.perform d).2.open_interfaces (use.open_files d open_files) = 0 →
    UpToFailure bus_off_sequence (use.issued d)
  silent : (use.perform d).2.open_interfaces (use.open_files d open_files) ≠ 0 →
    use.issued d = []

def Use.Law (d : Device) (open_files : ℕ) (use : Use) : Prop :=
  match use with
  | .open_ _ _ => OpenLaw use d open_files
  | .close _ _ => CloseLaw use d open_files

/-! ### Opens -/

/-- How an open ends, in counts. -/
inductive OpenEnds (use : Use) (d : Device) (open_files : ℕ) : Prop
  | opened (hret : (use.perform d).1.ret = 0) (hstage : (use.perform d).2.stage = d.stage + 1)
      (husers : (use.perform d).2.open_interfaces (use.open_files d open_files)
        = d.open_interfaces open_files + 1)
      (hcount : (use.perform d).2.open_count = use.open_files d open_files)
      (hle : use.open_files d open_files ≤ 1)
  | failed (hret : (use.perform d).1.ret ≠ 0) (hstage : (use.perform d).2.stage = d.stage)
      (husers : (use.perform d).2.open_interfaces (use.open_files d open_files)
        = d.open_interfaces open_files)
      (hcount : (use.perform d).2.open_count = d.open_count)
      (hfiles : use.open_files d open_files = open_files)

/-- The commands of an open. -/
structure OpenCommands (use : Use) (d : Device) (open_files : ℕ) : Prop where
  starts : d.open_interfaces open_files = 0 → ¬ use.TurnedAway d →
    UpToFailure d.start_sequence (use.issued d)
  silent : d.open_interfaces open_files ≠ 0 ∨ use.TurnedAway d → use.issued d = []

/-- What an open leaves behind and what it commands, together, is the law for opens. -/
theorem OpenEnds.law {use : Use} {d : Device} {open_files : ℕ} (hends : OpenEnds use d open_files)
    (hcounts : d.Counts open_files) (hcommands : OpenCommands use d open_files) :
    OpenLaw use d open_files ∧ (use.perform d).2.Counts (use.open_files d open_files) := by
  obtain ⟨hstage₀, hcount₀, hle₀⟩ := hcounts
  obtain ⟨hstarts, hsilent⟩ := hcommands
  cases hends with
  | opened hret hstage husers hcount hle =>
    refine ⟨⟨fun _ => husers, fun hne => absurd hret hne, hstarts, hsilent⟩, ?_, hcount, hle⟩
    rw [hstage, hstage₀, husers, Nat.cast_add, Nat.cast_one, add_assoc]
  | failed hret hstage husers hcount hfiles =>
    refine ⟨⟨fun hzero => absurd hzero hret, fun _ => ⟨husers, hstage, hcount⟩, hstarts, hsilent⟩,
      ?_, ?_, ?_⟩
    · rw [hstage, hstage₀, husers]
    · rw [hcount, hcount₀, hfiles]
    · rw [hfiles]
      exact hle₀

/-- From `atomic_inc_return` on, the number of open interfaces decides. -/
theorem issued_inc_stage (iface : Iface) (sent : ℕ → Int) {d : Device} {users : ℕ}
    (hstage : d.stage = PCAN_USB_STAGE_CONNECTED + users) :
    (users = 0 → UpToFailure d.start_sequence (issued iface sent 7 .inc_stage d))
      ∧ (users ≠ 0 → issued iface sent 7 .inc_stage d = []) := by
  have hstage' : d.stage = 1 + (users : Int) := hstage
  constructor
  · intro hnone
    refine issued_starting iface sent 6 (by decide) (?_ : ¬ d.stage + 1 > 2)
    omega
  · intro hother
    refine issued_joining iface sent 6 (?_ : d.stage + 1 > 2)
    omega

/-- A file is opened if none is, and turned away otherwise. -/
theorem chardev_open_ends (sent : ℕ → Int) {d : Device} {open_files : ℕ}
    (hcounts : d.Counts open_files) : OpenEnds (.open_ .chardev sent) d open_files := by
  obtain ⟨hstage, hcount, hle⟩ := hcounts
  set use : Use := .open_ .chardev sent with huse
  have hperform : use.perform d = perform .chardev sent operation_fuel .inc_open_count d := rfl
  have hfiles : use.open_files d open_files
    = if (use.perform d).1 = .opened then open_files + 1 else open_files := rfl
  have hrunning := perform_chardev_running sent operation_fuel .inc_open_count d
  have hdue := perform_stage_due .chardev sent operation_fuel .inc_open_count d
  have hcdue := perform_count_due sent operation_fuel .inc_open_count d
  rcases open_ends .chardev sent .inc_open_count d rfl trivial with hopened | ⟨err, herr, hfailed⟩
  · -- it was not turned away, so no file was open
    have hone : open_files = 0 := by
      by_contra hne
      have hfull : d.open_count + 1 > 1 := by omega
      cases hopened.symm.trans (chardev_open_rejected sent hfull).1
    rw [hopened] at hdue hcdue
    rw [← hperform] at hrunning hdue hcdue hopened
    have hdue' : (use.perform d).2.stage - 1 = d.stage - 0 := hdue
    have hcdue' : (use.perform d).2.open_count - 1 = d.open_count - 0 := hcdue
    rw [if_pos hopened] at hfiles
    refine .opened ?_ (by omega) ?_ ?_ ?_
    · rw [hopened]
      rfl
    · unfold Device.open_interfaces
      rw [hfiles, hrunning]
      rfl
    · rw [hfiles]
      push_cast
      omega
    · rw [hfiles, hone]
  · rw [hfailed] at hdue hcdue
    rw [← hperform] at hrunning hdue hcdue hfailed
    have hdue' : (use.perform d).2.stage - 0 = d.stage - 0 := hdue
    have hcdue' : (use.perform d).2.open_count - 0 = d.open_count - 0 := hcdue
    have hclosed : ¬ (use.perform d).1 = .opened := by
      rw [hfailed]
      nofun
    rw [if_neg hclosed] at hfiles
    refine .failed ?_ (by omega) ?_ (by omega) hfiles
    · rw [hfailed]
      exact herr
    · unfold Device.open_interfaces
      rw [hfiles, hrunning]

/-- The commands go out exactly if nothing was open before. -/
theorem chardev_open_commands (sent : ℕ → Int) {d : Device} {open_files : ℕ}
    (hcounts : d.Counts open_files) : OpenCommands (.open_ .chardev sent) d open_files := by
  by_cases hfull : d.open_count + 1 > 1
  · exact ⟨fun _ haccepted => absurd hfull haccepted,
      fun _ => (chardev_open_rejected sent hfull).2⟩
  · obtain ⟨d', hsame, hrevision, heq⟩ := issued_chardev_open sent hfull
    have heq' : (Use.open_ .chardev sent).issued d = issued .chardev sent 7 .inc_stage d' := heq
    have hseq : d'.start_sequence = d.start_sequence := by
      unfold Device.start_sequence
      rw [hrevision]
    obtain ⟨hstarts, hsilent⟩ :=
      issued_inc_stage .chardev sent (hsame.trans hcounts.stage_eq)
    refine ⟨fun hnone _ => ?_, fun hother => ?_⟩
    · rw [heq', ← hseq]
      exact hstarts hnone
    · rw [heq']
      exact hsilent (hother.resolve_right hfull)

/-- The network interface comes up, or what was done is undone. -/
theorem netdev_open_ends (sent : ℕ → Int) {d : Device} {open_files : ℕ}
    (hcounts : d.Counts open_files) (hdown : d.netif_running = false) :
    OpenEnds (.open_ .netdev sent) d open_files := by
  obtain ⟨hstage, hcount, hle⟩ := hcounts
  set use : Use := .open_ .netdev sent with huse
  have hperform : use.perform d
    = perform .netdev sent operation_fuel .open_candev (d.set_netif_running true) := rfl
  have hfiles : use.open_files d open_files = open_files := rfl
  have hrunning := perform_netdev_running sent operation_fuel .open_candev
    (d.set_netif_running true) rfl
  have hdue := perform_stage_due .netdev sent operation_fuel .open_candev
    (d.set_netif_running true)
  have hcdev := perform_netdev_char_dev sent operation_fuel .open_candev
    (d.set_netif_running true)
  have hends := open_ends .netdev sent .open_candev (d.set_netif_running true) rfl trivial
  rw [← hperform] at hrunning hdue hcdev hends
  have hcount' : (use.perform d).2.open_count = d.open_count :=
    congrArg Chardev.open_count hcdev
  rcases hends with hopened | ⟨err, herr, hfailed⟩
  · rw [hopened] at hdue hrunning
    have hdue' : (use.perform d).2.stage - 1 = d.stage - 0 := hdue
    have hup : (use.perform d).2.netif_running = true := hrunning
    refine .opened ?_ (by omega) ?_ (hcount'.trans hcount) hle
    · rw [hopened]
      rfl
    · unfold Device.open_interfaces
      rw [hfiles, hup, hdown, if_pos rfl, if_neg (by decide)]
      omega
  · rw [hfailed] at hdue hrunning
    have hdue' : (use.perform d).2.stage - 0 = d.stage - 0 := hdue
    have hstill : (use.perform d).2.netif_running = false := hrunning
    refine .failed ?_ (by omega) ?_ hcount' rfl
    · rw [hfailed]
      exact herr
    · unfold Device.open_interfaces
      rw [hfiles, hstill, hdown]

/-- The commands of the network interface's open go out exactly if nothing was open before. -/
theorem netdev_open_commands (sent : ℕ → Int) {d : Device} {open_files : ℕ}
    (hcounts : d.Counts open_files) : OpenCommands (.open_ .netdev sent) d open_files := by
  by_cases herr : sent 7 = 0
  · have heq : (Use.open_ .netdev sent).issued d
        = issued .netdev sent 7 .inc_stage (d.set_netif_running true) :=
      issued_net_open sent (d.set_netif_running true) herr
    obtain ⟨hstarts, hsilent⟩ :=
      @issued_inc_stage .netdev sent (d.set_netif_running true) _ hcounts.stage_eq
    refine ⟨fun hnone _ => ?_, fun hother => ?_⟩
    · rw [heq]
      exact hstarts hnone
    · rw [heq]
      exact hsilent (hother.resolve_right (not_not_intro herr))
  · exact ⟨fun _ haccepted => absurd herr haccepted,
      fun _ => (net_open_rejected sent (d.set_netif_running true) herr).2⟩

/-! ### Closes -/

/-- How a close ends, in counts. -/
structure CloseEnds (use : Use) (d : Device) (open_files : ℕ) : Prop where
  stage_eq : (use.perform d).2.stage = d.stage - 1
  users_eq : d.open_interfaces open_files
    = (use.perform d).2.open_interfaces (use.open_files d open_files) + 1
  count_eq : (use.perform d).2.open_count = use.open_files d open_files
  le : use.open_files d open_files ≤ 1

/-- From `atomic_dec_return` on, the number of interfaces left decides. -/
theorem issued_dec_stage (iface : Iface) (sent : ℕ → Int) (fuel : ℕ) (hfuel : 2 ≤ fuel)
    {d : Device} {users : ℕ} (hstage : d.stage = PCAN_USB_STAGE_CONNECTED + (users + 1 : ℕ)) :
    (users = 0 → UpToFailure bus_off_sequence (issued iface sent (fuel + 1) .dec_stage d))
      ∧ (users ≠ 0 → issued iface sent (fuel + 1) .dec_stage d = []) := by
  have hstage' : d.stage = 1 + ((users + 1 : ℕ) : Int) := hstage
  constructor
  · intro hnone
    refine issued_last iface sent fuel hfuel (?_ : d.stage - 1 < 2)
    omega
  · intro hother
    refine issued_leaving iface sent fuel (?_ : ¬ d.stage - 1 < 2)
    omega

/-- What a close leaves behind and what it commands, together, is the law for closes. -/
theorem CloseEnds.law {use : Use} {d d' : Device} {open_files : ℕ} {iface : Iface}
    {sent : ℕ → Int} {fuel : ℕ} (hends : CloseEnds use d open_files)
    (hcounts : d.Counts open_files) (hfuel : 2 ≤ fuel) (hsame : d'.stage = d.stage)
    (hissued : use.issued d = issued iface sent (fuel + 1) .dec_stage d') :
    CloseLaw use d open_files ∧ (use.perform d).2.Counts (use.open_files d open_files) := by
  obtain ⟨hstage, husers, hcount, hle⟩ := hends
  have hstage₀ := hcounts.stage_eq
  rw [husers] at hstage₀
  obtain ⟨hlast, hother⟩ := issued_dec_stage iface sent fuel hfuel (hsame.trans hstage₀)
  rw [← hissued] at hlast hother
  refine ⟨⟨husers, hlast, hother⟩, ?_, hcount, hle⟩
  rw [hstage, hstage₀]
  push_cast
  ring

/-- A release gives back the one open file. -/
theorem chardev_release_ends (sent : ℕ → Int) {d : Device} {open_files : ℕ}
    (hcounts : d.Counts open_files) (hopen : 0 < open_files) :
    CloseEnds (.close .chardev sent) d open_files := by
  obtain ⟨hstage, hcount, hle⟩ := hcounts
  set use : Use := .close .chardev sent with huse
  have hperform : use.perform d = perform .chardev sent operation_fuel .dec_open_count d := rfl
  have hfiles : use.open_files d open_files = open_files - 1 := rfl
  have hrunning := perform_chardev_running sent operation_fuel .dec_open_count d
  have hdue := perform_stage_due .chardev sent operation_fuel .dec_open_count d
  have hcdue := perform_count_due sent operation_fuel .dec_open_count d
  obtain ⟨ret, hend⟩ := close_ends .chardev sent .dec_open_count d rfl trivial
  rw [hend] at hdue hcdue
  rw [← hperform] at hrunning hdue hcdue
  have hdue' : (use.perform d).2.stage - 0 = d.stage - 1 := hdue
  have hcdue' : (use.perform d).2.open_count - 0 = d.open_count - 1 := hcdue
  refine ⟨by omega, ?_, by rw [hfiles]; omega, by rw [hfiles]; omega⟩
  unfold Device.open_interfaces
  rw [hfiles, hrunning]
  omega

/-- A stop takes the network interface down. -/
theorem netdev_stop_ends (sent : ℕ → Int) {d : Device} {open_files : ℕ}
    (hcounts : d.Counts open_files) (hup : d.netif_running = true) :
    CloseEnds (.close .netdev sent) d open_files := by
  obtain ⟨hstage, hcount, hle⟩ := hcounts
  set use : Use := .close .netdev sent with huse
  have hperform : use.perform d
    = perform .netdev sent operation_fuel .dec_stage (d.set_netif_running false) := rfl
  have hfiles : use.open_files d open_files = open_files := rfl
  have hrunning := perform_netdev_running sent operation_fuel .dec_stage
    (d.set_netif_running false) rfl
  have hdue := perform_stage_due .netdev sent operation_fuel .dec_stage
    (d.set_netif_running false)
  have hcdev := perform_netdev_char_dev sent operation_fuel .dec_stage
    (d.set_netif_running false)
  obtain ⟨ret, hend⟩ := close_ends .netdev sent .dec_stage (d.set_netif_running false) trivial trivial
  rw [hend] at hdue hrunning
  rw [← hperform] at hrunning hdue hcdev
  have hdue' : (use.perform d).2.stage - 0 = d.stage - 1 := hdue
  have hdown : (use.perform d).2.netif_running = false := hrunning
  have hcount' : (use.perform d).2.open_count = d.open_count :=
    congrArg Chardev.open_count hcdev
  refine ⟨by omega, ?_, hcount'.trans hcount, hle⟩
  unfold Device.open_interfaces
  rw [hfiles, hdown, hup, if_pos rfl, if_neg (by decide)]
  omega

/-- Each open and close keeps the counts right, and issues what it has to. -/
theorem use_law (use : Use) {d : Device} {open_files : ℕ} (hcounts : d.Counts open_files)
    (hpossible : use.Possible d open_files) :
    use.Law d open_files ∧ (use.perform d).2.Counts (use.open_files d open_files) := by
  match use, hpossible with
  | .open_ .chardev sent, _ =>
    exact (chardev_open_ends sent hcounts).law hcounts (chardev_open_commands sent hcounts)
  | .open_ .netdev sent, hdown =>
    exact (netdev_open_ends sent hcounts hdown).law hcounts (netdev_open_commands sent hcounts)
  | .close .chardev sent, hopen =>
    have hstage : (d.set_open_count (d.open_count - 1)).stage = d.stage := rfl
    exact (chardev_release_ends sent hcounts hopen).law hcounts (by decide : 2 ≤ 6) hstage
      (issued_chardev_release sent d)
  | .close .netdev sent, hup =>
    have hstage : (d.set_netif_running false).stage = d.stage := rfl
    have hissued : (Use.close .netdev sent).issued d
      = issued .netdev sent (7 + 1) .dec_stage (d.set_netif_running false) := rfl
    exact (netdev_stop_ends sent hcounts hup).law hcounts (by decide : 2 ≤ 7) hstage hissued

/-! ## The driver's operations on one forwarder -/

section

variable {G : Type} (grp : ChrdevGroup G)

/-- The file is open, and one of the forwarder `f`. -/
def DriverState.is_file_of (s : DriverState G) (f : ℕ) (file : File) : Bool :=
  file.is_open ∧ grp.find_item_privdata s.group file.minor = some f

def DriverState.open_files (s : DriverState G) (f : ℕ) : ℕ :=
  s.files.countP (s.is_file_of grp f)

/-- `stage` and `open_count` of `f` count its open interfaces and files. -/
def DriverState.Counts (s : DriverState G) (f : ℕ) : Prop :=
  (s.dev f).Counts (s.open_files grp f)

/-- What an operation is to the forwarder `f`. -/
def DriverState.use_of (s : DriverState G) (f : ℕ) : Op → Option Use
  | .open_ minor sent =>
    if grp.find_item_privdata s.group minor = some f then some (.open_ .chardev sent) else none
  | .release i sent =>
    match s.open_file i with
    | some file =>
      if grp.find_item_privdata s.group file.minor = some f then some (.close .chardev sent)
      else none
    | none => none
  | .net_open f' sent => if f' = f then some (.open_ .netdev sent) else none
  | .net_stop f' sent => if f' = f then some (.close .netdev sent) else none
  | _ => none

/-- Opens and closes of either interface. -/
def Op.is_use : Op → Prop
  | .open_ _ _ | .release _ _ | .net_open _ _ | .net_stop _ _ => True
  | _ => False

/-- What an open or close does to a forwarder: it is a use of it, or passes it by. -/
structure Uses (s : DriverState G) (f : ℕ) (op : Op) (s' : DriverState G) : Prop where
  group_eq : s'.group = s.group
  passes : s.use_of grp f op = none →
    s'.dev f = s.dev f ∧ s'.open_files grp f = s.open_files grp f
  uses : ∀ use, s.use_of grp f op = some use →
    use.Possible (s.dev f) (s.open_files grp f) ∧ s'.dev f = (use.perform (s.dev f)).2
      ∧ s'.open_files grp f = use.open_files (s.dev f) (s.open_files grp f)

variable {grp}

@[simp] theorem dev_deref (s : DriverState G) (f f' : ℕ) : (s.deref f').dev f = s.dev f := by
  unfold DriverState.deref
  split <;> rfl

@[simp] theorem files_deref (s : DriverState G) (f' : ℕ) : (s.deref f').files = s.files := by
  unfold DriverState.deref
  split <;> rfl

@[simp] theorem group_deref (s : DriverState G) (f' : ℕ) : (s.deref f').group = s.group := by
  unfold DriverState.deref
  split <;> rfl

/-- A file more counts for the device it is of. -/
theorem open_files_concat {s s' : DriverState G} {file : File} (f : ℕ)
    (hgroup : s'.group = s.group) (hfiles : s'.files = s.files ++ [file]) :
    s'.open_files grp f = s.open_files grp f + if s.is_file_of grp f file then 1 else 0 := by
  unfold DriverState.open_files
  have hsame : s'.is_file_of grp f = s.is_file_of grp f := by
    unfold DriverState.is_file_of
    rw [hgroup]
  rw [hfiles, hsame, List.countP_append, List.countP_singleton]

/-- The number of open files is a matter of the group and the table. -/
theorem open_files_same {s s' : DriverState G} (f : ℕ) (hgroup : s'.group = s.group)
    (hfiles : s'.files = s.files) : s'.open_files grp f = s.open_files grp f := by
  unfold DriverState.open_files DriverState.is_file_of
  rw [hgroup, hfiles]

/-- Closing a file takes it from its forwarder's, and from no other's. -/
theorem open_files_close {s s' : DriverState G} {i : ℕ} {file file' : File} (f : ℕ)
    (hfile : s.open_file i = some file) (hgroup : s'.group = s.group)
    (hfiles : s'.files = s.files.set i file') (hclosed : file'.is_open = false) :
    s.open_files grp f = s'.open_files grp f + if s.is_file_of grp f file then 1 else 0 := by
  obtain ⟨hi, -⟩ := Option.filter_eq_some_iff.mp hfile
  have hsame : s'.is_file_of grp f = s.is_file_of grp f := by
    unfold DriverState.is_file_of
    rw [hgroup]
  have hnot : s.is_file_of grp f file' = false := by
    unfold DriverState.is_file_of
    rw [hclosed]
    simp
  have hcount := Roles.countP_set (s.is_file_of grp f) hi file'
  rw [hnot] at hcount
  unfold DriverState.open_files
  rw [hfiles, hsame]
  exact hcount.symm

/-- An open that finds `f'` performs on it, and leaves a file if it succeeds. -/
theorem open_file_effect {s : DriverState G} {minor f' : ℕ} (sent : ℕ → Int)
    (hfind : grp.find_item_privdata s.group minor = some f') :
    let s' := (pcan_chardev_open_file grp minor sent s).2
    let done := perform .chardev sent operation_fuel .inc_open_count (s.dev f')
    s'.group = s.group ∧ (∀ f, s'.dev f = if f = f' then done.2 else s.dev f)
      ∧ s'.files
        = if done.1 = .opened then s.files ++ [⟨minor, some f', true⟩] else s.files := by
  dsimp only
  unfold pcan_chardev_open_file
  rw [hfind]
  dsimp only
  rw [dev_deref]
  by_cases hopened :
      (perform .chardev sent operation_fuel .inc_open_count (s.dev f')).1 = .opened
  · rw [if_pos hopened, if_pos hopened]
    refine ⟨group_deref s f', fun f => ?_, congrArg (· ++ _) (files_deref s f')⟩
    exact (dev_set_dev _ f' f _).trans (by rw [dev_deref])
  · rw [if_neg hopened, if_neg hopened]
    refine ⟨group_deref s f', fun f => ?_, files_deref s f'⟩
    exact (dev_set_dev _ f' f _).trans (by rw [dev_deref])

/-- A release is performed on the device the number stands for, and closes the file. -/
theorem release_file_effect {s : DriverState G} {i f' : ℕ} {file : File} (sent : ℕ → Int)
    (hfind : grp.find_item_privdata s.group file.minor = some f') :
    let s' := pcan_chardev_release_file grp i file sent s
    s'.group = s.group
      ∧ (∀ f, s'.dev f = if f = f' then
          (perform .chardev sent operation_fuel .dec_open_count (s.dev f')).2 else s.dev f)
      ∧ s'.files = s.files.set i { file with private_data := none, is_open := false } := by
  dsimp only
  unfold pcan_chardev_release_file
  rw [hfind]
  dsimp only
  rw [dev_deref]
  refine ⟨group_deref s f', fun f => ?_, congrArg (List.set · i _) (files_deref s f')⟩
  exact (dev_set_dev _ f' f _).trans (by rw [dev_deref])

/-- An open of the driver is an open of one device at most. -/
theorem uses_open {s : DriverState G} (f minor : ℕ) (sent : ℕ → Int) :
    Uses grp s f (.open_ minor sent) (pcan_chardev_open_file grp minor sent s).2 := by
  cases hfind : grp.find_item_privdata s.group minor with
  | none =>
    have hsame : (pcan_chardev_open_file grp minor sent s).2 = s := by
      unfold pcan_chardev_open_file
      rw [hfind]
    have hnone : s.use_of grp f (.open_ minor sent) = none := by
      rw [DriverState.use_of, hfind]
      rfl
    rw [hsame]
    refine ⟨rfl, fun _ => ⟨rfl, rfl⟩, fun use huse => ?_⟩
    rw [hnone] at huse
    cases huse
  | some f' =>
    obtain ⟨hgroup, hdev, hfiles⟩ := open_file_effect sent hfind
    by_cases hf : f' = f
    · subst hf
      have hopen : s.use_of grp f' (.open_ minor sent) = some (.open_ .chardev sent) := by
        rw [DriverState.use_of, if_pos hfind]
      refine ⟨hgroup, fun hnone => ?_, fun use huse => ?_⟩
      · rw [hopen] at hnone
        cases hnone
      · rw [hopen] at huse
        cases huse
        refine ⟨trivial, (hdev f').trans (if_pos rfl), ?_⟩
        rw [Use.open_files]
        change _ = if (perform .chardev sent operation_fuel .inc_open_count (s.dev f')).1 = .opened
          then _ else _
        split
        · rename_i hopened
          rw [if_pos hopened] at hfiles
          have hmine : s.is_file_of grp f' ⟨minor, some f', true⟩ = true := by
            unfold DriverState.is_file_of
            simpa using hfind
          rw [open_files_concat f' hgroup hfiles, if_pos hmine]
        · rename_i hclosed
          rw [if_neg hclosed] at hfiles
          exact open_files_same f' hgroup hfiles
    · have hnone : s.use_of grp f (.open_ minor sent) = none := by
        rw [DriverState.use_of, hfind, if_neg]
        exact fun h => hf (Option.some.inj h)
      refine ⟨hgroup, fun _ => ⟨(hdev f).trans (if_neg (Ne.symm hf)), ?_⟩, fun use huse => ?_⟩
      · split at hfiles
        · have hother : s.is_file_of grp f ⟨minor, some f', true⟩ = false := by
            unfold DriverState.is_file_of
            simpa [hfind] using hf
          rw [open_files_concat f hgroup hfiles, hother]
          rfl
        · exact open_files_same f hgroup hfiles
      · rw [hnone] at huse
        cases huse

/-- A release of the driver is a release of one device at most. -/
theorem uses_release {s : DriverState G} (f : ℕ) {i : ℕ} {file : File} (sent : ℕ → Int)
    (hfile : s.open_file i = some file) :
    Uses grp s f (.release i sent) (pcan_chardev_release_file grp i file sent s) := by
  have hopen : file.is_open = true := (open_file_eq_some hfile).2
  have huse : s.use_of grp f (.release i sent)
      = if grp.find_item_privdata s.group file.minor = some f then some (.close .chardev sent)
        else none := by
    rw [DriverState.use_of, hfile]
  have hmine : s.is_file_of grp f file = true
      ↔ grp.find_item_privdata s.group file.minor = some f := by
    unfold DriverState.is_file_of
    simp [hopen]
  rw [← if_congr hmine rfl rfl] at huse
  cases hfind : grp.find_item_privdata s.group file.minor with
  | none =>
    have hset : pcan_chardev_release_file grp i file sent s
        = s.set_file i { file with is_open := false } := by
      unfold pcan_chardev_release_file
      rw [hfind]
    have hnot : ¬ s.is_file_of grp f file = true := by
      rw [hmine, hfind]
      nofun
    have hclose := @open_files_close G grp s (s.set_file i { file with is_open := false }) i file
      _ f hfile rfl rfl rfl
    rw [hset]
    rw [if_neg hnot] at huse hclose
    refine ⟨rfl, fun _ => ⟨rfl, hclose.symm⟩, fun use h => ?_⟩
    rw [huse] at h
    cases h
  | some f' =>
    obtain ⟨hgroup, hdev, hfiles⟩ := release_file_effect (i := i) sent hfind
    have hclose := @open_files_close G grp s (pcan_chardev_release_file grp i file sent s) i file
      _ f hfile hgroup hfiles rfl
    by_cases hf : f' = f
    · subst hf
      rw [if_pos (hmine.mpr hfind)] at huse hclose
      refine ⟨hgroup, fun hnone => ?_, fun use h => ?_⟩
      · rw [huse] at hnone
        cases hnone
      · rw [huse] at h
        cases h
        refine ⟨?_, (hdev f').trans (if_pos rfl), ?_⟩
        · change 0 < s.open_files grp f'
          omega
        · change _ = s.open_files grp f' - 1
          omega
    · have hnot : ¬ s.is_file_of grp f file = true := by
        rw [hmine, hfind]
        exact fun h => hf (Option.some.inj h)
      rw [if_neg hnot] at huse hclose
      refine ⟨hgroup, fun _ => ⟨(hdev f).trans (if_neg (Ne.symm hf)), hclose.symm⟩,
        fun use h => ?_⟩
      rw [huse] at h
      cases h

/-- A network interface's operation is a use of its own forwarder. -/
theorem uses_netdev {s : DriverState G} (f f' : ℕ) {op : Op} {use : Use} {dev : Device}
    (hop : s.use_of grp f op = if f' = f then some use else none)
    (hpossible : use.Possible (s.dev f') (s.open_files grp f'))
    (hdev : dev = (use.perform (s.dev f')).2)
    (hfiles : ∀ d n, use.open_files d n = n) : Uses grp s f op (s.set_dev f' dev) := by
  have hsame : (s.set_dev f' dev).open_files grp f = s.open_files grp f :=
    open_files_same f rfl rfl
  by_cases hf : f' = f
  · subst hf
    rw [if_pos rfl] at hop
    refine ⟨rfl, fun hnone => ?_, fun use' huse => ?_⟩
    · rw [hop] at hnone
      cases hnone
    · rw [hop] at huse
      cases huse
      refine ⟨hpossible, ?_, hsame.trans (hfiles _ _).symm⟩
      rw [dev_set_dev, if_pos rfl, hdev]
  · rw [if_neg hf] at hop
    refine ⟨rfl, fun _ => ⟨?_, hsame⟩, fun use' huse => ?_⟩
    · rw [dev_set_dev, if_neg (Ne.symm hf)]
    · rw [hop] at huse
      cases huse

/-- Each use, by the device it is for. -/
theorem uses_step {s s' : DriverState G} (f : ℕ) {op : Op} (hop : op.is_use)
    (h : s.step grp op = some s') : Uses grp s f op s' := by
  cases op with
  | open_ minor sent =>
    cases h
    exact uses_open f minor sent
  | release i sent =>
    obtain ⟨file, hfile, rfl⟩ := Option.map_eq_some_iff.mp h
    exact uses_release f sent hfile
  | net_open f' sent =>
    rw [DriverState.step] at h
    obtain ⟨⟨-, hdown, -⟩, heq⟩ := Option.ite_none_right_eq_some.mp h
    cases heq
    exact uses_netdev f f' rfl (Bool.eq_false_iff.mpr hdown) rfl fun _ _ => rfl
  | net_stop f' sent =>
    rw [DriverState.step] at h
    obtain ⟨⟨-, hup⟩, heq⟩ := Option.ite_none_right_eq_some.mp h
    cases heq
    exact uses_netdev f f' rfl hup rfl fun _ _ => rfl
  | plugin | read | poll | ioctl | plugout | destroy => cases hop

/-- A use of a plugged device goes by the law, and the counts stay right. -/
theorem counts_use {s s' : DriverState G} {f : ℕ} {op : Op} (hcounts : s.Counts grp f)
    (hop : op.is_use) (h : s.step grp op = some s') {use : Use}
    (huse : s.use_of grp f op = some use) :
    use.Law (s.dev f) (s.open_files grp f) ∧ s'.Counts grp f := by
  obtain ⟨hpossible, hdev, hfiles⟩ := (uses_step f hop h).uses use huse
  obtain ⟨hlaw, hcounts'⟩ := use_law use hcounts hpossible
  refine ⟨hlaw, ?_⟩
  rw [DriverState.Counts, hdev, hfiles]
  exact hcounts'

/-- Every use of the driver keeps the counts of every device. -/
theorem counts_step {f : ℕ} (s : DriverState G) (op : Op) (s' : DriverState G)
    (hcounts : s.Counts grp f) (hop : op.is_use) (h : s.step grp op = some s') :
    s'.Counts grp f := by
  cases huse : s.use_of grp f op with
  | none =>
    obtain ⟨hdev, hfiles⟩ := (uses_step f hop h).passes huse
    rw [DriverState.Counts, hdev, hfiles]
    exact hcounts
  | some use => exact (counts_use hcounts hop h huse).2

/-! ## Unplugged -/

/-- What still comes to an unplugged device. -/
def Op.is_ending : Op → Prop
  | .release _ _ | .net_stop _ _ | .destroy _ => True
  | _ => False

/-- A close takes the stage down by one, in every case. -/
theorem close_stage (use : Use) (iface : Iface) (sent : ℕ → Int) (d : Device)
    (huse : use = .close iface sent) : (use.perform d).2.stage = d.stage - 1 := by
  subst huse
  cases iface with
  | chardev =>
    have hdue := perform_stage_due .chardev sent operation_fuel .dec_open_count d
    obtain ⟨ret, hend⟩ := close_ends .chardev sent .dec_open_count d rfl trivial
    rw [hend] at hdue
    have hdue' : ((Use.close .chardev sent).perform d).2.stage - 0 = d.stage - 1 := hdue
    omega
  | netdev =>
    have hdue := perform_stage_due .netdev sent operation_fuel .dec_stage
      (d.set_netif_running false)
    obtain ⟨ret, hend⟩ := close_ends .netdev sent .dec_stage (d.set_netif_running false)
      trivial trivial
    rw [hend] at hdue
    have hdue' : ((Use.close .netdev sent).perform d).2.stage - 0 = d.stage - 1 := hdue
    omega

/-- The operations behind the unplugging close. -/
theorem use_of_ending {s : DriverState G} {f : ℕ} {op : Op} {use : Use} (hop : op.is_ending)
    (huse : s.use_of grp f op = some use) : ∃ iface sent, use = .close iface sent := by
  cases op with
  | release i sent =>
    rw [DriverState.use_of] at huse
    split at huse
    · obtain ⟨-, heq⟩ := Option.ite_none_right_eq_some.mp huse
      exact ⟨.chardev, sent, (Option.some.inj heq).symm⟩
    · cases huse
  | net_stop f' sent =>
    rw [DriverState.use_of] at huse
    obtain ⟨-, heq⟩ := Option.ite_none_right_eq_some.mp huse
    exact ⟨.netdev, sent, (Option.some.inj heq).symm⟩
  | destroy => cases huse
  | plugin | open_ | read | poll | ioctl | net_open | plugout => cases hop

/-- The stage of an unplugged device stays down. -/
theorem stage_le_step {f : ℕ} (s : DriverState G) (op : Op) (s' : DriverState G)
    (hle : (s.dev f).stage ≤ PCAN_USB_STAGE_DISCONNECTED) (hop : op.is_ending)
    (h : s.step grp op = some s') : (s'.dev f).stage ≤ PCAN_USB_STAGE_DISCONNECTED := by
  have hclose : op.is_use → (s'.dev f).stage ≤ PCAN_USB_STAGE_DISCONNECTED := by
    intro hisuse
    have huses := uses_step f hisuse h
    cases huse : s.use_of grp f op with
    | none =>
      rw [(huses.passes huse).1]
      exact hle
    | some use =>
      obtain ⟨iface, sent, hcl⟩ := use_of_ending hop huse
      rw [(huses.uses use huse).2.1, close_stage use iface sent (s.dev f) hcl]
      omega
  cases op with
  | release i sent => exact hclose trivial
  | net_stop f' sent => exact hclose trivial
  | destroy f' =>
    rw [DriverState.step] at h
    obtain ⟨-, heq⟩ := Option.ite_none_right_eq_some.mp h
    cases heq
    unfold destroy_usb_forwarder
    split
    · rw [dev_set_dev]
      split
      · exact le_rfl
      · exact hle
    · rw [dev_set_life]
      exact hle
  | plugin | open_ | read | poll | ioctl | net_open | plugout => cases hop

/-- Unplugging takes the stage down. -/
theorem plugout_stage_le {f : ℕ} {s s' : DriverState G} {sent : ℕ → Int}
    (h : s.step grp (.plugout f sent) = some s') :
    (s'.dev f).stage ≤ PCAN_USB_STAGE_DISCONNECTED := by
  rw [DriverState.step] at h
  obtain ⟨-, heq⟩ := Option.ite_none_right_eq_some.mp h
  cases heq
  unfold pcan_usb_plugout
  rw [dev_set_life, dev_set_dev, if_pos rfl]
  exact unregister_candev_stage_le sent (s.dev f)

/-- A synchronous command of a device that is not connected returns before it has touched
anything. -/
theorem command_not_connected (responsive : Bool) (holder : CmdHolder) (outcome : Int)
    (reply : Option Reply) {st : CmdState} (hstage : st.stage < PCAN_USB_STAGE_CONNECTED) :
    (CmdCall.start responsive holder).operate outcome reply st
      = some ({ CmdCall.start responsive holder with phase := .returned (-ENOTCONN) }, st) := by
  unfold CmdCall.operate
  cases responsive with
  | false =>
    change some (_, st) = _
    rw [if_pos hstage]
    rfl
  | true =>
    change some (_, st) = _
    rw [if_pos hstage]

/-! ## Runs -/

/-- Every synchronous command returns `-ENOTCONN`, and leaves the device and the command
buffer alone. -/
structure Device.NotConnected (d : Device) : Prop where
  stage_lt : d.stage < PCAN_USB_STAGE_CONNECTED
  oneway : ∀ sent, pcan_oneway_command sent d = -ENOTCONN
  commands : ∀ (responsive : Bool) (holder : CmdHolder) (outcome : Int) (reply : Option Reply)
    (st : CmdState), st.stage = d.stage →
    (CmdCall.start responsive holder).operate outcome reply st
      = some ({ CmdCall.start responsive holder with phase := .returned (-ENOTCONN) }, st)

/-- A device with its stage down is not connected. -/
theorem notConnected_of_le {d : Device} (h : d.stage ≤ PCAN_USB_STAGE_DISCONNECTED) :
    d.NotConnected := by
  have hlt : d.stage < PCAN_USB_STAGE_CONNECTED := by
    change d.stage < 1
    have hle : d.stage ≤ 0 := h
    omega
  exact ⟨hlt, fun _ => if_pos hlt, fun responsive holder outcome reply st hst =>
    command_not_connected responsive holder outcome reply (hst ▸ hlt)⟩

variable (grp)

/-- Behind a successful `pcan_usb_plugin`, with nothing opened yet. -/
structure DriverState.Probed (s : DriverState G) (f : ℕ) : Prop where
  dev_eq : ∃ dev_revision, s.dev f = Device.plugged dev_revision
  no_file : s.open_files grp f = 0

variable {grp}

/-- Behind the probe nothing is open, and the stage says so. -/
theorem DriverState.Probed.counts {s : DriverState G} {f : ℕ} (h : s.Probed grp f) :
    s.Counts grp f := by
  obtain ⟨dev_revision, hdev⟩ := h.dev_eq
  rw [DriverState.Counts, hdev, h.no_file]
  exact ⟨rfl, rfl, Nat.zero_le 1⟩

/-- From the probe on, in every run of opens and closes, `stage` and `open_count` count what
is open, and each open and close does to them and to the bus what the law says. Behind an
unplugging the device stays disconnected for everything that still comes. -/
theorem stage_counts_interfaces (s₀ s : DriverState G) (f : ℕ) (ops : List Op)
    (hprobed : s₀.Probed grp f) (hops : ∀ op ∈ ops, op.is_use)
    (hrun : Runs.run (DriverState.step grp) s₀ ops = some s) :
    s.Counts grp f
      ∧ (∀ op s' use, op.is_use → s.step grp op = some s' → s.use_of grp f op = some use →
        use.Law (s.dev f) (s.open_files grp f) ∧ s'.dev f = (use.perform (s.dev f)).2
          ∧ s'.open_files grp f = use.open_files (s.dev f) (s.open_files grp f))
      ∧ ∀ sent s₁ endings s₂, s.step grp (.plugout f sent) = some s₁ →
        (∀ op ∈ endings, op.is_ending) →
        Runs.run (DriverState.step grp) s₁ endings = some s₂ → (s₂.dev f).NotConnected := by
  have hcounts : s.Counts grp f :=
    Runs.run_invariant_along (DriverState.step grp) counts_step hprobed.counts
      (Runs.along_of_mem (DriverState.step grp) hops s₀) hrun
  refine ⟨hcounts, fun op s' use hop hstep huse => ?_,
    fun sent s₁ endings s₂ hplugout hendings hrest => ?_⟩
  · obtain ⟨-, hdev, hfiles⟩ := (uses_step f hop hstep).uses use huse
    exact ⟨(counts_use hcounts hop hstep huse).1, hdev, hfiles⟩
  · refine notConnected_of_le ?_
    exact Runs.run_invariant_along (DriverState.step grp) stage_le_step
      (plugout_stage_le hplugout) (Runs.along_of_mem (DriverState.step grp) hendings s₁) hrest

end

/-- The network interface is started while a file is open, a second file is turned away, and
the first one is closed. -/
def joined_and_left : List Op :=
  [.open_ 0 no_error, .net_open 0 no_error, .open_ 0 no_error, .release 0 no_error]

theorem stage_counts_interfaces_joined_and_left :
    ∃ s, Runs.run (DriverState.step minor_table)
        (pcan_usb_plugin minor_table 8 0 0 (DriverState.loaded fun _ => none)) joined_and_left
        = some s
      ∧ s.Counts minor_table 0 ∧ s.open_files minor_table 0 = 0 := by
  obtain ⟨s, hrun, hfiles⟩ : ∃ s, Runs.run (DriverState.step minor_table)
        (pcan_usb_plugin minor_table 8 0 0 (DriverState.loaded fun _ => none)) joined_and_left
        = some s
      ∧ s.open_files minor_table 0 = 0 :=
    Runs.exists_run_of_any (DriverState.step minor_table) (by decide)
  have hops : ∀ op ∈ joined_and_left, op.is_use := by
    simp [joined_and_left, Op.is_use]
  exact ⟨s, hrun, (stage_counts_interfaces _ s 0 joined_and_left ⟨⟨8, rfl⟩, rfl⟩ hops hrun).1,
    hfiles⟩

end DualPcanUsb
