/-
Opens while the device is being plugged in.

`pcan_usb_plugin` makes the network interface visible with `register_candev`, the character
device with `pcan_chardev_initialize`, and allocates the URBs afterwards; a failure takes all
of this back in another order. Both open functions walk over their half of `tx_contexts` and
write to each URB. The machine takes the steps of the probe, with any outcome, and those of
any number of opens in any order; what an open finds at its context is decided by how far
the probe has come.

Of the kernel around the driver the machine keeps that operations of a network interface
exclude each other and its unregistration (`rtnl_lock`), and that an open of the character
device looks its item up first; it may go on when the item is gone.
-/
import DualPcanUsb.RxUrbs
import DualPcanUsb.FrameLayout

set_option autoImplicit false

namespace DualPcanUsb

/-! ## The probe -/

/-- `tx_contexts` has one half for each interface. -/
def MAX_TX_URBS : ℕ := PCAN_USB_MAX_TX_URBS * 2

/-- What `pcan_usb_plugin` does next, `usbdrv_alloc_urbs` and `pcan_chardev_initialize`
included. Behind a failure a phase carries what will be returned and, as long as that
matters, how many of the contexts have got a URB. -/
inductive ProbePhase
  | check_endpoints
  | alloc_candev
  | alloc_subitems
  | register_candev
  | make_item
  | alloc_rd_kernel_buf
  | sysfs_create_files
  | alloc_rx_urb (i : ℕ)
  | alloc_tx_urb (i : ℕ)
  | get_device_info
  | reset_bus
  | set_bitrate
  | free_tx_urb (i urbs : ℕ) (err : Int)
  | kill_rx_urbs (err : Int)
  | sysfs_remove_files (urbs : ℕ) (err : Int)
  | chardev_finalize (urbs : ℕ) (err : Int)
  | unmake_item (err : Int)
  | unregister_candev (urbs : ℕ) (err : Int)
  | free_subitems (urbs : ℕ) (err : Int)
  | free_candev (urbs : ℕ) (err : Int)
  | plugged_in
  | failed (err : Int)
deriving DecidableEq, Repr

/-! ## Opens -/

/-- What an open does next; `tx_contexts i` writes to the URB of context `i`, `start` is the
rest of it. -/
inductive OpenPhase
  | enter
  | undo_too_many
  | tx_contexts (i : ℕ)
  | start
  | opened
  | finished
deriving DecidableEq, Repr

structure Opening where
  iface : Iface
  phase : OpenPhase
deriving DecidableEq, Repr

/-- Where the loop over `tx_contexts` begins, and where it ends. -/
def Iface.tx_begin : Iface → ℕ
  | .netdev => 0
  | .chardev => PCAN_USB_MAX_TX_URBS

def Iface.tx_end : Iface → ℕ
  | .netdev => PCAN_USB_MAX_TX_URBS
  | .chardev => PCAN_USB_MAX_TX_URBS * 2

/-- The forwarder being set up. A URB is named by the number of its allocation, and no
number is `NULL`. -/
structure ProbeState where
  phase : ProbePhase
  tx_contexts : ℕ → Option ℕ
  next_urb : ℕ
  open_count : Int
  opens : List Opening

def ProbeState.start : ProbeState where
  phase := .check_endpoints
  tx_contexts := fun _ => none
  next_urb := 0
  open_count := 0
  opens := []

/-- `open_candev` finds a registered interface. -/
def ProbePhase.net_visible : ProbePhase → Bool
  | .check_endpoints | .alloc_candev | .alloc_subitems | .register_candev
  | .free_subitems _ _ | .free_candev _ _ | .failed _ => false
  | _ => true

/-- The look-up finds the item of the character device. -/
def ProbePhase.chardev_visible : ProbePhase → Bool
  | .check_endpoints | .alloc_candev | .alloc_subitems | .register_candev | .make_item
  | .unregister_candev _ _ | .free_subitems _ _ | .free_candev _ _ | .failed _ => false
  | _ => true

/-- No operation of the network interface is under way. -/
def ProbeState.rtnl_free (s : ProbeState) : Prop :=
  ∀ opening ∈ s.opens, opening.iface = .netdev →
    opening.phase = .opened ∨ opening.phase = .finished

instance (s : ProbeState) : Decidable s.rtnl_free :=
  inferInstanceAs (Decidable (∀ opening ∈ s.opens, _ → _ ∨ _))

/-- Unregistering closes a running network interface. -/
def Opening.unregistered (opening : Opening) : Opening :=
  match opening with
  | ⟨.netdev, .opened⟩ => ⟨.netdev, .finished⟩
  | _ => opening

/-! ## Steps -/

/-- One step of the probe. A negative `outcome` is its failure, and the error code. -/
def ProbeState.probe (s : ProbeState) (outcome : Int) : Option ProbeState :=
  match s.phase with
  | .check_endpoints =>
    some { s with phase := if outcome < 0 then .failed outcome else .alloc_candev }
  | .alloc_candev =>
    some { s with phase := if outcome < 0 then .failed outcome else .alloc_subitems }
  | .alloc_subitems =>
    some { s with phase := if outcome < 0 then .free_subitems 0 outcome else .register_candev }
  | .register_candev =>
    some { s with phase := if outcome < 0 then .free_subitems 0 outcome else .make_item }
  | .make_item =>
    some { s with
      phase := if outcome < 0 then .unregister_candev 0 outcome else .alloc_rd_kernel_buf }
  | .alloc_rd_kernel_buf =>
    -- the item can be found already when the count is set
    some { s with
      open_count := 0
      phase := if outcome < 0 then .unmake_item outcome else .sysfs_create_files }
  | .sysfs_create_files =>
    some { s with phase := if outcome < 0 then .chardev_finalize 0 outcome else .alloc_rx_urb 0 }
  | .alloc_rx_urb i =>
    some { s with
      phase := if outcome < 0 then .kill_rx_urbs outcome
        else if i + 1 < PCAN_USB_MAX_RX_URBS then .alloc_rx_urb (i + 1) else .alloc_tx_urb 0 }
  | .alloc_tx_urb i =>
    if outcome < 0 then some { s with phase := .free_tx_urb 0 i outcome }
    else
      some { s with
        tx_contexts := Function.update s.tx_contexts i (some s.next_urb)
        next_urb := s.next_urb + 1
        phase := if i + 1 < MAX_TX_URBS then .alloc_tx_urb (i + 1) else .get_device_info }
  | .get_device_info =>
    some { s with
      phase := if outcome < 0 then .sysfs_remove_files MAX_TX_URBS outcome else .reset_bus }
  | .reset_bus =>
    some { s with
      phase := if outcome < 0 then .sysfs_remove_files MAX_TX_URBS outcome else .set_bitrate }
  -- with `net_up` the network interface is opened next, an open like any other
  | .set_bitrate => some { s with phase := .plugged_in }
  | .free_tx_urb i urbs err =>
    some { s with
      tx_contexts := Function.update s.tx_contexts i none
      phase := if i + 1 < MAX_TX_URBS then .free_tx_urb (i + 1) urbs err else .kill_rx_urbs err }
  | .kill_rx_urbs err => some { s with phase := .sysfs_remove_files 0 err }
  | .sysfs_remove_files urbs err => some { s with phase := .chardev_finalize urbs err }
  | .chardev_finalize urbs err => some { s with phase := .unregister_candev urbs err }
  | .unmake_item err => some { s with phase := .unregister_candev 0 err }
  | .unregister_candev urbs err =>
    if s.rtnl_free then
      some { s with
        opens := s.opens.map Opening.unregistered
        phase := .free_subitems urbs err }
    else none
  | .free_subitems urbs err => some { s with phase := .free_candev urbs err }
  | .free_candev _ err => some { s with phase := .failed err }
  | .plugged_in | .failed _ => none

/-- One step of an open; `outcome` is what `open_candev`, or the start sequence, returns. -/
def ProbeState.operate (s : ProbeState) (iface : Iface) (outcome : Int) (phase : OpenPhase) :
    Option (OpenPhase × ProbeState) :=
  match phase, iface with
  | .enter, .chardev =>
    let s := { s with open_count := s.open_count + 1 }
    some (if s.open_count > 1 then .undo_too_many else .tx_contexts iface.tx_begin, s)
  | .enter, .netdev =>
    some (if outcome ≠ 0 then .finished else .tx_contexts iface.tx_begin, s)
  | .undo_too_many, _ => some (.finished, { s with open_count := s.open_count - 1 })
  -- behind a `NULL` pointer the machine goes on
  | .tx_contexts i, _ => some (if i + 1 < iface.tx_end then .tx_contexts (i + 1) else .start, s)
  | .start, .chardev =>
    if outcome ≠ 0 then some (.finished, { s with open_count := s.open_count - 1 })
    else some (.opened, s)
  | .start, .netdev => some (if outcome ≠ 0 then .finished else .opened, s)
  | .opened, _ | .finished, _ => none

inductive ProbeAction
  | probe (outcome : Int)
  | open_ (iface : Iface)
  | advance (i : ℕ) (outcome : Int)
  | close (i : ℕ)

def ProbeState.net_closed (s : ProbeState) : Prop :=
  ∀ opening ∈ s.opens, opening.iface = .netdev → opening.phase = .finished

instance (s : ProbeState) : Decidable s.net_closed :=
  inferInstanceAs (Decidable (∀ opening ∈ s.opens, _ → _))

def ProbeState.set_opening (s : ProbeState) (i : ℕ) (opening : Opening) : ProbeState :=
  { s with opens := s.opens.set i opening }

def ProbeState.step (s : ProbeState) : ProbeAction → Option ProbeState
  | .probe outcome => s.probe outcome
  | .open_ .netdev =>
    if s.phase.net_visible ∧ s.net_closed then
      some { s with opens := s.opens ++ [⟨.netdev, .enter⟩] }
    else none
  | .open_ .chardev =>
    if s.phase.chardev_visible then some { s with opens := s.opens ++ [⟨.chardev, .enter⟩] }
    else none
  | .advance i outcome =>
    match s.opens[i]? with
    | some ⟨iface, phase⟩ =>
      (s.operate iface outcome phase).map fun (phase, s) => s.set_opening i ⟨iface, phase⟩
    | none => none
  | .close i =>
    match s.opens[i]? with
    | some ⟨.chardev, .opened⟩ =>
      some ({ s with open_count := s.open_count - 1 }.set_opening i ⟨.chardev, .finished⟩)
    | some ⟨.netdev, .opened⟩ => some (s.set_opening i ⟨.netdev, .finished⟩)
    | _ => none

/-! ## What an open finds -/

/-- The pointer an open reads at context `i`. In a forwarder that has been freed there is
none to be found. -/
def ProbeState.urb (s : ProbeState) (i : ℕ) : Option ℕ :=
  match s.phase with
  | .failed _ => none
  | _ => s.tx_contexts i

/-- The context whose URB the open `i` is about to write to. -/
def ProbeState.context (s : ProbeState) (i : ℕ) : Option ℕ :=
  match s.opens[i]? with
  | some ⟨_, .tx_contexts k⟩ => some k
  | _ => none

/-- A loop over `tx_contexts` finds a URB where it is. -/
def FindsUrb (s : ProbeState) : ProbeAction → Prop
  | .advance i _ => ∀ k ∈ s.context i, (s.urb k).isSome
  | _ => True

/-- The contexts that have a URB: allocated up to here, and cleared up to there. -/
def ProbePhase.urbs : ProbePhase → ℕ × ℕ
  | .alloc_tx_urb i => (0, i)
  | .get_device_info | .reset_bus | .set_bitrate | .plugged_in => (0, MAX_TX_URBS)
  | .free_tx_urb i urbs _ => (i, urbs)
  | .sysfs_remove_files urbs _ | .chardev_finalize urbs _ | .unregister_candev urbs _
  | .free_subitems urbs _ | .free_candev urbs _ => (0, urbs)
  | .check_endpoints | .alloc_candev | .alloc_subitems | .register_candev | .make_item
  | .alloc_rd_kernel_buf | .sysfs_create_files | .alloc_rx_urb _ | .kill_rx_urbs _
  | .unmake_item _ | .failed _ => (0, 0)

/-- The probe has allocated the URB of context `k`, and neither cleared it nor freed the
forwarder. -/
def ProbePhase.has_urb (phase : ProbePhase) (k : ℕ) : Prop :=
  phase.urbs.1 ≤ k ∧ k < phase.urbs.2

/-- A loop over `tx_contexts` comes to a context behind its allocation and before its end. -/
def LoopsInTime (s : ProbeState) : ProbeAction → Prop
  | .advance i _ => ∀ k ∈ s.context i, s.phase.has_urb k
  | _ => True

/-! ## The pointers follow the probe -/

/-- The two loops of `usbdrv_alloc_urbs` stay inside `tx_contexts`. -/
def ProbePhase.InRange : ProbePhase → Prop
  | .alloc_tx_urb i => i < MAX_TX_URBS
  | .free_tx_urb _ urbs _ => urbs ≤ MAX_TX_URBS
  | _ => True

def ProbePhase.is_failed : ProbePhase → Bool
  | .failed _ => true
  | _ => false

/-- What a step of the probe does to the contexts; `phase'` is where it leads. -/
inductive Probed (s s' : ProbeState) : Prop
  | moved (phase' : ProbePhase) (hfrom : s.phase.is_failed = false) (hphase' : s'.phase = phase')
      (hcontexts : s'.tx_contexts = s.tx_contexts) (hurbs : phase'.urbs = s.phase.urbs)
      (hrange : phase'.InRange) (hlive : phase'.is_failed = false)
  | allocated (i : ℕ) (phase' : ProbePhase) (hphase : s.phase = .alloc_tx_urb i)
      (hphase' : s'.phase = phase')
      (hcontexts : s'.tx_contexts = Function.update s.tx_contexts i (some s.next_urb))
      (hurbs : phase'.urbs = (0, i + 1)) (hrange : phase'.InRange)
      (hlive : phase'.is_failed = false)
  | cleared (i urbs : ℕ) (err : Int) (phase' : ProbePhase)
      (hphase : s.phase = .free_tx_urb i urbs err) (hphase' : s'.phase = phase')
      (hcontexts : s'.tx_contexts = Function.update s.tx_contexts i none)
      (hurbs : ∀ k, phase'.has_urb k ↔ i + 1 ≤ k ∧ k < urbs) (hrange : phase'.InRange)
      (hlive : phase'.is_failed = false)
  | freed (err : Int) (hphase' : s'.phase = .failed err)

/-- What each step of the probe does to the pointers. -/
theorem probe_cases {s s' : ProbeState} {outcome : Int} (hrange : s.phase.InRange)
    (h : s.probe outcome = some s') : Probed s s' := by
  unfold ProbeState.probe at h
  split at h
  -- without a forwarder there is nothing to take back
  case h_1 hphase | h_2 hphase =>
    cases h
    by_cases hfail : outcome < 0
    · exact .freed outcome (if_pos hfail)
    · exact .moved _ (by rw [hphase]; rfl) (if_neg hfail) rfl (by rw [hphase]; rfl) trivial rfl
  -- before the Tx URBs no context has one, behind them all have
  case h_3 hphase | h_4 hphase | h_5 hphase | h_6 hphase | h_7 hphase | h_10 hphase
      | h_11 hphase =>
    cases h
    by_cases hfail : outcome < 0
    · exact .moved _ (by rw [hphase]; rfl) (if_pos hfail) rfl (by rw [hphase]; rfl) trivial rfl
    · exact .moved _ (by rw [hphase]; rfl) (if_neg hfail) rfl (by rw [hphase]; rfl) trivial rfl
  case h_8 i hphase =>
    cases h
    by_cases hfail : outcome < 0
    · exact .moved _ (by rw [hphase]; rfl) (if_pos hfail) rfl (by rw [hphase]; rfl) trivial rfl
    · by_cases hmore : i + 1 < PCAN_USB_MAX_RX_URBS
      · exact .moved _ (by rw [hphase]; rfl) ((if_neg hfail).trans (if_pos hmore)) rfl
          (by rw [hphase]; rfl) trivial rfl
      · exact .moved _ (by rw [hphase]; rfl) ((if_neg hfail).trans (if_neg hmore)) rfl
          (by rw [hphase]; rfl) (by decide : 0 < MAX_TX_URBS) rfl
  case h_9 i hphase =>
    rw [hphase] at hrange
    have hi : i < 20 := hrange
    split at h
    · cases h
      exact .moved _ (by rw [hphase]; rfl) rfl rfl (by rw [hphase]; rfl) hi.le rfl
    · cases h
      by_cases hmore : i + 1 < MAX_TX_URBS
      · exact .allocated i _ hphase (if_pos hmore) rfl rfl hmore rfl
      · have hge : ¬ i + 1 < 20 := hmore
        have hlast : i + 1 = 20 := by omega
        exact .allocated i _ hphase (if_neg hmore) rfl (by rw [hlast]; rfl) trivial rfl
  case h_13 i urbs err hphase =>
    rw [hphase] at hrange
    have hle : urbs ≤ 20 := hrange
    cases h
    by_cases hmore : i + 1 < MAX_TX_URBS
    · exact .cleared i urbs err _ hphase (if_pos hmore) rfl (fun k => Iff.rfl) hrange rfl
    · -- the last of them is cleared
      have hge : 20 ≤ i + 1 := not_lt.mp hmore
      have hnone : ∀ k, ProbePhase.has_urb (.kill_rx_urbs err) k ↔ i + 1 ≤ k ∧ k < urbs := by
        intro k
        constructor
        · rintro ⟨-, hlt⟩
          exact absurd hlt (Nat.not_lt_zero k)
        · rintro ⟨hlo, hhi⟩
          omega
      exact .cleared i urbs err _ hphase (if_neg hmore) rfl hnone trivial rfl
  case h_12 hphase | h_14 hphase | h_15 hphase | h_16 hphase | h_17 hphase | h_19 hphase =>
    cases h
    exact .moved _ (by rw [hphase]; rfl) rfl rfl (by rw [hphase]; rfl) trivial rfl
  case h_18 hphase =>
    obtain ⟨-, heq⟩ := Option.ite_none_right_eq_some.mp h
    cases heq
    exact .moved _ (by rw [hphase]; rfl) rfl rfl (by rw [hphase]; rfl) trivial rfl
  case h_20 err hphase =>
    cases h
    exact .freed err rfl
  case h_21 | h_22 => cases h

/-- The opens leave the contexts to the probe. -/
theorem operate_contexts {s s' : ProbeState} {iface : Iface} {outcome : Int}
    {phase phase' : OpenPhase} (h : s.operate iface outcome phase = some (phase', s')) :
    s'.phase = s.phase ∧ s'.tx_contexts = s.tx_contexts := by
  unfold ProbeState.operate at h
  split at h
  · cases h
    exact ⟨rfl, rfl⟩
  · cases h
    exact ⟨rfl, rfl⟩
  · cases h
    exact ⟨rfl, rfl⟩
  · cases h
    exact ⟨rfl, rfl⟩
  · split at h <;> cases h <;> exact ⟨rfl, rfl⟩
  · cases h
    exact ⟨rfl, rfl⟩
  · cases h
  · cases h

/-- Opens, closes and calls move no pointer. -/
theorem probe_step_cases {s s' : ProbeState} {action : ProbeAction} (hrange : s.phase.InRange)
    (h : s.step action = some s') :
    Probed s s' ∨ s'.phase = s.phase ∧ s'.tx_contexts = s.tx_contexts := by
  cases action with
  | probe outcome => exact .inl (probe_cases hrange h)
  | open_ iface =>
    right
    cases iface with
    | chardev =>
      obtain ⟨-, heq⟩ := Option.ite_none_right_eq_some.mp h
      cases heq
      exact ⟨rfl, rfl⟩
    | netdev =>
      obtain ⟨-, heq⟩ := Option.ite_none_right_eq_some.mp h
      cases heq
      exact ⟨rfl, rfl⟩
  | advance i outcome =>
    right
    rw [ProbeState.step] at h
    split at h
    · obtain ⟨⟨phase', s₁⟩, hop, heq⟩ := Option.map_eq_some_iff.mp h
      cases heq
      obtain ⟨hphase, hcontexts⟩ := operate_contexts hop
      exact ⟨hphase, hcontexts⟩
    · cases h
  | close i =>
    right
    rw [ProbeState.step] at h
    split at h <;> cases h <;> exact ⟨rfl, rfl⟩

/-- A context has a URB exactly between the steps that give and take it. -/
structure ProbeInv (s : ProbeState) : Prop where
  urbs : ∀ k, (s.urb k).isSome ↔ s.phase.has_urb k
  range : s.phase.InRange

/-- While the probe has not failed, a pointer not null is a URB. -/
theorem urb_of_live {s : ProbeState} (hlive : s.phase.is_failed = false) (k : ℕ) :
    s.urb k = s.tx_contexts k := by
  unfold ProbeState.urb
  split
  · rename_i hfailed
    rw [hfailed] at hlive
    cases hlive
  · rfl

/-- Before the loop all pointers are null. -/
theorem probeInv_start : ProbeInv ProbeState.start := by
  refine ⟨fun k => ⟨fun h => (by cases h), ?_⟩, trivial⟩
  rintro ⟨-, hlt⟩
  exact absurd hlt (Nat.not_lt_zero k)

/-- In each round the loop sets one pointer more. -/
theorem probeInv_step (s : ProbeState) (action : ProbeAction) (s' : ProbeState)
    (hinv : ProbeInv s) (h : s.step action = some s') : ProbeInv s' := by
  obtain ⟨hurb, hrange⟩ := hinv
  rcases probe_step_cases hrange h with hprobed | ⟨hphase, hcontexts⟩
  · cases hprobed with
    | moved phase' hfrom hphase' hcontexts hurbs hrange' hlive =>
      subst hphase'
      refine ⟨fun k => ?_, hrange'⟩
      rw [urb_of_live hlive, hcontexts, ← urb_of_live hfrom, hurb k]
      unfold ProbePhase.has_urb
      rw [hurbs]
    | allocated i phase' hphase hphase' hcontexts hurbs hrange' hlive =>
      subst hphase'
      refine ⟨fun k => ?_, hrange'⟩
      have hfrom : s.phase.is_failed = false := by rw [hphase]; rfl
      have hold := hurb k
      rw [urb_of_live hfrom, hphase] at hold
      rw [urb_of_live hlive, hcontexts, ProbePhase.has_urb, hurbs]
      change _ ↔ 0 ≤ k ∧ k < i at hold
      by_cases hk : k = i
      · subst hk
        rw [Function.update_self]
        simp
      · rw [Function.update_of_ne hk, hold]
        dsimp only
        omega
    | cleared i urbs err phase' hphase hphase' hcontexts hurbs hrange' hlive =>
      subst hphase'
      refine ⟨fun k => ?_, hrange'⟩
      have hfrom : s.phase.is_failed = false := by rw [hphase]; rfl
      have hold := hurb k
      rw [urb_of_live hfrom, hphase] at hold
      rw [urb_of_live hlive, hcontexts, hurbs k]
      change _ ↔ i ≤ k ∧ k < urbs at hold
      by_cases hk : k = i
      · subst hk
        rw [Function.update_self]
        simp
      · rw [Function.update_of_ne hk, hold]
        omega
    | freed err hphase' =>
      refine ⟨fun k => ?_, by rw [hphase']; trivial⟩
      rw [ProbeState.urb, hphase']
      refine ⟨fun hsome => (by cases hsome), ?_⟩
      rintro ⟨-, hlt⟩
      exact absurd hlt (Nat.not_lt_zero k)
  · refine ⟨fun k => ?_, by rw [hphase]; exact hrange⟩
    have hsame : s'.urb k = s.urb k := by
      unfold ProbeState.urb
      rw [hphase, hcontexts]
    rw [hsame, hphase]
    exact hurb k

/-! ## Runs -/

/-- An open finds its URBs exactly if the loop was there in time. -/
theorem findsUrb_iff (s : ProbeState) (action : ProbeAction) (hinv : ProbeInv s) :
    FindsUrb s action ↔ LoopsInTime s action := by
  cases action with
  | advance i outcome =>
    constructor
    · exact fun h k hk => (hinv.urbs k).mp (h k hk)
    · exact fun h k hk => (hinv.urbs k).mpr (h k hk)
  | probe | open_ | close => exact Iff.rfl

/-- Along every run of a probe and of opens beside it, the loops over `tx_contexts` find
their URBs exactly if each comes to each context while the probe has it allocated. -/
theorem tx_urbs_found_iff (actions : List ProbeAction) :
    Runs.Along ProbeState.step FindsUrb ProbeState.start actions
      ↔ Runs.Along ProbeState.step LoopsInTime ProbeState.start actions :=
  Runs.along_iff ProbeState.step (fun s a s' hinv _ hs => probeInv_step s a s' hinv hs)
    findsUrb_iff probeInv_start actions

instance (s : ProbeState) : DecidablePred (FindsUrb s)
  | .advance i _ => inferInstanceAs (Decidable (∀ k ∈ s.context i, (s.urb k).isSome))
  | .probe _ | .open_ _ | .close _ => .isTrue trivial

/-- The network interface is brought up right behind `register_candev`. -/
def opened_too_early : List ProbeAction :=
  [.probe 0, .probe 0, .probe 0, .probe 0, .open_ .netdev, .advance 0 0, .advance 0 0]

/-- No call fails, and the first URB is not there yet. -/
theorem early_open_finds_no_urb :
    ¬ ∀ actions, Runs.Along ProbeState.step FindsUrb ProbeState.start actions := by
  intro h
  have hrun : ¬ Runs.Along ProbeState.step FindsUrb ProbeState.start opened_too_early := by decide
  exact hrun (h opened_too_early)

end DualPcanUsb
