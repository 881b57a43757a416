/-
Who frees the URBs.

The probe allocates the receive URBs and one URB for each transmit context, an asynchronous
command one of its own. The machine runs transmit calls, commands and completions of all
kinds up to the unplugging, and `usbdrv_unlink_all_urbs` round by round with completions in
between.

Two references are never dropped: the allocation's of a transmit URB that its round of
`usbdrv_unlink_all_urbs` finds with an echo index, and that of a command that fails behind
its `usb_alloc_urb`. In all other runs everything is freed, and nothing is ever freed twice.
-/
import DualPcanUsb.Probe
import DualPcanUsb.TxAccounting
import DualPcanUsb.UrbCounts
import DualPcanUsb.Lib.Runs

set_option autoImplicit false

namespace DualPcanUsb

open RefCount

/-! ## The machine -/

/-- How far the unplugging is: `usbdrv_unlink_all_urbs` waits for the receive URBs, goes
through the contexts, and waits for the transmit URBs. -/
inductive UnplugPhase
  | plugged_in
  | kill_rx_urbs
  | unlink (i : ℕ)
  | kill_tx_urbs
  | unplugged
  | destroyed
deriving DecidableEq, Repr

structure UrbState (E : Type) where
  phase : UnplugPhase
  tx : TxState E
  tx_urbs : ℕ → ContextUrb
  rx_urbs : Fin PCAN_USB_MAX_RX_URBS → CoreUrb
  commands : List CoreUrb

inductive UrbAction
  | tx (action : TxAction)
  | complete_rx (k : Fin PCAN_USB_MAX_RX_URBS) (resubmit : Option Int)
  | command (outcome : AsyncOutcome)
  | complete_command (j : ℕ) (status : Int)
  | plugout
  | rx_killed
  | unlink
  | tx_killed
  | destroy

def TxAction.is_transmit : TxAction → Bool
  | .transmit _ _ _ => true
  | _ => false

section

variable {E : Type} (slots : EchoSlots E)

/-- `tx_contexts`, whose second half belongs to the character device and is never used. -/
def TxState.context (tx : TxState E) (k : ℕ) : TxContext :=
  if h : k < PCAN_USB_MAX_TX_URBS then tx.tx_contexts ⟨k, h⟩ else ⟨0, 0, false⟩

def update_urb (tx_urbs : ℕ → ContextUrb) (i : ℕ) (f : CountedUrb → CountedUrb) :
    ℕ → ContextUrb :=
  Function.update tx_urbs i { tx_urbs i with urb := f (tx_urbs i).urb }

/-- What an action on the transmit path does to the URBs of the contexts. -/
def TxState.count_urbs (tx : TxState E) (tx_urbs : ℕ → ContextUrb) : TxAction → ℕ → ContextUrb
  | .transmit _ invalid submit_err =>
    match tx.taken_context invalid with
    | none => tx_urbs
    | some i => update_urb tx_urbs i (anchor_and_submit submit_err)
  | .complete i _ => update_urb tx_urbs i (usb_hcd_giveback_urb id)
  | _ => tx_urbs

def UrbState.step (s : UrbState E) : UrbAction → Option (UrbState E)
  | .tx action =>
    -- no transmit call starts on an unregistered interface
    if action.is_transmit ∧ s.phase ≠ .plugged_in then none
    else (s.tx.step slots action).map fun tx =>
      { s with tx := tx, tx_urbs := s.tx.count_urbs s.tx_urbs action }
  | .complete_rx k resubmit =>
    if (s.rx_urbs k).in_flight then
      some { s with
        rx_urbs := Function.update s.rx_urbs k (complete_rx_urb resubmit (s.rx_urbs k)) }
    else none
  | .command outcome =>
    if s.phase = .plugged_in then
      some { s with
        commands := s.commands ++ (pcan_oneway_command_async_urb outcome).2.toList }
    else none
  | .complete_command j _ =>
    match s.commands[j]? with
    | none => none
    | some command =>
      if command.in_flight then
        some { s with commands := s.commands.set j (complete_command_urb command) }
      else none
  | .plugout =>
    -- `unregister_candev` waits for the transmit call in progress
    if s.phase = .plugged_in ∧ s.tx.xmit = .idle then some { s with phase := .kill_rx_urbs }
    else none
  | .rx_killed =>
    if s.phase = .kill_rx_urbs ∧ ∀ k, (s.rx_urbs k).in_flight = false then
      some { s with phase := .unlink 0 }
    else none
  | .unlink =>
    match s.phase with
    | .unlink i =>
      some { s with
        tx_urbs := Function.update s.tx_urbs i
          (unlink_round (s.tx.context i).echo_index (s.tx_urbs i))
        phase := if i + 1 < MAX_TX_URBS then .unlink (i + 1) else .kill_tx_urbs }
    | _ => none
  | .tx_killed =>
    if s.phase = .kill_tx_urbs ∧ ∀ i, (s.tx.tx_contexts i).in_flight = false then
      some { s with phase := .unplugged, tx := { s.tx with active_tx_urbs := 0 } }
    else none
  | .destroy => if s.phase = .unplugged then some { s with phase := .destroyed } else none

/-- A device that was plugged in successfully. -/
def UrbState.plugged_in (tx : TxState E) : UrbState E where
  phase := .plugged_in
  tx := tx
  tx_urbs := fun _ => alloc_tx_urb
  rx_urbs := fun _ => alloc_rx_urb
  commands := []

/-! ## The end of a run -/

def UrbState.AllFreedOnce (s : UrbState E) : Prop :=
  (∀ k < MAX_TX_URBS, (s.tx_urbs k).urb.FreedOnce)
    ∧ (∀ k, (s.rx_urbs k).urb.FreedOnce)
    ∧ ∀ command ∈ s.commands, command.urb.FreedOnce

/-- The forwarder is gone, and the core has given all commands back. -/
structure UrbState.Ended (s : UrbState E) : Prop where
  phase_eq : s.phase = .destroyed
  commands_back : ∀ command ∈ s.commands, command.in_flight = false

/-- The step drops the reference of an allocation when it is the last to know of it: a
round of `usbdrv_unlink_all_urbs` finds its context without an echo index, a command that
gets a URB does not fail. -/
def DropsAllocation (s : UrbState E) : UrbAction → Prop
  | .unlink =>
    match s.phase with
    | .unlink i => (s.tx.context i).echo_index = 0
    | _ => True
  | .command outcome => outcome.urb = true → outcome.buf = true ∧ outcome.submit_err = 0
  | _ => True

instance (s : UrbState E) : DecidablePred (DropsAllocation s)
  | .unlink =>
    match hphase : s.phase with
    | .unlink i =>
      decidable_of_iff ((s.tx.context i).echo_index = 0) (by rw [DropsAllocation, hphase])
    | .plugged_in | .kill_rx_urbs | .kill_tx_urbs | .unplugged | .destroyed =>
      .isTrue (by rw [DropsAllocation, hphase]; trivial)
  | .command _ => inferInstanceAs (Decidable (_ → _ ∧ _))
  | .tx _ | .complete_rx _ _ | .complete_command _ _ | .plugout | .rx_killed | .tx_killed
  | .destroy => .isTrue trivial

end

/-! ## The contexts -/

section

variable {E : Type} {slots : EchoSlots E}

theorem context_coe (tx : TxState E) (i : Fin PCAN_USB_MAX_TX_URBS) :
    tx.context i = tx.tx_contexts i := by
  rw [TxState.context, dif_pos i.isLt]

/-- The links are a matter of the contexts alone. -/
theorem context_congr {tx tx' : TxState E} (h : tx'.tx_contexts = tx.tx_contexts) :
    tx'.context = tx.context := by
  funext k
  rw [TxState.context, TxState.context, h]

/-- One context written is one link changed. -/
theorem context_update {tx tx' : TxState E} {i : Fin PCAN_USB_MAX_TX_URBS} {ctx : TxContext}
    (h : tx'.tx_contexts = Function.update tx.tx_contexts i ctx) :
    tx'.context = Function.update tx.context i ctx := by
  funext k
  rcases eq_or_ne k i with rfl | hne
  · rw [context_coe, h, Function.update_self, Function.update_self]
  · rw [Function.update_of_ne hne, TxState.context, TxState.context, h]
    by_cases hlt : k < PCAN_USB_MAX_TX_URBS
    · rw [dif_pos hlt, dif_pos hlt, Function.update_of_ne (fun heq => hne (Fin.val_eq_of_eq heq))]
    · rw [dif_neg hlt, dif_neg hlt]

/-- A URB the core has belongs to a context that shows it, and is held by its link and by
anchor and submission. -/
structure ContextUrb.Held (link : ContextUrb) (ctx : TxContext) : Prop where
  busy : ctx.in_flight = true → ctx.echo_index ≠ 0
  held : link.urb.WithBuffer (link.linked.toNat + 2 * ctx.in_flight.toNat)
  linked : ctx.in_flight = true → link.linked = true

/-- A free context has nothing in flight. -/
theorem ContextUrb.Held.idle {link : ContextUrb} {ctx : TxContext} (h : link.Held ctx)
    (hindex : ctx.echo_index = 0) : ctx.in_flight = false := by
  by_contra hflight
  exact h.busy (Bool.eq_true_of_not_eq_false hflight) hindex

/-- A linked URB that the core does not have is held by its link alone. -/
theorem ContextUrb.Held.alone {link : ContextUrb} {ctx : TxContext} (h : link.Held ctx)
    (hlinked : link.linked = true) (hidle : ctx.in_flight = false) :
    link.urb.WithBuffer (0 + 1) := by
  have hheld := h.held
  rwa [hlinked, hidle] at hheld

/-- An idle context is taken, for good if the submission goes through. -/
theorem ContextUrb.Held.transmit {link : ContextUrb} {ctx : TxContext} (h : link.Held ctx)
    (hindex : ctx.echo_index = 0) (hlinked : link.linked = true)
    {taken : TxContext} (htaken : taken.echo_index ≠ 0) (hflight : taken.in_flight = true)
    {freed : TxContext} (hfreed : freed.in_flight = ctx.in_flight) (submit_err : Int) :
    ContextUrb.Held { link with urb := anchor_and_submit submit_err link.urb }
      (if submit_err = 0 then taken else freed) := by
  have hidle := h.idle hindex
  have hsubmit := (h.alone hlinked hidle).submit submit_err
  by_cases hok : submit_err = 0
  · rw [if_pos hok]
    rw [decide_eq_true hok] at hsubmit
    refine ⟨fun _ => htaken, ?_, fun _ => hlinked⟩
    rw [hlinked, hflight]
    exact hsubmit
  · rw [if_neg hok]
    rw [decide_eq_false hok] at hsubmit
    rw [hidle] at hfreed
    refine ⟨fun hback => ?_, ?_, fun _ => hlinked⟩
    · rw [hfreed] at hback
      cases hback
    · rw [hlinked, hfreed]
      exact hsubmit

/-- A completion drops the reference of the submission. -/
theorem ContextUrb.Held.complete {link : ContextUrb} {ctx : TxContext} (h : link.Held ctx)
    (hflight : ctx.in_flight = true) {back : TxContext} (hback : back.in_flight = false) :
    ContextUrb.Held { link with urb := usb_hcd_giveback_urb id link.urb } back := by
  have hheld := h.held
  rw [hflight] at hheld
  refine ⟨?_, ?_, ?_⟩
  · rw [hback]
    nofun
  · rw [hback]
    exact hheld.giveback
  · rw [hback]
    nofun

/-- Behind its round of the unlinking loop a context still holds what it says. -/
theorem ContextUrb.Held.unlink {link : ContextUrb} {ctx : TxContext} (h : link.Held ctx) :
    (unlink_round ctx.echo_index link).Held ctx := by
  obtain ⟨-, hround⟩ | ⟨⟨hlinked, hindex⟩, hround⟩ := unlink_round_cases ctx.echo_index link
  · rw [hround]
    exact h
  · have hidle := h.idle hindex
    rw [hround]
    refine ⟨h.busy, ?_, ?_⟩
    · rw [hidle]
      exact (h.alone hlinked hidle).free
    · rw [hidle]
      nofun

def ContextsHeld (tx : TxState E) (tx_urbs : ℕ → ContextUrb) : Prop :=
  ∀ k, (tx_urbs k).Held (tx.context k)

/-- References are held as long as the contexts are. -/
theorem ContextsHeld.congr {tx tx' : TxState E} {tx_urbs : ℕ → ContextUrb}
    (h : ContextsHeld tx tx_urbs) (hcontexts : tx'.tx_contexts = tx.tx_contexts) :
    ContextsHeld tx' tx_urbs := by
  intro k
  rw [context_congr hcontexts]
  exact h k

/-- One context changes with its URB. -/
theorem ContextsHeld.update {tx tx' : TxState E} {tx_urbs : ℕ → ContextUrb}
    (h : ContextsHeld tx tx_urbs) {i : Fin PCAN_USB_MAX_TX_URBS} {ctx : TxContext}
    (hcontexts : tx'.tx_contexts = Function.update tx.tx_contexts i ctx)
    {f : CountedUrb → CountedUrb}
    (hheld : ContextUrb.Held { tx_urbs i with urb := f (tx_urbs i).urb } ctx) :
    ContextsHeld tx' (update_urb tx_urbs i f) := by
  intro k
  rw [context_update hcontexts, update_urb]
  rcases eq_or_ne k i with rfl | hne
  · rw [Function.update_self, Function.update_self]
    exact hheld
  · rw [Function.update_of_ne hne, Function.update_of_ne hne]
    exact h k

/-- A transmit call touches the context it takes, and no other. -/
theorem pcan_net_start_transmit_none (slots : EchoSlots E) {tx : TxState E} {invalid : Bool}
    (h : tx.taken_context invalid = none) (frame : CanFrame) (submit_err : Int) :
    (pcan_net_start_transmit slots frame invalid submit_err tx).2.tx_contexts
      = tx.tx_contexts := by
  unfold pcan_net_start_transmit
  unfold TxState.taken_context at h
  dsimp only
  split
  · rfl
  split
  · rfl
  rename_i hlisten hvalid
  rw [if_neg hlisten, if_neg hvalid] at h
  split
  · rfl
  · rename_i i hfree
    cases h.symm.trans hfree

/-- A call that takes a context puts its URB in flight, or gives the context back. -/
theorem pcan_net_start_transmit_some (slots : EchoSlots E) {tx : TxState E} {invalid : Bool}
    {i : Fin PCAN_USB_MAX_TX_URBS} (h : tx.taken_context invalid = some i) (frame : CanFrame)
    (submit_err : Int) :
    tx.free_context = some i ∧ ∃ transfer_buffer,
      (pcan_net_start_transmit slots frame invalid submit_err tx).2.tx_contexts
        = Function.update tx.tx_contexts i
          (if submit_err = 0 then ⟨BitVec.ofNat 32 (i + 1), transfer_buffer, true⟩
            else ⟨0, transfer_buffer, (tx.tx_contexts i).in_flight⟩) := by
  obtain ⟨hlisten, hvalid, h⟩ := taken_context_eq_some_iff.mp h
  refine ⟨h, ?_⟩
  unfold pcan_net_start_transmit
  dsimp only
  rw [if_neg hlisten, if_neg hvalid]
  split
  · rename_i hnone
    cases h.symm.trans hnone
  rename_i j hfree
  obtain rfl := Option.some.inj (hfree.symm.trans h)
  by_cases hok : submit_err = 0
  · rw [if_neg (not_not.mpr hok)]
    simp only [if_pos hok]
    exact ⟨_, Function.update_idem ..⟩
  · rw [if_pos hok]
    simp only [if_neg hok]
    by_cases hgone : submit_err = -ENODEV
    · rw [if_pos hgone]
      exact ⟨_, Function.update_idem ..⟩
    · rw [if_neg hgone]
      exact ⟨_, Function.update_idem ..⟩

/-- Calls and completions link no URB and unlink none. -/
theorem count_urbs_linked (tx : TxState E) (tx_urbs : ℕ → ContextUrb) (action : TxAction)
    (k : ℕ) : (tx.count_urbs tx_urbs action k).linked = (tx_urbs k).linked := by
  have hupdate : ∀ i f, (update_urb tx_urbs i f k).linked = (tx_urbs k).linked := by
    intro i f
    rw [update_urb]
    rcases eq_or_ne k i with rfl | hne
    · rw [Function.update_self]
    · rw [Function.update_of_ne hne]
  cases action with
  | transmit frame invalid submit_err =>
    rw [TxState.count_urbs]
    cases tx.taken_context invalid with
    | none => rfl
    | some i => exact hupdate i _
  | complete i status => exact hupdate i _
  | _ => rfl

/-- Every action on the transmit path keeps the counts; a transmit call needs its URB. -/
theorem contextsHeld_tx {tx tx' : TxState E} {tx_urbs : ℕ → ContextUrb} {action : TxAction}
    (h : ContextsHeld tx tx_urbs)
    (hlinked : action.is_transmit = true → ∀ k, (tx_urbs k).linked = true)
    (hstep : tx.step slots action = some tx') :
    ContextsHeld tx' (tx.count_urbs tx_urbs action) := by
  cases tx_step_cases slots hstep with
  | transmit frame invalid submit_err =>
    have heq := (Option.ite_none_right_eq_some.mp hstep).2
    cases heq
    rw [TxState.count_urbs]
    cases htaken : tx.taken_context invalid with
    | none => exact h.congr (pcan_net_start_transmit_none slots htaken frame submit_err)
    | some i =>
      obtain ⟨hfree, transfer_buffer, hcontexts⟩ :=
        pcan_net_start_transmit_some slots htaken frame submit_err
      have hindex : (tx.context i).echo_index = 0 := by
        rw [context_coe]
        exact free_context_eq_some hfree
      refine h.update hcontexts ?_
      exact (h i).transmit hindex (hlinked rfl i) (taken_ne_zero i) rfl
        (by rw [context_coe]) submit_err
  | complete i status _ hflight hcomplete =>
    rw [← context_coe] at hflight
    cases hcomplete with
    | kept _ hcontexts => exact h.update hcontexts ((h i).complete hflight rfl)
    | gave_back _ _ hcontexts => exact h.update hcontexts ((h i).complete hflight rfl)
  | check_active => exact h.congr rfl
  | stop_queue => exact h.congr rfl
  | detach => exact h.congr rfl

/-! ## What a step does -/

inductive UrbStep (slots : EchoSlots E) (s : UrbState E) : UrbAction → UrbState E → Prop
  | tx (action : TxAction) (tx' : TxState E)
      (hplugged : action.is_transmit = true → s.phase = .plugged_in)
      (hstep : s.tx.step slots action = some tx') :
    UrbStep slots s (.tx action)
      { s with tx := tx', tx_urbs := s.tx.count_urbs s.tx_urbs action }
  | complete_rx (k : Fin PCAN_USB_MAX_RX_URBS) (resubmit : Option Int)
      (hflight : (s.rx_urbs k).in_flight = true) :
    UrbStep slots s (.complete_rx k resubmit)
      { s with rx_urbs := Function.update s.rx_urbs k (complete_rx_urb resubmit (s.rx_urbs k)) }
  | command (outcome : AsyncOutcome) :
    UrbStep slots s (.command outcome)
      { s with commands := s.commands ++ (pcan_oneway_command_async_urb outcome).2.toList }
  | complete_command (j : ℕ) (status : Int) (command : CoreUrb)
      (hget : s.commands[j]? = some command) (hflight : command.in_flight = true) :
    UrbStep slots s (.complete_command j status)
      { s with commands := s.commands.set j (complete_command_urb command) }
  | plugout (hphase : s.phase = .plugged_in) :
    UrbStep slots s .plugout { s with phase := .kill_rx_urbs }
  | rx_killed (hphase : s.phase = .kill_rx_urbs)
      (hnone : ∀ k, (s.rx_urbs k).in_flight = false) :
    UrbStep slots s .rx_killed { s with phase := .unlink 0 }
  | unlink (i : ℕ) (hphase : s.phase = .unlink i) :
    UrbStep slots s .unlink
      { s with
        tx_urbs := Function.update s.tx_urbs i
          (unlink_round (s.tx.context i).echo_index (s.tx_urbs i))
        phase := if i + 1 < MAX_TX_URBS then .unlink (i + 1) else .kill_tx_urbs }
  | tx_killed (hphase : s.phase = .kill_tx_urbs)
      (hnone : ∀ i, (s.tx.tx_contexts i).in_flight = false) :
    UrbStep slots s .tx_killed
      { s with phase := .unplugged, tx := { s.tx with active_tx_urbs := 0 } }
  | destroy (hphase : s.phase = .unplugged) :
    UrbStep slots s .destroy { s with phase := .destroyed }

/-- What each action does to the references. -/
theorem urb_step_cases {s s' : UrbState E} {action : UrbAction}
    (h : s.step slots action = some s') : UrbStep slots s action s' := by
  cases action with
  | tx action =>
    obtain ⟨hallowed, hmap⟩ := Option.ite_none_left_eq_some.mp h
    obtain ⟨tx', hstep, heq⟩ := Option.map_eq_some_iff.mp hmap
    cases heq
    refine .tx action tx' (fun htransmit => ?_) hstep
    by_contra hphase
    exact hallowed ⟨htransmit, hphase⟩
  | complete_rx k resubmit =>
    obtain ⟨hflight, heq⟩ := Option.ite_none_right_eq_some.mp h
    cases heq
    exact .complete_rx k resubmit hflight
  | command outcome =>
    obtain ⟨-, heq⟩ := Option.ite_none_right_eq_some.mp h
    cases heq
    exact .command outcome
  | complete_command j status =>
    rw [UrbState.step] at h
    split at h
    · cases h
    · rename_i command hget
      obtain ⟨hflight, heq⟩ := Option.ite_none_right_eq_some.mp h
      cases heq
      exact .complete_command j status command hget hflight
  | plugout =>
    obtain ⟨⟨hphase, -⟩, heq⟩ := Option.ite_none_right_eq_some.mp h
    cases heq
    exact .plugout hphase
  | rx_killed =>
    obtain ⟨⟨hphase, hnone⟩, heq⟩ := Option.ite_none_right_eq_some.mp h
    cases heq
    exact .rx_killed hphase hnone
  | unlink =>
    rw [UrbState.step] at h
    split at h
    · rename_i i hphase
      cases h
      exact .unlink i hphase
    · cases h
  | tx_killed =>
    obtain ⟨⟨hphase, hnone⟩, heq⟩ := Option.ite_none_right_eq_some.mp h
    cases heq
    exact .tx_killed hphase hnone
  | destroy =>
    obtain ⟨hphase, heq⟩ := Option.ite_none_right_eq_some.mp h
    cases heq
    exact .destroy hphase

/-! ## The invariant -/

/-- The rounds of `usbdrv_unlink_all_urbs` that are over. -/
def UnplugPhase.passed : UnplugPhase → ℕ
  | .plugged_in | .kill_rx_urbs => 0
  | .unlink i => i
  | .kill_tx_urbs | .unplugged | .destroyed => MAX_TX_URBS

/-- The receive URBs have all come back. -/
def UnplugPhase.rx_back : UnplugPhase → Bool
  | .plugged_in | .kill_rx_urbs => false
  | _ => true

/-- And those of the contexts. -/
def UnplugPhase.tx_back : UnplugPhase → Bool
  | .unplugged | .destroyed => true
  | _ => false

/-- Behind its round a context is one of those passed. -/
theorem passed_next {i : ℕ} (hround : i < MAX_TX_URBS) :
    (if i + 1 < MAX_TX_URBS then UnplugPhase.unlink (i + 1) else .kill_tx_urbs).passed
      = i + 1 := by
  by_cases hmore : i + 1 < MAX_TX_URBS
  · rw [if_pos hmore]
    rfl
  · rw [if_neg hmore, UnplugPhase.passed]
    omega

structure UrbInv (s : UrbState E) : Prop where
  contexts : ContextsHeld s.tx s.tx_urbs
  ahead : ∀ k, s.phase.passed ≤ k → (s.tx_urbs k).linked = true
  rx_held : ∀ k, (s.rx_urbs k).urb.WithBuffer (2 * (s.rx_urbs k).in_flight.toNat)
  commands : ∀ command ∈ s.commands, command.Command
  rx_back : s.phase.rx_back = true → ∀ k, (s.rx_urbs k).in_flight = false
  tx_back : s.phase.tx_back = true → ∀ k, (s.tx.context k).in_flight = false
  round : ∀ i, s.phase = .unlink i → i < MAX_TX_URBS

/-- Plugged in, each context holds its allocation reference. -/
theorem urbInv_plugged_in {tx : TxState E} (h : tx.Unused slots) :
    UrbInv (UrbState.plugged_in tx) := by
  have hidle : ∀ k, (tx.context k).in_flight = false := by
    intro k
    rw [TxState.context]
    split
    · exact (h.contexts _).2
    · rfl
  refine ⟨fun k => ⟨fun hflight => ?_, ?_, fun _ => rfl⟩, fun k _ => rfl,
    fun _ => alloc_rx_urb_held, nofun, nofun, nofun, nofun⟩
  · rw [UrbState.plugged_in, hidle k] at hflight
    cases hflight
  · rw [UrbState.plugged_in]
    dsimp only
    rw [hidle k]
    exact alloc_with_buffer_held

/-- Only a transmit call gives the core a URB. -/
theorem in_flight_before {tx tx' : TxState E} {action : TxAction}
    (hother : action.is_transmit = false) (hstep : tx.step slots action = some tx') {k : ℕ}
    (hflight : (tx'.context k).in_flight = true) : (tx.context k).in_flight = true := by
  -- a completion takes one away
  have hback : ∀ (i : Fin PCAN_USB_MAX_TX_URBS) (ctx : TxContext), ctx.in_flight = false →
      tx'.tx_contexts = Function.update tx.tx_contexts i ctx →
      (tx.context k).in_flight = true := by
    intro i ctx hctx hcontexts
    rw [context_update hcontexts] at hflight
    rcases eq_or_ne k i with rfl | hne
    · rw [Function.update_self, hctx] at hflight
      cases hflight
    · rwa [Function.update_of_ne hne] at hflight
  cases tx_step_cases slots hstep with
  | transmit => cases hother
  | complete i status _ _ hcomplete =>
    cases hcomplete with
    | kept _ hcontexts => exact hback i _ rfl hcontexts
    | gave_back _ _ hcontexts => exact hback i _ rfl hcontexts
  | check_active => exact hflight
  | stop_queue => exact hflight
  | detach => exact hflight

/-- An action on the transmit path. Behind the wait for the URBs of the contexts none of them
comes back to the core. -/
theorem UrbInv.transmit_path {s : UrbState E} (h : UrbInv s) {action : TxAction}
    {tx' : TxState E} (hplugged : action.is_transmit = true → s.phase = .plugged_in)
    (htx : s.tx.step slots action = some tx') :
    UrbInv { s with tx := tx', tx_urbs := s.tx.count_urbs s.tx_urbs action } := by
  refine ⟨contextsHeld_tx h.contexts ?_ htx, ?_, h.rx_held, h.commands, h.rx_back, ?_, h.round⟩
  · intro htransmit k
    refine h.ahead k ?_
    rw [hplugged htransmit]
    exact Nat.zero_le k
  · intro k hk
    rw [count_urbs_linked]
    exact h.ahead k hk
  · intro hback k
    have hother : action.is_transmit = false := by
      by_contra htransmit
      have hphase := hplugged (Bool.eq_true_of_not_eq_false htransmit)
      rw [hphase] at hback
      cases hback
    by_contra hflight
    have hbefore := in_flight_before hother htx (Bool.eq_true_of_not_eq_false hflight)
    rw [h.tx_back hback k] at hbefore
    cases hbefore

/-- A round of `usbdrv_unlink_all_urbs`. -/
theorem UrbInv.unlink {s : UrbState E} (h : UrbInv s) {i : ℕ} (hphase : s.phase = .unlink i) :
    UrbInv { s with
      tx_urbs := Function.update s.tx_urbs i
        (unlink_round (s.tx.context i).echo_index (s.tx_urbs i))
      phase := if i + 1 < MAX_TX_URBS then .unlink (i + 1) else .kill_tx_urbs } := by
  obtain ⟨hcontexts, hahead, hrx, hcommands, hrxback, -, hround⟩ := h
  rw [hphase] at hahead hrxback
  refine ⟨?_, fun k hk => ?_, hrx, hcommands, fun _ => hrxback rfl, fun hback => ?_,
    fun j hj => ?_⟩
  · apply (Function.forall_update_iff s.tx_urbs fun k link => link.Held (s.tx.context k)).mpr
    exact ⟨(hcontexts i).unlink, fun k _ => hcontexts k⟩
  · dsimp only at hk ⊢
    rw [passed_next (hround i hphase)] at hk
    rw [Function.update_of_ne (by omega)]
    apply hahead k
    rw [UnplugPhase.passed]
    omega
  · dsimp only at hback
    split at hback
    · cases hback
    · cases hback
  · dsimp only at hj
    split at hj
    · rename_i hmore
      cases hj
      exact hmore
    · cases hj

/-- Each step counts the references that it takes or drops. -/
theorem urbInv_step {s s' : UrbState E} {action : UrbAction} (h : UrbInv s)
    (hstep : s.step slots action = some s') : UrbInv s' := by
  obtain ⟨hcontexts, hahead, hrx, hcommands, hrxback, htxback, hround⟩ := id h
  cases urb_step_cases hstep with
  | tx action tx' hplugged htx => exact h.transmit_path hplugged htx
  | complete_rx k resubmit hflight =>
    have hheld := hrx k
    rw [hflight] at hheld
    refine ⟨hcontexts, hahead, ?_, hcommands, fun hback => ?_, htxback, hround⟩
    · apply (Function.forall_update_iff s.rx_urbs
        fun _ rx => rx.urb.WithBuffer (2 * rx.in_flight.toNat)).mpr
      exact ⟨complete_rx_urb_held hheld resubmit, fun l _ => hrx l⟩
    · rw [hrxback hback k] at hflight
      cases hflight
  | command outcome =>
    refine ⟨hcontexts, hahead, hrx, ?_, hrxback, htxback, hround⟩
    dsimp only
    rw [List.forall_mem_append]
    refine ⟨hcommands, fun command hmem => ?_⟩
    exact pcan_oneway_command_async_urb_command (Option.mem_toList.mp hmem)
  | complete_command j status command hget hflight =>
    refine ⟨hcontexts, hahead, hrx, fun other hmem => ?_, hrxback, htxback, hround⟩
    rcases List.mem_or_eq_of_mem_set hmem with hold | rfl
    · exact hcommands other hold
    · have hcommand := hcommands command (List.mem_of_getElem? hget)
      exact .completed rfl (complete_command_urb_freed hcommand hflight)
  | plugout hphase =>
    rw [hphase] at hahead
    exact ⟨hcontexts, hahead, hrx, hcommands, nofun, nofun, nofun⟩
  | rx_killed hphase hnone =>
    rw [hphase] at hahead
    refine ⟨hcontexts, hahead, hrx, hcommands, fun _ => hnone, nofun, fun i hi => ?_⟩
    cases hi
    decide
  | unlink i hphase => exact h.unlink hphase
  | tx_killed hphase hnone =>
    rw [hphase] at hahead hrxback
    refine ⟨hcontexts.congr rfl, hahead, hrx, hcommands, fun _ => hrxback rfl, fun _ k => ?_,
      nofun⟩
    rw [TxState.context]
    split
    · exact hnone _
    · rfl
  | destroy hphase =>
    rw [hphase] at hahead hrxback htxback
    exact ⟨hcontexts, hahead, hrx, hcommands, fun _ => hrxback rfl, fun _ => htxback rfl, nofun⟩

/-! ## Which references are dropped -/

/-- No reference of an allocation is left over so far: no context passed is still linked,
and no command given back is still allocated. -/
@[mk_iff]
structure UrbState.Clean (s : UrbState E) : Prop where
  unlinked : ∀ k < s.phase.passed, (s.tx_urbs k).linked = false
  freed : ∀ command ∈ s.commands, command.in_flight = false → command.urb.FreedOnce

/-- A step that passes no context and touches no command. -/
theorem clean_congr {s s' : UrbState E} {action : UrbAction} (hdrops : DropsAllocation s action)
    (hpassed : s'.phase.passed = s.phase.passed)
    (hlinked : ∀ k, (s'.tx_urbs k).linked = (s.tx_urbs k).linked)
    (hcommands : s'.commands = s.commands) : s'.Clean ↔ s.Clean ∧ DropsAllocation s action := by
  simp only [UrbState.clean_iff, hpassed, hlinked, hcommands, hdrops, and_true]

/-- What one entry meets before and after does not depend on it. -/
theorem forall_mem_set_iff {α : Type} {Q : α → Prop} {l : List α} {j : ℕ} {a b : α}
    (hget : l[j]? = some a) (ha : Q a) (hb : Q b) :
    (∀ x ∈ l.set j b, Q x) ↔ ∀ x ∈ l, Q x := by
  constructor
  · intro h x hx
    obtain ⟨i, hi⟩ := List.mem_iff_getElem?.mp hx
    rcases eq_or_ne j i with rfl | hne
    · obtain rfl := Option.some.inj (hget.symm.trans hi)
      exact ha
    · refine h x (List.mem_iff_getElem?.mpr ⟨i, ?_⟩)
      rw [List.getElem?_set_ne hne, hi]
  · intro h x hx
    rcases List.mem_or_eq_of_mem_set hx with hold | rfl
    · exact h x hold
    · exact hb

/-- A statement about the first contexts, with the last of them changed. -/
theorem forall_lt_succ_update_iff {α : Type} {Q : α → Prop} (f : ℕ → α) (i : ℕ) (a : α) :
    (∀ k < i + 1, Q (Function.update f i a k)) ↔ (∀ k < i, Q (f k)) ∧ Q a := by
  rw [Nat.forall_lt_succ_right, Function.update_self]
  refine and_congr_left fun _ => forall₂_congr fun k hk => ?_
  rw [Function.update_of_ne hk.ne]

/-- A round leaves no link behind exactly if its context has no echo index. -/
theorem clean_unlink_iff {s : UrbState E} (h : UrbInv s) {i : ℕ} (hphase : s.phase = .unlink i) :
    UrbState.Clean { s with
        tx_urbs := Function.update s.tx_urbs i
          (unlink_round (s.tx.context i).echo_index (s.tx_urbs i))
        phase := if i + 1 < MAX_TX_URBS then .unlink (i + 1) else .kill_tx_urbs }
      ↔ s.Clean ∧ DropsAllocation s .unlink := by
  have hlinked : (s.tx_urbs i).linked = true := by
    apply h.ahead
    rw [hphase]
    exact le_rfl
  have hdrops : DropsAllocation s .unlink ↔ (s.tx.context i).echo_index = 0 := by
    rw [DropsAllocation, hphase]
  have hpassed : s.phase.passed = i := by
    rw [hphase]
    rfl
  rw [hdrops, ← unlink_round_linked _ hlinked, UrbState.clean_iff, UrbState.clean_iff, hpassed]
  dsimp only
  rw [passed_next (h.round i hphase),
    forall_lt_succ_update_iff (Q := fun link : ContextUrb => link.linked = false), and_right_comm]

/-- A step leaves all clean exactly if it was, and the step drops the reference that it is the
last to know of. -/
theorem clean_step_iff {s s' : UrbState E} {action : UrbAction} (h : UrbInv s)
    (hstep : s.step slots action = some s') :
    s'.Clean ↔ s.Clean ∧ DropsAllocation s action := by
  cases urb_step_cases hstep with
  | unlink i hphase => exact clean_unlink_iff h hphase
  | command outcome =>
    rw [UrbState.clean_iff, UrbState.clean_iff, and_assoc]
    refine and_congr_right fun _ => ?_
    dsimp only
    rw [List.forall_mem_append]
    refine and_congr_right fun _ => ?_
    simp only [Option.mem_toList]
    exact command_freed_iff outcome
  | complete_command j status command hget hflight =>
    have hcommand := h.commands command (List.mem_of_getElem? hget)
    have hset := forall_mem_set_iff
      (Q := fun other : CoreUrb => other.in_flight = false → other.urb.FreedOnce) hget
      (fun hback => by rw [hflight] at hback; cases hback)
      (fun _ => complete_command_urb_freed hcommand hflight)
    rw [UrbState.clean_iff, UrbState.clean_iff, hset]
    exact (and_iff_left trivial).symm
  | tx action => exact clean_congr trivial rfl (count_urbs_linked s.tx s.tx_urbs action) rfl
  | complete_rx => exact clean_congr trivial rfl (fun _ => rfl) rfl
  | plugout hphase | rx_killed hphase | tx_killed hphase | destroy hphase =>
    have hpassed := congrArg UnplugPhase.passed hphase
    exact clean_congr trivial hpassed.symm (fun _ => rfl) rfl

/-- At the end everything is freed, and once only, if no reference is left over. -/
theorem allFreedOnce_iff {s : UrbState E} (h : UrbInv s) (hended : s.Ended) :
    s.AllFreedOnce ↔ s.Clean := by
  obtain ⟨hphase, hback⟩ := hended
  have hcontext : ∀ k, (s.tx_urbs k).urb.FreedOnce ↔ (s.tx_urbs k).linked = false := by
    intro k
    have hheld := (h.contexts k).held
    rw [h.tx_back (by rw [hphase]; rfl) k] at hheld
    rw [hheld.freed_once_iff]
    cases (s.tx_urbs k).linked with
    | false => exact iff_of_true rfl rfl
    | true => exact iff_of_false nofun nofun
  have hrx : ∀ k, (s.rx_urbs k).urb.FreedOnce := by
    intro k
    have hheld := h.rx_held k
    rw [h.rx_back (by rw [hphase]; rfl) k] at hheld
    exact hheld.freed_once_iff.mpr rfl
  have hpassed : s.phase.passed = MAX_TX_URBS := by
    rw [hphase]
    rfl
  constructor
  · rintro ⟨htx, -, hcommands⟩
    refine ⟨fun k hk => (hcontext k).mp (htx k (hpassed ▸ hk)), fun command hmem _ => ?_⟩
    exact hcommands command hmem
  · intro hclean
    refine ⟨fun k hk => (hcontext k).mpr (hclean.unlinked k (hpassed ▸ hk)), hrx,
      fun command hmem => ?_⟩
    exact hclean.freed command hmem (hback command hmem)

/-- In every run of a device that was plugged in successfully, up to the end of its
forwarder and with all commands given back, every URB and every transfer buffer is freed
exactly once, if and only if each round of `usbdrv_unlink_all_urbs` finds its context
without an echo index and no command fails that has got a URB. -/
theorem urbs_freed_once_iff (slots : EchoSlots E) (tx : TxState E) (actions : List UrbAction)
    (s : UrbState E) (hunused : tx.Unused slots)
    (hrun : Runs.run (UrbState.step slots) (UrbState.plugged_in tx) actions = some s)
    (hended : s.Ended) :
    s.AllFreedOnce
      ↔ Runs.Along (UrbState.step slots) DropsAllocation (UrbState.plugged_in tx) actions := by
  have hinv : ∀ s a s', UrbInv s → s.step slots a = some s' → UrbInv s' :=
    fun s a s' h hstep => urbInv_step h hstep
  have hclean : ∀ s a s', UrbInv s → s.step slots a = some s' →
      (s'.Clean ↔ s.Clean ∧ DropsAllocation s a) := fun s a s' h hstep => clean_step_iff h hstep
  have hstart : (UrbState.plugged_in tx).Clean := ⟨nofun, nofun⟩
  have hs := Runs.run_invariant (UrbState.step slots) hinv (urbInv_plugged_in hunused) hrun
  rw [allFreedOnce_iff hs hended, Runs.run_good_iff (UrbState.step slots) hinv hclean
    (urbInv_plugged_in hunused) hrun]
  exact and_iff_right hstart

end

/-- A device is pulled: the receive URBs come back, all contexts have their round, and
`late` happens before the forwarder is destroyed. -/
def unplug (late : List UrbAction) : List UrbAction :=
  UrbAction.plugout :: (List.finRange PCAN_USB_MAX_RX_URBS).map (UrbAction.complete_rx · none)
    ++ UrbAction.rx_killed :: List.replicate MAX_TX_URBS UrbAction.unlink
    ++ late ++ [UrbAction.tx_killed, UrbAction.destroy]

/-- A frame and a command go out, and both have completed before the device is pulled. -/
def completed_and_pulled : List UrbAction :=
  .tx (.transmit CanFrame.zero false 0) :: .tx .check_active :: .command ⟨true, true, 0⟩
    :: .complete_command 0 0 :: .tx (.complete first_context 0) :: unplug []

theorem urbs_freed_once_iff_completed : ∃ s,
    Runs.run (UrbState.step EchoSlots.kernel) (UrbState.plugged_in TxState.opened)
      completed_and_pulled = some s
      ∧ s.AllFreedOnce := by
  obtain ⟨s, hrun, hphase, hback⟩ : ∃ s, Runs.run (UrbState.step EchoSlots.kernel)
        (UrbState.plugged_in TxState.opened) completed_and_pulled = some s
      ∧ s.phase = .destroyed ∧ ∀ command ∈ s.commands, command.in_flight = false :=
    Runs.exists_run_of_any (UrbState.step EchoSlots.kernel) (by decide)
  refine ⟨s, hrun, ?_⟩
  have hiff := urbs_freed_once_iff EchoSlots.kernel TxState.opened completed_and_pulled s
    TxState.opened_unused hrun ⟨hphase, hback⟩
  exact hiff.mpr (by decide +kernel)

/-- A device is pulled while a frame is on its way; the URB completes when all contexts
have had their round. -/
def pulled_with_frame : List UrbAction :=
  .tx (.transmit CanFrame.zero false 0) :: .tx .check_active
    :: unplug [.tx (.complete first_context (-ENOENT))]

/-- Its URB and its transfer buffer are never freed. -/
theorem urb_in_flight_never_freed : ¬ ∀ (tx : TxState (ℕ → Option ℕ))
    (actions : List UrbAction) (s : UrbState (ℕ → Option ℕ)), tx.Unused EchoSlots.kernel →
    Runs.run (UrbState.step EchoSlots.kernel) (UrbState.plugged_in tx) actions = some s →
    s.Ended → s.AllFreedOnce := by
  intro hall
  obtain ⟨s, hrun, hphase, hcommands, hurb⟩ : ∃ s, Runs.run (UrbState.step EchoSlots.kernel)
        (UrbState.plugged_in TxState.opened) pulled_with_frame = some s
      ∧ s.phase = .destroyed ∧ s.commands = [] ∧ (s.tx_urbs 0).urb.kref.freed = 0 :=
    Runs.exists_run_of_any (UrbState.step EchoSlots.kernel) (by decide)
  have hended : s.Ended := ⟨hphase, by rw [hcommands]; exact fun _ hmem => nomatch hmem⟩
  obtain ⟨hfreed, -, -⟩ :=
    hall TxState.opened pulled_with_frame s TxState.opened_unused hrun hended
  have honce := (hfreed 0 (by decide)).urb_once
  rw [hurb] at honce
  cases honce

end DualPcanUsb
