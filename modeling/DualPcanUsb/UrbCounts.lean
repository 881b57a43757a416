/-
URBs as the USB core counts them.

The core counts references: one for the allocation, one for an anchor, one for a submission
that went through; a completion gives the last two back, and with the last of all goes the
transfer buffer if `URB_FREE_BUFFER` is set. The transmit and receive URBs have that flag. The
URB of an asynchronous command has not, its completion frees both, and where the command
fails behind `usb_alloc_urb` nobody does.
-/
import DualPcanUsb.Recovery
import DualPcanUsb.Lib.RefCount

set_option autoImplicit false

namespace DualPcanUsb

open RefCount

/-! ## URBs and their counts -/

/-- A URB as the USB core counts it; `transfer_buffer` is how often its buffer has been
freed, if it has one. -/
structure CountedUrb where
  kref : Kref
  free_buffer : Bool
  transfer_buffer : Option ℕ
deriving DecidableEq, Repr

def kfree (buf : Option ℕ) : Option ℕ := buf.map (· + 1)

def usb_alloc_urb : CountedUrb := ⟨.init, false, none⟩

def usb_get_urb (urb : CountedUrb) : CountedUrb := { urb with kref := urb.kref.get }

def usb_free_urb (urb : CountedUrb) : CountedUrb :=
  { urb with
    kref := urb.kref.put
    transfer_buffer :=
      if urb.free_buffer && urb.kref.last then kfree urb.transfer_buffer
      else urb.transfer_buffer }

def usb_anchor_urb (urb : CountedUrb) : CountedUrb := usb_get_urb urb

def usb_unanchor_urb (urb : CountedUrb) : CountedUrb := usb_free_urb urb

def usb_submit_urb (submit_err : Int) (urb : CountedUrb) : CountedUrb :=
  if submit_err = 0 then usb_get_urb urb else urb

/-- An anchored URB completes: it leaves its anchor, its handler runs, and the core drops
the submission's reference. -/
def usb_hcd_giveback_urb (complete : CountedUrb → CountedUrb) (urb : CountedUrb) : CountedUrb :=
  usb_free_urb (complete (usb_unanchor_urb urb))

/-! ## The functions -/

/-- A URB and whether the USB core has it. -/
structure CoreUrb where
  urb : CountedUrb
  in_flight : Bool
deriving DecidableEq, Repr

/-- The URB of a transmit context; `linked` is that `ctx->urb` is not `NULL`. -/
structure ContextUrb where
  urb : CountedUrb
  linked : Bool
deriving DecidableEq, Repr

/-- A URB with a buffer that its last `usb_free_urb` frees. -/
def alloc_with_buffer : CountedUrb :=
  { usb_alloc_urb with free_buffer := true, transfer_buffer := some 0 }

/-- A round of the first loop of `usbdrv_alloc_urbs`, which keeps no reference. -/
def alloc_rx_urb : CoreUrb :=
  ⟨usb_free_urb (usb_submit_urb 0 (usb_anchor_urb alloc_with_buffer)), true⟩

/-- A round of the second loop. -/
def alloc_tx_urb : ContextUrb := ⟨alloc_with_buffer, true⟩

/-- Anchoring and submitting, as `pcan_net_start_transmit` and `usb_read_bulk_callback`
do. -/
def anchor_and_submit (submit_err : Int) (urb : CountedUrb) : CountedUrb :=
  let urb := usb_submit_urb submit_err (usb_anchor_urb urb)
  if submit_err ≠ 0 then usb_unanchor_urb urb else urb

/-- The completion of a receive URB, which may submit it again. -/
def complete_rx_urb (resubmit : Option Int) (rx : CoreUrb) : CoreUrb where
  urb := usb_hcd_giveback_urb
    (match resubmit with
      | none => id
      | some submit_err => anchor_and_submit submit_err) rx.urb
  in_flight := resubmit = some 0

/-- `pcan_oneway_command_async` with its URB, if it gets one: what it returns, and the URB as
it is left. -/
def pcan_oneway_command_async_urb (outcome : AsyncOutcome) : Int × Option CoreUrb :=
  let urb := if outcome.urb then some usb_alloc_urb else none
  let buf := if urb.isSome && outcome.buf then some 0 else none
  let err := if buf.isSome then 0 else -ENOMEM
  let urb := if err = 0 then urb.map fun urb => { urb with transfer_buffer := buf } else urb
  let err := if err = 0 then outcome.submit_err else err
  if err = 0 then (0, urb.map fun urb => ⟨usb_submit_urb err urb, true⟩)
  else
    -- both are called for `NULL` only
    let urb := if urb.isNone then urb.map usb_free_urb else urb
    let buf := if buf.isNone then kfree buf else buf
    (err, urb.map fun urb => ⟨{ urb with transfer_buffer := buf }, false⟩)

def usbdrv_default_completion (urb : CountedUrb) : CountedUrb :=
  let urb := if ¬ urb.free_buffer then { urb with transfer_buffer := kfree urb.transfer_buffer }
    else urb
  usb_free_urb urb

/-- The completion of a command, which is not anchored. -/
def complete_command_urb (command : CoreUrb) : CoreUrb :=
  ⟨usb_free_urb (usbdrv_default_completion command.urb), false⟩

/-- A round of `usbdrv_unlink_all_urbs` for the context with this echo index. -/
def unlink_round (echo_index : u32) (ctx : ContextUrb) : ContextUrb :=
  if ¬ ctx.linked ∨ echo_index ≠ 0 then ctx else ⟨usb_free_urb ctx.urb, false⟩

/-- The URB and its buffer have been freed, and once only. -/
structure CountedUrb.FreedOnce (urb : CountedUrb) : Prop where
  urb_once : urb.kref.freed = 1
  buffer_once : ∀ freed ∈ urb.transfer_buffer, freed = 1

/-! ## Counting references -/

/-- A URB with so many holders whose buffer goes with the last of them. -/
structure CountedUrb.WithBuffer (urb : CountedUrb) (holders : ℕ) : Prop where
  held : urb.kref.HeldBy holders
  flag : urb.free_buffer = true
  buffer_eq : urb.transfer_buffer = some urb.kref.freed

theorem alloc_with_buffer_held : alloc_with_buffer.WithBuffer 1 := ⟨held_init, rfl, rfl⟩

section

variable {urb : CountedUrb} {holders : ℕ}

theorem CountedUrb.WithBuffer.get (h : urb.WithBuffer (holders + 1)) :
    (usb_get_urb urb).WithBuffer (holders + 2) :=
  ⟨h.held.get, h.flag, h.buffer_eq⟩

/-- One holder gives its reference back. -/
theorem CountedUrb.WithBuffer.free (h : urb.WithBuffer (holders + 1)) :
    (usb_free_urb urb).WithBuffer holders := by
  refine ⟨h.held.put, h.flag, ?_⟩
  rw [usb_free_urb, h.flag, Bool.true_and, h.buffer_eq]
  cases hlast : urb.kref.last with
  | false => rw [Kref.put, hlast]; rfl
  | true => rw [Kref.put, hlast]; rfl

/-- A submission that fails leaves the URB with those who had it. -/
theorem CountedUrb.WithBuffer.submit (h : urb.WithBuffer (holders + 1)) (submit_err : Int) :
    (anchor_and_submit submit_err urb).WithBuffer
      (holders + 1 + 2 * (decide (submit_err = 0)).toNat) := by
  have hanchored : (usb_anchor_urb urb).WithBuffer (holders + 2) := h.get
  rw [anchor_and_submit, usb_submit_urb]
  by_cases hok : submit_err = 0
  · rw [if_pos hok, if_neg (not_not.mpr hok), decide_eq_true hok]
    exact hanchored.get
  · rw [if_neg hok, if_pos hok, decide_eq_false hok]
    exact hanchored.free

theorem CountedUrb.WithBuffer.giveback (h : urb.WithBuffer (holders + 2)) :
    (usb_hcd_giveback_urb id urb).WithBuffer holders :=
  CountedUrb.WithBuffer.free (CountedUrb.WithBuffer.free h)

/-- Nothing is freed twice, and nothing while it is held. -/
theorem CountedUrb.WithBuffer.freed_once_iff (h : urb.WithBuffer holders) :
    urb.FreedOnce ↔ holders = 0 := by
  rw [← h.held.freed_once_iff]
  refine ⟨fun hfreed => hfreed.urb_once, fun honce => ⟨honce, fun freed hmem => ?_⟩⟩
  rw [h.buffer_eq, Option.mem_some_iff] at hmem
  exact hmem ▸ honce

theorem alloc_rx_urb_held : alloc_rx_urb.urb.WithBuffer 2 :=
  CountedUrb.WithBuffer.free
    (CountedUrb.WithBuffer.get (CountedUrb.WithBuffer.get alloc_with_buffer_held))

/-- Resubmitted, a URB keeps both references; given up, none. -/
theorem complete_rx_urb_held {rx : CoreUrb} (h : rx.urb.WithBuffer 2) (resubmit : Option Int) :
    (complete_rx_urb resubmit rx).urb.WithBuffer
      (2 * (complete_rx_urb resubmit rx).in_flight.toNat) := by
  have hback : (usb_unanchor_urb rx.urb).WithBuffer 1 := h.free
  cases resubmit with
  | none => exact hback.free
  | some submit_err =>
    have hsubmit := hback.submit submit_err
    rw [show 0 + 1 + 2 * (decide (submit_err = 0)).toNat
      = 2 * (decide (submit_err = 0)).toNat + 1 by omega] at hsubmit
    have hflight : (complete_rx_urb (some submit_err) rx).in_flight = decide (submit_err = 0) :=
      decide_eq_decide.mpr (by rw [Option.some.injEq])
    rw [hflight]
    exact hsubmit.free

end

/-! ## Commands -/

/-- A command is in flight, or was freed by its completion, or failed with its URB left
over. -/
inductive CoreUrb.Command (command : CoreUrb) : Prop
  | submitted (hflight : command.in_flight = true) (held : command.urb.kref.HeldBy 2)
      (flag : command.urb.free_buffer = false) (buffer : command.urb.transfer_buffer = some 0)
  | completed (hback : command.in_flight = false) (hfreed : command.urb.FreedOnce)
  | lost (hback : command.in_flight = false) (held : command.urb.kref.HeldBy 1)

/-- What it returns is what is returned where its URB is not looked at. -/
theorem pcan_oneway_command_async_urb_fst (outcome : AsyncOutcome) :
    (pcan_oneway_command_async_urb outcome).1 = pcan_oneway_command_async outcome := by
  obtain ⟨urb, buf, submit_err⟩ := outcome
  rw [pcan_oneway_command_async_urb, pcan_oneway_command_async]
  cases urb with
  | false => rfl
  | true =>
    cases buf with
    | false => rfl
    | true =>
      by_cases hok : submit_err = 0
      · subst hok
        rfl
      · simp [hok]

/-- The URB of a command that went through. -/
def submitted_urb : CoreUrb := ⟨⟨⟨2, 0⟩, false, some 0⟩, true⟩

theorem submitted_urb_command : submitted_urb.Command := .submitted rfl ⟨rfl, rfl⟩ rfl rfl

/-- No URB, a URB in flight, or one that is lost with its first reference. -/
theorem pcan_oneway_command_async_urb_cases (outcome : AsyncOutcome) :
    outcome.urb = false ∧ (pcan_oneway_command_async_urb outcome).2 = none
      ∨ (outcome.buf = true ∧ outcome.submit_err = 0)
        ∧ (pcan_oneway_command_async_urb outcome).2 = some submitted_urb
      ∨ outcome.urb = true ∧ ¬ (outcome.buf = true ∧ outcome.submit_err = 0)
        ∧ ∃ lost : CoreUrb, (pcan_oneway_command_async_urb outcome).2 = some lost
          ∧ lost.in_flight = false ∧ lost.urb.kref = .init := by
  obtain ⟨urb, buf, submit_err⟩ := outcome
  cases urb with
  | false => exact .inl ⟨rfl, rfl⟩
  | true =>
    cases buf with
    | false => exact .inr (.inr ⟨rfl, nofun, _, rfl, rfl, rfl⟩)
    | true =>
      by_cases hok : submit_err = 0
      · subst hok
        exact .inr (.inl ⟨⟨rfl, rfl⟩, rfl⟩)
      · refine .inr (.inr ⟨rfl, fun h => hok h.2, ⟨⟨.init, false, some 0⟩, false⟩, ?_, rfl, rfl⟩)
        rw [pcan_oneway_command_async_urb]
        simp [hok, usb_alloc_urb]

/-- What the asynchronous command leaves is a command's URB. -/
theorem pcan_oneway_command_async_urb_command {outcome : AsyncOutcome} {command : CoreUrb}
    (h : (pcan_oneway_command_async_urb outcome).2 = some command) : command.Command := by
  obtain ⟨-, hnone⟩ | ⟨-, hsome⟩ | ⟨-, -, lost, hsome, hback, hkref⟩ :=
    pcan_oneway_command_async_urb_cases outcome
  · cases hnone.symm.trans h
  · cases hsome.symm.trans h
    exact submitted_urb_command
  · cases hsome.symm.trans h
    exact .lost hback (hkref ▸ held_init)

/-- No URB is left over exactly if a command that gets one does not fail. -/
theorem command_freed_iff (outcome : AsyncOutcome) :
    (∀ command, (pcan_oneway_command_async_urb outcome).2 = some command →
        command.in_flight = false → command.urb.FreedOnce)
      ↔ (outcome.urb = true → outcome.buf = true ∧ outcome.submit_err = 0) := by
  obtain ⟨hurb, hnone⟩ | ⟨hok, hsome⟩ | ⟨hurb, hfail, lost, hsome, hback, hkref⟩ :=
    pcan_oneway_command_async_urb_cases outcome
  · rw [hnone, hurb]
    exact iff_of_true nofun nofun
  · rw [hsome]
    refine iff_of_true ?_ fun _ => hok
    rintro command hmem hback
    cases hmem
    cases hback
  · refine iff_of_false (fun hall => ?_) (fun h => hfail (h hurb))
    -- it is held by its allocation for good
    have honce := (hall lost hsome hback).urb_once
    rw [hkref] at honce
    cases honce

/-- A command that completes frees its URB. -/
theorem complete_command_urb_freed {command : CoreUrb} (h : command.Command)
    (hflight : command.in_flight = true) : (complete_command_urb command).urb.FreedOnce := by
  cases h with
  | completed hback => rw [hflight] at hback; cases hback
  | lost hback => rw [hflight] at hback; cases hback
  | submitted _ held flag buffer =>
    -- the handler frees the buffer itself, then both references go
    have hput := held.put.put
    refine ⟨?_, ?_⟩
    · rw [complete_command_urb, usbdrv_default_completion, if_pos (by rw [flag]; nofun)]
      exact hput.freed_once_iff.mpr rfl
    · intro freed hmem
      rw [complete_command_urb, usbdrv_default_completion, if_pos (by rw [flag]; nofun)] at hmem
      dsimp only [usb_free_urb] at hmem
      rw [flag, Bool.false_and, Bool.false_and, buffer] at hmem
      exact (Option.some.inj hmem).symm

/-! ## Rounds of `usbdrv_unlink_all_urbs` -/

/-- A round unlinks a context without an echo index, and passes any other. -/
theorem unlink_round_cases (echo_index : u32) (ctx : ContextUrb) :
    (ctx.linked = false ∨ echo_index ≠ 0) ∧ unlink_round echo_index ctx = ctx
      ∨ (ctx.linked = true ∧ echo_index = 0)
        ∧ unlink_round echo_index ctx = ⟨usb_free_urb ctx.urb, false⟩ := by
  by_cases hskip : ¬ ctx.linked = true ∨ echo_index ≠ 0
  · refine .inl ⟨?_, if_pos hskip⟩
    rwa [Bool.not_eq_true] at hskip
  · refine .inr ⟨?_, if_neg hskip⟩
    rwa [not_or, not_not, not_not] at hskip

/-- A linked context is unlinked for want of an echo index. -/
theorem unlink_round_linked (echo_index : u32) {ctx : ContextUrb} (hlinked : ctx.linked = true) :
    (unlink_round echo_index ctx).linked = false ↔ echo_index = 0 := by
  obtain ⟨hskip, hround⟩ | ⟨⟨-, hindex⟩, hround⟩ := unlink_round_cases echo_index ctx
  · rw [hround, hlinked] at *
    refine iff_of_false nofun ?_
    exact hskip.resolve_left nofun
  · rw [hround]
    exact iff_of_true rfl hindex

end DualPcanUsb
