/-
What the URBs in flight carry.

The encoder does not keep to its transmit buffer: the counter byte goes as far behind the
buffer as the record is long. `kmalloc` gives the buffers out as objects of 64 bytes, and
objects of one size may lie in a row, so the byte may land in the buffer of another URB. Here
the buffers lie in one memory, at any addresses 64 bytes apart. The URBs in flight carry the
frames they were submitted for exactly as long as no counter byte lands in the record of one
of them with another value.
-/
import DualPcanUsb.TxLedger
import DualPcanUsb.TxBuffer

set_option autoImplicit false

namespace DualPcanUsb

open SlotLedger

section

variable {E : Type} {slots : EchoSlots E}

/-! ## The memory of the buffers -/

def TxState.buffer (tx : TxState E) (i : Fin PCAN_USB_MAX_TX_URBS) : ℕ :=
  (tx.tx_contexts i).transfer_buffer

/-- Each buffer is an object of its own. -/
def TxState.BuffersApart (tx : TxState E) : Prop :=
  ∀ i j, i ≠ j → tx.buffer i + PCAN_USB_TX_BUFFER_SIZE ≤ tx.buffer j
    ∨ tx.buffer j + PCAN_USB_TX_BUFFER_SIZE ≤ tx.buffer i

/-- Where the counter byte goes that is stored behind a frame encoded at `addr`. -/
def counter_addr (addr : ℕ) (frame : CanFrame) : ℕ :=
  addr + ((encoded_bytes frame).length + PCAN_USB_TX_BUFFER_SIZE - 1)

/-- The memory behind the encoding of `frame` into the buffer of context `i`. -/
def TxState.encoded (tx : TxState E) (frame : CanFrame) (i : Fin PCAN_USB_MAX_TX_URBS) :
    ℕ → u8 :=
  memory_stored tx.mem (tx.buffer i)
    (pcan_encode_frame_to_buf (tx.shared_tx_counter.setWidth 8) frame
      (memory_from tx.mem (tx.buffer i)) PCAN_USB_TX_BUFFER_SIZE).bytes

/-- From the buffer on, the memory is what the encoder stores there. -/
theorem encoded_behind (tx : TxState E) (frame : CanFrame) (i : Fin PCAN_USB_MAX_TX_URBS)
    (n : ℕ) : tx.encoded frame i (tx.buffer i + n)
      = (pcan_encode_frame_to_buf (tx.shared_tx_counter.setWidth 8) frame
          (memory_from tx.mem (tx.buffer i)) PCAN_USB_TX_BUFFER_SIZE).bytes n := by
  unfold TxState.encoded memory_stored
  rw [if_pos (Nat.le_add_right ..), Nat.add_sub_cancel_left]

/-- The record is at the start of the buffer. -/
theorem encoded_holds (tx : TxState E) (frame : CanFrame) (i : Fin PCAN_USB_MAX_TX_URBS) :
    Holds (tx.encoded frame i) (tx.buffer i) (encoded_bytes frame) := by
  intro n hn
  rw [encoded_behind]
  exact encode_bytes _ _ _ (by decide) hn

/-- The counter byte is not in the buffer. -/
theorem encoded_counter (tx : TxState E) (frame : CanFrame) (i : Fin PCAN_USB_MAX_TX_URBS) :
    tx.encoded frame i (counter_addr (tx.buffer i) frame)
      = tx.shared_tx_counter.setWidth 8 := by
  rw [counter_addr, encoded_behind, encode_eq]
  exact Function.update_self ..

/-- The rest of the memory is as it was. -/
theorem encoded_elsewhere (tx : TxState E) (frame : CanFrame) (i : Fin PCAN_USB_MAX_TX_URBS)
    {a : ℕ} (hrecord : a < tx.buffer i ∨ tx.buffer i + (encoded_bytes frame).length ≤ a)
    (hcounter : a ≠ counter_addr (tx.buffer i) frame) : tx.encoded frame i a = tx.mem a := by
  by_cases hbehind : tx.buffer i ≤ a
  · obtain ⟨n, rfl⟩ := Nat.exists_eq_add_of_le hbehind
    have hlen : (encoded_bytes frame).length ≤ n := by omega
    have hne : n ≠ (encoded_bytes frame).length + PCAN_USB_TX_BUFFER_SIZE - 1 :=
      fun heq => hcounter (congrArg (tx.buffer i + ·) heq)
    rw [encoded_behind, encode_eq, store_bytes_of_ne _ _ hne, append_bytes_of_ge]
    · rfl
    · change 0 + _ ≤ n
      omega
  · exact if_neg hbehind

/-- The counter byte goes between 4 and 14 bytes behind the buffer. -/
theorem counter_addr_range (addr : ℕ) (frame : CanFrame) :
    addr + 68 ≤ counter_addr addr frame ∧ counter_addr addr frame ≤ addr + 78 := by
  obtain ⟨hmin, hmax⟩ := encoded_bytes_length frame
  unfold counter_addr PCAN_USB_TX_BUFFER_SIZE
  omega

/-! ## What a step does to it -/

/-- The memory behind an action. -/
def TxState.mem_after (tx : TxState E) : TxAction → ℕ → u8
  | .transmit frame invalid _ =>
    match tx.taken_context invalid with
    | none => tx.mem
    | some i => tx.encoded frame i
  | _ => tx.mem

/-- A context written back with the buffer that it had. -/
theorem buffer_update {tx tx' : TxState E} {i : Fin PCAN_USB_MAX_TX_URBS} {ctx : TxContext}
    (h : tx'.tx_contexts = Function.update tx.tx_contexts i ctx)
    (hsame : ctx.transfer_buffer = tx.buffer i) (j : Fin PCAN_USB_MAX_TX_URBS) :
    tx'.buffer j = tx.buffer j := by
  rw [TxState.buffer, h]
  rcases eq_or_ne j i with rfl | hne
  · rw [Function.update_self, hsame]
  · rw [Function.update_of_ne hne, TxState.buffer]

/-- A call encodes into the context it takes, or stores nothing. -/
theorem start_transmit_memory (frame : CanFrame) (invalid : Bool) (submit_err : Int)
    (tx : TxState E) :
    (pcan_net_start_transmit slots frame invalid submit_err tx).2.mem
        = tx.mem_after (.transmit frame invalid submit_err)
      ∧ ∀ j, (pcan_net_start_transmit slots frame invalid submit_err tx).2.buffer j
        = tx.buffer j := by
  unfold pcan_net_start_transmit TxState.mem_after TxState.taken_context
  dsimp only
  split
  · exact ⟨rfl, fun _ => rfl⟩
  split
  · exact ⟨rfl, fun _ => rfl⟩
  have hchoice : TxState.free_context { tx with skbs := tx.skbs + 1 } = tx.free_context := rfl
  rw [hchoice]
  cases tx.free_context with
  | none => exact ⟨rfl, fun _ => rfl⟩
  | some i =>
    dsimp only
    split
    · split
      · exact ⟨rfl, buffer_update (Function.update_idem ..) rfl⟩
      · exact ⟨rfl, buffer_update (Function.update_idem ..) rfl⟩
    · exact ⟨rfl, buffer_update (Function.update_idem ..) rfl⟩

/-- A completion stores nothing in the buffers. -/
theorem write_bulk_callback_memory (tx : TxState E) (i : Fin PCAN_USB_MAX_TX_URBS)
    (status : Int) :
    (usb_write_bulk_callback slots i status (tx.given_back i)).mem = tx.mem
      ∧ ∀ j, (usb_write_bulk_callback slots i status (tx.given_back i)).buffer j
        = tx.buffer j := by
  constructor
  · unfold usb_write_bulk_callback
    dsimp only
    split
    · rfl
    · split <;> rfl
  · have hcompletes : Completes slots (tx.completion status) i tx _ :=
      write_bulk_callback_completes tx i status
    exact buffer_update hcompletes.contexts_eq rfl

/-- What any action does to the memory is `mem_after`, and the buffers stay where they are. -/
theorem step_memory {tx tx' : TxState E} {action : TxAction}
    (h : tx.step slots action = some tx') :
    tx'.mem = tx.mem_after action ∧ ∀ j, tx'.buffer j = tx.buffer j := by
  cases action with
  | transmit frame invalid submit_err =>
    obtain ⟨-, ⟨⟩⟩ := Option.ite_none_right_eq_some.mp h
    exact start_transmit_memory frame invalid submit_err tx
  | check_active =>
    obtain ⟨-, ⟨⟩⟩ := Option.ite_none_right_eq_some.mp h
    exact ⟨rfl, fun _ => rfl⟩
  | stop_queue =>
    obtain ⟨-, ⟨⟩⟩ := Option.ite_none_right_eq_some.mp h
    exact ⟨rfl, fun _ => rfl⟩
  | complete i status =>
    obtain ⟨-, ⟨⟩⟩ := Option.ite_none_right_eq_some.mp h
    exact write_bulk_callback_memory tx i status
  | detach =>
    cases h
    exact ⟨rfl, fun _ => rfl⟩

/-! ## The frames in flight -/

variable (slots) in
/-- Each URB in flight was submitted for one socket buffer, whose frame is at the start of the
URB's buffer, and whose echo slot holds it or nothing. -/
def TxLedger.CarriesOwn (l : TxLedger E) : Prop :=
  ∀ i, l.tx.in_flight i = true → ∃ skb frame, l.carried i = some (skb, frame)
    ∧ Holds l.tx.mem (l.tx.buffer i) (encoded_bytes frame)
    ∧ (l.tx.echo_skb slots i = some skb ∨ l.tx.echo_skb slots i = none)

variable (slots) in
def EndsOwn (l : TxLedger E) (action : TxAction) : Prop :=
  ∀ l', l.step slots action = some l' → l'.CarriesOwn slots

/-- The counter byte of a call lands in no record in flight, or finds its value there. -/
def TxLedger.Spares (l : TxLedger E) : TxAction → Prop
  | .transmit frame invalid _ => l.tx.xmit = .idle → ∀ i ∈ l.tx.taken_context invalid,
    ∀ j, ∀ c ∈ l.carried j, ∀ k < (encoded_bytes c.2).length,
      l.tx.buffer j + k = counter_addr (l.tx.buffer i) frame →
      (encoded_bytes c.2)[k]? = some (l.tx.shared_tx_counter.setWidth 8)
  | _ => True

instance (l : TxLedger E) : DecidablePred l.Spares := by
  intro action
  unfold TxLedger.Spares
  cases action <;> infer_instance

/-- What the ledger has in flight is in memory. -/
structure OwnBytes (slots : EchoSlots E) (l : TxLedger E) : Prop where
  carries : Carries slots l
  apart : l.tx.BuffersApart
  holds : ∀ i, ∀ c ∈ l.carried i, Holds l.tx.mem (l.tx.buffer i) (encoded_bytes c.2)

/-- With nothing in flight there is nothing to be found in memory. -/
theorem OwnBytes.blank {tx : TxState E} (hunused : tx.Unused slots) (hskbs : tx.skbs = 0)
    (hapart : tx.BuffersApart) : OwnBytes slots (.blank tx) := by
  refine ⟨Carries.blank hunused hskbs, hapart, fun i c hc => ?_⟩
  cases hc

/-- What the ledger has in flight carries its own frame. -/
theorem OwnBytes.carriesOwn {l : TxLedger E} (h : OwnBytes slots l) : l.CarriesOwn slots := by
  intro i hflight
  obtain ⟨⟨skb, frame⟩, hc⟩ :=
    Option.isSome_iff_exists.mp ((h.carries.carried_iff i).trans hflight)
  exact ⟨skb, frame, hc, h.holds i _ hc, h.carries.own_echo i skb frame hc⟩

/-- A call that puts its frame in flight has taken a context. -/
theorem taken_of_fate {tx : TxState E} {invalid : Bool} {submit_err : Int}
    {i : Fin PCAN_USB_MAX_TX_URBS} (h : tx.fate invalid submit_err = .inr i) :
    tx.taken_context invalid = some i := by
  unfold TxState.fate at h
  split at h
  · cases h
  split at h
  · cases h
  next hlisten hvalid =>
  split at h
  · cases h
  next hfree =>
  split at h
  · cases h
  · cases h
    exact taken_context_eq_some_iff.mpr ⟨hlisten, hvalid, hfree⟩

/-- A context that a call takes has nothing in flight. -/
theorem Carries.taken_idle {l : TxLedger E} (h : Carries slots l) {invalid : Bool}
    {i : Fin PCAN_USB_MAX_TX_URBS} (htaken : l.tx.taken_context invalid = some i) :
    l.carried i = none := by
  obtain ⟨-, -, hfree⟩ := taken_context_eq_some_iff.mp htaken
  rw [← Option.not_isSome_iff_eq_none, h.carried_iff i, (h.free i (free_context_eq_some hfree)).1]
  exact Bool.false_ne_true

/-- A record in flight stays in memory across a call that spares it. -/
theorem OwnBytes.spared {l : TxLedger E} (h : OwnBytes slots l) {frame : CanFrame}
    {invalid : Bool} {submit_err : Int} (hidle : l.tx.xmit = .idle)
    (hspares : l.Spares (.transmit frame invalid submit_err)) {j : Fin PCAN_USB_MAX_TX_URBS}
    {c : ℕ × CanFrame} (hc : c ∈ l.carried j) :
    Holds (l.tx.mem_after (.transmit frame invalid submit_err)) (l.tx.buffer j)
      (encoded_bytes c.2) := by
  unfold TxState.mem_after
  dsimp only
  cases htaken : l.tx.taken_context invalid with
  | none => exact h.holds j c hc
  | some i =>
    intro k hk
    dsimp only
    by_cases hlands : l.tx.buffer j + k = counter_addr (l.tx.buffer i) frame
    · -- the byte found there is the byte that was there
      have hfound := hspares hidle i htaken j c hc k hk hlands
      rw [List.getElem?_eq_getElem hk, Option.some.injEq] at hfound
      rw [hlands, encoded_counter, hfound]
    · have hne : j ≠ i := by
        rintro rfl
        rw [h.carries.taken_idle htaken] at hc
        cases hc
      have hapart := h.apart j i hne
      have hlen := (encoded_bytes_length c.2).2
      have hlen' := (encoded_bytes_length frame).2
      have hsize : PCAN_USB_TX_BUFFER_SIZE = 64 := rfl
      rw [encoded_elsewhere _ _ _ (by omega) hlands]
      exact h.holds j c hc k hk

/-- Every action that spares the records in flight keeps them in memory. -/
theorem ownBytes_step (l : TxLedger E) (action : TxAction) (l' : TxLedger E)
    (h : OwnBytes slots l) (hspares : l.Spares action) (hstep : l.step slots action = some l') :
    OwnBytes slots l' := by
  have hcarries := carries_step l action l' h.carries hstep
  obtain ⟨hpath, hl'⟩ := ledger_step_eq_some slots hstep
  obtain ⟨hmem, hbuffer⟩ := step_memory hpath
  have hapart : l'.tx.BuffersApart := by
    intro i j hne
    rw [hbuffer i, hbuffer j]
    exact h.apart i j hne
  refine ⟨hcarries, hapart, fun j c hc => ?_⟩
  rw [hmem, hbuffer j]
  rw [hl'] at hc
  cases action with
  | transmit frame invalid submit_err =>
    obtain ⟨hidle, -⟩ := Option.ite_none_right_eq_some.mp hpath
    rw [TxLedger.entered] at hc
    split at hc
    · exact h.spared hidle hspares hc
    · next i hfate =>
      dsimp only at hc
      rcases eq_or_ne j i with rfl | hne
      · -- the frame just encoded
        rw [Function.update_self] at hc
        obtain rfl := Option.some.inj hc
        rw [TxState.mem_after, taken_of_fate hfate]
        exact encoded_holds l.tx frame j
      · rw [Function.update_of_ne hne] at hc
        exact h.spared hidle hspares hc
  | complete i status =>
    rw [TxLedger.entered] at hc
    dsimp only at hc
    rcases eq_or_ne j i with rfl | hne
    · rw [Function.update_self] at hc
      cases hc
    · rw [Function.update_of_ne hne] at hc
      exact h.holds j c hc
  | check_active => exact h.holds j c hc
  | stop_queue => exact h.holds j c hc
  | detach => exact h.holds j c hc

/-- A call that does not spare a record leaves its URB with another. -/
theorem spares_of_endsOwn {l : TxLedger E} {action : TxAction} (h : OwnBytes slots l)
    (hends : EndsOwn slots l action) : l.Spares action := by
  cases action with
  | transmit frame invalid submit_err =>
    intro hidle i htaken j c hc k hk hlands
    obtain ⟨l', hstep⟩ : ∃ l', l.step slots (.transmit frame invalid submit_err) = some l' := by
      rw [TxLedger.step, TxState.step, if_pos hidle]
      exact ⟨_, rfl⟩
    have hcarries := carries_step l _ l' h.carries hstep
    obtain ⟨hpath, hl'⟩ := ledger_step_eq_some slots hstep
    obtain ⟨hmem, hbuffer⟩ := step_memory hpath
    -- what was in flight still is, with another context taken at most
    have hcarried : l'.carried j = some c := by
      rw [hl', TxLedger.entered]
      split
      · exact hc
      · next i' hfate =>
        have hne : j ≠ i' := by
          rintro rfl
          rw [h.carries.taken_idle (taken_of_fate hfate)] at hc
          cases hc
        exact (Function.update_of_ne hne _ _).trans hc
    have hflight : l'.tx.in_flight j = true := by
      rw [← hcarries.carried_iff j, hcarried]
      rfl
    obtain ⟨skb, frame', hc', hholds, -⟩ := hends l' hstep j hflight
    obtain rfl := Option.some.inj (hcarried.symm.trans hc')
    have hbyte := hholds k hk
    rw [hbuffer, hmem, hlands, TxState.mem_after, htaken] at hbyte
    dsimp only at hbyte
    rw [encoded_counter] at hbyte
    exact (List.getElem?_eq_getElem hk).trans (congrArg some hbyte.symm)
  | _ => trivial

/-- Over every run of transmit calls, completions and detachments, wherever the buffers lie:
behind each step every URB in flight carries the frame it was submitted for, exactly if no
call's counter byte lands, with another value, in the record of a URB in flight. -/
theorem in_flight_carries_own_frame_iff (slots : EchoSlots E) (tx₀ : TxState E)
    (hunused : tx₀.Unused slots) (hskbs : tx₀.skbs = 0) (hapart : tx₀.BuffersApart)
    (actions : List TxAction) :
    Runs.Along (TxLedger.step slots) (EndsOwn slots) (.blank tx₀) actions
      ↔ Runs.Along (TxLedger.step slots) TxLedger.Spares (.blank tx₀) actions := by
  have hiff : ∀ l action, OwnBytes slots l → (l.Spares action ↔ EndsOwn slots l action) :=
    fun l action h => ⟨fun hspares l' hstep =>
      (ownBytes_step l action l' h hspares hstep).carriesOwn, spares_of_endsOwn h⟩
  exact (Runs.along_iff _ ownBytes_step hiff (.blank hunused hskbs hapart) actions).symm

/-- No record in one buffer is within reach of the counter byte of another. -/
def TxState.OutOfReach (tx : TxState E) : Prop :=
  ∀ i j, i ≠ j → tx.buffer j + 15 ≤ tx.buffer i + 68 ∨ tx.buffer i + 79 ≤ tx.buffer j

/-- Then every call spares what is in flight. -/
theorem spares_of_outOfReach {l : TxLedger E} (h : OwnBytes slots l)
    (hreach : l.tx.OutOfReach) (action : TxAction) : l.Spares action := by
  cases action with
  | transmit frame invalid submit_err =>
    intro _ i htaken j c hc k hk hlands
    have hne : i ≠ j := by
      rintro rfl
      rw [h.carries.taken_idle htaken] at hc
      cases hc
    have hrange := counter_addr_range (l.tx.buffer i) frame
    have hlen := (encoded_bytes_length c.2).2
    rcases hreach i j hne with hbelow | habove <;> omega
  | _ => trivial

/-- Where `kmalloc` keeps its objects 128 bytes apart, say, every run carries its frames. -/
theorem far_buffers_carry_own_frame (tx₀ : TxState E) (hunused : tx₀.Unused slots)
    (hskbs : tx₀.skbs = 0) (hapart : tx₀.BuffersApart) (hreach : tx₀.OutOfReach)
    (actions : List TxAction) :
    Runs.Along (TxLedger.step slots) (EndsOwn slots) (.blank tx₀) actions := by
  have hinv : OwnBytes slots (.blank tx₀) ∧ (TxLedger.blank tx₀).tx.OutOfReach :=
    ⟨.blank hunused hskbs hapart, hreach⟩
  have hstep : ∀ l action l', OwnBytes slots l ∧ l.tx.OutOfReach → True →
      l.step slots action = some l' → OwnBytes slots l' ∧ l'.tx.OutOfReach := by
    rintro l action l' ⟨hown, hfar⟩ - hnext
    refine ⟨ownBytes_step l action l' hown (spares_of_outOfReach hown hfar action) hnext, ?_⟩
    obtain ⟨-, hbuffer⟩ := step_memory (ledger_step_eq_some slots hnext).1
    intro i j hne
    rw [hbuffer i, hbuffer j]
    exact hfar i j hne
  refine Runs.along_of_inv _ hstep (fun l action ⟨hown, hfar⟩ _ l' hnext => ?_) hinv
    (Runs.along_of_mem _ (fun _ _ => trivial) _)
  exact (ownBytes_step l action l' hown (spares_of_outOfReach hown hfar action) hnext).carriesOwn

end

/-! ## Buffers in a row -/

/-- The buffers in a row do not overlap. -/
theorem TxState.opened_apart : TxState.opened.BuffersApart := by
  intro i j hne
  have hval : i.val ≠ j.val := fun heq => hne (Fin.ext heq)
  change 64 * i.val + 64 ≤ 64 * j.val ∨ 64 * j.val + 64 ≤ 64 * i.val
  omega

/-- Two frames are sent, and a third behind the completion of the first, into its buffer. -/
def third_in_first_buffer : List TxAction :=
  [.transmit CanFrame.zero false 0, .check_active, .transmit CanFrame.zero false 0, .check_active,
    .complete first_context 0, .transmit CanFrame.zero false 0]

/-- With the buffers in a row, the two frames go out as they are; the third call stores its
counter, which is one by then, into the id of the second frame. -/
theorem in_flight_carries_own_frame_iff_in_a_row :
    Runs.Along (TxLedger.step EchoSlots.kernel) (EndsOwn EchoSlots.kernel)
        (.blank TxState.opened) (third_in_first_buffer.take 5)
      ∧ ¬ Runs.Along (TxLedger.step EchoSlots.kernel) (EndsOwn EchoSlots.kernel)
        (.blank TxState.opened) third_in_first_buffer := by
  have hiff := in_flight_carries_own_frame_iff EchoSlots.kernel TxState.opened
    TxState.opened_unused rfl TxState.opened_apart
  exact ⟨(hiff _).mpr (by decide), fun hown => absurd ((hiff _).mp hown) (by decide)⟩

end DualPcanUsb
