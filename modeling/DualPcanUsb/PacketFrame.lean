/-
What a received packet leaves alone.

The decoder is made of a few ways to write the state: logging, allocating, reading the
clock, the error state and the counters, the time reference, a slot of the ring, and the
commit. A relation between states that each of these keeps, and that can be chained, is
kept by a whole packet; the walk through the functions is made once, for any such relation.

The one most used says that a packet leaves the stage, the number of opens of the character
device, and whether the network interface is running. Only the interfaces' own operations
write these, so a completion can come between any two of their steps.
-/
import DualPcanUsb.PacketCodec

set_option autoImplicit false

namespace DualPcanUsb

/-! ## The walk -/

/-- The relation holds across every write the decoder makes. The error state and its
counters are not written while the interface is stopped. -/
structure PacketFrame (R : RxState → RxState → Prop) : Prop where
  refl : ∀ s, R s s
  trans : ∀ {s s' s''}, R s s' → R s' s'' → R s s''
  log : ∀ s events, R s (s.log events)
  alloc : ∀ s, R s { s with skbs := s.skbs + 1 }
  clock : ∀ s clocks, s.clocks ≤ clocks → R s { s with clocks := clocks }
  can_state : ∀ s state, s.fwd.can_state ≠ .STOPPED →
    R s { s with fwd := { s.fwd with can_state := state } }
  account : ∀ s new_state, s.fwd.can_state ≠ .STOPPED →
    R s { s with fwd := error_account new_state s.fwd }
  stats : ∀ s stats, R s { s with fwd := { s.fwd with stats := stats } }
  time_ref : ∀ s time_ref, R s { s with fwd := { s.fwd with time_ref := time_ref } }
  set_slot : ∀ s idx msg, R s (s.set_slot idx msg)
  commit : ∀ s sample,
    R s { s with fwd := { s.fwd with char_dev := decode_data_commit sample s.fwd.char_dev } }

namespace PacketFrame

variable {R : RxState → RxState → Prop} (h : PacketFrame R)
include h

/-- The kernel time reads the clock and logs. -/
theorem kernel_time (env : Env) (ts16 : u16) (s : RxState) : R s (kernel_time env ts16 s).2 := by
  refine h.trans (h.clock s (if s.fwd.time_ref.tv_host > 0 then s.clocks else s.clocks + 1) ?_)
    (h.log _ _)
  split
  · exact le_rfl
  · exact Nat.le_succ _

theorem deliver (skb : ℕ) (kind : RecordKind) (frame : CanFrame) (hwtstamp : Option ktime_t)
    (s : RxState) : R s (deliver skb kind frame hwtstamp s) :=
  h.trans (h.trans (h.log s _) (h.stats _ _)) (h.log _ _)

/-- A socket buffer is allocated, or is not to be had. -/
theorem alloc_can_skb (env : Env) (s : RxState) : R s (alloc_can_skb env s).2 := by
  unfold DualPcanUsb.alloc_can_skb
  split
  · exact h.alloc s
  · exact h.trans (h.alloc s) (h.log _ _)

/-- Outside the stopped state a report changes the state, counts and hands over. -/
theorem post_error (env : Env) (ctx : MsgContext) (status_len : u8) (new_state : CanState)
    (skb : ℕ) (frame : CanFrame) (s : RxState) (hmoving : s.fwd.can_state ≠ .STOPPED) :
    R s (post_error env ctx status_len new_state skb frame s) := by
  unfold DualPcanUsb.post_error
  dsimp only
  have hoff : R s (if new_state = .BUS_OFF then (s.log [.access skb]).log [.can_bus_off]
        else s.log [.access skb])
      ∧ (if new_state = .BUS_OFF then (s.log [.access skb]).log [.can_bus_off]
        else s.log [.access skb]).fwd = s.fwd := by
    split
    · exact ⟨h.trans (h.log s _) (h.log _ _), rfl⟩
    · exact ⟨h.log s _, rfl⟩
  generalize (if new_state = .BUS_OFF then (s.log [.access skb]).log [.can_bus_off]
      else s.log [.access skb]) = s₁ at hoff ⊢
  refine h.trans (h.trans hoff.1 (h.account s₁ new_state (hoff.2 ▸ hmoving))) ?_
  split
  · exact h.trans (h.kernel_time env ctx.ts16 _) (h.trans (h.log _ _) (h.deliver ..))
  · exact h.deliver ..

/-- An error record is dropped, or posted. -/
theorem decode_error (env : Env) (ctx : MsgContext) (number status_len : u8) (s : RxState) :
    R s (decode_error env ctx number status_len s).2 := by
  -- a stopped interface's records are ignored
  have hmoving : error_switch s.fwd.can_state number ≠ .ignore → s.fwd.can_state ≠ .STOPPED :=
    fun hswitch hstopped => hswitch (hstopped ▸ rfl)
  unfold DualPcanUsb.decode_error
  split
  · exact h.refl s
  split
  · exact h.refl s
  split
  · exact h.refl s
  · rename_i hswitch
    exact h.can_state s _ (hmoving (hswitch ▸ nofun))
  rename_i new_state hswitch
  split
  · exact h.refl s
  have halloc := h.alloc_can_skb env s
  have hfwd : (DualPcanUsb.alloc_can_skb env s).2.fwd = s.fwd := by
    unfold DualPcanUsb.alloc_can_skb
    split <;> rfl
  generalize DualPcanUsb.alloc_can_skb env s = allocated at halloc hfwd
  obtain ⟨_ | ⟨skb, frame⟩, s'⟩ := allocated
  · exact halloc
  · refine h.trans halloc (h.post_error _ _ _ _ _ _ _ ?_)
    rw [show s'.fwd = s.fwd from hfwd]
    exact hmoving (hswitch ▸ nofun)

/-- A timestamp reads the clock and moves the time reference. -/
theorem update_timestamp_in_context (env : Env) (ctx : MsgContext) (s : RxState) :
    R s (update_timestamp_in_context env ctx s).2.2 := by
  unfold DualPcanUsb.update_timestamp_in_context
  split
  · exact h.refl s
  dsimp only
  split
  · exact h.time_ref s _
  · refine h.trans (h.time_ref s _) (h.clock _ _ ?_)
    split
    · exact Nat.le_succ _
    · exact le_rfl

/-- The kinds of status record, by the cases of the switch. -/
theorem decode_functionality (env : Env) (functionality number status_len : u8)
    (ctx : MsgContext) (s : RxState) :
    R s (decode_functionality env functionality number status_len ctx s).2.2 := by
  unfold DualPcanUsb.decode_functionality
  split
  · exact h.decode_error env ctx number status_len s
  split
  · exact h.update_timestamp_in_context env ctx s
  · exact h.refl s

/-- Before and behind the switch of a status record only the position changes. -/
theorem decode_status_and_error (env : Env) (status_len : u8) (ctx : MsgContext) (s : RxState) :
    R s (decode_status_and_error env status_len ctx s).2.2 := by
  unfold DualPcanUsb.decode_status_and_error
  split
  · exact h.refl s
  dsimp only
  -- the timestamp moves the cursor only
  generalize (if status_len &&& PCAN_USB_STATUSLEN_TIMESTAMP ≠ 0 then _ else _) = stamped
  obtain ⟨err, ctx'⟩ := stamped
  dsimp only
  split
  · exact h.refl s
  have heffect := h.decode_functionality env (ctx.peek PCAN_CMD_ARG_INDEX_FUNC)
    (ctx.peek PCAN_CMD_ARG_INDEX_NUM) status_len ctx' s
  split
  · exact heffect
  split
  · exact heffect
  · exact heffect

/-- A frame is stored in its socket buffer or in its slot. -/
theorem store_frame (s : RxState) (home : FrameHome) (frame : CanFrame) :
    R s (s.store_frame home frame) := by
  cases home with
  | skb skb => exact h.log s _
  | slot idx => exact h.set_slot s _ _

/-- Identifier, length and data are such stores. -/
theorem decode_frame (home : FrameHome) (status_len : u8) (frame : CanFrame)
    (ctx : MsgContext) (s : RxState) : R s (decode_frame home status_len frame ctx s).2.2 := by
  -- up to three stores, however far the record is parsed
  have hstore := fun (s : RxState) (frame : CanFrame) => h.store_frame s home frame
  unfold DualPcanUsb.decode_frame
  dsimp only
  split
  · exact h.refl s
  split
  · exact hstore s _
  split
  · exact h.trans (h.trans (hstore s _) (hstore _ _)) (hstore _ _)
  split
  · exact h.trans (hstore s _) (hstore _ _)
  · exact h.trans (h.trans (hstore s _) (hstore _ _)) (hstore _ _)

/-- A data record ends with its hand-over and its time. -/
theorem finish_data (env : Env) (sample : RxSample) (home : FrameHome) (frame : CanFrame)
    (ctx : MsgContext) (s : RxState) : R s (finish_data env sample home frame ctx s).2 := by
  have htime := h.kernel_time env ctx.ts16 s
  unfold DualPcanUsb.finish_data
  cases home with
  | skb skb =>
    have hpost := h.trans htime (h.trans (h.log _ [.access skb]) (h.deliver skb .data frame
      (some (DualPcanUsb.kernel_time env ctx.ts16 s).1) _))
    cases sample.chardev_msg with
    | none => exact hpost
    | some idx => exact h.trans hpost (h.trans (h.set_slot _ idx _) (h.log _ _))
  | slot home =>
    cases sample.chardev_msg with
    | none => exact htime
    | some idx => exact h.trans htime (h.set_slot _ idx _)

/-- All of it that comes before the ring's lock. -/
theorem decode_data_fill (env : Env) (sample : RxSample) (status_len : u8) (ctx : MsgContext)
    (s : RxState) : R s (decode_data_fill env sample status_len ctx s).2.2 := by
  -- the record is parsed in either place, and on success finished there
  have hparse : ∀ (home : FrameHome) (frame : CanFrame) (s : RxState),
      R s (DualPcanUsb.decode_frame home status_len frame ctx s).2.2 :=
    fun home frame s => h.decode_frame home status_len frame ctx s
  unfold DualPcanUsb.decode_data_fill
  split
  · have halloc := h.alloc_can_skb env s
    generalize DualPcanUsb.alloc_can_skb env s = allocated at halloc
    obtain ⟨_ | ⟨skb, frame⟩, s₁⟩ := allocated
    · exact halloc
    dsimp only
    have hframe := h.trans halloc (hparse (.skb skb) frame s₁)
    generalize DualPcanUsb.decode_frame (.skb skb) status_len frame ctx s₁ = decoded at hframe
    obtain ⟨_ | frame', ctx', s₂⟩ := decoded
    · exact h.trans hframe (h.log _ _)
    · exact h.trans hframe (h.finish_data env sample (.skb skb) frame' ctx' s₂)
  split
  · exact h.refl s
  split
  · exact h.refl s
  dsimp only
  have hframe := hparse (.slot sample.rx_write_idx)
    (s.fwd.char_dev.rx_msgs sample.rx_write_idx).frame s
  generalize DualPcanUsb.decode_frame (.slot sample.rx_write_idx) status_len
    (s.fwd.char_dev.rx_msgs sample.rx_write_idx).frame ctx s = decoded at hframe
  obtain ⟨_ | frame', ctx', s'⟩ := decoded
  · exact hframe
  · exact h.trans hframe (h.finish_data env sample (.slot sample.rx_write_idx) frame' ctx' s')

/-- With the commit behind it. -/
theorem decode_data (env : Env) (status_len : u8) (ctx : MsgContext) (s : RxState) :
    R s (decode_data env status_len ctx s).2.2 := by
  unfold DualPcanUsb.decode_data
  dsimp only
  generalize decode_data_sample s.fwd.char_dev = sample
  have hfill := h.decode_data_fill env sample status_len ctx s
  generalize DualPcanUsb.decode_data_fill env sample status_len ctx s = filled at hfill
  obtain ⟨_ | msg, ctx', s'⟩ := filled
  · exact hfill
  · exact h.trans hfill (h.commit s' sample)

/-- A record is a data record or a status record. -/
theorem decode_record (env : Env) (ctx : MsgContext) (s : RxState) :
    R s (decode_record env ctx s).2.2 := by
  unfold DualPcanUsb.decode_record
  dsimp only
  split
  · exact h.decode_status_and_error ..
  · exact h.decode_data ..

/-- The loop, by its fuel. -/
theorem decode_records (env : Env) (fuel : ℕ) :
    ∀ (err : Int) (ctx : MsgContext) (s : RxState),
      R s (decode_records env fuel err ctx s).2.2 := by
  induction fuel with
  | zero => exact fun _ _ s => h.refl s
  | succ fuel ih =>
    intro err ctx s
    rw [DualPcanUsb.decode_records]
    split
    · exact h.trans (h.decode_record env ctx s) (ih _ _ _)
    · exact h.refl s

/-- So what the steps keep, a whole packet keeps. -/
theorem handle_urb (env : Env) (transfer_buffer : ℕ → u8) (actual_length : ℕ) (s : RxState) :
    R s (pcan_decode_and_handle_urb env transfer_buffer actual_length s).2 := by
  unfold pcan_decode_and_handle_urb
  split
  · exact h.decode_records ..
  split
  · exact h.refl s
  · exact h.refl s

end PacketFrame

/-! ## The interfaces' state -/

/-- The interfaces' state is the same in both. -/
structure Undisturbed (s s' : RxState) : Prop where
  stage_eq : s'.fwd.stage = s.fwd.stage
  running_eq : s'.fwd.netif_running = s.fwd.netif_running
  open_count_eq : s'.fwd.char_dev.open_count = s.fwd.char_dev.open_count

theorem Undisturbed.refl (s : RxState) : Undisturbed s s := ⟨rfl, rfl, rfl⟩

/-- Left alone twice is left alone. -/
theorem Undisturbed.trans {s s' s'' : RxState} (h : Undisturbed s s') (h' : Undisturbed s' s'') :
    Undisturbed s s'' :=
  ⟨h'.stage_eq.trans h.stage_eq, h'.running_eq.trans h.running_eq,
    h'.open_count_eq.trans h.open_count_eq⟩

/-- No packet takes the network interface up or down, or opens a file. -/
theorem undisturbed_frame : PacketFrame Undisturbed where
  refl := .refl
  trans := .trans
  log _ _ := ⟨rfl, rfl, rfl⟩
  alloc _ := ⟨rfl, rfl, rfl⟩
  clock _ _ _ := ⟨rfl, rfl, rfl⟩
  can_state _ _ _ := ⟨rfl, rfl, rfl⟩
  account s new_state _ := by cases new_state <;> exact ⟨rfl, rfl, rfl⟩
  stats _ _ := ⟨rfl, rfl, rfl⟩
  time_ref _ _ := ⟨rfl, rfl, rfl⟩
  set_slot _ _ _ := ⟨rfl, rfl, rfl⟩
  commit s sample := by
    refine ⟨rfl, rfl, ?_⟩
    dsimp only
    unfold decode_data_commit
    cases sample.chardev_msg <;> rfl

theorem decode_record_undisturbed (env : Env) (ctx : MsgContext) (s : RxState) :
    Undisturbed s (decode_record env ctx s).2.2 :=
  undisturbed_frame.decode_record env ctx s

/-! ## The stopped state -/

/-- A stopped interface stays so: only `start_can_interface` and `pcan_net_wake_up` take it
out of that state. -/
theorem stopped_frame :
    PacketFrame fun s s' => s.fwd.can_state = .STOPPED → s'.fwd.can_state = .STOPPED where
  refl _ h := h
  trans h h' := h' ∘ h
  log _ _ h := h
  alloc _ h := h
  clock _ _ _ h := h
  can_state _ _ hmoving h := absurd h hmoving
  account _ _ hmoving h := absurd h hmoving
  stats _ _ h := h
  time_ref _ _ h := h
  set_slot _ _ _ h := h
  commit _ _ h := h

/-! ## The clock -/

/-- Host clock readings are numbered forwards. -/
theorem clocks_frame : PacketFrame fun s s' => s.clocks ≤ s'.clocks where
  refl _ := le_rfl
  trans := le_trans
  log _ _ := le_rfl
  alloc _ := le_rfl
  clock _ _ hle := hle
  can_state _ _ _ := le_rfl
  account _ _ _ := le_rfl
  stats _ _ := le_rfl
  time_ref _ _ := le_rfl
  set_slot _ _ _ := le_rfl
  commit _ _ := le_rfl

end DualPcanUsb
