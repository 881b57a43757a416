/-
What `decode_data` can do, once and for all.

The function has six ends: no socket buffer, a record that does not fit (with the
frame pointer in a socket buffer or in a ring slot), a device that cannot take
the message, and success in either place. `DataFill` lists them with the guard
of each and the state each leaves, and `decode_data_fill_cases` is the only place
where the function is unfolded. What later modules need of a finished record are
the small lemmas about `finish_data` before it.
-/
import DualPcanUsb.RecordSpec

set_option autoImplicit false

namespace DualPcanUsb

/-! ## Logging and stores -/

@[simp] theorem log_fwd (s : RxState) (events : List Event) : (s.log events).fwd = s.fwd := rfl

@[simp] theorem log_skbs (s : RxState) (events : List Event) : (s.log events).skbs = s.skbs := rfl

@[simp] theorem log_clocks (s : RxState) (events : List Event) :
    (s.log events).clocks = s.clocks := rfl

@[simp] theorem log_trace (s : RxState) (events : List Event) :
    (s.log events).trace = s.trace ++ events := rfl

@[simp] theorem log_log (s : RxState) (events events' : List Event) :
    (s.log events).log events' = s.log (events ++ events') := by
  simp only [RxState.log, List.append_assoc]

@[simp] theorem log_nil (s : RxState) : s.log [] = s := by
  simp only [RxState.log, List.append_nil]

@[simp] theorem set_slot_set_slot (s : RxState) (idx : Int) (msg msg' : ChardevMsg) :
    (s.set_slot idx msg).set_slot idx msg' = s.set_slot idx msg' := by
  simp only [RxState.set_slot, Chardev.set_slot, Function.update_idem]

/-- Into a socket buffer, stores are accesses. -/
theorem store_frames_skb (s : RxState) (skb : ℕ) (frames : List CanFrame) :
    s.store_frames (.skb skb) frames = s.log (List.replicate frames.length (.access skb)) := by
  unfold RxState.store_frames
  induction frames generalizing s with
  | nil => simp
  | cons frame frames ih =>
    rw [List.foldl_cons, ih, RxState.store_frame, log_log]
    rfl

/-- Into a ring slot, only the last store shows. -/
theorem store_frames_slot (s : RxState) (idx : Int) (frames : List CanFrame) :
    ∃ msg, s.store_frames (.slot idx) frames = s.set_slot idx msg := by
  unfold RxState.store_frames
  induction frames generalizing s with
  | nil =>
    refine ⟨s.fwd.char_dev.rx_msgs idx, ?_⟩
    simp only [List.foldl_nil, RxState.set_slot, Chardev.set_slot, Function.update_eq_self]
  | cons frame frames ih =>
    obtain ⟨msg, hmsg⟩ := ih (s.store_frame (.slot idx) frame)
    refine ⟨msg, ?_⟩
    rw [List.foldl_cons, hmsg, RxState.store_frame, set_slot_set_slot]

/-! ## The end of a successful record -/

/-- The message a record becomes: its frame under the time of its tick. -/
def message_of (env : Env) (ts16 : u16) (frame : CanFrame) (s : RxState) : ChardevMsg :=
  ⟨(kernel_time env ts16 s).1, frame⟩

/-- The events of a record that went to the network stack, after its stores. -/
def posted_events (skb : ℕ) (ts16 : u16) (msg : ChardevMsg) (slot : Option Int) : List Event :=
  [.compute_kernel_time ts16, .access skb, .netif_rx skb .data msg.frame (some msg.hwtstamp),
    .access skb] ++ (if slot.isSome then [.access skb] else [])

/-- With a socket buffer: the frame is handed over, its time taken, and a copy put in its slot, if
there is one. -/
theorem finish_data_skb (env : Env) (sample : RxSample) (skb : ℕ) (frame : CanFrame)
    (ctx : MsgContext) (s : RxState) :
    ∃ s', finish_data env sample (.skb skb) frame ctx s = (message_of env ctx.ts16 frame s, s')
      ∧ s'.trace = s.trace
          ++ posted_events skb ctx.ts16 (message_of env ctx.ts16 frame s) sample.chardev_msg
      ∧ s'.skbs = s.skbs
      ∧ s'.fwd.netif_running = s.fwd.netif_running
      ∧ s'.fwd.can_state = s.fwd.can_state
      ∧ s'.fwd.time_ref = s.fwd.time_ref
      ∧ s'.fwd.char_dev = (match sample.chardev_msg with
          | none => s.fwd.char_dev
          | some idx => s.fwd.char_dev.set_slot idx (message_of env ctx.ts16 frame s)) := by
  refine ⟨_, rfl, ?_⟩
  cases hslot : sample.chardev_msg with
  | none => simp [kernel_time, deliver, posted_events, message_of]
  | some idx => simp [kernel_time, deliver, posted_events, message_of, RxState.set_slot]

/-- In place, the sampled slot gets the message. -/
theorem finish_data_slot (env : Env) (sample : RxSample) (idx : Int) (frame : CanFrame)
    (ctx : MsgContext) (s : RxState) (hslot : sample.chardev_msg = some idx) :
    finish_data env sample (.slot idx) frame ctx s
      = (message_of env ctx.ts16 frame s,
          (kernel_time env ctx.ts16 s).2.set_slot idx (message_of env ctx.ts16 frame s)) := by
  unfold finish_data
  rw [hslot]
  rfl

@[simp] theorem message_of_set_slot (env : Env) (ts16 : u16) (frame : CanFrame) (s : RxState)
    (idx : Int) (msg : ChardevMsg) :
    message_of env ts16 frame (s.set_slot idx msg) = message_of env ts16 frame s := rfl

/-- Taking the time does not depend on the ring. -/
@[simp] theorem kernel_time_set_slot (env : Env) (ts16 : u16) (s : RxState) (idx : Int)
    (msg : ChardevMsg) :
    (kernel_time env ts16 (s.set_slot idx msg)).2 = (kernel_time env ts16 s).2.set_slot idx msg :=
  rfl

/-! ## The six ends of `decode_data_fill` -/

/-- The state once a buffer is allocated. -/
def RxState.with_skb (s : RxState) : RxState :=
  ({ s with skbs := s.skbs + 1 } : RxState).log [.alloc_can_skb s.skbs]

/-- Result, cursor and state of `decode_data_fill`, branch by branch. The record
fits when its last byte lies before `end_`. -/
inductive DataFill (env : Env) (sample : RxSample) (status_len : u8) (ctx : MsgContext)
    (s : RxState) : Except Int ChardevMsg → MsgContext → RxState → Prop
  | no_skb (hup : s.fwd.netif_running = true) (halloc : env.alloc_can_skb s.skbs = none) :
    DataFill env sample status_len ctx s (.error (-ENOMEM)) ctx { s with skbs := s.skbs + 1 }
  | skb_short (hup : s.fwd.netif_running = true) (frame : CanFrame)
      (halloc : env.alloc_can_skb s.skbs = some frame)
      (hshort : ctx.end_ < ctx.ptr + data_len status_len (ctx.rec_data_idx = 0))
      (ctx' : MsgContext) (hadv : Advanced ctx ctx') (stores : ℕ) :
    DataFill env sample status_len ctx s (.error (-EINVAL)) ctx'
      (s.with_skb.log (List.replicate stores (.access s.skbs) ++ [.dev_kfree_skb s.skbs]))
  | skb_fits (hup : s.fwd.netif_running = true) (frame : CanFrame)
      (halloc : env.alloc_can_skb s.skbs = some frame)
      (hfits : ctx.ptr + data_len status_len (ctx.rec_data_idx = 0) ≤ ctx.end_)
      (s' : RxState)
      (htrace : s'.trace = s.trace ++ ([.alloc_can_skb s.skbs]
        ++ List.replicate 3 (.access s.skbs)
        ++ posted_events s.skbs (ctx.data_end status_len).ts16
            (message_of env (ctx.data_end status_len).ts16 (ctx.data_frame status_len) s)
            sample.chardev_msg))
      (hskbs : s'.skbs = s.skbs + 1)
      (hrunning : s'.fwd.netif_running = s.fwd.netif_running)
      (hstate : s'.fwd.can_state = s.fwd.can_state)
      (href : s'.fwd.time_ref = s.fwd.time_ref)
      (hdev : s'.fwd.char_dev = (match sample.chardev_msg with
        | none => s.fwd.char_dev
        | some idx => s.fwd.char_dev.set_slot idx
            (message_of env (ctx.data_end status_len).ts16 (ctx.data_frame status_len) s))) :
    DataFill env sample status_len ctx s
      (.ok (message_of env (ctx.data_end status_len).ts16 (ctx.data_frame status_len) s))
      (ctx.data_end status_len) s'
  | refused (hdown : s.fwd.netif_running = false) (hslot : sample.chardev_msg = none)
      (err : Int) (herr : err ≠ 0) :
    DataFill env sample status_len ctx s (.error err) ctx s
  | slot_short (hdown : s.fwd.netif_running = false)
      (hslot : sample.chardev_msg = some sample.rx_write_idx)
      (hshort : ctx.end_ < ctx.ptr + data_len status_len (ctx.rec_data_idx = 0))
      (ctx' : MsgContext) (hadv : Advanced ctx ctx') (msg : ChardevMsg) :
    DataFill env sample status_len ctx s (.error (-EINVAL)) ctx'
      (s.set_slot sample.rx_write_idx msg)
  | slot_fits (hdown : s.fwd.netif_running = false)
      (hslot : sample.chardev_msg = some sample.rx_write_idx)
      (hfits : ctx.ptr + data_len status_len (ctx.rec_data_idx = 0) ≤ ctx.end_) :
    DataFill env sample status_len ctx s
      (.ok (message_of env (ctx.data_end status_len).ts16 (ctx.data_frame status_len) s))
      (ctx.data_end status_len)
      ((kernel_time env (ctx.data_end status_len).ts16 s).2.set_slot sample.rx_write_idx
        (message_of env (ctx.data_end status_len).ts16 (ctx.data_frame status_len) s))

/-- With the network up, everything happens in the allocated buffer. -/
theorem decode_data_fill_up (env : Env) (sample : RxSample) (status_len : u8) (ctx : MsgContext)
    (s : RxState) (hup : s.fwd.netif_running = true) :
    DataFill env sample status_len ctx s (decode_data_fill env sample status_len ctx s).1
      (decode_data_fill env sample status_len ctx s).2.1
      (decode_data_fill env sample status_len ctx s).2.2 := by
  unfold decode_data_fill
  rw [if_pos hup, alloc_can_skb]
  cases halloc : env.alloc_can_skb s.skbs with
  | none => exact .no_skb hup halloc
  | some frame =>
    dsimp only
    rcases Nat.lt_or_ge ctx.end_ (ctx.ptr + data_len status_len (ctx.rec_data_idx = 0))
      with hshort | hfits
    -- `decode_failed`, with the buffer freed
    · obtain ⟨ctx', frames, heq, hadv⟩ := decode_frame_of_short (.skb s.skbs) status_len frame
        ctx s.with_skb hshort
      rw [show ({ s with skbs := s.skbs + 1 } : RxState).log [.alloc_can_skb s.skbs]
        = s.with_skb from rfl, heq]
      dsimp only
      rw [store_frames_skb, log_log]
      exact .skb_short hup frame halloc hshort ctx' hadv frames.length
    · obtain ⟨f₁, f₂, heq⟩ := decode_frame_of_fits (.skb s.skbs) status_len frame ctx
        s.with_skb hfits
      -- three stores through the frame pointer, then the delivery
      obtain ⟨s', hfin, htrace, hskbs, hrunning, hstate, href, hdev⟩ :=
        finish_data_skb env sample s.skbs (ctx.data_frame status_len) (ctx.data_end status_len)
          (s.with_skb.store_frames (.skb s.skbs) [f₁, f₂, ctx.data_frame status_len])
      rw [show ({ s with skbs := s.skbs + 1 } : RxState).log [.alloc_can_skb s.skbs]
        = s.with_skb from rfl, heq]
      dsimp only
      rw [hfin]
      rw [store_frames_skb] at htrace hskbs hrunning hstate href hdev
      refine .skb_fits hup frame halloc hfits s' ?_ hskbs hrunning hstate href hdev
      rw [htrace]
      simp [RxState.with_skb]
      rfl

/-- With the network down, everything happens in the sampled slot. -/
theorem decode_data_fill_down (env : Env) (sample : RxSample) (status_len : u8)
    (ctx : MsgContext) (s : RxState) (hdown : s.fwd.netif_running = false) :
    DataFill env sample status_len ctx s (decode_data_fill env sample status_len ctx s).1
      (decode_data_fill env sample status_len ctx s).2.1
      (decode_data_fill env sample status_len ctx s).2.2 := by
  unfold decode_data_fill
  rw [if_neg (by rw [hdown]; decide)]
  by_cases hneg : sample.unread_count < 0
  · rw [if_pos hneg]
    exact .refused hdown (by rw [RxSample.chardev_msg, if_pos (.inl hneg)]) _ hneg.ne
  rw [if_neg hneg]
  by_cases hfull : sample.unread_count ≥ PCAN_CHRDEV_MAX_RX_BUF_COUNT
  · rw [if_pos hfull]
    exact .refused hdown (by rw [RxSample.chardev_msg, if_pos (.inr hfull)]) _ (by decide)
  rw [if_neg hfull]
  -- what is left is a free slot, and `chardev_msg` points to it
  have hslot : sample.chardev_msg = some sample.rx_write_idx := by
    rw [RxSample.chardev_msg, if_neg (by tauto)]
  dsimp only
  rcases Nat.lt_or_ge ctx.end_ (ctx.ptr + data_len status_len (ctx.rec_data_idx = 0))
    with hshort | hfits
  · obtain ⟨ctx', frames, heq, hadv⟩ := decode_frame_of_short (.slot sample.rx_write_idx)
      status_len (s.fwd.char_dev.rx_msgs sample.rx_write_idx).frame ctx s hshort
    -- the slot may hold half a frame now, but nobody was told of it
    obtain ⟨msg, hmsg⟩ := store_frames_slot s sample.rx_write_idx frames
    rw [heq]
    dsimp only
    rw [hmsg]
    exact .slot_short hdown hslot hshort ctx' hadv msg
  · obtain ⟨f₁, f₂, heq⟩ := decode_frame_of_fits (.slot sample.rx_write_idx) status_len
      (s.fwd.char_dev.rx_msgs sample.rx_write_idx).frame ctx s hfits
    obtain ⟨msg, hmsg⟩ := store_frames_slot s sample.rx_write_idx
      [f₁, f₂, ctx.data_frame status_len]
    rw [heq]
    dsimp only
    rw [hmsg, finish_data_slot env sample _ _ _ _ hslot]
    -- the clock does not look at the ring, so the last store wins
    simp only [message_of_set_slot, kernel_time_set_slot, set_slot_set_slot]
    exact .slot_fits hdown hslot hfits

/-- A data record ends in one of six ways. -/
theorem decode_data_fill_cases (env : Env) (sample : RxSample) (status_len : u8)
    (ctx : MsgContext) (s : RxState) :
    DataFill env sample status_len ctx s (decode_data_fill env sample status_len ctx s).1
      (decode_data_fill env sample status_len ctx s).2.1
      (decode_data_fill env sample status_len ctx s).2.2 := by
  cases hrun : s.fwd.netif_running with
  | true => exact decode_data_fill_up env sample status_len ctx s hrun
  | false => exact decode_data_fill_down env sample status_len ctx s hrun

/-! ## The commit -/

@[simp] theorem commit_open_count (sample : RxSample) (dev : Chardev) :
    (decode_data_commit sample dev).open_count = dev.open_count := by
  unfold decode_data_commit; split <;> rfl

/-- A commit counts a message exactly if it had a slot. -/
theorem commit_unread (sample : RxSample) (dev : Chardev) :
    (decode_data_commit sample dev).rx_unread_cnt
      = if sample.chardev_msg.isSome then dev.rx_unread_cnt + 1 else dev.rx_unread_cnt := by
  unfold decode_data_commit
  cases sample.chardev_msg <;> rfl

end DualPcanUsb
