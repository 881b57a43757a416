/-
The network interface does not see the character device.

`decode_data` serves both from one record, and what it samples of the ring selects
pointers and errors before the network part of it starts. `SameNetwork` relates two states
the network stack cannot tell apart: they agree but for the character device, and have the
same events among those that reach the stack. With the network up, every function of the
decoder takes two such states to two such states with the same results, so nothing of the
character device can flow into the network's part.
-/
import DualPcanUsb.PacketFrame
import DualPcanUsb.PacketGrammar

set_option autoImplicit false

namespace DualPcanUsb

/-! ## The network's view -/

/-- The events that reach the network stack. -/
def Event.reaches_network : Event → Bool
  | .netif_rx _ _ _ _ | .can_bus_off => true
  | _ => false

/-- What is sent up, in order. -/
def network_events (trace : List Event) : List Event := trace.filter Event.reaches_network

/-- A character device nobody has opened. -/
def Chardev.closed : Chardev := ⟨fun _ => ⟨0, CanFrame.zero⟩, 0, 0, 0, 0⟩

/-- The private data without the character device. -/
def Forwarder.network (fwd : Forwarder) : Forwarder := { fwd with char_dev := Chardev.closed }

/-- Two states the network stack cannot tell apart. -/
structure SameNetwork (s t : RxState) : Prop where
  fwd_eq : s.fwd.network = t.fwd.network
  skbs_eq : s.skbs = t.skbs
  clocks_eq : s.clocks = t.clocks
  trace_eq : network_events s.trace = network_events t.trace

theorem SameNetwork.refl (s : RxState) : SameNetwork s s := ⟨rfl, rfl, rfl, rfl⟩

theorem SameNetwork.symm {s t : RxState} (h : SameNetwork s t) : SameNetwork t s :=
  ⟨h.fwd_eq.symm, h.skbs_eq.symm, h.clocks_eq.symm, h.trace_eq.symm⟩

/-- What the network cannot tell apart, step by step, it cannot tell apart. -/
theorem SameNetwork.trans {s t u : RxState} (h : SameNetwork s t) (h' : SameNetwork t u) :
    SameNetwork s u :=
  ⟨h.fwd_eq.trans h'.fwd_eq, h.skbs_eq.trans h'.skbs_eq, h.clocks_eq.trans h'.clocks_eq,
    h.trace_eq.trans h'.trace_eq⟩

theorem network_events_append (a b : List Event) :
    network_events (a ++ b) = network_events a ++ network_events b := List.filter_append ..

/-- Both log the same. -/
theorem SameNetwork.log {s t : RxState} (h : SameNetwork s t) (events : List Event) :
    SameNetwork (s.log events) (t.log events) := by
  refine ⟨h.fwd_eq, h.skbs_eq, h.clocks_eq, ?_⟩
  rw [log_trace, log_trace, network_events_append, network_events_append, h.trace_eq]

/-- What the network does not see may be logged on one side only. -/
theorem sameNetwork_log_hidden (s : RxState) {events : List Event}
    (hhidden : network_events events = []) : SameNetwork (s.log events) s := by
  refine ⟨rfl, rfl, rfl, ?_⟩
  rw [log_trace, network_events_append, hhidden, List.append_nil]

theorem sameNetwork_set_slot (s : RxState) (idx : Int) (msg : ChardevMsg) :
    SameNetwork (s.set_slot idx msg) s := ⟨rfl, rfl, rfl, rfl⟩

/-- The same change to the network's part of the driver. -/
theorem SameNetwork.map_fwd {s t : RxState} (h : SameNetwork s t) (f : Forwarder → Forwarder)
    (hf : ∀ fwd, (f fwd).network = (f fwd.network).network) :
    SameNetwork { s with fwd := f s.fwd } { t with fwd := f t.fwd } := by
  refine ⟨?_, h.skbs_eq, h.clocks_eq, h.trace_eq⟩
  dsimp only
  rw [hf s.fwd, hf t.fwd, h.fwd_eq]

section Fields

variable {s t : RxState} (h : SameNetwork s t)
include h

theorem SameNetwork.running_eq : s.fwd.netif_running = t.fwd.netif_running :=
  (congrArg Forwarder.netif_running h.fwd_eq :)

theorem SameNetwork.can_state_eq : s.fwd.can_state = t.fwd.can_state :=
  (congrArg Forwarder.can_state h.fwd_eq :)

theorem SameNetwork.can_stats_eq : s.fwd.can_stats = t.fwd.can_stats :=
  (congrArg Forwarder.can_stats h.fwd_eq :)

theorem SameNetwork.stats_eq : s.fwd.stats = t.fwd.stats := (congrArg Forwarder.stats h.fwd_eq :)

theorem SameNetwork.time_ref_eq : s.fwd.time_ref = t.fwd.time_ref :=
  (congrArg Forwarder.time_ref h.fwd_eq :)

end Fields

/-! ## Kernel services and status records -/

/-- Socket buffers come from the same source on both sides. -/
theorem alloc_can_skb_same (env : Env) {s t : RxState} (h : SameNetwork s t) :
    (alloc_can_skb env s).1 = (alloc_can_skb env t).1
      ∧ SameNetwork (alloc_can_skb env s).2 (alloc_can_skb env t).2 := by
  have hmore : SameNetwork { s with skbs := s.skbs + 1 } { t with skbs := t.skbs + 1 } :=
    ⟨h.fwd_eq, congrArg (· + 1) h.skbs_eq, h.clocks_eq, h.trace_eq⟩
  unfold alloc_can_skb
  rw [h.skbs_eq] at hmore ⊢
  cases env.alloc_can_skb t.skbs with
  | none => exact ⟨rfl, hmore⟩
  | some frame => exact ⟨rfl, hmore.log _⟩

/-- The kernel time is read alike on both sides. -/
theorem kernel_time_same (env : Env) (ts16 : u16) {s t : RxState} (h : SameNetwork s t) :
    (kernel_time env ts16 s).1 = (kernel_time env ts16 t).1
      ∧ SameNetwork (kernel_time env ts16 s).2 (kernel_time env ts16 t).2 := by
  unfold kernel_time
  dsimp only
  rw [h.clocks_eq, h.time_ref_eq]
  refine ⟨rfl, SameNetwork.log ?_ _⟩
  exact ⟨h.fwd_eq, h.skbs_eq, rfl, h.trace_eq⟩

/-- Handing over a frame shows the network the same on both sides. -/
theorem deliver_same (skb : ℕ) (kind : RecordKind) (frame : CanFrame) (hwtstamp : Option ktime_t)
    {s t : RxState} (h : SameNetwork s t) :
    SameNetwork (deliver skb kind frame hwtstamp s) (deliver skb kind frame hwtstamp t) := by
  unfold deliver
  refine SameNetwork.log ?_ _
  exact (h.log _).map_fwd (fun fwd => { fwd with stats := { fwd.stats with
    rx_packets := fwd.stats.rx_packets + 1
    rx_bytes := fwd.stats.rx_bytes + frame.can_dlc.setWidth 64 } }) (fun _ => rfl)

/-- An error is reported to the network alike on both sides. -/
theorem post_error_same (env : Env) (ctx : MsgContext) (status_len : u8) (new_state : CanState)
    (skb : ℕ) (frame : CanFrame) {s t : RxState} (h : SameNetwork s t) :
    SameNetwork (post_error env ctx status_len new_state skb frame s)
      (post_error env ctx status_len new_state skb frame t) := by
  have hoff : SameNetwork
      (if new_state = .BUS_OFF then (s.log [.access skb]).log [.can_bus_off]
        else s.log [.access skb])
      (if new_state = .BUS_OFF then (t.log [.access skb]).log [.can_bus_off]
        else t.log [.access skb]) := by
    split
    · exact (h.log _).log _
    · exact h.log _
  have haccount := hoff.map_fwd (error_account new_state)
    (by intro fwd; cases new_state <;> rfl)
  unfold post_error
  dsimp only
  split
  · -- the stamp comes from the clock and the time reference, which are the same
    obtain ⟨htime, hclock⟩ := kernel_time_same env ctx.ts16 haccount
    rw [htime]
    exact deliver_same _ _ _ _ (hclock.log _)
  · exact deliver_same _ _ _ _ haccount

/-- An error record does the same on both sides. -/
theorem decode_error_same (env : Env) (ctx : MsgContext) (number status_len : u8) {s t : RxState}
    (h : SameNetwork s t) :
    (decode_error env ctx number status_len s).1 = (decode_error env ctx number status_len t).1
      ∧ SameNetwork (decode_error env ctx number status_len s).2
          (decode_error env ctx number status_len t).2 := by
  obtain ⟨halloc, hmore⟩ := alloc_can_skb_same env h
  unfold decode_error
  rw [h.running_eq, h.time_ref_eq, h.can_state_eq]
  split
  · exact ⟨rfl, h⟩
  split
  · exact ⟨rfl, h⟩
  split
  · exact ⟨rfl, h⟩
  · exact ⟨rfl, h.map_fwd (fun fwd => { fwd with can_state := .ERROR_ACTIVE }) (fun _ => rfl)⟩
  split
  · exact ⟨rfl, h⟩
  · generalize alloc_can_skb env s = a at halloc hmore ⊢
    generalize alloc_can_skb env t = b at halloc hmore ⊢
    obtain ⟨granted, s'⟩ := a
    obtain ⟨granted', t'⟩ := b
    obtain rfl : granted = granted' := halloc
    cases granted with
    | none => exact ⟨rfl, hmore⟩
    | some buffer => exact ⟨rfl, post_error_same env ctx status_len _ _ _ hmore⟩

/-- A timestamp moves both time references alike. -/
theorem update_timestamp_same (env : Env) (ctx : MsgContext) {s t : RxState}
    (h : SameNetwork s t) :
    (update_timestamp_in_context env ctx s).1 = (update_timestamp_in_context env ctx t).1
      ∧ (update_timestamp_in_context env ctx s).2.1 = (update_timestamp_in_context env ctx t).2.1
      ∧ SameNetwork (update_timestamp_in_context env ctx s).2.2
          (update_timestamp_in_context env ctx t).2.2 := by
  unfold update_timestamp_in_context
  split
  · exact ⟨rfl, rfl, h⟩
  dsimp only
  split
  · exact ⟨rfl, rfl, h.map_fwd (fun fwd => { fwd with
      time_ref := update_time_reference _ fwd.time_ref }) (fun _ => rfl)⟩
  · have hset := h.map_fwd (fun fwd => { fwd with
      time_ref := set_time_reference (env.ktime_get t.clocks)
        ((LittleEndian.le16 (ctx.peek 0) (ctx.peek 1)).setWidth 32) fwd.time_ref }) (fun _ => rfl)
    rw [h.clocks_eq, h.time_ref_eq]
    rw [h.time_ref_eq] at hset
    exact ⟨rfl, rfl, hset.fwd_eq, h.skbs_eq, rfl, h.trace_eq⟩

/-- Two results the network stack cannot tell apart. -/
def SameResult (a b : Int × MsgContext × RxState) : Prop :=
  a.1 = b.1 ∧ a.2.1 = b.2.1 ∧ SameNetwork a.2.2 b.2.2

/-- Each kind of status record, by its case. -/
theorem decode_functionality_same (env : Env) (functionality number status_len : u8)
    (ctx : MsgContext) {s t : RxState} (h : SameNetwork s t) :
    SameResult (decode_functionality env functionality number status_len ctx s)
      (decode_functionality env functionality number status_len ctx t) := by
  unfold decode_functionality
  split
  · obtain ⟨herr, hsame⟩ := decode_error_same env ctx number status_len h
    exact ⟨herr, rfl, hsame⟩
  split
  · exact update_timestamp_same env ctx h
  · exact ⟨rfl, rfl, h⟩

/-- Status records do not look at the ring. -/
theorem decode_status_and_error_same (env : Env) (status_len : u8) (ctx : MsgContext)
    {s t : RxState} (h : SameNetwork s t) :
    SameResult (decode_status_and_error env status_len ctx s)
      (decode_status_and_error env status_len ctx t) := by
  unfold decode_status_and_error
  split
  · exact ⟨rfl, rfl, h⟩
  dsimp only
  -- the timestamp moves the cursor only
  generalize (if status_len &&& PCAN_USB_STATUSLEN_TIMESTAMP ≠ 0 then _ else _) = stamped
  obtain ⟨err, ctx'⟩ := stamped
  dsimp only
  split
  · exact ⟨rfl, rfl, h⟩
  have heffect := decode_functionality_same env (ctx.peek PCAN_CMD_ARG_INDEX_FUNC)
    (ctx.peek PCAN_CMD_ARG_INDEX_NUM) status_len ctx' h
  generalize decode_functionality env _ _ status_len ctx' s = a at heffect ⊢
  generalize decode_functionality env _ _ status_len ctx' t = b at heffect ⊢
  obtain ⟨err', ctx₁, s₁⟩ := a
  obtain ⟨err'', ctx₂, t₁⟩ := b
  obtain ⟨rfl, rfl, hsame⟩ : err' = err'' ∧ ctx₁ = ctx₂ ∧ SameNetwork s₁ t₁ := heffect
  dsimp only
  split
  · exact ⟨rfl, rfl, hsame⟩
  split
  · exact ⟨rfl, rfl, hsame⟩
  · exact ⟨rfl, rfl, hsame⟩

/-! ## Data records

With the network up the frame is decoded into a socket buffer, and the ring only gets a
copy at the end. -/

/-- A frame decoded into a socket buffer does not come near the ring. -/
theorem decode_frame_same (skb : ℕ) (status_len : u8) (frame : CanFrame) (ctx : MsgContext)
    {s t : RxState} (h : SameNetwork s t) :
    (decode_frame (.skb skb) status_len frame ctx s).1
        = (decode_frame (.skb skb) status_len frame ctx t).1
      ∧ (decode_frame (.skb skb) status_len frame ctx s).2.1
          = (decode_frame (.skb skb) status_len frame ctx t).2.1
      ∧ SameNetwork (decode_frame (.skb skb) status_len frame ctx s).2.2
          (decode_frame (.skb skb) status_len frame ctx t).2.2 := by
  have hstore : ∀ {s t : RxState}, SameNetwork s t → ∀ frame,
      SameNetwork (s.store_frame (.skb skb) frame) (t.store_frame (.skb skb) frame) :=
    fun h _ => h.log _
  unfold decode_frame
  dsimp only
  split
  · exact ⟨rfl, rfl, h⟩
  split
  -- one, two or three stores; into a socket buffer, which frame it is does not show
  · exact ⟨rfl, rfl, hstore h frame⟩
  split
  · exact ⟨rfl, rfl, hstore (hstore (hstore h frame) frame) frame⟩
  split
  · exact ⟨rfl, rfl, hstore (hstore h frame) frame⟩
  · exact ⟨rfl, rfl, hstore (hstore (hstore h frame) frame) frame⟩

/-- The copy for the ring. -/
theorem sameNetwork_copy (slot : Option Int) (skb : ℕ) (msg : ChardevMsg) (s : RxState) :
    SameNetwork
      (match slot with
        | none => s
        | some idx => (s.set_slot idx msg).log [.access skb]) s := by
  cases slot with
  | none => exact .refl s
  | some idx => exact (sameNetwork_log_hidden _ rfl).trans (sameNetwork_set_slot s idx msg)

/-- Two samples of the ring make no difference. -/
theorem finish_data_same (env : Env) (sample sample' : RxSample) (skb : ℕ) (frame : CanFrame)
    (ctx : MsgContext) {s t : RxState} (h : SameNetwork s t) :
    (finish_data env sample (.skb skb) frame ctx s).1
        = (finish_data env sample' (.skb skb) frame ctx t).1
      ∧ SameNetwork (finish_data env sample (.skb skb) frame ctx s).2
          (finish_data env sample' (.skb skb) frame ctx t).2 := by
  obtain ⟨htime, hclock⟩ := kernel_time_same env ctx.ts16 h
  have hdeliver := deliver_same skb .data frame (some (kernel_time env ctx.ts16 t).1)
    (hclock.log [.access skb])
  unfold finish_data
  dsimp only
  rw [htime]
  exact ⟨rfl, (sameNetwork_copy _ skb _ _).trans (hdeliver.trans (sameNetwork_copy _ skb _ _).symm)⟩

/-- With the network up the sample of the ring's counters decides nothing before the commit. -/
theorem decode_data_fill_same (env : Env) (sample sample' : RxSample) (status_len : u8)
    (ctx : MsgContext) {s t : RxState} (h : SameNetwork s t) (hup : s.fwd.netif_running = true) :
    (decode_data_fill env sample status_len ctx s).1
        = (decode_data_fill env sample' status_len ctx t).1
      ∧ (decode_data_fill env sample status_len ctx s).2.1
          = (decode_data_fill env sample' status_len ctx t).2.1
      ∧ SameNetwork (decode_data_fill env sample status_len ctx s).2.2
          (decode_data_fill env sample' status_len ctx t).2.2 := by
  have hup' : t.fwd.netif_running = true := h.running_eq.symm.trans hup
  obtain ⟨halloc, hmore⟩ := alloc_can_skb_same env h
  unfold decode_data_fill
  rw [if_pos hup, if_pos hup']
  generalize alloc_can_skb env s = a at halloc hmore ⊢
  generalize alloc_can_skb env t = b at halloc hmore ⊢
  obtain ⟨granted, s₁⟩ := a
  obtain ⟨granted', t₁⟩ := b
  obtain rfl : granted = granted' := halloc
  cases granted with
  | none => exact ⟨rfl, rfl, hmore⟩
  | some buffer =>
    obtain ⟨skb, frame⟩ := buffer
    have hframe := decode_frame_same skb status_len frame ctx hmore
    dsimp only at hframe ⊢
    generalize decode_frame (.skb skb) status_len frame ctx s₁ = a at hframe ⊢
    generalize decode_frame (.skb skb) status_len frame ctx t₁ = b at hframe ⊢
    obtain ⟨decoded, ctx₁, s₂⟩ := a
    obtain ⟨decoded', ctx₂, t₂⟩ := b
    obtain ⟨rfl, rfl, hsame⟩ : decoded = decoded' ∧ ctx₁ = ctx₂ ∧ SameNetwork s₂ t₂ := hframe
    cases decoded with
    | none => exact ⟨rfl, rfl, hsame.log _⟩
    | some frame' =>
      obtain ⟨hmsg, hfinish⟩ := finish_data_same env sample sample' skb frame' ctx₁ hsame
      exact ⟨congrArg Except.ok hmsg, rfl, hfinish⟩

/-- The commit is the ring's own matter. -/
theorem decode_data_same (env : Env) (status_len : u8) (ctx : MsgContext) {s t : RxState}
    (h : SameNetwork s t) (hup : s.fwd.netif_running = true) :
    SameResult (decode_data env status_len ctx s) (decode_data env status_len ctx t) := by
  have hfill := decode_data_fill_same env (decode_data_sample s.fwd.char_dev)
    (decode_data_sample t.fwd.char_dev) status_len ctx h hup
  unfold decode_data
  dsimp only
  generalize decode_data_fill env (decode_data_sample s.fwd.char_dev) status_len ctx s = a
    at hfill ⊢
  generalize decode_data_fill env (decode_data_sample t.fwd.char_dev) status_len ctx t = b
    at hfill ⊢
  obtain ⟨result, ctx₁, s₁⟩ := a
  obtain ⟨result', ctx₂, t₁⟩ := b
  obtain ⟨rfl, rfl, hsame⟩ : result = result' ∧ ctx₁ = ctx₂ ∧ SameNetwork s₁ t₁ := hfill
  cases result with
  | error err => exact ⟨rfl, rfl, hsame⟩
  -- the commit is the character device's
  | ok msg => exact ⟨rfl, rfl, hsame.fwd_eq, hsame.skbs_eq, hsame.clocks_eq, hsame.trace_eq⟩

/-! ## Packets -/

/-- So a record of either kind does the same to the network. -/
theorem decode_record_same (env : Env) (ctx : MsgContext) {s t : RxState} (h : SameNetwork s t)
    (hup : s.fwd.netif_running = true) :
    SameResult (decode_record env ctx s) (decode_record env ctx t) := by
  unfold decode_record
  dsimp only
  split
  · exact decode_status_and_error_same env _ _ h
  · obtain ⟨herr, hctx, hsame⟩ := decode_data_same env (ctx.peek 0) (ctx.take 1 1) h hup
    exact ⟨herr, by rw [hctx], hsame⟩

/-- Round by round the two runs of the loop stay together. -/
theorem decode_records_same (env : Env) (fuel : ℕ) : ∀ (err : Int) (ctx : MsgContext)
    {s t : RxState}, SameNetwork s t → s.fwd.netif_running = true →
    SameResult (decode_records env fuel err ctx s) (decode_records env fuel err ctx t) := by
  induction fuel with
  | zero => exact fun _ _ _ _ h _ => ⟨rfl, rfl, h⟩
  | succ fuel ih =>
    intro err ctx s t h hup
    have hrecord := decode_record_same env ctx h hup
    have hkeep := decode_record_undisturbed env ctx s
    rw [decode_records, decode_records]
    split
    · generalize decode_record env ctx s = a at hrecord hkeep ⊢
      generalize decode_record env ctx t = b at hrecord ⊢
      obtain ⟨err₁, ctx₁, s₁⟩ := a
      obtain ⟨err₂, ctx₂, t₁⟩ := b
      obtain ⟨rfl, rfl, hsame⟩ : err₁ = err₂ ∧ ctx₁ = ctx₂ ∧ SameNetwork s₁ t₁ := hrecord
      exact ih _ _ hsame (hkeep.running_eq.trans hup)
    · exact ⟨rfl, rfl, h⟩

/-- The state with another character device. -/
def RxState.with_chardev (s : RxState) (dev : Chardev) : RxState :=
  { s with fwd := { s.fwd with char_dev := dev } }

/-- With the network interface running, the character device has no influence on what a
packet does to it: on the code returned, on the frames delivered with their timestamps, on
the error state, the statistics and the time reference. -/
theorem chardev_cannot_disturb_network (env : Env) (ibuf : ℕ → u8) (size : ℕ) (s : RxState)
    (dev : Chardev) (hup : s.fwd.netif_running = true) :
    let r := decode_incoming_buf env ibuf size s
    let r' := decode_incoming_buf env ibuf size (s.with_chardev dev)
    r'.1 = r.1
      ∧ network_events r'.2.2.trace = network_events r.2.2.trace
      ∧ r'.2.2.fwd.can_state = r.2.2.fwd.can_state
      ∧ r'.2.2.fwd.can_stats = r.2.2.fwd.can_stats
      ∧ r'.2.2.fwd.stats = r.2.2.fwd.stats
      ∧ r'.2.2.fwd.time_ref = r.2.2.fwd.time_ref := by
  have hsame : SameNetwork s (s.with_chardev dev) := ⟨rfl, rfl, rfl, rfl⟩
  obtain ⟨herr, -, hafter⟩ := decode_records_same env 256 0 (MsgContext.start ibuf size) hsame hup
  exact ⟨herr.symm, hafter.trace_eq.symm, hafter.can_state_eq.symm, hafter.can_stats_eq.symm,
    hafter.stats_eq.symm, hafter.time_ref_eq.symm⟩

/-- A ring without a free slot. -/
def Chardev.full : Chardev := { Chardev.closed with open_count := 1, rx_unread_cnt := 8 }

/-- An empty ring and a full one. -/
theorem chardev_cannot_disturb_network_full :
    let r := decode_incoming_buf Env.plenty two_record_packet 17 (RxState.idle true)
    let r' := decode_incoming_buf Env.plenty two_record_packet 17
      ((RxState.idle true).with_chardev Chardev.full)
    r'.1 = r.1
      ∧ network_events r'.2.2.trace = network_events r.2.2.trace
      ∧ r'.2.2.fwd.can_state = r.2.2.fwd.can_state
      ∧ r'.2.2.fwd.can_stats = r.2.2.fwd.can_stats
      ∧ r'.2.2.fwd.stats = r.2.2.fwd.stats
      ∧ r'.2.2.fwd.time_ref = r.2.2.fwd.time_ref :=
  chardev_cannot_disturb_network Env.plenty two_record_packet 17 (RxState.idle true) Chardev.full rfl

end DualPcanUsb
