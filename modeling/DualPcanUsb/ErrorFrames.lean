/-
Telling error reports from bus traffic.

SocketCAN marks an error message frame by `CAN_ERR_FLAG` in its id and a length of
`CAN_ERR_DLC`. `decode_data` can never set that flag: the id field is shifted out
of its reach. `decode_error`, however, starts from the frame of `alloc_can_skb`,
not `alloc_can_err_skb`, and only ors an error class into it, so every frame it
posts reads as a data frame of length zero. A run of packets keeps the two kinds
apart exactly when none of its error records posts a frame.
-/
import DualPcanUsb.PacketLoop

set_option autoImplicit false

namespace DualPcanUsb

/-! ## Runs of the receiver

Between packets the rest of the driver may do anything to the private data:
interfaces start and stop, readers empty the ring. -/

/-- One step of a run. -/
inductive RxStep
  | packet (transfer_buffer : ℕ → u8) (actual_length : ℕ)
  | elsewhere (fwd : Forwarder)

def RxState.step (env : Env) (s : RxState) : RxStep → RxState
  | .packet transfer_buffer actual_length =>
    (pcan_decode_and_handle_urb env transfer_buffer actual_length s).2
  | .elsewhere fwd => { s with fwd := fwd }

def RxState.run (env : Env) (s : RxState) : List RxStep → RxState
  | [] => s
  | step :: steps => (s.step env step).run env steps

/-- The fates of the records of a step, which are those of its packet. -/
def step_fates (env : Env) (s : RxState) : RxStep → List Fate
  | .packet transfer_buffer actual_length =>
    if actual_length > PCAN_USB_MSG_HEADER_LEN then
      packet_fates env transfer_buffer actual_length s
    else []
  | .elsewhere _ => []

/-- The condition `P` on each step of a run and the state before it. -/
def RxState.Along (env : Env) (P : RxState → RxStep → Prop) (s : RxState) : List RxStep → Prop
  | [] => True
  | step :: steps => P s step ∧ (s.step env step).Along env P steps

/-- What a step of the receiver logs is accounted for by the fates of its records. -/
theorem step_trace (env : Env) (s : RxState) (step : RxStep) :
    ∃ events, (s.step env step).trace = s.trace ++ events
      ∧ FatesTrace env s.skbs (s.step env step).skbs (step_fates env s step) events := by
  cases step with
  | elsewhere fwd => exact ⟨[], by simp [RxState.step], .nil _⟩
  | packet transfer_buffer actual_length =>
    unfold RxState.step pcan_decode_and_handle_urb step_fates
    by_cases hlen : actual_length > PCAN_USB_MSG_HEADER_LEN
    · simp only [if_pos hlen]
      exact (decode_incoming_buf_fates env transfer_buffer actual_length s).trace
    · simp only [if_neg hlen]
      split <;> exact ⟨[], by simp, .nil _⟩

/-! ## The two kinds of frame -/

/-- The frame shows which kind of record it was delivered for. -/
def ShowsKind (kind : RecordKind) (frame : CanFrame) : Prop :=
  match kind with
  | .status => frame.can_id &&& CAN_ERR_FLAG ≠ 0 ∧ frame.can_dlc = CAN_ERR_DLC
  | .data => frame.can_id &&& CAN_ERR_FLAG = 0

/-- Every delivered frame shows its kind. -/
def KindsApparent (events : List Event) : Prop :=
  ∀ skb kind frame hwtstamp, Event.netif_rx skb kind frame hwtstamp ∈ events →
    ShowsKind kind frame

/-- Whether kinds are apparent is a matter of each frame by itself. -/
theorem kindsApparent_append (a b : List Event) :
    KindsApparent (a ++ b) ↔ KindsApparent a ∧ KindsApparent b := by
  unfold KindsApparent
  simp only [List.mem_append]
  constructor
  · intro h
    exact ⟨fun _ _ _ _ hin => h _ _ _ _ (.inl hin), fun _ _ _ _ hin => h _ _ _ _ (.inr hin)⟩
  · rintro ⟨ha, hb⟩ skb kind frame hwtstamp (hin | hin)
    · exact ha _ _ _ _ hin
    · exact hb _ _ _ _ hin

/-- What `decode_error` makes of a zeroed frame has length zero still. -/
theorem error_frame_zero_dlc (new_state : CanState) :
    (error_frame new_state CanFrame.zero).can_dlc = 0 := by
  cases new_state <;> rfl

/-- A record's frames show their kind exactly when it posts no error frame. -/
theorem RecordTrace.kindsApparent_iff {env : Env}
    (hzero : ∀ k frame, env.alloc_can_skb k = some frame → frame = CanFrame.zero)
    {k k' : ℕ} {delivers : Option RecordKind} {events : List Event}
    (h : RecordTrace env k k' delivers events) :
    KindsApparent events ↔ delivers ≠ some .status := by
  cases h with
  | quiet _ _ => simp [KindsApparent]
  | in_place _ => simp [KindsApparent]
  | freed stores => simp [KindsApparent]
  | data frame hframe ts16 now slot =>
    simp only [ne_eq, Option.some.injEq, reduceCtorEq, not_false_eq_true, iff_true]
    intro skb kind frame' hwtstamp hin
    -- one `netif_rx` in the trace of a data record, and the shift keeps its flag clear
    have hevent : kind = .data ∧ frame' = frame := by
      cases slot <;> simp [posted_events] at hin <;> exact ⟨hin.2.1, hin.2.2.1⟩
    rw [hevent.1, hevent.2]
    exact hframe
  | status new_state status_len ts16 frame halloc now =>
    simp only [ne_eq, not_true_eq_false, iff_false]
    intro happarent
    -- the frame posted was zero before the class was or-ed in
    obtain rfl := hzero k frame halloc
    have hin : ∃ hwtstamp, Event.netif_rx k .status (error_frame new_state CanFrame.zero) hwtstamp
        ∈ Event.alloc_can_skb k
          :: error_events k new_state status_len ts16 CanFrame.zero now := by
      by_cases hts : status_len &&& PCAN_USB_STATUSLEN_TIMESTAMP ≠ 0
      · exact ⟨some now, by rw [error_events, if_pos hts]; simp⟩
      · exact ⟨none, by rw [error_events, if_neg hts]; simp⟩
    obtain ⟨hwtstamp, hin⟩ := hin
    -- its length alone gives it away
    have hshows := (happarent _ _ _ _ hin).2
    rw [error_frame_zero_dlc] at hshows
    exact absurd hshows (by decide)

/-- Over a row of records: exactly if no error record delivers. -/
theorem FatesTrace.kindsApparent_iff {env : Env}
    (hzero : ∀ k frame, env.alloc_can_skb k = some frame → frame = CanFrame.zero)
    {k k' : ℕ} {fates : List Fate} {events : List Event} (h : FatesTrace env k k' fates events) :
    KindsApparent events ↔ ∀ fate ∈ fates, fate.delivers ≠ some .status := by
  induction h with
  | nil => simp [KindsApparent]
  | cons head _ ih =>
    rw [kindsApparent_append, head.kindsApparent_iff hzero, ih, List.forall_mem_cons]

/-- The events a run adds to the trace. -/
def run_events (env : Env) (s : RxState) (steps : List RxStep) : List Event :=
  (s.run env steps).trace.drop s.trace.length

/-- A run logs its events behind what was there. -/
theorem run_trace (env : Env) (steps : List RxStep) (s : RxState) :
    (s.run env steps).trace = s.trace ++ run_events env s steps := by
  -- a run only appends to the trace
  have hgrows : ∀ (steps : List RxStep) (s : RxState),
      ∃ events, (s.run env steps).trace = s.trace ++ events := by
    intro steps
    induction steps with
    | nil => exact fun s => ⟨[], by simp [RxState.run]⟩
    | cons step steps ih =>
      intro s
      obtain ⟨events, hevents, -⟩ := step_trace env s step
      obtain ⟨events', hevents'⟩ := ih (s.step env step)
      exact ⟨events ++ events', by rw [RxState.run, hevents', hevents, List.append_assoc]⟩
  obtain ⟨events, hevents⟩ := hgrows steps s
  rw [run_events, hevents, List.drop_left]

/-- In every run, error reports and bus traffic can be told apart by the frames
alone if and only if no error record of the run posts a frame. -/
theorem error_frames_apparent_iff (env : Env)
    (hzero : ∀ k frame, env.alloc_can_skb k = some frame → frame = CanFrame.zero)
    (steps : List RxStep) (s : RxState) :
    KindsApparent (run_events env s steps)
      ↔ s.Along env (fun s step => ∀ fate ∈ step_fates env s step,
          fate.delivers ≠ some .status) steps := by
  induction steps generalizing s with
  | nil => simp [run_events, RxState.run, RxState.Along, KindsApparent]
  | cons step steps ih =>
    obtain ⟨events, hevents, htrace⟩ := step_trace env s step
    have hsplit : run_events env s (step :: steps)
        = events ++ run_events env (s.step env step) steps := by
      have hrun := run_trace env steps (s.step env step)
      rw [run_events, RxState.run, hrun, hevents, List.append_assoc, List.drop_left]
    rw [hsplit, kindsApparent_append, htrace.kindsApparent_iff hzero, ih, RxState.Along]

/-- An error record that reports the warning state. -/
def warning_packet : ℕ → u8 := buffer [0, 1, 0x40, 1, 4]

/-- A data record, and an error record that changes nothing. -/
def active_packet : ℕ → u8 := buffer [0, 2, 0x10, 0x20, 0x00, 0x34, 0x12, 0x40, 1, 0]

/-- The packet that reports a warning breaks it; the other one, which delivers a data frame, does
not. -/
theorem error_frames_apparent_iff_two_packets :
    ¬ KindsApparent (run_events Env.plenty (RxState.idle true) [.packet warning_packet 5])
      ∧ KindsApparent (run_events Env.plenty (RxState.idle true) [.packet active_packet 10])
      ∧ Event.netif_rx 0 .data ⟨0x40000001, 0, Vector.replicate 8 0⟩ (some 1)
        ∈ run_events Env.plenty (RxState.idle true) [.packet active_packet 10] := by
  have happarent := error_frames_apparent_iff Env.plenty fun _ _ h => (Option.some.inj h).symm
  refine ⟨fun hwarning => ?_, (happarent _ _).mpr ⟨by decide, trivial⟩, by decide⟩
  exact absurd ((happarent _ _).mp hwarning).1 (by decide)

/-- The frame posted for it has no error flag and length zero. -/
theorem warning_packet_not_apparent :
    ¬ KindsApparent (run_events Env.plenty (RxState.idle true) [.packet warning_packet 5]) := by
  intro h
  have hin : Event.netif_rx 0 .status
        ⟨CAN_ERR_CRTL, 0, (Vector.replicate 8 0).set 1 (CAN_ERR_CRTL_TX_WARNING
          ||| CAN_ERR_CRTL_RX_WARNING)⟩ none
      ∈ run_events Env.plenty (RxState.idle true) [.packet warning_packet 5] := by decide
  exact absurd (h _ _ _ _ hin).2 (by decide)

end DualPcanUsb
