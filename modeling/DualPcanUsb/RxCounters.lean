/-
The receive counters tell what a socket has seen.

The driver counts a frame after it has been handed over, and an error frame at the switch
that builds it, each in another place than the hand-over. Read back from the frames
themselves, the counters come out the same: `rx_packets` and `rx_bytes` are the frames and
their lengths, and every counter of errors is the number of frames that report the error. Each
counter is a word of its own width, and wraps in it.
-/
import DualPcanUsb.RecordMeaning
import DualPcanUsb.WholeOperations
import DualPcanUsb.Lifecycle
import DualPcanUsb.Lib.Tally

set_option autoImplicit false

namespace DualPcanUsb

/-! ## Counters and what adds to them -/

/-- The counters of the two statistics structures. -/
inductive Counter
  | rx_packets | rx_bytes | rx_errors | rx_over_errors | bus_off | error_passive | error_warning
deriving DecidableEq, Repr

/-- Bits: `unsigned long` for the network device, `__u32` for CAN. -/
def Counter.width : Counter → ℕ
  | .rx_packets | .rx_bytes | .rx_errors | .rx_over_errors => 64
  | .bus_off | .error_passive | .error_warning => 32

def Forwarder.counter (fwd : Forwarder) : (c : Counter) → BitVec c.width
  | .rx_packets => fwd.stats.rx_packets
  | .rx_bytes => fwd.stats.rx_bytes
  | .rx_errors => fwd.stats.rx_errors
  | .rx_over_errors => fwd.stats.rx_over_errors
  | .bus_off => fwd.can_stats.bus_off
  | .error_passive => fwd.can_stats.error_passive
  | .error_warning => fwd.can_stats.error_warning

/-- What is to be added, in the width of each counter. -/
def Counter.words (adds : Counter → ℕ) (c : Counter) : BitVec c.width :=
  BitVec.ofNat c.width (adds c)

@[simp] theorem Counter.words_zero : Counter.words 0 = 0 := rfl

/-- What a frame for a data record says. -/
def CanFrame.data_adds (frame : CanFrame) : Counter → ℕ
  | .rx_packets => 1
  | .rx_bytes => frame.can_dlc.toNat
  | _ => 0

/-- What a frame for an error record says, by its class bits and its second byte. -/
def CanFrame.status_adds (frame : CanFrame) : Counter → ℕ
  | .rx_packets => 1
  | .rx_bytes => frame.can_dlc.toNat
  | .bus_off => if frame.can_id &&& CAN_ERR_BUSOFF ≠ 0 then 1 else 0
  | .error_passive =>
    if frame.data.get 1 &&& (CAN_ERR_CRTL_TX_PASSIVE ||| CAN_ERR_CRTL_RX_PASSIVE) ≠ 0 then 1 else 0
  | .error_warning =>
    if frame.data.get 1 &&& (CAN_ERR_CRTL_TX_WARNING ||| CAN_ERR_CRTL_RX_WARNING) ≠ 0 then 1 else 0
  | .rx_errors | .rx_over_errors =>
    if frame.data.get 1 &&& CAN_ERR_CRTL_RX_OVERFLOW ≠ 0 then 1 else 0

/-- What the network stack has been given by an event. -/
def Event.adds : Event → Counter → ℕ
  | .netif_rx _ .data frame _ => frame.data_adds
  | .netif_rx _ .status frame _ => frame.status_adds
  | _ => 0

/-- `alloc_can_skb` hands out a frame of zeros. -/
def Env.Zeroed (env : Env) : Prop :=
  ∀ k frame, env.alloc_can_skb k = some frame → frame = CanFrame.zero

/-- Calls of `can_bus_off` weigh one. -/
def Event.bus_offs : Event → ℕ
  | .can_bus_off => 1
  | _ => 0

/-- Both weights: the frames handed over, and the calls of `can_bus_off`. -/
def Event.weight (event : Event) : ((c : Counter) → BitVec c.width) × u32 :=
  (Counter.words event.adds, BitVec.ofNat 32 event.bus_offs)

/-- The counters, and the one `can_bus_off` goes with. -/
def RxState.count (s : RxState) : ((c : Counter) → BitVec c.width) × u32 :=
  (s.fwd.counter, s.fwd.can_stats.bus_off)

/-- Between the two states the counters have grown by what the stack was given. -/
abbrev RxTallied : RxState → RxState → Prop := Tallied RxState.trace RxState.count Event.weight

/-! ## Records -/

/-- Events the network stack has no part in weigh nothing. -/
theorem weight_sum_hidden {events : List Event} (hhidden : network_events events = []) :
    (events.map Event.weight).sum = 0 := by
  induction events with
  | nil => rfl
  | cons event events ih =>
    have hevent : event.reaches_network = false := by
      by_contra hreaches
      rw [Bool.not_eq_false] at hreaches
      rw [network_events, List.filter_cons_of_pos hreaches] at hhidden
      cases hhidden
    rw [network_events, List.filter_cons_of_neg (by rw [hevent]; decide)] at hhidden
    rw [List.map_cons, List.sum_cons, ih hhidden, add_zero]
    cases event with
    | netif_rx => cases hevent
    | can_bus_off => cases hevent
    | _ => rfl

/-- A data record adds a packet and its bytes, if a frame goes up. -/
theorem run_data_tallied (env : Env) (frame : CanFrame) (ts16 : u16) (s : RxState) :
    RxTallied s (run_data env frame ts16 s).2 := by
  unfold run_data
  dsimp only
  split
  · split
    · exact .of_same rfl rfl
    · refine ⟨_, rfl, ?_⟩
      -- of all the events of the record, the hand-over weighs
      have hweight : ∀ (msg : ChardevMsg) (slot : Option Int),
          (([Event.alloc_can_skb s.skbs] ++ List.replicate 3 (Event.access s.skbs)
            ++ posted_events s.skbs ts16 msg slot).map Event.weight).sum
          = (Counter.words msg.frame.data_adds, 0) := by
        intro msg slot
        unfold posted_events
        cases slot <;> simp [Event.weight, Event.adds, Event.bus_offs, List.replicate]
      rw [hweight]
      refine Prod.ext (funext fun c => ?_) (BitVec.add_zero _).symm
      cases c with
      | rx_packets => rfl
      | rx_bytes => exact congrArg (s.fwd.stats.rx_bytes + ·) (BitVec.ofNat_toNat ..).symm
      | _ => exact (BitVec.add_zero _).symm
  split
  · refine ⟨[.compute_kernel_time ts16], rfl, ?_⟩
    rw [weight_sum_hidden rfl, add_zero]
    rfl
  · exact .refl s

/-- A data record that is cut off adds nothing. -/
theorem run_torn_tallied (env : Env) (cut : Torn) (s : RxState) :
    RxTallied s (run_torn env cut s).2 := by
  unfold run_torn
  dsimp only
  split
  · split
    · exact .of_same rfl rfl
    · rename_i frame _
      refine ⟨[.alloc_can_skb s.skbs] ++ (List.replicate (cut.stores frame).length
        (.access s.skbs) ++ [.dev_kfree_skb s.skbs]), ?_, ?_⟩
      · rw [log_trace, RxState.with_skb, log_trace, List.append_assoc]
      · rw [weight_sum_hidden, add_zero]
        · rfl
        · cases cut <;> rfl
  split
  -- stores into the ring
  · cases cut <;> exact .of_same rfl rfl
  · exact .refl s

/-- The frame of a report and the counter it is counted in say the same. -/
theorem report_tallied (env : Env) (new_state : CanState) (stamp : Option u16) (s : RxState) :
    RxTallied s (report env new_state stamp CanFrame.zero s) := by
  refine ⟨_, rfl, ?_⟩
  have hweight : ∀ stamp : Option (u16 × ktime_t),
      ((report_events s.skbs new_state stamp (error_frame new_state CanFrame.zero)).map
        Event.weight).sum = (Counter.words (error_frame new_state CanFrame.zero).status_adds,
          if new_state = .BUS_OFF then 1 else 0) := by
    intro stamp
    unfold report_events
    cases new_state <;> cases stamp <;> simp [Event.weight, Event.adds, Event.bus_offs]
  rw [hweight]
  refine Prod.ext (funext fun c => ?_) ?_
  -- a counter that the report leaves alone has grown by zero
  · cases new_state <;> cases c <;> first | rfl | exact (BitVec.add_zero _).symm
  · cases new_state <;> first | rfl | exact (BitVec.add_zero _).symm

/-- An error record adds what its frame says. -/
theorem run_error_tallied {env : Env} (hzero : env.Zeroed) (number : u8) (stamp : Option u16)
    (s : RxState) : RxTallied s (run_error env number stamp s).2 := by
  unfold run_error
  split
  · exact .refl s
  · exact .of_same rfl rfl
  · rename_i new_state _
    cases halloc : env.alloc_can_skb s.skbs with
    | none => exact .of_same rfl rfl
    | some frame =>
      obtain rfl := hzero s.skbs frame halloc
      exact report_tallied env new_state stamp s

/-- A record of any kind, by its case. -/
theorem record_tallied {env : Env} (hzero : env.Zeroed) (record : Record) (s : RxState) :
    RxTallied s (record.run env s).2 := by
  cases record with
  | data frame ts16 => exact run_data_tallied env frame ts16 s
  | torn cut => exact run_torn_tallied env cut s
  | malformed => exact .refl s
  | error number stamp whole =>
    rw [Record.run, then_body_state]
    exact run_error_tallied hzero number stamp s
  | timestamp ts16 first whole =>
    rw [Record.run, then_body_state]
    dsimp only
    unfold run_timestamp
    split <;> exact .of_same rfl rfl
  | other whole =>
    rw [Record.run, then_body_state]
    exact .refl s

/-- The records of a packet, added up. -/
theorem run_records_tallied {env : Env} (hzero : env.Zeroed) (records : List Record) :
    ∀ s : RxState, RxTallied s (run_records env records s).2 := by
  induction records with
  | nil => exact .refl
  | cons record records ih =>
    intro s
    have hhead := record_tallied hzero record s
    rw [run_records]
    split
    · exact hhead.trans (ih _)
    · exact hhead

/-! ## The device -/

section Keeps

variable {α : Type} {view : Device → α}

/-- A view that shows neither the bus nor what follows a success does not see an open's commands.
-/
theorem start_commands_done_keeps (hbus : ∀ d on, view { d with bus_on := on } = view d)
    {done : Device → Device} (hdone : ∀ d, view (done d) = view d) {sent : Int} {d d' : Device}
    {phase phase' : Phase} (h : start_commands sent done d phase = some (phase', d')) :
    view d' = view d := by
  unfold start_commands at h
  split at h
  · cases h
    rfl
  · cases h
    rfl
  · have hkept := pcan_cmd_set_bus_keeps hbus sent true d
    dsimp only at h
    split at h <;> cases h
    · exact hkept
    · exact (hdone _).trans hkept
  · cases h

/-- What the operations of the network interface do not write. -/
theorem operate_netdev_keeps (hstage : ∀ d n, view (Device.set_stage d n) = view d)
    (hstate : ∀ d state, view (Device.set_can_state d state) = view d)
    (hclear : ∀ d, view (Device.clear_time_ref d) = view d)
    (hrunning : ∀ d up, view (Device.set_netif_running d up) = view d)
    (hpresent : ∀ d present, view { d with netif_device_present := present } = view d)
    (hbus : ∀ d on, view { d with bus_on := on } = view d) {sent : Int} {d d' : Device}
    {phase phase' : Phase} (h : d.operate .netdev sent phase = some (phase', d')) :
    view d' = view d := by
  rcases (Option.orElse_eq_some _ _ _).mp h with hopen | ⟨-, hstop⟩
  · unfold pcan_net_open at hopen
    split at hopen
    · split at hopen <;> cases hopen
      · exact hrunning _ _
      · rfl
    · cases hopen
      exact hrunning _ _
    unfold start_can_interface at hopen
    split at hopen
    · dsimp only at hopen
      split at hopen <;> cases hopen
      · exact (hstate _ _).trans (hstage _ _)
      · exact (hclear _).trans (hstage _ _)
    · dsimp only at hopen
      cases hopen
      split
      · exact (hpresent _ _).trans (hstage _ _)
      · exact hstage _ _
    · exact start_commands_done_keeps hbus (fun d => hstate d _) hopen
  · unfold pcan_net_stop at hstop
    split at hstop
    · cases hstop
      exact (hstate _ _).trans (hstage _ _)
    · exact usbdrv_reset_bus_off_keeps hbus hstop

end Keeps

/-- No operation of either interface touches the counters, or logs anything. -/
theorem operate_counters {sent : Int} {iface : Iface} {d d' : Device} {phase phase' : Phase}
    (h : d.operate iface sent phase = some (phase', d')) :
    (d'.rx.trace, d'.rx.count) = (d.rx.trace, d.rx.count) := by
  cases iface with
  | chardev =>
    exact @operate_chardev_keeps _ (fun d => (d.rx.trace, d.rx.count)) (fun _ _ => rfl)
      (fun _ _ => rfl) (fun _ => rfl) (fun _ => rfl) (fun _ _ => rfl) _ _ _ _ _ h
  | netdev =>
    exact @operate_netdev_keeps _ (fun d => (d.rx.trace, d.rx.count)) (fun _ _ => rfl)
      (fun _ _ => rfl) (fun _ => rfl) (fun _ _ => rfl) (fun _ _ => rfl) (fun _ _ => rfl) _ _ _ _
      _ h

/-! ## Completions -/

/-- What a completed URB says: nothing, unless an interface is started and the transfer has
gone through. -/
def Urb.records (urb : Urb) (stage : Int) : List Record :=
  if PCAN_USB_STAGE_ONE_STARTED ≤ stage ∧ urb.status = 0 then
    urb_records urb.transfer_buffer urb.actual_length
  else []

/-- A completion does to the receiver what the records of its packet do. -/
theorem usb_read_bulk_callback_rx (env : Env) (urb : Urb) (submit_err : Int) (d : Device) :
    (usb_read_bulk_callback env urb submit_err d).rx
      = (run_records env (urb.records d.stage) d.rx).2 := by
  have hresubmit : ∀ d : Device, (d.resubmit_urb submit_err).rx = d.rx := by
    intro d
    unfold Device.resubmit_urb
    split
    · rfl
    split
    · rfl
    · rfl
  unfold usb_read_bulk_callback
  by_cases hstage : d.stage < PCAN_USB_STAGE_ONE_STARTED
  · have hnone : urb.records d.stage = [] := if_neg fun h => absurd h.1 (not_le.mpr hstage)
    rw [if_pos hstage, hnone]
    rfl
  rw [if_neg hstage]
  by_cases hok : urb.status = 0
  · have hrecords : urb.records d.stage = urb_records urb.transfer_buffer urb.actual_length :=
      if_pos ⟨not_lt.mp hstage, hok⟩
    rw [if_pos hok, hrecords]
    dsimp only
    rw [hresubmit]
    split
    · exact congrArg Prod.snd (handle_urb_eq_run env urb.transfer_buffer urb.actual_length d.rx)
    -- an empty transfer has no records
    · rename_i hempty
      have hzero : urb.actual_length = 0 := by omega
      rw [hzero]
      rfl
  · have hnone : urb.records d.stage = [] := if_neg fun h => hok h.2
    rw [if_neg hok, hnone]
    split
    · rfl
    · exact hresubmit d

/-- One completion, with what the kernel hands out and answers in it. -/
structure ReadCompletion where
  env : Env
  urb : Urb
  submit_err : Int

def Device.complete (d : Device) (c : ReadCompletion) : Device :=
  usb_read_bulk_callback c.env c.urb c.submit_err d

/-- What a row of completions does to the driver is what their records mean, one after the
other: the bytes are parsed as they are, without regard to the state they come to. -/
theorem completions_mean_records (completions : List ReadCompletion) (d : Device) :
    (completions.foldl Device.complete d).rx
      = completions.foldl (fun s c => (run_records c.env (c.urb.records d.stage) s).2) d.rx := by
  induction completions generalizing d with
  | nil => rfl
  | cons c completions ih =>
    have hstage : (d.complete c).stage = d.stage :=
      ((usb_read_bulk_callback_completed c.env c.urb c.submit_err d).rx undisturbed_frame).stage_eq
    rw [List.foldl_cons, List.foldl_cons, ih, hstage, Device.complete,
      usb_read_bulk_callback_rx]

/-- A completion adds what the frames say that it hands over. -/
theorem completion_tallied {env : Env} (hzero : env.Zeroed) (urb : Urb) (submit_err : Int)
    (d : Device) : RxTallied d.rx (usb_read_bulk_callback env urb submit_err d).rx := by
  rw [usb_read_bulk_callback_rx]
  exact run_records_tallied hzero _ d.rx

/-- A completion gets zeroed buffers. -/
def DeviceAction.Zeroed : DeviceAction → Prop
  | .complete env _ _ => env.Zeroed
  | _ => True

/-- Opening and closing add nothing. -/
theorem step_tallied (d : Device) (action : DeviceAction) (d' : Device) (hzero : action.Zeroed)
    (h : d.step action = some d') : RxTallied d.rx d'.rx := by
  cases step_cases h with
  | open_chardev => exact .refl _
  | open_netdev => exact .of_same rfl rfl
  | close_chardev => exact .refl _
  | close_netdev => exact .of_same rfl rfl
  | advance i sent iface phase phase' d₁ hproc hop =>
    obtain ⟨htrace, hcount⟩ := Prod.mk.inj (operate_counters hop)
    exact .of_same htrace hcount
  | complete env urb submit_err hsubmitted => exact completion_tallied hzero urb submit_err _

/-- Adding in words is adding up, and then the words. -/
theorem weight_sum_fst (c : Counter) (events : List Event) :
    (events.map Event.weight).sum.1 c
      = BitVec.ofNat c.width (events.map fun event => event.adds c).sum := by
  induction events with
  | nil => rfl
  | cons event events ih =>
    rw [List.map_cons, List.sum_cons, List.map_cons, List.sum_cons, BitVec.ofNat_add, ← ih]
    rfl

/-- The second part of the sum is the number of bus-off signals. -/
theorem weight_sum_snd (events : List Event) :
    (events.map Event.weight).sum.2 = BitVec.ofNat 32 (events.count .can_bus_off) := by
  induction events with
  | nil => rfl
  | cons event events ih =>
    rw [List.map_cons, List.sum_cons, List.count_cons, BitVec.ofNat_add, ← ih, BitVec.add_comm]
    cases event <;> rfl

/-- Over every run of the device, whatever packets complete and however the interfaces are
opened and closed meanwhile, the receive counters grow by what the frames say that the network
stack is given, each in its own width, and bus-off is counted as often as it is signalled. -/
theorem counters_match_frames (d₀ d : Device) (actions : List DeviceAction)
    (hzero : ∀ action ∈ actions, action.Zeroed)
    (hrun : Runs.run Device.step d₀ actions = some d) :
    ∃ events, d.rx.trace = d₀.rx.trace ++ events
      ∧ (∀ c, d.rx.fwd.counter c
          = d₀.rx.fwd.counter c
            + BitVec.ofNat c.width (events.map fun event => event.adds c).sum)
      ∧ d.rx.fwd.can_stats.bus_off
        = d₀.rx.fwd.can_stats.bus_off + BitVec.ofNat 32 (events.count .can_bus_off) := by
  have htally : Tallied (fun d : Device => d.rx.trace) (fun d => d.rx.count) Event.weight d₀ d :=
    Tallied.run step_tallied hzero hrun
  obtain ⟨events, htrace, hcount⟩ := htally
  refine ⟨events, htrace, fun c => ?_, ?_⟩
  · exact (congrFun (congrArg Prod.fst hcount) c).trans
      (congrArg (d₀.rx.fwd.counter c + ·) (weight_sum_fst c events))
  · exact (congrArg Prod.snd hcount).trans
      (congrArg (d₀.rx.fwd.can_stats.bus_off + ·) (weight_sum_snd events))

/-- The network interface is opened; a data record comes in, and the device reports bus-off. -/
def data_then_bus_off : List DeviceAction :=
  [.open_ .netdev, .advance 0 0, .advance 0 0, .advance 0 0, .advance 0 0,
    .complete Env.plenty
      ⟨0, buffer [0, 2, 0x02, 0x20, 0x03, 0x34, 0x12, 0xaa, 0xbb, 0x40, 1, 0x10], 12⟩ 0]

/-- A data frame and a bus-off error are two packets received. -/
theorem counters_match_frames_bus_off :
    ∃ d, Runs.run Device.step (Device.plugged 3) data_then_bus_off = some d
      ∧ d.rx.fwd.counter .rx_packets = 2
      ∧ ∃ events, d.rx.trace = (Device.plugged 3).rx.trace ++ events
        ∧ (∀ c, d.rx.fwd.counter c = (Device.plugged 3).rx.fwd.counter c
            + BitVec.ofNat c.width (events.map fun event => event.adds c).sum)
        ∧ d.rx.fwd.can_stats.bus_off = (Device.plugged 3).rx.fwd.can_stats.bus_off
            + BitVec.ofNat 32 (events.count .can_bus_off) := by
  obtain ⟨d, hrun, hpackets⟩ :
      ∃ d, Runs.run Device.step (Device.plugged 3) data_then_bus_off = some d
        ∧ d.rx.fwd.counter .rx_packets = 2 :=
    Runs.exists_run_of_any Device.step (by decide)
  have hplenty : Env.plenty.Zeroed := fun _ _ h => (Option.some.inj h).symm
  have hzero : ∀ action ∈ data_then_bus_off, action.Zeroed := by
    intro action hmem
    simp only [data_then_bus_off, List.mem_cons, List.not_mem_nil, or_false] at hmem
    rcases hmem with rfl | rfl | rfl | rfl | rfl | rfl
    all_goals first | exact hplenty | trivial
  exact ⟨d, hrun, hpackets, counters_match_frames (Device.plugged 3) d data_then_bus_off hzero hrun⟩

end DualPcanUsb
