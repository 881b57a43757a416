/-
Two receivers of one stream.

A data record goes to the network stack and to the character device's ring. With both
interfaces up the ring is a mailbox of eight that is offered what the network stack is given,
message by message; so what the character device's readers get is a part of what a socket
gets, in order and with the same times. With the network interface down the ring gets the same
frames as with it up, as long as it has room for a whole packet.
-/
import DualPcanUsb.RecordMeaning
import DualPcanUsb.RxRing
import DualPcanUsb.Lib.Mailbox

set_option autoImplicit false

namespace DualPcanUsb

/-! ## The ring is a mailbox -/

/-- The slots of the ring. -/
def ring_size : ℕ := 8

/-- An open character device with its counters in range, as every reachable one is. -/
structure Chardev.InUse (dev : Chardev) : Prop where
  count_range : 0 ≤ dev.rx_unread_cnt ∧ dev.rx_unread_cnt ≤ 8
  idx_range : 0 ≤ dev.rx_write_idx ∧ dev.rx_write_idx < 8
  opened : 1 ≤ dev.open_count

/-- A sample taken now, with nothing in between. -/
theorem Chardev.InUse.sample {dev : Chardev} (h : dev.InUse) :
    (decode_data_sample dev).Good dev
      ∧ (decode_data_sample dev).chardev_msg
        = if dev.rx_unread_cnt < 8 then some dev.rx_write_idx else none := by
  have hopen := h.opened
  have heq : decode_data_sample dev = ⟨dev.rx_unread_cnt, dev.rx_write_idx⟩ := by
    rw [decode_data_sample, if_neg (by omega)]
  rw [heq]
  exact ⟨⟨h.count_range.1, h.idx_range, le_rfl, .inl rfl⟩, chardev_msg_eq h.count_range.1⟩

/-- A ring in use takes a message as a mailbox of eight does. -/
theorem Chardev.InUse.offer {dev : Chardev} (h : dev.InUse) (msg : ChardevMsg) :
    (dev.offer (decode_data_sample dev) msg).unread_msgs
        = Mailbox.put ring_size dev.unread_msgs msg
      ∧ (dev.offer (decode_data_sample dev) msg).InUse := by
  obtain ⟨hgood, hslot⟩ := h.sample
  unfold Chardev.offer Mailbox.put
  rw [length_unread_msgs]
  by_cases hroom : dev.rx_unread_cnt < 8
  · have hlt : dev.rx_unread_cnt.toNat < ring_size := by
      unfold ring_size
      omega
    rw [if_pos hroom] at hslot
    -- the store into the slot leaves the sample good
    have hgood' : (decode_data_sample dev).Good (dev.set_slot dev.rx_write_idx msg) :=
      ⟨hgood.nonneg, hgood.idx_range, hgood.count_le, hgood.idx_eq⟩
    have hcount := commit_unread (decode_data_sample dev) (dev.set_slot dev.rx_write_idx msg)
    rw [hslot, Option.isSome_some, if_pos rfl] at hcount
    rw [hslot, if_pos hlt]
    refine ⟨?_, ⟨?_, commit_idx_range hgood' h.idx_range, ?_⟩⟩
    · rw [unread_msgs_commit hgood' h.count_range.1 hslot,
        unread_msgs_set_slot hgood h.idx_range hslot msg]
      congr 2
      exact Function.update_self ..
    · have hrange := h.count_range
      rw [hcount]
      change 0 ≤ dev.rx_unread_cnt + 1 ∧ dev.rx_unread_cnt + 1 ≤ 8
      omega
    · rw [commit_open_count]
      exact h.opened
  · have hge : ¬ dev.rx_unread_cnt.toNat < ring_size := by
      unfold ring_size
      omega
    rw [if_neg hroom] at hslot
    rw [hslot, if_neg hge]
    exact ⟨rfl, h⟩

/-! ## Both interfaces up -/

/-- The message of a data frame the network stack is given. -/
def Event.received : Event → Option ChardevMsg
  | .netif_rx _ .data frame (some hwtstamp) => some ⟨hwtstamp, frame⟩
  | _ => none

def received (events : List Event) : List ChardevMsg := events.filterMap Event.received

theorem received_append (events events' : List Event) :
    received (events ++ events') = received events ++ received events' :=
  List.filterMap_append ..

/-- Both interfaces are up. -/
structure RxState.Both (s : RxState) : Prop where
  running : s.fwd.netif_running = true
  in_use : s.fwd.char_dev.InUse

/-- The ring has been offered what the network stack was given. -/
def Offered (s s' : RxState) : Prop :=
  ∃ events, s'.trace = s.trace ++ events ∧ s'.fwd.char_dev.unread_msgs
    = (received events).foldl (Mailbox.put ring_size) s.fwd.char_dev.unread_msgs

/-- What two parts of a run offer is offered one after the other. -/
theorem Offered.trans {s s' s'' : RxState} (h : Offered s s') (h' : Offered s' s'') :
    Offered s s'' := by
  obtain ⟨events, htrace, hunread⟩ := h
  obtain ⟨events', htrace', hunread'⟩ := h'
  refine ⟨events ++ events', ?_, ?_⟩
  · rw [htrace', htrace, List.append_assoc]
  · rw [hunread', hunread, received_append, List.foldl_append]

/-- Nothing was received, and the character device is as it was. -/
theorem RxState.Both.nothing {s s' : RxState} (h : s.Both) {events : List Event}
    (htrace : s'.trace = s.trace ++ events) (hnone : received events = [])
    (hdev : s'.fwd.char_dev = s.fwd.char_dev)
    (hrunning : s'.fwd.netif_running = s.fwd.netif_running) : s'.Both ∧ Offered s s' := by
  refine ⟨⟨hrunning.trans h.running, hdev ▸ h.in_use⟩, events, htrace, ?_⟩
  rw [hdev, hnone]
  rfl

/-- A data record is offered to the ring and to the network with the same frame. -/
theorem RxState.Both.run_data {s : RxState} (h : s.Both) (env : Env) (frame : CanFrame)
    (ts16 : u16) : (run_data env frame ts16 s).2.Both ∧ Offered s (run_data env frame ts16 s).2 := by
  obtain ⟨hunread, hin_use⟩ := h.in_use.offer (message_of env ts16 frame s)
  unfold DualPcanUsb.run_data
  dsimp only
  rw [if_pos h.running]
  cases env.alloc_can_skb s.skbs with
  | none => exact h.nothing (List.append_nil _).symm rfl rfl rfl
  | some buffer =>
    refine ⟨⟨h.running, hin_use⟩, _, rfl, ?_⟩
    -- one frame is handed over, and the ring is offered the same message
    have hreceived : received ([Event.alloc_can_skb s.skbs]
        ++ List.replicate 3 (Event.access s.skbs)
        ++ posted_events s.skbs ts16 (message_of env ts16 frame s)
          (decode_data_sample s.fwd.char_dev).chardev_msg) = [message_of env ts16 frame s] := by
      unfold posted_events
      cases (decode_data_sample s.fwd.char_dev).chardev_msg <;> rfl
    rw [hreceived]
    exact hunread

/-- A record that is cut off is offered to neither. -/
theorem RxState.Both.run_torn {s : RxState} (h : s.Both) (env : Env) (cut : Torn) :
    (run_torn env cut s).2.Both ∧ Offered s (run_torn env cut s).2 := by
  unfold DualPcanUsb.run_torn
  dsimp only
  rw [if_pos h.running]
  cases env.alloc_can_skb s.skbs with
  | none => exact h.nothing (List.append_nil _).symm rfl rfl rfl
  | some frame =>
    refine h.nothing (by rw [log_trace, RxState.with_skb, log_trace, List.append_assoc]) ?_ rfl rfl
    cases cut <;> rfl

/-- A report of the error state is no frame received. -/
theorem received_report_events (skb : ℕ) (new_state : CanState) (stamp : Option (u16 × ktime_t))
    (frame : CanFrame) : received (report_events skb new_state stamp frame) = [] := by
  unfold report_events
  split <;> cases stamp <;> rfl

/-- An error record offers nothing to the ring. -/
theorem RxState.Both.run_error {s : RxState} (h : s.Both) (env : Env) (number : u8)
    (stamp : Option u16) :
    (run_error env number stamp s).2.Both ∧ Offered s (run_error env number stamp s).2 := by
  unfold DualPcanUsb.run_error
  split
  · exact h.nothing (List.append_nil _).symm rfl rfl rfl
  · exact h.nothing (List.append_nil _).symm rfl rfl rfl
  · rename_i new_state _
    cases env.alloc_can_skb s.skbs with
    | none => exact h.nothing (List.append_nil _).symm rfl rfl rfl
    | some frame =>
      obtain ⟨hrunning, hdev, -⟩ := error_account_rest new_state s.fwd
      exact h.nothing rfl (received_report_events ..) hdev hrunning

/-- A record of any kind, by its case. -/
theorem RxState.Both.record {s : RxState} (h : s.Both) (env : Env) (record : Record) :
    (record.run env s).2.Both ∧ Offered s (record.run env s).2 := by
  have hsame : s.Both ∧ Offered s s := h.nothing (List.append_nil _).symm rfl rfl rfl
  cases record with
  | data frame ts16 => exact h.run_data env frame ts16
  | torn cut => exact h.run_torn env cut
  | malformed => exact hsame
  | error number stamp whole =>
    rw [Record.run, then_body_state]
    exact h.run_error env number stamp
  | timestamp ts16 first whole =>
    rw [Record.run, then_body_state]
    dsimp only
    unfold run_timestamp
    split <;> exact h.nothing (List.append_nil _).symm rfl rfl rfl
  | other whole =>
    rw [Record.run, then_body_state]
    exact hsame

/-- The records of a packet, one after the other. -/
theorem RxState.Both.records (env : Env) (records : List Record) : ∀ {s : RxState}, s.Both →
    (run_records env records s).2.Both ∧ Offered s (run_records env records s).2 := by
  induction records with
  | nil => exact fun h => h.nothing (List.append_nil _).symm rfl rfl rfl
  | cons record records ih =>
    intro s h
    obtain ⟨hboth, hoffered⟩ := h.record env record
    rw [run_records]
    split
    · obtain ⟨hboth', hoffered'⟩ := ih hboth
      exact ⟨hboth', hoffered.trans hoffered'⟩
    · exact ⟨hboth, hoffered⟩

/-! ## The machine -/

/-- The receiver, what its readers have got so far, and what came and was asked for. -/
structure Receiver where
  rx : RxState
  taken : List ChardevMsg
  history : List (Mailbox.Op ChardevMsg)

/-- A transfer completes, or a reader gets to its locked section. -/
inductive ReceiverAction
  | packet (env : Env) (transfer_buffer : ℕ → u8) (actual_length : ℕ)
  | read (count : ℕ)
  | read_msg
  | fd_recv_msgs (count : u32)

def Receiver.dev (r : Receiver) : Chardev := r.rx.fwd.char_dev

/-- The messages a section hands out; a failed one hands out none. -/
def handed_out : Except Int (List ChardevMsg) → List ChardevMsg
  | .error _ => []
  | .ok msgs => msgs

/-- A section that asks for `want` messages. -/
def Receiver.take_out (r : Receiver) (want : Int) : Receiver :=
  let (result, dev) := read_section want r.dev
  { rx := { r.rx with fwd := { r.rx.fwd with char_dev := dev } }
    taken := r.taken ++ handed_out result
    history := r.history ++ [.take want.toNat] }

def Receiver.step (r : Receiver) : ReceiverAction → Option Receiver
  | .packet env transfer_buffer actual_length =>
    let rx := (pcan_decode_and_handle_urb env transfer_buffer actual_length r.rx).2
    some { r with
      rx := rx
      -- the frames handed to the network stack, as the messages they stand for
      history := r.history ++ (received (rx.trace.drop r.rx.trace.length)).map .put }
  | .read count =>
    if PCAN_CHRDEV_MAX_BYTES_PER_READ < count then
      let max : ℕ := PCAN_CHRDEV_MAX_BYTES_PER_READ.toNat
      some (r.take_out ((count / max : ℕ) + if count % max ≠ 0 then 0 else -1))
    else none
  | .read_msg => some (r.take_out 1)
  | .fd_recv_msgs count => if count ≠ 0 then some (r.take_out count.toNat) else none

/-- A section takes what it asks for, as far as it is there. -/
theorem read_section_hands_out {want : Int} (hwant : 0 ≤ want) {dev : Chardev} (h : dev.InUse) :
    handed_out (read_section want dev).1 = dev.unread_msgs.take want.toNat
      ∧ (read_section want dev).2.unread_msgs = dev.unread_msgs.drop want.toNat
      ∧ (read_section want dev).2.InUse := by
  have htake := read_section_takesFront hwant h.count_range h.idx_range
  have hcount : (read_section want dev).2.rx_unread_cnt.toNat
      = dev.rx_unread_cnt.toNat - want.toNat := by
    have hrange := h.count_range
    unfold read_section
    dsimp only
    by_cases hempty : dev.rx_unread_cnt ≤ 0
    · rw [if_pos hempty]
      dsimp only
      omega
    · rw [if_neg hempty]
      dsimp only
      split <;> omega
  have hlen := length_unread_msgs (read_section want dev).2
  rw [hcount, ← length_unread_msgs] at hlen
  obtain ⟨-, hidx, hopen, hrange, hunread⟩ := htake
  have hin_use : (read_section want dev).2.InUse :=
    ⟨⟨hrange.1, hrange.2.trans h.count_range.2⟩, hidx ▸ h.idx_range, hopen ▸ h.opened⟩
  have hunread : dev.unread_msgs
      = handed_out (read_section want dev).1 ++ (read_section want dev).2.unread_msgs := by
    cases hresult : (read_section want dev).1 <;> rw [hresult] at hunread <;> exact hunread
  generalize handed_out (read_section want dev).1 = msgs at hunread ⊢
  generalize (read_section want dev).2.unread_msgs = rest at hunread hlen ⊢
  have hsum := congrArg List.length hunread
  rw [List.length_append] at hsum
  by_cases hthere : want.toNat ≤ dev.unread_msgs.length
  · have hmsgs : msgs.length = want.toNat := by omega
    rw [hunread]
    exact ⟨(List.take_left' hmsgs).symm, (List.drop_left' hmsgs).symm, hin_use⟩
  -- asked for more than there is, it empties the ring
  · have hrest : rest = [] := List.eq_nil_of_length_eq_zero (by omega)
    rw [hrest, List.append_nil] at hunread
    rw [hrest, List.take_of_length_le (by omega), List.drop_of_length_le (by omega)]
    exact ⟨hunread.symm, rfl, hin_use⟩

/-- A mailbox of eight, with what was unread at the start in it, has served the same, and has
been offered what the network stack was given since. -/
structure Receiver.Served (r₀ r : Receiver) : Prop where
  both : r.rx.Both
  served : Mailbox.serve ring_size r.history r₀.dev.unread_msgs = (r.taken, r.dev.unread_msgs)
  offered : ∃ events, r.rx.trace = r₀.rx.trace ++ events
    ∧ Mailbox.offered r.history = received events

/-- A reader is served from the front of the mailbox. -/
theorem Receiver.Served.take_out {r₀ r : Receiver} (h : r₀.Served r) {want : Int}
    (hwant : 0 ≤ want) : r₀.Served (r.take_out want) := by
  obtain ⟨htaken, hleft, hin_use⟩ := read_section_hands_out hwant h.both.in_use
  obtain ⟨events, htrace, hoffered⟩ := h.offered
  refine ⟨⟨h.both.running, hin_use⟩, ?_, events, htrace, ?_⟩
  · unfold Receiver.take_out
    dsimp only
    rw [Mailbox.serve_append, h.served]
    dsimp only [Mailbox.serve]
    rw [List.append_nil]
    exact Prod.ext (congrArg (r.taken ++ ·) htaken.symm) hleft.symm
  · unfold Receiver.take_out
    dsimp only
    rw [Mailbox.offered_append, hoffered]
    exact List.append_nil _

/-- A packet puts its frames in. -/
theorem Receiver.Served.packet {r₀ r : Receiver} (h : r₀.Served r) (env : Env)
    (transfer_buffer : ℕ → u8) (actual_length : ℕ) {r' : Receiver}
    (hstep : r.step (.packet env transfer_buffer actual_length) = some r') : r₀.Served r' := by
  simp only [Receiver.step, Option.some.injEq] at hstep
  subst hstep
  obtain ⟨hboth, new, hnew, hunread⟩ :=
    RxState.Both.records env (urb_records transfer_buffer actual_length) h.both
  rw [← handle_urb_eq_run] at hboth hnew hunread
  obtain ⟨events, htrace, hoffered⟩ := h.offered
  refine ⟨hboth, ?_, events ++ new, ?_, ?_⟩
  · dsimp only
    rw [hnew, List.drop_left, Mailbox.serve_append, h.served]
    dsimp only
    rw [Mailbox.serve_puts, List.append_nil]
    exact Prod.ext rfl hunread.symm
  · dsimp only
    rw [hnew, htrace, List.append_assoc]
  · dsimp only
    rw [hnew, List.drop_left, Mailbox.offered_append, Mailbox.offered_puts, hoffered,
      received_append]

/-- So every step of the machine is a schedule of the mailbox. -/
theorem served_step {r₀ : Receiver} (r : Receiver) (action : ReceiverAction) (r' : Receiver)
    (h : r₀.Served r) (hstep : r.step action = some r') : r₀.Served r' := by
  cases action with
  | packet env transfer_buffer actual_length =>
    exact h.packet env transfer_buffer actual_length hstep
  | read count =>
    obtain ⟨hlong, ⟨⟩⟩ := Option.ite_none_right_eq_some.mp hstep
    refine h.take_out ?_
    have hbytes : (80 : Int) < count := hlong
    change 0 ≤ ((count / 80 : ℕ) : Int) + if count % 80 ≠ 0 then 0 else -1
    split <;> omega
  | read_msg =>
    obtain rfl := Option.some.inj hstep
    exact h.take_out (by decide)
  | fd_recv_msgs count =>
    obtain ⟨-, ⟨⟩⟩ := Option.ite_none_right_eq_some.mp hstep
    exact h.take_out (Int.natCast_nonneg _)

/-- A receiver with both interfaces up, at the start of what is watched. -/
structure Receiver.Start (r : Receiver) : Prop where
  both : r.rx.Both
  taken_eq : r.taken = []
  history_eq : r.history = []

/-- With both interfaces up, whatever packets come and whenever the readers read: the ring is a
mailbox of eight that is offered what the network stack is given. The readers get a part of
it, in order, and all of it if the ring never was full when a frame came. -/
theorem readers_get_what_the_network_gets (r₀ r : Receiver) (actions : List ReceiverAction)
    (hstart : r₀.Start) (hrun : Runs.run Receiver.step r₀ actions = some r) :
    Mailbox.serve ring_size r.history r₀.dev.unread_msgs = (r.taken, r.dev.unread_msgs)
      ∧ (∃ events, r.rx.trace = r₀.rx.trace ++ events
        ∧ Mailbox.offered r.history = received events)
      ∧ (r.taken ++ r.dev.unread_msgs).Sublist
          (r₀.dev.unread_msgs ++ Mailbox.offered r.history)
      ∧ (Mailbox.KeepsUp ring_size r.history r₀.dev.unread_msgs →
          r.taken ++ r.dev.unread_msgs = r₀.dev.unread_msgs ++ Mailbox.offered r.history) := by
  have hinit : r₀.Served r₀ := by
    refine ⟨hstart.both, ?_, [], (List.append_nil _).symm, ?_⟩
    · rw [hstart.history_eq, hstart.taken_eq]
      rfl
    · rw [hstart.history_eq]
      rfl
  have hserved : r₀.Served r := Runs.run_invariant Receiver.step served_step hinit hrun
  have hsub := Mailbox.serve_sublist ring_size r.history r₀.dev.unread_msgs
  have hall := @Mailbox.serve_of_keepsUp _ ring_size r.history r₀.dev.unread_msgs
  rw [hserved.served] at hsub hall
  exact ⟨hserved.served, hserved.offered, hsub, hall⟩

/-- The ring open and empty, with the network up or down. -/
def ring_opened (netif_running : Bool) : RxState :=
  { RxState.idle netif_running with fwd := { Forwarder.idle netif_running with
    char_dev := { Chardev.closed with open_count := 1 } } }

theorem ring_opened_in_use (netif_running : Bool) :
    (ring_opened netif_running).fwd.char_dev.InUse :=
  ⟨⟨le_rfl, show (0 : Int) ≤ 8 by decide⟩, ⟨le_rfl, show (0 : Int) < 8 by decide⟩, le_rfl⟩

/-- Both interfaces up, nothing received yet. -/
def both_up : Receiver := ⟨ring_opened true, [], []⟩

/-- Two data records, a read of one message, and a third record. -/
def two_and_one : List ReceiverAction :=
  [.packet Env.plenty (buffer [0, 2, 0, 0x20, 0x03, 0x34, 0x12, 0, 0x40, 0x03, 0x35]) 11,
    .read_msg, .packet Env.plenty (buffer [0, 1, 0, 0x60, 0x03, 0x36, 0x12]) 7]

theorem readers_get_what_the_network_gets_two_and_one :
    ∃ r, Runs.run Receiver.step both_up two_and_one = some r
      ∧ (r.taken.length = 1 ∧ r.dev.unread_msgs.length = 2)
      ∧ r.taken ++ r.dev.unread_msgs = both_up.dev.unread_msgs ++ Mailbox.offered r.history := by
  obtain ⟨r, hrun, hlen, hkeeps⟩ :
      ∃ r, Runs.run Receiver.step both_up two_and_one = some r
        ∧ (r.taken.length = 1 ∧ r.dev.unread_msgs.length = 2)
        ∧ Mailbox.KeepsUp ring_size r.history both_up.dev.unread_msgs :=
    Runs.exists_run_of_any Receiver.step (by decide)
  have hstart : both_up.Start := ⟨⟨rfl, ring_opened_in_use true⟩, rfl, rfl⟩
  obtain ⟨-, -, -, hall⟩ :=
    readers_get_what_the_network_gets both_up r two_and_one hstart hrun
  exact ⟨r, hrun, hlen, hall hkeeps⟩

/-! ## Without the network -/

/-- Two receivers whose rings look the same but for the times; one has the network up. -/
structure SameFrames (s t : RxState) : Prop where
  up : s.fwd.netif_running = true
  down : t.fwd.netif_running = false
  in_use : s.fwd.char_dev.InUse
  in_use' : t.fwd.char_dev.InUse
  count_eq : t.fwd.char_dev.rx_unread_cnt = s.fwd.char_dev.rx_unread_cnt
  frames_eq : t.fwd.char_dev.unread_msgs.map ChardevMsg.frame
    = s.fwd.char_dev.unread_msgs.map ChardevMsg.frame

/-- What is done to both beside the character device makes no difference. -/
theorem SameFrames.beside {s t s' t' : RxState} (h : SameFrames s t)
    (hrunning : s'.fwd.netif_running = s.fwd.netif_running)
    (hrunning' : t'.fwd.netif_running = t.fwd.netif_running)
    (hdev : s'.fwd.char_dev = s.fwd.char_dev) (hdev' : t'.fwd.char_dev = t.fwd.char_dev) :
    SameFrames s' t' := by
  refine ⟨hrunning.trans h.up, hrunning'.trans h.down, hdev ▸ h.in_use, hdev' ▸ h.in_use', ?_, ?_⟩
  · rw [hdev, hdev']
    exact h.count_eq
  · rw [hdev, hdev']
    exact h.frames_eq

/-- Every buffer is granted. -/
def Env.Plentiful (env : Env) : Prop := ∀ k, (env.alloc_can_skb k).isSome = true

def Record.is_data : Record → Bool
  | .data _ _ => true
  | _ => false

/-- A full ring keeps its count. -/
theorem offer_count {dev : Chardev} (h : dev.InUse) (msg : ChardevMsg) :
    (dev.offer (decode_data_sample dev) msg).rx_unread_cnt
      = if dev.rx_unread_cnt < 8 then dev.rx_unread_cnt + 1 else dev.rx_unread_cnt := by
  have hslot := h.sample.2
  unfold Chardev.offer
  split at hslot
  · rename_i hroom
    have hcount := commit_unread (decode_data_sample dev) (dev.set_slot dev.rx_write_idx msg)
    rw [hslot, Option.isSome_some, if_pos rfl] at hcount
    rw [hslot, if_pos hroom]
    exact hcount
  · rename_i hfull
    rw [hslot, if_neg hfull]

/-- Both rings are offered a message with the same frame. -/
theorem SameFrames.offer {s t s' t' : RxState} (h : SameFrames s t) {msg msg' : ChardevMsg}
    (hframe : msg'.frame = msg.frame) (hrunning : s'.fwd.netif_running = s.fwd.netif_running)
    (hrunning' : t'.fwd.netif_running = t.fwd.netif_running)
    (hdev : s'.fwd.char_dev = s.fwd.char_dev.offer (decode_data_sample s.fwd.char_dev) msg)
    (hdev' : t'.fwd.char_dev = t.fwd.char_dev.offer (decode_data_sample t.fwd.char_dev) msg') :
    SameFrames s' t' := by
  obtain ⟨hunread, hin_use⟩ := h.in_use.offer msg
  obtain ⟨hunread', hin_use'⟩ := h.in_use'.offer msg'
  refine ⟨hrunning.trans h.up, hrunning'.trans h.down, hdev ▸ hin_use, hdev' ▸ hin_use', ?_, ?_⟩
  · rw [hdev, hdev', offer_count h.in_use, offer_count h.in_use', h.count_eq]
  · have hlen : t.fwd.char_dev.unread_msgs.length = s.fwd.char_dev.unread_msgs.length := by
      rw [length_unread_msgs, length_unread_msgs, h.count_eq]
    rw [hdev, hdev', hunread, hunread', Mailbox.put, Mailbox.put, hlen]
    split
    · rw [List.map_append, List.map_append, h.frames_eq, List.map_singleton, List.map_singleton,
        hframe]
    · exact h.frames_eq

/-- A record was accepted with the network down exactly if it was with it up and, should it be
a data record, found room in the ring; and then the rings look the same again. -/
structure Agree (room : Prop) (taken : Int) (s : RxState) (up down : Int × RxState) : Prop where
  accepted : down.1 = 0 ↔ up.1 = 0 ∧ room
  same : down.1 = 0 → SameFrames up.2 down.2
    ∧ up.2.fwd.char_dev.rx_unread_cnt = s.fwd.char_dev.rx_unread_cnt + taken

/-- A data record is taken on both sides, or refused where the ring alone decides. -/
theorem SameFrames.run_data {s t : RxState} (h : SameFrames s t) {env env' : Env}
    (hplenty : env.Plentiful) (frame : CanFrame) (ts16 : u16) :
    Agree (s.fwd.char_dev.rx_unread_cnt < 8) 1 s (run_data env frame ts16 s)
      (run_data env' frame ts16 t) := by
  obtain ⟨buffer, halloc⟩ := Option.isSome_iff_exists.mp (hplenty s.skbs)
  have hdown : ¬ t.fwd.netif_running = true := by
    rw [h.down]
    decide
  have hslot := h.in_use'.sample.2
  rw [h.count_eq] at hslot
  have hcount := offer_count h.in_use (message_of env ts16 frame s)
  unfold DualPcanUsb.run_data
  dsimp only
  rw [if_pos h.up, halloc, if_neg hdown]
  by_cases hroom : s.fwd.char_dev.rx_unread_cnt < 8
  · rw [if_pos hroom] at hslot hcount
    rw [hslot, Option.isSome_some, if_pos rfl]
    refine ⟨iff_of_true rfl ⟨rfl, hroom⟩, fun _ => ⟨?_, hcount⟩⟩
    exact @SameFrames.offer s t _ _ h (message_of env ts16 frame s)
      (message_of env' ts16 frame t) rfl rfl rfl rfl rfl
  · rw [if_neg hroom] at hslot
    rw [hslot, Option.isSome_none, if_neg (by decide)]
    exact ⟨iff_of_false (refusal_ne _) (fun hboth => hroom hboth.2),
      fun hok => absurd hok (refusal_ne _)⟩

/-- With every buffer granted an error record is never in the way, and the ring has no part
in it. -/
theorem run_error_plentiful {env : Env} (hplenty : env.Plentiful) (number : u8)
    (stamp : Option u16) (s : RxState) : (run_error env number stamp s).1 = 0
      ∧ (run_error env number stamp s).2.fwd.netif_running = s.fwd.netif_running
      ∧ (run_error env number stamp s).2.fwd.char_dev = s.fwd.char_dev := by
  obtain ⟨buffer, halloc⟩ := Option.isSome_iff_exists.mp (hplenty s.skbs)
  unfold DualPcanUsb.run_error
  rw [halloc]
  split
  · exact ⟨rfl, rfl, rfl⟩
  · exact ⟨rfl, rfl, rfl⟩
  · rename_i new_state _
    obtain ⟨hrunning, hdev, -⟩ := error_account_rest new_state s.fwd
    exact ⟨rfl, hrunning, hdev⟩

theorem run_error_down (env : Env) (number : u8) (stamp : Option u16) {s : RxState}
    (hdown : s.fwd.netif_running = false) : run_error env number stamp s = (0, s) := by
  rw [run_error, error_verdict, if_pos (.inl hdown)]

/-- A timestamp touches neither the interface nor the ring. -/
theorem run_timestamp_beside (env : Env) (ts16 : u16) (first : Bool) (s : RxState) :
    (run_timestamp env ts16 first s).fwd.netif_running = s.fwd.netif_running
      ∧ (run_timestamp env ts16 first s).fwd.char_dev = s.fwd.char_dev := by
  unfold run_timestamp
  split <;> exact ⟨rfl, rfl⟩

/-- A status record is accepted by both or by neither. -/
theorem SameFrames.then_body {s t : RxState} (h : SameFrames s t) (whole : Bool)
    {up down : Int × RxState} (hup : up.1 = 0) (hdown : down.1 = 0)
    (hrunning : up.2.fwd.netif_running = s.fwd.netif_running)
    (hrunning' : down.2.fwd.netif_running = t.fwd.netif_running)
    (hdev : up.2.fwd.char_dev = s.fwd.char_dev) (hdev' : down.2.fwd.char_dev = t.fwd.char_dev) :
    Agree True 0 s (then_body whole up) (then_body whole down) := by
  have hsame := h.beside hrunning hrunning' hdev hdev'
  unfold DualPcanUsb.then_body
  rw [if_neg (not_not.mpr hup), if_neg (not_not.mpr hdown)]
  refine ⟨⟨fun hok => ⟨hok, trivial⟩, And.left⟩, fun _ => ⟨hsame, ?_⟩⟩
  dsimp only
  rw [hdev, add_zero]

/-- What a record takes of the ring's room. -/
def Record.room (record : Record) : Int := if record.is_data then 1 else 0

/-- One record on both sides, with the room that it needs. -/
theorem SameFrames.record {s t : RxState} (h : SameFrames s t) {env : Env} (env' : Env)
    (hplenty : env.Plentiful) (record : Record) :
    Agree (s.fwd.char_dev.rx_unread_cnt + record.room ≤ 8) record.room s (record.run env s)
      (record.run env' t) := by
  have hfits : s.fwd.char_dev.rx_unread_cnt + 0 ≤ 8 := by
    rw [add_zero]
    exact h.in_use.count_range.2
  have hstatus : ∀ {up down : Int × RxState}, Agree True 0 s up down →
      Agree (s.fwd.char_dev.rx_unread_cnt + 0 ≤ 8) 0 s up down := by
    intro up down hagree
    rw [eq_true hfits]
    exact hagree
  cases record with
  | data frame ts16 =>
    have hagree := @SameFrames.run_data s t h env env' hplenty frame ts16
    exact ⟨hagree.accepted, hagree.same⟩
  | torn cut =>
    have hup := run_torn_ne env cut s
    have hdown := run_torn_ne env' cut t
    exact ⟨iff_of_false hdown fun hboth => hup hboth.1, fun hok => absurd hok hdown⟩
  | malformed =>
    exact ⟨iff_of_false EINVAL_ne fun hboth => EINVAL_ne hboth.1, fun hok => absurd hok EINVAL_ne⟩
  | error number stamp whole =>
    obtain ⟨hok, hrunning, hdev⟩ := run_error_plentiful hplenty number stamp s
    refine hstatus ?_
    rw [Record.run, Record.run, run_error_down env' number stamp h.down]
    exact h.then_body whole hok rfl hrunning rfl hdev rfl
  | timestamp ts16 first whole =>
    obtain ⟨hrunning, hdev⟩ := run_timestamp_beside env ts16 first s
    obtain ⟨hrunning', hdev'⟩ := run_timestamp_beside env' ts16 first t
    exact hstatus (h.then_body whole rfl rfl hrunning hrunning' hdev hdev')
  | other whole => exact hstatus (h.then_body whole rfl rfl rfl rfl rfl rfl)

/-- What a row of records takes of the ring's room. -/
def records_room (records : List Record) : Int := (records.map Record.room).sum

/-- No row of records needs less than no room. -/
theorem records_room_nonneg (records : List Record) : 0 ≤ records_room records := by
  induction records with
  | nil => exact le_rfl
  | cons record records ih =>
    have hroom : 0 ≤ record.room := by
      unfold Record.room
      split <;> omega
    rw [records_room, List.map_cons, List.sum_cons]
    exact add_nonneg hroom ih

/-- The records of a packet on both sides: they part where the room runs out, and only there. -/
theorem SameFrames.records {env env' : Env} (hplenty : env.Plentiful) (records : List Record) :
    ∀ {s t : RxState}, SameFrames s t →
      Agree (s.fwd.char_dev.rx_unread_cnt + records_room records ≤ 8) (records_room records) s
        (run_records env records s) (run_records env' records t) := by
  induction records with
  | nil =>
    intro s t h
    have hrange := h.in_use.count_range.2
    refine ⟨iff_of_true rfl ⟨rfl, ?_⟩, fun _ => ⟨h, (add_zero _).symm⟩⟩
    change s.fwd.char_dev.rx_unread_cnt + 0 ≤ 8
    omega
  | cons record records ih =>
    intro s t h
    obtain ⟨haccepted, hsame⟩ := h.record env' hplenty record
    have hroom : records_room (record :: records) = record.room + records_room records := by
      rw [records_room, List.map_cons, List.sum_cons]
      rfl
    have hrest := records_room_nonneg records
    rw [run_records, run_records, hroom]
    by_cases hdown : (record.run env' t).1 = 0
    · obtain ⟨hup, hfits⟩ := haccepted.mp hdown
      obtain ⟨hnext, hcount⟩ := hsame hdown
      obtain ⟨haccepted', hsame'⟩ := ih hnext
      rw [if_pos hdown, if_pos hup]
      rw [hcount] at haccepted' hsame'
      refine ⟨?_, ?_⟩
      · rw [haccepted', add_assoc]
      · rw [add_assoc] at hsame'
        exact hsame'
    · rw [if_neg hdown]
      refine ⟨iff_of_false hdown fun hboth => hdown (haccepted.mpr ⟨?_, by omega⟩),
        fun hok => absurd hok hdown⟩
      -- the record did not fail with the network up, or the row would have
      by_contra hup
      rw [if_neg hup] at hboth
      exact hup hboth.1

/-- What holds of the records holds of the packet they were parsed from. -/
theorem SameFrames.handle_urb {s t : RxState} (h : SameFrames s t) {env : Env} (env' : Env)
    (hplenty : env.Plentiful) (transfer_buffer : ℕ → u8) (actual_length : ℕ) :
    Agree (s.fwd.char_dev.rx_unread_cnt
          + records_room (urb_records transfer_buffer actual_length) ≤ 8)
      (records_room (urb_records transfer_buffer actual_length)) s
      (pcan_decode_and_handle_urb env transfer_buffer actual_length s)
      (pcan_decode_and_handle_urb env' transfer_buffer actual_length t) := by
  rw [handle_urb_eq_run, handle_urb_eq_run]
  exact SameFrames.records hplenty (urb_records transfer_buffer actual_length) h

/-- With the network down a transfer is accepted exactly if it would be with the network up and
the ring has room for all its data records; and then it puts the same frames there. -/
theorem accepted_without_network (env env' : Env) (transfer_buffer : ℕ → u8) (actual_length : ℕ)
    (s t : RxState) (hplenty : env.Plentiful) (hsame : SameFrames s t) :
    ((pcan_decode_and_handle_urb env' transfer_buffer actual_length t).1 = 0
        ↔ (pcan_decode_and_handle_urb env transfer_buffer actual_length s).1 = 0
          ∧ s.fwd.char_dev.rx_unread_cnt
              + records_room (urb_records transfer_buffer actual_length) ≤ 8)
      ∧ ((pcan_decode_and_handle_urb env' transfer_buffer actual_length t).1 = 0 →
          SameFrames (pcan_decode_and_handle_urb env transfer_buffer actual_length s).2
            (pcan_decode_and_handle_urb env' transfer_buffer actual_length t).2) := by
  obtain ⟨haccepted, hrings⟩ :=
    hsame.handle_urb env' hplenty transfer_buffer actual_length
  exact ⟨haccepted, fun hok => (hrings hok).1⟩

theorem plenty_plentiful : Env.plenty.Plentiful := fun _ => rfl

theorem ring_opened_same : SameFrames (ring_opened true) (ring_opened false) :=
  ⟨rfl, rfl, ring_opened_in_use true, ring_opened_in_use false, rfl, rfl⟩

/-- With `n` messages unread, from the first slot on. -/
def ring_holding (netif_running : Bool) (n : ℕ) : RxState :=
  { RxState.idle netif_running with fwd := { Forwarder.idle netif_running with
    char_dev := { Chardev.closed with open_count := 1, rx_unread_cnt := n, rx_write_idx := n } } }

/-- Two rings that hold the same remote frames, one with the network up. -/
theorem ring_holding_same {n : ℕ} (hroom : n < 8) :
    SameFrames (ring_holding true n) (ring_holding false n) := by
  have hcount : (0 : Int) ≤ n ∧ (n : Int) ≤ 8 := by omega
  have hidx : (0 : Int) ≤ n ∧ (n : Int) < 8 := by omega
  exact ⟨rfl, rfl, ⟨hcount, hidx, le_rfl⟩, ⟨hcount, hidx, le_rfl⟩, rfl, rfl⟩

/-- Two data records. -/
def two_data_records : ℕ → u8 := buffer [0, 2, 0, 0x20, 0x03, 0x34, 0x12, 0, 0x40, 0x03, 0x35]

/-- A ring with three messages takes both; one with seven has room for the first only, and the
packet is accepted with the network up. -/
theorem accepted_without_network_two_data_records :
    ((pcan_decode_and_handle_urb Env.plenty two_data_records 11 (ring_holding false 3)).1 = 0
        ∧ SameFrames
          (pcan_decode_and_handle_urb Env.plenty two_data_records 11 (ring_holding true 3)).2
          (pcan_decode_and_handle_urb Env.plenty two_data_records 11 (ring_holding false 3)).2)
      ∧ (pcan_decode_and_handle_urb Env.plenty two_data_records 11 (ring_holding true 7)).1 = 0
      ∧ (pcan_decode_and_handle_urb Env.plenty two_data_records 11 (ring_holding false 7)).1
        ≠ 0 := by
  obtain ⟨hroom, hsame⟩ := accepted_without_network Env.plenty Env.plenty two_data_records 11
    (ring_holding true 3) (ring_holding false 3) plenty_plentiful (ring_holding_same (by decide))
  obtain ⟨hfull, -⟩ := accepted_without_network Env.plenty Env.plenty two_data_records 11
    (ring_holding true 7) (ring_holding false 7) plenty_plentiful (ring_holding_same (by decide))
  have haccepted : (pcan_decode_and_handle_urb Env.plenty two_data_records 11
      (ring_holding false 3)).1 = 0 := hroom.mpr ⟨by decide, by decide⟩
  exact ⟨⟨haccepted, hsame haccepted⟩, by decide, fun h => absurd (hfull.mp h).2 (by decide)⟩

/-! ### Runs -/

/-- Two receivers whose readers have got the same frames, and find the same. -/
structure Receiver.SameFrames (r t : Receiver) : Prop where
  rx : DualPcanUsb.SameFrames r.rx t.rx
  taken_eq : t.taken.map ChardevMsg.frame = r.taken.map ChardevMsg.frame

/-- A packet gets every buffer, should it ask for one. -/
def ReceiverAction.Plentiful : ReceiverAction → Prop
  | .packet env _ _ => env.Plentiful
  | _ => True

def Receiver.Accepts (r : Receiver) : ReceiverAction → Prop
  | .packet env transfer_buffer actual_length =>
    (pcan_decode_and_handle_urb env transfer_buffer actual_length r.rx).1 = 0
  | _ => True

instance (r : Receiver) (action : ReceiverAction) : Decidable (r.Accepts action) :=
  match action with
  | .packet env transfer_buffer actual_length => inferInstanceAs (Decidable
      ((pcan_decode_and_handle_urb env transfer_buffer actual_length r.rx).1 = 0))
  | .read _ | .read_msg | .fd_recv_msgs _ => .isTrue trivial

/-- Readers on both sides get the same frames. -/
theorem Receiver.SameFrames.take_out {r t : Receiver} (h : r.SameFrames t) {want : Int}
    (hwant : 0 ≤ want) : (r.take_out want).SameFrames (t.take_out want) := by
  obtain ⟨htaken, hleft, hin_use⟩ := read_section_hands_out hwant h.rx.in_use
  obtain ⟨htaken', hleft', hin_use'⟩ := read_section_hands_out hwant h.rx.in_use'
  have hcount : ∀ dev dev' : Chardev, dev'.rx_unread_cnt = dev.rx_unread_cnt →
      (read_section want dev').2.rx_unread_cnt = (read_section want dev).2.rx_unread_cnt := by
    intro dev dev' heq
    unfold read_section
    dsimp only
    rw [heq]
    split
    · exact heq
    · rfl
  refine ⟨⟨h.rx.up, h.rx.down, hin_use, hin_use', hcount _ _ h.rx.count_eq, ?_⟩, ?_⟩
  · refine (congrArg (List.map ChardevMsg.frame) hleft').trans
      (Eq.trans ?_ (congrArg (List.map ChardevMsg.frame) hleft).symm)
    rw [List.map_drop, List.map_drop, h.rx.frames_eq]
  · unfold Receiver.take_out
    dsimp only
    rw [List.map_append, List.map_append, h.taken_eq]
    refine congrArg (r.taken.map ChardevMsg.frame ++ ·) ?_
    refine (congrArg (List.map ChardevMsg.frame) htaken').trans
      (Eq.trans ?_ (congrArg (List.map ChardevMsg.frame) htaken).symm)
    rw [List.map_take, List.map_take, h.rx.frames_eq]

/-- A step with the network down has its like with the network up. -/
theorem Receiver.SameFrames.step {r t t' : Receiver} (h : r.SameFrames t)
    {action : ReceiverAction} (hplenty : action.Plentiful) (haccepts : t.Accepts action)
    (hstep : t.step action = some t') : ∃ r', r.step action = some r' ∧ r'.SameFrames t' := by
  cases action with
  | packet env transfer_buffer actual_length =>
    simp only [Receiver.step, Option.some.injEq] at hstep
    subst hstep
    have hagree := h.rx.handle_urb env hplenty transfer_buffer actual_length
    exact ⟨_, rfl, (hagree.same haccepts).1, h.taken_eq⟩
  | read count =>
    obtain ⟨hlong, ⟨⟩⟩ := Option.ite_none_right_eq_some.mp hstep
    refine ⟨_, if_pos hlong, h.take_out ?_⟩
    have hbytes : (80 : Int) < count := hlong
    change 0 ≤ ((count / 80 : ℕ) : Int) + if count % 80 ≠ 0 then 0 else -1
    split <;> omega
  | read_msg =>
    obtain rfl := Option.some.inj hstep
    exact ⟨_, rfl, h.take_out (by decide)⟩
  | fd_recv_msgs count =>
    obtain ⟨hsome, ⟨⟩⟩ := Option.ite_none_right_eq_some.mp hstep
    exact ⟨_, if_pos hsome, h.take_out (Int.natCast_nonneg _)⟩

/-- As long as the packets are accepted with the network down, the readers of the character
device get the same frames as they would with it up, in any run of packets and reads. -/
theorem frames_without_network (r₀ t₀ t : Receiver) (actions : List ReceiverAction)
    (hsame : r₀.SameFrames t₀) (hplenty : ∀ action ∈ actions, action.Plentiful)
    (haccepts : Runs.Along Receiver.step Receiver.Accepts t₀ actions)
    (hrun : Runs.run Receiver.step t₀ actions = some t) :
    ∃ r, Runs.run Receiver.step r₀ actions = some r
      ∧ t.taken.map ChardevMsg.frame = r.taken.map ChardevMsg.frame
      ∧ t.dev.unread_msgs.map ChardevMsg.frame = r.dev.unread_msgs.map ChardevMsg.frame := by
  induction actions generalizing r₀ t₀ with
  | nil =>
    obtain rfl := Option.some.inj hrun
    exact ⟨r₀, rfl, hsame.taken_eq, hsame.rx.frames_eq⟩
  | cons action actions ih =>
    obtain ⟨t', ht', hrest⟩ := (Runs.run_cons_eq_some Receiver.step).mp hrun
    obtain ⟨r', hr', hsame'⟩ :=
      hsame.step (hplenty action List.mem_cons_self) haccepts.1 ht'
    obtain ⟨r, hr, hframes⟩ := ih r' t' hsame'
      (fun a ha => hplenty a (List.mem_cons_of_mem action ha)) (haccepts.2 t' ht') hrest
    exact ⟨r, (Runs.run_cons_eq_some Receiver.step).mpr ⟨r', hr', hr⟩, hframes⟩

theorem frames_without_network_two_and_one :
    ∃ t, Runs.run Receiver.step ⟨ring_opened false, [], []⟩ two_and_one = some t
      ∧ (t.taken.length = 1 ∧ t.dev.unread_msgs.length = 2)
      ∧ ∃ r, Runs.run Receiver.step both_up two_and_one = some r
        ∧ t.taken.map ChardevMsg.frame = r.taken.map ChardevMsg.frame
        ∧ t.dev.unread_msgs.map ChardevMsg.frame = r.dev.unread_msgs.map ChardevMsg.frame := by
  obtain ⟨t, hrun, hlen⟩ :
      ∃ t, Runs.run Receiver.step ⟨ring_opened false, [], []⟩ two_and_one = some t
        ∧ (t.taken.length = 1 ∧ t.dev.unread_msgs.length = 2) :=
    Runs.exists_run_of_any Receiver.step (by decide)
  have hplenty : ∀ action ∈ two_and_one, action.Plentiful := by
    intro action hmem
    simp only [two_and_one, List.mem_cons, List.not_mem_nil, or_false] at hmem
    rcases hmem with rfl | rfl | rfl
    · exact plenty_plentiful
    · trivial
    · exact plenty_plentiful
  exact ⟨t, hrun, hlen, frames_without_network both_up ⟨ring_opened false, [], []⟩ t two_and_one
    ⟨ring_opened_same, rfl⟩ hplenty (by decide) hrun⟩

end DualPcanUsb
