/-
Concurrent `PCANFD_IOCTL_RECV_MSGS` requests.

Count and messages of a request live in one buffer a device, `ioctl_rxmsgs`: `__get_user`
puts the wanted count there without the lock, the locked section cuts it down and fills the
list, and `copy_to_user` reads both when the lock is gone. A request gets its own messages
as long as nobody writes the buffer between these steps. `ioctl_read_msg`, which does the
same for one message, has its buffer on the stack.
-/
import DualPcanUsb.ReadText
import DualPcanUsb.Teardown
import DualPcanUsb.Lib.SharedCell

set_option autoImplicit false

namespace DualPcanUsb

/-! ## Messages for user space -/

def MSGTYPE_STANDARD : u8 := 0x00
def MSGTYPE_RTR : u8 := 0x01
def MSGTYPE_EXTENDED : u8 := 0x02
def MSGTYPE_STATUS : u8 := 0x80

def CAN_SFF_MASK : u32 := 0x000007FF

def get_msgtype_from_canid (can_id : u32) : u8 :=
  if can_id &&& CAN_ERR_FLAG ≠ 0 then MSGTYPE_STATUS
  else if can_id &&& CAN_RTR_FLAG ≠ 0 then MSGTYPE_RTR
  else if can_id &&& ~~~CAN_SFF_MASK ≠ 0 then MSGTYPE_EXTENDED
  else MSGTYPE_STANDARD

def PCANFD_TYPE_CAN20_MSG : u16 := 1
def PCANFD_TIMESTAMP : u32 := 0x01000000
def PCANFD_HWTIMESTAMP : u32 := 0x02000000

/-- `pcanfd_ioctl_msg_t`, with the data bytes by index. -/
structure PcanfdMsg where
  type : u16
  data_len : u16
  id : u32
  flags : u32
  tv_sec : Int
  tv_usec : Int
  data : ℕ → u8

/-- `pcanfd_ioctl_msgs_t`, allocated for a full ring. -/
structure PcanfdMsgs where
  count : u32
  list : ℕ → PcanfdMsg

/-- What a time stamp is relative to. -/
structure TimeBase where
  bus_up_time : Timespec64
  tv_host_0 : ktime_t
deriving DecidableEq, Repr

def TimeBase.timestamp (base : TimeBase) (rx_msg : ChardevMsg) : Timespec64 :=
  timespec64_add_ns base.bus_up_time (s64 (rx_msg.hwtstamp - base.tv_host_0))

/-- The body of the loop over the list: bytes behind the payload keep what they had. -/
def PcanfdMsg.receive (base : TimeBase) (rx_msg : ChardevMsg) (m : PcanfdMsg) : PcanfdMsg :=
  let f := rx_msg.frame
  { id := f.can_id &&& CAN_EFF_MASK
    data_len := f.can_dlc.setWidth 16
    data := fun i => if i < f.can_dlc.toNat then f.data.toList.getD i 0 else m.data i
    type := PCANFD_TYPE_CAN20_MSG
    flags := (get_msgtype_from_canid f.can_id).setWidth 32
      ||| (PCANFD_TIMESTAMP ||| PCANFD_HWTIMESTAMP)
    tv_sec := (base.timestamp rx_msg).tv_sec
    tv_usec := (base.timestamp rx_msg).tv_nsec.tdiv 1000 }

/-- What a reader sees of an entry: all its fields, and as many bytes as it says. -/
structure SeenMsg where
  type : u16
  id : u32
  flags : u32
  tv_sec : Int
  tv_usec : Int
  payload : List u8
deriving DecidableEq, Repr

def PcanfdMsg.seen (m : PcanfdMsg) : SeenMsg :=
  { type := m.type
    id := m.id
    flags := m.flags
    tv_sec := m.tv_sec
    tv_usec := m.tv_usec
    payload := (List.range m.data_len.toNat).map m.data }

/-- What a reader should see of a message. -/
def ChardevMsg.seen (base : TimeBase) (rx_msg : ChardevMsg) : SeenMsg :=
  { type := PCANFD_TYPE_CAN20_MSG
    id := rx_msg.frame.can_id &&& CAN_EFF_MASK
    flags := (get_msgtype_from_canid rx_msg.frame.can_id).setWidth 32
      ||| (PCANFD_TIMESTAMP ||| PCANFD_HWTIMESTAMP)
    tv_sec := (base.timestamp rx_msg).tv_sec
    tv_usec := (base.timestamp rx_msg).tv_nsec.tdiv 1000
    payload := (List.range rx_msg.frame.can_dlc.toNat).map
      fun i => rx_msg.frame.data.toList.getD i 0 }

/-- The loop over the messages taken, from entry `i` on. -/
def fill_list (base : TimeBase) (list : ℕ → PcanfdMsg) (i : ℕ) :
    List ChardevMsg → ℕ → PcanfdMsg
  | [] => list
  | rx_msg :: msgs =>
    fill_list base (Function.update list i ((list i).receive base rx_msg)) (i + 1) msgs

/-- The entries a count makes visible. -/
def PcanfdMsgs.shown (msgp : PcanfdMsgs) : List SeenMsg :=
  (List.range msgp.count.toNat).map fun i => (msgp.list i).seen

/-- What user space sees of a message is a matter of the message alone. -/
theorem receive_seen (base : TimeBase) (rx_msg : ChardevMsg) (m : PcanfdMsg) :
    (m.receive base rx_msg).seen = rx_msg.seen base := by
  have hlen : (rx_msg.frame.can_dlc.setWidth 16 : u16).toNat = rx_msg.frame.can_dlc.toNat := by
    rw [BitVec.toNat_setWidth]
    have := rx_msg.frame.can_dlc.isLt
    omega
  unfold PcanfdMsg.seen PcanfdMsg.receive ChardevMsg.seen
  dsimp only
  rw [hlen]
  congr 1
  refine List.map_congr_left fun i hi => ?_
  rw [if_pos (List.mem_range.mp hi)]

/-- Entries in front of the first one filled stay as they are. -/
theorem fill_list_of_lt (base : TimeBase) (msgs : List ChardevMsg) (list : ℕ → PcanfdMsg)
    {i j : ℕ} (hj : j < i) : fill_list base list i msgs j = list j := by
  induction msgs generalizing list i with
  | nil => rfl
  | cons rx_msg msgs ih =>
    rw [fill_list, ih _ (Nat.lt_succ_of_lt hj), Function.update_of_ne hj.ne]

/-- The loop shows the messages in order. -/
theorem fill_list_seen (base : TimeBase) (msgs : List ChardevMsg) (list : ℕ → PcanfdMsg) (i : ℕ) :
    (List.range' i msgs.length).map (fun j => (fill_list base list i msgs j).seen)
      = msgs.map (ChardevMsg.seen base) := by
  induction msgs generalizing list i with
  | nil => rfl
  | cons rx_msg msgs ih =>
    rw [List.length_cons, List.range'_succ, List.map_cons, List.map_cons, fill_list,
      fill_list_of_lt _ _ _ (Nat.lt_succ_self i), Function.update_self, receive_seen, ih]

/-! ## The machine -/

/-- What a request does next. `asked` is the count its caller passed; `msgs` are the messages
its section took, `base` what their stamps were relative to. -/
inductive RecvPhase
  | wait_unread
  | wait_stage
  | recheck_stage
  | recheck_unread
  | get_user
  | check_count (asked : u32)
  | locked (asked : u32)
  | copy_to_user (asked : u32) (msgs : List ChardevMsg) (base : TimeBase)
  | failed (err : Int)
  | received (asked : u32) (msgs : List ChardevMsg) (base : TimeBase) (count : u32)
    (list : List SeenMsg)
deriving DecidableEq, Repr

structure RecvCall where
  nonblock : Bool
  phase : RecvPhase
deriving DecidableEq, Repr

structure RecvState where
  ring : RingState
  bus_up_time : Timespec64
  ioctl_rxmsgs : PcanfdMsgs
  calls : List RecvCall

def RecvState.base (st : RecvState) : TimeBase :=
  ⟨st.bus_up_time, st.ring.rx.fwd.time_ref.tv_host_0⟩

/-- The locked section: `count` is cut to what is there, the list filled, and the ring
consumed. -/
def RecvState.locked_section (st : RecvState) (asked : u32) : RecvPhase × RecvState :=
  let unread_msgs := st.ring.dev.rx_unread_cnt
  match (ioctl_fd_recv_msgs_section st.ioctl_rxmsgs.count st.ring.dev).1 with
  | .error err =>
    (.failed err,
      { st with ring := st.ring.take_out (ioctl_fd_recv_msgs_section st.ioctl_rxmsgs.count) })
  | .ok msgs =>
    (.copy_to_user asked msgs st.base,
      { st with
        ring := st.ring.take_out (ioctl_fd_recv_msgs_section st.ioctl_rxmsgs.count)
        ioctl_rxmsgs :=
          { count := if st.ioctl_rxmsgs.count > BitVec.ofInt 32 unread_msgs then
              BitVec.ofInt 32 unread_msgs else st.ioctl_rxmsgs.count
            list := fill_list st.base st.ioctl_rxmsgs.list 0 msgs } })

/-- One step of `ioctl_fd_recv_msgs`. `outcome` is what the kernel's service returns there,
or whether a signal is pending; `asked` is the count in user memory. -/
def RecvCall.operate (call : RecvCall) (outcome : Int) (asked : u32) (st : RecvState) :
    Option (RecvPhase × RecvState) :=
  match call.phase with
  | .wait_unread =>
    some (
      if st.ring.dev.rx_unread_cnt > 0 then if call.nonblock then .get_user else .recheck_stage
      else if call.nonblock then .failed (-EAGAIN)
      else .wait_stage, st)
  | .wait_stage =>
    some (
      if st.ring.rx.fwd.stage < PCAN_USB_STAGE_ONE_STARTED then .recheck_stage
      else if outcome ≠ 0 then .failed (-ERESTARTSYS)
      else .wait_unread, st)
  | .recheck_stage =>
    -- has been plugged out
    some (if st.ring.rx.fwd.stage < PCAN_USB_STAGE_ONE_STARTED then .failed (-ENODEV)
      else .recheck_unread, st)
  | .recheck_unread =>
    some (
      if st.ring.dev.rx_unread_cnt ≤ 0 then
        .failed (if outcome ≠ 0 then -ERESTARTSYS else -EAGAIN)
      else .get_user, st)
  | .get_user =>
    -- a fault leaves a zero
    some (if outcome ≠ 0 then
        (.failed (-EFAULT), { st with ioctl_rxmsgs := { st.ioctl_rxmsgs with count := 0 } })
      else (.check_count asked,
        { st with ioctl_rxmsgs := { st.ioctl_rxmsgs with count := asked } }))
  | .check_count asked =>
    some (if st.ioctl_rxmsgs.count = 0 then .failed (-EINVAL) else .locked asked, st)
  | .locked asked => some (st.locked_section asked)
  | .copy_to_user asked msgs base =>
    some (
      if outcome ≠ 0 then .failed (-EFAULT)
      else .received asked msgs base st.ioctl_rxmsgs.count st.ioctl_rxmsgs.shown, st)
  | .failed _ | .received .. => none

inductive RecvAction
  | enter (nonblock : Bool)
  | advance (i : ℕ) (outcome : Int) (asked : u32)
  | ring (action : RingAction)
  | bus_up (now : Timespec64)

/-- One step: of a request, of the receiver or another reader, or of an open that takes the
time. -/
def RecvState.step (st : RecvState) : RecvAction → Option RecvState
  | .enter nonblock => some { st with calls := st.calls ++ [⟨nonblock, .wait_unread⟩] }
  | .advance i outcome asked =>
    match st.calls[i]? with
    | some call =>
      (call.operate outcome asked st).map fun (phase, st) =>
        { st with calls := st.calls.set i { call with phase := phase } }
    | none => none
  | .ring (.fd_recv_msgs _) => none
  | .ring action => (st.ring.step action).map fun ring => { st with ring := ring }
  | .bus_up now => some { st with bus_up_time := now }

/-! ## What a request gets -/

/-- Count and list are those of the messages taken, no more than asked for and than a ring
holds. -/
structure Delivered (asked : u32) (msgs : List ChardevMsg) (base : TimeBase) (count : u32)
    (list : List SeenMsg) : Prop where
  list_eq : list = msgs.map (ChardevMsg.seen base)
  count_eq : count.toNat = msgs.length
  le_asked : count.toNat ≤ asked.toNat
  le_ring : count.toNat ≤ 8

/-- A request that succeeded got the messages of its own section. -/
def RecvCall.GotOwn (call : RecvCall) : Prop :=
  match call.phase with
  | .received asked msgs base count list => Delivered asked msgs base count list
  | _ => True

/-- Between its `__get_user` and the end of its `copy_to_user`. -/
def RecvCall.Inside (call : RecvCall) : Prop :=
  match call.phase with
  | .check_count _ | .locked _ | .copy_to_user .. => True
  | _ => False

instance (call : RecvCall) : Decidable call.Inside := by
  unfold RecvCall.Inside
  split <;> infer_instance

/-- Next, the request writes `ioctl_rxmsgs`. -/
def RecvCall.Writes (call : RecvCall) : Prop :=
  match call.phase with
  | .get_user | .locked _ => True
  | _ => False

/-- The buffer is written only while no other request is inside. -/
def RecvState.WritesAlone (st : RecvState) : RecvAction → Prop
  | .advance i _ _ => ∀ call, st.calls[i]? = some call → call.Writes →
      SharedCell.Alone (fun call => ¬ call.Inside) st.calls i
  | _ => True

instance (call : RecvCall) : Decidable call.Writes := by
  unfold RecvCall.Writes
  split <;> infer_instance

instance (st : RecvState) (action : RecvAction) : Decidable (st.WritesAlone action) :=
  match action with
  | .advance i _ _ => inferInstanceAs (Decidable (∀ call ∈ st.calls[i]?, call.Writes →
      SharedCell.Alone (fun call => ¬ call.Inside) st.calls i))
  | .enter _ | .ring _ | .bus_up _ => .isTrue trivial

/-- What a request relies on about the buffer. -/
def RecvCall.Relies (call : RecvCall) (msgp : PcanfdMsgs) : Prop :=
  match call.phase with
  | .check_count asked | .locked asked => msgp.count = asked
  | .copy_to_user asked msgs base => Delivered asked msgs base msgp.count msgp.shown
  | .received asked msgs base count list => Delivered asked msgs base count list
  | _ => True

/-- A request that is not inside relies on nothing in the shared buffer. -/
theorem outside_relies (call : RecvCall) (h : ¬ call.Inside) :
    SharedCell.Outside RecvCall.Relies call := by
  obtain ⟨nonblock, phase⟩ := call
  intro msgp msgp'
  cases phase
  case check_count | locked | copy_to_user => exact absurd trivial h
  all_goals exact id

structure RecvInv (st : RecvState) : Prop where
  ring : RingInv st.ring
  relies : SharedCell.Holds RecvCall.Relies st.ioctl_rxmsgs st.calls

/-! ## The locked section -/

/-- As many messages are read as are asked for. -/
theorem length_read_msgs (dev : Chardev) (read_index : Int) (n : ℕ) :
    (dev.read_msgs read_index n).length = n := by
  induction n generalizing read_index with
  | zero => rfl
  | succ n ih => rw [Chardev.read_msgs, List.length_cons, ih]

/-- The number of messages a section takes. -/
theorem read_section_length {want : Int} {dev : Chardev} {msgs : List ChardevMsg}
    (h : (read_section want dev).1 = .ok msgs) :
    0 < dev.rx_unread_cnt
      ∧ msgs.length = (if want > dev.rx_unread_cnt then dev.rx_unread_cnt else want).toNat := by
  unfold read_section at h
  dsimp only at h
  split at h
  · cases h
  · rename_i hsome
    obtain rfl := Except.ok.inj h
    exact ⟨not_le.mp hsome, length_read_msgs ..⟩

/-- The section of a request that finds its own count in the buffer: it takes messages from
the front of the ring, and leaves them in the buffer. -/
theorem locked_section_own {st : RecvState} {asked : u32} (hinv : RingInv st.ring)
    (hcount : st.ioctl_rxmsgs.count = asked) :
    RingInv (st.locked_section asked).2.ring
      ∧ (st.locked_section asked).2.calls = st.calls
      ∧ RecvCall.Relies ⟨true, (st.locked_section asked).1⟩ (st.locked_section asked).2.ioctl_rxmsgs
      ∧ ∀ msgs base, (st.locked_section asked).1 = .copy_to_user asked msgs base →
          st.ring.dev.unread_msgs
            = msgs ++ (st.locked_section asked).2.ring.dev.unread_msgs := by
  have hfront : TakesFront st.ring.dev
      (ioctl_fd_recv_msgs_section st.ioctl_rxmsgs.count st.ring.dev) :=
    read_section_takesFront (Int.natCast_nonneg _) hinv.count_range hinv.idx_range
  have htake := ringInv_take_out hinv hfront
  have hunread := hfront.unread_eq
  unfold RecvState.locked_section
  dsimp only
  cases hsection : (ioctl_fd_recv_msgs_section st.ioctl_rxmsgs.count st.ring.dev).1 with
  | error err => exact ⟨htake, rfl, trivial, fun _ _ h => by cases h⟩
  | ok msgs =>
    obtain ⟨hsome, hlength⟩ := read_section_length hsection
    have hrange := hinv.count_range
    have hcnt : (BitVec.ofInt 32 st.ring.dev.rx_unread_cnt).toNat
        = st.ring.dev.rx_unread_cnt.toNat := by
      rw [BitVec.toNat_ofInt]
      omega
    -- the count as it is cut down is the number of messages taken
    have hcut : (if st.ioctl_rxmsgs.count > BitVec.ofInt 32 st.ring.dev.rx_unread_cnt then
        BitVec.ofInt 32 st.ring.dev.rx_unread_cnt else st.ioctl_rxmsgs.count).toNat
          = msgs.length := by
      have hover_iff : st.ioctl_rxmsgs.count > BitVec.ofInt 32 st.ring.dev.rx_unread_cnt
          ↔ (st.ioctl_rxmsgs.count.toNat : Int) > st.ring.dev.rx_unread_cnt := by
        rw [gt_iff_lt, BitVec.lt_def, hcnt]
        omega
      rw [hlength]
      by_cases hover : (st.ioctl_rxmsgs.count.toNat : Int) > st.ring.dev.rx_unread_cnt
      · rw [if_pos (hover_iff.mpr hover), if_pos hover, hcnt]
      · rw [if_neg (mt hover_iff.mp hover), if_neg hover, Int.toNat_natCast]
    refine ⟨htake, rfl, ⟨?_, hcut, ?_, ?_⟩, ?_⟩
    · dsimp only [PcanfdMsgs.shown]
      rw [hcut, List.range_eq_range']
      exact fill_list_seen st.base msgs st.ioctl_rxmsgs.list 0
    · dsimp only
      rw [hcut, hlength, ← hcount]
      split <;> omega
    · dsimp only
      rw [hcut, hlength]
      split <;> omega
    · intro msgs' base' hphase
      obtain rfl : msgs = msgs' := by injection hphase
      rw [hunread, hsection]
      dsimp only
      congr 1
      unfold RingState.take_out
      generalize hres : ioctl_fd_recv_msgs_section st.ioctl_rxmsgs.count st.ring.dev = result
        at hsection
      obtain ⟨outcome, dev⟩ := result
      dsimp only at hsection
      subst hsection
      rfl

/-! ## Runs -/

/-- The steps that leave the buffer alone. -/
theorem operate_reads {st st' : RecvState} {call : RecvCall} {outcome : Int} {asked : u32}
    {phase : RecvPhase} (hwrites : ¬ call.Writes) (hrelies : call.Relies st.ioctl_rxmsgs)
    (h : call.operate outcome asked st = some (phase, st')) :
    st' = st ∧ RecvCall.Relies ⟨call.nonblock, phase⟩ st.ioctl_rxmsgs := by
  obtain ⟨nonblock, from_⟩ := call
  cases from_ with
  | get_user => exact absurd trivial hwrites
  | locked asked => exact absurd trivial hwrites
  | failed err => cases h
  | received => cases h
  | check_count asked =>
    obtain ⟨rfl, rfl⟩ := Prod.mk.inj (Option.some.inj h)
    refine ⟨rfl, ?_⟩
    split
    · trivial
    · exact hrelies
  | copy_to_user asked msgs base =>
    obtain ⟨rfl, rfl⟩ := Prod.mk.inj (Option.some.inj h)
    refine ⟨rfl, ?_⟩
    split
    · trivial
    · exact hrelies
  | wait_unread | wait_stage | recheck_stage | recheck_unread =>
    obtain ⟨rfl, rfl⟩ := Prod.mk.inj (Option.some.inj h)
    refine ⟨rfl, ?_⟩
    repeat' split
    all_goals trivial

/-- The steps that write it. -/
theorem operate_writes {st st' : RecvState} {call : RecvCall} {outcome : Int} {asked : u32}
    {phase : RecvPhase} (hinv : RingInv st.ring) (hwrites : call.Writes)
    (hrelies : call.Relies st.ioctl_rxmsgs)
    (h : call.operate outcome asked st = some (phase, st')) :
    RingInv st'.ring ∧ st'.calls = st.calls
      ∧ RecvCall.Relies ⟨call.nonblock, phase⟩ st'.ioctl_rxmsgs := by
  obtain ⟨nonblock, from_⟩ := call
  cases from_ with
  | get_user =>
    rw [RecvCall.operate] at h
    dsimp only at h
    obtain hres := Option.some.inj h
    split at hres
    · obtain ⟨rfl, rfl⟩ := Prod.mk.inj hres
      exact ⟨hinv, rfl, trivial⟩
    · obtain ⟨rfl, rfl⟩ := Prod.mk.inj hres
      exact ⟨hinv, rfl, rfl⟩
  | locked asked =>
    obtain hres := Option.some.inj h
    obtain ⟨hring, hcalls, hown, -⟩ := locked_section_own hinv hrelies
    rw [hres] at hring hcalls hown
    exact ⟨hring, hcalls, hown⟩
  | _ => exact absurd hwrites id

/-- If nobody writes the count in between, each request gets its own. -/
theorem recvInv_step (st : RecvState) (action : RecvAction) (st' : RecvState)
    (hinv : RecvInv st) (halone : st.WritesAlone action) (hstep : st.step action = some st') :
    RecvInv st' := by
  obtain ⟨hring, hrelies⟩ := hinv
  cases action with
  | enter nonblock =>
    obtain rfl := Option.some.inj hstep
    exact ⟨hring, hrelies.append trivial⟩
  | bus_up now =>
    obtain rfl := Option.some.inj hstep
    exact ⟨hring, hrelies⟩
  | ring action =>
    have hring_step : ∃ ring, st.ring.step action = some ring ∧ { st with ring := ring } = st' := by
      cases action
      case fd_recv_msgs => cases hstep
      all_goals exact Option.map_eq_some_iff.mp hstep
    obtain ⟨ring, haction, rfl⟩ := hring_step
    exact ⟨ringInv_step st.ring action ring hring haction, hrelies⟩
  | advance i outcome asked =>
    rw [RecvState.step] at hstep
    split at hstep
    · rename_i call hcall
      obtain ⟨⟨phase, st₁⟩, hoperate, rfl⟩ := Option.map_eq_some_iff.mp hstep
      have hmine := hrelies call (List.mem_of_getElem? hcall)
      by_cases hwrites : call.Writes
      · obtain ⟨hring', hcalls, hnew⟩ := operate_writes hring hwrites hmine hoperate
        refine ⟨hring', ?_⟩
        dsimp only
        rw [hcalls]
        exact hrelies.store outside_relies (halone call hcall hwrites) hnew
      · obtain ⟨rfl, hnew⟩ := operate_reads hwrites hmine hoperate
        exact ⟨hring, hrelies.set i hnew⟩
    · cases hstep

/-- Requests that never write the buffer while another one is inside get their own messages,
in order, no more than they asked for and than the ring holds; and what a section takes for a
request is the front of the ring. -/
theorem recv_msgs_get_own {st₀ st : RecvState} {actions : List RecvAction}
    (hopen : st₀.ring.Opened) (hnone : st₀.calls = [])
    (halone : Runs.Along RecvState.step RecvState.WritesAlone st₀ actions)
    (hrun : Runs.run RecvState.step st₀ actions = some st) :
    (∀ call ∈ st.calls, call.GotOwn)
      ∧ ∀ i call asked msgs base outcome any st', st.calls[i]? = some call →
          call.phase = .locked asked → st.step (.advance i outcome any) = some st' →
          st'.calls[i]? = some { call with phase := .copy_to_user asked msgs base } →
          st.ring.dev.unread_msgs = msgs ++ st'.ring.dev.unread_msgs := by
  have hinit : RecvInv st₀ := ⟨hopen.inv, by rw [hnone]; exact SharedCell.holds_nil _⟩
  have hinv := Runs.run_invariant_along RecvState.step recvInv_step hinit halone hrun
  constructor
  · intro call hmem
    have hmine := hinv.relies call hmem
    obtain ⟨nonblock, phase⟩ := call
    cases phase
    case received => exact hmine
    all_goals trivial
  · intro i call asked msgs base outcome any st' hcall hphase hstep hnext
    have hmine := hinv.relies call (List.mem_of_getElem? hcall)
    rw [RecvCall.Relies, hphase] at hmine
    obtain ⟨-, hcalls, -, htaken⟩ := locked_section_own hinv.ring hmine
    rw [RecvState.step, hcall] at hstep
    dsimp only at hstep
    rw [RecvCall.operate, hphase] at hstep
    obtain rfl := Option.some.inj hstep
    refine htaken msgs base ?_
    dsimp only at hnext
    rw [hcalls, List.getElem?_set_self (List.getElem?_eq_some_iff.mp hcall).1] at hnext
    exact congrArg RecvCall.phase (Option.some.inj hnext)

/-- A device with two messages to read. -/
def two_unread : List RecvAction :=
  let ctx := MsgContext.start (buffer [0, 1, 0x10, 0x20, 0x00, 0x34, 0x12]) 7
  [.ring .sample, .ring (.fill Env.plenty 0x10 (ctx.take 1 1)), .ring .commit, .ring .sample,
    .ring (.fill Env.plenty 0x10 (ctx.take 1 1)), .ring .commit]

def recv_start : RecvState :=
  { ring := opened_ring
    bus_up_time := ⟨0, 0⟩
    ioctl_rxmsgs := ⟨0, fun _ => ⟨0, 0, 0, 0, 0, 0, fun _ => 0⟩⟩
    calls := [] }

/-- Two requests, the second one asking when the first one has its message. -/
def requests_in_turn : List RecvAction :=
  let requests : List RecvAction := [.enter true, .enter true, .advance 0 0 0, .advance 1 0 0,
    .advance 0 0 1, .advance 0 0 0, .advance 0 0 0, .advance 0 0 0, .advance 1 0 2,
    .advance 1 0 0, .advance 1 0 0, .advance 1 0 0]
  two_unread ++ requests

theorem recv_msgs_get_own_in_turn :
    ∃ st, Runs.run RecvState.step recv_start requests_in_turn = some st
      ∧ ∀ call ∈ st.calls, call.GotOwn := by
  have hsome : (Runs.run RecvState.step recv_start requests_in_turn).isSome = true := by decide
  obtain ⟨st, hrun⟩ := Option.isSome_iff_exists.mp hsome
  have hopen : recv_start.ring.Opened := ⟨rfl, rfl, by decide, rfl, rfl, trivial⟩
  exact ⟨st, hrun, (recv_msgs_get_own hopen rfl (by decide) hrun).1⟩

/-- A request for one message is overtaken by one for two between its `__get_user` and its
section. -/
def requests_overlapping : List RecvAction :=
  let requests : List RecvAction := [.enter true, .enter true, .advance 0 0 0, .advance 1 0 0,
    .advance 0 0 1, .advance 1 0 2, .advance 0 0 0, .advance 0 0 0, .advance 0 0 0]
  two_unread ++ requests

/-- It asked for one message and gets two. -/
theorem overlapping_request_gets_two :
    ∃ st call asked msgs base count list,
      Runs.run RecvState.step recv_start requests_overlapping = some st
        ∧ st.calls[0]? = some call ∧ call.phase = .received asked msgs base count list
        ∧ asked = 1 ∧ count = 2 ∧ ¬ call.GotOwn := by
  have hsome : (Runs.run RecvState.step recv_start requests_overlapping).isSome = true := by decide
  obtain ⟨st, hrun⟩ := Option.isSome_iff_exists.mp hsome
  have hgot : ((Runs.run RecvState.step recv_start requests_overlapping).bind
      fun st => st.calls[0]?.map fun call => match call.phase with
        | .received asked _ _ count _ => (asked, count)
        | _ => (0, 0)) = some (1, 2) := by decide
  rw [hrun, Option.bind_some] at hgot
  obtain ⟨call, hcall, hphase⟩ := Option.map_eq_some_iff.mp hgot
  split at hphase
  · rename_i asked msgs base count list hreceived
    obtain ⟨rfl, rfl⟩ := Prod.mk.inj hphase
    refine ⟨st, call, 1, msgs, base, 2, list, hrun, hcall, hreceived, rfl, rfl, fun hown => ?_⟩
    rw [RecvCall.GotOwn, hreceived] at hown
    exact absurd hown.le_asked (by decide)
  · exact absurd hphase (by decide)

end DualPcanUsb
