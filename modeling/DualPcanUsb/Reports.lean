/-
What the driver reports of its ring.

Three requests and two attributes show the ring's counters, each in its own width and without
the lock. The count of the diagnosis goes by the name of reads, and is that of the messages put
into the ring since the file was opened. A report may come between any two stores: between the
last two of a commit, the count is one behind. With the counters' resets by an open in between
as well, the reports are right as long as an open does not reset what has just been counted.
-/
import DualPcanUsb.OpeningRing
import DualPcanUsb.Lib.Printf

set_option autoImplicit false

namespace DualPcanUsb

open Printf

/-! ## The reports -/

def PRODUCT_TYPE : u16 := 11

def DEV_MINOR_BASE : Int := 32

def DRV_VER_MAJOR : u16 := 0

def DRV_VER_MINOR : u16 := 8

def DRV_VER_RELEASE : u16 := 1

/-- What a report reads beside the counters: the numbers the device gave of itself, the minor
number of the file, and the text of the driver's version. -/
structure ReportEnv where
  serial_number : u32
  device_id : u32
  minor : Int
  version : List u8

structure PcanIoctlDiag where
  hardware_type : u16
  base : u32
  irq_level : u16
  read_count : u32
  write_count : u32
  irq_count : u32
  error_count : u32
  error_flag : u16
  last_error : Int
  open_paths : Int
  version : List u8

/-- The fields that are not set are zero. -/
def ioctl_get_diagnostic_info (env : ReportEnv) (dev : Chardev) : PcanIoctlDiag where
  hardware_type := PRODUCT_TYPE
  base := env.serial_number
  irq_level := env.device_id.setWidth 16
  read_count := BitVec.ofNat 32 dev.rx_packets
  write_count := 0
  irq_count := 0
  error_count := 0
  error_flag := 0
  last_error := 0
  open_paths := dev.open_count
  version := env.version

structure PcanIoctlExtraStatus where
  error_flag : u16
  last_error : Int
  pending_reads : Int
  pending_writes : Int

def ioctl_get_extra_status (dev : Chardev) : PcanIoctlExtraStatus where
  error_flag := 0
  last_error := 0
  pending_reads := dev.rx_unread_cnt
  pending_writes := 0

inductive PcanfdStatus
  | unknown | error_active | error_warning | error_passive | error_busoff
  | rx_empty | rx_overflow | reserved_1 | tx_overflow | reserved_2 | bus_load
deriving DecidableEq, Repr

structure PcanfdIoctlState where
  ver_major : u16
  ver_minor : u16
  ver_subminor : u16
  -- seconds and microseconds
  tv_init : Int × Int
  bus_state : PcanfdStatus
  device_id : u32
  open_counter : u32
  filters_counter : u32
  hw_type : u16
  channel_number : u16
  can_status : u16
  bus_load : u16
  tx_max_msgs : u32
  tx_pending_msgs : u32
  rx_max_msgs : u32
  rx_pending_msgs : u32
  tx_frames_counter : u32
  rx_frames_counter : u32
  tx_error_counter : u32
  rx_error_counter : u32
  host_time_ns : u64
  hw_time_ns : u64

def ioctl_fd_get_state (env : ReportEnv) (dev : Chardev) : PcanfdIoctlState where
  ver_major := DRV_VER_MAJOR
  ver_minor := DRV_VER_MINOR
  ver_subminor := DRV_VER_RELEASE
  tv_init := (0, 0)
  bus_state := .error_active
  device_id := env.device_id
  open_counter := BitVec.ofInt 32 dev.open_count
  filters_counter := 0
  hw_type := PRODUCT_TYPE
  channel_number := BitVec.ofInt 16 (env.minor - DEV_MINOR_BASE)
  can_status := 0
  -- not given
  bus_load := 0xffff
  tx_max_msgs := 0
  tx_pending_msgs := 0
  rx_max_msgs := BitVec.ofInt 32 PCAN_CHRDEV_MAX_RX_BUF_COUNT
  rx_pending_msgs := BitVec.ofInt 32 dev.rx_unread_cnt
  tx_frames_counter := 0
  rx_frames_counter := 0
  tx_error_counter := 0
  rx_error_counter := 0
  host_time_ns := 0
  hw_time_ns := 0

/-- `"%llu\n"`, of a `u64`. -/
def show_packets (dev : Chardev) : List u8 :=
  text [.dec 0 ((dev.rx_packets % 2 ^ 64 : ℕ) : Int), .lit "\n"]

def read_show (dev : Chardev) : List u8 := show_packets dev

def rx_frames_counter_show (dev : Chardev) : List u8 := show_packets dev

/-! ## The count of packets -/

/-- Readers do not count packets. -/
theorem read_section_packets (msgs_to_read : Int) (dev : Chardev) :
    (read_section msgs_to_read dev).2.rx_packets = dev.rx_packets := by
  unfold read_section
  dsimp only
  split <;> rfl

/-- A fill writes a slot at most. -/
theorem fill_packets {env : Env} {sample : RxSample} {status_len : u8} {ctx ctx' : MsgContext}
    {s s' : RxState} {result : Except Int ChardevMsg}
    (h : DataFill env sample status_len ctx s result ctx' s') :
    s'.fwd.char_dev.rx_packets = s.fwd.char_dev.rx_packets := by
  rcases h.ring with ⟨hdev, -⟩ | ⟨idx, msg, -, hdev, -⟩
  · rw [hdev]
  · rw [hdev]
    rfl

/-! ## The count while a file is open -/

/-- The messages that `rx_unread_cnt` counts and `rx_packets` does not yet. -/
def Completing.behind : Completing → ℕ
  | .counted => 1
  | _ => 0

/-- A message is counted as it is accepted, or is about to be, and readers count nothing. -/
def OpeningRing.Counted (st : OpeningRing) : Prop :=
  st.dev.rx_packets + st.producer.behind = st.accepted.length

/-- Where an open resets `rx_packets`, nothing has been counted since it reset the count. -/
def OpeningRing.CountsAnew (st : OpeningRing) : OpeningAction → Prop
  | .reset => st.file = .count_reset → st.accepted.length = 0 ∧ st.producer.behind = 0
  | _ => True

instance (st : OpeningRing) : DecidablePred st.CountsAnew
  | .reset => inferInstanceAs (Decidable (_ → _ ∧ _))
  | .sample | .fill _ _ _ | .commit | .open_ | .turn_away | .close | .read _ | .read_msg
  | .fd_recv_msgs _ | .elsewhere _ => .isTrue trivial

/-- The ring's invariant, and that of its count. -/
structure ReportInv (st : OpeningRing) : Prop where
  ring : OpeningInv st
  counted : st.file = .opened → st.Counted

/-- Reading the ring's counters counts nothing. -/
theorem counted_sample {st st' : OpeningRing} (hstep : st.sample = some st')
    (h : st.file = .opened → st.Counted) : st'.file = .opened → st'.Counted := by
  unfold OpeningRing.sample at hstep
  split at hstep
  · next hidle =>
    unfold OpeningRing.Counted at h
    rw [hidle] at h
    split at hstep <;> obtain rfl := Option.some.inj hstep <;> exact h
  · next hopen =>
    unfold OpeningRing.Counted at h
    rw [hopen] at h
    obtain rfl := Option.some.inj hstep
    exact h
  · next hunread =>
    unfold OpeningRing.Counted at h
    rw [hunread] at h
    obtain rfl := Option.some.inj hstep
    exact h
  · cases hstep

/-- The message is accepted by the store of the count, and counted by the one behind it. -/
theorem counted_commit {st st' : OpeningRing} (hstep : st.commit = some st')
    (h : st.file = .opened → st.Counted) : st'.file = .opened → st'.Counted := by
  unfold OpeningRing.commit at hstep
  split at hstep
  · next hfilled =>
    unfold OpeningRing.Counted at h
    rw [hfilled] at h
    split at hstep <;> obtain rfl := Option.some.inj hstep <;> exact h
  · next msg hindexed =>
    unfold OpeningRing.Counted at h
    rw [hindexed] at h
    obtain rfl := Option.some.inj hstep
    intro hopened
    change st.dev.rx_packets + 1 = (st.accepted ++ [msg]).length
    rw [List.length_append, ← h hopened]
    rfl
  · next hcounted =>
    unfold OpeningRing.Counted at h
    rw [hcounted] at h
    obtain rfl := Option.some.inj hstep
    exact h
  · cases hstep

/-- An open that counts anew starts at zero. -/
theorem counted_reset {st st' : OpeningRing} (hanew : st.CountsAnew .reset)
    (hstep : st.reset = some st') : st'.file = .opened → st'.Counted := by
  unfold OpeningRing.reset at hstep
  intro hopened
  split at hstep
  · obtain rfl := Option.some.inj hstep
    cases hopened
  · obtain rfl := Option.some.inj hstep
    cases hopened
  · next hfile =>
    obtain rfl := Option.some.inj hstep
    obtain ⟨hnone, hbehind⟩ := hanew hfile
    change 0 + st.producer.behind = st.accepted.length
    rw [hnone, hbehind]
  · cases hstep

/-- What a reader takes is no matter of the count. -/
theorem counted_take_out {st st' : OpeningRing}
    {section_ : Chardev → Except Int (List ChardevMsg) × Chardev}
    (hpackets : (section_ st.dev).2.rx_packets = st.dev.rx_packets)
    (hstep : st.take_out section_ = some st') (h : st.file = .opened → st.Counted) :
    st'.file = .opened → st'.Counted := by
  unfold OpeningRing.take_out at hstep
  obtain ⟨⟨hfile, -⟩, hstep⟩ := Option.ite_none_right_eq_some.mp hstep
  have hcounted := h hfile
  split at hstep
  all_goals
    next hsection =>
    rw [hsection] at hpackets
    obtain rfl := Option.some.inj hstep
    intro _
    exact (congrArg (· + st.producer.behind) hpackets).trans hcounted

/-- Every step of every party keeps the count. -/
theorem reportInv_step (st : OpeningRing) (action : OpeningAction) (st' : OpeningRing)
    (h : ReportInv st) (hgood : st.Untorn action ∧ st.CountsAnew action)
    (hstep : st.step action = some st') : ReportInv st' := by
  refine ⟨openingInv_step st action st' h.ring hgood.1 hstep, ?_⟩
  cases action with
  | sample => exact counted_sample hstep h.counted
  | fill env status_len ctx =>
    have hcounted := h.counted
    rw [OpeningRing.step] at hstep
    split at hstep
    · next sample hsampled =>
      unfold OpeningRing.Counted at hcounted
      rw [hsampled] at hcounted
      have hfill := decode_data_fill_cases env sample status_len ctx st.rx
      generalize decode_data_fill env sample status_len ctx st.rx = filled at hstep hfill
      obtain ⟨result, ctx', rx⟩ := filled
      have hpackets := fill_packets hfill
      cases result <;> obtain rfl := Option.some.inj hstep <;>
        exact fun hopened => hpackets.trans (hcounted hopened)
    · cases hstep
  | commit => exact counted_commit hstep h.counted
  | open_ =>
    rw [OpeningRing.step] at hstep
    dsimp only at hstep
    split at hstep
    · obtain rfl := Option.some.inj hstep
      exact h.counted
    · obtain rfl := Option.some.inj hstep
      exact fun hopened => FileStage.noConfusion hopened
  | turn_away =>
    obtain ⟨-, heq⟩ := Option.ite_none_right_eq_some.mp hstep
    obtain rfl := Option.some.inj heq
    exact h.counted
  | reset => exact counted_reset hgood.2 hstep
  | close =>
    obtain ⟨-, heq⟩ := Option.ite_none_right_eq_some.mp hstep
    obtain rfl := Option.some.inj heq
    exact fun hopened => FileStage.noConfusion hopened
  | read count =>
    obtain ⟨-, heq⟩ := Option.ite_none_right_eq_some.mp hstep
    exact counted_take_out (read_section_packets ..) heq h.counted
  | read_msg => exact counted_take_out (read_section_packets ..) hstep h.counted
  | fd_recv_msgs count =>
    obtain ⟨-, heq⟩ := Option.ite_none_right_eq_some.mp hstep
    exact counted_take_out (read_section_packets ..) heq h.counted
  | elsewhere fwd =>
    obtain rfl := Option.some.inj hstep
    exact h.counted

/-- With a file open, `rx_unread_cnt` is the number of messages accepted and not taken, within a
commit as well. -/
theorem OpeningInv.pending {st : OpeningRing} (h : OpeningInv st) (hopened : st.file = .opened) :
    st.dev.rx_unread_cnt = (st.accepted.length : Int) - st.taken.length := by
  have hkeeps := h.keeps
  rw [hopened] at hkeeps
  have hkept := hkeeps rfl
  have hnonneg := h.count_range.1
  unfold OpeningRing.Keeps at hkept
  split at hkept
  · obtain ⟨-, haccepted⟩ := hkept
    have hlen := congrArg List.length haccepted
    rw [List.length_append, length_unread_msgs] at hlen
    dsimp only at hlen
    omega
  · have hlen := congrArg List.length hkept
    rw [List.length_append, length_unread_msgs] at hlen
    omega

/-! ## What the reports say -/

/-- However opens, closes, records and reads interleave, as long as no open tears a commit or
resets what has just been counted: with a file open, the diagnosis and the attributes tell how
many messages were accepted since, one less between the last two stores of a commit, and the
other two requests how many of them are still to be taken. -/
theorem reports_tell_accepted_and_pending (env : ReportEnv) (st₀ st : OpeningRing)
    (actions : List OpeningAction) (hclosed : st₀.Closed)
    (hgood : Runs.Along OpeningRing.step (fun st action => st.Untorn action ∧ st.CountsAnew action)
      st₀ actions)
    (hrun : Runs.run OpeningRing.step st₀ actions = some st) (hopened : st.file = .opened) :
    (ioctl_get_diagnostic_info env st.dev).read_count.toNat
        = (st.accepted.length - st.producer.behind) % 2 ^ 32
      ∧ read_show st.dev
        = text [.dec 0 (((st.accepted.length - st.producer.behind) % 2 ^ 64 : ℕ) : Int), .lit "\n"]
      ∧ rx_frames_counter_show st.dev = read_show st.dev
      ∧ (ioctl_get_extra_status st.dev).pending_reads
        = (st.accepted.length : Int) - st.taken.length
      ∧ (ioctl_fd_get_state env st.dev).rx_pending_msgs.toNat
        = st.accepted.length - st.taken.length
      ∧ (ioctl_fd_get_state env st.dev).rx_pending_msgs
        ≤ (ioctl_fd_get_state env st.dev).rx_max_msgs := by
  have hstart : ReportInv st₀ := by
    refine ⟨hclosed.inv, fun hfile => ?_⟩
    rw [hclosed.file_eq] at hfile
    cases hfile
  have hinv : ReportInv st :=
    Runs.run_invariant_along OpeningRing.step reportInv_step hstart hgood hrun
  have hpackets : st.dev.rx_packets = st.accepted.length - st.producer.behind :=
    Nat.eq_sub_of_add_eq (hinv.counted hopened)
  have hpending := hinv.ring.pending hopened
  obtain ⟨hnonneg, hle⟩ := hinv.ring.count_range
  have hwidth : (ioctl_fd_get_state env st.dev).rx_pending_msgs.toNat
      = st.accepted.length - st.taken.length := by
    change (BitVec.ofInt 32 st.dev.rx_unread_cnt).toNat = _
    rw [BitVec.toNat_ofInt]
    omega
  refine ⟨?_, ?_, rfl, hpending, hwidth, ?_⟩
  · change (BitVec.ofNat 32 st.dev.rx_packets).toNat = _
    rw [BitVec.toNat_ofNat, hpackets]
  · unfold read_show show_packets
    rw [hpackets]
  · rw [BitVec.le_def, hwidth]
    change st.accepted.length - st.taken.length ≤ 8
    omega

/-- The device is opened, and two remote frames arrive; the first one is read, and the second
one is between the last two stores of its commit. -/
def second_uncounted : List OpeningAction :=
  let ctx := MsgContext.start (buffer [0, 1, 0x10, 0x20, 0x00, 0x34, 0x12]) 7
  let record : List OpeningAction :=
    [.sample, .sample, .sample, .fill Env.plenty 0x10 (ctx.take 1 1)]
  [.open_, .reset, .reset, .reset] ++ record ++ [.commit, .commit, .commit, .read_msg] ++ record
    ++ [.commit, .commit]

/-- Of two messages accepted the second is not counted yet, and it is the one pending. -/
theorem reports_tell_accepted_and_pending_second_uncounted :
    ∃ st, Runs.run OpeningRing.step left_unread second_uncounted = some st
      ∧ st.accepted.length = 2 ∧ st.taken.length = 1
      ∧ (ioctl_get_diagnostic_info ⟨1, 1, 32, []⟩ st.dev).read_count.toNat = 1
      ∧ (ioctl_get_extra_status st.dev).pending_reads = 1 := by
  obtain ⟨st, hrun, hfile, haccepted, htaken, hbehind⟩ :
      ∃ st, Runs.run OpeningRing.step left_unread second_uncounted = some st
        ∧ st.file = .opened ∧ st.accepted.length = 2 ∧ st.taken.length = 1
        ∧ st.producer.behind = 1 :=
    Runs.exists_run_of_any OpeningRing.step (by decide)
  have hclosed : left_unread.Closed := ⟨by decide, by decide, rfl, rfl, rfl, rfl⟩
  obtain ⟨hcount, -, -, hstatus, -, -⟩ := reports_tell_accepted_and_pending ⟨1, 1, 32, []⟩
    left_unread st second_uncounted hclosed (by decide) hrun hfile
  refine ⟨st, hrun, haccepted, htaken, ?_, ?_⟩
  · rw [hcount, haccepted, hbehind]
    rfl
  · rw [hstatus, haccepted, htaken]
    rfl

end DualPcanUsb
