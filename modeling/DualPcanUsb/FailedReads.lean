/-
Whether a failed read consumes messages.

All three readers take their messages out of the ring in the locked section and copy them
to user space behind it, where a fault may sleep and the lock is gone. No reader puts
anything back. So a call that fails before its copy leaves the ring as it is, also where it
finds the ring empty behind a wait that has seen messages, and one whose copy fails has taken
its messages out.
-/
import DualPcanUsb.ReaderCalls

set_option autoImplicit false

namespace DualPcanUsb

open StructBytes

/-! ## The copy to user space

`st` is what a call finds behind its wait, and `seen` the device that the wait looked at; the
ring may have been emptied in between. -/

/-- `ioctl_read_msg` gets to its copy, which leaves something out. -/
def ReaderState.MsgCopyFails (st : ReaderState) (seen : Device) (services : Services) : Prop :=
  wait_for_msgs services.wait seen = 0 ∧ 0 < st.dev.rx_unread_cnt ∧ services.not_copied ≠ 0

/-- `ioctl_fd_recv_msgs` gets there with a count in hand. -/
def ReaderState.MsgsCopyFails (st : ReaderState) (seen : Device) (services : Services)
    (arg : ℕ) : Prop :=
  wait_for_msgs services.wait seen = 0 ∧ services.get_user_fault = false ∧ st.asked arg ≠ 0
    ∧ 0 < st.dev.rx_unread_cnt ∧ services.not_copied ≠ 0

/-- `pcan_chardev_read` has a copy with `map_umem` off only. -/
def ReaderState.TextCopyFails (st : ReaderState) (seen : Device) (map_umem : Bool)
    (services : Services) (count : ℕ) : Prop :=
  map_umem = false ∧ PCAN_CHRDEV_MAX_BYTES_PER_READ < count
    ∧ PCAN_USB_STAGE_ONE_STARTED ≤ seen.stage ∧ wait_for_msgs services.wait seen = 0
    ∧ 0 < st.dev.rx_unread_cnt ∧ services.not_copied ≠ 0

/-- The ring is as it was: its counters and its unread messages. -/
structure SameUnread (dev dev' : Chardev) : Prop where
  count : dev'.rx_unread_cnt = dev.rx_unread_cnt
  idx : dev'.rx_write_idx = dev.rx_write_idx
  unread : dev'.unread_msgs = dev.unread_msgs

theorem SameUnread.refl (dev : Chardev) : SameUnread dev dev := ⟨rfl, rfl, rfl⟩

/-! ## One section -/

/-- A request for some messages is for at least one. -/
theorem asked_pos {asked : u32} (h : asked ≠ 0) : (0 : Int) < asked.toNat := by
  have hne : asked.toNat ≠ 0 := by
    intro hzero
    exact h (BitVec.eq_of_toNat_eq hzero)
  omega

/-- Fewer unread is not the same unread. -/
theorem not_sameUnread {dev dev' : Chardev} (h : dev'.rx_unread_cnt < dev.rx_unread_cnt) :
    ¬ SameUnread dev dev' := by
  intro hsame
  exact h.ne hsame.count

/-- Of an empty ring, a section takes nothing and says so. -/
theorem read_section_empty {want : Int} {dev : Chardev} (hempty : dev.rx_unread_cnt ≤ 0) :
    read_section want dev = (.error (-EAGAIN), dev) := by
  unfold read_section
  exact if_pos hempty

/-- The text of some messages is not empty. -/
theorem text_pos (env : ReadEnv) (buf : ℕ → u8) {msgs : List ChardevMsg} (hne : msgs ≠ []) :
    0 < (msgs.foldl env.format_msg ⟨buf, 0, []⟩).pos := by
  rw [(format_msgs_emits env ⟨buf, 0, []⟩ msgs).pos_eq]
  exact Nat.lt_add_left 0 (lines_pos env hne)

/-! ## The three readers -/

section

variable (st : ReaderState) (services : Services) (env : ReadEnv)

/-- Behind a wait that succeeded, `ioctl_read_msg` consumes its message, and fails with its
copy only. -/
theorem read_msg_copied_consumes (arg : ℕ) (msg : Bytes) (hsome : 0 < st.dev.rx_unread_cnt) :
    ¬ SameUnread st.dev (st.read_msg_copied services arg msg).2.dev
      ∧ ((st.read_msg_copied services arg msg).1 < 0 → services.not_copied ≠ 0) := by
  obtain ⟨msgs, hsection, -, hlt⟩ := read_section_takes (by decide : (0 : Int) < 1) hsome
  unfold ReaderState.read_msg_copied ioctl_read_msg_section
  rw [hsection]
  refine ⟨not_sameUnread hlt, fun hfail hall => ?_⟩
  rw [hall] at hfail
  simp [copy_to_user_all] at hfail

/-- Behind the section the messages are gone, and only the copy can still fail. -/
theorem recv_msgs_copied_consumes (arg : ℕ) {asked : u32} (hasked : asked ≠ 0)
    (hsome : 0 < st.dev.rx_unread_cnt) :
    ¬ SameUnread st.dev (st.recv_msgs_copied services env arg asked).2.dev
      ∧ ((st.recv_msgs_copied services env arg asked).1 < 0 → services.not_copied ≠ 0) := by
  obtain ⟨msgs, hsection, -, hlt⟩ := read_section_takes (asked_pos hasked) hsome
  unfold ReaderState.recv_msgs_copied ioctl_fd_recv_msgs_section
  rw [hsection]
  refine ⟨not_sameUnread hlt, fun hfail hall => ?_⟩
  rw [hall] at hfail
  simp [copy_to_user_all] at hfail

/-- A read with something to say returns the bytes it has copied. -/
theorem read_copied_consumes (buf : ℕ) {count : ℕ} (hcount : 80 < count)
    (hsome : 0 < st.dev.rx_unread_cnt) :
    ¬ SameUnread st.dev (st.read_copied services env buf count).2.dev
      ∧ ((st.read_copied services env buf count).1 ≤ 0 → services.not_copied ≠ 0) := by
  obtain ⟨msgs, hsection, hne, hlt⟩ := read_section_takes (msgs_to_read_pos hcount) hsome
  change pcan_chardev_read_section count st.dev = _ at hsection
  have hpos := text_pos env st.rd_kernel_buf hne
  unfold ReaderState.read_copied pcan_chardev_read_text
  rw [hsection]
  dsimp only
  rw [if_pos (by omega)]
  refine ⟨not_sameUnread hlt, fun hfail hall => ?_⟩
  rw [hall] at hfail
  simp [copy_to_user_all] at hfail
  omega

/-- With its buffer mapped, a read that took something returns the length of its text. -/
theorem read_mapped_fails {count : ℕ} (hcount : 80 < count) {r : Int × ReaderState}
    (h : st.read_mapped env count = some r) (hfail : r.1 ≤ 0) : SameUnread st.dev r.2.dev := by
  unfold ReaderState.read_mapped at h
  by_cases hsome : 0 < st.dev.rx_unread_cnt
  · obtain ⟨msgs, hsection, hne, -⟩ := read_section_takes (msgs_to_read_pos hcount) hsome
    change pcan_chardev_read_section count st.dev = _ at hsection
    cases haddr : st.rd_mapped_addr with
    | none =>
      rw [haddr, hsection] at h
      cases h
    | some page =>
      have hpos := text_pos env (fun i => st.user (page + i)) hne
      unfold pcan_chardev_read_text at h
      rw [haddr, hsection] at h
      obtain rfl := Option.some.inj h
      dsimp only at hfail
      omega
  · -- nothing there, and nothing taken
    have hempty : pcan_chardev_read_section count st.dev = (.error (-EAGAIN), st.dev) :=
      read_section_empty (not_lt.mp hsome)
    cases haddr : st.rd_mapped_addr with
    | none =>
      rw [haddr, hempty] at h
      obtain rfl := Option.some.inj h
      exact SameUnread.refl st.dev
    | some page =>
      unfold pcan_chardev_read_text at h
      rw [haddr, hempty] at h
      obtain rfl := Option.some.inj h
      exact SameUnread.refl st.dev

/-- A failing `ioctl_read_msg` leaves the ring as it was unless its copy failed. -/
theorem read_msg_ring_iff (seen : Device) (arg : ℕ) (msg : Bytes)
    (hfail : (st.ioctl_read_msg_seen seen services arg msg).1 < 0) :
    SameUnread st.dev (st.ioctl_read_msg_seen seen services arg msg).2.dev
      ↔ ¬ st.MsgCopyFails seen services := by
  unfold ReaderState.ioctl_read_msg_seen at hfail ⊢
  by_cases hwait : wait_for_msgs services.wait seen = 0
  swap
  · simp only [hwait, ne_eq, not_false_eq_true, if_true]
    exact iff_of_true (SameUnread.refl st.dev) fun h => hwait h.1
  simp only [hwait, ne_eq, not_true_eq_false, if_false] at hfail ⊢
  by_cases hsome : 0 < st.dev.rx_unread_cnt
  · have hcons := read_msg_copied_consumes st services arg msg hsome
    exact iff_of_false hcons.1 (not_not.mpr ⟨hwait, hsome, hcons.2 hfail⟩)
  · -- emptied behind the wait
    have hempty : ioctl_read_msg_section st.dev = (.error (-EAGAIN), st.dev) :=
      read_section_empty (not_lt.mp hsome)
    unfold ReaderState.read_msg_copied
    rw [hempty]
    exact iff_of_true (SameUnread.refl st.dev) fun h => hsome h.2.1

/-- A failing `ioctl_fd_recv_msgs` leaves the ring as it was unless its copy failed. -/
theorem recv_msgs_ring_iff (seen : Device) (arg : ℕ)
    (hfail : (st.ioctl_fd_recv_msgs_seen seen services env arg).1 < 0) :
    SameUnread st.dev (st.ioctl_fd_recv_msgs_seen seen services env arg).2.dev
      ↔ ¬ st.MsgsCopyFails seen services arg := by
  unfold ReaderState.ioctl_fd_recv_msgs_seen at hfail ⊢
  by_cases hwait : wait_for_msgs services.wait seen = 0
  swap
  · simp only [hwait, ne_eq, not_false_eq_true, if_true]
    exact iff_of_true (SameUnread.refl st.dev) fun h => hwait h.1
  simp only [hwait, ne_eq, not_true_eq_false, if_false] at hfail ⊢
  by_cases hfault : services.get_user_fault = true
  · simp only [hfault, if_true]
    refine iff_of_true (SameUnread.refl st.dev) fun h => ?_
    exact absurd (hfault.symm.trans h.2.1) (by decide)
  by_cases hasked : st.asked arg = 0
  · simp only [hfault, hasked, if_true]
    exact iff_of_true (SameUnread.refl st.dev) fun h => h.2.2.1 hasked
  simp only [hfault, hasked, if_false] at hfail ⊢
  by_cases hsome : 0 < st.dev.rx_unread_cnt
  · have hcons := recv_msgs_copied_consumes (st.get_count services arg) services env arg hasked
      hsome
    have hnofault : services.get_user_fault = false := Bool.not_eq_true _ ▸ hfault
    exact iff_of_false hcons.1
      (not_not.mpr ⟨hwait, hnofault, hasked, hsome, hcons.2 hfail⟩)
  · -- emptied behind the wait
    have hempty : ioctl_fd_recv_msgs_section (st.asked arg) (st.get_count services arg).dev
        = (.error (-EAGAIN), st.dev) := read_section_empty (not_lt.mp hsome)
    unfold ReaderState.recv_msgs_copied
    rw [hempty]
    exact iff_of_true (SameUnread.refl st.dev) fun h => hsome h.2.2.2.1

/-- A failing `pcan_chardev_read` leaves the ring as it was unless its copy failed. -/
theorem read_ring_iff (seen : Device) (map_umem : Bool) (buf count : ℕ) {r : Int × ReaderState}
    (h : st.pcan_chardev_read_seen seen map_umem services env buf count = some r)
    (hfail : r.1 ≤ 0) :
    SameUnread st.dev r.2.dev ↔ ¬ st.TextCopyFails seen map_umem services count := by
  have hsame := SameUnread.refl st.dev
  by_cases hin : PCAN_CHRDEV_MAX_BYTES_PER_READ < count ∧ PCAN_USB_STAGE_ONE_STARTED ≤ seen.stage
      ∧ wait_for_msgs services.wait seen = 0
  swap
  · obtain ⟨err, haway⟩ := st.read_seen_turned_away services env buf hin
    rw [haway] at h
    obtain rfl := Option.some.inj h
    exact iff_of_true hsame fun hfails => hin ⟨hfails.2.1, hfails.2.2.1, hfails.2.2.2.1⟩
  obtain ⟨hcount, hstage, hwait⟩ := hin
  rw [st.read_seen_of_wait map_umem env buf hcount hstage hwait] at h
  have hcount' : 80 < count := Int.ofNat_lt.mp hcount
  cases map_umem with
  | true =>
    have hnot : ¬ st.TextCopyFails seen true services count :=
      fun hfails => Bool.noConfusion hfails.1
    have hdev := st.map_user_readbuf_dev services buf
    rw [if_pos rfl] at h
    split at h
    · obtain rfl := Option.some.inj h
      refine iff_of_true ?_ hnot
      rw [hdev]
      exact hsame
    · have hmapped := read_mapped_fails _ env hcount' h hfail
      rw [hdev] at hmapped
      exact iff_of_true hmapped hnot
  | false =>
    obtain rfl := Option.some.inj h
    by_cases hsome : 0 < st.dev.rx_unread_cnt
    · have hcons := read_copied_consumes st services env buf hcount' hsome
      exact iff_of_false hcons.1
        (not_not.mpr ⟨rfl, hcount, hstage, hwait, hsome, hcons.2 hfail⟩)
    · -- emptied behind the wait
      have hempty : pcan_chardev_read_section count st.dev = (.error (-EAGAIN), st.dev) :=
        read_section_empty (not_lt.mp hsome)
      refine iff_of_true ?_ fun hfails => hsome hfails.2.2.2.2.1
      unfold ReaderState.read_copied pcan_chardev_read_text
      rw [hempty]
      exact hsame

/-- Whatever the wait has seen, in whatever ring there is behind it, and however the services
answer: a call of a reader that fails leaves the ring as it found it behind its wait, exactly
if it was not its copy to user space that failed. -/
theorem failed_reads_consume_iff (seen : Device) (arg : ℕ) (msg : Bytes) (map_umem : Bool)
    (buf count : ℕ) :
    ((st.ioctl_read_msg_seen seen services arg msg).1 < 0 →
        (SameUnread st.dev (st.ioctl_read_msg_seen seen services arg msg).2.dev
          ↔ ¬ st.MsgCopyFails seen services))
      ∧ ((st.ioctl_fd_recv_msgs_seen seen services env arg).1 < 0 →
        (SameUnread st.dev (st.ioctl_fd_recv_msgs_seen seen services env arg).2.dev
          ↔ ¬ st.MsgsCopyFails seen services arg))
      ∧ ∀ r, st.pcan_chardev_read_seen seen map_umem services env buf count = some r → r.1 ≤ 0 →
        (SameUnread st.dev r.2.dev ↔ ¬ st.TextCopyFails seen map_umem services count) :=
  ⟨read_msg_ring_iff st services seen arg msg, recv_msgs_ring_iff st services env seen arg,
    fun _ h => read_ring_iff st services env seen map_umem buf count h⟩

end

/-- An interrupted wait. -/
def Services.interrupted : Services := ⟨.block (-ERESTARTSYS) true, false, true, 1, 0⟩

/-- The count of a request cannot be read. -/
def Services.faulting : Services := ⟨.nonblock, true, true, 1, 0⟩

/-- With three messages unread, an interrupted wait and a request that cannot be read leave
them all there, as does a ring found empty behind a wait that saw three; a failing copy does
not. -/
theorem failed_reads_consume_iff_three_unread :
    SameUnread (reader_of 3).dev ((reader_of 3).ioctl_read_msg_seen (reader_of 3).d
        .interrupted 65536 fun _ => 0).2.dev
      ∧ SameUnread (reader_of 3).dev ((reader_of 3).ioctl_fd_recv_msgs_seen (reader_of 3).d
        .faulting read_env 65536).2.dev
      ∧ SameUnread (reader_of 0).dev ((reader_of 0).ioctl_read_msg_seen (reader_of 3).d
        (Services.leaving 0) 65536 fun _ => 0).2.dev
      ∧ ¬ SameUnread (reader_of 3).dev ((reader_of 3).ioctl_read_msg_seen (reader_of 3).d
        (Services.leaving 24) 65536 fun _ => 0).2.dev
      ∧ ∃ r, (reader_of 3).pcan_chardev_read_seen (reader_of 3).d false (Services.leaving 80)
        read_env 65536 81 = some r ∧ r.1 = 0 ∧ ¬ SameUnread (reader_of 3).dev r.2.dev := by
  have hwait : wait_for_msgs .nonblock (reader_of 3).d = 0 := by decide
  obtain ⟨hinterrupted, -, -⟩ := failed_reads_consume_iff (reader_of 3) .interrupted read_env
    (reader_of 3).d 65536 (fun _ => 0) false 65536 81
  obtain ⟨-, hfaulting, -⟩ := failed_reads_consume_iff (reader_of 3) .faulting read_env
    (reader_of 3).d 65536 (fun _ => 0) false 65536 81
  obtain ⟨hemptied, -, -⟩ := failed_reads_consume_iff (reader_of 0) (Services.leaving 0) read_env
    (reader_of 3).d 65536 (fun _ => 0) false 65536 81
  obtain ⟨hmsg, -, -⟩ := failed_reads_consume_iff (reader_of 3) (Services.leaving 24) read_env
    (reader_of 3).d 65536 (fun _ => 0) false 65536 81
  obtain ⟨-, -, htext⟩ := failed_reads_consume_iff (reader_of 3) (Services.leaving 80) read_env
    (reader_of 3).d 65536 (fun _ => 0) false 65536 81
  obtain ⟨r, hr, hnone⟩ : ∃ r, (reader_of 3).pcan_chardev_read_seen (reader_of 3).d false
      (Services.leaving 80) read_env 65536 81 = some r ∧ r.1 = 0 := ⟨_, rfl, by decide⟩
  refine ⟨?_, ?_, ?_, ?_, r, hr, hnone, ?_⟩
  · exact (hinterrupted (by decide)).mpr fun h => absurd h.1 (by decide)
  · exact (hfaulting (by decide)).mpr fun h => absurd h.2.1 (by decide)
  · exact (hemptied (by decide)).mpr fun h => absurd h.2.1 (by decide)
  · exact fun hsame => (hmsg (by decide)).mp hsame ⟨hwait, by decide, by decide⟩
  · exact fun hsame => (htext r hr hnone.le).mp hsame
      ⟨rfl, by decide, by decide, hwait, by decide, by decide⟩

/-- A bad address: `ioctl_read_msg` returns `-EFAULT` and the message is gone. -/
theorem failed_copy_consumes :
    ((reader_of 1).ioctl_read_msg (Services.leaving 24) 65536 fun _ => 0).1 = -EFAULT
      ∧ ((reader_of 1).ioctl_read_msg (Services.leaving 24) 65536 fun _ => 0).2.dev.rx_unread_cnt = 0
      ∧ ¬ SameUnread (reader_of 1).dev
        ((reader_of 1).ioctl_read_msg (Services.leaving 24) 65536 fun _ => 0).2.dev := by
  refine ⟨by decide, by decide, fun h => ?_⟩
  exact absurd h.count (by decide)

end DualPcanUsb
