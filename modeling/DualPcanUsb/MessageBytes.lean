/-
What the message requests reveal besides the messages.

`ioctl_read_msg` fills an object on the stack, `ioctl_fd_recv_msgs` a buffer that outlives
it, and both hand out every byte of theirs. What no member's store reached goes with it:
room between the members, members that are never set, and the end of `data` behind a short
payload. Two calls on the same messages hand out the same bytes exactly if their memories
agreed there.
-/
import DualPcanUsb.FailedReads

set_option autoImplicit false

namespace DualPcanUsb

open StructBytes

/-! ## The bytes that keep what they had -/

/-- Of a `pcan_ioctl_rd_msg_t` with `len` payload bytes: the end of `data`, and the room
behind `msg` and behind `remainder_usecs`. -/
def RdMsgKept (len i : ℕ) : Prop := (6 + len ≤ i ∧ i < 16) ∨ (22 ≤ i ∧ i < 24)

/-- Of a `pcanfd_ioctl_msg_t`: the room before `timestamp`, all of `ctrlr_data` and the room
behind it, and the end of `data`. -/
def FdMsgKept (len i : ℕ) : Prop :=
  (12 ≤ i ∧ i < 16) ∨ (32 ≤ i ∧ i < 40) ∨ (40 + len ≤ i ∧ i < 104)

/-- Of a `pcanfd_ioctl_msgs_t`: the room behind `count`, and what its entries keep. -/
def FdMsgsKept (msgs : List ChardevMsg) (i : ℕ) : Prop :=
  (4 ≤ i ∧ i < 8) ∨ ∃ j rx_msg, msgs[j]? = some rx_msg
    ∧ ∃ o, i = 8 + 104 * j + o ∧ FdMsgKept rx_msg.frame.can_dlc.toNat o

/-- The bytes that are stored in `pcan_ioctl_rd_msg_t`. -/
theorem rd_msg_covered_iff (rx_msg : ChardevMsg) (i : ℕ) :
    Covered (rd_msg_stores rx_msg) i
      ↔ i < 6 + rx_msg.frame.can_dlc.toNat ∨ (16 ≤ i ∧ i < 22) := by
  have hlen : (PcanRdMsg.receive rx_msg ⟨0, 0, 0, fun _ => 0, 0, 0⟩).len
      = rx_msg.frame.can_dlc := rfl
  simp only [rd_msg_stores, PcanRdMsg.stores, Covered, Store.Covers, hlen, List.mem_cons,
    List.not_mem_nil, or_false, exists_eq_or_imp, exists_eq_left, length_le_bytes,
    List.length_singleton, List.length_map, List.length_range]
  omega

/-- The bytes that are not stored are those behind the data and at the end. -/
theorem rd_msg_kept_iff {rx_msg : ChardevMsg} (hdlc : rx_msg.frame.can_dlc.toNat ≤ 8) {i : ℕ}
    (hi : i < sizeof_pcan_ioctl_rd_msg) :
    ¬ Covered (rd_msg_stores rx_msg) i ↔ RdMsgKept rx_msg.frame.can_dlc.toNat i := by
  rw [rd_msg_covered_iff, RdMsgKept]
  simp only [sizeof_pcan_ioctl_rd_msg] at hi
  omega

/-- The bytes that are stored in `pcanfd_ioctl_msg_t`. -/
theorem fd_msg_covered_iff (base : TimeBase) (rx_msg : ChardevMsg) (i : ℕ) :
    Covered (fd_msg_stores base rx_msg) i
      ↔ i < 12 ∨ (16 ≤ i ∧ i < 32) ∨ (40 ≤ i ∧ i < 40 + rx_msg.frame.can_dlc.toNat) := by
  have hlen : (PcanfdMsg.receive base rx_msg ⟨0, 0, 0, 0, 0, 0, fun _ => 0⟩).data_len.toNat
      = rx_msg.frame.can_dlc.toNat := BitVec.toNat_setWidth_of_le (by decide)
  simp only [fd_msg_stores, PcanfdMsg.stores, Covered, Store.Covers, hlen, List.mem_cons,
    List.not_mem_nil, or_false, exists_eq_or_imp, exists_eq_left, length_le_bytes,
    List.length_map, List.length_range]
  omega

/-- A byte of the list is stored to exactly if its entry stores to it. -/
theorem fd_list_covered_iff (base : TimeBase) (msgs : List ChardevMsg) (k i : ℕ) :
    Covered (fd_list_stores base k msgs) i
      ↔ ∃ j rx_msg, msgs[j]? = some rx_msg ∧ SIZE_OF_PCANFD_IOCTL_MSGS (k + j) ≤ i
        ∧ Covered (fd_msg_stores base rx_msg) (i - SIZE_OF_PCANFD_IOCTL_MSGS (k + j)) := by
  induction msgs generalizing k with
  | nil => simp [fd_list_stores, Covered]
  | cons rx_msg msgs ih =>
    rw [fd_list_stores, covered_append, covered_shift, ih (k + 1)]
    constructor
    · rintro (hfirst | ⟨j, rx_msg', hj, hcov⟩)
      · exact ⟨0, rx_msg, rfl, hfirst⟩
      · refine ⟨j + 1, rx_msg', hj, ?_⟩
        rwa [show k + (j + 1) = k + 1 + j by omega]
    · rintro ⟨j, rx_msg', hj, hcov⟩
      cases j with
      | zero =>
        obtain rfl := Option.some.inj hj
        exact .inl hcov
      | succ j =>
        refine .inr ⟨j, rx_msg', hj, ?_⟩
        rwa [show k + 1 + j = k + (j + 1) by omega]

/-- The bytes that are not stored, over the whole list of messages. -/
theorem fd_msgs_kept_iff (base : TimeBase) (count : u32) {msgs : List ChardevMsg}
    (hdlc : ∀ rx_msg ∈ msgs, rx_msg.frame.can_dlc.toNat ≤ 8) {i : ℕ}
    (hi : i < SIZE_OF_PCANFD_IOCTL_MSGS msgs.length) :
    ¬ Covered (fd_msgs_stores base count msgs) i ↔ FdMsgsKept msgs i := by
  have hsize : ∀ n, SIZE_OF_PCANFD_IOCTL_MSGS n = 8 + 104 * n := fun n => rfl
  have hcount : (count_store count).Covers i ↔ i < 4 := by
    simp [count_store, Store.Covers]
  rw [fd_msgs_stores, covered_cons, hcount, fd_list_covered_iff, not_or]
  simp only [Nat.zero_add, hsize, fd_msg_covered_iff] at hi ⊢
  constructor
  · rintro ⟨hbehind, hfree⟩
    by_cases hroom : i < 8
    · exact .inl ⟨by omega, hroom⟩
    -- the entry that the byte lies in
    obtain ⟨rx_msg, hmsg⟩ : ∃ rx_msg, msgs[(i - 8) / 104]? = some rx_msg :=
      ⟨_, List.getElem?_eq_getElem (by omega)⟩
    refine .inr ⟨(i - 8) / 104, rx_msg, hmsg, (i - 8) % 104, by omega, ?_⟩
    have hentry : ¬ _ := fun h => hfree ⟨(i - 8) / 104, rx_msg, hmsg, by omega, h⟩
    rw [FdMsgKept]
    omega
  · rintro (hroom | ⟨j, rx_msg, hmsg, o, rfl, hkept⟩)
    · refine ⟨by omega, ?_⟩
      rintro ⟨j, rx_msg, -, hle, -⟩
      omega
    · refine ⟨by omega, ?_⟩
      rintro ⟨j', rx_msg', hmsg', hle, hcov⟩
      have hlen := hdlc rx_msg (List.mem_of_getElem? hmsg)
      have hlen' := hdlc rx_msg' (List.mem_of_getElem? hmsg')
      rw [FdMsgKept] at hkept
      -- entries do not overlap
      obtain rfl : j' = j := by omega
      obtain rfl := Option.some.inj (hmsg'.symm.trans hmsg)
      omega

/-- The bytes that keep what they had lie in what is handed out. -/
theorem fdMsgsKept_lt {msgs : List ChardevMsg} {i : ℕ} (h : FdMsgsKept msgs i) :
    i < SIZE_OF_PCANFD_IOCTL_MSGS msgs.length := by
  have hsize : SIZE_OF_PCANFD_IOCTL_MSGS msgs.length = 8 + 104 * msgs.length := rfl
  rcases h with hroom | ⟨j, rx_msg, hmsg, o, rfl, hkept⟩
  · omega
  · obtain ⟨hj, -⟩ := List.getElem?_eq_some_iff.mp hmsg
    rw [FdMsgKept] at hkept
    omega

/-! ## What a call hands out -/

section

variable {st : ReaderState} {services : Services} {arg : ℕ}

/-- What `ioctl_read_msg` hands out when it succeeds: its object, with the oldest message
stored into it. -/
theorem read_msg_hands_out {rx_msg : ChardevMsg} {rest : List ChardevMsg} {msg : Bytes}
    (hcount : 0 ≤ st.dev.rx_unread_cnt ∧ st.dev.rx_unread_cnt ≤ 8)
    (hidx : 0 ≤ st.dev.rx_write_idx ∧ st.dev.rx_write_idx < 8)
    (hunread : st.dev.unread_msgs = rx_msg :: rest) (hcopied : services.not_copied = 0)
    (hok : (st.ioctl_read_msg services arg msg).1 = 0) :
    ∀ i < sizeof_pcan_ioctl_rd_msg, (st.ioctl_read_msg services arg msg).2.user (arg + i)
      = stored (rd_msg_stores rx_msg) msg i := by
  intro i hi
  unfold ReaderState.ioctl_read_msg ReaderState.ioctl_read_msg_seen at hok ⊢
  by_cases hwait : wait_for_msgs services.wait st.d = 0
  · simp only [hwait, ne_eq, not_true_eq_false, if_false]
    have hsection := read_section_front (by decide : (0 : Int) < 1) hcount hidx
      (unread_of_wait hwait)
    rw [hunread] at hsection
    change ioctl_read_msg_section st.dev = (.ok [rx_msg], _) at hsection
    unfold ReaderState.read_msg_copied
    rw [hsection, hcopied]
    dsimp only
    rw [copy_to_user_all, List.flatMap_singleton]
    exact apply_shown hi ..
  · simp only [hwait, ne_eq, not_false_eq_true, if_true] at hok

/-- The number of messages a request gets. -/
theorem cut_count_eq {asked : u32} (hcount : 0 ≤ st.dev.rx_unread_cnt ∧ st.dev.rx_unread_cnt ≤ 8) :
    (cut_count asked st.dev).toNat = (st.dev.unread_msgs.take asked.toNat).length := by
  have hall : st.dev.unread_msgs.length = st.dev.rx_unread_cnt.toNat := by
    rw [length_unread_msgs]
  have hunread : (BitVec.ofInt 32 st.dev.rx_unread_cnt).toNat = st.dev.rx_unread_cnt.toNat := by
    rw [BitVec.toNat_ofInt]
    omega
  rw [cut_count, List.length_take, hall]
  split
  · rename_i hgt
    rw [gt_iff_lt, BitVec.lt_def, hunread] at hgt
    rw [hunread, min_eq_right hgt.le]
  · rename_i hle
    rw [gt_iff_lt, BitVec.lt_def, hunread, not_lt] at hle
    rw [min_eq_left hle]

/-- What `ioctl_fd_recv_msgs` hands out when it succeeds: its buffer, with the messages taken
stored into it. -/
theorem recv_msgs_hands_out {env : ReadEnv}
    (hcount : 0 ≤ st.dev.rx_unread_cnt ∧ st.dev.rx_unread_cnt ≤ 8)
    (hidx : 0 ≤ st.dev.rx_write_idx ∧ st.dev.rx_write_idx < 8)
    (hcopied : services.not_copied = 0)
    (hok : (st.ioctl_fd_recv_msgs services env arg).1 = 0) :
    ∀ i < SIZE_OF_PCANFD_IOCTL_MSGS (st.dev.unread_msgs.take (st.asked arg).toNat).length,
      (st.ioctl_fd_recv_msgs services env arg).2.user (arg + i)
        = stored (count_store (st.asked arg) :: fd_msgs_stores env.base
            (cut_count (st.asked arg) st.dev) (st.dev.unread_msgs.take (st.asked arg).toNat))
            st.ioctl_rxmsgs i := by
  intro i hi
  unfold ReaderState.ioctl_fd_recv_msgs ReaderState.ioctl_fd_recv_msgs_seen at hok ⊢
  by_cases hwait : wait_for_msgs services.wait st.d = 0
  · simp only [hwait, ne_eq, not_true_eq_false, if_false] at hok ⊢
    cases hfault : services.get_user_fault with
    | true =>
      simp only [hfault, if_true] at hok
      exact absurd hok (by decide)
    | false =>
      by_cases hasked : st.asked arg = 0
      · simp only [hfault, hasked, if_true, Bool.false_eq_true, if_false] at hok
        exact absurd hok (by decide : -EINVAL ≠ 0)
      simp only [hasked, Bool.false_eq_true, if_false]
      have hsection := read_section_front (asked_pos hasked) hcount hidx (unread_of_wait hwait)
      change ioctl_fd_recv_msgs_section (st.asked arg) (st.get_count services arg).dev = _
        at hsection
      rw [Int.toNat_natCast] at hsection
      have hget : (st.get_count services arg).ioctl_rxmsgs
          = (count_store (st.asked arg)).apply st.ioctl_rxmsgs := by
        simp only [ReaderState.get_count, hfault, Bool.false_eq_true, if_false]
      unfold ReaderState.recv_msgs_copied
      rw [hsection, hcopied]
      dsimp only
      rw [copy_to_user_all, hget]
      rw [← cut_count_eq hcount] at hi
      exact apply_shown hi ..
  · simp only [hwait, ne_eq, not_false_eq_true, if_true] at hok

end

/-! ## Two runs -/

/-- Two successful calls on the same messages, one for each request. `ioctl_read_msg` hands
out the same bytes exactly if its objects agreed on the bytes a message of that length
keeps, and `ioctl_fd_recv_msgs` exactly if its buffers agreed on those its messages keep. -/
theorem message_ioctls_reveal_iff {st st' : ReaderState} {services : Services} {env : ReadEnv}
    {arg : ℕ} {msg msg' : Bytes} {rx_msg : ChardevMsg} {rest : List ChardevMsg}
    (hcount : 0 ≤ st.dev.rx_unread_cnt ∧ st.dev.rx_unread_cnt ≤ 8)
    (hidx : 0 ≤ st.dev.rx_write_idx ∧ st.dev.rx_write_idx < 8)
    (hunread : st.dev.unread_msgs = rx_msg :: rest)
    (hdlc : ∀ m ∈ st.dev.unread_msgs, m.frame.can_dlc.toNat ≤ 8)
    (hsame : SameUnread st.dev st'.dev) (hasked : st'.asked arg = st.asked arg)
    (hcopied : services.not_copied = 0) :
    ((st.ioctl_read_msg services arg msg).1 = 0 → (st'.ioctl_read_msg services arg msg').1 = 0 →
      ((∀ i < sizeof_pcan_ioctl_rd_msg,
          (st.ioctl_read_msg services arg msg).2.user (arg + i)
            = (st'.ioctl_read_msg services arg msg').2.user (arg + i))
        ↔ ∀ i, RdMsgKept rx_msg.frame.can_dlc.toNat i → msg i = msg' i))
    ∧ ((st.ioctl_fd_recv_msgs services env arg).1 = 0 →
        (st'.ioctl_fd_recv_msgs services env arg).1 = 0 →
      ((∀ i < SIZE_OF_PCANFD_IOCTL_MSGS (st.dev.unread_msgs.take (st.asked arg).toNat).length,
          (st.ioctl_fd_recv_msgs services env arg).2.user (arg + i)
            = (st'.ioctl_fd_recv_msgs services env arg).2.user (arg + i))
        ↔ ∀ i, FdMsgsKept (st.dev.unread_msgs.take (st.asked arg).toNat) i →
          st.ioctl_rxmsgs i = st'.ioctl_rxmsgs i)) := by
  have hcount' : 0 ≤ st'.dev.rx_unread_cnt ∧ st'.dev.rx_unread_cnt ≤ 8 := hsame.count ▸ hcount
  have hidx' : 0 ≤ st'.dev.rx_write_idx ∧ st'.dev.rx_write_idx < 8 := hsame.idx ▸ hidx
  constructor
  · intro hok hok'
    have hout := read_msg_hands_out hcount hidx hunread hcopied hok
    have hout' := read_msg_hands_out hcount' hidx' (hsame.unread.trans hunread) hcopied hok'
    have hlen : rx_msg.frame.can_dlc.toNat ≤ 8 :=
      hdlc rx_msg (by rw [hunread]; exact List.mem_cons_self)
    refine handed_eq_iff hout hout' (fun i hi => rd_msg_kept_iff hlen hi) (fun i hi => ?_)
    simp only [RdMsgKept, sizeof_pcan_ioctl_rd_msg] at hi ⊢
    omega
  · intro hok hok'
    have hout := recv_msgs_hands_out hcount hidx hcopied hok
    have hout' := recv_msgs_hands_out hcount' hidx' hcopied hok'
    have hcut : cut_count (st.asked arg) st'.dev = cut_count (st.asked arg) st.dev := by
      rw [cut_count, cut_count, hsame.count]
    have hlen : ∀ m ∈ st.dev.unread_msgs.take (st.asked arg).toNat,
        m.frame.can_dlc.toNat ≤ 8 := fun m hm => hdlc m (List.mem_of_mem_take hm)
    rw [hasked, hsame.unread, hcut] at hout'
    refine handed_eq_iff hout hout' (fun i hi => ?_) (fun i hi => ?_)
    · -- the count is stored to twice
      rw [← fd_msgs_kept_iff env.base (cut_count (st.asked arg) st.dev) hlen hi, covered_cons,
        fd_msgs_stores, covered_cons]
      simp only [count_store, Store.Covers, length_le_bytes]
      tauto
    · exact fdMsgsKept_lt hi

/-- A ring with one message of two bytes, as `0x11 0x22`. -/
def short_msg : ChardevMsg :=
  { hwtstamp := 0
    frame := { can_id := 0x123, can_dlc := 2, data := #v[0x11, 0x22, 0, 0, 0, 0, 0, 0] } }

def short_reader (ioctl_rxmsgs : Bytes) : ReaderState :=
  let st := reader_of 1
  { st.set_dev { ring_of 1 with rx_msgs := fun _ => short_msg } with ioctl_rxmsgs := ioctl_rxmsgs }

/-- A message of two bytes, with all zeros left before it and all ones. -/
theorem message_ioctls_reveal_iff_short :
    ((∀ i < sizeof_pcan_ioctl_rd_msg,
        ((short_reader fun _ => 0).ioctl_read_msg (Services.leaving 0) 65536 fun _ => 0).2.user
            (65536 + i)
          = ((short_reader fun _ => 0).ioctl_read_msg (Services.leaving 0) 65536
              fun _ => 0xff).2.user (65536 + i))
      ↔ ∀ i, RdMsgKept 2 i → (0 : u8) = 0xff)
    ∧ ((∀ i < SIZE_OF_PCANFD_IOCTL_MSGS 1,
        ((short_reader fun _ => 0).ioctl_fd_recv_msgs (Services.leaving 0) read_env 65536).2.user
            (65536 + i)
          = ((short_reader fun _ => 0xff).ioctl_fd_recv_msgs (Services.leaving 0) read_env
              65536).2.user (65536 + i))
      ↔ ∀ i, FdMsgsKept [short_msg] i → (0 : u8) = 0xff) := by
  have h := @message_ioctls_reveal_iff (short_reader fun _ => 0) (short_reader fun _ => 0xff)
    (Services.leaving 0) read_env 65536 (fun _ => 0) (fun _ => 0xff) short_msg []
    (by decide) (by decide) rfl (by decide) ⟨rfl, rfl, rfl⟩ rfl rfl
  exact ⟨h.1 (by decide) (by decide), h.2 (by decide) (by decide)⟩

/-- A message of eight bytes, all `0xaa`, that is read before. -/
def long_reader : ReaderState :=
  (reader_of 1).set_dev { ring_of 1 with
    rx_msgs := fun _ => { full_msg with
      frame := { full_msg.frame with data := Vector.replicate 8 0xaa } } }

/-- Behind the two bytes of the short message, `ioctl_fd_recv_msgs` hands out bytes of the
long one, and `ioctl_read_msg` what the stack held. -/
theorem earlier_payload_handed_out :
    let left := (long_reader.ioctl_fd_recv_msgs (Services.leaving 0) read_env 65536).2.ioctl_rxmsgs
    SameUnread (short_reader fun _ => 0).dev (short_reader left).dev
      ∧ ((short_reader fun _ => 0).ioctl_fd_recv_msgs (Services.leaving 0) read_env 65536).1 = 0
      ∧ ((short_reader left).ioctl_fd_recv_msgs (Services.leaving 0) read_env 65536).1 = 0
      ∧ ((short_reader fun _ => 0).ioctl_fd_recv_msgs (Services.leaving 0) read_env 65536).2.user
          (65536 + (8 + 42)) = 0
      ∧ ((short_reader left).ioctl_fd_recv_msgs (Services.leaving 0) read_env 65536).2.user
          (65536 + (8 + 42)) = 0xaa
      ∧ ((short_reader left).ioctl_read_msg (Services.leaving 0) 65536 fun _ => 0).1 = 0
      ∧ ((short_reader left).ioctl_read_msg (Services.leaving 0) 65536 fun _ => 0xff).1 = 0
      ∧ ((short_reader left).ioctl_read_msg (Services.leaving 0) 65536 fun _ => 0).2.user
          (65536 + 8) = 0
      ∧ ((short_reader left).ioctl_read_msg (Services.leaving 0) 65536 fun _ => 0xff).2.user
          (65536 + 8) = 0xff :=
  ⟨⟨rfl, rfl, rfl⟩, by decide, by decide, by decide, by decide, by decide, by decide, by decide,
    by decide⟩

end DualPcanUsb
