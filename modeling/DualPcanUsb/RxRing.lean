/-
The character device's receive ring: one producer, three readers.

`decode_data` samples the ring's counters without the lock, fills the slot it
found free, and commits index and count under the lock; it works from its sample
throughout. `pcan_chardev_read`, `ioctl_read_msg` and `ioctl_fd_recv_msgs` each
take a batch of messages in one locked section. The machine below interleaves
these steps in any order, with one completion at a time, and remembers what was
accepted and what was taken.

Readers only lower the count and never move the write index, so a sample stays
good: the sampled slot is outside the unread ones until the commit, and there is
room for one more.
-/
import DualPcanUsb.DataRecord
import DualPcanUsb.PacketLoop
import DualPcanUsb.Lib.RingWindow
import DualPcanUsb.Lib.Runs

set_option autoImplicit false

namespace DualPcanUsb

open RingWindow

/-! ## The readers' locked sections

What a section does with the messages (formatting, copying) is left out; it
returns them. -/

def pcan_chardev_calc_rx_read_index (write_index unread_msgs : Int) : Int :=
  (write_index + PCAN_CHRDEV_MAX_RX_BUF_COUNT - unread_msgs).tmod PCAN_CHRDEV_MAX_RX_BUF_COUNT

/-- The loop over `msgs_to_read` slots. -/
def Chardev.read_msgs (dev : Chardev) (read_index : Int) : ℕ → List ChardevMsg
  | 0 => []
  | n + 1 =>
    dev.rx_msgs read_index
      :: dev.read_msgs ((read_index + 1).tmod PCAN_CHRDEV_MAX_RX_BUF_COUNT) n

/-- The section all three readers have: take as many messages as are wanted and
there. -/
def read_section (msgs_to_read : Int) (dev : Chardev) : Except Int (List ChardevMsg) × Chardev :=
  let unread_msgs := dev.rx_unread_cnt
  let read_index := pcan_chardev_calc_rx_read_index dev.rx_write_idx unread_msgs
  if unread_msgs ≤ 0 then (.error (-EAGAIN), dev)
  else
    -- `count` may ask for more than there is
    let msgs_to_read := if msgs_to_read > unread_msgs then unread_msgs else msgs_to_read
    (.ok (dev.read_msgs read_index msgs_to_read.toNat),
      { dev with rx_unread_cnt := dev.rx_unread_cnt - msgs_to_read })

/-- Reached with `count` above one message's bytes only. The kernel caps `count`
below `2 ^ 31`, so the quotient fits its `int`. -/
def pcan_chardev_read_section (count : ℕ) (dev : Chardev) :
    Except Int (List ChardevMsg) × Chardev :=
  let max : ℕ := PCAN_CHRDEV_MAX_BYTES_PER_READ.toNat
  read_section ((count / max : ℕ) + if count % max ≠ 0 then 0 else -1) dev

/-- One message. -/
def ioctl_read_msg_section (dev : Chardev) : Except Int (List ChardevMsg) × Chardev :=
  read_section 1 dev

/-- Reached with a nonzero `count` only. -/
def ioctl_fd_recv_msgs_section (count : u32) (dev : Chardev) :
    Except Int (List ChardevMsg) × Chardev :=
  read_section count.toNat dev

/-! ## The machine -/

/-- Where the completion in progress is. -/
inductive Producer
  | idle
  | sampled (sample : RxSample)
  | filled (sample : RxSample) (msg : ChardevMsg)

/-- The receiver, its completion in progress, the messages put into the ring and
the messages taken out of it so far. -/
structure RingState where
  rx : RxState
  producer : Producer
  accepted : List ChardevMsg
  taken : List ChardevMsg

inductive RingAction
  | sample
  | fill (env : Env) (status_len : u8) (ctx : MsgContext)
  | commit
  | read (count : ℕ)
  | read_msg
  | fd_recv_msgs (count : u32)
  | elsewhere (fwd : Forwarder)

def RingState.dev (st : RingState) : Chardev := st.rx.fwd.char_dev

def RingState.set_dev (st : RingState) (dev : Chardev) : RingState :=
  { st with rx := { st.rx with fwd := { st.rx.fwd with char_dev := dev } } }

/-- A locked section of a reader. -/
def RingState.take_out (st : RingState)
    (section_ : Chardev → Except Int (List ChardevMsg) × Chardev) : RingState :=
  match section_ st.dev with
  | (.error _, dev) => st.set_dev dev
  | (.ok msgs, dev) => { st.set_dev dev with taken := st.taken ++ msgs }

/-- One step. `elsewhere` is the rest of the driver, which leaves the ring alone. -/
def RingState.step (st : RingState) : RingAction → Option RingState
  | .sample =>
    match st.producer with
    | .idle => some { st with producer := .sampled (decode_data_sample st.dev) }
    | _ => none
  | .fill env status_len ctx =>
    match st.producer with
    | .sampled sample =>
      match decode_data_fill env sample status_len ctx st.rx with
      | (.error _, _, rx) => some { st with rx := rx, producer := .idle }
      | (.ok msg, _, rx) => some { st with rx := rx, producer := .filled sample msg }
    | _ => none
  | .commit =>
    match st.producer with
    | .filled sample msg =>
      some { st.set_dev (decode_data_commit sample st.dev) with
        producer := .idle
        accepted := if sample.chardev_msg.isSome then st.accepted ++ [msg] else st.accepted }
    | _ => none
  | .read count =>
    if PCAN_CHRDEV_MAX_BYTES_PER_READ < count then
      some (st.take_out (pcan_chardev_read_section count))
    else none
  | .read_msg => some (st.take_out ioctl_read_msg_section)
  | .fd_recv_msgs count =>
    if count ≠ 0 then some (st.take_out (ioctl_fd_recv_msgs_section count)) else none
  | .elsewhere fwd =>
    some { st with rx := { st.rx with fwd := { fwd with char_dev := st.dev } } }

/-! ## The invariant -/

/-- The unread slots, oldest first. -/
def Chardev.unread_msgs (dev : Chardev) : List ChardevMsg :=
  window dev.rx_msgs 8 dev.rx_write_idx dev.rx_unread_cnt.toNat

theorem length_unread_msgs (dev : Chardev) :
    dev.unread_msgs.length = dev.rx_unread_cnt.toNat := RingWindow.length_window ..

/-- A sample that is still good: readers may have lowered the count since. Behind
an open that reset the ring, the index may be the old one, but the ring is empty. -/
structure RxSample.Good (sample : RxSample) (dev : Chardev) : Prop where
  nonneg : 0 ≤ sample.unread_count
  idx_range : 0 ≤ sample.rx_write_idx ∧ sample.rx_write_idx < 8
  count_le : dev.rx_unread_cnt ≤ sample.unread_count
  idx_eq : sample.rx_write_idx = dev.rx_write_idx ∨ dev.rx_unread_cnt = 0

/-- The completion in progress has a good sample, and its message in the slot. -/
def Producer.Good (dev : Chardev) : Producer → Prop
  | .idle => True
  | .sampled sample => sample.Good dev
  | .filled sample msg =>
    sample.Good dev ∧ ∀ idx, sample.chardev_msg = some idx → dev.rx_msgs idx = msg

structure RingInv (st : RingState) : Prop where
  count_range : 0 ≤ st.dev.rx_unread_cnt ∧ st.dev.rx_unread_cnt ≤ 8
  idx_range : 0 ≤ st.dev.rx_write_idx ∧ st.dev.rx_write_idx < 8
  opened : 1 ≤ st.dev.open_count
  history : st.accepted = st.taken ++ st.dev.unread_msgs
  producer_good : st.producer.Good st.dev

/-- The state a successful `pcan_chardev_open` leaves: an empty ring, possibly with
a completion in progress. -/
structure RingState.Opened (st : RingState) : Prop where
  rx_write_idx_eq : st.dev.rx_write_idx = 0
  rx_unread_cnt_eq : st.dev.rx_unread_cnt = 0
  opened : 1 ≤ st.dev.open_count
  accepted_eq : st.accepted = []
  taken_eq : st.taken = []
  producer_good : st.producer.Good st.dev

/-- A ring just opened has accepted nothing and handed out nothing. -/
theorem RingState.Opened.inv {st : RingState} (h : st.Opened) : RingInv st := by
  refine ⟨by rw [h.rx_unread_cnt_eq]; decide, by rw [h.rx_write_idx_eq]; decide, h.opened, ?_,
    h.producer_good⟩
  rw [h.accepted_eq, h.taken_eq, Chardev.unread_msgs, h.rx_unread_cnt_eq]
  rfl

/-- A slot is given out exactly if fewer than eight messages were unread. -/
theorem chardev_msg_eq {sample : RxSample} (hnonneg : 0 ≤ sample.unread_count) :
    sample.chardev_msg = if sample.unread_count < 8 then some sample.rx_write_idx else none := by
  unfold RxSample.chardev_msg
  by_cases hlt : sample.unread_count < 8
  · rw [if_pos hlt, if_neg]
    change ¬ (sample.unread_count < 0 ∨ sample.unread_count ≥ 8)
    omega
  · rw [if_neg hlt, if_pos]
    change sample.unread_count < 0 ∨ sample.unread_count ≥ 8
    omega

/-! ## Reading -/

/-- Reading on from an index is reading the window. -/
theorem read_msgs_eq (dev : Chardev) (n : ℕ) : ∀ read_index : Int, 0 ≤ read_index →
    dev.read_msgs read_index n = readFrom dev.rx_msgs 8 read_index n := by
  induction n with
  | zero => exact fun _ _ => rfl
  | succ n ih =>
    intro read_index hnonneg
    have hmod : (read_index + 1).tmod PCAN_CHRDEV_MAX_RX_BUF_COUNT = (read_index + 1) % (8 : ℕ) :=
      Int.tmod_eq_emod_of_nonneg (by omega)
    rw [Chardev.read_msgs, readFrom, hmod, ih _ (Int.emod_nonneg _ (by decide))]

/-- What a section does: nothing, or it takes some messages from the front of the
unread ones. -/
structure TakesFront (dev : Chardev) (result : Except Int (List ChardevMsg) × Chardev) : Prop where
  msgs_eq : result.2.rx_msgs = dev.rx_msgs
  idx_eq : result.2.rx_write_idx = dev.rx_write_idx
  open_eq : result.2.open_count = dev.open_count
  count_range : 0 ≤ result.2.rx_unread_cnt ∧ result.2.rx_unread_cnt ≤ dev.rx_unread_cnt
  unread_eq : dev.unread_msgs = (match result.1 with
    | .error _ => []
    | .ok msgs => msgs) ++ result.2.unread_msgs

/-- A reader's section takes messages from the front. -/
theorem read_section_takesFront {msgs_to_read : Int} (hwant : 0 ≤ msgs_to_read) {dev : Chardev}
    (hcount : 0 ≤ dev.rx_unread_cnt ∧ dev.rx_unread_cnt ≤ 8)
    (hidx : 0 ≤ dev.rx_write_idx ∧ dev.rx_write_idx < 8) :
    TakesFront dev (read_section msgs_to_read dev) := by
  unfold read_section
  dsimp only
  by_cases hempty : dev.rx_unread_cnt ≤ 0
  · rw [if_pos hempty]
    exact ⟨rfl, rfl, rfl, ⟨hcount.1, le_rfl⟩, rfl⟩
  rw [if_neg hempty]
  -- call the number of messages taken `n`
  generalize hn : (if msgs_to_read > dev.rx_unread_cnt then dev.rx_unread_cnt else msgs_to_read)
    = n
  have hrange : 0 ≤ n ∧ n ≤ dev.rx_unread_cnt := by
    rw [← hn]
    split <;> omega
  refine ⟨rfl, rfl, rfl, by dsimp only; omega, ?_⟩
  -- the derived read index is the oldest slot's
  have hindex : pcan_chardev_calc_rx_read_index dev.rx_write_idx dev.rx_unread_cnt
      = (dev.rx_write_idx - dev.rx_unread_cnt.toNat) % (8 : ℕ) := by
    unfold pcan_chardev_calc_rx_read_index
    rw [Int.tmod_eq_emod_of_nonneg
      (by change 0 ≤ dev.rx_write_idx + 8 - dev.rx_unread_cnt; omega)]
    change (dev.rx_write_idx + 8 - dev.rx_unread_cnt) % 8
      = (dev.rx_write_idx - dev.rx_unread_cnt.toNat) % 8
    omega
  have hle : n.toNat ≤ dev.rx_unread_cnt.toNat := by omega
  have hsub : (dev.rx_unread_cnt - n).toNat = dev.rx_unread_cnt.toNat - n.toNat := by omega
  dsimp only [Chardev.unread_msgs]
  rw [hsub, window_sub _ _ _ hle, hindex, read_msgs_eq _ _ _ (Int.emod_nonneg _ (by decide)),
    readFrom_eq_take _ _ _ hle, List.take_append_drop]

/-! ## Filling and committing -/

/-- The part of `decode_data` before the lock writes at most the sampled slot, and
on success leaves the message there. -/
theorem DataFill.ring {env : Env} {sample : RxSample} {status_len : u8} {ctx ctx' : MsgContext}
    {s s' : RxState} {result : Except Int ChardevMsg}
    (h : DataFill env sample status_len ctx s result ctx' s') :
    (s'.fwd.char_dev = s.fwd.char_dev
        ∧ ((∃ err, result = .error err) ∨ sample.chardev_msg = none))
      ∨ ∃ idx msg, sample.chardev_msg = some idx
        ∧ s'.fwd.char_dev = s.fwd.char_dev.set_slot idx msg
        ∧ ∀ msg', result = .ok msg' → msg' = msg := by
  cases h with
  | no_skb => exact .inl ⟨rfl, .inl ⟨_, rfl⟩⟩
  | skb_short => exact .inl ⟨rfl, .inl ⟨_, rfl⟩⟩
  | skb_fits _ _ _ _ _ _ _ _ _ _ hdev =>
    cases hslot : sample.chardev_msg with
    | none => rw [hslot] at hdev; exact .inl ⟨hdev, .inr rfl⟩
    | some idx =>
      rw [hslot] at hdev
      exact .inr ⟨idx, _, rfl, hdev, fun msg' hmsg => (Except.ok.inj hmsg).symm⟩
  | refused _ _ err => exact .inl ⟨rfl, .inl ⟨err, rfl⟩⟩
  | slot_short _ hslot _ _ _ msg =>
    exact .inr ⟨_, msg, hslot, rfl, fun msg' hmsg => by cases hmsg⟩
  | slot_fits _ hslot => exact .inr ⟨_, _, hslot, rfl, fun msg' hmsg => (Except.ok.inj hmsg).symm⟩

/-- With a good sample, writing the sampled slot changes no unread one. -/
theorem unread_msgs_set_slot {sample : RxSample} {dev : Chardev} (hgood : sample.Good dev)
    (hidx : 0 ≤ dev.rx_write_idx ∧ dev.rx_write_idx < 8) {idx : Int}
    (hslot : sample.chardev_msg = some idx) (msg : ChardevMsg) :
    (dev.set_slot idx msg).unread_msgs = dev.unread_msgs := by
  rw [chardev_msg_eq hgood.nonneg] at hslot
  split at hslot
  · rename_i hroom
    obtain rfl := Option.some.inj hslot
    have hcount := hgood.count_le
    have hlt : dev.rx_unread_cnt.toNat < 8 := by omega
    rcases hgood.idx_eq with heq | hempty
    · rw [heq]
      exact window_update dev.rx_msgs hidx.1 hidx.2 hlt msg
    -- an open has emptied the ring since the sample, so no slot is unread
    · unfold Chardev.unread_msgs
      rw [show (dev.set_slot sample.rx_write_idx msg).rx_unread_cnt = 0 from hempty, hempty]
      rfl
  · cases hslot

/-- The commit appends the message in the sampled slot. -/
theorem unread_msgs_commit {sample : RxSample} {dev : Chardev} (hgood : sample.Good dev)
    (hcount : 0 ≤ dev.rx_unread_cnt) {idx : Int} (hslot : sample.chardev_msg = some idx) :
    (decode_data_commit sample dev).unread_msgs = dev.unread_msgs ++ [dev.rx_msgs idx] := by
  obtain ⟨hlo, hhi⟩ := hgood.idx_range
  have hidx : idx = sample.rx_write_idx := by
    rw [chardev_msg_eq hgood.nonneg] at hslot
    split at hslot
    · exact (Option.some.inj hslot).symm
    · cases hslot
  subst hidx
  -- the window before the sampled index is the one before the current index
  have hwindow : window dev.rx_msgs 8 sample.rx_write_idx dev.rx_unread_cnt.toNat
      = dev.unread_msgs := by
    rcases hgood.idx_eq with heq | hempty
    · rw [heq]; rfl
    · rw [Chardev.unread_msgs, hempty]; rfl
  have hmod : (sample.rx_write_idx + 1).tmod PCAN_CHRDEV_MAX_RX_BUF_COUNT
      = (sample.rx_write_idx + 1) % (8 : ℕ) := Int.tmod_eq_emod_of_nonneg (by omega)
  have hsucc : (dev.rx_unread_cnt + 1).toNat = dev.rx_unread_cnt.toNat + 1 := by omega
  unfold decode_data_commit
  rw [hslot]
  change window dev.rx_msgs 8 ((sample.rx_write_idx + 1).tmod PCAN_CHRDEV_MAX_RX_BUF_COUNT)
    (dev.rx_unread_cnt + 1).toNat = _
  rw [hmod, hsucc, window_push _ hlo hhi, hwindow]

/-- The write index stays in the ring. -/
theorem commit_idx_range {sample : RxSample} {dev : Chardev} (hgood : sample.Good dev)
    (hidx : 0 ≤ dev.rx_write_idx ∧ dev.rx_write_idx < 8) :
    0 ≤ (decode_data_commit sample dev).rx_write_idx
      ∧ (decode_data_commit sample dev).rx_write_idx < 8 := by
  unfold decode_data_commit
  rw [chardev_msg_eq hgood.nonneg]
  split
  · exact hidx
  · rename_i idx hslot
    split at hslot
    · obtain rfl := Option.some.inj hslot
      have hrange := hgood.idx_range
      change 0 ≤ (sample.rx_write_idx + 1).tmod 8 ∧ (sample.rx_write_idx + 1).tmod 8 < 8
      rw [Int.tmod_eq_emod_of_nonneg (by omega)]
      omega
    · cases hslot

/-! ## Every step keeps the invariant -/

/-- Readers keep a sample good. -/
theorem RxSample.Good.of_takesFront {sample : RxSample} {dev : Chardev}
    {result : Except Int (List ChardevMsg) × Chardev} (h : sample.Good dev)
    (htake : TakesFront dev result) : sample.Good result.2 := by
  refine ⟨h.nonneg, h.idx_range, htake.count_range.2.trans h.count_le, ?_⟩
  rw [htake.idx_eq]
  rcases h.idx_eq with heq | hempty
  · exact .inl heq
  · have hrange := htake.count_range
    exact .inr (by omega)

/-- What a reader takes moves from the unread to those taken. -/
theorem ringInv_take_out {st : RingState} (hinv : RingInv st)
    {section_ : Chardev → Except Int (List ChardevMsg) × Chardev}
    (htake : TakesFront st.dev (section_ st.dev)) : RingInv (st.take_out section_) := by
  have hcount := hinv.count_range
  obtain ⟨hmsgs, hidx, hopen, hrange, hunread⟩ := id htake
  -- the completion in progress does not notice the reader
  have hproducer : st.producer.Good (section_ st.dev).2 := by
    have hgood := hinv.producer_good
    cases hp : st.producer with
    | idle => trivial
    | sampled sample =>
      rw [hp] at hgood
      exact RxSample.Good.of_takesFront hgood htake
    | filled sample msg =>
      rw [hp] at hgood
      exact ⟨hgood.1.of_takesFront htake, fun idx hslot => by rw [hmsgs]; exact hgood.2 idx hslot⟩
  have hhistory := hinv.history
  unfold RingState.take_out
  generalize section_ st.dev = result at hmsgs hidx hopen hrange hunread hproducer
  obtain ⟨outcome, dev⟩ := result
  dsimp only at hmsgs hidx hopen hrange hunread hproducer
  -- what was taken moves from the unread messages to the taken ones
  rw [hunread] at hhistory
  have hidx' : 0 ≤ dev.rx_write_idx ∧ dev.rx_write_idx < 8 := by
    rw [hidx]; exact hinv.idx_range
  cases outcome with
  | error err =>
    exact ⟨⟨hrange.1, hrange.2.trans hcount.2⟩, hidx', hopen ▸ hinv.opened, hhistory, hproducer⟩
  | ok msgs =>
    exact ⟨⟨hrange.1, hrange.2.trans hcount.2⟩, hidx', hopen ▸ hinv.opened,
      hhistory.trans (List.append_assoc ..).symm, hproducer⟩

/-- A sample taken now is good. -/
theorem RingInv.sample_good {st : RingState} (hinv : RingInv st) :
    decode_data_sample st.dev = ⟨st.dev.rx_unread_cnt, st.dev.rx_write_idx⟩
      ∧ (decode_data_sample st.dev).Good st.dev := by
  have heq : decode_data_sample st.dev = ⟨st.dev.rx_unread_cnt, st.dev.rx_write_idx⟩ := by
    have hopen := hinv.opened
    rw [decode_data_sample, if_neg (by omega)]
  refine ⟨heq, ?_⟩
  rw [heq]
  exact ⟨hinv.count_range.1, hinv.idx_range, le_rfl, .inl rfl⟩

/-- A fill leaves the counters, the unread messages and the sample as they are. -/
theorem fill_keeps {env : Env} {sample : RxSample} {status_len : u8} {ctx ctx' : MsgContext}
    {s s' : RxState} {result : Except Int ChardevMsg}
    (h : DataFill env sample status_len ctx s result ctx' s')
    (hgood : sample.Good s.fwd.char_dev)
    (hidx : 0 ≤ s.fwd.char_dev.rx_write_idx ∧ s.fwd.char_dev.rx_write_idx < 8) :
    s'.fwd.char_dev.rx_unread_cnt = s.fwd.char_dev.rx_unread_cnt
      ∧ s'.fwd.char_dev.rx_write_idx = s.fwd.char_dev.rx_write_idx
      ∧ s'.fwd.char_dev.open_count = s.fwd.char_dev.open_count
      ∧ s'.fwd.char_dev.unread_msgs = s.fwd.char_dev.unread_msgs
      ∧ ∀ msg, result = .ok msg → ∀ idx, sample.chardev_msg = some idx →
          s'.fwd.char_dev.rx_msgs idx = msg := by
  rcases h.ring with ⟨hdev, hwhy⟩ | ⟨idx, msg, hslot, hdev, hmsg⟩
  · rw [hdev]
    refine ⟨rfl, rfl, rfl, rfl, fun msg hok idx hslot => ?_⟩
    -- nothing was written: the record failed, or no slot was sampled
    rcases hwhy with ⟨err, herr⟩ | hnone
    · rw [herr] at hok; cases hok
    · rw [hnone] at hslot; cases hslot
  · rw [hdev]
    refine ⟨rfl, rfl, rfl, unread_msgs_set_slot hgood hidx hslot msg, ?_⟩
    intro msg' hok idx' hslot'
    obtain rfl := Option.some.inj (hslot.symm.trans hslot')
    rw [hmsg msg' hok]
    exact Function.update_self ..

/-- The fill keeps the invariant, whether it ends the completion or goes on to the commit. -/
theorem ringInv_fill {st : RingState} (hinv : RingInv st) {sample : RxSample}
    (hsampled : st.producer = .sampled sample) {env : Env} {status_len : u8}
    {ctx ctx' : MsgContext} {result : Except Int ChardevMsg} {rx : RxState}
    (hfill : DataFill env sample status_len ctx st.rx result ctx' rx) :
    RingInv { st with rx := rx, producer := .idle }
      ∧ ∀ msg, result = .ok msg → RingInv { st with rx := rx, producer := .filled sample msg } := by
  obtain ⟨hcount, hidx, hopen, hhistory, hgood⟩ := hinv
  rw [hsampled] at hgood
  obtain ⟨hcnt, hw, hop, hunread, hmsg⟩ := fill_keeps hfill hgood hidx
  -- the fill touches no counter, so the sample stays good
  have hgood' : sample.Good rx.fwd.char_dev :=
    ⟨hgood.nonneg, hgood.idx_range, by rw [hcnt]; exact hgood.count_le,
      by rw [hcnt, hw]; exact hgood.idx_eq⟩
  have hhistory' : st.accepted = st.taken ++ rx.fwd.char_dev.unread_msgs := by
    rw [hunread]; exact hhistory
  exact ⟨⟨hcnt ▸ hcount, hw ▸ hidx, hop ▸ hopen, hhistory', trivial⟩,
    fun msg hok => ⟨hcnt ▸ hcount, hw ▸ hidx, hop ▸ hopen, hhistory', hgood', hmsg msg hok⟩⟩

/-- What is committed joins the unread at the end. -/
theorem ringInv_commit {st : RingState} (hinv : RingInv st) {sample : RxSample}
    {msg : ChardevMsg} (hfilled : st.producer = .filled sample msg) :
    RingInv { st.set_dev (decode_data_commit sample st.dev) with
      producer := .idle
      accepted := if sample.chardev_msg.isSome then st.accepted ++ [msg] else st.accepted } := by
  obtain ⟨hcount, hidx, hopen, hhistory, hgood⟩ := hinv
  rw [hfilled] at hgood
  obtain ⟨hgood, hmsg⟩ := hgood
  have hidx' := commit_idx_range hgood hidx
  have hopen' : 1 ≤ (decode_data_commit sample st.dev).open_count := by
    rw [commit_open_count]; exact hopen
  have hcnt := commit_unread sample st.dev
  cases hslot : sample.chardev_msg with
  | none =>
    -- the sample saw a full ring, and the message goes to the network only
    have hdev : decode_data_commit sample st.dev = st.dev := by
      rw [decode_data_commit, hslot]
    exact ⟨by rw [← hdev] at hcount; exact hcount, hidx', hopen',
      by rw [← hdev] at hhistory; exact hhistory, trivial⟩
  | some idx =>
    rw [hslot, Option.isSome_some, if_pos rfl] at hcnt
    -- readers only made room since
    have hroom : sample.unread_count < 8 := by
      by_contra hfull
      rw [chardev_msg_eq hgood.nonneg, if_neg hfull] at hslot
      cases hslot
    have hle := hgood.count_le
    refine ⟨?_, hidx', hopen', ?_, trivial⟩
    · change 0 ≤ (decode_data_commit sample st.dev).rx_unread_cnt
        ∧ (decode_data_commit sample st.dev).rx_unread_cnt ≤ 8
      rw [hcnt]
      omega
    · change st.accepted ++ [msg]
        = st.taken ++ (decode_data_commit sample st.dev).unread_msgs
      rw [unread_msgs_commit hgood hcount.1 hslot, hmsg idx hslot, hhistory,
        List.append_assoc]

/-- Every step of producer and readers. -/
theorem ringInv_step (st : RingState) (action : RingAction) (st' : RingState) (hinv : RingInv st)
    (hstep : st.step action = some st') : RingInv st' := by
  obtain ⟨hcount, hidx, hopen, hhistory, hgood⟩ := id hinv
  cases action with
  | sample =>
    rw [RingState.step] at hstep
    split at hstep
    · obtain rfl := Option.some.inj hstep
      exact ⟨hcount, hidx, hopen, hhistory, hinv.sample_good.2⟩
    · cases hstep
  | fill env status_len ctx =>
    rw [RingState.step] at hstep
    split at hstep
    · rename_i sample hsampled
      have hfill := decode_data_fill_cases env sample status_len ctx st.rx
      generalize decode_data_fill env sample status_len ctx st.rx = filled at hstep hfill
      obtain ⟨result, ctx', rx⟩ := filled
      obtain ⟨hfailed, hok⟩ := ringInv_fill hinv hsampled hfill
      cases result with
      | error err =>
        obtain rfl := Option.some.inj hstep
        exact hfailed
      | ok msg =>
        obtain rfl := Option.some.inj hstep
        exact hok msg rfl
    · cases hstep
  | commit =>
    rw [RingState.step] at hstep
    split at hstep
    · rename_i sample msg hfilled
      obtain rfl := Option.some.inj hstep
      exact ringInv_commit hinv hfilled
    · cases hstep
  | read count =>
    rw [RingState.step] at hstep
    obtain ⟨hlong, heq⟩ := Option.ite_none_right_eq_some.mp hstep
    obtain rfl := Option.some.inj heq
    refine ringInv_take_out hinv (read_section_takesFront ?_ hcount hidx)
    -- more than one message's bytes make at least one message
    change 0 ≤ ((count / 80 : ℕ) : Int) + if count % 80 ≠ 0 then 0 else -1
    have hbytes : (80 : Int) < count := hlong
    split <;> omega
  | read_msg =>
    obtain rfl := Option.some.inj hstep
    exact ringInv_take_out hinv (read_section_takesFront (by decide) hcount hidx)
  | fd_recv_msgs count =>
    rw [RingState.step] at hstep
    obtain ⟨-, heq⟩ := Option.ite_none_right_eq_some.mp hstep
    obtain rfl := Option.some.inj heq
    exact ringInv_take_out hinv (read_section_takesFront (Int.natCast_nonneg _) hcount hidx)
  | elsewhere fwd =>
    obtain rfl := Option.some.inj hstep
    exact ⟨hcount, hidx, hopen, hhistory, hgood⟩

/-- Without interleaving, the machine's steps are `decode_data`: the sample and the
fill, and the commit if the fill succeeded. -/
theorem run_decode_data (st : RingState) (hidle : st.producer = .idle) (env : Env)
    (status_len : u8) (ctx : MsgContext) :
    ∃ st', Runs.run RingState.step st ([.sample, .fill env status_len ctx]
        ++ if (decode_data env status_len ctx st.rx).1 = 0 then [.commit] else []) = some st'
      ∧ st'.rx = (decode_data env status_len ctx st.rx).2.2 ∧ st'.producer = .idle := by
  have hfill := decode_data_fill_cases env (decode_data_sample st.dev) status_len ctx st.rx
  have hsample : st.step .sample
      = some { st with producer := .sampled (decode_data_sample st.dev) } := by
    rw [RingState.step, hidle]
  cases hfilled : decode_data_fill env (decode_data_sample st.dev) status_len ctx st.rx with
  | mk result rest =>
    obtain ⟨ctx', rx⟩ := rest
    rw [hfilled] at hfill
    cases result with
    | error err =>
      have hdata : decode_data env status_len ctx st.rx = (err, ctx', rx) := by
        unfold decode_data
        rw [show decode_data_sample st.rx.fwd.char_dev = decode_data_sample st.dev from rfl]
        dsimp only
        rw [hfilled]
      -- a failed fill is not followed by a commit
      have hne : err ≠ 0 := by
        cases hfill with
        | refused _ _ _ herr => exact herr
        | _ => decide
      refine ⟨{ st with rx := rx, producer := .idle }, ?_, by rw [hdata], rfl⟩
      rw [hdata, if_neg hne, List.append_nil, Runs.run, hsample, Option.bind_some, Runs.run,
        RingState.step]
      dsimp only
      rw [hfilled]
      rfl
    | ok msg =>
      have hdata : decode_data env status_len ctx st.rx = (0, ctx', { rx with
          fwd := { rx.fwd with
            char_dev := decode_data_commit (decode_data_sample st.dev) rx.fwd.char_dev } }) := by
        unfold decode_data
        rw [show decode_data_sample st.rx.fwd.char_dev = decode_data_sample st.dev from rfl]
        dsimp only
        rw [hfilled]
      let st' : RingState :=
        { st with rx := rx, producer := .filled (decode_data_sample st.dev) msg }
      refine ⟨{ st'.set_dev (decode_data_commit (decode_data_sample st.dev) st'.dev) with
        producer := .idle
        accepted := if (decode_data_sample st.dev).chardev_msg.isSome then st.accepted ++ [msg]
          else st.accepted }, ?_, by rw [hdata]; rfl, rfl⟩
      rw [hdata, if_pos rfl, List.cons_append, List.cons_append, List.nil_append, Runs.run,
        hsample, Option.bind_some, Runs.run, RingState.step]
      dsimp only
      rw [hfilled]
      rfl

/-- The receive ring is a lossless queue. In every state a run from a successful
open reaches, the counters are in range, and the accepted messages are the taken
ones followed by the unread slots in order. A message whose record was decoded is
accepted exactly if the sample saw a free slot, and a record that fails changes no
unread slot. -/
theorem rx_ring_fifo (st₀ st : RingState) (actions : List RingAction) (hopen : st₀.Opened)
    (hrun : Runs.run RingState.step st₀ actions = some st) :
    (0 ≤ st.dev.rx_unread_cnt ∧ st.dev.rx_unread_cnt ≤ 8)
      ∧ (0 ≤ st.dev.rx_write_idx ∧ st.dev.rx_write_idx < 8)
      ∧ st.accepted = st.taken ++ st.dev.unread_msgs
      ∧ st.taken <+: st.accepted
      ∧ (∀ st', st.step .sample = some st' →
          st'.producer = .sampled ⟨st.dev.rx_unread_cnt, st.dev.rx_write_idx⟩)
      ∧ (∀ sample msg st', st.producer = .filled sample msg → st.step .commit = some st' →
          st'.accepted
            = if sample.unread_count < 8 then st.accepted ++ [msg] else st.accepted)
      ∧ (∀ sample env status_len ctx err ctx' rx', st.producer = .sampled sample →
          decode_data_fill env sample status_len ctx st.rx = (.error err, ctx', rx') →
          rx'.fwd.char_dev.unread_msgs = st.dev.unread_msgs) := by
  have hinv : RingInv st := Runs.run_invariant RingState.step ringInv_step hopen.inv hrun
  refine ⟨hinv.count_range, hinv.idx_range, hinv.history, ⟨_, hinv.history.symm⟩, ?_, ?_, ?_⟩
  · intro st' hstep
    rw [RingState.step] at hstep
    split at hstep
    · obtain rfl := Option.some.inj hstep
      rw [hinv.sample_good.1]
    · cases hstep
  · intro sample msg st' hfilled hstep
    have hgood := hinv.producer_good
    rw [hfilled] at hgood
    rw [RingState.step, hfilled] at hstep
    obtain rfl := Option.some.inj hstep
    rw [chardev_msg_eq hgood.1.nonneg]
    dsimp only
    by_cases hroom : sample.unread_count < 8
    · rw [if_pos hroom, if_pos hroom]; rfl
    · rw [if_neg hroom, if_neg hroom]; rfl
  · intro sample env status_len ctx err ctx' rx' hsampled hfail
    have hgood := hinv.producer_good
    rw [hsampled] at hgood
    have hfill := decode_data_fill_cases env sample status_len ctx st.rx
    rw [hfail] at hfill
    exact (fill_keeps hfill hgood hinv.idx_range).2.2.2.1

/-- The ring behind an open, with the network down. -/
def opened_ring : RingState :=
  ⟨{ RxState.idle false with
    fwd := { Forwarder.idle false with
      char_dev := { (Forwarder.idle false).char_dev with open_count := 1 } } }, .idle, [], []⟩

/-- A remote frame arrives; a reader takes it while the next one is being filled. -/
def two_arrivals : List RingAction :=
  let ctx := MsgContext.start (buffer [0, 1, 0x10, 0x20, 0x00, 0x34, 0x12]) 7
  [.sample, .fill Env.plenty 0x10 (ctx.take 1 1), .commit, .sample, .read 81,
    .fill Env.plenty 0x10 (ctx.take 1 1), .commit]

theorem rx_ring_fifo_two_arrivals :
    ∃ st, Runs.run RingState.step opened_ring two_arrivals = some st
      ∧ st.accepted = st.taken ++ st.dev.unread_msgs := by
  have hsome : (Runs.run RingState.step opened_ring two_arrivals).isSome = true := by decide
  obtain ⟨st, hrun⟩ := Option.isSome_iff_exists.mp hsome
  exact ⟨st, hrun, (rx_ring_fifo opened_ring st two_arrivals
    ⟨rfl, rfl, by decide, rfl, rfl, trivial⟩ hrun).2.2.1⟩

end DualPcanUsb
