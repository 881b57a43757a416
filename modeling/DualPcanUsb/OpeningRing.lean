/-
Opening the character device under traffic.

`pcan_chardev_open` empties the ring with three stores and without the lock, and with the
network interface up a record may be on its way meanwhile. The commit of a record is locked
against readers only, so the stores of an open may fall between its own. One order is bad:
both of the open's first stores between the commit's first two. The count then speaks of a
message that the index does not stand behind, and a reader gets what was left in the last
slot. In any other order a file reads exactly what was accepted since it was opened.
-/
import DualPcanUsb.RxRing

set_option autoImplicit false

namespace DualPcanUsb

/-! ## The stores of a commit -/

def commit_write_idx (idx : Int) (dev : Chardev) : Chardev :=
  { dev with rx_write_idx := (idx + 1).tmod PCAN_CHRDEV_MAX_RX_BUF_COUNT }

def commit_unread_cnt (dev : Chardev) : Chardev :=
  { dev with rx_unread_cnt := dev.rx_unread_cnt + 1 }

def commit_packets (dev : Chardev) : Chardev := { dev with rx_packets := dev.rx_packets + 1 }

/-- With nothing in between they are the section under the lock. -/
theorem decode_data_commit_stores {sample : RxSample} {idx : Int}
    (hslot : sample.chardev_msg = some idx) (dev : Chardev) :
    decode_data_commit sample dev
      = commit_packets (commit_unread_cnt (commit_write_idx idx dev)) := by
  unfold decode_data_commit
  rw [hslot]
  rfl

/-! ## The machine -/

/-- Where the completion in progress is. It samples with one read for each counter; the last
two hold the lock, with the index stored, and the count as well. -/
inductive Completing
  | idle
  | sees_open
  | sees_unread (unread_count : Int)
  | sampled (sample : RxSample)
  | filled (sample : RxSample) (msg : ChardevMsg)
  | indexed (sample : RxSample) (idx : Int) (msg : ChardevMsg)
  | counted

def Completing.locked : Completing → Bool
  | .indexed _ _ _ | .counted => true
  | _ => false

/-- The index that a commit has stored, until it counts its message. -/
def Completing.stored_idx : Completing → Option Int
  | .indexed _ idx _ => some ((idx + 1).tmod PCAN_CHRDEV_MAX_RX_BUF_COUNT)
  | _ => none

/-- Where the open is that found the device free, up to the file it opens. -/
inductive FileStage
  | closed | entered | index_reset | count_reset | opened
deriving DecidableEq, Repr

/-- The count has been reset, and not by an open before. -/
def FileStage.emptied : FileStage → Bool
  | .count_reset | .opened => true
  | _ => false

/-- What the open adds to `open_count`. -/
def FileStage.counts : FileStage → Int
  | .closed => 0
  | _ => 1

/-- The receiver, the file, the opens that found the device taken, and the messages counted
and taken since the count was reset. -/
structure OpeningRing where
  rx : RxState
  file : FileStage
  turned_away : ℕ
  producer : Completing
  accepted : List ChardevMsg
  taken : List ChardevMsg

inductive OpeningAction
  | sample
  | fill (env : Env) (status_len : u8) (ctx : MsgContext)
  | commit
  | open_
  | turn_away
  | reset
  | close
  | read (count : ℕ)
  | read_msg
  | fd_recv_msgs (count : u32)
  | elsewhere (fwd : Forwarder)

def OpeningRing.dev (st : OpeningRing) : Chardev := st.rx.fwd.char_dev

def OpeningRing.set_dev (st : OpeningRing) (dev : Chardev) : OpeningRing :=
  { st with rx := { st.rx with fwd := { st.rx.fwd with char_dev := dev } } }

/-- A locked section of a reader. -/
def OpeningRing.take_out (st : OpeningRing)
    (section_ : Chardev → Except Int (List ChardevMsg) × Chardev) : Option OpeningRing :=
  if st.file = .opened ∧ st.producer.locked = false then
    match section_ st.dev with
    | (.error _, dev) => some (st.set_dev dev)
    | (.ok msgs, dev) => some { st.set_dev dev with taken := st.taken ++ msgs }
  else none

/-- The next read of a sample. -/
def OpeningRing.sample (st : OpeningRing) : Option OpeningRing :=
  match st.producer with
  | .idle =>
    if st.dev.open_count < 1 then some { st with producer := .sees_unread (-ESHUTDOWN) }
    else some { st with producer := .sees_open }
  | .sees_open => some { st with producer := .sees_unread st.dev.rx_unread_cnt }
  | .sees_unread unread_count =>
    some { st with producer := .sampled ⟨unread_count, st.dev.rx_write_idx⟩ }
  | _ => none

/-- The next store of a commit. -/
def OpeningRing.commit (st : OpeningRing) : Option OpeningRing :=
  match st.producer with
  | .filled sample msg =>
    match sample.chardev_msg with
    | none => some { st with producer := .idle }
    | some idx =>
      some { st.set_dev (commit_write_idx idx st.dev) with producer := .indexed sample idx msg }
  | .indexed _ _ msg =>
    some { st.set_dev (commit_unread_cnt st.dev) with
      producer := .counted
      accepted := st.accepted ++ [msg] }
  | .counted => some { st.set_dev (commit_packets st.dev) with producer := .idle }
  | _ => none

/-- The next store of an open. -/
def OpeningRing.reset (st : OpeningRing) : Option OpeningRing :=
  match st.file with
  | .entered => some { st.set_dev { st.dev with rx_write_idx := 0 } with file := .index_reset }
  | .index_reset =>
    some { st.set_dev { st.dev with rx_unread_cnt := 0 } with
      file := .count_reset
      accepted := []
      taken := [] }
  | .count_reset => some { st.set_dev { st.dev with rx_packets := 0 } with file := .opened }
  | _ => none

def OpeningRing.step (st : OpeningRing) : OpeningAction → Option OpeningRing
  | .sample => st.sample
  | .fill env status_len ctx =>
    match st.producer with
    | .sampled sample =>
      match decode_data_fill env sample status_len ctx st.rx with
      | (.error _, _, rx) => some { st with rx := rx, producer := .idle }
      | (.ok msg, _, rx) => some { st with rx := rx, producer := .filled sample msg }
    | _ => none
  | .commit => st.commit
  | .open_ =>
    -- `atomic_inc_return`
    let open_count := st.dev.open_count + 1
    let st := st.set_dev { st.dev with open_count := open_count }
    if open_count > 1 then some { st with turned_away := st.turned_away + 1 }
    else some { st with file := .entered }
  | .turn_away =>
    if 0 < st.turned_away then
      some { st.set_dev { st.dev with open_count := st.dev.open_count - 1 } with
        turned_away := st.turned_away - 1 }
    else none
  | .reset => st.reset
  | .close =>
    -- a release, or an open that ends with a command that failed
    if st.file = .opened then
      some { st.set_dev { st.dev with open_count := st.dev.open_count - 1 } with file := .closed }
    else none
  | .read count =>
    if PCAN_CHRDEV_MAX_BYTES_PER_READ < count then
      st.take_out (pcan_chardev_read_section count)
    else none
  | .read_msg => st.take_out ioctl_read_msg_section
  | .fd_recv_msgs count =>
    if count ≠ 0 then st.take_out (ioctl_fd_recv_msgs_section count) else none
  | .elsewhere fwd =>
    some { st with rx := { st.rx with fwd := { fwd with char_dev := st.dev } } }

/-- Where an open resets the count, no commit is about to count a message whose index the open
has overwritten. -/
def OpeningRing.Untorn (st : OpeningRing) : OpeningAction → Prop
  | .reset => st.file = .index_reset → ∀ idx ∈ st.producer.stored_idx, st.dev.rx_write_idx = idx
  | _ => True

instance (st : OpeningRing) : DecidablePred st.Untorn := by
  intro action
  unfold OpeningRing.Untorn
  cases action <;> infer_instance

/-- With nothing in between, a sample's reads are `decode_data_sample`. -/
theorem run_sample {st : OpeningRing} (hidle : st.producer = .idle) :
    Runs.run OpeningRing.step st
        (if st.dev.open_count < 1 then [.sample, .sample] else [.sample, .sample, .sample])
      = some { st with producer := .sampled (decode_data_sample st.dev) } := by
  unfold decode_data_sample
  split
  · next hclosed =>
    rw [Runs.run, OpeningRing.step, OpeningRing.sample, hidle]
    dsimp only
    rw [if_pos hclosed]
    rfl
  · next hopen =>
    rw [Runs.run, OpeningRing.step, OpeningRing.sample, hidle]
    dsimp only
    rw [if_neg hopen]
    rfl

/-- And a commit's stores are `decode_data_commit`. -/
theorem run_commit {st : OpeningRing} {sample : RxSample} {msg : ChardevMsg} {idx : Int}
    (hfilled : st.producer = .filled sample msg) (hslot : sample.chardev_msg = some idx) :
    Runs.run OpeningRing.step st [.commit, .commit, .commit]
      = some { st.set_dev (decode_data_commit sample st.dev) with
          producer := .idle
          accepted := st.accepted ++ [msg] } := by
  rw [Runs.run, OpeningRing.step, OpeningRing.commit, hfilled]
  dsimp only
  rw [hslot, decode_data_commit_stores hslot]
  rfl

/-! ## The invariant -/

/-- A sample of which the slot is still free. -/
structure RxSample.Fits (sample : RxSample) (dev : Chardev) : Prop where
  nonneg : 0 ≤ sample.unread_count
  idx_range : 0 ≤ sample.rx_write_idx ∧ sample.rx_write_idx < 8
  count_le : dev.rx_unread_cnt ≤ sample.unread_count

/-- The index and the count that `sample` was taken of, or an empty ring since. -/
def OpeningRing.Ahead (st : OpeningRing) (sample : RxSample) : Prop :=
  st.file.emptied = true →
    sample.rx_write_idx = st.dev.rx_write_idx ∨ st.dev.rx_unread_cnt = 0

/-- What the completion in progress can rely on. -/
def OpeningRing.Relies (st : OpeningRing) : Completing → Prop
  | .idle | .sees_open | .counted => True
  | .sees_unread unread_count => 0 ≤ unread_count → st.dev.rx_unread_cnt ≤ unread_count
  | .sampled sample => ∀ idx, sample.chardev_msg = some idx →
    sample.Fits st.dev ∧ st.Ahead sample
  | .filled sample msg => ∀ idx, sample.chardev_msg = some idx →
    sample.Fits st.dev ∧ st.Ahead sample ∧ st.dev.rx_msgs idx = msg
  | .indexed sample idx msg => sample.chardev_msg = some idx ∧ sample.Fits st.dev
    ∧ st.dev.rx_msgs idx = msg

/-- The ring holds what was counted and not taken; with the index stored and not the count, it
does so in front of the index that the message was put at. -/
def OpeningRing.Keeps (st : OpeningRing) : Prop :=
  match st.producer with
  | .indexed _ idx _ =>
    st.dev.rx_write_idx = (idx + 1).tmod PCAN_CHRDEV_MAX_RX_BUF_COUNT
      ∧ st.accepted = st.taken ++ { st.dev with rx_write_idx := idx }.unread_msgs
  | _ => st.accepted = st.taken ++ st.dev.unread_msgs

structure OpeningInv (st : OpeningRing) : Prop where
  count_range : 0 ≤ st.dev.rx_unread_cnt ∧ st.dev.rx_unread_cnt ≤ 8
  idx_range : 0 ≤ st.dev.rx_write_idx ∧ st.dev.rx_write_idx < 8
  open_count_eq : st.dev.open_count = st.file.counts + st.turned_away
  relies : st.Relies st.producer
  keeps : st.file.emptied = true → st.Keeps

/-- A slot is given out if the ring had room when it was looked at. -/
theorem chardev_msg_eq_some {sample : RxSample} {idx : Int} (hslot : sample.chardev_msg = some idx) :
    0 ≤ sample.unread_count ∧ sample.unread_count < 8 ∧ idx = sample.rx_write_idx := by
  unfold RxSample.chardev_msg at hslot
  obtain ⟨hroom, heq⟩ := Option.ite_none_left_eq_some.mp hslot
  change ¬ (sample.unread_count < 0 ∨ sample.unread_count ≥ 8) at hroom
  rw [not_or, not_lt, not_le] at hroom
  exact ⟨hroom.1, hroom.2, (Option.some.inj heq).symm⟩

/-- With its index in place, the sample is good. -/
theorem RxSample.Fits.good {sample : RxSample} {dev : Chardev} (h : sample.Fits dev)
    (hahead : sample.rx_write_idx = dev.rx_write_idx ∨ dev.rx_unread_cnt = 0) :
    sample.Good dev := ⟨h.nonneg, h.idx_range, h.count_le, hahead⟩

theorem RxSample.Fits.of_count {sample : RxSample} {dev dev' : Chardev} (h : sample.Fits dev)
    (hcount : dev'.rx_unread_cnt ≤ dev.rx_unread_cnt) : sample.Fits dev' :=
  ⟨h.nonneg, h.idx_range, hcount.trans h.count_le⟩

/-- The count is never raised behind the completion's back, and the slots are left alone. -/
theorem OpeningRing.Relies.congr {st st' : OpeningRing} {producer : Completing}
    (h : st.Relies producer) (hmsgs : st'.dev.rx_msgs = st.dev.rx_msgs)
    (hcount : st'.dev.rx_unread_cnt ≤ st.dev.rx_unread_cnt)
    (hahead : ∀ sample, st.Ahead sample → st'.Ahead sample) : st'.Relies producer := by
  cases producer with
  | idle => trivial
  | sees_open => trivial
  | counted => trivial
  | sees_unread unread_count => exact fun hnonneg => hcount.trans (h hnonneg)
  | sampled sample =>
    intro idx hslot
    obtain ⟨hfits, hold⟩ := h idx hslot
    exact ⟨hfits.of_count hcount, hahead sample hold⟩
  | filled sample msg =>
    intro idx hslot
    obtain ⟨hfits, hold, hmsg⟩ := h idx hslot
    rw [hmsgs]
    exact ⟨hfits.of_count hcount, hahead sample hold, hmsg⟩
  | indexed sample idx msg =>
    obtain ⟨hslot, hfits, hmsg⟩ := h
    refine ⟨hslot, hfits.of_count hcount, ?_⟩
    rw [hmsgs]
    exact hmsg

/-- Outside the locked section the ring holds what it should. -/
theorem keeps_iff_of_unlocked {st : OpeningRing} (hunlocked : st.producer.locked = false) :
    st.Keeps ↔ st.accepted = st.taken ++ st.dev.unread_msgs := by
  unfold OpeningRing.Keeps
  cases hproducer : st.producer with
  | indexed =>
    rw [hproducer] at hunlocked
    cases hunlocked
  | _ => exact Iff.rfl

/-- Outside the lock, what was accepted has been taken or is unread. -/
theorem OpeningInv.history {st : OpeningRing} (h : OpeningInv st) {producer : Completing}
    (hproducer : st.producer = producer) (hunlocked : producer.locked = false)
    (hemptied : st.file.emptied = true) : st.accepted = st.taken ++ st.dev.unread_msgs := by
  subst hproducer
  exact (keeps_iff_of_unlocked hunlocked).mp (h.keeps hemptied)

/-! ## The completion's steps -/

/-- Reads of the counters change nothing. -/
theorem OpeningInv.sample {st st' : OpeningRing} (h : OpeningInv st)
    (hstep : st.sample = some st') : OpeningInv st' := by
  unfold OpeningRing.sample at hstep
  split at hstep
  · next hidle =>
    split at hstep
    · obtain rfl := Option.some.inj hstep
      -- a closed device is never sampled with a slot
      exact ⟨h.count_range, h.idx_range, h.open_count_eq,
        fun hnonneg => absurd hnonneg (by decide), h.history hidle rfl⟩
    · obtain rfl := Option.some.inj hstep
      exact ⟨h.count_range, h.idx_range, h.open_count_eq, trivial, h.history hidle rfl⟩
  · next hopen =>
    obtain rfl := Option.some.inj hstep
    exact ⟨h.count_range, h.idx_range, h.open_count_eq, fun _ => le_rfl, h.history hopen rfl⟩
  · next unread_count hunread =>
    obtain rfl := Option.some.inj hstep
    have hrelies := h.relies
    rw [hunread] at hrelies
    refine ⟨h.count_range, h.idx_range, h.open_count_eq, fun idx hslot => ?_,
      h.history hunread rfl⟩
    obtain ⟨hnonneg, -, -⟩ := chardev_msg_eq_some hslot
    exact ⟨⟨hnonneg, h.idx_range, hrelies hnonneg⟩, fun _ => .inl rfl⟩
  · cases hstep

/-- What a fill leaves: the counters, the unread messages, and a record that ended or whose
message is in its slot. -/
theorem OpeningInv.filled {st : OpeningRing} (h : OpeningInv st) {sample : RxSample}
    (hsampled : st.producer = .sampled sample) {rx : RxState} {producer : Completing}
    (hcount : rx.fwd.char_dev.rx_unread_cnt = st.dev.rx_unread_cnt)
    (hidx : rx.fwd.char_dev.rx_write_idx = st.dev.rx_write_idx)
    (hopen : rx.fwd.char_dev.open_count = st.dev.open_count)
    (hunread : st.file.emptied = true → rx.fwd.char_dev.unread_msgs = st.dev.unread_msgs)
    (hproducer : producer = .idle ∨ ∃ msg, producer = .filled sample msg
      ∧ ∀ idx, sample.chardev_msg = some idx → rx.fwd.char_dev.rx_msgs idx = msg) :
    OpeningInv { st with rx := rx, producer := producer } := by
  have hrelies := h.relies
  rw [hsampled] at hrelies
  have hkept : st.file.emptied = true → st.accepted = st.taken ++ rx.fwd.char_dev.unread_msgs :=
    fun hemptied => (hunread hemptied).symm ▸ h.history hsampled rfl hemptied
  rcases hproducer with rfl | ⟨msg, rfl, hmsg⟩
  · exact ⟨hcount ▸ h.count_range, hidx ▸ h.idx_range, hopen.trans h.open_count_eq, trivial, hkept⟩
  · refine ⟨hcount ▸ h.count_range, hidx ▸ h.idx_range, hopen.trans h.open_count_eq,
      fun idx hslot => ?_, hkept⟩
    obtain ⟨hfits, hahead⟩ := hrelies idx hslot
    refine ⟨hfits.of_count hcount.le, fun hemptied => ?_, hmsg idx hslot⟩
    exact (hahead hemptied).imp (·.trans hidx.symm) hcount.trans

/-- The slot being filled is not one of the unread. -/
theorem OpeningInv.fill {st : OpeningRing} (h : OpeningInv st) {sample : RxSample}
    (hsampled : st.producer = .sampled sample) {env : Env} {status_len : u8}
    {ctx ctx' : MsgContext} {result : Except Int ChardevMsg} {rx : RxState}
    (hfill : DataFill env sample status_len ctx st.rx result ctx' rx) :
    OpeningInv { st with rx := rx, producer := .idle }
      ∧ ∀ msg, result = .ok msg →
        OpeningInv { st with rx := rx, producer := .filled sample msg } := by
  rcases hfill.ring with ⟨hdev, hwhy⟩ | ⟨idx, msg, hslot, hdev, hmsg⟩
  · have hend := @OpeningInv.filled st h sample hsampled rx
    rw [hdev] at hend
    refine ⟨hend rfl rfl rfl (fun _ => rfl) (.inl rfl), fun msg hok =>
      hend rfl rfl rfl (fun _ => rfl) (.inr ⟨msg, rfl, fun idx hslot => ?_⟩)⟩
    -- nothing was written: the record failed, or no slot was sampled
    rcases hwhy with ⟨err, herr⟩ | hnone
    · rw [herr] at hok
      cases hok
    · rw [hnone] at hslot
      cases hslot
  · have hrelies := h.relies
    rw [hsampled] at hrelies
    obtain ⟨hfits, hahead⟩ := hrelies idx hslot
    have hunread : st.file.emptied = true →
        (st.dev.set_slot idx msg).unread_msgs = st.dev.unread_msgs := fun hemptied =>
      unread_msgs_set_slot (hfits.good (hahead hemptied)) h.idx_range hslot msg
    have hend := @OpeningInv.filled st h sample hsampled rx
    rw [hdev] at hend
    refine ⟨hend rfl rfl rfl hunread (.inl rfl), fun msg' hok =>
      hend rfl rfl rfl hunread (.inr ⟨msg', rfl, fun idx' hslot' => ?_⟩)⟩
    obtain rfl := Option.some.inj (hslot.symm.trans hslot')
    rw [hmsg msg' hok]
    exact Function.update_self ..

/-- The index goes past the message, and the count does not tell of it yet. -/
theorem OpeningInv.index {st : OpeningRing} (h : OpeningInv st) {sample : RxSample}
    {msg : ChardevMsg} (hfilled : st.producer = .filled sample msg) {idx : Int}
    (hslot : sample.chardev_msg = some idx) :
    OpeningInv { st.set_dev (commit_write_idx idx st.dev) with
      producer := .indexed sample idx msg } := by
  have hrelies := h.relies
  rw [hfilled] at hrelies
  obtain ⟨hfits, hahead, hmsg⟩ := hrelies idx hslot
  obtain ⟨-, -, rfl⟩ := chardev_msg_eq_some hslot
  refine ⟨h.count_range, ?_, h.open_count_eq, ⟨hslot, hfits.of_count le_rfl, hmsg⟩,
    fun hemptied => ⟨rfl, ?_⟩⟩
  · have hrange := hfits.idx_range
    change 0 ≤ (sample.rx_write_idx + 1).tmod 8 ∧ (sample.rx_write_idx + 1).tmod 8 < 8
    rw [Int.tmod_eq_emod_of_nonneg (by omega)]
    omega
  · change st.accepted
      = st.taken ++ Chardev.unread_msgs { st.dev with rx_write_idx := sample.rx_write_idx }
    rw [h.history hfilled rfl hemptied]
    rcases hahead hemptied with heq | hempty
    · rw [heq]
    · unfold Chardev.unread_msgs
      dsimp only
      rw [hempty]
      rfl

/-- With its count the message is accepted. -/
theorem OpeningInv.count {st : OpeningRing} (h : OpeningInv st) {sample : RxSample} {idx : Int}
    {msg : ChardevMsg} (hindexed : st.producer = .indexed sample idx msg) :
    OpeningInv { st.set_dev (commit_unread_cnt st.dev) with
      producer := .counted
      accepted := st.accepted ++ [msg] } := by
  have hrelies := h.relies
  have hkeeps := h.keeps
  unfold OpeningRing.Keeps at hkeeps
  rw [hindexed] at hrelies hkeeps
  obtain ⟨hslot, hfits, hmsg⟩ := hrelies
  obtain ⟨hnonneg, hroom, hidx⟩ := chardev_msg_eq_some hslot
  refine ⟨?_, h.idx_range, h.open_count_eq, trivial, fun hemptied => ?_⟩
  · have hrange := h.count_range
    have hle := hfits.count_le
    change 0 ≤ st.dev.rx_unread_cnt + 1 ∧ st.dev.rx_unread_cnt + 1 ≤ 8
    omega
  · obtain ⟨hindex, haccepted⟩ := hkeeps hemptied
    -- the device before the index was stored, but for what has been read since
    let dev : Chardev := { st.dev with rx_write_idx := idx }
    have hfits' : sample.Fits dev := hfits.of_count le_rfl
    have hgood : sample.Good dev := hfits'.good (.inl hidx.symm)
    have hdev : commit_write_idx idx dev = st.dev := by
      rw [commit_write_idx, ← hindex]
    have hcommit := unread_msgs_commit hgood h.count_range.1 hslot
    rw [decode_data_commit_stores hslot, hdev] at hcommit
    change st.accepted ++ [msg] = st.taken ++ (commit_unread_cnt st.dev).unread_msgs
    rw [haccepted, List.append_assoc, ← hmsg]
    exact congrArg (st.taken ++ ·) hcommit.symm

/-- The stores of a commit, one by one. -/
theorem OpeningInv.commit {st st' : OpeningRing} (h : OpeningInv st) (hstep : st.commit = some st') :
    OpeningInv st' := by
  unfold OpeningRing.commit at hstep
  split at hstep
  · next sample msg hfilled =>
    split at hstep
    · -- the sample saw a full ring, or no file
      obtain rfl := Option.some.inj hstep
      exact ⟨h.count_range, h.idx_range, h.open_count_eq, trivial, h.history hfilled rfl⟩
    · next idx hslot =>
      obtain rfl := Option.some.inj hstep
      exact h.index hfilled hslot
  · next hindexed =>
    obtain rfl := Option.some.inj hstep
    exact h.count hindexed
  · next hcounted =>
    obtain rfl := Option.some.inj hstep
    have hkeeps := h.keeps
    unfold OpeningRing.Keeps at hkeeps
    rw [hcounted] at hkeeps
    exact ⟨h.count_range, h.idx_range, h.open_count_eq, trivial, hkeeps⟩
  · cases hstep

/-! ## The file's steps -/

/-- Without a file, or in front of its reset of the count, nothing is kept of the ring. -/
theorem not_emptied_ahead {st : OpeningRing} (hfile : st.file.emptied = false)
    (sample : RxSample) : st.Ahead sample := by
  intro hemptied
  rw [hfile] at hemptied
  cases hemptied

/-- The stores of an open, one by one, if none tears a commit. -/
theorem OpeningInv.reset {st st' : OpeningRing} (h : OpeningInv st)
    (huntorn : st.Untorn .reset) (hstep : st.reset = some st') : OpeningInv st' := by
  have hopen := h.open_count_eq
  unfold OpeningRing.reset at hstep
  split at hstep
  · next hfile =>
    obtain rfl := Option.some.inj hstep
    rw [hfile] at hopen
    have hidx : (0 : Int) ≤ 0 ∧ (0 : Int) < 8 := by decide
    exact ⟨h.count_range, hidx, hopen,
      h.relies.congr rfl le_rfl fun sample _ => not_emptied_ahead rfl sample,
      fun hemptied => absurd hemptied Bool.false_ne_true⟩
  · next hfile =>
    obtain rfl := Option.some.inj hstep
    rw [hfile] at hopen
    have hcount : (0 : Int) ≤ 0 ∧ (0 : Int) ≤ 8 := by decide
    refine ⟨hcount, h.idx_range, hopen,
      h.relies.congr rfl h.count_range.1 fun _ _ _ => .inr rfl, fun _ => ?_⟩
    have huntorn' := huntorn hfile
    unfold OpeningRing.Keeps
    dsimp only
    split
    · next hindexed =>
      exact ⟨huntorn' _ (congrArg Completing.stored_idx hindexed), rfl⟩
    · rfl
  · next hfile =>
    obtain rfl := Option.some.inj hstep
    have hkeeps := h.keeps
    rw [hfile] at hopen hkeeps
    have hahead : ∀ sample, st.Ahead sample → sample.rx_write_idx = st.dev.rx_write_idx
        ∨ st.dev.rx_unread_cnt = 0 := by
      intro sample hold
      unfold OpeningRing.Ahead at hold
      rw [hfile] at hold
      exact hold rfl
    exact ⟨h.count_range, h.idx_range, hopen,
      h.relies.congr rfl le_rfl fun sample hold _ => hahead sample hold, fun _ => hkeeps rfl⟩
  · cases hstep

/-- An open counts before it looks, and goes on only with the device free. -/
theorem OpeningInv.open_ {st st' : OpeningRing} (h : OpeningInv st)
    (hstep : st.step .open_ = some st') : OpeningInv st' := by
  have hopen := h.open_count_eq
  rw [OpeningRing.step] at hstep
  dsimp only at hstep
  split at hstep
  · obtain rfl := Option.some.inj hstep
    refine ⟨h.count_range, h.idx_range, ?_, h.relies.congr rfl le_rfl fun _ hahead => hahead,
      h.keeps⟩
    change st.dev.open_count + 1 = st.file.counts + ((st.turned_away + 1 : ℕ) : Int)
    omega
  · next hfree =>
    obtain rfl := Option.some.inj hstep
    refine ⟨h.count_range, h.idx_range, ?_,
      h.relies.congr rfl le_rfl fun sample _ => not_emptied_ahead rfl sample,
      fun hemptied => absurd hemptied Bool.false_ne_true⟩
    have hcounts : 0 ≤ st.file.counts := by cases st.file <;> decide
    change st.dev.open_count + 1 = 1 + (st.turned_away : Int)
    omega

/-- A reader moves messages from the unread to those taken. -/
theorem OpeningInv.take_out {st st' : OpeningRing} (h : OpeningInv st)
    {section_ : Chardev → Except Int (List ChardevMsg) × Chardev}
    (htake : TakesFront st.dev (section_ st.dev)) (hstep : st.take_out section_ = some st') :
    OpeningInv st' := by
  unfold OpeningRing.take_out at hstep
  obtain ⟨⟨hfile, hunlocked⟩, hstep⟩ := Option.ite_none_right_eq_some.mp hstep
  have hopen := h.open_count_eq
  have hcount := h.count_range
  have hkept := h.keeps
  rw [hfile] at hkept hopen
  have haccepted : st.accepted = st.taken ++ st.dev.unread_msgs :=
    (keeps_iff_of_unlocked hunlocked).mp (hkept rfl)
  obtain ⟨hmsgs, hidx, hcounted, hrange, hunread⟩ := htake
  generalize section_ st.dev = result at hmsgs hidx hcounted hrange hunread hstep
  obtain ⟨outcome, dev⟩ := result
  dsimp only at hmsgs hidx hcounted hrange hunread hstep
  have hahead : ∀ sample, st.Ahead sample →
      sample.rx_write_idx = dev.rx_write_idx ∨ dev.rx_unread_cnt = 0 := by
    intro sample hold
    unfold OpeningRing.Ahead at hold
    rw [hfile] at hold
    rcases hold rfl with heq | hempty
    · exact .inl (heq.trans hidx.symm)
    · exact .inr (by omega)
  have hrange' : 0 ≤ dev.rx_unread_cnt ∧ dev.rx_unread_cnt ≤ 8 :=
    ⟨hrange.1, hrange.2.trans hcount.2⟩
  have hidx' : 0 ≤ dev.rx_write_idx ∧ dev.rx_write_idx < 8 := by
    rw [hidx]
    exact h.idx_range
  have hopen' : dev.open_count = st.file.counts + st.turned_away := by
    rw [hcounted, hfile]
    exact hopen
  -- what was taken moves from the unread messages to the taken ones
  rw [hunread] at haccepted
  cases outcome with
  | error err =>
    obtain rfl := Option.some.inj hstep
    have hkept' : (st.set_dev dev).Keeps :=
      (@keeps_iff_of_unlocked (st.set_dev dev) hunlocked).mpr haccepted
    exact ⟨hrange', hidx', hopen', h.relies.congr hmsgs hrange.2 fun sample hold _ =>
      hahead sample hold, fun _ => hkept'⟩
  | ok msgs =>
    obtain rfl := Option.some.inj hstep
    let st' : OpeningRing := { st.set_dev dev with taken := st.taken ++ msgs }
    have hkept' : st'.Keeps :=
      (@keeps_iff_of_unlocked st' hunlocked).mpr (haccepted.trans (List.append_assoc ..).symm)
    exact ⟨hrange', hidx', hopen', h.relies.congr hmsgs hrange.2 fun sample hold _ =>
      hahead sample hold, fun _ => hkept'⟩

/-- Every step of every party. -/
theorem openingInv_step (st : OpeningRing) (action : OpeningAction) (st' : OpeningRing)
    (h : OpeningInv st) (huntorn : st.Untorn action) (hstep : st.step action = some st') :
    OpeningInv st' := by
  have hopen := h.open_count_eq
  cases action with
  | sample => exact h.sample hstep
  | fill env status_len ctx =>
    rw [OpeningRing.step] at hstep
    split at hstep
    · next sample hsampled =>
      have hfill := decode_data_fill_cases env sample status_len ctx st.rx
      generalize decode_data_fill env sample status_len ctx st.rx = filled at hstep hfill
      obtain ⟨result, ctx', rx⟩ := filled
      obtain ⟨hfailed, hok⟩ := h.fill hsampled hfill
      cases result with
      | error err =>
        obtain rfl := Option.some.inj hstep
        exact hfailed
      | ok msg =>
        obtain rfl := Option.some.inj hstep
        exact hok msg rfl
    · cases hstep
  | commit => exact h.commit hstep
  | open_ => exact h.open_ hstep
  | turn_away =>
    obtain ⟨hsome, heq⟩ := Option.ite_none_right_eq_some.mp hstep
    obtain rfl := Option.some.inj heq
    refine ⟨h.count_range, h.idx_range, ?_, h.relies.congr rfl le_rfl fun _ hahead => hahead,
      h.keeps⟩
    change st.dev.open_count - 1 = st.file.counts + ((st.turned_away - 1 : ℕ) : Int)
    omega
  | reset => exact h.reset huntorn hstep
  | close =>
    obtain ⟨hfile, heq⟩ := Option.ite_none_right_eq_some.mp hstep
    obtain rfl := Option.some.inj heq
    refine ⟨h.count_range, h.idx_range, ?_,
      h.relies.congr rfl le_rfl fun sample _ => not_emptied_ahead rfl sample,
      fun hemptied => absurd hemptied Bool.false_ne_true⟩
    have hcounts : st.file.counts = 1 := by
      rw [hfile]
      rfl
    change st.dev.open_count - 1 = 0 + (st.turned_away : Int)
    omega
  | read count =>
    obtain ⟨hlong, heq⟩ := Option.ite_none_right_eq_some.mp hstep
    refine h.take_out (read_section_takesFront ?_ h.count_range h.idx_range) heq
    -- more than one message's bytes make at least one message
    change 0 ≤ ((count / 80 : ℕ) : Int) + if count % 80 ≠ 0 then 0 else -1
    have hbytes : (80 : Int) < count := hlong
    split <;> omega
  | read_msg =>
    exact h.take_out (read_section_takesFront (by decide) h.count_range h.idx_range) hstep
  | fd_recv_msgs count =>
    obtain ⟨-, heq⟩ := Option.ite_none_right_eq_some.mp hstep
    exact h.take_out
      (read_section_takesFront (Int.natCast_nonneg _) h.count_range h.idx_range) heq
  | elsewhere fwd =>
    obtain rfl := Option.some.inj hstep
    exact ⟨h.count_range, h.idx_range, hopen, h.relies.congr rfl le_rfl fun _ hahead => hahead,
      h.keeps⟩

/-! ## What a file reads -/

/-- A device that nobody has open, and no record on its way. -/
structure OpeningRing.Closed (st : OpeningRing) : Prop where
  count_range : 0 ≤ st.dev.rx_unread_cnt ∧ st.dev.rx_unread_cnt ≤ 8
  idx_range : 0 ≤ st.dev.rx_write_idx ∧ st.dev.rx_write_idx < 8
  open_count_eq : st.dev.open_count = 0
  file_eq : st.file = .closed
  turned_away_eq : st.turned_away = 0
  producer_eq : st.producer = .idle

/-- With no file open the ring may hold anything. -/
theorem OpeningRing.Closed.inv {st : OpeningRing} (h : st.Closed) : OpeningInv st := by
  refine ⟨h.count_range, h.idx_range, ?_, ?_, fun hemptied => ?_⟩
  · rw [h.open_count_eq, h.file_eq, h.turned_away_eq]
    rfl
  · rw [h.producer_eq]
    trivial
  · rw [h.file_eq] at hemptied
    cases hemptied

/-- However opens, releases, records and reads interleave, as long as no open tears a commit:
what the readers of an open file have taken, and what is left for them, is what was accepted
since the ring was emptied for that file. -/
theorem opened_file_reads_accepted (st₀ st : OpeningRing) (actions : List OpeningAction)
    (hclosed : st₀.Closed) (huntorn : Runs.Along OpeningRing.step OpeningRing.Untorn st₀ actions)
    (hrun : Runs.run OpeningRing.step st₀ actions = some st) (hopened : st.file = .opened)
    (hunlocked : st.producer.locked = false) :
    st.accepted = st.taken ++ st.dev.unread_msgs
      ∧ (0 ≤ st.dev.rx_unread_cnt ∧ st.dev.rx_unread_cnt ≤ 8) := by
  have hinv : OpeningInv st := Runs.run_invariant_along OpeningRing.step
    (fun st action st' => openingInv_step st action st') hclosed.inv huntorn hrun
  have hemptied : st.file.emptied = true := by
    rw [hopened]
    rfl
  exact ⟨(keeps_iff_of_unlocked hunlocked).mp (hinv.keeps hemptied), hinv.count_range⟩

/-- The ring of a device with the network interface up, behind an old file that left a message
unread. -/
def left_unread : OpeningRing where
  rx := { RxState.idle true with
    fwd := { Forwarder.idle true with
      char_dev := { (Forwarder.idle true).char_dev with rx_write_idx := 1, rx_unread_cnt := 1 } } }
  file := .closed
  turned_away := 0
  producer := .idle
  accepted := []
  taken := []

/-- A remote frame arrives while the device is opened; its index is stored between the stores
of the open, its count behind them. -/
def opened_under_traffic : List OpeningAction :=
  let ctx := MsgContext.start (buffer [0, 1, 0x10, 0x20, 0x00, 0x34, 0x12]) 7
  [.open_, .sample, .sample, .reset, .sample, .fill Env.plenty 0x10 (ctx.take 1 1), .commit,
    .reset, .commit, .reset, .commit, .read_msg]

theorem opened_file_reads_accepted_under_traffic :
    ∃ st, Runs.run OpeningRing.step left_unread opened_under_traffic = some st
      ∧ st.taken.length = 1 ∧ st.accepted = st.taken ++ st.dev.unread_msgs := by
  obtain ⟨st, hrun, hfile, hunlocked, htaken⟩ :
      ∃ st, Runs.run OpeningRing.step left_unread opened_under_traffic = some st
        ∧ st.file = .opened ∧ st.producer.locked = false ∧ st.taken.length = 1 :=
    Runs.exists_run_of_any OpeningRing.step (by decide)
  have hclosed : left_unread.Closed := ⟨by decide, by decide, rfl, rfl, rfl, rfl⟩
  exact ⟨st, hrun, htaken, (opened_file_reads_accepted left_unread st opened_under_traffic hclosed
    (by decide) hrun hfile hunlocked).1⟩

/-! ## The order that tears -/

/-- Both of the first stores of an open between the first two of a commit, and a read. -/
def torn_commit : List OpeningAction :=
  [.commit, .reset, .reset, .commit, .commit, .reset, .read_msg]

/-- Whatever message is on its way when an open gets in between, a reader of the file is given
the contents of the last slot in its place. -/
theorem torn_commit_reads_last_slot (st : OpeningRing) (sample : RxSample) (idx : Int)
    (msg : ChardevMsg) (hentered : st.file = .entered) (hfilled : st.producer = .filled sample msg)
    (hslot : sample.chardev_msg = some idx) :
    ∃ st', Runs.run OpeningRing.step st torn_commit = some st' ∧ st'.file = .opened
      ∧ st'.accepted = [msg] ∧ st'.taken = [st.dev.rx_msgs 7]
      ∧ st'.dev.rx_unread_cnt = 0 := by
  have hindex : st.step .commit = some { st.set_dev (commit_write_idx idx st.dev) with
      producer := .indexed sample idx msg } := by
    rw [OpeningRing.step, OpeningRing.commit, hfilled]
    dsimp only
    rw [hslot]
  have hrest : Runs.run OpeningRing.step st torn_commit = Runs.run OpeningRing.step
      { st.set_dev (commit_write_idx idx st.dev) with producer := .indexed sample idx msg }
      [.reset, .reset, .commit, .commit, .reset, .read_msg] := by
    rw [torn_commit, Runs.run, hindex]
    rfl
  obtain ⟨rx, file, turned_away, producer, accepted, taken⟩ := st
  dsimp only at hentered
  subst hentered
  exact ⟨_, hrest.trans rfl, rfl, rfl, rfl, rfl⟩

/-- An open has found the device free, and a remote frame is decoded. -/
def record_caught : List OpeningAction :=
  let ctx := MsgContext.start (buffer [0, 1, 0x10, 0x20, 0x00, 0x34, 0x12]) 7
  [.open_, .sample, .sample, .sample, .fill Env.plenty 0x10 (ctx.take 1 1)]

/-- The reader of the new file misses it. -/
theorem torn_commit_reads_last_slot_caught :
    ∃ st', Runs.run OpeningRing.step left_unread (record_caught ++ torn_commit) = some st'
      ∧ st'.taken = [left_unread.dev.rx_msgs 7]
      ∧ st'.accepted.map (fun msg => msg.frame.can_id)
        ≠ st'.taken.map fun msg => msg.frame.can_id := by
  obtain ⟨st, sample, msg, hrun, hentered, hfilled, hslot, hlast, hid⟩ :
      ∃ st sample msg, Runs.run OpeningRing.step left_unread record_caught = some st
        ∧ st.file = .entered ∧ st.producer = .filled sample msg ∧ sample.chardev_msg = some 1
        ∧ st.dev.rx_msgs 7 = left_unread.dev.rx_msgs 7 ∧ msg.frame.can_id ≠ 0 :=
    ⟨_, _, _, rfl, rfl, rfl, rfl, rfl, by decide⟩
  obtain ⟨st', hrun', -, haccepted, htaken, -⟩ :=
    torn_commit_reads_last_slot st sample 1 msg hentered hfilled hslot
  refine ⟨st', Runs.run_append OpeningRing.step hrun hrun', htaken.trans (by rw [hlast]), ?_⟩
  rw [haccepted, htaken, hlast]
  intro hsame
  exact hid (List.head_eq_of_cons_eq hsame)

end DualPcanUsb
