/-
What a read of the character stream delivers.

A read takes as many messages as its buffer has room for at eighty bytes each, with one
byte to spare, and returns their lines. `ReadText` has the formatting; here the number of
messages is worked out, in the types of the source, and the whole call is followed to the
user's buffer.
-/
import DualPcanUsb.ReaderCalls

set_option autoImplicit false

namespace DualPcanUsb

open StructBytes

/-! ## How many messages -/

/-- The limit the kernel puts on a count, `INT_MAX & PAGE_MASK`. -/
def MAX_RW_COUNT : ℕ := 2 ^ 31 - PAGE_SIZE

/-- The initialiser of `msgs_to_read` in the source's types: a sum of `size_t`s, cut to an
`int`. -/
def msgs_to_read (count : u64) : BitVec 32 :=
  (count / 80 + if count % 80 ≠ 0 then 0 else -1).setWidth 32

/-- Nothing is lost in the cut, and the correction for full multiples makes the quotient that
of the count without its last byte. -/
theorem msgs_to_read_eq {count : ℕ} (hcount : 80 < count) (hmax : count ≤ MAX_RW_COUNT) :
    (msgs_to_read (BitVec.ofNat 64 count)).toInt = ((count - 1) / 80 : ℕ) := by
  have hlt : count ≤ 2147479552 := hmax
  have hword : (BitVec.ofNat 64 count).toNat = count := by
    rw [BitVec.toNat_ofNat, Nat.mod_eq_of_lt (by omega)]
  have hquot : (BitVec.ofNat 64 count / 80).toNat = count / 80 := by
    rw [BitVec.toNat_udiv, hword]
    rfl
  have hrem : (BitVec.ofNat 64 count % 80).toNat = count % 80 := by
    rw [BitVec.toNat_umod, hword]
    rfl
  have hzero : BitVec.ofNat 64 count % 80 ≠ 0 ↔ count % 80 ≠ 0 := by
    rw [ne_eq, ← BitVec.toNat_inj, hrem]
    rfl
  have hsum : (msgs_to_read (BitVec.ofNat 64 count)).toNat = (count - 1) / 80 := by
    rw [msgs_to_read, BitVec.toNat_setWidth, BitVec.toNat_add, hquot]
    by_cases hmod : count % 80 ≠ 0
    · have hnone : (0 : u64).toNat = 0 := rfl
      rw [if_pos (hzero.mpr hmod), hnone]
      omega
    · have hless : (-1 : u64).toNat = 2 ^ 64 - 1 := rfl
      rw [if_neg (hzero.not.mpr hmod), hless]
      omega
  rw [BitVec.toInt_eq_toNat_of_lt (by rw [hsum]; omega), hsum]

/-- So does the quotient the section works with. -/
theorem section_wants {count : ℕ} (hcount : 80 < count) :
    (((count / 80 : ℕ) : Int) + if count % 80 ≠ 0 then 0 else -1).toNat = (count - 1) / 80 := by
  split <;> omega

/-! ## The text and the copy -/

section

variable {st : ReaderState} {env : ReadEnv} {count : ℕ}

/-- The messages a read takes. -/
def ReaderState.taken (st : ReaderState) (count : ℕ) : List ChardevMsg :=
  st.dev.unread_msgs.take ((count - 1) / 80)

/-- The section takes as many messages as there is room for lines. -/
theorem read_section_taken (hcount : 80 < count) (hring : env.Readable st.dev)
    (hsome : 0 < st.dev.rx_unread_cnt) :
    pcan_chardev_read_section count st.dev
      = (.ok (st.taken count), (pcan_chardev_read_section count st.dev).2) := by
  have hfront := read_section_front (msgs_to_read_pos hcount) hring.count_range hring.idx_range
    hsome
  rw [section_wants hcount] at hfront
  exact hfront

theorem length_taken (st : ReaderState) (count : ℕ) :
    (st.taken count).length = min ((count - 1) / 80) st.dev.rx_unread_cnt.toNat := by
  rw [ReaderState.taken, List.length_take, length_unread_msgs]

/-- The ring behind the section: the rest, in order. -/
theorem read_section_rest (hcount : 80 < count) (hring : env.Readable st.dev)
    (hsome : 0 < st.dev.rx_unread_cnt) :
    st.dev.unread_msgs
        = st.taken count ++ (pcan_chardev_read_section count st.dev).2.unread_msgs
      ∧ (pcan_chardev_read_section count st.dev).2.rx_unread_cnt
        = st.dev.rx_unread_cnt - (st.taken count).length := by
  have hfront : TakesFront st.dev (pcan_chardev_read_section count st.dev) :=
    read_section_takesFront (msgs_to_read_pos hcount).le hring.count_range hring.idx_range
  have hsection := read_section_taken hcount hring hsome
  have hunread := hfront.unread_eq
  rw [hsection] at hunread
  dsimp only at hunread
  refine ⟨hunread, ?_⟩
  have hlen := congrArg List.length hunread
  rw [List.length_append, length_unread_msgs, length_unread_msgs] at hlen
  have hrange := hfront.count_range
  omega

/-- The first bytes of the kernel's buffer are the lines, in order. -/
theorem text_shown {o : OutBuf} {rd_kernel_buf : ℕ → u8} {text : List u8}
    (h : (⟨rd_kernel_buf, 0, []⟩ : OutBuf).Emits 0 text o) :
    shown text.length (o.store (text.length + text.length) 0).bytes = text := by
  apply List.ext_getElem
  · simp
  · intro i hi hi'
    have hbyte := h.written i text[i] (List.getElem?_eq_getElem hi')
    dsimp only at hbyte
    rw [Nat.zero_add] at hbyte
    simp only [shown, List.getElem_map, List.getElem_range]
    -- the NUL lies behind all of them
    rw [store_bytes_of_ne _ _ (by omega), hbyte]

/-- What is copied to the user is the text of those. -/
theorem read_copied_delivers {services : Services} (buf : ℕ) (hcount : 80 < count)
    (hring : env.Readable st.dev) (hsome : 0 < st.dev.rx_unread_cnt)
    (hcopied : services.not_copied = 0) :
    (st.read_copied services env buf count).1 = ((st.taken count).flatMap env.line).length
      ∧ (st.read_copied services env buf count).2.dev
        = (pcan_chardev_read_section count st.dev).2
      ∧ (st.read_copied services env buf count).2.user
        = (Store.mk buf ((st.taken count).flatMap env.line)).apply st.user := by
  obtain ⟨msgs, o, hmsgs, hne, hemits, -, htext⟩ :=
    read_text_ok env hcount hring hsome st.rd_kernel_buf
  have hsection := congrArg Prod.fst (read_section_taken hcount hring hsome)
  obtain rfl : msgs = st.taken count := Except.ok.inj (hmsgs.symm.trans hsection)
  have hpos := lines_pos env hne
  unfold ReaderState.read_copied
  rw [htext]
  dsimp only
  rw [if_pos (by omega), hcopied]
  dsimp only
  rw [copy_to_user_all, Int.toNat_natCast, text_shown hemits]
  exact ⟨by simp, rfl, rfl⟩

/-! ## The contract -/

/-- The bytes of a line. -/
def ReadEnv.line_len (env : ReadEnv) (msg : ChardevMsg) : ℕ :=
  47 + env.dev_name.length + 3 * msg.frame.can_dlc.toNat

/-- Lines add up. -/
theorem length_lines {msgs : List ChardevMsg} (hprint : ∀ msg ∈ msgs, env.Printable msg) :
    (msgs.flatMap env.line).length = (msgs.map env.line_len).sum := by
  rw [List.length_flatMap]
  exact congrArg List.sum (List.map_congr_left fun msg hmsg => length_line (hprint msg hmsg))

/-- Eighty bytes are enough for a line. -/
theorem line_lens_le {msgs : List ChardevMsg} (hname : env.dev_name.length ≤ 9)
    (hprint : ∀ msg ∈ msgs, env.Printable msg) :
    (msgs.map env.line_len).sum ≤ 80 * msgs.length := by
  have hle : ∀ n ∈ msgs.map env.line_len, n ≤ 80 := by
    intro n hn
    obtain ⟨msg, hmsg, rfl⟩ := List.mem_map.mp hn
    have hdlc := (hprint msg hmsg).dlc_le
    rw [ReadEnv.line_len]
    omega
  have hsum := List.sum_le_card_nsmul _ 80 hle
  rw [List.length_map, smul_eq_mul] at hsum
  omega

/-- A read in copy mode, of a ring with `u` well-formed messages unread: it takes the oldest
`min u ((count - 1) / 80)` of them, at least one, copies their lines to the user's buffer in
order of arrival, and returns their length, which is below `count`. -/
theorem stream_read_contract {services : Services} (buf : ℕ) (hcount : 80 < count)
    (hmax : count ≤ MAX_RW_COUNT) (hring : env.Readable st.dev) (hname : env.dev_name.length = 9)
    (hsome : 1 ≤ st.dev.rx_unread_cnt) (hstage : PCAN_USB_STAGE_ONE_STARTED ≤ st.d.stage)
    (hwait : wait_for_msgs services.wait st.d = 0) (hcopied : services.not_copied = 0) :
    ∃ r st', st.pcan_chardev_read false services env buf count = some (r, st')
      ∧ (msgs_to_read (BitVec.ofNat 64 count)).toInt = ((count - 1) / 80 : ℕ)
      ∧ (st.taken count).length = min st.dev.rx_unread_cnt.toNat ((count - 1) / 80)
      ∧ 1 ≤ (st.taken count).length
      ∧ st.dev.unread_msgs = st.taken count ++ st'.dev.unread_msgs
      ∧ st'.dev.rx_unread_cnt = st.dev.rx_unread_cnt - (st.taken count).length
      ∧ (∀ msg ∈ st.taken count,
          (env.line msg).length = 56 + 3 * msg.frame.can_dlc.toNat)
      ∧ r = (((st.taken count).map fun msg => 56 + 3 * msg.frame.can_dlc.toNat).sum : ℕ)
      ∧ st'.user = (Store.mk buf ((st.taken count).flatMap env.line)).apply st.user
      ∧ r ≤ 80 * (st.taken count).length
      ∧ r < count := by
  have hsome' : 0 < st.dev.rx_unread_cnt := by omega
  have hprint : ∀ msg ∈ st.taken count, env.Printable msg := fun msg hmsg =>
    hring.printable msg (List.mem_of_mem_take hmsg)
  have hsum := length_lines hprint
  have hle := line_lens_le hname.le hprint
  have hline : env.line_len = fun msg => 56 + 3 * msg.frame.can_dlc.toNat := by
    funext msg
    rw [ReadEnv.line_len, hname]
  obtain ⟨hr, hdev, huser⟩ := read_copied_delivers buf hcount hring hsome' hcopied
  obtain ⟨hrest, hcnt⟩ := read_section_rest hcount hring hsome'
  have hlen := length_taken st count
  have hcall : st.pcan_chardev_read false services env buf count
      = some (st.read_copied services env buf count) :=
    st.read_of_wait false env buf (Int.ofNat_lt.mpr hcount) hstage hwait
  refine ⟨(st.read_copied services env buf count).1, (st.read_copied services env buf count).2,
    hcall, msgs_to_read_eq hcount hmax, ?_, ?_, ?_, ?_, ?_, ?_, huser, ?_, ?_⟩
  · rw [hlen, min_comm]
  · rw [hlen]
    omega
  · rw [hdev]
    exact hrest
  · rw [hdev, hcnt]
  · intro msg hmsg
    rw [length_line (hprint msg hmsg), hname]
  · rw [hr, hsum, hline]
  · rw [hr]
    omega
  · rw [hr]
    omega

end

/-- Three messages of eight bytes, and room for two and a half lines. -/
theorem stream_read_contract_two_of_three :
    ∃ r st', (reader_of 3).pcan_chardev_read false (Services.leaving 0) read_env 65536 200
        = some (r, st')
      ∧ (msgs_to_read 200).toInt = 2
      ∧ ((reader_of 3).taken 200).length = 2
      ∧ 1 ≤ ((reader_of 3).taken 200).length
      ∧ (reader_of 3).dev.unread_msgs = (reader_of 3).taken 200 ++ st'.dev.unread_msgs
      ∧ st'.dev.rx_unread_cnt = 1
      ∧ (∀ msg ∈ (reader_of 3).taken 200,
          (read_env.line msg).length = 56 + 3 * msg.frame.can_dlc.toNat)
      ∧ r = 160
      ∧ st'.user = (Store.mk 65536 (((reader_of 3).taken 200).flatMap read_env.line)).apply
          (reader_of 3).user
      ∧ r ≤ 80 * ((reader_of 3).taken 200).length
      ∧ r < (200 : ℕ) :=
  stream_read_contract 65536 (by decide) (by decide) (ring_of_readable (by decide)) (by decide)
    (by decide) (by decide) (by decide) rfl

end DualPcanUsb
