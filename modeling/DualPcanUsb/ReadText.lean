/-
The text `pcan_chardev_read` formats.

A message is a line of fixed layout: the time, the device's name, the id, the length code
and up to eight bytes. With valid dates and short names a line fits the eighty bytes the
driver counts for it, so the lines of a full ring fit the buffer. The NUL behind them does
not land behind them: `ptr[err]` counts the length of the text from the end of the text.
-/
import DualPcanUsb.RxRing
import DualPcanUsb.FrameLayout
import DualPcanUsb.TxBuffer
import DualPcanUsb.Lib.Printf

set_option autoImplicit false

namespace DualPcanUsb

open Printf

/-! ## Time of day -/

/-- `struct timespec64` -/
structure Timespec64 where
  tv_sec : Int
  tv_nsec : Int
deriving DecidableEq, Repr

/-- The kernel's: the sum is one of `u64`s, the seconds of it a `u32`. -/
def timespec64_add_ns (a : Timespec64) (ns : Int) : Timespec64 :=
  let total := (a.tv_nsec + ns) % 2 ^ 64
  { tv_sec := s64 (a.tv_sec + total / 1000000000 % 2 ^ 32), tv_nsec := total % 1000000000 }

/-- `struct tm` -/
structure Tm where
  tm_sec : Int
  tm_min : Int
  tm_hour : Int
  tm_mday : Int
  tm_mon : Int
  tm_year : Int
deriving DecidableEq, Repr

/-- The ranges the fields of a calendar time have. -/
structure Tm.Valid (t : Tm) : Prop where
  sec : 0 ≤ t.tm_sec ∧ t.tm_sec ≤ 60
  min : 0 ≤ t.tm_min ∧ t.tm_min ≤ 59
  hour : 0 ≤ t.tm_hour ∧ t.tm_hour ≤ 23
  mday : 1 ≤ t.tm_mday ∧ t.tm_mday ≤ 31
  mon : 0 ≤ t.tm_mon ∧ t.tm_mon ≤ 11

/-- What the formatting uses besides the messages. The conversion of seconds and an offset
to a calendar time, `evol_time_to_tm`, is not the driver's own. -/
structure ReadEnv where
  dev_name : List u8
  timezone : Int
  bus_up_time : Timespec64
  tv_host_0 : ktime_t
  evol_time_to_tm : Int → Int → Tm

/-- The time a message is shown with. -/
def ReadEnv.tspec (env : ReadEnv) (msg : ChardevMsg) : Timespec64 :=
  timespec64_add_ns env.bus_up_time (s64 (msg.hwtstamp - env.tv_host_0))

def ReadEnv.when_ (env : ReadEnv) (msg : ChardevMsg) : Tm :=
  env.evol_time_to_tm (env.tspec msg).tv_sec (60 * 60 * env.timezone)

/-! ## Formatting -/

/-- `"(%04ld-%02d-%02d %02d:%02d:%02d.%06ld)  %s  %08X  [%d] "` and its arguments. -/
def ReadEnv.head (env : ReadEnv) (msg : ChardevMsg) : List Piece :=
  let t := env.when_ msg
  [.lit "(", .dec 4 (t.tm_year + 1900), .lit "-", .dec 2 (t.tm_mon + 1), .lit "-",
    .dec 2 t.tm_mday, .lit " ", .dec 2 t.tm_hour, .lit ":", .dec 2 t.tm_min, .lit ":",
    .dec 2 t.tm_sec, .lit ".", .dec 6 (Int.tdiv (env.tspec msg).tv_nsec 1000), .lit ")  ",
    .str env.dev_name, .lit "  ", .hex 8 (msg.frame.can_id &&& CAN_EFF_MASK).toNat, .lit "  [",
    .dec 1 msg.frame.can_dlc.toNat, .lit "] "]

/-- `" %02X"` -/
def data_byte (b : u8) : List Piece :=
  [.lit " ", .hex 2 b.toNat]

/-- `ptr += sprintf(ptr, ...)`: the text, and a NUL the next text overwrites. -/
def OutBuf.sprintf (o : OutBuf) (pieces : List Piece) : OutBuf :=
  let o := o.append (text pieces)
  o.store o.pos 0

/-- `'\n'` -/
def newline : u8 := 10

/-- The body of the loop over the messages. -/
def ReadEnv.format_msg (env : ReadEnv) (o : OutBuf) (msg : ChardevMsg) : OutBuf :=
  let o := o.sprintf (env.head msg)
  let o := (msg.frame.data.toList.take msg.frame.can_dlc.toNat).foldl
    (fun o b => o.sprintf (data_byte b)) o
  o.push newline

/-- The locked section of `pcan_chardev_read` on the kernel's buffer: the result, the
stores, and the device behind it. -/
def pcan_chardev_read_text (env : ReadEnv) (count : ℕ) (dev : Chardev) (rd_kernel_buf : ℕ → u8) :
    Int × OutBuf × Chardev :=
  let start : OutBuf := ⟨rd_kernel_buf, 0, []⟩
  match pcan_chardev_read_section count dev with
  | (.error err, dev) => (err, start, dev)
  | (.ok msgs, dev) =>
    let o := msgs.foldl env.format_msg start
    let err := o.pos
    -- `ptr[err] = '\0'`, with `ptr` at the end of the text
    (err, o.store (o.pos + err) 0, dev)

/-- What `pcan_chardev_initialize` allocates. -/
def rd_kernel_buf_size : ℕ :=
  (PCAN_CHRDEV_MAX_BYTES_PER_READ * PCAN_CHRDEV_MAX_RX_BUF_COUNT + 1).toNat

/-! ## The length of a line -/

/-- A message whose line has the usual layout: at most eight bytes, and a year of four
digits. -/
structure ReadEnv.Printable (env : ReadEnv) (msg : ChardevMsg) : Prop where
  dlc_le : msg.frame.can_dlc.toNat ≤ 8
  year : 0 ≤ (env.when_ msg).tm_year + 1900 ∧ (env.when_ msg).tm_year + 1900 ≤ 9999
  valid : (env.when_ msg).Valid

theorem tspec_nsec_range (env : ReadEnv) (msg : ChardevMsg) :
    0 ≤ (env.tspec msg).tv_nsec ∧ (env.tspec msg).tv_nsec < 1000000000 :=
  ⟨Int.emod_nonneg _ (by decide), Int.emod_lt_of_pos _ (by decide)⟩

/-- A data byte takes a blank and two digits. -/
theorem length_data_byte (b : u8) : (text (data_byte b)).length = 3 := by
  rw [length_text, data_byte, List.map_cons, List.map_singleton, length_lit,
    length_hex (by decide) b.isLt]
  rfl

/-- Everything before the data bytes. -/
theorem length_head {env : ReadEnv} {msg : ChardevMsg} (h : env.Printable msg) :
    (text (env.head msg)).length = 46 + env.dev_name.length := by
  obtain ⟨hdlc, ⟨hyear, hyear'⟩, ⟨hsec, hmin, hhour, hmday, hmon⟩⟩ := h
  obtain ⟨hnsec, hnsec'⟩ := tspec_nsec_range env msg
  have husec : Int.tdiv (env.tspec msg).tv_nsec 1000 = (env.tspec msg).tv_nsec / 1000 :=
    Int.tdiv_eq_ediv_of_nonneg hnsec
  have hid : (msg.frame.can_id &&& CAN_EFF_MASK).toNat < 16 ^ 8 := by
    have := (msg.frame.can_id &&& CAN_EFF_MASK).isLt
    omega
  -- the conversions, each as long as its width
  have hyear4 : (Piece.dec 4 ((env.when_ msg).tm_year + 1900)).text.length = 4 :=
    length_dec (by decide) hyear (by omega)
  have hmon2 : (Piece.dec 2 ((env.when_ msg).tm_mon + 1)).text.length = 2 :=
    length_dec (by decide) (by omega) (by omega)
  have hmday2 : (Piece.dec 2 (env.when_ msg).tm_mday).text.length = 2 :=
    length_dec (by decide) (by omega) (by omega)
  have hhour2 : (Piece.dec 2 (env.when_ msg).tm_hour).text.length = 2 :=
    length_dec (by decide) (by omega) (by omega)
  have hmin2 : (Piece.dec 2 (env.when_ msg).tm_min).text.length = 2 :=
    length_dec (by decide) (by omega) (by omega)
  have hsec2 : (Piece.dec 2 (env.when_ msg).tm_sec).text.length = 2 :=
    length_dec (by decide) (by omega) (by omega)
  have husec6 : (Piece.dec 6 (Int.tdiv (env.tspec msg).tv_nsec 1000)).text.length = 6 := by
    rw [husec]
    exact length_dec (by decide) (by omega) (by omega)
  have hid8 := length_hex (by decide : 0 < 8) hid
  have hdlc1 : (Piece.dec 1 msg.frame.can_dlc.toNat).text.length = 1 :=
    length_dec (by decide) (by omega) (by omega)
  have hname : (Piece.str env.dev_name).text.length = env.dev_name.length := rfl
  rw [length_text, ReadEnv.head]
  simp only [List.map_cons, List.map_nil, List.sum_cons, List.sum_nil, length_lit, hyear4, hmon2,
    hmday2, hhour2, hmin2, hsec2, husec6, hid8, hdlc1, hname, String.reduceToList,
    List.length_cons, List.length_nil]
  ring

/-! ## What has been written -/

/-- From `o` to `o'` the bytes `bs` were written at the write pointer, which moved behind
them, and no store went further than `slack` past it. -/
structure OutBuf.Emits (slack : ℕ) (o : OutBuf) (bs : List u8) (o' : OutBuf) : Prop where
  pos_eq : o'.pos = o.pos + bs.length
  before : ∀ i < o.pos, o'.bytes i = o.bytes i
  written : ∀ i b, bs[i]? = some b → o'.bytes (o.pos + i) = b
  stores : ∃ ws, o'.stores = o.stores ++ ws ∧ ∀ i ∈ ws, i < o'.pos + slack

/-- Nothing printed is the empty text. -/
theorem OutBuf.Emits.refl (slack : ℕ) (o : OutBuf) : o.Emits slack [] o :=
  { pos_eq := rfl
    before := fun _ _ => rfl
    written := fun _ _ h => by cases h
    stores := ⟨[], (List.append_nil _).symm, fun _ h => by cases h⟩ }

/-- Texts printed in a row are one text, if what the first stores behind itself lies in the
second. -/
theorem OutBuf.Emits.trans {k l : ℕ} {o o₁ o₂ : OutBuf} {bs cs : List u8} (h : o.Emits k bs o₁)
    (h' : o₁.Emits l cs o₂) (hslack : k ≤ cs.length + l) : o.Emits l (bs ++ cs) o₂ := by
  have hpos := h.pos_eq
  have hpos' := h'.pos_eq
  refine ⟨by rw [List.length_append]; omega, fun i hi => ?_, fun i b hb => ?_, ?_⟩
  · rw [h'.before i (by omega), h.before i hi]
  · by_cases hi : i < bs.length
    · rw [List.getElem?_append_left hi] at hb
      rw [h'.before _ (by omega)]
      exact h.written i b hb
    · rw [List.getElem?_append_right (by omega)] at hb
      rw [← h'.written _ b hb]
      congr 1
      omega
  · obtain ⟨ws, hws, hlt⟩ := h.stores
    obtain ⟨ws', hws', hlt'⟩ := h'.stores
    refine ⟨ws ++ ws', by rw [hws', hws, List.append_assoc], fun i hi => ?_⟩
    rcases List.mem_append.mp hi with hi | hi
    · have := hlt i hi
      omega
    · exact hlt' i hi

/-- A text leaves its NUL one behind. -/
theorem sprintf_emits (o : OutBuf) (pieces : List Piece) :
    o.Emits 1 (text pieces) (o.sprintf pieces) := by
  have hpos := append_pos o (text pieces)
  refine ⟨hpos, fun i hi => ?_, fun i b hb => ?_, ?_⟩
  · rw [OutBuf.sprintf, store_bytes_of_ne _ _ (by omega), append_bytes_of_lt _ _ hi]
  · obtain ⟨hi, rfl⟩ := List.getElem?_eq_some_iff.mp hb
    rw [OutBuf.sprintf, store_bytes_of_ne _ _ (by omega), append_bytes _ _ hi]
  · refine ⟨List.range' o.pos (text pieces).length ++ [o.pos + (text pieces).length], ?_, ?_⟩
    · change (o.append (text pieces)).stores ++ [(o.append (text pieces)).pos] = _
      rw [append_stores, hpos, List.append_assoc]
    · intro i hi
      change i < (o.append (text pieces)).pos + 1
      rw [List.mem_append, List.mem_singleton, List.mem_range'_1] at hi
      omega

/-- A single character is stored with no NUL behind it. -/
theorem push_emits (o : OutBuf) (b : u8) : o.Emits 0 [b] (o.push b) := by
  refine ⟨rfl, fun i hi => Function.update_of_ne hi.ne _ _, fun i c hc => ?_, [o.pos], rfl, ?_⟩
  · rw [List.getElem?_singleton] at hc
    split at hc
    · rename_i hi
      obtain rfl := Option.some.inj hc
      rw [hi]
      exact Function.update_self ..
    · cases hc
  · intro i hi
    obtain rfl := List.mem_singleton.mp hi
    exact Nat.lt_succ_self _

/-- The line of a message. -/
def ReadEnv.line (env : ReadEnv) (msg : ChardevMsg) : List u8 :=
  text (env.head msg)
    ++ (msg.frame.data.toList.take msg.frame.can_dlc.toNat).flatMap (fun b => text (data_byte b))
    ++ [newline]

/-- The data bytes, one `sprintf` each. -/
theorem data_emits (o : OutBuf) (bs : List u8) :
    o.Emits 1 (bs.flatMap fun b => text (data_byte b))
      (bs.foldl (fun o b => o.sprintf (data_byte b)) o) := by
  induction bs generalizing o with
  | nil => exact OutBuf.Emits.refl 1 o
  | cons b bs ih =>
    rw [List.flatMap_cons]
    exact (sprintf_emits o (data_byte b)).trans (ih _) (Nat.le_add_left ..)

/-- A message is printed as its line. -/
theorem format_msg_emits (env : ReadEnv) (o : OutBuf) (msg : ChardevMsg) :
    o.Emits 0 (env.line msg) (env.format_msg o msg) := by
  have hdata := (sprintf_emits o (env.head msg)).trans
    (data_emits _ (msg.frame.data.toList.take msg.frame.can_dlc.toNat)) (Nat.le_add_left ..)
  exact hdata.trans (push_emits _ newline) (Nat.le_refl 1)

/-- The lines of all messages, one behind the other. -/
theorem format_msgs_emits (env : ReadEnv) (o : OutBuf) (msgs : List ChardevMsg) :
    o.Emits 0 (msgs.flatMap env.line) (msgs.foldl env.format_msg o) := by
  induction msgs generalizing o with
  | nil => exact OutBuf.Emits.refl 0 o
  | cons msg msgs ih =>
    rw [List.flatMap_cons]
    exact (format_msg_emits env o msg).trans (ih _) (Nat.zero_le _)

/-- A line is as long as its name and its data make it; the other fields have fixed widths. -/
theorem length_line {env : ReadEnv} {msg : ChardevMsg} (h : env.Printable msg) :
    (env.line msg).length = 47 + env.dev_name.length + 3 * msg.frame.can_dlc.toNat := by
  have hdata : ∀ bs : List u8, (bs.flatMap fun b => text (data_byte b)).length = 3 * bs.length := by
    intro bs
    induction bs with
    | nil => rfl
    | cons b bs ih => rw [List.flatMap_cons, List.length_append, length_data_byte, ih,
        List.length_cons]; omega
  have hdlc := h.dlc_le
  rw [ReadEnv.line, List.length_append, List.length_append, length_head h, hdata,
    List.length_take, Vector.length_toList, min_eq_left hdlc, List.length_singleton]
  omega

/-! ## One read -/

/-- A read wants at least one message, and gets one if there is one. -/
theorem read_section_ok {want : Int} (hwant : 0 < want) {dev : Chardev}
    (hcount : 0 < dev.rx_unread_cnt) :
    ∃ msgs, (read_section want dev).1 = .ok msgs ∧ msgs ≠ [] := by
  unfold read_section
  dsimp only
  rw [if_neg (by omega)]
  refine ⟨_, rfl, ?_⟩
  split
  · obtain ⟨n, hn⟩ : ∃ n, dev.rx_unread_cnt.toNat = n + 1 := ⟨dev.rx_unread_cnt.toNat - 1, by omega⟩
    rw [hn]
    exact List.cons_ne_nil _ _
  · obtain ⟨n, hn⟩ : ∃ n, want.toNat = n + 1 := ⟨want.toNat - 1, by omega⟩
    rw [hn]
    exact List.cons_ne_nil _ _

/-- Messages to read for a byte count above one line's. -/
theorem msgs_to_read_pos {count : ℕ} (hcount : 80 < count) :
    0 < ((count / 80 : ℕ) : Int) + if count % 80 ≠ 0 then 0 else -1 := by
  split <;> omega

/-- A ring as `pcan_chardev_read` may find it, its unread messages printable. -/
structure ReadEnv.Readable (env : ReadEnv) (dev : Chardev) : Prop where
  count_range : 0 ≤ dev.rx_unread_cnt ∧ dev.rx_unread_cnt ≤ 8
  idx_range : 0 ≤ dev.rx_write_idx ∧ dev.rx_write_idx < 8
  printable : ∀ msg ∈ dev.unread_msgs, env.Printable msg
  name_le : env.dev_name.length ≤ 9

/-- With something to read, the lines of the messages taken are written from the start
of the buffer, all their stores inside it, and the last store is as far behind the text
as the text is long. -/
theorem read_text_ok (env : ReadEnv) {count : ℕ} (hcount : 80 < count) {dev : Chardev}
    (hring : env.Readable dev) (hsome : 0 < dev.rx_unread_cnt) (rd_kernel_buf : ℕ → u8) :
    ∃ msgs o, (pcan_chardev_read_section count dev).1 = .ok msgs ∧ msgs ≠ []
      ∧ (⟨rd_kernel_buf, 0, []⟩ : OutBuf).Emits 0 (msgs.flatMap env.line) o
      ∧ (msgs.flatMap env.line).length < rd_kernel_buf_size
      ∧ pcan_chardev_read_text env count dev rd_kernel_buf
        = (((msgs.flatMap env.line).length : Int),
            o.store ((msgs.flatMap env.line).length + (msgs.flatMap env.line).length) 0,
            (pcan_chardev_read_section count dev).2) := by
  have hwant := msgs_to_read_pos hcount
  obtain ⟨msgs, hmsgs, hne⟩ := read_section_ok hwant hsome
  have hemits := format_msgs_emits env ⟨rd_kernel_buf, 0, []⟩ msgs
  have hpos := hemits.pos_eq
  rw [Nat.zero_add] at hpos
  refine ⟨msgs, _, hmsgs, hne, hemits, ?_, ?_⟩
  · -- the messages are among the unread ones, so there are at most eight short lines
    have hfront := read_section_takesFront hwant.le hring.count_range hring.idx_range
    have hunread := hfront.unread_eq
    rw [hmsgs] at hunread
    dsimp only at hunread
    have hlen : msgs.length ≤ 8 := by
      have hcnt := congrArg List.length hunread
      rw [length_unread_msgs, List.length_append] at hcnt
      have := hring.count_range
      omega
    have hline : ∀ msg ∈ msgs, (env.line msg).length ≤ 80 := by
      intro msg hmsg
      have hprint := hring.printable msg (by rw [hunread]; exact List.mem_append_left _ hmsg)
      have hdlc := hprint.dlc_le
      have hname := hring.name_le
      rw [length_line hprint]
      omega
    have hsum : (msgs.flatMap env.line).length ≤ msgs.length * 80 := by
      rw [List.length_flatMap]
      have := List.sum_le_card_nsmul (msgs.map fun msg => (env.line msg).length) 80
        (by simpa using hline)
      simpa using this
    change _ < 641
    omega
  · have hsection : pcan_chardev_read_section count dev
        = (.ok msgs, (pcan_chardev_read_section count dev).2) := Prod.ext hmsgs rfl
    unfold pcan_chardev_read_text
    rw [hsection]
    dsimp only
    rw [hpos]

/-- The stores of a read stay inside the allocated bytes, and where a text was made, the
last of them puts the NUL directly behind it. -/
structure ReadsInside (r : Int × OutBuf × Chardev) : Prop where
  stores_lt : ∀ i ∈ r.2.1.stores, i < rd_kernel_buf_size
  terminated : 0 ≤ r.1 → r.2.1.stores.getLast? = some r.1.toNat

/-- No line is empty. -/
theorem lines_pos (env : ReadEnv) {msgs : List ChardevMsg} (hne : msgs ≠ []) :
    0 < (msgs.flatMap env.line).length := by
  obtain ⟨msg, rest, rfl⟩ := List.exists_cons_of_ne_nil hne
  rw [List.flatMap_cons, List.length_append, ReadEnv.line, List.length_append,
    List.length_singleton]
  omega

/-- A text is not terminated: the last store is at twice its length, and no text is
empty. -/
theorem not_readsInside (env : ReadEnv) {count : ℕ} (hcount : 80 < count) {dev : Chardev}
    (hring : env.Readable dev) (hsome : 0 < dev.rx_unread_cnt) (rd_kernel_buf : ℕ → u8) :
    ¬ ReadsInside (pcan_chardev_read_text env count dev rd_kernel_buf) := by
  intro h
  obtain ⟨msgs, o, -, hmsgs, -, -, heq⟩ := read_text_ok env hcount hring hsome rd_kernel_buf
  rw [heq] at h
  have hlast := h.terminated (Int.natCast_nonneg _)
  change (o.stores ++ [_]).getLast? = some _ at hlast
  rw [List.getLast?_concat, Option.some.injEq, Int.toNat_natCast] at hlast
  have hpos := lines_pos env hmsgs
  omega

/-- With nothing to read nothing is stored. -/
theorem read_text_empty (env : ReadEnv) (count : ℕ) {dev : Chardev}
    (hnone : dev.rx_unread_cnt = 0) (rd_kernel_buf : ℕ → u8) :
    pcan_chardev_read_text env count dev rd_kernel_buf = (-EAGAIN, ⟨rd_kernel_buf, 0, []⟩, dev) := by
  have hempty : pcan_chardev_read_section count dev = (.error (-EAGAIN), dev) := by
    unfold pcan_chardev_read_section read_section
    dsimp only
    rw [if_pos hnone.le]
  unfold pcan_chardev_read_text
  rw [hempty]

/-- With something to read, the NUL is the only store that may leave the buffer, and it
does if the text takes more than half of it. -/
theorem read_text_overruns_iff (env : ReadEnv) {count : ℕ}
    (hcount : PCAN_CHRDEV_MAX_BYTES_PER_READ.toNat < count) {dev : Chardev}
    (hring : env.Readable dev) (hsome : 0 < dev.rx_unread_cnt) (rd_kernel_buf : ℕ → u8) :
    (∀ i ∈ (pcan_chardev_read_text env count dev rd_kernel_buf).2.1.stores,
        i < rd_kernel_buf_size)
      ↔ 2 * (pcan_chardev_read_text env count dev rd_kernel_buf).1 < rd_kernel_buf_size := by
  obtain ⟨msgs, o, -, -, hemits, hlt, heq⟩ := read_text_ok env hcount hring hsome rd_kernel_buf
  obtain ⟨ws, hws, hwslt⟩ := hemits.stores
  have hpos := hemits.pos_eq
  rw [heq]
  change (∀ i ∈ o.stores ++ [_], i < _) ↔ _
  rw [hws]
  constructor
  · intro h
    have hnul := h _ (List.mem_append_right _ (List.mem_singleton_self _))
    dsimp only
    omega
  · intro h i hi
    dsimp only at h hpos
    rcases List.mem_append.mp hi with hi | hi
    · have := hwslt i hi
      omega
    · obtain rfl := List.mem_singleton.mp hi
      omega

/-- So a read is as it should be exactly if there is nothing to read. -/
theorem reads_inside_iff (env : ReadEnv) {count : ℕ}
    (hcount : PCAN_CHRDEV_MAX_BYTES_PER_READ.toNat < count) {dev : Chardev}
    (hring : env.Readable dev) (rd_kernel_buf : ℕ → u8) :
    ReadsInside (pcan_chardev_read_text env count dev rd_kernel_buf) ↔ dev.rx_unread_cnt = 0 := by
  constructor
  · intro h
    by_contra hne
    exact not_readsInside env hcount hring (lt_of_le_of_ne hring.count_range.1 (Ne.symm hne)) _ h
  · intro hnone
    rw [read_text_empty env count hnone]
    exact ⟨fun i hi => (by cases hi), fun (h : 0 ≤ -EAGAIN) => absurd h (by decide)⟩

def full_msg : ChardevMsg :=
  { hwtstamp := 0, frame := { can_id := 0x123, can_dlc := 8, data := Vector.replicate 8 0 } }

/-- A ring with `n` messages of eight bytes. -/
def ring_of (n : ℕ) : Chardev :=
  { rx_msgs := fun _ => full_msg
    rx_write_idx := 0
    rx_unread_cnt := n
    rx_packets := n
    open_count := 1 }

/-- Midnight of 2 January 2024, eight hours further east. -/
def read_env : ReadEnv :=
  { dev_name := ascii "pcanusb32".toList
    timezone := 8
    bus_up_time := ⟨1704153600, 0⟩
    tv_host_0 := 0
    evol_time_to_tm := fun _ _ =>
      { tm_sec := 0, tm_min := 0, tm_hour := 8, tm_mday := 2, tm_mon := 0, tm_year := 124 } }

theorem full_msg_printable : read_env.Printable full_msg :=
  ⟨by decide, by decide, by decide, by decide, by decide, by decide, by decide⟩

/-- Such rings are those a read may find. -/
theorem ring_of_readable {n : ℕ} (hn : n ≤ 8) : read_env.Readable (ring_of n) := by
  refine ⟨⟨Int.natCast_nonneg _, Int.ofNat_le.mpr hn⟩, (by decide : (0 : Int) ≤ 0 ∧ (0 : Int) < 8),
    fun msg hmsg => ?_, by decide⟩
  obtain ⟨k, -, rfl⟩ := List.mem_map.mp hmsg
  exact full_msg_printable

/-- The read of an empty ring is as it should be, that of a full one is not. -/
theorem reads_inside_iff_empty_and_full :
    ReadsInside (pcan_chardev_read_text read_env 641 (ring_of 0) fun _ => 0)
      ∧ ¬ ReadsInside (pcan_chardev_read_text read_env 641 (ring_of 8) fun _ => 0) := by
  have hcount : PCAN_CHRDEV_MAX_BYTES_PER_READ.toNat < 641 := by decide
  have hempty := reads_inside_iff read_env hcount (ring_of_readable (Nat.zero_le 8)) fun _ => 0
  have hfull := reads_inside_iff read_env hcount (ring_of_readable (le_refl 8)) fun _ => 0
  exact ⟨hempty.mpr rfl, fun hinside => absurd (hfull.mp hinside) (by decide)⟩

/-- A full ring, read at once: 640 bytes of text, and the NUL at 1280. -/
theorem full_ring_overruns :
    (pcan_chardev_read_text read_env 641 (ring_of 8) fun _ => 0).1 = 640
      ∧ (pcan_chardev_read_text read_env 641 (ring_of 8) fun _ => 0).2.1.stores.getLast? = some 1280
      ∧ ¬ ReadsInside (pcan_chardev_read_text read_env 641 (ring_of 8) fun _ => 0) := by
  have hring := ring_of_readable (le_refl 8)
  have hcount : 80 < 641 := by decide
  have hsome : 0 < (ring_of 8).rx_unread_cnt := by decide
  refine ⟨?_, ?_, not_readsInside read_env hcount hring hsome _⟩
  all_goals
    obtain ⟨msgs, o, hmsgs, -, -, -, heq⟩ := read_text_ok read_env hcount hring hsome fun _ => 0
    obtain rfl : List.replicate 8 full_msg = msgs := Except.ok.inj hmsgs
    have hlength : ((List.replicate 8 full_msg).flatMap read_env.line).length = 640 := by
      rw [List.length_flatMap, List.map_replicate, List.sum_replicate,
        length_line full_msg_printable]
      decide
    rw [heq, hlength]
  · rfl
  · exact List.getLast?_concat ..

end DualPcanUsb
