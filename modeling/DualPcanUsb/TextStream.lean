/-
The character stream as a format of its own.

Whoever reads the stream has text, and wants messages. Here is the other half of
`pcan_chardev_read`'s `sprintf`s: a parser for its lines, and the round trip. So lines never
run into one another, and a line tells a message's time to the microsecond, the 29 bits of
its id, its length and its bytes, whichever these are; and it tells nothing else, neither the
format of the id nor a remote request.
-/
import DualPcanUsb.StreamRead
import DualPcanUsb.Lib.Scanf

set_option autoImplicit false

namespace DualPcanUsb

open Printf Scanf StructBytes

/-! ## The parser -/

/-- What a line says. -/
structure LineFields where
  year : ℕ
  month : ℕ
  mday : ℕ
  hour : ℕ
  min : ℕ
  sec : ℕ
  usec : ℕ
  dev_name : List u8
  id : ℕ
  data : List u8
deriving DecidableEq, Repr

/-- `n` times `" %02X"`. -/
def parse_data : ℕ → List u8 → Option (List u8 × List u8)
  | 0, bs => some ([], bs)
  | n + 1, bs => do
    let bs ← scan_lit " " bs
    let (b, bs) ← scan_number 16 2 bs
    let (data, bs) ← parse_data n bs
    some (BitVec.ofNat 8 b :: data, bs)

/-- One line, and what stands behind it. -/
def parse_line (bs : List u8) : Option (LineFields × List u8) := do
  let bs ← scan_lit "(" bs
  let (year, bs) ← scan_number 10 4 bs
  let bs ← scan_lit "-" bs
  let (month, bs) ← scan_number 10 2 bs
  let bs ← scan_lit "-" bs
  let (mday, bs) ← scan_number 10 2 bs
  let bs ← scan_lit " " bs
  let (hour, bs) ← scan_number 10 2 bs
  let bs ← scan_lit ":" bs
  let (min, bs) ← scan_number 10 2 bs
  let bs ← scan_lit ":" bs
  let (sec, bs) ← scan_number 10 2 bs
  let bs ← scan_lit "." bs
  let (usec, bs) ← scan_number 10 6 bs
  let bs ← scan_lit ")  " bs
  let (dev_name, bs) := scan_word 32 bs
  let bs ← scan_lit "  " bs
  let (id, bs) ← scan_number 16 8 bs
  let bs ← scan_lit "  [" bs
  let (can_dlc, bs) ← scan_number 10 1 bs
  let bs ← scan_lit "] " bs
  let (data, bs) ← parse_data can_dlc bs
  let bs ← scan_lit "\n" bs
  some (⟨year, month, mday, hour, min, sec, usec, dev_name, id, data⟩, bs)

/-- Lines up to the end of the text, at most `fuel` of them. -/
def parse_lines : ℕ → List u8 → Option (List LineFields)
  | _, [] => some []
  | 0, _ => none
  | fuel + 1, bs => do
    let (line, bs) ← parse_line bs
    let lines ← parse_lines fuel bs
    some (line :: lines)

/-- No line is empty, so there are no more of them than bytes. -/
def parse_text (bs : List u8) : Option (List LineFields) := parse_lines bs.length bs

/-! ## The round trip -/

/-- What is shown of a message. -/
def ReadEnv.fields (env : ReadEnv) (msg : ChardevMsg) : LineFields where
  year := ((env.when_ msg).tm_year + 1900).toNat
  month := ((env.when_ msg).tm_mon + 1).toNat
  mday := (env.when_ msg).tm_mday.toNat
  hour := (env.when_ msg).tm_hour.toNat
  min := (env.when_ msg).tm_min.toNat
  sec := (env.when_ msg).tm_sec.toNat
  usec := (Int.tdiv (env.tspec msg).tv_nsec 1000).toNat
  dev_name := env.dev_name
  id := (msg.frame.can_id &&& CAN_EFF_MASK).toNat
  data := msg.frame.data.toList.take msg.frame.can_dlc.toNat

/-- The data bytes of a line are read back, whatever follows. -/
theorem parse_data_shown (data rest : List u8) :
    parse_data data.length ((data.flatMap fun b => text (data_byte b)) ++ rest)
      = some (data, rest) := by
  induction data with
  | nil => rfl
  | cons b data ih =>
    rw [List.length_cons, parse_data, List.flatMap_cons, List.append_assoc, data_byte]
    refine (lit_bind _ _ _ _).trans ((hex_bind _ _ (by decide) b.isLt _).trans ?_)
    change (parse_data data.length ((data.flatMap fun b => text (data_byte b)) ++ rest) >>= _) = _
    rw [ih]
    change some (BitVec.ofNat 8 b.toNat :: data, rest) = _
    rw [BitVec.ofNat_toNat, BitVec.setWidth_eq]

section

variable {env : ReadEnv} (hname : 32 ∉ env.dev_name)

include hname

/-- A line is read back, whatever stands behind it. -/
theorem parse_line_shown {msg : ChardevMsg} (hprint : env.Printable msg) (rest : List u8) :
    parse_line (env.line msg ++ rest) = some (env.fields msg, rest) := by
  obtain ⟨hdlc, ⟨hyear, hyear'⟩, ⟨hsec, hmin, hhour, hmday, hmon⟩⟩ := hprint
  obtain ⟨hnsec, hnsec'⟩ := tspec_nsec_range env msg
  have husec : Int.tdiv (env.tspec msg).tv_nsec 1000 = (env.tspec msg).tv_nsec / 1000 :=
    Int.tdiv_eq_ediv_of_nonneg hnsec
  have hid : (msg.frame.can_id &&& CAN_EFF_MASK).toNat < 16 ^ 8 := by
    have := (msg.frame.can_id &&& CAN_EFF_MASK).isLt
    omega
  have hlen : (msg.frame.data.toList.take msg.frame.can_dlc.toNat).length
      = msg.frame.can_dlc.toNat := by
    rw [List.length_take, Vector.length_toList, min_eq_left hdlc]
  rw [ReadEnv.line, List.append_assoc, List.append_assoc, ReadEnv.head, parse_line]
  dsimp only
  -- each piece has its scanner, and each number fits its width
  refine (lit_bind _ _ _ _).trans ?_
  refine (dec_bind _ _ (by decide) hyear (by omega) _).trans ?_
  refine (lit_bind _ _ _ _).trans ?_
  refine (dec_bind _ _ (by decide) (by omega) (by omega) _).trans ?_
  refine (lit_bind _ _ _ _).trans ?_
  refine (dec_bind _ _ (by decide) (by omega) (by omega) _).trans ?_
  refine (lit_bind _ _ _ _).trans ?_
  refine (dec_bind _ _ (by decide) (by omega) (by omega) _).trans ?_
  refine (lit_bind _ _ _ _).trans ?_
  refine (dec_bind _ _ (by decide) (by omega) (by omega) _).trans ?_
  refine (lit_bind _ _ _ _).trans ?_
  refine (dec_bind _ _ (by decide) (by omega) (by omega) _).trans ?_
  refine (lit_bind _ _ _ _).trans ?_
  refine (dec_bind _ _ (by decide) (by omega) (by omega) _).trans ?_
  refine (lit_bind _ _ _ _).trans ?_
  dsimp only
  rw [scan_word_text _ _ hname rfl]
  dsimp only
  refine (lit_bind _ _ _ _).trans ?_
  refine (hex_bind _ _ (by decide) hid _).trans ?_
  refine (lit_bind _ _ _ _).trans ?_
  refine (dec_bind _ _ (by decide) (by omega) (by omega) _).trans ?_
  refine (lit_bind _ _ _ _).trans ?_
  have hdata := parse_data_shown (msg.frame.data.toList.take msg.frame.can_dlc.toNat)
    ([newline] ++ rest)
  rw [hlen] at hdata
  dsimp only
  rw [Int.toNat_natCast]
  change (parse_data msg.frame.can_dlc.toNat (_ ++ ([newline] ++ rest)) >>= _) = _
  rw [hdata, Option.bind_eq_bind, Option.bind_some]
  exact lit_bind [] rest "\n" _

/-- Lines in a row are read back one by one. -/
theorem parse_lines_shown {msgs : List ChardevMsg} (hprint : ∀ msg ∈ msgs, env.Printable msg)
    {fuel : ℕ} (hfuel : msgs.length ≤ fuel) :
    parse_lines fuel (msgs.flatMap env.line) = some (msgs.map env.fields) := by
  induction msgs generalizing fuel with
  | nil => cases fuel <;> rfl
  | cons msg msgs ih =>
    obtain ⟨fuel, rfl⟩ : ∃ n, fuel = n + 1 := ⟨fuel - 1, by rw [List.length_cons] at hfuel; omega⟩
    have hline := parse_line_shown hname (hprint msg List.mem_cons_self) (msgs.flatMap env.line)
    have hrest := ih (fun m hm => hprint m (List.mem_cons_of_mem _ hm))
      (Nat.le_of_succ_le_succ hfuel)
    obtain ⟨b, bs, hcons⟩ : ∃ b bs, env.line msg ++ msgs.flatMap env.line = b :: bs :=
      List.exists_cons_of_ne_nil (by simp [ReadEnv.line])
    rw [List.flatMap_cons, List.map_cons]
    rw [hcons] at hline ⊢
    rw [parse_lines, hline]
    · simp only [Option.bind_eq_bind, Option.bind_some, hrest]
    · intro hnil
      cases hnil

/-- Every text of lines is read back as the messages it was made of, in order. -/
theorem text_reads_back (msgs : List ChardevMsg) (hprint : ∀ msg ∈ msgs, env.Printable msg) :
    parse_text (msgs.flatMap env.line) = some (msgs.map env.fields) := by
  refine parse_lines_shown hname hprint ?_
  rw [List.length_flatMap]
  have hpos : ∀ n ∈ msgs.map fun msg => (env.line msg).length, 1 ≤ n := by
    intro n hn
    obtain ⟨msg, -, rfl⟩ := List.mem_map.mp hn
    exact Nat.one_le_iff_ne_zero.mpr (by simp [ReadEnv.line])
  have hsum := List.card_nsmul_le_sum _ 1 hpos
  rwa [List.length_map, smul_eq_mul, mul_one] at hsum

/-- A line tells its fields, and nothing else of the message. -/
theorem lines_equal_iff {msg msg' : ChardevMsg} (hprint : env.Printable msg)
    (hprint' : env.Printable msg') :
    env.line msg = env.line msg' ↔ env.fields msg = env.fields msg' := by
  constructor
  · intro hline
    have hmsg := parse_line_shown hname hprint []
    rw [hline, parse_line_shown hname hprint' []] at hmsg
    exact (congrArg Prod.fst (Option.some.inj hmsg)).symm
  · intro hfields
    obtain ⟨hdlc, ⟨hyear, -⟩, ⟨hsec, hmin, hhour, hmday, hmon⟩⟩ := hprint
    obtain ⟨hdlc', ⟨hyear', -⟩, ⟨hsec', hmin', hhour', hmday', hmon'⟩⟩ := hprint'
    obtain ⟨hnsec, -⟩ := tspec_nsec_range env msg
    obtain ⟨hnsec', -⟩ := tspec_nsec_range env msg'
    have husec := Int.tdiv_nonneg hnsec (by decide : (0 : Int) ≤ 1000)
    have husec' := Int.tdiv_nonneg hnsec' (by decide : (0 : Int) ≤ 1000)
    simp only [ReadEnv.fields, LineFields.mk.injEq] at hfields
    obtain ⟨fyear, fmon, fmday, fhour, fmin, fsec, fusec, -, fid, fdata⟩ := hfields
    -- no field is negative, so the numbers printed are the same
    have eyear : (env.when_ msg).tm_year = (env.when_ msg').tm_year := by omega
    have emon : (env.when_ msg).tm_mon = (env.when_ msg').tm_mon := by omega
    have emday : (env.when_ msg).tm_mday = (env.when_ msg').tm_mday := by omega
    have ehour : (env.when_ msg).tm_hour = (env.when_ msg').tm_hour := by omega
    have emin : (env.when_ msg).tm_min = (env.when_ msg').tm_min := by omega
    have esec : (env.when_ msg).tm_sec = (env.when_ msg').tm_sec := by omega
    have eusec : Int.tdiv (env.tspec msg).tv_nsec 1000 = Int.tdiv (env.tspec msg').tv_nsec 1000 := by
      omega
    have edlc : msg.frame.can_dlc.toNat = msg'.frame.can_dlc.toNat := by
      have hlen := congrArg List.length fdata
      rwa [List.length_take, List.length_take, Vector.length_toList, Vector.length_toList,
        min_eq_left hdlc, min_eq_left hdlc'] at hlen
    rw [ReadEnv.line, ReadEnv.line, ReadEnv.head, ReadEnv.head, fdata, eyear, emon, emday, ehour,
      emin, esec, eusec, fid, edlc]

end

/-- The same id in the extended format, with a remote request. -/
def extended_msg : ChardevMsg :=
  { full_msg with
    frame := { full_msg.frame with can_id := 0x123 ||| CAN_EFF_FLAG ||| CAN_RTR_FLAG } }

/-- In the stream it looks the same. -/
theorem lines_equal_iff_extended :
    full_msg.frame ≠ extended_msg.frame ∧ read_env.line full_msg = read_env.line extended_msg :=
  ⟨by decide, (@lines_equal_iff read_env (by decide) full_msg extended_msg full_msg_printable
    ⟨by decide, by decide, by decide, by decide, by decide, by decide, by decide⟩).mpr rfl⟩

/-! ## A row of reads -/

/-- One read of a row: how it is answered, where its text goes, and how much it asks for. -/
structure StreamCall where
  services : Services
  buf : ℕ
  count : ℕ

/-- All of the text is copied, and a wait that fails does so with an error. -/
structure StreamCall.Served (call : StreamCall) : Prop where
  copied : call.services.not_copied = 0
  wait_err : ∀ err signal_pending, call.services.wait = .block err signal_pending → err ≤ 0

/-- Reads in a row, and what they have returned one behind the other. -/
def ReaderState.read_row (env : ReadEnv) : List StreamCall → ReaderState →
    Option (List u8 × ReaderState)
  | [], st => some ([], st)
  | call :: calls, st => do
    let (r, st) ← st.pcan_chardev_read false call.services env call.buf call.count
    let (text, st') ← read_row env calls st
    some (shown r.toNat (fun i => st.user (call.buf + i)) ++ text, st')

/-- A call that is served does not come out of its wait with a positive value. -/
theorem wait_for_msgs_nonpos {call : StreamCall} (hserved : call.Served) (d : Device) :
    wait_for_msgs call.services.wait d ≤ 0 := by
  have hagain : (-EAGAIN : Int) ≤ 0 := by decide
  have hnodev : (-ENODEV : Int) ≤ 0 := by decide
  have hrestart : (-ERESTARTSYS : Int) ≤ 0 := by decide
  cases hwait : call.services.wait with
  | nonblock =>
    rw [wait_for_msgs]
    split
    · exact hagain
    · exact le_rfl
  | block err signal_pending =>
    have herr := hserved.wait_err err signal_pending hwait
    rw [wait_for_msgs]
    split
    · exact herr
    split
    · exact hnodev
    split
    · split
      · exact hrestart
      · exact hagain
    · exact le_rfl

/-- What a copy has put there. -/
theorem shown_at_apply (buf : ℕ) (text : List u8) (user : Bytes) :
    shown text.length (fun i => (Store.mk buf text).apply user (buf + i)) = text := by
  apply List.ext_getElem
  · simp
  · intro i hi hi'
    simp only [shown, List.getElem_map, List.getElem_range]
    exact apply_add hi' buf user

/-- A read returns the lines of some messages from the front of the ring, maybe of none. -/
theorem stream_read_returns {env : ReadEnv} {st : ReaderState} (hring : env.Readable st.dev)
    {call : StreamCall} (hserved : call.Served) :
    ∃ r st' msgs, st.pcan_chardev_read false call.services env call.buf call.count = some (r, st')
      ∧ shown r.toNat (fun i => st'.user (call.buf + i)) = msgs.flatMap env.line
      ∧ st.dev.unread_msgs = msgs ++ st'.dev.unread_msgs ∧ env.Readable st'.dev := by
  by_cases hin : PCAN_CHRDEV_MAX_BYTES_PER_READ < call.count
      ∧ PCAN_USB_STAGE_ONE_STARTED ≤ st.d.stage ∧ wait_for_msgs call.services.wait st.d = 0
  · obtain ⟨hcount, hstage, hwait⟩ := hin
    have hsome : 0 < st.dev.rx_unread_cnt := unread_of_wait hwait
    have hcount' : 80 < call.count := by
      have : (80 : Int) < call.count := hcount
      omega
    obtain ⟨hr, hdev, huser⟩ := read_copied_delivers call.buf hcount' hring hsome hserved.copied
    have hrest := (read_section_rest hcount' hring hsome).1
    have hfront : TakesFront st.dev (pcan_chardev_read_section call.count st.dev) :=
      read_section_takesFront (msgs_to_read_pos hcount').le hring.count_range hring.idx_range
    have hcall : st.pcan_chardev_read false call.services env call.buf call.count
        = some (st.read_copied call.services env call.buf call.count) :=
      st.read_of_wait false env call.buf hcount hstage hwait
    refine ⟨(st.read_copied call.services env call.buf call.count).1,
      (st.read_copied call.services env call.buf call.count).2, st.taken call.count, hcall,
      ?_, ?_, ?_⟩
    · rw [hr, huser, Int.toNat_natCast]
      exact shown_at_apply call.buf _ st.user
    · rw [hdev]
      exact hrest
    · have hle := hring.count_range
      have hcnt := hfront.count_range
      rw [hdev]
      refine ⟨⟨hcnt.1, by omega⟩, ?_, fun msg hmsg => hring.printable msg ?_, hring.name_le⟩
      · rw [hfront.idx_eq]
        exact hring.idx_range
      · rw [hrest]
        exact List.mem_append_right _ hmsg
  · -- turned away, it has done nothing
    have hnone : ∀ err : Int, err ≤ 0 →
        st.pcan_chardev_read false call.services env call.buf call.count = some (err, st) →
        ∃ r st' msgs, st.pcan_chardev_read false call.services env call.buf call.count
            = some (r, st')
          ∧ shown r.toNat (fun i => st'.user (call.buf + i)) = msgs.flatMap env.line
          ∧ st.dev.unread_msgs = msgs ++ st'.dev.unread_msgs ∧ env.Readable st'.dev := by
      intro err herr hcall
      refine ⟨err, st, [], hcall, ?_, rfl, hring⟩
      rw [Int.toNat_of_nonpos herr]
      rfl
    unfold ReaderState.pcan_chardev_read ReaderState.pcan_chardev_read_seen at hnone ⊢
    by_cases hcount : (call.count : Int) > PCAN_CHRDEV_MAX_BYTES_PER_READ
    · by_cases hstage : st.d.stage < PCAN_USB_STAGE_ONE_STARTED
      · exact hnone (-ENODEV) (by decide) ((if_neg (not_not.mpr hcount)).trans (if_pos hstage))
      · have hwait : wait_for_msgs call.services.wait st.d ≠ 0 :=
          fun hwait => hin ⟨hcount, not_lt.mp hstage, hwait⟩
        exact hnone _ (wait_for_msgs_nonpos hserved st.d)
          ((if_neg (not_not.mpr hcount)).trans ((if_neg hstage).trans (if_pos hwait)))
    · exact hnone (-EINVAL) (by decide) (if_pos hcount)

/-- Reads in a row, of any sizes and answered in any way: they have returned the lines of
messages from the front of the ring, and the rest is still unread. -/
theorem read_row_lines {env : ReadEnv} (calls : List StreamCall) : ∀ {st : ReaderState},
    env.Readable st.dev → (∀ call ∈ calls, call.Served) →
    ∃ st' msgs, st.read_row env calls = some (msgs.flatMap env.line, st')
      ∧ st.dev.unread_msgs = msgs ++ st'.dev.unread_msgs
      ∧ ∀ msg ∈ msgs, env.Printable msg := by
  induction calls with
  | nil => exact fun {st} _ _ => ⟨st, [], rfl, rfl, nofun⟩
  | cons call calls ih =>
    intro st hring hserved
    obtain ⟨r, st₁, msgs, hcall, htext, hunread, hring₁⟩ :=
      stream_read_returns hring (hserved call List.mem_cons_self)
    obtain ⟨st₂, msgs₂, hrow, hunread₂, -⟩ :=
      ih hring₁ fun c hc => hserved c (List.mem_cons_of_mem _ hc)
    have hsplit : st.dev.unread_msgs = (msgs ++ msgs₂) ++ st₂.dev.unread_msgs := by
      rw [hunread, hunread₂, List.append_assoc]
    refine ⟨st₂, msgs ++ msgs₂, ?_, hsplit, fun msg hmsg => hring.printable msg ?_⟩
    · rw [ReaderState.read_row, hcall]
      simp only [Option.bind_eq_bind, Option.bind_some, hrow, htext, List.flatMap_append]
    · rw [hsplit]
      exact List.mem_append_left _ hmsg

/-- What the reads of a row have returned, put together, is read back as messages from the
front of the ring, in order and none of them twice. -/
theorem stream_reads_back {env : ReadEnv} (hname : 32 ∉ env.dev_name) (st : ReaderState)
    (calls : List StreamCall) (hring : env.Readable st.dev)
    (hserved : ∀ call ∈ calls, call.Served) :
    ∃ text st' msgs, st.read_row env calls = some (text, st')
      ∧ parse_text text = some (msgs.map env.fields)
      ∧ st.dev.unread_msgs = msgs ++ st'.dev.unread_msgs := by
  obtain ⟨st', msgs, hrow, hunread, hprint⟩ := read_row_lines calls hring hserved
  exact ⟨_, st', msgs, hrow, text_reads_back hname msgs hprint, hunread⟩

/-- Room for one line, for two, and for none. -/
def three_calls : List StreamCall :=
  [⟨Services.leaving 0, 65536, 100⟩, ⟨Services.leaving 0, 65636, 200⟩,
    ⟨Services.leaving 0, 65536, 80⟩]

theorem stream_reads_back_three_calls :
    ∃ text st' msgs, (reader_of 3).read_row read_env three_calls = some (text, st')
      ∧ parse_text text = some (msgs.map read_env.fields)
      ∧ (reader_of 3).dev.unread_msgs = msgs ++ st'.dev.unread_msgs := by
  refine @stream_reads_back read_env (by decide) (reader_of 3) three_calls
    (ring_of_readable (by decide)) fun call hcall => ?_
  simp only [three_calls, List.mem_cons, List.not_mem_nil, or_false] at hcall
  rcases hcall with rfl | rfl | rfl <;> exact ⟨rfl, nofun⟩

end DualPcanUsb
