/-
A read into a mapped user buffer, beside one that copies.

With `map_umem` on, a read pins the page of its buffer and formats straight into the
kernel's mapping of it, which starts where the page starts: the offset of the buffer in its
page is never added. The NUL behind the text goes to the user as well, as far behind the
text as the text is long. Both modes agree on a buffer at the start of a page with room for
that.
-/
import DualPcanUsb.StreamRead
import DualPcanUsb.Lib.Runs

set_option autoImplicit false

namespace DualPcanUsb

open StructBytes

/-! ## The cached mapping

A mapping stays for the next read with the same address. User space keeps its page tables
meanwhile. -/

/-- What `rd_mapped_addr` shows is the page of `rd_user_buf`. -/
def ReaderState.Cached (st : ReaderState) : Prop :=
  st.rd_mapped_addr = some (page_start st.rd_user_buf)
    ∨ st.rd_mapped_addr = none ∧ st.rd_user_buf = 0

/-- What happens to the reader's state with `map_umem` on: reads, the release of the file,
and whatever the rest of the driver and the user's program do. -/
inductive MapAction
  | read (services : Services) (env : ReadEnv) (buf count : ℕ)
  | release
  | elsewhere (d : Device) (user : Bytes)

def ReaderState.step (st : ReaderState) : MapAction → Option ReaderState
  | .read services env buf count =>
    (st.pcan_chardev_read true services env buf count).map Prod.snd
  | .release => some st.unmap_user_readbuf_if_needed
  | .elsewhere d user => some { st with d := d, user := user }

/-- Behind the mapping the address and the page are a pair. -/
theorem map_user_readbuf_cached {st : ReaderState} (h : st.Cached) (services : Services) (buf : ℕ) :
    (st.map_user_readbuf services buf).2.Cached := by
  unfold ReaderState.map_user_readbuf
  split
  · exact h
  split
  · exact h
  dsimp only
  split
  · exact .inr ⟨rfl, rfl⟩
  · exact .inl rfl

/-- The section unmaps nothing. -/
theorem read_mapped_cached {st st' : ReaderState} {env : ReadEnv} {count : ℕ} {r : Int}
    (h : st.Cached) (hread : st.read_mapped env count = some (r, st')) : st'.Cached := by
  unfold ReaderState.read_mapped at hread
  split at hread
  · cases hread
  · obtain rfl := congrArg Prod.snd (Option.some.inj hread)
    exact h
  · obtain rfl := congrArg Prod.snd (Option.some.inj hread)
    exact h

/-- So the pair stays one over calls of every kind. -/
theorem cached_step (st : ReaderState) (action : MapAction) (st' : ReaderState) (h : st.Cached)
    (hstep : st.step action = some st') : st'.Cached := by
  cases action with
  | release =>
    obtain rfl := Option.some.inj hstep
    exact .inr ⟨rfl, rfl⟩
  | elsewhere d user =>
    obtain rfl := Option.some.inj hstep
    exact h
  | read services env buf count =>
    obtain ⟨⟨r, st₁⟩, hread, rfl⟩ := Option.map_eq_some_iff.mp hstep
    unfold ReaderState.pcan_chardev_read ReaderState.pcan_chardev_read_seen at hread
    split at hread
    · obtain rfl := congrArg Prod.snd (Option.some.inj hread)
      exact h
    split at hread
    · obtain rfl := congrArg Prod.snd (Option.some.inj hread)
      exact h
    dsimp only at hread
    split at hread
    · obtain rfl := congrArg Prod.snd (Option.some.inj hread)
      exact h
    have hmap := map_user_readbuf_cached h services buf
    rw [if_pos rfl] at hread
    split at hread
    · obtain rfl := congrArg Prod.snd (Option.some.inj hread)
      exact hmap
    · exact read_mapped_cached hmap hread

/-- Behind every run from a fresh device, the cached page is that of the cached address. -/
theorem cached_run {st₀ st : ReaderState} {actions : List MapAction}
    (hfresh : st₀.rd_mapped_addr = none ∧ st₀.rd_user_buf = 0)
    (hrun : Runs.run ReaderState.step st₀ actions = some st) : st.Cached :=
  Runs.run_invariant ReaderState.step cached_step (.inr hfresh) hrun

/-! ## What lies behind the text -/

/-- From `slack` bytes behind the end of the text on, nothing has changed. -/
def OutBuf.KeepsBehind (slack : ℕ) (o o' : OutBuf) : Prop :=
  ∀ i, o'.pos + slack ≤ i → o'.bytes i = o.bytes i

/-- `sprintf` stores nothing behind the NUL of its text. -/
theorem sprintf_keeps (o : OutBuf) (pieces : List Printf.Piece) :
    o.KeepsBehind 1 (o.sprintf pieces) := by
  intro i hi
  have hpos := (sprintf_emits o pieces).pos_eq
  have happend := append_pos o (Printf.text pieces)
  rw [hpos] at hi
  rw [OutBuf.sprintf, store_bytes_of_ne _ _ (by omega), append_bytes_of_ge _ _ (by omega)]

/-- The prints of the data bytes store nothing behind their last NUL. -/
theorem data_keeps (o : OutBuf) (bs : List u8) :
    o.KeepsBehind 1 (bs.foldl (fun o b => o.sprintf (data_byte b)) o) := by
  induction bs generalizing o with
  | nil => exact fun _ _ => rfl
  | cons b bs ih =>
    intro i hi
    have hpos := (data_emits (o.sprintf (data_byte b)) bs).pos_eq
    rw [List.foldl_cons] at hi ⊢
    rw [ih _ i hi]
    exact sprintf_keeps o (data_byte b) i (by omega)

/-- The newline takes the place of the last NUL. -/
theorem format_msg_keeps (env : ReadEnv) (o : OutBuf) (msg : ChardevMsg) :
    o.KeepsBehind 0 (env.format_msg o msg) := by
  intro i hi
  have hdata := (data_emits (o.sprintf (env.head msg))
    (msg.frame.data.toList.take msg.frame.can_dlc.toNat)).pos_eq
  unfold ReadEnv.format_msg at hi ⊢
  dsimp only at hi ⊢
  rw [(push_emits _ newline).pos_eq, List.length_singleton] at hi
  change (OutBuf.store _ _ _).bytes i = _
  rw [store_bytes_of_ne _ _ (by omega), data_keeps _ _ i hi]
  exact sprintf_keeps o (env.head msg) i (by omega)

/-- Behind the lines of some messages nothing has changed. -/
theorem format_msgs_keeps (env : ReadEnv) (o : OutBuf) (msgs : List ChardevMsg) :
    o.KeepsBehind 0 (msgs.foldl env.format_msg o) := by
  induction msgs generalizing o with
  | nil => exact fun _ _ => rfl
  | cons msg msgs ih =>
    intro i hi
    have hpos := (format_msgs_emits env (env.format_msg o msg) msgs).pos_eq
    rw [List.foldl_cons] at hi ⊢
    rw [ih _ i hi]
    exact format_msg_keeps env o msg i (by omega)

section

variable {st : ReaderState} {env : ReadEnv} {services : Services} {buf count : ℕ}

/-- The text of a read, made anywhere. -/
theorem read_text_taken (hcount : 80 < count) (hring : env.Readable st.dev)
    (hsome : 0 < st.dev.rx_unread_cnt) (bytes : Bytes) :
    ∃ o : OutBuf, (⟨bytes, 0, []⟩ : OutBuf).Emits 0 ((st.taken count).flatMap env.line) o
      ∧ (⟨bytes, 0, []⟩ : OutBuf).KeepsBehind 0 o
      ∧ pcan_chardev_read_text env count st.dev bytes
        = ((o.pos : Int), o.store (o.pos + o.pos) 0, (pcan_chardev_read_section count st.dev).2) := by
  refine ⟨_, format_msgs_emits env _ (st.taken count), format_msgs_keeps env _ _, ?_⟩
  unfold pcan_chardev_read_text
  rw [read_section_taken hcount hring hsome]

/-! ## A read with a page mapped -/

/-- The length of what a read returns. -/
def ReaderState.text_len (st : ReaderState) (env : ReadEnv) (count : ℕ) : ℕ :=
  ((st.taken count).map env.line_len).sum

theorem length_taken_lines (hring : env.Readable st.dev) :
    ((st.taken count).flatMap env.line).length = st.text_len env count :=
  length_lines fun msg hmsg => hring.printable msg (List.mem_of_mem_take hmsg)

/-- At most eight lines: twice their length is well below a page. -/
theorem text_len_lt (hring : env.Readable st.dev) :
    2 * st.text_len env count < PAGE_SIZE := by
  have hle := @line_lens_le env (st.taken count) hring.name_le
    fun msg hmsg => hring.printable msg (List.mem_of_mem_take hmsg)
  have hlen := length_taken st count
  have hrange := hring.count_range
  unfold ReaderState.text_len PAGE_SIZE
  omega

/-- A message makes some text. -/
theorem text_len_pos (hcount : 80 < count) (hsome : 0 < st.dev.rx_unread_cnt) :
    0 < st.text_len env count := by
  have hlen := length_taken st count
  have hne : st.taken count ≠ [] := by
    apply List.ne_nil_of_length_pos
    omega
  obtain ⟨msg, rest, hcons⟩ := List.exists_cons_of_ne_nil hne
  rw [ReaderState.text_len, hcons, List.map_cons, List.sum_cons, ReadEnv.line_len]
  omega

/-- The user's memory behind a read with `page` mapped: the text from the start of the page
on, a NUL as far behind it as it is long, and nothing else changed. -/
structure PageRead (page : ℕ) (text : List u8) (user user' : Bytes) : Prop where
  text_at : ∀ i b, text[i]? = some b → user' (page + i) = b
  nul_at : user' (page + 2 * text.length) = 0
  else_kept : ∀ a, a < page ∨ page + text.length ≤ a → a ≠ page + 2 * text.length →
    user' a = user a

/-- The lines go to the start of the page, and one more byte behind them. -/
theorem read_mapped_writes {page : ℕ} (hcount : 80 < count) (hring : env.Readable st.dev)
    (hsome : 0 < st.dev.rx_unread_cnt) (hpage : st.rd_mapped_addr = some page) :
    ∃ st', st.read_mapped env count = some ((st.text_len env count : Int), st')
      ∧ PageRead page ((st.taken count).flatMap env.line) st.user st'.user := by
  obtain ⟨o, hemits, hkeeps, htext⟩ :=
    read_text_taken hcount hring hsome fun i => st.user (page + i)
  have hlen := @length_taken_lines st env count hring
  have hpos : o.pos = st.text_len env count := by
    rw [hemits.pos_eq, hlen, Nat.zero_add]
  have hfits := @text_len_lt st env count hring
  have hsome' := @text_len_pos st env count hcount hsome
  have hinside : ∀ i < PAGE_SIZE, ∀ bytes,
      user_page_written st.user page bytes (page + i) = bytes i := by
    intro i hi bytes
    rw [user_page_written, if_pos ⟨by omega, by omega⟩, Nat.add_sub_cancel_left]
  refine ⟨{ st.set_dev (pcan_chardev_read_section count st.dev).2 with
    user := user_page_written st.user page (o.store (o.pos + o.pos) 0).bytes }, ?_, ?_⟩
  · unfold ReaderState.read_mapped
    rw [hpage]
    dsimp only
    rw [htext]
    dsimp only
    rw [hpos]
  refine ⟨?_, ?_, ?_⟩
  · intro i b hb
    have hi := (List.getElem?_eq_some_iff.mp hb).1
    have hbyte := hemits.written i b hb
    dsimp only at hbyte
    rw [Nat.zero_add] at hbyte
    dsimp only
    rw [hinside i (by omega), store_bytes_of_ne _ _ (by omega), hbyte]
  · dsimp only
    rw [hinside _ (by omega), hlen, ← hpos, two_mul]
    exact Function.update_self ..
  · intro a ha hnul
    dsimp only
    unfold user_page_written
    by_cases hin : page ≤ a ∧ a < page + PAGE_SIZE
    · -- behind the text, and not the NUL
      rw [if_pos hin, store_bytes_of_ne _ _ (by omega), hkeeps _ (by omega)]
      dsimp only
      rw [Nat.add_sub_cancel' hin.1]
    · exact if_neg hin

/-! ## Both modes -/

/-- The call gets to its locked section, with something to read. -/
def ReaderState.Delivers (st : ReaderState) (services : Services) : Prop :=
  PCAN_USB_STAGE_ONE_STARTED ≤ st.d.stage ∧ wait_for_msgs services.wait st.d = 0

/-- Whatever the user's memory holds: with `map_umem` on, the call returns what it returns with
`map_umem` off, leaves the same bytes in front of that length, and changes nothing outside
the buffer. -/
def ReaderState.ReadsAlike (st : ReaderState) (services : Services) (env : ReadEnv)
    (buf count : ℕ) : Prop :=
  ∀ user : Bytes, ∃ mapped copied,
    { st with user := user }.pcan_chardev_read true services env buf count = some mapped
      ∧ { st with user := user }.pcan_chardev_read false services env buf count = some copied
      ∧ mapped.1 = copied.1
      ∧ (∀ i : ℕ, (i : Int) < copied.1 → mapped.2.user (buf + i) = copied.2.user (buf + i))
      ∧ ∀ a, a < buf ∨ buf + count ≤ a → mapped.2.user a = user a ∧ copied.2.user a = user a

/-- The buffer starts a page, there is a mapping (made for this buffer by an earlier read, or
to be made by this one), and the NUL lands inside. -/
structure ReaderState.MapFits (st : ReaderState) (env : ReadEnv) (buf count : ℕ) : Prop where
  mapped : ¬ (buf = st.rd_user_buf ∧ st.rd_mapped_addr = none)
  aligned : page_start buf = buf
  nul_inside : 2 * st.text_len env count < count

/-- The mapping succeeds and writes nothing. -/
theorem map_user_readbuf_maps (hcached : st.Cached) (hok : services.access_ok = true)
    (hpin : 0 ≤ services.pin_err) (hmapped : ¬ (buf = st.rd_user_buf ∧ st.rd_mapped_addr = none)) :
    (st.map_user_readbuf services buf).1 = 0
      ∧ (st.map_user_readbuf services buf).2.rd_mapped_addr = some (page_start buf)
      ∧ (st.map_user_readbuf services buf).2.user = st.user := by
  unfold ReaderState.map_user_readbuf
  by_cases hsame : buf = st.rd_user_buf
  · rw [if_pos hsame]
    refine ⟨rfl, ?_, rfl⟩
    rcases hcached with hpage | ⟨hnone, -⟩
    · rw [hsame]
      exact hpage
    · exact absurd ⟨hsame, hnone⟩ hmapped
  · rw [if_neg hsame, if_neg (not_not.mpr hok)]
    dsimp only
    rw [if_neg (not_lt.mpr hpin)]
    exact ⟨rfl, rfl, rfl⟩

/-- With a mapping to write to, what a read does to the user's memory, in either mode. -/
theorem reads_of_delivers (hcached : st.Cached) (hcount : 80 < count) (hring : env.Readable st.dev)
    (hok : services.access_ok = true) (hpin : 0 ≤ services.pin_err)
    (hcopied : services.not_copied = 0) (h : st.Delivers services)
    (hmapped : ¬ (buf = st.rd_user_buf ∧ st.rd_mapped_addr = none)) :
    ∃ mapped copied,
      st.pcan_chardev_read true services env buf count = some mapped
        ∧ st.pcan_chardev_read false services env buf count = some copied
        ∧ mapped.1 = st.text_len env count ∧ copied.1 = st.text_len env count
        ∧ PageRead (page_start buf) ((st.taken count).flatMap env.line) st.user mapped.2.user
        ∧ copied.2.user = (Store.mk buf ((st.taken count).flatMap env.line)).apply st.user := by
  have hsome : 0 < st.dev.rx_unread_cnt := unread_of_wait h.2
  obtain ⟨herr, hpage, huser⟩ := map_user_readbuf_maps hcached hok hpin hmapped
  have hdev := st.map_user_readbuf_dev services buf
  obtain ⟨st', hread, hpageread⟩ := @read_mapped_writes
    (st.map_user_readbuf services buf).2 env count (page_start buf) hcount (by rw [hdev]; exact hring) (by rw [hdev]; exact hsome) hpage
  have htaken : (st.map_user_readbuf services buf).2.taken count = st.taken count := by
    rw [ReaderState.taken, ReaderState.taken, hdev]
  have htext : (st.map_user_readbuf services buf).2.text_len env count = st.text_len env count := by
    rw [ReaderState.text_len, ReaderState.text_len, htaken]
  rw [htext] at hread
  rw [htaken, huser] at hpageread
  obtain ⟨hr, -, hcopy⟩ := read_copied_delivers buf hcount hring hsome hcopied
  rw [length_taken_lines hring] at hr
  refine ⟨(st.text_len env count, st'), st.read_copied services env buf count, ?_, ?_, rfl, hr,
    hpageread, hcopy⟩
  · rw [st.read_of_wait true env buf (Int.ofNat_lt.mpr hcount) h.1 h.2, if_pos rfl,
      if_neg (by omega)]
    exact hread
  · rw [st.read_of_wait false env buf (Int.ofNat_lt.mpr hcount) h.1 h.2]
    rfl

/-- Where nothing is mapped, the kernel faults. -/
theorem read_faults (hcount : 80 < count) (hring : env.Readable st.dev)
    (h : st.Delivers services) (hunmapped : buf = st.rd_user_buf ∧ st.rd_mapped_addr = none) :
    st.pcan_chardev_read true services env buf count = none := by
  have hsome : 0 < st.dev.rx_unread_cnt := unread_of_wait h.2
  have hsection := read_section_taken hcount hring hsome
  have hmap : st.map_user_readbuf services buf = (0, st) := if_pos hunmapped.1
  rw [st.read_of_wait true env buf (Int.ofNat_lt.mpr hcount) h.1 h.2, if_pos rfl, hmap,
    if_neg (lt_irrefl 0), ReaderState.read_mapped, hunmapped.2, hsection]

/-- The text has a first byte. -/
theorem text_getElem? (hcount : 80 < count) (hring : env.Readable st.dev)
    (hsome : 0 < st.dev.rx_unread_cnt) : ∃ b, ((st.taken count).flatMap env.line)[0]? = some b := by
  have hpos := @text_len_pos st env count hcount hsome
  rw [← length_taken_lines hring] at hpos
  exact ⟨_, List.getElem?_eq_getElem hpos⟩

/-- If both ways deliver the same, the buffer starts its page and the NUL stays in it. -/
theorem mapFits_of_readsAlike (hcached : st.Cached) (hcount : 80 < count)
    (hring : env.Readable st.dev) (hok : services.access_ok = true) (hpin : 0 ≤ services.pin_err)
    (hcopied : services.not_copied = 0) (hsame : st.ReadsAlike services env buf count)
    (h : st.Delivers services) : st.MapFits env buf count := by
  have hsome : 0 < st.dev.rx_unread_cnt := unread_of_wait h.2
  have hmapped : ¬ (buf = st.rd_user_buf ∧ st.rd_mapped_addr = none) := by
    intro hunmapped
    obtain ⟨mapped, -, hread, -⟩ := hsame fun _ => 0
    rw [@read_faults { st with user := fun _ => 0 } env services buf count hcount hring h
      hunmapped] at hread
    cases hread
  -- what both calls leave in a memory that is `b` everywhere
  have hall : ∀ b : u8, ∃ user' : Bytes,
      PageRead (page_start buf) ((st.taken count).flatMap env.line) (fun _ => b) user'
        ∧ ∀ a, a < buf ∨ buf + count ≤ a → user' a = b := by
    intro b
    obtain ⟨mapped, copied, hread, -, -, -, houtside⟩ := hsame fun _ => b
    obtain ⟨mapped', -, hread', -, -, -, hpage, -⟩ :=
      @reads_of_delivers { st with user := fun _ => b } env services buf count hcached hcount hring
        hok hpin hcopied h hmapped
    obtain rfl := Option.some.inj (hread.symm.trans hread')
    exact ⟨mapped.2.user, hpage, fun a ha => (houtside a ha).1⟩
  have hstart : page_start buf = buf := by
    by_contra hne
    have hlt : page_start buf < buf := lt_of_le_of_ne (Nat.div_mul_le_self _ _) hne
    obtain ⟨b, hb⟩ := text_getElem? hcount hring hsome
    obtain ⟨user', hpage, houtside⟩ := hall (b + 1)
    have htext := hpage.text_at 0 b hb
    rw [Nat.add_zero, houtside _ (.inl hlt)] at htext
    simp at htext
  refine ⟨hmapped, hstart, ?_⟩
  by_contra hlong
  obtain ⟨user', hpage, houtside⟩ := hall 1
  have hnul := hpage.nul_at
  rw [hstart, length_taken_lines hring, houtside _ (.inr (by omega))] at hnul
  exact absurd hnul (by decide)

/-- If so, both ways deliver the same. -/
theorem readsAlike_of_mapFits (hcached : st.Cached) (hcount : 80 < count)
    (hring : env.Readable st.dev) (hok : services.access_ok = true) (hpin : 0 ≤ services.pin_err)
    (hcopied : services.not_copied = 0) (h : st.Delivers services)
    (hfits : st.MapFits env buf count) : st.ReadsAlike services env buf count := by
  intro user
  obtain ⟨mapped, copied, hread, hread', hr, hr', hpage, hcopy⟩ :=
    @reads_of_delivers { st with user := user } env services buf count hcached hcount hring hok
      hpin hcopied h hfits.mapped
  have hlen := @length_taken_lines st env count hring
  have hnul := hfits.nul_inside
  have hstart := hfits.aligned
  change PageRead _ ((st.taken count).flatMap env.line) user _ at hpage
  change _ = (Store.mk buf ((st.taken count).flatMap env.line)).apply user at hcopy
  change copied.1 = (st.text_len env count : Int) at hr'
  refine ⟨mapped, copied, hread, hread', hr.trans hr'.symm, fun i hi => ?_, fun a ha => ⟨?_, ?_⟩⟩
  · rw [hr'] at hi
    have hi : i < ((st.taken count).flatMap env.line).length := by omega
    have htext := hpage.text_at i _ (List.getElem?_eq_getElem hi)
    rw [hstart] at htext
    rw [htext, hcopy, apply_add hi]
  · exact hpage.else_kept a (by omega) (by omega)
  · rw [hcopy]
    apply apply_of_not_covers
    unfold Store.Covers
    dsimp only
    omega

/-- A call that delivers nothing is alike in both modes. -/
theorem readsAlike_of_not_delivers (h : ¬ st.Delivers services) :
    st.ReadsAlike services env buf count := by
  intro user
  obtain ⟨err, haway⟩ := ({ st with user := user } : ReaderState).read_turned_away services env buf
    fun hin => h hin.2
  exact ⟨_, _, haway true, haway false, rfl, fun _ _ => rfl, fun _ _ => ⟨rfl, rfl⟩⟩

end

/-- One message unread, and a mapping left by an earlier read. -/
def mapped_reader : ReaderState :=
  { reader_of 1 with rd_user_buf := 65536, rd_mapped_addr := some 65536 }

end DualPcanUsb
