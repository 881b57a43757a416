/-
The reading half of the test application, `do_read` of `test_app.c`.

It reads into one buffer again and again, and prints the buffer as a C string. The driver
copies the bytes of the text and no NUL, and the application stores none, so what ends the
string is a NUL the buffer was filled with: behind a text shorter than an earlier one stands
what is left of that one, and is printed once more.
-/
import DualPcanUsb.StreamRead
import DualPcanUsb.Lib.CString

set_option autoImplicit false

namespace DualPcanUsb

open Printf CString StructBytes

/-! ## The application -/

def POLLHUP : u32 := 0x0010
def POLLNVAL : u32 := 0x0020

def DEV_NAME : String := "pcanusb"

/-- What `do_read` uses of `cmdline_params_t`, but for the time-out it hands to `poll`. -/
structure CmdlineParams where
  dev_num : u32
  cycle_count : Int
  is_blocking : Bool

/-- What one iteration meets: whether a signal has come, what `poll` returns and finds, and
what `read` returns, an error or the bytes it puts at the front of the buffer. -/
structure Iteration where
  interrupted : Bool
  poll_ret : Int
  revents : u32
  read : Except Int (List u8)

/-- The size of `buf`, which is also the length of every read. -/
def app_buf_size : ℕ := (PCAN_CHRDEV_MAX_BYTES_PER_READ * PCAN_CHRDEV_MAX_RX_BUF_COUNT + 1).toNat

/-- `reads` are the texts read so far. -/
structure AppState where
  buf : List u8
  i : Int
  stdout : List u8
  stderr : List String
  reads : List (List u8)

def AppState.complain (st : AppState) (msg : String) : AppState :=
  { st with stderr := st.stderr ++ [msg] }

inductive PollEnd
  | ready
  | timed_out
  | failed (msg : String)

/-- The wait of an iteration. -/
def CmdlineParams.poll_end (params : CmdlineParams) (it : Iteration) : PollEnd :=
  if params.is_blocking then .ready
  else if it.poll_ret = 0 then .timed_out
  else if it.poll_ret < 0 then .failed "poll failure"
  else if it.revents &&& POLLERR ≠ 0 then
    .failed "Error occurred during polling, see kernel log for more details.\n"
  else if it.revents &&& POLLHUP ≠ 0 then .failed "Hang up!\n"
  else if it.revents &&& POLLNVAL ≠ 0 then .failed "Invalid polling request!\n"
  else .ready

/-- The read of an iteration and the `printf` behind it, and whether the loop goes on. Without
a NUL in the buffer `printf` runs past it. -/
def AppState.read_and_print (st : AppState) (it : Iteration) : Option (Bool × AppState) :=
  match it.read with
  | .error _ => some (false, st.complain "Read exception (but not always failure)")
  | .ok [] => some (false, st)
  | .ok (b :: bs) =>
    let buf := overlay (b :: bs) st.buf
    (print buf).map fun text =>
      (true, { st with buf := buf, stdout := st.stdout ++ text, reads := st.reads ++ [b :: bs] })

/-- The body of the loop. -/
def CmdlineParams.iterate (params : CmdlineParams) (st : AppState) (it : Iteration) :
    Option (Bool × AppState) :=
  if it.interrupted then some (false, st.complain "Interrupted by signal.\n")
  else
    match params.poll_end it with
    | .timed_out => some (true, st)
    | .failed msg => some (false, st.complain msg)
    | .ready => st.read_and_print it

/-- The loop, as far as the iterations go. -/
def CmdlineParams.do_read_loop (params : CmdlineParams) :
    AppState → List Iteration → Option AppState
  | st, [] => some st
  | st, it :: its =>
    if params.cycle_count < 0 ∨ st.i < params.cycle_count then
      match params.iterate st it with
      | none => none
      | some (true, st) => params.do_read_loop { st with i := st.i + 1 } its
      | some (false, st) => some st
    else some st

/-- The state the loop starts from: nothing printed but a hint, the buffer all NULs. -/
def CmdlineParams.start (params : CmdlineParams) : AppState where
  buf := List.replicate app_buf_size 0
  i := 0
  stdout := []
  stderr := ["If there's no output, try this command: cat /dev/" ++ DEV_NAME
    ++ toString params.dev_num.toNat ++ "\n"]
  reads := []

def CmdlineParams.do_read (params : CmdlineParams) (its : List Iteration) : Option AppState :=
  params.do_read_loop params.start its

/-! ## What the driver gives a reader -/

/-- The text of a successful read: at most eight lines, without a NUL. -/
structure DriverText (bs : List u8) : Prop where
  length_le : bs.length ≤ 640
  not_nul : 0 ∉ bs
  ends : bs.getLast? = some newline

section

variable {st : ReaderState} {env : ReadEnv}

/-- A line has no NUL, unless the name has one. -/
theorem nul_notMem_line (hname : 0 ∉ env.dev_name) (msg : ChardevMsg) : 0 ∉ env.line msg := by
  have hhead : 0 ∉ text (env.head msg) := by
    apply nul_notMem_text
    intro p hp
    simp only [ReadEnv.head, List.mem_cons, List.not_mem_nil, or_false] at hp
    rcases hp with rfl | rfl | rfl | rfl | rfl | rfl | rfl | rfl | rfl | rfl | rfl | rfl | rfl
      | rfl | rfl | rfl | rfl | rfl | rfl | rfl | rfl
    all_goals first | trivial | exact hname | (change 0 ∉ ascii _; decide)
  have hbyte : ∀ b, 0 ∉ text (data_byte b) := by
    intro b
    apply nul_notMem_text
    intro p hp
    rcases List.mem_cons.mp hp with rfl | hp
    · change 0 ∉ ascii _
      decide
    · rw [List.mem_singleton.mp hp]
      trivial
  rw [ReadEnv.line, List.mem_append, List.mem_append, List.mem_flatMap]
  rintro ((hmem | ⟨b, -, hmem⟩) | hmem)
  · exact hhead hmem
  · exact hbyte b hmem
  · cases List.mem_singleton.mp hmem

theorem line_end (msg : ChardevMsg) : (env.line msg).getLast? = some newline := by
  rw [ReadEnv.line, List.getLast?_concat]

/-- The text of some messages ends with a line feed. -/
theorem lines_end {msgs : List ChardevMsg} (hne : msgs ≠ []) :
    (msgs.flatMap env.line).getLast? = some newline := by
  obtain ⟨init, msg, rfl⟩ := (List.eq_nil_or_concat' msgs).resolve_left hne
  rw [List.flatMap_append, List.flatMap_singleton, List.getLast?_append, line_end]
  rfl

/-- A read in copy mode that fails nowhere puts such a text at the front of the buffer. -/
theorem read_driver_text {services : Services} (buf : ℕ) (hring : env.Readable st.dev)
    (hname : 0 ∉ env.dev_name) (hsome : 0 < st.dev.rx_unread_cnt)
    (hcopied : services.not_copied = 0) :
    ∃ text : List u8, DriverText text
      ∧ (st.read_copied services env buf app_buf_size).1 = text.length
      ∧ (st.read_copied services env buf app_buf_size).2.user
        = (Store.mk buf text).apply st.user := by
  have hcount : 80 < app_buf_size := by decide
  obtain ⟨hr, -, huser⟩ := read_copied_delivers buf hcount hring hsome hcopied
  have hprint : ∀ msg ∈ st.taken app_buf_size, env.Printable msg := fun msg hmsg =>
    hring.printable msg (List.mem_of_mem_take hmsg)
  have hlen := length_taken st app_buf_size
  have hrange := hring.count_range
  refine ⟨_, ⟨?_, ?_, lines_end ?_⟩, hr, huser⟩
  · have hle := line_lens_le hring.name_le hprint
    rw [length_lines hprint]
    omega
  · intro hmem
    obtain ⟨msg, -, hmsg⟩ := List.mem_flatMap.mp hmem
    exact nul_notMem_line hname msg hmsg
  · apply List.ne_nil_of_length_pos
    rw [hlen]
    have hsize : (app_buf_size - 1) / 80 = 8 := by decide
    omega

end

/-! ## What is printed -/

/-- The buffer holds what the texts have made of it, and that has been printed after each of
them. -/
structure AppState.Echoes (st : AppState) : Prop where
  padded : Padded st.buf (overlays [] st.reads)
  length_eq : st.buf.length = app_buf_size
  length_le : (overlays [] st.reads).length ≤ 640
  stdout_eq : st.stdout = echo [] st.reads

/-- Every read of an iteration that returns something returns a text of the driver. -/
def Iteration.Reads (it : Iteration) : Prop :=
  ∀ bs, it.read = .ok bs → bs ≠ [] → DriverText bs

section

variable {params : CmdlineParams} {st : AppState} {it : Iteration}

theorem start_echoes : params.start.Echoes :=
  ⟨padded_replicate _, List.length_replicate .., Nat.zero_le _, rfl⟩

/-- Whatever was said on `stderr`. -/
theorem AppState.Echoes.complain (h : st.Echoes) (msg : String) : (st.complain msg).Echoes :=
  ⟨h.padded, h.length_eq, h.length_le, h.stdout_eq⟩

/-- A text of the driver goes over the one before, and the buffer still ends with a NUL. -/
theorem read_and_print_echoes (h : st.Echoes) (hreads : it.Reads) :
    ∃ goes_on st', st.read_and_print it = some (goes_on, st') ∧ st'.Echoes := by
  unfold AppState.read_and_print
  match hread : it.read with
  | .error err => exact ⟨_, _, rfl, h.complain _⟩
  | .ok [] => exact ⟨_, _, rfl, h⟩
  | .ok (b :: bs) =>
    have htext := hreads _ hread (List.cons_ne_nil b bs)
    have hsize : app_buf_size = 641 := rfl
    have hle := htext.length_le
    have hroom : (b :: bs).length ≤ st.buf.length := by
      rw [h.length_eq]
      omega
    have hpadded := h.padded.overlay htext.not_nul hroom
    rw [← overlays_concat] at hpadded
    have hlen : (overlays [] (st.reads ++ [b :: bs])).length ≤ 640 := by
      rw [overlays_concat, length_overlay]
      exact max_le hle h.length_le
    have hbuf : (overlay (b :: bs) st.buf).length = app_buf_size := by
      rw [length_overlay, h.length_eq]
      omega
    have hprint := hpadded.print (by rw [hbuf]; omega)
    dsimp only
    rw [hprint]
    refine ⟨_, _, rfl, hpadded, hbuf, hlen, ?_⟩
    dsimp only
    rw [h.stdout_eq, echo_concat, overlays_concat]

/-- One round of the loop keeps what is printed the echo of what is read. -/
theorem iterate_echoes (h : st.Echoes) (hreads : it.Reads) :
    ∃ goes_on st', params.iterate st it = some (goes_on, st') ∧ st'.Echoes := by
  unfold CmdlineParams.iterate
  by_cases hinterrupted : it.interrupted = true
  · rw [if_pos hinterrupted]
    exact ⟨_, _, rfl, h.complain _⟩
  rw [if_neg hinterrupted]
  cases params.poll_end it with
  | ready => exact read_and_print_echoes h hreads
  | timed_out => exact ⟨_, _, rfl, h⟩
  | failed msg => exact ⟨_, _, rfl, h.complain msg⟩

/-- The whole loop keeps what is printed the echo of what is read. -/
theorem do_read_loop_echoes {its : List Iteration} (hreads : ∀ it ∈ its, it.Reads)
    (h : st.Echoes) : ∃ st', params.do_read_loop st its = some st' ∧ st'.Echoes := by
  induction its generalizing st with
  | nil => exact ⟨st, rfl, h⟩
  | cons it its ih =>
    obtain ⟨hit, hits⟩ := List.forall_mem_cons.mp hreads
    rw [CmdlineParams.do_read_loop]
    by_cases hcycle : params.cycle_count < 0 ∨ st.i < params.cycle_count
    · rw [if_pos hcycle]
      obtain ⟨goes_on, st', hiterate, hechoes⟩ := @iterate_echoes params st it h hit
      rw [hiterate]
      cases goes_on with
      | true => exact ih hits ⟨hechoes.padded, hechoes.length_eq, hechoes.length_le,
          hechoes.stdout_eq⟩
      | false => exact ⟨st', rfl, hechoes⟩
    · rw [if_neg hcycle]
      exact ⟨st, rfl, h⟩

/-! ## Which texts are read -/

/-- The text an iteration gets to read. -/
def CmdlineParams.text_read (params : CmdlineParams) (it : Iteration) : Option (List u8) :=
  if it.interrupted then none
  else
    match params.poll_end it, it.read with
    | .ready, .ok (b :: bs) => some (b :: bs)
    | _, _ => none

/-- What a round has read is one text more. -/
theorem iterate_reads {bs : List u8} {goes_on : Bool} {st' : AppState}
    (hread : params.text_read it = some bs)
    (h : params.iterate st it = some (goes_on, st')) :
    goes_on = true ∧ st'.i = st.i ∧ st'.reads = st.reads ++ [bs] := by
  unfold CmdlineParams.text_read at hread
  unfold CmdlineParams.iterate at h
  by_cases hinterrupted : it.interrupted = true
  · rw [if_pos hinterrupted] at hread
    cases hread
  rw [if_neg hinterrupted] at hread h
  cases hpoll : params.poll_end it with
  | timed_out | failed => rw [hpoll] at hread; cases hread
  | ready =>
    rw [hpoll] at hread h
    dsimp only at h
    unfold AppState.read_and_print at h
    match hit : it.read with
    | .error err => rw [hit] at hread; cases hread
    | .ok [] => rw [hit] at hread; cases hread
    | .ok (b :: bs') =>
      rw [hit] at hread h
      obtain rfl := Option.some.inj hread
      obtain ⟨text, -, heq⟩ := Option.map_eq_some_iff.mp h
      obtain ⟨rfl, rfl⟩ := Prod.mk.inj heq
      exact ⟨rfl, rfl, rfl⟩

/-- Where every iteration reads a text, and the cycles last, the loop reads them all. -/
theorem do_read_loop_reads {its : List Iteration} {texts : List (List u8)} {st' : AppState}
    (hread : its.map params.text_read = texts.map some)
    (hcycles : params.cycle_count < 0 ∨ st.i + texts.length ≤ params.cycle_count)
    (h : params.do_read_loop st its = some st') : st'.reads = st.reads ++ texts := by
  induction its generalizing st texts with
  | nil =>
    obtain rfl : texts = [] := by simpa using hread.symm
    obtain rfl := Option.some.inj h
    rw [List.append_nil]
  | cons it its ih =>
    obtain ⟨bs, texts, rfl, hbs, hrest⟩ : ∃ bs rest, texts = bs :: rest
        ∧ params.text_read it = some bs ∧ its.map params.text_read = rest.map some := by
      cases texts with
      | nil => cases hread
      | cons bs rest =>
        rw [List.map_cons, List.map_cons, List.cons.injEq] at hread
        exact ⟨bs, rest, rfl, hread⟩
    rw [List.length_cons] at hcycles
    rw [CmdlineParams.do_read_loop, if_pos (by omega)] at h
    split at h
    · cases h
    · rename_i st₁ hiterate
      obtain ⟨-, hi, hreads⟩ := iterate_reads hbs hiterate
      have hnext := @ih { st₁ with i := st₁.i + 1 } texts hrest (by dsimp only; omega) h
      rw [hnext, hreads, List.append_assoc]
      rfl
    · rename_i st₁ hiterate
      cases (iterate_reads hbs hiterate).1

end

/-- What is printed is what was read exactly if no text is shorter than the one before it, for
every run of the loop; where every iteration reads, the texts of the run are those of its
iterations. -/
theorem do_read_prints_iff (params : CmdlineParams) {its : List Iteration}
    (hreads : ∀ it ∈ its, it.Reads) :
    ∃ st, params.do_read its = some st
      ∧ (st.stdout = st.reads.flatten ↔ st.reads.IsChain fun a b => a.length ≤ b.length)
      ∧ ∀ texts, its.map params.text_read = texts.map some →
          (params.cycle_count < 0 ∨ (texts.length : Int) ≤ params.cycle_count) →
          st.reads = texts := by
  obtain ⟨st, hst, hechoes⟩ := @do_read_loop_echoes params params.start its hreads start_echoes
  refine ⟨st, hst, ?_, fun texts htexts hcycles => ?_⟩
  · rw [hechoes.stdout_eq, echo_eq_flatten_iff]
    -- nothing is shorter than the empty text the buffer starts with
    cases st.reads with
    | nil => simp
    | cons bs reads => simp [List.isChain_cons_cons]
  · have hstart : params.start.i = 0 := rfl
    exact do_read_loop_reads htexts (by rw [hstart]; omega) hst

/-- A message without data bytes. -/
def empty_msg : ChardevMsg :=
  { full_msg with frame := { full_msg.frame with can_dlc := 0 } }

/-- The line of a message of eight bytes, and that of one without. -/
def long_line : List u8 := read_env.line full_msg

def short_line : List u8 := read_env.line empty_msg

theorem empty_msg_printable : read_env.Printable empty_msg :=
  ⟨by decide, by decide, by decide, by decide, by decide, by decide, by decide⟩

theorem length_long_line : long_line.length = 80 := length_line full_msg_printable

theorem length_short_line : short_line.length = 56 := length_line empty_msg_printable

/-- A line is a text of the driver. -/
theorem line_driver_text {msg : ChardevMsg} (h : read_env.Printable msg) :
    DriverText (read_env.line msg) := by
  have hlen := length_line h
  have hdlc := h.dlc_le
  have hname : read_env.dev_name.length = 9 := by decide
  exact ⟨by omega, nul_notMem_line (by decide) msg, line_end msg⟩

/-- A message is there, and `read` returns its line. -/
def Iteration.reading (bs : List u8) : Iteration := ⟨false, 1, POLLIN, .ok bs⟩

/-- A round that reads a driver's text is a round of the application. -/
theorem reading_reads {bs : List u8} (h : DriverText bs) : (Iteration.reading bs).Reads := by
  intro bs' heq _
  obtain rfl := Except.ok.inj heq
  exact h

/-- A longer text behind a shorter one. -/
theorem do_read_prints_iff_growing :
    ∃ st, (⟨32, -1, true⟩ : CmdlineParams).do_read [.reading short_line, .reading long_line]
        = some st
      ∧ (st.stdout = st.reads.flatten ↔ st.reads.IsChain fun a b => a.length ≤ b.length)
      ∧ ∀ texts, [Iteration.reading short_line, .reading long_line].map
            (⟨32, -1, true⟩ : CmdlineParams).text_read = texts.map some →
          ((-1 : Int) < 0 ∨ (texts.length : Int) ≤ -1) → st.reads = texts :=
  do_read_prints_iff ⟨32, -1, true⟩ (List.forall_mem_cons.mpr
    ⟨reading_reads (line_driver_text empty_msg_printable), List.forall_mem_singleton.mpr
      (reading_reads (line_driver_text full_msg_printable))⟩)

/-- A shorter text behind a longer one: the rest of the longer one is printed again. -/
theorem stale_text_printed :
    ∃ st, (⟨32, -1, true⟩ : CmdlineParams).do_read [.reading long_line, .reading short_line]
        = some st
      ∧ DriverText long_line ∧ DriverText short_line
      ∧ st.reads = [long_line, short_line]
      ∧ st.stdout = long_line ++ short_line ++ long_line.drop 56
      ∧ st.stdout ≠ st.reads.flatten := by
  have hlong := line_driver_text full_msg_printable
  have hshort := line_driver_text empty_msg_printable
  obtain ⟨st, hst, hechoes⟩ := @do_read_loop_echoes ⟨32, -1, true⟩
    (⟨32, -1, true⟩ : CmdlineParams).start [.reading long_line, .reading short_line]
    (List.forall_mem_cons.mpr ⟨reading_reads hlong,
      List.forall_mem_singleton.mpr (reading_reads hshort)⟩) start_echoes
  have hreads : st.reads = [long_line, short_line] := by
    refine do_read_loop_reads ?_ (.inl (by decide)) hst
    rfl
  have hstdout : st.stdout = long_line ++ short_line ++ long_line.drop 56 := by
    rw [hechoes.stdout_eq, hreads, echo, echo, echo, overlay_of_le (Nat.zero_le _), overlay,
      length_short_line, List.append_nil, List.append_assoc]
  refine ⟨st, hst, hlong, hshort, hreads, hstdout, fun hsame => ?_⟩
  have hlen := congrArg List.length (hstdout.symm.trans hsame)
  rw [hreads] at hlen
  simp [length_long_line, length_short_line] at hlen

end DualPcanUsb
