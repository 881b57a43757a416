/-
The times readers are told.

`bus_up_time` is taken when the bus comes up, but `tv_host_0`, the zero of the offsets added
to it, is only set by the first timestamp record that leads a packet. What was stored before
is reported after it on another scale, and before the epoch; `KeepsScale` and `BaseBehind`
say at which steps of a session that can be seen.
-/
import DualPcanUsb.Session

set_option autoImplicit false

namespace DualPcanUsb

open StampQueue

/-! ## The beginning -/

/-- A session's first state: the reference is at most based, and what the ring holds is
stamped between base and clock, in order. -/
structure Session.Begun (st : Session) : Prop where
  ring : RingInv st.ring
  dormant : Dormant st.time_ref
  base_range : 0 ≤ st.base ∧ st.base ≤ st.now
  unread : ∀ msg ∈ st.ring.dev.unread_msgs, st.base ≤ msg.hwtstamp ∧ msg.hwtstamp ≤ st.now
  sorted : st.ring.dev.unread_msgs.Pairwise fun msg msg' => msg.hwtstamp ≤ msg'.hwtstamp
  under_way : ∀ sample msg, st.ring.producer = .filled sample msg →
    (∀ old ∈ st.ring.dev.unread_msgs, old.hwtstamp ≤ msg.hwtstamp)
      ∧ st.base ≤ msg.hwtstamp ∧ msg.hwtstamp ≤ st.now
  arrivals_eq : st.arrivals = st.ring.dev.unread_msgs.map fun _ => st.base
  reports_eq : st.reports = []

/-- At the beginning the messages waiting are those unread, at the present base. -/
theorem Session.Begun.waiting_eq {st : Session} (h : st.Begun) :
    st.queue.waiting = st.ring.dev.unread_msgs.map fun msg => ⟨msg.hwtstamp, st.base⟩ := by
  change List.zipWith _ _ st.arrivals = _
  rw [h.arrivals_eq, List.zipWith_map_right, List.zipWith_self]

/-- None of them is from the future. -/
theorem Session.Begun.until {st : Session} (h : st.Begun) {now : ktime_t}
    (hle : ∀ msg ∈ st.ring.dev.unread_msgs, msg.hwtstamp ≤ now) : Until st.queue now := by
  refine ⟨fun item hmem => ?_, fun report hmem => ?_⟩
  · rw [h.waiting_eq] at hmem
    obtain ⟨msg, hmsg, rfl⟩ := List.mem_map.mp hmem
    exact hle msg hmsg
  · rw [show st.queue.reports = [] from h.reports_eq] at hmem
    exact absurd hmem List.not_mem_nil

/-- A session begins with its invariant. -/
theorem Session.Begun.inv {st : Session} (h : st.Begun) : SessionInv st where
  ring := h.ring
  dormant := h.dormant
  base_range := h.base_range
  arrivals_length := by rw [h.arrivals_eq, List.length_map]
  until_now := h.until fun msg hmem => (h.unread msg hmem).2
  filled sample msg hfilled :=
    let ⟨hlate, hrange⟩ := h.under_way sample msg hfilled
    ⟨h.until hlate, hrange⟩

/-- With nothing reported yet, no report contradicts another. -/
theorem Session.Begun.consistent {st : Session} (h : st.Begun) : Consistent st.queue := by
  have hreports : st.queue.reports = [] := h.reports_eq
  refine ⟨?_, ?_, ?_⟩
  · unfold Queue.times
    rw [hreports, h.waiting_eq, List.map_nil, List.nil_append, List.map_map, List.pairwise_map]
    refine h.sorted.imp fun hle => ?_
    exact Int.add_le_add_left (Int.sub_le_sub_right hle _) _
  · rw [hreports]
    exact fun report hmem => absurd hmem List.not_mem_nil
  · rw [h.waiting_eq]
    intro item hmem
    obtain ⟨msg, -, rfl⟩ := List.mem_map.mp hmem
    rfl

/-! ## Monotone times -/

/-- Behind the step, what was reported and what would be now is in order, and the same as on
arrival. -/
def StaysConsistent (st : Session) (action : SessionAction) : Prop :=
  ∀ st', st.step action = some st' → Consistent st'.queue

/-- The base is set past an empty ring only; and a message is stored no earlier than the
reports made on another base would have it. -/
def KeepsScale (st : Session) : SessionAction → Prop
  | .status _ ctx => st.SetsBase ctx → st.ring.dev.unread_msgs = []
  | .commit => ∀ msg, st.Stores msg → ∀ report ∈ st.reports, report.base ≠ st.base →
    report.stamp + (st.base - report.base) ≤ msg.hwtstamp
  | _ => True

/-- An action that sets no base keeps the scale. -/
theorem Session.Quiet.keepsScale {st : Session} {action : SessionAction} (h : st.Quiet action) :
    KeepsScale st action := by
  cases action with
  | status env ctx => exact fun hsets => absurd hsets h
  | commit => exact fun msg hstores => absurd hstores (h msg)
  | _ => trivial

/-- At most one message is being stored. -/
theorem Session.Stores.unique {st : Session} {msg msg' : ChardevMsg} (h : st.Stores msg)
    (h' : st.Stores msg') : msg' = msg := by
  obtain ⟨sample, hfilled, -⟩ := h
  obtain ⟨sample', hfilled', -⟩ := h'
  exact (Producer.filled.inj (hfilled'.symm.trans hfilled)).2

/-- Nothing waits exactly if nothing is unread. -/
theorem waiting_eq_nil_iff {st : Session} (h : SessionInv st) :
    st.queue.waiting = [] ↔ st.ring.dev.unread_msgs = [] := by
  have hlength : st.queue.waiting.length = st.ring.dev.unread_msgs.length := by
    change (List.zipWith _ _ _).length = _
    rw [List.length_zipWith, ← h.arrivals_length, min_self]
  rw [← List.length_eq_zero_iff, hlength, List.length_eq_zero_iff]

/-- One step from a consistent state. -/
theorem staysConsistent_iff {st st' : Session} {action : SessionAction} (h : SessionInv st)
    (hconsistent : Consistent st.queue) (hstep : st.step action = some st') :
    StaysConsistent st action ↔ KeepsScale st action := by
  have hstays : StaysConsistent st action ↔ Consistent st'.queue :=
    Runs.forall_next_iff Session.step (Q := fun st' => Consistent st'.queue) hstep
  rw [hstays]
  cases (session_step h hstep).2 with
  | quiet hquiet hqueue => exact iff_of_true (hqueue ▸ hconsistent) hquiet.keepsScale
  | taken hquiet n reported hqueue =>
    exact iff_of_true (hqueue ▸ hconsistent.take n reported) hquiet.keepsScale
  | stored msg hstores hqueue =>
    obtain ⟨sample, hfilled, -⟩ := id hstores
    rw [hqueue, arrive_consistent_iff hconsistent (h.filled sample msg hfilled).1]
    refine ⟨fun hearly msg' hstores' => ?_, fun hkeeps => hkeeps msg hstores⟩
    rw [hstores.unique hstores']
    exact hearly
  | @based env ctx _ hsets hclock hqueue =>
    have hne : st.reading env ≠ st.queue.base := by
      rw [show st.queue.base = 0 from hsets.1]
      exact hclock.1.ne'
    rw [hqueue, rebase_consistent_iff hconsistent hne, waiting_eq_nil_iff h]
    exact ⟨fun hempty _ => hempty, fun hkeeps => hkeeps hsets⟩

/-- The times reported in a session are in order and do not depend on when a message is read,
exactly if every step keeps the scale. -/
theorem reported_times_consistent_iff (st₀ st : Session) (actions : List SessionAction)
    (hbegun : st₀.Begun) (hrun : Runs.run Session.step st₀ actions = some st) :
    Runs.Along Session.step StaysConsistent st₀ actions
      ↔ Runs.Along Session.step KeepsScale st₀ actions := by
  let Inv : Session → Prop := fun st => SessionInv st ∧ Consistent st.queue
  have hstep : ∀ st action st', Inv st → KeepsScale st action → st.step action = some st' →
      Inv st' := by
    rintro st action st' ⟨hinv, hconsistent⟩ hkeeps hstep
    exact ⟨(session_step hinv hstep).1,
      (staysConsistent_iff hinv hconsistent hstep).mpr hkeeps st' hstep⟩
  have hiff : ∀ st action st', Inv st → st.step action = some st' →
      (StaysConsistent st action ↔ KeepsScale st action) :=
    fun st action st' hinv hstep => staysConsistent_iff hinv.1 hinv.2 hstep
  exact Runs.along_iff_of_run Session.step hstep hiff ⟨hbegun.inv, hbegun.consistent⟩ hrun

/-- A bus just up, with the character device open and the network down. -/
def begun_session : Session := ⟨opened_ring, 0, 0, [], []⟩

theorem begun_session_begun : begun_session.Begun :=
  ⟨RingState.Opened.inv ⟨rfl, rfl, by decide, rfl, rfl, trivial⟩, ⟨rfl, rfl⟩, by decide, nofun,
    .nil, nofun, rfl, rfl⟩

def remote_arrival : List SessionAction :=
  [.sample,
    .fill Env.plenty 0x10
      ((MsgContext.start (buffer [0, 1, 0x10, 0x20, 0x00, 0x34, 0x12]) 7).take 1 1),
    .commit]

def timestamp_arrival : SessionAction :=
  .status Env.plenty (MsgContext.start (buffer [0, 1, 0x42, 4, 0, 0x78, 0x56]) 7)

/-- A timestamp leads, and a message behind it is read. -/
def based_first : List SessionAction := timestamp_arrival :: remote_arrival ++ [.read 81]

theorem reported_times_consistent_iff_based_first :
    ∃ st, Runs.run Session.step begun_session based_first = some st
      ∧ (Runs.Along Session.step StaysConsistent begun_session based_first
        ↔ Runs.Along Session.step KeepsScale begun_session based_first) := by
  have hsome : (Runs.run Session.step begun_session based_first).isSome = true := by decide
  obtain ⟨st, hrun⟩ := Option.isSome_iff_exists.mp hsome
  exact ⟨st, hrun, reported_times_consistent_iff begun_session st based_first begun_session_begun
    hrun⟩

/-- Two messages, one of which is read, and the first timestamp behind them. -/
def based_late : List SessionAction :=
  remote_arrival ++ remote_arrival ++ [.read 81, timestamp_arrival]

/-- The second message is read after the base was set: its time is behind the first one's,
and not what it was on arrival. -/
theorem late_base_turns_back :
    begun_session.Begun
      ∧ ∃ st, Runs.run Session.step begun_session (based_late ++ [.read 81]) = some st
        ∧ st.queue.times = [1, -1]
        ∧ (∃ report ∈ st.reports, st.queue.time report.base report.stamp
            ≠ st.queue.time report.arrival report.stamp)
        ∧ ¬ Consistent st.queue := by
  obtain ⟨st, hrun, htimes, hmoved⟩ :
      ∃ st, Runs.run Session.step begun_session (based_late ++ [.read 81]) = some st
        ∧ st.queue.times = [1, -1] ∧ ∃ report ∈ st.reports,
          st.queue.time report.base report.stamp ≠ st.queue.time report.arrival report.stamp :=
    Runs.exists_run_of_any Session.step (by decide)
  refine ⟨begun_session_begun, st, hrun, htimes, hmoved, fun hconsistent => ?_⟩
  have hmonotone := hconsistent.monotone
  rw [htimes] at hmonotone
  exact absurd hmonotone (by decide)

/-! ## Offsets that are not negative -/

/-- Behind the step, no unread message is stamped before the base. -/
def StaysAhead (st : Session) (action : SessionAction) : Prop :=
  ∀ st', st.step action = some st' →
    ∀ msg ∈ st'.ring.dev.unread_msgs, st'.base ≤ msg.hwtstamp

/-- The base is set no later than any unread message was stamped. -/
def BaseBehind (st : Session) : SessionAction → Prop
  | .status env ctx => st.SetsBase ctx →
    ∀ msg ∈ st.ring.dev.unread_msgs, st.reading env ≤ msg.hwtstamp
  | _ => True

/-- What holds of the stamps in the queue holds of the ring's. -/
theorem forall_waiting_iff {st : Session} (h : SessionInv st) (P : ℤ → Prop) :
    (∀ item ∈ st.queue.waiting, P item.stamp)
      ↔ ∀ msg ∈ st.ring.dev.unread_msgs, P msg.hwtstamp := by
  have hstamps : st.queue.waiting.map Item.stamp
      = st.ring.dev.unread_msgs.map ChardevMsg.hwtstamp := by
    change (List.zipWith _ _ _).map Item.stamp = _
    rw [List.map_zipWith, ← List.map_uncurry_zip_eq_zipWith,
      ← List.map_fst_zip h.arrivals_length.le, List.map_map, List.map_fst_zip h.arrivals_length.le]
    rfl
  rw [← List.forall_mem_map, hstamps, List.forall_mem_map]

/-- A step keeps the stamps ahead of the base exactly if a base it sets is behind them. -/
theorem staysAhead_iff {st st' : Session} {action : SessionAction} (h : SessionInv st)
    (hahead : st.queue.Ahead) (hstep : st.step action = some st') :
    StaysAhead st action ↔ BaseBehind st action := by
  obtain ⟨hinv, hcases⟩ := session_step h hstep
  have hstays : StaysAhead st action ↔ st'.queue.Ahead := by
    rw [Queue.Ahead, forall_waiting_iff hinv]
    exact Runs.forall_next_iff Session.step
      (Q := fun st' => ∀ msg ∈ st'.ring.dev.unread_msgs, st'.base ≤ msg.hwtstamp) hstep
  rw [hstays]
  cases hcases with
  | quiet hquiet hqueue =>
    refine iff_of_true (hqueue ▸ hahead) ?_
    cases action with
    | status env ctx => exact fun hsets => absurd hsets hquiet
    | _ => trivial
  | taken hquiet n reported hqueue =>
    refine iff_of_true (hqueue ▸ hahead.take n reported) ?_
    cases action with
    | status env ctx => exact fun hsets => absurd hsets hquiet
    | _ => trivial
  | stored msg hstores hqueue =>
    obtain ⟨sample, hfilled, -⟩ := hstores
    exact iff_of_true (hqueue ▸ hahead.arrive (h.filled sample msg hfilled).2.1) trivial
  | @based env ctx _ hsets hclock hqueue =>
    -- the stamps are those of before, and the base is the clock's reading
    rw [hqueue]
    refine (forall_waiting_iff h fun stamp => st.reading env ≤ stamp).trans ?_
    exact ⟨fun hlate _ => hlate, fun hbehind => hbehind hsets⟩

/-- The offset of an unread message is never negative, exactly if the base is only set no
later than every unread message was stamped. -/
theorem offsets_not_negative_iff (st₀ st : Session) (actions : List SessionAction)
    (hbegun : st₀.Begun) (hrun : Runs.run Session.step st₀ actions = some st) :
    Runs.Along Session.step StaysAhead st₀ actions
      ↔ Runs.Along Session.step BaseBehind st₀ actions := by
  let Inv : Session → Prop := fun st => SessionInv st ∧ st.queue.Ahead
  have hstep : ∀ st action st', Inv st → BaseBehind st action → st.step action = some st' →
      Inv st' := by
    rintro st action st' ⟨hinv, hahead⟩ hbehind hstep
    have hnext := (session_step hinv hstep).1
    exact ⟨hnext, (forall_waiting_iff hnext fun stamp => st'.base ≤ stamp).mpr
      ((staysAhead_iff hinv hahead hstep).mpr hbehind st' hstep)⟩
  have hiff : ∀ st action st', Inv st → st.step action = some st' →
      (StaysAhead st action ↔ BaseBehind st action) :=
    fun st action st' hinv hstep => staysAhead_iff hinv.1 hinv.2 hstep
  have hstart : st₀.queue.Ahead :=
    (forall_waiting_iff hbegun.inv fun stamp => st₀.base ≤ stamp).mpr
      fun msg hmem => (hbegun.unread msg hmem).1
  exact Runs.along_iff_of_run Session.step hstep hiff ⟨hbegun.inv, hstart⟩ hrun

theorem offsets_not_negative_iff_based_first :
    ∃ st, Runs.run Session.step begun_session based_first = some st
      ∧ (Runs.Along Session.step StaysAhead begun_session based_first
        ↔ Runs.Along Session.step BaseBehind begun_session based_first) := by
  have hsome : (Runs.run Session.step begun_session based_first).isSome = true := by decide
  obtain ⟨st, hrun⟩ := Option.isSome_iff_exists.mp hsome
  exact ⟨st, hrun, offsets_not_negative_iff begun_session st based_first begun_session_begun hrun⟩

/-- The message left unread is stamped before the base. -/
theorem late_base_overtakes :
    begun_session.Begun
      ∧ ∃ st, Runs.run Session.step begun_session based_late = some st
        ∧ ∃ msg ∈ st.ring.dev.unread_msgs, ktime_sub msg.hwtstamp st.base < 0 := by
  exact ⟨begun_session_begun, Runs.exists_run_of_any Session.step (by decide)⟩

end DualPcanUsb
