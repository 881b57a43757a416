/-
A queue of stamped items, reported relative to a base.

Items wait in the order of their arrival, each with the stamp it got then. A reader takes
items from the front, and what it reports of one is its stamp relative to the base of that
moment, counted from a fixed epoch. If the base moves, an item that has waited across the
move is reported at another time than it would have been on its arrival, and items reported
before and after are on different scales. `Consistent` says that nobody can see such a
difference, and the rules say what keeps it.
-/
import Mathlib

set_option autoImplicit false

namespace StampQueue

/-- An item with its stamp, and the base of the moment it arrived. -/
structure Item where
  stamp : ℤ
  arrival : ℤ
deriving DecidableEq, Repr

/-- A report, and the base it was made with. -/
structure Report extends Item where
  base : ℤ
deriving DecidableEq, Repr

structure Queue where
  epoch : ℤ
  base : ℤ
  waiting : List Item
  reports : List Report
deriving DecidableEq, Repr

/-- The time a stamp stands for on this base. -/
def Queue.time (q : Queue) (base stamp : ℤ) : ℤ := q.epoch + (stamp - base)

/-! ## The operations -/

def Queue.arrive (q : Queue) (stamp : ℤ) : Queue :=
  { q with waiting := q.waiting ++ [⟨stamp, q.base⟩] }

/-- The first `n` items go, reported or not. -/
def Queue.take (q : Queue) (n : ℕ) (reported : Bool) : Queue :=
  { q with
    waiting := q.waiting.drop n
    reports :=
      if reported then q.reports ++ (q.waiting.take n).map fun item => ⟨item, q.base⟩
      else q.reports }

def Queue.rebase (q : Queue) (base : ℤ) : Queue := { q with base := base }

/-! ## Consistent times -/

/-- The times reported so far, and the times a reader would be told of the rest now. -/
def Queue.times (q : Queue) : List ℤ :=
  q.reports.map (fun report => q.time report.base report.stamp)
    ++ q.waiting.map (fun item => q.time q.base item.stamp)

/-- Times never go back along the queue, and each is what it would have been on arrival. -/
structure Consistent (q : Queue) : Prop where
  monotone : q.times.Pairwise (· ≤ ·)
  reported_as_arrived : ∀ report ∈ q.reports,
    q.time report.base report.stamp = q.time report.arrival report.stamp
  waits_as_arrived : ∀ item ∈ q.waiting, q.time q.base item.stamp = q.time item.arrival item.stamp

/-- No stamp in the queue or reported is behind `now`. -/
structure Until (q : Queue) (now : ℤ) : Prop where
  waiting_le : ∀ item ∈ q.waiting, item.stamp ≤ now
  reports_le : ∀ report ∈ q.reports, report.stamp ≤ now

/-- What is not from the future stays so. -/
theorem Until.mono {q : Queue} {now now' : ℤ} (h : Until q now) (hle : now ≤ now') :
    Until q now' :=
  ⟨fun item hmem => (h.waiting_le item hmem).trans hle,
    fun report hmem => (h.reports_le report hmem).trans hle⟩

/-- An arrival stamped by now is not from the future. -/
theorem Until.arrive {q : Queue} {now : ℤ} (h : Until q now) {stamp : ℤ} (hle : stamp ≤ now) :
    Until (q.arrive stamp) now := by
  refine ⟨fun item hmem => ?_, h.reports_le⟩
  rcases List.mem_append.mp hmem with hold | hnew
  · exact h.waiting_le item hold
  · rw [List.mem_singleton.mp hnew]
    exact hle

/-- Taking out brings nothing from the future. -/
theorem Until.take {q : Queue} {now : ℤ} (h : Until q now) (n : ℕ) (reported : Bool) :
    Until (q.take n reported) now := by
  refine ⟨fun item hmem => h.waiting_le item (List.mem_of_mem_drop hmem), fun report hmem => ?_⟩
  cases reported with
  | false => exact h.reports_le report hmem
  | true =>
    rcases List.mem_append.mp hmem with hold | hnew
    · exact h.reports_le report hold
    · obtain ⟨item, hitem, rfl⟩ := List.mem_map.mp hnew
      exact h.waiting_le item (List.mem_of_mem_take hitem)

theorem Until.rebase {q : Queue} {now : ℤ} (h : Until q now) (base : ℤ) :
    Until (q.rebase base) now :=
  ⟨h.waiting_le, h.reports_le⟩

/-- Taking items moves their times from one half of the list to the other. -/
theorem times_take (q : Queue) (n : ℕ) : (q.take n true).times = q.times := by
  have hsplit : q.waiting.map (fun item => q.time q.base item.stamp)
      = (q.waiting.take n).map (fun item => q.time q.base item.stamp)
        ++ (q.waiting.drop n).map (fun item => q.time q.base item.stamp) := by
    rw [← List.map_append, List.take_append_drop]
  unfold Queue.times
  rw [hsplit, Queue.take, if_pos rfl, List.map_append, List.map_map, List.append_assoc]
  rfl

/-- Taking from the front of a consistent queue reports consistent times. -/
theorem Consistent.take {q : Queue} (h : Consistent q) (n : ℕ) (reported : Bool) :
    Consistent (q.take n reported) := by
  have hwaits : ∀ item ∈ (q.take n reported).waiting, _ :=
    fun item hmem => h.waits_as_arrived item (List.mem_of_mem_drop hmem)
  cases reported with
  | false =>
    refine ⟨h.monotone.sublist ?_, h.reported_as_arrived, hwaits⟩
    exact (List.Sublist.refl _).append ((List.drop_sublist n q.waiting).map _)
  | true =>
    refine ⟨by rw [times_take]; exact h.monotone, fun report hmem => ?_, hwaits⟩
    rcases List.mem_append.mp hmem with hold | hnew
    · exact h.reported_as_arrived report hold
    · obtain ⟨item, hitem, rfl⟩ := List.mem_map.mp hnew
      exact h.waits_as_arrived item (List.mem_of_mem_take hitem)

/-- A new item is no earlier than the others, on its own base; a report made on another
base has to be early enough. -/
theorem arrive_consistent_iff {q : Queue} {stamp : ℤ} (h : Consistent q) (huntil : Until q stamp) :
    Consistent (q.arrive stamp)
      ↔ ∀ report ∈ q.reports, report.base ≠ q.base →
          report.stamp + (q.base - report.base) ≤ stamp := by
  have htimes : (q.arrive stamp).times = q.times ++ [q.time q.base stamp] := by
    unfold Queue.times Queue.arrive
    rw [List.map_append, List.append_assoc]
    rfl
  have hlast : (q.arrive stamp).times.Pairwise (· ≤ ·)
      ↔ ∀ t ∈ q.times, t ≤ q.time q.base stamp := by
    rw [htimes, List.pairwise_append]
    simp [h.monotone]
  constructor
  · intro harrive report hmem _
    have hle := hlast.mp harrive.monotone _
      (List.mem_append_left _ (List.mem_map_of_mem hmem))
    unfold Queue.time at hle
    omega
  · intro hearly
    refine ⟨hlast.mpr fun t ht => ?_, h.reported_as_arrived, fun item hmem => ?_⟩
    · rcases List.mem_append.mp ht with hreport | hwait
      · obtain ⟨report, hmem, rfl⟩ := List.mem_map.mp hreport
        have hle := huntil.reports_le report hmem
        unfold Queue.time
        -- on the same base, the stamps alone decide
        by_cases hbase : report.base = q.base
        · omega
        · have hfar := hearly report hmem hbase
          omega
      · obtain ⟨item, hmem, rfl⟩ := List.mem_map.mp hwait
        have hle := huntil.waiting_le item hmem
        unfold Queue.time
        omega
    · rcases List.mem_append.mp hmem with hold | hnew
      · exact h.waits_as_arrived item hold
      · rw [List.mem_singleton.mp hnew]
        rfl

/-- The base may move only past an empty queue. -/
theorem rebase_consistent_iff {q : Queue} {base : ℤ} (h : Consistent q) (hne : base ≠ q.base) :
    Consistent (q.rebase base) ↔ q.waiting = [] := by
  constructor
  · intro hrebase
    refine List.eq_nil_iff_forall_not_mem.mpr fun item hmem => hne ?_
    have hbefore := h.waits_as_arrived item hmem
    have hafter := hrebase.waits_as_arrived item hmem
    unfold Queue.time Queue.rebase at *
    dsimp only at hafter
    omega
  · intro hempty
    refine ⟨?_, h.reported_as_arrived, fun item hmem => ?_⟩
    · have hmono := h.monotone
      unfold Queue.times at hmono ⊢
      rw [hempty] at hmono
      rw [show (q.rebase base).waiting = [] from hempty]
      exact hmono
    · rw [show (q.rebase base).waiting = [] from hempty] at hmem
      exact absurd hmem List.not_mem_nil

/-! ## Times at or behind the epoch -/

/-- Every item is stamped at or behind the base. -/
def Queue.Ahead (q : Queue) : Prop := ∀ item ∈ q.waiting, q.base ≤ item.stamp

theorem Queue.Ahead.take {q : Queue} (h : q.Ahead) (n : ℕ) (reported : Bool) :
    (q.take n reported).Ahead :=
  fun item hmem => h item (List.mem_of_mem_drop hmem)

/-- A stamp at or behind the base is ahead of it. -/
theorem Queue.Ahead.arrive {q : Queue} (h : q.Ahead) {stamp : ℤ} (hle : q.base ≤ stamp) :
    (q.arrive stamp).Ahead := by
  intro item hmem
  rcases List.mem_append.mp hmem with hold | hnew
  · exact h item hold
  · rw [List.mem_singleton.mp hnew]
    exact hle

end StampQueue
