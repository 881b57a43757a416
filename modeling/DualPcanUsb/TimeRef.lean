/-
The device clock: `update_time_reference`, `set_time_reference` and
`compute_kernel_time` of `packet_codec.c`.

The device stamps its messages with a 16-bit tick counter. The driver anchors
that counter to the host's monotonic clock with five fields of `TimeRef`, and
three functions guard on each other's fields: `tv_host` gates its own update in
`set_time_reference`, the accumulation in `update_time_reference` and the tick
arithmetic in `compute_kernel_time`.

The last section follows that triangle over whole runs. `set_time_reference`
refreshes `tv_host` and counts a pass only under `if (tv_host)`, and its other
branch stores zero into it, so from the zeroed reference no call ever makes it
nonzero: the start-up state is a trap.
-/
import DualPcanUsb.Types

set_option autoImplicit false

namespace DualPcanUsb

/-! ## The three functions -/

def PCAN_USB_TS_DIV_SHIFTER : Nat := 20
def PCAN_USB_TS_US_PER_TICK : u64 := 44739243
def PCAN_USB_TS_USED_BITS : Nat := 16
def NSEC_PER_SEC : u64 := 1000000000
def NSEC_PER_USEC : u64 := 1000

def ktime_sub (lhs rhs : ktime_t) : ktime_t := s64 (lhs - rhs)

def ktime_add_us (kt : ktime_t) (usec : u64) : ktime_t := s64 (kt + (usec * NSEC_PER_USEC).toNat)

/-- The tick branch of `compute_kernel_time`: the ticks since the last timestamp
record, modulo the 16 bits the device counts with, scaled to microseconds on
top of the host anchor. -/
def ticks_to_kernel_time (time_ref : TimeRef) (timestamp : u32) : ktime_t :=
  let delta_us : u64 := (timestamp - time_ref.ts_dev_2).setWidth 64
  let delta_us :=
    if timestamp < time_ref.ts_dev_2 then
      delta_us &&& ((1 <<< PCAN_USB_TS_USED_BITS) - 1)
    else delta_us
  let delta_us := delta_us + time_ref.ts_total
  let delta_us := delta_us * PCAN_USB_TS_US_PER_TICK
  let delta_us := delta_us >>> PCAN_USB_TS_DIV_SHIFTER
  ktime_add_us time_ref.tv_host_0 delta_us

/-- `now` is what `ktime_get` returns if this call gets to it. -/
def compute_kernel_time (now : ktime_t) (time_ref : TimeRef) (timestamp : u32) : ktime_t :=
  if time_ref.tv_host > 0 then ticks_to_kernel_time time_ref timestamp else now

def update_time_reference (ts_now : u32) (time_ref : TimeRef) : TimeRef :=
  let time_ref : TimeRef := { time_ref with ts_dev_2 := ts_now }
  -- should wait at least two passes before computing
  if time_ref.tv_host > 0 then
    let delta_ts : u32 := time_ref.ts_dev_2 - time_ref.ts_dev_1
    let delta_ts : u32 :=
      if time_ref.ts_dev_2 < time_ref.ts_dev_1 then
        delta_ts &&& ((1 <<< PCAN_USB_TS_USED_BITS) - 1)
      else delta_ts
    { time_ref with ts_total := time_ref.ts_total + delta_ts.setWidth 64 }
  else time_ref

/-- The first half of `set_time_reference`: the host side of the anchor. The
comparison with 4200 s is between an `s64` and an `unsigned long long`, hence
unsigned. -/
def set_host_time (now : ktime_t) (time_ref : TimeRef) : TimeRef :=
  if time_ref.tv_host_0 = 0 then
    -- the first call: `tv_host` is cleared, not set
    { time_ref with tv_host_0 := now, tv_host := 0 }
  -- later calls store `tv_host` only if it is there already
  else if time_ref.tv_host ≠ 0 then
    let delta := ktime_sub time_ref.tv_host time_ref.tv_host_0
    let time_ref : TimeRef :=
      if BitVec.ofInt 64 delta > 4200 * NSEC_PER_SEC then
        { time_ref with tv_host_0 := time_ref.tv_host, ts_total := 0 }
      else time_ref
    { time_ref with tv_host := now, tick_count := time_ref.tick_count + 1 }
  else time_ref

/-- Whether `set_time_reference` calls `ktime_get` from this state. -/
def set_reads_clock (time_ref : TimeRef) : Bool :=
  time_ref.tv_host_0 = 0 ∨ time_ref.tv_host ≠ 0

/-- `now` is what `ktime_get` returns if this call gets to it. -/
def set_time_reference (now : ktime_t) (ts_now : u32) (time_ref : TimeRef) : TimeRef :=
  let time_ref := set_host_time now time_ref
  let time_ref : TimeRef := { time_ref with ts_dev_1 := time_ref.ts_dev_2 }
  update_time_reference ts_now time_ref

/-! ## What one call leaves alone

`update_time_reference` moves the device side only; `set_time_reference` is
`set_host_time` as far as the host side is concerned. -/

/-- An update leaves the host's time alone. -/
@[simp] theorem update_tv_host (ts_now : u32) (time_ref : TimeRef) :
    (update_time_reference ts_now time_ref).tv_host = time_ref.tv_host := by
  unfold update_time_reference
  dsimp only
  split <;> rfl

/-- An update leaves the base of the host's time alone. -/
@[simp] theorem update_tv_host_0 (ts_now : u32) (time_ref : TimeRef) :
    (update_time_reference ts_now time_ref).tv_host_0 = time_ref.tv_host_0 := by
  unfold update_time_reference
  dsimp only
  split <;> rfl

/-- An update counts no pass. -/
@[simp] theorem update_tick_count (ts_now : u32) (time_ref : TimeRef) :
    (update_time_reference ts_now time_ref).tick_count = time_ref.tick_count := by
  unfold update_time_reference
  dsimp only
  split <;> rfl

@[simp] theorem set_tv_host (now : ktime_t) (ts_now : u32) (time_ref : TimeRef) :
    (set_time_reference now ts_now time_ref).tv_host = (set_host_time now time_ref).tv_host := by
  simp only [set_time_reference, update_tv_host]

/-- Only the host's part of setting the reference moves the base. -/
@[simp] theorem set_tv_host_0 (now : ktime_t) (ts_now : u32) (time_ref : TimeRef) :
    (set_time_reference now ts_now time_ref).tv_host_0
      = (set_host_time now time_ref).tv_host_0 := by
  simp only [set_time_reference, update_tv_host_0]

/-- Only the host's part of setting the reference counts the pass. -/
@[simp] theorem set_tick_count (now : ktime_t) (ts_now : u32) (time_ref : TimeRef) :
    (set_time_reference now ts_now time_ref).tick_count
      = (set_host_time now time_ref).tick_count := by
  simp only [set_time_reference, update_tick_count]

/-- The host side of the anchor is set without looking at the device side. -/
theorem set_host_ts_dev_2 (now : ktime_t) (time_ref : TimeRef) :
    (set_host_time now time_ref).ts_dev_2 = time_ref.ts_dev_2 := by
  unfold set_host_time
  split
  · rfl
  split
  · dsimp only
    split <;> rfl
  · rfl

/-! ## Runs from bus-up

A run is the list of calls made since the reference was zeroed; each
`set_time_reference` carries the host clock reading of that call. -/

inductive TimeCall
  | set (now : ktime_t) (ts_now : u32)
  | update (ts_now : u32)

def TimeCall.apply (time_ref : TimeRef) : TimeCall → TimeRef
  | .set now ts_now => set_time_reference now ts_now time_ref
  | .update ts_now => update_time_reference ts_now time_ref

/-- The reference after a run of calls. -/
def TimeRef.after (time_ref : TimeRef) (calls : List TimeCall) : TimeRef :=
  calls.foldl TimeCall.apply time_ref

/-- The host clock readings of the `set_time_reference` calls, in order. -/
def readings : List TimeCall → List ktime_t
  | [] => []
  | .set now _ :: calls => now :: readings calls
  | .update _ :: calls => readings calls

/-- The hardware time base is in use after `n` passes, the last of them at host
time `reading`: the pass is recorded, all but the first are counted, and message
times come from device ticks. -/
structure TimeBaseActive (n : ℕ) (reading : ktime_t) (time_ref : TimeRef) : Prop where
  tv_host_eq : time_ref.tv_host = reading
  tick_count_eq : time_ref.tick_count = BitVec.ofNat 32 (n - 1)
  from_ticks : ∀ now timestamp,
    compute_kernel_time now time_ref timestamp = ticks_to_kernel_time time_ref timestamp

/-- The start-up state of the host side: no host time recorded, no pass counted. -/
def Dormant (time_ref : TimeRef) : Prop := time_ref.tv_host = 0 ∧ time_ref.tick_count = 0

/-- One call, whichever it is, leaves a dormant reference dormant. -/
theorem dormant_apply (call : TimeCall) {time_ref : TimeRef} (h : Dormant time_ref) :
    Dormant (TimeCall.apply time_ref call) := by
  obtain ⟨hhost, hcount⟩ := h
  cases call with
  | update ts_now =>
    exact ⟨by simpa [TimeCall.apply] using hhost, by simpa [TimeCall.apply] using hcount⟩
  | set now ts_now =>
    -- either branch of `set_host_time` that `tv_host = 0` allows keeps both fields
    have hkeep : (set_host_time now time_ref).tv_host = 0
        ∧ (set_host_time now time_ref).tick_count = 0 := by
      unfold set_host_time
      by_cases h0 : time_ref.tv_host_0 = 0
      · rw [if_pos h0]; exact ⟨rfl, hcount⟩
      · rw [if_neg h0, if_neg (by simpa using hhost)]; exact ⟨hhost, hcount⟩
    exact ⟨by simpa [TimeCall.apply] using hkeep.1, by simpa [TimeCall.apply] using hkeep.2⟩

/-- A whole run leaves a dormant reference dormant. -/
theorem dormant_after (calls : List TimeCall) {time_ref : TimeRef} (h : Dormant time_ref) :
    Dormant (time_ref.after calls) := by
  induction calls generalizing time_ref with
  | nil => exact h
  | cons call calls ih => exact ih (dormant_apply call h)

/-- The base of a dormant reference is set once. -/
theorem set_host_time_base {time_ref : TimeRef} (h : Dormant time_ref) (now : ktime_t) :
    (set_host_time now time_ref).tv_host_0
      = if time_ref.tv_host_0 = 0 then now else time_ref.tv_host_0 := by
  unfold set_host_time
  split
  · rfl
  · rw [if_neg (by simpa using h.1)]

/-- A dormant reference answers every time query with the host clock. -/
theorem compute_kernel_time_of_dormant {time_ref : TimeRef} (h : Dormant time_ref)
    (now : ktime_t) (timestamp : u32) : compute_kernel_time now time_ref timestamp = now := by
  rw [compute_kernel_time, if_neg (by rw [h.1]; decide)]

/-- The time base never becomes active: after any run with a pass in it, at
positive host times, the last host reading is not recorded, no pass is counted
and every message time falls back to `ktime_get`. Neither the order of the
readings nor the number of passes matters. -/
theorem time_base_never_active (calls : List TimeCall) (reading : ktime_t)
    (hpos : ∀ r ∈ readings calls, 0 < r) (hlast : (readings calls).getLast? = some reading) :
    ¬ TimeBaseActive (readings calls).length reading (TimeRef.zero.after calls)
      ∧ (TimeRef.zero.after calls).tv_host = 0
      ∧ (TimeRef.zero.after calls).tick_count = 0
      ∧ ∀ now timestamp,
          compute_kernel_time now (TimeRef.zero.after calls) timestamp = now := by
  have hdorm : Dormant (TimeRef.zero.after calls) := dormant_after calls ⟨rfl, rfl⟩
  refine ⟨?_, hdorm.1, hdorm.2, compute_kernel_time_of_dormant hdorm⟩
  intro hactive
  -- an active time base would have recorded a positive host time
  have hrpos : 0 < reading := hpos reading (List.mem_of_getLast? hlast)
  exact hrpos.ne' (hactive.tv_host_eq.symm.trans hdorm.1)

/-- Three passes one second apart, with a later timestamp record in between. -/
def three_passes : List TimeCall :=
  [.set 1000000000 100, .update 150, .set 2000000000 23537, .set 3000000000 46974]

theorem time_base_never_active_three_passes :
    ¬ TimeBaseActive 3 3000000000 (TimeRef.zero.after three_passes)
      ∧ (TimeRef.zero.after three_passes).tv_host = 0
      ∧ (TimeRef.zero.after three_passes).tick_count = 0
      ∧ ∀ now timestamp,
          compute_kernel_time now (TimeRef.zero.after three_passes) timestamp = now :=
  time_base_never_active three_passes 3000000000 (by decide) (by decide)

/-- The start-up state after three passes, evaluated: the reading of the third
pass should be in `tv_host` and two passes counted. -/
theorem three_passes_not_active :
    ¬ TimeBaseActive 3 3000000000 (TimeRef.zero.after three_passes) := by
  intro h
  have hhost : (TimeRef.zero.after three_passes).tv_host = 0 := by decide
  exact absurd (h.tv_host_eq.symm.trans hhost) (by decide)

end DualPcanUsb
