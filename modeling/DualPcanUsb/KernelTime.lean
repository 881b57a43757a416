/-
The time of a message from its tick: `compute_kernel_time` with a running time base.

The function works in `u32` and `u64` words. Here each intermediate word is named, shown
to hold the number it stands for, and the result is compared with the exact rate of
128/3 microseconds per tick.
-/
import DualPcanUsb.TimeRef
import DualPcanUsb.Lib.TickCounter

set_option autoImplicit false

namespace DualPcanUsb

open TickCounter

/-! ## The intermediate words -/

/-- The ticks since the last timestamp record. -/
def delta_ticks (time_ref : TimeRef) (timestamp : u32) : u64 :=
  (elapsed PCAN_USB_TS_USED_BITS timestamp time_ref.ts_dev_2).setWidth 64

def total_ticks (time_ref : TimeRef) (timestamp : u32) : u64 :=
  delta_ticks time_ref timestamp + time_ref.ts_total

def scaled_ticks (time_ref : TimeRef) (timestamp : u32) : u64 :=
  total_ticks time_ref timestamp * PCAN_USB_TS_US_PER_TICK

def total_us (time_ref : TimeRef) (timestamp : u32) : u64 :=
  scaled_ticks time_ref timestamp >>> PCAN_USB_TS_DIV_SHIFTER

/-- Masking before or after the subtraction is widened is the same. -/
theorem ticks_to_kernel_time_eq (time_ref : TimeRef) (timestamp : u32) :
    ticks_to_kernel_time time_ref timestamp
      = ktime_add_us time_ref.tv_host_0 (total_us time_ref timestamp) := by
  have hdelta : delta_ticks time_ref timestamp
      = if timestamp < time_ref.ts_dev_2 then
          (timestamp - time_ref.ts_dev_2).setWidth 64
            &&& ((1 <<< PCAN_USB_TS_USED_BITS) - 1)
        else (timestamp - time_ref.ts_dev_2).setWidth 64 := by
    unfold delta_ticks elapsed
    split
    · rw [BitVec.setWidth_and]
      rfl
    · rfl
  unfold ticks_to_kernel_time total_us scaled_ticks total_ticks
  rw [hdelta]

/-- None of the sums and products wraps: not the tick count, not its product with the
fixed-point factor, not the nanoseconds, and not the time they are added up to. -/
structure NoOverflow (time_ref : TimeRef) (timestamp : u32) : Prop where
  ticks : (delta_ticks time_ref timestamp).toNat + time_ref.ts_total.toNat < 2 ^ 64
  scaled : (total_ticks time_ref timestamp).toNat * PCAN_USB_TS_US_PER_TICK.toNat < 2 ^ 64
  nanoseconds : (total_us time_ref timestamp).toNat * NSEC_PER_USEC.toNat < 2 ^ 64
  time_ge : -2 ^ 63 ≤ time_ref.tv_host_0
    + ((total_us time_ref timestamp).toNat * NSEC_PER_USEC.toNat : ℕ)
  time_lt : time_ref.tv_host_0
    + ((total_us time_ref timestamp).toNat * NSEC_PER_USEC.toNat : ℕ) < 2 ^ 63

/-- The tick count `t` as a message carries it. -/
def tick_stamp (t : ℕ) : u32 := reading PCAN_USB_TS_USED_BITS 32 t

/-- The microseconds the driver counts for `ticks` ticks. -/
def ticks_us (ticks : ℕ) : ℕ := scale PCAN_USB_TS_US_PER_TICK.toNat PCAN_USB_TS_DIV_SHIFTER ticks

theorem ticks_us_eq (ticks : ℕ) : ticks_us ticks = ticks * 44739243 / 2 ^ 20 := rfl

/-! ## What they hold -/

section

variable {time_ref : TimeRef} {L T : ℕ}

/-- The distance to the last tick is the true one. -/
theorem delta_ticks_toNat (hlast : time_ref.ts_dev_2.toNat = L % 2 ^ 16) (hle : L ≤ T)
    (hlt : T < L + 2 ^ 16) : (delta_ticks time_ref (tick_stamp T)).toNat = T - L := by
  have hnow : (tick_stamp T).toNat = T % 2 ^ 16 := toNat_reading (by decide) T
  have hprev : time_ref.ts_dev_2.toNat ≡ L [MOD 2 ^ 16] := hlast ▸ Nat.mod_modEq L _
  rw [delta_ticks, BitVec.toNat_setWidth_of_le (by decide)]
  exact (toNat_elapsed_iff (by decide) hnow hle hlt).mpr hprev

/-- The total of ticks since the base is the true one. -/
theorem total_ticks_toNat (hlast : time_ref.ts_dev_2.toNat = L % 2 ^ 16) (hle : L ≤ T)
    (hlt : T < L + 2 ^ 16) (hsmall : time_ref.ts_total.toNat + (T - L) < 2 ^ 38) :
    (total_ticks time_ref (tick_stamp T)).toNat = time_ref.ts_total.toNat + (T - L) := by
  rw [total_ticks, BitVec.toNat_add, delta_ticks_toNat hlast hle hlt, Nat.mod_eq_of_lt (by omega),
    Nat.add_comm]

/-- The total in microseconds still fits its word. -/
theorem total_us_toNat (hlast : time_ref.ts_dev_2.toNat = L % 2 ^ 16) (hle : L ≤ T)
    (hlt : T < L + 2 ^ 16) (hsmall : time_ref.ts_total.toNat + (T - L) < 2 ^ 38) :
    (total_us time_ref (tick_stamp T)).toNat = ticks_us (time_ref.ts_total.toNat + (T - L)) := by
  have hfactor : PCAN_USB_TS_US_PER_TICK.toNat = 44739243 := rfl
  have hshift : PCAN_USB_TS_DIV_SHIFTER = 20 := rfl
  rw [total_us, scaled_ticks, BitVec.toNat_ushiftRight, BitVec.toNat_mul,
    total_ticks_toNat hlast hle hlt hsmall, hfactor, hshift, Nat.shiftRight_eq_div_pow,
    Nat.mod_eq_of_lt (by omega), ticks_us_eq]

/-- No word overflows on the way. -/
theorem no_overflow_of_small (hlast : time_ref.ts_dev_2.toNat = L % 2 ^ 16) (hle : L ≤ T)
    (hlt : T < L + 2 ^ 16) (hsmall : time_ref.ts_total.toNat + (T - L) < 2 ^ 38)
    (hbase : 0 ≤ time_ref.tv_host_0) (hbase' : time_ref.tv_host_0 < 2 ^ 62) :
    NoOverflow time_ref (tick_stamp T) := by
  have hfactor : PCAN_USB_TS_US_PER_TICK.toNat = 44739243 := rfl
  have hnsec : NSEC_PER_USEC.toNat = 1000 := rfl
  have hdelta := delta_ticks_toNat hlast hle hlt
  have htotal := total_ticks_toNat hlast hle hlt hsmall
  have hus := total_us_toNat hlast hle hlt hsmall
  rw [ticks_us_eq] at hus
  unfold ktime_t at hbase hbase'
  refine ⟨?_, ?_, ?_, ?_, ?_⟩
  · omega
  · rw [htotal, hfactor]
    omega
  · rw [hus, hnsec]
    omega
  all_goals
    rw [hus, hnsec]
    unfold ktime_t
    omega

/-- Adding the microseconds to the host anchor is exact where nothing wraps. -/
theorem ticks_to_kernel_time_of_no_overflow {timestamp : u32}
    (h : NoOverflow time_ref timestamp) :
    ticks_to_kernel_time time_ref timestamp
      = time_ref.tv_host_0 + ((total_us time_ref timestamp).toNat * NSEC_PER_USEC.toNat : ℕ) := by
  rw [ticks_to_kernel_time_eq, ktime_add_us, BitVec.toNat_mul, Nat.mod_eq_of_lt h.nanoseconds, s64]
  exact Int.bmod_eq_of_le h.time_ge h.time_lt

/-- The time of a message less than one turn of the counter after the last record. -/
theorem compute_kernel_time_of_tick (now : ktime_t) (hhost : 0 < time_ref.tv_host)
    (hlast : time_ref.ts_dev_2.toNat = L % 2 ^ 16) (hle : L ≤ T) (hlt : T < L + 2 ^ 16)
    (hsmall : time_ref.ts_total.toNat + (T - L) < 2 ^ 38) (hbase : 0 ≤ time_ref.tv_host_0)
    (hbase' : time_ref.tv_host_0 < 2 ^ 62) :
    compute_kernel_time now time_ref (tick_stamp T)
      = time_ref.tv_host_0 + 1000 * (ticks_us (time_ref.ts_total.toNat + (T - L)) : ℤ) := by
  have hnsec : NSEC_PER_USEC.toNat = 1000 := rfl
  rw [compute_kernel_time, if_pos hhost, ticks_to_kernel_time_of_no_overflow
    (no_overflow_of_small hlast hle hlt hsmall hbase hbase'),
    total_us_toNat hlast hle hlt hsmall, hnsec]
  push_cast
  ring

end

/-! ## Against the ideal clock -/

/-- The factor is 128/3 microseconds in twenty binary digits, a third of a digit too large. -/
theorem factor_eq : PCAN_USB_TS_US_PER_TICK.toNat * 3 = 128 * 2 ^ PCAN_USB_TS_DIV_SHIFTER + 1 := by
  decide

/-- The factor and the shift are off by less than a microsecond below, and by little above. -/
theorem ticks_us_error (ticks : ℕ) :
    -1 < (ticks_us ticks : ℚ) - ticks * (128 / 3)
      ∧ (ticks_us ticks : ℚ) - ticks * (128 / 3) ≤ ticks / 3145728 := by
  have h := scale_error (q := 3) (by decide) factor_eq ticks
  norm_num [PCAN_USB_TS_DIV_SHIFTER] at h ⊢
  exact h

/-- With a running time base, a message whose tick `T` follows the last record's tick `L` by
less than a turn is reported at the host anchor plus the counted microseconds: nothing wraps
on the way, the count is off the ideal one by less than a microsecond downwards and by one in
3145728 ticks upwards, and an earlier tick is never reported later. -/
theorem tick_time_exact (time_ref : TimeRef) (B L T : ℕ) (hhost : 0 < time_ref.tv_host)
    (htotal : time_ref.ts_total.toNat = B) (hlast : time_ref.ts_dev_2.toNat = L % 2 ^ 16)
    (hle : L ≤ T) (hlt : T < L + 2 ^ 16) (hsmall : B + (T - L) < 2 ^ 38)
    (hbase : 0 ≤ time_ref.tv_host_0) (hbase' : time_ref.tv_host_0 < 2 ^ 62) :
    NoOverflow time_ref (tick_stamp T)
      ∧ (∀ now, compute_kernel_time now time_ref (tick_stamp T)
          = time_ref.tv_host_0 + 1000 * (((B + (T - L)) * 44739243 / 2 ^ 20 : ℕ) : ℤ))
      ∧ -1 < (((B + (T - L)) * 44739243 / 2 ^ 20 : ℕ) : ℚ) - ((B + (T - L) : ℕ) : ℚ) * (128 / 3)
      ∧ (((B + (T - L)) * 44739243 / 2 ^ 20 : ℕ) : ℚ) - ((B + (T - L) : ℕ) : ℚ) * (128 / 3)
          ≤ ((B + (T - L) : ℕ) : ℚ) / 3145728
      ∧ ∀ T' now now', L ≤ T' → T' ≤ T →
          compute_kernel_time now' time_ref (tick_stamp T')
            ≤ compute_kernel_time now time_ref (tick_stamp T) := by
  subst htotal
  have htime := fun now => compute_kernel_time_of_tick now hhost hlast hle hlt hsmall hbase hbase'
  have herror := ticks_us_error (time_ref.ts_total.toNat + (T - L))
  rw [ticks_us_eq] at herror
  refine ⟨no_overflow_of_small hlast hle hlt hsmall hbase hbase', htime, herror.1, herror.2, ?_⟩
  intro T' now now' hle' hT'
  have hmono : ticks_us (time_ref.ts_total.toNat + (T' - L))
      ≤ ticks_us (time_ref.ts_total.toNat + (T - L)) := scale_mono _ _ (by omega)
  rw [htime, compute_kernel_time_of_tick now' hhost hlast hle' (by omega) (by omega) hbase hbase']
  unfold ktime_t
  omega

/-- A message across the turn of the counter: tick 65546 after a record at tick 65500. -/
theorem tick_time_exact_across_turn :
    let time_ref : TimeRef := ⟨5000000000, 9000000000, 65000, 65500, 93750, 4⟩
    NoOverflow time_ref (tick_stamp 65546)
      ∧ (∀ now, compute_kernel_time now time_ref (tick_stamp 65546)
          = 5000000000 + 1000 * (((93750 + (65546 - 65500)) * 44739243 / 2 ^ 20 : ℕ) : ℤ))
      ∧ -1 < (((93750 + (65546 - 65500)) * 44739243 / 2 ^ 20 : ℕ) : ℚ)
          - ((93750 + (65546 - 65500) : ℕ) : ℚ) * (128 / 3)
      ∧ (((93750 + (65546 - 65500)) * 44739243 / 2 ^ 20 : ℕ) : ℚ)
          - ((93750 + (65546 - 65500) : ℕ) : ℚ) * (128 / 3)
          ≤ ((93750 + (65546 - 65500) : ℕ) : ℚ) / 3145728
      ∧ ∀ T' now now', 65500 ≤ T' → T' ≤ 65546 →
          compute_kernel_time now' time_ref (tick_stamp T')
            ≤ compute_kernel_time now time_ref (tick_stamp 65546) :=
  tick_time_exact ⟨5000000000, 9000000000, 65000, 65500, 93750, 4⟩ 93750 65500 65546 (by decide)
    rfl rfl (by decide) (by decide) (by decide) (by decide) (by decide)

end DualPcanUsb
