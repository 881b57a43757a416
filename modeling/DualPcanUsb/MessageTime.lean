/-
The time `ioctl_read_msg` reports, in both builds.

A 64-bit kernel divides the nanoseconds twice and subtracts; a 32-bit one has `do_div`
only. The milliseconds are cut to a `u32` on the way, their product with 1000 is cut again,
and the difference goes into a `u16`: what was cut off cancels there.
-/
import DualPcanUsb.RingContents

set_option autoImplicit false

namespace DualPcanUsb

/-! ## The 32-bit branch -/

/-- `do_div(n, base)`: the quotient that is left in `n`, and the remainder it returns. -/
def do_div (n : u64) (base : u32) : u64 × u32 :=
  (n / base.setWidth 64, (n % base.setWidth 64).setWidth 32)

/-- What `ioctl_read_msg` writes where `BITS_PER_LONG` is below 64: all but the time as in
the other build. -/
def PcanRdMsg.receive_32 (rx_msg : ChardevMsg) (msg : PcanRdMsg) : PcanRdMsg :=
  let divided := do_div (BitVec.ofInt 64 rx_msg.hwtstamp) 1000000
  let hardware_timestamp := divided.1
  let remainder_nsecs := divided.2
  { msg.receive rx_msg with
    time_msecs := hardware_timestamp.setWidth 32
    remainder_usecs := (remainder_nsecs / 1000).setWidth 16 }

/-! ## What both branches store -/

theorem toNat_ofInt_natCast (w n : ℕ) : (BitVec.ofInt w n).toNat = n % 2 ^ w := by
  rw [BitVec.ofInt_natCast, BitVec.toNat_ofNat]

theorem ofInt_sub_natCast {w a b : ℕ} (h : b ≤ a) :
    BitVec.ofInt w ((a : ℤ) - (b : ℤ)) = BitVec.ofNat w (a - b) := by
  rw [← Nat.cast_sub h, BitVec.ofInt_natCast]

section

variable {rx_msg : ChardevMsg} {ns : ℕ} (msg : PcanRdMsg)

/-- The milliseconds, as far as a `u32` holds them. -/
theorem receive_time_msecs (h : rx_msg.hwtstamp = ns) :
    (msg.receive rx_msg).time_msecs.toNat = ns / 10 ^ 6 % 2 ^ 32 := by
  have hdiv : rx_msg.hwtstamp.tdiv 1000000 = ((ns / 10 ^ 6 : ℕ) : ℤ) := by
    rw [h]
    rfl
  change (BitVec.ofInt 32 (rx_msg.hwtstamp.tdiv 1000000)).toNat = _
  rw [hdiv, toNat_ofInt_natCast]

/-- Milliseconds and their product may both have wrapped; modulo `2 ^ 16` the difference
is the right one, and it is below 1000. -/
theorem receive_remainder_usecs (h : rx_msg.hwtstamp = ns) :
    (msg.receive rx_msg).remainder_usecs.toNat = ns / 1000 % 1000 := by
  have hdiv : rx_msg.hwtstamp.tdiv 1000 = ((ns / 1000 : ℕ) : ℤ) := by
    rw [h]
    rfl
  have hmsecs := receive_time_msecs msg h
  have hproduct : ((msg.receive rx_msg).time_msecs * 1000).toNat
      = ns / 10 ^ 6 % 2 ^ 32 * 1000 % 2 ^ 32 := by
    rw [BitVec.toNat_mul, hmsecs]
    rfl
  change (BitVec.ofInt 16 (rx_msg.hwtstamp.tdiv 1000
    - ((msg.receive rx_msg).time_msecs * 1000).toNat)).toNat = _
  rw [hdiv, hproduct, ofInt_sub_natCast (by omega), BitVec.toNat_ofNat]
  omega

/-- Division by a million, with its remainder. -/
theorem do_div_million (hlt : ns < 2 ^ 63) :
    (do_div (BitVec.ofInt 64 ns) 1000000).1.toNat = ns / 10 ^ 6
      ∧ (do_div (BitVec.ofInt 64 ns) 1000000).2.toNat = ns % 10 ^ 6 := by
  have hns : (BitVec.ofInt 64 ns).toNat = ns := by
    rw [toNat_ofInt_natCast]
    exact Nat.mod_eq_of_lt (by omega)
  have hbase : ((1000000 : u32).setWidth 64 : u64).toNat = 10 ^ 6 := by decide
  constructor
  · rw [do_div, BitVec.toNat_udiv, hns, hbase]
  · rw [do_div, BitVec.toNat_setWidth, BitVec.toNat_umod, hns, hbase]
    exact Nat.mod_eq_of_lt (by omega)

/-- The milliseconds, cut to the word. -/
theorem receive_32_time_msecs (h : rx_msg.hwtstamp = ns) (hlt : ns < 2 ^ 63) :
    (msg.receive_32 rx_msg).time_msecs.toNat = ns / 10 ^ 6 % 2 ^ 32 := by
  change ((do_div (BitVec.ofInt 64 rx_msg.hwtstamp) 1000000).1.setWidth 32).toNat = _
  rw [h, BitVec.toNat_setWidth, (do_div_million hlt).1]

/-- The microseconds left over. -/
theorem receive_32_remainder_usecs (h : rx_msg.hwtstamp = ns) (hlt : ns < 2 ^ 63) :
    (msg.receive_32 rx_msg).remainder_usecs.toNat = ns / 1000 % 1000 := by
  have hthousand : (1000 : u32).toNat = 1000 := rfl
  change (((do_div (BitVec.ofInt 64 rx_msg.hwtstamp) 1000000).2 / 1000).setWidth 16).toNat = _
  rw [h, BitVec.toNat_setWidth, BitVec.toNat_udiv, (do_div_million hlt).2, hthousand]
  omega

end

/-- For every time stamp that is not negative, both builds store the same message, with the
milliseconds modulo `2 ^ 32` and the microseconds that are left. -/
theorem builds_report_same_time (rx_msg : ChardevMsg) (msg : PcanRdMsg)
    (hnonneg : 0 ≤ rx_msg.hwtstamp) (hlt : rx_msg.hwtstamp < 2 ^ 63) :
    msg.receive rx_msg = msg.receive_32 rx_msg
      ∧ ((msg.receive rx_msg).time_msecs.toNat : ℤ) = rx_msg.hwtstamp / 10 ^ 6 % 2 ^ 32
      ∧ ((msg.receive rx_msg).remainder_usecs.toNat : ℤ) = rx_msg.hwtstamp / 1000 % 1000 := by
  obtain ⟨ns, hns⟩ : ∃ ns : ℕ, rx_msg.hwtstamp = ns :=
    ⟨rx_msg.hwtstamp.toNat, (Int.toNat_of_nonneg hnonneg).symm⟩
  have hlt' : ns < 2 ^ 63 := by
    rw [hns] at hlt
    exact_mod_cast hlt
  have hmsecs : (msg.receive rx_msg).time_msecs = (msg.receive_32 rx_msg).time_msecs := by
    apply BitVec.eq_of_toNat_eq
    rw [receive_time_msecs msg hns, receive_32_time_msecs msg hns hlt']
  have husecs : (msg.receive rx_msg).remainder_usecs = (msg.receive_32 rx_msg).remainder_usecs := by
    apply BitVec.eq_of_toNat_eq
    rw [receive_remainder_usecs msg hns, receive_32_remainder_usecs msg hns hlt']
  refine ⟨?_, ?_, ?_⟩
  · change msg.receive rx_msg = { msg.receive rx_msg with
      time_msecs := (msg.receive_32 rx_msg).time_msecs
      remainder_usecs := (msg.receive_32 rx_msg).remainder_usecs }
    rw [← hmsecs, ← husecs]
  · rw [receive_time_msecs msg hns, hns]
    push_cast
    rfl
  · rw [receive_remainder_usecs msg hns, hns]
    push_cast
    rfl

/-- Fifty days and a millisecond of uptime, and 987 microseconds: both words have wrapped. -/
theorem builds_report_same_time_after_fifty_days :
    let rx_msg : ChardevMsg := ⟨4320000001987654, CanFrame.zero⟩
    let msg : PcanRdMsg := ⟨0, 0, 0, fun _ => 0, 0, 0⟩
    msg.receive rx_msg = msg.receive_32 rx_msg
      ∧ ((msg.receive rx_msg).time_msecs.toNat : ℤ) = rx_msg.hwtstamp / 10 ^ 6 % 2 ^ 32
      ∧ ((msg.receive rx_msg).remainder_usecs.toNat : ℤ) = rx_msg.hwtstamp / 1000 % 1000 :=
  builds_report_same_time ⟨4320000001987654, CanFrame.zero⟩ ⟨0, 0, 0, fun _ => 0, 0, 0⟩
    (by decide) (by decide)

end DualPcanUsb
