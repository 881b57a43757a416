/-
Bit timing, as it is programmed and as it is reported.

Two paths program the device: at probe the table of `__pcan_cmd_set_bitrate`, later the
packing of `__pcan_cmd_set_bittiming`. What `PCANFD_IOCTL_GET_INIT` reports comes from
neither, but from the kernel's `can.bittiming`, of which the probe sets the bitrate alone
and in which the segment before the sample point is split in two. The device gets
`prop_seg + phase_seg1`; the report has `phase_seg1`.
-/
import DualPcanUsb.CommandBuffer

set_option autoImplicit false

namespace DualPcanUsb

/-! ## The structures -/

def CAN_CTRLMODE_3_SAMPLES : u32 := 0x04

/-- `struct can_bittiming` of the kernel. -/
structure CanBittiming where
  bitrate : u32
  sample_point : u32
  tq : u32
  prop_seg : u32
  phase_seg1 : u32
  phase_seg2 : u32
  sjw : u32
  brp : u32
deriving DecidableEq, Repr

def CanBittiming.zero : CanBittiming := ⟨0, 0, 0, 0, 0, 0, 0, 0⟩

/-- `pcan_bittiming_t`, the structure of the report. -/
structure PcanBittiming where
  brp : u32
  tseg1 : u32
  tseg2 : u32
  sjw : u32
  tsam : u32
  bitrate : u32
  sample_point : u32
  tq : u32
  bitrate_real : u32
deriving DecidableEq, Repr

/-- `pcanfd_ioctl_init_t` -/
structure PcanfdIoctlInit where
  flags : u32
  clock_hz : u32
  nominal : PcanBittiming
  data : PcanBittiming
deriving DecidableEq, Repr

/-- The parts of the forwarder that bit timing is about, and the commands the device has
got for it, oldest first. -/
structure TimingState where
  ctrlmode : u32
  clock_freq : u32
  bittiming : CanBittiming
  data_bittiming : CanBittiming
  ioctl_init_flags : u32
  sent : List CmdHolder

/-! ## The commands -/

/-- A one-way command on a connected device: `err` is what `usb_bulk_msg` returns. -/
def TimingState.command (s : TimingState) (h : CmdHolder) (err : Int) : TimingState × Int :=
  if err < 0 then (s, err) else ({ s with sent := s.sent ++ [h] }, err)

def pcan_cmd_set_btr0btr1 (s : TimingState) (btr0 btr1 : u8) (err : Int) : TimingState × Int :=
  s.command (CMD_HOLDER_OF_SET_BTR0BTR1 (((Vector.replicate PCAN_CMD_ARGS_LEN 0).set 0
    (btr1 ||| (if s.ctrlmode &&& CAN_CTRLMODE_3_SAMPLES ≠ 0 then 0x80 else 0))).set 1 btr0)) err

/-- The `switch` over the bitrates. -/
def btr0btr1_of_bitrate (bitrate : u32) : Option (u8 × u8) :=
  match bitrate.toNat with
  | 1000000 => some (0x00, 0x14)
  | 500000 => some (0x00, 0x1C)
  | 250000 => some (0x01, 0x1C)
  | 125000 => some (0x03, 0x1C)
  | 100000 => some (0x43, 0x2F)
  | 50000 => some (0x47, 0x2F)
  | 20000 => some (0x53, 0x2F)
  | 10000 => some (0x67, 0x2F)
  | 5000 => some (0x7F, 0x7F)
  | _ => none

def pcan_cmd_set_bitrate (s : TimingState) (bitrate : u32) (err : Int) : TimingState × Int :=
  match btr0btr1_of_bitrate bitrate with
  | some (btr0, btr1) => pcan_cmd_set_btr0btr1 s btr0 btr1 err
  | none => (s, -EINVAL)

def pack_btr0 (brp sjw : u32) : u8 :=
  ((brp &&& (0x3f : u32)) ||| ((sjw &&& (0x3 : u32)) <<< 6)).setWidth 8

def pack_btr1 (tseg1 tseg2 : u32) : u8 :=
  ((tseg1 &&& (0xf : u32)) ||| ((tseg2 &&& (0x7 : u32)) <<< 4)).setWidth 8

def pcan_cmd_set_bittiming (s : TimingState) (bt : CanBittiming) (err : Int) :
    TimingState × Int :=
  let btr0 := pack_btr0 (bt.brp - 1) (bt.sjw - 1)
  let btr1 := pack_btr1 (bt.prop_seg + bt.phase_seg1 - 1) (bt.phase_seg2 - 1)
  pcan_cmd_set_btr0btr1 s btr0 btr1 err

/-! ## Probe, settings and report -/

def PCAN_USB_CRYSTAL_HZ : ℕ := 16000000

/-- The clock of `get_fixed_can_clock`. -/
def can_clock_freq : ℕ := PCAN_USB_CRYSTAL_HZ / 2

/-- What a successful `pcan_usb_plugin` does about bit timing, on memory that is all zero:
the result of `pcan_cmd_set_bitrate` is not looked at. -/
def pcan_usb_plugin_timing (bitrate : u32) (err : Int) : TimingState :=
  let s : TimingState :=
    { ctrlmode := 0
      clock_freq := BitVec.ofNat 32 can_clock_freq
      bittiming := { CanBittiming.zero with bitrate := bitrate }
      data_bittiming := CanBittiming.zero
      ioctl_init_flags := 0
      sent := [] }
  (pcan_cmd_set_bitrate s bitrate err).1

/-- One request to set the bit timing: the kernel stores mode and timing, and calls
`pcan_net_set_can_bittiming`. -/
structure TimingRequest where
  ctrlmode : u32
  bittiming : CanBittiming
  err : Int

def pcan_net_set_can_bittiming (s : TimingState) (err : Int) : TimingState × Int :=
  pcan_cmd_set_bittiming s s.bittiming err

def TimingState.request (s : TimingState) (r : TimingRequest) : TimingState :=
  (pcan_net_set_can_bittiming { s with ctrlmode := r.ctrlmode, bittiming := r.bittiming } r.err).1

def PcanBittiming.of_can (bt : CanBittiming) : PcanBittiming :=
  { brp := bt.brp
    tseg1 := bt.phase_seg1
    tseg2 := bt.phase_seg2
    sjw := bt.sjw
    tsam := 0
    bitrate := bt.bitrate
    sample_point := bt.sample_point
    tq := bt.tq
    bitrate_real := bt.bitrate }

def ioctl_fd_get_init (s : TimingState) : PcanfdIoctlInit :=
  { flags := s.ioctl_init_flags
    clock_hz := s.clock_freq
    nominal := PcanBittiming.of_can s.bittiming
    data := PcanBittiming.of_can s.data_bittiming }

/-! ## What a setting must be -/

/-- `struct can_bittiming_const`, without the name. -/
structure CanBittimingConst where
  tseg1_min : ℕ
  tseg1_max : ℕ
  tseg2_min : ℕ
  tseg2_max : ℕ
  sjw_max : ℕ
  brp_min : ℕ
  brp_max : ℕ

def get_can_bittiming_const : CanBittimingConst :=
  { tseg1_min := 1
    tseg1_max := 16
    tseg2_min := 1
    tseg2_max := 8
    sjw_max := 4
    brp_min := 1
    brp_max := 64 }

/-- The time before the sample point, without the synchronisation quantum. -/
def CanBittiming.tseg1 (bt : CanBittiming) : ℕ :=
  bt.prop_seg.toNat + bt.phase_seg1.toNat

/-- Bits per second of so many quanta of the prescaled clock. -/
def bitrate_of (brp tseg1 tseg2 : ℕ) : ℕ :=
  can_clock_freq / (brp * (1 + tseg1 + tseg2))

/-- A bit timing the kernel accepts for given limits, with its bitrate. -/
structure CanBittiming.InRange (bt : CanBittiming) (c : CanBittimingConst) : Prop where
  brp : c.brp_min ≤ bt.brp.toNat ∧ bt.brp.toNat ≤ c.brp_max
  sjw : 1 ≤ bt.sjw.toNat ∧ bt.sjw.toNat ≤ c.sjw_max
  tseg1 : c.tseg1_min ≤ bt.tseg1 ∧ bt.tseg1 ≤ c.tseg1_max
  tseg2 : c.tseg2_min ≤ bt.phase_seg2.toNat ∧ bt.phase_seg2.toNat ≤ c.tseg2_max
  bitrate : bt.bitrate.toNat = bitrate_of bt.brp.toNat bt.tseg1 bt.phase_seg2.toNat

instance (bt : CanBittiming) (c : CanBittimingConst) : Decidable (bt.InRange c) :=
  decidable_of_iff
    ((c.brp_min ≤ bt.brp.toNat ∧ bt.brp.toNat ≤ c.brp_max)
      ∧ (1 ≤ bt.sjw.toNat ∧ bt.sjw.toNat ≤ c.sjw_max)
      ∧ (c.tseg1_min ≤ bt.tseg1 ∧ bt.tseg1 ≤ c.tseg1_max)
      ∧ (c.tseg2_min ≤ bt.phase_seg2.toNat ∧ bt.phase_seg2.toNat ≤ c.tseg2_max)
      ∧ bt.bitrate.toNat = bitrate_of bt.brp.toNat bt.tseg1 bt.phase_seg2.toNat)
    ⟨fun ⟨hbrp, hsjw, htseg1, htseg2, hbitrate⟩ => ⟨hbrp, hsjw, htseg1, htseg2, hbitrate⟩,
      fun ⟨hbrp, hsjw, htseg1, htseg2, hbitrate⟩ => ⟨hbrp, hsjw, htseg1, htseg2, hbitrate⟩⟩

/-! ## What the device makes of the pair -/

structure BusTiming where
  brp : ℕ
  tseg1 : ℕ
  tseg2 : ℕ
  sjw : ℕ
  bitrate : ℕ
deriving DecidableEq, Repr

def BusTiming.of_btr0btr1 (btr0 btr1 : u8) : BusTiming :=
  let brp := (btr0 &&& 0x3f).toNat + 1
  let tseg1 := (btr1 &&& 0xf).toNat + 1
  let tseg2 := ((btr1 >>> 4) &&& 0x7).toNat + 1
  { brp := brp
    tseg1 := tseg1
    tseg2 := tseg2
    sjw := (btr0 >>> 6).toNat + 1
    bitrate := bitrate_of brp tseg1 tseg2 }

/-- The timing a report shows. -/
def PcanBittiming.timing (bt : PcanBittiming) : BusTiming :=
  { brp := bt.brp.toNat
    tseg1 := bt.tseg1.toNat
    tseg2 := bt.tseg2.toNat
    sjw := bt.sjw.toNat
    bitrate := bt.bitrate.toNat }

/-- The timing of the last pair the device got, from the bytes of the command. -/
def TimingState.programmed (s : TimingState) : Option BusTiming :=
  s.sent.getLast?.map fun h => BusTiming.of_btr0btr1 (h.wire.getD 3 0) (h.wire.getD 2 0)

/-- Each rate of the table stands for a pair that gives this rate. -/
theorem btr0btr1_of_bitrate_timing {bitrate : u32} {btr0 btr1 : u8}
    (h : btr0btr1_of_bitrate bitrate = some (btr0, btr1)) :
    (BusTiming.of_btr0btr1 btr0 btr1).bitrate = bitrate.toNat := by
  unfold btr0btr1_of_bitrate at h
  split at h
  case h_10 => cases h
  all_goals
    next hbitrate =>
      cases h
      rw [hbitrate]
      decide

/-! ## The fields of the pair -/

/-- Masking the low bits is the remainder. -/
theorem and_low_toNat (x : u32) (k : ℕ) (hk : k ≤ 8) :
    ((x &&& BitVec.ofNat 32 (2 ^ k - 1)).setWidth 8 : u8).toNat = x.toNat % 2 ^ k := by
  have hpow : 2 ^ k ≤ 2 ^ 8 := Nat.pow_le_pow_right (by decide) hk
  have hmask : (2 ^ k - 1) % 2 ^ 32 = 2 ^ k - 1 := Nat.mod_eq_of_lt (by omega)
  rw [BitVec.toNat_setWidth, BitVec.toNat_and, BitVec.toNat_ofNat, hmask,
    Nat.and_two_pow_sub_one_eq_mod]
  exact Nat.mod_eq_of_lt (lt_of_lt_of_le (Nat.mod_lt _ (Nat.two_pow_pos k)) hpow)

/-- The prescaler is the low six bits of the first byte. -/
theorem pack_btr0_brp (brp sjw : u32) :
    (pack_btr0 brp sjw &&& 0x3f).toNat = brp.toNat % 64 := by
  have hbits : pack_btr0 brp sjw &&& 0x3f = (brp &&& 0x3f).setWidth 8 := by
    unfold pack_btr0
    ext i hi
    interval_cases i <;> simp
  rw [hbits]
  exact and_low_toNat brp 6 (by decide)

/-- The jump width is the two bits above. -/
theorem pack_btr0_sjw (brp sjw : u32) : (pack_btr0 brp sjw >>> 6).toNat = sjw.toNat % 4 := by
  have hbits : pack_btr0 brp sjw >>> 6 = (sjw &&& 0x3).setWidth 8 := by
    unfold pack_btr0
    ext i hi
    interval_cases i <;> simp
  rw [hbits]
  exact and_low_toNat sjw 2 (by decide)

/-- The bit for triple sampling is above both fields. -/
theorem pack_btr1_tseg1 (tseg1 tseg2 : u32) {tsam : u8} (htsam : tsam = 0x80 ∨ tsam = 0) :
    ((pack_btr1 tseg1 tseg2 ||| tsam) &&& 0xf).toNat = tseg1.toNat % 16 := by
  have hbits : (pack_btr1 tseg1 tseg2 ||| tsam) &&& 0xf = (tseg1 &&& 0xf).setWidth 8 := by
    unfold pack_btr1
    ext i hi
    obtain rfl | rfl := htsam <;> interval_cases i <;> simp
  rw [hbits]
  exact and_low_toNat tseg1 4 (by decide)

/-- The second segment is the three bits below the sampling bit. -/
theorem pack_btr1_tseg2 (tseg1 tseg2 : u32) {tsam : u8} (htsam : tsam = 0x80 ∨ tsam = 0) :
    (((pack_btr1 tseg1 tseg2 ||| tsam) >>> 4) &&& 0x7).toNat = tseg2.toNat % 8 := by
  have hbits : ((pack_btr1 tseg1 tseg2 ||| tsam) >>> 4) &&& 0x7 = (tseg2 &&& 0x7).setWidth 8 := by
    unfold pack_btr1
    ext i hi
    obtain rfl | rfl := htsam <;> interval_cases i <;> simp
  rw [hbits]
  exact and_low_toNat tseg2 3 (by decide)

/-- A register field holds one less than the value, so a value from 1 to the size of the
field comes back. -/
theorem sub_one_mod_add_one {x : u32} {n : ℕ} (hpos : 1 ≤ x.toNat) (hle : x.toNat ≤ n) :
    (x - 1).toNat % n + 1 = x.toNat := by
  have hsub : (x - 1).toNat = x.toNat - 1 := by
    rw [BitVec.toNat_sub]
    have := x.isLt
    change (2 ^ 32 - 1 + x.toNat) % 2 ^ 32 = _
    omega
  rw [hsub, Nat.mod_eq_of_lt (by omega)]
  omega

/-! ## One command -/

/-- The command programs the pair, with the sampling bit of the control mode. -/
theorem programmed_set_btr0btr1 (s : TimingState) (btr0 btr1 : u8) :
    ∃ tsam : u8, (tsam = 0x80 ∨ tsam = 0)
      ∧ (pcan_cmd_set_btr0btr1 s btr0 btr1 0).1.programmed
        = some (BusTiming.of_btr0btr1 btr0 (btr1 ||| tsam))
      ∧ (pcan_cmd_set_btr0btr1 s btr0 btr1 0).1.bittiming = s.bittiming := by
  refine ⟨if s.ctrlmode &&& CAN_CTRLMODE_3_SAMPLES ≠ 0 then 0x80 else 0, ?_, ?_, rfl⟩
  · split
    · exact .inl rfl
    · exact .inr rfl
  · unfold pcan_cmd_set_btr0btr1 TimingState.command TimingState.programmed
    rw [if_neg (by decide), List.getLast?_concat]
    rfl

/-- A setting in range programs what `can.bittiming` says, its two segments before the
sample point taken together. -/
theorem programmed_request (s : TimingState) (r : TimingRequest) (herr : r.err = 0)
    (hrange : r.bittiming.InRange get_can_bittiming_const) :
    (s.request r).bittiming = r.bittiming
      ∧ (s.request r).programmed = some
        { brp := r.bittiming.brp.toNat
          tseg1 := r.bittiming.tseg1
          tseg2 := r.bittiming.phase_seg2.toNat
          sjw := r.bittiming.sjw.toNat
          bitrate := r.bittiming.bitrate.toNat } := by
  obtain ⟨ctrlmode, bt, err⟩ := r
  obtain rfl : err = 0 := herr
  obtain ⟨⟨hbrp, hbrp'⟩, ⟨hsjw, hsjw'⟩, ⟨htseg1, htseg1'⟩, ⟨htseg2, htseg2'⟩, hbitrate⟩ := hrange
  dsimp only [get_can_bittiming_const] at *
  obtain ⟨tsam, htsam, hprog, hbt⟩ := programmed_set_btr0btr1
    { s with ctrlmode := ctrlmode, bittiming := bt } (pack_btr0 (bt.brp - 1) (bt.sjw - 1))
    (pack_btr1 (bt.prop_seg + bt.phase_seg1 - 1) (bt.phase_seg2 - 1))
  refine ⟨hbt, hprog.trans ?_⟩
  have hsum : (bt.prop_seg + bt.phase_seg1).toNat = bt.tseg1 := by
    rw [BitVec.toNat_add]
    exact Nat.mod_eq_of_lt (lt_of_le_of_lt htseg1' (by decide))
  have hseg : (bt.prop_seg + bt.phase_seg1 - 1).toNat % 16 + 1 = bt.tseg1 := by
    rw [← hsum] at htseg1 htseg1' ⊢
    exact sub_one_mod_add_one htseg1 htseg1'
  unfold BusTiming.of_btr0btr1
  rw [pack_btr0_brp, pack_btr0_sjw, pack_btr1_tseg1 _ _ htsam, pack_btr1_tseg2 _ _ htsam,
    sub_one_mod_add_one hbrp hbrp', sub_one_mod_add_one hsjw hsjw', hseg,
    sub_one_mod_add_one htseg2 htseg2', hbitrate]

/-- Of several settings the last one counts. -/
theorem foldl_request_concat (s : TimingState) (rs : List TimingRequest) (r : TimingRequest) :
    (rs ++ [r]).foldl TimingState.request s = (rs.foldl TimingState.request s).request r :=
  List.foldl_concat ..

/-! ## Report and pair -/

/-- The report shows the timing that was programmed last, if any was. -/
def TimingState.ReportsProgrammed (s : TimingState) : Prop :=
  ∀ t, s.programmed = some t → (ioctl_fd_get_init s).nominal.timing = t

/-- Behind a setting, the report is right in everything but `tseg1`, which leaves out
`prop_seg`. -/
theorem request_reports_iff (s : TimingState) (r : TimingRequest) (herr : r.err = 0)
    (hrange : r.bittiming.InRange get_can_bittiming_const) :
    (s.request r).ReportsProgrammed ↔ r.bittiming.prop_seg = 0 := by
  obtain ⟨hbt, hprog⟩ := programmed_request s r herr hrange
  have hreport : (ioctl_fd_get_init (s.request r)).nominal = PcanBittiming.of_can r.bittiming := by
    rw [← hbt]; rfl
  unfold TimingState.ReportsProgrammed
  rw [hprog, hreport]
  constructor
  · intro h
    have htseg1 : r.bittiming.phase_seg1.toNat = r.bittiming.tseg1 :=
      congrArg BusTiming.tseg1 (h _ rfl)
    rw [CanBittiming.tseg1] at htseg1
    exact BitVec.eq_of_toNat_eq (by change _ = 0; omega)
  · intro hprop t ht
    obtain rfl := Option.some.inj ht
    have htseg1 : r.bittiming.tseg1 = r.bittiming.phase_seg1.toNat := by
      rw [CanBittiming.tseg1, hprop]
      exact Nat.zero_add _
    rw [htseg1]
    rfl

/-- Behind the probe, `can.bittiming` has a bitrate and nothing else, so the report is
wrong as soon as a pair was sent. -/
theorem plugin_reports_iff (bitrate : u32) :
    (pcan_usb_plugin_timing bitrate 0).ReportsProgrammed
      ↔ btr0btr1_of_bitrate bitrate = none := by
  unfold pcan_usb_plugin_timing pcan_cmd_set_bitrate
  cases hpair : btr0btr1_of_bitrate bitrate with
  | none =>
    refine ⟨fun _ => rfl, fun _ t ht => ?_⟩
    cases ht
  | some pair =>
    obtain ⟨btr0, btr1⟩ := pair
    refine ⟨fun h => ?_, fun h => by cases h⟩
    dsimp only at h
    obtain ⟨tsam, -, hprog, hbt⟩ := programmed_set_btr0btr1 _ btr0 btr1
    -- the prescaler in the register stands for at least one, the report's is zero
    have hbrp := congrArg BusTiming.brp (h _ hprog)
    simp only [ioctl_fd_get_init, hbt] at hbrp
    exact absurd hbrp (Nat.succ_ne_zero _).symm

/-- The last thing done about bit timing is one the report shows as it is: a setting
without a propagation segment or, if there was none, a bitrate the probe does not know. -/
def TimingReported (bitrate : u32) (requests : List TimingRequest) : Prop :=
  match requests.getLast? with
  | some r => r.bittiming.prop_seg = 0
  | none => btr0btr1_of_bitrate bitrate = none

/-- Behind any row of requests that succeed, report and device agree exactly under the condition
on the row. -/
theorem reports_programmed_iff (bitrate : u32) (err : Int) (herr : err = 0)
    (requests : List TimingRequest) (hok : ∀ r ∈ requests, r.err = 0)
    (hrange : ∀ r ∈ requests, r.bittiming.InRange get_can_bittiming_const) :
    (requests.foldl TimingState.request (pcan_usb_plugin_timing bitrate err)).ReportsProgrammed
      ↔ TimingReported bitrate requests := by
  subst herr
  unfold TimingReported
  obtain rfl | ⟨rs, r, rfl⟩ := requests.eq_nil_or_concat'
  · exact plugin_reports_iff bitrate
  · have hr : r ∈ rs ++ [r] := List.mem_append_right _ (List.mem_singleton_self r)
    rw [foldl_request_concat, List.getLast?_concat]
    exact request_reports_iff _ r (hok r hr) (hrange r hr)

/-- A setting for 500 kbit/s, the thirteen quanta before the sample point split as given. -/
def setting_500k (prop_seg phase_seg1 : u32) : TimingRequest :=
  { ctrlmode := CAN_CTRLMODE_3_SAMPLES
    bittiming :=
      { bitrate := 500000, sample_point := 875, tq := 125, prop_seg := prop_seg,
        phase_seg1 := phase_seg1, phase_seg2 := 2, sjw := 1, brp := 1 }
    err := 0 }

/-- The split the kernel computes, and the report without one of its halves. -/
theorem setting_500k_misreported :
    (setting_500k 6 7).bittiming.InRange get_can_bittiming_const
      ∧ (((pcan_usb_plugin_timing 500000 0).request (setting_500k 6 7)).programmed.map (·.tseg1),
          (ioctl_fd_get_init ((pcan_usb_plugin_timing 500000 0).request
            (setting_500k 6 7))).nominal.tseg1) = (some 13, 7)
      ∧ ¬ ((pcan_usb_plugin_timing 500000 0).request (setting_500k 6 7)).ReportsProgrammed := by
  have hrange : (setting_500k 6 7).bittiming.InRange get_can_bittiming_const := by decide
  refine ⟨hrange, by decide, ?_⟩
  rw [request_reports_iff _ _ rfl hrange]
  decide

/-- With the whole segment in `phase_seg1` the report is the pair. -/
theorem setting_500k_reported :
    ([setting_500k 6 7, setting_500k 0 13].foldl TimingState.request
        (pcan_usb_plugin_timing 500000 0)).ReportsProgrammed
      ↔ TimingReported 500000 [setting_500k 6 7, setting_500k 0 13] :=
  reports_programmed_iff 500000 0 rfl _ (by decide) (by decide)

end DualPcanUsb
