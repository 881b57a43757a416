/-
Whether the device's ticks are counted once.

`ts_total` is to hold the ticks since the host anchor. Record 0 of a packet is applied by
`set_time_reference`, which first makes the last tick the previous one and then adds the
distance between the two. Any other timestamp record is applied by `update_time_reference`
alone: it adds the distance from the same previous tick, with what was counted before it.
-/
import DualPcanUsb.KernelTime
import DualPcanUsb.PacketCodec
import DualPcanUsb.Lib.Runs

set_option autoImplicit false

namespace DualPcanUsb

open TickCounter LittleEndian

/-! ## Records and runs -/

/-- A timestamp record: its true tick, whether it is record 0 of its packet, and the host
clock when it is decoded. -/
structure TickRecord where
  tick : ℕ
  first : Bool
  now : ktime_t

def TickRecord.call (r : TickRecord) : TimeCall :=
  if r.first then .set r.now (tick_stamp r.tick) else .update (tick_stamp r.tick)

def TimeRef.hear (time_ref : TimeRef) (r : TickRecord) : TimeRef := r.call.apply time_ref

def TimeRef.step (time_ref : TimeRef) (r : TickRecord) : Option TimeRef := some (time_ref.hear r)

def TimeRef.hears (time_ref : TimeRef) (records : List TickRecord) : TimeRef :=
  records.foldl TimeRef.hear time_ref

/-- The tick of the last record, `T₀` where there is none. -/
def tick_after : ℕ → List TickRecord → ℕ
  | T₀, [] => T₀
  | _, r :: records => tick_after r.tick records

/-- The tick count did not go down, and by less than a turn up. -/
def WithinTurn (t t' : ℕ) : Prop := t ≤ t' ∧ t' < t + 2 ^ 16

/-- Whether the next `set_time_reference` changes the time base. -/
def TimeRef.Rebases (time_ref : TimeRef) : Prop :=
  BitVec.ofInt 64 (ktime_sub time_ref.tv_host time_ref.tv_host_0) > 4200 * NSEC_PER_SEC

instance (time_ref : TimeRef) : Decidable time_ref.Rebases := inferInstanceAs (Decidable (_ > _))

/-- The two device ticks kept are the same. -/
def TimeRef.SameTick (time_ref : TimeRef) : Prop :=
  time_ref.ts_dev_1.toNat % 2 ^ 16 = time_ref.ts_dev_2.toNat % 2 ^ 16

instance (time_ref : TimeRef) : Decidable time_ref.SameTick := inferInstanceAs (Decidable (_ = _))

/-- What the decoder does with the body of a timestamp record is one such call. -/
theorem update_timestamp_hears (env : Env) (ctx : MsgContext) (s : RxState) {tick : ℕ}
    (hfits : ctx.ptr + 2 ≤ ctx.end_)
    (hbody : (le16 (ctx.peek 0) (ctx.peek 1)).setWidth 32 = tick_stamp tick) :
    (update_timestamp_in_context env ctx s).2.2.fwd.time_ref
      = s.fwd.time_ref.hear ⟨tick, decide (ctx.rec_idx = 0), env.ktime_get s.clocks⟩ := by
  have hroom : ¬ ctx.ptr + 2 > ctx.end_ := by omega
  unfold update_timestamp_in_context TimeRef.hear TickRecord.call
  rw [if_neg hroom]
  dsimp only
  rw [hbody]
  by_cases hidx : ctx.rec_idx = 0
  · have hfirst : ¬ ctx.rec_idx > 0 := by simp [hidx]
    rw [if_neg (show ¬ (ctx.take 2 0).rec_idx > 0 from hfirst), decide_eq_true hidx]
    rfl
  · have hlater : ctx.rec_idx > 0 := (BitVec.pos_iff_ne_zero _).mpr hidx
    rw [if_pos (show (ctx.take 2 0).rec_idx > 0 from hlater), decide_eq_false hidx]
    rfl

/-! ## One call -/

/-- A running time base whose last tick is `T`. -/
structure Counting (time_ref : TimeRef) (T : ℕ) : Prop where
  host : 0 < time_ref.tv_host
  base : time_ref.tv_host_0 ≠ 0
  last : time_ref.ts_dev_2 = tick_stamp T

/-- What a timestamp stores: the tick, and with a time base the ticks since the anchor. -/
theorem update_time_reference_eq (ts_now : u32) (time_ref : TimeRef) :
    update_time_reference ts_now time_ref
      = { time_ref with
          ts_dev_2 := ts_now
          ts_total := if 0 < time_ref.tv_host then
              time_ref.ts_total
                + (elapsed PCAN_USB_TS_USED_BITS ts_now time_ref.ts_dev_1).setWidth 64
            else time_ref.ts_total } := by
  unfold update_time_reference elapsed
  dsimp only
  by_cases hhost : 0 < time_ref.tv_host
  · rw [if_pos hhost, if_pos hhost]
    rfl
  · rw [if_neg hhost, if_neg hhost]

@[simp] theorem update_ts_dev_2 (ts_now : u32) (time_ref : TimeRef) :
    (update_time_reference ts_now time_ref).ts_dev_2 = ts_now := by
  rw [update_time_reference_eq]

@[simp] theorem set_ts_dev_2 (now : ktime_t) (ts_now : u32) (time_ref : TimeRef) :
    (set_time_reference now ts_now time_ref).ts_dev_2 = ts_now := by
  simp only [set_time_reference, update_ts_dev_2]

/-- An update adds the ticks since `ts_dev_1`. -/
theorem update_ts_total (ts_now : u32) {time_ref : TimeRef} (h : 0 < time_ref.tv_host) :
    (update_time_reference ts_now time_ref).ts_total
      = time_ref.ts_total
        + (elapsed PCAN_USB_TS_USED_BITS ts_now time_ref.ts_dev_1).setWidth 64 := by
  rw [update_time_reference_eq]
  exact if_pos h

/-- The host side of a later pass that keeps the time base. -/
theorem set_host_time_running (now : ktime_t) {time_ref : TimeRef} (hhost : 0 < time_ref.tv_host)
    (hbase : time_ref.tv_host_0 ≠ 0) (hkeep : ¬ time_ref.Rebases) :
    set_host_time now time_ref
      = { time_ref with tv_host := now, tick_count := time_ref.tick_count + 1 } := by
  unfold set_host_time
  rw [if_neg hbase, if_pos hhost.ne']
  dsimp only
  rw [if_neg (show ¬ _ > _ from hkeep)]

/-- A set adds those since `ts_dev_2`. -/
theorem set_ts_total (now : ktime_t) (ts_now : u32) {time_ref : TimeRef}
    (hhost : 0 < time_ref.tv_host) (hbase : time_ref.tv_host_0 ≠ 0) (hkeep : ¬ time_ref.Rebases)
    (hnow : 0 < now) :
    (set_time_reference now ts_now time_ref).ts_total
      = time_ref.ts_total
        + (elapsed PCAN_USB_TS_USED_BITS ts_now time_ref.ts_dev_2).setWidth 64 := by
  unfold set_time_reference
  dsimp only
  rw [set_host_time_running now hhost hbase hkeep, update_ts_total ts_now hnow]

/-- With a tick less than a turn after the last, the distance added is the true one exactly
if it is taken from a reading of the last tick. -/
theorem add_elapsed_iff (total : u64) {prev : u32} {T T' : ℕ} (hturn : WithinTurn T T') :
    total + (elapsed PCAN_USB_TS_USED_BITS (tick_stamp T') prev).setWidth 64
        = total + BitVec.ofNat 64 (T' - T)
      ↔ prev.toNat % 2 ^ 16 = T % 2 ^ 16 := by
  obtain ⟨hle, hlt⟩ := hturn
  have hnow : (tick_stamp T').toNat = T' % 2 ^ 16 := toNat_reading (by decide) T'
  have hiff := @toNat_elapsed_iff 16 32 (tick_stamp T') prev (by decide) T T' hnow hle hlt
  rw [BitVec.add_right_inj, ← BitVec.toNat_inj, BitVec.toNat_setWidth_of_le (by decide),
    BitVec.toNat_ofNat, Nat.mod_eq_of_lt (by omega)]
  exact hiff

section

variable {time_ref : TimeRef} {T : ℕ} {r : TickRecord}

/-- A record keeps the time base running, and its tick becomes the last one. -/
theorem Counting.hear (h : Counting time_ref T) (hnow : r.first → 0 < r.now)
    (hkeep : r.first → ¬ time_ref.Rebases) : Counting (time_ref.hear r) r.tick := by
  obtain ⟨tick, first, now⟩ := r
  cases first with
  | false =>
    refine ⟨?_, ?_, ?_⟩
    · simpa [TimeRef.hear, TickRecord.call, TimeCall.apply] using h.host
    · simpa [TimeRef.hear, TickRecord.call, TimeCall.apply] using h.base
    · simp [TimeRef.hear, TickRecord.call, TimeCall.apply]
  | true =>
    have hhost := set_host_time_running now h.host h.base (hkeep rfl)
    refine ⟨?_, ?_, ?_⟩
    · simpa [TimeRef.hear, TickRecord.call, TimeCall.apply, hhost] using hnow rfl
    · simpa [TimeRef.hear, TickRecord.call, TimeCall.apply, hhost] using h.base
    · simp [TimeRef.hear, TickRecord.call, TimeCall.apply]

/-- What a record adds is right if it is record 0 of its packet; a later one's, exactly if
the tick it is measured from is the last one. -/
theorem Counting.hear_total_iff (h : Counting time_ref T) (hnow : r.first → 0 < r.now)
    (hkeep : r.first → ¬ time_ref.Rebases) (hturn : WithinTurn T r.tick) :
    (time_ref.hear r).ts_total = time_ref.ts_total + BitVec.ofNat 64 (r.tick - T)
      ↔ (r.first = false → time_ref.SameTick) := by
  obtain ⟨tick, first, now⟩ := r
  have hlast : time_ref.ts_dev_2.toNat % 2 ^ 16 = T % 2 ^ 16 := by
    rw [h.last, tick_stamp, toNat_reading (by decide), PCAN_USB_TS_USED_BITS, Nat.mod_mod]
  cases first with
  | false =>
    have htotal : (time_ref.hear ⟨tick, false, now⟩).ts_total = _ :=
      update_ts_total (tick_stamp tick) h.host
    rw [htotal, add_elapsed_iff time_ref.ts_total hturn, TimeRef.SameTick, hlast]
    simp
  | true =>
    have htotal : (time_ref.hear ⟨tick, true, now⟩).ts_total = _ :=
      set_ts_total now (tick_stamp tick) h.host h.base (hkeep rfl) (hnow rfl)
    rw [htotal, add_elapsed_iff time_ref.ts_total hturn, hlast]
    simp

end

/-- A `set_time_reference` call that leaves the time base running. -/
theorem counting_after_set (now : ktime_t) (T₀ : ℕ) {time_ref : TimeRef}
    (hhost : 0 < (set_time_reference now (tick_stamp T₀) time_ref).tv_host) :
    Counting (set_time_reference now (tick_stamp T₀) time_ref) T₀ := by
  refine ⟨hhost, ?_, set_ts_dev_2 now (tick_stamp T₀) time_ref⟩
  rw [set_tv_host] at hhost
  rw [set_tv_host_0]
  unfold set_host_time at hhost ⊢
  by_cases hbase : time_ref.tv_host_0 = 0
  · -- the first pass clears `tv_host`
    rw [if_pos hbase] at hhost
    exact absurd hhost (lt_irrefl 0)
  · rw [if_neg hbase]
    by_cases hrunning : time_ref.tv_host ≠ 0
    · rw [if_pos hrunning]
      dsimp only
      split
      · exact hrunning
      · exact hbase
    · rw [if_neg hrunning]
      exact hbase

/-! ## Whole runs -/

/-- From tick `T₀` on, each tick up to `T` has been counted once. -/
structure CountedOnce (start time_ref : TimeRef) (T₀ T : ℕ) : Prop where
  total : time_ref.ts_total = start.ts_total + BitVec.ofNat 64 (T - T₀)
  last : time_ref.ts_dev_2 = tick_stamp T

/-- Counting on from a count that is right. -/
theorem CountedOnce.trans_iff {start mid time_ref : TimeRef} {T₀ T₁ T : ℕ}
    (h : CountedOnce start mid T₀ T₁) (hle : T₀ ≤ T₁) (hle' : T₁ ≤ T) :
    CountedOnce start time_ref T₀ T ↔ CountedOnce mid time_ref T₁ T := by
  have hsum : start.ts_total + BitVec.ofNat 64 (T - T₀)
      = mid.ts_total + BitVec.ofNat 64 (T - T₁) := by
    rw [h.total, BitVec.add_assoc, ← BitVec.ofNat_add, show T - T₀ = T₁ - T₀ + (T - T₁) by omega]
  constructor
  · intro hc
    exact ⟨hc.total.trans hsum, hc.last⟩
  · intro hc
    exact ⟨hc.total.trans hsum.symm, hc.last⟩

/-- Ticks that go up do so over a whole run. -/
theorem le_tick_after {T : ℕ} {records : List TickRecord}
    (hticks : List.IsChain WithinTurn (T :: records.map TickRecord.tick)) :
    T ≤ tick_after T records := by
  induction records generalizing T with
  | nil => exact le_rfl
  | cons r records ih =>
    rw [List.map_cons, List.isChain_cons_cons] at hticks
    exact hticks.1.1.trans (ih hticks.2)

/-- Each prefix is empty or starts with the first entry. -/
theorem forall_prefix_cons {α : Type*} {P : List α → Prop} (a : α) (l : List α) :
    (∀ past, past <+: a :: l → P past) ↔ P [] ∧ ∀ past, past <+: l → P (a :: past) := by
  constructor
  · intro h
    exact ⟨h [] List.nil_prefix, fun past hpast => h _ (List.cons_prefix_cons.mpr ⟨rfl, hpast⟩)⟩
  · rintro ⟨hnil, hcons⟩ past hpast
    rcases List.prefix_cons_iff.mp hpast with rfl | ⟨rest, rfl, hrest⟩
    · exact hnil
    · exact hcons rest hrest

/-- From a running time base: the induction is on the records, and what carries it is that
each part of a row of close ticks is one. -/
theorem counted_once_iff {time_ref : TimeRef} {T : ℕ} (records : List TickRecord)
    (hcount : Counting time_ref T) (hnow : ∀ r ∈ records, r.first → 0 < r.now)
    (hticks : List.IsChain WithinTurn (T :: records.map TickRecord.tick))
    (hkeep : Runs.Along TimeRef.step (fun s r => r.first → ¬ s.Rebases) time_ref records) :
    (∀ past, past <+: records →
        CountedOnce time_ref (time_ref.hears past) T (tick_after T past))
      ↔ Runs.Along TimeRef.step (fun s r => r.first = false → s.SameTick) time_ref records := by
  have hstart : CountedOnce time_ref time_ref T T := by
    refine ⟨?_, hcount.last⟩
    rw [Nat.sub_self]
    exact (BitVec.add_zero _).symm
  induction records generalizing time_ref T with
  | nil =>
    simp only [List.prefix_nil, forall_eq, Runs.Along, iff_true]
    exact hstart
  | cons r records ih =>
    rw [List.map_cons, List.isChain_cons_cons] at hticks
    rw [Runs.along_cons_iff TimeRef.step rfl] at hkeep ⊢
    have hr := hnow r List.mem_cons_self
    have hnext := hcount.hear hr hkeep.1
    have hone := hcount.hear_total_iff hr hkeep.1 hticks.1
    have hstart' : CountedOnce (time_ref.hear r) (time_ref.hear r) r.tick r.tick := by
      refine ⟨?_, hnext.last⟩
      rw [Nat.sub_self]
      exact (BitVec.add_zero _).symm
    have hrest := ih hnext (fun r' hr' => hnow r' (List.mem_cons_of_mem r hr')) hticks.2 hkeep.2
      hstart'
    rw [forall_prefix_cons]
    have hpart : ∀ past, past <+: records → r.tick ≤ tick_after r.tick past := by
      rintro past ⟨later, rfl⟩
      apply le_tick_after
      have hchain := hticks.2
      rw [List.map_append, ← List.cons_append] at hchain
      exact hchain.left_of_append
    refine Iff.trans ?_ (and_congr hone hrest)
    constructor
    · rintro ⟨-, hall⟩
      have hmid := hall [] List.nil_prefix
      refine ⟨hmid.total, fun past hpast => ?_⟩
      exact (hmid.trans_iff hticks.1.1 (hpart past hpast)).mp (hall past hpast)
    · rintro ⟨htotal, hall⟩
      have hmid : CountedOnce time_ref (time_ref.hear r) T r.tick := ⟨htotal, hnext.last⟩
      refine ⟨hstart, fun past hpast => ?_⟩
      exact (hmid.trans_iff hticks.1.1 (hpart past hpast)).mpr (hall past hpast)

/-- After a pass that left the time base running, with later host readings positive and no
change of base: the ticks are counted once behind every record exactly if each record
applied by `update_time_reference` finds the two device ticks equal. -/
theorem ticks_counted_once_iff (time_ref : TimeRef) (now₀ : ktime_t) (T₀ : ℕ)
    (records : List TickRecord)
    (hhost : 0 < (set_time_reference now₀ (tick_stamp T₀) time_ref).tv_host)
    (hnow : ∀ r ∈ records, r.first → 0 < r.now)
    (hticks : List.IsChain WithinTurn (T₀ :: records.map TickRecord.tick))
    (hkeep : Runs.Along TimeRef.step (fun s r => r.first → ¬ s.Rebases)
      (set_time_reference now₀ (tick_stamp T₀) time_ref) records) :
    (∀ past, past <+: records →
        CountedOnce (set_time_reference now₀ (tick_stamp T₀) time_ref)
          ((set_time_reference now₀ (tick_stamp T₀) time_ref).hears past) T₀ (tick_after T₀ past))
      ↔ Runs.Along TimeRef.step (fun s r => r.first = false → s.SameTick)
          (set_time_reference now₀ (tick_stamp T₀) time_ref) records :=
  counted_once_iff records (counting_after_set now₀ T₀ hhost) hnow hticks hkeep

/-- A running time base at tick 900. -/
def running_ref : TimeRef := ⟨1000000000, 2000000000, 500, 900, 900, 1⟩

/-- A later record of the packet whose record 0 came at tick 1000, and the next packet's
record 0. -/
def two_packets : List TickRecord :=
  [⟨1200, false, 0⟩, ⟨1300, true, 4000000000⟩]

theorem ticks_counted_once_iff_two_packets :
    (∀ past, past <+: two_packets →
        CountedOnce (set_time_reference 3000000000 (tick_stamp 1000) running_ref)
          ((set_time_reference 3000000000 (tick_stamp 1000) running_ref).hears past) 1000
            (tick_after 1000 past))
      ↔ Runs.Along TimeRef.step (fun s r => r.first = false → s.SameTick)
          (set_time_reference 3000000000 (tick_stamp 1000) running_ref) two_packets :=
  ticks_counted_once_iff running_ref 3000000000 1000 two_packets (by decide) (by decide)
    (.cons_cons ⟨by decide, by decide⟩ (.cons_cons ⟨by decide, by decide⟩ (.singleton _)))
    (by decide)

/-- The hundred ticks before tick 1000 are counted again by the record behind it. -/
theorem ticks_counted_twice :
    0 < (set_time_reference 3000000000 (tick_stamp 1000) running_ref).tv_host
      ∧ (∀ r ∈ two_packets, r.first → 0 < r.now)
      ∧ List.IsChain WithinTurn (1000 :: two_packets.map TickRecord.tick)
      ∧ Runs.Along TimeRef.step (fun s r => r.first → ¬ s.Rebases)
          (set_time_reference 3000000000 (tick_stamp 1000) running_ref) two_packets
      ∧ (set_time_reference 3000000000 (tick_stamp 1000) running_ref).ts_total = 1000
      ∧ ((set_time_reference 3000000000 (tick_stamp 1000) running_ref).hears two_packets).ts_total
          = 1400
      ∧ ¬ CountedOnce (set_time_reference 3000000000 (tick_stamp 1000) running_ref)
          ((set_time_reference 3000000000 (tick_stamp 1000) running_ref).hears two_packets) 1000
            (tick_after 1000 two_packets) := by
  refine ⟨by decide, by decide, ?_, by decide, by decide, by decide, ?_⟩
  · exact .cons_cons ⟨by decide, by decide⟩ (.cons_cons ⟨by decide, by decide⟩ (.singleton _))
  · intro h
    exact absurd h.total (by decide)

end DualPcanUsb
