/-
Which bytes of the transfer buffer the packet parser reads.

Every field is compared with `end_` before it is read, except one: the status
byte at the head of the loop. Records that fit leave the cursor at most at `end_`,
so the parser stays inside the packet exactly as long as the loop is never sent
into a record that begins at `actual_length`.
-/
import DualPcanUsb.PacketLoop

set_option autoImplicit false

namespace DualPcanUsb

/-- The indices of the transfer buffer `pcan_decode_and_handle_urb` reads, in
order; a transfer without a record is not looked at. -/
def urb_reads (env : Env) (transfer_buffer : ℕ → u8) (actual_length : ℕ) (s : RxState) : List ℕ :=
  if actual_length > PCAN_USB_MSG_HEADER_LEN then
    (decode_incoming_buf env transfer_buffer actual_length s).2.1.reads
  else []

/-- All reads stay below `actual_length` if and only if no record the loop gets to
has its status byte outside the packet. -/
theorem urb_reads_in_packet_iff (env : Env) (transfer_buffer : ℕ → u8) (actual_length : ℕ)
    (s : RxState) (hlen : actual_length > PCAN_USB_MSG_HEADER_LEN) :
    (∀ i ∈ urb_reads env transfer_buffer actual_length s, i < actual_length)
      ↔ Fate.overrun ∉ packet_fates env transfer_buffer actual_length s := by
  -- `rs` is what the loop reads; the count byte came first
  obtain ⟨rs, hrs, hiff⟩ := (decode_incoming_buf_fates env transfer_buffer actual_length s).reads
  rw [urb_reads, if_pos hlen, hrs, ← hiff]
  constructor
  · intro hall i hi
    exact hall i (List.mem_append_right _ hi)
  · intro hall i hi
    rcases List.mem_append.mp hi with hi | hi
    · -- the count byte
      rw [List.mem_singleton.mp hi]
      exact lt_trans (by decide) hlen
    · exact hall i hi

/-- Two bus event records announced and one sent: five bytes, and the second
status byte would be the sixth. -/
def short_packet : ℕ → u8 := buffer [2, 2, 0x40, 5, 0]

theorem urb_reads_in_packet_iff_short_packet :
    (∀ i ∈ urb_reads Env.plenty short_packet 5 (RxState.idle true), i < 5)
      ↔ Fate.overrun ∉ packet_fates Env.plenty short_packet 5 (RxState.idle true) :=
  urb_reads_in_packet_iff Env.plenty short_packet 5 (RxState.idle true) (by decide)

/-- The first byte behind it is read. -/
theorem short_packet_read_past_end :
    ¬ ∀ i ∈ urb_reads Env.plenty short_packet 5 (RxState.idle true), i < 5 := by
  have hreads : urb_reads Env.plenty short_packet 5 (RxState.idle true) = [1, 2, 3, 4, 5] := by
    decide
  rw [hreads]
  decide

end DualPcanUsb
