/-
Where `pcan_encode_frame_to_buf` stores.

The record goes to the start of the transmit buffer, at most fifteen bytes of it. The
counter byte is meant for the end, `obuf[*size - 1]`, but `obuf` is no longer the start of
the buffer then: the store lands as far behind the end as the record is long, and the last
byte of the buffer keeps what it had.
-/
import DualPcanUsb.FrameLayout

set_option autoImplicit false

namespace DualPcanUsb

/-! ## The stores, in order -/

/-- Bytes in a row are stored at positions in a row. -/
theorem append_stores (o : OutBuf) (bs : List u8) :
    (o.append bs).stores = o.stores ++ List.range' o.pos bs.length := by
  unfold OutBuf.append
  induction bs generalizing o with
  | nil => simp
  | cons b bs ih =>
    rw [List.foldl_cons, ih, List.length_cons, List.range'_succ]
    change o.stores ++ [o.pos] ++ List.range' (o.pos + 1) bs.length = _
    rw [List.append_assoc, List.singleton_append]

theorem store_bytes_of_ne (o : OutBuf) (b : u8) {i j : ℕ} (hne : j ≠ i) :
    (o.store i b).bytes j = o.bytes j :=
  Function.update_of_ne hne _ _

/-- An append leaves what lies behind its end. -/
theorem append_bytes_of_ge (o : OutBuf) (bs : List u8) {i : ℕ} (hi : o.pos + bs.length ≤ i) :
    (o.append bs).bytes i = o.bytes i := by
  unfold OutBuf.append
  induction bs generalizing o with
  | nil => rfl
  | cons b bs ih =>
    rw [List.length_cons] at hi
    have hrest : (o.push b).pos + bs.length ≤ i := by change o.pos + 1 + bs.length ≤ i; omega
    rw [List.foldl_cons, ih (o.push b) hrest]
    exact store_bytes_of_ne o b (by omega)

/-- The header, the status byte, an id and at most eight bytes of payload. -/
theorem encoded_bytes_length (frame : CanFrame) :
    5 ≤ (encoded_bytes frame).length ∧ (encoded_bytes frame).length ≤ 15 := by
  have hid : 2 ≤ (id_bytes frame).length ∧ (id_bytes frame).length ≤ 4 := by
    unfold id_bytes
    split <;> exact ⟨by simp, by simp⟩
  have hpayload : (payload_bytes frame).length ≤ 8 := by
    unfold payload_bytes
    split
    · rw [List.length_take, Vector.length_toList]
      exact Nat.min_le_right ..
    · exact Nat.zero_le 8
  have hlen : (encoded_bytes frame).length
      = 3 + ((id_bytes frame).length + (payload_bytes frame).length) := by
    rw [encoded_bytes, List.length_append, List.length_append]; rfl
  omega

/-- One store for each byte of the record, and one for the counter, counted from the
record's end. -/
theorem encode_stores (shared_tx_counter : u8) (frame : CanFrame) (obuf : ℕ → u8) (size : ℕ) :
    (pcan_encode_frame_to_buf shared_tx_counter frame obuf size).stores
      = List.range (encoded_bytes frame).length
        ++ [(encoded_bytes frame).length + size - 1] := by
  rw [encode_eq]
  change ((⟨obuf, 0, []⟩ : OutBuf).append (encoded_bytes frame)).stores ++ [_] = _
  rw [append_stores, List.nil_append, List.range_eq_range']

/-! ## The buffer as it is meant to be -/

/-- Every store stays inside the transmit buffer, which has the record at its start, the
counter in its last byte, and its old contents elsewhere. -/
structure FillsTxBuffer (shared_tx_counter : u8) (frame : CanFrame) (obuf : ℕ → u8)
    (o : OutBuf) : Prop where
  stores_lt : ∀ i ∈ o.stores, i < PCAN_USB_TX_BUFFER_SIZE
  record : ∀ i b, (encoded_bytes frame)[i]? = some b → o.bytes i = b
  counter : o.bytes (PCAN_USB_TX_BUFFER_SIZE - 1) = shared_tx_counter
  unchanged : ∀ i < PCAN_USB_TX_BUFFER_SIZE - 1, (encoded_bytes frame).length ≤ i →
    o.bytes i = obuf i

/-- The encoder never does that: for every frame and every value of the counter, the last
store is at least four bytes behind the buffer, and the buffer's last byte stays. -/
theorem encode_never_fills_tx_buffer (shared_tx_counter : u32) (frame : CanFrame)
    (obuf : ℕ → u8) :
    ¬ FillsTxBuffer (shared_tx_counter.setWidth 8) frame obuf
        (pcan_encode_frame_to_buf (shared_tx_counter.setWidth 8) frame obuf
          PCAN_USB_TX_BUFFER_SIZE)
      ∧ (∃ i ∈ (pcan_encode_frame_to_buf (shared_tx_counter.setWidth 8) frame obuf
          PCAN_USB_TX_BUFFER_SIZE).stores, PCAN_USB_TX_BUFFER_SIZE + 4 ≤ i)
      ∧ (pcan_encode_frame_to_buf (shared_tx_counter.setWidth 8) frame obuf
          PCAN_USB_TX_BUFFER_SIZE).bytes (PCAN_USB_TX_BUFFER_SIZE - 1)
        = obuf (PCAN_USB_TX_BUFFER_SIZE - 1) := by
  obtain ⟨hmin, hmax⟩ := encoded_bytes_length frame
  have hsize : PCAN_USB_TX_BUFFER_SIZE = 64 := rfl
  have hlast : (encoded_bytes frame).length + PCAN_USB_TX_BUFFER_SIZE - 1
      ∈ (pcan_encode_frame_to_buf (shared_tx_counter.setWidth 8) frame obuf
          PCAN_USB_TX_BUFFER_SIZE).stores := by
    rw [encode_stores]
    exact List.mem_append_right _ (List.mem_singleton_self _)
  refine ⟨fun h => ?_, ⟨_, hlast, by omega⟩, ?_⟩
  · have hlt := h.stores_lt _ hlast
    omega
  · -- neither the counter nor the record reaches the last byte
    have hne : PCAN_USB_TX_BUFFER_SIZE - 1
        ≠ (encoded_bytes frame).length + PCAN_USB_TX_BUFFER_SIZE - 1 := by omega
    rw [encode_eq, store_bytes_of_ne _ _ hne]
    exact append_bytes_of_ge ⟨obuf, 0, []⟩ _ (by change 0 + _ ≤ _; omega)

/-- A frame without payload: its counter byte goes to index 68 of 64. -/
theorem empty_frame_overruns :
    (pcan_encode_frame_to_buf 7 CanFrame.zero (fun _ => 0) PCAN_USB_TX_BUFFER_SIZE).stores
        = [0, 1, 2, 3, 4, 68]
      ∧ ¬ FillsTxBuffer 7 CanFrame.zero (fun _ => 0)
        (pcan_encode_frame_to_buf 7 CanFrame.zero (fun _ => 0) PCAN_USB_TX_BUFFER_SIZE) := by
  have hstores : (pcan_encode_frame_to_buf 7 CanFrame.zero (fun _ => 0)
      PCAN_USB_TX_BUFFER_SIZE).stores = [0, 1, 2, 3, 4, 68] := by decide
  refine ⟨hstores, fun h => ?_⟩
  have hlt := h.stores_lt 68 (by rw [hstores]; decide)
  exact absurd hlt (by decide)

end DualPcanUsb
