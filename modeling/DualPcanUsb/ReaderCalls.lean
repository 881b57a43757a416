/-
The three readers, from their first check to the copy to user space.

`RxRing` has their locked sections, `ReadText` and `RecvMsgs` what these make of the
messages. Here each reader is a whole call on the memory it works in: the object on the
stack, the buffers of the character device and the user's address space, byte by byte.
The wait looks at the ring without the lock, so the device it has seen is an argument of its
own: by the time the call gets to its section, records and other readers may have changed the
ring. Structures have the layout of a 64-bit machine; an assignment stores the bytes of its
member.
-/
import DualPcanUsb.Lifecycle
import DualPcanUsb.RingContents
import DualPcanUsb.Lib.StructBytes

set_option autoImplicit false

namespace DualPcanUsb

open LittleEndian StructBytes

/-! ## The structures in memory -/

/-- `sizeof(pcan_ioctl_rd_msg_t)` -/
def sizeof_pcan_ioctl_rd_msg : ℕ := 24

/-- `sizeof(pcanfd_ioctl_msg_t)` -/
def sizeof_pcanfd_ioctl_msg : ℕ := 104

/-- `sizeof(pcanfd_ioctl_msgs_t)`: the count, and room up to the list. -/
def sizeof_pcanfd_ioctl_msgs : ℕ := 8

def SIZE_OF_PCANFD_IOCTL_MSGS (count : ℕ) : ℕ :=
  sizeof_pcanfd_ioctl_msgs + sizeof_pcanfd_ioctl_msg * count

/-- The members at their offsets; of `data`, the bytes the `memcpy` copies. -/
def PcanRdMsg.stores (msg : PcanRdMsg) : List Store :=
  [⟨0, le_bytes 4 msg.id⟩, ⟨4, [msg.type]⟩, ⟨5, [msg.len]⟩,
    ⟨6, (List.range msg.len.toNat).map msg.data⟩, ⟨16, le_bytes 4 msg.time_msecs⟩,
    ⟨20, le_bytes 2 msg.remainder_usecs⟩]

/-- The members that are assigned: `ctrlr_data`, at offset 32, is not. -/
def PcanfdMsg.stores (m : PcanfdMsg) : List Store :=
  [⟨4, le_bytes 4 m.id⟩, ⟨2, le_bytes 2 m.data_len⟩,
    ⟨40, (List.range m.data_len.toNat).map m.data⟩, ⟨0, le_bytes 2 m.type⟩,
    ⟨8, le_bytes 4 m.flags⟩, ⟨16, le_bytes 8 (BitVec.ofInt 64 m.tv_sec)⟩,
    ⟨24, le_bytes 8 (BitVec.ofInt 64 m.tv_usec)⟩]

/-- What `ioctl_read_msg` stores for a message; what was there before does not matter. -/
def rd_msg_stores (rx_msg : ChardevMsg) : List Store :=
  (PcanRdMsg.receive rx_msg ⟨0, 0, 0, fun _ => 0, 0, 0⟩).stores

/-- What the loop of `ioctl_fd_recv_msgs` stores for a message, from its entry on. -/
def fd_msg_stores (base : TimeBase) (rx_msg : ChardevMsg) : List Store :=
  (PcanfdMsg.receive base rx_msg ⟨0, 0, 0, 0, 0, 0, fun _ => 0⟩).stores

/-- The loop, from entry `i` on. -/
def fd_list_stores (base : TimeBase) : ℕ → List ChardevMsg → List Store
  | _, [] => []
  | i, rx_msg :: msgs =>
    (fd_msg_stores base rx_msg).map (Store.shift (SIZE_OF_PCANFD_IOCTL_MSGS i))
      ++ fd_list_stores base (i + 1) msgs

def count_store (count : u32) : Store := ⟨0, le_bytes 4 count⟩

/-! ## The calls -/

/-- A device and the memory its readers work in. `rd_user_buf` is the user address
`rd_mapped_addr` was made for, and `rd_mapped_addr` the user page it shows; both are null
until a read maps its buffer. -/
structure ReaderState where
  d : Device
  ioctl_rxmsgs : Bytes
  rd_kernel_buf : Bytes
  rd_user_buf : ℕ
  rd_mapped_addr : Option ℕ
  user : Bytes

/-- How the services answer a reader: its wait, `__get_user`, `access_ok`,
`get_user_pages_fast`, and how many bytes the copy to user space leaves out. -/
structure Services where
  wait : Wait
  get_user_fault : Bool
  access_ok : Bool
  pin_err : Int
  not_copied : ℕ

def ReaderState.dev (st : ReaderState) : Chardev := st.d.char_dev

def ReaderState.set_dev (st : ReaderState) (dev : Chardev) : ReaderState :=
  { st with d := st.d.set_fwd { st.d.rx.fwd with char_dev := dev } }

/-- Copies from the front on; the result is the number of bytes left out. -/
def ReaderState.copy_to_user (st : ReaderState) (to_ : ℕ) (bs : List u8) (not_copied : ℕ) :
    ℕ × ReaderState :=
  let left := min not_copied bs.length
  (left, { st with user := (Store.mk to_ (bs.take (bs.length - left))).apply st.user })

/-- What a message's time is relative to. -/
def ReadEnv.base (env : ReadEnv) : TimeBase := ⟨env.bus_up_time, env.tv_host_0⟩

/-- The locked section of `ioctl_read_msg`, and the copy. -/
def ReaderState.read_msg_copied (st : ReaderState) (services : Services) (arg : ℕ) (msg : Bytes) :
    Int × ReaderState :=
  match ioctl_read_msg_section st.dev with
  | (.error err, dev) => (err, st.set_dev dev)
  | (.ok msgs, dev) =>
    let msg := stored (msgs.flatMap rd_msg_stores) msg
    let (left, st) := (st.set_dev dev).copy_to_user arg (shown sizeof_pcan_ioctl_rd_msg msg)
      services.not_copied
    (if left ≠ 0 then -EFAULT else 0, st)

/-- `msg` is what the stack holds where the object of that name comes to be. -/
def ReaderState.ioctl_read_msg_seen (st : ReaderState) (seen : Device) (services : Services)
    (arg : ℕ) (msg : Bytes) : Int × ReaderState :=
  let err := wait_for_msgs services.wait seen
  if err ≠ 0 then (err, st) else st.read_msg_copied services arg msg

/-- With nobody at the ring between the wait and the section. -/
def ReaderState.ioctl_read_msg (st : ReaderState) (services : Services) (arg : ℕ) (msg : Bytes) :
    Int × ReaderState :=
  st.ioctl_read_msg_seen st.d services arg msg

/-- The count a request carries. -/
def ReaderState.asked (st : ReaderState) (arg : ℕ) : u32 :=
  le32 (st.user arg) (st.user (arg + 1)) (st.user (arg + 2)) (st.user (arg + 3))

/-- `__get_user(msgp->count, ...)`: a fault leaves a zero. -/
def ReaderState.get_count (st : ReaderState) (services : Services) (arg : ℕ) : ReaderState :=
  let count := if services.get_user_fault then 0 else st.asked arg
  { st with ioctl_rxmsgs := (count_store count).apply st.ioctl_rxmsgs }

/-- A count, cut down to what is there. -/
def cut_count (asked : u32) (dev : Chardev) : u32 :=
  if asked > BitVec.ofInt 32 dev.rx_unread_cnt then BitVec.ofInt 32 dev.rx_unread_cnt else asked

/-- What the locked section of `ioctl_fd_recv_msgs` stores into the buffer. -/
def fd_msgs_stores (base : TimeBase) (count : u32) (msgs : List ChardevMsg) : List Store :=
  count_store count :: fd_list_stores base 0 msgs

/-- The locked section of `ioctl_fd_recv_msgs`, and the copy. -/
def ReaderState.recv_msgs_copied (st : ReaderState) (services : Services) (env : ReadEnv)
    (arg : ℕ) (asked : u32) : Int × ReaderState :=
  match ioctl_fd_recv_msgs_section asked st.dev with
  | (.error err, dev) => (err, st.set_dev dev)
  | (.ok msgs, dev) =>
    let count := cut_count asked st.dev
    let msgp := stored (fd_msgs_stores env.base count msgs) st.ioctl_rxmsgs
    let st := { st.set_dev dev with ioctl_rxmsgs := msgp }
    let (left, st) := st.copy_to_user arg (shown (SIZE_OF_PCANFD_IOCTL_MSGS count.toNat) msgp)
      services.not_copied
    (if left ≠ 0 then -EFAULT else 0, st)

def ReaderState.ioctl_fd_recv_msgs_seen (st : ReaderState) (seen : Device) (services : Services)
    (env : ReadEnv) (arg : ℕ) : Int × ReaderState :=
  let err := wait_for_msgs services.wait seen
  if err ≠ 0 then (err, st)
  else if services.get_user_fault then (-EFAULT, st.get_count services arg)
  else if st.asked arg = 0 then (-EINVAL, st.get_count services arg)
  else (st.get_count services arg).recv_msgs_copied services env arg (st.asked arg)

def ReaderState.ioctl_fd_recv_msgs (st : ReaderState) (services : Services) (env : ReadEnv)
    (arg : ℕ) : Int × ReaderState :=
  st.ioctl_fd_recv_msgs_seen st.d services env arg

def PAGE_SIZE : ℕ := 4096

/-- The page of a user address. -/
def page_start (addr : ℕ) : ℕ := addr / PAGE_SIZE * PAGE_SIZE

/-- With `map_umem` on. -/
def ReaderState.unmap_user_readbuf_if_needed (st : ReaderState) : ReaderState :=
  { st with rd_mapped_addr := none, rd_user_buf := 0 }

/-- With `map_umem` on: nothing is done for the address of the last mapping. -/
def ReaderState.map_user_readbuf (st : ReaderState) (services : Services) (buf : ℕ) :
    Int × ReaderState :=
  if buf = st.rd_user_buf then (0, st)
  else if ¬ services.access_ok then (-EINVAL, st)
  else
    let st := st.unmap_user_readbuf_if_needed
    if services.pin_err < 0 then (services.pin_err, st)
    -- `kmap` shows the page from its start
    else (0, { st with rd_mapped_addr := some (page_start buf), rd_user_buf := buf })

/-- The user's memory behind stores into one of its pages. -/
def user_page_written (user : Bytes) (page : ℕ) (bytes : Bytes) : Bytes :=
  fun a => if page ≤ a ∧ a < page + PAGE_SIZE then bytes (a - page) else user a

/-- The locked section with `map_umem` on: the text goes to the mapped page. With no page
mapped the kernel faults, and the call does not return. -/
def ReaderState.read_mapped (st : ReaderState) (env : ReadEnv) (count : ℕ) :
    Option (Int × ReaderState) :=
  match st.rd_mapped_addr, (pcan_chardev_read_section count st.dev).1 with
  | none, .ok _ => none
  | none, .error err => some (err, st)
  | some page, _ =>
    let (err, o, dev) := pcan_chardev_read_text env count st.dev fun i => st.user (page + i)
    some (err, { st.set_dev dev with user := user_page_written st.user page o.bytes })

/-- The locked section and the copy with `map_umem` off. -/
def ReaderState.read_copied (st : ReaderState) (services : Services) (env : ReadEnv)
    (buf count : ℕ) : Int × ReaderState :=
  let (err, o, dev) := pcan_chardev_read_text env count st.dev st.rd_kernel_buf
  let st := { st.set_dev dev with rd_kernel_buf := o.bytes }
  if err > 0 then
    let (left, st) := st.copy_to_user buf (shown err.toNat st.rd_kernel_buf) services.not_copied
    (err - left, st)
  else (err, st)

def ReaderState.pcan_chardev_read_seen (st : ReaderState) (seen : Device) (map_umem : Bool)
    (services : Services) (env : ReadEnv) (buf count : ℕ) : Option (Int × ReaderState) :=
  if ¬ (count : Int) > PCAN_CHRDEV_MAX_BYTES_PER_READ then some (-EINVAL, st)
  else if seen.stage < PCAN_USB_STAGE_ONE_STARTED then some (-ENODEV, st)
  else
    let err := wait_for_msgs services.wait seen
    if err ≠ 0 then some (err, st)
    else if map_umem then
      let (err, st) := st.map_user_readbuf services buf
      if err < 0 then some (err, st) else st.read_mapped env count
    else some (st.read_copied services env buf count)

def ReaderState.pcan_chardev_read (st : ReaderState) (map_umem : Bool) (services : Services)
    (env : ReadEnv) (buf count : ℕ) : Option (Int × ReaderState) :=
  st.pcan_chardev_read_seen st.d map_umem services env buf count

/-! ## What a call leaves alone -/

@[simp] theorem ReaderState.set_dev_dev (st : ReaderState) (dev : Chardev) :
    (st.set_dev dev).dev = dev := rfl

@[simp] theorem ReaderState.set_dev_user (st : ReaderState) (dev : Chardev) :
    (st.set_dev dev).user = st.user := rfl

@[simp] theorem ReaderState.copy_to_user_dev (st : ReaderState) (to_ : ℕ) (bs : List u8)
    (not_copied : ℕ) : (st.copy_to_user to_ bs not_copied).2.dev = st.dev := rfl

/-- Mapping the user's page leaves the ring alone. -/
@[simp] theorem ReaderState.map_user_readbuf_dev (st : ReaderState) (services : Services)
    (buf : ℕ) : (st.map_user_readbuf services buf).2.dev = st.dev := by
  unfold ReaderState.map_user_readbuf
  split
  · rfl
  split
  · rfl
  dsimp only
  split <;> rfl

/-- A wait that succeeds has seen a message. -/
theorem unread_of_wait {wait : Wait} {d : Device} (h : wait_for_msgs wait d = 0) :
    0 < d.char_dev.rx_unread_cnt := by
  have hagain : (-EAGAIN : Int) ≠ 0 := by decide
  have hnodev : (-ENODEV : Int) ≠ 0 := by decide
  have hrestart : (-ERESTARTSYS : Int) ≠ 0 := by decide
  by_contra hempty
  have hempty : d.rx.fwd.char_dev.rx_unread_cnt ≤ 0 := not_lt.mp hempty
  cases wait with
  | nonblock =>
    rw [wait_for_msgs, if_pos hempty] at h
    exact hagain h
  | block err signal_pending =>
    rw [wait_for_msgs] at h
    by_cases herr : err ≠ 0
    · rw [if_pos herr] at h
      exact herr h
    by_cases hstage : d.stage < PCAN_USB_STAGE_ONE_STARTED
    · rw [if_neg herr, if_pos hstage] at h
      exact hnodev h
    rw [if_neg herr, if_neg hstage, if_pos hempty] at h
    split at h
    · exact hrestart h
    · exact hagain h

/-- A read that is let in goes on to its buffer. -/
theorem ReaderState.read_seen_of_wait (st : ReaderState) {seen : Device} (map_umem : Bool)
    {services : Services} (env : ReadEnv) (buf : ℕ) {count : ℕ}
    (hcount : PCAN_CHRDEV_MAX_BYTES_PER_READ < count)
    (hstage : PCAN_USB_STAGE_ONE_STARTED ≤ seen.stage)
    (hwait : wait_for_msgs services.wait seen = 0) :
    st.pcan_chardev_read_seen seen map_umem services env buf count
      = if map_umem then
          if (st.map_user_readbuf services buf).1 < 0 then some (st.map_user_readbuf services buf)
          else (st.map_user_readbuf services buf).2.read_mapped env count
        else some (st.read_copied services env buf count) := by
  unfold ReaderState.pcan_chardev_read_seen
  rw [if_neg (not_not.mpr hcount), if_neg (not_lt.mpr hstage), hwait]
  rfl

/-- One that is not has done nothing, in either mode. -/
theorem ReaderState.read_seen_turned_away (st : ReaderState) {seen : Device} (services : Services)
    (env : ReadEnv) (buf : ℕ) {count : ℕ}
    (h : ¬ (PCAN_CHRDEV_MAX_BYTES_PER_READ < count ∧ PCAN_USB_STAGE_ONE_STARTED ≤ seen.stage
      ∧ wait_for_msgs services.wait seen = 0)) :
    ∃ err, ∀ map_umem,
      st.pcan_chardev_read_seen seen map_umem services env buf count = some (err, st) := by
  unfold ReaderState.pcan_chardev_read_seen
  by_cases hcount : (count : Int) > PCAN_CHRDEV_MAX_BYTES_PER_READ
  swap
  · exact ⟨-EINVAL, fun _ => if_pos hcount⟩
  by_cases hstage : seen.stage < PCAN_USB_STAGE_ONE_STARTED
  · exact ⟨-ENODEV, fun _ => (if_neg (not_not.mpr hcount)).trans (if_pos hstage)⟩
  · have hwait : wait_for_msgs services.wait seen ≠ 0 := fun hwait =>
      h ⟨hcount, not_lt.mp hstage, hwait⟩
    exact ⟨_, fun _ => (if_neg (not_not.mpr hcount)).trans
      ((if_neg hstage).trans (if_pos hwait))⟩

/-- A read behind its checks and its wait, in either mode. -/
theorem ReaderState.read_of_wait (st : ReaderState) (map_umem : Bool) {services : Services}
    (env : ReadEnv) (buf : ℕ) {count : ℕ} (hcount : PCAN_CHRDEV_MAX_BYTES_PER_READ < count)
    (hstage : PCAN_USB_STAGE_ONE_STARTED ≤ st.d.stage)
    (hwait : wait_for_msgs services.wait st.d = 0) :
    st.pcan_chardev_read map_umem services env buf count
      = if map_umem then
          if (st.map_user_readbuf services buf).1 < 0 then some (st.map_user_readbuf services buf)
          else (st.map_user_readbuf services buf).2.read_mapped env count
        else some (st.read_copied services env buf count) :=
  st.read_seen_of_wait map_umem env buf hcount hstage hwait

/-- A read that does not come so far returns the same in either mode. -/
theorem ReaderState.read_turned_away (st : ReaderState) (services : Services) (env : ReadEnv)
    (buf : ℕ) {count : ℕ}
    (h : ¬ (PCAN_CHRDEV_MAX_BYTES_PER_READ < count ∧ PCAN_USB_STAGE_ONE_STARTED ≤ st.d.stage
      ∧ wait_for_msgs services.wait st.d = 0)) :
    ∃ err, ∀ map_umem, st.pcan_chardev_read map_umem services env buf count = some (err, st) :=
  st.read_seen_turned_away services env buf h

/-- A section that wants something, of a ring that has something, takes it. -/
theorem read_section_takes {want : Int} (hwant : 0 < want) {dev : Chardev}
    (hsome : 0 < dev.rx_unread_cnt) :
    ∃ msgs, read_section want dev = (.ok msgs, (read_section want dev).2) ∧ msgs ≠ []
      ∧ (read_section want dev).2.rx_unread_cnt < dev.rx_unread_cnt := by
  obtain ⟨msgs, hmsgs, hne⟩ := read_section_ok hwant hsome
  refine ⟨msgs, Prod.ext hmsgs rfl, hne, ?_⟩
  unfold read_section
  dsimp only
  rw [if_neg (by omega)]
  dsimp only
  split <;> omega

/-- A section takes the front of the unread messages. -/
theorem read_section_front {want : Int} (hwant : 0 < want) {dev : Chardev}
    (hcount : 0 ≤ dev.rx_unread_cnt ∧ dev.rx_unread_cnt ≤ 8)
    (hidx : 0 ≤ dev.rx_write_idx ∧ dev.rx_write_idx < 8) (hsome : 0 < dev.rx_unread_cnt) :
    read_section want dev
      = (.ok (dev.unread_msgs.take want.toNat), (read_section want dev).2) := by
  obtain ⟨msgs, hsection, -, -⟩ := read_section_takes hwant hsome
  have hfront := (read_section_takesFront hwant.le hcount hidx).unread_eq
  have hlen := (read_section_length (congrArg Prod.fst hsection)).2
  have hall : dev.unread_msgs.length = dev.rx_unread_cnt.toNat := by
    rw [length_unread_msgs]
  rw [hsection] at hfront
  dsimp only at hfront
  have htake : dev.unread_msgs.take want.toNat = msgs := by
    rcases le_or_gt want dev.rx_unread_cnt with hle | hgt
    · rw [if_neg (not_lt.mpr hle)] at hlen
      rw [hfront, ← hlen, List.take_left]
    · -- more is wanted than there is
      rw [if_pos hgt] at hlen
      have hrest : (read_section want dev).2.unread_msgs = [] := by
        have hsum := congrArg List.length hfront
        rw [List.length_append, hall] at hsum
        exact List.eq_nil_of_length_eq_zero (by omega)
      rw [hrest, List.append_nil] at hfront
      rw [List.take_of_length_le (by rw [hall]; omega), hfront]
  rw [htake]
  exact hsection

/-- The bytes of a copy that leaves nothing out. -/
theorem copy_to_user_all (st : ReaderState) (to_ : ℕ) (bs : List u8) :
    st.copy_to_user to_ bs 0 = (0, { st with user := (Store.mk to_ bs).apply st.user }) := by
  simp [ReaderState.copy_to_user]

/-- What stood in the structures does not matter for what is stored. -/
theorem receive_rd_msg_stores (rx_msg : ChardevMsg) (msg : PcanRdMsg) :
    (msg.receive rx_msg).stores = rd_msg_stores rx_msg := by
  have hdata : ∀ msg' : PcanRdMsg, (List.range rx_msg.frame.can_dlc.toNat).map
      (msg'.receive rx_msg).data
        = (List.range rx_msg.frame.can_dlc.toNat).map
            fun i => rx_msg.frame.data.toList.getD i 0 := by
    intro msg'
    refine List.map_congr_left fun i hi => ?_
    exact if_pos (List.mem_range.mp hi)
  change [_, _, _, Store.mk 6 ((List.range rx_msg.frame.can_dlc.toNat).map _), _, _]
    = [_, _, _, Store.mk 6 ((List.range rx_msg.frame.can_dlc.toNat).map _), _, _]
  rw [hdata, hdata]
  rfl

/-- What stood in an entry does not matter for what is stored there. -/
theorem receive_fd_msg_stores (base : TimeBase) (rx_msg : ChardevMsg) (m : PcanfdMsg) :
    (m.receive base rx_msg).stores = fd_msg_stores base rx_msg := by
  have hlen : ∀ m' : PcanfdMsg, (m'.receive base rx_msg).data_len.toNat
      = rx_msg.frame.can_dlc.toNat := fun m' => BitVec.toNat_setWidth_of_le (by decide)
  have hdata : ∀ m' : PcanfdMsg, (List.range (m'.receive base rx_msg).data_len.toNat).map
      (m'.receive base rx_msg).data
        = (List.range rx_msg.frame.can_dlc.toNat).map
            fun i => rx_msg.frame.data.toList.getD i 0 := by
    intro m'
    rw [hlen]
    refine List.map_congr_left fun i hi => ?_
    exact if_pos (List.mem_range.mp hi)
  unfold fd_msg_stores PcanfdMsg.stores
  rw [hdata, hdata]
  rfl

/-! ## A device to try readers on -/

/-- A started device with `n` messages unread, and a user who asks for one. -/
def reader_of (n : ℕ) : ReaderState where
  d := (Device.plugged 8).set_fwd { (Device.plugged 8).rx.fwd with
    char_dev := ring_of n, stage := PCAN_USB_STAGE_ONE_STARTED }
  ioctl_rxmsgs := fun _ => 0
  rd_kernel_buf := fun _ => 0
  rd_user_buf := 0
  rd_mapped_addr := none
  user := fun a => if a = 65536 then 1 else 0

/-- Nothing fails but the copy, of which `not_copied` bytes are left out. -/
def Services.leaving (not_copied : ℕ) : Services := ⟨.nonblock, false, true, 1, not_copied⟩

end DualPcanUsb
