/-
The read buffer when `map_umem` is switched at run time.

`rd_mapped_addr` and `rd_kernel_buf` share one union, and nothing in the device says which
of them was stored last: every function that uses the union asks `map_umem`, a module
parameter that root may write at any time. The calls are cut into steps here at each test
of the parameter, so that it can change between any two. In a run, the union is used as
what it was stored as exactly if the parameter says so whenever a step acts on it.
-/
import DualPcanUsb.MappedRead
import DualPcanUsb.Lib.TaggedCell
import DualPcanUsb.Lib.Runs

set_option autoImplicit false

namespace DualPcanUsb

open TaggedCell

/-- The members of the union: `kmap` stores the one, `kmalloc` the other. -/
inductive RdMember
  | rd_mapped_addr
  | rd_kernel_buf
deriving DecidableEq

/-- Where the calls stand. A read has been let in with a new address, is in front of its
locked section, or behind it; `pcan_chardev_finalize` is between its two tests. -/
inductive RdPhase
  | absent
  | idle
  | mapping (buf : ℕ)
  | locked
  | copying (err : Int)
  | finalizing
deriving DecidableEq

/-- What `pcan_chardev_t` keeps of its read buffer, and the parameter. -/
structure ReadBuffer where
  map_umem : Bool
  phase : RdPhase
  rd_user_buf : ℕ
  cell : Cell RdMember

namespace ReadBuffer

/-- Nothing was ever made. -/
def fresh (map_umem : Bool) : ReadBuffer := ⟨map_umem, .absent, 0, .fresh⟩

/-- The member the parameter stands for. -/
def member (b : ReadBuffer) : RdMember := if b.map_umem then .rd_mapped_addr else .rd_kernel_buf

/-- `kmap_to_page` looks at the address, `kunmap` and `put_page` undo the mapping. -/
def unmap_user_readbuf_if_needed (b : ReadBuffer) : ReadBuffer :=
  { b with
    rd_user_buf := 0
    cell := if b.map_umem ∧ b.cell.held ≠ none
      then (b.cell.use .rd_mapped_addr).undo .rd_mapped_addr else b.cell }

/-- A failed item leaves everything as it was, a failed `kmalloc` takes the item back. -/
def pcan_chardev_initialize (b : ReadBuffer) (make_ok kmalloc_ok : Bool) : ReadBuffer :=
  if ¬ make_ok then b
  else if b.map_umem then { b with phase := .idle, rd_user_buf := 0, cell := b.cell.clear }
  else if kmalloc_ok then
    { b with phase := .idle, rd_user_buf := 0, cell := b.cell.store .rd_kernel_buf }
  else { b with rd_user_buf := 0, cell := b.cell.clear }

/-- `pcan_chardev_read` up to its first test; `err` is what its checks and its wait give. -/
def read_enter (b : ReadBuffer) (err : Int) (buf : ℕ) (access_ok : Bool) : ReadBuffer :=
  if err ≠ 0 then b
  else if b.map_umem ∧ buf ≠ b.rd_user_buf then
    if access_ok then { b with phase := .mapping buf } else b
  else { b with phase := .locked }

/-- The new mapping. -/
def read_map (b : ReadBuffer) (buf : ℕ) (pin_err : Int) : ReadBuffer :=
  let b := b.unmap_user_readbuf_if_needed
  if pin_err < 0 then { b with phase := .idle }
  else { b with phase := .locked, rd_user_buf := buf, cell := b.cell.store .rd_mapped_addr }

/-- The locked section; `text` is the length of what it writes, if anything is unread. -/
def read_section (b : ReadBuffer) : Option ℕ → ReadBuffer
  | none => { b with phase := .copying (-EAGAIN) }
  | some text => { b with phase := .copying text, cell := b.cell.use b.member }

/-- The copy to user space. -/
def read_copy (b : ReadBuffer) (err : Int) : ReadBuffer :=
  { b with
    phase := .idle
    cell := if ¬ b.map_umem ∧ err > 0 then b.cell.use .rd_kernel_buf else b.cell }

@[simp] theorem read_section_map_umem (b : ReadBuffer) (text : Option ℕ) :
    (b.read_section text).map_umem = b.map_umem := by
  cases text <;> rfl

@[simp] theorem read_section_rd_user_buf (b : ReadBuffer) (text : Option ℕ) :
    (b.read_section text).rd_user_buf = b.rd_user_buf := by
  cases text <;> rfl

/-- Neither the section nor the copy changes what the union holds. -/
@[simp] theorem read_section_held (b : ReadBuffer) (text : Option ℕ) :
    (b.read_section text).cell.held = b.cell.held := by
  cases text <;> rfl

/-- Copying out does not change what the union holds. -/
@[simp] theorem read_copy_held (b : ReadBuffer) (err : Int) :
    (b.read_copy err).cell.held = b.cell.held := by
  unfold read_copy
  dsimp only
  split <;> rfl

/-- `pcan_chardev_finalize` behind the unmapping. -/
def finalize_free (b : ReadBuffer) : ReadBuffer :=
  { b with
    phase := .absent
    cell := if ¬ b.map_umem ∧ b.cell.held ≠ none then b.cell.undo .rd_kernel_buf else b.cell }

end ReadBuffer

/-- The steps of the calls, and the switch. -/
inductive RdAction
  | set_map_umem (on : Bool)
  | init (make_ok kmalloc_ok : Bool)
  | read (err : Int) (buf : ℕ) (access_ok : Bool)
  | read_map (pin_err : Int)
  | read_section (text : Option ℕ)
  | read_copy
  | release
  | finalize
  | finalize_free
deriving DecidableEq

namespace ReadBuffer

/-- One call at a time; the parameter may be switched in front of each of its steps. -/
def step (b : ReadBuffer) : RdAction → Option ReadBuffer
  | .set_map_umem on => some { b with map_umem := on }
  | .init make_ok kmalloc_ok =>
    if b.phase = .absent then some (b.pcan_chardev_initialize make_ok kmalloc_ok) else none
  | .read err buf access_ok =>
    if b.phase = .idle then some (b.read_enter err buf access_ok) else none
  | .read_map pin_err =>
    match b.phase with
    | .mapping buf => some (b.read_map buf pin_err)
    | _ => none
  | .read_section text => if b.phase = .locked then some (b.read_section text) else none
  | .read_copy =>
    match b.phase with
    | .copying err => some (b.read_copy err)
    | _ => none
  | .release => if b.phase = .idle then some b.unmap_user_readbuf_if_needed else none
  | .finalize =>
    if b.phase = .idle then
      some { b.unmap_user_readbuf_if_needed with phase := .finalizing }
    else none
  | .finalize_free => if b.phase = .finalizing then some b.finalize_free else none

/-- The union is used as what it was stored as, for a text as for the mapping itself, every
mapping and every buffer is undone exactly once, and none is left when the device is gone. -/
structure UsedAsStored (b : ReadBuffer) : Prop where
  faithful : b.cell.Faithful
  nothing_left : b.phase = .absent → b.cell.held = none

/-- What the parameter says agrees with what the union holds, where the step acts on it. -/
def Suits (b : ReadBuffer) : RdAction → Prop
  | .read_map pin_err =>
    if b.map_umem then ¬ b.cell.Holds .rd_kernel_buf else b.cell.held = none ∨ pin_err < 0
  | .read_section (some _) => b.cell.Holds b.member
  | .read_copy =>
    match b.phase with
    | .copying err => b.map_umem ∨ err ≤ 0 ∨ b.cell.Holds .rd_kernel_buf
    | _ => True
  | .release => b.map_umem → ¬ b.cell.Holds .rd_kernel_buf
  | .finalize => b.map_umem → ¬ b.cell.Holds .rd_kernel_buf
  | .finalize_free =>
    if b.map_umem then b.cell.held = none else ¬ b.cell.Holds .rd_mapped_addr
  | _ => True

/-- The mapping step is taken in its phase only. -/
theorem step_read_map {b b' : ReadBuffer} {pin_err : Int}
    (hstep : b.step (.read_map pin_err) = some b') :
    ∃ buf, b.phase = .mapping buf ∧ b.read_map buf pin_err = b' := by
  rw [step] at hstep
  split at hstep
  · rename_i buf hphase
    exact ⟨buf, hphase, Option.some.inj hstep⟩
  · cases hstep

/-- The copying step is taken in its phase only. -/
theorem step_read_copy {b b' : ReadBuffer} (hstep : b.step .read_copy = some b') :
    ∃ err, b.phase = .copying err ∧ b.read_copy err = b' := by
  rw [step] at hstep
  split at hstep
  · rename_i err hphase
    exact ⟨err, hphase, Option.some.inj hstep⟩
  · cases hstep

/-! ## What a step does to it -/

theorem usedAsStored_fresh (map_umem : Bool) : (fresh map_umem).UsedAsStored :=
  ⟨Cell.faithful_fresh, fun _ => rfl⟩

theorem usedAsStored_absent_iff {b : ReadBuffer} (h : b.phase = .absent) :
    b.UsedAsStored ↔ b.cell.Faithful ∧ b.cell.held = none :=
  ⟨fun hb => ⟨hb.faithful, hb.nothing_left h⟩, fun hb => ⟨hb.1, fun _ => hb.2⟩⟩

theorem usedAsStored_live_iff {b : ReadBuffer} (h : b.phase ≠ .absent) :
    b.UsedAsStored ↔ b.cell.Faithful :=
  ⟨fun hb => hb.faithful, fun hb => ⟨hb, fun habsent => absurd habsent h⟩⟩

/-- What is held is stored as one member, or as the other. -/
theorem holds_iff {c : Cell RdMember} (h : c.held ≠ none) :
    c.Holds .rd_mapped_addr ↔ ¬ c.Holds .rd_kernel_buf := by
  obtain ⟨⟨kind, name⟩, hheld⟩ := Option.ne_none_iff_exists'.mp h
  cases kind <;> simp [Cell.Holds, hheld]

/-- Unmapping goes wrong exactly if it takes the kernel buffer for a mapped page. -/
theorem unmap_faithful_iff (b : ReadBuffer) :
    b.unmap_user_readbuf_if_needed.cell.Faithful
      ↔ b.cell.Faithful ∧ (b.map_umem → ¬ b.cell.Holds .rd_kernel_buf) := by
  unfold unmap_user_readbuf_if_needed
  dsimp only
  split
  · rename_i h
    rw [Cell.faithful_undo_iff, Cell.faithful_use_iff, Cell.holds_use_iff, and_assoc, and_self,
      holds_iff h.2]
    simp [h.1]
  · rename_i h
    refine (and_iff_left fun hon => Cell.not_holds_of_empty ?_ _).symm
    by_contra hheld
    exact h ⟨hon, hheld⟩

/-- With the parameter on, nothing is mapped afterwards. -/
theorem unmap_held (b : ReadBuffer) :
    b.unmap_user_readbuf_if_needed.cell.held = if b.map_umem then none else b.cell.held := by
  unfold unmap_user_readbuf_if_needed
  cases b.map_umem <;> by_cases h : b.cell.held = none <;> simp [h]

/-- Setting up stores the member it will use, whichever it is. -/
theorem initialize_step_iff {b : ReadBuffer} (h : b.phase = .absent) (make_ok kmalloc_ok : Bool) :
    (b.pcan_chardev_initialize make_ok kmalloc_ok).UsedAsStored ↔ b.UsedAsStored := by
  rw [usedAsStored_absent_iff h]
  unfold pcan_chardev_initialize
  split
  · exact usedAsStored_absent_iff h
  split
  · exact (usedAsStored_live_iff (by simp)).trans (Cell.faithful_clear_iff _)
  split
  · exact (usedAsStored_live_iff (by simp)).trans (Cell.faithful_store_iff _ _)
  · refine Iff.trans (usedAsStored_absent_iff (by exact h)) ?_
    rw [Cell.faithful_clear_iff, Cell.clear_held, eq_self, and_true]

/-- A read that enters does not use the union yet. -/
theorem read_enter_step_iff {b : ReadBuffer} (h : b.phase = .idle) (err : Int) (buf : ℕ)
    (access_ok : Bool) : (b.read_enter err buf access_ok).UsedAsStored ↔ b.UsedAsStored := by
  have hlive : b.phase ≠ .absent := by simp [h]
  rw [usedAsStored_live_iff hlive]
  unfold read_enter
  split
  · exact usedAsStored_live_iff hlive
  split
  · split
    · exact usedAsStored_live_iff (by simp)
    · exact usedAsStored_live_iff hlive
  · exact usedAsStored_live_iff (by simp)

/-- Mapping is right exactly if it suits what the union holds. -/
theorem read_map_step_iff {b : ReadBuffer} {buf : ℕ} (h : b.phase = .mapping buf)
    (pin_err : Int) :
    (b.read_map buf pin_err).UsedAsStored ↔ b.UsedAsStored ∧ b.Suits (.read_map pin_err) := by
  have hlive : b.phase ≠ .absent := by simp [h]
  rw [usedAsStored_live_iff hlive]
  unfold read_map
  dsimp only
  split
  · rename_i hpin
    refine (usedAsStored_live_iff (by simp)).trans ?_
    refine (unmap_faithful_iff b).trans ?_
    cases hon : b.map_umem <;> simp [Suits, hpin, hon]
  · rename_i hpin
    refine (usedAsStored_live_iff (by simp)).trans ?_
    rw [Cell.faithful_store_iff, unmap_faithful_iff, unmap_held]
    cases hon : b.map_umem <;> simp [Suits, hpin, hon]

/-- The text goes to the member stored exactly if the parameter still says which. -/
theorem read_section_step_iff {b : ReadBuffer} (h : b.phase = .locked) (text : Option ℕ) :
    (b.read_section text).UsedAsStored ↔ b.UsedAsStored ∧ b.Suits (.read_section text) := by
  have hlive : b.phase ≠ .absent := by simp [h]
  rw [usedAsStored_live_iff hlive]
  cases text with
  | none => exact (usedAsStored_live_iff (by simp [read_section])).trans (and_iff_left trivial).symm
  | some n =>
    exact (usedAsStored_live_iff (by simp [read_section])).trans (Cell.faithful_use_iff _ _)

/-- The copy is from the kernel buffer exactly if that is what the union holds. -/
theorem read_copy_step_iff {b : ReadBuffer} {err : Int} (h : b.phase = .copying err) :
    (b.read_copy err).UsedAsStored ↔ b.UsedAsStored ∧ b.Suits .read_copy := by
  have hlive : b.phase ≠ .absent := by simp [h]
  rw [usedAsStored_live_iff hlive]
  refine (usedAsStored_live_iff (by simp [read_copy])).trans ?_
  unfold read_copy
  dsimp only
  split
  · rename_i hcopy
    rw [Cell.faithful_use_iff]
    simp [Suits, h, hcopy.1, not_le.mpr hcopy.2]
  · rename_i hcopy
    have hsuits : b.map_umem ∨ err ≤ 0 := by
      by_contra hneither
      exact hcopy ⟨fun hon => hneither (.inl hon), not_le.mp fun herr => hneither (.inr herr)⟩
    refine (and_iff_left ?_).symm
    rw [Suits, h]
    exact hsuits.elim .inl fun herr => .inr (.inl herr)

/-- The free at the end is right exactly if the union holds what the parameter says. -/
theorem finalize_free_step_iff {b : ReadBuffer} (h : b.phase = .finalizing) :
    b.finalize_free.UsedAsStored ↔ b.UsedAsStored ∧ b.Suits .finalize_free := by
  have hlive : b.phase ≠ .absent := by simp [h]
  rw [usedAsStored_live_iff hlive]
  refine (usedAsStored_absent_iff rfl).trans ?_
  unfold finalize_free
  dsimp only
  split
  · rename_i hfree
    rw [Cell.faithful_undo_iff, Cell.undo_held, eq_self, and_true, Suits, if_neg hfree.1,
      holds_iff hfree.2, not_not]
  · rename_i hkept
    rw [Suits]
    split
    · rfl
    · rename_i hoff
      have hempty : b.cell.held = none := by
        by_contra hheld
        exact hkept ⟨hoff, hheld⟩
      simp [hempty, Cell.not_holds_of_empty]

/-- A step keeps the use faithful exactly if it suits. -/
theorem good_step_iff {b b' : ReadBuffer} {action : RdAction} (hstep : b.step action = some b') :
    b'.UsedAsStored ↔ b.UsedAsStored ∧ b.Suits action := by
  cases action with
  | set_map_umem on =>
    obtain rfl := Option.some.inj hstep
    exact ⟨fun h => ⟨⟨h.1, h.2⟩, trivial⟩, fun h => ⟨h.1.1, h.1.2⟩⟩
  | init make_ok kmalloc_ok =>
    obtain ⟨hphase, ⟨⟩⟩ := Option.ite_none_right_eq_some.mp hstep
    exact (initialize_step_iff hphase make_ok kmalloc_ok).trans (and_iff_left trivial).symm
  | read err buf access_ok =>
    obtain ⟨hphase, ⟨⟩⟩ := Option.ite_none_right_eq_some.mp hstep
    exact (read_enter_step_iff hphase err buf access_ok).trans (and_iff_left trivial).symm
  | read_map pin_err =>
    obtain ⟨buf, hphase, rfl⟩ := step_read_map hstep
    exact read_map_step_iff hphase pin_err
  | read_section text =>
    obtain ⟨hphase, ⟨⟩⟩ := Option.ite_none_right_eq_some.mp hstep
    exact read_section_step_iff hphase text
  | read_copy =>
    obtain ⟨err, hphase, rfl⟩ := step_read_copy hstep
    exact read_copy_step_iff hphase
  | release =>
    obtain ⟨hphase, ⟨⟩⟩ := Option.ite_none_right_eq_some.mp hstep
    have hlive : b.phase ≠ .absent := by simp [hphase]
    have hlive' : b.unmap_user_readbuf_if_needed.phase ≠ .absent := hlive
    rw [usedAsStored_live_iff hlive, usedAsStored_live_iff hlive']
    exact unmap_faithful_iff b
  | finalize =>
    obtain ⟨hphase, ⟨⟩⟩ := Option.ite_none_right_eq_some.mp hstep
    have hlive : b.phase ≠ .absent := by simp [hphase]
    rw [usedAsStored_live_iff hlive]
    exact (usedAsStored_live_iff (by simp)).trans (unmap_faithful_iff b)
  | finalize_free =>
    obtain ⟨hphase, ⟨⟩⟩ := Option.ite_none_right_eq_some.mp hstep
    exact finalize_free_step_iff hphase

end ReadBuffer

/-- In every run of the calls, with the parameter switched at any point, the union is used
as what it was stored as exactly if every step suits. -/
theorem union_used_as_stored_iff {map_umem : Bool} {actions : List RdAction} {b : ReadBuffer}
    (hrun : Runs.run ReadBuffer.step (.fresh map_umem) actions = some b) :
    b.UsedAsStored ↔ Runs.Along ReadBuffer.step ReadBuffer.Suits (.fresh map_umem) actions := by
  have hgood : ∀ (b : ReadBuffer) action b', True → b.step action = some b' →
      (b'.UsedAsStored ↔ b.UsedAsStored ∧ b.Suits action) :=
    fun _ _ _ _ hstep => ReadBuffer.good_step_iff hstep
  rw [Runs.run_good_iff ReadBuffer.step (fun _ _ _ _ _ => trivial) hgood trivial hrun]
  exact and_iff_right (ReadBuffer.usedAsStored_fresh map_umem)

/-- A mapped read, and one more to the same address; the device is pulled. -/
def mapped_twice : List RdAction :=
  [.init true true, .read 0 8192 true, .read_map 1, .read_section (some 80), .read_copy,
    .read 0 8192 true, .read_section (some 56), .read_copy, .release, .finalize, .finalize_free]

theorem union_used_as_stored_iff_mapped_twice :
    ∃ b, Runs.run ReadBuffer.step (.fresh true) mapped_twice = some b
      ∧ (b.UsedAsStored
        ↔ Runs.Along ReadBuffer.step ReadBuffer.Suits (.fresh true) mapped_twice) := by
  have hsome : (Runs.run ReadBuffer.step (.fresh true) mapped_twice).isSome = true := by decide
  obtain ⟨b, hrun⟩ := Option.isSome_iff_exists.mp hsome
  exact ⟨b, hrun, union_used_as_stored_iff hrun⟩

/-- The parameter is switched on while the file is open. -/
def switched_on_before_close : List RdAction :=
  [.init true true, .read 0 8192 true, .read_section (some 80), .read_copy,
    .set_map_umem true, .release]

/-- It is switched off while the file is open, and the device is pulled. -/
def switched_off_before_unplug : List RdAction :=
  [.init true true, .read 0 8192 true, .read_map 1, .read_section (some 80), .read_copy,
    .set_map_umem false, .release, .finalize, .finalize_free]

/-- The allocated buffer is unmapped in the one run, the mapping freed in the other. -/
theorem switched_parameter_misuses :
    (∃ b, Runs.run ReadBuffer.step (.fresh false) switched_on_before_close = some b
      ∧ .undone .rd_mapped_addr (some ⟨.rd_kernel_buf, 0⟩) ∈ b.cell.trace ∧ ¬ b.UsedAsStored)
    ∧ ∃ b, Runs.run ReadBuffer.step (.fresh true) switched_off_before_unplug = some b
      ∧ .undone .rd_kernel_buf (some ⟨.rd_mapped_addr, 0⟩) ∈ b.cell.trace
      ∧ ¬ b.UsedAsStored := by
  constructor
  · obtain ⟨b, hrun, hmem⟩ :
        ∃ b, Runs.run ReadBuffer.step (.fresh false) switched_on_before_close = some b
          ∧ .undone .rd_mapped_addr (some ⟨.rd_kernel_buf, 0⟩) ∈ b.cell.trace :=
      Runs.exists_run_of_any ReadBuffer.step (by decide)
    refine ⟨b, hrun, hmem, fun h => ?_⟩
    cases h.faithful.right _ hmem
  · obtain ⟨b, hrun, hmem⟩ :
        ∃ b, Runs.run ReadBuffer.step (.fresh true) switched_off_before_unplug = some b
          ∧ .undone .rd_kernel_buf (some ⟨.rd_mapped_addr, 0⟩) ∈ b.cell.trace :=
      Runs.exists_run_of_any ReadBuffer.step (by decide)
    refine ⟨b, hrun, hmem, fun h => ?_⟩
    cases h.faithful.right _ hmem

/-! ## A parameter that is left alone -/

namespace ReadBuffer

/-- The parameter is switched only while no device is there, and no read goes to NULL. -/
def LeftAlone (b : ReadBuffer) : RdAction → Prop
  | .set_map_umem on => on = b.map_umem ∨ b.phase = .absent
  | .read _ buf _ => buf ≠ 0
  | _ => True

/-- With `map_umem` on: a mapping, or no address that would be taken for a mapped one. -/
def Cached (b : ReadBuffer) : Prop :=
  b.cell.held = none ∧ b.rd_user_buf = 0 ∨ b.cell.Holds .rd_mapped_addr

/-- What the union holds in each phase. -/
def Matched (b : ReadBuffer) : Prop :=
  match b.phase with
  | .absent => b.cell.held = none
  | .idle | .copying _ => if b.map_umem then b.Cached else b.cell.Holds .rd_kernel_buf
  | .mapping _ => b.map_umem ∧ b.Cached
  | .locked => b.cell.Holds b.member
  | .finalizing => if b.map_umem then b.cell.held = none else b.cell.Holds .rd_kernel_buf

/-- A cached page is no kernel buffer. -/
theorem Cached.not_kernel {b : ReadBuffer} (h : b.Cached) : ¬ b.cell.Holds .rd_kernel_buf := by
  intro hkernel
  rcases h with ⟨hnone, -⟩ | hmapped
  · exact hkernel.ne_none hnone
  · cases hkernel.unique hmapped

theorem unmap_cached {b : ReadBuffer} (hon : b.map_umem = true) :
    b.unmap_user_readbuf_if_needed.Cached :=
  .inl ⟨by rw [unmap_held, if_pos hon], rfl⟩

/-- With mapping off, unmapping leaves the kernel buffer where it is. -/
theorem unmap_kernel {b : ReadBuffer} (hoff : ¬ b.map_umem)
    (h : b.cell.Holds .rd_kernel_buf) :
    b.unmap_user_readbuf_if_needed.cell.Holds .rd_kernel_buf := by
  rw [Cell.Holds, unmap_held, if_neg hoff]
  exact h

/-- The unmapping leaves a live buffer as it should be. -/
theorem unmap_matched {b : ReadBuffer}
    (h : if b.map_umem then b.Cached else b.cell.Holds .rd_kernel_buf) :
    if b.map_umem then b.unmap_user_readbuf_if_needed.Cached
    else b.unmap_user_readbuf_if_needed.cell.Holds .rd_kernel_buf := by
  split
  · exact unmap_cached ‹_›
  · rename_i hoff
    rw [if_neg hoff] at h
    exact unmap_kernel hoff h

theorem matched_fresh (map_umem : Bool) : (fresh map_umem).Matched := rfl

/-- Setting up makes union and parameter agree. -/
theorem matched_initialize {b : ReadBuffer} (hphase : b.phase = .absent) (h : b.Matched)
    (make_ok kmalloc_ok : Bool) : (b.pcan_chardev_initialize make_ok kmalloc_ok).Matched := by
  unfold pcan_chardev_initialize
  split
  · exact h
  split
  · rename_i hon
    rw [Matched, if_pos hon]
    exact .inl ⟨rfl, rfl⟩
  · rename_i hoff
    split
    · rw [Matched, if_neg hoff]
      exact Cell.holds_store _ _
    · rw [Matched, hphase]
      rfl

/-- A read that enters changes neither. -/
theorem matched_read_enter {b : ReadBuffer} (hphase : b.phase = .idle) (h : b.Matched)
    (err : Int) {buf : ℕ} (hbuf : buf ≠ 0) (access_ok : Bool) :
    (b.read_enter err buf access_ok).Matched := by
  have hidle : if b.map_umem then b.Cached else b.cell.Holds .rd_kernel_buf := by
    rwa [Matched, hphase] at h
  unfold read_enter
  split
  · exact h
  split
  · rename_i hnew
    split
    · rw [if_pos hnew.1] at hidle
      exact ⟨hnew.1, hidle⟩
    · exact h
  · rename_i hold
    change b.cell.Holds b.member
    unfold member
    split at hidle <;> rename_i hon
    · -- the address of the last mapping, and not NULL
      have hsame : buf = b.rd_user_buf := by
        by_contra hne
        exact hold ⟨hon, hne⟩
      rw [if_pos hon]
      exact hidle.resolve_left fun hnull => hbuf (hsame.trans hnull.2)
    · rwa [if_neg hon]

/-- Mapping happens with the parameter on, and leaves a mapped page. -/
theorem matched_read_map {b : ReadBuffer} {buf : ℕ} (hphase : b.phase = .mapping buf)
    (h : b.Matched) (pin_err : Int) : (b.read_map buf pin_err).Matched := by
  have hon : b.map_umem = true := by
    simp only [Matched, hphase] at h
    exact h.1
  unfold read_map
  dsimp only
  split
  · change if b.map_umem then _ else _
    rw [if_pos hon]
    exact unmap_cached hon
  · change Cell.Holds _ (if b.map_umem then _ else _)
    rw [if_pos hon]
    exact Cell.holds_store _ _

/-- The section formats into what is there. -/
theorem matched_read_section {b : ReadBuffer} (hphase : b.phase = .locked) (h : b.Matched)
    (text : Option ℕ) : (b.read_section text).Matched := by
  simp only [Matched, hphase] at h
  have hafter : if b.map_umem then b.Cached else b.cell.Holds .rd_kernel_buf := by
    unfold member at h
    split <;> rename_i hon
    · rw [if_pos hon] at h
      exact .inr h
    · rwa [if_neg hon] at h
  cases text with
  | none => exact hafter
  | some n => exact hafter

/-- The copy leaves the union alone. -/
theorem matched_read_copy {b : ReadBuffer} {err : Int} (hphase : b.phase = .copying err)
    (h : b.Matched) : (b.read_copy err).Matched := by
  simp only [Matched, hphase] at h
  change if b.map_umem then _ else _
  unfold Cached Cell.Holds at h ⊢
  rw [read_copy_held]
  exact h

/-- Behind the free the union holds nothing. -/
theorem matched_finalize_free {b : ReadBuffer} (hphase : b.phase = .finalizing) (h : b.Matched) :
    b.finalize_free.Matched := by
  simp only [Matched, hphase] at h
  change b.finalize_free.cell.held = none
  unfold finalize_free
  dsimp only
  split
  · rfl
  · rename_i hkept
    split at h <;> rename_i hon
    · exact h
    · exact absurd ⟨hon, h.ne_none⟩ hkept

/-- As long as nobody writes the parameter, it agrees with the union. -/
theorem matched_step {b b' : ReadBuffer} {action : RdAction} (h : b.Matched)
    (halone : b.LeftAlone action) (hstep : b.step action = some b') : b'.Matched := by
  cases action with
  | set_map_umem on =>
    obtain rfl := Option.some.inj hstep
    rcases halone with rfl | hphase
    · exact h
    · rw [Matched, hphase] at h ⊢
      exact h
  | init make_ok kmalloc_ok =>
    obtain ⟨hphase, ⟨⟩⟩ := Option.ite_none_right_eq_some.mp hstep
    exact matched_initialize hphase h make_ok kmalloc_ok
  | read err buf access_ok =>
    obtain ⟨hphase, ⟨⟩⟩ := Option.ite_none_right_eq_some.mp hstep
    exact matched_read_enter hphase h err halone access_ok
  | read_map pin_err =>
    obtain ⟨buf, hphase, rfl⟩ := step_read_map hstep
    exact matched_read_map hphase h pin_err
  | read_section text =>
    obtain ⟨hphase, ⟨⟩⟩ := Option.ite_none_right_eq_some.mp hstep
    exact matched_read_section hphase h text
  | read_copy =>
    obtain ⟨err, hphase, rfl⟩ := step_read_copy hstep
    exact matched_read_copy hphase h
  | release =>
    obtain ⟨hphase, ⟨⟩⟩ := Option.ite_none_right_eq_some.mp hstep
    simp only [Matched, hphase] at h
    have hidle : b.unmap_user_readbuf_if_needed.phase = .idle := hphase
    rw [Matched, hidle]
    exact unmap_matched h
  | finalize =>
    obtain ⟨hphase, ⟨⟩⟩ := Option.ite_none_right_eq_some.mp hstep
    simp only [Matched, hphase] at h
    change if b.map_umem then _ else _
    split at h <;> rename_i hon
    · rw [if_pos hon, unmap_held, if_pos hon]
    · rw [if_neg hon]
      exact unmap_kernel hon h
  | finalize_free =>
    obtain ⟨hphase, ⟨⟩⟩ := Option.ite_none_right_eq_some.mp hstep
    exact matched_finalize_free hphase h

/-- Where union and parameter agree every step suits. -/
theorem matched_suits {b b' : ReadBuffer} {action : RdAction} (h : b.Matched)
    (hstep : b.step action = some b') : b.Suits action := by
  cases action with
  | set_map_umem | init | read => trivial
  | read_map pin_err =>
    obtain ⟨buf, hphase, -⟩ := step_read_map hstep
    simp only [Matched, hphase] at h
    rw [Suits, if_pos h.1]
    exact h.2.not_kernel
  | read_section text =>
    obtain ⟨hphase, -⟩ := Option.ite_none_right_eq_some.mp hstep
    simp only [Matched, hphase] at h
    cases text with
    | none => trivial
    | some n => exact h
  | read_copy =>
    obtain ⟨err, hphase, -⟩ := step_read_copy hstep
    simp only [Matched, hphase] at h
    rw [Suits, hphase]
    split at h <;> rename_i hon
    · exact .inl hon
    · exact .inr (.inr h)
  | release | finalize =>
    obtain ⟨hphase, -⟩ := Option.ite_none_right_eq_some.mp hstep
    simp only [Matched, hphase] at h
    intro hon
    rw [if_pos hon] at h
    exact h.not_kernel
  | finalize_free =>
    obtain ⟨hphase, -⟩ := Option.ite_none_right_eq_some.mp hstep
    simp only [Matched, hphase] at h
    rw [Suits]
    split at h <;> rename_i hon
    · rw [if_pos hon]
      exact h
    · rw [if_neg hon]
      exact fun hmapped => nomatch h.unique hmapped

end ReadBuffer

/-- A parameter left alone while a device is there leaves nothing to confuse. -/
theorem left_alone_used_as_stored {map_umem : Bool} {actions : List RdAction} {b : ReadBuffer}
    (hrun : Runs.run ReadBuffer.step (.fresh map_umem) actions = some b)
    (halone : Runs.Along ReadBuffer.step ReadBuffer.LeftAlone (.fresh map_umem) actions) :
    b.UsedAsStored := by
  have hstep : ∀ (b : ReadBuffer) action b', b.Matched ∧ b.UsedAsStored → b.LeftAlone action →
      b.step action = some b' → b'.Matched ∧ b'.UsedAsStored :=
    fun _ _ _ h halone hstep => ⟨ReadBuffer.matched_step h.1 halone hstep,
      (ReadBuffer.good_step_iff hstep).mpr ⟨h.2, ReadBuffer.matched_suits h.1 hstep⟩⟩
  exact (Runs.run_invariant_along ReadBuffer.step hstep
    ⟨ReadBuffer.matched_fresh map_umem, ReadBuffer.usedAsStored_fresh map_umem⟩ halone hrun).2

/-! ## A read that is not disturbed

The model of one read at a time, with the bytes it moves, is a run here. -/

namespace ReadBuffer

/-- Between two calls, both models have the same mapping or the same buffer. -/
structure Shows (b : ReadBuffer) (st : ReaderState) : Prop where
  idle : b.phase = .idle
  user_buf : b.rd_user_buf = st.rd_user_buf
  mapped : b.map_umem →
    b.cell.held.map Held.kind = st.rd_mapped_addr.map fun _ => RdMember.rd_mapped_addr
  kernel : ¬ b.map_umem → b.cell.Holds .rd_kernel_buf

/-- A run of suiting steps from the one to the other. -/
def Reaches (b b' : ReadBuffer) : Prop :=
  ∃ actions, Runs.run step b actions = some b' ∧ Runs.Along step Suits b actions

theorem Reaches.refl (b : ReadBuffer) : b.Reaches b := ⟨[], rfl, trivial⟩

/-- A suiting step in front of a run of such. -/
theorem Reaches.head {b b₁ b' : ReadBuffer} (action : RdAction) (hstep : b.step action = some b₁)
    (hsuits : b.Suits action) (h : b₁.Reaches b') : b.Reaches b' := by
  obtain ⟨actions, hrun, halong⟩ := h
  exact ⟨action :: actions, (Runs.run_cons_eq_some step).mpr ⟨b₁, hstep, hrun⟩,
    (Runs.along_cons_iff step hstep actions).mpr ⟨hsuits, halong⟩⟩

theorem Reaches.enter {b b₁ b' : ReadBuffer} (hidle : b.phase = .idle) {buf : ℕ} {access_ok : Bool}
    (henter : b.read_enter 0 buf access_ok = b₁) (h : b₁.Reaches b') : b.Reaches b' :=
  .head (.read 0 buf access_ok) (by rw [step, if_pos hidle, henter]) trivial h

/-- From its locked section on, a read keeps what the union holds. -/
theorem locked_reaches {b : ReadBuffer} (hphase : b.phase = .locked)
    (hholds : b.cell.Holds b.member) (text : Option ℕ) :
    ∃ b', b.Reaches b' ∧ b'.phase = .idle ∧ b'.map_umem = b.map_umem
      ∧ b'.rd_user_buf = b.rd_user_buf ∧ b'.cell.held = b.cell.held := by
  have hsection : b.step (.read_section text) = some (b.read_section text) := by
    rw [step, if_pos hphase]
  have hsuits : b.Suits (.read_section text) := by
    cases text with
    | none => trivial
    | some n => exact hholds
  obtain ⟨err, herr⟩ : ∃ err, (b.read_section text).phase = .copying err := by
    cases text <;> exact ⟨_, rfl⟩
  have hcopy : (b.read_section text).step .read_copy
      = some ((b.read_section text).read_copy err) := by
    rw [step, herr]
  refine ⟨(b.read_section text).read_copy err,
    .head (.read_section text) hsection hsuits (.head .read_copy hcopy ?_ (.refl _)),
    rfl, read_section_map_umem b text, read_section_rd_user_buf b text, ?_⟩
  · rw [Suits, herr]
    by_cases hflag : b.map_umem = true
    · exact .inl ((read_section_map_umem b text).trans hflag)
    · refine .inr (.inr ?_)
      rw [member, if_neg hflag] at hholds
      rwa [Cell.Holds, read_section_held]
  · rw [read_copy_held, read_section_held]

/-- A read into a mapped page is the section and the end of the call. -/
theorem read_mapped_shown {b : ReadBuffer} {st st' : ReaderState} {env : ReadEnv} {count : ℕ}
    {r : Int} (hon : b.map_umem = true) (hphase : b.phase = .locked)
    (huser : b.rd_user_buf = st.rd_user_buf)
    (hmapped : b.cell.held.map Held.kind = st.rd_mapped_addr.map fun _ => RdMember.rd_mapped_addr)
    (hcount : 80 < count) (hsome : 0 < st.dev.rx_unread_cnt)
    (hread : st.read_mapped env count = some (r, st')) :
    ∃ b', b.Reaches b' ∧ b'.map_umem = b.map_umem ∧ b'.Shows st' := by
  obtain ⟨msgs, hsection, -, -⟩ := read_section_takes (msgs_to_read_pos hcount) hsome
  change pcan_chardev_read_section count st.dev = _ at hsection
  unfold ReaderState.read_mapped at hread
  rw [hsection] at hread
  -- with nothing mapped, the read would not have returned
  obtain ⟨page, hpage⟩ : ∃ page, st.rd_mapped_addr = some page := by
    cases haddr : st.rd_mapped_addr with
    | none =>
      rw [haddr] at hread
      cases hread
    | some page => exact ⟨page, rfl⟩
  have hholds : b.cell.Holds b.member := by
    rw [member, if_pos hon, Cell.Holds, hmapped, hpage]
    rfl
  obtain ⟨b', hreaches, hidle, hflag, huser', hheld⟩ :=
    locked_reaches hphase hholds (some r.toNat)
  rw [hpage] at hread
  have hst := congrArg Prod.snd (Option.some.inj hread)
  dsimp only at hst
  refine ⟨b', hreaches, hflag, hidle, ?_, fun _ => ?_, fun hoff => absurd (hflag.trans hon) hoff⟩
  · rw [huser', huser, ← hst]
    rfl
  · rw [hheld, hmapped, ← hst]
    rfl

/-- A read by way of the kernel buffer has the copy in between. -/
theorem read_copied_shown {b : ReadBuffer} {st : ReaderState} (services : Services)
    (env : ReadEnv) (buf count : ℕ) (hoff : ¬ b.map_umem) (hphase : b.phase = .locked)
    (huser : b.rd_user_buf = st.rd_user_buf) (hkernel : b.cell.Holds .rd_kernel_buf) :
    ∃ b', b.Reaches b' ∧ b'.map_umem = b.map_umem
      ∧ b'.Shows (st.read_copied services env buf count).2 := by
  have hholds : b.cell.Holds b.member := by rwa [member, if_neg hoff]
  obtain ⟨b', hreaches, hidle, hflag, huser', hheld⟩ := locked_reaches hphase hholds (some 0)
  have hst : (st.read_copied services env buf count).2.rd_user_buf = st.rd_user_buf := by
    unfold ReaderState.read_copied
    dsimp only
    split <;> rfl
  refine ⟨b', hreaches, hflag, hidle, by rw [huser', huser, hst],
    fun hon => absurd (hflag.symm.trans hon) hoff, fun _ => ?_⟩
  rwa [Cell.Holds, hheld]

/-- A page that could be pinned is mapped. -/
theorem read_map_pinned (b : ReadBuffer) (buf : ℕ) {pin_err : Int} (hpin : ¬ pin_err < 0) :
    (b.read_map buf pin_err).phase = .locked ∧ (b.read_map buf pin_err).map_umem = b.map_umem
      ∧ (b.read_map buf pin_err).rd_user_buf = buf
      ∧ (b.read_map buf pin_err).cell.Holds .rd_mapped_addr := by
  unfold read_map
  dsimp only
  rw [if_neg hpin]
  exact ⟨rfl, rfl, rfl, Cell.holds_store _ _⟩

/-- A read with a new address: the old mapping goes, and the new one may fail. -/
theorem read_remapped_shown {b : ReadBuffer} {st st' : ReaderState} (h : b.Shows st)
    {services : Services} {env : ReadEnv} {buf count : ℕ} {r : Int} (hon : b.map_umem = true)
    (hnew : buf ≠ st.rd_user_buf) (hok : services.access_ok = true) (hcount : 80 < count)
    (hsome : 0 < st.dev.rx_unread_cnt)
    (hread : (if (st.map_user_readbuf services buf).1 < 0 then
        some (st.map_user_readbuf services buf)
      else (st.map_user_readbuf services buf).2.read_mapped env count) = some (r, st')) :
    ∃ b', ReadBuffer.Reaches { b with phase := .mapping buf } b' ∧ b'.map_umem = b.map_umem
      ∧ b'.Shows st' := by
  have hsuits : ReadBuffer.Suits { b with phase := .mapping buf } (.read_map services.pin_err) := by
    rw [Suits, if_pos hon]
    intro hkernel
    have hkind := h.mapped hon
    rw [hkernel] at hkind
    cases haddr : st.rd_mapped_addr <;> simp [haddr] at hkind
  have hmap : st.map_user_readbuf services buf
      = if services.pin_err < 0 then (services.pin_err, st.unmap_user_readbuf_if_needed)
        else (0, { st.unmap_user_readbuf_if_needed with
          rd_mapped_addr := some (page_start buf), rd_user_buf := buf }) := by
    rw [ReaderState.map_user_readbuf, if_neg hnew, if_neg (not_not.mpr hok)]
  by_cases hpin : services.pin_err < 0
  · have hfails : ReadBuffer.read_map { b with phase := .mapping buf } buf services.pin_err
        = { ReadBuffer.unmap_user_readbuf_if_needed { b with phase := .mapping buf } with
          phase := .idle } := if_pos hpin
    rw [hmap, if_pos hpin, if_pos hpin] at hread
    obtain ⟨rfl, rfl⟩ := Prod.mk.inj (Option.some.inj hread)
    refine ⟨_, .head (.read_map services.pin_err) (congrArg some hfails) hsuits (.refl _), rfl,
      rfl, rfl, fun _ => ?_, fun hoff => absurd hon hoff⟩
    change (ReadBuffer.unmap_user_readbuf_if_needed _).cell.held.map _ = none
    rw [unmap_held, if_pos hon]
    rfl
  · obtain ⟨hlocked, hflag, huser, hkind⟩ :=
      read_map_pinned { b with phase := .mapping buf } buf hpin
    rw [hmap, if_neg hpin, if_neg (lt_irrefl _)] at hread
    obtain ⟨b', hreaches, hflag', hshows⟩ := @read_mapped_shown _
      { st.unmap_user_readbuf_if_needed with
        rd_mapped_addr := some (page_start buf), rd_user_buf := buf } st' env count r
      (hflag.trans hon) hlocked huser hkind hcount hsome hread
    exact ⟨b', .head (.read_map services.pin_err) rfl hsuits hreaches, hflag'.trans hflag, hshows⟩

/-- The cases of a read with `map_umem` on: the address of the last mapping, another one that
is let in, and one that is not. -/
theorem read_on_shown {b : ReadBuffer} {st st' : ReaderState} (h : b.Shows st)
    {services : Services} {env : ReadEnv} {buf count : ℕ} {r : Int} (hon : b.map_umem = true)
    (hcount : 80 < count) (hsome : 0 < st.dev.rx_unread_cnt)
    (hread : (if (st.map_user_readbuf services buf).1 < 0 then
        some (st.map_user_readbuf services buf)
      else (st.map_user_readbuf services buf).2.read_mapped env count) = some (r, st')) :
    ∃ b', b.Reaches b' ∧ b'.map_umem = b.map_umem ∧ b'.Shows st' := by
  by_cases hsame : buf = st.rd_user_buf
  · have hlocked : b.read_enter 0 buf services.access_ok = { b with phase := .locked } := by
      simp [read_enter, hsame, h.user_buf]
    have hmap : st.map_user_readbuf services buf = (0, st) := by
      rw [ReaderState.map_user_readbuf, if_pos hsame]
    rw [hmap, if_neg (lt_irrefl _)] at hread
    obtain ⟨b', hreaches, hflag, hshows⟩ := read_mapped_shown (b := { b with phase := .locked })
      hon rfl h.user_buf (h.mapped hon) hcount hsome hread
    exact ⟨b', hreaches.enter h.idle hlocked, hflag, hshows⟩
  by_cases hok : services.access_ok = true
  · have hmapping : b.read_enter 0 buf services.access_ok = { b with phase := .mapping buf } := by
      simp [read_enter, hon, hok, h.user_buf, hsame]
    obtain ⟨b', hreaches, hflag, hshows⟩ :=
      read_remapped_shown h hon hsame hok hcount hsome hread
    exact ⟨b', hreaches.enter h.idle hmapping, hflag, hshows⟩
  · have hmap : st.map_user_readbuf services buf = (-EINVAL, st) := by
      rw [ReaderState.map_user_readbuf, if_neg hsame, if_pos hok]
    have hneg : (-EINVAL : Int) < 0 := by decide
    rw [hmap, if_pos hneg] at hread
    obtain ⟨rfl, rfl⟩ := Prod.mk.inj (Option.some.inj hread)
    exact ⟨b, .refl b, rfl, h⟩

/-- A read that returns, with the parameter left alone, is a run of suiting steps. -/
theorem read_shown {b : ReadBuffer} {st st' : ReaderState} (h : b.Shows st) {services : Services}
    {env : ReadEnv} {buf count : ℕ} {r : Int}
    (hread : st.pcan_chardev_read b.map_umem services env buf count = some (r, st')) :
    ∃ b', b.Reaches b' ∧ b'.map_umem = b.map_umem ∧ b'.Shows st' := by
  by_cases hin : PCAN_CHRDEV_MAX_BYTES_PER_READ < count ∧ PCAN_USB_STAGE_ONE_STARTED ≤ st.d.stage
    ∧ wait_for_msgs services.wait st.d = 0
  swap
  · obtain ⟨err, haway⟩ := st.read_turned_away services env buf hin
    rw [haway] at hread
    obtain ⟨rfl, rfl⟩ := Prod.mk.inj (Option.some.inj hread)
    exact ⟨b, .refl b, rfl, h⟩
  obtain ⟨hcount, hstage, hwait⟩ := hin
  rw [st.read_of_wait b.map_umem env buf hcount hstage hwait] at hread
  by_cases hon : b.map_umem = true
  · rw [if_pos hon] at hread
    exact read_on_shown h hon (Int.ofNat_lt.mp hcount) (unread_of_wait hwait) hread
  · rw [if_neg hon] at hread
    have hlocked : b.read_enter 0 buf services.access_ok = { b with phase := .locked } := by
      simp [read_enter, hon]
    obtain ⟨b', hreaches, hflag, hshows⟩ := read_copied_shown (b := { b with phase := .locked })
      services env buf count hon rfl h.user_buf (h.kernel hon)
    rw [congrArg Prod.snd (Option.some.inj hread)] at hshows
    exact ⟨b', hreaches.enter h.idle hlocked, hflag, hshows⟩

end ReadBuffer

end DualPcanUsb
