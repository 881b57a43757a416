/-
Taking the module away.

`pcan_exit` unplugs what is plugged in and returns. `pcan_usb_plugout` leaves the freeing to
delayed work, and nothing cancels that work or waits for it: it comes due with the module's
code gone. So the module can be removed exactly when every device has been unplugged, and its
delayed work has come to its end, before. An open file keeps the module (`.owner`), a plugged
device does not.
-/
import DualPcanUsb.FileOwners

set_option autoImplicit false

namespace DualPcanUsb

section

variable {G : Type} (grp : ChrdevGroup G)

/-! ## Loading and unloading -/

/-- The module and what it drives. `strays` are the runs of delayed work that found no code. -/
structure Module (G : Type) where
  s : DriverState G
  loaded : Bool
  strays : List ℕ

def Module.init (group : G) : Module G := ⟨DriverState.loaded group, true, []⟩

/-- `usb_deregister` calls `disconnect` for every device that is plugged in; `sent f` is what
the commands to the device `f` return meanwhile. -/
def usb_deregister (sent : ℕ → ℕ → Int) : ℕ → DriverState G → DriverState G
  | 0, s => s
  | f + 1, s =>
    let s := usb_deregister sent f s
    if (s.life f).registered then pcan_usb_plugout grp f (sent f) s else s

inductive ModuleOp
  | op (op : Op)
  | pcan_exit (sent : ℕ → ℕ → Int)

def Module.step (m : Module G) : ModuleOp → Option (Module G)
  | .op op =>
    if m.loaded then (m.s.step grp op).map fun s => { m with s := s }
    else
      match op with
      -- without the module only what it has left behind goes on
      | .destroy f =>
        if (m.s.life f).destroy_work then
          some { m with
            s := m.s.set_life f { m.s.life f with destroy_work := false }
            strays := m.strays ++ [f] }
        else none
      | _ => none
  | .pcan_exit sent =>
    if m.loaded ∧ ∀ file ∈ m.s.files, file.is_open = false then
      some { m with s := usb_deregister grp sent m.s.next_forwarder m.s, loaded := false }
    else none

/-- No delayed work has found the code gone, and none is left to. -/
def Module.Clean (m : Module G) : Prop :=
  m.strays = [] ∧ (m.loaded = false → ∀ f, (m.s.life f).destroy_work = false)

def EndsClean (m : Module G) (op : ModuleOp) : Prop :=
  ∀ m', m.step grp op = some m' → m'.Clean

/-- The module is removed only when it drives nothing, and has freed what it did. -/
def Drained (m : Module G) : ModuleOp → Prop
  | .op _ => True
  | .pcan_exit _ => m.loaded = true → (∀ file ∈ m.s.files, file.is_open = false) →
    ∀ f < m.s.next_forwarder, (m.s.life f).registered = false ∧ (m.s.life f).destroy_work = false

/-! ## Forwarders that do not exist yet -/

def DriverState.Fresh (s : DriverState G) : Prop :=
  ∀ f, s.next_forwarder ≤ f → (s.life f).registered = false ∧ (s.life f).destroy_work = false

variable {grp}

/-- Forwarders that do not exist yet are not made without plugging. -/
theorem Steady.fresh {s s' : DriverState G} (h : Steady s s') (hfresh : s.Fresh) : s'.Fresh := by
  intro f hle
  rw [h.next_eq] at hle
  obtain ⟨hreg, hwork⟩ := hfresh f hle
  refine ⟨(h.registered_eq f).trans hreg, ?_⟩
  rw [← Bool.not_eq_true]
  intro hdestroy
  rw [h.destroy_work f hdestroy] at hwork
  cases hwork

theorem Io.steady {s s' : DriverState G} {i : ℕ} {file : File} (h : Io s i file s') :
    Steady s s' := .of_life h.group_eq h.next_eq h.life_eq

/-- Every operation keeps it so. -/
theorem fresh_step {s s' : DriverState G} {op : Op} (hfresh : s.Fresh)
    (h : s.step grp op = some s') : s'.Fresh := by
  cases op with
  | plugin dev_revision early late =>
    obtain rfl := Option.some.inj h
    unfold pcan_usb_plugin
    split
    · exact hfresh
    split
    · exact hfresh
    split
    · exact hfresh
    · intro f hle
      have hlt : s.next_forwarder < f := hle
      unfold DriverState.life
      dsimp only
      rw [Function.update_of_ne hlt.ne']
      exact hfresh f hlt.le
  | open_ minor sent =>
    obtain rfl := Option.some.inj h
    exact (steady_open s minor sent).fresh hfresh
  | read i count wait =>
    obtain ⟨file, -, rfl⟩ := Option.map_eq_some_iff.mp h
    exact (io_read s i file count wait).steady.fresh hfresh
  | poll i =>
    obtain ⟨file, -, rfl⟩ := Option.map_eq_some_iff.mp h
    exact (io_poll s i file).steady.fresh hfresh
  | ioctl i cmd wait =>
    obtain ⟨file, -, rfl⟩ := Option.map_eq_some_iff.mp h
    exact (io_ioctl s i file cmd wait).steady.fresh hfresh
  | release i sent =>
    obtain ⟨file, -, rfl⟩ := Option.map_eq_some_iff.mp h
    exact (steady_release s i file sent).1.fresh hfresh
  | net_open f sent =>
    obtain ⟨-, heq⟩ := Option.ite_none_right_eq_some.mp h
    cases heq
    exact (steady_set_dev s f _).fresh hfresh
  | net_stop f sent =>
    obtain ⟨-, heq⟩ := Option.ite_none_right_eq_some.mp h
    cases heq
    exact (steady_set_dev s f _).fresh hfresh
  | plugout f sent =>
    obtain ⟨hreg, heq⟩ := Option.ite_none_right_eq_some.mp h
    cases heq
    intro f' hle
    have hle' : s.next_forwarder ≤ f' := hle
    have hne : f' ≠ f := by
      rintro rfl
      rw [(hfresh f' hle').1] at hreg
      cases hreg
    rw [life_plugout, if_neg hne]
    exact hfresh f' hle'
  | destroy f =>
    obtain ⟨-, heq⟩ := Option.ite_none_right_eq_some.mp h
    cases heq
    exact (steady_destroy s f).1.fresh hfresh

/-! ## Removing the module -/

/-- What is plugged in is unplugged, and everything else stays as it is. -/
theorem life_usb_deregister (sent : ℕ → ℕ → Int) (s : DriverState G) (n f : ℕ) :
    (usb_deregister grp sent n s).life f
      = if f < n ∧ (s.life f).registered = true then
          { s.life f with registered := false, destroy_work := true }
        else s.life f := by
  induction n with
  | zero => rw [usb_deregister, if_neg fun h => absurd h.1 (Nat.not_lt_zero f)]
  | succ n ih =>
    rw [usb_deregister]
    dsimp only
    by_cases hf : f = n
    · -- its own turn comes last
      subst hf
      rw [if_neg fun h => absurd h.1 (lt_irrefl f)] at ih
      by_cases hreg : (s.life f).registered = true
      · rw [if_pos (by rw [ih]; exact hreg), life_plugout, if_pos rfl, ih,
          if_pos ⟨Nat.lt_succ_self f, hreg⟩]
      · rw [if_neg (by rw [ih]; exact hreg), ih, if_neg fun h => hreg h.2]
    · have hsame : ∀ s₁ : DriverState G, s₁.life f = (usb_deregister grp sent n s).life f →
          s₁.life f = if f < n + 1 ∧ (s.life f).registered = true then
            { s.life f with registered := false, destroy_work := true } else s.life f := by
        intro s₁ hs₁
        rw [hs₁, ih]
        exact if_congr (and_congr_left' (by omega)) rfl rfl
      split
      · exact hsame _ (by rw [life_plugout, if_neg hf])
      · exact hsame _ rfl

/-- What a run keeps: nothing has gone wrong, and only existing forwarders are in use. -/
structure ModuleInv (m : Module G) : Prop where
  clean : m.Clean
  fresh : m.s.Fresh

theorem moduleInv_init (group : G) : ModuleInv (Module.init group) where
  clean := ⟨rfl, nofun⟩
  fresh := fun _ _ => ⟨rfl, rfl⟩

/-- Under the condition no work is left behind when the code goes. -/
theorem moduleInv_step (m : Module G) (op : ModuleOp) (m' : Module G) (hinv : ModuleInv m)
    (hdrained : Drained m op) (h : m.step grp op = some m') : ModuleInv m' := by
  obtain ⟨⟨hstrays, hwork⟩, hfresh⟩ := hinv
  cases op with
  | op op =>
    unfold Module.step at h
    dsimp only at h
    by_cases hloaded : m.loaded = true
    · rw [if_pos hloaded] at h
      obtain ⟨s', hs', rfl⟩ := Option.map_eq_some_iff.mp h
      refine ⟨⟨hstrays, fun hgone => ?_⟩, fresh_step hfresh hs'⟩
      rw [show m.loaded = false from hgone] at hloaded
      cases hloaded
    · -- no work was left behind, so nothing can go on
      rw [if_neg hloaded] at h
      split at h
      · rename_i f
        rw [hwork (Bool.eq_false_iff.mpr hloaded) f] at h
        cases h
      · cases h
  | pcan_exit sent =>
    obtain ⟨⟨hloaded, hclosed⟩, heq⟩ := Option.ite_none_right_eq_some.mp h
    cases heq
    have hidle := hdrained hloaded hclosed
    have hlife : ∀ f, (usb_deregister grp sent m.s.next_forwarder m.s).life f = m.s.life f := by
      intro f
      rw [life_usb_deregister, if_neg]
      rintro ⟨hlt, hreg⟩
      rw [(hidle f hlt).1] at hreg
      cases hreg
    have hnone : ∀ f, (m.s.life f).destroy_work = false := by
      intro f
      by_cases hlt : f < m.s.next_forwarder
      · exact (hidle f hlt).2
      · exact (hfresh f (not_lt.mp hlt)).2
    have hnext : ∀ n, (usb_deregister grp sent n m.s).next_forwarder = m.s.next_forwarder := by
      intro n
      induction n with
      | zero => rfl
      | succ n ih =>
        rw [usb_deregister]
        split <;> exact ih
    refine ⟨⟨hstrays, fun _ f => ?_⟩, fun f hle => ?_⟩
    · dsimp only
      rw [hlife]
      exact hnone f
    · dsimp only at hle ⊢
      rw [hnext] at hle
      rw [hlife]
      exact hfresh f hle

/-- Removed with a device plugged in, or work pending, the module leaves work behind. -/
theorem drained_of_endsClean {m : Module G} {op : ModuleOp} (h : EndsClean grp m op) :
    Drained m op := by
  cases op with
  | op op => trivial
  | pcan_exit sent =>
    intro hloaded hclosed f hlt
    obtain ⟨-, hwork⟩ := h _ (if_pos ⟨hloaded, hclosed⟩)
    have hnone := hwork rfl f
    dsimp only at hnone
    rw [life_usb_deregister] at hnone
    by_cases hreg : (m.s.life f).registered = true
    · rw [if_pos ⟨hlt, hreg⟩] at hnone
      cases hnone
    · rw [if_neg fun hboth => hreg hboth.2] at hnone
      exact ⟨Bool.eq_false_iff.mpr hreg, hnone⟩

/-- From loading the module on, no delayed work ever runs without the module's code, behind
each operation of a run, exactly if the module is removed only when each of its devices has been
unplugged and freed. -/
theorem unload_clean_iff (group : G) (ops : List ModuleOp) :
    Runs.Along (Module.step grp) (EndsClean grp) (Module.init group) ops
      ↔ Runs.Along (Module.step grp) Drained (Module.init group) ops := by
  have hiff : ∀ m op, ModuleInv m → (Drained m op ↔ EndsClean grp m op) := by
    intro m op hinv
    exact ⟨fun hdrained m' hm' => (moduleInv_step m op m' hinv hdrained hm').clean,
      drained_of_endsClean⟩
  exact (Runs.along_iff _ moduleInv_step hiff (moduleInv_init group) ops).symm

-- `rmmod` with an adapter plugged in: its delayed work comes due after the code has gone.
example :
    ∃ m, Runs.run (Module.step minor_table) (Module.init fun _ => none)
        [.op (.plugin 8 0 0), .pcan_exit fun _ => no_error, .op (.destroy 0)] = some m
      ∧ m.strays = [0] :=
  Runs.exists_run_of_any (Module.step minor_table) (by decide)

end

end DualPcanUsb
