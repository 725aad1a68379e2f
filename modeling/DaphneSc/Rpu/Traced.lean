import DaphneSc.Rpu.MmioFrame

/-!
# A register window that remembers what was written

`Traced I` behaves as `I` and keeps every write made on it. What the DACs behind a register hold is
read off these writes, and so is whether an operation wrote anything at all.
-/

namespace DaphneSc.Rpu.Mmio

open Program

/-- A register window with its writes, oldest first. -/
structure Traced (I : Type) where
  io : I
  writes : List (UInt32 × UInt32)
  deriving DecidableEq

namespace Traced

variable {I ε : Type}

def start (io : I) : Traced I := ⟨io, []⟩

def ioLens : Lens (Traced I) I where
  view := io
  update io traced := { traced with io := io }
  view_update _ _ := rfl

def note (offset value : UInt32) (traced : Traced I) : Traced I :=
  { traced with writes := traced.writes ++ [(offset, value)] }

end Traced

variable {I ε : Type} [RegisterIo I ε]

/-- A write is remembered whether or not the window takes it. -/
instance : RegisterIo (Traced I) ε where
  read32 offset := zoom Traced.ioLens (RegisterIo.read32 offset)
  write32 offset value := do
    modify (Traced.note offset value)
    zoom Traced.ioLens (RegisterIo.write32 offset value)

namespace AfeMmioBackend

/-- Nothing is written. -/
def keepsWrites : Bound (AfeMmioBackend (Traced I)) := .keeps fun backend ↦ backend.io.writes

/-- Whatever is written comes after the earlier writes. -/
def growsWrites : Bound (AfeMmioBackend (Traced I)) where
  rel s t := s.io.writes <+: t.io.writes
  refl _ := List.prefix_rfl
  trans := List.IsPrefix.trans

/-! ## One access -/

theorem keepsWrites_read (offset : UInt32) :
    Within (keepsWrites : Bound (AfeMmioBackend (Traced I))) (read offset) := by
  have htraced : Within (Bound.keeps Traced.writes : Bound (Traced I))
      (RegisterIo.read32 offset : Prog ε (Traced I) UInt32) :=
    within_zoom (within_top _) fun _ _ _ ↦ rfl
  exact within_mapError (within_zoom htraced fun _ _ h ↦ h)

theorem wp_write (offset value : UInt32) (s : AfeMmioBackend (Traced I)) :
    wp (write offset value) (fun _ t ↦ t.io.writes = s.io.writes ++ [(offset, value)])
      (fun _ t ↦ t.io.writes = s.io.writes ++ [(offset, value)]) s := by
  unfold write RegisterIo.write32 instRegisterIoTraced
  simp only [wp_mapError, wp_zoom, wp_bind, wp_modify]
  refine wp_of_forall (fun _ _ ↦ rfl) (fun e _ ↦ ?_)
  cases e <;> rfl

/-- A poll only reads. -/
theorem keepsWrites_poll (offset : UInt32) (accept : UInt32 → Bool) (limit : ℕ) :
    Within (keepsWrites : Bound (AfeMmioBackend (Traced I))) (poll offset accept limit) := by
  induction limit with
  | zero => exact within_fail _
  | succ limit ih =>
    rw [poll_succ]
    exact within_bind (keepsWrites_read offset) fun _ ↦ within_ite (within_pure _) ih

theorem keepsWrites_waitAfeReady :
    Within (keepsWrites : Bound (AfeMmioBackend (Traced I))) waitAfeReady := by
  rw [waitAfeReady_eq]
  exact within_bind within_get fun _ ↦ keepsWrites_poll _ _ _

theorem admitsCaches_growsWrites :
    AdmitsCaches (growsWrites : Bound (AfeMmioBackend (Traced I))) where
  read offset s := by
    have hfact : ∀ t : AfeMmioBackend (Traced I), keepsWrites.rel s t → growsWrites.rel s t := by
      intro t ht
      change s.io.writes <+: t.io.writes
      rw [Bound.keeps_rel.mp ht]
    exact wp_mono (keepsWrites_read offset s) (fun _ ↦ hfact) (fun _ ↦ hfact)
  write offset value s := by
    have hfact : ∀ t : AfeMmioBackend (Traced I),
        t.io.writes = s.io.writes ++ [(offset, value)] → growsWrites.rel s t := by
      intro t ht
      change s.io.writes <+: t.io.writes
      rw [ht]
      exact List.prefix_append _ _
    exact wp_mono (wp_write offset value s) (fun _ ↦ hfact) (fun _ ↦ hfact)
  storeHalves op cache s := by
    change s.io.writes <+: (AfeMmioBackend.storeHalves op cache s).io.writes
    unfold AfeMmioBackend.storeHalves
    split <;> exact List.prefix_rfl
  attenuation _ _ := List.prefix_rfl
  bias _ _ := List.prefix_rfl
  vbias _ _ _ := List.prefix_rfl

end AfeMmioBackend

end DaphneSc.Rpu.Mmio
