import DaphneSc.Program.Simulated
import DaphneSc.Rpu.TrimOffset

/-!
# Failed writes of trims and offsets

A trim or offset is stored in the cache before the busy wait and the register write. When one of
these fails, nothing was sent and the cache already holds the new half: it is unchanged only where
the same half was cached before.
-/

namespace DaphneSc.Rpu.Mmio

open Program

/-! ## Writes that were taken -/

/-- A register window with the writes it took, oldest first. -/
structure Confirmed (I : Type) where
  io : I
  taken : List (UInt32 × UInt32)
  deriving DecidableEq

namespace Confirmed

variable {I : Type}

def start (io : I) : Confirmed I := ⟨io, []⟩

def ioLens : Lens (Confirmed I) I where
  view := io
  update io confirmed := { confirmed with io := io }
  view_update _ _ := rfl

def note (offset value : UInt32) (confirmed : Confirmed I) : Confirmed I :=
  { confirmed with taken := confirmed.taken ++ [(offset, value)] }

end Confirmed

variable {I ε : Type} [RegisterIo I ε]

/-- A write is remembered once the window has taken it. -/
instance : RegisterIo (Confirmed I) ε where
  read32 offset := zoom Confirmed.ioLens (RegisterIo.read32 offset)
  write32 offset value := do
    zoom Confirmed.ioLens (RegisterIo.write32 offset value)
    modify (Confirmed.note offset value)

namespace AfeMmioBackend

/-- No write is taken. -/
def keepsTaken : Bound (AfeMmioBackend (Confirmed I)) := .keeps fun backend ↦ backend.io.taken

theorem keepsTaken_read (offset : UInt32) :
    Within (keepsTaken : Bound (AfeMmioBackend (Confirmed I))) (read offset) := by
  have hconfirmed : Within (Bound.keeps Confirmed.taken : Bound (Confirmed I))
      (RegisterIo.read32 offset : Prog ε (Confirmed I) UInt32) :=
    within_zoom (within_top _) fun _ _ _ ↦ rfl
  exact within_mapError (within_zoom hconfirmed fun _ _ h ↦ h)

theorem keepsTaken_poll (offset : UInt32) (accept : UInt32 → Bool) (limit : ℕ) :
    Within (keepsTaken : Bound (AfeMmioBackend (Confirmed I))) (poll offset accept limit) := by
  induction limit with
  | zero => exact within_fail _
  | succ limit ih =>
    rw [poll_succ]
    exact within_bind (keepsTaken_read offset) fun _ ↦ within_ite (within_pure _) ih

theorem keepsTaken_waitAfeReady :
    Within (keepsTaken : Bound (AfeMmioBackend (Confirmed I))) waitAfeReady := by
  rw [waitAfeReady_eq]
  exact within_bind within_get fun _ ↦ keepsTaken_poll _ _ _

/-- A write is taken when it returns, and only then. -/
theorem wp_write_taken (offset value : UInt32) (s : AfeMmioBackend (Confirmed I)) :
    wp (write offset value) (fun _ t ↦ t.io.taken = s.io.taken ++ [(offset, value)])
      (fun _ t ↦ t.io.taken = s.io.taken) s := by
  unfold write RegisterIo.write32 instRegisterIoConfirmed
  simp only [wp_mapError, wp_zoom, wp_bind, wp_modify]
  refine wp_of_forall (fun _ _ ↦ rfl) (fun e _ ↦ ?_)
  cases e <;> rfl

end AfeMmioBackend

end DaphneSc.Rpu.Mmio

namespace DaphneSc.Rpu.TrimOffset

open Core.Afe Core.AfeHw Core.RpuWire Rpu.Runtime Rpu.Mmio Rpu.Mmio.AfeMmioBackend Program
open DacPairs

variable {I ε : Type}

/-! ## Caches and register accesses -/

section Accesses

/-- Accesses are carried out alike whatever the cache of a bank holds. -/
theorem simulates_storeHalves_access {α : Type} (op : RpuWireOp) (cache : Halves)
    (m : Prog ε I α) :
    Simulates (storeHalves op cache) (mapError MmioAfeError.io (zoom ioLens m))
      (mapError MmioAfeError.io (zoom ioLens m)) := by
  apply simulates_mapError
  apply simulates_zoom (f := id)
  · exact io_storeHalves op cache
  · intro io s
    unfold storeHalves
    split <;> rfl
  · exact simulates_refl m

variable [RegisterIo I ε]

theorem simulates_storeHalves_poll (op : RpuWireOp) (cache : Halves) (offset : UInt32)
    (accept : UInt32 → Bool) (limit : ℕ) :
    Simulates (storeHalves op cache) (poll offset accept limit : BackendProg I ε Unit)
      (poll offset accept limit) := by
  induction limit with
  | zero => exact fun _ ↦ rfl
  | succ limit ih =>
    rw [poll_succ]
    apply simulates_bind (simulates_storeHalves_access op cache _)
    intro value
    cases accept value with
    | true => exact simulates_pure ()
    | false => exact ih

theorem simulates_storeHalves_waitAfeReady (op : RpuWireOp) (cache : Halves) :
    Simulates (storeHalves op cache) (waitAfeReady : BackendProg I ε Unit) waitAfeReady := by
  intro s
  have hconfig : (storeHalves op cache s).config = s.config := by
    unfold storeHalves
    split <;> rfl
  rw [waitAfeReady_eq, run_get_bind, run_get_bind, hconfig]
  exact simulates_storeHalves_poll op cache _ _ _ s

/-- Wait and write one register. -/
def send (offset word : UInt32) : BackendProg I ε Unit := do
  waitAfeReady
  write offset word

theorem within_send {B : Bound (AfeMmioBackend I)} (h : AdmitsIo B) (offset word : UInt32) :
    Within B (send offset word) :=
  within_bind h.within_waitAfeReady fun _ ↦ h.write _ _

theorem sendWord_eq (offset word : UInt32) :
    (sendWord offset word : BackendProg I ε Unit) =
      send offset word >>= fun _ ↦ waitAfeReady := by
  unfold sendWord send
  rw [bind_assoc]

theorem simulates_storeHalves_send (op : RpuWireOp) (cache : Halves) (offset word : UInt32) :
    Simulates (storeHalves op cache) (send offset word : BackendProg I ε Unit) (send offset word) :=
  simulates_bind (simulates_storeHalves_waitAfeReady op cache) fun _ ↦
    simulates_storeHalves_access op cache _

end Accesses

/-! ## What is kept on a failure -/

/-- The word sent when a channel of a bank is set to a half. -/
def wordFor (bank : Bank) (afePl afeChannel : ℕ) (half : UInt16) (s : AfeMmioBackend I) : UInt32 :=
  pairFor afeChannel half
    (Function.update (halfAt (bank.halves s) afePl) afeChannel half (companion afeChannel))

/-- A state in which the trims and offsets of another are still cached: reads report the same and
later writes send the same. -/
structure SameHalves (ε : Type) (s t : AfeMmioBackend I) : Prop where
  trimHalves : t.trimHalves = s.trimHalves
  offsetHalves : t.offsetHalves = s.offsetHalves
  reads : ∀ (op : RpuWireOp) (afePl afeChannel : UInt8) (value : UInt32),
    (readTrimOrOffsetChannel op afePl afeChannel : BackendProg I ε UInt32) s = .ok value s →
    (readTrimOrOffsetChannel op afePl afeChannel : BackendProg I ε UInt32) t = .ok value t
  words : ∀ (bank : Bank) (afePl afeChannel : ℕ) (half : UInt16),
    wordFor bank afePl afeChannel half t = wordFor bank afePl afeChannel half s

theorem simulates_index {σ τ α : Type} {f : σ → τ} {n : ℕ} (v : Vector α n) (i : ℕ) :
    Simulates (ε := ε) f (index v i) (index v i) := by
  unfold index
  cases v[i]? with
  | none => exact simulates_stop
  | some a => exact simulates_pure a

theorem read_of_halves {s t : AfeMmioBackend I} (htrim : t.trimHalves = s.trimHalves)
    (hoffset : t.offsetHalves = s.offsetHalves) {op : RpuWireOp} {afePl afeChannel : UInt8}
    {value : UInt32}
    (h : (readTrimOrOffsetChannel op afePl afeChannel : BackendProg I ε UInt32) s = .ok value s) :
    (readTrimOrOffsetChannel op afePl afeChannel : BackendProg I ε UInt32) t = .ok value t := by
  have hrow : (readHalves op afePl t : BackendProg I ε (Vector UInt16 channelsPerAfe)) =
      readHalves op afePl s := by
    unfold readHalves
    rw [htrim, hoffset]
  -- The program uses the state only through the row, so a constant map carries its runs over.
  have hcarried : Simulates (fun _ : AfeMmioBackend I ↦ t)
      (readHalves op afePl s : BackendProg I ε (Vector UInt16 channelsPerAfe))
      (readHalves op afePl s) := by
    unfold readHalves
    split
    · exact simulates_index _ _
    · exact simulates_index _ _
    · exact fun _ ↦ rfl
  unfold readTrimOrOffsetChannel at h ⊢
  cases hafe : (validateAfe afePl : Except (MmioAfeError ε) Unit) with
  | error err =>
    rw [hafe] at h
    cases h
  | ok valid =>
    rw [hafe] at h
    rw [ofResult_ok, pure_bind] at h ⊢
    by_cases hchannel : afeChannel.toNat ≥ channelsPerAfe
    · rw [failIf, if_pos hchannel] at h
      cases h
    · rw [failIf, if_neg hchannel, pure_bind, run_get_bind] at h ⊢
      rw [hrow]
      rw [simulates_bind hcarried (fun row ↦ simulates_bind (simulates_index row _) fun half ↦
        simulates_pure (half &&& 0x0FFF).toUInt32) s, h]

theorem SameHalves.halves {s t : AfeMmioBackend I} (h : SameHalves ε s t) (bank : Bank) :
    bank.halves t = bank.halves s := by
  cases bank with
  | trim => exact h.trimHalves
  | offset => exact h.offsetHalves

theorem sameHalves_of_eq {s t : AfeMmioBackend I} (htrim : t.trimHalves = s.trimHalves)
    (hoffset : t.offsetHalves = s.offsetHalves) : SameHalves ε s t where
  trimHalves := htrim
  offsetHalves := hoffset
  reads _ _ _ _ h := read_of_halves htrim hoffset h
  words bank afePl afeChannel half := by
    have hhalves : bank.halves t = bank.halves s := by
      cases bank with
      | trim => exact htrim
      | offset => exact hoffset
    rw [wordFor, wordFor, hhalves]

/-! ## One write -/

/-- A write changes nothing before it has a bank of an AFE and one of its channels. -/
theorem wp_writeTrimOrOffsetChannel_refused [RegisterIo I ε] (op : RpuWireOp)
    (afePl afeChannel : UInt8) (value : UInt16) (gain : Bool) (s : AfeMmioBackend I) :
    wp (writeTrimOrOffsetChannel op afePl afeChannel value gain) (fun _ _ ↦ True)
      (fun _ t ↦ t = s ∨ ((∃ bank : Bank, bank.setOp = op) ∧ afePl.toNat < afeCount ∧
        afeChannel.toNat < channelsPerAfe)) s := by
  have hregister : wp (trimOrOffsetRegister op afePl : BackendProg I ε UInt32)
      (fun _ t ↦ t = s ∧ ∃ bank : Bank, bank.setOp = op) (fun _ t ↦ t = s) s := by
    rw [trimOrOffsetRegister_eq]
    split
    · exact (wp_okOr _ _).mpr ⟨fun _ _ ↦ ⟨rfl, .trim, rfl⟩, fun _ ↦ rfl⟩
    · exact (wp_okOr _ _).mpr ⟨fun _ _ ↦ ⟨rfl, .offset, rfl⟩, fun _ ↦ rfl⟩
    · rfl
  unfold writeTrimOrOffsetChannel
  rw [wp_bind]
  apply wp_mono hregister
  · rintro register t ⟨rfl, hbank⟩
    obtain ⟨bank, rfl⟩ := hbank
    rw [wp_bind, companionChannel_eq, wp_okOr]
    refine ⟨fun other _ ↦ ?_, fun _ ↦ Or.inl rfl⟩
    rw [wp_bind, wp_get, writtenHalves_setOp, pure_bind, wp_bind, wp_index]
    refine ⟨fun hafe ↦ ?_, fun _ ↦ Or.inl rfl⟩
    rw [wp_bind, wp_setAt]
    refine ⟨fun hchannel ↦ ?_, fun _ ↦ Or.inl rfl⟩
    exact wp_of_forall (fun _ _ ↦ trivial) fun _ _ ↦ Or.inr ⟨⟨bank, rfl⟩, hafe, hchannel⟩
  · exact fun _ _ h ↦ Or.inl h

variable [RegisterIo I ε]

theorem send_of_not_ok {offset word : UInt32} {s t : AfeMmioBackend I} {err : MmioAfeError ε}
    (h : send offset word s = .error (.error err) t) :
    sendWord offset word s = .error (.error err) t := by
  rw [sendWord_eq, run_bind, h]

/-- What is taken while a word is sent. -/
theorem wp_send_taken (offset word : UInt32) (s : AfeMmioBackend (Confirmed I)) :
    wp (send offset word) (fun _ t ↦ t.io.taken = s.io.taken ++ [(offset, word)])
      (fun _ t ↦ t.io.taken = s.io.taken) s := by
  apply wp_bind_of_within keepsTaken_waitAfeReady
  · intro _ t ht
    have hkept := Bound.keeps_rel.mp ht
    apply wp_mono (wp_write_taken offset word t)
    · intro _ t' ht'
      rw [ht', hkept]
    · intro _ t' ht'
      rw [ht', hkept]
  · exact fun _ _ ht ↦ Bound.keeps_rel.mp ht

/-- A word is sent and nothing is taken exactly when the sending failed. -/
theorem send_failed_of_taken_eq {offset word : UInt32} {s t : AfeMmioBackend (Confirmed I)}
    {err : MmioAfeError ε} (h : sendWord offset word s = .error (.error err) t)
    (htaken : t.io.taken = s.io.taken) : send offset word s = .error (.error err) t := by
  rw [sendWord_eq, run_bind] at h
  cases hsend : send offset word s with
  | error abort t' =>
    rw [hsend] at h
    exact h
  | ok _ t' =>
    rw [hsend] at h
    have hsent := post_of_ok (wp_send_taken offset word s) hsend
    have hkept := Bound.keeps_rel.mp (keepsTaken_waitAfeReady.error h)
    rw [htaken, hsent] at hkept
    exact absurd (congrArg List.length hkept) (by simp)

theorem writeTrimOrOffsetChannel_of_send_failed {bank : Bank} {afePl afeChannel : UInt8}
    (hafe : afePl.toNat < afeCount) (hchannel : afeChannel.toNat < channelsPerAfe)
    {value : UInt16} {gain : Bool} {s t : AfeMmioBackend I} {err : MmioAfeError ε}
    (hsend : send (bank.register afePl.toNat) (wordFor bank afePl.toNat afeChannel.toNat
      (dacTrimOffsetHalf afeChannel value gain false) s) s = .error (.error err) t) :
    writeTrimOrOffsetChannel bank.setOp afePl afeChannel value gain s =
      .error (.error err) (storeHalves bank.setOp (withHalf (bank.halves s) afePl.toNat
        afeChannel.toNat (dacTrimOffsetHalf afeChannel value gain false) hafe hchannel) t) := by
  rw [writeTrimOrOffsetChannel_eq bank hafe hchannel]
  apply send_of_not_ok
  rw [simulates_storeHalves_send, ← wordFor, hsend]

/-- A write that fails without having sent its word failed while sending it. -/
theorem send_failed_of_write_failed {bank : Bank} {afePl afeChannel : UInt8}
    (hafe : afePl.toNat < afeCount) (hchannel : afeChannel.toNat < channelsPerAfe)
    {value : UInt16} {gain : Bool} {s t : AfeMmioBackend (Confirmed I)} {err : MmioAfeError ε}
    (hrun : writeTrimOrOffsetChannel bank.setOp afePl afeChannel value gain s =
      .error (.error err) t) (htaken : t.io.taken = s.io.taken) :
    ∃ t', send (bank.register afePl.toNat) (wordFor bank afePl.toNat afeChannel.toNat
        (dacTrimOffsetHalf afeChannel value gain false) s) s = .error (.error err) t' ∧
      storeHalves bank.setOp (withHalf (bank.halves s) afePl.toNat afeChannel.toNat
        (dacTrimOffsetHalf afeChannel value gain false) hafe hchannel) t' = t := by
  rw [writeTrimOrOffsetChannel_eq bank hafe hchannel] at hrun
  have hsend := send_failed_of_taken_eq hrun (by rw [io_storeHalves]; exact htaken)
  rw [simulates_storeHalves_send, ← wordFor] at hsend
  cases hsent : send (bank.register afePl.toNat) (wordFor bank afePl.toNat afeChannel.toNat
      (dacTrimOffsetHalf afeChannel value gain false) s) s with
  | ok value t' =>
    rw [hsent] at hsend
    cases hsend
  | error abort t' =>
    rw [hsent] at hsend
    cases hsend
    exact ⟨t', rfl, rfl⟩

theorem withHalf_halfAt (cache : Halves) {afePl channel : ℕ} (hafe : afePl < afeCount)
    (hchannel : channel < channelsPerAfe) :
    withHalf cache afePl channel (halfAt cache afePl channel) hafe hchannel = cache := by
  rw [withHalf, halfAt_of_lt cache hafe hchannel, Vector.set_getElem_self, Vector.set_getElem_self]

/-- A failed write that sent nothing leaves the halves as they were. -/
def KeepsHalvesUnsent (op : RpuWireOp) (afePl afeChannel : UInt8) (value : UInt16) (gain : Bool)
    (s : AfeMmioBackend (Confirmed I)) : Prop :=
  ∀ err t, writeTrimOrOffsetChannel op afePl afeChannel value gain s = .error (.error err) t →
    t.io.taken = s.io.taken → SameHalves ε s t

/-- The busy wait before a write, or the write, fails. -/
def SendFails (offset word : UInt32) (s : AfeMmioBackend I) : Prop :=
  ∃ err t, send offset word s = .error (.error err) t

/-- A write of a trim or offset that fails without having sent it leaves the cached halves as they
were exactly when its channel does not exist, the word would be sent, or the cache holds the half
already. -/
theorem keepsHalvesUnsent_iff (op : RpuWireOp) (afePl afeChannel : UInt8) (value : UInt16)
    (gain : Bool) (s : AfeMmioBackend (Confirmed I)) :
    KeepsHalvesUnsent op afePl afeChannel value gain s ↔
      ∀ bank : Bank, bank.setOp = op → afePl.toNat < afeCount →
        afeChannel.toNat < channelsPerAfe →
        let half := dacTrimOffsetHalf afeChannel value gain false
        SendFails (bank.register afePl.toNat)
          (wordFor bank afePl.toNat afeChannel.toNat half s) s →
        halfAt (bank.halves s) afePl.toNat afeChannel.toNat = half := by
  constructor
  · intro hkeeps bank hop hafe hchannel half hfails
    subst hop
    obtain ⟨err, t, hsend⟩ := hfails
    have hrun := writeTrimOrOffsetChannel_of_send_failed hafe hchannel hsend
    have htaken : t.io.taken = s.io.taken := post_of_error (wp_send_taken _ _ s) hsend
    have hsame := (hkeeps err _ hrun (by rw [io_storeHalves]; exact htaken)).halves bank
    rw [halves_storeHalves_self] at hsame
    calc halfAt (bank.halves s) afePl.toNat afeChannel.toNat
        = halfAt (withHalf (bank.halves s) afePl.toNat afeChannel.toNat half hafe hchannel)
            afePl.toNat afeChannel.toNat := by rw [hsame]
      _ = half := by rw [halfAt_withHalf_self, Function.update_self]
  · intro hcached err t hrun htaken
    by_cases hvalid : (∃ bank : Bank, bank.setOp = op) ∧ afePl.toNat < afeCount ∧
        afeChannel.toNat < channelsPerAfe
    · obtain ⟨⟨bank, rfl⟩, hafe, hchannel⟩ := hvalid
      obtain ⟨t', hsend, rfl⟩ := send_failed_of_write_failed hafe hchannel hrun htaken
      have hhalf := hcached bank rfl hafe hchannel ⟨err, t', hsend⟩
      have hio : t' = { s with io := t'.io } :=
        (within_send admitsIo_ioOnly _ _).error hsend
      rw [← hhalf, withHalf_halfAt, hio]
      apply sameHalves_of_eq
      · cases bank <;> rfl
      · cases bank <;> rfl
    · have hunchanged := post_of_error
        (wp_writeTrimOrOffsetChannel_refused op afePl afeChannel value gain s) hrun
      rw [hunchanged.resolve_right hvalid]
      exact sameHalves_of_eq rfl rfl

/-! ## A write that times out -/

/-- A register window that reads as busy once and as zero afterwards. -/
structure BusyOnceIo where
  busy : Bool
  deriving DecidableEq

instance : RegisterIo BusyOnceIo Empty where
  read32 _ := modifyGet fun io ↦ (if io.busy then 0xFFFFFFFF else 0, ⟨false⟩)
  write32 _ _ := pure ()

/-- A backend that waits for one reading and finds the AFEs busy in it. -/
def busyOnce : AfeMmioBackend (Confirmed BusyOnceIo) :=
  AfeMmioBackend.withConfig (Confirmed.start ⟨true⟩) ⟨1⟩

/-- Setting the trim of channel 5 times out. Its trim is reported as set, and it is sent by the next
command for its companion, channel 1. -/
theorem busyOnce_not_keepsHalvesUnsent :
    let readTrim : BackendProg (Confirmed BusyOnceIo) Empty UInt32 :=
      readTrimOrOffsetChannel .readTrim 0 5
    ∃ t u word,
      writeTrimOrOffsetChannel .setTrim 0 5 0x123 false busyOnce = .error (.error .timeout) t ∧
      t.io.taken = [] ∧
      readTrim busyOnce = .ok 0 busyOnce ∧ readTrim t = .ok 0x123 t ∧
      writeTrimOrOffsetChannel .setTrim 0 1 0x45 false t = .ok () u ∧
      u.io.taken = [(Bank.trim.register 0, word)] ∧ (word >>> 16) &&& 0xFFF = 0x123 ∧
      ¬ KeepsHalvesUnsent .setTrim 0 5 0x123 false busyOnce := by
  intro readTrim
  refine ⟨_, _, _, rfl, rfl, rfl, rfl, rfl, rfl, by decide, ?_⟩
  intro hkeeps
  have hsame := (hkeeps .timeout _ rfl rfl).trimHalves
  exact absurd hsame (by decide)

end DaphneSc.Rpu.TrimOffset
