import DaphneSc.Rpu.DacPairs
import DaphneSc.Rpu.Traced

/-!
# What the trim and offset DACs hold

Every AFE has a trim and an offset register, each with a DAC pair behind it. The commands that set
trims and offsets write these registers channel by channel. The DACs are read off the writes, and
compared with the values last set.
-/

namespace DaphneSc.Rpu.TrimOffset

open Core.Afe Core.AfeHw Core.RpuWire Rpu.Runtime Rpu.Mmio Rpu.Mmio.AfeMmioBackend Program
open DacPairs

/-! ## Banks -/

/-- The two registers of an AFE. -/
inductive Bank where
  | trim
  | offset
  deriving DecidableEq, Repr

namespace Bank

def setOp : Bank → RpuWireOp
  | trim => .setTrim
  | offset => .setOffset

def readOp : Bank → RpuWireOp
  | trim => .readTrim
  | offset => .readOffset

def baseOffset : Bank → UInt32
  | trim => afeDacTrimBaseOffset
  | offset => afeDacOffsetBaseOffset

def register (bank : Bank) (afePl : ℕ) : UInt32 :=
  bank.baseOffset + afeRegisterStride * UInt32.ofNat afePl

def halves {I : Type} (bank : Bank) (backend : AfeMmioBackend I) : Halves :=
  match bank with
  | trim => backend.trimHalves
  | offset => backend.offsetHalves

/-- Different banks and AFEs have different registers. -/
theorem register_inj {bank bank' : Bank} {afe afe' : ℕ} (hafe : afe < afeCount)
    (hafe' : afe' < afeCount) (h : bank.register afe = bank'.register afe') :
    bank = bank' ∧ afe = afe' := by
  have hall : ∀ i < afeCount, ∀ j < afeCount,
      (Bank.trim.register i = Bank.trim.register j → i = j) ∧
      (Bank.offset.register i = Bank.offset.register j → i = j) ∧
      Bank.trim.register i ≠ Bank.offset.register j := by decide
  obtain ⟨htrim, hoffset, -⟩ := hall afe hafe afe' hafe'
  cases bank <;> cases bank'
  · exact ⟨rfl, htrim h⟩
  · exact absurd h (hall afe hafe afe' hafe').2.2
  · exact absurd h.symm (hall afe' hafe' afe hafe).2.2
  · exact ⟨rfl, hoffset h⟩

theorem trimOrOffsetRegister_setOp {I ε : Type} (bank : Bank) {afePl : UInt8}
    (h : afePl.toNat < afeCount) :
    (trimOrOffsetRegister bank.setOp afePl : BackendProg I ε UInt32) =
      pure (bank.register afePl.toNat) := by
  have hoffset : UInt32.ofNat afePl.toNat = afePl.toUInt32 := by
    apply UInt32.toNat_inj.mp
    have hlt : afePl.toNat < 256 := afePl.toNat_lt
    rw [UInt32.toNat_ofNat', UInt8.toNat_toUInt32, Nat.mod_eq_of_lt (by omega)]
  cases bank <;>
    simp only [setOp, trimOrOffsetRegister_eq, register, baseOffset, afeDacTrimOffset,
      afeDacOffsetOffset, afeRegisterOffset, if_pos h, okOr_some, hoffset]

end Bank

/-! ## One channel -/

section Channel

variable {I ε : Type}

/-- The half in a cache; there is none outside it. -/
def halfAt (cache : Halves) (afePl channel : ℕ) : UInt16 :=
  if h : afePl < afeCount ∧ channel < channelsPerAfe then
    have := h.1
    have := h.2
    cache[afePl][channel]
  else
    0

theorem halfAt_of_lt (cache : Halves) {afePl channel : ℕ} (hafe : afePl < afeCount)
    (hchannel : channel < channelsPerAfe) : halfAt cache afePl channel = cache[afePl][channel] :=
  dif_pos ⟨hafe, hchannel⟩

/-- The cache with one half replaced. -/
def withHalf (cache : Halves) (afePl channel : ℕ) (half : UInt16) (hafe : afePl < afeCount)
    (hchannel : channel < channelsPerAfe) : Halves :=
  cache.set afePl (cache[afePl].set channel half)

theorem halfAt_withHalf_self (cache : Halves) {afePl channel : ℕ} (half : UInt16)
    (hafe : afePl < afeCount) (hchannel : channel < channelsPerAfe) :
    halfAt (withHalf cache afePl channel half hafe hchannel) afePl =
      Function.update (halfAt cache afePl) channel half := by
  funext other
  by_cases hother : other < channelsPerAfe
  · rw [halfAt_of_lt _ hafe hother]
    rcases eq_or_ne other channel with rfl | hne
    · simp [withHalf]
    · rw [Function.update_of_ne hne, halfAt_of_lt _ hafe hother]
      simp [withHalf, hne.symm]
  · have hne : other ≠ channel := fun h ↦ hother (h ▸ hchannel)
    rw [Function.update_of_ne hne, halfAt, halfAt, dif_neg (fun h ↦ hother h.2),
      dif_neg (fun h ↦ hother h.2)]

theorem halfAt_withHalf_of_ne (cache : Halves) {afePl channel afe : ℕ} (half : UInt16)
    (hafe : afePl < afeCount) (hchannel : channel < channelsPerAfe) (hne : afe ≠ afePl) :
    halfAt (withHalf cache afePl channel half hafe hchannel) afe = halfAt cache afe := by
  funext other
  by_cases h : afe < afeCount ∧ other < channelsPerAfe
  · rw [halfAt_of_lt _ h.1 h.2, halfAt_of_lt _ h.1 h.2]
    simp [withHalf, hne.symm]
  · rw [halfAt, halfAt, dif_neg h, dif_neg h]

variable [RegisterIo I ε]

/-- Send a word to a register between two waits. -/
def sendWord (offset word : UInt32) : BackendProg I ε Unit := do
  waitAfeReady
  write offset word
  waitAfeReady

theorem within_sendWord {B : Bound (AfeMmioBackend I)} (h : AdmitsIo B) (offset word : UInt32) :
    Within B (sendWord offset word) :=
  within_bind h.within_waitAfeReady fun _ ↦ within_bind (h.write _ _) fun _ ↦
    h.within_waitAfeReady

omit [RegisterIo I ε] in
theorem writtenHalves_setOp (bank : Bank) (backend : AfeMmioBackend I) :
    (writtenHalves bank.setOp backend : BackendProg I ε Halves) = pure (bank.halves backend) := by
  cases bank <;> rfl

omit [RegisterIo I ε] in
theorem io_storeHalves (op : RpuWireOp) (cache : Halves) (s : AfeMmioBackend I) :
    (storeHalves op cache s).io = s.io := by
  unfold storeHalves
  split <;> rfl

omit [RegisterIo I ε] in
theorem halves_storeHalves_self (bank : Bank) (cache : Halves) (s : AfeMmioBackend I) :
    bank.halves (storeHalves bank.setOp cache s) = cache := by
  cases bank <;> rfl

omit [RegisterIo I ε] in
theorem halves_storeHalves_of_ne {bank bank' : Bank} (h : bank' ≠ bank) (cache : Halves)
    (s : AfeMmioBackend I) :
    bank'.halves (storeHalves bank.setOp cache s) = bank'.halves s := by
  cases bank <;> cases bank' <;> first | rfl | exact absurd rfl h

theorem dacCompanionChannel_of_lt {channel : UInt8} (h : channel.toNat < channelsPerAfe) :
    ∃ other, dacCompanionChannel channel = some other ∧
      other.toNat = companion channel.toNat := by
  unfold dacCompanionChannel companion
  change channel.toNat < 8 at h
  by_cases hlow : channel < 4
  · have hlow' : channel.toNat < 4 := UInt8.lt_iff_toNat_lt.mp hlow
    rw [if_pos hlow, if_pos hlow']
    refine ⟨channel + 4, rfl, ?_⟩
    rw [UInt8.toNat_add]
    change (channel.toNat + 4) % 256 = channel.toNat + 4
    omega
  · have hlow' : ¬ channel.toNat < 4 := fun h ↦ hlow (UInt8.lt_iff_toNat_lt.mpr h)
    rw [if_neg hlow, if_neg hlow', if_pos (UInt8.lt_iff_toNat_lt.mpr h)]
    refine ⟨channel - 4, rfl, ?_⟩
    have hle : (4 : UInt8) ≤ channel := UInt8.not_lt.mp hlow
    rw [UInt8.toNat_sub_of_le _ _ hle]
    rfl

theorem channelWord_eq_pairFor (channel : UInt8) (half companionHalf : UInt16) :
    channelWord channel half companionHalf = pairFor channel.toNat half companionHalf := by
  unfold channelWord pairFor dacChannelIsHighHalf
  by_cases hlow : channel.toNat < 4
  · have hhigh : ¬ (channel ≥ 4) := by
      rw [ge_iff_le, UInt8.le_iff_toNat_le]
      exact Nat.not_le.mpr hlow
    simp [hlow, hhigh]
  · have hhigh : channel ≥ 4 := UInt8.le_iff_toNat_le.mpr (Nat.not_lt.mp hlow)
    simp [hlow, hhigh]

/-- Writing a channel of a bank updates the cache and sends the channel's half with its
companion's. -/
theorem writeTrimOrOffsetChannel_eq (bank : Bank) {afePl afeChannel : UInt8}
    (hafe : afePl.toNat < afeCount) (hchannel : afeChannel.toNat < channelsPerAfe)
    (value : UInt16) (gain : Bool) (s : AfeMmioBackend I) :
    let half := dacTrimOffsetHalf afeChannel value gain false
    let halves := halfAt (bank.halves s) afePl.toNat
    writeTrimOrOffsetChannel bank.setOp afePl afeChannel value gain s =
      sendWord (bank.register afePl.toNat)
        (pairFor afeChannel.toNat half
          (Function.update halves afeChannel.toNat half (companion afeChannel.toNat)))
        (storeHalves bank.setOp
          (withHalf (bank.halves s) afePl.toNat afeChannel.toNat half hafe hchannel) s) := by
  intro half halves
  obtain ⟨other, hother, hcompanion⟩ := dacCompanionChannel_of_lt hchannel
  have hother_lt : other.toNat < channelsPerAfe := hcompanion ▸ companion_lt hchannel
  have hhalf : Function.update halves afeChannel.toNat half (companion afeChannel.toNat) =
      ((bank.halves s)[afePl.toNat].set afeChannel.toNat half)[other.toNat] := by
    rw [← halfAt_withHalf_self _ _ hafe hchannel, ← hcompanion,
      halfAt_of_lt _ hafe hother_lt]
    simp [withHalf]
  unfold writeTrimOrOffsetChannel
  rw [Bank.trimOrOffsetRegister_setOp bank hafe, pure_bind, companionChannel_eq, hother,
    okOr_some, pure_bind, run_get_bind, writtenHalves_setOp, pure_bind, index_of_lt _ hafe,
      pure_bind,
    setAt_of_lt _ hchannel, pure_bind, setAt_of_lt _ hafe, pure_bind, run_modify_bind,
    index_of_lt _ hother_lt, pure_bind, channelWord_eq_pairFor, hhalf]
  rfl

/-- A write that returns was made on a bank of an AFE and one of its channels. -/
theorem wp_writeTrimOrOffsetChannel_valid (op : RpuWireOp) (afePl afeChannel : UInt8)
    (value : UInt16) (gain : Bool) (s : AfeMmioBackend I) :
    wp (writeTrimOrOffsetChannel op afePl afeChannel value gain)
      (fun _ _ ↦ (∃ bank : Bank, bank.setOp = op) ∧ afePl.toNat < afeCount ∧
        afeChannel.toNat < channelsPerAfe) (fun _ _ ↦ True) s := by
  have hop : wp (trimOrOffsetRegister op afePl : BackendProg I ε UInt32)
      (fun _ _ ↦ ∃ bank : Bank, bank.setOp = op) (fun _ _ ↦ True) s := by
    rw [trimOrOffsetRegister_eq]
    split
    · exact wp_of_forall (fun _ _ ↦ ⟨.trim, rfl⟩) (fun _ _ ↦ trivial)
    · exact wp_of_forall (fun _ _ ↦ ⟨.offset, rfl⟩) (fun _ _ ↦ trivial)
    · trivial
  unfold writeTrimOrOffsetChannel
  rw [wp_bind]
  refine wp_mono hop (fun _ s hbank ↦ ?_) (fun _ _ h ↦ h)
  refine wp_bind_of_forall (fun companion _ ↦ ?_) fun _ _ ↦ trivial
  refine wp_bind_of_forall (fun backend _ ↦ ?_) fun _ _ ↦ trivial
  refine wp_bind_of_forall (fun cache _ ↦ ?_) fun _ _ ↦ trivial
  rw [wp_bind, wp_index]
  refine ⟨fun hafe ↦ ?_, fun _ ↦ trivial⟩
  rw [wp_bind, wp_setAt]
  refine ⟨fun hchannel ↦ ?_, fun _ ↦ trivial⟩
  exact wp_of_forall (fun _ _ ↦ ⟨hbank, hafe, hchannel⟩) fun _ _ ↦ trivial

end Channel

/-! ## The pairs behind the registers -/

/-- What the DACs behind a register hold after a sequence of writes. -/
def dacContent (register : UInt32) (writes : List (UInt32 × UInt32)) : Content :=
  writes.foldl (fun content access ↦
    if access.1 = register then load content access.2 else content) fun _ ↦ none

theorem dacContent_append_self (register word : UInt32) (writes : List (UInt32 × UInt32)) :
    dacContent register (writes ++ [(register, word)]) =
      load (dacContent register writes) word := by
  simp [dacContent]

theorem dacContent_append_of_ne {register register' : UInt32} (word : UInt32)
    (writes : List (UInt32 × UInt32)) (h : register' ≠ register) :
    dacContent register (writes ++ [(register', word)]) = dacContent register writes := by
  simp [dacContent, h]

/-- The half sent for a channel. -/
def halfFor (value : UInt16) (gain : Bool) (channel : ℕ) : UInt16 :=
  dacTrimOffsetHalf (UInt8.ofNat channel) value gain false

theorem toNat_halfFor (value : UInt16) (gain : Bool) (channel : ℕ) :
    (halfFor value gain channel).toNat =
      channel % 4 * 16384 + (gain.toNat * 8192 + value.toNat % 4096) := by
  have hchannel : (UInt8.ofNat channel).toNat = channel % 256 := UInt8.toNat_ofNat'
  rw [halfFor, toNat_dacTrimOffsetHalf, hchannel, Nat.mod_mod_of_dvd _ (by decide : 4 ∣ 256)]
  simp

theorem select_halfFor (value : UInt16) (gain : Bool) (channel : ℕ) :
    select (halfFor value gain channel) = channel % 4 := by
  have hgain := gain.toNat_lt
  rw [select, toNat_halfFor]
  omega

theorem value_halfFor {value : UInt16} (h : value.toNat < 4096) (gain : Bool) (channel : ℕ) :
    DacPairs.value (halfFor value gain channel) = value.toNat := by
  rw [DacPairs.value, toNat_halfFor]
  omega

section Pairs

variable {I ε : Type}

/-- A register with its cache. -/
def pairOf (backend : AfeMmioBackend (Traced I)) (bank : Bank) (afe : ℕ) : Pair where
  halves := halfAt (bank.halves backend) afe
  content := dacContent (bank.register afe) backend.io.writes

variable [RegisterIo I ε]

theorem wp_sendWord (offset word : UInt32) (s : AfeMmioBackend (Traced I)) :
    wp (sendWord offset word) (fun _ t ↦ t.io.writes = s.io.writes ++ [(offset, word)] ∧
      t = { s with io := t.io }) (fun _ _ ↦ True) s := by
  have hwrites : wp (sendWord offset word)
      (fun _ t ↦ t.io.writes = s.io.writes ++ [(offset, word)]) (fun _ _ ↦ True) s := by
    refine wp_bind_of_within keepsWrites_waitAfeReady (fun _ s' hs' ↦ ?_) fun _ _ _ ↦ trivial
    rw [wp_bind]
    refine wp_mono (wp_write offset word s') (fun _ t ht ↦ ?_) fun _ _ _ ↦ trivial
    refine wp_mono (keepsWrites_waitAfeReady t) (fun _ t' ht' ↦ ?_) fun _ _ _ ↦ trivial
    rw [Bound.keeps_rel.mp ht', ht, Bound.keeps_rel.mp hs']
  exact wp_mono (wp_and hwrites (within_sendWord admitsIo_ioOnly offset word s)) (fun _ _ h ↦ h)
    fun _ _ _ ↦ trivial

/-- Writing a channel of a bank writes its pair and leaves the other pairs alone. -/
theorem wp_writeTrimOrOffsetChannel_pair (bank : Bank) (afePl afeChannel : UInt8)
    (value : UInt16) (gain : Bool) (s : AfeMmioBackend (Traced I)) :
    wp (writeTrimOrOffsetChannel bank.setOp afePl afeChannel value gain)
      (fun _ t ↦ (afePl.toNat < afeCount ∧ afeChannel.toNat < channelsPerAfe) ∧
        pairOf t bank afePl.toNat = (pairOf s bank afePl.toNat).write afeChannel.toNat
          (halfFor value gain afeChannel.toNat) ∧
        ∀ bank' afe', afe' < afeCount → ¬ (bank' = bank ∧ afe' = afePl.toNat) →
          pairOf t bank' afe' = pairOf s bank' afe')
      (fun _ _ ↦ True) s := by
  have hvalid := wp_writeTrimOrOffsetChannel_valid bank.setOp afePl afeChannel value gain s
  by_cases h : afePl.toNat < afeCount ∧ afeChannel.toNat < channelsPerAfe
  · obtain ⟨hafe, hchannel⟩ := h
    have hhalf : halfFor value gain afeChannel.toNat =
        dacTrimOffsetHalf afeChannel value gain false := by
      rw [halfFor, UInt8.ofNat_toNat]
    unfold wp
    rw [writeTrimOrOffsetChannel_eq bank hafe hchannel, hhalf]
    refine wp_mono (wp_sendWord _ _ _) (fun _ t ht ↦ ?_) fun _ _ h ↦ h
    obtain ⟨hwrites, hstate⟩ := ht
    rw [io_storeHalves] at hwrites
    have hhalves : ∀ bank' : Bank, bank'.halves t = bank'.halves (storeHalves bank.setOp
        (withHalf (bank.halves s) afePl.toNat afeChannel.toNat
          (dacTrimOffsetHalf afeChannel value gain false) hafe hchannel) s) := by
      intro bank'
      rw [hstate]
      cases bank' <;> rfl
    refine ⟨⟨hafe, hchannel⟩, ?_, fun bank' afe' hafe' hother ↦ ?_⟩
    · rw [pairOf, hwrites, dacContent_append_self, hhalves bank, halves_storeHalves_self,
        halfAt_withHalf_self]
      rfl
    · have hregister : bank.register afePl.toNat ≠ bank'.register afe' := by
        intro h
        obtain ⟨hbank, hafes⟩ := Bank.register_inj hafe hafe' h
        exact hother ⟨hbank.symm, hafes.symm⟩
      rw [pairOf, hwrites, dacContent_append_of_ne _ _ hregister, hhalves bank']
      rcases eq_or_ne bank' bank with rfl | hbank
      · have hne : afe' ≠ afePl.toNat := fun h ↦ hother ⟨rfl, h⟩
        rw [halves_storeHalves_self, halfAt_withHalf_of_ne _ _ hafe hchannel hne]
        rfl
      · rw [halves_storeHalves_of_ne hbank]
        rfl
  · exact wp_mono hvalid (fun _ _ hv ↦ absurd hv.2 h) fun _ _ _ ↦ trivial

/-! ## Commands -/

/-- What a command does to one pair. -/
def applyTo (command : RpuWireCommand) (bank : Bank) (afe : ℕ) (pair : Pair) : Pair :=
  let half := halfFor command.value.toUInt16 (command.flags != 0)
  if bank.setOp ≠ command.op then pair
  else match command.target with
    | .channel =>
      if afe = command.afePl.toNat then
        pair.write command.afeChannel.toNat (half command.afeChannel.toNat)
      else pair
    | .afe => if afe = command.afePl.toNat then pair.writeUpTo half channelsPerAfe else pair
    | .all => pair.writeUpTo half channelsPerAfe
    | .none => pair

/-- A loop over the first numbers with a counted invariant. -/
theorem wp_forM_upTo {σ ε : Type} {f : UInt8 → Prog ε σ PUnit} {E : Abort ε → σ → Prop} {n : ℕ}
    (inv : ℕ → σ → Prop)
    (step : ∀ i < n, ∀ s, inv i s → wp (f (UInt8.ofNat i)) (fun _ t ↦ inv (i + 1) t) E s) {s : σ}
    (h : inv 0 s) : wp ((upTo n).forM f) (fun _ t ↦ inv n t) E s := by
  have hloop := wp_forM (f := f) (E := E) (fun visited ↦ inv visited.length) (upTo n)
    (fun visited i rest s hsplit hs ↦ ?_) (s := s) h
  · simpa [upTo] using hloop
  · have hi : (upTo n)[visited.length]? = some i := by simp [hsplit]
    obtain ⟨hlt, hget⟩ := List.getElem?_eq_some_iff.mp hi
    have hlt' : visited.length < n := by simpa [upTo] using hlt
    have hi' : i = UInt8.ofNat visited.length := by rw [← hget]; simp [upTo]
    rw [hi', List.length_append]
    exact step _ hlt' s hs

/-- All channels of one AFE. -/
theorem wp_writeAfe (bank : Bank) (afePl : UInt8) (value : UInt16) (gain : Bool)
    (s : AfeMmioBackend (Traced I)) :
    wp ((upTo channelsPerAfe).forM fun afeChannel ↦
        writeTrimOrOffsetChannel bank.setOp afePl afeChannel value gain)
      (fun _ t ↦ pairOf t bank afePl.toNat =
          (pairOf s bank afePl.toNat).writeUpTo (halfFor value gain) channelsPerAfe ∧
        ∀ bank' afe', afe' < afeCount → ¬ (bank' = bank ∧ afe' = afePl.toNat) →
          pairOf t bank' afe' = pairOf s bank' afe')
      (fun _ _ ↦ True) s := by
  refine wp_forM_upTo (fun count t ↦ pairOf t bank afePl.toNat =
      (pairOf s bank afePl.toNat).writeUpTo (halfFor value gain) count ∧
    ∀ bank' afe', afe' < afeCount → ¬ (bank' = bank ∧ afe' = afePl.toNat) →
      pairOf t bank' afe' = pairOf s bank' afe') ?_ ⟨rfl, fun _ _ _ _ ↦ rfl⟩
  rintro i hi t ⟨hpair, hothers⟩
  have hi' : (UInt8.ofNat i).toNat = i := by
    change i < 8 at hi
    rw [UInt8.toNat_ofNat', Nat.mod_eq_of_lt (by omega)]
  refine wp_mono (wp_writeTrimOrOffsetChannel_pair bank afePl _ value gain t)
    (fun _ t' ht' ↦ ?_) fun _ _ h ↦ h
  obtain ⟨-, hwritten, hkept⟩ := ht'
  rw [hi', hpair] at hwritten
  refine ⟨?_, fun bank' afe' hafe' hne ↦ ?_⟩
  · rw [hwritten, Pair.writeUpTo_succ]
  · rw [hkept bank' afe' hafe' hne, hothers bank' afe' hafe' hne]

/-- A command that sets trims or offsets does to every pair what `applyTo` says. -/
theorem wp_writeChannelScalar {bank : Bank} {command : RpuWireCommand}
    (hop : command.op = bank.setOp) (s : AfeMmioBackend (Traced I)) :
    wp (writeChannelScalar command)
      (fun _ t ↦ (command.value.toNat < 4096 ∧ (command.target = .channel →
          command.afePl.toNat < afeCount ∧ command.afeChannel.toNat < channelsPerAfe)) ∧
        ∀ bank' afe, afe < afeCount →
          pairOf t bank' afe = applyTo command bank' afe (pairOf s bank' afe))
      (fun _ _ ↦ True) s := by
  have happly_other : ∀ bank' afe pair, bank' ≠ bank → applyTo command bank' afe pair = pair := by
    intro bank' afe pair hne
    have hop' : bank'.setOp ≠ command.op := by
      rw [hop]
      cases bank <;> cases bank' <;> first | exact absurd rfl hne | decide
    simp [applyTo, hop']
  unfold writeChannelScalar
  rw [wp_bind, wp_ofResult]
  refine ⟨fun value hvalue ↦ ?_, fun _ _ ↦ trivial⟩
  obtain ⟨hlt, rfl⟩ := require12bit_eq_ok_iff.mp hvalue
  rw [wp_bind]
  unfold writeTargets
  rw [hop]
  cases htarget : command.target with
  | none => trivial
  | channel =>
    refine wp_mono (wp_writeTrimOrOffsetChannel_pair bank _ _ _ _ s)
      (fun _ t ht ↦ ⟨⟨hlt, fun _ ↦ ht.1⟩, fun bank' afe hafe ↦ ?_⟩) fun _ _ h ↦ h
    obtain ⟨-, hwritten, hkept⟩ := ht
    by_cases hself : bank' = bank ∧ afe = command.afePl.toNat
    · obtain ⟨rfl, rfl⟩ := hself
      simpa [applyTo, hop, htarget] using hwritten
    · rw [hkept bank' afe hafe hself]
      rcases eq_or_ne bank' bank with rfl | hbank
      · have hne : afe ≠ command.afePl.toNat := fun h ↦ hself ⟨rfl, h⟩
        simp [applyTo, hop, htarget, hne]
      · rw [happly_other bank' afe _ hbank]
  | afe =>
    dsimp only
    rw [wp_bind, wp_ofResult]
    refine ⟨fun _ _ ↦ ?_, fun _ _ ↦ trivial⟩
    refine wp_mono (wp_writeAfe bank _ _ _ s)
      (fun _ t ht ↦ ⟨⟨hlt, nofun⟩, fun bank' afe hafe ↦ ?_⟩) fun _ _ h ↦ h
    obtain ⟨hwritten, hkept⟩ := ht
    by_cases hself : bank' = bank ∧ afe = command.afePl.toNat
    · obtain ⟨rfl, rfl⟩ := hself
      simpa [applyTo, hop, htarget] using hwritten
    · rw [hkept bank' afe hafe hself]
      rcases eq_or_ne bank' bank with rfl | hbank
      · have hne : afe ≠ command.afePl.toNat := fun h ↦ hself ⟨rfl, h⟩
        simp [applyTo, hop, htarget, hne]
      · rw [happly_other bank' afe _ hbank]
  | all =>
    have hloop := wp_forM_upTo (n := afeCount) (s := s) (E := fun _ _ ↦ True)
      (f := fun afePl ↦ (upTo channelsPerAfe).forM fun afeChannel ↦
        writeTrimOrOffsetChannel bank.setOp afePl afeChannel command.value.toUInt16
          (command.flags != 0))
      (fun count t ↦ ∀ bank' afe, afe < afeCount → pairOf t bank' afe =
        if afe < count then applyTo command bank' afe (pairOf s bank' afe)
        else pairOf s bank' afe) ?_ (fun _ _ _ ↦ rfl)
    · refine wp_mono hloop (fun _ t ht ↦ ⟨⟨hlt, nofun⟩, fun bank' afe hafe ↦ ?_⟩) fun _ _ h ↦ h
      rw [ht bank' afe hafe, if_pos hafe]
    · intro i hi t ht
      have hi' : (UInt8.ofNat i).toNat = i := by
        change i < 5 at hi
        rw [UInt8.toNat_ofNat', Nat.mod_eq_of_lt (by omega)]
      refine wp_mono (wp_writeAfe bank _ _ _ t) (fun _ t' ht' bank' afe hafe ↦ ?_) fun _ _ h ↦ h
      rw [hi'] at ht'
      obtain ⟨hwritten, hkept⟩ := ht'
      by_cases hself : bank' = bank ∧ afe = i
      · obtain ⟨rfl, rfl⟩ := hself
        rw [hwritten, ht bank' afe hi, if_neg (Nat.lt_irrefl afe), if_pos (Nat.lt_succ_self afe)]
        simp [applyTo, hop, htarget]
      · rw [hkept bank' afe hafe hself, ht bank' afe hafe]
        rcases eq_or_ne bank' bank with rfl | hbank
        · have hne : afe ≠ i := fun h ↦ hself ⟨rfl, h⟩
          have hiff : afe < i + 1 ↔ afe < i := by omega
          simp [hiff]
        · simp [happly_other bank' afe _ hbank]

end Pairs

end DaphneSc.Rpu.TrimOffset
