import Mathlib.Tactic.Common

/-!
# Analog front ends, their channels and the commands on them

The board has five AFEs of eight channels. Software numbers them by board position, the gateware by
`pl` position. `AfeId` and `ChannelId` are built only from an index that was checked, so the
positions they carry are consistent; the fields of the same names say so.
-/

namespace DaphneSc.Core.Afe

abbrev afeCount : ℕ := 5
abbrev channelsPerAfe : ℕ := 8
abbrev channelCount : ℕ := afeCount * channelsPerAfe
abbrev dac12bitMax : UInt16 := 4095

def afeBoardToPl : Vector UInt8 afeCount := #v[0, 4, 3, 2, 1]

inductive AfeValidationError where
  | afeOutOfRange (afe : UInt8)
  | channelOutOfRange (channel : UInt8)
  | valueOutOfRange (value max : UInt16)
  deriving DecidableEq, Repr

/-! ## Identifiers -/

structure AfeId where
  board : UInt8
  pl : UInt8
  mapped : afeBoardToPl[board.toNat]? = some pl
  deriving DecidableEq

def AfeId.fromBoard (board : UInt8) : Except AfeValidationError AfeId :=
  match h : afeBoardToPl[board.toNat]? with
  | some pl => .ok ⟨board, pl, h⟩
  | none => .error (.afeOutOfRange board)

structure ChannelId where
  channel : UInt8
  afe : AfeId
  afeChannel : UInt8
  afe_board : afe.board = channel / 8
  afe_channel : afeChannel = channel % 8
  deriving DecidableEq

def ChannelId.new (channel : UInt8) : Except AfeValidationError ChannelId :=
  if channel.toNat ≥ channelCount then
    .error (.channelOutOfRange channel)
  else
    match h : afeBoardToPl[(channel / 8).toNat]? with
    | some pl => .ok ⟨channel, ⟨channel / 8, pl, h⟩, channel % 8, rfl, rfl⟩
    | none => .error (.afeOutOfRange (channel / 8))

namespace AfeId

theorem board_lt (afe : AfeId) : afe.board.toNat < afeCount := by
  have h := afe.mapped
  rw [Vector.getElem?_eq_some_iff] at h
  exact h.1

theorem pl_lt (afe : AfeId) : afe.pl.toNat < afeCount := by
  obtain ⟨hboard, hpl⟩ := Vector.getElem?_eq_some_iff.mp afe.mapped
  have hall : ∀ i, (h : i < afeCount) → afeBoardToPl[i].toNat < afeCount := by decide
  exact hpl ▸ hall _ hboard

/-- The board position is determined by the `pl` position. -/
theorem eq_of_pl_eq {afe afe' : AfeId} (h : afe.pl = afe'.pl) : afe = afe' := by
  obtain ⟨hboard, hpl⟩ := Vector.getElem?_eq_some_iff.mp afe.mapped
  obtain ⟨hboard', hpl'⟩ := Vector.getElem?_eq_some_iff.mp afe'.mapped
  have hinj : ∀ i, (hi : i < afeCount) → ∀ j, (hj : j < afeCount) →
      afeBoardToPl[i] = afeBoardToPl[j] → i = j := by decide
  have hboards : afe.board = afe'.board :=
    UInt8.toNat_inj.mp (hinj _ hboard _ hboard' (by rw [hpl, hpl', h]))
  cases afe
  cases afe'
  simp_all

end AfeId

namespace ChannelId

theorem channel_lt (channel : ChannelId) : channel.channel.toNat < channelCount := by
  have hboard := channel.afe.board_lt
  rw [channel.afe_board, UInt8.toNat_div] at hboard
  change channel.channel.toNat / 8 < 5 at hboard
  change channel.channel.toNat < 40
  omega

theorem afeChannel_lt (channel : ChannelId) : channel.afeChannel.toNat < channelsPerAfe := by
  rw [channel.afe_channel, UInt8.toNat_mod]
  exact Nat.mod_lt _ (by decide)

theorem eq_of_channel_eq {channel channel' : ChannelId} (h : channel.channel = channel'.channel) :
    channel = channel' := by
  obtain ⟨c, ⟨board, pl, mapped⟩, afeChannel, hboard, hchannel⟩ := channel
  obtain ⟨c', ⟨board', pl', mapped'⟩, afeChannel', hboard', hchannel'⟩ := channel'
  simp only at h hboard hchannel hboard' hchannel'
  subst h hboard hchannel hboard' hchannel'
  have hpl : pl = pl' := Option.some.inj (mapped.symm.trans mapped')
  subst hpl
  rfl

/-- A channel is determined by its AFE and its position on it. -/
theorem eq_of_position_eq {channel channel' : ChannelId} (hafe : channel.afe = channel'.afe)
    (hchannel : channel.afeChannel = channel'.afeChannel) : channel = channel' := by
  apply eq_of_channel_eq
  have hdiv : channel.channel / 8 = channel'.channel / 8 := by
    rw [← channel.afe_board, ← channel'.afe_board, hafe]
  have hmod : channel.channel % 8 = channel'.channel % 8 := by
    rw [← channel.afe_channel, ← channel'.afe_channel, hchannel]
  have hdiv' := congrArg UInt8.toNat hdiv
  have hmod' := congrArg UInt8.toNat hmod
  rw [UInt8.toNat_div, UInt8.toNat_div] at hdiv'
  rw [UInt8.toNat_mod, UInt8.toNat_mod] at hmod'
  change channel.channel.toNat / 8 = channel'.channel.toNat / 8 at hdiv'
  change channel.channel.toNat % 8 = channel'.channel.toNat % 8 at hmod'
  apply UInt8.toNat_inj.mp
  omega

end ChannelId

/-- Every board index below the AFE count names an AFE, and no other does. -/
theorem AfeId.fromBoard_eq_ok_iff {board : UInt8} {afe : AfeId} :
    AfeId.fromBoard board = .ok afe ↔ afe.board = board := by
  unfold AfeId.fromBoard
  split
  · rename_i pl hpl
    constructor
    · rintro h
      cases h
      rfl
    · rintro rfl
      have hpl' : pl = afe.pl := Option.some.inj (hpl.symm.trans afe.mapped)
      subst hpl'
      rfl
  · rename_i hnone
    constructor
    · rintro ⟨⟩
    · rintro rfl
      rw [afe.mapped] at hnone
      exact absurd hnone (by simp)

/-- Every channel number below the channel count names a channel, and no other does. -/
theorem ChannelId.new_eq_ok_iff {number : UInt8} {channel : ChannelId} :
    ChannelId.new number = .ok channel ↔ channel.channel = number := by
  constructor
  · intro h
    unfold ChannelId.new at h
    split at h
    · cases h
    · split at h
      · cases h
        rfl
      · cases h
  · rintro rfl
    unfold ChannelId.new
    rw [if_neg (Nat.not_le.mpr channel.channel_lt)]
    split
    · exact congrArg Except.ok (eq_of_channel_eq rfl)
    · rename_i hnone
      rw [← channel.afe_board, channel.afe.mapped] at hnone
      cases hnone

/-! ## Commands -/

inductive ChannelTarget where
  | one (channel : ChannelId)
  | afe (afe : AfeId)
  | all
  deriving DecidableEq

structure AdcConfig where
  resolution : Bool
  outputFormat : Bool
  msbFirst : Bool
  deriving DecidableEq, Repr

structure PgaConfig where
  lpfCutFrequency : UInt8
  integratorDisable : Bool
  gain : Bool
  deriving DecidableEq, Repr

structure LnaConfig where
  clamp : UInt8
  gain : UInt8
  integratorDisable : Bool
  deriving DecidableEq, Repr

structure AfeFrontendConfig where
  afe : AfeId
  attenuation : UInt16
  bias : UInt16
  adc : AdcConfig
  pga : PgaConfig
  lna : LnaConfig
  deriving DecidableEq

structure ChannelFrontendConfig where
  channel : ChannelId
  trim : UInt16
  offset : UInt16
  gain : UInt16
  deriving DecidableEq

inductive AfeCommand where
  | readRegister (afe : AfeId) (register : UInt8)
  | writeRegister (afe : AfeId) (register : UInt8) (value : UInt16)
  | readAttenuation (afe : AfeId)
  | setAttenuation (afe : AfeId) (value : UInt16)
  | readBias (afe : AfeId)
  | setBias (afe : AfeId) (value : UInt16)
  | readTrim (target : ChannelTarget)
  | setTrim (target : ChannelTarget) (value : UInt16) (gain : Bool)
  | readOffset (target : ChannelTarget)
  | setOffset (target : ChannelTarget) (value : UInt16) (gain : Bool)
  | readVbiasControl
  | setVbiasControl (value : UInt16) (enable : Bool)
  | setReset (asserted : Bool)
  | doReset
  | setPowerState (enabled : Bool)
  | writeFunction (afe : AfeId) (name : String) (value : UInt16)
  | readAlignment (afe : AfeId)
  | configureFrontend (afes : List AfeFrontendConfig) (channels : List ChannelFrontendConfig)
      (biasControl : UInt16)
  | align
  deriving DecidableEq

def validate12bit (value : UInt16) : Except AfeValidationError Unit :=
  if value > dac12bitMax then
    .error (.valueOutOfRange value dac12bitMax)
  else
    .ok ()

def AfeCommand.validate : AfeCommand → Except AfeValidationError Unit
  | setAttenuation _ value
  | setBias _ value
  | setTrim _ value _
  | setOffset _ value _
  | setVbiasControl value _ => validate12bit value
  | configureFrontend afes channels biasControl => do
    validate12bit biasControl
    afes.forM fun afe ↦ do
      validate12bit afe.attenuation
      validate12bit afe.bias
    channels.forM fun channel ↦ do
      validate12bit channel.trim
      validate12bit channel.offset
  | _ => .ok ()

end DaphneSc.Core.Afe
