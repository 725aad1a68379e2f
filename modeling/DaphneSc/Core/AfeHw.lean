import DaphneSc.Core.Afe
import Mathlib.Algebra.Group.Nat.Defs

/-!
# Register map and word formats of the front-end hardware

Offsets are relative to the FPGA register window. A trim or offset register drives two four-channel
DACs at once, so a word for it is a pair of halves, each with its own channel number.
-/

namespace DaphneSc.Core.AfeHw

open Afe

/-! ## Offsets -/

def afeGlobalControlOffset : UInt32 := 0x00000000
def afeControlBaseOffset : UInt32 := 0x00000004
def afeDacTrimBaseOffset : UInt32 := 0x00000008
def afeDacOffsetBaseOffset : UInt32 := 0x0000000C
def afeRegisterStride : UInt32 := 0x0000000C

def dacGainBiasControlOffset : UInt32 := 0x0C000000
def dacGainBiasU50Offset : UInt32 := 0x0C000004
def dacGainBiasU53Offset : UInt32 := 0x0C000008
def dacGainBiasU5Offset : UInt32 := 0x0C00000C
def biasEnableOffset : UInt32 := 0x1400000C

def frontendControlOffset : UInt32 := 0x08000000
def frontendStatusOffset : UInt32 := 0x08000004
def frontendTriggerOffset : UInt32 := 0x08000008
def frontendDelayBaseOffset : UInt32 := 0x0800000C
def frontendBitslipBaseOffset : UInt32 := 0x08000020
def frontendAfeStride : UInt32 := 0x00000004

def spyBufferBaseOffset : UInt32 := 0x10000000
def spyBufferAfeStride : UInt32 := 0x00009000
def spyBufferChannelStride : UInt32 := 0x00001000
def spyBufferFrameClockChannel : UInt8 := 8

/-! ## Control bits and constants -/

def afeGlobalResetBit : UInt8 := 0
def afeGlobalPowerstateBit : UInt8 := 1
def afeGlobalBusyBitsStart : UInt8 := 2
def afeGlobalBusyBitsEnd : UInt8 := 4

def frontendDelayctrlResetBit : UInt8 := 0
def frontendSerdesResetBit : UInt8 := 1
def frontendDelayEnVtcBit : UInt8 := 2
def frontendDelayctrlReadyBit : UInt8 := 0
def frontendTriggerWord : UInt32 := 0x0000BABA
def frontendDelayTaps : UInt32 := 512
def frontendBitslipTaps : UInt32 := 16
def frontendVerifyReads : UInt32 := 4
def frontendExpectedFclkWord : UInt32 := 0x00FF00FF

def afeSpiTriggerWord : UInt32 := 0x00000002
def afeSpiIdleWord : UInt32 := 0x00000000

/-! ## DAC routes -/

inductive DacChip where
  | u50
  | u53
  | u5
  deriving DecidableEq, Repr

structure DacRoute where
  chip : DacChip
  channel : UInt8
  gain : Bool
  buffer : Bool
  deriving DecidableEq, Repr

def DacRoute.new (chip : DacChip) (channel : UInt8) : DacRoute where
  chip := chip
  channel := channel
  gain := false
  buffer := false

def afeGainDacRoutes : Vector DacRoute afeCount :=
  #v[.new .u50 0, .new .u50 1, .new .u50 2, .new .u50 3, .new .u5 1]

def afeBiasDacRoutes : Vector DacRoute afeCount :=
  #v[.new .u53 0, .new .u53 1, .new .u53 2, .new .u53 3, .new .u5 0]

def vbiasDacRoute : DacRoute := .new .u5 2

/-! ## Register addresses -/

def afeRegisterOffset (base : UInt32) (afePl : UInt8) : Option UInt32 :=
  if afePl.toNat < afeCount then some (base + afeRegisterStride * afePl.toUInt32) else none

def frontendRegisterOffset (base : UInt32) (afeBoard : UInt8) : Option UInt32 :=
  if afeBoard.toNat < afeCount then some (base + frontendAfeStride * afeBoard.toUInt32) else none

def afeControlOffset (afePl : UInt8) : Option UInt32 :=
  afeRegisterOffset afeControlBaseOffset afePl

def afeDacTrimOffset (afePl : UInt8) : Option UInt32 :=
  afeRegisterOffset afeDacTrimBaseOffset afePl

def afeDacOffsetOffset (afePl : UInt8) : Option UInt32 :=
  afeRegisterOffset afeDacOffsetBaseOffset afePl

def frontendDelayOffset (afeBoard : UInt8) : Option UInt32 :=
  frontendRegisterOffset frontendDelayBaseOffset afeBoard

def frontendBitslipOffset (afeBoard : UInt8) : Option UInt32 :=
  frontendRegisterOffset frontendBitslipBaseOffset afeBoard

def spyBufferChannelOffset (afeBoard channel : UInt8) (sample : UInt32) : Option UInt32 :=
  if afeBoard.toNat < afeCount ∧ channel ≤ spyBufferFrameClockChannel then
    some (spyBufferBaseOffset + spyBufferAfeStride * afeBoard.toUInt32 +
      spyBufferChannelStride * channel.toUInt32 + sample * 4)
  else
    none

def spyBufferFrameClockOffset (afeBoard : UInt8) (sample : UInt32) : Option UInt32 :=
  spyBufferChannelOffset afeBoard spyBufferFrameClockChannel sample

def dacGainBiasOffset : DacChip → UInt32
  | .u50 => dacGainBiasU50Offset
  | .u53 => dacGainBiasU53Offset
  | .u5 => dacGainBiasU5Offset

theorem afeRegisterOffset_eq_some_iff {base offset : UInt32} {afePl : UInt8} :
    afeRegisterOffset base afePl = some offset ↔
      afePl.toNat < afeCount ∧ base + afeRegisterStride * afePl.toUInt32 = offset := by
  by_cases h : afePl.toNat < afeCount <;> simp [afeRegisterOffset, h]

/-! ## Words -/

def afeRegisterWord (register value : UInt16) : UInt32 :=
  ((register.toUInt32 &&& 0xFF) <<< 16) ||| value.toUInt32

def afeRegisterAddressWord (register : UInt16) : UInt32 :=
  (register.toUInt32 &&& 0xFF) <<< 16

def dacGainBiasWord (route : DacRoute) (value : UInt16) : UInt32 :=
  ((route.channel.toUInt32 &&& 0x03) <<< 14) ||| (route.gain.toUInt32 <<< 13) |||
    (route.buffer.toUInt32 <<< 12) ||| (value.toUInt32 &&& 0x0FFF)

def dacTrimOffsetHalf (channel : UInt8) (value : UInt16) (gain buffer : Bool) : UInt16 :=
  ((channel.toUInt16 &&& 0x03) <<< 14) ||| (gain.toUInt16 <<< 13) |||
    (buffer.toUInt16 <<< 12) ||| (value &&& 0x0FFF)

def dacPairWord (lowHalf highHalf : UInt16) : UInt32 :=
  (highHalf.toUInt32 <<< 16) ||| lowHalf.toUInt32

def dacCompanionChannel (channel : UInt8) : Option UInt8 :=
  if channel < 4 then
    some (channel + 4)
  else if channel < 8 then
    some (channel - 4)
  else
    none

def dacChannelIsHighHalf (channel : UInt8) : Bool :=
  channel ≥ 4

/-! ## Words as numbers -/

/-- Two fields of a word, put together without overlap, add up. -/
theorem or_shiftLeft_eq_add {low width : ℕ} (high : ℕ) (h : low < 2 ^ width) :
    high <<< width ||| low = high * 2 ^ width + low := by
  calc high <<< width ||| low
      = high <<< width + low := (Nat.shiftLeft_add_eq_or_of_lt h high).symm
    _ = high * 2 ^ width + low := by rw [Nat.shiftLeft_eq]

/-- A half word is the channel number, the two mode bits and the value, from the top. -/
theorem toNat_dacTrimOffsetHalf (channel : UInt8) (value : UInt16) (gain buffer : Bool) :
    (dacTrimOffsetHalf channel value gain buffer).toNat =
      channel.toNat % 4 * 16384 + (gain.toNat * 8192 + (buffer.toNat * 4096 +
        value.toNat % 4096)) := by
  have hchannel : (channel.toUInt16 &&& 0x03).toNat = channel.toNat % 4 := by
    rw [UInt16.toNat_and, UInt8.toNat_toUInt16]
    exact Nat.and_two_pow_sub_one_eq_mod channel.toNat 2
  have hvalue : (value &&& 0x0FFF).toNat = value.toNat % 4096 := by
    rw [UInt16.toNat_and]
    exact Nat.and_two_pow_sub_one_eq_mod value.toNat 12
  have hgain := gain.toNat_lt
  have hbuffer := buffer.toNat_lt
  have hgainWord : gain.toUInt16.toNat = gain.toNat := by cases gain <;> rfl
  have hbufferWord : buffer.toUInt16.toNat = buffer.toNat := by cases buffer <;> rfl
  have hchannelField : ((channel.toUInt16 &&& 0x03) <<< 14).toNat = (channel.toNat % 4) <<< 14 := by
    rw [UInt16.toNat_shiftLeft, hchannel, show (14 : UInt16).toNat % 16 = 14 from rfl,
      Nat.shiftLeft_eq]
    omega
  have hgainField : (gain.toUInt16 <<< 13).toNat = gain.toNat <<< 13 := by cases gain <;> rfl
  have hbufferField : (buffer.toUInt16 <<< 12).toNat = buffer.toNat <<< 12 := by
    cases buffer <;> rfl
  rw [dacTrimOffsetHalf, UInt16.toNat_or, UInt16.toNat_or, UInt16.toNat_or, hchannelField,
    hgainField, hbufferField, hvalue, Nat.or_assoc, Nat.or_assoc,
    or_shiftLeft_eq_add buffer.toNat (by omega), or_shiftLeft_eq_add gain.toNat (by omega),
    or_shiftLeft_eq_add (channel.toNat % 4) (by omega),
    show 2 ^ 14 = 16384 from rfl, show 2 ^ 13 = 8192 from rfl, show 2 ^ 12 = 4096 from rfl]

/-- A pair is the high half above the low half. -/
theorem toNat_dacPairWord (lowHalf highHalf : UInt16) :
    (dacPairWord lowHalf highHalf).toNat = highHalf.toNat * 65536 + lowHalf.toNat := by
  have hlow : lowHalf.toNat < 2 ^ 16 := lowHalf.toNat_lt
  have hhigh : highHalf.toNat < 65536 := highHalf.toNat_lt
  have hfield : (highHalf.toUInt32 <<< 16).toNat = highHalf.toNat <<< 16 := by
    rw [UInt32.toNat_shiftLeft, UInt16.toNat_toUInt32, show (16 : UInt32).toNat % 32 = 16 from rfl,
      Nat.shiftLeft_eq]
    omega
  rw [dacPairWord, UInt32.toNat_or, hfield, UInt16.toNat_toUInt32, or_shiftLeft_eq_add _ hlow,
    show 2 ^ 16 = 65536 from rfl]

end DaphneSc.Core.AfeHw
