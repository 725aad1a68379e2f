import DaphneSc.Core.AfeFunctions
import DaphneSc.Core.AfeHw
import DaphneSc.Core.RpuWireCodec
import DaphneSc.Program.Checks
import Mathlib.Tactic.IntervalCases
import Mathlib.Order.Nat

/-!
# The shared functions with their run-time checks

The definitions of the register map, the function table and the wire format say which values the
functions of the source have. A program that calls these functions on the device also makes their
run-time checks: an index, a slice, a sum or a shift out of range stops it. These are the functions
as such a program calls them, each followed by the value it is proved to have on every input.
-/

namespace DaphneSc.Core.Checked

open Afe AfeHw AfeFunctions RpuWire Bytes Program

variable {ε σ : Type}

/-! ## Register addresses -/

def afeRegisterOffset (base : UInt32) (afePl : UInt8) : Prog ε σ (Option UInt32) :=
  if afePl.toNat < afeCount then do
    let distance ← checkedMul afeRegisterStride afePl.toUInt32
    return some (← checkedAdd base distance)
  else
    return none

def frontendRegisterOffset (base : UInt32) (afeBoard : UInt8) : Prog ε σ (Option UInt32) :=
  if afeBoard.toNat < afeCount then do
    let distance ← checkedMul frontendAfeStride afeBoard.toUInt32
    return some (← checkedAdd base distance)
  else
    return none

def afeControlOffset (afePl : UInt8) : Prog ε σ (Option UInt32) :=
  afeRegisterOffset afeControlBaseOffset afePl

def afeDacTrimOffset (afePl : UInt8) : Prog ε σ (Option UInt32) :=
  afeRegisterOffset afeDacTrimBaseOffset afePl

def afeDacOffsetOffset (afePl : UInt8) : Prog ε σ (Option UInt32) :=
  afeRegisterOffset afeDacOffsetBaseOffset afePl

def frontendDelayOffset (afeBoard : UInt8) : Prog ε σ (Option UInt32) :=
  frontendRegisterOffset frontendDelayBaseOffset afeBoard

def frontendBitslipOffset (afeBoard : UInt8) : Prog ε σ (Option UInt32) :=
  frontendRegisterOffset frontendBitslipBaseOffset afeBoard

def spyBufferChannelOffset (afeBoard channel : UInt8) (sample : UInt32) :
    Prog ε σ (Option UInt32) :=
  if afeBoard.toNat < afeCount ∧ channel ≤ spyBufferFrameClockChannel then do
    let board ← checkedMul spyBufferAfeStride afeBoard.toUInt32
    let offset ← checkedAdd spyBufferBaseOffset board
    let line ← checkedMul spyBufferChannelStride channel.toUInt32
    let offset ← checkedAdd offset line
    let word ← checkedMul sample 4
    return some (← checkedAdd offset word)
  else
    return none

def spyBufferFrameClockOffset (afeBoard : UInt8) (sample : UInt32) : Prog ε σ (Option UInt32) :=
  spyBufferChannelOffset afeBoard spyBufferFrameClockChannel sample

section Offsets

variable {base stride : UInt32}

/-- A table with a row for each AFE lies within the register window. -/
theorem strided_eq {afe : UInt8} (hafe : afe.toNat < afeCount)
    (hbase : base.toNat < 2 ^ 31) (hstride : stride.toNat < 2 ^ 28) :
    (checkedMul stride afe.toUInt32 >>= fun distance ↦ checkedAdd base distance :
      Prog ε σ UInt32) = pure (base + stride * afe.toUInt32) := by
  have hlt : afe.toNat < 5 := hafe
  have hword : afe.toUInt32.toNat = afe.toNat := UInt8.toNat_toUInt32 afe
  have hproduct : stride.toNat * afe.toNat < 2 ^ 31 := by
    calc stride.toNat * afe.toNat
        ≤ stride.toNat * 4 := Nat.mul_le_mul_left _ (by omega)
      _ < 2 ^ 31 := by omega
  have hmul : stride.toNat * afe.toUInt32.toNat < 2 ^ 32 := by
    rw [hword]
    omega
  have hvalue : (stride * afe.toUInt32).toNat = stride.toNat * afe.toNat := by
    rw [UInt32.toNat_mul, hword, Nat.mod_eq_of_lt (by omega)]
  have hadd : base.toNat + (stride * afe.toUInt32).toNat < 2 ^ 32 := by
    rw [hvalue]
    omega
  calc (checkedMul stride afe.toUInt32 >>= fun distance ↦ checkedAdd base distance :
        Prog ε σ UInt32)
      = (pure (stride * afe.toUInt32) >>= fun distance ↦ checkedAdd base distance) := by
        rw [checkedMul_of_lt _ _ hmul]
    _ = checkedAdd base (stride * afe.toUInt32) := pure_bind _ _
    _ = pure (base + stride * afe.toUInt32) := checkedAdd_of_lt _ _ hadd

theorem afeRegisterOffset_eq {afePl : UInt8} (hbase : base.toNat < 2 ^ 31) :
    (afeRegisterOffset base afePl : Prog ε σ (Option UInt32)) =
      pure (AfeHw.afeRegisterOffset base afePl) := by
  unfold afeRegisterOffset AfeHw.afeRegisterOffset
  by_cases hafe : afePl.toNat < afeCount
  · rw [if_pos hafe, if_pos hafe]
    have hstride : afeRegisterStride.toNat < 2 ^ 28 := by decide
    have h := strided_eq (ε := ε) (σ := σ) hafe hbase hstride
    simpa using congrArg (fun m ↦ m >>= fun offset ↦ pure (some offset)) h
  · rw [if_neg hafe, if_neg hafe]

theorem frontendRegisterOffset_eq {afeBoard : UInt8} (hbase : base.toNat < 2 ^ 31) :
    (frontendRegisterOffset base afeBoard : Prog ε σ (Option UInt32)) =
      pure (AfeHw.frontendRegisterOffset base afeBoard) := by
  unfold frontendRegisterOffset AfeHw.frontendRegisterOffset
  by_cases hafe : afeBoard.toNat < afeCount
  · rw [if_pos hafe, if_pos hafe]
    have hstride : frontendAfeStride.toNat < 2 ^ 28 := by decide
    have h := strided_eq (ε := ε) (σ := σ) hafe hbase hstride
    simpa using congrArg (fun m ↦ m >>= fun offset ↦ pure (some offset)) h
  · rw [if_neg hafe, if_neg hafe]

end Offsets

@[simp] theorem afeControlOffset_eq (afePl : UInt8) :
    (afeControlOffset afePl : Prog ε σ (Option UInt32)) = pure (AfeHw.afeControlOffset afePl) :=
  afeRegisterOffset_eq (by decide)

@[simp] theorem afeDacTrimOffset_eq (afePl : UInt8) :
    (afeDacTrimOffset afePl : Prog ε σ (Option UInt32)) = pure (AfeHw.afeDacTrimOffset afePl) :=
  afeRegisterOffset_eq (by decide)

@[simp] theorem afeDacOffsetOffset_eq (afePl : UInt8) :
    (afeDacOffsetOffset afePl : Prog ε σ (Option UInt32)) =
      pure (AfeHw.afeDacOffsetOffset afePl) :=
  afeRegisterOffset_eq (by decide)

@[simp] theorem frontendDelayOffset_eq (afeBoard : UInt8) :
    (frontendDelayOffset afeBoard : Prog ε σ (Option UInt32)) =
      pure (AfeHw.frontendDelayOffset afeBoard) :=
  frontendRegisterOffset_eq (by decide)

@[simp] theorem frontendBitslipOffset_eq (afeBoard : UInt8) :
    (frontendBitslipOffset afeBoard : Prog ε σ (Option UInt32)) =
      pure (AfeHw.frontendBitslipOffset afeBoard) :=
  frontendRegisterOffset_eq (by decide)

/-- Only the first word of a channel is read; far enough from it the address would overflow. -/
theorem spyBufferFrameClockOffset_eq (afeBoard : UInt8) :
    (spyBufferFrameClockOffset afeBoard 0 : Prog ε σ (Option UInt32)) =
      pure (AfeHw.spyBufferFrameClockOffset afeBoard 0) := by
  unfold spyBufferFrameClockOffset AfeHw.spyBufferFrameClockOffset spyBufferChannelOffset
    AfeHw.spyBufferChannelOffset
  by_cases hafe : afeBoard.toNat < afeCount ∧ spyBufferFrameClockChannel ≤
    spyBufferFrameClockChannel
  · rw [if_pos hafe, if_pos hafe]
    obtain ⟨board, hboard, rfl⟩ : ∃ board, board < 5 ∧ afeBoard = UInt8.ofNat board :=
      ⟨afeBoard.toNat, hafe.1, (UInt8.ofNat_toNat).symm⟩
    interval_cases board <;> rfl
  · rw [if_neg hafe, if_neg hafe]

def dacCompanionChannel (channel : UInt8) : Prog ε σ (Option UInt8) :=
  if channel < 4 then do
    return some (← checkedAdd channel 4)
  else if channel < 8 then do
    return some (← checkedSub channel 4)
  else
    return none

@[simp] theorem dacCompanionChannel_eq (channel : UInt8) :
    (dacCompanionChannel channel : Prog ε σ (Option UInt8)) =
      pure (AfeHw.dacCompanionChannel channel) := by
  unfold dacCompanionChannel AfeHw.dacCompanionChannel
  by_cases hlow : channel < 4
  · have hlt : channel.toNat < 4 := UInt8.lt_iff_toNat_lt.mp hlow
    have hadd : channel.toNat + 4 < 2 ^ 8 := by omega
    rw [if_pos hlow, if_pos hlow, checkedAdd_of_lt _ _ hadd, pure_bind]
  · rw [if_neg hlow, if_neg hlow]
    by_cases hhigh : channel < 8
    · have hle : 4 ≤ channel.toNat := UInt8.le_iff_toNat_le.mp (UInt8.not_lt.mp hlow)
      rw [if_pos hhigh, if_pos hhigh, checkedSub_of_le _ _ hle, pure_bind]
    · rw [if_neg hhigh, if_neg hhigh]

/-! ## Function fields -/

def mask (field : AfeBitField) : Prog AfeFunctionError σ UInt16 := do
  failIf (field.msb < field.lsb ∨ field.msb ≥ 16) .invalidBitField
  let difference ← checkedSub field.msb field.lsb
  let width ← checkedAdd difference 1
  let bound ← checkedShl (1 : UInt32) width.toUInt32
  let ones ← checkedSub bound 1
  let mask ← checkedShl ones field.lsb.toUInt32
  return mask.toUInt16

def replaceAfeFunctionBits (registerValue : UInt16) (field : AfeBitField) (value : UInt16) :
    Prog AfeFunctionError σ UInt16 := do
  let mask ← mask field
  let shifted ← checkedShl value field.lsb.toUInt16
  return (registerValue &&& ~~~mask) ||| (shifted &&& mask)

def extractAfeFunctionBits (registerValue : UInt16) (field : AfeBitField) :
    Prog AfeFunctionError σ UInt16 := do
  let mask ← mask field
  checkedShr (registerValue &&& mask) field.lsb.toUInt16

/-- A power of two below the width leaves something to take one from. -/
theorem one_le_shiftLeft {distance : UInt32} (h : distance.toNat < 32) :
    1 ≤ ((1 : UInt32) <<< distance).toNat := by
  rw [UInt32.toNat_shiftLeft, Nat.mod_eq_of_lt h]
  change 1 ≤ 1 <<< distance.toNat % 2 ^ 32
  rw [Nat.one_shiftLeft, Nat.mod_eq_of_lt (Nat.pow_lt_pow_right (by omega) h)]
  exact Nat.one_le_two_pow

theorem mask_eq (field : AfeBitField) :
    (mask field : Prog AfeFunctionError σ UInt16) = ofResult field.mask := by
  unfold mask AfeBitField.mask failIf
  by_cases h : field.msb < field.lsb ∨ field.msb ≥ 16
  · rw [if_pos h, if_pos h, fail_bind, ofResult_error]
  · rw [if_neg h, if_neg h, pure_bind, ofResult_ok]
    obtain ⟨hle, hmsb⟩ := not_or.mp h
    have hlow : field.lsb.toNat ≤ field.msb.toNat := UInt8.le_iff_toNat_le.mp (UInt8.not_lt.mp hle)
    have hhigh : field.msb.toNat < 16 := UInt8.lt_iff_toNat_lt.mp (UInt8.not_le.mp hmsb)
    have hdifference : (field.msb - field.lsb).toNat = field.msb.toNat - field.lsb.toNat :=
      UInt8.toNat_sub_of_le _ _ (UInt8.not_lt.mp hle)
    have hadd : (field.msb - field.lsb).toNat + 1 < 2 ^ 8 := by omega
    have hwidth : (field.msb - field.lsb + 1).toNat = field.msb.toNat - field.lsb.toNat + 1 := by
      rw [UInt8.toNat_add, hdifference]
      exact Nat.mod_eq_of_lt (by change _ + 1 < 256; omega)
    have hshift : (field.msb - field.lsb + 1).toUInt32.toNat < 32 := by
      rw [UInt8.toNat_toUInt32, hwidth]
      omega
    have hlsb : field.lsb.toUInt32.toNat < 32 := by
      rw [UInt8.toNat_toUInt32]
      omega
    rw [checkedSub_of_le _ _ hlow, pure_bind, checkedAdd_of_lt _ _ hadd, pure_bind,
      checkedShl_of_lt _ _ hshift, pure_bind, checkedSub_of_le _ _ (one_le_shiftLeft hshift),
      pure_bind, checkedShl_of_lt _ _ hlsb, pure_bind]

/-- A field that has a mask starts within a register. -/
theorem lsb_lt_of_mask {field : AfeBitField} {mask : UInt16} (h : field.mask = .ok mask) :
    field.lsb.toUInt16.toNat < 16 := by
  unfold AfeBitField.mask at h
  split at h
  · cases h
  · rename_i hfield
    obtain ⟨hle, hmsb⟩ := not_or.mp hfield
    have hlow : field.lsb.toNat ≤ field.msb.toNat := UInt8.le_iff_toNat_le.mp (UInt8.not_lt.mp hle)
    have hhigh : field.msb.toNat < 16 := UInt8.lt_iff_toNat_lt.mp (UInt8.not_le.mp hmsb)
    rw [UInt8.toNat_toUInt16]
    omega

theorem replaceAfeFunctionBits_eq (registerValue : UInt16) (field : AfeBitField)
    (value : UInt16) :
    (replaceAfeFunctionBits registerValue field value : Prog AfeFunctionError σ UInt16) =
      ofResult (AfeFunctions.replaceAfeFunctionBits registerValue field value) := by
  unfold replaceAfeFunctionBits AfeFunctions.replaceAfeFunctionBits
  rw [mask_eq]
  cases hmask : field.mask with
  | error e => rfl
  | ok mask =>
    rw [ofResult_ok, pure_bind, checkedShl_of_lt _ _ (lsb_lt_of_mask hmask), pure_bind]
    rfl

theorem extractAfeFunctionBits_eq (registerValue : UInt16) (field : AfeBitField) :
    (extractAfeFunctionBits registerValue field : Prog AfeFunctionError σ UInt16) =
      ofResult (AfeFunctions.extractAfeFunctionBits registerValue field) := by
  unfold extractAfeFunctionBits AfeFunctions.extractAfeFunctionBits
  rw [mask_eq]
  cases hmask : field.mask with
  | error e => rfl
  | ok mask =>
    rw [ofResult_ok, pure_bind, checkedShr_of_lt _ _ (lsb_lt_of_mask hmask)]
    rfl

/-! ## Frames -/

/-- The number in `n` bytes, each of them read by its index. -/
def getLe (n : ℕ) (input : List UInt8) (offset : ℕ) : Prog ε σ ℕ := do
  let bytes ← (List.range n).mapM fun i ↦ checkedIndex input (offset + i)
  return ofLe bytes

def getU16 (input : List UInt8) (offset : ℕ) : Prog ε σ UInt16 :=
  UInt16.ofNat <$> getLe 2 input offset

def getU32 (input : List UInt8) (offset : ℕ) : Prog ε σ UInt32 :=
  UInt32.ofNat <$> getLe 4 input offset

def getU64 (input : List UInt8) (offset : ℕ) : Prog ε σ UInt64 :=
  UInt64.ofNat <$> getLe 8 input offset

def decode (input : List UInt8) : Prog RpuWireError σ RpuWireCommand := do
  failIf (input.length ≠ rpuWireCommandLen) (.badLength rpuWireCommandLen input.length)
  let magic ← getU32 input 0
  failIf (magic ≠ rpuWireMagic) (.badMagic magic)
  let abi ← getU16 input 4
  failIf (abi ≠ rpuWireAbiVersion) (.badAbi abi)
  let sequence ← getU64 input 8
  let op ← ofResult (RpuWireOp.tryFrom (← getU16 input 6))
  let target ← ofResult (RpuWireTarget.tryFrom (← checkedIndex input 16))
  let afeBoard ← checkedIndex input 17
  let afePl ← checkedIndex input 18
  let channel ← checkedIndex input 19
  let afeChannel ← checkedIndex input 20
  let register ← getU16 input 22
  let value ← getU32 input 24
  let flags ← getU32 input 28
  let payload ← checkedArray rpuWirePayloadLen (← checkedSlice input 32 64)
  return {
    sequence, op, target, afeBoard, afePl, channel, afeChannel, register, value, flags, payload }

def functionName (command : RpuWireCommand) : Prog RpuWireError σ String := do
  ofResult (requireOp command.op .writeFunction)
  let length := (← checkedIndex command.payload.toList 0).toNat
  failIf (length = 0 ∨ length > rpuWireFunctionNameMax)
    (.badPayload "invalid AFE function name length")
  let bytes ← checkedSlice command.payload.toList 1 (1 + length)
  okOr (String.fromUTF8? bytes.toByteArray) (.badPayload "AFE function name is not UTF-8")

def put {n : ℕ} (out : Vector UInt8 n) (field : Field) : Prog ε σ (Vector UInt8 n) :=
  checked (field.1 + field.2.length ≤ n) (Bytes.put out field.1 field.2)

def encode (reply : RpuWireReply) : Prog ε σ (Vector UInt8 rpuWireReplyLen) :=
  reply.fields.foldlM put (Vector.replicate rpuWireReplyLen 0)

theorem mapM_checkedIndex {input : List UInt8} {offset n : ℕ} (h : offset + n ≤ input.length) :
    ((List.range n).mapM fun i ↦ (checkedIndex input (offset + i) : Prog ε σ UInt8)) =
      pure (slice input offset n) := by
  induction n with
  | zero => simp [slice]
  | succ n ih =>
    have hlast : slice input offset (n + 1) = slice input offset n ++ [input[offset + n]] := by
      rw [slice, slice, List.take_add_one, List.getElem?_drop, List.getElem?_eq_getElem (by omega)]
      rfl
    rw [List.range_succ, List.mapM_append, ih (by omega), pure_bind, List.mapM_cons,
      checkedIndex_of_lt (by omega), hlast]
    rfl

theorem getLe_eq {input : List UInt8} {offset n : ℕ} (h : offset + n ≤ input.length) :
    (getLe n input offset : Prog ε σ ℕ) = pure (ofLe (slice input offset n)) := by
  rw [getLe, mapM_checkedIndex h, pure_bind]

section Reads

variable {input : List UInt8}

theorem getU16_eq (offset : ℕ) (h : offset + 2 ≤ input.length) :
    (getU16 input offset : Prog ε σ UInt16) = pure (RpuWire.getU16 input offset) := by
  rw [getU16, getLe_eq h, map_pure, RpuWire.getU16]

theorem getU32_eq (offset : ℕ) (h : offset + 4 ≤ input.length) :
    (getU32 input offset : Prog ε σ UInt32) = pure (RpuWire.getU32 input offset) := by
  rw [getU32, getLe_eq h, map_pure, RpuWire.getU32]

theorem getU64_eq (offset : ℕ) (h : offset + 8 ≤ input.length) :
    (getU64 input offset : Prog ε σ UInt64) = pure (RpuWire.getU64 input offset) := by
  rw [getU64, getLe_eq h, map_pure, RpuWire.getU64]

theorem checkedIndex_eq_getU8 (offset : ℕ) (h : offset < input.length) :
    (checkedIndex input offset : Prog ε σ UInt8) = pure (RpuWire.getU8 input offset) := by
  rw [checkedIndex_of_lt h, RpuWire.getU8, List.getD_eq_getElem?_getD, List.getElem?_eq_getElem h,
    Option.getD_some]

theorem payload_eq (h : input.length = rpuWireCommandLen) :
    (checkedSlice input 32 64 >>= checkedArray rpuWirePayloadLen : Prog ε σ Payload) =
      pure (Vector.ofFn fun i ↦ RpuWire.getU8 input (32 + i)) := by
  have hslice : 32 + rpuWirePayloadLen ≤ input.length := h.ge
  have hlength : ((input.drop 32).take rpuWirePayloadLen).length = rpuWirePayloadLen :=
    length_slice hslice
  rw [show 64 = 32 + rpuWirePayloadLen from rfl, checkedSlice_of_le hslice, pure_bind,
    checkedArray_of_length hlength]
  refine congrArg pure (Vector.ext fun i hi ↦ ?_)
  have hlt : 32 + i < input.length := by
    rw [h]
    exact Nat.add_lt_add_left hi 32
  rw [Vector.getElem_ofFn, RpuWire.getU8, List.getD_eq_getElem?_getD,
    List.getElem?_eq_getElem hlt, Option.getD_some]
  simp

end Reads

/-- Decoding reads 64 bytes, all of them within their bounds. -/
theorem decode_eq (input : List UInt8) :
    (decode input : Prog RpuWireError σ RpuWireCommand) =
      ofResult (RpuWireCommand.decode input) := by
  unfold decode RpuWireCommand.decode failIf
  by_cases hlength : input.length = 64
  · rw [if_neg (not_not.mpr hlength), if_neg (not_not.mpr hlength), pure_bind,
      getU32_eq 0 (by omega), pure_bind]
    by_cases hmagic : RpuWire.getU32 input 0 = rpuWireMagic
    · rw [if_neg (not_not.mpr hmagic), if_neg (not_not.mpr hmagic), pure_bind,
        getU16_eq 4 (by omega), pure_bind]
      by_cases habi : RpuWire.getU16 input 4 = rpuWireAbiVersion
      · rw [if_neg (not_not.mpr habi), if_neg (not_not.mpr habi), pure_bind,
          getU64_eq 8 (by omega), pure_bind, getU16_eq 6 (by omega), pure_bind]
        cases RpuWireOp.tryFrom (RpuWire.getU16 input 6) with
        | error e => rfl
        | ok op =>
          rw [ofResult_ok, pure_bind, checkedIndex_eq_getU8 16 (by omega), pure_bind]
          cases RpuWireTarget.tryFrom (RpuWire.getU8 input 16) with
          | error e => rfl
          | ok target =>
            rw [ofResult_ok, pure_bind, checkedIndex_eq_getU8 17 (by omega), pure_bind,
              checkedIndex_eq_getU8 18 (by omega), pure_bind,
              checkedIndex_eq_getU8 19 (by omega), pure_bind,
              checkedIndex_eq_getU8 20 (by omega), pure_bind,
              getU16_eq 22 (by omega), pure_bind, getU32_eq 24 (by omega), pure_bind,
              getU32_eq 28 (by omega), pure_bind, ← bind_assoc, payload_eq hlength, pure_bind]
            rfl
      · rw [if_pos habi, if_pos habi]
        rfl
    · rw [if_pos hmagic, if_pos hmagic]
      rfl
  · rw [if_pos hlength, if_pos hlength]
    rfl

theorem functionName_eq (command : RpuWireCommand) :
    (functionName command : Prog RpuWireError σ String) = ofResult command.functionName := by
  have hindex : (checkedIndex command.payload.toList 0 : Prog RpuWireError σ UInt8) =
      pure command.payload[0] := by
    have hlength : 0 < command.payload.toList.length := by
      rw [Vector.length_toList]
      decide
    rw [checkedIndex_of_lt hlength, Vector.getElem_toList]
  unfold functionName RpuWireCommand.functionName failIf
  cases requireOp command.op .writeFunction with
  | error e => rfl
  | ok u =>
    rw [ofResult_ok, pure_bind, hindex, pure_bind]
    by_cases hlength : command.payload[0].toNat = 0 ∨
        command.payload[0].toNat > rpuWireFunctionNameMax
    · dsimp only
      rw [if_pos hlength]
      simp only [bind, Except.bind, if_pos hlength]
      rfl
    · have hbound : 1 + command.payload[0].toNat ≤ command.payload.toList.length := by
        have hmax : ¬ command.payload[0].toNat > 31 := (not_or.mp hlength).2
        rw [Vector.length_toList]
        change _ ≤ 32
        omega
      dsimp only
      rw [if_neg hlength, pure_bind, checkedSlice_of_le hbound, pure_bind]
      simp only [bind, Except.bind, if_neg hlength, slice]
      cases String.fromUTF8? ((command.payload.toList.drop 1).take
        command.payload[0].toNat).toByteArray with
      | none => rfl
      | some name => rfl

theorem foldlM_put {n : ℕ} (fields : List Field)
    (h : ∀ field ∈ fields, field.1 + field.2.length ≤ n) (out : Vector UInt8 n) :
    (fields.foldlM put out : Prog ε σ (Vector UInt8 n)) = pure (putFields out fields) := by
  induction fields generalizing out with
  | nil => rfl
  | cons field fields ih =>
    rw [List.foldlM_cons, put, checked_of (h field List.mem_cons_self), pure_bind,
      ih fun f hf ↦ h f (List.mem_cons_of_mem _ hf)]
    rfl

@[simp] theorem encode_eq (reply : RpuWireReply) :
    (encode reply : Prog ε σ (Vector UInt8 rpuWireReplyLen)) = pure reply.encode := by
  have hfields : ∀ field ∈ reply.fields, field.1 + field.2.length ≤ 64 := by
    simp [RpuWireReply.fields]
  have hencode : putFields (Vector.replicate rpuWireReplyLen 0) reply.fields = reply.encode := by
    unfold RpuWireReply.encode
    rfl
  rw [← hencode]
  exact foldlM_put _ hfields _

end DaphneSc.Core.Checked
