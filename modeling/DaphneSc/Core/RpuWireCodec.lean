import DaphneSc.Core.RpuWire

/-!
# Round trips of the wire format

Every command and every reply is recovered from its 64 bytes. The sub-codes packed inside a frame
(bit flags, pairs of half words, record payloads) are recovered as well.
-/

namespace DaphneSc.Core.RpuWire

open Afe Bytes

/-! ## Codes -/

@[simp] theorem RpuWireOp.tryFrom_toU16 (op : RpuWireOp) : tryFrom op.toU16 = .ok op := by
  cases op <;> rfl

@[simp] theorem RpuWireTarget.tryFrom_toU8 (target : RpuWireTarget) :
    tryFrom target.toU8 = .ok target := by
  cases target <;> rfl

@[simp] theorem RpuWireStatus.tryFrom_toU16 (status : RpuWireStatus) :
    tryFrom status.toU16 = .ok status := by
  cases status <;> rfl

/-! ## Reading a written field -/

section Fields

variable {n : ℕ} {out : Vector UInt8 n} {fields : List Field} {offset : ℕ}

theorem getU16_putFields (hdisjoint : fields.Pairwise Field.Disjoint) {value : UInt16}
    (hmem : (offset, toLe 2 value.toNat) ∈ fields) (hbound : offset + 2 ≤ n) :
    getU16 (putFields out fields).toList offset = value := by
  have hslice : slice (putFields out fields).toList offset (toLe 2 value.toNat).length = _ :=
    slice_putFields hdisjoint hmem (by simpa using hbound)
  rw [length_toLe] at hslice
  rw [getU16, hslice, ofLe_toLe_of_lt value.toNat_lt, UInt16.ofNat_toNat]

theorem getU32_putFields (hdisjoint : fields.Pairwise Field.Disjoint) {value : UInt32}
    (hmem : (offset, toLe 4 value.toNat) ∈ fields) (hbound : offset + 4 ≤ n) :
    getU32 (putFields out fields).toList offset = value := by
  have hslice : slice (putFields out fields).toList offset (toLe 4 value.toNat).length = _ :=
    slice_putFields hdisjoint hmem (by simpa using hbound)
  rw [length_toLe] at hslice
  rw [getU32, hslice, ofLe_toLe_of_lt value.toNat_lt, UInt32.ofNat_toNat]

theorem getU64_putFields (hdisjoint : fields.Pairwise Field.Disjoint) {value : UInt64}
    (hmem : (offset, toLe 8 value.toNat) ∈ fields) (hbound : offset + 8 ≤ n) :
    getU64 (putFields out fields).toList offset = value := by
  have hslice : slice (putFields out fields).toList offset (toLe 8 value.toNat).length = _ :=
    slice_putFields hdisjoint hmem (by simpa using hbound)
  rw [length_toLe] at hslice
  rw [getU64, hslice, ofLe_toLe_of_lt value.toNat_lt, UInt64.ofNat_toNat]

/-- The bytes of a written range are the written bytes. -/
theorem getU8_putFields (hdisjoint : fields.Pairwise Field.Disjoint) {bytes : List UInt8}
    (hmem : (offset, bytes) ∈ fields) (hbound : offset + bytes.length ≤ n) {i : ℕ}
    (hi : i < bytes.length) : getU8 (putFields out fields).toList (offset + i) = bytes[i] := by
  have hslice : slice (putFields out fields).toList offset bytes.length = bytes :=
    slice_putFields hdisjoint hmem hbound
  have hget : (slice (putFields out fields).toList offset bytes.length)[i]? = some bytes[i] := by
    rw [hslice, List.getElem?_eq_getElem hi]
  rw [getElem?_slice, if_pos hi] at hget
  rw [getU8, List.getD_eq_getElem?_getD, hget, Option.getD_some]

theorem getU8_putFields_byte (hdisjoint : fields.Pairwise Field.Disjoint) {byte : UInt8}
    (hmem : (offset, [byte]) ∈ fields) (hbound : offset < n) :
    getU8 (putFields out fields).toList offset = byte :=
  getU8_putFields (i := 0) hdisjoint hmem hbound Nat.one_pos

end Fields

/-! ## Commands -/

namespace RpuWireCommand

theorem fields_disjoint (command : RpuWireCommand) : command.fields.Pairwise Field.Disjoint := by
  simp [fields, Field.Disjoint]

theorem decode_encode (command : RpuWireCommand) :
    decode command.encode.toList = .ok command := by
  have hdisjoint := command.fields_disjoint
  have hmagic : getU32 command.encode.toList 0 = rpuWireMagic := by
    unfold encode
    exact getU32_putFields hdisjoint (by simp [fields]) (by decide)
  have habi : getU16 command.encode.toList 4 = rpuWireAbiVersion := by
    unfold encode
    exact getU16_putFields hdisjoint (by simp [fields]) (by decide)
  have hop : getU16 command.encode.toList 6 = command.op.toU16 := by
    unfold encode
    exact getU16_putFields hdisjoint (by simp [fields]) (by decide)
  have hsequence : getU64 command.encode.toList 8 = command.sequence := by
    unfold encode
    exact getU64_putFields hdisjoint (by simp [fields]) (by decide)
  have htarget : getU8 command.encode.toList 16 = command.target.toU8 := by
    unfold encode
    exact getU8_putFields_byte hdisjoint (by simp [fields]) (by decide)
  have hboard : getU8 command.encode.toList 17 = command.afeBoard := by
    unfold encode
    exact getU8_putFields_byte hdisjoint (by simp [fields]) (by decide)
  have hpl : getU8 command.encode.toList 18 = command.afePl := by
    unfold encode
    exact getU8_putFields_byte hdisjoint (by simp [fields]) (by decide)
  have hchannel : getU8 command.encode.toList 19 = command.channel := by
    unfold encode
    exact getU8_putFields_byte hdisjoint (by simp [fields]) (by decide)
  have hafeChannel : getU8 command.encode.toList 20 = command.afeChannel := by
    unfold encode
    exact getU8_putFields_byte hdisjoint (by simp [fields]) (by decide)
  have hregister : getU16 command.encode.toList 22 = command.register := by
    unfold encode
    exact getU16_putFields hdisjoint (by simp [fields]) (by decide)
  have hvalue : getU32 command.encode.toList 24 = command.value := by
    unfold encode
    exact getU32_putFields hdisjoint (by simp [fields]) (by decide)
  have hflags : getU32 command.encode.toList 28 = command.flags := by
    unfold encode
    exact getU32_putFields hdisjoint (by simp [fields]) (by decide)
  have hpayload : (Vector.ofFn fun i : Fin rpuWirePayloadLen ↦
      getU8 command.encode.toList (32 + i)) = command.payload := by
    apply Vector.ext
    intro i hi
    rw [Vector.getElem_ofFn]
    have hbound : 32 + command.payload.toList.length ≤ rpuWireCommandLen := by
      rw [Vector.length_toList]
      decide
    unfold encode
    exact (getU8_putFields hdisjoint (by simp [fields]) hbound (by simpa using hi)).trans
      (Vector.getElem_toList _)
  unfold decode
  rw [hmagic, habi, hop, hsequence, htarget, hboard, hpl, hchannel, hafeChannel, hregister, hvalue,
    hflags, hpayload]
  simp [bind, Except.bind, pure, Except.pure]

end RpuWireCommand

/-! ## Replies -/

namespace RpuWireReply

theorem fields_disjoint (reply : RpuWireReply) : reply.fields.Pairwise Field.Disjoint := by
  simp [fields, Field.Disjoint]

theorem decode_encode (reply : RpuWireReply) : decode reply.encode.toList = .ok reply := by
  have hdisjoint := reply.fields_disjoint
  have hmagic : getU32 reply.encode.toList 0 = rpuWireMagic := by
    unfold encode
    exact getU32_putFields hdisjoint (by simp [fields]) (by decide)
  have habi : getU16 reply.encode.toList 4 = rpuWireAbiVersion := by
    unfold encode
    exact getU16_putFields hdisjoint (by simp [fields]) (by decide)
  have hstatus : getU16 reply.encode.toList 6 = reply.status.toU16 := by
    unfold encode
    exact getU16_putFields hdisjoint (by simp [fields]) (by decide)
  have hsequence : getU64 reply.encode.toList 8 = reply.sequence := by
    unfold encode
    exact getU64_putFields hdisjoint (by simp [fields]) (by decide)
  have hreadback : getU32 reply.encode.toList 16 = reply.readback.getD 0 := by
    unfold encode
    exact getU32_putFields hdisjoint (by simp [fields]) (by decide)
  have hhas : getU32 reply.encode.toList 20 = reply.readback.isSome.toUInt32 := by
    unfold encode
    exact getU32_putFields hdisjoint (by simp [fields]) (by decide)
  have hheartbeat : getU64 reply.encode.toList 24 = reply.heartbeat := by
    unfold encode
    exact getU64_putFields hdisjoint (by simp [fields]) (by decide)
  have hfault : getU32 reply.encode.toList 32 = reply.faultCode := by
    unfold encode
    exact getU32_putFields hdisjoint (by simp [fields]) (by decide)
  have hinterlock : getU32 reply.encode.toList 36 = reply.interlockCode := by
    unfold encode
    exact getU32_putFields hdisjoint (by simp [fields]) (by decide)
  unfold decode
  rw [hmagic, habi, hstatus, hsequence, hreadback, hhas, hheartbeat, hfault, hinterlock]
  obtain ⟨sequence, status, readback, heartbeat, faultCode, interlockCode⟩ := reply
  cases readback <;> simp [bind, Except.bind, pure, Except.pure, Bool.toUInt32]

end RpuWireReply

/-! ## Packed values -/

theorem unpackU16Pair_packU16Pair (low high : UInt16) :
    unpackU16Pair (packU16Pair low high) = (low, high) := by
  have hlow : low.toNat < 2 ^ 16 := low.toNat_lt
  have hhigh : high.toNat < 2 ^ 16 := high.toNat_lt
  have hpack : (packU16Pair low high).toNat = 2 ^ 16 * high.toNat + low.toNat := by
    rw [packU16Pair, UInt32.toNat_or, UInt32.toNat_shiftLeft, UInt16.toNat_toUInt32,
      UInt16.toNat_toUInt32, Nat.or_comm, Nat.shiftLeft_eq, Nat.mul_comm]
    rw [show (16 : UInt32).toNat % 32 = 16 from rfl, Nat.mod_eq_of_lt (by omega)]
    exact (Nat.two_pow_add_eq_or_of_lt hlow high.toNat).symm
  unfold unpackU16Pair
  apply Prod.ext
  · change ((packU16Pair low high) &&& 0xFFFF).toUInt16 = low
    apply UInt16.toNat_inj.mp
    rw [UInt32.toNat_toUInt16, UInt32.toNat_and, hpack,
      show (0xFFFF : UInt32).toNat = 2 ^ 16 - 1 from rfl, Nat.and_two_pow_sub_one_eq_mod]
    omega
  · change ((packU16Pair low high) >>> 16).toUInt16 = high
    apply UInt16.toNat_inj.mp
    rw [UInt32.toNat_toUInt16, UInt32.toNat_shiftRight, hpack,
      show (16 : UInt32).toNat % 32 = 16 from rfl, Nat.shiftRight_eq_div_pow]
    omega

@[simp] theorem unpackAdc_packAdc (adc : AdcConfig) : unpackAdc (packAdc adc) = adc := by
  obtain ⟨resolution, outputFormat, msbFirst⟩ := adc
  cases resolution <;> cases outputFormat <;> cases msbFirst <;> rfl

@[simp] theorem unpackPga_packPgaFlags (pga : PgaConfig) :
    unpackPga pga.lpfCutFrequency (packPgaFlags pga) = pga := by
  obtain ⟨lpfCutFrequency, integratorDisable, gain⟩ := pga
  cases integratorDisable <;> cases gain <;> simp only [unpackPga, packPgaFlags] <;> rfl

@[simp] theorem unpackLna_toUInt8 (lna : LnaConfig) :
    unpackLna lna.clamp lna.gain lna.integratorDisable.toUInt8 = lna := by
  obtain ⟨clamp, gain, integratorDisable⟩ := lna
  cases integratorDisable <;> simp only [unpackLna] <;> rfl

@[simp] theorem requireU16_toUInt32 (field : String) (value : UInt16) :
    requireU16 field value.toUInt32 = .ok value := by
  have hle : value.toUInt32 ≤ 65535 := by
    rw [UInt32.le_iff_toNat_le, UInt16.toNat_toUInt32]
    exact Nat.le_of_lt_succ value.toNat_lt
  rw [requireU16, u16TryFrom, if_pos hle, UInt16.toUInt16_toUInt32]

end DaphneSc.Core.RpuWire
