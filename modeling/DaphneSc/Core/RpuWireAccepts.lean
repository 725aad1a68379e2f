import DaphneSc.Core.RpuWireCodec

/-!
# What the decoders accept

A decoder accepts exactly the inputs of the right length with the expected magic number, version
and codes. An accepted command is written back byte for byte, apart from the reserved byte; an
accepted reply is written back as the same reply.
-/

namespace DaphneSc.Core.RpuWire

open Bytes

/-! ## Codes -/

theorem RpuWireOp.tryFrom_eq_ok_iff {value : UInt16} {op : RpuWireOp} :
    tryFrom value = .ok op ↔ value = op.toU16 := by
  constructor
  · intro h
    unfold tryFrom at h
    split at h <;> cases h <;> rfl
  · rintro rfl
    exact tryFrom_toU16 op

theorem RpuWireTarget.tryFrom_eq_ok_iff {value : UInt8} {target : RpuWireTarget} :
    tryFrom value = .ok target ↔ value = target.toU8 := by
  constructor
  · intro h
    unfold tryFrom at h
    split at h <;> cases h <;> rfl
  · rintro rfl
    exact tryFrom_toU8 target

theorem RpuWireStatus.tryFrom_eq_ok_iff {value : UInt16} {status : RpuWireStatus} :
    tryFrom value = .ok status ↔ value = status.toU16 := by
  constructor
  · intro h
    unfold tryFrom at h
    split at h <;> cases h <;> rfl
  · rintro rfl
    exact tryFrom_toU16 status

theorem exists_ok_of_isOk {ε α : Type} {result : Except ε α} (h : result.isOk = true) :
    ∃ a, result = .ok a := by
  cases result with
  | error e => cases h
  | ok a => exact ⟨a, rfl⟩

/-- The codes of the operations are the numbers up to 22. -/
theorem RpuWireOp.exists_toU16_iff {value : UInt16} :
    (∃ op : RpuWireOp, value = op.toU16) ↔ value ≤ 22 := by
  constructor
  · rintro ⟨op, rfl⟩
    cases op <;> decide
  · intro hle
    have hcodes : ∀ n < 23, (tryFrom (.ofNat n)).isOk = true := by decide
    have hlt : value.toNat < 23 := Nat.lt_succ_of_le (UInt16.le_iff_toNat_le.mp hle)
    have hok := hcodes value.toNat hlt
    rw [UInt16.ofNat_toNat] at hok
    obtain ⟨op, hop⟩ := exists_ok_of_isOk hok
    exact ⟨op, tryFrom_eq_ok_iff.mp hop⟩

theorem RpuWireTarget.exists_toU8_iff {value : UInt8} :
    (∃ target : RpuWireTarget, value = target.toU8) ↔ value ≤ 3 := by
  constructor
  · rintro ⟨target, rfl⟩
    cases target <;> decide
  · intro hle
    have hcodes : ∀ n < 4, (tryFrom (.ofNat n)).isOk = true := by decide
    have hlt : value.toNat < 4 := Nat.lt_succ_of_le (UInt8.le_iff_toNat_le.mp hle)
    have hok := hcodes value.toNat hlt
    rw [UInt8.ofNat_toNat] at hok
    obtain ⟨target, htarget⟩ := exists_ok_of_isOk hok
    exact ⟨target, tryFrom_eq_ok_iff.mp htarget⟩

theorem RpuWireStatus.exists_toU16_iff {value : UInt16} :
    (∃ status : RpuWireStatus, value = status.toU16) ↔ value ≤ 5 := by
  constructor
  · rintro ⟨status, rfl⟩
    cases status <;> decide
  · intro hle
    have hcodes : ∀ n < 6, (tryFrom (.ofNat n)).isOk = true := by decide
    have hlt : value.toNat < 6 := Nat.lt_succ_of_le (UInt16.le_iff_toNat_le.mp hle)
    have hok := hcodes value.toNat hlt
    rw [UInt16.ofNat_toNat] at hok
    obtain ⟨status, hstatus⟩ := exists_ok_of_isOk hok
    exact ⟨status, tryFrom_eq_ok_iff.mp hstatus⟩

/-! ## Bytes of a field that was read -/

section Fields

variable {input : List UInt8} {offset : ℕ}

theorem slice_of_getU8 {value : UInt8} (h : getU8 input offset = value)
    (hbound : offset < input.length) : slice input offset 1 = [value] := by
  apply List.ext_getElem?
  intro i
  rw [getElem?_slice]
  cases i with
  | zero => simpa [getU8, hbound] using h
  | succ i => simp

theorem slice_eq_toLe {width value : ℕ} (h : ofLe (slice input offset width) = value)
    (hbound : offset + width ≤ input.length) : slice input offset width = toLe width value := by
  have hlength := length_slice hbound
  rw [← h]
  conv_lhs => rw [← toLe_ofLe (slice input offset width), hlength]

theorem slice_of_getU16 {value : UInt16} (h : getU16 input offset = value)
    (hbound : offset + 2 ≤ input.length) : slice input offset 2 = toLe 2 value.toNat := by
  have hlt := ofLe_lt (slice input offset 2)
  rw [length_slice hbound] at hlt
  apply slice_eq_toLe _ hbound
  rw [← h, getU16, UInt16.toNat_ofNat']
  exact (Nat.mod_eq_of_lt hlt).symm

theorem slice_of_getU32 {value : UInt32} (h : getU32 input offset = value)
    (hbound : offset + 4 ≤ input.length) : slice input offset 4 = toLe 4 value.toNat := by
  have hlt := ofLe_lt (slice input offset 4)
  rw [length_slice hbound] at hlt
  apply slice_eq_toLe _ hbound
  rw [← h, getU32, UInt32.toNat_ofNat']
  exact (Nat.mod_eq_of_lt hlt).symm

theorem slice_of_getU64 {value : UInt64} (h : getU64 input offset = value)
    (hbound : offset + 8 ≤ input.length) : slice input offset 8 = toLe 8 value.toNat := by
  have hlt := ofLe_lt (slice input offset 8)
  rw [length_slice hbound] at hlt
  apply slice_eq_toLe _ hbound
  rw [← h, getU64, UInt64.toNat_ofNat']
  exact (Nat.mod_eq_of_lt hlt).symm

end Fields

/-! ## Commands -/

namespace RpuWireCommand

/-- An input has the form of a command, and these are its fields. -/
structure Reads (input : List UInt8) (command : RpuWireCommand) : Prop where
  length : input.length = rpuWireCommandLen
  magic : getU32 input 0 = rpuWireMagic
  abi : getU16 input 4 = rpuWireAbiVersion
  op : getU16 input 6 = command.op.toU16
  sequence : getU64 input 8 = command.sequence
  target : getU8 input 16 = command.target.toU8
  afeBoard : getU8 input 17 = command.afeBoard
  afePl : getU8 input 18 = command.afePl
  channel : getU8 input 19 = command.channel
  afeChannel : getU8 input 20 = command.afeChannel
  register : getU16 input 22 = command.register
  value : getU32 input 24 = command.value
  flags : getU32 input 28 = command.flags
  payload : (Vector.ofFn fun i : Fin rpuWirePayloadLen ↦ getU8 input (32 + i)) = command.payload

theorem decode_eq_ok_iff {input : List UInt8} {command : RpuWireCommand} :
    decode input = .ok command ↔ Reads input command := by
  constructor
  · intro h
    unfold decode at h
    simp only [bind, Except.bind, pure, Except.pure, throw, throwThe, MonadExceptOf.throw] at h
    split at h
    · cases h
    rename_i hlength
    split at h
    · cases h
    rename_i hmagic
    split at h
    · cases h
    rename_i habi
    cases hop : RpuWireOp.tryFrom (getU16 input 6) with
    | error err => simp [hop] at h
    | ok op =>
      cases htarget : RpuWireTarget.tryFrom (getU8 input 16) with
      | error err => simp [hop, htarget] at h
      | ok target =>
        simp only [hop, htarget, Except.ok.injEq] at h
        subst h
        exact ⟨not_not.mp hlength, not_not.mp hmagic, not_not.mp habi,
          RpuWireOp.tryFrom_eq_ok_iff.mp hop, rfl, RpuWireTarget.tryFrom_eq_ok_iff.mp htarget, rfl,
          rfl, rfl, rfl, rfl, rfl, rfl, rfl⟩
  · intro h
    unfold decode
    have hop : RpuWireOp.tryFrom (getU16 input 6) = .ok command.op :=
      RpuWireOp.tryFrom_eq_ok_iff.mpr h.op
    have htarget : RpuWireTarget.tryFrom (getU8 input 16) = .ok command.target :=
      RpuWireTarget.tryFrom_eq_ok_iff.mpr h.target
    rw [hop, htarget, h.magic, h.abi, h.sequence, h.afeBoard, h.afePl, h.channel, h.afeChannel,
      h.register, h.value, h.flags, h.payload]
    simp [h.length, bind, Except.bind, pure, Except.pure]

theorem exists_decode_iff {input : List UInt8} :
    (∃ command, decode input = .ok command) ↔
      input.length = rpuWireCommandLen ∧ getU32 input 0 = rpuWireMagic ∧
        getU16 input 4 = rpuWireAbiVersion ∧ getU16 input 6 ≤ 22 ∧ getU8 input 16 ≤ 3 := by
  constructor
  · rintro ⟨command, hdecode⟩
    have h := decode_eq_ok_iff.mp hdecode
    exact ⟨h.length, h.magic, h.abi, RpuWireOp.exists_toU16_iff.mp ⟨_, h.op⟩,
      RpuWireTarget.exists_toU8_iff.mp ⟨_, h.target⟩⟩
  · rintro ⟨hlength, hmagic, habi, hop, htarget⟩
    obtain ⟨op, hop⟩ := RpuWireOp.exists_toU16_iff.mpr hop
    obtain ⟨target, htarget⟩ := RpuWireTarget.exists_toU8_iff.mpr htarget
    exact ⟨⟨_, op, target, _, _, _, _, _, _, _, _⟩, decode_eq_ok_iff.mpr
      ⟨hlength, hmagic, habi, hop, rfl, htarget, rfl, rfl, rfl, rfl, rfl, rfl, rfl, rfl⟩⟩

/-- The bytes of every field of an accepted command are those that were read. -/
theorem slice_of_reads {input : List UInt8} {command : RpuWireCommand} (h : Reads input command) :
    ∀ field ∈ command.fields, slice input field.1 field.2.length = field.2 := by
  have hlength : input.length = 64 := h.length
  have hpayload : slice input 32 rpuWirePayloadLen = command.payload.toList := by
    rw [← h.payload]
    apply List.ext_getElem?
    intro i
    rw [getElem?_slice]
    split
    · rename_i hi
      have hbound : 32 + i < input.length := by
        rw [hlength]
        exact Nat.add_lt_add_left hi 32
      simp [getU8, hi, hbound]
    · rename_i hi
      symm
      simpa using hi
  intro field hmem
  simp only [fields, List.mem_cons, List.not_mem_nil, or_false] at hmem
  rcases hmem with rfl | rfl | rfl | rfl | rfl | rfl | rfl | rfl | rfl | rfl | rfl | rfl | rfl
  · exact slice_of_getU32 h.magic (by omega)
  · exact slice_of_getU16 h.abi (by omega)
  · exact slice_of_getU16 h.op (by omega)
  · exact slice_of_getU64 h.sequence (by omega)
  · exact slice_of_getU8 h.target (by omega)
  · exact slice_of_getU8 h.afeBoard (by omega)
  · exact slice_of_getU8 h.afePl (by omega)
  · exact slice_of_getU8 h.channel (by omega)
  · exact slice_of_getU8 h.afeChannel (by omega)
  · exact slice_of_getU16 h.register (by omega)
  · exact slice_of_getU32 h.value (by omega)
  · exact slice_of_getU32 h.flags (by omega)
  · simpa using hpayload

/-- The fields of a command cover every byte but the reserved one. -/
theorem exists_field (command : RpuWireCommand) {i : ℕ} (hi : i < 64)
    (hreserved : i ≠ 21) :
    ∃ field ∈ command.fields, field.1 ≤ i ∧ i < field.1 + field.2.length ∧
      field.1 + field.2.length ≤ 64 := by
  have hpayload : command.payload.toList.length = 32 := Vector.length_toList
  simp only [fields, List.mem_cons, List.not_mem_nil, or_false, exists_eq_or_imp, exists_eq_left,
    length_toLe, List.length_singleton, hpayload]
  omega

/-- An accepted command is written back as the bytes it was read from, up to the reserved one. -/
theorem getElem?_encode_of_reads {input : List UInt8} {command : RpuWireCommand}
    (h : Reads input command) {i : ℕ} (hreserved : i ≠ 21) :
    command.encode.toList[i]? = input[i]? := by
  rcases Nat.lt_or_ge i 64 with hi | hi
  · obtain ⟨field, hmem, hlow, hhigh, hbound⟩ := command.exists_field hi hreserved
    unfold encode
    exact getElem?_putFields_of_slice command.fields_disjoint hmem
      (slice_of_reads h field hmem) hbound hlow hhigh
  · rw [List.getElem?_eq_none (by simpa using hi),
      List.getElem?_eq_none (by rw [h.length]; exact hi)]

end RpuWireCommand

/-! ## Replies -/

namespace RpuWireReply

theorem exists_decode_iff {input : List UInt8} :
    (∃ reply, decode input = .ok reply) ↔
      input.length = rpuWireReplyLen ∧ getU32 input 0 = rpuWireMagic ∧
        getU16 input 4 = rpuWireAbiVersion ∧ getU16 input 6 ≤ 5 := by
  rw [← RpuWireStatus.exists_toU16_iff]
  constructor
  · rintro ⟨reply, h⟩
    unfold decode at h
    simp only [bind, Except.bind, pure, Except.pure, throw, throwThe, MonadExceptOf.throw] at h
    split at h
    · cases h
    rename_i hlength
    split at h
    · cases h
    rename_i hmagic
    split at h
    · cases h
    rename_i habi
    cases hstatus : RpuWireStatus.tryFrom (getU16 input 6) with
    | error err => simp [hstatus] at h
    | ok status =>
      exact ⟨not_not.mp hlength, not_not.mp hmagic, not_not.mp habi, status,
        RpuWireStatus.tryFrom_eq_ok_iff.mp hstatus⟩
  · rintro ⟨hlength, hmagic, habi, status, hstatus⟩
    have hok := RpuWireStatus.tryFrom_eq_ok_iff.mpr hstatus
    unfold decode
    rw [hok, hmagic, habi]
    simp [hlength, bind, Except.bind, pure, Except.pure]

end RpuWireReply

/-! ## Main result -/

/-- Both decoders undo their encoders and accept exactly the inputs of the right form; what they
accept is written back unchanged, up to the reserved byte of a command. -/
theorem codec_exact :
    (∀ command : RpuWireCommand, RpuWireCommand.decode command.encode.toList = .ok command) ∧
    (∀ reply : RpuWireReply, RpuWireReply.decode reply.encode.toList = .ok reply) ∧
    (∀ input, (∃ command, RpuWireCommand.decode input = .ok command) ↔
      input.length = 64 ∧ getU32 input 0 = rpuWireMagic ∧ getU16 input 4 = rpuWireAbiVersion ∧
        getU16 input 6 ≤ 22 ∧ getU8 input 16 ≤ 3) ∧
    (∀ input command, RpuWireCommand.decode input = .ok command →
      ∀ i, i ≠ 21 → command.encode.toList[i]? = input[i]?) ∧
    (∀ input, (∃ reply, RpuWireReply.decode input = .ok reply) ↔
      input.length = 64 ∧ getU32 input 0 = rpuWireMagic ∧ getU16 input 4 = rpuWireAbiVersion ∧
        getU16 input 6 ≤ 5) ∧
    (∀ input reply, RpuWireReply.decode input = .ok reply →
      RpuWireReply.decode reply.encode.toList = .ok reply) := by
  refine ⟨RpuWireCommand.decode_encode, RpuWireReply.decode_encode, ?_, ?_, ?_, ?_⟩
  · exact fun _ ↦ RpuWireCommand.exists_decode_iff
  · intro input command hdecode i hreserved
    have hreads := RpuWireCommand.decode_eq_ok_iff.mp hdecode
    exact RpuWireCommand.getElem?_encode_of_reads hreads hreserved
  · exact fun _ ↦ RpuWireReply.exists_decode_iff
  · exact fun _ reply _ ↦ RpuWireReply.decode_encode reply

end DaphneSc.Core.RpuWire
