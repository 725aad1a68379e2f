import DaphneSc.Program.Results
import DaphneSc.Server.Observed

/-!
# What the handlers submit

Every request of an AFE route leads to one submission or to none. The command that is submitted
carries the numbers of the request unchanged and in order, its AFEs and channels are the ones named
at their places in the gateware, and its values fit the converters. An alignment is followed by
reads of what was aligned. The answer says success only when the transport said so.
-/

namespace DaphneSc.Server.Handlers

open DaphneSc.Core Core.Afe Core.Rpu Core.Transport Pb Program Results

/-! ## Commands of a request -/

/-- An AFE is the one a request names, at its place in the gateware. -/
structure NamesAfe (afe : AfeId) (number : UInt32) : Prop where
  board : afe.board.toNat = number.toNat
  pl : afeBoardToPl[number.toNat]? = some afe.pl

/-- A channel is the one a request names, on the AFE it belongs to. -/
structure NamesChannel (id : ChannelId) (number : UInt32) : Prop where
  channel : id.channel.toNat = number.toNat
  board : id.afe.board.toNat = number.toNat / 8
  pl : afeBoardToPl[number.toNat / 8]? = some id.afe.pl
  afeChannel : id.afeChannel.toNat = number.toNat % 8

structure CarriesAfe (sent : Pb.AfeConfig) (built : AfeFrontendConfig) : Prop where
  afe : NamesAfe built.afe sent.id
  attenuation : built.attenuation.toNat = sent.attenuators.toNat
  bias : built.bias.toNat = sent.vBias.toNat
  resolution : built.adc.resolution = (sent.adc.getD default).resolution
  outputFormat : built.adc.outputFormat = (sent.adc.getD default).outputFormat
  msbFirst : built.adc.msbFirst = (sent.adc.getD default).sbFirst
  lpfCutFrequency : built.pga.lpfCutFrequency.toNat = (sent.pga.getD default).lpfCutFrequency.toNat
  pgaIntegratorDisable : built.pga.integratorDisable = (sent.pga.getD default).integratorDisable
  pgaGain : built.pga.gain = (sent.pga.getD default).gain
  clamp : built.lna.clamp.toNat = (sent.lna.getD default).clamp.toNat
  lnaGain : built.lna.gain.toNat = (sent.lna.getD default).gain.toNat
  lnaIntegratorDisable : built.lna.integratorDisable = (sent.lna.getD default).integratorDisable

structure CarriesChannel (sent : Pb.ChannelConfig) (built : ChannelFrontendConfig) : Prop where
  channel : NamesChannel built.channel sent.id
  trim : built.trim.toNat = sent.trim.toNat
  offset : built.offset.toNat = sent.offset.toNat
  gain : built.gain.toNat = sent.gain.toNat

variable (prost : Prost) (payload : List UInt8)

/-- A command carries the request of a message type that the payload decodes to. -/
inductive Carries : MessageTypeV2 → AfeCommand → Prop
  | configureFe {req : ConfigureRequest} {afes : List AfeFrontendConfig}
      {channels : List ChannelFrontendConfig} {biasControl : UInt16}
      (decoded : prost.decode payload = .ok req) (hafes : List.Forall₂ CarriesAfe req.afes afes)
      (hchannels : List.Forall₂ CarriesChannel req.channels channels)
      (hbias : biasControl.toNat = req.biasctrl.toNat) :
      Carries .configureFeReq (.configureFrontend afes channels biasControl)
  | writeAfeReg {req : CmdWriteAfeReg} {afe : AfeId} {register : UInt8} {value : UInt16}
      (decoded : prost.decode payload = .ok req) (hafe : NamesAfe afe req.afeBlock)
      (hregister : register.toNat = req.regAddress.toNat)
      (hvalue : value.toNat = req.regValue.toNat) :
      Carries .writeAfeRegReq (.writeRegister afe register value)
  | writeAfeVgain {req : CmdWriteAfevgain} {afe : AfeId} {value : UInt16}
      (decoded : prost.decode payload = .ok req) (hafe : NamesAfe afe req.afeBlock)
      (hvalue : value.toNat = req.vgainValue.toNat) :
      Carries .writeAfeVgainReq (.setAttenuation afe value)
  | writeAfeAttenuation {req : CmdWriteAfeAttenuation} {afe : AfeId} {value : UInt16}
      (decoded : prost.decode payload = .ok req) (hafe : NamesAfe afe req.afeBlock)
      (hvalue : value.toNat = req.attenuation.toNat) :
      Carries .writeAfeAttenuationReq (.setAttenuation afe value)
  | writeAfeBias {req : CmdWriteAfeBiasSet} {afe : AfeId} {value : UInt16}
      (decoded : prost.decode payload = .ok req) (hafe : NamesAfe afe req.afeBlock)
      (hvalue : value.toNat = req.biasValue.toNat) :
        Carries .writeAfeBiasSetReq (.setBias afe value)
  | writeTrimChannel {req : CmdWriteTrimSingleChannel} {channel : ChannelId} {value : UInt16}
      (decoded : prost.decode payload = .ok req) (hchannel : NamesChannel channel req.trimChannel)
      (hvalue : value.toNat = req.trimValue.toNat) :
      Carries .writeTrimChReq (.setTrim (.one channel) value req.trimGain)
  | writeTrimAllChannels {req : CmdWriteTrimAllChannels} {value : UInt16}
      (decoded : prost.decode payload = .ok req) (hvalue : value.toNat = req.trimValue.toNat) :
      Carries .writeTrimAllChReq (.setTrim .all value req.trimGain)
  | writeTrimAllAfe {req : CmdWriteTrimAllAfe} {afe : AfeId} {value : UInt16}
      (decoded : prost.decode payload = .ok req) (hafe : NamesAfe afe req.afeBlock)
      (hvalue : value.toNat = req.trimValue.toNat) :
      Carries .writeTrimAllAfeReq (.setTrim (.afe afe) value req.trimGain)
  | writeOffsetChannel {req : CmdWriteOffsetSingleChannel} {channel : ChannelId} {value : UInt16}
      (decoded : prost.decode payload = .ok req) (hchannel : NamesChannel channel req.offsetChannel)
      (hvalue : value.toNat = req.offsetValue.toNat) :
      Carries .writeOffsetChReq (.setOffset (.one channel) value req.offsetGain)
  | writeOffsetAllChannels {req : CmdWriteOffsetAllChannels} {value : UInt16}
      (decoded : prost.decode payload = .ok req) (hvalue : value.toNat = req.offsetValue.toNat) :
      Carries .writeOffsetAllChReq (.setOffset .all value req.offsetGain)
  | writeOffsetAllAfe {req : CmdWriteOffsetAllAfe} {afe : AfeId} {value : UInt16}
      (decoded : prost.decode payload = .ok req) (hafe : NamesAfe afe req.afeBlock)
      (hvalue : value.toNat = req.offsetValue.toNat) :
      Carries .writeOffsetAllAfeReq (.setOffset (.afe afe) value req.offsetGain)
  | writeVbiasControl {req : CmdWriteVbiasControl} {value : UInt16}
      (decoded : prost.decode payload = .ok req)
      (hvalue : value.toNat = req.vBiasControlValue.toNat) :
      Carries .writeVbiasControlReq (.setVbiasControl value req.enable)
  | readAfeReg {req : CmdReadAfeReg} {afe : AfeId} {register : UInt8}
      (decoded : prost.decode payload = .ok req) (hafe : NamesAfe afe req.afeBlock)
      (hregister : register.toNat = req.regAddress.toNat) :
      Carries .readAfeRegReq (.readRegister afe register)
  | readAfeVgain {req : CmdReadAfeVgain} {afe : AfeId} (decoded : prost.decode payload = .ok req)
      (hafe : NamesAfe afe req.afeBlock) : Carries .readAfeVgainReq (.readAttenuation afe)
  | readAfeBias {req : CmdReadAfeBiasSet} {afe : AfeId} (decoded : prost.decode payload = .ok req)
      (hafe : NamesAfe afe req.afeBlock) : Carries .readAfeBiasSetReq (.readBias afe)
  | readTrimChannel {req : CmdReadTrimSingleChannel} {channel : ChannelId}
      (decoded : prost.decode payload = .ok req) (hchannel : NamesChannel channel req.trimChannel) :
      Carries .readTrimChReq (.readTrim (.one channel))
  | readTrimAllChannels {req : CmdReadTrimAllChannels} (decoded : prost.decode payload = .ok req) :
      Carries .readTrimAllChReq (.readTrim .all)
  | readTrimAllAfe {req : CmdReadTrimAllAfe} {afe : AfeId}
      (decoded : prost.decode payload = .ok req)
      (hafe : NamesAfe afe req.afeBlock) : Carries .readTrimAllAfeReq (.readTrim (.afe afe))
  | readOffsetChannel {req : CmdReadOffsetSingleChannel} {channel : ChannelId}
      (decoded : prost.decode payload = .ok req)
      (hchannel : NamesChannel channel req.offsetChannel) :
      Carries .readOffsetChReq (.readOffset (.one channel))
  | readOffsetAllChannels {req : CmdReadOffsetAllChannels}
      (decoded : prost.decode payload = .ok req) : Carries .readOffsetAllChReq (.readOffset .all)
  | readOffsetAllAfe {req : CmdReadOffsetAllAfe} {afe : AfeId}
      (decoded : prost.decode payload = .ok req) (hafe : NamesAfe afe req.afeBlock) :
      Carries .readOffsetAllAfeReq (.readOffset (.afe afe))
  | readVbiasControl {req : CmdReadVbiasControl} (decoded : prost.decode payload = .ok req) :
      Carries .readVbiasControlReq .readVbiasControl
  | setAfeReset {req : CmdSetAfeReset} (decoded : prost.decode payload = .ok req) :
      Carries .setAfeResetReq (.setReset req.resetValue)
  | doAfeReset {req : CmdDoAfeReset} (decoded : prost.decode payload = .ok req) :
      Carries .doAfeResetReq .doReset
  | setAfePowerState {req : CmdSetAfePowerState} (decoded : prost.decode payload = .ok req) :
      Carries .setAfePowerStateReq (.setPowerState req.powerState)
  | alignAfe {req : CmdAlignAfEs} (decoded : prost.decode payload = .ok req) :
      Carries .alignAfeReq .align
  | writeAfeFunction {req : CmdWriteAfeFunction} {afe : AfeId} {value : UInt16}
      (decoded : prost.decode payload = .ok req) (hafe : NamesAfe afe req.afeBlock)
      (hvalue : value.toNat = req.configValue.toNat) :
      Carries .writeAfeFunctionReq (.writeFunction afe req.function value)

/-- The values of a command that its own check limits. -/
def limitedValues : AfeCommand → List UInt16
  | .setAttenuation _ value
  | .setBias _ value
  | .setTrim _ value _
  | .setOffset _ value _
  | .setVbiasControl value _ => [value]
  | .configureFrontend afes channels biasControl =>
    biasControl :: (afes.flatMap fun afe ↦ [afe.attenuation, afe.bias]) ++
      channels.flatMap fun channel ↦ [channel.trim, channel.offset]
  | _ => []

/-- The read of what was aligned on a board. -/
def IsAlignmentRead (board : ℕ) (read : Submission) : Prop :=
  ∃ afe : AfeId, read.command = .readAlignment afe ∧ afe.board.toNat = board ∧
    afeBoardToPl[board]? = some afe.pl

/-! ## Answers -/

/-- A response to a message type, as bytes, and whether it says success. -/
inductive Answers : MessageTypeV2 → List UInt8 → Bool → Prop
  | configureFe (response : ConfigureResponse) :
      Answers .configureFeReq (prost.encodeToVec response) response.success
  | writeAfeReg (response : CmdWriteAfeRegResponse) :
      Answers .writeAfeRegReq (prost.encodeToVec response) response.success
  | writeAfeVgain (response : CmdWriteAfevgainResponse) :
      Answers .writeAfeVgainReq (prost.encodeToVec response) response.success
  | writeAfeAttenuation (response : CmdWriteAfeAttenuationResponse) :
      Answers .writeAfeAttenuationReq (prost.encodeToVec response) response.success
  | writeAfeBias (response : CmdWriteAfeBiasSetResponse) :
      Answers .writeAfeBiasSetReq (prost.encodeToVec response) response.success
  | writeTrimChannel (response : CmdWriteTrimSingleChannelResponse) :
      Answers .writeTrimChReq (prost.encodeToVec response) response.success
  | writeTrimAllChannels (response : CmdWriteTrimAllChannelsResponse) :
      Answers .writeTrimAllChReq (prost.encodeToVec response) response.success
  | writeTrimAllAfe (response : CmdWriteTrimAllAfeResponse) :
      Answers .writeTrimAllAfeReq (prost.encodeToVec response) response.success
  | writeOffsetChannel (response : CmdWriteOffsetSingleChannelResponse) :
      Answers .writeOffsetChReq (prost.encodeToVec response) response.success
  | writeOffsetAllChannels (response : CmdWriteOffsetAllChannelsResponse) :
      Answers .writeOffsetAllChReq (prost.encodeToVec response) response.success
  | writeOffsetAllAfe (response : CmdWriteOffsetAllAfeResponse) :
      Answers .writeOffsetAllAfeReq (prost.encodeToVec response) response.success
  | writeVbiasControl (response : CmdWriteVbiasControlResponse) :
      Answers .writeVbiasControlReq (prost.encodeToVec response) response.success
  | readAfeReg (response : CmdReadAfeRegResponse) :
      Answers .readAfeRegReq (prost.encodeToVec response) response.success
  | readAfeVgain (response : CmdReadAfeVgainResponse) :
      Answers .readAfeVgainReq (prost.encodeToVec response) response.success
  | readAfeBias (response : CmdReadAfeBiasSetResponse) :
      Answers .readAfeBiasSetReq (prost.encodeToVec response) response.success
  | readTrimChannel (response : CmdReadTrimSingleChannelResponse) :
      Answers .readTrimChReq (prost.encodeToVec response) response.success
  | readTrimAllChannels (response : CmdReadTrimAllChannelsResponse) :
      Answers .readTrimAllChReq (prost.encodeToVec response) response.success
  | readTrimAllAfe (response : CmdReadTrimAllAfeResponse) :
      Answers .readTrimAllAfeReq (prost.encodeToVec response) response.success
  | readOffsetChannel (response : CmdReadOffsetSingleChannelResponse) :
      Answers .readOffsetChReq (prost.encodeToVec response) response.success
  | readOffsetAllChannels (response : CmdReadOffsetAllChannelsResponse) :
      Answers .readOffsetAllChReq (prost.encodeToVec response) response.success
  | readOffsetAllAfe (response : CmdReadOffsetAllAfeResponse) :
      Answers .readOffsetAllAfeReq (prost.encodeToVec response) response.success
  | readVbiasControl (response : CmdReadVbiasControlResponse) :
      Answers .readVbiasControlReq (prost.encodeToVec response) response.success
  | setAfeReset (response : CmdSetAfeResetResponse) :
      Answers .setAfeResetReq (prost.encodeToVec response) response.success
  | doAfeReset (response : CmdDoAfeResetResponse) :
      Answers .doAfeResetReq (prost.encodeToVec response) response.success
  | setAfePowerState (response : CmdSetAfePowerStateResponse) :
      Answers .setAfePowerStateReq (prost.encodeToVec response) response.success
  | alignAfe (response : CmdAlignAfEsResponse) :
      Answers .alignAfeReq (prost.encodeToVec response) response.success
  | writeAfeFunction (response : CmdWriteAfeFunctionResponse) :
      Answers .writeAfeFunctionReq (prost.encodeToVec response) response.success

/-! ## Numbers that are kept -/

theorem u8Value_eq_ok_iff {name : String} {value : UInt32} {n : UInt8} :
    u8Value name value = .ok n ↔ n.toNat = value.toNat := by
  unfold u8Value
  split
  · rename_i hlt
    have htoNat : value.toUInt8.toNat = value.toNat := by
      rw [UInt32.toNat_toUInt8, Nat.mod_eq_of_lt hlt]
    constructor
    · rintro ⟨⟩
      exact htoNat
    · intro h
      exact congrArg Except.ok (UInt8.toNat_inj.mp (htoNat.trans h.symm))
  · rename_i hge
    have hlt := n.toNat_lt
    exact ⟨fun h ↦ (nomatch h), fun h ↦ absurd (h ▸ hlt) hge⟩

theorem u16Value_eq_ok_iff {name : String} {value : UInt32} {n : UInt16} :
    u16Value name value = .ok n ↔ n.toNat = value.toNat := by
  unfold u16Value
  split
  · rename_i hlt
    have htoNat : value.toUInt16.toNat = value.toNat := by
      rw [UInt32.toNat_toUInt16, Nat.mod_eq_of_lt hlt]
    constructor
    · rintro ⟨⟩
      exact htoNat
    · intro h
      exact congrArg Except.ok (UInt16.toNat_inj.mp (htoNat.trans h.symm))
  · rename_i hge
    have hlt := n.toNat_lt
    exact ⟨fun h ↦ (nomatch h), fun h ↦ absurd (h ▸ hlt) hge⟩

theorem afeId_eq_ok_iff {value : UInt32} {afe : AfeId} : afeId value = .ok afe ↔
    NamesAfe afe value := by
  simp only [afeId, bind_ok_iff, mapError_ok_iff, u8Value_eq_ok_iff, AfeId.fromBoard_eq_ok_iff]
  constructor
  · rintro ⟨board, hboard, rfl⟩
    exact ⟨hboard, hboard ▸ afe.mapped⟩
  · intro h
    exact ⟨afe.board, h.board, rfl⟩

theorem channelId_eq_ok_iff {value : UInt32} {channel : ChannelId} :
    channelId value = .ok channel ↔ NamesChannel channel value := by
  simp only [channelId, bind_ok_iff, mapError_ok_iff, u8Value_eq_ok_iff,
    ChannelId.new_eq_ok_iff]
  constructor
  · rintro ⟨number, hnumber, rfl⟩
    have hboard : channel.afe.board.toNat = value.toNat / 8 := by
      rw [channel.afe_board, UInt8.toNat_div, hnumber]
      rfl
    have hafeChannel : channel.afeChannel.toNat = value.toNat % 8 := by
      rw [channel.afe_channel, UInt8.toNat_mod, hnumber]
      rfl
    exact ⟨hnumber, hboard, hboard ▸ channel.afe.mapped, hafeChannel⟩
  · intro h
    exact ⟨channel.channel, h.channel, rfl⟩

theorem carriesAfe_of_frontendAfe {sent : Pb.AfeConfig} {built : AfeFrontendConfig}
    (h : frontendAfe sent = .ok built) : CarriesAfe sent built := by
  simp only [frontendAfe, bind_ok_iff, afeId_eq_ok_iff, u8Value_eq_ok_iff, u16Value_eq_ok_iff,
    pure_ok_iff] at h
  obtain ⟨afe, hafe, attenuation, hattenuation, bias, hbias, lpf, hlpf, clamp, hclamp, gain, hgain,
    rfl⟩ := h
  exact ⟨hafe, hattenuation, hbias, rfl, rfl, rfl, hlpf, rfl, rfl, hclamp, hgain, rfl⟩

theorem carriesChannel_of_frontendChannel {sent : Pb.ChannelConfig} {built : ChannelFrontendConfig}
    (h : frontendChannel sent = .ok built) : CarriesChannel sent built := by
  simp only [frontendChannel, bind_ok_iff, channelId_eq_ok_iff, u16Value_eq_ok_iff,
    pure_ok_iff] at h
  obtain ⟨channel, hchannel, trim, htrim, offset, hoffset, gain, hgain, rfl⟩ := h
  exact ⟨hchannel, htrim, hoffset, hgain⟩

/-! ## Values that are limited -/

theorem validate12bit_eq_ok_iff {value : UInt16} :
    validate12bit value = .ok () ↔ value.toNat ≤ 4095 := by
  unfold validate12bit
  split
  · rename_i hgt
    have hlt : dac12bitMax.toNat < value.toNat := UInt16.lt_iff_toNat_lt.mp hgt
    exact ⟨fun h ↦ (nomatch h), fun h ↦ absurd hlt (Nat.not_lt.mpr h)⟩
  · rename_i hle
    exact ⟨fun _ ↦ UInt16.le_iff_toNat_le.mp (UInt16.not_lt.mp hle), fun _ ↦ rfl⟩

/-- A command passes its own check when the values that are limited fit. -/
theorem validate_eq_ok_iff {command : AfeCommand} :
    command.validate = .ok () ↔ ∀ value ∈ limitedValues command, value.toNat ≤ 4095 := by
  cases command with
  | setAttenuation | setBias | setTrim | setOffset | setVbiasControl =>
    rw [limitedValues, List.forall_mem_singleton]
    exact validate12bit_eq_ok_iff
  | configureFrontend afes channels biasControl =>
    simp only [AfeCommand.validate, limitedValues, seq_ok_iff, List.forM_eq_forM, forM_ok_iff,
      validate12bit_eq_ok_iff, List.forall_mem_append, List.forall_mem_cons,
        List.forall_mem_flatMap]
    simp [and_assoc]
  | _ => simp [limitedValues, AfeCommand.validate]

/-! ## One submission -/

variable {T : Type} [RpuAfeTransport T]

/-- A first submission that carries the request, and after an alignment reads of the boards in
order, as far as the transport went. -/
structure Submits (messageType : MessageTypeV2) (observed observed' : Observed T)
    (first : Submission)
    (reads : List Submission) : Prop where
  submissions : observed'.submissions = observed.submissions ++ first :: reads
  performed : ∀ submission ∈ first :: reads, submission.Performed T
  carries : Carries prost payload messageType first.command
  limited : ∀ value ∈ limitedValues first.command, value.toNat ≤ 4095
  once : messageType ≠ .alignAfeReq → reads = []
  aligned : messageType = .alignAfeReq →
    ∃ boards, boards <+: List.range afeCount ∧ List.Forall₂ IsAlignmentRead boards reads

/-- A request is answered: without a submission by a failure, or after submissions. -/
def Served (messageType : MessageTypeV2) (observed : Observed T) (answer : List UInt8)
    (observed' : Observed T) : Prop :=
  (observed'.submissions = observed.submissions ∧ Answers prost messageType answer false) ∨
    ∃ success first reads, Answers prost messageType answer success ∧
      Submits prost payload messageType observed observed' first reads ∧
      (success = true → first.Applied)

/-- A request is not answered, because the transport stopped at a submission. -/
def Stopped (messageType : MessageTypeV2) (observed observed' : Observed T) : Prop :=
  ∃ first reads, Submits prost payload messageType observed observed' first reads ∧
    ∃ last ∈ first :: reads, last.reply = none

/-- Every run of a handler on the payload serves it, as long as the transport goes on. -/
def Serves (messageType : MessageTypeV2) (handler : Prog Empty (Observed T) (List UInt8)) : Prop :=
  ∀ observed, wp handler (Served prost payload messageType observed)
    (fun _ ↦ Stopped prost payload messageType observed) observed

theorem applied_of_success {command : AfeCommand} {result : Except RpuError AfeCommandReply}
    (h : (submitOutcome result).success = true) : Submission.Applied ⟨command, some result⟩ := by
  cases result with
  | error err => exact absurd h Bool.false_ne_true
  | ok reply =>
    have hboth := (Bool.and_eq_true _ _).mp h
    exact ⟨reply, rfl, hboth.1, hboth.2⟩

variable {prost payload}

theorem submits_once {messageType : MessageTypeV2} {observed : Observed T} {transport : T}
    {submission : Submission} (hne : messageType ≠ .alignAfeReq)
    (hcarries : Carries prost payload messageType submission.command)
    (hvalid : submission.command.validate = .ok ()) (hperformed : submission.Performed T) :
    Submits prost payload messageType observed ⟨transport, observed.submissions ++ [submission]⟩
      submission [] where
  submissions := rfl
  performed := List.forall_mem_singleton.mpr hperformed
  carries := hcarries
  limited := validate_eq_ok_iff.mp hvalid
  once _ := rfl
  aligned heq := absurd heq hne

/-- A handler that answers failures as such and whose command carries the request serves it. -/
theorem serves_handle {Req Resp : Type} [Inhabited Req] {messageType : MessageTypeV2}
    {name : String}
    {bad : String → Resp} {command : Req → Except String AfeCommand} {refused : Req → String → Resp}
    {respond : Req → SubmitOutcome → Resp} (hne : messageType ≠ .alignAfeReq)
    (hbad : ∀ message, Answers prost messageType (prost.encodeToVec (bad message)) false)
    (hrefused : ∀ req message,
      Answers prost messageType (prost.encodeToVec (refused req message)) false)
    (hrespond : ∀ req outcome,
      Answers prost messageType (prost.encodeToVec (respond req outcome)) outcome.success)
    (hcarries : ∀ req built, prost.decode payload = .ok req → command req = .ok built →
      Carries prost payload messageType built) :
    Serves (T := T) prost payload messageType
      (handle prost name bad command refused respond payload) := by
  intro observed
  unfold handle
  cases hdecode : (prost.decode payload : Except DecodeError Req) with
  | error err => exact Or.inl ⟨rfl, hbad _⟩
  | ok req =>
    dsimp only
    cases hcommand : command req with
    | error err => exact Or.inl ⟨rfl, hrefused _ _⟩
    | ok built =>
      have hbuilt := hcarries req built hdecode hcommand
      rw [wp_bind]
      apply wp_submit
      · intro outcome hfailed _
        exact Or.inl ⟨rfl, hfailed ▸ hrespond req outcome⟩
      · intro transport result hvalid hperformed
        exact Or.inr ⟨_, _, [], hrespond req _, submits_once hne hbuilt hvalid hperformed,
          applied_of_success⟩
      · intro transport hvalid hperformed
        exact ⟨_, [], submits_once hne hbuilt hvalid hperformed, _, List.mem_cons_self, rfl⟩

/-! ## Reads of an alignment -/

/-- The reads of some boards, after what was submitted before. -/
structure ReadBoards (observed : Observed T) (boards : List ℕ) (reads : List Submission)
    (observed' : Observed T) : Prop where
  submissions : observed'.submissions = observed.submissions ++ reads
  performed : ∀ read ∈ reads, read.Performed T
  boards : List.Forall₂ IsAlignmentRead boards reads

theorem readBoards_nil (observed : Observed T) : ReadBoards observed [] [] observed where
  submissions := (List.append_nil _).symm
  performed := List.forall_mem_nil _
  boards := .nil

theorem ReadBoards.append {observed current : Observed T} {boards : List ℕ} {board : ℕ}
    {reads : List Submission} {read : Submission} (h : ReadBoards observed boards reads current)
    (hread : IsAlignmentRead board read) (hperformed : read.Performed T) (transport : T) :
    ReadBoards observed (boards ++ [board]) (reads ++ [read])
      ⟨transport, current.submissions ++ [read]⟩ where
  submissions := by rw [h.submissions, List.append_assoc]
  performed := List.forall_mem_append.mpr ⟨h.performed, List.forall_mem_singleton.mpr hperformed⟩
  boards := List.rel_append h.boards (.cons hread .nil)

/-- Every board has an AFE. -/
theorem fromBoard_of_lt {board : ℕ} (h : board < afeCount) :
    ∃ afe, AfeId.fromBoard (UInt8.ofNat board) = .ok afe ∧ afe.board.toNat = board ∧
      afeBoardToPl[board]? = some afe.pl := by
  have hall : ∀ board < afeCount, (AfeId.fromBoard (UInt8.ofNat board)).toOption.isSome = true := by
    decide
  have hsome := hall board h
  cases hafe : AfeId.fromBoard (UInt8.ofNat board) with
  | error err =>
    rw [hafe] at hsome
    exact absurd hsome Bool.false_ne_true
  | ok afe =>
    have hboard : afe.board.toNat = board := by
      rw [AfeId.fromBoard_eq_ok_iff.mp hafe, UInt8.toNat_ofNat', Nat.mod_eq_of_lt]
      exact h.trans (by decide)
    exact ⟨afe, rfl, hboard, hboard ▸ afe.mapped⟩

/-- The boards are read in order, and each of them once. -/
theorem wp_readAlignmentVectors (observed : Observed T) :
    wp readAlignmentVectors
      (fun _ observed' ↦ ∃ reads, ReadBoards observed (List.range afeCount) reads observed')
      (fun _ observed' ↦ ∃ boards reads, boards <+: List.range afeCount ∧
        ReadBoards observed boards reads observed' ∧ ∃ last ∈ reads, last.reply =
          none) observed := by
  apply wp_foldlM fun visited (_ : List UInt32 × List UInt32) observed' ↦
    ∃ reads, ReadBoards observed visited reads observed'
  · rintro visited board rest vectors current hsplit ⟨reads, hvisited⟩
    have hboard : board < afeCount := by
      apply List.mem_range.mp
      rw [hsplit]
      exact List.mem_append_right _ List.mem_cons_self
    have hinitial : visited ++ [board] <+: List.range afeCount := ⟨rest, by simp [hsplit]⟩
    obtain ⟨afe, hafe, hposition⟩ := fromBoard_of_lt hboard
    unfold readAlignmentVector
    rw [hafe]
    dsimp only
    rw [wp_bind]
    apply wp_submit
    · intro outcome _ hinvalid
      exact absurd rfl hinvalid
    · intro transport result _ hperformed
      have hnext := hvisited.append ⟨afe, rfl, hposition⟩ hperformed transport
      split
      · exact ⟨_, hnext⟩
      · split <;> exact ⟨_, hnext⟩
    · intro transport _ hperformed
      have hnext := hvisited.append ⟨afe, rfl, hposition⟩ hperformed transport
      exact ⟨_, _, hinitial, hnext, _, List.mem_append_right _ List.mem_cons_self, rfl⟩
  · exact ⟨[], readBoards_nil observed⟩

end DaphneSc.Server.Handlers
