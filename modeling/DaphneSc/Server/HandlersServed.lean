import DaphneSc.Server.HandlerCommands

/-!
# Every handler serves its requests

For each handler, its command is the one the request asks for. All of them submit it once, and the
handler of alignments goes on to read what was aligned.
-/

namespace DaphneSc.Server.Handlers

open DaphneSc.Core Core.Afe Core.Rpu Core.Transport Pb Program Results

variable {T : Type} [RpuAfeTransport T] (prost : Prost) (payload : List UInt8)

/-! ## Commands of the requests -/

section Commands

variable {prost payload} {built : AfeCommand}

theorem carries_configureFe {req : ConfigureRequest} (hdecode : prost.decode payload = .ok req)
    (h : configureCommand req = .ok built) :
    Carries prost payload .configureFeReq built := by
  simp only [configureCommand, bind_ok_iff, mapM_ok_iff, u16Value_eq_ok_iff, pure_ok_iff] at h
  obtain ⟨afes, hafes, channels, hchannels, biasControl, hbias, rfl⟩ := h
  exact .configureFe hdecode (hafes.imp fun _ _ ↦ carriesAfe_of_frontendAfe)
    (hchannels.imp fun _ _ ↦ carriesChannel_of_frontendChannel) hbias

theorem carries_writeAfeReg {req : CmdWriteAfeReg} (hdecode : prost.decode payload = .ok req)
    (h : makeWriteRegister req.afeBlock req.regAddress req.regValue = .ok built) :
    Carries prost payload .writeAfeRegReq built := by
  simp only [makeWriteRegister, bind_ok_iff, pure_ok_iff, afeId_eq_ok_iff, u8Value_eq_ok_iff,
    u16Value_eq_ok_iff] at h
  obtain ⟨afe, hafe, register, hregister, value, hvalue, rfl⟩ := h
  exact .writeAfeReg hdecode hafe hregister hvalue

theorem carries_writeAfeVgain {req : CmdWriteAfevgain} (hdecode : prost.decode payload = .ok req)
    (h : makeSetAttenuation req.afeBlock req.vgainValue = .ok built) :
    Carries prost payload .writeAfeVgainReq built := by
  simp only [makeSetAttenuation, bind_ok_iff, pure_ok_iff, afeId_eq_ok_iff, u16Value_eq_ok_iff] at h
  obtain ⟨afe, hafe, value, hvalue, rfl⟩ := h
  exact .writeAfeVgain hdecode hafe hvalue

theorem carries_writeAfeAttenuation {req : CmdWriteAfeAttenuation}
    (hdecode : prost.decode payload = .ok req)
    (h : makeSetAttenuation req.afeBlock req.attenuation = .ok built) :
    Carries prost payload .writeAfeAttenuationReq built := by
  simp only [makeSetAttenuation, bind_ok_iff, pure_ok_iff, afeId_eq_ok_iff, u16Value_eq_ok_iff] at h
  obtain ⟨afe, hafe, value, hvalue, rfl⟩ := h
  exact .writeAfeAttenuation hdecode hafe hvalue

theorem carries_writeAfeBias {req : CmdWriteAfeBiasSet} (hdecode : prost.decode payload = .ok req)
    (h : makeSetBias req.afeBlock req.biasValue = .ok built) :
    Carries prost payload .writeAfeBiasSetReq built := by
  simp only [makeSetBias, bind_ok_iff, pure_ok_iff, afeId_eq_ok_iff, u16Value_eq_ok_iff] at h
  obtain ⟨afe, hafe, value, hvalue, rfl⟩ := h
  exact .writeAfeBias hdecode hafe hvalue

theorem carries_writeTrimChannel {req : CmdWriteTrimSingleChannel}
    (hdecode : prost.decode payload = .ok req)
    (h : (do
        let target ← ChannelTarget.one <$> channelId req.trimChannel
        makeSetTrim target req.trimValue req.trimGain
      : Except String AfeCommand) = .ok built) :
    Carries prost payload .writeTrimChReq built := by
  simp only [makeSetTrim, bind_ok_iff, map_ok_iff, pure_ok_iff, channelId_eq_ok_iff,
    u16Value_eq_ok_iff] at h
  obtain ⟨_, ⟨channel, hchannel, rfl⟩, value, hvalue, rfl⟩ := h
  exact .writeTrimChannel hdecode hchannel hvalue

theorem carries_writeTrimAllChannels {req : CmdWriteTrimAllChannels}
    (hdecode : prost.decode payload = .ok req)
    (h : makeSetTrim .all req.trimValue req.trimGain = .ok built) :
    Carries prost payload .writeTrimAllChReq built := by
  simp only [makeSetTrim, bind_ok_iff, pure_ok_iff, u16Value_eq_ok_iff] at h
  obtain ⟨value, hvalue, rfl⟩ := h
  exact .writeTrimAllChannels hdecode hvalue

theorem carries_writeTrimAllAfe {req : CmdWriteTrimAllAfe}
    (hdecode : prost.decode payload = .ok req)
    (h : (do
        let target ← ChannelTarget.afe <$> afeId req.afeBlock
        makeSetTrim target req.trimValue req.trimGain
      : Except String AfeCommand) = .ok built) :
    Carries prost payload .writeTrimAllAfeReq built := by
  simp only [makeSetTrim, bind_ok_iff, map_ok_iff, pure_ok_iff, afeId_eq_ok_iff,
    u16Value_eq_ok_iff] at h
  obtain ⟨_, ⟨afe, hafe, rfl⟩, value, hvalue, rfl⟩ := h
  exact .writeTrimAllAfe hdecode hafe hvalue

theorem carries_writeOffsetChannel {req : CmdWriteOffsetSingleChannel}
    (hdecode : prost.decode payload = .ok req)
    (h : (do
        let target ← ChannelTarget.one <$> channelId req.offsetChannel
        makeSetOffset target req.offsetValue req.offsetGain
      : Except String AfeCommand) = .ok built) :
    Carries prost payload .writeOffsetChReq built := by
  simp only [makeSetOffset, bind_ok_iff, map_ok_iff, pure_ok_iff, channelId_eq_ok_iff,
    u16Value_eq_ok_iff] at h
  obtain ⟨_, ⟨channel, hchannel, rfl⟩, value, hvalue, rfl⟩ := h
  exact .writeOffsetChannel hdecode hchannel hvalue

theorem carries_writeOffsetAllChannels {req : CmdWriteOffsetAllChannels}
    (hdecode : prost.decode payload = .ok req)
    (h : makeSetOffset .all req.offsetValue req.offsetGain = .ok built) :
    Carries prost payload .writeOffsetAllChReq built := by
  simp only [makeSetOffset, bind_ok_iff, pure_ok_iff, u16Value_eq_ok_iff] at h
  obtain ⟨value, hvalue, rfl⟩ := h
  exact .writeOffsetAllChannels hdecode hvalue

theorem carries_writeOffsetAllAfe {req : CmdWriteOffsetAllAfe}
    (hdecode : prost.decode payload = .ok req)
    (h : (do
        let target ← ChannelTarget.afe <$> afeId req.afeBlock
        makeSetOffset target req.offsetValue req.offsetGain
      : Except String AfeCommand) = .ok built) :
    Carries prost payload .writeOffsetAllAfeReq built := by
  simp only [makeSetOffset, bind_ok_iff, map_ok_iff, pure_ok_iff, afeId_eq_ok_iff,
    u16Value_eq_ok_iff] at h
  obtain ⟨_, ⟨afe, hafe, rfl⟩, value, hvalue, rfl⟩ := h
  exact .writeOffsetAllAfe hdecode hafe hvalue

theorem carries_writeVbiasControl {req : CmdWriteVbiasControl}
    (hdecode : prost.decode payload = .ok req)
    (h : makeSetVbiasControl req.vBiasControlValue req.enable = .ok built) :
    Carries prost payload .writeVbiasControlReq built := by
  simp only [makeSetVbiasControl, bind_ok_iff, pure_ok_iff, u16Value_eq_ok_iff] at h
  obtain ⟨value, hvalue, rfl⟩ := h
  exact .writeVbiasControl hdecode hvalue

theorem carries_readAfeReg {req : CmdReadAfeReg} (hdecode : prost.decode payload = .ok req)
    (h : makeReadRegister req.afeBlock req.regAddress = .ok built) :
    Carries prost payload .readAfeRegReq built := by
  simp only [makeReadRegister, bind_ok_iff, pure_ok_iff, afeId_eq_ok_iff, u8Value_eq_ok_iff] at h
  obtain ⟨afe, hafe, register, hregister, rfl⟩ := h
  exact .readAfeReg hdecode hafe hregister

theorem carries_readAfeVgain {req : CmdReadAfeVgain} (hdecode : prost.decode payload = .ok req)
    (h : AfeCommand.readAttenuation <$> afeId req.afeBlock = .ok built) :
    Carries prost payload .readAfeVgainReq built := by
  simp only [map_ok_iff, afeId_eq_ok_iff] at h
  obtain ⟨afe, hafe, rfl⟩ := h
  exact .readAfeVgain hdecode hafe

theorem carries_readAfeBias {req : CmdReadAfeBiasSet} (hdecode : prost.decode payload = .ok req)
    (h : AfeCommand.readBias <$> afeId req.afeBlock = .ok built) :
    Carries prost payload .readAfeBiasSetReq built := by
  simp only [map_ok_iff, afeId_eq_ok_iff] at h
  obtain ⟨afe, hafe, rfl⟩ := h
  exact .readAfeBias hdecode hafe

theorem carries_readTrimChannel {req : CmdReadTrimSingleChannel}
    (hdecode : prost.decode payload = .ok req)
    (h : (fun channel ↦ AfeCommand.readTrim (.one channel)) <$> channelId req.trimChannel =
      .ok built) :
    Carries prost payload .readTrimChReq built := by
  simp only [map_ok_iff, channelId_eq_ok_iff] at h
  obtain ⟨channel, hchannel, rfl⟩ := h
  exact .readTrimChannel hdecode hchannel

theorem carries_readTrimAllAfe {req : CmdReadTrimAllAfe} (hdecode : prost.decode payload = .ok req)
    (h : (fun afe ↦ AfeCommand.readTrim (.afe afe)) <$> afeId req.afeBlock = .ok built) :
    Carries prost payload .readTrimAllAfeReq built := by
  simp only [map_ok_iff, afeId_eq_ok_iff] at h
  obtain ⟨afe, hafe, rfl⟩ := h
  exact .readTrimAllAfe hdecode hafe

theorem carries_readOffsetChannel {req : CmdReadOffsetSingleChannel}
    (hdecode : prost.decode payload = .ok req)
    (h : (fun channel ↦ AfeCommand.readOffset (.one channel)) <$> channelId req.offsetChannel =
      .ok built) :
    Carries prost payload .readOffsetChReq built := by
  simp only [map_ok_iff, channelId_eq_ok_iff] at h
  obtain ⟨channel, hchannel, rfl⟩ := h
  exact .readOffsetChannel hdecode hchannel

theorem carries_readOffsetAllAfe {req : CmdReadOffsetAllAfe}
    (hdecode : prost.decode payload = .ok req)
    (h : (fun afe ↦ AfeCommand.readOffset (.afe afe)) <$> afeId req.afeBlock = .ok built) :
    Carries prost payload .readOffsetAllAfeReq built := by
  simp only [map_ok_iff, afeId_eq_ok_iff] at h
  obtain ⟨afe, hafe, rfl⟩ := h
  exact .readOffsetAllAfe hdecode hafe

theorem carries_writeAfeFunction {req : CmdWriteAfeFunction}
    (hdecode : prost.decode payload = .ok req)
    (h : makeWriteFunction req.afeBlock req.function req.configValue = .ok built) :
    Carries prost payload .writeAfeFunctionReq built := by
  simp only [makeWriteFunction, bind_ok_iff, pure_ok_iff, afeId_eq_ok_iff, u16Value_eq_ok_iff] at h
  obtain ⟨afe, hafe, value, hvalue, rfl⟩ := h
  exact .writeAfeFunction hdecode hafe hvalue

end Commands

/-! ## Alignment -/

variable {prost payload}

/-- An alignment and the reads of some boards in order. -/
theorem submits_aligned {req : CmdAlignAfEs} {observed observed' : Observed T} {transport : T}
    {first : Submission} {boards : List ℕ} {reads : List Submission}
    (hdecode : prost.decode payload = .ok req) (hfirst : first.command = .align)
    (hperformed : first.Performed T) (hinitial : boards <+: List.range afeCount)
    (h : ReadBoards ⟨transport, observed.submissions ++ [first]⟩ boards reads observed') :
    Submits prost payload .alignAfeReq observed observed' first reads where
  submissions := by rw [h.submissions, List.append_assoc, List.singleton_append]
  performed := List.forall_mem_cons.mpr ⟨hperformed, h.performed⟩
  carries := hfirst ▸ .alignAfe hdecode
  limited := by simp [hfirst, limitedValues]
  once hne := absurd rfl hne
  aligned _ := ⟨boards, hinitial, h.boards⟩

variable (prost payload)

/-- The boards are read unless the transport failed at the alignment. -/
theorem serves_alignAfe :
    Serves (T := T) prost payload .alignAfeReq (handleAlignAfe prost payload) := by
  intro observed
  unfold handleAlignAfe
  cases hdecode : (prost.decode payload : Except DecodeError CmdAlignAfEs) with
  | error err => exact Or.inl ⟨rfl, .alignAfe _⟩
  | ok req =>
    dsimp only
    rw [wp_bind]
    apply wp_submit
    · intro outcome _ hinvalid
      exact absurd rfl hinvalid
    · intro transport result _ hperformed
      rw [wp_bind]
      split
      · exact Or.inr ⟨_, _, [], .alignAfe _,
          submits_aligned hdecode rfl hperformed List.nil_prefix (readBoards_nil _),
          applied_of_success⟩
      · apply wp_mono (wp_readAlignmentVectors _)
        · rintro vectors observed' ⟨reads, hall⟩
          have hsubmits := submits_aligned hdecode rfl hperformed List.prefix_rfl hall
          exact Or.inr ⟨_, _, reads, .alignAfe _, hsubmits, applied_of_success⟩
        · rintro _ observed' ⟨boards, reads, hinitial, hsome, last, hlast, hreply⟩
          have hsubmits := submits_aligned hdecode rfl hperformed hinitial hsome
          exact ⟨_, reads, hsubmits, last, List.mem_cons_of_mem _ hlast, hreply⟩
    · intro transport _ hperformed
      exact ⟨_, [], submits_aligned hdecode rfl hperformed List.nil_prefix (readBoards_nil _), _,
        List.mem_cons_self, rfl⟩

/-! ## Main result -/

theorem serves_handleRpuAfe {messageType : MessageTypeV2}
    (hroute : routeMessageType messageType = .rpuAfe) :
    Serves (T := T) prost payload messageType (handleRpuAfe prost messageType payload) := by
  unfold handleRpuAfe
  cases messageType
  case alignAfeReq => exact serves_alignAfe prost payload
  all_goals dsimp only
  -- The answers are the handler's own, and what is left is what its command carries.
  all_goals first
    | refine serves_handle (by decide) (fun _ ↦ by constructor) (fun _ _ ↦ by constructor)
        (fun _ _ ↦ by constructor) fun req built hdecode h ↦ ?_
    | cases hroute
  case configureFeReq => exact carries_configureFe hdecode h
  case writeAfeRegReq => exact carries_writeAfeReg hdecode h
  case writeAfeVgainReq => exact carries_writeAfeVgain hdecode h
  case writeAfeAttenuationReq => exact carries_writeAfeAttenuation hdecode h
  case writeAfeBiasSetReq => exact carries_writeAfeBias hdecode h
  case writeTrimChReq => exact carries_writeTrimChannel hdecode h
  case writeTrimAllChReq => exact carries_writeTrimAllChannels hdecode h
  case writeTrimAllAfeReq => exact carries_writeTrimAllAfe hdecode h
  case writeOffsetChReq => exact carries_writeOffsetChannel hdecode h
  case writeOffsetAllChReq => exact carries_writeOffsetAllChannels hdecode h
  case writeOffsetAllAfeReq => exact carries_writeOffsetAllAfe hdecode h
  case writeVbiasControlReq => exact carries_writeVbiasControl hdecode h
  case readAfeRegReq => exact carries_readAfeReg hdecode h
  case readAfeVgainReq => exact carries_readAfeVgain hdecode h
  case readAfeBiasSetReq => exact carries_readAfeBias hdecode h
  case readTrimChReq => exact carries_readTrimChannel hdecode h
  case readTrimAllChReq =>
    cases h
    exact .readTrimAllChannels hdecode
  case readTrimAllAfeReq => exact carries_readTrimAllAfe hdecode h
  case readOffsetChReq => exact carries_readOffsetChannel hdecode h
  case readOffsetAllChReq =>
    cases h
    exact .readOffsetAllChannels hdecode
  case readOffsetAllAfeReq => exact carries_readOffsetAllAfe hdecode h
  case readVbiasControlReq =>
    cases h
    exact .readVbiasControl hdecode
  case setAfeResetReq =>
    cases h
    exact .setAfeReset hdecode
  case doAfeResetReq =>
    cases h
    exact .doAfeReset hdecode
  case setAfePowerStateReq =>
    cases h
    exact .setAfePowerState hdecode
  case writeAfeFunctionReq => exact carries_writeAfeFunction hdecode h

/-- The message types that are routed to the AFEs. -/
abbrev AfeMessageType := { messageType : MessageTypeV2 // routeMessageType messageType = .rpuAfe }

/-- Whatever its type and payload, and whatever the transport does, a request of an AFE route is
answered with a failure and nothing is submitted, or its command is submitted once, followed by the
reads of an alignment, and its answer says success only when the transport applied it. -/
theorem afe_request_served (messageType : AfeMessageType) (observed : Observed T) :
    match handleRpuAfe prost messageType payload observed with
    | .ok answer observed' =>
      handleRpuAfe prost messageType payload observed.transport = .ok answer observed'.transport ∧
        Served prost payload messageType observed answer observed'
    | .error abort observed' =>
      handleRpuAfe prost messageType payload observed.transport =
          .error abort observed'.transport ∧
        Stopped prost payload messageType observed observed' := by
  have hserves := serves_handleRpuAfe (T := T) prost payload messageType.property observed
  have herased := simulates_handleRpuAfe prost messageType payload observed
  unfold wp at hserves
  cases hrun : handleRpuAfe prost messageType payload observed with
  | ok answer observed' =>
    rw [hrun] at hserves herased
    exact ⟨herased, hserves⟩
  | error abort observed' =>
    rw [hrun] at hserves herased
    exact ⟨herased, hserves⟩

end DaphneSc.Server.Handlers
