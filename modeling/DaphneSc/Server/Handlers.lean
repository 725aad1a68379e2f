import DaphneSc.Core.Rpu
import DaphneSc.Server.Messages
import Mathlib.Data.List.Infix

/-!
# Handlers of the AFE requests

A handler decodes its request, builds a command from it, submits the command and answers with what
became of it. Numbers that do not fit the command are refused, and so are commands that do not pass
their own check; neither reaches the transport.
-/

namespace DaphneSc.Server.Handlers

open DaphneSc.Core Core.Afe Core.Rpu Core.Transport Pb Program

/-! ## Submitting -/

abbrev rpuFailPrefix : String := "RPU AFE command failed: "

structure SubmitOutcome where
  success : Bool
  message : String
  readback : Option UInt32
  faultCode : UInt32
  contextCode : UInt32
  transportError : Bool
  deriving DecidableEq, Repr

section Submit

variable {T : Type} [RpuAfeTransport T]

/-- What is made of the transport's answer. -/
def submitOutcome : Except RpuError AfeCommandReply → SubmitOutcome
  | .ok reply => {
      success := reply.accepted && reply.applied
      message := reply.message
      readback := reply.readback
      faultCode := reply.faultCode
      contextCode := reply.contextCode
      transportError := false }
  | .error err => {
      success := false
      message := rpuFailPrefix ++ err.toText
      readback := none
      faultCode := 0
      contextCode := 0
      transportError := true }

def submit (command : AfeCommand) : Prog Empty T SubmitOutcome :=
  match command.validate with
  | .error err => return {
      success := false
      message := err.toText
      readback := none
      faultCode := 0
      contextCode := 0
      transportError := false }
  | .ok _ => submitOutcome <$> attempt (RpuAfeTransport.submitAfeCommand command)

end Submit

/-! ## Numbers of a request -/

def u8Value (name : String) (value : UInt32) : Except String UInt8 :=
  if value.toNat < 2 ^ 8 then .ok value.toUInt8 else .error s!"{name} out of range for u8: {value}"

def u16Value (name : String) (value : UInt32) : Except String UInt16 :=
  if value.toNat < 2 ^ 16 then .ok value.toUInt16
    else .error s!"{name} out of range for u16: {value}"

def afeId (value : UInt32) : Except String AfeId := do
  let afe ← u8Value "afeBlock" value
  (AfeId.fromBoard afe).mapError AfeValidationError.toText

def channelId (value : UInt32) : Except String ChannelId := do
  let channel ← u8Value "channel" value
  (ChannelId.new channel).mapError AfeValidationError.toText

/-! ## Commands of a request -/

def frontendAfe (afe : AfeConfig) : Except String AfeFrontendConfig := do
  let adc := afe.adc.getD default
  let pga := afe.pga.getD default
  let lna := afe.lna.getD default
  return {
    afe := ← afeId afe.id
    attenuation := ← u16Value "attenuators" afe.attenuators
    bias := ← u16Value "v_bias" afe.vBias
    adc := {
      resolution := adc.resolution
      outputFormat := adc.outputFormat
      msbFirst := adc.sbFirst }
    pga := {
      lpfCutFrequency := ← u8Value "pga.lpf_cut_frequency" pga.lpfCutFrequency
      integratorDisable := pga.integratorDisable
      gain := pga.gain }
    lna := {
      clamp := ← u8Value "lna.clamp" lna.clamp
      gain := ← u8Value "lna.gain" lna.gain
      integratorDisable := lna.integratorDisable } }

def frontendChannel (channel : ChannelConfig) : Except String ChannelFrontendConfig := do
  return {
    channel := ← channelId channel.id
    trim := ← u16Value "trim" channel.trim
    offset := ← u16Value "offset" channel.offset
    gain := ← u16Value "gain" channel.gain }

def configureCommand (req : ConfigureRequest) : Except String AfeCommand := do
  let afes ← req.afes.mapM frontendAfe
  let channels ← req.channels.mapM frontendChannel
  return .configureFrontend afes channels (← u16Value "biasctrl" req.biasctrl)

def makeReadRegister (afeBlock regAddress : UInt32) : Except String AfeCommand := do
  return .readRegister (← afeId afeBlock) (← u8Value "regAddress" regAddress)

def makeWriteRegister (afeBlock regAddress regValue : UInt32) : Except String AfeCommand := do
  return .writeRegister (← afeId afeBlock) (← u8Value "regAddress" regAddress)
    (← u16Value "regValue" regValue)

def makeSetAttenuation (afeBlock value : UInt32) : Except String AfeCommand := do
  return .setAttenuation (← afeId afeBlock) (← u16Value "attenuation" value)

def makeSetBias (afeBlock value : UInt32) : Except String AfeCommand := do
  return .setBias (← afeId afeBlock) (← u16Value "biasValue" value)

def makeSetTrim (target : ChannelTarget) (value : UInt32) (gain : Bool) :
    Except String AfeCommand := do
  return .setTrim target (← u16Value "trimValue" value) gain

def makeSetOffset (target : ChannelTarget) (value : UInt32) (gain : Bool) :
    Except String AfeCommand := do
  return .setOffset target (← u16Value "offsetValue" value) gain

def makeSetVbiasControl (value : UInt32) (enable : Bool) : Except String AfeCommand := do
  return .setVbiasControl (← u16Value "vBiasControlValue" value) enable

def makeWriteFunction (afeBlock : UInt32) (name : String) (value : UInt32) :
    Except String AfeCommand := do
  return .writeFunction (← afeId afeBlock) name (← u16Value "configValue" value)

/-! ## Handlers -/

section Handle

variable {T : Type} [RpuAfeTransport T] (prost : Prost)

/-- What the handlers share. A request that cannot be decoded is answered by `bad`, one without a
command by `refused`, and one whose command was submitted by `respond`. -/
def handle {Req Resp : Type} [Inhabited Req] (name : String) (bad : String → Resp)
    (command : Req → Except String AfeCommand) (refused : Req → String → Resp)
    (respond : Req → SubmitOutcome → Resp) (payload : List UInt8) : Prog Empty T (List UInt8) :=
  match prost.decode payload with
  | .error err => return prost.encodeToVec (bad s!"Bad {name} payload: {err}")
  | .ok req =>
    match command req with
    | .error err => return prost.encodeToVec (refused req err)
    | .ok command => do
      let outcome ← submit command
      return prost.encodeToVec (respond req outcome)

/-! ### Configuration -/

def handleConfigureFe : List UInt8 → Prog Empty T (List UInt8) :=
  handle prost "ConfigureRequest"
    (fun message ↦ ({ success := false, message } : ConfigureResponse))
    configureCommand
    (fun _ message ↦ { success := false, message })
    fun _ outcome ↦ { success := outcome.success, message := outcome.message }

/-! ### Writes -/

def badWriteAfeReg (message : String) : CmdWriteAfeRegResponse := { success := false, message }

def handleWriteAfeReg : List UInt8 → Prog Empty T (List UInt8) :=
  handle prost "cmd_writeAFEReg" badWriteAfeReg
    (fun req : CmdWriteAfeReg ↦ makeWriteRegister req.afeBlock req.regAddress req.regValue)
    (fun _ ↦ badWriteAfeReg)
    fun req outcome ↦ {
      success := outcome.success
      message := outcome.message
      afeBlock := req.afeBlock
      regAddress := req.regAddress
      regValue := outcome.readback.getD 0 }

def badWriteAfeVgain (message : String) : CmdWriteAfevgainResponse := { success := false, message }

def handleWriteAfeVgain : List UInt8 → Prog Empty T (List UInt8) :=
  handle prost "cmd_writeAFEVGAIN" badWriteAfeVgain
    (fun req : CmdWriteAfevgain ↦ makeSetAttenuation req.afeBlock req.vgainValue)
    (fun _ ↦ badWriteAfeVgain)
    fun req outcome ↦ {
      success := outcome.success
      message := outcome.message
      afeBlock := req.afeBlock
      vgainValue := outcome.readback.getD 0 }

def badWriteAfeAttenuation (message : String) : CmdWriteAfeAttenuationResponse :=
  { success := false, message }

def handleWriteAfeAttenuation : List UInt8 → Prog Empty T (List UInt8) :=
  handle prost "cmd_writeAFEAttenuation" badWriteAfeAttenuation
    (fun req : CmdWriteAfeAttenuation ↦ makeSetAttenuation req.afeBlock req.attenuation)
    (fun _ ↦ badWriteAfeAttenuation)
    fun req outcome ↦ {
      success := outcome.success
      message := outcome.message
      afeBlock := req.afeBlock
      attenuation := outcome.readback.getD 0 }

def badWriteAfeBias (message : String) : CmdWriteAfeBiasSetResponse := { success := false, message }

def handleWriteAfeBias : List UInt8 → Prog Empty T (List UInt8) :=
  handle prost "cmd_writeAFEBiasSet" badWriteAfeBias
    (fun req : CmdWriteAfeBiasSet ↦ makeSetBias req.afeBlock req.biasValue)
    (fun _ ↦ badWriteAfeBias)
    fun req outcome ↦ {
      success := outcome.success
      message := outcome.message
      afeBlock := req.afeBlock
      biasValue := outcome.readback.getD 0 }

def badWriteTrimChannel (message : String) : CmdWriteTrimSingleChannelResponse :=
  { success := false, message }

def handleWriteTrimChannel : List UInt8 → Prog Empty T (List UInt8) :=
  handle prost "cmd_writeTrim_singleChannel" badWriteTrimChannel
    (fun req : CmdWriteTrimSingleChannel ↦ do
      let target ← ChannelTarget.one <$> channelId req.trimChannel
      makeSetTrim target req.trimValue req.trimGain)
    (fun _ ↦ badWriteTrimChannel)
    fun req outcome ↦ {
      success := outcome.success
      message := outcome.message
      trimChannel := req.trimChannel
      trimValue := outcome.readback.getD 0
      trimGain := req.trimGain }

def badWriteTrimAllChannels (message : String) : CmdWriteTrimAllChannelsResponse :=
  { success := false, message }

def handleWriteTrimAllChannels : List UInt8 → Prog Empty T (List UInt8) :=
  handle prost "cmd_writeTRIM_allChannels" badWriteTrimAllChannels
    (fun req : CmdWriteTrimAllChannels ↦ makeSetTrim .all req.trimValue req.trimGain)
    (fun _ ↦ badWriteTrimAllChannels)
    fun req outcome ↦ {
      success := outcome.success
      message := outcome.message
      trimValue := outcome.readback.getD 0
      trimGain := req.trimGain }

def badWriteTrimAllAfe (message : String) : CmdWriteTrimAllAfeResponse :=
  { success := false, message }

def handleWriteTrimAllAfe : List UInt8 → Prog Empty T (List UInt8) :=
  handle prost "cmd_writeTrim_allAFE" badWriteTrimAllAfe
    (fun req : CmdWriteTrimAllAfe ↦ do
      let target ← ChannelTarget.afe <$> afeId req.afeBlock
      makeSetTrim target req.trimValue req.trimGain)
    (fun _ ↦ badWriteTrimAllAfe)
    fun req outcome ↦ {
      success := outcome.success
      message := outcome.message
      afeBlock := req.afeBlock
      trimValue := outcome.readback.getD 0
      trimGain := req.trimGain }

def badWriteOffsetChannel (message : String) : CmdWriteOffsetSingleChannelResponse :=
  { success := false, message }

def handleWriteOffsetChannel : List UInt8 → Prog Empty T (List UInt8) :=
  handle prost "cmd_writeOFFSET_singleChannel" badWriteOffsetChannel
    (fun req : CmdWriteOffsetSingleChannel ↦ do
      let target ← ChannelTarget.one <$> channelId req.offsetChannel
      makeSetOffset target req.offsetValue req.offsetGain)
    (fun _ ↦ badWriteOffsetChannel)
    fun req outcome ↦ {
      success := outcome.success
      message := outcome.message
      offsetChannel := req.offsetChannel
      offsetValue := outcome.readback.getD 0
      offsetGain := req.offsetGain }

def badWriteOffsetAllChannels (message : String) : CmdWriteOffsetAllChannelsResponse :=
  { success := false, message }

def handleWriteOffsetAllChannels : List UInt8 → Prog Empty T (List UInt8) :=
  handle prost "cmd_writeOFFSET_allChannels" badWriteOffsetAllChannels
    (fun req : CmdWriteOffsetAllChannels ↦ makeSetOffset .all req.offsetValue req.offsetGain)
    (fun _ ↦ badWriteOffsetAllChannels)
    fun req outcome ↦ {
      success := outcome.success
      message := outcome.message
      offsetValue := outcome.readback.getD 0
      offsetGain := req.offsetGain }

def badWriteOffsetAllAfe (message : String) : CmdWriteOffsetAllAfeResponse :=
  { success := false, message }

def handleWriteOffsetAllAfe : List UInt8 → Prog Empty T (List UInt8) :=
  handle prost "cmd_writeOFFSET_allAFE" badWriteOffsetAllAfe
    (fun req : CmdWriteOffsetAllAfe ↦ do
      let target ← ChannelTarget.afe <$> afeId req.afeBlock
      makeSetOffset target req.offsetValue req.offsetGain)
    (fun _ ↦ badWriteOffsetAllAfe)
    fun req outcome ↦ {
      success := outcome.success
      message := outcome.message
      afeBlock := req.afeBlock
      offsetValue := outcome.readback.getD 0
      offsetGain := req.offsetGain }

def badWriteVbiasControl (message : String) : CmdWriteVbiasControlResponse :=
  { success := false, message }

def handleWriteVbiasControl : List UInt8 → Prog Empty T (List UInt8) :=
  handle prost "cmd_writeVbiasControl" badWriteVbiasControl
    (fun req : CmdWriteVbiasControl ↦ makeSetVbiasControl req.vBiasControlValue req.enable)
    (fun _ ↦ badWriteVbiasControl)
    fun _ outcome ↦ {
      success := outcome.success
      message := outcome.message
      vBiasControlValue := outcome.readback.getD 0 }

/-! ### Reads -/

def badReadAfeReg (message : String) : CmdReadAfeRegResponse := { success := false, message }

def handleReadAfeReg : List UInt8 → Prog Empty T (List UInt8) :=
  handle prost "cmd_readAFEReg" badReadAfeReg
    (fun req : CmdReadAfeReg ↦ makeReadRegister req.afeBlock req.regAddress)
    (fun _ ↦ badReadAfeReg)
    fun req outcome ↦ {
      success := outcome.success
      message := outcome.message
      afeBlock := req.afeBlock
      regAddress := req.regAddress
      regValue := outcome.readback.getD 0 }

def badReadAfeVgain (message : String) : CmdReadAfeVgainResponse := { success := false, message }

def handleReadAfeVgain : List UInt8 → Prog Empty T (List UInt8) :=
  handle prost "cmd_readAFEVgain" badReadAfeVgain
    (fun req : CmdReadAfeVgain ↦ AfeCommand.readAttenuation <$> afeId req.afeBlock)
    (fun _ ↦ badReadAfeVgain)
    fun req outcome ↦ {
      success := outcome.success
      message := outcome.message
      afeBlock := req.afeBlock
      vgainValue := outcome.readback.getD 0 }

def badReadAfeBias (message : String) : CmdReadAfeBiasSetResponse := { success := false, message }

def handleReadAfeBias : List UInt8 → Prog Empty T (List UInt8) :=
  handle prost "cmd_readAFEBiasSet" badReadAfeBias
    (fun req : CmdReadAfeBiasSet ↦ AfeCommand.readBias <$> afeId req.afeBlock)
    (fun _ ↦ badReadAfeBias)
    fun req outcome ↦ {
      success := outcome.success
      message := outcome.message
      afeBlock := req.afeBlock
      biasValue := outcome.readback.getD 0 }

def badReadTrimChannel (message : String) : CmdReadTrimSingleChannelResponse :=
  { success := false, message }

def handleReadTrimChannel : List UInt8 → Prog Empty T (List UInt8) :=
  handle prost "cmd_readTrim_singleChannel" badReadTrimChannel
    (fun req : CmdReadTrimSingleChannel ↦
      (fun channel ↦ AfeCommand.readTrim (.one channel)) <$> channelId req.trimChannel)
    (fun _ ↦ badReadTrimChannel)
    fun req outcome ↦ {
      success := outcome.success
      message := outcome.message
      trimChannel := req.trimChannel
      trimValue := outcome.readback.getD 0 }

def handleReadTrimAllChannels : List UInt8 → Prog Empty T (List UInt8) :=
  handle prost "cmd_readTrim_allChannels"
    (fun message ↦ ({ success := false, message } : CmdReadTrimAllChannelsResponse))
    (fun _ : CmdReadTrimAllChannels ↦ .ok (.readTrim .all))
    (fun _ message ↦ { success := false, message })
    fun _ outcome ↦ {
      success := outcome.success
      message := outcome.message
      trimValues := [] }

def handleReadTrimAllAfe : List UInt8 → Prog Empty T (List UInt8) :=
  handle prost "cmd_readTrim_allAFE"
    (fun message ↦ ({ success := false, message } : CmdReadTrimAllAfeResponse))
    (fun req : CmdReadTrimAllAfe ↦
      (fun afe ↦ AfeCommand.readTrim (.afe afe)) <$> afeId req.afeBlock)
    (fun req message ↦ { success := false, message, afeBlock := req.afeBlock })
    fun req outcome ↦ {
      success := outcome.success
      message := outcome.message
      afeBlock := req.afeBlock
      trimValues := [] }

def badReadOffsetChannel (message : String) : CmdReadOffsetSingleChannelResponse :=
  { success := false, message }

def handleReadOffsetChannel : List UInt8 → Prog Empty T (List UInt8) :=
  handle prost "cmd_readOffset_singleChannel" badReadOffsetChannel
    (fun req : CmdReadOffsetSingleChannel ↦
      (fun channel ↦ AfeCommand.readOffset (.one channel)) <$> channelId req.offsetChannel)
    (fun _ ↦ badReadOffsetChannel)
    fun req outcome ↦ {
      success := outcome.success
      message := outcome.message
      offsetChannel := req.offsetChannel
      offsetValue := outcome.readback.getD 0 }

def handleReadOffsetAllChannels : List UInt8 → Prog Empty T (List UInt8) :=
  handle prost "cmd_readOffset_allChannels"
    (fun message ↦ ({ success := false, message } : CmdReadOffsetAllChannelsResponse))
    (fun _ : CmdReadOffsetAllChannels ↦ .ok (.readOffset .all))
    (fun _ message ↦ { success := false, message })
    fun _ outcome ↦ {
      success := outcome.success
      message := outcome.message
      offsetValues := [] }

def handleReadOffsetAllAfe : List UInt8 → Prog Empty T (List UInt8) :=
  handle prost "cmd_readOffset_allAFE"
    (fun message ↦ ({ success := false, message } : CmdReadOffsetAllAfeResponse))
    (fun req : CmdReadOffsetAllAfe ↦
      (fun afe ↦ AfeCommand.readOffset (.afe afe)) <$> afeId req.afeBlock)
    (fun req message ↦ { success := false, message, afeBlock := req.afeBlock })
    fun req outcome ↦ {
      success := outcome.success
      message := outcome.message
      afeBlock := req.afeBlock
      offsetValues := [] }

def handleReadVbiasControl : List UInt8 → Prog Empty T (List UInt8) :=
  handle prost "cmd_readVbiasControl"
    (fun message ↦ ({ success := false, message } : CmdReadVbiasControlResponse))
    (fun _ : CmdReadVbiasControl ↦ .ok .readVbiasControl)
    (fun _ message ↦ { success := false, message })
    fun _ outcome ↦ {
      success := outcome.success
      message := outcome.message
      vBiasControlValue := outcome.readback.getD 0 }

/-! ### Control of the AFEs -/

def handleSetAfeReset : List UInt8 → Prog Empty T (List UInt8) :=
  handle prost "cmd_setAFEReset"
    (fun message ↦ ({ success := false, message } : CmdSetAfeResetResponse))
    (fun req : CmdSetAfeReset ↦ .ok (.setReset req.resetValue))
    (fun _ message ↦ { success := false, message })
    fun req outcome ↦ {
      success := outcome.success
      message := outcome.message
      resetValue := req.resetValue }

def handleDoAfeReset : List UInt8 → Prog Empty T (List UInt8) :=
  handle prost "cmd_doAFEReset"
    (fun message ↦ ({ success := false, message } : CmdDoAfeResetResponse))
    (fun _ : CmdDoAfeReset ↦ .ok .doReset)
    (fun _ message ↦ { success := false, message })
    fun _ outcome ↦ { success := outcome.success, message := outcome.message }

def handleSetAfePowerState : List UInt8 → Prog Empty T (List UInt8) :=
  handle prost "cmd_setAFEPowerState"
    (fun message ↦ ({ success := false, message } : CmdSetAfePowerStateResponse))
    (fun req : CmdSetAfePowerState ↦ .ok (.setPowerState req.powerState))
    (fun _ message ↦ { success := false, message })
    fun req outcome ↦ {
      success := outcome.success
      message := outcome.message
      powerState := outcome.readback.getD req.powerState.toUInt32 }

def handleWriteAfeFunction : List UInt8 → Prog Empty T (List UInt8) :=
  handle prost "cmd_writeAFEFunction"
    (fun message ↦ ({ success := false, message } : CmdWriteAfeFunctionResponse))
    (fun req : CmdWriteAfeFunction ↦ makeWriteFunction req.afeBlock req.function req.configValue)
    (fun req message ↦ {
      success := false
      message
      afeBlock := req.afeBlock
      function := req.function
      configValue := req.configValue })
    fun req outcome ↦ {
      success := outcome.success
      message := outcome.message
      afeBlock := req.afeBlock
      function := req.function
      configValue := outcome.readback.getD 0 }

/-! ### Alignment -/

def describeAlignmentContext (context : UInt32) : Option String :=
  if context = 0 then
    none
  else
    let afe := context &&& 0xFF
    let stage := (context >>> 8) &&& 0xFF
    let stageName := match stage with
      | 1 => "reset"
      | 2 => "delayctrl-ready"
      | 3 => "delay-scan"
      | 4 => "bitslip-scan"
      | 5 => "vtc-restore"
      | 6 => "frame-clock-probe"
      | _ => "unknown"
    if afe = 0xFF then
      some s!"alignment failed at {stageName}"
    else
      some s!"alignment failed at {stageName} for AFE {afe}"

def alignmentMessage (outcome : SubmitOutcome) : String :=
  let message := outcome.message
  let message :=
    if outcome.faultCode ≠ 0 ∧ ¬ "code".toList <:+: message.toList then
      message ++ s!"; fault code {outcome.faultCode}"
    else
      message
  match describeAlignmentContext outcome.contextCode with
  | some context => message ++ "; " ++ context
  | none => message

/-- What one board adds to the vectors: nothing unless its word is marked as read. -/
def readAlignmentVector (vectors : List UInt32 × List UInt32) (afeBoard : ℕ) :
    Prog Empty T (List UInt32 × List UInt32) :=
  match AfeId.fromBoard (UInt8.ofNat afeBoard) with
  | .error _ => return vectors
  | .ok afe => do
    let outcome ← submit (.readAlignment afe)
    match outcome.readback with
    | none => return vectors
    | some readback =>
      if readback &&& 0x80000000 = 0 then
        return vectors
      else
        return (vectors.1 ++ [readback &&& 0xFFFF], vectors.2 ++ [(readback >>> 16) &&& 0x0F])

def readAlignmentVectors : Prog Empty T (List UInt32 × List UInt32) :=
  (List.range afeCount).foldlM readAlignmentVector ([], [])

def handleAlignAfe (payload : List UInt8) : Prog Empty T (List UInt8) :=
  match (prost.decode payload : Except DecodeError CmdAlignAfEs) with
  | .error err => return prost.encodeToVec ({
      success := false
      message := s!"Bad cmd_alignAFEs payload: {err}" } : CmdAlignAfEsResponse)
  | .ok _ => do
    let outcome ← submit .align
    let vectors ← (if outcome.transportError then pure ([], []) else readAlignmentVectors)
    return prost.encodeToVec ({
      success := outcome.success
      message := alignmentMessage outcome
      delay := vectors.1
      bitslip := vectors.2 } : CmdAlignAfEsResponse)

/-! ### Dispatch -/

def handleRpuAfe : MessageTypeV2 → List UInt8 → Prog Empty T (List UInt8)
  | .configureFeReq => handleConfigureFe prost
  | .writeAfeRegReq => handleWriteAfeReg prost
  | .writeAfeVgainReq => handleWriteAfeVgain prost
  | .writeAfeBiasSetReq => handleWriteAfeBias prost
  | .writeTrimAllChReq => handleWriteTrimAllChannels prost
  | .writeTrimAllAfeReq => handleWriteTrimAllAfe prost
  | .writeTrimChReq => handleWriteTrimChannel prost
  | .writeOffsetAllChReq => handleWriteOffsetAllChannels prost
  | .writeOffsetAllAfeReq => handleWriteOffsetAllAfe prost
  | .writeOffsetChReq => handleWriteOffsetChannel prost
  | .writeVbiasControlReq => handleWriteVbiasControl prost
  | .readAfeRegReq => handleReadAfeReg prost
  | .readAfeVgainReq => handleReadAfeVgain prost
  | .readAfeBiasSetReq => handleReadAfeBias prost
  | .readTrimAllChReq => handleReadTrimAllChannels prost
  | .readTrimAllAfeReq => handleReadTrimAllAfe prost
  | .readTrimChReq => handleReadTrimChannel prost
  | .readOffsetAllChReq => handleReadOffsetAllChannels prost
  | .readOffsetAllAfeReq => handleReadOffsetAllAfe prost
  | .readOffsetChReq => handleReadOffsetChannel prost
  | .readVbiasControlReq => handleReadVbiasControl prost
  | .setAfeResetReq => handleSetAfeReset prost
  | .doAfeResetReq => handleDoAfeReset prost
  | .setAfePowerStateReq => handleSetAfePowerState prost
  | .writeAfeAttenuationReq => handleWriteAfeAttenuation prost
  | .alignAfeReq => handleAlignAfe prost
  | .writeAfeFunctionReq => handleWriteAfeFunction prost
  | _ => fun _ ↦ return []

end Handle

end DaphneSc.Server.Handlers
