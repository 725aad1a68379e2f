import DaphneSc.Core.Transport

/-!
# Messages of the server

The messages of the control protocol with the names and types that the generated code gives them. A
field that is missing from a message has its default value. How messages are written as bytes is
left to the generated codec.
-/

namespace DaphneSc.Server.Pb

/-- What the codec says of bytes that are no message, as text. -/
abbrev DecodeError := String

/-- The generated codec, for messages of every type. -/
structure Prost where
  decode {M : Type} [Inhabited M] : List UInt8 → Except DecodeError M
  encodeToVec {M : Type} : M → List UInt8

/-! ## Envelopes -/

abbrev dirRequest : Int32 := 0
abbrev dirResponse : Int32 := 1

structure ControlEnvelopeV2 where
  version : UInt32 := 0
  (dir type : Int32 := 0)
  payload : List UInt8 := []
  (taskId msgId correlId : UInt64 := 0)
  route : String := ""
  timestampNs : UInt64 := 0
  deriving Inhabited

/-- What every response to a command says. -/
structure Outcome where
  success : Bool := false
  message : String := ""
  deriving Inhabited

/-! ## Configuration -/

structure AdcConfig where
  (resolution outputFormat sbFirst : Bool := false)
  deriving Inhabited

structure PgaConfig where
  lpfCutFrequency : UInt32 := 0
  (integratorDisable gain : Bool := false)
  deriving Inhabited

structure LnaConfig where
  (clamp gain : UInt32 := 0)
  integratorDisable : Bool := false
  deriving Inhabited

structure AfeConfig where
  (id attenuators vBias : UInt32 := 0)
  adc : Option AdcConfig := none
  pga : Option PgaConfig := none
  lna : Option LnaConfig := none
  deriving Inhabited

structure ChannelConfig where
  (id trim offset gain : UInt32 := 0)
  deriving Inhabited

structure ConfigureRequest where
  daphneAddress : String := ""
  (slot timeoutMs biasctrl : UInt32 := 0)
  (selfTriggerThreshold selfTriggerXcorr tpConf compensator inverters : UInt64 := 0)
  channels : List ChannelConfig := []
  afes : List AfeConfig := []
  fullStreamChannels : List UInt32 := []
  deriving Inhabited

structure ConfigureResponse extends Outcome where
  deriving Inhabited

/-! ## Requests -/

structure CmdWriteAfeReg where
  id : Int32 := 0
  (afeBlock regAddress regValue : UInt32 := 0)
  deriving Inhabited

structure CmdWriteAfevgain where
  id : Int32 := 0
  (afeBlock vgainValue : UInt32 := 0)
  deriving Inhabited

structure CmdWriteAfeAttenuation where
  id : Int32 := 0
  (afeBlock attenuation : UInt32 := 0)
  deriving Inhabited

structure CmdWriteAfeBiasSet where
  id : Int32 := 0
  (afeBlock biasValue : UInt32 := 0)
  deriving Inhabited

structure CmdWriteTrimAllChannels where
  id : Int32 := 0
  trimValue : UInt32 := 0
  trimGain : Bool := false
  deriving Inhabited

structure CmdWriteTrimAllAfe where
  id : Int32 := 0
  (afeBlock trimValue : UInt32 := 0)
  trimGain : Bool := false
  deriving Inhabited

structure CmdWriteTrimSingleChannel where
  id : Int32 := 0
  (trimChannel trimValue : UInt32 := 0)
  trimGain : Bool := false
  deriving Inhabited

structure CmdWriteOffsetAllChannels where
  id : Int32 := 0
  offsetValue : UInt32 := 0
  offsetGain : Bool := false
  deriving Inhabited

structure CmdWriteOffsetAllAfe where
  id : Int32 := 0
  (afeBlock offsetValue : UInt32 := 0)
  offsetGain : Bool := false
  deriving Inhabited

structure CmdWriteOffsetSingleChannel where
  id : Int32 := 0
  (offsetChannel offsetValue : UInt32 := 0)
  offsetGain : Bool := false
  deriving Inhabited

structure CmdWriteVbiasControl where
  id : Int32 := 0
  vBiasControlValue : UInt32 := 0
  enable : Bool := false
  deriving Inhabited

structure CmdReadAfeReg where
  id : Int32 := 0
  (afeBlock regAddress : UInt32 := 0)
  deriving Inhabited

structure CmdReadAfeVgain where
  id : Int32 := 0
  afeBlock : UInt32 := 0
  deriving Inhabited

structure CmdReadAfeBiasSet where
  id : Int32 := 0
  afeBlock : UInt32 := 0
  deriving Inhabited

structure CmdReadTrimAllChannels where
  id : Int32 := 0
  deriving Inhabited

structure CmdReadTrimAllAfe where
  id : Int32 := 0
  afeBlock : UInt32 := 0
  deriving Inhabited

structure CmdReadTrimSingleChannel where
  id : Int32 := 0
  trimChannel : UInt32 := 0
  deriving Inhabited

structure CmdReadOffsetAllChannels where
  id : Int32 := 0
  deriving Inhabited

structure CmdReadOffsetAllAfe where
  id : Int32 := 0
  afeBlock : UInt32 := 0
  deriving Inhabited

structure CmdReadOffsetSingleChannel where
  id : Int32 := 0
  offsetChannel : UInt32 := 0
  deriving Inhabited

structure CmdReadVbiasControl where
  id : Int32 := 0
  deriving Inhabited

structure CmdSetAfeReset where
  id : Int32 := 0
  resetValue : Bool := false
  deriving Inhabited

structure CmdDoAfeReset where
  id : Int32 := 0
  deriving Inhabited

structure CmdSetAfePowerState where
  id : Int32 := 0
  powerState : Bool := false
  deriving Inhabited

structure CmdAlignAfEs where
  deriving Inhabited

structure CmdWriteAfeFunction where
  afeBlock : UInt32 := 0
  function : String := ""
  configValue : UInt32 := 0
  deriving Inhabited

structure CmdReadCurrentMonitor where
  id : Int32 := 0
  currentMonitorChannel : UInt32 := 0
  deriving Inhabited

structure CmdReadBiasVoltageMonitor where
  id : Int32 := 0
  afeBlock : UInt32 := 0
  deriving Inhabited

/-! ## Responses -/

structure CmdWriteAfeRegResponse extends Outcome where
  (afeBlock regAddress regValue : UInt32 := 0)
  deriving Inhabited

structure CmdWriteAfevgainResponse extends Outcome where
  (afeBlock vgainValue : UInt32 := 0)
  deriving Inhabited

structure CmdWriteAfeAttenuationResponse extends Outcome where
  (afeBlock attenuation : UInt32 := 0)
  deriving Inhabited

structure CmdWriteAfeBiasSetResponse extends Outcome where
  (afeBlock biasValue : UInt32 := 0)
  deriving Inhabited

structure CmdWriteTrimAllChannelsResponse extends Outcome where
  trimValue : UInt32 := 0
  trimGain : Bool := false
  deriving Inhabited

structure CmdWriteTrimAllAfeResponse extends Outcome where
  (afeBlock trimValue : UInt32 := 0)
  trimGain : Bool := false
  deriving Inhabited

structure CmdWriteTrimSingleChannelResponse extends Outcome where
  (trimChannel trimValue : UInt32 := 0)
  trimGain : Bool := false
  deriving Inhabited

structure CmdWriteOffsetAllChannelsResponse extends Outcome where
  offsetValue : UInt32 := 0
  offsetGain : Bool := false
  deriving Inhabited

structure CmdWriteOffsetAllAfeResponse extends Outcome where
  (afeBlock offsetValue : UInt32 := 0)
  offsetGain : Bool := false
  deriving Inhabited

structure CmdWriteOffsetSingleChannelResponse extends Outcome where
  (offsetChannel offsetValue : UInt32 := 0)
  offsetGain : Bool := false
  deriving Inhabited

structure CmdWriteVbiasControlResponse extends Outcome where
  vBiasControlValue : UInt32 := 0
  deriving Inhabited

structure CmdReadAfeRegResponse extends Outcome where
  (afeBlock regAddress regValue : UInt32 := 0)
  deriving Inhabited

structure CmdReadAfeVgainResponse extends Outcome where
  (afeBlock vgainValue : UInt32 := 0)
  deriving Inhabited

structure CmdReadAfeBiasSetResponse extends Outcome where
  (afeBlock biasValue : UInt32 := 0)
  deriving Inhabited

structure CmdReadTrimAllChannelsResponse extends Outcome where
  trimValues : List UInt32 := []
  deriving Inhabited

structure CmdReadTrimAllAfeResponse extends Outcome where
  afeBlock : UInt32 := 0
  trimValues : List UInt32 := []
  deriving Inhabited

structure CmdReadTrimSingleChannelResponse extends Outcome where
  (trimChannel trimValue : UInt32 := 0)
  deriving Inhabited

structure CmdReadOffsetAllChannelsResponse extends Outcome where
  offsetValues : List UInt32 := []
  deriving Inhabited

structure CmdReadOffsetAllAfeResponse extends Outcome where
  afeBlock : UInt32 := 0
  offsetValues : List UInt32 := []
  deriving Inhabited

structure CmdReadOffsetSingleChannelResponse extends Outcome where
  (offsetChannel offsetValue : UInt32 := 0)
  deriving Inhabited

structure CmdReadVbiasControlResponse extends Outcome where
  vBiasControlValue : UInt32 := 0
  deriving Inhabited

structure CmdSetAfeResetResponse extends Outcome where
  resetValue : Bool := false
  deriving Inhabited

structure CmdDoAfeResetResponse extends Outcome where
  deriving Inhabited

structure CmdSetAfePowerStateResponse extends Outcome where
  powerState : UInt32 := 0
  deriving Inhabited

structure CmdAlignAfEsResponse extends Outcome where
  (delay bitslip : List UInt32 := [])
  deriving Inhabited

structure CmdWriteAfeFunctionResponse extends Outcome where
  afeBlock : UInt32 := 0
  function : String := ""
  configValue : UInt32 := 0
  deriving Inhabited

structure CmdReadCurrentMonitorResponse extends Outcome where
  (currentMonitorChannel currentValue : UInt32 := 0)
  deriving Inhabited

structure CmdReadBiasVoltageMonitorResponse extends Outcome where
  (afeBlock biasVoltageValue : UInt32 := 0)
  deriving Inhabited

structure GeneralInfo where
  (vBias0 vBias1 vBias2 vBias3 vBias4 : Float := 0)
  (powerMinus5v powerPlus2p5v powerCe temperature : Float := 0)
  deriving Inhabited

structure TestRegResponse where
  value : UInt64 := 0
  message : String := ""
  deriving Inhabited

end DaphneSc.Server.Pb
