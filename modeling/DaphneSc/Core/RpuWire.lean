import DaphneSc.Bytes.Fields
import DaphneSc.Core.Afe

/-!
# The wire format between host and RPU

Commands and replies are records of 64 bytes with fields at fixed offsets. One command is one frame,
except for a front-end configuration, which is a sequence of a begin frame, one frame per record
and an apply frame.
-/

namespace DaphneSc.Core.RpuWire

open Afe Bytes

abbrev rpuWireMagic : UInt32 := 0x52505344
abbrev rpuWireAbiVersion : UInt16 := 2
abbrev rpuWireCommandLen : ℕ := 64
abbrev rpuWireReplyLen : ℕ := 64
abbrev rpuWirePayloadLen : ℕ := 32
abbrev rpuWireFunctionNameMax : ℕ := rpuWirePayloadLen - 1

inductive RpuWireError where
  | badLength (expected actual : ℕ)
  | badMagic (magic : UInt32)
  | badAbi (abi : UInt16)
  | unknownOp (op : UInt16)
  | unknownTarget (target : UInt8)
  | unknownStatus (status : UInt16)
  | unsupportedCommand (message : String)
  | badPayload (message : String)
  | payloadTooLong (field : String) (max actual : ℕ)
  | valueOutOfRange (field : String) (max actual : UInt32)
  deriving DecidableEq, Repr

/-! ## Codes -/

inductive RpuWireOp where
  | status
  | readRegister
  | writeRegister
  | readAttenuation
  | setAttenuation
  | readBias
  | setBias
  | readTrim
  | setTrim
  | readOffset
  | setOffset
  | readVbiasControl
  | setVbiasControl
  | setReset
  | doReset
  | setPowerState
  | align
  | beginConfigureFrontend
  | configureAfe
  | configureChannel
  | applyConfigureFrontend
  | writeFunction
  | readAlignment
  deriving DecidableEq, Repr

def RpuWireOp.toU16 : RpuWireOp → UInt16
  | status => 0
  | readRegister => 1
  | writeRegister => 2
  | readAttenuation => 3
  | setAttenuation => 4
  | readBias => 5
  | setBias => 6
  | readTrim => 7
  | setTrim => 8
  | readOffset => 9
  | setOffset => 10
  | readVbiasControl => 11
  | setVbiasControl => 12
  | setReset => 13
  | doReset => 14
  | setPowerState => 15
  | align => 16
  | beginConfigureFrontend => 17
  | configureAfe => 18
  | configureChannel => 19
  | applyConfigureFrontend => 20
  | writeFunction => 21
  | readAlignment => 22

def RpuWireOp.tryFrom (value : UInt16) : Except RpuWireError RpuWireOp :=
  match value with
  | 0 => .ok status
  | 1 => .ok readRegister
  | 2 => .ok writeRegister
  | 3 => .ok readAttenuation
  | 4 => .ok setAttenuation
  | 5 => .ok readBias
  | 6 => .ok setBias
  | 7 => .ok readTrim
  | 8 => .ok setTrim
  | 9 => .ok readOffset
  | 10 => .ok setOffset
  | 11 => .ok readVbiasControl
  | 12 => .ok setVbiasControl
  | 13 => .ok setReset
  | 14 => .ok doReset
  | 15 => .ok setPowerState
  | 16 => .ok align
  | 17 => .ok beginConfigureFrontend
  | 18 => .ok configureAfe
  | 19 => .ok configureChannel
  | 20 => .ok applyConfigureFrontend
  | 21 => .ok writeFunction
  | 22 => .ok readAlignment
  | _ => .error (.unknownOp value)

inductive RpuWireTarget where
  | none
  | afe
  | channel
  | all
  deriving DecidableEq, Repr

def RpuWireTarget.toU8 : RpuWireTarget → UInt8
  | none => 0
  | afe => 1
  | channel => 2
  | all => 3

def RpuWireTarget.tryFrom (value : UInt8) : Except RpuWireError RpuWireTarget :=
  match value with
  | 0 => .ok none
  | 1 => .ok afe
  | 2 => .ok channel
  | 3 => .ok all
  | _ => .error (.unknownTarget value)

inductive RpuWireStatus where
  | accepted
  | applied
  | rejected
  | interlocked
  | fault
  | timeout
  deriving DecidableEq, Repr

def RpuWireStatus.toU16 : RpuWireStatus → UInt16
  | accepted => 0
  | applied => 1
  | rejected => 2
  | interlocked => 3
  | fault => 4
  | timeout => 5

def RpuWireStatus.tryFrom (value : UInt16) : Except RpuWireError RpuWireStatus :=
  match value with
  | 0 => .ok accepted
  | 1 => .ok applied
  | 2 => .ok rejected
  | 3 => .ok interlocked
  | 4 => .ok fault
  | 5 => .ok timeout
  | _ => .error (.unknownStatus value)

/-! ## Reading and packing -/

def getU8 (input : List UInt8) (offset : ℕ) : UInt8 := input.getD offset 0

def getU16 (input : List UInt8) (offset : ℕ) : UInt16 := .ofNat (ofLe (slice input offset 2))

def getU32 (input : List UInt8) (offset : ℕ) : UInt32 := .ofNat (ofLe (slice input offset 4))

def getU64 (input : List UInt8) (offset : ℕ) : UInt64 := .ofNat (ofLe (slice input offset 8))

def packU16Pair (low high : UInt16) : UInt32 :=
  low.toUInt32 ||| (high.toUInt32 <<< 16)

def unpackU16Pair (value : UInt32) : UInt16 × UInt16 :=
  ((value &&& 0xFFFF).toUInt16, (value >>> 16).toUInt16)

def packAdc (adc : AdcConfig) : UInt8 :=
  adc.resolution.toUInt8 ||| (adc.outputFormat.toUInt8 <<< 1) ||| (adc.msbFirst.toUInt8 <<< 2)

def unpackAdc (flags : UInt8) : AdcConfig where
  resolution := flags &&& 0x01 != 0
  outputFormat := flags &&& 0x02 != 0
  msbFirst := flags &&& 0x04 != 0

def packPgaFlags (pga : PgaConfig) : UInt8 :=
  pga.integratorDisable.toUInt8 ||| (pga.gain.toUInt8 <<< 1)

def unpackPga (lpfCutFrequency flags : UInt8) : PgaConfig where
  lpfCutFrequency := lpfCutFrequency
  integratorDisable := flags &&& 0x01 != 0
  gain := flags &&& 0x02 != 0

def unpackLna (clamp gain flags : UInt8) : LnaConfig where
  clamp := clamp
  gain := gain
  integratorDisable := flags &&& 0x01 != 0

abbrev Payload := Vector UInt8 rpuWirePayloadLen

def packAfePayload (payload : Payload) (afe : AfeFrontendConfig) : Payload :=
  let payload := payload.set 0 (packAdc afe.adc)
  let payload := payload.set 1 afe.pga.lpfCutFrequency
  let payload := payload.set 2 (packPgaFlags afe.pga)
  let payload := payload.set 3 afe.lna.clamp
  let payload := payload.set 4 afe.lna.gain
  payload.set 5 afe.lna.integratorDisable.toUInt8

def setFunctionName (payload : Payload) (name : String) : Except RpuWireError Payload :=
  let bytes := name.toUTF8.data.toList
  if bytes.isEmpty then
    .error (.badPayload "AFE function name is empty")
  else if bytes.length > rpuWireFunctionNameMax then
    .error (.payloadTooLong "AFE function name" rpuWireFunctionNameMax bytes.length)
  else
    .ok (put (payload.set 0 (UInt8.ofNat bytes.length)) 1 bytes)

def sequenceForFrame (firstSequence : UInt64) (offset : ℕ) : UInt64 :=
  max (firstSequence + UInt64.ofNat offset) 1

def ensureRecordCount (field : String) (count : ℕ) : Except RpuWireError Unit :=
  if count > 65535 then .error (.payloadTooLong field 65535 count) else .ok ()

/-! ## Commands -/

structure RpuWireCommand where
  sequence : UInt64
  op : RpuWireOp
  target : RpuWireTarget
  afeBoard : UInt8
  afePl : UInt8
  channel : UInt8
  afeChannel : UInt8
  register : UInt16
  value : UInt32
  flags : UInt32
  payload : Payload
  deriving DecidableEq

structure RpuWireConfigCounts where
  afeCount : UInt16
  channelCount : UInt16
  biasControl : UInt16
  deriving DecidableEq, Repr

structure RpuWireAfeConfig where
  afeBoard : UInt8
  afePl : UInt8
  attenuation : UInt16
  bias : UInt16
  adc : AdcConfig
  pga : PgaConfig
  lna : LnaConfig
  deriving DecidableEq, Repr

structure RpuWireChannelConfig where
  channel : UInt8
  afeBoard : UInt8
  afePl : UInt8
  afeChannel : UInt8
  trim : UInt16
  offset : UInt16
  gain : UInt16
  deriving DecidableEq, Repr

def requireOp (actual expected : RpuWireOp) : Except RpuWireError Unit :=
  if actual = expected then
    .ok ()
  else
    .error (.badPayload "decoded helper used with wrong opcode")

def u16TryFrom (value : UInt32) : Option UInt16 :=
  if value ≤ 65535 then some value.toUInt16 else none

def requireU16 (field : String) (value : UInt32) : Except RpuWireError UInt16 :=
  match u16TryFrom value with
  | some value => .ok value
  | none => .error (.valueOutOfRange field 65535 value)

namespace RpuWireCommand

def status (sequence : UInt64) : RpuWireCommand where
  sequence := sequence
  op := .status
  target := .none
  afeBoard := 0
  afePl := 0
  channel := 0
  afeChannel := 0
  register := 0
  value := 0
  flags := 0
  payload := Vector.replicate rpuWirePayloadLen 0

def setAfe (wire : RpuWireCommand) (afe : AfeId) : RpuWireCommand :=
  { wire with target := .afe, afeBoard := afe.board, afePl := afe.pl }

def setChannel (wire : RpuWireCommand) (channel : ChannelId) : RpuWireCommand :=
  { wire with
    target := .channel
    channel := channel.channel
    afeBoard := channel.afe.board
    afePl := channel.afe.pl
    afeChannel := channel.afeChannel }

def setChannelTarget (wire : RpuWireCommand) : ChannelTarget → RpuWireCommand
  | .one channel => wire.setChannel channel
  | .afe afe => wire.setAfe afe
  | .all => { wire with target := .all }

def frameCountForAfeCommand : AfeCommand → Except RpuWireError ℕ
  | .configureFrontend afes channels _ => do
    ensureRecordCount "AFE config" afes.length
    ensureRecordCount "channel config" channels.length
    return 2 + afes.length + channels.length
  | _ => .ok 1

/-- The frame of a command that fits in one. -/
def fromAfeCommand (sequence : UInt64) (command : AfeCommand) :
    Except RpuWireError RpuWireCommand :=
  let wire := status sequence
  match command with
  | .readRegister afe register =>
    .ok { wire.setAfe afe with op := .readRegister, register := register.toUInt16 }
  | .writeRegister afe register value =>
    .ok { wire.setAfe afe with
      op := .writeRegister, register := register.toUInt16, value := value.toUInt32 }
  | .readAttenuation afe => .ok { wire.setAfe afe with op := .readAttenuation }
  | .setAttenuation afe value =>
    .ok { wire.setAfe afe with op := .setAttenuation, value := value.toUInt32 }
  | .readBias afe => .ok { wire.setAfe afe with op := .readBias }
  | .setBias afe value => .ok { wire.setAfe afe with op := .setBias, value := value.toUInt32 }
  | .readTrim target => .ok { wire.setChannelTarget target with op := .readTrim }
  | .setTrim target value gain =>
    .ok { wire.setChannelTarget target with
      op := .setTrim, value := value.toUInt32, flags := gain.toUInt32 }
  | .readOffset target => .ok { wire.setChannelTarget target with op := .readOffset }
  | .setOffset target value gain =>
    .ok { wire.setChannelTarget target with
      op := .setOffset, value := value.toUInt32, flags := gain.toUInt32 }
  | .readVbiasControl => .ok { wire with op := .readVbiasControl }
  | .setVbiasControl value enable =>
    .ok { wire with op := .setVbiasControl, value := value.toUInt32, flags := enable.toUInt32 }
  | .setReset asserted => .ok { wire with op := .setReset, flags := asserted.toUInt32 }
  | .doReset => .ok { wire with op := .doReset }
  | .setPowerState enabled => .ok { wire with op := .setPowerState, flags := enabled.toUInt32 }
  | .align => .ok { wire with op := .align }
  | .writeFunction afe name value => do
    let payload ← setFunctionName wire.payload name
    return { wire.setAfe afe with
      op := .writeFunction, value := value.toUInt32, payload := payload }
  | .readAlignment afe => .ok { wire.setAfe afe with op := .readAlignment }
  | .configureFrontend .. =>
    .error (.unsupportedCommand "configure-frontend requires a multi-frame RPU config sequence")

/-! ## Configuration sequences -/

def beginFrame (afes : List AfeFrontendConfig) (channels : List ChannelFrontendConfig)
    (biasControl : UInt16) (sequence : UInt64) : RpuWireCommand :=
  { status sequence with
    op := .beginConfigureFrontend
    value := biasControl.toUInt32
    flags := packU16Pair (UInt16.ofNat afes.length) (UInt16.ofNat channels.length) }

def afeFrame (afe : AfeFrontendConfig) (sequence : UInt64) : RpuWireCommand :=
  { (status sequence).setAfe afe.afe with
    op := .configureAfe
    value := afe.attenuation.toUInt32
    flags := afe.bias.toUInt32
    payload := packAfePayload (status sequence).payload afe }

def channelFrame (channel : ChannelFrontendConfig) (sequence : UInt64) : RpuWireCommand :=
  { (status sequence).setChannel channel.channel with
    op := .configureChannel
    value := channel.trim.toUInt32
    flags := packU16Pair channel.offset channel.gain }

def applyFrame (afes : List AfeFrontendConfig) (channels : List ChannelFrontendConfig)
    (sequence : UInt64) : RpuWireCommand :=
  { status sequence with
    op := .applyConfigureFrontend
    flags := packU16Pair (UInt16.ofNat afes.length) (UInt16.ofNat channels.length) }

/-- Append the next frame, numbered by how many frames there are. -/
def pushFrame (firstSequence : UInt64) (frames : List RpuWireCommand)
    (frame : UInt64 → RpuWireCommand) : List RpuWireCommand :=
  frames ++ [frame (sequenceForFrame firstSequence frames.length)]

def configureFrontendSequence (firstSequence : UInt64) (afes : List AfeFrontendConfig)
    (channels : List ChannelFrontendConfig) (biasControl : UInt16) :
    Except RpuWireError (List RpuWireCommand) := do
  ensureRecordCount "AFE config" afes.length
  ensureRecordCount "channel config" channels.length
  let frames := pushFrame firstSequence [] (beginFrame afes channels biasControl)
  let frames := afes.foldl (fun frames afe ↦ pushFrame firstSequence frames (afeFrame afe)) frames
  let frames := channels.foldl
    (fun frames channel ↦ pushFrame firstSequence frames (channelFrame channel)) frames
  return pushFrame firstSequence frames (applyFrame afes channels)

def fromAfeCommandSequence (firstSequence : UInt64) (command : AfeCommand) :
    Except RpuWireError (List RpuWireCommand) :=
  match command with
  | .configureFrontend afes channels biasControl =>
    configureFrontendSequence firstSequence afes channels biasControl
  | command => do
    let frame ← fromAfeCommand firstSequence command
    return [frame]

/-! ## Encoding and decoding -/

/-- The fields in the order they are written; byte 21 is reserved. -/
def fields (command : RpuWireCommand) : List Field :=
  [(0, toLe 4 rpuWireMagic.toNat),
    (4, toLe 2 rpuWireAbiVersion.toNat),
    (6, toLe 2 command.op.toU16.toNat),
    (8, toLe 8 command.sequence.toNat),
    (16, [command.target.toU8]),
    (17, [command.afeBoard]),
    (18, [command.afePl]),
    (19, [command.channel]),
    (20, [command.afeChannel]),
    (22, toLe 2 command.register.toNat),
    (24, toLe 4 command.value.toNat),
    (28, toLe 4 command.flags.toNat),
    (32, command.payload.toList)]

@[irreducible] def encode (command : RpuWireCommand) : Vector UInt8 rpuWireCommandLen :=
  putFields (Vector.replicate rpuWireCommandLen 0) command.fields

def decode (input : List UInt8) : Except RpuWireError RpuWireCommand := do
  if input.length ≠ rpuWireCommandLen then
    throw (.badLength rpuWireCommandLen input.length)
  let magic := getU32 input 0
  if magic ≠ rpuWireMagic then
    throw (.badMagic magic)
  let abi := getU16 input 4
  if abi ≠ rpuWireAbiVersion then
    throw (.badAbi abi)
  let op ← RpuWireOp.tryFrom (getU16 input 6)
  let target ← RpuWireTarget.tryFrom (getU8 input 16)
  return {
    sequence := getU64 input 8
    op := op
    target := target
    afeBoard := getU8 input 17
    afePl := getU8 input 18
    channel := getU8 input 19
    afeChannel := getU8 input 20
    register := getU16 input 22
    value := getU32 input 24
    flags := getU32 input 28
    payload := Vector.ofFn fun i ↦ getU8 input (32 + i) }

def configureCounts (command : RpuWireCommand) : Except RpuWireError RpuWireConfigCounts := do
  requireOp command.op .beginConfigureFrontend
  let (afeCount, channelCount) := unpackU16Pair command.flags
  let biasControl ← requireU16 "bias_control" command.value
  return { afeCount, channelCount, biasControl }

def afeConfig (command : RpuWireCommand) : Except RpuWireError RpuWireAfeConfig := do
  requireOp command.op .configureAfe
  let attenuation ← requireU16 "attenuation" command.value
  let bias ← requireU16 "bias" command.flags
  return {
    afeBoard := command.afeBoard
    afePl := command.afePl
    attenuation := attenuation
    bias := bias
    adc := unpackAdc command.payload[0]
    pga := unpackPga command.payload[1] command.payload[2]
    lna := unpackLna command.payload[3] command.payload[4] command.payload[5] }

def channelConfig (command : RpuWireCommand) : Except RpuWireError RpuWireChannelConfig := do
  requireOp command.op .configureChannel
  let (offset, gain) := unpackU16Pair command.flags
  let trim ← requireU16 "trim" command.value
  return {
    channel := command.channel
    afeBoard := command.afeBoard
    afePl := command.afePl
    afeChannel := command.afeChannel
    trim := trim
    offset := offset
    gain := gain }

def functionName (command : RpuWireCommand) : Except RpuWireError String := do
  requireOp command.op .writeFunction
  let length := command.payload[0].toNat
  if length = 0 ∨ length > rpuWireFunctionNameMax then
    throw (.badPayload "invalid AFE function name length")
  match String.fromUTF8? (slice command.payload.toList 1 length).toByteArray with
  | some name => return name
  | none => throw (.badPayload "AFE function name is not UTF-8")

end RpuWireCommand

/-! ## Replies -/

structure RpuWireReply where
  sequence : UInt64
  status : RpuWireStatus
  readback : Option UInt32
  heartbeat : UInt64
  faultCode : UInt32
  interlockCode : UInt32
  deriving DecidableEq, Repr

namespace RpuWireReply

def fields (reply : RpuWireReply) : List Field :=
  [(0, toLe 4 rpuWireMagic.toNat),
    (4, toLe 2 rpuWireAbiVersion.toNat),
    (6, toLe 2 reply.status.toU16.toNat),
    (8, toLe 8 reply.sequence.toNat),
    (16, toLe 4 (reply.readback.getD 0).toNat),
    (20, toLe 4 reply.readback.isSome.toUInt32.toNat),
    (24, toLe 8 reply.heartbeat.toNat),
    (32, toLe 4 reply.faultCode.toNat),
    (36, toLe 4 reply.interlockCode.toNat)]

@[irreducible] def encode (reply : RpuWireReply) : Vector UInt8 rpuWireReplyLen :=
  putFields (Vector.replicate rpuWireReplyLen 0) reply.fields

def decode (input : List UInt8) : Except RpuWireError RpuWireReply := do
  if input.length ≠ rpuWireReplyLen then
    throw (.badLength rpuWireReplyLen input.length)
  let magic := getU32 input 0
  if magic ≠ rpuWireMagic then
    throw (.badMagic magic)
  let abi := getU16 input 4
  if abi ≠ rpuWireAbiVersion then
    throw (.badAbi abi)
  let status ← RpuWireStatus.tryFrom (getU16 input 6)
  return {
    sequence := getU64 input 8
    status := status
    readback := if getU32 input 20 = 0 then none else some (getU32 input 16)
    heartbeat := getU64 input 24
    faultCode := getU32 input 32
    interlockCode := getU32 input 36 }

end RpuWireReply

end DaphneSc.Core.RpuWire
