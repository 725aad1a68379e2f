import DaphneSc.Core.RpuWire
import DaphneSc.Program.Basic

/-!
# The AFE transport

What the server knows of the RPU: a status, and a reply to every AFE command or an error. The texts
of the errors are those the source formats.
-/

namespace DaphneSc.Core

open Afe RpuWire Program

/-! ## Error texts -/

/-- A number in hexadecimal, padded with zeros to at least eight digits. -/
def hex8 (value : UInt32) : String :=
  let digits := Nat.toDigits 16 value.toNat
  String.ofList (List.replicate (8 - digits.length) '0' ++ digits)

def Afe.AfeValidationError.toText : AfeValidationError → String
  | .afeOutOfRange afe => s!"AFE out of range: {afe}; expected 0..4"
  | .channelOutOfRange channel => s!"channel out of range: {channel}; expected 0..39"
  | .valueOutOfRange value max => s!"value out of range: {value}; expected 0..{max}"

def RpuWire.RpuWireError.toText : RpuWireError → String
  | .badLength expected actual => s!"bad RPU wire length: expected {expected}, got {actual}"
  | .badMagic magic => "bad RPU wire magic: 0x" ++ (hex8 magic).toUpper
  | .badAbi abi => s!"unsupported RPU ABI version: {abi}"
  | .unknownOp op => s!"unknown RPU wire operation: {op}"
  | .unknownTarget target => s!"unknown RPU wire target: {target}"
  | .unknownStatus status => s!"unknown RPU wire status: {status}"
  | .unsupportedCommand message => message
  | .badPayload message => s!"bad RPU wire payload: {message}"
  | .payloadTooLong field max actual => s!"{field} is too long: {actual}; max {max}"
  | .valueOutOfRange field max actual => s!"{field} is out of range: {actual}; max {max}"

/-- The name the source's derived formatting gives an operation. -/
def RpuWire.RpuWireOp.name : RpuWireOp → String
  | .status => "Status"
  | .readRegister => "ReadRegister"
  | .writeRegister => "WriteRegister"
  | .readAttenuation => "ReadAttenuation"
  | .setAttenuation => "SetAttenuation"
  | .readBias => "ReadBias"
  | .setBias => "SetBias"
  | .readTrim => "ReadTrim"
  | .setTrim => "SetTrim"
  | .readOffset => "ReadOffset"
  | .setOffset => "SetOffset"
  | .readVbiasControl => "ReadVbiasControl"
  | .setVbiasControl => "SetVbiasControl"
  | .setReset => "SetReset"
  | .doReset => "DoReset"
  | .setPowerState => "SetPowerState"
  | .align => "Align"
  | .beginConfigureFrontend => "BeginConfigureFrontend"
  | .configureAfe => "ConfigureAfe"
  | .configureChannel => "ConfigureChannel"
  | .applyConfigureFrontend => "ApplyConfigureFrontend"
  | .writeFunction => "WriteFunction"
  | .readAlignment => "ReadAlignment"

namespace Rpu

/-! ## Transports -/

structure AfeCommandReply where
  accepted : Bool
  applied : Bool
  readback : Option UInt32
  faultCode : UInt32
  contextCode : UInt32
  message : String
  deriving DecidableEq, Repr

structure RpuLinkStatus where
  available : Bool
  running : Bool
  firmware : Option String
  heartbeat : Option UInt64
  lastFault : Option String
  deriving DecidableEq, Repr

inductive RpuError where
  | unavailable
  | transport (message : String)
  | rejected (message : String)
  | timeout
  deriving DecidableEq, Repr

def RpuError.toText : RpuError → String
  | .unavailable => "RPU AFE backend is unavailable"
  | .transport message => s!"RPU transport error: {message}"
  | .rejected message => s!"RPU rejected command: {message}"
  | .timeout => "RPU command timed out"

class RpuAfeTransport (T : Type) where
  status : Prog RpuError T RpuLinkStatus
  submitAfeCommand (command : AfeCommand) : Prog RpuError T AfeCommandReply

/-- The transport used when none is configured. -/
structure FailClosedRpuTransport where

instance : RpuAfeTransport FailClosedRpuTransport where
  status := pure {
    available := false
    running := false
    firmware := none
    heartbeat := none
    lastFault := some "RPU AFE transport is not configured" }
  submitAfeCommand _ := fail .unavailable

end Rpu

end DaphneSc.Core
