import Mathlib.Tactic.Common

/-!
# Message types and their routes

Requests have even numbers, and the response to a request has the number after it. The route says
which part of the server answers a request.
-/

namespace DaphneSc.Core.Transport

inductive MessageTypeV2 where
  | configureClksReq
  | configureFeReq
  | writeAfeRegReq
  | writeAfeVgainReq
  | writeAfeBiasSetReq
  | writeTrimAllChReq
  | writeTrimAllAfeReq
  | writeTrimChReq
  | writeOffsetAllChReq
  | writeOffsetAllAfeReq
  | writeOffsetChReq
  | writeVbiasControlReq
  | readAfeRegReq
  | readAfeVgainReq
  | readAfeBiasSetReq
  | readTrimAllChReq
  | readTrimAllAfeReq
  | readTrimChReq
  | readOffsetAllChReq
  | readOffsetAllAfeReq
  | readOffsetChReq
  | readVbiasControlReq
  | readCurrentMonitorReq
  | readBiasVoltageMonitorReq
  | setAfeResetReq
  | doAfeResetReq
  | setAfePowerStateReq
  | writeAfeAttenuationReq
  | dumpSpybufferReq
  | alignAfeReq
  | writeAfeFunctionReq
  | doSoftwareTriggerReq
  | dumpSpybufferChunkReq
  | readTestRegReq
  | readTriggerCountersReq
  | readGeneralInfoReq
  | readSlowControlStatusReq
  deriving DecidableEq, Repr

namespace MessageTypeV2

/-- The type with a number on the wire. -/
def tryFrom : UInt32 → Option MessageTypeV2
  | 200 => some configureClksReq
  | 202 => some configureFeReq
  | 204 => some writeAfeRegReq
  | 206 => some writeAfeVgainReq
  | 208 => some writeAfeBiasSetReq
  | 210 => some writeTrimAllChReq
  | 212 => some writeTrimAllAfeReq
  | 214 => some writeTrimChReq
  | 216 => some writeOffsetAllChReq
  | 218 => some writeOffsetAllAfeReq
  | 220 => some writeOffsetChReq
  | 222 => some writeVbiasControlReq
  | 224 => some readAfeRegReq
  | 226 => some readAfeVgainReq
  | 228 => some readAfeBiasSetReq
  | 230 => some readTrimAllChReq
  | 232 => some readTrimAllAfeReq
  | 234 => some readTrimChReq
  | 236 => some readOffsetAllChReq
  | 238 => some readOffsetAllAfeReq
  | 240 => some readOffsetChReq
  | 242 => some readVbiasControlReq
  | 244 => some readCurrentMonitorReq
  | 246 => some readBiasVoltageMonitorReq
  | 248 => some setAfeResetReq
  | 250 => some doAfeResetReq
  | 252 => some setAfePowerStateReq
  | 254 => some writeAfeAttenuationReq
  | 256 => some dumpSpybufferReq
  | 258 => some alignAfeReq
  | 260 => some writeAfeFunctionReq
  | 262 => some doSoftwareTriggerReq
  | 300 => some dumpSpybufferChunkReq
  | 304 => some readTestRegReq
  | 320 => some readTriggerCountersReq
  | 322 => some readGeneralInfoReq
  | 1000 => some readSlowControlStatusReq
  | _ => none

end MessageTypeV2

/-! ## Routes -/

inductive CommandRoute where
  | rpuAfe
  | linuxStatus
  | linuxFpga
  | unsupported
  deriving DecidableEq, Repr

open MessageTypeV2 in
def routeMessageType : MessageTypeV2 → CommandRoute
  | configureFeReq
  | writeAfeRegReq
  | writeAfeVgainReq
  | writeAfeBiasSetReq
  | writeTrimAllChReq
  | writeTrimAllAfeReq
  | writeTrimChReq
  | writeOffsetAllChReq
  | writeOffsetAllAfeReq
  | writeOffsetChReq
  | writeVbiasControlReq
  | readAfeRegReq
  | readAfeVgainReq
  | readAfeBiasSetReq
  | readTrimAllChReq
  | readTrimAllAfeReq
  | readTrimChReq
  | readOffsetAllChReq
  | readOffsetAllAfeReq
  | readOffsetChReq
  | readVbiasControlReq
  | setAfeResetReq
  | doAfeResetReq
  | setAfePowerStateReq
  | writeAfeAttenuationReq
  | alignAfeReq
  | writeAfeFunctionReq => .rpuAfe
  | readCurrentMonitorReq
  | readBiasVoltageMonitorReq
  | readGeneralInfoReq
  | readSlowControlStatusReq => .linuxStatus
  | configureClksReq
  | dumpSpybufferReq
  | dumpSpybufferChunkReq
  | doSoftwareTriggerReq
  | readTriggerCountersReq
  | readTestRegReq => .linuxFpga

end DaphneSc.Core.Transport
