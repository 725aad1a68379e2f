import DaphneSc.Core.Rpu
import DaphneSc.Core.RpuWireCodec

/-!
# The RPMsg transport

The host's end of the link. Every frame is written, and the reply read back must carry the frame's
sequence number. A configuration is sent frame by frame, and only the last reply decides what is
reported. The pauses between frames are left out: what has arrived when the file is polled is up to
the file.
-/

namespace DaphneSc.Server.Rpmsg

open DaphneSc.Core Core.Afe Core.RpuWire Core.Rpu Program

/-! ## Files -/

/-- `POLLIN` of the operating system. -/
abbrev pollIn : UInt16 := 1

/-- The file of the device. Errors are the texts of the operating system's errors; a poll gives the
returned events, or nothing after the timeout. -/
class RpmsgFile (F : Type) where
  writeAll (bytes : Vector UInt8 rpuWireCommandLen) : Prog String F Unit
  flush : Prog String F Unit
  poll (timeoutMs : ℕ) : Prog String F (Option UInt16)
  readExact : Prog String F (Vector UInt8 rpuWireReplyLen)

structure RpmsgAfeTransport (F : Type) where
  file : F
  nextSequence : UInt64
  /-- In milliseconds. -/
  timeout : ℕ
  lastHeartbeat : Option UInt64
  lastFault : Option String

namespace RpmsgAfeTransport

variable {F : Type}

/-- A transport on a file that was opened. -/
def «open» (file : F) (timeout : ℕ) : RpmsgAfeTransport F := ⟨file, 1, timeout, none, none⟩

def fileLens : Lens (RpmsgAfeTransport F) F where
  view := file
  update file transport := { transport with file := file }
  view_update _ _ := rfl

/-- A file operation; its error is reported with what was being done. -/
def io {α : Type} (doing : String) (m : Prog String F α) : Prog RpuError (RpmsgAfeTransport F) α :=
  mapError (fun err ↦ .transport (doing ++ ": " ++ err)) (zoom fileLens m)

theorem io_of_ok {α : Type} {doing : String} {m : Prog String F α}
    {transport : RpmsgAfeTransport F} {a : α} {file : F} (h : m transport.file = .ok a file) :
    io doing m transport = .ok a { transport with file := file } := by
  simp only [io, mapError, zoom, fileLens, h]

/-! ## One frame -/

section Frames

def waitReadable [RpmsgFile F] : Prog RpuError (RpmsgAfeTransport F) Unit := do
  let transport ← get
  let timeoutMs := min transport.timeout 0x7FFFFFFF
  match ← io "polling RPU transport" (RpmsgFile.poll timeoutMs) with
  | none => fail .timeout
  | some revents =>
    failIf (revents &&& pollIn = 0) (.transport
      ("RPU transport not readable after poll: revents=0x" ++
        (String.ofList (Nat.toDigits 16 revents.toNat)).toUpper))

/-- Keep what a reply says about the RPU. -/
def noteReply (reply : RpuWireReply) (transport : RpmsgAfeTransport F) : RpmsgAfeTransport F :=
  { transport with
    lastHeartbeat := some reply.heartbeat
    lastFault :=
      if reply.faultCode ≠ 0 then some s!"RPU fault code {reply.faultCode}"
      else transport.lastFault }

/-- Decode a reply and check that it answers the frame. -/
def acceptReply (command : RpuWireCommand) (bytes : Vector UInt8 rpuWireReplyLen) :
    Prog RpuError (RpmsgAfeTransport F) RpuWireReply := do
  let reply ← ofResult ((RpuWireReply.decode bytes.toList).mapError fun err ↦
    .transport ("decoding RPU reply: " ++ err.toText))
  failIf (reply.sequence ≠ command.sequence) (.transport
    s!"RPU reply sequence mismatch: sent {command.sequence}, got {reply.sequence}")
  modify fun transport ↦ noteReply reply transport
  return reply

def transact [RpmsgFile F] (command : RpuWireCommand) :
    Prog RpuError (RpmsgAfeTransport F) RpuWireReply := do
  io "writing RPU command" (RpmsgFile.writeAll command.encode)
  io "flushing RPU command" RpmsgFile.flush
  waitReadable
  let bytes ← io "reading RPU reply" RpmsgFile.readExact
  acceptReply command bytes

end Frames

/-! ## Sequence numbers -/

def takeSequence : Prog RpuError (RpmsgAfeTransport F) UInt64 := do
  let transport ← get
  modify fun transport ↦ { transport with nextSequence := max (transport.nextSequence + 1) 1 }
  return transport.nextSequence

abbrev u64Max : UInt64 := 0xFFFFFFFFFFFFFFFF

/-- Addition that stops at the largest number. -/
def saturatingAdd (a b : UInt64) : UInt64 :=
  if a.toNat + b.toNat < 2 ^ 64 then a + b else u64Max

def reserveSequences (count : ℕ) : Prog RpuError (RpmsgAfeTransport F) UInt64 := do
  let count := if count < 2 ^ 64 then UInt64.ofNat count else u64Max
  let transport ← get
  if count = 0 then
    return transport.nextSequence
  let first := if transport.nextSequence > u64Max - count then 1 else transport.nextSequence
  modify fun transport ↦ { transport with nextSequence := max (saturatingAdd first count) 1 }
  return first

/-! ## Commands -/

def formatReplyDetail (heading : String) (reply : RpuWireReply) : String :=
  let message := s!"{heading}: code {reply.faultCode}"
  let message := match reply.readback with
    | some readback => message ++ " readback=0x" ++ hex8 readback
    | none => message
  if reply.interlockCode ≠ 0 then message ++ " context=0x" ++ hex8 reply.interlockCode else message

/-- What is reported for the last reply. -/
def commandReply (reply : RpuWireReply) : AfeCommandReply :=
  let (accepted, applied, message) := match reply.status with
    | .accepted => (true, false, "RPU accepted command")
    | .applied => (true, true, "RPU applied command")
    | .rejected => (false, false, "RPU rejected command")
    | .interlocked => (false, false, s!"RPU interlock active: code {reply.interlockCode}")
    | .fault => (false, false, formatReplyDetail "RPU fault active" reply)
    | .timeout => (true, false, "RPU command timed out")
  { accepted, applied, readback := reply.readback, faultCode := reply.faultCode,
    contextCode := reply.interlockCode, message }

/-- Check a command and build its frames, with their number. -/
def prepareFrames (command : AfeCommand) :
    Prog RpuError (RpmsgAfeTransport F) (ℕ × List RpuWireCommand) := do
  ofResult (command.validate.mapError fun err ↦ .rejected err.toText)
  let frameCount ← ofResult ((RpuWireCommand.frameCountForAfeCommand command).mapError
    fun err ↦ .rejected err.toText)
  let firstSequence ← reserveSequences frameCount
  let frames ← ofResult ((RpuWireCommand.fromAfeCommandSequence firstSequence command).mapError
    fun err ↦ .rejected err.toText)
  return (frameCount, frames)

variable [RpmsgFile F]

/-- Send the frames one after the other; the last reply is kept. -/
def sendFrames (frameCount : ℕ) :
    ℕ → Option RpuWireReply → List RpuWireCommand →
      Prog RpuError (RpmsgAfeTransport F) (Option RpuWireReply)
  | _, finalReply, [] => return finalReply
  | idx, _, frame :: frames => do
    let reply ← mapError (fun err ↦ .transport
      (s!"frame {idx + 1}/{frameCount} op {frame.op.name} seq {frame.sequence}: " ++ err.toText))
      (transact frame)
    sendFrames frameCount (idx + 1) (some reply) frames

def submitAfeCommand (command : AfeCommand) :
    Prog RpuError (RpmsgAfeTransport F) AfeCommandReply := do
  let (frameCount, frames) ← prepareFrames command
  let finalReply ← sendFrames frameCount 0 none frames
  let reply ← okOr finalReply (.transport "RPU command produced no frames")
  return commandReply reply

def status : Prog RpuError (RpmsgAfeTransport F) RpuLinkStatus := do
  let sequence ← takeSequence
  let reply ← transact (.status sequence)
  let transport ← get
  return {
    available := true
    running := !(reply.status == .fault || reply.status == .timeout)
    firmware := some "rpmsg-rpu-wire-abi-v2"
    heartbeat := some reply.heartbeat
    lastFault := transport.lastFault }

instance : RpuAfeTransport (RpmsgAfeTransport F) where
  status := status
  submitAfeCommand := submitAfeCommand

end RpmsgAfeTransport

end DaphneSc.Server.Rpmsg
