import DaphneSc.Queue.Delayed
import DaphneSc.Rpu.Dispatch
import DaphneSc.Server.Device

/-!
# A link with delays both ways and corrupted frames

Frames reach the runtime in order, each some time after it was written, and some of them corrupted
beyond decoding. Every frame handled puts a reply on the way back, marked here with the number of
the frame it answers. Four schedules stand for what neither end controls.
-/

namespace DaphneSc.Server.Rpmsg

open Core.Afe Core.RpuWire Core.Rpu Rpu.Runtime Program FrameDevice RpmsgAfeTransport

/-- Bytes that are no command. -/
structure Garbage where
  bytes : Vector UInt8 rpuWireCommandLen
  undecodable : ∃ err, RpuWireCommand.decode bytes.toList = .error err

/-- Something on its way, with the number of its frame. -/
structure Numbered (n : ℕ) where
  frame : ℕ
  bytes : Vector UInt8 n

structure NoisyLink (H : Type) where
  runtime : RpuRuntime H
  /-- How many frames were written. -/
  written : ℕ
  frames : DelayedQueue (Numbered rpuWireCommandLen)
  replies : DelayedQueue (Numbered rpuWireReplyLen)
  /-- What becomes of a frame when it is not delivered as it was written, by its number. -/
  noise : ℕ → Option Garbage
  /-- The interlock changes before a frame is handled, by its number. -/
  interlocks : ℕ → List InterlockState
  /-- How many of the pending frames are delivered by each of the next polls. -/
  deliveries : ℕ → ℕ
  /-- How many of the pending replies arrive by each of the next polls. -/
  arrivals : ℕ → ℕ

namespace NoisyLink

variable {H ε : Type}

/-- The bytes that are delivered for a frame. -/
def delivered (link : NoisyLink H) (bytes : Vector UInt8 rpuWireCommandLen) :
    Vector UInt8 rpuWireCommandLen :=
  match link.noise link.written with
  | some garbage => garbage.bytes
  | none => bytes

variable [AfeHardware H ε]

/-- The runtime handles a frame; one that panics sends no reply. -/
def handle (link : NoisyLink H) (frame : Numbered rpuWireCommandLen) : NoisyLink H :=
  let facing := (link.interlocks frame.frame).foldl
    (fun runtime interlock ↦ runtime.setInterlock interlock) link.runtime
  match RpuRuntime.handleFrame frame.bytes facing with
  | .ok reply runtime => { link with runtime, replies := link.replies.send ⟨frame.frame, reply⟩ }
  | .error _ runtime => { link with runtime }

/-- The runtime handles the frames that were delivered. -/
def handleDelivered (link : NoisyLink H) : NoisyLink H :=
  let frames := link.frames.arrive (link.deliveries 0)
  frames.readable.foldl handle { link with
    frames := { frames with readable := [] }
    deliveries := fun n ↦ link.deliveries (n + 1) }

instance : FrameDevice (NoisyLink H) where
  accept link bytes := { link with
    written := link.written + 1
    frames := link.frames.send ⟨link.written, link.delivered bytes⟩ }
  wait link :=
    let link := link.handleDelivered
    { link with
      replies := link.replies.arrive (link.arrivals 0)
      arrivals := fun n ↦ link.arrivals (n + 1) }
  receive link := link.replies.receive.map fun (reply, replies) ↦
    (reply.bytes, { link with replies })

end NoisyLink

end DaphneSc.Server.Rpmsg
