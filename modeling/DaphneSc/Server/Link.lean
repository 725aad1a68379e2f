import DaphneSc.Queue.Delayed
import DaphneSc.Rpu.CommandFrames
import DaphneSc.Server.Device

/-!
# The link to the RPU

The device with the RPU behind it. The RPU handles every frame written, in order, and its reply goes
to a queue with delayed delivery. Two schedules stand for what the host does not control: how the
interlock changes before each frame, and how many replies have arrived by each poll.
-/

namespace DaphneSc.Server.Rpmsg

open Core.Afe Core.RpuWire Core.Rpu Rpu.Runtime Program FrameDevice RpmsgAfeTransport

structure Link (H : Type) where
  runtime : RpuRuntime H
  replies : DelayedQueue (Vector UInt8 rpuWireReplyLen)
  /-- The interlock changes before each of the next frames. -/
  interlocks : ℕ → List InterlockState
  /-- How many of the pending replies arrive by each of the next polls. -/
  arrivals : ℕ → ℕ

/-- The interlock changes one after the other. -/
def setInterlocks {H : Type} (runtime : RpuRuntime H) (interlocks : List InterlockState) :
    RpuRuntime H :=
  interlocks.foldl (fun runtime interlock ↦ runtime.setInterlock interlock) runtime

namespace Link

variable {H ε : Type}

/-- The runtime the next frame meets. -/
def facing (link : Link H) : RpuRuntime H := setInterlocks link.runtime (link.interlocks 0)

variable [AfeHardware H ε]

/-- A frame is handled, and its reply is on its way. A runtime that panics sends none. -/
def handle (link : Link H) (bytes : Vector UInt8 rpuWireCommandLen) : Link H :=
  let interlocks := fun n ↦ link.interlocks (n + 1)
  match RpuRuntime.handleFrame bytes link.facing with
  | .ok reply runtime => { link with runtime, interlocks, replies := link.replies.send reply }
  | .error _ runtime => { link with runtime, interlocks }

instance : FrameDevice (Link H) where
  accept := handle
  wait link := { link with
    replies := link.replies.arrive (link.arrivals 0)
    arrivals := fun n ↦ link.arrivals (n + 1) }
  receive link := link.replies.receive.map fun (bytes, replies) ↦ (bytes, { link with replies })

end Link

end DaphneSc.Server.Rpmsg
