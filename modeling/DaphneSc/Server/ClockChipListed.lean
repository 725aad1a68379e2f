import DaphneSc.Server.Inventory
import DaphneSc.Server.Prerequisites

/-!
# The clock chip in the inventory

The collector learns the bus of the clock chip from the text of the preflight check that has found
it. What that check writes is read back as it was meant, so a chip that has answered is in the
inventory.
-/

namespace DaphneSc.Server.StatusCollector

open ClockChipTool Machine Preflight Program SlowControl

variable {ε α ι : Type}

/-! ## The text of the check -/

/-- Whatever comes out has been seen between the start of the program and its end. -/
def Reports (report : Prog ε Host α) (R : View Moment → α → Prop) : Prop :=
  Within Feed.passes report ∧ ∀ {host a after}, report host = .ok a after →
    R (.during host.moments host.tick after.tick) a

end DaphneSc.Server.StatusCollector
