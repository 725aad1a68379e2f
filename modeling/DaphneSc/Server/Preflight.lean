import DaphneSc.Program.Basic

/-!
# Preflight checks

Commands for the hardware are let through only when every check of the host has passed. Which checks
there are, and for how long their result is kept, is up to the provider.
-/

namespace DaphneSc.Server.Preflight

open Program

structure PreflightCheck where
  name : String
  ok : Bool
  detail : String
  deriving DecidableEq, Repr

structure PreflightStatus where
  checks : List PreflightCheck
  deriving DecidableEq, Repr

namespace PreflightStatus

/-- The status that is assumed where no check is needed. -/
def ready : PreflightStatus := ⟨[]⟩

def readyForHardwareCommands (status : PreflightStatus) : Bool :=
  status.checks.all fun check ↦ check.ok

def failureMessage (status : PreflightStatus) : String :=
  if status.readyForHardwareCommands then
    "preflight ok"
  else
    let failures := "; ".intercalate
      ((status.checks.filter fun check ↦ !check.ok).map fun check ↦
        s!"{check.name} ({check.detail})")
    s!"preflight failed: {failures}"

end PreflightStatus

class PreflightProvider (P : Type) where
  check : Prog Empty P PreflightStatus

end DaphneSc.Server.Preflight
