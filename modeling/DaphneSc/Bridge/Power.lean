import DaphneSc.Bridge.Methods
import DaphneSc.Ieee.Double

/-!
# The power supply

The power supply takes commands as lines of text over a device that is opened when it is first
needed. A voltage or a current is set by a method, whose argument is compared with the configured
bounds before the command is written.
-/

namespace DaphneSc.Bridge

open Program Ieee OpcUaSnapshotWriter

def V8.Double.datum (d : V8.Double) : Datum := decode d.bits

/-- `<` -/
def V8.Double.lt (d e : V8.Double) : Bool := d.datum.lt e.datum

/-- What the operating system answers during a call, and whether the nodes can be updated after it.
An operation that fails has its text. -/
structure PowerHost where
  glob : Text → List Text
  openDevice : Text → Except Text Unit
  configureSerial : Text → Except RuntimeError Unit
  write : Text → Except Text Unit
  updateNodes : Except RuntimeError Unit

/-- The lines are those that have been handed to the device. -/
structure ScpiPowerSupply where
  isOpen : Bool := false
  devicePath : Text := []
  lines : List Text := []

abbrev PowerProg (α : Type) := Prog RuntimeError ScpiPowerSupply α

variable (host : PowerHost) (config : Config)

/-! ## The device -/

def selectDevice : Text :=
  if config.powerDevice ≠ "auto".toList then config.powerDevice
  else match host.glob "/dev/usbtmc*".toList with
    | path :: _ => path
    | [] =>
      match host.glob "/dev/ttyUSB*".toList with
      | path :: _ => path
      | [] => []

def isSerial (devicePath : Text) : Bool := "/dev/tty".toList.isPrefixOf devicePath

/-- What is wrong when there is no device. A device whose serial line cannot be configured stays
open. -/
def ensureOpen : PowerProg (Option Text) := do
  let supply ← get
  if supply.isOpen then return none
  let devicePath := selectDevice host config
  set { supply with devicePath }
  if devicePath = [] then
    return some "no USBTMC or serial power supply device found".toList
  match host.openDevice devicePath with
  | .error err => return some ("opening ".toList ++ devicePath ++ " failed: ".toList ++ err)
  | .ok _ =>
    set { supply with devicePath, isOpen := true }
    if isSerial devicePath then ofResult (host.configureSerial devicePath)
    return none

def command (cmd : Text) : PowerProg PUnit := do
  match ← ensureOpen host config with
  | some message => fail message
  | none =>
    let line := cmd ++ ['\n']
    modify fun supply ↦ { supply with lines := supply.lines ++ [line] }
    match host.write line with
    | .ok _ => return ⟨⟩
    | .error err => fail ("SCPI write failed: ".toList ++ err)

/-! ## Writes -/

def requireWrites : Except RuntimeError Unit :=
  if ¬ config.powerWritesEnabled then .error "power writes are disabled in config".toList
  else if ¬ config.powerVoltageMin.lt config.powerVoltageMax ∨
      ¬ config.powerCurrentMin.lt config.powerCurrentMax then
    .error "power write bounds are not configured".toList
  else .ok ⟨⟩

def toScpiNumber (value : V8.Double) : Text := value.datum.toFixed 6

def setOutput (enabled : Bool) : PowerProg Text := do
  if config.powerFake then
    return (if enabled then "fake output enabled" else "fake output disabled").toList
  ofResult (requireWrites config)
  command host config ("OUTP ".toList ++ if enabled then ['1'] else ['0'])
  return (if enabled then "output enabled" else "output disabled").toList

/-- Setting a quantity with its name, its command and its bounds. -/
def setQuantity (name cmd : Text) (lower upper value : V8.Double) : PowerProg Text := do
  if config.powerFake then return "fake ".toList ++ name ++ " accepted".toList
  ofResult (requireWrites config)
  failIf (value.lt lower ∨ upper.lt value)
    ("requested ".toList ++ name ++ " outside configured bounds".toList)
  command host config (cmd ++ toScpiNumber value)
  return name ++ " set".toList

def setVoltage (voltage : V8.Double) : PowerProg Text :=
  setQuantity host config "voltage".toList "VOLT ".toList config.powerVoltageMin
    config.powerVoltageMax voltage

def setCurrent (current : V8.Double) : PowerProg Text :=
  setQuantity host config "current".toList "CURR ".toList config.powerCurrentMin
    config.powerCurrentMax current

/-! ## Methods -/

def scRoles : RoleMask := roleMask .SlowControls ||| roleMask .Expert

def powerContext (kind : MethodKind) : MethodContext where
  kind := kind
  allowedRoles := scRoles
  executable := config.powerWritesEnabled

/-- The methods of the power supply in `buildNamespace`. -/
def powerMethods : List MethodNode :=
  [⟨"PDS.NP04.PowerSupply.USB0.Commands.EnableOutput".toList,
      powerContext config .PowerEnableOutput⟩,
    ⟨"PDS.NP04.PowerSupply.USB0.Commands.SetVoltage".toList, powerContext config .PowerSetVoltage⟩,
    ⟨"PDS.NP04.PowerSupply.USB0.Commands.SetCurrent".toList, powerContext config .PowerSetCurrent⟩]

/-- What a call returns, and the supply after it. -/
abbrev PowerCalled := (MethodStatus × Option Text) × ScpiPowerSupply

/-- The nodes are updated when the operation has succeeded. -/
def answer (m : PowerProg Text) (supply : ScpiPowerSupply) : PowerCalled :=
  let rejected (err : RuntimeError) : Text := cString ("rejected: ".toList ++ err)
  match (m <* ofResult host.updateNodes) supply with
  | .ok message supply => ((.good, some (cString message)), supply)
  | .error (.error err) supply => ((.good, some (rejected err)), supply)
  | .error .panic supply => ((.good, some (rejected [])), supply)

def powerMethodCallback (session : Option Credential) (methodContext : Option MethodContext)
    (arguments : Arguments) (supply : ScpiPowerSupply) : PowerCalled :=
  let refused (status : MethodStatus) : PowerCalled := ((status, none), supply)
  match methodContext with
  | none => refused .badInternalError
  | some context =>
    if arguments.outputSize < 1 then refused .badInternalError
    else if ¬ context.executable then refused .badNotSupported
    else if ¬ roleAllowed session context.allowedRoles then refused .badUserAccessDenied
    else match context.kind, arguments.input with
      | .PowerEnableOutput, [some (.boolean enabled)] =>
        answer host (setOutput host config enabled) supply
      | .PowerSetVoltage, [some (.double voltage)] =>
        answer host (setVoltage host config voltage) supply
      | .PowerSetCurrent, [some (.double current)] =>
        answer host (setCurrent host config current) supply
      | .DaphneControl, _ => refused .badInternalError
      | _, _ => refused .badInvalidArgument

/-- A call of the method with this node. -/
def powerCall (session : Option Credential) (methodId : Text) (arguments : Arguments)
    (supply : ScpiPowerSupply) : PowerCalled :=
  powerMethodCallback host config session
    (((powerMethods config).find? fun node ↦ node.nodeId = methodId).map MethodNode.context)
    arguments supply

end DaphneSc.Bridge
