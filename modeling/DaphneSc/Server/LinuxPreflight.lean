import DaphneSc.Core.ClockChip
import DaphneSc.Server.Machine
import DaphneSc.Server.Preflight
import Mathlib.Data.List.Infix

/-!
# The checks of a Linux host

The checks look at the services, the FPGA manager, the device files, the clock chip and the
endpoint, with what the board's configuration files say of them. A result is kept for some time and
answers the checks that are asked for meanwhile.
-/

namespace DaphneSc.Server.Preflight

open Core.ClockChip ClockChipTool Machine Program

namespace PreflightCheck

def pass (name detail : String) : PreflightCheck := ⟨name, true, detail⟩

def fail (name detail : String) : PreflightCheck := ⟨name, false, detail⟩

end PreflightCheck

/-! ## Configuration -/

def clockchipDefaultAddr : UInt16 := 0x70
def clockchipSanityRegister : UInt8 := 0xE6
def clockchipSanityValue : UInt8 := 0x06

/-- The variables of the process, as far as they are Unicode. -/
abbrev Environment := Text → Option Text

def boardConfigPaths : List String :=
  ["/etc/default/firmware", "/etc/daphne-board.env", "/etc/daphne-sc.env"]

def readBoardConfig : Prog Empty Host BoardConfig := readBoardConfigFrom boardConfigPaths

def envValue (env : Environment) (config : BoardConfig) (key default : Text) : Text :=
  match env key with
  | some value@(_ :: _) => value
  | _ => ((config key).filter fun value ↦ !value.isEmpty).getD default

def parseI2cAddr (addr : Text) : Option UInt16 :=
  match trim addr with
  | '0' :: 'x' :: hex | '0' :: 'X' :: hex => (fromStrRadix 16 hex).toOption
  | trimmed => (fromStrRadix 10 trimmed).toOption

def parseU8Integer (value : Text) : Option UInt8 :=
  (parseI2cAddr value).bind fun value ↦ if value.toNat < 256 then some value.toUInt8 else none

def clockchipAddr (env : Environment) (config : BoardConfig) : UInt16 :=
  (parseI2cAddr (envValue env config "CLOCKCHIP_ADDR".toList
    ("0x".toList ++ (hexUpper 2 clockchipDefaultAddr.toNat).toList))).getD clockchipDefaultAddr

def endpointSuccessStates (env : Environment) (config : BoardConfig) : List UInt8 :=
  let raw := envValue env config "ENDPOINT_SUCCESS_STATES".toList "0x8".toList
  let states := ((raw.splitOnP fun c ↦ c = ',' ∨ c = ' ').filter
    fun token ↦ !(trim token).isEmpty).filterMap parseU8Integer
  if states.isEmpty then [0x8] else states

/-- The bus that is configured, if any; one that is not a number stands for no bus at all. -/
def configuredBuses (env : Environment) (config : BoardConfig) : Option (List UInt8) :=
  let configured := envValue env config "CLOCKCHIP_BUS".toList "auto".toList
  if configured ≠ [] ∧ configured ≠ "auto".toList then
    some (parseDecimalU8 configured).toList
  else
    none

def clockchipBusCandidates (env : Environment) (config : BoardConfig) :
    Prog Empty Host (List UInt8) :=
  match configuredBuses env config with
  | some buses => return buses
  | none => i2cBusCandidates none

/-! ## Services, files and devices -/

def systemdUnitActive (unit : String) : Prog Empty Host PreflightCheck := do
  match ← observe (·.output "systemctl" ["is-active", unit]) with
  | .ok output =>
    let stdout := trim output.stdout
    if output.success ∧ stdout = "active".toList then
      return .pass unit "active"
    else
      let stderr := trim output.stderr
      let detail :=
        if stderr = [] then s!"state={String.ofList stdout}"
        else s!"state={String.ofList stdout}, stderr={String.ofList stderr}"
      return .fail unit detail
  | .error err => return .fail unit s!"systemctl failed: {err}"

def fileEquals (name path : String) (expected : Text) : Prog Empty Host PreflightCheck := do
  match ← observe (·.readToString path) with
  | .ok content =>
    let actual := trim content
    if actual = expected then
      return .pass name s!"{path}={String.ofList actual}"
    else
      return .fail name s!"{path}={String.ofList actual}, expected {String.ofList expected}"
  | .error err => return .fail name s!"{path}: {err}"

def pathExists (name path : String) : Prog Empty Host PreflightCheck := do
  if ← observe (·.pathExists path) then
    return .pass name path
  else
    return .fail name s!"{path} is missing"

def joinedPaths (buses : List UInt8) : String := ",".intercalate (buses.map i2cDevPath)

def anyI2cDevice (env : Environment) (config : BoardConfig) : Prog Empty Host PreflightCheck := do
  let buses ← clockchipBusCandidates env config
  if buses.isEmpty then
    return .fail "i2c_device_node" "no /dev/i2c-* nodes found"
  else
    return .pass "i2c_device_node" (joinedPaths buses)

def anyRemoteprocDevice : Prog Empty Host PreflightCheck := do
  match ← observe (·.readDir "/sys/class/remoteproc") with
  | .ok entries =>
    if entries.any (·.isOk) then
      return .pass "remoteproc" "/sys/class/remoteproc"
    else
      return .fail "remoteproc" "/sys/class/remoteproc is empty"
  | .error err => return .fail "remoteproc" s!"/sys/class/remoteproc: {err}"

/-! ## The clock chip -/

inductive ProbeResult where
  | found (detail : String)
  | missing
  | unavailable (detail : String)

def foundDetail (bus : UInt8) (addr : UInt16) (value : UInt8) : String :=
  s!"0x{hexUpper 2 addr.toNat} present on {i2cDevPath bus}; " ++
    s!"0x{hexUpper 2 clockchipSanityRegister.toNat}=0x{hexUpper 2 value.toNat}"

def probeI2cAddr (bus : UInt8) (addr : UInt16) : Prog Empty Host ProbeResult := do
  match ← attempt (LinuxI2cDevice.openAt bus addr) with
  | .ok device =>
    match ← attempt (device.readRegister clockchipSanityRegister) with
    | .ok value =>
      if value = clockchipSanityValue then
        return .found (foundDetail bus addr value)
      else
        return .unavailable (s!"{i2cDevPath bus} addr 0x{hexUpper 2 addr.toNat} read " ++
          s!"0x{hexUpper 2 clockchipSanityRegister.toNat}=0x{hexUpper 2 value.toNat}, " ++
          s!"expected 0x{hexUpper 2 clockchipSanityValue.toNat}")
    | .error err =>
      return .unavailable
        s!"{i2cDevPath bus} addr 0x{hexUpper 2 addr.toNat} sanity read failed: {err.toText}"
  | .error err =>
    let detail := err.toText
    if "No such device".toList <:+: detail.toList ∨ "Remote I/O".toList <:+: detail.toList then
      return .missing
    else
      return .unavailable s!"{i2cDevPath bus} addr 0x{hexUpper 2 addr.toNat}: {err.toText}"

/-- Probe the buses until the chip is found; otherwise, what went wrong on those that are
unavailable. -/
def probeBuses (chip : UInt16) : List UInt8 → List String →
    Prog Empty Host (Except (List String) String)
  | [], unavailable => return .error unavailable
  | bus :: buses, unavailable => do
    match ← probeI2cAddr bus chip with
    | .found detail => return .ok detail
    | .missing => probeBuses chip buses unavailable
    | .unavailable detail => probeBuses chip buses (unavailable ++ [detail])

def clockchipReachable (env : Environment) (config : BoardConfig) :
    Prog Empty Host PreflightCheck := do
  let chip := clockchipAddr env config
  let buses ← clockchipBusCandidates env config
  if buses.isEmpty then
    return .fail "clockchip_i2c" "no candidate I2C buses"
  else
    match ← probeBuses chip buses [] with
    | .ok detail => return .pass "clockchip_i2c" detail
    | .error unavailable =>
      if unavailable.isEmpty then
        return .fail "clockchip_i2c" s!"{chip} not detected on {joinedPaths buses}"
      else
        let errors := "; ".intercalate unavailable
        return .fail "clockchip_i2c"
          s!"0x{hexUpper 2 chip.toNat} not reachable on {joinedPaths buses}; probe errors: {errors}"

/-! ## The endpoint -/

def endpointChecks (successStates : List UInt8) (status : EndpointRegisterStatus) :
    List PreflightCheck :=
  let locks :=
    if status.mmcm0Locked && status.mmcm1Locked then
      .pass "endpoint_mmcm_locks" s!"clock_status=0x{hexUpper 8 status.clockStatus.toNat}"
    else
      .fail "endpoint_mmcm_locks" (s!"clock_status=0x{hexUpper 8 status.clockStatus.toNat} " ++
        s!"mmcm0={status.mmcm0Locked} mmcm1={status.mmcm1Locked}")
  let state := status.endpointState
  let detail := s!"endpoint_status=0x{hexUpper 8 status.endpointStatus.toNat} " ++
    s!"state=0x{hexUpper 0 state.toNat} timestamp_ok={status.timestampOk}"
  let fsm :=
    if successStates.contains state && (state != 0x8 || status.timestampOk) then
      .pass "endpoint_fsm" detail
    else
      .fail "endpoint_fsm" (detail ++ s!" accepted_states={successStates}")
  [locks, fsm]

def endpointRegisterChecks (env : Environment) (config : BoardConfig) :
    Prog Empty Host (List PreflightCheck) := do
  match ← attempt readEndpointRegisterStatus with
  | .ok status => return endpointChecks (endpointSuccessStates env config) status
  | .error err => return [.fail "endpoint_registers" s!"endpoint register read failed: {err}"]

/-! ## All checks -/

def collect (env : Environment) : Prog Empty Host PreflightStatus := do
  let config ← readBoardConfig
  let checks ← [
    systemdUnitActive "firmware.service",
    systemdUnitActive "clockchip.service",
    systemdUnitActive "endpoint.service",
    fileEquals "fpga_manager" "/sys/class/fpga_manager/fpga0/state" "operating".toList,
    pathExists "pl_i2c_device" "/sys/bus/platform/devices/9c000000.i2c",
    pathExists "pl_spi_device" "/sys/bus/platform/devices/9c020000.axi_quad_spi",
    anyI2cDevice env config,
    pathExists "spi_device_node" "/dev/spidev3.0",
    anyRemoteprocDevice,
    clockchipReachable env config].mapM id
  let endpoint ← endpointRegisterChecks env config
  return ⟨checks ++ endpoint⟩

structure CachedPreflight where
  checkedAt : ℕ
  status : PreflightStatus

/-- The provider, and the machine it runs on. Times are in nanoseconds. -/
structure LinuxPreflight where
  ttl : ℕ := 1000000000
  cached : Option CachedPreflight := none
  env : Environment
  host : Host

namespace LinuxPreflight

def withTtl (ttl : ℕ) (env : Environment) (host : Host) : LinuxPreflight := { ttl, env, host }

def hostLens : Lens LinuxPreflight Host where
  view := host
  update host preflight := { preflight with host := host }
  view_update _ _ := rfl

/-- Whether a result is still young enough. -/
def isFresh (cached : CachedPreflight) : Prog Empty LinuxPreflight Bool := do
  let now ← zoom hostLens (observe (·.now))
  return now - cached.checkedAt < (← get).ttl

def refresh : Prog Empty LinuxPreflight PreflightStatus := do
  let status ← zoom hostLens (collect (← get).env)
  let now ← zoom hostLens (observe (·.now))
  modify fun preflight ↦ { preflight with cached := some ⟨now, status⟩ }
  return status

instance : PreflightProvider LinuxPreflight where
  check := do
    match (← get).cached with
    | some cached =>
      if ← isFresh cached then
        return cached.status
      else
        refresh
    | none => refresh

end LinuxPreflight

end DaphneSc.Server.Preflight
