import DaphneSc.Server.LinuxPreflight
import DaphneSc.Server.SlowControl
import Mathlib.Data.List.Dedup

/-!
# The status of a Linux host

What is collected for a status request: the FPGA, the I2C buses with the devices on them, the
clocks, temperatures and rails from the files of the system, regulators over PMBus, and services.
What cannot be read is left out and noted as an error.
-/

namespace DaphneSc.Server.StatusCollector

open ClockChipTool Core.Rpu Machine Preflight Program SlowControl

def services : List String :=
  ["firmware.service", "clockchip.service", "endpoint.service", "hermes.service", "daphne.service"]

def plDevices : List String :=
  ["/sys/bus/platform/devices/9c000000.i2c", "/sys/bus/platform/devices/9c020000.axi_quad_spi"]

/-! ## Texts and numbers -/

def readTrimmed (path : String) : Prog Empty Host (Option Text) := do
  match ← observe (·.readToString path) with
  | .ok content => return some (trim content)
  | .error _ => return none

/-- An unsigned number with an optional plus sign, below a limit. -/
def parseUnsigned (radix limit : ℕ) (text : Text) : Option ℕ :=
  let digits := match text with
    | '+' :: rest => rest
    | _ => text
  if digits = [] then none
  else
    let value := digits.foldl
      (fun value c ↦ value.bind fun value ↦ (toDigit radix c).map (value * radix + ·)) (some 0)
    value.filter (· < limit)

/-- The parts before and after the last occurrence of a character. -/
def rsplitOnce (c : Char) (text : Text) : Option (Text × Text) :=
  (splitOnce c text.reverse).map fun parts ↦ (parts.2.reverse, parts.1.reverse)

/-- Decimal digits with what follows them. -/
def takeDigits (text : Text) : Text × Text := text.span Char.isDigit

def digitsValue (digits : Text) : ℕ :=
  digits.foldl (fun value c ↦ value * 10 + (c.toNat - '0'.toNat)) 0

/-- The exponent of a number, if it has one, up to the end of the text. -/
def parseExponent : Text → Option ℤ
  | [] => some 0
  | e :: rest =>
    if e.toLower ≠ 'e' then none
    else
      let sign := match rest with
        | '-' :: _ => -1
        | _ => 1
      let digits := match rest with
        | '-' :: digits | '+' :: digits => digits
        | digits => digits
      if digits ≠ [] ∧ digits.all Char.isDigit then some (sign * digitsValue digits) else none

/-- A number without its sign: the nearest double to its decimal value. -/
def parseMagnitude (text : Text) : Option Float :=
  let lower := text.map Char.toLower
  if lower = "inf".toList ∨ lower = "infinity".toList then some (1 / 0)
  else if lower = "nan".toList then some (0 / 0)
  else
    let (whole, rest) := takeDigits text
    let (fraction, rest) := match rest with
      | '.' :: rest => takeDigits rest
      | _ => ([], rest)
    if whole = [] ∧ fraction = [] then none
    else (parseExponent rest).map fun exponent ↦
      let scale : ℤ := exponent - fraction.length
      Float.ofScientific (digitsValue (whole ++ fraction)) (scale < 0) scale.natAbs

/-- `str::parse::<f64>` -/
def parseF64 (text : Text) : Except String Float :=
  let invalid := "invalid float literal"
  match text with
  | [] => .error "cannot parse float from empty string"
  | '-' :: rest => (parseMagnitude rest).elim (.error invalid) fun value ↦ .ok (-value)
  | '+' :: rest => (parseMagnitude rest).elim (.error invalid) .ok
  | _ => (parseMagnitude text).elim (.error invalid) .ok

def readScaled (path : String) (divisor : Float) : Prog Empty Host (Except String Float) := do
  match ← readTrimmed path with
  | none => return .error s!"{path}: unreadable"
  | some raw =>
    match parseF64 raw with
    | .error err => return .error s!"{path}: {err}"
    | .ok value => return .ok (value / divisor)

def readMillidegrees (path : String) : Prog Empty Host (Except String Float) := readScaled path 1000

/-! ## Directories -/

/-- The names in a directory that are Unicode; none when it cannot be read. -/
def entryNames (path : String) : Prog Empty Host (List Text) := do
  match ← observe (·.readDir path) with
  | .ok entries => return entries.filterMap fun entry ↦ entry.toOption.join
  | .error _ => return []

def sortNames (names : List Text) : List Text :=
  names.mergeSort fun a b ↦ String.ofList a ≤ String.ofList b

def joined (root : String) (name : Text) : String := root ++ "/" ++ String.ofList name

/-- The names of the entries whose paths are globbed. -/
def globNames (root : String) (start : Text) : Prog Empty Host (List Text) := do
  return sortNames ((← entryNames root).filter start.isPrefixOf)

structure IndexedInput where
  index : ℕ
  path : String

/-- The index between a prefix and `_input`. -/
def inputIndex (start name : Text) : Option ℕ :=
  let ending := "_input".toList
  if start.isPrefixOf name then
    let rest := name.drop start.length
    if ending.isSuffixOf rest then
      parseUnsigned 10 (2 ^ 32) (rest.take (rest.length - ending.length))
    else none
  else none

def indexedInputs (dir : String) (start : Text) : Prog Empty Host (List IndexedInput) := do
  let inputs := (← entryNames dir).filterMap fun name ↦
    (inputIndex start name).map fun index ↦ (⟨index, joined dir name⟩ : IndexedInput)
  return inputs.mergeSort (·.index ≤ ·.index)

/-! ## Firmware -/

def boardConfigPaths : List String := ["/etc/default/firmware", "/etc/daphne-board.env"]

def collectFirmwareStatus : Prog Empty Host FirmwareStatus := do
  let fpgaManagerState ← readTrimmed "/sys/class/fpga_manager/fpga0/state"
  let env ← readBoardConfigFrom boardConfigPaths
  let overlayName := ((env "FIRMWARE_APP".toList).or (env "APP".toList)).filter (!·.isEmpty)
  let buildId := overlayName.bind fun name ↦ (rsplitOnce '_' name).map Prod.snd
  let plDevicesPresent ← plDevices.filterM fun path ↦ observe (·.pathExists path)
  return {
    loaded := fpgaManagerState = some "operating".toList
    fpgaManagerState := fpgaManagerState.map String.ofList
    overlayName := overlayName.map String.ofList
    buildId := buildId.map String.ofList
    plDevicesPresent := plDevicesPresent }

/-! ## I2C -/

abbrev BusMap := Std.TreeMap UInt8 I2cBusStatus

def emptyBus (bus : UInt8) : I2cBusStatus := ⟨bus, i2cDevPath bus, []⟩

/-- The entry of a bus, made when there is none, with its devices changed. -/
def withBus (busMap : BusMap) (bus : UInt8) (change : List I2cDeviceStatus → List I2cDeviceStatus) :
    BusMap :=
  let entry := busMap[bus]?.getD (emptyBus bus)
  busMap.insert bus { entry with devices := change entry.devices }

/-- The bus and the address that an entry is named after. -/
def sysfsI2cDevice (name : Text) : Option (UInt8 × UInt8) := do
  let (bus, addr) ← splitOnce '-' name
  let bus ← parseUnsigned 10 256 bus
  let address ← parseUnsigned 16 256 addr
  return (UInt8.ofNat bus, UInt8.ofNat address)

/-- The registered devices in order, each of them once. -/
def sysfsI2cDevices : Prog Empty Host (List (UInt8 × UInt8)) := do
  let devices := (← entryNames "/sys/bus/i2c/devices").filterMap sysfsI2cDevice
  return devices.dedup.mergeSort fun a b ↦ a.1 < b.1 ∨ a.1 = b.1 ∧ a.2 ≤ b.2

/-- Lower-case hexadecimal digits, padded with zeros to a width. -/
def hexLower (width value : ℕ) : String :=
  let digits := Nat.toDigits 16 value
  String.ofList (List.replicate (width - digits.length) '0' ++ digits)

def sysfsI2cDeviceName (bus address : UInt8) : Prog Empty Host (Option Text) :=
  readTrimmed s!"/sys/bus/i2c/devices/{bus}-{hexLower 4 address.toNat}/name"

/-- What comes after the first occurrence of a text. -/
def afterFirst (pattern : Text) : Text → Option Text
  | [] => none
  | c :: rest =>
    if pattern.isPrefixOf (c :: rest) then some ((c :: rest).drop pattern.length)
    else afterFirst pattern rest

def parseI2cBusFromDetail (detail : Text) : Option UInt8 := do
  let rest ← afterFirst "i2c-".toList detail
  let bus ← parseUnsigned 10 256 (rest.takeWhile Char.isDigit)
  return UInt8.ofNat bus

def clockchipDetail (preflight : PreflightStatus) : Option (UInt8 × String) :=
  (preflight.checks.find? fun check ↦ check.name = "clockchip_i2c" ∧ check.ok).bind fun check ↦
    (parseI2cBusFromDetail check.detail.toList).map fun bus ↦ (bus, check.detail)

/-- In the place of the first device with its address, or at the end. -/
def upsertI2cDevice : List I2cDeviceStatus → I2cDeviceStatus → List I2cDeviceStatus
  | [], device => [device]
  | existing :: devices, device =>
    if existing.address = device.address then device :: devices
    else existing :: upsertI2cDevice devices device

def registeredDevice (address : UInt8) (name : Option Text) : I2cDeviceStatus where
  address := address
  name := (name.map String.ofList).getD s!"0x{hexUpper 2 address.toNat}"
  present := true
  status := some "registered"

def clockchipDevice (detail : String) : I2cDeviceStatus where
  address := 0x70
  name := "clockchip"
  present := true
  status := some detail

def addRegistered (busMap : BusMap) (device : UInt8 × UInt8) : Prog Empty Host BusMap := do
  let name ← sysfsI2cDeviceName device.1 device.2
  return withBus busMap device.1 (· ++ [registeredDevice device.2 name])

def addClockchip (preflight : PreflightStatus) (busMap : BusMap) : BusMap :=
  match clockchipDetail preflight with
  | some (bus, detail) => withBus busMap bus (upsertI2cDevice · (clockchipDevice detail))
  | none => busMap

def sortedDevices (bus : I2cBusStatus) : I2cBusStatus :=
  { bus with devices := bus.devices.mergeSort (·.address ≤ ·.address) }

def collectI2cStatus (preflight : PreflightStatus) : Prog Empty Host (List I2cBusStatus) := do
  let candidates ← i2cBusCandidates none
  let busMap : BusMap := candidates.foldl (fun busMap bus ↦ busMap.insert bus (emptyBus bus)) ∅
  let devices ← sysfsI2cDevices
  let busMap ← devices.foldlM addRegistered busMap
  return (addClockchip preflight busMap).toList.map fun entry ↦ sortedDevices entry.2

/-! ## Clocks -/

def collectClockStatus (errors : List String) : Prog Empty Host (ClockStatus × List String) := do
  match ← attempt readEndpointRegisterStatus with
  | .ok status => return ({
      endpointClockSourceControlled := some status.endpointClockSource
      mmcm0Locked := some status.mmcm0Locked
      mmcm1Locked := some status.mmcm1Locked
      rawEndpointStatus := some status.endpointStatus }, errors)
  | .error err => return ({
      endpointClockSourceControlled := none
      mmcm0Locked := none
      mmcm1Locked := none
      rawEndpointStatus := none }, errors ++ [s!"endpoint register read failed: {err}"])

/-! ## Temperatures and rails -/

/-- A reading is kept, the error of one that failed is noted. -/
def keep {R : Type} (collected : List R × List String) (result : Except String R) :
    List R × List String :=
  match result with
  | .ok reading => (collected.1 ++ [reading], collected.2)
  | .error err => (collected.1, collected.2 ++ [err])

def zoneTemperature (name : Text) : Prog Empty Host (Except String TemperatureReading) := do
  let zone := joined "/sys/class/thermal" name
  let label := (← readTrimmed (zone ++ "/type")).getD name
  return (← readMillidegrees (zone ++ "/temp")).mapError (s!"thermal temperature read failed: {·}")
    |>.map fun celsius ↦ ⟨String.ofList label, celsius⟩

/-- The inputs of a monitoring device of one kind, each with the name of its reading. -/
def inputReading (hwmon hwmonName : String) (kind : Text) (what : String) (divisor : Float)
    (input : IndexedInput) : Prog Empty Host (Except String (String × Float)) := do
  let numbered := String.ofList kind ++ toString input.index
  let label :=
    ((← readTrimmed (hwmon ++ "/" ++ numbered ++ "_label")).map String.ofList).getD numbered
  return (← readScaled input.path divisor).mapError (s!"hwmon {what} read failed: {·}")
    |>.map fun value ↦ (hwmonName ++ "/" ++ label, value)

def hwmonNameOf (hwmon : String) (name : Text) : Prog Empty Host String := do
  return String.ofList ((← readTrimmed (hwmon ++ "/name")).getD name)

def hwmonTemperatures (collected : List TemperatureReading × List String) (name : Text) :
    Prog Empty Host (List TemperatureReading × List String) := do
  let hwmon := joined "/sys/class/hwmon" name
  let hwmonName ← hwmonNameOf hwmon name
  let inputs ← indexedInputs hwmon "temp".toList
  inputs.foldlM (fun collected input ↦ do
    let result ← inputReading hwmon hwmonName "temp".toList "temperature" 1000 input
    return keep collected (result.map fun reading ↦ ⟨reading.1, reading.2⟩)) collected

def collectTemperatures (errors : List String) :
    Prog Empty Host (List TemperatureReading × List String) := do
  let zones ← globNames "/sys/class/thermal" "thermal_zone".toList
  let collected ← zones.foldlM (fun collected zone ↦ do
    return keep collected (← zoneTemperature zone)) ([], errors)
  let hwmons ← globNames "/sys/class/hwmon" "hwmon".toList
  hwmons.foldlM hwmonTemperatures collected

/-- The three kinds of inputs that are rails: how they are called, their units, and where their
value goes. -/
structure RailKind where
  kind : Text
  what : String
  divisor : Float
  rail (name : String) (value : Float) : RailReading

def railKinds : List RailKind :=
  [⟨"in".toList, "voltage", 1000, fun name value ↦ ⟨name, some value, none, none, some "hwmon"⟩⟩,
    ⟨"curr".toList, "current", 1000, fun name value ↦ ⟨name, none, some value, none, some "hwmon"⟩⟩,
    ⟨"power".toList, "power", 1000000, fun name value ↦
      ⟨name, none, none, some value, some "hwmon"⟩⟩]

def inputRails (hwmon hwmonName : String) (collected : List RailReading × List String)
    (kind : RailKind) : Prog Empty Host (List RailReading × List String) := do
  let inputs ← indexedInputs hwmon kind.kind
  inputs.foldlM (fun collected input ↦ do
    let result ← inputReading hwmon hwmonName kind.kind kind.what kind.divisor input
    return keep collected (result.map fun reading ↦ kind.rail reading.1 reading.2)) collected

def hwmonRails (collected : List RailReading × List String) (name : Text) :
    Prog Empty Host (List RailReading × List String) := do
  let hwmon := joined "/sys/class/hwmon" name
  let hwmonName ← hwmonNameOf hwmon name
  railKinds.foldlM (inputRails hwmon hwmonName) collected

/-! ### Regulators -/

def pmbusBus : UInt8 := 2
def pmbusReadVout : UInt8 := 0x8B
def pmbusReadIout : UInt8 := 0x8C

structure PmbusRegulator where
  name : String
  address : UInt16

def pmbusRegulators : List PmbusRegulator :=
  [⟨"3VD3", 0x12⟩, ⟨"2VA1", 0x16⟩, ⟨"3VA6", 0x32⟩, ⟨"1VD8", 0x36⟩]

def signExtend (value : UInt16) (bits : UInt8) : Int32 :=
  let shift := (32 - bits.toUInt32).toInt32
  (value.toUInt32.toInt32 <<< shift) >>> shift

/-- A power of two is exact. -/
def powi (exponent : ℤ) : Float := Float.scaleB 1 exponent

def decodeLinear16 (raw : UInt16) (exponent : ℤ) : Float :=
  Float.ofInt raw.toInt16.toInt * powi exponent

def decodeLinear11 (raw : UInt16) : Float :=
  let mantissa := signExtend (raw &&& 0x07FF) 11
  let exponent := signExtend (raw >>> 11) 5
  Float.ofInt mantissa.toInt * powi exponent.toInt

def readPmbusRegulator (regulator : PmbusRegulator) : Prog String Host (Float × Float) :=
  mapError LinuxI2cError.toText do
    let device ← LinuxI2cDevice.openAt pmbusBus regulator.address
    device.setPec true
    let rawVoltage ← device.readWordData pmbusReadVout
    let rawCurrent ← device.readWordData pmbusReadIout
    return (decodeLinear16 rawVoltage (-9), decodeLinear11 rawCurrent)

def regulatorRail (regulator : PmbusRegulator) : Prog Empty Host (Except String RailReading) := do
  match ← attempt (readPmbusRegulator regulator) with
  | .ok (voltageV, currentA) => return .ok {
      name := "pmbus/" ++ regulator.name
      voltageV := some voltageV
      currentA := some currentA
      powerW := some (voltageV * currentA)
      status := some s!"{i2cDevPath pmbusBus} addr 0x{hexUpper 2 regulator.address.toNat}" }
  | .error err => return .error s!"PMBus regulator {regulator.name} current read failed: {err}"

def collectPmbusRegulatorRails (errors : List String) :
    Prog Empty Host (List RailReading × List String) :=
  pmbusRegulators.foldlM (fun collected regulator ↦ do
    return keep collected (← regulatorRail regulator)) ([], errors)

def collectRails (errors : List String) : Prog Empty Host (List RailReading × List String) := do
  let hwmons ← globNames "/sys/class/hwmon" "hwmon".toList
  let (rails, errors) ← hwmons.foldlM hwmonRails ([], errors)
  let (regulators, errors) ← collectPmbusRegulatorRails errors
  return (rails ++ regulators, errors)

/-! ## Services -/

def serviceStatus (service : String) : Prog Empty Host ServiceStatus := do
  match ← observe (·.output "systemctl" ["is-active", service]) with
  | .ok output =>
    let state := trim output.stdout
    return ⟨service, output.success ∧ state = "active".toList, String.ofList state⟩
  | .error err =>
    let state := s!"systemctl failed: {err}"
    return ⟨service, false, state⟩

def remoteprocStateDetail (state : Text) (firmware : Option Text) : String :=
  match firmware.filter (!·.isEmpty) with
  | some firmware => s!"{String.ofList state}; firmware={String.ofList firmware}"
  | none => String.ofList state

def remoteprocStatus (name : Text) : Prog Empty Host ServiceStatus := do
  let path := joined "/sys/class/remoteproc" name
  let state := (← readTrimmed (path ++ "/state")).getD "unknown".toList
  let firmware ← readTrimmed (path ++ "/firmware")
  return ⟨"remoteproc/" ++ String.ofList name, state = "running".toList,
    remoteprocStateDetail state firmware⟩

def collectRemoteprocStatuses : Prog Empty Host (List ServiceStatus) := do
  (sortNames (← entryNames "/sys/class/remoteproc")).mapM remoteprocStatus

def collectServiceStatuses : Prog Empty Host (List ServiceStatus) := do
  return (← services.mapM serviceStatus) ++ (← collectRemoteprocStatuses)

/-! ## Status -/

def preflightErrors (preflight : PreflightStatus) : List String :=
  (preflight.checks.filter (!·.ok)).map fun check ↦ s!"{check.name}: {check.detail}"

def collectSlowControlStatus (preflight : PreflightStatus) (rpu : RpuLinkStatus) :
    Prog Empty Host SlowControlStatus := do
  let errors := preflightErrors preflight
  let (clocks, errors) ← collectClockStatus errors
  let firmware ← collectFirmwareStatus
  let i2c ← collectI2cStatus preflight
  let (temperatures, errors) ← collectTemperatures errors
  let (rails, errors) ← collectRails errors
  let services ← collectServiceStatuses
  return { firmware, rpu, i2c, clocks, temperatures, rails, services, errors }

instance : HostEnvironment Host where
  nowNs host := (host.current.unixNs, host.next)
  collectSlowControlStatus := collectSlowControlStatus

end DaphneSc.Server.StatusCollector
