import DaphneSc.Core.Rpu
import DaphneSc.Server.Messages
import DaphneSc.Server.Preflight

/-!
# Slow-control status

What is known of the host and the RPU, and the message it is sent in. Where the host keeps these
things, and its clock, are up to the environment.
-/

namespace DaphneSc.Server.SlowControl

open DaphneSc.Core Core.Rpu Pb Preflight Program

/-! ## Status -/

structure FirmwareStatus where
  loaded : Bool
  fpgaManagerState : Option String
  overlayName : Option String
  buildId : Option String
  plDevicesPresent : List String

structure I2cDeviceStatus where
  address : UInt8
  name : String
  present : Bool
  status : Option String

structure I2cBusStatus where
  bus : UInt8
  path : String
  devices : List I2cDeviceStatus

structure ClockStatus where
  endpointClockSourceControlled : Option Bool
  mmcm0Locked : Option Bool
  mmcm1Locked : Option Bool
  rawEndpointStatus : Option UInt32

structure TemperatureReading where
  name : String
  celsius : Float

structure RailReading where
  name : String
  voltageV : Option Float
  currentA : Option Float
  powerW : Option Float
  status : Option String

structure ServiceStatus where
  name : String
  active : Bool
  state : String

structure SlowControlStatus where
  firmware : FirmwareStatus
  rpu : RpuLinkStatus
  i2c : List I2cBusStatus
  clocks : ClockStatus
  temperatures : List TemperatureReading
  rails : List RailReading
  services : List ServiceStatus
  errors : List String

/-- The host the server runs on: its clock, and what its files, services and buses show. -/
class HostEnvironment (E : Type) where
  nowNs (host : E) : UInt64 × E
  collectSlowControlStatus (preflight : PreflightStatus) (rpu : RpuLinkStatus) :
    Prog Empty E SlowControlStatus

/-! ## Messages -/

namespace Sc

structure SlowControlStatusRequest where
  level : UInt32 := 0
  deriving Inhabited

structure FirmwareStatus where
  loaded : Bool := false
  (fpgaManagerState overlayName buildId : String := "")
  plDevicesPresent : List String := []

structure RpuStatus where
  (available running : Bool := false)
  firmware : String := ""
  heartbeat : UInt64 := 0
  lastFault : String := ""

structure I2cDeviceStatus where
  address : UInt32 := 0
  name : String := ""
  present : Bool := false
  status : String := ""

structure I2cBusStatus where
  bus : UInt32 := 0
  path : String := ""
  devices : List I2cDeviceStatus := []

structure ClockStatus where
  (endpointClockSourceControlled mmcm0Locked mmcm1Locked : Bool := false)
  rawEndpointStatus : UInt32 := 0

structure RailReading where
  name : String := ""
  (voltageV currentA powerW : Float := 0)
  status : String := ""

structure SlowControlStatusResponse extends Outcome where
  firmware : Option FirmwareStatus := none
  rpu : Option RpuStatus := none
  i2c : List I2cBusStatus := []
  clocks : Option ClockStatus := none
  temperatures : List TemperatureReading := []
  rails : List RailReading := []
  services : List ServiceStatus := []
  errors : List String := []

end Sc

def firmwareStatusToPb (status : FirmwareStatus) : Sc.FirmwareStatus where
  loaded := status.loaded
  fpgaManagerState := status.fpgaManagerState.getD ""
  overlayName := status.overlayName.getD ""
  buildId := status.buildId.getD ""
  plDevicesPresent := status.plDevicesPresent

def i2cDeviceToPb (status : I2cDeviceStatus) : Sc.I2cDeviceStatus where
  address := status.address.toUInt32
  name := status.name
  present := status.present
  status := status.status.getD ""

def i2cBusToPb (status : I2cBusStatus) : Sc.I2cBusStatus where
  bus := status.bus.toUInt32
  path := status.path
  devices := status.devices.map i2cDeviceToPb

def clockStatusToPb (status : ClockStatus) : Sc.ClockStatus where
  endpointClockSourceControlled := status.endpointClockSourceControlled.getD false
  mmcm0Locked := status.mmcm0Locked.getD false
  mmcm1Locked := status.mmcm1Locked.getD false
  rawEndpointStatus := status.rawEndpointStatus.getD 0

def railToPb (status : RailReading) : Sc.RailReading where
  name := status.name
  voltageV := status.voltageV.getD 0
  currentA := status.currentA.getD 0
  powerW := status.powerW.getD 0
  status := status.status.getD ""

def slowControlStatusToPb (success : Bool) (message : String) (status : SlowControlStatus) :
    Sc.SlowControlStatusResponse where
  success := success
  message := message
  firmware := some (firmwareStatusToPb status.firmware)
  rpu := some {
    available := status.rpu.available
    running := status.rpu.running
    firmware := status.rpu.firmware.getD ""
    heartbeat := status.rpu.heartbeat.getD 0
    lastFault := status.rpu.lastFault.getD "" }
  i2c := status.i2c.map i2cBusToPb
  clocks := some (clockStatusToPb status.clocks)
  temperatures := status.temperatures
  rails := status.rails.map railToPb
  services := status.services
  errors := status.errors

end DaphneSc.Server.SlowControl
