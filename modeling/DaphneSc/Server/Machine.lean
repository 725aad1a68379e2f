import DaphneSc.Bytes.LittleEndian
import DaphneSc.Program.Feed
import DaphneSc.Server.ClockChipTool

/-!
# The machine under the server

The server looks at the files, services, I2C devices and registers of the machine it runs on. Every
system call is one look at a moment of the machine, so nothing is assumed of what happens between
two of them.
-/

namespace DaphneSc.Server.Machine

open Bytes ClockChipTool Program

/-! ## Moments -/

/-- What a finished command has left behind, its output decoded. -/
structure Output where
  success : Bool
  stdout : Text
  stderr : Text

/-- What a process can find out about the machine at a moment. Errors are the texts of the system's
errors; a file name that is not Unicode is missing. -/
structure Moment where
  /-- The monotonic clock, in nanoseconds. -/
  now : ℕ
  /-- The system clock, in nanoseconds since the epoch. -/
  unixNs : UInt64
  readToString (path : String) : Except String Text
  pathExists (path : String) : Bool
  readDir (path : String) : Except String (List (Except String (Option Text)))
  output (program : String) (args : List String) : Except String Output
  openFile (path : String) : Except String Unit
  selectSlave (bus : UInt8) (address : UInt16) : Except String Unit
  setPec (bus : UInt8) (address : UInt16) (enabled : Bool) : Except String Unit
  i2cWrite (bus : UInt8) (address : UInt16) (bytes : List UInt8) : Except String Unit
  i2cRead (bus : UInt8) (address : UInt16) : Except String UInt8
  smbusReadWord (bus : UInt8) (address : UInt16) (register : UInt8) : Except String UInt16
  /-- The page size, and the error where it is not positive. -/
  sysconfPageSize : Int64 × String
  mmap (length offset : UInt64) : Except String Unit
  physical (address : UInt64) : UInt8
  munmap (length : UInt64) : Except String Unit

abbrev Host := Feed Moment

/-- A system call, and the error it is reported as. -/
def call {ε α : Type} (f : Moment → Except String α) (mapErr : String → ε) : Prog ε Host α := do
  match ← observe f with
  | .ok a => return a
  | .error err => fail (mapErr err)

@[simp] theorem wp_call {ε α : Type} (f : Moment → Except String α) (mapErr : String → ε)
    {Q : α → Host → Prop} {E : Abort ε → Host → Prop} {host : Host} :
    wp (call f mapErr) Q E host ↔
      (∀ a, f host.current = .ok a → Q a host.next) ∧
        ∀ err, f host.current = .error err → E (.error (mapErr err)) host.next := by
  rw [call, wp_bind, wp_observe]
  cases f host.current <;> simp

/-! ## Numbers in texts -/

/-- Upper-case hexadecimal digits, padded with zeros to a width. -/
def hexUpper (width value : ℕ) : String :=
  let digits := (Nat.toDigits 16 value).map Char.toUpper
  String.ofList (List.replicate (width - digits.length) '0' ++ digits)

/-- A decimal number of eight bits; a larger one overflows there just as it does with sixteen. -/
def parseDecimalU8 (value : Text) : Option UInt8 :=
  match fromStrRadix 10 value with
  | .ok parsed => if parsed.toNat < 256 then some parsed.toUInt8 else none
  | .error _ => none

/-! ## Board configuration -/

abbrev BoardConfig := Text → Option Text

/-- The lines of a text, without their ends. -/
def lines (content : Text) : List Text :=
  let pieces := content.splitOn '\n'
  let stripped := pieces.dropLast.map fun line ↦
    if line.getLast? = some '\r' then line.dropLast else line
  match pieces.getLast? with
  | none | some [] => stripped
  | some last => stripped ++ [last]

def unquote (value : Text) : Text :=
  let quoted := value.head? = some '"' ∧ value.getLast? = some '"' ∨
    value.head? = some '\'' ∧ value.getLast? = some '\''
  if quoted ∧ 2 ≤ value.length then value.tail.dropLast else value

/-- What a line of a configuration file assigns. -/
def assignment (line : Text) : Option (Text × Text) :=
  let line := trim line
  if line = [] ∨ line.head? = some '#' then none
  else (splitOnce '=' line).map fun parts ↦ (trim parts.1, unquote (trim parts.2))

/-- The assignments of a file, made one after the other. -/
def addLines (values : BoardConfig) (content : Text) : BoardConfig :=
  ((lines content).filterMap assignment).foldl
    (fun values entry ↦ Function.update values entry.1 (some entry.2)) values

/-- What a file adds to the configuration; one that cannot be read adds nothing. -/
def addFile (values : BoardConfig) : Except String Text → BoardConfig
  | .ok content => addLines values content
  | .error _ => values

def readBoardConfigFrom (paths : List String) : Prog Empty Host BoardConfig :=
  paths.foldlM (fun values path ↦ do
    return addFile values (← observe (·.readToString path))) fun _ ↦ none

/-! ## I2C devices -/

inductive LinuxI2cError where
  | openDevice (path source : String)
  | selectSlave (bus : UInt8) (address : UInt16) (source : String)
  | pec (bus : UInt8) (address : UInt16) (source : String)
  | read (bus : UInt8) (address : UInt16) (register : UInt8) (source : String)
  | write (bus : UInt8) (address : UInt16) (register : UInt8) (source : String)
  | noCandidateBus (address : UInt16) (attempted : List UInt8)

def LinuxI2cError.toText : LinuxI2cError → String
  | .openDevice path source => s!"could not open {path}: {source}"
  | .selectSlave bus address source =>
    s!"could not select I2C slave 0x{hexUpper 2 address.toNat} on bus {bus}: {source}"
  | .pec bus address source =>
    s!"could not set PEC for I2C slave 0x{hexUpper 2 address.toNat} on bus {bus}: {source}"
  | .read bus address register source =>
    s!"I2C read failed on bus {bus} addr 0x{hexUpper 2 address.toNat} " ++
      s!"reg 0x{hexUpper 2 register.toNat}: {source}"
  | .write bus address register source =>
    s!"I2C write failed on bus {bus} addr 0x{hexUpper 2 address.toNat} " ++
      s!"reg 0x{hexUpper 2 register.toNat}: {source}"
  | .noCandidateBus address attempted =>
    s!"could not find I2C bus for addr 0x{hexUpper 2 address.toNat}; attempted {attempted}"

def i2cDevPath (bus : UInt8) : String := s!"/dev/i2c-{bus}"

/-- A device file that is open and has its slave selected. -/
structure LinuxI2cDevice where
  bus : UInt8
  address : UInt16

namespace LinuxI2cDevice

def openAt (bus : UInt8) (address : UInt16) : Prog LinuxI2cError Host LinuxI2cDevice := do
  call (·.openFile (i2cDevPath bus)) (.openDevice (i2cDevPath bus))
  call (·.selectSlave bus address) (.selectSlave bus address)
  return ⟨bus, address⟩

def setPec (device : LinuxI2cDevice) (enabled : Bool) : Prog LinuxI2cError Host Unit :=
  call (·.setPec device.bus device.address enabled) (.pec device.bus device.address)

def readWordData (device : LinuxI2cDevice) (register : UInt8) : Prog LinuxI2cError Host UInt16 :=
  call (·.smbusReadWord device.bus device.address register)
    (.read device.bus device.address register)

def readRegister (device : LinuxI2cDevice) (register : UInt8) : Prog LinuxI2cError Host UInt8 := do
  call (·.i2cWrite device.bus device.address [register]) (.write device.bus device.address register)
  call (·.i2cRead device.bus device.address) (.read device.bus device.address register)

end LinuxI2cDevice

/-- The number of a device file with this name. -/
def i2cBusNumber (name : Text) : Option UInt8 :=
  if "i2c-".toList <+: name then parseDecimalU8 (name.drop 4) else none

/-- The numbers of the device files in a directory, in order. -/
def i2cBuses (entries : List (Except String (Option Text))) : List UInt8 :=
  (entries.filterMap fun entry ↦ entry.toOption.join.bind i2cBusNumber).mergeSort (· ≤ ·)

def i2cBusCandidates (configured : Option UInt8) : Prog Empty Host (List UInt8) :=
  match configured with
  | some bus => return [bus]
  | none => do
    match ← observe (·.readDir "/dev") with
    | .ok entries => return i2cBuses entries
    | .error _ => return []

/-! ## Endpoint registers -/

def epClkCtrl : UInt64 := 0x84000000
def epClkStat : UInt64 := 0x84000004
def epStat : UInt64 := 0x8400000C

structure EndpointRegisterStatus where
  (clockControl clockStatus endpointStatus : UInt32)

def bitSet (value bit : UInt32) : Bool := value &&& (1 <<< bit) != 0

namespace EndpointRegisterStatus

variable (status : EndpointRegisterStatus)

def endpointClockSource : Bool := bitSet status.clockControl 2

def mmcm0Locked : Bool := bitSet status.clockStatus 0

def mmcm1Locked : Bool := bitSet status.clockStatus 1

def endpointState : UInt8 := (status.endpointStatus &&& 0xF).toUInt8

def timestampOk : Bool := bitSet status.endpointStatus 4

end EndpointRegisterStatus

def pageSize : Prog String Host UInt64 := do
  let result ← observe (·.sysconfPageSize)
  if result.1 ≤ 0 then
    fail s!"sysconf(_SC_PAGESIZE): {result.2}"
  else
    return result.1.toUInt64

/-- The four bytes are read one by one from a mapping of their page. -/
def readPhysU32 (address : UInt64) : Prog String Host UInt32 := do
  call (·.openFile "/dev/mem") fun err ↦ s!"/dev/mem: {err}"
  let pageSize ← pageSize
  let pageMask := ~~~(pageSize - 1)
  let pageBase := address &&& pageMask
  let pageOffset := address - pageBase
  call (·.mmap pageSize pageBase) fun err ↦ s!"mmap 0x{hexUpper 8 pageBase.toNat}: {err}"
  let base := pageBase + pageOffset
  let byte0 ← observe (·.physical base)
  let byte1 ← observe (·.physical (base + 1))
  let byte2 ← observe (·.physical (base + 2))
  let byte3 ← observe (·.physical (base + 3))
  let value := UInt32.ofNat (ofLe [byte0, byte1, byte2, byte3])
  call (·.munmap pageSize) fun err ↦ s!"munmap: {err}"
  return value

def readEndpointRegisterStatus : Prog String Host EndpointRegisterStatus := do
  let clockControl ← readPhysU32 epClkCtrl
  let clockStatus ← readPhysU32 epClkStat
  let endpointStatus ← readPhysU32 epStat
  return { clockControl, clockStatus, endpointStatus }

end DaphneSc.Server.Machine
