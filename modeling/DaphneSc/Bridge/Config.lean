import DaphneSc.Bridge.SendRequest
import DaphneSc.Bridge.V8Snapshot
import Mathlib.Data.List.DropRight
import Mathlib.Logic.Function.Basic

/-!
# Configuration

The configuration is a file of assignments, which names two tables: the credentials of the clients
and the control policy. Boards can be written to only with both of them.
-/

namespace DaphneSc.Bridge

open Strings

/-! ## Texts -/

def isBlank (c : Char) : Bool := c = ' ' ∨ c = '\t' ∨ c = '\r' ∨ c = '\n'

def trim (value : Text) : Text := (value.dropWhile isBlank).rdropWhile isBlank

/-- What `std::getline` reads, call after call. Nothing follows a delimiter at the end. -/
def getlines (delim : Char) (input : Text) : List Text :=
  let items := input.splitOn delim
  if items.getLast? = some [] then items.dropLast else items

def parseBool (value : Text) : Bool :=
  value.map Char.toLower ∈ ["1".toList, "true".toList, "yes".toList, "on".toList]

def parseCsv (value : Text) : List Text := ((getlines ',' value).map trim).filter (· ≠ [])

/-- The loop of `parseCsvRecord`. -/
def parseCsvFields : List Text → Text → Bool → Text → Except RuntimeError (List Text)
  | fields, field, quoted, [] =>
    if quoted then .error "unterminated quoted CSV field".toList else .ok (fields ++ [field])
  | fields, field, true, '\x22' :: '\x22' :: rest =>
    parseCsvFields fields (field ++ ['\x22']) true rest
  | fields, field, quoted, '\x22' :: rest => parseCsvFields fields field (!quoted) rest
  | fields, field, false, ',' :: rest => parseCsvFields (fields ++ [field]) [] false rest
  | fields, field, quoted, ch :: rest => parseCsvFields fields (field ++ [ch]) quoted rest

def parseCsvRecord (line : Text) : Except RuntimeError (List Text) :=
  parseCsvFields [] [] false line

/-! ## Roles -/

inductive ClientRole where
  | Anonymous
  | Daq
  | SlowControls
  | Dts
  | Dps
  | Expert
  deriving DecidableEq, Repr

abbrev RoleMask := UInt32

def roleMask : ClientRole → RoleMask
  | .Anonymous => 0
  | .Daq => (1 : UInt32) <<< 0
  | .SlowControls => (1 : UInt32) <<< 1
  | .Dts => (1 : UInt32) <<< 2
  | .Dps => (1 : UInt32) <<< 3
  | .Expert => (1 : UInt32) <<< 4

def parseRole (value : Text) : Except RuntimeError ClientRole :=
  let role := (trim value).map Char.toLower
  if role = "daq".toList then .ok .Daq
  else if role = "sc".toList ∨ role = "slowcontrols".toList ∨ role = "slow_controls".toList then
    .ok .SlowControls
  else if role = "dts".toList then .ok .Dts
  else if role = "dps".toList then .ok .Dps
  else if role = "expert".toList then .ok .Expert
  else .error ("unknown OPC-UA role: ".toList ++ value)

/-! ## The two tables -/

structure Credential where
  (username password : Text)
  role : ClientRole := .Anonymous
  deriving DecidableEq

structure ControlPolicyEntry where
  (operation nodeIdPattern owner : Text)
  allowedRoles : RoleMask := 0
  (implementationStatus backendMapping : Text)
  executable : Bool := false
  deriving DecidableEq

/-- The files with their modes, and the environment. -/
structure Machine where
  read : Text → Option Text
  stat : Text → Option UInt32
  getenv : Text → Option Text

/-- One line of the table of credentials. -/
def addCredential (credentials : List Credential) (numbered : Text × ℕ) :
    Except RuntimeError (List Credential) :=
  let (line, lineNo) := numbered
  if trim line = [] ∨ (trim line).head? = some '#' then .ok credentials
  else do
    match ← parseCsvRecord line with
    | [username, password, role] =>
      let credential : Credential := ⟨trim username, password, ← parseRole role⟩
      if credential.username = [] ∨ credential.password = [] then
        .error ("empty username/password in auth file line ".toList ++ toText lineNo)
      else if credential.username ∈ credentials.map Credential.username then
        .error ("duplicate OPC-UA username: ".toList ++ credential.username)
      else .ok (credentials ++ [credential])
    | _ => .error ("auth file line ".toList ++ toText lineNo ++
        " must contain username,password,role".toList)

def loadCredentials (machine : Machine) (path : Text) : Except RuntimeError (List Credential) :=
  if path = [] then .ok []
  else match machine.stat path with
    | none => .error ("cannot stat OPC-UA auth file: ".toList ++ path)
    | some mode =>
      if mode &&& 0o77 ≠ 0 then
        .error ("OPC-UA auth file must not be accessible by group or other: ".toList ++ path)
      else match machine.read path with
        | none => .error ("cannot open OPC-UA auth file: ".toList ++ path)
        | some input => ((getlines '\n' input).zipIdx 1).foldlM addCredential []

/-- The position of the last column of a name. -/
def column (header : List Text) (name : Text) : Option ℕ :=
  (header.zipIdx.reverse.find? fun entry ↦ trim entry.1 = name).map Prod.snd

def requiredColumns : List Text :=
  ["Operation".toList, "NodeId pattern".toList, "Control owner".toList, "Allowed roles".toList,
    "Implementation status".toList, "Backend mapping".toList, "Executable".toList]

/-- The entry of a row in the column of a name. -/
def policyField (header fields : List Text) (lineNo : ℕ) (name : Text) : Except RuntimeError Text :=
  match (column header name).bind fun index ↦ fields[index]? with
  | none => .error ("short control-policy row ".toList ++ toText lineNo)
  | some field => .ok (trim field)

def readPolicyEntry (header fields : List Text) (lineNo : ℕ) :
    Except RuntimeError ControlPolicyEntry := do
  let field := policyField header fields lineNo
  let operation ← field "Operation".toList
  let nodeIdPattern ← field "NodeId pattern".toList
  let owner ← field "Control owner".toList
  let implementationStatus ← field "Implementation status".toList
  let backendMapping ← field "Backend mapping".toList
  let executable := parseBool (← field "Executable".toList)
  let roles ← (parseCsv (← field "Allowed roles".toList)).mapM parseRole
  let allowedRoles := roles.foldl (fun mask role ↦ mask ||| roleMask role) 0
  return { operation, nodeIdPattern, owner, allowedRoles, implementationStatus, backendMapping,
           executable }

/-- One row of the control policy. -/
def addPolicyEntry (header : List Text) (policy : List ControlPolicyEntry) (numbered : Text × ℕ) :
    Except RuntimeError (List ControlPolicyEntry) :=
  let (line, lineNo) := numbered
  if trim line = [] then .ok policy
  else do
    let entry ← readPolicyEntry header (← parseCsvRecord line) lineNo
    if entry.operation = [] ∨ entry.nodeIdPattern = [] ∨ entry.allowedRoles = 0 then
      .error ("incomplete control-policy row ".toList ++ toText lineNo)
    else if find entry.nodeIdPattern (placeholder boardIdName) 0 = none then
      .error ("control-policy NodeId lacks \x7bBoardId\x7d: ".toList ++ entry.nodeIdPattern)
    else if entry.executable ∧ entry.backendMapping = [] then
      .error ("executable control-policy row lacks backend mapping: ".toList ++ entry.operation)
    else if entry.operation ∈ policy.map ControlPolicyEntry.operation then
      .error ("duplicate control-policy operation: ".toList ++ entry.operation)
    else .ok (policy ++ [entry])

def loadControlPolicy (machine : Machine) (path : Text) :
    Except RuntimeError (List ControlPolicyEntry) :=
  if path = [] then .ok []
  else match machine.read path with
    | none => .error ("cannot open OPC-UA control policy: ".toList ++ path)
    | some input =>
      match getlines '\n' input with
      | [] => .error ("empty OPC-UA control policy: ".toList ++ path)
      | line :: lines => do
        let header ← parseCsvRecord line
        match requiredColumns.find? fun name ↦ column header name = none with
        | some name => .error ("OPC-UA control policy missing column: ".toList ++ name)
        | none => (lines.zipIdx 2).foldlM (addPolicyEntry header) []

/-! ## The configuration -/

/-- `numericRange` -/
def Registry.numericRange (first last : ℕ) : List Text :=
  (List.range' first (last + 1 - first)).map toText

def Registry.defaultExpansionConfig : Registry.ExpansionConfig where
  instances name := match String.ofList name with
    | "BoardId" => some ["015".toList]
    | "Afe" => some (numericRange 0 4)
    | "Channel" => some (numericRange 0 39)
    | "Fan" => some (numericRange 0 1)
    | "Interface" => some ["eth0".toList]
    | "DataLink" => some (numericRange 0 3)
    | "Sfp" => some (["timing", "ccm", "data0", "data1", "data2", "data3"].map String.toList)
    | "Bus" => some (["1", "2"].map String.toList)
    | "Address" => some (["0x10", "0x17", "0x12", "0x16", "0x32", "0x36", "0x70", "0x71", "0x72",
        "0x40", "0x41", "0x42", "0x18", "0x50"].map String.toList)
    | "Device" => some ["spidev3.0".toList]
    | "Rail" => some (["3VD3", "2VA1", "3VA6", "1VD8"].map String.toList)
    | "Sensor" => some (["soc", "carrier"].map String.toList)
    | "Service" => some (["firmware.service", "clockchip.service", "endpoint.service",
        "hermes.service", "daphne.service", "daphne-boot-ok.service", "rpu"].map String.toList)
    | _ => none
  i2cDevices := [("1", "0x10"), ("1", "0x17"), ("2", "0x12"), ("2", "0x16"), ("2", "0x32"),
    ("2", "0x36"), ("2", "0x70"), ("2", "0x71"), ("2", "0x72")].map
    fun device ↦ (device.1.toList, device.2.toList)

structure Config where
  configPath : Text
  opcuaEndpoint : Text := "opc.tcp://0.0.0.0:4840".toList
  pollPeriodMs : Int32 := 1000
  opcuaAllowAnonymousRead : Bool := true
  opcuaAuthFile : Text := []
  controlPolicyPath : Text := []
  credentials : List Credential := []
  controlPolicy : List ControlPolicyEntry := []
  registryTagListPath : Text := []
  registryNamespaceVersion : Text := "v8-draft-2026-08-17".toList
  registryStaleAfterMs : Int32 := 5000
  registryExpectedPatterns : ℕ := 0
  registryExpansion : Registry.ExpansionConfig := Registry.defaultExpansionConfig
  registryEntries : List Registry.Entry := []
  registryNodes : List Registry.ExpandedNode := []
  daphneEnabled : Bool := true
  daphneFake : Bool := true
  daphneWritesEnabled : Bool := false
  daphneEndpoint : Text := "tcp://NP04-DAPHNE-015.CERN.CH:40001".toList
  daphneRoute : Text := "mezz/0".toList
  daphneTimeoutMs : Int32 := 750
  daphneWorkerCount : Int32 := 16
  daphneIds : List Text := []
  daphneEndpoints : Text → Option Text := fun _ ↦ none
  daphneRoutes : Text → Option Text := fun _ ↦ none
  powerEnabled : Bool := true
  powerFake : Bool := true
  powerDevice : Text := "auto".toList
  powerTimeoutMs : Int32 := 750
  powerSerialBaud : Int32 := 9600
  powerWritesEnabled : Bool := false
  powerVoltageMin : V8.Double := ⟨0⟩
  powerVoltageMax : V8.Double := ⟨0⟩
  powerCurrentMin : V8.Double := ⟨0⟩
  powerCurrentMax : V8.Double := ⟨0⟩

/-- The readers of numbers, lists and tag lists. What they return is not looked into below. -/
structure Readers where
  stoi : Text → Except RuntimeError Int32
  stoull : Text → Except RuntimeError ℕ
  stod : Text → Except RuntimeError V8.Double
  parseInstanceList : Text → Except RuntimeError (List Text)
  parseI2cDevices : Text → Except RuntimeError (List (Text × Text))
  loadTagList : Text → Except RuntimeError (List Registry.Entry)

/-- The configuration when the key is one of a board. -/
def parseDaphneTargetValue (config : Config) (key value : Text) : Option Config :=
  let stem := "daphne.".toList
  let suffix := key.drop stem.length
  let id := (suffix.rdropWhile (· ≠ '.')).dropLast
  let property := suffix.rtakeWhile (· ≠ '.')
  if ¬ stem.isPrefixOf key ∨ '.' ∉ suffix ∨ id = [] then none
  else if property = "endpoint".toList then
    some { config with daphneEndpoints := Function.update config.daphneEndpoints id (some value) }
  else if property = "route".toList then
    some { config with daphneRoutes := Function.update config.daphneRoutes id (some value) }
  else none

/-- The configuration when the key is one of a placeholder. -/
def parseRegistryInstanceValue (readers : Readers) (config : Config) (key value : Text) :
    Except RuntimeError (Option Config) :=
  let stem := "registry.instances.".toList
  let placeholder := key.drop stem.length
  if ¬ stem.isPrefixOf key then .ok none
  else if placeholder = [] then .error "empty registry instance placeholder".toList
  else do
    let values ← readers.parseInstanceList value
    let expansion := config.registryExpansion
    let instances := Function.update expansion.instances placeholder (some values)
    return some { config with registryExpansion := { expansion with instances } }

def applyConfigValue (readers : Readers) (config : Config) (key value : Text) :
    Except RuntimeError Config :=
  match String.ofList key with
  | "opcua.endpoint" => .ok { config with opcuaEndpoint := value }
  | "opcua.allow_anonymous_read" => .ok { config with opcuaAllowAnonymousRead := parseBool value }
  | "opcua.auth_file" => .ok { config with opcuaAuthFile := value }
  | "control.policy_file" => .ok { config with controlPolicyPath := value }
  | "registry.tag_list_file" => .ok { config with registryTagListPath := value }
  | "registry.namespace_version" => .ok { config with registryNamespaceVersion := value }
  | "registry.stale_after_ms" => do
    return { config with registryStaleAfterMs := ← readers.stoi value }
  | "registry.expected_patterns" => do
    return { config with registryExpectedPatterns := ← readers.stoull value }
  | "registry.maximum_nodes" => do
    let maximumNodes ← readers.stoull value
    return { config with registryExpansion := { config.registryExpansion with maximumNodes } }
  | "registry.i2c_devices" => do
    let i2cDevices ← readers.parseI2cDevices value
    return { config with registryExpansion := { config.registryExpansion with i2cDevices } }
  | "poll.period_ms" => do return { config with pollPeriodMs := ← readers.stoi value }
  | "daphne.enabled" => .ok { config with daphneEnabled := parseBool value }
  | "daphne.fake" => .ok { config with daphneFake := parseBool value }
  | "daphne.writes_enabled" => .ok { config with daphneWritesEnabled := parseBool value }
  | "daphne.ids" => .ok { config with daphneIds := parseCsv value }
  | "daphne.endpoint" => .ok { config with daphneEndpoint := value }
  | "daphne.route" => .ok { config with daphneRoute := value }
  | "daphne.timeout_ms" => do return { config with daphneTimeoutMs := ← readers.stoi value }
  | "daphne.worker_count" => do return { config with daphneWorkerCount := ← readers.stoi value }
  | "power.enabled" => .ok { config with powerEnabled := parseBool value }
  | "power.fake" => .ok { config with powerFake := parseBool value }
  | "power.device" => .ok { config with powerDevice := value }
  | "power.timeout_ms" => do return { config with powerTimeoutMs := ← readers.stoi value }
  | "power.serial_baud" => do return { config with powerSerialBaud := ← readers.stoi value }
  | "power.writes_enabled" => .ok { config with powerWritesEnabled := parseBool value }
  | "power.voltage_min_v" => do return { config with powerVoltageMin := ← readers.stod value }
  | "power.voltage_max_v" => do return { config with powerVoltageMax := ← readers.stod value }
  | "power.current_min_a" => do return { config with powerCurrentMin := ← readers.stod value }
  | "power.current_max_a" => do return { config with powerCurrentMax := ← readers.stod value }
  | _ =>
    match parseDaphneTargetValue config key value with
    | some config' => .ok config'
    | none => do return (← parseRegistryInstanceValue readers config key value).getD config

/-- One line of the configuration, without its comment. -/
def applyConfigLine (readers : Readers) (config : Config) (numbered : Text × ℕ) :
    Except RuntimeError Config :=
  let line := trim (numbered.1.takeWhile (· ≠ '#'))
  if line = [] then .ok config
  else if '=' ∉ line then
    .error ("bad config line ".toList ++ toText numbered.2 ++ ": ".toList ++ line)
  else
    let key := line.takeWhile (· ≠ '=')
    applyConfigValue readers config (trim key) (trim (line.drop (key.length + 1)))

/-- The assignments of the configuration file, or one board without a file. -/
def readConfig (machine : Machine) (readers : Readers) (path : Text) : Except RuntimeError Config :=
  let config : Config := { configPath := path }
  if path = [] then
    .ok { config with
      daphneIds := ["015".toList]
      daphneEndpoints := Function.update config.daphneEndpoints "015".toList
        (some config.daphneEndpoint)
      daphneRoutes := Function.update config.daphneRoutes "015".toList (some config.daphneRoute) }
  else match machine.read path with
    | none => .error ("cannot open config: ".toList ++ path)
    | some input => ((getlines '\n' input).zipIdx 1).foldlM (applyConfigLine readers) config

def checkLimits (config : Config) : Except RuntimeError PUnit :=
  if config.pollPeriodMs < 100 then .error "poll.period_ms must be at least 100".toList
  else if config.daphneTimeoutMs < 1 ∨ config.powerTimeoutMs < 1 then
    .error "timeouts must be positive".toList
  else if config.daphneWorkerCount < 1 ∨ 256 < config.daphneWorkerCount then
    .error "daphne.worker_count must be between 1 and 256".toList
  else if config.registryStaleAfterMs < config.pollPeriodMs then
    .error "registry.stale_after_ms must be at least poll.period_ms".toList
  else if config.registryExpansion.maximumNodes < 1 then
    .error "registry.maximum_nodes must be positive".toList
  else .ok ⟨⟩

/-- The loop over the boards, which fills in endpoints and routes. -/
def checkIds (seenIds : List Text) : List Text → Config → Except RuntimeError Config
  | [], config => .ok config
  | id :: ids, config =>
    if id = [] ∨ '.' ∈ id ∨ '/' ∈ id then .error ("invalid DAPHNE id: ".toList ++ id)
    else if id ∈ seenIds then .error ("duplicate DAPHNE id: ".toList ++ id)
    else
      let endpoint := (config.daphneEndpoints id).getD config.daphneEndpoint
      let route := (config.daphneRoutes id).getD config.daphneRoute
      checkIds (id :: seenIds) ids { config with
        daphneEndpoints := Function.update config.daphneEndpoints id (some endpoint)
        daphneRoutes := Function.update config.daphneRoutes id (some route) }

def applyEnvironment (machine : Machine) (config : Config) : Config :=
  { config with
    opcuaEndpoint := (machine.getenv "PDS_OPCUA_ENDPOINT".toList).getD config.opcuaEndpoint
    registryTagListPath :=
      (machine.getenv "PDS_OPCUA_REGISTRY".toList).getD config.registryTagListPath
    controlPolicyPath :=
      (machine.getenv "PDS_OPCUA_CONTROL_POLICY".toList).getD config.controlPolicyPath }

def loadRegistry (readers : Readers) (config : Config) : Except RuntimeError Config :=
  let boardIds := some config.daphneIds
  let expansion := { config.registryExpansion with
    instances := Function.update config.registryExpansion.instances boardIdName boardIds }
  let config := { config with registryExpansion := expansion }
  if config.registryTagListPath = [] then .ok config
  else do
    let registryEntries ← readers.loadTagList config.registryTagListPath
    let registryNodes ← Registry.expand registryEntries config.registryExpansion
    if config.registryExpectedPatterns ≠ 0 ∧
        registryEntries.length ≠ config.registryExpectedPatterns then
      .error ("registry pattern count mismatch: expected ".toList ++
        toText config.registryExpectedPatterns ++ ", got ".toList ++
        toText registryEntries.length)
    else return { config with registryEntries, registryNodes }

def checkWrites (config : Config) : Except RuntimeError PUnit :=
  if config.daphneWritesEnabled ∧ config.credentials = [] then
    .error "daphne.writes_enabled requires opcua.auth_file".toList
  else if config.daphneWritesEnabled ∧ config.controlPolicy = [] then
    .error "daphne.writes_enabled requires control.policy_file".toList
  else .ok ⟨⟩

def loadConfig (machine : Machine) (readers : Readers) (path : Text) :
    Except RuntimeError Config := do
  let config ← readConfig machine readers path
  checkLimits config
  let daphneIds := if config.daphneIds = [] then ["015".toList] else config.daphneIds
  let config ← checkIds [] daphneIds { config with daphneIds }
  let config := applyEnvironment machine config
  let credentials ← loadCredentials machine config.opcuaAuthFile
  let controlPolicy ← loadControlPolicy machine config.controlPolicyPath
  let config ← loadRegistry readers { config with credentials, controlPolicy }
  checkWrites config
  return config

/-- The configuration of `main`, with its option `--fake`. -/
def mainConfig (machine : Machine) (readers : Readers) (path : Text) (forceFake : Bool) :
    Except RuntimeError Config := do
  let config ← loadConfig machine readers path
  return if forceFake then { config with daphneFake := true, powerFake := true } else config

/-! ## What is accepted -/

/-- What a configuration that has been loaded can be relied on for. -/
structure Config.Checked (config : Config) : Prop where
  nodup : config.daphneIds.Nodup
  plain : ∀ id ∈ config.daphneIds, id ≠ [] ∧ '.' ∉ id ∧ '/' ∉ id
  writes : config.daphneWritesEnabled → config.credentials ≠ [] ∧ config.controlPolicy ≠ []

variable {machine : Machine} {readers : Readers} {config config' : Config} {path : Text}

theorem checkIds_ok {seenIds ids : List Text} (h : checkIds seenIds ids config = .ok config') :
    ids.Nodup ∧ (∀ id ∈ ids, id ∉ seenIds) ∧
      (∀ id ∈ ids, id ≠ [] ∧ '.' ∉ id ∧ '/' ∉ id) ∧ config'.daphneIds = config.daphneIds := by
  induction ids generalizing seenIds config with
  | nil =>
    cases h
    exact ⟨List.nodup_nil, fun _ h ↦ absurd h List.not_mem_nil,
      fun _ h ↦ absurd h List.not_mem_nil, rfl⟩
  | cons id ids ih =>
    rw [checkIds] at h
    split at h
    · cases h
    · next hplain =>
      split at h
      · cases h
      · next hnew =>
        obtain ⟨hnodup, hseen, hids, heq⟩ := ih h
        rw [not_or, not_or] at hplain
        refine ⟨List.nodup_cons.2 ⟨fun hmem ↦ hseen id hmem List.mem_cons_self, hnodup⟩, ?_, ?_,
          heq⟩
        · rw [List.forall_mem_cons]
          exact ⟨hnew, fun other hmem hother ↦ hseen other hmem (List.mem_cons_of_mem _ hother)⟩
        · exact List.forall_mem_cons.2 ⟨hplain, hids⟩

theorem loadRegistry_ok (h : loadRegistry readers config = .ok config') :
    config'.daphneIds = config.daphneIds := by
  rw [loadRegistry] at h
  split at h
  · cases h
    rfl
  · obtain ⟨entries, -, h⟩ := Program.Results.bind_ok_iff.1 h
    obtain ⟨nodes, -, h⟩ := Program.Results.bind_ok_iff.1 h
    split at h
    · cases h
    · cases h
      rfl

theorem checkWrites_ok {u : PUnit} (h : checkWrites config = .ok u) :
    config.daphneWritesEnabled → config.credentials ≠ [] ∧ config.controlPolicy ≠ [] := by
  intro hwrites
  rw [checkWrites] at h
  split at h
  · cases h
  · next hcredentials =>
    split at h
    · cases h
    · next hpolicy =>
      exact ⟨fun heq ↦ hcredentials ⟨hwrites, heq⟩, fun heq ↦ hpolicy ⟨hwrites, heq⟩⟩

theorem loadConfig_ok (h : loadConfig machine readers path = .ok config) : config.Checked := by
  obtain ⟨_, -, h⟩ := Program.Results.bind_ok_iff.1 h
  obtain ⟨_, -, h⟩ := Program.Results.bind_ok_iff.1 h
  obtain ⟨_, hids, h⟩ := Program.Results.bind_ok_iff.1 h
  obtain ⟨_, -, h⟩ := Program.Results.bind_ok_iff.1 h
  obtain ⟨_, -, h⟩ := Program.Results.bind_ok_iff.1 h
  obtain ⟨_, hregistry, h⟩ := Program.Results.bind_ok_iff.1 h
  obtain ⟨_, hwrites, h⟩ := Program.Results.bind_ok_iff.1 h
  cases h
  obtain ⟨hnodup, -, hplain, heq⟩ := checkIds_ok hids
  have hsame := (loadRegistry_ok hregistry).trans heq
  exact ⟨hsame ▸ hnodup, hsame ▸ hplain, checkWrites_ok hwrites⟩

theorem mainConfig_ok {forceFake : Bool}
    (h : mainConfig machine readers path forceFake = .ok config) : config.Checked := by
  obtain ⟨loaded, hloaded, h⟩ := Program.Results.bind_ok_iff.1 h
  obtain ⟨hnodup, hplain, hwrites⟩ := loadConfig_ok hloaded
  cases h
  cases forceFake
  · exact ⟨hnodup, hplain, hwrites⟩
  · exact ⟨hnodup, hplain, hwrites⟩

end DaphneSc.Bridge
