import DaphneSc.Bridge.Config
import DaphneSc.Bridge.OpcUaSnapshotWriter
import DaphneSc.Bridge.Poll
import DaphneSc.Slots.Typed
import DaphneSc.Slots.Updates

/-!
# Publishing the boards

The pollers store what their polls end with, and keep the last status of a successful poll beside
the latest one. Independently of them, the boards are published one after the other: from the last
successful status where there is one, as a snapshot when it has one and as the few scalars of the
older requests when it has none. The server keeps for every node what was last written to it.
-/

namespace DaphneSc.Bridge

open Program V8 OpcUaSnapshotWriter

/-! ## The server -/

def UaVariant.valueType : UaVariant → Registry.ValueType
  | .boolean _ => .Boolean
  | .int32 _ => .Integer
  | .int64 _ => .Long
  | .double _ => .Double
  | .string _ => .String
  | .dateTime _ => .DateTime

def UaDataValue.valueType (dataValue : UaDataValue) : Registry.ValueType :=
  dataValue.value.valueType

/-- The nodes of the OPC-UA server. A NodeId is added once, and a write has to have the type of the
node. -/
class UaServer (S : Type) where
  read : S → UaNodeId → Option UaDataValue
  write : UaWrite → S → S
  addVariable : UaNodeId → UaDataValue → S → Option S
  typedStore : Slots.TypedStore read write UaWrite.nodeId UaWrite.dataValue UaDataValue.valueType
  read_addVariable : ∀ {nodeId dataValue s s'}, addVariable nodeId dataValue s = some s' →
    read s nodeId = none ∧ read s' nodeId = some dataValue ∧
      ∀ other, other ≠ nodeId → read s' other = read s other

/-! ## The canonical namespace -/

section Registry

variable {S : Type} [UaServer S]

/-- The value that a node has before anything is known. -/
def initialDataValue (valueType : Registry.ValueType) : UaDataValue where
  value := makeInitialValue valueType
  status := .badWaitingForInitialData
  sourceTimestamp := none

/-- The objects above the node are left out. -/
def addCanonicalRegistryVariable (controlNs : UInt16) (server : S) (node : Registry.ExpandedNode) :
    Except RuntimeError S :=
  let nodeId : UaNodeId := ⟨controlNs, uaString node.nodeId⟩
  let dataValue := initialDataValue node.entry.valueType
  match UaServer.addVariable nodeId { dataValue with status := .good } server with
  | none => .error ("failed to add canonical registry variable ".toList ++ node.nodeId)
  | some server => .ok (UaServer.write ⟨nodeId, dataValue⟩ server)

def Config.registryVariables (config : Config) : List Registry.ExpandedNode :=
  config.registryNodes.filter fun node ↦ node.entry.access = .ReadOnly

def Config.registryNodeTypes (config : Config) : Text → Option Registry.ValueType :=
  Slots.updates Registry.ExpandedNode.nodeId (fun node ↦ some node.entry.valueType)
    config.registryVariables fun _ ↦ none

/-- The registry part of `buildNamespace`. -/
def buildRegistry (controlNs : UInt16) (config : Config) (server : S) : Except RuntimeError S :=
  config.registryVariables.foldlM (addCanonicalRegistryVariable controlNs) server

end Registry

/-! ## The boards -/

structure DaphneRuntime where
  client : DaphneClient.Poller
  status : DaphneStatus := {}
  lastGoodStatus : DaphneStatus := {}
  hasLastGoodStatus : Bool := false
  lastGoodUpdateNs : UInt64 := 0
  pollErrorCount : UInt64 := 0

namespace DaphneRuntime

/-- One turn of `daphnePollWorker`. -/
def polled (payloads : Payloads) (exchange : DaphneClient.Exchange) (board : DaphneRuntime) :
    DaphneRuntime :=
  let (status, client) := DaphneClient.poll payloads exchange board.client
  if status.connected ∧ status.success then
    { board with
      client, status
      lastGoodStatus := status
      hasLastGoodStatus := true
      lastGoodUpdateNs := status.updateTimeNs }
  else { board with client, status, pollErrorCount := board.pollErrorCount + 1 }

def currentGood (board : DaphneRuntime) : Bool := board.status.connected && board.status.success

def measurement (board : DaphneRuntime) : DaphneStatus :=
  if board.hasLastGoodStatus then board.lastGoodStatus else board.status

def measurementStatus (board : DaphneRuntime) : UaStatusCode :=
  if board.currentGood then .good
  else if board.hasLastGoodStatus then .uncertainLastUsableValue
  else .badNotConnected

def measurementTimestamp (board : DaphneRuntime) : Int64 :=
  if board.lastGoodUpdateNs = 0 then 0 else unixNsToUaDateTime board.lastGoodUpdateNs

end DaphneRuntime

/-- The arithmetic on ages: seconds from nanoseconds, and the comparison with milliseconds. -/
structure Ages where
  seconds : UInt64 → V8.Double
  reaches : V8.Double → Int32 → Bool

/-- What stays the same in a run of the bridge. -/
structure Setting where
  config : Config
  payloads : Payloads
  controlNs : UInt16
  ages : Ages

/-- The clocks as one board's turn reads them. -/
structure Moment where
  currentNs : UInt64
  uaNow : Int64

/-- A value for a node below the board, without its board. -/
structure Point where
  suffix : Text
  value : UaVariant
  status : UaStatusCode
  sourceTimestamp : Int64

section Board

variable (setting : Setting) (moment : Moment) (heartbeat : Int32) (board : DaphneRuntime)

def ageSeconds : V8.Double :=
  if board.hasLastGoodStatus ∧ board.lastGoodUpdateNs ≤ moment.currentNs then
    setting.ages.seconds (moment.currentNs - board.lastGoodUpdateNs)
  else ⟨0⟩

def quality : Text :=
  let stale := board.hasLastGoodStatus ∧
    setting.ages.reaches (ageSeconds setting moment board) setting.config.registryStaleAfterMs
  if board.currentGood then "Good".toList
  else if stale then "Stale".toList
  else if board.hasLastGoodStatus then "Uncertain".toList
  else "Bad".toList

def currentTimestamp : Int64 :=
  if board.status.updateTimeNs = 0 then moment.uaNow
  else unixNsToUaDateTime board.status.updateTimeNs

def makeVariant (value : Text) : UaVariant := .string (uaString value)

def statusPoints : List Point :=
  let d := board.status
  let now := currentTimestamp moment board
  let entries : List (String × UaVariant × Int64) :=
    [("Connected", .boolean d.connected, now),
      ("Success", .boolean d.success, now),
      ("Message", makeVariant d.message, now),
      ("LastUpdate", .dateTime now, now),
      ("Quality", makeVariant (quality setting moment board), now)] ++
    (if board.hasLastGoodStatus then
      [("AgeSeconds", .double (ageSeconds setting moment board), board.measurementTimestamp)]
    else []) ++
    [("ErrorCount", .int32 (d.errorCount + if board.currentGood then 0 else 1), now),
      ("ErrorsJson", makeVariant d.errors, now)]
  entries.map fun (name, value, timestamp) ↦
    ⟨"Status.".toList ++ name.toList, value, .good, timestamp⟩

def bridgePoints : List Point :=
  let config := setting.config
  let boards := config.daphneIds.length
  let v8 := board.measurement.telemetryV8
  let entries : List (String × UaVariant) :=
    [("Heartbeat", .int64 heartbeat.toInt64),
      ("Version", makeVariant "0.4.0".toList),
      ("ConfigurationPath", makeVariant config.configPath),
      ("NamespaceVersion", makeVariant config.registryNamespaceVersion),
      ("BoardCount", .int32 (Int32.ofNat boards)),
      ("WorkerCount", .int32 (Int32.ofNat (min config.daphneWorkerCount.toNatClampNeg boards))),
      ("PollErrorCount", .int64 board.pollErrorCount.toInt64),
      ("BackendProtocolVersion", makeVariant (if v8 then
        "ControlEnvelopeV2+daphne.telemetry.v8/2.0".toList else "ControlEnvelopeV2".toList)),
      ("BackendCompatibilityState", makeVariant (if v8 then
        "ProposedV8Telemetry".toList else "LegacyReadbackSubset".toList))]
  entries.map fun (name, value) ↦
    ⟨"Bridge.".toList ++ name.toList, value, .good, currentTimestamp moment board⟩

end Board

/-- What the older requests have a value for. -/
def legacyValues (quality : Text) (measurement : DaphneStatus) : List (Text × UaVariant) :=
  [("AFE.Blocks.0.BiasVoltage".toList, .double measurement.vBias0),
    ("AFE.Blocks.1.BiasVoltage".toList, .double measurement.vBias1),
    ("AFE.Blocks.2.BiasVoltage".toList, .double measurement.vBias2),
    ("AFE.Blocks.3.BiasVoltage".toList, .double measurement.vBias3),
    ("AFE.Blocks.4.BiasVoltage".toList, .double measurement.vBias4),
    ("Power.BoardRails.Minus5VA.Voltage".toList, .double measurement.powerMinus5V),
    ("Power.BoardRails.3V3PDS.Voltage".toList, .double measurement.powerPlus2p5V),
    ("Power.BoardRails.1V8A.Voltage".toList, .double measurement.powerCeV),
    ("Power.BoardRails.Minus5VA.Status".toList, makeVariant quality),
    ("Power.BoardRails.3V3PDS.Status".toList, makeVariant quality),
    ("Power.BoardRails.1V8A.Status".toList, makeVariant quality)]

def legacyPoints (quality : Text) (board : DaphneRuntime) : List Point :=
  (legacyValues quality board.measurement).map fun entry ↦
    ⟨entry.1, entry.2, board.measurementStatus, board.measurementTimestamp⟩

/-- Nodes that the registry does not have are passed over. -/
def writeCanonical (setting : Setting) (boardId : Text) (point : Point) : Option UaWrite :=
  let id := boardPrefix boardId ++ point.suffix
  (setting.config.registryNodeTypes id).map fun _ ↦
    { nodeId := ⟨setting.controlNs, uaString id⟩
      dataValue :=
        { value := point.value
          status := point.status
          sourceTimestamp :=
            if point.sourceTimestamp = 0 then none else some point.sourceTimestamp } }

/-- The writes of one board's turn in `updateNodes`, unless publishing its snapshot throws. -/
def boardWrites (setting : Setting) (moment : Moment) (heartbeat : Int32) (boardId : Text)
    (board : DaphneRuntime) : Option (List UaWrite) :=
  let write := writeCanonical setting boardId
  let points := statusPoints setting moment board ++ bridgePoints setting moment heartbeat board
  if board.measurement.telemetryV8 then
    let writer : OpcUaSnapshotWriter := ⟨setting.controlNs, setting.config.registryNodeTypes⟩
    match publish setting.payloads.schema writer board.measurement.telemetry board.currentGood
      {} with
    | .ok _ s => some (points.filterMap write ++ s.writes)
    | .error _ _ => none
  else some ((points ++ legacyPoints (quality setting moment board) board).filterMap write)

/-! ## Runs -/

structure BridgeState (S : Type) where
  daphnes : Text → DaphneRuntime
  heartbeat : Int32
  server : S

/-- What happens to the canonical nodes: a poller stores a status, or `updateNodes` counts a beat or
comes to a board. A board's turn takes what is stored for the board at once. -/
inductive Event where
  | poll (boardId : Text) (exchange : DaphneClient.Exchange)
  | beat
  | board (boardId : Text) (moment : Moment)

section Run

variable {S : Type} [UaServer S] (setting : Setting)

def step (s : BridgeState S) : Event → Option (BridgeState S)
  | .poll boardId exchange =>
    let board := (s.daphnes boardId).polled setting.payloads exchange
    some { s with daphnes := Function.update s.daphnes boardId board }
  | .beat => some { s with heartbeat := s.heartbeat + 1 }
  | .board boardId moment =>
    (boardWrites setting moment s.heartbeat boardId (s.daphnes boardId)).map fun writes ↦
      { s with server := writes.foldl (fun server write ↦ UaServer.write write server) s.server }

/-- The events one after the other, as long as nothing throws. -/
def run (s : BridgeState S) (events : List Event) : Option (BridgeState S) :=
  events.foldlM (step setting) s

def Event.IsPoll : Event → Bool
  | .poll .. => true
  | _ => false

/-- One call of `updateNodes`, with whatever the pollers store meanwhile. -/
def IsUpdate (events : List Event) : Prop :=
  ∃ moment : Text → Moment, events.filter (fun event ↦ ¬ event.IsPoll) =
    .beat :: setting.config.daphneIds.map fun boardId ↦ .board boardId (moment boardId)

/-- The bridge before its first poll. -/
structure Starts (s : BridgeState S) : Prop where
  daphnes : ∀ boardId, s.daphnes boardId =
    { client := ⟨setting.config.daphneEnabled, setting.config.daphneFake, boardId, 1⟩ }
  heartbeat : s.heartbeat = 0
  built : ∃ empty : S, buildRegistry setting.controlNs setting.config empty = .ok s.server

end Run

end DaphneSc.Bridge
