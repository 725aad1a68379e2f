import DaphneSc.Bridge.V8Snapshot
import DaphneSc.Program.Visits
import Mathlib.Data.List.TakeWhile

/-!
# Publishing a snapshot

The writer walks a snapshot once more and writes one data value for every sample whose NodeId the
server has. A sample whose value does not have the type of its node is published with a placeholder
and a bad status, and counted as rejected.
-/

namespace DaphneSc.Bridge

open Program Strings V8

/-! ## OPC-UA values -/

inductive UaVariant where
  | boolean (value : Bool)
  | int32 (value : Int32)
  | int64 (value : Int64)
  | double (value : V8.Double)
  | string (value : Text)
  | dateTime (value : Int64)
  deriving DecidableEq

inductive UaStatusCode where
  | good
  | uncertainLastUsableValue
  | badInvalidState
  | badWaitingForInitialData
  | badNotSupported
  | badTypeMismatch
  | badNotConnected
  deriving DecidableEq, Repr

/-- `UA_STRING`: the text up to its first NUL. -/
def uaString (text : Text) : Text := text.takeWhile (· ≠ '\x00')

structure UaNodeId where
  namespaceIndex : UInt16
  identifier : Text
  deriving DecidableEq

structure UaDataValue where
  value : UaVariant
  status : UaStatusCode
  sourceTimestamp : Option Int64
  deriving DecidableEq

structure UaWrite where
  nodeId : UaNodeId
  dataValue : UaDataValue
  deriving DecidableEq

theorem uaString_of_nulFree {text : Text} (h : NulFree text) : uaString text = text := by
  apply List.takeWhile_eq_self_iff.2
  intro c hc
  simpa using fun heq : c = '\x00' ↦ h (heq ▸ hc)

namespace OpcUaSnapshotWriter

abbrev kUnixEpochInUaTicks : Int64 := 116444736000000000

def unixNsToUaDateTime (unixNs : UInt64) : Int64 := (unixNs / 100).toInt64 + kUnixEpochInUaTicks

def makeInitialValue : Registry.ValueType → UaVariant
  | .Boolean => .boolean false
  | .Integer => .int32 0
  | .Long => .int64 0
  | .Double => .double ⟨0⟩
  | .String => .string (uaString "Unavailable".toList)
  | .DateTime => .dateTime 0

def qualityToStatus : TelemetryQuality → UaStatusCode
  | .good => .good
  | .stale => .uncertainLastUsableValue
  | .invalid => .badInvalidState
  | .unavailable => .badWaitingForInitialData
  | .notApplicable => .badNotSupported
  | .unspecified | .unrecognized _ => .badInvalidState

/-- The variant, and whether the types match. -/
def sampleToVariant (view : WireSampleView) (expectedType : Registry.ValueType) :
    UaVariant × Bool :=
  if view.hasValue then
    match expectedType, view.sample with
    | .Boolean, .boolean _ (some value) => (.boolean value, true)
    | .Integer, .integer _ (some value) => (.int32 value, true)
    | .Long, .long _ (some value) => (.int64 value, true)
    | .Double, .double _ (some value) => (.double value, true)
    | .String, .string _ (some value) => (.string (uaString value), true)
    | .DateTime, .dateTime _ (some unixNs) =>
      if unixNs < 0 then (makeInitialValue .DateTime, false)
      else (.dateTime (unixNsToUaDateTime unixNs.toUInt64), true)
    | expectedType, _ => (makeInitialValue expectedType, false)
  else (makeInitialValue expectedType, true)

/-- What `publish` has reached. -/
structure Publication where
  seenNodeIds : List Text := []
  rejectedPoints : ℕ := 0
  writes : List UaWrite := []

abbrev Publish := Prog RuntimeError Publication PUnit

/-- `++rejected_points` -/
def reject : Publish := modify fun s ↦ { s with rejectedPoints := s.rejectedPoints + 1 }

def writeDataValue (namespaceIndex : UInt16) (nodeId : Text) (value : UaVariant)
    (status : UaStatusCode) (sourceTimestamp : Int64) : Publish :=
  let dataValue : UaDataValue :=
    { value, status, sourceTimestamp := if sourceTimestamp = 0 then none else some sourceTimestamp }
  modify fun s ↦
    { s with writes := s.writes ++ [{ nodeId := ⟨namespaceIndex, uaString nodeId⟩, dataValue }] }

end OpcUaSnapshotWriter

open OpcUaSnapshotWriter

structure OpcUaSnapshotWriter where
  namespaceIndex : UInt16
  nodeTypes : Text → Option Registry.ValueType

namespace OpcUaSnapshotWriter

/-- The visitor of `publish`. -/
def publishView (writer : OpcUaSnapshotWriter) (snapshotTimeUnixNs : UInt64)
    (transportIsCurrent : Bool) (view : WireSampleView) : Publish := do
  let s ← get
  if view.nodeId ∈ s.seenNodeIds then reject
  else
    set { s with seenNodeIds := view.nodeId :: s.seenNodeIds }
    match writer.nodeTypes view.nodeId with
    | none => reject
    | some expectedType =>
      let (value, typeMatches) := sampleToVariant view expectedType
      let status := qualityToStatus view.metadata.quality
      let goodValueIsMissing : Prop := view.metadata.quality = .good ∧ ¬ view.hasValue
      let status ←
        if ¬ typeMatches ∨ goodValueIsMissing then do
          reject
          pure .badTypeMismatch
        else if ¬ transportIsCurrent ∧ status = .good then pure .uncertainLastUsableValue
        else pure status
      let sourceTimeNs :=
        if view.metadata.sampleTimeUnixNs ≠ 0 then view.metadata.sampleTimeUnixNs
        else snapshotTimeUnixNs
      let sourceTimestamp := if sourceTimeNs = 0 then 0 else unixNsToUaDateTime sourceTimeNs
      writeDataValue writer.namespaceIndex view.nodeId value status sourceTimestamp

/-- A message without telemetry reads as one with no field set. -/
def telemetryOf (snapshot : ReadTelemetrySnapshotResponse) : BoardTelemetry :=
  snapshot.telemetry.getD ⟨fun _ ↦ none, fun _ ↦ []⟩

def publish (schema : Schema) (writer : OpcUaSnapshotWriter)
    (snapshot : ReadTelemetrySnapshotResponse) (transportIsCurrent : Bool) :
    Prog RuntimeError Publication ℕ := do
  visitWireSamples schema (telemetryOf snapshot) snapshot.boardId
    (publishView writer snapshot.snapshotTimeUnixNs transportIsCurrent)
  let s ← get
  return s.rejectedPoints

/-! ## What is published of one sample -/

section View

variable (writer : OpcUaSnapshotWriter) (time : UInt64) (current : Bool) (view : WireSampleView)
  (expected : Registry.ValueType)

/-- The value of a sample is no good for its node. -/
def Mismatch : Prop :=
  (sampleToVariant view expected).2 = false ∨ view.metadata.quality = .good ∧ ¬ view.hasValue

instance : Decidable (Mismatch view expected) := inferInstanceAs (Decidable (_ ∨ _))

/-- The status that is written for a sample. -/
def viewStatus : UaStatusCode :=
  if Mismatch view expected then .badTypeMismatch
  else if ¬ current ∧ qualityToStatus view.metadata.quality = .good then .uncertainLastUsableValue
  else qualityToStatus view.metadata.quality

def viewTimestamp : Option Int64 :=
  let sourceTimeNs :=
    if view.metadata.sampleTimeUnixNs ≠ 0 then view.metadata.sampleTimeUnixNs else time
  let sourceTimestamp := if sourceTimeNs = 0 then 0 else unixNsToUaDateTime sourceTimeNs
  if sourceTimestamp = 0 then none else some sourceTimestamp

def viewWrite : UaWrite where
  nodeId := ⟨writer.namespaceIndex, uaString view.nodeId⟩
  dataValue :=
    { value := (sampleToVariant view expected).1
      status := viewStatus current view expected
      sourceTimestamp := viewTimestamp time view }

/-- The sample is unknown to the table or no good for its node. -/
def IsRejected : Prop := ∀ expected ∈ writer.nodeTypes view.nodeId, Mismatch view expected

instance : Decidable (IsRejected writer view) := inferInstanceAs (Decidable (∀ _ ∈ _, _))

/-- A NodeId that has not been seen is published in one step. -/
theorem publishView_run {s : Publication} (hnew : view.nodeId ∉ s.seenNodeIds) :
    publishView writer time current view s = .ok ⟨⟩
      { seenNodeIds := view.nodeId :: s.seenNodeIds
        rejectedPoints := s.rejectedPoints + if IsRejected writer view then 1 else 0
        writes := s.writes ++
          ((writer.nodeTypes view.nodeId).map (viewWrite writer time current view)).toList } := by
  cases htype : writer.nodeTypes view.nodeId with
  | none =>
    have hrejected : IsRejected writer view := by simp [IsRejected, htype]
    rw [if_pos hrejected, publishView, run_get_bind, if_neg hnew, run_bind]
    simp only [htype]
    change EStateM.Result.ok _ _ = _
    simp
  | some expected =>
    have hrejected : IsRejected writer view ↔ Mismatch view expected := by
      simp [IsRejected, htype]
    rw [publishView, run_get_bind, if_neg hnew, run_bind]
    simp only [htype]
    by_cases hmismatch : Mismatch view expected
    · have hcond : ¬ (sampleToVariant view expected).2 = true ∨
          view.metadata.quality = .good ∧ ¬ view.hasValue = true := by
        simpa [Mismatch] using hmismatch
      have hstatus : viewStatus current view expected = .badTypeMismatch := if_pos hmismatch
      rw [if_pos hcond, if_pos (hrejected.2 hmismatch), Option.map_some, viewWrite, hstatus]
      rfl
    · have hcond : ¬ (¬ (sampleToVariant view expected).2 = true ∨
          view.metadata.quality = .good ∧ ¬ view.hasValue = true) := by
        simpa [Mismatch] using hmismatch
      rw [if_neg hcond, if_neg fun h ↦ hmismatch (hrejected.1 h), Option.map_some, viewWrite,
        viewStatus, if_neg hmismatch]
      by_cases hstale : ¬ current ∧ qualityToStatus view.metadata.quality = .good
      · rw [if_pos hstale, if_pos hstale]
        rfl
      · rw [if_neg hstale, if_neg hstale]
        rfl

/-- Samples with distinct new NodeIds are published one after the other. -/
theorem forM_publishView_run {views : List WireSampleView} {s : Publication}
    (hnodup : (views.map WireSampleView.nodeId).Nodup)
    (hnew : ∀ view ∈ views, view.nodeId ∉ s.seenNodeIds) :
    views.forM (publishView writer time current) s = .ok ⟨⟩
      { seenNodeIds := (views.map WireSampleView.nodeId).reverse ++ s.seenNodeIds
        rejectedPoints := s.rejectedPoints + views.countP fun view ↦ IsRejected writer view
        writes := s.writes ++ views.filterMap fun view ↦
          (writer.nodeTypes view.nodeId).map (viewWrite writer time current view) } := by
  induction views generalizing s with
  | nil =>
    simp only [List.map_nil, List.reverse_nil, List.nil_append, List.countP_nil,
      List.filterMap_nil, List.append_nil]
    rfl
  | cons view views ih =>
    rw [List.map_cons, List.nodup_cons] at hnodup
    obtain ⟨hview, hviews⟩ := List.forall_mem_cons.1 hnew
    change (publishView writer time current view >>= fun _ ↦
      views.forM (publishView writer time current)) s = _
    rw [run_bind, publishView_run writer time current view hview]
    simp only
    rw [ih hnodup.2]
    · cases htype : writer.nodeTypes view.nodeId with
      | none =>
        simp [htype, List.countP_cons]
        omega
      | some expected =>
        simp [htype, List.countP_cons]
        omega
    · intro other hother hmem
      rcases List.mem_cons.1 hmem with heq | hseen
      · exact hnodup.1 (heq ▸ List.mem_map_of_mem hother)
      · exact hviews other hother hseen

end View

end OpcUaSnapshotWriter

end DaphneSc.Bridge
