import DaphneSc.Bridge.SnapshotPublished
import DaphneSc.Bridge.UpdateNodes

/-!
# Which nodes are good

A turn writes the nodes that the published status has values for and leaves the others alone. A node
that is good and not among them stays good, whatever the latest poll has ended with. So the good
nodes hold values of the latest poll exactly when all nodes that were good before are written.
-/

namespace DaphneSc.Bridge

open Program V8 OpcUaSnapshotWriter

/-! ## The nodes of the registry -/

section Registry

variable {S : Type} [UaServer S] {controlNs : UInt16} {config : Config} {server server' : S}
  {node : Registry.ExpandedNode} {nodes : List Registry.ExpandedNode}

/-- The node of the server for a NodeId of the registry. -/
abbrev canonicalId (controlNs : UInt16) (nodeId : Text) : UaNodeId := ⟨controlNs, uaString nodeId⟩

theorem addCanonicalRegistryVariable_ok
    (h : addCanonicalRegistryVariable controlNs server node = .ok server') :
    UaServer.read server (canonicalId controlNs node.nodeId) = none ∧
      UaServer.read server' (canonicalId controlNs node.nodeId) =
        some (initialDataValue node.entry.valueType) ∧
      ∀ other, other ≠ canonicalId controlNs node.nodeId →
        UaServer.read server' other = UaServer.read server other := by
  unfold addCanonicalRegistryVariable at h
  simp only at h
  split at h
  · cases h
  · next added hadd =>
    obtain ⟨hnone, hself, hother⟩ := UaServer.read_addVariable hadd
    cases h
    refine ⟨hnone, UaServer.typedStore.taken hself rfl, fun other hne ↦ ?_⟩
    exact (UaServer.typedStore.other hne).trans (hother other hne)

/-- The nodes that are added one after the other are different and have their first values. -/
theorem addCanonicalRegistryVariables_ok
    (h : nodes.foldlM (addCanonicalRegistryVariable controlNs) server = .ok server') :
    (nodes.map fun node ↦ canonicalId controlNs node.nodeId).Nodup ∧
      (∀ node ∈ nodes, UaServer.read server (canonicalId controlNs node.nodeId) = none ∧
        UaServer.read server' (canonicalId controlNs node.nodeId) =
          some (initialDataValue node.entry.valueType)) ∧
      ∀ other, (∀ node ∈ nodes, other ≠ canonicalId controlNs node.nodeId) →
        UaServer.read server' other = UaServer.read server other := by
  induction nodes generalizing server with
  | nil =>
    cases h
    exact ⟨List.nodup_nil, fun _ h ↦ absurd h List.not_mem_nil, fun _ _ ↦ rfl⟩
  | cons node nodes ih =>
    obtain ⟨added, hadd, hrest⟩ := Results.bind_ok_iff.1 h
    obtain ⟨hnone, hself, hother⟩ := addCanonicalRegistryVariable_ok hadd
    obtain ⟨hnodup, hnodes, hothers⟩ := ih hrest
    have hnew : ∀ other ∈ nodes, canonicalId controlNs other.nodeId ≠
        canonicalId controlNs node.nodeId := by
      intro other hmem heq
      have hread := (hnodes other hmem).1
      rw [heq, hself] at hread
      cases hread
    refine ⟨List.nodup_cons.2 ⟨fun hmem ↦ ?_, hnodup⟩, List.forall_mem_cons.2 ⟨⟨hnone, ?_⟩, ?_⟩, ?_⟩
    · obtain ⟨other, hother, heq⟩ := List.mem_map.1 hmem
      exact hnew other hother heq
    · rw [hothers _ fun other hmem ↦ (hnew other hmem).symm, hself]
    · intro other hmem
      obtain ⟨hread, hread'⟩ := hnodes other hmem
      exact ⟨(hother _ (hnew other hmem)).symm.trans hread, hread'⟩
    · intro other hne
      obtain ⟨hnode, hrest⟩ := List.forall_mem_cons.1 hne
      exact (hothers other hrest).trans (hother other hnode)

theorem registryNodeTypes_eq_some {nodeId : Text} {valueType : Registry.ValueType}
    (h : config.registryNodeTypes nodeId = some valueType)
    (hnodup : (config.registryVariables.map Registry.ExpandedNode.nodeId).Nodup) :
    ∃ node ∈ config.registryVariables, node.nodeId = nodeId ∧ node.entry.valueType = valueType := by
  by_cases hmem : nodeId ∈ config.registryVariables.map Registry.ExpandedNode.nodeId
  · obtain ⟨node, hnode, rfl⟩ := List.mem_map.1 hmem
    rw [Config.registryNodeTypes, Slots.updates_of_mem hnodup hnode] at h
    exact ⟨node, hnode, rfl, Option.some.inj h⟩
  · rw [Config.registryNodeTypes, Slots.updates_of_notMem hmem] at h
    cases h

/-- The server tells the nodes of the registry apart. -/
def Separate (config : Config) : Prop :=
  ∀ nodeId nodeId', (config.registryNodeTypes nodeId).isSome →
    (config.registryNodeTypes nodeId').isSome → uaString nodeId = uaString nodeId' →
      nodeId = nodeId'

theorem buildRegistry_ok (h : buildRegistry controlNs config server = .ok server') :
    Separate config ∧ ∀ nodeId valueType, config.registryNodeTypes nodeId = some valueType →
      UaServer.read server' (canonicalId controlNs nodeId) = some (initialDataValue valueType) := by
  obtain ⟨hnodup, hnodes, -⟩ := addCanonicalRegistryVariables_ok h
  have hids : (config.registryVariables.map Registry.ExpandedNode.nodeId).Nodup := by
    apply List.Nodup.of_map (canonicalId controlNs)
    rwa [List.map_map]
  constructor
  · intro nodeId nodeId' hsome hsome' heq
    obtain ⟨_, htype⟩ := Option.isSome_iff_exists.1 hsome
    obtain ⟨_, htype'⟩ := Option.isSome_iff_exists.1 hsome'
    obtain ⟨node, hnode, rfl, -⟩ := registryNodeTypes_eq_some htype hids
    obtain ⟨node', hnode', rfl, -⟩ := registryNodeTypes_eq_some htype' hids
    exact congrArg _ (List.inj_on_of_nodup_map hnodup hnode hnode' (congrArg (UaNodeId.mk _) heq))
  · intro nodeId valueType htype
    obtain ⟨node, hnode, rfl, rfl⟩ := registryNodeTypes_eq_some htype hids
    exact (hnodes node hnode).2

end Registry

/-! ## Measurements -/

/-- A node of the registry below a board that is neither about its status nor about the bridge. -/
structure IsMeasurement (setting : Setting) (boardId nodeId : Text)
    (valueType : Registry.ValueType) : Prop where
  registered : setting.config.registryNodeTypes nodeId = some valueType
  below : ∃ suffix, nodeId = boardPrefix boardId ++ suffix ∧ ¬ "Status.".toList <+: suffix ∧
    ¬ "Bridge.".toList <+: suffix

/-- A sample of the snapshot of a status. -/
def IsSample (setting : Setting) (boardId : Text) (status : DaphneStatus) (view : WireSampleView) :
    Prop :=
  ∃ views, Samples setting.payloads.schema (telemetryOf status.telemetry) boardId views ∧
    view ∈ views

/-- The nodes that the older requests have a value for, with the types of their values. -/
def legacyNodes : List (Text × Registry.ValueType) :=
  (legacyValues [] {}).map fun entry ↦ (entry.1, entry.2.valueType)

/-- A status has a value for a node. -/
def Covers (setting : Setting) (boardId : Text) (status : DaphneStatus) (nodeId : Text)
    (valueType : Registry.ValueType) : Prop :=
  if status.telemetryV8 then ∃ view, IsSample setting boardId status view ∧ view.nodeId = nodeId
  else ∃ suffix, (suffix, valueType) ∈ legacyNodes ∧ nodeId = boardPrefix boardId ++ suffix

/-- A status has this very value for a node. -/
def Carries (setting : Setting) (boardId : Text) (status : DaphneStatus) (nodeId : Text)
    (value : UaVariant) : Prop :=
  if status.telemetryV8 then
    ∃ view, IsSample setting boardId status view ∧ view.nodeId = nodeId ∧
      (ownValue view.sample).map stored = some value
  else ∃ suffix, (suffix, value) ∈ legacyValues "Good".toList status ∧
    nodeId = boardPrefix boardId ++ suffix

/-- Every good measurement holds a value of the status, which is one of a successful poll. -/
def GoodCarried {S : Type} [UaServer S] (setting : Setting) (boardId : Text) (status : DaphneStatus)
    (server : S) : Prop :=
  ∀ nodeId valueType, IsMeasurement setting boardId nodeId valueType →
    ∀ dataValue, UaServer.read server (canonicalId setting.controlNs nodeId) = some dataValue →
      dataValue.status = .good →
        status.connected ∧ status.success ∧ Carries setting boardId status nodeId dataValue.value

/-- Every good measurement is one that the status to be published has a value for. -/
def GoodCovered {S : Type} [UaServer S] (setting : Setting) (boardId : Text) (s : BridgeState S) :
    Prop :=
  ∀ nodeId valueType, IsMeasurement setting boardId nodeId valueType →
    ∀ dataValue, UaServer.read s.server (canonicalId setting.controlNs nodeId) = some dataValue →
      dataValue.status = .good →
        Covers setting boardId (s.daphnes boardId).measurement nodeId valueType

/-! ## One turn -/

section Turn

variable {setting : Setting} {moment : Moment} {heartbeat : Int32} {boardId nodeId : Text}
  {board : DaphneRuntime} {valueType : Registry.ValueType} {value : UaVariant}
  {status : UaStatusCode}

theorem legacyValues_types (quality : Text) (measurement : DaphneStatus) :
    (legacyValues quality measurement).map (fun entry ↦ (entry.1, entry.2.valueType)) =
      legacyNodes := rfl

/-- What a turn writes to a measurement. -/
inductive Offers (setting : Setting) (moment : Moment) (boardId : Text) (board : DaphneRuntime)
    (nodeId : Text) (valueType : Registry.ValueType) : UaVariant → UaStatusCode → Prop
  | native {view : WireSampleView} : board.measurement.telemetryV8 = true →
      IsSample setting boardId board.measurement view → view.nodeId = nodeId →
        Offers setting moment boardId board nodeId valueType (sampleToVariant view valueType).1
          (viewStatus board.currentGood view valueType)
  | legacy {suffix : Text} {value : UaVariant} : board.measurement.telemetryV8 = false →
      (suffix, value) ∈ legacyValues (quality setting moment board) board.measurement →
        nodeId = boardPrefix boardId ++ suffix →
          Offers setting moment boardId board nodeId valueType value board.measurementStatus

theorem valueType_makeInitialValue : (makeInitialValue valueType).valueType = valueType := by
  cases valueType <;> rfl

theorem valueType_sampleToVariant (view : WireSampleView) (valueType : Registry.ValueType) :
    (sampleToVariant view valueType).1.valueType = valueType := by
  unfold sampleToVariant
  split
  · split
    · rfl
    · rfl
    · rfl
    · rfl
    · rfl
    · split <;> rfl
    · exact valueType_makeInitialValue
  · exact valueType_makeInitialValue

/-- The writes of a turn that are placed on a measurement are those that the turn offers. -/
structure TurnWrites (setting : Setting) (moment : Moment) (boardId : Text) (board : DaphneRuntime)
    (writes : List UaWrite) : Prop where
  placed : ∀ write ∈ writes, ∃ nodeId valueType,
    setting.config.registryNodeTypes nodeId = some valueType ∧ boardPrefix boardId <+: nodeId ∧
    write.nodeId = canonicalId setting.controlNs nodeId ∧
    (IsMeasurement setting boardId nodeId valueType →
      Offers setting moment boardId board nodeId valueType write.dataValue.value
        write.dataValue.status)
  complete : ∀ nodeId valueType value status,
    setting.config.registryNodeTypes nodeId = some valueType →
    Offers setting moment boardId board nodeId valueType value status →
      ∃ write ∈ writes, write.nodeId = canonicalId setting.controlNs nodeId ∧
        write.dataValue.value = value ∧ write.dataValue.status = status

/-- What is known about a board whatever has been polled. -/
structure DaphneRuntime.Consistent (payloads : Payloads) (boardId : Text) (board : DaphneRuntime) :
    Prop where
  client : board.client.boardId = boardId
  lastGood : board.currentGood → board.hasLastGoodStatus ∧ board.lastGoodStatus = board.status
  accepted : board.status.telemetryV8 → board.currentGood ∧
    DaphneClient.Accepted payloads boardId board.status.telemetry
  lastAccepted : board.lastGoodStatus.telemetryV8 →
    DaphneClient.Accepted payloads boardId board.lastGoodStatus.telemetry

variable (hboard : board.Consistent setting.payloads boardId)
include hboard

/-- After a successful poll its own status is published. -/
theorem DaphneRuntime.Consistent.measurement_eq (hgood : board.currentGood) :
    board.measurement = board.status := by
  obtain ⟨hlast, heq⟩ := hboard.lastGood hgood
  rw [DaphneRuntime.measurement, if_pos hlast, heq]

theorem DaphneRuntime.Consistent.measurement_accepted (hv8 : board.measurement.telemetryV8) :
    DaphneClient.Accepted setting.payloads boardId board.measurement.telemetry := by
  unfold DaphneRuntime.measurement at hv8 ⊢
  split
  · next hlast =>
    rw [if_pos hlast] at hv8
    exact hboard.lastAccepted hv8
  · next hlast =>
    rw [if_neg hlast] at hv8
    exact (hboard.accepted hv8).2

omit hboard in
/-- The status and bridge points are none of the measurements. -/
theorem not_isMeasurement {point : Point}
    (hpoint : point ∈ statusPoints setting moment board ++
      bridgePoints setting moment heartbeat board) :
    ¬ IsMeasurement setting boardId (boardPrefix boardId ++ point.suffix) valueType := by
  have hsuffix : "Status.".toList <+: point.suffix ∨ "Bridge.".toList <+: point.suffix := by
    cases List.mem_append.1 hpoint with
    | inl hstatus =>
      obtain ⟨entry, -, rfl⟩ := List.mem_map.1 hstatus
      exact .inl (List.prefix_append _ _)
    | inr hbridge =>
      obtain ⟨entry, -, rfl⟩ := List.mem_map.1 hbridge
      exact .inr (List.prefix_append _ _)
  rintro ⟨-, suffix, heq, hstatus, hbridge⟩
  rw [List.append_cancel_left heq] at hsuffix
  exact hsuffix.elim hstatus hbridge

omit hboard in
/-- A registered point is written to its node. -/
theorem placed_writeCanonical {point : Point} {write : UaWrite}
    (h : writeCanonical setting boardId point = some write) :
    ∃ valueType, setting.config.registryNodeTypes (boardPrefix boardId ++ point.suffix) =
        some valueType ∧
      write.nodeId = canonicalId setting.controlNs (boardPrefix boardId ++ point.suffix) ∧
      write.dataValue.value = point.value ∧ write.dataValue.status = point.status := by
  obtain ⟨valueType, htype, rfl⟩ := Option.map_eq_some_iff.1 h
  exact ⟨valueType, htype, rfl, rfl, rfl⟩

omit hboard in
theorem turnWrites_of_legacy (hlegacy : board.measurement.telemetryV8 = false) :
    ∃ writes, boardWrites setting moment heartbeat boardId board = some writes ∧
      TurnWrites setting moment boardId board writes := by
  refine ⟨_, by rw [boardWrites, hlegacy]; rfl, ?_, ?_⟩
  · intro write hwrite
    obtain ⟨point, hpoint, hsome⟩ := List.mem_filterMap.1 hwrite
    obtain ⟨valueType, htype, hnode, hvalue, hstatus⟩ := placed_writeCanonical hsome
    refine ⟨_, valueType, htype, List.prefix_append _ _, hnode, fun hmeasurement ↦ ?_⟩
    cases List.mem_append.1 hpoint with
    | inl hother => exact absurd hmeasurement (not_isMeasurement hother)
    | inr hlegacyPoint =>
      obtain ⟨entry, hentry, rfl⟩ := List.mem_map.1 hlegacyPoint
      rw [hvalue, hstatus]
      exact .legacy hlegacy hentry rfl
  · intro nodeId valueType value status htype hoffers
    cases hoffers with
    | native hv8 => exact absurd (hlegacy.symm.trans hv8) Bool.false_ne_true
    | @legacy suffix value _ hentry heq =>
      subst heq
      let point : Point := ⟨suffix, value, board.measurementStatus, board.measurementTimestamp⟩
      have hpoint : point ∈ legacyPoints (quality setting moment board) board :=
        List.mem_map.2 ⟨(suffix, value), hentry, rfl⟩
      obtain ⟨write, hwrite⟩ : ∃ write, writeCanonical setting boardId point = some write :=
        ⟨_, Option.map_eq_some_iff.2 ⟨valueType, htype, rfl⟩⟩
      obtain ⟨_, -, hnode, hvalue, hstatus⟩ := placed_writeCanonical hwrite
      exact ⟨write, List.mem_filterMap.2 ⟨point, List.mem_append_right _ hpoint, hwrite⟩, hnode,
        hvalue, hstatus⟩

omit hboard in
/-- An accepted snapshot has acceptable samples. -/
theorem exists_samples_of_accepted {telemetry : ReadTelemetrySnapshotResponse}
    {payloads : Payloads} (h : DaphneClient.Accepted payloads boardId telemetry) :
    telemetry.boardId = boardId ∧ ∃ views,
      Samples payloads.schema (telemetryOf telemetry) boardId views ∧
      AllAcceptable boardId [] views := by
  obtain ⟨payload, requestSequence, snapshot, hparse, rfl⟩ := h
  obtain ⟨response, telemetry, -, hid, htelemetry, hvalidate⟩ := parseAndValidate_ok hparse
  obtain ⟨hresponse, views, hsamples, -, hacceptable⟩ :=
    validateTelemetry_ok isWalk_samples hvalidate
  have hof : telemetryOf snapshot.response = telemetry := by
    rw [hresponse, telemetryOf, htelemetry]
    rfl
  exact ⟨hresponse ▸ hid, views, hof ▸ hsamples, hacceptable⟩

omit hboard in
theorem boardWrites_of_native (hv8 : board.measurement.telemetryV8 = true) {rejected : ℕ}
    {s : Publication} (hrun : publish setting.payloads.schema
      ⟨setting.controlNs, setting.config.registryNodeTypes⟩ board.measurement.telemetry
      board.currentGood {} = .ok rejected s) :
    boardWrites setting moment heartbeat boardId board =
      some ((statusPoints setting moment board ++
        bridgePoints setting moment heartbeat board).filterMap (writeCanonical setting boardId) ++
          s.writes) := by
  rw [boardWrites, if_pos hv8]
  simp only [hrun]

theorem turnWrites_of_native (hv8 : board.measurement.telemetryV8 = true) :
    ∃ writes, boardWrites setting moment heartbeat boardId board = some writes ∧
      TurnWrites setting moment boardId board writes := by
  obtain ⟨hid, views, hsamples, hacceptable⟩ :=
    exists_samples_of_accepted (hboard.measurement_accepted hv8)
  have hrun := publish_run ⟨setting.controlNs, setting.config.registryNodeTypes⟩ board.currentGood
    (hid.symm ▸ hsamples) hacceptable.nodup
  refine ⟨_, boardWrites_of_native hv8 hrun, ?_, ?_⟩
  · intro write hwrite
    cases List.mem_append.1 hwrite with
    | inl hother =>
      obtain ⟨point, hpoint, hsome⟩ := List.mem_filterMap.1 hother
      obtain ⟨valueType, htype, hnode, -⟩ := placed_writeCanonical hsome
      exact ⟨_, valueType, htype, List.prefix_append _ _, hnode, fun hmeasurement ↦
        absurd hmeasurement (not_isMeasurement hpoint)⟩
    | inr hview =>
      obtain ⟨view, hmem, hsome⟩ := List.mem_filterMap.1 hview
      obtain ⟨valueType, htype, rfl⟩ := Option.map_eq_some_iff.1 hsome
      refine ⟨view.nodeId, valueType, htype, ?_, rfl, fun _ ↦ ?_⟩
      · exact List.isPrefixOf_iff_prefix.1 (hacceptable.acceptable view hmem).onBoard
      · exact .native hv8 ⟨views, hsamples, hmem⟩ rfl
  · intro nodeId valueType value status htype hoffers
    cases hoffers with
    | @native view _ hsample heq =>
      subst heq
      obtain ⟨views', hsamples', hmem⟩ := hsample
      rw [hsamples'.unique hsamples] at hmem
      refine ⟨_, List.mem_append_right _ (List.mem_filterMap.2 ⟨view, hmem,
        Option.map_eq_some_iff.2 ⟨valueType, htype, rfl⟩⟩), rfl, rfl, rfl⟩
    | legacy hlegacy => exact absurd (hlegacy.symm.trans hv8) Bool.false_ne_true

/-- A turn does not throw, and what it writes is known. -/
theorem exists_turnWrites (moment : Moment) (heartbeat : Int32) : ∃ writes,
    boardWrites setting moment heartbeat boardId board = some writes ∧
      TurnWrites setting moment boardId board writes := by
  cases hv8 : board.measurement.telemetryV8 with
  | true => exact turnWrites_of_native hboard hv8
  | false => exact turnWrites_of_legacy hv8

/-- What is offered as good is carried by the latest status, which is one of a successful poll. -/
theorem Offers.carries
    (hoffers : Offers setting moment boardId board nodeId valueType value .good) :
    board.currentGood ∧ Carries setting boardId board.status nodeId value := by
  generalize hstatus : UaStatusCode.good = status at hoffers
  cases hoffers with
  | @native view hv8 hsample heq =>
    obtain ⟨-, views, hsamples, hacceptable⟩ :=
      exists_samples_of_accepted (hboard.measurement_accepted hv8)
    have hmem : view ∈ views := by
      obtain ⟨views', hsamples', hmem⟩ := hsample
      rwa [hsamples'.unique hsamples] at hmem
    have hvalid := (hacceptable.acceptable view hmem).valid
    have hgood := ((viewStatus_eq_good_iff board.currentGood hvalid).1 hstatus.symm).2.2
    have hsame := hboard.measurement_eq hgood
    rw [hsame] at hv8 hsample
    refine ⟨hgood, ?_⟩
    rw [Carries, if_pos hv8]
    exact ⟨view, hsample, heq, stored_ownValue_of_viewStatus hvalid (.inl hstatus.symm)⟩
  | @legacy suffix value hlegacy hentry heq =>
    have hgood : board.currentGood := by
      by_contra hbad
      rw [DaphneRuntime.measurementStatus, if_neg hbad] at hstatus
      split at hstatus <;> cases hstatus
    have hsame := hboard.measurement_eq hgood
    rw [hsame] at hlegacy
    rw [hsame, quality, if_pos hgood] at hentry
    refine ⟨hgood, ?_⟩
    rw [Carries, hlegacy]
    exact ⟨suffix, hentry, heq⟩

omit hboard in
/-- What the published status has a value for is offered with a value of the right type. -/
theorem covers_iff_offers : Covers setting boardId board.measurement nodeId valueType ↔
    ∃ value status, Offers setting moment boardId board nodeId valueType value status ∧
      value.valueType = valueType := by
  cases hv8 : board.measurement.telemetryV8 with
  | true =>
    rw [Covers, if_pos hv8]
    constructor
    · rintro ⟨view, hsample, heq⟩
      exact ⟨_, _, .native hv8 hsample heq, valueType_sampleToVariant view valueType⟩
    · rintro ⟨value, status, hoffers, -⟩
      cases hoffers with
      | native _ hsample heq => exact ⟨_, hsample, heq⟩
      | legacy hlegacy => exact absurd (hlegacy.symm.trans hv8) Bool.false_ne_true
  | false =>
    have hnot : ¬ board.measurement.telemetryV8 = true := by simp [hv8]
    rw [Covers, if_neg hnot, ← legacyValues_types (quality setting moment board) board.measurement]
    constructor
    · rintro ⟨suffix, hmem, heq⟩
      obtain ⟨⟨suffix', value⟩, hentry, hpair⟩ := List.mem_map.1 hmem
      obtain ⟨rfl, rfl⟩ := Prod.mk.injEq .. ▸ hpair
      exact ⟨value, _, .legacy hv8 hentry heq, rfl⟩
    · rintro ⟨value, status, hoffers, htype⟩
      cases hoffers with
      | native hnative => exact absurd hnative hnot
      | legacy _ hentry heq =>
        exact ⟨_, List.mem_map.2 ⟨_, hentry, congrArg (Prod.mk _) htype⟩, heq⟩

/-- What the latest status carries is what the turn has a value for, if the poll has succeeded. -/
theorem Carries.covers (hgood : board.currentGood)
    (h : Carries setting boardId board.status nodeId value) :
    Covers setting boardId board.measurement nodeId value.valueType := by
  rw [hboard.measurement_eq hgood]
  unfold Carries at h
  unfold Covers
  split at h
  · next hv8 =>
    obtain ⟨view, hsample, heq, -⟩ := h
    rw [if_pos hv8]
    exact ⟨view, hsample, heq⟩
  · next hlegacy =>
    obtain ⟨suffix, hentry, heq⟩ := h
    rw [if_neg hlegacy, ← legacyValues_types "Good".toList board.status]
    exact ⟨suffix, List.mem_map.2 ⟨_, hentry, rfl⟩, heq⟩

end Turn

/-! ## A turn on the server -/

section Server

variable {S : Type} [UaServer S] {setting : Setting} {moment : Moment} {boardId other nodeId : Text}
  {board : DaphneRuntime} {valueType : Registry.ValueType} {writes : List UaWrite} {server : S}
  {dataValue : UaDataValue}

theorem eq_of_append_le {c : Char} {a b : Text} (hb : c ∉ b) (h : a ++ [c] <+: b ++ [c]) :
    a = b := by
  cases List.prefix_concat_iff.1 h with
  | inl heq => exact List.append_cancel_right heq
  | inr hshort => exact absurd (hshort.subset (List.mem_append_right a List.mem_cons_self)) hb

theorem boardPrefix_eq : boardPrefix boardId = "DAPHNE.Boards.".toList ++ (boardId ++ ['.']) :=
  List.append_assoc _ _ _

theorem boardPrefix_le_iff :
    boardPrefix boardId <+: boardPrefix other ↔ boardId ++ ['.'] <+: other ++ ['.'] := by
  rw [boardPrefix_eq, boardPrefix_eq, List.prefix_append_right_inj]

theorem eq_of_boardPrefix (hboard : '.' ∉ boardId) (hother : '.' ∉ other)
    (h : boardPrefix boardId <+: nodeId) (h' : boardPrefix other <+: nodeId) : boardId = other := by
  cases List.prefix_or_prefix_of_prefix h h' with
  | inl hle => exact eq_of_append_le hother (boardPrefix_le_iff.1 hle)
  | inr hle => exact (eq_of_append_le hboard (boardPrefix_le_iff.1 hle)).symm

/-- A write that is placed on a measurement is one that the turn offers. -/
theorem TurnWrites.offers (hwrites : TurnWrites setting moment boardId board writes)
    (hseparate : Separate setting.config) (hnode : IsMeasurement setting boardId nodeId valueType)
    {write : UaWrite} (hwrite : write ∈ writes)
    (hid : write.nodeId = canonicalId setting.controlNs nodeId) :
    Offers setting moment boardId board nodeId valueType write.dataValue.value
      write.dataValue.status := by
  obtain ⟨nodeId', valueType', htype, -, hid', hoffers⟩ := hwrites.placed write hwrite
  have hsame : nodeId' = nodeId := by
    apply hseparate nodeId' nodeId (Option.isSome_of_eq_some htype)
      (Option.isSome_of_eq_some hnode.registered)
    exact congrArg UaNodeId.identifier (hid'.symm.trans hid)
  subst hsame
  obtain rfl : valueType' = valueType := Option.some.inj (htype.symm.trans hnode.registered)
  exact hoffers hnode

/-- The writes of a turn do not reach the nodes below another board. -/
theorem TurnWrites.read_other (hwrites : TurnWrites setting moment other board writes)
    (hseparate : Separate setting.config) (hnode : IsMeasurement setting boardId nodeId valueType)
    (hboard : '.' ∉ boardId) (hother : '.' ∉ other) (hne : boardId ≠ other) :
    UaServer.read (writes.foldl (fun server write ↦ UaServer.write write server) server)
        (canonicalId setting.controlNs nodeId) =
      UaServer.read server (canonicalId setting.controlNs nodeId) := by
  apply UaServer.typedStore.read_foldl_of_ne
  intro write hwrite hid
  obtain ⟨nodeId', valueType', htype, hbelow, hid', -⟩ := hwrites.placed write hwrite
  have hsame : nodeId = nodeId' := by
    apply hseparate nodeId nodeId' (Option.isSome_of_eq_some hnode.registered)
      (Option.isSome_of_eq_some htype)
    exact congrArg UaNodeId.identifier (hid.trans hid')
  obtain ⟨suffix, hsuffix, -⟩ := hnode.below
  have hprefix : boardPrefix boardId <+: nodeId := hsuffix ▸ List.prefix_append _ _
  exact hne (eq_of_boardPrefix hboard hother hprefix (hsame ▸ hbelow))

section Self

variable (hwrites : TurnWrites setting moment boardId board writes)
  (hseparate : Separate setting.config)
  (hnode : IsMeasurement setting boardId nodeId valueType)
  (hread : UaServer.read server (canonicalId setting.controlNs nodeId) = some dataValue)
  (htype : dataValue.valueType = valueType)
include hwrites hseparate hnode hread htype

/-- A measurement that the turn has a value for is written with a value that the turn offers. -/
theorem TurnWrites.read_of_covers
    (hcovers : Covers setting boardId board.measurement nodeId valueType) :
    ∃ dataValue',
      UaServer.read (writes.foldl (fun server write ↦ UaServer.write write server) server)
        (canonicalId setting.controlNs nodeId) = some dataValue' ∧ dataValue'.valueType =
          valueType ∧
      Offers setting moment boardId board nodeId valueType dataValue'.value dataValue'.status := by
  obtain ⟨dataValue', hread', hsame, hlast⟩ := UaServer.typedStore.read_foldl hread writes
  cases hlast with
  | inl htaken =>
    obtain ⟨write, hwrite, ⟨hid, -⟩, rfl⟩ := htaken
    exact ⟨_, hread', hsame.trans htype, hwrites.offers hseparate hnode hwrite hid⟩
  | inr hkept =>
    obtain ⟨value, status, hoffers, hvalueType⟩ := covers_iff_offers.1 hcovers
    obtain ⟨write, hwrite, hid, hvalue, -⟩ :=
      hwrites.complete nodeId valueType value status hnode.registered hoffers
    refine absurd ⟨hid, ?_⟩ (hkept.2 write hwrite)
    calc
      write.dataValue.value.valueType = value.valueType := congrArg _ hvalue
      _ = dataValue.valueType := hvalueType.trans htype.symm

/-- A measurement that the turn has no value for is left alone. -/
theorem TurnWrites.read_of_not_covers
    (hcovers : ¬ Covers setting boardId board.measurement nodeId valueType) :
    UaServer.read (writes.foldl (fun server write ↦ UaServer.write write server) server)
      (canonicalId setting.controlNs nodeId) = some dataValue := by
  obtain ⟨dataValue', hread', -, hlast⟩ := UaServer.typedStore.read_foldl hread writes
  cases hlast with
  | inl htaken =>
    obtain ⟨write, hwrite, ⟨hid, hwriteType⟩, -⟩ := htaken
    have hoffers := hwrites.offers hseparate hnode hwrite hid
    exact absurd (covers_iff_offers.2 ⟨_, _, hoffers, hwriteType.trans htype⟩) hcovers
  | inr hkept => rw [hread', hkept.1]

/-- After a turn a measurement is good with a value of the latest poll, if at all, exactly when it
was one that the turn has a value for, if it was good before. -/
theorem TurnWrites.read_self (hboard : board.Consistent setting.payloads boardId) :
    ∃ dataValue',
      UaServer.read (writes.foldl (fun server write ↦ UaServer.write write server) server)
        (canonicalId setting.controlNs nodeId) = some dataValue' ∧
      ((dataValue'.status = .good →
          board.currentGood ∧ Carries setting boardId board.status nodeId dataValue'.value) ↔
        (dataValue.status = .good →
          Covers setting boardId board.measurement nodeId valueType)) := by
  by_cases hcovers : Covers setting boardId board.measurement nodeId valueType
  · obtain ⟨dataValue', hread', -, hoffers⟩ :=
      hwrites.read_of_covers hseparate hnode hread htype hcovers
    refine ⟨dataValue', hread', iff_of_true (fun hgood ↦ ?_) fun _ ↦ hcovers⟩
    rw [hgood] at hoffers
    exact hoffers.carries hboard
  · refine ⟨dataValue, hwrites.read_of_not_covers hseparate hnode hread htype hcovers, ?_⟩
    constructor
    · intro hcarries hgood
      obtain ⟨hcurrent, hvalue⟩ := hcarries hgood
      exact htype ▸ hvalue.covers hboard hcurrent
    · exact fun himplies hgood ↦ absurd (himplies hgood) hcovers

end Self

end Server

/-! ## Runs -/

section Run

variable {S : Type} [UaServer S] {setting : Setting} {s s' : BridgeState S} {event : Event}
  {events : List Event} {boardId nodeId : Text} {valueType : Registry.ValueType}

/-- What holds of the bridge in every run. -/
structure Consistent (setting : Setting) (s : BridgeState S) : Prop where
  boards : ∀ boardId, (s.daphnes boardId).Consistent setting.payloads boardId
  nodes : ∀ nodeId valueType, setting.config.registryNodeTypes nodeId = some valueType →
    ∃ dataValue, UaServer.read s.server (canonicalId setting.controlNs nodeId) = some dataValue ∧
      dataValue.valueType = valueType

theorem consistent_polled {board : DaphneRuntime} (exchange : DaphneClient.Exchange)
    (h : board.Consistent setting.payloads boardId) :
    (board.polled setting.payloads exchange).Consistent setting.payloads boardId := by
  have hv8 := DaphneClient.poll_telemetryV8 setting.payloads exchange board.client
  have hclient := (DaphneClient.poll_boardId setting.payloads exchange board.client).trans h.client
  rw [h.client] at hv8
  unfold DaphneRuntime.polled
  generalize DaphneClient.poll setting.payloads exchange board.client = polled at hv8 hclient
  obtain ⟨status, client⟩ := polled
  have hgood : status.telemetryV8 → (status.connected && status.success) = true := by
    intro htelemetry
    obtain ⟨hconnected, hsuccess, -⟩ := hv8 htelemetry
    rw [hconnected, hsuccess]
    rfl
  simp only
  split
  · exact ⟨hclient, fun _ ↦ ⟨rfl, rfl⟩, fun htelemetry ↦ ⟨hgood htelemetry, (hv8 htelemetry).2.2⟩,
      fun htelemetry ↦ (hv8 htelemetry).2.2⟩
  · next hbad =>
    refine ⟨hclient, fun hcurrent ↦ absurd ?_ hbad,
      fun htelemetry ↦ ⟨hgood htelemetry, (hv8 htelemetry).2.2⟩, h.lastAccepted⟩
    simpa [DaphneRuntime.currentGood] using hcurrent

/-- The turn of a board. -/
theorem step_board {moment : Moment} {writes : List UaWrite}
    (h : boardWrites setting moment s.heartbeat boardId (s.daphnes boardId) = some writes) :
    step setting s (.board boardId moment) =
      some { s with
        server := writes.foldl (fun server write ↦ UaServer.write write server) s.server } :=
  congrArg (Option.map _) h

/-- No step throws, and every step keeps what holds of the bridge. -/
theorem consistent_step (hs : Consistent setting s) (event : Event) :
    ∃ s', step setting s event = some s' ∧ Consistent setting s' := by
  cases event with
  | poll boardId exchange =>
    refine ⟨_, rfl, fun other ↦ ?_, hs.nodes⟩
    by_cases heq : other = boardId
    · subst heq
      simp only [Function.update_self]
      exact consistent_polled exchange (hs.boards other)
    · simp only [Function.update_of_ne heq]
      exact hs.boards other
  | beat => exact ⟨_, rfl, hs.boards, hs.nodes⟩
  | board boardId moment =>
    obtain ⟨writes, hwrites, -⟩ := exists_turnWrites (hs.boards boardId) moment s.heartbeat
    refine ⟨_, step_board hwrites, hs.boards, ?_⟩
    intro nodeId valueType htype
    obtain ⟨dataValue, hread, rfl⟩ := hs.nodes nodeId valueType htype
    obtain ⟨dataValue', hread', hsame, -⟩ := UaServer.typedStore.read_foldl hread writes
    exact ⟨dataValue', hread', hsame⟩

theorem run_cons (hstep : step setting s event = some s') (events : List Event) :
    run setting s (event :: events) = run setting s' events := by
  rw [run, List.foldlM_cons, hstep]
  rfl

theorem consistent_run (hs : Consistent setting s) (events : List Event) :
    ∃ s', run setting s events = some s' ∧ Consistent setting s' := by
  induction events generalizing s with
  | nil => exact ⟨s, rfl, hs⟩
  | cons event events ih =>
    obtain ⟨s₁, hstep, hs₁⟩ := consistent_step hs event
    obtain ⟨s', hrun, hs'⟩ := ih hs₁
    exact ⟨s', (run_cons hstep events).trans hrun, hs'⟩

theorem run_append (s : BridgeState S) (events events' : List Event) :
    run setting s (events ++ events') = (run setting s events).bind fun s ↦ run setting s events' :=
  List.foldlM_append

theorem Starts.consistent (h : Starts setting s) : Consistent setting s where
  boards boardId := by
    rw [h.daphnes boardId]
    constructor
    · rfl
    · exact fun h ↦ absurd h Bool.false_ne_true
    · exact fun h ↦ absurd h Bool.false_ne_true
    · exact fun h ↦ absurd h Bool.false_ne_true
  nodes nodeId valueType htype := by
    obtain ⟨empty, hbuilt⟩ := h.built
    exact ⟨_, (buildRegistry_ok hbuilt).2 nodeId valueType htype, valueType_makeInitialValue⟩

/-- The board that an event is the turn of. -/
def Event.turn : Event → Option Text
  | .board boardId _ => some boardId
  | _ => none

/-- A step that is not the turn of a board leaves the measurements of the board alone. -/
theorem read_step (hs : Consistent setting s) (hseparate : Separate setting.config)
    (hnode : IsMeasurement setting boardId nodeId valueType) (hboard : '.' ∉ boardId)
    (hother : ∀ other ∈ event.turn, '.' ∉ other ∧ boardId ≠ other)
    (hstep : step setting s event = some s') :
    UaServer.read s'.server (canonicalId setting.controlNs nodeId) =
      UaServer.read s.server (canonicalId setting.controlNs nodeId) := by
  cases event with
  | poll _ _ =>
    cases hstep
    rfl
  | beat =>
    cases hstep
    rfl
  | board other moment =>
    obtain ⟨hplain, hne⟩ := hother other rfl
    obtain ⟨writes, hwrites, hturn⟩ := exists_turnWrites (hs.boards other) moment s.heartbeat
    cases (step_board hwrites).symm.trans hstep
    exact hturn.read_other hseparate hnode hboard hplain hne

theorem read_run (hs : Consistent setting s) (hseparate : Separate setting.config)
    (hnode : IsMeasurement setting boardId nodeId valueType) (hboard : '.' ∉ boardId)
    (hother : ∀ event ∈ events, ∀ other ∈ event.turn, '.' ∉ other ∧ boardId ≠ other)
    (hrun : run setting s events = some s') :
    UaServer.read s'.server (canonicalId setting.controlNs nodeId) =
      UaServer.read s.server (canonicalId setting.controlNs nodeId) := by
  induction events generalizing s with
  | nil =>
    cases hrun
    rfl
  | cons event events ih =>
    obtain ⟨hevent, hevents⟩ := List.forall_mem_cons.1 hother
    obtain ⟨s₁, hstep, hs₁⟩ := consistent_step hs event
    rw [run_cons hstep] at hrun
    exact (ih hs₁ hevents hrun).trans (read_step hs hseparate hnode hboard hevent hstep)

theorem IsUpdate.filterMap_turn (h : IsUpdate setting events) :
    events.filterMap Event.turn = setting.config.daphneIds := by
  obtain ⟨moment, hevents⟩ := h
  have hpoll : (fun event : Event ↦ if ¬ event.IsPoll then event.turn else none) = Event.turn := by
    funext event
    cases event <;> rfl
  calc
    events.filterMap Event.turn =
        (events.filter fun event ↦ ¬ event.IsPoll).filterMap Event.turn := by
      rw [List.filterMap_filter]
      simp only [decide_eq_true_eq, hpoll]
    _ = (setting.config.daphneIds.map fun boardId ↦
        Event.board boardId (moment boardId)).filterMap Event.turn := by
      rw [hevents]
      rfl
    _ = setting.config.daphneIds := by
      rw [List.filterMap_map]
      exact List.filterMap_some

/-- A call of `updateNodes` comes to a board once. -/
theorem IsUpdate.split (h : IsUpdate setting events) (hnodup : setting.config.daphneIds.Nodup)
    (hboard : boardId ∈ setting.config.daphneIds) :
    ∃ moment later,
      events = (events.takeWhile fun event ↦ event.turn ≠ some boardId) ++
        .board boardId moment :: later ∧
      ∀ event ∈ later, ∀ other ∈ event.turn, other ∈ setting.config.daphneIds ∧
        boardId ≠ other := by
  let p : Event → Bool := fun event ↦ event.turn ≠ some boardId
  have hsplit : events.takeWhile p ++ events.dropWhile p = events := List.takeWhile_append_dropWhile
  have hturn := h.filterMap_turn
  cases hdrop : events.dropWhile p with
  | nil =>
    have hall := List.dropWhile_eq_nil_iff.1 hdrop
    rw [← hturn, List.mem_filterMap] at hboard
    obtain ⟨event, hevent, heq⟩ := hboard
    exact absurd heq (by simpa [p] using hall event hevent)
  | cons event later =>
    have hevent : event.turn = some boardId := by
      have hne : events.dropWhile p ≠ [] := by simp [hdrop]
      have hhead : p event = false := by
        rw [← List.head_dropWhile_not p hne]
        simp only [hdrop, List.head_cons]
      simpa [p] using hhead
    obtain ⟨moment, rfl⟩ : ∃ moment, event = .board boardId moment := by
      cases event with
      | board other moment => exact ⟨moment, by rw [Option.some.inj hevent]⟩
      | poll _ _ => cases hevent
      | beat => cases hevent
    refine ⟨moment, later, (hdrop ▸ hsplit).symm, fun event hmem other hother ↦ ?_⟩
    have hlater : other ∈ later.filterMap Event.turn := List.mem_filterMap.2 ⟨event, hmem, hother⟩
    rw [← hsplit, hdrop, List.filterMap_append] at hturn
    have hids : boardId :: later.filterMap Event.turn <:+ setting.config.daphneIds :=
      hturn ▸ List.suffix_append _ _
    refine ⟨hids.subset (List.mem_cons_of_mem boardId hlater), fun heq ↦ ?_⟩
    exact (List.nodup_cons.1 (hnodup.sublist hids.sublist)).1 (heq ▸ hlater)

/-- Right after `updateNodes`, whatever has been polled before and meanwhile, every good measurement
of a board holds a value of the poll that `updateNodes` has found for the board, and this poll has
succeeded, exactly when the measurements that were good as it came to the board are among those that
it had a value for. -/
theorem good_carried_iff {machine : Machine} {readers : Readers} {path : Text} {forceFake : Bool}
    (hconfig : mainConfig machine readers path forceFake = .ok setting.config)
    {start : BridgeState S}
    (hstart : Starts setting start) (before update : List Event) (hupdate : IsUpdate setting update)
    (hboard : boardId ∈ setting.config.daphneIds) :
    ∃ s s', run setting start
        (before ++ update.takeWhile fun event ↦ event.turn ≠ some boardId) = some s ∧
      run setting start (before ++ update) = some s' ∧
      (GoodCarried setting boardId (s.daphnes boardId).status s'.server ↔
        GoodCovered setting boardId s) := by
  have hchecked := mainConfig_ok hconfig
  obtain ⟨empty, hbuilt⟩ := hstart.built
  have hseparate := (buildRegistry_ok hbuilt).1
  have hplain : ∀ id ∈ setting.config.daphneIds, '.' ∉ id :=
    fun id hid ↦ (hchecked.plain id hid).2.1
  obtain ⟨moment, later, hsplit, hlater⟩ := hupdate.split hchecked.nodup hboard
  obtain ⟨s, hrun, hs⟩ := consistent_run hstart.consistent
    (before ++ update.takeWhile fun event ↦ event.turn ≠ some boardId)
  obtain ⟨writes, hwrites, hturn⟩ := exists_turnWrites (hs.boards boardId) moment s.heartbeat
  obtain ⟨s₁, hstep, hs₁⟩ := consistent_step hs (.board boardId moment)
  obtain ⟨s', hrun', -⟩ := consistent_run hs₁ later
  have hserver : s₁.server = writes.foldl (fun server write ↦ UaServer.write write server)
      s.server := by
    cases (step_board hwrites).symm.trans hstep
    rfl
  have hkept : ∀ nodeId valueType, IsMeasurement setting boardId nodeId valueType →
      UaServer.read s'.server (canonicalId setting.controlNs nodeId) =
        UaServer.read s₁.server (canonicalId setting.controlNs nodeId) := by
    intro nodeId valueType hnode
    apply read_run hs₁ hseparate hnode (hplain boardId hboard) _ hrun'
    intro event hevent other hother
    obtain ⟨hmem, hne⟩ := hlater event hevent other hother
    exact ⟨hplain other hmem, hne⟩
  refine ⟨s, s', hrun, ?_, ?_⟩
  · rw [hsplit, ← List.append_assoc, run_append, hrun]
    exact (run_cons hstep later).trans hrun'
  · have hgood : ∀ {status : DaphneStatus},
        (status.connected && status.success) = true ↔ status.connected ∧ status.success := by simp
    constructor
    · intro hcarried nodeId valueType hnode dataValue hread
      obtain ⟨_, hread₀, htype⟩ := hs.nodes nodeId valueType hnode.registered
      cases Option.some.inj (hread.symm.trans hread₀)
      obtain ⟨dataValue', hread', hiff⟩ :=
        hturn.read_self hseparate hnode hread htype (hs.boards boardId)
      apply hiff.1
      intro hgood'
      rw [← hserver, ← hkept nodeId valueType hnode] at hread'
      obtain ⟨hconnected, hsuccess, hcarries⟩ :=
        hcarried nodeId valueType hnode dataValue' hread' hgood'
      exact ⟨hgood.2 ⟨hconnected, hsuccess⟩, hcarries⟩
    · intro hcovered nodeId valueType hnode dataValue' hread' hgood'
      obtain ⟨dataValue, hread, htype⟩ := hs.nodes nodeId valueType hnode.registered
      obtain ⟨_, hread₁, hiff⟩ := hturn.read_self hseparate hnode hread htype (hs.boards boardId)
      rw [hkept nodeId valueType hnode, hserver] at hread'
      cases Option.some.inj (hread'.symm.trans hread₁)
      obtain ⟨hcurrent, hcarries⟩ := hiff.2 (hcovered nodeId valueType hnode dataValue hread) hgood'
      obtain ⟨hconnected, hsuccess⟩ := hgood.1 hcurrent
      exact ⟨hconnected, hsuccess, hcarries⟩

end Run

/-! ## A board that falls back to the older requests -/

section Fallback

open Strings

/-- A server that holds its nodes in a function. -/
abbrev Nodes := UaNodeId → Option UaDataValue

instance : UaServer Nodes where
  read nodes nodeId := nodes nodeId
  write := Slots.put UaWrite.nodeId UaWrite.dataValue UaDataValue.valueType
  addVariable nodeId dataValue nodes :=
    match nodes nodeId with
    | none => some (Function.update nodes nodeId (some dataValue))
    | some _ => none
  typedStore := Slots.typedStore_put _ _ _
  read_addVariable := by
    intro nodeId dataValue nodes nodes' h
    cases hread : nodes nodeId with
    | some _ =>
      simp only [hread] at h
      cases h
    | none =>
      simp only [hread] at h
      cases h
      exact ⟨rfl, Function.update_self .., fun other hne ↦ Function.update_of_ne hne ..⟩

/-- The tag list has one entry, for the first field of the snapshots. -/
def goodEntry : Registry.Entry where
  subsystem := []
  name := []
  description := []
  nodeIdPattern := Registry.kNamespacePrefix ++ render braces (goodTemplate 0)
  valueType := .Boolean
  engineeringUnits := []
  implementationStatus := []
  controlOwner := []

abbrev goodNodeId : Text := (goodView 0).nodeId

def tagMachine : Machine where
  read _ := some "daphne.fake=no".toList
  stat _ := none
  getenv name := if name = "PDS_OPCUA_REGISTRY".toList then some "tags".toList else none

def tagReaders : Readers where
  stoi _ := .error []
  stoull _ := .error []
  stod _ := .error []
  parseInstanceList _ := .error []
  parseI2cDevices _ := .error []
  loadTagList _ := .ok [goodEntry]

/-- The configuration before the tag list is read. -/
def untaggedConfig : Config where
  configPath := "c".toList
  daphneFake := false
  registryTagListPath := "tags".toList
  daphneIds := [goodBoardId]
  daphneEndpoints := Function.update (fun _ ↦ none) goodBoardId
    (some "tcp://NP04-DAPHNE-015.CERN.CH:40001".toList)
  daphneRoutes := Function.update (fun _ ↦ none) goodBoardId (some "mezz/0".toList)

def tagExpansion : Registry.ExpansionConfig where
  instances := Function.update Registry.defaultExpansionConfig.instances boardIdName
    (some [goodBoardId])
  i2cDevices := Registry.defaultExpansionConfig.i2cDevices

def tagConfig : Config :=
  { untaggedConfig with
    registryExpansion := tagExpansion
    registryEntries := [goodEntry]
    registryNodes := [⟨goodEntry, goodNodeId⟩] }

theorem expand_goodEntry :
    Registry.expand [goodEntry] tagExpansion = .ok [⟨goodEntry, goodNodeId⟩] := by
  have hnames : names (goodTemplate 0) = [boardIdName] := rfl
  apply Registry.expand_single (goodField_isScalar 0).wellFormed
  · simp [hnames]
  · simp [hnames]
  · intro n _
    exact ⟨by decide, by decide⟩
  · rfl
  · rw [hnames]
    decide
  · simp [hnames, tagExpansion]
  · exact Nat.succ_pos _

theorem mainConfig_tagMachine :
    mainConfig tagMachine tagReaders "c".toList false = .ok tagConfig := by
  have hregistry : loadRegistry tagReaders untaggedConfig = .ok tagConfig := by
    change (Registry.expand [goodEntry] tagExpansion >>= _) = _
    rw [expand_goodEntry]
    rfl
  change (loadRegistry tagReaders untaggedConfig >>= _) >>= _ = _
  rw [hregistry]
  rfl

def fallbackSetting : Setting where
  config := tagConfig
  payloads :=
    { schema := goodSchema
      snapshot := parseGood
      testReg := fun _ ↦ some 0xDEADBEEF
      generalInfo := fun _ ↦ some ⟨⟨0⟩, ⟨0⟩, ⟨0⟩, ⟨0⟩, ⟨0⟩, ⟨0⟩, ⟨0⟩, ⟨0⟩⟩ }
  controlNs := 2
  ages := ⟨fun _ ↦ ⟨0⟩, fun _ _ ↦ false⟩

/-- A poll that is answered with the snapshot. -/
def nativeExchange : DaphneClient.Exchange := ⟨.ok goodPayload, .error [], .error [], 1⟩

/-- A poll whose request for a snapshot is not answered, while the older ones are. -/
def legacyExchange : DaphneClient.Exchange :=
  ⟨.error DaphneClient.receiveTimedOut, .ok [], .ok [], 2⟩

/-- One call of `updateNodes` for the one board. -/
def fallbackUpdate : List Event := [.beat, .board goodBoardId ⟨3, 3⟩]

def fallbackBefore : List Event :=
  .poll goodBoardId nativeExchange :: fallbackUpdate ++ [.poll goodBoardId legacyExchange]

theorem isUpdate_fallback : IsUpdate fallbackSetting fallbackUpdate := ⟨fun _ ↦ ⟨3, 3⟩, rfl⟩

theorem exists_starts : ∃ start : BridgeState Nodes, Starts fallbackSetting start := by
  obtain ⟨server, hserver⟩ : ∃ server : Nodes,
      buildRegistry fallbackSetting.controlNs fallbackSetting.config (fun _ ↦ none) = .ok server :=
    ⟨_, rfl⟩
  exact ⟨⟨fun boardId ↦ { client := ⟨true, false, boardId, 1⟩ }, 0, server⟩, fun _ ↦ rfl, rfl, _,
    hserver⟩

theorem isMeasurement_goodNodeId :
    IsMeasurement fallbackSetting goodBoardId goodNodeId .Boolean where
  registered := rfl
  below := ⟨['P'], rfl, by decide, by decide⟩

theorem not_covers_goodNodeId {status : DaphneStatus} (h : status.telemetryV8 = false) :
    ¬ Covers fallbackSetting goodBoardId status goodNodeId .Boolean := by
  rw [Covers, h]
  rintro ⟨suffix, hmem, heq⟩
  have hnode : goodNodeId = boardPrefix goodBoardId ++ ['P'] := rfl
  obtain rfl : ['P'] = suffix := List.append_cancel_left (hnode.symm.trans heq)
  revert hmem
  decide

/-- After the first poll a snapshot is published as current. -/
theorem polled_nativeExchange {board : DaphneRuntime}
    (hclient : board.client = ⟨true, false, goodBoardId, 1⟩) :
    let polled := board.polled fallbackSetting.payloads nativeExchange
    polled.currentGood = true ∧ polled.measurement.telemetryV8 = true ∧
      polled.measurement.telemetry = goodResponse ∧
      polled.client = ⟨true, false, goodBoardId, 2⟩ := by
  obtain ⟨snapshot, hsnapshot, hresponse⟩ := goodPayload_accepted
  have hpoll : DaphneClient.poll fallbackSetting.payloads nativeExchange board.client =
      (DaphneClient.telemetryStatus 1 snapshot, ⟨true, false, goodBoardId, 2⟩) := by
    rw [hclient]
    apply DaphneClient.poll_of_ok
    · rfl
    · rfl
    · exact DaphneClient.pollTelemetryV8_of_accepted rfl hsnapshot
  rw [DaphneRuntime.polled, hpoll]
  exact ⟨rfl, rfl, hresponse, rfl⟩

/-- After the second poll the scalars of the older requests are published. -/
theorem polled_legacyExchange {board : DaphneRuntime}
    (hclient : board.client = ⟨true, false, goodBoardId, 2⟩) :
    (board.polled fallbackSetting.payloads legacyExchange).measurement.telemetryV8 = false := by
  have hpoll : DaphneClient.poll fallbackSetting.payloads legacyExchange board.client =
      (DaphneClient.pollLegacy fallbackSetting.payloads legacyExchange DaphneClient.receiveTimedOut,
        ⟨true, false, goodBoardId, 3⟩) := by
    rw [hclient]
    rfl
  have hlegacy : (DaphneClient.pollLegacy fallbackSetting.payloads legacyExchange
      DaphneClient.receiveTimedOut).telemetryV8 = false := DaphneClient.pollLegacy_telemetryV8
  rw [DaphneRuntime.polled, hpoll]
  exact hlegacy

/-- Whatever a turn offers for the node from the snapshot is good. -/
theorem good_of_offers {board : DaphneRuntime} {moment : Moment} {value : UaVariant}
    {status : UaStatusCode} (hgood : board.currentGood = true)
    (hv8 : board.measurement.telemetryV8 = true)
    (htelemetry : board.measurement.telemetry = goodResponse)
    (hoffers : Offers fallbackSetting moment goodBoardId board goodNodeId .Boolean value status) :
    status = .good := by
  cases hoffers with
  | @native view _ hsample _ =>
    obtain ⟨views, hsamples, hmem⟩ := hsample
    rw [htelemetry] at hsamples
    rw [hsamples.unique samples_goodViews] at hmem
    obtain ⟨i, -, rfl⟩ := List.mem_map.1 hmem
    rw [hgood]
    rfl
  | legacy hlegacy => exact absurd (hlegacy.symm.trans hv8) Bool.false_ne_true

theorem mem_goodViews : goodView 0 ∈ goodViews :=
  List.mem_map_of_mem (List.mem_range.2 (by decide))

theorem fallbackBefore_takeWhile :
    (fallbackBefore ++ fallbackUpdate.takeWhile fun event ↦ event.turn ≠ some goodBoardId) =
      (.poll goodBoardId nativeExchange :: fallbackUpdate) ++
        [.poll goodBoardId legacyExchange, .beat] := rfl

theorem fallbackBefore_append : fallbackBefore ++ fallbackUpdate =
    (.poll goodBoardId nativeExchange :: fallbackUpdate) ++
      .poll goodBoardId legacyExchange :: fallbackUpdate := rfl

/-- A poll of the board and a call of `updateNodes`. -/
theorem run_polled {s : BridgeState Nodes} (hs : Consistent fallbackSetting s)
    (exchange : DaphneClient.Exchange) : ∃ s' writes,
    run fallbackSetting s (.poll goodBoardId exchange :: fallbackUpdate) = some s' ∧
    s'.daphnes goodBoardId =
      (s.daphnes goodBoardId).polled fallbackSetting.payloads exchange ∧
    TurnWrites fallbackSetting ⟨3, 3⟩ goodBoardId (s'.daphnes goodBoardId) writes ∧
    s'.server = writes.foldl (fun server write ↦ UaServer.write write server) s.server := by
  let polled : BridgeState Nodes :=
    { daphnes := Function.update s.daphnes goodBoardId
        ((s.daphnes goodBoardId).polled fallbackSetting.payloads exchange)
      heartbeat := s.heartbeat + 1
      server := s.server }
  have hboard : polled.daphnes goodBoardId =
      (s.daphnes goodBoardId).polled fallbackSetting.payloads exchange :=
    Function.update_self goodBoardId _ s.daphnes
  have hconsistent := consistent_polled exchange (hs.boards goodBoardId)
  obtain ⟨writes, hwrites, hturn⟩ := exists_turnWrites hconsistent ⟨3, 3⟩ polled.heartbeat
  rw [← hboard] at hwrites hturn
  have hrun : run fallbackSetting polled [.board goodBoardId ⟨3, 3⟩] = some _ :=
    run_cons (step_board hwrites) []
  exact ⟨_, writes, hrun, hboard, hturn, rfl⟩

/-- The node stays good while the poll that is published has no value for it. -/
theorem good_node_uncarried : ∃ start s s' : BridgeState Nodes,
    mainConfig tagMachine tagReaders "c".toList false = .ok fallbackSetting.config ∧
    Starts fallbackSetting start ∧ IsUpdate fallbackSetting fallbackUpdate ∧
    goodBoardId ∈ fallbackSetting.config.daphneIds ∧
    run fallbackSetting start (fallbackBefore ++
      fallbackUpdate.takeWhile fun event ↦ event.turn ≠ some goodBoardId) = some s ∧
    run fallbackSetting start (fallbackBefore ++ fallbackUpdate) = some s' ∧
    ¬ GoodCarried fallbackSetting goodBoardId (s.daphnes goodBoardId).status s'.server := by
  obtain ⟨start, hstart⟩ := exists_starts
  obtain ⟨empty, hbuilt⟩ := hstart.built
  obtain ⟨hseparate, hinitial⟩ := buildRegistry_ok hbuilt
  have hnode := isMeasurement_goodNodeId
  have hstartClient : (start.daphnes goodBoardId).client = ⟨true, false, goodBoardId, 1⟩ := by
    rw [hstart.daphnes]
    rfl
  -- The snapshot is published, and the node is good.
  obtain ⟨s₁, writes, hrun, hboard, hturn, hserver⟩ := run_polled hstart.consistent nativeExchange
  obtain ⟨hgood, hv8, htelemetry, hclient⟩ := polled_nativeExchange hstartClient
  rw [← hboard] at hgood hv8 htelemetry hclient
  have hcovers : Covers fallbackSetting goodBoardId (s₁.daphnes goodBoardId).measurement goodNodeId
      .Boolean := by
    rw [Covers, if_pos hv8]
    refine ⟨goodView 0, ⟨goodViews, ?_, mem_goodViews⟩, rfl⟩
    rw [htelemetry]
    exact samples_goodViews
  obtain ⟨dataValue, hread, htype, hoffers⟩ := hturn.read_of_covers hseparate hnode
    (hinitial goodNodeId .Boolean hnode.registered) rfl hcovers
  have hstatus := good_of_offers hgood hv8 htelemetry hoffers
  rw [← hserver] at hread
  -- The scalars are published, and the node is left alone.
  obtain ⟨s₁', hrun₁', hs₁⟩ := consistent_run hstart.consistent
    (.poll goodBoardId nativeExchange :: fallbackUpdate)
  obtain rfl : s₁' = s₁ := Option.some.inj (hrun₁'.symm.trans hrun)
  obtain ⟨s', writes', hrun', hboard', hturn', hserver'⟩ := run_polled hs₁ legacyExchange
  have hmeasurement := polled_legacyExchange hclient
  rw [← hboard'] at hmeasurement
  have hread' := hturn'.read_of_not_covers hseparate hnode hread htype
    (not_covers_goodNodeId hmeasurement)
  rw [← hserver'] at hread'
  let s : BridgeState Nodes :=
    { daphnes := Function.update s₁'.daphnes goodBoardId
        ((s₁'.daphnes goodBoardId).polled fallbackSetting.payloads legacyExchange)
      heartbeat := s₁'.heartbeat + 1
      server := s₁'.server }
  have hs : s.daphnes goodBoardId = s'.daphnes goodBoardId :=
    (Function.update_self goodBoardId _ s₁'.daphnes).trans hboard'.symm
  refine ⟨start, s, s', mainConfig_tagMachine, hstart, isUpdate_fallback,
    List.mem_singleton_self goodBoardId, ?_, ?_, ?_⟩
  · rw [fallbackBefore_takeWhile, run_append, hrun, Option.bind_some]
    rfl
  · rw [fallbackBefore_append, run_append, hrun, Option.bind_some, hrun']
  · intro hcarried
    rw [hs] at hcarried
    obtain ⟨hconnected, hsuccess, hcarries⟩ :=
      hcarried goodNodeId .Boolean hnode dataValue hread' hstatus
    have hgood' : (s'.daphnes goodBoardId).currentGood := by
      rw [DaphneRuntime.currentGood, hconnected, hsuccess]
      rfl
    have hconsistent :
        (s'.daphnes goodBoardId).Consistent fallbackSetting.payloads goodBoardId := by
      rw [hboard']
      exact consistent_polled legacyExchange (hs₁.boards goodBoardId)
    exact not_covers_goodNodeId hmeasurement (htype ▸ hcarries.covers hconsistent hgood')

/-- The run in which the node stays good. -/
theorem good_carried_iff_fallback : ∃ start s s' : BridgeState Nodes,
    run fallbackSetting start (fallbackBefore ++
      fallbackUpdate.takeWhile fun event ↦ event.turn ≠ some goodBoardId) = some s ∧
    run fallbackSetting start (fallbackBefore ++ fallbackUpdate) = some s' ∧
    (GoodCarried fallbackSetting goodBoardId (s.daphnes goodBoardId).status s'.server ↔
      GoodCovered fallbackSetting goodBoardId s) := by
  obtain ⟨start, hstart⟩ := exists_starts
  obtain ⟨s, s', h⟩ := good_carried_iff mainConfig_tagMachine hstart fallbackBefore fallbackUpdate
    isUpdate_fallback (List.mem_singleton_self goodBoardId)
  exact ⟨start, s, s', h⟩

end Fallback
end DaphneSc.Bridge
