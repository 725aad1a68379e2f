import DaphneSc.Bridge.SnapshotPublished

/-!
# One NodeId from two renderings

The registry and the telemetry walk fill in the same patterns with their own code and in their own
order: the registry from left to right, or with the I2C pair first, the walk with the board first.
Both arrive at the simultaneous substitution of all placeholders.
-/

namespace DaphneSc.Bridge.NodeIds

open Strings

/-- A pattern whose braces stand around placeholders only, no placeholder being empty or
repeated. -/
structure Pattern where
  template : Template Char
  wellFormed : WellFormed braces template
  ne_nil : ∀ n ∈ names template, n ≠ []
  nodup : (names template).Nodup

namespace Pattern

def text (p : Pattern) : Text := render braces p.template

def placeholders (p : Pattern) : List Text := names p.template

end Pattern

/-- Texts without braces for the board and for the placeholders of a pattern. Only the board id may
be empty. -/
structure Assignment (p : Pattern) where
  value : Text → Text
  board_plain : braces.Plain (value boardIdName)
  plain : ∀ n ∈ p.placeholders, braces.Plain (value n)
  ne_nil : ∀ n ∈ p.placeholders, n ≠ boardIdName → value n ≠ []

variable {p : Pattern} (a : Assignment p)

/-- The simultaneous substitution of all placeholders. -/
def Assignment.nodeId {p : Pattern} (a : Assignment p) : Text := substitute a.value p.template

/-- The pattern with the board id substituted, as `visitWireSamples` has it before it looks for the
placeholders. -/
def Assignment.boardPattern {p : Pattern} (a : Assignment p) : Text :=
  V8.replaceAll p.text (placeholder boardIdName) (a.value boardIdName)

theorem boardIdName_plain : braces.Plain boardIdName := ⟨by decide, by decide⟩

theorem boardPattern_eq :
    a.boardPattern = render braces (assign boardIdName (a.value boardIdName) p.template) :=
  replaceAll_render p.wellFormed boardIdName_plain

theorem extractPlaceholders_boardPattern :
    V8.extractPlaceholders a.boardPattern = .ok (p.placeholders.filter (· ≠ boardIdName)) := by
  rw [boardPattern_eq, V8.extractPlaceholders_render (p.wellFormed.assign a.board_plain),
    names_assign]
  rfl

/-- A pattern with no placeholder but the board is the NodeId of a scalar field. -/
theorem boardPattern_eq_nodeId (h : p.placeholders.filter (· ≠ boardIdName) = []) :
    a.boardPattern = a.nodeId := by
  have hnames : names (assign boardIdName (a.value boardIdName) p.template) = [] := by
    rw [names_assign]
    exact h
  calc
    a.boardPattern = render braces (assign boardIdName (a.value boardIdName) p.template) :=
        boardPattern_eq a
    _ = substitute a.value (assign boardIdName (a.value boardIdName) p.template) :=
        render_eq_substitute hnames
    _ = a.nodeId := substitute_assign _ _

theorem renderIndexedNodeId_boardPattern {entry : V8.IndexedEntry}
    (h : entry.HasKeys a.value (p.placeholders.filter (· ≠ boardIdName))) :
    V8.renderIndexedNodeId a.boardPattern entry (p.placeholders.filter (· ≠ boardIdName)) =
      .ok a.nodeId := by
  have hnames : names (assign boardIdName (a.value boardIdName) p.template) =
      p.placeholders.filter (· ≠ boardIdName) := names_assign
  have hmem : ∀ n ∈ p.placeholders.filter (· ≠ boardIdName),
      n ∈ p.placeholders ∧ n ≠ boardIdName := by
    intro n hn
    simpa using hn
  rw [← hnames] at h ⊢
  rw [boardPattern_eq, V8.renderIndexedNodeId_render (p.wellFormed.assign a.board_plain) _ _ h,
    substitute_assign]
  · rfl
  · intro n hn
    exact a.plain n (hmem n (hnames ▸ hn)).1
  · intro n hn
    obtain ⟨hn, hboard⟩ := hmem n (hnames ▸ hn)
    exact a.ne_nil n hn hboard

section Walk

open Program V8

variable {field : FieldDescriptor} {sample? : Option Sample} {entries : List IndexedEntry}
  {entry : IndexedEntry} {schema : Schema} {telemetry : BoardTelemetry}

/-- An entry with the assigned keys is shown under the substitution. -/
theorem meets_visitField_indexed (hpattern : field.opcuaNodePattern = some p.text)
    (hrepeated : field.isRepeated = true) (hentry : entry ∈ entries)
    (hkeys : entry.HasKeys a.value (p.placeholders.filter (· ≠ boardIdName))) :
    Meets (fun view : WireSampleView ↦ view.nodeId = a.nodeId ∧ entry.sample = some view.sample)
      (fun _ visitor ↦ visitField (a.value boardIdName) field sample? entries visitor) := by
  have hextract := extractPlaceholders_boardPattern a
  have hrender := renderIndexedNodeId_boardPattern a hkeys
  unfold visitField
  split
  · next pattern _ _ _ hpattern' _ _ _ =>
    obtain rfl : p.text = pattern := Option.some.inj (hpattern.symm.trans hpattern')
    apply meets_failIf
    intro _
    apply meets_ofResult
    intro placeholders hplaceholders
    obtain rfl := Except.ok.inj (hextract.symm.trans hplaceholders)
    simp only [hrepeated, if_true]
    apply meets_failIf
    intro _
    apply meets_forM (Q := fun _ ↦ True) hentry
    · exact fun other _ ↦ isWalk_ofResult _ fun view _ ↦ isWalk_visitor trivial
    · apply meets_ofResult
      intro view hview
      apply meets_visitor
      unfold indexedView at hview
      split at hview
      · next sample _ hsample =>
        obtain ⟨nodeId, hnodeId, hview⟩ := Results.bind_ok_iff.1 hview
        obtain ⟨hid, hsampleEq⟩ := makeSampleView_ok hview
        obtain rfl := Except.ok.inj (hrender.symm.trans hnodeId)
        exact ⟨hid, hsample.trans (congrArg some hsampleEq.symm)⟩
      · cases hview
  · exact meets_fail _

/-- A scalar field is shown under the substitution. -/
theorem meets_visitField_scalar (hpattern : field.opcuaNodePattern = some p.text)
    (hscalar : field.isRepeated = false) :
    Meets (fun view : WireSampleView ↦ view.nodeId = a.nodeId ∧ sample? = some view.sample)
      (fun _ visitor ↦ visitField (a.value boardIdName) field sample? entries visitor) := by
  have hextract := extractPlaceholders_boardPattern a
  unfold visitField
  split
  · next pattern _ _ _ hpattern' _ _ _ =>
    obtain rfl : p.text = pattern := Option.some.inj (hpattern.symm.trans hpattern')
    apply meets_failIf
    intro _
    apply meets_ofResult
    intro placeholders hplaceholders
    obtain rfl := Except.ok.inj (hextract.symm.trans hplaceholders)
    simp only [hscalar]
    apply meets_failIf
    intro hnone
    apply meets_okOr
    intro sample hsample
    apply meets_ofResult
    intro view hview
    apply meets_visitor
    obtain ⟨hid, hsampleEq⟩ := makeSampleView_ok hview
    exact ⟨hid.trans (boardPattern_eq_nodeId a (not_not.mp hnone)),
      hsample.trans (congrArg some hsampleEq.symm)⟩
  · exact meets_fail _

theorem visits_visitField_indexed (hpattern : field.opcuaNodePattern = some p.text)
    (hrepeated : field.isRepeated = true) (hunit : field.engineeringUnit.isSome)
    (hsource : ∃ source, field.dataSource = some source ∧ source ≠ [])
    (howner : ∃ owner, field.controlOwner = some owner ∧ owner ≠ [])
    (hkeys : entry.HasKeys a.value (p.placeholders.filter (· ≠ boardIdName)))
    (hnames : p.placeholders.filter (· ≠ boardIdName) ≠ []) {sample : Sample}
    {metadata : SampleMetadata} (hsample : entry.sample = some sample)
    (hmetadata : sample.metadata? = some metadata) :
    Visits (fun _ visitor ↦ visitField (a.value boardIdName) field sample? [entry] visitor)
      [⟨a.nodeId, sample, metadata⟩] (.ok ⟨⟩) := by
  obtain ⟨unit, hunit⟩ := Option.isSome_iff_exists.1 hunit
  obtain ⟨source, hsource, hsourceNe⟩ := hsource
  obtain ⟨owner, howner, hownerNe⟩ := howner
  have hextract := extractPlaceholders_boardPattern a
  have hrender := renderIndexedNodeId_boardPattern a hkeys
  have hview : indexedView a.boardPattern (p.placeholders.filter (· ≠ boardIdName)) entry =
      .ok ⟨a.nodeId, sample, metadata⟩ := by
    unfold indexedView
    rw [hkeys.sampleField, hsample]
    dsimp only
    rw [hrender]
    change makeSampleView a.nodeId sample = _
    rw [makeSampleView, hmetadata]
  have hpattern' : V8.replaceAll p.text (placeholder boardIdName) (a.value boardIdName) =
      a.boardPattern := rfl
  intro σ visitor
  simp only [visitField, hpattern, hunit, hsource, howner, hpattern', hextract, hrepeated, hnames,
    hsourceNe, hownerNe, failIf, or_self, if_false, if_true, ofResult_ok, pure_bind,
    List.cons_ne_nil]
  change ((ofResult (indexedView _ _ entry) >>= visitor) >>= fun _ ↦ pure PUnit.unit) = _
  rw [hview, bind_pure_unit]
  exact visits_visitor _ σ visitor

/-- What is met in a field of the schema is among the samples. -/
theorem exists_sample {P : WireSampleView → Prop} {views : List WireSampleView} {boardId : Text}
    {index : ℕ} (hviews : Samples schema telemetry boardId views)
    (hfield : (field, index) ∈ schema.fields.zipIdx)
    (h : Meets P fun _ visitor ↦
      visitField boardId field (telemetry.sample index) (telemetry.entries index) visitor) :
    ∃ view ∈ views, P view := by
  refine Meets.exists_mem ?_ hviews
  apply meets_failIf
  intro _
  refine meets_forM (Q := fun _ ↦ True) hfield (fun other _ ↦ ?_) h
  exact isWalk_visitField (fun _ _ _ _ _ _ ↦ trivial) fun _ _ _ _ _ _ _ ↦ trivial

end Walk

/-- For every pattern and assignment the walk over the telemetry renders the simultaneous
substitution, for a scalar field and for an entry with the assigned keys, and shows its visitor the
sample under it; and the registry expands the same pattern to it: to nothing else when only this
assignment is configured, and among its nodes whenever an expansion over any configuration that
offers the assignment succeeds. -/
theorem rendered_and_expanded :
    V8.extractPlaceholders a.boardPattern = .ok (p.placeholders.filter (· ≠ boardIdName)) ∧
      (p.placeholders.filter (· ≠ boardIdName) = [] → a.boardPattern = a.nodeId) ∧
      (∀ entry : V8.IndexedEntry,
        entry.HasKeys a.value (p.placeholders.filter (· ≠ boardIdName)) →
        V8.renderIndexedNodeId a.boardPattern entry (p.placeholders.filter (· ≠ boardIdName)) =
          .ok a.nodeId) ∧
      (∀ schema telemetry views field index,
        V8.Samples schema telemetry (a.value boardIdName) views →
        (field, index) ∈ schema.fields.zipIdx → field.opcuaNodePattern = some p.text →
        if field.isRepeated then
          ∀ entry ∈ telemetry.entries index,
            entry.HasKeys a.value (p.placeholders.filter (· ≠ boardIdName)) →
            ∃ view ∈ views, view.nodeId = a.nodeId ∧ entry.sample = some view.sample
        else ∃ view ∈ views, view.nodeId = a.nodeId ∧ telemetry.sample index = some view.sample) ∧
      ∀ entry : Registry.Entry, Registry.stringNodeId entry.nodeIdPattern = .ok p.text →
        Registry.expand [entry] (.only a.value) = .ok [⟨entry, a.nodeId⟩] ∧
        ∀ entries config nodes, entry ∈ entries → config.Offers a.value p.placeholders →
          Registry.expand entries config = .ok nodes → ⟨entry, a.nodeId⟩ ∈ nodes := by
  refine ⟨extractPlaceholders_boardPattern a, boardPattern_eq_nodeId a,
    fun entry hentry ↦ renderIndexedNodeId_boardPattern a hentry, ?_, fun entry hid ↦ ⟨?_, ?_⟩⟩
  · intro schema telemetry views field index hviews hfield hpattern
    split
    · next hrepeated =>
      intro entry hentry hkeys
      exact exists_sample hviews hfield (meets_visitField_indexed a hpattern hrepeated hentry hkeys)
    · next hscalar =>
      exact exists_sample hviews hfield
        (meets_visitField_scalar a hpattern (Bool.eq_false_iff.mpr hscalar))
  · exact Registry.expand_only p.wellFormed p.ne_nil p.nodup a.plain hid
  · intro entries config nodes hentry hoffers hnodes
    exact Registry.mem_expand p.wellFormed p.ne_nil p.nodup a.plain hid hentry hoffers hnodes

/-- The pattern `DAPHNE.Boards.{BoardId}.I2C.{Bus}.{Address}.Present`. -/
def i2cPattern : Pattern where
  template := [.text "DAPHNE.Boards.".toList, .slot boardIdName, .text ".I2C.".toList,
    .slot Registry.busName, .text ".".toList, .slot Registry.addressName,
    .text ".Present".toList]
  wellFormed := by
    simp only [wellFormed_cons, wellFormed_nil, Segment.Plain, Delimiters.Plain]
    decide
  ne_nil := by decide
  nodup := by decide

def i2cAssignment : Assignment i2cPattern where
  value n :=
    if n = boardIdName then "015".toList
    else if n = Registry.busName then "1".toList
    else "0x10".toList
  board_plain := ⟨by decide, by decide⟩
  plain := by
    simp only [Delimiters.Plain]
    decide
  ne_nil := by decide

def i2cEntry : Registry.Entry where
  subsystem := "I2C".toList
  name := "Present".toList
  description := "Device answers".toList
  nodeIdPattern := Registry.kNamespacePrefix ++ i2cPattern.text
  engineeringUnits := []
  implementationStatus := []
  controlOwner := []

/-- A field with this pattern, and its entry for this device. -/
def i2cField : V8.FieldDescriptor where
  fullName := "BoardTelemetry.i2c_device_present".toList
  opcuaNodePattern := some i2cPattern.text
  engineeringUnit := some []
  dataSource := some "board".toList
  controlOwner := some "board".toList
  isRepeated := true

def i2cDevice : V8.IndexedEntry where
  descriptor := {
    fullName := "I2cDeviceBooleanSample".toList
    fields := [⟨"bus".toList, .string⟩, ⟨"address".toList, .string⟩, ⟨"sample".toList, .message⟩] }
  getString index := if index = 0 then "1".toList else "0x10".toList
  sample := some OpcUaSnapshotWriter.goodSample

theorem i2cNames : i2cPattern.placeholders.filter (· ≠ boardIdName) =
    [Registry.busName, Registry.addressName] := by
  decide

theorem i2cDevice_hasKeys : i2cDevice.HasKeys i2cAssignment.value
    (i2cPattern.placeholders.filter (· ≠ boardIdName)) where
  length := by decide
  sampleField := by decide
  string := by decide
  keys := by
    intro i name hname
    rw [i2cNames] at hname
    rcases i with _ | _ | i
    · cases hname
      decide
    · cases hname
      decide
    · cases hname

/-- The schema that begins with this field and has scalar fields after it. -/
def i2cSchema : V8.Schema where
  fields := i2cField :: (List.range 315).map OpcUaSnapshotWriter.goodField
  sourceSha256 := "00".toList
  nulFree := by
    intro field hfield pattern hpattern
    cases hfield with
    | head =>
      obtain rfl : i2cPattern.text = pattern := Option.some.inj hpattern
      unfold NulFree
      decide
    | tail _ hfield =>
      obtain ⟨i, hi, rfl⟩ := List.mem_map.1 hfield
      refine OpcUaSnapshotWriter.goodSchema.nulFree _ (List.mem_map_of_mem ?_) pattern hpattern
      exact List.mem_range.mpr ((List.mem_range.mp hi).trans (by decide))

def i2cTelemetry : V8.BoardTelemetry where
  sample _ := some OpcUaSnapshotWriter.goodSample
  entries index := if index = 0 then [i2cDevice] else []

def i2cViews : List V8.WireSampleView :=
  (List.range V8.kExpectedDeclaredWireFields).flatMap fun i ↦
    if i = 0 then [⟨i2cAssignment.nodeId, OpcUaSnapshotWriter.goodSample,
      OpcUaSnapshotWriter.goodMetadata⟩]
    else [OpcUaSnapshotWriter.goodView (i - 1)]

theorem i2cField_visits : Program.Visits
    (fun _ visitor ↦ V8.visitField (i2cAssignment.value boardIdName) i2cField
      (some OpcUaSnapshotWriter.goodSample) [i2cDevice] visitor)
    [⟨i2cAssignment.nodeId, OpcUaSnapshotWriter.goodSample, OpcUaSnapshotWriter.goodMetadata⟩]
    (.ok ⟨⟩) := by
  apply visits_visitField_indexed i2cAssignment rfl rfl rfl
    ⟨_, rfl, by decide⟩ ⟨_, rfl, by decide⟩ i2cDevice_hasKeys _ rfl rfl
  rw [i2cNames]
  exact List.cons_ne_nil _ _

theorem samples_i2cViews : V8.Samples i2cSchema i2cTelemetry "015".toList i2cViews := by
  apply V8.samples_of_fields
  · simp [i2cSchema]
  · intro field hfield
    have hget := (List.mem_zipIdx' hfield).2
    obtain ⟨field, _ | i⟩ := field
    · obtain rfl : field = i2cField := hget
      exact i2cField_visits
    · have hscalar := OpcUaSnapshotWriter.goodField_isScalar i
      simp only [i2cSchema, List.getElem_cons_succ, List.getElem_map, List.getElem_range] at hget
      rw [← hget] at hscalar
      exact V8.visits_visitField_scalar hscalar ⟨by decide, by decide⟩ rfl

theorem rendered_and_expanded_i2c :
    (∃ view ∈ i2cViews, view.nodeId = "DAPHNE.Boards.015.I2C.1.0x10.Present".toList ∧
      i2cDevice.sample = some view.sample) ∧
    Registry.expand [i2cEntry] (.only i2cAssignment.value) =
      .ok [⟨i2cEntry, "DAPHNE.Boards.015.I2C.1.0x10.Present".toList⟩] := by
  have hnodeId : i2cAssignment.nodeId = "DAPHNE.Boards.015.I2C.1.0x10.Present".toList := by decide
  have hrendered := rendered_and_expanded i2cAssignment
  rw [← hnodeId]
  refine ⟨?_, (hrendered.2.2.2.2 i2cEntry rfl).1⟩
  exact hrendered.2.2.2.1 i2cSchema i2cTelemetry i2cViews i2cField 0 samples_i2cViews
    List.mem_cons_self rfl i2cDevice List.mem_cons_self i2cDevice_hasKeys

end DaphneSc.Bridge.NodeIds
