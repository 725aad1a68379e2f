import DaphneSc.Bridge.OpcUaSnapshotWriter
import Mathlib.Data.List.Nodup

/-!
# What is published of a validated snapshot

The validator and the writer walk the message on their own. Both walks see the same samples, and
what the validator has refused the writer need not expect: no NodeId comes twice, a good or stale
sample has a value, and the walk does not fail halfway.
-/

namespace DaphneSc.Bridge.V8

open Program Strings

/-! ## The samples of a message -/

/-- Strings that survive as C strings. -/
def Sample.NulFree : Sample → Prop
  | .string _ (some value) => Bridge.NulFree value
  | _ => True

structure BoardTelemetry.NulFree (telemetry : BoardTelemetry) : Prop where
  sample : ∀ index, ∀ sample ∈ telemetry.sample index, sample.NulFree
  key : ∀ index, ∀ entry ∈ telemetry.entries index, ∀ key, Bridge.NulFree (entry.getString key)
  entrySample : ∀ index, ∀ entry ∈ telemetry.entries index, ∀ sample ∈ entry.sample, sample.NulFree

structure WireSampleView.NulFree (view : WireSampleView) : Prop where
  nodeId : Bridge.NulFree view.nodeId
  sample : view.sample.NulFree

/-- The samples of a message, in the order in which a walk visits them. -/
def Samples (schema : Schema) (telemetry : BoardTelemetry) (boardId : Text)
    (views : List WireSampleView) : Prop :=
  Visits (fun _ visitor ↦ visitWireSamples schema telemetry boardId visitor) views (.ok ⟨⟩)

section Walk

variable {boardId pattern nodeId token replacement : Text} {field : FieldDescriptor}
  {sample : Sample} {sample? : Option Sample} {entry : IndexedEntry} {entries : List IndexedEntry}
  {placeholders : List Text} {view : WireSampleView} {schema : Schema} {telemetry : BoardTelemetry}

theorem nulFree_replaceAll (h : NulFree pattern) (h' : NulFree replacement) :
    NulFree (replaceAll pattern token replacement) :=
  fun hmem ↦ (mem_replaceAll hmem).elim h h'

theorem makeSampleView_ok (h : makeSampleView nodeId sample = .ok view) :
    view.nodeId = nodeId ∧ view.sample = sample := by
  rw [makeSampleView] at h
  split at h
  · cases h
  · cases h
    exact ⟨rfl, rfl⟩

theorem nulFree_renderIndexedNodeId (hpattern : NulFree pattern)
    (hkey : ∀ key, NulFree (entry.getString key))
    (h : renderIndexedNodeId pattern entry placeholders = .ok nodeId) : NulFree nodeId := by
  rw [renderIndexedNodeId] at h
  split at h
  · cases h
  · next sampleField _ =>
    split at h
    · cases h
    · obtain ⟨rendered, hfold, hend⟩ := Results.bind_ok_iff.1 h
      have hrendered : NulFree rendered := by
        apply Results.foldlM_ok_keeps _ hfold hpattern
        intro nodeId key nodeId' hstep hnodeId
        rw [fillKey] at hstep
        split at hstep
        · cases hstep
        · split at hstep
          · cases hstep
          · cases hstep
            exact nulFree_replaceAll hnodeId (hkey _)
      split at hend
      · cases hend
      · cases hend
        exact hrendered

theorem nulFree_indexedView (hpattern : NulFree pattern)
    (hkey : ∀ key, NulFree (entry.getString key)) (hsample : ∀ s ∈ entry.sample, s.NulFree)
    (h : indexedView pattern placeholders entry = .ok view) : view.NulFree := by
  rw [indexedView] at h
  split at h
  · next s _ hs =>
    obtain ⟨nodeId, hnodeId, hview⟩ := Results.bind_ok_iff.1 h
    obtain ⟨hid, hsampleEq⟩ := makeSampleView_ok hview
    constructor
    · rw [hid]
      exact nulFree_renderIndexedNodeId hpattern hkey hnodeId
    · rw [hsampleEq]
      exact hsample s hs
  · cases h

/-- A walk over a field visits the views that can be made of its samples. -/
theorem isWalk_visitField {P : WireSampleView → Prop}
    (hscalar : ∀ pattern ∈ field.opcuaNodePattern, ∀ s ∈ sample?, ∀ view,
      makeSampleView (replaceAll pattern (placeholder boardIdName) boardId) s = .ok view → P view)
    (hindexed : ∀ pattern ∈ field.opcuaNodePattern, ∀ entry ∈ entries, ∀ placeholders view,
      indexedView (replaceAll pattern (placeholder boardIdName) boardId) placeholders entry =
        .ok view → P view) :
    IsWalk P (fun _ visitor ↦ visitField boardId field sample? entries visitor) := by
  unfold visitField
  split
  · next pattern _ dataSource controlOwner hpattern _ _ _ =>
    apply isWalk_failIf
    intro _
    apply isWalk_ofResult
    intro placeholders _
    by_cases hrepeated : field.isRepeated
    · simp only [hrepeated, if_true]
      apply isWalk_failIf
      intro _
      apply isWalk_forM
      intro entry hmem
      apply isWalk_ofResult
      intro view hview
      exact isWalk_visitor (hindexed pattern hpattern entry hmem placeholders view hview)
    · simp only [hrepeated]
      apply isWalk_failIf
      intro _
      apply isWalk_okOr
      intro s hs
      apply isWalk_ofResult
      intro view hview
      exact isWalk_visitor (hscalar pattern hpattern s hs view hview)
  · exact isWalk_fail _

theorem isWalk_visitWireSamples {P : WireSampleView → Prop}
    (hfield : ∀ field ∈ schema.fields.zipIdx, IsWalk P fun _ visitor ↦
      visitField boardId field.1 (telemetry.sample field.2) (telemetry.entries field.2) visitor) :
    IsWalk P (fun _ visitor ↦ visitWireSamples schema telemetry boardId visitor) := by
  apply isWalk_failIf
  intro _
  exact isWalk_forM _ hfield

theorem isWalk_nulFree (hboard : NulFree boardId) (htelemetry : telemetry.NulFree) :
    IsWalk WireSampleView.NulFree
      (fun _ visitor ↦ visitWireSamples schema telemetry boardId visitor) := by
  apply isWalk_visitWireSamples
  intro field hmem
  have hpattern : ∀ pattern ∈ field.1.opcuaNodePattern,
      NulFree (replaceAll pattern (placeholder boardIdName) boardId) := fun pattern hpattern ↦
    nulFree_replaceAll (schema.nulFree field.1 (List.fst_mem_of_mem_zipIdx hmem) pattern hpattern)
      hboard
  apply isWalk_visitField
  · intro pattern hmem' s hs view hview
    obtain ⟨hid, hsampleEq⟩ := makeSampleView_ok hview
    exact ⟨hid ▸ hpattern pattern hmem', hsampleEq ▸ htelemetry.sample field.2 s hs⟩
  · intro pattern hmem' entry hentry placeholders view hview
    exact nulFree_indexedView (hpattern pattern hmem') (htelemetry.key field.2 entry hentry)
      (htelemetry.entrySample field.2 entry hentry) hview

theorem isWalk_samples :
    IsWalk (fun _ ↦ True) (fun _ visitor ↦ visitWireSamples schema telemetry boardId visitor) :=
  isWalk_visitWireSamples fun _ _ ↦
    isWalk_visitField (fun _ _ _ _ _ _ ↦ trivial) fun _ _ _ _ _ _ _ ↦ trivial

end Walk

/-! ## What validation accepts -/

/-- What quality and value of a sample say together. -/
structure WireSampleView.Valid (view : WireSampleView) : Prop where
  value : view.metadata.quality = .good ∨ view.metadata.quality = .stale → view.hasValue
  noValue : view.metadata.quality = .unavailable ∨ view.metadata.quality = .notApplicable →
    view.hasValue = false
  finite : view.sample.nonFinite = false
  specified : view.metadata.quality ≠ .unspecified
  recognized : ∀ value, view.metadata.quality ≠ .unrecognized value

variable {boardId : Text} {view : WireSampleView} {views : List WireSampleView} {s s' : Validation}

/-- Validation ends without an error on valid samples only, and only counts. -/
theorem wp_validateSample (view : WireSampleView) (s : Validation) :
    wp (validateSample view)
      (fun _ s' ↦ view.Valid ∧ s'.nodeIds = s.nodeIds ∧ s'.result.response = s.result.response)
      (fun _ _ ↦ ¬ view.Valid) s := by
  simp only [validateSample, count, wp_bind, wp_modify, wp_failIf]
  refine ⟨fun hvalue ↦ ⟨fun hnoValue ↦ ⟨fun hfinite ↦ ?_, ?_⟩, ?_⟩, ?_⟩
  · have hvalid : view.metadata.quality ≠ .unspecified →
        (∀ value, view.metadata.quality ≠ .unrecognized value) → view.Valid := by
      intro hspecified hrecognized
      constructor
      · exact fun hquality ↦ by simpa using not_and.1 hvalue hquality
      · exact fun hquality ↦ by simpa using not_and.1 hnoValue hquality
      · simpa using hfinite
      · exact hspecified
      · exact hrecognized
    cases hquality : view.metadata.quality with
    | unspecified => exact fun h ↦ h.specified hquality
    | unrecognized value => exact fun h ↦ h.recognized value hquality
    | good | stale | invalid | unavailable | notApplicable =>
      exact ⟨hvalid (by simp [hquality]) (by simp [hquality]), rfl, rfl⟩
  · intro hnonFinite h
    exact Bool.false_ne_true (h.finite.symm.trans hnonFinite)
  · rintro ⟨hquality, hhas⟩ h
    exact Bool.false_ne_true ((h.noValue hquality).symm.trans hhas)
  · rintro ⟨hquality, hmissing⟩ h
    exact hmissing (h.value hquality)

/-- What validation asks of a sample, given the NodeIds seen before. -/
structure WireSampleView.Acceptable (view : WireSampleView) (boardId : Text)
    (nodeIds : List Text) : Prop where
  onBoard : (boardPrefix boardId).isPrefixOf view.nodeId
  fresh : view.nodeId ∉ nodeIds
  valid : view.Valid

theorem wp_validateView (boardId : Text) (view : WireSampleView) (s : Validation) :
    wp (validateView boardId view)
      (fun _ s' ↦ view.Acceptable boardId s.nodeIds ∧ s'.nodeIds = view.nodeId :: s.nodeIds ∧
        s'.result.response = s.result.response)
      (fun _ _ ↦ ¬ view.Acceptable boardId s.nodeIds) s := by
  simp only [validateView, wp_bind, wp_failIf, wp_get, wp_set]
  refine ⟨fun hboard ↦ ⟨fun hfresh ↦ ?_, fun hseen h ↦ h.fresh hseen⟩,
    fun houtside h ↦ houtside h.onBoard⟩
  apply wp_mono (wp_validateSample view _)
  · rintro _ s' ⟨hvalid, hnodeIds, hresponse⟩
    exact ⟨⟨not_not.1 hboard, hfresh, hvalid⟩, hnodeIds, hresponse⟩
  · exact fun _ _ hinvalid h ↦ hinvalid h.valid

/-- Validation of a list of samples succeeds on acceptable samples with distinct NodeIds. -/
structure AllAcceptable (boardId : Text) (nodeIds : List Text) (views : List WireSampleView) :
    Prop where
  nodup : (views.map WireSampleView.nodeId).Nodup
  acceptable : ∀ view ∈ views, view.Acceptable boardId nodeIds

theorem allAcceptable_cons {nodeIds : List Text} :
    AllAcceptable boardId nodeIds (view :: views) ↔
      view.Acceptable boardId nodeIds ∧ AllAcceptable boardId (view.nodeId :: nodeIds) views := by
  constructor
  · rintro ⟨hnodup, hacceptable⟩
    rw [List.map_cons, List.nodup_cons] at hnodup
    obtain ⟨hview, hviews⟩ := List.forall_mem_cons.1 hacceptable
    refine ⟨hview, hnodup.2, fun other hother ↦ ?_⟩
    obtain ⟨honBoard, hfresh, hvalid⟩ := hviews other hother
    refine ⟨honBoard, fun hmem ↦ ?_, hvalid⟩
    rcases List.mem_cons.1 hmem with heq | hseen
    · exact hnodup.1 (heq ▸ List.mem_map_of_mem hother)
    · exact hfresh hseen
  · rintro ⟨hview, hnodup, hviews⟩
    constructor
    · rw [List.map_cons, List.nodup_cons]
      refine ⟨fun hmem ↦ ?_, hnodup⟩
      obtain ⟨other, hother, heq⟩ := List.mem_map.1 hmem
      exact (hviews other hother).fresh (heq ▸ List.mem_cons_self)
    · rw [List.forall_mem_cons]
      refine ⟨hview, fun other hother ↦ ?_⟩
      obtain ⟨honBoard, hfresh, hvalid⟩ := hviews other hother
      exact ⟨honBoard, fun hmem ↦ hfresh (List.mem_cons_of_mem _ hmem), hvalid⟩

theorem wp_validateViews (boardId : Text) (views : List WireSampleView) (s : Validation) :
    wp (views.forM (validateView boardId))
      (fun _ s' ↦ AllAcceptable boardId s.nodeIds views ∧
        s'.nodeIds = (views.map WireSampleView.nodeId).reverse ++ s.nodeIds ∧
        s'.result.response = s.result.response)
      (fun _ _ ↦ ¬ AllAcceptable boardId s.nodeIds views) s := by
  induction views generalizing s with
  | nil => exact ⟨⟨List.nodup_nil, fun _ h ↦ absurd h List.not_mem_nil⟩, rfl, rfl⟩
  | cons view views ih =>
    change wp (validateView boardId view >>= fun _ ↦ views.forM (validateView boardId)) _ _ s
    rw [wp_bind]
    apply wp_mono (wp_validateView boardId view s)
    · rintro _ s' ⟨hview, hnodeIds, hresponse⟩
      have hrest := ih s'
      rw [hnodeIds, hresponse] at hrest
      apply wp_mono hrest
      · rintro _ s'' ⟨hviews, hnodeIds', hresponse'⟩
        refine ⟨allAcceptable_cons.2 ⟨hview, hviews⟩, ?_, hresponse'⟩
        rw [hnodeIds', List.map_cons, List.reverse_cons, List.append_assoc]
        rfl
      · exact fun _ _ hrefused h ↦ hrefused (allAcceptable_cons.1 h).2
    · exact fun _ _ hrefused h ↦ hrefused (allAcceptable_cons.1 h).1

/-- The strings of a response that reach OPC-UA. -/
structure ReadTelemetrySnapshotResponse.NulFree (response : ReadTelemetrySnapshotResponse) :
    Prop where
  boardId : Bridge.NulFree response.boardId
  telemetry : ∀ telemetry ∈ response.telemetry, telemetry.NulFree

section Accepted

variable {schema : Schema} {parseFromString : List UInt8 → Option ReadTelemetrySnapshotResponse}
  {payload : List UInt8} {requestSequence : UInt64} {snapshot : ValidatedSnapshot}
  {response : ReadTelemetrySnapshotResponse} {telemetry : BoardTelemetry}

theorem parseAndValidate_ok
    (h : parseAndValidate schema parseFromString payload boardId requestSequence = .ok snapshot) :
    ∃ response telemetry, parseFromString payload = some response ∧ response.boardId = boardId ∧
      response.telemetry = some telemetry ∧
      validateTelemetry schema response telemetry boardId = .ok snapshot := by
  rw [parseAndValidate] at h
  split at h
  · cases h
  · next response hparse =>
    by_cases hboard : response.boardId = boardId
    · cases htelemetry : response.telemetry with
      | none =>
        simp only [htelemetry] at h
        split_ifs at h
      | some telemetry =>
        refine ⟨response, telemetry, hparse, hboard, htelemetry, ?_⟩
        simp only [htelemetry] at h
        split_ifs at h
        exact h
    · split_ifs at h

/-- A response that says the right things about itself is walked. -/
theorem parseAndValidate_eq (hparse : parseFromString payload = some response)
    (hsuccess : response.success = true) (hmajor : response.schemaMajor = 2)
    (hsha : response.schemaSourceSha256 = schema.sourceSha256)
    (hrevision : response.contractRevision ≠ []) (hboard : response.boardId = boardId)
    (hsequence : response.requestSequence = requestSequence)
    (htelemetry : response.telemetry = some telemetry) :
    parseAndValidate schema parseFromString payload boardId requestSequence =
      validateTelemetry schema response telemetry boardId := by
  rw [parseAndValidate, hparse]
  simp only [hsuccess, hmajor, hsha, hrevision, hboard, hsequence, htelemetry, ne_eq,
    not_true_eq_false, if_false]

/-- A validated snapshot has samples that the validator has found acceptable. -/
theorem validateTelemetry_ok {P : WireSampleView → Prop}
    (hwalk : IsWalk P fun _ visitor ↦ visitWireSamples schema telemetry boardId visitor)
    (h : validateTelemetry schema response telemetry boardId = .ok snapshot) :
    snapshot.response = response ∧ ∃ views, Samples schema telemetry boardId views ∧
      (∀ view ∈ views, P view) ∧ AllAcceptable boardId [] views := by
  obtain ⟨views, outcome, hviews, hvisits⟩ := hwalk
  rw [validateTelemetry] at h
  split at h
  · next s hrun =>
    have houtcome : outcome = .ok ⟨⟩ := hvisits.outcome_eq hrun
    subst houtcome
    have hforM := hvisits.eq_forM _ (validateView boardId)
    rw [hforM] at hrun
    obtain ⟨hacceptable, -, hresponse⟩ := post_of_ok (wp_validateViews boardId views _) hrun
    split at h
    · cases h
    · cases h
      exact ⟨hresponse, views, hvisits, hviews, hacceptable⟩
  · cases h

/-- Acceptable samples are accepted. -/
theorem validateTelemetry_of_acceptable (response : ReadTelemetrySnapshotResponse)
    (hsamples : Samples schema telemetry boardId views)
    (hacceptable : AllAcceptable boardId [] views) (hne : views ≠ []) :
    ∃ snapshot, validateTelemetry schema response telemetry boardId = .ok snapshot ∧
      snapshot.response = response := by
  have hforM := hsamples.eq_forM _ (validateView boardId)
  have hwp := wp_validateViews boardId views { result := { response } }
  rw [validateTelemetry]
  split
  · next s hrun =>
    rw [hforM] at hrun
    obtain ⟨-, hnodeIds, hresponse⟩ := post_of_ok hwp hrun
    have hnonempty : s.nodeIds ≠ [] := by
      rw [hnodeIds, List.append_nil]
      simpa using hne
    exact ⟨s.result, if_neg hnonempty, hresponse⟩
  · next e s hrun =>
    rw [hforM] at hrun
    exact absurd hacceptable (post_of_error hwp hrun)

end Accepted

/-! ## Messages without indexed fields -/

/-- A scalar field whose pattern has no placeholder but the board. -/
structure FieldDescriptor.IsScalar (field : FieldDescriptor) (t : Template Char) : Prop where
  wellFormed : WellFormed braces t
  board : ∀ name ∈ names t, name = boardIdName
  pattern : field.opcuaNodePattern = some (render braces t)
  unit : field.engineeringUnit.isSome
  source : ∃ source, field.dataSource = some source ∧ source ≠ []
  owner : ∃ owner, field.controlOwner = some owner ∧ owner ≠ []
  scalar : field.isRepeated = false

theorem visits_visitField_scalar {field : FieldDescriptor} {t : Template Char} {boardId : Text}
    {sample : Sample} {metadata : SampleMetadata} (hfield : field.IsScalar t)
    (hboard : braces.Plain boardId) (hmetadata : sample.metadata? = some metadata) :
    Visits (fun _ visitor ↦ visitField boardId field (some sample) [] visitor)
      [{ nodeId := substitute (fun _ ↦ boardId) t, sample, metadata }] (.ok ⟨⟩) := by
  obtain ⟨unit, hunit⟩ := Option.isSome_iff_exists.1 hfield.unit
  obtain ⟨source, hsource, hsourceNe⟩ := hfield.source
  obtain ⟨owner, howner, hownerNe⟩ := hfield.owner
  have hnames : names (assign boardIdName boardId t) = [] := by
    rw [names_assign, List.filter_eq_nil_iff]
    intro name hname
    simpa using hfield.board name hname
  have hnodeId : render braces (assign boardIdName boardId t) = substitute (fun _ ↦ boardId) t :=
    (render_eq_substitute hnames).trans (substitute_assign (σ := fun _ ↦ boardId) boardIdName t)
  have hpattern : replaceAll (render braces t) (placeholder boardIdName) boardId =
      substitute (fun _ ↦ boardId) t :=
    (Strings.replaceAll_render hfield.wellFormed ⟨by decide, by decide⟩).trans hnodeId
  have hplaceholders : extractPlaceholders (substitute (fun _ ↦ boardId) t) = .ok [] := by
    rw [← hnodeId, extractPlaceholders_render (hfield.wellFormed.assign hboard), hnames]
  have hview : makeSampleView (substitute (fun _ ↦ boardId) t) sample =
      .ok { nodeId := substitute (fun _ ↦ boardId) t, sample, metadata } := by
    rw [makeSampleView, hmetadata]
  intro σ visitor
  simp only [visitField, hfield.pattern, hunit, hsource, howner, hpattern, hplaceholders, hview,
    hfield.scalar, failIf, hsourceNe, hownerNe, or_self, if_false, ofResult_ok, okOr_some,
    pure_bind, Bool.false_eq_true, ne_eq, not_true_eq_false]
  exact visits_visitor _ σ visitor

/-- The fields of a message are visited in the order in which they are declared. -/
theorem samples_of_fields {schema : Schema} {telemetry : BoardTelemetry} {boardId : Text}
    (views : ℕ → List WireSampleView) (hlength : schema.fields.length = kExpectedDeclaredWireFields)
    (hfields : ∀ field ∈ schema.fields.zipIdx, Visits (fun _ visitor ↦ visitField boardId field.1
      (telemetry.sample field.2) (telemetry.entries field.2) visitor) (views field.2) (.ok ⟨⟩)) :
    Samples schema telemetry boardId ((List.range kExpectedDeclaredWireFields).flatMap views) := by
  have hrange : schema.fields.zipIdx.map Prod.snd = List.range kExpectedDeclaredWireFields := by
    rw [List.zipIdx_map_snd, hlength, List.range_eq_range']
  intro σ visitor
  rw [← hrange, List.flatMap_map]
  have h := visits_forM hfields σ visitor
  simp only [visitWireSamples, failIf, hlength, ne_eq, not_true_eq_false, if_false, pure_bind]
  exact h

/-- A message of scalar fields. -/
theorem samples_of_scalars {schema : Schema} {telemetry : BoardTelemetry} {boardId : Text}
    (t : ℕ → Template Char) (sample : ℕ → Sample) (metadata : ℕ → SampleMetadata)
    (hlength : schema.fields.length = kExpectedDeclaredWireFields) (hboard : braces.Plain boardId)
    (hfields : ∀ field ∈ schema.fields.zipIdx, field.1.IsScalar (t field.2))
    (hentries : ∀ i, telemetry.entries i = []) (hsample : ∀ i, telemetry.sample i = some (sample i))
    (hmetadata : ∀ i, (sample i).metadata? = some (metadata i)) :
    Samples schema telemetry boardId ((List.range kExpectedDeclaredWireFields).map fun i ↦
      { nodeId := substitute (fun _ ↦ boardId) (t i), sample := sample i
        metadata := metadata i }) := by
  rw [List.map_eq_flatMap]
  refine samples_of_fields _ hlength fun field hfield ↦ ?_
  rw [hsample, hentries]
  exact visits_visitField_scalar (hfields field hfield) hboard (hmetadata field.2)

end DaphneSc.Bridge.V8

namespace DaphneSc.Bridge.OpcUaSnapshotWriter

open Program V8

/-! ## The value of a sample in OPC-UA -/

/-- The wire type that belongs to a type of the registry. -/
def wireType : Registry.ValueType → WireValueType
  | .Boolean => .Boolean
  | .Integer => .Integer
  | .Long => .Long
  | .Double => .Double
  | .String => .String
  | .DateTime => .DateTime

def negativeDateTime : Sample → Bool
  | .dateTime _ (some value) => value < 0
  | _ => false

/-- The value on the wire, converted. -/
def ownValue : Sample → Option UaVariant
  | .boolean _ value => value.map .boolean
  | .integer _ value => value.map .int32
  | .long _ value => value.map .int64
  | .double _ value => value.map .double
  | .string _ value => value.map .string
  | .dateTime _ value => value.map fun unixNs ↦ .dateTime (unixNsToUaDateTime unixNs.toUInt64)

/-- What OPC-UA keeps of a value: strings end at their first NUL. -/
def stored : UaVariant → UaVariant
  | .string value => .string (uaString value)
  | value => value

/-- The sample has the type of its node, and no date before 1970. -/
def Fits (view : WireSampleView) (expected : Registry.ValueType) : Prop :=
  view.valueType = wireType expected ∧ negativeDateTime view.sample = false

instance (view : WireSampleView) (expected : Registry.ValueType) : Decidable (Fits view expected) :=
  inferInstanceAs (Decidable (_ ∧ _))

variable {view : WireSampleView} {expected : Registry.ValueType}

theorem stored_ownValue {sample : Sample} (hnul : sample.NulFree) :
    (ownValue sample).map stored = ownValue sample := by
  cases sample with
  | string _ value =>
    cases value with
    | none => rfl
    | some value =>
      change some (UaVariant.string (uaString value)) = some (UaVariant.string value)
      rw [uaString_of_nulFree hnul]
  | boolean _ value | integer _ value | long _ value | double _ value | dateTime _ value =>
    cases value <;> rfl

theorem sampleToVariant_of_fits (hvalue : view.hasValue) (hfits : Fits view expected) :
    (sampleToVariant view expected).2 = true ∧
      (ownValue view.sample).map stored = some (sampleToVariant view expected).1 := by
  obtain ⟨htype, hdate⟩ := hfits
  unfold sampleToVariant
  rw [if_pos hvalue]
  obtain ⟨nodeId, sample, metadata⟩ := view
  cases sample with
  | boolean _ value =>
    obtain ⟨value, rfl⟩ := Option.isSome_iff_exists.1 hvalue
    cases expected <;> cases htype
    exact ⟨rfl, rfl⟩
  | integer _ value =>
    obtain ⟨value, rfl⟩ := Option.isSome_iff_exists.1 hvalue
    cases expected <;> cases htype
    exact ⟨rfl, rfl⟩
  | long _ value =>
    obtain ⟨value, rfl⟩ := Option.isSome_iff_exists.1 hvalue
    cases expected <;> cases htype
    exact ⟨rfl, rfl⟩
  | double _ value =>
    obtain ⟨value, rfl⟩ := Option.isSome_iff_exists.1 hvalue
    cases expected <;> cases htype
    exact ⟨rfl, rfl⟩
  | string _ value =>
    obtain ⟨value, rfl⟩ := Option.isSome_iff_exists.1 hvalue
    cases expected <;> cases htype
    exact ⟨rfl, rfl⟩
  | dateTime _ value =>
    obtain ⟨value, rfl⟩ := Option.isSome_iff_exists.1 hvalue
    cases expected <;> cases htype
    have hpos : ¬ value < 0 := by simpa [negativeDateTime] using hdate
    simp only [if_neg hpos]
    exact ⟨trivial, rfl⟩

theorem sampleToVariant_of_not_fits (hvalue : view.hasValue) (hfits : ¬ Fits view expected) :
    (sampleToVariant view expected).2 = false := by
  unfold sampleToVariant
  rw [if_pos hvalue]
  obtain ⟨nodeId, sample, metadata⟩ := view
  cases sample with
  | boolean _ value =>
    obtain ⟨value, rfl⟩ := Option.isSome_iff_exists.1 hvalue
    cases expected with
    | Boolean => exact absurd ⟨rfl, rfl⟩ hfits
    | _ => rfl
  | integer _ value =>
    obtain ⟨value, rfl⟩ := Option.isSome_iff_exists.1 hvalue
    cases expected with
    | Integer => exact absurd ⟨rfl, rfl⟩ hfits
    | _ => rfl
  | long _ value =>
    obtain ⟨value, rfl⟩ := Option.isSome_iff_exists.1 hvalue
    cases expected with
    | Long => exact absurd ⟨rfl, rfl⟩ hfits
    | _ => rfl
  | double _ value =>
    obtain ⟨value, rfl⟩ := Option.isSome_iff_exists.1 hvalue
    cases expected with
    | Double => exact absurd ⟨rfl, rfl⟩ hfits
    | _ => rfl
  | string _ value =>
    obtain ⟨value, rfl⟩ := Option.isSome_iff_exists.1 hvalue
    cases expected with
    | String => exact absurd ⟨rfl, rfl⟩ hfits
    | _ => rfl
  | dateTime _ value =>
    obtain ⟨value, rfl⟩ := Option.isSome_iff_exists.1 hvalue
    cases expected with
    | DateTime =>
      have hneg : value < 0 := by
        simpa [Fits, negativeDateTime, wireType, WireSampleView.valueType, Sample.valueType]
          using hfits
      simp only [if_pos hneg]
    | _ => rfl

/-- On a valid sample only a value of another type is no good. -/
theorem mismatch_iff (hvalid : view.Valid) :
    Mismatch view expected ↔ view.hasValue ∧ ¬ Fits view expected := by
  constructor
  · rintro (hmismatch | ⟨hgood, hmissing⟩)
    · have hvalue : view.hasValue := by
        by_contra hmissing
        unfold sampleToVariant at hmismatch
        rw [if_neg hmissing] at hmismatch
        cases hmismatch
      refine ⟨hvalue, fun hfits ↦ ?_⟩
      have hmatch := (sampleToVariant_of_fits hvalue hfits).1
      exact Bool.false_ne_true (hmismatch.symm.trans hmatch)
    · exact absurd (hvalid.value (.inl hgood)) hmissing
  · rintro ⟨hvalue, hfits⟩
    exact .inl (sampleToVariant_of_not_fits hvalue hfits)

/-- The status is good exactly for a good sample of the right type on a current transport. -/
theorem viewStatus_eq_good_iff (current : Bool) (hvalid : view.Valid) :
    viewStatus current view expected = .good ↔
      view.metadata.quality = .good ∧ Fits view expected ∧ current := by
  by_cases hmismatch : Mismatch view expected
  · rw [viewStatus, if_pos hmismatch]
    have hfits := ((mismatch_iff hvalid).1 hmismatch).2
    simp [hfits]
  · have hgood : qualityToStatus view.metadata.quality = .good ↔ view.metadata.quality = .good := by
      cases view.metadata.quality <;> simp [qualityToStatus]
    rw [viewStatus, if_neg hmismatch]
    rw [mismatch_iff hvalid, not_and, not_not] at hmismatch
    by_cases hquality : view.metadata.quality = .good
    · have hfits := hmismatch (hvalid.value (.inl hquality))
      cases current <;> simp [hquality, hfits, qualityToStatus]
    · simp [hquality, hgood]

/-- A status that is good or uncertain stands beside the value on the wire. -/
theorem stored_ownValue_of_viewStatus {current : Bool} (hvalid : view.Valid)
    (hstatus : viewStatus current view expected = .good ∨
      viewStatus current view expected = .uncertainLastUsableValue) :
    (ownValue view.sample).map stored = some (sampleToVariant view expected).1 := by
  have hmismatch : ¬ Mismatch view expected := by
    intro hmismatch
    rw [viewStatus, if_pos hmismatch] at hstatus
    rcases hstatus with h | h <;> cases h
  have hquality : view.metadata.quality = .good ∨ view.metadata.quality = .stale := by
    rw [viewStatus, if_neg hmismatch] at hstatus
    cases hquality : view.metadata.quality with
    | good => exact .inl rfl
    | stale => exact .inr rfl
    | unspecified | invalid | unavailable | notApplicable | unrecognized _ =>
      simp [hquality, qualityToStatus] at hstatus
  have hvalue := hvalid.value hquality
  rw [mismatch_iff hvalid, not_and, not_not] at hmismatch
  exact (sampleToVariant_of_fits hvalue (hmismatch hvalue)).2

/-! ## Publishing a validated snapshot -/

/-- The table does not know the sample, or the sample carries a value of another type. -/
def UnknownOrUnfit (writer : OpcUaSnapshotWriter) (view : WireSampleView) : Prop :=
  ∀ expected ∈ writer.nodeTypes view.nodeId, view.hasValue ∧ ¬ Fits view expected

instance (writer : OpcUaSnapshotWriter) (view : WireSampleView) :
    Decidable (UnknownOrUnfit writer view) := inferInstanceAs (Decidable (∀ _ ∈ _, _))

/-- What is written and counted for the samples of a snapshot. -/
structure Publishes (writer : OpcUaSnapshotWriter) (current : Bool) (views : List WireSampleView)
    (rejected : ℕ) (writes : List UaWrite) : Prop where
  /-- No NodeId comes twice. -/
  nodup : (views.map WireSampleView.nodeId).Nodup
  /-- Rejected is what the table does not know and what carries a value of another type. -/
  rejected_eq : rejected = views.countP fun view ↦
    UnknownOrUnfit writer view
  /-- The known NodeIds are written once each, in the order of the samples. -/
  written : writes.map UaWrite.nodeId =
    ((views.map WireSampleView.nodeId).filter fun nodeId ↦ (writer.nodeTypes nodeId).isSome).map
      (UaNodeId.mk writer.namespaceIndex)
  /-- Status and value of every write are those of its sample. -/
  faithful : ∀ write ∈ writes, ∃ view ∈ views, ∃ expected ∈ writer.nodeTypes view.nodeId,
    write.nodeId.identifier = view.nodeId ∧
    (write.dataValue.status = .good ↔
      view.metadata.quality = .good ∧ Fits view expected ∧ current) ∧
    (write.dataValue.status = .good ∨ write.dataValue.status = .uncertainLastUsableValue →
      ownValue view.sample = some write.dataValue.value)

variable {schema : Schema} {parseFromString : List UInt8 → Option ReadTelemetrySnapshotResponse}
  {payload : List UInt8} {boardId : Text} {requestSequence : UInt64} {snapshot : ValidatedSnapshot}
  {views : List WireSampleView}

theorem map_nodeId_filterMap (writer : OpcUaSnapshotWriter) (time : UInt64) (current : Bool)
    (hnul : ∀ view ∈ views, view.NulFree) :
    (views.filterMap fun view ↦
      (writer.nodeTypes view.nodeId).map (viewWrite writer time current view)).map UaWrite.nodeId =
    ((views.map WireSampleView.nodeId).filter fun nodeId ↦ (writer.nodeTypes nodeId).isSome).map
      (UaNodeId.mk writer.namespaceIndex) := by
  induction views with
  | nil => rfl
  | cons view views ih =>
    obtain ⟨hview, hviews⟩ := List.forall_mem_cons.1 hnul
    cases htype : writer.nodeTypes view.nodeId with
    | none => simpa [htype] using ih hviews
    | some expected =>
      simpa [htype, viewWrite, uaString_of_nulFree hview.nodeId] using ih hviews

theorem publishes_of_acceptable (writer : OpcUaSnapshotWriter) (time : UInt64) (current : Bool)
    (hnul : ∀ view ∈ views, view.NulFree) (hacceptable : AllAcceptable boardId [] views) :
    Publishes writer current views (views.countP fun view ↦ IsRejected writer view)
      (views.filterMap fun view ↦
        (writer.nodeTypes view.nodeId).map (viewWrite writer time current view)) where
  nodup := hacceptable.nodup
  rejected_eq := by
    apply List.countP_congr
    intro view hview
    rw [decide_eq_true_iff, decide_eq_true_iff]
    apply forall₂_congr
    intro expected _
    exact mismatch_iff (hacceptable.acceptable view hview).valid
  written := map_nodeId_filterMap writer time current hnul
  faithful := by
    intro write hwrite
    obtain ⟨view, hview, hmap⟩ := List.mem_filterMap.1 hwrite
    obtain ⟨expected, hexpected, rfl⟩ := Option.map_eq_some_iff.1 hmap
    have hvalid := (hacceptable.acceptable view hview).valid
    have hsample := (hnul view hview).sample
    refine ⟨view, hview, expected, hexpected, uaString_of_nulFree (hnul view hview).nodeId,
      viewStatus_eq_good_iff current hvalid, fun hstatus ↦ ?_⟩
    exact (stored_ownValue hsample).symm.trans (stored_ownValue_of_viewStatus hvalid hstatus)

/-- The run of `publish` over samples with distinct NodeIds. -/
theorem publish_run {response : ReadTelemetrySnapshotResponse} (writer : OpcUaSnapshotWriter)
    (current : Bool) (hsamples : Samples schema (telemetryOf response) response.boardId views)
    (hnodup : (views.map WireSampleView.nodeId).Nodup) :
    publish schema writer response current {} =
      .ok (views.countP fun view ↦ IsRejected writer view)
        { seenNodeIds := (views.map WireSampleView.nodeId).reverse
          rejectedPoints := views.countP fun view ↦ IsRejected writer view
          writes := views.filterMap fun view ↦ (writer.nodeTypes view.nodeId).map
            (viewWrite writer response.snapshotTimeUnixNs current view) } := by
  have hvisits := hsamples.eq_forM Publication
    (publishView writer response.snapshotTimeUnixNs current)
  have hrun := forM_publishView_run writer response.snapshotTimeUnixNs current (s := {}) hnodup
    fun _ _ ↦ List.not_mem_nil
  rw [publish, hvisits, run_bind, hrun]
  simp only [List.append_nil, List.nil_append, Nat.zero_add]
  rfl

/-- A snapshot that validation has accepted is published without an error: every sample of the
snapshot whose NodeId the table knows is written once, rejected is what the table does not know or
has with another type, and what is written as good or uncertain is the value on the wire. -/
theorem publish_validated (writer : OpcUaSnapshotWriter) (current : Bool)
    (hvalidated :
      parseAndValidate schema parseFromString payload boardId requestSequence = .ok snapshot)
    (hnul : ∀ response ∈ parseFromString payload, response.NulFree) :
    ∃ views rejected s,
      Samples schema (telemetryOf snapshot.response) snapshot.response.boardId views ∧
      publish schema writer snapshot.response current {} = .ok rejected s ∧
      Publishes writer current views rejected s.writes := by
  obtain ⟨response, telemetry, hparse, rfl, htelemetry, hvalidate⟩ := parseAndValidate_ok hvalidated
  have hfree := hnul response hparse
  obtain ⟨rfl, views, hsamples, hviews, hacceptable⟩ :=
    validateTelemetry_ok (isWalk_nulFree hfree.boardId (hfree.telemetry telemetry htelemetry))
      hvalidate
  have hof : telemetryOf snapshot.response = telemetry := by
    rw [telemetryOf, htelemetry]
    rfl
  rw [← hof] at hsamples
  exact ⟨views, _, _, hsamples, publish_run writer current hsamples hacceptable.nodup,
    publishes_of_acceptable writer _ current hviews hacceptable⟩

/-! ## A snapshot of good booleans

Every field is a boolean sample, and the NodeIds of the fields differ in their length. -/

def goodName (i : ℕ) : Text := ".".toList ++ List.replicate (i + 1) 'P'

theorem mem_goodName {i : ℕ} {c : Char} : c ∈ goodName i ↔ c = '.' ∨ c = 'P' := by
  simp [goodName]

def goodTemplate (i : ℕ) : Strings.Template Char :=
  [.text "DAPHNE.Boards.".toList, .slot boardIdName, .text (goodName i)]

def goodField (i : ℕ) : FieldDescriptor where
  fullName := "BoardTelemetry.p".toList
  opcuaNodePattern := some (Strings.render braces (goodTemplate i))
  engineeringUnit := some []
  dataSource := some "board".toList
  controlOwner := some "board".toList
  isRepeated := false

def goodSchema : Schema where
  fields := (List.range kExpectedDeclaredWireFields).map goodField
  sourceSha256 := "00".toList
  nulFree := by
    intro field hfield pattern hpattern
    obtain ⟨i, -, rfl⟩ := List.mem_map.1 hfield
    obtain rfl : pattern = Strings.render braces (goodTemplate i) :=
      (Option.some.inj hpattern).symm
    simp only [NulFree, goodTemplate, Strings.render_cons, Strings.render_nil,
      Strings.Segment.render, Strings.Delimiters.quote, List.mem_append, List.mem_cons,
      mem_goodName]
    decide

def goodMetadata : SampleMetadata := { quality := .good }

def goodSample : Sample := .boolean (some goodMetadata) (some true)

def goodTelemetry : BoardTelemetry := ⟨fun _ ↦ some goodSample, fun _ ↦ []⟩

abbrev goodBoardId : Text := "015".toList

def goodResponse : ReadTelemetrySnapshotResponse where
  success := true
  message := []
  schemaMajor := 2
  schemaSourceSha256 := "00".toList
  contractRevision := "8".toList
  boardId := goodBoardId
  requestSequence := 1
  snapshotTimeUnixNs := 0
  telemetry := some goodTelemetry

def goodView (i : ℕ) : WireSampleView where
  nodeId := Strings.substitute (fun _ ↦ goodBoardId) (goodTemplate i)
  sample := goodSample
  metadata := goodMetadata

def goodViews : List WireSampleView := (List.range kExpectedDeclaredWireFields).map goodView

theorem goodField_isScalar (i : ℕ) : (goodField i).IsScalar (goodTemplate i) where
  wellFormed := by
    simp only [goodTemplate, Strings.wellFormed_cons, Strings.wellFormed_nil,
      Strings.Segment.Plain, Strings.Delimiters.Plain, mem_goodName]
    decide
  board := by simp [goodTemplate]
  pattern := rfl
  unit := rfl
  source := ⟨_, rfl, by decide⟩
  owner := ⟨_, rfl, by decide⟩
  scalar := rfl

theorem samples_goodViews : Samples goodSchema goodTelemetry goodBoardId goodViews := by
  apply samples_of_scalars goodTemplate (fun _ ↦ goodSample) (fun _ ↦ goodMetadata)
  · simp [goodSchema]
  · exact ⟨by decide, by decide⟩
  · intro field hfield
    have hget := (List.mem_zipIdx' hfield).2
    have hscalar := goodField_isScalar field.2
    simp only [goodSchema, List.getElem_map, List.getElem_range] at hget
    rwa [← hget] at hscalar
  · exact fun _ ↦ rfl
  · exact fun _ ↦ rfl
  · exact fun _ ↦ rfl

theorem goodView_onBoard (i : ℕ) : (boardPrefix goodBoardId).isPrefixOf (goodView i).nodeId := by
  have hnodeId : boardPrefix goodBoardId ++ List.replicate (i + 1) 'P' = (goodView i).nodeId := by
    dsimp only [boardPrefix, goodView, goodTemplate, goodName]
    rw [Strings.substitute_cons, Strings.substitute_cons, Strings.substitute_cons,
      Strings.substitute_nil]
    dsimp only [Strings.Segment.fill]
    rw [List.append_assoc, List.append_assoc, List.append_nil]
  rw [← hnodeId]
  exact List.isPrefixOf_iff_prefix.2 (List.prefix_append _ _)

theorem goodView_valid (i : ℕ) : (goodView i).Valid where
  value _ := rfl
  noValue := by simp [goodView, goodMetadata]
  finite := rfl
  specified := by simp [goodView, goodMetadata]
  recognized := by simp [goodView, goodMetadata]

theorem goodViews_acceptable : AllAcceptable goodBoardId [] goodViews where
  nodup := by
    rw [goodViews, List.map_map]
    apply List.Nodup.map _ List.nodup_range
    intro i j hij
    have hlength := congrArg List.length hij
    simpa [goodView, goodTemplate, goodName, Strings.Segment.fill] using hlength
  acceptable := by
    intro view hview
    obtain ⟨i, -, rfl⟩ := List.mem_map.1 hview
    exact ⟨goodView_onBoard i, List.not_mem_nil, goodView_valid i⟩

/-! The bytes of the response. -/

def varint (n : ℕ) : List UInt8 :=
  if n < 128 then [UInt8.ofNat n] else [UInt8.ofNat (n % 128 + 128), UInt8.ofNat (n / 128)]

def lengthDelimited (field : ℕ) (bytes : List UInt8) : List UInt8 :=
  varint (8 * field + 2) ++ varint bytes.length ++ bytes

def textBytes (text : Text) : List UInt8 := text.map fun c ↦ UInt8.ofNat c.toNat

/-- Metadata with quality 1, then the value. -/
def goodSampleBytes : List UInt8 := [0x0a, 2, 0x08, 1, 0x10, 1]

def goodPayload : List UInt8 :=
  [0x08, 1, 0x18, 2] ++ lengthDelimited 5 (textBytes goodResponse.schemaSourceSha256) ++
    lengthDelimited 6 (textBytes goodResponse.contractRevision) ++
    lengthDelimited 7 (textBytes goodResponse.boardId) ++ [0x40, 1] ++
    lengthDelimited 13 ((List.range kExpectedDeclaredWireFields).flatMap fun i ↦
      lengthDelimited (i + 1) goodSampleBytes)

def parseGood (payload : List UInt8) : Option ReadTelemetrySnapshotResponse :=
  if payload = goodPayload then some goodResponse else none

theorem parseGood_goodPayload : parseGood goodPayload = some goodResponse := if_pos rfl

theorem goodPayload_accepted : ∃ snapshot,
    parseAndValidate goodSchema parseGood goodPayload goodBoardId 1 = .ok snapshot ∧
      snapshot.response = goodResponse := by
  have hne : goodViews ≠ [] := by simp [goodViews]
  obtain ⟨snapshot, hvalidate, hresponse⟩ := validateTelemetry_of_acceptable
    goodResponse samples_goodViews goodViews_acceptable hne
  refine ⟨snapshot, ?_, hresponse⟩
  exact (parseAndValidate_eq parseGood_goodPayload rfl rfl rfl (by decide) rfl rfl rfl).trans
    hvalidate

theorem goodResponse_nulFree : goodResponse.NulFree where
  boardId := by
    rw [NulFree]
    decide
  telemetry := by
    intro telemetry htelemetry
    obtain rfl : goodTelemetry = telemetry := Option.some.inj htelemetry
    constructor
    · intro index sample hsample
      obtain rfl : goodSample = sample := Option.some.inj hsample
      exact trivial
    · exact fun _ _ h ↦ absurd h List.not_mem_nil
    · exact fun _ _ h ↦ absurd h List.not_mem_nil

theorem publish_validated_good : ∃ (snapshot : ValidatedSnapshot) (views : List WireSampleView)
    (rejected : ℕ) (s : Publication),
    Samples goodSchema (telemetryOf snapshot.response) snapshot.response.boardId views ∧
    publish goodSchema ⟨1, fun _ ↦ some .Boolean⟩ snapshot.response true {} = .ok rejected s ∧
    Publishes ⟨1, fun _ ↦ some .Boolean⟩ true views rejected s.writes := by
  obtain ⟨snapshot, haccepted, -⟩ := goodPayload_accepted
  refine ⟨snapshot, publish_validated ⟨1, fun _ ↦ some .Boolean⟩ true haccepted ?_⟩
  intro response hresponse
  obtain rfl : goodResponse = response :=
    Option.some.inj (parseGood_goodPayload.symm.trans hresponse)
  exact goodResponse_nulFree

end DaphneSc.Bridge.OpcUaSnapshotWriter
