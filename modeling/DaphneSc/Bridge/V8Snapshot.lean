import DaphneSc.Bridge.Registry
import DaphneSc.Program.Basic

/-!
# Telemetry snapshots

The telemetry message is walked by reflection: every declared field carries a NodeId pattern, an
indexed field has one entry for each hardware instance, and the NodeId of an entry is the pattern
with the keys of the entry filled in. A snapshot is validated in one such walk before anything is
made of it.
-/

namespace DaphneSc.Bridge.V8

open Program Strings

/-! ## Messages -/

inductive WireValueType where
  | Boolean
  | Integer
  | Long
  | Double
  | String
  | DateTime
  deriving DecidableEq, Repr

inductive TelemetryQuality where
  | unspecified
  | good
  | stale
  | invalid
  | unavailable
  | notApplicable
  | unrecognized (value : Int32)
  deriving DecidableEq

/-- An IEEE double by its bits. -/
structure Double where
  bits : UInt64
  deriving DecidableEq

/-- `std::isfinite` -/
def Double.isFinite (d : Double) : Bool := (d.bits >>> 52) &&& 0x7ff != 0x7ff

structure SampleMetadata where
  quality : TelemetryQuality := .unspecified
  sampleTimeUnixNs : UInt64 := 0
  deriving DecidableEq

/-- The six typed samples. Metadata and value are fields with presence. -/
inductive Sample where
  | boolean (metadata : Option SampleMetadata) (value : Option Bool)
  | integer (metadata : Option SampleMetadata) (value : Option Int32)
  | long (metadata : Option SampleMetadata) (value : Option Int64)
  | double (metadata : Option SampleMetadata) (value : Option Double)
  | string (metadata : Option SampleMetadata) (value : Option Text)
  | dateTime (metadata : Option SampleMetadata) (value : Option Int64)
  deriving DecidableEq

namespace Sample

def valueType : Sample → WireValueType
  | boolean .. => .Boolean
  | integer .. => .Integer
  | long .. => .Long
  | double .. => .Double
  | string .. => .String
  | dateTime .. => .DateTime

def metadata? : Sample → Option SampleMetadata
  | boolean metadata _ => metadata
  | integer metadata _ => metadata
  | long metadata _ => metadata
  | double metadata _ => metadata
  | string metadata _ => metadata
  | dateTime metadata _ => metadata

def hasValue : Sample → Bool
  | boolean _ value => value.isSome
  | integer _ value => value.isSome
  | long _ value => value.isSome
  | double _ value => value.isSome
  | string _ value => value.isSome
  | dateTime _ value => value.isSome

end Sample

inductive CppType where
  | string
  | message
  | other
  deriving DecidableEq

structure EntryField where
  name : Text
  cppType : CppType

/-- The declaration of an indexed wrapper message. -/
structure EntryDescriptor where
  fullName : Text
  fields : List EntryField

/-- An indexed wrapper message: its string fields by position, and its sample. -/
structure IndexedEntry where
  descriptor : EntryDescriptor
  getString : ℕ → Text
  sample : Option Sample

/-- The declaration of a field of `BoardTelemetry`, with its options. -/
structure FieldDescriptor where
  fullName : Text
  (opcuaNodePattern engineeringUnit dataSource controlOwner : Option Text)
  isRepeated : Bool

/-- The schema that is compiled in. Its NodeId patterns are C strings. -/
structure Schema where
  fields : List FieldDescriptor
  sourceSha256 : Text
  nulFree : ∀ field ∈ fields, ∀ pattern ∈ field.opcuaNodePattern, NulFree pattern

/-- The fields by position: a sample or the entries of an indexed field. -/
structure BoardTelemetry where
  sample : ℕ → Option Sample
  entries : ℕ → List IndexedEntry

structure ReadTelemetrySnapshotResponse where
  success : Bool
  message : Text
  schemaMajor : UInt32
  (schemaSourceSha256 contractRevision boardId : Text)
  (requestSequence snapshotTimeUnixNs : UInt64)
  telemetry : Option BoardTelemetry

/-- A visited sample. It has metadata, and its type is that of the sample. -/
structure WireSampleView where
  nodeId : Text
  sample : Sample
  metadata : SampleMetadata

def WireSampleView.valueType (view : WireSampleView) : WireValueType := view.sample.valueType

def WireSampleView.hasValue (view : WireSampleView) : Bool := view.sample.hasValue

/-! ## NodeIds -/

def replaceAll (value token replacement : Text) : Text := Strings.replaceAll value token replacement

/-- The loop of `extractPlaceholders` at `offset`. -/
def extractPlaceholdersFrom (pattern : Text) (offset : ℕ) (placeholders : List Text) :
    Except RuntimeError (List Text) :=
  match _hopen : find pattern [braces.opening] offset with
  | none => .ok placeholders
  | some offset' =>
    match _hclose : find pattern [braces.closing] (offset' + 1) with
    | none => .error ("unterminated protobuf NodeId placeholder: ".toList ++ pattern)
    | some close =>
      extractPlaceholdersFrom pattern (close + 1)
        (placeholders ++ [(pattern.drop (offset' + 1)).take (close - offset' - 1)])
termination_by pattern.length - offset
decreasing_by
  have hle := le_of_find_eq_some _hopen
  have hle' := le_of_find_eq_some _hclose
  have hend := add_le_of_find_eq_some _hclose
  rw [List.length_singleton] at hend
  omega

def extractPlaceholders (pattern : Text) : Except RuntimeError (List Text) :=
  extractPlaceholdersFrom pattern 0 []

def EntryDescriptor.cppType (descriptor : EntryDescriptor) (index : ℕ) : Option CppType :=
  descriptor.fields[index]?.map EntryField.cppType

/-- The position of the field named `sample`, when it is a message. -/
def EntryDescriptor.sampleField (descriptor : EntryDescriptor) : Option ℕ :=
  (descriptor.fields.findIdx? fun field ↦ field.name = "sample".toList).filter fun index ↦
    descriptor.cppType index = some .message

/-- One turn of the loop over the placeholders. -/
def fillKey (entry : IndexedEntry) (sampleField : ℕ) (nodeId : Text) (key : Text × ℕ) :
    Except RuntimeError Text :=
  if key.2 = sampleField ∨ entry.descriptor.cppType key.2 ≠ some .string then
    .error ("indexed protobuf key is not a declared string for ".toList ++ placeholder key.1 ++
      ": ".toList ++ entry.descriptor.fullName)
  else if entry.getString key.2 = [] then
    .error ("indexed protobuf wrapper has empty key for ".toList ++ placeholder key.1 ++
      ": ".toList ++ entry.descriptor.fullName)
  else .ok (replaceAll nodeId (placeholder key.1) (entry.getString key.2))

def renderIndexedNodeId (pattern : Text) (entry : IndexedEntry) (placeholders : List Text) :
    Except RuntimeError Text :=
  let invalid := "indexed protobuf wrapper has an invalid declared shape: ".toList ++
    entry.descriptor.fullName
  match entry.descriptor.sampleField with
  | none => .error invalid
  | some sampleField =>
    if entry.descriptor.fields.length ≠ placeholders.length + 1 then .error invalid
    else do
      let nodeId ← placeholders.zipIdx.foldlM (fillKey entry sampleField) pattern
      if find nodeId [braces.opening] 0 ≠ none ∨ find nodeId [braces.closing] 0 ≠ none then
        .error ("unresolved protobuf NodeId placeholder: ".toList ++ nodeId)
      else .ok nodeId

/-! ## Walking the message -/

def makeSampleView (nodeId : Text) (sample : Sample) : Except RuntimeError WireSampleView :=
  match sample.metadata? with
  | none => .error ("typed protobuf sample lacks SampleMetadata: ".toList ++ nodeId)
  | some metadata => .ok { nodeId, sample, metadata }

/-- The view of one entry of an indexed field. -/
def indexedView (pattern : Text) (placeholders : List Text) (entry : IndexedEntry) :
    Except RuntimeError WireSampleView :=
  match entry.descriptor.sampleField, entry.sample with
  | some _, some sample => do
    let nodeId ← renderIndexedNodeId pattern entry placeholders
    makeSampleView nodeId sample
  | _, _ => .error ("indexed BoardTelemetry entry lacks typed sample: ".toList ++
      entry.descriptor.fullName)

variable {σ : Type}

def visitField (boardId : Text) (field : FieldDescriptor) (sample : Option Sample)
    (entries : List IndexedEntry) (visitor : WireSampleView → Prog RuntimeError σ PUnit) :
    Prog RuntimeError σ PUnit :=
  match field.opcuaNodePattern, field.engineeringUnit, field.dataSource, field.controlOwner with
  | some pattern, some _, some dataSource, some controlOwner => do
    failIf (dataSource = [] ∨ controlOwner = [])
      ("BoardTelemetry field has empty source or owner: ".toList ++ field.fullName)
    let pattern := replaceAll pattern (placeholder boardIdName) boardId
    let placeholders ← ofResult (extractPlaceholders pattern)
    if field.isRepeated then
      failIf (placeholders = [] ∨ entries = [])
        ("indexed BoardTelemetry field has no key or instances: ".toList ++ field.fullName)
      entries.forM fun entry ↦ do
        let view ← ofResult (indexedView pattern placeholders entry)
        visitor view
    else
      failIf (placeholders ≠ [])
        ("scalar BoardTelemetry field contains an instance placeholder: ".toList ++ field.fullName)
      let sample ← okOr sample
        ("explicit BoardTelemetry field is absent: ".toList ++ field.fullName)
      let view ← ofResult (makeSampleView pattern sample)
      visitor view
  | _, _, _, _ =>
    fail ("BoardTelemetry field lacks traceability annotations: ".toList ++ field.fullName)

abbrev kExpectedDeclaredWireFields : ℕ := 316

def visitWireSamples (schema : Schema) (telemetry : BoardTelemetry) (boardId : Text)
    (visitor : WireSampleView → Prog RuntimeError σ PUnit) : Prog RuntimeError σ PUnit := do
  failIf (schema.fields.length ≠ kExpectedDeclaredWireFields)
    ("BoardTelemetry declares ".toList ++ (toString schema.fields.length).toList ++
      " fields; expected ".toList ++ (toString kExpectedDeclaredWireFields).toList)
  schema.fields.zipIdx.forM fun field ↦
    visitField boardId field.1 (telemetry.sample field.2) (telemetry.entries field.2) visitor

/-! ## Validation -/

structure ValidatedSnapshot where
  response : ReadTelemetrySnapshotResponse
  sampleCount : ℕ := 0
  goodCount : ℕ := 0
  unavailableCount : ℕ := 0
  invalidCount : ℕ := 0

/-- What the visitor of `parseAndValidate` has reached: the NodeIds seen and the result so far. -/
structure Validation where
  nodeIds : List Text := []
  result : ValidatedSnapshot

abbrev Validate := Prog RuntimeError Validation PUnit

/-- `modify` of the result. -/
def count (update : ValidatedSnapshot → ValidatedSnapshot) : Validate :=
  modify fun s ↦ { s with result := update s.result }

/-- A double that is present has to be finite. -/
def Sample.nonFinite : Sample → Bool
  | double _ (some value) => !value.isFinite
  | _ => false

def validateSample (view : WireSampleView) : Validate := do
  count fun result ↦ { result with sampleCount := result.sampleCount + 1 }
  let quality := view.metadata.quality
  failIf ((quality = .good ∨ quality = .stale) ∧ ¬ view.hasValue)
    ("telemetry sample lacks value: ".toList ++ view.nodeId)
  failIf ((quality = .unavailable ∨ quality = .notApplicable) ∧ view.hasValue)
    ("unavailable telemetry sample carries a value: ".toList ++ view.nodeId)
  failIf view.sample.nonFinite
    ("telemetry sample carries a non-finite double: ".toList ++ view.nodeId)
  match quality with
  | .good => count fun result ↦ { result with goodCount := result.goodCount + 1 }
  | .stale | .notApplicable => pure ⟨⟩
  | .unavailable =>
    count fun result ↦ { result with unavailableCount := result.unavailableCount + 1 }
  | .invalid => count fun result ↦ { result with invalidCount := result.invalidCount + 1 }
  | .unspecified | .unrecognized _ =>
    fail ("unsupported telemetry quality: ".toList ++ view.nodeId)

def boardPrefix (boardId : Text) : Text := "DAPHNE.Boards.".toList ++ boardId ++ ".".toList

/-- The visitor of `parseAndValidate`. -/
def validateView (boardId : Text) (view : WireSampleView) : Validate := do
  failIf (¬ (boardPrefix boardId).isPrefixOf view.nodeId)
    ("telemetry sample is outside configured board: ".toList ++ view.nodeId)
  let s ← get
  failIf (view.nodeId ∈ s.nodeIds) ("duplicate telemetry NodeId: ".toList ++ view.nodeId)
  set { s with nodeIds := view.nodeId :: s.nodeIds }
  validateSample view

/-- The walk of `parseAndValidate` over the telemetry of a response. -/
def validateTelemetry (schema : Schema) (response : ReadTelemetrySnapshotResponse)
    (telemetry : BoardTelemetry) (boardId : Text) :
    Except (Abort RuntimeError) ValidatedSnapshot :=
  let start : Validation := { result := { response } }
  match visitWireSamples schema telemetry boardId (validateView boardId) start with
  | .ok _ s =>
    if s.nodeIds = [] then
      .error (.error "explicit telemetry response contains no samples".toList)
    else .ok s.result
  | .error e _ => .error e

def parseAndValidate (schema : Schema)
    (parseFromString : List UInt8 → Option ReadTelemetrySnapshotResponse) (payload : List UInt8)
    (boardId : Text) (requestSequence : UInt64) :
    Except (Abort RuntimeError) ValidatedSnapshot :=
  let refuse (e : RuntimeError) : Except (Abort RuntimeError) ValidatedSnapshot :=
    .error (.error e)
  match parseFromString payload with
  | none => refuse "bad ReadTelemetrySnapshotResponse payload".toList
  | some response =>
    if ¬ response.success then
      refuse ("telemetry response failed: ".toList ++ response.message)
    else if response.schemaMajor ≠ 2 then
      refuse ("unsupported explicit telemetry schema major ".toList ++
        (toString response.schemaMajor).toList)
    else if response.schemaSourceSha256 ≠ schema.sourceSha256 then
      refuse "telemetry schema hash differs from the schema compiled by bridge".toList
    else if response.contractRevision = [] then
      refuse "telemetry response has no contract revision".toList
    else if response.boardId ≠ boardId then
      refuse ("telemetry board_id mismatch: expected ".toList ++ boardId ++ ", got ".toList ++
        response.boardId)
    else if response.requestSequence ≠ requestSequence then
      refuse "telemetry request_sequence mismatch".toList
    else match response.telemetry with
      | none => refuse "telemetry response lacks explicit BoardTelemetry".toList
      | some telemetry => validateTelemetry schema response telemetry boardId

/-! ## Placeholders of a written template -/

variable {t : Template Char} {pattern done name : Text} {offset offset' close : ℕ}
  {placeholders : List Text}

theorem extractPlaceholdersFrom_eq : extractPlaceholdersFrom pattern offset placeholders =
    match find pattern [braces.opening] offset with
    | none => .ok placeholders
    | some offset' =>
      match find pattern [braces.closing] (offset' + 1) with
      | none => .error ("unterminated protobuf NodeId placeholder: ".toList ++ pattern)
      | some close =>
        extractPlaceholdersFrom pattern (close + 1)
          (placeholders ++ [(pattern.drop (offset' + 1)).take (close - offset' - 1)]) := by
  rw [extractPlaceholdersFrom]
  split
  · next hopen => rw [hopen]
  · next start hopen =>
    simp only [hopen]
    split
    · next hclose => rw [hclose]
    · next close hclose => rw [hclose]

theorem extractPlaceholdersFrom_of_find_eq
    (h : find pattern [braces.opening] offset = find pattern [braces.opening] offset') :
    extractPlaceholdersFrom pattern offset placeholders =
      extractPlaceholdersFrom pattern offset' placeholders := by
  rw [extractPlaceholdersFrom_eq, extractPlaceholdersFrom_eq, h]

theorem extractPlaceholdersFrom_slot (h : braces.Plain name) :
    extractPlaceholdersFrom (done ++ render braces (.slot name :: t)) done.length placeholders =
      extractPlaceholdersFrom (done ++ placeholder name ++ render braces t)
        (done ++ placeholder name).length (placeholders ++ [name]) := by
  have hlength : done.length + 1 + name.length - done.length - 1 = name.length := by omega
  rw [extractPlaceholdersFrom_eq, find_opening_slot]
  simp only [find_closing_slot h, hlength, take_drop_slot]
  rw [length_append_quote, List.append_assoc]
  rfl

theorem extractPlaceholdersFrom_render (done : Text) (ht : WellFormed braces t) :
    extractPlaceholdersFrom (done ++ render braces t) done.length placeholders =
      .ok (placeholders ++ names t) := by
  induction t generalizing done placeholders with
  | nil => rw [extractPlaceholdersFrom_eq, find_opening_nil, names_nil, List.append_nil]
  | cons s t ih =>
    obtain ⟨hs, htail⟩ := wellFormed_cons.1 ht
    cases s with
    | text content =>
      calc
        _ = extractPlaceholdersFrom (done ++ content ++ render braces t) (done ++ content).length
              placeholders := by
            have hfind := find_opening_text done t hs
            rw [render_cons, ← List.append_assoc] at hfind ⊢
            exact extractPlaceholdersFrom_of_find_eq hfind
        _ = _ := ih _ htail
    | slot name =>
      calc
        _ = extractPlaceholdersFrom (done ++ placeholder name ++ render braces t)
              (done ++ placeholder name).length (placeholders ++ [name]) :=
            extractPlaceholdersFrom_slot hs
        _ = .ok (placeholders ++ [name] ++ names t) := ih _ htail
        _ = _ := by rw [List.append_assoc]; rfl

theorem extractPlaceholders_render (ht : WellFormed braces t) :
    extractPlaceholders (render braces t) = .ok (names t) :=
  extractPlaceholdersFrom_render [] ht

/-! ## Keys filled in -/

variable {entry : IndexedEntry} {sampleField : ℕ} {σ : Text → Text}

/-- An entry with one string key for each placeholder and then, somewhere behind, its sample. -/
structure IndexedEntry.HasKeys (entry : IndexedEntry) (σ : Text → Text)
    (placeholders : List Text) : Prop where
  length : entry.descriptor.fields.length = placeholders.length + 1
  sampleField : entry.descriptor.sampleField = some placeholders.length
  string : ∀ i < placeholders.length, entry.descriptor.cppType i = some .string
  keys : ∀ i name, placeholders[i]? = some name → entry.getString i = σ name

/-- The keys from position `start` on. -/
theorem foldlM_fillKey {l : List Text} {start : ℕ} (ht : WellFormed braces t)
    (hl : ∀ n ∈ l, braces.Plain n ∧ braces.Plain (σ n)) (hne : ∀ n ∈ l, σ n ≠ [])
    (hkeys : ∀ i n, l[i]? = some n → start + i < sampleField ∧
      entry.descriptor.cppType (start + i) = some .string ∧ entry.getString (start + i) = σ n) :
    (l.zipIdx start).foldlM (fillKey entry sampleField) (render braces t) =
      .ok (render braces (assignAll σ l t)) := by
  induction l generalizing t start with
  | nil => rfl
  | cons name l ih =>
    obtain ⟨hname, hl⟩ := List.forall_mem_cons.1 hl
    obtain ⟨hneName, hne⟩ := List.forall_mem_cons.1 hne
    obtain ⟨hlt, hstring, hkey⟩ := hkeys 0 name rfl
    rw [Nat.add_zero] at hlt hstring hkey
    have hstep : fillKey entry sampleField (render braces t) (name, start) =
        .ok (render braces (assign name (σ name) t)) := by
      have hdeclared : ¬ (start = sampleField ∨ entry.descriptor.cppType start ≠ some .string) := by
        rintro (heq | hother)
        · exact hlt.ne heq
        · exact hother hstring
      rw [fillKey, if_neg hdeclared, hkey, if_neg hneName, replaceAll,
        Strings.replaceAll_render ht hname.1]
    rw [List.zipIdx_cons, List.foldlM_cons, hstep]
    apply ih (ht.assign hname.2) hl hne
    intro i n hi
    have hi' := hkeys (i + 1) n hi
    rwa [← Nat.add_assoc, Nat.add_right_comm] at hi'

theorem renderIndexedNodeId_render (ht : WellFormed braces t)
    (hσ : ∀ n ∈ names t, braces.Plain (σ n)) (hne : ∀ n ∈ names t, σ n ≠ [])
    (hentry : entry.HasKeys σ (names t)) :
    renderIndexedNodeId (render braces t) entry (names t) = .ok (substitute σ t) := by
  have hplain := plain_substitute ht hσ
  have hfold : (names t).zipIdx.foldlM (fillKey entry (names t).length) (render braces t) =
      .ok (substitute σ t) := by
    rw [foldlM_fillKey ht (fun n hn ↦ ⟨ht.plain_of_mem_names hn, hσ n hn⟩) hne,
      render_assignAll (List.Subset.refl _)]
    intro i n hi
    have hlt : i < (names t).length := (List.getElem?_eq_some_iff.1 hi).1
    rw [Nat.zero_add]
    exact ⟨hlt, hentry.string i hlt, hentry.keys i n hi⟩
  have hresolved : ¬ (find (substitute σ t) [braces.opening] 0 ≠ none ∨
      find (substitute σ t) [braces.closing] 0 ≠ none) := by
    rw [find_eq_none_of_notMem hplain.1, find_eq_none_of_notMem hplain.2]
    simp
  rw [renderIndexedNodeId, hentry.sampleField]
  simp only [hentry.length, ne_eq, not_true_eq_false, if_false, hfold]
  exact if_neg hresolved

end DaphneSc.Bridge.V8
