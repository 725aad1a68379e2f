import DaphneSc.Program.Results
import DaphneSc.Strings.Template

/-!
# The tag-list registry

An entry of the tag list names a NodeId pattern with placeholders in braces. The expansion replaces
the placeholders by the configured instances, one placeholder after the other in the order of the
pattern. The bus and the address of an I2C device are not expanded independently: where both occur,
they are replaced first and only by the configured pairs.
-/

namespace DaphneSc.Bridge

open Program Strings

/-- A `std::string`, position by position. -/
abbrev Text := List Char

instance : LawfulBEq Text := inferInstance

/-- What a `std::runtime_error` says. -/
abbrev RuntimeError := Text

/-- The text survives as a C string. -/
def NulFree (text : Text) : Prop := '\x00' ∉ text

abbrev braces : Delimiters Char := ⟨'\x7b', '\x7d', by decide⟩

/-- `"{" + name + "}"` -/
abbrev placeholder (name : Text) : Text := braces.quote name

abbrev boardIdName : Text := "BoardId".toList

namespace Registry

inductive ValueType where
  | Boolean
  | Integer
  | Long
  | Double
  | String
  | DateTime
  deriving DecidableEq, Repr

inductive Access where
  | ReadOnly
  | WriteOnly
  deriving DecidableEq, Repr

structure Entry where
  (subsystem name description nodeIdPattern : Text)
  valueType : ValueType := .String
  access : Access := .ReadOnly
  (engineeringUnits implementationStatus controlOwner : Text)
  deriving DecidableEq

structure ExpandedNode where
  entry : Entry
  nodeId : Text
  deriving DecidableEq

structure ExpansionConfig where
  instances : Text → Option (List Text)
  i2cDevices : List (Text × Text)
  maximumNodes : ℕ := 100000

abbrev kNamespacePrefix : Text := "nsu=urn:dune:pds:daphne;s=".toList

abbrev busName : Text := "Bus".toList

abbrev addressName : Text := "Address".toList

/-! ## Expansion -/

def stringNodeId (nodeIdPattern : Text) : Except RuntimeError Text :=
  if kNamespacePrefix.isPrefixOf nodeIdPattern then
    match nodeIdPattern.drop kNamespacePrefix.length with
    | [] => .error "empty registry string NodeId".toList
    | c :: result => .ok (c :: result)
  else .error ("registry NodeId is outside urn:dune:pds:daphne: ".toList ++ nodeIdPattern)

/-- The loop of `placeholders` at `cursor`. What has been seen is what has been found. -/
def placeholdersFrom (pattern : Text) (cursor : ℕ) (result : List Text) :
    Except RuntimeError (List Text) :=
  match _hopen : find pattern [braces.opening] cursor with
  | none => .ok result
  | some cursor' =>
    match _hend : find pattern [braces.closing] (cursor' + 1) with
    | none => .error ("unterminated registry placeholder: ".toList ++ pattern)
    | some stop =>
      let name := (pattern.drop (cursor' + 1)).take (stop - cursor' - 1)
      if name = [] then .error ("empty registry placeholder: ".toList ++ pattern)
      else placeholdersFrom pattern (stop + 1) (if name ∈ result then result else result ++ [name])
termination_by pattern.length - cursor
decreasing_by
  have hle := le_of_find_eq_some _hopen
  have hle' := le_of_find_eq_some _hend
  have hend := add_le_of_find_eq_some _hend
  rw [List.length_singleton] at hend
  omega

def placeholders (pattern : Text) : Except RuntimeError (List Text) := placeholdersFrom pattern 0 []

def replaceAll (value needle replacement : Text) : Text :=
  Strings.replaceAll value needle replacement

def expandRecursive (entry : Entry) (config : ExpansionConfig) :
    List Text → Text → List ExpandedNode → Except RuntimeError (List ExpandedNode)
  | [], nodeId, result =>
    if config.maximumNodes ≤ result.length then
      .error "registry expansion exceeds configured maximum node count".toList
    else if find nodeId [braces.opening] 0 ≠ none then
      .error ("unexpanded registry NodeId: ".toList ++ nodeId)
    else .ok (result ++ [⟨entry, nodeId⟩])
  | name :: names, nodeId, result =>
    if config.maximumNodes ≤ result.length then
      .error "registry expansion exceeds configured maximum node count".toList
    else
      let missing := "no controlled instances configured for ".toList ++ placeholder name
      match config.instances name with
      | none => .error missing
      | some [] => .error missing
      | some instances =>
        instances.foldlM (fun result value ↦
          expandRecursive entry config names (replaceAll nodeId (placeholder name) value) result)
          result

/-- One turn of the loop over the configured bus and address pairs. -/
def expandPair (entry : Entry) (config : ExpansionConfig) (names : List Text) (id : Text)
    (entryNodes : List ExpandedNode) (device : Text × Text) :
    Except RuntimeError (List ExpandedNode) :=
  let pairedId := replaceAll id (placeholder busName) device.1
  let pairedId := replaceAll pairedId (placeholder addressName) device.2
  expandRecursive entry config names pairedId entryNodes

/-- The nodes of one entry. -/
def expandEntry (config : ExpansionConfig) (entry : Entry) :
    Except RuntimeError (List ExpandedNode) := do
  let id ← stringNodeId entry.nodeIdPattern
  let names ← placeholders id
  if busName ∈ names ∧ addressName ∈ names then
    if config.i2cDevices = [] then
      .error "no controlled I2C bus/address pairs configured".toList
    else
      let names := (names.filter (· ≠ busName)).filter (· ≠ addressName)
      config.i2cDevices.foldlM (expandPair entry config names id) []
  else expandRecursive entry config names id []

/-- One node goes into the result when its NodeId is new and there is room for it. -/
def addNode (config : ExpansionConfig) (result : List ExpandedNode) (node : ExpandedNode) :
    Except RuntimeError (List ExpandedNode) :=
  if node.nodeId ∈ result.map ExpandedNode.nodeId then
    .error ("duplicate expanded registry NodeId: ".toList ++ node.nodeId)
  else if config.maximumNodes < result.length + 1 then
    .error "registry expansion exceeds configured maximum node count".toList
  else .ok (result ++ [node])

def expand (entries : List Entry) (config : ExpansionConfig) :
    Except RuntimeError (List ExpandedNode) :=
  entries.foldlM (fun result entry ↦ do
    let entryNodes ← expandEntry config entry
    entryNodes.foldlM (addNode config) result) []

/-! ## Placeholders of a written template -/

variable {t : Template Char} {pattern done id name : Text} {cursor cursor' stop : ℕ}
  {result : List Text}

theorem placeholdersFrom_eq : placeholdersFrom pattern cursor result =
    match find pattern [braces.opening] cursor with
    | none => .ok result
    | some cursor' =>
      match find pattern [braces.closing] (cursor' + 1) with
      | none => .error ("unterminated registry placeholder: ".toList ++ pattern)
      | some stop =>
        let name := (pattern.drop (cursor' + 1)).take (stop - cursor' - 1)
        if name = [] then .error ("empty registry placeholder: ".toList ++ pattern)
        else placeholdersFrom pattern (stop + 1)
          (if name ∈ result then result else result ++ [name]) := by
  rw [placeholdersFrom]
  split
  · next hopen => rw [hopen]
  · next start hopen =>
    simp only [hopen]
    split
    · next hend => rw [hend]
    · next stop hend => rw [hend]

theorem placeholdersFrom_of_find_eq
    (h : find pattern [braces.opening] cursor = find pattern [braces.opening] cursor') :
    placeholdersFrom pattern cursor result = placeholdersFrom pattern cursor' result := by
  rw [placeholdersFrom_eq, placeholdersFrom_eq, h]

theorem placeholdersFrom_slot (h : braces.Plain name) (hne : name ≠ []) :
    placeholdersFrom (done ++ render braces (.slot name :: t)) done.length result =
      placeholdersFrom (done ++ placeholder name ++ render braces t)
        (done ++ placeholder name).length
        (if name ∈ result then result else result ++ [name]) := by
  have hlength : done.length + 1 + name.length - done.length - 1 = name.length := by omega
  rw [placeholdersFrom_eq, find_opening_slot]
  simp only [find_closing_slot h, hlength, take_drop_slot, if_neg hne]
  rw [length_append_quote, List.append_assoc]
  rfl

/-- A name is listed where it stands first. -/
theorem placeholdersFrom_render (done : Text) (ht : WellFormed braces t)
    (hne : ∀ n ∈ names t, n ≠ []) :
    placeholdersFrom (done ++ render braces t) done.length result =
      .ok ((names t).foldl (fun r n ↦ if n ∈ r then r else r ++ [n]) result) := by
  induction t generalizing done result with
  | nil => rw [placeholdersFrom_eq, find_opening_nil, names_nil, List.foldl_nil]
  | cons s t ih =>
    obtain ⟨hs, htail⟩ := wellFormed_cons.1 ht
    cases s with
    | text content =>
      calc
        _ = placeholdersFrom (done ++ content ++ render braces t) (done ++ content).length
              result := by
            have hfind := find_opening_text done t hs
            rw [render_cons, ← List.append_assoc] at hfind ⊢
            exact placeholdersFrom_of_find_eq hfind
        _ = _ := ih _ htail hne
    | slot name =>
      obtain ⟨hname, hne⟩ := List.forall_mem_cons.1 hne
      calc
        _ = placeholdersFrom (done ++ placeholder name ++ render braces t)
              (done ++ placeholder name).length
              (if name ∈ result then result else result ++ [name]) :=
            placeholdersFrom_slot hs hname
        _ = _ := ih _ htail hne

theorem foldl_new_eq_append {l : List Text} (h : (result ++ l).Nodup) :
    l.foldl (fun r n ↦ if n ∈ r then r else r ++ [n]) result = result ++ l := by
  induction l generalizing result with
  | nil => exact (List.append_nil result).symm
  | cons name l ih =>
    have hnew : name ∉ result := by
      intro hmem
      exact (List.nodup_append.1 h).2.2 name hmem name List.mem_cons_self rfl
    rw [List.foldl_cons, if_neg hnew, ih (by rwa [List.append_assoc]), List.append_assoc]
    rfl

theorem placeholders_render (ht : WellFormed braces t) (hne : ∀ n ∈ names t, n ≠ [])
    (hnodup : (names t).Nodup) : placeholders (render braces t) = .ok (names t) :=
  calc
    _ = .ok ((names t).foldl (fun r n ↦ if n ∈ r then r else r ++ [n]) []) :=
        placeholdersFrom_render [] ht hne
    _ = _ := congrArg _ (foldl_new_eq_append hnodup)

theorem replaceAll_render {value : Text} (ht : WellFormed braces t) (hname : braces.Plain name) :
    replaceAll (render braces t) (placeholder name) value = render braces (assign name value t) :=
  Strings.replaceAll_render ht hname

/-! ## Nodes of an entry -/

variable {entry : Entry} {config : ExpansionConfig} {node : ExpandedNode} {l : List Text}
  {nodes out : List ExpandedNode} {σ : Text → Text}

theorem expandRecursive_cons {nodeId value : Text} {values : List Text}
    (hinstances : config.instances name = some (value :: values))
    (hroom : nodes.length < config.maximumNodes) :
    expandRecursive entry config (name :: l) nodeId nodes =
      (value :: values).foldlM (fun result value ↦
        expandRecursive entry config l (replaceAll nodeId (placeholder name) value) result)
        nodes := by
  rw [expandRecursive, if_neg hroom.not_ge, hinstances]

/-- Every instance of the first placeholder has been gone through. -/
theorem expandRecursive_cons_ok {nodeId : Text}
    (h : expandRecursive entry config (name :: l) nodeId nodes = .ok out) :
    ∃ values, config.instances name = some values ∧
      values.foldlM (fun result value ↦
        expandRecursive entry config l (replaceAll nodeId (placeholder name) value) result)
        nodes = .ok out := by
  rw [expandRecursive] at h
  split at h
  · cases h
  · split at h
    · cases h
    · cases h
    · next values _ hinstances => exact ⟨values, hinstances, h⟩

theorem expandRecursive_nil_ok {nodeId : Text}
    (h : expandRecursive entry config [] nodeId nodes = .ok out) :
    out = nodes ++ [⟨entry, nodeId⟩] := by
  rw [expandRecursive] at h
  split at h
  · cases h
  · split at h
    · cases h
    · exact (Except.ok.inj h).symm

/-- What has been found before is kept. -/
theorem expandRecursive_keeps (nodeId : Text) (hnode : node ∈ nodes)
    (h : expandRecursive entry config l nodeId nodes = .ok out) : node ∈ out := by
  induction l generalizing nodeId nodes out with
  | nil =>
    rw [expandRecursive_nil_ok h]
    exact List.mem_append_left _ hnode
  | cons name l ih =>
    obtain ⟨values, -, hfold⟩ := expandRecursive_cons_ok h
    exact Results.foldlM_ok_keeps (P := (node ∈ ·)) (fun _ _ _ hstep hmem ↦ ih _ hmem hstep) hfold
      hnode

/-- The node of an assignment that draws its values from the configured instances is found. -/
theorem mem_expandRecursive (ht : WellFormed braces t)
    (hl : ∀ n ∈ l, braces.Plain n ∧ braces.Plain (σ n))
    (hnames : names t ⊆ l)
    (hdrawn : ∀ n ∈ l, ∀ values, config.instances n = some values → σ n ∈ values)
    (h : expandRecursive entry config l (render braces t) nodes = .ok out) :
    ⟨entry, substitute σ t⟩ ∈ out := by
  induction l generalizing t nodes out with
  | nil =>
    rw [expandRecursive_nil_ok h, render_eq_substitute (List.subset_nil.1 hnames)]
    exact List.mem_append_right _ List.mem_cons_self
  | cons name l ih =>
    obtain ⟨hname, hl⟩ := List.forall_mem_cons.1 hl
    obtain ⟨hdrawnName, hdrawn⟩ := List.forall_mem_cons.1 hdrawn
    obtain ⟨values, hinstances, hfold⟩ := expandRecursive_cons_ok h
    apply Results.foldlM_ok_reaches (P := (⟨entry, substitute σ t⟩ ∈ ·)) _ _
      (hdrawnName values hinstances) hfold
    · exact fun _ _ _ hstep hmem ↦ expandRecursive_keeps _ hmem hstep
    · intro result out hstep
      rw [replaceAll_render ht hname.1] at hstep
      rw [← substitute_assign name]
      exact ih (ht.assign hname.2) hl (names_assign_subset hnames) hdrawn hstep

/-- With one instance for every placeholder there is one node. -/
theorem expandRecursive_single (ht : WellFormed braces t)
    (hl : ∀ n ∈ l, braces.Plain n ∧ braces.Plain (σ n)) (hnames : names t ⊆ l)
    (hsingle : ∀ n ∈ l, config.instances n = some [σ n])
    (hroom : nodes.length < config.maximumNodes) :
    expandRecursive entry config l (render braces t) nodes =
      .ok (nodes ++ [⟨entry, substitute σ t⟩]) := by
  induction l generalizing t with
  | nil =>
    have hnil : names t = [] := List.subset_nil.1 hnames
    have hrender : render braces t = substitute σ t := render_eq_substitute hnil
    have hplain : braces.Plain (substitute σ t) := by
      apply plain_substitute ht
      rw [hnil]
      exact fun n hn ↦ absurd hn List.not_mem_nil
    have hfind : find (substitute σ t) [braces.opening] 0 = none :=
      find_eq_none_of_notMem hplain.1
    rw [expandRecursive, if_neg hroom.not_ge, hrender, if_neg (not_not.2 hfind)]
  | cons name l ih =>
    obtain ⟨hname, hl⟩ := List.forall_mem_cons.1 hl
    obtain ⟨hsingleName, hsingle⟩ := List.forall_mem_cons.1 hsingle
    calc
      _ = expandRecursive entry config l (render braces (assign name (σ name) t)) nodes
          >>= pure := by
          rw [expandRecursive_cons hsingleName hroom, List.foldlM_cons,
            replaceAll_render ht hname.1]
          rfl
      _ = expandRecursive entry config l (render braces (assign name (σ name) t)) nodes :=
        bind_pure _
      _ = .ok (nodes ++ [⟨entry, substitute σ (assign name (σ name) t)⟩]) :=
          ih (ht.assign hname.2) hl (names_assign_subset hnames) hsingle
      _ = _ := by rw [substitute_assign]

/-! ## Nodes of the registry -/

/-- The bus and the address of an I2C device both occur. -/
abbrev Paired (l : List Text) : Prop := busName ∈ l ∧ addressName ∈ l

/-- An assignment takes the values for the placeholders `l` from the configuration. -/
structure ExpansionConfig.Offers (config : ExpansionConfig) (σ : Text → Text) (l : List Text) :
    Prop where
  instances : ∀ n ∈ l, (Paired l → n ≠ busName ∧ n ≠ addressName) →
    ∀ values, config.instances n = some values → σ n ∈ values
  pair : Paired l → (σ busName, σ addressName) ∈ config.i2cDevices

/-- The configuration that offers one assignment. -/
def ExpansionConfig.only (σ : Text → Text) : ExpansionConfig where
  instances n := some [σ n]
  i2cDevices := [(σ busName, σ addressName)]

/-- What is left of a template once bus and address have been replaced. -/
abbrev assignPair (σ : Text → Text) (t : Template Char) : Template Char :=
  assign addressName (σ addressName) (assign busName (σ busName) t)

theorem expandPair_render (ht : WellFormed braces t) (hpaired : Paired (names t))
    (hσ : ∀ n ∈ names t, braces.Plain (σ n)) :
    expandPair entry config l (render braces t) nodes (σ busName, σ addressName) =
      expandRecursive entry config l (render braces (assignPair σ t)) nodes := by
  rw [expandPair, replaceAll_render ht (ht.plain_of_mem_names hpaired.1),
    replaceAll_render (ht.assign (hσ _ hpaired.1)) (ht.plain_of_mem_names hpaired.2)]

theorem names_assignPair : names (assignPair σ t) =
    ((names t).filter (· ≠ busName)).filter (· ≠ addressName) := by
  rw [names_assign, names_assign]

theorem mem_names_assignPair {n : Text} :
    n ∈ names (assignPair σ t) ↔ n ∈ names t ∧ n ≠ busName ∧ n ≠ addressName := by
  rw [names_assignPair]
  simp [and_assoc, and_comm]

/-- What an entry expands to, once its pattern is known. -/
theorem expandEntry_eq (ht : WellFormed braces t) (hne : ∀ n ∈ names t, n ≠ [])
    (hnodup : (names t).Nodup) (hid : stringNodeId entry.nodeIdPattern = .ok (render braces t)) :
    expandEntry config entry =
      if Paired (names t) then
        if config.i2cDevices = [] then
          .error "no controlled I2C bus/address pairs configured".toList
        else
          config.i2cDevices.foldlM
            (expandPair entry config (names (assignPair σ t)) (render braces t)) []
      else expandRecursive entry config (names t) (render braces t) [] := by
  rw [names_assignPair, expandEntry, hid]
  change (placeholders (render braces t) >>= _) = _
  rw [placeholders_render ht hne hnodup]
  rfl

theorem addNode_ok (h : addNode config nodes node = .ok out) : out = nodes ++ [node] := by
  rw [addNode] at h
  split at h
  · cases h
  · split at h
    · cases h
    · exact (Except.ok.inj h).symm

theorem addNodes_ok {added : List ExpandedNode}
    (h : added.foldlM (addNode config) nodes = .ok out) :
    out = nodes ++ added := by
  have hout : out = nodes ++ added.flatMap fun node ↦ [node] :=
    Results.foldlM_ok_append (fun _ _ _ _ hstep ↦ addNode_ok hstep) h
  rwa [List.flatMap_singleton'] at hout

section Expansion

variable (ht : WellFormed braces t) (hne : ∀ n ∈ names t, n ≠ []) (hnodup : (names t).Nodup)
  (hσ : ∀ n ∈ names t, braces.Plain (σ n))
  (hid : stringNodeId entry.nodeIdPattern = .ok (render braces t))
include ht hne hnodup hσ hid

theorem mem_expandEntry (hoffers : config.Offers σ (names t))
    (h : expandEntry config entry = .ok out) : ⟨entry, substitute σ t⟩ ∈ out := by
  have hplain : ∀ n ∈ names t, braces.Plain n ∧ braces.Plain (σ n) :=
    fun n hn ↦ ⟨ht.plain_of_mem_names hn, hσ n hn⟩
  rw [expandEntry_eq (σ := σ) ht hne hnodup hid] at h
  by_cases hpaired : Paired (names t)
  · rw [if_pos hpaired] at h
    split at h
    · cases h
    · apply Results.foldlM_ok_reaches (P := (⟨entry, substitute σ t⟩ ∈ ·)) _ _
        (hoffers.pair hpaired) h
      · exact fun _ _ _ hstep hmem ↦ expandRecursive_keeps _ hmem hstep
      · intro result out hstep
        have hwf : WellFormed braces (assignPair σ t) :=
          (ht.assign (hσ _ hpaired.1)).assign (hσ _ hpaired.2)
        rw [expandPair_render ht hpaired hσ] at hstep
        rw [← substitute_assign busName, ← substitute_assign addressName]
        apply mem_expandRecursive hwf _ (List.Subset.refl _) _ hstep
        · exact fun n hn ↦ hplain n (mem_names_assignPair.1 hn).1
        · intro n hn
          obtain ⟨hmem, hother⟩ := mem_names_assignPair.1 hn
          exact hoffers.instances n hmem fun _ ↦ hother
  · rw [if_neg hpaired] at h
    apply mem_expandRecursive ht hplain (List.Subset.refl _) _ h
    exact fun n hn ↦ hoffers.instances n hn fun hp ↦ absurd hp hpaired

theorem expandEntry_only :
    expandEntry (.only σ) entry = .ok [⟨entry, substitute σ t⟩] := by
  have hplain : ∀ n ∈ names t, braces.Plain n ∧ braces.Plain (σ n) :=
    fun n hn ↦ ⟨ht.plain_of_mem_names hn, hσ n hn⟩
  have hroom : ([] : List ExpandedNode).length < (ExpansionConfig.only σ).maximumNodes :=
    Nat.succ_pos _
  rw [expandEntry_eq (σ := σ) ht hne hnodup hid]
  by_cases hpaired : Paired (names t)
  · have hwf : WellFormed braces (assignPair σ t) :=
      (ht.assign (hσ _ hpaired.1)).assign (hσ _ hpaired.2)
    have hsingle : expandRecursive entry (.only σ) (names (assignPair σ t))
        (render braces (assignPair σ t)) [] = .ok [⟨entry, substitute σ (assignPair σ t)⟩] :=
      expandRecursive_single hwf (fun n hn ↦ hplain n (mem_names_assignPair.1 hn).1)
        (List.Subset.refl _) (fun _ _ ↦ rfl) hroom
    have hdevices : (ExpansionConfig.only σ).i2cDevices ≠ [] := List.cons_ne_nil _ _
    rw [if_pos hpaired, if_neg hdevices]
    change expandPair _ _ _ _ _ _ >>= pure = _
    rw [bind_pure, expandPair_render ht hpaired hσ, hsingle, substitute_assign, substitute_assign]
  · rw [if_neg hpaired]
    exact expandRecursive_single ht hplain (List.Subset.refl _) (fun _ _ ↦ rfl) hroom

theorem mem_expand {entries : List Entry} (hentry : entry ∈ entries)
    (hoffers : config.Offers σ (names t)) (h : expand entries config = .ok out) :
    ⟨entry, substitute σ t⟩ ∈ out := by
  apply Results.foldlM_ok_reaches (P := (⟨entry, substitute σ t⟩ ∈ ·)) _ _ hentry h
  · intro result e out hstep hmem
    obtain ⟨entryNodes, -, hfold⟩ := Results.bind_ok_iff.1 hstep
    rw [addNodes_ok hfold]
    exact List.mem_append_left _ hmem
  · intro result out hstep
    obtain ⟨entryNodes, hentryNodes, hfold⟩ := Results.bind_ok_iff.1 hstep
    rw [addNodes_ok hfold]
    exact List.mem_append_right _ (mem_expandEntry ht hne hnodup hσ hid hoffers hentryNodes)

theorem expand_only : expand [entry] (.only σ) = .ok [⟨entry, substitute σ t⟩] := by
  change ((expandEntry (.only σ) entry >>= fun entryNodes ↦
    entryNodes.foldlM (addNode (.only σ)) []) >>= pure) = _
  rw [expandEntry_only ht hne hnodup hσ hid, bind_pure]
  rfl

/-- With one instance for every placeholder an entry without bus and address has one node. -/
theorem expand_single (hunpaired : ¬ Paired (names t))
    (hsingle : ∀ n ∈ names t, config.instances n = some [σ n]) (hroom : 0 < config.maximumNodes) :
    expand [entry] config = .ok [⟨entry, substitute σ t⟩] := by
  have hentry : expandEntry config entry = .ok [⟨entry, substitute σ t⟩] := by
    rw [expandEntry_eq (σ := σ) ht hne hnodup hid, if_neg hunpaired]
    exact expandRecursive_single ht (fun n hn ↦ ⟨ht.plain_of_mem_names hn, hσ n hn⟩)
      (List.Subset.refl _) hsingle hroom
  have hadd : addNode config [] ⟨entry, substitute σ t⟩ = .ok [⟨entry, substitute σ t⟩] := by
    have hfull : ¬ config.maximumNodes < ([] : List ExpandedNode).length + 1 := Nat.not_lt.2 hroom
    rw [addNode, if_neg hfull]
    rfl
  change ((expandEntry config entry >>= fun entryNodes ↦
    entryNodes.foldlM (addNode config) []) >>= pure) = _
  rw [hentry, bind_pure]
  change addNode config [] ⟨entry, substitute σ t⟩ >>= pure = _
  rw [bind_pure, hadd]

end Expansion

end Registry

end DaphneSc.Bridge
