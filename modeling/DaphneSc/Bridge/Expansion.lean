import DaphneSc.Bridge.Registry
import DaphneSc.Slots.Choices
import Mathlib.Data.List.Nodup

/-!
# What the registry expands to

The expansion is an enumeration. An entry stands for all assignments of configured instances to its
placeholders, and the registry lists them entry by entry, the last placeholder varying fastest. The
two limits on the number of nodes, one on the way down through the placeholders of an entry and one
when its nodes are taken over, come to one limit on the length of this list.
-/

namespace DaphneSc.Bridge.Registry

open Program Slots Strings

/-- An entry whose pattern has braces around placeholders only, no placeholder being empty. -/
structure PatternEntry where
  entry : Entry
  template : Template Char
  wellFormed : WellFormed braces template
  ne_nil : ∀ n ∈ names template, n ≠ []
  rest_ne_nil : render braces template ≠ []
  pattern_eq : entry.nodeIdPattern = kNamespacePrefix ++ render braces template

/-- The names in the order in which they occur first. -/
def firstOccurrences (l : List Text) : List Text :=
  l.foldl (fun r n ↦ if n ∈ r then r else r ++ [n]) []

namespace PatternEntry

def placeholders (e : PatternEntry) : List Text := firstOccurrences (names e.template)

/-- The node of one assignment: the pattern with all its placeholders substituted. -/
def node (e : PatternEntry) (σ : Text → Text) : ExpandedNode := ⟨e.entry, substitute σ e.template⟩

end PatternEntry

namespace ExpansionConfig

variable (config : ExpansionConfig) (l : List Text)

/-- No instance, bus or address contains a brace. -/
structure Plain : Prop where
  instances : ∀ n values, config.instances n = some values → ∀ value ∈ values, braces.Plain value
  devices : ∀ device ∈ config.i2cDevices, braces.Plain device.1 ∧ braces.Plain device.2

/-- The configured instances of a placeholder. -/
def values (n : Text) : List Text := (config.instances n).getD []

/-- The placeholders that take their values one by one: all but an I2C pair. -/
def Single (n : Text) : Prop := Paired l → n ≠ busName ∧ n ≠ addressName

/-- An assignment of configured instances to the placeholders `l`. -/
structure Assigns (σ : Text → Text) : Prop where
  single : ∀ n ∈ l, Single l n → σ n ∈ config.values n
  pair : Paired l → (σ busName, σ addressName) ∈ config.i2cDevices
  elsewhere : ∀ n ∉ l, σ n = []

/-- Every placeholder has at least one instance. -/
structure Covers : Prop where
  single : ∀ n ∈ l, Single l n → config.values n ≠ []
  pair : Paired l → config.i2cDevices ≠ []

abbrev unpaired : List Text := (l.filter (· ≠ busName)).filter (· ≠ addressName)

def pairValues (device : Text × Text) : Text → Text :=
  Function.update (Function.update (fun _ ↦ []) busName device.1) addressName device.2

/-- The assignments in the order of the expansion. Instances that are configured twice count
twice. -/
def assignments : List (Text → Text) :=
  if Paired l then
    config.i2cDevices.flatMap fun device ↦ choices config.values (unpaired l) (pairValues device)
  else choices config.values l fun _ ↦ []

end ExpansionConfig

/-- The nodes of one entry, one for each assignment. -/
def PatternEntry.nodes (config : ExpansionConfig) (e : PatternEntry) : List ExpandedNode :=
  (config.assignments e.placeholders).map e.node

/-- The nodes of all entries, entry by entry. -/
def expansion (config : ExpansionConfig) (entries : List PatternEntry) : List ExpandedNode :=
  entries.flatMap (PatternEntry.nodes config)

variable {entry : Entry} {config : ExpansionConfig} {t : Template Char} {l : List Text}
  {n name : Text} {nodes out : List ExpandedNode} {σ : Text → Text} {e : PatternEntry}
  {entries : List PatternEntry}

/-! ## Placeholders -/

theorem mem_foldl_new {r : List Text} :
    n ∈ l.foldl (fun r n ↦ if n ∈ r then r else r ++ [n]) r ↔ n ∈ r ∨ n ∈ l := by
  induction l generalizing r with
  | nil => simp
  | cons name l ih =>
    rw [List.foldl_cons, ih, List.mem_cons, ← or_assoc]
    apply or_congr_left
    split
    · next hmem => exact ⟨Or.inl, fun h ↦ h.elim id (· ▸ hmem)⟩
    · rw [List.mem_append, List.mem_singleton]

theorem mem_firstOccurrences : n ∈ firstOccurrences l ↔ n ∈ l := by
  simp [firstOccurrences, mem_foldl_new]

theorem nodup_foldl_new {r : List Text} (hr : r.Nodup) :
    (l.foldl (fun r n ↦ if n ∈ r then r else r ++ [n]) r).Nodup := by
  induction l generalizing r with
  | nil => exact hr
  | cons name l ih =>
    rw [List.foldl_cons]
    apply ih
    split
    · exact hr
    · next hnew => exact hr.append (List.nodup_singleton _) (by simpa using hnew)

theorem nodup_firstOccurrences : (firstOccurrences l).Nodup := nodup_foldl_new List.nodup_nil

theorem placeholders_eq : placeholders (render braces e.template) = .ok e.placeholders :=
  placeholdersFrom_render [] e.wellFormed e.ne_nil

theorem stringNodeId_eq :
    stringNodeId e.entry.nodeIdPattern = .ok (render braces e.template) := by
  have hprefix : kNamespacePrefix.isPrefixOf (kNamespacePrefix ++ render braces e.template) := by
    simp
  rw [stringNodeId, e.pattern_eq, if_pos hprefix, List.drop_left]
  cases h : render braces e.template with
  | nil => exact absurd h e.rest_ne_nil
  | cons c result => rfl

namespace PatternEntry

theorem plain_of_mem (hn : n ∈ e.placeholders) : braces.Plain n :=
  e.wellFormed.plain_of_mem_names (mem_firstOccurrences.mp hn)

theorem names_subset : names e.template ⊆ e.placeholders := fun _ ↦ mem_firstOccurrences.mpr

end PatternEntry

/-! ## Assignments -/

namespace ExpansionConfig

theorem Plain.of_mem_values (hconfig : config.Plain) {value : Text}
    (h : value ∈ config.values n) : braces.Plain value := by
  rw [values] at h
  cases hvalues : config.instances n with
  | none =>
    rw [hvalues] at h
    exact absurd h List.not_mem_nil
  | some values =>
    rw [hvalues] at h
    exact hconfig.instances n values hvalues value h

theorem mem_unpaired : n ∈ unpaired l ↔ n ∈ l ∧ n ≠ busName ∧ n ≠ addressName := by
  simp [and_comm]

theorem busName_ne_addressName : busName ≠ addressName := by decide

@[simp] theorem pairValues_bus (device : Text × Text) : pairValues device busName = device.1 := by
  rw [pairValues, Function.update_of_ne busName_ne_addressName, Function.update_self]

@[simp] theorem pairValues_address (device : Text × Text) :
    pairValues device addressName = device.2 := by
  rw [pairValues, Function.update_self]

theorem pairValues_of_ne {device : Text × Text} (hbus : n ≠ busName) (haddress : n ≠ addressName) :
    pairValues device n = [] := by
  rw [pairValues, Function.update_of_ne haddress, Function.update_of_ne hbus]

theorem mem_assignments (hl : l.Nodup) : σ ∈ config.assignments l ↔ config.Assigns l σ := by
  rw [assignments]
  split
  · next hpaired =>
    have hunpaired : (unpaired l).Nodup := (hl.filter _).filter _
    rw [List.mem_flatMap]
    constructor
    · intro h
      obtain ⟨device, hdevice, hσ⟩ := h
      obtain ⟨hvalues, helse⟩ := (mem_choices hunpaired).mp hσ
      have hbus : σ busName = device.1 :=
        (helse _ fun h ↦ (mem_unpaired.mp h).2.1 rfl).trans (pairValues_bus device)
      have haddress : σ addressName = device.2 :=
        (helse _ fun h ↦ (mem_unpaired.mp h).2.2 rfl).trans (pairValues_address device)
      constructor
      · exact fun n hn hsingle ↦ hvalues n (mem_unpaired.mpr ⟨hn, hsingle hpaired⟩)
      · intro _
        rw [hbus, haddress]
        exact hdevice
      · intro n hn
        rw [helse n fun h ↦ hn (mem_unpaired.mp h).1]
        exact pairValues_of_ne (fun h ↦ hn (h ▸ hpaired.1)) (fun h ↦ hn (h ▸ hpaired.2))
    · intro h
      refine ⟨(σ busName, σ addressName), h.pair hpaired, (mem_choices hunpaired).mpr ⟨?_, ?_⟩⟩
      · intro n hn
        obtain ⟨hmem, hother⟩ := mem_unpaired.mp hn
        exact h.single n hmem fun _ ↦ hother
      · intro n hn
        by_cases hbus : n = busName
        · rw [hbus, pairValues_bus]
        · by_cases haddress : n = addressName
          · rw [haddress, pairValues_address]
          · rw [pairValues_of_ne hbus haddress]
            exact h.elsewhere n fun hmem ↦ hn (mem_unpaired.mpr ⟨hmem, hbus, haddress⟩)
  · next hpaired =>
    rw [mem_choices hl]
    constructor
    · intro h
      exact ⟨fun n hn _ ↦ h.1 n hn, fun hp ↦ absurd hp hpaired, h.2⟩
    · intro h
      exact ⟨fun n hn ↦ h.single n hn fun hp ↦ absurd hp hpaired, h.elsewhere⟩

theorem Assigns.plain (hconfig : config.Plain) (h : config.Assigns l σ) (hn : n ∈ l) :
    braces.Plain (σ n) := by
  by_cases hsingle : Single l n
  · exact hconfig.of_mem_values (h.single n hn hsingle)
  · obtain ⟨hpaired, hname⟩ := Classical.not_imp.mp hsingle
    obtain ⟨hbus, haddress⟩ := hconfig.devices _ (h.pair hpaired)
    by_cases hname' : n = busName
    · rw [hname']
      exact hbus
    · have haddressName : n = addressName := by
        by_contra hne
        exact hname ⟨hname', hne⟩
      rw [haddressName]
      exact haddress

end ExpansionConfig

/-! ## Nodes of an entry -/

open ExpansionConfig

/-- The nodes of the assignments to `l`, for a pattern whose other placeholders are filled in. -/
abbrev choiceNodes (config : ExpansionConfig) (entry : Entry) (l : List Text) (σ : Text → Text)
    (t : Template Char) : List ExpandedNode :=
  (choices config.values l σ).map fun τ ↦ ⟨entry, substitute τ t⟩

theorem choiceNodes_cons (hl : (name :: l).Nodup) :
    choiceNodes config entry (name :: l) σ t =
      (config.values name).flatMap fun value ↦
        choiceNodes config entry l (Function.update σ name value) (assign name value t) := by
  rw [choiceNodes, choices_cons, List.map_flatMap]
  congr 1
  ext value : 1
  apply List.map_congr_left
  intro τ hτ
  obtain ⟨hname, hl⟩ := List.nodup_cons.mp hl
  have hvalue : τ name = value := by
    rw [((mem_choices hl).mp hτ).2 name hname, Function.update_self]
  rw [← hvalue, substitute_assign]

theorem lt_of_room (hcovers : ∀ n ∈ l, config.values n ≠ [])
    (hroom : (nodes ++ choiceNodes config entry l σ t).length ≤ config.maximumNodes) :
    nodes.length < config.maximumNodes := by
  have hpos : 0 < (choiceNodes config entry l σ t).length := by
    rw [List.length_map]
    exact List.length_pos_of_ne_nil (choices_ne_nil hcovers)
  rw [List.length_append] at hroom
  omega

section

variable (hconfig : config.Plain) (ht : WellFormed braces t) (hl : ∀ n ∈ l, braces.Plain n)
  (hnodup : l.Nodup) (hnames : names t ⊆ l)
include hconfig ht hl hnodup hnames

/-- Whatever `expandRecursive` returns has one new node for each assignment. -/
theorem expandRecursive_ok
    (h : expandRecursive entry config l (render braces t) nodes = .ok out) :
    out = nodes ++ choiceNodes config entry l σ t := by
  induction l generalizing t nodes out σ with
  | nil =>
    rw [expandRecursive_nil_ok h, render_eq_substitute (List.subset_nil.mp hnames)]
    rfl
  | cons name l ih =>
    obtain ⟨hname, hl⟩ := List.forall_mem_cons.mp hl
    obtain ⟨values, hinstances, hfold⟩ := expandRecursive_cons_ok h
    have hvalues : config.values name = values := by
      rw [ExpansionConfig.values, hinstances, Option.getD_some]
    rw [choiceNodes_cons hnodup, hvalues]
    apply Results.foldlM_ok_append _ hfold
    intro value hvalue result result' hstep
    rw [replaceAll_render ht hname] at hstep
    have hplain : braces.Plain value := hconfig.of_mem_values (hvalues ▸ hvalue)
    exact ih (ht.assign hplain) hl (List.nodup_cons.mp hnodup).2 (names_assign_subset hnames) hstep

/-- With an instance for every placeholder `expandRecursive` returns whenever there is room. -/
theorem expandRecursive_eq_ok (hcovers : ∀ n ∈ l, config.values n ≠ [])
    (hroom : (nodes ++ choiceNodes config entry l σ t).length ≤ config.maximumNodes) :
    expandRecursive entry config l (render braces t) nodes =
      .ok (nodes ++ choiceNodes config entry l σ t) := by
  induction l generalizing t nodes σ with
  | nil =>
    have hlt : nodes.length < config.maximumNodes := lt_of_room hcovers hroom
    have hnil : names t = [] := List.subset_nil.mp hnames
    have hplain : braces.Plain (substitute σ t) := by
      apply plain_substitute ht
      rw [hnil]
      exact fun n hn ↦ absurd hn List.not_mem_nil
    have hfind : find (substitute σ t) [braces.opening] 0 = none :=
      find_eq_none_of_notMem hplain.1
    rw [expandRecursive, if_neg hlt.not_ge, render_eq_substitute hnil, if_neg (not_not.mpr hfind)]
    rfl
  | cons name l ih =>
    have hlt : nodes.length < config.maximumNodes := lt_of_room hcovers hroom
    obtain ⟨hname, hl⟩ := List.forall_mem_cons.mp hl
    obtain ⟨hcoversName, hcovers⟩ := List.forall_mem_cons.mp hcovers
    obtain ⟨value, values, hvalues⟩ := List.exists_cons_of_ne_nil hcoversName
    have hinstances : config.instances name = some (value :: values) := by
      rw [ExpansionConfig.values] at hvalues
      cases hfound : config.instances name with
      | none =>
        rw [hfound] at hvalues
        cases hvalues
      | some found =>
        rw [hfound] at hvalues
        exact congrArg some hvalues
    rw [choiceNodes_cons hnodup, hvalues] at hroom ⊢
    rw [expandRecursive_cons hinstances hlt]
    apply Results.foldlM_eq_ok_append (Q := fun out ↦ out.length ≤ config.maximumNodes) _ _ hroom
    · intro out rest hlength
      rw [List.length_append] at hlength
      omega
    · intro value hvalue out hlength
      have hplain : braces.Plain value := hconfig.of_mem_values (hvalues ▸ hvalue)
      rw [replaceAll_render ht hname]
      exact ih (ht.assign hplain) hl (List.nodup_cons.mp hnodup).2 (names_assign_subset hnames)
        hcovers hlength

end

theorem expandEntry_pattern :
    expandEntry config e.entry =
      if Paired e.placeholders then
        if config.i2cDevices = [] then
          .error "no controlled I2C bus/address pairs configured".toList
        else
          config.i2cDevices.foldlM (expandPair e.entry config
            (unpaired e.placeholders) (render braces e.template)) []
      else expandRecursive e.entry config e.placeholders (render braces e.template) [] := by
  rw [expandEntry, stringNodeId_eq]
  change (placeholders (render braces e.template) >>= _) = _
  rw [placeholders_eq]
  rfl

/-- What is left of the pattern once the pair `device` has been replaced. -/
abbrev PatternEntry.pairTemplate (e : PatternEntry) (device : Text × Text) : Template Char :=
  assignPair (pairValues device) e.template

theorem nodup_unpaired : (unpaired e.placeholders).Nodup :=
  (nodup_firstOccurrences.filter _).filter _

theorem pairNodes_eq (device : Text × Text) :
    choiceNodes config e.entry (unpaired e.placeholders)
        (pairValues device) (e.pairTemplate device) =
      (choices config.values (unpaired e.placeholders)
        (pairValues device)).map e.node := by
  apply List.map_congr_left
  intro σ hσ
  have helse := ((mem_choices nodup_unpaired).mp hσ).2
  have hbus : pairValues device busName = σ busName :=
    (helse _ fun h ↦ (mem_unpaired.mp h).2.1 rfl).symm
  have haddress : pairValues device addressName = σ addressName :=
    (helse _ fun h ↦ (mem_unpaired.mp h).2.2 rfl).symm
  rw [PatternEntry.pairTemplate, assignPair, hbus, haddress, substitute_assign, substitute_assign]
  rfl

theorem nodes_of_paired (hpaired : Paired e.placeholders) :
    e.nodes config = config.i2cDevices.flatMap fun device ↦
      choiceNodes config e.entry (unpaired e.placeholders)
        (pairValues device) (e.pairTemplate device) := by
  rw [PatternEntry.nodes, ExpansionConfig.assignments, if_pos hpaired, List.map_flatMap]
  congr 1
  ext device : 1
  exact (pairNodes_eq device).symm

theorem nodes_of_not_paired (hpaired : ¬ Paired e.placeholders) :
    e.nodes config = choiceNodes config e.entry e.placeholders (fun _ ↦ []) e.template := by
  rw [PatternEntry.nodes, ExpansionConfig.assignments, if_neg hpaired]
  rfl

theorem paired_names (hpaired : Paired e.placeholders) : Paired (names e.template) :=
  ⟨mem_firstOccurrences.mp hpaired.1, mem_firstOccurrences.mp hpaired.2⟩

section

variable (hconfig : config.Plain) {device : Text × Text} (hdevice : device ∈ config.i2cDevices)
include hconfig hdevice

theorem pairValues_plain (n : Text) : braces.Plain (pairValues device n) := by
  obtain ⟨hbus, haddress⟩ := hconfig.devices device hdevice
  by_cases hnBus : n = busName
  · rw [hnBus, pairValues_bus]
    exact hbus
  · by_cases hnAddress : n = addressName
    · rw [hnAddress, pairValues_address]
      exact haddress
    · rw [pairValues_of_ne hnBus hnAddress]
      exact ⟨List.not_mem_nil, List.not_mem_nil⟩

theorem pairTemplate_wellFormed : WellFormed braces (e.pairTemplate device) :=
  (e.wellFormed.assign (pairValues_plain hconfig hdevice _)).assign
    (pairValues_plain hconfig hdevice _)

omit hconfig hdevice in
theorem names_pairTemplate_subset :
    names (e.pairTemplate device) ⊆ unpaired e.placeholders := by
  intro n hn
  obtain ⟨hmem, hother⟩ := mem_names_assignPair.mp hn
  exact mem_unpaired.mpr ⟨e.names_subset hmem, hother⟩

theorem expandPair_pattern (hpaired : Paired e.placeholders) :
    expandPair e.entry config (unpaired e.placeholders)
        (render braces e.template) nodes device =
      expandRecursive e.entry config (unpaired e.placeholders)
        (render braces (e.pairTemplate device)) nodes := by
  have hrender : expandPair e.entry config (unpaired e.placeholders) (render braces e.template)
      nodes
      (pairValues device busName, pairValues device addressName) = _ :=
    expandPair_render e.wellFormed (paired_names hpaired) fun n _ ↦
      pairValues_plain hconfig hdevice n
  rwa [pairValues_bus, pairValues_address] at hrender

end

theorem plain_of_mem_unpaired (hn : n ∈ unpaired e.placeholders) :
    braces.Plain n :=
  e.plain_of_mem (mem_unpaired.mp hn).1

theorem expandEntry_ok (hconfig : config.Plain) (h : expandEntry config e.entry = .ok out) :
    out = e.nodes config := by
  rw [expandEntry_pattern] at h
  by_cases hpaired : Paired e.placeholders
  · rw [if_pos hpaired] at h
    rw [nodes_of_paired hpaired]
    split at h
    · cases h
    · apply Results.foldlM_ok_append _ h
      intro device hdevice result result' hstep
      rw [expandPair_pattern hconfig hdevice hpaired] at hstep
      exact expandRecursive_ok hconfig (pairTemplate_wellFormed hconfig hdevice)
        (fun n ↦ plain_of_mem_unpaired) nodup_unpaired names_pairTemplate_subset hstep
  · rw [if_neg hpaired] at h
    rw [nodes_of_not_paired hpaired]
    exact expandRecursive_ok hconfig e.wellFormed (fun n ↦ e.plain_of_mem) nodup_firstOccurrences
      e.names_subset h

theorem expandEntry_eq_ok (hconfig : config.Plain) (hcovers : config.Covers e.placeholders)
    (hroom : (e.nodes config).length ≤ config.maximumNodes) :
    expandEntry config e.entry = .ok (e.nodes config) := by
  rw [expandEntry_pattern]
  by_cases hpaired : Paired e.placeholders
  · have hvalues : ∀ n ∈ unpaired e.placeholders, config.values n ≠ [] := by
      intro n hn
      obtain ⟨hmem, hother⟩ := mem_unpaired.mp hn
      exact hcovers.single n hmem fun _ ↦ hother
    rw [if_pos hpaired, if_neg (hcovers.pair hpaired)]
    rw [nodes_of_paired hpaired] at hroom ⊢
    apply Results.foldlM_eq_ok_append (Q := fun out ↦ out.length ≤ config.maximumNodes) _ _ hroom
    · intro out rest hlength
      rw [List.length_append] at hlength
      omega
    · intro device hdevice result hlength
      rw [expandPair_pattern hconfig hdevice hpaired]
      exact expandRecursive_eq_ok hconfig (pairTemplate_wellFormed hconfig hdevice)
        (fun n ↦ plain_of_mem_unpaired) nodup_unpaired names_pairTemplate_subset hvalues hlength
  · rw [if_neg hpaired]
    rw [nodes_of_not_paired hpaired] at hroom ⊢
    exact expandRecursive_eq_ok hconfig e.wellFormed (fun n ↦ e.plain_of_mem)
      nodup_firstOccurrences e.names_subset
      (fun n hn ↦ hcovers.single n hn fun hp ↦ absurd hp hpaired) hroom

/-! ## Nodes of the registry -/

/-- The result so far has no repeated NodeId and is no longer than allowed. -/
structure Admitted (config : ExpansionConfig) (nodes : List ExpandedNode) : Prop where
  nodup : (nodes.map ExpandedNode.nodeId).Nodup
  length_le : nodes.length ≤ config.maximumNodes

theorem Admitted.left {rest : List ExpandedNode} (h : Admitted config (nodes ++ rest)) :
    Admitted config nodes := by
  constructor
  · have hnodup := h.nodup
    rw [List.map_append] at hnodup
    exact hnodup.of_append_left
  · have hlength := h.length_le
    rw [List.length_append] at hlength
    omega

theorem Admitted.length_right_le {rest : List ExpandedNode} (h : Admitted config (nodes ++ rest)) :
    rest.length ≤ config.maximumNodes := by
  have hlength := h.length_le
  rw [List.length_append] at hlength
  omega

theorem admitted_concat {node : ExpandedNode} :
    Admitted config (nodes ++ [node]) ↔
      Admitted config nodes ∧ node.nodeId ∉ nodes.map ExpandedNode.nodeId ∧
        nodes.length + 1 ≤ config.maximumNodes := by
  constructor
  · intro h
    refine ⟨h.left, ?_, by simpa using h.length_le⟩
    have hnodup := h.nodup
    rw [List.map_append, List.map_singleton, List.nodup_append] at hnodup
    intro hmem
    exact hnodup.2.2 _ hmem _ List.mem_cons_self rfl
  · intro h
    constructor
    · rw [List.map_append, List.map_singleton]
      exact h.1.nodup.append (List.nodup_singleton _) (by simpa using h.2.1)
    · simpa using h.2.2

theorem addNode_eq_ok {node : ExpandedNode} (h : Admitted config (nodes ++ [node])) :
    addNode config nodes node = .ok (nodes ++ [node]) := by
  obtain ⟨-, hnew, hroom⟩ := admitted_concat.mp h
  rw [addNode, if_neg hnew, if_neg hroom.not_gt]

theorem addNode_admitted {node : ExpandedNode} (h : addNode config nodes node = .ok out)
    (hnodes : Admitted config nodes) : Admitted config out := by
  rw [addNode_ok h]
  rw [addNode] at h
  split at h
  · cases h
  · next hnew =>
    split at h
    · cases h
    · next hroom => exact admitted_concat.mpr ⟨hnodes, hnew, Nat.not_lt.mp hroom⟩

theorem addNodes_eq_ok {added : List ExpandedNode} (h : Admitted config (nodes ++ added)) :
    added.foldlM (addNode config) nodes = .ok (nodes ++ added) := by
  have hadded : (added.flatMap fun node ↦ [node]) = added := List.flatMap_singleton' added
  calc
    _ = .ok (nodes ++ added.flatMap fun node ↦ [node]) := by
        apply Results.foldlM_eq_ok_append (Q := Admitted config) (fun _ _ h ↦ h.left) _
          (by rwa [hadded])
        exact fun node _ result hnode ↦ addNode_eq_ok hnode
    _ = _ := by rw [hadded]

/-- One turn of the loop over the entries. -/
abbrev expandTurn (config : ExpansionConfig) (result : List ExpandedNode) (e : PatternEntry) :
    Except RuntimeError (List ExpandedNode) := do
  let entryNodes ← expandEntry config e.entry
  entryNodes.foldlM (addNode config) result

theorem expand_eq : expand (entries.map PatternEntry.entry) config =
    entries.foldlM (expandTurn config) [] :=
  List.foldlM_map

/-- Whatever `expand` returns is the listed expansion. -/
theorem expand_ok (hconfig : config.Plain)
    (h : expand (entries.map PatternEntry.entry) config = .ok nodes) :
    nodes = expansion config entries ∧ Admitted config nodes := by
  rw [expand_eq] at h
  constructor
  · apply Results.foldlM_ok_append _ h
    intro e _ result result' hstep
    obtain ⟨entryNodes, hentryNodes, hfold⟩ := Results.bind_ok_iff.mp hstep
    rw [addNodes_ok hfold, expandEntry_ok hconfig hentryNodes]
  · apply Results.foldlM_ok_keeps (P := Admitted config) _ h ⟨List.nodup_nil, Nat.zero_le _⟩
    intro result e result' hstep hresult
    obtain ⟨entryNodes, -, hfold⟩ := Results.bind_ok_iff.mp hstep
    exact Results.foldlM_ok_keeps (fun _ _ _ ↦ addNode_admitted) hfold hresult

/-- With an instance for every placeholder the expansion is returned when it is admitted. -/
theorem expand_eq_ok (hconfig : config.Plain)
    (hcovers : ∀ e ∈ entries, config.Covers e.placeholders)
    (h : Admitted config (expansion config entries)) :
    expand (entries.map PatternEntry.entry) config = .ok (expansion config entries) := by
  rw [expand_eq]
  apply Results.foldlM_eq_ok_append (Q := Admitted config) (fun _ _ h ↦ h.left) _ h
  intro e he result hresult
  rw [expandTurn, expandEntry_eq_ok hconfig (hcovers e he) hresult.length_right_le]
  exact addNodes_eq_ok hresult

/-- The listed assignments are all assignments. -/
theorem PatternEntry.mem_assignments :
    σ ∈ config.assignments e.placeholders ↔ config.Assigns e.placeholders σ :=
  ExpansionConfig.mem_assignments nodup_firstOccurrences

theorem mem_expansion {node : ExpandedNode} :
    node ∈ expansion config entries ↔
      ∃ e ∈ entries, ∃ σ, config.Assigns e.placeholders σ ∧ e.node σ = node := by
  simp only [expansion, PatternEntry.nodes, List.mem_flatMap, List.mem_map,
    PatternEntry.mem_assignments]

theorem plain_of_mem_expansion (hconfig : config.Plain) {node : ExpandedNode}
    (h : node ∈ expansion config entries) : braces.Plain node.nodeId := by
  obtain ⟨e, he, σ, hσ, rfl⟩ := mem_expansion.mp h
  exact plain_substitute e.wellFormed fun n hn ↦ hσ.plain hconfig (e.names_subset hn)

/-- Distinct NodeIds come from distinct assignments. -/
theorem nodup_assignments (h : ((expansion config entries).map ExpandedNode.nodeId).Nodup)
    (he : e ∈ entries) : (config.assignments e.placeholders).Nodup := by
  have hsublist : (e.nodes config).Sublist (expansion config entries) :=
    List.sublist_flatten_of_mem (List.mem_map_of_mem he)
  have hnodes : ((e.nodes config).map ExpandedNode.nodeId).Nodup :=
    List.Nodup.sublist (hsublist.map _) h
  exact (hnodes.of_map _).of_map _

/-- For every list of entries with braces around placeholders only and every configuration without
braces: what `expand` returns is, entry by entry, every assignment of configured instances to the
placeholders once, each as the pattern with all placeholders substituted, the NodeIds being distinct
and without an opening brace and no more than allowed. When every placeholder has an instance and
the substituted NodeIds are distinct, `expand` returns exactly when they are no more than
allowed. -/
theorem expand_enumerates (entries : List PatternEntry) (hconfig : config.Plain) :
    (∀ nodes, expand (entries.map PatternEntry.entry) config = .ok nodes →
      nodes = expansion config entries ∧
      (∀ e ∈ entries, (config.assignments e.placeholders).Nodup ∧
        ∀ σ, σ ∈ config.assignments e.placeholders ↔ config.Assigns e.placeholders σ) ∧
      (nodes.map ExpandedNode.nodeId).Nodup ∧
      (∀ node ∈ nodes, braces.opening ∉ node.nodeId) ∧
      nodes.length ≤ config.maximumNodes) ∧
    ((∀ e ∈ entries, config.Covers e.placeholders) →
      ((expansion config entries).map ExpandedNode.nodeId).Nodup →
      ((∃ nodes, expand (entries.map PatternEntry.entry) config = .ok nodes) ↔
        (expansion config entries).length ≤ config.maximumNodes)) := by
  constructor
  · intro nodes hnodes
    obtain ⟨rfl, hadmitted⟩ := expand_ok hconfig hnodes
    exact ⟨rfl, fun e he ↦ ⟨nodup_assignments hadmitted.nodup he, fun σ ↦ e.mem_assignments⟩,
      hadmitted.nodup, fun node hnode ↦ (plain_of_mem_expansion hconfig hnode).1,
      hadmitted.length_le⟩
  · intro hcovers hnodup
    constructor
    · intro h
      obtain ⟨nodes, hnodes⟩ := h
      obtain ⟨rfl, hadmitted⟩ := expand_ok hconfig hnodes
      exact hadmitted.length_le
    · intro hlength
      exact ⟨_, expand_eq_ok hconfig hcovers ⟨hnodup, hlength⟩⟩

/-- The pattern `DAPHNE.Boards.{BoardId}.I2C.{Bus}.{Address}.Present`. -/
def presentTemplate : Template Char :=
  [.text "DAPHNE.Boards.".toList, .slot boardIdName, .text ".I2C.".toList, .slot busName,
    .text ".".toList, .slot addressName, .text ".Present".toList]

def presentEntry : PatternEntry where
  entry := ⟨"I2C".toList, "Present".toList, "Device answers".toList,
    kNamespacePrefix ++ render braces presentTemplate, .Boolean, .ReadOnly, [], [], []⟩
  template := presentTemplate
  wellFormed := by
    simp only [presentTemplate, wellFormed_cons, wellFormed_nil, Segment.Plain, Delimiters.Plain]
    decide
  ne_nil := by decide
  rest_ne_nil := by decide
  pattern_eq := rfl

/-- Two boards and two devices, with room for their four nodes. -/
def twoBoards : ExpansionConfig where
  instances n := if n = boardIdName then some ["015".toList, "016".toList] else none
  i2cDevices := [("1".toList, "0x10".toList), ("2".toList, "0x32".toList)]
  maximumNodes := 4

theorem twoBoards_plain : twoBoards.Plain where
  instances n values hvalues := by
    change (if n = boardIdName then some ["015".toList, "016".toList] else none) = _ at hvalues
    split at hvalues
    · rw [← Option.some.inj hvalues]
      simp only [Delimiters.Plain]
      decide
    · cases hvalues
  devices := by
    simp only [Delimiters.Plain]
    decide

theorem twoBoards_covers : twoBoards.Covers presentEntry.placeholders where
  single n hn hsingle := by
    have hpaired : Paired presentEntry.placeholders := by decide
    have hmem : n ∈ [boardIdName, busName, addressName] := hn
    have hboard : n = boardIdName := by simpa [hsingle hpaired] using hmem
    rw [hboard]
    decide
  pair _ := List.cons_ne_nil _ _

theorem expand_enumerates_present :
    ∃ nodes, expand [presentEntry.entry] twoBoards = .ok nodes ∧
      nodes.map ExpandedNode.nodeId =
        ["DAPHNE.Boards.015.I2C.1.0x10.Present".toList,
          "DAPHNE.Boards.016.I2C.1.0x10.Present".toList,
          "DAPHNE.Boards.015.I2C.2.0x32.Present".toList,
          "DAPHNE.Boards.016.I2C.2.0x32.Present".toList] := by
  obtain ⟨hlists, hreturns⟩ := expand_enumerates [presentEntry] twoBoards_plain
  have hcovers : ∀ e ∈ [presentEntry], twoBoards.Covers e.placeholders :=
    List.forall_mem_singleton.mpr twoBoards_covers
  obtain ⟨nodes, hnodes⟩ := (hreturns hcovers (by decide +kernel)).mpr (by decide +kernel)
  refine ⟨nodes, hnodes, ?_⟩
  rw [(hlists nodes hnodes).1]
  decide +kernel

end DaphneSc.Bridge.Registry
