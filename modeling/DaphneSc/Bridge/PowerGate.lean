import DaphneSc.Bridge.Power
import Mathlib.Data.List.Nodup

/-!
# What a voltage or a current has to pass

A value is refused when it is below the lower bound or above the upper one. A value that is not a
number is neither, and goes to the device.
-/

namespace DaphneSc.Bridge

open Program Ieee

/-- The two quantities that are set. -/
inductive Quantity where
  | voltage
  | current
  deriving DecidableEq

namespace Quantity

def kind : Quantity → MethodKind
  | voltage => .PowerSetVoltage
  | current => .PowerSetCurrent

def methodId : Quantity → Text
  | voltage => "PDS.NP04.PowerSupply.USB0.Commands.SetVoltage".toList
  | current => "PDS.NP04.PowerSupply.USB0.Commands.SetCurrent".toList

def command : Quantity → Text
  | voltage => "VOLT ".toList
  | current => "CURR ".toList

def lower (config : Config) : Quantity → V8.Double
  | voltage => config.powerVoltageMin
  | current => config.powerCurrentMin

def upper (config : Config) : Quantity → V8.Double
  | voltage => config.powerVoltageMax
  | current => config.powerCurrentMax

def set (host : PowerHost) (config : Config) (quantity : Quantity) (value : V8.Double) :
    PowerProg Text :=
  match quantity with
  | voltage => setVoltage host config value
  | current => setCurrent host config value

/-- The line that sets the quantity. -/
def line (quantity : Quantity) (value : V8.Double) : Text :=
  quantity.command ++ toScpiNumber value ++ ['\n']

end Quantity

/-- The lines that a call has handed to the device. -/
def newLines (supply supply' : ScpiPowerSupply) : List Text :=
  supply'.lines.drop supply.lines.length

/-- A command to set a voltage or a current. -/
def IsSetCommand (line : Text) : Prop := ∃ quantity : Quantity, quantity.command <+: line

/-- Both numbers are given, and the first is the smaller one. -/
def StrictlyOrdered (lower upper : V8.Double) : Prop :=
  ∃ x y : EReal, lower.datum.value = some x ∧ upper.datum.value = some y ∧ x < y

/-- A number between the two bounds. -/
def WithinBounds (lower upper value : V8.Double) : Prop :=
  ∃ x v y : EReal, lower.datum.value = some x ∧ value.datum.value = some v ∧
    upper.datum.value = some y ∧ x ≤ v ∧ v ≤ y

/-- The configuration lets commands be written. -/
structure WritesAllowed (config : Config) : Prop where
  enabled : config.powerWritesEnabled = true
  voltage : StrictlyOrdered config.powerVoltageMin config.powerVoltageMax
  current : StrictlyOrdered config.powerCurrentMin config.powerCurrentMax

/-- What has to hold for a quantity to be set. -/
structure MayBeSet (config : Config) (session : Option Credential) (quantity : Quantity)
    (value : V8.Double) : Prop where
  writes : WritesAllowed config
  role : roleAllowed session scRoles = true
  within : WithinBounds (quantity.lower config) (quantity.upper config) value

/-- The device is open, or it can be opened. -/
def Opens (host : PowerHost) (config : Config) (supply : ScpiPowerSupply) : Prop :=
  supply.isOpen = true ∨
    selectDevice host config ≠ [] ∧ host.openDevice (selectDevice host config) = .ok ⟨⟩ ∧
      (isSerial (selectDevice host config) = true →
        host.configureSerial (selectDevice host config) = .ok ⟨⟩)

/-- Whatever the value is, a call gets as far as comparing it, and there is a device. -/
structure Reaches (host : PowerHost) (config : Config) (session : Option Credential)
    (outputSize : ℕ) (supply : ScpiPowerSupply) : Prop where
  output : 1 ≤ outputSize
  role : roleAllowed session scRoles = true
  writes : WritesAllowed config
  opens : Opens host config supply

variable {host : PowerHost} {config : Config} {supply supply' : ScpiPowerSupply} {cmd : Text}
  {session : Option Credential} {outputSize : ℕ} {value : V8.Double} {quantity : Quantity}

/-! ## The device -/

/-- Opening the device does not write to it. -/
theorem ensureOpen_spec :
    wp (ensureOpen host config)
      (fun message s ↦ s.lines = supply.lines ∧ (message = none ↔ Opens host config supply))
      (fun _ s ↦ s.lines = supply.lines ∧ ¬ Opens host config supply) supply := by
  unfold ensureOpen
  rw [wp_bind, wp_get]
  by_cases hopen : supply.isOpen = true
  · rw [if_pos hopen, wp_pure]
    exact ⟨rfl, fun _ ↦ .inl hopen, fun _ ↦ rfl⟩
  · rw [if_neg hopen]
    by_cases hpath : selectDevice host config = []
    · simp [Opens, hopen, hpath]
    · cases hdevice : host.openDevice (selectDevice host config) with
      | error err => simp [Opens, hopen, hpath, hdevice]
      | ok u =>
        by_cases hserial : isSerial (selectDevice host config) = true
        · cases hconfigure : host.configureSerial (selectDevice host config) with
          | error err => simp [Opens, hopen, hpath, hdevice, hserial, hconfigure]
          | ok u => simp [Opens, hopen, hpath, hdevice, hserial, hconfigure]
        · simp [Opens, hopen, hpath, hdevice, hserial]

/-- The line is the only new one, or there is none. -/
structure WritesWhen (C : Prop) (line : Text) (supply supply' : ScpiPowerSupply) : Prop where
  written : C → supply'.lines = supply.lines ++ [line]
  silent : ¬ C → supply'.lines = supply.lines

theorem WritesWhen.and {C D : Prop} {line : Text} (hC : C) (h : WritesWhen D line supply supply') :
    WritesWhen (C ∧ D) line supply supply' :=
  ⟨fun hCD ↦ h.written hCD.2, fun hnot ↦ h.silent fun hD ↦ hnot ⟨hC, hD⟩⟩

theorem WritesWhen.of_not {C : Prop} {line : Text} (hC : ¬ C) : WritesWhen C line supply supply :=
  ⟨fun h ↦ absurd h hC, fun _ ↦ rfl⟩

theorem command_spec :
    wp (command host config cmd)
      (fun _ s ↦ WritesWhen (Opens host config supply) (cmd ++ ['\n']) supply s)
      (fun _ s ↦ WritesWhen (Opens host config supply) (cmd ++ ['\n']) supply s) supply := by
  unfold command
  rw [wp_bind]
  apply wp_mono ensureOpen_spec
  · intro message s hs
    obtain ⟨hlines, hopens⟩ := hs
    cases message with
    | some message =>
      have hnot : ¬ Opens host config supply := fun h ↦ nomatch hopens.mpr h
      exact ⟨fun h ↦ absurd h hnot, fun _ ↦ hlines⟩
    | none =>
      have hopened : Opens host config supply := hopens.mp rfl
      have hwritten : WritesWhen (Opens host config supply) (cmd ++ ['\n']) supply
          { s with lines := s.lines ++ [cmd ++ ['\n']] } :=
        ⟨fun _ ↦ by rw [hlines], fun h ↦ absurd hopened h⟩
      simp only [wp_bind, wp_modify]
      cases host.write (cmd ++ ['\n']) with
      | ok u => exact hwritten
      | error err => exact hwritten
  · intro e s hs
    exact ⟨fun h ↦ absurd h hs.2, fun _ ↦ hs.1⟩

/-! ## Setting a quantity -/

/-- The comparisons let the value through. -/
def Compares (lower upper value : V8.Double) : Prop :=
  ¬ (value.lt lower = true ∨ upper.lt value = true)

theorem lt_iff {lower upper : V8.Double} :
    lower.lt upper = true ↔ StrictlyOrdered lower upper :=
  ⟨Datum.exists_of_lt, fun ⟨_, _, hx, hy, hlt⟩ ↦ (Datum.lt_eq_true_iff hx hy).mpr hlt⟩

theorem requireWrites_ok_iff : requireWrites config = .ok ⟨⟩ ↔ WritesAllowed config := by
  unfold requireWrites
  by_cases henabled : config.powerWritesEnabled = true
  · rw [if_neg (not_not.mpr henabled)]
    by_cases hbounds : config.powerVoltageMin.lt config.powerVoltageMax = true ∧
        config.powerCurrentMin.lt config.powerCurrentMax = true
    · rw [if_neg (by simp [hbounds])]
      exact ⟨fun _ ↦ ⟨henabled, lt_iff.mp hbounds.1, lt_iff.mp hbounds.2⟩, fun _ ↦ rfl⟩
    · rw [if_pos (not_and_or.mp hbounds)]
      exact ⟨fun h ↦ (nomatch h),
        fun h ↦ absurd ⟨lt_iff.mpr h.voltage, lt_iff.mpr h.current⟩ hbounds⟩
  · rw [if_pos henabled]
    exact ⟨fun h ↦ (nomatch h), fun h ↦ absurd h.enabled henabled⟩

/-- When the comparisons let a value through, its command is written. -/
theorem setQuantity_spec {name : Text} {lower upper : V8.Double}
    (hfake : config.powerFake = false) :
    let written (s : ScpiPowerSupply) : Prop :=
      WritesWhen (WritesAllowed config ∧ Compares lower upper value ∧ Opens host config supply)
        (cmd ++ toScpiNumber value ++ ['\n']) supply s
    wp (setQuantity host config name cmd lower upper value) (fun _ s ↦ written s)
      (fun _ s ↦ written s) supply := by
  intro written
  have hnotFake : ¬ config.powerFake = true := by simp [hfake]
  unfold setQuantity
  rw [if_neg hnotFake, wp_bind, wp_ofResult]
  constructor
  · intro u hwrites
    have hallowed : WritesAllowed config := requireWrites_ok_iff.mp hwrites
    rw [wp_bind, wp_failIf]
    constructor
    · intro hcompares
      rw [wp_bind]
      exact wp_mono command_spec (fun _ s hs ↦ (hs.and hcompares).and hallowed)
        (fun _ s hs ↦ (hs.and hcompares).and hallowed)
    · intro houtside
      exact .of_not fun h ↦ h.2.1 houtside
  · intro e herror
    have hrefused : ¬ WritesAllowed config := by
      rw [← requireWrites_ok_iff, herror]
      exact fun h ↦ nomatch h
    exact .of_not fun h ↦ hrefused h.1

theorem answer_snd (m : PowerProg Text) : (answer host m supply).2 = final m supply := by
  have hupdated : final (m <* ofResult host.updateNodes) supply = final m supply := by
    change final (m >>= fun message ↦ ofResult host.updateNodes >>= fun _ ↦ pure message) supply = _
    unfold final
    rw [run_bind]
    cases m supply with
    | ok message s => cases host.updateNodes <;> rfl
    | error e s => rfl
  rw [← hupdated, answer, final]
  cases (m <* ofResult host.updateNodes) supply with
  | ok message s => rfl
  | error e s => cases e <;> rfl

/-! ## The call -/

theorem compares_of_isNaN {lower upper : V8.Double} (h : value.datum.isNaN = true) :
    Compares lower upper value := by
  rintro (hlt | hlt)
  · rw [V8.Double.lt, Datum.lt_of_isNaN_left h] at hlt
    cases hlt
  · rw [V8.Double.lt, Datum.lt_of_isNaN_right h] at hlt
    cases hlt

/-- For a number, the comparisons are those of the bounds. -/
theorem withinBounds_of_compares {lower upper : V8.Double} (hordered : StrictlyOrdered lower upper)
    (hvalue : value.datum.isNaN = false) (h : Compares lower upper value) :
    WithinBounds lower upper value := by
  obtain ⟨x, y, hx, hy, -⟩ := hordered
  obtain ⟨v, hv⟩ := Datum.exists_value_iff.mpr hvalue
  obtain ⟨hlower, hupper⟩ := not_or.mp h
  rw [Bool.not_eq_true] at hlower hupper
  exact ⟨x, v, y, hx, hv, hy, (Datum.lt_eq_false_iff hv hx).mp hlower,
    (Datum.lt_eq_false_iff hy hv).mp hupper⟩

theorem not_withinBounds_of_isNaN {lower upper : V8.Double} (h : value.datum.isNaN = true) :
    ¬ WithinBounds lower upper value := by
  rintro ⟨_, v, _, -, hv, -⟩
  rw [Datum.value_eq_none_iff.mpr h] at hv
  cases hv

theorem Quantity.set_spec (hfake : config.powerFake = false) :
    let written (s : ScpiPowerSupply) : Prop :=
      WritesWhen (WritesAllowed config ∧
        Compares (quantity.lower config) (quantity.upper config) value ∧ Opens host config supply)
        (quantity.line value) supply s
    wp (quantity.set host config value) (fun _ s ↦ written s) (fun _ s ↦ written s) supply := by
  cases quantity with
  | voltage => exact setQuantity_spec hfake
  | current => exact setQuantity_spec hfake

/-- Among methods with different nodes each is found by its node. -/
theorem find?_of_nodup {methods : List MethodNode} {node : MethodNode}
    (hnodup : (methods.map MethodNode.nodeId).Nodup) (hnode : node ∈ methods) :
    methods.find? (fun other ↦ other.nodeId = node.nodeId) = some node := by
  cases hfind : methods.find? (fun other ↦ other.nodeId = node.nodeId) with
  | none => exact absurd (decide_eq_true rfl) (List.find?_eq_none.mp hfind node hnode)
  | some found =>
    have hfound : found ∈ methods := List.mem_of_find?_eq_some hfind
    have hnodeId : found.nodeId = node.nodeId := by simpa using List.find?_some hfind
    rw [List.inj_on_of_nodup_map hnodup hfound hnode hnodeId]

theorem nodup_powerMethods : ((powerMethods config).map MethodNode.nodeId).Nodup := by
  change ["PDS.NP04.PowerSupply.USB0.Commands.EnableOutput".toList, Quantity.voltage.methodId,
    Quantity.current.methodId].Nodup
  decide +kernel

theorem mem_powerMethods :
    ⟨quantity.methodId, powerContext config quantity.kind⟩ ∈ powerMethods config := by
  cases quantity with
  | voltage => exact .tail _ (.head _)
  | current => exact .tail _ (.tail _ (.head _))

theorem powerCall_eq {arguments : Arguments} :
    powerCall host config session quantity.methodId arguments supply =
      powerMethodCallback host config session (some (powerContext config quantity.kind)) arguments
        supply := by
  have hfind : (powerMethods config).find? (fun node ↦ node.nodeId = quantity.methodId) =
      some ⟨quantity.methodId, powerContext config quantity.kind⟩ :=
    find?_of_nodup nodup_powerMethods mem_powerMethods
  rw [powerCall, hfind, Option.map_some]

/-- A call that passes the checks of the method sets the quantity. -/
theorem powerCall_quantity (houtput : ¬ outputSize < 1)
    (hwrites : config.powerWritesEnabled = true) (hrole : roleAllowed session scRoles = true) :
    powerCall host config session quantity.methodId
      ⟨[some (.double value)], outputSize⟩ supply =
    answer host (quantity.set host config value) supply := by
  have hexecutable : ¬ ¬ (powerContext config quantity.kind).executable = true :=
    not_not.mpr hwrites
  have hallowed : ¬ ¬ roleAllowed session (powerContext config quantity.kind).allowedRoles = true :=
    not_not.mpr hrole
  rw [powerCall_eq]
  unfold powerMethodCallback
  dsimp only
  rw [if_neg houtput, if_neg hexecutable, if_neg hallowed]
  cases quantity with
  | voltage => rfl
  | current => rfl

/-- A call that a check refuses leaves the supply alone. -/
theorem powerCall_refused
    (h : ¬ (1 ≤ outputSize ∧ config.powerWritesEnabled = true ∧
      roleAllowed session scRoles = true)) :
    (powerCall host config session quantity.methodId
      ⟨[some (.double value)], outputSize⟩ supply).2 = supply := by
  rw [powerCall_eq]
  unfold powerMethodCallback
  dsimp only
  by_cases houtput : outputSize < 1
  · rw [if_pos houtput]
  rw [if_neg houtput]
  by_cases hexecutable : (powerContext config quantity.kind).executable = true
  · rw [if_neg (not_not.mpr hexecutable), if_pos]
    exact fun hrole ↦ h ⟨Nat.not_lt.mp houtput, hexecutable, hrole⟩
  · rw [if_pos hexecutable]

/-- What one call hands to the device. -/
theorem powerCall_writes (hfake : config.powerFake = false) :
    WritesWhen
      (Reaches host config session outputSize supply ∧
        Compares (quantity.lower config) (quantity.upper config) value)
      (quantity.line value) supply
      (powerCall host config session quantity.methodId
        ⟨[some (.double value)], outputSize⟩ supply).2 := by
  by_cases hpassed : 1 ≤ outputSize ∧ config.powerWritesEnabled = true ∧
      roleAllowed session scRoles = true
  · obtain ⟨houtput, hwrites, hrole⟩ := hpassed
    rw [powerCall_quantity (Nat.not_lt.mpr houtput) hwrites hrole, answer_snd]
    have hset : WritesWhen (WritesAllowed config ∧
        Compares (quantity.lower config) (quantity.upper config) value ∧ Opens host config supply)
        (quantity.line value) supply (final (quantity.set host config value) supply) :=
      final_of_wp (Quantity.set_spec hfake)
    exact ⟨fun h ↦ hset.written ⟨h.1.writes, h.2, h.1.opens⟩,
      fun h ↦ hset.silent fun hall ↦ h ⟨⟨houtput, hrole, hall.1, hall.2.2⟩, hall.2.1⟩⟩
  · rw [powerCall_refused hpassed]
    exact .of_not fun h ↦ hpassed ⟨h.1.output, h.1.writes.enabled, h.1.role⟩

theorem isSetCommand_line : IsSetCommand (quantity.line value) :=
  ⟨quantity, toScpiNumber value ++ ['\n'], (List.append_assoc _ _ _).symm⟩

/-- A call writes a command to set a quantity when it gets that far. -/
theorem exists_setCommand_iff (hfake : config.powerFake = false) :
    (∃ line ∈ newLines supply
      (powerCall host config session quantity.methodId
        ⟨[some (.double value)], outputSize⟩ supply).2, IsSetCommand line) ↔
    Reaches host config session outputSize supply ∧
      Compares (quantity.lower config) (quantity.upper config) value := by
  have hwrites : WritesWhen
      (Reaches host config session outputSize supply ∧
        Compares (quantity.lower config) (quantity.upper config) value)
      (quantity.line value) supply
      (powerCall host config session quantity.methodId
        ⟨[some (.double value)], outputSize⟩ supply).2 := powerCall_writes hfake
  constructor
  · rintro ⟨line, hline, -⟩
    by_contra hnot
    rw [newLines, hwrites.silent hnot, List.drop_length] at hline
    cases hline
  · intro hreaches
    refine ⟨quantity.line value, ?_, isSetCommand_line⟩
    rw [newLines, hwrites.written hreaches, List.drop_left]
    exact List.mem_singleton_self _

/-- Every quantity that is set may be set, unless a value that is not a number reaches the
device. -/
theorem powerCall_gated_iff (hfake : config.powerFake = false) :
    ((∃ line ∈ newLines supply
        (powerCall host config session quantity.methodId
          ⟨[some (.double value)], outputSize⟩ supply).2, IsSetCommand line) →
      MayBeSet config session quantity value) ↔
    value.datum.isNaN = false ∨ ¬ Reaches host config session outputSize supply := by
  rw [exists_setCommand_iff hfake]
  constructor
  · intro hgated
    by_contra hnot
    obtain ⟨hnan, hreaches⟩ := not_or.mp hnot
    rw [Bool.not_eq_false] at hnan
    rw [not_not] at hreaches
    exact not_withinBounds_of_isNaN hnan (hgated ⟨hreaches, compares_of_isNaN hnan⟩).within
  · rintro hnumber ⟨hreaches, hcompares⟩
    have hvalue : value.datum.isNaN = false := hnumber.resolve_right (not_not.mpr hreaches)
    have hordered : StrictlyOrdered (quantity.lower config) (quantity.upper config) := by
      cases quantity with
      | voltage => exact hreaches.writes.voltage
      | current => exact hreaches.writes.current
    exact ⟨hreaches.writes, hreaches.role, withinBounds_of_compares hordered hvalue hcompares⟩

def powerHost : PowerHost where
  glob _ := []
  openDevice _ := .error "No such file or directory".toList
  configureSerial _ := .ok ⟨⟩
  write _ := .ok ⟨⟩
  updateNodes := .ok ⟨⟩

/-- Bounds from nothing to five volts and one ampere. -/
def boundedConfig : Config where
  configPath := []
  powerFake := false
  powerWritesEnabled := true
  powerVoltageMax := ⟨0x4014000000000000⟩
  powerCurrentMax := ⟨0x3ff0000000000000⟩

def openSupply : ScpiPowerSupply where
  isOpen := true

def slowControls : Credential := ⟨"operator".toList, "secret".toList, .SlowControls⟩

/-- The supply after the voltage with these bits has been requested. -/
def afterSetVoltage (bits : UInt64) : ScpiPowerSupply :=
  (powerCall powerHost boundedConfig (some slowControls) Quantity.voltage.methodId
    ⟨[some (.double ⟨bits⟩)], 1⟩ openSupply).2

theorem powerCall_gated_three :
    newLines openSupply (afterSetVoltage 0x4008000000000000) = ["VOLT 3.000000\n".toList] ∧
      MayBeSet boundedConfig (some slowControls) .voltage ⟨0x4008000000000000⟩ := by
  have hlines : newLines openSupply (afterSetVoltage 0x4008000000000000) =
      ["VOLT 3.000000\n".toList] := by
    decide +kernel
  have hnumber : (⟨0x4008000000000000⟩ : V8.Double).datum.isNaN = false := by
    decide +kernel
  have hcommand : IsSetCommand "VOLT 3.000000\n".toList := ⟨.voltage, by decide +kernel⟩
  have hgated : (∃ line ∈ newLines openSupply (afterSetVoltage 0x4008000000000000),
      IsSetCommand line) →
      MayBeSet boundedConfig (some slowControls) .voltage ⟨0x4008000000000000⟩ :=
    (powerCall_gated_iff rfl).mpr (.inl hnumber)
  exact ⟨hlines, hgated ⟨_, hlines ▸ List.mem_singleton_self _, hcommand⟩⟩

/-- What is not a number is within no bounds, and is written. -/
theorem nan_written :
    boundedConfig.powerFake = false ∧
      newLines openSupply (afterSetVoltage 0x7ff8000000000000) = ["VOLT nan\n".toList] ∧
      ¬ ((∃ line ∈ newLines openSupply (afterSetVoltage 0x7ff8000000000000), IsSetCommand line) →
        MayBeSet boundedConfig (some slowControls) .voltage ⟨0x7ff8000000000000⟩) := by
  have hlines : newLines openSupply (afterSetVoltage 0x7ff8000000000000) =
      ["VOLT nan\n".toList] := by
    decide +kernel
  have hnan : (⟨0x7ff8000000000000⟩ : V8.Double).datum.isNaN = true := by
    decide +kernel
  have hcommand : IsSetCommand "VOLT nan\n".toList := ⟨.voltage, by decide +kernel⟩
  refine ⟨rfl, hlines, fun hgated ↦ ?_⟩
  have hset := hgated ⟨_, hlines ▸ List.mem_singleton_self _, hcommand⟩
  exact not_withinBounds_of_isNaN hnan hset.within

end DaphneSc.Bridge
