import DaphneSc.Rpu.ConfigureApplied
import DaphneSc.Rpu.SpiDevice

/-!
# The fields of a configured AFE

A record sets twelve named fields in six registers, each by reading the register, replacing the bits
of the field and writing it back. The fields share no bit and every accepted value fits its field,
so each of them holds its value at the end, whatever the registers held before.
-/

namespace DaphneSc.Rpu.ConfigureFields

open Core.Afe Core.AfeHw Core.AfeFunctions Core.RpuWire Core.RpuWire.RpuWireCommand Rpu.Runtime
open Rpu.Mmio Rpu.Mmio.AfeMmioBackend Rpu.RegisterFile Rpu.ApplyErrors Rpu.ConfigureRun
open Rpu.ConfigureReadback Rpu.ConfigureApplied Rpu.SpiDevice Program Slots

variable {I ε : Type}

/-! ## Fields of a register file -/

/-- What the field of a named function holds. -/
def fieldValue (registers : UInt8 → UInt16 → UInt16) (afePl : UInt8) (name : String) :
    Option UInt16 := do
  let spec ← findAfeFunction name
  (extractAfeFunctionBits (registers afePl spec.field.register) spec.field).toOption

/-- The values that a record gives to the fields, as the RPU is to set them. -/
structure FieldsHold (registers : UInt8 → UInt16 → UInt16) (afe : AfeFrontendConfig) : Prop where
  serializedDataRate : fieldValue registers afe.afe.pl "SERIALIZED_DATA_RATE" = some 1
  adcResolutionReset :
    fieldValue registers afe.afe.pl "ADC_RESOLUTION_RESET" = some afe.adc.resolution.toUInt16
  adcOutputFormat :
    fieldValue registers afe.afe.pl "ADC_OUTPUT_FORMAT" = some afe.adc.outputFormat.toUInt16
  lsbMsbFirst : fieldValue registers afe.afe.pl "LSB_MSB_FIRST" = some afe.adc.msbFirst.toUInt16
  lpfProgrammability :
    fieldValue registers afe.afe.pl "LPF_PROGRAMMABILITY" = some afe.pga.lpfCutFrequency.toUInt16
  pgaIntegratorDisable :
    fieldValue registers afe.afe.pl "PGA_INTEGRATOR_DISABLE" =
      some afe.pga.integratorDisable.toUInt16
  pgaGainControl : fieldValue registers afe.afe.pl "PGA_GAIN_CONTROL" = some afe.pga.gain.toUInt16
  pgaClampLevel : fieldValue registers afe.afe.pl "PGA_CLAMP_LEVEL" = some 2
  activeTerminationEnable :
    fieldValue registers afe.afe.pl "ACTIVE_TERMINATION_ENABLE" = some 0
  lnaInputClampSetting :
    fieldValue registers afe.afe.pl "LNA_INPUT_CLAMP_SETTING" = some afe.lna.clamp.toUInt16
  lnaGain : fieldValue registers afe.afe.pl "LNA_GAIN" = some afe.lna.gain.toUInt16
  lnaIntegratorDisable :
    fieldValue registers afe.afe.pl "LNA_INTEGRATOR_DISABLE" =
      some afe.lna.integratorDisable.toUInt16

/-- A named function in a register other than the one the transactions use, with a field that all
values below a limit fit. -/
structure Suitable (name : String) (limit : ℕ) (spec : AfeFunctionSpec) (mask : UInt16) : Prop where
  find : findAfeFunction name = some spec
  register_pos : 0 < spec.field.register
  register_le : spec.field.register ≤ 0xFF
  has_mask : spec.field.mask = .ok mask
  fits : ∀ n < limit, spec.field.Fits mask (UInt16.ofNat n)

/-- Whether there is such a function of this name. -/
def isSuitable (name : String) (limit : ℕ) : Bool :=
  match findAfeFunction name with
  | none => false
  | some spec => 0 < spec.field.register && spec.field.register ≤ 0xFF &&
    match spec.field.mask with
    | .ok mask => (List.range limit).all fun n ↦
        ((UInt16.ofNat n <<< spec.field.lsb.toUInt16) &&& mask) >>> spec.field.lsb.toUInt16 ==
          UInt16.ofNat n
    | .error _ => false

theorem exists_suitable {name : String} {limit : ℕ} (h : isSuitable name limit = true) :
    ∃ spec mask, Suitable name limit spec mask := by
  unfold isSuitable at h
  cases hfind : findAfeFunction name with
  | none => simp [hfind] at h
  | some spec =>
    cases hmask : spec.field.mask with
    | error err => simp [hfind, hmask] at h
    | ok mask =>
      simp only [hfind, hmask, Bool.and_eq_true, decide_eq_true_eq, List.all_eq_true,
        List.mem_range, beq_iff_eq] at h
      exact ⟨spec, mask, hfind, h.1.1, h.1.2, hmask, h.2⟩

/-- Whether two functions have fields in different registers, or fields that share no bit. -/
def areSeparate (name name' : String) : Bool :=
  match findAfeFunction name, findAfeFunction name' with
  | some spec, some spec' => spec.field.register != spec'.field.register ||
    match spec.field.mask, spec'.field.mask with
    | .ok mask, .ok mask' => mask &&& mask' == 0
    | _, _ => false
  | _, _ => false

section Replaced

variable {registers : UInt8 → UInt16 → UInt16} {afePl : UInt8} {name name' : String}
variable {limit limit' : ℕ} {spec spec' : AfeFunctionSpec} {mask mask' value updated : UInt16}

/-- The field that is written holds the value. -/
theorem fieldValue_setRegister_same (h : Suitable name limit spec mask)
    (hvalue : value.toNat < limit)
    (hupdated : replaceAfeFunctionBits (registers afePl spec.field.register) spec.field value =
      .ok updated) :
    fieldValue (setRegister registers afePl spec.field.register updated) afePl name =
      some value := by
  have hfits : spec.field.Fits mask value := by
    have hall := h.fits value.toNat hvalue
    rwa [UInt16.ofNat_toNat] at hall
  calc fieldValue (setRegister registers afePl spec.field.register updated) afePl name
      = (extractAfeFunctionBits updated spec.field).toOption := by
        simp [fieldValue, h.find, setRegister]
    _ = some value := by
        rw [extract_of_replaced h.has_mask hfits hupdated]
        rfl

/-- A separate field keeps its value. -/
theorem fieldValue_setRegister_separate (h : Suitable name limit spec mask)
    (h' : Suitable name' limit' spec' mask') (hseparate : areSeparate name name' = true)
    (hupdated : replaceAfeFunctionBits (registers afePl spec.field.register) spec.field value =
      .ok updated) :
    fieldValue (setRegister registers afePl spec.field.register updated) afePl name' =
      fieldValue registers afePl name' := by
  by_cases hregister : spec.field.register = spec'.field.register
  · have hdisjoint : mask &&& mask' = 0 := by
      simpa [areSeparate, h.find, h'.find, h.has_mask, h'.has_mask, hregister] using hseparate
    have hkept := extract_of_replaced_disjoint h.has_mask h'.has_mask hdisjoint hupdated
    simp [fieldValue, h'.find, setRegister, ← hregister, hkept]
  · simp [fieldValue, h'.find, setRegister, Ne.symm hregister]

end Replaced

/-- The registers of another AFE. -/
theorem setRegister_of_ne (registers : UInt8 → UInt16 → UInt16) {afePl other : UInt8}
    (h : other ≠ afePl) (register value : UInt16) :
    setRegister registers afePl register value other = registers other := by
  funext number
  simp [setRegister, h]

/-! ## The functions of a record -/

/-- The functions a record sets, with limits for their values. -/
def configuredFunctions : List (String × ℕ) :=
  [("SERIALIZED_DATA_RATE", 4), ("ADC_RESOLUTION_RESET", 2), ("ADC_OUTPUT_FORMAT", 2),
    ("LSB_MSB_FIRST", 2), ("LPF_PROGRAMMABILITY", 8), ("PGA_INTEGRATOR_DISABLE", 2),
    ("PGA_GAIN_CONTROL", 2), ("PGA_CLAMP_LEVEL", 8), ("ACTIVE_TERMINATION_ENABLE", 2),
    ("LNA_INPUT_CLAMP_SETTING", 4), ("LNA_GAIN", 4), ("LNA_INTEGRATOR_DISABLE", 2)]

theorem isSuitable_configuredFunctions :
    (configuredFunctions.all fun function ↦ isSuitable function.1 function.2) = true := by
  decide +kernel

/-- A function does not disturb those before it. -/
theorem areSeparate_configuredFunctions :
    (configuredFunctions.map Prod.fst).Pairwise fun name name' ↦ areSeparate name' name = true := by
  decide +kernel

/-- Function by function, the names agree and the values are below the limits. -/
theorem forall_stagedFunctions {record : RpuWireAfeConfig} (h : ValidAfeValues record) :
    List.Forall₂ (fun function bound ↦ function.1 = bound.1 ∧ function.2.toNat < bound.2)
      (stagedFunctions record) configuredFunctions := by
  have hflag (flag : Bool) : flag.toUInt16.toNat < 2 := by cases flag <;> decide
  have hlpf : record.pga.lpfCutFrequency.toNat < 8 := by
    have hmem := h.lpfCutFrequency
    simp only [List.mem_cons, List.not_mem_nil, or_false] at hmem
    rcases hmem with hlpf | hlpf | hlpf | hlpf <;> rw [hlpf] <;> decide
  have hclamp : record.lna.clamp.toNat < 4 := Nat.lt_succ_of_le h.clamp
  have hgain : record.lna.gain.toNat < 4 := Nat.lt_succ_of_le h.gain
  simp [stagedFunctions, configuredFunctions, hflag, hlpf, hclamp, hgain]

/-- Every function of a valid record is suitable for its value. -/
theorem suitable_of_mem {record : RpuWireAfeConfig} (h : ValidAfeValues record)
    {function : String × UInt16} (hmem : function ∈ stagedFunctions record) :
    ∃ limit spec mask, Suitable function.1 limit spec mask ∧ function.2.toNat < limit := by
  have hall := List.all_eq_true.mp isSuitable_configuredFunctions
  obtain ⟨bound, hbound, hname, hvalue⟩ : ∃ bound ∈ configuredFunctions,
      function.1 = bound.1 ∧ function.2.toNat < bound.2 := by
    obtain ⟨i, hi, rfl⟩ := List.getElem_of_mem hmem
    have hi' : i < configuredFunctions.length := (forall_stagedFunctions h).length_eq ▸ hi
    exact ⟨configuredFunctions[i], List.getElem_mem hi', (forall_stagedFunctions h).get hi hi'⟩
  obtain ⟨spec, mask, hsuitable⟩ := exists_suitable (hall bound hbound)
  rw [← hname] at hsuitable
  exact ⟨bound.2, spec, mask, hsuitable, hvalue⟩

section Programming

variable {view : RegisterView I} [RegisterIo I ε]

/-- After writing functions of an AFE their fields hold the values, and the registers of the other
AFEs are as before. -/
structure Written (view : RegisterView I) (afePl : UInt8) (functions : List (String × UInt16))
    (s t : AfeMmioBackend I) : Prop where
  powered : view.Powered t.io
  held : ∀ function ∈ functions,
    fieldValue (view.registers t.io) afePl function.1 = some function.2
  others : ∀ other, other ≠ afePl → view.registers t.io other = view.registers s.io other

/-- Writing a function that is separate from the ones before adds it to them. -/
theorem wp_writeAfeFunction_written (h : IsRegisterFile view) {afePl : UInt8}
    {functions : List (String × UInt16)} {s t : AfeMmioBackend I}
    (ht : Written view afePl functions s t) {function : String × UInt16} {limit : ℕ}
    {spec : AfeFunctionSpec} {mask : UInt16} (hsuitable : Suitable function.1 limit spec mask)
    (hvalue : function.2.toNat < limit)
    (hbefore : ∀ other ∈ functions, areSeparate function.1 other.1 = true ∧
      ∃ limit' spec' mask', Suitable other.1 limit' spec' mask') :
    wp (writeAfeFunction afePl function.1 function.2 : BackendProg I ε UInt32)
      (fun _ t' ↦ Written view afePl (functions ++ [function]) s t') (fun _ _ ↦ True) t := by
  refine wp_mono (h.wp_writeAfeFunction hsuitable.find hsuitable.register_pos
    hsuitable.register_le ht.powered) (fun _ t' ht' ↦ ?_) fun _ _ h ↦ h
  obtain ⟨hpowered, updated, hupdated, hregisters⟩ := ht'
  constructor
  · exact hpowered
  · intro other hother
    rw [hregisters]
    rcases List.mem_append.mp hother with hmem | hmem
    · obtain ⟨hseparate, limit', spec', mask', hsuitable'⟩ := hbefore other hmem
      rw [fieldValue_setRegister_separate hsuitable hsuitable' hseparate hupdated]
      exact ht.held other hmem
    · rw [List.mem_singleton.mp hmem]
      exact fieldValue_setRegister_same hsuitable hvalue hupdated
  · intro other hother
    rw [hregisters, setRegister_of_ne _ hother, ht.others other hother]

/-- All functions of a valid record are written. -/
theorem wp_stagedFunctions (h : IsRegisterFile view) {record : RpuWireAfeConfig}
    (hvalid : ValidAfeValues record) {s : AfeMmioBackend I} (hpowered : view.Powered s.io) :
    wp ((stagedFunctions record).forM fun (name, value) ↦ do
        let _ ← (writeAfeFunction record.afePl name value : BackendProg I ε UInt32))
      (fun _ t ↦ Written view record.afePl (stagedFunctions record) s t) (fun _ _ ↦ True) s := by
  have hpairwise : ((stagedFunctions record).map Prod.fst).Pairwise
      fun name name' ↦ areSeparate name' name = true := areSeparate_configuredFunctions
  rw [List.pairwise_map] at hpairwise
  refine wp_forM (fun visited t ↦ Written view record.afePl visited s t) (stagedFunctions record)
    (fun visited function rest t hsplit ht ↦ ?_) ⟨hpowered, nofun, fun _ _ ↦ rfl⟩
  have hmem : function ∈ stagedFunctions record := by simp [hsplit]
  obtain ⟨limit, spec, mask, hsuitable, hvalue⟩ := suitable_of_mem hvalid hmem
  refine (wp_map _ _).mpr (wp_writeAfeFunction_written h ht hsuitable hvalue fun other hother ↦
    ⟨?_, ?_⟩)
  · rw [hsplit, List.pairwise_append] at hpairwise
    exact hpairwise.2.2 other hother function List.mem_cons_self
  · have hmem' : other ∈ stagedFunctions record := by simp [hsplit, hother]
    obtain ⟨limit', spec', mask', hsuitable', -⟩ := suitable_of_mem hvalid hmem'
    exact ⟨limit', spec', mask', hsuitable'⟩

omit [RegisterIo I ε] in
/-- Sequencing after a part that keeps the registers. -/
theorem wp_bind_of_keeps {α β : Type} {m : BackendProg I ε α} {f : α → BackendProg I ε β}
    {Q : β → AfeMmioBackend I → Prop} {s : AfeMmioBackend I} (hm : Within view.bound m)
    (hpowered : view.Powered s.io)
    (hf : ∀ a t, view.Powered t.io → view.registers t.io = view.registers s.io →
      wp (f a) Q (fun _ _ ↦ True) t) : wp (m >>= f) Q (fun _ _ ↦ True) s := by
  refine wp_bind_of_within hm (fun a t ht ↦ ?_) fun _ _ _ ↦ trivial
  have hkeeps := ht hpowered.rest
  exact hf a t (hpowered.of_control hkeeps.rest hkeeps.control) hkeeps.registers

/-- Applying a valid record writes its functions; the DACs have registers of their own. -/
theorem wp_applyStagedAfe (h : IsRegisterFile view) {record : RpuWireAfeConfig}
    (hvalid : ValidAfeValues record) {s : AfeMmioBackend I} (hpowered : view.Powered s.io) :
    wp (applyStagedAfe record : BackendProg I ε Unit)
      (fun _ t ↦ Written view record.afePl (stagedFunctions record) s t) (fun _ _ ↦ True) s := by
  unfold applyStagedAfe
  refine wp_bind_of_keeps (within_ofResult _) hpowered fun _ s₁ h₁ hs₁ ↦ ?_
  refine wp_bind_of_keeps (within_index _ _) h₁ fun _ s₂ h₂ hs₂ ↦ ?_
  refine wp_bind_of_keeps (h.within_writeDacRoute _ _) h₂ fun _ s₃ h₃ hs₃ ↦ ?_
  refine wp_bind_of_keeps (within_cacheAttenuation _ _) h₃ fun _ s₄ h₄ hs₄ ↦ ?_
  refine wp_bind_of_keeps (h.within_applyStagedBias record) h₄ fun _ s₅ h₅ hs₅ ↦ ?_
  have hregisters : view.registers s₅.io = view.registers s.io := by rw [hs₅, hs₄, hs₃, hs₂, hs₁]
  refine wp_mono (wp_stagedFunctions h hvalid h₅) (fun _ t ht ↦ ?_) fun _ _ h ↦ h
  refine ⟨ht.powered, ht.held, fun other hother ↦ ?_⟩
  rw [ht.others other hother, hregisters]

/-- The fields of the records already applied hold their values. -/
structure Configured (view : RegisterView I) (records : List RpuWireAfeConfig)
    (t : AfeMmioBackend I) : Prop where
  powered : view.Powered t.io
  held : ∀ record ∈ records, ∀ function ∈ stagedFunctions record,
    fieldValue (view.registers t.io) record.afePl function.1 = some function.2

theorem fieldValue_congr {registers registers' : UInt8 → UInt16 → UInt16} {afePl : UInt8}
    (h : registers afePl = registers' afePl) (name : String) :
    fieldValue registers afePl name = fieldValue registers' afePl name := by
  simp only [fieldValue, h]

/-- Valid records of different AFEs are applied one after the other. -/
theorem wp_applyStagedAfes (h : IsRegisterFile view) {records : List RpuWireAfeConfig}
    (hvalid : ∀ record ∈ records, ValidAfeValues record)
    (hdistinct : (records.map (·.afePl)).Nodup) {s : AfeMmioBackend I}
    (hpowered : view.Powered s.io) :
    wp (records.forM applyStagedAfe : BackendProg I ε Unit)
      (fun _ t ↦ Configured view records t) (fun _ _ ↦ True) s := by
  refine wp_forM (fun visited t ↦ Configured view visited t) records
    (fun visited record rest t hsplit ht ↦ ?_) ⟨hpowered, nofun⟩
  have hmem : record ∈ records := by simp [hsplit]
  refine wp_mono (wp_applyStagedAfe h (hvalid record hmem) ht.powered)
    (fun _ t' ht' ↦ ⟨ht'.powered, fun other hother function hfunction ↦ ?_⟩) fun _ _ h ↦ h
  rcases List.mem_append.mp hother with hvisited | hlast
  · have hne : other.afePl ≠ record.afePl := by
      rw [hsplit, List.map_append, List.nodup_append] at hdistinct
      exact hdistinct.2.2 _ (List.mem_map_of_mem hvisited) _ (by simp)
    rw [fieldValue_congr (ht'.others other.afePl hne)]
    exact ht.held other hvisited function hfunction
  · rw [List.mem_singleton.mp hlast] at hfunction ⊢
    exact ht'.held function hfunction

/-- Programming a configuration of distinct AFEs with valid values leaves them powered, out of reset
and with every field at its value. -/
theorem wp_programStaged (h : IsRegisterFile view) {staged : StagedConfig}
    (hvalid : ValidValues staged) (hdistinct : ((filled staged.afes).map (·.afePl)).Nodup)
    {s : AfeMmioBackend I} (hrest : view.rest s.io) :
    wp (programStaged staged : BackendProg I ε Unit)
      (fun _ t ↦ Configured view (filled staged.afes) t) (fun _ _ ↦ True) s := by
  unfold programStaged
  rw [wp_bind]
  refine wp_mono (h.wp_doReset hrest) (fun _ s₁ hs₁ ↦ ?_) fun _ _ h ↦ h
  rw [wp_bind]
  refine wp_mono (h.wp_setPowerState hs₁.1 hs₁.2) (fun _ s₂ hs₂ ↦ ?_) fun _ _ h ↦ h
  refine wp_bind_of_keeps (within_forM h.within_applyStagedChannel _) hs₂.1 fun _ s₃ h₃ _ ↦ ?_
  refine wp_bind_of_keeps (h.within_writeVbiasControl _ _) h₃ fun _ s₄ h₄ _ ↦ ?_
  rw [wp_bind]
  refine wp_mono (wp_applyStagedAfes h hvalid.afes hdistinct h₄) (fun _ s₅ hs₅ ↦ ?_) fun _ _ h ↦ h
  refine wp_mono (h.wp_setPowerState hs₅.powered.rest hs₅.powered.reset) (fun _ t ht ↦ ?_)
    fun _ _ h ↦ h
  refine ⟨ht.1, fun record hrecord function hfunction ↦ ?_⟩
  rw [ht.2]
  exact hs₅.held record hrecord function hfunction

end Programming

/-- The functions of a record are the fields it configures. -/
theorem fieldsHold_of_staged {registers : UInt8 → UInt16 → UInt16} {afe : AfeFrontendConfig}
    (h : ∀ function ∈ stagedFunctions (wireAfe afe),
      fieldValue registers (wireAfe afe).afePl function.1 = some function.2) :
    FieldsHold registers afe := by
  simp only [stagedFunctions, List.forall_mem_cons] at h
  obtain ⟨h₁, h₂, h₃, h₄, h₅, h₆, h₇, h₈, h₉, h₁₀, h₁₁, h₁₂, -⟩ := h
  exact ⟨h₁, h₂, h₃, h₄, h₅, h₆, h₇, h₈, h₉, h₁₀, h₁₁, h₁₂⟩

/-! ## Main result -/

/-- On a register file that never fails and is never busy, every frame of a configuration of
distinct AFEs and channels with values in range is applied. Afterwards the AFEs are out of reset and
powered, and each configured AFE holds every field of its record. -/
theorem configured_fields_hold [RegisterIo I ε] {view : RegisterView I} (h : IsRegisterFile view)
    {runtime : RpuRuntime (AfeMmioBackend I)} (hrest : view.rest runtime.hardware.io)
    (hready : runtime.interlock.readyForAfe = true)
    (hlimit : 1 ≤ runtime.hardware.config.spinLimit) (firstSequence : UInt64)
    {afes : List AfeFrontendConfig} {channels : List ChannelFrontendConfig} {biasControl : UInt16}
    (hvalid : ValidConfiguration afes channels biasControl) :
    ∃ frames, fromAfeCommandSequence firstSequence (.configureFrontend afes channels biasControl) =
        .ok frames ∧ allApplied runtime frames = true ∧
      let after := (sendAll runtime frames).hardware.io
      bit (view.control after) afeGlobalResetBit = 0 ∧
      bit (view.control after) afeGlobalPowerstateBit = 1 ∧
      ∀ afe ∈ afes, FieldsHold (view.registers after) afe := by
  obtain ⟨frames, hframes, happlied, staged, backend, backend', hholds, hvalues, hio, hprogram,
    hafter⟩ := configuration_applied h hready hlimit firstSequence hvalid
  have hperm := hholds.afes_perm (nodup_afeSlots hvalid.afes_distinct)
  have hdistinct : ((filled staged.afes).map (·.afePl)).Nodup := by
    have hslots : ((filled staged.afes).map afeSlot).Nodup :=
      ((hperm.map afeSlot).nodup_iff).mpr (nodup_afeSlots hvalid.afes_distinct)
    have hcomp : (filled staged.afes).map afeSlot =
        ((filled staged.afes).map (·.afePl)).map UInt8.toNat := by
      rw [List.map_map]
      rfl
    rw [hcomp] at hslots
    exact hslots.of_map
  have hrest' : view.rest backend.io := hio ▸ hrest
  have hconfigured := post_of_ok (wp_programStaged h hvalues hdistinct hrest') hprogram
  refine ⟨frames, hframes, happlied, ?_⟩
  rw [hafter]
  refine ⟨hconfigured.powered.reset, hconfigured.powered.power, fun afe hafe ↦ ?_⟩
  exact fieldsHold_of_staged
    (hconfigured.held (wireAfe afe) (hperm.mem_iff.mpr (List.mem_map_of_mem hafe)))

/-- A ready runtime on AFEs that are all zero. -/
def spiRuntime : RpuRuntime (AfeMmioBackend SpiIo) :=
  (RpuRuntime.new (AfeMmioBackend.new ⟨0, fun _ ↦ ⟨false, 0, fun _ ↦ 0⟩⟩)).setInterlock .ready

def filteredAfe : AfeFrontendConfig :=
  { sampleAfe 100 200 with
    adc := ⟨true, false, true⟩, pga := ⟨4, true, false⟩, lna := ⟨3, 2, true⟩ }

theorem configured_fields_hold_spi :
    ∃ frames, fromAfeCommandSequence 1
        (.configureFrontend [filteredAfe] [sampleChannel] 600) = .ok frames ∧
      allApplied spiRuntime frames = true ∧
      let after := (sendAll spiRuntime frames).hardware.io
      bit (SpiIo.view.control after) afeGlobalResetBit = 0 ∧
      bit (SpiIo.view.control after) afeGlobalPowerstateBit = 1 ∧
      ∀ afe ∈ [filteredAfe], FieldsHold (SpiIo.view.registers after) afe := by
  have hvalid : ValidConfiguration [filteredAfe] [sampleChannel] 600 := by
    constructor
    · simp
    · simp
    · decide
    · intro afe hafe
      rw [List.mem_singleton.mp hafe]
      constructor <;> decide
    · intro channel hchannel
      rw [List.mem_singleton.mp hchannel]
      constructor <;> decide
  have hrest : SpiIo.view.rest spiRuntime.hardware.io := fun _ ↦ rfl
  have hlimit : 1 ≤ spiRuntime.hardware.config.spinLimit := by decide
  exact configured_fields_hold SpiIo.isRegisterFile hrest rfl hlimit 1 hvalid

end DaphneSc.Rpu.ConfigureFields
