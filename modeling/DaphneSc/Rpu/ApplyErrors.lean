import DaphneSc.Program.Decides
import DaphneSc.Rpu.TrimOffset

/-!
# Errors of a configuration that is being applied

Applying a staged configuration checks the values of a record when it gets to the record, after the
AFEs have been reset and powered. So a configuration that is refused for its values has already
changed the hardware. The configurations without this defect are those whose counts do not match,
which are refused first, and those whose values all pass, which are not refused at all.
-/

namespace DaphneSc.Rpu.ApplyErrors

open Core.Afe Core.AfeHw Core.AfeFunctions Core.RpuWire Rpu.Runtime Rpu.Mmio
open Rpu.Mmio.AfeMmioBackend Rpu.TrimOffset Program Slots

variable {I ε α : Type}

/-- An error that comes from the configuration and not from the register window. -/
def fromConfiguration : MmioAfeError ε → Bool
  | .io _ | .timeout => false
  | _ => true

theorem fromConfiguration_functionError (err : AfeFunctionError) (value : UInt16) :
    fromConfiguration (functionError err value : MmioAfeError ε) = true := by
  cases err <;> rfl

theorem fromConfiguration_require12bit {value : UInt32} {e : MmioAfeError ε}
    (h : require12bit value = .error e) : fromConfiguration e = true := by
  unfold require12bit at h
  split at h
  · cases h
  · cases h
    rfl

/-! ## Valid configurations -/

/-- A value of a function that can be written: the table accepts it and its field has a mask. -/
def Writable (name : String) (value : UInt16) : Prop :=
  ∃ spec, validateAfeFunctionValue name value = .ok spec ∧ ∃ mask, spec.field.mask = .ok mask

structure ValidChannelValues (config : RpuWireChannelConfig) : Prop where
  trim : config.trim.toNat < 4096
  offset : config.offset.toNat < 4096

structure ValidAfeValues (config : RpuWireAfeConfig) : Prop where
  attenuation : config.attenuation.toNat < 4096
  bias : config.bias.toNat < 4096
  lpfCutFrequency : config.pga.lpfCutFrequency ∈ [0, 2, 3, 4]
  clamp : config.lna.clamp ≤ 3
  gain : config.lna.gain ≤ 3

/-- Every value of a staged configuration passes its check. -/
structure ValidValues (staged : StagedConfig) : Prop where
  channels : ∀ config ∈ filled staged.channels, ValidChannelValues config
  biasControl : staged.counts.biasControl.toNat < 4096
  afes : ∀ config ∈ filled staged.afes, ValidAfeValues config

/-- What staging guarantees of the records in the slots. -/
structure WellStaged (staged : StagedConfig) : Prop where
  active : staged.active = true
  channels : ∀ config ∈ filled staged.channels, ValidChannel config
  afes : ∀ config ∈ filled staged.afes, config.afePl.toNat < afeCount

/-! ## The functions of a record -/

/-- The values of a function whose field is well formed. -/
theorem writable_iff {name : String} {values : AfeFunctionValues}
    (h : (findAfeFunction name).map (fun spec ↦ (spec.values, spec.field.mask.toBool)) =
      some (values, true)) (value : UInt16) :
    Writable name value ↔ values.contains value = true := by
  obtain ⟨spec, hfind, hspec⟩ := Option.map_eq_some_iff.mp h
  obtain ⟨rfl, hmask⟩ := Prod.mk.inj hspec
  unfold Writable validateAfeFunctionValue
  rw [hfind]
  constructor
  · rintro ⟨spec', hvalidate, -⟩
    by_contra hvalue
    simp [hvalue] at hvalidate
  · intro hvalue
    refine ⟨spec, by simp [hvalue], ?_⟩
    cases hfield : spec.field.mask with
    | ok mask => exact ⟨mask, rfl⟩
    | error e => simp [hfield, Except.toBool] at hmask

theorem contains_bit (value : Bool) :
    (AfeFunctionValues.range 0 1).contains value.toUInt16 = true := by
  cases value <;> rfl

theorem contains_range_three (value : UInt8) :
    (AfeFunctionValues.range 0 3).contains value.toUInt16 = true ↔ value ≤ 3 := by
  have hlow : (0 : UInt16) ≤ value.toUInt16 := UInt16.le_iff_toNat_le.mpr (Nat.zero_le _)
  have hhigh : value.toUInt16 ≤ 3 ↔ value ≤ 3 := by
    rw [UInt16.le_iff_toNat_le, UInt8.toNat_toUInt16, UInt8.le_iff_toNat_le]
    rfl
  simp [AfeFunctionValues.contains, hlow, hhigh]

theorem contains_lpfCutFrequency (value : UInt8) :
    (AfeFunctionValues.options [0, 2, 3, 4]).contains value.toUInt16 = true ↔
      value ∈ [0, 2, 3, 4] := by
  have heq : ∀ option : UInt8, value.toUInt16 = option.toUInt16 ↔ value = option := by
    intro option
    rw [← UInt16.toNat_inj, UInt8.toNat_toUInt16, UInt8.toNat_toUInt16, UInt8.toNat_inj]
  have hoptions : [0, 2, 3, 4] = [0, 2, 3, 4].map UInt8.toUInt16 := rfl
  simp only [AfeFunctionValues.contains, List.contains_iff_mem]
  rw [hoptions, List.mem_map]
  constructor
  · rintro ⟨option, hmem, hoption⟩
    rw [(heq option).mp hoption.symm]
    exact hmem
  · exact fun hmem ↦ ⟨value, hmem, rfl⟩

/-- Of the functions a record sets, only the filter, the clamp and the gain of the LNA can be given
a value they do not have. -/
theorem writable_stagedFunctions (config : RpuWireAfeConfig) :
    (∀ function ∈ stagedFunctions config, Writable function.1 function.2) ↔
      config.pga.lpfCutFrequency ∈ [0, 2, 3, 4] ∧ config.lna.clamp ≤ 3 ∧ config.lna.gain ≤ 3 := by
  have hbit : ∀ name, (findAfeFunction name).map
      (fun spec ↦ (spec.values, spec.field.mask.toBool)) = some (.range 0 1, true) →
      ∀ value : Bool, Writable name value.toUInt16 := by
    intro name h value
    exact (writable_iff h _).mpr (contains_bit value)
  have hlpf : Writable "LPF_PROGRAMMABILITY" config.pga.lpfCutFrequency.toUInt16 ↔
      config.pga.lpfCutFrequency ∈ [0, 2, 3, 4] := by
    rw [← contains_lpfCutFrequency]
    exact writable_iff (by decide +kernel) _
  have hclamp : Writable "LNA_INPUT_CLAMP_SETTING" config.lna.clamp.toUInt16 ↔
      config.lna.clamp ≤ 3 := by
    rw [← contains_range_three]
    exact writable_iff (by decide +kernel) _
  have hgain : Writable "LNA_GAIN" config.lna.gain.toUInt16 ↔ config.lna.gain ≤ 3 := by
    rw [← contains_range_three]
    exact writable_iff (by decide +kernel) _
  have hrate : Writable "SERIALIZED_DATA_RATE" 1 :=
    (@writable_iff _ (.range 0 3) (by decide +kernel) _).mpr rfl
  have hlevel : Writable "PGA_CLAMP_LEVEL" 2 :=
    (@writable_iff _ (.range 0 7) (by decide +kernel) _).mpr rfl
  have htermination : Writable "ACTIVE_TERMINATION_ENABLE" 0 :=
    hbit _ (by decide +kernel) false
  simp only [stagedFunctions, List.forall_mem_cons, List.not_mem_nil, false_imp_iff, implies_true,
    and_true, hlpf, hclamp, hgain, hrate, hlevel, htermination, true_and,
    hbit "ADC_RESOLUTION_RESET" (by decide +kernel),
    hbit "ADC_OUTPUT_FORMAT" (by decide +kernel), hbit "LSB_MSB_FIRST" (by decide +kernel),
    hbit "PGA_INTEGRATOR_DISABLE" (by decide +kernel),
    hbit "PGA_GAIN_CONTROL" (by decide +kernel),
    hbit "LNA_INTEGRATOR_DISABLE" (by decide +kernel)]

/-! ## What the operations decide -/

section Decides

variable [RegisterIo I ε]

/-- Terms on which register accesses and waits refuse nothing, and an error of the configuration is
a refusal. -/
structure Serves (T : Terms (AfeMmioBackend I) (MmioAfeError ε)) : Prop where
  read (offset : UInt32) : Decides T True (read offset)
  write (offset value : UInt32) : Decides T True (write offset value)
  waitAfeReady : Decides T True waitAfeReady
  waitDacReady : Decides T True waitDacReady
  refusal (e : MmioAfeError ε) : fromConfiguration e = true → T.refusal (.error e)
  storeHalves (op : RpuWireOp) (cache : Halves) (s : AfeMmioBackend I) :
    T.inv s → T.inv (storeHalves op cache s)
  attenuation (attenuation : Vector UInt16 afeCount) (s : AfeMmioBackend I) :
    T.inv s → T.inv { s with attenuation := attenuation }
  bias (bias : Vector UInt16 afeCount) (s : AfeMmioBackend I) :
    T.inv s → T.inv { s with bias := bias }
  vbias (control : UInt16) (enabled : Bool) (s : AfeMmioBackend I) :
    T.inv s → T.inv { s with vbiasControl := control, vbiasEnabled := enabled }

variable {T : Terms (AfeMmioBackend I) (MmioAfeError ε)} {C D : Prop}

theorem Serves.decides_setBit (h : Serves T) (offset : UInt32) {bitIndex : UInt8}
    (hbit : bitIndex.toNat < 32) (asserted : Bool) :
    Decides T True (setBit offset bitIndex asserted) := by
  rw [setBit_eq offset hbit]
  exact decides_bind_of_true (h.read offset) fun _ ↦ h.write _ _

theorem Serves.decides_doReset (h : Serves T) : Decides T True doReset :=
  decides_bind_of_true (h.decides_setBit _ (by decide) _) fun _ ↦ h.decides_setBit _ (by decide) _

theorem Serves.decides_writeDacRoute (h : Serves T) (route : DacRoute) (value : UInt16) :
    Decides T True (writeDacRoute route value) :=
  decides_bind_of_true h.waitDacReady fun _ ↦
    decides_bind_of_true (h.write _ _) fun _ ↦
    decides_bind_of_true h.waitDacReady fun _ ↦
    decides_bind_of_true (h.decides_setBit _ (by decide) _) fun _ ↦
    decides_bind_of_true h.waitDacReady fun _ ↦
    decides_bind_of_true (h.decides_setBit _ (by decide) _) fun _ ↦ h.waitDacReady

/-- A check of a 12-bit value before the rest of the program. -/
theorem Serves.decides_require12bit_bind (h : Serves T) (value : UInt32)
    {f : UInt16 → BackendProg I ε α}
    (hf : value.toNat < 4096 → Decides T D (f value.toUInt16)) :
    Decides T (value.toNat < 4096 ∧ D) (ofResult (require12bit value) >>= f) := by
  refine (decides_ofResult_bind (D := D)
    (fun e he ↦ h.refusal e (fromConfiguration_require12bit he)) fun value12 hvalue ↦ ?_).congr ?_
  · obtain ⟨hlt, rfl⟩ := require12bit_eq_ok_iff.mp hvalue
    exact hf hlt
  · apply and_congr_left'
    constructor
    · rintro ⟨_, hvalue⟩
      exact (require12bit_eq_ok_iff.mp hvalue).1
    · exact fun hlt ↦ ⟨_, require12bit_eq_ok_iff.mpr ⟨hlt, rfl⟩⟩

/-! ### Channels -/

theorem Serves.decides_writeTrimOrOffsetChannel (h : Serves T) (bank : Bank)
    {afePl afeChannel : UInt8} (hafe : afePl.toNat < afeCount)
    (hchannel : afeChannel.toNat < channelsPerAfe) (value : UInt16) (gain : Bool) :
    Decides T True (writeTrimOrOffsetChannel bank.setOp afePl afeChannel value gain) := by
  intro s hs
  unfold wp
  rw [writeTrimOrOffsetChannel_eq bank hafe hchannel]
  have hsend : ∀ offset word, Decides T True (sendWord offset word) := fun offset word ↦
    decides_bind_of_true h.waitAfeReady fun _ ↦
      decides_bind_of_true (h.write offset word) fun _ ↦ h.waitAfeReady
  exact hsend _ _ _ (h.storeHalves _ _ _ hs)

theorem Serves.decides_applyStagedChannel (h : Serves T) {config : RpuWireChannelConfig}
    (hvalid : ValidChannel config) :
    Decides T (ValidChannelValues config) (applyStagedChannel config) := by
  obtain ⟨hafe, hchannel, -⟩ := hvalid
  have hwrites : ∀ trim offset : UInt16, Decides T True (do
      writeTrimOrOffsetChannel .setTrim config.afePl config.afeChannel trim false
      writeTrimOrOffsetChannel .setOffset config.afePl config.afeChannel offset false) :=
    fun trim offset ↦
      decides_bind_of_true (h.decides_writeTrimOrOffsetChannel .trim hafe hchannel trim false)
        fun _ ↦ h.decides_writeTrimOrOffsetChannel .offset hafe hchannel offset false
  have hchecks : Decides T (config.trim.toUInt32.toNat < 4096 ∧
      config.offset.toUInt32.toNat < 4096 ∧ True) (applyStagedChannel config) :=
    h.decides_require12bit_bind _ fun _ ↦ h.decides_require12bit_bind _ fun _ ↦ hwrites _ _
  refine hchecks.congr ?_
  rw [UInt16.toNat_toUInt32, UInt16.toNat_toUInt32, and_true]
  exact ⟨fun hvalues ↦ ⟨hvalues.1, hvalues.2⟩, fun hvalues ↦ ⟨hvalues.trim, hvalues.offset⟩⟩

/-! ### AFEs -/

omit [RegisterIo I ε] in
theorem decides_okOr_some {a : Option α} {b : α} (ha : a = some b) (e : MmioAfeError ε) :
    Decides T True (okOr a e : BackendProg I ε α) := by
  rw [ha, okOr_some]
  exact decides_pure b

omit [RegisterIo I ε] in
theorem decides_controlRegister {afePl : UInt8} (hafe : afePl.toNat < afeCount) :
    Decides T True (controlRegister afePl : BackendProg I ε UInt32) := by
  rw [controlRegister_eq]
  exact decides_okOr_some (afeRegisterOffset_eq_some_iff.mpr ⟨hafe, rfl⟩) _

theorem Serves.decides_readRegister (h : Serves T) {afePl : UInt8}
    (hafe : afePl.toNat < afeCount) (register : UInt16) :
    Decides T True (readRegister afePl register) :=
  decides_bind_of_true (decides_controlRegister hafe)
    fun _ ↦ decides_bind_of_true h.waitAfeReady fun _ ↦
    decides_bind_of_true (h.write _ _) fun _ ↦
    decides_bind_of_true h.waitAfeReady fun _ ↦
    decides_bind_of_true (h.write _ _) fun _ ↦
    decides_bind_of_true h.waitAfeReady fun _ ↦
    decides_bind_of_true (h.read _) fun _ ↦
    decides_bind_of_true (h.write _ _) fun _ ↦ decides_pure _

omit [RegisterIo I ε] in
theorem requireU16_toUInt32 (value : UInt16) :
    (Mmio.requireU16 value.toUInt32 : Except (MmioAfeError ε) UInt16) = .ok value := by
  have hlt : value.toNat < 65536 := value.toNat_lt
  have hle : value.toUInt32 ≤ 65535 := by
    rw [UInt32.le_iff_toNat_le, UInt16.toNat_toUInt32]
    exact Nat.le_of_lt_succ hlt
  simp [Mmio.requireU16, u16TryFrom, hle]

theorem Serves.decides_writeRegister (h : Serves T) {afePl : UInt8}
    (hafe : afePl.toNat < afeCount) (register value : UInt16) :
    Decides T True (writeRegister afePl register value.toUInt32) := by
  unfold writeRegister
  rw [requireU16_toUInt32, ofResult_ok, pure_bind]
  exact decides_bind_of_true (decides_controlRegister hafe)
    fun _ ↦ decides_bind_of_true h.waitAfeReady fun _ ↦
    decides_bind_of_true (h.write _ _) fun _ ↦
    decides_bind_of_true h.waitAfeReady fun _ ↦
    decides_bind_of_true (h.write _ _) fun _ ↦
    decides_bind_of_true h.waitAfeReady fun _ ↦
    decides_bind_of_true (h.write _ _) fun _ ↦
    decides_bind_of_true h.waitAfeReady fun _ ↦
    decides_bind_of_true (h.read _) fun _ ↦
    decides_bind_of_true (h.write _ _) fun _ ↦ decides_pure _

/-- A result of the function table before the rest of the program. -/
theorem Serves.decides_orFunctionError_bind {β : Type} (h : Serves T)
    (result : Except AfeFunctionError α) (value : UInt16) {f : α → BackendProg I ε β}
    (hf : ∀ a, result = .ok a → Decides T D (f a)) :
    Decides T ((∃ a, result = .ok a) ∧ D) (orFunctionError result value >>= f) := by
  cases result with
  | ok a =>
    refine (hf a rfl).congr ?_
    exact (and_iff_right ⟨a, rfl⟩).symm
  | error e =>
    intro s hs
    have hrefusal := h.refusal _ (fromConfiguration_functionError e value)
    exact Or.inr ⟨hrefusal, fun hok ↦ absurd hok.1 (by simp)⟩

/-- Writing a function of an AFE decides whether the function can be written: once its value and its
field have passed, nothing else is refused. -/
theorem Serves.decides_writeAfeFunction (h : Serves T) {afePl : UInt8}
    (hafe : afePl.toNat < afeCount) (name : String) (value : UInt16) :
    Decides T (Writable name value) (writeAfeFunction afePl name value) := by
  have hvalidAfe : (validateAfe afePl : Except (MmioAfeError ε) Unit) = .ok () := if_pos hafe
  rw [writeAfeFunction_eq, hvalidAfe, ofResult_ok, pure_bind]
  refine (h.decides_orFunctionError_bind (D := Writable name value) _ value
    fun spec hspec ↦ ?_).congr ?_
  · refine (h.decides_orFunctionError_bind (D := True) _ value fun mask hmask ↦ ?_).congr ?_
    · have hbits :
          ∀ {β : Type} (result : Except AfeFunctionError β) (f : β → BackendProg I ε UInt32),
            (∀ e, result = .error e → spec.field.mask = .error e) →
          (∀ b, Decides T True (f b)) → Decides T True (orFunctionError result value >>= f) := by
        intro β result f hresult hf
        refine (h.decides_orFunctionError_bind result value fun b _ ↦ hf b).congr ?_
        rw [and_true, iff_true]
        cases hcase : result with
        | ok b => exact ⟨b, rfl⟩
        | error e =>
          rw [hresult e hcase] at hmask
          cases hmask
      exact decides_bind_of_true (h.decides_readRegister hafe _) fun _ ↦
        hbits _ _ (fun _ ↦ replaceAfeFunctionBits_error) fun _ ↦
        decides_bind_of_true (h.decides_writeRegister hafe _ _) fun _ ↦
        decides_bind_of_true (h.decides_readRegister hafe _) fun _ ↦
        hbits _ _ (fun _ ↦ extractAfeFunctionBits_error) fun _ ↦ decides_pure _
    · rw [and_true]
      constructor
      · exact fun hmask ↦ ⟨spec, hspec, hmask⟩
      · rintro ⟨spec', hspec', hmask⟩
        rw [hspec] at hspec'
        cases hspec'
        exact hmask
  · constructor
    · exact fun hboth ↦ hboth.2
    · exact fun hwritable ↦ ⟨⟨_, hwritable.choose_spec.1⟩, hwritable⟩

omit [RegisterIo I ε] in
theorem decides_setAt_bind {β : Type} {n : ℕ} {i : ℕ} (hi : i < n) (v : Vector α n) (a : α)
    {f : Vector α n → BackendProg I ε β} (hf : ∀ w, Decides T D (f w)) :
    Decides T D (setAt v i a >>= f) := by
  rw [setAt_of_lt v hi, pure_bind]
  exact hf _

theorem Serves.decides_cacheAttenuation (h : Serves T) {afePl : UInt8}
    (hafe : afePl.toNat < afeCount) (value : UInt16) :
    Decides T True (cacheAttenuation afePl value) :=
  decides_bind_of_true decides_get fun _ ↦ decides_setAt_bind hafe _ _ fun _ ↦
    decides_modify fun s hs ↦ h.attenuation _ s hs

theorem Serves.decides_cacheBias (h : Serves T) {afePl : UInt8} (hafe : afePl.toNat < afeCount)
    (value : UInt16) : Decides T True (cacheBias afePl value) :=
  decides_bind_of_true decides_get fun _ ↦ decides_setAt_bind hafe _ _ fun _ ↦
    decides_modify fun s hs ↦ h.bias _ s hs

theorem Serves.decides_applyStagedBias (h : Serves T) {config : RpuWireAfeConfig}
    (hafe : config.afePl.toNat < afeCount) :
    Decides T (config.bias.toNat < 4096) (applyStagedBias config) := by
  unfold applyStagedBias
  by_cases hzero : config.bias ≠ 0
  · rw [if_pos hzero]
    have hwrite : Decides T (config.bias.toUInt32.toNat < 4096 ∧ True) (do
        let bias ← ofResult (require12bit config.bias.toUInt32)
        let biasRoute ← index afeBiasDacRoutes config.afePl.toNat
        writeDacRoute biasRoute bias
        cacheBias config.afePl bias) := by
      apply h.decides_require12bit_bind
      intro _
      rw [index_of_lt _ hafe, pure_bind]
      exact decides_bind_of_true (h.decides_writeDacRoute _ _) fun _ ↦ h.decides_cacheBias hafe _
    rw [UInt16.toNat_toUInt32, and_true] at hwrite
    exact hwrite
  · rw [if_neg hzero]
    have hbias : config.bias = 0 := not_not.mp hzero
    refine (decides_pure _).congr (iff_of_true trivial ?_)
    rw [hbias]
    decide

theorem Serves.decides_applyStagedAfe (h : Serves T) {config : RpuWireAfeConfig}
    (hafe : config.afePl.toNat < afeCount) :
    Decides T (ValidAfeValues config) (applyStagedAfe config) := by
  have hfunctions : Decides T (∀ function ∈ stagedFunctions config, Writable function.1 function.2)
      ((stagedFunctions config).forM fun function ↦ do
        let _ ← writeAfeFunction config.afePl function.1 function.2) :=
    decides_forM _ fun function _ ↦
      decides_map (h.decides_writeAfeFunction hafe function.1 function.2)
  have hchecks : Decides T (config.attenuation.toUInt32.toNat < 4096 ∧ config.bias.toNat < 4096 ∧
      ∀ function ∈ stagedFunctions config, Writable function.1 function.2)
      (applyStagedAfe config) := by
    apply h.decides_require12bit_bind
    intro _
    rw [index_of_lt _ hafe, pure_bind]
    exact decides_bind_of_true (h.decides_writeDacRoute _ _) fun _ ↦
      decides_bind_of_true (h.decides_cacheAttenuation hafe _) fun _ ↦
      decides_bind (h.decides_applyStagedBias hafe) fun _ ↦ hfunctions
  refine hchecks.congr ?_
  rw [UInt16.toNat_toUInt32, writable_stagedFunctions]
  constructor
  · rintro ⟨hattenuation, hbias, hlpf, hclamp, hgain⟩
    exact ⟨hattenuation, hbias, hlpf, hclamp, hgain⟩
  · rintro ⟨hattenuation, hbias, hlpf, hclamp, hgain⟩
    exact ⟨hattenuation, hbias, hlpf, hclamp, hgain⟩

/-! ### Whole configurations -/

theorem Serves.decides_writeVbiasControl (h : Serves T) (value : UInt16) (enable : Bool) :
    Decides T (value.toNat < 4096) (writeVbiasControl value.toUInt32 enable) := by
  have hcheck : Decides T (value.toUInt32.toNat < 4096 ∧ True)
      (writeVbiasControl value.toUInt32 enable) := by
    apply h.decides_require12bit_bind
    intro _
    exact decides_bind_of_true (h.decides_writeDacRoute _ _) fun _ ↦
      decides_bind_of_true (h.write _ _) fun _ ↦
      decides_bind_of_true (decides_modify fun s hs ↦ h.vbias _ _ s hs) fun _ ↦ decides_pure _
  rw [UInt16.toNat_toUInt32, and_true] at hcheck
  exact hcheck

/-- Programming a configuration decides whether all its values are valid. -/
theorem Serves.decides_programStaged (h : Serves T) {staged : StagedConfig}
    (hstaged : WellStaged staged) : Decides T (ValidValues staged) (programStaged staged) := by
  have hpower : Decides T True (setPowerState true) := h.decides_setBit _ (by decide) _
  have hchecks : Decides T ((∀ config ∈ filled staged.channels, ValidChannelValues config) ∧
      staged.counts.biasControl.toNat < 4096 ∧
      (∀ config ∈ filled staged.afes, ValidAfeValues config) ∧ True) (programStaged staged) :=
    decides_bind_of_true h.decides_doReset fun _ ↦
      decides_bind_of_true hpower fun _ ↦
      decides_bind (decides_forM _ fun config hmem ↦
        h.decides_applyStagedChannel (hstaged.channels config hmem)) fun _ ↦
      decides_bind (h.decides_writeVbiasControl _ _) fun _ ↦
      decides_bind (decides_forM _ fun config hmem ↦
        h.decides_applyStagedAfe (hstaged.afes config hmem)) fun _ ↦ hpower
  refine hchecks.congr ?_
  rw [and_true]
  constructor
  · rintro ⟨hchannels, hbias, hafes⟩
    exact ⟨hchannels, hbias, hafes⟩
  · rintro ⟨hchannels, hbias, hafes⟩
    exact ⟨hchannels, hbias, hafes⟩

end Decides

/-! ## Any register window -/

section AnyWindow

variable [RegisterIo I ε]

/-- On any register window, what is not an error of the configuration is a fault. -/
def anyWindow : Terms (AfeMmioBackend I) (MmioAfeError ε) where
  inv _ := True
  fault a := ∀ e, a = .error e → fromConfiguration e = false
  refusal _ := True

omit [RegisterIo I ε] in
theorem decides_access (m : Prog ε I α) :
    Decides (anyWindow : Terms (AfeMmioBackend I) (MmioAfeError ε)) True
      (mapError .io (zoom ioLens m)) := by
  intro s _
  rw [wp_mapError]
  refine wp_of_forall (fun _ _ ↦ ⟨trivial, trivial⟩) fun e _ ↦ ?_
  cases e with
  | error e =>
    left
    rintro _ ⟨⟩
    rfl
  | panic => exact Or.inl nofun

theorem decides_poll (offset : UInt32) (accept : UInt32 → Bool) (limit : ℕ) :
    Decides (anyWindow : Terms (AfeMmioBackend I) (MmioAfeError ε)) True
      (poll offset accept limit) := by
  induction limit with
  | zero =>
    intro s _
    left
    rintro _ ⟨⟩
    rfl
  | succ limit ih =>
    rw [poll_succ]
    refine decides_bind_of_true (decides_access _) fun value ↦ ?_
    by_cases haccept : accept value = true
    · rw [if_pos haccept]
      exact decides_pure _
    · rw [if_neg haccept]
      exact ih

theorem serves_anyWindow : Serves (anyWindow : Terms (AfeMmioBackend I) (MmioAfeError ε)) where
  read _ := decides_access _
  write _ _ := decides_access _
  waitAfeReady := by
    rw [waitAfeReady_eq]
    exact decides_bind_of_true decides_get fun _ ↦ decides_poll _ _ _
  waitDacReady := by
    rw [waitDacReady_eq]
    exact decides_bind_of_true decides_get fun _ ↦ decides_poll _ _ _
  refusal _ _ := trivial
  storeHalves _ _ _ _ := trivial
  attenuation _ _ _ := trivial
  bias _ _ _ := trivial
  vbias _ _ _ _ := trivial

/-- On any register window, a staged configuration whose values are valid meets no error of its own,
and one whose counts do not match is refused before anything is written. -/
theorem wp_applyConfigureFrontend_writes (s : AfeMmioBackend (Traced I))
    (hstaged : WellStaged s.stagedConfig)
    (hvalid : s.stagedConfig.receivedAfes = s.stagedConfig.counts.afeCount ∧
      s.stagedConfig.receivedChannels = s.stagedConfig.counts.channelCount →
      ValidValues s.stagedConfig) :
    wp applyConfigureFrontend (fun _ _ ↦ True)
      (fun a t ↦ ∀ e, a = .error e → fromConfiguration e = true →
        t.io.writes = s.io.writes) s := by
  unfold applyConfigureFrontend
  rw [wp_bind, wp_get, wp_bind, wp_failIf]
  refine ⟨fun _ ↦ ?_, fun _ _ _ _ ↦ rfl⟩
  rw [wp_bind, wp_ofResult]
  refine ⟨fun _ hcounts ↦ ?_, fun _ _ _ _ _ ↦ rfl⟩
  have hvalues := hvalid (StagedConfig.validateCounts_eq_ok_iff.mp hcounts)
  rw [wp_bind]
  refine wp_mono (serves_anyWindow.decides_programStaged hstaged s trivial)
    (fun _ _ _ ↦ trivial) fun a t ha e he hconfig ↦ ?_
  rcases ha with hfault | hrefusal
  · rw [hfault e he] at hconfig
    exact absurd hconfig Bool.false_ne_true
  · exact absurd hvalues hrefusal.2

end AnyWindow

/-! ## A quiet register window -/

section QuietWindow

/-- A register window that reads as zero is never busy, so nothing but the configuration can be at
fault. -/
def quietWindow : Terms (AfeMmioBackend (Traced ZeroIo)) (MmioAfeError Empty) where
  inv s := s.config.spinLimit ≠ 0
  fault _ := False
  refusal a := ∃ e, a = .error e ∧ fromConfiguration e = true

theorem decides_poll_quiet (offset : UInt32) (accept : UInt32 → Bool) (hzero : accept 0 = true) :
    Decides quietWindow True (do
      let backend ← get
      poll offset accept backend.config.spinLimit.toNat) := by
  intro s hs
  rw [wp_bind, wp_get]
  cases hlimit : s.config.spinLimit.toNat with
  | zero => exact absurd (UInt32.toNat_inj.mp hlimit) hs
  | succ limit =>
    have hread : (read offset : BackendProg (Traced ZeroIo) Empty UInt32) s = .ok 0 s := rfl
    rw [poll_succ]
    unfold wp
    rw [run_bind, hread]
    dsimp only
    rw [if_pos hzero]
    exact ⟨hs, trivial⟩

theorem serves_quietWindow : Serves quietWindow where
  read _ _ hs := ⟨hs, trivial⟩
  write _ _ _ hs := ⟨hs, trivial⟩
  waitAfeReady := by
    rw [waitAfeReady_eq]
    exact decides_poll_quiet _ _ (by decide)
  waitDacReady := by
    rw [waitDacReady_eq]
    exact decides_poll_quiet _ _ (by decide)
  refusal e he := ⟨e, rfl, he⟩
  storeHalves op cache s hs := by
    unfold storeHalves
    split <;> exact hs
  attenuation _ _ hs := hs
  bias _ _ hs := hs
  vbias _ _ _ hs := hs

end QuietWindow

/-! ## Staged configurations -/

/-- A record put into its slot. -/
inductive StageStep where
  | afe (config : RpuWireAfeConfig)
  | channel (config : RpuWireChannelConfig)

def StageStep.perform : StageStep → BackendProg I ε Unit
  | afe config => configureAfe config
  | channel config => configureChannel config

/-- Begin a configuration and stage its records. -/
def stage (counts : RpuWireConfigCounts) (steps : List StageStep) : BackendProg I ε Unit := do
  beginConfigureFrontend counts
  steps.forM StageStep.perform

theorem wp_stage (counts : RpuWireConfigCounts) (steps : List StageStep) (s : AfeMmioBackend I) :
    wp (stage counts steps : BackendProg I ε Unit) (fun _ t ↦ WellStaged t.stagedConfig)
      (fun _ _ ↦ True) s := by
  unfold stage beginConfigureFrontend
  rw [wp_bind, wp_modify]
  refine wp_forM (fun _ (t : AfeMmioBackend I) ↦ WellStaged t.stagedConfig) steps
    (fun _ step _ t _ ht ↦ ?_) ?_
  · obtain ⟨hactive, hchannels, hafes⟩ := ht
    cases step with
    | afe config =>
      refine wp_mono (wp_configureAfe config t) (fun _ t' ht' ↦ ?_) fun _ _ _ ↦ trivial
      obtain ⟨-, hafe, rfl⟩ := ht'
      refine ⟨hactive, hchannels, fun other hother ↦ ?_⟩
      rcases mem_filled_of_store hother with rfl | hother
      · exact hafe
      · exact hafes other hother
    | channel config =>
      refine wp_mono (wp_configureChannel config t) (fun _ t' ht' ↦ ?_) fun _ _ _ ↦ trivial
      obtain ⟨-, hchannel, rfl⟩ := ht'
      refine ⟨hactive, fun other hother ↦ ?_, hafes⟩
      rcases mem_filled_of_store hother with rfl | hother
      · exact hchannel
      · exact hchannels other hother
  · exact ⟨rfl, by simp [StagedConfig.new], by simp [StagedConfig.new]⟩

/-! ## Main result -/

/-- The counts of a configuration are those of its filled slots. -/
def CountsMatch (staged : StagedConfig) : Prop :=
  staged.receivedAfes = staged.counts.afeCount ∧ staged.receivedChannels =
    staged.counts.channelCount

/-- Whatever the register window does, applying the configuration writes nothing when it ends with
an error of the configuration. -/
def RefusesBeforeWriting (staged : StagedConfig) : Prop :=
  ∀ (I ε : Type) [RegisterIo I ε] (s t : AfeMmioBackend (Traced I)) (e : MmioAfeError ε),
    s.stagedConfig = staged → applyConfigureFrontend s = .error (.error e) t →
    fromConfiguration e = true → t.io.writes = s.io.writes

/-- Programming a configuration on a quiet window resets the AFEs before it checks anything. -/
theorem wp_programStaged_writes (staged : StagedConfig)
    (s : AfeMmioBackend (Traced ZeroIo)) :
    wp (programStaged staged) (fun _ _ ↦ True) (fun _ t ↦ t.io.writes ≠ s.io.writes) s := by
  have hreset : wp (doReset : BackendProg (Traced ZeroIo) Empty Unit)
      (fun _ t ↦ t.io.writes = s.io.writes ++ [(0, 1)] ++ [(0, 0)]) (fun _ _ ↦ False) s := by
    change s.io.writes ++ [(0, 1)] ++ [(0, 0)] = _
    rfl
  have hgrows : AdmitsCaches (growsWrites : Bound (AfeMmioBackend (Traced ZeroIo))) :=
    admitsCaches_growsWrites
  have hpower : Within (growsWrites : Bound (AfeMmioBackend (Traced ZeroIo)))
      (setPowerState true) :=
    hgrows.within_setBit _ _ _
  unfold programStaged
  rw [wp_bind]
  refine wp_mono hreset (fun _ t ht ↦ ?_) fun _ _ h ↦ h.elim
  refine wp_mono (within_bind hpower (fun _ ↦
    within_bind (within_forM hgrows.within_applyStagedChannel _) fun _ ↦
    within_bind (hgrows.within_writeVbiasControl _ _) fun _ ↦
    within_bind (within_forM hgrows.within_applyStagedAfe _) fun _ ↦ hpower) t)
    (fun _ _ _ ↦ trivial) fun _ t' ht' heq ↦ ?_
  have hlength := List.IsPrefix.length_le (show t.io.writes <+: t'.io.writes from ht')
  rw [ht, heq] at hlength
  simp at hlength

/-- On a quiet window a configuration that is complete but not valid is refused after writing. -/
theorem quiet_refusal {staged : StagedConfig} (hstaged : WellStaged staged)
    (hcounts : CountsMatch staged) (hvalid : ¬ ValidValues staged) :
    ∃ (s t : AfeMmioBackend (Traced ZeroIo)) (e : MmioAfeError Empty), s.stagedConfig = staged ∧
      applyConfigureFrontend s = .error (.error e) t ∧ fromConfiguration e = true ∧
      t.io.writes ≠ s.io.writes := by
  let s : AfeMmioBackend (Traced ZeroIo) :=
    { AfeMmioBackend.new (Traced.start ZeroIo.mk) with stagedConfig := staged }
  have hlimit : defaultSpinLimit ≠ 0 := by decide
  have hinv : quietWindow.inv s := hlimit
  have hcheck : (staged.validateCounts : Except (MmioAfeError Empty) Unit) = .ok () :=
    StagedConfig.validateCounts_eq_ok_iff.mpr hcounts
  have hprogram := wp_and (serves_quietWindow.decides_programStaged hstaged s hinv)
    (wp_programStaged_writes staged s)
  have happly : wp applyConfigureFrontend (fun _ _ ↦ False) (fun a t ↦
      (∃ e, a = .error e ∧ fromConfiguration e = true) ∧ t.io.writes ≠ s.io.writes) s := by
    unfold applyConfigureFrontend
    rw [wp_bind, wp_get, failIf, if_neg (by simp [s, hstaged.active]), pure_bind,
      show s.stagedConfig = staged from rfl, hcheck, ofResult_ok, pure_bind, wp_bind]
    refine wp_mono hprogram (fun _ _ h ↦ absurd h.1.2 hvalid) fun a t h ↦ ⟨?_, h.2⟩
    exact h.1.elim False.elim fun hrefusal ↦ hrefusal.1
  cases hresult : applyConfigureFrontend s with
  | ok _ t => exact (post_of_ok happly hresult).elim
  | error a t =>
    obtain ⟨⟨e, rfl, hconfig⟩, hwrites⟩ := post_of_error happly hresult
    exact ⟨s, t, e, rfl, hresult, hconfig, hwrites⟩

/-- A staged configuration is refused before anything is written exactly when its counts do not
match, which is checked first, or its values are all valid, so that it is not refused. -/
theorem refusesBeforeWriting_iff [RegisterIo I ε] (counts : RpuWireConfigCounts)
    (steps : List StageStep) (s backend : AfeMmioBackend I)
    (hrun : (stage counts steps : BackendProg I ε Unit) s = .ok () backend) :
    RefusesBeforeWriting backend.stagedConfig ↔
      (CountsMatch backend.stagedConfig → ValidValues backend.stagedConfig) := by
  have hstaged := post_of_ok (wp_stage counts steps s) hrun
  constructor
  · intro hrefuses hcounts
    by_contra hvalid
    obtain ⟨s', t, e, hs', happly, hconfig, hwrites⟩ := quiet_refusal hstaged hcounts hvalid
    exact hwrites (hrefuses ZeroIo Empty s' t e hs' happly hconfig)
  · intro hvalid I' ε' _ s' t e hs' happly hconfig
    rw [← hs'] at hstaged hvalid
    exact post_of_error (wp_applyConfigureFrontend_writes s' hstaged hvalid) happly e rfl hconfig

/-- A record with the given cut frequency, for the first AFE. -/
def recordWithLpf (lpfCutFrequency : UInt8) : RpuWireAfeConfig :=
  ⟨0, 0, 100, 0, ⟨false, false, false⟩, ⟨lpfCutFrequency, false, false⟩, ⟨0, 0, false⟩⟩

/-- Stage that record alone. -/
def stageWithLpf (lpfCutFrequency : UInt8) : BackendProg ZeroIo Empty Unit :=
  stage ⟨1, 0, 0⟩ [.afe (recordWithLpf lpfCutFrequency)]

theorem refusesBeforeWriting_lpf :
    RefusesBeforeWriting (final (stageWithLpf 2) (AfeMmioBackend.new ZeroIo.mk)).stagedConfig := by
  have hrun : stageWithLpf 2 (AfeMmioBackend.new ZeroIo.mk) =
      .ok () (final (stageWithLpf 2) (AfeMmioBackend.new ZeroIo.mk)) :=
    eq_ok_final (by decide +kernel)
  have hchannels : filled (final (stageWithLpf 2)
      (AfeMmioBackend.new ZeroIo.mk)).stagedConfig.channels = [] := by decide +kernel
  have hafes : filled (final (stageWithLpf 2)
      (AfeMmioBackend.new ZeroIo.mk)).stagedConfig.afes = [recordWithLpf 2] := by decide +kernel
  apply (refusesBeforeWriting_iff ⟨1, 0, 0⟩ [.afe (recordWithLpf 2)] _ _ hrun).mpr
  intro _
  refine ⟨by simp [hchannels], by decide +kernel, ?_⟩
  rw [hafes]
  intro config hconfig
  rw [List.mem_singleton.mp hconfig]
  exact ⟨by decide, by decide, by decide, by decide, by decide⟩

/-- Whether applying ends with an error of the configuration after something was written. -/
def refusesAfterWriting (s : AfeMmioBackend (Traced ZeroIo)) : Bool :=
  match applyConfigureFrontend s with
  | .error (.error e) t => fromConfiguration e && t.io.writes != s.io.writes
  | _ => false

theorem not_refusesBeforeWriting {s : AfeMmioBackend (Traced ZeroIo)}
    (h : refusesAfterWriting s = true) : ¬ RefusesBeforeWriting s.stagedConfig := by
  intro hrefuses
  unfold refusesAfterWriting at h
  rcases hresult : applyConfigureFrontend s with ⟨_, t⟩ | ⟨e | _, t⟩
  · rw [hresult] at h
    exact Bool.false_ne_true h
  · rw [hresult, Bool.and_eq_true, bne_iff_ne] at h
    exact h.2 (hrefuses ZeroIo Empty s t e rfl hresult h.1)
  · rw [hresult] at h
    exact Bool.false_ne_true h

/-- A cut frequency the filter does not have is refused after the AFEs were reset and powered and
the bias control and the attenuation were written. -/
theorem invalid_lpf_refused_after_writing :
    returns (stageWithLpf 1) (AfeMmioBackend.new ZeroIo.mk) = true ∧
      ¬ RefusesBeforeWriting
        (final (stageWithLpf 1) (AfeMmioBackend.new ZeroIo.mk)).stagedConfig := by
  have hcheck : refusesAfterWriting { AfeMmioBackend.new (Traced.start ZeroIo.mk) with
      stagedConfig := (final (stageWithLpf 1) (AfeMmioBackend.new ZeroIo.mk)).stagedConfig } =
        true := by decide +kernel
  exact ⟨by decide +kernel, not_refusesBeforeWriting hcheck⟩

end DaphneSc.Rpu.ApplyErrors
