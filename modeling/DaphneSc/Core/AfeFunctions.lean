import DaphneSc.Bits.Masked

/-!
# Named bit fields of the AFE registers

A function name stands for a bit field of one register together with the values it accepts. The
table is the legacy one, including the field whose bit order is inverted.
-/

namespace DaphneSc.Core.AfeFunctions

structure AfeBitField where
  register : UInt16
  msb : UInt8
  lsb : UInt8
  deriving DecidableEq, Repr

inductive AfeFunctionValues where
  | range (min max : UInt16)
  | options (values : List UInt16)
  deriving DecidableEq, Repr

structure AfeFunctionSpec where
  name : String
  field : AfeBitField
  values : AfeFunctionValues
  deriving DecidableEq, Repr

def AfeFunctionSpec.new (name : String) (register : UInt16) (msb lsb : UInt8)
    (values : AfeFunctionValues) : AfeFunctionSpec where
  name := name
  field := ⟨register, msb, lsb⟩
  values := values

inductive AfeFunctionError where
  | unknownName
  | invalidValue
  | invalidBitField
  deriving DecidableEq, Repr

def afeFunctions : List AfeFunctionSpec :=
  [
    .new "SOFTWARE_RESET" 0 0 0 (.range 0 1),
    .new "REGISTER_READOUT_ENABLE" 0 1 1 (.range 0 1),
    .new "ADC_COMPLETE_PDN" 1 0 0 (.range 0 1),
    .new "LVDS_OUTPUT_DISABLE" 1 1 1 (.range 0 1),
    .new "ADC_PDN_CH" 1 9 2 (.range 0 0xFF),
    .new "PARTIAL_PDN" 1 10 10 (.range 0 1),
    .new "LOW_FREQUENCY_NOISE_SUPPRESSION" 1 11 11 (.range 0 1),
    .new "EXT_REF" 1 13 13 (.range 0 1),
    .new "LVDS_OUTPUT_RATE_2X" 1 12 14 (.range 0 1),
    .new "SINGLE-ENDED_CLK_MODE" 1 15 15 (.range 0 1),
    .new "POWER-DOWN_LVDS" 2 10 3 (.range 0 1),
    .new "AVERAGING_ENABLE" 2 11 11 (.range 0 1),
    .new "LOW_LATENCY" 2 12 12 (.range 0 1),
    .new "TEST_PATTERN_MODES" 2 15 13 (.range 0 0x7),
    .new "INVERT_CHANNELS" 3 7 0 (.range 0 0xFF),
    .new "CHANNEL_OFFSET_SUBSTRACTION_ENABLE" 3 8 8 (.range 0 1),
    .new "DIGITAL_GAIN_ENABLE" 3 12 12 (.range 0 1),
    .new "SERIALIZED_DATA_RATE" 3 14 13 (.range 0 0x3),
    .new "ENABLE_EXTERNAL_REFERENCE_MODE" 3 15 15 (.range 0 1),
    .new "ADC_RESOLUTION_RESET" 4 1 1 (.range 0 1),
    .new "ADC_OUTPUT_FORMAT" 4 3 3 (.range 0 1),
    .new "LSB_MSB_FIRST" 4 4 4 (.range 0 1),
    .new "CUSTOM_PATTERN" 5 13 0 (.range 0 0x3FFF),
    .new "SYNC_PATTERN" 10 8 8 (.range 0 1),
    .new "OFFSET_CH1" 13 9 0 (.range 0 0x3FF),
    .new "DIGITAL_GAIN_CH1" 13 15 11 (.range 0 0x1F),
    .new "OFFSET_CH2" 15 9 0 (.range 0 0x3FF),
    .new "DIGITAL_GAIN_CH2" 15 15 11 (.range 0 0x1F),
    .new "OFFSET_CH3" 17 9 0 (.range 0 0x3FF),
    .new "DIGITAL_GAIN_CH3" 17 15 11 (.range 0 0x1F),
    .new "OFFSET_CH4" 19 9 0 (.range 0 0x3FF),
    .new "DIGITAL_GAIN_CH4" 19 15 11 (.range 0 0x1F),
    .new "DIGITAL_HPF_FILTER_ENABLE_CH1-4" 21 0 0 (.range 0 1),
    .new "DIGITAL_HPF_FILTER_K_CH1-4" 21 4 1 (.range 2 10),
    .new "OFFSET_CH8" 25 9 0 (.range 0 0x3FF),
    .new "DIGITAL_GAIN_CH8" 25 15 11 (.range 0 0x1F),
    .new "OFFSET_CH7" 27 9 0 (.range 0 0x3FF),
    .new "DIGITAL_GAIN_CH7" 27 15 11 (.range 0 0x1F),
    .new "OFFSET_CH6" 29 9 0 (.range 0 0x3FF),
    .new "DIGITAL_GAIN_CH6" 29 15 11 (.range 0 0x1F),
    .new "OFFSET_CH5" 31 9 0 (.range 0 0x3FF),
    .new "DIGITAL_GAIN_CH5" 31 15 11 (.range 0 0x1F),
    .new "DIGITAL_HPF_FILTER_ENABLE_CH5-8" 33 0 0 (.range 0 1),
    .new "DIGITAL_HPF_FILTER_K_CH5-8" 33 4 1 (.range 2 10),
    .new "DITHER" 66 15 15 (.range 0 1),
    .new "PGA_CLAMP_-6dB" 50 10 10 (.range 0 1),
    .new "LPF_PROGRAMMABILITY" 51 3 1 (.options [0, 2, 3, 4]),
    .new "PGA_INTEGRATOR_DISABLE" 51 4 4 (.range 0 1),
    .new "PGA_CLAMP_LEVEL" 51 7 5 (.range 0 7),
    .new "PGA_GAIN_CONTROL" 51 13 13 (.range 0 1),
    .new "ACTIVE_TERMINATION_INDIVIDUAL_RESISTOR_CNTL" 52 4 0 (.range 0 0x1F),
    .new "ACTIVE_TERMINATION_INDIVIDUAL_RESISTOR_ENABLE" 52 5 5 (.range 0 1),
    .new "PRESET_ACTIVE_TERMINATIONS" 52 7 6 (.range 0 3),
    .new "ACTIVE_TERMINATION_ENABLE" 52 8 8 (.range 0 1),
    .new "LNA_INPUT_CLAMP_SETTING" 52 10 9 (.range 0 3),
    .new "LNA_INTEGRATOR_DISABLE" 52 12 12 (.range 0 1),
    .new "LNA_GAIN" 52 14 13 (.range 0 3),
    .new "LNA_INDIVIDUAL_CH_CNTL" 52 15 15 (.range 0 1),
    .new "PDN_CH" 53 7 0 (.range 0 0xFF),
    .new "LOW_POWER" 53 10 10 (.range 0 1),
    .new "MED_POWER" 53 11 11 (.range 0 1),
    .new "PDN_VCAT_PGA" 53 12 12 (.range 0 1),
    .new "PDN_LNA" 53 13 13 (.range 0 1),
    .new "VCA_PARTIAL_PDN" 53 14 14 (.range 0 1),
    .new "VCA_COMPLETE_PDN" 53 15 15 (.range 0 1),
    .new "CW_SUM_AMP_GAIN_CNTL" 54 4 0 (.options [0, 1, 2, 4, 8, 16]),
    .new "CW_16X_CLK_SEL" 54 5 5 (.range 0 1),
    .new "CW_1X_CLK_SEL" 54 6 6 (.range 0 1),
    .new "CW_TGC_SEL" 54 8 8 (.range 0 1),
    .new "CW_SUM_AMP_ENABLE" 54 9 9 (.range 0 1),
    .new "CW_CLK_MODE_SEL" 54 11 10 (.range 0 3),
    .new "CH1_CW_MIXER_PHASE" 55 3 0 (.range 0 0xF),
    .new "CH2_CW_MIXER_PHASE" 55 7 4 (.range 0 0xF),
    .new "CH3_CW_MIXER_PHASE" 55 11 8 (.range 0 0xF),
    .new "CH4_CW_MIXER_PHASE" 55 15 12 (.range 0 0xF),
    .new "CH5_CW_MIXER_PHASE" 56 3 0 (.range 0 0xF),
    .new "CH6_CW_MIXER_PHASE" 56 7 4 (.range 0 0xF),
    .new "CH7_CW_MIXER_PHASE" 56 11 8 (.range 0 0xF),
    .new "CH8_CW_MIXER_PHASE" 56 15 12 (.range 0 0xF),
    .new "CH1_LNA_GAIN_CNTL" 57 1 0 (.range 0 3),
    .new "CH2_LNA_GAIN_CNTL" 57 3 2 (.range 0 3),
    .new "CH3_LNA_GAIN_CNTL" 57 5 4 (.range 0 3),
    .new "CH4_LNA_GAIN_CNTL" 57 7 6 (.range 0 3),
    .new "CH5_LNA_GAIN_CNTL" 57 9 8 (.range 0 3),
    .new "CH6_LNA_GAIN_CNTL" 57 11 10 (.range 0 3),
    .new "CH7_LNA_GAIN_CNTL" 57 13 12 (.range 0 3),
    .new "CH8_LNA_GAIN_CNTL" 57 15 14 (.range 0 3),
    .new "HPF_LNA" 59 3 2 (.range 0 3),
    .new "DIG_TGC_ATT_GAIN" 59 6 4 (.range 0 0x7),
    .new "DIG_TGC_ATT" 59 7 7 (.range 0 1),
    .new "CW_SUM_AMP_PDN" 59 8 8 (.range 0 1),
    .new "PGA_TEST_MODE" 59 9 9 (.range 0 1)]

def AfeFunctionValues.contains (spec : AfeFunctionValues) (value : UInt16) : Bool :=
  match spec with
  | .range min max => value ≥ min && value ≤ max
  | .options values => values.contains value

def AfeBitField.mask (field : AfeBitField) : Except AfeFunctionError UInt16 :=
  if field.msb < field.lsb ∨ field.msb ≥ 16 then
    .error .invalidBitField
  else
    let width := field.msb - field.lsb + 1
    let mask := (((1 : UInt32) <<< width.toUInt32) - 1) <<< field.lsb.toUInt32
    .ok mask.toUInt16

def findAfeFunction (name : String) : Option AfeFunctionSpec :=
  afeFunctions.find? fun spec ↦ spec.name == name

def validateAfeFunctionValue (name : String) (value : UInt16) :
    Except AfeFunctionError AfeFunctionSpec :=
  match findAfeFunction name with
  | none => .error .unknownName
  | some spec => if spec.values.contains value then .ok spec else .error .invalidValue

def replaceAfeFunctionBits (registerValue : UInt16) (field : AfeBitField) (value : UInt16) :
    Except AfeFunctionError UInt16 := do
  let mask ← field.mask
  return (registerValue &&& ~~~mask) ||| ((value <<< field.lsb.toUInt16) &&& mask)

def extractAfeFunctionBits (registerValue : UInt16) (field : AfeBitField) :
    Except AfeFunctionError UInt16 := do
  let mask ← field.mask
  return (registerValue &&& mask) >>> field.lsb.toUInt16

/-- Whether a field has a mask does not depend on the register contents. -/
theorem replaceAfeFunctionBits_error {registerValue value : UInt16} {field : AfeBitField}
    {e : AfeFunctionError} (h : replaceAfeFunctionBits registerValue field value = .error e) :
    field.mask = .error e := by
  unfold replaceAfeFunctionBits at h
  cases hmask : field.mask with
  | ok mask => simp [hmask, bind, Except.bind, pure, Except.pure] at h
  | error e' => simpa [hmask, bind, Except.bind] using h

theorem extractAfeFunctionBits_error {registerValue : UInt16} {field : AfeBitField}
    {e : AfeFunctionError} (h : extractAfeFunctionBits registerValue field = .error e) :
    field.mask = .error e := by
  unfold extractAfeFunctionBits at h
  cases hmask : field.mask with
  | ok mask => simp [hmask, bind, Except.bind, pure, Except.pure] at h
  | error e' => simpa [hmask, bind, Except.bind] using h

/-- A function that is valid is the one of its name in the table. -/
theorem spec_of_valid {name : String} {value : UInt16} {spec spec' : AfeFunctionSpec}
    (hspec : findAfeFunction name = some spec)
    (hvalid : validateAfeFunctionValue name value = .ok spec') : spec' = spec := by
  unfold validateAfeFunctionValue at hvalid
  rw [hspec] at hvalid
  by_cases hcontains : spec.values.contains value = true
  · simp only [hcontains, if_true] at hvalid
    exact (Except.ok.inj hvalid).symm
  · simp only [hcontains, Bool.false_eq_true, if_false] at hvalid
    cases hvalid

/-! ## Reading a field back -/

/-- A value that the bits of a field can hold. -/
def AfeBitField.Fits (field : AfeBitField) (mask value : UInt16) : Prop :=
  ((value <<< field.lsb.toUInt16) &&& mask) >>> field.lsb.toUInt16 = value

section Replaced

variable {field other : AfeBitField} {mask mask' registerValue updated value : UInt16}

theorem replaced_of_mask (hmask : field.mask = .ok mask)
    (h : replaceAfeFunctionBits registerValue field value = .ok updated) :
    updated.toBitVec = Bits.insert mask.toBitVec (value <<< field.lsb.toUInt16).toBitVec
      registerValue.toBitVec := by
  unfold replaceAfeFunctionBits at h
  rw [hmask] at h
  rw [← Except.ok.inj h, Bits.insert]
  simp only [UInt16.toBitVec_or, UInt16.toBitVec_and, UInt16.toBitVec_not]

/-- A field that was replaced holds the value. -/
theorem extract_of_replaced (hmask : field.mask = .ok mask) (hfits : field.Fits mask value)
    (h : replaceAfeFunctionBits registerValue field value = .ok updated) :
    extractAfeFunctionBits updated field = .ok value := by
  have hbits : updated &&& mask = (value <<< field.lsb.toUInt16) &&& mask := by
    apply UInt16.toBitVec_inj.mp
    rw [UInt16.toBitVec_and, UInt16.toBitVec_and, replaced_of_mask hmask h]
    exact Bits.insert_and_self _ _ _
  calc extractAfeFunctionBits updated field
      = .ok ((updated &&& mask) >>> field.lsb.toUInt16) := by
        unfold extractAfeFunctionBits
        rw [hmask]
        rfl
    _ = .ok value := by rw [hbits, hfits]

/-- A field without a bit in common with the replaced one holds what it held. -/
theorem extract_of_replaced_disjoint (hmask : field.mask = .ok mask)
    (hmask' : other.mask = .ok mask') (hdisjoint : mask &&& mask' = 0)
    (h : replaceAfeFunctionBits registerValue field value = .ok updated) :
    extractAfeFunctionBits updated other = extractAfeFunctionBits registerValue other := by
  have hbits : updated &&& mask' = registerValue &&& mask' := by
    apply UInt16.toBitVec_inj.mp
    rw [UInt16.toBitVec_and, UInt16.toBitVec_and, replaced_of_mask hmask h]
    apply Bits.insert_and_of_disjoint
    rw [← UInt16.toBitVec_and, hdisjoint]
    rfl
  unfold extractAfeFunctionBits
  rw [hmask']
  simp only [bind, Except.bind, hbits]

end Replaced

end DaphneSc.Core.AfeFunctions
