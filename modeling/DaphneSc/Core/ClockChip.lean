import Mathlib.Data.List.Chain
import DaphneSc.Program.Basic

/-!
# Programming the clock chip

The clock chip is set up by writing a table of registers, each read back if asked for, and then
pulsing its reset register. A list of ranges restricts the table; the empty list does not.
-/

namespace DaphneSc.Core.ClockChip

open Program

/-! ## The table -/

structure ClockChipRegister where
  register : UInt8
  value : UInt8
  deriving DecidableEq, Repr

def clockchipResetRegister : UInt8 := 0xF6

def clockchipResetSequence : List UInt8 := [0x02, 0x00]

def reg (register value : UInt8) : ClockChipRegister := ⟨register, value⟩

def clockchipRegisters : List ClockChipRegister :=
  [reg 0x06 0x08, reg 0x1C 0x0B, reg 0x1D 0x08, reg 0x1E 0xB0, reg 0x1F 0xC0, reg 0x20 0xE3,
    reg 0x21 0xE3, reg 0x22 0xC0, reg 0x23 0x41, reg 0x24 0x06, reg 0x25 0x00, reg 0x26 0x00,
    reg 0x27 0x06, reg 0x28 0x64, reg 0x29 0x0C, reg 0x2A 0x24, reg 0x2D 0x00, reg 0x2E 0x00,
    reg 0x2F 0x14, reg 0x30 0x3A, reg 0x31 0x00, reg 0x32 0xC4, reg 0x33 0x07, reg 0x34 0x10,
    reg 0x35 0x00, reg 0x36 0x06, reg 0x37 0x00, reg 0x38 0x00, reg 0x39 0x00, reg 0x3A 0x00,
    reg 0x3B 0x01, reg 0x3C 0x00, reg 0x3D 0x00, reg 0x3E 0x00, reg 0x3F 0x10, reg 0x40 0x00,
    reg 0x41 0x00, reg 0x42 0x00, reg 0x43 0x00, reg 0x44 0x00, reg 0x45 0x00, reg 0x46 0x00,
    reg 0x47 0x00, reg 0x48 0x00, reg 0x49 0x00, reg 0x4A 0x10, reg 0x4B 0x00, reg 0x4C 0x00,
    reg 0x4D 0x00, reg 0x4E 0x00, reg 0x4F 0x00, reg 0x50 0x00, reg 0x51 0x00, reg 0x52 0x00,
    reg 0x53 0x00, reg 0x54 0x00, reg 0x55 0x10, reg 0x56 0x80, reg 0x57 0x0A, reg 0x58 0x00,
    reg 0x59 0x00, reg 0x5A 0x00, reg 0x5B 0x00, reg 0x5C 0x01, reg 0x5D 0x00, reg 0x5E 0x00,
    reg 0x5F 0x00, reg 0x61 0x00, reg 0x62 0x30, reg 0x63 0x00, reg 0x64 0x00, reg 0x65 0x00,
    reg 0x66 0x00, reg 0x67 0x01, reg 0x68 0x00, reg 0x69 0x00, reg 0x6A 0x80, reg 0x6B 0x00,
    reg 0x6C 0x00, reg 0x6D 0x00, reg 0x6E 0x40, reg 0x6F 0x00, reg 0x70 0x00, reg 0x71 0x00,
    reg 0x72 0x40, reg 0x73 0x00, reg 0x74 0x80, reg 0x75 0x00, reg 0x76 0x40, reg 0x77 0x00,
    reg 0x78 0x00, reg 0x79 0x00, reg 0x7A 0x40, reg 0x7B 0x00, reg 0x7C 0x00, reg 0x7D 0x00,
    reg 0x7E 0x00, reg 0x7F 0x00, reg 0x80 0x00, reg 0x81 0x00, reg 0x82 0x00, reg 0x83 0x00,
    reg 0x84 0x00, reg 0x85 0x00, reg 0x86 0x00, reg 0x87 0x00, reg 0x88 0x00, reg 0x89 0x00,
    reg 0x8A 0x00, reg 0x8B 0x00, reg 0x8C 0x00, reg 0x8D 0x00, reg 0x8E 0x00, reg 0x8F 0x00,
    reg 0x90 0x00, reg 0x98 0x00, reg 0x99 0x00, reg 0x9A 0x00, reg 0x9B 0x00, reg 0x9C 0x00,
    reg 0x9D 0x00, reg 0x9E 0x00, reg 0x9F 0x00, reg 0xA0 0x00, reg 0xA1 0x00, reg 0xA2 0x00,
    reg 0xA3 0x00, reg 0xA4 0x00, reg 0xA5 0x00, reg 0xA6 0x00, reg 0xA7 0x00, reg 0xA8 0x00,
    reg 0xA9 0x00, reg 0xAA 0x00, reg 0xAB 0x00, reg 0xAC 0x00, reg 0xAD 0x00, reg 0xAE 0x00,
    reg 0xAF 0x00, reg 0xB0 0x00, reg 0xB1 0x00, reg 0xB2 0x00, reg 0xB3 0x00, reg 0xB4 0x00,
    reg 0xB5 0x00, reg 0xB6 0x00, reg 0xB7 0x00, reg 0xB8 0x00, reg 0xB9 0x00, reg 0xBA 0x00,
    reg 0xBB 0x00, reg 0xBC 0x00, reg 0xBD 0x00, reg 0xBE 0x00, reg 0xBF 0x00, reg 0xC0 0x00,
    reg 0xC1 0x00, reg 0xC2 0x00, reg 0xC3 0x00, reg 0xC4 0x00, reg 0xC5 0x00, reg 0xC6 0x00,
    reg 0xC7 0x00, reg 0xC8 0x00, reg 0xC9 0x00, reg 0xCA 0x00, reg 0xCB 0x00, reg 0xCC 0x00,
    reg 0xCD 0x00, reg 0xCE 0x00, reg 0xCF 0x00, reg 0xD0 0x00, reg 0xD1 0x00, reg 0xD2 0x00,
    reg 0xD3 0x00, reg 0xD4 0x00, reg 0xD5 0x00, reg 0xD6 0x00, reg 0xD7 0x00, reg 0xD8 0x00,
    reg 0xD9 0x00, reg 0xE6 0x06]

/-! ## The selection -/

structure ClockChipRange where
  start : UInt8
  «end» : UInt8
  deriving DecidableEq, Repr

namespace ClockChipRange

def new (start «end» : UInt8) : ClockChipRange :=
  if start ≤ «end» then ⟨start, «end»⟩ else ⟨«end», start⟩

def contains (range : ClockChipRange) (register : UInt8) : Bool :=
  range.start ≤ register && register ≤ range.end

end ClockChipRange

structure ClockChipProgramOptions where
  verify : Bool := false
  reset : Bool := true
  ranges : List ClockChipRange := []

def ClockChipProgramOptions.includes (options : ClockChipProgramOptions) (register : UInt8) :
    Bool :=
  options.ranges.isEmpty || options.ranges.any (·.contains register)

structure ClockChipReport where
  written : ℕ := 0
  verified : ℕ := 0
  resetPulses : ℕ := 0
  deriving DecidableEq

/-! ## The bus -/

/-- The bus the chip is on; its errors are its own. -/
class ClockChipBus (B : Type) (X : outParam Type) where
  writeRegister (register value : UInt8) : Prog X B Unit
  readRegister (register : UInt8) : Prog X B UInt8
  resetDelay (bus : B) : B

inductive ClockChipOperation where
  | read
  | write
  deriving DecidableEq

inductive ClockChipError (X : Type) where
  | bus (register : UInt8) (operation : ClockChipOperation) (source : X)
  | verifyMismatch (register expected actual : UInt8)

section Programs

variable {B X : Type} [ClockChipBus B X]

def verifyRegister (entry : ClockChipRegister) : Prog (ClockChipError X) B Unit := do
  let actual ← mapError (.bus entry.register .read) (ClockChipBus.readRegister entry.register)
  failIf (actual ≠ entry.value) (.verifyMismatch entry.register entry.value actual)

/-- One pass of the loop over the table. -/
def programRegister (options : ClockChipProgramOptions) (report : ClockChipReport)
    (entry : ClockChipRegister) : Prog (ClockChipError X) B ClockChipReport :=
  if ¬ options.includes entry.register then
    return report
  else do
    mapError (.bus entry.register .write) (ClockChipBus.writeRegister entry.register entry.value)
    let report := { report with written := report.written + 1 }
    if options.verify then
      verifyRegister entry
      return { report with verified := report.verified + 1 }
    else
      return report

/-- One pass of the loop over the reset sequence. -/
def resetPulse (report : ClockChipReport) (value : UInt8) :
    Prog (ClockChipError X) B ClockChipReport := do
  mapError (.bus clockchipResetRegister .write)
    (ClockChipBus.writeRegister clockchipResetRegister value)
  modify ClockChipBus.resetDelay
  return { report with resetPulses := report.resetPulses + 1 }

def programClockChip (options : ClockChipProgramOptions) :
    Prog (ClockChipError X) B ClockChipReport := do
  let report ← clockchipRegisters.foldlM (programRegister options) {}
  if options.reset then
    clockchipResetSequence.foldlM resetPulse report
  else
    return report

/-- One pass of the loop of a verification. -/
def checkRegister (options : ClockChipProgramOptions) (report : ClockChipReport)
    (entry : ClockChipRegister) : Prog (ClockChipError X) B ClockChipReport :=
  if ¬ options.includes entry.register then
    return report
  else do
    verifyRegister entry
    return { report with verified := report.verified + 1 }

def verifyClockChip (ranges : List ClockChipRange) : Prog (ClockChipError X) B ClockChipReport :=
  let options : ClockChipProgramOptions := { verify := true, reset := false, ranges := ranges }
  clockchipRegisters.foldlM (checkRegister options) {}

end Programs

/-! ## Facts about the table -/

/-- The part of the table that the ranges select. -/
def ClockChipProgramOptions.selected (options : ClockChipProgramOptions) : List ClockChipRegister :=
  clockchipRegisters.filter fun entry ↦ options.includes entry.register

theorem sorted_clockchipRegisters :
    (clockchipRegisters.map (·.register.toNat)).Pairwise (· < ·) :=
  List.isChain_iff_pairwise.mp (by decide +kernel)

/-- No register is in the table twice. -/
theorem registers_ne : clockchipRegisters.Pairwise fun entry entry' ↦
    entry.register ≠ entry'.register := by
  apply (List.pairwise_map.mp sorted_clockchipRegisters).imp
  intro entry entry' hlt heq
  rw [heq] at hlt
  exact Nat.lt_irrefl _ hlt

/-- The reset register is above all registers of the table. -/
theorem register_ne_reset {entry : ClockChipRegister} (h : entry ∈ clockchipRegisters) :
    entry.register ≠ clockchipResetRegister := by
  have hlast : ∀ register ∈ clockchipRegisters.map (·.register.toNat), register < 0xF6 := by
    decide +kernel
  intro heq
  have hlt := hlast _ (List.mem_map_of_mem h)
  rw [heq] at hlt
  exact Nat.lt_irrefl _ hlt

end DaphneSc.Core.ClockChip
