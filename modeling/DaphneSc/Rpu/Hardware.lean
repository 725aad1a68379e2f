import DaphneSc.Rpu.MmioFrame
import DaphneSc.Rpu.NeverStops

/-!
# Hardware without access failures

A register window on which every access succeeds is determined by what it answers to a read, given
everything that happened on it before. The accesses are recorded with the values read, so the words
an operation saw and the last value it wrote to a register are read off the record.
-/

namespace DaphneSc.Rpu.Mmio

open Core.Afe Core.AfeHw Program

/-- An access that succeeded, with the value read or written. -/
inductive Access where
  | read (offset value : UInt32)
  | write (offset value : UInt32)
  deriving DecidableEq, Repr

namespace Access

/-- The value an access writes to a register. -/
def writtenTo (offset : UInt32) : Access → Option UInt32
  | .read _ _ => none
  | .write offset' value => if offset' = offset then some value else none

/-- The value an access reads from a register. -/
def readFrom (offset : UInt32) : Access → Option UInt32
  | .read offset' value => if offset' = offset then some value else none
  | .write _ _ => none

end Access

/-- The value last written to a register. -/
def lastWritten (offset : UInt32) (history : List Access) : Option UInt32 :=
  (history.filterMap (Access.writtenTo offset)).getLast?

theorem lastWritten_append_write (offset value : UInt32) (history : List Access) :
    lastWritten offset (history ++ [.write offset value]) = some value := by
  simp [lastWritten, Access.writtenTo]

theorem lastWritten_append_of_none {offset : UInt32} {accesses : List Access}
    (h : accesses.filterMap (Access.writtenTo offset) = []) (history : List Access) :
    lastWritten offset (history ++ accesses) = lastWritten offset history := by
  rw [lastWritten, List.filterMap_append, h, List.append_nil, lastWritten]

/-- Hardware that answers a read according to the accesses before it. -/
structure HardwareIo where
  answer : List Access → UInt32 → UInt32
  history : List Access

namespace HardwareIo

/-- The hardware after more accesses. -/
def after (io : HardwareIo) (accesses : List Access) : HardwareIo :=
  { io with history := io.history ++ accesses }

/-- What the next read of a register returns. -/
def next (io : HardwareIo) (offset : UInt32) : UInt32 := io.answer io.history offset

@[simp] theorem after_nil (io : HardwareIo) : io.after [] = io := by
  rw [after, List.append_nil]

@[simp] theorem after_after (io : HardwareIo) (accesses accesses' : List Access) :
    (io.after accesses).after accesses' = io.after (accesses ++ accesses') := by
  rw [after, after, after, List.append_assoc]

end HardwareIo

instance : RegisterIo HardwareIo Empty where
  read32 offset := modifyGet fun io ↦ (io.next offset, io.after [.read offset (io.next offset)])
  write32 offset value := modify fun io ↦ io.after [.write offset value]

namespace AfeMmioBackend

theorem ioAnswers_hardware : IoAnswers HardwareIo where
  read32 _ _ := trivial
  write32 _ _ _ := trivial

/-- A backend after more accesses of its hardware. -/
def after (s : AfeMmioBackend HardwareIo) (accesses : List Access) : AfeMmioBackend HardwareIo :=
  { s with io := s.io.after accesses }

@[simp] theorem after_nil (s : AfeMmioBackend HardwareIo) : s.after [] = s := by
  rw [after, HardwareIo.after_nil]

@[simp] theorem after_after (s : AfeMmioBackend HardwareIo) (accesses accesses' : List Access) :
    (s.after accesses).after accesses' = s.after (accesses ++ accesses') := by
  rw [after, after, after, HardwareIo.after_after]

@[simp] theorem config_after (s : AfeMmioBackend HardwareIo) (accesses : List Access) :
    (s.after accesses).config = s.config := rfl

@[simp] theorem io_after (s : AfeMmioBackend HardwareIo) (accesses : List Access) :
    (s.after accesses).io = s.io.after accesses := rfl

theorem run_read (offset : UInt32) (s : AfeMmioBackend HardwareIo) :
    read offset s = .ok (s.io.next offset) (s.after [.read offset (s.io.next offset)]) := rfl

theorem run_write (offset value : UInt32) (s : AfeMmioBackend HardwareIo) :
    write offset value s = .ok () (s.after [.write offset value]) := rfl

/-- Setting a bit reads the register and writes it back with the bit changed. -/
theorem run_setBit (offset : UInt32) {bitIndex : UInt8} (h : bitIndex.toNat < 32)
    (asserted : Bool) (s : AfeMmioBackend HardwareIo) :
    setBit offset bitIndex asserted s = .ok () (s.after [.read offset (s.io.next offset),
      .write offset (if asserted then s.io.next offset ||| (1 : UInt32) <<< bitIndex.toUInt32
        else s.io.next offset &&& ~~~((1 : UInt32) <<< bitIndex.toUInt32))]) := by
  rw [setBit_eq offset h, run_bind, run_read]
  dsimp only
  rw [run_write, after_after]
  rfl

/-! ## Polling -/

/-- Reading a register over and over. -/
def afterReads (offset : UInt32) (s : AfeMmioBackend HardwareIo) : ℕ → AfeMmioBackend HardwareIo
  | 0 => s
  | count + 1 => afterReads offset (s.after [.read offset (s.io.next offset)]) count

/-- What reading a register over and over returns. -/
def reading (offset : UInt32) (s : AfeMmioBackend HardwareIo) (count : ℕ) : UInt32 :=
  (afterReads offset s count).io.next offset

/-- A poll returns when one of its readings is accepted. -/
theorem poll_of_accepted (offset : UInt32) (accept : UInt32 → Bool) {limit : ℕ}
    {s : AfeMmioBackend HardwareIo} (h : ∃ count < limit, accept (reading offset s count)) :
    ∃ t, poll offset accept limit s = .ok () t := by
  induction limit generalizing s with
  | zero =>
    obtain ⟨count, hlt, -⟩ := h
    exact absurd hlt (Nat.not_lt_zero count)
  | succ limit ih =>
    rw [poll_succ, run_bind, run_read]
    dsimp only
    by_cases hfirst : accept (s.io.next offset)
    · rw [if_pos hfirst]
      exact ⟨_, rfl⟩
    · rw [if_neg hfirst]
      apply ih
      obtain ⟨count, hlt, haccept⟩ := h
      cases count with
      | zero => exact absurd haccept hfirst
      | succ count => exact ⟨count, Nat.lt_of_succ_lt_succ hlt, haccept⟩

/-- A poll times out when none of its readings is accepted. -/
theorem poll_of_not_accepted (offset : UInt32) (accept : UInt32 → Bool) {limit : ℕ}
    {s : AfeMmioBackend HardwareIo} (h : ¬ ∃ count < limit, accept (reading offset s count)) :
    ∃ t, poll offset accept limit s = .error (.error .timeout) t := by
  induction limit generalizing s with
  | zero => exact ⟨s, rfl⟩
  | succ limit ih =>
    have hfirst : ¬ accept (s.io.next offset) := fun haccept ↦
      h ⟨0, Nat.succ_pos limit, haccept⟩
    rw [poll_succ, run_bind, run_read]
    dsimp only
    rw [if_neg hfirst]
    apply ih
    rintro ⟨count, hlt, haccept⟩
    exact h ⟨count + 1, Nat.succ_lt_succ hlt, haccept⟩

/-- A poll writes nothing. -/
theorem lastWritten_poll (offset register : UInt32) (accept : UInt32 → Bool) (limit : ℕ) :
    Within (.keeps fun s : AfeMmioBackend HardwareIo ↦ lastWritten register s.io.history)
      (poll offset accept limit) := by
  induction limit with
  | zero => exact within_fail _
  | succ limit ih =>
    rw [poll_succ]
    apply within_bind
    · intro s
      exact lastWritten_append_of_none rfl s.io.history
    · exact fun _ ↦ within_ite (within_pure _) ih

/-! ## Front-end registers -/

/-- The register of a board in a block. -/
def boardRegister (base : UInt32) (afeBoard : UInt8) : UInt32 :=
  base + frontendAfeStride * afeBoard.toUInt32

def delayRegister (afeBoard : UInt8) : UInt32 := boardRegister frontendDelayBaseOffset afeBoard

def bitslipRegister (afeBoard : UInt8) : UInt32 := boardRegister frontendBitslipBaseOffset afeBoard

theorem run_setFrontendDelay {afeBoard : UInt8} (hboard : afeBoard.toNat < afeCount)
    {value : UInt32} (hvalue : value < frontendDelayTaps) (s : AfeMmioBackend HardwareIo) :
    setFrontendDelay afeBoard value s =
      .ok () (s.after [.write (delayRegister afeBoard) value]) := by
  have hoffset : frontendDelayOffset afeBoard = some (delayRegister afeBoard) := if_pos hboard
  unfold setFrontendDelay
  rw [delayOffset_eq, hoffset, okOr_some, pure_bind, failIf, if_neg (UInt32.not_le.mpr hvalue),
    pure_bind, run_write]

theorem run_setFrontendBitslip {afeBoard : UInt8} (hboard : afeBoard.toNat < afeCount)
    {value : UInt32} (hvalue : value < frontendBitslipTaps) (s : AfeMmioBackend HardwareIo) :
    setFrontendBitslip afeBoard value s =
      .ok () (s.after [.write (bitslipRegister afeBoard) value]) := by
  have hoffset : frontendBitslipOffset afeBoard = some (bitslipRegister afeBoard) := if_pos hboard
  unfold setFrontendBitslip
  rw [bitslipOffset_eq, hoffset, okOr_some, pure_bind, failIf, if_neg (UInt32.not_le.mpr hvalue),
    pure_bind, run_write]

theorem toNat_lt_of_mem_upTo {i : UInt8} (h : i ∈ upTo afeCount) : i.toNat < afeCount := by
  obtain ⟨board, hboard, rfl⟩ := List.mem_map.mp h
  have hlt : board < 5 := List.mem_range.mp hboard
  rw [UInt8.toNat_ofNat', Nat.mod_eq_of_lt (by omega)]
  exact hlt

end AfeMmioBackend

end DaphneSc.Rpu.Mmio
