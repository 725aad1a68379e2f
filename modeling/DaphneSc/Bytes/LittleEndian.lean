import Mathlib.Tactic.Common
import Mathlib.Tactic.Ring

/-!
# Little-endian numbers of a fixed width

Reading and writing are inverse to each other: a written number is read back modulo the range of
its width, and a byte string is rewritten to itself.
-/

namespace Bytes

def toLe : ℕ → ℕ → List UInt8
  | 0, _ => []
  | width + 1, value => UInt8.ofNat value :: toLe width (value / 256)

def ofLe : List UInt8 → ℕ
  | [] => 0
  | byte :: bytes => byte.toNat + 256 * ofLe bytes

@[simp] theorem length_toLe (width value : ℕ) : (toLe width value).length = width := by
  induction width generalizing value with
  | zero => rfl
  | succ width ih => simp [toLe, ih]

theorem ofLe_lt (bytes : List UInt8) : ofLe bytes < 256 ^ bytes.length := by
  induction bytes with
  | nil => simp [ofLe]
  | cons byte bytes ih =>
    have hbyte : byte.toNat < 256 := byte.toNat_lt
    simp only [ofLe, List.length_cons, Nat.pow_succ]
    omega

/-- Reading back what was written loses exactly the digits beyond the width. -/
theorem ofLe_toLe (width value : ℕ) : ofLe (toLe width value) = value % 256 ^ width := by
  induction width generalizing value with
  | zero => simp [toLe, ofLe, Nat.mod_one]
  | succ width ih =>
    have hbyte : (UInt8.ofNat value).toNat = value % 256 := by simp
    calc ofLe (toLe (width + 1) value)
        = value % 256 + 256 * (value / 256 % 256 ^ width) := by
          rw [toLe, ofLe, ih, hbyte]
      _ = value % (256 * 256 ^ width) := (Nat.mod_mul).symm
      _ = value % 256 ^ (width + 1) := by rw [Nat.pow_succ, Nat.mul_comm]

theorem ofLe_toLe_of_lt {width value : ℕ} (h : value < 256 ^ width) :
    ofLe (toLe width value) = value := by
  rw [ofLe_toLe, Nat.mod_eq_of_lt h]

/-- Writing back what was read restores the bytes. -/
theorem toLe_ofLe (bytes : List UInt8) : toLe bytes.length (ofLe bytes) = bytes := by
  induction bytes with
  | nil => rfl
  | cons byte bytes ih =>
    have hbyte : byte.toNat < 256 := byte.toNat_lt
    have hlow : UInt8.ofNat (byte.toNat + 256 * ofLe bytes) = byte := by
      apply UInt8.toNat_inj.mp
      simp only [UInt8.toNat_ofNat']
      omega
    have hhigh : (byte.toNat + 256 * ofLe bytes) / 256 = ofLe bytes := by omega
    simp only [ofLe, List.length_cons, toLe, hlow, hhigh, ih]

end Bytes
