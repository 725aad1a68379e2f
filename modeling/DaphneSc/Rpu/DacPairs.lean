import DaphneSc.Core.AfeHw
import Mathlib.Logic.Function.Basic

/-!
# Two four-channel DACs behind one register

A word loads one channel of the low DAC and one of the high DAC, each chosen by the channel number
in its half. So a write that means to set one channel loads a second one as well, the one the other
half selects. Software keeps the half it last sent for every channel and repeats the half of the
companion channel; for a companion that was never set this half is zero, which selects the first
channel of the other DAC.

Channels are numbered from 0 to 7, the low DAC first.
-/

namespace DaphneSc.Rpu.DacPairs

open Core.AfeHw

/-- What the channels hold, once they have been loaded. -/
abbrev Content := ℕ → Option ℕ

/-- The values last set for the channels. -/
abbrev Settings := ℕ → Option ℕ

/-- The channel number in a half. -/
def select (half : UInt16) : ℕ := half.toNat / 2 ^ 14

/-- The value in a half. -/
def value (half : UInt16) : ℕ := half.toNat % 2 ^ 12

theorem select_lt (half : UInt16) : select half < 4 := by
  have h : half.toNat < 65536 := half.toNat_lt
  unfold select
  omega

/-- Load a word: bits 15:14 and 11:0 in the low DAC, bits 31:30 and 27:16 in the high DAC. -/
def load (content : Content) (word : UInt32) : Content :=
  Function.update
    (Function.update content (word.toNat / 2 ^ 14 % 4) (some (word.toNat % 2 ^ 12)))
    (4 + word.toNat / 2 ^ 30 % 4) (some (word.toNat / 2 ^ 16 % 2 ^ 12))

theorem load_dacPairWord (content : Content) (low high : UInt16) :
    load content (dacPairWord low high) =
      Function.update (Function.update content (select low) (some (value low)))
        (4 + select high) (some (value high)) := by
  have hlow : low.toNat < 65536 := low.toNat_lt
  have hhigh : high.toNat < 65536 := high.toNat_lt
  have hlowSelect : (high.toNat * 65536 + low.toNat) / 2 ^ 14 % 4 = select low := by
    unfold select
    omega
  have hlowValue : (high.toNat * 65536 + low.toNat) % 2 ^ 12 = value low := by
    unfold value
    omega
  have hhighSelect : (high.toNat * 65536 + low.toNat) / 2 ^ 30 % 4 = select high := by
    unfold select
    omega
  have hhighValue : (high.toNat * 65536 + low.toNat) / 2 ^ 16 % 2 ^ 12 = value high := by
    unfold value
    omega
  rw [load, toNat_dacPairWord, hlowSelect, hlowValue, hhighSelect, hhighValue]

/-! ## Companions -/

/-- The channel of the other DAC with the same number. -/
def companion (channel : ℕ) : ℕ := if channel < 4 then channel + 4 else channel - 4

/-- The first channel of a channel's own DAC. -/
def base (channel : ℕ) : ℕ := if channel < 4 then 0 else 4

theorem companion_lt {channel : ℕ} (h : channel < 8) : companion channel < 8 := by
  unfold companion
  split <;> omega

theorem companion_ne {channel : ℕ} (h : channel < 8) : companion channel ≠ channel := by
  unfold companion
  split <;> omega

theorem base_add_mod {channel : ℕ} (h : channel < 8) : base channel + channel % 4 = channel := by
  unfold base
  split <;> omega

theorem base_companion_add_ne {channel number : ℕ} (h : channel < 8) (hnumber : number < 4) :
    base (companion channel) + number ≠ channel := by
  unfold companion base
  split <;> split <;> omega

/-- The word sent for a channel, from its own half and its companion's. -/
def pairFor (channel : ℕ) (half companionHalf : UInt16) : UInt32 :=
  if channel < 4 then dacPairWord half companionHalf else dacPairWord companionHalf half

/-- Sending a pair loads the channel itself and the channel its companion's half selects. -/
theorem load_pairFor {channel : ℕ} {half companionHalf : UInt16} (content : Content)
    (h : channel < 8) (hselect : select half = channel % 4) :
    load content (pairFor channel half companionHalf) =
      Function.update (Function.update content (base (companion channel) + select companionHalf)
        (some (value companionHalf))) channel (some (value half)) := by
  have hne := base_companion_add_ne h (select_lt companionHalf)
  unfold pairFor
  split
  · have hcompanion : base (companion channel) = 4 := by
      unfold base companion
      split <;> split <;> omega
    have hchannel : channel % 4 = channel := by omega
    rw [load_dacPairWord, hselect, hchannel, hcompanion,
      Function.update_comm (by rw [← hcompanion]; exact hne.symm)]
  · have hcompanion : base (companion channel) = 0 := by
      unfold base companion
      split <;> split <;> omega
    have hchannel : 4 + channel % 4 = channel := by omega
    rw [load_dacPairWord, hselect, hchannel, hcompanion, Nat.zero_add]

/-! ## A register and its cache -/

/-- The halves last sent for the channels and what the channels hold. -/
structure Pair where
  halves : ℕ → UInt16
  content : Content

/-- Write a half to a channel and repeat its companion's. -/
def Pair.write (pair : Pair) (channel : ℕ) (half : UInt16) : Pair where
  halves := Function.update pair.halves channel half
  content := load pair.content
    (pairFor channel half (Function.update pair.halves channel half (companion channel)))

/-- The halves are those of the values last set; a channel never set has a zero half. -/
def Cached (halves : ℕ → UInt16) (settings : Settings) : Prop :=
  ∀ channel < 8, match settings channel with
    | none => halves channel = 0
    | some v => select (halves channel) = channel % 4 ∧ value (halves channel) = v

/-- Every channel that was set holds the value last set. -/
def Holds (content : Content) (settings : Settings) : Prop :=
  ∀ channel < 8, ∀ v, settings channel = some v → content channel = some v

/-- Setting a channel spoils no other one: its companion was set, or the first channel of the
companion's DAC does not hold anything but zero. -/
def Harmless (settings : Settings) (channel : ℕ) : Prop :=
  settings (companion channel) ≠ none ∨ settings (base (companion channel)) = none ∨
    settings (base (companion channel)) = some 0

section Write

variable {pair : Pair} {settings : Settings} {channel : ℕ} {half : UInt16}

theorem Cached.write (h : Cached pair.halves settings)
    (hselect : select half = channel % 4) :
    Cached (pair.write channel half).halves
      (Function.update settings channel (some (value half))) := by
  intro other hother
  rcases eq_or_ne other channel with rfl | hne
  · simp [Pair.write, hselect]
  · simpa [Pair.write, hne] using h other hother

/-- What a write leaves in the channels. -/
theorem Pair.content_write (hchannel : channel < 8) (hselect : select half = channel % 4) :
    (pair.write channel half).content =
      Function.update (Function.update pair.content
        (base (companion channel) + select (pair.halves (companion channel)))
        (some (value (pair.halves (companion channel))))) channel (some (value half)) := by
  rw [Pair.write]
  dsimp only
  rw [Function.update_of_ne (companion_ne hchannel), load_pairFor _ hchannel hselect]

/-- A companion that was set is loaded with its own value again. -/
theorem Cached.content_of_some (h : Cached pair.halves settings) (hchannel : channel < 8) {v : ℕ}
    (hv : settings (companion channel) = some v) :
    base (companion channel) + select (pair.halves (companion channel)) = companion channel ∧
      value (pair.halves (companion channel)) = v := by
  have hlt := companion_lt hchannel
  have hcached := h (companion channel) hlt
  rw [hv] at hcached
  obtain ⟨hselect, hvalue⟩ := hcached
  rw [hselect, base_add_mod hlt]
  exact ⟨rfl, hvalue⟩

/-- A companion that was never set makes the write clear the first channel of its DAC. -/
theorem Cached.content_of_none (h : Cached pair.halves settings) (hchannel : channel < 8)
    (hnone : settings (companion channel) = none) :
    base (companion channel) + select (pair.halves (companion channel)) =
        base (companion channel) ∧
      value (pair.halves (companion channel)) = 0 := by
  have hcached := h (companion channel) (companion_lt hchannel)
  rw [hnone] at hcached
  rw [hcached]
  exact ⟨rfl, rfl⟩

theorem Holds.write (h : Holds pair.content settings) (hcached : Cached pair.halves settings)
    (hchannel : channel < 8) (hselect : select half = channel % 4)
    (hharmless : Harmless settings channel) :
    Holds (pair.write channel half).content
      (Function.update settings channel (some (value half))) := by
  intro other hother v hv
  rw [Pair.content_write hchannel hselect]
  rcases eq_or_ne other channel with rfl | hne
  · simpa using hv
  · rw [Function.update_of_ne hne] at hv ⊢
    have hbefore := h other hother v hv
    cases hcompanion : settings (companion channel) with
    | some w =>
      obtain ⟨hat, hvalue⟩ := hcached.content_of_some hchannel hcompanion
      rw [hat, hvalue]
      rcases eq_or_ne other (companion channel) with rfl | hother'
      · rw [Function.update_self, ← hcompanion, hv]
      · rw [Function.update_of_ne hother', hbefore]
    | none =>
      obtain ⟨hat, hvalue⟩ := hcached.content_of_none hchannel hcompanion
      rw [hat, hvalue]
      rcases eq_or_ne other (base (companion channel)) with rfl | hother'
      · have hzero : settings (base (companion channel)) = some 0 := by
          rcases hharmless with hset | hnone | hzero
          · exact absurd hcompanion hset
          · rw [hnone] at hv
            cases hv
          · exact hzero
        rw [Function.update_self, ← hzero, hv]
      · rw [Function.update_of_ne hother', hbefore]

/-- A write after which every channel holds its value was harmless. -/
theorem harmless_of_holds (hcached : Cached pair.halves settings) (hchannel : channel < 8)
    (hselect : select half = channel % 4)
    (h : Holds (pair.write channel half).content
      (Function.update settings channel (some (value half)))) : Harmless settings channel := by
  cases hcompanion : settings (companion channel) with
  | some w => exact Or.inl (by rw [hcompanion]; exact Option.some_ne_none w)
  | none =>
    refine Or.inr ?_
    cases hbase : settings (base (companion channel)) with
    | none => exact Or.inl rfl
    | some v =>
      have hlt : base (companion channel) < 8 := by
        unfold base
        split <;> omega
      have hne : base (companion channel) ≠ channel := by
        simpa using base_companion_add_ne hchannel (by decide : 0 < 4)
      have hafter := h _ hlt v (by rw [Function.update_of_ne hne, hbase])
      obtain ⟨hat, hvalue⟩ := hcached.content_of_none hchannel hcompanion
      rw [Pair.content_write hchannel hselect, hat, hvalue, Function.update_of_ne hne,
        Function.update_self] at hafter
      exact Or.inr hafter.symm

end Write

/-! ## All channels -/

/-- Write the same value to the first channels, in order. -/
def Pair.writeUpTo (pair : Pair) (half : ℕ → UInt16) (count : ℕ) : Pair :=
  (List.range count).foldl (fun pair channel ↦ pair.write channel (half channel)) pair

theorem Pair.writeUpTo_succ (pair : Pair) (half : ℕ → UInt16) (count : ℕ) :
    pair.writeUpTo half (count + 1) = (pair.writeUpTo half count).write count (half count) := by
  simp [Pair.writeUpTo, List.range_succ]

section WriteUpTo

variable {pair : Pair} {settings : Settings} {half : ℕ → UInt16} {v : ℕ}

/-- The settings once the first channels have been set to `v`. -/
def setUpTo (settings : Settings) (v count : ℕ) : Settings :=
  fun channel ↦ if channel < count then some v else settings channel

theorem setUpTo_zero (settings : Settings) (v : ℕ) : setUpTo settings v 0 = settings := by
  funext channel
  simp [setUpTo]

theorem setUpTo_succ (settings : Settings) (v count : ℕ) :
    setUpTo settings v (count + 1) = Function.update (setUpTo settings v count) count (some v) := by
  funext channel
  rcases eq_or_ne channel count with rfl | hne
  · simp [setUpTo]
  · have hiff : channel < count + 1 ↔ channel < count := by omega
    simp [setUpTo, hne, hiff]

theorem Cached.writeUpTo (h : Cached pair.halves settings)
    (hselect : ∀ channel, select (half channel) = channel % 4)
    (hvalue : ∀ channel, value (half channel) = v) (count : ℕ) :
    Cached (pair.writeUpTo half count).halves (setUpTo settings v count) := by
  induction count with
  | zero =>
    rw [setUpTo_zero]
    exact h
  | succ count ih =>
    have hwrite := ih.write (hselect count)
    rw [hvalue count] at hwrite
    rw [Pair.writeUpTo_succ, setUpTo_succ]
    exact hwrite

/-- The channels written so far hold the value. The first four writes may spoil channels of the
high DAC, which are written later; the last four repeat the value on the low DAC. -/
theorem content_writeUpTo (h : Cached pair.halves settings)
    (hselect : ∀ channel, select (half channel) = channel % 4)
    (hvalue : ∀ channel, value (half channel) = v) {count : ℕ} (hcount : count ≤ 8) :
    ∀ channel < count, (pair.writeUpTo half count).content channel = some v := by
  induction count with
  | zero => simp
  | succ count ih =>
    intro channel hlt
    have hcached := h.writeUpTo hselect hvalue count
    rw [Pair.writeUpTo_succ, Pair.content_write (by omega) (hselect count), hvalue]
    rcases eq_or_ne channel count with rfl | hne
    · rw [Function.update_self]
    · have hbefore := ih (by omega) channel (by omega)
      rw [Function.update_of_ne hne]
      rcases Nat.lt_or_ge count 4 with hlow | hhigh
      · have hat : channel ≠ base (companion count) +
            select ((pair.writeUpTo half count).halves (companion count)) := by
          unfold base companion
          split <;> split <;> omega
        rw [Function.update_of_ne hat, hbefore]
      · have hset : setUpTo settings v count (companion count) = some v := by
          have hlt : companion count < count := by
            unfold companion
            split <;> omega
          simp [setUpTo, hlt]
        obtain ⟨hat, hrepeated⟩ := hcached.content_of_some (by omega) hset
        rw [hat, hrepeated]
        rcases eq_or_ne channel (companion count) with rfl | hother
        · rw [Function.update_self]
        · rw [Function.update_of_ne hother, hbefore]

theorem holds_writeUpTo (h : Cached pair.halves settings)
    (hselect : ∀ channel, select (half channel) = channel % 4)
    (hvalue : ∀ channel, value (half channel) = v) :
    Holds (pair.writeUpTo half 8).content (setUpTo settings v 8) := by
  intro channel hlt w hw
  rw [content_writeUpTo h hselect hvalue (Nat.le_refl 8) channel hlt, ← hw]
  simp [setUpTo, hlt]

end WriteUpTo

end DaphneSc.Rpu.DacPairs
