import DaphneSc.Rpu.Recorded

/-!
# The order of the configuration calls

A history of hardware calls has an open sequence when its last successful begin was not followed by
a successful apply. The runtime's five counters are read off that sequence: they say whether it is
open, what its begin announced and how many records the hardware has accepted. So whatever the
hardware refuses and however frames are rejected or repeated, records are handed over only within
the announced counts, and the apply is called only on a complete sequence.
-/

namespace DaphneSc.Rpu.Runtime

open Core.Afe Core.RpuWire Program

/-! ## Sequences in a history -/

/-- An open sequence: what its begin announced, and the calls made since. -/
structure OpenSequence (H : Type) where
  counts : RpuWireConfigCounts
  calls : List (CallRecord H)

namespace CallRecord

variable {H : Type}

/-- The hardware accepted an AFE record. -/
def acceptsAfe (record : CallRecord H) : Bool :=
  match record.call with
  | .configureAfe _ => record.succeeded
  | _ => false

/-- The hardware accepted a channel record. -/
def acceptsChannel (record : CallRecord H) : Bool :=
  match record.call with
  | .configureChannel _ => record.succeeded
  | _ => false

end CallRecord

namespace OpenSequence

variable {H : Type}

def acceptedAfes (sequence : OpenSequence H) : ℕ := sequence.calls.countP CallRecord.acceptsAfe

def acceptedChannels (sequence : OpenSequence H) : ℕ :=
  sequence.calls.countP CallRecord.acceptsChannel

def extend (sequence : OpenSequence H) (record : CallRecord H) : OpenSequence H :=
  { sequence with calls := sequence.calls ++ [record] }

theorem acceptedAfes_extend (sequence : OpenSequence H) (record : CallRecord H) :
    (sequence.extend record).acceptedAfes = sequence.acceptedAfes + record.acceptsAfe.toNat := by
  simp only [acceptedAfes, extend, List.countP_append, List.countP_singleton]
  cases record.acceptsAfe <;> rfl

theorem acceptedChannels_extend (sequence : OpenSequence H) (record : CallRecord H) :
    (sequence.extend record).acceptedChannels =
      sequence.acceptedChannels + record.acceptsChannel.toNat := by
  simp only [acceptedChannels, extend, List.countP_append, List.countP_singleton]
  cases record.acceptsChannel <;> rfl

/-- The open sequence after a call: a successful begin opens a new one, a successful apply closes
it. -/
def after (sequence : Option (OpenSequence H)) (record : CallRecord H) : Option (OpenSequence H) :=
  match record.call, record.succeeded with
  | .beginConfigureFrontend counts, true => some ⟨counts, []⟩
  | .applyConfigureFrontend, true => none
  | _, _ => sequence.map fun sequence ↦ sequence.extend record

end OpenSequence

/-- The sequence that a history leaves open. -/
def openSequence {H : Type} (calls : List (CallRecord H)) : Option (OpenSequence H) :=
  calls.foldl OpenSequence.after none

/-- The calls a history permits: records within the counts of the open sequence, and the apply of a
complete one. -/
def Permitted {H : Type} (sequence : Option (OpenSequence H)) : HardwareCall → Prop
  | .configureAfe _ => ∃ s, sequence = some s ∧ s.acceptedAfes < s.counts.afeCount.toNat
  | .configureChannel _ =>
    ∃ s, sequence = some s ∧ s.acceptedChannels < s.counts.channelCount.toNat
  | .applyConfigureFrontend =>
    ∃ s, sequence = some s ∧ s.acceptedAfes = s.counts.afeCount.toNat ∧
      s.acceptedChannels = s.counts.channelCount.toNat
  | _ => True

/-- Every call was permitted by the calls before it. -/
def Orderly {H : Type} (calls : List (CallRecord H)) : Prop :=
  ∀ earlier record later, calls = earlier ++ record :: later →
    Permitted (openSequence earlier) record.call

theorem openSequence_append {H : Type} (calls : List (CallRecord H)) (record : CallRecord H) :
    openSequence (calls ++ [record]) = OpenSequence.after (openSequence calls) record := by
  simp [openSequence]

theorem Orderly.append {H : Type} {calls : List (CallRecord H)} (h : Orderly calls)
    {record : CallRecord H} (hpermitted : Permitted (openSequence calls) record.call) :
    Orderly (calls ++ [record]) := by
  intro earlier record' later hsplit
  rcases List.eq_nil_or_concat later with rfl | ⟨init, last, rfl⟩
  · obtain ⟨rfl, hlast⟩ := List.append_inj' hsplit rfl
    rw [← List.head_eq_of_cons_eq hlast]
    exact hpermitted
  · have hsplit' : calls ++ [record] = (earlier ++ record' :: init) ++ [last] := by
      simpa using hsplit
    obtain ⟨hcalls, -⟩ := List.append_inj' hsplit' rfl
    exact h earlier record' init hcalls

/-! ## The counters -/

/-- The runtime's bookkeeping, read off the open sequence. -/
structure Tracks {H : Type} (config : ConfigState) (sequence : Option (OpenSequence H)) : Prop where
  closed : sequence = none → config = .default
  opened : ∀ s, sequence = some s → config.active = true ∧
    config.expectedAfes = s.counts.afeCount ∧ config.expectedChannels = s.counts.channelCount ∧
    config.receivedAfes.toNat = s.acceptedAfes ∧
    config.receivedChannels.toNat = s.acceptedChannels ∧
    s.acceptedAfes ≤ s.counts.afeCount.toNat ∧ s.acceptedChannels ≤ s.counts.channelCount.toNat

section Steps

variable {H : Type} {config next : ConfigState} {sequence : Option (OpenSequence H)}

theorem Tracks.of_active (h : Tracks config sequence) (hactive : config.active = true) :
    ∃ s, sequence = some s := by
  cases sequence with
  | none =>
    rw [h.closed rfl] at hactive
    cases hactive
  | some s => exact ⟨s, rfl⟩

theorem permitted_of_configures (h : Tracks config sequence) {command : RpuWireCommand}
    {call : HardwareCall} (hcall : Configures command config call next) :
    Permitted sequence call := by
  cases hcall with
  | «begin» => trivial
  | afe _ _ hactive hslot =>
    obtain ⟨s, hs⟩ := h.of_active hactive
    obtain ⟨-, hexpected, -, hreceived, -⟩ := h.opened s hs
    have hlt := UInt16.lt_iff_toNat_lt.mp hslot
    rw [hexpected, hreceived] at hlt
    exact ⟨s, hs, hlt⟩
  | channel _ _ hactive hslot =>
    obtain ⟨s, hs⟩ := h.of_active hactive
    obtain ⟨-, -, hexpected, -, hreceived, -⟩ := h.opened s hs
    have hlt := UInt16.lt_iff_toNat_lt.mp hslot
    rw [hexpected, hreceived] at hlt
    exact ⟨s, hs, hlt⟩
  | apply _ hactive hafes hchannels =>
    obtain ⟨s, hs⟩ := h.of_active hactive
    obtain ⟨-, hafeCount, hchannelCount, hreceivedAfes, hreceivedChannels, -⟩ := h.opened s hs
    refine ⟨s, hs, ?_, ?_⟩
    · rw [← hreceivedAfes, hafes, hafeCount]
    · rw [← hreceivedChannels, hchannels, hchannelCount]
  | other houtside => cases call <;> first | trivial | exact absurd trivial houtside

/-- A call that hands over no record leaves the counters right. -/
theorem Tracks.extend (h : Tracks config sequence) {record : CallRecord H}
    (hafe : record.acceptsAfe = false) (hchannel : record.acceptsChannel = false) :
    Tracks config (sequence.map fun sequence ↦ sequence.extend record) := by
  constructor
  · intro hnone
    exact h.closed (Option.map_eq_none_iff.mp hnone)
  · intro s hs
    obtain ⟨s, hsequence, rfl⟩ := Option.map_eq_some_iff.mp hs
    rw [OpenSequence.acceptedAfes_extend, OpenSequence.acceptedChannels_extend, hafe, hchannel]
    exact h.opened s hsequence

theorem acceptsAfe_of_failed (call : HardwareCall) (before : H) :
    (CallRecord.mk call before false).acceptsAfe = false := by
  unfold CallRecord.acceptsAfe
  split <;> rfl

theorem acceptsChannel_of_failed (call : HardwareCall) (before : H) :
    (CallRecord.mk call before false).acceptsChannel = false := by
  unfold CallRecord.acceptsChannel
  split <;> rfl

/-- Success and failure of a call move the counters as they move the open sequence. -/
theorem tracks_after (h : Tracks config sequence) {command : RpuWireCommand}
    {call : HardwareCall} (hcall : Configures command config call next) (before : H)
    (succeeded : Bool) :
    Tracks (if succeeded then next else config)
      (OpenSequence.after sequence ⟨call, before, succeeded⟩) := by
  cases succeeded with
  | false =>
    have hafter : OpenSequence.after sequence ⟨call, before, false⟩ =
        sequence.map fun sequence ↦ sequence.extend ⟨call, before, false⟩ := by
      cases call <;> rfl
    rw [hafter]
    exact h.extend (acceptsAfe_of_failed call before) (acceptsChannel_of_failed call before)
  | true =>
    cases hcall with
    | @«begin» counts =>
      refine ⟨fun hnone ↦ (nomatch hnone), fun s hs ↦ ?_⟩
      cases hs
      exact ⟨rfl, rfl, rfl, rfl, rfl, Nat.zero_le _, Nat.zero_le _⟩
    | afe _ _ hactive hslot =>
      obtain ⟨s, rfl⟩ := h.of_active hactive
      obtain ⟨_, hafeCount, hchannelCount, hafes, hchannels, _, hle⟩ := h.opened s rfl
      have hlt := UInt16.lt_iff_toNat_lt.mp hslot
      rw [hafeCount, hafes] at hlt
      refine ⟨fun hnone ↦ (nomatch hnone), fun s' hs' ↦ ?_⟩
      cases hs'
      rw [OpenSequence.acceptedAfes_extend, OpenSequence.acceptedChannels_extend]
      refine ⟨hactive, hafeCount, hchannelCount, ?_, hchannels, hlt, hle⟩
      exact (toNat_increment hslot).trans (congrArg (· + 1) hafes)
    | channel _ _ hactive hslot =>
      obtain ⟨s, rfl⟩ := h.of_active hactive
      obtain ⟨_, hafeCount, hchannelCount, hafes, hchannels, hle, _⟩ := h.opened s rfl
      have hlt := UInt16.lt_iff_toNat_lt.mp hslot
      rw [hchannelCount, hchannels] at hlt
      refine ⟨fun hnone ↦ (nomatch hnone), fun s' hs' ↦ ?_⟩
      cases hs'
      rw [OpenSequence.acceptedAfes_extend, OpenSequence.acceptedChannels_extend]
      refine ⟨hactive, hafeCount, hchannelCount, hafes, ?_, hle, hlt⟩
      exact (toNat_increment hslot).trans (congrArg (· + 1) hchannels)
    | apply => exact ⟨fun _ ↦ rfl, fun s hs ↦ (nomatch hs)⟩
    | other houtside =>
      have hafter : OpenSequence.after sequence ⟨call, before, true⟩ =
          sequence.map fun sequence ↦ sequence.extend ⟨call, before, true⟩ := by
        cases call <;> first | rfl | exact absurd trivial houtside
      rw [hafter]
      apply h.extend <;> cases call <;> first | rfl | exact absurd trivial houtside

end Steps

/-! ## Runs -/

section Runs

variable {H ε : Type} [AfeHardware H ε]

/-- The history of a runtime is orderly and its counters follow it. -/
def InOrder (runtime : RpuRuntime (Recorded H)) : Prop :=
  Orderly runtime.hardware.calls ∧ Tracks runtime.configState (openSequence runtime.hardware.calls)

theorem inOrder_step {runtime : RpuRuntime (Recorded H)} (h : InOrder runtime)
    (event : RuntimeEvent) : InOrder (step runtime event) := by
  obtain ⟨horderly, htracks⟩ := h
  unfold InOrder
  rcases step_recorded runtime event with ⟨hcalls, hconfig⟩ |
    ⟨command, call, next, succeeded, -, hdispatch, hcalls, hconfig⟩
  · rw [hcalls, hconfig]
    exact ⟨horderly, htracks⟩
  · have hconfigures := configures_of_dispatch hdispatch
    rw [hcalls, hconfig, openSequence_append]
    exact ⟨horderly.append (permitted_of_configures htracks hconfigures),
      tracks_after htracks hconfigures _ succeeded⟩

theorem Tracks.received_le {config : ConfigState} {sequence : Option (OpenSequence H)}
    (h : Tracks config sequence) : config.receivedAfes ≤ config.expectedAfes ∧
      config.receivedChannels ≤ config.expectedChannels := by
  cases sequence with
  | none =>
    rw [h.closed rfl]
    exact ⟨UInt16.le_refl _, UInt16.le_refl _⟩
  | some s =>
    obtain ⟨-, hafeCount, hchannelCount, hafes, hchannels, hafes_le, hchannels_le⟩ :=
      h.opened s rfl
    rw [UInt16.le_iff_toNat_le, UInt16.le_iff_toNat_le, hafeCount, hchannelCount, hafes, hchannels]
    exact ⟨hafes_le, hchannels_le⟩

/-- In every run on every hardware, records are handed over only within the counts of an open
sequence, and the apply is called only after exactly as many accepted records as its begin
announced. The counters never exceed the announced counts, and no increment overflows. -/
theorem configuration_calls_in_order (hardware : H) (events : List RuntimeEvent) :
    let start : RpuRuntime (Recorded H) := RpuRuntime.new ⟨hardware, []⟩
    let runtime := run start events
    let config := runtime.configState
    runtime.erase = run (RpuRuntime.new hardware) events ∧
    (∀ earlier record later, runtime.hardware.calls = earlier ++ record :: later →
      Permitted (openSequence earlier) record.call) ∧
    config.receivedAfes ≤ config.expectedAfes ∧
    config.receivedChannels ≤ config.expectedChannels ∧
    (config.requireAfeSlot = .ok () →
      (config.receivedAfes + 1).toNat = config.receivedAfes.toNat + 1) ∧
    (config.requireChannelSlot = .ok () →
      (config.receivedChannels + 1).toNat = config.receivedChannels.toNat + 1) := by
  intro start runtime config
  have hstart : InOrder start := by
    refine ⟨fun earlier record later hsplit ↦ ?_, fun _ ↦ rfl, fun s hs ↦ (nomatch hs)⟩
    simp [start, RpuRuntime.new] at hsplit
  have hrun : InOrder runtime :=
    run_invariant (I := InOrder) (fun _ event h ↦ inOrder_step h event) hstart events
  obtain ⟨hafes, hchannels⟩ := hrun.2.received_le
  refine ⟨run_erase start events, hrun.1, hafes, hchannels, ?_, ?_⟩
  · intro hslot
    unfold ConfigState.requireAfeSlot at hslot
    split at hslot
    · rename_i hopen
      exact toNat_increment hopen.2
    · cases hslot
  · intro hslot
    unfold ConfigState.requireChannelSlot at hslot
    split at hslot
    · rename_i hopen
      exact toNat_increment hopen.2
    · cases hslot

end Runs

end DaphneSc.Rpu.Runtime
