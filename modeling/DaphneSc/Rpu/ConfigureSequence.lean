import DaphneSc.Rpu.MmioFrame

/-!
# The two bookkeepings of a configuration sequence

The runtime counts the frames of a configuration sequence while the backend keeps their records in
slots. Both are determined by the ledger of a run: the records answered as applied since the last
begin. The counters are the lengths of its two lists, the slots are filled from them by key, so the
number of filled slots is the number of distinct slots among the records.
-/

namespace DaphneSc.Rpu.ConfigureSequence

open Core.Afe Core.RpuWire Rpu.Runtime Rpu.Mmio Rpu.Mmio.AfeMmioBackend Program Slots

/-! ## The ledger -/

/-- What was accepted since the last begin. -/
structure Ledger where
  active : Bool
  counts : RpuWireConfigCounts
  afes : List RpuWireAfeConfig
  channels : List RpuWireChannelConfig

namespace Ledger

def closed : Ledger := ⟨false, ⟨0, 0, 0⟩, [], []⟩

/-- Account for a command that was applied. -/
def advance (ledger : Ledger) (command : RpuWireCommand) : Ledger :=
  match command.op with
  | .beginConfigureFrontend =>
    match command.configureCounts with
    | .ok counts => ⟨true, counts, [], []⟩
    | .error _ => ledger
  | .configureAfe =>
    match command.afeConfig with
    | .ok record => { ledger with afes := ledger.afes ++ [record] }
    | .error _ => ledger
  | .configureChannel =>
    match command.channelConfig with
    | .ok record => { ledger with channels := ledger.channels ++ [record] }
    | .error _ => ledger
  | .applyConfigureFrontend => closed
  | _ => ledger

theorem advance_of_outside {ledger : Ledger} {command : RpuWireCommand}
    (h : command.op ≠ .beginConfigureFrontend ∧ command.op ≠ .configureAfe ∧
      command.op ≠ .configureChannel ∧ command.op ≠ .applyConfigureFrontend) :
    ledger.advance command = ledger := by
  obtain ⟨hbegin, hafe, hchannel, happly⟩ := h
  unfold advance
  split <;> first | rfl | contradiction

end Ledger

variable {I ε : Type} [RegisterIo I ε]

/-- The ledger after an event, by the answer to its frame. -/
def ledgerStep (runtime : RpuRuntime (AfeMmioBackend I)) (ledger : Ledger) : RuntimeEvent → Ledger
  | .frame input =>
    match appliedCommand runtime input with
    | some command => ledger.advance command
    | none => ledger
  | .setInterlock _ => ledger

theorem ledgerStep_of_some {runtime : RpuRuntime (AfeMmioBackend I)} {ledger : Ledger}
    {input : HandledFrame} {command : RpuWireCommand}
    (h : appliedCommand runtime input = some command) :
    ledgerStep runtime ledger (.frame input) = ledger.advance command := by
  simp only [ledgerStep, h]

theorem ledgerStep_of_none {runtime : RpuRuntime (AfeMmioBackend I)} {ledger : Ledger}
    {input : HandledFrame} (h : appliedCommand runtime input = none) :
    ledgerStep runtime ledger (.frame input) = ledger := by
  simp only [ledgerStep, h]

/-- The ledger of a run. -/
def ledgerRun (runtime : RpuRuntime (AfeMmioBackend I)) (ledger : Ledger) :
    List RuntimeEvent → Ledger
  | [] => ledger
  | event :: events => ledgerRun (step runtime event) (ledgerStep runtime ledger event) events

/-! ## Agreement -/

/-- An open sequence as the runtime and the backend hold it. -/
structure OpenAgrees (config : ConfigState) (staged : StagedConfig) (ledger : Ledger) : Prop where
  expectedAfes : config.expectedAfes = ledger.counts.afeCount
  expectedChannels : config.expectedChannels = ledger.counts.channelCount
  counts : staged.counts = ledger.counts
  receivedAfes : config.receivedAfes.toNat = ledger.afes.length
  receivedChannels : config.receivedChannels.toNat = ledger.channels.length
  afes_le : ledger.afes.length ≤ ledger.counts.afeCount.toNat
  channels_le : ledger.channels.length ≤ ledger.counts.channelCount.toNat
  afes : staged.afes = fill afeSlot afeCount ledger.afes
  channels : staged.channels = fill channelSlot channelCount ledger.channels
  afe_valid : ∀ record ∈ ledger.afes, afeSlot record < afeCount
  channel_valid : ∀ record ∈ ledger.channels, ValidChannel record

/-- Runtime, backend and ledger agree. -/
structure Agrees (config : ConfigState) (staged : StagedConfig) (ledger : Ledger) : Prop where
  runtime_active : config.active = ledger.active
  staged_active : staged.active = ledger.active
  opened : ledger.active = true → OpenAgrees config staged ledger

theorem agrees_closed : Agrees .default .default .closed :=
  ⟨rfl, rfl, fun h ↦ absurd h Bool.false_ne_true⟩

theorem agrees_begin (counts : RpuWireConfigCounts) :
    Agrees (.begin counts) (.new counts) ⟨true, counts, [], []⟩ :=
  ⟨rfl, rfl, fun _ ↦ ⟨rfl, rfl, rfl, rfl, rfl, Nat.zero_le _, Nat.zero_le _, rfl, rfl,
    by simp, by simp⟩⟩

section Records

variable {config : ConfigState} {staged : StagedConfig} {ledger : Ledger}

theorem Agrees.afe (h : Agrees config staged ledger) (hactive : config.active = true)
    (hslot : config.receivedAfes < config.expectedAfes) {record : RpuWireAfeConfig}
    (hvalid : record.afePl.toNat < afeCount) :
    Agrees { config with receivedAfes := config.receivedAfes + 1 }
      { staged with afes := store afeSlot staged.afes record }
      { ledger with afes := ledger.afes ++ [record] } := by
  have ho := h.opened (h.runtime_active ▸ hactive)
  have hlt := UInt16.lt_iff_toNat_lt.mp hslot
  rw [ho.expectedAfes, ho.receivedAfes] at hlt
  refine ⟨h.runtime_active, h.staged_active, fun _ ↦ { ho with
    receivedAfes := ?_, afes_le := ?_, afes := ?_, afe_valid := ?_ }⟩
  · rw [toNat_increment hslot, ho.receivedAfes]
    simp
  · rw [List.length_append]
    exact hlt
  · rw [fill_append, ← ho.afes]
  · intro record' hmem
    rcases List.mem_append.mp hmem with hmem | hmem
    · exact ho.afe_valid record' hmem
    · rw [List.mem_singleton.mp hmem]
      exact hvalid

theorem Agrees.channel (h : Agrees config staged ledger) (hactive : config.active = true)
    (hslot : config.receivedChannels < config.expectedChannels) {record : RpuWireChannelConfig}
    (hvalid : ValidChannel record) :
    Agrees { config with receivedChannels := config.receivedChannels + 1 }
      { staged with channels := store channelSlot staged.channels record }
      { ledger with channels := ledger.channels ++ [record] } := by
  have ho := h.opened (h.runtime_active ▸ hactive)
  have hlt := UInt16.lt_iff_toNat_lt.mp hslot
  rw [ho.expectedChannels, ho.receivedChannels] at hlt
  refine ⟨h.runtime_active, h.staged_active, fun _ ↦ { ho with
    receivedChannels := ?_, channels_le := ?_, channels := ?_, channel_valid := ?_ }⟩
  · rw [toNat_increment hslot, ho.receivedChannels]
    simp
  · rw [List.length_append]
    exact hlt
  · rw [fill_append, ← ho.channels]
  · intro record' hmem
    rcases List.mem_append.mp hmem with hmem | hmem
    · exact ho.channel_valid record' hmem
    · rw [List.mem_singleton.mp hmem]
      exact hvalid

end Records

/-! ## Steps and runs -/

/-- A call that fails leaves the staged records alone. -/
theorem stagedConfig_of_error {call : HardwareCall} {backend backend' : AfeMmioBackend I}
    {abort : Abort (MmioAfeError ε)} (h : call.perform backend = .error abort backend') :
    backend'.stagedConfig = backend.stagedConfig := by
  by_cases hconfigures : call.configures
  · cases call with
    | beginConfigureFrontend counts => cases h
    | configureAfe record =>
      have hpost := post_of_map_error (wp_configureAfe record backend) h
      rw [hpost]
    | configureChannel record =>
      have hpost := post_of_map_error (wp_configureChannel record backend) h
      rw [hpost]
    | applyConfigureFrontend =>
      exact post_of_map_error (wp_applyConfigureFrontend_staged backend) h
    | _ => exact absurd hconfigures fun h ↦ h
  · exact (keepsStaged_perform hconfigures).error h

/-- A call that succeeds moves the staged records as the ledger moves. -/
theorem agrees_perform {command : RpuWireCommand} {config next : ConfigState}
    {call : HardwareCall} {backend backend' : AfeMmioBackend I} {readback : Option UInt32}
    {ledger : Ledger} (h : Agrees config backend.stagedConfig ledger)
    (hcall : Configures command config call next)
    (hperform : call.perform backend = .ok readback backend') :
    Agrees next backend'.stagedConfig (ledger.advance command) := by
  cases hcall with
  | @«begin» counts hop hdecoded =>
    cases hperform
    simp only [Ledger.advance, hop, hdecoded]
    exact agrees_begin counts
  | @afe record hop hdecoded hactive hslot =>
    obtain ⟨-, hvalid, rfl⟩ := post_of_map_ok (wp_configureAfe record backend) hperform
    simp only [Ledger.advance, hop, hdecoded]
    exact h.afe hactive hslot hvalid
  | @channel record hop hdecoded hactive hslot =>
    obtain ⟨-, hvalid, rfl⟩ := post_of_map_ok (wp_configureChannel record backend) hperform
    simp only [Ledger.advance, hop, hdecoded]
    exact h.channel hactive hslot hvalid
  | apply hop hactive hafes hchannels =>
    obtain ⟨-, hstaged⟩ :=
      post_of_map_ok (wp_applyConfigureFrontend_staged backend) hperform
    simp only [Ledger.advance, hop, hstaged]
    exact agrees_closed
  | other houtside hop =>
    rw [(keepsStaged_perform houtside).ok hperform, Ledger.advance_of_outside hop]
    exact h

/-- Every event keeps runtime, backend and ledger in agreement. -/
theorem agrees_step {runtime : RpuRuntime (AfeMmioBackend I)} {ledger : Ledger}
    (h : Agrees runtime.configState runtime.hardware.stagedConfig ledger) (event : RuntimeEvent) :
    Agrees (step runtime event).configState (step runtime event).hardware.stagedConfig
      (ledgerStep runtime ledger event) := by
  cases event with
  | setInterlock interlock => exact h
  | frame input =>
    rcases step_frame_cases runtime input with ⟨hstep, happlied⟩ |
      ⟨command, call, next, hcalls, ⟨readback, hardware, hperform, hstep, happlied⟩ |
        ⟨abort, hardware, hperform, hstep, happlied⟩⟩
    · rw [hstep]
      cases hcommand : appliedCommand runtime input with
      | none =>
        rw [ledgerStep_of_none hcommand]
        exact h
      | some command =>
        have hstatus := happlied command hcommand
        rw [ledgerStep_of_some hcommand, Ledger.advance_of_outside (by simp [hstatus])]
        exact h
    · rw [hstep, ledgerStep_of_some happlied]
      exact agrees_perform h (configures_of_dispatch hcalls.dispatched) hperform
    · rw [hstep, ledgerStep_of_none happlied]
      have hstaged := stagedConfig_of_error hperform
      dsimp only
      rw [hstaged]
      exact h

theorem agrees_run {runtime : RpuRuntime (AfeMmioBackend I)} {ledger : Ledger}
    (h : Agrees runtime.configState runtime.hardware.stagedConfig ledger)
    (events : List RuntimeEvent) :
    Agrees (run runtime events).configState (run runtime events).hardware.stagedConfig
      (ledgerRun runtime ledger events) := by
  induction events generalizing runtime ledger with
  | nil => exact h
  | cons event events ih => exact ih (agrees_step h event)

/-! ## Main result -/

section Slots

variable {config : ConfigState} {staged : StagedConfig} {ledger : Ledger}

theorem OpenAgrees.toNat_receivedAfes (h : OpenAgrees config staged ledger) :
    staged.receivedAfes.toNat = (ledger.afes.map afeSlot).toFinset.card := by
  have hlength : (filled staged.afes).length ≤ 5 := length_filled_le staged.afes
  rw [StagedConfig.receivedAfes, UInt16.toNat_ofNat', Nat.mod_eq_of_lt (by omega), h.afes,
    length_filled_fill h.afe_valid]

theorem OpenAgrees.toNat_receivedChannels (h : OpenAgrees config staged ledger) :
    staged.receivedChannels.toNat = (ledger.channels.map channelSlot).toFinset.card := by
  have hlength : (filled staged.channels).length ≤ 40 := length_filled_le staged.channels
  have hvalid : ∀ record ∈ ledger.channels, channelSlot record < channelCount :=
    fun record hmem ↦ (h.channel_valid record hmem).2.2
  rw [StagedConfig.receivedChannels, UInt16.toNat_ofNat', Nat.mod_eq_of_lt (by omega), h.channels,
    length_filled_fill hvalid]

end Slots

/-- A counter of the runtime beside the slots of the backend, both read off one list of keys. -/
theorem counters_of_keys {keys : List ℕ} {slots received expected : UInt16}
    (hslots : slots.toNat = keys.toFinset.card) (hreceived : received.toNat = keys.length)
    (hle : keys.length ≤ expected.toNat) :
    slots ≤ received ∧ received ≤ expected ∧ (received = slots ↔ keys.Nodup) := by
  have hcard : keys.toFinset.card = keys.length ↔ keys.Nodup :=
    Multiset.toFinset_card_eq_card_iff_nodup (m := (keys : Multiset ℕ))
  have hcard_le : keys.toFinset.card ≤ keys.length := keys.toFinset_card_le
  refine ⟨?_, ?_, ?_⟩
  · rw [UInt16.le_iff_toNat_le, hslots, hreceived]
    exact hcard_le
  · rw [UInt16.le_iff_toNat_le, hreceived]
    exact hle
  · rw [← UInt16.toNat_inj, hslots, hreceived, eq_comm]
    exact hcard

/-- In every reachable state the runtime and the backend agree on whether a sequence is open. While
one is, the counters are the numbers of records accepted since the begin, each slot holds the last
of these records for it, and the filled slots are the distinct slots among them. So there are never
more slots than records nor more records than expected, as many slots as records exactly when no
slot was repeated, and a complete sequence passes the backend's check exactly when no slot was
repeated. -/
theorem bookkeepings_agree (io : I) (mmioConfig : MmioAfeConfig) (events : List RuntimeEvent) :
    let start : RpuRuntime (AfeMmioBackend I) := RpuRuntime.new (withConfig io mmioConfig)
    let runtime := run start events
    let ledger := ledgerRun start .closed events
    let config := runtime.configState
    let staged := runtime.hardware.stagedConfig
    config.active = staged.active ∧
    (staged.active = true →
      config.receivedAfes.toNat = ledger.afes.length ∧
      config.receivedChannels.toNat = ledger.channels.length ∧
      staged.afes = fill afeSlot afeCount ledger.afes ∧
      staged.channels = fill channelSlot channelCount ledger.channels ∧
      staged.receivedAfes.toNat = (ledger.afes.map afeSlot).toFinset.card ∧
      staged.receivedChannels.toNat = (ledger.channels.map channelSlot).toFinset.card ∧
      (staged.receivedAfes ≤ config.receivedAfes ∧ config.receivedAfes ≤ config.expectedAfes ∧
        (config.receivedAfes = staged.receivedAfes ↔ (ledger.afes.map afeSlot).Nodup)) ∧
      (staged.receivedChannels ≤ config.receivedChannels ∧
        config.receivedChannels ≤ config.expectedChannels ∧
        (config.receivedChannels = staged.receivedChannels ↔
          (ledger.channels.map channelSlot).Nodup)) ∧
      (config.requireComplete = .ok () →
        ((staged.validateCounts : Except (MmioAfeError ε) Unit) = .ok () ↔
          (ledger.afes.map afeSlot).Nodup ∧ (ledger.channels.map channelSlot).Nodup))) := by
  intro start runtime ledger config staged
  have hagrees : Agrees config staged ledger := agrees_run agrees_closed events
  refine ⟨hagrees.runtime_active.trans hagrees.staged_active.symm, fun hactive ↦ ?_⟩
  have hopen := hagrees.opened (hagrees.staged_active ▸ hactive)
  have hafes : staged.receivedAfes ≤ config.receivedAfes ∧
      config.receivedAfes ≤ config.expectedAfes ∧
      (config.receivedAfes = staged.receivedAfes ↔ (ledger.afes.map afeSlot).Nodup) := by
    apply counters_of_keys hopen.toNat_receivedAfes
    · rw [List.length_map, hopen.receivedAfes]
    · rw [List.length_map, hopen.expectedAfes]
      exact hopen.afes_le
  have hchannels : staged.receivedChannels ≤ config.receivedChannels ∧
      config.receivedChannels ≤ config.expectedChannels ∧
      (config.receivedChannels = staged.receivedChannels ↔
        (ledger.channels.map channelSlot).Nodup) := by
    apply counters_of_keys hopen.toNat_receivedChannels
    · rw [List.length_map, hopen.receivedChannels]
    · rw [List.length_map, hopen.expectedChannels]
      exact hopen.channels_le
  refine ⟨hopen.receivedAfes, hopen.receivedChannels, hopen.afes, hopen.channels,
    hopen.toNat_receivedAfes, hopen.toNat_receivedChannels, hafes, hchannels, fun hcomplete ↦ ?_⟩
  obtain ⟨-, hafeCount, hchannelCount⟩ := ConfigState.requireComplete_eq_ok_iff.mp hcomplete
  rw [StagedConfig.validateCounts_eq_ok_iff, ← hafes.2.2, ← hchannels.2.2, hopen.counts,
    ← hopen.expectedAfes, ← hopen.expectedChannels, ← hafeCount, ← hchannelCount,
    eq_comm, @eq_comm _ staged.receivedChannels]

/-- Two records for one slot: the runtime counts both, the backend holds one, and a sequence the
runtime takes for complete is refused by the backend. -/
theorem bookkeepings_differ :
    let record : AfeFrontendConfig := ⟨⟨0, 0, rfl⟩, 0, 0, ⟨false, false, false⟩, ⟨0, false, false⟩,
      ⟨0, 0, false⟩⟩
    let afe (sequence : UInt64) : RuntimeEvent :=
      .frame (.ofCommand (RpuWireCommand.afeFrame record sequence) nofun)
    let events := [.setInterlock .ready,
      .frame (.ofCommand (RpuWireCommand.beginFrame [record, record] [] 0 1) nofun), afe 2, afe 3]
    let runtime := run (RpuRuntime.new (AfeMmioBackend.new ZeroIo.mk)) events
    runtime.configState.active = true ∧ runtime.configState.receivedAfes = 2 ∧
      runtime.hardware.stagedConfig.receivedAfes = 1 ∧
      runtime.configState.requireComplete = .ok () ∧
      (runtime.hardware.stagedConfig.validateCounts : Except (MmioAfeError Empty) Unit) =
        .error .unsupported := by
  decide +kernel

end DaphneSc.Rpu.ConfigureSequence
