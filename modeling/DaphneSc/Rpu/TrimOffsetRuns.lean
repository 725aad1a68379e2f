import DaphneSc.Rpu.TrimOffset

/-!
# Runs of trim and offset commands

The reads of trims and offsets always report the values last set, because both work on the cache.
The DACs hold these values as long as no command for a single channel clears another channel on the
way, which it does when its companion was never set and the first channel of the companion's DAC
holds something other than zero.
-/

namespace DaphneSc.Rpu.TrimOffset

open Core.Afe Core.RpuWire Rpu.Runtime Rpu.Mmio Rpu.Mmio.AfeMmioBackend Program
open DacPairs

/-! ## The values last set -/

/-- Settings of every bank and AFE. -/
abbrev AllSettings := Bank → ℕ → Settings

/-- The channels a command addresses. -/
def addressed (command : RpuWireCommand) (afe channel : ℕ) : Bool :=
  match command.target with
  | .channel => afe == command.afePl.toNat && channel == command.afeChannel.toNat
  | .afe => afe == command.afePl.toNat
  | .all => true
  | .none => false

def remember (settings : AllSettings) (command : RpuWireCommand) : AllSettings :=
  fun bank afe channel ↦
    if bank.setOp = command.op ∧ addressed command afe channel then
      some command.value.toNat
    else
      settings bank afe channel

def lastSet (commands : List RpuWireCommand) : AllSettings :=
  commands.foldl remember fun _ _ _ ↦ none

/-- A command for a single channel spoils no other channel. Commands for a whole AFE or for all of
them write every channel of a register and spoil none. -/
def HarmlessCommand (settings : AllSettings) (command : RpuWireCommand) : Prop :=
  command.target = .channel → ∀ bank : Bank, bank.setOp = command.op →
    Harmless (settings bank command.afePl.toNat) command.afeChannel.toNat

/-! ## One command and one pair -/

section Pair

variable {pair : Pair} {settings : AllSettings} {command : RpuWireCommand} {bank : Bank} {afe : ℕ}

theorem applyTo_of_channel (htarget : command.target = .channel) (hop : bank.setOp = command.op) :
    applyTo command bank command.afePl.toNat pair = pair.write command.afeChannel.toNat
      (halfFor command.value.toUInt16 (command.flags != 0) command.afeChannel.toNat) := by
  simp [applyTo, htarget, hop]

theorem remember_of_channel (htarget : command.target = .channel)
    (hop : bank.setOp = command.op) :
    remember settings command bank command.afePl.toNat =
      Function.update (settings bank command.afePl.toNat) command.afeChannel.toNat
        (some command.value.toNat) := by
  funext channel
  rcases eq_or_ne channel command.afeChannel.toNat with rfl | hne
  · simp [remember, addressed, htarget, hop]
  · simp [remember, addressed, htarget, hne]

theorem remember_of_not_addressed (h : bank.setOp = command.op → ∀ channel,
    addressed command afe channel = false) : remember settings command bank afe =
      settings bank afe := by
  funext channel
  rw [remember, if_neg]
  rintro ⟨hop, haddressed⟩
  rw [h hop channel] at haddressed
  exact Bool.false_ne_true haddressed

/-- A command leaves a pair alone, writes one channel of it, or writes all its channels. -/
theorem applyTo_cases (command : RpuWireCommand) (bank : Bank) (afe : ℕ) (pair : Pair)
    (settings : AllSettings) :
    (applyTo command bank afe pair = pair ∧
      remember settings command bank afe = settings bank afe) ∨
    (command.target = .channel ∧ bank.setOp = command.op ∧ afe = command.afePl.toNat) ∨
    (applyTo command bank afe pair = pair.writeUpTo
        (halfFor command.value.toUInt16 (command.flags != 0)) channelsPerAfe ∧
      ∀ channel, remember settings command bank afe channel = some command.value.toNat) := by
  by_cases hop : bank.setOp = command.op
  · by_cases hafe : afe = command.afePl.toNat
    · cases htarget : command.target with
      | none =>
        exact Or.inl ⟨by simp [applyTo, htarget],
          remember_of_not_addressed fun _ _ ↦ by simp [addressed, htarget]⟩
      | channel => exact Or.inr (Or.inl ⟨rfl, hop, hafe⟩)
      | afe | all =>
        exact Or.inr (Or.inr ⟨by simp [applyTo, htarget, hop, hafe],
          by simp [remember, addressed, htarget, hop, hafe]⟩)
    · cases htarget : command.target with
      | all =>
        exact Or.inr (Or.inr ⟨by simp [applyTo, htarget, hop],
          by simp [remember, addressed, htarget, hop]⟩)
      | none | channel | afe =>
        exact Or.inl ⟨by simp [applyTo, htarget, hafe],
          remember_of_not_addressed fun _ _ ↦ by simp [addressed, htarget, hafe]⟩
  · exact Or.inl ⟨by simp [applyTo, hop], remember_of_not_addressed fun h ↦ absurd h hop⟩

theorem toNat_toUInt16 {value : UInt32} (h : value.toNat < 4096) :
    value.toUInt16.toNat = value.toNat := by
  rw [UInt32.toNat_toUInt16, Nat.mod_eq_of_lt (by omega)]

theorem value_halfFor_command (h : command.value.toNat < 4096) (channel : ℕ) :
    DacPairs.value (halfFor command.value.toUInt16 (command.flags != 0) channel) =
      command.value.toNat := by
  have hvalue := toNat_toUInt16 h
  rw [value_halfFor (by rw [hvalue]; exact h), hvalue]

theorem setUpTo_eq (hset : ∀ channel, remember settings command bank afe channel =
    some command.value.toNat) {channel : ℕ} (h : channel < 8) :
    setUpTo (settings bank afe) command.value.toNat 8 channel =
      remember settings command bank afe channel := by
  rw [hset, setUpTo, if_pos h]

theorem cached_applyTo (h : Cached pair.halves (settings bank afe))
    (hvalue : command.value.toNat < 4096) :
    Cached (applyTo command bank afe pair).halves (remember settings command bank afe) := by
  rcases applyTo_cases command bank afe pair settings with
    ⟨hpair, hsettings⟩ | ⟨htarget, hop, rfl⟩ | ⟨hpair, hset⟩
  · rw [hpair, hsettings]
    exact h
  · rw [applyTo_of_channel htarget hop, remember_of_channel htarget hop,
      ← value_halfFor_command hvalue command.afeChannel.toNat]
    exact h.write (select_halfFor _ _ _)
  · rw [hpair]
    intro channel hchannel
    have hall := h.writeUpTo (select_halfFor command.value.toUInt16 (command.flags != 0))
      (value_halfFor_command hvalue) 8 channel hchannel
    rwa [setUpTo_eq hset hchannel] at hall

theorem holds_applyTo (h : Holds pair.content (settings bank afe))
    (hcached : Cached pair.halves (settings bank afe)) (hvalue : command.value.toNat < 4096)
    (hchannel : command.target = .channel → command.afeChannel.toNat < channelsPerAfe)
    (hharmless : HarmlessCommand settings command) :
    Holds (applyTo command bank afe pair).content (remember settings command bank afe) := by
  rcases applyTo_cases command bank afe pair settings with
    ⟨hpair, hsettings⟩ | ⟨htarget, hop, rfl⟩ | ⟨hpair, hset⟩
  · rw [hpair, hsettings]
    exact h
  · rw [applyTo_of_channel htarget hop, remember_of_channel htarget hop,
      ← value_halfFor_command hvalue command.afeChannel.toNat]
    exact h.write hcached (hchannel htarget) (select_halfFor _ _ _) (hharmless htarget bank hop)
  · rw [hpair]
    intro channel hlt v hv
    apply holds_writeUpTo hcached (select_halfFor _ _) (value_halfFor_command hvalue) channel hlt
    rw [setUpTo_eq hset hlt, hv]

theorem harmless_of_holds_applyTo
    (hcached : Cached pair.halves (settings bank command.afePl.toNat))
    (hvalue : command.value.toNat < 4096) (hchannel : command.afeChannel.toNat < channelsPerAfe)
    (htarget : command.target = .channel) (hop : bank.setOp = command.op)
    (h : Holds (applyTo command bank command.afePl.toNat pair).content
      (remember settings command bank command.afePl.toNat)) :
    Harmless (settings bank command.afePl.toNat) command.afeChannel.toNat := by
  rw [applyTo_of_channel htarget hop, remember_of_channel htarget hop,
    ← value_halfFor_command hvalue command.afeChannel.toNat] at h
  exact harmless_of_holds hcached hchannel (select_halfFor _ _ _) h

end Pair

/-! ## One command -/

section Backend

variable {I ε : Type}

/-- The cache follows the values last set. -/
def Tracks (backend : AfeMmioBackend (Traced I)) (settings : AllSettings) : Prop :=
  ∀ bank, ∀ afe < afeCount, Cached (pairOf backend bank afe).halves (settings bank afe)

/-- Every channel that was set holds the value last set, in its DAC and in what is read back. -/
def Agrees (ε : Type) (backend : AfeMmioBackend (Traced I)) (settings : AllSettings) : Prop :=
  ∀ bank : Bank, ∀ afe < afeCount, ∀ channel < channelsPerAfe, ∀ v,
    settings bank afe channel = some v →
    dacContent (bank.register afe) backend.io.writes channel = some v ∧
    ∀ command : RpuWireCommand, command.op = bank.readOp → command.target = .channel →
      command.afePl.toNat = afe → command.afeChannel.toNat = channel →
      (readChannelScalar command : BackendProg (Traced I) ε UInt32) backend =
        .ok (UInt32.ofNat v) backend

theorem tracks_new (io : I) : Tracks (AfeMmioBackend.new (Traced.start io)) fun _ _ _ ↦ none := by
  intro bank afe hafe channel hchannel
  have hzero : halfAt (Vector.replicate _ (Vector.replicate _ 0)) afe channel = 0 := by
    rw [halfAt_of_lt _ hafe hchannel]
    simp
  cases bank <;> exact hzero

/-- What is read back is the value of the cached half. -/
theorem readChannelScalar_eq {bank : Bank} {command : RpuWireCommand}
    (hop : command.op = bank.readOp) (htarget : command.target = .channel)
    (hafe : command.afePl.toNat < afeCount) (hchannel : command.afeChannel.toNat < channelsPerAfe)
    (backend : AfeMmioBackend I) :
    (readChannelScalar command : BackendProg I ε UInt32) backend =
      .ok (UInt32.ofNat (DacPairs.value
        (halfAt (bank.halves backend) command.afePl.toNat command.afeChannel.toNat))) backend := by
  have hhalves : (readHalves bank.readOp command.afePl backend :
      BackendProg I ε (Vector UInt16 channelsPerAfe)) =
        pure (bank.halves backend)[command.afePl.toNat] := by
    cases bank <;> exact index_of_lt _ hafe
  have hvalue : ∀ half : UInt16, (half &&& 0x0FFF).toUInt32 =
      UInt32.ofNat (DacPairs.value half) := by
    intro half
    apply UInt32.toNat_inj.mp
    have hand : (half &&& 0x0FFF).toNat = half.toNat % 2 ^ 12 := by
      rw [UInt16.toNat_and]
      exact Nat.and_two_pow_sub_one_eq_mod half.toNat 12
    rw [UInt16.toNat_toUInt32, hand, UInt32.toNat_ofNat', DacPairs.value,
      Nat.mod_eq_of_lt (by omega : half.toNat % 2 ^ 12 < 2 ^ 32)]
  have hvalid : (validateAfe command.afePl : Except (MmioAfeError ε) Unit) = .ok () := if_pos hafe
  unfold readChannelScalar readTrimOrOffsetChannel
  rw [failIf, if_neg (by simpa using htarget), pure_bind, hvalid, ofResult_ok, pure_bind, failIf,
    if_neg (Nat.not_le.mpr hchannel), pure_bind, run_get_bind, hop, hhalves, pure_bind,
    index_of_lt _ hchannel, pure_bind, hvalue, halfAt_of_lt _ hafe hchannel]
  rfl

/-- While the cache follows the settings, agreement is about the DACs alone. -/
theorem agrees_iff_holds {backend : AfeMmioBackend (Traced I)}
    {settings : AllSettings} (htracks : Tracks backend settings) :
    Agrees ε backend settings ↔ ∀ bank, ∀ afe < afeCount,
      Holds (pairOf backend bank afe).content (settings bank afe) := by
  constructor
  · intro h bank afe hafe channel hchannel v hv
    exact (h bank afe hafe channel hchannel v hv).1
  · intro h bank afe hafe channel hchannel v hv
    refine ⟨h bank afe hafe channel hchannel v hv, ?_⟩
    rintro command hop htarget rfl rfl
    have hcached := htracks bank command.afePl.toNat hafe command.afeChannel.toNat hchannel
    rw [hv] at hcached
    rw [readChannelScalar_eq hop htarget hafe hchannel, ← hcached.2]
    rfl

variable [RegisterIo I ε]

/-- A command that returns moves the cache as it moves the settings. It keeps the DACs in agreement
with them exactly when it is harmless. -/
theorem wp_writeChannelScalar_settings {bank : Bank} {command : RpuWireCommand}
    (hop : command.op = bank.setOp) {settings : AllSettings}
    {backend : AfeMmioBackend (Traced I)} (htracks : Tracks backend settings) :
    wp (writeChannelScalar command)
      (fun _ backend' ↦ Tracks backend' (remember settings command) ∧
        (Agrees ε backend settings → HarmlessCommand settings command →
          Agrees ε backend' (remember settings command)) ∧
        (Agrees ε backend' (remember settings command) → HarmlessCommand settings command))
      (fun _ _ ↦ True) backend := by
  refine wp_mono (wp_writeChannelScalar hop backend) (fun _ backend' h ↦ ?_) fun _ _ h ↦ h
  obtain ⟨⟨hvalue, htarget⟩, hpairs⟩ := h
  have htracks' : Tracks backend' (remember settings command) := by
    intro bank' afe hafe
    rw [hpairs bank' afe hafe]
    exact cached_applyTo (htracks bank' afe hafe) hvalue
  refine ⟨htracks', fun hagrees hharmless ↦ ?_, fun hagrees ↦ ?_⟩
  · rw [agrees_iff_holds htracks] at hagrees
    rw [agrees_iff_holds htracks']
    intro bank' afe hafe
    rw [hpairs bank' afe hafe]
    exact holds_applyTo (hagrees bank' afe hafe) (htracks bank' afe hafe) hvalue
      (fun h ↦ (htarget h).2) hharmless
  · rw [agrees_iff_holds htracks'] at hagrees
    intro hchannel bank' hop'
    obtain ⟨hafe, hlt⟩ := htarget hchannel
    have hholds := hagrees bank' command.afePl.toNat hafe
    rw [hpairs bank' command.afePl.toNat hafe] at hholds
    exact harmless_of_holds_applyTo (htracks bank' _ hafe) hvalue hlt hchannel hop' hholds

/-! ## Runs -/

/-- Carry out commands one after the other. -/
def setAll (commands : List RpuWireCommand) : BackendProg I ε Unit :=
  commands.forM fun command ↦ do
    let _ ← writeChannelScalar command

theorem setAll_append (done rest : List RpuWireCommand) :
    (setAll (done ++ rest) : BackendProg I ε Unit) = setAll done >>= fun _ ↦ setAll rest :=
  List.forM_append

/-- The beginning of a run that returns returns. -/
theorem setAll_take {commands : List RpuWireCommand} {start final : AfeMmioBackend I}
    (hrun : setAll commands start = .ok () final) (count : ℕ) :
    ∃ backend, setAll (commands.take count) start = .ok () backend := by
  rw [← List.take_append_drop count commands, setAll_append, bind_eq_ok_iff] at hrun
  obtain ⟨_, backend, hdone, -⟩ := hrun
  exact ⟨backend, hdone⟩

/-- The last command of a run that returns. -/
theorem setAll_append_singleton {done : List RpuWireCommand} {command : RpuWireCommand}
    {start final : AfeMmioBackend I} (hrun : setAll (done ++ [command]) start = .ok () final) :
    ∃ backend value, setAll done start = .ok () backend ∧
      writeChannelScalar command backend = .ok value final := by
  rw [setAll_append, bind_eq_ok_iff] at hrun
  obtain ⟨_, backend, hdone, hlast⟩ := hrun
  have hlast' : ((fun _ ↦ ()) <$> writeChannelScalar command) backend = .ok () final := by
    rw [← hlast]
    simp [setAll]
  obtain ⟨value, hwrite, -⟩ := map_eq_ok_iff.mp hlast'
  exact ⟨backend, value, hdone, hwrite⟩

theorem lastSet_append_singleton (done : List RpuWireCommand) (command : RpuWireCommand) :
    lastSet (done ++ [command]) = remember (lastSet done) command := by
  simp [lastSet]

theorem exists_bank {op : RpuWireOp} (h : op = .setTrim ∨ op = .setOffset) :
    ∃ bank : Bank, op = bank.setOp := by
  rcases h with rfl | rfl
  · exact ⟨.trim, rfl⟩
  · exact ⟨.offset, rfl⟩

theorem tracks_setAll {io : I} {commands : List RpuWireCommand}
    (hops : ∀ command ∈ commands, command.op = .setTrim ∨ command.op = .setOffset)
    {backend : AfeMmioBackend (Traced I)}
    (hrun : setAll commands (AfeMmioBackend.new (Traced.start io)) = .ok () backend) :
    Tracks backend (lastSet commands) := by
  induction commands using List.reverseRecOn generalizing backend with
  | nil =>
    cases hrun
    exact tracks_new io
  | append_singleton done command ih =>
    obtain ⟨before, value, hdone, hwrite⟩ := setAll_append_singleton hrun
    obtain ⟨bank, hop⟩ := exists_bank (hops command (by simp))
    have htracks := ih (fun c hc ↦ hops c (by simp [hc])) hdone
    rw [lastSet_append_singleton]
    exact (post_of_ok (wp_writeChannelScalar_settings hop htracks) hwrite).1

/-- After every command of a run the DACs and what is read back agree with the values last set,
exactly when every command for a single channel is harmless: its companion was set before, or the
first channel of the companion's DAC was not, or was last set to zero. -/
theorem agrees_after_every_command_iff (io : I) (commands : List RpuWireCommand)
    (hops : ∀ command ∈ commands, command.op = .setTrim ∨ command.op = .setOffset)
    (final : AfeMmioBackend (Traced I))
    (hrun : setAll commands (AfeMmioBackend.new (Traced.start io)) = .ok () final) :
    (∀ count backend,
      setAll (commands.take count) (AfeMmioBackend.new (Traced.start io)) = .ok () backend →
      Agrees ε backend (lastSet (commands.take count))) ↔
    ∀ i, (h : i < commands.length) → HarmlessCommand (lastSet (commands.take i)) commands[i] := by
  have hops_take : ∀ count, ∀ command ∈ commands.take count,
      command.op = .setTrim ∨ command.op = .setOffset :=
    fun count command hmem ↦ hops command (List.mem_of_mem_take hmem)
  -- One command, between the states before and after it.
  have hstep : ∀ i, (h : i < commands.length) → ∀ after,
      setAll (commands.take (i + 1)) (AfeMmioBackend.new (Traced.start io)) = .ok () after →
      ∃ before, setAll (commands.take i) (AfeMmioBackend.new (Traced.start io)) = .ok () before ∧
        (Agrees ε before (lastSet (commands.take i)) →
          HarmlessCommand (lastSet (commands.take i)) commands[i] →
          Agrees ε after (lastSet (commands.take (i + 1)))) ∧
        (Agrees ε after (lastSet (commands.take (i + 1))) →
          HarmlessCommand (lastSet (commands.take i)) commands[i]) := by
    intro i h after hafter
    rw [List.take_succ_eq_append_getElem h] at hafter ⊢
    obtain ⟨before, value, hbefore, hwrite⟩ := setAll_append_singleton hafter
    obtain ⟨bank, hop⟩ := exists_bank (hops commands[i] (List.getElem_mem h))
    have htracks := tracks_setAll (hops_take i) hbefore
    rw [lastSet_append_singleton]
    exact ⟨before, hbefore, (post_of_ok (wp_writeChannelScalar_settings hop htracks) hwrite).2⟩
  constructor
  · intro hall i h
    obtain ⟨after, hafter⟩ := setAll_take hrun (i + 1)
    obtain ⟨before, -, -, hharmless⟩ := hstep i h after hafter
    exact hharmless (hall (i + 1) after hafter)
  · intro hharmless count
    induction count with
    | zero =>
      intro backend _ bank afe _ channel _ v hv
      cases hv
    | succ count ih =>
      intro after hafter
      rcases Nat.lt_or_ge count commands.length with hlt | hge
      · obtain ⟨before, hbefore, hkept, -⟩ := hstep count hlt after hafter
        exact hkept (ih before hbefore) (hharmless count hlt)
      · have htake : commands.take (count + 1) = commands.take count := by
          rw [List.take_of_length_le hge, List.take_of_length_le (Nat.le_succ_of_le hge)]
        rw [htake] at hafter ⊢
        exact ih after hafter

/-- Setting a whole AFE and then one of its channels keeps the DACs in agreement. -/
theorem agrees_after_every_command_afe :
    let afe : AfeId := ⟨0, 0, rfl⟩
    let commands : List RpuWireCommand :=
      [{ (RpuWireCommand.status 1).setAfe afe with op := .setTrim, value := 0x123 },
        { (RpuWireCommand.status 2).setChannel ⟨5, afe, 5, rfl, rfl⟩ with
          op := .setTrim, value := 0x45 }]
    ∀ count backend,
      setAll (commands.take count) (AfeMmioBackend.new (Traced.start ZeroIo.mk)) = .ok () backend →
      Agrees Empty backend (lastSet (commands.take count)) := by
  intro afe commands
  have hrun : returns (setAll commands) (AfeMmioBackend.new (Traced.start ZeroIo.mk)) = true := by
    decide +kernel
  have hcompanion : lastSet (commands.take 1) .trim 0 1 ≠ none := by decide +kernel
  apply (agrees_after_every_command_iff ZeroIo.mk commands (by decide) _ (eq_ok_final hrun)).mpr
  intro i hi htarget bank hop
  rcases i with _ | _ | i
  · have hafe : RpuWireTarget.afe = .channel := htarget
    cases hafe
  · have hset : bank.setOp = .setTrim := hop
    cases bank with
    | trim => exact Or.inl hcompanion
    | offset => cases hset
  · exact absurd hi (by simp [commands])

/-- Setting channel 5 of an AFE, whose companion was never set, clears channel 0 set before it. -/
theorem set_trim_spoils_other_channel :
    let afe : AfeId := ⟨0, 0, rfl⟩
    let setTrim (channel : ChannelId) (value : UInt32) : RpuWireCommand :=
      { (RpuWireCommand.status 1).setChannel channel with op := .setTrim, value := value }
    let commands := [setTrim ⟨0, afe, 0, rfl, rfl⟩ 0x123, setTrim ⟨5, afe, 5, rfl, rfl⟩ 0x45]
    ∃ final, setAll commands (AfeMmioBackend.new (Traced.start ZeroIo.mk)) = .ok () final ∧
      lastSet commands .trim 0 0 = some 0x123 ∧
      dacContent (Bank.trim.register 0) final.io.writes 0 = some 0 ∧
      ¬ Agrees Empty final (lastSet commands) := by
  intro afe setTrim commands
  have hrun : returns (setAll commands) (AfeMmioBackend.new (Traced.start ZeroIo.mk)) = true := by
    decide +kernel
  have hset : lastSet commands .trim 0 0 = some 0x123 := by decide +kernel
  have hcontent : dacContent (Bank.trim.register 0)
      (final (setAll commands) (AfeMmioBackend.new (Traced.start ZeroIo.mk))).io.writes 0 =
        some 0 := by
    decide +kernel
  refine ⟨_, eq_ok_final hrun, hset, hcontent, fun hagrees ↦ ?_⟩
  have hagreed := (hagrees .trim 0 (by decide) 0 (by decide) _ hset).1
  rw [hcontent] at hagreed
  cases hagreed

end Backend

end DaphneSc.Rpu.TrimOffset
