import DaphneSc.Server.LinuxPreflight

/-!
# What the checks of the host decide

Each check is a judgement on the machine. All of them pass on a machine that stands still exactly
when it meets the prerequisites for commands to the hardware, and on any machine only when each
prerequisite was met at some moment while the checks were made.
-/

namespace DaphneSc.Server.Preflight

open Bytes ClockChipTool Machine Program

/-! ## Prerequisites -/

def UnitActive (unit : String) (m : Moment) : Prop :=
  ∃ output, m.output "systemctl" ["is-active", unit] = .ok output ∧ output.success = true ∧
    trim output.stdout = "active".toList

def FileHolds (path : String) (expected : Text) (m : Moment) : Prop :=
  ∃ content, m.readToString path = .ok content ∧ trim content = expected

def PathPresent (path : String) (m : Moment) : Prop := m.pathExists path = true

def RemoteprocPresent (m : Moment) : Prop :=
  ∃ entries, m.readDir "/sys/class/remoteproc" = .ok entries ∧ ∃ entry ∈ entries, entry.isOk = true

/-- The bus is the configured one or, with none configured, has a device file. -/
def Candidate (env : Environment) (config : BoardConfig) (bus : UInt8) (view : View Moment) :
    Prop :=
  match configuredBuses env config with
  | some buses => bus ∈ buses
  | none => view 1 fun m ↦ ∃ entries, (m 0).readDir "/dev" = .ok entries ∧ bus ∈ i2cBuses entries

/-- The device file can be opened, and the sanity register of the chip reads what it has to. -/
def Answers (bus : UInt8) (addr : UInt16) (m : ℕ → Moment) : Prop :=
  (m 0).openFile (i2cDevPath bus) = .ok () ∧ (m 1).selectSlave bus addr = .ok () ∧
    (m 2).i2cWrite bus addr [clockchipSanityRegister] = .ok () ∧
    (m 3).i2cRead bus addr = .ok clockchipSanityValue

/-- The lowest byte of a register is read through a mapping of its page. -/
def PhysRead (address : UInt64) (byte : UInt8) (m : ℕ → Moment) : Prop :=
  let pageSize := (m 1).sysconfPageSize.1
  (m 0).openFile "/dev/mem" = .ok () ∧ 0 < pageSize ∧
    (m 2).mmap pageSize.toUInt64 (address &&& ~~~(pageSize.toUInt64 - 1)) = .ok () ∧
    (m 3).physical address = byte ∧ (m 7).munmap pageSize.toUInt64 = .ok ()

def LocksSet (byte : UInt8) : Prop := byte &&& 1 ≠ 0 ∧ byte &&& 2 ≠ 0

/-- The state is accepted, and in the state of readiness the timestamp is valid. -/
def StateAccepted (states : List UInt8) (byte : UInt8) : Prop :=
  byte &&& 0xF ∈ states ∧ (byte &&& 0xF = 8 → byte &&& 0x10 ≠ 0)

structure EndpointUsable (states : List UInt8) (m : ℕ → Moment) : Prop where
  control : ∃ byte, PhysRead epClkCtrl byte m
  locks : ∃ byte, PhysRead epClkStat byte (fun i ↦ m (8 + i)) ∧ LocksSet byte
  state : ∃ byte, PhysRead epStat byte (fun i ↦ m (16 + i)) ∧ StateAccepted states byte

/-- What has to be there before a command may reach the hardware. -/
structure Prerequisites (env : Environment) (config : BoardConfig) (view : View Moment) : Prop where
  firmware : view 1 fun m ↦ UnitActive "firmware.service" (m 0)
  clockchip : view 1 fun m ↦ UnitActive "clockchip.service" (m 0)
  endpoint : view 1 fun m ↦ UnitActive "endpoint.service" (m 0)
  fpgaManager :
    view 1 fun m ↦ FileHolds "/sys/class/fpga_manager/fpga0/state" "operating".toList (m 0)
  plI2c : view 1 fun m ↦ PathPresent "/sys/bus/platform/devices/9c000000.i2c" (m 0)
  plSpi : view 1 fun m ↦ PathPresent "/sys/bus/platform/devices/9c020000.axi_quad_spi" (m 0)
  spiNode : view 1 fun m ↦ PathPresent "/dev/spidev3.0" (m 0)
  remoteproc : view 1 fun m ↦ RemoteprocPresent (m 0)
  clockChip : ∃ bus, Candidate env config bus view ∧ view 4 (Answers bus (clockchipAddr env config))
  endpointRegisters : view 24 (EndpointUsable (endpointSuccessStates env config))

/-! ## One check at a time -/

def Passed (check : PreflightCheck) : Prop := check.ok = true

theorem judges_systemdUnitActive (unit : String) :
    Judges (systemdUnitActive unit) Passed fun view ↦ view 1 fun m ↦ UnitActive unit (m 0) := by
  apply judges_observe
  intro m
  unfold UnitActive
  cases m.output "systemctl" ["is-active", unit] with
  | error err => exact ⟨_, rfl, by simp [Passed, PreflightCheck.fail]⟩
  | ok output =>
    by_cases h : output.success = true ∧ trim output.stdout = "active".toList
    · exact ⟨_, if_pos h, by simp [Passed, PreflightCheck.pass, h]⟩
    · exact ⟨_, if_neg h, by simpa [Passed, PreflightCheck.fail] using h⟩

theorem judges_fileEquals (name path : String) (expected : Text) :
    Judges (fileEquals name path expected) Passed
      fun view ↦ view 1 fun m ↦ FileHolds path expected (m 0) := by
  apply judges_observe
  intro m
  unfold FileHolds
  cases m.readToString path with
  | error err => exact ⟨_, rfl, by simp [Passed, PreflightCheck.fail]⟩
  | ok content =>
    by_cases h : trim content = expected
    · exact ⟨_, if_pos h, by simp [Passed, PreflightCheck.pass, h]⟩
    · exact ⟨_, if_neg h, by simpa [Passed, PreflightCheck.fail] using h⟩

theorem judges_pathExists (name path : String) :
    Judges (pathExists name path) Passed fun view ↦ view 1 fun m ↦ PathPresent path (m 0) := by
  apply judges_observe
  intro m
  unfold PathPresent
  by_cases h : m.pathExists path = true
  · exact ⟨_, if_pos h, by simp [Passed, PreflightCheck.pass, h]⟩
  · exact ⟨_, if_neg h, by simp [Passed, PreflightCheck.fail, h]⟩

theorem judges_anyRemoteprocDevice :
    Judges anyRemoteprocDevice Passed fun view ↦ view 1 fun m ↦ RemoteprocPresent (m 0) := by
  apply judges_observe
  intro m
  unfold RemoteprocPresent
  cases m.readDir "/sys/class/remoteproc" with
  | error err => exact ⟨_, rfl, by simp [Passed, PreflightCheck.fail]⟩
  | ok entries =>
    by_cases h : entries.any (·.isOk) = true
    · refine ⟨_, if_pos h, ?_⟩
      simpa [Passed, PreflightCheck.pass] using h
    · refine ⟨_, if_neg h, ?_⟩
      simpa [Passed, PreflightCheck.fail] using h

/-! ## The clock chip -/

def listedBuses (result : Except String (List (Except String (Option Text)))) : List UInt8 :=
  match result with
  | .ok entries => i2cBuses entries
  | .error _ => []

/-- A judgement on the candidates, when each list of buses is judged by what there is on one of
them. -/
theorem judges_candidates {α : Type} {env : Environment} {config : BoardConfig}
    {judgement : List UInt8 → Prog Empty Host α} {good : α → Prop} {P : UInt8 → View Moment → Prop}
    (hP : ∀ bus, Lasting (P bus))
    (h : ∀ buses, Judges (judgement buses) good fun view ↦ ∃ bus ∈ buses, P bus view) :
    Judges (clockchipBusCandidates env config >>= judgement) good
      fun view ↦ ∃ bus, Candidate env config bus view ∧ P bus view := by
  unfold clockchipBusCandidates Candidate
  cases configuredBuses env config with
  | some buses => exact h buses
  | none =>
    have hlooked : i2cBusCandidates none >>= judgement =
        observe (·.readDir "/dev") >>= fun result ↦ judgement (listedBuses result) := by
      funext feed
      unfold i2cBusCandidates
      simp only [run_bind, observe]
      cases feed.current.readDir "/dev" <;> rfl
    rw [hlooked]
    have hlisted {result bus} (hbus : bus ∈ listedBuses result) :
        ∃ entries, result = .ok entries ∧ bus ∈ i2cBuses entries := by
      cases result with
      | ok entries => exact ⟨entries, rfl, hbus⟩
      | error err => exact absurd hbus List.not_mem_nil
    apply (judges_look fun result ↦ h (listedBuses result)).congr
    · exact lasting_exists fun bus ↦ lasting_and (lasting_view _ _) (hP bus)
    · rintro moments a b ⟨result, ⟨t, hat, htb, hresult⟩, bus, hbus, hP⟩
      obtain ⟨entries, rfl, hmem⟩ := hlisted hbus
      exact ⟨bus, ⟨t, hat, htb, entries, hresult, hmem⟩, hP⟩
    · intro m
      constructor
      · rintro ⟨result, hresult, bus, hbus, hP⟩
        obtain ⟨entries, rfl, hmem⟩ := hlisted hbus
        exact ⟨bus, ⟨entries, hresult, hmem⟩, hP⟩
      · rintro ⟨bus, ⟨entries, hentries, hmem⟩, hP⟩
        exact ⟨.ok entries, hentries, bus, hmem, hP⟩

theorem judges_anyI2cDevice (env : Environment) (config : BoardConfig) :
    Judges (anyI2cDevice env config) Passed fun view ↦ ∃ bus, Candidate env config bus view := by
  have h : Judges (anyI2cDevice env config) Passed
      fun view ↦ ∃ bus, Candidate env config bus view ∧ True := by
    apply judges_candidates fun _ ↦ lasting_const True
    intro buses
    cases buses with
    | nil => exact judges_pure (by simp [Passed, PreflightCheck.fail])
    | cons bus buses => exact judges_pure (by simp [Passed, PreflightCheck.pass])
  simpa only [and_true] using h

def Found (result : ProbeResult) : Prop := ∃ detail, result = .found detail

/-- Both steps of opening a device succeed, or one of them fails. -/
theorem wp_openAt (bus : UInt8) (addr : UInt16) (feed : Host) :
    wp (LinuxI2cDevice.openAt bus addr)
      (fun device after ↦ device = ⟨bus, addr⟩ ∧ after = feed.next.next ∧
        (feed.ahead 0).openFile (i2cDevPath bus) = .ok () ∧
        (feed.ahead 1).selectSlave bus addr = .ok ())
      (fun abort after ↦ (∃ err, abort = .error err) ∧ Feed.passes.rel feed after ∧
        ((feed.ahead 0).openFile (i2cDevPath bus) = .ok () →
          (feed.ahead 1).selectSlave bus addr ≠ .ok ())) feed := by
  have hnext := feed.passes_next
  unfold LinuxI2cDevice.openAt
  rw [wp_bind, wp_call]
  refine ⟨fun _ hopen ↦ ?_, fun err hopen ↦ ⟨⟨_, rfl⟩, hnext, fun h ↦ ?_⟩⟩
  · rw [wp_bind, wp_call]
    refine ⟨fun _ hselect ↦ ⟨rfl, rfl, hopen, hselect⟩, fun err hselect ↦
      ⟨⟨_, rfl⟩, ?_, fun _ h ↦ ?_⟩⟩
    · exact Feed.passes.trans hnext feed.next.passes_next
    · cases hselect.symm.trans h
  · cases hopen.symm.trans h

/-- A register is read after its number has been written. -/
theorem wp_readRegister (device : LinuxI2cDevice) (register : UInt8) (feed : Host) :
    wp (device.readRegister register)
      (fun value after ↦ after = feed.next.next ∧
        (feed.ahead 0).i2cWrite device.bus device.address [register] = .ok () ∧
        (feed.ahead 1).i2cRead device.bus device.address = .ok value)
      (fun abort after ↦ (∃ err, abort = .error err) ∧ Feed.passes.rel feed after ∧
        ((feed.ahead 0).i2cWrite device.bus device.address [register] = .ok () →
          ∀ value, (feed.ahead 1).i2cRead device.bus device.address ≠ .ok value)) feed := by
  have hnext := feed.passes_next
  unfold LinuxI2cDevice.readRegister
  rw [wp_bind, wp_call]
  refine ⟨fun _ hwrite ↦ ?_, fun err hwrite ↦ ⟨⟨_, rfl⟩, hnext, fun h ↦ ?_⟩⟩
  · rw [wp_call]
    refine ⟨fun value hread ↦ ⟨rfl, hwrite, hread⟩, fun err hread ↦
      ⟨⟨_, rfl⟩, ?_, fun _ value h ↦ ?_⟩⟩
    · exact Feed.passes.trans hnext feed.next.passes_next
    · cases hread.symm.trans h
  · cases hwrite.symm.trans h

theorem judges_probeI2cAddr (bus : UInt8) (addr : UInt16) :
    Judges (probeI2cAddr bus addr) Found fun view ↦ view 4 (Answers bus addr) := by
  apply judges_window
  intro feed
  have hlost {result after} (hpasses : Feed.passes.rel feed after) (hbad : ¬ Found result)
      (hsilent : ¬ Answers bus addr feed.ahead) :
      Feed.passes.rel feed after ∧ (Found result ↔ Answers bus addr feed.ahead) ∧
        (Found result → feed.tick + 4 ≤ after.tick) :=
    ⟨hpasses, iff_of_false hbad hsilent, fun h ↦ absurd h hbad⟩
  unfold probeI2cAddr
  rw [wp_bind, wp_attempt]
  apply wp_mono (wp_openAt bus addr feed)
  · rintro device _ ⟨rfl, rfl, hopen, hselect⟩
    have htwo : Feed.passes.rel feed feed.next.next :=
      Feed.passes.trans feed.passes_next feed.next.passes_next
    rw [wp_bind, wp_attempt]
    apply wp_mono (wp_readRegister _ _ _)
    · rintro value _ ⟨rfl, hwrite, hread⟩
      have hfour := Feed.passes.trans htwo
        (Feed.passes.trans feed.next.next.passes_next feed.next.next.next.passes_next)
      dsimp only
      split
      · rename_i hvalue
        subst hvalue
        exact ⟨hfour, iff_of_true ⟨_, rfl⟩ ⟨hopen, hselect, hwrite, hread⟩, fun _ ↦ Nat.le_refl _⟩
      · rename_i hvalue
        apply hlost hfour
        · rintro ⟨detail, h⟩
          cases h
        · rintro ⟨-, -, -, h⟩
          exact hvalue (Except.ok.inj (hread.symm.trans h))
    · rintro _ after ⟨⟨err, rfl⟩, hpasses, hsilent⟩
      apply hlost (Feed.passes.trans htwo hpasses)
      · rintro ⟨detail, h⟩
        cases h
      · rintro ⟨-, -, hwrite, hread⟩
        exact hsilent hwrite _ hread
  · rintro _ after ⟨⟨err, rfl⟩, hpasses, hsilent⟩
    dsimp only
    split
    · apply hlost hpasses
      · rintro ⟨detail, h⟩
        cases h
      · rintro ⟨hopen, hselect, -⟩
        exact hsilent hopen hselect
    · apply hlost hpasses
      · rintro ⟨detail, h⟩
        cases h
      · rintro ⟨hopen, hselect, -⟩
        exact hsilent hopen hselect

/-- The buses are probed until one of them answers. -/
theorem judges_probeBuses (chip : UInt16) (buses : List UInt8) (unavailable : List String) :
    Judges (probeBuses chip buses unavailable) (·.isOk = true)
      fun view ↦ ∃ bus ∈ buses, view 4 (Answers bus chip) := by
  induction buses generalizing unavailable with
  | nil =>
    simp only [List.not_mem_nil, false_and, exists_false]
    exact judges_pure (by simp [Except.isOk, Except.toBool])
  | cons bus buses ih =>
    simp only [List.exists_mem_cons_iff]
    unfold probeBuses
    apply judges_orElse (judges_probeI2cAddr bus chip)
    · exact lasting_exists fun _ ↦ lasting_and (lasting_const _) (lasting_view _ _)
    · rintro _ ⟨detail, rfl⟩
      exact ⟨_, rfl, rfl⟩
    · intro result hresult
      cases result with
      | found detail => exact absurd ⟨detail, rfl⟩ hresult
      | missing => exact ih unavailable
      | unavailable detail => exact ih (unavailable ++ [detail])

theorem judges_clockchipReachable (env : Environment) (config : BoardConfig) :
    Judges (clockchipReachable env config) Passed fun view ↦
      ∃ bus, Candidate env config bus view ∧ view 4 (Answers bus (clockchipAddr env config)) := by
  apply judges_candidates fun _ ↦ lasting_view _ _
  intro buses
  cases buses with
  | nil =>
    simp only [List.not_mem_nil, false_and, exists_false]
    exact judges_pure (by simp [Passed, PreflightCheck.fail])
  | cons bus buses =>
    apply judges_report (judges_probeBuses (clockchipAddr env config) (bus :: buses) [])
    intro result
    cases result with
    | ok detail => exact ⟨_, rfl, iff_of_true rfl rfl⟩
    | error unavailable =>
      have hfailed : ¬ (Except.error unavailable : Except (List String) String).isOk = true :=
        Bool.false_ne_true
      cases unavailable with
      | nil => exact ⟨_, rfl, iff_of_false Bool.false_ne_true hfailed⟩
      | cons detail details => exact ⟨_, rfl, iff_of_false Bool.false_ne_true hfailed⟩

/-! ## The endpoint -/

theorem toUInt8_ofLe (byte : UInt8) (bytes : List UInt8) :
    (UInt32.ofNat (ofLe (byte :: bytes))).toUInt8 = byte := by
  apply UInt8.toNat_inj.mp
  have hbyte : byte.toNat < 256 := byte.toNat_lt
  simp only [ofLe, UInt32.toNat_toUInt8, UInt32.toNat_ofNat']
  omega

/-- A register is read in eight looks, the fourth of which is at its lowest byte. -/
theorem wp_readPhysU32 (address : UInt64) (feed : Host) :
    wp (readPhysU32 address)
      (fun value after ↦ after = ⟨feed.moments, feed.tick + 8⟩ ∧
        PhysRead address value.toUInt8 feed.ahead)
      (fun abort after ↦ (∃ err, abort = .error err) ∧ Feed.passes.rel feed after ∧
        ∀ byte, ¬ PhysRead address byte feed.ahead) feed := by
  unfold readPhysU32 PhysRead pageSize
  rw [wp_bind, wp_call]
  refine ⟨fun _ hopen ↦ ?_, fun err hopen ↦ ⟨⟨_, rfl⟩, ⟨rfl, by simp⟩, fun byte h ↦ ?_⟩⟩
  swap
  · cases hopen.symm.trans h.1
  rw [wp_bind, wp_bind, wp_observe]
  have htwo : Feed.passes.rel feed feed.next.next :=
    Feed.passes.trans feed.passes_next feed.next.passes_next
  split
  · rename_i hsize
    exact ⟨⟨_, rfl⟩, htwo, fun byte h ↦ absurd h.2.1 (Int64.not_lt.mpr hsize)⟩
  · rename_i hsize
    rw [wp_pure, wp_bind, wp_call]
    refine ⟨fun _ hmmap ↦ ?_, fun err hmmap ↦
      ⟨⟨_, rfl⟩, Feed.passes.trans htwo (Feed.passes_next _), fun byte h ↦ ?_⟩⟩
    · simp only [wp_bind, wp_observe]
      rw [wp_call, UInt64.add_comm (address &&& _), UInt64.sub_add_cancel]
      refine ⟨fun _ hmunmap ↦ ⟨rfl, hopen, Int64.not_le.mp hsize, hmmap, ?_, hmunmap⟩,
        fun err hmunmap ↦ ⟨⟨_, rfl⟩, ⟨rfl, Nat.le_add_right _ 8⟩, fun byte h ↦ ?_⟩⟩
      · exact (toUInt8_ofLe _ _).symm
      · cases hmunmap.symm.trans h.2.2.2.2
    · cases hmmap.symm.trans h.2.2.1

/-! ### The tests of a register -/

/-- A bit of the lowest byte. -/
theorem bitSet_iff {value bit : UInt32} (h : (1 <<< bit : UInt32).toNat < 256) :
    bitSet value bit = true ↔ value.toUInt8 &&& (1 <<< bit : UInt32).toUInt8 ≠ 0 := by
  have hsmall : (value &&& 1 <<< bit).toNat < 256 := by
    rw [UInt32.toNat_and]
    exact Nat.lt_of_le_of_lt Nat.and_le_right h
  rw [bitSet, bne_iff_ne, ← UInt32.toUInt8_and, not_iff_not]
  constructor
  · intro hzero
    rw [hzero]
    rfl
  · intro hzero
    have hnat := congrArg UInt8.toNat hzero
    rw [UInt32.toNat_toUInt8, Nat.mod_eq_of_lt hsmall] at hnat
    exact UInt32.toNat_inj.mp hnat

theorem endpointState_eq (status : EndpointRegisterStatus) :
    status.endpointState = status.endpointStatus.toUInt8 &&& 0xF := UInt32.toUInt8_and ..

/-- Both checks of the endpoint depend on the lowest bytes of two registers alone. -/
theorem endpointChecks_passed (states : List UInt8) (status : EndpointRegisterStatus) :
    (∀ check ∈ endpointChecks states status, Passed check) ↔
      LocksSet status.clockStatus.toUInt8 ∧ StateAccepted states status.endpointStatus.toUInt8 := by
  have hlocks : (status.mmcm0Locked && status.mmcm1Locked) = true ↔
      LocksSet status.clockStatus.toUInt8 := by
    rw [Bool.and_eq_true]
    exact and_congr (bitSet_iff (by decide)) (bitSet_iff (by decide))
  have hstate : (states.contains status.endpointState &&
      (status.endpointState != 0x8 || status.timestampOk)) = true ↔
      StateAccepted states status.endpointStatus.toUInt8 := by
    have htimestamp : status.timestampOk = true ↔ status.endpointStatus.toUInt8 &&& 0x10 ≠ 0 :=
      bitSet_iff (by decide)
    rw [Bool.and_eq_true, List.contains_iff_mem, Bool.or_eq_true, bne_iff_ne, htimestamp,
      endpointState_eq, StateAccepted, imp_iff_not_or]
  rw [← hlocks, ← hstate]
  unfold endpointChecks
  rw [List.forall_mem_cons, List.forall_mem_singleton]
  apply and_congr
  · split <;> simp_all [Passed, PreflightCheck.pass, PreflightCheck.fail]
  · split <;> simp_all [Passed, PreflightCheck.pass, PreflightCheck.fail]

/-- A byte that is read is the one that is there. -/
theorem PhysRead.unique {address : UInt64} {byte byte' : UInt8} {m : ℕ → Moment}
    (h : PhysRead address byte m) (h' : PhysRead address byte' m) : byte = byte' :=
  h.2.2.2.1.symm.trans h'.2.2.2.1

/-- The three registers are read one after the other. -/
theorem wp_readEndpointRegisterStatus (feed : Host) :
    wp readEndpointRegisterStatus
      (fun status after ↦ after = ⟨feed.moments, feed.tick + 24⟩ ∧
        PhysRead epClkCtrl status.clockControl.toUInt8 feed.ahead ∧
        PhysRead epClkStat status.clockStatus.toUInt8 (fun i ↦ feed.ahead (8 + i)) ∧
        PhysRead epStat status.endpointStatus.toUInt8 fun i ↦ feed.ahead (16 + i))
      (fun abort after ↦ (∃ err, abort = .error err) ∧ Feed.passes.rel feed after ∧
        ∀ states, ¬ EndpointUsable states feed.ahead) feed := by
  have hlater (k : ℕ) : Feed.passes.rel feed ⟨feed.moments, feed.tick + k⟩ :=
    ⟨rfl, Nat.le_add_right _ _⟩
  have hahead (k : ℕ) : Feed.ahead ⟨feed.moments, feed.tick + k⟩ = fun i ↦ feed.ahead (k + i) := by
    funext i
    exact congrArg feed.moments (Nat.add_assoc feed.tick k i)
  have hstatus := wp_readPhysU32 epClkStat ⟨feed.moments, feed.tick + 8⟩
  have hstate := wp_readPhysU32 epStat ⟨feed.moments, feed.tick + 16⟩
  rw [hahead] at hstatus hstate
  unfold readEndpointRegisterStatus
  rw [wp_bind]
  apply wp_mono (wp_readPhysU32 epClkCtrl feed)
  · rintro clockControl _ ⟨rfl, hcontrol⟩
    rw [wp_bind]
    apply wp_mono hstatus
    · rintro clockStatus _ ⟨rfl, hlocks⟩
      rw [wp_bind]
      apply wp_mono hstate
      · rintro endpointStatus _ ⟨rfl, hfsm⟩
        exact ⟨rfl, hcontrol, hlocks, hfsm⟩
      · rintro _ after ⟨herror, hpasses, hnone⟩
        refine ⟨herror, Feed.passes.trans (hlater 16) hpasses, fun states h ↦ ?_⟩
        obtain ⟨byte, hbyte, -⟩ := h.state
        exact hnone byte hbyte
    · rintro _ after ⟨herror, hpasses, hnone⟩
      refine ⟨herror, Feed.passes.trans (hlater 8) hpasses, fun states h ↦ ?_⟩
      obtain ⟨byte, hbyte, -⟩ := h.locks
      exact hnone byte hbyte
  · rintro _ after ⟨herror, hpasses, hnone⟩
    refine ⟨herror, hpasses, fun states h ↦ ?_⟩
    obtain ⟨byte, hbyte⟩ := h.control
    exact hnone byte hbyte

theorem judges_endpointRegisterChecks (env : Environment) (config : BoardConfig) :
    Judges (endpointRegisterChecks env config) (fun checks ↦ ∀ check ∈ checks, Passed check)
      fun view ↦ view 24 (EndpointUsable (endpointSuccessStates env config)) := by
  apply judges_window
  intro feed
  unfold endpointRegisterChecks
  rw [wp_bind, wp_attempt]
  apply wp_mono (wp_readEndpointRegisterStatus feed)
  · rintro status _ ⟨rfl, hcontrol, hlocks, hstate⟩
    refine ⟨⟨rfl, Nat.le_add_right _ _⟩, ?_, fun _ ↦ Nat.le_refl _⟩
    rw [endpointChecks_passed]
    constructor
    · exact fun h ↦ ⟨⟨_, hcontrol⟩, ⟨_, hlocks, h.1⟩, ⟨_, hstate, h.2⟩⟩
    · rintro ⟨-, ⟨locks, hlocks', hset⟩, ⟨state, hstate', haccepted⟩⟩
      rw [hlocks.unique hlocks', hstate.unique hstate']
      exact ⟨hset, haccepted⟩
  · rintro _ after ⟨⟨err, rfl⟩, hpasses, hnone⟩
    have hfailed : ¬ ∀ check ∈ [PreflightCheck.fail "endpoint_registers"
        s!"endpoint register read failed: {err}"], Passed check := by
      rw [List.forall_mem_singleton]
      exact Bool.false_ne_true
    exact ⟨hpasses, iff_of_false hfailed (hnone _), fun h ↦ absurd h hfailed⟩

/-! ## All checks -/

/-- The configuration as it is read from a tick on. -/
def configAt (moments : ℕ → Moment) (a : ℕ) : BoardConfig :=
  addFile (addFile (addFile (fun _ ↦ none) ((moments a).readToString "/etc/default/firmware"))
    ((moments (a + 1)).readToString "/etc/daphne-board.env"))
    ((moments (a + 2)).readToString "/etc/daphne-sc.env")

theorem run_readBoardConfig (feed : Host) :
    readBoardConfig feed = .ok (configAt feed.moments feed.tick) ⟨feed.moments, feed.tick + 3⟩ :=
      rfl

/-- The checks that are made once the configuration is known, each with what it judges. -/
def judgements (env : Environment) (config : BoardConfig) :
    List (Prog Empty Host PreflightCheck × (View Moment → Prop)) :=
  [(systemdUnitActive "firmware.service",
      fun view ↦ view 1 fun m ↦ UnitActive "firmware.service" (m 0)),
    (systemdUnitActive "clockchip.service",
      fun view ↦ view 1 fun m ↦ UnitActive "clockchip.service" (m 0)),
    (systemdUnitActive "endpoint.service",
      fun view ↦ view 1 fun m ↦ UnitActive "endpoint.service" (m 0)),
    (fileEquals "fpga_manager" "/sys/class/fpga_manager/fpga0/state" "operating".toList, fun view ↦
      view 1 fun m ↦ FileHolds "/sys/class/fpga_manager/fpga0/state" "operating".toList (m 0)),
    (pathExists "pl_i2c_device" "/sys/bus/platform/devices/9c000000.i2c",
      fun view ↦ view 1 fun m ↦ PathPresent "/sys/bus/platform/devices/9c000000.i2c" (m 0)),
    (pathExists "pl_spi_device" "/sys/bus/platform/devices/9c020000.axi_quad_spi",
      fun view ↦ view 1 fun m ↦
        PathPresent "/sys/bus/platform/devices/9c020000.axi_quad_spi" (m 0)),
    (anyI2cDevice env config, fun view ↦ ∃ bus, Candidate env config bus view),
    (pathExists "spi_device_node" "/dev/spidev3.0",
      fun view ↦ view 1 fun m ↦ PathPresent "/dev/spidev3.0" (m 0)),
    (anyRemoteprocDevice, fun view ↦ view 1 fun m ↦ RemoteprocPresent (m 0)),
    (clockchipReachable env config, fun view ↦
      ∃ bus, Candidate env config bus view ∧ view 4 (Answers bus (clockchipAddr env config)))]

theorem judges_judgements (env : Environment) (config : BoardConfig) :
    ∀ judgement ∈ judgements env config, Judges judgement.1 Passed judgement.2 := by
  simp only [judgements, List.forall_mem_cons]
  refine ⟨judges_systemdUnitActive _, judges_systemdUnitActive _, judges_systemdUnitActive _,
    judges_fileEquals _ _ _, judges_pathExists _ _, judges_pathExists _ _, judges_anyI2cDevice _ _,
    judges_pathExists _ _, judges_anyRemoteprocDevice, judges_clockchipReachable _ _, by simp⟩

/-- A bus that answers is a bus there is, so nothing is asked for twice. -/
theorem prerequisites_iff {env : Environment} {config : BoardConfig} {view : View Moment} :
    (∀ judgement ∈ judgements env config, judgement.2 view) ∧
      view 24 (EndpointUsable (endpointSuccessStates env config)) ↔
      Prerequisites env config view := by
  simp only [judgements, List.forall_mem_cons, List.not_mem_nil, false_imp_iff, implies_true,
    and_true]
  constructor
  · rintro ⟨⟨firmware, clockchip, endpoint, fpga, plI2c, plSpi, -, spi, remoteproc, chip⟩,
      registers⟩
    exact ⟨firmware, clockchip, endpoint, fpga, plI2c, plSpi, spi, remoteproc, chip, registers⟩
  · rintro ⟨firmware, clockchip, endpoint, fpga, plI2c, plSpi, spi, remoteproc, chip, registers⟩
    obtain ⟨bus, hbus, -⟩ := id chip
    exact ⟨⟨firmware, clockchip, endpoint, fpga, plI2c, plSpi, ⟨bus, hbus⟩, spi, remoteproc, chip⟩,
      registers⟩

/-- Everything but the reading of the configuration. -/
theorem judges_checks (env : Environment) (config : BoardConfig) :
    Judges ((judgements env config).mapM Prod.fst >>= fun checks ↦
      endpointRegisterChecks env config >>= fun endpoint ↦
        pure (PreflightStatus.mk (checks ++ endpoint)))
      (·.readyForHardwareCommands = true) (Prerequisites env config) := by
  have hseen : Prerequisites env config = fun view ↦
      (∀ judgement ∈ judgements env config, judgement.2 view) ∧
        view 24 (EndpointUsable (endpointSuccessStates env config)) :=
    funext fun _ ↦ propext prerequisites_iff.symm
  rw [hseen]
  apply judges_seq (judges_mapM (judges_judgements env config))
    (judges_endpointRegisterChecks env config)
  intro checks endpoint
  simp [PreflightStatus.readyForHardwareCommands, Passed]

theorem run_collect (env : Environment) (host : Host) :
    collect env host = ((judgements env (configAt host.moments host.tick)).mapM Prod.fst >>=
      fun checks ↦ endpointRegisterChecks env (configAt host.moments host.tick) >>=
        fun endpoint ↦ pure (PreflightStatus.mk (checks ++ endpoint)))
      ⟨host.moments, host.tick + 3⟩ := by
  unfold collect
  rw [run_bind, run_readBoardConfig]
  rfl

/-- The checks always come to a result, and it is good only if they have seen every prerequisite
met. -/
theorem collect_returns (env : Environment) (host : Host) :
    ∃ status after, collect env host = .ok status after ∧ Feed.passes.rel host after ∧
      (status.readyForHardwareCommands = true → Prerequisites env (configAt host.moments host.tick)
        (.during host.moments host.tick after.tick)) := by
  have h := judges_checks env (configAt host.moments host.tick)
  have hread : Feed.passes.rel host ⟨host.moments, host.tick + 3⟩ := ⟨rfl, Nat.le_add_right _ _⟩
  obtain ⟨status, after, hrun⟩ := h.returns ⟨host.moments, host.tick + 3⟩
  refine ⟨status, after, (run_collect env host).trans hrun,
    Feed.passes.trans hread (h.passes.ok hrun), fun hready ↦ ?_⟩
  have hseen := h.sound hrun hready
  exact h.lasting _ _ _ _ _ hseen hread.2 (Nat.le_refl _)

/-- The checks always come to a result. It is good only if every prerequisite was seen to be met
while they were made, and on a machine that stands still exactly if it meets the prerequisites. -/
theorem collect_decides (env : Environment) (host : Host) :
    ∃ status after, collect env host = .ok status after ∧ Feed.passes.rel host after ∧
      (status.readyForHardwareCommands = true → Prerequisites env (configAt host.moments host.tick)
        (.during host.moments host.tick after.tick)) ∧
      ∀ m, host.Steady m → (status.readyForHardwareCommands = true ↔
        Prerequisites env (configAt (fun _ ↦ m) 0) (.still m)) := by
  obtain ⟨status, after, hrun, hpasses, hready⟩ := collect_returns env host
  refine ⟨status, after, hrun, hpasses, hready, fun m hsteady ↦ ?_⟩
  have h := judges_checks env (configAt host.moments host.tick)
  have hread : Feed.passes.rel host ⟨host.moments, host.tick + 3⟩ := ⟨rfl, Nat.le_add_right _ _⟩
  have hconfig : configAt host.moments host.tick = configAt (fun _ ↦ m) 0 := by
    simp only [configAt, hsteady _ (Nat.le_refl _), hsteady _ (Nat.le_add_right _ _)]
  rw [h.exact (hsteady.of_passes hread) ((run_collect env host).symm.trans hrun), hconfig]

/-! A machine whose services fail once they have been asked for, and one on which the chip reads
something else. -/

/-- A machine that meets the prerequisites. The clock chip answers on the bus that is configured. -/
def readyMachine : Moment where
  now := 0
  unixNs := 0
  readToString path :=
    if path = "/sys/class/fpga_manager/fpga0/state" then .ok "operating\n".toList
    else if path = "/etc/daphne-board.env" then .ok "CLOCKCHIP_BUS=2\nCLOCKCHIP_ADDR=0x70\n".toList
    else .error "No such file or directory (os error 2)"
  pathExists _ := true
  readDir path :=
    if path = "/sys/class/remoteproc" then .ok [.ok (some "remoteproc0".toList)]
    else .ok [.ok (some "i2c-2".toList)]
  output _ _ := .ok ⟨true, "active\n".toList, []⟩
  openFile _ := .ok ()
  selectSlave bus _ := if bus = 2 then .ok () else .error "No such device (os error 19)"
  setPec _ _ _ := .ok ()
  i2cWrite _ _ _ := .ok ()
  i2cRead _ _ := .ok clockchipSanityValue
  smbusReadWord _ _ _ := .ok 0
  sysconfPageSize := (4096, "")
  mmap _ _ := .ok ()
  physical address := if address = epStat then 0x18 else if address = epClkStat then 0x03 else 0
  munmap _ := .ok ()

def failedMachine : Moment :=
  { readyMachine with output := fun _ _ ↦ .ok ⟨false, "failed\n".toList, []⟩ }

def fadingHost : Host := ⟨fun tick ↦ if tick < 6 then readyMachine else failedMachine, 0⟩

def strangeMachine : Moment := { readyMachine with i2cRead := fun _ _ ↦ .ok 0x07 }

def resultReady : EStateM.Result (Abort Empty) Host PreflightStatus → Bool
  | .ok status _ => status.readyForHardwareCommands
  | .error _ _ => false

theorem collect_decides_fading :
    (∃ status after, collect (fun _ ↦ none) fadingHost = .ok status after ∧
      status.readyForHardwareCommands = true ∧
      Prerequisites (fun _ ↦ none) (configAt fadingHost.moments 0)
        (.during fadingHost.moments 0 after.tick)) ∧
    ∃ status after, collect (fun _ ↦ none) ⟨fun _ ↦ strangeMachine, 0⟩ = .ok status after ∧
      status.readyForHardwareCommands = false ∧
      ¬ Prerequisites (fun _ ↦ none) (configAt (fun _ ↦ strangeMachine) 0)
        (.still strangeMachine) := by
  constructor
  · obtain ⟨status, after, hrun, -, hseen, -⟩ := collect_decides (fun _ ↦ none) fadingHost
    have hready : resultReady (collect (fun _ ↦ none) fadingHost) = true := by decide +kernel
    rw [hrun] at hready
    exact ⟨status, after, hrun, hready, hseen hready⟩
  · obtain ⟨status, after, hrun, -, -, hexact⟩ :=
      collect_decides (fun _ ↦ none) ⟨fun _ ↦ strangeMachine, 0⟩
    have hready : resultReady (collect (fun _ ↦ none) ⟨fun _ ↦ strangeMachine, 0⟩) = false := by
      decide +kernel
    rw [hrun] at hready
    refine ⟨status, after, hrun, hready, fun h ↦ ?_⟩
    have hmet := (hexact strangeMachine fun _ _ ↦ rfl).mpr h
    exact Bool.false_ne_true (hready.symm.trans hmet)

end DaphneSc.Server.Preflight
