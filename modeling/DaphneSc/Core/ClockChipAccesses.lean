import Mathlib.Logic.Function.Basic
import DaphneSc.Core.ClockChip
import DaphneSc.Program.Scripted
import DaphneSc.Program.Simulated
import DaphneSc.Program.Within

/-!
# What the clock chip sees

On any bus, programming the clock chip makes the accesses of a script: the selected part of the
table in order, and then the reset sequence. It returns when it is through with the script, and ends
early only at an access of it that fails or reads another value, so the reset register is not
touched before the table is done. On a bus that stores what is written, it comes through, and so
does a verification after it.
-/

namespace DaphneSc.Core.ClockChip

open Program

/-! ## A bus with a record -/

inductive Request where
  | write (register value : UInt8)
  | read (register : UInt8)
  deriving DecidableEq

/-- An access with what became of it. -/
inductive Access (X : Type) where
  | write (register value : UInt8) (outcome : Except (Abort X) Unit)
  | read (register : UInt8) (outcome : Except (Abort X) UInt8)

def Access.request {X : Type} : Access X → Request
  | .write register value _ => .write register value
  | .read register _ => .read register

/-- A bus together with the accesses made to it, oldest first. -/
structure Watched (B X : Type) where
  bus : B
  accesses : List (Access X) := []

section Programs

variable {B X : Type} [ClockChipBus B X]

/-- Make an access and keep it with its outcome. -/
def Watched.access {α : Type} (entry : Except (Abort X) α → Access X) (m : Prog X B α) :
    Prog X (Watched B X) α := fun watched ↦
  match m watched.bus with
  | .ok a bus => .ok a ⟨bus, watched.accesses ++ [entry (.ok a)]⟩
  | .error e bus => .error e ⟨bus, watched.accesses ++ [entry (.error e)]⟩

omit [ClockChipBus B X] in
theorem wp_access {α : Type} (entry : Except (Abort X) α → Access X) (m : Prog X B α)
    {Q : α → Watched B X → Prop} {E : Abort X → Watched B X → Prop} (watched : Watched B X) :
    wp (Watched.access entry m) Q E watched ↔
      wp m (fun a bus ↦ Q a ⟨bus, watched.accesses ++ [entry (.ok a)]⟩)
        (fun e bus ↦ E e ⟨bus, watched.accesses ++ [entry (.error e)]⟩) watched.bus := by
  unfold wp Watched.access
  cases m watched.bus <;> rfl

instance : ClockChipBus (Watched B X) X where
  writeRegister register value :=
    Watched.access (.write register value) (ClockChipBus.writeRegister register value)
  readRegister register := Watched.access (.read register) (ClockChipBus.readRegister register)
  resetDelay watched := { watched with bus := ClockChipBus.resetDelay watched.bus }

/-! The record changes nothing. -/

omit [ClockChipBus B X] in
theorem simulates_access {α : Type} (entry : Except (Abort X) α → Access X) (m : Prog X B α) :
    Simulates Watched.bus (Watched.access entry m) m := by
  intro watched
  unfold Watched.access
  cases m watched.bus <;> rfl

theorem simulates_verifyRegister (entry : ClockChipRegister) :
    Simulates Watched.bus (verifyRegister entry : Prog (ClockChipError X) (Watched B X) Unit)
      (verifyRegister entry) := by
  apply simulates_bind (simulates_mapError _ (simulates_access _ _))
  intro actual
  unfold failIf
  split
  · exact fun _ ↦ rfl
  · exact simulates_pure _

theorem simulates_programRegister (options : ClockChipProgramOptions) (report : ClockChipReport)
    (entry : ClockChipRegister) :
    Simulates Watched.bus
      (programRegister options report entry : Prog (ClockChipError X) (Watched B X) _)
      (programRegister options report entry) := by
  unfold programRegister
  split
  · exact simulates_pure _
  · apply simulates_bind (simulates_mapError _ (simulates_access _ _))
    intro _
    dsimp only
    split
    · exact simulates_bind (simulates_verifyRegister entry) fun _ ↦ simulates_pure _
    · exact simulates_pure _

theorem simulates_resetPulse (report : ClockChipReport) (value : UInt8) :
    Simulates Watched.bus (resetPulse report value : Prog (ClockChipError X) (Watched B X) _)
      (resetPulse report value) := by
  apply simulates_bind (simulates_mapError _ (simulates_access _ _))
  intro _
  exact simulates_bind (fun _ ↦ rfl) fun _ ↦ simulates_pure _

/-- Programming runs alike with the record and without. -/
theorem simulates_programClockChip (options : ClockChipProgramOptions) :
    Simulates Watched.bus
      (programClockChip options : Prog (ClockChipError X) (Watched B X) ClockChipReport)
      (programClockChip options) := by
  apply simulates_bind (simulates_foldlM (simulates_programRegister options) _ _)
  intro report
  split
  · exact simulates_foldlM simulates_resetPulse _ _
  · exact simulates_pure _

/-! ## The script -/

/-- The accesses for one register of the table. -/
def entryAccesses (X : Type) (options : ClockChipProgramOptions) (entry : ClockChipRegister) :
    List (Access X) :=
  .write entry.register entry.value (.ok ()) ::
    if options.verify then [.read entry.register (.ok entry.value)] else []

/-- The selected registers in the order of the table. -/
def tableAccesses (X : Type) (options : ClockChipProgramOptions) : List (Access X) :=
  options.selected.flatMap (entryAccesses X options)

def resetAccesses (X : Type) (options : ClockChipProgramOptions) : List (Access X) :=
  if options.reset then
    clockchipResetSequence.map fun value ↦ .write clockchipResetRegister value (.ok ())
  else
    []

/-- The report at the end of the script. -/
def finalReport (options : ClockChipProgramOptions) : ClockChipReport where
  written := options.selected.length
  verified := if options.verify then options.selected.length else 0
  resetPulses := if options.reset then 2 else 0

/-- A program on a watched bus that makes the accesses of a script. -/
abbrev Makes {ε α : Type} (script : List (Access X)) (a : α) (m : Prog ε (Watched B X) α) : Prop :=
  Scripted Watched.accesses Access.request script a m

theorem makes_write (register value : UInt8) :
    Makes [.write register value (.ok ())] ()
      (ClockChipBus.writeRegister register value : Prog X (Watched B X) Unit) := by
  intro watched
  apply (wp_access _ _ watched).mpr
  apply wp_of_forall
  · exact fun _ _ ↦ ⟨rfl, rfl⟩
  · exact fun e _ ↦ ⟨_, rfl, ⟨[], _, [], _, rfl, rfl, rfl⟩⟩

theorem makes_verifyRegister (entry : ClockChipRegister) :
    Makes [.read entry.register (.ok entry.value)] ()
      (verifyRegister entry : Prog (ClockChipError X) (Watched B X) Unit) := by
  intro watched
  unfold verifyRegister
  rw [wp_bind, wp_mapError]
  apply (wp_access _ _ watched).mpr
  apply wp_of_forall
  · intro actual bus
    rw [wp_failIf]
    constructor
    · intro hsame
      rw [not_not.mp hsame]
      exact ⟨rfl, rfl⟩
    · intro _
      exact ⟨_, rfl, ⟨[], _, [], _, rfl, rfl, rfl⟩⟩
  · intro e bus
    cases e <;> exact ⟨_, rfl, ⟨[], _, [], _, rfl, rfl, rfl⟩⟩

/-- What one register of the table adds to the report. -/
def countEntry (options : ClockChipProgramOptions) (report : ClockChipReport)
    (entry : ClockChipRegister) : ClockChipReport :=
  if options.includes entry.register then
    { report with
      written := report.written + 1
      verified := if options.verify then report.verified + 1 else report.verified }
  else
    report

theorem makes_programRegister (options : ClockChipProgramOptions) (report : ClockChipReport)
    (entry : ClockChipRegister) :
    Makes (if options.includes entry.register then entryAccesses X options entry else [])
      (countEntry options report entry)
      (programRegister options report entry : Prog (ClockChipError X) (Watched B X) _) := by
  unfold programRegister countEntry entryAccesses
  cases hincludes : options.includes entry.register with
  | false => exact scripted_pure _
  | true =>
    have hwrite : Makes [.write entry.register entry.value (.ok ())] ()
        (mapError (.bus entry.register .write)
          (ClockChipBus.writeRegister entry.register entry.value) :
          Prog (ClockChipError X) (Watched B X) Unit) := (makes_write _ _).mapError _
    cases hverify : options.verify with
    | false => exact hwrite.bind (scripted_pure _)
    | true => exact hwrite.bind ((makes_verifyRegister entry).bind (scripted_pure _))

theorem makes_resetPulse (report : ClockChipReport) (value : UInt8) :
    Makes [.write clockchipResetRegister value (.ok ())]
      { report with resetPulses := report.resetPulses + 1 }
      (resetPulse report value : Prog (ClockChipError X) (Watched B X) _) := by
  have hdelay : Makes [] PUnit.unit
      (modify ClockChipBus.resetDelay : Prog (ClockChipError X) (Watched B X) PUnit) :=
    scripted_modify fun _ ↦ rfl
  exact ((makes_write _ _).mapError _).bind (hdelay.bind (scripted_pure _))

omit [ClockChipBus B X] in
theorem flatMap_selected (options : ClockChipProgramOptions) :
    (clockchipRegisters.flatMap fun entry ↦
      if options.includes entry.register then entryAccesses X options entry else []) =
      tableAccesses X options := by
  unfold tableAccesses ClockChipProgramOptions.selected
  induction clockchipRegisters with
  | nil => rfl
  | cons entry entries ih =>
    rw [List.flatMap_cons, ih, List.filter_cons]
    split <;> simp

theorem foldl_countEntry (options : ClockChipProgramOptions) (entries : List ClockChipRegister)
    (report : ClockChipReport) :
    entries.foldl (countEntry options) report =
      let selected := entries.filter fun entry ↦ options.includes entry.register
      { report with
        written := report.written + selected.length
        verified := report.verified + if options.verify then selected.length else 0 } := by
  induction entries generalizing report with
  | nil => simp
  | cons entry entries ih =>
    rw [List.foldl_cons, ih]
    unfold countEntry
    cases hincludes : options.includes entry.register <;>
      cases hverify : options.verify <;> simp [hincludes] <;> omega

/-- Programming follows the script of the table and the reset sequence. -/
theorem makes_programClockChip (options : ClockChipProgramOptions) :
    Makes (tableAccesses X options ++ resetAccesses X options) (finalReport options)
      (programClockChip options : Prog (ClockChipError X) (Watched B X) _) := by
  have htable := Scripted.foldlM (makes_programRegister (B := B) (X := X) options)
    clockchipRegisters {}
  rw [flatMap_selected, foldl_countEntry] at htable
  apply htable.bind
  unfold resetAccesses finalReport
  cases hreset : options.reset with
  | false =>
    simpa [ClockChipProgramOptions.selected] using scripted_pure _
  | true =>
    have hpulses := Scripted.foldlM (makes_resetPulse (B := B) (X := X)) clockchipResetSequence
      { written := options.selected.length
        verified := if options.verify then options.selected.length else 0 }
    simpa [ClockChipProgramOptions.selected, clockchipResetSequence] using hpulses

/-! ## A bus that stores -/

/-- The bus never fails, and the registers are those last written. -/
structure Stores (registers : B → UInt8 → UInt8) : Prop where
  write : ∀ register value bus, ∃ after,
    ClockChipBus.writeRegister register value bus = .ok () after ∧
      registers after = Function.update (registers bus) register value
  read : ∀ register bus, ∃ after,
    ClockChipBus.readRegister register bus = .ok (registers bus register) after ∧
      registers after = registers bus
  delay : ∀ bus, registers (ClockChipBus.resetDelay bus) = registers bus

section Stores

variable {registers : B → UInt8 → UInt8}

theorem Stores.wp_write (h : Stores registers) {ε : Type} {f : X → ε} {register value : UInt8}
    {Q : Unit → B → Prop} {E : Abort ε → B → Prop} {bus : B}
    (hQ : ∀ after, registers after = Function.update (registers bus) register value → Q () after) :
    wp (mapError f (ClockChipBus.writeRegister register value)) Q E bus := by
  obtain ⟨after, hrun, hafter⟩ := h.write register value bus
  rw [wp_mapError]
  simp only [wp, hrun]
  exact hQ after hafter

theorem Stores.wp_verifyRegister (h : Stores registers) {entry : ClockChipRegister}
    {Q : Unit → B → Prop} {E : Abort (ClockChipError X) → B → Prop} {bus : B}
    (hvalue : registers bus entry.register = entry.value)
    (hQ : ∀ after, registers after = registers bus → Q () after) :
    wp (verifyRegister entry) Q E bus := by
  obtain ⟨after, hrun, hafter⟩ := h.read entry.register bus
  unfold verifyRegister
  rw [wp_bind, wp_mapError]
  simp only [wp, hrun]
  rw [failIf, if_neg (not_not.mpr hvalue)]
  exact hQ after hafter

/-- Programming comes through and leaves the selected registers as the table has them. -/
theorem Stores.wp_programClockChip (h : Stores registers) (options : ClockChipProgramOptions)
    (bus : B) :
    wp (programClockChip options : Prog (ClockChipError X) B ClockChipReport)
      (fun _ after ↦ ∀ entry ∈ options.selected, registers after entry.register = entry.value)
      (fun _ _ ↦ False) bus := by
  let Written (visited : List ClockChipRegister) (bus : B) : Prop :=
    ∀ entry ∈ visited, options.includes entry.register = true →
      registers bus entry.register = entry.value
  have htable : wp (clockchipRegisters.foldlM (programRegister options) {} :
      Prog (ClockChipError X) B _) (fun _ after ↦ Written clockchipRegisters after)
      (fun _ _ ↦ False) bus := by
    apply wp_foldlM fun visited _ after ↦ Written visited after
    · intro visited entry rest report bus hsplit hwritten
      have hne : ∀ earlier ∈ visited, earlier.register ≠ entry.register := by
        have hpairs := registers_ne
        rw [hsplit, List.pairwise_append] at hpairs
        exact fun earlier hearlier ↦ hpairs.2.2 earlier hearlier entry List.mem_cons_self
      unfold programRegister
      cases hincludes : options.includes entry.register with
      | false =>
        intro earlier hearlier hincluded
        rcases List.mem_append.mp hearlier with hold | hnew
        · exact hwritten earlier hold hincluded
        · rw [List.mem_singleton.mp hnew, hincludes] at hincluded
          cases hincluded
      | true =>
        have hstored (after : B) (hafter : registers after =
            Function.update (registers bus) entry.register entry.value) :
            Written (visited ++ [entry]) after := by
          intro earlier hearlier hincluded
          rw [hafter]
          rcases List.mem_append.mp hearlier with hold | hnew
          · rw [Function.update_of_ne (hne earlier hold)]
            exact hwritten earlier hold hincluded
          · rw [List.mem_singleton.mp hnew, Function.update_self]
        change wp (mapError _ _ >>= _) _ _ bus
        rw [wp_bind]
        apply h.wp_write
        intro after hafter
        cases hverify : options.verify with
        | false => exact hstored after hafter
        | true =>
          change wp (verifyRegister entry >>= _) _ _ after
          rw [wp_bind]
          apply h.wp_verifyRegister
          · rw [hafter, Function.update_self]
          · intro last hlast
            exact hstored last (hlast.trans hafter)
    · exact fun _ hnone ↦ absurd hnone List.not_mem_nil
  have hselected (after : B) (hwritten : Written clockchipRegisters after) :
      ∀ entry ∈ options.selected, registers after entry.register = entry.value := by
    intro entry hentry
    obtain ⟨hmem, hincludes⟩ := List.mem_filter.mp hentry
    exact hwritten entry hmem hincludes
  unfold programClockChip
  rw [wp_bind]
  apply wp_mono htable _ fun _ _ hfalse ↦ hfalse
  intro report after hwritten
  cases hreset : options.reset with
  | false => exact hselected after hwritten
  | true =>
    apply wp_mono (wp_foldlM (fun _ _ after ↦ Written clockchipRegisters after) _ _ hwritten)
      (fun _ after hwritten ↦ hselected after hwritten) fun _ _ hfalse ↦ hfalse
    intro visited value rest report bus _ hwritten
    unfold resetPulse
    rw [wp_bind]
    apply h.wp_write
    intro after hafter entry hentry hincluded
    rw [h.delay, hafter, Function.update_of_ne (register_ne_reset hentry)]
    exact hwritten entry hentry hincluded

/-- A verification of registers that are as the table has them comes through. -/
theorem Stores.wp_verifyClockChip (h : Stores registers) (options : ClockChipProgramOptions)
    {bus : B} (hselected : ∀ entry ∈ options.selected, registers bus entry.register = entry.value) :
    wp (verifyClockChip options.ranges : Prog (ClockChipError X) B ClockChipReport)
      (fun report _ ↦ report = { verified := options.selected.length })
      (fun _ _ ↦ False) bus := by
  let Checked (visited : List ClockChipRegister) (report : ClockChipReport) (after : B) : Prop :=
    report = { verified := (visited.filter fun entry ↦ options.includes entry.register).length } ∧
      registers after = registers bus
  have hloop : wp (verifyClockChip options.ranges : Prog (ClockChipError X) B ClockChipReport)
      (Checked clockchipRegisters) (fun _ _ ↦ False) bus := by
    unfold verifyClockChip
    apply wp_foldlM Checked
    · rintro visited entry rest report after hsplit ⟨rfl, hregisters⟩
      have hsame : ({ verify := true, reset := false, ranges := options.ranges } :
          ClockChipProgramOptions).includes entry.register = options.includes entry.register := rfl
      unfold checkRegister
      rw [hsame]
      cases hincludes : options.includes entry.register with
      | false => exact ⟨by simp [hincludes], hregisters⟩
      | true =>
        change wp (verifyRegister entry >>= _) _ _ after
        rw [wp_bind]
        apply h.wp_verifyRegister
        · rw [hregisters]
          apply hselected entry (List.mem_filter.mpr ⟨_, hincludes⟩)
          rw [hsplit]
          exact List.mem_append_right _ List.mem_cons_self
        · intro last hlast
          exact ⟨by simp [hincludes], hlast.trans hregisters⟩
    · exact ⟨rfl, rfl⟩
  exact wp_mono hloop (fun _ _ hend ↦ hend.1) fun _ _ hfalse ↦ hfalse

end Stores

/-! ## Main result -/

omit [ClockChipBus B X] in
/-- The table does not touch the reset register. -/
theorem reset_not_mem_tableAccesses (options : ClockChipProgramOptions) (value : UInt8) :
    Request.write clockchipResetRegister value ∉ (tableAccesses X options).map Access.request := by
  intro hmem
  obtain ⟨access, haccess, hrequest⟩ := List.mem_map.mp hmem
  obtain ⟨entry, hentry, haccess⟩ := List.mem_flatMap.mp haccess
  have hne := register_ne_reset (List.mem_of_mem_filter hentry)
  unfold entryAccesses at haccess
  cases List.mem_cons.mp haccess with
  | inl hwrite =>
    rw [hwrite] at hrequest
    exact hne (Request.write.inj hrequest).1
  | inr hread =>
    split at hread
    · rw [List.mem_singleton.mp hread] at hrequest
      cases hrequest
    · exact absurd hread List.not_mem_nil

/-- On any bus, a programming that returns has made the accesses of the selected table and then of
the reset sequence, and reports their counts. One that fails has made the beginning of them, without
a reset write before the table was done. On a bus that stores, programming and a verification of the
same ranges both return. -/
theorem programClockChip_accesses (options : ClockChipProgramOptions) (bus : B) :
    (∀ report after,
      (programClockChip options : Prog (ClockChipError X) (Watched B X) _) ⟨bus, []⟩ =
        .ok report after →
      after.accesses = tableAccesses X options ++ resetAccesses X options ∧
        report = finalReport options) ∧
    (∀ abort after,
      (programClockChip options : Prog (ClockChipError X) (Watched B X) _) ⟨bus, []⟩ =
        .error abort after →
      after.accesses.map Access.request <+:
          (tableAccesses X options ++ resetAccesses X options).map Access.request ∧
        ∀ value, .write clockchipResetRegister value ∈ after.accesses.map Access.request →
          tableAccesses X options <+: after.accesses) ∧
    ∀ registers : B → UInt8 → UInt8, Stores registers → ∃ report after final,
      (programClockChip options : Prog (ClockChipError X) B _) bus = .ok report after ∧
        (verifyClockChip options.ranges : Prog (ClockChipError X) B _) after =
          .ok { verified := options.selected.length } final := by
  have hscript := makes_programClockChip (B := B) (X := X) options
  refine ⟨?_, ?_, ?_⟩
  · intro report after hrun
    obtain ⟨hreport, haccesses⟩ := hscript.ok hrun
    exact ⟨haccesses, hreport⟩
  · intro abort after hrun
    obtain ⟨entries, haccesses, hcut⟩ := hscript.error hrun
    rw [List.nil_append] at haccesses
    rw [haccesses]
    constructor
    · exact hcut.requests_prefix
    · exact fun value ↦ hcut.prefix_of_mem (reset_not_mem_tableAccesses options value)
  · intro registers hstores
    obtain ⟨report, after, hrun, hwritten⟩ := ok_of_wp (hstores.wp_programClockChip options bus)
    obtain ⟨verified, final, hverify, rfl⟩ := ok_of_wp (hstores.wp_verifyClockChip options hwritten)
    exact ⟨report, after, final, hrun, hverify⟩

end Programs

/-- A bus that is nothing but its registers. -/
structure FakeBus where
  registers : UInt8 → UInt8

instance : ClockChipBus FakeBus Empty where
  writeRegister register value := modify fun bus ↦ ⟨Function.update bus.registers register value⟩
  readRegister register := do return (← get).registers register
  resetDelay bus := bus

theorem stores_fakeBus : Stores FakeBus.registers where
  write _ _ _ := ⟨_, rfl, rfl⟩
  read _ _ := ⟨_, rfl, rfl⟩
  delay _ := rfl

/-- The registers `0x1C` to `0x1E`, programmed and then verified. -/
theorem programClockChip_accesses_range :
    let options : ClockChipProgramOptions := { ranges := [.new 0x1C 0x1E] }
    ∃ report after final,
      (programClockChip options : Prog (ClockChipError Empty) FakeBus _) ⟨fun _ ↦ 0⟩ =
        .ok report after ∧
      (verifyClockChip options.ranges : Prog (ClockChipError Empty) FakeBus _) after =
        .ok { verified := 3 } final := by
  intro options
  have hselected : options.selected.length = 3 := by decide +kernel
  rw [← hselected]
  exact (programClockChip_accesses options (⟨fun _ ↦ 0⟩ : FakeBus)).2.2 _ stores_fakeBus

end DaphneSc.Core.ClockChip
