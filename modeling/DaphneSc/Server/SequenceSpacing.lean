import DaphneSc.Numbering.Spread
import DaphneSc.Server.WireRecord

/-!
# Sequence numbers around the end of the counter

Two allocators move the counter of sequence numbers: a status takes one number and a command
reserves a block. After the largest number the first one starts again at one; the second does so
early, when its block does not fit before the end. A run therefore issues numbers around a circle of
all nonzero ones, with at most one block passed over in each turn.
-/

namespace DaphneSc.Server.Rpmsg

open DaphneSc.Core Core.Afe Core.RpuWire Core.Rpu Program RpmsgAfeTransport Numbering

/-! ## What a run issues -/

section Issues

variable {F : Type}

/-- Consecutive numbers. -/
def reservedBlock (first : UInt64) (count : ℕ) : List UInt64 :=
  (List.range count).map fun i ↦ first + UInt64.ofNat i

/-- The numbers that a call takes or reserves, in order. -/
def issuedBy (transport : RpmsgAfeTransport F) : HostCall → List UInt64
  | .status =>
    match takeSequence transport with
    | .ok sequence _ => [sequence]
    | .error _ _ => []
  | .submit command =>
    match command.validate, RpuWireCommand.frameCountForAfeCommand command with
    | .ok _, .ok count =>
      match reserveSequences count transport with
      | .ok first _ => reservedBlock first count
      | .error _ _ => []
    | _, _ => []

/-- A number that was issued, and whether a frame with it was sent. -/
structure Issue where
  sequence : UInt64
  sent : Bool
  deriving DecidableEq

variable [RpmsgFile F]

/-- The issues of a call: its frames use the first of its numbers. -/
def issuesOfCall (transport : RpmsgAfeTransport F) (call : HostCall) : List Issue :=
  (issuedBy transport call).mapIdx fun i sequence ↦
    ⟨sequence, decide (i < (exchanges transport call).length)⟩

def issuesOfRun : List HostCall → RpmsgAfeTransport F → List Issue
  | [], _ => []
  | call :: calls, transport =>
    issuesOfCall transport call ++ issuesOfRun calls (afterCall transport call)

end Issues

/-! ## The circle -/

/-- How many numbers there are. -/
def circle : ℕ := 2 ^ 64 - 1

theorem circle_add_one : circle + 1 = 2 ^ 64 := rfl

/-- The largest block. -/
def largestBlock : ℕ := 2 ^ 17

theorem largestBlock_eq : largestBlock = 131072 := rfl

/-- The number at a position of the line. -/
def numberAt (position : ℕ) : ℕ := position % circle + 1

theorem frameCount_bounds {command : AfeCommand} {count : ℕ}
    (h : RpuWireCommand.frameCountForAfeCommand command = .ok count) :
    1 ≤ count ∧ count ≤ largestBlock := by
  cases command
  case configureFrontend afes channels biasControl =>
    obtain ⟨hafes, hchannels, rfl⟩ := RpuWireCommand.frameCountForAfeCommand_eq_ok_iff.mp h
    exact ⟨by omega, by rw [largestBlock_eq]; omega⟩
  all_goals
    cases h
    exact ⟨Nat.le_refl 1, by decide⟩

theorem map_toNat_reservedBlock {first : UInt64} {count : ℕ}
    (h : first.toNat + count ≤ 2 ^ 64) :
    (reservedBlock first count).map UInt64.toNat = List.range' first.toNat count := by
  rw [reservedBlock, List.map_map, List.range'_eq_map_range]
  apply List.map_congr_left
  intro i hi
  have hlt : i < count := List.mem_range.mp hi
  rw [Function.comp_apply, UInt64.toNat_add, UInt64.toNat_ofNat', Nat.mod_eq_of_lt (by omega),
    Nat.mod_eq_of_lt (by omega)]

section Allocators

variable {F : Type} {transport : RpmsgAfeTransport F} {position : ℕ}

/-- The counter stands at a position. -/
def StandsAt (transport : RpmsgAfeTransport F) (position : ℕ) : Prop :=
  transport.nextSequence.toNat = numberAt position

theorem StandsAt.bounds (h : StandsAt transport position) :
    1 ≤ transport.nextSequence.toNat ∧ transport.nextSequence.toNat ≤ circle := by
  have hlt := Nat.mod_lt position (by decide : 0 < circle)
  rw [h, numberAt]
  exact ⟨Nat.le_add_left _ _, hlt⟩

/-- The numbers of positions that do not cross a full turn are consecutive. -/
theorem numberAt_add {count : ℕ} (h : numberAt position + count ≤ circle) :
    numberAt (position + count) = numberAt position + count := by
  unfold numberAt at h ⊢
  rw [Nat.add_mod, Nat.mod_eq_of_lt (a := position % circle + count % circle)]
  all_goals rw [Nat.mod_eq_of_lt (a := count) (by omega)]
  all_goals omega

theorem map_numberAt_range' {count : ℕ} (h : numberAt position + count ≤ circle + 1) :
    (List.range' position count).map numberAt = List.range' (numberAt position) count := by
  rw [List.range'_eq_map_range, List.range'_eq_map_range, List.map_map]
  apply List.map_congr_left
  intro i hi
  have hlt : i < count := List.mem_range.mp hi
  exact numberAt_add (by omega)

/-- A block that does not fit starts at one again. -/
theorem reserveSequences_restart {count : ℕ} (hpositive : 1 ≤ count) (hcount : count ≤ largestBlock)
    (hfull : 2 ^ 64 ≤ transport.nextSequence.toNat + count) :
    reserveSequences count transport =
      .ok 1 { transport with nextSequence := 1 + UInt64.ofNat count } := by
  rw [largestBlock_eq] at hcount
  have hlt : count < 2 ^ 64 := by omega
  have htoNat : (UInt64.ofNat count).toNat = count := by
    rw [UInt64.toNat_ofNat', Nat.mod_eq_of_lt hlt]
  have hzero : UInt64.ofNat count ≠ 0 := by
    intro h
    rw [h] at htoNat
    exact absurd htoNat.symm (Nat.one_le_iff_ne_zero.mp hpositive)
  have hover : transport.nextSequence > u64Max - UInt64.ofNat count := by
    have hle : UInt64.ofNat count ≤ u64Max := by
      rw [UInt64.le_iff_toNat_le, htoNat]
      change count ≤ 2 ^ 64 - 1
      omega
    rw [gt_iff_lt, UInt64.lt_iff_toNat_lt, UInt64.toNat_sub_of_le _ _ hle, htoNat]
    change 2 ^ 64 - 1 - count < _
    omega
  have hone : (1 : UInt64).toNat = 1 := rfl
  have hsum : (1 + UInt64.ofNat count).toNat = 1 + count := by
    rw [UInt64.toNat_add, htoNat, hone, Nat.mod_eq_of_lt (by omega)]
  unfold reserveSequences
  rw [if_pos hlt]
  dsimp only
  rw [run_get_bind, if_neg hzero, if_pos hover, run_modify_bind, saturatingAdd, htoNat, hone,
    if_pos (by omega), max_one_of_positive]
  · rfl
  · rw [hsum]
    exact Nat.le_add_right _ _

/-- Reserving a block, with the positions it takes. -/
theorem reserveSequences_stands (h : StandsAt transport position) {count : ℕ}
    (hpositive : 1 ≤ count) (hcount : count ≤ largestBlock) :
    ∃ start first next, reserveSequences count transport =
        .ok first { transport with nextSequence := next } ∧
      position ≤ start ∧
      start ≤ position + largestBlock * (start / circle - position / circle) ∧
      first.toNat = numberAt start ∧ numberAt start + count ≤ circle ∧
      next.toNat = numberAt (start + count) := by
  obtain ⟨hfirst, -⟩ := h.bounds
  rcases Nat.lt_or_ge (transport.nextSequence.toNat + count) (2 ^ 64) with hfree | hfull
  · obtain ⟨next, hnext, hreserve⟩ :=
      reserveSequences_eq hfree (UInt64.le_iff_toNat_le.mpr hfirst)
    have hroom : numberAt position + count ≤ circle := by
      rw [← h]
      exact Nat.le_of_lt_succ (hfree.trans_eq circle_add_one.symm)
    refine ⟨position, transport.nextSequence, next, hreserve, Nat.le_refl _,
      Nat.le_add_right _ _, h, hroom, ?_⟩
    rw [hnext, numberAt_add hroom, h]
  · -- The rest of the turn is passed over; it is shorter than the block.
    have hdiv := Nat.div_add_mod position circle
    have hmod := Nat.mod_lt position (by decide : 0 < circle)
    have hstart : circle * (position / circle + 1) / circle = position / circle + 1 :=
      Nat.mul_div_cancel_left _ (by decide)
    have hnumber : numberAt (circle * (position / circle + 1)) = 1 := by
      rw [numberAt, Nat.mul_mod_right]
    have hroom : numberAt (circle * (position / circle + 1)) + count ≤ circle := by
      have hcircle := circle_add_one
      have hblock := largestBlock_eq
      omega
    have hlast : circle ≤ position % circle + count := by
      have hstands : transport.nextSequence.toNat = position % circle + 1 := h
      have hcircle := circle_add_one
      omega
    refine ⟨circle * (position / circle + 1), 1, _, reserveSequences_restart hpositive hcount hfull,
      ?_, ?_, hnumber.symm, hroom, ?_⟩
    · rw [Nat.mul_add, Nat.mul_one]
      omega
    · rw [hstart, Nat.add_sub_cancel_left, Nat.mul_one, Nat.mul_add, Nat.mul_one]
      omega
    · rw [numberAt_add hroom, hnumber, UInt64.toNat_add, UInt64.toNat_ofNat',
        Nat.mod_eq_of_lt (a := count) (by have hblock := largestBlock_eq; omega)]
      exact Nat.mod_eq_of_lt (by change 1 + count < 2 ^ 64; have hblock := largestBlock_eq; omega)

/-- Taking one number. -/
theorem takeSequence_stands (h : StandsAt transport position) :
    ∃ next, takeSequence transport =
        .ok transport.nextSequence { transport with nextSequence := next } ∧
      next.toNat = numberAt (position + 1) := by
  obtain ⟨-, hlast⟩ := h.bounds
  rcases Nat.lt_or_ge (transport.nextSequence.toNat + 1) (2 ^ 64) with hfree | hfull
  · obtain ⟨next, hnext, htake⟩ := takeSequence_eq hfree
    refine ⟨next, htake, ?_⟩
    have hroom : numberAt position + 1 ≤ circle := by
      rw [← h]
      exact Nat.le_of_lt_succ (hfree.trans_eq circle_add_one.symm)
    rw [hnext, h, numberAt_add hroom]
  · -- After the largest number comes one.
    have hcircle := circle_add_one
    have hmax : transport.nextSequence.toNat = 2 ^ 64 - 1 := by omega
    have heq : transport.nextSequence = u64Max := UInt64.toNat_inj.mp hmax
    have hposition : position % circle + 1 = circle := by
      have hstands : transport.nextSequence.toNat = position % circle + 1 := h
      omega
    have hwrap : numberAt (position + 1) = 1 := by
      rw [numberAt, Nat.add_mod, Nat.mod_eq_of_lt (a := 1) (by decide), hposition, Nat.mod_self]
    refine ⟨1, ?_, hwrap.symm⟩
    unfold takeSequence
    rw [run_get_bind, run_modify_bind, heq]
    rfl

/-! ## One call -/

/-- A command that is prepared was valid, and its frames carry the block that was reserved. -/
theorem prepareFrames_eq_ok {command : AfeCommand} {count : ℕ} {frames : List RpuWireCommand}
    {after : RpmsgAfeTransport F} (h : StandsAt transport position)
    (hprepare : prepareFrames command transport = .ok (count, frames) after) :
    ∃ first, RpuWireCommand.frameCountForAfeCommand command = .ok count ∧
      issuedBy transport (.submit command) = reservedBlock first count ∧
      frames.map (·.sequence) = reservedBlock first count ∧
      frames.map (fun frame ↦ frame.sequence.toNat) = List.range' first.toNat count ∧
      1 ≤ first.toNat ∧ first.toNat + count ≤ 2 ^ 64 := by
  simp only [prepareFrames, bind_eq_ok_iff] at hprepare
  obtain ⟨checked, s₁, hvalid, count', s₂, hcount, first, s₃, hreserve, frames', s₄, hframes,
    hresult⟩ := hprepare
  cases hresult
  cases hvalid' : command.validate with
  | error err => simp [hvalid', Except.mapError, run_fail] at hvalid
  | ok _ =>
    cases hcount' : RpuWireCommand.frameCountForAfeCommand command with
    | error err => simp [hcount', Except.mapError, run_fail] at hcount
    | ok n =>
      cases hbuilt : RpuWireCommand.fromAfeCommandSequence first command with
      | error err => simp [hbuilt, Except.mapError, run_fail] at hframes
      | ok built =>
        rw [hvalid'] at hvalid
        rw [hcount'] at hcount
        rw [hbuilt] at hframes
        cases hvalid
        cases hcount
        cases hframes
        obtain ⟨hpositive, hle⟩ := frameCount_bounds hcount'
        obtain ⟨start, first', next, hreserve', -, -, hfirst, hroom, -⟩ :=
          reserveSequences_stands h hpositive hle
        have hsame : first' = first := by
          rw [hreserve'] at hreserve
          cases hreserve
          rfl
        rw [hsame] at hfirst hreserve'
        have hcircle := circle_add_one
        have hone : 1 ≤ first.toNat := by
          rw [hfirst]
          exact Nat.le_add_left _ _
        have hlast : first.toNat + count ≤ 2 ^ 64 := by omega
        have hnumbers := sequences_of_command hcount' hbuilt (UInt64.le_iff_toNat_le.mpr hone) hlast
        refine ⟨first, rfl, ?_, ?_, hnumbers, hone, hlast⟩
        · simp only [issuedBy, hvalid', hcount', hreserve']
        · have hinjective : Function.Injective UInt64.toNat := fun _ _ ↦ UInt64.toNat_inj.mp
          apply List.map_injective_iff.mpr hinjective
          rw [map_toNat_reservedBlock hlast, List.map_map]
          exact hnumbers

variable [RpmsgFile F]

theorem exchangesOfFrames_isPrefix (frames : List RpuWireCommand)
    (transport : RpmsgAfeTransport F) :
    (exchangesOfFrames frames transport).map (·.command) <+: frames := by
  induction frames generalizing transport with
  | nil => exact List.prefix_rfl
  | cons frame frames ih =>
    rw [exchangesOfFrames, List.map_cons]
    apply (List.prefix_cons_inj frame).mpr
    cases transact frame transport with
    | ok reply after => exact ih after
    | error abort after => exact List.nil_prefix

/-- The frames that a call sends carry the first of the numbers it issues. -/
theorem exchanges_isPrefix (h : StandsAt transport position) (call : HostCall) :
    (exchanges transport call).map (·.command.sequence) <+: issuedBy transport call := by
  cases call with
  | status =>
    obtain ⟨next, htake, -⟩ := takeSequence_stands h
    simp only [exchanges, issuedBy, htake]
    exact List.prefix_rfl
  | submit command =>
    rw [exchanges]
    cases hprepare : prepareFrames command transport with
    | error abort after => exact List.nil_prefix
    | ok prepared after =>
      obtain ⟨count, frames⟩ := prepared
      obtain ⟨first, -, hissued, hframes, -⟩ := prepareFrames_eq_ok h hprepare
      have hsent := (exchangesOfFrames_isPrefix frames after).map (·.sequence)
      rw [List.map_map, hframes] at hsent
      rw [hissued]
      exact hsent

/-- The numbers of a call, as positions. -/
theorem afterCall_stands (h : StandsAt transport position) (call : HostCall) :
    ∃ start count, position ≤ start ∧
      start ≤ position + largestBlock * (start / circle - position / circle) ∧
      (issuedBy transport call).map UInt64.toNat = (List.range' start count).map numberAt ∧
      StandsAt (afterCall transport call) (start + count) := by
  cases call with
  | status =>
    obtain ⟨next, htake, hnext⟩ := takeSequence_stands h
    refine ⟨position, 1, Nat.le_refl _, Nat.le_add_right _ _, ?_, ?_⟩
    · simp only [issuedBy, htake]
      exact congrArg (fun n ↦ [n]) h
    · rw [afterCall_status, htake]
      have hkeeps := Bound.keeps_rel.mp ((within_transact (.status transport.nextSequence)).final
        { transport with nextSequence := next })
      exact (congrArg UInt64.toNat hkeeps).trans hnext
  | submit command =>
    cases hvalid : command.validate with
    | error err =>
      refine ⟨position, 0, Nat.le_refl _, Nat.le_add_right _ _, ?_, ?_⟩
      · simp only [issuedBy, hvalid]
        rfl
      · rw [afterCall_submit]
        simp only [prepareFrames, hvalid, Except.mapError, ofResult_error, fail_bind, run_fail]
        exact h
    | ok _ =>
      cases hcount : RpuWireCommand.frameCountForAfeCommand command with
      | error err =>
        refine ⟨position, 0, Nat.le_refl _, Nat.le_add_right _ _, ?_, ?_⟩
        · simp only [issuedBy, hvalid, hcount]
          rfl
        · rw [afterCall_submit]
          simp only [prepareFrames, hvalid, hcount, Except.mapError, ofResult_ok, pure_bind,
            ofResult_error, fail_bind, run_fail]
          exact h
      | ok count =>
        obtain ⟨hpositive, hle⟩ := frameCount_bounds hcount
        obtain ⟨start, first, next, hreserve, hafter, hskip, hfirst, hroom, hnext⟩ :=
          reserveSequences_stands h hpositive hle
        have hcircle := circle_add_one
        refine ⟨start, count, hafter, hskip, ?_, ?_⟩
        · simp only [issuedBy, hvalid, hcount, hreserve]
          rw [map_toNat_reservedBlock (by omega), map_numberAt_range' (by omega), hfirst]
        · rw [afterCall_submit]
          simp only [prepareFrames, hvalid, hcount, Except.mapError, ofResult_ok, pure_bind]
          rw [run_bind, hreserve]
          dsimp only
          rw [run_bind]
          cases RpuWireCommand.fromAfeCommandSequence first command with
          | error err => exact hnext
          | ok frames =>
            change (afterFrames frames _).nextSequence.toNat = _
            rw [nextSequence_afterFrames]
            exact hnext

end Allocators

/-! ## Runs -/

theorem filter_sent_mapIdx (sequences : List UInt64) (count : ℕ) :
    ((sequences.mapIdx fun i sequence ↦ Issue.mk sequence (decide (i < count))).filter
      (·.sent)).map (·.sequence) = sequences.take count := by
  induction sequences generalizing count with
  | nil => simp
  | cons sequence sequences ih =>
    cases count with
    | zero =>
      rw [List.take_zero, List.map_eq_nil_iff, List.filter_eq_nil_iff]
      intro issue hissue
      obtain ⟨i, hi, rfl⟩ := List.mem_mapIdx.mp hissue
      simp
    | succ count => simpa [List.mapIdx_cons] using ih count

section Runs

variable {F : Type} [RpmsgFile F]

theorem map_sequence_issuesOfCall (transport : RpmsgAfeTransport F) (call : HostCall) :
    (issuesOfCall transport call).map (·.sequence) = issuedBy transport call := by
  apply List.ext_getElem
  · simp [issuesOfCall]
  · intro i _ _
    simp [issuesOfCall]

/-- The issues of a run lie at positions that are spread around the circle. -/
theorem issuesOfRun_spread (calls : List HostCall) {transport : RpmsgAfeTransport F}
    {positions : List ℕ} {next : ℕ} (hspread : Spread circle largestBlock positions next)
    (hstands : StandsAt transport next) :
    ∃ issued next', Spread circle largestBlock (positions ++ issued) next' ∧
      (issuesOfRun calls transport).map (fun issue ↦ issue.sequence.toNat) =
        issued.map numberAt ∧ StandsAt (afterRun calls transport) next' := by
  induction calls generalizing transport positions next with
  | nil => exact ⟨[], next, by simpa using hspread, rfl, hstands⟩
  | cons call calls ih =>
    obtain ⟨start, count, hstart, hskip, hissued, hafter⟩ := afterCall_stands hstands call
    obtain ⟨issued, next', hspread', hrest, hend⟩ :=
      ih ((hspread.skip_to hstart hskip).issue_block count) hafter
    refine ⟨List.range' start count ++ issued, next', ?_, ?_, hend⟩
    · rwa [← List.append_assoc]
    · have hcall : (issuesOfCall transport call).map (fun issue ↦ issue.sequence.toNat) =
          (List.range' start count).map numberAt := by
        rw [← hissued, ← map_sequence_issuesOfCall, List.map_map]
        rfl
      rw [issuesOfRun, List.map_append, List.map_append, hcall, hrest]

/-- The frames of a run are sent with the issued numbers that are marked as sent. -/
theorem filter_sent_issuesOfRun (calls : List HostCall) {transport : RpmsgAfeTransport F}
    {position : ℕ} (hstands : StandsAt transport position) :
    ((issuesOfRun calls transport).filter (·.sent)).map (·.sequence) =
      (exchangesOfRun calls transport).map (·.command.sequence) := by
  induction calls generalizing transport position with
  | nil => rfl
  | cons call calls ih =>
    obtain ⟨start, count, -, -, -, hafter⟩ := afterCall_stands hstands call
    have hcall : ((issuesOfCall transport call).filter (·.sent)).map (·.sequence) =
        (exchanges transport call).map (·.command.sequence) := by
      rw [issuesOfCall, filter_sent_mapIdx]
      have htake := List.prefix_iff_eq_take.mp (exchanges_isPrefix hstands call)
      rw [List.length_map] at htake
      exact htake.symm
    rw [issuesOfRun, exchangesOfRun, List.filter_append, List.map_append, List.map_append, hcall,
      ih hafter]

/-- The numbers go from one up, so none that is issued is zero. -/
theorem sequence_ne_zero_of_issued {issues : List Issue} {positions : List ℕ}
    (hissues : issues.map (fun issue ↦ issue.sequence.toNat) = positions.map numberAt)
    {issue : Issue} (hmem : issue ∈ issues) : issue.sequence ≠ 0 := by
  intro hzero
  have hnumber : issue.sequence.toNat ∈ positions.map numberAt := by
    rw [← hissues]
    exact List.mem_map_of_mem (f := fun issue ↦ issue.sequence.toNat) hmem
  obtain ⟨position, -, hposition⟩ := List.mem_map.mp hnumber
  rw [hzero] at hposition
  exact absurd hposition (Nat.succ_ne_zero _)

/-- Two issues of one number lie a full turn apart, of which a block may have been skipped. -/
theorem turn_le_of_issued {issues : List Issue} {positions : List ℕ} {next : ℕ}
    (hspread : Spread circle largestBlock positions next)
    (hissues : issues.map (fun issue ↦ issue.sequence.toNat) = positions.map numberAt)
    {i j : ℕ} {first second : Issue} (hij : i < j) (hi : issues[i]? = some first)
    (hj : issues[j]? = some second) (hsequence : first.sequence = second.sequence) :
    2 ^ 64 - 2 ^ 18 ≤ j - i - 1 := by
  have hposition : ∀ (k : ℕ) (issue : Issue), issues[k]? = some issue →
      ∃ position, positions[k]? = some position ∧ numberAt position = issue.sequence.toNat := by
    intro k issue hk
    have hnumber := congrArg (fun numbers ↦ numbers[k]?) hissues
    simp only [List.getElem?_map] at hnumber
    rw [hk] at hnumber
    cases hget : positions[k]? with
    | none => simp [hget] at hnumber
    | some position =>
      rw [hget] at hnumber
      exact ⟨position, rfl, (Option.some.inj hnumber).symm⟩
  obtain ⟨a, ha, hfirst⟩ := hposition i first hi
  obtain ⟨b, hb, hsecond⟩ := hposition j second hj
  rw [hsequence] at hfirst
  have hsame : a % circle = b % circle := Nat.succ.inj (hfirst.trans hsecond.symm)
  have hturn := hspread.turn_le hij ha hb hsame
  have hcircle := circle_add_one
  have hblock := largestBlock_eq
  omega

omit [RpmsgFile F] in
theorem stands_open (file : F) (timeout : ℕ) : StandsAt (RpmsgAfeTransport.open file timeout) 0 :=
  rfl

/-- From a freshly opened transport, whatever is called and however it ends: the file is given
exactly the frames of the run's transactions to write; the numbers on the wire are the issued ones
that were sent, and none is zero; the frames of a command carry exactly the block that was reserved
for it, without wrapping; and two issues of one number are almost a full turn apart. -/
theorem issues_spaced (file : F) (timeout : ℕ) (calls : List HostCall) :
    let start := RpmsgAfeTransport.open file timeout
    let watched := afterRun calls (RpmsgAfeTransport.open (⟨file, []⟩ : WatchedFile F) timeout)
    let issues := issuesOfRun calls start
    (unwatched watched = afterRun calls start ∧
        watched.file.written = (exchangesOfRun calls start).map (·.command.encode)) ∧
      (exchangesOfRun calls start).map (·.command.sequence) =
        (issues.filter (·.sent)).map (·.sequence) ∧
      (∀ exchange ∈ exchangesOfRun calls start, exchange.command.sequence ≠ 0) ∧
      (∀ command count frames after,
        prepareFrames command (afterRun calls start) = .ok (count, frames) after →
        RpuWireCommand.frameCountForAfeCommand command = .ok count ∧
          frames.map (·.sequence) = issuedBy (afterRun calls start) (.submit command) ∧
          frames.length = count ∧ ∃ first, 1 ≤ first ∧ first + count ≤ 2 ^ 64 ∧
            frames.map (fun frame ↦ frame.sequence.toNat) = List.range' first count) ∧
      ∀ (i j : ℕ) (sequence : UInt64), i < j → issues[i]? = some ⟨sequence, true⟩ →
        issues[j]? = some ⟨sequence, true⟩ → 2 ^ 64 - 2 ^ 18 ≤ j - i - 1 := by
  intro start watched issues
  have hstands : StandsAt start 0 := stands_open file timeout
  have hsent := filter_sent_issuesOfRun calls hstands
  obtain ⟨positions, next, hspread, hissues, hend⟩ :=
    issuesOfRun_spread calls (spread_nil 0) hstands
  rw [List.nil_append] at hspread
  refine ⟨afterRun_watched calls _, hsent.symm, ?_, ?_, ?_⟩
  · intro exchange hmem
    have hmem' : exchange.command.sequence ∈
        (exchangesOfRun calls start).map (·.command.sequence) := List.mem_map_of_mem hmem
    rw [← hsent] at hmem'
    obtain ⟨issue, hissue, hsequence⟩ := List.mem_map.mp hmem'
    rw [← hsequence]
    exact sequence_ne_zero_of_issued hissues (List.mem_filter.mp hissue).1
  · intro command count frames after hprepare
    obtain ⟨first, hcount, hissued, hframes, hnumbers, hone, hlast⟩ :=
      prepareFrames_eq_ok hend hprepare
    refine ⟨hcount, hframes.trans hissued.symm, ?_, first.toNat, hone, hlast, hnumbers⟩
    have hlength := congrArg List.length hnumbers
    simpa using hlength
  · intro i j sequence hij hi hj
    exact turn_le_of_issued hspread hissues hij hi hj rfl

end Runs

end DaphneSc.Server.Rpmsg
