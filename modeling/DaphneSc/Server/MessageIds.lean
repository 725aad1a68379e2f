import DaphneSc.Bits.Overlaid
import DaphneSc.Program.Within
import DaphneSc.Server.Router

/-!
# The numbers of the responses

Every response has a number made from the clock and from a counter that no other part of the server
touches. Which numbers meet is decided by the counter and by the clock at the two calls alone.
-/

namespace DaphneSc.Server.Router

open DaphneSc.Core Core.Rpu Pb Preflight Program SlowControl Handlers

variable {T E : Type}

/-! ## One response -/

/-- The number made from a clock reading and a counter value. -/
def msgIdOf (now seq : UInt64) : UInt64 := ((now <<< 16) ^^^ seq) &&& (((1 : UInt64) <<< 63) - 1)

theorem toNat_msgIdOf (now seq : UInt64) :
    (msgIdOf now seq).toNat = Bits.overlay 63 16 now.toNat seq.toNat := by
  have hmask : ((((1 : UInt64) <<< 63) - 1).toNat) = 2 ^ 63 - 1 := by decide
  have hshift : (now <<< 16).toNat = (now.toNat <<< 16) % 2 ^ 64 := UInt64.toNat_shiftLeft _ _
  calc (msgIdOf now seq).toNat
      = ((now.toNat <<< 16) % 2 ^ 64 ^^^ seq.toNat) % 2 ^ 63 := by
        rw [msgIdOf, UInt64.toNat_and, UInt64.toNat_xor, hmask, hshift,
          Nat.and_two_pow_sub_one_eq_mod]
    _ = ((now.toNat <<< 16) ^^^ seq.toNat) % 2 ^ 63 := by
        rw [Nat.xor_mod_two_pow, Nat.mod_mod_of_dvd _ (Nat.pow_dvd_pow 2 (by decide)),
          ← Nat.xor_mod_two_pow]
    _ = Bits.overlay 63 16 now.toNat seq.toNat := rfl

section Response

variable [HostEnvironment E]

/-- What a call leaves behind: the counter is one further, and the clock was read twice. -/
theorem run_makeResponse (req : ControlEnvelopeV2) (payload : List UInt8) (backend : Backend T E) :
    ∃ response host,
      makeResponse req payload backend =
        .ok response { backend with nextMsgSeq := backend.nextMsgSeq + 1, host := host } ∧
      response.msgId = msgIdOf (HostEnvironment.nowNs backend.host).1 backend.nextMsgSeq :=
  ⟨_, _, rfl, rfl⟩

/-! ## Responses one after another -/

/-- The responses made since the start, each with the clock reading its number was made from.
Between two of them the server may do anything that leaves the counter as it is. -/
inductive Responses : List (UInt64 × ControlEnvelopeV2) → Backend T E → Prop
  | start {backend : Backend T E} (h : backend.nextMsgSeq = 1) : Responses [] backend
  | between {log : List (UInt64 × ControlEnvelopeV2)} {backend later : Backend T E}
      (before : Responses log backend) (h : later.nextMsgSeq = backend.nextMsgSeq) :
      Responses log later
  | response {log : List (UInt64 × ControlEnvelopeV2)} {backend after : Backend T E}
      {req made : ControlEnvelopeV2} {payload : List UInt8} (before : Responses log backend)
      (h : makeResponse req payload backend = .ok made after) :
      Responses (log ++ [((HostEnvironment.nowNs backend.host).1, made)]) after

/-- The counter counts the responses, and the numbers are made from the positions. -/
theorem Responses.numbers {log : List (UInt64 × ControlEnvelopeV2)} {backend : Backend T E}
    (h : Responses log backend) :
    backend.nextMsgSeq = UInt64.ofNat (log.length + 1) ∧
      log.map (·.2.msgId) = log.mapIdx fun i sent ↦ msgIdOf sent.1 (UInt64.ofNat (i + 1)) := by
  induction h with
  | start h => exact ⟨h, rfl⟩
  | between _ h ih => exact ⟨h.trans ih.1, ih.2⟩
  | @response log backend after req made payload _ h ih =>
    obtain ⟨response, host, hrun, hid⟩ := run_makeResponse req payload backend
    obtain ⟨rfl, rfl⟩ : response = made ∧ _ = after := by simpa [hrun] using h
    constructor
    · change backend.nextMsgSeq + 1 = _
      rw [ih.1, List.length_append, UInt64.ofNat_add, UInt64.ofNat_add, UInt64.ofNat_add]
      rfl
    · rw [List.map_append, List.mapIdx_append, ih.2]
      simp [hid, ih.1]

/-- A call and a later one get the same number from these clock readings. -/
def Meet (i j : ℕ) (early late : UInt64) : Prop :=
  (i + 1) % 2 ^ 16 = (j + 1) % 2 ^ 16 ∧
    (early.toNat ^^^ late.toNat) % 2 ^ 47 = ((i + 1) / 2 ^ 16 ^^^ (j + 1) / 2 ^ 16) % 2 ^ 47

theorem msgIdOf_eq_iff {i j : ℕ} (hi : i < 2 ^ 63) (hj : j < 2 ^ 63) (early late : UInt64) :
    msgIdOf early (UInt64.ofNat (i + 1)) = msgIdOf late (UInt64.ofNat (j + 1)) ↔
      Meet i j early late := by
  have hcounter : ∀ k < 2 ^ 63, (UInt64.ofNat (k + 1)).toNat = k + 1 := by
    intro k hk
    rw [UInt64.toNat_ofNat', Nat.mod_eq_of_lt (by omega)]
  rw [← UInt64.toNat_inj, toNat_msgIdOf, toNat_msgIdOf, hcounter i hi, hcounter j hj]
  exact Bits.overlay_eq_iff (by decide) _ _ _ _

/-- The numbers of the responses are pairwise distinct exactly when no two calls meet: their
counters agree in the low sixteen bits, and in the next forty-seven the clocks differ as the
counters do. -/
theorem msgIds_distinct_iff {log : List (UInt64 × ControlEnvelopeV2)} {backend : Backend T E}
    (h : Responses log backend) (hlength : log.length < 2 ^ 63) :
    (log.map (·.2.msgId)).Nodup ↔
      ∀ i j early late, i < j → log[i]? = some early → log[j]? = some late →
        ¬ Meet i j early.1 late.1 := by
  rw [h.numbers.2, List.Nodup, List.pairwise_iff_getElem]
  simp only [List.length_mapIdx, List.getElem_mapIdx]
  constructor
  · intro hdistinct i j early late hlt hi hj hmeet
    obtain ⟨hi', rfl⟩ := List.getElem?_eq_some_iff.mp hi
    obtain ⟨hj', rfl⟩ := List.getElem?_eq_some_iff.mp hj
    exact hdistinct i j hi' hj' hlt
      ((msgIdOf_eq_iff (hi'.trans hlength) (hj'.trans hlength) _ _).mpr hmeet)
  · intro hapart i j hi hj hlt heq
    exact hapart i j _ _ hlt (List.getElem?_eq_getElem hi) (List.getElem?_eq_getElem hj)
      ((msgIdOf_eq_iff (hi.trans hlength) (hj.trans hlength) _ _).mp heq)

/-! ## Clocks that are set between the responses -/

/-- A host whose clock stands still at a time. -/
structure SetHost where
  now : UInt64

instance : HostEnvironment SetHost where
  nowNs host := (host.now, host)
  collectSlowControlStatus _ _ := stop

/-- Any clock readings can be those of a run. -/
theorem exists_responses (readings : List UInt64) :
    ∃ (log : List (UInt64 × ControlEnvelopeV2)) (backend : Backend Unit SetHost),
      Responses log backend ∧ log.map (·.1) = readings := by
  induction readings using List.reverseRecOn with
  | nil => exact ⟨[], ⟨(), ⟨0⟩, 1⟩, .start rfl, rfl⟩
  | append_singleton readings now ih =>
    obtain ⟨log, backend, hlog, hreadings⟩ := ih
    let later : Backend Unit SetHost := { backend with host := ⟨now⟩ }
    have hset : Responses log later := hlog.between rfl
    obtain ⟨made, host, hmade, -⟩ := run_makeResponse {} [] later
    refine ⟨_, _, hset.response hmade, ?_⟩
    rw [List.map_append, hreadings]
    rfl

/-- Two responses at the same time have different numbers. -/
theorem msgIds_distinct_at_once :
    ∃ (log : List (UInt64 × ControlEnvelopeV2)) (backend : Backend Unit SetHost),
      Responses log backend ∧ log.map (·.1) = [7, 7] ∧ (log.map (·.2.msgId)).Nodup := by
  obtain ⟨log, backend, hlog, hreadings⟩ := exists_responses [7, 7]
  have hlength : log.length = 2 := by simpa using congrArg List.length hreadings
  refine ⟨log, backend, hlog, hreadings, (msgIds_distinct_iff hlog (by omega)).mpr ?_⟩
  intro i j early late hlt hi hj hmeet
  have hj' := List.getElem?_eq_some_iff.mp hj
  obtain ⟨rfl, rfl⟩ : i = 0 ∧ j = 1 := by
    have := hj'.1
    omega
  exact absurd hmeet.1 (by decide)

/-- Two calls that meet, with a clock that stands still in between. -/
theorem exists_repeat {n : ℕ} {early late : UInt64} (hle : early ≤ late) (hpos : 0 < n)
    (hn : n < 2 ^ 63) (hmeet : Meet 0 n early late) :
    ∃ (log : List (UInt64 × ControlEnvelopeV2)) (backend : Backend Unit SetHost),
      Responses log backend ∧ (log.map (·.1)).Pairwise (· ≤ ·) ∧ log.length = n + 1 ∧
        ¬ (log.map (·.2.msgId)).Nodup := by
  obtain ⟨log, backend, hlog, hreadings⟩ := exists_responses (List.replicate n early ++ [late])
  have hlength : log.length = n + 1 := by simpa using congrArg List.length hreadings
  refine ⟨log, backend, hlog, ?_, hlength, ?_⟩
  · rw [hreadings, List.pairwise_append]
    refine ⟨List.pairwise_replicate.mpr (.inr (UInt64.le_refl _)), List.pairwise_singleton _ _, ?_⟩
    intro a ha b hb
    rw [List.eq_of_mem_replicate ha, List.mem_singleton.mp hb]
    exact hle
  · intro hnodup
    have hnumber (i : ℕ) (now : UInt64) (hnow : (log.map (·.1))[i]? = some now) :
        (log.map (·.2.msgId))[i]? = some (msgIdOf now (UInt64.ofNat (i + 1))) := by
      rw [List.getElem?_map, Option.map_eq_some_iff] at hnow
      obtain ⟨sent, hsent, rfl⟩ := hnow
      rw [hlog.numbers.2, List.getElem?_mapIdx, hsent, Option.map_some]
    have hfirst := hnumber 0 early (by
      rw [hreadings, List.getElem?_append_left (by simpa using hpos), List.getElem?_replicate,
        if_pos hpos])
    have hlast := hnumber n late (by
      rw [hreadings, List.getElem?_append_right (by simp), List.length_replicate, Nat.sub_self]
      rfl)
    have hsame := (msgIdOf_eq_iff (Nat.two_pow_pos 63) hn early late).mpr hmeet
    have hzero : 0 = n := (List.getElem?_inj (by simp [hlength]) hnodup).mp (by
      rw [hfirst, hlast, hsame])
    omega

/-- The first response and the one made when the counter has come round in its low part, nearly
forty hours later: the clock has changed in the bit in which the counter has. -/
theorem msgIds_repeat :
    ¬ ∀ (log : List (UInt64 × ControlEnvelopeV2)) (backend : Backend Unit SetHost),
      Responses log backend → (log.map (·.1)).Pairwise (· ≤ ·) → log.length < 2 ^ 63 →
      (log.map (·.2.msgId)).Nodup := by
  intro hclaim
  have hmeet : Meet 0 65536 1700000000000000000 1700140737488355329 :=
    ⟨by decide, by decide⟩
  obtain ⟨log, backend, hlog, hordered, hlength, hrepeat⟩ :=
    exists_repeat (by decide) (by decide) (by decide) hmeet
  exact hrepeat (hclaim log backend hlog hordered (by omega))

/-! ## The responses of the server -/

section Envelopes

variable [RpuAfeTransport T] (prost : Prost)

/-- The counter stays as it is. -/
abbrev keepsCounter : Bound (Backend T E) := .keeps Backend.nextMsgSeq

omit [HostEnvironment E] [RpuAfeTransport T] in
theorem keepsCounter_rpu {ε α : Type} (m : Prog ε T α) :
    Within (keepsCounter : Bound (Backend T E)) (zoom Backend.rpuLens m) :=
  within_zoom (within_top m) fun _ _ _ ↦ rfl

omit [RpuAfeTransport T] [HostEnvironment E] in
theorem keepsCounter_host {ε α : Type} (m : Prog ε E α) :
    Within (keepsCounter : Bound (Backend T E)) (zoom Backend.hostLens m) :=
  within_zoom (within_top m) fun _ _ _ ↦ rfl

theorem keepsCounter_handleSlowControlStatus (payload : List UInt8) (preflight : PreflightStatus) :
    Within (keepsCounter : Bound (Backend T E))
      (handleSlowControlStatus prost payload preflight) := by
  unfold handleSlowControlStatus
  split
  · exact within_pure _
  · apply within_bind (within_attempt (keepsCounter_rpu _))
    intro rpuStatusResult
    exact within_bind (keepsCounter_host _) fun _ ↦ within_pure _

theorem keepsCounter_handlePayload (messageType : Int32) (payload : List UInt8)
    (preflight : PreflightStatus) :
    Within (keepsCounter : Bound (Backend T E))
      (handlePayload prost messageType payload preflight) := by
  unfold handlePayload
  split
  · exact within_pure _
  · split
    · split
      · exact keepsCounter_rpu _
      · unfold runLocal
        split
        · exact within_pure _
        · exact within_stop
    · unfold handleLinuxStatus
      split
      · split <;> exact within_pure _
      · split <;> exact within_pure _
      · exact within_pure _
      · exact keepsCounter_handleSlowControlStatus prost payload preflight
      · exact within_pure _
    · exact within_pure _
    · exact within_pure _

/-- An envelope that is handled adds its response, if it has one, to the responses made. -/
theorem Responses.handleEnvelope {log : List (UInt64 × ControlEnvelopeV2)}
    {backend after : Backend T E} (before : Responses log backend) {payload : List UInt8}
    {preflight : PreflightStatus} {answer : Option (List UInt8)}
    (h : handleEnvelope prost payload preflight backend = .ok answer after) :
    (answer = none ∧ Responses log after) ∨
      ∃ now made, answer = some (prost.encodeToVec made) ∧
        Responses (log ++ [(now, made)]) after := by
  unfold Router.handleEnvelope at h
  cases hdecode : (prost.decode payload : Except DecodeError ControlEnvelopeV2) with
  | error err =>
    rw [hdecode] at h
    cases h
    exact .inl ⟨rfl, before⟩
  | ok req =>
    rw [hdecode] at h
    dsimp only at h
    by_cases hrequest : req.version ≠ 2 ∨ req.dir ≠ dirRequest
    · rw [if_pos hrequest] at h
      cases h
      exact .inl ⟨rfl, before⟩
    · rw [if_neg hrequest, run_bind] at h
      cases hpayload : handlePayload prost req.type req.payload preflight backend with
      | error abort backend' =>
        rw [hpayload] at h
        cases h
      | ok responsePayload backend' =>
        rw [hpayload] at h
        dsimp only at h
        have hkept := (keepsCounter_handlePayload prost req.type req.payload preflight).ok hpayload
        rw [run_bind] at h
        obtain ⟨made, host, hmade, -⟩ := run_makeResponse req responsePayload backend'
        rw [hmade] at h
        cases h
        exact .inr ⟨_, made, rfl, .response (before.between hkept) hmade⟩

end Envelopes

end Response

end DaphneSc.Server.Router
