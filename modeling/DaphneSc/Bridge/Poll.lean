import DaphneSc.Bridge.SendRequest
import DaphneSc.Bridge.V8Snapshot

/-!
# Polling a board

A poll asks for a snapshot first. When that fails for any reason, two older requests are tried
instead, whose answers hold a few scalars only. A poll always ends with a status.
-/

namespace DaphneSc.Bridge

open Program V8

/-- What the canonical nodes are written from. The copies for the older namespace are left out. -/
structure DaphneStatus where
  connected : Bool := false
  success : Bool := false
  (vBias0 vBias1 vBias2 vBias3 vBias4 : V8.Double := ⟨0⟩)
  (powerMinus5V powerPlus2p5V powerCeV : V8.Double := ⟨0⟩)
  errorCount : Int32 := 0
  message : Text := "not polled".toList
  errors : Text := "[]".toList
  updateTimeNs : UInt64 := 0
  telemetryV8 : Bool := false
  telemetry : ReadTelemetrySnapshotResponse :=
    { success := false, message := [], schemaMajor := 0, schemaSourceSha256 := []
      contractRevision := [], boardId := [], requestSequence := 0, snapshotTimeUnixNs := 0
      telemetry := none }

structure GeneralInfo where
  (vBias0 vBias1 vBias2 vBias3 vBias4 powerMinus5v powerPlus2p5v powerCe : V8.Double)

/-- The schema that is compiled in, and the parsers of the three responses. -/
structure Payloads where
  schema : Schema
  snapshot : List UInt8 → Option ReadTelemetrySnapshotResponse
  testReg : List UInt8 → Option UInt64
  generalInfo : List UInt8 → Option GeneralInfo

namespace DaphneClient

/-- What the requests of one poll end with, and the clock. -/
structure Exchange where
  (telemetry testReg generalInfo : Except RuntimeError (List UInt8))
  nowNs : UInt64

/-- The client as its polls see it. -/
structure Poller where
  (enabled fake : Bool)
  boardId : Text
  nextTelemetrySequence : UInt64 := 1

def hex64 (value : UInt64) : Text :=
  let digits := (Nat.toDigits 16 value.toNat).map Char.toUpper
  "0x".toList ++ List.replicate (16 - digits.length) '0' ++ digits

def disabledStatus (nowNs : UInt64) : DaphneStatus :=
  { message := "disabled".toList, updateTimeNs := nowNs }

def fakeStatus (nowNs : UInt64) : DaphneStatus where
  connected := true
  success := true
  vBias0 := ⟨0x3fe4353f7ced9168⟩
  vBias1 := ⟨0x3fdd64adff822bbf⟩
  vBias2 := ⟨0⟩
  vBias3 := ⟨0x3f78548a9bcfd4bf⟩
  vBias4 := ⟨0x3f8c62a1b5c7cd8a⟩
  powerMinus5V := ⟨0xc01419f01b866e44⟩
  powerPlus2p5V := ⟨0x400a66cf41f212d7⟩
  powerCeV := ⟨0x3ffcd2c7b890d5a6⟩
  message := "fake legacy daphneServer V2 readback".toList
  updateTimeNs := nowNs

variable (payloads : Payloads) (exchange : Exchange)

/-- The status of two successful requests. The second one need not be sent. -/
def readLegacy (telemetryError : RuntimeError) (status : DaphneStatus) :
    Except RuntimeError DaphneStatus := do
  match payloads.testReg (← exchange.testReg) with
  | none => return { status with message := "bad TestRegResponse payload".toList }
  | some value =>
    if value ≠ 0xDEADBEEF then
      return { status with
        connected := true
        message := "unexpected test register value ".toList ++ hex64 value }
    else match payloads.generalInfo (← exchange.generalInfo) with
      | none =>
        return { status with connected := true, message := "bad GeneralInfo payload".toList }
      | some info =>
        return { status with
          connected := true
          success := true
          message := "legacy daphneServer V2 readback ok; v8 unavailable: ".toList ++ telemetryError
          vBias0 := info.vBias0
          vBias1 := info.vBias1
          vBias2 := info.vBias2
          vBias3 := info.vBias3
          vBias4 := info.vBias4
          powerMinus5V := info.powerMinus5v
          powerPlus2p5V := info.powerPlus2p5v
          powerCeV := info.powerCe }

def pollLegacy (telemetryError : RuntimeError) : DaphneStatus :=
  let status : DaphneStatus := { updateTimeNs := exchange.nowNs }
  match readLegacy payloads exchange telemetryError status with
  | .ok status => status
  | .error err =>
    { status with
      message := "DAPHNE poll failed: v8=".toList ++ telemetryError ++ "; legacy=".toList ++ err }

def telemetryStatus (nowNs : UInt64) (snapshot : ValidatedSnapshot) : DaphneStatus where
  connected := true
  success := true
  telemetryV8 := true
  updateTimeNs :=
    if snapshot.response.snapshotTimeUnixNs ≠ 0 then snapshot.response.snapshotTimeUnixNs else nowNs
  errorCount := Int32.ofNat snapshot.invalidCount
  message := "v8 explicit telemetry ok: samples=".toList ++ toText snapshot.sampleCount ++
    " good=".toList ++ toText snapshot.goodCount ++ " unavailable=".toList ++
    toText snapshot.unavailableCount ++ " invalid=".toList ++ toText snapshot.invalidCount
  telemetry := snapshot.response

/-- Validation throws nothing but its own errors. -/
def pollTelemetryV8 (boardId : Text) (requestSequence : UInt64) :
    Except RuntimeError DaphneStatus :=
  match exchange.telemetry with
  | .error e => .error e
  | .ok payload =>
    match parseAndValidate payloads.schema payloads.snapshot payload boardId requestSequence with
    | .ok snapshot => .ok (telemetryStatus exchange.nowNs snapshot)
    | .error (.error e) => .error e
    | .error .panic => .error []

def poll (poller : Poller) : DaphneStatus × Poller :=
  if ¬ poller.enabled then (disabledStatus exchange.nowNs, poller)
  else if poller.fake then (fakeStatus exchange.nowNs, poller)
  else
    let sequence := poller.nextTelemetrySequence
    let status := match pollTelemetryV8 payloads exchange poller.boardId sequence with
      | .ok status => status
      | .error err => pollLegacy payloads exchange err
    (status, { poller with nextTelemetrySequence := sequence + 1 })

/-! ## Statuses with a snapshot -/

/-- A snapshot that has been accepted for a board. -/
def Accepted (boardId : Text) (telemetry : ReadTelemetrySnapshotResponse) : Prop :=
  ∃ payload requestSequence snapshot,
    parseAndValidate payloads.schema payloads.snapshot payload boardId requestSequence =
      .ok snapshot ∧ snapshot.response = telemetry

variable {payloads exchange} {poller : Poller} {boardId : Text} {sequence : UInt64}
  {status : DaphneStatus} {telemetryError : RuntimeError}

theorem readLegacy_telemetryV8 {status' : DaphneStatus}
    (h : readLegacy payloads exchange telemetryError status = .ok status') :
    status'.telemetryV8 = status.telemetryV8 := by
  obtain ⟨testReg, -, h⟩ := Results.bind_ok_iff.1 h
  split at h
  · cases h
    rfl
  · split at h
    · cases h
      rfl
    · obtain ⟨generalInfo, -, h⟩ := Results.bind_ok_iff.1 h
      split at h <;> cases h <;> rfl

theorem pollLegacy_telemetryV8 : (pollLegacy payloads exchange telemetryError).telemetryV8 =
    false := by
  unfold pollLegacy
  simp only
  split
  · next h => exact readLegacy_telemetryV8 h
  · rfl

theorem pollTelemetryV8_ok (h : pollTelemetryV8 payloads exchange boardId sequence = .ok status) :
    status.connected ∧ status.success ∧ Accepted payloads boardId status.telemetry := by
  unfold pollTelemetryV8 at h
  split at h
  · cases h
  · next payload _ =>
    split at h
    · next snapshot hsnapshot =>
      cases h
      exact ⟨rfl, rfl, payload, sequence, snapshot, hsnapshot, rfl⟩
    · cases h
    · cases h

theorem pollTelemetryV8_of_accepted {payload : List UInt8} {snapshot : ValidatedSnapshot}
    (htelemetry : exchange.telemetry = .ok payload)
    (haccepted : parseAndValidate payloads.schema payloads.snapshot payload boardId sequence =
      .ok snapshot) :
    pollTelemetryV8 payloads exchange boardId sequence =
      .ok (telemetryStatus exchange.nowNs snapshot) := by
  rw [pollTelemetryV8, htelemetry]
  simp only [haccepted]

/-- A poll that is answered with an accepted snapshot. -/
theorem poll_of_ok (henabled : poller.enabled = true) (hfake : poller.fake = false)
    (h : pollTelemetryV8 payloads exchange poller.boardId poller.nextTelemetrySequence =
      .ok status) :
    poll payloads exchange poller =
      (status, { poller with nextTelemetrySequence := poller.nextTelemetrySequence + 1 }) := by
  rw [poll, henabled, hfake]
  simp only [h, not_true_eq_false, if_false, Bool.false_eq_true]

/-- A status says that it has a snapshot only when the poll has succeeded with an accepted one. -/
theorem poll_telemetryV8 (payloads : Payloads) (exchange : Exchange) (poller : Poller)
    (h : (poll payloads exchange poller).1.telemetryV8 = true) :
    (poll payloads exchange poller).1.connected ∧ (poll payloads exchange poller).1.success ∧
      Accepted payloads poller.boardId (poll payloads exchange poller).1.telemetry := by
  unfold poll at h ⊢
  split
  · next hdisabled =>
    rw [if_pos hdisabled] at h
    cases h
  · next henabled =>
    rw [if_neg henabled] at h
    split
    · next hfake =>
      rw [if_pos hfake] at h
      cases h
    · next hfake =>
      rw [if_neg hfake] at h
      simp only at h ⊢
      split
      · next hok => exact pollTelemetryV8_ok hok
      · next err herr =>
        rw [herr] at h
        exact absurd (pollLegacy_telemetryV8.symm.trans h) Bool.false_ne_true

theorem poll_boardId (payloads : Payloads) (exchange : Exchange) (poller : Poller) :
    (poll payloads exchange poller).2.boardId = poller.boardId := by
  unfold poll
  split
  · rfl
  · split <;> rfl

end DaphneClient

end DaphneSc.Bridge
