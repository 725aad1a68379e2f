import DaphneSc.Bridge.Registry
import DaphneSc.Server.Router

/-!
# Requests of the bridge

The client of a board numbers its requests, sends one at a time and waits for the response within a
time budget. A response may come after the budget is used up; it is then met by a later call, which
passes over it because it answers another number.
-/

namespace DaphneSc.Bridge

open Program Server Server.Pb Server.SlowControl

/-- `std::to_string` -/
def toText {α : Type} [ToString α] (a : α) : Text := (toString a).toList

namespace DaphneClient

/-- What the client keeps between two requests. -/
structure Client where
  route : String
  nextMessageId : UInt64 := 1

/-- What one turn of the receive loop meets: no time is left, nothing arrives in the time that is
left, or a message arrives. -/
inductive Turn where
  | expired
  | silent
  | message (bytes : List UInt8)
  deriving DecidableEq

/-- A call of `sendRequest` and what it meets: the clock, whether the socket takes the request, and
the turns of the receive loop. -/
structure Call where
  requestPayload : List UInt8
  (requestType responseType : Int32)
  timestampNs : UInt64
  sent : Bool
  turns : List Turn

abbrev sendTimedOut : RuntimeError := "ZMQ send timed out".toList

abbrev receiveTimedOut : RuntimeError := "ZMQ receive timed out".toList

def requestEnvelope (client : Client) (call : Call) : ControlEnvelopeV2 where
  version := 2
  dir := dirRequest
  type := call.requestType
  payload := call.requestPayload
  taskId := client.nextMessageId
  msgId := client.nextMessageId
  route := client.route
  timestampNs := call.timestampNs

variable (parse : List UInt8 → Option ControlEnvelopeV2)

/-- The receive loop. It is still waiting when the turns end before it does. -/
def receive (msgId : UInt64) (responseType : Int32) :
    List Turn → Option (Except RuntimeError ControlEnvelopeV2)
  | [] => none
  | .expired :: _ => some (.error receiveTimedOut)
  | .silent :: _ => some (.error receiveTimedOut)
  | .message bytes :: turns =>
    match parse bytes with
    | none => some (.error "bad ControlEnvelopeV2 response".toList)
    | some response =>
      if response.correlId ≠ 0 ∧ response.correlId ≠ msgId then receive msgId responseType turns
      else if response.type ≠ responseType then
        some (.error ("unexpected DAPHNE response type ".toList ++ toText response.type))
      else some (.ok response)

/-- The number of the request is used up also when the request is not sent. -/
def sendRequest (client : Client) (call : Call) :
    Option (Except RuntimeError ControlEnvelopeV2) × Client :=
  let envelope := requestEnvelope client call
  let outcome :=
    if ¬ call.sent then some (.error sendTimedOut)
    else receive parse envelope.msgId call.responseType call.turns
  (outcome, { client with nextMessageId := client.nextMessageId + 1 })

/-- What the calls of a client end with, one after the other. -/
def outcomes (client : Client) : List Call → List (Option (Except RuntimeError ControlEnvelopeV2))
  | [] => []
  | call :: calls =>
    let (outcome, client') := sendRequest parse client call
    outcome :: outcomes client' calls

/-! ## Runs -/

/-- The client as its call at position `k` finds it. -/
def Client.after (client : Client) (k : ℕ) : Client :=
  { client with nextMessageId := client.nextMessageId + UInt64.ofNat k }

theorem Client.after_zero (client : Client) : client.after 0 = client := by
  simp [Client.after]

theorem Client.after_succ (client : Client) (k : ℕ) :
    ({ client with nextMessageId := client.nextMessageId + 1 } : Client).after k =
      client.after (k + 1) := by
  simp [Client.after, UInt64.ofNat_add, UInt64.add_assoc, UInt64.add_comm 1]

theorem outcomes_getElem? (client : Client) (calls : List Call) (k : ℕ) :
    (outcomes parse client calls)[k]? =
      (calls[k]?).map fun call ↦ (sendRequest parse (client.after k) call).1 := by
  induction calls generalizing client k with
  | nil => rfl
  | cons call calls ih =>
    cases k with
    | zero => rw [Client.after_zero]; rfl
    | succ k =>
      change (outcomes parse { client with nextMessageId := client.nextMessageId + 1 } calls)[k]? =
        calls[k]?.map _
      rw [ih, Client.after_succ]

/-- The number of the request at position `k` of a new client. -/
abbrev msgIdAt (k : ℕ) : UInt64 := 1 + UInt64.ofNat k

theorem msgIdAt_toNat (k : ℕ) : (msgIdAt k).toNat = (k + 1) % 2 ^ 64 := by
  simp [msgIdAt, UInt64.toNat_add, Nat.add_comm]

theorem msgIdAt_ne_zero {k : ℕ} (h : k + 1 < 2 ^ 64) : msgIdAt k ≠ 0 := by
  intro heq
  have hnat := congrArg UInt64.toNat heq
  rw [msgIdAt_toNat, Nat.mod_eq_of_lt h] at hnat
  exact Nat.succ_ne_zero k hnat

theorem msgIdAt_ne {j k : ℕ} (h : j < k) (hk : k < 2 ^ 64) : msgIdAt j ≠ msgIdAt k := by
  intro heq
  have hnat := congrArg UInt64.toNat heq
  rw [msgIdAt_toNat, msgIdAt_toNat] at hnat
  omega

/-! ## The server's side -/

/-- A pair of types of the protocol: the request is even and the response comes next. -/
structure Call.ProtocolPair (call : Call) : Prop where
  ne_zero : call.requestType ≠ 0
  even : call.requestType &&& 1 = 0
  next : call.responseType = call.requestType + 1

section Server

variable {T E : Type} [HostEnvironment E]

/-- The envelope is the server's response to the request. -/
def IsResponse (T E : Type) [HostEnvironment E] (req response : ControlEnvelopeV2) : Prop :=
  ∃ payload, ∃ backend backend' : Router.Backend T E,
    Router.makeResponse req payload backend = .ok response backend'

theorem IsResponse.fields {req response : ControlEnvelopeV2} (h : IsResponse T E req response) :
    response.correlId = req.msgId ∧ response.type = Router.responseType req.type := by
  obtain ⟨payload, backend, backend', hmake⟩ := h
  cases hmake
  exact ⟨rfl, rfl⟩

theorem Call.ProtocolPair.responseType_eq {call : Call} (h : call.ProtocolPair) :
    Router.responseType call.requestType = call.responseType := by
  rw [Router.responseType, if_neg h.ne_zero, if_pos h.even, h.next]

variable (T E)

/-- Every message that a call meets is the server's response to a request that has been sent, by
this call or an earlier one. Responses may be late, lost, out of order or repeated. -/
def Served (client : Client) (calls : List Call) : Prop :=
  ∀ (k : ℕ) (call : Call), calls[k]? = some call → ∀ bytes, .message bytes ∈ call.turns →
    ∃ (j : ℕ) (answered : Call), j ≤ k ∧ calls[j]? = some answered ∧ answered.sent = true ∧
      ∃ response, parse bytes = some response ∧
        IsResponse T E (requestEnvelope (client.after j) answered) response

end Server

/-! ## The receive loop -/

variable {parse} {msgId : UInt64} {responseType : Int32} {turns : List Turn}
  {response : ControlEnvelopeV2} {bytes : List UInt8} {e : RuntimeError}

/-- The message answers another request, and says which. -/
def Stale (parse : List UInt8 → Option ControlEnvelopeV2) (msgId : UInt64) (turn : Turn) : Prop :=
  ∃ bytes response, turn = .message bytes ∧ parse bytes = some response ∧
    response.correlId ≠ 0 ∧ response.correlId ≠ msgId

/-- A stale message is passed over. -/
theorem receive_stale {turn : Turn} (h : Stale parse msgId turn) :
    receive parse msgId responseType (turn :: turns) = receive parse msgId responseType turns := by
  obtain ⟨bytes, response, rfl, hparse, hcorrel⟩ := h
  rw [receive, hparse]
  exact if_pos hcorrel

/-- Stale messages might as well not have arrived. -/
theorem receive_filter (responseType : Int32) (keep : Turn → Bool)
    (h : ∀ turn ∈ turns, keep turn = false → Stale parse msgId turn) :
    receive parse msgId responseType (turns.filter keep) =
      receive parse msgId responseType turns := by
  induction turns with
  | nil => rfl
  | cons turn turns ih =>
    obtain ⟨hturn, hturns⟩ := List.forall_mem_cons.1 h
    cases hkeep : keep turn with
    | false => rw [List.filter_cons_of_neg (by simp [hkeep]), receive_stale (hturn hkeep),
        ih hturns]
    | true =>
      rw [List.filter_cons_of_pos hkeep]
      cases turn with
      | expired => rfl
      | silent => rfl
      | message bytes => simp only [receive, ih hturns]

/-- A response is returned when it has arrived and does not answer another request. -/
theorem receive_ok (h : receive parse msgId responseType turns = some (.ok response)) :
    ∃ bytes, .message bytes ∈ turns ∧ parse bytes = some response ∧
      ¬ (response.correlId ≠ 0 ∧ response.correlId ≠ msgId) := by
  induction turns with
  | nil => cases h
  | cons turn turns ih =>
    cases turn with
    | expired => cases h
    | silent => cases h
    | message bytes =>
      rw [receive] at h
      split at h
      · cases h
      · next arrived hparse =>
        split at h
        · obtain ⟨bytes', hmem, hrest⟩ := ih h
          exact ⟨bytes', List.mem_cons_of_mem _ hmem, hrest⟩
        · next hmatch =>
          split at h
          · cases h
          · obtain rfl : arrived = response := by simpa using h
            exact ⟨bytes, List.mem_cons_self, hparse, hmatch⟩

/-- The loop gives up for lack of time only, unless a message cannot be read or is of another type
while it does not answer another request. -/
theorem receive_error
    (hturns : ∀ bytes, .message bytes ∈ turns → Stale parse msgId (.message bytes) ∨
      ∃ response, parse bytes = some response ∧ response.type = responseType)
    (h : receive parse msgId responseType turns = some (.error e)) : e = receiveTimedOut := by
  induction turns with
  | nil => cases h
  | cons turn turns ih =>
    have hrest := fun bytes hmem ↦ hturns bytes (List.mem_cons_of_mem _ hmem)
    cases turn with
    | expired => exact (by simpa [receive] using h : _ = e).symm
    | silent => exact (by simpa [receive] using h : _ = e).symm
    | message bytes =>
      cases hturns bytes List.mem_cons_self with
      | inl hstale =>
        rw [receive_stale hstale] at h
        exact ih hrest h
      | inr hown =>
        obtain ⟨response, hparse, htype⟩ := hown
        rw [receive, hparse] at h
        simp only [htype, ne_eq, not_true_eq_false, if_false] at h
        split at h
        · exact ih hrest h
        · cases h

/-! ## Matching of responses -/

section Matching

variable {T E : Type} [HostEnvironment E] {route : String} {calls : List Call} {j k : ℕ}
  {call other : Call} {turn : Turn}

/-- The message is a response to a request before the one at position `k`. -/
def AnswersEarlier (parse : List UInt8 → Option ControlEnvelopeV2) (T E : Type) [HostEnvironment E]
    (client : Client) (calls : List Call) (k : ℕ) (turn : Turn) : Prop :=
  ∃ bytes response j other, turn = .message bytes ∧ parse bytes = some response ∧ j < k ∧
    calls[j]? = some other ∧ IsResponse T E (requestEnvelope (client.after j) other) response

theorem lt_of_getElem?_eq_some (hlength : calls.length ≤ 2 ^ 64) (hcall : calls[k]? = some call) :
    k < 2 ^ 64 :=
  (List.getElem?_eq_some_iff.1 hcall).1.trans_le hlength

/-- The responses to different requests of a run tell which request they answer. -/
theorem correlId_ne
    (hj : IsResponse T E (requestEnvelope (Client.after { route } j) other) response)
    (hjk : j ≠ k) (hj64 : j < 2 ^ 64) (hk64 : k < 2 ^ 64) : response.correlId ≠ msgIdAt k := by
  rw [hj.fields.1]
  cases Nat.lt_or_gt_of_ne hjk with
  | inl hlt => exact msgIdAt_ne hlt hk64
  | inr hgt => exact (msgIdAt_ne hgt hj64).symm

theorem AnswersEarlier.stale (h : AnswersEarlier parse T E { route } calls k turn)
    (hk64 : k < 2 ^ 64) : Stale parse (msgIdAt k) turn := by
  obtain ⟨bytes, response, j, other, hturn, hparse, hjk, -, hresponse⟩ := h
  refine ⟨bytes, response, hturn, hparse, ?_, correlId_ne hresponse hjk.ne (hjk.trans hk64) hk64⟩
  rw [hresponse.fields.1]
  exact msgIdAt_ne_zero (by omega)

/-- A message met by the call at position `k` answers an earlier request or this one. -/
theorem Served.message (hserved : Served parse T E { route } calls) (hcall : calls[k]? = some call)
    (hmem : .message bytes ∈ call.turns) :
    AnswersEarlier parse T E { route } calls k (.message bytes) ∨
      ∃ response, parse bytes = some response ∧
        IsResponse T E (requestEnvelope (Client.after { route } k) call) response := by
  obtain ⟨j, answered, hjk, hanswered, -, response, hparse, hresponse⟩ :=
    hserved k call hcall bytes hmem
  cases Nat.lt_or_eq_of_le hjk with
  | inl hlt => exact .inl ⟨bytes, response, j, answered, rfl, hparse, hlt, hanswered, hresponse⟩
  | inr heq =>
    subst heq
    obtain rfl : answered = call := Option.some.inj (hanswered.symm.trans hcall)
    exact .inr ⟨response, hparse, hresponse⟩

/-- In a run of at most `2 ^ 64` calls, a returned envelope is the server's response to the request
of that very call and to no other request of the run; a call fails for lack of time only; and it
ends in the same way when responses to earlier requests are left out of what it meets. -/
theorem calls_matched (hlength : calls.length ≤ 2 ^ 64) (hpairs : ∀ call ∈ calls, call.ProtocolPair)
    (hserved : Served parse T E { route } calls) (hcall : calls[k]? = some call) :
    (∀ response, (outcomes parse { route } calls)[k]? = some (some (.ok response)) →
      IsResponse T E (requestEnvelope (Client.after { route } k) call) response ∧
      ∀ (j : ℕ) (other : Call), calls[j]? = some other → j ≠ k →
        ¬ IsResponse T E (requestEnvelope (Client.after { route } j) other) response) ∧
    (∀ e, (outcomes parse { route } calls)[k]? = some (some (.error e)) →
      e = sendTimedOut ∨ e = receiveTimedOut) ∧
    ∀ keep : Turn → Bool,
      (∀ turn ∈ call.turns, keep turn = false → AnswersEarlier parse T E { route } calls k turn) →
      (sendRequest parse (Client.after { route } k)
        { call with turns := call.turns.filter keep }).1 =
        (sendRequest parse (Client.after { route } k) call).1 := by
  have hk64 := lt_of_getElem?_eq_some hlength hcall
  have hpair := hpairs call (List.mem_of_getElem? hcall)
  have houtcome : (outcomes parse { route } calls)[k]? =
      some (if ¬ call.sent then some (.error sendTimedOut)
        else receive parse (msgIdAt k) call.responseType call.turns) := by
    rw [outcomes_getElem?, hcall]
    rfl
  have hmessage : ∀ bytes, .message bytes ∈ call.turns →
      Stale parse (msgIdAt k) (.message bytes) ∨
        ∃ response, parse bytes = some response ∧ response.type = call.responseType := by
    intro bytes hmem
    cases hserved.message hcall hmem with
    | inl hearlier => exact .inl (hearlier.stale hk64)
    | inr hown =>
      obtain ⟨response, hparse, hresponse⟩ := hown
      exact .inr ⟨response, hparse, hresponse.fields.2.trans hpair.responseType_eq⟩
  rw [houtcome]
  by_cases hsent : call.sent
  · simp only [hsent, not_true_eq_false, if_false, Option.some.injEq]
    refine ⟨fun response hreceive ↦ ?_, fun e hreceive ↦ .inr (receive_error hmessage hreceive),
      fun keep hkeep ↦ ?_⟩
    · obtain ⟨bytes, hmem, hparse, hmatch⟩ := receive_ok hreceive
      cases hserved.message hcall hmem with
      | inl hearlier =>
        obtain ⟨_, _, heq, hparse', hstale⟩ := hearlier.stale hk64
        cases heq
        cases hparse.symm.trans hparse'
        exact absurd hstale hmatch
      | inr hown =>
        obtain ⟨own, hparse', hresponse⟩ := hown
        cases hparse.symm.trans hparse'
        refine ⟨hresponse, fun j other hother hjk hj ↦ ?_⟩
        exact correlId_ne hj hjk (lt_of_getElem?_eq_some hlength hother) hk64 hresponse.fields.1
    · simp only [sendRequest, hsent, not_true_eq_false, if_false]
      exact receive_filter call.responseType keep
        fun turn hturn hdrop ↦ (hkeep turn hturn hdrop).stale hk64
  · refine ⟨fun response hreceive ↦ ?_, fun e hreceive ↦ ?_, fun keep hkeep ↦ ?_⟩
    · simp [hsent] at hreceive
    · exact .inl (by simpa [hsent] using hreceive : _ = e).symm
    · simp [sendRequest, hsent]

end Matching

/-! A late response is passed over, and the response behind it is returned. -/

/-- A host whose clock stands still. -/
structure StillHost where

instance : HostEnvironment StillHost where
  nowNs host := (0, host)
  collectSlowControlStatus _ _ := stop

def testRegCall (sent : Bool) (turns : List Turn) : Call where
  requestPayload := []
  requestType := 304
  responseType := 305
  timestampNs := 0
  sent := sent
  turns := turns

theorem testRegCall_protocolPair (sent : Bool) (turns : List Turn) :
    (testRegCall sent turns).ProtocolPair where
  ne_zero := (by decide : (304 : Int32) ≠ 0)
  even := (by decide : (304 : Int32) &&& 1 = 0)
  next := rfl

def testRegResponse (msgId : UInt64) : ControlEnvelopeV2 where
  version := 2
  dir := dirResponse
  type := 305
  taskId := msgId
  msgId := msgId
  correlId := msgId

/-- The bytes of the response, for numbers below 128. -/
def testRegBytes (msgId : UInt8) : List UInt8 :=
  [0x08, 2, 0x10, 1, 0x18, 0xb1, 2, 0x50, msgId, 0x58, msgId, 0x60, msgId]

def parseTestReg (bytes : List UInt8) : Option ControlEnvelopeV2 :=
  if bytes = testRegBytes 1 then some (testRegResponse 1)
  else if bytes = testRegBytes 2 then some (testRegResponse 2)
  else none

def lateCalls : List Call :=
  [testRegCall true [.silent],
    testRegCall true [.message (testRegBytes 1), .message (testRegBytes 2)]]

theorem served_lateCalls : Served parseTestReg Unit StillHost { route := "" } lateCalls := by
  intro k call hcall bytes hmem
  match k, hcall with
  | 0, hcall =>
    obtain rfl : testRegCall true [.silent] = call := Option.some.inj hcall
    simp [testRegCall] at hmem
  | 1, hcall =>
    obtain rfl : testRegCall true [.message (testRegBytes 1), .message (testRegBytes 2)] = call :=
      Option.some.inj hcall
    simp only [testRegCall, List.mem_cons, List.not_mem_nil, or_false, Turn.message.injEq] at hmem
    cases hmem with
    | inl hfirst =>
      exact ⟨0, _, Nat.zero_le 1, rfl, rfl, testRegResponse 1, by rw [hfirst]; rfl,
        [], ⟨(), ⟨⟩, 1⟩, ⟨(), ⟨⟩, 2⟩, rfl⟩
    | inr hsecond =>
      exact ⟨1, _, le_rfl, rfl, rfl, testRegResponse 2, by rw [hsecond]; rfl,
        [], ⟨(), ⟨⟩, 2⟩, ⟨(), ⟨⟩, 3⟩, rfl⟩

theorem calls_matched_late :
    (outcomes parseTestReg { route := "" } lateCalls)[1]? =
      some (some (.ok (testRegResponse 2))) ∧
    IsResponse Unit StillHost (requestEnvelope (Client.after { route := "" } 1)
      (testRegCall true [.message (testRegBytes 1), .message (testRegBytes 2)]))
      (testRegResponse 2) := by
  have hpairs : ∀ call ∈ lateCalls, call.ProtocolPair := by
    intro call hcall
    simp only [lateCalls, List.mem_cons, List.not_mem_nil, or_false] at hcall
    cases hcall with
    | inl h => exact h ▸ testRegCall_protocolPair _ _
    | inr h => exact h ▸ testRegCall_protocolPair _ _
  have houtcome : (outcomes parseTestReg { route := "" } lateCalls)[1]? =
      some (some (.ok (testRegResponse 2))) := rfl
  have hmatched := calls_matched (by decide) hpairs served_lateCalls
    (rfl : lateCalls[1]? = some _)
  exact ⟨houtcome, (hmatched.1 _ houtcome).1⟩

/-! ## When the numbers wrap

Behind `2 ^ 64 - 1` requests comes one whose number is zero, and its response answers every request.
-/

def wrappedResponse : ControlEnvelopeV2 where
  version := 2
  dir := dirResponse
  type := 305
  msgId := 1

def wrappedBytes : List UInt8 := [0x08, 2, 0x10, 1, 0x18, 0xb1, 2, 0x58, 1]

def parseWrapped (bytes : List UInt8) : Option ControlEnvelopeV2 :=
  if bytes = wrappedBytes then some wrappedResponse else none

/-- After `n` calls that are not sent, one whose response is late, and one that meets it. -/
def wrappedCalls (n : ℕ) : List Call :=
  List.replicate n (testRegCall false []) ++
    [testRegCall true [.silent], testRegCall true [.message wrappedBytes]]

theorem wrappedCalls_late (n : ℕ) : (wrappedCalls n)[n]? = some (testRegCall true [.silent]) := by
  simp [wrappedCalls]

theorem wrappedCalls_last (n : ℕ) :
    (wrappedCalls n)[n + 1]? = some (testRegCall true [.message wrappedBytes]) := by
  simp [wrappedCalls]

theorem wrappedCalls_protocolPair (n : ℕ) : ∀ call ∈ wrappedCalls n, call.ProtocolPair := by
  intro call hcall
  simp only [wrappedCalls, List.mem_append, List.mem_replicate, List.mem_cons, List.not_mem_nil,
    or_false] at hcall
  rcases hcall with ⟨-, rfl⟩ | rfl | rfl
  · exact testRegCall_protocolPair _ _
  · exact testRegCall_protocolPair _ _
  · exact testRegCall_protocolPair _ _

/-- The response to the request with number zero. -/
theorem isResponse_wrapped {n : ℕ} (hn : msgIdAt n = 0) :
    IsResponse Unit StillHost
      (requestEnvelope (Client.after { route := "" } n) (testRegCall true [.silent]))
      wrappedResponse := by
  refine ⟨[], ⟨(), ⟨⟩, 1⟩, ⟨(), ⟨⟩, 2⟩, ?_⟩
  have hrequest : requestEnvelope (Client.after { route := "" } n) (testRegCall true [.silent]) =
      { version := 2, dir := dirRequest, type := 304 } := by
    simp only [requestEnvelope, Client.after, testRegCall, hn]
  rw [hrequest]
  rfl

theorem served_wrappedCalls {n : ℕ} (hn : msgIdAt n = 0) :
    Served parseWrapped Unit StillHost { route := "" } (wrappedCalls n) := by
  intro k call hcall bytes hmem
  have hk : n ≤ k := by
    by_contra hlt
    rw [wrappedCalls, List.getElem?_append_left (by simpa using hlt)] at hcall
    obtain ⟨-, rfl⟩ := List.mem_replicate.1 (List.mem_of_getElem? hcall)
    exact List.not_mem_nil hmem
  have hbytes : bytes = wrappedBytes := by
    have hcalls := List.mem_of_getElem? hcall
    simp only [wrappedCalls, List.mem_append, List.mem_replicate, List.mem_cons, List.not_mem_nil,
      or_false] at hcalls
    rcases hcalls with ⟨-, rfl⟩ | rfl | rfl
    · exact absurd hmem List.not_mem_nil
    · simp [testRegCall] at hmem
    · simpa [testRegCall] using hmem
  refine ⟨n, _, hk, wrappedCalls_late n, rfl, wrappedResponse, ?_, isResponse_wrapped hn⟩
  rw [parseWrapped, if_pos hbytes]

/-- Without a bound on the number of calls a response to an earlier request can be returned. -/
theorem wrapped_call_unmatched : ∃ (calls : List Call) (k : ℕ) (call : Call)
    (response : ControlEnvelopeV2),
    (∀ call ∈ calls, call.ProtocolPair) ∧
    Served parseWrapped Unit StillHost { route := "" } calls ∧ calls[k]? = some call ∧
    (outcomes parseWrapped { route := "" } calls)[k]? = some (some (.ok response)) ∧
    ¬ IsResponse Unit StillHost (requestEnvelope (Client.after { route := "" } k) call)
      response := by
  have hn : msgIdAt (2 ^ 64 - 1) = 0 := by decide
  refine ⟨wrappedCalls (2 ^ 64 - 1), 2 ^ 64 - 1 + 1, _, wrappedResponse,
    wrappedCalls_protocolPair _, served_wrappedCalls hn, wrappedCalls_last _, ?_, fun h ↦ ?_⟩
  · rw [outcomes_getElem?, wrappedCalls_last]
    rfl
  · have hcorrel : wrappedResponse.correlId = msgIdAt (2 ^ 64 - 1 + 1) := h.fields.1
    revert hcorrel
    decide

end DaphneClient

end DaphneSc.Bridge
