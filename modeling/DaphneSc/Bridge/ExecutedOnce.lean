import DaphneSc.Bridge.Network
import DaphneSc.Server.Prerequisites

/-!
# Requests are executed once

The router executes the requests of a bridge in the order in which they were made and none of them
twice, and what a call returns is the answer to its own request from the one time it was executed.
-/

namespace DaphneSc.Bridge.Network

open Core.Rpu DaphneClient Program Server Server.Pb Server.Preflight Server.Router
  Server.SlowControl

variable {C O P T E : Type} [PreflightProvider P] [RpuAfeTransport T] [HostEnvironment E]

/-! ## Requests -/

section Requests

variable (site : Site C O) (c : C)

/-- The request of the call at position `k`, as the router receives it. -/
def question (k : ℕ) (call : Call) : List (List UInt8) :=
  [site.identity (.inl c),
    site.serialize (requestEnvelope (Client.after { route := site.route c } k) call)]

/-- The requests that have been sent. -/
def issued (calls : List Call) : List (List (List UInt8)) :=
  (calls.mapIdx fun k call ↦ if call.sent then [question site c k call] else []).flatten

theorem issued_concat (calls : List Call) (call : Call) : issued site c (calls ++ [call]) =
    issued site c calls ++ if call.sent then [question site c calls.length call] else [] := by
  simp [issued, List.mapIdx_append]

theorem mem_issued {calls : List Call} {frames : List (List UInt8)} :
    frames ∈ issued site c calls ↔
      ∃ k call, calls[k]? = some call ∧ call.sent = true ∧ frames = question site c k call := by
  simp only [issued, List.mem_flatten, List.mem_mapIdx, List.getElem?_eq_some_iff]
  constructor
  · rintro ⟨_, ⟨k, hk, rfl⟩, hmem⟩
    split at hmem
    · exact ⟨k, calls[k], ⟨hk, rfl⟩, ‹_›, List.mem_singleton.mp hmem⟩
    · cases hmem
  · rintro ⟨k, call, ⟨hk, rfl⟩, hsent, rfl⟩
    exact ⟨_, ⟨k, hk, rfl⟩, by simp [hsent]⟩

variable {site c}

theorem question_inj {j k : ℕ} {call other : Call} (hj : j < 2 ^ 64) (hk : k < 2 ^ 64)
    (h : question site c j call = question site c k other) : j = k := by
  have hbytes : site.serialize (requestEnvelope (Client.after { route := site.route c } j) call) =
      site.serialize (requestEnvelope (Client.after { route := site.route c } k) other) := by
    simpa [question] using h
  have henvelope := (site.decode_serialize _).symm.trans
    ((congrArg site.prost.decode hbytes).trans (site.decode_serialize _))
  have hid : msgIdAt j = msgIdAt k := congrArg ControlEnvelopeV2.msgId (Except.ok.inj henvelope)
  rcases Nat.lt_trichotomy j k with hlt | heq | hgt
  · exact absurd hid (msgIdAt_ne hlt hk)
  · exact heq
  · exact absurd hid.symm (msgIdAt_ne hgt hj)

theorem nodup_issued {calls : List Call} (h : calls.length ≤ 2 ^ 64) :
    (issued site c calls).Nodup := by
  induction calls using List.reverseRecOn with
  | nil => exact List.nodup_nil
  | append_singleton calls call ih =>
    rw [List.length_append, List.length_singleton] at h
    rw [issued_concat]
    split
    · refine List.nodup_append.mpr ⟨ih (by omega), by simp, ?_⟩
      rintro frames hmem _ hlast rfl
      obtain ⟨k, other, hother, -, rfl⟩ := (mem_issued site c).mp hmem
      have hk : k < calls.length := (List.getElem?_eq_some_iff.mp hother).1
      exact hk.ne (question_inj (by omega) (by omega) (List.mem_singleton.mp hlast))
    · rw [List.append_nil]
      exact ih (by omega)

end Requests

/-! ## What holds of a bridge -/

/-- The call as it was made, without what it has met. -/
def bare (call : Call) : Call := { call with turns := [] }

theorem issued_bare (site : Site C O) (c : C) (calls : List Call) :
    issued site c (calls.map bare) = issued site c calls := by
  induction calls using List.reverseRecOn with
  | nil => rfl
  | append_singleton calls call ih =>
    rw [List.map_append, List.map_singleton, issued_concat, issued_concat, ih, List.length_map]
    rfl

section Invariant

variable (site : Site C O) (start : Board P T E)

/-- The router after the first `n` messages. -/
def boardAt (handled : List (List (List UInt8))) (n : ℕ) : Option (Board P T E) :=
  boardAfter site.prost site.options start (handled.take n)

/-- The router has executed the request of the call at position `k`, with this response. -/
def Executed (handled : List (List (List UInt8))) (c : C) (k : ℕ) (call : Call)
    (response : ControlEnvelopeV2) : Prop :=
  ∃ n before after, handled[n]? = some (question site c k call) ∧
    boardAt site start handled n = some before ∧ boardAt site start handled (n + 1) = some after ∧
    Serves site.prost
      (site.serialize (requestEnvelope (Client.after { route := site.route c } k) call))
      (requestEnvelope (Client.after { route := site.route c } k) call) response before after

/-- The message is the response to the call at position `k`. -/
def AnswersCall (handled : List (List (List UInt8))) (c : C) (asked : List Call) (k : ℕ)
    (bytes : List UInt8) : Prop :=
  ∃ call response, asked[k]? = some call ∧ Executed site start handled c k call response ∧
    bytes = site.prost.encodeToVec response

/-- What holds of a bridge. -/
structure Kept (handled : List (List (List UInt8))) (c : C) (station : Station) : Prop where
  client : station.client = Client.after { route := site.route c } station.finished.length
  inOrder : ((handled.filter fun frames ↦ frames.head? = some (site.identity (.inl c))) ++
    station.requests.map fun bytes ↦ [site.identity (.inl c), bytes]).Sublist
      (issued site c (station.calls.map bare))
  met : ∀ k call bytes, station.calls[k]? = some call → .message bytes ∈ call.turns →
    ∃ j ≤ k, AnswersCall site start handled c (station.calls.map bare) j bytes
  waiting : ∀ bytes ∈ station.responses, ∃ j < station.calls.length,
    AnswersCall site start handled c (station.calls.map bare) j bytes

end Invariant

section Steps

variable {site : Site C O} {start : Board P T E} {handled : List (List (List UInt8))} {c : C}
  {station : Station}

theorem AnswersCall.append_asked {asked : List Call} {k : ℕ} {bytes : List UInt8} (more : List Call)
    (h : AnswersCall site start handled c asked k bytes) :
    AnswersCall site start handled c (asked ++ more) k bytes := by
  obtain ⟨call, response, hcall, hexecuted⟩ := h
  refine ⟨call, response, ?_, hexecuted⟩
  rw [List.getElem?_append_left (List.getElem?_eq_some_iff.mp hcall).1]
  exact hcall

theorem boardAt_append {n : ℕ} (h : n ≤ handled.length) (frames : List (List UInt8)) :
    boardAt site start (handled ++ [frames]) n = boardAt site start handled n := by
  rw [boardAt, List.take_append_of_le_length h, boardAt]

theorem Executed.append_handled {k : ℕ} {call : Call} {response : ControlEnvelopeV2}
    (h : Executed site start handled c k call response) (frames : List (List UInt8)) :
    Executed site start (handled ++ [frames]) c k call response := by
  obtain ⟨n, before, after, hn, hbefore, hafter, hserves⟩ := h
  have hlt : n < handled.length := (List.getElem?_eq_some_iff.mp hn).1
  refine ⟨n, before, after, ?_, ?_, ?_, hserves⟩
  · rw [List.getElem?_append_left hlt]
    exact hn
  · rw [boardAt_append hlt.le]
    exact hbefore
  · rw [boardAt_append hlt]
    exact hafter

theorem AnswersCall.append_handled {asked : List Call} {k : ℕ} {bytes : List UInt8}
    (h : AnswersCall site start handled c asked k bytes) (frames : List (List UInt8)) :
    AnswersCall site start (handled ++ [frames]) c asked k bytes := by
  obtain ⟨call, response, hcall, hexecuted, hbytes⟩ := h
  exact ⟨call, response, hcall, hexecuted.append_handled frames, hbytes⟩

/-! ## Going on with a call -/

theorem calls_settle (parse : List UInt8 → Option ControlEnvelopeV2) (call : Call)
    (station : Station) :
    (station.settle parse call).calls = station.finished ++ [call] ∧
      (station.settle parse call).requests = station.requests ∧
      (station.settle parse call).responses = station.responses := by
  unfold Station.settle
  dsimp only
  split
  · exact ⟨rfl, rfl, rfl⟩
  · exact ⟨List.append_nil _, rfl, rfl⟩

theorem client_settle {parse : List UInt8 → Option ControlEnvelopeV2} {call : Call} {route : String}
    (h : station.client = Client.after { route } station.finished.length) :
    (station.settle parse call).client =
      Client.after { route } (station.settle parse call).finished.length := by
  unfold Station.settle
  dsimp only
  split
  · exact h
  · rw [List.length_append, List.length_singleton]
    change ({ station.client with nextMessageId := station.client.nextMessageId + 1 } : Client) = _
    rw [h]
    simp [Client.after, UInt64.ofNat_add, UInt64.add_assoc]

theorem kept_settle {call : Call}
    (hclient : station.client = Client.after { route := site.route c } station.finished.length)
    (hinOrder : ((handled.filter fun frames ↦ frames.head? = some (site.identity (.inl c))) ++
      station.requests.map fun bytes ↦ [site.identity (.inl c), bytes]).Sublist
        (issued site c ((station.finished ++ [call]).map bare)))
    (hmet : ∀ k other bytes, (station.finished ++ [call])[k]? = some other →
      .message bytes ∈ other.turns →
        ∃ j ≤ k, AnswersCall site start handled c ((station.finished ++ [call]).map bare) j bytes)
    (hwaiting : ∀ bytes ∈ station.responses, ∃ j < (station.finished ++ [call]).length,
      AnswersCall site start handled c ((station.finished ++ [call]).map bare) j bytes) :
    Kept site start handled c (station.settle site.parse call) := by
  obtain ⟨hcalls, hrequests, hresponses⟩ := calls_settle site.parse call station
  refine ⟨client_settle hclient, ?_, ?_, ?_⟩
  · rw [hcalls, hrequests]
    exact hinOrder
  · rw [hcalls]
    exact hmet
  · rw [hcalls, hresponses]
    exact hwaiting

theorem Kept.started (h : Kept site start handled c station) (call : Call) :
    Kept site start handled c (station.start site.toCodec call) := by
  unfold Station.start
  split
  · exact h
  · rename_i hcurrent
    have hcalls : station.calls = station.finished := by
      rw [Station.calls, hcurrent]
      exact List.append_nil _
    have hinOrder := h.inOrder
    have hmet := h.met
    have hwaiting := h.waiting
    rw [hcalls] at hinOrder hmet hwaiting
    apply kept_settle
    · exact h.client
    · change List.Sublist _
        (issued site c ((station.finished ++ [{ call with turns := [] }]).map bare))
      rw [List.map_append (f := bare), List.map_singleton, issued_concat, List.map_append,
        ← List.append_assoc]
      apply List.Sublist.append hinOrder
      rw [h.client, List.length_map]
      change List.Sublist _ (if call.sent then _ else _)
      split
      · exact List.Sublist.refl _
      · exact List.Sublist.refl _
    · intro k other bytes hother hbytes
      rcases Nat.lt_or_ge k station.finished.length with hk | hk
      · rw [List.getElem?_append_left hk] at hother
        obtain ⟨j, hj, hanswers⟩ := hmet k other bytes hother hbytes
        rw [List.map_append]
        exact ⟨j, hj, hanswers.append_asked _⟩
      · rw [List.getElem?_append_right hk] at hother
        obtain rfl := List.mem_singleton.mp (List.mem_of_getElem? hother)
        cases hbytes
    · intro bytes hbytes
      obtain ⟨j, hj, hanswers⟩ := hwaiting bytes hbytes
      rw [List.map_append, List.length_append]
      exact ⟨j, hj.trans_le (Nat.le_add_right _ _), hanswers.append_asked _⟩

theorem Kept.meet (h : Kept site start handled c station) {turn : Turn}
    (hturn : ∀ bytes, turn = .message bytes → ∃ j < station.calls.length,
      AnswersCall site start handled c (station.calls.map bare) j bytes) :
    Kept site start handled c (station.meet site.parse turn) := by
  unfold Station.meet
  split
  · exact h
  · rename_i call hcurrent
    have hcalls : station.calls = station.finished ++ [call] := by
      rw [Station.calls, hcurrent]
      rfl
    have hbare : (station.finished ++ [{ call with turns := call.turns ++ [turn] }]).map bare =
        station.calls.map bare := by
      rw [hcalls, List.map_append, List.map_append]
      rfl
    have hlength : (station.finished ++ [{ call with turns := call.turns ++ [turn] }]).length =
        station.calls.length := by
      rw [hcalls, List.length_append, List.length_append]
      rfl
    apply kept_settle h.client
    · rw [hbare]
      exact h.inOrder
    · intro k other bytes hother hbytes
      rw [hbare]
      rcases Nat.lt_or_ge k station.finished.length with hk | hk
      · rw [List.getElem?_append_left hk] at hother
        apply h.met k other bytes _ hbytes
        rw [hcalls, List.getElem?_append_left hk]
        exact hother
      · have hlast : k = station.finished.length := by
          have hlt := (List.getElem?_eq_some_iff.mp hother).1
          rw [List.length_append, List.length_singleton] at hlt
          omega
        rw [List.getElem?_append_right hk] at hother
        obtain rfl := List.mem_singleton.mp (List.mem_of_getElem? hother)
        subst hlast
        rcases List.mem_append.mp hbytes with hold | hnew
        · apply h.met _ call bytes _ hold
          rw [hcalls, List.getElem?_append_right (Nat.le_refl _), Nat.sub_self]
          rfl
        · obtain ⟨j, hj, hanswers⟩ := hturn bytes (List.mem_singleton.mp hnew).symm
          rw [hcalls, List.length_append, List.length_singleton] at hj
          exact ⟨j, Nat.lt_succ_iff.mp hj, hanswers⟩
    · intro bytes hbytes
      rw [hbare, hlength]
      exact h.waiting bytes hbytes

theorem Kept.read (h : Kept site start handled c station) :
    Kept site start handled c (station.read site.parse) := by
  unfold Station.read
  split
  · rename_i bytes responses hcurrent hresponses
    have hwaiting := h.waiting
    rw [hresponses] at hwaiting
    have hrest : Kept site start handled c { station with responses } :=
      ⟨h.client, h.inOrder, h.met, fun other hother ↦
        hwaiting other (List.mem_cons_of_mem _ hother)⟩
    apply hrest.meet
    rintro _ ⟨⟩
    exact hwaiting bytes List.mem_cons_self
  · exact h

/-! ## The router's turn -/

/-- The router has taken this message next, and what it has from the bridge is still in order. -/
def InOrderWith (site : Site C O) (handled : List (List (List UInt8))) (c : C) (station : Station)
    (frames : List (List UInt8)) : Prop :=
  (((handled ++ [frames]).filter fun message ↦ message.head? = some (site.identity (.inl c))) ++
    station.requests.map fun bytes ↦ [site.identity (.inl c), bytes]).Sublist
      (issued site c (station.calls.map bare))

theorem Kept.inOrderWith_other (h : Kept site start handled c station) {frames : List (List UInt8)}
    (hother : frames.head? ≠ some (site.identity (.inl c))) :
    InOrderWith site handled c station frames := by
  have hsame : (handled ++ [frames]).filter (fun message ↦
      message.head? = some (site.identity (.inl c))) =
        handled.filter fun message ↦ message.head? = some (site.identity (.inl c)) := by
    rw [List.filter_append, List.filter_singleton]
    simp [hother]
  unfold InOrderWith
  rw [hsame]
  exact h.inOrder

/-- What holds of a bridge still holds when the router has handled a message. -/
theorem Kept.router (h : Kept site start handled c station) {frames : List (List UInt8)}
    {responses : List (List UInt8)} (hinOrder : InOrderWith site handled c station frames)
    (hresponses : ∀ bytes ∈ responses, bytes ∈ station.responses ∨ ∃ j < station.calls.length,
      AnswersCall site start (handled ++ [frames]) c (station.calls.map bare) j bytes) :
    Kept site start (handled ++ [frames]) c { station with responses } := by
  refine ⟨h.client, hinOrder, fun k call bytes hcall hbytes ↦ ?_, fun bytes hbytes ↦ ?_⟩
  · obtain ⟨j, hj, hanswers⟩ := h.met k call bytes hcall hbytes
    exact ⟨j, hj, hanswers.append_handled frames⟩
  · rcases hresponses bytes hbytes with hold | hnew
    · obtain ⟨j, hj, hanswers⟩ := h.waiting bytes hold
      exact ⟨j, hj, hanswers.append_handled frames⟩
    · exact hnew

theorem boardAfter_append {board : Board P T E}
    (h : boardAfter site.prost site.options start handled = some board)
    (frames : List (List UInt8)) :
    boardAfter site.prost site.options start (handled ++ [frames]) =
      take site.prost site.options board frames := by
  unfold boardAfter at h ⊢
  rw [List.foldlM_append, h]
  simp

/-- What the bridge receives is the response to the request that the router has just executed. -/
theorem answersCall_received {board after : Board P T E} {asked : List Call}
    {frames : List (List UInt8)}
    (hboard : boardAfter site.prost site.options start handled = some board)
    (htake : take site.prost site.options board frames = some after)
    (hissued : frames.head? = some (site.identity (.inl c)) → frames ∈ issued site c asked) :
    ∀ bytes ∈ receivedBy (site.identity (.inl c)) after.socket.sent, ∃ j < asked.length,
      AnswersCall site start (handled ++ [frames]) c asked j bytes := by
  intro bytes hbytes
  by_cases hfrom : frames.head? = some (site.identity (.inl c))
  · obtain ⟨k, call, hcall, -, rfl⟩ := (mem_issued site c).mp (hissued hfrom)
    obtain ⟨response, rfl, hserves⟩ :=
      receivedBy_request htake (site.decode_serialize _) bytes hbytes
    refine ⟨k, (List.getElem?_eq_some_iff.mp hcall).1, call, response, hcall, ?_, rfl⟩
    refine ⟨handled.length, board, after, by simp, ?_, ?_, hserves⟩
    · rw [boardAt, List.take_left]
      exact hboard
    · rw [boardAt, List.take_of_length_le (by simp), boardAfter_append hboard]
      exact htake
  · rw [receivedBy_of_ne htake hfrom] at hbytes
    cases hbytes

/-- What holds in every state that can be reached. -/
structure Reliable (site : Site C O) (start : Board P T E) (network : State C P T E) : Prop where
  board : ∀ board, network.board = some board →
    boardAfter site.prost site.options start network.handled = some board
  stations : ∀ c, Kept site start network.handled c (network.stations c)

theorem Reliable.handle {network : State C P T E} (h : Reliable site start network)
    {frames : List (List UInt8)}
    (hinOrder : ∀ c, InOrderWith site network.handled c (network.stations c) frames)
    (hissued : ∀ c, frames.head? = some (site.identity (.inl c)) →
      frames ∈ issued site c ((network.stations c).calls.map bare)) :
    Reliable site start (network.handle site frames) := by
  unfold State.handle
  split
  · exact h
  · rename_i board hboard
    have hbefore := h.board board hboard
    split
    · refine ⟨fun now hnow ↦ ?_, fun c ↦ (h.stations c).router (hinOrder c) fun _ hold ↦ .inl hold⟩
      cases hnow
    · rename_i after htake
      refine ⟨fun now hnow ↦ ?_, fun c ↦ (h.stations c).router (hinOrder c) fun bytes hbytes ↦ ?_⟩
      · obtain rfl := Option.some.inj hnow
        rw [boardAfter_append hbefore]
        exact htake
      · rcases List.mem_append.mp hbytes with hold | hnew
        · exact .inl hold
        · obtain ⟨j, hj, hanswers⟩ := answersCall_received hbefore htake (hissued c) bytes hnew
          rw [List.length_map] at hj
          exact .inr ⟨j, hj, hanswers⟩

/-! ## What a call meets -/

/-- A response of the router answers the number of its request. -/
theorem Executed.fields {k : ℕ} {call : Call} {response : ControlEnvelopeV2}
    (h : Executed site start handled c k call response) :
    response.correlId = msgIdAt k ∧ response.type = Router.responseType call.requestType := by
  obtain ⟨n, before, after, -, -, -, preflight, mid, -, -, hresponse⟩ := h
  have hmade : IsResponse T E _ response := ⟨response.payload, mid, after.backend, hresponse⟩
  exact hmade.fields

/-- What a call meets answers an earlier call or it. -/
theorem Kept.message (h : Kept site start handled c station) {k : ℕ} {call : Call}
    {bytes : List UInt8}
    (hcall : station.calls[k]? = some call) (hbytes : .message bytes ∈ call.turns)
    (hlength : station.calls.length ≤ 2 ^ 64) :
    Stale site.parse (msgIdAt k) (.message bytes) ∨ ∃ response,
      site.parse bytes = some response ∧ Executed site start handled c k call response := by
  obtain ⟨j, hj, asked, response, hasked, hexecuted, rfl⟩ := h.met k call bytes hcall hbytes
  have hk := (List.getElem?_eq_some_iff.mp hcall).1
  have hparse := site.parse_encode response
  rcases Nat.lt_or_eq_of_le hj with hlt | rfl
  · refine .inl ⟨_, response, rfl, hparse, ?_, ?_⟩
    · rw [hexecuted.fields.1]
      exact msgIdAt_ne_zero (by omega)
    · rw [hexecuted.fields.1]
      exact msgIdAt_ne hlt (by omega)
  · rw [List.getElem?_map, hcall] at hasked
    obtain rfl := Option.some.inj hasked
    exact .inr ⟨response, hparse, hexecuted⟩

/-! ## Runs -/

theorem Kept.fewer_requests (h : Kept site start handled c station) {requests : List (List UInt8)}
    (hfewer : requests.Sublist station.requests) :
    Kept site start handled c { station with requests } :=
  ⟨h.client, ((List.Sublist.refl _).append (hfewer.map _)).trans h.inOrder, h.met, h.waiting⟩

theorem Kept.fewer_responses (h : Kept site start handled c station) {responses : List (List UInt8)}
    (hfewer : responses.Sublist station.responses) :
    Kept site start handled c { station with responses } :=
  ⟨h.client, h.inOrder, h.met, fun bytes hbytes ↦ h.waiting bytes (hfewer.subset hbytes)⟩

variable [DecidableEq C] {network : State C P T E}

theorem Reliable.change (h : Reliable site start network) (c : C) (f : Station → Station)
    (hf : Kept site start network.handled c (f (network.stations c))) :
    Reliable site start (network.change c f) := by
  refine ⟨h.board, fun other ↦ ?_⟩
  change Kept site start network.handled other (Function.update network.stations c _ other)
  by_cases heq : other = c
  · subst heq
    rw [Function.update_self]
    exact hf
  · rw [Function.update_of_ne heq]
    exact h.stations other

theorem Reliable.deliver (h : Reliable site start network) {bytes : List UInt8}
    {requests : List (List UInt8)} (hrequests : (network.stations c).requests = bytes :: requests) :
    Reliable site start ((network.change c fun station ↦ { station with requests }).handle site
      [site.identity (.inl c), bytes]) := by
  have hinOrder := (h.stations c).inOrder
  rw [hrequests, List.map_cons] at hinOrder
  have hchanged := h.change c (fun station ↦ { station with requests })
    ((h.stations c).fewer_requests (hrequests ▸ List.sublist_cons_self _ _))
  have hstation : (network.change c fun station ↦ { station with requests }).stations c =
      { network.stations c with requests } := Function.update_self ..
  have hother {other : C} (heq : ¬ other = c) :
      [site.identity (.inl c), bytes].head? ≠ some (site.identity (.inl other)) := by
    intro hsame
    exact heq (Sum.inl.inj (site.identity_injective (Option.some.inj hsame))).symm
  apply hchanged.handle
  · intro other
    by_cases heq : other = c
    · subst heq
      unfold InOrderWith
      rw [hstation]
      change List.Sublist (List.filter _ (network.handled ++ [_]) ++ _) _
      rw [List.filter_append, List.filter_singleton, List.append_assoc]
      simp only [List.head?_cons, decide_true]
      exact hinOrder
    · exact (hchanged.stations other).inOrderWith_other (hother heq)
  · intro other hfrom
    by_cases heq : other = c
    · subst heq
      rw [hstation]
      exact hinOrder.subset (List.mem_append_right _ List.mem_cons_self)
    · exact absurd hfrom (hother heq)

theorem Reliable.step (h : Reliable site start network) (action : Action C O) :
    Reliable site start (step site network action) := by
  cases action with
  | start c call => exact h.change c _ ((h.stations c).started call)
  | deliver c =>
    unfold Network.step
    dsimp only
    split
    · exact h
    · exact h.deliver ‹_›
  | other o frames =>
    have hother (c : C) : (site.identity (.inr o) :: frames).head? ≠
        some (site.identity (.inl c)) := by
      intro hsame
      have hpeers := site.identity_injective (Option.some.inj hsame)
      cases hpeers
    exact h.handle (fun c ↦ (h.stations c).inOrderWith_other (hother c)) fun c hfrom ↦
      absurd hfrom (hother c)
  | loseRequest c i =>
    exact h.change c (fun station ↦ { station with requests := station.requests.eraseIdx i })
      ((h.stations c).fewer_requests (List.eraseIdx_sublist _ _))
  | loseResponse c i =>
    exact h.change c (fun station ↦ { station with responses := station.responses.eraseIdx i })
      ((h.stations c).fewer_responses (List.eraseIdx_sublist _ _))
  | read c => exact h.change c _ (h.stations c).read
  | giveUp c silent =>
    apply h.change c
    apply (h.stations c).meet
    intro bytes hturn
    split at hturn <;> cases hturn

theorem reliable_run (site : Site C O) (start : Board P T E) (actions : List (Action C O)) :
    Reliable site start (run site start actions) := by
  have hfirst : Reliable site start (Network.start site start) := by
    refine ⟨fun board hboard ↦ ?_, fun c ↦ ⟨(Client.after_zero _).symm, ?_, ?_, ?_⟩⟩
    · obtain rfl := Option.some.inj hboard
      rfl
    · exact List.nil_sublist _
    · intro k call bytes hcall
      cases hcall
    · intro bytes hbytes
      cases hbytes
  unfold run
  induction actions using List.reverseRecOn with
  | nil => exact hfirst
  | append_singleton actions action ih =>
    rw [List.foldl_append]
    exact ih.step action

/-! ## Calls -/

/-- What can be said of a bridge and the router. -/
structure ExecutedOnce (site : Site C O) (start : Board P T E) (c : C) (network : State C P T E) :
    Prop where
  inOrder :
    (network.handled.filter fun frames ↦ frames.head? = some (site.identity (.inl c))).Sublist
    (issued site c (network.stations c).calls)
  once : (network.stations c).calls.length ≤ 2 ^ 64 →
    (network.handled.filter fun frames ↦ frames.head? = some (site.identity (.inl c))).Nodup
  returned : (network.stations c).calls.length ≤ 2 ^ 64 → ∀ (k : ℕ) (call : Call)
    (response : ControlEnvelopeV2), (network.stations c).calls[k]? = some call →
    (outcomes site.parse { route := site.route c } (network.stations c).calls)[k]? =
      some (some (.ok response)) → Executed site start network.handled c k call response
  failed : (network.stations c).calls.length ≤ 2 ^ 64 → ∀ (k : ℕ) (call : Call)
    (e : RuntimeError), (network.stations c).calls[k]? = some call → call.ProtocolPair →
    (outcomes site.parse { route := site.route c } (network.stations c).calls)[k]? =
      some (some (.error e)) → e = sendTimedOut ∨ e = receiveTimedOut

/-- However the bridges, the router and the others take turns and whatever is late or lost: the
router executes the requests of each bridge in the order of its calls. In the first 2^64 of them,
until the request numbers repeat, it executes none twice, a call returns the response from the
execution of its own request, and it fails for lack of time only. -/
theorem calls_executed_once (site : Site C O) (start : Board P T E) (actions : List (Action C O))
    (c : C) :
    ExecutedOnce site start c (run site start actions) := by
  have h := (reliable_run site start actions).stations c
  have hinOrder := (List.sublist_append_left _ _).trans h.inOrder
  rw [issued_bare] at hinOrder
  have houtcome {k : ℕ} {call : Call}
      (hcall : ((run site start actions).stations c).calls[k]? = some call) :
      (outcomes site.parse { route := site.route c }
          ((run site start actions).stations c).calls)[k]? =
        some (if ¬ call.sent then some (.error sendTimedOut)
          else receive site.parse (msgIdAt k) call.responseType call.turns) := by
    rw [outcomes_getElem?, hcall]
    rfl
  refine ⟨hinOrder, fun hlength ↦ hinOrder.nodup (nodup_issued hlength),
    fun hlength k call response hcall hreturned ↦ ?_, fun hlength k call e hcall hpair hfailed ↦ ?_⟩
  · rw [houtcome hcall] at hreturned
    split at hreturned
    · cases hreturned
    · obtain ⟨bytes, hmem, hparse, hmatch⟩ := receive_ok (Option.some.inj hreturned)
      rcases h.message hcall hmem hlength with hstale | ⟨own, hown, hexecuted⟩
      · obtain ⟨_, other, heq, hother, hmismatch⟩ := hstale
        cases heq
        obtain rfl := Option.some.inj (hparse.symm.trans hother)
        exact absurd hmismatch hmatch
      · obtain rfl := Option.some.inj (hparse.symm.trans hown)
        exact hexecuted
  · rw [houtcome hcall] at hfailed
    split at hfailed
    · exact .inl (Except.error.inj (Option.some.inj (Option.some.inj hfailed))).symm
    · refine .inr (receive_error (fun bytes hmem ↦ ?_) (Option.some.inj hfailed))
      rcases h.message hcall hmem hlength with hstale | ⟨own, hown, hexecuted⟩
      · exact .inl hstale
      · exact .inr ⟨own, hown, hexecuted.fields.2.trans hpair.responseType_eq⟩

end Steps

/-! ## A late response

Two bridges, one of which gives up a call and meets its response in the next one. -/

noncomputable def twoBridges : Site Bool Unit where
  toCodec := plainCodec
  options := {}
  identity
    | .inl false => [1]
    | .inl true => [2]
    | .inr () => [3]
  identity_injective := by
    rintro ((_ | _) | _) ((_ | _) | _) h <;> first | rfl | cases h
  route _ := ""

abbrev TestBoard := Board LinuxPreflight FailClosedRpuTransport StillHost

def idleBoard : TestBoard where
  socket := {}
  preflight := LinuxPreflight.withTtl 1000000000 (fun _ ↦ none) fadingHost
  backend := ⟨⟨⟩, ⟨⟩, 1⟩

/-- The request for the test register that a new client makes after `k` others. -/
def testRegRequest (k : ℕ) : ControlEnvelopeV2 :=
  requestEnvelope (Client.after { route := "" } k) (testRegCall true [])

noncomputable def testRegAnswer (k : ℕ) (seq : UInt64) : ControlEnvelopeV2 where
  version := 2
  dir := dirResponse
  type := 305
  payload := handleNotImplemented twoBridges.prost .readTestRegReq
  taskId := msgIdAt k
  msgId := (((0 : UInt64) <<< 16) ^^^ seq) &&& (((1 : UInt64) <<< 63) - 1)
  correlId := msgIdAt k

theorem take_testReg (board : TestBoard) (identity : List UInt8) (k : ℕ) :
    take twoBridges.prost twoBridges.options board [identity, writeEnvelope (testRegRequest k)] =
      some {
        socket := { sent := [[identity,
          twoBridges.prost.encodeToVec (testRegAnswer k board.backend.nextMsgSeq)]] }
        preflight := board.preflight
        backend := { board.backend with nextMsgSeq := board.backend.nextMsgSeq + 1 } } := by
  have hdecode : (twoBridges.prost.decode (writeEnvelope (testRegRequest k)) :
      Except DecodeError ControlEnvelopeV2) = .ok (testRegRequest k) :=
    twoBridges.decode_serialize _
  have hneeds : needsPreflight twoBridges.prost (writeEnvelope (testRegRequest k)) = false := by
    unfold needsPreflight
    rw [hdecode]
    rfl
  have hanswer : handleEnvelope twoBridges.prost (writeEnvelope (testRegRequest k)) .ready
      board.backend = .ok (some (twoBridges.prost.encodeToVec
        (testRegAnswer k board.backend.nextMsgSeq)))
        { board.backend with nextMsgSeq := board.backend.nextMsgSeq + 1 } := by
    have hpayload :
        (handlePayload twoBridges.prost (testRegRequest k).type (testRegRequest k).payload
        .ready : Prog Empty (Backend FailClosedRpuTransport StillHost) (List UInt8)) =
          pure (handleNotImplemented twoBridges.prost .readTestRegReq) := rfl
    have hresponse : makeResponse (testRegRequest k)
        (handleNotImplemented twoBridges.prost .readTestRegReq) board.backend =
          .ok (testRegAnswer k board.backend.nextMsgSeq)
            { board.backend with nextMsgSeq := board.backend.nextMsgSeq + 1 } := by
      have htype : responseType (testRegRequest k).type = 305 :=
        (testRegCall_protocolPair true []).responseType_eq
      unfold makeResponse
      rw [htype]
      rfl
    have hrequest : ¬ ((testRegRequest k).version ≠ 2 ∨ (testRegRequest k).dir ≠ dirRequest) := by
      simp [testRegRequest, requestEnvelope]
    unfold Router.handleEnvelope
    rw [hdecode]
    dsimp only
    rw [if_neg hrequest, hpayload, pure_bind, run_bind, hresponse]
    rfl
  have hsize : (writeEnvelope (testRegRequest k)).length ≤ twoBridges.options.maxEnvelopeBytes := by
    have hlength : (writeEnvelope (testRegRequest k)).length = 45 := by
      simp [writeEnvelope, testRegRequest, requestEnvelope, Client.after, testRegCall, writeBytes]
    rw [hlength]
    decide
  have hrun : iteration twoBridges.prost twoBridges.options
      ({ board with socket := { arrived := [[identity, writeEnvelope (testRegRequest k)]] } } :
        TestBoard) = _ :=
    run_iteration hsize (by rw [hneeds]; rfl) hanswer
  rw [take, hrun]
  rfl

abbrev TestNetwork := State Bool LinuxPreflight FailClosedRpuTransport StillHost

/-- The board is running and numbers its next response so, and these are the bridges. -/
structure Shows (network : TestNetwork) (seq : UInt64) (stations : Bool → Station) : Prop where
  running : ∃ board, network.board = some board ∧ board.backend.nextMsgSeq = seq
  stations_eq : network.stations = stations

section Shows

variable {network : TestNetwork} {seq : UInt64} {stations : Bool → Station}

theorem Shows.change (h : Shows network seq stations) (c : Bool) (f : Station → Station) :
    Shows (network.change c f) seq (Function.update stations c (f (stations c))) := by
  refine ⟨h.running, ?_⟩
  rw [← h.stations_eq]
  rfl

/-- Someone else sends a message that is passed over. -/
theorem Shows.other (h : Shows network seq stations) :
    Shows (step twoBridges network (.other () [])) seq stations := by
  obtain ⟨board, hboard, rfl⟩ := h.running
  have htake : take twoBridges.prost twoBridges.options board [[3]] =
      some { board with socket := {} } := rfl
  change Shows (network.handle twoBridges [[3]]) _ _
  unfold State.handle
  rw [hboard]
  dsimp only
  rw [htake]
  refine ⟨⟨_, rfl, rfl⟩, funext fun c ↦ ?_⟩
  rw [← h.stations_eq]
  change { network.stations c with responses := (network.stations c).responses ++ [] } = _
  rw [List.append_nil]

/-- The router answers the request of a bridge. -/
theorem Shows.deliver (h : Shows network seq stations) (c : Bool) {k : ℕ}
    (hrequests : (stations c).requests = [writeEnvelope (testRegRequest k)]) :
    Shows (step twoBridges network (.deliver c)) (seq + 1) (Function.update stations c
      { stations c with
        requests := []
        responses := (stations c).responses ++
          [twoBridges.prost.encodeToVec (testRegAnswer k seq)] }) := by
  have hstation : (network.stations c).requests = [writeEnvelope (testRegRequest k)] := by
    rw [h.stations_eq, hrequests]
  obtain ⟨⟨board, hboard, rfl⟩, hstations⟩ :=
    h.change c fun station ↦ { station with requests := [] }
  unfold step
  dsimp only
  rw [hstation]
  dsimp only
  unfold State.handle
  rw [hboard]
  dsimp only
  rw [take_testReg]
  refine ⟨⟨_, rfl, rfl⟩, funext fun other ↦ ?_⟩
  dsimp only
  rw [hstations]
  by_cases hother : other = c
  · subst hother
    rw [Function.update_self, Function.update_self]
    cases other <;> rfl
  · rw [Function.update_of_ne hother, Function.update_of_ne hother]
    have hnone : receivedBy (twoBridges.identity (.inl other)) [[twoBridges.identity (.inl c),
        twoBridges.prost.encodeToVec (testRegAnswer k board.backend.nextMsgSeq)]] = [] := by
      have hne : twoBridges.identity (.inl c) ≠ twoBridges.identity (.inl other) :=
        fun hsame ↦ hother (Sum.inl.inj (twoBridges.identity_injective hsame)).symm
      simp [receivedBy, hne]
    rw [hnone, List.append_nil]

end Shows

/-- The first call of one bridge is given up before its response is read. The other bridge makes a
call meanwhile, and a third party sends a message. -/
def lateActions : List (Action Bool Unit) :=
  [.start false (testRegCall true []), .deliver false, .giveUp false true,
    .start true (testRegCall true []), .start false (testRegCall true []), .other () [],
    .deliver true, .deliver false, .read false, .read false]

noncomputable def lateBytes (k : ℕ) (seq : UInt64) : List UInt8 :=
  twoBridges.prost.encodeToVec (testRegAnswer k seq)

theorem parse_lateBytes (k : ℕ) (seq : UInt64) :
    twoBridges.parse (lateBytes k seq) = some (testRegAnswer k seq) :=
  twoBridges.parse_encode _

theorem stations_late : ((run twoBridges idleBoard lateActions).stations false).calls =
    [testRegCall true [.silent],
      testRegCall true [.message (lateBytes 0 1), .message (lateBytes 1 3)]] := by
  have hstart : Shows (start twoBridges idleBoard) 1 fun _ ↦ { client := { route := "" } } :=
    ⟨⟨_, rfl, rfl⟩, rfl⟩
  have hlate :=
    (hstart.change false (.start plainCodec (testRegCall true []))).deliver false (k := 0) rfl
  have hgiven := hlate.change false (.meet twoBridges.parse .silent)
  have hother := ((hgiven.change true (.start plainCodec (testRegCall true []))).change false
    (.start plainCodec (testRegCall true []))).other
  have hanswered := (hother.deliver true (k := 0) rfl).deliver false (k := 1) rfl
  have hread :=
    (hanswered.change false (.read twoBridges.parse)).change false (.read twoBridges.parse)
  change Shows (run twoBridges idleBoard lateActions) _ _ at hread
  rw [hread.stations_eq]
  have hstale : receive twoBridges.parse 2 305 [.message (lateBytes 0 1)] = none := by
    rw [receive, parse_lateBytes]
    rfl
  have hwaiting : Station.read twoBridges.parse {
      client := Client.after { route := "" } 1
      finished := [testRegCall true [.silent]]
      current := some (testRegCall true [])
      responses := [lateBytes 0 1, lateBytes 1 3] } = {
      client := Client.after { route := "" } 1
      finished := [testRegCall true [.silent]]
      current := some (testRegCall true [.message (lateBytes 0 1)])
      responses := [lateBytes 1 3] } := by
    have hsent : sendRequest twoBridges.parse (Client.after { route := "" } 1)
        (testRegCall true [.message (lateBytes 0 1)]) = (none, Client.after { route := "" } 2) :=
      Prod.ext hstale rfl
    change Station.settle twoBridges.parse (testRegCall true [.message (lateBytes 0 1)]) _ = _
    unfold Station.settle
    rw [hsent]
  change Station.calls (.read twoBridges.parse (.read twoBridges.parse {
      client := Client.after { route := "" } 1
      finished := [testRegCall true [.silent]]
      current := some (testRegCall true [])
      responses := [lateBytes 0 1, lateBytes 1 3] })) = _
  rw [hwaiting]
  exact (calls_settle _ (testRegCall true [.message (lateBytes 0 1), .message (lateBytes 1 3)]) _).1

theorem calls_executed_once_late :
    ExecutedOnce twoBridges idleBoard false (run twoBridges idleBoard lateActions) ∧
    outcomes twoBridges.parse { route := "" }
        ((run twoBridges idleBoard lateActions).stations false).calls =
      [some (.error receiveTimedOut), some (.ok (testRegAnswer 1 3))] ∧
    Executed twoBridges idleBoard (run twoBridges idleBoard lateActions).handled false 1
      (testRegCall true [.message (lateBytes 0 1), .message (lateBytes 1 3)])
        (testRegAnswer 1 3) := by
  have honce := calls_executed_once twoBridges idleBoard lateActions false
  have hown : receive twoBridges.parse 2 305 [.message (lateBytes 0 1), .message (lateBytes 1 3)] =
      some (.ok (testRegAnswer 1 3)) := by
    rw [receive, parse_lateBytes]
    dsimp only
    rw [if_pos (by decide +kernel), receive, parse_lateBytes]
    rfl
  have houtcomes : outcomes twoBridges.parse { route := "" }
      ((run twoBridges idleBoard lateActions).stations false).calls =
        [some (.error receiveTimedOut), some (.ok (testRegAnswer 1 3))] := by
    rw [stations_late]
    change [some (.error receiveTimedOut), receive twoBridges.parse 2 305
      [.message (lateBytes 0 1), .message (lateBytes 1 3)]] = _
    rw [hown]
  refine ⟨honce, houtcomes, honce.returned ?_ 1 _ _ ?_ ?_⟩
  · rw [stations_late]
    decide
  · rw [stations_late]
    rfl
  · change (outcomes twoBridges.parse { route := "" } _)[1]? = _
    rw [houtcomes]
    rfl

end DaphneSc.Bridge.Network
