import DaphneSc.Bridge.Methods

/-!
# What a method call has to pass

The checks before an operation is executed are made in four places: the configuration is refused
without credentials and policy, the context of a method is executable or not from the beginning, a
login finds a credential or fails, and the callback compares roles. Together they leave one way to
an execution, whatever the sessions do, and what is then sent is what the control policy names.
-/

namespace DaphneSc.Bridge

open DaphneClient Program Server.Pb

/-- What stays the same while the server runs. -/
structure MethodServer where
  config : Config
  methods : List MethodNode
  codecs : Codecs

namespace MethodServer

/-- The boards, and the credential of every session that has one. -/
structure State where
  boards : List Board
  sessions : ℕ → Option Credential

/-- What happens to the server. The requests of a poll go over the client of the board too. -/
inductive Event where
  | login (session : ℕ) (username password : Text)
  | anonymous (session : ℕ)
  | close (session : ℕ)
  | poll (board : ℕ) (requests : List Call)
  | call (session : ℕ) (methodId : Text) (arguments : Arguments) (meeting : Meeting)

variable (server : MethodServer)

/-- The boards of `main`, before the first request. -/
def start : State where
  boards := server.config.daphneIds.map fun id ↦
    { id, client := { route := String.ofList ((server.config.daphneRoutes id).getD []) } }
  sessions _ := none

/-- One request of a poll. -/
def pollRequest (board : Board) (request : Call) : Board :=
  { board with
    client := (sendRequest server.codecs.envelope board.client request).2
    sent := board.sent ++ [requestEnvelope board.client request] }

/-- The context that the server has for a method. -/
def contextOf (methodId : Text) : Option MethodContext :=
  (server.methods.find? fun node ↦ node.nodeId = methodId).map MethodNode.context

def call (s : State) (session : ℕ) (methodId : Text) (arguments : Arguments) (meeting : Meeting) :
    Called :=
  daphneMethodCallback server.codecs server.config s.boards (s.sessions session)
    (server.contextOf methodId) arguments meeting

def step (s : State) : Event → State
  | .login session username password =>
    match loginCallback server.config username password with
    | none => s
    | some credential =>
      { s with sessions := Function.update s.sessions session (some credential) }
  | .anonymous session => { s with sessions := Function.update s.sessions session none }
  | .close session => { s with sessions := Function.update s.sessions session none }
  | .poll board requests =>
    { s with boards := s.boards.modify board fun b ↦ requests.foldl server.pollRequest b }
  | .call session methodId arguments meeting =>
    { s with boards := (server.call s session methodId arguments meeting).boards }

def run (events : List Event) : State := events.foldl server.step server.start

/-! ## Sessions -/

/-- The event gives the session another credential, or none. -/
def Changes (config : Config) (session : ℕ) : Event → Prop
  | .login session' username password =>
    session' = session ∧ loginCallback config username password ≠ none
  | .anonymous session' => session' = session
  | .close session' => session' = session
  | _ => False

/-- The session has been opened with the credential, and nothing has come after it. -/
def OpenedWith (config : Config) (events : List Event) (session : ℕ) (credential : Credential) :
    Prop :=
  ∃ earlier later, events = earlier ++ .login session credential.username credential.password ::
    later ∧
    loginCallback config credential.username credential.password = some credential ∧
    ∀ event ∈ later, ¬ Changes config session event

variable {server} {config : Config} {session : ℕ} {credential : Credential} {events : List Event}
  {event : Event} {username password : Text} {s : State}

theorem loginCallback_some (h : loginCallback config username password = some credential) :
    credential ∈ config.credentials ∧ credential.username = username ∧
      credential.password = password := by
  have hfound := List.find?_some h
  simp only [decide_eq_true_eq] at hfound
  exact ⟨List.mem_of_find?_eq_some h, hfound⟩

theorem OpenedWith.mem (h : OpenedWith config events session credential) :
    credential ∈ config.credentials := by
  obtain ⟨_, _, _, hlogin, _⟩ := h
  exact (loginCallback_some hlogin).1

theorem OpenedWith.concat (h : OpenedWith config events session credential)
    (hevent : ¬ Changes config session event) :
    OpenedWith config (events ++ [event]) session credential := by
  obtain ⟨earlier, later, hsplit, hlogin, hlater⟩ := h
  refine ⟨earlier, later ++ [event], ?_, hlogin, ?_⟩
  · rw [hsplit, List.append_assoc, List.cons_append]
  · intro other hother
    cases List.mem_append.mp hother with
    | inl hmem => exact hlater other hmem
    | inr hmem =>
      rw [List.mem_singleton.mp hmem]
      exact hevent

/-- An event that does not change the session leaves its credential. -/
theorem step_sessions (hevent : ¬ Changes server.config session event) :
    (server.step s event).sessions session = s.sessions session := by
  cases event with
  | login session' username password =>
    rw [step]
    cases hlogin : loginCallback server.config username password with
    | none => rfl
    | some credential =>
      have hne : session ≠ session' := by
        intro heq
        exact hevent ⟨heq.symm, by rw [hlogin]; exact Option.some_ne_none _⟩
      exact Function.update_of_ne hne _ _
  | anonymous session' => exact Function.update_of_ne (fun heq ↦ hevent heq.symm) _ _
  | close session' => exact Function.update_of_ne (fun heq ↦ hevent heq.symm) _ _
  | poll board requests => rfl
  | call session' methodId arguments meeting => rfl

/-- An event that changes the session is a login with the credential, or leaves it without one. -/
theorem step_changes (hevent : Changes server.config session event)
    (h : (server.step s event).sessions session = some credential) :
    event = .login session credential.username credential.password ∧
      loginCallback server.config credential.username credential.password = some credential := by
  cases event with
  | login session' username password =>
    obtain ⟨rfl, hlogin⟩ := hevent
    rw [step] at h
    cases hfound : loginCallback server.config username password with
    | none => exact absurd hfound hlogin
    | some found =>
      rw [hfound] at h
      have hset : Function.update s.sessions session' (some found) session' = some credential := h
      rw [Function.update_self] at hset
      obtain rfl : found = credential := Option.some.inj hset
      obtain ⟨-, rfl, rfl⟩ := loginCallback_some hfound
      exact ⟨rfl, hfound⟩
  | anonymous session' =>
    obtain rfl := hevent
    have hset : Function.update s.sessions session' none session' = some credential := h
    rw [Function.update_self] at hset
    cases hset
  | close session' =>
    obtain rfl := hevent
    have hset : Function.update s.sessions session' none session' = some credential := h
    rw [Function.update_self] at hset
    cases hset
  | poll board requests => exact hevent.elim
  | call session' methodId arguments meeting => exact hevent.elim

theorem run_concat : server.run (events ++ [event]) = server.step (server.run events) event := by
  rw [run, List.foldl_append]
  rfl

/-- A session with a credential has been opened with it. -/
theorem openedWith_of_sessions (h : (server.run events).sessions session = some credential) :
    OpenedWith server.config events session credential := by
  induction events using List.reverseRecOn with
  | nil => cases h
  | append_singleton events event ih =>
    rw [run_concat] at h
    by_cases hevent : Changes server.config session event
    · obtain ⟨rfl, hlogin⟩ := step_changes hevent h
      exact ⟨events, [], rfl, hlogin, fun _ hmem ↦ absurd hmem List.not_mem_nil⟩
    · rw [step_sessions hevent] at h
      exact (ih h).concat hevent

/-! ## Boards -/

variable {boards boards' : List Board} {index : ℕ} {id : Text} {requestType : Int32}

/-- A board keeps its id in a poll. -/
theorem id_foldl_pollRequest (requests : List Call) (board : Board) :
    (requests.foldl server.pollRequest board).id = board.id := by
  induction requests generalizing board with
  | nil => rfl
  | cons request requests ih =>
    rw [List.foldl_cons, ih]
    rfl

theorem map_id_set {board board' : Board} (hboard : boards[index]? = some board)
    (hid : board'.id = board.id) : (boards.set index board').map Board.id =
    boards.map Board.id := by
  apply List.ext_getElem?
  intro other
  rw [List.getElem?_map, List.getElem?_map, List.getElem?_set]
  split
  · next heq =>
    subst heq
    have hlt : index < boards.length := (List.getElem?_eq_some_iff.mp hboard).1
    rw [if_pos hlt, hboard, Option.map_some, Option.map_some, hid]
  · rfl

theorem map_id_call {methodId : Text} {arguments : Arguments} {meeting : Meeting} :
    (server.call s session methodId arguments meeting).boards.map Board.id =
      s.boards.map Board.id := by
  rw [call]
  cases daphneMethodCallback_cases with
  | inl hrefused =>
    obtain ⟨status, hcall⟩ := hrefused
    rw [hcall]
  | inr hexecuted =>
    obtain ⟨context, index, board, request, hpassed, hcall⟩ := hexecuted
    rw [hcall]
    exact map_id_set hpassed.board_eq rfl

theorem map_id_step : (server.step s event).boards.map Board.id = s.boards.map Board.id := by
  cases event with
  | login session username password =>
    rw [step]
    split
    · rfl
    · rfl
  | anonymous session => rfl
  | close session => rfl
  | poll board requests =>
    apply List.ext_getElem?
    intro other
    change
      ((s.boards.modify board fun b ↦ requests.foldl server.pollRequest b).map Board.id)[other]? = _
    rw [List.getElem?_map, List.getElem?_map, List.getElem?_modify, Option.map_eq_map,
      Option.map_map]
    congr 1
    funext b
    change Board.id (if board = other then requests.foldl server.pollRequest b else b) = b.id
    split
    · exact id_foldl_pollRequest requests b
    · rfl
  | call session methodId arguments meeting => exact map_id_call

/-- The boards are those of the configuration, in its order. -/
theorem map_id_run : (server.run events).boards.map Board.id = server.config.daphneIds := by
  induction events using List.reverseRecOn with
  | nil =>
    change (server.config.daphneIds.map _).map Board.id = _
    rw [List.map_map]
    exact List.map_id _
  | append_singleton events event ih => rw [run_concat, map_id_step, ih]

/-- At most one request has been put on the wire, of the type and to the board, and one exactly when
the call sends. -/
structure SentOnly (boards boards' : List Board) (index : ℕ) (id : Text) (requestType : Int32)
    (sends : Prop) : Prop where
  elsewhere : ∀ other ≠ index, boards'[other]? = boards[other]?
  here : ∃ board requests, boards[index]? = some board ∧ board.id = id ∧
    (boards'[index]?).map Board.sent = some (board.sent ++ requests) ∧ requests.length ≤ 1 ∧
    (requests.length = 1 ↔ sends) ∧ ∀ request ∈ requests, request.type = requestType

theorem sentOnly_invoke {codecs : Codecs} {board : Board} {operation request : Text}
    {meeting : Meeting} {t : Transaction} (hboard : boards[index]? = some board)
    (ht : transaction operation = some t) :
    SentOnly boards (invoke codecs config boards index board operation request meeting).boards index
      board.id t.requestType
      (Sends codecs config.daphneEnabled config.daphneFake t request) where
  elsewhere other hother := List.getElem?_set_ne hother.symm
  here := by
    have hlt : index < boards.length := (List.getElem?_eq_some_iff.mp hboard).1
    let executed := execute codecs config.daphneEnabled config.daphneFake board.client operation
      request meeting
    refine ⟨board, executed.request.toList, hboard, rfl, ?_, Option.length_toList_le, ?_, ?_⟩
    · change ((boards.set index (board.executed executed))[index]?).map Board.sent = _
      rw [List.getElem?_set_self hlt]
      rfl
    · have hlength : executed.request.toList.length = 1 ↔ executed.request.isSome = true := by
        cases executed.request <;> simp
      exact hlength.trans (execute_sends_iff ht)
    · intro envelope henvelope
      obtain ⟨t', ht', htype, -⟩ := execute_request (Option.mem_toList.mp henvelope)
      rw [htype, Option.some.inj (ht'.symm.trans ht)]

/-! ## Executions -/

/-- Whatever happens at a server whose configuration has been accepted: an operation is executed
only when writes are enabled, there are credentials and a policy, the row is executable and names
the adapter of its operation, and the session has been opened with a configured credential of an
allowed role. The operation is then recognised, and at most one request is sent, of the type the row
names and to the board of the method: none while the backend is disabled or fake or when the request
cannot be read, and one otherwise. -/
theorem execute_gated {machine : Machine} {readers : Readers} {path : Text} {forceFake : Bool}
    {accepts : Text → Bool} {methodId : Text} {arguments : Arguments} {meeting : Meeting}
    {invocation : Invocation}
    (hconfig : mainConfig machine readers path forceFake = .ok server.config)
    (hmethods : daphneMethods accepts server.config = .ok server.methods)
    (hinvocation : (server.call (server.run events) session methodId arguments meeting).invocation =
      some invocation) :
    ∃ policy ∈ server.config.controlPolicy, ∃ credential ∈ server.config.credentials,
      server.config.daphneWritesEnabled = true ∧ server.config.credentials ≠ [] ∧
      server.config.controlPolicy ≠ [] ∧ policy.executable = true ∧
      adapter policy.operation = some policy.backendMapping ∧
      OpenedWith server.config events session credential ∧
      policy.allowedRoles &&& roleMask credential.role ≠ 0 ∧
      invocation.operation = policy.operation ∧
      ∃ id t board, instantiatePolicyNodeId policy id = .ok methodId ∧
        server.config.daphneIds[invocation.board]? = some id ∧
        (server.run events).boards[invocation.board]? = some board ∧
        server.call (server.run events) session methodId arguments meeting =
          invoke server.codecs server.config (server.run events).boards invocation.board board
            policy.operation invocation.request meeting ∧
        (execute server.codecs server.config.daphneEnabled server.config.daphneFake board.client
          policy.operation invocation.request meeting).outcome ≠
            some (.error (noAdapter policy.operation)) ∧
        transaction policy.operation = some t ∧
        messageTypeOf policy.backendMapping = some t.requestType ∧
        SentOnly (server.run events).boards
          (server.call (server.run events) session methodId arguments meeting).boards
          invocation.board id t.requestType
          (Sends server.codecs server.config.daphneEnabled server.config.daphneFake t
            invocation.request) := by
  cases daphneMethodCallback_cases with
  | inl hrefused =>
    obtain ⟨status, hcall⟩ := hrefused
    rw [call, hcall] at hinvocation
    cases hinvocation
  | inr hexecuted =>
    obtain ⟨context, index, board, request, hpassed, hcall⟩ := hexecuted
    rw [call, hcall] at hinvocation ⊢
    obtain rfl := Option.some.inj hinvocation
    obtain ⟨node, hfound, rfl⟩ := Option.map_eq_some_iff.mp hpassed.context_eq
    have hnodeId : node.nodeId = methodId := by simpa using List.find?_some hfound
    obtain ⟨id, index', policy, hnode⟩ :=
      exists_policyNode hmethods (List.mem_of_find?_eq_some hfound)
    have hexecutable := hpassed.executable
    have hrole := hpassed.roleAllowed
    have hindex := hpassed.index_eq
    rw [hnode.context_eq] at hexecutable hrole hindex ⊢
    obtain rfl : index' = index := Option.some.inj hindex
    have hgates : server.config.daphneWritesEnabled = true ∧ policy.executable = true ∧
        adapter policy.operation = some policy.backendMapping := by
      simpa [policyContext, backendAdapterImplemented, and_assoc] using hexecutable
    obtain ⟨hwrites, hpolicyExecutable, hadapter⟩ := hgates
    obtain ⟨credential, hsession, hallowed⟩ := roleAllowed_iff.mp hrole
    have hopened := openedWith_of_sessions hsession
    obtain ⟨hcredentials, hcontrolPolicy⟩ := (mainConfig_ok hconfig).writes hwrites
    obtain ⟨t, ht, hmapping⟩ := transaction_of_adapter hadapter
    have hid : board.id = id := by
      have hget : ((server.run events).boards.map Board.id)[index']? = some board.id := by
        rw [List.getElem?_map, hpassed.board_eq]
        rfl
      rw [map_id_run, hnode.board_eq] at hget
      exact (Option.some.inj hget).symm
    refine ⟨policy, hnode.policy_mem, credential, hopened.mem, hwrites, hcredentials,
      hcontrolPolicy, hpolicyExecutable, hadapter, hopened, hallowed, rfl, id, t, board, ?_,
        hnode.board_eq,
      hpassed.board_eq, ?_, execute_ne_noAdapter ht, ht, hmapping, ?_⟩
    · rw [hnode.nodeId_eq, hnodeId]
    · rfl
    · rw [← hid]
      exact sentOnly_invoke hpassed.board_eq ht

/-- A machine with one operator, who may align the front ends. -/
def operatorMachine : Machine where
  read path :=
    if path = "c".toList then
      some ("daphne.fake=no\ndaphne.writes_enabled=yes\nopcua.auth_file=a\n".toList ++
        "control.policy_file=p".toList)
    else if path = "a".toList then some "operator,secret,expert".toList
    else if path = "p".toList then
      some ("Operation,NodeId pattern,Control owner,Allowed roles,".toList ++
        "Implementation status,Backend mapping,Executable\n".toList ++
        "AlignAfes,ns=2;s=Boards.\x7bBoardId\x7d.AlignAfes,PDS,expert,".toList ++
        "done,MT2_ALIGN_AFE_REQ,yes".toList)
    else none
  stat _ := some 0o600
  getenv _ := none

def noReaders : Readers where
  stoi _ := .error []
  stoull _ := .error []
  stod _ := .error []
  parseInstanceList _ := .error []
  parseI2cDevices _ := .error []
  loadTagList _ := .error []

def operatorPolicy : ControlPolicyEntry where
  operation := "AlignAfes".toList
  nodeIdPattern := "ns=2;s=Boards.\x7bBoardId\x7d.AlignAfes".toList
  owner := "PDS".toList
  allowedRoles := roleMask .Expert
  implementationStatus := "done".toList
  backendMapping := "MT2_ALIGN_AFE_REQ".toList
  executable := true

def operatorConfig : Config where
  configPath := "c".toList
  opcuaAuthFile := "a".toList
  controlPolicyPath := "p".toList
  credentials := [⟨"operator".toList, "secret".toList, .Expert⟩]
  controlPolicy := [operatorPolicy]
  registryExpansion :=
    { Registry.defaultExpansionConfig with
      instances := Function.update Registry.defaultExpansionConfig.instances boardIdName
        (some ["015".toList]) }
  daphneFake := false
  daphneWritesEnabled := true
  daphneIds := ["015".toList]
  daphneEndpoints := Function.update (fun _ ↦ none) "015".toList
    (some "tcp://NP04-DAPHNE-015.CERN.CH:40001".toList)
  daphneRoutes := Function.update (fun _ ↦ none) "015".toList (some "mezz/0".toList)

theorem mainConfig_operatorMachine :
    mainConfig operatorMachine noReaders "c".toList false = .ok operatorConfig := by
  rfl

def operatorServer : MethodServer where
  config := operatorConfig
  methods := [⟨"Boards.015.AlignAfes".toList, policyContext operatorConfig 0 operatorPolicy⟩]
  codecs :=
    { envelope := fun _ ↦ none
      jsonToMessage := fun _ _ ↦ .ok []
      messageToJson := fun _ _ ↦ none }

def operatorLogin : List Event := [.login 1 "operator".toList "secret".toList]

/-- The operator calls the method, and one request for an alignment is sent. -/
theorem execute_gated_operator :
    let call := operatorServer.call (operatorServer.run operatorLogin) 1
      "Boards.015.AlignAfes".toList ⟨[some (.string [])], 1⟩ ⟨0, true, []⟩
    ∃ (invocation : Invocation) (id : Text) (t : Transaction), call.invocation = some invocation ∧
      invocation.operation = "AlignAfes".toList ∧ transaction invocation.operation = some t ∧
      t.requestType = mt2AlignAfeReq ∧
      Sends operatorServer.codecs true false t invocation.request ∧
      SentOnly (operatorServer.run operatorLogin).boards call.boards invocation.board id
        t.requestType (Sends operatorServer.codecs true false t invocation.request) := by
  intro call
  have hmethods : daphneMethods (fun _ ↦ true) operatorConfig = .ok operatorServer.methods := by
    decide +kernel
  have hinvocation : call.invocation = some ⟨0, "AlignAfes".toList, []⟩ := by
    decide +kernel
  obtain ⟨policy, -, credential, -, -, -, -, -, -, -, -, hoperation, id, t, board, -, -, -, -, -,
    ht, -, hsent⟩ := execute_gated mainConfig_operatorMachine hmethods hinvocation
  have htransaction : transaction "AlignAfes".toList = some t := by
    rw [← ht, ← hoperation]
  have htype : t.requestType = mt2AlignAfeReq := by
    cases htransaction
    rfl
  exact ⟨_, id, t, hinvocation, rfl, htransaction, htype, ⟨rfl, rfl, [], rfl⟩, hsent⟩

end MethodServer

end DaphneSc.Bridge
