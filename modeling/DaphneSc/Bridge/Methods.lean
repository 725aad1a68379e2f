import DaphneSc.Bridge.Execute
import DaphneSc.Bridge.OpcUaSnapshotWriter

/-!
# Methods of the OPC-UA server

A method node carries a context from the moment the namespace is built. The callback of a method
gets this context, and the credential that the session has been opened with, if any.
-/

namespace DaphneSc.Bridge

open Strings DaphneClient OpcUaSnapshotWriter

/-! ## Contexts -/

inductive MethodKind where
  | PowerEnableOutput
  | PowerSetVoltage
  | PowerSetCurrent
  | DaphneControl
  deriving DecidableEq, Repr

/-- The board is the position of its runtime. -/
structure MethodContext where
  kind : MethodKind := .DaphneControl
  allowedRoles : RoleMask := 0
  executable : Bool := false
  board : Option ℕ := none
  policy : ControlPolicyEntry := ⟨[], [], [], 0, [], [], false⟩
  deriving DecidableEq

structure MethodNode where
  nodeId : Text
  context : MethodContext
  deriving DecidableEq

/-- An anonymous session has no credential. -/
def roleAllowed (session : Option Credential) (allowedRoles : RoleMask) : Bool :=
  match session with
  | none => false
  | some credential => allowedRoles &&& roleMask credential.role ≠ 0

def adapters : List (String × String) :=
  [("ConfigureRun", "MT2_CONFIGURE_FE_REQ"),
    ("ConfigureClocks", "MT2_CONFIGURE_CLKS_REQ"),
    ("ConfigureFrontend", "MT2_CONFIGURE_FE_REQ"),
    ("SetControlledBias", "MT2_WRITE_VBIAS_CONTROL_REQ"),
    ("SetAfePowerState", "MT2_SET_AFE_POWERSTATE_REQ"),
    ("ResetAfe", "MT2_DO_AFE_RESET_REQ"),
    ("AlignAfes", "MT2_ALIGN_AFE_REQ"),
    ("SoftwareTrigger", "MT2_DO_SOFTWARE_TRIGGER_REQ"),
    ("DumpSpyBuffers", "MT2_DUMP_SPYBUFFER_REQ"),
    ("WriteAfeRegister", "MT2_WRITE_AFE_REG_REQ")]

/-- The message type that an operation is compiled to. -/
def adapter (operation : Text) : Option Text :=
  (adapters.lookup (String.ofList operation)).map String.toList

def backendAdapterImplemented (entry : ControlPolicyEntry) : Bool :=
  adapter entry.operation = some entry.backendMapping

def instantiatePolicyNodeId (entry : ControlPolicyEntry) (boardId : Text) :
    Except RuntimeError Text :=
  match find entry.nodeIdPattern ";s=".toList 0 with
  | none =>
    .error ("control-policy NodeId is not a string NodeId: ".toList ++ entry.nodeIdPattern)
  | some separator =>
    let id := entry.nodeIdPattern.drop (separator + 3)
    match find id (placeholder boardIdName) 0 with
    | none =>
      .error ("control-policy NodeId lacks \x7bBoardId\x7d: ".toList ++ entry.nodeIdPattern)
    | some position =>
      .ok (id.take position ++ boardId ++ id.drop (position + (placeholder boardIdName).length))

/-- The server accepts a node or not. -/
def addDaphneMethod (accepts : Text → Bool) (methods : List MethodNode) (context : MethodContext)
    (id : Text) : Except RuntimeError (List MethodNode) :=
  if accepts id then .ok (methods ++ [⟨id, context⟩])
  else .error ("failed to add workbook OPC-UA method ".toList ++ id)

/-- The context of a row of the control policy for a board. -/
def policyContext (config : Config) (board : ℕ) (policy : ControlPolicyEntry) : MethodContext where
  kind := .DaphneControl
  allowedRoles := policy.allowedRoles
  executable := config.daphneWritesEnabled && policy.executable && backendAdapterImplemented policy
  board := some board
  policy := policy

def addPolicyMethod (accepts : Text → Bool) (config : Config) (board : Text × ℕ)
    (methods : List MethodNode) (policy : ControlPolicyEntry) :
    Except RuntimeError (List MethodNode) := do
  let nodeId ← instantiatePolicyNodeId policy board.1
  addDaphneMethod accepts methods (policyContext config board.2 policy) nodeId

/-- The methods of the boards in `buildNamespace`. -/
def daphneMethods (accepts : Text → Bool) (config : Config) :
    Except RuntimeError (List MethodNode) :=
  config.daphneIds.zipIdx.foldlM (fun methods board ↦
    config.controlPolicy.foldlM (addPolicyMethod accepts config board) methods) []

/-! ## Sessions -/

/-- The credential of the session, when the login succeeds. -/
def loginCallback (config : Config) (username password : Text) : Option Credential :=
  config.credentials.find? fun credential ↦
    credential.username = username ∧ credential.password = password

/-! ## Calls -/

inductive MethodStatus where
  | good
  | badInternalError
  | badNotSupported
  | badUserAccessDenied
  | badInvalidArgument
  deriving DecidableEq, Repr

/-- The arguments of a call. One that is not a scalar of a type in `UaVariant` is missing. -/
structure Arguments where
  input : List (Option UaVariant)
  outputSize : ℕ := 1

/-- A board as the methods see it: its client and what has been put on the wire to it. -/
structure Board where
  id : Text
  client : Client
  sent : List Server.Pb.ControlEnvelopeV2 := []

/-- A call of `execute` by a method. -/
structure Invocation where
  board : ℕ
  operation : Text
  request : Text
  deriving DecidableEq

/-- What a call of a method comes to: the boards after it, what it returns unless it is still
waiting, and the execution it has asked for. -/
structure Called where
  boards : List Board
  result : Option (MethodStatus × Option Text)
  invocation : Option Invocation := none

/-- What is left of a text where a C string is expected. -/
abbrev cString (text : Text) : Text := uaString text

/-- A character of a message in an error response. -/
def escape (ch : Char) : Text := if ch = '\x22' ∨ ch = '\\' then ['\\', ch] else [ch]

def errorResponse (err : RuntimeError) : Text :=
  "\x7b\"success\":false,\"message\":\"".toList ++ (cString err).flatMap escape ++ "\"\x7d".toList

/-- What `writeMethodOutput` puts out for a response or an exception. -/
def methodOutput : Except RuntimeError Text → Text
  | .ok response => cString response
  | .error err => cString (errorResponse err)

/-- The client after an execution, and the request it has put on the wire. -/
def Board.executed (board : Board) (executed : Executed) : Board :=
  { board with client := executed.client, sent := board.sent ++ executed.request.toList }

variable (codecs : Codecs)

/-- The part of `daphneMethodCallback` behind its checks. -/
def invoke (config : Config) (boards : List Board) (index : ℕ) (board : Board)
    (operation request : Text)
    (meeting : Meeting) : Called :=
  let executed :=
    execute codecs config.daphneEnabled config.daphneFake board.client operation request meeting
  { boards := boards.set index (board.executed executed)
    result := executed.outcome.map fun outcome ↦ (.good, some (methodOutput outcome))
    invocation := some ⟨index, operation, request⟩ }

def daphneMethodCallback (config : Config) (boards : List Board) (session : Option Credential)
    (methodContext : Option MethodContext) (arguments : Arguments) (meeting : Meeting) : Called :=
  let refused (status : MethodStatus) : Called := { boards, result := some (status, none) }
  match methodContext with
  | none => refused .badInternalError
  | some context =>
    match context.board with
    | none => refused .badInternalError
    | some index =>
      match boards[index]? with
      | none => refused .badInternalError
      | some board =>
        if arguments.outputSize < 1 then refused .badInternalError
        else if ¬ context.executable then refused .badNotSupported
        else if ¬ roleAllowed session context.allowedRoles then refused .badUserAccessDenied
        else match arguments.input with
          | [some (.string request)] =>
            invoke codecs config boards index board context.policy.operation request meeting
          | _ => refused .badInvalidArgument

/-! ## Lemmas -/

/-- The methods come from the rows of the control policy, each with its board. -/
structure PolicyNode (config : Config) (node : MethodNode) (id : Text) (board : ℕ)
    (policy : ControlPolicyEntry) : Prop where
  board_eq : config.daphneIds[board]? = some id
  policy_mem : policy ∈ config.controlPolicy
  context_eq : node.context = policyContext config board policy
  nodeId_eq : instantiatePolicyNodeId policy id = .ok node.nodeId

theorem exists_policyNode {accepts : Text → Bool} {config : Config} {methods : List MethodNode}
    {node : MethodNode} (h : daphneMethods accepts config = .ok methods) (hnode : node ∈ methods) :
    ∃ id board policy, PolicyNode config node id board policy := by
  let P : List MethodNode → Prop :=
    fun methods ↦ ∀ node ∈ methods, ∃ id board policy, PolicyNode config node id board policy
  have hall : P methods := by
    apply Program.Results.foldlM_ok_keeps_of_mem (P := P) _ h
      (fun node hmem ↦ absurd hmem List.not_mem_nil)
    intro board hboard methods methods' hloop hmethods
    apply Program.Results.foldlM_ok_keeps_of_mem (P := P) _ hloop hmethods
    intro policy hpolicy methods methods' hstep hmethods
    obtain ⟨nodeId, hnodeId, hadd⟩ := Program.Results.bind_ok_iff.mp hstep
    rw [addDaphneMethod] at hadd
    split at hadd
    · rw [← Except.ok.inj hadd]
      intro node hmem
      cases List.mem_append.mp hmem with
      | inl hmem => exact hmethods node hmem
      | inr hmem =>
        rw [List.mem_singleton.mp hmem]
        exact ⟨board.1, board.2, policy, List.mem_zipIdx_iff_getElem?.mp hboard, hpolicy, rfl,
          hnodeId⟩
    · cases hadd
  exact hall node hnode

section

variable {codecs : Codecs} {config : Config} {boards : List Board} {session : Option Credential}
  {methodContext : Option MethodContext} {arguments : Arguments} {meeting : Meeting}
  {operation backendMapping : Text} {roles : RoleMask}

theorem roleAllowed_iff : roleAllowed session roles = true ↔
    ∃ credential, session = some credential ∧ roles &&& roleMask credential.role ≠ 0 := by
  cases session with
  | none => simp [roleAllowed]
  | some credential => simp [roleAllowed]

/-- Every adapter names the type of the request that `execute` sends for its operation. -/
theorem transaction_of_mem_adapters : ∀ pair ∈ adapters, ∃ t,
    transaction pair.1.toList = some t ∧ messageTypeOf pair.2.toList = some t.requestType := by
  have htable :
      ∀ pair ∈ adapters, ((transaction pair.1.toList).map Transaction.requestType).isSome ∧
      (transaction pair.1.toList).map Transaction.requestType = messageTypeOf pair.2.toList := by
    decide +kernel
  intro pair hpair
  obtain ⟨hsome, heq⟩ := htable pair hpair
  cases ht : transaction pair.1.toList with
  | none =>
    rw [ht] at hsome
    cases hsome
  | some t =>
    rw [ht] at heq
    exact ⟨t, rfl, heq.symm⟩

theorem transaction_of_adapter (h : adapter operation = some backendMapping) :
    ∃ t, transaction operation = some t ∧ messageTypeOf backendMapping = some t.requestType := by
  obtain ⟨mapping, hlookup, rfl⟩ := Option.map_eq_some_iff.mp h
  have hmem : (String.ofList operation, mapping) ∈ adapters := by
    obtain ⟨above, below, hsplit, -⟩ := List.lookup_eq_some_iff.mp hlookup
    rw [hsplit]
    exact List.mem_append_right _ List.mem_cons_self
  have ht := transaction_of_mem_adapters _ hmem
  rwa [String.toList_ofList] at ht

/-- The call has passed all checks of the method. -/
structure Passed (boards : List Board) (session : Option Credential)
    (methodContext : Option MethodContext) (context : MethodContext) (index : ℕ) (board : Board) :
    Prop where
  context_eq : methodContext = some context
  index_eq : context.board = some index
  board_eq : boards[index]? = some board
  executable : context.executable = true
  roleAllowed : roleAllowed session context.allowedRoles = true

theorem daphneMethodCallback_of_passed {context : MethodContext} {index : ℕ} {board : Board}
    {request : Text} (hpassed : Passed boards session methodContext context index board)
    (hsize : 1 ≤ arguments.outputSize) (hinput : arguments.input = [some (.string request)]) :
    daphneMethodCallback codecs config boards session methodContext arguments meeting =
      invoke codecs config boards index board context.policy.operation request meeting := by
  have hexecutable : ¬ ¬ context.executable = true := not_not.mpr hpassed.executable
  have hrole : ¬ ¬ roleAllowed session context.allowedRoles = true :=
    not_not.mpr hpassed.roleAllowed
  unfold daphneMethodCallback
  rw [hpassed.context_eq]
  dsimp only
  rw [hpassed.index_eq]
  dsimp only
  rw [hpassed.board_eq]
  dsimp only
  rw [if_neg (Nat.not_lt.mpr hsize), if_neg hexecutable, if_neg hrole, hinput]

/-- A method refuses a call and changes nothing, or executes its operation after all checks. -/
theorem daphneMethodCallback_cases :
    (∃ status, daphneMethodCallback codecs config boards session methodContext arguments meeting =
      { boards, result := some (status, none) }) ∨
    ∃ context index board request, Passed boards session methodContext context index board ∧
      daphneMethodCallback codecs config boards session methodContext arguments meeting =
        invoke codecs config boards index board context.policy.operation request meeting := by
  unfold daphneMethodCallback
  cases methodContext with
  | none => exact .inl ⟨_, rfl⟩
  | some context =>
    dsimp only
    cases hindex : context.board with
    | none => exact .inl ⟨_, rfl⟩
    | some index =>
      dsimp only
      cases hboard : boards[index]? with
      | none => exact .inl ⟨_, rfl⟩
      | some board =>
        dsimp only
        split
        · exact .inl ⟨_, rfl⟩
        · split
          · exact .inl ⟨_, rfl⟩
          · next hexecutable =>
            split
            · exact .inl ⟨_, rfl⟩
            · next hrole =>
              split
              · next request _ =>
                exact .inr ⟨context, index, board, request,
                  ⟨rfl, hindex, hboard, not_not.mp hexecutable, not_not.mp hrole⟩, rfl⟩
              · exact .inl ⟨_, rfl⟩

end

end DaphneSc.Bridge
