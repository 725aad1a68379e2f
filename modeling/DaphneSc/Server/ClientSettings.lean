import DaphneSc.Server.FreshPreflight
import DaphneSc.Server.KnownSettings
import DaphneSc.Server.RouterBound

/-!
# What clients are told of the settings

Clients share one RPU through the router. From the commands that were submitted for any of them, and
from what these were answered with, a client can tell what it will read: the answer to a request to
read a setting is no success, or it has the value that is known.
-/

namespace DaphneSc.Server.ClientSettings

open Core.Afe Core.Rpu Core.Transport Rpu.Mmio Rpu.Settings Handlers Pb Preflight Program
open ReportedConfiguration Rpmsg Rpmsg.RpmsgAfeTransport Router SlowControl KnownSettings
  PreflightGate

variable {S P E I ε : Type} [RegisterIo I ε]

/-! ## The account of the submissions -/

/-- The command was answered as applied. -/
def answeredApplied (submission : Submission) : Bool :=
  match submission.reply with
  | some (.ok reply) => reply.applied
  | _ => false

/-- What is known after the submissions. -/
def account (submissions : List Submission) : Knowledge :=
  submissions.foldl
    (fun knowledge submission ↦ knowledge.learn submission.command (answeredApplied submission))
      .start

/-- No vector of the alignment was asked for. -/
def Unaligned (submissions : List Submission) : Prop :=
  ∀ afe, ∀ submission ∈ submissions, submission.command ≠ .readAlignment afe

/-- The account is right. -/
structure Accounted (observed : Observed (RpmsgAfeTransport (Link (AfeMmioBackend I)))) : Prop where
  prompt : Prompt observed.transport.file
  tracks : Unaligned observed.submissions →
    Tracks (account observed.submissions) observed.transport.file.runtime

theorem account_concat (submissions : List Submission) (submission : Submission) :
    account (submissions ++ [submission]) =
      (account submissions).learn submission.command (answeredApplied submission) := by
  rw [account, List.foldl_append]
  rfl

section Steps

variable {observed : Observed (RpmsgAfeTransport (Link (AfeMmioBackend I)))}

theorem accounted_status (h : Accounted observed) :
    Accounted ⟨afterCall observed.transport .status, observed.submissions⟩ :=
  ⟨prompt_afterCall h.prompt .status, fun hunaligned ↦
    tracks_status (h.tracks hunaligned) h.prompt⟩

/-- A submission with its answer. -/
theorem accounted_submit (h : Accounted observed) (submission : Submission)
    (hanswered : answeredApplied submission = reported observed.transport submission.command) :
    Accounted ⟨afterCall observed.transport (.submit submission.command),
      observed.submissions ++ [submission]⟩ := by
  refine ⟨prompt_afterCall h.prompt _, fun hunaligned ↦ ?_⟩
  have hne : ∀ afe, submission.command ≠ .readAlignment afe :=
    fun afe ↦ hunaligned afe submission (by simp)
  have hbefore : Unaligned observed.submissions :=
    fun afe earlier hmem ↦ hunaligned afe earlier (List.mem_append_left _ hmem)
  rw [account_concat, hanswered]
  exact tracks_submit (h.tracks hbefore) h.prompt hne

/-- Both calls keep the account right. -/
theorem respected_accounted : Respected (Bound.invariant (Accounted (I := I))) := by
  constructor
  · intro observed
    change wp (zoom _ RpmsgAfeTransport.status) _ _ observed
    rw [wp_zoom]
    change wp RpmsgAfeTransport.status _ _ observed.transport
    unfold wp
    cases hrun : RpmsgAfeTransport.status observed.transport with
    | ok linkStatus after =>
      intro h
      have hsound := accounted_status h
      rwa [afterCall, final_of_ok hrun] at hsound
    | error abort after =>
      intro h
      have hsound := accounted_status h
      rwa [afterCall, final_of_error hrun] at hsound
  · intro command observed
    unfold wp
    rw [run_submitAfeCommand]
    cases hrun : RpmsgAfeTransport.submitAfeCommand command observed.transport with
    | ok reply after =>
      have hcall : RpuAfeTransport.submitAfeCommand command observed.transport = .ok reply after :=
        hrun
      rw [hcall]
      intro h
      have hsound := accounted_submit h ⟨command, some (.ok reply)⟩
        (by rw [reported, hrun]; rfl)
      rwa [afterCall, final_of_ok hrun] at hsound
    | error abort after =>
      have hcall : RpuAfeTransport.submitAfeCommand command observed.transport =
          .error abort after := hrun
      rw [hcall]
      cases abort with
      | error err =>
        intro h
        have hsound := accounted_submit h ⟨command, some (.error err)⟩
          (by rw [reported, hrun]; rfl)
        rwa [afterCall, final_of_error hrun] at hsound
      | panic =>
        intro h
        have hsound := accounted_submit h ⟨command, none⟩
          (by rw [reported, hrun]; rfl)
        rwa [afterCall, final_of_error hrun] at hsound

end Steps

/-! ## Requests to read a setting -/

section Requests

variable (prost : Prost)

/-- A request with this payload asks for one setting. -/
inductive AsksFor (payload : List UInt8) : MessageTypeV2 → Setting → Prop
  | attenuation {req : CmdReadAfeVgain} {afe : AfeId} (hdecode : prost.decode payload = .ok req)
      (hafe : afeId req.afeBlock = .ok afe) : AsksFor payload .readAfeVgainReq (.attenuation afe)
  | bias {req : CmdReadAfeBiasSet} {afe : AfeId} (hdecode : prost.decode payload = .ok req)
      (hafe : afeId req.afeBlock = .ok afe) : AsksFor payload .readAfeBiasSetReq (.bias afe)
  | trim {req : CmdReadTrimSingleChannel} {channel : ChannelId}
      (hdecode : prost.decode payload = .ok req)
      (hchannel : channelId req.trimChannel = .ok channel) :
      AsksFor payload .readTrimChReq (.trim channel)
  | offset {req : CmdReadOffsetSingleChannel} {channel : ChannelId}
      (hdecode : prost.decode payload = .ok req)
      (hchannel : channelId req.offsetChannel = .ok channel) :
      AsksFor payload .readOffsetChReq (.offset channel)
  | vbiasControl {req : CmdReadVbiasControl} (hdecode : prost.decode payload = .ok req) :
      AsksFor payload .readVbiasControlReq .vbiasControl

/-- What the payload of an answer tells: a value, or nothing when it is no success. -/
inductive Tells : MessageTypeV2 → List UInt8 → Option UInt32 → Prop
  | attenuation (response : CmdReadAfeVgainResponse) : Tells .readAfeVgainReq
      (prost.encodeToVec response) (if response.success then some response.vgainValue else none)
  | bias (response : CmdReadAfeBiasSetResponse) : Tells .readAfeBiasSetReq
      (prost.encodeToVec response) (if response.success then some response.biasValue else none)
  | trim (response : CmdReadTrimSingleChannelResponse) : Tells .readTrimChReq
      (prost.encodeToVec response) (if response.success then some response.trimValue else none)
  | offset (response : CmdReadOffsetSingleChannelResponse) : Tells .readOffsetChReq
      (prost.encodeToVec response) (if response.success then some response.offsetValue else none)
  | vbiasControl (response : CmdReadVbiasControlResponse) : Tells .readVbiasControlReq
      (prost.encodeToVec response)
      (if response.success then some response.vBiasControlValue else none)

/-- What an outcome tells. -/
def told (outcome : SubmitOutcome) : Option UInt32 :=
  if outcome.success then some (outcome.readback.getD 0) else none

variable {prost} {payload : List UInt8} {messageType : MessageTypeV2} {setting : Setting}

/-- Such a request reads the setting, and its answer tells what the outcome does. -/
theorem AsksFor.handles (h : AsksFor prost payload messageType setting) :
    routeMessageType messageType = .rpuAfe ∧
    ∃ (command : AfeCommand) (answer : SubmitOutcome → List UInt8), reads command = some setting ∧
      (∀ outcome, Tells prost messageType (answer outcome) (told outcome)) ∧
      ∀ {T : Type} [RpuAfeTransport T], (handleRpuAfe prost messageType payload : Prog Empty T _) =
        answer <$> Handlers.submit command := by
  cases h with
  | @attenuation _ afe hdecode hafe =>
    have hbuild : AfeCommand.readAttenuation <$> afeId _ = .ok (.readAttenuation afe) :=
      Results.map_ok_iff.mpr ⟨afe, hafe, rfl⟩
    refine ⟨rfl, .readAttenuation afe, _, rfl, ?_, fun {T} _ ↦ handle_of_command hdecode hbuild⟩
    exact fun outcome ↦ .attenuation _
  | @bias _ afe hdecode hafe =>
    have hbuild : AfeCommand.readBias <$> afeId _ = .ok (.readBias afe) :=
      Results.map_ok_iff.mpr ⟨afe, hafe, rfl⟩
    refine ⟨rfl, .readBias afe, _, rfl, ?_, fun {T} _ ↦ handle_of_command hdecode hbuild⟩
    exact fun outcome ↦ .bias _
  | @trim _ channel hdecode hchannel =>
    have hbuild : (fun channel ↦ AfeCommand.readTrim (.one channel)) <$> channelId _ =
        .ok (.readTrim (.one channel)) := Results.map_ok_iff.mpr ⟨channel, hchannel, rfl⟩
    refine ⟨rfl, .readTrim (.one channel), _, rfl, ?_, fun {T} _ ↦ handle_of_command hdecode hbuild⟩
    exact fun outcome ↦ .trim _
  | @offset _ channel hdecode hchannel =>
    have hbuild : (fun channel ↦ AfeCommand.readOffset (.one channel)) <$> channelId _ =
        .ok (.readOffset (.one channel)) := Results.map_ok_iff.mpr ⟨channel, hchannel, rfl⟩
    refine ⟨rfl, .readOffset (.one channel), _, rfl, ?_, fun {T} _ ↦
      handle_of_command hdecode hbuild⟩
    exact fun outcome ↦ .offset _
  | @vbiasControl _ hdecode =>
    refine ⟨rfl, .readVbiasControl, fun outcome ↦ prost.encodeToVec ({
      success := outcome.success
      message := outcome.message
      vBiasControlValue := outcome.readback.getD 0 } : CmdReadVbiasControlResponse), rfl,
      fun outcome ↦ .vbiasControl _, fun {T} _ ↦ ?_⟩
    change (handleReadVbiasControl prost payload : Prog Empty T _) = _
    unfold handleReadVbiasControl Handlers.handle
    rw [hdecode]
    exact bind_pure_comp _ _

end Requests

/-! ## Answers -/

section Answers

variable {observed : Observed (RpmsgAfeTransport (Link (AfeMmioBackend I)))} {command : AfeCommand}
variable {setting : Setting} {value : ℕ}

theorem told_ok (reply : AfeCommandReply) : told (submitOutcome (.ok reply)) =
    if reply.accepted && reply.applied then some (reply.readback.getD 0) else none := rfl

omit [RegisterIo I ε] in
theorem validate_of_reads (h : reads command = some setting) : command.validate = .ok () := by
  cases command <;> first | rfl | cases h

/-- A transport that answers is told of by its reply. -/
theorem run_submit {T : Type} [RpuAfeTransport T] (h : command.validate = .ok ())
    {transport after : T}
    {reply : AfeCommandReply}
    (hsubmit : RpuAfeTransport.submitAfeCommand command transport = .ok reply after) :
    (Handlers.submit command : Prog Empty T SubmitOutcome) transport =
      .ok (submitOutcome (.ok reply)) after := by
  unfold Handlers.submit
  rw [h]
  dsimp only
  rw [run_map, attempt, hsubmit]

/-- The answer of the link is kept with the command. -/
theorem submit_observed {reply : AfeCommandReply}
    {after : RpmsgAfeTransport (Link (AfeMmioBackend I))}
    (hvalid : command.validate = .ok ())
    (hsubmit : submitAfeCommand command observed.transport = .ok reply after) :
    Handlers.submit command observed = .ok (submitOutcome (.ok reply))
      ⟨after, observed.submissions ++ [⟨command, some (.ok reply)⟩]⟩ := by
  have hcall : RpuAfeTransport.submitAfeCommand command observed.transport = .ok reply after :=
    hsubmit
  apply run_submit hvalid
  rw [run_submitAfeCommand, hcall]

/-- What is told of a setting that is known. -/
theorem told_submit (h : Accounted observed) (hunaligned : Unaligned observed.submissions)
    (hreads : reads command = some setting)
    (hknown : (account observed.submissions).known setting = some value) :
    wp (Handlers.submit command) (fun outcome _ ↦ ∀ word, told outcome = some word →
      word = UInt32.ofNat value) (fun _ _ ↦ True) observed := by
  unfold Handlers.submit
  rw [validate_of_reads hreads]
  dsimp only
  rw [wp_map, wp_attempt, wp, run_submitAfeCommand]
  cases hrun : RpmsgAfeTransport.submitAfeCommand command observed.transport with
  | ok reply after =>
    have hcall : RpuAfeTransport.submitAfeCommand command observed.transport = .ok reply after :=
      hrun
    rw [hcall]
    intro word htold
    rw [told_ok] at htold
    split at htold
    · rename_i hsuccess
      have happlied : reply.applied = true := (Bool.and_eq_true_iff.mp hsuccess).2
      rw [readback_submit h.prompt hreads hrun happlied,
        (h.tracks hunaligned).known setting value hknown] at htold
      exact (Option.some.inj htold).symm
    · cases htold
  | error abort after =>
    have hcall : RpuAfeTransport.submitAfeCommand command observed.transport = .error abort after :=
      hrun
    rw [hcall]
    cases abort with
    | error err =>
      intro word htold
      cases htold
    | panic => exact trivial

/-- It is told whenever the interlock is ready. -/
theorem told_of_ready (h : Accounted observed) (hunaligned : Unaligned observed.submissions)
    (hreads : reads command = some setting)
    (hknown : (account observed.submissions).known setting = some value)
    (hready : (interlockAt observed.transport.file 0).readyForAfe = true) :
    ∃ outcome after, Handlers.submit command observed = .ok outcome after ∧
      told outcome = some (UInt32.ofNat value) := by
  obtain ⟨reply, after, hsubmit, happlied⟩ := submit_reads h.prompt hreads hready
  refine ⟨_, _, submit_observed (validate_of_reads hreads) hsubmit, ?_⟩
  obtain ⟨-, -, -, -, wire, -, rfl, -⟩ := submit_ok h.prompt hsubmit
  have haccepted : (commandReply wire).accepted = true := by
    rw [commandReply, applied_commandReply.mp happlied]
  have hvalue := readback_submit h.prompt hreads hsubmit happlied
  rw [(h.tracks hunaligned).known setting value hknown] at hvalue
  rw [told_ok, haccepted, happlied, hvalue]
  rfl

end Answers

/-! ## Envelopes -/

/-- An envelope that is handled as a request of this type. -/
structure IsRequest (prost : Prost) (bytes : List UInt8) (req : ControlEnvelopeV2)
    (messageType : MessageTypeV2) : Prop where
  decode : prost.decode bytes = .ok req
  version : req.version = 2
  dir : req.dir = dirRequest
  type : MessageTypeV2.tryFrom req.type.toUInt32 = some messageType

section Envelopes

variable [HostEnvironment E] {prost : Prost} {bytes : List UInt8} {req : ControlEnvelopeV2}
variable {messageType : MessageTypeV2} {status : PreflightStatus} {setting : Setting} {value : ℕ}
variable {backend : Backend (Observed (RpmsgAfeTransport (Link (AfeMmioBackend I)))) E}

/-- The answer comes in a response to the request. -/
theorem run_handleEnvelope {T : Type} [RpuAfeTransport T] {backend after : Backend T E}
    (hrequest : IsRequest prost bytes req messageType) {answer : List UInt8}
    (hanswer : handlePayload prost req.type req.payload status backend = .ok answer after) :
    ∃ response last, handleEnvelope prost bytes status backend =
        .ok (some (prost.encodeToVec (response : ControlEnvelopeV2))) last ∧
      response.correlId = req.msgId ∧ response.payload = answer := by
  unfold handleEnvelope
  rw [hrequest.decode]
  dsimp only
  rw [if_neg (by simp [hrequest.version, hrequest.dir]), run_bind, hanswer]
  exact ⟨_, _, rfl, rfl, rfl⟩

/-- A request that cannot be submitted is told nothing. -/
theorem runLocal_rejected {T : Type} {command : AfeCommand} {answer : SubmitOutcome → List UInt8}
    (hreads : reads command = some setting) (message : String) (backend : T) :
    ∃ outcome,
      (runLocal (answer <$> Handlers.submit command) (PreflightRejectedRpuTransport.mk message) :
        Prog Empty T (List UInt8)) backend = .ok (answer outcome) backend ∧ told outcome =
          none := by
  refine ⟨submitOutcome (.error (.rejected message)), ?_, rfl⟩
  unfold runLocal Handlers.submit
  rw [validate_of_reads hreads]
  rfl

/-- Whether it is checked for with success or not, the request is told nothing but what is known. -/
theorem wp_handlePayload (h : Accounted backend.rpu)
    (hunaligned : Unaligned backend.rpu.submissions)
    (htype : MessageTypeV2.tryFrom req.type.toUInt32 = some messageType)
    (hasks : AsksFor prost req.payload messageType setting)
    (hknown : (account backend.rpu.submissions).known setting = some value) :
    wp (handlePayload prost req.type req.payload status) (fun answer _ ↦ ∃ tells,
      Tells prost messageType answer tells ∧ ∀ word, tells = some word → word = UInt32.ofNat value)
      (fun _ _ ↦ True) backend := by
  obtain ⟨hroute, command, answer, hreads, htells, hhandle⟩ := hasks.handles
  unfold handlePayload
  rw [htype]
  dsimp only
  rw [hroute]
  dsimp only
  split
  · rw [hhandle, wp_zoom, wp_map]
    apply wp_mono (told_submit h hunaligned hreads hknown) _ fun _ _ ↦ id
    exact fun outcome _ hword ↦ ⟨_, htells outcome, hword⟩
  · rw [hhandle]
    obtain ⟨outcome, hrun, hnone⟩ := runLocal_rejected hreads status.failureMessage backend
    rw [wp, hrun]
    refine ⟨_, htells outcome, fun word hword ↦ ?_⟩
    rw [hnone] at hword
    cases hword

/-- The answer to a request for a setting that is known. -/
theorem answer_known (h : Accounted backend.rpu) (hunaligned : Unaligned backend.rpu.submissions)
    (hrequest : IsRequest prost bytes req messageType)
    (hasks : AsksFor prost req.payload messageType setting)
    (hknown : (account backend.rpu.submissions).known setting = some value)
    {out : Option (List UInt8)} {after}
    (hrun : handleEnvelope prost bytes status backend = .ok out after) :
    ∃ response tells, out = some (prost.encodeToVec (response : ControlEnvelopeV2)) ∧
      response.correlId = req.msgId ∧ Tells prost messageType response.payload tells ∧
      ∀ word, tells = some word → word = UInt32.ofNat value := by
  have hpayload : wp (handlePayload prost req.type req.payload status) _ _ backend :=
    wp_handlePayload h hunaligned hrequest.type hasks hknown
  cases hanswer : handlePayload prost req.type req.payload status backend with
  | ok answer next =>
    obtain ⟨tells, htells, hword⟩ := post_of_ok hpayload hanswer
    obtain ⟨response, last, hresponse, hcorrel, rfl⟩ := run_handleEnvelope hrequest hanswer
    rw [hrun] at hresponse
    cases hresponse
    exact ⟨response, tells, rfl, hcorrel, htells, hword⟩
  | error abort next =>
    unfold handleEnvelope at hrun
    rw [hrequest.decode] at hrun
    dsimp only at hrun
    rw [if_neg (by simp [hrequest.version, hrequest.dir]), run_bind, hanswer] at hrun
    cases hrun

/-- With the checks passed and the interlock ready, it is told. -/
theorem answer_told (h : Accounted backend.rpu) (hunaligned : Unaligned backend.rpu.submissions)
    (hrequest : IsRequest prost bytes req messageType)
    (hasks : AsksFor prost req.payload messageType setting)
    (hknown : (account backend.rpu.submissions).known setting = some value)
    (hchecked : status.readyForHardwareCommands = true)
    (hready : (interlockAt backend.rpu.transport.file 0).readyForAfe = true) :
    ∃ response after, handleEnvelope prost bytes status backend =
        .ok (some (prost.encodeToVec (response : ControlEnvelopeV2))) after ∧
      response.correlId = req.msgId ∧
      Tells prost messageType response.payload (some (UInt32.ofNat value)) := by
  obtain ⟨hroute, command, answer, hreads, htells, hhandle⟩ := hasks.handles
  obtain ⟨outcome, after, hsubmit, htold⟩ := told_of_ready h hunaligned hreads hknown hready
  obtain ⟨response, last, hresponse, hcorrel, hpayload, -⟩ :=
    handleEnvelope_submits backend hrequest.decode
    ⟨hrequest.version, hrequest.dir⟩ hrequest.type hroute hchecked hhandle hsubmit
  refine ⟨response, last, hresponse, hcorrel, ?_⟩
  rw [hpayload, ← htold]
  exact htells outcome

end Envelopes

/-! ## Main result -/

variable [RouterSocket S] [PreflightProvider P] [HostEnvironment E]

/-- A service that has just started on an RPU that has, with its records. -/
def startService (socket : S) (preflight : P)
    (transport : RpmsgAfeTransport (Link (AfeMmioBackend I)))
    (host : E) (nextMsgSeq : UInt64) :
    Watched S P (RpmsgAfeTransport (Link (AfeMmioBackend I))) E :=
  ⟨socket, ⟨preflight, []⟩, ⟨⟨transport, []⟩, host, nextMsgSeq⟩⟩

/-- The answer to a request for a setting that is known from the submissions so far is no success or
has the known value, and it has it when the checks pass and the interlock is ready. -/
def AnswersKnown (prost : Prost)
    (service : Watched S P (RpmsgAfeTransport (Link (AfeMmioBackend I))) E) : Prop :=
  ∀ bytes req messageType setting value status, IsRequest prost bytes req messageType →
    AsksFor prost req.payload messageType setting →
    (account (submissions service)).known setting = some value →
    (∀ out after, handleEnvelope prost bytes status service.backend = .ok out after →
      ∃ response tells, out = some (prost.encodeToVec (response : ControlEnvelopeV2)) ∧
        response.correlId = req.msgId ∧ Tells prost messageType response.payload tells ∧
        ∀ word, tells = some word → word = UInt32.ofNat value) ∧
    (status.readyForHardwareCommands = true →
      (interlockAt service.backend.rpu.transport.file 0).readyForAfe = true →
      ∃ response after, handleEnvelope prost bytes status service.backend =
          .ok (some (prost.encodeToVec (response : ControlEnvelopeV2))) after ∧
        response.correlId = req.msgId ∧
        Tells prost messageType response.payload (some (UInt32.ofNat value)))

/-- After any iterations for any clients, on a link without delays, clients read what is known,
until a vector of the alignment is asked for. The records change nothing of the run. -/
theorem clients_told_known (prost : Prost) (options : RouterOptions) (io : I)
    (config : MmioAfeConfig)
    (timeout : ℕ) (interlocks : ℕ → List Rpu.Runtime.InterlockState) (socket : S) (preflight : P)
    (host : E) (nextMsgSeq : UInt64) (n : ℕ) :
    (∀ (arrivals : ℕ → ℕ) service, (∀ k, 1 ≤ arrivals k) →
      run prost options n (startService socket preflight
        (startTransport io config timeout interlocks arrivals) host nextMsgSeq) = .ok ⟨⟩ service →
      Unaligned (submissions service) → AnswersKnown prost service) ∧
    Simulates (erase : Watched S P (RpmsgAfeTransport (Link (AfeMmioBackend I))) E →
      Service S P _ E)
      (run prost options n) (run prost options n) := by
  refine ⟨?_, simulates_run prost options n⟩
  intro arrivals service harrives hrun hunaligned bytes req messageType setting value status
    hrequest
    hasks hknown
  have hstart : Accounted (Observed.mk (startTransport io config timeout interlocks arrivals) []) :=
    ⟨⟨rfl, harrives⟩, fun _ ↦ tracks_start io config timeout interlocks arrivals⟩
  have haccounted : Accounted service.backend.rpu :=
    (respected_accounted.run prost options n).ok hrun hstart
  exact ⟨fun out after h ↦ answer_known haccounted hunaligned hrequest hasks hknown h,
    fun hchecked hready ↦ answer_told haccounted hunaligned hrequest hasks hknown hchecked hready⟩

/-! One client sets the bias of an AFE, and another one reads it. -/

def biasSocket : RouterEnd := { arrived := [[[1], setBiasBytes], [[2], readBiasBytes]] }

def biasStart : Watched RouterEnd LinuxPreflight (RpmsgAfeTransport (Link (AfeMmioBackend ZeroIo)))
    Machine.Host :=
  startService biasSocket fadingService.preflight.provider
    sampleStart fadingHost 1

theorem clients_told_known_bias : ∃ service response after,
    run biasProst {} 1 biasStart = .ok ⟨⟩ service ∧ AnswersKnown biasProst service ∧
      handleEnvelope biasProst readBiasBytes .ready service.backend =
        .ok (some (biasProst.encodeToVec (response : ControlEnvelopeV2))) after ∧
      response.correlId = 2 ∧ Tells biasProst .readAfeBiasSetReq response.payload (some 200) := by
  obtain ⟨status, _, checked, _, hcheck, -, hready, -⟩ := checkTwice_fading
  obtain ⟨set, hset⟩ :=
    handles_setBias (Observed (RpmsgAfeTransport (Link (AfeMmioBackend ZeroIo))))
  have hafe : (Rpu.ConfigureReadback.sampleAfe 0 0).afe = ⟨0, 0, rfl⟩ := rfl
  obtain ⟨rpu, hsubmit, hinterlocks⟩ := submit_setBias
  rw [hafe] at hsubmit
  obtain ⟨_, backend, hhandled, -, -, hbackend⟩ := handleEnvelope_submits biasStart.backend
    decode_setBias ⟨rfl, rfl⟩ rfl rfl hready hset (submit_observed rfl hsubmit)
  have hran : ∃ socket preflight, run biasProst {} 1 biasStart =
      .ok ⟨⟩ ⟨socket, preflight, backend⟩ :=
    ⟨_, _, run_one_of_ok (iteration_checked (by decide) needsPreflight_bias.1 hcheck hhandled)⟩
  obtain ⟨socket, preflight, hrun⟩ := hran
  have hunaligned : Unaligned backend.rpu.submissions := by
    rw [hbackend]
    intro afe submission hmem
    rw [List.mem_singleton.mp hmem]
    exact nofun
  have hknown : (account backend.rpu.submissions).known (.bias ⟨0, 0, rfl⟩) = some 200 := by
    rw [hbackend]
    rfl
  have hinterlock : (interlockAt backend.rpu.transport.file 0).readyForAfe = true := by
    rw [hbackend, interlockAt, hinterlocks]
    rfl
  have hanswers := (clients_told_known biasProst {} ZeroIo.mk .default 1000 (fun _ ↦ [.ready])
    biasSocket fadingService.preflight.provider fadingHost 1 1).1 (fun _ ↦ 1) _
    (fun _ ↦ Nat.le_refl 1) hrun hunaligned
  obtain ⟨response, after, hanswer, hcorrel, htells⟩ := (hanswers readBiasBytes readBiasEnvelope
    .readAfeBiasSetReq _ 200 .ready ⟨decode_readBias, rfl, rfl, rfl⟩
    (.bias decode_readBias_payload rfl) hknown).2 rfl hinterlock
  exact ⟨_, response, after, hrun, hanswers, hanswer, hcorrel, htells⟩

end DaphneSc.Server.ClientSettings
