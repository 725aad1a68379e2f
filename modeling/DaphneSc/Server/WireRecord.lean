import DaphneSc.Program.Simulated
import DaphneSc.Server.Calls

/-!
# What is written to the link

A file can be watched: it behaves as before, and the frames that it is given to write are kept. The
transport runs alike with the record and without, and what is kept of a run of calls are the frames
of its transactions, in order.
-/

namespace DaphneSc.Server.Rpmsg

open DaphneSc.Core Core.Afe Core.RpuWire Core.Rpu Program RpmsgAfeTransport

/-- A file together with the frames that it was given to write, oldest first. -/
structure WatchedFile (F : Type) where
  file : F
  written : List (Vector UInt8 rpuWireCommandLen) := []

variable {F : Type}

def WatchedFile.fileLens : Lens (WatchedFile F) F where
  view := file
  update file watched := { watched with file := file }
  view_update _ _ := rfl

/-- The transport without the record. -/
def unwatched (transport : RpmsgAfeTransport (WatchedFile F)) : RpmsgAfeTransport F where
  file := transport.file.file
  nextSequence := transport.nextSequence
  timeout := transport.timeout
  lastHeartbeat := transport.lastHeartbeat
  lastFault := transport.lastFault

/-! ## The record changes nothing -/

theorem simulates_io {α : Type} (doing : String) {m : Prog String (WatchedFile F) α}
    {m' : Prog String F α} (h : Simulates WatchedFile.file m m') :
    Simulates unwatched (io doing m) (io doing m') :=
  simulates_mapError _ (simulates_zoom (fun _ ↦ rfl) (fun _ _ ↦ rfl) h)

theorem simulates_takeSequence :
    Simulates (unwatched (F := F)) takeSequence takeSequence := by
  unfold takeSequence
  refine simulates_get_bind fun _ ↦ ?_
  exact simulates_bind (simulates_modifyGet fun _ ↦ rfl) fun _ ↦ simulates_pure _

theorem simulates_reserveSequences (count : ℕ) :
    Simulates (unwatched (F := F)) (reserveSequences count) (reserveSequences count) := by
  unfold reserveSequences
  generalize (if count < 2 ^ 64 then UInt64.ofNat count else u64Max) = n
  refine simulates_get_bind fun transport ↦ ?_
  dsimp only
  by_cases hzero : n = 0
  · rw [if_pos hzero, if_pos hzero]
    exact simulates_pure _
  · rw [if_neg hzero, if_neg hzero]
    exact simulates_bind (simulates_modifyGet fun _ ↦ rfl) fun _ ↦ simulates_pure _

theorem simulates_prepareFrames (command : AfeCommand) :
    Simulates (unwatched (F := F)) (prepareFrames command) (prepareFrames command) := by
  unfold prepareFrames
  refine simulates_bind (simulates_ofResult _) fun _ ↦ ?_
  refine simulates_bind (simulates_ofResult _) fun count ↦ ?_
  refine simulates_bind (simulates_reserveSequences _) fun _ ↦ ?_
  exact simulates_bind (simulates_ofResult _) fun _ ↦ simulates_pure _

variable [RpmsgFile F]

instance : RpmsgFile (WatchedFile F) where
  writeAll bytes := do
    modify fun watched ↦ { watched with written := watched.written ++ [bytes] }
    zoom WatchedFile.fileLens (RpmsgFile.writeAll bytes)
  flush := zoom WatchedFile.fileLens RpmsgFile.flush
  poll timeoutMs := zoom WatchedFile.fileLens (RpmsgFile.poll timeoutMs)
  readExact := zoom WatchedFile.fileLens RpmsgFile.readExact

theorem simulates_transact (command : RpuWireCommand) :
    Simulates (unwatched (F := F)) (transact command) (transact command) := by
  unfold transact
  refine simulates_bind (simulates_io _ ?_) fun _ ↦ ?_
  · exact fun watched ↦ simulates_view WatchedFile.fileLens (RpmsgFile.writeAll command.encode)
      { watched with written := watched.written ++ [command.encode] }
  refine simulates_bind (simulates_io _ (simulates_view WatchedFile.fileLens _)) fun _ ↦
    simulates_bind ?_ fun _ ↦ ?_
  · unfold waitReadable
    refine simulates_get_bind fun transport ↦ ?_
    refine simulates_bind (simulates_io _ (simulates_view WatchedFile.fileLens _)) fun events ↦ ?_
    cases events with
    | none => exact simulates_fail _
    | some revents => exact simulates_failIf _ _
  · refine simulates_bind (simulates_io _ (simulates_view WatchedFile.fileLens _)) fun bytes ↦ ?_
    unfold acceptReply
    refine simulates_bind (simulates_ofResult _) fun _ ↦ ?_
    refine simulates_bind (simulates_failIf _ _) fun _ ↦ ?_
    exact simulates_bind (simulates_modifyGet fun _ ↦ rfl) fun _ ↦ simulates_pure _

theorem simulates_status : Simulates (unwatched (F := F)) status status := by
  unfold status
  refine simulates_bind simulates_takeSequence fun _ ↦ ?_
  refine simulates_bind (simulates_transact _) fun _ ↦ ?_
  exact simulates_get_bind fun _ ↦ simulates_pure _

theorem simulates_sendFrames (frameCount idx : ℕ) (finalReply : Option RpuWireReply)
    (frames : List RpuWireCommand) :
    Simulates (unwatched (F := F)) (sendFrames frameCount idx finalReply frames)
      (sendFrames frameCount idx finalReply frames) := by
  induction frames generalizing idx finalReply with
  | nil => exact simulates_pure _
  | cons frame frames ih =>
    unfold sendFrames
    exact simulates_bind (simulates_mapError _ (simulates_transact _)) fun _ ↦ ih _ _

theorem simulates_submitAfeCommand (command : AfeCommand) :
    Simulates (unwatched (F := F)) (submitAfeCommand command) (submitAfeCommand command) := by
  unfold submitAfeCommand
  refine simulates_bind (simulates_prepareFrames _) fun prepared ↦ ?_
  refine simulates_bind (simulates_sendFrames _ _ _ _) fun finalReply ↦ ?_
  refine simulates_bind ?_ fun _ ↦ simulates_pure _
  cases finalReply with
  | none => exact simulates_fail _
  | some reply => exact simulates_pure _

/-! ## What is kept -/

/-- A frame that is sent is written once, whatever becomes of it. -/
theorem written_transact (command : RpuWireCommand)
    (transport : RpmsgAfeTransport (WatchedFile F)) :
    (final (transact command) transport).file.written =
      transport.file.written ++ [command.encode] := by
  have hkeeps : ∀ {α : Type} (doing : String) (m : Prog String F α),
      Within (.keeps fun transport : RpmsgAfeTransport (WatchedFile F) ↦ transport.file.written)
        (io doing (zoom WatchedFile.fileLens m)) := by
    intro α doing m
    refine within_mapError (within_zoom (C := .keeps WatchedFile.written) ?_ fun _ _ h ↦ h)
    exact within_zoom_keeps m fun _ _ ↦ rfl
  -- After the frame is kept, the record stays as it is.
  have hrest := within_bind (hkeeps "writing RPU command" (RpmsgFile.writeAll command.encode))
    fun _ ↦ within_bind (hkeeps "flushing RPU command" RpmsgFile.flush) fun _ ↦
      within_bind (within_waitReadable fun _ ↦ hkeeps _ _) fun _ ↦
        within_bind (hkeeps "reading RPU reply" RpmsgFile.readExact)
          (within_accept (fun _ _ ↦ rfl) command)
  exact Bound.keeps_rel.mp (hrest.final { transport with
    file := ⟨transport.file.file, transport.file.written ++ [command.encode]⟩ })

theorem afterFrames_watched (frames : List RpuWireCommand)
    (transport : RpmsgAfeTransport (WatchedFile F)) :
    unwatched (afterFrames frames transport) = afterFrames frames (unwatched transport) ∧
      (afterFrames frames transport).file.written = transport.file.written ++
        (exchangesOfFrames frames (unwatched transport)).map (·.command.encode) := by
  induction frames generalizing transport with
  | nil => exact ⟨rfl, (List.append_nil _).symm⟩
  | cons frame frames ih =>
    have hwritten := written_transact frame transport
    rw [afterFrames, afterFrames, exchangesOfFrames, simulates_transact frame transport]
    cases htransact : transact frame transport with
    | ok reply after =>
      rw [final_of_ok htransact] at hwritten
      obtain ⟨hrest, hrecord⟩ := ih after
      refine ⟨hrest, ?_⟩
      dsimp only
      rw [hrecord, hwritten, List.map_cons, List.append_assoc]
      rfl
    | error abort after =>
      rw [final_of_error htransact] at hwritten
      exact ⟨rfl, hwritten⟩

theorem afterCall_watched (transport : RpmsgAfeTransport (WatchedFile F)) (call : HostCall) :
    unwatched (afterCall transport call) = afterCall (unwatched transport) call ∧
      (afterCall transport call).file.written = transport.file.written ++
        (exchanges (unwatched transport) call).map (·.command.encode) := by
  cases call with
  | status =>
    refine ⟨(simulates_status.final transport).symm, ?_⟩
    rw [afterCall_status]
    obtain ⟨next, htake⟩ : ∃ next, takeSequence transport =
        .ok transport.nextSequence { transport with nextSequence := next } := ⟨_, rfl⟩
    rw [exchanges, simulates_takeSequence transport, htake]
    exact written_transact _ _
  | submit command =>
    refine ⟨((simulates_submitAfeCommand command).final transport).symm, ?_⟩
    rw [afterCall_submit, exchanges, simulates_prepareFrames command transport]
    have hfile := Bound.keeps_rel.mp ((within_prepareFrames command).final transport)
    cases hprepare : prepareFrames command transport with
    | error abort after =>
      rw [final_of_error hprepare] at hfile
      exact (congrArg WatchedFile.written hfile).trans (List.append_nil _).symm
    | ok prepared after =>
      obtain ⟨count, frames⟩ := prepared
      rw [final_of_ok hprepare] at hfile
      dsimp only
      rw [(afterFrames_watched frames after).2, hfile]

/-- The frames of a run's transactions are what is written in the run, and the record changes
nothing. -/
theorem afterRun_watched (calls : List HostCall) (transport : RpmsgAfeTransport (WatchedFile F)) :
    unwatched (afterRun calls transport) = afterRun calls (unwatched transport) ∧
      (afterRun calls transport).file.written = transport.file.written ++
        (exchangesOfRun calls (unwatched transport)).map (·.command.encode) := by
  induction calls generalizing transport with
  | nil => exact ⟨rfl, (List.append_nil _).symm⟩
  | cons call calls ih =>
    obtain ⟨hcall, hrecord⟩ := afterCall_watched transport call
    obtain ⟨hrest, hrecords⟩ := ih (afterCall transport call)
    rw [hcall] at hrest hrecords
    refine ⟨hrest, hrecords.trans ?_⟩
    rw [hrecord, exchangesOfRun, List.map_append, List.append_assoc]

end DaphneSc.Server.Rpmsg
