import CanOpen.Nmt.Master
import CanOpen.Proofs.Conclusions
import CanOpen.Proofs.Lockstep
import CanOpen.Proofs.RoundTrip

/-!
# Calls that can be requested never fail over a message

Whether all the messages of a call can be built is known before it does anything.  A call
whose request can be built never comes to a message that cannot be built or read, whatever it
receives, and all it sends are data frames of eight bytes to the server of its node.
-/

set_option autoImplicit false

namespace CanOpen

variable {σ ε : Type}

/-- Whether a message is a request of eight bytes to the server of a node, in its fields and
in its frame. -/
structure Message.Requests (message : Message) (node : UInt8) : Prop where
  carries : message.Carries .sdoRx 8
  node_eq : message.node = node.toUInt32
  cobId_eq : message.cobId.toNat = 0x600 + node.toNat
  packs : ∃ frame id, message.pack = .ok frame ∧ id.val = 0x600 + node.toNat
    ∧ frame.reported = ⟨.standard id, false, 8, message.octets.toList⟩

theorem Message.requests_request {node : UInt8} (nodeFits : node.toNat ≤ 127)
    (octets : Octets) : (Message.request node octets).Requests node := by
  have fits : node.toUInt32.toNat ≤ 0x7F := by
    rwa [UInt8.toNat_toUInt32]
  obtain ⟨id, value, cobId, identified⟩ :=
    (Message.request node octets).identifier_standard rfl rfl fits
  have number : id.val = 0x600 + node.toNat := by
    rw [value, Message.request, UInt8.toNat_toUInt32]
    rfl
  have short : (Message.request node octets).length.toNat ≤ 8 := Nat.le_refl 8
  have all : (Message.request node octets).data = (Message.request node octets).octets.toList := by
    rw [Message.data]
    exact List.take_of_length_le (by rw [Vector.length_toList]; exact Nat.le_refl 8)
  obtain ⟨frame, packed, reported⟩ := Message.pack_eq_ok short identified
  rw [show (Message.request node octets).remote = false from rfl, all] at reported
  exact ⟨⟨rfl, rfl, rfl, rfl⟩, rfl, cobId.trans number, frame, id, packed, number, reported⟩

/-! ## Calls -/

namespace Sdo

variable {α : Type} {conduct : Conduct} {deeds : List (Entry ε)}
  {result : Except (Failure ε) α}

theorem Harmless.ne_malformed (harmless : Harmless result) (cause : CodecError) :
    result ≠ .error (.malformed cause) := by
  rintro rfl
  cases harmless

theorem Concludes.ne_malformed (concludes : Concludes conduct deeds result)
    (cause : CodecError) : result ≠ .error (.malformed cause) := by
  obtain ⟨_, _, _, _, conclusion⟩ := concludes
  cases conclusion with
  | settled harmless => exact harmless.ne_malformed cause
  | _ => exact nofun

/-- All that is handed over goes on with a transfer or gives it up. -/
theorem Concludes.asks (concludes : Concludes conduct deeds result) :
    ∀ message ∈ offeredIn deeds, Asks conduct.node message ∨ conduct.refusal = some message := by
  obtain ⟨before, last, rfl, uneventful, conclusion⟩ := concludes
  rw [offeredIn_append, List.forall_mem_append]
  constructor
  · intro message member
    exact .inl (asks_of_uneventful uneventful message member)
  · cases conclusion with
    | settled harmless => exact List.forall_mem_nil _
    | unreceived cause => exact List.forall_mem_nil _
    | unsent message cause asks => exact List.forall_mem_singleton.2 (.inl asks)
    | givenUp reply heeds aborts => exact List.forall_mem_nil _
    | refused reply refuses goesOn => exact List.forall_mem_singleton.2 (.inr refuses)
    | silenced reply refuses cause goesOn => exact List.forall_mem_singleton.2 (.inr refuses)

theorem Call.conduct_node (call : Call) : call.conduct.node = call.node := by
  cases call <;> rfl

theorem Call.requests_of_asks (call : Call) (nodeFits : call.conduct.node.toNat ≤ 127)
    {message : Message}
    (asks : Asks call.conduct.node message ∨ call.conduct.refusal = some message) :
    message.Requests call.conduct.node := by
  obtain ⟨octets, rfl, _⟩ | refuses := asks
  · exact Message.requests_request nodeFits octets
  · cases call with
    | blockDownload node index subindex data =>
        obtain rfl : refusal node index subindex = message := Option.some.inj refuses
        exact Message.requests_request nodeFits _
    | _ => cases refuses

/-- A call that can be requested hands over requests to its node only. -/
theorem Call.requests [Transport σ ε] {call : Call} (requestable : call.Requestable)
    (config : Config) (transport : σ) :
    ∀ message ∈ offeredIn (call.run config transport).journal, message.Requests call.node := by
  intro message member
  have asks := (call.concludes requestable config transport).asks message
  rw [offeredIn_deedsIn] at asks
  have requests (nodeFits : call.conduct.node.toNat ≤ 127) :
      message.Requests call.conduct.node :=
    call.requests_of_asks nodeFits (asks member)
  rw [← call.conduct_node]
  cases call with
  | blockUpload node index subindex contents => cases member
  | expeditedDownload node index subindex data
  | segmentedDownload node index subindex data
  | blockDownload node index subindex data =>
      exact requests requestable.1
  | expeditedUpload node index subindex
  | segmentedUpload node index subindex contents
  | identity node => exact requests requestable

theorem Reaction.Lawful.builds {S : Type} {state : S} {payload : Payload}
    {reaction : Reaction ε S α} (lawful : reaction.Lawful conduct state payload) :
    ∀ request ∈ reaction.requests, ∃ message, request = .ok message := by
  cases lawful with
  | ignored notes => exact List.forall_mem_nil _
  | proceeded notes next ask =>
      intro request member
      obtain ⟨message, _, rfl⟩ := List.mem_map.1 member
      exact ⟨message, rfl⟩
  | finished notes final harmless => exact List.forall_mem_nil _
  | givenUp heeds aborts => exact List.forall_mem_nil _
  | refused notes final refuses => exact List.forall_mem_singleton.2 ⟨_, rfl⟩

theorem Reaction.Lawful.result_ne_malformed {S : Type} {state : S} {payload : Payload}
    {reaction : Reaction ε S α} (lawful : reaction.Lawful conduct state payload)
    (cause : CodecError) : reaction.result? ≠ some (.error (.malformed cause)) := by
  cases lawful with
  | finished notes final harmless =>
      intro same
      exact harmless.ne_malformed cause (Option.some.inj same)
  | _ => exact nofun

end Sdo

namespace Nmt

variable [Transport σ ε]

theorem awaitGuardReport_ne_malformed (node : UInt8) (rounds : Nat) (transport : σ)
    (cause : CodecError) :
    (awaitGuardReport node rounds transport).answer ≠ .error (.malformed cause) := by
  induction rounds generalizing transport with
  | zero => exact nofun
  | succ rounds inductionHypothesis =>
      cases receives : Transport.receive transport with
      | mk result rest =>
          cases result with
          | error cause =>
              rw [awaitGuardReport_of_error node rounds receives]
              exact nofun
          | ok message =>
              cases reports : guardReport? node message with
              | some report =>
                  rw [awaitGuardReport_of_some rounds receives reports]
                  exact nofun
              | none =>
                  rw [awaitGuardReport_of_none rounds receives reports]
                  exact inductionHypothesis rest

theorem Request.moduleControl_cases (command : Command) (node : UInt8) :
    (127 < node.toNat ∧ ∃ cause, Request.moduleControl command node = .error cause)
    ∨ (node.toNat ≤ 127 ∧ ∃ message, Request.moduleControl command node = .ok message) := by
  by_cases above : Message.maxNode < node.toNat
  · rw [Request.moduleControl, if_pos above]
    exact .inl ⟨above, _, rfl⟩
  · have short : [command.specifier, node].length ≤ 8 := by simp
    rw [Request.moduleControl, if_neg above]
    exact .inr ⟨Nat.le_of_not_lt above, _, Message.standard_eq_ok_iff.2 ⟨by decide, short, rfl⟩⟩

theorem Request.nodeGuard_cases (node : UInt8) :
    (127 < node.toNat ∧ ∃ cause, Request.nodeGuard node = .error cause)
    ∨ (node.toNat ≤ 127 ∧ ∃ message, Request.nodeGuard node = .ok message) := by
  by_cases above : Message.maxNode < node.toNat
  · rw [Request.nodeGuard, Message.standard, if_pos above]
    exact .inl ⟨above, _, rfl⟩
  · have fits : node.toNat ≤ 127 := Nat.le_of_not_lt above
    exact .inr ⟨fits, _, Message.standard_eq_ok_iff.2 ⟨fits, Nat.zero_le 8, rfl⟩⟩

theorem sendModuleControl_ne_malformed {command : Command} {node : UInt8} {message : Message}
    (built : Request.moduleControl command node = .ok message) (transport : σ)
    (cause : CodecError) :
    (sendModuleControl command node transport).answer ≠ .error (.malformed cause) := by
  rw [sendModuleControl, built]
  obtain ⟨rest, sends⟩ | ⟨fault, rest, fails⟩ := Exchange.send_cases (ε := ε) message transport
  · simp only [sends]
    intro same
    cases same
  · simp only [fails]
    intro same
    cases same

theorem pollNodeState_of_error {node : UInt8} {cause : CodecError}
    (refused : Request.nodeGuard node = .error cause) (rounds : Nat) (transport : σ) :
    pollNodeState node rounds transport
      = (Exchange.setNodeFilter (.guardingUnfiltered node) node transport).map fun () =>
          .error (.malformed cause) := by
  simp only [pollNodeState, refused, Run.after, List.append_nil]
  rfl

theorem pollNodeState_ne_malformed {node : UInt8} {request : Message}
    (built : Request.nodeGuard node = .ok request) (rounds : Nat) (transport : σ)
    (cause : CodecError) :
    (pollNodeState node rounds transport).answer ≠ .error (.malformed cause) := by
  simp only [pollNodeState, built, Run.after]
  obtain ⟨rest, sends⟩ | ⟨fault, rest, fails⟩ := Exchange.send_cases (ε := ε) request
    (Exchange.setNodeFilter (.guardingUnfiltered node) node transport).transport
  · rw [sends]
    exact awaitGuardReport_ne_malformed node rounds rest cause
  · rw [fails]
    intro same
    cases same

end Nmt

/-! ## All that is built -/

/-- A call fails over a message exactly if it cannot be requested, and then it sends and
receives nothing.  If it can be requested, no request of any transfer that it plays is refused
whatever the transfer hears in whatever state, no result is misread, and all that is handed to
the transport are requests to the node that can be packed.  Guarding and module control fail
over a message exactly if there is no such node. -/
theorem malformed_exactly_unrequestable [Transport σ ε] (transport : σ) :
    (∀ (config : Sdo.Config) (call : Sdo.Call),
      let run := call.run config transport
      (¬ call.Requestable ∧ (∃ cause, run.answer.result = .error (.malformed cause))
        ∧ trafficIn run.journal = [])
      ∨ (call.Requestable ∧ (∀ cause, run.answer.result ≠ .error (.malformed cause))
        ∧ (∀ message ∈ offeredIn run.journal, message.Requests call.node)
        ∧ ∀ (S α : Type) (transfer : Sdo.Transfer ε S α), call.Plays config transfer →
            ∀ (state : S) (payload : Sdo.Payload),
              (∀ request ∈ (transfer.react state payload).requests,
                ∃ message, request = .ok message)
              ∧ ∀ cause, (transfer.react state payload).result?
                  ≠ some (.error (.malformed cause))))
    ∧ (∀ (node : UInt8) (rounds : Nat),
      let run := Nmt.pollNodeState node rounds transport
      (127 < node.toNat ∧ (∃ cause, run.answer = .error (.malformed cause))
        ∧ trafficIn run.journal = [])
      ∨ (node.toNat ≤ 127 ∧ ∀ cause, run.answer ≠ .error (.malformed cause)))
    ∧ ∀ (command : Nmt.Command) (node : UInt8),
      let run := Nmt.sendModuleControl command node transport
      (127 < node.toNat ∧ (∃ cause, run.answer = .error (.malformed cause))
        ∧ trafficIn run.journal = [])
      ∨ (node.toNat ≤ 127 ∧ ∀ cause, run.answer ≠ .error (.malformed cause)) := by
  refine ⟨fun config call => ?_, fun node rounds => ?_, fun command node => ?_⟩
  · intro run
    by_cases requestable : call.Requestable
    · have concludes := call.concludes requestable config transport
      refine .inr ⟨requestable, concludes.ne_malformed,
        Sdo.Call.requests requestable config transport, ?_⟩
      intro S α transfer plays state payload
      obtain ⟨_, nodeFits, _⟩ | ⟨unrequestable, _⟩ := plays.request_cases
      · have lawful := (plays.lawful nodeFits).react state payload
        exact ⟨lawful.builds, lawful.result_ne_malformed⟩
      · exact absurd requestable unrequestable
    · obtain ⟨cause, buffer, rejects⟩ :=
        Sdo.Call.run_of_not_requestable requestable config transport
      rw [show run = _ from rejects]
      refine .inl ⟨requestable, ⟨cause, ?_⟩, Sdo.trafficIn_rejecting _ _ _ transport⟩
      rw [Sdo.answer_rejecting]
  · obtain ⟨above, cause, refused⟩ | ⟨nodeFits, request, built⟩ :=
      Nmt.Request.nodeGuard_cases node
    · rw [Nmt.pollNodeState_of_error refused]
      exact .inl ⟨above, ⟨cause, rfl⟩, Exchange.trafficIn_setNodeFilter _ node transport⟩
    · exact .inr ⟨nodeFits, Nmt.pollNodeState_ne_malformed built rounds transport⟩
  · obtain ⟨above, cause, refused⟩ | ⟨nodeFits, request, built⟩ :=
      Nmt.Request.moduleControl_cases command node
    · refine .inl ⟨above, ⟨cause, ?_⟩, ?_⟩
      · rw [Nmt.sendModuleControl, refused]
      · rw [Nmt.sendModuleControl, refused]
        rfl
    · exact .inr ⟨nodeFits, Nmt.sendModuleControl_ne_malformed built transport⟩

end CanOpen
