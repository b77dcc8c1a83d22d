import CanOpen.Bus.Link
import CanOpen.Proofs.RoundTrip
import CanOpen.Proofs.Traffic
import CanOpen.Sdo.Transfer

/-!
# Transports that follow a script

A transport follows a script if it sends every well formed message and if the messages
it receives are those of the script, in order, for as long as the script goes on.  Over
such a transport what a transfer does is told by its reactions alone.
-/

set_option autoImplicit false

namespace CanOpen

@[simp]
theorem receivedIn_setNodeFilter {σ ε : Type} [Transport σ ε] (remark : ε → Note ε)
    (node : UInt8) (transport : σ) :
    receivedIn (Exchange.setNodeFilter remark node transport).journal = [] := by
  unfold Exchange.setNodeFilter
  split <;> rfl

namespace Transport

open Sdo

variable {σ ε : Type} [Transport σ ε]

/-- What it takes for all transports that are ready for a script to follow it. -/
structure Reliable (ready : List Message → σ → Prop) : Prop where
  sends : ∀ {script transport} (message : Message), ready script transport →
    message.WellFormed →
      ∃ rest, Transport.send message transport = (.ok (), rest) ∧ ready script rest
  receives : ∀ {script transport} (message : Message), ready (message :: script) transport →
    ∃ rest, Transport.receive transport = (.ok message, rest) ∧ ready script rest
  filters : ∀ {script transport} (node : UInt8), ready script transport →
    ready script (Transport.setNodeFilter node transport).2

/-- Whether a transport follows a script. -/
def Follows (script : List Message) (transport : σ) : Prop :=
  ∃ ready : List Message → σ → Prop, Reliable ready ∧ ready script transport

namespace Follows

variable {script : List Message} {transport : σ} {message : Message}

theorem send (follows : Follows script transport) (wellFormed : message.WellFormed) :
    ∃ rest, Follows script rest
      ∧ Exchange.send message transport
        = (⟨.ok (), rest, [.sent message]⟩ : Run σ ε (Except ε Unit)) := by
  obtain ⟨ready, reliable, now⟩ := follows
  obtain ⟨rest, sent, later⟩ := reliable.sends message now wellFormed
  refine ⟨rest, ⟨ready, reliable, later⟩, ?_⟩
  rw [Exchange.send, sent]

theorem receive (follows : Follows (message :: script) transport) :
    ∃ rest, Follows script rest ∧ Transport.receive transport = (.ok message, rest) := by
  obtain ⟨ready, reliable, now⟩ := follows
  obtain ⟨rest, received, later⟩ := reliable.receives message now
  exact ⟨rest, ⟨ready, reliable, later⟩, received⟩

theorem filter (follows : Follows script transport) (remark : ε → Note ε) (node : UInt8) :
    Follows script (Exchange.setNodeFilter remark node transport).transport := by
  obtain ⟨ready, reliable, now⟩ := follows
  have later := reliable.filters node now
  refine ⟨ready, reliable, ?_⟩
  unfold Exchange.setNodeFilter
  split
  next rest set => rwa [set] at later
  next cause rest unset => rwa [unset] at later

/-- Well formed messages are sent one after the other. -/
theorem sendAll (follows : Follows script transport) {messages : List Message}
    (wellFormed : ∀ message ∈ messages, message.WellFormed) :
    ∃ rest, Follows script rest
      ∧ Sdo.sendAll (messages.map .ok) transport
        = (⟨.ok (), rest, messages.map .sent⟩ : Run σ ε (Except (Failure ε) Unit)) := by
  induction messages generalizing transport with
  | nil => exact ⟨transport, follows, rfl⟩
  | cons message others inductionHypothesis =>
      obtain ⟨between, following, sent⟩ := follows.send (wellFormed message List.mem_cons_self)
      obtain ⟨rest, later, othersSent⟩ := inductionHypothesis following
        fun other member => wellFormed other (List.mem_cons_of_mem message member)
      refine ⟨rest, later, ?_⟩
      have succeeds : (Except.ok () : Except ε Unit).mapError Failure.transport = .ok () := rfl
      rw [List.map_cons, Sdo.sendAll, sent]
      simp [Run.map, Run.andThen, succeeds, othersSent, Run.after]

section Await

variable {S α : Type} {transfer : Transfer ε S α} {state next : S} {notes : List (Note ε)}
  (follows : Follows (message :: script) transport) (left : Nat)
include follows

theorem await_ignored (heard : transfer.hear state message = .ignore notes) :
    ∃ rest, Follows script rest
      ∧ transfer.await state (left + 1) transport
        = (transfer.await state left rest).after (.received message :: notes.map .noted) := by
  obtain ⟨rest, later, received⟩ := follows.receive
  exact ⟨rest, later, Transfer.await_of_ignore left received heard⟩

theorem await_proceeded {requests : List Message}
    (heard : transfer.hear state message = .proceed notes (requests.map .ok) next)
    (wellFormed : ∀ request ∈ requests, request.WellFormed) :
    ∃ rest, Follows script rest
      ∧ transfer.await state (left + 1) transport
        = (transfer.await next transfer.budget rest).after
            (.received message :: notes.map .noted ++ requests.map .sent) := by
  obtain ⟨between, following, received⟩ := follows.receive
  obtain ⟨rest, later, sent⟩ := following.sendAll wellFormed
  have succeeds := congrArg Run.answer sent
  refine ⟨rest, later, ?_⟩
  rw [Transfer.await_of_proceed left received heard succeeds, sent]
  simp [Run.after]

theorem await_finished {result : Except (Failure ε) α}
    (heard : transfer.hear state message = .finish notes [] next result) :
    ∃ rest, Follows script rest
      ∧ transfer.await state (left + 1) transport
        = ⟨⟨result, next⟩, rest, .received message :: notes.map .noted⟩ := by
  obtain ⟨rest, later, received⟩ := follows.receive
  refine ⟨rest, later, ?_⟩
  rw [Transfer.await_of_finish left received heard]
  simp [Sdo.sendAll, Run.map, Run.after, Except.bind]

end Await

section Skipping

variable {S α : Type} {transfer : Transfer ε S α} {state next : S} {ignored : List Message}
  (ignores : ∀ message ∈ ignored, ∃ notes, transfer.hear state message = .ignore notes)
include ignores

/-- Messages that are ignored use up budget and do nothing else. -/
theorem await_skipping (follows : Follows (ignored ++ script) transport) (left : Nat) :
    ∃ (rest : σ) (entries : List (Entry ε)), Follows script rest
      ∧ receivedIn entries = ignored
      ∧ transfer.await state (ignored.length + left) transport
        = (transfer.await state left rest).after entries := by
  induction ignored generalizing transport with
  | nil =>
      refine ⟨transport, [], follows, rfl, ?_⟩
      rw [List.length_nil, Nat.zero_add]
      rfl
  | cons message others inductionHypothesis =>
      obtain ⟨notes, heard⟩ := ignores message List.mem_cons_self
      obtain ⟨between, following, first⟩ := follows.await_ignored (others.length + left) heard
      obtain ⟨rest, entries, later, received, skipped⟩ := inductionHypothesis
        (fun other member => ignores other (List.mem_cons_of_mem message member)) following
      refine ⟨rest, .received message :: notes.map .noted ++ entries, later, ?_, ?_⟩
      · simp [Entry.received?, received]
      · rw [List.length_cons, Nat.add_right_comm, first, skipped]
        simp [Run.after]

variable (follows : Follows (ignored ++ message :: script) transport)
  (few : ignored.length < transfer.budget) {notes : List (Note ε)}
include follows few

/-- A message that moves a transfer on does so after any that are ignored, if the budget
lasts until then. -/
theorem await_next {requests : List Message}
    (heard : transfer.hear state message = .proceed notes (requests.map .ok) next)
    (wellFormed : ∀ request ∈ requests, request.WellFormed) :
    ∃ rest : σ, Follows script rest
      ∧ (transfer.await state transfer.budget transport).answer
        = (transfer.await next transfer.budget rest).answer
      ∧ receivedIn (transfer.await state transfer.budget transport).journal
        = ignored ++ message :: receivedIn (transfer.await next transfer.budget rest).journal := by
  obtain ⟨left, enough⟩ := Nat.exists_eq_add_of_lt few
  obtain ⟨between, entries, following, received, skipped⟩ :=
    await_skipping ignores follows (left + 1)
  obtain ⟨rest, later, moved⟩ := following.await_proceeded left heard wellFormed
  have whole := congrArg (transfer.await state · transport) enough
  rw [Nat.add_assoc, skipped, moved] at whole
  refine ⟨rest, later, ?_⟩
  rw [whole]
  simp [Run.after, received, Entry.received?]

theorem await_last {result : Except (Failure ε) α}
    (heard : transfer.hear state message = .finish notes [] next result) :
    (transfer.await state transfer.budget transport).answer = ⟨result, next⟩
      ∧ receivedIn (transfer.await state transfer.budget transport).journal
        = ignored ++ [message] := by
  obtain ⟨left, enough⟩ := Nat.exists_eq_add_of_lt few
  obtain ⟨between, entries, following, received, skipped⟩ :=
    await_skipping ignores follows (left + 1)
  obtain ⟨rest, _, ended⟩ := following.await_finished left heard
  rw [enough, Nat.add_assoc, skipped, ended]
  simp [Run.after, received, Entry.received?]

end Skipping

/-- A transfer sends its request and waits from its first state on. -/
theorem run {S α : Type} (follows : Follows script transport) (transfer : Transfer ε S α)
    {request : Message} (built : transfer.request = .ok request)
    (wellFormed : request.WellFormed) :
    ∃ rest : σ, Follows script rest
      ∧ (transfer.run transport).answer
        = (transfer.await transfer.initial transfer.budget rest).answer
      ∧ receivedIn (transfer.run transport).journal
        = receivedIn (transfer.await transfer.initial transfer.budget rest).journal := by
  have filtered := follows.filter (.transferUnfiltered transfer.node) transfer.node
  obtain ⟨rest, later, sent⟩ := filtered.send wellFormed
  refine ⟨rest, later, ?_, ?_⟩
  · simp [Transfer.run, built, Transfer.start, sent, Run.after]
  · simp [Transfer.run, built, Transfer.start, sent, Run.after, Entry.received?]

end Follows

end Transport

/-! ## A bus without failures -/

theorem Bus.receiveBy_of_inbox {bus : Bus} {frame : Can.Reported} {events : List BusEvent}
    {message : Message} (inbox : bus.inbox = .frame frame :: events)
    (read : Message.parse frame = .ok message) :
    bus.receiveBy .blocking none
      = (.ok message, { bus with inbox := events, delivered := bus.delivered + 1 }) := by
  obtain ⟨others, ahead⟩ : ∃ others, bus.horizon = others + 1 := by
    refine ⟨events.length + bus.idle.left, ?_⟩
    rw [Bus.horizon, inbox, List.length_cons]
    omega
  have next : bus.next? = some (.frame frame, { bus with inbox := events }) := by
    rw [Bus.next?, inbox]
  have received : Bus.Pull.blocking.next bus
      = (.ok frame, { bus with inbox := events, delivered := bus.delivered + 1 }) := by
    show bus.receiveWithin bus.horizon = _
    rw [ahead, Bus.receiveWithin, next]
  have accepted : Bus.NodeFilter.accepts none frame.id = true := rfl
  rw [Bus.receiveBy, ahead, Bus.receiveByWithin, received]
  simp only [accepted, if_true, read]
  rfl

namespace PlainLink

/-- Whether a plain transport sends everything and finds the messages of a script in its
inbox. -/
structure Holds (script : List Message) (link : PlainLink) : Prop where
  maker : link.bus.maker = Can.Frame.maker
  outcomes : link.bus.outcomes = []
  inbox : ∃ frames : List Can.Reported, link.bus.inbox = frames.map .frame
    ∧ frames.map Message.parse = script.map .ok

theorem reliable_holds : Transport.Reliable Holds where
  sends := by
    intro script link message holds wellFormed
    obtain ⟨frame, packed, _⟩ := wellFormed.parse_pack
    have sent : link.bus.sendBy Bus.transmit message
        = (.ok (), { link.bus with outcomes := [] }.record (.sent frame)) := by
      have made : message.packWith link.bus.maker = .ok frame := by rwa [holds.maker]
      rw [Bus.sendBy, made]
      simp only [Bus.transmit, holds.outcomes, Bus.transmitAt]
      rfl
    refine ⟨{ link with bus := { link.bus with outcomes := [] }.record (.sent frame) }, ?_, ?_⟩
    · simp only [Transport.send, send, sent]
    · exact ⟨holds.maker, rfl, holds.inbox⟩
  receives := by
    intro script link message holds
    obtain ⟨_ | ⟨frame, frames⟩, inbox, read⟩ := holds.inbox
    · cases read
    · obtain ⟨here, others⟩ := List.cons.inj read
      have received := Bus.receiveBy_of_inbox inbox here
      refine ⟨(receive link).2, Prod.ext ?_ rfl, ?_⟩
      · simp only [Transport.receive, receive, received]
      · simp only [receive, received]
        exact ⟨holds.maker, holds.outcomes, frames, rfl, others⟩
  filters := by
    intro script link node holds
    simp only [Transport.setNodeFilter, setNodeFilter]
    split
    · exact holds
    · exact ⟨holds.maker, holds.outcomes, holds.inbox⟩

theorem follows_of_holds {script : List Message} {link : PlainLink} (holds : Holds script link) :
    Transport.Follows script link :=
  ⟨Holds, reliable_holds, holds⟩

end PlainLink

/-- What is read from eight bytes of the service data server of a node. -/
def Message.reply (node : Fin 128) (bytes : List UInt8) : Message where
  addressing := .standard
  remote := false
  function := some .sdoTx
  node := UInt32.ofNat node
  body := .sdo (Sdo.Payload.ofOctets (Octets.ofList bytes))
  length := 8

namespace PlainLink

theorem holds_replaying (node : Fin 128) (replies : List (List UInt8)) :
    Holds (replies.map (Message.reply node)) (replaying node replies) where
  maker := rfl
  outcomes := rfl
  inbox := by
    refine ⟨replies.map fun bytes =>
      ⟨.standard ⟨0x580 + node, by omega⟩, false, 8, (Octets.ofList bytes).toList⟩, ?_, ?_⟩
    · simp only [replaying, List.map_map]
      rfl
    · rw [List.map_map, List.map_map]
      apply List.map_congr_left
      intro bytes _
      apply Message.parse_eq_ok_iff.2
      have quotient : (0x580 + node.val) / 128 = 0xB := by omega
      have remainder : (0x580 + node.val) % 128 = node.val := by omega
      refine ⟨Nat.le_refl 8, by simp, by simp, ?_⟩
      simp only [Can.Identifier.function?, Can.Identifier.node, quotient, remainder,
        Octets.ofList_toList]
      rfl

end PlainLink

end CanOpen
