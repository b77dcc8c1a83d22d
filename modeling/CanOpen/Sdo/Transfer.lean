import CanOpen.Journal
import CanOpen.Sdo.Command
import CanOpen.Sdo.Failure

/-!
# Transfers

A `Transfer` is a request together with a rule, `react`, for what to do about
each reply of its node.  `Transfer.run` plays it over a transport: it sends the
request and then receives messages, at most `budget` of them since the request
or since the last reply that moved the transfer on.  Messages that are no
service data replies of the node use up budget and do nothing else.

The state of a transfer outlives it, however it ends, so that what has been
read is not lost when a transfer fails.
-/

set_option autoImplicit false

namespace CanOpen.Sdo

inductive Reaction (ε S α : Type) where
  /-- Nothing but remarks; the message uses up budget. -/
  | ignore (notes : List (Note ε))
  /-- Sends requests and waits on with a fresh budget. -/
  | proceed (notes : List (Note ε)) (requests : List (Except CodecError Message)) (next : S)
  | finish (notes : List (Note ε)) (requests : List (Except CodecError Message)) (final : S)
    (result : Except (Failure ε) α)

structure Transfer (ε S α : Type) where
  node : UInt8
  /-- How many messages to receive without the transfer moving on. -/
  budget : Nat
  request : Except CodecError Message
  /-- Whether the filter on the node is set even if there is no request. -/
  filtersAnyway : Bool
  initial : S
  react : S → Payload → Reaction ε S α

structure Ending (ε S α : Type) where
  result : Except (Failure ε) α
  final : S

def Reaction.aborted {ε S α : Type} (node : UInt8) (payload : Payload) (final : S) :
    Reaction ε S α :=
  .finish
    [.aborted node payload.index payload.subindex payload.word payload.abortDescription]
    [] final (.error (.abort payload.word payload.abortDescription))

def sendAll {σ ε : Type} [Transport σ ε] :
    List (Except CodecError Message) → σ → Run σ ε (Except (Failure ε) Unit)
  | [], transport => ⟨.ok (), transport, []⟩
  | .error cause :: _, transport => ⟨.error (.malformed cause), transport, []⟩
  | .ok message :: rest, transport =>
      ((Exchange.send message transport).map (·.mapError Failure.transport)).andThen
        fun () transport => sendAll rest transport

theorem horizon_sendAll_le {σ ε : Type} [Transport σ ε]
    (requests : List (Except CodecError Message)) (transport : σ) :
    Transport.horizon (sendAll requests transport).transport
      ≤ Transport.horizon transport := by
  induction requests generalizing transport with
  | nil => simp [sendAll]
  | cons request rest inductionHypothesis =>
      cases request with
      | error cause => simp [sendAll]
      | ok message =>
          have first := Exchange.horizon_send_le message transport
          have others := inductionHypothesis (Exchange.send message transport).transport
          rw [sendAll, Run.andThen]
          split
          · exact first
          · exact Nat.le_trans others first

namespace Transfer

variable {σ ε S α : Type} [Transport σ ε]

/-- What the transfer does about any message: only service data replies of its
node count, and one that is too short to be service data is remarked on. -/
def hear (transfer : Transfer ε S α) (state : S) (message : Message) : Reaction ε S α :=
  if message.isFrom .sdoTx transfer.node then
    match message.payload? with
    | .ok payload => transfer.react state payload
    | .error _ => .ignore [.shortReply transfer.node message.length]
  else
    .ignore []

def await (transfer : Transfer ε S α) (state : S) (budget : Nat) (transport : σ) :
    Run σ ε (Ending ε S α) :=
  match budget with
  | 0 => ⟨⟨.error .timeout, state⟩, transport, []⟩
  | budget + 1 =>
    match Transport.reception transport with
    | .failed cause rest => ⟨⟨.error (.transport cause), state⟩, rest, [.unreceived cause]⟩
    | .arrived message rest _lower =>
      match transfer.hear state message with
      | .ignore notes =>
        (transfer.await state budget rest).after (.received message :: notes.map .noted)
      | .proceed notes requests next =>
        let sending := sendAll requests rest
        let entries := .received message :: notes.map .noted ++ sending.journal
        match sending.answer with
        | .error failure => ⟨⟨.error failure, next⟩, sending.transport, entries⟩
        | .ok () => (transfer.await next transfer.budget sending.transport).after entries
      | .finish notes requests final result =>
        let sending := sendAll requests rest
        let entries := .received message :: notes.map .noted ++ sending.journal
        match sending.answer with
        | .error failure => ⟨⟨.error failure, final⟩, sending.transport, entries⟩
        | .ok () => ⟨⟨result, final⟩, sending.transport, entries⟩
termination_by Transport.horizon transport
decreasing_by
  · exact _lower
  · exact Nat.lt_of_le_of_lt (horizon_sendAll_le requests rest) _lower

section AwaitOf

variable {transfer : Transfer ε S α} {state next : S} {transport rest : σ} {message : Message}
  {notes : List (Note ε)} {requests : List (Except CodecError Message)} (left : Nat)

theorem await_of_error {cause : ε} (failed : Transport.receive transport = (.error cause, rest)) :
    transfer.await state (left + 1) transport
      = ⟨⟨.error (.transport cause), state⟩, rest, [.unreceived cause]⟩ := by
  rw [await, Transport.reception_of_error failed]

variable (received : Transport.receive transport = (.ok message, rest))
include received

theorem await_of_ignore (heard : transfer.hear state message = .ignore notes) :
    transfer.await state (left + 1) transport
      = (transfer.await state left rest).after (.received message :: notes.map .noted) := by
  obtain ⟨_, arrived⟩ := Transport.reception_of_ok received
  rw [await, arrived]
  simp only [heard]

theorem await_of_interrupted {failure : Failure ε}
    (heard : transfer.hear state message = .proceed notes requests next)
    (failed : (sendAll requests rest).answer = .error failure) :
    transfer.await state (left + 1) transport
      = ((sendAll requests rest).map fun _ => ⟨.error failure, next⟩).after
          (.received message :: notes.map .noted) := by
  obtain ⟨_, arrived⟩ := Transport.reception_of_ok received
  rw [await, arrived]
  simp only [heard, failed]
  rfl

theorem await_of_proceed (heard : transfer.hear state message = .proceed notes requests next)
    (sent : (sendAll requests rest).answer = .ok ()) :
    transfer.await state (left + 1) transport
      = ((transfer.await next transfer.budget (sendAll requests rest).transport).after
          (sendAll requests rest).journal).after (.received message :: notes.map .noted) := by
  obtain ⟨_, arrived⟩ := Transport.reception_of_ok received
  rw [await, arrived]
  simp only [heard, sent]
  simp [Run.after]

theorem await_of_finish {result : Except (Failure ε) α}
    (heard : transfer.hear state message = .finish notes requests next result) :
    transfer.await state (left + 1) transport
      = ((sendAll requests rest).map fun answer => ⟨answer.bind fun () => result, next⟩).after
          (.received message :: notes.map .noted) := by
  obtain ⟨_, arrived⟩ := Transport.reception_of_ok received
  rw [await, arrived]
  simp only [heard]
  split
  next failed => simp [Run.after, Run.map, failed, Except.bind]
  next sent => simp [Run.after, Run.map, sent, Except.bind]

end AwaitOf

def start (transfer : Transfer ε S α) (request : Message) (transport : σ) :
    Run σ ε (Ending ε S α) :=
  let sending := Exchange.send request transport
  match sending.answer with
  | .error cause =>
      ⟨⟨.error (.transport cause), transfer.initial⟩, sending.transport, sending.journal⟩
  | .ok () =>
      (transfer.await transfer.initial transfer.budget sending.transport).after
        sending.journal

/-- Plays the transfer over a transport: sets the filter on the node, sends the
request and waits for the end.  Without a request nothing is sent or received. -/
def run (transfer : Transfer ε S α) (transport : σ) : Run σ ε (Ending ε S α) :=
  let filtering :=
    Exchange.setNodeFilter (.transferUnfiltered transfer.node) transfer.node transport
  match transfer.request with
  | .ok request =>
      (transfer.start request filtering.transport).after filtering.journal
  | .error cause =>
      let refusal := ⟨.error (.malformed cause), transfer.initial⟩
      if transfer.filtersAnyway then ⟨refusal, filtering.transport, filtering.journal⟩
      else ⟨refusal, transport, []⟩

end Transfer

end CanOpen.Sdo
