import CanOpen.Journal
import CanOpen.Nmt.Service

/-!
# Network masters

A master tells nodes what to do and asks them what they are doing.
-/

set_option autoImplicit false

namespace CanOpen.Nmt

inductive Failure (ε : Type) where
  | transport (cause : ε)
  | malformed (cause : CodecError)
  | timeout
  deriving DecidableEq, Repr

def Failure.message {ε : Type} [ToString ε] : Failure ε → String
  | .transport cause => "Transport error: " ++ toString cause
  | .malformed cause => cause.message
  | .timeout => "Node guard timed out"

variable {σ ε : Type} [Transport σ ε]

/-- Sends a command to a node, or to all if the number is 0. -/
def sendModuleControl (command : Command) (node : UInt8) (transport : σ) :
    Run σ ε (Except (Failure ε) Unit) :=
  match Request.moduleControl command node with
  | .error cause => ⟨.error (.malformed cause), transport, []⟩
  | .ok message =>
      ((Exchange.send message transport).map (·.mapError Failure.transport)).after
        [.noted (.commanded command node)]

def guardReport? (node : UInt8) (message : Message) : Option GuardReport :=
  if message.isFrom .nodeGuard node && !message.remote then
    match message.guardState? with
    | .ok state => some (.ofByte state)
    | .error _ => none
  else
    none

def awaitGuardReport (node : UInt8) (rounds : Nat) (transport : σ) :
    Run σ ε (Except (Failure ε) GuardReport) :=
  match rounds with
  | 0 => ⟨.error .timeout, transport, []⟩
  | rounds + 1 =>
      match Transport.receive transport with
      | (.error cause, rest) => ⟨.error (.transport cause), rest, [.unreceived cause]⟩
      | (.ok message, rest) =>
          match guardReport? node message with
          | some report => ⟨.ok report, rest, [.received message]⟩
          | none => (awaitGuardReport node rounds rest).after [.received message]

def pollNodeState (node : UInt8) (rounds : Nat) (transport : σ) :
    Run σ ε (Except (Failure ε) GuardReport) :=
  let filtering := Exchange.setNodeFilter (.guardingUnfiltered node) node transport
  let polling : Run σ ε (Except (Failure ε) GuardReport) :=
    match Request.nodeGuard node with
    | .error cause => ⟨.error (.malformed cause), filtering.transport, []⟩
    | .ok request =>
        ((Exchange.send request filtering.transport).map
          (·.mapError Failure.transport)).andThen
            fun () transport => awaitGuardReport node rounds transport
  polling.after filtering.journal

end CanOpen.Nmt
