import CanOpen.Nmt.Service
import CanOpen.Transport

/-!
# Journals

A call on a transport keeps a journal: every operation on the transport, with
what became of it, and every remark worth telling, in the order in which they
happened.  `Run` is a call's answer together with the transport that it leaves
and its journal, and `Exchange` makes runs of single operations.
-/

set_option autoImplicit false

namespace CanOpen

inductive TransferKind where
  | expeditedUpload
  | segmentedUpload
  | segmentedDownload
  | blockDownload
  deriving DecidableEq, Repr, Inhabited

/-- A remark on the course of a call. -/
inductive Note (ε : Type) where
  | transferUnfiltered (node : UInt8) (cause : ε)
  | guardingUnfiltered (node : UInt8) (cause : ε)
  | shortReply (node length : UInt8)
  | ignoredCommand (kind : TransferKind) (command : UInt8)
  | staleBlockReply (command : UInt8)
  | aborted (node : UInt8) (index : UInt16) (subindex : UInt8) (code : UInt32)
    (description : String)
  | downloadAborted (node : UInt8) (description : String)
  | uploadOpened (index : UInt16) (subindex node : UInt8) (declared : UInt32)
  | blocksOpened (node : UInt8) (crc : Bool) (blockSize : UInt8)
  | partlyAcknowledged (node : UInt8) (acknowledged sent bytes : Nat)
  | invalidBlockSize (node blockSize : UInt8)
  | commanded (command : Nmt.Command) (node : UInt8)
  deriving DecidableEq, Repr

/-- One line of a journal. -/
inductive Entry (ε : Type) where
  | sent (message : Message)
  | unsent (message : Message) (cause : ε)
  | received (message : Message)
  | unreceived (cause : ε)
  | filtered (node : UInt8)
  | unfiltered (node : UInt8) (cause : ε)
  | noted (note : Note ε)
  deriving DecidableEq, Repr

namespace Entry

def sent? {ε : Type} : Entry ε → Option Message
  | sent message => some message
  | _ => none

def received? {ε : Type} : Entry ε → Option Message
  | received message => some message
  | _ => none

end Entry

def sentIn {ε : Type} (journal : List (Entry ε)) : List Message :=
  journal.filterMap Entry.sent?

def receivedIn {ε : Type} (journal : List (Entry ε)) : List Message :=
  journal.filterMap Entry.received?

@[simp]
theorem sentIn_append {ε : Type} (left right : List (Entry ε)) :
    sentIn (left ++ right) = sentIn left ++ sentIn right :=
  List.filterMap_append

@[simp]
theorem receivedIn_append {ε : Type} (left right : List (Entry ε)) :
    receivedIn (left ++ right) = receivedIn left ++ receivedIn right :=
  List.filterMap_append

@[simp]
theorem sentIn_noted {ε : Type} (notes : List (Note ε)) :
    sentIn (notes.map .noted) = [] := by
  simp [sentIn, Entry.sent?]

@[simp]
theorem receivedIn_noted {ε : Type} (notes : List (Note ε)) :
    receivedIn (notes.map .noted) = [] := by
  simp [receivedIn, Entry.received?]

structure Run (σ ε ρ : Type) where
  answer : ρ
  transport : σ
  journal : List (Entry ε)

namespace Run

def after {σ ε ρ : Type} (entries : List (Entry ε)) (run : Run σ ε ρ) : Run σ ε ρ :=
  { run with journal := entries ++ run.journal }

def map {σ ε ρ ρ' : Type} (view : ρ → ρ') (run : Run σ ε ρ) : Run σ ε ρ' where
  answer := view run.answer
  transport := run.transport
  journal := run.journal

def andThen {σ ε φ α β : Type} (run : Run σ ε (Except φ α))
    (next : α → σ → Run σ ε (Except φ β)) : Run σ ε (Except φ β) :=
  match run.answer with
  | .error failure => ⟨.error failure, run.transport, run.journal⟩
  | .ok value => (next value run.transport).after run.journal

end Run

namespace Exchange

variable {σ ε : Type} [Transport σ ε]

def send (message : Message) (transport : σ) : Run σ ε (Except ε Unit) :=
  match Transport.send message transport with
  | (.ok (), rest) => ⟨.ok (), rest, [.sent message]⟩
  | (.error cause, rest) => ⟨.error cause, rest, [.unsent message cause]⟩

/-- Sets a filter on a node.  A transport that cannot is no reason to give up:
the remark is all that comes of it. -/
def setNodeFilter (remark : ε → Note ε) (node : UInt8) (transport : σ) : Run σ ε Unit :=
  match Transport.setNodeFilter node transport with
  | (.ok (), rest) => ⟨(), rest, [.filtered node]⟩
  | (.error cause, rest) => ⟨(), rest, [.unfiltered node cause, .noted (remark cause)]⟩

theorem horizon_send_le (message : Message) (transport : σ) :
    Transport.horizon (send message transport).transport ≤ Transport.horizon transport := by
  have bound := Transport.horizon_send_le message transport
  unfold send
  split <;> simp_all

end Exchange

end CanOpen
