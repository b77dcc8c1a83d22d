import CanOpen.Sdo.Request
import CanOpen.Sdo.Transfer

/-!
# Expedited transfers

One request and one reply move an object of up to four bytes, which hold an unsigned
number, least significant byte first.  An upload is decided by the first reply that grants
or refuses it; a download takes any reply of the node for its acknowledgement, even one
that gives it up.
-/

set_option autoImplicit false

namespace CanOpen

namespace ObjectValue

abbrev maxLength : Nat := 4

def encode (value : UInt32) (length : Nat) : Except CodecError (List UInt8) :=
  if length = 0 ∨ maxLength < length then
    .error (.byteLengthExceedsLimit length maxLength)
  else
    .ok (LittleEndian.split length value.toNat)

/-- The value of at most four bytes; no bytes at all are zero. -/
def decode (bytes : List UInt8) : Except CodecError UInt32 :=
  if maxLength < bytes.length then
    .error (.byteLengthExceedsLimit bytes.length maxLength)
  else
    .ok (UInt32.ofNat (LittleEndian.combine bytes))

end ObjectValue

namespace Sdo.Transfer

def expeditedUpload {ε : Type} (budget : Nat) (node : UInt8) (index : UInt16)
    (subindex : UInt8) : Transfer ε Unit UInt32 where
  node := node
  budget := budget
  request := Request.initiateUpload node index subindex
  filtersAnyway := true
  initial := ()
  react := fun _ payload =>
    match ServerCommand.ofByte payload.command with
    | .initiateUpload _ true _ =>
        .finish [] [] ()
          ((ObjectValue.decode payload.expeditedData).mapError Failure.malformed)
    | .initiateUpload _ false _ =>
        .finish [] [] () (.error (.unsupported "segmented reply to an expedited upload"))
    | .abort => .aborted node payload ()
    | _ => .ignore [.ignoredCommand .expeditedUpload payload.command]

def expeditedDownload {ε : Type} (budget : Nat) (node : UInt8) (index : UInt16)
    (subindex : UInt8) (data : List UInt8) : Transfer ε Unit Unit where
  node := node
  budget := budget
  request := Request.expeditedDownload node index subindex data
  filtersAnyway := false
  initial := ()
  react := fun _ payload =>
    match ServerCommand.ofByte payload.command with
    | .abort => .finish [.downloadAborted node payload.abortDescription] [] () (.ok ())
    | _ => .finish [] [] () (.ok ())

end Sdo.Transfer

end CanOpen
