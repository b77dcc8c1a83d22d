import CanOpen.Message

/-!
# Messages on the wire

`parse` takes a reported CAN frame apart and `pack` puts a message together
again.  A report is refused if its length is above eight or, for data frames,
if it is not the number of bytes; of a remote frame the bytes are kept, however
many there are.  A message is packed only if its identifier is exactly its
function code above its node number.
-/

set_option autoImplicit false

namespace CanOpen.Message

def parse (frame : Can.Reported) : Except CodecError Message :=
  if Octets.capacity < frame.length then
    .error (.malformed ("dlc " ++ frame.length.repr ++ " exceeds " ++ Octets.capacity.repr))
  else if Octets.capacity < frame.bytes.length
      ∨ (frame.remote = false ∧ frame.bytes.length ≠ frame.length) then
    .error (.malformed
      ("dlc " ++ frame.length.repr ++ " but " ++ frame.bytes.length.repr ++ " data bytes"))
  else
    let octets := Octets.ofList frame.bytes
    match frame.id with
    | .extended id => .ok {
        addressing := .extended
        remote := frame.remote
        function := none
        node := UInt32.ofNat id.val
        body := .raw octets
        length := UInt8.ofNat frame.length }
    | .standard id =>
        let function := some (FunctionCode.ofCode (UInt8.ofNat (id.val / 128)))
        .ok {
          addressing := .standard
          remote := frame.remote
          function := function
          node := UInt32.ofNat (id.val % 128)
          body := Body.ofOctets function frame.remote octets frame.length
          length := UInt8.ofNat frame.length }

def identifier (message : Message) : Except CodecError Can.Identifier :=
  match message.addressing with
  | .standard =>
      if maxNode < message.node.toNat then
        .error (.invalidStandardId message.cobId.toUInt16)
      else
        match Can.Identifier.standard? message.cobId.toUInt16.toNat with
        | some id => .ok id
        | none => .error (.invalidStandardId message.cobId.toUInt16)
  | .extended =>
      match Can.Identifier.extended? message.cobId.toNat with
      | some id => .ok id
      | none => .error (.invalidExtendedId message.cobId)

/-- Builds the frame of a message with the constructors of a driver. -/
def packWith {Target : Type} (maker : Can.Maker Target) (message : Message) :
    Except CodecError Target :=
  if Octets.capacity < message.length.toNat then
    .error (.byteLengthExceedsLimit message.length.toNat Octets.capacity)
  else do
    let id ← message.identifier
    let built :=
      if message.remote then maker.remote id message.length.toNat
      else maker.data id message.data
    match built with
    | some frame => .ok frame
    | none => .error (.frameCreationFailed message.data)

def pack (message : Message) : Except CodecError Can.Frame :=
  message.packWith Can.Frame.maker

end CanOpen.Message
