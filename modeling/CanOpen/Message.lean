import CanOpen.Can.Frame
import CanOpen.CodecError
import CanOpen.FunctionCode
import CanOpen.Sdo.Payload

/-!
# CANopen messages

A `Message` is a CAN frame taken apart: its identifier is split into function
code and node, its bytes are read as the body that function code and length
call for.  The fields are plain data and may contradict each other; those of
messages made by `standard` and `extended` do not, and those read by `parse`
only if a driver hands out bytes with a remote frame.
-/

set_option autoImplicit false

namespace CanOpen

inductive Addressing where
  | standard
  | extended
  deriving DecidableEq, Repr, Inhabited

inductive Body where
  | moduleControl (specifier node : UInt8)
  | nodeGuard (state : UInt8)
  | sdo (payload : Sdo.Payload)
  | raw (octets : Octets)
  deriving DecidableEq, Repr

namespace Body

/-- The body that eight bytes are, of which `length` count: module control has
two bytes, node guarding one, service data eight, and remote requests have
none of these. -/
def ofOctets (function : Option FunctionCode) (remote : Bool) (octets : Octets)
    (length : Nat) : Body :=
  if remote then
    raw octets
  else
    match function with
    | some .nmtControl => if length = 2 then moduleControl octets.first octets.second else raw octets
    | some .nodeGuard => if length = 1 then nodeGuard octets.first else raw octets
    | some .sdoTx | some .sdoRx =>
        if length = 8 then sdo (Sdo.Payload.ofOctets octets) else raw octets
    | _ => raw octets

def octets : Body → Octets
  | moduleControl specifier node => Octets.ofList [specifier, node]
  | nodeGuard state => Octets.ofList [state]
  | sdo payload => payload.toOctets
  | raw octets => octets

end Body

structure Message where
  addressing : Addressing
  remote : Bool
  function : Option FunctionCode
  /-- Node number of a standard message, whole identifier of an extended one. -/
  node : UInt32
  body : Body
  length : UInt8
  deriving DecidableEq, Repr

namespace Message

abbrev maxNode : Nat := 0x7F

/-- The eight bytes that data fill, and how many of them count.  A remote
request keeps the length and carries no bytes. -/
def contents (data : List UInt8) (remote : Bool) : Except CodecError (Octets × Nat) :=
  if Octets.capacity < data.length then
    .error (.byteLengthExceedsLimit data.length Octets.capacity)
  else
    .ok (if remote then Octets.zero else Octets.ofList data, data.length)

/-- The number `function * 128 + node`, bits of a node above 127 being mixed
into those of the function code. -/
def identifierOf (function : Option FunctionCode) (node : UInt32) : UInt32 :=
  ((function.map fun function => function.code.toUInt32).getD 0 <<< 7) ||| node

def standard (function : FunctionCode) (node : UInt8) (remote : Bool)
    (data : List UInt8) : Except CodecError Message :=
  if maxNode < node.toNat then
    .error (.invalidStandardId (identifierOf (some function) node.toUInt32).toUInt16)
  else do
    let (octets, length) ← contents data remote
    return {
      addressing := .standard
      remote := remote
      function := some function
      node := node.toUInt32
      body := Body.ofOctets (some function) remote octets length
      length := UInt8.ofNat length }

def extended (id : UInt32) (remote : Bool) (data : List UInt8) : Except CodecError Message :=
  if 0x1FFFFFFF < id.toNat then
    .error (.invalidExtendedId id)
  else do
    let (octets, length) ← contents data remote
    return {
      addressing := .extended
      remote := remote
      function := none
      node := id
      body := .raw octets
      length := UInt8.ofNat length }

def sdo (function : FunctionCode) (node : UInt8) (payload : Sdo.Payload) :
    Except CodecError Message :=
  standard function node false payload.toOctets.toList

/-! ## What a message holds -/

def octets (message : Message) : Octets :=
  message.body.octets

/-- Whether the message counts no more bytes than there are. -/
def InBounds (message : Message) : Prop :=
  message.length.toNat ≤ Octets.capacity

instance (message : Message) : Decidable message.InBounds :=
  inferInstanceAs (Decidable (_ ≤ _))

/-- The bytes that count, which are all eight if the message is out of bounds. -/
def data (message : Message) : List UInt8 :=
  message.octets.toList.take message.length.toNat

def cobId (message : Message) : UInt32 :=
  identifierOf message.function message.node

def code (message : Message) : UInt8 :=
  (message.function.map FunctionCode.code).getD 0

def payload? (message : Message) : Except CodecError Sdo.Payload :=
  match message.body with
  | .sdo payload => .ok payload
  | _ => .error (.wrongBody "SDO")

def moduleControl? (message : Message) : Except CodecError (UInt8 × UInt8) :=
  match message.body with
  | .moduleControl specifier node => .ok (specifier, node)
  | _ => .error (.wrongBody "NMT module control")

def guardState? (message : Message) : Except CodecError UInt8 :=
  match message.body with
  | .nodeGuard state => .ok state
  | _ => .error (.wrongBody "node guard")

def isFrom (message : Message) (function : FunctionCode) (node : UInt8) : Bool :=
  message.addressing == .standard && message.function == some function
    && message.node == node.toUInt32

end Message

end CanOpen
