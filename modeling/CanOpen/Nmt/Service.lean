import CanOpen.Message

/-!
# Network management services

What a master can tell one node, or all of them, to do; what a guarded node says it is
doing, in the low seven bits of one byte below a bit that alternates from reply to reply;
and the requests of a master.  Module control goes to all nodes under identifier 0 and
names its node in the data; guarding and process data are asked for by remote requests.
-/

set_option autoImplicit false

namespace CanOpen.Nmt

inductive Command where
  | start
  | stop
  | enterPreOperational
  | resetApplication
  | resetCommunication
  deriving DecidableEq, Repr, Inhabited

namespace Command

def specifier : Command → UInt8
  | start => 0x01
  | stop => 0x02
  | enterPreOperational => 0x80
  | resetApplication => 0x81
  | resetCommunication => 0x82

def ofSpecifier? (specifier : UInt8) : Option Command :=
  match specifier.toNat with
  | 0x01 => some start
  | 0x02 => some stop
  | 0x80 => some enterPreOperational
  | 0x81 => some resetApplication
  | 0x82 => some resetCommunication
  | _ => none

theorem ofSpecifier?_specifier (command : Command) :
    ofSpecifier? command.specifier = some command := by
  cases command <;> rfl

def description : Command → String
  | start => "Start"
  | stop => "Stop"
  | enterPreOperational => "Enter pre-operational"
  | resetApplication => "Reset application"
  | resetCommunication => "Reset communication"

end Command

inductive State where
  | bootUp
  | disconnected
  | connecting
  | preparing
  | stopped
  | operational
  | preOperational
  | unknown (code : UInt8)
  deriving DecidableEq, Repr, Inhabited

namespace State

/-- The state in the low seven bits. -/
def ofCode (byte : UInt8) : State :=
  match (byte &&& 0x7F).toNat with
  | 0x00 => bootUp
  | 0x01 => disconnected
  | 0x02 => connecting
  | 0x03 => preparing
  | 0x04 => stopped
  | 0x05 => operational
  | 0x7F => preOperational
  | _ => unknown (byte &&& 0x7F)

def description : State → String
  | bootUp => "Boot-up"
  | disconnected => "Disconnected"
  | connecting => "Connecting"
  | preparing => "Preparing"
  | stopped => "Stopped"
  | operational => "Operational"
  | preOperational => "Pre-operational"
  | unknown _ => "Unknown state"

end State

structure GuardReport where
  state : State
  toggle : Bool
  deriving DecidableEq, Repr

def GuardReport.ofByte (byte : UInt8) : GuardReport where
  state := State.ofCode byte
  toggle := byte &&& 0x80 != 0

namespace Request

/-- Tells a node, or all nodes if the number is 0, what to do. -/
def moduleControl (command : Command) (node : UInt8) : Except CodecError Message :=
  if Message.maxNode < node.toNat then
    .error (.invalidNodeId node)
  else
    Message.standard .nmtControl 0 false [command.specifier, node]

def nodeGuard (node : UInt8) : Except CodecError Message :=
  Message.standard .nodeGuard node true []

def processData (node : UInt8) : Except CodecError Message :=
  Message.standard .pdo1Tx node true []

def sync : Except CodecError Message :=
  Message.standard .syncEmergency 0 false []

end Request

end CanOpen.Nmt
