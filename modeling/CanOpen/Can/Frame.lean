import CanOpen.Bytes

/-!
# Classic CAN frames

An identifier has 11 bits (standard) or 29 bits (extended).  A frame either
carries up to eight bytes or is a remote request, which names a length and
carries nothing.  `Reported` is a frame as some driver tells of it: its length
field and its bytes are two independent answers, so they may disagree.
-/

set_option autoImplicit false

namespace CanOpen.Can

inductive Identifier where
  | standard (id : Fin 0x800)
  | extended (id : Fin 0x20000000)
  deriving DecidableEq, Repr, Inhabited

namespace Identifier

def standard? (id : Nat) : Option Identifier :=
  if bounded : id < 0x800 then some (.standard ⟨id, bounded⟩) else none

def extended? (id : Nat) : Option Identifier :=
  if bounded : id < 0x20000000 then some (.extended ⟨id, bounded⟩) else none

def value : Identifier → Nat
  | .standard id => id.val
  | .extended id => id.val

def isExtended : Identifier → Bool
  | .standard _ => false
  | .extended _ => true

def cobId? : Identifier → Option Nat
  | .standard id => some id.val
  | .extended _ => none

end Identifier

inductive Content where
  | data (bytes : { bytes : List UInt8 // bytes.length ≤ Octets.capacity })
  /-- A request for a frame of this length. -/
  | remote (length : Fin 9)
  deriving DecidableEq, Repr

structure Frame where
  id : Identifier
  content : Content
  deriving DecidableEq, Repr

namespace Frame

/-- A data frame; there is none with more than eight bytes. -/
def data? (id : Identifier) (bytes : List UInt8) : Option Frame :=
  if short : bytes.length ≤ Octets.capacity then some ⟨id, .data ⟨bytes, short⟩⟩ else none

def remote? (id : Identifier) (length : Nat) : Option Frame :=
  if short : length < 9 then some ⟨id, .remote ⟨length, short⟩⟩ else none

def isRemote (frame : Frame) : Bool :=
  match frame.content with
  | .data _ => false
  | .remote _ => true

def length (frame : Frame) : Nat :=
  match frame.content with
  | .data bytes => bytes.val.length
  | .remote length => length.val

def bytes (frame : Frame) : List UInt8 :=
  match frame.content with
  | .data bytes => bytes.val
  | .remote _ => []

/-- The 32 bit word used by socket interfaces: the identifier, with bit 31 set
for an extended one and bit 30 for a remote request. -/
def socketId (frame : Frame) : Nat :=
  frame.id.value + (if frame.id.isExtended then 0x80000000 else 0)
    + (if frame.isRemote then 0x40000000 else 0)

end Frame

/-- A frame as a driver reports it. -/
structure Reported where
  id : Identifier
  remote : Bool
  length : Nat
  bytes : List UInt8
  deriving DecidableEq, Repr

def Frame.reported (frame : Frame) : Reported where
  id := frame.id
  remote := frame.isRemote
  length := frame.length
  bytes := frame.bytes

/-- How a driver builds its own frames; it may refuse to. -/
structure Maker (Target : Type) where
  data : Identifier → List UInt8 → Option Target
  remote : Identifier → Nat → Option Target

def Frame.maker : Maker Frame := ⟨Frame.data?, Frame.remote?⟩

def Maker.refusing (Target : Type) : Maker Target := ⟨fun _ _ => none, fun _ _ => none⟩

end CanOpen.Can
