import CanOpen.Bytes
import CanOpen.Sdo.BitField

/-!
# The eight bytes of a service data message

A command byte, the address of an object (index and subindex) and four bytes of
data.  Segments use the seven bytes behind the command as they are.
-/

set_option autoImplicit false

namespace CanOpen.Sdo

abbrev segmentCapacity : Nat := 7

abbrev expeditedCapacity : Nat := 4

structure Payload where
  command : UInt8
  index : UInt16
  subindex : UInt8
  data : Vector UInt8 4
  deriving DecidableEq, Repr

namespace Payload

def ofOctets (octets : Octets) : Payload where
  command := octets.first
  index := LittleEndian.word16 octets.second octets[2]
  subindex := octets[3]
  data := #v[octets[4], octets[5], octets[6], octets[7]]

def toOctets (payload : Payload) : Octets :=
  #v[payload.command, (LittleEndian.bytes16 payload.index).1,
    (LittleEndian.bytes16 payload.index).2, payload.subindex,
    payload.data[0], payload.data[1], payload.data[2], payload.data[3]]

@[simp]
theorem ofOctets_toOctets (payload : Payload) : ofOctets payload.toOctets = payload := by
  have data : #v[payload.data[0], payload.data[1], payload.data[2], payload.data[3]]
      = payload.data := by
    ext position inside
    match position with
    | 0 | 1 | 2 | 3 => rfl
  simp [ofOctets, toOctets, Octets.first, Octets.second, LittleEndian.word16_bytes16, data]

def tail (payload : Payload) : List UInt8 :=
  payload.toOctets.toList.drop 1

def word (payload : Payload) : UInt32 :=
  LittleEndian.word32 payload.data

/-- The segments a node can take in its first block, by its answer to a block
download. -/
def firstBlockSize (payload : Payload) : UInt8 :=
  payload.data[0]

/-- The segments of a block that have arrived, in the first byte behind the command
of a reply to that block. -/
def confirmed (payload : Payload) : UInt8 :=
  (LittleEndian.bytes16 payload.index).1

def nextBlockSize (payload : Payload) : UInt8 :=
  (LittleEndian.bytes16 payload.index).2

/-- The checksum that ends a block download; it has the place of the index. -/
def checksum (payload : Payload) : UInt16 :=
  payload.index

/-- Data bytes that are valid in an initiate message: all four but the unused
ones if a size is given, all four if none is, and none if data does not travel
in this message. -/
def expeditedSize (payload : Payload) : Nat :=
  if Initiate.expedited.isSet payload.command then
    if Initiate.sized.isSet payload.command then
      expeditedCapacity - (Initiate.unused.get payload.command).toNat
    else
      expeditedCapacity
  else
    0

def segmentSize (payload : Payload) : Nat :=
  segmentCapacity - (Segment.unused.get payload.command).toNat

/-- Data bytes that are valid, by the command byte alone: those of a segment for
specifier 0, of an initiate message for 1 and 2, none for any other. -/
def size (payload : Payload) : Nat :=
  match (specifier.get payload.command).toNat with
  | 0 => payload.segmentSize
  | 1 | 2 => payload.expeditedSize
  | _ => 0

def segmentData (payload : Payload) : List UInt8 :=
  payload.tail.take payload.segmentSize

def expeditedData (payload : Payload) : List UInt8 :=
  payload.data.toList.take payload.expeditedSize

end Payload

end CanOpen.Sdo
