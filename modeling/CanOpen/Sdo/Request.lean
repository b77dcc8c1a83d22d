import CanOpen.Message
import CanOpen.Sdo.Command

/-!
# Requests of a service data client

Every request is a message of eight bytes to one node; bytes that a request
does not use are zero.  The builders refuse what no message can say: a chunk
that does not fit, a size above 32 bits, a sequence number or a byte count out
of range, and a node above 127.
-/

set_option autoImplicit false

namespace CanOpen.Sdo.Request

abbrev maxSize : Nat := 0xFFFFFFFF

abbrev maxBlockSize : Nat := 127

def about (node : UInt8) (command : ClientCommand) (index : UInt16) (subindex : UInt8)
    (data : Vector UInt8 4) : Except CodecError Message :=
  Message.sdo .sdoRx node ⟨command.toByte, index, subindex, data⟩

/-- A request whose bytes behind the first are a chunk of data. -/
def carrying (node first : UInt8) (chunk : List UInt8) : Except CodecError Message :=
  if segmentCapacity < chunk.length then
    .error (.byteLengthExceedsLimit chunk.length segmentCapacity)
  else
    Message.standard .sdoRx node false (Octets.concat [[first], chunk]).toList

def declaredSize (size : Nat) : Except CodecError (Vector UInt8 4) :=
  if maxSize < size then
    .error (.byteLengthExceedsLimit size maxSize)
  else
    .ok (LittleEndian.bytes32 (UInt32.ofNat size))

def initiateUpload (node : UInt8) (index : UInt16) (subindex : UInt8) :
    Except CodecError Message :=
  about node .initiateUpload index subindex (Vector.replicate 4 0)

def expeditedDownload (node : UInt8) (index : UInt16) (subindex : UInt8)
    (data : List UInt8) : Except CodecError Message :=
  if data.isEmpty ∨ expeditedCapacity < data.length then
    .error (.byteLengthExceedsLimit data.length expeditedCapacity)
  else
    about node (.initiateDownload (UInt8.ofNat (expeditedCapacity - data.length)) true true)
      index subindex (Vector.ofFn fun position => data.getD position 0)

/-- Asks to write an object in segments; a size of 0 is left undeclared. -/
def initiateSegmentedDownload (node : UInt8) (index : UInt16) (subindex : UInt8)
    (size : Nat) : Except CodecError Message := do
  let declared ← declaredSize size
  about node (.initiateDownload 0 false (size != 0)) index subindex declared

def uploadSegment (node : UInt8) (toggle : Bool) : Except CodecError Message :=
  carrying node (ClientCommand.uploadSegment toggle).toByte []

def downloadSegment (node : UInt8) (toggle : Bool) (chunk : List UInt8) (last : Bool) :
    Except CodecError Message :=
  carrying node
    (ClientCommand.downloadSegment toggle (UInt8.ofNat (segmentCapacity - chunk.length))
      last).toByte
    chunk

def initiateBlockDownload (node : UInt8) (index : UInt16) (subindex : UInt8)
    (size : Nat) (crc : Bool) : Except CodecError Message := do
  let declared ← declaredSize size
  about node (.blockDownloadInitiate crc true) index subindex declared

def blockSegment (node sequence : UInt8) (chunk : List UInt8) (last : Bool) :
    Except CodecError Message :=
  if sequence = 0 ∨ maxBlockSize < sequence.toNat then
    .error (.malformed ("block sequence number " ++ sequence.toNat.repr ++ " out of range"))
  else
    carrying node (SegmentHeader.mk last sequence).toByte chunk

/-- Ends a block download, telling how many bytes of the last segment held no
data and the checksum of all data. -/
def endBlockDownload (node unused : UInt8) (crc : UInt16) : Except CodecError Message :=
  if segmentCapacity ≤ unused.toNat then
    .error (.malformed ("excess byte count " ++ unused.toNat.repr ++ " out of range"))
  else
    carrying node (ClientCommand.endBlockDownload unused).toByte
      [(LittleEndian.bytes16 crc).1, (LittleEndian.bytes16 crc).2]

def abort (node : UInt8) (index : UInt16) (subindex : UInt8) (code : UInt32) :
    Except CodecError Message :=
  about node .abort index subindex (LittleEndian.bytes32 code)

end CanOpen.Sdo.Request
