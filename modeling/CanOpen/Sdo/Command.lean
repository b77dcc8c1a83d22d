import CanOpen.Sdo.BitField

/-!
# Commands of the service data protocol

`ServerCommand` is what a node answers, `ClientCommand` what its master asks.
Each is read off a command byte by `ofByte`; `ClientCommand.toByte` writes the
byte that a master sends.  Segments inside a block are not commands: their
first byte is a sequence number, see `SegmentHeader`.
-/

set_option autoImplicit false

namespace CanOpen.Sdo

inductive BlockStage where
  | opened
  | ended
  | acknowledged
  | reserved
  deriving DecidableEq, Repr, Inhabited

def BlockStage.ofCode (code : UInt8) : BlockStage :=
  match code.toNat with
  | 0 => .opened
  | 1 => .ended
  | 2 => .acknowledged
  | _ => .reserved

def BlockStage.code : BlockStage → UInt8
  | .opened => 0
  | .ended => 1
  | .acknowledged => 2
  | .reserved => 3

theorem BlockStage.ofCode_code (stage : BlockStage) : ofCode stage.code = stage := by
  cases stage <;> rfl

inductive ServerCommand where
  | uploadSegment (toggle : Bool) (unused : UInt8) (last : Bool)
  | downloadSegmentAck (toggle : Bool)
  /-- Reading is granted, and done if `expedited`. -/
  | initiateUpload (unused : UInt8) (expedited sized : Bool)
  | initiateDownloadAck
  | abort
  | blockDownload (crc : Bool) (stage : BlockStage)
  | blockUpload
  | unknown
  deriving DecidableEq, Repr, Inhabited

def ServerCommand.ofByte (byte : UInt8) : ServerCommand :=
  match (specifier.get byte).toNat with
  | 0 => .uploadSegment (Segment.toggle.isSet byte) (Segment.unused.get byte)
      (Segment.last.isSet byte)
  | 1 => .downloadSegmentAck (Segment.toggle.isSet byte)
  | 2 => .initiateUpload (Initiate.unused.get byte) (Initiate.expedited.isSet byte)
      (Initiate.sized.isSet byte)
  | 3 => .initiateDownloadAck
  | 4 => .abort
  | 5 => .blockDownload (BlockReply.crc.isSet byte)
      (BlockStage.ofCode (BlockReply.subcommand.get byte))
  | 6 => .blockUpload
  | _ => .unknown

inductive ClientCommand where
  | downloadSegment (toggle : Bool) (unused : UInt8) (last : Bool)
  | initiateDownload (unused : UInt8) (expedited sized : Bool)
  | initiateUpload
  | uploadSegment (toggle : Bool)
  | abort
  | blockUpload
  | blockDownloadInitiate (crc sized : Bool)
  | endBlockDownload (unused : UInt8)
  | unknown
  deriving DecidableEq, Repr, Inhabited

def ClientCommand.ofByte (byte : UInt8) : ClientCommand :=
  match (specifier.get byte).toNat with
  | 0 => .downloadSegment (Segment.toggle.isSet byte) (Segment.unused.get byte)
      (Segment.last.isSet byte)
  | 1 => .initiateDownload (Initiate.unused.get byte) (Initiate.expedited.isSet byte)
      (Initiate.sized.isSet byte)
  | 2 => .initiateUpload
  | 3 => .uploadSegment (Segment.toggle.isSet byte)
  | 4 => .abort
  | 5 => .blockUpload
  | 6 =>
      if BlockInitiate.ending.isSet byte then
        .endBlockDownload (BlockEnd.unused.get byte)
      else
        .blockDownloadInitiate (BlockInitiate.crc.isSet byte) (BlockInitiate.sized.isSet byte)
  | _ => .unknown

/-- The byte of a request, its reserved bits down.  Block uploads and unknown
requests have a specifier and nothing else. -/
def ClientCommand.toByte : ClientCommand → UInt8
  | .downloadSegment toggle unused last =>
      Segment.last.putFlag last (Segment.unused.put unused (Segment.toggle.putFlag toggle 0))
  | .initiateDownload unused expedited sized =>
      Initiate.sized.putFlag sized (Initiate.expedited.putFlag expedited
        (Initiate.unused.put unused (specifier.put 1 0)))
  | .initiateUpload => specifier.put 2 0
  | .uploadSegment toggle => Segment.toggle.putFlag toggle (specifier.put 3 0)
  | .abort => specifier.put 4 0
  | .blockUpload => specifier.put 5 0
  | .blockDownloadInitiate crc sized =>
      BlockInitiate.sized.putFlag sized (BlockInitiate.crc.putFlag crc (specifier.put 6 0))
  | .endBlockDownload unused =>
      BlockEnd.ending.putFlag true (BlockEnd.unused.put unused (specifier.put 6 0))
  | .unknown => specifier.put 7 0

structure SegmentHeader where
  last : Bool
  /-- Place of the segment inside its block, from 1. -/
  sequence : UInt8
  deriving DecidableEq, Repr, Inhabited

def SegmentHeader.ofByte (byte : UInt8) : SegmentHeader where
  last := BlockSegment.last.isSet byte
  sequence := BlockSegment.sequence.get byte

def SegmentHeader.toByte (header : SegmentHeader) : UInt8 :=
  BlockSegment.sequence.put header.sequence (BlockSegment.last.putFlag header.last 0)

end CanOpen.Sdo
