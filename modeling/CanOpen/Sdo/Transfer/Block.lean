import CanOpen.Crc
import CanOpen.Sdo.Request
import CanOpen.Sdo.Transfer

/-!
# Block downloads

Data moves in blocks of up to 127 segments, and the node acknowledges a block as
a whole: how many of its segments have arrived, and how many it wants in the
next one.  What was not acknowledged opens the next block.  Once the last byte
is acknowledged, the transfer is ended with the number of bytes that the last
segment had to spare and, if the node asked for it, a checksum.
-/

set_option autoImplicit false

namespace CanOpen.Sdo.Transfer

structure Piece where
  sequence : UInt8
  chunk : List UInt8
  last : Bool
  deriving DecidableEq, Repr

/-- Cuts at most `count` segments off the front of the data, numbering them from
`sequence`.  Where any are asked for there is one: no data makes an empty last one. -/
def cutBlock : (count : Nat) → (sequence : UInt8) → (data : List UInt8) → List Piece
  | 0, _, _ => []
  | count + 1, sequence, data =>
      let rest := data.drop segmentCapacity
      let segment := ⟨sequence, data.take segmentCapacity, rest.isEmpty⟩
      if rest.isEmpty then [segment] else segment :: cutBlock count (sequence + 1) rest

inductive BlockDownload where
  | opening
  /-- A block is under way: whether a checksum is wanted, the data from the start
  of the block on, and how many segments of it were sent. -/
  | sending (crc : Bool) (unconfirmed : List UInt8) (sent : Nat)
  | ending
  deriving DecidableEq, Repr

/-- How many bytes a last segment with this data has to spare; one without data counts as
full. -/
def spareBytes (chunk : List UInt8) : Nat :=
  if chunk.isEmpty then 0 else segmentCapacity - chunk.length

/-- Sends a block of the size that the node asked for; there is no block of no
segments or of more than 127, and asking for one ends the transfer. -/
def sendBlock {ε : Type} (node : UInt8) (index : UInt16) (subindex : UInt8)
    (notes : List (Note ε)) (crc : Bool) (data : List UInt8) (blockSize : UInt8) :
    Reaction ε BlockDownload Unit :=
  if blockSize = 0 ∨ Request.maxBlockSize < blockSize.toNat then
    let code := AbortCode.invalidBlockSize
    .finish (notes ++ [.invalidBlockSize node blockSize])
      [Request.abort node index subindex code.code]
      (.sending crc data 0) (.error (.abort code.code code.description))
  else
    let segments := cutBlock blockSize.toNat 1 data
    .proceed notes
      (segments.map fun segment =>
        Request.blockSegment node segment.sequence segment.chunk segment.last)
      (.sending crc data segments.length)

def blockDownload {ε : Type} (budget : Nat) (offerCrc : Bool) (node : UInt8)
    (index : UInt16) (subindex : UInt8) (data : List UInt8) :
    Transfer ε BlockDownload Unit where
  node := node
  budget := budget
  request := Request.initiateBlockDownload node index subindex data.length offerCrc
  filtersAnyway := false
  initial := .opening
  react := fun download payload =>
    match ServerCommand.ofByte payload.command, download with
    | .blockDownload crc .opened, .opening =>
        sendBlock node index subindex [.blocksOpened node crc payload.firstBlockSize] crc data
          payload.firstBlockSize
    | .blockDownload _ .acknowledged, .sending crc unconfirmed sent =>
        let acknowledged := min payload.confirmed.toNat sent
        let rest := unconfirmed.drop (segmentCapacity * acknowledged)
        if acknowledged = sent then
          if rest.isEmpty then
            let lastChunk := unconfirmed.drop (segmentCapacity * (sent - 1))
            .proceed []
              [Request.endBlockDownload node (UInt8.ofNat (spareBytes lastChunk))
                (if crc then Crc.checksum data else 0)]
              .ending
          else
            sendBlock node index subindex [] crc rest payload.nextBlockSize
        else
          let bytes :=
            (unconfirmed.take (segmentCapacity * sent)).length - segmentCapacity * acknowledged
          sendBlock node index subindex
            [.partlyAcknowledged node acknowledged sent bytes] crc rest payload.nextBlockSize
    | .blockDownload _ .ended, .ending => .finish [] [] .ending (.ok ())
    | .blockDownload _ _, _ => .ignore [.staleBlockReply payload.command]
    | .abort, _ => .aborted node payload download
    | _, _ => .ignore [.ignoredCommand .blockDownload payload.command]

end CanOpen.Sdo.Transfer
