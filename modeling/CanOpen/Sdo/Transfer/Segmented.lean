import CanOpen.Sdo.Buffer
import CanOpen.Sdo.Request
import CanOpen.Sdo.Transfer

/-!
# Segmented transfers

Objects of any size move in segments of seven bytes.  Each segment and its
reply carry a bit that alternates, so that a repeated reply is told from the
next one and ignored.
-/

set_option autoImplicit false

namespace CanOpen.Sdo.Transfer

structure Upload where
  /-- Toggle of the segment waited for; none before reading is granted. -/
  awaited : Option Bool
  buffer : Buffer
  deriving DecidableEq, Repr

/-- Reads an object into a buffer; bytes for which there is no room are dropped.
The result is the number of bytes written into the buffer. -/
def segmentedUpload {ε : Type} (budget : Nat) (node : UInt8) (index : UInt16)
    (subindex : UInt8) (contents : List UInt8) : Transfer ε Upload Nat where
  node := node
  budget := budget
  request := Request.initiateUpload node index subindex
  filtersAnyway := true
  initial := ⟨none, Buffer.ofContents contents⟩
  react := fun upload payload =>
    match ServerCommand.ofByte payload.command, upload.awaited with
    | .abort, _ => .aborted node payload upload
    | .initiateUpload _ true _, none =>
        let buffer := upload.buffer.write payload.expeditedData
        .finish [] [] ⟨none, buffer⟩ (.ok buffer.count)
    | .initiateUpload _ false sized, none =>
        .proceed [.uploadOpened index subindex node (if sized then payload.word else 0)]
          [Request.uploadSegment node false] ⟨some false, upload.buffer⟩
    | .uploadSegment toggle _ last, some awaited =>
        if toggle = awaited then
          let buffer := upload.buffer.write payload.segmentData
          if last then
            .finish [] [] ⟨some awaited, buffer⟩ (.ok buffer.count)
          else
            .proceed [] [Request.uploadSegment node !awaited] ⟨some !awaited, buffer⟩
        else
          .ignore [.ignoredCommand .segmentedUpload payload.command]
    | _, _ => .ignore [.ignoredCommand .segmentedUpload payload.command]

structure Download where
  /-- Toggle of the segment last sent; none before writing is granted. -/
  unconfirmed : Option Bool
  remaining : List UInt8
  deriving DecidableEq, Repr

def Download.advance {ε : Type} (node : UInt8) (toggle : Bool) (download : Download) :
    Reaction ε Download Unit :=
  if download.remaining.isEmpty then
    .finish [] [] download (.ok ())
  else
    let rest := download.remaining.drop segmentCapacity
    .proceed []
      [Request.downloadSegment node toggle (download.remaining.take segmentCapacity)
        rest.isEmpty]
      ⟨some toggle, rest⟩

def segmentedDownload {ε : Type} (budget : Nat) (node : UInt8) (index : UInt16)
    (subindex : UInt8) (data : List UInt8) : Transfer ε Download Unit where
  node := node
  budget := budget
  request := Request.initiateSegmentedDownload node index subindex data.length
  filtersAnyway := false
  initial := ⟨none, data⟩
  react := fun download payload =>
    match ServerCommand.ofByte payload.command, download.unconfirmed with
    | .abort, _ => .aborted node payload download
    | .initiateDownloadAck, none => download.advance node false
    | .downloadSegmentAck toggle, some sent =>
        if toggle = sent then
          download.advance node !sent
        else
          .ignore [.ignoredCommand .segmentedDownload payload.command]
    | _, _ => .ignore [.ignoredCommand .segmentedDownload payload.command]

end CanOpen.Sdo.Transfer
