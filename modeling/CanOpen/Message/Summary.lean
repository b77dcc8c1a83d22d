import CanOpen.Nmt.Service
import CanOpen.Sdo.BlockMode
import CanOpen.Sdo.Failure

/-!
# Messages in words

The line for a message, its summary, gives identifier, length and bytes of the message
and, behind an arrow, what they mean.  The meaning of a service data request depends on
whether a block download with its node is under way; nothing else does.  The listing takes
several lines, one for each part of the identifier, then the length and the bytes.
-/

set_option autoImplicit false

namespace CanOpen

def byteList (bytes : List UInt8) : String :=
  String.join (bytes.map fun byte => Numeral.markedUpper 2 byte.toNat ++ " ")

namespace Sdo

def Payload.addressSummary (payload : Payload) : String :=
  "Index=" ++ Numeral.markedUpper 4 payload.index.toNat
    ++ " SubIndex=" ++ Numeral.markedUpper 2 payload.subindex.toNat ++ " "

def segmentSummary (toggle : Bool) (unused : UInt8) (last : Bool) : String :=
  "[" ++ (if last then "LAST" else "CONT") ++ "] [T " ++ Numeral.bit toggle
    ++ "] [SI: " ++ unused.toNat.repr ++ "] "

def expeditedSummary (unused : UInt8) (sized : Bool) : String :=
  "[EXP] " ++ (if sized then "[SI: " ++ unused.toNat.repr ++ "] " else "")

def Payload.objectSummary (payload : Payload) : String :=
  payload.addressSummary ++ byteList payload.data.toList

def Payload.abortSummary (payload : Payload) : String :=
  "[Abort Domain Transfer] [" ++ payload.abortDescription ++ "] "

def Payload.replySummary (payload : Payload) : String :=
  match ServerCommand.ofByte payload.command with
  | .initiateDownloadAck => "[Initiate Domain Download] " ++ payload.objectSummary
  | .downloadSegmentAck toggle =>
      "[Download Domain Segment] [T " ++ Numeral.bit toggle ++ "] "
  | .initiateUpload unused true sized =>
      "[Initiate Domain Upload] " ++ expeditedSummary unused sized ++ payload.objectSummary
  | .initiateUpload _ false _ =>
      "[Initiate Domain Upload] [SEG] [SIZE " ++ payload.word.toNat.repr ++ "] "
  | .uploadSegment toggle unused last =>
      "[Upload Domain Segment] " ++ segmentSummary toggle unused last
  | .abort => payload.abortSummary
  | .blockDownload crc stage =>
      "[Block Download] [SS " ++ stage.code.toNat.repr ++ "] "
        ++ match stage with
          | .opened =>
              "[S-CRC " ++ Numeral.bit crc ++ "] " ++ payload.addressSummary
                ++ "BlkSize=" ++ payload.firstBlockSize.toNat.repr ++ " "
          | .acknowledged =>
              "AckSeq=" ++ payload.confirmed.toNat.repr
                ++ " BlkSize=" ++ payload.nextBlockSize.toNat.repr ++ " "
          | .ended | .reserved => ""
  | .blockUpload | .unknown => "[unknown cs] "

def Payload.blockSegmentSummary (payload : Payload) : String :=
  let header := SegmentHeader.ofByte payload.command
  "[Block Download] [C " ++ Numeral.bit header.last ++ "] [SeqNo = "
    ++ header.sequence.toNat.repr ++ "] " ++ byteList payload.tail

def Payload.requestSummary (payload : Payload) : String :=
  match ClientCommand.ofByte payload.command with
  | .initiateDownload unused expedited sized =>
      "[Initiate Domain Download] "
        ++ (if expedited then expeditedSummary unused sized else "[SEG] ")
        ++ payload.objectSummary
  | .downloadSegment toggle unused last =>
      "[Download Domain Segment] " ++ segmentSummary toggle unused last
  | .initiateUpload => "[Initiate Domain Upload] " ++ payload.objectSummary
  | .uploadSegment toggle => "[Upload Domain Segment] [T " ++ Numeral.bit toggle ++ "] "
  | .abort => payload.abortSummary
  | .blockDownloadInitiate crc sized =>
      "[Block Download] [CS 0] [C-CRC " ++ Numeral.bit crc ++ "] [S " ++ Numeral.bit sized
        ++ "] " ++ payload.addressSummary ++ "Size=" ++ payload.word.toNat.repr ++ " "
  | .endBlockDownload unused =>
      "[Block Download] [CS 1] [EXCESS " ++ unused.toNat.repr ++ "] CRC="
        ++ Numeral.markedUpper 4 payload.checksum.toNat ++ " "
  | .blockUpload | .unknown => "[unknown cs] "

end Sdo

namespace Message

def moduleControlSummary (specifier node : UInt8) : String :=
  "NMT [Module Control] Node=" ++ Numeral.markedUpper 2 node.toNat ++ " Command="
    ++ match Nmt.Command.ofSpecifier? specifier with
      | some command => "'" ++ command.description ++ "'"
      | none => "Unknown"

def guardSummary (node : UInt32) (state : UInt8) : String :=
  "NMT [Node Guarding] Node=" ++ Numeral.markedUpper 2 node.toNat ++ " State="
    ++ match Nmt.State.ofCode state with
      | .unknown code => "Unknown [" ++ Numeral.hexUpper 2 code.toNat ++ "]"
      | known => "'" ++ known.description ++ "'"

def headSummary (message : Message) : String :=
  (match message.addressing with
    | .extended => "EXTENDED Node ID=" ++ Numeral.markedUpper 7 message.node.toNat ++ " "
    | .standard =>
        "STANDARD [" ++ Numeral.markedUpper 3 message.cobId.toNat ++ "] FC="
          ++ Numeral.markedUpper 1 message.code.toNat ++ " ID="
          ++ Numeral.markedUpper 2 message.node.toNat ++ " ")
    ++ (if message.remote then "RTR " else "")
    ++ "[" ++ message.length.toNat.repr ++ "] " ++ byteList message.data

/-- Meaning of a message, given whether a block download with its node is under
way. -/
def meaningSummary (blockMode : Bool) (message : Message) : String :=
  match message.function, message.body with
  | none, _ => "Extended frame"
  | some .nmtControl, .moduleControl specifier node => moduleControlSummary specifier node
  | some .nodeGuard, .nodeGuard state => guardSummary message.node state
  | some .syncEmergency, body =>
      if message.node = 0 then
        "SYNC [counter = " ++ Numeral.marked 1 body.octets.first.toNat ++ "] "
      else
        "EMERGENCY Node=" ++ Numeral.marked 1 message.node.toNat ++ " "
  | some .timestamp, _ => "TIMESTAMP Node=" ++ Numeral.marked 1 message.node.toNat ++ " "
  | some .sdoTx, .sdo payload =>
      "SDO TX Node=" ++ Numeral.markedUpper 2 message.node.toNat ++ " Command="
        ++ Numeral.markedUpper 2 payload.command.toNat ++ " " ++ payload.replySummary
  | some .sdoRx, .sdo payload =>
      "SDO RX Node=" ++ Numeral.markedUpper 2 message.node.toNat ++ " Command="
        ++ Numeral.markedUpper 2 payload.command.toNat ++ " "
        ++ (if blockMode then payload.blockSegmentSummary else payload.requestSummary)
  | some function, _ =>
      if function = .nodeGuard ∧ message.remote then
        "NMT [Node Guarding] Node=" ++ Numeral.markedUpper 2 message.node.toNat ++ " Pull"
      else
        match function.pdoName? with
        | some name =>
            name ++ " Node=" ++ Numeral.marked 1 message.node.toNat ++ " "
              ++ byteList message.data
        | none => "Unknown frame"

def summary (blockMode : Bool) (message : Message) : String :=
  message.headSummary ++ " => " ++ message.meaningSummary blockMode

/-- The message in one line, as an onlooker with these modes sees it.  There is no line for
a message that is out of bounds, whose bytes cannot be sliced. -/
def summaryIn? (modes : Sdo.BlockModes) (message : Message) : Option String :=
  if message.InBounds then some (message.summary (modes.isOn message.node.toNat)) else none

theorem summaryIn?_of_inBounds {message : Message} (inBounds : message.InBounds)
    (modes : Sdo.BlockModes) :
    message.summaryIn? modes = some (message.summary (modes.isOn message.node.toNat)) :=
  if_pos inBounds

theorem summaryIn?_of_not_inBounds {message : Message} (outOfBounds : ¬ message.InBounds)
    (modes : Sdo.BlockModes) : message.summaryIn? modes = none :=
  if_neg outOfBounds

def listing (message : Message) : String :=
  "CANopen frame:\n"
    ++ (match message.addressing with
      | .extended =>
          "    - Frame format EXTENDED\n"
            ++ "    - Node ID       = " ++ Numeral.marked 7 message.node.toNat ++ "\n"
      | .standard =>
          "    - Frame format STANDARD\n"
            ++ "    - Function code = " ++ Numeral.marked 1 message.code.toNat ++ "\n"
            ++ "    - Node ID       = " ++ Numeral.marked 3 message.node.toNat ++ "\n")
    ++ (if message.remote then "    - Remote request\n" else "")
    ++ "    - Data length   = " ++ message.length.toNat.repr ++ "\n"
    ++ "    - Data          ="
    ++ String.join (message.data.map fun byte => " " ++ Numeral.marked 2 byte.toNat) ++ "\n"

def listing? (message : Message) : Option String :=
  if message.InBounds then some message.listing else none

theorem listing?_of_inBounds {message : Message} (inBounds : message.InBounds) :
    message.listing? = some message.listing :=
  if_pos inBounds

end Message

end CanOpen
