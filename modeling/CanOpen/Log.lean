import CanOpen.Journal
import CanOpen.Message.Summary

/-!
# The log

The log of a call is its journal put into words.  Remarks are always logged;
messages sent and received are logged, one line each, if the master traces
them, and then the modes of the nodes are followed along the way.  A message
that cannot be put in a line leaves no log.
-/

set_option autoImplicit false

namespace CanOpen

inductive Level where
  | error
  | warning
  | info
  | debug
  deriving DecidableEq, Repr, Inhabited

def Level.word : Level → String
  | .error => "ERROR"
  | .warning => "WARN"
  | .info => "INFO"
  | .debug => "DEBUG"

structure LogLine where
  level : Level
  text : String
  deriving DecidableEq, Repr

def LogLine.render (line : LogLine) : String :=
  line.level.word ++ " [canopen] " ++ line.text

def TransferKind.words : TransferKind → String
  | .expeditedUpload => "expedited upload"
  | .segmentedUpload => "segmented upload"
  | .segmentedDownload => "segmented download"
  | .blockDownload => "block download"

def objectWords (index : UInt16) (subindex : UInt8) : String :=
  Numeral.marked 4 index.toNat ++ ":" ++ Numeral.marked 2 subindex.toNat

def Note.line {ε : Type} [ToString ε] : Note ε → LogLine
  | .transferUnfiltered node cause =>
      ⟨.warning, "failed to set CAN filter for node " ++ node.toNat.repr ++ ": "
        ++ toString cause⟩
  | .guardingUnfiltered node cause =>
      ⟨.warning, "failed to set node filter for node " ++ node.toNat.repr ++ ": "
        ++ toString cause⟩
  | .shortReply node length =>
      ⟨.debug, "short SDO frame from node " ++ node.toNat.repr ++ " ("
        ++ length.toNat.repr ++ " bytes), ignored"⟩
  | .ignoredCommand kind command =>
      ⟨.debug, kind.words ++ ": ignoring command " ++ Numeral.marked 2 command.toNat⟩
  | .staleBlockReply command =>
      ⟨.debug, "block download: ignoring stale sub-command in "
        ++ Numeral.marked 2 command.toNat⟩
  | .aborted node index subindex code description =>
      ⟨.error, "node " ++ node.toNat.repr ++ " aborted transfer of "
        ++ objectWords index subindex ++ ": " ++ Numeral.marked 8 code.toNat ++ " "
        ++ description⟩
  | .downloadAborted node description =>
      ⟨.warning, "expedited download to node " ++ node.toNat.repr
        ++ ": reply is an abort (" ++ description ++ ")"⟩
  | .uploadOpened index subindex node declared =>
      ⟨.debug, "segmented upload of " ++ objectWords index subindex ++ " from node "
        ++ node.toNat.repr ++ ", " ++ declared.toNat.repr ++ " bytes declared"⟩
  | .blocksOpened node crc blockSize =>
      ⟨.debug, "block download to node " ++ node.toNat.repr ++ ": crc "
        ++ (if crc then "true" else "false") ++ ", block size " ++ blockSize.toNat.repr⟩
  | .partlyAcknowledged node acknowledged sent bytes =>
      ⟨.warning, "block download to node " ++ node.toNat.repr ++ ": " ++ acknowledged.repr
        ++ " of " ++ sent.repr ++ " segments acknowledged, resending " ++ bytes.repr
        ++ " bytes"⟩
  | .invalidBlockSize node blockSize =>
      ⟨.error, "node " ++ node.toNat.repr ++ " requested invalid block size "
        ++ blockSize.toNat.repr⟩
  | .commanded command node =>
      ⟨.info, "NMT " ++ command.description ++ " -> node " ++ node.toNat.repr⟩

/-- The message that passed the bus with an entry, and the word for its
direction.  A message counts as sent even if the transport then failed. -/
def Entry.traced? {ε : Type} : Entry ε → Option (String × Message)
  | .sent message | .unsent message _ => some ("tx ", message)
  | .received message => some ("rx ", message)
  | _ => none

/-- What an entry adds to the log, and the modes that it leaves.  A message that has no
line breaks the log off. -/
def Entry.tell? {ε : Type} [ToString ε] (tracing : Bool) (modes : Sdo.BlockModes) :
    Entry ε → Option (List LogLine × Sdo.BlockModes)
  | .noted note => some ([note.line], modes)
  | entry =>
      match tracing, entry.traced? with
      | true, some (direction, message) =>
          (message.summaryIn? modes).map fun summary =>
            ([⟨.debug, direction ++ summary⟩], modes.pass message)
      | _, _ => some ([], modes)

def logLines? {ε : Type} [ToString ε] (tracing : Bool) :
    Sdo.BlockModes → List (Entry ε) → Option (List LogLine × Sdo.BlockModes)
  | modes, [] => some ([], modes)
  | modes, entry :: rest => do
      let (lines, modes) ← entry.tell? tracing modes
      let (others, modes) ← logLines? tracing modes rest
      return (lines ++ others, modes)

end CanOpen
