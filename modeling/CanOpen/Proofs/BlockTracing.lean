import CanOpen.Proofs.BlockDelivery
import CanOpen.Proofs.BlockStages
import CanOpen.Proofs.Sessions
import CanOpen.Proofs.ModeTracking
import CanOpen.Proofs.Numerals

/-!
# Block downloads in the log

The log takes a node to be in the middle of a block download until a segment passes that is
flagged as the last one.  A client that was not told of this segment's arrival goes on sending
segments, and these are then shown as requests of other kinds.  All segments up to the flagged
one are shown as what they are, and so is the end.
-/

set_option autoImplicit false

namespace CanOpen

open Sdo

variable {ε : Type} {node : UInt8}

/-! ## Lines for what is handed over -/

def LogLine.tellsOffered (line : LogLine) : Bool :=
  ['t', 'x', ' '].isPrefixOf line.text.toList

theorem LogLine.tellsOffered_tx (level : Level) (text : String) :
    tellsOffered ⟨level, "tx " ++ text⟩ = true := by
  simp [tellsOffered, String.toList_append]

theorem LogLine.tellsOffered_of_opening {opening : String} {letter : Char}
    (opens : opening.toList.head? = some letter) (other : letter ≠ 't') (level : Level)
    (rest : String) : tellsOffered ⟨level, opening ++ rest⟩ = false := by
  obtain ⟨letters, split⟩ := List.head?_eq_some_iff.1 opens
  simp [tellsOffered, String.toList_append, split, List.isPrefixOf, other.symm]

theorem LogLine.tellsOffered_rx (level : Level) (text : String) :
    tellsOffered ⟨level, "rx " ++ text⟩ = false :=
  tellsOffered_of_opening rfl (by decide) level text

theorem Note.tellsOffered_line [ToString ε] (note : Note ε) : note.line.tellsOffered = false := by
  cases note with
  | ignoredCommand kind command =>
      simp only [line, String.append_assoc]
      cases kind <;> exact LogLine.tellsOffered_of_opening rfl (by decide) _ _
  | _ =>
      simp only [line, String.append_assoc]
      exact LogLine.tellsOffered_of_opening rfl (by decide) _ _

def Message.flagged (message : Message) : Bool :=
  (SegmentHeader.ofByte message.octets.first).last

def Message.Addresses (node : UInt8) (message : Message) : Prop :=
  ∃ octets, message = .request node octets

def Message.KeepsMode (node : UInt8) (message : Message) : Prop :=
  ∀ modes : BlockModes, (modes.pass message).isOn node.toNat = modes.isOn node.toNat

def Message.offerLine (mode : Bool) (message : Message) : LogLine :=
  ⟨.debug, "tx " ++ message.summary mode⟩

def offerLines : Bool → List Message → List LogLine
  | _, [] => []
  | mode, request :: others =>
      request.offerLine mode :: offerLines (mode && !request.flagged) others

theorem getElem?_offerLines (mode : Bool) (requests : List Message) (place : Nat) :
    (offerLines mode requests)[place]?
      = requests[place]?.map
          (Message.offerLine (mode && !(requests.take place).any Message.flagged)) := by
  induction requests generalizing mode place with
  | nil => simp [offerLines]
  | cons request others inductionHypothesis =>
      cases place with
      | zero => simp [offerLines]
      | succ place => simp [offerLines, inductionHypothesis, Bool.and_assoc]

theorem offerLine_of_getElem? {requests others : List Message} (begun : requests <+: others)
    {place : Nat} {line : LogLine} (here : (offerLines true requests)[place]? = some line) :
    ∃ request, others[place]? = some request
      ∧ line = request.offerLine (!(others.take place).any Message.flagged) := by
  obtain ⟨later, rfl⟩ := begun
  rw [getElem?_offerLines] at here
  obtain ⟨request, requestHere, rfl⟩ := Option.map_eq_some_iff.1 here
  obtain ⟨inside, _⟩ := List.getElem?_eq_some_iff.1 requestHere
  refine ⟨request, ?_, ?_⟩
  · rw [List.getElem?_append_left inside, requestHere]
  · rw [List.take_append_of_le_length (Nat.le_of_lt inside), Bool.true_and]

theorem length_offerLines (mode : Bool) (requests : List Message) :
    (offerLines mode requests).length = requests.length := by
  induction requests generalizing mode with
  | nil => rfl
  | cons request others inductionHypothesis => simp [offerLines, inductionHypothesis]

namespace Sdo.BlockModes

variable (modes : BlockModes)

theorem isOn_pass_of_said (nodeFits : node.toNat ≤ 127) {message : Message}
    {command : ServerCommand} (said : message.said? node = some command) :
    (modes.pass message).isOn node.toNat = command.switches?.getD (modes.isOn node.toNat) := by
  unfold Message.said? at said
  split at said
  case isFalse => cases said
  case isTrue own =>
    split at said
    case h_2 => cases said
    case h_1 payload body =>
      simp only [Message.isFrom, Bool.and_eq_true, beq_iff_eq] at own
      obtain ⟨⟨_, function⟩, same⟩ := own
      have here : message.node.toNat = node.toNat ∧ node.toNat < 128 :=
        ⟨Message.toNat_node_eq_iff.2 same, by omega⟩
      cases said
      rw [isOn_pass, if_pos here, switches?, function, body]

theorem isOn_pass_request (nodeFits : node.toNat ≤ 127) (octets : Octets) :
    (modes.pass (.request node octets)).isOn node.toNat
      = (modes.isOn node.toNat && !(Message.request node octets).flagged) := by
  have coherent := (Message.wellFormed_request nodeFits octets).toCoherent
  have asks : (Message.request node octets).IsRequestTo node := ⟨⟨rfl, rfl, rfl, rfl⟩, rfl⟩
  rw [isOn_pass_of_request modes coherent asks, Message.flagged, SegmentHeader.last_ofByte]

end Sdo.BlockModes

/-- While nothing is received that would switch the mode of a node, requests to this node are
shown one after the other. -/
theorem offered_logLines [ToString ε] (nodeFits : node.toNat ≤ 127) {journal : List (Entry ε)}
    (asks : ∀ message ∈ offeredIn journal, message.Addresses node)
    (unmoved : ∀ reply ∈ receivedIn journal, reply.KeepsMode node) (modes : BlockModes) :
    (logLines true modes journal).1.filter LogLine.tellsOffered
        = offerLines (modes.isOn node.toNat) (offeredIn journal)
      ∧ (logLines true modes journal).2.isOn node.toNat
        = (modes.isOn node.toNat && !(offeredIn journal).any Message.flagged) := by
  -- All modes may differ from those at first; of them only this node's is carried along.
  induction journal generalizing modes with
  | nil => simp [logLines, offerLines]
  | cons entry rest inductionHypothesis =>
      rw [offeredIn_cons] at asks
      rw [receivedIn_cons] at unmoved
      have restAsks := fun message member => asks message (List.mem_append_right _ member)
      have restUnmoved := fun reply member => unmoved reply (List.mem_append_right _ member)
      have later := inductionHypothesis restAsks restUnmoved
      cases entry with
      | sent message | unsent message cause =>
          obtain ⟨octets, rfl⟩ := asks message (List.mem_append_left _ (List.mem_singleton_self _))
          obtain ⟨lines, mode⟩ := later (modes.pass (.request node octets))
          rw [modes.isOn_pass_request nodeFits] at lines mode
          have own : (Message.request node octets).node.toNat = node.toNat :=
            UInt8.toNat_toUInt32 node
          refine ⟨?_, ?_⟩
          · simp [logLines, Entry.traced?, Entry.offered?, offerLines, LogLine.tellsOffered_tx,
              lines, Message.offerLine, own]
          · simp [logLines, Entry.traced?, Entry.offered?, mode, Bool.and_assoc]
      | received message =>
          obtain ⟨lines, mode⟩ := later (modes.pass message)
          have stays := unmoved message (List.mem_append_left _ (List.mem_singleton_self _)) modes
          rw [stays] at lines mode
          refine ⟨?_, ?_⟩
          · simp [logLines, Entry.traced?, Entry.offered?, LogLine.tellsOffered_rx, lines]
          · simpa [logLines, Entry.traced?, Entry.offered?] using mode
      | noted note =>
          obtain ⟨lines, mode⟩ := later modes
          refine ⟨?_, ?_⟩
          · simp [logLines, Entry.offered?, note.tellsOffered_line, lines]
          · simpa [logLines, Entry.offered?] using mode
      | unreceived cause | filtered node | unfiltered node cause =>
          simpa [logLines, Entry.traced?, Entry.offered?] using later modes

theorem offered_logLines_nil [ToString ε] {journal : List (Entry ε)}
    (silent : offeredIn journal = []) (modes : BlockModes) :
    (logLines true modes journal).1.filter LogLine.tellsOffered = [] := by
  induction journal generalizing modes with
  | nil => rfl
  | cons entry rest inductionHypothesis =>
      rw [offeredIn_cons, List.append_eq_nil_iff] at silent
      obtain ⟨here, behind⟩ := silent
      cases entry with
      | sent message | unsent message cause => cases here
      | received message =>
          simp [logLines, Entry.traced?, LogLine.tellsOffered_rx, inductionHypothesis behind]
      | noted note => simp [logLines, note.tellsOffered_line, inductionHypothesis behind]
      | unreceived cause | filtered node | unfiltered node cause =>
          simp [logLines, Entry.traced?, inductionHypothesis behind]

/-! ## Words for segments and for the end -/

def Message.requestLine (message : Message) (meaning : String) : LogLine :=
  ⟨.debug, "tx " ++ (message.headSummary ++ " => "
    ++ ("SDO RX Node=" ++ Numeral.markedUpper 2 message.node.toNat ++ " Command="
      ++ Numeral.markedUpper 2 message.octets.first.toNat ++ " " ++ meaning))⟩

def Message.segmentLine (segment : Message) : LogLine :=
  let header := SegmentHeader.ofByte segment.octets.first
  segment.requestLine ("[Block Download] [C " ++ Numeral.bit header.last ++ "] [SeqNo = "
    ++ header.sequence.toNat.repr ++ "] " ++ byteList segment.tail)

def Sdo.endLine (node : UInt8) (data : List UInt8) (crc : Bool) : LogLine :=
  (endMessage node data crc).requestLine ("[Block Download] [CS 1] [EXCESS "
    ++ ((7 - data.length % 7) % 7).repr ++ "] CRC="
    ++ Numeral.markedUpper 4 (if crc then Crc.checksum data else 0).toNat ++ " ")

namespace Sdo

def requestOpenings : List String :=
  ["[Initiate Domain Download] ", "[Download Domain Segment] ", "[Initiate Domain Upload] ",
    "[Upload Domain Segment] [T ", "[Abort Domain Transfer] [", "[Block Download] [CS 0] [C-CRC ",
    "[Block Download] [CS 1] [EXCESS ", "[unknown cs] "]

theorem Payload.requestSummary_opening (payload : Payload) :
    ∃ opening ∈ requestOpenings, ∃ rest, payload.requestSummary = opening ++ rest := by
  unfold requestSummary
  split
  case h_5 =>
    unfold abortSummary
    rw [String.append_assoc]
    exact ⟨_, by simp [requestOpenings], _, rfl⟩
  case h_8 | h_9 => exact ⟨"[unknown cs] ", by simp [requestOpenings], "", String.append_empty.symm⟩
  case h_1 | h_4 | h_6 | h_7 =>
    simp only [String.append_assoc]
    exact ⟨_, by simp [requestOpenings], _, rfl⟩
  case h_2 | h_3 => exact ⟨_, by simp [requestOpenings], _, rfl⟩

theorem Payload.blockSegmentSummary_opening (payload : Payload) :
    ∃ rest, payload.blockSegmentSummary = "[Block Download] [C " ++ rest := by
  unfold blockSegmentSummary
  simp only [String.append_assoc]
  exact ⟨_, rfl⟩

/-- A segment inside a block is never shown as a request is. -/
theorem Payload.requestSummary_ne_blockSegmentSummary (payload payload' : Payload) :
    payload.requestSummary ≠ payload'.blockSegmentSummary := by
  obtain ⟨opening, member, _, request⟩ := payload.requestSummary_opening
  obtain ⟨_, segment⟩ := payload'.blockSegmentSummary_opening
  have apart : ∀ opening ∈ requestOpenings,
      ¬ (opening.toList <+: "[Block Download] [C ".toList
        ∨ "[Block Download] [C ".toList <+: opening.toList) := by
    simp [requestOpenings]
  rw [request, segment]
  exact append_ne_append (apart opening member) _ _

theorem offerLine_request (node : UInt8) (octets : Octets) (mode : Bool) :
    (Message.request node octets).offerLine mode
      = (Message.request node octets).requestLine
          (if mode then (Payload.ofOctets octets).blockSegmentSummary
            else (Payload.ofOctets octets).requestSummary) := by
  have first : (Message.request node octets).octets.first = octets.first :=
    congrArg Octets.first (Message.octets_request node octets)
  rw [Message.requestLine, first]
  rfl

theorem segmentLine_request (node : UInt8) (octets : Octets) :
    (Message.request node octets).segmentLine
      = (Message.request node octets).requestLine
          (Payload.ofOctets octets).blockSegmentSummary := by
  have first : (Message.request node octets).octets.first = octets.first :=
    congrArg Octets.first (Message.octets_request node octets)
  have tail : (Message.request node octets).tail = (Payload.ofOctets octets).tail := by
    rw [Message.tail, Message.octets_request, Payload.tail, Payload.toOctets_ofOctets]
  rw [Message.segmentLine, first, tail]
  rfl

theorem offerLine_eq_segmentLine_iff (node : UInt8) (octets : Octets) (mode : Bool) :
    (Message.request node octets).offerLine mode = (Message.request node octets).segmentLine
      ↔ mode = true := by
  rw [offerLine_request, segmentLine_request]
  cases mode with
  | true => simp
  | false =>
      refine iff_of_false (fun same => ?_) Bool.false_ne_true
      have texts := (LogLine.mk.inj same).2
      simp only [String.append_right_inj] at texts
      exact Payload.requestSummary_ne_blockSegmentSummary _ _ texts

theorem offerLine_of_end {octets : Octets} {unused : UInt8}
    (command : ClientCommand.ofByte octets.first = .endBlockDownload unused) :
    (Message.request node octets).offerLine false
      = (Message.request node octets).requestLine ("[Block Download] [CS 1] [EXCESS "
          ++ unused.toNat.repr ++ "] CRC="
          ++ Numeral.markedUpper 4 (LittleEndian.word16 (octets.get 1) (octets.get 2)).toNat
          ++ " ") := by
  have named : ClientCommand.ofByte (Payload.ofOctets octets).command
      = .endBlockDownload unused := command
  rw [offerLine_request]
  refine congrArg (Message.requestLine _) ?_
  show (Payload.ofOctets octets).requestSummary = _
  unfold Payload.requestSummary
  simp only [named]
  rfl

theorem offerLine_endMessage (node : UInt8) (data : List UInt8) (crc : Bool) :
    (endMessage node data crc).offerLine false = endLine node data crc := by
  have command := ofByte_endMessage node data crc
  have checksum := checksum_endMessage node data crc
  have unused : (UInt8.ofNat ((7 - data.length % 7) % 7)).toNat = (7 - data.length % 7) % 7 := by
    rw [UInt8.toNat_ofNat']
    omega
  rw [endMessage, Message.octets_request] at command checksum
  have line : (endMessage node data crc).offerLine false = _ := offerLine_of_end command
  rw [unused, checksum] at line
  exact line

end Sdo

/-! ## The lines of a download -/

namespace Sdo

variable {index : UInt16} {subindex : UInt8} {data : List UInt8}

/-- Whether some messages are replies that a block download of so many bytes accepts, one
after the other, and then no more than confirmations of its end. -/
def AcceptedOnly (node : UInt8) (length : Nat) (received : List Message) : Prop :=
  acceptedReplies node length received <+: received
    ∧ ∀ reply ∈ received.drop (acceptedReplies node length received).length, Ends node reply

instance (node : UInt8) (length : Nat) (received : List Message) :
    Decidable (AcceptedOnly node length received) :=
  inferInstanceAs (Decidable (_ ∧ _))

theorem AcceptedOnly.exists_confirmations {length : Nat} {received : List Message}
    (accepted : AcceptedOnly node length received) :
    ∃ confirmations, received = acceptedReplies node length received ++ confirmations
      ∧ ∀ reply ∈ confirmations, Ends node reply := by
  obtain ⟨begun, confirms⟩ := accepted
  exact ⟨_, (List.prefix_iff_eq_append.1 begun).symm, confirms⟩

theorem Closing.addresses_of_mem_frames {closing : Closing} {message : Message}
    (member : message ∈ closing.frames node index subindex data) : message.Addresses node := by
  cases closing with
  | unclosed => cases member
  | ended crc =>
      cases List.mem_singleton.1 member
      exact ⟨_, rfl⟩
  | refused =>
      cases List.mem_singleton.1 member
      exact ⟨_, rfl⟩

theorem Block.addresses_of_mem_segments {block : Block} {message : Message}
    (member : message ∈ block.segments node data) : message.Addresses node := by
  obtain ⟨place, _, rfl⟩ := List.mem_map.1 member
  exact ⟨_, rfl⟩

theorem addresses_of_initiateBlockDownload (nodeFits : node.toNat ≤ 127)
    (dataFits : data.length ≤ 0xFFFFFFFF) {crc : Bool} {request : Message}
    (built : Request.initiateBlockDownload node index subindex data.length crc = .ok request) :
    request.Addresses node := by
  rw [Request.initiateBlockDownload, Request.declaredSize_eq_ok dataFits] at built
  have about := Request.about_eq_ok nodeFits (.blockDownloadInitiate crc true) index subindex
    (LittleEndian.bytes32 (UInt32.ofNat data.length))
  exact ⟨_, Except.ok.inj (built.symm.trans about)⟩

theorem offeredIn_of_confirmations {journal before later : List (Entry ε)} {reply : Message}
    (split : journal = before ++ .received reply :: later)
    (accepted : ∀ turn ∈ answered journal, ¬ Ends node turn.heard)
    (confirms : ∀ message ∈ reply :: receivedIn later, Ends node message) :
    offeredIn (.received reply :: later) = [] := by
  have unanswered : answered (.received reply :: later) = [] := by
    rw [List.eq_nil_iff_forall_not_mem]
    intro turn member
    have among : turn ∈ answered journal := by
      rw [split, answered, turns_append_received, List.filter_append]
      exact List.mem_append_right _ member
    have heard := List.mem_map_of_mem (f := Turn.heard) (List.mem_of_mem_filter member)
    rw [map_heard_turns] at heard
    exact accepted turn among (confirms turn.heard heard)
  have all := offeredIn_eq_silence_append_answered (.received reply :: later)
  rw [unanswered] at all
  simpa [Entry.received?] using all

theorem keepsMode_of_acknowledges (nodeFits : node.toNat ≤ 127) {ack : Message}
    (acknowledges : Acknowledges node ack) : ack.KeepsMode node := by
  intro modes
  obtain ⟨crc, said⟩ := acknowledges
  rw [modes.isOn_pass_of_said nodeFits said]
  rfl

theorem pass_of_opens (nodeFits : node.toNat ≤ 127) {grant : Message}
    (opens : Opens node grant) (modes : BlockModes) :
    (modes.pass grant).isOn node.toNat = true := by
  obtain ⟨crc, said⟩ := opens
  rw [modes.isOn_pass_of_said nodeFits said]
  rfl

theorem not_ends_of_said {message : Message} {crc : Bool} {stage : BlockStage}
    (said : message.said? node = some (.blockDownload crc stage)) (other : stage ≠ .ended) :
    ¬ Ends node message := by
  rintro ⟨_, saysEnd⟩
  rw [said] at saysEnd
  cases saysEnd
  exact other rfl

theorem Framed.replies {turns : List Turn} {blocks : List Block} {closing : Closing}
    (framed : Framed node index subindex data turns blocks closing) {grant : Message}
    {acks : List Message} (counted : turns.map Turn.heard = grant :: acks) :
    Opens node grant ∧ ∀ ack ∈ acks, Acknowledges node ack := by
  cases turns with
  | nil => cases counted
  | cons turn others =>
      obtain ⟨rfl, rfl⟩ := List.cons.inj counted
      refine ⟨framed.granted turn rfl, fun ack member => ?_⟩
      obtain ⟨later, among, rfl⟩ := List.mem_map.1 member
      obtain ⟨place, here⟩ := List.getElem?_of_mem among
      exact framed.acknowledged place later here

/-- All replies that count come before anything that ends the transfer. -/
theorem exists_split_of_acceptedOnly {journal later : List (Entry ε)} {grant : Message}
    {acks confirmations : List Message} {blocks : List Block} {closing : Closing}
    (framed : Framed node index subindex data (answered journal) blocks closing)
    (counted : (answered journal).map Turn.heard = grant :: acks)
    (split : journal = silence journal ++ .received grant :: later)
    (received : receivedIn later = acks ++ confirmations)
    (confirms : ∀ reply ∈ confirmations, Ends node reply) :
    ∃ before rest, later = before ++ rest ∧ receivedIn before = acks ∧ offeredIn rest = [] := by
  cases confirmations with
  | nil => exact ⟨later, [], (List.append_nil _).symm, by rw [received, List.append_nil], rfl⟩
  | cons reply others =>
      obtain ⟨front, back, rfl, frontReceived, backReceived⟩ :=
        List.filterMap_eq_append_iff.1 received
      obtain ⟨rest, backSplit, restReceived⟩ := split_of_received backReceived
      refine ⟨front ++ silence back, .received reply :: rest, ?_, ?_, ?_⟩
      · rw [List.append_assoc, ← backSplit]
      · rw [receivedIn_append, receivedIn_silence, List.append_nil]
        exact frontReceived
      · obtain ⟨⟨_, opens⟩, acknowledge⟩ := framed.replies counted
        have whole : journal = (silence journal ++ .received grant :: (front ++ silence back))
            ++ .received reply :: rest := by
          rw [List.append_assoc, List.cons_append, List.append_assoc, ← backSplit]
          exact split
        refine offeredIn_of_confirmations whole ?_ (restReceived.symm ▸ confirms)
        intro turn member
        have heard := List.mem_map_of_mem (f := Turn.heard) member
        rw [counted] at heard
        rcases List.mem_cons.1 heard with same | among
        · rw [same]
          exact not_ends_of_said opens nofun
        · obtain ⟨_, said⟩ := acknowledge _ among
          exact not_ends_of_said said nofun

/-- From the first reply on everything is shown as if that reply had switched the mode on; if it
is none that counts, nothing more is handed over. -/
theorem offered_logLines_of_first [ToString ε] (nodeFits : node.toNat ≤ 127)
    {journal later : List (Entry ε)} {first : Message} {blocks : List Block} {closing : Closing}
    (split : journal = silence journal ++ .received first :: later)
    (asks : ∀ message ∈ offeredIn later, message.Addresses node)
    (offers : offeredIn later = (answered journal).flatMap Turn.offered)
    (framed : Framed node index subindex data (answered journal) blocks closing)
    (counted : (answered journal).map Turn.heard
      = acceptedReplies node data.length (first :: receivedIn later))
    (accepted : AcceptedOnly node data.length (first :: receivedIn later)) (modes : BlockModes) :
    (logLines true modes (.received first :: later)).1.filter LogLine.tellsOffered
      = offerLines true (offeredIn later) := by
  have behind : (logLines true modes (.received first :: later)).1.filter LogLine.tellsOffered
      = (logLines true (modes.pass first) later).1.filter LogLine.tellsOffered := by
    simp [logLines, Entry.traced?, LogLine.tellsOffered_rx]
  obtain ⟨confirmations, whole, confirms⟩ := accepted.exists_confirmations
  rw [behind]
  cases replies : acceptedReplies node data.length (first :: receivedIn later) with
  | nil =>
      rw [replies] at counted
      rw [List.map_eq_nil_iff.1 counted] at offers
      rw [offers, offered_logLines_nil offers]
      rfl
  | cons grant acks =>
      rw [replies] at counted whole
      obtain ⟨rfl, received⟩ := List.cons.inj whole
      obtain ⟨opens, acknowledge⟩ := framed.replies counted
      -- Up to the first confirmation no reply moves the mode, and behind it nothing is sent.
      obtain ⟨before, rest, rfl, heard, silent⟩ :=
        exists_split_of_acceptedOnly framed counted split received confirms
      have unmoved : ∀ reply ∈ receivedIn before, reply.KeepsMode node := by
        rw [heard]
        exact fun ack member => keepsMode_of_acknowledges nodeFits (acknowledge ack member)
      rw [offeredIn_append, silent, List.append_nil] at asks ⊢
      have shown := (offered_logLines nodeFits asks unmoved (modes.pass first)).1
      rw [pass_of_opens nodeFits opens] at shown
      rw [logLines_append, List.filter_append, offered_logLines_nil silent, List.append_nil, shown]

theorem offered_logLines_of_framed [ToString ε] (nodeFits : node.toNat ≤ 127)
    {journal : List (Entry ε)} {request : Message} {blocks : List Block} {closing : Closing}
    (asks : ∀ message ∈ offeredIn journal, message.Addresses node)
    (opening : offeredIn journal = request :: (answered journal).flatMap Turn.offered)
    (framed : Framed node index subindex data (answered journal) blocks closing)
    (counted : (answered journal).map Turn.heard
      = acceptedReplies node data.length (receivedIn journal))
    (accepted : AcceptedOnly node data.length (receivedIn journal)) :
    (logLines true BlockModes.none journal).1.filter LogLine.tellsOffered
      = request.offerLine false :: offerLines true ((answered journal).flatMap Turn.offered) := by
  have single : offeredIn (silence journal) = [request] := by
    have all := offeredIn_eq_silence_append_answered journal
    rw [opening] at all
    exact (List.append_cancel_right all).symm
  have silenceAsks : ∀ message ∈ offeredIn (silence journal), message.Addresses node := by
    rw [single]
    exact List.forall_mem_singleton.2 (asks request (opening ▸ List.mem_cons_self))
  have unmoved : ∀ reply ∈ receivedIn (silence journal), reply.KeepsMode node := by
    rw [receivedIn_silence]
    exact nofun
  have start := (offered_logLines nodeFits silenceAsks unmoved BlockModes.none).1
  rw [single, BlockModes.isOn_none] at start
  cases received : receivedIn journal with
  | nil =>
      have unheard : Unheard journal := List.filterMap_eq_nil_iff.1 received
      rw [received] at counted
      have unanswered : answered journal = [] := List.map_eq_nil_iff.1 counted
      rw [unheard.silence_eq] at start
      rw [start, unanswered]
      rfl
  | cons first others =>
      obtain ⟨later, split, rfl⟩ := split_of_received received
      have offers : offeredIn later = (answered journal).flatMap Turn.offered := by
        have all := congrArg offeredIn split
        rw [offeredIn_append, single, opening] at all
        exact (List.cons.inj all).2.symm
      have laterAsks : ∀ message ∈ offeredIn later, message.Addresses node := by
        rw [offers]
        exact fun message member => asks message (opening ▸ List.mem_cons_of_mem _ member)
      rw [received] at counted accepted
      have shown := offered_logLines_of_first nodeFits split laterAsks offers framed counted
        accepted (logLines true BlockModes.none (silence journal)).2
      rw [offers] at shown
      have all := logLines_append true BlockModes.none (silence journal) (.received first :: later)
      rw [← split] at all
      rw [all, List.filter_append, start, shown]
      rfl

/-- How the log shows what a download hands over: its request, some blocks and what closes
them. -/
structure Shown (node : UInt8) (index : UInt16) (subindex : UInt8) (data : List UInt8)
    (request : Message) (blocks : List Block) (closing : Closing) (offered : List Message)
    (lines : List LogLine) : Prop where
  handedOver : offered <+: request :: (blocks.flatMap (Block.segments node data)
    ++ closing.frames node index subindex data)
  length_eq : lines.length = offered.length
  /-- A segment is shown as such exactly if no segment before it was flagged as the last. -/
  segment : ∀ place segment line,
    (blocks.flatMap (Block.segments node data))[place]? = some segment →
    lines[place + 1]? = some line →
    (line = segment.segmentLine
      ↔ ∀ earlier ∈ (blocks.flatMap (Block.segments node data)).take place,
          (SegmentHeader.ofByte earlier.octets.first).last = false)
  ended : ∀ crc line, closing = .ended crc →
    lines[(blocks.flatMap (Block.segments node data)).length + 1]? = some line →
    line = endLine node data crc

theorem Framed.exists_flagged {turns : List Turn} {blocks : List Block} {crc : Bool}
    (framed : Framed node index subindex data turns blocks (.ended crc)) :
    ∃ segment ∈ blocks.flatMap (Block.segments node data), segment.flagged = true := by
  obtain ⟨last, _, lastHere, _, _, reaches⟩ := framed.ended crc rfl
  have member := List.mem_of_getLast? lastHere
  have admissible : last.Admissible := framed.admissible last member
  have positive := Block.count_pos data.length admissible
  have inside : last.count data.length - 1 < last.count data.length := by omega
  refine ⟨last.segment node data (last.count data.length - 1), ?_, ?_⟩
  · exact List.mem_flatMap.2 ⟨last, member, List.mem_map.2 ⟨_, List.mem_range.2 inside, rfl⟩⟩
  · rw [Message.flagged, Block.ofByte_segment node admissible inside, decide_eq_true_iff,
      Nat.sub_add_cancel positive]
    exact reaches

/-- What a client that traces logs of a block download, if the node sends nothing but the
replies that are accepted: every segment is shown as such with its flag and its number, up to
the first one that is flagged as the last, and no segment that is sent behind this one is.  The
end is always shown as such, with the spare bytes and the checksum.  Only replies that count
more bytes than there are leave no log. -/
theorem Client.blockDownload_shown {σ : Type} [Transport σ ε] [ToString ε] (config : Config)
    (tracing : config.tracing = true) (transport : σ) (index : UInt16) (subindex : UInt8)
    (nodeFits : node.toNat ≤ 127) (dataFits : data.length ≤ 0xFFFFFFFF)
    (accepted : AcceptedOnly node data.length
      (receivedIn (Call.run config transport (.blockDownload node index subindex data)).journal)) :
    let call : Call := .blockDownload node index subindex data
    let run := call.run config transport
    ∃ request blocks closing,
      Request.initiateBlockDownload node index subindex data.length config.blockCrc = .ok request
      ∧ ((∃ lines later, (Client.new config).perform call transport = some (run, lines, later)
          ∧ Shown node index subindex data request blocks closing (offeredIn run.journal)
              (lines.filter LogLine.tellsOffered))
        ∨ (Client.new config).perform call transport = none ∧ ¬ Loggable run.journal) := by
  intro call run
  obtain ⟨request, built⟩ :=
    Request.initiateBlockDownload_eq_ok nodeFits index subindex dataFits config.blockCrc
  obtain ⟨opening, blocks, closing, download, counted, _⟩ :=
    blockTurns_run config.transferRounds config.blockCrc nodeFits built transport
  have framed := download.framed
  have begun := download.offered_prefix
  have opening : offeredIn run.journal = request :: (answered run.journal).flatMap Turn.offered :=
    opening
  refine ⟨request, blocks, closing, built, ?_⟩
  have performs := (Client.new config).perform_eq call transport
  by_cases loggable : Loggable run.journal
  case neg =>
    have silent : ¬ (config.tracing = false ∨ Loggable run.journal) := by simp [tracing, loggable]
    exact .inr ⟨performs.trans (if_neg silent), loggable⟩
  refine .inl ⟨_, _, performs.trans (if_pos (.inr loggable)), ?_⟩
  have asks : ∀ message ∈ offeredIn run.journal, message.Addresses node := by
    intro message member
    rw [opening] at member
    obtain rfl | among := List.mem_cons.1 member
    · exact addresses_of_initiateBlockDownload nodeFits dataFits built
    · obtain inBlock | closes := List.mem_append.1 (begun.subset among)
      · obtain ⟨block, _, ofBlock⟩ := List.mem_flatMap.1 inBlock
        exact Block.addresses_of_mem_segments ofBlock
      · exact Closing.addresses_of_mem_frames closes
  have lines : (logLines config.tracing BlockModes.none run.journal).1.filter LogLine.tellsOffered
      = request.offerLine false
        :: offerLines true ((answered run.journal).flatMap Turn.offered) := by
    rw [tracing]
    exact offered_logLines_of_framed nodeFits asks opening framed counted accepted
  refine ⟨?_, ?_, ?_, ?_⟩
  · rw [opening]
    exact List.cons_prefix_cons.2 ⟨rfl, begun⟩
  · rw [Client.new, lines, opening, List.length_cons, List.length_cons, length_offerLines]
  · intro place segment line segmentHere lineHere
    rw [Client.new, lines, List.getElem?_cons_succ] at lineHere
    obtain ⟨request, requestHere, rfl⟩ := offerLine_of_getElem? begun lineHere
    obtain ⟨inside, _⟩ := List.getElem?_eq_some_iff.1 segmentHere
    rw [List.getElem?_append_left inside, segmentHere] at requestHere
    obtain rfl := Option.some.inj requestHere
    obtain ⟨block, _, ofBlock⟩ := List.mem_flatMap.1 (List.mem_of_getElem? segmentHere)
    obtain ⟨octets, rfl⟩ := Block.addresses_of_mem_segments ofBlock
    rw [offerLine_eq_segmentLine_iff, List.take_append_of_le_length (Nat.le_of_lt inside)]
    simp [Message.flagged]
  · rintro crc line rfl lineHere
    rw [Client.new, lines, List.getElem?_cons_succ] at lineHere
    obtain ⟨request, requestHere, rfl⟩ := offerLine_of_getElem? begun lineHere
    rw [List.getElem?_append_right (Nat.le_refl _), Nat.sub_self] at requestHere
    obtain rfl := Option.some.inj requestHere
    have flagged : (blocks.flatMap (Block.segments node data)).any Message.flagged = true :=
      List.any_eq_true.2 framed.exists_flagged
    rw [List.take_left, flagged]
    exact offerLine_endMessage node data crc

/-- Two segments, the second of which is sent again and then acknowledged. -/
theorem Client.blockDownload_shown_resent :
    let data : List UInt8 := [1, 2, 3, 4, 5, 6, 7, 8]
    let link := PlainLink.replaying 5
      [[0xA4, 0x00, 0x20, 1, 2], [0xA2, 1, 2], [0xA2, 1, 2], [0xA1]]
    let call : Call := .blockDownload 5 0x2000 1 data
    let run := call.run { tracing := true } link
    AcceptedOnly 5 data.length (receivedIn run.journal)
      ∧ ∃ lines later request blocks closing,
        (Client.new { tracing := true }).perform call link = some (run, lines, later)
        ∧ Shown 5 0x2000 1 data request blocks closing (offeredIn run.journal)
            (lines.filter LogLine.tellsOffered) := by
  intro data link call run
  have accepted : AcceptedOnly 5 data.length (receivedIn run.journal) := by
    decide +kernel
  have loggable : Loggable run.journal :=
    PlainLink.inBounds.loggable (call.recorded { tracing := true } link)
  obtain ⟨request, blocks, closing, _, shown⟩ :=
    Client.blockDownload_shown { tracing := true } rfl link 0x2000 1 (by decide) (by decide)
      accepted
  obtain ⟨lines, later, performs, shown⟩ | ⟨_, unloggable⟩ := shown
  · exact ⟨accepted, lines, later, request, blocks, closing, performs, shown⟩
  · exact absurd loggable unloggable

/-- The segment that is sent again is shown as if the transfer were given up. -/
theorem Client.blockDownload_misshown :
    let data : List UInt8 := [1, 2, 3, 4, 5, 6, 7, 8]
    let link := PlainLink.replaying 5
      [[0xA4, 0x00, 0x20, 1, 2], [0xA2, 1, 2], [0xA2, 1, 2], [0xA1]]
    let call : Call := .blockDownload 5 0x2000 1 data
    let run := call.run { tracing := true } link
    let segment := (Block.mk 7 2).segment 5 data 0
    ∃ lines later, (Client.new { tracing := true }).perform call link = some (run, lines, later)
      ∧ AcceptedOnly 5 data.length (receivedIn run.journal)
      ∧ run.answer.result.toOption = some .done
      ∧ (offeredIn run.journal)[3]? = some segment
      ∧ lines[7]? = some (segment.requestLine "[Abort Domain Transfer] [Unknown error] ")
      ∧ segment.segmentLine ∉ lines := by
  intro data link call run segment
  have loggable : Loggable run.journal :=
    PlainLink.inBounds.loggable (call.recorded { tracing := true } link)
  have performs := (Client.new { tracing := true }).perform_eq call link
  refine ⟨_, _, performs.trans (if_pos (.inr loggable)), ?_⟩
  decide +kernel

end Sdo

end CanOpen
