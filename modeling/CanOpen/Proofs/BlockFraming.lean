import CanOpen.Proofs.Course
import CanOpen.Proofs.ServiceData
import CanOpen.Sdo.Client

/-!
# How a block download cuts its data into blocks

A block is told by the position in the data where it starts and by the number of
segments that the node asked for.  Each block answers a reply of the node, the first
one the reply that opens the transfer and every other one an acknowledgement, and it
starts where the data is that was not acknowledged.
-/

set_option autoImplicit false

namespace CanOpen.Sdo

variable {ε : Type}

@[ext]
structure Block where
  start : Nat
  size : Nat
  deriving DecidableEq, Repr

namespace Block

/-- A block has as many segments as were asked for, or as are left, but at least one. -/
def count (block : Block) (length : Nat) : Nat :=
  min block.size (max 1 ((length - block.start + 6) / 7))

def header (length : Nat) (block : Block) (place : Nat) : SegmentHeader where
  last := decide (length ≤ block.start + 7 * (place + 1))
  sequence := UInt8.ofNat (place + 1)

def segment (node : UInt8) (data : List UInt8) (block : Block) (place : Nat) : Message :=
  .request node
    (Octets.ofList
      ((block.header data.length place).toByte :: chunkAt (data.drop block.start) place))

def segments (node : UInt8) (data : List UInt8) (block : Block) : List Message :=
  (List.range (block.count data.length)).map (block.segment node data)

def Admissible (block : Block) : Prop :=
  1 ≤ block.size ∧ block.size ≤ 127

def confirmed (block : Block) (length : Nat) (reply : Message) : Nat :=
  min (reply.octets.get 1).toNat (block.count length)

def FinishedBy (block : Block) (length : Nat) (reply : Message) : Prop :=
  block.confirmed length reply = block.count length
    ∧ length ≤ block.start + 7 * block.count length

def first (reply : Message) : Block where
  start := 0
  size := (reply.octets.get 4).toNat

def next (block : Block) (length : Nat) (reply : Message) : Block where
  start := block.start + 7 * block.confirmed length reply
  size := (reply.octets.get 2).toNat

end Block

instance (block : Block) : Decidable block.Admissible :=
  inferInstanceAs (Decidable (_ ∧ _))

instance (block : Block) (length : Nat) (reply : Message) :
    Decidable (block.FinishedBy length reply) :=
  inferInstanceAs (Decidable (_ ∧ _))

def Opens (node : UInt8) (message : Message) : Prop :=
  ∃ crc, message.said? node = some (.blockDownload crc .opened)

def Acknowledges (node : UInt8) (message : Message) : Prop :=
  ∃ crc, message.said? node = some (.blockDownload crc .acknowledged)

instance (node : UInt8) (message : Message) : Decidable (Opens node message) :=
  inferInstanceAs (Decidable (∃ _ : Bool, _ = _))

instance (node : UInt8) (message : Message) : Decidable (Acknowledges node message) :=
  inferInstanceAs (Decidable (∃ _ : Bool, _ = _))

/-- The acknowledgements that count once a block is sent: all of them, up to one that
confirms the last byte or asks for a block that there cannot be. -/
def acceptedAcks (node : UInt8) (length : Nat) : Block → List Message → List Message
  | _, [] => []
  | block, message :: others =>
      if Acknowledges node message then
        if block.FinishedBy length message ∨ ¬ (block.next length message).Admissible then
          [message]
        else
          message :: acceptedAcks node length (block.next length message) others
      else
        acceptedAcks node length block others

/-- The messages that count among those received: the first grant and then
acknowledgements. -/
def acceptedReplies (node : UInt8) (length : Nat) : List Message → List Message
  | [] => []
  | message :: others =>
      if Opens node message then
        if (Block.first message).Admissible then
          message :: acceptedAcks node length (Block.first message) others
        else
          [message]
      else
        acceptedReplies node length others

def endMessage (node : UInt8) (data : List UInt8) (crc : Bool) : Message :=
  let checksum := LittleEndian.bytes16 (if crc then Crc.checksum data else 0)
  .request node (Octets.ofList
    [(ClientCommand.endBlockDownload (UInt8.ofNat ((7 - data.length % 7) % 7))).toByte,
      checksum.1, checksum.2])

def refusal (node : UInt8) (index : UInt16) (subindex : UInt8) : Message :=
  .request node
    (Payload.toOctets ⟨ClientCommand.abort.toByte, index, subindex,
      LittleEndian.bytes32 AbortCode.invalidBlockSize.code⟩)

/-! ## Replies that count -/

section Accepted

variable {node : UInt8} {length : Nat} {block : Block} {message : Message}

theorem acceptedAcks_of_not_acknowledges (foreign : ¬ Acknowledges node message)
    (others : List Message) :
    acceptedAcks node length block (message :: others)
      = acceptedAcks node length block others := by
  rw [acceptedAcks, if_neg foreign]

theorem acceptedAcks_of_last (acknowledges : Acknowledges node message)
    (last : block.FinishedBy length message ∨ ¬ (block.next length message).Admissible)
    (others : List Message) :
    acceptedAcks node length block (message :: others) = [message] := by
  rw [acceptedAcks, if_pos acknowledges, if_pos last]

theorem acceptedAcks_of_more (acknowledges : Acknowledges node message)
    (unfinished : ¬ block.FinishedBy length message)
    (admissible : (block.next length message).Admissible) (others : List Message) :
    acceptedAcks node length block (message :: others)
      = message :: acceptedAcks node length (block.next length message) others := by
  have more : ¬ (block.FinishedBy length message
      ∨ ¬ (block.next length message).Admissible) := by
    rintro (finished | inadmissible)
    · exact unfinished finished
    · exact inadmissible admissible
  rw [acceptedAcks, if_pos acknowledges, if_neg more]

theorem acceptedReplies_of_not_opens (foreign : ¬ Opens node message)
    (others : List Message) :
    acceptedReplies node length (message :: others)
      = acceptedReplies node length others := by
  rw [acceptedReplies, if_neg foreign]

theorem acceptedReplies_of_admissible (opens : Opens node message)
    (admissible : (Block.first message).Admissible) (others : List Message) :
    acceptedReplies node length (message :: others)
      = message :: acceptedAcks node length (Block.first message) others := by
  rw [acceptedReplies, if_pos opens, if_pos admissible]

theorem acceptedReplies_of_inadmissible (opens : Opens node message)
    (inadmissible : ¬ (Block.first message).Admissible) (others : List Message) :
    acceptedReplies node length (message :: others) = [message] := by
  rw [acceptedReplies, if_pos opens, if_neg inadmissible]

theorem acceptedAcks_append_of_not_acknowledges {ignored : List Message}
    (foreign : ∀ message ∈ ignored, ¬ Acknowledges node message) (others : List Message) :
    acceptedAcks node length block (ignored ++ others)
      = acceptedAcks node length block others := by
  induction ignored with
  | nil => rfl
  | cons message later inductionHypothesis =>
      obtain ⟨here, behind⟩ := List.forall_mem_cons.1 foreign
      rw [List.cons_append, acceptedAcks_of_not_acknowledges here]
      exact inductionHypothesis behind

theorem acceptedReplies_append_of_not_opens {ignored : List Message}
    (foreign : ∀ message ∈ ignored, ¬ Opens node message) (others : List Message) :
    acceptedReplies node length (ignored ++ others) = acceptedReplies node length others := by
  induction ignored with
  | nil => rfl
  | cons message later inductionHypothesis =>
      obtain ⟨here, behind⟩ := List.forall_mem_cons.1 foreign
      rw [List.cons_append, acceptedReplies_of_not_opens here]
      exact inductionHypothesis behind

end Accepted

/-! ## Segments of a block -/

theorem drop_isEmpty_eq_decide (data : List UInt8) (position : Nat) :
    (data.drop position).isEmpty = decide (data.length ≤ position) := by
  rw [Bool.eq_iff_iff, List.isEmpty_iff, List.drop_eq_nil_iff, decide_eq_true_iff]

open Transfer in
/-- Cutting goes by position: a segment has the seven bytes at its place, and it is
the last one if they reach the end. -/
theorem cutBlock_eq (count : Nat) (sequence : UInt8) (data : List UInt8) :
    cutBlock count sequence data
      = (List.range (min count (max 1 ((data.length + 6) / 7)))).map fun place =>
          ⟨sequence + UInt8.ofNat place, (data.drop (7 * place)).take 7,
            decide (data.length ≤ 7 * (place + 1))⟩ := by
  induction count generalizing sequence data with
  | zero => simp [cutBlock]
  | succ count inductionHypothesis =>
      by_cases fits : data.length ≤ 7
      · have one : min (count + 1) (max 1 ((data.length + 6) / 7)) = 1 := by omega
        simp [cutBlock, drop_isEmpty_eq_decide, fits, one]
      -- The segments behind the first are those of the rest, each one place further on.
      · have counts : min (count + 1) (max 1 ((data.length + 6) / 7))
            = min count (max 1 (((data.drop 7).length + 6) / 7)) + 1 := by
          rw [List.length_drop]
          omega
        have shifted (place : Nat) :
            (⟨sequence + UInt8.ofNat (place + 1), (data.drop (7 * (place + 1))).take 7,
                decide (data.length ≤ 7 * (place + 1 + 1))⟩ : Piece)
              = ⟨sequence + 1 + UInt8.ofNat place, ((data.drop 7).drop (7 * place)).take 7,
                  decide ((data.drop 7).length ≤ 7 * (place + 1))⟩ := by
          have position : 7 * (place + 1) = 7 + 7 * place := by omega
          have reaches : data.length ≤ 7 * (place + 1 + 1)
              ↔ data.length - 7 ≤ 7 * (place + 1) := by omega
          rw [List.drop_drop, List.length_drop, UInt8.ofNat_add, UInt8.add_comm (UInt8.ofNat place),
            ← UInt8.add_assoc, ← position, decide_eq_decide.2 reaches]
          rfl
        rw [cutBlock, drop_isEmpty_eq_decide, counts, List.range_succ_eq_map, List.map_cons,
          List.map_map]
        simp only [segmentCapacity, fits, decide_false, Bool.false_eq_true, if_false,
          inductionHypothesis]
        congr 1
        · simp
        · exact (List.map_congr_left fun place _ => shifted place).symm

namespace Block

variable {node : UInt8} {data : List UInt8} {block : Block}

theorem count_pos (length : Nat) (admissible : block.Admissible) :
    0 < block.count length := by
  have positive := admissible.1
  rw [count]
  omega

theorem count_le (length : Nat) (admissible : block.Admissible) :
    block.count length ≤ 127 := by
  have bounded := admissible.2
  rw [count]
  omega

@[simp]
theorem length_segments (node : UInt8) (data : List UInt8) (block : Block) :
    (block.segments node data).length = block.count data.length := by
  simp [segments]

theorem segments_ne_nil (admissible : block.Admissible) : block.segments node data ≠ [] := by
  rw [← List.length_pos_iff, length_segments]
  exact count_pos data.length admissible

theorem eq_segment_of_getElem? {place : Nat} {segment : Message}
    (here : (block.segments node data)[place]? = some segment) :
    place < block.count data.length ∧ segment = block.segment node data place := by
  obtain ⟨inside, here⟩ := List.getElem?_eq_some_iff.1 here
  rw [length_segments] at inside
  refine ⟨inside, ?_⟩
  rw [← here]
  simp [segments]

theorem tail_segment (node : UInt8) (data : List UInt8) (block : Block) (place : Nat) :
    let chunk := chunkAt (data.drop block.start) place
    (block.segment node data place).tail = chunk ++ List.replicate (7 - chunk.length) 0 :=
  Message.tail_request (length_chunkAt_le (data.drop block.start) place)

theorem ofByte_segment (node : UInt8) (admissible : block.Admissible) {place : Nat}
    (inside : place < block.count data.length) :
    SegmentHeader.ofByte (block.segment node data place).octets.first
      = ⟨decide (data.length ≤ block.start + 7 * (place + 1)), UInt8.ofNat (place + 1)⟩ := by
  have bounded := count_le data.length admissible
  have inRange : (UInt8.ofNat (place + 1)).toNat ≤ 127 := by
    rw [UInt8.toNat_ofNat']
    omega
  rw [segment, Message.first_request, header, SegmentHeader.ofByte_toByte inRange]

end Block

open Transfer in
theorem spareBytes_lt (chunk : List UInt8) : (UInt8.ofNat (spareBytes chunk)).toNat < 7 := by
  have spare : spareBytes chunk < 7 := by
    unfold spareBytes segmentCapacity
    split
    next => decide
    next filled =>
      have positive := List.length_pos_iff.2 (mt List.isEmpty_iff.2 filled)
      omega
  rw [UInt8.toNat_ofNat']
  omega

/-! ## Where blocks start -/

namespace Block

/-- Whether a block starts at a segment of the data, or at the only one there is if
there is no data. -/
def Aligned (length : Nat) (block : Block) : Prop :=
  7 ∣ block.start ∧ block.start < max 1 length

theorem aligned_first (length : Nat) (grant : Message) : (first grant).Aligned length :=
  ⟨Nat.dvd_zero 7, Nat.lt_of_lt_of_le Nat.zero_lt_one (Nat.le_max_left 1 length)⟩

/-- A block that an acknowledgement does not finish has confirmed segments in front of
its last one only, all of them full. -/
theorem Aligned.next {length : Nat} {block : Block} {ack : Message}
    (aligned : block.Aligned length) (unfinished : ¬ block.FinishedBy length ack) :
    (block.next length ack).Aligned length := by
  obtain ⟨⟨segment, start⟩, inside⟩ := aligned
  refine ⟨⟨segment + block.confirmed length ack, ?_⟩, ?_⟩
  · rw [Block.next, start, Nat.mul_add]
  -- Only the last segment of the data may be short, and confirming it would finish.
  · have bound : block.confirmed length ack ≤ block.count length := Nat.min_le_right _ _
    rw [FinishedBy] at unfinished
    rw [count] at unfinished bound
    show block.start + 7 * block.confirmed length ack < max 1 length
    omega

theorem Aligned.start_le {length : Nat} {block : Block} (aligned : block.Aligned length)
    {place : Nat} (inside : place < block.count length) :
    block.start + 7 * place ≤ length := by
  have started := aligned.2
  rw [count] at inside
  omega

open Transfer in
/-- The last segment of a block that reaches the end of the data has as much to spare as the
data are short of whole segments. -/
theorem Aligned.spareBytes_eq {data : List UInt8} {block : Block}
    (aligned : block.Aligned data.length)
    (reaches : data.length ≤ block.start + 7 * block.count data.length) :
    spareBytes ((data.drop block.start).drop
        (segmentCapacity * (block.count data.length - 1)))
      = (7 - data.length % 7) % 7 := by
  obtain ⟨⟨segment, start⟩, inside⟩ := aligned
  have segments : block.count data.length
      = min block.size (max 1 ((data.length - block.start + 6) / 7)) := rfl
  rw [List.drop_drop, spareBytes, drop_isEmpty_eq_decide, List.length_drop, segmentCapacity]
  split <;> simp only [decide_eq_true_iff] at * <;> omega

end Block

/-! ## One message -/

section Download

open Transfer

variable {budget : Nat} {offerCrc crc : Bool} {node : UInt8} {index : UInt16}
  {subindex : UInt8} {data : List UInt8}

def underway (crc : Bool) (data : List UInt8) (block : Block) : BlockDownload :=
  .sending crc (data.drop block.start) (block.count data.length)

theorem sendBlock_of_admissible (nodeFits : node.toNat ≤ 127) {block : Block} {size : UInt8}
    (asked : block.size = size.toNat) (admissible : block.Admissible)
    (notes : List (Note ε)) :
    sendBlock node index subindex notes crc (data.drop block.start) size
      = .proceed notes ((block.segments node data).map .ok) (underway crc data block) := by
  have positive := admissible.1
  have bounded := admissible.2
  have sizeFits : ¬ (size = 0 ∨ Request.maxBlockSize < size.toNat) := by
    rintro (rfl | tooLarge)
    · rw [asked] at positive
      exact absurd positive (by decide)
    · rw [asked] at bounded
      exact absurd bounded (Nat.not_le.2 tooLarge)
  have pieces : cutBlock size.toNat 1 (data.drop block.start)
      = (List.range (block.count data.length)).map fun place =>
          ⟨1 + UInt8.ofNat place, chunkAt (data.drop block.start) place,
            decide (data.length ≤ block.start + 7 * (place + 1))⟩ := by
    rw [cutBlock_eq, List.length_drop, ← asked]
    refine List.map_congr_left fun place _ => ?_
    rw [chunkAt]
    congr 2
    rw [eq_iff_iff]
    omega
  have built (place : Nat) (inside : place < block.count data.length) :
      Request.blockSegment node (1 + UInt8.ofNat place) (chunkAt (data.drop block.start) place)
          (decide (data.length ≤ block.start + 7 * (place + 1)))
        = .ok (block.segment node data place) := by
    have few := Block.count_le data.length admissible
    have sequence : 1 + UInt8.ofNat place = UInt8.ofNat (place + 1) := by
      rw [UInt8.ofNat_add, UInt8.add_comm]
      rfl
    have number : (UInt8.ofNat (place + 1)).toNat = place + 1 := by
      rw [UInt8.toNat_ofNat']
      omega
    rw [sequence]
    exact Request.blockSegment_eq_ok nodeFits (by omega) (by omega)
      (length_chunkAt_le (data.drop block.start) place) _
  rw [sendBlock, if_neg sizeFits, pieces]
  simp only [List.map_map, List.length_map, List.length_range, Block.segments, underway]
  congr 1
  refine List.map_congr_left fun place member => ?_
  exact built place (List.mem_range.1 member)

theorem sendBlock_cases (index : UInt16) (subindex : UInt8) (data : List UInt8) (crc : Bool)
    (nodeFits : node.toNat ≤ 127) {block : Block} {size : UInt8}
    (asked : block.size = size.toNat) (notes : List (Note ε)) :
    let sends : Reaction ε BlockDownload Unit :=
      sendBlock node index subindex notes crc (data.drop block.start) size
    (block.Admissible
      ∧ sends = .proceed notes ((block.segments node data).map .ok) (underway crc data block))
    ∨ (¬ block.Admissible ∧ ∃ others final failure,
        sends = .finish others [.ok (refusal node index subindex)] final (.error failure)) := by
  intro sends
  by_cases admissible : block.Admissible
  · exact .inl ⟨admissible, sendBlock_of_admissible nodeFits asked admissible notes⟩
  · right
    have sizeUnfit : size = 0 ∨ Request.maxBlockSize < size.toNat := by
      by_cases tooLarge : 127 < size.toNat
      · exact .inr tooLarge
      · left
        rw [Block.Admissible, asked] at admissible
        have none : size.toNat = 0 := by omega
        exact UInt8.toNat_inj.1 none
    have built : Request.abort node index subindex AbortCode.invalidBlockSize.code
        = .ok (refusal node index subindex) :=
      Request.about_eq_ok nodeFits _ _ _ _
    refine ⟨admissible, notes ++ [.invalidBlockSize node size],
      .sending crc (data.drop block.start) 0,
      .abort AbortCode.invalidBlockSize.code AbortCode.invalidBlockSize.description, ?_⟩
    simp only [sends, sendBlock, if_pos sizeUnfit, built]

theorem hear_opening (nodeFits : node.toNat ≤ 127) (message : Message) :
    let download : Transfer ε BlockDownload Unit :=
      blockDownload budget offerCrc node index subindex data
    let block := Block.first message
    (∃ crc, message.said? node = some (.blockDownload crc .opened) ∧ block.Admissible
      ∧ ∃ notes, download.hear .opening message
          = .proceed notes ((block.segments node data).map .ok) (underway crc data block))
    ∨ (∃ crc, message.said? node = some (.blockDownload crc .opened) ∧ ¬ block.Admissible
      ∧ ∃ notes final failure, download.hear .opening message
          = .finish notes [.ok (refusal node index subindex)] final (.error failure))
    ∨ (¬ Opens node message ∧ ∃ notes failure, download.hear .opening message
          = .finish notes [] .opening (.error failure))
    ∨ (¬ Opens node message ∧ ∃ notes, download.hear .opening message = .ignore notes) := by
  intro download block
  obtain ⟨silent, ignores⟩ | ⟨payload, body, said, reacts⟩ :=
    download.hear_cases .opening message
  · have silentNode : message.said? node = none := silent
    exact .inr (.inr (.inr ⟨by simp [Opens, silentNode], ignores⟩))
  · have saidNode : message.said? node = some (ServerCommand.ofByte payload.command) := said
    rw [reacts]
    cases command : ServerCommand.ofByte payload.command with
    | blockDownload crc stage =>
        cases stage with
        | opened =>
            rw [command] at saidNode
            have asked : block.size = payload.firstBlockSize.toNat := by
              simp only [block, Block.first, Message.octets_of_body body]
              rfl
            have sends : download.react .opening payload
                = sendBlock node index subindex [.blocksOpened node crc payload.firstBlockSize]
                    crc (data.drop block.start) payload.firstBlockSize := by
              simp [download, blockDownload, command, block, Block.first]
            rw [sends]
            obtain ⟨admissible, proceeds⟩ | ⟨inadmissible, refuses⟩ :=
              sendBlock_cases index subindex data crc nodeFits asked
                [.blocksOpened (ε := ε) node crc payload.firstBlockSize]
            · exact .inl ⟨crc, saidNode, admissible, _, proceeds⟩
            · exact .inr (.inl ⟨crc, saidNode, inadmissible, refuses⟩)
        | _ => simp [download, blockDownload, command, Opens, saidNode]
    | _ => simp [download, blockDownload, command, Reaction.aborted, Opens, saidNode]

theorem react_acknowledged (nodeFits : node.toNat ≤ 127) {block : Block}
    (aligned : block.Aligned data.length) {message : Message} {payload : Payload} {flag : Bool} (body : message.body = .sdo payload)
    (command : ServerCommand.ofByte payload.command = .blockDownload flag .acknowledged) :
    let download : Transfer ε BlockDownload Unit :=
      blockDownload budget offerCrc node index subindex data
    let state := underway crc data block
    (block.FinishedBy data.length message →
      download.react state payload = .proceed [] [.ok (endMessage node data crc)] .ending)
    ∧ (¬ block.FinishedBy data.length message → ∃ notes,
        download.react state payload
          = sendBlock node index subindex notes crc
              (data.drop (block.next data.length message).start) payload.nextBlockSize) := by
  intro download state
  have confirmed : min payload.confirmed.toNat (block.count data.length)
      = block.confirmed data.length message := by
    rw [Block.confirmed, Message.octets_of_body body]
    rfl
  have rest : (data.drop block.start).drop (segmentCapacity * block.confirmed data.length message)
      = data.drop (block.next data.length message).start := by
    rw [List.drop_drop, Block.next]
  simp only [download, state, blockDownload, underway, command, confirmed, rest]
  constructor
  · rintro ⟨all, reaches⟩
    have nothingLeft : (data.drop (block.next data.length message).start).isEmpty = true := by
      rwa [drop_isEmpty_eq_decide, decide_eq_true_iff, Block.next, all]
    have unused := spareBytes_lt
      ((data.drop block.start).drop (segmentCapacity * (block.count data.length - 1)))
    rw [if_pos all, if_pos nothingLeft, Request.endBlockDownload_eq_ok nodeFits unused,
      aligned.spareBytes_eq reaches]
    rfl
  · intro unfinished
    by_cases all : block.confirmed data.length message = block.count data.length
    · have somethingLeft :
          ¬ (data.drop (block.next data.length message).start).isEmpty = true := by
        intro nothingLeft
        rw [drop_isEmpty_eq_decide, decide_eq_true_iff, Block.next, all] at nothingLeft
        exact unfinished ⟨all, nothingLeft⟩
      rw [if_pos all, if_neg somethingLeft]
      exact ⟨[], rfl⟩
    · rw [if_neg all]
      exact ⟨_, rfl⟩

/-- An acknowledgement makes a download end if it confirms the last byte, and otherwise
send the block it asks for, or refuse its size; other messages end it or are ignored. -/
theorem hear_underway (nodeFits : node.toNat ≤ 127) {block : Block}
    (aligned : block.Aligned data.length) (message : Message) :
    let download : Transfer ε BlockDownload Unit :=
      blockDownload budget offerCrc node index subindex data
    let state := underway crc data block
    let next := block.next data.length message
    (Acknowledges node message ∧ block.FinishedBy data.length message
      ∧ download.hear state message = .proceed [] [.ok (endMessage node data crc)] .ending)
    ∨ (Acknowledges node message ∧ ¬ block.FinishedBy data.length message ∧ next.Admissible
      ∧ ∃ notes, download.hear state message
          = .proceed notes ((next.segments node data).map .ok) (underway crc data next))
    ∨ (Acknowledges node message ∧ ¬ block.FinishedBy data.length message
      ∧ ¬ next.Admissible ∧ ∃ notes final failure, download.hear state message
          = .finish notes [.ok (refusal node index subindex)] final (.error failure))
    ∨ (¬ Acknowledges node message ∧ ∃ notes failure,
        download.hear state message = .finish notes [] state (.error failure))
    ∨ (¬ Acknowledges node message ∧ ∃ notes,
        download.hear state message = .ignore notes) := by
  intro download state next
  obtain ⟨silent, ignores⟩ | ⟨payload, body, said, reacts⟩ := download.hear_cases state message
  · have silentNode : message.said? node = none := silent
    exact .inr (.inr (.inr (.inr ⟨by simp [Acknowledges, silentNode], ignores⟩)))
  · have saidNode : message.said? node = some (ServerCommand.ofByte payload.command) := said
    rw [reacts]
    cases command : ServerCommand.ofByte payload.command with
    | blockDownload flag stage =>
        cases stage with
        | acknowledged =>
            rw [command] at saidNode
            have acknowledges : Acknowledges node message := ⟨flag, saidNode⟩
            have asked : next.size = payload.nextBlockSize.toNat := by
              simp only [next, Block.next, Message.octets_of_body body]
              rfl
            have reply := @react_acknowledged ε budget offerCrc crc node index subindex data
              nodeFits block aligned message payload flag body command
            by_cases finished : block.FinishedBy data.length message
            · exact .inl ⟨acknowledges, finished, reply.1 finished⟩
            · obtain ⟨notes, sends⟩ := reply.2 finished
              rw [sends]
              obtain ⟨admissible, proceeds⟩ | ⟨inadmissible, refuses⟩ :=
                sendBlock_cases index subindex data crc nodeFits asked notes
              · exact .inr (.inl ⟨acknowledges, finished, admissible, _, proceeds⟩)
              · exact .inr (.inr (.inl ⟨acknowledges, finished, inadmissible, refuses⟩))
        | _ => simp [download, state, underway, blockDownload, command, Acknowledges, saidNode]
    | _ =>
        simp [download, state, underway, blockDownload, command, Reaction.aborted,
          Acknowledges, saidNode]

theorem hear_ending (message : Message) :
    let download : Transfer ε BlockDownload Unit :=
      blockDownload budget offerCrc node index subindex data
    (∃ notes result, download.hear .ending message = .finish notes [] .ending result)
    ∨ ∃ notes, download.hear .ending message = .ignore notes := by
  intro download
  obtain ⟨_, ignores⟩ | ⟨payload, _, _, reacts⟩ := download.hear_cases .ending message
  · exact .inr ignores
  · rw [reacts]
    cases command : ServerCommand.ofByte payload.command with
    | blockDownload flag stage =>
        cases stage <;> simp [download, blockDownload, command]
    | _ => simp [download, blockDownload, command, Reaction.aborted]

end Download

end CanOpen.Sdo
