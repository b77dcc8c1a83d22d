import CanOpen.Proofs.BlockSeries

/-!
# What a block download delivers

A node keeps the segments that it acknowledges.  Laid end to end, the segments kept
of all blocks are the data and the spare bytes of its last segment, no matter which
segments were sent more than once and how the sizes of the blocks changed.
-/

set_option autoImplicit false

namespace CanOpen.Sdo

variable {ε : Type} {node : UInt8} {index : UInt16} {subindex : UInt8} {data : List UInt8}

/-- The messages of every turn that the message heard next confirms, by the number in
the byte behind its first. -/
def confirmedFrames : List Turn → List Message
  | turn :: next :: later =>
      turn.offered.take (next.heard.octets.get 1).toNat ++ confirmedFrames (next :: later)
  | _ => []

theorem confirmedFrames_cons (turn next : Turn) (later : List Turn) :
    confirmedFrames (turn :: next :: later)
      = turn.offered.take (next.heard.octets.get 1).toNat ++ confirmedFrames (next :: later) := rfl

theorem confirmedFrames_singleton (turn : Turn) : confirmedFrames [turn] = [] := rfl

/-! ## Segments laid end to end -/

/-- A chunk in the seven bytes that a segment has. -/
def paddedAt (data : List UInt8) (position : Nat) : List UInt8 :=
  chunkAt data position ++ List.replicate (7 - (chunkAt data position).length) 0

theorem flatMap_paddedAt_of_full {bytes : List UInt8} {count : Nat}
    (full : 7 * count ≤ bytes.length) :
    (List.range count).flatMap (paddedAt bytes) = bytes.take (7 * count) := by
  rw [← flatMap_chunkAt]
  refine congrArg List.flatten (List.map_congr_left fun position member => ?_)
  have before := List.mem_range.1 member
  have whole : (chunkAt bytes position).length = 7 := by
    rw [chunkAt, List.length_take, List.length_drop]
    omega
  rw [paddedAt, whole]
  simp

/-- Only the last of the segments that hold some bytes may have bytes to spare. -/
theorem flatMap_paddedAt_of_last {bytes : List UInt8} {count : Nat}
    (full : 7 * count ≤ bytes.length) (reaches : bytes.length ≤ 7 * (count + 1)) :
    (List.range (count + 1)).flatMap (paddedAt bytes)
      = bytes ++ List.replicate (7 * (count + 1) - bytes.length) 0 := by
  have lastChunk : chunkAt bytes count = bytes.drop (7 * count) := by
    rw [chunkAt, List.take_of_length_le]
    rw [List.length_drop]
    omega
  have spare : 7 - (bytes.drop (7 * count)).length = 7 * (count + 1) - bytes.length := by
    rw [List.length_drop]
    omega
  rw [List.range_succ, List.flatMap_append, flatMap_paddedAt_of_full full,
    List.flatMap_singleton, paddedAt, lastChunk, spare, ← List.append_assoc,
    List.take_append_drop]

namespace Block

/-- A node keeps no more segments of a block than there are. -/
theorem take_confirmed (node : UInt8) (data : List UInt8) (block : Block) (ack : Message) :
    (block.segments node data).take (ack.octets.get 1).toNat
      = (block.segments node data).take (block.confirmed data.length ack) := by
  rw [List.take_eq_take_min, length_segments, confirmed]

theorem flatMap_tail_take (node : UInt8) (data : List UInt8) {block : Block} {count : Nat}
    (some : count ≤ block.count data.length) :
    ((block.segments node data).take count).flatMap Message.tail
      = (List.range count).flatMap (paddedAt (data.drop block.start)) := by
  rw [segments, ← List.map_take, List.take_range, Nat.min_eq_left some, List.flatMap_map]
  exact congrArg List.flatten
    (List.map_congr_left fun place _ => tail_segment node data block place)

end Block

namespace BlockSeries

variable {crc flag : Bool} {block : Block} {turns : List Turn} {blocks : List Block}

/-- From the block on that is asked for, what is confirmed is the rest of the data. -/
theorem confirmed_eq
    (series : BlockSeries node index subindex data crc block turns blocks (.ended flag))
    (aligned : block.Aligned data.length) (notEmpty : 0 < data.length) :
    (confirmedFrames turns).flatMap Message.tail
      = data.drop block.start ++ List.replicate ((7 - data.length % 7) % 7) 0 := by
  generalize closed : Closing.ended flag = closing at series
  induction series with
  | refused heard inadmissible => cases closed
  | unfinished admissible begun => cases closed
  | @ended block ack heard admissible acknowledges finished =>
      obtain ⟨all, reaches⟩ := finished
      obtain ⟨⟨segment, start⟩, inside⟩ := aligned
      obtain ⟨before, count⟩ : ∃ before, block.count data.length = before + 1 :=
        ⟨_, (Nat.sub_add_cancel (Block.count_pos data.length admissible)).symm⟩
      have left : (data.drop block.start).length = data.length - block.start :=
        List.length_drop
      rw [count] at all reaches
      rw [Block.count] at count
      have full : 7 * before ≤ (data.drop block.start).length := by omega
      have enough : (data.drop block.start).length ≤ 7 * (before + 1) := by omega
      have spare : 7 * (before + 1) - (data.drop block.start).length
          = (7 - data.length % 7) % 7 := by omega
      rw [confirmedFrames_cons, confirmedFrames_singleton, List.append_nil,
        Block.take_confirmed, all, Block.flatMap_tail_take node data (Nat.le_of_eq count.symm),
        flatMap_paddedAt_of_last full enough, spare]
  | @resumed block ack _ _ _ _ heard admissible acknowledges unfinished later
      inductionHypothesis =>
      have next := aligned.next unfinished
      have rest := inductionHypothesis next closed
      have full : 7 * block.confirmed data.length ack ≤ (data.drop block.start).length := by
        have inside : block.start + 7 * block.confirmed data.length ack < max 1 data.length :=
          next.2
        rw [List.length_drop]
        omega
      have few : block.confirmed data.length ack ≤ block.count data.length :=
        Nat.min_le_right _ _
      -- What is kept of this block ends where the next one starts.
      rw [confirmedFrames_cons, List.flatMap_append, rest, Block.take_confirmed,
        Block.flatMap_tail_take node data few, flatMap_paddedAt_of_full full,
        ← List.append_assoc, Block.next, ← List.drop_drop, List.take_append_drop]

/-- A turn sends a block, if perhaps not to its end, or closes the series. -/
theorem offered_cases {closing : Closing}
    (series : BlockSeries node index subindex data crc block turns blocks closing)
    {place : Nat} {turn : Turn} (here : turns[place]? = some turn) :
    (∃ sent ∈ blocks, turn.offered <+: sent.segments node data)
    ∨ place + 1 = turns.length ∧ turn.offered = closing.frames node index subindex data := by
  induction series generalizing place with
  | refused heard inadmissible =>
      cases place with
      | zero =>
          cases here
          exact .inr ⟨rfl, rfl⟩
      | succ place => cases here
  | @unfinished block turn admissible begun =>
      cases place with
      | zero =>
          cases here
          exact .inl ⟨block, List.mem_singleton_self block, begun⟩
      | succ place => cases here
  | @ended block ack heard admissible acknowledges finished =>
      match place with
      | 0 =>
          cases here
          exact .inl ⟨block, List.mem_singleton_self block, List.prefix_refl _⟩
      | 1 =>
          cases here
          exact .inr ⟨rfl, rfl⟩
      | place + 2 => cases here
  | @resumed block _ _ _ blocks _ heard admissible acknowledges unfinished later
      inductionHypothesis =>
      cases place with
      | zero =>
          cases here
          exact .inl ⟨block, List.mem_cons_self, List.prefix_refl _⟩
      | succ place =>
          rcases inductionHypothesis here with ⟨sent, member, begun⟩ | ⟨last, closes⟩
          · exact .inl ⟨sent, List.mem_cons_of_mem block member, begun⟩
          · exact .inr ⟨congrArg Nat.succ last, closes⟩

end BlockSeries

namespace BlockTurns

variable {turns : List Turn} {blocks : List Block}

theorem offered_cases {closing : Closing}
    (download : BlockTurns node index subindex data turns blocks closing) {place : Nat}
    {turn : Turn} (here : turns[place]? = some turn) :
    (∃ block ∈ blocks, turn.offered <+: block.segments node data)
    ∨ place + 1 = turns.length ∧ turn.offered = closing.frames node index subindex data := by
  cases download with
  | ungranted => cases here
  | granted opened series => exact series.offered_cases here

theorem opened_of_ended {flag : Bool}
    (download : BlockTurns node index subindex data turns blocks (.ended flag)) :
    ∃ grant, turns[0]? = some grant
      ∧ grant.heard.said? node = some (.blockDownload flag .opened) := by
  cases download with
  | @granted crc grant _ _ _ opened series =>
      obtain ⟨_, _, _, _, _, _, _, rfl⟩ := series.finished_of_ended
      exact ⟨grant, rfl, opened⟩

theorem split_of_ended {flag : Bool}
    (download : BlockTurns node index subindex data turns blocks (.ended flag)) :
    ∃ before ack, turns = before ++ [⟨ack, [endMessage node data flag]⟩]
      ∧ ∀ turn ∈ before, ∃ block : Block, turn.offered = block.segments node data := by
  cases download with
  | granted opened series =>
      obtain ⟨before, _, ack, split, whole, _⟩ := series.finished_of_ended
      refine ⟨before, ack, split, fun turn member => ?_⟩
      obtain ⟨block, _, offered⟩ := whole turn member
      exact ⟨block, offered⟩

theorem confirmed_eq {flag : Bool}
    (download : BlockTurns node index subindex data turns blocks (.ended flag))
    (notEmpty : 0 < data.length) :
    (confirmedFrames turns).flatMap Message.tail
      = data ++ List.replicate ((7 - data.length % 7) % 7) 0 := by
  cases download with
  | granted opened series =>
      exact series.confirmed_eq (Block.aligned_first _ _) notEmpty

end BlockTurns

/-! ## No data -/

/-- The segment that says that there is no data. -/
def emptySegment (node : UInt8) : Message :=
  .request node (Octets.ofList [(SegmentHeader.mk true 1).toByte])

theorem Block.segments_of_empty {block : Block} (admissible : block.Admissible) :
    block.segments node [] = [emptySegment node] := by
  have one : block.count ([] : List UInt8).length = 1 := by
    have positive := admissible.1
    rw [count, List.length_nil]
    omega
  rw [segments, one]
  simp [segment, header, chunkAt, emptySegment]

theorem ofByte_emptySegment (node : UInt8) :
    SegmentHeader.ofByte (emptySegment node).octets.first = ⟨true, 1⟩ := by
  rw [emptySegment, Message.first_request, SegmentHeader.ofByte_toByte (by decide)]

theorem tail_emptySegment (node : UInt8) :
    (emptySegment node).tail = List.replicate 7 0 :=
  Message.tail_request (Nat.zero_le 7)

/-! ## The end -/

theorem ofByte_endMessage (node : UInt8) (data : List UInt8) (crc : Bool) :
    ClientCommand.ofByte (endMessage node data crc).octets.first
      = .endBlockDownload (UInt8.ofNat ((7 - data.length % 7) % 7)) := by
  have inRange : (UInt8.ofNat ((7 - data.length % 7) % 7)).toNat ≤ 7 := by
    rw [UInt8.toNat_ofNat']
    omega
  rw [endMessage, Message.first_request]
  exact ClientCommand.ofByte_toByte_endBlockDownload inRange

theorem checksum_endMessage (node : UInt8) (data : List UInt8) (crc : Bool) :
    let octets := (endMessage node data crc).octets
    LittleEndian.word16 (octets.get 1) (octets.get 2)
      = if crc then Crc.checksum data else 0 := by
  simp [endMessage, LittleEndian.word16_bytes16]

/-- A block download that succeeds has delivered its data: of every block the node
keeps the segments that it acknowledges next, and these hold the data, all of it and
in order, and the spare bytes that the message behind the last block tells.  This
message is sent once and carries the checksum if the node asked for one.  Without any
data there is one empty segment in every block, however the download ends. -/
theorem blockDownload_delivers {σ : Type} [Transport σ ε] (config : Config) (transport : σ)
    {node : UInt8} (index : UInt16) (subindex : UInt8) {data : List UInt8}
    (nodeFits : node.toNat ≤ 127) (dataFits : data.length ≤ 0xFFFFFFFF) :
    let run := Call.run config transport (.blockDownload node index subindex data)
    let turns := answered run.journal
    let kept := (confirmedFrames turns).flatMap Message.tail
    (run.answer.result = .ok .done →
      ∃ (request : Message) (before : List Turn) (ack ending : Message) (spare : UInt8)
        (crc : Bool),
        turns = before ++ [⟨ack, [ending]⟩]
        ∧ (∀ turn ∈ before, ∃ block : Block, turn.offered = block.segments node data)
        ∧ sentIn run.journal = request :: (before.flatMap Turn.offered ++ [ending])
        ∧ (∃ grant, turns[0]? = some grant
            ∧ grant.heard.said? node = some (.blockDownload crc .opened))
        ∧ (∀ place turn, turns[place + 1]? = some turn → Acknowledges node turn.heard)
        ∧ ClientCommand.ofByte ending.octets.first = .endBlockDownload spare
        ∧ spare.toNat = (7 - data.length % 7) % 7
        ∧ LittleEndian.word16 (ending.octets.get 1) (ending.octets.get 2)
            = (if crc then Crc.checksum data else 0)
        ∧ (data ≠ [] → kept.take (kept.length - spare.toNat) = data))
    ∧ (data = [] → ∀ place turn, turns[place]? = some turn →
        (∃ segment, turn.offered = [segment]
          ∧ SegmentHeader.ofByte segment.octets.first = ⟨true, 1⟩
          ∧ segment.tail = List.replicate 7 0)
        ∨ place + 1 = turns.length
          ∧ ((∃ ending, turn.offered = [ending]
              ∧ ClientCommand.ofByte ending.octets.first = .endBlockDownload 0)
            ∨ turn.offered = [refusal node index subindex])) := by
  intro run turns kept
  obtain ⟨request, built⟩ :=
    Request.initiateBlockDownload_eq_ok nodeFits index subindex dataFits config.blockCrc
  obtain ⟨opening, blocks, closing, download, _, closes⟩ :=
    blockTurns_run config.transferRounds config.blockCrc nodeFits built transport
  have framed := download.framed
  refine ⟨fun succeeds => ?_, ?_⟩
  · have succeeded := map_done_eq_ok_iff.1 succeeds
    obtain ⟨crc, rfl⟩ := closes succeeded
    obtain ⟨before, ack, split, whole⟩ := download.split_of_ended
    have spare : (UInt8.ofNat ((7 - data.length % 7) % 7)).toNat = (7 - data.length % 7) % 7 := by
      rw [UInt8.toNat_ofNat']
      omega
    have sent : sentIn run.journal
        = request :: (before.flatMap Turn.offered ++ [endMessage node data crc]) := by
      refine (sentIn_run_of_ok (Transfer.blockDownload config.transferRounds config.blockCrc
        node index subindex data) built transport succeeded).trans ?_
      rw [opening, split]
      simp
    refine ⟨request, before, ack, endMessage node data crc, _, crc, split, whole, sent,
      download.opened_of_ended, framed.acknowledged, ofByte_endMessage node data crc, spare,
      checksum_endMessage node data crc, fun notEmpty => ?_⟩
    have delivered : kept = data ++ List.replicate ((7 - data.length % 7) % 7) 0 :=
      download.confirmed_eq (List.length_pos_iff.2 notEmpty)
    rw [delivered, spare]
    simp
  · rintro rfl place turn here
    have offers := offered_ne_nil_of_mem_answered (List.mem_of_getElem? here)
    rcases download.offered_cases here with ⟨block, member, begun⟩ | ⟨last, closed⟩
    · left
      rw [Block.segments_of_empty (framed.admissible block member)] at begun
      refine ⟨emptySegment node, ?_, ofByte_emptySegment node, tail_emptySegment node⟩
      rcases List.prefix_cons_iff.1 begun with none | ⟨rest, split, restPrefix⟩
      · exact absurd none offers
      · rw [split, List.prefix_nil.1 restPrefix]
    · right
      refine ⟨last, ?_⟩
      cases closing with
      | unclosed => exact absurd closed offers
      | ended crc => exact .inl ⟨endMessage node [] crc, closed, ofByte_endMessage node [] crc⟩
      | refused => exact .inr closed

/-- Blocks of two, three and one segments, two of them sent again in part. -/
theorem blockDownload_delivers_resent :
    let data : List UInt8 := [1, 2, 3, 4, 5, 6, 7, 8, 9, 10, 11, 12, 13, 14, 15, 16]
    let link := PlainLink.replaying 5
      [[0xA4, 0x00, 0x20, 1, 2], [0xA2, 1, 3], [0xA2, 1, 1], [0xA2, 9, 1], [0xA1]]
    let run := Call.run {} link (.blockDownload 5 0x2000 1 data)
    let kept := (confirmedFrames (answered run.journal)).flatMap Message.tail
    run.answer.result = .ok .done
      ∧ ∃ spare : UInt8, spare.toNat = 5 ∧ kept.take (kept.length - spare.toNat) = data := by
  intro data link run kept
  have nodeFits : (5 : UInt8).toNat ≤ 127 := by decide
  have dataFits : data.length ≤ 0xFFFFFFFF := by decide
  have succeeds : run.answer.result = .ok .done := eq_ok_of_toOption (by decide +kernel)
  obtain ⟨delivers, _⟩ := blockDownload_delivers {} link 0x2000 1 nodeFits dataFits
  obtain ⟨_, _, _, _, spare, _, _, _, _, _, _, _, count, _, delivered⟩ := delivers succeeds
  have five : (7 - data.length % 7) % 7 = 5 := by decide +kernel
  exact ⟨succeeds, spare, count.trans five, delivered (by decide)⟩

end CanOpen.Sdo
