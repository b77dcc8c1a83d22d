import CanOpen.Proofs.BlockBudget

/-!
# Block downloads with a node that cooperates

A node cooperates if it grants the download, confirms at least one segment of every block
and asks for blocks that there can be, and at last confirms the end, with fewer messages
in between than the budget allows.  With such a node a download succeeds.  It takes no
more acknowledgements than there are segments, since each confirms one of those left.
-/

set_option autoImplicit false

namespace CanOpen.Sdo

/-- Whether a list of replies leads from a stage to the one that is awaited there, with
fewer than the budget before it, and then to others. -/
def Stage.Reaches (node : UInt8) (budget : Nat) (stage : Stage) (replies : List Message)
    (reply : Message) (others : List Message) : Prop :=
  ∃ ignored, replies = ignored ++ reply :: others ∧ ignored.length < budget
    ∧ (∀ message ∈ ignored, stage.Disregards node message) ∧ stage.Awaits node reply

theorem Stage.Reaches.awaits {node : UInt8} {budget : Nat} {stage : Stage}
    {replies others : List Message} {reply : Message}
    (reaches : stage.Reaches node budget replies reply others) : stage.Awaits node reply := by
  obtain ⟨_, _, _, _, awaited⟩ := reaches
  exact awaited

/-- The replies of a node that cooperates, from a block on. -/
inductive ConfirmsBlocks (node : UInt8) (length budget : Nat) : Block → List Message → Prop
  | last {block : Block} {replies others : List Message} {ack reply : Message}
      (reaches : (Stage.sending block).Reaches node budget replies ack others)
      (finished : block.FinishedBy length ack)
      (ends : Stage.ending.Reaches node budget others reply []) :
      ConfirmsBlocks node length budget block replies
  | more {block : Block} {replies others : List Message} {ack : Message}
      (reaches : (Stage.sending block).Reaches node budget replies ack others)
      (fruitful : ¬ Barren ack) (unfinished : ¬ block.FinishedBy length ack)
      (admissible : (block.next length ack).Admissible)
      (later : ConfirmsBlocks node length budget (block.next length ack) others) :
      ConfirmsBlocks node length budget block replies

/-- Whether a list of replies is that of a node that cooperates. -/
def Cooperates (node : UInt8) (length budget : Nat) (replies : List Message) : Prop :=
  ∃ grant others, Stage.opening.Reaches node budget replies grant others
    ∧ (Block.first grant).Admissible
    ∧ ConfirmsBlocks node length budget (Block.first grant) others

variable {ε : Type} {node : UInt8} {index : UInt16} {subindex : UInt8} {data : List UInt8}
  {budget : Nat} {replies : List Message}

/-! ## Acknowledgements -/

theorem ConfirmsBlocks.length_acceptedAcks_le {length : Nat} {block : Block}
    (confirms : ConfirmsBlocks node length budget block replies) (aligned : block.Aligned length)
    (admissible : block.Admissible) :
    (acceptedAcks node length block replies).length ≤ block.segmentsLeft length := by
  induction confirms with
  | last reaches finished ends =>
      obtain ⟨ignored, rfl, _, disregarded, acknowledges⟩ := reaches
      rw [acceptedAcks_append_of_not_acknowledges fun message member =>
        (disregarded message member).1, acceptedAcks_of_last acknowledges (.inl finished)]
      exact Nat.le_max_left 1 _
  | more reaches fruitful unfinished nextAdmissible later inductionHypothesis =>
      obtain ⟨ignored, rfl, _, disregarded, acknowledges⟩ := reaches
      have fewer := aligned.segmentsLeft_next unfinished
      have some := Block.confirmed_pos admissible fruitful length
      have rest := inductionHypothesis (aligned.next unfinished) nextAdmissible
      rw [acceptedAcks_append_of_not_acknowledges fun message member =>
        (disregarded message member).1,
        acceptedAcks_of_more acknowledges unfinished nextAdmissible, List.length_cons]
      omega

theorem Cooperates.length_tail_le {length : Nat}
    (cooperates : Cooperates node length budget replies) :
    (acceptedReplies node length replies).tail.length ≤ max 1 ((length + 6) / 7) := by
  obtain ⟨grant, others, ⟨ignored, rfl, _, disregarded, opens⟩, admissible, confirms⟩ :=
    cooperates
  rw [acceptedReplies_append_of_not_opens fun message member => (disregarded message member).1,
    acceptedReplies_of_admissible opens admissible, List.tail_cons]
  exact confirms.length_acceptedAcks_le (Block.aligned_first length grant) admissible

/-! ## Success -/

open Transport Transfer

variable {σ : Type} [Transport σ ε] {transport : σ}

/-- Whether a transfer with its whole budget goes on from a state to receive just some
replies and succeed. -/
def Transfer.Completes {S : Type} (transfer : Transfer ε S Unit) (state : S)
    (replies : List Message) (transport : σ) : Prop :=
  (transfer.await state transfer.budget transport).answer.result = .ok ()
    ∧ receivedIn (transfer.await state transfer.budget transport).journal = replies

section Reaches

variable {offerCrc : Bool} {stage : Stage} {reply : Message} (crc : Bool)

theorem Stage.Reaches.moves {others : List Message} {notes : List (Note ε)}
    {requests : List Message} {next : BlockDownload}
    (reaches : stage.Reaches node budget replies reply others)
    (follows : Follows replies transport) :
    let download : Transfer ε BlockDownload Unit :=
      blockDownload budget offerCrc node index subindex data
    download.hear (stage.state crc data) reply = .proceed notes (requests.map .ok) next →
    (∀ request ∈ requests, request.WellFormed) →
    ∃ rest : σ, Follows others rest
      ∧ (download.Completes next others rest →
        download.Completes (stage.state crc data) replies transport) := by
  intro download heard wellFormed
  obtain ⟨ignored, rfl, few, disregarded, _⟩ := reaches
  obtain ⟨rest, later, answer, received⟩ := Follows.await_next
    (fun message member => hear_disregarded (disregarded message member)) follows few heard
    wellFormed
  refine ⟨rest, later, ?_⟩
  rintro ⟨succeeds, receivedLater⟩
  constructor
  · rw [← succeeds]
    exact congrArg Ending.result answer
  · rw [← receivedLater]
    exact received

theorem Stage.Reaches.completes {next : BlockDownload}
    (reaches : stage.Reaches node budget replies reply [])
    (follows : Follows replies transport) :
    let download : Transfer ε BlockDownload Unit :=
      blockDownload budget offerCrc node index subindex data
    download.hear (stage.state crc data) reply = .finish [] [] next (.ok ()) →
    download.Completes (stage.state crc data) replies transport := by
  intro download heard
  obtain ⟨ignored, rfl, few, disregarded, _⟩ := reaches
  obtain ⟨answer, received⟩ := Follows.await_last
    (fun message member => hear_disregarded (disregarded message member)) follows few heard
  exact ⟨congrArg Ending.result answer, received⟩

end Reaches

theorem ConfirmsBlocks.completes (nodeFits : node.toNat ≤ 127) {offerCrc : Bool} (crc : Bool)
    {block : Block} (aligned : block.Aligned data.length)
    (confirms : ConfirmsBlocks node data.length budget block replies)
    (follows : Follows replies transport) :
    let download : Transfer ε BlockDownload Unit :=
      blockDownload budget offerCrc node index subindex data
    download.Completes (underway crc data block) replies transport := by
  intro download
  -- The transport left by one turn follows what the rest of the replies is.
  induction confirms generalizing transport with
  | last reaches finished ends =>
      obtain ⟨rest, later, enough⟩ := reaches.moves crc follows
        (hear_completed nodeFits aligned reaches.awaits finished)
        (List.forall_mem_singleton.2 (Message.wellFormed_request nodeFits _))
      exact enough (ends.completes crc later (hear_ended ends.awaits))
  | @more block _ _ ack reaches fruitful unfinished admissible more inductionHypothesis =>
      obtain ⟨notes, heard⟩ := hear_resumed nodeFits aligned reaches.awaits unfinished admissible
      obtain ⟨rest, later, enough⟩ := reaches.moves crc follows heard
        ((block.next data.length ack).wellFormed_of_mem_segments nodeFits)
      exact enough (inductionHypothesis (aligned.next unfinished) later)

theorem Cooperates.completes (nodeFits : node.toNat ≤ 127) {offerCrc : Bool}
    (cooperates : Cooperates node data.length budget replies)
    (follows : Follows replies transport) :
    let download : Transfer ε BlockDownload Unit :=
      blockDownload budget offerCrc node index subindex data
    download.Completes .opening replies transport := by
  intro download
  obtain ⟨grant, others, reaches, admissible, confirms⟩ := cooperates
  obtain ⟨crc, notes, heard⟩ := hear_granted nodeFits reaches.awaits admissible
  obtain ⟨rest, later, enough⟩ := reaches.moves crc follows heard
    ((Block.first grant).wellFormed_of_mem_segments nodeFits)
  exact enough (confirms.completes nodeFits crc (Block.aligned_first _ _) later)

/-- With a node that cooperates, over a transport that does not fail, a download takes in
all that the node replies and succeeds, and it answers no more acknowledgements than the
data has segments. -/
theorem blockDownload_completes (config : Config) (transport : σ) (index : UInt16)
    (subindex : UInt8) (nodeFits : node.toNat ≤ 127) (dataFits : data.length ≤ 0xFFFFFFFF)
    (cooperates : Cooperates node data.length config.transferRounds replies)
    (follows : Follows replies transport) :
    let run := Call.run config transport (.blockDownload node index subindex data)
    run.answer.result = .ok .done
      ∧ receivedIn run.journal = replies
      ∧ (answered run.journal).map Turn.heard = acceptedReplies node data.length replies
      ∧ (acceptedReplies node data.length replies).tail.length
        ≤ max 1 ((data.length + 6) / 7) := by
  intro run
  let download : Transfer ε BlockDownload Unit :=
    blockDownload config.transferRounds config.blockCrc node index subindex data
  obtain ⟨request, built, wellFormed⟩ := request_blockDownload index subindex nodeFits dataFits
  obtain ⟨opened, following, sameAnswer, sameReceived⟩ := follows.run download built wellFormed
  obtain ⟨succeeds, received⟩ : download.Completes .opening replies opened :=
    cooperates.completes nodeFits following
  have all : receivedIn run.journal = replies := sameReceived.trans received
  obtain ⟨_, _, _, _, counted, _⟩ :=
    blockTurns_run config.transferRounds config.blockCrc nodeFits built transport
  refine ⟨?_, all, ?_, cooperates.length_tail_le⟩
  · apply map_done_eq_ok_iff.2
    rw [← succeeds]
    exact congrArg Ending.result sameAnswer
  · rw [← all]
    exact counted

/-- A node that repeats its grant, confirms one segment of two, says something unknown,
confirms more segments than there are and repeats that once the end is announced. -/
theorem blockDownload_completes_resuming :
    let data : List UInt8 := [1, 2, 3, 4, 5, 6, 7, 8, 9, 10, 11, 12, 13, 14, 15, 16]
    let replies : List (List UInt8) :=
      [[0xA1], [0xA4, 0x00, 0x20, 1, 2], [0xA4, 0x00, 0x20, 1, 2], [0xA2, 1, 3], [0xE0],
        [0xA2, 9, 0], [0xA2, 9, 0], [0xA1]]
    let run := Call.run { transferRounds := 2 } (PlainLink.replaying 5 replies)
      (.blockDownload 5 0x2000 1 data)
    run.answer.result = .ok .done ∧ (receivedIn run.journal).length = 8 := by
  intro data replies run
  have nodeFits : (5 : UInt8).toNat ≤ 127 := by decide
  have dataFits : data.length ≤ 0xFFFFFFFF := by decide
  have cooperates : Cooperates 5 data.length 2 (replies.map (Message.reply 5)) := by
    have ends : Stage.ending.Reaches 5 2
        ([[0xA2, 9, 0], [0xA1]].map (Message.reply 5)) (Message.reply 5 [0xA1]) [] :=
      ⟨[Message.reply 5 [0xA2, 9, 0]], rfl, by decide, by decide, by decide⟩
    have finishes : ConfirmsBlocks 5 data.length 2 ⟨7, 3⟩
        ([[0xE0], [0xA2, 9, 0], [0xA2, 9, 0], [0xA1]].map (Message.reply 5)) :=
      .last ⟨[Message.reply 5 [0xE0]], rfl, by decide, by decide, by decide⟩ (by decide) ends
    have next : Block.next ⟨0, 2⟩ data.length (Message.reply 5 [0xA2, 1, 3]) = ⟨7, 3⟩ := by
      decide
    have resumes : ConfirmsBlocks 5 data.length 2 ⟨0, 2⟩
        ((replies.drop 2).map (Message.reply 5)) :=
      .more ⟨[Message.reply 5 [0xA4, 0x00, 0x20, 1, 2]], rfl, by decide, by decide, by decide⟩
        (by decide) (by decide) (by decide) (next ▸ finishes)
    exact ⟨Message.reply 5 [0xA4, 0x00, 0x20, 1, 2], _,
      ⟨[Message.reply 5 [0xA1]], rfl, by decide, by decide, by decide⟩, by decide, resumes⟩
  have follows := PlainLink.follows_of_holds (PlainLink.holds_replaying 5 replies)
  obtain ⟨succeeds, received, _⟩ :=
    blockDownload_completes { transferRounds := 2 } (PlainLink.replaying 5 replies) 0x2000 1
      nodeFits dataFits cooperates follows
  exact ⟨succeeds, congrArg List.length received⟩

end CanOpen.Sdo
