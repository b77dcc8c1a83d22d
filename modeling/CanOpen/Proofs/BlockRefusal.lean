import CanOpen.Proofs.BlockSeries
import CanOpen.Proofs.Reactions

/-!
# Block sizes that are refused

A download refuses to send a block of a size that there is not.  Which reply makes it do so,
if any, is a function of the messages received: the grant, or the acknowledgement of a block
that it does not finish.
-/

set_option autoImplicit false

namespace CanOpen.Sdo

/-- Among replies of which the first asks for a block, the one that asks for a block that
there cannot be.  An acknowledgement that confirms the last byte asks for none. -/
def offenderFrom (length : Nat) : Block → List Message → Option Message
  | _, [] => none
  | block, reply :: others =>
      if block.Admissible then
        match others with
        | [] => none
        | ack :: _ =>
            if block.FinishedBy length ack then none
            else offenderFrom length (block.next length ack) others
      else
        some reply

/-- Of the messages received, the reply that counts and asks for a block that there cannot
be. -/
def offender (node : UInt8) (length : Nat) (heard : List Message) : Option Message :=
  match acceptedReplies node length heard with
  | [] => none
  | grant :: acks => offenderFrom length (Block.first grant) (grant :: acks)

variable {node : UInt8} {index : UInt16} {subindex : UInt8} {data : List UInt8}

theorem not_asks_refusal : ¬ Asks node (refusal node index subindex) := by
  rintro ⟨octets, same, goesOn⟩
  have written := congrArg Message.octets same
  rw [Message.octets_request, refusal, Message.octets_request] at written
  exact goesOn (by rw [← written]; rfl)

theorem refusal_not_mem_segments {block : Block} (admissible : block.Admissible) :
    refusal node index subindex ∉ block.segments node data := fun member =>
  not_asks_refusal (asks_segment data admissible member)

theorem refusal_ne_endMessage (crc : Bool) :
    refusal node index subindex ≠ endMessage node data crc := fun same =>
  not_asks_refusal (same ▸ asks_endMessage data crc)

/-- A download refuses a size exactly in answer to the offender. -/
theorem BlockSeries.offenderFrom_eq_some_iff {crc : Bool} {block : Block} {turns : List Turn}
    {blocks : List Block} {closing : Closing}
    (series : BlockSeries node index subindex data crc block turns blocks closing)
    (reply : Message) :
    offenderFrom data.length block (turns.map Turn.heard) = some reply
      ↔ ⟨reply, [refusal node index subindex]⟩ ∈ turns := by
  have sends {block : Block} (admissible : block.Admissible) (heard : Message) :
      (⟨reply, [refusal node index subindex]⟩ : Turn) ≠ ⟨heard, block.segments node data⟩ := by
    intro same
    have offered : [refusal node index subindex] = block.segments node data :=
      congrArg Turn.offered same
    have member : refusal node index subindex ∈ block.segments node data := by
      rw [← offered]
      exact List.mem_singleton_self _
    exact refusal_not_mem_segments admissible member
  induction series with
  | refused heard inadmissible => simp [offenderFrom, inadmissible, eq_comm]
  | @unfinished block turn admissible begun =>
      have quiet : (⟨reply, [refusal node index subindex]⟩ : Turn) ≠ turn := by
        rintro rfl
        exact refusal_not_mem_segments admissible (begun.subset (List.mem_singleton_self _))
      simp [offenderFrom, admissible, quiet]
  | ended heard admissible acknowledges finished =>
      simp [offenderFrom, admissible, finished, sends admissible, refusal_ne_endMessage]
  | resumed heard admissible acknowledges unfinished later inductionHypothesis =>
      simpa [offenderFrom, admissible, unfinished, sends admissible] using inductionHypothesis

theorem BlockTurns.offender_eq_some_iff {turns : List Turn} {blocks : List Block}
    {closing : Closing} {heard : List Message}
    (download : BlockTurns node index subindex data turns blocks closing)
    (counted : turns.map Turn.heard = acceptedReplies node data.length heard) (reply : Message) :
    offender node data.length heard = some reply
      ↔ ⟨reply, [refusal node index subindex]⟩ ∈ turns := by
  rw [offender, ← counted]
  cases download with
  | ungranted => simp
  | granted opened series => exact series.offenderFrom_eq_some_iff reply

/-! ## What the offender asks for -/

theorem subset_acceptedAcks (node : UInt8) (length : Nat) (block : Block)
    (heard : List Message) :
    ∀ ack ∈ acceptedAcks node length block heard, Acknowledges node ack ∧ ack ∈ heard := by
  induction heard generalizing block with
  | nil => exact List.forall_mem_nil _
  | cons message others inductionHypothesis =>
      have further (block : Block) : ∀ ack ∈ acceptedAcks node length block others,
          Acknowledges node ack ∧ ack ∈ message :: others := fun ack member =>
        (inductionHypothesis block ack member).imp_right (List.mem_cons_of_mem message)
      rw [acceptedAcks]
      split
      next acknowledges =>
        have here : Acknowledges node message ∧ message ∈ message :: others :=
          ⟨acknowledges, List.mem_cons_self⟩
        split
        · exact List.forall_mem_singleton.2 here
        · exact List.forall_mem_cons.2 ⟨here, further _⟩
      · exact further block

theorem acceptedReplies_cases (node : UInt8) (length : Nat) (heard : List Message) :
    acceptedReplies node length heard = []
    ∨ ∃ grant acks, acceptedReplies node length heard = grant :: acks
      ∧ Opens node grant ∧ grant ∈ heard
      ∧ ∀ ack ∈ acks, Acknowledges node ack ∧ ack ∈ heard := by
  induction heard with
  | nil => exact .inl rfl
  | cons message others inductionHypothesis =>
      by_cases opens : Opens node message
      · right
        by_cases admissible : (Block.first message).Admissible
        · refine ⟨message, _, acceptedReplies_of_admissible opens admissible others, opens,
            List.mem_cons_self, fun ack member => ?_⟩
          exact (subset_acceptedAcks node length _ others ack member).imp_right
            (List.mem_cons_of_mem message)
        · exact ⟨message, [], acceptedReplies_of_inadmissible opens admissible others, opens,
            List.mem_cons_self, List.forall_mem_nil _⟩
      · rw [acceptedReplies_of_not_opens opens]
        obtain none | ⟨grant, acks, counted, opened, inside, acknowledge⟩ := inductionHypothesis
        · exact .inl none
        · exact .inr ⟨grant, acks, counted, opened, List.mem_cons_of_mem message inside,
            fun ack member => (acknowledge ack member).imp_right (List.mem_cons_of_mem message)⟩

theorem offenderFrom_cases {length : Nat} {block : Block} {reply offends : Message}
    {others : List Message}
    (found : offenderFrom length block (reply :: others) = some offends) :
    (offends = reply ∧ ¬ block.Admissible)
    ∨ (offends ∈ others
      ∧ ∀ (block : Block) (length : Nat), ¬ (block.next length offends).Admissible) := by
  induction others generalizing block reply with
  | nil =>
      by_cases admissible : block.Admissible
      · simp [offenderFrom, admissible] at found
      · simp only [offenderFrom, admissible, if_false, Option.some.injEq] at found
        exact .inl ⟨found.symm, admissible⟩
  | cons ack later inductionHypothesis =>
      by_cases admissible : block.Admissible
      · right
        rw [offenderFrom, if_pos admissible] at found
        split at found
        · cases found
        -- The size that an acknowledgement asks for is not a matter of the block before it.
        · obtain ⟨rfl, inadmissible⟩ | ⟨member, misasks⟩ := inductionHypothesis found
          · exact ⟨List.mem_cons_self, fun _ _ => inadmissible⟩
          · exact ⟨List.mem_cons_of_mem ack member, misasks⟩
      · rw [offenderFrom, if_neg admissible, Option.some.injEq] at found
        exact .inl ⟨found.symm, admissible⟩

/-- Whether a grant or an acknowledgement asks for a block of a size that there is not. -/
def Misasks (node : UInt8) (reply : Message) : Prop :=
  (Opens node reply ∧ ¬ (Block.first reply).Admissible)
  ∨ (Acknowledges node reply
    ∧ ∀ (block : Block) (length : Nat), ¬ (block.next length reply).Admissible)

theorem misasks_of_offender {length : Nat} {heard : List Message} {reply : Message}
    (offends : offender node length heard = some reply) :
    reply ∈ heard ∧ Misasks node reply := by
  rw [offender] at offends
  obtain none | ⟨grant, acks, counted, opens, inside, acknowledge⟩ :=
    acceptedReplies_cases node length heard
  · rw [none] at offends
    cases offends
  · rw [counted] at offends
    obtain ⟨rfl, inadmissible⟩ | ⟨member, misasks⟩ := offenderFrom_cases offends
    · exact ⟨inside, .inl ⟨opens, inadmissible⟩⟩
    · obtain ⟨acknowledges, inside⟩ := acknowledge reply member
      exact ⟨inside, .inr ⟨acknowledges, misasks⟩⟩

end CanOpen.Sdo
