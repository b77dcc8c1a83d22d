import CanOpen.Proofs.BlockFraming
import CanOpen.Proofs.WellFormed

/-!
# The stages of a block download

A download stands at one of three stages: it waits to be granted, for a block to be
acknowledged, or for its end to be confirmed.  At each there is one kind of reply that
moves it on, and all others but those that give it up are ignored.
-/

set_option autoImplicit false

namespace CanOpen.Sdo

inductive Stage where
  | opening
  | sending (block : Block)
  | ending
  deriving DecidableEq, Repr

def Ends (node : UInt8) (message : Message) : Prop :=
  ∃ crc, message.said? node = some (.blockDownload crc .ended)

instance (node : UInt8) (message : Message) : Decidable (Ends node message) :=
  inferInstanceAs (Decidable (∃ _ : Bool, _ = _))

namespace Stage

def state (crc : Bool) (data : List UInt8) : Stage → Transfer.BlockDownload
  | opening => .opening
  | sending block => underway crc data block
  | ending => .ending

/-- Whether a message is of the kind that moves a download on from here. -/
def Awaits (node : UInt8) : Stage → Message → Prop
  | opening, message => Opens node message
  | sending _, message => Acknowledges node message
  | ending, message => Ends node message

instance (node : UInt8) : (stage : Stage) → (message : Message) →
    Decidable (stage.Awaits node message)
  | opening, message => inferInstanceAs (Decidable (Opens node message))
  | sending _, message => inferInstanceAs (Decidable (Acknowledges node message))
  | ending, message => inferInstanceAs (Decidable (Ends node message))

/-- Whether a message neither moves a download on from here nor gives it up. -/
def Disregards (node : UInt8) (stage : Stage) (message : Message) : Prop :=
  ¬ stage.Awaits node message ∧ message.said? node ≠ some .abort

instance (node : UInt8) (stage : Stage) (message : Message) :
    Decidable (stage.Disregards node message) :=
  inferInstanceAs (Decidable (_ ∧ _))

end Stage

open Transfer

variable {ε : Type} {budget : Nat} {offerCrc crc : Bool} {node : UInt8} {index : UInt16}
  {subindex : UInt8} {data : List UInt8}

theorem request_blockDownload (index : UInt16) (subindex : UInt8) (nodeFits : node.toNat ≤ 127)
    (dataFits : data.length ≤ 0xFFFFFFFF) :
    ∃ request, Request.initiateBlockDownload node index subindex data.length offerCrc = .ok request
      ∧ request.WellFormed := by
  obtain ⟨request, built⟩ :=
    Request.initiateBlockDownload_eq_ok nodeFits index subindex dataFits offerCrc
  let draft : Message.Draft := .initiateBlockDownload node index subindex data.length offerCrc
  have drafted : draft.build = .ok request := built
  exact ⟨request, built, Message.wellFormed_of_build drafted⟩

theorem Block.wellFormed_of_mem_segments (nodeFits : node.toNat ≤ 127) {block : Block} :
    ∀ segment ∈ block.segments node data, segment.WellFormed := by
  intro segment member
  obtain ⟨place, _, rfl⟩ := List.mem_map.1 member
  exact Message.wellFormed_request nodeFits _

/-! ## One message -/

theorem hear_disregarded {stage : Stage} {message : Message}
    (disregarded : stage.Disregards node message) :
    let download : Transfer ε BlockDownload Unit :=
      blockDownload budget offerCrc node index subindex data
    ∃ notes, download.hear (stage.state crc data) message = .ignore notes := by
  intro download
  obtain ⟨foreign, unbroken⟩ := disregarded
  obtain ⟨_, ignores⟩ | ⟨payload, _, said, reacts⟩ :=
    download.hear_cases (stage.state crc data) message
  · exact ignores
  · have saidNode : message.said? node = some (ServerCommand.ofByte payload.command) := said
    rw [reacts]
    cases command : ServerCommand.ofByte payload.command with
    | abort =>
        rw [saidNode, command] at unbroken
        exact (unbroken rfl).elim
    | blockDownload flag answer =>
        rw [command] at saidNode
        -- Each stage awaits one of the three block replies; the other two are stale there.
        cases stage <;> cases answer <;>
          first
          | exact (foreign ⟨flag, saidNode⟩).elim
          | simp [download, blockDownload, Stage.state, underway, command]
    | _ => cases stage <;> simp [download, blockDownload, Stage.state, underway, command]

theorem hear_granted (nodeFits : node.toNat ≤ 127) {grant : Message}
    (opens : Opens node grant) (admissible : (Block.first grant).Admissible) :
    let download : Transfer ε BlockDownload Unit :=
      blockDownload budget offerCrc node index subindex data
    let block := Block.first grant
    ∃ crc notes, download.hear .opening grant
      = .proceed notes ((block.segments node data).map .ok) (underway crc data block) := by
  intro download block
  obtain ⟨crc, _, _, notes, proceeds⟩ | ⟨_, _, inadmissible, _⟩ | ⟨foreign, _⟩ | ⟨foreign, _⟩ :=
    hear_opening (ε := ε) nodeFits grant
  · exact ⟨crc, notes, proceeds⟩
  · exact (inadmissible admissible).elim
  · exact (foreign opens).elim
  · exact (foreign opens).elim

section Underway

variable (nodeFits : node.toNat ≤ 127) {block : Block} {ack : Message}
  (aligned : block.Aligned data.length) (acknowledges : Acknowledges node ack)
include nodeFits aligned acknowledges

theorem hear_resumed (unfinished : ¬ block.FinishedBy data.length ack)
    (admissible : (block.next data.length ack).Admissible) :
    let download : Transfer ε BlockDownload Unit :=
      blockDownload budget offerCrc node index subindex data
    let next := block.next data.length ack
    ∃ notes, download.hear (underway crc data block) ack
      = .proceed notes ((next.segments node data).map .ok) (underway crc data next) := by
  intro download next
  obtain ⟨_, finished, _⟩ | ⟨_, _, _, proceeds⟩ | ⟨_, _, inadmissible, _⟩ | ⟨foreign, _⟩
      | ⟨foreign, _⟩ := hear_underway (ε := ε) nodeFits aligned ack
  · exact (unfinished finished).elim
  · exact proceeds
  · exact (inadmissible admissible).elim
  · exact (foreign acknowledges).elim
  · exact (foreign acknowledges).elim

theorem hear_completed (finished : block.FinishedBy data.length ack) :
    let download : Transfer ε BlockDownload Unit :=
      blockDownload budget offerCrc node index subindex data
    download.hear (underway crc data block) ack
      = .proceed [] ([endMessage node data crc].map .ok) .ending := by
  intro download
  obtain ⟨_, _, proceeds⟩ | ⟨_, unfinished, _⟩ | ⟨_, unfinished, _⟩ | ⟨foreign, _⟩
      | ⟨foreign, _⟩ := hear_underway (ε := ε) nodeFits aligned ack
  · exact proceeds
  · exact (unfinished finished).elim
  · exact (unfinished finished).elim
  · exact (foreign acknowledges).elim
  · exact (foreign acknowledges).elim

end Underway

theorem hear_ended {reply : Message} (ends : Ends node reply) :
    let download : Transfer ε BlockDownload Unit :=
      blockDownload budget offerCrc node index subindex data
    download.hear .ending reply = .finish [] [] .ending (.ok ()) := by
  intro download
  obtain ⟨flag, saysEnd⟩ := ends
  obtain ⟨silent, _⟩ | ⟨payload, _, said, reacts⟩ := download.hear_cases .ending reply
  · have silentNode : reply.said? node = none := silent
    rw [silentNode] at saysEnd
    cases saysEnd
  · have saidNode : reply.said? node = some (ServerCommand.ofByte payload.command) := said
    rw [saidNode, Option.some.injEq] at saysEnd
    rw [reacts]
    simp only [download, blockDownload, saysEnd]

end CanOpen.Sdo
