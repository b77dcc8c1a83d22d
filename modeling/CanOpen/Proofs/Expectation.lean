import CanOpen.Proofs.BlockStages
import CanOpen.Proofs.Reactions

/-!
# What a call waits for

A call that has been requested waits for a reply of one kind at a time.  Which kind it is
follows from the messages received so far alone, and so does how many of them have come
since it last moved on.  `Transfer.Follows` says that a transfer keeps to this: it ignores
the messages that it does not wait for, and nothing but these.
-/

set_option autoImplicit false

namespace CanOpen.Sdo

variable {ε S α : Type}

def Stage.next (length : Nat) (message : Message) : Stage → Stage
  | opening => sending (Block.first message)
  | sending block =>
      if block.FinishedBy length message then ending else sending (block.next length message)
  | ending => ending

inductive Expectation where
  | nothing
  /-- Any service data reply. -/
  | settlement
  /-- The value of an object, in the reply that grants reading it. -/
  | value
  | uploadGrant
  | uploadSegment (toggle : Bool)
  | downloadGrant
  /-- The acknowledgement of a segment that was sent with a toggle. -/
  | acknowledgement (toggle : Bool)
  /-- The next reply to a block download of some length. -/
  | blockReply (length : Nat) (stage : Stage)
  deriving DecidableEq, Repr

namespace Expectation

/-- Whether a reply with a command is what is waited for. -/
def takes : Expectation → ServerCommand → Bool
  | settlement, _ => true
  | value, .initiateUpload _ _ _ | uploadGrant, .initiateUpload _ _ _ => true
  | uploadSegment toggle, .uploadSegment found _ _ => found == toggle
  | downloadGrant, .initiateDownloadAck => true
  | acknowledgement toggle, .downloadSegmentAck found => found == toggle
  | blockReply _ .opening, .blockDownload _ .opened => true
  | blockReply _ (.sending _), .blockDownload _ .acknowledged => true
  | blockReply _ .ending, .blockDownload _ .ended => true
  | _, _ => false

def Accepts (node : UInt8) (expectation : Expectation) (message : Message) : Prop :=
  (message.said? node).any expectation.takes = true

instance (node : UInt8) (expectation : Expectation) (message : Message) :
    Decidable (expectation.Accepts node message) :=
  inferInstanceAs (Decidable (_ = true))

/-- What is waited for once a message was accepted. -/
def next (message : Message) : Expectation → Expectation
  | uploadGrant => uploadSegment false
  | uploadSegment toggle => uploadSegment !toggle
  | downloadGrant => acknowledgement false
  | acknowledgement toggle => acknowledgement !toggle
  | blockReply length stage => blockReply length (stage.next length message)
  | expectation => expectation

theorem accepts_iff_of_said {node : UInt8} {expectation : Expectation} {message : Message}
    {command : ServerCommand} (said : message.said? node = some command) :
    expectation.Accepts node message ↔ expectation.takes command = true := by
  rw [Accepts, said]
  rfl

theorem not_accepts_of_said {node : UInt8} {expectation : Expectation} {message : Message}
    {command : ServerCommand} (said : message.said? node = some command)
    (foreign : expectation.takes command = false) : ¬ expectation.Accepts node message := by
  rw [accepts_iff_of_said said, foreign]
  exact Bool.false_ne_true

theorem not_accepts_of_unsaid {node : UInt8} (expectation : Expectation) {message : Message}
    (unsaid : message.said? node = none) : ¬ expectation.Accepts node message := by
  rw [Accepts, unsaid]
  exact nofun

end Expectation

/-- What is waited for, and the messages that have come since then. -/
@[ext]
structure Waiting where
  expectation : Expectation
  heard : List Message
  deriving DecidableEq, Repr

namespace Waiting

def hear (node : UInt8) (waiting : Waiting) (message : Message) : Waiting :=
  if waiting.expectation.Accepts node message then
    ⟨waiting.expectation.next message, []⟩
  else
    ⟨waiting.expectation, waiting.heard ++ [message]⟩

def after (node : UInt8) (waiting : Waiting) (messages : List Message) : Waiting :=
  messages.foldl (hear node) waiting

variable {node : UInt8} {waiting : Waiting} {message : Message}

theorem hear_of_accepts (accepts : waiting.expectation.Accepts node message) :
    waiting.hear node message = ⟨waiting.expectation.next message, []⟩ := by
  rw [hear, if_pos accepts]

theorem hear_of_not_accepts (foreign : ¬ waiting.expectation.Accepts node message) :
    waiting.hear node message = ⟨waiting.expectation, waiting.heard ++ [message]⟩ := by
  rw [hear, if_neg foreign]

theorem after_cons (node : UInt8) (waiting : Waiting) (message : Message)
    (others : List Message) :
    waiting.after node (message :: others) = (waiting.hear node message).after node others := rfl

theorem after_append (node : UInt8) (waiting : Waiting) (first later : List Message) :
    waiting.after node (first ++ later) = (waiting.after node first).after node later :=
  List.foldl_append

/-- Whoever waits for a value goes on waiting for one. -/
theorem expectation_after_value (node : UInt8) (heard messages : List Message) :
    (after node ⟨.value, heard⟩ messages).expectation = .value := by
  induction messages generalizing heard with
  | nil => rfl
  | cons message others inductionHypothesis =>
      rw [after_cons, hear]
      split
      · exact inductionHypothesis []
      · exact inductionHypothesis (heard ++ [message])

end Waiting

/-! ## Transfers that follow their expectations -/

/-- Whether a reaction to a reply fits what is waited for.  `Stands` says which states go
with which expectations. -/
inductive Reaction.Fits (Stands : S → Expectation → Prop) (expectation : Expectation)
    (message : Message) (command : ServerCommand) : Reaction ε S α → Prop
  | ignored (notes : List (Note ε)) (foreign : expectation.takes command = false)
      (goesOn : command ≠ .abort) :
      Fits Stands expectation message command (.ignore notes)
  | proceeded (notes : List (Note ε)) (requests : List (Except CodecError Message)) {next : S}
      (takes : expectation.takes command = true) (stands : Stands next (expectation.next message)) :
      Fits Stands expectation message command (.proceed notes requests next)
  | finished (notes : List (Note ε)) (requests : List (Except CodecError Message)) (final : S)
      {result : Except (Failure ε) α} (takes : expectation.takes command = true)
      (inTime : result ≠ .error .timeout) :
      Fits Stands expectation message command (.finish notes requests final result)
  | givenUp (node : UInt8) (payload : Payload) (final : S)
      (foreign : expectation.takes command = false) (aborts : command = .abort) :
      Fits Stands expectation message command (.aborted node payload final)

/-- Whether a transfer reacts to every reply as is fitting for what it waits for. -/
def Transfer.Follows (transfer : Transfer ε S α) (Stands : S → Expectation → Prop) : Prop :=
  ∀ state expectation message payload, Stands state expectation → message.body = .sdo payload →
    (transfer.react state payload).Fits Stands expectation message
      (ServerCommand.ofByte payload.command)

open Transfer

variable {budget : Nat} {node : UInt8} {index : UInt16} {subindex : UInt8}

theorem follows_expeditedUpload :
    (expeditedUpload (ε := ε) budget node index subindex).Follows
      fun _ expectation => expectation = .value := by
  rintro state _ message payload rfl _
  unfold expeditedUpload
  dsimp only
  cases ServerCommand.ofByte payload.command with
  | initiateUpload unused expedited sized =>
      cases expedited with
      | true =>
          refine .finished _ _ _ rfl ?_
          cases ObjectValue.decode payload.expeditedData <;> exact nofun
      | false => exact .finished _ _ _ rfl nofun
  | abort => exact .givenUp _ _ _ rfl rfl
  | _ => exact .ignored _ rfl nofun

theorem follows_expeditedDownload {data : List UInt8} :
    (expeditedDownload (ε := ε) budget node index subindex data).Follows
      fun _ expectation => expectation = .settlement := by
  rintro state _ message payload rfl _
  unfold expeditedDownload
  dsimp only
  split <;> exact .finished _ _ _ rfl nofun

def Expectation.ofUpload (upload : Upload) : Expectation :=
  match upload.awaited with
  | none => .uploadGrant
  | some toggle => .uploadSegment toggle

theorem follows_segmentedUpload {contents : List UInt8} :
    (segmentedUpload (ε := ε) budget node index subindex contents).Follows
      fun upload expectation => expectation = .ofUpload upload := by
  rintro ⟨awaited, buffer⟩ _ message payload rfl _
  unfold segmentedUpload
  dsimp only
  cases awaited with
  | none =>
      cases ServerCommand.ofByte payload.command with
      | initiateUpload unused expedited sized =>
          cases expedited with
          | true => exact .finished _ _ _ rfl nofun
          | false => exact .proceeded _ _ rfl rfl
      | abort => exact .givenUp _ _ _ rfl rfl
      | _ => exact .ignored _ rfl nofun
  | some toggle =>
      cases ServerCommand.ofByte payload.command with
      | uploadSegment found unused last =>
          by_cases same : found = toggle
          · have takes : (Expectation.uploadSegment toggle).takes
                (.uploadSegment found unused last) = true := beq_iff_eq.2 same
            cases last with
            | true =>
                simp only [if_pos same, if_true]
                exact .finished _ _ _ takes nofun
            | false =>
                simp only [if_pos same, Bool.false_eq_true, if_false]
                exact .proceeded _ _ takes rfl
          · simp only [if_neg same]
            exact .ignored _ (beq_eq_false_iff_ne.2 same) nofun
      | initiateUpload unused expedited sized =>
          -- The reaction asks for this flag first, and ignores the grant with it and without.
          cases expedited <;> exact .ignored _ rfl nofun
      | abort => exact .givenUp _ _ _ rfl rfl
      | _ => exact .ignored _ rfl nofun

def Expectation.ofDownload (download : Download) : Expectation :=
  match download.unconfirmed with
  | none => .downloadGrant
  | some toggle => .acknowledgement toggle

theorem fits_advance {download : Download} {expectation : Expectation} {message : Message}
    {command : ServerCommand} {toggle : Bool} (takes : expectation.takes command = true)
    (moves : expectation.next message = .acknowledgement toggle) :
    (download.advance (ε := ε) node toggle).Fits
      (fun download expectation => expectation = .ofDownload download) expectation message
      command := by
  unfold Download.advance
  split
  · exact .finished _ _ _ takes nofun
  · exact .proceeded _ _ takes moves

theorem follows_segmentedDownload {data : List UInt8} :
    (segmentedDownload (ε := ε) budget node index subindex data).Follows
      fun download expectation => expectation = .ofDownload download := by
  rintro ⟨unconfirmed, remaining⟩ _ message payload rfl _
  unfold segmentedDownload
  dsimp only
  cases unconfirmed with
  | none =>
      cases ServerCommand.ofByte payload.command with
      | initiateDownloadAck => exact fits_advance rfl rfl
      | abort => exact .givenUp _ _ _ rfl rfl
      | _ => exact .ignored _ rfl nofun
  | some toggle =>
      cases ServerCommand.ofByte payload.command with
      | downloadSegmentAck found =>
          by_cases same : found = toggle
          · simp only [if_pos same]
            exact fits_advance (beq_iff_eq.2 same) rfl
          · simp only [if_neg same]
            exact .ignored _ (beq_eq_false_iff_ne.2 same) nofun
      | abort => exact .givenUp _ _ _ rfl rfl
      | _ => exact .ignored _ rfl nofun

def Stage.Aligned (length : Nat) : Stage → Prop
  | .sending block => block.Aligned length
  | _ => True

def StandsInBlocks (data : List UInt8) (download : BlockDownload) (expectation : Expectation) :
    Prop :=
  ∃ stage crc, stage.Aligned data.length ∧ download = Stage.state crc data stage
    ∧ expectation = .blockReply data.length stage

theorem fits_sendBlock (nodeFits : node.toNat ≤ 127) {data : List UInt8} {stage : Stage}
    {message : Message} {command : ServerCommand} {block : Block} {size : UInt8} {crc : Bool}
    (asked : block.size = size.toNat) (aligned : block.Aligned data.length)
    (notes : List (Note ε)) (takes : (Expectation.blockReply data.length stage).takes command = true)
    (moves : stage.next data.length message = .sending block) :
    (sendBlock node index subindex notes crc (data.drop block.start) size).Fits
      (StandsInBlocks data) (.blockReply data.length stage) message command := by
  -- A refusal moves the download on as well: it is the last thing that happens.
  by_cases unfit : size = 0 ∨ Request.maxBlockSize < size.toNat
  · rw [sendBlock, if_pos unfit]
    exact .finished _ _ _ takes (by simp)
  · have admissible : block.Admissible := by
      obtain ⟨positive, bounded⟩ := not_or.1 unfit
      have nonzero : size.toNat ≠ 0 := fun none => positive (UInt8.toNat_inj.1 none)
      have atMost : size.toNat ≤ 127 := Nat.not_lt.1 bounded
      exact ⟨by omega, by omega⟩
    rw [sendBlock_of_admissible nodeFits asked admissible]
    refine .proceeded _ _ takes ⟨.sending block, crc, aligned, rfl, ?_⟩
    rw [Expectation.next, moves]

theorem follows_blockDownload (nodeFits : node.toNat ≤ 127) {offerCrc : Bool}
    {data : List UInt8} :
    (blockDownload (ε := ε) budget offerCrc node index subindex data).Follows
      (StandsInBlocks data) := by
  rintro _ _ message payload ⟨stage, crc, aligned, rfl, rfl⟩ body
  cases command : ServerCommand.ofByte payload.command with
  | abort =>
      simp only [blockDownload, command]
      exact .givenUp _ _ _ (by cases stage <;> rfl) rfl
  | blockDownload flag said =>
      cases stage with
      | opening =>
          cases said with
          | opened =>
              have asked : (Block.first message).size = payload.firstBlockSize.toNat := by
                rw [Block.first, Message.octets_of_body body]
                rfl
              simp only [blockDownload, command]
              exact fits_sendBlock nodeFits asked (Block.aligned_first _ _) _ rfl rfl
          | _ =>
              simp only [blockDownload, command]
              exact .ignored _ rfl (by simp)
      | sending block =>
          cases said with
          | acknowledged =>
              have reply := @react_acknowledged ε budget offerCrc crc node index subindex data
                nodeFits block aligned message payload flag body command
              by_cases finished : block.FinishedBy data.length message
              · have moves : (Stage.sending block).next data.length message = .ending :=
                  if_pos finished
                refine reply.1 finished ▸ .proceeded _ _ rfl ⟨.ending, crc, trivial, rfl, ?_⟩
                rw [Expectation.next, moves]
              · have asked : (block.next data.length message).size
                    = payload.nextBlockSize.toNat := by
                  rw [Block.next, Message.octets_of_body body]
                  rfl
                obtain ⟨notes, sends⟩ := reply.2 finished
                exact sends ▸ fits_sendBlock nodeFits asked (aligned.next finished) notes rfl
                  (if_neg finished)
          | _ =>
              simp only [blockDownload, command]
              exact .ignored _ rfl (by simp)
      | ending =>
          cases said with
          | ended =>
              simp only [blockDownload, command]
              exact .finished _ _ _ rfl (by simp)
          | _ =>
              simp only [blockDownload, command]
              exact .ignored _ rfl (by simp)
  | _ =>
      simp only [blockDownload, command]
      exact .ignored _ (by cases stage <;> rfl) (by simp)

end CanOpen.Sdo
