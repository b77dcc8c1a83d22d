import CanOpen.Proofs.BlockSeries
import CanOpen.Proofs.BlockStages
import CanOpen.Proofs.Scripted

/-!
# How many messages a block download receives

A transfer that answers whatever moves it on receives no more messages between two of
its answers than its budget allows.  A block download answers its grant and every
acknowledgement, also one that confirms no segment.  Acknowledgements that confirm
segments run out with the data, so that the messages received are bounded but for those
that confirm nothing; a node that goes on sending these is never given up.
-/

set_option autoImplicit false

namespace CanOpen.Sdo

variable {ε S α : Type}

/-! ## Budgets -/

/-- Whether a transfer sends something whenever it moves on. -/
def Transfer.AnswersAll (transfer : Transfer ε S α) : Prop :=
  ∀ (state next : S) (message : Message) (notes : List (Note ε))
    (requests : List (Except CodecError Message)),
    transfer.hear state message = .proceed notes requests next → requests ≠ []

theorem Sending.offered_ne_nil {requests : List (Except CodecError Message)}
    {journal : List (Entry ε)} (sent : Sending requests journal (.ok ()))
    (asked : requests ≠ []) : offeredIn journal ≠ [] := by
  cases sent with
  | done => exact (asked rfl).elim
  | sent message later => simp [Entry.offered?]

theorem Course.length_receivedIn_le {transfer : Transfer ε S α}
    (answersAll : transfer.AnswersAll) {state : S} {left : Nat} {journal : List (Entry ε)}
    {ending : Ending ε S α} (course : Course transfer state left journal ending) :
    (receivedIn journal).length ≤ left + transfer.budget * (answered journal).length := by
  induction course using Course.induct with
  | exhausted state => exact Nat.zero_le _
  | unreceived state left cause => exact Nat.zero_le _
  | received state left message journal ending course aftermath =>
      cases heard : transfer.hear state message with
      | ignore notes =>
          rw [heard] at aftermath
          cases aftermath with
          | ignored later =>
              obtain ⟨later, inductionHypothesis⟩ := later
              rw [answered_unanswered message later.listening, receivedIn_cons]
              simp only [Entry.received?, Option.toList_some, List.singleton_append,
                List.length_cons]
              omega
      -- Only here the budget starts anew, and the answer is one more to count.
      | proceed notes requests next =>
          rw [heard] at aftermath
          cases aftermath with
          | proceeded sent later =>
              obtain ⟨later, inductionHypothesis⟩ := later
              have asked := answersAll state next message notes requests heard
              rw [answered_received message sent.unheard later.listening
                (sent.offered_ne_nil asked), receivedIn_received message sent.unheard,
                List.length_cons, List.length_cons, Nat.mul_add_one]
              omega
          | interrupted unsent =>
              rw [receivedIn_last message unsent.unheard, List.length_singleton]
              omega
      | finish notes requests final result =>
          rw [heard] at aftermath
          cases aftermath with
          | finished sent =>
              rw [receivedIn_last message sent.unheard, List.length_singleton]
              omega

/-- The budget is had once for the request and once for each answer. -/
theorem length_receivedIn_run_le {σ : Type} [Transport σ ε] (transfer : Transfer ε S α)
    (answersAll : transfer.AnswersAll) (transport : σ) :
    (receivedIn (transfer.run transport).journal).length
      ≤ transfer.budget * (1 + (answered (transfer.run transport).journal).length) := by
  cases built : transfer.request with
  | error cause =>
      have unheard : receivedIn (transfer.run transport).journal = [] := by
        rw [Transfer.run, built]
        dsimp only
        split
        · exact receivedIn_setNodeFilter _ _ transport
        · rfl
      rw [unheard]
      exact Nat.zero_le _
  | ok request =>
      obtain ⟨cause, unopened, _⟩ | ⟨traffic, opened, course⟩ :=
        course_run transfer built transport
      · rw [receivedIn_of_unsent unopened]
        exact Nat.zero_le _
      · rw [receivedIn_of_sent opened, answered_of_sent opened, Nat.mul_add, Nat.mul_one]
        exact course.length_receivedIn_le answersAll

/-! ## Segments left -/

namespace Block

/-- Segments that the data from a block on still need. -/
def segmentsLeft (length : Nat) (block : Block) : Nat :=
  max 1 ((length - block.start + 6) / 7)

/-- Confirmed segments are none of those left. -/
theorem Aligned.segmentsLeft_next {length : Nat} {block : Block} {ack : Message}
    (aligned : block.Aligned length) (unfinished : ¬ block.FinishedBy length ack) :
    (block.next length ack).segmentsLeft length + block.confirmed length ack
      = block.segmentsLeft length := by
  have inside : block.start + 7 * block.confirmed length ack < max 1 length :=
    (aligned.next unfinished).2
  -- As data is left behind the confirmed segments, neither maximum hides a difference.
  show max 1 ((length - (block.start + 7 * block.confirmed length ack) + 6) / 7)
    + block.confirmed length ack = max 1 ((length - block.start + 6) / 7)
  omega

end Block

/-- Whether an acknowledgement confirms no segment. -/
def Barren (ack : Message) : Prop :=
  ack.octets.second = 0

instance (ack : Message) : Decidable (Barren ack) :=
  inferInstanceAs (Decidable (_ = _))

theorem Block.confirmed_pos {block : Block} (admissible : block.Admissible) {ack : Message}
    (fruitful : ¬ Barren ack) (length : Nat) : 0 < block.confirmed length ack := by
  have some : (ack.octets.get 1).toNat ≠ 0 := by
    intro none
    exact fruitful (UInt8.toNat_inj.1 none)
  have positive := block.count_pos length admissible
  rw [Block.confirmed]
  omega

/-- Of a list of turns, the first one apart, those that answer an acknowledgement of no
segment. -/
def barrenTurns (turns : List Turn) : List Turn :=
  turns.tail.filter fun turn => Barren turn.heard

section Series

variable {node : UInt8} {index : UInt16} {subindex : UInt8} {data : List UInt8}
  {turns : List Turn} {blocks : List Block} {closing : Closing}

/-- Every acknowledgement that is answered takes segments from those left, or none. -/
theorem BlockSeries.length_tail_le {crc : Bool} {block : Block}
    (series : BlockSeries node index subindex data crc block turns blocks closing)
    (aligned : block.Aligned data.length) :
    turns.tail.length ≤ block.segmentsLeft data.length + (barrenTurns turns).length := by
  induction series with
  | refused heard inadmissible => exact Nat.zero_le _
  | unfinished admissible begun => exact Nat.zero_le _
  | ended heard admissible acknowledges finished =>
      exact Nat.le_add_right_of_le (Nat.le_max_left 1 _)
  | @resumed block ack offered turns blocks closing heard admissible acknowledges unfinished
      later inductionHypothesis =>
      have rest := inductionHypothesis (aligned.next unfinished)
      have fewer := aligned.segmentsLeft_next unfinished
      rw [List.tail_cons] at rest ⊢
      rw [barrenTurns, List.tail_cons] at rest ⊢
      rw [List.length_cons]
      by_cases barren : Barren ack
      · rw [List.filter_cons_of_pos (by simpa using barren), List.length_cons]
        omega
      · have some := Block.confirmed_pos admissible barren data.length
        rw [List.filter_cons_of_neg (by simpa using barren)]
        omega

theorem BlockTurns.length_tail_le
    (download : BlockTurns node index subindex data turns blocks closing) :
    turns.tail.length ≤ max 1 ((data.length + 6) / 7) + (barrenTurns turns).length := by
  cases download with
  | ungranted => exact Nat.zero_le _
  | granted opened series => exact series.length_tail_le (Block.aligned_first data.length _)

end Series

/-! ## The bound -/

theorem Request.node_le_of_initiateBlockDownload {node : UInt8} {index : UInt16}
    {subindex : UInt8} {size : Nat} {crc : Bool} {request : Message}
    (built : initiateBlockDownload node index subindex size crc = .ok request) :
    node.toNat ≤ 127 := by
  rw [initiateBlockDownload] at built
  cases declared : declaredSize size with
  | error cause =>
      rw [declared] at built
      cases built
  | ok bytes =>
      rw [declared] at built
      exact (Message.standard_eq_ok_iff.1 built).1

open Transfer in
theorem requests_ne_nil_of_sendBlock {node : UInt8} {index : UInt16} {subindex : UInt8}
    {notes : List (Note ε)} {crc : Bool} {data : List UInt8} {blockSize : UInt8}
    {others : List (Note ε)} {requests : List (Except CodecError Message)} {next : BlockDownload}
    (sends : sendBlock node index subindex notes crc data blockSize
      = .proceed others requests next) : requests ≠ [] := by
  unfold sendBlock at sends
  split at sends
  · cases sends
  next valid =>
    cases sends
    have positive : blockSize.toNat ≠ 0 := by
      intro none
      exact valid (.inl (UInt8.toNat_inj.1 none))
    obtain ⟨count, size⟩ := Nat.exists_eq_succ_of_ne_zero positive
    rw [size, cutBlock]
    split <;> simp

theorem answersAll_blockDownload (budget : Nat) (offerCrc : Bool) (node : UInt8)
    (index : UInt16) (subindex : UInt8) (data : List UInt8) :
    (Transfer.blockDownload (ε := ε) budget offerCrc node index subindex data).AnswersAll := by
  intro state next message notes requests heard
  obtain ⟨_, _, ignores⟩ | ⟨payload, _, _, reacts⟩ := Transfer.hear_cases
    (Transfer.blockDownload (ε := ε) budget offerCrc node index subindex data) state message
  · rw [ignores] at heard
    cases heard
  · rw [reacts] at heard
    simp only [Transfer.blockDownload] at heard
    split at heard
    · exact requests_ne_nil_of_sendBlock heard
    · split at heard
      · split at heard
        · cases heard
          exact List.cons_ne_nil _ _
        · exact requests_ne_nil_of_sendBlock heard
      · exact requests_ne_nil_of_sendBlock heard
    all_goals cases heard

/-- A block download receives as many messages as its budget allows for its request, for
its grant, for each segment of the data and for each acknowledgement of no segment that
it answers, and no more. -/
theorem blockDownload_bounded {σ : Type} [Transport σ ε] (config : Config) (transport : σ)
    (node : UInt8) (index : UInt16) (subindex : UInt8) (data : List UInt8) :
    let run := Call.run config transport (.blockDownload node index subindex data)
    (receivedIn run.journal).length
      ≤ (2 + max 1 ((data.length + 6) / 7) + (barrenTurns (answered run.journal)).length)
        * config.transferRounds := by
  intro run
  have received := length_receivedIn_run_le _ (answersAll_blockDownload (ε := ε)
    config.transferRounds config.blockCrc node index subindex data) transport
  have answers : (answered run.journal).length
      ≤ 1 + (max 1 ((data.length + 6) / 7) + (barrenTurns (answered run.journal)).length) := by
    cases built : Request.initiateBlockDownload node index subindex data.length config.blockCrc with
    | error cause =>
        have silent : run.journal = [] := by
          simp [run, Call.run, Transfer.run, Transfer.blockDownload, built, Run.map]
        rw [silent]
        exact Nat.zero_le _
    | ok request =>
        obtain ⟨_, _, _, download, _⟩ := blockTurns_run config.transferRounds config.blockCrc
          (Request.node_le_of_initiateBlockDownload built) built transport
        have tail := download.length_tail_le
        rw [List.length_tail] at tail
        exact Nat.sub_le_iff_le_add'.1 tail
  calc (receivedIn run.journal).length
      ≤ config.transferRounds * (1 + (answered run.journal).length) := received
    _ ≤ config.transferRounds * (1 + (1 + (max 1 ((data.length + 6) / 7)
          + (barrenTurns (answered run.journal)).length))) :=
        Nat.mul_le_mul_left _ (Nat.add_le_add_left answers 1)
    _ = (2 + max 1 ((data.length + 6) / 7) + (barrenTurns (answered run.journal)).length)
          * config.transferRounds := by
        rw [Nat.mul_comm]
        congr 1
        omega

/-! ## What it leaves unbounded -/

section Barren

variable {node : UInt8} {index : UInt16} {subindex : UInt8} {data : List UInt8} {block : Block}
  {ack : Message}

theorem Block.confirmed_of_barren (barren : Barren ack) (length : Nat) :
    block.confirmed length ack = 0 := by
  rw [confirmed, show ack.octets.get 1 = 0 from barren]
  exact Nat.zero_min _

theorem Block.not_finishedBy_of_barren (admissible : block.Admissible) (barren : Barren ack)
    (length : Nat) : ¬ block.FinishedBy length ack := by
  rintro ⟨all, _⟩
  have positive := block.count_pos length admissible
  rw [confirmed_of_barren barren] at all
  omega

/-- Nothing confirmed and the same number asked for, the next block is the same. -/
theorem Block.next_of_barren (barren : Barren ack)
    (same : (ack.octets.get 2).toNat = block.size) (length : Nat) :
    block.next length ack = block := by
  apply Block.ext
  · rw [next, confirmed_of_barren barren]
    rfl
  · exact same

theorem length_await_of_barren {σ : Type} [Transport σ ε] {transport : σ} {budget : Nat}
    {offerCrc crc : Bool} (positive : 0 < budget) (nodeFits : node.toNat ≤ 127)
    (aligned : block.Aligned data.length) (admissible : block.Admissible)
    (acknowledges : Acknowledges node ack)
    (barren : Barren ack) (same : (ack.octets.get 2).toNat = block.size) {times : Nat}
    (follows : Transport.Follows (List.replicate times ack) transport) :
    let download : Transfer ε Transfer.BlockDownload Unit :=
      Transfer.blockDownload budget offerCrc node index subindex data
    times ≤ (receivedIn
      (download.await (underway crc data block) download.budget transport).journal).length := by
  intro download
  induction times generalizing transport with
  | zero => exact Nat.zero_le _
  | succ times inductionHypothesis =>
      have again := block.next_of_barren barren same data.length
      have unfinished := block.not_finishedBy_of_barren admissible barren data.length
      have resumes : ∃ notes, download.hear (underway crc data block) ack
          = .proceed notes ((block.segments node data).map .ok) (underway crc data block) := by
        have reply : ∃ notes, download.hear (underway crc data block) ack = _ :=
          hear_resumed nodeFits aligned acknowledges unfinished (again.symm ▸ admissible)
        rwa [again] at reply
      obtain ⟨notes, heard⟩ := resumes
      obtain ⟨rest, later, _, received⟩ := Transport.Follows.await_next
        (List.forall_mem_nil _) follows positive heard
        (block.wellFormed_of_mem_segments nodeFits)
      rw [received, List.nil_append, List.length_cons]
      exact Nat.succ_le_succ (inductionHypothesis later)

/-- A node that grants a download and then confirms nothing is heard out for as long as
it goes on. -/
theorem length_run_of_barren {σ : Type} [Transport σ ε] {transport : σ} {config : Config}
    (positive : 0 < config.transferRounds) (nodeFits : node.toNat ≤ 127)
    (dataFits : data.length ≤ 0xFFFFFFFF) {grant : Message} (opens : Opens node grant)
    (admissible : (Block.first grant).Admissible) (acknowledges : Acknowledges node ack)
    (barren : Barren ack) (same : ack.octets.get 2 = grant.octets.get 4) {times : Nat}
    (follows : Transport.Follows (grant :: List.replicate times ack) transport) :
    times < (receivedIn
      (Call.run config transport (.blockDownload node index subindex data)).journal).length := by
  let download : Transfer ε Transfer.BlockDownload Unit :=
    Transfer.blockDownload config.transferRounds config.blockCrc node index subindex data
  obtain ⟨request, built, wellFormed⟩ := request_blockDownload index subindex nodeFits dataFits
  obtain ⟨opened, following, _, sameReceived⟩ := follows.run download built wellFormed
  have granted : ∃ crc notes, download.hear .opening grant = _ :=
    hear_granted nodeFits opens admissible
  obtain ⟨crc, notes, heard⟩ := granted
  obtain ⟨rest, later, _, received⟩ := Transport.Follows.await_next
    (List.forall_mem_nil _) following positive heard
    ((Block.first grant).wellFormed_of_mem_segments nodeFits)
  have many : times ≤ (receivedIn (download.await (underway crc data (Block.first grant))
      download.budget rest).journal).length :=
    length_await_of_barren positive nodeFits (Block.aligned_first _ _) admissible acknowledges barren
      (congrArg UInt8.toNat same) later
  have whole : receivedIn (Call.run config transport
        (.blockDownload node index subindex data)).journal
      = grant :: receivedIn (download.await (underway crc data (Block.first grant))
          download.budget rest).journal :=
    sameReceived.trans received
  rw [whole]
  exact Nat.lt_succ_of_le many

end Barren

/-- Nothing bounds the messages that a download of one byte receives, not even if its
budget is a single message. -/
theorem blockDownload_unbounded :
    ¬ ∃ bound, ∀ replies : List (List UInt8),
      (receivedIn (Call.run { transferRounds := 1 } (PlainLink.replaying 5 replies)
        (.blockDownload 5 0x2000 1 [1])).journal).length ≤ bound := by
  rintro ⟨bound, bounded⟩
  let grant : List UInt8 := [0xA0, 0x00, 0x20, 0x01, 1]
  let ack : List UInt8 := [0xA2, 0, 1]
  have follows : Transport.Follows
      (Message.reply 5 grant :: List.replicate bound (Message.reply 5 ack))
      (PlainLink.replaying 5 (grant :: List.replicate bound ack)) := by
    have holds := PlainLink.holds_replaying 5 (grant :: List.replicate bound ack)
    rw [List.map_cons, List.map_replicate] at holds
    exact PlainLink.follows_of_holds holds
  have more : bound < (receivedIn (Call.run { transferRounds := 1 }
      (PlainLink.replaying 5 (grant :: List.replicate bound ack))
      (.blockDownload 5 0x2000 1 [1])).journal).length :=
    length_run_of_barren (by decide) (by decide) (by decide) (by decide) (by decide) (by decide)
      (by decide) (by decide) follows
  exact Nat.not_le.2 more (bounded _)

end CanOpen.Sdo
