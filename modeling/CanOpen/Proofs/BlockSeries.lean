import CanOpen.Proofs.BlockFraming

/-!
# The blocks of a download, one after the other

A download that is granted sends a series of blocks, each in a turn of its own: the
first answers the grant and every other one the acknowledgement of the block before
it.  The series may be closed by the announcement of the end or by the refusal of a
block size.  Every run of a download is such a series, and from this follow the
positions at which its blocks start.
-/

set_option autoImplicit false

namespace CanOpen.Sdo

variable {ε : Type} {node : UInt8} {index : UInt16} {subindex : UInt8} {data : List UInt8}

inductive Closing where
  | unclosed
  | ended (crc : Bool)
  | refused
  deriving DecidableEq, Repr

def Closing.frames (node : UInt8) (index : UInt16) (subindex : UInt8) (data : List UInt8) :
    Closing → List Message
  | .unclosed => []
  | .ended crc => [endMessage node data crc]
  | .refused => [refusal node index subindex]

/-- The turns of a download from the one on that asks for a block, the blocks that
are begun in them and how they are closed. -/
inductive BlockSeries (node : UInt8) (index : UInt16) (subindex : UInt8) (data : List UInt8)
    (crc : Bool) : Block → List Turn → List Block → Closing → Prop
  | refused {block : Block} (heard : Message) (inadmissible : ¬ block.Admissible) :
      BlockSeries node index subindex data crc block [⟨heard, [refusal node index subindex]⟩]
        [] .refused
  | unfinished {block : Block} {turn : Turn} (admissible : block.Admissible)
      (begun : turn.offered <+: block.segments node data) :
      BlockSeries node index subindex data crc block [turn] [block] .unclosed
  | ended {block : Block} {ack : Message} (heard : Message) (admissible : block.Admissible)
      (acknowledges : Acknowledges node ack) (finished : block.FinishedBy data.length ack) :
      BlockSeries node index subindex data crc block
        [⟨heard, block.segments node data⟩, ⟨ack, [endMessage node data crc]⟩] [block]
        (.ended crc)
  | resumed {block : Block} {ack : Message} {offered : List Message} {turns : List Turn}
      {blocks : List Block} {closing : Closing} (heard : Message)
      (admissible : block.Admissible) (acknowledges : Acknowledges node ack)
      (unfinished : ¬ block.FinishedBy data.length ack)
      (later : BlockSeries node index subindex data crc (block.next data.length ack)
        (⟨ack, offered⟩ :: turns) blocks closing) :
      BlockSeries node index subindex data crc block
        (⟨heard, block.segments node data⟩ :: ⟨ack, offered⟩ :: turns) (block :: blocks)
        closing

/-- The turns of a whole download: none before the grant, and a series from the grant
on. -/
inductive BlockTurns (node : UInt8) (index : UInt16) (subindex : UInt8) (data : List UInt8) :
    List Turn → List Block → Closing → Prop
  | ungranted : BlockTurns node index subindex data [] [] .unclosed
  | granted {crc : Bool} {turn : Turn} {turns : List Turn} {blocks : List Block}
      {closing : Closing}
      (opened : turn.heard.said? node = some (.blockDownload crc .opened))
      (series : BlockSeries node index subindex data crc (Block.first turn.heard)
        (turn :: turns) blocks closing) :
      BlockTurns node index subindex data (turn :: turns) blocks closing

/-! ## Every run is a series -/

section Run

open Transfer

variable {budget : Nat} {offerCrc crc : Bool}

theorem Course.answered_ending {left : Nat} {journal : List (Entry ε)}
    {ending : Ending ε BlockDownload Unit}
    (course : Course (blockDownload budget offerCrc node index subindex data) .ending left
      journal ending) : answered journal = [] := by
  generalize standing : (.ending : BlockDownload) = state at course
  induction course using Course.induct with
  | exhausted state => rfl
  | unreceived state left cause => rfl
  | received state left message journal ending course aftermath =>
      subst standing
      rcases hear_ending message with ⟨_, _, reacts⟩ | ⟨_, reacts⟩
      · rw [reacts] at aftermath
        cases aftermath with
        | finished sent =>
            cases sent
            rfl
      · rw [reacts] at aftermath
        cases aftermath with
        | ignored later =>
            obtain ⟨course, inductionHypothesis⟩ := later
            rw [answered_unanswered message course.listening]
            exact inductionHypothesis rfl

/-- From a block on a download is a series of blocks, whatever was heard to make it
send this one, and every acknowledgement that counts has its turn. -/
theorem Course.blockSeries (nodeFits : node.toNat ≤ 127) {block : Block}
    (aligned : block.Aligned data.length) (admissible : block.Admissible) {left : Nat} {journal : List (Entry ε)}
    {ending : Ending ε BlockDownload Unit}
    (course : Course (blockDownload budget offerCrc node index subindex data)
      (underway crc data block) left journal ending) :
    ∃ blocks closing,
      (∀ heard, BlockSeries node index subindex data crc block
        (⟨heard, block.segments node data⟩ :: answered journal) blocks closing)
      ∧ (answered journal).map Turn.heard
          = acceptedAcks node data.length block (receivedIn journal)
      ∧ (ending.result = .ok () → closing = .ended crc) := by
  -- The turn in which the block was sent is still open, so it is not in the journal yet.
  generalize standing : underway crc data block = state at course
  induction course using Course.induct generalizing block with
  | exhausted state =>
      exact ⟨[block], .unclosed, fun _ => .unfinished admissible (List.prefix_refl _), rfl, nofun⟩
  | unreceived state left cause =>
      exact ⟨[block], .unclosed, fun _ => .unfinished admissible (List.prefix_refl _), rfl, nofun⟩
  | received state left ack journal ending course aftermath =>
      subst standing
      rcases hear_underway nodeFits aligned ack with
          ⟨acknowledges, finished, reacts⟩ | ⟨acknowledges, unfinished, nextAdmissible, _, reacts⟩
            | ⟨acknowledges, unfinished, inadmissible, _, _, _, reacts⟩
            | ⟨foreign, _, _, reacts⟩ | ⟨foreign, _, reacts⟩
      · have last := acceptedAcks_of_last acknowledges (.inl finished)
        rw [reacts] at aftermath
        cases aftermath with
        | proceeded sent later =>
            obtain ⟨course, _⟩ := later
            rw [answered_received ack sent.unheard course.listening
              (by simp [sent.offeredIn_single]), sent.offeredIn_single, course.answered_ending,
              receivedIn_received ack sent.unheard, last]
            exact ⟨[block], .ended crc,
              fun before => .ended before admissible acknowledges finished, rfl, fun _ => rfl⟩
        | interrupted unsent =>
            rw [answered_last ack unsent.unheard (by simp [unsent.offeredIn_single]),
              unsent.offeredIn_single, receivedIn_last ack unsent.unheard, last]
            exact ⟨[block], .ended crc,
              fun before => .ended before admissible acknowledges finished, rfl, nofun⟩
      · have more := acceptedAcks_of_more acknowledges unfinished nextAdmissible
        rw [reacts] at aftermath
        cases aftermath with
        | proceeded sent later =>
            obtain ⟨course, inductionHypothesis⟩ := later
            obtain ⟨blocks, closing, series, counted, closes⟩ :=
              inductionHypothesis (aligned.next unfinished) nextAdmissible rfl
            rw [answered_received ack sent.unheard course.listening
              (by simpa [sent.offeredIn_eq_of_ok] using Block.segments_ne_nil nextAdmissible),
              sent.offeredIn_eq_of_ok, receivedIn_received ack sent.unheard, more, ← counted]
            exact ⟨block :: blocks, closing,
              fun before => .resumed before admissible acknowledges unfinished (series ack), rfl,
              closes⟩
        | interrupted unsent =>
            obtain ⟨begun, offers, _⟩ := unsent.offered_of_error
            rw [answered_last ack unsent.unheard offers, receivedIn_last ack unsent.unheard, more]
            exact ⟨[block, block.next data.length ack], .unclosed, fun before =>
              .resumed before admissible acknowledges unfinished
                (.unfinished nextAdmissible begun), rfl, nofun⟩
      · have last := acceptedAcks_of_last acknowledges (.inr inadmissible)
        rw [reacts] at aftermath
        cases aftermath with
        | @finished _ _ _ _ answer _ sent =>
            rw [answered_last ack sent.unheard (by simp [sent.offeredIn_single]),
              sent.offeredIn_single, receivedIn_last ack sent.unheard, last]
            refine ⟨[block], .refused, fun before => .resumed before admissible acknowledges
              unfinished (.refused ack inadmissible), rfl, ?_⟩
            cases answer <;> exact nofun
      · rw [reacts] at aftermath
        cases aftermath with
        | finished sent =>
            cases sent
            exact ⟨[block], .unclosed, fun _ => .unfinished admissible (List.prefix_refl _),
              (acceptedAcks_of_not_acknowledges foreign []).symm, nofun⟩
      · rw [reacts] at aftermath
        cases aftermath with
        | ignored later =>
            obtain ⟨course, inductionHypothesis⟩ := later
            rw [answered_unanswered ack course.listening,
              show receivedIn (.received ack :: journal) = ack :: receivedIn journal from rfl,
              acceptedAcks_of_not_acknowledges foreign]
            exact inductionHypothesis aligned admissible rfl

theorem Course.blockTurns (nodeFits : node.toNat ≤ 127) {left : Nat}
    {journal : List (Entry ε)} {ending : Ending ε BlockDownload Unit}
    (course : Course (blockDownload budget offerCrc node index subindex data) .opening left
      journal ending) :
    ∃ blocks closing,
      BlockTurns node index subindex data (answered journal) blocks closing
      ∧ (answered journal).map Turn.heard
          = acceptedReplies node data.length (receivedIn journal)
      ∧ (ending.result = .ok () → ∃ crc, closing = .ended crc) := by
  generalize standing : (.opening : BlockDownload) = state at course
  induction course using Course.induct with
  | exhausted state => exact ⟨[], .unclosed, .ungranted, rfl, nofun⟩
  | unreceived state left cause => exact ⟨[], .unclosed, .ungranted, rfl, nofun⟩
  | received state left grant journal ending course aftermath =>
      subst standing
      rcases hear_opening nodeFits grant with
          ⟨crc, opened, admissible, _, reacts⟩ | ⟨crc, opened, inadmissible, _, _, _, reacts⟩
            | ⟨foreign, _, _, reacts⟩ | ⟨foreign, _, reacts⟩
      · have opens : Opens node grant := ⟨crc, opened⟩
        rw [reacts] at aftermath
        cases aftermath with
        | proceeded sent later =>
            obtain ⟨course, _⟩ := later
            obtain ⟨blocks, closing, series, counted, closes⟩ :=
              course.blockSeries nodeFits (Block.aligned_first _ _) admissible
            rw [answered_received grant sent.unheard course.listening
              (by simpa [sent.offeredIn_eq_of_ok] using Block.segments_ne_nil admissible),
              sent.offeredIn_eq_of_ok, receivedIn_received grant sent.unheard,
              acceptedReplies_of_admissible opens admissible, ← counted]
            exact ⟨blocks, closing, .granted opened (series grant), rfl,
              fun succeeds => ⟨crc, closes succeeds⟩⟩
        | interrupted unsent =>
            obtain ⟨begun, offers, _⟩ := unsent.offered_of_error
            rw [answered_last grant unsent.unheard offers, receivedIn_last grant unsent.unheard,
              acceptedReplies_of_admissible opens admissible]
            exact ⟨[Block.first grant], .unclosed,
              .granted opened (.unfinished admissible begun), rfl, nofun⟩
      · have opens : Opens node grant := ⟨crc, opened⟩
        rw [reacts] at aftermath
        cases aftermath with
        | @finished _ _ _ _ answer _ sent =>
            rw [answered_last grant sent.unheard (by simp [sent.offeredIn_single]),
              sent.offeredIn_single, receivedIn_last grant sent.unheard,
              acceptedReplies_of_inadmissible opens inadmissible]
            refine ⟨[], .refused, .granted opened (.refused grant inadmissible), rfl, ?_⟩
            cases answer <;> exact nofun
      · rw [reacts] at aftermath
        cases aftermath with
        | finished sent =>
            cases sent
            exact ⟨[], .unclosed, .ungranted, (acceptedReplies_of_not_opens foreign []).symm, nofun⟩
      · rw [reacts] at aftermath
        cases aftermath with
        | ignored later =>
            obtain ⟨course, inductionHypothesis⟩ := later
            rw [answered_unanswered grant course.listening,
              show receivedIn (.received grant :: journal) = grant :: receivedIn journal from rfl,
              acceptedReplies_of_not_opens foreign]
            exact inductionHypothesis rfl

theorem blockTurns_run {σ : Type} [Transport σ ε] (budget : Nat) (offerCrc : Bool)
    {request : Message} (nodeFits : node.toNat ≤ 127)
    (built : Request.initiateBlockDownload node index subindex data.length offerCrc
      = .ok request)
    (transport : σ) :
    let run := (blockDownload budget offerCrc node index subindex data).run transport
    offeredIn run.journal = request :: (answered run.journal).flatMap Turn.offered
    ∧ ∃ blocks closing,
        BlockTurns node index subindex data (answered run.journal) blocks closing
        ∧ (answered run.journal).map Turn.heard
            = acceptedReplies node data.length (receivedIn run.journal)
        ∧ (run.answer.result = .ok () → ∃ crc, closing = .ended crc) := by
  intro run
  rcases course_run (blockDownload budget offerCrc node index subindex data) built transport
    with ⟨cause, unopened, failed⟩ | ⟨traffic, opened, course⟩
  · have unanswered : answered run.journal = [] := answered_of_unsent unopened
    have unheard : receivedIn run.journal = [] := receivedIn_of_unsent unopened
    rw [unanswered, unheard]
    refine ⟨offeredIn_of_unsent unopened, [], .unclosed, .ungranted, rfl, ?_⟩
    rw [show run.answer = _ from failed]
    exact nofun
  · have answeredEq : answered run.journal = answered traffic := answered_of_sent opened
    have heard : receivedIn run.journal = receivedIn traffic := receivedIn_of_sent opened
    rw [answeredEq, heard]
    exact ⟨offeredIn_of_sent opened course.listening, course.blockTurns nodeFits⟩

end Run

/-! ## Where blocks start -/

namespace BlockSeries

variable {crc : Bool} {block : Block} {turns : List Turn} {blocks : List Block}
  {closing : Closing}

theorem head_eq (series : BlockSeries node index subindex data crc block turns blocks closing)
    {first : Block} (here : blocks[0]? = some first) : first = block := by
  cases series with
  | refused heard inadmissible => cases here
  | unfinished admissible begun => exact (Option.some.inj here).symm
  | ended heard admissible acknowledges finished => exact (Option.some.inj here).symm
  | resumed heard admissible acknowledges unfinished later =>
      exact (Option.some.inj here).symm

theorem admissible
    (series : BlockSeries node index subindex data crc block turns blocks closing) :
    ∀ later ∈ blocks, later.Admissible := by
  induction series with
  | refused heard inadmissible => exact nofun
  | unfinished admissible begun => exact List.forall_mem_singleton.2 admissible
  | ended heard admissible acknowledges finished =>
      exact List.forall_mem_singleton.2 admissible
  | resumed heard admissible acknowledges unfinished later inductionHypothesis =>
      exact List.forall_mem_cons.2 ⟨admissible, inductionHypothesis⟩

/-- What holds of a block and passes from any block to the one that an acknowledgement
asks for holds of all blocks from there on. -/
theorem forall_blocks {holds : Block → Prop}
    (series : BlockSeries node index subindex data crc block turns blocks closing)
    (start : holds block)
    (step : ∀ earlier ack, holds earlier → ¬ earlier.FinishedBy data.length ack →
      holds (earlier.next data.length ack)) :
    ∀ later ∈ blocks, holds later := by
  induction series with
  | refused heard inadmissible => exact nofun
  | unfinished admissible begun => exact List.forall_mem_singleton.2 start
  | ended heard admissible acknowledges finished => exact List.forall_mem_singleton.2 start
  | resumed heard admissible acknowledges unfinished later inductionHypothesis =>
      exact List.forall_mem_cons.2 ⟨start, inductionHypothesis (step _ _ start unfinished)⟩

theorem aligned
    (series : BlockSeries node index subindex data crc block turns blocks closing)
    (start : block.Aligned data.length) : ∀ later ∈ blocks, later.Aligned data.length :=
  series.forall_blocks start fun _ _ aligned unfinished => aligned.next unfinished

theorem start_le
    (series : BlockSeries node index subindex data crc block turns blocks closing) :
    ∀ later ∈ blocks, block.start ≤ later.start :=
  series.forall_blocks (Nat.le_refl _) fun _ _ reached _ =>
    Nat.le_trans reached (Nat.le_add_right _ _)

theorem ordered
    (series : BlockSeries node index subindex data crc block turns blocks closing) :
    blocks.Pairwise fun earlier later => earlier.start ≤ later.start := by
  induction series with
  | refused heard inadmissible => exact .nil
  | unfinished admissible begun => exact List.pairwise_singleton _ _
  | ended heard admissible acknowledges finished => exact List.pairwise_singleton _ _
  | resumed heard admissible acknowledges unfinished later inductionHypothesis =>
      refine List.pairwise_cons.2 ⟨fun other member => ?_, inductionHypothesis⟩
      exact Nat.le_trans (Nat.le_add_right _ _) (later.start_le other member)

theorem length_eq
    (series : BlockSeries node index subindex data crc block turns blocks closing) :
    turns.length = blocks.length + (closing.frames node index subindex data).length := by
  induction series with
  | refused heard inadmissible => rfl
  | unfinished admissible begun => rfl
  | ended heard admissible acknowledges finished => rfl
  | resumed heard admissible acknowledges unfinished later inductionHypothesis =>
      rw [List.length_cons, inductionHypothesis, List.length_cons, Nat.add_right_comm]

/-- All that is handed over are the blocks and what closes them, perhaps cut short. -/
theorem offered_prefix
    (series : BlockSeries node index subindex data crc block turns blocks closing) :
    turns.flatMap Turn.offered
      <+: blocks.flatMap (Block.segments node data)
        ++ closing.frames node index subindex data := by
  induction series with
  | refused heard inadmissible => exact List.prefix_refl _
  | unfinished admissible begun => simpa [Closing.frames] using begun
  | ended heard admissible acknowledges finished => simp [Closing.frames]
  | @resumed block _ _ _ _ _ heard admissible acknowledges unfinished later
      inductionHypothesis =>
      have whole :=
        (List.prefix_append_right_inj (block.segments node data)).2 inductionHypothesis
      rwa [← List.append_assoc] at whole

theorem acknowledged
    (series : BlockSeries node index subindex data crc block turns blocks closing)
    {place : Nat} {turn : Turn} (here : turns[place + 1]? = some turn) :
    Acknowledges node turn.heard := by
  induction series generalizing place with
  | refused heard inadmissible => cases here
  | unfinished admissible begun => cases here
  | ended heard admissible acknowledges finished =>
      cases place with
      | zero =>
          cases here
          exact acknowledges
      | succ place => cases here
  | resumed heard admissible acknowledges unfinished later inductionHypothesis =>
      cases place with
      | zero =>
          cases here
          exact acknowledges
      | succ place => exact inductionHypothesis here

theorem offered_eq
    (series : BlockSeries node index subindex data crc block turns blocks closing)
    {place : Nat} {sent : Block} {turn : Turn} (sentHere : blocks[place]? = some sent)
    (turnHere : turns[place]? = some turn) :
    turn.offered <+: sent.segments node data
      ∧ (place + 1 < turns.length → turn.offered = sent.segments node data) := by
  induction series generalizing place with
  | refused heard inadmissible => cases sentHere
  | unfinished admissible begun =>
      cases place with
      | zero =>
          cases sentHere
          cases turnHere
          exact ⟨begun, fun follows => absurd follows (Nat.lt_irrefl _)⟩
      | succ place => cases sentHere
  | ended heard admissible acknowledges finished =>
      cases place with
      | zero =>
          cases sentHere
          cases turnHere
          exact ⟨List.prefix_refl _, fun _ => rfl⟩
      | succ place => cases sentHere
  | resumed heard admissible acknowledges unfinished later inductionHypothesis =>
      cases place with
      | zero =>
          cases sentHere
          cases turnHere
          exact ⟨List.prefix_refl _, fun _ => rfl⟩
      | succ place =>
          obtain ⟨begun, complete⟩ := inductionHypothesis sentHere turnHere
          exact ⟨begun, fun follows => complete (Nat.lt_of_succ_lt_succ follows)⟩

/-- A block that follows another is the one that the acknowledgement of the other asks
for. -/
theorem next_eq
    (series : BlockSeries node index subindex data crc block turns blocks closing)
    {place : Nat} {earlier later : Block} {turn : Turn}
    (earlierHere : blocks[place]? = some earlier) (laterHere : blocks[place + 1]? = some later)
    (turnHere : turns[place + 1]? = some turn) :
    ¬ earlier.FinishedBy data.length turn.heard
      ∧ later = earlier.next data.length turn.heard := by
  induction series generalizing place with
  | refused heard inadmissible => cases earlierHere
  | unfinished admissible begun => cases laterHere
  | ended heard admissible acknowledges finished => cases laterHere
  | resumed heard admissible acknowledges unfinished rest inductionHypothesis =>
      cases place with
      | zero =>
          cases earlierHere
          cases turnHere
          exact ⟨unfinished, rest.head_eq laterHere⟩
      | succ place => exact inductionHypothesis earlierHere laterHere turnHere

/-- The end is announced behind whole blocks, for an acknowledgement that finishes the
last of them. -/
theorem finished_of_ended {flag : Bool}
    (series : BlockSeries node index subindex data crc block turns blocks (.ended flag)) :
    ∃ before last ack, turns = before ++ [⟨ack, [endMessage node data flag]⟩]
      ∧ (∀ turn ∈ before, ∃ sent ∈ blocks, turn.offered = sent.segments node data)
      ∧ blocks.getLast? = some last ∧ last.FinishedBy data.length ack ∧ flag = crc := by
  generalize closed : Closing.ended flag = closing at series
  induction series with
  | refused heard inadmissible => cases closed
  | unfinished admissible begun => cases closed
  | @ended block ack heard admissible acknowledges finished =>
      cases closed
      refine ⟨[⟨heard, block.segments node data⟩], block, ack, rfl, ?_, rfl, finished, rfl⟩
      exact List.forall_mem_singleton.2 ⟨block, List.mem_singleton_self block, rfl⟩
  | @resumed block _ _ _ blocks _ heard admissible acknowledges unfinished later
      inductionHypothesis =>
      obtain ⟨before, last, ack, split, whole, lastHere, finished⟩ := inductionHypothesis closed
      refine ⟨⟨heard, block.segments node data⟩ :: before, last, ack, ?_, ?_, ?_, finished⟩
      · rw [split, List.cons_append]
      · refine List.forall_mem_cons.2 ⟨⟨block, List.mem_cons_self, rfl⟩, fun turn member => ?_⟩
        obtain ⟨sent, among, offered⟩ := whole turn member
        exact ⟨sent, List.mem_cons_of_mem block among, offered⟩
      · rw [List.getLast?_cons, lastHere]
        rfl

theorem inadmissible_of_refused
    (series : BlockSeries node index subindex data crc block turns blocks .refused) :
    ∃ heard, turns.getLast? = some ⟨heard, [refusal node index subindex]⟩
      ∧ ((blocks = [] ∧ turns.length = 1 ∧ ¬ block.Admissible)
        ∨ ∃ last, blocks.getLast? = some last ∧ ¬ last.FinishedBy data.length heard
          ∧ ¬ (last.next data.length heard).Admissible) := by
  generalize closed : Closing.refused = closing at series
  induction series with
  | refused heard inadmissible => exact ⟨heard, rfl, .inl ⟨rfl, rfl, inadmissible⟩⟩
  | unfinished admissible begun => cases closed
  | ended heard admissible acknowledges finished => cases closed
  | @resumed block ack _ turns blocks _ heard admissible acknowledges unfinished later
      inductionHypothesis =>
      obtain ⟨reply, replyHere, reason⟩ := inductionHypothesis closed
      refine ⟨reply, ?_, .inr ?_⟩
      · rw [List.getLast?_cons, replyHere]
        rfl
      · rcases reason with ⟨rfl, _, _⟩ | ⟨last, lastHere, reason⟩
        · cases closed
          cases later with
          | refused ack inadmissible =>
              cases replyHere
              exact ⟨block, rfl, unfinished, inadmissible⟩
        · refine ⟨last, ?_, reason⟩
          rw [List.getLast?_cons, lastHere]
          rfl

end BlockSeries

/-- How the blocks of a download follow from what was heard, turn by turn. -/
structure Framed (node : UInt8) (index : UInt16) (subindex : UInt8) (data : List UInt8)
    (turns : List Turn) (blocks : List Block) (closing : Closing) : Prop where
  granted : ∀ turn, turns[0]? = some turn → Opens node turn.heard
  acknowledged : ∀ place turn, turns[place + 1]? = some turn → Acknowledges node turn.heard
  /-- Every block has a turn, and what closes them has one more. -/
  length_eq : turns.length
    = blocks.length + (closing.frames node index subindex data).length
  first_eq : ∀ block turn, blocks[0]? = some block → turns[0]? = some turn →
    block.start = 0 ∧ block.size = (turn.heard.octets.get 4).toNat
  next_eq : ∀ place earlier later turn,
    blocks[place]? = some earlier → blocks[place + 1]? = some later →
    turns[place + 1]? = some turn →
    ¬ earlier.FinishedBy data.length turn.heard
      ∧ later.start = earlier.start
          + 7 * min (turn.heard.octets.get 1).toNat (earlier.count data.length)
      ∧ later.size = (turn.heard.octets.get 2).toNat
  offered_eq : ∀ place block turn, blocks[place]? = some block → turns[place]? = some turn →
    turn.offered <+: block.segments node data
      ∧ (place + 1 < turns.length → turn.offered = block.segments node data)
  admissible : ∀ block ∈ blocks, 1 ≤ block.size ∧ block.size ≤ 127
  aligned : ∀ block ∈ blocks, 7 ∣ block.start
  within : ∀ block ∈ blocks, ∀ place < block.count data.length,
    block.start + 7 * place ≤ data.length
  ordered : blocks.Pairwise fun earlier later => earlier.start ≤ later.start
  ended : ∀ crc, closing = .ended crc →
    ∃ last ack, blocks.getLast? = some last
      ∧ turns.getLast? = some ⟨ack, [endMessage node data crc]⟩
      ∧ min (ack.octets.get 1).toNat (last.count data.length) = last.count data.length
      ∧ data.length ≤ last.start + 7 * last.count data.length
  /-- A refusal is for the size of the block that would be next. -/
  refused : closing = .refused →
    ∃ heard, turns.getLast? = some ⟨heard, [refusal node index subindex]⟩
      ∧ ((blocks = [] ∧ ¬ (Block.first heard).Admissible)
        ∨ ∃ last, blocks.getLast? = some last ∧ ¬ last.FinishedBy data.length heard
          ∧ ¬ (last.next data.length heard).Admissible)

namespace BlockTurns

variable {turns : List Turn} {blocks : List Block} {closing : Closing}

theorem offered_prefix (download : BlockTurns node index subindex data turns blocks closing) :
    turns.flatMap Turn.offered
      <+: blocks.flatMap (Block.segments node data)
        ++ closing.frames node index subindex data := by
  cases download with
  | ungranted => exact List.prefix_refl _
  | granted opened series => exact series.offered_prefix

theorem framed (download : BlockTurns node index subindex data turns blocks closing) :
    Framed node index subindex data turns blocks closing := by
  cases download with
  | ungranted =>
      exact {
        granted := fun _ here => nomatch here
        acknowledged := fun _ _ here => nomatch here
        length_eq := rfl
        first_eq := fun _ _ here => nomatch here
        next_eq := fun _ _ _ _ here => nomatch here
        offered_eq := fun _ _ _ here => nomatch here
        admissible := fun _ member => nomatch member
        aligned := fun _ member => nomatch member
        within := fun _ member => nomatch member
        ordered := .nil
        ended := fun _ closed => nomatch closed
        refused := fun closed => nomatch closed }
  | @granted crc turn turns _ _ opened series =>
      have start := Block.aligned_first data.length turn.heard
      exact {
        granted := by
          intro first here
          cases here
          exact ⟨crc, opened⟩
        acknowledged := fun place later here => series.acknowledged here
        length_eq := series.length_eq
        first_eq := by
          intro block first blockHere here
          cases here
          rw [series.head_eq blockHere]
          exact ⟨rfl, rfl⟩
        next_eq := by
          intro place earlier later ack earlierHere laterHere ackHere
          obtain ⟨unfinished, rfl⟩ := series.next_eq earlierHere laterHere ackHere
          exact ⟨unfinished, rfl, rfl⟩
        offered_eq := fun place block sent blockHere sentHere =>
          series.offered_eq blockHere sentHere
        admissible := series.admissible
        aligned := fun block member => (series.aligned start block member).1
        within := fun block member place inside =>
          (series.aligned start block member).start_le inside
        ordered := series.ordered
        ended := by
          rintro flag rfl
          obtain ⟨before, last, ack, split, _, lastHere, ⟨all, reaches⟩, _⟩ :=
            series.finished_of_ended
          refine ⟨last, ack, lastHere, ?_, all, reaches⟩
          rw [split, List.getLast?_concat]
        refused := by
          rintro rfl
          obtain ⟨heard, here, reason⟩ := series.inadmissible_of_refused
          refine ⟨heard, here, ?_⟩
          rcases reason with ⟨none, alone, inadmissible⟩ | reason
          · left
            rw [List.length_eq_zero_iff.1 (Nat.succ.inj alone)] at here
            cases here
            exact ⟨none, inadmissible⟩
          · exact .inr reason }

end BlockTurns

/-- Whatever the transport does, a download hands over its request, then blocks and
then at most one message that closes them, perhaps cut short.  Each of these answers a
reply that counts, and no reply that counts is left without an answer.  A block has as
many segments as the reply in front of it asked for, or as are left, each telling its
place and whether it reaches the end.  The next block starts behind the segments that
were confirmed, and the end is announced only once the last byte is. -/
theorem blockDownload_framed {σ : Type} [Transport σ ε] (config : Config) (transport : σ)
    {node : UInt8} (index : UInt16) (subindex : UInt8) {data : List UInt8}
    (nodeFits : node.toNat ≤ 127) (dataFits : data.length ≤ 0xFFFFFFFF) :
    let run := Call.run config transport (.blockDownload node index subindex data)
    ∃ (request : Message) (blocks : List Block) (closing : Closing),
      Request.initiateBlockDownload node index subindex data.length config.blockCrc
        = .ok request
      ∧ (∀ moment, moment <+: run.journal →
          let frames := request :: (blocks.flatMap (Block.segments node data)
            ++ closing.frames node index subindex data)
          offeredIn moment <+: frames ∧ sentIn moment <+: frames)
      ∧ (answered run.journal).map Turn.heard
          = acceptedReplies node data.length (receivedIn run.journal)
      ∧ Framed node index subindex data (answered run.journal) blocks closing
      ∧ ∀ block ∈ blocks,
          (block.segments node data).length
            = min block.size (max 1 ((data.length - block.start + 6) / 7))
          ∧ ∀ place segment, (block.segments node data)[place]? = some segment →
              let position := block.start + 7 * place
              let chunk := (data.drop position).take 7
              SegmentHeader.ofByte segment.octets.first
                = ⟨decide (data.length ≤ position + 7), UInt8.ofNat (place + 1)⟩
              ∧ segment.tail = chunk ++ List.replicate (7 - chunk.length) 0 := by
  intro run
  obtain ⟨request, built⟩ :=
    Request.initiateBlockDownload_eq_ok nodeFits index subindex dataFits config.blockCrc
  obtain ⟨opening, blocks, closing, download, counted, _⟩ :=
    blockTurns_run config.transferRounds config.blockCrc nodeFits built transport
  have framed := download.framed
  have whole : offeredIn run.journal <+: request :: (blocks.flatMap (Block.segments node data)
      ++ closing.frames node index subindex data) := by
    rw [show offeredIn run.journal = _ from opening]
    exact List.cons_prefix_cons.2 ⟨rfl, download.offered_prefix⟩
  refine ⟨request, blocks, closing, built, ?_, counted, framed, ?_⟩
  · intro moment earlier
    have sent := sentIn_run_prefix
      (Transfer.blockDownload config.transferRounds config.blockCrc node index subindex data)
      built transport
    exact ⟨(earlier.filterMap Entry.offered?).trans whole,
      ((earlier.filterMap Entry.sent?).trans sent).trans whole⟩
  · intro block member
    refine ⟨Block.length_segments node data block, ?_⟩
    intro place segment here
    obtain ⟨inside, rfl⟩ := Block.eq_segment_of_getElem? here
    have tail := Block.tail_segment node data block place
    rw [chunkAt, List.drop_drop] at tail
    exact ⟨Block.ofByte_segment node (framed.admissible block member) inside, tail⟩

/-- With one of two segments confirmed, the next block starts at the second. -/
theorem blockDownload_framed_resuming :
    let data : List UInt8 := [1, 2, 3, 4, 5, 6, 7, 8, 9, 10, 11, 12, 13, 14, 15, 16]
    let link := PlainLink.replaying 5 [[0xA4, 0x00, 0x20, 1, 2], [0xA2, 1, 3]]
    let run := Call.run {} link (.blockDownload 5 0x2000 1 data)
    Framed 5 0x2000 1 data (answered run.journal) [⟨0, 2⟩, ⟨7, 3⟩] .unclosed := by
  intro data link run
  have nodeFits : (5 : UInt8).toNat ≤ 127 := by decide
  have dataFits : data.length ≤ 0xFFFFFFFF := by decide
  obtain ⟨_, blocks, closing, _, _, _, framed, _⟩ :=
    blockDownload_framed {} link 0x2000 1 nodeFits dataFits
  have offered : (answered run.journal).map (fun turn => turn.offered.length) = [2, 2] := by
    decide +kernel
  have grant : (answered run.journal)[0]?.map (fun turn => (turn.heard.octets.get 4).toNat)
      = some 2 := by decide +kernel
  have ack : (answered run.journal)[1]?.map
      (fun turn => ((turn.heard.octets.get 1).toNat, (turn.heard.octets.get 2).toNat))
      = some (1, 3) := by decide +kernel
  have lastOffered := congrArg List.getLast? offered
  rw [List.getLast?_map] at lastOffered
  have unclosed : closing = .unclosed := by
    cases closing with
    | unclosed => rfl
    | ended crc =>
        obtain ⟨_, _, _, last, _⟩ := framed.ended crc rfl
        rw [last] at lastOffered
        cases lastOffered
    | refused =>
        obtain ⟨_, last, _⟩ := framed.refused rfl
        rw [last] at lastOffered
        cases lastOffered
  subst unclosed
  have two : blocks.length = 2 :=
    framed.length_eq.symm.trans (List.length_map _ ▸ congrArg List.length offered)
  obtain ⟨first, second, rfl⟩ : ∃ first second, blocks = [first, second] := by
    rcases blocks with _ | ⟨first, _ | ⟨second, _ | ⟨third, others⟩⟩⟩
    · cases two
    · cases two
    · exact ⟨first, second, rfl⟩
    · cases two
  obtain ⟨_, grantHere, sized⟩ := Option.map_eq_some_iff.1 grant
  obtain ⟨_, ackHere, confirmed⟩ := Option.map_eq_some_iff.1 ack
  obtain ⟨one, three⟩ := Prod.mk.inj confirmed
  obtain ⟨firstStart, firstSize⟩ := framed.first_eq first _ rfl grantHere
  obtain ⟨_, secondStart, secondSize⟩ := framed.next_eq 0 first second _ rfl rfl ackHere
  obtain rfl : first = ⟨0, 2⟩ := Block.ext firstStart (firstSize.trans sized)
  rw [one] at secondStart
  have seventh : 0 + 7 * min 1 (Block.count ⟨0, 2⟩ data.length) = 7 := by
    decide +kernel
  obtain rfl : second = ⟨7, 3⟩ :=
    Block.ext (secondStart.trans seventh) (secondSize.trans three)
  exact framed

end CanOpen.Sdo
