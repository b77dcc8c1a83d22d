import CanOpen.Proofs.Awaiting
import CanOpen.Proofs.ServiceData
import CanOpen.Sdo.Client

/-!
# A segmented download stops and waits

The segments of some data are listed by position.  A segmented download sends
them in this order, each one in answer to the message that confirms what was
sent before, and it succeeds exactly if every one of these confirmations comes
before its budget is used up.
-/

set_option autoImplicit false

namespace CanOpen.Sdo

variable {ε : Type}

/-- How many segments some bytes fill, the last one perhaps in part. -/
def segmentCount (length : Nat) : Nat :=
  (length + 6) / 7

def downloadCommand (data : List UInt8) (position : Nat) : ClientCommand :=
  .downloadSegment (toggleAt position) (UInt8.ofNat (7 - (chunkAt data position).length))
    (position + 1 == segmentCount data.length)

def downloadSegment (node : UInt8) (data : List UInt8) (position : Nat) : Message :=
  .request node
    (Octets.ofList ((downloadCommand data position).toByte :: chunkAt data position))

def downloadSegments (node : UInt8) (data : List UInt8) : List Message :=
  (List.range (segmentCount data.length)).map (downloadSegment node data)

/-- Whether a message lets a download move on after a number of segments: the
grant before the first one, then the acknowledgement with the toggle of the last. -/
def Confirms (node : UInt8) : Nat → Message → Prop
  | 0, message => message.said? node = some .initiateDownloadAck
  | sent + 1, message => message.said? node = some (.downloadSegmentAck (toggleAt sent))

/-- The traffic of a download that waits for the confirmation of a position, with a
number of messages left to receive and these segments still to send, and its result. -/
inductive StopAndWait (node : UInt8) (budget : Nat) :
    (left position : Nat) → List Message → List (Entry ε) → Except (Failure ε) Unit → Prop
  | exhausted (position : Nat) (segments : List Message) :
      StopAndWait node budget 0 position segments [] (.error .timeout)
  | unreceived (left position : Nat) (segments : List Message) (cause : ε) :
      StopAndWait node budget (left + 1) position segments [.unreceived cause]
        (.error (.transport cause))
  | passed {left position : Nat} {segments : List Message} {journal : List (Entry ε)}
      {message : Message} {result : Except (Failure ε) Unit}
      (foreign : ¬ Confirms node position message)
      (noAbort : message.said? node ≠ some .abort)
      (later : StopAndWait node budget left position segments journal result) :
      StopAndWait node budget (left + 1) position segments (.received message :: journal)
        result
  | aborted {left position : Nat} {message : Message} (segments : List Message)
      (failure : Failure ε) (foreign : ¬ Confirms node position message)
      (aborts : message.said? node = some .abort) :
      StopAndWait node budget (left + 1) position segments [.received message]
        (.error failure)
  | completed {left position : Nat} {message : Message}
      (confirms : Confirms node position message) :
      StopAndWait node budget (left + 1) position [] [.received message] (.ok ())
  | continued {left position : Nat} {message segment : Message} {others : List Message}
      {journal : List (Entry ε)} {result : Except (Failure ε) Unit}
      (confirms : Confirms node position message)
      (later : StopAndWait node budget budget (position + 1) others journal result) :
      StopAndWait node budget (left + 1) position (segment :: others)
        (.received message :: .sent segment :: journal) result
  | interrupted {left position : Nat} {message : Message} (segment : Message)
      (others : List Message) (cause : ε) (confirms : Confirms node position message) :
      StopAndWait node budget (left + 1) position (segment :: others)
        [.received message, .unsent segment cause] (.error (.transport cause))

/-- The traffic of a download that gets all its confirmations: each comes after
fewer messages than are left of the budget, none of them an abort, and the next
segment is sent at once. -/
inductive Confirmed (node : UInt8) (budget : Nat) :
    (left position : Nat) → List Message → List (Entry ε) → Prop
  | passed {left position : Nat} {segments : List Message} {journal : List (Entry ε)}
      {message : Message} (foreign : ¬ Confirms node position message)
      (noAbort : message.said? node ≠ some .abort)
      (later : Confirmed node budget left position segments journal) :
      Confirmed node budget (left + 1) position segments (.received message :: journal)
  | completed {left position : Nat} {message : Message}
      (confirms : Confirms node position message) :
      Confirmed node budget (left + 1) position [] [.received message]
  | continued {left position : Nat} {message segment : Message} {others : List Message}
      {journal : List (Entry ε)} (confirms : Confirms node position message)
      (later : Confirmed node budget budget (position + 1) others journal) :
      Confirmed node budget (left + 1) position (segment :: others)
        (.received message :: .sent segment :: journal)

/-- Whether events confirm what a download sends, if so many segments are still to be sent: each
confirmation comes after fewer messages than are left of the budget, none of them an abort. -/
inductive ConfirmedBy (node : UInt8) (budget : Nat) :
    (left position remaining : Nat) → Stream' (Except ε Message) → Prop
  | passed {left position remaining : Nat} {events : Stream' (Except ε Message)}
      {message : Message} (foreign : ¬ Confirms node position message)
      (noAbort : message.said? node ≠ some .abort)
      (later : ConfirmedBy node budget left position remaining events) :
      ConfirmedBy node budget (left + 1) position remaining (Stream'.cons (.ok message) events)
  | completed {left position : Nat} {message : Message} (events : Stream' (Except ε Message))
      (confirms : Confirms node position message) :
      ConfirmedBy node budget (left + 1) position 0 (Stream'.cons (.ok message) events)
  | continued {left position remaining : Nat} {events : Stream' (Except ε Message)}
      {message : Message} (confirms : Confirms node position message)
      (later : ConfirmedBy node budget budget (position + 1) remaining events) :
      ConfirmedBy node budget (left + 1) position (remaining + 1)
        (Stream'.cons (.ok message) events)

/-! ## Segments -/

@[simp]
theorem length_downloadSegments (node : UInt8) (data : List UInt8) :
    (downloadSegments node data).length = segmentCount data.length := by
  simp [downloadSegments]

theorem drop_isEmpty_iff (data : List UInt8) (position : Nat) :
    (data.drop (7 * position)).isEmpty = true ↔ segmentCount data.length ≤ position := by
  rw [List.isEmpty_iff, List.drop_eq_nil_iff, segmentCount]
  omega

theorem eq_downloadSegment_of_getElem? {node : UInt8} {data : List UInt8} {position : Nat}
    {segment : Message} (here : (downloadSegments node data)[position]? = some segment) :
    segment = downloadSegment node data position := by
  obtain ⟨inside, here⟩ := List.getElem?_eq_some_iff.1 here
  rw [← here]
  simp [downloadSegments]

theorem downloadSegments_drop {node : UInt8} {data : List UInt8} {position : Nat}
    (before : position < segmentCount data.length) :
    (downloadSegments node data).drop position
      = downloadSegment node data position
        :: (downloadSegments node data).drop (position + 1) := by
  have inside : position < (downloadSegments node data).length := by
    rwa [length_downloadSegments]
  rw [List.drop_eq_getElem_cons inside]
  simp [downloadSegments]

theorem downloadSegment_eq_ok {node : UInt8} (nodeFits : node.toNat ≤ 127)
    {data : List UInt8} {position : Nat} (last : Bool)
    (isLast : last = (position + 1 == segmentCount data.length)) :
    Request.downloadSegment node (toggleAt position) (chunkAt data position) last
      = .ok (downloadSegment node data position) := by
  rw [Request.downloadSegment, Request.carrying_eq_ok nodeFits _
    (length_chunkAt_le data position), isLast]
  rfl

/-- The command byte of a segment says what the segment carries. -/
theorem ofByte_downloadSegment (node : UInt8) (data : List UInt8) (position : Nat) :
    ClientCommand.ofByte (downloadSegment node data position).octets.first
      = downloadCommand data position := by
  have inRange : (UInt8.ofNat (7 - (chunkAt data position).length)).toNat ≤ 7 := by
    rw [UInt8.toNat_ofNat']
    omega
  rw [downloadSegment, Message.first_request]
  exact ClientCommand.ofByte_toByte_downloadSegment inRange _ _

theorem tail_downloadSegment (node : UInt8) (data : List UInt8) (position : Nat) :
    (downloadSegment node data position).tail
      = chunkAt data position ++ List.replicate (7 - (chunkAt data position).length) 0 :=
  Message.tail_request (length_chunkAt_le data position)

theorem segmentBytes_downloadSegment (node : UInt8) (data : List UInt8) (position : Nat) :
    (downloadSegment node data position).segmentBytes = chunkAt data position := by
  have bound := length_chunkAt_le data position
  have unused := ClientCommand.unused_of_downloadSegment
    (ofByte_downloadSegment node data position)
  have kept : 7 - (UInt8.ofNat (7 - (chunkAt data position).length)).toNat
      = (chunkAt data position).length := by
    rw [UInt8.toNat_ofNat']
    omega
  rw [Message.segmentBytes, unused, kept, tail_downloadSegment, List.take_left]

/-- The segments hold the data, all of it and in order. -/
theorem flatMap_segmentBytes_downloadSegments (node : UInt8) (data : List UInt8) :
    (downloadSegments node data).flatMap Message.segmentBytes = data := by
  have bytes : (downloadSegments node data).flatMap Message.segmentBytes
      = (List.range (segmentCount data.length)).flatMap (chunkAt data) := by
    rw [downloadSegments, List.flatMap_map]
    simp only [segmentBytes_downloadSegment]
  have enough : data.length ≤ 7 * segmentCount data.length := by
    rw [segmentCount]
    omega
  rw [bytes, flatMap_chunkAt, List.take_of_length_le enough]

/-! ## One message -/

section Download

open Transfer

variable {budget : Nat} {node : UInt8} {index : UInt16} {subindex : UInt8}
  {data : List UInt8}

/-- Where a download stands after a number of segments was sent. -/
def downloadAfter (data : List UInt8) : Nat → Download
  | 0 => ⟨none, data⟩
  | sent + 1 => ⟨some (toggleAt sent), data.drop (7 * (sent + 1))⟩

theorem remaining_downloadAfter (data : List UInt8) (sent : Nat) :
    (downloadAfter data sent).remaining = data.drop (7 * sent) := by
  cases sent with
  | zero => rfl
  | succ sent => rfl

theorem advance_of_remaining (nodeFits : node.toNat ≤ 127) {sent : Nat}
    (remaining : sent < segmentCount data.length) :
    ((downloadAfter data sent).advance node (toggleAt sent) : Reaction ε Download Unit)
      = .proceed [] [.ok (downloadSegment node data sent)]
          (downloadAfter data (sent + 1)) := by
  have notEmpty : ¬ (data.drop (7 * sent)).isEmpty = true := by
    rw [drop_isEmpty_iff]
    omega
  have rest : (data.drop (7 * sent)).drop segmentCapacity = data.drop (7 * (sent + 1)) := by
    rw [List.drop_drop]
    rfl
  have isLast :
      (data.drop (7 * (sent + 1))).isEmpty = (sent + 1 == segmentCount data.length) := by
    rw [Bool.eq_iff_iff, drop_isEmpty_iff, beq_iff_eq]
    omega
  have built :
      Request.downloadSegment node (toggleAt sent)
          ((data.drop (7 * sent)).take segmentCapacity) (data.drop (7 * (sent + 1))).isEmpty
        = .ok (downloadSegment node data sent) :=
    downloadSegment_eq_ok nodeFits _ isLast
  rw [Download.advance, remaining_downloadAfter, if_neg notEmpty]
  simp only [rest, built, downloadAfter]

theorem advance_of_none_remaining {sent : Nat}
    (none : segmentCount data.length ≤ sent) :
    ((downloadAfter data sent).advance node (toggleAt sent) : Reaction ε Download Unit)
      = .finish [] [] (downloadAfter data sent) (.ok ()) := by
  have empty := (drop_isEmpty_iff data sent).2 none
  rw [Download.advance, remaining_downloadAfter, if_pos empty]

theorem hear_cases_advance (sent : Nat) (message : Message) :
    let download : Transfer ε Download Unit := segmentedDownload budget node index subindex data
    let state := downloadAfter data sent
    (Confirms node sent message
      ∧ download.hear state message = state.advance node (toggleAt sent))
    ∨ (¬ Confirms node sent message ∧ message.said? node = some .abort
      ∧ ∃ notes failure, download.hear state message
          = .finish notes [] state (.error failure))
    ∨ (¬ Confirms node sent message ∧ message.said? node ≠ some .abort
      ∧ ∃ notes, download.hear state message = .ignore notes) := by
  intro download state
  obtain ⟨silent, ignores⟩ | ⟨payload, _, said, reacts⟩ := download.hear_cases state message
  · right; right
    have silentNode : message.said? node = none := silent
    refine ⟨?_, by simp [silentNode], ignores⟩
    cases sent <;> simp [Confirms, silentNode]
  · have saidNode : message.said? node = some (ServerCommand.ofByte payload.command) := said
    rw [reacts, saidNode]
    cases sent with
    | zero =>
        cases command : ServerCommand.ofByte payload.command <;>
          simp [download, state, segmentedDownload, command, Confirms, saidNode,
            downloadAfter, Reaction.aborted, toggleAt]
    | succ sent =>
        cases command : ServerCommand.ofByte payload.command with
        | downloadSegmentAck toggle =>
            by_cases same : toggle = toggleAt sent <;>
              simp [download, state, segmentedDownload, command, Confirms, saidNode,
                downloadAfter, same, toggleAt_succ]
        | _ =>
            simp [download, state, segmentedDownload, command, Confirms, saidNode,
              downloadAfter, Reaction.aborted]

/-- The confirmation awaited makes a download send the next segment or, if there is
none, succeed; an abort ends it, and any other message is ignored. -/
theorem hear_segmentedDownload (nodeFits : node.toNat ≤ 127) (sent : Nat)
    (message : Message) :
    let download : Transfer ε Download Unit := segmentedDownload budget node index subindex data
    let state := downloadAfter data sent
    (Confirms node sent message ∧ sent < segmentCount data.length
      ∧ download.hear state message
          = .proceed [] [.ok (downloadSegment node data sent)] (downloadAfter data (sent + 1)))
    ∨ (Confirms node sent message ∧ segmentCount data.length ≤ sent
      ∧ download.hear state message = .finish [] [] state (.ok ()))
    ∨ (¬ Confirms node sent message ∧ message.said? node = some .abort
      ∧ ∃ notes failure, download.hear state message
          = .finish notes [] state (.error failure))
    ∨ (¬ Confirms node sent message ∧ message.said? node ≠ some .abort
      ∧ ∃ notes, download.hear state message = .ignore notes) := by
  intro download state
  obtain ⟨confirms, advances⟩ | others := @hear_cases_advance ε budget node index
    subindex data sent message
  · by_cases remaining : sent < segmentCount data.length
    · exact .inl ⟨confirms, remaining, advances.trans (advance_of_remaining nodeFits remaining)⟩
    · have none : segmentCount data.length ≤ sent := Nat.not_lt.1 remaining
      exact .inr (.inl ⟨confirms, none, advances.trans (advance_of_none_remaining none)⟩)
  · exact .inr (.inr others)

/-! ## Whole courses -/

theorem stopAndWait_of_course (nodeFits : node.toNat ≤ 127) {sent left : Nat}
    (started : sent ≤ segmentCount data.length)
    {journal : List (Entry ε)} {ending : Ending ε Download Unit}
    (course : Course (segmentedDownload budget node index subindex data)
      (downloadAfter data sent) left journal ending) :
    StopAndWait node budget left sent ((downloadSegments node data).drop sent) journal
      ending.result := by
  generalize standing : downloadAfter data sent = state at course
  induction course using Course.induct generalizing sent with
  | exhausted state => exact .exhausted sent _
  | unreceived state left cause => exact .unreceived left sent _ cause
  | received state left message journal ending course aftermath =>
      subst standing
      rcases hear_segmentedDownload nodeFits sent message with
          ⟨confirms, remaining, reacts⟩ | ⟨confirms, none, reacts⟩
            | ⟨foreign, aborts, _, failure, reacts⟩ | ⟨foreign, noAbort, _, reacts⟩
      · rw [reacts] at aftermath
        rw [downloadSegments_drop remaining]
        cases aftermath with
        | proceeded sending later =>
            obtain ⟨course, inductionHypothesis⟩ := later
            rw [sending.eq_sent_of_ok [downloadSegment node data sent]]
            exact .continued confirms (inductionHypothesis remaining rfl)
        | interrupted unsent =>
            obtain ⟨cause, rfl, rfl⟩ := unsent.eq_unsent_of_error
            exact .interrupted _ _ cause confirms
      · rw [reacts] at aftermath
        cases aftermath with
        | finished sending =>
            cases sending
            rw [List.drop_eq_nil_of_le (by rwa [length_downloadSegments])]
            exact .completed confirms
      · rw [reacts] at aftermath
        cases aftermath with
        | finished sending =>
            cases sending
            exact .aborted _ failure foreign aborts
      · rw [reacts] at aftermath
        cases aftermath with
        | ignored later =>
            obtain ⟨course, inductionHypothesis⟩ := later
            exact .passed foreign noAbort (inductionHypothesis started rfl)

end Download

theorem StopAndWait.listening {node : UInt8} {budget left position : Nat}
    {segments : List Message} {journal : List (Entry ε)} {result : Except (Failure ε) Unit}
    (waits : StopAndWait node budget left position segments journal result) :
    Listening journal := by
  cases waits <;> simp [Listening, Entry.received?, Entry.offered?]

/-- What is answered is a run of confirmations, each with the segment that is next;
all segments are among them if the download succeeds. -/
theorem StopAndWait.answered_eq {node : UInt8} {budget left position : Nat}
    {segments : List Message} {journal : List (Entry ε)} {result : Except (Failure ε) Unit}
    (waits : StopAndWait node budget left position segments journal result) :
    ∃ acks : List Message,
      answered journal = List.zipWith (fun ack segment => ⟨ack, [segment]⟩) acks segments
      ∧ acks.length ≤ segments.length
      ∧ (∀ place (inside : place < acks.length),
          Confirms node (position + place) acks[place])
      ∧ (result = .ok () → acks.length = segments.length) := by
  induction waits with
  | exhausted position segments => exact ⟨[], rfl, Nat.zero_le _, nofun, nofun⟩
  | unreceived left position segments cause =>
      exact ⟨[], rfl, Nat.zero_le _, nofun, nofun⟩
  | passed foreign noAbort later inductionHypothesis =>
      rw [answered_unanswered _ later.listening]
      exact inductionHypothesis
  | aborted segments failure foreign aborts =>
      exact ⟨[], rfl, Nat.zero_le _, nofun, nofun⟩
  | completed confirms => exact ⟨[], rfl, Nat.le_refl _, nofun, fun _ => rfl⟩
  | @continued left position message segment others journal result confirms later
      inductionHypothesis =>
      obtain ⟨acks, answeredLater, bound, confirmed, all⟩ := inductionHypothesis
      have quiet : Unheard [(.sent segment : Entry ε)] := by
        simp [Unheard, Entry.received?]
      have split := answered_received message quiet later.listening (by simp [Entry.offered?])
      refine ⟨message :: acks, ?_, ?_, ?_, ?_⟩
      · rw [List.zipWith_cons_cons, ← answeredLater]
        exact split
      · exact Nat.succ_le_succ bound
      · intro place inside
        cases place with
        | zero => exact confirms
        | succ place =>
            have here := confirmed place (Nat.lt_of_succ_lt_succ inside)
            rw [Nat.add_right_comm] at here
            exact here
      · intro succeeds
        rw [List.length_cons, List.length_cons, all succeeds]
  | @interrupted left position message segment others cause confirms =>
      refine ⟨[message], rfl, Nat.succ_le_succ (Nat.zero_le _), ?_, nofun⟩
      intro place inside
      have first : place = 0 := by
        rw [List.length_singleton] at inside
        omega
      subst first
      exact confirms

theorem StopAndWait.eq_ok_iff {node : UInt8} {budget left position : Nat}
    {segments : List Message} {journal : List (Entry ε)} {result : Except (Failure ε) Unit}
    (waits : StopAndWait node budget left position segments journal result) :
    result = .ok () ↔ Confirmed node budget left position segments journal := by
  induction waits with
  | exhausted position segments => exact ⟨nofun, nofun⟩
  | unreceived left position segments cause => exact ⟨nofun, nofun⟩
  | passed foreign noAbort later inductionHypothesis =>
      rw [inductionHypothesis]
      constructor
      · exact .passed foreign noAbort
      · intro confirmed
        cases confirmed with
        | passed _ _ rest => exact rest
        | completed confirms => exact absurd confirms foreign
        | continued confirms rest => exact absurd confirms foreign
  | aborted segments failure foreign aborts =>
      refine ⟨nofun, fun confirmed => ?_⟩
      cases confirmed with
      | passed _ noAbort _ => exact absurd aborts noAbort
      | completed confirms => exact absurd confirms foreign
  | completed confirms => exact ⟨fun _ => .completed confirms, fun _ => rfl⟩
  | continued confirms later inductionHypothesis =>
      rw [inductionHypothesis]
      constructor
      · exact .continued confirms
      · intro confirmed
        cases confirmed with
        | passed foreign _ _ => exact absurd confirms foreign
        | continued _ rest => exact rest
  | interrupted segment others cause confirms =>
      refine ⟨nofun, fun confirmed => ?_⟩
      cases confirmed with
      | passed foreign _ _ => exact absurd confirms foreign

theorem ConfirmedBy.left_pos {node : UInt8} {budget left position remaining : Nat}
    {events : Stream' (Except ε Message)}
    (confirmed : ConfirmedBy node budget left position remaining events) : 0 < left := by
  cases confirmed <;> exact Nat.succ_pos _

/-- What the first event does for a download that events confirm. -/
theorem ConfirmedBy.of_cons {node : UInt8} {budget left position remaining : Nat}
    {event : Except ε Message} {events : Stream' (Except ε Message)}
    (confirmed : ConfirmedBy node budget (left + 1) position remaining
      (Stream'.cons event events)) :
    ∃ message, event = .ok message
      ∧ ((¬ Confirms node position message ∧ message.said? node ≠ some .abort
          ∧ ConfirmedBy node budget left position remaining events)
        ∨ (Confirms node position message ∧ ∀ others, remaining = others + 1 →
            ConfirmedBy node budget budget (position + 1) others events)) := by
  generalize opened : left + 1 = some, whole : Stream'.cons event events = stream at confirmed
  cases confirmed with
  | passed foreign noAbort later =>
      obtain ⟨rfl, rfl⟩ := Stream'.cons_injective2 whole
      obtain rfl := Nat.succ.inj opened
      exact ⟨_, rfl, .inl ⟨foreign, noAbort, later⟩⟩
  | completed _ confirms =>
      obtain ⟨rfl, rfl⟩ := Stream'.cons_injective2 whole
      exact ⟨_, rfl, .inr ⟨confirms, nofun⟩⟩
  | continued confirms later =>
      obtain ⟨rfl, rfl⟩ := Stream'.cons_injective2 whole
      refine ⟨_, rfl, .inr ⟨confirms, ?_⟩⟩
      rintro _ ⟨⟩
      exact later

/-- If all segments are sent, a download succeeds exactly if the events that it takes confirm
them, whatever comes behind. -/
theorem StopAndWait.eq_ok_iff_confirmedBy {node : UInt8} {budget left position : Nat}
    {segments : List Message} {journal : List (Entry ε)} {result : Except (Failure ε) Unit}
    (waits : StopAndWait node budget left position segments journal result)
    (unhindered : Unhindered journal) (rest : Stream' (Except ε Message)) :
    result = .ok ()
      ↔ ConfirmedBy node budget left position segments.length (takenIn journal ++ₛ rest) := by
  induction waits with
  | exhausted position segments =>
      exact ⟨nofun, fun confirmed => absurd confirmed.left_pos (Nat.lt_irrefl 0)⟩
  | unreceived left position segments cause =>
      refine ⟨nofun, fun confirmed => ?_⟩
      obtain ⟨_, received, _⟩ := confirmed.of_cons
      cases received
  | passed foreign noAbort later inductionHypothesis =>
      rw [inductionHypothesis (List.forall_mem_cons.1 unhindered).2]
      refine ⟨.passed foreign noAbort, fun confirmed => ?_⟩
      obtain ⟨_, ⟨⟩, ⟨_, _, behind⟩ | ⟨confirms, _⟩⟩ := confirmed.of_cons
      · exact behind
      · exact absurd confirms foreign
  | aborted segments failure foreign aborts =>
      refine ⟨nofun, fun confirmed => ?_⟩
      obtain ⟨_, ⟨⟩, ⟨_, noAbort, _⟩ | ⟨confirms, _⟩⟩ := confirmed.of_cons
      · exact absurd aborts noAbort
      · exact absurd confirms foreign
  | completed confirms => exact ⟨fun _ => .completed rest confirms, fun _ => rfl⟩
  | continued confirms later inductionHypothesis =>
      have sends := (List.forall_mem_cons.1 unhindered).2
      rw [inductionHypothesis (List.forall_mem_cons.1 sends).2]
      refine ⟨.continued confirms, fun confirmed => ?_⟩
      obtain ⟨_, ⟨⟩, ⟨foreign, _, _⟩ | ⟨_, behind⟩⟩ := confirmed.of_cons
      · exact absurd confirms foreign
      · exact behind _ rfl
  | interrupted segment others cause confirms =>
      have sends := (List.forall_mem_cons.1 unhindered).2
      exact absurd (List.forall_mem_cons.1 sends).1 Bool.noConfusion

theorem flatMap_offered_zipWith {acks segments : List Message} :
    (List.zipWith (fun ack segment => (⟨ack, [segment]⟩ : Turn)) acks segments).flatMap
        Turn.offered
      = segments.take acks.length := by
  induction acks generalizing segments with
  | nil => rfl
  | cons ack acks inductionHypothesis =>
      cases segments with
      | nil => rfl
      | cons segment segments => simp [inductionHypothesis]

theorem Call.unhindered_of_ok {σ : Type} [Transport σ ε] {config : Config} {call : Call}
    {transport : σ} {value : Value}
    (succeeds : (call.run config transport).answer.result = .ok value) :
    Unhindered (call.run config transport).journal := by
  intro entry member
  cases entry with
  | unsent message cause =>
      have blamed := call.blamed_of_fault config transport _ member cause rfl
      cases succeeds.symm.trans blamed
  | _ => rfl

/-- A download that can be requested sends its request and then stops and waits, or
cannot send its request. -/
theorem stopAndWait_run {σ : Type} [Transport σ ε] (budget : Nat) {node : UInt8}
    {index : UInt16} {subindex : UInt8} {data : List UInt8} {request : Message}
    (nodeFits : node.toNat ≤ 127)
    (built : Request.initiateSegmentedDownload node index subindex data.length = .ok request)
    (transport : σ) :
    let run := (Transfer.segmentedDownload budget node index subindex data).run transport
    (∃ cause, trafficIn run.journal = [.unsent request cause]
      ∧ run.answer.result = .error (.transport cause))
    ∨ ∃ traffic, trafficIn run.journal = .sent request :: traffic
      ∧ StopAndWait node budget budget 0 (downloadSegments node data) traffic
          run.answer.result := by
  intro run
  rcases course_run (Transfer.segmentedDownload budget node index subindex data) built
      transport with ⟨cause, traffic, answer⟩ | ⟨journal, traffic, course⟩
  · exact .inl ⟨cause, traffic, congrArg Ending.result answer⟩
  · exact .inr ⟨journal, traffic, stopAndWait_of_course nodeFits (Nat.zero_le _) course⟩

/-- Whether a download succeeds is decided by the events that are offered to it, if all that it
hands over is sent. -/
theorem segmentedDownload_eq_ok_iff {σ : Type} [Transport σ ε] (config : Config) {node : UInt8}
    {index : UInt16} {subindex : UInt8} {data : List UInt8} {request : Message}
    (nodeFits : node.toNat ≤ 127)
    (built : Request.initiateSegmentedDownload node index subindex data.length = .ok request)
    {transport : σ} {events : Stream' (Except ε Message)}
    (offers : Transport.Offers node events transport) :
    let run := Call.run config transport (.segmentedDownload node index subindex data)
    run.answer.result = .ok .done
      ↔ Unhindered run.journal
        ∧ ConfirmedBy node config.transferRounds config.transferRounds 0
            (downloadSegments node data).length events := by
  intro run
  have decided (unhindered : Unhindered run.journal) :
      run.answer.result = .ok .done ↔ ConfirmedBy node config.transferRounds
        config.transferRounds 0 (downloadSegments node data).length events := by
    obtain ⟨cause, unsent, _⟩ | ⟨traffic, sent, waits⟩ :=
      stopAndWait_run config.transferRounds nodeFits built transport
    · have member : .unsent request cause ∈ run.journal :=
        List.mem_of_mem_filter (unsent ▸ List.mem_singleton_self _)
      exact absurd (unhindered _ member) Bool.noConfusion
    · have opened : trafficIn run.journal = .sent request :: traffic := sent
      obtain ⟨rest, taken⟩ := Transfer.taken_run built offers unhindered
      have taken : events = takenIn (trafficIn run.journal) ++ₛ rest := taken
      rw [taken, opened]
      refine map_done_eq_ok_iff.trans (waits.eq_ok_iff_confirmedBy ?_ rest)
      intro entry member
      exact unhindered entry (List.mem_of_mem_filter (sent ▸ List.mem_cons_of_mem _ member))
  constructor
  · intro succeeds
    have unhindered := Call.unhindered_of_ok succeeds
    exact ⟨unhindered, (decided unhindered).1 succeeds⟩
  · rintro ⟨unhindered, confirmed⟩
    exact (decided unhindered).2 confirmed

/-- Data moves in segments of seven bytes, one at a time.  Whatever the transport
does, the request is followed by segments in order, each of them the whole answer to
the message that confirms what was sent before it; nothing else is answered.  The
download succeeds exactly if all confirmations come in time, and then the data has
been sent.  Whether they do is decided by the events that the transport offers, if it
sends all that is handed to it. -/
theorem segmentedDownload_stopsAndWaits {σ : Type} [Transport σ ε] (config : Config)
    (transport : σ) {node : UInt8} (index : UInt16) (subindex : UInt8) {data : List UInt8}
    (nodeFits : node.toNat ≤ 127) (dataFits : data.length ≤ 0xFFFFFFFF) :
    let run := Call.run config transport (.segmentedDownload node index subindex data)
    let segments := downloadSegments node data
    ∃ (request : Message) (acks : List Message),
      Request.initiateSegmentedDownload node index subindex data.length = .ok request
      ∧ segments.length = (data.length + 6) / 7
      ∧ (∀ position segment, segments[position]? = some segment →
          ClientCommand.ofByte segment.octets.first
            = .downloadSegment (position % 2 == 1)
                (UInt8.ofNat (7 - (chunkAt data position).length))
                (position + 1 == segments.length)
          ∧ segment.tail = chunkAt data position
              ++ List.replicate (7 - (chunkAt data position).length) 0)
      ∧ acks.length ≤ segments.length
      ∧ (∀ place (inside : place < acks.length), Confirms node place acks[place])
      ∧ answered run.journal
          = List.zipWith (fun ack segment => ⟨ack, [segment]⟩) acks segments
      ∧ offeredIn run.journal = request :: segments.take acks.length
      ∧ sentIn run.journal <+: offeredIn run.journal
      ∧ (run.answer.result = .ok .done
          ↔ ∃ traffic, trafficIn run.journal = .sent request :: traffic
              ∧ Confirmed node config.transferRounds config.transferRounds 0 segments
                  traffic)
      ∧ (∀ events : Stream' (Except ε Message), Transport.Offers node events transport →
          (run.answer.result = .ok .done
            ↔ Unhindered run.journal
              ∧ ConfirmedBy node config.transferRounds config.transferRounds 0 segments.length
                  events))
      ∧ (run.answer.result = .ok .done
          → acks.length = segments.length ∧ sentIn run.journal = request :: segments
            ∧ segments.flatMap Message.segmentBytes = data) := by
  intro run segments
  obtain ⟨request, built⟩ :=
    Request.initiateSegmentedDownload_eq_ok nodeFits index subindex dataFits
  have count : segments.length = segmentCount data.length :=
    length_downloadSegments node data
  have contents (position : Nat) (segment : Message)
      (here : segments[position]? = some segment) :
      ClientCommand.ofByte segment.octets.first
        = .downloadSegment (toggleAt position)
            (UInt8.ofNat (7 - (chunkAt data position).length))
            (position + 1 == segments.length)
      ∧ segment.tail = chunkAt data position
          ++ List.replicate (7 - (chunkAt data position).length) 0 := by
    rw [eq_downloadSegment_of_getElem? here, count]
    exact ⟨ofByte_downloadSegment node data position, tail_downloadSegment node data position⟩
  have sentPrefix : sentIn run.journal <+: offeredIn run.journal :=
    sentIn_run_prefix
      (Transfer.segmentedDownload config.transferRounds node index subindex data) built transport
  rcases stopAndWait_run config.transferRounds nodeFits built transport with
      ⟨cause, traffic, failed⟩ | ⟨traffic, opened, waits⟩
  · have unsuccessful : run.answer.result ≠ .ok .done := by
      intro succeeds
      have succeeded := map_done_eq_ok_iff.1 succeeds
      rw [failed] at succeeded
      contradiction
    refine ⟨request, [], built, count, contents, Nat.zero_le _, nofun,
      answered_of_unsent traffic, offeredIn_of_unsent traffic, sentPrefix, ?_, ?_, ?_⟩
    · refine ⟨fun succeeds => absurd succeeds unsuccessful, ?_⟩
      rintro ⟨others, sent, _⟩
      cases traffic.symm.trans sent
    · exact fun events offers => segmentedDownload_eq_ok_iff config nodeFits built offers
    · exact fun succeeds => absurd succeeds unsuccessful
  · obtain ⟨acks, answeredEq, bound, confirmed, all⟩ := waits.answered_eq
    have offeredEq := offeredIn_of_sent opened waits.listening
    rw [answeredEq, flatMap_offered_zipWith] at offeredEq
    refine ⟨request, acks, built, count, contents, bound, ?_,
      (answered_of_sent opened).trans answeredEq, offeredEq, sentPrefix, ?_, ?_, ?_⟩
    · intro place inside
      have confirms := confirmed place inside
      rwa [Nat.zero_add] at confirms
    · refine map_done_eq_ok_iff.trans (waits.eq_ok_iff.trans ?_)
      constructor
      · exact fun confirmed => ⟨traffic, opened, confirmed⟩
      · rintro ⟨others, sent, confirmed⟩
        cases opened.symm.trans sent
        exact confirmed
    · exact fun events offers => segmentedDownload_eq_ok_iff config nodeFits built offers
    · intro succeeds
      have succeeded := map_done_eq_ok_iff.1 succeeds
      have whole : segments.take acks.length = segments :=
        List.take_of_length_le (Nat.le_of_eq (all succeeded).symm)
      refine ⟨all succeeded, ?_, flatMap_segmentBytes_downloadSegments node data⟩
      refine (sentIn_run_of_ok (Transfer.segmentedDownload config.transferRounds node index
        subindex data) built transport succeeded).trans ?_
      rw [offeredEq, whole]

/-- A confirmation that comes twice does not make a segment be sent. -/
theorem segmentedDownload_stopsAndWaits_twoSegments :
    let data : List UInt8 := [1, 2, 3, 4, 5, 6, 7, 8, 9]
    let link := PlainLink.replaying 5 [[0x60, 0x00, 0x20, 1], [0x20], [0x20], [0x30]]
    let run := Call.run {} link (.segmentedDownload 5 0x2000 1 data)
    run.answer.result = .ok .done
      ∧ ConfirmedBy 5 1000 1000 0 (downloadSegments 5 data).length
          (link.bus.outlook.readings none)
      ∧ ∃ request, sentIn run.journal = request :: downloadSegments 5 data := by
  intro data link run
  have nodeFits : (5 : UInt8).toNat ≤ 127 := by decide
  have dataFits : data.length ≤ 0xFFFFFFFF := by decide
  have succeeds : run.answer.result = .ok .done := eq_ok_of_toOption (by decide +kernel)
  obtain ⟨request, _, _, _, _, _, _, _, _, _, _, decided, complete⟩ :=
    segmentedDownload_stopsAndWaits {} link 0x2000 1 nodeFits dataFits
  obtain ⟨_, confirmed⟩ := (decided _ (PlainLink.offers 5 link)).1 succeeds
  obtain ⟨_, sent, _⟩ := complete succeeds
  exact ⟨succeeds, confirmed, request, sent⟩

end CanOpen.Sdo
