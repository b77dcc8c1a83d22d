import CanOpen.Proofs.Course
import CanOpen.Proofs.ServiceData
import CanOpen.Sdo.Client

/-!
# A segmented upload assembles the segments it accepts

Which of the messages received count, and what they bring, is a function of these
messages alone: the first grant, and after it the segments whose toggles alternate.
Their data fills the buffer from the front and nothing else in it changes, however
the upload ends.
-/

set_option autoImplicit false

namespace CanOpen

namespace Sdo.Buffer

theorem write_nil (buffer : Buffer) : buffer.write [] = buffer := by
  rw [write]

theorem write_full (written bytes : List UInt8) :
    write ⟨written, []⟩ bytes = ⟨written, []⟩ := by
  cases bytes <;> rfl

theorem write_append (buffer : Buffer) (first second : List UInt8) :
    (buffer.write first).write second = buffer.write (first ++ second) := by
  fun_induction write buffer first with
  | case1 buffer => rfl
  | case2 written byte bytes => rw [write_full, write_full]
  | case3 written byte room next bytes inductionHypothesis =>
      rw [inductionHypothesis]
      rfl

theorem contents_write_ofContents (contents bytes : List UInt8) :
    ((ofContents contents).write bytes).contents
      = bytes.take (min contents.length bytes.length)
        ++ contents.drop (min contents.length bytes.length) := by
  rw [contents_write, ofContents, List.reverse_nil, List.nil_append]
  rcases Nat.le_total contents.length bytes.length with short | long
  · rw [Nat.min_eq_left short, List.drop_length, List.drop_eq_nil_of_le short]
  · rw [Nat.min_eq_right long, List.take_length, List.take_of_length_le long]

theorem count_write_ofContents (contents bytes : List UInt8) :
    ((ofContents contents).write bytes).count = min contents.length bytes.length := by
  rw [count_write, ofContents, count, List.length_nil, Nat.zero_add, Nat.min_comm]

end Sdo.Buffer

open Sdo

namespace Message

def grantsUpload (node : UInt8) (message : Message) : Bool :=
  match message.said? node with
  | some (.initiateUpload _ _ _) => true
  | _ => false

def isSegment (node : UInt8) (toggle : Bool) (message : Message) : Bool :=
  match message.said? node with
  | some (.uploadSegment found _ _) => found == toggle
  | _ => false

def isExpedited (message : Message) : Bool :=
  Initiate.expedited.isSet message.octets.first

def isLast (message : Message) : Bool :=
  Segment.last.isSet message.octets.first

/-- The valid bytes among the last four. -/
def expeditedBytes (message : Message) : List UInt8 :=
  (message.octets.toList.drop 4).take (Payload.ofOctets message.octets).expeditedSize

end Message

namespace Sdo

variable {ε : Type}

/-- The messages that are segments of a node with alternating toggles. -/
def acceptedFrom (node : UInt8) : (awaited : Bool) → List Message → List Message
  | _, [] => []
  | awaited, message :: others =>
      if message.isSegment node awaited then
        message :: acceptedFrom node (!awaited) others
      else
        acceptedFrom node awaited others

def fromGrant (node : UInt8) (heard : List Message) : List Message :=
  heard.dropWhile fun message => !message.grantsUpload node

/-- The segments that count among the messages received: those after the grant,
unless all data came with the grant. -/
def acceptedSegments (node : UInt8) (heard : List Message) : List Message :=
  match fromGrant node heard with
  | [] => []
  | grant :: others => if grant.isExpedited then [] else acceptedFrom node false others

def grantedExpedited (node : UInt8) (heard : List Message) : Bool :=
  (fromGrant node heard).head?.any Message.isExpedited

def uploadedBytes (node : UInt8) (heard : List Message) : List UInt8 :=
  match fromGrant node heard with
  | [] => []
  | grant :: _ =>
      if grant.isExpedited then grant.expeditedBytes
      else (acceptedSegments node heard).flatMap Message.segmentBytes

/-- The messages received that ask for another segment: the grant, unless all data
came with it, and the segments that count, except the last one of the object. -/
def promptings (node : UInt8) (heard : List Message) : List Message :=
  match fromGrant node heard with
  | [] => []
  | grant :: _ =>
      if grant.isExpedited then []
      else grant :: (acceptedSegments node heard).filter fun segment => !segment.isLast

def uploadRequest (node : UInt8) (toggle : Bool) : Message :=
  .request node (Octets.ofList [(ClientCommand.uploadSegment toggle).toByte])

theorem uploadSegment_eq_ok {node : UInt8} (nodeFits : node.toNat ≤ 127) (toggle : Bool) :
    Request.uploadSegment node toggle = .ok (uploadRequest node toggle) :=
  Request.carrying_eq_ok nodeFits _ (Nat.zero_le 7)

/-! ## The bytes of a message -/

section Bytes

variable {message : Message} {payload : Payload}

theorem segmentData_of_body (body : message.body = .sdo payload) :
    payload.segmentData = message.segmentBytes := by
  rw [Message.segmentBytes, Message.tail, Message.octets_of_body body]
  rfl

theorem isLast_of_body (body : message.body = .sdo payload) :
    message.isLast = Segment.last.isSet payload.command := by
  rw [Message.isLast, Message.octets_of_body body]
  rfl

theorem isExpedited_of_body (body : message.body = .sdo payload) :
    message.isExpedited = Initiate.expedited.isSet payload.command := by
  rw [Message.isExpedited, Message.octets_of_body body]
  rfl

theorem expeditedData_of_body (body : message.body = .sdo payload) :
    payload.expeditedData = message.expeditedBytes := by
  have data : payload.toOctets.toList.drop 4 = payload.data.toList := by
    apply List.ext_getElem
    · simp
    · intro position _ inside
      rw [Vector.length_toList] at inside
      match position with
      | 0 | 1 | 2 | 3 => rfl
  rw [Message.expeditedBytes, Message.octets_of_body body, data, Payload.ofOctets_toOctets]
  rfl

end Bytes

/-! ## One message -/

section Upload

open Transfer

variable {budget : Nat} {node : UInt8} {index : UInt16} {subindex : UInt8}
  {contents : List UInt8}

theorem hear_beforeGrant (nodeFits : node.toNat ≤ 127) (buffer : Buffer)
    (message : Message) :
    let upload : Transfer ε Upload Nat := segmentedUpload budget node index subindex contents
    let state : Upload := ⟨none, buffer⟩
    (message.grantsUpload node = true ∧ message.isExpedited = true
      ∧ upload.hear state message
          = .finish [] [] ⟨none, buffer.write message.expeditedBytes⟩
              (.ok (buffer.write message.expeditedBytes).count))
    ∨ (message.grantsUpload node = true ∧ message.isExpedited = false
      ∧ ∃ notes, upload.hear state message
          = .proceed notes [.ok (uploadRequest node false)] ⟨some false, buffer⟩)
    ∨ (message.grantsUpload node = false
      ∧ ∃ notes failure, upload.hear state message
          = .finish notes [] state (.error failure))
    ∨ (message.grantsUpload node = false
      ∧ ∃ notes, upload.hear state message = .ignore notes) := by
  intro upload state
  obtain ⟨silent, ignores⟩ | ⟨payload, body, said, reacts⟩ := upload.hear_cases state message
  · right; right; right
    have silentNode : message.said? node = none := silent
    exact ⟨by simp [Message.grantsUpload, silentNode], ignores⟩
  · have saidNode : message.said? node = some (ServerCommand.ofByte payload.command) := said
    rw [reacts, isExpedited_of_body body]
    cases command : ServerCommand.ofByte payload.command with
    | initiateUpload unused expedited sized =>
        have flag := ServerCommand.expedited_of_initiateUpload command
        cases expedited <;>
          simp [upload, state, segmentedUpload, command, Message.grantsUpload, saidNode, flag,
            uploadSegment_eq_ok nodeFits, expeditedData_of_body body]
    | _ =>
        simp [upload, state, segmentedUpload, command, Message.grantsUpload, saidNode,
          Reaction.aborted]

/-- After the grant, the segment awaited alone counts. -/
theorem hear_afterGrant (nodeFits : node.toNat ≤ 127) (awaited : Bool) (buffer : Buffer)
    (message : Message) :
    let upload : Transfer ε Upload Nat := segmentedUpload budget node index subindex contents
    let state : Upload := ⟨some awaited, buffer⟩
    let filled := buffer.write message.segmentBytes
    (message.isSegment node awaited = true ∧ message.isLast = true
      ∧ upload.hear state message = .finish [] [] ⟨some awaited, filled⟩ (.ok filled.count))
    ∨ (message.isSegment node awaited = true ∧ message.isLast = false
      ∧ upload.hear state message
          = .proceed [] [.ok (uploadRequest node !awaited)] ⟨some !awaited, filled⟩)
    ∨ (message.isSegment node awaited = false
      ∧ ∃ notes failure, upload.hear state message
          = .finish notes [] state (.error failure))
    ∨ (message.isSegment node awaited = false
      ∧ ∃ notes, upload.hear state message = .ignore notes) := by
  intro upload state filled
  obtain ⟨silent, ignores⟩ | ⟨payload, body, said, reacts⟩ := upload.hear_cases state message
  · right; right; right
    have silentNode : message.said? node = none := silent
    exact ⟨by simp [Message.isSegment, silentNode], ignores⟩
  · have saidNode : message.said? node = some (ServerCommand.ofByte payload.command) := said
    rw [reacts, isLast_of_body body]
    cases command : ServerCommand.ofByte payload.command with
    | uploadSegment toggle unused last =>
        have flag := ServerCommand.last_of_uploadSegment command
        by_cases same : toggle = awaited
        · cases last <;>
            simp [upload, state, filled, segmentedUpload, command, Message.isSegment, saidNode,
              flag, same, uploadSegment_eq_ok nodeFits, segmentData_of_body body]
        · simp [upload, state, segmentedUpload, command, Message.isSegment, saidNode, same]
    | _ =>
        simp [upload, state, segmentedUpload, command, Message.isSegment, saidNode,
          Reaction.aborted]

/-! ## Whole courses -/

/-- What an upload that awaits a segment makes of the rest of its traffic: where the
bytes go, when it succeeds, and what it asks for. -/
structure Assembles (node : UInt8) (position : Nat) (buffer : Buffer)
    (journal : List (Entry ε)) (ending : Ending ε Upload Nat) : Prop where
  written : ending.final.buffer = buffer.write
    ((acceptedFrom node (toggleAt position) (receivedIn journal)).flatMap Message.segmentBytes)
  succeeds : ∀ count, ending.result = .ok count
    ↔ count = ending.final.buffer.count
      ∧ ∃ segment ∈ acceptedFrom node (toggleAt position) (receivedIn journal),
          segment.isLast = true
  prompts : answered journal
    = ((acceptedFrom node (toggleAt position) (receivedIn journal)).filter
        fun segment => !segment.isLast).mapIdx
          fun place segment => ⟨segment, [uploadRequest node (toggleAt (position + 1 + place))]⟩

theorem acceptedFrom_of_isSegment {awaited : Bool} {message : Message}
    (accepted : message.isSegment node awaited = true) (others : List Message) :
    acceptedFrom node awaited (message :: others)
      = message :: acceptedFrom node (!awaited) others := by
  rw [acceptedFrom, if_pos accepted]

theorem acceptedFrom_of_not_isSegment {awaited : Bool} {message : Message}
    (foreign : message.isSegment node awaited = false) (others : List Message) :
    acceptedFrom node awaited (message :: others) = acceptedFrom node awaited others := by
  rw [acceptedFrom, if_neg (by simp [foreign])]

theorem assembles_nothing {position : Nat} {buffer : Buffer} {awaited : Option Bool}
    {journal : List (Entry ε)} (failure : Failure ε)
    (unaccepted : acceptedFrom node (toggleAt position) (receivedIn journal) = [])
    (unanswered : answered journal = []) :
    Assembles node position buffer journal ⟨.error failure, ⟨awaited, buffer⟩⟩ := by
  refine ⟨?_, ?_, ?_⟩
  · rw [unaccepted, List.flatMap_nil, Buffer.write_nil]
  · intro count
    rw [unaccepted]
    constructor
    · intro succeeds
      cases succeeds
    · rintro ⟨_, segment, member, _⟩
      cases member
  · rw [unaccepted, unanswered]
    rfl

theorem Assembles.skip {position : Nat} {buffer : Buffer} {journal : List (Entry ε)}
    {ending : Ending ε Upload Nat} {message : Message}
    (foreign : message.isSegment node (toggleAt position) = false)
    (listening : Listening journal) (later : Assembles node position buffer journal ending) :
    Assembles node position buffer (.received message :: journal) ending := by
  have heard : receivedIn (.received message :: journal) = message :: receivedIn journal :=
    receivedIn_cons _ _
  have unaccepted := acceptedFrom_of_not_isSegment foreign (receivedIn journal)
  refine ⟨?_, ?_, ?_⟩
  · rw [heard, unaccepted, later.written]
  · rw [heard, unaccepted]
    exact later.succeeds
  · rw [heard, unaccepted, answered_unanswered message listening, later.prompts]

/-- A segment that is not the last is written, and the next one is asked for. -/
theorem Assembles.accept {position : Nat} {buffer : Buffer} {sending journal : List (Entry ε)}
    {ending : Ending ε Upload Nat} {message : Message}
    (accepted : message.isSegment node (toggleAt position) = true)
    (more : message.isLast = false) (unheard : Unheard sending)
    (asks : offeredIn sending = [uploadRequest node (toggleAt (position + 1))])
    (listening : Listening journal)
    (later : Assembles node (position + 1) (buffer.write message.segmentBytes) journal
      ending) :
    Assembles node position buffer (.received message :: (sending ++ journal)) ending := by
  have heard := receivedIn_received message unheard journal
  have split := acceptedFrom_of_isSegment accepted (receivedIn journal)
  rw [← toggleAt_succ] at split
  refine ⟨?_, ?_, ?_⟩
  · rw [heard, split, later.written, Buffer.write_append]
    rfl
  · intro count
    rw [heard, split, later.succeeds count]
    simp [more]
  · have shift (place : Nat) : position + 1 + 1 + place = position + 1 + (place + 1) := by
      omega
    rw [heard, split, answered_received message unheard listening (by simp [asks]), asks,
      later.prompts]
    simp [more, List.mapIdx_cons, shift]

theorem assembles_last {position : Nat} {buffer : Buffer} {awaited : Option Bool}
    {message : Message} (accepted : message.isSegment node (toggleAt position) = true)
    (last : message.isLast = true) :
    Assembles node position buffer [(.received message : Entry ε)]
      ⟨.ok (buffer.write message.segmentBytes).count,
        ⟨awaited, buffer.write message.segmentBytes⟩⟩ := by
  have heard : receivedIn [(.received message : Entry ε)] = [message] := rfl
  have split := acceptedFrom_of_isSegment accepted []
  rw [acceptedFrom] at split
  refine ⟨?_, ?_, ?_⟩
  · rw [heard, split]
    simp
  · intro count
    rw [heard, split]
    constructor
    · intro succeeds
      exact ⟨(Except.ok.inj succeeds).symm, message, List.mem_singleton_self message, last⟩
    · rintro ⟨rfl, _⟩
      rfl
  · rw [heard, split]
    simp [last, answered, turns, offeredIn]

theorem Course.assembles (nodeFits : node.toNat ≤ 127) {position left : Nat}
    {buffer : Buffer} {journal : List (Entry ε)} {ending : Ending ε Upload Nat}
    (course : Course (segmentedUpload budget node index subindex contents)
      ⟨some (toggleAt position), buffer⟩ left journal ending) :
    Assembles node position buffer journal ending := by
  generalize standing : (⟨some (toggleAt position), buffer⟩ : Upload) = state at course
  induction course using Course.induct generalizing position buffer with
  | exhausted state =>
      subst standing
      exact assembles_nothing _ rfl rfl
  | unreceived state left cause =>
      subst standing
      exact assembles_nothing _ rfl rfl
  | received state left message journal ending course aftermath =>
      subst standing
      rcases hear_afterGrant nodeFits (toggleAt position) buffer message with
          ⟨accepted, last, reacts⟩ | ⟨accepted, more, reacts⟩
            | ⟨foreign, _, failure, reacts⟩ | ⟨foreign, _, reacts⟩
      · rw [reacts] at aftermath
        cases aftermath with
        | finished sent =>
            cases sent
            exact assembles_last accepted last
      · rw [reacts, ← toggleAt_succ] at aftermath
        cases aftermath with
        | proceeded sent later =>
            obtain ⟨course, inductionHypothesis⟩ := later
            exact (inductionHypothesis rfl).accept accepted more sent.unheard
              sent.offeredIn_single course.listening
        | @interrupted _ _ _ sending failure unsent =>
            have rest : Assembles node (position + 1) (buffer.write message.segmentBytes)
                ([] : List (Entry ε))
                ⟨.error failure,
                  ⟨some (toggleAt (position + 1)), buffer.write message.segmentBytes⟩⟩ :=
              assembles_nothing failure rfl rfl
            have accepts := rest.accept accepted more unsent.unheard unsent.offeredIn_single
              listening_nil
            rwa [List.append_nil] at accepts
      · rw [reacts] at aftermath
        cases aftermath with
        | finished sent =>
            cases sent
            exact assembles_nothing failure (acceptedFrom_of_not_isSegment foreign []) rfl
      · rw [reacts] at aftermath
        cases aftermath with
        | ignored later =>
            obtain ⟨course, inductionHypothesis⟩ := later
            exact (inductionHypothesis rfl).skip foreign course.listening

/-! ## From the grant on -/

/-- What an upload that awaits the grant makes of its traffic. -/
structure Uploads (node : UInt8) (buffer : Buffer) (journal : List (Entry ε))
    (ending : Ending ε Upload Nat) : Prop where
  written : ending.final.buffer = buffer.write (uploadedBytes node (receivedIn journal))
  succeeds : ∀ count, ending.result = .ok count
    ↔ count = ending.final.buffer.count
      ∧ (grantedExpedited node (receivedIn journal) = true
        ∨ ∃ segment ∈ acceptedSegments node (receivedIn journal), segment.isLast = true)
  prompts : answered journal = (promptings node (receivedIn journal)).mapIdx
    fun place message => ⟨message, [uploadRequest node (toggleAt place)]⟩

theorem fromGrant_of_grantsUpload {message : Message}
    (grants : message.grantsUpload node = true) (others : List Message) :
    fromGrant node (message :: others) = message :: others := by
  rw [fromGrant, List.dropWhile_cons_of_neg (by simp [grants])]

theorem fromGrant_of_not_grantsUpload {message : Message}
    (foreign : message.grantsUpload node = false) (others : List Message) :
    fromGrant node (message :: others) = fromGrant node others := by
  rw [fromGrant, List.dropWhile_cons_of_pos (by simp [foreign])]
  rfl

theorem uploads_nothing {buffer : Buffer} {awaited : Option Bool} {journal : List (Entry ε)}
    (failure : Failure ε) (ungranted : fromGrant node (receivedIn journal) = [])
    (unanswered : answered journal = []) :
    Uploads node buffer journal ⟨.error failure, ⟨awaited, buffer⟩⟩ := by
  refine ⟨?_, ?_, ?_⟩
  · rw [uploadedBytes, ungranted, Buffer.write_nil]
  · intro count
    rw [grantedExpedited, acceptedSegments, ungranted]
    constructor
    · intro succeeds
      cases succeeds
    · rintro ⟨_, expedited | ⟨segment, member, _⟩⟩
      · cases expedited
      · cases member
  · rw [promptings, ungranted, unanswered]
    rfl

theorem Uploads.skip {buffer : Buffer} {journal : List (Entry ε)}
    {ending : Ending ε Upload Nat} {message : Message}
    (foreign : message.grantsUpload node = false) (listening : Listening journal)
    (later : Uploads node buffer journal ending) :
    Uploads node buffer (.received message :: journal) ending := by
  have same : fromGrant node (receivedIn (.received message :: journal))
      = fromGrant node (receivedIn journal) :=
    fromGrant_of_not_grantsUpload foreign (receivedIn journal)
  have accepted : acceptedSegments node (receivedIn (.received message :: journal))
      = acceptedSegments node (receivedIn journal) := by
    rw [acceptedSegments, acceptedSegments, same]
  refine ⟨?_, ?_, ?_⟩
  · rw [later.written, uploadedBytes, uploadedBytes, same, accepted]
  · rw [grantedExpedited, accepted, same]
    exact later.succeeds
  · rw [answered_unanswered message listening, later.prompts, promptings, promptings, same,
      accepted]

theorem uploads_expedited {buffer : Buffer} {awaited : Option Bool} {message : Message}
    (grants : message.grantsUpload node = true) (expedited : message.isExpedited = true) :
    Uploads node buffer [(.received message : Entry ε)]
      ⟨.ok (buffer.write message.expeditedBytes).count,
        ⟨awaited, buffer.write message.expeditedBytes⟩⟩ := by
  have granted : fromGrant node (receivedIn [(.received message : Entry ε)]) = [message] :=
    fromGrant_of_grantsUpload grants []
  refine ⟨?_, ?_, ?_⟩
  · rw [uploadedBytes, granted]
    simp [expedited]
  · intro count
    have expeditedGrant : grantedExpedited node
        (receivedIn [(.received message : Entry ε)]) = true := by
      rw [grantedExpedited, granted]
      simp [expedited]
    constructor
    · intro succeeds
      exact ⟨(Except.ok.inj succeeds).symm, .inl expeditedGrant⟩
    · rintro ⟨rfl, _⟩
      rfl
  · rw [promptings, granted]
    simp [expedited, answered, turns, offeredIn]

theorem Assembles.granted {buffer : Buffer} {sending journal : List (Entry ε)}
    {ending : Ending ε Upload Nat} {message : Message}
    (grants : message.grantsUpload node = true) (segmented : message.isExpedited = false)
    (unheard : Unheard sending) (asks : offeredIn sending = [uploadRequest node false])
    (listening : Listening journal) (later : Assembles node 0 buffer journal ending) :
    Uploads node buffer (.received message :: (sending ++ journal)) ending := by
  have heard := receivedIn_received message unheard journal
  have granted := fromGrant_of_grantsUpload grants (receivedIn journal)
  have accepted : acceptedSegments node (message :: receivedIn journal)
      = acceptedFrom node (toggleAt 0) (receivedIn journal) := by
    rw [acceptedSegments, granted]
    simp [segmented, toggleAt]
  refine ⟨?_, ?_, ?_⟩
  · rw [heard, uploadedBytes, granted, accepted, later.written]
    simp [segmented]
  · intro count
    rw [heard, grantedExpedited, granted, accepted, later.succeeds count]
    simp [segmented]
  · rw [heard, promptings, granted, accepted,
      answered_received message unheard listening (by simp [asks]), asks, later.prompts]
    simp [segmented, List.mapIdx_cons, Nat.add_comm, toggleAt]

theorem Course.uploads (nodeFits : node.toNat ≤ 127) {left : Nat} {buffer : Buffer}
    {journal : List (Entry ε)} {ending : Ending ε Upload Nat}
    (course : Course (segmentedUpload budget node index subindex contents) ⟨none, buffer⟩
      left journal ending) :
    Uploads node buffer journal ending := by
  generalize standing : (⟨none, buffer⟩ : Upload) = state at course
  induction course using Course.induct with
  | exhausted state =>
      subst standing
      exact uploads_nothing _ rfl rfl
  | unreceived state left cause =>
      subst standing
      exact uploads_nothing _ rfl rfl
  | received state left message journal ending course aftermath =>
      subst standing
      rcases hear_beforeGrant nodeFits buffer message with
          ⟨grants, expedited, reacts⟩ | ⟨grants, segmented, _, reacts⟩
            | ⟨foreign, _, failure, reacts⟩ | ⟨foreign, _, reacts⟩
      · rw [reacts] at aftermath
        cases aftermath with
        | finished sent =>
            cases sent
            exact uploads_expedited grants expedited
      · rw [reacts] at aftermath
        cases aftermath with
        | proceeded sent later =>
            obtain ⟨course, _⟩ := later
            have assembles : Assembles node 0 buffer _ ending := course.assembles nodeFits
            exact assembles.granted grants segmented sent.unheard sent.offeredIn_single
              course.listening
        | @interrupted _ _ _ sending failure unsent =>
            have rest : Assembles node 0 buffer ([] : List (Entry ε))
                ⟨.error failure, ⟨some false, buffer⟩⟩ := assembles_nothing failure rfl rfl
            have uploads := rest.granted grants segmented unsent.unheard
              unsent.offeredIn_single listening_nil
            rwa [List.append_nil] at uploads
      · rw [reacts] at aftermath
        cases aftermath with
        | finished sent =>
            cases sent
            exact uploads_nothing failure (fromGrant_of_not_grantsUpload foreign []) rfl
      · rw [reacts] at aftermath
        cases aftermath with
        | ignored later =>
            obtain ⟨course, inductionHypothesis⟩ := later
            exact (inductionHypothesis rfl).skip foreign course.listening

end Upload

theorem flatMap_offered_mapIdx (messages : List Message) (request : Nat → Message) :
    (messages.mapIdx fun place message => (⟨message, [request place]⟩ : Turn)).flatMap
        Turn.offered
      = (List.range messages.length).map request := by
  induction messages generalizing request with
  | nil => rfl
  | cons message others inductionHypothesis =>
      rw [List.mapIdx_cons, List.flatMap_cons, inductionHypothesis, List.length_cons,
        List.range_succ_eq_map]
      simp

theorem uploads_run {σ : Type} [Transport σ ε] (budget : Nat) {node : UInt8}
    {index : UInt16} {subindex : UInt8} {request : Message} (nodeFits : node.toNat ≤ 127)
    (built : Request.initiateUpload node index subindex = .ok request)
    (contents : List UInt8) (transport : σ) :
    let run := (Transfer.segmentedUpload budget node index subindex contents).run transport
    Uploads node (Buffer.ofContents contents) run.journal run.answer
      ∧ offeredIn run.journal = request :: (answered run.journal).flatMap Turn.offered := by
  intro run
  rcases course_run (Transfer.segmentedUpload budget node index subindex contents) built
      transport with ⟨cause, unopened, answer⟩ | ⟨traffic, opened, course⟩
  · have unheard : receivedIn run.journal = [] := receivedIn_of_unsent unopened
    have unanswered : answered run.journal = [] := answered_of_unsent unopened
    refine ⟨?_, ?_⟩
    · rw [show run.answer = _ from answer]
      exact uploads_nothing _ (congrArg (fromGrant node) unheard) unanswered
    · rw [unanswered]
      exact offeredIn_of_unsent unopened
  · obtain ⟨written, succeeds, prompts⟩ := course.uploads nodeFits
    have heard : receivedIn run.journal = receivedIn traffic := receivedIn_of_sent opened
    have answeredEq : answered run.journal = answered traffic := answered_of_sent opened
    refine ⟨⟨?_, ?_, ?_⟩, ?_⟩
    · rw [heard]
      exact written
    · rw [heard]
      exact succeeds
    · rw [heard, answeredEq]
      exact prompts
    · rw [answeredEq]
      exact offeredIn_of_sent opened course.listening

/-- An upload writes what the messages received bring, as far as there is room, to the
front of its buffer and leaves the rest as it was, however it ends.  It succeeds
exactly if all data came with the grant or a segment that counts is the last one, and
tells how many bytes were written.  After its request it asks for one segment after
each message that calls for another, with alternating toggles, and for nothing else. -/
theorem segmentedUpload_assembles {σ : Type} [Transport σ ε] (config : Config)
    (transport : σ) {node : UInt8} (index : UInt16) (subindex : UInt8)
    (contents : List UInt8) (nodeFits : node.toNat ≤ 127) :
    let run := Call.run config transport (.segmentedUpload node index subindex contents)
    let heard := receivedIn run.journal
    let bytes := uploadedBytes node heard
    let count := min contents.length bytes.length
    run.answer.buffer = some (bytes.take count ++ contents.drop count)
    ∧ (∀ value, run.answer.result = .ok value
        ↔ value = .count count
          ∧ (grantedExpedited node heard = true
            ∨ ∃ segment ∈ acceptedSegments node heard, segment.isLast = true))
    ∧ ∃ request, Request.initiateUpload node index subindex = .ok request
      ∧ answered run.journal = (promptings node heard).mapIdx
          (fun place message => ⟨message, [uploadRequest node (place % 2 == 1)]⟩)
      ∧ offeredIn run.journal = request :: (List.range (promptings node heard).length).map
          (fun place => uploadRequest node (place % 2 == 1)) := by
  intro run heard bytes count
  have built := Request.about_eq_ok nodeFits .initiateUpload index subindex
    (Vector.replicate 4 0)
  obtain ⟨uploads, opening⟩ :=
    uploads_run config.transferRounds nodeFits built contents transport
  have finalCount :
      ((Transfer.segmentedUpload config.transferRounds node index subindex contents).run
        transport).answer.final.buffer.count = count := by
    rw [uploads.written]
    exact Buffer.count_write_ofContents contents bytes
  refine ⟨?_, ?_, _, built, uploads.prompts, ?_⟩
  · have written := congrArg Buffer.contents uploads.written
    rw [Buffer.contents_write_ofContents] at written
    exact congrArg some written
  · intro value
    have succeeds := uploads.succeeds
    rw [finalCount] at succeeds
    refine map_count_eq_ok_iff.trans ?_
    constructor
    · rintro ⟨bytesWritten, rfl, succeeded⟩
      obtain ⟨rfl, reason⟩ := (succeeds bytesWritten).1 succeeded
      exact ⟨rfl, reason⟩
    · rintro ⟨rfl, reason⟩
      exact ⟨count, rfl, (succeeds count).2 ⟨rfl, reason⟩⟩
  · refine opening.trans ?_
    rw [uploads.prompts, flatMap_offered_mapIdx]
    rfl

/-- A segment that comes twice is written once. -/
theorem segmentedUpload_assembles_twoSegments :
    let link := PlainLink.replaying 5 [[0x41, 0x00, 0x20, 1, 9],
      [0x00, 1, 2, 3, 4, 5, 6, 7], [0x00, 1, 2, 3, 4, 5, 6, 7], [0x1B, 8, 9]]
    let run := Call.run {} link (.segmentedUpload 5 0x2000 1 (List.replicate 11 0xFF))
    run.answer.result = .ok (.count 9)
      ∧ run.answer.buffer = some [1, 2, 3, 4, 5, 6, 7, 8, 9, 0xFF, 0xFF] := by
  intro link run
  have nodeFits : (5 : UInt8).toNat ≤ 127 := by decide
  have bytes : uploadedBytes 5 (receivedIn run.journal) = [1, 2, 3, 4, 5, 6, 7, 8, 9] := by
    decide +kernel
  have last : ∃ segment ∈ acceptedSegments 5 (receivedIn run.journal),
      segment.isLast = true := by
    decide +kernel
  obtain ⟨buffer, succeeds, _⟩ :=
    segmentedUpload_assembles {} link 0x2000 1 (List.replicate 11 0xFF) nodeFits
  rw [bytes] at buffer succeeds
  exact ⟨(succeeds (.count 9)).2 ⟨rfl, .inr last⟩, buffer⟩

end Sdo

end CanOpen
