import CanOpen.Proofs.Traffic
import CanOpen.Sdo.Transfer

/-!
# The courses of a transfer

`Course` says step by step what the traffic of a transfer can be and how the
transfer then ends, whatever the transport does.  `course_await` and
`course_run` state that every run over every transport takes such a course, so
that a law of all courses is a law of all runs.
-/

set_option autoImplicit false

namespace CanOpen

theorem Exchange.send_cases {σ ε : Type} [Transport σ ε] (message : Message) (transport : σ) :
    (∃ after : σ, Exchange.send message transport
        = (⟨.ok (), after, [.sent message]⟩ : Run σ ε (Except ε Unit)))
    ∨ ∃ (cause : ε) (after : σ),
        Exchange.send message transport = ⟨.error cause, after, [.unsent message cause]⟩ := by
  unfold Exchange.send
  split
  next after _ => exact .inl ⟨after, rfl⟩
  next cause after _ => exact .inr ⟨cause, after, rfl⟩

theorem Exchange.trafficIn_setNodeFilter {σ ε : Type} [Transport σ ε] (remark : ε → Note ε)
    (node : UInt8) (transport : σ) :
    trafficIn (setNodeFilter remark node transport).journal = [] := by
  unfold setNodeFilter
  split <;> simp [Entry.isTraffic]

namespace Sdo

variable {σ ε S α : Type}

/-- What sending requests in order leaves in a journal, and how it ends: with the
first request that cannot be built or sent, or after the last one. -/
inductive Sending : List (Except CodecError Message) → List (Entry ε) →
    Except (Failure ε) Unit → Prop
  | done : Sending [] [] (.ok ())
  | unbuilt (cause : CodecError) (others : List (Except CodecError Message)) :
      Sending (.error cause :: others) [] (.error (.malformed cause))
  | unsent (message : Message) (cause : ε) (others : List (Except CodecError Message)) :
      Sending (.ok message :: others) [.unsent message cause] (.error (.transport cause))
  | sent (message : Message) {others : List (Except CodecError Message)}
      {journal : List (Entry ε)} {answer : Except (Failure ε) Unit}
      (later : Sending others journal answer) :
      Sending (.ok message :: others) (.sent message :: journal) answer

theorem sending_sendAll [Transport σ ε] (requests : List (Except CodecError Message))
    (transport : σ) :
    Sending requests (sendAll requests transport).journal
      (sendAll requests transport).answer := by
  induction requests generalizing transport with
  | nil => exact .done
  | cons request others inductionHypothesis =>
      cases request with
      | error cause => exact .unbuilt cause others
      | ok message =>
          obtain ⟨after, sent⟩ | ⟨cause, after, unsent⟩ :=
            Exchange.send_cases (ε := ε) message transport
          · rw [sendAll, sent]
            exact .sent message (inductionHypothesis after)
          · rw [sendAll, unsent]
            exact .unsent message cause others

theorem Sending.unheard {requests : List (Except CodecError Message)}
    {journal : List (Entry ε)} {answer : Except (Failure ε) Unit}
    (sending : Sending requests journal answer) : Unheard journal := by
  induction sending with
  | done => simp [Unheard]
  | unbuilt cause others => simp [Unheard]
  | unsent message cause others => simp [Unheard, Entry.received?]
  | sent message later inductionHypothesis =>
      intro entry member
      rcases List.mem_cons.1 member with rfl | member
      · rfl
      · exact inductionHypothesis entry member

theorem Sending.trafficIn_eq {requests : List (Except CodecError Message)}
    {journal : List (Entry ε)} {answer : Except (Failure ε) Unit}
    (sending : Sending requests journal answer) : trafficIn journal = journal := by
  induction sending with
  | done => rfl
  | unbuilt cause others => rfl
  | unsent message cause others => rfl
  | sent message later inductionHypothesis =>
      simp [Entry.isTraffic, inductionHypothesis]

@[simp]
theorem offeredIn_sent (messages : List Message) :
    offeredIn (messages.map (.sent : Message → Entry ε)) = messages := by
  induction messages with
  | nil => rfl
  | cons message others inductionHypothesis =>
      simp [Entry.offered?, inductionHypothesis]

/-- Messages that can be built are all sent if sending succeeds. -/
theorem Sending.eq_sent_of_ok {journal : List (Entry ε)} (messages : List Message)
    (sending : Sending (messages.map .ok) journal (.ok ())) :
    journal = messages.map .sent := by
  induction messages generalizing journal with
  | nil =>
      cases sending
      rfl
  | cons message others inductionHypothesis =>
      cases sending with
      | sent message later => rw [inductionHypothesis later, List.map_cons]

theorem Sending.offeredIn_eq_of_ok {journal : List (Entry ε)} (messages : List Message)
    (sending : Sending (messages.map .ok) journal (.ok ())) : offeredIn journal = messages := by
  rw [sending.eq_sent_of_ok messages, offeredIn_sent]

/-- Messages that can be built fail to be sent only by the transport's fault, at
one of them and in order. -/
theorem Sending.offered_of_error {messages : List Message} {journal : List (Entry ε)}
    {failure : Failure ε} (sending : Sending (messages.map .ok) journal (.error failure)) :
    offeredIn journal <+: messages ∧ offeredIn journal ≠ []
      ∧ ∃ cause, failure = .transport cause := by
  induction messages generalizing journal with
  | nil => cases sending
  | cons message others inductionHypothesis =>
      cases sending with
      | unsent message cause others =>
          exact ⟨⟨others, rfl⟩, by simp [Entry.offered?], cause, rfl⟩
      | sent message later =>
          obtain ⟨offeredFirst, _, fault⟩ := inductionHypothesis later
          refine ⟨?_, by simp [Entry.offered?], fault⟩
          simpa [Entry.offered?] using offeredFirst

theorem Sending.sentIn_prefix {requests : List (Except CodecError Message)}
    {journal : List (Entry ε)} {answer : Except (Failure ε) Unit}
    (sending : Sending requests journal answer) : sentIn journal <+: offeredIn journal := by
  induction sending with
  | done => simp
  | unbuilt cause others => simp
  | unsent message cause others => simp [Entry.sent?]
  | sent message later inductionHypothesis =>
      simpa [Entry.sent?, Entry.offered?] using inductionHypothesis

theorem Sending.sentIn_eq_of_ok {requests : List (Except CodecError Message)}
    {journal : List (Entry ε)} (sending : Sending requests journal (.ok ())) :
    sentIn journal = offeredIn journal := by
  generalize succeeds : (.ok () : Except (Failure ε) Unit) = answer at sending
  induction sending with
  | done => rfl
  | unbuilt cause others => cases succeeds
  | unsent message cause others => cases succeeds
  | sent message later inductionHypothesis =>
      simp [Entry.sent?, Entry.offered?, inductionHypothesis succeeds]

/-- A single message that can be built is handed over, sent or not. -/
theorem Sending.offeredIn_single {message : Message} {journal : List (Entry ε)}
    {answer : Except (Failure ε) Unit} (sending : Sending [.ok message] journal answer) :
    offeredIn journal = [message] := by
  cases sending with
  | unsent message cause others => rfl
  | sent message later =>
      cases later
      rfl

theorem Sending.eq_unsent_of_error {message : Message} {journal : List (Entry ε)}
    {failure : Failure ε} (sending : Sending [.ok message] journal (.error failure)) :
    ∃ cause, journal = [.unsent message cause] ∧ failure = .transport cause := by
  cases sending with
  | unsent message cause others => exact ⟨cause, rfl, rfl⟩
  | sent message later => cases later

/-- The traffic of a transfer from a state on, with a number of messages left to
receive without moving on, and how the transfer then ends. -/
inductive Course (transfer : Transfer ε S α) :
    S → Nat → List (Entry ε) → Ending ε S α → Prop
  | exhausted (state : S) : Course transfer state 0 [] ⟨.error .timeout, state⟩
  | unreceived (state : S) (budget : Nat) (cause : ε) :
      Course transfer state (budget + 1) [.unreceived cause]
        ⟨.error (.transport cause), state⟩
  | ignored {state : S} {budget : Nat} {message : Message} {notes : List (Note ε)}
      {journal : List (Entry ε)} {ending : Ending ε S α}
      (heard : transfer.hear state message = .ignore notes)
      (later : Course transfer state budget journal ending) :
      Course transfer state (budget + 1) (.received message :: journal) ending
  | proceeded {state next : S} {budget : Nat} {message : Message} {notes : List (Note ε)}
      {requests : List (Except CodecError Message)} {sending journal : List (Entry ε)}
      {ending : Ending ε S α}
      (heard : transfer.hear state message = .proceed notes requests next)
      (sent : Sending requests sending (.ok ()))
      (later : Course transfer next transfer.budget journal ending) :
      Course transfer state (budget + 1) (.received message :: (sending ++ journal)) ending
  | interrupted {state next : S} {budget : Nat} {message : Message} {notes : List (Note ε)}
      {requests : List (Except CodecError Message)} {sending : List (Entry ε)}
      {failure : Failure ε}
      (heard : transfer.hear state message = .proceed notes requests next)
      (unsent : Sending requests sending (.error failure)) :
      Course transfer state (budget + 1) (.received message :: sending)
        ⟨.error failure, next⟩
  | finished {state final : S} {budget : Nat} {message : Message} {notes : List (Note ε)}
      {requests : List (Except CodecError Message)} {sending : List (Entry ε)}
      {answer : Except (Failure ε) Unit} {result : Except (Failure ε) α}
      (heard : transfer.hear state message = .finish notes requests final result)
      (sent : Sending requests sending answer) :
      Course transfer state (budget + 1) (.received message :: sending)
        ⟨answer.bind fun () => result, final⟩

/-- How a course goes on after a reaction, where `Later` tells how it goes on from one
message to the next. -/
inductive Reaction.Aftermath (Later : S → Nat → List (Entry ε) → Ending ε S α → Prop)
    (state : S) (left budget : Nat) :
    Reaction ε S α → List (Entry ε) → Ending ε S α → Prop
  | ignored {notes : List (Note ε)} {journal : List (Entry ε)} {ending : Ending ε S α}
      (later : Later state left journal ending) :
      Aftermath Later state left budget (.ignore notes) journal ending
  | proceeded {notes : List (Note ε)} {requests : List (Except CodecError Message)}
      {next : S} {sending journal : List (Entry ε)} {ending : Ending ε S α}
      (sent : Sending requests sending (.ok ())) (later : Later next budget journal ending) :
      Aftermath Later state left budget (.proceed notes requests next) (sending ++ journal)
        ending
  | interrupted {notes : List (Note ε)} {requests : List (Except CodecError Message)}
      {next : S} {sending : List (Entry ε)} {failure : Failure ε}
      (unsent : Sending requests sending (.error failure)) :
      Aftermath Later state left budget (.proceed notes requests next) sending
        ⟨.error failure, next⟩
  | finished {notes : List (Note ε)} {requests : List (Except CodecError Message)}
      {final : S} {sending : List (Entry ε)} {answer : Except (Failure ε) Unit}
      {result : Except (Failure ε) α} (sent : Sending requests sending answer) :
      Aftermath Later state left budget (.finish notes requests final result) sending
        ⟨answer.bind fun () => result, final⟩

theorem Reaction.Aftermath.mono {Later Later' : S → Nat → List (Entry ε) → Ending ε S α → Prop}
    {reaction : Reaction ε S α} {state : S} {left budget : Nat} {journal : List (Entry ε)}
    {ending : Ending ε S α}
    (aftermath : reaction.Aftermath Later state left budget journal ending)
    (weaker : ∀ state left journal ending, Later state left journal ending →
      Later' state left journal ending) :
    reaction.Aftermath Later' state left budget journal ending := by
  cases aftermath with
  | ignored later => exact .ignored (weaker _ _ _ _ later)
  | proceeded sent later => exact .proceeded sent (weaker _ _ _ _ later)
  | interrupted unsent => exact .interrupted unsent
  | finished sent => exact .finished sent

/-- Courses message by message: what holds without any, and after one if it holds of
what follows the reaction to it, holds of every course. -/
theorem Course.induct {transfer : Transfer ε S α}
    {motive : (state : S) → (left : Nat) → (journal : List (Entry ε)) →
      (ending : Ending ε S α) → Course transfer state left journal ending → Prop}
    (exhausted : ∀ state, motive state 0 [] ⟨.error .timeout, state⟩ (.exhausted state))
    (unreceived : ∀ state left cause,
      motive state (left + 1) [.unreceived cause] ⟨.error (.transport cause), state⟩
        (.unreceived state left cause))
    (received : ∀ state left message journal ending course,
      (transfer.hear state message).Aftermath
        (fun state left journal ending =>
          ∃ later : Course transfer state left journal ending,
            motive state left journal ending later)
        state left transfer.budget journal ending →
      motive state (left + 1) (.received message :: journal) ending course)
    {state : S} {left : Nat} {journal : List (Entry ε)} {ending : Ending ε S α}
    (course : Course transfer state left journal ending) :
    motive state left journal ending course := by
  induction course with
  | exhausted state => exact exhausted state
  | unreceived state left cause => exact unreceived state left cause
  | ignored heard later inductionHypothesis =>
      apply received
      rw [heard]
      exact .ignored ⟨later, inductionHypothesis⟩
  | proceeded heard sent later inductionHypothesis =>
      apply received
      rw [heard]
      exact .proceeded sent ⟨later, inductionHypothesis⟩
  | interrupted heard unsent =>
      apply received
      rw [heard]
      exact .interrupted unsent
  | finished heard sent =>
      apply received
      rw [heard]
      exact .finished sent

theorem course_await [Transport σ ε] (transfer : Transfer ε S α) (state : S)
    (budget : Nat) (transport : σ) :
    Course transfer state budget
      (trafficIn (transfer.await state budget transport).journal)
      (transfer.await state budget transport).answer := by
  fun_induction Transfer.await transfer state budget transport with
  | case1 state transport => exact .exhausted state
  | case2 state transport budget cause rest => exact .unreceived state budget cause
  | case3 state transport budget message rest _ _ notes heard inductionHypothesis =>
      simpa [Run.after, Entry.isTraffic] using Course.ignored heard inductionHypothesis
  | case4 state transport budget message rest _ _ notes requests next heard sending
      entries failure failed =>
      have sent := sending_sendAll requests rest
      rw [show (sendAll requests rest).answer = .error failure from failed] at sent
      simpa [Entry.isTraffic, sent.trafficIn_eq, entries, sending]
        using Course.interrupted heard sent
  | case5 state transport budget message rest _ _ notes requests next heard sending
      entries succeeded inductionHypothesis =>
      have sent := sending_sendAll requests rest
      rw [show (sendAll requests rest).answer = .ok () from succeeded] at sent
      simpa [Run.after, Entry.isTraffic, sent.trafficIn_eq, entries, sending]
        using Course.proceeded heard sent inductionHypothesis
  | case6 state transport budget message rest _ _ notes requests final result heard
      sending entries failure failed =>
      have sent := sending_sendAll requests rest
      rw [show (sendAll requests rest).answer = .error failure from failed] at sent
      simpa [Entry.isTraffic, sent.trafficIn_eq, entries, sending, Except.bind]
        using Course.finished heard sent
  | case7 state transport budget message rest _ _ notes requests final result heard
      sending entries succeeded =>
      have sent := sending_sendAll requests rest
      rw [show (sendAll requests rest).answer = .ok () from succeeded] at sent
      simpa [Entry.isTraffic, sent.trafficIn_eq, entries, sending, Except.bind]
        using Course.finished heard sent

/-- After a message was received the next thing handed over waits for another. -/
theorem Course.listening {transfer : Transfer ε S α} {state : S} {budget : Nat}
    {journal : List (Entry ε)} {ending : Ending ε S α}
    (course : Course transfer state budget journal ending) : Listening journal := by
  cases course <;> simp [Listening, Entry.received?, Entry.offered?]

/-- What was sent is what was handed over, but for the last message if its sending
failed. -/
theorem Course.sentIn_prefix {transfer : Transfer ε S α} {state : S} {budget : Nat}
    {journal : List (Entry ε)} {ending : Ending ε S α}
    (course : Course transfer state budget journal ending) :
    sentIn journal <+: offeredIn journal := by
  induction course with
  | exhausted state => simp
  | unreceived state budget cause => simp [Entry.sent?]
  | ignored heard later inductionHypothesis =>
      simpa [Entry.sent?, Entry.offered?] using inductionHypothesis
  | proceeded heard sent later inductionHypothesis =>
      simpa [Entry.sent?, Entry.offered?, sent.sentIn_eq_of_ok] using inductionHypothesis
  | interrupted heard unsent => simpa [Entry.sent?, Entry.offered?] using unsent.sentIn_prefix
  | finished heard sent => simpa [Entry.sent?, Entry.offered?] using sent.sentIn_prefix

theorem Course.sentIn_eq_of_ok {transfer : Transfer ε S α} {state : S} {budget : Nat}
    {journal : List (Entry ε)} {ending : Ending ε S α} {value : α}
    (course : Course transfer state budget journal ending)
    (succeeds : ending.result = .ok value) : sentIn journal = offeredIn journal := by
  induction course with
  | exhausted state => cases succeeds
  | unreceived state budget cause => cases succeeds
  | ignored heard later inductionHypothesis =>
      simpa [Entry.sent?, Entry.offered?] using inductionHypothesis succeeds
  | proceeded heard sent later inductionHypothesis =>
      simp [Entry.sent?, Entry.offered?, sent.sentIn_eq_of_ok, inductionHypothesis succeeds]
  | interrupted heard unsent => cases succeeds
  | @finished _ _ _ _ _ _ _ answer _ heard sent =>
      cases answer with
      | error failure => cases succeeds
      | ok value => simp [Entry.sent?, Entry.offered?, sent.sentIn_eq_of_ok]

theorem course_start [Transport σ ε] (transfer : Transfer ε S α) (request : Message)
    (transport : σ) :
    (∃ cause, trafficIn (transfer.start request transport).journal = [.unsent request cause]
      ∧ (transfer.start request transport).answer
          = ⟨.error (.transport cause), transfer.initial⟩)
    ∨ ∃ journal, trafficIn (transfer.start request transport).journal
          = .sent request :: journal
      ∧ Course transfer transfer.initial transfer.budget journal
          (transfer.start request transport).answer := by
  obtain ⟨after, sent⟩ | ⟨cause, after, unsent⟩ :=
    Exchange.send_cases (ε := ε) request transport
  · right
    refine ⟨trafficIn (transfer.await transfer.initial transfer.budget after).journal, ?_, ?_⟩
    · simp [Transfer.start, sent, Run.after, Entry.isTraffic]
    · simpa [Transfer.start, sent, Run.after]
        using course_await transfer transfer.initial transfer.budget after
  · left
    refine ⟨cause, ?_, ?_⟩
    · simp [Transfer.start, unsent, Entry.isTraffic]
    · simp [Transfer.start, unsent]

/-- A transfer with a request sends it and takes one of its courses, or fails to
send it. -/
theorem course_run [Transport σ ε] (transfer : Transfer ε S α) {request : Message}
    (built : transfer.request = .ok request) (transport : σ) :
    (∃ cause, trafficIn (transfer.run transport).journal = [.unsent request cause]
      ∧ (transfer.run transport).answer = ⟨.error (.transport cause), transfer.initial⟩)
    ∨ ∃ journal, trafficIn (transfer.run transport).journal = .sent request :: journal
      ∧ Course transfer transfer.initial transfer.budget journal
          (transfer.run transport).answer := by
  rw [Transfer.run, built]
  simp only [Run.after, trafficIn_append, Exchange.trafficIn_setNodeFilter, List.nil_append]
  exact course_start transfer request _

theorem sentIn_run_prefix [Transport σ ε] (transfer : Transfer ε S α) {request : Message}
    (built : transfer.request = .ok request) (transport : σ) :
    sentIn (transfer.run transport).journal <+: offeredIn (transfer.run transport).journal := by
  rw [← sentIn_trafficIn, ← offeredIn_trafficIn]
  obtain ⟨cause, unopened, _⟩ | ⟨journal, opened, course⟩ := course_run transfer built transport
  · simp [unopened, Entry.sent?]
  · simpa [opened, Entry.sent?, Entry.offered?] using course.sentIn_prefix

/-- A transfer that succeeds has sent all that it handed over. -/
theorem sentIn_run_of_ok [Transport σ ε] (transfer : Transfer ε S α) {request : Message}
    (built : transfer.request = .ok request) (transport : σ) {value : α}
    (succeeds : (transfer.run transport).answer.result = .ok value) :
    sentIn (transfer.run transport).journal = offeredIn (transfer.run transport).journal := by
  rw [← sentIn_trafficIn, ← offeredIn_trafficIn]
  obtain ⟨cause, _, failed⟩ | ⟨journal, opened, course⟩ := course_run transfer built transport
  · rw [failed] at succeeds
    cases succeeds
  · simp [opened, Entry.sent?, Entry.offered?, course.sentIn_eq_of_ok succeeds]

end Sdo

end CanOpen
