import CanOpen.Proofs.Course
import CanOpen.Proofs.Reactions

/-!
# How a call concludes

The deeds of a journal are what is left of it without remarks.  The deeds of a call are
uneventful up to its conclusion, which says what the call yields: a failure of the transport
or a transfer given up comes from the very last deed, and any other result from none.
-/

set_option autoImplicit false

namespace CanOpen

variable {σ ε : Type}

/-! ## Deeds -/

def Entry.isDeed : Entry ε → Bool
  | noted _ => false
  | _ => true

def deedsIn (journal : List (Entry ε)) : List (Entry ε) :=
  journal.filter Entry.isDeed

@[simp]
theorem deedsIn_nil : deedsIn ([] : List (Entry ε)) = [] := rfl

@[simp]
theorem deedsIn_cons (entry : Entry ε) (rest : List (Entry ε)) :
    deedsIn (entry :: rest)
      = if entry.isDeed then entry :: deedsIn rest else deedsIn rest := by
  cases entry <;> rfl

@[simp]
theorem deedsIn_append (left right : List (Entry ε)) :
    deedsIn (left ++ right) = deedsIn left ++ deedsIn right :=
  List.filter_append left right

@[simp]
theorem deedsIn_noted (notes : List (Note ε)) : deedsIn (notes.map .noted) = [] := by
  simp [deedsIn, Entry.isDeed]

theorem trafficIn_deedsIn (journal : List (Entry ε)) :
    trafficIn (deedsIn journal) = trafficIn journal := by
  induction journal with
  | nil => rfl
  | cons entry rest inductionHypothesis =>
      cases entry <;> simp [Entry.isDeed, Entry.isTraffic, inductionHypothesis]

theorem receivedIn_deedsIn (journal : List (Entry ε)) :
    receivedIn (deedsIn journal) = receivedIn journal := by
  rw [← receivedIn_trafficIn, trafficIn_deedsIn, receivedIn_trafficIn]

theorem offeredIn_deedsIn (journal : List (Entry ε)) :
    offeredIn (deedsIn journal) = offeredIn journal := by
  rw [← offeredIn_trafficIn, trafficIn_deedsIn, offeredIn_trafficIn]

theorem answered_deedsIn (journal : List (Entry ε)) :
    answered (deedsIn journal) = answered journal := by
  rw [← answered_trafficIn, trafficIn_deedsIn, answered_trafficIn]

theorem Exchange.transport_setNodeFilter [Transport σ ε] (remark : ε → Note ε) (node : UInt8)
    (transport : σ) :
    (setNodeFilter remark node transport).transport
      = (Transport.setNodeFilter node transport).2 := by
  unfold setNodeFilter
  split
  next rest sets => rw [sets]
  next cause rest sets => rw [sets]

open Sdo in
/-- The number in the last four bytes, the least significant one first. -/
def Message.abortCode (message : Message) : UInt32 :=
  (Payload.ofOctets message.octets).word

namespace Sdo

variable {S α β : Type} {conduct : Conduct} {transfer : Transfer ε S α}

theorem word_of_body {message : Message} {payload : Payload}
    (body : message.body = .sdo payload) : payload.word = message.abortCode := by
  rw [Message.abortCode, Message.octets_of_body body, Payload.ofOctets_toOctets]

theorem Sending.deedsIn_eq {requests : List (Except CodecError Message)}
    {journal : List (Entry ε)} {answer : Except (Failure ε) Unit}
    (sending : Sending requests journal answer) : deedsIn journal = journal := by
  induction sending with
  | done | unbuilt cause others | unsent message cause others => rfl
  | sent message later inductionHypothesis => simp [Entry.isDeed, inductionHypothesis]

/-- Waiting sets no filters. -/
theorem deedsIn_await [Transport σ ε] (transfer : Transfer ε S α) (state : S) (budget : Nat)
    (transport : σ) :
    deedsIn (transfer.await state budget transport).journal
      = trafficIn (transfer.await state budget transport).journal := by
  fun_induction Transfer.await transfer state budget transport with
  | case1 state transport => rfl
  | case2 state transport budget cause rest => rfl
  | case3 state transport budget message rest _ _ notes heard inductionHypothesis =>
      simpa [Run.after, Entry.isDeed, Entry.isTraffic] using inductionHypothesis
  | case5 state transport budget message rest _ _ notes requests next heard sending
      entries succeeded inductionHypothesis =>
      have sent := sending_sendAll requests rest
      simpa [Run.after, Entry.isDeed, Entry.isTraffic, entries, sending, sent.deedsIn_eq,
        sent.trafficIn_eq] using inductionHypothesis
  | case4 state transport budget message rest _ _ notes requests next heard sending entries
      failure failed =>
      have sent := sending_sendAll requests rest
      simp [Entry.isDeed, Entry.isTraffic, entries, sending, sent.deedsIn_eq,
        sent.trafficIn_eq]
  | case6 state transport budget message rest _ _ notes requests final result heard sending
      entries failure failed =>
      have sent := sending_sendAll requests rest
      simp [Entry.isDeed, Entry.isTraffic, entries, sending, sent.deedsIn_eq,
        sent.trafficIn_eq]
  | case7 state transport budget message rest _ _ notes requests final result heard sending
      entries succeeded =>
      have sent := sending_sendAll requests rest
      simp [Entry.isDeed, Entry.isTraffic, entries, sending, sent.deedsIn_eq,
        sent.trafficIn_eq]

theorem deedsIn_start [Transport σ ε] (transfer : Transfer ε S α) (request : Message)
    (transport : σ) :
    deedsIn (transfer.start request transport).journal
      = trafficIn (transfer.start request transport).journal := by
  obtain ⟨after, sent⟩ | ⟨cause, after, unsent⟩ :=
    Exchange.send_cases (ε := ε) request transport
  · simp [Transfer.start, sent, Run.after, Entry.isDeed, Entry.isTraffic, deedsIn_await]
  · simp [Transfer.start, unsent, Entry.isDeed, Entry.isTraffic]

/-- Messages that can be built are sent up to the one at which the transport fails. -/
theorem Sending.eq_unsent {messages : List Message} {journal : List (Entry ε)}
    {failure : Failure ε} (sending : Sending (messages.map .ok) journal (.error failure)) :
    ∃ before message cause, journal = before.map .sent ++ [.unsent message cause]
      ∧ failure = .transport cause ∧ message ∈ messages ∧ before ⊆ messages := by
  induction messages generalizing journal with
  | nil => cases sending
  | cons message others inductionHypothesis =>
      cases sending with
      | unsent message cause others =>
          exact ⟨[], message, cause, rfl, rfl, List.mem_cons_self, List.nil_subset _⟩
      | sent message later =>
          obtain ⟨before, unsent, cause, rfl, fault, member, among⟩ := inductionHypothesis later
          refine ⟨message :: before, unsent, cause, rfl, fault, List.mem_cons_of_mem _ member, ?_⟩
          exact List.cons_subset_cons message among

/-! ## Conclusions -/

/-- Whether a deed neither fails nor gives a transfer up. -/
def Uneventful (conduct : Conduct) : Entry ε → Prop
  | .sent message => Asks conduct.node message
  | .received message =>
      conduct.heeds = true → message.said? conduct.node ≠ some .abort
  | .filtered _ | .unfiltered _ _ => True
  | .unsent _ _ | .unreceived _ | .noted _ => False

theorem asks_of_uneventful {deeds : List (Entry ε)}
    (uneventful : ∀ deed ∈ deeds, Uneventful conduct deed) :
    ∀ message ∈ offeredIn deeds, Asks conduct.node message := by
  intro message member
  obtain ⟨deed, inside, offers⟩ := List.mem_filterMap.1 member
  have quiet := uneventful deed inside
  cases deed with
  | sent other =>
      obtain rfl : other = message := Option.some.inj offers
      exact quiet
  | unsent other cause => cases quiet
  | _ => cases offers

/-- The deeds that decide a result. -/
inductive Conclusion (conduct : Conduct) : List (Entry ε) → Except (Failure ε) α → Prop
  | settled {result : Except (Failure ε) α} (harmless : Harmless result) :
      Conclusion conduct [] result
  | unreceived (cause : ε) :
      Conclusion conduct [.unreceived cause] (.error (.transport cause))
  | unsent (message : Message) (cause : ε) (asks : Asks conduct.node message) :
      Conclusion conduct [.unsent message cause] (.error (.transport cause))
  | givenUp (reply : Message) (heeds : conduct.heeds = true)
      (aborts : reply.said? conduct.node = some .abort) :
      Conclusion conduct [.received reply]
        (.error (.abort reply.abortCode (AbortCode.describe reply.abortCode)))
  | refused (reply : Message) {refusal : Message} (refuses : conduct.refusal = some refusal)
      (goesOn : conduct.heeds = true → reply.said? conduct.node ≠ some .abort) :
      Conclusion conduct [.received reply, .sent refusal]
        (.error (.abort AbortCode.invalidBlockSize.code AbortCode.invalidBlockSize.description))
  | silenced (reply : Message) {refusal : Message} (refuses : conduct.refusal = some refusal)
      (cause : ε) (goesOn : conduct.heeds = true → reply.said? conduct.node ≠ some .abort) :
      Conclusion conduct [.received reply, .unsent refusal cause] (.error (.transport cause))

/-- Whether deeds are uneventful up to those that decide a result. -/
def Concludes (conduct : Conduct) (deeds : List (Entry ε)) (result : Except (Failure ε) α) :
    Prop :=
  ∃ before last, deeds = before ++ last ∧ (∀ deed ∈ before, Uneventful conduct deed)
    ∧ Conclusion conduct last result

namespace Conclusion

variable {last : List (Entry ε)}

/-- A failure concludes a call whatever its success would have been. -/
theorem recast {failure : Failure ε}
    (conclusion : Conclusion conduct last (.error failure : Except (Failure ε) α)) :
    Conclusion conduct last (.error failure : Except (Failure ε) β) := by
  cases conclusion with
  | settled harmless =>
      cases failure with
      | timeout | unsupported operation => exact .settled trivial
      | transport cause | malformed cause | abort code description => cases harmless
  | unreceived cause => exact .unreceived cause
  | unsent message cause asks => exact .unsent message cause asks
  | givenUp reply heeds aborts => exact .givenUp reply heeds aborts
  | refused reply refuses goesOn => exact .refused reply refuses goesOn
  | silenced reply refuses cause goesOn => exact .silenced reply refuses cause goesOn

theorem eq_nil_of_ok {value : α}
    (conclusion : Conclusion conduct last (.ok value : Except (Failure ε) α)) : last = [] := by
  cases conclusion
  rfl

end Conclusion

namespace Concludes

variable {deeds : List (Entry ε)} {result : Except (Failure ε) α}

theorem of_conclusion (conclusion : Conclusion conduct deeds result) :
    Concludes conduct deeds result :=
  ⟨[], deeds, rfl, List.forall_mem_nil _, conclusion⟩

theorem prepend {before : List (Entry ε)} (quiet : ∀ deed ∈ before, Uneventful conduct deed)
    (concludes : Concludes conduct deeds result) :
    Concludes conduct (before ++ deeds) result := by
  obtain ⟨later, last, rfl, uneventful, conclusion⟩ := concludes
  refine ⟨before ++ later, last, (List.append_assoc _ _ _).symm, ?_, conclusion⟩
  exact List.forall_mem_append.2 ⟨quiet, uneventful⟩

theorem cons {deed : Entry ε} (quiet : Uneventful conduct deed)
    (concludes : Concludes conduct deeds result) : Concludes conduct (deed :: deeds) result := by
  have alone : ∀ other ∈ [deed], Uneventful conduct other := List.forall_mem_singleton.2 quiet
  exact concludes.prepend alone

theorem map (view : α → β) (concludes : Concludes conduct deeds result) :
    Concludes conduct deeds (result.map view) := by
  obtain ⟨before, last, split, uneventful, conclusion⟩ := concludes
  refine ⟨before, last, split, uneventful, ?_⟩
  cases result with
  | error failure => exact conclusion.recast
  | ok value =>
      rw [conclusion.eq_nil_of_ok]
      exact .settled trivial

theorem andThen {run : Run σ ε (Except (Failure ε) α)}
    {next : α → σ → Run σ ε (Except (Failure ε) β)}
    (first : Concludes conduct (deedsIn run.journal) run.answer)
    (later : ∀ value rest,
      Concludes conduct (deedsIn (next value rest).journal) (next value rest).answer) :
    Concludes conduct (deedsIn (run.andThen next).journal) (run.andThen next).answer := by
  obtain ⟨before, last, split, uneventful, conclusion⟩ := first
  rw [Run.andThen]
  cases answer : run.answer with
  | error failure =>
      rw [answer] at conclusion
      exact ⟨before, last, split, uneventful, conclusion.recast⟩
  | ok value =>
      rw [answer] at conclusion
      -- A success has no deeds of its own, so that others may follow.
      simp only [Run.after, deedsIn_append, split, conclusion.eq_nil_of_ok, List.append_nil]
      exact (later value run.transport).prepend uneventful

end Concludes

/-! ## Transfers -/

/-- What follows a reply that does not give the transfer up concludes, if what follows the
next reply does. -/
theorem Reaction.Lawful.concludes {reaction : Reaction ε S α} {state : S} {payload : Payload}
    {Later : S → Nat → List (Entry ε) → Ending ε S α → Prop} {left budget : Nat}
    {traffic : List (Entry ε)} {ending : Ending ε S α} {message : Message}
    (lawful : reaction.Lawful conduct state payload)
    (goesOn : ¬ (conduct.heeds = true ∧ ServerCommand.ofByte payload.command = .abort))
    (quiet : Uneventful conduct (.received message : Entry ε))
    (later : ∀ state left traffic ending, Later state left traffic ending →
      Concludes conduct traffic ending.result)
    (aftermath : reaction.Aftermath Later state left budget traffic ending) :
    Concludes conduct (.received message :: traffic) ending.result := by
  cases lawful with
  | ignored notes =>
      cases aftermath with
      | ignored follows => exact (later _ _ _ _ follows).cons quiet
  | @proceeded notes messages next ask =>
      have sentQuiet (among : List Message) (subset : among ⊆ messages) :
          ∀ deed ∈ among.map (.sent : Message → Entry ε), Uneventful conduct deed := by
        intro deed member
        obtain ⟨message, inside, rfl⟩ := List.mem_map.1 member
        exact ask message (subset inside)
      cases aftermath with
      | proceeded sent follows =>
          have rest := later _ _ _ _ follows
          rw [sent.eq_sent_of_ok messages]
          exact (rest.prepend (sentQuiet messages (List.Subset.refl messages))).cons quiet
      | interrupted unsent =>
          obtain ⟨before, message, cause, rfl, rfl, member, among⟩ := unsent.eq_unsent
          have fails := Concludes.of_conclusion (α := α)
            (.unsent message cause (ask message member))
          exact (fails.prepend (sentQuiet before among)).cons quiet
  | @finished notes final result harmless =>
      cases aftermath with
      | finished sent =>
          cases sent
          have settles : Concludes conduct ([] : List (Entry ε)) result :=
            .of_conclusion (.settled harmless)
          exact settles.cons quiet
  | givenUp heeds aborts => exact absurd ⟨heeds, aborts⟩ goesOn
  | @refused notes final refusal refuses =>
      cases aftermath with
      | finished sent =>
          cases sent with
          | unsent _ cause others => exact .of_conclusion (.silenced message refuses cause quiet)
          | sent _ rest =>
              cases rest
              exact .of_conclusion (.refused message refuses quiet)

/-- Whatever is heard in whatever state, the traffic from there on concludes. -/
theorem Course.concludes (lawful : transfer.Lawful conduct) {state : S} {left : Nat}
    {traffic : List (Entry ε)} {ending : Ending ε S α}
    (course : Course transfer state left traffic ending) :
    Concludes conduct traffic ending.result := by
  -- No invariant is needed: a lawful transfer keeps to its conduct in all states, reachable or
  -- not.
  induction course using Course.induct with
  | exhausted state => exact .of_conclusion (.settled trivial)
  | unreceived state left cause => exact .of_conclusion (.unreceived cause)
  | received state left message traffic ending course aftermath =>
      obtain ⟨silent, _, ignores⟩ | ⟨payload, body, said, reacts⟩ :=
        transfer.hear_cases state message
      · rw [lawful.node_eq] at silent
        rw [ignores] at aftermath
        cases aftermath with
        | ignored later =>
            obtain ⟨_, inductionHypothesis⟩ := later
            have quiet : Uneventful conduct (.received message : Entry ε) := by
              intro _ aborts
              rw [silent] at aborts
              cases aborts
            exact inductionHypothesis.cons quiet
      · rw [lawful.node_eq] at said
        rw [reacts] at aftermath
        by_cases givesUp : conduct.heeds = true
            ∧ ServerCommand.ofByte payload.command = .abort
        · obtain ⟨heeds, aborts⟩ := givesUp
          rw [lawful.heed heeds state payload aborts] at aftermath
          rw [aborts] at said
          cases aftermath with
          | finished sent =>
              cases sent
              have concludes := Concludes.of_conclusion (ε := ε) (α := α)
                (.givenUp message heeds said)
              rwa [← word_of_body body] at concludes
        · have quiet : Uneventful conduct (.received message : Entry ε) := by
            intro heeds aborts
            rw [said] at aborts
            exact givesUp ⟨heeds, Option.some.inj aborts⟩
          exact (lawful.react state payload).concludes givesUp quiet
            (fun _ _ _ _ later => later.2) aftermath

theorem uneventful_setNodeFilter [Transport σ ε] (conduct : Conduct) (remark : ε → Note ε)
    (node : UInt8) (transport : σ) :
    ∀ deed ∈ deedsIn (Exchange.setNodeFilter remark node transport).journal,
      Uneventful conduct deed := by
  unfold Exchange.setNodeFilter
  split <;> simp [Entry.isDeed, Uneventful]

/-- After the filter a transfer with a request sends it and takes one of its courses, or
fails to send it. -/
theorem Transfer.deedsIn_run [Transport σ ε] (transfer : Transfer ε S α) {request : Message}
    (opens : transfer.request = .ok request) (transport : σ) :
    let filtering :=
      Exchange.setNodeFilter (.transferUnfiltered transfer.node) transfer.node transport
    let run := transfer.run transport
    (∃ cause, deedsIn run.journal = deedsIn filtering.journal ++ [.unsent request cause]
      ∧ run.answer = ⟨.error (.transport cause), transfer.initial⟩)
    ∨ ∃ traffic, deedsIn run.journal = deedsIn filtering.journal ++ .sent request :: traffic
      ∧ Course transfer transfer.initial transfer.budget traffic run.answer := by
  intro filtering run
  have started : run = (transfer.start request filtering.transport).after filtering.journal := by
    simp only [run, Transfer.run, opens, filtering]
  rw [started]
  simp only [Run.after, deedsIn_append, deedsIn_start]
  obtain ⟨cause, unopened, failed⟩ | ⟨traffic, opened, course⟩ :=
    course_start transfer request filtering.transport
  · exact .inl ⟨cause, by rw [unopened], failed⟩
  · exact .inr ⟨traffic, by rw [opened], course⟩

theorem Transfer.Lawful.concludes [Transport σ ε] (lawful : transfer.Lawful conduct)
    {request : Message} (opens : transfer.request = .ok request)
    (asks : Asks conduct.node request) (transport : σ) :
    Concludes conduct (deedsIn (transfer.run transport).journal)
      (transfer.run transport).answer.result := by
  have quiet := uneventful_setNodeFilter conduct (.transferUnfiltered (ε := ε) transfer.node)
    transfer.node transport
  obtain ⟨cause, deeds, failed⟩ | ⟨traffic, deeds, course⟩ :=
    transfer.deedsIn_run opens transport
  · rw [deeds, failed]
    exact (Concludes.of_conclusion (.unsent request cause asks)).prepend quiet
  · rw [deeds]
    have opened : Uneventful conduct (.sent request : Entry ε) := asks
    exact ((course.concludes lawful).cons opened).prepend quiet

/-! ## Calls -/

theorem readIdentity_concludes [Transport σ ε] {budget : Nat} {node : UInt8}
    (reads : ∀ subindex ∈ [1, 2, 3], ∀ transport : σ,
      let run :=
        (Transfer.expeditedUpload (ε := ε) budget node identityIndex subindex).run transport
      Concludes conduct (deedsIn run.journal) run.answer.result)
    (transport : σ) :
    Concludes conduct (deedsIn (readIdentity budget node transport).journal)
      (readIdentity budget node transport).answer := by
  unfold readIdentity
  apply Concludes.andThen
  · exact reads 1 (by decide) transport
  · intro vendorId transport
    apply Concludes.andThen
    · exact reads 2 (by decide) transport
    · intro productCode transport
      exact (reads 3 (by decide) transport).map _

theorem Call.concludes [Transport σ ε] {call : Call} (requestable : call.Requestable)
    (config : Config) (transport : σ) :
    Concludes call.conduct (deedsIn (call.run config transport).journal)
      (call.run config transport).answer.result := by
  have transfers {S α : Type} {transfer : Transfer ε S α}
      (plays : call.Plays config transfer) (transport : σ) :
      Concludes call.conduct (deedsIn (transfer.run transport).journal)
        (transfer.run transport).answer.result := by
    obtain ⟨_, nodeFits, request, opens, asks⟩ | ⟨unrequestable, _⟩ := plays.request_cases
    · exact (plays.lawful nodeFits).concludes opens asks transport
    · exact absurd requestable unrequestable
  cases call with
  | expeditedUpload node index subindex =>
      exact (transfers (.expeditedUpload node index subindex) transport).map _
  | expeditedDownload node index subindex data =>
      exact (transfers (.expeditedDownload node index subindex data) transport).map _
  | segmentedUpload node index subindex contents =>
      exact (transfers (.segmentedUpload node index subindex contents) transport).map _
  | segmentedDownload node index subindex data =>
      exact (transfers (.segmentedDownload node index subindex data) transport).map _
  | blockUpload node index subindex contents => exact .of_conclusion (.settled trivial)
  | blockDownload node index subindex data =>
      exact (transfers (.blockDownload node index subindex data) transport).map _
  | identity node =>
      refine (readIdentity_concludes (fun subindex among transport => ?_) transport).map _
      exact transfers (.identity node subindex among) transport

/-! ## Calls without a request -/

/-- Whether a call sets the filter on its node before it knows its request. -/
def Call.filtersFirst : Call → Bool
  | expeditedUpload _ _ _ | segmentedUpload _ _ _ _ | identity _ => true
  | expeditedDownload _ _ _ _ | segmentedDownload _ _ _ _ | blockUpload _ _ _ _
  | blockDownload _ _ _ _ => false

/-- What a run that ends before its request does: it may set the filter on a node, and no
more. -/
def rejecting {ρ : Type} [Transport σ ε] (filters : Bool) (node : UInt8) (answer : ρ)
    (transport : σ) : Run σ ε ρ :=
  if filters then
    (Exchange.setNodeFilter (.transferUnfiltered node) node transport).map fun () => answer
  else
    ⟨answer, transport, []⟩

theorem answer_rejecting {ρ : Type} [Transport σ ε] (filters : Bool) (node : UInt8)
    (answer : ρ) (transport : σ) :
    (rejecting filters node answer transport : Run σ ε ρ).answer = answer := by
  cases filters <;> rfl

theorem trafficIn_rejecting {ρ : Type} [Transport σ ε] (filters : Bool) (node : UInt8)
    (answer : ρ) (transport : σ) :
    trafficIn (rejecting filters node answer transport : Run σ ε ρ).journal = [] := by
  cases filters with
  | true => exact Exchange.trafficIn_setNodeFilter _ node transport
  | false => rfl

theorem transport_rejecting {ρ : Type} [Transport σ ε] (filters : Bool) (node : UInt8)
    (answer : ρ) (transport : σ) :
    (rejecting filters node answer transport : Run σ ε ρ).transport
      = if filters then (Transport.setNodeFilter node transport).2 else transport := by
  cases filters with
  | true => exact Exchange.transport_setNodeFilter _ node transport
  | false => rfl

theorem Transfer.run_of_error [Transport σ ε] {cause : CodecError}
    (refused : transfer.request = .error cause) (transport : σ) :
    transfer.run transport
      = rejecting transfer.filtersAnyway transfer.node
          ⟨.error (.malformed cause), transfer.initial⟩ transport := by
  rw [Transfer.run, refused, rejecting]
  rfl

theorem map_rejecting {ρ ρ' : Type} [Transport σ ε] (filters : Bool) (node : UInt8)
    (answer : ρ) (transport : σ) (view : ρ → ρ') :
    (rejecting filters node answer transport : Run σ ε ρ).map view
      = rejecting filters node (view answer) transport := by
  cases filters <;> rfl

theorem Call.run_of_not_requestable [Transport σ ε] {call : Call}
    (unrequestable : ¬ call.Requestable) (config : Config) (transport : σ) :
    ∃ cause buffer, call.run config transport
      = rejecting call.filtersFirst call.conduct.node ⟨.error (.malformed cause), buffer⟩
          transport := by
  have transfers {S α : Type} {transfer : Transfer ε S α}
      (plays : call.Plays config transfer) :
      ∃ cause, transfer.run transport
        = rejecting transfer.filtersAnyway transfer.node
            ⟨.error (.malformed cause), transfer.initial⟩ transport := by
    obtain ⟨requestable, _⟩ | ⟨_, cause, refused⟩ := plays.request_cases
    · exact absurd requestable unrequestable
    · exact ⟨cause, transfer.run_of_error refused transport⟩
  cases call with
  | expeditedUpload node index subindex =>
      obtain ⟨cause, rejects⟩ := transfers (.expeditedUpload node index subindex)
      exact ⟨cause, none, by rw [Call.run, rejects, map_rejecting]; rfl⟩
  | expeditedDownload node index subindex data =>
      obtain ⟨cause, rejects⟩ := transfers (.expeditedDownload node index subindex data)
      exact ⟨cause, none, by rw [Call.run, rejects, map_rejecting]; rfl⟩
  | segmentedUpload node index subindex contents =>
      obtain ⟨cause, rejects⟩ := transfers (.segmentedUpload node index subindex contents)
      exact ⟨cause, some contents, by rw [Call.run, rejects, map_rejecting]; rfl⟩
  | segmentedDownload node index subindex data =>
      obtain ⟨cause, rejects⟩ := transfers (.segmentedDownload node index subindex data)
      exact ⟨cause, none, by rw [Call.run, rejects, map_rejecting]; rfl⟩
  | blockUpload node index subindex contents => exact absurd trivial unrequestable
  | blockDownload node index subindex data =>
      obtain ⟨cause, rejects⟩ := transfers (.blockDownload node index subindex data)
      exact ⟨cause, none, by rw [Call.run, rejects, map_rejecting]; rfl⟩
  | identity node =>
      obtain ⟨cause, rejects⟩ := transfers (.identity node 1 (by decide))
      refine ⟨cause, none, ?_⟩
      rw [Call.run, readIdentity]
      dsimp only
      rw [rejects]
      rfl

end Sdo

end CanOpen
