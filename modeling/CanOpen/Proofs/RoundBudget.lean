import CanOpen.Proofs.Expectation
import CanOpen.Proofs.Faults

/-!
# Budgets of rounds

The budget of a call is a number of messages.  The call times out exactly when so many have
come since its request, or since it last moved on, and it does not wait for another one.
-/

set_option autoImplicit false

namespace CanOpen.Sdo

variable {σ ε S α β : Type}

/-- Whether as many messages have come as a budget allows, and none of them gave the call
up. -/
def Waiting.Exhausted (node : UInt8) (budget : Nat) (waiting : Waiting) : Prop :=
  waiting.heard.length = budget ∧ ∀ message ∈ waiting.heard, message.said? node ≠ some .abort

/-- Whether a result fits the messages that were received while waiting. -/
structure Awaited (node : UInt8) (budget : Nat) (start : Waiting) (heard : List Message)
    (result : Except (Failure ε) α) : Prop where
  timesOut : result = .error .timeout ↔ (start.after node heard).Exhausted node budget
  within : ∀ before message later, heard = before ++ message :: later →
    (start.after node before).heard.length < budget
  settles : ∀ value, result = .ok value → (start.after node heard).heard = []

section Rounds

variable {node : UInt8} {budget : Nat} {start : Waiting} {heard : List Message}
  {message : Message} {result : Except (Failure ε) α}

theorem Waiting.not_exhausted_of_lt (left : start.heard.length < budget) :
    ¬ start.Exhausted node budget := by
  rintro ⟨all, _⟩
  omega

theorem Waiting.not_exhausted_of_abort (member : message ∈ start.heard)
    (aborts : message.said? node = some .abort) : ¬ start.Exhausted node budget := by
  rintro ⟨_, unbroken⟩
  exact unbroken message member aborts

namespace Awaited

theorem unheard (timesOut : result = .error .timeout ↔ start.Exhausted node budget)
    (settles : ∀ value, result = .ok value → start.heard = []) :
    Awaited node budget start [] result where
  timesOut := timesOut
  within before message later split := by
    rw [List.nil_eq_append_iff] at split
    exact absurd split.2 (List.cons_ne_nil message later)
  settles := settles

theorem cons (left : start.heard.length < budget)
    (later : Awaited node budget (start.hear node message) heard result) :
    Awaited node budget start (message :: heard) result where
  timesOut := later.timesOut
  within := by
    intro before last after split
    cases before with
    | nil => exact left
    | cons first others =>
        obtain ⟨rfl, rest⟩ := List.cons_eq_cons.1 split
        exact later.within others last after rest
  settles := later.settles

theorem append {value : α} {messages : List Message} {other : Except (Failure ε) β}
    (first : Awaited node budget start heard (.ok value : Except (Failure ε) α))
    (later : Awaited node budget (start.after node heard) messages other) :
    Awaited node budget start (heard ++ messages) other where
  timesOut := by
    rw [Waiting.after_append]
    exact later.timesOut
  within := by
    intro before message after split
    obtain ⟨inner, rfl, rest⟩ | ⟨inner, rfl, rest⟩ := List.append_eq_append_iff.1 split
    · rw [Waiting.after_append]
      exact later.within inner message after rest
    · cases inner with
      | nil =>
          have none := later.within [] message after rest.symm
          rwa [List.append_nil] at none
      | cons next others =>
          obtain ⟨rfl, rfl⟩ := List.cons_eq_cons.1 rest
          exact first.within before message others rfl
  settles := by
    rw [Waiting.after_append]
    exact later.settles

theorem recast {failure : Failure ε}
    (awaited : Awaited node budget start heard (.error failure : Except (Failure ε) α)) :
    Awaited node budget start heard (.error failure : Except (Failure ε) β) where
  timesOut := by
    rw [← awaited.timesOut, Except.error.injEq, Except.error.injEq]
  within := awaited.within
  settles := nofun

theorem map (awaited : Awaited node budget start heard result) (view : α → β) :
    Awaited node budget start heard (result.map view) := by
  cases result with
  | error failure => exact awaited.recast
  | ok value =>
      refine ⟨?_, awaited.within, fun _ _ => awaited.settles value rfl⟩
      rw [← awaited.timesOut]
      exact ⟨nofun, nofun⟩

end Awaited

end Rounds

/-! ## Transfers -/

theorem Sending.ne_timeout {requests : List (Except CodecError Message)}
    {journal : List (Entry ε)} {failure : Failure ε}
    (sending : Sending requests journal (.error failure)) : failure ≠ .timeout := by
  generalize fails : (.error failure : Except (Failure ε) Unit) = answer at sending
  induction sending with
  | done => cases fails
  | unbuilt cause others | unsent message cause others =>
      rw [Except.error.inj fails]
      exact nofun
  | sent message later inductionHypothesis => exact inductionHypothesis fails

/-- Whether so many messages are left of a budget while none gave the call up. -/
def Waiting.Spares (node : UInt8) (budget left : Nat) (waiting : Waiting) : Prop :=
  waiting.heard.length + left = budget ∧ ∀ message ∈ waiting.heard, message.said? node ≠ some .abort

namespace Waiting.Spares

variable {node : UInt8} {budget left : Nat} {waiting : Waiting}

theorem fresh (node : UInt8) (budget : Nat) (expectation : Expectation) :
    Spares node budget budget ⟨expectation, []⟩ :=
  ⟨Nat.zero_add budget, List.forall_mem_nil _⟩

theorem lt (spares : waiting.Spares node budget (left + 1)) : waiting.heard.length < budget := by
  have count := spares.1
  omega

/-- A message that is not waited for costs one. -/
theorem hear {message : Message} (spares : waiting.Spares node budget (left + 1))
    (foreign : ¬ waiting.expectation.Accepts node message)
    (goesOn : message.said? node ≠ some .abort) :
    (waiting.hear node message).Spares node budget left := by
  obtain ⟨count, unbroken⟩ := spares
  rw [hear_of_not_accepts foreign]
  refine ⟨?_, List.forall_mem_append.2 ⟨unbroken, List.forall_mem_singleton.2 goesOn⟩⟩
  rw [List.length_append, List.length_singleton]
  omega

end Waiting.Spares

section Courses

variable {transfer : Transfer ε S α} {Stands : S → Expectation → Prop} {state : S} {left : Nat}
  {waiting : Waiting} {traffic : List (Entry ε)} {ending : Ending ε S α}

/-- What is received from a state on is awaited, from whatever expectation the state goes
with. -/
def Awaits (transfer : Transfer ε S α) (Stands : S → Expectation → Prop) (state : S)
    (left : Nat) (traffic : List (Entry ε)) (ending : Ending ε S α) : Prop :=
  ∀ waiting : Waiting, Stands state waiting.expectation →
    waiting.Spares transfer.node transfer.budget left →
    Awaited transfer.node transfer.budget waiting (receivedIn traffic) ending.result

theorem Reaction.Fits.awaited {reaction : Reaction ε S α} {message : Message}
    {command : ServerCommand}
    (fits : reaction.Fits Stands waiting.expectation message command)
    (said : message.said? transfer.node = some command)
    (stands : Stands state waiting.expectation)
    (spares : waiting.Spares transfer.node transfer.budget (left + 1))
    (aftermath : reaction.Aftermath (Awaits transfer Stands) state left transfer.budget traffic
      ending) :
    Awaited transfer.node transfer.budget (waiting.hear transfer.node message)
      (receivedIn traffic) ending.result := by
  -- Right after an accepted message the whole budget is left, and there is some.
  have fresh (expectation : Expectation) :
      ¬ (Waiting.mk expectation []).Exhausted transfer.node transfer.budget :=
    Waiting.not_exhausted_of_lt (Nat.zero_lt_of_lt spares.lt)
  cases fits with
  | ignored notes foreign goesOn =>
      have unaccepted := Expectation.not_accepts_of_said said foreign
      have unbroken : message.said? transfer.node ≠ some .abort := by
        rw [said]
        exact fun same => goesOn (Option.some.inj same)
      cases aftermath with
      | ignored later =>
          apply later _ _ (spares.hear unaccepted unbroken)
          rwa [Waiting.hear_of_not_accepts unaccepted]
  | proceeded notes requests takes standsNext =>
      rw [Waiting.hear_of_accepts ((Expectation.accepts_iff_of_said said).2 takes)]
      cases aftermath with
      | proceeded sent later =>
          rw [receivedIn_append, sent.unheard.receivedIn_eq, List.nil_append]
          exact later _ standsNext (.fresh _ _ _)
      | interrupted unsent =>
          rw [unsent.unheard.receivedIn_eq]
          refine .unheard (iff_of_false ?_ (fresh _)) nofun
          exact fun same => unsent.ne_timeout (Except.error.inj same)
  | finished notes requests final takes inTime =>
      rw [Waiting.hear_of_accepts ((Expectation.accepts_iff_of_said said).2 takes)]
      cases aftermath with
      | @finished _ _ _ _ answer _ sent =>
          rw [sent.unheard.receivedIn_eq]
          refine .unheard (iff_of_false ?_ (fresh _)) fun _ _ => rfl
          cases answer with
          | error failure => exact fun same => sent.ne_timeout (Except.error.inj same)
          | ok _ => exact inTime
  | givenUp node payload final foreign aborts =>
      rw [Waiting.hear_of_not_accepts (Expectation.not_accepts_of_said said foreign)]
      cases aftermath with
      | finished sent =>
          cases sent
          refine .unheard (iff_of_false nofun ?_) nofun
          rw [aborts] at said
          exact Waiting.not_exhausted_of_abort (List.mem_append_right _ List.mem_cons_self) said

theorem Course.awaits (follows : transfer.Follows Stands)
    (course : Course transfer state left traffic ending) :
    Awaits transfer Stands state left traffic ending := by
  -- The sum is the invariant: an ignored message moves one from left to heard, and an
  -- accepted one starts both anew.
  induction course using Course.induct with
  | exhausted state =>
      intro waiting stands spares
      exact .unheard (iff_of_true rfl spares) nofun
  | unreceived state left cause =>
      intro waiting stands spares
      exact .unheard (iff_of_false nofun (Waiting.not_exhausted_of_lt spares.lt)) nofun
  | received state left message traffic ending course aftermath =>
      intro waiting stands spares
      apply Awaited.cons spares.lt
      obtain ⟨unsaid, notes, ignores⟩ | ⟨payload, body, said, hears⟩ :=
        transfer.hear_cases state message
      · have foreign := waiting.expectation.not_accepts_of_unsaid unsaid
        rw [ignores] at aftermath
        cases aftermath with
        | ignored later =>
            obtain ⟨_, inductionHypothesis⟩ := later
            apply inductionHypothesis _ _ (spares.hear foreign (by rw [unsaid]; nofun))
            rwa [Waiting.hear_of_not_accepts foreign]
      · rw [hears] at aftermath
        have fits := follows state waiting.expectation message payload stands body
        exact fits.awaited said stands spares (aftermath.mono fun _ _ _ _ later => later.2)

end Courses

/-! ## Runs -/

/-- The traffic of what starts with a request, and how it ends. -/
inductive Requested (node : UInt8) (budget : Nat) (start : Waiting) (request : Message) :
    List (Entry ε) → Except (Failure ε) α → Prop
  | unsent (cause : ε) :
      Requested node budget start request [.unsent request cause] (.error (.transport cause))
  | sent {traffic : List (Entry ε)} {result : Except (Failure ε) α}
      (awaited : Awaited node budget start (receivedIn traffic) result)
      (immediate : budget = 0 → traffic = [] ∧ result = .error .timeout) :
      Requested node budget start request (.sent request :: traffic) result

namespace Requested

variable {node : UInt8} {budget : Nat} {start : Waiting} {request : Message}
  {traffic : List (Entry ε)}

theorem recast {failure : Failure ε}
    (requested : Requested node budget start request traffic
      (.error failure : Except (Failure ε) α)) :
    Requested node budget start request traffic (.error failure : Except (Failure ε) β) := by
  cases requested with
  | unsent cause => exact .unsent cause
  | sent awaited immediate =>
      refine .sent awaited.recast fun none => ?_
      obtain ⟨silent, times⟩ := immediate none
      exact ⟨silent, congrArg Except.error (Except.error.inj times)⟩

theorem map {result : Except (Failure ε) α} (view : α → β)
    (requested : Requested node budget start request traffic result) :
    Requested node budget start request traffic (result.map view) := by
  cases result with
  | error failure => exact requested.recast
  | ok value =>
      cases requested with
      | sent awaited immediate =>
          exact .sent (awaited.map view) fun none => nomatch (immediate none).2

theorem andThen {run : Run σ ε (Except (Failure ε) α)}
    {next : α → σ → Run σ ε (Except (Failure ε) β)}
    (first : Requested node budget ⟨.value, []⟩ request (trafficIn run.journal) run.answer)
    (later : ∀ value rest, ∃ request, Requested node budget ⟨.value, []⟩ request
      (trafficIn (next value rest).journal) (next value rest).answer) :
    Requested node budget ⟨.value, []⟩ request (trafficIn (run.andThen next).journal)
      (run.andThen next).answer := by
  cases answer : run.answer with
  | error failure =>
      rw [answer] at first
      rw [Run.andThen_of_error answer]
      exact first.recast
  | ok value =>
      rw [answer] at first
      rw [Run.andThen_of_ok answer]
      simp only [Run.after, trafficIn_append]
      generalize trafficIn run.journal = before at first
      cases first with
      | @sent traffic _ awaited immediate =>
          have settled : Waiting.after node ⟨.value, []⟩ (receivedIn traffic) = ⟨.value, []⟩ :=
            Waiting.ext (Waiting.expectation_after_value node [] _) (awaited.settles value rfl)
          -- Without any budget there is no value, so that something is left for what follows.
          have positive : budget ≠ 0 := by
            intro none
            cases (immediate none).2
          rw [List.cons_append]
          refine .sent ?_ fun none => absurd none positive
          rw [receivedIn_append]
          apply awaited.append
          rw [settled]
          obtain ⟨_, asked⟩ := later value run.transport
          generalize trafficIn (next value run.transport).journal = after at asked
          generalize (next value run.transport).answer = result at asked
          cases asked with
          | unsent cause =>
              refine .unheard (iff_of_false (by simp) ?_) (by simp)
              exact Waiting.not_exhausted_of_lt (Nat.pos_of_ne_zero positive)
          | sent awaited immediate => exact awaited

end Requested

theorem requested_run [Transport σ ε] {transfer : Transfer ε S α}
    {Stands : S → Expectation → Prop} (follows : transfer.Follows Stands)
    {expectation : Expectation} (stands : Stands transfer.initial expectation)
    {request : Message} (opens : transfer.request = .ok request) (transport : σ) :
    Requested transfer.node transfer.budget ⟨expectation, []⟩ request
      (trafficIn (transfer.run transport).journal) (transfer.run transport).answer.result := by
  obtain ⟨cause, unopened, failed⟩ | ⟨traffic, opened, course⟩ :=
    course_run transfer opens transport
  · rw [unopened, failed]
    exact .unsent cause
  · rw [opened]
    have awaited := course.awaits follows ⟨expectation, []⟩ stands (.fresh _ _ _)
    refine .sent awaited fun none => ?_
    generalize (transfer.run transport).answer = ending at course
    rw [none] at course
    cases course with
    | exhausted state => exact ⟨rfl, rfl⟩

/-! ## Calls -/

/-- What a call waits for once it has been requested. -/
def Call.expectation : Call → Expectation
  | expeditedUpload _ _ _ | identity _ => .value
  | expeditedDownload _ _ _ _ => .settlement
  | segmentedUpload _ _ _ _ => .uploadGrant
  | segmentedDownload _ _ _ _ => .downloadGrant
  | blockDownload _ _ _ data => .blockReply data.length .opening
  | blockUpload _ _ _ _ => .nothing

/-- How many messages a call receives without moving on. -/
def Call.budget (config : Config) : Call → Nat
  | expeditedUpload _ _ _ | identity _ => config.expeditedRounds
  | expeditedDownload _ _ _ _ | segmentedUpload _ _ _ _ | segmentedDownload _ _ _ _
  | blockDownload _ _ _ _ | blockUpload _ _ _ _ => config.transferRounds

/-- The message that a call opens with, where it sends any. -/
def Call.opening? (config : Config) : Call → Option (Except CodecError Message)
  | expeditedUpload node index subindex | segmentedUpload node index subindex _ =>
      some (Request.initiateUpload node index subindex)
  | expeditedDownload node index subindex data =>
      some (Request.expeditedDownload node index subindex data)
  | segmentedDownload node index subindex data =>
      some (Request.initiateSegmentedDownload node index subindex data.length)
  | blockDownload node index subindex data =>
      some (Request.initiateBlockDownload node index subindex data.length config.blockCrc)
  | identity node => some (Request.initiateUpload node identityIndex 1)
  | blockUpload _ _ _ _ => none

def Call.waiting (call : Call) (received : List Message) : Waiting :=
  Waiting.after call.node ⟨call.expectation, []⟩ received

theorem Call.requested [Transport σ ε] {call : Call} (requestable : call.Requestable)
    (requests : ¬ ∃ node index subindex contents, call = .blockUpload node index subindex contents)
    (config : Config) (transport : σ) :
    ∃ request, call.opening? config = some (.ok request)
      ∧ Requested call.node (call.budget config) ⟨call.expectation, []⟩ request
          (trafficIn (call.run config transport).journal)
          (call.run config transport).answer.result := by
  have opens {S α : Type} {transfer : Transfer ε S α} (plays : call.Plays config transfer) :
      call.conduct.node.toNat ≤ 127 ∧ ∃ request, transfer.request = .ok request := by
    obtain ⟨_, nodeFits, request, opens, _⟩ | ⟨unrequestable, _⟩ := plays.request_cases
    · exact ⟨nodeFits, request, opens⟩
    · exact absurd requestable unrequestable
  cases call with
  | expeditedUpload node index subindex =>
      obtain ⟨_, request, opens⟩ := opens (.expeditedUpload node index subindex)
      exact ⟨request, congrArg some opens,
        (requested_run follows_expeditedUpload rfl opens transport).map _⟩
  | expeditedDownload node index subindex data =>
      obtain ⟨_, request, opens⟩ := opens (.expeditedDownload node index subindex data)
      exact ⟨request, congrArg some opens,
        (requested_run follows_expeditedDownload rfl opens transport).map _⟩
  | segmentedUpload node index subindex contents =>
      obtain ⟨_, request, opens⟩ := opens (.segmentedUpload node index subindex contents)
      exact ⟨request, congrArg some opens,
        (requested_run follows_segmentedUpload rfl opens transport).map _⟩
  | segmentedDownload node index subindex data =>
      obtain ⟨_, request, opens⟩ := opens (.segmentedDownload node index subindex data)
      exact ⟨request, congrArg some opens,
        (requested_run follows_segmentedDownload rfl opens transport).map _⟩
  | blockUpload node index subindex contents => exact absurd ⟨_, _, _, _, rfl⟩ requests
  | blockDownload node index subindex data =>
      obtain ⟨nodeFits, request, opens⟩ := opens (.blockDownload node index subindex data)
      have stands : StandsInBlocks data .opening (.blockReply data.length .opening) :=
        ⟨.opening, false, trivial, rfl, rfl⟩
      exact ⟨request, congrArg some opens,
        (requested_run (follows_blockDownload nodeFits) stands opens transport).map _⟩
  | identity node =>
      have reads (subindex : UInt8) (among : subindex ∈ [1, 2, 3]) (transport : σ) :
          let run := (Transfer.expeditedUpload (ε := ε) config.expeditedRounds node identityIndex
            subindex).run transport
          ∃ request, Request.initiateUpload node identityIndex subindex = .ok request
            ∧ Requested node config.expeditedRounds ⟨.value, []⟩ request (trafficIn run.journal)
                run.answer.result := by
        obtain ⟨_, request, opens⟩ := opens (.identity node subindex among)
        exact ⟨request, opens, requested_run follows_expeditedUpload rfl opens transport⟩
      obtain ⟨request, opens, vendor⟩ := reads 1 (by decide) transport
      refine ⟨request, congrArg some opens, Requested.map Value.identity ?_⟩
      unfold readIdentity
      apply vendor.andThen
      intro vendorId transport
      obtain ⟨request, _, product⟩ := reads 2 (by decide) transport
      refine ⟨request, product.andThen ?_⟩
      intro productCode transport
      obtain ⟨request, _, revision⟩ := reads 3 (by decide) transport
      exact ⟨request, revision.map _⟩

/-- Whether a call gives up waiting as soon as its budget is used up, and only then. -/
structure KeepsBudget (config : Config) (call : Call) (run : Run σ ε (Answer ε)) : Prop where
  /-- What can be requested is requested before anything else passes. -/
  requests : call.Requestable →
    (¬ ∃ node index subindex contents, call = .blockUpload node index subindex contents) →
    ∃ request, call.opening? config = some (.ok request)
      ∧ ((∃ cause, trafficIn run.journal = [.unsent request cause])
        ∨ ∃ later, trafficIn run.journal = .sent request :: later)
  timesOut : run.answer.result = .error .timeout ↔
    sentIn run.journal ≠ [] ∧ (∀ entry ∈ run.journal, entry.fault? = none)
      ∧ (call.waiting (receivedIn run.journal)).Exhausted call.node (call.budget config)
  /-- Before every message that is received some of the budget is left. -/
  within : ∀ before message later, receivedIn run.journal = before ++ message :: later →
    (call.waiting before).heard.length < call.budget config
  immediate : call.budget config = 0 → sentIn run.journal ≠ [] →
    run.answer.result = .error .timeout
      ∧ ∃ request, trafficIn run.journal = [.sent request]

/-- A call that hands nothing over has no use for its budget. -/
theorem keepsBudget_of_silent {config : Config} {call : Call} {run : Run σ ε (Answer ε)}
    (silent : trafficIn run.journal = []) (inTime : run.answer.result ≠ .error .timeout)
    (unrequested : ¬ call.Requestable
      ∨ ∃ node index subindex contents, call = .blockUpload node index subindex contents) :
    KeepsBudget config call run := by
  have unsent : sentIn run.journal = [] := by
    rw [← sentIn_trafficIn, silent, sentIn_nil]
  have unheard : receivedIn run.journal = [] := by
    rw [← receivedIn_trafficIn, silent, receivedIn_nil]
  refine ⟨fun requestable requests => ?_, iff_of_false inTime fun sends => sends.1 unsent, ?_,
    fun _ sends => absurd unsent sends⟩
  · rcases unrequested with unrequestable | blockwise
    · exact absurd requestable unrequestable
    · exact absurd blockwise requests
  · intro before message later split
    rw [unheard, List.nil_eq_append_iff] at split
    exact absurd split.2 (List.cons_ne_nil message later)

theorem Requested.keepsBudget {config : Config} {call : Call} {run : Run σ ε (Answer ε)}
    {request : Message} (opens : call.opening? config = some (.ok request))
    (requested : Requested call.node (call.budget config) ⟨call.expectation, []⟩ request
      (trafficIn run.journal) run.answer.result)
    (faithful : ∀ entry ∈ run.journal, ∀ cause, entry.fault? = some cause →
      run.answer.result = .error (.transport cause)) :
    KeepsBudget config call run := by
  have clean (times : run.answer.result = .error .timeout) :
      ∀ entry ∈ run.journal, entry.fault? = none := by
    intro entry member
    rw [Option.eq_none_iff_forall_ne_some]
    intro cause fails
    have blamed := faithful entry member cause fails
    rw [times] at blamed
    cases blamed
  generalize opened : trafficIn run.journal = traffic at requested
  generalize ends : run.answer.result = result at requested
  cases requested with
  | unsent cause =>
      have unsent : sentIn run.journal = [] := by
        rw [← sentIn_trafficIn, opened]
        rfl
      refine ⟨fun _ _ => ⟨request, opens, .inl ⟨cause, opened⟩⟩, ?_, ?_,
        fun _ sends => absurd unsent sends⟩
      · exact iff_of_false (by simp [ends]) fun sends => sends.1 unsent
      · intro before message later split
        rw [receivedIn_of_unsent opened, List.nil_eq_append_iff] at split
        exact absurd split.2 (List.cons_ne_nil message later)
  | @sent later _ awaited immediate =>
      have received := receivedIn_of_sent opened
      have sends : sentIn run.journal ≠ [] := by
        rw [← sentIn_trafficIn, opened]
        exact List.cons_ne_nil request _
      refine ⟨fun _ _ => ⟨request, opens, .inr ⟨later, opened⟩⟩, ?_, ?_, ?_⟩
      · rw [received]
        constructor
        · intro times
          exact ⟨sends, clean times, awaited.timesOut.1 (ends.symm.trans times)⟩
        · rintro ⟨_, _, exhausted⟩
          exact ends.trans (awaited.timesOut.2 exhausted)
      · rw [received]
        exact awaited.within
      · intro none _
        obtain ⟨rfl, times⟩ := immediate none
        exact ⟨ends.trans times, request, opened⟩

/-- Whatever a call is, it times out exactly when it has sent its request, sending and
receiving have not failed, and as many messages as its budget allows have come since the
request or since the last one that it accepted, without any that it accepts or that gives it
up.  It never receives another message then, and none at all if its budget is none. -/
theorem Call.timesOut_exactly [Transport σ ε] (config : Config) (call : Call) (transport : σ) :
    KeepsBudget config call (call.run config transport) := by
  by_cases requestable : call.Requestable
  · by_cases requests : ∃ node index subindex contents,
        call = .blockUpload node index subindex contents
    · obtain ⟨node, index, subindex, contents, rfl⟩ := requests
      exact keepsBudget_of_silent rfl nofun (.inr ⟨_, _, _, _, rfl⟩)
    · obtain ⟨request, opens, requested⟩ := call.requested requestable requests config transport
      exact requested.keepsBudget opens (call.blamed_of_fault config transport)
  · obtain ⟨cause, buffer, rejects⟩ :=
      Call.run_of_not_requestable requestable config transport
    have silent := trafficIn_rejecting (ε := ε) call.filtersFirst call.conduct.node
      (⟨.error (.malformed cause), buffer⟩ : Answer ε) transport
    rw [rejects]
    refine keepsBudget_of_silent silent ?_ (.inl requestable)
    rw [answer_rejecting]
    exact nofun

end CanOpen.Sdo
