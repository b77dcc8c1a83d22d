import CanOpen.Proofs.Conclusions
import CanOpen.Proofs.Lockstep

/-!
# Transports that fail

The journal of a call tells of everything that was done on the transport, in order, and of
nothing else.  Once sending or receiving fails nothing more is done, and the call fails with
the cause that the transport gave; it blames the transport for nothing else.  Whether the
filter on a node could be set makes no difference.
-/

set_option autoImplicit false

namespace CanOpen

variable {σ ε ρ : Type}

/-! ## What a journal tells -/

namespace Transport

variable [Transport σ ε] {state rest : σ}

theorem receive_of_failed {cause : ε} (failed : reception state = .failed cause rest) :
    receive state = (.error cause, rest) := by
  cases received : receive state with
  | mk result after =>
      cases result with
      | error found =>
          rw [reception_of_error received] at failed
          cases failed
          rfl
      | ok message =>
          obtain ⟨lower, arrives⟩ := reception_of_ok received
          rw [arrives] at failed
          cases failed

theorem receive_of_arrived {message : Message} {lower : horizon rest < horizon state}
    (arrived : reception state = .arrived message rest lower) :
    receive state = (.ok message, rest) := by
  cases received : receive state with
  | mk result after =>
      cases result with
      | error found =>
          rw [reception_of_error received] at arrived
          cases arrived
      | ok message =>
          obtain ⟨lower, arrives⟩ := reception_of_ok received
          rw [arrives] at arrived
          cases arrived
          rfl

end Transport

section Records

variable [Transport σ ε]

/-- Whether an entry tells of what takes a transport from one state to another. -/
def Entry.Tells : Entry ε → σ → σ → Prop
  | sent message, s, t => Transport.send message s = (.ok (), t)
  | unsent message cause, s, t => Transport.send message s = (.error cause, t)
  | received message, s, t => Transport.receive s = (.ok message, t)
  | unreceived cause, s, t => Transport.receive s = (.error cause, t)
  | filtered node, s, t => Transport.setNodeFilter node s = (.ok (), t)
  | unfiltered node cause, s, t => Transport.setNodeFilter node s = (.error cause, t)
  | noted _, s, t => t = s

/-- Whether a journal tells, in order, of all that takes a transport from one state to
another. -/
def Records : List (Entry ε) → σ → σ → Prop
  | [], s, t => t = s
  | entry :: rest, s, t => ∃ between, entry.Tells s between ∧ Records rest between t

theorem Records.append {first later : List (Entry ε)} {s t u : σ} (start : Records first s t)
    (rest : Records later t u) : Records (first ++ later) s u := by
  induction first generalizing s with
  | nil =>
      obtain rfl : t = s := start
      exact rest
  | cons entry others inductionHypothesis =>
      obtain ⟨between, tells, remaining⟩ := start
      exact ⟨between, tells, inductionHypothesis remaining⟩

theorem Records.split {first later : List (Entry ε)} {s u : σ}
    (records : Records (first ++ later) s u) : ∃ t, Records first s t ∧ Records later t u := by
  induction first generalizing s with
  | nil => exact ⟨s, rfl, records⟩
  | cons entry others inductionHypothesis =>
      obtain ⟨between, tells, remaining⟩ := records
      obtain ⟨t, start, rest⟩ := inductionHypothesis remaining
      exact ⟨t, ⟨between, tells, start⟩, rest⟩

theorem Records.deedsIn {journal : List (Entry ε)} {s t : σ} (records : Records journal s t) :
    Records (deedsIn journal) s t := by
  induction journal generalizing s with
  | nil => exact records
  | cons entry rest inductionHypothesis =>
      obtain ⟨between, tells, remaining⟩ := records
      cases entry with
      | noted note =>
          obtain rfl : between = s := tells
          exact inductionHypothesis remaining
      | _ => exact ⟨between, tells, inductionHypothesis remaining⟩

theorem Records.eq_of_deedsIn_eq_nil {journal : List (Entry ε)} {s t : σ}
    (records : Records journal s t) (idle : CanOpen.deedsIn journal = []) : t = s := by
  have deeds := records.deedsIn
  rw [idle] at deeds
  exact deeds

theorem records_noted (notes : List (Note ε)) (s : σ) : Records (notes.map .noted) s s := by
  induction notes with
  | nil => rfl
  | cons note others inductionHypothesis => exact ⟨s, rfl, inductionHypothesis⟩

def Run.Recorded (transport : σ) (run : Run σ ε ρ) : Prop :=
  Records run.journal transport run.transport

theorem Run.Recorded.after {run : Run σ ε ρ} {before : List (Entry ε)} {s t : σ}
    (start : Records before s t) (recorded : run.Recorded t) : (run.after before).Recorded s :=
  start.append recorded

theorem Run.Recorded.andThen {φ α β : Type} {run : Run σ ε (Except φ α)}
    {next : α → σ → Run σ ε (Except φ β)} {s : σ} (first : run.Recorded s)
    (later : ∀ value t, (next value t).Recorded t) : (run.andThen next).Recorded s := by
  cases answer : run.answer with
  | error failure =>
      rw [Run.andThen_of_error answer]
      exact first
  | ok value =>
      rw [Run.andThen_of_ok answer]
      exact (later value run.transport).after first

theorem Exchange.recorded_send (message : Message) (s : σ) :
    (Exchange.send message s : Run σ ε (Except ε Unit)).Recorded s := by
  unfold Exchange.send
  split
  next rest sends => exact ⟨rest, sends, rfl⟩
  next cause rest sends => exact ⟨rest, sends, rfl⟩

theorem Exchange.recorded_setNodeFilter (remark : ε → Note ε) (node : UInt8) (s : σ) :
    (Exchange.setNodeFilter remark node s).Recorded s := by
  unfold Exchange.setNodeFilter
  split
  next rest sets => exact ⟨rest, sets, rfl⟩
  next cause rest sets => exact ⟨rest, sets, rest, rfl, rfl⟩

namespace Sdo

theorem recorded_sendAll (requests : List (Except CodecError Message)) (s : σ) :
    (sendAll requests s : Run σ ε _).Recorded s := by
  induction requests generalizing s with
  | nil => exact rfl
  | cons request others inductionHypothesis =>
      cases request with
      | error cause => exact rfl
      | ok message =>
          rw [sendAll]
          apply Run.Recorded.andThen
          · exact Exchange.recorded_send message s
          · intro _ t
            exact inductionHypothesis t

variable {S α : Type}

theorem records_received {message : Message} {s t : σ}
    (receives : Transport.receive s = (.ok message, t)) (notes : List (Note ε)) :
    Records (.received message :: notes.map .noted) s t :=
  ⟨t, receives, records_noted notes t⟩

theorem recorded_await (transfer : Transfer ε S α) (state : S) (budget : Nat) (s : σ) :
    (transfer.await state budget s).Recorded s := by
  fun_induction Transfer.await transfer state budget s with
  | case1 state s => exact rfl
  | case2 state s budget cause rest failed =>
      exact ⟨rest, Transport.receive_of_failed failed, rfl⟩
  | case3 state s budget message rest _ arrived notes heard inductionHypothesis =>
      have receives := Transport.receive_of_arrived arrived
      exact inductionHypothesis.after (records_received receives notes)
  | case4 state s budget message rest _ arrived notes requests next heard sending entries
      failure failed =>
      have receives := Transport.receive_of_arrived arrived
      exact (records_received receives notes).append (recorded_sendAll requests rest)
  | case5 state s budget message rest _ arrived notes requests next heard sending entries
      succeeded inductionHypothesis =>
      have receives := Transport.receive_of_arrived arrived
      exact inductionHypothesis.after
        ((records_received receives notes).append (recorded_sendAll requests rest))
  | case6 state s budget message rest _ arrived notes requests final result heard sending
      entries failure failed =>
      have receives := Transport.receive_of_arrived arrived
      exact (records_received receives notes).append (recorded_sendAll requests rest)
  | case7 state s budget message rest _ arrived notes requests final result heard sending
      entries succeeded =>
      have receives := Transport.receive_of_arrived arrived
      exact (records_received receives notes).append (recorded_sendAll requests rest)

theorem recorded_start (transfer : Transfer ε S α) (request : Message) (s : σ) :
    (transfer.start request s).Recorded s := by
  have sends := Exchange.recorded_send request s
  rw [Transfer.start]
  split
  · exact sends
  · exact (recorded_await transfer _ _ _).after sends

theorem recorded_run (transfer : Transfer ε S α) (s : σ) : (transfer.run s).Recorded s := by
  have filters := Exchange.recorded_setNodeFilter
    (.transferUnfiltered transfer.node) transfer.node s
  rw [Transfer.run]
  split
  next request _ => exact (recorded_start transfer request _).after filters
  · split
    · exact filters
    · exact rfl

theorem recorded_readIdentity (budget : Nat) (node : UInt8) (s : σ) :
    (readIdentity budget node s).Recorded s := by
  unfold readIdentity
  apply Run.Recorded.andThen
  · exact recorded_run _ s
  · intro vendorId t
    apply Run.Recorded.andThen
    · exact recorded_run _ t
    · intro productCode u
      exact recorded_run _ u

theorem Call.recorded (config : Config) (call : Call) (s : σ) :
    (call.run config s).Recorded s := by
  cases call with
  | blockUpload node index subindex contents => exact rfl
  | identity node => exact recorded_readIdentity config.expeditedRounds node s
  | _ => exact recorded_run _ s

end Sdo

namespace Nmt

theorem recorded_sendModuleControl (command : Command) (node : UInt8) (s : σ) :
    (sendModuleControl command node s).Recorded s := by
  unfold sendModuleControl
  split
  · exact rfl
  next message _ =>
    exact Run.Recorded.after (records_noted [.commanded command node] s)
      (Exchange.recorded_send message s)

theorem recorded_awaitGuardReport (node : UInt8) (rounds : Nat) (s : σ) :
    (awaitGuardReport node rounds s).Recorded s := by
  induction rounds generalizing s with
  | zero => exact rfl
  | succ rounds inductionHypothesis =>
      cases receives : Transport.receive s with
      | mk result rest =>
          cases result with
          | error cause =>
              rw [awaitGuardReport_of_error node rounds receives]
              exact ⟨rest, receives, rfl⟩
          | ok message =>
              cases reports : guardReport? node message with
              | some report =>
                  rw [awaitGuardReport_of_some rounds receives reports]
                  exact ⟨rest, receives, rfl⟩
              | none =>
                  rw [awaitGuardReport_of_none rounds receives reports]
                  exact (inductionHypothesis rest).after ⟨rest, receives, rfl⟩

theorem recorded_pollNodeState (node : UInt8) (rounds : Nat) (s : σ) :
    (pollNodeState node rounds s).Recorded s := by
  unfold pollNodeState
  apply Run.Recorded.after (Exchange.recorded_setNodeFilter _ node s)
  split
  · exact rfl
  next request _ =>
    apply Run.Recorded.andThen
    · exact Exchange.recorded_send request _
    · intro _ t
      exact recorded_awaitGuardReport node rounds t

end Nmt

end Records

/-! ## What an answer blames -/

/-- Why sending or receiving failed. -/
def Entry.fault? : Entry ε → Option ε
  | unsent _ cause | unreceived cause => some cause
  | _ => none

/-- Whether all deeds but the last one succeed, and the transport is blamed exactly for what
is at fault in the last one. -/
def Blames (deeds : List (Entry ε)) (blamed : ε → Prop) : Prop :=
  ((∀ deed ∈ deeds, deed.fault? = none) ∧ ∀ cause, ¬ blamed cause)
  ∨ ∃ before last fault, deeds = before ++ [last] ∧ (∀ deed ∈ before, deed.fault? = none)
    ∧ last.fault? = some fault ∧ ∀ cause, blamed cause ↔ cause = fault

namespace Blames

variable {deeds before : List (Entry ε)} {blamed blamed' : ε → Prop}

theorem innocent (clean : ∀ deed ∈ deeds, deed.fault? = none)
    (innocent : ∀ cause, ¬ blamed cause) : Blames deeds blamed :=
  .inl ⟨clean, innocent⟩

theorem guilty {deed : Entry ε} {fault : ε} (fails : deed.fault? = some fault)
    (named : ∀ cause, blamed cause ↔ cause = fault) : Blames [deed] blamed :=
  .inr ⟨[], deed, fault, rfl, List.forall_mem_nil _, fails, named⟩

theorem prepend (clean : ∀ deed ∈ before, deed.fault? = none)
    (blames : Blames deeds blamed) : Blames (before ++ deeds) blamed := by
  obtain ⟨succeed, innocent⟩ | ⟨others, last, fault, rfl, succeed, fails, named⟩ := blames
  · exact .inl ⟨List.forall_mem_append.2 ⟨clean, succeed⟩, innocent⟩
  · refine .inr ⟨before ++ others, last, fault, (List.append_assoc _ _ _).symm, ?_, fails, named⟩
    exact List.forall_mem_append.2 ⟨clean, succeed⟩

theorem cons {deed : Entry ε} (clean : deed.fault? = none) (blames : Blames deeds blamed) :
    Blames (deed :: deeds) blamed := by
  have alone : ∀ other ∈ [deed], other.fault? = none := List.forall_mem_singleton.2 clean
  exact blames.prepend alone

theorem congr (blames : Blames deeds blamed) (same : ∀ cause, blamed cause ↔ blamed' cause) :
    Blames deeds blamed' := by
  rwa [funext fun cause => propext (same cause)] at blames

theorem andThen {φ α β : Type} {fault : ε → φ} {run : Run σ ε (Except φ α)}
    {next : α → σ → Run σ ε (Except φ β)}
    (first : Blames (deedsIn run.journal) fun cause => run.answer = .error (fault cause))
    (later : ∀ value rest, Blames (deedsIn (next value rest).journal) fun cause =>
      (next value rest).answer = .error (fault cause)) :
    Blames (deedsIn (run.andThen next).journal) fun cause =>
      (run.andThen next).answer = .error (fault cause) := by
  rw [Run.andThen]
  cases answer : run.answer with
  | error failure =>
      refine first.congr fun cause => ?_
      rw [answer, Except.error.injEq, Except.error.injEq]
  | ok value =>
      obtain ⟨succeed, _⟩ | ⟨_, _, cause, _, _, _, named⟩ := first
      · simp only [Run.after, deedsIn_append]
        exact (later value run.transport).prepend succeed
      · have failed := (named cause).2 rfl
        rw [answer] at failed
        cases failed

/-- What fails is the last deed, and it is blamed. -/
theorem fatal (blames : Blames deeds blamed) {deed : Entry ε} {after : List (Entry ε)}
    {cause : ε} (here : deeds = before ++ deed :: after) (fails : deed.fault? = some cause) :
    after = [] ∧ blamed cause := by
  obtain ⟨succeed, _⟩ | ⟨others, last, fault, rfl, succeed, lastFails, named⟩ := blames
  · have clean := succeed deed (by rw [here]; exact List.mem_append_right _ List.mem_cons_self)
    rw [clean] at fails
    cases fails
  -- Were anything behind it, it would be one of the deeds before the last, and these succeed.
  · rcases List.eq_nil_or_concat after with rfl | ⟨inner, final, rfl⟩
    · obtain ⟨rfl, same⟩ := List.append_inj' here rfl
      cases same
      rw [lastFails] at fails
      exact ⟨rfl, (named cause).2 (Option.some.inj fails).symm⟩
    · have split : others ++ [last] = (before ++ deed :: inner) ++ [final] := by
        rw [here]
        simp
      obtain ⟨rfl, _⟩ := List.append_inj' split rfl
      have clean := succeed deed (List.mem_append_right _ List.mem_cons_self)
      rw [clean] at fails
      cases fails

theorem culprit (blames : Blames deeds blamed) {cause : ε} (guilty : blamed cause) :
    ∃ before last, deeds = before ++ [last] ∧ last.fault? = some cause := by
  obtain ⟨_, innocent⟩ | ⟨before, last, fault, split, _, fails, named⟩ := blames
  · exact absurd guilty (innocent cause)
  · obtain rfl := (named cause).1 guilty
    exact ⟨before, last, split, fails⟩

end Blames

namespace Sdo

variable {α : Type} {conduct : Conduct} {deeds : List (Entry ε)}
  {result : Except (Failure ε) α}

theorem Uneventful.fault?_eq_none {deed : Entry ε} (quiet : Uneventful conduct deed) :
    deed.fault? = none := by
  cases deed with
  | unsent message cause | unreceived cause => cases quiet
  | _ => rfl

theorem Conclusion.blames (conclusion : Conclusion conduct deeds result) :
    Blames deeds fun cause => result = .error (.transport cause) := by
  cases conclusion with
  | settled harmless =>
      apply Blames.innocent (List.forall_mem_nil _)
      rintro cause rfl
      cases harmless
  | unreceived cause => exact .guilty rfl fun other => by simp [eq_comm]
  | unsent message cause asks => exact .guilty rfl fun other => by simp [eq_comm]
  | @silenced reply refusal refuses cause goesOn =>
      have fails : Blames [(.unsent refusal cause : Entry ε)]
          fun other => (.error (.transport cause) : Except (Failure ε) α)
            = .error (.transport other) :=
        .guilty rfl fun other => by simp [eq_comm]
      exact fails.cons rfl
  | givenUp reply heeds aborts => exact .innocent (List.forall_mem_singleton.2 rfl) nofun
  | refused reply refuses goesOn =>
      exact .innocent (List.forall_mem_cons.2 ⟨rfl, List.forall_mem_singleton.2 rfl⟩) nofun

theorem Concludes.blames (concludes : Concludes conduct deeds result) :
    Blames deeds fun cause => result = .error (.transport cause) := by
  obtain ⟨before, last, rfl, uneventful, conclusion⟩ := concludes
  exact conclusion.blames.prepend fun deed member =>
    (uneventful deed member).fault?_eq_none

theorem fault?_of_mem_setNodeFilter [Transport σ ε] (remark : ε → Note ε) (node : UInt8)
    (transport : σ) :
    ∀ deed ∈ deedsIn (Exchange.setNodeFilter remark node transport).journal,
      deed.fault? = none := by
  unfold Exchange.setNodeFilter
  split <;> simp [Entry.isDeed, Entry.fault?]

theorem blames_rejecting [Transport σ ε] {ρ : Type} (filters : Bool) (node : UInt8)
    (answer : ρ) (transport : σ) {blamed : ε → Prop} (innocent : ∀ cause, ¬ blamed cause) :
    Blames (deedsIn (rejecting filters node answer transport : Run σ ε ρ).journal) blamed := by
  cases filters with
  | true => exact .innocent (fault?_of_mem_setNodeFilter _ node transport) innocent
  | false => exact .innocent (List.forall_mem_nil _) innocent

theorem Call.blames [Transport σ ε] (config : Config) (call : Call) (transport : σ) :
    let run := call.run config transport
    Blames (deedsIn run.journal) fun cause => run.answer.result = .error (.transport cause) := by
  intro run
  by_cases requestable : call.Requestable
  · exact (call.concludes requestable config transport).blames
  · obtain ⟨cause, buffer, rejects⟩ :=
      Call.run_of_not_requestable requestable config transport
    simp only [run, rejects]
    apply blames_rejecting
    cases call.filtersFirst <;> exact nofun

theorem Call.blamed_of_fault [Transport σ ε] (config : Config) (call : Call) (transport : σ) :
    ∀ entry ∈ (call.run config transport).journal, ∀ cause, entry.fault? = some cause →
      (call.run config transport).answer.result = .error (.transport cause) := by
  intro entry member cause fails
  have deed : entry.isDeed = true := by
    cases entry with
    | noted note => cases fails
    | _ => rfl
  obtain ⟨before, after, split⟩ := List.append_of_mem (List.mem_filter.2 ⟨member, deed⟩)
  exact ((call.blames config transport).fatal split fails).2

end Sdo

namespace Nmt

variable [Transport σ ε]

theorem blames_send (message : Message) (transport : σ) :
    let run := (Exchange.send message transport).map (·.mapError Failure.transport)
    Blames (deedsIn run.journal) fun cause => run.answer = .error (.transport cause) := by
  obtain ⟨rest, sends⟩ | ⟨cause, rest, fails⟩ :=
    Exchange.send_cases (ε := ε) message transport
  · rw [sends]
    exact .innocent (List.forall_mem_singleton.2 rfl) nofun
  · rw [fails]
    refine .guilty rfl fun other => ?_
    show (.error (.transport cause) : Except (Failure ε) Unit) = .error (.transport other)
      ↔ other = cause
    simp [eq_comm]

theorem blames_sendModuleControl (command : Command) (node : UInt8) (transport : σ) :
    let run := sendModuleControl command node transport
    Blames (deedsIn run.journal) fun cause => run.answer = .error (.transport cause) := by
  intro run
  simp only [run, sendModuleControl]
  split
  · exact .innocent (List.forall_mem_nil _) nofun
  next message _ => exact blames_send message transport

theorem blames_awaitGuardReport (node : UInt8) (rounds : Nat) (transport : σ) :
    let run := awaitGuardReport node rounds transport
    Blames (deedsIn run.journal) fun cause => run.answer = .error (.transport cause) := by
  induction rounds generalizing transport with
  | zero => exact .innocent (List.forall_mem_nil _) nofun
  | succ rounds inductionHypothesis =>
      cases receives : Transport.receive transport with
      | mk result rest =>
          cases result with
          | error cause =>
              rw [awaitGuardReport_of_error node rounds receives]
              exact .guilty rfl fun other => by simp [eq_comm]
          | ok message =>
              cases reports : guardReport? node message with
              | some report =>
                  rw [awaitGuardReport_of_some rounds receives reports]
                  exact .innocent (List.forall_mem_singleton.2 rfl) nofun
              | none =>
                  rw [awaitGuardReport_of_none rounds receives reports]
                  exact (inductionHypothesis rest).cons rfl

theorem blames_pollNodeState (node : UInt8) (rounds : Nat) (transport : σ) :
    let run := pollNodeState node rounds transport
    Blames (deedsIn run.journal) fun cause => run.answer = .error (.transport cause) := by
  intro run
  simp only [run, pollNodeState, Run.after, deedsIn_append]
  apply Blames.prepend (Sdo.fault?_of_mem_setNodeFilter _ node transport)
  split
  · apply Blames.innocent (List.forall_mem_nil _)
    intro cause same
    cases same
  next request _ =>
    apply Blames.andThen
    · exact blames_send request _
    · intro _ rest
      exact blames_awaitGuardReport node rounds rest

end Nmt

/-! ## Filters that cannot be set -/

/-- A transport that says that a filter is set even if it is not. -/
structure Indulgent (σ : Type) where
  inner : σ

namespace Indulgent

instance [Transport σ ε] : Transport (Indulgent σ) ε where
  send message transport := (Transport.send message transport.inner).map id mk
  receive transport := (Transport.receive transport.inner).map id mk
  setNodeFilter node transport := (.ok (), mk (Transport.setNodeFilter node transport.inner).2)
  clearNodeFilter transport := (Transport.clearNodeFilter transport.inner).map id mk
  horizon transport := Transport.horizon transport.inner
  horizon_receive_lt := by
    intro state rest message received
    obtain ⟨result, rfl⟩ := Prod.mk.inj received
    exact Transport.horizon_receive_lt state.inner _ message (Prod.ext result rfl)
  horizon_send_le message state := Transport.horizon_send_le message state.inner

def Over (s : σ) (t : Indulgent σ) : Prop :=
  t.inner = s

variable [Transport σ ε]

theorem over_sends : Transport.SendsAlike (Over (σ := σ)) := by
  rintro message s ⟨_⟩ rfl
  exact ⟨rfl, rfl⟩

theorem over_receives : Transport.ReceivesAlike (Over (σ := σ)) := by
  rintro s ⟨_⟩ rfl
  exact ⟨rfl, rfl⟩

theorem over_indifferent : Transport.Indifferent (Over (σ := σ)) where
  send := over_sends
  receive := over_receives
  setNodeFilter := by
    rintro node s ⟨_⟩ rfl
    rfl

theorem over_filters (remark : ε → Note ε) (node : UInt8) {s : σ} {t : Indulgent σ}
    (wraps : Over s t) :
    Run.Alike Over Entry.isTraffic (Exchange.setNodeFilter remark node s)
      (Exchange.setNodeFilter remark node t) :=
  Exchange.setNodeFilter_unseen over_indifferent wraps remark node

theorem over_transfers (node : UInt8) :
    Sdo.TransfersAlike (Over (σ := σ)) Entry.isTraffic (fun _ => True) node :=
  Sdo.transfersAlike_of_indifferent over_indifferent node

end Indulgent

/-- Whether a run does nothing more once sending or receiving has failed, and blames exactly
what has failed. -/
structure FailsFaithfully [Transport σ ε] (transport : σ) (run : Run σ ε ρ) (blamed : ε → Prop) :
    Prop where
  /-- Its journal tells of all that is done on the transport. -/
  recorded : Records run.journal transport run.transport
  fatal : ∀ before deed after cause, deedsIn run.journal = before ++ deed :: after →
    deed.fault? = some cause → after = [] ∧ blamed cause
  culprit : ∀ cause, blamed cause →
    ∃ before deed, deedsIn run.journal = before ++ [deed] ∧ deed.fault? = some cause

theorem failsFaithfully_of_blames [Transport σ ε] {transport : σ} {run : Run σ ε ρ}
    {blamed : ε → Prop} (recorded : run.Recorded transport)
    (blames : Blames (deedsIn run.journal) blamed) :
    FailsFaithfully transport run blamed where
  recorded := recorded
  fatal _ _ _ _ here fails := blames.fatal here fails
  culprit _ guilty := blames.culprit guilty

/-- Whatever a transport does, a call that sends or receives does nothing more on it once
that has failed, and fails with the cause of it.  It blames the transport for nothing else,
and whether the filter on a node could be set changes neither its answer nor what it sends
and receives. -/
theorem failsFaithfully [Transport σ ε] (transport : σ) :
    (∀ (config : Sdo.Config) (call : Sdo.Call),
      let run := call.run config transport
      let indulged := call.run config (Indulgent.mk transport)
      FailsFaithfully transport run (fun cause => run.answer.result = .error (.transport cause))
      ∧ indulged.answer = run.answer ∧ trafficIn indulged.journal = trafficIn run.journal)
    ∧ (∀ (node : UInt8) (rounds : Nat),
      let run := Nmt.pollNodeState node rounds transport
      let indulged := Nmt.pollNodeState node rounds (Indulgent.mk transport)
      FailsFaithfully transport run (fun cause => run.answer = .error (.transport cause))
      ∧ indulged.answer = run.answer ∧ trafficIn indulged.journal = trafficIn run.journal)
    ∧ ∀ (command : Nmt.Command) (node : UInt8),
      let run := Nmt.sendModuleControl command node transport
      FailsFaithfully transport run (fun cause => run.answer = .error (.transport cause)) := by
  have wraps : Indulgent.Over transport (Indulgent.mk transport) := rfl
  refine ⟨fun config call => ?_, fun node rounds => ?_, fun command node => ?_⟩
  · have alike := call.run_alike (Indulgent.over_transfers call.node) wraps config
      (conclusive_true _)
    exact ⟨failsFaithfully_of_blames (call.recorded config transport)
      (call.blames config transport), alike.answer.symm, alike.journal.symm⟩
  · have alike : Run.Alike Indulgent.Over Entry.isTraffic
        (Nmt.pollNodeState node rounds transport)
        (Nmt.pollNodeState node rounds (Indulgent.mk transport)) := by
      apply Nmt.pollNodeState_alike (fun _ _ same => same) Indulgent.over_sends _ _
        (conclusive_true _)
      · intro s t wraps _
        exact Nmt.awaitGuardReport_alike Indulgent.over_receives wraps node rounds
      · exact Indulgent.over_filters _ node wraps
    exact ⟨failsFaithfully_of_blames (Nmt.recorded_pollNodeState node rounds transport)
      (Nmt.blames_pollNodeState node rounds transport), alike.answer.symm, alike.journal.symm⟩
  · exact failsFaithfully_of_blames (Nmt.recorded_sendModuleControl command node transport)
      (Nmt.blames_sendModuleControl command node transport)

end CanOpen
