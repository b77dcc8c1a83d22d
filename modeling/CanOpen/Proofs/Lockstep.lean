import CanOpen.Nmt.Master
import CanOpen.Proofs.Traffic
import CanOpen.Sdo.Client

/-!
# Calls over two transports side by side

Two runs are alike if they have the same answer, agree in the entries of their journals
that are looked at, and leave related transports.  The rules here follow the way calls
are put together, one for each way.  From them it follows that transports which keep step
with each other, operation by operation, keep step in every call.

Where two runs are only alike as long as the first does not fail in certain ways, the
rules ask which failures of it count.
-/

set_option autoImplicit false

namespace CanOpen

variable {σ τ ε ρ : Type}

/-- Whether a result is a success or a failure that counts. -/
def Conclusive {φ α : Type} (counts : φ → Prop) (result : Except φ α) : Prop :=
  ∀ failure, result = .error failure → counts failure

theorem conclusive_true {φ α : Type} (result : Except φ α) : Conclusive (fun _ => True) result :=
  fun _ _ => trivial

theorem Conclusive.of_map {φ α β : Type} {counts : φ → Prop} {result : Except φ α} {view : α → β}
    (conclusive : Conclusive counts (result.map view)) : Conclusive counts result := by
  intro failure failed
  apply conclusive
  rw [failed]
  rfl

/-- Whether an entry hands something to the transport. -/
def Entry.isOffer (entry : Entry ε) : Bool :=
  entry.offered?.isSome

theorem offeredIn_filter_isOffer (journal : List (Entry ε)) :
    offeredIn (journal.filter Entry.isOffer) = offeredIn journal := by
  have offered (entry : Entry ε) :
      (if entry.isOffer then entry.offered? else none) = entry.offered? := by
    cases entry <;> rfl
  simp only [offeredIn, List.filterMap_filter, offered]

/-- Whether two operations have the same result and leave related states. -/
def Paired (R : σ → τ → Prop) (left : ρ × σ) (right : ρ × τ) : Prop :=
  left.1 = right.1 ∧ R left.2 right.2

namespace Run

section AndThen

variable {φ α β : Type} {run : Run σ ε (Except φ α)} {next : α → σ → Run σ ε (Except φ β)}

theorem andThen_of_error {failure : φ} (failed : run.answer = .error failure) :
    run.andThen next = ⟨.error failure, run.transport, run.journal⟩ := by
  simp only [andThen, failed]

theorem andThen_of_ok {value : α} (succeeded : run.answer = .ok value) :
    run.andThen next = (next value run.transport).after run.journal := by
  simp only [andThen, succeeded]

end AndThen

/-- Whether two runs have the same answer and the same entries of the kind that is kept,
and leave related transports. -/
structure Alike (R : σ → τ → Prop) (kept : Entry ε → Bool) (left : Run σ ε ρ)
    (right : Run τ ε ρ) : Prop where
  answer : left.answer = right.answer
  journal : left.journal.filter kept = right.journal.filter kept
  transport : R left.transport right.transport

namespace Alike

variable {R R' : σ → τ → Prop} {kept : Entry ε → Bool} {left : Run σ ε ρ} {right : Run τ ε ρ}

theorem weaken (alike : Alike R kept left right) (weaker : ∀ s t, R s t → R' s t) :
    Alike R' kept left right :=
  ⟨alike.answer, alike.journal, weaker _ _ alike.transport⟩

theorem after (alike : Alike R kept left right) {before before' : List (Entry ε)}
    (same : before.filter kept = before'.filter kept) :
    Alike R kept (left.after before) (right.after before') where
  answer := alike.answer
  journal := by simp only [Run.after, List.filter_append, same, alike.journal]
  transport := alike.transport

theorem after_left (alike : Alike R kept left right) {before : List (Entry ε)}
    (unseen : before.filter kept = []) : Alike R kept (left.after before) right where
  answer := alike.answer
  journal := by rw [Run.after, List.filter_append, unseen, List.nil_append, alike.journal]
  transport := alike.transport

theorem after_right (alike : Alike R kept left right) {before : List (Entry ε)}
    (unseen : before.filter kept = []) : Alike R kept left (right.after before) where
  answer := alike.answer
  journal := by rw [Run.after, List.filter_append, unseen, List.nil_append, alike.journal]
  transport := alike.transport

theorem map {ρ' : Type} (alike : Alike R kept left right) (view : ρ → ρ') :
    Alike R kept (left.map view) (right.map view) where
  answer := congrArg view alike.answer
  journal := alike.journal
  transport := alike.transport

theorem andThen {φ α β : Type} {counts : φ → Prop} {left : Run σ ε (Except φ α)}
    {right : Run τ ε (Except φ α)} {next : α → σ → Run σ ε (Except φ β)}
    {next' : α → τ → Run τ ε (Except φ β)}
    (conclusive : Conclusive counts (left.andThen next).answer)
    (first : Conclusive counts left.answer → Alike R kept left right)
    (later : ∀ value s t, R s t → Conclusive counts (next value s).answer →
      Alike R kept (next value s) (next' value t)) :
    Alike R kept (left.andThen next) (right.andThen next') := by
  cases answer : left.answer with
  | error failure =>
      rw [andThen_of_error answer] at conclusive ⊢
      have counted : counts failure := conclusive failure rfl
      have alike := first (by simp [Conclusive, answer, counted])
      rw [andThen_of_error (alike.answer ▸ answer)]
      exact ⟨rfl, alike.journal, alike.transport⟩
  | ok value =>
      rw [andThen_of_ok answer] at conclusive ⊢
      have alike := first (by simp [Conclusive, answer])
      rw [andThen_of_ok (alike.answer ▸ answer)]
      exact (later value _ _ alike.transport conclusive).after alike.journal

theorem journal_eq (alike : Alike R (fun _ => true) left right) :
    left.journal = right.journal := by
  have all (journal : List (Entry ε)) : journal.filter (fun _ => true) = journal :=
    List.filter_eq_self.2 fun _ _ => rfl
  rw [← all left.journal, alike.journal, all]

theorem offeredIn_eq (alike : Alike R Entry.isOffer left right) :
    offeredIn left.journal = offeredIn right.journal := by
  rw [← offeredIn_filter_isOffer, alike.journal, offeredIn_filter_isOffer]

end Alike

end Run

variable [Transport σ ε] [Transport τ ε] {R : σ → τ → Prop} {kept : Entry ε → Bool}

namespace Transport

def SendsAlike (R : σ → τ → Prop) : Prop :=
  ∀ (message : Message) (s : σ) (t : τ), R s t → Paired R (send message s) (send message t)

def ReceivesAlike (R : σ → τ → Prop) : Prop :=
  ∀ s t, R s t → Paired R (receive s) (receive t)

/-- Whether related transports answer alike whatever they are asked, and stay related. -/
structure Lockstep (R : σ → τ → Prop) : Prop where
  send : SendsAlike R
  receive : ∀ s t, R s t → Paired R (Transport.receive s) (Transport.receive t)
  setNodeFilter : ∀ node s t, R s t →
    Paired R (Transport.setNodeFilter node s) (Transport.setNodeFilter node t)
  clearNodeFilter : ∀ s t, R s t →
    Paired R (Transport.clearNodeFilter s) (Transport.clearNodeFilter t)

/-- Whether related transports send and receive alike and stay related whatever they are
asked, so that nothing depends on which filters can be set. -/
structure Indifferent (R : σ → τ → Prop) : Prop where
  send : SendsAlike R
  receive : ReceivesAlike R
  setNodeFilter : ∀ node s t, R s t →
    R (Transport.setNodeFilter node s).2 (Transport.setNodeFilter node t).2

end Transport

open Transport

/-! ## Exchanges -/

theorem Exchange.send_alike (sends : SendsAlike R) {s : σ} {t : τ} (related : R s t)
    (message : Message) : Run.Alike R kept (Exchange.send message s) (Exchange.send message t) := by
  obtain ⟨same, rest⟩ := sends message s t related
  unfold Exchange.send
  cases left : Transport.send message s with
  | mk result s' =>
      cases right : Transport.send message t with
      | mk result' t' =>
          rw [left, right] at same rest
          cases (same : result = result')
          cases result <;> exact ⟨rfl, rfl, rest⟩

theorem Exchange.setNodeFilter_alike {node : UInt8} {s : σ} {t : τ}
    (paired : Paired R (Transport.setNodeFilter node s) (Transport.setNodeFilter node t))
    (remark : ε → Note ε) :
    Run.Alike R kept (Exchange.setNodeFilter remark node s)
      (Exchange.setNodeFilter remark node t) := by
  obtain ⟨same, rest⟩ := paired
  unfold Exchange.setNodeFilter
  cases left : Transport.setNodeFilter node s with
  | mk result s' =>
      cases right : Transport.setNodeFilter node t with
      | mk result' t' =>
          rw [left, right] at same rest
          cases (same : result = result')
          cases result <;> exact ⟨rfl, rfl, rest⟩

theorem Exchange.setNodeFilter_unseen (indifferent : Indifferent R) {s : σ} {t : τ}
    (related : R s t) (remark : ε → Note ε) (node : UInt8) :
    Run.Alike R Entry.isTraffic (Exchange.setNodeFilter remark node s)
      (Exchange.setNodeFilter remark node t) := by
  have rest := indifferent.setNodeFilter node s t related
  unfold Exchange.setNodeFilter
  cases left : Transport.setNodeFilter node s with
  | mk result s' =>
      cases right : Transport.setNodeFilter node t with
      | mk result' t' =>
          rw [left, right] at rest
          cases result <;> cases result' <;> exact ⟨rfl, rfl, rest⟩

namespace Sdo

theorem sendAll_alike (sends : SendsAlike R) {s : σ} {t : τ} (related : R s t)
    (requests : List (Except CodecError Message)) :
    Run.Alike R kept (sendAll requests s) (sendAll requests t) := by
  induction requests generalizing s t with
  | nil => exact ⟨rfl, rfl, related⟩
  | cons request others inductionHypothesis =>
      cases request with
      | error cause => exact ⟨rfl, rfl, related⟩
      | ok message =>
          rw [sendAll, sendAll]
          apply Run.Alike.andThen (conclusive_true _)
          · intro _
            exact (Exchange.send_alike sends related message).map _
          · intro _ _ _ related _
            exact inductionHypothesis related

/-! ## Transfers -/

namespace Transfer

variable {S α : Type} {transfer : Transfer ε S α} {state : S}

/-- Transfers that receive the same message go on alike if they do so after it.  `R'` relates
the transports up to then. -/
theorem await_alike_of_received {R' : σ → τ → Prop} (weaker : ∀ s t, R' s t → R s t)
    (sends : SendsAlike R') {counts : Failure ε → Prop} {s s' : σ} {t t' : τ} {message : Message}
    {left left' : Nat} (received : Transport.receive s = (.ok message, s'))
    (received' : Transport.receive t = (.ok message, t')) (related : R' s' t')
    (conclusive : Conclusive counts (transfer.await state (left + 1) s).answer.result)
    (ignored : ∀ notes, transfer.hear state message = .ignore notes →
      Conclusive counts (transfer.await state left s').answer.result →
      Run.Alike R kept (transfer.await state left s') (transfer.await state left' t'))
    (proceeded : ∀ notes requests next,
      transfer.hear state message = .proceed notes requests next →
      R' (sendAll requests s').transport (sendAll requests t').transport →
      Conclusive counts
        (transfer.await next transfer.budget (sendAll requests s').transport).answer.result →
      Run.Alike R kept (transfer.await next transfer.budget (sendAll requests s').transport)
        (transfer.await next transfer.budget (sendAll requests t').transport)) :
    Run.Alike R kept (transfer.await state (left + 1) s)
      (transfer.await state (left' + 1) t) := by
  have sending (requests : List (Except CodecError Message)) :
      Run.Alike R' kept (sendAll requests s') (sendAll requests t') :=
    sendAll_alike sends related requests
  cases heard : transfer.hear state message with
  | ignore notes =>
      rw [await_of_ignore left received heard] at conclusive ⊢
      rw [await_of_ignore left' received' heard]
      exact (ignored notes heard conclusive).after rfl
  | proceed notes requests next =>
      have same := (sending requests).answer
      cases answer : (sendAll requests s').answer with
      | error failure =>
          rw [await_of_interrupted left received heard answer,
            await_of_interrupted left' received' heard (same ▸ answer)]
          exact (((sending requests).map _).after rfl).weaken weaker
      | ok value =>
          rw [await_of_proceed left received heard answer] at conclusive ⊢
          rw [await_of_proceed left' received' heard (same ▸ answer)]
          have later := proceeded notes requests next heard (sending requests).transport conclusive
          exact (later.after (sending requests).journal).after rfl
  | finish notes requests final result =>
      rw [await_of_finish left received heard, await_of_finish left' received' heard]
      exact (((sending requests).map _).after rfl).weaken weaker

theorem await_alike_of_error {s s' : σ} {t t' : τ} {cause : ε} (left left' : Nat)
    (failed : Transport.receive s = (.error cause, s'))
    (failed' : Transport.receive t = (.error cause, t')) (related : R s' t') :
    Run.Alike R kept (transfer.await state (left + 1) s)
      (transfer.await state (left' + 1) t) := by
  rw [await_of_error left failed, await_of_error left' failed']
  exact ⟨rfl, rfl, related⟩

/-- Waiting asks nothing of the filters. -/
theorem await_alike (sends : SendsAlike R) (receives : ReceivesAlike R) {s : σ} {t : τ}
    (related : R s t) (left : Nat) :
    Run.Alike R kept (transfer.await state left s) (transfer.await state left t) := by
  -- Every message received lowers the horizon, so the induction is on the horizon.
  induction bound : Transport.horizon s using Nat.strongRecOn generalizing state s t left with
  | ind bound inductionHypothesis =>
    subst bound
    cases left with
    | zero =>
        rw [await, await]
        exact ⟨rfl, rfl, related⟩
    | succ left =>
        obtain ⟨same, rest⟩ := receives s t related
        cases received : Transport.receive s with
        | mk result s' =>
            cases received' : Transport.receive t with
            | mk result' t' =>
                rw [received, received'] at same rest
                cases (same : result = result')
                cases result with
                | error cause => exact await_alike_of_error left left received received' rest
                | ok message =>
                    have lower := Transport.horizon_receive_lt s s' message received
                    apply await_alike_of_received (fun _ _ same => same) sends received
                      received' rest (conclusive_true _)
                    · intro notes _ _
                      exact inductionHypothesis _ lower rest left rfl
                    · intro notes requests next _ after _
                      have later := horizon_sendAll_le requests s'
                      exact inductionHypothesis _ (Nat.lt_of_le_of_lt later lower) after _ rfl

/-- Whether a transfer waits alike after its request over transports that are related by
`R'`, as long as its failures count, and leaves transports that are related by `R`. -/
def AwaitsAlike (transfer : Transfer ε S α) (R' R : σ → τ → Prop) (kept : Entry ε → Bool)
    (counts : Failure ε → Prop) : Prop :=
  ∀ s t, R' s t →
    Conclusive counts (transfer.await transfer.initial transfer.budget s).answer.result →
    Run.Alike R kept (transfer.await transfer.initial transfer.budget s)
      (transfer.await transfer.initial transfer.budget t)

section Behind

variable {R' : σ → τ → Prop} (weaker : ∀ s t, R' s t → R s t) (sends : SendsAlike R')
  {counts : Failure ε → Prop} (awaits : transfer.AwaitsAlike R' R kept counts) {s : σ} {t : τ}
include weaker sends awaits

theorem start_alike (related : R' s t) (request : Message)
    (conclusive : Conclusive counts (transfer.start request s).answer.result) :
    Run.Alike R kept (transfer.start request s) (transfer.start request t) := by
  have sending : Run.Alike R' kept (Exchange.send request s) (Exchange.send request t) :=
    Exchange.send_alike sends related request
  simp only [start] at conclusive ⊢
  rw [← sending.answer]
  cases answer : (Exchange.send request s).answer with
  | error cause => exact ⟨rfl, sending.journal, weaker _ _ sending.transport⟩
  | ok value =>
      rw [answer] at conclusive
      exact (awaits _ _ sending.transport conclusive).after sending.journal

/-- Transfers that wait alike once the filter is set run alike. -/
theorem run_alike (related : R s t)
    (filtering : Run.Alike R' kept
      (Exchange.setNodeFilter (.transferUnfiltered transfer.node) transfer.node s)
      (Exchange.setNodeFilter (.transferUnfiltered transfer.node) transfer.node t))
    (conclusive : Conclusive counts (transfer.run s).answer.result) :
    Run.Alike R kept (transfer.run s) (transfer.run t) := by
  simp only [run] at conclusive ⊢
  cases built : transfer.request with
  | error cause =>
      by_cases anyway : transfer.filtersAnyway = true
      · simp only [anyway, if_true]
        exact ⟨rfl, filtering.journal, weaker _ _ filtering.transport⟩
      · simp only [anyway, Bool.false_eq_true, if_false]
        exact ⟨rfl, rfl, related⟩
  | ok request =>
      rw [built] at conclusive
      have starting := start_alike weaker sends awaits filtering.transport request conclusive
      exact starting.after filtering.journal

end Behind

theorem run_lockstep (lockstep : Lockstep R) {s : σ} {t : τ} (related : R s t) :
    Run.Alike R kept (transfer.run s) (transfer.run t) := by
  apply run_alike (fun _ _ same => same) lockstep.send _ related _ (conclusive_true _)
  · intro s t related _
    exact await_alike lockstep.send lockstep.receive related _
  · exact Exchange.setNodeFilter_alike (lockstep.setNodeFilter _ _ _ related) _

end Transfer

/-! ## Calls -/

/-- Whether all transfers with a node run alike over related transports, as long as their
failures count. -/
def TransfersAlike (R : σ → τ → Prop) (kept : Entry ε → Bool) (counts : Failure ε → Prop)
    (node : UInt8) : Prop :=
  ∀ {S α : Type} (transfer : Transfer ε S α) (s : σ) (t : τ), transfer.node = node → R s t →
    Conclusive counts (transfer.run s).answer.result →
    Run.Alike R kept (transfer.run s) (transfer.run t)

theorem transfersAlike_of_lockstep (lockstep : Lockstep R) (node : UInt8) :
    TransfersAlike R kept (fun _ => True) node := by
  intro _ _ transfer s t _ related _
  exact transfer.run_lockstep lockstep related

theorem transfersAlike_of_indifferent (indifferent : Indifferent R) (node : UInt8) :
    TransfersAlike R Entry.isTraffic (fun _ => True) node := by
  intro _ _ transfer s t _ related _
  apply Transfer.run_alike (fun _ _ same => same) indifferent.send _ related _ (conclusive_true _)
  · intro s t related _
    exact Transfer.await_alike indifferent.send indifferent.receive related _
  · exact Exchange.setNodeFilter_unseen indifferent related _ _

theorem readIdentity_alike {counts : Failure ε → Prop} {node : UInt8}
    (transfers : TransfersAlike R kept counts node) {s : σ} {t : τ} (related : R s t)
    (budget : Nat) (conclusive : Conclusive counts (readIdentity budget node s).answer) :
    Run.Alike R kept (readIdentity budget node s) (readIdentity budget node t) := by
  unfold readIdentity at conclusive ⊢
  apply Run.Alike.andThen conclusive
  · intro conclusive
    exact (transfers _ s t rfl related conclusive).map _
  · intro vendorId s t related conclusive
    apply Run.Alike.andThen conclusive
    · intro conclusive
      exact (transfers _ s t rfl related conclusive).map _
    · intro productCode s t related conclusive
      exact ((transfers _ s t rfl related conclusive.of_map).map _).map _

def Call.node : Call → UInt8
  | .expeditedUpload node _ _ | .expeditedDownload node _ _ _ | .segmentedUpload node _ _ _
  | .segmentedDownload node _ _ _ | .blockUpload node _ _ _ | .blockDownload node _ _ _
  | .identity node => node

theorem Call.run_alike {counts : Failure ε → Prop} {call : Call}
    (transfers : TransfersAlike R kept counts call.node) {s : σ} {t : τ} (related : R s t)
    (config : Config) (conclusive : Conclusive counts (call.run config s).answer.result) :
    Run.Alike R kept (call.run config s) (call.run config t) := by
  simp only [run] at conclusive ⊢
  cases call with
  | blockUpload node index subindex contents => exact ⟨rfl, rfl, related⟩
  | identity node => exact (readIdentity_alike transfers related _ conclusive.of_map).map _
  | _ => exact (transfers _ s t rfl related conclusive.of_map).map _

theorem Call.run_lockstep (lockstep : Lockstep R) {s : σ} {t : τ} (related : R s t)
    (config : Config) (call : Call) :
    Run.Alike R kept (call.run config s) (call.run config t) :=
  call.run_alike (transfersAlike_of_lockstep lockstep call.node) related config
    (conclusive_true _)

end Sdo

/-! ## Network masters -/

namespace Nmt

theorem sendModuleControl_alike (sends : SendsAlike R) {s : σ} {t : τ} (related : R s t)
    (command : Command) (node : UInt8) :
    Run.Alike R kept (sendModuleControl command node s) (sendModuleControl command node t) := by
  unfold sendModuleControl
  cases Request.moduleControl command node with
  | error cause => exact ⟨rfl, rfl, related⟩
  | ok message => exact ((Exchange.send_alike sends related message).map _).after rfl

theorem awaitGuardReport_of_error {s rest : σ} {cause : ε} (node : UInt8) (rounds : Nat)
    (failed : Transport.receive s = (.error cause, rest)) :
    awaitGuardReport node (rounds + 1) s
      = ⟨.error (.transport cause), rest, [.unreceived cause]⟩ := by
  rw [awaitGuardReport, failed]

theorem awaitGuardReport_of_some {s rest : σ} {message : Message} {node : UInt8}
    {report : GuardReport} (rounds : Nat) (received : Transport.receive s = (.ok message, rest))
    (reports : guardReport? node message = some report) :
    awaitGuardReport node (rounds + 1) s = ⟨.ok report, rest, [.received message]⟩ := by
  rw [awaitGuardReport, received]
  simp only [reports]

theorem awaitGuardReport_of_none {s rest : σ} {message : Message} {node : UInt8} (rounds : Nat)
    (received : Transport.receive s = (.ok message, rest))
    (reports : guardReport? node message = none) :
    awaitGuardReport node (rounds + 1) s
      = (awaitGuardReport node rounds rest).after [.received message] := by
  rw [awaitGuardReport, received]
  simp only [reports]

theorem awaitGuardReport_alike (receives : ReceivesAlike R) {s : σ} {t : τ} (related : R s t)
    (node : UInt8) (rounds : Nat) :
    Run.Alike R kept (awaitGuardReport node rounds s) (awaitGuardReport node rounds t) := by
  induction rounds generalizing s t with
  | zero => exact ⟨rfl, rfl, related⟩
  | succ rounds inductionHypothesis =>
      obtain ⟨same, rest⟩ := receives s t related
      cases received : Transport.receive s with
      | mk result s' =>
          cases received' : Transport.receive t with
          | mk result' t' =>
              rw [received, received'] at same rest
              cases (same : result = result')
              cases result with
              | error cause =>
                  rw [awaitGuardReport_of_error node rounds received,
                    awaitGuardReport_of_error node rounds received']
                  exact ⟨rfl, rfl, rest⟩
              | ok message =>
                  cases reports : guardReport? node message with
                  | some report =>
                      rw [awaitGuardReport_of_some rounds received reports,
                        awaitGuardReport_of_some rounds received' reports]
                      exact ⟨rfl, rfl, rest⟩
                  | none =>
                      rw [awaitGuardReport_of_none rounds received reports,
                        awaitGuardReport_of_none rounds received' reports]
                      exact (inductionHypothesis rest).after rfl

/-- Exchanges that wait for a report alike behind a filter are alike.  `R'` relates the
transports once the filter is set. -/
theorem pollNodeState_alike {R' : σ → τ → Prop} (weaker : ∀ s t, R' s t → R s t)
    (sends : SendsAlike R') {counts : Failure ε → Prop} {node : UInt8} {rounds : Nat}
    (awaits : ∀ s t, R' s t → Conclusive counts (awaitGuardReport node rounds s).answer →
      Run.Alike R' kept (awaitGuardReport node rounds s) (awaitGuardReport node rounds t))
    {s : σ} {t : τ}
    (filtering : Run.Alike R' kept (Exchange.setNodeFilter (.guardingUnfiltered node) node s)
      (Exchange.setNodeFilter (.guardingUnfiltered node) node t))
    (conclusive : Conclusive counts (pollNodeState node rounds s).answer) :
    Run.Alike R kept (pollNodeState node rounds s) (pollNodeState node rounds t) := by
  apply Run.Alike.weaken _ weaker
  unfold pollNodeState at conclusive ⊢
  cases built : Request.nodeGuard node with
  | error cause =>
      apply Run.Alike.after _ filtering.journal
      exact ⟨rfl, rfl, filtering.transport⟩
  | ok request =>
      rw [built] at conclusive
      apply Run.Alike.after _ filtering.journal
      apply Run.Alike.andThen conclusive
      · intro _
        exact (Exchange.send_alike sends filtering.transport request).map _
      · intro _ s t related conclusive
        exact awaits s t related conclusive

theorem pollNodeState_lockstep (lockstep : Lockstep R) {s : σ} {t : τ} (related : R s t)
    (node : UInt8) (rounds : Nat) :
    Run.Alike R kept (pollNodeState node rounds s) (pollNodeState node rounds t) := by
  apply pollNodeState_alike (fun _ _ => id) lockstep.send _ _ (conclusive_true _)
  · intro s t related _
    exact awaitGuardReport_alike lockstep.receive related node rounds
  · exact Exchange.setNodeFilter_alike (lockstep.setNodeFilter _ _ _ related) _

end Nmt

end CanOpen
