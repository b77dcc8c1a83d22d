import CanOpen.Proofs.Readiness
import CanOpen.Proofs.WellFormed

/-!
# Filtering by node

A link with a filter drops frames of other nodes before they are read, where a plain one
hands them on.  What is dropped would have been ignored, so a call over the first goes as
it goes over the second: fewer messages use up its budget, and fewer frames can turn out
to be unreadable.
-/

set_option autoImplicit false

namespace CanOpen

open Bus (NodeFilter)

/-! ## Failures that say something of the node -/

/-- Whether a failure comes neither of a used up budget nor of a frame that cannot be
read. -/
def Sdo.Failure.Telling : Sdo.Failure LinkFailure → Prop
  | .timeout | .transport (.codec _) => False
  | _ => True

@[inherit_doc Sdo.Failure.Telling]
def Nmt.Failure.Telling : Nmt.Failure LinkFailure → Prop
  | .timeout | .transport (.codec _) => False
  | _ => True

/-! ## What is dropped -/

theorem Message.isFrom_of_dropped {node : UInt8} {frame : Can.Reported} {message : Message}
    (dropped : NodeFilter.accepts (some node) frame.id = false)
    (read : Message.parse frame = .ok message) (function : FunctionCode) :
    message.isFrom function node = false := by
  obtain ⟨_, _, _, rfl⟩ := Message.parse_eq_ok_iff.1 read
  cases known : frame.id with
  | extended id => simp [Message.isFrom, Can.Identifier.addressing]
  | standard id =>
      have other : id.val % 128 ≠ node.toNat := by
        simpa [NodeFilter.accepts, Can.Identifier.cobId?, known] using dropped
      have different : UInt32.ofNat (id.val % 128) ≠ node.toUInt32 := by
        intro same
        have values := congrArg UInt32.toNat same
        rw [UInt32.toNat_ofNat', UInt8.toNat_toUInt32] at values
        omega
      simp [Message.isFrom, Can.Identifier.node, different]

theorem PlainLink.receive_cases (link : PlainLink) :
    (∃ reason rest, Transport.receive link = (.error (.bus reason), rest)
      ∧ link.bus.outlook.receive = (.error reason, rest.bus.outlook))
    ∨ ∃ frame rest, Transport.receive link = ((Message.parse frame).mapError .codec, rest)
      ∧ link.bus.outlook.receive = (.ok frame, rest.bus.outlook) := by
  have received := link.outlook_receive
  cases next : link.bus.outlook.receive with
  | mk arrival outlook =>
      cases arrival with
      | error reason =>
          rw [Bus.Outlook.receiveBy_of_failed next] at received
          obtain ⟨rest, failed, rfl⟩ := Bus.exists_rest_of_map received
          exact .inl ⟨reason, rest, failed, rfl⟩
      | ok frame =>
          rw [Bus.Outlook.receiveBy_of_accepted next rfl] at received
          obtain ⟨rest, arrived, rfl⟩ := Bus.exists_rest_of_map received
          exact .inr ⟨frame, rest, arrived, rfl⟩

namespace BlockingLink

/-- Whether a plain link and one with a filter have the same before them. -/
def Beside (plain : PlainLink) (link : BlockingLink) : Prop :=
  plain.bus.outlook = link.bus.outlook

/-- Whether a plain link has the same before it as one that filters by node. -/
structure Behind (node : UInt8) (plain : PlainLink) (link : BlockingLink) : Prop where
  outlook : plain.bus.outlook = link.bus.outlook
  filter : link.filter = some node

/-- Whether a plain link will have the same before it as one that filters by node once it
has received what that one drops. -/
structure Trails (node : UInt8) (plain : PlainLink) (link : BlockingLink) : Prop where
  ahead : plain.bus.outlook.receiveBy (some node) = link.bus.outlook.receiveBy (some node)
  filter : link.filter = some node

variable {node : UInt8} {plain rest : PlainLink} {link : BlockingLink}

theorem Behind.trails (behind : Behind node plain link) : Trails node plain link :=
  ⟨by rw [behind.outlook], behind.filter⟩

theorem behind_sends (node : UInt8) : Transport.SendsAlike (Behind node) := by
  intro message plain link behind
  have same : (plain.send message).map id (·.bus.outlook)
      = (link.send message).map id (·.bus.outlook) := by
    rw [PlainLink.outlook_send, outlook_send, behind.outlook]
  exact ⟨congrArg Prod.fst same, congrArg Prod.snd same, behind.filter⟩

theorem Trails.receive {result : Except LinkFailure Message} (trails : Trails node plain link)
    (first : plain.bus.outlook.receiveBy (some node) = (result, rest.bus.outlook)) :
    ∃ rest', Transport.receive link = (result, rest') ∧ Behind node rest rest' := by
  have received := link.outlook_receive
  rw [trails.filter, ← trails.ahead, first] at received
  obtain ⟨rest', received', same⟩ := Bus.exists_rest_of_map received
  have filter : link.receive.2.filter = some node := trails.filter
  rw [received'] at filter
  exact ⟨rest', received', same.symm, filter⟩

theorem Trails.of_dropped {frame : Can.Reported} (trails : Trails node plain link)
    (arrived : plain.bus.outlook.receive = (.ok frame, rest.bus.outlook))
    (dropped : NodeFilter.accepts (some node) frame.id = false) : Trails node rest link where
  ahead := by rw [← Bus.Outlook.receiveBy_of_dropped arrived dropped, trails.ahead]
  filter := trails.filter

/-- Receiving over a plain link while one with a filter is ahead of it: both fail alike, or
both receive the same message or fail to read it, or what only the plain one receives, if it
can be read, is not from the node. -/
theorem Trails.receive_cases (trails : Trails node plain link) :
    (∃ result rest rest', Transport.receive plain = (result, rest)
      ∧ Transport.receive link = (result, rest') ∧ Behind node rest rest')
    ∨ (∃ cause rest, Transport.receive plain = (.error (.codec cause), rest))
    ∨ ∃ message rest, Transport.receive plain = (.ok message, rest) ∧ Trails node rest link
      ∧ ∀ function, message.isFrom function node = false := by
  obtain ⟨reason, rest, failed, first⟩ | ⟨frame, rest, arrived, first⟩ := plain.receive_cases
  · obtain ⟨rest', failed', behind⟩ := trails.receive (Bus.Outlook.receiveBy_of_failed first)
    exact .inl ⟨_, rest, rest', failed, failed', behind⟩
  · cases accepted : NodeFilter.accepts (some node) frame.id with
    | true =>
        obtain ⟨rest', arrived', behind⟩ :=
          trails.receive (Bus.Outlook.receiveBy_of_accepted first accepted)
        exact .inl ⟨_, rest, rest', arrived, arrived', behind⟩
    | false =>
        right
        cases read : Message.parse frame with
        | error cause =>
            rw [read] at arrived
            exact .inl ⟨cause, rest, arrived⟩
        | ok message =>
            rw [read] at arrived
            exact .inr ⟨message, rest, arrived, trails.of_dropped first accepted,
              Message.isFrom_of_dropped accepted read⟩

theorem filtering_behind (remark : LinkFailure → Note LinkFailure) (node : UInt8)
    (beside : Beside plain link) :
    Run.Alike (Behind node) Entry.isOffer (Exchange.setNodeFilter remark node plain)
      (Exchange.setNodeFilter remark node link) := by
  have outlook := (plain.outlook_setNodeFilter node).trans beside
  have set : Transport.setNodeFilter node link
      = ((.ok () : Except LinkFailure Unit), { link with filter := some node }) := rfl
  rw [Exchange.setNodeFilter, Exchange.setNodeFilter, set]
  cases asked : Transport.setNodeFilter node plain with
  | mk result rest =>
      have rest' : rest.bus.outlook = link.bus.outlook := by
        rw [← outlook]
        exact congrArg (·.2.bus.outlook) asked.symm
      cases result with
      | ok done => exact ⟨rfl, rfl, rest', rfl⟩
      | error cause => exact ⟨rfl, rfl, rest', rfl⟩

/-- Transfers with the node wait alike, the one with a filter with at least the budget that
is left to the other. -/
theorem await_trailing {S α : Type} {transfer : Sdo.Transfer LinkFailure S α} {state : S}
    {left left' : Nat} (own : transfer.node = node) (trails : Trails node plain link)
    (budget : left ≤ left')
    (conclusive : Conclusive Sdo.Failure.Telling (transfer.await state left plain).answer.result) :
    Run.Alike (Behind node) Entry.isOffer (transfer.await state left plain)
      (transfer.await state left' link) := by
  -- Every message that the plain link receives lowers its horizon.
  induction bound : Transport.horizon plain using Nat.strongRecOn
    generalizing state plain link left left' with
  | ind bound inductionHypothesis =>
    subst bound
    obtain _ | left := left
    · rw [Sdo.Transfer.await] at conclusive
      exact (conclusive .timeout rfl).elim
    obtain ⟨left', rfl⟩ : ∃ left, left' = left + 1 := ⟨left' - 1, by omega⟩
    obtain ⟨result, rest, rest', received, received', behind⟩ | ⟨cause, rest, unread⟩
      | ⟨message, rest, received, trailing, foreign⟩ := trails.receive_cases
    · cases result with
      | error cause =>
          exact Sdo.Transfer.await_alike_of_error left left' received received' behind
      | ok message =>
          have lower := Transport.horizon_receive_lt plain rest message received
          apply Sdo.Transfer.await_alike_of_received (fun _ _ same => same) (behind_sends node)
            received received' behind conclusive
          · intro notes _ conclusive
            exact inductionHypothesis _ lower behind.trails (Nat.le_of_succ_le_succ budget)
              conclusive rfl
          · intro notes requests next _ behind conclusive
            have later := Sdo.horizon_sendAll_le requests rest
            exact inductionHypothesis _ (Nat.lt_of_le_of_lt later lower) behind.trails
              (Nat.le_refl _) conclusive rfl
    · rw [Sdo.Transfer.await_of_error left unread] at conclusive
      exact (conclusive (.transport (.codec cause)) rfl).elim
    · have lower := Transport.horizon_receive_lt plain rest message received
      have heard : transfer.hear state message = .ignore [] := by
        simp [Sdo.Transfer.hear, own, foreign]
      rw [Sdo.Transfer.await_of_ignore left received heard] at conclusive ⊢
      have later := inductionHypothesis _ lower trailing (Nat.le_of_succ_le budget) conclusive rfl
      exact later.after_left rfl

theorem transfers_beside (node : UInt8) :
    Sdo.TransfersAlike Beside Entry.isOffer Sdo.Failure.Telling node := by
  intro _ _ transfer plain link own beside conclusive
  apply Sdo.Transfer.run_alike (fun _ _ => Behind.outlook) (behind_sends node) _ beside _ conclusive
  · intro plain link behind conclusive
    have awaited := await_trailing own behind.trails (Nat.le_refl _) conclusive
    exact awaited.weaken fun _ _ => Behind.outlook
  · rw [own]
    exact filtering_behind _ node beside

theorem awaitGuardReport_trailing {rounds rounds' : Nat} (trails : Trails node plain link)
    (budget : rounds ≤ rounds')
    (conclusive : Conclusive Nmt.Failure.Telling (Nmt.awaitGuardReport node rounds plain).answer) :
    Run.Alike (Behind node) Entry.isOffer (Nmt.awaitGuardReport node rounds plain)
      (Nmt.awaitGuardReport node rounds' link) := by
  induction rounds generalizing rounds' plain link with
  | zero => exact (conclusive .timeout rfl).elim
  | succ rounds inductionHypothesis =>
    obtain ⟨rounds', rfl⟩ : ∃ rounds, rounds' = rounds + 1 := ⟨rounds' - 1, by omega⟩
    obtain ⟨result, rest, rest', received, received', behind⟩ | ⟨cause, rest, unread⟩
      | ⟨message, rest, received, trailing, foreign⟩ := trails.receive_cases
    · cases result with
      | error cause =>
          rw [Nmt.awaitGuardReport_of_error node rounds received,
            Nmt.awaitGuardReport_of_error node rounds' received']
          exact ⟨rfl, rfl, behind⟩
      | ok message =>
          cases reports : Nmt.guardReport? node message with
          | some report =>
              rw [Nmt.awaitGuardReport_of_some rounds received reports,
                Nmt.awaitGuardReport_of_some rounds' received' reports]
              exact ⟨rfl, rfl, behind⟩
          | none =>
              rw [Nmt.awaitGuardReport_of_none rounds received reports] at conclusive ⊢
              rw [Nmt.awaitGuardReport_of_none rounds' received' reports]
              have later := inductionHypothesis behind.trails (Nat.le_of_succ_le_succ budget)
                conclusive
              exact later.after rfl
    · rw [Nmt.awaitGuardReport_of_error node rounds unread] at conclusive
      exact (conclusive (.transport (.codec cause)) rfl).elim
    · have reports : Nmt.guardReport? node message = none := by
        simp [Nmt.guardReport?, foreign]
      rw [Nmt.awaitGuardReport_of_none rounds received reports] at conclusive ⊢
      have later := inductionHypothesis trailing (Nat.le_of_succ_le budget) conclusive
      exact later.after_left rfl

/-- Runs over a plain link, over one that filters and over one that filters and asks again
agree in all that shows on the bus. -/
theorem unseen_of_alike {ρ : Type} {plain : Run PlainLink LinkFailure ρ}
    {waiting : Run BlockingLink LinkFailure ρ} {polling : Run PollingLink LinkFailure ρ}
    (filtered : Run.Alike Beside Entry.isOffer plain waiting)
    (polled : Run.Alike PollingLink.KeepsUp (fun _ => true) polling waiting) :
    (waiting.answer = plain.answer
      ∧ waiting.transport.bus.outlook = plain.transport.bus.outlook
      ∧ offeredIn waiting.journal = offeredIn plain.journal)
    ∧ polling.answer = plain.answer
      ∧ polling.transport.bus.outlook = plain.transport.bus.outlook
      ∧ polling.journal = waiting.journal :=
  ⟨⟨filtered.answer.symm, filtered.transport.symm, filtered.offeredIn_eq.symm⟩,
    polled.answer.trans filtered.answer.symm,
    polled.transport.outlook.trans filtered.transport.symm, polled.journal_eq⟩

end BlockingLink

/-- A call that ends over a plain link with something telling ends in the same way over a
link that filters by node, whatever filter was set before: with the same result and buffer,
with the same frames sent and the same ones left to come.  So does a guarding exchange. -/
theorem filtering_unseen (bus : Bus) (filterFailure : Option String) (previous : NodeFilter) :
    (∀ (config : Sdo.Config) (call : Sdo.Call),
      let plain := call.run config (PlainLink.mk bus filterFailure)
      let waiting := call.run config (BlockingLink.mk bus previous)
      let polling := call.run config (PollingLink.mk bus previous)
      Conclusive Sdo.Failure.Telling plain.answer.result →
        (waiting.answer = plain.answer
          ∧ waiting.transport.bus.outlook = plain.transport.bus.outlook
          ∧ offeredIn waiting.journal = offeredIn plain.journal)
        ∧ polling.answer = plain.answer
          ∧ polling.transport.bus.outlook = plain.transport.bus.outlook
          ∧ polling.journal = waiting.journal)
    ∧ ∀ (node : UInt8) (rounds : Nat),
      let plain := Nmt.pollNodeState node rounds (PlainLink.mk bus filterFailure)
      let waiting := Nmt.pollNodeState node rounds (BlockingLink.mk bus previous)
      let polling := Nmt.pollNodeState node rounds (PollingLink.mk bus previous)
      Conclusive Nmt.Failure.Telling plain.answer →
        (waiting.answer = plain.answer
          ∧ waiting.transport.bus.outlook = plain.transport.bus.outlook
          ∧ offeredIn waiting.journal = offeredIn plain.journal)
        ∧ polling.answer = plain.answer
          ∧ polling.transport.bus.outlook = plain.transport.bus.outlook
          ∧ polling.journal = waiting.journal := by
  have beside : BlockingLink.Beside ⟨bus, filterFailure⟩ ⟨bus, previous⟩ := rfl
  have keepsUp : PollingLink.KeepsUp ⟨bus, previous⟩ ⟨bus, previous⟩ := ⟨rfl, rfl⟩
  constructor
  · intro config call plain waiting polling conclusive
    have filtered : Run.Alike BlockingLink.Beside Entry.isOffer plain waiting :=
      call.run_alike (BlockingLink.transfers_beside call.node) beside config conclusive
    have polled : Run.Alike PollingLink.KeepsUp (fun _ => true) polling waiting :=
      Sdo.Call.run_lockstep PollingLink.keepsUp_lockstep keepsUp config call
    exact BlockingLink.unseen_of_alike filtered polled
  · intro node rounds plain waiting polling conclusive
    have filtered : Run.Alike BlockingLink.Beside Entry.isOffer plain waiting := by
      apply Nmt.pollNodeState_alike (fun _ _ => BlockingLink.Behind.outlook)
        (BlockingLink.behind_sends node) _ (BlockingLink.filtering_behind _ node beside) conclusive
      intro plain link behind conclusive
      exact BlockingLink.awaitGuardReport_trailing behind.trails (Nat.le_refl _) conclusive
    have polled : Run.Alike PollingLink.KeepsUp (fun _ => true) polling waiting :=
      Nmt.pollNodeState_lockstep PollingLink.keepsUp_lockstep keepsUp node rounds
    exact BlockingLink.unseen_of_alike filtered polled

/-- With a budget of two, the plain link just receives the reply of node 5 behind a frame of
node 6; then it learns its state behind another one. -/
theorem filtering_unseen_foreign :
    let foreign : BusEvent := .frame ⟨.standard 0x586, false, 8, [0x4F, 0, 0x20, 1, 9, 0, 0, 0]⟩
    let reply : BusEvent := .frame ⟨.standard 0x585, false, 8, [0x4F, 0, 0x20, 1, 7, 0, 0, 0]⟩
    let state : BusEvent := .frame ⟨.standard 0x705, false, 1, [0x05]⟩
    let bus (inbox : List BusEvent) : Bus := ⟨inbox, ⟨[], [], 0⟩, [.notReady], #[], 0, 0, Can.Frame.maker⟩
    let reading : Bus := bus [foreign, .notReady, reply]
    let guarding : Bus := bus [foreign, state]
    let config : Sdo.Config := { expeditedRounds := 2 }
    ((Sdo.Call.expeditedUpload 5 0x2000 1).run config
        (BlockingLink.mk reading (some 9))).answer.result = .ok (.number 7)
      ∧ (Nmt.pollNodeState 5 2 (PollingLink.mk guarding (some 9))).answer
        = .ok ⟨.operational, false⟩ := by
  intro foreign reply state bus reading guarding config
  have read : ((Sdo.Call.expeditedUpload 5 0x2000 1).run config
      (PlainLink.mk reading none)).answer.result = .ok (.number 7) := by
    decide +kernel
  have guarded : (Nmt.pollNodeState 5 2 (PlainLink.mk guarding none)).answer
      = .ok ⟨.operational, false⟩ := by
    decide +kernel
  obtain ⟨waiting, _⟩ := (filtering_unseen reading none (some 9)).1 config
    (.expeditedUpload 5 0x2000 1) (by simp [Conclusive, read])
  obtain ⟨_, polling, _⟩ := (filtering_unseen guarding none (some 9)).2 5 2
    (by simp [Conclusive, guarded])
  exact ⟨waiting.1 ▸ read, polling ▸ guarded⟩

end CanOpen
