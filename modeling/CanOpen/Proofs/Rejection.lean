import CanOpen.Proofs.Readiness
import CanOpen.Proofs.Requestability

/-!
# Rejected calls and the filter they leave

A call without a request sends and receives nothing, but some calls set the filter on their
node before they know that there is no request.  A link that filters is then left with another
filter than before.  Calls that follow go the same way all the same, for they set a filter of
their own; a message that is received without a call may be another one.
-/

set_option autoImplicit false

namespace CanOpen

variable {σ ε : Type}

/-! ## Rejected operations -/

namespace Operation

/-- Whether an operation is a call for which there is no request. -/
def Rejected : Operation → Prop
  | transfer _ call => ¬ call.Requestable
  | guarding node _ => 127 < node.toNat
  | setNodeFilter _ | clearNodeFilter | send _ | receive | moduleControl _ _ => False

def filtersFirst : Operation → Bool
  | transfer _ call => call.filtersFirst
  | guarding _ _ => true
  | setNodeFilter _ | clearNodeFilter | send _ | receive | moduleControl _ _ => false

def node : Operation → UInt8
  | transfer _ call => call.node
  | guarding node _ | setNodeFilter node | moduleControl _ node => node
  | clearNodeFilter | send _ | receive => 0

end Operation

def Outcome.Malformed : Outcome ε → Prop
  | transferred answer => ∃ cause, answer.result = .error (.malformed cause)
  | commanded result => ∃ cause, result = .error (.malformed cause)
  | guarded result => ∃ cause, result = .error (.malformed cause)
  | done _ | message _ => False

/-- A rejected operation says so, sends and receives nothing and does no more to a transport
than to set the filter. -/
theorem Operation.perform_rejected [Transport σ ε] {operation : Operation}
    (rejected : operation.Rejected) (transport : σ) :
    (operation.perform transport).answer.Malformed
    ∧ trafficIn (operation.perform transport).journal = []
    ∧ (operation.perform transport).transport
      = if operation.filtersFirst then (Transport.setNodeFilter operation.node transport).2
        else transport := by
  cases operation with
  | transfer config call =>
      obtain ⟨cause, buffer, rejects⟩ :=
        Sdo.Call.run_of_not_requestable rejected config transport
      simp only [perform, rejects, Run.map, filtersFirst, node, Sdo.answer_rejecting,
        Sdo.trafficIn_rejecting, Sdo.transport_rejecting, call.conduct_node]
      exact ⟨⟨cause, rfl⟩, trivial, rfl⟩
  | guarding node rounds =>
      obtain ⟨_, cause, refused⟩ | ⟨within, _⟩ := Nmt.Request.nodeGuard_cases node
      · simp only [perform, Nmt.pollNodeState_of_error refused, Run.map,
          Exchange.trafficIn_setNodeFilter, Exchange.transport_setNodeFilter]
        exact ⟨⟨cause, rfl⟩, trivial, rfl⟩
      · exact absurd rejected (Nat.not_lt.2 within)
  | setNodeFilter node => cases rejected
  | clearNodeFilter => cases rejected
  | send message => cases rejected
  | receive => cases rejected
  | moduleControl command node => cases rejected

/-! ## Links that filter -/

/-- Whether a transport is a bus behind a filter that only setting and clearing it changes,
and that sending does not pass. -/
structure IsFiltering [Transport σ LinkFailure] (bus : σ → Bus)
    (filter : σ → Bus.NodeFilter) : Prop where
  ext : ∀ s t : σ, bus s = bus t → filter s = filter t → s = t
  send : ∀ (message : Message) (s t : σ), bus s = bus t →
    (Transport.send message s).1 = (Transport.send message t).1
    ∧ bus (Transport.send message s).2 = bus (Transport.send message t).2
  setNodeFilter : ∀ (node : UInt8) (s : σ), (Transport.setNodeFilter node s).1 = .ok ()
    ∧ bus (Transport.setNodeFilter node s).2 = bus s
    ∧ filter (Transport.setNodeFilter node s).2 = some node
  clearNodeFilter : ∀ s : σ, (Transport.clearNodeFilter s).1 = .ok ()
    ∧ bus (Transport.clearNodeFilter s).2 = bus s
    ∧ filter (Transport.clearNodeFilter s).2 = none

theorem BlockingLink.isFiltering : IsFiltering BlockingLink.bus BlockingLink.filter where
  ext := by
    rintro ⟨_, _⟩ ⟨_, _⟩ rfl rfl
    rfl
  send := by
    rintro message ⟨_, _⟩ ⟨_, _⟩ rfl
    exact ⟨rfl, rfl⟩
  setNodeFilter _ _ := ⟨rfl, rfl, rfl⟩
  clearNodeFilter _ := ⟨rfl, rfl, rfl⟩

theorem PollingLink.isFiltering : IsFiltering PollingLink.bus PollingLink.filter where
  ext := by
    rintro ⟨_, _⟩ ⟨_, _⟩ rfl rfl
    rfl
  send := by
    rintro message ⟨_, _⟩ ⟨_, _⟩ rfl
    exact ⟨rfl, rfl⟩
  setNodeFilter _ _ := ⟨rfl, rfl, rfl⟩
  clearNodeFilter _ := ⟨rfl, rfl, rfl⟩

namespace IsFiltering

variable [Transport σ LinkFailure] {bus : σ → Bus} {filter : σ → Bus.NodeFilter}
  {kept : Entry LinkFailure → Bool}

theorem setNodeFilter_alike (filtering : IsFiltering bus filter) {s t : σ}
    (same : bus s = bus t) (remark : LinkFailure → Note LinkFailure) (node : UInt8) :
    Run.Alike Eq kept (Exchange.setNodeFilter remark node s)
      (Exchange.setNodeFilter remark node t) := by
  obtain ⟨result, sameBus, sameFilter⟩ := filtering.setNodeFilter node s
  obtain ⟨result', sameBus', sameFilter'⟩ := filtering.setNodeFilter node t
  refine Exchange.setNodeFilter_alike ⟨result.trans result'.symm, ?_⟩ remark
  apply filtering.ext
  · rw [sameBus, sameBus', same]
  · rw [sameFilter, sameFilter']

theorem sends_eq : Transport.SendsAlike (Eq : σ → σ → Prop) := by
  rintro message s _ rfl
  exact ⟨rfl, rfl⟩

theorem transfers (filtering : IsFiltering bus filter) (node : UInt8) :
    Sdo.TransfersAlike (fun s t : σ => bus s = bus t) kept (fun _ => True) node := by
  intro _ _ transfer s t _ same _
  apply Sdo.Transfer.run_alike (fun _ _ => congrArg bus) sends_eq _ same
    (filtering.setNodeFilter_alike same _ _) (conclusive_true _)
  rintro s _ rfl _
  exact ⟨rfl, rfl, rfl⟩

theorem perform_alike (filtering : IsFiltering bus filter) {s t : σ} (same : bus s = bus t)
    {operation : Operation} (other : operation ≠ .receive) :
    Run.Alike (fun s t : σ => bus s = bus t) kept (operation.perform s)
      (operation.perform t) := by
  have sends : Transport.SendsAlike (fun s t : σ => bus s = bus t) := by
    intro message s t same
    exact filtering.send message s t same
  cases operation with
  | setNodeFilter node =>
      obtain ⟨result, sameBus, _⟩ := filtering.setNodeFilter node s
      obtain ⟨result', sameBus', _⟩ := filtering.setNodeFilter node t
      refine ⟨congrArg Outcome.done (result.trans result'.symm), rfl, ?_⟩
      exact sameBus.trans (same.trans sameBus'.symm)
  | clearNodeFilter =>
      obtain ⟨result, sameBus, _⟩ := filtering.clearNodeFilter s
      obtain ⟨result', sameBus', _⟩ := filtering.clearNodeFilter t
      refine ⟨congrArg Outcome.done (result.trans result'.symm), rfl, ?_⟩
      exact sameBus.trans (same.trans sameBus'.symm)
  | send message =>
      obtain ⟨result, sameBus⟩ := filtering.send message s t same
      exact ⟨congrArg Outcome.done result, rfl, sameBus⟩
  | receive => exact absurd rfl other
  | transfer config call =>
      exact (call.run_alike (filtering.transfers call.node) same config (conclusive_true _)).map _
  | moduleControl command node =>
      exact (Nmt.sendModuleControl_alike sends same command node).map _
  | guarding node rounds =>
      apply Run.Alike.map
      apply Nmt.pollNodeState_alike (fun _ _ => congrArg bus) sends_eq _
        (filtering.setNodeFilter_alike same _ node) (conclusive_true _)
      rintro s _ rfl _
      exact ⟨rfl, rfl, rfl⟩

theorem session_alike (filtering : IsFiltering bus filter) {s t : σ} (same : bus s = bus t)
    {operations : List Operation} (others : .receive ∉ operations) :
    List.Forall₂ (Run.Alike (fun s t : σ => bus s = bus t) kept) (session operations s)
      (session operations t) := by
  induction operations generalizing s t with
  | nil => exact .nil
  | cons operation later inductionHypothesis =>
      obtain ⟨here, behind⟩ := not_or.1 (mt List.mem_cons.2 others)
      have performed : Run.Alike (fun s t : σ => bus s = bus t) kept (operation.perform s)
          (operation.perform t) :=
        filtering.perform_alike same fun isReceive => here isReceive.symm
      exact .cons performed (inductionHypothesis performed.transport behind)

end IsFiltering

/-- Whether a rejected operation leaves a link as it was but for the filter. -/
structure Spares [Transport σ LinkFailure] (bus : σ → Bus) (filter : σ → Bus.NodeFilter)
    (operation : Operation) (link : σ) : Prop where
  malformed : (operation.perform link).answer.Malformed
  unused : trafficIn (operation.perform link).journal = []
  bus_eq : bus (operation.perform link).transport = bus link
  /-- All stays as it was unless the filter is set and was another one. -/
  transport_eq_iff : (operation.perform link).transport = link
    ↔ operation.filtersFirst = false ∨ filter link = some operation.node
  /-- Everything that follows goes the same way, up to a message received without a call. -/
  later : ∀ operations : List Operation, .receive ∉ operations →
    List.Forall₂ (fun spoiled spared => spoiled.answer = spared.answer
        ∧ spoiled.journal = spared.journal)
      (session operations (operation.perform link).transport) (session operations link)

theorem IsFiltering.spares [Transport σ LinkFailure] {bus : σ → Bus}
    {filter : σ → Bus.NodeFilter} (filtering : IsFiltering bus filter) {operation : Operation}
    (rejected : operation.Rejected) (link : σ) : Spares bus filter operation link := by
  obtain ⟨malformed, unused, leaves⟩ := Operation.perform_rejected rejected link
  obtain ⟨_, sameBus, setFilter⟩ := filtering.setNodeFilter operation.node link
  have kept : bus (operation.perform link).transport = bus link := by
    rw [leaves]
    split
    · exact sameBus
    · rfl
  refine ⟨malformed, unused, kept, ?_, fun operations others => ?_⟩
  · rw [leaves]
    by_cases first : operation.filtersFirst = true
    · rw [if_pos first]
      simp only [first, Bool.true_eq_false, false_or]
      constructor
      · intro same
        rw [← setFilter, same]
      · intro already
        exact filtering.ext _ _ sameBus (setFilter.trans already.symm)
    · rw [if_neg first]
      simp only [Bool.not_eq_true] at first
      simp only [first, true_or]
  -- Over the same bus the filter shows in a single reception only.
  · have alike : List.Forall₂ (Run.Alike (fun s t => bus s = bus t) fun _ => true)
        (session operations (operation.perform link).transport) (session operations link) :=
      filtering.session_alike kept others
    exact alike.imp fun _ _ step => ⟨step.answer, step.journal_eq⟩

/-- A rejected call sends and receives nothing and leaves the bus as it was.  The whole link
is as it was exactly if the call builds its request before it sets the filter, or if the
filter was on its node already.  Nothing that follows can tell, up to a message that is
received without a call. -/
theorem rejected_spares (operation : Operation) (rejected : operation.Rejected) :
    (∀ link : BlockingLink, Spares BlockingLink.bus BlockingLink.filter operation link)
    ∧ ∀ link : PollingLink, Spares PollingLink.bus PollingLink.filter operation link :=
  ⟨BlockingLink.isFiltering.spares rejected, PollingLink.isFiltering.spares rejected⟩

theorem rejected_spares_upload :
    let operation : Operation := .transfer {} (.expeditedUpload 200 0x2000 1)
    operation.Rejected
    ∧ (∀ link : BlockingLink, Spares BlockingLink.bus BlockingLink.filter operation link)
    ∧ ∀ link : PollingLink, Spares PollingLink.bus PollingLink.filter operation link := by
  intro operation
  have rejected : operation.Rejected := by
    show ¬ (200 : UInt8).toNat ≤ 127
    decide
  exact ⟨rejected, rejected_spares operation rejected⟩

/-- A link that lets the messages of node 5 through drops them once a read from node 200 has
been rejected. -/
theorem rejected_deafens :
    let reply : BusEvent := .frame ⟨.standard 0x585, false, 8, [0x4F, 0, 0x20, 1, 7, 0, 0, 0]⟩
    let link : BlockingLink := ⟨⟨[reply], ⟨[], [], 0⟩, [], #[], 0, 0, Can.Frame.maker⟩, some 5⟩
    let operation : Operation := .transfer {} (.expeditedUpload 200 0x2000 1)
    let left := (operation.perform link).transport
    operation.Rejected
    ∧ (operation.perform link).answer.Malformed
    ∧ link.filter = some 5 ∧ left.filter = some 200
    ∧ (Transport.receive link).1
      = .ok ⟨.standard, false, some .sdoTx, 5, .sdo ⟨0x4F, 0x2000, 1, #v[7, 0, 0, 0]⟩, 8⟩
    ∧ (Transport.receive left).1 = .error (.bus "no frame") := by
  intro reply link operation left
  have rejected : operation.Rejected := by
    show ¬ (200 : UInt8).toNat ≤ 127
    decide
  exact ⟨rejected, (operation.perform_rejected rejected link).1, rfl, rfl, rfl, rfl⟩

end CanOpen
