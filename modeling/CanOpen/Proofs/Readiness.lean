import CanOpen.Proofs.Lockstep
import CanOpen.Proofs.Outlook
import Mathlib.Data.List.Forall2

/-!
# Asking again and waiting

A session is a sequence of operations on one transport, single ones and whole calls.  A
link that asks its driver again until it is ready goes through a session in step with a
link that waits, if the two buses differ in nothing but the places where the first driver
is not ready.
-/

set_option autoImplicit false

namespace CanOpen

/-! ## Sessions -/

inductive Operation where
  | setNodeFilter (node : UInt8)
  | clearNodeFilter
  | send (message : Message)
  | receive
  | transfer (config : Sdo.Config) (call : Sdo.Call)
  | moduleControl (command : Nmt.Command) (node : UInt8)
  | guarding (node : UInt8) (rounds : Nat)
  deriving DecidableEq, Repr

inductive Outcome (ε : Type) where
  | done (result : Except ε Unit)
  | message (result : Except ε Message)
  | transferred (answer : Sdo.Answer ε)
  | commanded (result : Except (Nmt.Failure ε) Unit)
  | guarded (result : Except (Nmt.Failure ε) Nmt.GuardReport)

section Sessions

variable {σ τ ε : Type} [Transport σ ε] [Transport τ ε]

def Operation.perform (transport : σ) : Operation → Run σ ε (Outcome ε)
  | .setNodeFilter node =>
      let (result, rest) := Transport.setNodeFilter node transport
      ⟨.done result, rest, []⟩
  | .clearNodeFilter =>
      let (result, rest) := Transport.clearNodeFilter transport
      ⟨.done result, rest, []⟩
  | .send message =>
      let (result, rest) := Transport.send message transport
      ⟨.done result, rest, []⟩
  | .receive =>
      let (result, rest) := Transport.receive transport
      ⟨.message result, rest, []⟩
  | .transfer config call => (call.run config transport).map .transferred
  | .moduleControl command node => (Nmt.sendModuleControl command node transport).map .commanded
  | .guarding node rounds => (Nmt.pollNodeState node rounds transport).map .guarded

def session : List Operation → σ → List (Run σ ε (Outcome ε))
  | [], _ => []
  | operation :: others, transport =>
      operation.perform transport :: session others (operation.perform transport).transport

variable {R : σ → τ → Prop} {kept : Entry ε → Bool}

theorem Operation.perform_lockstep (lockstep : Transport.Lockstep R) {s : σ} {t : τ}
    (related : R s t) (operation : Operation) :
    Run.Alike R kept (operation.perform s) (operation.perform t) := by
  cases operation with
  | setNodeFilter node =>
      obtain ⟨same, rest⟩ := lockstep.setNodeFilter node s t related
      exact ⟨congrArg Outcome.done same, rfl, rest⟩
  | clearNodeFilter =>
      obtain ⟨same, rest⟩ := lockstep.clearNodeFilter s t related
      exact ⟨congrArg Outcome.done same, rfl, rest⟩
  | send message =>
      obtain ⟨same, rest⟩ := lockstep.send message s t related
      exact ⟨congrArg Outcome.done same, rfl, rest⟩
  | receive =>
      obtain ⟨same, rest⟩ := lockstep.receive s t related
      exact ⟨congrArg Outcome.message same, rfl, rest⟩
  | transfer config call => exact (Sdo.Call.run_lockstep lockstep related config call).map _
  | moduleControl command node =>
      exact (Nmt.sendModuleControl_alike lockstep.send related command node).map _
  | guarding node rounds => exact (Nmt.pollNodeState_lockstep lockstep related node rounds).map _

theorem session_lockstep (lockstep : Transport.Lockstep R) {s : σ} {t : τ} (related : R s t)
    (operations : List Operation) :
    List.Forall₂ (Run.Alike R kept) (session operations s) (session operations t) := by
  induction operations generalizing s t with
  | nil => exact .nil
  | cons operation others inductionHypothesis =>
      have performed : Run.Alike R kept (operation.perform s) (operation.perform t) :=
        operation.perform_lockstep lockstep related
      exact .cons performed (inductionHypothesis performed.transport)

end Sessions

/-! ## Drivers that are not always ready -/

namespace Bus

/-- The bus without the places where nothing happens yet, and with nothing that goes round. -/
def settled (bus : Bus) : Bus :=
  { bus with
    inbox := bus.events.filter (· != .notReady)
    idle := ⟨[], [], 0⟩
    outcomes := bus.outcomes.filter (· != .notReady) }

theorem outlook_settled (bus : Bus) : bus.settled.outlook = bus.outlook := by
  have arrives (event : BusEvent) :
      (if event != .notReady then event.arrival? else none) = event.arrival? := by
    cases event <;> rfl
  have results (outcome : SendOutcome) :
      (if outcome != .notReady then outcome.result? else none) = outcome.result? := by
    cases outcome <;> rfl
  have all : bus.settled.events = bus.events.filter (· != .notReady) := List.append_nil _
  rw [outlook, outlook, all, settled]
  simp only [List.filterMap_filter, arrives, results]

end Bus

namespace PollingLink

/-- Whether a link that is polled has before it what a link that waits has before it. -/
structure KeepsUp (polled : PollingLink) (waiting : BlockingLink) : Prop where
  outlook : polled.bus.outlook = waiting.bus.outlook
  filter : polled.filter = waiting.filter

/-- For every driver that is not always ready there is one that is, with the same ahead. -/
theorem keepsUp_settled (polled : PollingLink) :
    KeepsUp polled ⟨polled.bus.settled, polled.filter⟩ :=
  ⟨polled.bus.outlook_settled.symm, rfl⟩

theorem keepsUp_lockstep : Transport.Lockstep KeepsUp where
  send message polled waiting related := by
    have same : (polled.send message).map id (·.bus.outlook)
        = (waiting.send message).map id (·.bus.outlook) := by
      rw [outlook_send, BlockingLink.outlook_send, related.outlook]
    exact ⟨congrArg Prod.fst same, congrArg Prod.snd same, related.filter⟩
  receive polled waiting related := by
    have same : polled.receive.map id (·.bus.outlook)
        = waiting.receive.map id (·.bus.outlook) := by
      rw [outlook_receive, BlockingLink.outlook_receive, related.outlook, related.filter]
    exact ⟨congrArg Prod.fst same, congrArg Prod.snd same, related.filter⟩
  setNodeFilter _ _ _ related := ⟨rfl, related.outlook, rfl⟩
  clearNodeFilter _ _ related := ⟨rfl, related.outlook, rfl⟩

def SameStep (polling : Run PollingLink LinkFailure (Outcome LinkFailure))
    (blocking : Run BlockingLink LinkFailure (Outcome LinkFailure)) : Prop :=
  polling.answer = blocking.answer
  ∧ polling.journal = blocking.journal
  ∧ polling.transport.bus.outlook = blocking.transport.bus.outlook
  ∧ polling.transport.filter = blocking.transport.filter

theorem forall₂_sameStep {polled : PollingLink} {waiting : BlockingLink}
    (keepsUp : KeepsUp polled waiting) (operations : List Operation) :
    List.Forall₂ SameStep (session operations polled) (session operations waiting) := by
  have alike : List.Forall₂ (Run.Alike KeepsUp fun _ => true) (session operations polled)
      (session operations waiting) :=
    session_lockstep keepsUp_lockstep keepsUp operations
  refine alike.imp fun polling blocking step => ?_
  exact ⟨step.answer, step.journal_eq, step.transport.outlook, step.transport.filter⟩

/-- Over drivers that differ only in the places where one of them is not ready, a link that
asks again gives the same results as a link that waits, in every step of every session: it
sends and receives the same, drops the same frames and leaves the same filter.  For each
driver that is not always ready there is such a driver, the one without those places. -/
theorem session_keepsUp (operations : List Operation) (polled : PollingLink)
    (waiting : BlockingLink) (sameOutlook : polled.bus.outlook = waiting.bus.outlook)
    (sameFilter : polled.filter = waiting.filter) :
    List.Forall₂ SameStep (session operations polled) (session operations waiting)
    ∧ List.Forall₂ SameStep (session operations polled)
        (session operations (BlockingLink.mk polled.bus.settled polled.filter)) :=
  ⟨forall₂_sameStep ⟨sameOutlook, sameFilter⟩ operations,
    forall₂_sameStep polled.keepsUp_settled operations⟩

/-- The driver puts off the request, a frame of another node, the reply and a failure, and it
builds no remote frames. -/
theorem session_keepsUp_puttingOff :
    let foreign : BusEvent := .frame ⟨.standard 0x586, false, 8, [0x4F, 0, 0x20, 1, 9, 0, 0, 0]⟩
    let reply : BusEvent := .frame ⟨.standard 0x585, false, 8, [0x4F, 0, 0x20, 1, 7, 0, 0, 0]⟩
    let maker : Can.Maker Can.Frame := ⟨Can.Frame.data?, fun _ _ => none⟩
    let polled : PollingLink :=
      ⟨⟨[.notReady, foreign, .notReady, .notReady, reply, .notReady, .failure "off"], ⟨[], [], 0⟩,
        [.notReady, .replaced, .notReady], #[], 0, 0, maker⟩, none⟩
    let waiting : BlockingLink :=
      ⟨⟨[foreign, reply, .failure "off"], ⟨[], [], 0⟩, [.sent], #[], 0, 0, maker⟩, none⟩
    let operations : List Operation :=
      [.transfer {} (.expeditedUpload 5 0x2000 1), .clearNodeFilter, .receive, .guarding 5 2]
    polled.bus.outlook = waiting.bus.outlook
    ∧ List.Forall₂ SameStep (session operations polled) (session operations waiting) := by
  intro foreign reply maker polled waiting operations
  have sameOutlook : polled.bus.outlook = waiting.bus.outlook := rfl
  exact ⟨sameOutlook, (session_keepsUp operations polled waiting sameOutlook rfl).1⟩

end PollingLink

end CanOpen
