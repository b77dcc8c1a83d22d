import CanOpen.Bus.Link

/-!
# What lies ahead on a bus

The outlook of a bus is what someone who waits will see of it: what arrives, what
becomes of what is sent, how many frames were handed out and which were sent so far, and how
frames are built.
Places where a driver has nothing yet are left out, and so is whether a frame takes the
place of another.

A driver that waits and a driver that is asked again until it is ready act on the
outlook in one and the same way, and so do the links over them.
-/

set_option autoImplicit false

namespace CanOpen

/-- What someone who waits receives: a frame, or the reason why the bus failed. -/
abbrev Arrival := Except String Can.Reported

def BusEvent.arrival? : BusEvent → Option Arrival
  | .frame reported => some (.ok reported)
  | .failure reason => some (.error reason)
  | .notReady => none

def SendOutcome.result? : SendOutcome → Option (Except String Unit)
  | .sent | .replaced => some (.ok ())
  | .failure reason => some (.error reason)
  | .notReady => none

def BusAction.frame? : BusAction → Option Can.Frame
  | .sent frame => some frame
  | .filter _ => none

namespace EventCycle

/-- So many events of a cycle, which goes on with `ahead` and then round after round. -/
def unroll (round : List BusEvent) : (left : Nat) → (ahead : List BusEvent) → List BusEvent
  | 0, _ => []
  | left + 1, event :: ahead => event :: unroll round left ahead
  | left + 1, [] =>
      match round with
      | [] => []
      | event :: ahead => event :: unroll round left ahead

def events (cycle : EventCycle) : List BusEvent :=
  unroll cycle.round cycle.left cycle.ahead

theorem length_unroll_le (round : List BusEvent) (left : Nat) (ahead : List BusEvent) :
    (unroll round left ahead).length ≤ left := by
  induction left generalizing ahead with
  | zero => exact Nat.le_refl 0
  | succ left inductionHypothesis =>
      cases ahead with
      | cons event ahead => exact Nat.succ_le_succ (inductionHypothesis ahead)
      | nil =>
          cases round with
          | nil => exact Nat.zero_le _
          | cons event ahead => exact Nat.succ_le_succ (inductionHypothesis ahead)

theorem next?_cases (cycle : EventCycle) :
    (cycle.next? = none ∧ cycle.events = [])
    ∨ ∃ event rest, cycle.next? = some (event, rest) ∧ cycle.events = event :: rest.events := by
  obtain ⟨round, ahead, left⟩ := cycle
  cases left with
  | zero => exact .inl ⟨rfl, rfl⟩
  | succ left =>
      cases ahead with
      | cons event ahead => exact .inr ⟨event, ⟨round, ahead, left⟩, rfl, rfl⟩
      | nil =>
          cases round with
          | nil => exact .inl ⟨rfl, rfl⟩
          | cons event ahead => exact .inr ⟨event, ⟨event :: ahead, ahead, left⟩, rfl, rfl⟩

end EventCycle

namespace Bus

/-- All events still to be received. -/
def events (bus : Bus) : List BusEvent :=
  bus.inbox ++ bus.idle.events

theorem length_events_le (bus : Bus) : bus.events.length ≤ bus.horizon := by
  rw [events, List.length_append, horizon]
  exact Nat.add_le_add_left (EventCycle.length_unroll_le _ _ _) _

theorem next?_cases (bus : Bus) :
    (bus.next? = none ∧ bus.events = [])
    ∨ ∃ event inbox idle, bus.next? = some (event, { bus with inbox, idle })
      ∧ bus.events = event :: events { bus with inbox, idle } := by
  cases inbox : bus.inbox with
  | cons event inbox' =>
      right
      refine ⟨event, inbox', bus.idle, ?_, ?_⟩
      · rw [next?, inbox]
      · rw [events, inbox]
        rfl
  | nil =>
      obtain ⟨none, empty⟩ | ⟨event, idle, some, more⟩ := bus.idle.next?_cases
      · left
        constructor
        · rw [next?, inbox]
          simp only [none, Option.map_none]
        · rw [events, inbox, empty]
          rfl
      · right
        refine ⟨event, bus.inbox, idle, ?_, ?_⟩
        · rw [next?, inbox]
          simp only [some, Option.map_some]
        · rw [events, events, inbox, more]
          rfl

/-- What lies ahead of someone who waits, how many frames were handed out, which were sent
and how they are built. -/
structure Outlook where
  arrivals : List Arrival
  outcomes : List (Except String Unit)
  delivered : Nat
  sent : List Can.Frame
  maker : Can.Maker Can.Frame

def outlook (bus : Bus) : Outlook where
  arrivals := bus.events.filterMap BusEvent.arrival?
  outcomes := bus.outcomes.filterMap SendOutcome.result?
  delivered := bus.delivered
  sent := bus.actions.toList.filterMap BusAction.frame?
  maker := bus.maker

namespace Outlook

def receive (outlook : Outlook) : Arrival × Outlook :=
  match outlook.arrivals with
  | [] => (.error "no frame", outlook)
  | .error reason :: arrivals => (.error reason, { outlook with arrivals })
  | .ok frame :: arrivals =>
      (.ok frame, { outlook with arrivals, delivered := outlook.delivered + 1 })

def transmit (frame : Can.Frame) (outlook : Outlook) : Except String Unit × Outlook :=
  match outlook.outcomes with
  | [] => (.ok (), { outlook with sent := outlook.sent ++ [frame] })
  | .ok () :: outcomes => (.ok (), { outlook with outcomes, sent := outlook.sent ++ [frame] })
  | .error reason :: outcomes => (.error reason, { outlook with outcomes })

/-- Sends a message, packed. -/
def sendBy (message : Message) (outlook : Outlook) : Except LinkFailure Unit × Outlook :=
  match message.packWith outlook.maker with
  | .error cause => (.error (.codec cause), outlook)
  | .ok frame => ((outlook.transmit frame).1.mapError .bus, (outlook.transmit frame).2)

/-- Receives the first of some arrivals, those that a filter drops passed over. -/
def receiveFrom (filter : NodeFilter) (outlook : Outlook) :
    List Arrival → Except LinkFailure Message × Outlook
  | [] => (.error (.bus "no frame"), { outlook with arrivals := [] })
  | .error reason :: arrivals => (.error (.bus reason), { outlook with arrivals })
  | .ok frame :: arrivals =>
      let delivered := outlook.delivered + 1
      if filter.accepts frame.id then
        ((Message.parse frame).mapError .codec, { outlook with arrivals, delivered })
      else
        receiveFrom filter { outlook with delivered } arrivals

def receiveBy (filter : NodeFilter) (outlook : Outlook) : Except LinkFailure Message × Outlook :=
  receiveFrom filter outlook outlook.arrivals

/-- The arrivals that were there before do not matter, only those that are given. -/
theorem receiveFrom_arrivals (filter : NodeFilter) (outlook : Outlook)
    (others arrivals : List Arrival) :
    receiveFrom filter { outlook with arrivals := others } arrivals
      = receiveFrom filter outlook arrivals := by
  induction arrivals generalizing outlook with
  | nil => rfl
  | cons arrival arrivals inductionHypothesis =>
      cases arrival with
      | error reason => rfl
      | ok frame =>
          by_cases accepted : filter.accepts frame.id = true
          · simp [receiveFrom, accepted]
          · simpa [receiveFrom, accepted] using
              inductionHypothesis { outlook with delivered := outlook.delivered + 1 }

theorem receiveBy_eq (filter : NodeFilter) (outlook : Outlook) :
    outlook.receiveBy filter
      = match outlook.receive with
        | (.error reason, rest) => (.error (.bus reason), rest)
        | (.ok frame, rest) =>
            if filter.accepts frame.id then ((Message.parse frame).mapError .codec, rest)
            else rest.receiveBy filter := by
  obtain ⟨_ | ⟨reason | frame, arrivals⟩, outcomes, delivered, sent, maker⟩ := outlook
  · rfl
  · rfl
  · by_cases accepted : filter.accepts frame.id = true
    · simp [receiveBy, receiveFrom, receive, accepted]
    · simpa [receiveBy, receiveFrom, receive, accepted] using
        receiveFrom_arrivals filter ⟨arrivals, outcomes, delivered + 1, sent, maker⟩ _ arrivals

section ReceiveBy

variable {filter : NodeFilter} {outlook rest : Outlook} {frame : Can.Reported}

theorem receiveBy_of_failed {reason : String} (failed : outlook.receive = (.error reason, rest)) :
    outlook.receiveBy filter = (.error (.bus reason), rest) := by
  rw [receiveBy_eq, failed]

theorem receiveBy_of_accepted (arrived : outlook.receive = (.ok frame, rest))
    (accepted : filter.accepts frame.id = true) :
    outlook.receiveBy filter = ((Message.parse frame).mapError .codec, rest) := by
  rw [receiveBy_eq, arrived]
  exact if_pos accepted

theorem receiveBy_of_dropped (arrived : outlook.receive = (.ok frame, rest))
    (dropped : filter.accepts frame.id = false) :
    outlook.receiveBy filter = rest.receiveBy filter := by
  rw [receiveBy_eq, arrived]
  exact if_neg (Bool.eq_false_iff.1 dropped)

end ReceiveBy

theorem length_arrivals_of_receive {outlook rest : Outlook} {frame : Can.Reported}
    (received : outlook.receive = (.ok frame, rest)) :
    outlook.arrivals.length = rest.arrivals.length + 1 := by
  obtain ⟨_ | ⟨reason | other, arrivals⟩, outcomes, delivered, sent, maker⟩ := outlook
  · cases received
  · cases received
  · cases received
    rfl

end Outlook

/-! ## Drivers -/

section Drivers

variable {bus : Bus} {inbox : List BusEvent} {idle : EventCycle}

theorem receive_outlook_of_frame {frame : Can.Reported}
    (first : bus.events = .frame frame :: events { bus with inbox, idle }) :
    bus.outlook.receive
      = (.ok frame, outlook { bus with inbox, idle, delivered := bus.delivered + 1 }) := by
  have arrives : BusEvent.arrival? (.frame frame) = some (.ok frame) := rfl
  have same : events { bus with inbox, idle, delivered := bus.delivered + 1 }
      = events { bus with inbox, idle } := rfl
  simp only [outlook, Outlook.receive, first, same, List.filterMap_cons_some arrives]

theorem receive_outlook_of_failure {reason : String}
    (first : bus.events = .failure reason :: events { bus with inbox, idle }) :
    bus.outlook.receive = (.error reason, outlook { bus with inbox, idle }) := by
  have arrives : BusEvent.arrival? (.failure reason) = some (.error reason) := rfl
  simp only [outlook, Outlook.receive, first, List.filterMap_cons_some arrives]

theorem receive_outlook_of_none (none : bus.events = []) :
    bus.outlook.receive = (.error "no frame", bus.outlook) := by
  simp only [outlook, Outlook.receive, none, List.filterMap_nil]

theorem outlook_of_notReady (first : bus.events = .notReady :: events { bus with inbox, idle }) :
    bus.outlook = outlook { bus with inbox, idle } := by
  have none : BusEvent.arrival? .notReady = none := rfl
  simp only [outlook, first, List.filterMap_cons_none none]

end Drivers

theorem outlook_receiveWithin {times : Nat} {bus : Bus} (enough : bus.events.length ≤ times) :
    (bus.receiveWithin times).map id outlook = bus.outlook.receive := by
  induction times generalizing bus with
  | zero =>
      rw [receive_outlook_of_none (List.eq_nil_of_length_eq_zero (Nat.le_zero.1 enough))]
      rfl
  | succ times inductionHypothesis =>
      obtain ⟨none, empty⟩ | ⟨event, inbox, idle, some, first⟩ := bus.next?_cases
      · rw [receiveWithin, none, receive_outlook_of_none empty]
        rfl
      · rw [receiveWithin, some]
        cases event with
        | frame frame =>
            rw [receive_outlook_of_frame first]
            rfl
        | failure reason =>
            rw [receive_outlook_of_failure first]
            rfl
        | notReady =>
            rw [first, List.length_cons] at enough
            rw [outlook_of_notReady first]
            exact inductionHypothesis (Nat.le_of_succ_le_succ enough)

theorem outlook_pollWithin {times : Nat} {bus : Bus} (enough : bus.events.length ≤ times) :
    (bus.pollWithin times).map id outlook = bus.outlook.receive := by
  induction times generalizing bus with
  | zero =>
      rw [receive_outlook_of_none (List.eq_nil_of_length_eq_zero (Nat.le_zero.1 enough))]
      rfl
  | succ times inductionHypothesis =>
      obtain ⟨none, empty⟩ | ⟨event, inbox, idle, some, first⟩ := bus.next?_cases
      · rw [pollWithin, poll, none, receive_outlook_of_none empty]
        rfl
      · rw [pollWithin, poll, some]
        cases event with
        | frame frame =>
            rw [receive_outlook_of_frame first]
            rfl
        | failure reason =>
            rw [receive_outlook_of_failure first]
            rfl
        | notReady =>
            rw [first, List.length_cons] at enough
            rw [outlook_of_notReady first]
            let later : Bus := { bus with inbox, idle, postponed := bus.postponed + 1 }
            have fewer : later.events.length ≤ times := Nat.le_of_succ_le_succ enough
            exact inductionHypothesis fewer

theorem outlook_receive (bus : Bus) : bus.receive.map id outlook = bus.outlook.receive :=
  outlook_receiveWithin bus.length_events_le

theorem outlook_pollUntilReady (bus : Bus) :
    bus.pollUntilReady.map id outlook = bus.outlook.receive :=
  outlook_pollWithin bus.length_events_le

theorem outlook_transmitAt (frame : Can.Frame) (bus : Bus) (outcomes : List SendOutcome) :
    (bus.transmitAt frame outcomes).map id outlook
      = Outlook.transmit frame
          { bus.outlook with outcomes := outcomes.filterMap SendOutcome.result? } := by
  induction outcomes with
  | nil => simp [transmitAt, Outlook.transmit, record, BusAction.frame?, outlook, events]
  | cons outcome outcomes inductionHypothesis =>
      cases outcome with
      | notReady => exact inductionHypothesis
      | _ =>
          simp [transmitAt, Outlook.transmit, SendOutcome.result?, record, BusAction.frame?,
            outlook, events]

theorem outlook_transmit (frame : Can.Frame) (bus : Bus) :
    (bus.transmit frame).map id outlook = bus.outlook.transmit frame :=
  outlook_transmitAt frame bus bus.outcomes

theorem outlook_offerWithin {frame : Can.Frame} {times : Nat} {bus : Bus}
    (enough : bus.outcomes.length ≤ times) :
    (bus.offerWithin frame times).map id outlook = bus.outlook.transmit frame := by
  induction times generalizing bus with
  | zero =>
      have none := List.eq_nil_of_length_eq_zero (Nat.le_zero.1 enough)
      simp [offerWithin, Outlook.transmit, record, BusAction.frame?, outlook, events, none]
  | succ times inductionHypothesis =>
      cases outcomes : bus.outcomes with
      | nil =>
          simp [offerWithin, offer, Outlook.transmit, record, BusAction.frame?, outlook, events,
            outcomes]
      | cons outcome others =>
          cases outcome with
          | notReady =>
              rw [outcomes, List.length_cons] at enough
              have passed : bus.outlook.outcomes = others.filterMap SendOutcome.result? := by
                rw [outlook, outcomes]
                rfl
              let later : Bus := { bus with outcomes := others, postponed := bus.postponed + 1 }
              have fewer : later.outcomes.length ≤ times := Nat.le_of_succ_le_succ enough
              rw [offerWithin, offer, outcomes]
              refine (inductionHypothesis fewer).trans ?_
              rw [Outlook.transmit, Outlook.transmit, passed]
              rfl
          | _ =>
              simp [offerWithin, offer, Outlook.transmit, SendOutcome.result?, record,
                BusAction.frame?, outlook, events, outcomes]

theorem outlook_offerUntilReady (frame : Can.Frame) (bus : Bus) :
    (bus.offerUntilReady frame).map id outlook = bus.outlook.transmit frame :=
  outlook_offerWithin (Nat.le_refl _)

/-! ## Links -/

/-- What is left of an operation whose result and view are known. -/
theorem exists_rest_of_map {σ ρ : Type} {view : σ → Outlook} {operation : ρ × σ} {result : ρ}
    {outlook : Outlook} (mapped : operation.map id view = (result, outlook)) :
    ∃ rest, operation = (result, rest) ∧ view rest = outlook := by
  obtain ⟨answer, rest⟩ := operation
  cases mapped
  exact ⟨rest, rfl, rfl⟩

theorem outlook_sendBy {transmit : Can.Frame → Bus → Except String Unit × Bus}
    (transmits : ∀ frame bus, (transmit frame bus).map id outlook = bus.outlook.transmit frame)
    (message : Message) (bus : Bus) :
    (bus.sendBy transmit message).map id outlook = bus.outlook.sendBy message := by
  have sameMaker : bus.outlook.maker = bus.maker := rfl
  unfold sendBy Outlook.sendBy
  rw [sameMaker]
  cases message.packWith bus.maker with
  | error cause => rfl
  | ok frame =>
      simp only [← transmits frame bus]
      rfl

/-- Whether pulling a frame takes what lies ahead. -/
def Pull.TakesAhead (pull : Pull) : Prop :=
  ∀ bus, (pull.next bus).map id outlook = bus.outlook.receive

theorem Pull.takesAhead_blocking : Pull.blocking.TakesAhead :=
  outlook_receive

theorem Pull.takesAhead_polling : Pull.polling.TakesAhead :=
  outlook_pollUntilReady

theorem outlook_receiveByWithin {pull : Pull} (pulls : pull.TakesAhead) {filter : NodeFilter}
    {times : Nat} {bus : Bus} (enough : bus.outlook.arrivals.length ≤ times) :
    (bus.receiveByWithin pull filter times).map id outlook = bus.outlook.receiveBy filter := by
  induction times generalizing bus with
  | zero =>
      have none := List.eq_nil_of_length_eq_zero (Nat.le_zero.1 enough)
      have empty : bus.outlook = { bus.outlook with arrivals := [] } := by
        rw [← none]
      rw [empty]
      exact Prod.ext rfl empty
  | succ times inductionHypothesis =>
      have pulled := pulls bus
      rw [receiveByWithin, Outlook.receiveBy_eq, ← pulled]
      cases next : pull.next bus with
      | mk arrival rest =>
          rw [next] at pulled
          cases arrival with
          | error reason => rfl
          | ok frame =>
              have fewer := Outlook.length_arrivals_of_receive pulled.symm
              by_cases accepted : filter.accepts frame.id = true
              · simp [accepted]
              · have fewer' : rest.outlook.arrivals.length ≤ times := by omega
                simpa [accepted] using inductionHypothesis fewer'

theorem outlook_receiveBy {pull : Pull} (pulls : pull.TakesAhead) (filter : NodeFilter)
    (bus : Bus) : (bus.receiveBy pull filter).map id outlook = bus.outlook.receiveBy filter := by
  apply outlook_receiveByWithin pulls
  exact Nat.le_trans (List.length_filterMap_le _ _) bus.length_events_le

end Bus

namespace PlainLink

theorem outlook_send (message : Message) (link : PlainLink) :
    (link.send message).map id (·.bus.outlook) = link.bus.outlook.sendBy message := by
  rw [← Bus.outlook_sendBy Bus.outlook_transmit]
  rfl

theorem outlook_receive (link : PlainLink) :
    link.receive.map id (·.bus.outlook) = link.bus.outlook.receiveBy none := by
  rw [← Bus.outlook_receiveBy Bus.Pull.takesAhead_blocking]
  rfl

theorem outlook_setNodeFilter (node : UInt8) (link : PlainLink) :
    (link.setNodeFilter node).2.bus.outlook = link.bus.outlook := by
  unfold setNodeFilter
  split
  · rfl
  · simp [Bus.outlook, Bus.record, Bus.events, BusAction.frame?]

end PlainLink

namespace BlockingLink

theorem outlook_send (message : Message) (link : BlockingLink) :
    (link.send message).map id (·.bus.outlook) = link.bus.outlook.sendBy message := by
  rw [← Bus.outlook_sendBy Bus.outlook_transmit]
  rfl

theorem outlook_receive (link : BlockingLink) :
    link.receive.map id (·.bus.outlook) = link.bus.outlook.receiveBy link.filter := by
  rw [← Bus.outlook_receiveBy Bus.Pull.takesAhead_blocking]
  rfl

end BlockingLink

namespace PollingLink

theorem outlook_send (message : Message) (link : PollingLink) :
    (link.send message).map id (·.bus.outlook) = link.bus.outlook.sendBy message := by
  rw [← Bus.outlook_sendBy Bus.outlook_offerUntilReady]
  rfl

theorem outlook_receive (link : PollingLink) :
    link.receive.map id (·.bus.outlook) = link.bus.outlook.receiveBy link.filter := by
  rw [← Bus.outlook_receiveBy Bus.Pull.takesAhead_polling]
  rfl

end PollingLink

end CanOpen
