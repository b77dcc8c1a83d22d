import CanOpen.Can.Frame

/-!
# A scripted bus

A `Bus` is what a driver gives access to: a queue of events to be received, some
events that go round for ever once the queue is empty, up to a limit, and the
outcomes of sending.  It records what was put on it and counts what it handed
out.

A driver that cannot wait says so: `poll` and `offer` answer "not ready" where
the script has it.  A driver that waits, `receive` and `transmit`, passes over
those places.
-/

set_option autoImplicit false

namespace CanOpen

inductive BusEvent where
  | frame (frame : Can.Reported)
  | failure (reason : String)
  | notReady
  deriving DecidableEq, Repr

inductive SendOutcome where
  | sent
  /-- The frame goes out and takes the place of one that was waiting. -/
  | replaced
  | notReady
  | failure (reason : String)
  deriving DecidableEq, Repr

inductive BusAction where
  | sent (frame : Can.Frame)
  | filter (node : UInt8)
  deriving DecidableEq, Repr

/-- Events that go round for ever, of which a limited number is still to come. -/
structure EventCycle where
  round : List BusEvent
  ahead : List BusEvent
  left : Nat
  deriving DecidableEq, Repr

def EventCycle.next? (cycle : EventCycle) : Option (BusEvent × EventCycle) :=
  match cycle.left, cycle.ahead, cycle.round with
  | 0, _, _ => none
  | left + 1, event :: ahead, _ => some (event, { cycle with ahead, left })
  | left + 1, [], event :: ahead => some (event, { cycle with ahead, left })
  | _ + 1, [], [] => none

structure Bus where
  inbox : List BusEvent
  idle : EventCycle
  /-- Outcomes of sending; once there are none, everything is sent. -/
  outcomes : List SendOutcome
  actions : Array BusAction
  delivered : Nat
  postponed : Nat
  /-- How the driver builds the frames that it sends. -/
  maker : Can.Maker Can.Frame := Can.Frame.maker

inductive Poll (α : Type) where
  | notReady
  | ready (result : α)
  deriving DecidableEq, Repr

namespace Bus

def horizon (bus : Bus) : Nat := bus.inbox.length + bus.idle.left

def next? (bus : Bus) : Option (BusEvent × Bus) :=
  match bus.inbox with
  | event :: inbox => some (event, { bus with inbox })
  | [] => bus.idle.next?.map fun (event, idle) => (event, { bus with idle })

theorem horizon_next?_lt {bus rest : Bus} {event : BusEvent}
    (taken : bus.next? = some (event, rest)) : rest.horizon < bus.horizon := by
  unfold next? at taken
  split at taken
  next event' inbox hasEvent =>
    simp only [Option.some.injEq, Prod.mk.injEq] at taken
    obtain ⟨_, rfl⟩ := taken
    simp [horizon, hasEvent]
  next hasNone =>
    obtain ⟨⟨event', idle⟩, idleTaken, pair⟩ := Option.map_eq_some_iff.1 taken
    simp only [Prod.mk.injEq] at pair
    obtain ⟨_, rfl⟩ := pair
    unfold EventCycle.next? at idleTaken
    split at idleTaken <;>
      simp_all [horizon] <;> (obtain ⟨_, rfl⟩ := idleTaken; simp)

/-! ## Receiving -/

def poll (bus : Bus) : Poll (Except String Can.Reported) × Bus :=
  match bus.next? with
  | none => (.ready (.error "no frame"), bus)
  | some (.frame frame, rest) =>
      (.ready (.ok frame), { rest with delivered := rest.delivered + 1 })
  | some (.failure reason, rest) => (.ready (.error reason), rest)
  | some (.notReady, rest) => (.notReady, { rest with postponed := rest.postponed + 1 })

theorem horizon_poll_lt {bus rest : Bus} {answer : Poll (Except String Can.Reported)}
    (polled : bus.poll = (answer, rest))
    (hasEvent : answer ≠ .ready (.error "no frame")) : rest.horizon < bus.horizon := by
  unfold poll at polled
  split at polled
  next => simp_all
  all_goals
    next taken =>
      have lower := horizon_next?_lt taken
      simp only [Prod.mk.injEq] at polled
      obtain ⟨_, rfl⟩ := polled
      exact lower

def pollWithin : (times : Nat) → Bus → Except String Can.Reported × Bus
  | 0, bus => (.error "no frame", bus)
  | times + 1, bus =>
      match bus.poll with
      | (.ready result, rest) => (result, rest)
      | (.notReady, rest) => pollWithin times rest

def pollUntilReady (bus : Bus) : Except String Can.Reported × Bus :=
  bus.pollWithin bus.horizon

def receiveWithin : (events : Nat) → Bus → Except String Can.Reported × Bus
  | 0, bus => (.error "no frame", bus)
  | events + 1, bus =>
      match bus.next? with
      | none => (.error "no frame", bus)
      | some (.frame frame, rest) =>
          (.ok frame, { rest with delivered := rest.delivered + 1 })
      | some (.failure reason, rest) => (.error reason, rest)
      | some (.notReady, rest) => receiveWithin events rest

def receive (bus : Bus) : Except String Can.Reported × Bus :=
  bus.receiveWithin bus.horizon

theorem horizon_pollWithin_lt {times : Nat} {bus rest : Bus} {frame : Can.Reported}
    (received : bus.pollWithin times = (.ok frame, rest)) : rest.horizon < bus.horizon := by
  fun_induction pollWithin times bus with
  | case1 bus => simp at received
  | case2 times bus result rest' polled =>
      obtain ⟨rfl, rfl⟩ := Prod.mk.inj received
      exact horizon_poll_lt polled (by simp)
  | case3 times bus rest' polled inductionHypothesis =>
      exact Nat.lt_trans (inductionHypothesis received) (horizon_poll_lt polled (by simp))

theorem horizon_receiveWithin_lt {events : Nat} {bus rest : Bus} {frame : Can.Reported}
    (received : bus.receiveWithin events = (.ok frame, rest)) :
    rest.horizon < bus.horizon := by
  fun_induction receiveWithin events bus with
  | case1 bus => simp at received
  | case2 events bus taken => simp at received
  | case3 events bus frame' rest' taken =>
      have lower := horizon_next?_lt taken
      obtain ⟨_, rfl⟩ := Prod.mk.inj received
      exact lower
  | case4 events bus reason rest' taken => simp at received
  | case5 events bus rest' taken inductionHypothesis =>
      exact Nat.lt_trans (inductionHypothesis received) (horizon_next?_lt taken)

/-! ## Sending -/

def record (action : BusAction) (bus : Bus) : Bus :=
  { bus with actions := bus.actions.push action }

def offer (frame : Can.Frame) (bus : Bus) : Poll (Except String Unit) × Bus :=
  match bus.outcomes with
  | [] => (.ready (.ok ()), bus.record (.sent frame))
  | .sent :: outcomes | .replaced :: outcomes =>
      (.ready (.ok ()), { bus with outcomes }.record (.sent frame))
  | .failure reason :: outcomes => (.ready (.error reason), { bus with outcomes })
  | .notReady :: outcomes =>
      (.notReady, { bus with outcomes, postponed := bus.postponed + 1 })

def offerWithin (frame : Can.Frame) : (times : Nat) → Bus → Except String Unit × Bus
  | 0, bus => (.ok (), bus.record (.sent frame))
  | times + 1, bus =>
      match bus.offer frame with
      | (.ready result, rest) => (result, rest)
      | (.notReady, rest) => offerWithin frame times rest

def offerUntilReady (frame : Can.Frame) (bus : Bus) : Except String Unit × Bus :=
  bus.offerWithin frame bus.outcomes.length

/-- Sends at the first of these outcomes that says whether there was room. -/
def transmitAt (frame : Can.Frame) (bus : Bus) : List SendOutcome → Except String Unit × Bus
  | [] => (.ok (), { bus with outcomes := [] }.record (.sent frame))
  | .sent :: outcomes | .replaced :: outcomes =>
      (.ok (), { bus with outcomes }.record (.sent frame))
  | .failure reason :: outcomes => (.error reason, { bus with outcomes })
  | .notReady :: outcomes => transmitAt frame bus outcomes

def transmit (frame : Can.Frame) (bus : Bus) : Except String Unit × Bus :=
  transmitAt frame bus bus.outcomes

end Bus

end CanOpen
