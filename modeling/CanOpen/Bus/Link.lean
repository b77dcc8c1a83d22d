import CanOpen.Bus
import CanOpen.Message.Wire
import CanOpen.Transport

/-!
# Links to a bus

Transports over a bus share how they fail, how they send a message with a given way to
transmit, and how they receive the next message that a node filter lets through with a
given way to pull frames.

There are three.  A plain link hands on the messages of all nodes; a request for a filter
is put on record, or fails if the link was told so, and changes nothing else.  A blocking
link waits until its driver can send or receive, and a polling link asks its driver again
until it is ready; both drop the frames of other nodes than the one asked for before they are
read.  A frame that gives way to a more urgent one is not sent again.
-/

set_option autoImplicit false

namespace CanOpen

inductive LinkFailure where
  | bus (reason : String)
  | codec (cause : CodecError)
  deriving DecidableEq, Repr

def LinkFailure.message : LinkFailure → String
  | .bus reason => "Bus(" ++ reason ++ ")"
  | .codec cause => "Codec(" ++ cause.message ++ ")"

instance : ToString LinkFailure := ⟨LinkFailure.message⟩

namespace Bus

/-- Packs a message with the constructors of the driver and transmits it; what cannot be
packed does not reach the bus. -/
def sendBy (transmit : Can.Frame → Bus → Except String Unit × Bus) (message : Message)
    (bus : Bus) : Except LinkFailure Unit × Bus :=
  match message.packWith bus.maker with
  | .error cause => (.error (.codec cause), bus)
  | .ok frame =>
      let (result, rest) := transmit frame bus
      (result.mapError .bus, rest)

/-- Which node's frames are let through; all nodes' if there is none. -/
abbrev NodeFilter := Option UInt8

/-- Whether a filter lets an identifier through: extended ones always, standard
ones if their low seven bits are the node's number. -/
def NodeFilter.accepts (filter : NodeFilter) (id : Can.Identifier) : Bool :=
  match filter, id.cobId? with
  | some node, some cobId => cobId % 128 == node.toNat
  | _, _ => true

/-- A way to pull frames off the bus, each of which lowers the number of events
still to be received. -/
structure Pull where
  next : Bus → Except String Can.Reported × Bus
  lowers : ∀ (bus rest : Bus) (frame : Can.Reported),
    next bus = (.ok frame, rest) → rest.horizon < bus.horizon

def Pull.blocking : Pull where
  next := receive
  lowers := fun _ _ _ received => horizon_receiveWithin_lt received

def Pull.polling : Pull where
  next := pollUntilReady
  lowers := fun _ _ _ received => horizon_pollWithin_lt received

def receiveByWithin (pull : Pull) (filter : NodeFilter) :
    (times : Nat) → Bus → Except LinkFailure Message × Bus
  | 0, bus => (.error (.bus "no frame"), bus)
  | times + 1, bus =>
      match pull.next bus with
      | (.error reason, rest) => (.error (.bus reason), rest)
      | (.ok frame, rest) =>
          if filter.accepts frame.id then
            ((Message.parse frame).mapError .codec, rest)
          else
            receiveByWithin pull filter times rest

def receiveBy (pull : Pull) (filter : NodeFilter) (bus : Bus) :
    Except LinkFailure Message × Bus :=
  bus.receiveByWithin pull filter bus.horizon

theorem horizon_receiveByWithin_lt {pull : Pull} {filter : NodeFilter} {times : Nat}
    {bus rest : Bus} {message : Message}
    (received : bus.receiveByWithin pull filter times = (.ok message, rest)) :
    rest.horizon < bus.horizon := by
  fun_induction receiveByWithin pull filter times bus with
  | case1 bus => simp at received
  | case2 times bus reason rest' pulled => simp at received
  | case3 times bus frame rest' pulled accepted =>
      have lower := pull.lowers _ _ _ pulled
      obtain ⟨_, rfl⟩ := Prod.mk.inj received
      exact lower
  | case4 times bus frame rest' pulled refused inductionHypothesis =>
      exact Nat.lt_trans (inductionHypothesis received) (pull.lowers _ _ _ pulled)

theorem horizon_offer (frame : Can.Frame) (bus : Bus) :
    (bus.offer frame).2.horizon = bus.horizon := by
  unfold offer
  split <;> rfl

theorem horizon_offerWithin (frame : Can.Frame) (times : Nat) (bus : Bus) :
    (bus.offerWithin frame times).2.horizon = bus.horizon := by
  fun_induction offerWithin frame times bus with
  | case1 bus => rfl
  | case2 times bus result rest offered =>
      have same := horizon_offer frame bus
      rw [offered] at same
      exact same
  | case3 times bus rest offered inductionHypothesis =>
      have same := horizon_offer frame bus
      rw [offered] at same
      exact inductionHypothesis.trans same

theorem horizon_offerUntilReady (frame : Can.Frame) (bus : Bus) :
    (bus.offerUntilReady frame).2.horizon = bus.horizon :=
  horizon_offerWithin frame bus.outcomes.length bus

theorem horizon_transmitAt (frame : Can.Frame) (bus : Bus) (outcomes : List SendOutcome) :
    (bus.transmitAt frame outcomes).2.horizon = bus.horizon := by
  fun_induction transmitAt frame bus outcomes <;> simp_all [horizon, record]

theorem horizon_transmit (frame : Can.Frame) (bus : Bus) :
    (bus.transmit frame).2.horizon = bus.horizon :=
  horizon_transmitAt frame bus bus.outcomes

theorem horizon_sendBy {transmit : Can.Frame → Bus → Except String Unit × Bus}
    (keeps : ∀ (frame : Can.Frame) (bus : Bus), (transmit frame bus).2.horizon = bus.horizon)
    (message : Message) (bus : Bus) : (bus.sendBy transmit message).2.horizon = bus.horizon := by
  unfold sendBy
  split
  · rfl
  · exact keeps _ bus

end Bus

structure PlainLink where
  bus : Bus
  /-- Why setting a filter fails, if it does. -/
  filterFailure : Option String

namespace PlainLink

def send (message : Message) (link : PlainLink) : Except LinkFailure Unit × PlainLink :=
  let (result, bus) := link.bus.sendBy Bus.transmit message
  (result, { link with bus })

def receive (link : PlainLink) : Except LinkFailure Message × PlainLink :=
  let (result, bus) := link.bus.receiveBy .blocking none
  (result, { link with bus })

/-- Puts the request for a filter on record. -/
def setNodeFilter (node : UInt8) (link : PlainLink) : Except LinkFailure Unit × PlainLink :=
  match link.filterFailure with
  | some reason => (.error (.bus reason), link)
  | none => (.ok (), { link with bus := link.bus.record (.filter node) })

instance : Transport PlainLink LinkFailure where
  send := send
  receive := receive
  setNodeFilter := setNodeFilter
  horizon := fun link => link.bus.horizon
  horizon_receive_lt := by
    intro link rest message received
    simp only [receive, Prod.mk.injEq] at received
    obtain ⟨result, rfl⟩ := received
    exact Bus.horizon_receiveByWithin_lt (Prod.ext result rfl)
  horizon_send_le := fun message link =>
    Nat.le_of_eq (Bus.horizon_sendBy Bus.horizon_transmit message link.bus)

end PlainLink

structure BlockingLink where
  bus : Bus
  filter : Bus.NodeFilter

namespace BlockingLink

def send (message : Message) (link : BlockingLink) : Except LinkFailure Unit × BlockingLink :=
  let (result, bus) := link.bus.sendBy Bus.transmit message
  (result, { link with bus })

def receive (link : BlockingLink) : Except LinkFailure Message × BlockingLink :=
  let (result, bus) := link.bus.receiveBy .blocking link.filter
  (result, { link with bus })

instance : Transport BlockingLink LinkFailure where
  send := send
  receive := receive
  setNodeFilter := fun node link => (.ok (), { link with filter := some node })
  clearNodeFilter := fun link => (.ok (), { link with filter := none })
  horizon := fun link => link.bus.horizon
  horizon_receive_lt := by
    intro link rest message received
    simp only [receive, Prod.mk.injEq] at received
    obtain ⟨result, rfl⟩ := received
    exact Bus.horizon_receiveByWithin_lt (Prod.ext result rfl)
  horizon_send_le := fun message link =>
    Nat.le_of_eq (Bus.horizon_sendBy Bus.horizon_transmit message link.bus)

end BlockingLink

structure PollingLink where
  bus : Bus
  filter : Bus.NodeFilter

namespace PollingLink

def send (message : Message) (link : PollingLink) : Except LinkFailure Unit × PollingLink :=
  let (result, bus) := link.bus.sendBy Bus.offerUntilReady message
  (result, { link with bus })

def receive (link : PollingLink) : Except LinkFailure Message × PollingLink :=
  let (result, bus) := link.bus.receiveBy .polling link.filter
  (result, { link with bus })

instance : Transport PollingLink LinkFailure where
  send := send
  receive := receive
  setNodeFilter := fun node link => (.ok (), { link with filter := some node })
  clearNodeFilter := fun link => (.ok (), { link with filter := none })
  horizon := fun link => link.bus.horizon
  horizon_receive_lt := by
    intro link rest message received
    simp only [receive, Prod.mk.injEq] at received
    obtain ⟨result, rfl⟩ := received
    exact Bus.horizon_receiveByWithin_lt (Prod.ext result rfl)
  horizon_send_le := fun message link =>
    Nat.le_of_eq (Bus.horizon_sendBy Bus.horizon_offerUntilReady message link.bus)

end PollingLink

end CanOpen
