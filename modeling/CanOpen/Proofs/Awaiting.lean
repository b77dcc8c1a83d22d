import CanOpen.Proofs.Faults
import CanOpen.Proofs.Reception
import CanOpen.Proofs.Scripted

/-!
# Waiting for a message that decides

Some calls ask one thing and wait for the first message that answers it.  How that ends is
told by what the transport brings, event by event: the first message that decides is the
last one taken, unless the transport fails before or the budget is used up.  Whatever comes
behind is left for the next call.
-/

set_option autoImplicit false

namespace CanOpen

variable {σ ε φ α β : Type}

/-! ## Transports that bring events in order -/

namespace Transport

variable [Transport σ ε]

/-- What it takes for all transports that are ready for some events to bring them, one by
one and for ever, to someone who asks for the messages of a node.  Nothing is asked of a
transport that failed to send. -/
structure Steady (node : UInt8) (ready : Stream' (Except ε Message) → σ → Prop) : Prop where
  sends : ∀ {events transport rest} (message : Message), ready events transport →
    Transport.send message transport = (.ok (), rest) → ready events rest
  receives : ∀ {events transport}, ready events transport →
    ∃ rest, Transport.receive transport = (events.head, rest) ∧ ready events.tail rest
  filters : ∀ {events transport}, ready events transport →
    ready events (Transport.setNodeFilter node transport).2

def Brings (node : UInt8) (events : Stream' (Except ε Message)) (transport : σ) : Prop :=
  ∃ ready : Stream' (Except ε Message) → σ → Prop, Steady node ready ∧ ready events transport

/-- Whether a transport brings events once it was asked for the messages of a node. -/
def Offers (node : UInt8) (events : Stream' (Except ε Message)) (transport : σ) : Prop :=
  Brings node events (Transport.setNodeFilter node transport).2

namespace Brings

variable {node : UInt8} {events : Stream' (Except ε Message)} {transport rest : σ}

theorem send {message : Message} (brings : Brings node events transport)
    (sent : Transport.send message transport = (.ok (), rest)) : Brings node events rest := by
  obtain ⟨ready, steady, now⟩ := brings
  exact ⟨ready, steady, steady.sends message now sent⟩

theorem receive {event : Except ε Message}
    (brings : Brings node (Stream'.cons event events) transport) :
    ∃ rest, Transport.receive transport = (event, rest) ∧ Brings node events rest := by
  obtain ⟨ready, steady, now⟩ := brings
  obtain ⟨rest, received, later⟩ := steady.receives now
  exact ⟨rest, received, ready, steady, later⟩

theorem offers (brings : Brings node events transport) : Offers node events transport := by
  obtain ⟨ready, steady, now⟩ := brings
  exact ⟨ready, steady, steady.filters now⟩

end Brings

theorem Offers.filtered {node : UInt8} {events : Stream' (Except ε Message)} {transport : σ}
    (offers : Offers node events transport) (remark : ε → Note ε) :
    Brings node events (Exchange.setNodeFilter remark node transport).transport := by
  rw [Exchange.transport_setNodeFilter]
  exact offers

end Transport

open Transport (Brings Offers)

/-! ## How a call comes out -/

def Entry.isUnsent : Entry ε → Bool
  | unsent _ _ => true
  | _ => false

def Unhindered (journal : List (Entry ε)) : Prop :=
  ∀ entry ∈ journal, entry.isUnsent = false

instance (journal : List (Entry ε)) : Decidable (Unhindered journal) :=
  inferInstanceAs (Decidable (∀ _ ∈ _, _ = _))

theorem unhindered_append {left right : List (Entry ε)} :
    Unhindered (left ++ right) ↔ Unhindered left ∧ Unhindered right :=
  List.forall_mem_append

theorem unhindered_of_andThen {run : Run σ ε (Except φ α)}
    {next : α → σ → Run σ ε (Except φ β)} (unhindered : Unhindered (run.andThen next).journal) :
    Unhindered run.journal
    ∧ ∀ value, run.answer = .ok value → Unhindered (next value run.transport).journal := by
  cases answer : run.answer with
  | error failure =>
      rw [Run.andThen_of_error answer] at unhindered
      exact ⟨unhindered, nofun⟩
  | ok value =>
      rw [Run.andThen_of_ok answer] at unhindered
      obtain ⟨first, later⟩ := unhindered_append.1 unhindered
      refine ⟨first, ?_⟩
      rintro _ ⟨⟩
      exact later

/-- Whether a run answers in some way after it sent some messages and took others, and what
the transport that it leaves still brings. -/
structure Run.Settled [Transport σ ε] (run : Run σ ε α) (node : UInt8)
    (requests heard : List Message) (answer : α) (rest : Stream' (Except ε Message)) : Prop where
  answer_eq : run.answer = answer
  sent_eq : sentIn run.journal = requests
  received_eq : receivedIn run.journal = heard
  leaves : Brings node rest run.transport

namespace Run.Settled

variable [Transport σ ε] {node : UInt8} {requests heard : List Message}
  {rest : Stream' (Except ε Message)}

theorem map {run : Run σ ε α} {answer : α} (settled : run.Settled node requests heard answer rest)
    (view : α → β) : (run.map view).Settled node requests heard (view answer) rest :=
  ⟨congrArg view settled.answer_eq, settled.sent_eq, settled.received_eq, settled.leaves⟩

theorem after {run : Run σ ε α} {answer : α} (settled : run.Settled node requests heard answer rest)
    (entries : List (Entry ε)) :
    (run.after entries).Settled node (sentIn entries ++ requests) (receivedIn entries ++ heard)
      answer rest where
  answer_eq := settled.answer_eq
  sent_eq := by rw [Run.after, sentIn_append, settled.sent_eq]
  received_eq := by rw [Run.after, receivedIn_append, settled.received_eq]
  leaves := settled.leaves

theorem stop {run : Run σ ε (Except φ α)} {failure : φ}
    (settled : run.Settled node requests heard (.error failure) rest)
    (next : α → σ → Run σ ε (Except φ β)) :
    (run.andThen next).Settled node requests heard (.error failure) rest := by
  rw [andThen_of_error settled.answer_eq]
  exact ⟨rfl, settled.sent_eq, settled.received_eq, settled.leaves⟩

theorem andThen {run : Run σ ε (Except φ α)} {next : α → σ → Run σ ε (Except φ β)} {value : α}
    {answer : Except φ β} {others more : List Message} {between : Stream' (Except ε Message)}
    (settled : run.Settled node requests heard (.ok value) between)
    (later : (next value run.transport).Settled node others more answer rest) :
    (run.andThen next).Settled node (requests ++ others) (heard ++ more) answer rest := by
  have both := later.after run.journal
  rw [settled.sent_eq, settled.received_eq] at both
  rwa [andThen_of_ok settled.answer_eq]

end Run.Settled

theorem Exchange.sentIn_setNodeFilter [Transport σ ε] (remark : ε → Note ε) (node : UInt8)
    (transport : σ) : sentIn (Exchange.setNodeFilter remark node transport).journal = [] := by
  rw [← sentIn_trafficIn, trafficIn_setNodeFilter, sentIn_nil]

/-! ## Questions that one message answers -/

/-- A question that is put to a node: what a message says to it, if it decides, and what it
is answered with when there is no message or none that decides in time. -/
structure Inquiry (ε φ α : Type) where
  verdict? : Message → Option (Except φ α)
  fault : ε → φ
  late : φ

namespace Inquiry

variable {inquiry : Inquiry ε φ α} {budget : Nat} {events rest : Stream' (Except ε Message)}
  {heard : List Message} {result : Except φ α}

/-- How waiting for the answer ends: which of the events are taken, what comes of it, and what
is left. -/
inductive Settles (inquiry : Inquiry ε φ α) (budget : Nat) :
    (events : Stream' (Except ε Message)) → (heard : List Message) → (result : Except φ α) →
    (rest : Stream' (Except ε Message)) → Prop
  | decided (passed : List Message) {message : Message} {result : Except φ α}
      {rest : Stream' (Except ε Message)}
      (undecided : ∀ other ∈ passed, inquiry.verdict? other = none)
      (within : passed.length < budget) (decides : inquiry.verdict? message = some result) :
      inquiry.Settles budget (passed.map .ok ++ₛ Stream'.cons (.ok message) rest)
        (passed ++ [message]) result rest
  | failed (passed : List Message) {cause : ε} {rest : Stream' (Except ε Message)}
      (undecided : ∀ other ∈ passed, inquiry.verdict? other = none)
      (within : passed.length < budget) :
      inquiry.Settles budget (passed.map .ok ++ₛ Stream'.cons (.error cause) rest) passed
        (.error (inquiry.fault cause)) rest
  | exhausted (passed : List Message) {rest : Stream' (Except ε Message)}
      (undecided : ∀ other ∈ passed, inquiry.verdict? other = none)
      (used : passed.length = budget) :
      inquiry.Settles budget (passed.map .ok ++ₛ rest) passed (.error inquiry.late) rest

theorem Settles.pass {message : Message} (ignored : inquiry.verdict? message = none)
    (settles : inquiry.Settles budget events heard result rest) :
    inquiry.Settles (budget + 1) (Stream'.cons (.ok message) events) (message :: heard) result
      rest := by
  cases settles with
  | decided passed undecided within decides =>
      exact .decided (message :: passed) (List.forall_mem_cons.2 ⟨ignored, undecided⟩)
        (Nat.succ_lt_succ within) decides
  | failed _ undecided within =>
      exact .failed (message :: heard) (List.forall_mem_cons.2 ⟨ignored, undecided⟩)
        (Nat.succ_lt_succ within)
  | exhausted _ undecided used =>
      exact .exhausted (message :: heard) (List.forall_mem_cons.2 ⟨ignored, undecided⟩)
        (congrArg Nat.succ used)

theorem exists_settles (inquiry : Inquiry ε φ α) (budget : Nat)
    (events : Stream' (Except ε Message)) :
    ∃ heard result rest, inquiry.Settles budget events heard result rest := by
  have unpassed : ∀ other ∈ [], inquiry.verdict? other = none := List.forall_mem_nil _
  induction budget generalizing events with
  | zero => exact ⟨[], _, events, .exhausted [] unpassed rfl⟩
  | succ budget inductionHypothesis =>
      -- One event more is taken: it ends the waiting unless it is a message that does not decide.
      rw [← Stream'.eta events]
      cases event : events.head with
      | error cause =>
          exact ⟨[], _, events.tail, .failed [] unpassed (Nat.succ_pos budget)⟩
      | ok message =>
          cases verdict : inquiry.verdict? message with
          | some result =>
              exact ⟨[message], result, events.tail,
                .decided [] unpassed (Nat.succ_pos budget) verdict⟩
          | none =>
              obtain ⟨heard, result, rest, settles⟩ := inductionHypothesis events.tail
              exact ⟨message :: heard, result, rest, settles.pass verdict⟩

/-- Whether a loop receives messages until one decides, at most so many. -/
structure Waits [Transport σ ε] (inquiry : Inquiry ε φ α)
    (loop : Nat → σ → Run σ ε (Except φ α)) : Prop where
  exhausted : ∀ transport, loop 0 transport = ⟨.error inquiry.late, transport, []⟩
  failed : ∀ {transport rest cause} (left : Nat),
    Transport.receive transport = (.error cause, rest) →
      loop (left + 1) transport = ⟨.error (inquiry.fault cause), rest, [.unreceived cause]⟩
  decided : ∀ {transport rest message result} (left : Nat),
    Transport.receive transport = (.ok message, rest) → inquiry.verdict? message = some result →
      ∃ notes : List (Note ε),
        loop (left + 1) transport = ⟨result, rest, .received message :: notes.map .noted⟩
  passed : ∀ {transport rest message} (left : Nat),
    Transport.receive transport = (.ok message, rest) → inquiry.verdict? message = none →
      ∃ notes : List (Note ε),
        loop (left + 1) transport
          = (loop left rest).after (.received message :: notes.map .noted)

section Waits

variable [Transport σ ε] {loop : Nat → σ → Run σ ε (Except φ α)} {node : UInt8} {transport : σ}

/-- Messages that do not decide use up budget and do nothing else. -/
theorem Waits.passing (waits : inquiry.Waits loop) {passed : List Message}
    (undecided : ∀ other ∈ passed, inquiry.verdict? other = none) (left : Nat)
    (brings : Brings node (passed.map .ok ++ₛ events) transport) :
    ∃ between entries, Brings node events between ∧ sentIn entries = []
      ∧ receivedIn entries = passed
      ∧ loop (passed.length + left) transport = (loop left between).after entries := by
  induction passed generalizing transport with
  | nil =>
      rw [List.length_nil, Nat.zero_add]
      exact ⟨transport, [], brings, rfl, rfl, rfl⟩
  | cons message others inductionHypothesis =>
      obtain ⟨ignored, undecidedOthers⟩ := List.forall_mem_cons.1 undecided
      obtain ⟨next, received, later⟩ := brings.receive
      obtain ⟨between, entries, ahead, unsent, receivedOthers, loops⟩ :=
        inductionHypothesis undecidedOthers later
      obtain ⟨notes, passes⟩ := waits.passed (others.length + left) received ignored
      refine ⟨between, .received message :: notes.map .noted ++ entries, ahead, ?_, ?_, ?_⟩
      · simp [Entry.sent?, unsent]
      · simp [Entry.received?, receivedOthers]
      · have more : (message :: others).length + left = others.length + left + 1 := by
          rw [List.length_cons]
          omega
        rw [more, passes, loops]
        simp [Run.after]

theorem Waits.offeredIn_eq (waits : inquiry.Waits loop) (left : Nat) (transport : σ) :
    offeredIn (loop left transport).journal = [] := by
  induction left generalizing transport with
  | zero =>
      rw [waits.exhausted]
      rfl
  | succ left inductionHypothesis =>
      cases received : Transport.receive transport with
      | mk arrival rest =>
          cases arrival with
          | error cause =>
              rw [waits.failed left received]
              rfl
          | ok message =>
              cases verdict : inquiry.verdict? message with
              | some result =>
                  obtain ⟨notes, ends⟩ := waits.decided left received verdict
                  rw [ends]
                  simp [Entry.offered?]
              | none =>
                  obtain ⟨notes, passes⟩ := waits.passed left received verdict
                  rw [passes]
                  simp [Run.after, Entry.offered?, inductionHypothesis]

theorem Waits.settled (waits : inquiry.Waits loop)
    (settles : inquiry.Settles budget events heard result rest)
    (brings : Brings node events transport) :
    (loop budget transport).Settled node [] heard result rest := by
  cases settles with
  | decided _ undecided within decides =>
      obtain ⟨left, rfl⟩ := Nat.exists_eq_add_of_lt within
      obtain ⟨between, entries, ahead, unsent, received, loops⟩ :=
        waits.passing undecided (left + 1) brings
      obtain ⟨next, arrived, later⟩ := ahead.receive
      obtain ⟨notes, ends⟩ := waits.decided left arrived decides
      rw [Nat.add_assoc, loops, ends]
      refine ⟨rfl, ?_, ?_, later⟩
      · simp [Run.after, Entry.sent?, unsent]
      · simp [Run.after, Entry.received?, received]
  | failed _ undecided within =>
      obtain ⟨left, rfl⟩ := Nat.exists_eq_add_of_lt within
      obtain ⟨between, entries, ahead, unsent, received, loops⟩ :=
        waits.passing undecided (left + 1) brings
      obtain ⟨next, arrived, later⟩ := ahead.receive
      rw [Nat.add_assoc, loops, waits.failed left arrived]
      refine ⟨rfl, ?_, ?_, later⟩
      · simp [Run.after, Entry.sent?, unsent]
      · simp [Run.after, Entry.received?, received]
  | exhausted _ undecided used =>
      obtain ⟨between, entries, ahead, unsent, received, loops⟩ :=
        waits.passing undecided 0 brings
      rw [← used, ← Nat.add_zero (List.length _), loops, waits.exhausted]
      refine ⟨rfl, ?_, ?_, ahead⟩
      · simp [Run.after, unsent]
      · simp [Run.after, received]

end Waits

end Inquiry

/-! ## One request and its answer -/

section Requests

variable [Transport σ ε] {node : UInt8} {events rest : Stream' (Except ε Message)}
  {heard : List Message} {transport : σ}

theorem Transport.Brings.sends {message : Message} (brings : Brings node events transport)
    (unhindered : Unhindered (Exchange.send message transport).journal) :
    ∃ rest, Exchange.send message transport
        = (⟨.ok (), rest, [.sent message]⟩ : Run σ ε (Except ε Unit))
      ∧ Brings node events rest := by
  unfold Exchange.send at unhindered ⊢
  split
  next rest sent => exact ⟨rest, rfl, brings.send sent⟩
  next cause rest unsent =>
    rw [unsent] at unhindered
    exact absurd (unhindered _ List.mem_cons_self) Bool.noConfusion

theorem Run.Settled.filtered {run : Run σ ε α} {requests : List Message} {answer : α}
    (settled : run.Settled node requests heard answer rest) (remark : ε → Note ε) :
    (run.after (Exchange.setNodeFilter remark node transport).journal).Settled node requests heard
      answer rest := by
  have behind := settled.after (Exchange.setNodeFilter remark node transport).journal
  rwa [Exchange.sentIn_setNodeFilter, receivedIn_setNodeFilter] at behind

variable {S : Type} {inquiry : Inquiry ε (Sdo.Failure ε) α} {transfer : Sdo.Transfer ε S α}
  {result : Except (Sdo.Failure ε) α} {request : Message}
  (waits : inquiry.Waits fun left (transport : σ) =>
    (transfer.await transfer.initial left transport).map Sdo.Ending.result)
  (settles : inquiry.Settles transfer.budget events heard result rest)
include waits settles

theorem Inquiry.Waits.settled_start (brings : Brings transfer.node events transport)
    (unhindered : Unhindered (transfer.start request transport).journal) :
    ((transfer.start request transport).map Sdo.Ending.result).Settled transfer.node [request]
      heard result rest := by
  -- Whether or not the request is sent, the journal of sending it comes first.
  have sending : Unhindered (Exchange.send request transport).journal := by
    unfold Sdo.Transfer.start at unhindered
    simp only at unhindered
    split at unhindered
    · exact unhindered
    · exact (unhindered_append.1 unhindered).1
  obtain ⟨between, sent, later⟩ := brings.sends sending
  rw [Sdo.Transfer.start, sent]
  exact (waits.settled settles later).after [.sent request]

/-- A transfer that one reply decides sends its request and takes no more than it waits for. -/
theorem Inquiry.Waits.settled_run (built : transfer.request = .ok request)
    (offers : Offers transfer.node events transport)
    (unhindered : Unhindered (transfer.run transport).journal) :
    ((transfer.run transport).map Sdo.Ending.result).Settled transfer.node [request] heard result
      rest := by
  rw [Sdo.Transfer.run, built] at unhindered ⊢
  have brings := offers.filtered (.transferUnfiltered transfer.node)
  have starts := waits.settled_start settles brings (unhindered_append.1 unhindered).2
  exact starts.filtered (.transferUnfiltered transfer.node)

omit settles in
theorem Inquiry.Waits.offeredIn_run (built : transfer.request = .ok request) (transport : σ) :
    offeredIn (transfer.run transport).journal = [request] := by
  have unoffered (between : σ) :
      offeredIn (transfer.await transfer.initial transfer.budget between).journal = [] :=
    waits.offeredIn_eq transfer.budget between
  rw [Sdo.Transfer.run, built, ← offeredIn_trafficIn]
  simp only [Run.after, trafficIn_append, Exchange.trafficIn_setNodeFilter, List.nil_append]
  rw [offeredIn_trafficIn, Sdo.Transfer.start]
  obtain ⟨between, sent⟩ | ⟨cause, between, unsent⟩ := Exchange.send_cases (ε := ε) request
    (Exchange.setNodeFilter (.transferUnfiltered transfer.node) transfer.node transport).transport
  · simp [sent, Run.after, Entry.offered?, unoffered]
  · simp [unsent, Entry.offered?]

end Requests

/-! ## What is received of what is brought -/

def Entry.taken? : Entry ε → Option (Except ε Message)
  | received message => some (.ok message)
  | unreceived cause => some (.error cause)
  | _ => none

def takenIn (journal : List (Entry ε)) : List (Except ε Message) :=
  journal.filterMap Entry.taken?

section Receptions

variable [Transport σ ε] {node : UInt8} {events : Stream' (Except ε Message)}

/-- The events that a transport brings are received one by one, as long as all that is handed to
it is sent. -/
theorem Transport.Brings.taken {journal : List (Entry ε)} {s t : σ}
    (brings : Brings node events s) (records : Records (trafficIn journal) s t)
    (unhindered : Unhindered (trafficIn journal)) :
    ∃ rest, events = takenIn (trafficIn journal) ++ₛ rest := by
  induction journal generalizing s events with
  | nil => exact ⟨events, rfl⟩
  | cons entry others inductionHypothesis =>
      cases entry with
      | sent message =>
          obtain ⟨between, sent, remaining⟩ := records
          exact inductionHypothesis (brings.send sent) remaining
            (List.forall_mem_cons.1 unhindered).2
      | unsent message cause =>
          exact absurd (unhindered _ List.mem_cons_self) Bool.noConfusion
      | received message | unreceived cause =>
          obtain ⟨between, received, remaining⟩ := records
          rw [← Stream'.eta events] at brings
          obtain ⟨next, arrives, later⟩ := brings.receive
          obtain ⟨head, rfl⟩ := Prod.mk.inj (received.symm.trans arrives)
          obtain ⟨rest, behind⟩ := inductionHypothesis later remaining
            (List.forall_mem_cons.1 unhindered).2
          refine ⟨rest, ?_⟩
          rw [← Stream'.eta events, behind, ← head]
          rfl
      | filtered other | unfiltered other cause | noted note =>
          exact inductionHypothesis brings records unhindered

/-- A transfer receives the events that a transport offers to it, from the first one on. -/
theorem Sdo.Transfer.taken_run {S : Type} {transfer : Sdo.Transfer ε S α} {request : Message}
    (built : transfer.request = .ok request) {transport : σ}
    (offers : Offers transfer.node events transport)
    (unhindered : Unhindered (transfer.run transport).journal) :
    ∃ rest, events = takenIn (trafficIn (transfer.run transport).journal) ++ₛ rest := by
  rw [Sdo.Transfer.run, built] at unhindered ⊢
  have brings := offers.filtered (.transferUnfiltered transfer.node)
  have records := (Sdo.recorded_start transfer request (Exchange.setNodeFilter
    (.transferUnfiltered transfer.node) transfer.node transport).transport).deedsIn
  rw [Sdo.deedsIn_start] at records
  have sends := (unhindered_append.1 unhindered).2
  have traffic := brings.taken records fun entry member =>
    sends entry (List.mem_of_mem_filter member)
  simpa only [Run.after, trafficIn_append, Exchange.trafficIn_setNodeFilter, List.nil_append]
    using traffic

end Receptions

/-! ## Links -/

namespace Bus

/-- What an arrival is read as by someone who receives through a filter, if it is let
through. -/
def NodeFilter.reading? (filter : NodeFilter) : Arrival → Option (Except LinkFailure Message)
  | .error reason => some (.error (.bus reason))
  | .ok frame =>
      if filter.accepts frame.id then some ((Message.parse frame).mapError .codec) else none

def NodeFilter.readings (filter : NodeFilter) (arrivals : List Arrival) :
    Stream' (Except LinkFailure Message) :=
  arrivals.filterMap filter.reading? ++ₛ Stream'.const (.error (.bus "no frame"))

section Readings

variable {filter : NodeFilter} {frame : Can.Reported} (arrivals : List Arrival)

theorem readings_of_accepted (accepted : filter.accepts frame.id = true) :
    filter.readings (.ok frame :: arrivals)
      = Stream'.cons ((Message.parse frame).mapError .codec) (filter.readings arrivals) := by
  have read : filter.reading? (.ok frame) = some ((Message.parse frame).mapError .codec) :=
    if_pos accepted
  rw [NodeFilter.readings, List.filterMap_cons_some read]
  rfl

theorem readings_of_parse {message : Message} (accepted : filter.accepts frame.id = true)
    (parsed : Message.parse frame = .ok message) :
    filter.readings (.ok frame :: arrivals)
      = Stream'.cons (.ok message) (filter.readings arrivals) := by
  rw [readings_of_accepted arrivals accepted, parsed, Except.mapError]

theorem readings_of_dropped (dropped : filter.accepts frame.id = false) :
    filter.readings (.ok frame :: arrivals) = filter.readings arrivals := by
  have unread : filter.reading? (.ok frame) = none := if_neg (Bool.eq_false_iff.1 dropped)
  rw [NodeFilter.readings, List.filterMap_cons_none unread, NodeFilter.readings]

end Readings

namespace Outlook

def readings (filter : NodeFilter) (outlook : Outlook) : Stream' (Except LinkFailure Message) :=
  filter.readings outlook.arrivals

theorem readings_sendBy (filter : NodeFilter) (message : Message) (outlook : Outlook) :
    (outlook.sendBy message).2.readings filter = outlook.readings filter := by
  rw [readings, readings, arrivals_sendBy]

theorem receiveFrom_readings (filter : NodeFilter) (outlook : Outlook) (arrivals : List Arrival) :
    filter.readings arrivals
      = Stream'.cons (receiveFrom filter outlook arrivals).1
          ((receiveFrom filter outlook arrivals).2.readings filter) := by
  induction arrivals generalizing outlook with
  | nil => exact Stream'.const_eq _
  | cons arrival arrivals inductionHypothesis =>
      cases arrival with
      | error reason => rfl
      | ok frame =>
          by_cases accepted : filter.accepts frame.id = true
          · rw [readings_of_accepted arrivals accepted, receiveFrom, if_pos accepted]
            rfl
          · rw [readings_of_dropped arrivals (Bool.eq_false_iff.2 accepted), receiveFrom,
              if_neg accepted]
            exact inductionHypothesis _

theorem receiveBy_readings (filter : NodeFilter) (outlook : Outlook) :
    outlook.readings filter = Stream'.cons (outlook.receiveBy filter).1
      ((outlook.receiveBy filter).2.readings filter) :=
  receiveFrom_readings filter outlook outlook.arrivals

end Outlook

end Bus

namespace IsAdapter

variable [Transport σ LinkFailure] {bus : σ → Bus} {filter : σ → Bus.NodeFilter}

theorem steady (adapter : IsAdapter bus filter) (node : UInt8) :
    Transport.Steady node fun events link =>
      filter link = some node ∧ (bus link).outlook.readings (some node) = events where
  sends := by
    rintro _ link rest message ⟨own, rfl⟩ sent
    have kept := adapter.filter_send message link
    have ahead := adapter.outlook_send message link
    rw [sent] at kept ahead
    exact ⟨kept.trans own, by rw [ahead, Bus.Outlook.readings_sendBy]⟩
  receives := by
    rintro _ link ⟨own, rfl⟩
    have received := adapter.receive link
    have kept := adapter.filter_receive link
    rw [own] at received kept
    have first := (bus link).outlook.receiveBy_readings (some node)
    rw [← received] at first
    refine ⟨(Transport.receive link).2, ?_, kept, ?_⟩
    · rw [first]
      rfl
    · rw [first]
      rfl
  filters := by
    rintro _ link ⟨_, rfl⟩
    obtain ⟨_, sameBus, own⟩ := adapter.setNodeFilter node link
    exact ⟨own, by rw [sameBus]⟩

theorem offers (adapter : IsAdapter bus filter) (node : UInt8) (link : σ) :
    Offers node ((bus link).outlook.readings (some node)) link := by
  obtain ⟨_, sameBus, own⟩ := adapter.setNodeFilter node link
  exact ⟨_, adapter.steady node, own, by rw [sameBus]⟩

end IsAdapter

namespace PlainLink

theorem steady (node : UInt8) :
    Transport.Steady node fun events (link : PlainLink) =>
      link.bus.outlook.readings none = events where
  sends := by
    rintro _ link rest message rfl sent
    have ahead := congrArg Prod.snd (link.outlook_send message)
    have sent' : link.send message = (.ok (), rest) := sent
    rw [sent'] at ahead
    exact (congrArg (·.readings none) ahead).trans (Bus.Outlook.readings_sendBy _ _ _)
  receives := by
    rintro _ link rfl
    have received := link.outlook_receive
    have first := link.bus.outlook.receiveBy_readings none
    rw [← received] at first
    refine ⟨(Transport.receive link).2, ?_, ?_⟩
    · rw [first]
      rfl
    · rw [first]
      rfl
  filters := by
    rintro _ link rfl
    exact congrArg (·.readings none) (link.outlook_setNodeFilter node)

theorem offers (node : UInt8) (link : PlainLink) :
    Offers node (link.bus.outlook.readings none) link :=
  ⟨_, steady node, congrArg (·.readings none) (link.outlook_setNodeFilter node)⟩

end PlainLink

end CanOpen
