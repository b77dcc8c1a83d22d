import CanOpen.Proofs.Disturbance
import CanOpen.Proofs.Rejection
import Mathlib.Data.Stream.Init

/-!
# What an adapter takes off its bus

A link with a filter takes frames off its bus until one comes that is not dropped, or until
the bus fails.  Over a whole session nothing else is lost and nothing comes twice: what the
receptions took, one after the other, is what lay ahead of the link at the beginning, up to
what still lies ahead of it at the end.
-/

set_option autoImplicit false

namespace CanOpen

open Bus (NodeFilter)

/-! ## What is dropped -/

/-- Whether a filter drops a frame: its identifier is a standard one with the low seven
bits of another node than the one asked for. -/
def Bus.NodeFilter.Drops (filter : NodeFilter) (frame : Can.Reported) : Prop :=
  ∃ node id, filter = some node ∧ frame.id = .standard id ∧ id.val % 128 ≠ node.toNat

namespace Bus.NodeFilter

variable {filter : NodeFilter} {frame : Can.Reported}

theorem drops_iff : filter.Drops frame ↔ filter.accepts frame.id = false := by
  cases filter with
  | none => simp [Drops, accepts]
  | some node => cases known : frame.id <;> simp [Drops, accepts, Can.Identifier.cobId?, known]

theorem Drops.addressing (dropped : filter.Drops frame) : frame.id.addressing = .standard := by
  obtain ⟨node, id, _, standard, _⟩ := dropped
  rw [standard]
  rfl

theorem Drops.node_ne {node : UInt8} (dropped : Drops (some node) frame) {message : Message}
    (read : Message.parse frame = .ok message) : message.node ≠ node.toUInt32 := by
  obtain ⟨_, _, _, rfl⟩ := Message.parse_eq_ok_iff.1 read
  obtain ⟨_, id, ⟨⟩, standard, other⟩ := dropped
  intro same
  have values := congrArg UInt32.toNat same
  rw [standard, Can.Identifier.node, UInt32.toNat_ofNat', UInt8.toNat_toUInt32] at values
  omega

theorem mod_eq_of_not_drops {node : UInt8} (spared : ¬ Drops (some node) frame)
    {id : Fin 0x800} (standard : frame.id = .standard id) : id.val % 128 = node.toNat := by
  by_contra other
  exact spared ⟨node, id, rfl, standard, other⟩

end Bus.NodeFilter

/-! ## One reception -/

/-- What one reception takes off a bus: frames that it drops and what it then brings. -/
structure Intake where
  dropped : List Can.Reported
  brought : Arrival
  deriving DecidableEq

namespace Intake

def taken (intake : Intake) : List Arrival :=
  intake.dropped.map .ok ++ [intake.brought]

def result (intake : Intake) : Except LinkFailure Message :=
  match intake.brought with
  | .error reason => .error (.bus reason)
  | .ok frame => (Message.parse frame).mapError .codec

def drop (frame : Can.Reported) (intake : Intake) : Intake :=
  { intake with dropped := frame :: intake.dropped }

theorem taken_drop (frame : Can.Reported) (intake : Intake) :
    (intake.drop frame).taken = .ok frame :: intake.taken := rfl

/-- Whether all that is dropped is for the filter to drop, and what is brought is not. -/
structure Respects (intake : Intake) (filter : NodeFilter) : Prop where
  dropped : ∀ frame ∈ intake.dropped, filter.Drops frame
  brought : ∀ frame, intake.brought = .ok frame → ¬ filter.Drops frame

theorem respects_failure (filter : NodeFilter) (reason : String) :
    Respects ⟨[], .error reason⟩ filter := by
  refine ⟨List.forall_mem_nil _, ?_⟩
  rintro _ ⟨⟩

theorem respects_frame {filter : NodeFilter} {frame : Can.Reported}
    (spared : ¬ filter.Drops frame) : Respects ⟨[], .ok frame⟩ filter := by
  refine ⟨List.forall_mem_nil _, ?_⟩
  rintro _ ⟨⟩
  exact spared

/-- Whether only frames of other nodes than the one asked for are passed over, and whether
such a frame is not read even if it is malformed. -/
structure Spares (intake : Intake) (filter : NodeFilter) : Prop where
  extended : ∀ frame ∈ intake.dropped, frame.id.addressing = .standard
  ofNode : ∀ node, filter = some node → ∀ frame ∈ intake.dropped, ∀ message,
    Message.parse frame = .ok message → message.node ≠ node.toUInt32
  unfiltered : filter = none → intake.dropped = []
  /-- A standard frame that cannot be read does not surface unless it is one of the node. -/
  malformed : ∀ node, filter = some node → ∀ cause, intake.result = .error (.codec cause) →
    ∃ frame, intake.brought = .ok frame ∧ Message.parse frame = .error cause
      ∧ ∀ id, frame.id = .standard id → id.val % 128 = node.toNat

theorem exists_frame_of_codec {intake : Intake} {cause : CodecError}
    (unread : intake.result = .error (.codec cause)) :
    ∃ frame, intake.brought = .ok frame ∧ Message.parse frame = .error cause := by
  obtain ⟨dropped, brought⟩ := intake
  cases brought with
  | error reason => cases unread
  | ok frame =>
      refine ⟨frame, rfl, ?_⟩
      cases parsed : Message.parse frame with
      | error other =>
          simp only [result, parsed, Except.mapError, Except.error.injEq,
            LinkFailure.codec.injEq] at unread
          rw [unread]
      | ok message =>
          simp only [result, parsed, Except.mapError, reduceCtorEq] at unread

theorem Respects.spares {intake : Intake} {filter : NodeFilter}
    (respects : intake.Respects filter) : intake.Spares filter where
  extended frame member := (respects.dropped frame member).addressing
  ofNode := by
    rintro node rfl frame member message read
    exact (respects.dropped frame member).node_ne read
  unfiltered := by
    rintro rfl
    apply List.eq_nil_iff_forall_not_mem.2
    intro frame member
    obtain ⟨_, _, unset, _⟩ := respects.dropped frame member
    cases unset
  malformed := by
    rintro node rfl cause unread
    obtain ⟨frame, brought, parsed⟩ := exists_frame_of_codec unread
    refine ⟨frame, brought, parsed, fun id standard => ?_⟩
    exact Bus.NodeFilter.mod_eq_of_not_drops (respects.brought frame brought) standard

end Intake

/-! ## All that lies ahead -/

namespace Bus.Outlook

/-- What arrives, for ever: once there is nothing left the bus fails each time. -/
def stream (outlook : Outlook) : Stream' Arrival :=
  outlook.arrivals ++ₛ Stream'.const (.error "no frame")

theorem stream_sendBy (message : Message) (outlook : Outlook) :
    (outlook.sendBy message).2.stream = outlook.stream := by
  rw [stream, stream, arrivals_sendBy]

theorem receiveFrom_takes (filter : NodeFilter) (outlook : Outlook) (arrivals : List Arrival) :
    ∃ intake : Intake, intake.Respects filter
      ∧ (receiveFrom filter outlook arrivals).1 = intake.result
      ∧ arrivals ++ₛ Stream'.const (.error "no frame")
        = intake.taken ++ₛ (receiveFrom filter outlook arrivals).2.stream := by
  induction arrivals generalizing outlook with
  | nil =>
      -- A bus with nothing left fails, and the same failure lies ahead again.
      refine ⟨⟨[], .error "no frame"⟩, Intake.respects_failure filter _, rfl, ?_⟩
      exact Stream'.const_eq _
  | cons arrival arrivals inductionHypothesis =>
      cases arrival with
      | error reason =>
          exact ⟨⟨[], .error reason⟩, Intake.respects_failure filter reason, rfl, rfl⟩
      | ok frame =>
          by_cases accepted : filter.accepts frame.id = true
          · have spared : ¬ filter.Drops frame := by
              rw [NodeFilter.drops_iff, accepted]
              exact Bool.noConfusion
            rw [receiveFrom, if_pos accepted]
            exact ⟨⟨[], .ok frame⟩, Intake.respects_frame spared, rfl, rfl⟩
          · have dropped : filter.Drops frame :=
              NodeFilter.drops_iff.2 (Bool.eq_false_iff.2 accepted)
            -- Dropping a frame counts it as delivered, so the hypothesis is needed for
            -- another outlook than the one at hand.
            let later : Outlook := { outlook with delivered := outlook.delivered + 1 }
            obtain ⟨intake, respects, result, takes⟩ := inductionHypothesis later
            rw [receiveFrom, if_neg accepted]
            refine ⟨intake.drop frame, ⟨?_, respects.brought⟩, result, ?_⟩
            · exact List.forall_mem_cons.2 ⟨dropped, respects.dropped⟩
            · rw [Intake.taken_drop, Stream'.cons_append_stream, Stream'.cons_append_stream, takes]

theorem receiveBy_takes (filter : NodeFilter) (outlook : Outlook) :
    ∃ intake : Intake, intake.Respects filter ∧ (outlook.receiveBy filter).1 = intake.result
      ∧ outlook.stream = intake.taken ++ₛ (outlook.receiveBy filter).2.stream :=
  receiveFrom_takes filter outlook outlook.arrivals

end Bus.Outlook

/-! ## Links that filter -/

section Adapters

variable {σ : Type} [Transport σ LinkFailure] {bus : σ → Bus} {filter : σ → NodeFilter}

/-- Whether a transport is a bus from which it receives through a filter of its own. -/
structure IsAdapter (bus : σ → Bus) (filter : σ → NodeFilter) : Prop
    extends IsFiltering bus filter where
  receive : ∀ link : σ, (Transport.receive link).map id (fun rest => (bus rest).outlook)
    = (bus link).outlook.receiveBy (filter link)
  filter_receive : ∀ link : σ, filter (Transport.receive link).2 = filter link
  outlook_send : ∀ (message : Message) (link : σ),
    (bus (Transport.send message link).2).outlook = ((bus link).outlook.sendBy message).2
  filter_send : ∀ (message : Message) (link : σ),
    filter (Transport.send message link).2 = filter link

theorem BlockingLink.isAdapter : IsAdapter BlockingLink.bus BlockingLink.filter where
  toIsFiltering := isFiltering
  receive := outlook_receive
  filter_receive _ := rfl
  outlook_send message link := congrArg Prod.snd (outlook_send message link)
  filter_send _ _ := rfl

theorem PollingLink.isAdapter : IsAdapter PollingLink.bus PollingLink.filter where
  toIsFiltering := isFiltering
  receive := outlook_receive
  filter_receive _ := rfl
  outlook_send message link := congrArg Prod.snd (outlook_send message link)
  filter_send _ _ := rfl

namespace IsAdapter

theorem receive_takes (adapter : IsAdapter bus filter) (link : σ) :
    ∃ intake : Intake, intake.Respects (filter link)
      ∧ (Transport.receive link).1 = intake.result
      ∧ (bus link).outlook.stream
        = intake.taken ++ₛ (bus (Transport.receive link).2).outlook.stream := by
  have received := adapter.receive link
  obtain ⟨intake, respects, result, takes⟩ :=
    (bus link).outlook.receiveBy_takes (filter link)
  rw [← received] at result takes
  exact ⟨intake, respects, result, takes⟩

theorem stream_send (adapter : IsAdapter bus filter) (message : Message) (link : σ) :
    (bus (Transport.send message link).2).outlook.stream = (bus link).outlook.stream := by
  rw [adapter.outlook_send, Bus.Outlook.stream_sendBy]

end IsAdapter

end Adapters

/-! ## Sessions of single operations -/

namespace Operation

def IsSingle : Operation → Prop
  | setNodeFilter _ | clearNodeFilter | send _ | receive => True
  | transfer _ _ | moduleControl _ _ | guarding _ _ => False

def filterAfter (filter : NodeFilter) : Operation → NodeFilter
  | setNodeFilter node => some node
  | clearNodeFilter => none
  | _ => filter

end Operation

def filtersAtReceptions (filter : NodeFilter) : List Operation → List NodeFilter
  | [] => []
  | .receive :: later => filter :: filtersAtReceptions filter later
  | operation :: later => filtersAtReceptions (operation.filterAfter filter) later

theorem filtersAtReceptions_cons (filter : NodeFilter) (operation : Operation)
    (later : List Operation) :
    filtersAtReceptions filter (operation :: later)
      = filtersAtReceptions filter [operation]
        ++ filtersAtReceptions (operation.filterAfter filter) later := by
  cases operation <;> rfl

def Outcome.received? {ε : Type} : Outcome ε → Option (Except ε Message)
  | message result => some result
  | _ => none

section Sessions

variable {σ ε : Type} [Transport σ ε]

def leaving (operations : List Operation) (transport : σ) : σ :=
  operations.foldl (fun transport operation => (operation.perform transport).transport) transport

def receptionsIn (runs : List (Run σ ε (Outcome ε))) : List (Except ε Message) :=
  runs.filterMap (·.answer.received?)

end Sessions

section Faithful

variable {σ : Type} [Transport σ LinkFailure]

/-- Whether the receptions among some operations take, each behind the one before, what lies
ahead of a link until what is left in the end, and bring the last of what each takes. -/
structure Faithful (bus : σ → Bus) (filter : σ → NodeFilter) (operations : List Operation)
    (link : σ) (intakes : List Intake) : Prop where
  takes : (bus link).outlook.stream
    = intakes.flatMap Intake.taken ++ₛ (bus (leaving operations link)).outlook.stream
  brings : receptionsIn (session operations link) = intakes.map Intake.result
  respects : List.Forall₂ Intake.Respects intakes (filtersAtReceptions (filter link) operations)
  filter_eq : filter (leaving operations link)
    = operations.foldl Operation.filterAfter (filter link)

variable {bus : σ → Bus} {filter : σ → NodeFilter}

theorem Faithful.cons {operation : Operation} {later : List Operation} {link : σ}
    {before behind : List Intake} (first : Faithful bus filter [operation] link before)
    (others : Faithful bus filter later (operation.perform link).transport behind) :
    Faithful bus filter (operation :: later) link (before ++ behind) where
  takes := by
    rw [List.flatMap_append, Stream'.append_append_stream]
    exact first.takes.trans (congrArg _ others.takes)
  brings := by
    rw [List.map_append, ← first.brings, ← others.brings]
    exact List.filterMap_append (l := [operation.perform link])
  respects := by
    have leaves : filter (operation.perform link).transport
        = operation.filterAfter (filter link) := first.filter_eq
    have respects := others.respects
    rw [leaves] at respects
    rw [filtersAtReceptions_cons]
    exact List.rel_append first.respects respects
  filter_eq := by
    have leaves : filter (operation.perform link).transport
        = operation.filterAfter (filter link) := first.filter_eq
    rw [List.foldl_cons, ← leaves]
    exact others.filter_eq

theorem Faithful.spares {operations : List Operation} {link : σ} {intakes : List Intake}
    (faithful : Faithful bus filter operations link intakes) :
    List.Forall₂ Intake.Spares intakes (filtersAtReceptions (filter link) operations) :=
  faithful.respects.imp fun _ _ respects => respects.spares

/-- A reception takes one intake, every other single operation none. -/
theorem IsAdapter.faithful_single (adapter : IsAdapter bus filter) {operation : Operation}
    (single : operation.IsSingle) (link : σ) :
    ∃ intakes, Faithful bus filter [operation] link intakes := by
  cases operation with
  | setNodeFilter node =>
      obtain ⟨_, sameBus, filter_eq⟩ := adapter.setNodeFilter node link
      refine ⟨[], ?_, rfl, .nil, filter_eq⟩
      exact congrArg (·.outlook.stream) sameBus.symm
  | clearNodeFilter =>
      obtain ⟨_, sameBus, filter_eq⟩ := adapter.clearNodeFilter link
      refine ⟨[], ?_, rfl, .nil, filter_eq⟩
      exact congrArg (·.outlook.stream) sameBus.symm
  | send message =>
      exact ⟨[], (adapter.stream_send message link).symm, rfl, .nil,
        adapter.filter_send message link⟩
  | receive =>
      obtain ⟨intake, respects, result, takes⟩ := adapter.receive_takes link
      refine ⟨[intake], ?_, ?_, .cons respects .nil, adapter.filter_receive link⟩
      · rw [List.flatMap_cons, List.flatMap_nil, List.append_nil]
        exact takes
      · exact congrArg (fun result => [result]) result
  | transfer config call => cases single
  | moduleControl command node => cases single
  | guarding node rounds => cases single

theorem IsAdapter.faithful (adapter : IsAdapter bus filter) {operations : List Operation}
    (single : ∀ operation ∈ operations, operation.IsSingle) (link : σ) :
    ∃ intakes, Faithful bus filter operations link intakes := by
  induction operations generalizing link with
  | nil => exact ⟨[], rfl, rfl, .nil, rfl⟩
  | cons operation later inductionHypothesis =>
      obtain ⟨here, behind⟩ := List.forall_mem_cons.1 single
      obtain ⟨intakes, first⟩ := adapter.faithful_single here link
      obtain ⟨others, faithful⟩ := inductionHypothesis behind (operation.perform link).transport
      exact ⟨intakes ++ others, first.cons faithful⟩

end Faithful

theorem Intake.brought_sublist (intakes : List Intake) :
    (intakes.map brought).Sublist (intakes.flatMap taken) := by
  induction intakes with
  | nil => exact .refl []
  | cons intake intakes inductionHypothesis =>
      have last : [intake.brought].Sublist intake.taken := List.sublist_append_right _ _
      exact last.append inductionHypothesis

/-- Whether the receptions among some operations lose nothing and invent nothing. -/
def ReceivesFaithfully {σ : Type} [Transport σ LinkFailure] (bus : σ → Bus)
    (filter : σ → NodeFilter) (operations : List Operation) (link : σ) : Prop :=
  ∃ intakes, Faithful bus filter operations link intakes
    ∧ List.Forall₂ Intake.Spares intakes (filtersAtReceptions (filter link) operations)
    ∧ (intakes.map Intake.brought).Sublist (intakes.flatMap Intake.taken)

theorem IsAdapter.receivesFaithfully {σ : Type} [Transport σ LinkFailure] {bus : σ → Bus}
    {filter : σ → NodeFilter} (adapter : IsAdapter bus filter) {operations : List Operation}
    (single : ∀ operation ∈ operations, operation.IsSingle) (link : σ) :
    ReceivesFaithfully bus filter operations link := by
  obtain ⟨intakes, faithful⟩ := adapter.faithful single link
  exact ⟨intakes, faithful, faithful.spares, Intake.brought_sublist intakes⟩

/-- However single operations follow each other, each reception takes frames that the
filter last set drops and then one arrival more, and brings that failure or what is read of
that frame.  What is taken by all of them is what lay ahead, in order, and only setting and
clearing the filter changes it. -/
theorem session_receives (operations : List Operation)
    (single : ∀ operation ∈ operations, operation.IsSingle) :
    (∀ link : BlockingLink,
      ReceivesFaithfully BlockingLink.bus BlockingLink.filter operations link)
    ∧ ∀ link : PollingLink,
      ReceivesFaithfully PollingLink.bus PollingLink.filter operations link :=
  ⟨BlockingLink.isAdapter.receivesFaithfully single,
    PollingLink.isAdapter.receivesFaithfully single⟩

/-- Node 200 is asked for, which no frame comes from. -/
theorem session_receives_unreachable :
    let operations : List Operation :=
      [.receive, .setNodeFilter 200, .receive, .clearNodeFilter, .receive]
    (∀ operation ∈ operations, operation.IsSingle)
    ∧ (∀ link : BlockingLink,
      ReceivesFaithfully BlockingLink.bus BlockingLink.filter operations link)
    ∧ ∀ link : PollingLink,
      ReceivesFaithfully PollingLink.bus PollingLink.filter operations link := by
  intro operations
  have single : ∀ operation ∈ operations, operation.IsSingle := by
    simp [operations, Operation.IsSingle]
  exact ⟨single, session_receives operations single⟩

end CanOpen
