import CanOpen.Proofs.Logging
import CanOpen.Proofs.Outlook
import Mathlib.Data.List.Forall2
import Mathlib.Data.List.TakeWhile

/-!
# Logs and filters change nothing

What a client does is decided neither by what it logs nor by which modes it takes the nodes to
be in, nor by whether filters can be set, over transports that receive the same without them.

There is one exception.  A client that traces breaks off once it receives a message that has
no line.  No link hands out such a message.
-/

set_option autoImplicit false

namespace CanOpen

variable {σ τ ε : Type}

/-! ## Links whose filters do nothing -/

namespace Bus

def unfiltered (bus : Bus) : Bus :=
  { bus with actions := bus.actions.filter fun action => action.frame?.isSome }

theorem unfiltered_record_sent (frame : Can.Frame) (bus : Bus) :
    (bus.record (.sent frame)).unfiltered = bus.unfiltered.record (.sent frame) := by
  simp [unfiltered, record, BusAction.frame?]

theorem unfiltered_record_filter (node : UInt8) (bus : Bus) :
    (bus.record (.filter node)).unfiltered = bus.unfiltered := by
  simp [unfiltered, record, BusAction.frame?]

theorem transmitAt_unfiltered (frame : Can.Frame) (bus : Bus) (outcomes : List SendOutcome) :
    transmitAt frame bus.unfiltered outcomes
      = (transmitAt frame bus outcomes).map id unfiltered := by
  induction outcomes with
  | nil =>
      have recorded := unfiltered_record_sent frame { bus with outcomes := [] }
      exact congrArg (Prod.mk _) recorded.symm
  | cons outcome others inductionHypothesis =>
      cases outcome with
      | sent | replaced =>
          have recorded := unfiltered_record_sent frame { bus with outcomes := others }
          exact congrArg (Prod.mk _) recorded.symm
      | failure reason => rfl
      | notReady => exact inductionHypothesis

theorem sendBy_unfiltered (message : Message) (bus : Bus) :
    bus.unfiltered.sendBy transmit message = (bus.sendBy transmit message).map id unfiltered := by
  have sameMaker : bus.unfiltered.maker = bus.maker := rfl
  unfold sendBy
  rw [sameMaker]
  cases message.packWith bus.maker with
  | error cause => rfl
  | ok frame =>
      have same : transmit frame bus.unfiltered = (transmit frame bus).map id unfiltered :=
        transmitAt_unfiltered frame bus bus.outcomes
      simp only [same]
      rfl

theorem next?_unfiltered (bus : Bus) :
    bus.unfiltered.next? = bus.next?.map (Prod.map id unfiltered) := by
  unfold next? unfiltered
  cases bus.inbox with
  | cons event inbox => rfl
  | nil =>
      dsimp only
      rw [Option.map_map]
      rfl

theorem receiveWithin_unfiltered (events : Nat) (bus : Bus) :
    receiveWithin events bus.unfiltered = (receiveWithin events bus).map id unfiltered := by
  induction events generalizing bus with
  | zero => rfl
  | succ events inductionHypothesis =>
      rw [receiveWithin, receiveWithin, next?_unfiltered]
      cases bus.next? with
      | none => rfl
      | some taken =>
          obtain ⟨event, rest⟩ := taken
          cases event with
          | frame frame => rfl
          | failure reason => rfl
          | notReady => exact inductionHypothesis rest

theorem receiveBy_unfiltered (filter : NodeFilter) (bus : Bus) :
    bus.unfiltered.receiveBy .blocking filter
      = (bus.receiveBy .blocking filter).map id unfiltered := by
  have within (times : Nat) (bus : Bus) :
      bus.unfiltered.receiveByWithin .blocking filter times
        = (bus.receiveByWithin .blocking filter times).map id unfiltered := by
    induction times generalizing bus with
    | zero => rfl
    | succ times inductionHypothesis =>
        have pulls : Pull.blocking.next bus.unfiltered
            = (Pull.blocking.next bus).map id unfiltered :=
          receiveWithin_unfiltered bus.horizon bus
        rw [receiveByWithin, receiveByWithin, pulls]
        cases Pull.blocking.next bus with
        | mk result rest =>
            cases result with
            | error reason => rfl
            | ok frame =>
                by_cases accepted : filter.accepts frame.id = true
                · simp [accepted]
                · simpa [accepted] using inductionHypothesis rest
  exact within bus.horizon bus

end Bus

namespace PlainLink

/-- Whether two links are over the same bus, but for what was asked of its filters. -/
def SameBus (link link' : PlainLink) : Prop :=
  link.bus.unfiltered = link'.bus.unfiltered

theorem unfiltered_setNodeFilter (node : UInt8) (link : PlainLink) :
    (link.setNodeFilter node).2.bus.unfiltered = link.bus.unfiltered := by
  unfold setNodeFilter
  split
  · rfl
  · exact link.bus.unfiltered_record_filter node

theorem sameBus_indifferent : Transport.Indifferent SameBus where
  send message link link' same := by
    have sends (link : PlainLink) : link.bus.unfiltered.sendBy Bus.transmit message
        = (link.send message).map id (·.bus.unfiltered) := link.bus.sendBy_unfiltered message
    have both := (sends link).symm.trans ((congrArg _ same).trans (sends link'))
    have results := congrArg Prod.fst both
    have rests := congrArg Prod.snd both
    exact ⟨results, rests⟩
  receive link link' same := by
    have receives (link : PlainLink) : link.bus.unfiltered.receiveBy .blocking none
        = link.receive.map id (·.bus.unfiltered) := link.bus.receiveBy_unfiltered none
    have both := (receives link).symm.trans ((congrArg _ same).trans (receives link'))
    have results := congrArg Prod.fst both
    have rests := congrArg Prod.snd both
    exact ⟨results, rests⟩
  setNodeFilter node link link' same :=
    (link.unfiltered_setNodeFilter node).trans
      (same.trans (link'.unfiltered_setNodeFilter node).symm)

end PlainLink

/-! ## Links hand out messages that have a line -/

theorem Message.inBounds_of_parse {frame : Can.Reported} {message : Message}
    (read : Message.parse frame = .ok message) : message.InBounds :=
  (coherent_of_parse read).length_le

theorem Bus.inBounds_of_receiveBy {pull : Pull} {filter : NodeFilter} {bus : Bus}
    {message : Message} (received : (bus.receiveBy pull filter).1 = .ok message) :
    message.InBounds := by
  unfold receiveBy at received
  generalize bus.horizon = times at received
  induction times generalizing bus with
  | zero => cases received
  | succ times inductionHypothesis =>
      rw [receiveByWithin] at received
      split at received
      · cases received
      next frame between _ =>
        split at received
        · cases read : Message.parse frame with
          | error cause =>
              rw [read] at received
              cases received
          | ok other =>
              rw [read] at received
              cases received
              exact Message.inBounds_of_parse read
        · exact inductionHypothesis received

section Sound

variable [Transport σ ε]

/-- Whether a transport hands out only messages that have a line. -/
def Transport.InBounds (σ : Type) {ε : Type} [Transport σ ε] : Prop :=
  ∀ (s rest : σ) (message : Message), receive s = (.ok message, rest) → message.InBounds

theorem Transport.InBounds.loggable (sound : Transport.InBounds σ) {journal : List (Entry ε)}
    {s t : σ} (records : Records journal s t) : Loggable journal := by
  induction journal generalizing s with
  | nil => exact List.forall_mem_nil _
  | cons entry rest inductionHypothesis =>
      obtain ⟨between, tells, remaining⟩ := records
      cases entry with
      | received message =>
          exact List.forall_mem_cons.2
            ⟨sound s between message tells, inductionHypothesis remaining⟩
      | _ => exact inductionHypothesis remaining

end Sound

theorem PlainLink.inBounds : Transport.InBounds PlainLink := by
  intro link rest message received
  have read : link.receive.1 = .ok message := congrArg Prod.fst received
  exact Bus.inBounds_of_receiveBy read

theorem BlockingLink.inBounds : Transport.InBounds BlockingLink := by
  intro link rest message received
  have read : link.receive.1 = .ok message := congrArg Prod.fst received
  exact Bus.inBounds_of_receiveBy read

theorem PollingLink.inBounds : Transport.InBounds PollingLink := by
  intro link rest message received
  have read : link.receive.1 = .ok message := congrArg Prod.fst received
  exact Bus.inBounds_of_receiveBy read

/-! ## Sessions of a client -/

namespace Sdo

variable [Transport σ ε] [Transport τ ε]

theorem Call.offers_inBounds (config : Config) (call : Call) (transport : σ) :
    ∀ message ∈ offeredIn (call.run config transport).journal, message.InBounds := by
  by_cases requestable : call.Requestable
  · intro message offered
    obtain ⟨_, _, _, eight⟩ := (Call.requests requestable config transport message offered).carries
    rw [Message.InBounds, eight]
    decide
  · obtain ⟨cause, buffer, rejects⟩ :=
      Call.run_of_not_requestable requestable config transport
    rw [rejects, ← offeredIn_trafficIn, trafficIn_rejecting]
    exact List.forall_mem_nil _

def Call.runs (config : Config) : List Call → σ → List (Run σ ε (Answer ε))
  | [], _ => []
  | call :: others, transport =>
      call.run config transport :: runs config others (call.run config transport).transport

theorem Call.run_tracing (config : Config) (tracing : Bool) (call : Call) (transport : σ) :
    call.run { config with tracing } transport = call.run config transport := by
  cases call <;> rfl

theorem Call.runs_alike {R : σ → τ → Prop} (indifferent : Transport.Indifferent R) {s : σ}
    {t : τ} (related : R s t) (config : Config) (calls : List Call) :
    List.Forall₂ (Run.Alike R Entry.isTraffic) (runs config calls s) (runs config calls t) := by
  induction calls generalizing s t with
  | nil => exact .nil
  | cons call others inductionHypothesis =>
      have transfers {S α : Type} := @transfersAlike_of_indifferent _ _ _ _ _ _ indifferent
        call.node S α
      have alike := call.run_alike transfers related config (conclusive_true _)
      exact .cons alike (inductionHypothesis alike.transport)

theorem Call.loggable_of_mem_runs (sound : Transport.InBounds σ) (config : Config)
    (calls : List Call) (s : σ) : ∀ run ∈ runs config calls s, Loggable run.journal := by
  induction calls generalizing s with
  | nil => exact List.forall_mem_nil _
  | cons call others inductionHypothesis =>
      have first := sound.loggable (call.recorded config s)
      exact List.forall_mem_cons.2 ⟨first, inductionHypothesis _⟩

variable [ToString ε]

/-- A call breaks off if it should be traced and receives a message that has no line. -/
theorem Client.perform_eq (client : Client) (call : Call) (transport : σ) :
    let run := call.run client.config transport
    let told := logLines client.config.tracing client.modes run.journal
    client.perform call transport
      = if client.config.tracing = false ∨ Loggable run.journal then
          some (run, told.1, { client with modes := told.2 })
        else
          none := by
  intro run told
  have performs : client.perform call transport
      = (logLines? client.config.tracing client.modes run.journal).map
          fun told => (run, told.1, { client with modes := told.2 }) := rfl
  split_ifs with speaks
  · have inBounds (traces : client.config.tracing = true) : ∀ entry ∈ run.journal, entry.InBounds :=
      inBounds_of_loggable (speaks.resolve_left (by simp [traces]))
        (call.offers_inBounds client.config transport)
    rw [performs, logLines?_eq_some inBounds client.modes]
    rfl
  · obtain ⟨traces, unloggable⟩ := not_or.1 speaks
    rw [performs, eq_true_of_ne_false traces, logLines?_eq_none unloggable client.modes]
    rfl

/-- What is received that has no line ends a call if it is traced, and only then. -/
example (tracing : Bool) :
    let overlong : Message := ⟨.standard, false, some .sdoTx, 5, .raw (Octets.ofList []), 9⟩
    let operations : Transport.Operations Unit String :=
      ⟨fun _ _ => (.ok (), ()), fun _ => (.ok overlong, ()), fun _ _ => (.ok (), ()),
        fun _ => (.ok (), ())⟩
    let bus : Transport.CutOff operations "nothing left" := ⟨(), 1⟩
    (Client.perform ⟨{ tracing }, BlockModes.none⟩ (.expeditedUpload 5 0x2000 1) bus).isNone
      = tracing := by
  cases tracing <;> decide +kernel

/-- Where a call that is put into words as it goes breaks off: at a message that has no line.
Up to there it does what the call does anyway, and nothing more is done. -/
structure BreaksOff (start : Traced σ ε) (plain : Run σ ε (Answer ε))
    (traced : Run (Traced σ ε) ε (Answer ε)) : Prop where
  fails : traced.answer.result = .error (.transport start.breach)
  breaches : ∃ before message behind inner told modes,
    plain.journal = before ++ .received message :: behind
    ∧ Loggable before ∧ ¬ message.InBounds
    ∧ Records (before ++ [.received message]) start.inner inner
    ∧ deedsIn traced.journal = deedsIn before ++ [.unreceived start.breach]
    ∧ logLines? start.tracing start.modes (deedsIn before) = some (told, modes)
    ∧ traced.transport = ⟨inner, start.tracing, modes, start.lines ++ told, start.breach, true⟩

theorem logLines?_deedsIn {tracing : Bool} {journal : List (Entry ε)}
    (inBounds : tracing = true → ∀ entry ∈ journal, entry.InBounds) (modes : BlockModes) :
    logLines? tracing modes (deedsIn journal)
      = some ((logLines tracing modes (deedsIn journal)).1, (logLines tracing modes journal).2) := by
  rw [← modes_logLines_deedsIn]
  exact logLines?_eq_some (fun traces entry member =>
    inBounds traces entry (List.mem_of_mem_filter member)) modes

section Traced

variable (config : Config) (call : Call) (start : Traced σ ε)

theorem Call.following_of_journal_eq
    (same : (call.run config start).journal = (call.run config start.inner).journal) :
    let plain := call.run config start.inner
    (start.tracing = false ∨ Loggable plain.journal)
    ∧ logLines? start.tracing start.modes (deedsIn plain.journal)
      = some ((logLines start.tracing start.modes (deedsIn plain.journal)).1,
          (logLines start.tracing start.modes plain.journal).2)
    ∧ (call.run config start).transport = start.following plain.journal plain.transport := by
  intro plain
  have offers := call.offers_inBounds config start
  have records := call.recorded config start
  rw [Run.Recorded, same] at records
  rw [same] at offers
  have inBounds (traces : start.tracing = true) : ∀ entry ∈ plain.journal, entry.InBounds :=
    inBounds_of_loggable (Traced.loggable_of_records records traces) offers
  refine ⟨?_, logLines?_deedsIn inBounds start.modes,
    Traced.eq_following_of_records inBounds (call.recorded config start.inner) records⟩
  rw [or_iff_not_imp_left]
  intro traces
  exact Traced.loggable_of_records records (eq_true_of_ne_false traces)

theorem Call.breaksOff_of_part
    (part : Part (call.run config start.inner).journal (call.run config start).journal) :
    ¬ (start.tracing = false ∨ Loggable (call.run config start.inner).journal)
    ∧ BreaksOff start (call.run config start.inner) (call.run config start) := by
  obtain ⟨common, entry, entry', behind, behind', asked, left, right, asks, asks', differ⟩ := part
  have offers := call.offers_inBounds config start
  have records := call.recorded config start.inner
  have tracedRecords := call.recorded config start
  rw [Run.Recorded, left] at records
  rw [Run.Recorded, right] at tracedRecords
  rw [right, offeredIn_append, offeredIn_cons] at offers
  obtain ⟨before, reaches, inner, tells, _⟩ := records.split
  obtain ⟨_, tracedReaches, broken, tracedTells, remaining⟩ := tracedRecords.split
  have inBounds (traces : start.tracing = true) : ∀ entry ∈ common, entry.InBounds :=
    inBounds_of_loggable (Traced.loggable_of_records tracedReaches traces)
      fun message member => offers message (List.mem_append_left _ member)
  obtain rfl := Traced.eq_following_of_records inBounds reaches tracedReaches
  obtain ⟨message, rfl, outOfBounds, tracing, rfl, rfl⟩ :=
    Traced.of_parting (fun message offered => offers message (by simp [offered])) tells
      tracedTells asks asks' differ
  constructor
  · rintro (silent | loggable)
    · exact Bool.false_ne_true (silent.symm.trans tracing)
    · exact outOfBounds (loggable message (by simp [left, Entry.received?]))
  -- Nothing is done once a reception has failed, and the failure is the answer.
  · have deeds : deedsIn (call.run config start).journal
        = deedsIn common ++ .unreceived start.breach :: deedsIn behind' := by
      rw [right, deedsIn_append]
      rfl
    obtain ⟨idle, fails⟩ := (call.blames config start).fatal deeds rfl
    rw [idle] at deeds
    exact ⟨fails, common, message, behind, inner, _, _, left,
      Traced.loggable_of_records tracedReaches tracing, outOfBounds,
      reaches.append ⟨inner, tells, rfl⟩, deeds, logLines?_deedsIn inBounds start.modes,
      remaining.eq_of_deedsIn_eq_nil idle⟩

end Traced

/-- A client that puts into words what passes does, and remembers, what a client does that
keeps its log afterwards, or both break off. -/
theorem Client.perform_traced (client : Client) (call : Call) (transport : σ)
    (lines : List LogLine) (breach : ε) :
    let start : Traced σ ε :=
      ⟨transport, client.config.tracing, client.modes, lines, breach, false⟩
    let plain := call.run client.config transport
    let traced := call.run client.config start
    (∃ added later told, client.perform call transport = some (plain, added, later)
      ∧ traced.answer = plain.answer ∧ traced.journal = plain.journal
      ∧ logLines? client.config.tracing client.modes (deedsIn plain.journal)
        = some (told, later.modes)
      ∧ traced.transport = ⟨plain.transport, client.config.tracing, later.modes,
          lines ++ told, breach, false⟩)
    ∨ client.perform call transport = none ∧ BreaksOff start plain traced := by
  intro start plain traced
  have performs := client.perform_eq call transport
  obtain ⟨answer, journal⟩ | part := call.run_concur client.config transport start
  · obtain ⟨speaks, told, follows⟩ :=
      call.following_of_journal_eq client.config start journal.symm
    exact .inl ⟨_, _, _, performs.trans (if_pos speaks), answer.symm, journal.symm, told, follows⟩
  · obtain ⟨speechless, breaksOff⟩ := call.breaksOff_of_part client.config start part
    exact .inr ⟨performs.trans (if_neg speechless), breaksOff⟩

/-- Makes calls one after the other, whatever comes of them, up to one that breaks off. -/
def Client.session (client : Client) :
    List Call → σ → List (Run σ ε (Answer ε) × List LogLine × Client)
  | [], _ => []
  | call :: others, transport =>
      match client.perform call transport with
      | none => []
      | some performed => performed :: performed.2.2.session others performed.1.transport

theorem Client.runs_session (config : Config) (tracing : Bool) (modes : BlockModes)
    (calls : List Call) (transport : σ) :
    (session ⟨{ config with tracing }, modes⟩ calls transport).map Prod.fst
      = (Call.runs config calls transport).takeWhile
          fun run => tracing = false ∨ Loggable run.journal := by
  induction calls generalizing modes transport with
  | nil => rfl
  | cons call others inductionHypothesis =>
      have performs := perform_eq ⟨{ config with tracing }, modes⟩ call transport
      simp only [call.run_tracing config tracing transport] at performs
      rw [session, performs, Call.runs]
      by_cases speaks : tracing = false ∨ Loggable (call.run config transport).journal
      · rw [List.takeWhile_cons_of_pos (by simpa using speaks), if_pos speaks,
          ← inductionHypothesis]
        rfl
      · rw [List.takeWhile_cons_of_neg (by simpa using speaks), if_neg speaks]
        rfl

theorem Client.runs_session_of_inBounds (sound : Transport.InBounds σ) (config : Config)
    (tracing : Bool) (modes : BlockModes) (calls : List Call) (transport : σ) :
    (session ⟨{ config with tracing }, modes⟩ calls transport).map Prod.fst
      = Call.runs config calls transport := by
  rw [runs_session, List.takeWhile_eq_self_iff]
  intro run member
  exact decide_eq_true (.inr (Call.loggable_of_mem_runs sound config calls transport run member))

theorem forall₂_takeWhile {α β : Type} {R : α → β → Prop} {p : α → Bool} {q : β → Bool}
    {left : List α} {right : List β} (related : List.Forall₂ R left right)
    (alike : ∀ a ∈ left, ∀ b, R a b → p a = q b) :
    List.Forall₂ R (left.takeWhile p) (right.takeWhile q) := by
  induction related with
  | nil => exact .nil
  | @cons a b others others' first _ inductionHypothesis =>
      have later := inductionHypothesis fun c member => alike c (List.mem_cons_of_mem a member)
      rw [List.takeWhile_cons, List.takeWhile_cons, ← alike a List.mem_cons_self b first]
      cases p a with
      | false => exact .nil
      | true => exact .cons first later

omit [Transport σ ε] [Transport τ ε] [ToString ε] in
theorem loggable_of_alike {R : σ → τ → Prop} {left : Run σ ε (Answer ε)}
    {right : Run τ ε (Answer ε)} (alike : Run.Alike R Entry.isTraffic left right) :
    Loggable left.journal ↔ Loggable right.journal := by
  have traffic : trafficIn left.journal = trafficIn right.journal := alike.journal
  have received : receivedIn left.journal = receivedIn right.journal := by
    rw [← receivedIn_trafficIn, traffic, receivedIn_trafficIn]
  rw [Loggable, Loggable, received]

/-- What a client does in a session is decided neither by whether it traces nor by what it
remembers of earlier ones, except that a session that is traced ends with the first call that
receives a message without a line.  Links hand out no such message.

Over transports for which filters make no difference it is not decided by which of them can
be set either: all calls have the same answers, send the same and receive the same.

A client that puts what passes into words at once, with the modes of the moment, is no
different: it ends up with the same words and modes as one that does so afterwards, or it
breaks off where there are no words. -/
theorem Client.session_unswayed {R : σ → τ → Prop} (indifferent : Transport.Indifferent R)
    {s : σ} {t : τ} (related : R s t) (config : Config) (tracing tracing' : Bool)
    (modes modes' : BlockModes) (calls : List Call) :
    let client : Client := ⟨{ config with tracing }, modes⟩
    let client' : Client := ⟨{ config with tracing := tracing' }, modes'⟩
    (∀ transport : σ, (client.session calls transport).map Prod.fst
        = (Call.runs config calls transport).takeWhile
            fun run => tracing = false ∨ Loggable run.journal)
    ∧ (tracing = tracing' ∨ (∀ run ∈ Call.runs config calls s, Loggable run.journal) →
        List.Forall₂
          (fun left right => left.answer = right.answer
            ∧ trafficIn left.journal = trafficIn right.journal
            ∧ R left.transport right.transport)
          ((client.session calls s).map Prod.fst) ((client'.session calls t).map Prod.fst))
    ∧ (∀ (call : Call) (transport : σ) (lines : List LogLine) (breach : ε),
        let start : Traced σ ε := ⟨transport, tracing, modes, lines, breach, false⟩
        let plain := call.run config transport
        let traced := call.run config start
        (∃ added later told, client.perform call transport = some (plain, added, later)
          ∧ traced.answer = plain.answer ∧ traced.journal = plain.journal
          ∧ logLines? tracing modes (deedsIn plain.journal) = some (told, later.modes)
          ∧ traced.transport = ⟨plain.transport, tracing, later.modes, lines ++ told, breach,
              false⟩)
        ∨ client.perform call transport = none ∧ BreaksOff start plain traced)
    ∧ (∀ link : PlainLink, (client.session calls link).map Prod.fst = Call.runs config calls link)
    ∧ (∀ link : BlockingLink,
        (client.session calls link).map Prod.fst = Call.runs config calls link)
    ∧ ∀ link : PollingLink,
        (client.session calls link).map Prod.fst = Call.runs config calls link := by
  intro client client'
  refine ⟨Client.runs_session config tracing modes calls, fun agree => ?_,
    fun call transport lines breach => ?_,
    Client.runs_session_of_inBounds PlainLink.inBounds config tracing modes calls,
    Client.runs_session_of_inBounds BlockingLink.inBounds config tracing modes calls,
    Client.runs_session_of_inBounds PollingLink.inBounds config tracing modes calls⟩
  · rw [runs_session, runs_session]
    have alike := Call.runs_alike indifferent related config calls
    have kept := forall₂_takeWhile alike fun left member right alike => by
      have same := loggable_of_alike alike
      show decide (tracing = false ∨ Loggable left.journal)
        = decide (tracing' = false ∨ Loggable right.journal)
      obtain rfl | loggable := agree
      · rw [decide_eq_decide, same]
      · simp [loggable left member, same.1 (loggable left member)]
    exact kept.imp fun left right alike => ⟨alike.answer, alike.journal, alike.transport⟩
  · have traced := client.perform_traced call transport lines breach
    simpa only [client, call.run_tracing] using traced

/-- One client traces and its link sets filters; the other takes node 5 to be in the middle of
a block download, and its link sets none. -/
theorem Client.session_unswayed_unfiltered :
    let bus : Bus := (PlainLink.replaying 5 [[0x4F, 0x00, 0x20, 1, 7], [0x60, 0x00, 0x20, 1],
      [0x20]]).bus
    let calls : List Call :=
      [.expeditedUpload 5 0x2000 1, .segmentedDownload 5 0x2000 1 [7, 9]]
    let client : Client := ⟨{ tracing := true }, BlockModes.none⟩
    let client' : Client := ⟨{ tracing := false }, BlockModes.none.switch 5 true⟩
    Transport.Indifferent PlainLink.SameBus
    ∧ PlainLink.SameBus ⟨bus, none⟩ ⟨bus, some "busy"⟩
    ∧ (∀ run ∈ Call.runs {} calls (PlainLink.mk bus none), Loggable run.journal)
    ∧ List.Forall₂
        (fun left right => left.answer = right.answer
          ∧ trafficIn left.journal = trafficIn right.journal
          ∧ PlainLink.SameBus left.transport right.transport)
        ((client.session calls (PlainLink.mk bus none)).map Prod.fst)
        ((client'.session calls (PlainLink.mk bus (some "busy"))).map Prod.fst) := by
  intro bus calls client client'
  have same : PlainLink.SameBus ⟨bus, none⟩ ⟨bus, some "busy"⟩ := rfl
  have loggable : ∀ run ∈ Call.runs {} calls (PlainLink.mk bus none), Loggable run.journal :=
    Call.loggable_of_mem_runs PlainLink.inBounds {} calls _
  have unswayed := Client.session_unswayed PlainLink.sameBus_indifferent same {} true false
    BlockModes.none (BlockModes.none.switch 5 true) calls
  exact ⟨PlainLink.sameBus_indifferent, same, loggable, unswayed.2.1 (.inr loggable)⟩

end Sdo

end CanOpen
