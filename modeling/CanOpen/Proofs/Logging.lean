import CanOpen.Proofs.Parting
import CanOpen.Proofs.Requestability
import CanOpen.Proofs.Faults

/-!
# Logs as they are written

What a client logs when a call is over it could as well put into words as it goes, with the
modes of the nodes at hand.  A transport that is put into words does what the one below it
does, until it receives a message that counts more bytes than there are.  There is no line for
such a message, and the transport breaks off.
-/

set_option autoImplicit false

namespace CanOpen

variable {σ ε : Type}

/-! ## Words for what passes -/

/-- Whether all messages that a journal shows as received have a line. -/
def Loggable (journal : List (Entry ε)) : Prop :=
  ∀ message ∈ receivedIn journal, message.InBounds

instance (journal : List (Entry ε)) : Decidable (Loggable journal) :=
  inferInstanceAs (Decidable (∀ message ∈ receivedIn journal, message.InBounds))

/-- Whether the message that passed with an entry has a line, if one did. -/
def Entry.InBounds (entry : Entry ε) : Prop :=
  ∀ direction message, entry.traced? = some (direction, message) → message.InBounds

theorem inBounds_of_loggable {journal : List (Entry ε)} (loggable : Loggable journal)
    (offers : ∀ message ∈ offeredIn journal, message.InBounds) :
    ∀ entry ∈ journal, entry.InBounds := by
  intro entry member direction message traced
  cases entry with
  | sent other | unsent other cause =>
      cases traced
      exact offers _ (List.mem_filterMap.2 ⟨_, member, rfl⟩)
  | received other =>
      cases traced
      exact loggable _ (List.mem_filterMap.2 ⟨_, member, rfl⟩)
  | _ => cases traced

section Lines

variable [ToString ε]

/-- The lines for a journal, all of whose messages are in bounds. -/
def logLines (tracing : Bool) :
    Sdo.BlockModes → List (Entry ε) → List LogLine × Sdo.BlockModes
  | modes, [] => ([], modes)
  | modes, .noted note :: rest =>
      let (lines, modes) := logLines tracing modes rest
      (note.line :: lines, modes)
  | modes, entry :: rest =>
      match tracing, entry.traced? with
      | true, some (direction, message) =>
          let (lines, modesAfter) := logLines tracing (modes.pass message) rest
          (⟨.debug, direction ++ message.summary (modes.isOn message.node.toNat)⟩ :: lines, modesAfter)
      | _, _ => logLines tracing modes rest

theorem logLines?_eq_some {tracing : Bool} {journal : List (Entry ε)}
    (inBounds : tracing = true → ∀ entry ∈ journal, entry.InBounds) (modes : Sdo.BlockModes) :
    logLines? tracing modes journal = some (logLines tracing modes journal) := by
  induction journal generalizing modes with
  | nil => rfl
  | cons entry rest inductionHypothesis =>
      have here (traces : tracing = true) := (List.forall_mem_cons.1 (inBounds traces)).1
      have behind := inductionHypothesis fun traces =>
        (List.forall_mem_cons.1 (inBounds traces)).2
      cases tracing with
      | false => cases entry <;> simp [logLines?, logLines, Entry.tell?, behind]
      | true =>
          cases entry with
          | sent message | unsent message cause | received message =>
              have inBounds : message.InBounds := here rfl _ message rfl
              simp [logLines?, logLines, Entry.tell?, Entry.traced?, behind,
                message.summaryIn?_of_inBounds inBounds]
          | _ => simp [logLines?, logLines, Entry.tell?, Entry.traced?, behind]

theorem logLines?_cons (tracing : Bool) (modes : Sdo.BlockModes) (entry : Entry ε)
    (rest : List (Entry ε)) :
    logLines? tracing modes (entry :: rest) = (entry.tell? tracing modes).bind fun told =>
      (logLines? tracing told.2 rest).map fun others => (told.1 ++ others.1, others.2) := by
  rw [logLines?]
  cases entry.tell? tracing modes with
  | none => rfl
  | some told =>
      cases others : logLines? tracing told.2 rest with
      | none => simp [others]
      | some others => simp [others]

theorem Entry.tell?_received (modes : Sdo.BlockModes) (message : Message) :
    (received message : Entry ε).tell? true modes = (message.summaryIn? modes).map fun summary =>
      ([⟨.debug, "rx " ++ summary⟩], modes.pass message) := rfl

/-- A message received that has no line breaks the log off, wherever it comes. -/
theorem logLines?_eq_none {journal : List (Entry ε)} (unloggable : ¬ Loggable journal)
    (modes : Sdo.BlockModes) : logLines? true modes journal = none := by
  induction journal generalizing modes with
  | nil => exact (unloggable (List.forall_mem_nil _)).elim
  | cons entry rest inductionHypothesis =>
      rw [logLines?_cons, Option.bind_eq_none_iff]
      intro told here
      rw [Option.map_eq_none_iff]
      apply inductionHypothesis
      intro loggable
      apply unloggable
      intro message member
      rw [receivedIn_cons, List.mem_append] at member
      rcases member with first | later
      · cases entry with
        | received other =>
            obtain rfl : message = other := by simpa [Entry.received?] using first
            refine Decidable.byContradiction fun outOfBounds => ?_
            rw [Entry.tell?_received, message.summaryIn?_of_not_inBounds outOfBounds] at here
            cases here
        | _ => simp [Entry.received?] at first
      · exact loggable message later

theorem logLines_append (tracing : Bool) (modes : Sdo.BlockModes) (first later : List (Entry ε)) :
    logLines tracing modes (first ++ later)
      = ((logLines tracing modes first).1
          ++ (logLines tracing (logLines tracing modes first).2 later).1,
        (logLines tracing (logLines tracing modes first).2 later).2) := by
  induction first generalizing modes with
  | nil => rfl
  | cons entry rest inductionHypothesis =>
      cases tracing <;> cases entry <;>
        simp only [List.cons_append, logLines, Entry.traced?, inductionHypothesis]

theorem modes_logLines_deedsIn (tracing : Bool) (modes : Sdo.BlockModes)
    (journal : List (Entry ε)) :
    (logLines tracing modes (deedsIn journal)).2 = (logLines tracing modes journal).2 := by
  induction journal generalizing modes with
  | nil => rfl
  | cons entry rest inductionHypothesis =>
      cases tracing <;> cases entry <;>
        simp only [deedsIn_cons, Entry.isDeed, logLines, Entry.traced?, if_true,
          Bool.false_eq_true, if_false, inductionHypothesis]

end Lines

/-- A transport whose messages are put into words as they pass, and which breaks off at a
message that has no line. -/
structure Traced (σ ε : Type) where
  inner : σ
  tracing : Bool
  modes : Sdo.BlockModes
  lines : List LogLine
  /-- What it says where it breaks off. -/
  breach : ε
  broken : Bool

namespace Traced

/-- The transport with a line for a message. -/
def tell? (direction : String) (message : Message) (transport : Traced σ ε) :
    Option (Traced σ ε) :=
  if transport.tracing then
    (message.summaryIn? transport.modes).map fun summary =>
      { transport with
        modes := transport.modes.pass message
        lines := transport.lines ++ [⟨.debug, direction ++ summary⟩] }
  else
    some transport

theorem tell?_cases (direction : String) (message : Message) (transport : Traced σ ε) :
    (transport.tell? direction message = none
      ∧ transport.tracing = true ∧ ¬ message.InBounds)
    ∨ ∃ modes lines, transport.tell? direction message = some { transport with modes, lines }
      ∧ (transport.tracing = true → message.InBounds) := by
  by_cases tracing : transport.tracing = true
  · by_cases inBounds : message.InBounds
    · right
      rw [tell?, if_pos tracing, message.summaryIn?_of_inBounds inBounds]
      exact ⟨_, _, rfl, fun _ => inBounds⟩
    · left
      rw [tell?, if_pos tracing, message.summaryIn?_of_not_inBounds inBounds]
      exact ⟨rfl, tracing, inBounds⟩
  · right
    rw [tell?, if_neg tracing]
    exact ⟨_, _, rfl, fun traces => absurd traces tracing⟩

section Following

variable [ToString ε]

/-- What is left of a transport after some entries, apart from what it wraps. -/
def following (s : Traced σ ε) (journal : List (Entry ε)) (inner : σ) : Traced σ ε :=
  { s with
    inner
    modes := (logLines s.tracing s.modes journal).2
    lines := s.lines ++ (logLines s.tracing s.modes (deedsIn journal)).1 }

theorem following_following (s : Traced σ ε) (entry : Entry ε) (rest : List (Entry ε))
    (between inner : σ) :
    (s.following [entry] between).following rest inner = s.following (entry :: rest) inner := by
  have modes := modes_logLines_deedsIn s.tracing s.modes [entry]
  have all := logLines_append s.tracing s.modes [entry] rest
  have deeds := logLines_append s.tracing s.modes (deedsIn [entry]) (deedsIn rest)
  rw [← deedsIn_append] at deeds
  rw [List.singleton_append] at all deeds
  simp only [following, all, deeds, modes, List.append_assoc]

theorem tell?_eq_following {direction : String} {message : Message} {entry : Entry ε}
    (traced : entry.traced? = some (direction, message)) (s : Traced σ ε) (inner : σ)
    (inBounds : s.tracing = true → entry.InBounds) :
    tell? direction message { s with inner } = some (s.following [entry] inner) := by
  by_cases tracing : s.tracing = true
  · have loggable := message.summaryIn?_of_inBounds (inBounds tracing direction message traced)
    cases entry <;> cases traced <;>
      simp [tell?, loggable, following, logLines, Entry.traced?, Entry.isDeed, tracing]
  · cases entry <;> cases traced <;>
      simp [tell?, following, logLines, Entry.traced?, Entry.isDeed, tracing]

theorem eq_following_of_untraced {entry : Entry ε} (untraced : entry.traced? = none)
    (s : Traced σ ε) (inner : σ) : { s with inner } = s.following [entry] inner := by
  cases entry <;> cases untraced <;> cases tracing : s.tracing <;>
    simp [following, logLines, Entry.traced?, Entry.isDeed, tracing]

end Following

variable [Transport σ ε]

def send (message : Message) (transport : Traced σ ε) : Except ε Unit × Traced σ ε :=
  -- The line comes first: a message counts as sent even if the transport then fails.
  match transport.tell? "tx " message with
  | none => (.error transport.breach, { transport with broken := true })
  | some told => (Transport.send message told.inner).map id fun inner => { told with inner }

def receive (transport : Traced σ ε) : Except ε Message × Traced σ ε :=
  match Transport.receive transport.inner with
  | (.error cause, inner) => (.error cause, { transport with inner })
  | (.ok message, inner) =>
      match tell? "rx " message { transport with inner } with
      | none => (.error transport.breach, { transport with inner, broken := true })
      | some told => (.ok message, told)

theorem send_of_inBounds {message : Message} {transport : Traced σ ε}
    (inBounds : transport.tracing = true → message.InBounds) :
    ∃ modes lines, transport.send message
      = (Transport.send message transport.inner).map id
          fun inner => { transport with inner, modes, lines } := by
  obtain ⟨_, tracing, outOfBounds⟩ | ⟨modes, lines, told, _⟩ :=
    transport.tell?_cases "tx " message
  · exact (outOfBounds (inBounds tracing)).elim
  · exact ⟨modes, lines, by rw [send, told]⟩

theorem receive_cases (transport : Traced σ ε) :
    (∃ cause inner, Transport.receive transport.inner = (.error cause, inner)
      ∧ transport.receive = (.error cause, { transport with inner }))
    ∨ ∃ message inner, Transport.receive transport.inner = (.ok message, inner)
      ∧ ((transport.receive = (.error transport.breach, { transport with inner, broken := true })
          ∧ transport.tracing = true ∧ ¬ message.InBounds)
        ∨ ∃ modes lines, transport.receive = (.ok message, { transport with inner, modes, lines })
          ∧ (transport.tracing = true → message.InBounds)) := by
  unfold receive
  cases Transport.receive transport.inner with
  | mk result inner =>
      cases result with
      | error cause => exact .inl ⟨cause, inner, rfl, rfl⟩
      | ok message =>
          refine .inr ⟨message, inner, rfl, ?_⟩
          obtain ⟨untold, tracing, outOfBounds⟩ | ⟨modes, lines, told, inBounds⟩ :=
            tell?_cases "rx " message { transport with inner }
          · exact .inl ⟨by simp only [untold], tracing, outOfBounds⟩
          · exact .inr ⟨modes, lines, by simp only [told], inBounds⟩

instance : Transport (Traced σ ε) ε where
  send := send
  receive := receive
  setNodeFilter node transport :=
    (Transport.setNodeFilter node transport.inner).map id fun inner => { transport with inner }
  clearNodeFilter transport :=
    (Transport.clearNodeFilter transport.inner).map id fun inner => { transport with inner }
  horizon transport := Transport.horizon transport.inner
  horizon_receive_lt := by
    intro state rest message received
    obtain ⟨_, _, _, failed⟩ | ⟨_, _, receives, ⟨failed, _⟩ | ⟨_, _, arrived, _⟩⟩ :=
      state.receive_cases
    · rw [failed] at received
      cases received
    · rw [failed] at received
      cases received
    · rw [arrived] at received
      cases received
      exact Transport.horizon_receive_lt state.inner _ _ receives
  horizon_send_le message state := by
    unfold send
    obtain ⟨untold, _⟩ | ⟨modes, lines, told, _⟩ := state.tell?_cases "tx " message
    · simp only [untold, Nat.le_refl]
    · rw [told]
      exact Transport.horizon_send_le message state.inner

section Parting

theorem receive_of_ok {message : Message} {s t : Traced σ ε}
    (receives : s.receive = (.ok message, t)) :
    t.tracing = s.tracing ∧ (s.tracing = true → message.InBounds) := by
  obtain ⟨_, _, _, failed⟩ | ⟨_, _, _, ⟨failed, _⟩ | ⟨_, _, arrived, inBounds⟩⟩ := s.receive_cases
  · rw [failed] at receives
    cases receives
  · rw [failed] at receives
    cases receives
  · rw [arrived] at receives
    cases receives
    exact ⟨rfl, inBounds⟩

theorem tracing_of_tells {entry : Entry ε} {s t : Traced σ ε} (traced : entry.Tells s t) :
    t.tracing = s.tracing := by
  cases entry with
  | sent message | unsent message cause =>
      have sends : s.send message = (_, t) := traced
      obtain ⟨untold, _⟩ | ⟨_, _, told, _⟩ := s.tell?_cases "tx " message
      · rw [send, untold] at sends
        exact congrArg (·.2.tracing) sends.symm
      · rw [send, told] at sends
        exact congrArg (·.2.tracing) sends.symm
  | received message => exact (receive_of_ok traced).1
  | unreceived cause =>
      have receives : s.receive = (_, t) := traced
      obtain ⟨_, _, _, failed⟩ | ⟨_, _, _, ⟨failed, _⟩ | ⟨_, _, arrived, _⟩⟩ := s.receive_cases
      · rw [failed] at receives
        exact congrArg (·.2.tracing) receives.symm
      · rw [failed] at receives
        exact congrArg (·.2.tracing) receives.symm
      · rw [arrived] at receives
        cases receives
  | filtered node | unfiltered node cause => exact congrArg (·.2.tracing) (Eq.symm traced)
  | noted note => exact congrArg Traced.tracing traced

theorem loggable_of_records {journal : List (Entry ε)} {s t : Traced σ ε}
    (traced : Records journal s t) (tracing : s.tracing = true) : Loggable journal := by
  induction journal generalizing s with
  | nil => exact List.forall_mem_nil _
  | cons entry rest inductionHypothesis =>
      obtain ⟨between, tells, remaining⟩ := traced
      have behind := inductionHypothesis remaining ((tracing_of_tells tells).trans tracing)
      cases entry with
      | received message =>
          exact List.forall_mem_cons.2 ⟨(receive_of_ok tells).2 tracing, behind⟩
      | _ => exact behind

/-- Where the same is asked of both transports and answered differently, a message has come
that has no line. -/
theorem of_parting {asked : Asked} {entry entry' : Entry ε} {s t : Traced σ ε} {u : σ}
    (offers : ∀ message, entry'.offered? = some message → message.InBounds)
    (plain : entry.Tells s.inner u) (traced : entry'.Tells s t)
    (asks : entry.asked? = some asked) (asks' : entry'.asked? = some asked)
    (differ : entry ≠ entry') :
    ∃ message, entry = .received message ∧ ¬ message.InBounds ∧ s.tracing = true
      ∧ entry' = .unreceived s.breach ∧ t = { s with inner := u, broken := true } := by
  cases entry with
  | sent message | unsent message cause =>
      have passes : Transport.send message s.inner = (_, u) := plain
      cases asks
      cases entry' with
      | sent other | unsent other cause' =>
          cases asks'
          have sends : s.send message = (_, t) := traced
          obtain ⟨_, _, told⟩ := s.send_of_inBounds fun _ => offers message rfl
          rw [told, passes] at sends
          exact absurd (by cases sends <;> rfl) differ
      | _ => cases asks'
  | filtered node | unfiltered node cause =>
      have passes : Transport.setNodeFilter node s.inner = (_, u) := plain
      cases asks
      cases entry' with
      | filtered other | unfiltered other cause' =>
          cases asks'
          have filters : (Transport.setNodeFilter node s.inner).map id ({ s with inner := · })
              = (_, t) := traced
          rw [passes] at filters
          exact absurd (by cases filters <;> rfl) differ
      | _ => cases asks'
  | received message =>
      have passes : Transport.receive s.inner = (_, u) := plain
      cases asks
      obtain ⟨_, _, fails, _⟩ | ⟨_, _, receives, ⟨failed, tracing, outOfBounds⟩ | ⟨_, _, arrived, _⟩⟩ :=
        s.receive_cases
      · rw [passes] at fails
        cases fails
      · rw [passes] at receives
        cases receives
        cases entry' with
        | received other =>
            have broken : s.receive = (_, t) := traced
            rw [failed] at broken
            cases broken
        | unreceived cause =>
            have broken : s.receive = (_, t) := traced
            rw [failed] at broken
            cases broken
            exact ⟨message, rfl, outOfBounds, tracing, rfl, rfl⟩
        | _ => cases asks'
      · rw [passes] at receives
        cases receives
        cases entry' with
        | received other | unreceived cause' =>
            have told : s.receive = (_, t) := traced
            rw [arrived] at told
            exact absurd (by cases told <;> rfl) differ
        | _ => cases asks'
  | unreceived cause =>
      have passes : Transport.receive s.inner = (_, u) := plain
      cases asks
      obtain ⟨_, _, fails, failed⟩ | ⟨_, _, receives, _⟩ := s.receive_cases
      · rw [passes] at fails
        cases fails
        cases entry' with
        | received other | unreceived cause' =>
            have told : s.receive = (_, t) := traced
            rw [failed] at told
            exact absurd (by cases told <;> rfl) differ
        | _ => cases asks'
      · rw [passes] at receives
        cases receives
  | noted note => cases asks

end Parting

variable [ToString ε]

/-- An operation on a transport that puts what passes into words is that operation on the
transport it wraps, as long as there is a line for what passes. -/
theorem eq_following_of_tells {entry : Entry ε} {s t : Traced σ ε} {u : σ}
    (inBounds : s.tracing = true → entry.InBounds) (plain : entry.Tells s.inner u)
    (traced : entry.Tells s t) : t = s.following [entry] u := by
  cases entry with
  | sent message | unsent message cause =>
      have told : s.tell? "tx " message = some (s.following [_] s.inner) :=
        tell?_eq_following rfl s s.inner inBounds
      have sends : s.send message = (_, t) := traced
      have passes : Transport.send message s.inner = (_, u) := plain
      rw [send, told] at sends
      simp only [following, passes] at sends
      exact (congrArg Prod.snd sends).symm
  | received message =>
      have receives : s.receive = (_, t) := traced
      have told := tell?_eq_following rfl s u inBounds
      have passes : Transport.receive s.inner = (_, u) := plain
      rw [receive, passes] at receives
      simp only [told] at receives
      exact (congrArg Prod.snd receives).symm
  | unreceived cause =>
      have receives : s.receive = (_, t) := traced
      have fails : Transport.receive s.inner = (_, u) := plain
      rw [receive, fails] at receives
      obtain ⟨_, rfl⟩ := Prod.mk.inj receives
      exact eq_following_of_untraced rfl s u
  | filtered node | unfiltered node cause =>
      have filters : (Transport.setNodeFilter node s.inner).map id ({ s with inner := · })
          = (_, t) := traced
      have passes : Transport.setNodeFilter node s.inner = (_, u) := plain
      rw [passes] at filters
      exact (congrArg Prod.snd filters).symm.trans (eq_following_of_untraced rfl s u)
  | noted note =>
      obtain rfl : u = s.inner := plain
      obtain rfl : t = s := traced
      exact eq_following_of_untraced rfl t _

theorem eq_following_of_records {journal : List (Entry ε)} {s t : Traced σ ε} {u : σ}
    (inBounds : s.tracing = true → ∀ entry ∈ journal, entry.InBounds)
    (plain : Records journal s.inner u) (traced : Records journal s t) :
    t = s.following journal u := by
  induction journal generalizing s with
  | nil =>
      obtain rfl : u = s.inner := plain
      obtain rfl : t = s := traced
      simp [following, logLines]
  | cons entry rest inductionHypothesis =>
      obtain ⟨inner, plainFirst, plainRest⟩ := plain
      obtain ⟨between, tracedFirst, tracedRest⟩ := traced
      have here (traces : s.tracing = true) := (List.forall_mem_cons.1 (inBounds traces)).1
      have behind (traces : s.tracing = true) := (List.forall_mem_cons.1 (inBounds traces)).2
      -- Every entry is put into words with the modes that those before it have left.
      obtain rfl := eq_following_of_tells here plainFirst tracedFirst
      have later : t = (s.following [entry] inner).following rest u :=
        inductionHypothesis behind plainRest tracedRest
      rw [later, following_following]

end Traced

end CanOpen
