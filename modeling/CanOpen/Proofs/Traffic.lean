import CanOpen.Journal

/-!
# Traffic and turns

The traffic of a journal is what is left of it without remarks and filters: the
messages handed to the transport, with or without success, and those received.
Every message received opens a turn, which lasts until the next one is received.
A turn is answered if something was handed to the transport in it.
-/

set_option autoImplicit false

namespace CanOpen

variable {ε : Type}

namespace Entry

/-- The message that an entry handed to the transport, even if it was not sent. -/
def offered? : Entry ε → Option Message
  | sent message | unsent message _ => some message
  | _ => none

def isTraffic : Entry ε → Bool
  | sent _ | unsent _ _ | received _ | unreceived _ => true
  | _ => false

end Entry

def offeredIn (journal : List (Entry ε)) : List Message :=
  journal.filterMap Entry.offered?

def trafficIn (journal : List (Entry ε)) : List (Entry ε) :=
  journal.filter Entry.isTraffic

/-- A message received and what was handed to the transport before the next one. -/
structure Turn where
  heard : Message
  offered : List Message
  deriving DecidableEq, Repr

/-- The entries before the first message received. -/
def silence (journal : List (Entry ε)) : List (Entry ε) :=
  journal.takeWhile fun entry => entry.received?.isNone

def turns : List (Entry ε) → List Turn
  | [] => []
  | .received message :: rest => ⟨message, offeredIn (silence rest)⟩ :: turns rest
  | _ :: rest => turns rest

/-- The turns in which something was handed to the transport. -/
def answered (journal : List (Entry ε)) : List Turn :=
  (turns journal).filter fun turn => !turn.offered.isEmpty

theorem offered_ne_nil_of_mem_answered {journal : List (Entry ε)} {turn : Turn}
    (member : turn ∈ answered journal) : turn.offered ≠ [] := by
  have kept := (List.mem_filter.1 member).2
  intro none
  simp [none] at kept

/-! ## Traffic decides -/

@[simp]
theorem offeredIn_nil : offeredIn ([] : List (Entry ε)) = [] := rfl

@[simp]
theorem trafficIn_nil : trafficIn ([] : List (Entry ε)) = [] := rfl

@[simp]
theorem silence_nil : silence ([] : List (Entry ε)) = [] := rfl

@[simp]
theorem sentIn_nil : sentIn ([] : List (Entry ε)) = [] := rfl

@[simp]
theorem receivedIn_nil : receivedIn ([] : List (Entry ε)) = [] := rfl

@[simp]
theorem sentIn_cons (entry : Entry ε) (rest : List (Entry ε)) :
    sentIn (entry :: rest) = entry.sent?.toList ++ sentIn rest := by
  cases entry <;> rfl

@[simp]
theorem offeredIn_cons (entry : Entry ε) (rest : List (Entry ε)) :
    offeredIn (entry :: rest) = entry.offered?.toList ++ offeredIn rest := by
  cases entry <;> rfl

@[simp]
theorem receivedIn_cons (entry : Entry ε) (rest : List (Entry ε)) :
    receivedIn (entry :: rest) = entry.received?.toList ++ receivedIn rest := by
  cases entry <;> rfl

@[simp]
theorem trafficIn_cons (entry : Entry ε) (rest : List (Entry ε)) :
    trafficIn (entry :: rest)
      = if entry.isTraffic then entry :: trafficIn rest else trafficIn rest := by
  cases entry <;> rfl

@[simp]
theorem silence_cons (entry : Entry ε) (rest : List (Entry ε)) :
    silence (entry :: rest)
      = if entry.received?.isSome then [] else entry :: silence rest := by
  cases entry <;> rfl

@[simp]
theorem trafficIn_append (left right : List (Entry ε)) :
    trafficIn (left ++ right) = trafficIn left ++ trafficIn right :=
  List.filter_append left right

@[simp]
theorem trafficIn_noted (notes : List (Note ε)) :
    trafficIn (notes.map .noted) = [] := by
  simp [trafficIn, Entry.isTraffic]

@[simp]
theorem offeredIn_noted (notes : List (Note ε)) : offeredIn (notes.map .noted) = [] := by
  simp [offeredIn, Entry.offered?]

@[simp]
theorem receivedIn_sent (messages : List Message) :
    receivedIn (messages.map (.sent : Message → Entry ε)) = [] := by
  simp [receivedIn, Entry.received?]

@[simp]
theorem offeredIn_append (left right : List (Entry ε)) :
    offeredIn (left ++ right) = offeredIn left ++ offeredIn right :=
  List.filterMap_append

theorem offeredIn_trafficIn (journal : List (Entry ε)) :
    offeredIn (trafficIn journal) = offeredIn journal := by
  induction journal with
  | nil => rfl
  | cons entry rest inductionHypothesis =>
      cases entry <;> simp [Entry.isTraffic, Entry.offered?, inductionHypothesis]

theorem sentIn_trafficIn (journal : List (Entry ε)) :
    sentIn (trafficIn journal) = sentIn journal := by
  induction journal with
  | nil => rfl
  | cons entry rest inductionHypothesis =>
      cases entry <;> simp [Entry.isTraffic, Entry.sent?, inductionHypothesis]

theorem receivedIn_trafficIn (journal : List (Entry ε)) :
    receivedIn (trafficIn journal) = receivedIn journal := by
  induction journal with
  | nil => rfl
  | cons entry rest inductionHypothesis =>
      cases entry <;> simp [Entry.isTraffic, Entry.received?, inductionHypothesis]

theorem silence_trafficIn (journal : List (Entry ε)) :
    silence (trafficIn journal) = trafficIn (silence journal) := by
  induction journal with
  | nil => rfl
  | cons entry rest inductionHypothesis =>
      cases entry <;> simp [Entry.isTraffic, Entry.received?, inductionHypothesis]

theorem turns_trafficIn (journal : List (Entry ε)) :
    turns (trafficIn journal) = turns journal := by
  induction journal with
  | nil => rfl
  | cons entry rest inductionHypothesis =>
      cases entry <;>
        simp [Entry.isTraffic, turns, silence_trafficIn, offeredIn_trafficIn,
          inductionHypothesis]

theorem answered_trafficIn (journal : List (Entry ε)) :
    answered (trafficIn journal) = answered journal := by
  rw [answered, answered, turns_trafficIn]

/-! ## Turns one after the other -/

/-- Whether nothing was received. -/
def Unheard (journal : List (Entry ε)) : Prop :=
  ∀ entry ∈ journal, entry.received? = none

theorem Unheard.silence_append {quiet : List (Entry ε)} (unheard : Unheard quiet)
    (later : List (Entry ε)) : silence (quiet ++ later) = quiet ++ silence later := by
  apply List.takeWhile_append_of_pos
  intro entry member
  simp [unheard entry member]

theorem Unheard.silence_eq {quiet : List (Entry ε)} (unheard : Unheard quiet) :
    silence quiet = quiet := by
  have all := unheard.silence_append []
  rwa [List.append_nil, silence_nil, List.append_nil] at all

theorem Unheard.turns_append {quiet : List (Entry ε)} (unheard : Unheard quiet)
    (later : List (Entry ε)) : turns (quiet ++ later) = turns later := by
  induction quiet with
  | nil => rfl
  | cons entry rest inductionHypothesis =>
      have restUnheard : Unheard rest := fun other member =>
        unheard other (List.mem_cons_of_mem entry member)
      have entryUnheard := unheard entry List.mem_cons_self
      cases entry with
      | received message => simp [Entry.received?] at entryUnheard
      | _ => simpa [turns] using inductionHypothesis restUnheard

theorem Unheard.receivedIn_eq {quiet : List (Entry ε)} (unheard : Unheard quiet) :
    receivedIn quiet = [] :=
  List.filterMap_eq_nil_iff.2 unheard

theorem receivedIn_received (message : Message) {quiet : List (Entry ε)}
    (unheard : Unheard quiet) (later : List (Entry ε)) :
    receivedIn (.received message :: (quiet ++ later)) = message :: receivedIn later := by
  rw [receivedIn_cons, receivedIn_append, unheard.receivedIn_eq]
  rfl

theorem receivedIn_last (message : Message) {quiet : List (Entry ε)}
    (unheard : Unheard quiet) : receivedIn (.received message :: quiet) = [message] := by
  have one := receivedIn_received message unheard []
  rwa [List.append_nil] at one

/-- Whether nothing is handed to the transport before a message is received. -/
def Listening (journal : List (Entry ε)) : Prop :=
  offeredIn (silence journal) = []

theorem listening_nil : Listening ([] : List (Entry ε)) := rfl

theorem turns_received (message : Message) {quiet later : List (Entry ε)}
    (unheard : Unheard quiet) (listening : Listening later) :
    turns (.received message :: (quiet ++ later))
      = ⟨message, offeredIn quiet⟩ :: turns later := by
  have split : offeredIn (silence (quiet ++ later)) = offeredIn quiet := by
    rw [unheard.silence_append, offeredIn_append, listening, List.append_nil]
  rw [turns, split, unheard.turns_append]

theorem answered_received (message : Message) {quiet later : List (Entry ε)}
    (unheard : Unheard quiet) (listening : Listening later)
    (offers : offeredIn quiet ≠ []) :
    answered (.received message :: (quiet ++ later))
      = ⟨message, offeredIn quiet⟩ :: answered later := by
  rw [answered, turns_received message unheard listening]
  simp [answered, offers]

theorem answered_last (message : Message) {quiet : List (Entry ε)} (unheard : Unheard quiet)
    (offers : offeredIn quiet ≠ []) :
    answered (.received message :: quiet) = [⟨message, offeredIn quiet⟩] := by
  have one := answered_received message unheard listening_nil offers
  rwa [List.append_nil] at one

theorem answered_unanswered (message : Message) {later : List (Entry ε)}
    (listening : Listening later) :
    answered (.received message :: later) = answered later := by
  have unheard : Unheard ([] : List (Entry ε)) := fun entry member =>
    absurd member List.not_mem_nil
  have one := turns_received message unheard listening
  rw [List.nil_append] at one
  rw [answered, one]
  simp [answered]

theorem silence_append_received (before : List (Entry ε)) (message : Message)
    (later : List (Entry ε)) : silence (before ++ .received message :: later) = silence before := by
  induction before with
  | nil => rfl
  | cons entry rest inductionHypothesis =>
      simp only [List.cons_append, silence_cons, inductionHypothesis]

/-- A message received ends all turns before it. -/
theorem turns_append_received (before : List (Entry ε)) (message : Message)
    (later : List (Entry ε)) :
    turns (before ++ .received message :: later)
      = turns before ++ turns (.received message :: later) := by
  induction before with
  | nil => rfl
  | cons entry rest inductionHypothesis =>
      cases entry <;> simp [turns, silence_append_received, inductionHypothesis]

theorem map_heard_turns (journal : List (Entry ε)) :
    (turns journal).map Turn.heard = receivedIn journal := by
  induction journal with
  | nil => rfl
  | cons entry rest inductionHypothesis =>
      cases entry <;> simp [turns, Entry.received?, inductionHypothesis]

theorem receivedIn_silence (journal : List (Entry ε)) : receivedIn (silence journal) = [] := by
  induction journal with
  | nil => rfl
  | cons entry rest inductionHypothesis =>
      cases entry <;> simp [Entry.received?, inductionHypothesis]

/-- Around the first message received a journal can be taken apart. -/
theorem split_of_received {journal : List (Entry ε)} {first : Message} {others : List Message}
    (received : receivedIn journal = first :: others) :
    ∃ later, journal = silence journal ++ .received first :: later ∧ receivedIn later = others := by
  obtain ⟨before, entry, later, split, unheard, here, behind⟩ :=
    List.filterMap_eq_cons_iff.1 received
  cases entry with
  | received message =>
      cases here
      refine ⟨later, ?_, behind⟩
      rw [split, silence_append_received, Unheard.silence_eq unheard]
  | _ => cases here

theorem offeredIn_eq_silence_append_turns (journal : List (Entry ε)) :
    offeredIn journal
      = offeredIn (silence journal) ++ (turns journal).flatMap Turn.offered := by
  induction journal with
  | nil => rfl
  | cons entry rest inductionHypothesis =>
      cases entry <;>
        simp [turns, Entry.offered?, Entry.received?, inductionHypothesis]

theorem mem_offeredIn_of_mem_turns {journal : List (Entry ε)} {turn : Turn}
    (member : turn ∈ turns journal) : ∀ message ∈ turn.offered, message ∈ offeredIn journal := by
  intro message offered
  rw [offeredIn_eq_silence_append_turns]
  exact List.mem_append_right _ (List.mem_flatMap_of_mem member offered)

/-- Turns without an answer add nothing to what was handed over. -/
theorem offeredIn_eq_silence_append_answered (journal : List (Entry ε)) :
    offeredIn journal
      = offeredIn (silence journal) ++ (answered journal).flatMap Turn.offered := by
  have dropped (turnList : List Turn) :
      (turnList.filter fun turn => !turn.offered.isEmpty).flatMap Turn.offered
        = turnList.flatMap Turn.offered := by
    induction turnList with
    | nil => rfl
    | cons turn rest inductionHypothesis =>
        by_cases empty : turn.offered = [] <;> simp [empty, inductionHypothesis]
  rw [answered, dropped, ← offeredIn_eq_silence_append_turns]

/-! ## Journals that open with a request -/

section Request

variable {journal traffic : List (Entry ε)} {request : Message}

theorem answered_of_sent (opened : trafficIn journal = .sent request :: traffic) :
    answered journal = answered traffic := by
  rw [← answered_trafficIn, opened]
  rfl

theorem receivedIn_of_sent (opened : trafficIn journal = .sent request :: traffic) :
    receivedIn journal = receivedIn traffic := by
  rw [← receivedIn_trafficIn, opened]
  rfl

theorem offeredIn_of_sent (opened : trafficIn journal = .sent request :: traffic)
    (listening : Listening traffic) :
    offeredIn journal = request :: (answered traffic).flatMap Turn.offered := by
  have rest := offeredIn_eq_silence_append_answered traffic
  rw [listening, List.nil_append] at rest
  rw [← offeredIn_trafficIn, opened, offeredIn_cons, rest]
  rfl

theorem answered_of_unsent {cause : ε}
    (unopened : trafficIn journal = [.unsent request cause]) : answered journal = [] := by
  rw [← answered_trafficIn, unopened]
  rfl

theorem receivedIn_of_unsent {cause : ε}
    (unopened : trafficIn journal = [.unsent request cause]) : receivedIn journal = [] := by
  rw [← receivedIn_trafficIn, unopened]
  rfl

theorem offeredIn_of_unsent {cause : ε}
    (unopened : trafficIn journal = [.unsent request cause]) :
    offeredIn journal = [request] := by
  rw [← offeredIn_trafficIn, unopened]
  rfl

end Request

end CanOpen
