import CanOpen.Proofs.Lockstep

/-!
# Where two runs part

What a call does next is decided by what its transport has answered so far.  So two runs of
the same call, over any two transports, have the same answer and the same journal, or the
journals are the same up to an operation that the two transports have answered differently.
-/

set_option autoImplicit false

namespace CanOpen

variable {σ τ ε ρ : Type}

/-- What can be asked of a transport in the course of a call. -/
inductive Asked where
  | send (message : Message)
  | receive
  | filter (node : UInt8)

def Entry.asked? : Entry ε → Option Asked
  | sent message | unsent message _ => some (.send message)
  | received _ | unreceived _ => some .receive
  | filtered node | unfiltered node _ => some (.filter node)
  | noted _ => none

/-- The entry for what becomes of a reception. -/
def Entry.reception : Except ε Message → Entry ε
  | .ok message => received message
  | .error cause => unreceived cause

theorem Entry.asked?_reception (result : Except ε Message) :
    (reception result).asked? = some .receive := by
  cases result <;> rfl

theorem Entry.reception_injective {result result' : Except ε Message}
    (same : reception result = reception result') : result = result' := by
  cases result <;> cases result' <;> cases same <;> rfl

/-- Whether two journals are the same up to an operation that was answered differently. -/
def Part (left right : List (Entry ε)) : Prop :=
  ∃ common entry entry' later later' asked,
    left = common ++ entry :: later ∧ right = common ++ entry' :: later'
    ∧ entry.asked? = some asked ∧ entry'.asked? = some asked ∧ entry ≠ entry'

theorem Part.append_left {left right : List (Entry ε)} (part : Part left right)
    (before : List (Entry ε)) : Part (before ++ left) (before ++ right) := by
  obtain ⟨common, entry, entry', later, later', asked, rfl, rfl, differently⟩ := part
  exact ⟨before ++ common, entry, entry', later, later', asked,
    (List.append_assoc _ _ _).symm, (List.append_assoc _ _ _).symm, differently⟩

theorem Part.append_right {left right : List (Entry ε)} (part : Part left right)
    (behind behind' : List (Entry ε)) : Part (left ++ behind) (right ++ behind') := by
  obtain ⟨common, entry, entry', later, later', asked, rfl, rfl, differently⟩ := part
  exact ⟨common, entry, entry', later ++ behind, later' ++ behind', asked,
    List.append_assoc _ _ _, List.append_assoc _ _ _, differently⟩

namespace Run

/-- A run that goes on, whatever has been answered. -/
def bind {α β : Type} (run : Run σ ε α) (next : α → σ → Run σ ε β) : Run σ ε β :=
  (next run.answer run.transport).after run.journal

theorem andThen_eq_bind {φ α β : Type} (run : Run σ ε (Except φ α))
    (next : α → σ → Run σ ε (Except φ β)) :
    run.andThen next = run.bind fun result transport =>
      match result with
      | .error failure => ⟨.error failure, transport, []⟩
      | .ok value => next value transport := by
  cases answer : run.answer with
  | error failure =>
      rw [andThen_of_error answer, bind, answer]
      simp only [after, List.append_nil]
  | ok value => rw [andThen_of_ok answer, bind, answer]

/-- Whether two runs are the same but for their transports, or part. -/
def Concur (left : Run σ ε ρ) (right : Run τ ε ρ) : Prop :=
  (left.answer = right.answer ∧ left.journal = right.journal)
  ∨ Part left.journal right.journal

namespace Concur

theorem same (answer : ρ) (s : σ) (t : τ) (journal : List (Entry ε)) :
    Concur ⟨answer, s, journal⟩ ⟨answer, t, journal⟩ :=
  .inl ⟨rfl, rfl⟩

variable {left : Run σ ε ρ} {right : Run τ ε ρ}

/-- The first operation is answered alike, or it is where the runs part. -/
theorem of_first {entry entry' : Entry ε} {later later' : List (Entry ε)} {asked : Asked}
    (first : left.journal = entry :: later) (first' : right.journal = entry' :: later')
    (asks : entry.asked? = some asked) (asks' : entry'.asked? = some asked)
    (alike : entry = entry' → Concur left right) : Concur left right := by
  by_cases equal : entry = entry'
  · exact alike equal
  · exact .inr ⟨[], entry, entry', later, later', asked, first, first', asks, asks', equal⟩

theorem map {ρ' : Type} (concur : Concur left right) (view : ρ → ρ') :
    Concur (left.map view) (right.map view) :=
  concur.imp_left fun ⟨answer, journal⟩ => ⟨congrArg view answer, journal⟩

theorem after (concur : Concur left right) (before : List (Entry ε)) :
    Concur (left.after before) (right.after before) :=
  concur.imp (fun ⟨answer, journal⟩ => ⟨answer, congrArg (before ++ ·) journal⟩)
    fun part => part.append_left before

theorem bind {ρ' : Type} (concur : Concur left right) {next : ρ → σ → Run σ ε ρ'}
    {next' : ρ → τ → Run τ ε ρ'}
    (later : ∀ answer, Concur (next answer left.transport) (next' answer right.transport)) :
    Concur (left.bind next) (right.bind next') := by
  obtain ⟨answer, journal⟩ | part := concur
  · rw [Run.bind, Run.bind, ← answer, ← journal]
    exact (later left.answer).after left.journal
  · exact .inr (part.append_right _ _)

theorem andThen {φ α β : Type} {left : Run σ ε (Except φ α)} {right : Run τ ε (Except φ α)}
    {next : α → σ → Run σ ε (Except φ β)} {next' : α → τ → Run τ ε (Except φ β)}
    (concur : Concur left right) (later : ∀ value s t, Concur (next value s) (next' value t)) :
    Concur (left.andThen next) (right.andThen next') := by
  rw [andThen_eq_bind, andThen_eq_bind]
  apply concur.bind
  intro result
  cases result with
  | error failure => exact .same _ _ _ _
  | ok value => exact later value _ _

end Concur

end Run

variable [Transport σ ε] [Transport τ ε]

theorem Exchange.send_concur (message : Message) (s : σ) (t : τ) :
    (Exchange.send message s).Concur (Exchange.send message t) := by
  unfold Exchange.send
  cases Transport.send message s with
  | mk result s' =>
      cases Transport.send message t with
      | mk result' t' =>
          cases result <;> cases result' <;>
            exact .of_first rfl rfl rfl rfl fun same => by cases same <;> exact .same _ _ _ _

theorem Exchange.setNodeFilter_concur (remark : ε → Note ε) (node : UInt8) (s : σ) (t : τ) :
    (Exchange.setNodeFilter remark node s).Concur (Exchange.setNodeFilter remark node t) := by
  unfold Exchange.setNodeFilter
  cases Transport.setNodeFilter node s with
  | mk result s' =>
      cases Transport.setNodeFilter node t with
      | mk result' t' =>
          cases result <;> cases result' <;>
            exact .of_first rfl rfl rfl rfl fun same => by cases same <;> exact .same _ _ _ _

namespace Sdo

theorem sendAll_concur (requests : List (Except CodecError Message)) (s : σ) (t : τ) :
    (sendAll requests s).Concur (sendAll requests t) := by
  induction requests generalizing s t with
  | nil => exact .same _ _ _ _
  | cons request others inductionHypothesis =>
      cases request with
      | error cause => exact .same _ _ _ _
      | ok message =>
          rw [sendAll, sendAll]
          apply Run.Concur.andThen
          · exact (Exchange.send_concur message s t).map _
          · exact fun _ s t => inductionHypothesis s t

namespace Transfer

variable {S α : Type} (transfer : Transfer ε S α)

theorem await_eq_bind {state next : S} {transport rest : σ} {message : Message}
    {notes : List (Note ε)} {requests : List (Except CodecError Message)} (left : Nat)
    (received : Transport.receive transport = (.ok message, rest))
    (heard : transfer.hear state message = .proceed notes requests next) :
    transfer.await state (left + 1) transport
      = ((sendAll requests rest).bind fun answer transport =>
          match answer with
          | .error failure => ⟨⟨.error failure, next⟩, transport, []⟩
          | .ok () => transfer.await next transfer.budget transport).after
            (.received message :: notes.map .noted) := by
  cases answer : (sendAll requests rest).answer with
  | error failure =>
      rw [await_of_interrupted left received heard answer, Run.bind, answer]
      simp only [Run.after, Run.map, List.append_nil]
  | ok value => rw [await_of_proceed left received heard answer, Run.bind, answer]

theorem start_eq_bind (request : Message) (transport : σ) :
    transfer.start request transport
      = (Exchange.send request transport).bind fun answer transport =>
          match answer with
          | .error cause => ⟨⟨.error (.transport cause), transfer.initial⟩, transport, []⟩
          | .ok () => transfer.await transfer.initial transfer.budget transport := by
  unfold start
  cases answer : (Exchange.send request transport).answer with
  | error cause => simp only [Run.bind, answer, Run.after, List.append_nil]
  | ok value => simp only [Run.bind, answer]

/-- What becomes of a reception is put on record before anything is done about it. -/
theorem await_first {transport rest : σ} {result : Except ε Message} (state : S) (left : Nat)
    (received : Transport.receive transport = (result, rest)) :
    ∃ later, (transfer.await state (left + 1) transport).journal = .reception result :: later := by
  cases result with
  | error cause =>
      rw [await_of_error left received]
      exact ⟨[], rfl⟩
  | ok message =>
      cases heard : transfer.hear state message with
      | ignore notes =>
          rw [await_of_ignore left received heard]
          exact ⟨_, rfl⟩
      | proceed notes requests next =>
          rw [await_eq_bind transfer left received heard]
          exact ⟨_, rfl⟩
      | finish notes requests final result =>
          rw [await_of_finish left received heard]
          exact ⟨_, rfl⟩

/-- Two runs that have received the same message go on alike if all shorter ones do. -/
theorem await_concur_of_received {message : Message} {s s' : σ} {t t' : τ} (state : S) (left : Nat)
    (received : Transport.receive s = (.ok message, s'))
    (received' : Transport.receive t = (.ok message, t'))
    (later : ∀ (state : S) (left : Nat) (u : σ) (v : τ), Transport.horizon u < Transport.horizon s →
      (transfer.await state left u).Concur (transfer.await state left v)) :
    (transfer.await state (left + 1) s).Concur (transfer.await state (left + 1) t) := by
  have lower := Transport.horizon_receive_lt s s' message received
  cases heard : transfer.hear state message with
  | ignore notes =>
      rw [await_of_ignore left received heard, await_of_ignore left received' heard]
      exact (later state left s' t' lower).after _
  | proceed notes requests next =>
      rw [await_eq_bind transfer left received heard, await_eq_bind transfer left received' heard]
      refine ((sendAll_concur requests s' t').bind fun answer => ?_).after _
      cases answer with
      | error failure => exact .same _ _ _ _
      | ok =>
          have sent := horizon_sendAll_le requests s'
          exact later next transfer.budget _ _ (Nat.lt_of_le_of_lt sent lower)
  | finish notes requests final result =>
      rw [await_of_finish left received heard, await_of_finish left received' heard]
      exact ((sendAll_concur requests s' t').map _).after _

theorem await_concur (state : S) (left : Nat) (s : σ) (t : τ) :
    (transfer.await state left s).Concur (transfer.await state left t) := by
  -- Every message received lowers the horizon, so the induction is on the horizon.
  induction bound : Transport.horizon s using Nat.strongRecOn generalizing state s t left with
  | ind bound inductionHypothesis =>
    subst bound
    cases left with
    | zero =>
        rw [await, await]
        exact .same _ _ _ _
    | succ left =>
        cases received : Transport.receive s with
        | mk result s' =>
          cases received' : Transport.receive t with
          | mk result' t' =>
            obtain ⟨_, first⟩ := transfer.await_first state left received
            obtain ⟨_, first'⟩ := transfer.await_first state left received'
            refine .of_first first first' (Entry.asked?_reception result)
              (Entry.asked?_reception result') fun same => ?_
            obtain rfl := Entry.reception_injective same
            cases result with
            | error cause =>
                rw [await_of_error left received, await_of_error left received']
                exact .same _ _ _ _
            | ok message =>
                exact transfer.await_concur_of_received state left received received'
                  fun state left u v lower => inductionHypothesis _ lower state left u v rfl

theorem start_concur (request : Message) (s : σ) (t : τ) :
    (transfer.start request s).Concur (transfer.start request t) := by
  rw [start_eq_bind, start_eq_bind]
  refine (Exchange.send_concur request s t).bind fun answer => ?_
  cases answer with
  | error cause => exact .same _ _ _ _
  | ok => exact transfer.await_concur _ _ _ _

theorem run_concur (s : σ) (t : τ) : (transfer.run s).Concur (transfer.run t) := by
  have filtering := Exchange.setNodeFilter_concur
    (.transferUnfiltered transfer.node) transfer.node s t
  unfold run
  cases transfer.request with
  | ok request => exact filtering.bind fun _ => transfer.start_concur request _ _
  | error cause =>
      cases transfer.filtersAnyway with
      | true => exact filtering.map fun _ => _
      | false => exact .same _ _ _ _

end Transfer

theorem readIdentity_concur (budget : Nat) (node : UInt8) (s : σ) (t : τ) :
    (readIdentity budget node s).Concur (readIdentity budget node t) := by
  have reads (subindex : UInt8) (s : σ) (t : τ) :=
    ((Transfer.expeditedUpload budget node identityIndex subindex).run_concur s t).map
      Ending.result
  unfold readIdentity
  apply Run.Concur.andThen (reads 1 s t)
  intro vendorId s t
  apply Run.Concur.andThen (reads 2 s t)
  intro productCode s t
  exact (reads 3 s t).map _

theorem Call.run_concur (config : Config) (call : Call) (s : σ) (t : τ) :
    (call.run config s).Concur (call.run config t) := by
  cases call with
  | blockUpload node index subindex contents => exact .same _ _ _ _
  | identity node => exact (readIdentity_concur _ node s t).map _
  | _ => exact (Transfer.run_concur _ s t).map _

end Sdo

end CanOpen
