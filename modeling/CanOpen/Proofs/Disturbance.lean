import CanOpen.Proofs.Lockstep
import CanOpen.Proofs.Outlook
import CanOpen.Proofs.ServiceData
import CanOpen.Proofs.WellFormed

/-!
# Messages that do not matter

A transfer takes no notice of messages that are no service data replies of its node, nor of
a reply that comes again where it can be told from the one waited for.  With such messages
put between the others a transfer goes on as without them, as long as its budget lasts.
-/

set_option autoImplicit false

namespace CanOpen

/-! ## Plain links over drivers that send alike -/

namespace Bus.Outlook

/-- What matters to someone who sends, and what was sent. -/
def sending (outlook : Outlook) :
    List (Except String Unit) × List Can.Frame × Can.Maker Can.Frame :=
  (outlook.outcomes, outlook.sent, outlook.maker)

theorem arrivals_sendBy (message : Message) (outlook : Outlook) :
    (outlook.sendBy message).2.arrivals = outlook.arrivals := by
  unfold sendBy
  cases message.packWith outlook.maker with
  | error cause => rfl
  | ok frame =>
      simp only [transmit]
      split <;> rfl

theorem sendBy_alike (message : Message) {outlook outlook' : Outlook}
    (same : outlook.sending = outlook'.sending) :
    (outlook.sendBy message).map id sending = (outlook'.sendBy message).map id sending := by
  obtain ⟨arrivals, outcomes, delivered, sent, maker⟩ := outlook
  obtain ⟨arrivals', outcomes', delivered', sent', maker'⟩ := outlook'
  obtain ⟨rfl, same⟩ := Prod.mk.inj same
  obtain ⟨rfl, rfl⟩ := Prod.mk.inj same
  unfold sendBy
  cases message.packWith maker with
  | error cause => rfl
  | ok frame =>
      obtain _ | ⟨_ | _, others⟩ := outcomes <;> rfl

def readFirst : List Arrival → Except LinkFailure Message
  | [] => .error (.bus "no frame")
  | .error reason :: _ => .error (.bus reason)
  | .ok frame :: _ => (Message.parse frame).mapError .codec

theorem receiveBy_none (outlook : Outlook) :
    ∃ rest, outlook.receiveBy none = (readFirst outlook.arrivals, rest)
      ∧ rest.arrivals = outlook.arrivals.tail ∧ rest.sending = outlook.sending := by
  obtain ⟨_ | ⟨reason | frame, arrivals⟩, outcomes, delivered, sent, maker⟩ := outlook
  · exact ⟨_, rfl, rfl, rfl⟩
  · exact ⟨_, rfl, rfl, rfl⟩
  · exact ⟨_, rfl, rfl, rfl⟩

end Bus.Outlook

open Bus.Outlook (readFirst)

namespace PlainLink

/-- Whether two plain links send alike and have sent the same, and have these arrivals
before them. -/
structure Facing (arrivals arrivals' : List Arrival) (link link' : PlainLink) : Prop where
  left : link.bus.outlook.arrivals = arrivals
  right : link'.bus.outlook.arrivals = arrivals'
  sending : link.bus.outlook.sending = link'.bus.outlook.sending
  filterFailure : link.filterFailure = link'.filterFailure

def Alongside (link link' : PlainLink) : Prop :=
  ∃ arrivals arrivals', Facing arrivals arrivals' link link'

def Level (link link' : PlainLink) : Prop :=
  ∃ arrivals, Facing arrivals arrivals link link'

variable {arrivals arrivals' : List Arrival} {link link' : PlainLink}

theorem Facing.alongside (facing : Facing arrivals arrivals' link link') : Alongside link link' :=
  ⟨arrivals, arrivals', facing⟩

theorem Level.alongside : Level link link' → Alongside link link'
  | ⟨arrivals, facing⟩ => ⟨arrivals, arrivals, facing⟩

theorem facing_sends (arrivals arrivals' : List Arrival) :
    Transport.SendsAlike (Facing arrivals arrivals') := by
  intro message link link' facing
  have alike := Bus.Outlook.sendBy_alike message facing.sending
  rw [← link.outlook_send, ← link'.outlook_send] at alike
  have rest := congrArg Prod.snd (link.outlook_send message)
  have rest' := congrArg Prod.snd (link'.outlook_send message)
  have result := congrArg Prod.fst alike
  have sending := congrArg Prod.snd alike
  refine ⟨result, ?_, ?_, sending, facing.filterFailure⟩
  · exact (congrArg (·.arrivals) rest).trans ((Bus.Outlook.arrivals_sendBy _ _).trans facing.left)
  · exact (congrArg (·.arrivals) rest').trans
      ((Bus.Outlook.arrivals_sendBy _ _).trans facing.right)

theorem receive_first (link : PlainLink) :
    ∃ rest, Transport.receive link = (readFirst link.bus.outlook.arrivals, rest)
      ∧ rest.bus.outlook.arrivals = link.bus.outlook.arrivals.tail
      ∧ rest.bus.outlook.sending = link.bus.outlook.sending
      ∧ rest.filterFailure = link.filterFailure := by
  have received := link.outlook_receive
  obtain ⟨outlook, first, arrivals, sending⟩ := link.bus.outlook.receiveBy_none
  rw [first] at received
  obtain ⟨rest, received', rfl⟩ := Bus.exists_rest_of_map received
  have filterFailure : link.receive.2.filterFailure = link.filterFailure := rfl
  rw [received'] at filterFailure
  exact ⟨rest, received', arrivals, sending, filterFailure⟩

theorem Facing.receive_right (facing : Facing arrivals arrivals' link link') :
    ∃ rest', Transport.receive link' = (readFirst arrivals', rest')
      ∧ Facing arrivals arrivals'.tail link rest' := by
  obtain ⟨rest', received, right, sending, filterFailure⟩ := link'.receive_first
  rw [facing.right] at received right
  exact ⟨rest', received, facing.left, right, facing.sending.trans sending.symm,
    facing.filterFailure.trans filterFailure.symm⟩

theorem Facing.receive (facing : Facing arrivals arrivals' link link') :
    ∃ rest rest', Transport.receive link = (readFirst arrivals, rest)
      ∧ Transport.receive link' = (readFirst arrivals', rest')
      ∧ Facing arrivals.tail arrivals'.tail rest rest' := by
  obtain ⟨rest, received, left, sending, filterFailure⟩ := link.receive_first
  obtain ⟨rest', received', later⟩ := facing.receive_right
  rw [facing.left] at received left
  exact ⟨rest, rest', received, received', left, later.right, sending.trans later.sending,
    filterFailure.trans later.filterFailure⟩

theorem Facing.setNodeFilter (facing : Facing arrivals arrivals' link link') (node : UInt8) :
    Paired (Facing arrivals arrivals') (Transport.setNodeFilter node link)
      (Transport.setNodeFilter node link') := by
  have outlook := link.outlook_setNodeFilter node
  have outlook' := link'.outlook_setNodeFilter node
  have kept (link : PlainLink) :
      (link.setNodeFilter node).2.filterFailure = link.filterFailure := by
    unfold PlainLink.setNodeFilter
    split <;> rfl
  refine ⟨?_, ?_, ?_, ?_, ?_⟩
  · simp only [Transport.setNodeFilter, PlainLink.setNodeFilter, facing.filterFailure]
    split <;> rfl
  · exact (congrArg (·.arrivals) outlook).trans facing.left
  · exact (congrArg (·.arrivals) outlook').trans facing.right
  · exact (congrArg (·.sending) outlook).trans
      (facing.sending.trans (congrArg (·.sending) outlook').symm)
  · exact (kept link).trans (facing.filterFailure.trans (kept link').symm)

theorem level_lockstep : Transport.Lockstep Level where
  send message link link' := by
    rintro ⟨arrivals, facing⟩
    obtain ⟨same, rest⟩ := facing_sends arrivals arrivals message link link' facing
    exact ⟨same, arrivals, rest⟩
  receive link link' := by
    rintro ⟨arrivals, facing⟩
    obtain ⟨rest, rest', received, received', later⟩ := facing.receive
    exact ⟨by rw [received, received'], arrivals.tail, by rwa [received, received']⟩
  setNodeFilter node link link' := by
    rintro ⟨arrivals, facing⟩
    obtain ⟨same, rest⟩ := facing.setNodeFilter node
    exact ⟨same, arrivals, rest⟩
  clearNodeFilter _ _ level := ⟨rfl, level⟩

end PlainLink

/-! ## Messages put between others -/

def Message.IsReplyOf (node : UInt8) (message : Message) : Prop :=
  message.Carries .sdoTx 8 ∧ message.node = node.toUInt32

instance (node : UInt8) (message : Message) : Decidable (message.IsReplyOf node) :=
  inferInstanceAs (Decidable ((_ ∧ _ ∧ _ ∧ _) ∧ _))

namespace Sdo

/-- Which reply may come again: none, the first that moved the transfer on, or the last one. -/
inductive Recall where
  | nothing
  | first
  | last
  deriving DecidableEq, Repr

def Recall.update : Recall → Option Message → Message → Option Message
  | nothing, _, _ => none
  | first, stale, message => stale.or (some message)
  | last, _, message => some message

namespace Transfer

variable {S α : Type}

/-- Whether what arrives first ends the transfer: it fails, cannot be read or is answered
with a result. -/
def EndsOn (transfer : Transfer LinkFailure S α) (state : S) (script : List Arrival) : Prop :=
  ∀ message, readFirst script = .ok message →
    ∃ notes requests final result,
      transfer.hear state message = .finish notes requests final result

/-- Whether the second of two scripts is the first with messages put in that do not matter,
for a transfer in a state: messages that are no service data replies of the node, and the
one that may come again.  The number is the budget left, which has to last from each message
that moves the transfer on to the next, and up to the arrival that ends it; behind that one
nothing is put in. -/
inductive Padded (transfer : Transfer LinkFailure S α) (memory : Recall) :
    (stale : Option Message) → S → (left : Nat) → List Arrival → List Arrival → Prop
  | unchanged (stale : Option Message) (state : S) (script : List Arrival) :
      Padded transfer memory stale state transfer.budget script script
  | ended {stale : Option Message} {state : S} {left : Nat} {script : List Arrival}
      (ends : transfer.EndsOn state script) :
      Padded transfer memory stale state (left + 1) script script
  | ignored {stale : Option Message} {state : S} {left : Nat} {script padded : List Arrival}
      {frame : Can.Reported} {message : Message} {notes : List (Note LinkFailure)}
      (read : Message.parse frame = .ok message)
      (heard : transfer.hear state message = .ignore notes)
      (later : Padded transfer memory stale state left script padded) :
      Padded transfer memory stale state (left + 1) (.ok frame :: script) (.ok frame :: padded)
  | accepted {stale : Option Message} {state next : S} {left : Nat}
      {script padded : List Arrival} {frame : Can.Reported} {message : Message}
      {notes : List (Note LinkFailure)} {requests : List (Except CodecError Message)}
      (read : Message.parse frame = .ok message)
      (heard : transfer.hear state message = .proceed notes requests next)
      (later : Padded transfer memory (memory.update stale message) next transfer.budget
        script padded) :
      Padded transfer memory stale state (left + 1) (.ok frame :: script) (.ok frame :: padded)
  | putIn {stale : Option Message} {state : S} {left : Nat} {script padded : List Arrival}
      {frame : Can.Reported} {message : Message} (read : Message.parse frame = .ok message)
      (harmless : ¬ message.IsReplyOf transfer.node ∨ stale = some message)
      (later : Padded transfer memory stale state left script padded) :
      Padded transfer memory stale state (left + 1) script (.ok frame :: padded)

/-- What it takes to tell the reply that may come again from those waited for. -/
structure Recognizes (transfer : Transfer LinkFailure S α) (memory : Recall)
    (known : Option Message → S → Prop) : Prop where
  initial : known none transfer.initial
  ignores : ∀ {message state}, known (some message) state →
    ∃ notes, transfer.hear state message = .ignore notes
  keeps : ∀ {stale state message notes requests next}, known stale state →
    transfer.hear state message = .proceed notes requests next →
      known (memory.update stale message) next

variable {transfer : Transfer LinkFailure S α} {memory : Recall}
  {known : Option Message → S → Prop} {stale : Option Message} {state : S}
  {script padded : List Arrival} {link link' : PlainLink}

theorem hear_of_not_isReplyOf {frame : Can.Reported} {message : Message}
    (read : Message.parse frame = .ok message) (foreign : ¬ message.IsReplyOf transfer.node)
    (state : S) : ∃ notes, transfer.hear state message = .ignore notes := by
  obtain ⟨_, ignores⟩ | ⟨payload, body, said, _⟩ := transfer.hear_cases state message
  · exact ignores
  · cases own : message.isFrom .sdoTx transfer.node with
    | false =>
        rw [Message.said?, own] at said
        cases said
    | true =>
        simp only [Message.isFrom, Bool.and_eq_true, beq_iff_eq] at own
        obtain ⟨⟨_, function⟩, node⟩ := own
        obtain carries | ⟨_, _, other, _⟩ :=
          (Message.coherent_of_parse read).sdo_iff.1 ⟨payload, body⟩
        · exact (foreign ⟨carries, node⟩).elim
        · rw [function] at other
          cases other

theorem hear_of_harmless (recognizes : transfer.Recognizes memory known)
    (knows : known stale state) {frame : Can.Reported} {message : Message}
    (read : Message.parse frame = .ok message)
    (harmless : ¬ message.IsReplyOf transfer.node ∨ stale = some message) :
    ∃ notes, transfer.hear state message = .ignore notes := by
  obtain foreign | rfl := harmless
  · exact hear_of_not_isReplyOf read foreign state
  · exact recognizes.ignores knows

theorem readFirst_of_parse {frame : Can.Reported} {message : Message}
    (read : Message.parse frame = .ok message) (others : List Arrival) :
    readFirst (.ok frame :: others) = .ok message := by
  rw [readFirst, read]
  rfl

open PlainLink in
/-- What is put in uses up budget and does nothing else. -/
theorem await_padded (recognizes : transfer.Recognizes memory known) {left left' : Nat}
    (changes : transfer.Padded memory stale state left script padded)
    (knows : known stale state) (more : left ≤ left') (within : left' ≤ transfer.budget)
    (facing : Facing script padded link link') :
    Run.Alike Alongside Entry.isOffer (transfer.await state left' link)
      (transfer.await state left link') := by
  induction changes generalizing left' link link' with
  | unchanged stale state script =>
      obtain rfl : left' = transfer.budget := Nat.le_antisymm within more
      have level : PlainLink.Level link link' := ⟨script, facing⟩
      have waits : Run.Alike PlainLink.Level Entry.isOffer
          (transfer.await state transfer.budget link)
          (transfer.await state transfer.budget link') :=
        await_alike level_lockstep.send level_lockstep.receive level transfer.budget
      exact waits.weaken fun _ _ => Level.alongside
  | @ended stale state left script ends =>
      obtain ⟨left', rfl⟩ : ∃ more, left' = more + 1 := ⟨left' - 1, by omega⟩
      obtain ⟨rest, rest', received, received', later⟩ := facing.receive
      cases first : readFirst script with
      | error cause =>
          rw [first] at received received'
          exact await_alike_of_error left' left received received' later.alongside
      | ok message =>
          rw [first] at received received'
          obtain ⟨notes, requests, final, result, finishes⟩ := ends message first
          apply await_alike_of_received (fun _ _ => Facing.alongside)
            (facing_sends script.tail script.tail) received received' later (conclusive_true _)
          · intro _ heard _
            rw [finishes] at heard
            cases heard
          · intro _ _ _ heard _ _
            rw [finishes] at heard
            cases heard
  | @ignored stale state left script padded frame message notes read heard _
      inductionHypothesis =>
      obtain ⟨left', rfl⟩ : ∃ more, left' = more + 1 := ⟨left' - 1, by omega⟩
      obtain ⟨rest, rest', received, received', later⟩ := facing.receive
      rw [readFirst_of_parse read] at received received'
      apply await_alike_of_received (fun _ _ => Facing.alongside) (facing_sends script padded)
        received received' later (conclusive_true _)
      · intro _ _ _
        exact inductionHypothesis knows (by omega) (by omega) later
      · intro _ _ _ heard' _ _
        rw [heard] at heard'
        cases heard'
  | @accepted stale state next left script padded frame message notes requests read heard _
      inductionHypothesis =>
      obtain ⟨left', rfl⟩ : ∃ more, left' = more + 1 := ⟨left' - 1, by omega⟩
      obtain ⟨rest, rest', received, received', later⟩ := facing.receive
      rw [readFirst_of_parse read] at received received'
      apply await_alike_of_received (fun _ _ => Facing.alongside) (facing_sends script padded)
        received received' later (conclusive_true _)
      · intro _ heard' _
        rw [heard] at heard'
        cases heard'
      · intro _ _ _ heard' sent _
        rw [heard] at heard'
        cases heard'
        exact inductionHypothesis (recognizes.keeps knows heard) (Nat.le_refl _) (Nat.le_refl _)
          sent
  | @putIn stale state left script padded frame message read harmless later inductionHypothesis =>
      obtain ⟨rest', received', later⟩ := facing.receive_right
      rw [readFirst_of_parse read] at received'
      obtain ⟨notes, heard⟩ := hear_of_harmless recognizes knows read harmless
      rw [await_of_ignore left received' heard]
      apply (inductionHypothesis knows (Nat.le_of_succ_le more) within later).after_right
      simp [Entry.isOffer, Entry.offered?]

open PlainLink in
theorem run_padded (recognizes : transfer.Recognizes memory known)
    (changes : transfer.Padded memory none transfer.initial transfer.budget script padded)
    (facing : Facing script padded link link') :
    Run.Alike Alongside Entry.isOffer (transfer.run link) (transfer.run link') := by
  apply run_alike (fun _ _ => Facing.alongside) (facing_sends script padded) _ facing.alongside
    _ (conclusive_true _)
  · intro link link' facing _
    exact await_padded recognizes changes recognizes.initial (Nat.le_refl _) (Nat.le_refl _) facing
  · exact Exchange.setNodeFilter_alike (facing.setNodeFilter _) _

/-! ## Replies that come again -/

theorem recognizes_nothing (transfer : Transfer LinkFailure S α) :
    transfer.Recognizes .nothing (fun stale _ => stale = none) where
  initial := rfl
  ignores knows := by cases knows
  keeps _ _ := rfl

theorem recognizes_last (moves : ∀ {state message notes requests next},
      transfer.hear state message = .proceed notes requests next →
        ∃ notes, transfer.hear next message = .ignore notes) :
    transfer.Recognizes .last fun stale state =>
      ∀ message, stale = some message → ∃ notes, transfer.hear state message = .ignore notes where
  initial _ some := by cases some
  ignores knows := knows _ rfl
  keeps _ heard := by
    rintro _ ⟨⟩
    exact moves heard

theorem hear_of_isFrom {message : Message} {payload : Payload}
    (own : message.isFrom .sdoTx transfer.node = true) (body : message.body = .sdo payload) :
    transfer.hear state message = transfer.react state payload := by
  rw [hear, if_pos own, Message.payload?, body]

/-- What moves a transfer on is a service data reply of its node. -/
theorem hear_eq_react {message : Message} {notes : List (Note LinkFailure)}
    {requests : List (Except CodecError Message)} {next : S}
    (heard : transfer.hear state message = .proceed notes requests next) :
    ∃ payload, message.said? transfer.node = some (ServerCommand.ofByte payload.command)
      ∧ ∀ state, transfer.hear state message = transfer.react state payload := by
  obtain ⟨_, _, ignores⟩ | ⟨payload, body, said, _⟩ := transfer.hear_cases state message
  · rw [ignores] at heard
    cases heard
  · refine ⟨payload, said, fun state => ?_⟩
    obtain ⟨silent, _⟩ | ⟨payload', body', _, reacts⟩ := transfer.hear_cases state message
    · rw [silent] at said
      cases said
    · rw [body] at body'
      cases body'
      exact reacts

section Again

variable {budget : Nat} {node : UInt8} {index : UInt16} {subindex : UInt8} {data : List UInt8}
  {message : Message} {notes : List (Note LinkFailure)}
  {requests : List (Except CodecError Message)}

theorem hear_segmentedUpload_again {upload next : Upload}
    (heard : (segmentedUpload budget node index subindex data).hear upload message
      = .proceed notes requests next) :
    ∃ notes, (segmentedUpload budget node index subindex data).hear next message
      = (.ignore notes : Reaction LinkFailure Upload Nat) := by
  obtain ⟨payload, _, reacts⟩ := hear_eq_react heard
  rw [reacts] at heard ⊢
  obtain ⟨awaited, buffer⟩ := upload
  simp only [segmentedUpload] at heard ⊢
  cases command : ServerCommand.ofByte payload.command with
  | initiateUpload unused expedited sized =>
      rw [command] at heard
      cases awaited <;> cases expedited <;> cases heard
      exact ⟨_, rfl⟩
  | uploadSegment toggle unused last =>
      rw [command] at heard
      obtain _ | awaited := awaited
      · cases heard
      · by_cases own : toggle = awaited
        · subst own
          cases last <;> simp only [if_true] at heard <;> cases heard
          exact ⟨_, if_neg (by simp)⟩
        · simp only [own, if_false] at heard
          cases heard
  | _ =>
      rw [command] at heard
      cases awaited <;> cases heard

theorem unconfirmed_of_advance {toggle : Bool} {download next : Download}
    (advances : download.advance node toggle
      = (.proceed notes requests next : Reaction LinkFailure Download Unit)) :
    next.unconfirmed = some toggle := by
  unfold Download.advance at advances
  split at advances
  · cases advances
  · cases advances
    rfl

theorem hear_segmentedDownload_again {download next : Download}
    (heard : (segmentedDownload budget node index subindex data).hear download message
      = .proceed notes requests next) :
    ∃ notes, (segmentedDownload budget node index subindex data).hear next message
      = (.ignore notes : Reaction LinkFailure Download Unit) := by
  obtain ⟨payload, _, reacts⟩ := hear_eq_react heard
  rw [reacts] at heard ⊢
  simp only [segmentedDownload] at heard ⊢
  cases command : ServerCommand.ofByte payload.command with
  | initiateDownloadAck =>
      rw [command] at heard
      cases unconfirmed : download.unconfirmed <;> rw [unconfirmed] at heard
      · rw [unconfirmed_of_advance heard]
        exact ⟨_, rfl⟩
      · cases heard
  | downloadSegmentAck toggle =>
      rw [command] at heard
      cases unconfirmed : download.unconfirmed with
      | none =>
          rw [unconfirmed] at heard
          cases heard
      | some sent =>
          rw [unconfirmed] at heard
          by_cases own : toggle = sent
          · subst own
            simp only [if_true] at heard
            rw [unconfirmed_of_advance heard]
            exact ⟨_, if_neg (by simp)⟩
          · simp only [own, if_false] at heard
            cases heard
  | _ =>
      rw [command] at heard
      cases unconfirmed : download.unconfirmed <;> rw [unconfirmed] at heard <;> cases heard

theorem ne_opening_of_sendBlock {crc : Bool} {blockSize : UInt8} {before : List (Note LinkFailure)}
    {next : BlockDownload}
    (sends : sendBlock node index subindex before crc data blockSize
      = .proceed notes requests next) : next ≠ .opening := by
  unfold sendBlock at sends
  split at sends
  · cases sends
  · cases sends
    exact nofun

theorem hear_blockDownload_moves {offerCrc : Bool} {download next : BlockDownload}
    (heard : (blockDownload budget offerCrc node index subindex data).hear download message
      = .proceed notes requests next) :
    next ≠ .opening
    ∧ (download = .opening → ∃ crc, message.said? node = some (.blockDownload crc .opened)) := by
  obtain ⟨payload, said, reacts⟩ := hear_eq_react heard
  have saidNode : message.said? node = some (ServerCommand.ofByte payload.command) := said
  rw [reacts] at heard
  rw [saidNode]
  simp only [blockDownload] at heard
  cases command : ServerCommand.ofByte payload.command with
  | blockDownload crc stage =>
      rw [command] at heard
      cases stage with
      | opened =>
          cases download with
          | opening => exact ⟨ne_opening_of_sendBlock heard, fun _ => ⟨crc, rfl⟩⟩
          | _ => cases heard
      | acknowledged =>
          cases download with
          | sending wanted unconfirmed sent =>
              refine ⟨?_, nofun⟩
              simp only at heard
              split at heard
              · split at heard
                · cases heard
                  exact nofun
                · exact ne_opening_of_sendBlock heard
              · exact ne_opening_of_sendBlock heard
          | _ => cases heard
      | _ => cases download <;> cases heard
  | _ =>
      rw [command] at heard
      cases download <;> cases heard

/-- Whether the grant of a block download may come again: not before it came. -/
def KnowsGrant (node : UInt8) : Option Message → BlockDownload → Prop
  | none, download => download = .opening
  | some grant, download =>
      download ≠ .opening ∧ ∃ crc, grant.said? node = some (.blockDownload crc .opened)

theorem hear_blockDownload_granted {offerCrc : Bool} {download : BlockDownload}
    (underway : download ≠ .opening)
    (opens : ∃ crc, message.said? node = some (.blockDownload crc .opened)) :
    ∃ notes, (blockDownload budget offerCrc node index subindex data).hear download message
      = (.ignore notes : Reaction LinkFailure BlockDownload Unit) := by
  obtain ⟨crc, saysOpened⟩ := opens
  let transfer : Transfer LinkFailure BlockDownload Unit :=
    blockDownload budget offerCrc node index subindex data
  obtain ⟨_, ignores⟩ | ⟨payload, _, said, reacts⟩ := transfer.hear_cases download message
  · exact ignores
  · have saidNode : message.said? node = some (ServerCommand.ofByte payload.command) := said
    rw [saidNode, Option.some.injEq] at saysOpened
    rw [reacts]
    simp only [transfer, blockDownload, saysOpened]
    cases download with
    | opening => exact (underway rfl).elim
    | _ => exact ⟨_, rfl⟩

theorem recognizes_blockDownload (offerCrc : Bool) :
    (blockDownload budget offerCrc node index subindex data).Recognizes .first
      (KnowsGrant node) where
  initial := rfl
  ignores knows := hear_blockDownload_granted knows.1 knows.2
  keeps := by
    intro stale download message notes requests next knows heard
    obtain ⟨underway, opens⟩ := hear_blockDownload_moves heard
    cases stale with
    | none => exact ⟨underway, opens knows⟩
    | some grant => exact ⟨underway, knows.2⟩

end Again

end Transfer

/-- Whether the second of two scripts is the first with messages put in that do not matter
to a call, none for a call of another kind.  To transfers in segments the last reply may
come again, to a block download the grant may. -/
def Call.Padded (config : Config) (script padded : List Arrival) : Call → Prop
  | .expeditedUpload node index subindex =>
      let transfer : Transfer LinkFailure Unit UInt32 :=
        .expeditedUpload config.expeditedRounds node index subindex
      transfer.Padded .nothing none transfer.initial transfer.budget script padded
  | .expeditedDownload node index subindex data =>
      let transfer : Transfer LinkFailure Unit Unit :=
        .expeditedDownload config.transferRounds node index subindex data
      transfer.Padded .nothing none transfer.initial transfer.budget script padded
  | .segmentedUpload node index subindex contents =>
      let transfer : Transfer LinkFailure Transfer.Upload Nat :=
        .segmentedUpload config.transferRounds node index subindex contents
      transfer.Padded .last none transfer.initial transfer.budget script padded
  | .segmentedDownload node index subindex data =>
      let transfer : Transfer LinkFailure Transfer.Download Unit :=
        .segmentedDownload config.transferRounds node index subindex data
      transfer.Padded .last none transfer.initial transfer.budget script padded
  | .blockDownload node index subindex data =>
      let transfer : Transfer LinkFailure Transfer.BlockDownload Unit :=
        .blockDownload config.transferRounds config.blockCrc node index subindex data
      transfer.Padded .first none transfer.initial transfer.budget script padded
  | .blockUpload _ _ _ _ | .identity _ => script = padded

open PlainLink in
theorem Call.run_alongside {config : Config} {call : Call} {script padded : List Arrival}
    {link link' : PlainLink} (changes : call.Padded config script padded)
    (facing : Facing script padded link link') :
    Run.Alike Alongside Entry.isOffer (call.run config link) (call.run config link') := by
  simp only [run]
  cases call with
  | expeditedUpload node index subindex =>
      exact (Transfer.run_padded (Transfer.recognizes_nothing _) changes facing).map _
  | expeditedDownload node index subindex data =>
      exact (Transfer.run_padded (Transfer.recognizes_nothing _) changes facing).map _
  | segmentedUpload node index subindex contents =>
      have alike := Transfer.run_padded
        (Transfer.recognizes_last Transfer.hear_segmentedUpload_again) changes facing
      exact alike.map _
  | segmentedDownload node index subindex data =>
      have alike := Transfer.run_padded
        (Transfer.recognizes_last Transfer.hear_segmentedDownload_again) changes facing
      exact alike.map _
  | blockDownload node index subindex data =>
      exact (Transfer.run_padded (Transfer.recognizes_blockDownload _) changes facing).map _
  | blockUpload node index subindex contents => exact ⟨rfl, rfl, facing.alongside⟩
  | identity node =>
      obtain rfl : script = padded := changes
      have level : PlainLink.Level link link' := ⟨script, facing⟩
      apply Run.Alike.weaken _ fun _ _ => Level.alongside
      exact Call.run_lockstep level_lockstep level config (.identity node)

/-- A call answers the same and sends the same if messages that do not matter to it are put
between those that it receives. -/
theorem Call.run_undisturbed (config : Config) (call : Call) (link disturbed : PlainLink)
    (outcomes : link.bus.outlook.outcomes = disturbed.bus.outlook.outcomes)
    (sent : link.bus.outlook.sent = disturbed.bus.outlook.sent)
    (maker : link.bus.maker = disturbed.bus.maker)
    (filterFailure : link.filterFailure = disturbed.filterFailure)
    (changes : call.Padded config link.bus.outlook.arrivals disturbed.bus.outlook.arrivals) :
    let run := call.run config link
    let disturbedRun := call.run config disturbed
    disturbedRun.answer = run.answer
    ∧ offeredIn disturbedRun.journal = offeredIn run.journal
    ∧ disturbedRun.transport.bus.outlook.sent = run.transport.bus.outlook.sent := by
  intro run disturbedRun
  have facing : PlainLink.Facing link.bus.outlook.arrivals disturbed.bus.outlook.arrivals link
      disturbed :=
    ⟨rfl, rfl, Prod.ext outcomes (Prod.ext sent maker), filterFailure⟩
  have alike := call.run_alongside changes facing
  obtain ⟨_, _, later⟩ := alike.transport
  exact ⟨alike.answer.symm, alike.offeredIn_eq.symm, (congrArg (·.2.1) later.sending).symm⟩

/-- Within a budget of three for each reply, an upload of two bytes gets a state of another
node, its grant once more and a reply that is too short. -/
theorem Call.run_undisturbed_upload :
    let grant : Can.Reported := ⟨.standard 0x585, false, 8, [0x41, 0, 0x20, 1, 2, 0, 0, 0]⟩
    let segment : Can.Reported := ⟨.standard 0x585, false, 8, [0x0B, 7, 8, 0, 0, 0, 0, 0]⟩
    let foreign : Can.Reported := ⟨.standard 0x706, false, 1, [0x05]⟩
    let short : Can.Reported := ⟨.standard 0x585, false, 3, [0x80, 0, 0x20]⟩
    let link (frames : List Can.Reported) : PlainLink :=
      ⟨⟨frames.map .frame, ⟨[], [], 0⟩, [], #[], 0, 0, Can.Frame.maker⟩, none⟩
    let config : Config := { transferRounds := 3 }
    let run := (Call.segmentedUpload 5 0x2000 1 [0, 0]).run config
      (link [foreign, grant, grant, short, segment])
    run.answer.result = .ok (.count 2) ∧ run.answer.buffer = some [7, 8] := by
  intro grant segment foreign short link config run
  let call : Call := .segmentedUpload 5 0x2000 1 [0, 0]
  let reply (payload : Payload) : Message := ⟨.standard, false, some .sdoTx, 5, .sdo payload, 8⟩
  have granted : Message.parse grant = .ok (reply ⟨0x41, 0x2000, 1, #v[2, 0, 0, 0]⟩) :=
    eq_ok_of_toOption (by decide +kernel)
  have sent : Message.parse segment = .ok (reply ⟨0x0B, 0x0807, 0, #v[0, 0, 0, 0]⟩) :=
    eq_ok_of_toOption (by decide +kernel)
  let upload : Transfer LinkFailure Transfer.Upload Nat := .segmentedUpload 3 5 0x2000 1 [0, 0]
  let opened : Transfer.Upload := ⟨some false, Buffer.ofContents [0, 0]⟩
  have opens : ∃ notes requests,
      upload.hear upload.initial (reply ⟨0x41, 0x2000, 1, #v[2, 0, 0, 0]⟩)
        = .proceed notes requests opened := by
    have grants : ServerCommand.ofByte 0x41 = .initiateUpload 0 false true := rfl
    rw [Transfer.hear_of_isFrom rfl rfl]
    simp only [upload, Transfer.segmentedUpload, grants]
    exact ⟨_, _, rfl⟩
  have ends : upload.EndsOn opened [.ok segment] := by
    intro message first
    rw [Transfer.readFirst_of_parse sent] at first
    cases first
    have brings : ServerCommand.ofByte 0x0B = .uploadSegment false 5 true := rfl
    rw [Transfer.hear_of_isFrom rfl rfl]
    simp only [upload, opened, Transfer.segmentedUpload, brings]
    exact ⟨_, _, _, _, rfl⟩
  have changes : call.Padded config (link [grant, segment]).bus.outlook.arrivals
      (link [foreign, grant, grant, short, segment]).bus.outlook.arrivals := by
    obtain ⟨notes, requests, opens⟩ := opens
    apply Transfer.Padded.putIn rfl (.inl (by decide))
    apply Transfer.Padded.accepted granted opens
    apply Transfer.Padded.putIn granted (.inr rfl)
    apply Transfer.Padded.putIn rfl (.inl (by decide))
    exact .ended ends
  obtain ⟨answer, _⟩ := call.run_undisturbed config (link [grant, segment])
    (link [foreign, grant, grant, short, segment]) rfl rfl rfl rfl changes
  have alone : (call.run config (link [grant, segment])).answer.result = .ok (.count 2) :=
    eq_ok_of_toOption (by decide +kernel)
  have buffer : (call.run config (link [grant, segment])).answer.buffer = some [7, 8] := by
    decide +kernel
  rw [← answer] at alone buffer
  exact ⟨alone, buffer⟩

end Sdo

end CanOpen
