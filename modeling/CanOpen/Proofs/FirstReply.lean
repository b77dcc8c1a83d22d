import CanOpen.Proofs.Awaiting
import CanOpen.Proofs.GivingUp
import CanOpen.Proofs.ObjectValues
import CanOpen.Proofs.RequestReading

/-!
# The reply that decides an expedited upload

An expedited upload sends one request and is decided by the first reply that grants or
refuses it, by the bits and bytes of that reply alone.  The identity of a node is three such
uploads, each of which goes on where the one before stopped.
-/

set_option autoImplicit false

namespace CanOpen

variable {σ ε : Type}

open Sdo
open Transport (Brings Offers)

/-! ## What a reply decides -/

namespace Sdo.Payload

/-- The data bytes of an object, by the command byte: all four but those that are declared
as unused, all four if no size is given. -/
def objectBytes (payload : Payload) : List UInt8 :=
  payload.data.toList.take
    (if payload.command.toNat % 2 = 1 then 4 - payload.command.toNat / 4 % 4 else 4)

/-- What a reply decides about an expedited upload, if its specifier is to initiate an upload
or to abort. -/
def uploadVerdict? (payload : Payload) : Option (Except (Failure ε) UInt32) :=
  if payload.command.toNat / 32 = 2 then
    if payload.command.toNat / 2 % 2 = 1 then
      some (.ok (UInt32.ofNat (LittleEndian.combine payload.objectBytes)))
    else
      some (.error (.unsupported "segmented reply to an expedited upload"))
  else if payload.command.toNat / 32 = 4 then
    some (.error (.abort payload.word payload.abortDescription))
  else
    none

variable {payload : Payload}

theorem length_objectBytes_le (payload : Payload) : payload.objectBytes.length ≤ 4 := by
  rw [objectBytes, List.length_take, Vector.length_toList]
  exact Nat.min_le_right _ _

theorem expeditedData_eq_objectBytes (expedited : payload.command.toNat / 2 % 2 = 1) :
    payload.expeditedData = payload.objectBytes := by
  have travels : Initiate.expedited.isSet payload.command = true := by
    rw [BitField.isSet_eq rfl (by decide)]
    exact decide_eq_true expedited
  have declares : Initiate.sized.isSet payload.command
      = decide (payload.command.toNat % 2 = 1) := by
    rw [BitField.isSet_eq rfl (by decide)]
    simp [Initiate.sized]
  have unused : (Initiate.unused.get payload.command).toNat = payload.command.toNat / 4 % 4 :=
    BitField.toNat_get 2 rfl (by decide) _
  rw [expeditedData, expeditedSize, if_pos travels, declares, unused, objectBytes]
  simp only [decide_eq_true_eq]

end Sdo.Payload

namespace Message

/-- The service data of a message, if it is a reply of the node. -/
def reply? (node : UInt8) (message : Message) : Option Payload :=
  if message.isFrom .sdoTx node then
    match message.body with
    | .sdo payload => some payload
    | _ => none
  else
    none

theorem said?_eq_map_reply? (node : UInt8) (message : Message) :
    message.said? node = (message.reply? node).map fun payload =>
      ServerCommand.ofByte payload.command := by
  rw [said?, reply?]
  split
  · cases message.body <;> rfl
  · rfl

theorem body_of_reply? {node : UInt8} {message : Message} {payload : Payload}
    (replies : message.reply? node = some payload) : message.body = .sdo payload := by
  unfold reply? at replies
  split at replies
  · split at replies
    next body =>
      cases replies
      exact body
    next => cases replies
  · cases replies

/-- The replies of a node are its service data messages of eight bytes. -/
theorem reply?_eq_some_iff {node : UInt8} {message : Message} {payload : Payload}
    (coherent : message.Coherent) :
    message.reply? node = some payload
      ↔ message.IsReplyOf node ∧ payload = Payload.ofOctets message.octets := by
  have speaks : message.said? node ≠ none ↔ message.IsReplyOf node := said?_ne_none_iff coherent
  rw [said?_eq_map_reply?, ne_eq, Option.map_eq_none_iff] at speaks
  constructor
  · intro replies
    have octets := octets_of_body (body_of_reply? replies)
    refine ⟨speaks.1 (by rw [replies]; exact Option.some_ne_none _), ?_⟩
    rw [octets, Payload.ofOctets_toOctets]
  · rintro ⟨reply, rfl⟩
    obtain ⟨payload, replies⟩ := Option.ne_none_iff_exists'.1 (speaks.2 reply)
    rw [replies, octets_of_body (body_of_reply? replies), Payload.ofOctets_toOctets]

end Message

/-! ## Transfers that one reply decides -/

namespace Sdo

/-- A question that a reply of the node decides, by its service data. -/
def replyInquiry {α : Type} (node : UInt8)
    (decides? : Payload → Option (Except (Failure ε) α)) : Inquiry ε (Failure ε) α where
  verdict? message := (message.reply? node).bind decides?
  fault := .transport
  late := .timeout

theorem Transfer.hear_of_reply {S α : Type} (transfer : Transfer ε S α) (state : S)
    (message : Message) :
    (message.reply? transfer.node = none ∧ ∃ notes, transfer.hear state message = .ignore notes)
    ∨ ∃ payload, message.reply? transfer.node = some payload
      ∧ transfer.hear state message = transfer.react state payload := by
  unfold Transfer.hear Message.reply? Message.payload?
  by_cases own : message.isFrom .sdoTx transfer.node
  · rw [if_pos own, if_pos own]
    cases message.body with
    | sdo payload => exact .inr ⟨payload, rfl, rfl⟩
    | _ => exact .inl ⟨rfl, _, rfl⟩
  · rw [if_neg own, if_neg own]
    exact .inl ⟨rfl, _, rfl⟩

/-- Whether a transfer finishes without a further request on every reply that decides, and
ignores all others. -/
def Transfer.Heeds {S α : Type} (transfer : Transfer ε S α)
    (decides? : Payload → Option (Except (Failure ε) α)) : Prop :=
  ∀ payload,
    (decides? payload = none
      ∧ ∃ notes, transfer.react transfer.initial payload = .ignore notes)
    ∨ ∃ result notes final, decides? payload = some result
      ∧ transfer.react transfer.initial payload = .finish notes [] final result

section Heeds

variable {S α : Type} {transfer : Transfer ε S α}
  {decides? : Payload → Option (Except (Failure ε) α)}

theorem Transfer.Heeds.hear (heeds : transfer.Heeds decides?) (message : Message) :
    ((replyInquiry transfer.node decides?).verdict? message = none
      ∧ ∃ notes, transfer.hear transfer.initial message = .ignore notes)
    ∨ ∃ result notes final, (replyInquiry transfer.node decides?).verdict? message = some result
      ∧ transfer.hear transfer.initial message = .finish notes [] final result := by
  simp only [replyInquiry]
  obtain ⟨unsaid, ignores⟩ | ⟨payload, replies, hears⟩ :=
    transfer.hear_of_reply transfer.initial message
  · rw [unsaid, Option.bind_none]
    exact .inl ⟨rfl, ignores⟩
  · rw [replies, Option.bind_some, hears]
    exact heeds payload

theorem Transfer.Heeds.waits [Transport σ ε] (heeds : transfer.Heeds decides?) :
    (replyInquiry transfer.node decides?).Waits fun left (transport : σ) =>
      (transfer.await transfer.initial left transport).map Ending.result where
  exhausted transport := by
    rw [await]
    rfl
  failed left failed := by
    rw [await_of_error left failed]
    rfl
  decided := by
    intro transport rest message result left received decided
    obtain ⟨undecided, _⟩ | ⟨result', notes, final, decides, finishes⟩ := heeds.hear message
    · rw [undecided] at decided
      cases decided
    · obtain rfl := Option.some.inj (decides.symm.trans decided)
      refine ⟨notes, ?_⟩
      rw [await_of_finish left received finishes]
      simp [sendAll, Run.map, Run.after, Except.bind]
  passed := by
    intro transport rest message left received undecided
    obtain ⟨_, notes, ignores⟩ | ⟨result, _, _, decides, _⟩ := heeds.hear message
    · refine ⟨notes, ?_⟩
      rw [await_of_ignore left received ignores]
      rfl
    · rw [decides] at undecided
      cases undecided

end Heeds

/-! ## Expedited uploads -/

def uploadInquiry (node : UInt8) : Inquiry ε (Failure ε) UInt32 :=
  replyInquiry node Payload.uploadVerdict?

def uploadOpening (node : UInt8) (index : UInt16) (subindex : UInt8) : Message :=
  .request node (Order.initiateUpload index subindex).octets

theorem initiateUpload_eq_ok {node : UInt8} (nodeFits : node.toNat ≤ 127) (index : UInt16)
    (subindex : UInt8) :
    Request.initiateUpload node index subindex = .ok (uploadOpening node index subindex) :=
  Request.about_eq_ok nodeFits _ index subindex _

theorem ServerCommand.ofByte_eq_initiateUpload {byte : UInt8} (two : byte.toNat / 32 = 2) :
    ofByte byte = .initiateUpload (Initiate.unused.get byte) (decide (byte.toNat / 2 % 2 = 1))
      (Initiate.sized.isSet byte) := by
  have expedited : Initiate.expedited.isSet byte = decide (byte.toNat / 2 % 2 = 1) :=
    BitField.isSet_eq rfl (by decide) byte
  rw [ofByte, toNat_specifier, two]
  simp only [expedited]

theorem ServerCommand.specifier_of_initiateUpload {byte unused : UInt8} {expedited sized : Bool}
    (named : ofByte byte = .initiateUpload unused expedited sized) : byte.toNat / 32 = 2 := by
  rw [ofByte, toNat_specifier] at named
  split at named
  all_goals try contradiction
  assumption

theorem heeds_expeditedUpload (budget : Nat) (node : UInt8) (index : UInt16)
    (subindex : UInt8) :
    (Transfer.expeditedUpload budget node index subindex : Transfer ε Unit UInt32).Heeds
      Payload.uploadVerdict? := by
  intro payload
  by_cases grants : payload.command.toNat / 32 = 2
  · right
    have said := ServerCommand.ofByte_eq_initiateUpload grants
    by_cases expedited : payload.command.toNat / 2 % 2 = 1
    · have value : ObjectValue.decode payload.expeditedData
          = .ok (UInt32.ofNat (LittleEndian.combine payload.objectBytes)) := by
        rw [Payload.expeditedData_eq_objectBytes expedited]
        exact ObjectValue.decode_of_length_le payload.length_objectBytes_le
      refine ⟨_, [], (), by rw [Payload.uploadVerdict?, if_pos grants, if_pos expedited], ?_⟩
      rw [decide_eq_true expedited] at said
      unfold Transfer.expeditedUpload
      simp only [said, value, Except.mapError]
    · refine ⟨_, [], (), by rw [Payload.uploadVerdict?, if_pos grants, if_neg expedited], ?_⟩
      rw [decide_eq_false expedited] at said
      unfold Transfer.expeditedUpload
      simp only [said]
  · by_cases aborts : payload.command.toNat / 32 = 4
    · have said := (ServerCommand.ofByte_eq_abort_iff payload.command).2 aborts
      have finishes :
          (Transfer.expeditedUpload budget node index subindex : Transfer ε Unit UInt32).react ()
            payload = .aborted node payload () := by
        unfold Transfer.expeditedUpload
        simp only [said]
      exact .inr ⟨_, _, (), by rw [Payload.uploadVerdict?, if_neg grants, if_pos aborts], finishes⟩
    · left
      -- All other specifiers fall to the last arm, whatever they are.
      refine ⟨by rw [Payload.uploadVerdict?, if_neg grants, if_neg aborts], ?_⟩
      unfold Transfer.expeditedUpload
      dsimp only
      cases said : ServerCommand.ofByte payload.command with
      | initiateUpload unused expedited sized =>
          exact absurd (ServerCommand.specifier_of_initiateUpload said) grants
      | abort => exact absurd ((ServerCommand.ofByte_eq_abort_iff _).1 said) aborts
      | _ => exact ⟨_, rfl⟩

/-- What decides an expedited upload, and what of it counts. -/
structure DecidesByBytes (ε : Type) (node : UInt8) : Prop where
  /-- Replies of eight bytes decide whose specifier is to initiate an upload or to abort, and
  no other message. -/
  decides_iff : ∀ message : Message, message.Coherent →
    ((uploadInquiry node : Inquiry ε (Failure ε) UInt32).verdict? message ≠ none
      ↔ message.IsReplyOf node
        ∧ (message.octets.first.toNat / 32 = 2 ∨ message.octets.first.toNat / 32 = 4))
  /-- The number is that in the valid bytes and no larger than these can be. -/
  number_eq : ∀ (payload : Payload) (value : UInt32),
    payload.uploadVerdict? = some (.ok value : Except (Failure ε) UInt32) →
      value.toNat = LittleEndian.combine payload.objectBytes
      ∧ value.toNat < 256 ^ payload.objectBytes.length
  /-- What an object says does not depend on its other bytes. -/
  unused : ∀ payload other : Payload, payload.command.toNat / 32 = 2 →
    other.command = payload.command → other.objectBytes = payload.objectBytes →
      other.uploadVerdict? = (payload.uploadVerdict? : Option (Except (Failure ε) UInt32))

theorem Payload.uploadVerdict?_ne_none_iff {payload : Payload} :
    payload.uploadVerdict? ≠ (none : Option (Except (Failure ε) UInt32))
      ↔ payload.command.toNat / 32 = 2 ∨ payload.command.toNat / 32 = 4 := by
  unfold uploadVerdict?
  split
  next grants => simp [grants]; split <;> simp
  next other =>
    split
    next aborts => simp [aborts]
    next neither => simp [other, neither]

theorem decidesByBytes (node : UInt8) : DecidesByBytes ε node where
  decides_iff message coherent := by
    constructor
    · intro decides
      obtain ⟨result, decided⟩ := Option.ne_none_iff_exists'.1 decides
      obtain ⟨payload, replies, verdict⟩ := Option.bind_eq_some_iff.1 decided
      obtain ⟨reply, rfl⟩ := (Message.reply?_eq_some_iff coherent).1 replies
      have decided := Option.ne_none_iff_exists'.2 ⟨result, verdict⟩
      exact ⟨reply, Payload.uploadVerdict?_ne_none_iff.1 decided⟩
    · rintro ⟨reply, specifier⟩
      have replies := (Message.reply?_eq_some_iff coherent).2 ⟨reply, rfl⟩
      simp only [uploadInquiry, replyInquiry, replies, Option.bind_some]
      exact Payload.uploadVerdict?_ne_none_iff.2 specifier
  number_eq payload value reads := by
    have short := payload.length_objectBytes_le
    unfold Payload.uploadVerdict? at reads
    split at reads
    · split at reads
      · cases reads
        rw [ObjectValue.toNat_ofNat_combine short]
        exact ⟨rfl, LittleEndian.combine_lt _⟩
      · cases reads
    · split at reads <;> cases reads
  unused payload other grants command bytes := by
    rw [Payload.uploadVerdict?, Payload.uploadVerdict?, command, bytes, if_pos grants,
      if_pos grants]

section Reading

variable [Transport σ ε] {node : UInt8} {budget : Nat} {events rest : Stream' (Except ε Message)}
  {heard : List Message}

theorem settled_expeditedUpload (nodeFits : node.toNat ≤ 127) (index : UInt16) (subindex : UInt8)
    {result : Except (Failure ε) UInt32}
    (settles : (uploadInquiry node).Settles budget events heard result rest) {transport : σ}
    (offers : Offers node events transport)
    (unhindered : Unhindered
      ((Transfer.expeditedUpload budget node index subindex).run transport).journal) :
    (((Transfer.expeditedUpload budget node index subindex).run transport).map
      Ending.result).Settled node [uploadOpening node index subindex] heard result rest :=
  (heeds_expeditedUpload budget node index subindex).waits.settled_run settles
    (initiateUpload_eq_ok nodeFits index subindex) offers unhindered

/-! ## The identity of a node -/

/-- How reading an identity goes: which entries are asked for, what is taken and what comes of
it.  Each upload has the whole budget and goes on with what the one before left. -/
inductive ReadsIdentity (node : UInt8) (budget : Nat) (events : Stream' (Except ε Message)) :
    (asked : List UInt8) → (heard : List Message) → (result : Except (Failure ε) Identity) →
    (rest : Stream' (Except ε Message)) → Prop
  | vendorFails {heard : List Message} {failure : Failure ε} {rest : Stream' (Except ε Message)}
      (vendor : (uploadInquiry node).Settles budget events heard (.error failure) rest) :
      ReadsIdentity node budget events [1] heard (.error failure) rest
  | productFails {heard more : List Message} {vendorId : UInt32} {failure : Failure ε}
      {between rest : Stream' (Except ε Message)}
      (vendor : (uploadInquiry node).Settles budget events heard (.ok vendorId) between)
      (product : (uploadInquiry node).Settles budget between more (.error failure) rest) :
      ReadsIdentity node budget events [1, 2] (heard ++ more) (.error failure) rest
  | revisionDecides {heard more last : List Message} {vendorId productCode : UInt32}
      {result : Except (Failure ε) UInt32} {between later rest : Stream' (Except ε Message)}
      (vendor : (uploadInquiry node).Settles budget events heard (.ok vendorId) between)
      (product : (uploadInquiry node).Settles budget between more (.ok productCode) later)
      (revision : (uploadInquiry node).Settles budget later last result rest) :
      ReadsIdentity node budget events [1, 2, 3] (heard ++ (more ++ last))
        (result.map fun revision => ⟨vendorId, productCode, revision⟩) rest

theorem settled_readIdentity (nodeFits : node.toNat ≤ 127) {asked : List UInt8}
    {result : Except (Failure ε) Identity}
    (reads : ReadsIdentity node budget events asked heard result rest) {transport : σ}
    (offers : Offers node events transport)
    (unhindered : Unhindered (readIdentity budget node transport).journal) :
    (readIdentity budget node transport).Settled node
      (asked.map (uploadOpening node identityIndex)) heard result rest := by
  unfold readIdentity at unhindered ⊢
  -- Each upload leaves a transport that offers the next one the events that are left.
  obtain ⟨first, others⟩ := unhindered_of_andThen unhindered
  cases reads with
  | vendorFails vendor =>
      exact (settled_expeditedUpload nodeFits identityIndex 1 vendor offers first).stop _
  | productFails vendor product =>
      have begun := settled_expeditedUpload nodeFits identityIndex 1 vendor offers first
      obtain ⟨second, _⟩ := unhindered_of_andThen (others _ begun.answer_eq)
      have goesOn := settled_expeditedUpload nodeFits identityIndex 2 product
        begun.leaves.offers second
      exact begun.andThen (goesOn.stop _)
  | revisionDecides vendor product revision =>
      have begun := settled_expeditedUpload nodeFits identityIndex 1 vendor offers first
      obtain ⟨second, last⟩ := unhindered_of_andThen (others _ begun.answer_eq)
      have goesOn := settled_expeditedUpload nodeFits identityIndex 2 product
        begun.leaves.offers second
      have ends := settled_expeditedUpload nodeFits identityIndex 3 revision
        goesOn.leaves.offers (last _ goesOn.answer_eq)
      exact begun.andThen (goesOn.andThen (ends.map _))

/-- However a transport goes on, reading an identity comes to an end in one of these ways. -/
theorem exists_readsIdentity (node : UInt8) (budget : Nat) (events : Stream' (Except ε Message)) :
    ∃ asked heard result rest, ReadsIdentity node budget events asked heard result rest := by
  obtain ⟨heard, result, between, vendor⟩ := (uploadInquiry node).exists_settles budget events
  cases result with
  | error failure => exact ⟨_, _, _, _, .vendorFails vendor⟩
  | ok vendorId =>
      obtain ⟨more, result, later, product⟩ :=
        (uploadInquiry node).exists_settles budget between
      cases result with
      | error failure => exact ⟨_, _, _, _, .productFails vendor product⟩
      | ok productCode =>
          obtain ⟨last, result, rest, revision⟩ :=
            (uploadInquiry node).exists_settles budget later
          exact ⟨_, _, _, _, .revisionDecides vendor product revision⟩

/-- An upload sends one request and is decided by the first reply within its budget whose
specifier is to initiate an upload or to abort; what comes behind it is left.  An identity is
three uploads of its entries one behind the other, up to the first that fails. -/
theorem expeditedUpload_decided (config : Config) (nodeFits : node.toNat ≤ 127) {transport : σ}
    (offers : Offers node events transport) :
    (∀ index subindex,
      let run := (Call.expeditedUpload node index subindex).run config transport
      Unhindered run.journal →
      sentIn run.journal = [uploadOpening node index subindex]
      ∧ ∀ heard result rest,
        (uploadInquiry node).Settles config.expeditedRounds events heard result rest →
        (run.map Answer.result).Settled node [uploadOpening node index subindex] heard
          (result.map .number) rest)
    ∧ (let run := (Call.identity node).run config transport
      Unhindered run.journal →
      (∃ asked heard result rest,
        ReadsIdentity node config.expeditedRounds events asked heard result rest)
      ∧ ∀ asked heard result rest,
        ReadsIdentity node config.expeditedRounds events asked heard result rest →
        (run.map Answer.result).Settled node (asked.map (uploadOpening node identityIndex)) heard
          (result.map .identity) rest)
    ∧ DecidesByBytes ε node := by
  refine ⟨?_, ?_, decidesByBytes node⟩
  · intro index subindex run unhindered
    constructor
    · obtain ⟨_, _, _, settles⟩ :=
        (uploadInquiry node).exists_settles config.expeditedRounds events
      exact (settled_expeditedUpload nodeFits index subindex settles offers unhindered).sent_eq
    · intro heard result rest settles
      exact (settled_expeditedUpload nodeFits index subindex settles offers unhindered).map
        (Except.map Value.number)
  · intro run unhindered
    refine ⟨exists_readsIdentity node config.expeditedRounds events, ?_⟩
    intro asked heard result rest reads
    exact (settled_readIdentity nodeFits reads offers unhindered).map (Except.map Value.identity)

end Reading

/-- The vendor is read behind a reply that decides nothing, the product is refused and the
revision is not asked for. -/
theorem expeditedUpload_decided_refusal :
    let foreign : Can.Reported := ⟨.standard 0x586, false, 8, [0x43, 0x18, 0x10, 1, 9, 0, 0, 0]⟩
    let stray : Can.Reported := ⟨.standard 0x585, false, 8, [0xE0, 0, 0, 0, 0, 0, 0, 0]⟩
    let vendor : Can.Reported :=
      ⟨.standard 0x585, false, 8, [0x4B, 0x18, 0x10, 1, 0x34, 0x12, 0xFF, 0xFF]⟩
    let refusal : Can.Reported :=
      ⟨.standard 0x585, false, 8, [0x80, 0x18, 0x10, 2, 0x11, 0, 9, 6]⟩
    let link : BlockingLink :=
      ⟨⟨[.frame foreign, .frame stray, .frame vendor, .frame refusal, .frame vendor], ⟨[], [], 0⟩,
        [], #[], 0, 0, Can.Frame.maker⟩, none⟩
    let run := (Call.identity 5).run { expeditedRounds := 2 } link
    run.answer.result = .error (.abort 0x06090011 "Sub-index does not exist")
    ∧ sentIn run.journal = [uploadOpening 5 0x1018 1, uploadOpening 5 0x1018 2]
    ∧ (receivedIn run.journal).length = 3 := by
  intro foreign stray vendor refusal link run
  let reply (payload : Payload) : Message := ⟨.standard, false, some .sdoTx, 5, .sdo payload, 8⟩
  let passed : Message := reply ⟨0xE0, 0, 0, #v[0, 0, 0, 0]⟩
  let read : Message := reply ⟨0x4B, 0x1018, 1, #v[0x34, 0x12, 0xFF, 0xFF]⟩
  let refused : Message := reply ⟨0x80, 0x1018, 2, #v[0x11, 0, 9, 6]⟩
  have parsePassed : Message.parse stray = .ok passed := eq_ok_of_toOption (by decide +kernel)
  have parseRead : Message.parse vendor = .ok read := eq_ok_of_toOption (by decide +kernel)
  have parseRefused : Message.parse refusal = .ok refused := eq_ok_of_toOption (by decide +kernel)
  let left : Stream' (Except LinkFailure Message) :=
    Stream'.cons (.ok read) (Stream'.const (.error (.bus "no frame")))
  have events : link.bus.outlook.readings (some 5)
      = [passed].map .ok ++ₛ Stream'.cons (.ok read) (Stream'.cons (.ok refused) left) := by
    show Bus.NodeFilter.readings (some 5)
      [.ok foreign, .ok stray, .ok vendor, .ok refusal, .ok vendor] = _
    rw [Bus.readings_of_dropped _ rfl, Bus.readings_of_parse _ rfl parsePassed,
      Bus.readings_of_parse _ rfl parseRead, Bus.readings_of_parse _ rfl parseRefused,
      Bus.readings_of_parse _ rfl parseRead]
    rfl
  have vendorSettles : (uploadInquiry 5).Settles 2 (link.bus.outlook.readings (some 5))
      [passed, read] (.ok 0x1234) (Stream'.cons (.ok refused) left) := by
    rw [events]
    exact .decided [passed] (by rintro _ (_ | ⟨_, ⟨⟩⟩); rfl) (by decide) rfl
  have productSettles : (uploadInquiry 5).Settles 2 (Stream'.cons (.ok refused) left) [refused]
      (.error (.abort 0x06090011 "Sub-index does not exist")) left :=
    .decided [] (List.forall_mem_nil _) (by decide) rfl
  have unhindered : Unhindered run.journal := by decide +kernel
  have offers := BlockingLink.isAdapter.offers 5 link
  obtain ⟨_, identity, _⟩ :=
    expeditedUpload_decided { expeditedRounds := 2 } (by decide) offers
  have settled := (identity unhindered).2 _ _ _ _ (.productFails vendorSettles productSettles)
  exact ⟨settled.answer_eq, settled.sent_eq, congrArg List.length settled.received_eq⟩

end Sdo

end CanOpen
