import CanOpen.Proofs.FirstReply

/-!
# Numbers that are written and read back

A number that is written with an expedited download travels in one request, whose command
byte tells how many of its bytes count.  A node that returns the same bytes under the same
bits is read as having the same number, cut to the bytes that were written.
-/

set_option autoImplicit false

namespace CanOpen.Sdo

variable {σ ε : Type}

open Transport (Brings Offers)

/-! ## What is written -/

def writtenPayload (index : UInt16) (subindex : UInt8) (data : List UInt8) : Payload where
  command := (ClientCommand.initiateDownload (UInt8.ofNat (4 - data.length)) true true).toByte
  index := index
  subindex := subindex
  data := Vector.ofFn fun position => data.getD position 0

section Written

variable {data : List UInt8} (some : 1 ≤ data.length) (short : data.length ≤ 4)
include some short

theorem expeditedDownload_eq_ok {node : UInt8} (nodeFits : node.toNat ≤ 127) (index : UInt16)
    (subindex : UInt8) :
    Request.expeditedDownload node index subindex data
      = .ok (.request node (writtenPayload index subindex data).toOctets) := by
  obtain ⟨_, _, built⟩ | ⟨unfit, _⟩ :=
    Order.builds node (.expeditedDownload index subindex data)
  · exact built
  · have fits : 127 < node.toNat ∨ ¬ (1 ≤ data.length ∧ data.length ≤ 4) := unfit
    omega

theorem isReadFrom_writtenPayload (index : UInt16) (subindex : UInt8) :
    (Order.expeditedDownload index subindex data).IsReadFrom
      (writtenPayload index subindex data) :=
  Order.isReadFrom_expeditedDownload index subindex some short

theorem objectBytes_writtenPayload (index : UInt16) (subindex : UInt8) :
    (writtenPayload index subindex data).objectBytes = data
    ∧ (writtenPayload index subindex data).command.toNat / 2 % 2 = 1 := by
  obtain ⟨named, _, _, _, found, _⟩ := isReadFrom_writtenPayload some short index subindex
  obtain ⟨_, travels, _⟩ := ClientCommand.fields_of_initiateDownload named
  have expedited : (writtenPayload index subindex data).command.toNat / 2 % 2 = 1 := by
    rw [BitField.isSet_eq rfl (by decide)] at travels
    exact of_decide_eq_true travels
  exact ⟨(Payload.expeditedData_eq_objectBytes expedited).symm.trans found, expedited⟩

end Written

/-- Every reply decides an expedited download. -/
theorem heeds_expeditedDownload (budget : Nat) (node : UInt8) (index : UInt16) (subindex : UInt8)
    (data : List UInt8) :
    (Transfer.expeditedDownload budget node index subindex data : Transfer ε Unit Unit).Heeds
      fun _ => some (.ok ()) := by
  intro payload
  right
  cases said : ServerCommand.ofByte payload.command <;>
    exact ⟨_, _, _, rfl, by simp only [Transfer.expeditedDownload, said]; rfl⟩

/-! ## What is returned -/

/-- Whether a node returns what was written: under the specifier of one that grants an upload,
with the same bits below it and the same data bytes. -/
structure Payload.Returns (answer written : Payload) : Prop where
  specifier : answer.command.toNat / 32 = 2
  bits : answer.command.toNat % 16 = written.command.toNat % 16
  data : answer.data = written.data

theorem Payload.Returns.uploadVerdict? {answer written : Payload}
    (returns : answer.Returns written) (expedited : written.command.toNat / 2 % 2 = 1) :
    answer.uploadVerdict? = (some (.ok (UInt32.ofNat (LittleEndian.combine written.objectBytes))) :
      Option (Except (Failure ε) UInt32)) := by
  obtain ⟨specifier, bits, data⟩ := returns
  have travels : answer.command.toNat / 2 % 2 = 1 := by omega
  have sized : answer.command.toNat % 2 = written.command.toNat % 2 := by omega
  have unused : answer.command.toNat / 4 % 4 = written.command.toNat / 4 % 4 := by omega
  have same : answer.objectBytes = written.objectBytes := by
    rw [objectBytes, objectBytes, sized, unused, data]
  rw [Payload.uploadVerdict?, if_pos specifier, if_pos travels, same]

/-- Whether a reply with some service data is among the events before any other that decides
an upload, and within its budget. -/
def AnswersFirst (node : UInt8) (budget : Nat) (events : Stream' (Except ε Message))
    (answer : Payload) : Prop :=
  ∃ (passed : List Message) (reply : Message) (rest : Stream' (Except ε Message)),
    events = passed.map .ok ++ₛ Stream'.cons (.ok reply) rest
    ∧ passed.length < budget
    ∧ (∀ other ∈ passed, (uploadInquiry node : Inquiry ε (Failure ε) UInt32).verdict? other = none)
    ∧ Message.reply? node reply = some answer

/-- Whether a number that was written into some bytes is read from them again: by the node, from
the one request that is sent, and by a client to which the node returns them. -/
structure ReadsBack (σ : Type) [Transport σ ε] (node : UInt8) (index : UInt16) (subindex : UInt8)
    (bytes : List UInt8) (number : UInt32) (written : Payload) : Prop where
  sent : ∀ (config : Config) (transport : σ),
    offeredIn ((Call.expeditedDownload node index subindex bytes).run config transport).journal
      = [.request node written.toOctets]
  size : written.expeditedSize = bytes.length
  decoded : ObjectValue.decode written.expeditedData = .ok number
  returned : ∀ (config : Config) (transport : σ) (events : Stream' (Except ε Message))
    (answer : Payload), Offers node events transport → answer.Returns written →
      AnswersFirst node config.expeditedRounds events answer →
      let run := (Call.expeditedUpload node index subindex).run config transport
      Unhindered run.journal → run.answer.result = .ok (.number number)

theorem readsBack [Transport σ ε] {node : UInt8} (nodeFits : node.toNat ≤ 127) (index : UInt16)
    (subindex : UInt8) {value : UInt32} {length : Nat} {bytes : List UInt8}
    (encoded : ObjectValue.encode value length = .ok bytes) :
    ReadsBack σ node index subindex bytes (UInt32.ofNat (value.toNat % 2 ^ (8 * length)))
      (writtenPayload index subindex bytes) := by
  have count := ObjectValue.length_of_encode encoded
  obtain ⟨⟨some, short⟩, _⟩ := ObjectValue.encode_eq_ok_iff.1 encoded
  rw [← count] at some short
  obtain ⟨_, _, _, size, found, _⟩ := isReadFrom_writtenPayload some short index subindex
  obtain ⟨whole, expedited⟩ := objectBytes_writtenPayload some short index subindex
  refine ⟨?_, size, ?_, ?_⟩
  · intro config transport
    have built := expeditedDownload_eq_ok some short nodeFits index subindex
    exact (heeds_expeditedDownload _ node index subindex bytes).waits.offeredIn_run built transport
  · rw [found]
    exact ObjectValue.decode_of_encode encoded
  · rintro config transport _ answer offers returns ⟨passed, reply, rest, rfl, within, undecided,
      replies⟩ run unhindered
    have verdict : (uploadInquiry node : Inquiry ε (Failure ε) UInt32).verdict? reply
        = .some (.ok (UInt32.ofNat (value.toNat % 2 ^ (8 * length)))) := by
      rw [← ObjectValue.combine_of_encode encoded, ← whole]
      exact Option.bind_eq_some_iff.2 ⟨answer, replies, returns.uploadVerdict? expedited⟩
    have settled := settled_expeditedUpload nodeFits index subindex
      (.decided passed undecided within verdict) offers unhindered
    exact congrArg (Except.map Value.number) settled.answer_eq

open ObjectValue in
/-- Numbers are read back from the bytes that they are written in, modulo a power of two, and
bytes are written back from the number that is read from them.  Neither works for any other
length.  A number that is written into an object of a node is the one that is read when the node
returns the bytes. -/
theorem written_readsBack (σ : Type) [Transport σ ε] :
    (∀ (value : UInt32) (length : Nat), 1 ≤ length → length ≤ 4 →
      ∃ bytes, encode value length = .ok bytes ∧ bytes.length = length
        ∧ decode bytes = .ok (UInt32.ofNat (value.toNat % 2 ^ (8 * length))))
    ∧ (∀ bytes : List UInt8, 1 ≤ bytes.length → bytes.length ≤ 4 →
      ∃ value, decode bytes = .ok value ∧ encode value bytes.length = .ok bytes)
    ∧ (∀ (value : UInt32) (length : Nat), length = 0 ∨ 4 < length →
      encode value length = .error (.byteLengthExceedsLimit length 4))
    ∧ (∀ bytes : List UInt8, 4 < bytes.length →
      decode bytes = .error (.byteLengthExceedsLimit bytes.length 4))
    ∧ ∀ (node : UInt8) (index : UInt16) (subindex : UInt8) (value : UInt32) (length : Nat)
      (bytes : List UInt8), node.toNat ≤ 127 → encode value length = .ok bytes →
        ReadsBack σ node index subindex bytes (UInt32.ofNat (value.toNat % 2 ^ (8 * length)))
          (writtenPayload index subindex bytes) := by
  refine ⟨?_, ?_, fun _ _ unfit => if_pos unfit, fun _ long => if_pos long, ?_⟩
  · intro value length some short
    have encoded : encode value length = .ok (LittleEndian.split length value.toNat) :=
      encode_eq_ok_iff.2 ⟨⟨some, short⟩, rfl⟩
    exact ⟨_, encoded, length_of_encode encoded, decode_of_encode encoded⟩
  · intro bytes some short
    have decoded := decode_of_length_le short
    exact ⟨_, decoded, encode_of_decode some decoded⟩
  · intro node index subindex value length bytes nodeFits encoded
    exact readsBack nodeFits index subindex encoded

/-- Three bytes of a number are written and returned behind a reply that acknowledges the
writing. -/
theorem written_readsBack_threeBytes :
    let acknowledged : Can.Reported := ⟨.standard 0x585, false, 8, [0x60, 0, 0x20, 1, 0, 0, 0, 0]⟩
    let returned : Can.Reported :=
      ⟨.standard 0x585, false, 8, [0x47, 0, 0x20, 1, 0xEF, 0xCD, 0xAB, 0]⟩
    let link : PlainLink :=
      ⟨⟨[.frame acknowledged, .frame returned], ⟨[], [], 0⟩, [], #[], 0, 0, Can.Frame.maker⟩, none⟩
    ObjectValue.encode 0x1ABCDEF 3 = .ok [0xEF, 0xCD, 0xAB]
    ∧ offeredIn ((Call.expeditedDownload 5 0x2000 1 [0xEF, 0xCD, 0xAB]).run {} link).journal
      = [.request 5 #v[0x27, 0, 0x20, 1, 0xEF, 0xCD, 0xAB, 0]]
    ∧ ((Call.expeditedUpload 5 0x2000 1).run {} link).answer.result = .ok (.number 0xABCDEF) := by
  intro acknowledged returned link
  let reply (payload : Payload) : Message := ⟨.standard, false, some .sdoTx, 5, .sdo payload, 8⟩
  let passed : Message := reply ⟨0x60, 0x2000, 1, #v[0, 0, 0, 0]⟩
  let answer : Payload := ⟨0x47, 0x2000, 1, #v[0xEF, 0xCD, 0xAB, 0]⟩
  have parseAcknowledged : Message.parse acknowledged = .ok passed :=
    eq_ok_of_toOption (by decide +kernel)
  have parseReturned : Message.parse returned = .ok (reply answer) :=
    eq_ok_of_toOption (by decide +kernel)
  have events : link.bus.outlook.readings none
      = [passed].map .ok
        ++ₛ Stream'.cons (.ok (reply answer)) (Bus.NodeFilter.readings none []) := by
    show Bus.NodeFilter.readings none [.ok acknowledged, .ok returned] = _
    rw [Bus.readings_of_parse _ rfl parseAcknowledged, Bus.readings_of_parse _ rfl parseReturned]
    rfl
  have encoded : ObjectValue.encode 0x1ABCDEF 3 = .ok [0xEF, 0xCD, 0xAB] := rfl
  obtain ⟨_, _, _, _, writes⟩ := written_readsBack PlainLink
  have back := writes 5 0x2000 1 0x1ABCDEF 3 _ (by decide) encoded
  have returns : answer.Returns (writtenPayload 0x2000 1 [0xEF, 0xCD, 0xAB]) :=
    ⟨by decide, by decide, rfl⟩
  have first : AnswersFirst 5 10 (link.bus.outlook.readings none) answer :=
    ⟨[passed], reply answer, _, events, by decide, by simp; rfl, rfl⟩
  have unhindered :
      Unhindered ((Call.expeditedUpload 5 0x2000 1).run {} link).journal := by decide +kernel
  exact ⟨encoded, back.sent {} link,
    back.returned {} link _ answer (link.offers 5) returns first unhindered⟩

end CanOpen.Sdo
