import CanOpen.Bus.Link
import CanOpen.Sdo.Client
import Mathlib.Algebra.Group.Nat.Defs

/-!
# Service data on the wire

What a node says with a message, by the bytes of the message alone, and the bytes
of the requests that a client builds.
-/

set_option autoImplicit false

namespace CanOpen

namespace LittleEndian

theorem bytes16_word16 (low high : UInt8) : bytes16 (word16 low high) = (low, high) := by
  have lowBound := low.toNat_lt
  have highBound := high.toNat_lt
  have word : (word16 low high).toNat = low.toNat + 256 * high.toNat := by
    simp only [word16, combine, UInt16.toNat_ofNat']
    omega
  have lowByte : UInt8.ofNat (low.toNat + 256 * high.toNat) = low := by
    apply UInt8.toNat_inj.1
    simp only [UInt8.toNat_ofNat']
    omega
  have highByte : UInt8.ofNat ((low.toNat + 256 * high.toNat) / 256) = high := by
    apply UInt8.toNat_inj.1
    simp only [UInt8.toNat_ofNat']
    omega
  rw [bytes16, word, lowByte, highByte]

end LittleEndian

/-- Bytes are followed by zeros where a vector has room for more. -/
theorem toList_ofFn_getD {room : Nat} {bytes : List UInt8} (fits : bytes.length ≤ room) :
    (Vector.ofFn fun position : Fin room => bytes.getD position 0).toList
      = bytes ++ List.replicate (room - bytes.length) 0 := by
  apply List.ext_getElem
  · simp only [Vector.length_toList, List.length_append, List.length_replicate]
    omega
  · intro position inside _
    rw [Vector.length_toList] at inside
    simp only [Vector.getElem_toList, Vector.getElem_ofFn, List.getD_eq_getElem?_getD,
      List.getElem_append]
    split
    next within => simp [within]
    next beyond =>
      rw [List.getElem?_eq_none (by omega), List.getElem_replicate]
      rfl

namespace Octets

@[simp]
theorem ofList_toList (octets : Octets) : ofList octets.toList = octets := by
  ext position inside
  simp [Vector.getElem?_eq_getElem inside]

@[simp]
theorem get_ofList (bytes : List UInt8) (position : Fin 8) :
    (ofList bytes).get position = bytes.getD position 0 :=
  getElem_ofList bytes position position.isLt

theorem toList_ofList {bytes : List UInt8} (fits : bytes.length ≤ 8) :
    (ofList bytes).toList = bytes ++ List.replicate (8 - bytes.length) 0 :=
  toList_ofFn_getD fits

end Octets

namespace Sdo.Payload

theorem toOctets_ofOctets (octets : Octets) : (ofOctets octets).toOctets = octets := by
  ext position inside
  match position with
  | 0 | 3 | 4 | 5 | 6 | 7 => rfl
  | 1 => simp [toOctets, ofOctets, LittleEndian.bytes16_word16, Octets.second]
  | 2 => simp [toOctets, ofOctets, LittleEndian.bytes16_word16]

end Sdo.Payload

/-! ## Replies -/

open Sdo

/-- A link on which one node answers by rote, with eight bytes at a time, whatever it
is sent. -/
def PlainLink.replaying (node : Fin 128) (replies : List (List UInt8)) : PlainLink where
  bus :=
    { inbox := replies.map fun bytes =>
        .frame ⟨.standard ⟨0x580 + node, by omega⟩, false, 8, (Octets.ofList bytes).toList⟩
      idle := ⟨[], [], 0⟩
      outcomes := []
      actions := #[]
      delivered := 0
      postponed := 0 }
  filterFailure := none

namespace Message

/-- What a node says with a message, if it is a service data reply of this node. -/
def said? (node : UInt8) (message : Message) : Option ServerCommand :=
  if message.isFrom .sdoTx node then
    match message.body with
    | .sdo payload => some (ServerCommand.ofByte payload.command)
    | _ => none
  else
    none

theorem octets_of_body {message : Message} {payload : Payload}
    (body : message.body = .sdo payload) : message.octets = payload.toOctets := by
  rw [Message.octets, body, Body.octets]

/-- The bytes behind the first. -/
def tail (message : Message) : List UInt8 :=
  message.octets.toList.drop 1

/-- The bytes of a segment that hold data, by the count of unused ones in its first. -/
def segmentBytes (message : Message) : List UInt8 :=
  message.tail.take (segmentCapacity - (Segment.unused.get message.octets.first).toNat)

/-- A message of eight bytes to the service data server of a node. -/
def request (node : UInt8) (octets : Octets) : Message where
  addressing := .standard
  remote := false
  function := some .sdoRx
  node := node.toUInt32
  body := .sdo (Payload.ofOctets octets)
  length := 8

@[simp]
theorem octets_request (node : UInt8) (octets : Octets) :
    (request node octets).octets = octets :=
  Payload.toOctets_ofOctets octets

theorem tail_request {node first : UInt8} {chunk : List UInt8} (fits : chunk.length ≤ 7) :
    (request node (Octets.ofList (first :: chunk))).tail
      = chunk ++ List.replicate (7 - chunk.length) 0 := by
  have fitsAll : (first :: chunk).length ≤ 8 := by
    rw [List.length_cons]
    omega
  rw [tail, octets_request, Octets.toList_ofList fitsAll]
  simp

@[simp]
theorem first_request (node first : UInt8) (chunk : List UInt8) :
    (request node (Octets.ofList (first :: chunk))).octets.first = first := by
  rw [octets_request, Octets.first, Octets.getElem_ofList]
  rfl

end Message

namespace Sdo

/-- The toggle of a segment: down for the first, alternating from there. -/
def toggleAt (position : Nat) : Bool :=
  position % 2 == 1

theorem toggleAt_succ (position : Nat) : toggleAt (position + 1) = !toggleAt position := by
  have parity : position % 2 = 0 ∨ position % 2 = 1 := by omega
  rcases parity with even | odd
  · have next : (position + 1) % 2 = 1 := by omega
    simp [toggleAt, even, next]
  · have next : (position + 1) % 2 = 0 := by omega
    simp [toggleAt, odd, next]

/-! ## Chunks of data -/

/-- The data that travels in a segment. -/
def chunkAt (data : List UInt8) (position : Nat) : List UInt8 :=
  (data.drop (7 * position)).take 7

theorem length_chunkAt_le (data : List UInt8) (position : Nat) :
    (chunkAt data position).length ≤ 7 :=
  List.length_take_le 7 _

theorem flatMap_chunkAt (data : List UInt8) (count : Nat) :
    (List.range count).flatMap (chunkAt data) = data.take (7 * count) := by
  induction count with
  | zero => simp
  | succ count inductionHypothesis =>
      rw [List.range_succ, List.flatMap_append, inductionHypothesis, Nat.mul_succ,
        List.take_add]
      simp [chunkAt]

/-! ## What a transfer hears -/

/-- A transfer ignores whatever is no service data reply of its node, and reacts to
the bytes of one that is. -/
theorem Transfer.hear_cases {ε S α : Type} (transfer : Transfer ε S α) (state : S)
    (message : Message) :
    (message.said? transfer.node = none
      ∧ ∃ notes, transfer.hear state message = .ignore notes)
    ∨ ∃ payload, message.body = .sdo payload
      ∧ message.said? transfer.node = some (ServerCommand.ofByte payload.command)
      ∧ transfer.hear state message = transfer.react state payload := by
  unfold Transfer.hear Message.said? Message.payload?
  by_cases own : message.isFrom .sdoTx transfer.node
  · rw [if_pos own, if_pos own]
    cases body : message.body with
    | sdo payload => exact .inr ⟨payload, rfl, rfl, rfl⟩
    | _ => exact .inl ⟨rfl, _, rfl⟩
  · rw [if_neg own, if_neg own]
    exact .inl ⟨rfl, _, rfl⟩

/-! ## Requests -/

namespace Request

variable {node : UInt8}

theorem standard_eq_ok (nodeFits : node.toNat ≤ 127) (octets : Octets) :
    Message.standard .sdoRx node false octets.toList = .ok (Message.request node octets) := by
  have inRange : ¬ Message.maxNode < node.toNat := Nat.not_lt.2 nodeFits
  have short : ¬ Octets.capacity < octets.toList.length := by
    simp
  rw [Message.standard, if_neg inRange, Message.contents, if_neg short]
  simp [bind, Except.bind, Message.request, Body.ofOctets, pure, Except.pure]

theorem about_eq_ok (nodeFits : node.toNat ≤ 127) (command : ClientCommand)
    (index : UInt16) (subindex : UInt8) (data : Vector UInt8 4) :
    about node command index subindex data
      = .ok (Message.request node (Payload.toOctets ⟨command.toByte, index, subindex, data⟩)) :=
  standard_eq_ok nodeFits _

theorem carrying_eq_ok (nodeFits : node.toNat ≤ 127) (first : UInt8) {chunk : List UInt8}
    (chunkFits : chunk.length ≤ 7) :
    carrying node first chunk
      = .ok (Message.request node (Octets.ofList (first :: chunk))) := by
  rw [carrying, if_neg (Nat.not_lt.2 chunkFits), standard_eq_ok nodeFits]
  simp [Octets.concat]

theorem declaredSize_eq_ok {size : Nat} (fits : size ≤ maxSize) :
    declaredSize size = .ok (LittleEndian.bytes32 (UInt32.ofNat size)) := by
  rw [declaredSize, if_neg (Nat.not_lt.2 fits)]

theorem blockSegment_eq_ok (nodeFits : node.toNat ≤ 127) {sequence : UInt8}
    (positive : 1 ≤ sequence.toNat) (inRange : sequence.toNat ≤ 127) {chunk : List UInt8}
    (chunkFits : chunk.length ≤ 7) (last : Bool) :
    blockSegment node sequence chunk last
      = .ok (Message.request node
          (Octets.ofList ((SegmentHeader.mk last sequence).toByte :: chunk))) := by
  have valid : ¬ (sequence = 0 ∨ maxBlockSize < sequence.toNat) := by
    rintro (rfl | tooLarge)
    · exact absurd positive (by decide)
    · exact absurd inRange (Nat.not_le.2 tooLarge)
  rw [blockSegment, if_neg valid, carrying_eq_ok nodeFits _ chunkFits]

theorem endBlockDownload_eq_ok (nodeFits : node.toNat ≤ 127) {unused : UInt8}
    (inRange : unused.toNat < 7) (crc : UInt16) :
    endBlockDownload node unused crc
      = .ok (Message.request node (Octets.ofList
          [(ClientCommand.endBlockDownload unused).toByte, (LittleEndian.bytes16 crc).1,
            (LittleEndian.bytes16 crc).2])) := by
  have short : [(LittleEndian.bytes16 crc).1, (LittleEndian.bytes16 crc).2].length ≤ 7 := by
    simp
  rw [endBlockDownload, if_neg (Nat.not_le.2 inRange), carrying_eq_ok nodeFits _ short]

theorem initiateSegmentedDownload_eq_ok (nodeFits : node.toNat ≤ 127) (index : UInt16)
    (subindex : UInt8) {size : Nat} (fits : size ≤ maxSize) :
    ∃ request, initiateSegmentedDownload node index subindex size = .ok request := by
  rw [initiateSegmentedDownload, declaredSize_eq_ok fits]
  exact ⟨_, about_eq_ok nodeFits _ index subindex _⟩

theorem initiateBlockDownload_eq_ok (nodeFits : node.toNat ≤ 127) (index : UInt16)
    (subindex : UInt8) {size : Nat} (fits : size ≤ maxSize) (crc : Bool) :
    ∃ request, initiateBlockDownload node index subindex size crc = .ok request := by
  rw [initiateBlockDownload, declaredSize_eq_ok fits]
  exact ⟨_, about_eq_ok nodeFits _ index subindex _⟩

end Request

/-! ## Bits of a command byte -/

/-- A field of so many bits is a part of the number that the byte is. -/
theorem BitField.toNat_get {field : BitField} (width : Nat)
    (mask : field.mask.toNat = 2 ^ width - 1) (low : field.low.toNat < 8) (byte : UInt8) :
    (field.get byte).toNat = byte.toNat / 2 ^ field.low.toNat % 2 ^ width := by
  rw [get, UInt8.toNat_and, UInt8.toNat_shiftRight, mask, Nat.and_two_pow_sub_one_eq_mod,
    Nat.shiftRight_eq_div_pow, Nat.mod_eq_of_lt low]

theorem BitField.isSet_eq {field : BitField} (mask : field.mask = 1) (low : field.low.toNat < 8)
    (byte : UInt8) : field.isSet byte = decide (byte.toNat / 2 ^ field.low.toNat % 2 = 1) := by
  have number := toNat_get 1 (by rw [mask]; rfl) low byte
  rw [isSet, Bool.eq_iff_iff, bne_iff_ne, ne_eq, ← UInt8.toNat_inj, number, decide_eq_true_iff]
  show ¬ byte.toNat / 2 ^ field.low.toNat % 2 ^ 1 = 0 ↔ _
  omega

theorem toNat_specifier (byte : UInt8) : (specifier.get byte).toNat = byte.toNat / 32 := by
  have number : (specifier.get byte).toNat = byte.toNat / 32 % 8 :=
    BitField.toNat_get 3 rfl (by decide) byte
  have bound := byte.toNat_lt
  omega

theorem SegmentHeader.ofByte_toByte {sequence : UInt8} (inRange : sequence.toNat ≤ 127)
    (last : Bool) : ofByte (SegmentHeader.mk last sequence).toByte = ⟨last, sequence⟩ := by
  have all : ∀ (low : Fin 128) (flag : Bool),
      ofByte (SegmentHeader.mk flag (UInt8.ofNat low.val)).toByte
        = ⟨flag, UInt8.ofNat low.val⟩ := by
    decide
  have here := all ⟨sequence.toNat, by omega⟩ last
  rwa [UInt8.ofNat_toNat] at here

theorem ClientCommand.ofByte_toByte_downloadSegment {unused : UInt8}
    (inRange : unused.toNat ≤ 7) (toggle last : Bool) :
    ofByte (downloadSegment toggle unused last).toByte
      = downloadSegment toggle unused last := by
  have all : ∀ (low : Fin 8) (bit flag : Bool),
      ofByte (downloadSegment bit (UInt8.ofNat low.val) flag).toByte
        = downloadSegment bit (UInt8.ofNat low.val) flag := by
    decide
  have here := all ⟨unused.toNat, by omega⟩ toggle last
  rwa [UInt8.ofNat_toNat] at here

theorem ClientCommand.ofByte_toByte_endBlockDownload {unused : UInt8}
    (inRange : unused.toNat ≤ 7) :
    ofByte (endBlockDownload unused).toByte = endBlockDownload unused := by
  have all : ∀ low : Fin 8, ofByte (endBlockDownload (UInt8.ofNat low.val)).toByte
      = endBlockDownload (UInt8.ofNat low.val) := by
    decide
  have here := all ⟨unused.toNat, by omega⟩
  rwa [UInt8.ofNat_toNat] at here

theorem ServerCommand.expedited_of_initiateUpload {byte unused : UInt8}
    {expedited sized : Bool} (named : ofByte byte = initiateUpload unused expedited sized) :
    Initiate.expedited.isSet byte = expedited := by
  unfold ofByte at named
  split at named
  all_goals try contradiction
  exact (ServerCommand.initiateUpload.inj named).2.1

theorem ServerCommand.last_of_uploadSegment {byte unused : UInt8} {toggle last : Bool}
    (named : ofByte byte = uploadSegment toggle unused last) :
    Segment.last.isSet byte = last := by
  unfold ofByte at named
  split at named
  all_goals try contradiction
  exact (ServerCommand.uploadSegment.inj named).2.2

theorem ClientCommand.unused_of_downloadSegment {byte unused : UInt8} {toggle last : Bool}
    (named : ofByte byte = downloadSegment toggle unused last) :
    Segment.unused.get byte = unused := by
  unfold ofByte at named
  split at named
  case h_7 => split at named <;> contradiction
  all_goals try contradiction
  exact (ClientCommand.downloadSegment.inj named).2.1

/-! ## Answers of calls -/

theorem eq_ok_of_toOption {ε α : Type} {result : Except ε α} {value : α}
    (yields : result.toOption = some value) : result = .ok value := by
  cases result with
  | error failure => cases yields
  | ok found => exact congrArg Except.ok (Option.some.inj yields)

theorem map_done_eq_ok_iff {ε : Type} {result : Except (Failure ε) Unit} :
    (result.map fun () => Value.done) = .ok .done ↔ result = .ok () := by
  cases result with
  | error failure => exact ⟨nofun, nofun⟩
  | ok value => exact ⟨fun _ => rfl, fun _ => rfl⟩

theorem map_count_eq_ok_iff {ε : Type} {result : Except (Failure ε) Nat} {value : Value} :
    result.map Value.count = .ok value ↔ ∃ count, value = .count count ∧ result = .ok count := by
  cases result with
  | error failure => exact ⟨nofun, nofun⟩
  | ok count =>
      constructor
      · intro mapped
        exact ⟨count, (Except.ok.inj mapped).symm, rfl⟩
      · rintro ⟨found, rfl, same⟩
        rw [Except.ok.inj same]
        rfl

end Sdo

end CanOpen
