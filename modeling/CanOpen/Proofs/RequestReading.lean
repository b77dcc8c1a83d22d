import CanOpen.Proofs.ServiceData
import CanOpen.Proofs.WellFormed

/-!
# Reading requests back

An order is what a client wants of a node.  An order that can be expressed is built into
one message to the node, from whose eight bytes all that was ordered is read back; any other
order is refused, and so is every order to a node that does not exist.
-/

set_option autoImplicit false

namespace CanOpen.Sdo

/-! ## Command bytes -/

namespace ClientCommand

/-- Whether the numbers in a command fit into their fields. -/
def FieldsFit : ClientCommand → Prop
  | downloadSegment _ unused _ | endBlockDownload unused => unused.toNat ≤ 7
  | initiateDownload unused _ _ => unused.toNat ≤ 3
  | _ => True

theorem ofByte_toByte_initiateDownload {unused : UInt8} (inRange : unused.toNat ≤ 3)
    (expedited sized : Bool) :
    ofByte (initiateDownload unused expedited sized).toByte
      = initiateDownload unused expedited sized := by
  have all : ∀ (low : Fin 4) (bit flag : Bool),
      ofByte (initiateDownload (UInt8.ofNat low.val) bit flag).toByte
        = initiateDownload (UInt8.ofNat low.val) bit flag := by
    decide
  have here := all ⟨unused.toNat, by omega⟩ expedited sized
  rwa [UInt8.ofNat_toNat] at here

/-- A command is read back from its byte. -/
theorem ofByte_toByte {command : ClientCommand} (fit : command.FieldsFit) :
    ofByte command.toByte = command := by
  cases command with
  | downloadSegment toggle unused last => exact ofByte_toByte_downloadSegment fit toggle last
  | initiateDownload unused expedited sized =>
      exact ofByte_toByte_initiateDownload fit expedited sized
  | endBlockDownload unused => exact ofByte_toByte_endBlockDownload fit
  | uploadSegment toggle => cases toggle <;> rfl
  | blockDownloadInitiate crc sized => cases crc <;> cases sized <;> rfl
  | _ => rfl

theorem fields_of_initiateDownload {byte unused : UInt8} {expedited sized : Bool}
    (named : ofByte byte = initiateDownload unused expedited sized) :
    Initiate.unused.get byte = unused ∧ Initiate.expedited.isSet byte = expedited
      ∧ Initiate.sized.isSet byte = sized := by
  unfold ofByte at named
  split at named
  case h_7 => split at named <;> contradiction
  all_goals try contradiction
  exact ClientCommand.initiateDownload.inj named

end ClientCommand

/-! ## Orders -/

/-- What a client can order a node to do or to take. -/
inductive Order where
  | initiateUpload (index : UInt16) (subindex : UInt8)
  | expeditedDownload (index : UInt16) (subindex : UInt8) (data : List UInt8)
  | initiateSegmentedDownload (index : UInt16) (subindex : UInt8) (size : Nat)
  | uploadSegment (toggle : Bool)
  | downloadSegment (toggle : Bool) (chunk : List UInt8) (last : Bool)
  | initiateBlockDownload (index : UInt16) (subindex : UInt8) (size : Nat) (crc : Bool)
  | blockSegment (sequence : UInt8) (chunk : List UInt8) (last : Bool)
  | endBlockDownload (unused : UInt8) (crc : UInt16)
  | abort (index : UInt16) (subindex : UInt8) (code : UInt32)
  deriving DecidableEq, Repr

namespace Order

def build (node : UInt8) : Order → Except CodecError Message
  | initiateUpload index subindex => Request.initiateUpload node index subindex
  | expeditedDownload index subindex data => Request.expeditedDownload node index subindex data
  | initiateSegmentedDownload index subindex size =>
      Request.initiateSegmentedDownload node index subindex size
  | uploadSegment toggle => Request.uploadSegment node toggle
  | downloadSegment toggle chunk last => Request.downloadSegment node toggle chunk last
  | initiateBlockDownload index subindex size crc =>
      Request.initiateBlockDownload node index subindex size crc
  | blockSegment sequence chunk last => Request.blockSegment node sequence chunk last
  | endBlockDownload unused crc => Request.endBlockDownload node unused crc
  | abort index subindex code => Request.abort node index subindex code

/-- Whether eight bytes can say what is ordered. -/
def Expressible : Order → Prop
  | expeditedDownload _ _ data => 1 ≤ data.length ∧ data.length ≤ 4
  | initiateSegmentedDownload _ _ size | initiateBlockDownload _ _ size _ => size ≤ 0xFFFFFFFF
  | downloadSegment _ chunk _ => chunk.length ≤ 7
  | blockSegment sequence chunk _ =>
      (1 ≤ sequence.toNat ∧ sequence.toNat ≤ 127) ∧ chunk.length ≤ 7
  | endBlockDownload unused _ => unused.toNat < 7
  | initiateUpload _ _ | uploadSegment _ | abort _ _ _ => True

instance : (order : Order) → Decidable order.Expressible
  | expeditedDownload _ _ _ | blockSegment _ _ _ => inferInstanceAs (Decidable (_ ∧ _))
  | initiateSegmentedDownload _ _ _ | initiateBlockDownload _ _ _ _ | downloadSegment _ _ _ =>
      inferInstanceAs (Decidable (_ ≤ _))
  | endBlockDownload _ _ => inferInstanceAs (Decidable (_ < _))
  | initiateUpload _ _ | uploadSegment _ | abort _ _ _ => inferInstanceAs (Decidable True)

/-- Whether someone who reads service data by its command byte finds in it all that was
ordered, and zeros elsewhere.  The command byte of a segment of a block is a header. -/
def IsReadFrom (payload : Payload) : Order → Prop
  | initiateUpload index subindex =>
      ClientCommand.ofByte payload.command = .initiateUpload
      ∧ payload.index = index ∧ payload.subindex = subindex
      ∧ payload.data.toList = [0, 0, 0, 0]
  | expeditedDownload index subindex data =>
      ClientCommand.ofByte payload.command
        = .initiateDownload (UInt8.ofNat (4 - data.length)) true true
      ∧ payload.index = index ∧ payload.subindex = subindex
      ∧ payload.expeditedSize = data.length ∧ payload.expeditedData = data
      ∧ payload.data.toList = data ++ List.replicate (4 - data.length) 0
  | initiateSegmentedDownload index subindex size =>
      ClientCommand.ofByte payload.command = .initiateDownload 0 false (size != 0)
      ∧ payload.index = index ∧ payload.subindex = subindex
      ∧ payload.word.toNat = size ∧ payload.expeditedSize = 0
  | uploadSegment toggle =>
      ClientCommand.ofByte payload.command = .uploadSegment toggle
      ∧ payload.tail = List.replicate 7 0
  | downloadSegment toggle chunk last =>
      ClientCommand.ofByte payload.command
        = .downloadSegment toggle (UInt8.ofNat (7 - chunk.length)) last
      ∧ payload.segmentSize = chunk.length ∧ payload.segmentData = chunk
      ∧ payload.tail = chunk ++ List.replicate (7 - chunk.length) 0
  | initiateBlockDownload index subindex size crc =>
      ClientCommand.ofByte payload.command = .blockDownloadInitiate crc true
      ∧ payload.index = index ∧ payload.subindex = subindex ∧ payload.word.toNat = size
  | blockSegment sequence chunk last =>
      SegmentHeader.ofByte payload.command = ⟨last, sequence⟩
      ∧ payload.tail = chunk ++ List.replicate (7 - chunk.length) 0
  | endBlockDownload unused crc =>
      ClientCommand.ofByte payload.command = .endBlockDownload unused
      ∧ payload.checksum = crc ∧ payload.subindex = 0 ∧ payload.data.toList = [0, 0, 0, 0]
  | abort index subindex code =>
      ClientCommand.ofByte payload.command = .abort
      ∧ payload.index = index ∧ payload.subindex = subindex ∧ payload.word = code

/-! ## The bytes of an order -/

/-- The eight bytes that say what is ordered. -/
def octets : Order → Octets
  | initiateUpload index subindex =>
      Payload.toOctets ⟨ClientCommand.initiateUpload.toByte, index, subindex, Vector.replicate 4 0⟩
  | expeditedDownload index subindex data =>
      Payload.toOctets
        ⟨(ClientCommand.initiateDownload (UInt8.ofNat (4 - data.length)) true true).toByte, index,
          subindex, Vector.ofFn fun position => data.getD position 0⟩
  | initiateSegmentedDownload index subindex size =>
      Payload.toOctets
        ⟨(ClientCommand.initiateDownload 0 false (size != 0)).toByte, index, subindex,
          LittleEndian.bytes32 (UInt32.ofNat size)⟩
  | uploadSegment toggle => Octets.ofList [(ClientCommand.uploadSegment toggle).toByte]
  | downloadSegment toggle chunk last =>
      Octets.ofList
        ((ClientCommand.downloadSegment toggle (UInt8.ofNat (7 - chunk.length)) last).toByte
          :: chunk)
  | initiateBlockDownload index subindex size crc =>
      Payload.toOctets
        ⟨(ClientCommand.blockDownloadInitiate crc true).toByte, index, subindex,
          LittleEndian.bytes32 (UInt32.ofNat size)⟩
  | blockSegment sequence chunk last =>
      Octets.ofList ((SegmentHeader.mk last sequence).toByte :: chunk)
  | endBlockDownload unused crc =>
      Octets.ofList [(ClientCommand.endBlockDownload unused).toByte,
        (LittleEndian.bytes16 crc).1, (LittleEndian.bytes16 crc).2]
  | abort index subindex code =>
      Payload.toOctets ⟨ClientCommand.abort.toByte, index, subindex, LittleEndian.bytes32 code⟩

end Order

/-! ## Bytes behind the command -/

namespace Payload

theorem command_of_ofList (first : UInt8) (chunk : List UInt8) :
    (ofOctets (Octets.ofList (first :: chunk))).command = first := by
  simp [ofOctets, Octets.first]

theorem tail_of_ofList (first : UInt8) {chunk : List UInt8} (fits : chunk.length ≤ 7) :
    (ofOctets (Octets.ofList (first :: chunk))).tail
      = chunk ++ List.replicate (7 - chunk.length) 0 := by
  have fitsAll : (first :: chunk).length ≤ 8 := Nat.succ_le_succ fits
  rw [tail, toOctets_ofOctets, Octets.toList_ofList fitsAll]
  simp

variable {payload : Payload}

theorem segmentSize_of_downloadSegment {toggle last : Bool} {count : Nat} (fits : count ≤ 7)
    (named : ClientCommand.ofByte payload.command
      = .downloadSegment toggle (UInt8.ofNat (7 - count)) last) :
    payload.segmentSize = count := by
  rw [segmentSize, ClientCommand.unused_of_downloadSegment named, UInt8.toNat_ofNat']
  show 7 - (7 - count) % 256 = count
  omega

theorem expeditedSize_of_initiateDownload {unused : UInt8} {expedited sized : Bool}
    (named : ClientCommand.ofByte payload.command = .initiateDownload unused expedited sized) :
    payload.expeditedSize
      = if expedited then if sized then 4 - unused.toNat else 4 else 0 := by
  obtain ⟨unusedSame, expeditedSame, sizedSame⟩ := ClientCommand.fields_of_initiateDownload named
  rw [expeditedSize, unusedSame, expeditedSame, sizedSame]

end Payload

/-! ## What is refused -/

/-- Whether a builder makes a message of these bytes if the node exists and what is ordered
fits, and refuses anything else. -/
def Builds (node : UInt8) (octets : Octets) (fits : Prop) (result : Except CodecError Message) :
    Prop :=
  (node.toNat ≤ 127 ∧ fits ∧ result = .ok (Message.request node octets))
  ∨ ((127 < node.toNat ∨ ¬ fits) ∧ ∃ cause, result = .error cause)

namespace Builds

variable {node : UInt8} {octets : Octets} {fits fits' : Prop} {result : Except CodecError Message}

theorem congr (builds : Builds node octets fits result) (same : fits ↔ fits') :
    Builds node octets fits' result := by
  rwa [propext same] at builds

theorem guarded {wrong : Prop} [Decidable wrong] (builds : Builds node octets fits result)
    (cause : CodecError) :
    Builds node octets (¬ wrong ∧ fits) (if wrong then .error cause else result) := by
  by_cases isWrong : wrong
  · rw [if_pos isWrong]
    exact .inr ⟨.inr fun both => both.1 isWrong, cause, rfl⟩
  · rw [if_neg isWrong]
    exact builds.congr (and_iff_right isWrong).symm

theorem standard (node : UInt8) (octets : Octets) :
    Builds node octets True (Message.standard .sdoRx node false octets.toList) := by
  by_cases nodeFits : node.toNat ≤ 127
  · exact .inl ⟨nodeFits, trivial, Request.standard_eq_ok nodeFits octets⟩
  · have above := Nat.lt_of_not_le nodeFits
    refine .inr ⟨.inl above, ?_⟩
    rw [Message.standard, if_pos above]
    exact ⟨_, rfl⟩

theorem about (node : UInt8) (command : ClientCommand) (index : UInt16) (subindex : UInt8)
    (data : Vector UInt8 4) :
    Builds node (Payload.toOctets ⟨command.toByte, index, subindex, data⟩) True
      (Request.about node command index subindex data) :=
  standard node _

theorem declaring (node : UInt8) (command : ClientCommand) (index : UInt16) (subindex : UInt8)
    (size : Nat) :
    Builds node
      (Payload.toOctets
        ⟨command.toByte, index, subindex, LittleEndian.bytes32 (UInt32.ofNat size)⟩)
      (size ≤ 0xFFFFFFFF)
      (Request.declaredSize size >>= Request.about node command index subindex) := by
  by_cases sizeFits : size ≤ Request.maxSize
  · rw [Request.declaredSize_eq_ok sizeFits]
    exact (about node command index subindex _).congr (iff_of_true trivial sizeFits)
  · refine .inr ⟨.inr sizeFits, ?_⟩
    rw [Request.declaredSize, if_pos (Nat.lt_of_not_le sizeFits)]
    exact ⟨_, rfl⟩

theorem carrying (node first : UInt8) (chunk : List UInt8) :
    Builds node (Octets.ofList (first :: chunk)) (chunk.length ≤ 7)
      (Request.carrying node first chunk) := by
  have flat : Octets.concat [[first], chunk] = Octets.ofList (first :: chunk) := by
    simp [Octets.concat]
  rw [Request.carrying, flat]
  refine ((standard node _).guarded _).congr ?_
  rw [and_true, Nat.not_lt]

end Builds

namespace Order

theorem builds (node : UInt8) (order : Order) :
    Builds node order.octets order.Expressible (order.build node) := by
  cases order with
  | initiateUpload index subindex => exact .about node _ index subindex _
  | expeditedDownload index subindex data =>
      refine ((Builds.about node _ index subindex _).guarded _).congr ?_
      cases data <;> simp [Expressible, expeditedCapacity]
  | initiateSegmentedDownload index subindex size => exact .declaring node _ index subindex size
  | uploadSegment toggle =>
      exact (Builds.carrying node _ []).congr (iff_of_true (Nat.zero_le 7) trivial)
  | downloadSegment toggle chunk last => exact .carrying node _ chunk
  | initiateBlockDownload index subindex size crc => exact .declaring node _ index subindex size
  | blockSegment sequence chunk last =>
      refine ((Builds.carrying node _ chunk).guarded _).congr ?_
      have zero : sequence = 0 ↔ sequence.toNat = 0 := UInt8.toNat_inj.symm
      have inRange : ¬ (sequence.toNat = 0 ∨ 127 < sequence.toNat)
          ↔ 1 ≤ sequence.toNat ∧ sequence.toNat ≤ 127 := by
        omega
      rw [zero, inRange]
      rfl
  | endBlockDownload unused crc =>
      refine ((Builds.carrying node _ _).guarded _).congr ?_
      simp [Expressible]
  | abort index subindex code => exact .about node _ index subindex _

theorem word_of_bytes32 {payload : Payload} {size : Nat} (fits : size ≤ 0xFFFFFFFF)
    (data : payload.data = LittleEndian.bytes32 (UInt32.ofNat size)) :
    payload.word.toNat = size := by
  rw [Payload.word, data, LittleEndian.word32_bytes32, UInt32.toNat_ofNat']
  omega

theorem isReadFrom_expeditedDownload (index : UInt16) (subindex : UInt8) {data : List UInt8}
    (some : 1 ≤ data.length) (short : data.length ≤ 4) :
    (expeditedDownload index subindex data).IsReadFrom
      ⟨(ClientCommand.initiateDownload (UInt8.ofNat (4 - data.length)) true true).toByte, index,
        subindex, Vector.ofFn fun position => data.getD position 0⟩ := by
  let payload : Payload :=
    ⟨(ClientCommand.initiateDownload (UInt8.ofNat (4 - data.length)) true true).toByte, index,
      subindex, Vector.ofFn fun position => data.getD position 0⟩
  have unused : (UInt8.ofNat (4 - data.length)).toNat = 4 - data.length := by
    rw [UInt8.toNat_ofNat']
    omega
  have named : ClientCommand.ofByte payload.command
      = .initiateDownload (UInt8.ofNat (4 - data.length)) true true := by
    apply ClientCommand.ofByte_toByte
    show (UInt8.ofNat (4 - data.length)).toNat ≤ 3
    omega
  have size : payload.expeditedSize = data.length := by
    rw [Payload.expeditedSize_of_initiateDownload named, unused]
    simp only [if_true]
    omega
  have filled : payload.data.toList = data ++ List.replicate (4 - data.length) 0 :=
    toList_ofFn_getD short
  have found : payload.expeditedData = data := by
    rw [Payload.expeditedData, size, filled, List.take_left]
  exact ⟨named, rfl, rfl, size, found, filled⟩

theorem isReadFrom_initiateSegmentedDownload (index : UInt16) (subindex : UInt8) {size : Nat}
    (fits : size ≤ 0xFFFFFFFF) :
    (initiateSegmentedDownload index subindex size).IsReadFrom
      ⟨(ClientCommand.initiateDownload 0 false (size != 0)).toByte, index, subindex,
        LittleEndian.bytes32 (UInt32.ofNat size)⟩ := by
  let payload : Payload :=
    ⟨(ClientCommand.initiateDownload 0 false (size != 0)).toByte, index, subindex,
      LittleEndian.bytes32 (UInt32.ofNat size)⟩
  have named : ClientCommand.ofByte payload.command = .initiateDownload 0 false (size != 0) := by
    apply ClientCommand.ofByte_toByte
    show (0 : UInt8).toNat ≤ 3
    decide
  have unexpedited : payload.expeditedSize = 0 := by
    rw [Payload.expeditedSize_of_initiateDownload named]
    rfl
  exact ⟨named, rfl, rfl, word_of_bytes32 fits rfl, unexpedited⟩

theorem isReadFrom_downloadSegment (toggle last : Bool) {chunk : List UInt8}
    (short : chunk.length ≤ 7) :
    (downloadSegment toggle chunk last).IsReadFrom
      (Payload.ofOctets (downloadSegment toggle chunk last).octets) := by
  have named : ClientCommand.ofByte
      (Payload.ofOctets (downloadSegment toggle chunk last).octets).command
        = .downloadSegment toggle (UInt8.ofNat (7 - chunk.length)) last := by
    rw [octets, Payload.command_of_ofList]
    apply ClientCommand.ofByte_toByte
    show (UInt8.ofNat (7 - chunk.length)).toNat ≤ 7
    rw [UInt8.toNat_ofNat']
    omega
  have size := Payload.segmentSize_of_downloadSegment short named
  have tail := Payload.tail_of_ofList
    (ClientCommand.downloadSegment toggle (UInt8.ofNat (7 - chunk.length)) last).toByte short
  refine ⟨named, size, ?_, tail⟩
  rw [Payload.segmentData, size, octets, tail, List.take_left]

theorem isReadFrom_endBlockDownload {unused : UInt8} (fits : unused.toNat < 7) (crc : UInt16) :
    (endBlockDownload unused crc).IsReadFrom
      (Payload.ofOctets (endBlockDownload unused crc).octets) := by
  refine ⟨?_, ?_, ?_, ?_⟩
  · rw [octets, Payload.command_of_ofList]
    apply ClientCommand.ofByte_toByte
    exact Nat.le_of_lt fits
  · simp [octets, Payload.ofOctets, Payload.checksum, Octets.second, LittleEndian.word16_bytes16]
  · simp [octets, Payload.ofOctets]
  · simp [octets, Payload.ofOctets]

/-- What is ordered is read from the bytes that say it. -/
theorem isReadFrom_octets {order : Order} (expressible : order.Expressible) :
    order.IsReadFrom (Payload.ofOctets order.octets) := by
  cases order with
  | initiateUpload index subindex =>
      rw [octets, Payload.ofOctets_toOctets]
      exact ⟨ClientCommand.ofByte_toByte trivial, rfl, rfl, rfl⟩
  | expeditedDownload index subindex data =>
      rw [octets, Payload.ofOctets_toOctets]
      exact isReadFrom_expeditedDownload index subindex expressible.1 expressible.2
  | initiateSegmentedDownload index subindex size =>
      rw [octets, Payload.ofOctets_toOctets]
      exact isReadFrom_initiateSegmentedDownload index subindex expressible
  | uploadSegment toggle =>
      rw [octets]
      refine ⟨?_, Payload.tail_of_ofList _ (Nat.zero_le 7)⟩
      rw [Payload.command_of_ofList]
      exact ClientCommand.ofByte_toByte trivial
  | downloadSegment toggle chunk last => exact isReadFrom_downloadSegment toggle last expressible
  | initiateBlockDownload index subindex size crc =>
      rw [octets, Payload.ofOctets_toOctets]
      exact ⟨ClientCommand.ofByte_toByte trivial, rfl, rfl, word_of_bytes32 expressible rfl⟩
  | blockSegment sequence chunk last =>
      rw [octets]
      obtain ⟨⟨_, inRange⟩, short⟩ := expressible
      refine ⟨?_, Payload.tail_of_ofList _ short⟩
      rw [Payload.command_of_ofList]
      exact SegmentHeader.ofByte_toByte inRange last
  | endBlockDownload unused crc => exact isReadFrom_endBlockDownload expressible crc
  | abort index subindex code =>
      rw [octets, Payload.ofOctets_toOctets]
      exact ⟨ClientCommand.ofByte_toByte trivial, rfl, rfl, LittleEndian.word32_bytes32 code⟩

/-- An order is refused if there is no such node or if it cannot be expressed.  Otherwise it is
built into a standard message of eight bytes to the node, and all that was ordered is read
from these bytes as service data. -/
theorem build_readBack (node : UInt8) (order : Order) :
    ((127 < node.toNat ∨ ¬ order.Expressible) ∧ ∃ cause, order.build node = .error cause)
    ∨ (node.toNat ≤ 127 ∧ order.Expressible
      ∧ ∃ message, order.build node = .ok message
        ∧ message.Carries .sdoRx 8 ∧ message.node = node.toUInt32
        ∧ message.body = .sdo (Payload.ofOctets message.octets)
        ∧ order.IsReadFrom (Payload.ofOctets message.octets)) := by
  obtain ⟨nodeFits, expressible, built⟩ | refused := order.builds node
  · right
    refine ⟨nodeFits, expressible, Message.request node order.octets, built, ?_, rfl, ?_, ?_⟩
    · exact ⟨rfl, rfl, rfl, rfl⟩
    · rw [Message.octets_request]
      rfl
    · rw [Message.octets_request]
      exact isReadFrom_octets expressible
  · exact .inl refused

end Order

end CanOpen.Sdo
