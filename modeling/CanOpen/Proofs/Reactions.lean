import CanOpen.Proofs.BlockFraming
import CanOpen.Proofs.RequestReading
import CanOpen.Sdo.Client

/-!
# What a transfer can do about a reply

Whatever state a transfer is in, there are few things that it can do about a reply of its
node.  It never has a request that cannot be built, and it ends with a success, with an
operation that is not supported, or because it is given up: by the node, or by itself over
the size of a block.
-/

set_option autoImplicit false

namespace CanOpen.Sdo

variable {ε S α : Type}

/-- Whether a message is a request to the service data server of a node that goes on with a
transfer. -/
def Asks (node : UInt8) (message : Message) : Prop :=
  ∃ octets : Octets, message = .request node octets
    ∧ octets.first ≠ ClientCommand.abort.toByte

/-- How a transfer can be given up. -/
structure Conduct where
  node : UInt8
  /-- Whether it ends once the node gives it up. -/
  heeds : Bool
  /-- The message with which it gives itself up over the size of a block, if it may. -/
  refusal : Option Message
  deriving DecidableEq, Repr

/-- Whether a result says neither that a message was bad, nor that the transport failed, nor
that a transfer was given up. -/
def Harmless : Except (Failure ε) α → Prop
  | .ok _ | .error .timeout | .error (.unsupported _) => True
  | .error (.transport _) | .error (.malformed _) | .error (.abort _ _) => False

namespace Reaction

def requests : Reaction ε S α → List (Except CodecError Message)
  | ignore _ => []
  | proceed _ requests _ | finish _ requests _ _ => requests

def result? : Reaction ε S α → Option (Except (Failure ε) α)
  | ignore _ | proceed _ _ _ => none
  | finish _ _ _ result => some result

inductive Lawful (conduct : Conduct) (state : S) (payload : Payload) : Reaction ε S α → Prop
  | ignored (notes : List (Note ε)) : Lawful conduct state payload (.ignore notes)
  | proceeded (notes : List (Note ε)) {messages : List Message} (next : S)
      (ask : ∀ message ∈ messages, Asks conduct.node message) :
      Lawful conduct state payload (.proceed notes (messages.map .ok) next)
  | finished (notes : List (Note ε)) (final : S) {result : Except (Failure ε) α}
      (harmless : Harmless result) : Lawful conduct state payload (.finish notes [] final result)
  | givenUp (heeds : conduct.heeds = true)
      (aborts : ServerCommand.ofByte payload.command = .abort) :
      Lawful conduct state payload (.aborted conduct.node payload state)
  | refused (notes : List (Note ε)) (final : S) {refusal : Message}
      (refuses : conduct.refusal = some refusal) :
      Lawful conduct state payload
        (.finish notes [.ok refusal] final
          (.error (.abort AbortCode.invalidBlockSize.code AbortCode.invalidBlockSize.description)))

end Reaction

/-- Whether a transfer keeps to a conduct in every state. -/
structure Transfer.Lawful (transfer : Transfer ε S α) (conduct : Conduct) : Prop where
  node_eq : transfer.node = conduct.node
  react : ∀ state payload, (transfer.react state payload).Lawful conduct state payload
  heed : conduct.heeds = true → ∀ state payload,
    ServerCommand.ofByte payload.command = .abort →
      transfer.react state payload = .aborted conduct.node payload state

/-! ## Requests -/

section Asks

variable {node : UInt8}

/-- Every order but to give up goes on with a transfer. -/
theorem asks_order {order : Order} (expressible : order.Expressible)
    (goesOn : ∀ index subindex code, order ≠ .abort index subindex code) :
    Asks node (.request node order.octets) := by
  refine ⟨order.octets, rfl, fun same => ?_⟩
  have command : (Payload.ofOctets order.octets).command = ClientCommand.abort.toByte := same
  have aborts : ClientCommand.ofByte ClientCommand.abort.toByte = .abort := rfl
  have read := Order.isReadFrom_octets expressible
  cases order with
  | abort index subindex code => exact goesOn index subindex code rfl
  | blockSegment sequence chunk last =>
      obtain ⟨header, _⟩ := read
      rw [command] at header
      have none : 0 = sequence := congrArg SegmentHeader.sequence header
      rw [← none] at expressible
      exact absurd expressible.1.1 (by decide)
  | uploadSegment toggle | downloadSegment toggle chunk last | endBlockDownload unused crc
  | initiateUpload index subindex | expeditedDownload index subindex data
  | initiateSegmentedDownload index subindex size
  | initiateBlockDownload index subindex size crc =>
      have named := read.1
      rw [command, aborts] at named
      cases named

theorem asks_uploadSegment (toggle : Bool) :
    Asks node (.request node (Order.uploadSegment toggle).octets) :=
  asks_order trivial nofun

theorem asks_downloadSegment (toggle last : Bool) {chunk : List UInt8}
    (fits : chunk.length ≤ 7) :
    Asks node (.request node (Order.downloadSegment toggle chunk last).octets) :=
  asks_order fits nofun

theorem asks_segment (data : List UInt8) {block : Block} (admissible : block.Admissible)
    {segment : Message} (member : segment ∈ block.segments node data) : Asks node segment := by
  obtain ⟨place, inside, rfl⟩ := List.mem_map.1 member
  have few := Block.count_le data.length admissible
  have inRange : (UInt8.ofNat (place + 1)).toNat = place + 1 := by
    rw [List.mem_range] at inside
    rw [UInt8.toNat_ofNat']
    omega
  have expressible : (Order.blockSegment (UInt8.ofNat (place + 1))
      (chunkAt (data.drop block.start) place)
      (decide (data.length ≤ block.start + 7 * (place + 1)))).Expressible := by
    refine ⟨?_, length_chunkAt_le _ _⟩
    rw [List.mem_range] at inside
    omega
  exact asks_order expressible nofun

theorem asks_endBlockDownload {unused : UInt8} (inRange : unused.toNat < 7) (crc : UInt16) :
    Asks node (.request node (Octets.ofList
      [(ClientCommand.endBlockDownload unused).toByte, (LittleEndian.bytes16 crc).1,
        (LittleEndian.bytes16 crc).2])) := by
  have expressible : (Order.endBlockDownload unused crc).Expressible := inRange
  exact asks_order expressible nofun

theorem asks_endMessage (data : List UInt8) (crc : Bool) :
    Asks node (endMessage node data crc) := by
  apply asks_endBlockDownload
  rw [UInt8.toNat_ofNat']
  omega

end Asks

/-! ## The transfers of a client -/

section Transfers

open Transfer

variable {budget : Nat} {node : UInt8} {index : UInt16} {subindex : UInt8}

theorem harmless_decode (payload : Payload) :
    Harmless ((ObjectValue.decode payload.expeditedData).mapError
      (Failure.malformed : CodecError → Failure ε)) := by
  have short : ¬ ObjectValue.maxLength < payload.expeditedData.length := by
    rw [Payload.expeditedData, List.length_take, Vector.length_toList]
    exact Nat.not_lt.2 (Nat.min_le_right _ 4)
  rw [ObjectValue.decode, if_neg short]
  trivial

theorem expeditedUpload_lawful :
    (expeditedUpload (ε := ε) budget node index subindex).Lawful ⟨node, true, none⟩ where
  node_eq := rfl
  react := by
    intro state payload
    unfold expeditedUpload
    dsimp only
    cases command : ServerCommand.ofByte payload.command with
    | initiateUpload unused expedited sized =>
        cases expedited with
        | true => exact .finished _ _ (harmless_decode payload)
        | false => exact .finished _ _ trivial
    | abort => exact .givenUp rfl command
    | _ => exact .ignored _
  heed := by
    intro _ state payload aborts
    unfold expeditedUpload
    dsimp only
    rw [aborts]

theorem expeditedDownload_lawful {data : List UInt8} :
    (expeditedDownload (ε := ε) budget node index subindex data).Lawful ⟨node, false, none⟩ where
  node_eq := rfl
  react := by
    intro state payload
    unfold expeditedDownload
    dsimp only
    split <;> exact .finished _ _ trivial
  heed := nofun

theorem segmentedUpload_lawful (nodeFits : node.toNat ≤ 127) {contents : List UInt8} :
    (segmentedUpload (ε := ε) budget node index subindex contents).Lawful
      ⟨node, true, none⟩ where
  node_eq := rfl
  react := by
    intro state payload
    have built (toggle : Bool) : [Request.uploadSegment node toggle]
        = [Message.request node (Order.uploadSegment toggle).octets].map .ok :=
      congrArg (fun request => [request]) (Request.carrying_eq_ok nodeFits _ (Nat.zero_le 7))
    unfold segmentedUpload
    dsimp only
    split
    next aborts => exact .givenUp rfl aborts
    · exact .finished _ _ trivial
    · rw [built]
      exact .proceeded _ _ (List.forall_mem_singleton.2 (asks_uploadSegment false))
    next toggle unused last awaited _ _ =>
      split
      · split
        · exact .finished _ _ trivial
        · rw [built]
          exact .proceeded _ _ (List.forall_mem_singleton.2 (asks_uploadSegment !awaited))
      · exact .ignored _
    · exact .ignored _
  heed := by
    intro _ state payload aborts
    simp only [segmentedUpload, aborts]

theorem advance_lawful (nodeFits : node.toNat ≤ 127) {heeds : Bool} (state : Download)
    (payload : Payload) (toggle : Bool) (download : Download) :
    (download.advance (ε := ε) node toggle).Lawful ⟨node, heeds, none⟩ state payload := by
  unfold Download.advance
  split
  · exact .finished _ _ trivial
  · have short : (download.remaining.take segmentCapacity).length ≤ 7 := List.length_take_le 7 _
    have built (last : Bool) :
        [Request.downloadSegment node toggle (download.remaining.take segmentCapacity) last]
          = [Message.request node (Order.downloadSegment toggle
              (download.remaining.take segmentCapacity) last).octets].map .ok :=
      congrArg (fun request => [request]) (Request.carrying_eq_ok nodeFits _ short)
    dsimp only
    rw [built]
    exact .proceeded _ _ (List.forall_mem_singleton.2 (asks_downloadSegment toggle _ short))

theorem segmentedDownload_lawful (nodeFits : node.toNat ≤ 127) {data : List UInt8} :
    (segmentedDownload (ε := ε) budget node index subindex data).Lawful
      ⟨node, true, none⟩ where
  node_eq := rfl
  react := by
    intro state payload
    unfold segmentedDownload
    dsimp only
    split
    next aborts => exact .givenUp rfl aborts
    · exact advance_lawful nodeFits state payload false state
    next toggle sent _ _ =>
      split
      · exact advance_lawful nodeFits state payload (!sent) state
      · exact .ignored _
    · exact .ignored _
  heed := by
    intro _ state payload aborts
    simp only [segmentedDownload, aborts]

theorem sendBlock_lawful (nodeFits : node.toNat ≤ 127) {heeds : Bool} (state : BlockDownload)
    (payload : Payload) (notes : List (Note ε)) (crc : Bool) (data : List UInt8)
    (size : UInt8) :
    (sendBlock node index subindex notes crc data size).Lawful
      ⟨node, heeds, some (refusal node index subindex)⟩ state payload := by
  let block : Block := ⟨0, size.toNat⟩
  by_cases admissible : block.Admissible
  · have sends : sendBlock node index subindex notes crc data size
        = .proceed notes ((block.segments node data).map .ok) (underway crc data block) :=
      sendBlock_of_admissible nodeFits rfl admissible notes
    rw [sends]
    exact .proceeded _ _ fun segment member => asks_segment data admissible member
  · have unfit : size = 0 ∨ Request.maxBlockSize < size.toNat := by
      have bounds : ¬ (1 ≤ size.toNat ∧ size.toNat ≤ 127) := admissible
      rw [← UInt8.toNat_inj]
      show size.toNat = 0 ∨ 127 < size.toNat
      omega
    have built : Request.abort node index subindex AbortCode.invalidBlockSize.code
        = .ok (refusal node index subindex) :=
      Request.about_eq_ok nodeFits _ _ _ _
    rw [sendBlock, if_pos unfit]
    dsimp only
    rw [built]
    exact .refused _ _ rfl

theorem blockDownload_lawful (nodeFits : node.toNat ≤ 127) {offerCrc : Bool}
    {data : List UInt8} :
    (blockDownload (ε := ε) budget offerCrc node index subindex data).Lawful
      ⟨node, true, some (refusal node index subindex)⟩ where
  node_eq := rfl
  react := by
    intro state payload
    unfold blockDownload
    dsimp only
    split
    · exact sendBlock_lawful nodeFits _ payload _ _ _ _
    next crc unconfirmed sent _ =>
      split
      · split
        · have unused := spareBytes_lt (unconfirmed.drop (segmentCapacity * (sent - 1)))
          rw [Request.endBlockDownload_eq_ok nodeFits unused]
          exact .proceeded _ _ (List.forall_mem_singleton.2 (asks_endBlockDownload unused _))
        · exact sendBlock_lawful nodeFits _ payload _ _ _ _
      · exact sendBlock_lawful nodeFits _ payload _ _ _ _
    · exact .finished _ _ trivial
    · exact .ignored _
    next aborts => exact .givenUp rfl aborts
    · exact .ignored _
  heed := by
    intro _ state payload aborts
    simp only [blockDownload, aborts]

end Transfers

/-! ## What a call plays -/

namespace Call

inductive Plays (config : Config) : Call → {S α : Type} → Transfer ε S α → Prop
  | expeditedUpload (node : UInt8) (index : UInt16) (subindex : UInt8) :
      Plays config (.expeditedUpload node index subindex)
        (Transfer.expeditedUpload config.expeditedRounds node index subindex)
  | expeditedDownload (node : UInt8) (index : UInt16) (subindex : UInt8) (data : List UInt8) :
      Plays config (.expeditedDownload node index subindex data)
        (Transfer.expeditedDownload config.transferRounds node index subindex data)
  | segmentedUpload (node : UInt8) (index : UInt16) (subindex : UInt8)
      (contents : List UInt8) :
      Plays config (.segmentedUpload node index subindex contents)
        (Transfer.segmentedUpload config.transferRounds node index subindex contents)
  | segmentedDownload (node : UInt8) (index : UInt16) (subindex : UInt8) (data : List UInt8) :
      Plays config (.segmentedDownload node index subindex data)
        (Transfer.segmentedDownload config.transferRounds node index subindex data)
  | blockDownload (node : UInt8) (index : UInt16) (subindex : UInt8) (data : List UInt8) :
      Plays config (.blockDownload node index subindex data)
        (Transfer.blockDownload config.transferRounds config.blockCrc node index subindex data)
  | identity (node subindex : UInt8) (among : subindex ∈ [1, 2, 3]) :
      Plays config (.identity node)
        (Transfer.expeditedUpload config.expeditedRounds node identityIndex subindex)

/-- Whether there is a request for what a call wants. -/
def Requestable : Call → Prop
  | expeditedUpload node _ _ | segmentedUpload node _ _ _ | identity node => node.toNat ≤ 127
  | expeditedDownload node _ _ data =>
      node.toNat ≤ 127 ∧ 1 ≤ data.length ∧ data.length ≤ 4
  | segmentedDownload node _ _ data | blockDownload node _ _ data =>
      node.toNat ≤ 127 ∧ data.length ≤ 0xFFFFFFFF
  | blockUpload _ _ _ _ => True

def conduct : Call → Conduct
  | expeditedUpload node _ _ | segmentedUpload node _ _ _ | segmentedDownload node _ _ _
  | blockUpload node _ _ _ | identity node => ⟨node, true, none⟩
  | expeditedDownload node _ _ _ => ⟨node, false, none⟩
  | blockDownload node index subindex _ => ⟨node, true, some (refusal node index subindex)⟩

variable {config : Config} {call : Call} {transfer : Transfer ε S α}

/-- The order with which a transfer opens can be expressed exactly if the call can be
requested. -/
theorem Plays.request_eq (plays : call.Plays config transfer) :
    ∃ order : Order, transfer.request = order.build call.conduct.node
      ∧ (call.Requestable ↔ call.conduct.node.toNat ≤ 127 ∧ order.Expressible)
      ∧ ∀ index subindex code, order ≠ .abort index subindex code := by
  cases plays with
  | expeditedUpload node index subindex =>
      exact ⟨.initiateUpload index subindex, rfl, (and_iff_left trivial).symm, nofun⟩
  | expeditedDownload node index subindex data =>
      exact ⟨.expeditedDownload index subindex data, rfl, Iff.rfl, nofun⟩
  | segmentedUpload node index subindex contents =>
      exact ⟨.initiateUpload index subindex, rfl, (and_iff_left trivial).symm, nofun⟩
  | segmentedDownload node index subindex data =>
      exact ⟨.initiateSegmentedDownload index subindex data.length, rfl, Iff.rfl, nofun⟩
  | blockDownload node index subindex data =>
      exact ⟨.initiateBlockDownload index subindex data.length config.blockCrc, rfl, Iff.rfl,
        nofun⟩
  | identity node subindex among =>
      exact ⟨.initiateUpload identityIndex subindex, rfl, (and_iff_left trivial).symm, nofun⟩

/-- A transfer opens with a message that goes on, or no message can say what it wants. -/
theorem Plays.request_cases (plays : call.Plays config transfer) :
    (call.Requestable ∧ call.conduct.node.toNat ≤ 127
      ∧ ∃ request, transfer.request = .ok request ∧ Asks call.conduct.node request)
    ∨ (¬ call.Requestable ∧ ∃ cause, transfer.request = .error cause) := by
  obtain ⟨order, opens, requestable, goesOn⟩ := plays.request_eq
  rw [opens, requestable]
  obtain ⟨nodeFits, expressible, built⟩ | ⟨unfit, refused⟩ := order.builds call.conduct.node
  · exact .inl ⟨⟨nodeFits, expressible⟩, nodeFits, _, built, asks_order expressible goesOn⟩
  · refine .inr ⟨?_, refused⟩
    rintro ⟨nodeFits, expressible⟩
    rcases unfit with above | inexpressible
    · exact absurd nodeFits (Nat.not_le.2 above)
    · exact inexpressible expressible

theorem Plays.lawful (plays : call.Plays config transfer)
    (nodeFits : call.conduct.node.toNat ≤ 127) : transfer.Lawful call.conduct := by
  cases plays with
  | expeditedUpload node index subindex => exact expeditedUpload_lawful
  | expeditedDownload node index subindex data => exact expeditedDownload_lawful
  | segmentedUpload node index subindex contents => exact segmentedUpload_lawful nodeFits
  | segmentedDownload node index subindex data => exact segmentedDownload_lawful nodeFits
  | blockDownload node index subindex data => exact blockDownload_lawful nodeFits
  | identity node subindex among => exact expeditedUpload_lawful

end Call

end CanOpen.Sdo
