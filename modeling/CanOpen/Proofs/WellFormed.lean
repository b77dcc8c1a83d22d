import CanOpen.Message.Wire
import CanOpen.Nmt.Service
import CanOpen.Proofs.ServiceData
import CanOpen.Sdo.Request
import Mathlib.Data.List.GetD

/-!
# Messages whose fields agree

A message is coherent if its fields agree about what kind of message it is, and well
formed if also no byte is up that does not count.  Whatever is built is well formed.
What is read off the bus is coherent, and well formed unless the driver handed out
data with a remote frame.
-/

set_option autoImplicit false

namespace CanOpen

namespace Octets

def ZeroFrom (octets : Octets) (place : Nat) : Prop :=
  ∀ position : Fin 8, place ≤ position → octets.get position = 0

instance (octets : Octets) (place : Nat) : Decidable (octets.ZeroFrom place) :=
  inferInstanceAs (Decidable (∀ _ : Fin 8, _ → _))

theorem ZeroFrom.mono {octets : Octets} {place later : Nat} (zero : octets.ZeroFrom place)
    (behind : place ≤ later) : octets.ZeroFrom later :=
  fun position beyond => zero position (Nat.le_trans behind beyond)

theorem zeroFrom_zero_iff {octets : Octets} : octets.ZeroFrom 0 ↔ octets = Octets.zero := by
  constructor
  · intro all
    apply Vector.ext
    intro position inside
    have here := all ⟨position, inside⟩ (Nat.zero_le position)
    rw [zero, Vector.getElem_replicate]
    exact here
  · rintro rfl position _
    exact Vector.getElem_replicate position.isLt

theorem zeroFrom_ofList (bytes : List UInt8) : (ofList bytes).ZeroFrom bytes.length := by
  intro position beyond
  rw [get_ofList, List.getD_eq_default _ _ beyond]

theorem ofList_eq_zero_iff {bytes : List UInt8} (fits : bytes.length ≤ 8) :
    ofList bytes = Octets.zero ↔ ∀ byte ∈ bytes, byte = 0 := by
  rw [← zeroFrom_zero_iff]
  constructor
  · intro all byte member
    obtain ⟨position, inside, rfl⟩ := List.getElem_of_mem member
    have here := all ⟨position, by omega⟩ (Nat.zero_le _)
    rwa [get_ofList, List.getD_eq_getElem _ _ inside] at here
  · intro all position _
    rw [get_ofList]
    by_cases inside : position < bytes.length
    · rw [List.getD_eq_getElem _ _ inside]
      exact all _ (List.getElem_mem inside)
    · exact List.getD_eq_default _ _ (Nat.le_of_not_lt inside)

/-- Bytes with zeros behind them are read back from the list of those in front. -/
theorem ofList_take {octets : Octets} {count : Nat} (zero : octets.ZeroFrom count) :
    ofList (octets.toList.take count) = octets := by
  apply Vector.ext
  intro position inside
  rw [getElem_ofList]
  by_cases counts : position < count
  · have within : position < (octets.toList.take count).length := by
      rw [List.length_take, Vector.length_toList]
      omega
    rw [List.getD_eq_getElem _ _ within, List.getElem_take, Vector.getElem_toList]
  · have short : (octets.toList.take count).length ≤ position := by
      rw [List.length_take]
      omega
    rw [List.getD_eq_default _ _ short]
    exact (zero ⟨position, inside⟩ (Nat.le_of_not_lt counts)).symm

theorem take_one (octets : Octets) : octets.toList.take 1 = [octets.first] := by
  apply List.ext_getElem (by simp)
  intro position _ inside
  match position with
  | 0 => simp [first]

theorem take_two (octets : Octets) : octets.toList.take 2 = [octets.first, octets.second] := by
  apply List.ext_getElem (by simp)
  intro position _ inside
  match position with
  | 0 => simp [first]
  | 1 => simp [second]

end Octets

namespace Body

theorem ofOctets_cases (function : Option FunctionCode) (remote : Bool) (octets : Octets)
    (length : Nat) :
    (remote = false ∧ function = some .nmtControl ∧ length = 2
      ∧ ofOctets function remote octets length = .moduleControl octets.first octets.second)
    ∨ (remote = false ∧ function = some .nodeGuard ∧ length = 1
      ∧ ofOctets function remote octets length = .nodeGuard octets.first)
    ∨ (remote = false ∧ (function = some .sdoTx ∨ function = some .sdoRx) ∧ length = 8
      ∧ ofOctets function remote octets length = .sdo (Sdo.Payload.ofOctets octets))
    ∨ (¬ (remote = false ∧ function = some .nmtControl ∧ length = 2)
      ∧ ¬ (remote = false ∧ function = some .nodeGuard ∧ length = 1)
      ∧ ¬ (remote = false ∧ (function = some .sdoTx ∨ function = some .sdoRx) ∧ length = 8)
      ∧ ofOctets function remote octets length = .raw octets) := by
  cases remote with
  | true => simp [ofOctets]
  | false =>
      cases function with
      | none => simp [ofOctets]
      | some function =>
          by_cases two : length = 2
          · cases function <;> simp [ofOctets, two]
          · by_cases one : length = 1
            · cases function <;> simp [ofOctets, one]
            · by_cases eight : length = 8
              · cases function <;> simp [ofOctets, eight]
              · cases function <;> simp [ofOctets, two, one, eight]

theorem ofOctets_none (remote : Bool) (octets : Octets) (length : Nat) :
    ofOctets none remote octets length = .raw octets := by
  cases remote <;> rfl

theorem octets_ofOctets (function : Option FunctionCode) (remote : Bool) {octets : Octets}
    {length : Nat} (zero : octets.ZeroFrom length) :
    (ofOctets function remote octets length).octets = octets := by
  obtain ⟨_, _, rfl, body⟩ | ⟨_, _, rfl, body⟩ | ⟨_, _, _, body⟩ | ⟨_, _, _, body⟩ :=
    ofOctets_cases function remote octets length
  · rw [body, Body.octets, ← Octets.take_two]
    exact Octets.ofList_take zero
  · rw [body, Body.octets, ← Octets.take_one]
    exact Octets.ofList_take zero
  · rw [body]
    exact Sdo.Payload.toOctets_ofOctets octets
  · rw [body]
    rfl

end Body

namespace Message

/-- Whether a message is a standard one of this function code that carries this many
bytes. -/
def Carries (message : Message) (function : FunctionCode) (length : UInt8) : Prop :=
  message.addressing = .standard ∧ message.remote = false ∧ message.function = some function
    ∧ message.length = length

/-- Whether the fields of a message agree about what kind of message it is. -/
structure Coherent (message : Message) : Prop where
  length_le : message.length.toNat ≤ 8
  function_eq_none_iff : message.function = none ↔ message.addressing = .extended
  standardNode_le : message.addressing = .standard → message.node.toNat ≤ 0x7F
  extendedNode_le : message.addressing = .extended → message.node.toNat ≤ 0x1FFFFFFF
  moduleControl_iff : (∃ specifier node, message.body = .moduleControl specifier node)
    ↔ message.Carries .nmtControl 2
  nodeGuard_iff : (∃ state, message.body = .nodeGuard state) ↔ message.Carries .nodeGuard 1
  sdo_iff : (∃ payload, message.body = .sdo payload)
    ↔ message.Carries .sdoTx 8 ∨ message.Carries .sdoRx 8
  raw_iff : (∃ octets, message.body = .raw octets)
    ↔ ¬ message.Carries .nmtControl 2 ∧ ¬ message.Carries .nodeGuard 1
      ∧ ¬ message.Carries .sdoTx 8 ∧ ¬ message.Carries .sdoRx 8

/-- Whether a message is coherent and has no byte up that does not count; in a remote
request none does. -/
structure WellFormed (message : Message) : Prop extends Coherent message where
  padded : message.octets.ZeroFrom message.length.toNat
  silent : message.remote = true → message.octets.ZeroFrom 0

section Coherent

variable {message : Message}

theorem addressing_of_function (named : message.function = none ↔ message.addressing = .extended)
    {function : FunctionCode} (has : message.function = some function) :
    message.addressing = .standard := by
  cases addressing : message.addressing with
  | standard => rfl
  | extended =>
      rw [named.2 addressing] at has
      cases has

theorem coherent_of_body (octets : Octets) (short : message.length.toNat ≤ 8)
    (named : message.function = none ↔ message.addressing = .extended)
    (standard : message.addressing = .standard → message.node.toNat ≤ 0x7F)
    (extended : message.addressing = .extended → message.node.toNat ≤ 0x1FFFFFFF)
    (body : message.body
      = Body.ofOctets message.function message.remote octets message.length.toNat) :
    message.Coherent := by
  have counted (length : UInt8) : message.length = length ↔ message.length.toNat = length.toNat :=
    UInt8.toNat_inj.symm
  obtain ⟨data, function, length, reads⟩ | ⟨data, function, length, reads⟩
      | ⟨data, function, length, reads⟩ | ⟨noControl, noGuard, noSdo, reads⟩ :=
    Body.ofOctets_cases message.function message.remote octets message.length.toNat
  · have addressing := addressing_of_function named function
    rw [reads] at body
    refine ⟨short, named, standard, extended, ?_, ?_, ?_, ?_⟩ <;>
      simp [body, Carries, data, function, length, counted, addressing]
  · have addressing := addressing_of_function named function
    rw [reads] at body
    refine ⟨short, named, standard, extended, ?_, ?_, ?_, ?_⟩ <;>
      simp [body, Carries, data, function, length, counted, addressing]
  · have addressing : message.addressing = .standard :=
      function.elim (addressing_of_function named) (addressing_of_function named)
    rw [reads] at body
    refine ⟨short, named, standard, extended, ?_, ?_, ?_, ?_⟩ <;>
      rcases function with function | function <;>
      simp [body, Carries, data, function, length, counted, addressing]
  · rw [reads] at body
    refine ⟨short, named, standard, extended, ?_, ?_, ?_, ?_⟩ <;>
      simp_all [Carries]

/-- The body of a coherent message is the one that its bytes are by its other fields. -/
theorem Coherent.body_eq (coherent : message.Coherent) :
    message.body
      = Body.ofOctets message.function message.remote message.octets message.length.toNat := by
  have octets : message.octets = message.body.octets := rfl
  cases body : message.body with
  | moduleControl specifier node =>
      obtain ⟨_, data, function, length⟩ := coherent.moduleControl_iff.1 ⟨specifier, node, body⟩
      rw [octets, body, data, function, length]
      rfl
  | nodeGuard state =>
      obtain ⟨_, data, function, length⟩ := coherent.nodeGuard_iff.1 ⟨state, body⟩
      rw [octets, body, data, function, length]
      rfl
  | sdo payload =>
      obtain ⟨_, data, function, length⟩ | ⟨_, data, function, length⟩ :=
        coherent.sdo_iff.1 ⟨payload, body⟩
      · rw [octets, body, data, function, length]
        exact congrArg Body.sdo (Sdo.Payload.ofOctets_toOctets payload).symm
      · rw [octets, body, data, function, length]
        exact congrArg Body.sdo (Sdo.Payload.ofOctets_toOctets payload).symm
  | raw bytes =>
      obtain ⟨noControl, noGuard, noTx, noRx⟩ := coherent.raw_iff.1 ⟨bytes, body⟩
      have carries {kind : FunctionCode} {count : UInt8} (data : message.remote = false)
          (function : message.function = some kind)
          (length : message.length.toNat = count.toNat) : message.Carries kind count :=
        ⟨addressing_of_function coherent.function_eq_none_iff function, data, function,
          UInt8.toNat_inj.1 length⟩
      obtain ⟨data, function, length, _⟩ | ⟨data, function, length, _⟩
          | ⟨data, function, length, _⟩ | ⟨_, _, _, reads⟩ :=
        Body.ofOctets_cases message.function message.remote message.octets message.length.toNat
      · exact (noControl (carries data function length)).elim
      · exact (noGuard (carries data function length)).elim
      · rcases function with tx | rx
        · exact (noTx (carries data tx length)).elim
        · exact (noRx (carries data rx length)).elim
      · rw [reads, octets, body]
        rfl

end Coherent

/-! ## Messages that are built -/

def carried (remote : Bool) (data : List UInt8) : Octets :=
  if remote then Octets.zero else Octets.ofList data

theorem zeroFrom_carried (remote : Bool) (data : List UInt8) :
    (carried remote data).ZeroFrom data.length := by
  cases remote with
  | true => exact (Octets.zeroFrom_zero_iff.2 rfl).mono (Nat.zero_le _)
  | false => exact Octets.zeroFrom_ofList data

theorem bind_contents_eq_ok_iff {remote : Bool} {data : List UInt8}
    {fill : Octets × Nat → Message} {message : Message} :
    (contents data remote >>= fun filled => pure (fill filled)) = .ok message
      ↔ data.length ≤ 8 ∧ message = fill (carried remote data, data.length) := by
  rw [contents]
  split
  next long =>
    have unfit : ¬ data.length ≤ 8 := Nat.not_le.2 long
    simp [bind, Except.bind, unfit]
  next short =>
    have fits : data.length ≤ 8 := Nat.le_of_not_lt short
    simp [bind, Except.bind, pure, Except.pure, fits, carried, eq_comm]

theorem standard_eq_ok_iff {function : FunctionCode} {node : UInt8} {remote : Bool}
    {data : List UInt8} {message : Message} :
    standard function node remote data = .ok message
      ↔ node.toNat ≤ 0x7F ∧ data.length ≤ 8 ∧ message = {
          addressing := .standard
          remote := remote
          function := some function
          node := node.toUInt32
          body := Body.ofOctets (some function) remote (carried remote data) data.length
          length := UInt8.ofNat data.length } := by
  rw [standard]
  split
  next above =>
    have unfit : ¬ node.toNat ≤ 0x7F := Nat.not_le.2 above
    simp [unfit]
  next within =>
    have fits : node.toNat ≤ 0x7F := Nat.le_of_not_lt within
    rw [and_iff_right fits]
    exact bind_contents_eq_ok_iff

theorem extended_eq_ok_iff {id : UInt32} {remote : Bool} {data : List UInt8}
    {message : Message} :
    extended id remote data = .ok message
      ↔ id.toNat ≤ 0x1FFFFFFF ∧ data.length ≤ 8 ∧ message = {
          addressing := .extended
          remote := remote
          function := none
          node := id
          body := .raw (carried remote data)
          length := UInt8.ofNat data.length } := by
  rw [extended]
  split
  next above =>
    have unfit : ¬ id.toNat ≤ 0x1FFFFFFF := Nat.not_le.2 above
    simp [unfit]
  next within =>
    have fits : id.toNat ≤ 0x1FFFFFFF := Nat.le_of_not_lt within
    rw [and_iff_right fits]
    exact bind_contents_eq_ok_iff

theorem toNat_ofNat_of_le {count : Nat} (fits : count ≤ 8) : (UInt8.ofNat count).toNat = count := by
  rw [UInt8.toNat_ofNat']
  omega

theorem wellFormed_of_body {message : Message} {data : List UInt8} (short : data.length ≤ 8)
    (length : message.length = UInt8.ofNat data.length)
    (named : message.function = none ↔ message.addressing = .extended)
    (standard : message.addressing = .standard → message.node.toNat ≤ 0x7F)
    (extended : message.addressing = .extended → message.node.toNat ≤ 0x1FFFFFFF)
    (body : message.body = Body.ofOctets message.function message.remote
      (carried message.remote data) data.length) : message.WellFormed := by
  have count : message.length.toNat = data.length := by
    rw [length, toNat_ofNat_of_le short]
  have filled : message.octets = carried message.remote data := by
    rw [octets, body]
    exact Body.octets_ofOctets _ _ (zeroFrom_carried message.remote data)
  rw [← count] at body short
  refine ⟨coherent_of_body _ short named standard extended body, ?_, ?_⟩
  · rw [filled, count]
    exact zeroFrom_carried message.remote data
  · intro remote
    rw [filled, remote]
    exact Octets.zeroFrom_zero_iff.2 rfl

theorem wellFormed_of_standard {function : FunctionCode} {node : UInt8} {remote : Bool}
    {data : List UInt8} {message : Message}
    (built : standard function node remote data = .ok message) : message.WellFormed := by
  obtain ⟨nodeFits, short, rfl⟩ := standard_eq_ok_iff.1 built
  apply wellFormed_of_body short rfl
  · simp
  · intro _
    rwa [UInt8.toNat_toUInt32]
  · simp
  · rfl

theorem wellFormed_of_extended {id : UInt32} {remote : Bool} {data : List UInt8}
    {message : Message} (built : extended id remote data = .ok message) :
    message.WellFormed := by
  obtain ⟨idFits, short, rfl⟩ := extended_eq_ok_iff.1 built
  apply wellFormed_of_body short rfl
  · simp
  · simp
  · intro _
    exact idFits
  · exact (Body.ofOctets_none _ _ _).symm

theorem wellFormed_request {node : UInt8} (nodeFits : node.toNat ≤ 127) (octets : Octets) :
    (request node octets).WellFormed :=
  wellFormed_of_standard (Sdo.Request.standard_eq_ok nodeFits octets)

/-- What can be built: messages of any content, the requests to a service data server
and those of a network master. -/
inductive Draft where
  | standard (function : FunctionCode) (node : UInt8) (remote : Bool) (data : List UInt8)
  | extended (id : UInt32) (remote : Bool) (data : List UInt8)
  | sdo (function : FunctionCode) (node : UInt8) (payload : Sdo.Payload)
  | initiateUpload (node : UInt8) (index : UInt16) (subindex : UInt8)
  | expeditedDownload (node : UInt8) (index : UInt16) (subindex : UInt8) (data : List UInt8)
  | initiateSegmentedDownload (node : UInt8) (index : UInt16) (subindex : UInt8) (size : Nat)
  | uploadSegment (node : UInt8) (toggle : Bool)
  | downloadSegment (node : UInt8) (toggle : Bool) (chunk : List UInt8) (last : Bool)
  | initiateBlockDownload (node : UInt8) (index : UInt16) (subindex : UInt8) (size : Nat)
    (crc : Bool)
  | blockSegment (node sequence : UInt8) (chunk : List UInt8) (last : Bool)
  | endBlockDownload (node unused : UInt8) (crc : UInt16)
  | abort (node : UInt8) (index : UInt16) (subindex : UInt8) (code : UInt32)
  | moduleControl (command : Nmt.Command) (node : UInt8)
  | nodeGuard (node : UInt8)
  | processData (node : UInt8)
  | sync
  deriving DecidableEq, Repr

def Draft.build : Draft → Except CodecError Message
  | standard function node remote data => Message.standard function node remote data
  | extended id remote data => Message.extended id remote data
  | sdo function node payload => Message.sdo function node payload
  | initiateUpload node index subindex => Sdo.Request.initiateUpload node index subindex
  | expeditedDownload node index subindex data =>
      Sdo.Request.expeditedDownload node index subindex data
  | initiateSegmentedDownload node index subindex size =>
      Sdo.Request.initiateSegmentedDownload node index subindex size
  | uploadSegment node toggle => Sdo.Request.uploadSegment node toggle
  | downloadSegment node toggle chunk last => Sdo.Request.downloadSegment node toggle chunk last
  | initiateBlockDownload node index subindex size crc =>
      Sdo.Request.initiateBlockDownload node index subindex size crc
  | blockSegment node sequence chunk last => Sdo.Request.blockSegment node sequence chunk last
  | endBlockDownload node unused crc => Sdo.Request.endBlockDownload node unused crc
  | abort node index subindex code => Sdo.Request.abort node index subindex code
  | moduleControl command node => Nmt.Request.moduleControl command node
  | nodeGuard node => Nmt.Request.nodeGuard node
  | processData node => Nmt.Request.processData node
  | sync => Nmt.Request.sync

theorem wellFormed_of_carrying {node first : UInt8} {chunk : List UInt8} {message : Message}
    (built : Sdo.Request.carrying node first chunk = .ok message) : message.WellFormed := by
  unfold Sdo.Request.carrying at built
  split at built
  · cases built
  · exact wellFormed_of_standard built

theorem wellFormed_of_declaredSize {size : Nat} {node : UInt8} {command : Sdo.ClientCommand}
    {index : UInt16} {subindex : UInt8} {message : Message}
    (built : (Sdo.Request.declaredSize size >>= Sdo.Request.about node command index subindex)
      = .ok message) : message.WellFormed := by
  cases declared : Sdo.Request.declaredSize size with
  | error cause =>
      rw [declared] at built
      cases built
  | ok bytes =>
      rw [declared] at built
      exact wellFormed_of_standard built

/-- Every builder leads to a standard or an extended message. -/
theorem wellFormed_of_build {draft : Draft} {message : Message}
    (built : draft.build = .ok message) : message.WellFormed := by
  cases draft with
  | standard function node remote data => exact wellFormed_of_standard built
  | extended id remote data => exact wellFormed_of_extended built
  | sdo function node payload => exact wellFormed_of_standard built
  | initiateUpload node index subindex => exact wellFormed_of_standard built
  | expeditedDownload node index subindex data =>
      simp only [Draft.build, Sdo.Request.expeditedDownload] at built
      split at built
      · cases built
      · exact wellFormed_of_standard built
  | initiateSegmentedDownload node index subindex size => exact wellFormed_of_declaredSize built
  | uploadSegment node toggle =>
      simp only [Draft.build, Sdo.Request.uploadSegment] at built
      exact wellFormed_of_carrying built
  | downloadSegment node toggle chunk last => exact wellFormed_of_carrying built
  | initiateBlockDownload node index subindex size crc => exact wellFormed_of_declaredSize built
  | blockSegment node sequence chunk last =>
      simp only [Draft.build, Sdo.Request.blockSegment] at built
      split at built
      · cases built
      · exact wellFormed_of_carrying built
  | endBlockDownload node unused crc =>
      simp only [Draft.build, Sdo.Request.endBlockDownload] at built
      split at built
      · cases built
      · exact wellFormed_of_carrying built
  | abort node index subindex code => exact wellFormed_of_standard built
  | moduleControl command node =>
      simp only [Draft.build, Nmt.Request.moduleControl] at built
      split at built
      · cases built
      · exact wellFormed_of_standard built
  | nodeGuard node => exact wellFormed_of_standard built
  | processData node => exact wellFormed_of_standard built
  | sync =>
      simp only [Draft.build, Nmt.Request.sync] at built
      exact wellFormed_of_standard built

/-! ## Messages that are read -/

end Message

namespace Can

/-- Whether a driver hands out no data with a remote frame; zeros are no data. -/
def Reported.Quiet (frame : Reported) : Prop :=
  frame.remote = true → ∀ byte ∈ frame.bytes, byte = 0

theorem Frame.quiet_reported (frame : Frame) : frame.reported.Quiet := by
  intro remote byte member
  cases content : frame.content with
  | data bytes => simp [Frame.reported, Frame.isRemote, content] at remote
  | remote length => simp [Frame.reported, Frame.bytes, content] at member

namespace Identifier

def addressing : Identifier → Addressing
  | .standard _ => .standard
  | .extended _ => .extended

def function? : Identifier → Option FunctionCode
  | .standard id => some (.ofCode (UInt8.ofNat (id.val / 128)))
  | .extended _ => none

def node : Identifier → UInt32
  | .standard id => UInt32.ofNat (id.val % 128)
  | .extended id => UInt32.ofNat id.val

theorem function?_eq_none_iff (id : Identifier) :
    id.function? = none ↔ id.addressing = .extended := by
  cases id <;> simp [function?, addressing]

theorem node_le_of_standard {id : Identifier} (standard : id.addressing = .standard) :
    id.node.toNat ≤ 0x7F := by
  cases id with
  | standard id =>
      rw [node, UInt32.toNat_ofNat']
      omega
  | extended id => cases standard

theorem node_le_of_extended {id : Identifier} (extended : id.addressing = .extended) :
    id.node.toNat ≤ 0x1FFFFFFF := by
  cases id with
  | standard id => cases extended
  | extended id =>
      rw [node, UInt32.toNat_ofNat']
      omega

end Identifier

end Can

namespace Message

theorem parse_eq_ok_iff {frame : Can.Reported} {message : Message} :
    parse frame = .ok message
      ↔ frame.length ≤ 8 ∧ frame.bytes.length ≤ 8
        ∧ (frame.remote = false → frame.bytes.length = frame.length)
        ∧ message = {
            addressing := frame.id.addressing
            remote := frame.remote
            function := frame.id.function?
            node := frame.id.node
            body := Body.ofOctets frame.id.function? frame.remote (Octets.ofList frame.bytes)
              frame.length
            length := UInt8.ofNat frame.length } := by
  have refused : (Octets.capacity < frame.bytes.length
        ∨ (frame.remote = false ∧ frame.bytes.length ≠ frame.length))
      ↔ ¬ (frame.bytes.length ≤ 8
        ∧ (frame.remote = false → frame.bytes.length = frame.length)) := by
    rw [not_and_or, Nat.not_le, Classical.not_imp]
  unfold parse
  by_cases short : frame.length ≤ 8
  · rw [if_neg (Nat.not_lt.2 short), and_iff_right short]
    by_cases agrees : frame.bytes.length ≤ 8
        ∧ (frame.remote = false → frame.bytes.length = frame.length)
    · rw [if_neg (fun wrong => refused.1 wrong agrees), and_iff_right agrees.1,
        and_iff_right agrees.2]
      cases frame.id with
      | standard id =>
          simp [Can.Identifier.addressing, Can.Identifier.function?, Can.Identifier.node, eq_comm]
      | extended id =>
          simp [Can.Identifier.addressing, Can.Identifier.function?, Can.Identifier.node,
            Body.ofOctets_none, eq_comm]
    · rw [if_pos (refused.2 agrees), ← and_assoc]
      simp [agrees]
  · rw [if_pos (Nat.not_le.1 short)]
    simp [short]

theorem coherent_of_parse {frame : Can.Reported} {message : Message}
    (read : parse frame = .ok message) : message.Coherent := by
  obtain ⟨short, _, _, rfl⟩ := parse_eq_ok_iff.1 read
  have count := toNat_ofNat_of_le short
  apply coherent_of_body (Octets.ofList frame.bytes)
  · exact Nat.le_trans (Nat.le_of_eq count) short
  · exact Can.Identifier.function?_eq_none_iff frame.id
  · exact Can.Identifier.node_le_of_standard
  · exact Can.Identifier.node_le_of_extended
  · exact congrArg (Body.ofOctets _ _ _) count.symm

theorem octets_of_parse {frame : Can.Reported} {message : Message}
    (read : parse frame = .ok message) : message.octets = Octets.ofList frame.bytes := by
  obtain ⟨_, _, agree, rfl⟩ := parse_eq_ok_iff.1 read
  cases remote : frame.remote with
  | true => rfl
  | false =>
      have padded : (Octets.ofList frame.bytes).ZeroFrom frame.length := by
        rw [← agree remote]
        exact Octets.zeroFrom_ofList frame.bytes
      exact Body.octets_ofOctets frame.id.function? false padded

/-- What is read off the bus is well formed exactly if no remote frame had data. -/
theorem wellFormed_iff_quiet {frame : Can.Reported} {message : Message}
    (read : parse frame = .ok message) : message.WellFormed ↔ frame.Quiet := by
  have octets := octets_of_parse read
  obtain ⟨short, few, agree, fields⟩ := parse_eq_ok_iff.1 read
  have remote : message.remote = frame.remote := by
    rw [fields]
  have length : message.length.toNat = frame.length := by
    rw [fields, toNat_ofNat_of_le short]
  constructor
  · intro wellFormed isRemote
    have silent := wellFormed.silent (remote.trans isRemote)
    rw [octets, Octets.zeroFrom_zero_iff] at silent
    exact (Octets.ofList_eq_zero_iff few).1 silent
  · intro quiet
    have silent : frame.remote = true → message.octets.ZeroFrom 0 := by
      intro isRemote
      rw [octets, Octets.zeroFrom_zero_iff]
      exact (Octets.ofList_eq_zero_iff few).2 (quiet isRemote)
    refine ⟨coherent_of_parse read, ?_, fun isRemote => silent (remote.symm.trans isRemote)⟩
    cases isRemote : frame.remote with
    | true => exact (silent isRemote).mono (Nat.zero_le _)
    | false =>
        rw [octets, length, ← agree isRemote]
        exact Octets.zeroFrom_ofList frame.bytes

end Message

end CanOpen
