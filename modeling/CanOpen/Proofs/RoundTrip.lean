import CanOpen.Proofs.WellFormed

/-!
# Messages on the wire and back

A coherent message has one identifier, from which its function code and its node are
read back, and a well formed message is packed into a frame that is read as the same
message, but for the name of its function code.  A frame that is read and packed again
is the same frame.  Of what a driver reports, only a remote frame with data is not read
as a well formed message, and that message does not come back.
-/

set_option autoImplicit false

namespace CanOpen

namespace FunctionCode

theorem code_lt (function : FunctionCode) : function.code.toNat < 16 := by
  cases function with
  | unknown code =>
      rw [FunctionCode.code, UInt8.toNat_and]
      exact Nat.lt_of_le_of_lt Nat.and_le_right (by decide)
  | _ => decide

theorem code_ofCode {code : Nat} (fits : code < 16) :
    (ofCode (UInt8.ofNat code)).code.toNat = code := by
  have all : ∀ low : Fin 16, (ofCode (UInt8.ofNat low.val)).code.toNat = low.val := by
    decide
  exact all ⟨code, fits⟩

/-- A function code under the name that it is read by. -/
def asRead (function : FunctionCode) : FunctionCode :=
  ofCode function.code

@[simp]
theorem code_asRead (function : FunctionCode) : function.asRead.code = function.code := by
  have named := code_ofCode function.code_lt
  rw [UInt8.ofNat_toNat] at named
  exact UInt8.toNat_inj.1 named

theorem asRead_ofCode {code : Nat} (fits : code < 16) :
    (ofCode (UInt8.ofNat code)).asRead = ofCode (UInt8.ofNat code) := by
  rw [asRead, ← UInt8.ofNat_toNat (x := (ofCode (UInt8.ofNat code)).code), code_ofCode fits]

end FunctionCode

/-! ## Identifiers -/

namespace Message

theorem toNat_identifierOf (function : FunctionCode) {node : UInt32}
    (fits : node.toNat ≤ 0x7F) :
    (identifierOf (some function) node).toNat = function.code.toNat * 128 + node.toNat := by
  have codeFits := function.code_lt
  have nodeFits : node.toNat < 2 ^ 7 := by omega
  have shifted : function.code.toNat <<< 7 % 2 ^ 32 = function.code.toNat <<< 7 := by
    rw [Nat.shiftLeft_eq]
    omega
  have seven : (7 : UInt32).toNat % 32 = 7 := by decide
  rw [identifierOf, Option.map_some, Option.getD_some, UInt32.toNat_or, UInt32.toNat_shiftLeft,
    UInt8.toNat_toUInt32, seven, shifted, ← Nat.shiftLeft_add_eq_or_of_lt nodeFits,
    Nat.shiftLeft_eq]

theorem identifierOf_none (node : UInt32) : identifierOf none node = node := by
  simp [identifierOf]

theorem identifier_eq_ok {message : Message} {id : Can.Identifier}
    (addressing : message.addressing = id.addressing)
    (code : message.function.map FunctionCode.code = id.function?.map FunctionCode.code)
    (node : message.node = id.node) : message.identifier = .ok id := by
  have widened (function : Option FunctionCode) :
      (function.map fun function => function.code.toUInt32)
        = (function.map FunctionCode.code).map UInt8.toUInt32 := by
    cases function <;> rfl
  have cobId : message.cobId = identifierOf id.function? id.node := by
    rw [Message.cobId, identifierOf, identifierOf, widened, widened, code, node]
  cases id with
  | standard id =>
      have inside := id.isLt
      have number : message.node.toNat = id.val % 128 := by
        rw [node, Can.Identifier.node, UInt32.toNat_ofNat']
        omega
      have whole : message.cobId.toNat = id.val := by
        have fits : (Can.Identifier.node (.standard id)).toNat ≤ 0x7F := by
          rw [← node, number]
          omega
        have quotient : id.val / 128 < 16 := by omega
        rw [cobId, Can.Identifier.function?, toNat_identifierOf _ fits,
          FunctionCode.code_ofCode quotient, ← node, number]
        omega
      have word : message.cobId.toUInt16.toNat = id.val := by
        rw [UInt32.toNat_toUInt16, whole]
        omega
      have within : message.node.toNat ≤ 0x7F := by
        rw [number]
        omega
      rw [identifier, addressing]
      simp only [Can.Identifier.addressing, if_neg (Nat.not_lt.2 within), word,
        Can.Identifier.standard?, dif_pos inside]
  | extended id =>
      have inside := id.isLt
      have whole : message.cobId.toNat = id.val := by
        rw [cobId, Can.Identifier.function?, identifierOf_none, Can.Identifier.node,
          UInt32.toNat_ofNat']
        omega
      rw [identifier, addressing]
      simp only [Can.Identifier.addressing, whole, Can.Identifier.extended?, dif_pos inside]

theorem identifier_standard (message : Message) {function : FunctionCode}
    (standard : message.addressing = .standard) (named : message.function = some function)
    (fits : message.node.toNat ≤ 0x7F) :
    ∃ id : Fin 0x800, id.val = function.code.toNat * 128 + message.node.toNat
      ∧ message.cobId.toNat = id.val ∧ message.identifier = .ok (.standard id) := by
  have codeFits := function.code_lt
  have inside : function.code.toNat * 128 + message.node.toNat < 0x800 := by omega
  have quotient : (function.code.toNat * 128 + message.node.toNat) / 128 = function.code.toNat := by
    omega
  have remainder : (function.code.toNat * 128 + message.node.toNat) % 128 = message.node.toNat := by
    omega
  refine ⟨⟨_, inside⟩, rfl, ?_, identifier_eq_ok standard ?_ ?_⟩
  · rw [cobId, named, toNat_identifierOf function fits]
  · rw [Can.Identifier.function?, quotient, UInt8.ofNat_toNat, named]
    exact congrArg some function.code_asRead.symm
  · rw [Can.Identifier.node, remainder, UInt32.ofNat_toNat]

theorem Coherent.identifier {message : Message} (coherent : message.Coherent) :
    ∃ id : Can.Identifier, message.identifier = .ok id ∧ id.addressing = message.addressing
      ∧ id.function? = message.function.map FunctionCode.asRead ∧ id.node = message.node := by
  cases addressing : message.addressing with
  | standard =>
      obtain ⟨function, has⟩ : ∃ function, message.function = some function := by
        apply Option.ne_none_iff_exists'.1
        intro none
        rw [coherent.function_eq_none_iff.1 none] at addressing
        cases addressing
      have nodeFits := coherent.standardNode_le addressing
      have codeFits := function.code_lt
      have inside : function.code.toNat * 128 + message.node.toNat < 0x800 := by omega
      have quotient : (function.code.toNat * 128 + message.node.toNat) / 128
          = function.code.toNat := by omega
      have remainder : (function.code.toNat * 128 + message.node.toNat) % 128
          = message.node.toNat := by omega
      have read : (Can.Identifier.standard ⟨_, inside⟩).function? = some function.asRead := by
        simp only [Can.Identifier.function?, quotient, UInt8.ofNat_toNat, FunctionCode.asRead]
      have same : (Can.Identifier.standard ⟨_, inside⟩).node = message.node := by
        simp only [Can.Identifier.node, remainder, UInt32.ofNat_toNat]
      refine ⟨.standard ⟨_, inside⟩, ?_, rfl, ?_, same⟩
      · apply identifier_eq_ok addressing
        · rw [read, has]
          simp
        · exact same.symm
      · rw [read, has]
        rfl
  | extended =>
      have none := coherent.function_eq_none_iff.2 addressing
      have inside : message.node.toNat < 0x20000000 := by
        have fits := coherent.extendedNode_le addressing
        omega
      have same : (Can.Identifier.extended ⟨_, inside⟩).node = message.node := by
        simp only [Can.Identifier.node, UInt32.ofNat_toNat]
      refine ⟨.extended ⟨_, inside⟩, ?_, rfl, ?_, same⟩
      · apply identifier_eq_ok addressing
        · rw [none]
          rfl
        · exact same.symm
      · rw [none]
        rfl

/-! ## Frames -/

end Message

theorem Can.Frame.reported_injective {left right : Can.Frame}
    (same : left.reported = right.reported) : left = right := by
  obtain ⟨leftId, leftContent⟩ := left
  obtain ⟨rightId, rightContent⟩ := right
  cases leftContent <;> cases rightContent <;>
    simp_all [Can.Frame.reported, Can.Frame.isRemote, Can.Frame.length, Can.Frame.bytes,
      Subtype.ext_iff, Fin.ext_iff]

theorem Can.Frame.length_le (frame : Can.Frame) : frame.length ≤ 8 := by
  obtain ⟨id, bytes | length⟩ := frame
  · exact bytes.property
  · exact Nat.le_of_lt_succ length.isLt

theorem Can.Frame.length_bytes (frame : Can.Frame) (data : frame.isRemote = false) :
    frame.bytes.length = frame.length := by
  obtain ⟨id, bytes | length⟩ := frame
  · rfl
  · cases data

theorem Can.Frame.length_bytes_le (frame : Can.Frame) : frame.bytes.length ≤ 8 := by
  obtain ⟨id, bytes | length⟩ := frame
  · exact bytes.property
  · exact Nat.zero_le _

theorem Can.Frame.bytes_eq_nil (frame : Can.Frame) (remote : frame.isRemote = true) :
    frame.bytes = [] := by
  obtain ⟨id, bytes | length⟩ := frame
  · cases remote
  · rfl

namespace Message

theorem length_data {message : Message} (short : message.length.toNat ≤ 8) :
    message.data.length = message.length.toNat := by
  rw [data, List.length_take, Vector.length_toList, Nat.min_eq_left short]

theorem pack_eq_ok {message : Message} {id : Can.Identifier}
    (short : message.length.toNat ≤ 8) (identified : message.identifier = .ok id) :
    ∃ frame, message.pack = .ok frame
      ∧ frame.reported = {
          id := id
          remote := message.remote
          length := message.length.toNat
          bytes := if message.remote then [] else message.data } := by
  have counted := length_data short
  have fits : ¬ Octets.capacity < message.length.toNat := Nat.not_lt.2 short
  rw [pack, packWith, if_neg fits, identified]
  cases message.remote with
  | true =>
      have inside : message.length.toNat < 9 := Nat.lt_succ_of_le short
      refine ⟨⟨id, .remote ⟨message.length.toNat, inside⟩⟩, ?_, rfl⟩
      simp [bind, Except.bind, Can.Frame.maker, Can.Frame.remote?, inside]
  | false =>
      have inside : message.data.length ≤ 8 := by
        rwa [counted]
      refine ⟨⟨id, .data ⟨message.data, inside⟩⟩, ?_, ?_⟩
      · simp [bind, Except.bind, Can.Frame.maker, Can.Frame.data?, inside]
      · simp [Can.Frame.reported, Can.Frame.isRemote, Can.Frame.length, Can.Frame.bytes, counted]

/-! ## There and back -/

/-- The message that is read from the frame of a message. -/
def asRead (message : Message) : Message :=
  { message with
    function := message.function.map FunctionCode.asRead
    body := Body.ofOctets (message.function.map FunctionCode.asRead) message.remote
      message.octets message.length.toNat }

/-- The bytes in the frame of a well formed message fill up to its own. -/
theorem WellFormed.ofList_sent {message : Message} (wellFormed : message.WellFormed) :
    Octets.ofList (if message.remote then [] else message.data) = message.octets := by
  cases remote : message.remote with
  | true =>
      have silent := wellFormed.silent remote
      rw [Octets.zeroFrom_zero_iff] at silent
      rw [silent, if_pos rfl]
      exact (Octets.ofList_eq_zero_iff (Nat.zero_le _)).2 (by simp)
  | false => exact Octets.ofList_take wellFormed.padded

theorem WellFormed.parse_pack {message : Message} (wellFormed : message.WellFormed) :
    ∃ frame, message.pack = .ok frame ∧ parse frame.reported = .ok message.asRead := by
  have short := wellFormed.length_le
  obtain ⟨id, identified, addressing, function, node⟩ := wellFormed.identifier
  obtain ⟨frame, packed, reported⟩ := pack_eq_ok short identified
  refine ⟨frame, packed, ?_⟩
  have counted := length_data short
  rw [reported, parse_eq_ok_iff]
  refine ⟨short, ?_, ?_, ?_⟩
  · dsimp only
    split
    next => exact Nat.zero_le _
    next => rwa [counted]
  · intro data
    dsimp only at data ⊢
    rw [if_neg (Bool.eq_false_iff.1 data), counted]
  · simp only [wellFormed.ofList_sent, addressing, function, node, UInt8.ofNat_toNat]
    rfl

theorem Coherent.asRead_eq {message : Message} (coherent : message.Coherent)
    (named : message.function.map FunctionCode.asRead = message.function) :
    message.asRead = message := by
  rw [asRead, named, ← coherent.body_eq]

/-- A standard message is read as the one that is built with the function code as read. -/
theorem standard_asRead {function : FunctionCode} {node : UInt8} {remote : Bool}
    {data : List UInt8} {message : Message}
    (built : standard function node remote data = .ok message) :
    standard (.ofCode function.code) node remote data = .ok message.asRead := by
  obtain ⟨nodeFits, short, rfl⟩ := standard_eq_ok_iff.1 built
  apply standard_eq_ok_iff.2
  refine ⟨nodeFits, short, ?_⟩
  have filled := Body.octets_ofOctets (some function) remote (zeroFrom_carried remote data)
  simp only [asRead, octets, filled, toNat_ofNat_of_le short]
  rfl

theorem asRead_of_parse {frame : Can.Reported} {message : Message}
    (read : parse frame = .ok message) :
    message.function.map FunctionCode.asRead = message.function := by
  obtain ⟨_, _, _, rfl⟩ := parse_eq_ok_iff.1 read
  cases frame.id with
  | standard id =>
      have quotient : id.val / 128 < 16 := by
        have inside := id.isLt
        omega
      exact congrArg some (FunctionCode.asRead_ofCode quotient)
  | extended id => rfl

/-- A frame that is read and packed again is the same frame. -/
theorem pack_parse (frame : Can.Frame) :
    ∃ message, parse frame.reported = .ok message ∧ message.pack = .ok frame := by
  have short : frame.reported.length ≤ 8 := frame.length_le
  have bytes : frame.reported.bytes = frame.bytes := rfl
  have few : frame.reported.bytes.length ≤ 8 := frame.length_bytes_le
  obtain ⟨message, read⟩ : ∃ message, parse frame.reported = .ok message :=
    ⟨_, parse_eq_ok_iff.2 ⟨short, few, frame.length_bytes, rfl⟩⟩
  obtain ⟨_, _, _, fields⟩ := parse_eq_ok_iff.1 read
  have count : message.length.toNat = frame.length := by
    rw [fields]
    exact toNat_ofNat_of_le short
  have identified : message.identifier = .ok frame.id := by
    rw [fields]
    exact identifier_eq_ok rfl rfl rfl
  have within : message.length.toNat ≤ 8 := by
    rwa [count]
  obtain ⟨packed, made, reported⟩ := pack_eq_ok within identified
  refine ⟨message, read, ?_⟩
  have sent : (if message.remote then [] else message.data) = frame.bytes := by
    have remote : message.remote = frame.isRemote := by
      rw [fields]
      rfl
    rw [remote]
    cases isRemote : frame.isRemote with
    | true => exact (frame.bytes_eq_nil isRemote).symm
    | false =>
        have octets := octets_of_parse read
        rw [if_neg Bool.false_ne_true, data, octets, bytes, count, ← frame.length_bytes isRemote,
          Octets.toList_ofList frame.length_bytes_le]
        exact List.take_left
  have same : packed.reported = frame.reported := by
    rw [reported, sent, count, fields]
    rfl
  rw [made, Can.Frame.reported_injective same]

/-- A standard message comes back under the name that its function code is read by, an
extended one as it was, and a frame that is read is packed again as it was. -/
theorem roundTrip :
    (∀ (function : FunctionCode) (node : UInt8) (remote : Bool) (data : List UInt8),
      node.toNat ≤ maxNode → data.length ≤ 8 →
        ∃ message frame read, standard function node remote data = .ok message
          ∧ message.pack = .ok frame
          ∧ standard (.ofCode function.code) node remote data = .ok read
          ∧ parse frame.reported = .ok read
          ∧ (function = .ofCode function.code → read = message))
      ∧ (∀ (id : UInt32) (remote : Bool) (data : List UInt8),
        id.toNat ≤ 0x1FFFFFFF → data.length ≤ 8 →
          ∃ message frame, extended id remote data = .ok message
            ∧ message.pack = .ok frame ∧ parse frame.reported = .ok message)
      ∧ ∀ frame : Can.Frame,
        ∃ message, parse frame.reported = .ok message ∧ message.pack = .ok frame := by
  refine ⟨?_, ?_, pack_parse⟩
  · intro function node remote data nodeFits short
    obtain ⟨message, built⟩ : ∃ message, standard function node remote data = .ok message :=
      ⟨_, standard_eq_ok_iff.2 ⟨nodeFits, short, rfl⟩⟩
    have wellFormed := wellFormed_of_standard built
    obtain ⟨frame, packed, read⟩ := wellFormed.parse_pack
    refine ⟨message, frame, message.asRead, built, packed, standard_asRead built, read, ?_⟩
    intro named
    apply wellFormed.asRead_eq
    obtain ⟨_, _, rfl⟩ := standard_eq_ok_iff.1 built
    exact congrArg some named.symm
  · intro id remote data idFits short
    obtain ⟨message, built⟩ : ∃ message, extended id remote data = .ok message :=
      ⟨_, extended_eq_ok_iff.2 ⟨idFits, short, rfl⟩⟩
    have wellFormed := wellFormed_of_extended built
    obtain ⟨frame, packed, read⟩ := wellFormed.parse_pack
    refine ⟨message, frame, built, packed, ?_⟩
    have named : message.function.map FunctionCode.asRead = message.function := by
      obtain ⟨_, _, rfl⟩ := extended_eq_ok_iff.1 built
      rfl
    rwa [wellFormed.asRead_eq named] at read

theorem roundTrip_renamed :
    (5 : UInt8).toNat ≤ maxNode ∧ [(0x85 : UInt8)].length ≤ 8
      ∧ ∃ message frame read, standard (.unknown 0x1E) 5 false [0x85] = .ok message
        ∧ message.pack = .ok frame ∧ standard .nodeGuard 5 false [0x85] = .ok read
        ∧ parse frame.reported = .ok read := by
  have nodeFits : (5 : UInt8).toNat ≤ maxNode := by decide
  have short : [(0x85 : UInt8)].length ≤ 8 := by decide
  obtain ⟨message, frame, read, built, packed, renamed, parsed, _⟩ :=
    roundTrip.1 (.unknown 0x1E) 5 false [0x85] nodeFits short
  exact ⟨nodeFits, short, message, frame, read, built, packed, renamed, parsed⟩

/-! ## Whatever a driver reports -/

theorem parse_pack_iff_quiet {frame : Can.Reported} {message : Message}
    (read : parse frame = .ok message) :
    ∃ packed, message.pack = .ok packed ∧ (parse packed.reported = .ok message ↔ frame.Quiet) := by
  have coherent := coherent_of_parse read
  obtain ⟨id, identified, _⟩ := coherent.identifier
  obtain ⟨packed, made, _⟩ := pack_eq_ok coherent.length_le identified
  refine ⟨packed, made, ?_⟩
  constructor
  -- The packed frame is quiet, so a message that comes back from it is well formed.
  · intro again
    have quiet := Can.Frame.quiet_reported packed
    exact (wellFormed_iff_quiet read).1 ((wellFormed_iff_quiet again).2 quiet)
  · intro quiet
    have wellFormed := (wellFormed_iff_quiet read).2 quiet
    obtain ⟨other, alike, again⟩ := wellFormed.parse_pack
    rw [made] at alike
    cases alike
    rwa [wellFormed.asRead_eq (asRead_of_parse read)] at again

/-- All that is built is well formed.  All that is read is coherent; it is well formed,
and comes back from its own frame, unless data were handed out with a remote frame. -/
theorem wellFormed_exactly_quiet (draft : Draft) (frame : Can.Reported) (message : Message) :
    (draft.build = .ok message → message.WellFormed)
      ∧ (parse frame = .ok message →
        message.Coherent ∧ (message.WellFormed ↔ frame.Quiet)
          ∧ ∃ packed, message.pack = .ok packed
            ∧ (parse packed.reported = .ok message ↔ frame.Quiet)) := by
  constructor
  · intro built
    exact wellFormed_of_build built
  · intro read
    exact ⟨coherent_of_parse read, wellFormed_iff_quiet read, parse_pack_iff_quiet read⟩

def remoteWith (bytes : List UInt8) : Can.Reported where
  id := .standard 0x705
  remote := true
  length := 2
  bytes := bytes

def readWith (bytes : List UInt8) : Message where
  addressing := .standard
  remote := true
  function := some .nodeGuard
  node := 5
  body := .raw (Octets.ofList bytes)
  length := 2

theorem wellFormed_exactly_quiet_zeros :
    (∃ message, (Draft.nodeGuard 5).build = .ok message ∧ message.WellFormed)
      ∧ parse (remoteWith [0, 0, 0]) = .ok (readWith [0, 0, 0])
      ∧ (readWith [0, 0, 0]).WellFormed
      ∧ ∃ packed, (readWith [0, 0, 0]).pack = .ok packed
        ∧ parse packed.reported = .ok (readWith [0, 0, 0]) := by
  have read : parse (remoteWith [0, 0, 0]) = .ok (readWith [0, 0, 0]) := by rfl
  have quiet : (remoteWith [0, 0, 0]).Quiet := by
    intro _ byte member
    simpa [remoteWith] using member
  obtain ⟨guard, built⟩ : ∃ message, (Draft.nodeGuard 5).build = .ok message := ⟨_, rfl⟩
  obtain ⟨_, wellFormed, packed, made, again⟩ :=
    (wellFormed_exactly_quiet (.nodeGuard 5) _ _).2 read
  exact ⟨⟨guard, built, (wellFormed_exactly_quiet _ (remoteWith []) guard).1 built⟩, read,
    wellFormed.2 quiet, packed, made, again.2 quiet⟩

/-- Bytes that come with a remote frame are kept, also those that do not count, and are
lost on the way back. -/
theorem remoteWith_loud :
    parse (remoteWith [10, 11, 12]) = .ok (readWith [10, 11, 12])
      ∧ ¬ (readWith [10, 11, 12]).octets.ZeroFrom (readWith [10, 11, 12]).length.toNat
      ∧ ¬ (readWith [10, 11, 12]).WellFormed
      ∧ (readWith [10, 11, 12]).pack = .ok ⟨.standard 0x705, .remote 2⟩
      ∧ parse (Can.Frame.reported ⟨.standard 0x705, .remote 2⟩) = .ok (readWith [])
      ∧ readWith [] ≠ readWith [10, 11, 12] := by
  have up : ¬ (readWith [10, 11, 12]).octets.ZeroFrom (readWith [10, 11, 12]).length.toNat := by
    decide
  refine ⟨rfl, up, ?_, rfl, rfl, by decide⟩
  intro wellFormed
  exact up wellFormed.padded

end Message

end CanOpen
