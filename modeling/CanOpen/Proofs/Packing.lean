import CanOpen.Proofs.RoundTrip

/-!
# Which messages are put on the bus

The fields of a message may contradict each other, and its function code and its node may
make up a number that no identifier has.  A message is packed exactly if this number has
room and the length is at most eight, and then the frame has this number and no other.
-/

set_option autoImplicit false

namespace CanOpen

theorem Can.Identifier.eq_of_value {left right : Can.Identifier}
    (value : left.value = right.value) (addressing : left.addressing = right.addressing) :
    left = right := by
  cases left <;> cases right
  · exact congrArg Can.Identifier.standard (Fin.ext value)
  · cases addressing
  · cases addressing
  · exact congrArg Can.Identifier.extended (Fin.ext value)

namespace Message

def number (message : Message) : Nat :=
  message.code.toNat <<< 7 ||| message.node.toNat

/-- Whether the number has room in an identifier of the message's kind. -/
def Addressable (message : Message) : Prop :=
  (message.addressing = .standard → message.node.toNat ≤ 0x7F)
    ∧ (message.addressing = .extended → message.number ≤ 0x1FFFFFFF)

instance (message : Message) : Decidable message.Addressable :=
  inferInstanceAs (Decidable ((_ → _) ∧ (_ → _)))

def unaddressable (message : Message) : CodecError :=
  match message.addressing with
  | .standard => .invalidStandardId (UInt16.ofNat message.number)
  | .extended => .invalidExtendedId (UInt32.ofNat message.number)

/-! ## Identifiers -/

theorem code_lt (message : Message) : message.code.toNat < 16 := by
  rw [code]
  cases message.function with
  | none => decide
  | some function => exact function.code_lt

/-- No bit is lost when function code and node are put together. -/
theorem toNat_cobId (message : Message) : message.cobId.toNat = message.number := by
  have widened : ((message.function.map fun (function : FunctionCode) =>
      function.code.toUInt32).getD 0).toNat = message.code.toNat := by
    rw [code]
    cases message.function <;> simp
  have codeFits := message.code_lt
  have shifted : message.code.toNat <<< 7 % 2 ^ 32 = message.code.toNat <<< 7 := by
    rw [Nat.shiftLeft_eq]
    omega
  have seven : (7 : UInt32).toNat % 32 = 7 := by decide
  rw [cobId, identifierOf, UInt32.toNat_or, UInt32.toNat_shiftLeft, widened, seven, shifted,
    number]

theorem number_lt_of_node {message : Message} (fits : message.node.toNat ≤ 0x7F) :
    message.number < 0x800 := by
  have codeFits := message.code_lt
  have nodeFits : message.node.toNat < 2 ^ 7 := by omega
  rw [number, ← Nat.shiftLeft_add_eq_or_of_lt nodeFits, Nat.shiftLeft_eq]
  omega

theorem toUInt16_cobId (message : Message) :
    message.cobId.toUInt16 = UInt16.ofNat message.number := by
  apply UInt16.toNat_inj.1
  rw [UInt32.toNat_toUInt16, toNat_cobId, UInt16.toNat_ofNat']

theorem identifier_of_addressable {message : Message} (fits : message.Addressable) :
    ∃ id, message.identifier = .ok id ∧ id.value = message.number
      ∧ id.addressing = message.addressing := by
  cases addressing : message.addressing with
  | standard =>
      have nodeFits := fits.1 addressing
      -- Only the node is checked; with four bits of function code the number has eleven.
      have inside := number_lt_of_node nodeFits
      have kept : (UInt16.ofNat message.number).toNat = message.number := by
        rw [UInt16.toNat_ofNat']
        omega
      refine ⟨.standard ⟨message.number, inside⟩, ?_, rfl, rfl⟩
      simp only [identifier, addressing, if_neg (Nat.not_lt.2 nodeFits), toUInt16_cobId, kept,
        Can.Identifier.standard?, dif_pos inside]
  | extended =>
      have inside : message.number < 0x20000000 := Nat.lt_succ_of_le (fits.2 addressing)
      refine ⟨.extended ⟨message.number, inside⟩, ?_, rfl, rfl⟩
      simp only [identifier, addressing, toNat_cobId, Can.Identifier.extended?, dif_pos inside]

theorem identifier_of_not_addressable {message : Message} (unfit : ¬ message.Addressable) :
    message.identifier = .error message.unaddressable := by
  cases addressing : message.addressing with
  | standard =>
      have nodeUnfit : ¬ message.node.toNat ≤ 0x7F := by
        simpa [Addressable, addressing] using unfit
      simp only [identifier, unaddressable, addressing, if_pos (Nat.not_le.1 nodeUnfit),
        toUInt16_cobId]
  | extended =>
      have numberUnfit : ¬ message.number ≤ 0x1FFFFFFF := by
        simpa [Addressable, addressing] using unfit
      have outside : ¬ message.number < 0x20000000 := fun inside =>
        numberUnfit (Nat.le_of_lt_succ inside)
      have none : Can.Identifier.extended? message.cobId.toNat = none := by
        rw [toNat_cobId, Can.Identifier.extended?, dif_neg outside]
      simp only [identifier, unaddressable, addressing, none, ← toNat_cobId, UInt32.ofNat_toNat]

/-! ## Frames -/

section PackWith

variable {Target : Type} (maker : Can.Maker Target) {message : Message}

def built (message : Message) (id : Can.Identifier) : Option Target :=
  if message.remote then maker.remote id message.length.toNat else maker.data id message.data

theorem packWith_of_long (long : 8 < message.length.toNat) :
    message.packWith maker = .error (.byteLengthExceedsLimit message.length.toNat 8) := by
  rw [packWith, if_pos long]

theorem packWith_of_not_addressable (short : message.length.toNat ≤ 8)
    (unfit : ¬ message.Addressable) : message.packWith maker = .error message.unaddressable := by
  rw [packWith, if_neg (Nat.not_lt.2 short), identifier_of_not_addressable unfit]
  rfl

theorem packWith_of_identifier (short : message.length.toNat ≤ 8) {id : Can.Identifier}
    (identified : message.identifier = .ok id) :
    message.packWith maker
      = match message.built maker id with
        | some frame => .ok frame
        | none => .error (.frameCreationFailed message.data) := by
  rw [packWith, if_neg (Nat.not_lt.2 short), identified]
  rfl

/-- A driver refuses a frame only for a message that it could be asked to send. -/
theorem packWith_eq_frameCreationFailed_iff {data : List UInt8} :
    message.packWith maker = .error (.frameCreationFailed data)
      ↔ message.length.toNat ≤ 8 ∧ message.Addressable ∧ data = message.data
        ∧ ∃ id : Can.Identifier, id.value = message.number ∧ id.addressing = message.addressing
          ∧ message.built maker id = none := by
  by_cases short : message.length.toNat ≤ 8
  · by_cases fits : message.Addressable
    · obtain ⟨id, identified, value, addressing⟩ := identifier_of_addressable fits
      rw [packWith_of_identifier maker short identified]
      constructor
      · intro refused
        cases makes : message.built maker id with
        | some frame =>
            rw [makes] at refused
            cases refused
        | none =>
            rw [makes] at refused
            cases refused
            exact ⟨short, fits, rfl, id, value, addressing, makes⟩
      · rintro ⟨_, _, rfl, other, otherValue, otherAddressing, refuses⟩
        have same : other = id :=
          Can.Identifier.eq_of_value (otherValue.trans value.symm)
            (otherAddressing.trans addressing.symm)
        rw [← same, refuses]
    · rw [packWith_of_not_addressable maker short fits, unaddressable]
      cases message.addressing <;> simp [fits]
  · rw [packWith_of_long maker (Nat.not_le.1 short)]
    simp [short]

end PackWith

structure PackedAs (message : Message) (frame : Can.Frame) : Prop where
  value_eq : frame.id.value = message.number
  addressing_eq : frame.id.addressing = message.addressing
  remote_eq : frame.isRemote = message.remote
  length_eq : frame.length = message.length.toNat
  bytes_eq : frame.bytes
    = if message.remote then [] else message.octets.toList.take message.length.toNat

theorem pack_cases (message : Message) :
    ((message.length.toNat ≤ 8 ∧ message.Addressable)
      ∧ ∃ frame, message.pack = .ok frame ∧ message.PackedAs frame)
    ∨ (¬ (message.length.toNat ≤ 8 ∧ message.Addressable)
      ∧ ∃ cause, message.pack = .error cause) := by
  by_cases short : message.length.toNat ≤ 8
  · by_cases fits : message.Addressable
    · left
      obtain ⟨id, identified, value, addressing⟩ := identifier_of_addressable fits
      obtain ⟨frame, packed, reported⟩ := pack_eq_ok short identified
      obtain ⟨named, remote, length, bytes⟩ := Can.Reported.mk.inj reported
      rw [← named] at value addressing
      exact ⟨⟨short, fits⟩, frame, packed, value, addressing, remote, length, bytes⟩
    · right
      exact ⟨fun packable => fits packable.2, _,
        packWith_of_not_addressable Can.Frame.maker short fits⟩
  · right
    exact ⟨fun packable => short packable.1, _,
      packWith_of_long Can.Frame.maker (Nat.not_le.1 short)⟩

/-- A message is packed exactly if its length is at most eight and its number has room, and
then into the frame with this number.  The length is complained of first, then the number,
and only behind both what a driver refuses. -/
theorem pack_exactly_addressable {Target : Type} (maker : Can.Maker Target)
    (message : Message) :
    ((∃ frame, message.pack = .ok frame)
        ↔ message.length.toNat ≤ 8 ∧ message.Addressable)
      ∧ (∀ frame, message.pack = .ok frame → message.PackedAs frame)
      ∧ (8 < message.length.toNat →
          message.packWith maker = .error (.byteLengthExceedsLimit message.length.toNat 8))
      ∧ (message.length.toNat ≤ 8 → ¬ message.Addressable →
          message.packWith maker = .error message.unaddressable)
      ∧ ∀ data, message.packWith maker = .error (.frameCreationFailed data)
          ↔ message.length.toNat ≤ 8 ∧ message.Addressable ∧ data = message.data
            ∧ ∃ id : Can.Identifier,
              id.value = message.number ∧ id.addressing = message.addressing
              ∧ (if message.remote then maker.remote id message.length.toNat
                  else maker.data id message.data) = none := by
  refine ⟨⟨?_, ?_⟩, ?_, packWith_of_long maker, packWith_of_not_addressable maker,
    fun data => packWith_eq_frameCreationFailed_iff maker⟩
  · rintro ⟨frame, packed⟩
    obtain ⟨packable, _⟩ | ⟨_, cause, failed⟩ := message.pack_cases
    · exact packable
    · rw [failed] at packed
      cases packed
  · intro packable
    obtain ⟨_, frame, packed, _⟩ | ⟨unpackable, _⟩ := message.pack_cases
    · exact ⟨frame, packed⟩
    · exact (unpackable packable).elim
  · intro frame packed
    obtain ⟨_, other, alike, faithful⟩ | ⟨_, cause, failed⟩ := message.pack_cases
    · rw [packed] at alike
      cases alike
      exact faithful
    · rw [failed] at packed
      cases packed

/-- A message under an extended identifier that has a function code, a body of two bytes and
a length of three. -/
def discordant : Message where
  addressing := .extended
  remote := false
  function := some (.unknown 0xFF)
  node := 0x12345
  body := .moduleControl 0x81 0x05
  length := 3

theorem pack_exactly_addressable_discordant :
    (∃ frame, discordant.pack = .ok frame ∧ frame.id.value = 0x127C5
        ∧ frame.id.addressing = .extended ∧ frame.bytes = [0x81, 0x05, 0])
      ∧ discordant.packWith (.refusing Can.Frame)
        = .error (.frameCreationFailed [0x81, 0x05, 0]) := by
  obtain ⟨accepted, faithful, _, _, refused⟩ :=
    pack_exactly_addressable (.refusing Can.Frame) discordant
  have packable : discordant.length.toNat ≤ 8 ∧ discordant.Addressable := by decide
  obtain ⟨frame, packed⟩ := accepted.2 packable
  obtain ⟨value, addressing, _, _, bytes⟩ := faithful frame packed
  refine ⟨⟨frame, packed, value, addressing, bytes⟩, ?_⟩
  exact (refused _).2 ⟨packable.1, packable.2, rfl, frame.id, value, addressing, rfl⟩

end Message

end CanOpen
