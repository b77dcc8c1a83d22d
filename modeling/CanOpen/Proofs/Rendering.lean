import CanOpen.Message.Summary
import CanOpen.Proofs.Numerals
import CanOpen.Proofs.RoundTrip

/-!
# Messages told by their words

The line for a message begins with its identifier, its kind, its length and its bytes, and so
does its listing.  Both can be read back in only one way, whatever the line says the message
means, and they leave no two messages from the bus alike.
-/

set_option autoImplicit false

namespace CanOpen

/-! ## Bytes one after the other -/

/-- Whether a byte can be read back from the text for it, if what comes behind is suitable, and
the text with what comes behind is suitable then. -/
structure Readable (item : UInt8 → String) (suitable : String → Prop) : Prop where
  stays : ∀ byte later, suitable later → suitable (item byte ++ later)
  apart : ∀ {byte byte' : UInt8} {later later' : String}, suitable later → suitable later' →
    item byte ++ later = item byte' ++ later' → byte = byte' ∧ later = later'

namespace Readable

variable {item : UInt8 → String} {suitable : String → Prop} (readable : Readable item suitable)
include readable

theorem suitable_join (bytes : List UInt8) {later : String} (ends : suitable later) :
    suitable (String.join (bytes.map item) ++ later) := by
  induction bytes with
  | nil => simpa using ends
  | cons byte others inductionHypothesis =>
      rw [List.map_cons, String.join_cons, String.append_assoc]
      exact readable.stays byte _ inductionHypothesis

theorem join_append_inj {bytes bytes' : List UInt8} (length : bytes.length = bytes'.length)
    {later later' : String} (ends : suitable later) (ends' : suitable later')
    (same : String.join (bytes.map item) ++ later = String.join (bytes'.map item) ++ later') :
    bytes = bytes' := by
  induction bytes generalizing bytes' with
  | nil => exact (List.length_eq_zero_iff.1 length.symm).symm
  | cons byte others inductionHypothesis =>
      cases bytes' with
      | nil => cases length
      | cons byte' others' =>
          rw [List.map_cons, List.map_cons, String.join_cons, String.join_cons,
            String.append_assoc, String.append_assoc] at same
          obtain ⟨rfl, rest⟩ := readable.apart (readable.suitable_join others ends)
            (readable.suitable_join others' ends') same
          rw [inductionHypothesis (Nat.succ.inj length) rest]

end Readable

theorem readable_marked : Readable (fun byte => " " ++ Numeral.marked 2 byte.toNat) Breaks where
  stays byte later _ := by
    rw [String.append_assoc]
    exact breaks_append rfl rfl _
  apart := by
    intro byte byte' later later' breaks breaks' same
    rw [String.append_assoc, String.append_assoc, String.append_right_inj] at same
    obtain ⟨number, rests⟩ := Numeral.marked_append_inj breaks breaks' same
    exact ⟨UInt8.toNat_inj.1 number, rests⟩

theorem readable_markedUpper :
    Readable (fun byte => Numeral.markedUpper 2 byte.toNat ++ " ") (fun _ => True) where
  stays _ _ _ := trivial
  apart := by
    intro byte byte' later later' _ _ same
    rw [String.append_assoc, String.append_assoc] at same
    obtain ⟨number, rests⟩ :=
      Numeral.markedUpper_append_inj (breaks_append rfl rfl _) (breaks_append rfl rfl _) same
    exact ⟨UInt8.toNat_inj.1 number, (String.append_right_inj _).1 rests⟩

namespace Message

/-! ## The parts of a text -/

/-- What tells the kind, the length and the bytes of a message, with these words for them. -/
def load (kind label separator : String) (item : UInt8 → String) (message : Message)
    (later : String) : String :=
  (if message.remote then kind else "") ++ (label ++ (message.length.toNat.repr
    ++ (separator ++ (String.join (message.data.map item) ++ later))))

/-- Fields of a message that its texts tell. -/
structure Alike (message message' : Message) : Prop where
  addressing : message.addressing = message'.addressing
  code : message.addressing = .standard → message.code = message'.code
  node : message.node = message'.node
  remote : message.remote = message'.remote
  length : message.length = message'.length
  data : message.data = message'.data

variable {message message' : Message}

theorem load_inj {kind label separator : String} {item : UInt8 → String}
    {suitable : String → Prop} (readable : Readable item suitable)
    (apart : ¬ (kind.toList <+: label.toList ∨ label.toList <+: kind.toList))
    (breaks : ∀ later, Breaks (separator ++ later)) {later later' : String}
    (ends : suitable later) (ends' : suitable later') (short : message.length.toNat ≤ 8)
    (short' : message'.length.toNat ≤ 8)
    (same : message.load kind label separator item later
      = message'.load kind label separator item later') :
    message.remote = message'.remote ∧ message.length = message'.length
      ∧ message.data = message'.data := by
  -- The word for remote messages may be missing, so it is told from the label behind it.
  have remote : message.remote = message'.remote := by
    unfold load at same
    cases left : message.remote <;> cases right : message'.remote <;>
      simp only [left, right, if_true, Bool.false_eq_true, if_false, String.empty_append] at same
    · rfl
    · exact (append_ne_append apart _ _ same.symm).elim
    · exact (append_ne_append apart _ _ same).elim
    · rfl
  rw [load, load, remote, String.append_right_inj, String.append_right_inj] at same
  obtain ⟨count, rests⟩ := Numeral.repr_append_inj (breaks _) (breaks _) same
  have length : message.length = message'.length := UInt8.toNat_inj.1 count
  have lengths : message.data.length = message'.data.length := by
    rw [length_data short, length_data short', count]
  exact ⟨remote, length,
    readable.join_append_inj lengths ends ends' ((String.append_right_inj _).1 rests)⟩

section Line

variable (message) (later : String)

/-- What follows the identifier in a line. -/
def lineLoad : String :=
  message.load "RTR " "[" "] " (fun byte => Numeral.markedUpper 2 byte.toNat ++ " ") later

theorem headSummary_of_standard (standard : message.addressing = .standard) :
    message.headSummary ++ later
      = "STANDARD [" ++ (Numeral.markedUpper 3 message.cobId.toNat ++ ("] FC="
          ++ (Numeral.markedUpper 1 message.code.toNat ++ (" ID="
            ++ (Numeral.markedUpper 2 message.node.toNat ++ (" " ++ message.lineLoad later)))))) := by
  simp only [headSummary, standard, byteList, lineLoad, load, String.append_assoc]

theorem headSummary_of_extended (extended : message.addressing = .extended) :
    message.headSummary ++ later
      = "EXTENDED Node ID=" ++ (Numeral.markedUpper 7 message.node.toNat
          ++ (" " ++ message.lineLoad later)) := by
  simp only [headSummary, extended, byteList, lineLoad, load, String.append_assoc]

/-- What follows the identifier in a listing. -/
def listingLoad : String :=
  message.load "    - Remote request\n" "    - Data length   = " ("\n" ++ "    - Data          =")
    (fun byte => " " ++ Numeral.marked 2 byte.toNat) "\n"

theorem listing_of_standard (standard : message.addressing = .standard) :
    message.listing
      = "CANopen frame:\n" ++ ("    - Frame format STANDARD\n" ++ ("    - Function code = "
          ++ (Numeral.marked 1 message.code.toNat ++ ("\n" ++ ("    - Node ID       = "
            ++ (Numeral.marked 3 message.node.toNat ++ ("\n" ++ message.listingLoad))))))) := by
  unfold listing listingLoad load
  rw [standard]
  simp only [String.append_assoc]

theorem listing_of_extended (extended : message.addressing = .extended) :
    message.listing
      = "CANopen frame:\n" ++ ("    - Frame format EXTENDED\n" ++ ("    - Node ID       = "
          ++ (Numeral.marked 7 message.node.toNat ++ ("\n" ++ message.listingLoad)))) := by
  unfold listing listingLoad load
  rw [extended]
  simp only [String.append_assoc]

end Line

theorem lineLoad_inj {later later' : String} (short : message.length.toNat ≤ 8)
    (short' : message'.length.toNat ≤ 8) (same : message.lineLoad later = message'.lineLoad later') :
    message.remote = message'.remote ∧ message.length = message'.length
      ∧ message.data = message'.data :=
  load_inj readable_markedUpper (by decide +kernel) (fun _ => breaks_append rfl rfl _) trivial
    trivial short short' same

theorem listingLoad_inj (short : message.length.toNat ≤ 8) (short' : message'.length.toNat ≤ 8)
    (same : message.listingLoad = message'.listingLoad) :
    message.remote = message'.remote ∧ message.length = message'.length
      ∧ message.data = message'.data := by
  have ends : Breaks "\n" := breaks_of_opening rfl rfl
  refine load_inj readable_marked (by decide +kernel) (fun later => ?_) ends ends short short' same
  rw [String.append_assoc]
  exact breaks_append rfl rfl _

/-! ## Texts tell the fields -/

theorem alike_of_headSummary {later later' : String} (short : message.length.toNat ≤ 8)
    (short' : message'.length.toNat ≤ 8)
    (same : message.headSummary ++ later = message'.headSummary ++ later') :
    Alike message message' := by
  cases kind : message.addressing with
  | standard =>
      cases kind' : message'.addressing with
      | extended =>
          rw [headSummary_of_standard _ _ kind, headSummary_of_extended _ _ kind'] at same
          exact (append_ne_append (by decide +kernel) _ _ same).elim
      | standard =>
          rw [headSummary_of_standard _ _ kind, headSummary_of_standard _ _ kind',
            String.append_right_inj] at same
          obtain ⟨_, same⟩ := Numeral.markedUpper_append_inj (breaks_append rfl rfl _)
            (breaks_append rfl rfl _) same
          rw [String.append_right_inj] at same
          obtain ⟨code, same⟩ := Numeral.markedUpper_append_inj (breaks_append rfl rfl _)
            (breaks_append rfl rfl _) same
          rw [String.append_right_inj] at same
          obtain ⟨node, same⟩ := Numeral.markedUpper_append_inj (breaks_append rfl rfl _)
            (breaks_append rfl rfl _) same
          obtain ⟨remote, length, data⟩ :=
            lineLoad_inj short short' ((String.append_right_inj _).1 same)
          exact ⟨kind.trans kind'.symm, fun _ => UInt8.toNat_inj.1 code, UInt32.toNat_inj.1 node,
            remote, length, data⟩
  | extended =>
      cases kind' : message'.addressing with
      | standard =>
          rw [headSummary_of_extended _ _ kind, headSummary_of_standard _ _ kind'] at same
          exact (append_ne_append (by decide +kernel) _ _ same).elim
      | extended =>
          rw [headSummary_of_extended _ _ kind, headSummary_of_extended _ _ kind',
            String.append_right_inj] at same
          obtain ⟨node, same⟩ := Numeral.markedUpper_append_inj (breaks_append rfl rfl _)
            (breaks_append rfl rfl _) same
          obtain ⟨remote, length, data⟩ :=
            lineLoad_inj short short' ((String.append_right_inj _).1 same)
          refine ⟨kind.trans kind'.symm, fun standard => ?_, UInt32.toNat_inj.1 node, remote, length,
            data⟩
          rw [kind] at standard
          cases standard

theorem alike_of_listing (short : message.length.toNat ≤ 8) (short' : message'.length.toNat ≤ 8)
    (same : message.listing = message'.listing) : Alike message message' := by
  cases kind : message.addressing with
  | standard =>
      cases kind' : message'.addressing with
      | extended =>
          rw [listing_of_standard _ kind, listing_of_extended _ kind', String.append_right_inj]
            at same
          exact (append_ne_append (by decide +kernel) _ _ same).elim
      | standard =>
          rw [listing_of_standard _ kind, listing_of_standard _ kind', String.append_right_inj,
            String.append_right_inj, String.append_right_inj] at same
          obtain ⟨code, same⟩ := Numeral.marked_append_inj (breaks_append rfl rfl _)
            (breaks_append rfl rfl _) same
          rw [String.append_right_inj, String.append_right_inj] at same
          obtain ⟨node, same⟩ := Numeral.marked_append_inj (breaks_append rfl rfl _)
            (breaks_append rfl rfl _) same
          obtain ⟨remote, length, data⟩ :=
            listingLoad_inj short short' ((String.append_right_inj _).1 same)
          exact ⟨kind.trans kind'.symm, fun _ => UInt8.toNat_inj.1 code, UInt32.toNat_inj.1 node,
            remote, length, data⟩
  | extended =>
      cases kind' : message'.addressing with
      | standard =>
          rw [listing_of_extended _ kind, listing_of_standard _ kind', String.append_right_inj]
            at same
          exact (append_ne_append (by decide +kernel) _ _ same).elim
      | extended =>
          rw [listing_of_extended _ kind, listing_of_extended _ kind', String.append_right_inj,
            String.append_right_inj, String.append_right_inj] at same
          obtain ⟨node, same⟩ := Numeral.marked_append_inj (breaks_append rfl rfl _)
            (breaks_append rfl rfl _) same
          obtain ⟨remote, length, data⟩ :=
            listingLoad_inj short short' ((String.append_right_inj _).1 same)
          refine ⟨kind.trans kind'.symm, fun standard => ?_, UInt32.toNat_inj.1 node, remote, length,
            data⟩
          rw [kind] at standard
          cases standard

/-! ## Fields tell the message -/

theorem Coherent.function_eq (coherent : message.Coherent)
    (named : message.function.map FunctionCode.asRead = message.function) :
    message.function
      = if message.addressing = .standard then some (.ofCode message.code) else none := by
  cases kind : message.addressing with
  | extended => exact coherent.function_eq_none_iff.2 kind
  | standard =>
      cases function : message.function with
      | none =>
          rw [coherent.function_eq_none_iff.1 function] at kind
          cases kind
      | some code =>
          rw [function] at named
          rw [if_pos rfl, Message.code, function]
          exact named.symm

/-- A well formed message that names its function code as it is read is told by its fields. -/
theorem Alike.eq (alike : Alike message message') (wellFormed : message.WellFormed)
    (wellFormed' : message'.WellFormed)
    (named : message.function.map FunctionCode.asRead = message.function)
    (named' : message'.function.map FunctionCode.asRead = message'.function) :
    message = message' := by
  have function : message.function = message'.function := by
    rw [wellFormed.function_eq named, wellFormed'.function_eq named', ← alike.addressing]
    split
    next standard => rw [alike.code standard]
    next => rfl
  have octets : message.octets = message'.octets := by
    rw [← wellFormed.ofList_sent, ← wellFormed'.ofList_sent, alike.remote, alike.data]
  have body : message.body = message'.body := by
    rw [wellFormed.body_eq, wellFormed'.body_eq, function, alike.remote, octets, alike.length]
  obtain ⟨_, _, _, _, _, _⟩ := message
  obtain ⟨_, _, _, _, _, _⟩ := message'
  obtain ⟨addressing, _, node, remote, length, _⟩ := alike
  simp_all

theorem wellFormed_of_frame {frame : Can.Frame} (read : parse frame.reported = .ok message) :
    message.WellFormed :=
  (wellFormed_iff_quiet read).2 frame.quiet_reported

end Message

/-- Every message from the bus has a line and a listing.  No two of them share a line, whatever
block downloads are under way when they are put into words, or a listing. -/
theorem Message.told_apart {frame frame' : Can.Frame} {message message' : Message}
    (read : Message.parse frame.reported = .ok message)
    (read' : Message.parse frame'.reported = .ok message') :
    (∀ modes modes' : Sdo.BlockModes, ∃ line line', message.summaryIn? modes = some line
      ∧ message'.summaryIn? modes' = some line' ∧ (line = line' → message = message'))
    ∧ ∃ listing listing', message.listing? = some listing
      ∧ message'.listing? = some listing' ∧ (listing = listing' → message = message') := by
  have wellFormed := wellFormed_of_frame read
  have wellFormed' := wellFormed_of_frame read'
  have equal (alike : Alike message message') : message = message' :=
    alike.eq wellFormed wellFormed' (asRead_of_parse read) (asRead_of_parse read')
  have inBounds : message.InBounds := wellFormed.length_le
  have inBounds' : message'.InBounds := wellFormed'.length_le
  constructor
  · intro modes modes'
    refine ⟨_, _, summaryIn?_of_inBounds inBounds modes, summaryIn?_of_inBounds inBounds' modes',
      fun same => ?_⟩
    rw [summary, summary, String.append_assoc, String.append_assoc] at same
    exact equal (alike_of_headSummary inBounds inBounds' same)
  · refine ⟨_, _, listing?_of_inBounds inBounds, listing?_of_inBounds inBounds', fun same => ?_⟩
    exact equal (alike_of_listing inBounds inBounds' same)

/-- A request to node 5 that is all zeros and a remote request of its length. -/
theorem Message.told_apart_remote :
    let frame : Can.Frame := ⟨.standard 0x605, .data ⟨[0, 0, 0, 0, 0, 0, 0, 0], by decide⟩⟩
    let frame' : Can.Frame := ⟨.standard 0x605, .remote 8⟩
    let message : Message := .request 5 Octets.zero
    let message' : Message := ⟨.standard, true, some .sdoRx, 5, .raw Octets.zero, 8⟩
    Message.parse frame.reported = .ok message ∧ Message.parse frame'.reported = .ok message'
      ∧ (∀ modes modes' : Sdo.BlockModes, message.summaryIn? modes ≠ message'.summaryIn? modes')
      ∧ message.listing? ≠ message'.listing? := by
  intro frame frame' message message'
  have read : Message.parse frame.reported = .ok message := by decide +kernel
  have read' : Message.parse frame'.reported = .ok message' := by decide +kernel
  have differ : message ≠ message' := by decide +kernel
  obtain ⟨lines, listing, listing', listed, listed', listings⟩ := Message.told_apart read read'
  refine ⟨read, read', fun modes modes' same => ?_, fun same => ?_⟩
  · obtain ⟨line, line', shown, shown', apart⟩ := lines modes modes'
    rw [shown, shown', Option.some.injEq] at same
    exact differ (apart same)
  · rw [listed, listed', Option.some.injEq] at same
    exact differ (listings same)

end CanOpen
