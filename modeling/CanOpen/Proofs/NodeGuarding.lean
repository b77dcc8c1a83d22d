import CanOpen.Proofs.Awaiting
import CanOpen.Proofs.Requestability
import Mathlib.Data.Nat.Bitwise

/-!
# The reply that tells the state of a node

Guarding sends one remote frame and takes the first message of the node that is one byte of
state.  Its own request, messages of other nodes and messages of other lengths are passed
over, as many as there are rounds.
-/

set_option autoImplicit false

namespace CanOpen.Nmt

variable {σ ε : Type}

open Transport (Brings Offers)

/-! ## States and their codes -/

def State.code : State → UInt8
  | bootUp => 0x00
  | disconnected => 0x01
  | connecting => 0x02
  | preparing => 0x03
  | stopped => 0x04
  | operational => 0x05
  | preOperational => 0x7F
  | unknown code => code

def State.listedCodes : List UInt8 :=
  [0x00, 0x01, 0x02, 0x03, 0x04, 0x05, 0x7F]

/-- Whether a report is what a byte spells: the low seven bits are the code of its state,
which goes without a name only if its code is not listed, and the top bit is its toggle. -/
structure GuardReport.Spelled (report : GuardReport) (byte : UInt8) : Prop where
  code : report.state.code.toNat = byte.toNat % 128
  unlisted : ∀ code, report.state = .unknown code → code ∉ State.listedCodes
  toggle : report.toggle = decide (128 ≤ byte.toNat)

theorem toNat_and_lowBits (byte : UInt8) : (byte &&& 0x7F).toNat = byte.toNat % 128 := by
  rw [UInt8.toNat_and]
  exact Nat.and_two_pow_sub_one_eq_mod byte.toNat 7

theorem State.ofCode_eq_iff {byte : UInt8} {state : State} :
    State.ofCode byte = state
      ↔ state.code.toNat = byte.toNat % 128
        ∧ ∀ code, state = .unknown code → code ∉ State.listedCodes := by
  have low := toNat_and_lowBits byte
  constructor
  · rintro rfl
    unfold State.ofCode
    rw [low]
    split
    -- The last arm keeps the code; it is reached if the code is none of those listed.
    case h_8 =>
      refine ⟨low, ?_⟩
      rintro _ ⟨⟩
      simp only [listedCodes, List.mem_cons, ← UInt8.toNat_inj, low]
      simp_all
    all_goals
      next found => exact ⟨found.symm, nofun⟩
  · rintro ⟨named, unlisted⟩
    unfold State.ofCode
    rw [low, ← named]
    cases state with
    | unknown code =>
        have same : byte &&& 0x7F = code := UInt8.toNat_inj.1 (low.trans named.symm)
        have other := unlisted code rfl
        simp only [listedCodes, List.mem_cons, ← UInt8.toNat_inj, not_or] at other
        simp only [State.code, same]
        split
        case h_8 => rfl
        all_goals
          next found => simp [found] at other
    | _ => rfl

theorem topBit_eq (byte : UInt8) : (byte &&& 0x80 != 0) = decide (128 ≤ byte.toNat) := by
  have bound := byte.toNat_lt
  have tested : byte.toNat.testBit 7 = decide (128 ≤ byte.toNat) := by
    rw [Nat.testBit_eq_decide_div_mod_eq, decide_eq_decide]
    omega
  have masked : (byte &&& 0x80).toNat = (byte.toNat.testBit 7).toNat * 2 ^ 7 := by
    rw [UInt8.toNat_and]
    exact Nat.and_two_pow byte.toNat 7
  rw [← tested, Bool.eq_iff_iff, bne_iff_ne, ne_eq, ← UInt8.toNat_inj, masked]
  cases byte.toNat.testBit 7 <;> simp

theorem GuardReport.spelled_iff {report : GuardReport} {byte : UInt8} :
    report.Spelled byte ↔ GuardReport.ofByte byte = report := by
  obtain ⟨state, toggle⟩ := report
  simp only [ofByte, GuardReport.mk.injEq, State.ofCode_eq_iff, topBit_eq]
  constructor
  · rintro ⟨code, unlisted, toggles⟩
    exact ⟨⟨code, unlisted⟩, toggles.symm⟩
  · rintro ⟨⟨code, unlisted⟩, toggles⟩
    exact ⟨code, unlisted, toggles.symm⟩

/-! ## Requests and replies -/

structure AsksState (message : Message) (node : UInt8) : Prop where
  addressing : message.addressing = .standard
  remote : message.remote = true
  function : message.function = some .nodeGuard
  node_eq : message.node = node.toUInt32
  length : message.length = 0
  cobId_eq : message.cobId.toNat = 0x700 + node.toNat
  packs : ∃ frame id, message.pack = .ok frame ∧ id.val = 0x700 + node.toNat
    ∧ frame.reported = ⟨.standard id, true, 0, []⟩

def guardRequest (node : UInt8) : Message where
  addressing := .standard
  remote := true
  function := some .nodeGuard
  node := node.toUInt32
  body := .raw Octets.zero
  length := 0

section Messages

variable {node : UInt8}

theorem nodeGuard_eq_ok (nodeFits : node.toNat ≤ 127) :
    Request.nodeGuard node = .ok (guardRequest node) :=
  Message.standard_eq_ok_iff.2 ⟨nodeFits, Nat.zero_le 8, rfl⟩

theorem asksState_guardRequest (nodeFits : node.toNat ≤ 127) :
    AsksState (guardRequest node) node := by
  have fits : node.toUInt32.toNat ≤ 0x7F := by
    rwa [UInt8.toNat_toUInt32]
  obtain ⟨id, value, cobId, identified⟩ := (guardRequest node).identifier_standard rfl rfl fits
  have number : id.val = 0x700 + node.toNat := by
    rw [value, guardRequest, UInt8.toNat_toUInt32]
    rfl
  have short : (guardRequest node).length.toNat ≤ 8 := Nat.zero_le 8
  obtain ⟨frame, packed, reported⟩ := Message.pack_eq_ok short identified
  exact ⟨rfl, rfl, rfl, rfl, rfl, cobId.trans number, frame, id, packed, number, reported⟩

theorem first_of_nodeGuard {message : Message} {state : UInt8}
    (body : message.body = .nodeGuard state) : message.octets.first = state := by
  rw [Message.octets, body, Body.octets, Octets.first, Octets.getElem_ofList]
  rfl

/-- A message reports the state of a node if it is a message of the node that carries one
byte, and reports what that byte spells. -/
theorem guardReport?_eq_some_iff {message : Message} (coherent : message.Coherent)
    {report : GuardReport} :
    guardReport? node message = some report
      ↔ (message.Carries .nodeGuard 1 ∧ message.node = node.toUInt32)
        ∧ report.Spelled message.octets.first := by
  rw [GuardReport.spelled_iff]
  constructor
  · intro reports
    unfold guardReport? Message.guardState? at reports
    split at reports
    next own =>
      simp only [Message.isFrom, Bool.and_eq_true, beq_iff_eq] at own
      cases body : message.body with
      | nodeGuard state =>
          rw [body] at reports
          rw [first_of_nodeGuard body]
          exact ⟨⟨coherent.nodeGuard_iff.1 ⟨state, body⟩, own.1.2⟩, Option.some.inj reports⟩
      | _ => simp [body] at reports
    next => cases reports
  · rintro ⟨⟨carries, own⟩, rfl⟩
    obtain ⟨state, body⟩ := coherent.nodeGuard_iff.2 carries
    obtain ⟨standard, data, function, _⟩ := carries
    have counts : (message.isFrom .nodeGuard node && !message.remote) = true := by
      simp [Message.isFrom, standard, data, function, own]
    rw [guardReport?, if_pos counts, Message.guardState?, body, first_of_nodeGuard body]

end Messages

/-! ## Guarding -/

def guardInquiry (node : UInt8) : Inquiry ε (Failure ε) GuardReport where
  verdict? message := (guardReport? node message).map .ok
  fault := .transport
  late := .timeout

section Guarding

variable [Transport σ ε] {node : UInt8} {rounds : Nat} {events rest : Stream' (Except ε Message)}
  {heard : List Message} {transport : σ}

theorem waits_guardInquiry (node : UInt8) :
    (guardInquiry node).Waits fun rounds (transport : σ) =>
      awaitGuardReport node rounds transport where
  exhausted transport := by
    rw [awaitGuardReport]
    rfl
  failed left failed := awaitGuardReport_of_error node left failed
  decided := by
    intro transport rest message result left received decided
    obtain ⟨report, reports, rfl⟩ := Option.map_eq_some_iff.1 decided
    exact ⟨[], awaitGuardReport_of_some left received reports⟩
  passed := by
    intro transport rest message left received undecided
    exact ⟨[], awaitGuardReport_of_none left received (Option.map_eq_none_iff.1 undecided)⟩

theorem settled_pollNodeState (nodeFits : node.toNat ≤ 127)
    {result : Except (Failure ε) GuardReport}
    (settles : (guardInquiry node).Settles rounds events heard result rest)
    (offers : Offers node events transport)
    (unhindered : Unhindered (pollNodeState node rounds transport).journal) :
    (pollNodeState node rounds transport).Settled node [guardRequest node] heard result rest := by
  unfold pollNodeState at unhindered ⊢
  rw [nodeGuard_eq_ok nodeFits] at unhindered ⊢
  have brings := offers.filtered (.guardingUnfiltered node)
  obtain ⟨sending, _⟩ := unhindered_of_andThen (unhindered_append.1 unhindered).2
  obtain ⟨between, sent, later⟩ := brings.sends sending
  have asked : ((Exchange.send (guardRequest node)
      (Exchange.setNodeFilter (.guardingUnfiltered node) node transport).transport).map
        (·.mapError Failure.transport)).Settled node [guardRequest node] [] (.ok ()) events := by
    rw [sent]
    exact ⟨rfl, rfl, rfl, later⟩
  have waited := (waits_guardInquiry node).settled settles asked.leaves
  exact (asked.andThen waited).filtered (.guardingUnfiltered node)

/-- What messages tell the state of a node, and what they tell. -/
structure TellsState (node : UInt8) : Prop where
  reports_iff : ∀ (message : Message) (report : GuardReport), message.Coherent →
    (guardReport? node message = some report
      ↔ (message.Carries .nodeGuard 1 ∧ message.node = node.toUInt32)
        ∧ report.Spelled message.octets.first)
  reports : ∀ message : Message, message.Coherent → message.Carries .nodeGuard 1 →
    message.node = node.toUInt32 → guardReport? node message ≠ none
  others : ∀ message : Message, message.Coherent →
    message.addressing = .extended ∨ message.remote = true ∨ message.node ≠ node.toUInt32
      ∨ message.length ≠ 1 → guardReport? node message = none
  /-- The request that comes back tells nothing. -/
  echo : guardReport? node (guardRequest node) = none

theorem tellsState (node : UInt8) : TellsState node where
  reports_iff _ _ coherent := guardReport?_eq_some_iff coherent
  reports message coherent carries own := by
    have spelled := GuardReport.spelled_iff.2 (Eq.refl (GuardReport.ofByte message.octets.first))
    rw [(guardReport?_eq_some_iff coherent).2 ⟨⟨carries, own⟩, spelled⟩]
    exact Option.some_ne_none _
  others message coherent other := by
    cases reports : guardReport? node message with
    | none => rfl
    | some report =>
        obtain ⟨⟨⟨standard, data, _, one⟩, own⟩, _⟩ := (guardReport?_eq_some_iff coherent).1 reports
        simp [standard, data, one, own] at other
  echo := by simp [guardReport?, guardRequest]

/-- Guarding sends one remote frame without bytes.  The first message of the node within the
rounds that carries one byte is the last one taken and tells the state; without one the rounds
are used up, unless the transport fails before. -/
theorem pollNodeState_decided (nodeFits : node.toNat ≤ 127) (rounds : Nat)
    (offers : Offers node events transport)
    (unhindered : Unhindered (pollNodeState node rounds transport).journal) :
    AsksState (guardRequest node) node
    ∧ sentIn (pollNodeState node rounds transport).journal = [guardRequest node]
    ∧ (∀ heard result rest, (guardInquiry node).Settles rounds events heard result rest →
      (pollNodeState node rounds transport).Settled node [guardRequest node] heard result rest)
    ∧ TellsState node := by
  refine ⟨asksState_guardRequest nodeFits, ?_, ?_, tellsState node⟩
  · obtain ⟨_, _, _, settles⟩ := (guardInquiry node).exists_settles rounds events
    exact (settled_pollNodeState nodeFits settles offers unhindered).sent_eq
  · intro heard result rest settles
    exact settled_pollNodeState nodeFits settles offers unhindered

end Guarding

/-- The request comes back and the reply of another node and one of two bytes come before the
reply. -/
theorem pollNodeState_decided_preOperational :
    let echo : Can.Reported := ⟨.standard 0x705, true, 0, []⟩
    let foreign : Can.Reported := ⟨.standard 0x706, false, 1, [0x05]⟩
    let long : Can.Reported := ⟨.standard 0x705, false, 2, [0x05, 0x05]⟩
    let reply : Can.Reported := ⟨.standard 0x705, false, 1, [0xFF]⟩
    let link : PollingLink :=
      ⟨⟨[.frame echo, .notReady, .frame foreign, .frame long, .frame reply, .frame long],
        ⟨[], [], 0⟩, [.notReady, .sent], #[], 0, 0, Can.Frame.maker⟩, none⟩
    let run := pollNodeState 5 3 link
    run.answer = .ok ⟨.preOperational, true⟩
    ∧ sentIn run.journal = [guardRequest 5]
    ∧ (receivedIn run.journal).length = 3 := by
  intro echo foreign long reply link run
  let data (body : Body) (length : UInt8) : Message :=
    ⟨.standard, false, some .nodeGuard, 5, body, length⟩
  let longer : Message := data (.raw (Octets.ofList [0x05, 0x05])) 2
  let tells : Message := data (.nodeGuard 0xFF) 1
  have parseEcho : Message.parse echo = .ok (guardRequest 5) :=
    Sdo.eq_ok_of_toOption (by decide +kernel)
  have parseLong : Message.parse long = .ok longer := Sdo.eq_ok_of_toOption (by decide +kernel)
  have parseReply : Message.parse reply = .ok tells := Sdo.eq_ok_of_toOption (by decide +kernel)
  have events : link.bus.outlook.readings (some 5)
      = [guardRequest 5, longer].map .ok ++ₛ Stream'.cons (.ok tells)
          (Bus.NodeFilter.readings (some 5) [.ok long]) := by
    show Bus.NodeFilter.readings (some 5)
      [.ok echo, .ok foreign, .ok long, .ok reply, .ok long] = _
    rw [Bus.readings_of_parse _ rfl parseEcho, Bus.readings_of_dropped _ rfl,
      Bus.readings_of_parse _ rfl parseLong, Bus.readings_of_parse _ rfl parseReply]
    rfl
  have settles : (guardInquiry 5).Settles 3 (link.bus.outlook.readings (some 5))
      [guardRequest 5, longer, tells] (.ok ⟨.preOperational, true⟩)
      (Bus.NodeFilter.readings (some 5) [.ok long]) := by
    rw [events]
    refine .decided [guardRequest 5, longer] ?_ (by decide) rfl
    simp only [List.forall_mem_cons]
    exact ⟨rfl, rfl, List.forall_mem_nil _⟩
  have unhindered : Unhindered run.journal := by decide +kernel
  obtain ⟨_, _, decided, _⟩ := pollNodeState_decided (by decide) 3
    (PollingLink.isAdapter.offers 5 link) unhindered
  have settled := decided _ _ _ settles
  exact ⟨settled.answer_eq, settled.sent_eq, congrArg List.length settled.received_eq⟩

end CanOpen.Nmt
