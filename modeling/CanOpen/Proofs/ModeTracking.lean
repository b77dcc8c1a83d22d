import CanOpen.Message.Summary
import CanOpen.Proofs.Disturbance

/-!
# Block modes and the history of a node

Whether an onlooker takes a node to be in the middle of a block download is decided by the
service data between this node and its client alone: some reply has opened a download and
nothing after it has closed it.  The line for a message tells no more of the modes than that
of its own node, and that only in a request.
-/

set_option autoImplicit false

namespace CanOpen

open Sdo

namespace Message

def IsRequestTo (node : UInt8) (message : Message) : Prop :=
  message.Carries .sdoRx 8 ∧ message.node = node.toUInt32

instance (node : UInt8) (message : Message) : Decidable (message.IsRequestTo node) :=
  inferInstanceAs (Decidable ((_ ∧ _ ∧ _ ∧ _) ∧ _))

def OpensBlocks (node : UInt8) (message : Message) : Prop :=
  message.IsReplyOf node
    ∧ message.octets.first.toNat / 32 = 5 ∧ message.octets.first.toNat % 4 = 0

/-- Whether a message closes the block download of a node: the node gives it up or ends it,
or the highest bit of a request is up, as in a last segment. -/
def ClosesBlocks (node : UInt8) (message : Message) : Prop :=
  (message.IsReplyOf node
      ∧ (message.octets.first.toNat / 32 = 4
        ∨ message.octets.first.toNat / 32 = 5 ∧ message.octets.first.toNat % 4 = 1))
    ∨ (message.IsRequestTo node ∧ 128 ≤ message.octets.first.toNat)

end Message

/-- Whether a block download of a node is opened among some messages and not closed behind. -/
def LeavesBlocksOpen (node : UInt8) (messages : List Message) : Prop :=
  ∃ before opening after, messages = before ++ opening :: after
    ∧ opening.OpensBlocks node ∧ ∀ message ∈ after, ¬ message.ClosesBlocks node

/-- The modes that are left by some messages, if no block download was under way before. -/
def Sdo.BlockModes.following (messages : List Message) : BlockModes :=
  messages.foldl BlockModes.pass BlockModes.none

/-! ## What one message does -/

namespace Sdo

theorem ServerCommand.switches?_ofByte (byte : UInt8) :
    (ServerCommand.ofByte byte).switches?
      = if byte.toNat / 32 = 5 ∧ byte.toNat % 4 = 0 then some true
        else if byte.toNat / 32 = 4 ∨ byte.toNat / 32 = 5 ∧ byte.toNat % 4 = 1 then some false
        else none := by
  have subcommand : (BlockReply.subcommand.get byte).toNat = byte.toNat % 4 := by
    have number : (BlockReply.subcommand.get byte).toNat = byte.toNat / 1 % 4 :=
      BitField.toNat_get 2 rfl (by decide) byte
    rwa [Nat.div_one] at number
  rw [ServerCommand.ofByte, toNat_specifier]
  generalize byte.toNat / 32 = specifier
  split
  case h_6 =>
    rw [BlockStage.ofCode, subcommand]
    split <;> simp_all [switches?]
  all_goals simp_all [switches?]

theorem ClientCommand.getD_switches? (command : ClientCommand) :
    command.switches?.getD false = false := by
  cases command <;> rfl

theorem SegmentHeader.last_ofByte (byte : UInt8) :
    (SegmentHeader.ofByte byte).last = decide (128 ≤ byte.toNat) := by
  have bound := byte.toNat_lt
  have place : BlockSegment.last.low.toNat = 7 := rfl
  rw [SegmentHeader.ofByte, BitField.isSet_eq rfl (by decide), place, decide_eq_decide]
  omega

theorem BlockModes.isOn_pass (modes : BlockModes) (message : Message) (node : Nat) :
    (modes.pass message).isOn node
      = if message.node.toNat = node ∧ node < 128 then
          (switches? (modes.isOn node) message).getD (modes.isOn node)
        else modes.isOn node := by
  unfold pass
  by_cases same : message.node.toNat = node
  · subst same
    cases switches? (modes.isOn message.node.toNat) message with
    | none => simp
    | some mode => simp [isOn_switch]
  · cases switches? (modes.isOn message.node.toNat) message with
    | none => simp [same]
    | some mode => simp [isOn_switch, same]

end Sdo

namespace Message

variable {node : UInt8} {message : Message}

theorem toNat_node_eq_iff : message.node.toNat = node.toNat ↔ message.node = node.toUInt32 := by
  rw [← UInt32.toNat_inj, UInt8.toNat_toUInt32]

/-- Nothing but service data of a node switches its mode. -/
theorem switches?_of_not_carries (coherent : message.Coherent) (noReply : ¬ message.Carries .sdoTx 8)
    (noRequest : ¬ message.Carries .sdoRx 8) (mode : Bool) : switches? mode message = none := by
  unfold switches?
  split
  case h_3 => rfl
  all_goals
    next payload _ body =>
      exact absurd (coherent.sdo_iff.1 ⟨payload, body⟩) (by simp [noReply, noRequest])

theorem switches?_of_reply (coherent : message.Coherent) (reply : message.Carries .sdoTx 8)
    (mode : Bool) :
    switches? mode message = (ServerCommand.ofByte message.octets.first).switches? := by
  obtain ⟨payload, body⟩ := coherent.sdo_iff.2 (.inl reply)
  have command : message.octets.first = payload.command := by
    rw [octets_of_body body]
    rfl
  obtain ⟨_, _, function, _⟩ := reply
  rw [switches?, function, body, command]

theorem getD_switches?_of_request (coherent : message.Coherent)
    (request : message.Carries .sdoRx 8) (mode : Bool) :
    (switches? mode message).getD mode = (mode && !decide (128 ≤ message.octets.first.toNat)) := by
  obtain ⟨payload, body⟩ := coherent.sdo_iff.2 (.inr request)
  have command : message.octets.first = payload.command := by
    rw [octets_of_body body]
    rfl
  obtain ⟨_, _, function, _⟩ := request
  rw [switches?, function, body, command]
  cases mode with
  | false => exact ClientCommand.getD_switches? _
  | true =>
      simp only [if_true, SegmentHeader.last_ofByte]
      by_cases closes : 128 ≤ payload.command.toNat <;> simp [closes]

theorem IsReplyOf.node_lt (coherent : message.Coherent) (reply : message.IsReplyOf node) :
    message.node.toNat = node.toNat ∧ node.toNat < 128 := by
  have same := toNat_node_eq_iff.2 reply.2
  have fits := coherent.standardNode_le reply.1.1
  exact ⟨same, by omega⟩

theorem IsRequestTo.node_lt (coherent : message.Coherent) (request : message.IsRequestTo node) :
    message.node.toNat = node.toNat ∧ node.toNat < 128 := by
  have same := toNat_node_eq_iff.2 request.2
  have fits := coherent.standardNode_le request.1.1
  exact ⟨same, by omega⟩

end Message

namespace Sdo.BlockModes

variable {node : UInt8} {message : Message} (modes : BlockModes)

theorem isOn_pass_of_reply (coherent : message.Coherent) (reply : message.IsReplyOf node) :
    (modes.pass message).isOn node.toNat
      = (ServerCommand.ofByte message.octets.first).switches?.getD (modes.isOn node.toNat) := by
  rw [isOn_pass, if_pos (reply.node_lt coherent), Message.switches?_of_reply coherent reply.1]

theorem isOn_pass_of_request (coherent : message.Coherent) (request : message.IsRequestTo node) :
    (modes.pass message).isOn node.toNat
      = (modes.isOn node.toNat && !decide (128 ≤ message.octets.first.toNat)) := by
  rw [isOn_pass, if_pos (request.node_lt coherent),
    Message.getD_switches?_of_request coherent request.1]

theorem isOn_pass_of_other (coherent : message.Coherent) (noReply : ¬ message.IsReplyOf node)
    (noRequest : ¬ message.IsRequestTo node) :
    (modes.pass message).isOn node.toNat = modes.isOn node.toNat := by
  rw [isOn_pass]
  split
  next own =>
    have same := Message.toNat_node_eq_iff.1 own.1
    have silent := Message.switches?_of_not_carries coherent
      (fun reply => noReply ⟨reply, same⟩) (fun request => noRequest ⟨request, same⟩)
    rw [silent]
    rfl
  next => rfl

theorem isOn_pass_of_opens (coherent : message.Coherent) (opens : message.OpensBlocks node) :
    (modes.pass message).isOn node.toNat = true := by
  obtain ⟨reply, opening⟩ := opens
  rw [isOn_pass_of_reply modes coherent reply, ServerCommand.switches?_ofByte, if_pos opening]
  rfl

theorem isOn_pass_of_closes (coherent : message.Coherent) (closes : message.ClosesBlocks node) :
    (modes.pass message).isOn node.toNat = false := by
  obtain ⟨reply, closing⟩ | ⟨request, closing⟩ := closes
  · have stays : ¬ (message.octets.first.toNat / 32 = 5 ∧ message.octets.first.toNat % 4 = 0) := by
      omega
    rw [isOn_pass_of_reply modes coherent reply, ServerCommand.switches?_ofByte, if_neg stays,
      if_pos closing]
    rfl
  · rw [isOn_pass_of_request modes coherent request, decide_eq_true closing]
    exact Bool.and_false _

theorem isOn_pass_of_neither (coherent : message.Coherent) (opens : ¬ message.OpensBlocks node)
    (closes : ¬ message.ClosesBlocks node) :
    (modes.pass message).isOn node.toNat = modes.isOn node.toNat := by
  by_cases reply : message.IsReplyOf node
  · rw [isOn_pass_of_reply modes coherent reply, ServerCommand.switches?_ofByte,
      if_neg fun opening => opens ⟨reply, opening⟩,
      if_neg fun closing => closes (.inl ⟨reply, closing⟩)]
    rfl
  · by_cases request : message.IsRequestTo node
    · have low : ¬ 128 ≤ message.octets.first.toNat := fun high =>
        closes (.inr ⟨request, high⟩)
      rw [isOn_pass_of_request modes coherent request, decide_eq_false low]
      exact Bool.and_true _
    · exact isOn_pass_of_other modes coherent reply request

end Sdo.BlockModes

/-! ## What many messages do -/

theorem leavesBlocksOpen_cons (node : UInt8) (message : Message) (rest : List Message) :
    LeavesBlocksOpen node (message :: rest)
      ↔ (message.OpensBlocks node ∧ ∀ later ∈ rest, ¬ later.ClosesBlocks node)
        ∨ LeavesBlocksOpen node rest := by
  constructor
  · rintro ⟨before, opening, after, split, opens, unclosed⟩
    cases before with
    | nil =>
        cases split
        exact .inl ⟨opens, unclosed⟩
    | cons first before =>
        cases split
        exact .inr ⟨before, opening, after, rfl, opens, unclosed⟩
  · rintro (⟨opens, unclosed⟩ | ⟨before, opening, after, rfl, opens, unclosed⟩)
    · exact ⟨[], message, rest, rfl, opens, unclosed⟩
    · exact ⟨message :: before, opening, after, rfl, opens, unclosed⟩

/-- A mode is on behind some messages if they leave it open, or if it was on before and none
of them closes it. -/
theorem Sdo.BlockModes.isOn_foldl_pass {node : UInt8} {messages : List Message}
    (coherent : ∀ message ∈ messages, message.Coherent) (modes : BlockModes) :
    (messages.foldl BlockModes.pass modes).isOn node.toNat = true
      ↔ LeavesBlocksOpen node messages
        ∨ (modes.isOn node.toNat = true ∧ ∀ message ∈ messages, ¬ message.ClosesBlocks node) := by
  -- For any modes at first, as the rest begins with those that the first message leaves.
  induction messages generalizing modes with
  | nil => simp [LeavesBlocksOpen]
  | cons message rest inductionHypothesis =>
      obtain ⟨here, behind⟩ := List.forall_mem_cons.1 coherent
      rw [List.foldl_cons, inductionHypothesis behind, leavesBlocksOpen_cons, List.forall_mem_cons]
      by_cases opens : message.OpensBlocks node
      · have unclosing : ¬ message.ClosesBlocks node := by
          intro closes
          have on := modes.isOn_pass_of_opens here opens
          rw [modes.isOn_pass_of_closes here closes] at on
          cases on
        rw [modes.isOn_pass_of_opens here opens]
        grind
      · by_cases closes : message.ClosesBlocks node
        · rw [modes.isOn_pass_of_closes here closes]
          grind
        · rw [modes.isOn_pass_of_neither here opens closes]
          grind

theorem Sdo.BlockModes.isOn_foldl_pass_filter {node : UInt8} {messages : List Message}
    (coherent : ∀ message ∈ messages, message.Coherent) {modes modes' : BlockModes}
    (same : modes.isOn node.toNat = modes'.isOn node.toNat) :
    ((messages.filter fun message => message.IsReplyOf node ∨ message.IsRequestTo node).foldl
        BlockModes.pass modes).isOn node.toNat
      = (messages.foldl BlockModes.pass modes').isOn node.toNat := by
  induction messages generalizing modes modes' with
  | nil => exact same
  | cons message rest inductionHypothesis =>
      obtain ⟨here, behind⟩ := List.forall_mem_cons.1 coherent
      by_cases serves : message.IsReplyOf node ∨ message.IsRequestTo node
      · rw [List.filter_cons_of_pos (by simpa using serves), List.foldl_cons, List.foldl_cons]
        apply inductionHypothesis behind
        rw [isOn_pass, isOn_pass, same]
      · rw [List.filter_cons_of_neg (by simpa using serves), List.foldl_cons]
        apply inductionHypothesis behind
        obtain ⟨noReply, noRequest⟩ := not_or.1 serves
        rw [same, modes'.isOn_pass_of_other here noReply noRequest]

/-! ## Lines -/

/-- The line for a message is the same in and out of a block download, unless it is a
request. -/
theorem Message.summary_eq {message : Message} (coherent : message.Coherent) {mode mode' : Bool}
    (same : message.Carries .sdoRx 8 → mode = mode') :
    message.summary mode = message.summary mode' := by
  by_cases request : message.Carries .sdoRx 8
  · rw [same request]
  · have meaning : message.meaningSummary mode = message.meaningSummary mode' := by
      unfold meaningSummary
      split
      case h_7 payload function body =>
          obtain reply | asks := coherent.sdo_iff.1 ⟨payload, body⟩
          · rw [reply.2.2.1] at function
            cases function
          · exact (request asks).elim
      all_goals rfl
    rw [summary, summary, meaning]

/-- An onlooker who has seen nothing before takes a node to be in the middle of a block
download exactly if the messages leave one open.  All that is not service data of the node
may be left out.  And every message has a line, which depends on the modes only in a request,
and only by the mode of its own node. -/
theorem blockMode_follows_history (node : UInt8) {messages : List Message}
    (read : ∀ message ∈ messages,
      ∃ frame : Can.Frame, Message.parse frame.reported = .ok message) :
    ((BlockModes.following messages).isOn node.toNat = true ↔ LeavesBlocksOpen node messages)
      ∧ (BlockModes.following (messages.filter fun message =>
            message.IsReplyOf node ∨ message.IsRequestTo node)).isOn node.toNat
          = (BlockModes.following messages).isOn node.toNat
      ∧ ∀ message ∈ messages, ∀ modes modes' : BlockModes,
          (message.Carries .sdoRx 8 →
            modes.isOn message.node.toNat = modes'.isOn message.node.toNat) →
          ∃ line, message.summaryIn? modes = some line ∧ message.summaryIn? modes' = some line := by
  have coherent : ∀ message ∈ messages, message.Coherent := by
    intro message member
    obtain ⟨frame, parsed⟩ := read message member
    exact Message.coherent_of_parse parsed
  refine ⟨?_, BlockModes.isOn_foldl_pass_filter coherent rfl, ?_⟩
  · rw [BlockModes.following, BlockModes.isOn_foldl_pass coherent, BlockModes.isOn_none]
    simp
  · intro message member modes modes' same
    have inBounds : message.InBounds := (coherent message member).length_le
    refine ⟨_, Message.summaryIn?_of_inBounds inBounds modes, ?_⟩
    rw [Message.summaryIn?_of_inBounds inBounds modes',
      Message.summary_eq (coherent message member) same]

/-- Node 3 opens a block download, gets the last segment and opens another one; that node 4
gives up does not matter. -/
theorem blockMode_follows_history_reopened :
    let frames : List Can.Frame :=
      [⟨.standard 0x583, .data ⟨[0xA4, 0x00, 0x20, 1, 2, 0, 0, 0], by decide⟩⟩,
        ⟨.standard 0x603, .data ⟨[0x82, 8, 0, 0, 0, 0, 0, 0], by decide⟩⟩,
        ⟨.standard 0x583, .data ⟨[0xA0, 0x00, 0x20, 1, 2, 0, 0, 0], by decide⟩⟩,
        ⟨.standard 0x584, .data ⟨[0x80, 0x00, 0x20, 1, 0, 0, 0, 8], by decide⟩⟩]
    let messages := frames.filterMap fun frame => (Message.parse frame.reported).toOption
    messages.length = 4
      ∧ (∀ message ∈ messages, ∃ frame : Can.Frame, Message.parse frame.reported = .ok message)
      ∧ (BlockModes.following messages).isOn 3 = true ∧ LeavesBlocksOpen 3 messages := by
  intro frames messages
  have read : ∀ message ∈ messages,
      ∃ frame : Can.Frame, Message.parse frame.reported = .ok message := by
    intro message member
    obtain ⟨frame, _, here⟩ := List.mem_filterMap.1 member
    cases parsed : Message.parse frame.reported with
    | error cause =>
        rw [parsed] at here
        cases here
    | ok other =>
        rw [parsed] at here
        cases here
        exact ⟨frame, parsed⟩
  have on : (BlockModes.following messages).isOn 3 = true := by decide +kernel
  have leavesOpen := (blockMode_follows_history 3 read).1.1 on
  exact ⟨by decide +kernel, read, on, leavesOpen⟩

end CanOpen
