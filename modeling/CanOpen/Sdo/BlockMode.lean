import CanOpen.Message
import CanOpen.Sdo.Command

/-!
# Which nodes are in the middle of a block download

A segment inside a block cannot be told from a request by its first byte.  An
onlooker who wants to know keeps, for each node, whether a block download is
under way, and learns it from the messages that pass: the reply that opens a
block download switches the mode of its node on; a reply that ends or gives up
the transfer, the last segment and, outside the mode, a request that ends or
gives up the transfer switch it off.
-/

set_option autoImplicit false

namespace CanOpen.Sdo

abbrev BlockModes := Vector Bool 128

namespace BlockModes

def none : BlockModes := Vector.replicate 128 false

/-- Whether a block download with this node is under way; never with a node
above 127. -/
def isOn (modes : BlockModes) (node : Nat) : Bool :=
  modes[node]?.getD false

def switch (modes : BlockModes) (node : Nat) (mode : Bool) : BlockModes :=
  modes.setIfInBounds node mode

@[simp]
theorem isOn_none (node : Nat) : none.isOn node = false := by
  by_cases inside : node < 128 <;> simp [isOn, none, inside]

theorem isOn_switch (modes : BlockModes) (node other : Nat) (mode : Bool) :
    (modes.switch node mode).isOn other
      = if node = other ∧ node < 128 then mode else modes.isOn other := by
  unfold isOn switch
  rw [Vector.getElem?_setIfInBounds]
  by_cases same : node = other
  · subst same
    by_cases inside : node < 128 <;> simp [inside]
  · simp [same]

end BlockModes

def ServerCommand.switches? : ServerCommand → Option Bool
  | .blockDownload _ .opened => some true
  | .blockDownload _ .ended => some false
  | .abort => some false
  | _ => Option.none

def ClientCommand.switches? : ClientCommand → Option Bool
  | .endBlockDownload _ => some false
  | .abort => some false
  | _ => Option.none

/-- What a message does to the mode of its node, given the mode it finds. -/
def switches? (mode : Bool) (message : Message) : Option Bool :=
  match message.function, message.body with
  | some .sdoTx, .sdo payload => (ServerCommand.ofByte payload.command).switches?
  | some .sdoRx, .sdo payload =>
      if mode then
        if (SegmentHeader.ofByte payload.command).last then some false else Option.none
      else
        (ClientCommand.ofByte payload.command).switches?
  | _, _ => Option.none

def BlockModes.pass (modes : BlockModes) (message : Message) : BlockModes :=
  match switches? (modes.isOn message.node.toNat) message with
  | some mode => modes.switch message.node.toNat mode
  | Option.none => modes

end CanOpen.Sdo
