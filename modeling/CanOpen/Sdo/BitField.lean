/-!
# Fields of a command byte

The first byte of a service data message packs several small numbers and flags
into eight bits.  A `BitField` names the place of one of them.
-/

set_option autoImplicit false

namespace CanOpen.Sdo

structure BitField where
  low : UInt8
  /-- The largest value that the field holds, all its bits being ones. -/
  mask : UInt8
  deriving DecidableEq, Repr

namespace BitField

def get (field : BitField) (byte : UInt8) : UInt8 :=
  (byte >>> field.low) &&& field.mask

def put (field : BitField) (value byte : UInt8) : UInt8 :=
  (byte &&& ~~~(field.mask <<< field.low)) ||| ((value &&& field.mask) <<< field.low)

def isSet (field : BitField) (byte : UInt8) : Bool :=
  field.get byte != 0

def putFlag (field : BitField) (flag : Bool) (byte : UInt8) : UInt8 :=
  field.put (if flag then 1 else 0) byte

end BitField

/-! ## The six layouts of a command byte -/

/-- The command specifier, which every layout but the block segment has. -/
def specifier : BitField := ⟨5, 7⟩

namespace Initiate

def unused : BitField := ⟨2, 3⟩

def expedited : BitField := ⟨1, 1⟩

def sized : BitField := ⟨0, 1⟩

end Initiate

namespace Segment

def toggle : BitField := ⟨4, 1⟩

def unused : BitField := ⟨1, 7⟩

def last : BitField := ⟨0, 1⟩

end Segment

namespace BlockInitiate

def crc : BitField := ⟨2, 1⟩

def sized : BitField := ⟨1, 1⟩

/-- Client subcommand: down to open a transfer, up to end it. -/
def ending : BitField := ⟨0, 1⟩

end BlockInitiate

namespace BlockReply

def crc : BitField := ⟨2, 1⟩

def subcommand : BitField := ⟨0, 3⟩

end BlockReply

namespace BlockEnd

def unused : BitField := ⟨2, 7⟩

def ending : BitField := ⟨0, 1⟩

end BlockEnd

namespace BlockSegment

def last : BitField := ⟨7, 1⟩

/-- Place of the segment inside its block, from 1. -/
def sequence : BitField := ⟨0, 127⟩

end BlockSegment

end CanOpen.Sdo
