/-!
# Faults of the frame codec

A `CodecError` says why a frame could not be read, built or put on the bus.  The faults
are linearly ordered: first by kind, in the order of their declaration, then by their
parts from left to right, texts by code point.

`Numeral` writes the numbers in their texts, and in all other texts: hexadecimal numerals
padded on the left with zeros.  Decimal numerals are those of `Nat.repr`.
-/

set_option autoImplicit false

namespace CanOpen

namespace Numeral

/-- Hexadecimal numeral with digits `0`-`9`, `a`-`f` and at least `width` digits. -/
def hex (width number : Nat) : String :=
  String.ofList (List.leftpad width '0' (Nat.toDigits 16 number))

def hexUpper (width number : Nat) : String :=
  String.ofList (List.leftpad width '0' ((Nat.toDigits 16 number).map Char.toUpper))

/-- Hexadecimal numeral marked by `0x`, with at least `width` digits after the mark. -/
def marked (width number : Nat) : String :=
  "0x" ++ hex width number

def markedUpper (width number : Nat) : String :=
  "0x" ++ hexUpper width number

def bit (flag : Bool) : String :=
  if flag then "1" else "0"

end Numeral

inductive CodecError where
  | malformed (info : String)
  | byteLengthExceedsLimit (length limit : Nat)
  | invalidStandardId (cobId : UInt16)
  | invalidExtendedId (id : UInt32)
  | invalidNodeId (node : UInt8)
  /-- The driver refused to build a frame that passed every check. -/
  | frameCreationFailed (data : List UInt8)
  | wrongBody (expected : String)
  deriving DecidableEq, Repr, Inhabited

namespace CodecError

def message : CodecError → String
  | malformed info => "Malformed frame: " ++ info
  | byteLengthExceedsLimit length limit =>
      "Byte length " ++ length.repr ++ " exceeds limit " ++ limit.repr
  | invalidStandardId cobId => "Invalid Standard ID: " ++ Numeral.marked 1 cobId.toNat
  | invalidExtendedId id => "Invalid Extended ID: " ++ Numeral.marked 1 id.toNat
  | invalidNodeId node => "Invalid node id: " ++ Numeral.marked 1 node.toNat
  | frameCreationFailed data =>
      "Frame creation failed, data: ["
        ++ String.intercalate ", " (data.map fun byte => Numeral.hex 1 byte.toNat) ++ "]"
  | wrongBody expected => "Frame payload is not a " ++ expected ++ " payload"

def rank : CodecError → Nat
  | malformed _ => 0
  | byteLengthExceedsLimit _ _ => 1
  | invalidStandardId _ => 2
  | invalidExtendedId _ => 3
  | invalidNodeId _ => 4
  | frameCreationFailed _ => 5
  | wrongBody _ => 6

/-- Order of faults: by kind, then by parts. -/
def compare : CodecError → CodecError → Ordering
  | malformed left, malformed right => Ord.compare left right
  | byteLengthExceedsLimit leftLength leftLimit, byteLengthExceedsLimit rightLength rightLimit =>
      (Ord.compare leftLength rightLength).then (Ord.compare leftLimit rightLimit)
  | invalidStandardId left, invalidStandardId right => Ord.compare left right
  | invalidExtendedId left, invalidExtendedId right => Ord.compare left right
  | invalidNodeId left, invalidNodeId right => Ord.compare left right
  | frameCreationFailed left, frameCreationFailed right => Ord.compare left right
  | wrongBody left, wrongBody right => Ord.compare left right
  | left, right => Ord.compare left.rank right.rank

instance : Ord CodecError := ⟨CodecError.compare⟩

end CodecError

end CanOpen
