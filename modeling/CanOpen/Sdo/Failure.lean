import CanOpen.CodecError
import CanOpen.Sdo.Payload

/-!
# How a service data transfer fails

A transfer is given up with a 32 bit code.  The registry holds the codes that have a
meaning, in ascending order, each with its text.

Failures of the transport are kept as they are, whatever their type.  Two failures count as
equal if they come from the same cause; a failed transport equals nothing, itself
included, and an abort is told by its code alone.
-/

set_option autoImplicit false

namespace CanOpen.Sdo

inductive AbortCode where
  | toggleNotAlternated
  | protocolTimedOut
  | unknownSpecifier
  | invalidBlockSize
  | invalidSequenceNumber
  | crcError
  | outOfMemory
  | unsupportedAccess
  | readOfWriteOnly
  | writeOfReadOnly
  | noSuchObject
  | notMappable
  | mappingTooLong
  | parameterIncompatibility
  | internalIncompatibility
  | hardwareError
  | lengthMismatch
  | lengthTooHigh
  | lengthTooLow
  | noSuchSubindex
  | valueOutOfRange
  | valueTooHigh
  | valueTooLow
  | maximumBelowMinimum
  | generalError
  | storeFailed
  | storeFailedLocalControl
  | storeFailedDeviceState
  | noDictionary
  deriving DecidableEq, Repr, Inhabited

namespace AbortCode

def code : AbortCode → UInt32
  | toggleNotAlternated => 0x05030000
  | protocolTimedOut => 0x05040000
  | unknownSpecifier => 0x05040001
  | invalidBlockSize => 0x05040002
  | invalidSequenceNumber => 0x05040003
  | crcError => 0x05040004
  | outOfMemory => 0x05040005
  | unsupportedAccess => 0x06010000
  | readOfWriteOnly => 0x06010001
  | writeOfReadOnly => 0x06010002
  | noSuchObject => 0x06020000
  | notMappable => 0x06040041
  | mappingTooLong => 0x06040042
  | parameterIncompatibility => 0x06040043
  | internalIncompatibility => 0x06040047
  | hardwareError => 0x06060000
  | lengthMismatch => 0x06070010
  | lengthTooHigh => 0x06070012
  | lengthTooLow => 0x06070013
  | noSuchSubindex => 0x06090011
  | valueOutOfRange => 0x06090030
  | valueTooHigh => 0x06090031
  | valueTooLow => 0x06090032
  | maximumBelowMinimum => 0x06090036
  | generalError => 0x08000000
  | storeFailed => 0x08000020
  | storeFailedLocalControl => 0x08000021
  | storeFailedDeviceState => 0x08000022
  | noDictionary => 0x08000023

def description : AbortCode → String
  | toggleNotAlternated => "Toggle bit not alternated"
  | protocolTimedOut => "SDO protocol timed out"
  | unknownSpecifier => "Client/server command specifier not valid or unknown"
  | invalidBlockSize => "Invalid block size (block mode only)"
  | invalidSequenceNumber => "Invalid sequence number (block mode only)"
  | crcError => "CRC error (block mode only)"
  | outOfMemory => "Out of memory"
  | unsupportedAccess => "Unsupported access to an object"
  | readOfWriteOnly => "Attempt to read a write only object"
  | writeOfReadOnly => "Attempt to write a read only object"
  | noSuchObject => "Object does not exist in the object dictionary"
  | notMappable => "Object cannot be mapped to the PDO"
  | mappingTooLong => "The number and length of the objects to be mapped would exceed PDO length"
  | parameterIncompatibility => "General parameter incompatibility reason"
  | internalIncompatibility => "General internal incompatibility in the device"
  | hardwareError => "Access failed due to a hardware error"
  | lengthMismatch => "Data type does not match; length of service parameter does not match"
  | lengthTooHigh => "Data type does not match; length of service parameter too high"
  | lengthTooLow => "Data type does not match; length of service parameter too low"
  | noSuchSubindex => "Sub-index does not exist"
  | valueOutOfRange => "Value range of parameter exceeded (only for write access)"
  | valueTooHigh => "Value of parameter written too high"
  | valueTooLow => "Value of parameter written too low"
  | maximumBelowMinimum => "Maximum value is less than minimum value"
  | generalError => "General error"
  | storeFailed => "Data cannot be transferred or stored to the application"
  | storeFailedLocalControl =>
      "Data cannot be transferred or stored to the application because of local control"
  | storeFailedDeviceState =>
      "Data cannot be transferred or stored to the application because of the present "
        ++ "device state"
  | noDictionary =>
      "Object dictionary dynamic generation fails or no object dictionary is present "
        ++ "(e.g. object dictionary is generated from file and generation fails because of a "
        ++ "file error)"

/-- All codes that have a meaning, in the order of their declaration. -/
def registry : List AbortCode :=
  [.toggleNotAlternated, .protocolTimedOut, .unknownSpecifier,
    .invalidBlockSize, .invalidSequenceNumber, .crcError,
    .outOfMemory, .unsupportedAccess, .readOfWriteOnly,
    .writeOfReadOnly, .noSuchObject, .notMappable,
    .mappingTooLong, .parameterIncompatibility, .internalIncompatibility,
    .hardwareError, .lengthMismatch, .lengthTooHigh,
    .lengthTooLow, .noSuchSubindex, .valueOutOfRange,
    .valueTooHigh, .valueTooLow, .maximumBelowMinimum,
    .generalError, .storeFailed, .storeFailedLocalControl,
    .storeFailedDeviceState, .noDictionary]

def rank (abort : AbortCode) : Nat :=
  registry.idxOf abort

instance : Ord AbortCode := ⟨fun left right => compare left.rank right.rank⟩

def ofCode? (code : UInt32) : Option AbortCode :=
  registry.find? fun abort => abort.code == code

theorem ofCode?_code (abort : AbortCode) : ofCode? abort.code = some abort := by
  cases abort <;> rfl

/-- The text of a code, one text standing for all codes without a meaning. -/
def describe (code : UInt32) : String :=
  ((ofCode? code).map description).getD "Unknown error"

end AbortCode

namespace Payload

def abortDescription (payload : Payload) : String :=
  AbortCode.describe payload.word

def abortDescription? : Option Payload → String
  | some payload => payload.abortDescription
  | none => "SDO null"

end Payload

inductive Failure (ε : Type) where
  | transport (cause : ε)
  | malformed (cause : CodecError)
  | abort (code : UInt32) (description : String)
  | timeout
  /-- The transfer needs a mode that is not spoken here. -/
  | unsupported (operation : String)
  deriving DecidableEq, Repr

namespace Failure

def message {ε : Type} [ToString ε] : Failure ε → String
  | transport cause => "Transport error: " ++ toString cause
  | malformed cause => cause.message
  | abort code description =>
      "SDO abort " ++ Numeral.marked 8 code.toNat ++ ": " ++ description
  | timeout => "SDO transfer timed out"
  | unsupported operation => "Unsupported SDO operation: " ++ operation

/-- Whether two failures have the same cause. -/
def sameCause {ε : Type} : Failure ε → Failure ε → Bool
  | malformed left, malformed right => left == right
  | abort left _, abort right _ => left == right
  | timeout, timeout => true
  | unsupported left, unsupported right => left == right
  | _, _ => false

end Failure

end CanOpen.Sdo
