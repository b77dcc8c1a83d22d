/-!
# Function codes

A standard identifier is a four bit function code above a seven bit node
number.  Fourteen of the sixteen codes have a name here.
-/

set_option autoImplicit false

namespace CanOpen

/-- What kind of communication object a message is.  `Tx` and `Rx` are seen from
the node: it sends the one and receives the other. -/
inductive FunctionCode where
  | nmtControl
  | syncEmergency
  | timestamp
  | pdo1Tx
  | pdo1Rx
  | pdo2Tx
  | pdo2Rx
  | pdo3Tx
  | pdo3Rx
  | pdo4Tx
  | pdo4Rx
  | sdoTx
  | sdoRx
  | nodeGuard
  /-- Any other code; only its low four bits count on the bus. -/
  | unknown (code : UInt8)
  deriving DecidableEq, Repr, Inhabited

namespace FunctionCode

def code : FunctionCode → UInt8
  | nmtControl => 0x0
  | syncEmergency => 0x1
  | timestamp => 0x2
  | pdo1Tx => 0x3
  | pdo1Rx => 0x4
  | pdo2Tx => 0x5
  | pdo2Rx => 0x6
  | pdo3Tx => 0x7
  | pdo3Rx => 0x8
  | pdo4Tx => 0x9
  | pdo4Rx => 0xA
  | sdoTx => 0xB
  | sdoRx => 0xC
  | nodeGuard => 0xE
  | unknown code => code &&& 0x0F

def ofCode (byte : UInt8) : FunctionCode :=
  match (byte &&& 0x0F).toNat with
  | 0x0 => nmtControl
  | 0x1 => syncEmergency
  | 0x2 => timestamp
  | 0x3 => pdo1Tx
  | 0x4 => pdo1Rx
  | 0x5 => pdo2Tx
  | 0x6 => pdo2Rx
  | 0x7 => pdo3Tx
  | 0x8 => pdo3Rx
  | 0x9 => pdo4Tx
  | 0xA => pdo4Rx
  | 0xB => sdoTx
  | 0xC => sdoRx
  | 0xE => nodeGuard
  | _ => unknown (byte &&& 0x0F)

def isSdo : FunctionCode → Bool
  | sdoTx | sdoRx => true
  | _ => false

def pdoName? : FunctionCode → Option String
  | pdo1Tx => some "PDO1 TX"
  | pdo1Rx => some "PDO1 RX"
  | pdo2Tx => some "PDO2 TX"
  | pdo2Rx => some "PDO2 RX"
  | pdo3Tx => some "PDO3 TX"
  | pdo3Rx => some "PDO3 RX"
  | pdo4Tx => some "PDO4 TX"
  | pdo4Rx => some "PDO4 RX"
  | _ => none

end FunctionCode

end CanOpen
