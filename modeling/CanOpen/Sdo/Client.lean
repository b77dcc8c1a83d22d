import CanOpen.Log
import CanOpen.Sdo.Transfer.Block
import CanOpen.Sdo.Transfer.Expedited
import CanOpen.Sdo.Transfer.Segmented

/-!
# Service data clients

A client reads and writes objects of nodes by transfers whose budgets it sets.
`Call` lists what it can do, `Call.run` does it, and `Client.perform` also keeps
the log.  Between calls a client remembers nothing but the modes of the nodes
that its log needs.
-/

set_option autoImplicit false

namespace CanOpen.Sdo

structure Config where
  /-- Messages to receive while waiting for the reply of an expedited upload. -/
  expeditedRounds : Nat := 10
  /-- Messages to receive without any other transfer moving on. -/
  transferRounds : Nat := 1000
  blockCrc : Bool := false
  tracing : Bool := false
  deriving DecidableEq, Repr, Inhabited

structure Identity where
  vendorId : UInt32
  productCode : UInt32
  revision : UInt32
  deriving DecidableEq, Repr

abbrev identityIndex : UInt16 := 0x1018

/-- Reads who a node is: vendor, product and revision, in this order, up to the
first that fails. -/
def readIdentity {σ ε : Type} [Transport σ ε] (budget : Nat) (node : UInt8)
    (transport : σ) : Run σ ε (Except (Failure ε) Identity) :=
  let read (subindex : UInt8) (transport : σ) : Run σ ε (Except (Failure ε) UInt32) :=
    ((Transfer.expeditedUpload budget node identityIndex subindex).run transport).map
      Ending.result
  (read 1 transport).andThen fun vendorId transport =>
    (read 2 transport).andThen fun productCode transport =>
      (read 3 transport).map fun result =>
        result.map fun revision => ⟨vendorId, productCode, revision⟩

inductive Call where
  | expeditedUpload (node : UInt8) (index : UInt16) (subindex : UInt8)
  | expeditedDownload (node : UInt8) (index : UInt16) (subindex : UInt8) (data : List UInt8)
  | segmentedUpload (node : UInt8) (index : UInt16) (subindex : UInt8)
    (contents : List UInt8)
  | segmentedDownload (node : UInt8) (index : UInt16) (subindex : UInt8) (data : List UInt8)
  /-- Reads an object in blocks, which is not supported. -/
  | blockUpload (node : UInt8) (index : UInt16) (subindex : UInt8) (contents : List UInt8)
  | blockDownload (node : UInt8) (index : UInt16) (subindex : UInt8) (data : List UInt8)
  | identity (node : UInt8)
  deriving DecidableEq, Repr

inductive Value where
  | done
  | number (value : UInt32)
  | count (bytes : Nat)
  | identity (identity : Identity)
  deriving DecidableEq, Repr

structure Answer (ε : Type) where
  result : Except (Failure ε) Value
  /-- The buffer of an upload, whatever the result. -/
  buffer : Option (List UInt8)

def Call.run {σ ε : Type} [Transport σ ε] (config : Config) (transport : σ) :
    Call → Run σ ε (Answer ε)
  | .expeditedUpload node index subindex =>
      ((Transfer.expeditedUpload config.expeditedRounds node index subindex).run
        transport).map fun ending => ⟨ending.result.map .number, none⟩
  | .expeditedDownload node index subindex data =>
      ((Transfer.expeditedDownload config.transferRounds node index subindex data).run
        transport).map fun ending => ⟨ending.result.map fun () => .done, none⟩
  | .segmentedUpload node index subindex contents =>
      ((Transfer.segmentedUpload config.transferRounds node index subindex contents).run
        transport).map fun ending =>
          ⟨ending.result.map .count, some ending.final.buffer.contents⟩
  | .segmentedDownload node index subindex data =>
      ((Transfer.segmentedDownload config.transferRounds node index subindex data).run
        transport).map fun ending => ⟨ending.result.map fun () => .done, none⟩
  | .blockUpload _ _ _ contents =>
      ⟨⟨.error (.unsupported "block upload"), some contents⟩, transport, []⟩
  | .blockDownload node index subindex data =>
      ((Transfer.blockDownload config.transferRounds config.blockCrc node index subindex
        data).run transport).map fun ending => ⟨ending.result.map fun () => .done, none⟩
  | .identity node =>
      (readIdentity config.expeditedRounds node transport).map fun result =>
        ⟨result.map .identity, none⟩

structure Client where
  config : Config
  /-- Which nodes its log has seen in the middle of a block download. -/
  modes : BlockModes

def Client.new (config : Config) : Client := ⟨config, BlockModes.none⟩

/-- Makes a call and puts its journal into words.  There is no way to go on from a message
that should be traced and has no line: the call breaks off and nothing comes of it. -/
def Client.perform {σ ε : Type} [Transport σ ε] [ToString ε] (client : Client) (call : Call)
    (transport : σ) : Option (Run σ ε (Answer ε) × List LogLine × Client) :=
  let run := call.run client.config transport
  (logLines? client.config.tracing client.modes run.journal).map fun (lines, modes) =>
    (run, lines, { client with modes })

end CanOpen.Sdo
