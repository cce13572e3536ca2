import DesfireSdk.Managed.Authentication
import DesfireSdk.Managed.Discovery
import DesfireSdk.Managed.Iso7816
import DesfireSdk.Managed.Transactions

/-! The managed operations as one alphabet. -/
namespace DesfireSdk.Managed
open Interaction Model

inductive Operation
  | selectApplication (id : ApplicationId)
  | authenticateStandardAes (keyNumber : KeyNumber) (source : KeySource)
  | authenticateEv2FirstAes (keyNumber : KeyNumber) (source : KeySource) (pcdCapabilities : Bytes)
  | authenticateEv2NonFirstAes (keyNumber : KeyNumber) (source : KeySource)
  | authenticateIsoAes (reference : Iso7816.Checked.KeyReference) (source : KeySource)
  | isoCommand (command : Iso7816.Checked.Command)
  | execute (command : Native.Checked.Command)
  | executeTransaction (plan : TransactionPlan) (returnMac : Bool)
  | getVersion
  | freeMemory
  | fileIds
  | dfNames
  | resetAuthentication
  | reset

/-- What an operation returns. -/
inductive Reply
  | done
  | information (value : AuthenticationInfo)
  | response (value : Iso7816.Checked.Response)
  | payload (value : Bytes)
  | version (value : VersionInfo)
  | memory (value : Nat)
  | files (value : List FileNumber)
  | names (value : List Native.Checked.DfName)

def perform (operation : Operation) (options : ExchangeOptions) : Op Card Reply :=
  match operation with
  | .selectApplication id => Op.returning (fun _ => .done) (selectApplication id options)
  | .authenticateStandardAes keyNumber source =>
    Op.returning (fun _ => .done) (authenticateStandardAes keyNumber source options)
  | .authenticateEv2FirstAes keyNumber source pcdCapabilities =>
    Op.returning .information (authenticateEv2FirstAes keyNumber source pcdCapabilities options)
  | .authenticateEv2NonFirstAes keyNumber source =>
    Op.returning .information (authenticateEv2NonFirstAes keyNumber source options)
  | .authenticateIsoAes reference source =>
    Op.returning (fun _ => .done) (authenticateIsoAes reference source options)
  | .isoCommand command => Op.returning .response (isoCommand command options)
  | .execute command => Op.returning .payload (execute command options)
  | .executeTransaction plan returnMac =>
    Op.returning .payload (executeTransaction plan returnMac options)
  | .getVersion => Op.returning .version (getVersion options)
  | .freeMemory => Op.returning .memory (freeMemory options)
  | .fileIds => Op.returning .files (fileIds options)
  | .dfNames => Op.returning .names (dfNames options)
  | .resetAuthentication => Op.returning (fun _ => .done) resetAuthentication
  | .reset => Op.returning (fun _ => .done) reset

end DesfireSdk.Managed
