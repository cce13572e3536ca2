import DesfireSdk.Managed.Card

/-! Application selection and the frame-preserving discovery operations. -/
namespace DesfireSdk.Managed
open Interaction Model

/-- Restores or ends the state after a selection that failed. -/
def afterSelection (previous : Card) (e : Error) (card : Card) : Card :=
  if previous.authenticated then card.invalidate
  else if previous.authenticationResetPending ∧ card.usable then
    if e.outcome = .unknown then card.invalidate else {card with authenticationResetPending := true}
  else card

/-- Selects an application after erasing authentication bound to the old selection. -/
def selectApplication (id : ApplicationId) (options : ExchangeOptions) : Op Card Unit :=
  admitted busy do
    Op.refuse (options.timeout ≤ 0) (invalid "Application selection timeout must be positive")
    let stop ← Op.stopRequested .operation
    Op.refuse stop ⟨.cancelled,"Application selection cancelled before I/O",.notSent,0⟩
    let previous ← Program.get
    Program.modify fun card => {card.clearAuthentication with authenticationResetPending := false}
    let response ← Op.onError (afterSelection previous)
      (executePlainLocked 0x5A (putLe id.value 3) options "SelectApplication")
    Op.refuseAfter Card.invalidate (response ≠ [])
      ⟨.malformedResponse,"SelectApplication response must contain no data",.unknown,0⟩
    Program.modify fun card => {card with selectedApplication := some id.value}

def getVersion (options : ExchangeOptions) : Op Card VersionInfo :=
  admitted busy do
    let payload ← executePlainLocked 0x60 [] options "GetVersion"
    Op.onError (fun _ => Card.invalidate) (Op.ofResult (parseVersion payload))

def freeMemory (options : ExchangeOptions) : Op Card Nat :=
  admitted busy do
    let payload ← executePlainLocked 0x6E [] options "FreeMem"
    Op.refuseAfter Card.invalidate (payload.length ≠ 3)
      ⟨.malformedResponse,"FreeMem response must contain exactly three bytes",.unknown,0⟩
    pure (getLe payload)

/-- File numbers in range and without duplicates. -/
def parseFileIds (payload : Bytes) : Result (List FileNumber) :=
  match payload.mapM fun byte => (Number.make byte.toNat : Result FileNumber) with
  | .ok files => if files.Nodup then .ok files else .error duplicate
  | .error _ => .error duplicate
where
  duplicate : Error :=
    ⟨.malformedResponse,"GetFileIDs contains an invalid or duplicate file number",.unknown,0⟩

def fileIds (options : ExchangeOptions) : Op Card (List FileNumber) :=
  admitted busy do
    let payload ← executePlainLocked 0x6F [] options "GetFileIDs"
    Op.refuseAfter Card.invalidate (32 < payload.length)
      ⟨.malformedResponse,"GetFileIDs exceeds DESFire file capacity",.unknown,0⟩
    Op.onError (fun _ => Card.invalidate) (Op.ofResult (parseFileIds payload))

/-- The records of at most the given number of further frames. -/
def dfNameFrames : Nat → Byte → List Bytes → Op Native.Raw.Transaction (List Bytes)
  | 0,_,_ => Op.reject
      ⟨.malformedResponse,"DF-name chain exceeded the record limit",.unknown,0⟩
  | frames+1,command,records => do
    let frame ← Native.Raw.Transaction.exchangeFrame command []
    Op.refuse (frame.status ≠ 0x00 ∧ frame.status ≠ 0xAF) (rejected frame.status "GetDFNames")
    Op.refuse (29 < frame.data.length ∨
        (frame.status = 0xAF ∧ (frame.data = [] ∨ 21 < frame.data.length)))
      ⟨.malformedResponse,"DF-name frame violates its record bound",.unknown,0⟩
    let records := if frame.data = [] then records else records ++ [frame.data]
    if frame.status = 0x00 then pure records else dfNameFrames frames 0xAF records

/-- Reads DF names without concatenating the frames that carry them. -/
def dfNames (options : ExchangeOptions) : Op Card (List Native.Checked.DfName) :=
  admitted busy (Op.catchAll Card.invalidate ⟨.internal,"DF-name command failed",.unknown,0⟩ do
    let card ← Program.get
    Op.refuse (card.usable = false ∨ card.isoSession.isSome)
      (sessionInvalid "GetDFNames requires usable native card state")
    Op.refuse card.authenticationResetPending (sessionInvalid
      ("Select an application, authenticate EV2 First, or reset before " ++
        "GetDFNames after local authentication reset"))
    Op.refuse card.hasNativeSession
      ⟨.authentication,"GetDFNames requires unauthenticated native card state",.notSent,0⟩
    checkGeneration "Card changed before GetDFNames" .notSent
    let transaction ← card.raw.begin options
    -- Each failing branch invalidates the state exactly when its outcome is unknown.
    let records ← Op.onError (afterExchange false)
      (Program.within transaction (dfNameFrames 4096 0x6D []))
    Op.onError (fun _ => Card.invalidate)
      (Op.ofResult (records.mapM Native.Checked.parseDfNameFrame)))

end DesfireSdk.Managed
