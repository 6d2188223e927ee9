import IKash.Deploy
import IKash.Users

/-!
# The other requests about an escrow

`fund` and `release` build a transaction for the client to sign and write nothing; `release` has the treasury approve a
completed milestone first. `uploadEvidence` stores a file and its url.
-/

namespace IKash

open Lib

variable {χ : Type}

structure ApproveMilestonePayload where
  contractId : String
  approver : String
  milestoneIndex : String
deriving DecidableEq, Repr

structure ReleaseMilestoneFundsPayload where
  contractId : String
  releaseSigner : String
  milestoneIndex : String
deriving DecidableEq, Repr

/-- What else the requests call: `getEscrowByContractId` takes the contract and `validateOnChain`, and `uploadEvidence`
the file and its key. -/
structure ReleasingWork (χ : Type) extends TrustlessWorkService χ where
  getEscrowByContractId : String → Bool → χ → Except Thrown Json × χ
  approveMilestone : ApproveMilestonePayload → χ → Except Thrown String × χ
  releaseMilestoneFunds : ReleaseMilestoneFundsPayload → χ → Except Thrown String × χ
  uploadFile : UploadFileInput → String → χ → Except Thrown StoredFile × χ

namespace EscrowService

structure FundEscrowDto where
  escrowId : String
  signerAddress : String
  amount : ℚ

structure ReleaseEscrowDto where
  escrowId : String
  releaseSigner : String

/-! ## `fund` -/

def fund (tw : TrustlessWorkService χ) (dto : FundEscrowDto) : Service χ InitializeEscrowResponse := do
  let escrow ← getOrFail dto.escrowId
  let contractId ← Svc.orThrow (contract? escrow) (.app .escrowNotInitialized
    "Escrow has not been initialized on-chain yet. Complete the initialize step first.")
  Svc.throwIf (escrow.escrowStatus ≠ .initialized) (.app .escrowInvalidStatus
    ("Cannot fund escrow in status \"" ++ escrow.escrowStatus.text ++ "\". Must be \"initialized\"."))
  let unsignedTransaction ← external (tw.fundEscrow ⟨contractId, dto.signerAddress, dto.amount⟩)
  pure ⟨escrow.escrowId, unsignedTransaction⟩

/-! ## `release` -/

/-- `x?.[0]` -/
def firstOf : Option Json → Option Json
  | some (.arr (j :: _)) => some j
  | _ => none

/-- `statusRes?.[0]?.milestones?.[0]?.status` -/
def milestoneState (statusRes : Json) : Option String :=
  Json.asString ((firstOf ((firstOf (some statusRes)).bind fun entry => entry.field "milestones")).bind fun m =>
    m.field "status")

/-- The treasury approves the milestone. -/
def approve (tw : ReleasingWork χ) (config : EscrowConfig) (contractId : String) : Service χ Unit := do
  let treasury ← Svc.ofExcept (EscrowConfig.getOrThrow "IKASH_TREASURY_ADDRESS" config.treasuryAddress)
  let treasurySecret ← Svc.ofExcept (EscrowConfig.getOrThrow "IKASH_DEPLOYER_SECRET" config.deployerSecret)
  let unsignedTransaction ← external (tw.approveMilestone ⟨contractId, treasury, "0"⟩)
  let signedXdr ← Svc.ofExcept (tw.sign unsignedTransaction treasurySecret (getNetworkPassphrase config))
  let broadcastResult ← external (tw.sendTransaction signedXdr)
  Svc.throwIf (broadcastResult.status ≠ "SUCCESS")
    (.app .escrowApproveFailed ("Auto-approve failed: " ++ broadcastResult.message.getD "undefined"))

/-- A completed milestone is approved before the release. -/
def autoApprove (tw : ReleasingWork χ) (config : EscrowConfig) (contractId : String) (state : Option String) :
    Service χ Unit :=
  if state = some "completed" then approve tw config contractId else pure ()

def release (tw : ReleasingWork χ) (config : EscrowConfig) (dto : ReleaseEscrowDto) :
    Service χ InitializeEscrowResponse := do
  let escrow ← getOrFail dto.escrowId
  let contractId ← Svc.orThrow (contract? escrow) (.app .escrowNoContract "Escrow has no on-chain contract")
  Svc.throwIf (escrow.escrowStatus ∉ [.funded, .fiatSent]) (.app .escrowInvalidStatus
    ("Cannot release escrow in status \"" ++ escrow.escrowStatus.text ++ "\". Must be \"funded\" or \"fiat_sent\"."))
  let statusRes ← external (tw.getEscrowByContractId contractId true)
  autoApprove tw config contractId (milestoneState statusRes)
  let unsignedTransaction ← external (tw.releaseMilestoneFunds ⟨contractId, dto.releaseSigner, "0"⟩)
  pure ⟨escrow.escrowId, unsignedTransaction⟩

/-! ## `uploadEvidence` -/

def allowedMimes : List String := ["image/jpeg", "image/png", "image/webp", "application/pdf"]

def checkEvidence : Option UploadFileInput → Except Thrown UploadFileInput
  | none => .error (.app .validationError "Evidence file is required")
  | some file =>
    if file.mimetype ∈ allowedMimes then .ok file
    else .error (.app .validationError ("Invalid file type \"" ++ file.mimetype ++ "\". Allowed: " ++
      Json.join ", " allowedMimes))

/-- `name.split('.').pop() || 'jpg'` -/
def extension (name : String) : String :=
  (((name.splitOn ".").getLast?).filter (· ≠ "")).getD "jpg"

def evidenceKey (escrow : EscrowOnChain) (file : UploadFileInput) (now : ℤ) : String :=
  "evidence/" ++ escrow.escrowId ++ "/" ++ toString now ++ "." ++ extension file.originalname

def setEvidence (url : String) (e : EscrowOnChain) : EscrowOnChain := { e with evidenceUrl := some url }

def uploadEvidence (tw : ReleasingWork χ) (id : String) (file : Option UploadFileInput) : Service χ String := do
  let file ← Svc.ofExcept (checkEvidence file)
  let escrow ← getOrFail id
  let w ← Svc.get
  let result ← external (tw.uploadFile file (evidenceKey escrow file w.now))
  let _ ← prisma (Prisma.escrowOnChain.update (uuid id) (setEvidence result.url))
  pure result.url

end EscrowService

end IKash
