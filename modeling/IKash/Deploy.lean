import IKash.Escrow
import IKash.Order

/-!
# Deploying escrows

`EscrowService.open` and `OrderService.create` deploy a contract through Trustless Work and write its row afterwards;
`EscrowService.initialize` only builds the transaction, which the client signs and submits by `syncTransaction`. The
parts of a call that end at an await have definitions of their own. A database fault is an argument of the call it hits
(`DbFaults`), and so are the random ids.
-/

namespace IKash

open Lib

variable {χ α : Type}

/-! ## The payloads -/

structure MultiReleaseRoles where
  approver : String
  serviceProvider : String
  platformAddress : String
  releaseSigner : String
  disputeResolver : String
deriving DecidableEq, Repr

structure MultiReleaseMilestonePayload where
  description : String
  amount : ℚ
  receiver : String
deriving DecidableEq, Repr

structure Trustline where
  address : String
  symbol : String
deriving DecidableEq, Repr

structure InitializeMultiReleaseEscrowPayload where
  signer : String
  engagementId : String
  title : String
  description : String
  roles : MultiReleaseRoles
  platformFee : ℚ
  milestones : List MultiReleaseMilestonePayload
  trustline : Trustline
deriving DecidableEq, Repr

structure FundEscrowPayload where
  contractId : String
  signer : String
  amount : ℚ
deriving DecidableEq, Repr

/-- The assertion `escrow.contractId!` does not look at the value. -/
structure ChangeMilestoneStatusPayload where
  contractId : Option String
  serviceProvider : String
  milestoneIndex : String
  newStatus : String
  newEvidence : String
deriving DecidableEq, Repr

/-- What the deploying services call: the requests that build an unsigned transaction, and the local part of
`signAndBroadcast`, which takes the transaction, the secret and the network. -/
structure TrustlessWorkService (χ : Type) extends TrustlessWork χ where
  deployer : InitializeMultiReleaseEscrowPayload → χ → Except Thrown String × χ
  fundEscrow : FundEscrowPayload → χ → Except Thrown String × χ
  changeMilestoneStatus : ChangeMilestoneStatusPayload → χ → Except Thrown String × χ
  sign : String → String → String → Except Thrown String

/-- The settings of the escrow module. -/
structure EscrowConfig where
  treasuryAddress : Option String
  supportAddress : Option String
  deployerSecret : Option String
  usdcIssuer : Option String
  xlmAddress : Option String := none
  platformFee : ℚ := 1
  network : String := "testnet"

/-- The conversions of amounts: `Number(s)` of a decimal text, and a number as a `Decimal(20, 7)`; `none` does not
fit. A number stands for its shortest decimal. -/
structure AmountCodec extends Codec where
  number : String → ℚ
  decimalOfNumber : ℚ → Option ℚ

/-- Trustless Work, the settings and the conversions. -/
structure EscrowEnv (χ : Type) where
  tw : TrustlessWorkService χ
  config : EscrowConfig
  codec : AmountCodec

/-- The faults that hit the database accesses of a call, in their order. -/
structure DbFaults where
  find : Option Thrown := none
  findAgain : Option Thrown := none
  create : Option Thrown := none
  update : Option Thrown := none
  audit : Option Thrown := none

/-- The access, or the fault that hits it. -/
def faulty (fault : Option Thrown) (m : Service χ α) : Service χ α :=
  match fault with
  | some t => Svc.throw t
  | none => m

/-- `AuditLogService.create` swallows the fault. -/
def recordUnless (fault : Option Thrown) (entry : AuditLog) : Service χ Unit :=
  match fault with
  | some _ => pure ()
  | none => AuditLogService.create entry

def EscrowConfig.getOrThrow (key : String) (value : Option String) : Except Thrown String :=
  value.elim (.error (.other ("Configuration key \"" ++ key ++ "\" does not exist"))) .ok

/-- `TrustlessWorkService.initializeEscrow` -/
def TrustlessWorkService.initializeEscrow (tw : TrustlessWorkService χ)
    (payload : InitializeMultiReleaseEscrowPayload) : Service χ String := do
  Svc.throwIf (Json.toUpperCase payload.trustline.symbol ≠ "USDC") (.app .unsupportedAsset
    ("Only USDC is supported for escrow. Received: \"" ++ payload.trustline.symbol ++ "\""))
  external (tw.deployer payload)

namespace EscrowService

/-! ## Helpers -/

def validateAssetCode (assetCode : Option String) : Except Thrown Unit :=
  if Json.toUpperCase ((assetCode.filter (· ≠ "")).getD "USDC") = "USDC" then .ok ()
  else .error (.app .unsupportedAsset ("Unsupported asset: \"" ++ assetCode.getD "undefined" ++
    "\". Only USDC is accepted for escrow operations."))

def getNetworkPassphrase (config : EscrowConfig) : String :=
  if Json.toLowerCase config.network = "public" then "Public Global Stellar Network ; September 2015"
  else "Test SDF Network ; September 2015"

def defaultXlmAddress : String := "CDLZFC3SYJYDZT7K67VZ75HPJVIEUVNIXF47ZG2FB2RMQQVU2HHGCYSC"

def resolveTrustline (config : EscrowConfig) (assetCode : Option String) : Except Thrown Trustline :=
  match assetCode.filter (fun s => s ≠ "" ∧ s ≠ "XLM" ∧ s ≠ "native") with
  | none => .ok ⟨config.xlmAddress.getD defaultXlmAddress, "XLM"⟩
  | some code => do
    let usdcIssuer ← EscrowConfig.getOrThrow "TRUSTLESS_WORK_USDC_ISSUER" config.usdcIssuer
    pure ⟨usdcIssuer, code⟩

def buildP2PRoles (config : EscrowConfig) (sellerAddress buyerAddress : String) : Except Thrown MultiReleaseRoles := do
  let treasury ← EscrowConfig.getOrThrow "IKASH_TREASURY_ADDRESS" config.treasuryAddress
  let support ← EscrowConfig.getOrThrow "IKASH_SUPPORT_ADDRESS" config.supportAddress
  pure ⟨treasury, buyerAddress, treasury, sellerAddress, support⟩

/-- The only milestone of an escrow. -/
def milestone (amount : ℚ) (buyerAddress : String) : MultiReleaseMilestonePayload :=
  ⟨"P2P fiat-to-crypto exchange", amount, buyerAddress⟩

/-! ## `deployEscrowToChain` -/

/-- The parameters of an escrow. -/
structure EscrowParameters where
  sellerAddress : String
  buyerAddress : String
  amount : ℚ

/-- What a deployment takes. -/
structure DeployDto extends EscrowParameters where
  assetCode : Option String := none
  title : Option String := none

/-- The payload of a deployment by the backend, and the secret that signs it. -/
def deployRequest (config : EscrowConfig) (orderId : String) (dto : DeployDto) :
    Except Thrown (InitializeMultiReleaseEscrowPayload × String) := do
  validateAssetCode dto.assetCode
  let treasury ← EscrowConfig.getOrThrow "IKASH_TREASURY_ADDRESS" config.treasuryAddress
  let deployerSecret ← EscrowConfig.getOrThrow "IKASH_DEPLOYER_SECRET" config.deployerSecret
  let roles ← buildP2PRoles config dto.sellerAddress dto.buyerAddress
  let trustline ← resolveTrustline config dto.assetCode
  pure ({
    signer := treasury
    engagementId := orderId
    title := dto.title.getD ("iKash P2P Order " ++ orderId)
    description := "iKash P2P escrow for order " ++ orderId
    roles := roles
    platformFee := config.platformFee
    milestones := [milestone dto.amount dto.buyerAddress]
    trustline := trustline }, deployerSecret)

/-- The deployment up to the unsigned transaction, with the secret. -/
def deployBuild (tw : TrustlessWorkService χ) (config : EscrowConfig) (orderId : String) (dto : DeployDto) :
    Service χ (String × String) := do
  let request ← Svc.ofExcept (deployRequest config orderId dto)
  let unsignedTransaction ← tw.initializeEscrow request.1
  pure (unsignedTransaction, request.2)

/-- `signAndBroadcast`, and the contract it deployed. -/
def deployBroadcast (tw : TrustlessWorkService χ) (config : EscrowConfig) (unsignedTransaction secret : String) :
    Service χ String := do
  let signedXdr ← Svc.ofExcept (tw.sign unsignedTransaction secret (getNetworkPassphrase config))
  let result ← external (tw.sendTransaction signedXdr)
  Svc.throwIf (result.status ≠ "SUCCESS")
    (.app .escrowCreationFailed (result.message.getD "Escrow contract deployment failed"))
  Svc.orThrow (result.contractId.filter (· ≠ ""))
    (.app .escrowCreationFailed (result.message.getD "Escrow contract deployment failed"))

def deployFund (tw : TrustlessWorkService χ) (contractId : String) (dto : DeployDto) : Service χ String :=
  external (tw.fundEscrow ⟨contractId, dto.sellerAddress, dto.amount⟩)

structure DeployedEscrow where
  contractId : String
  unsignedFundTransaction : String

def deployEscrowToChain (tw : TrustlessWorkService χ) (config : EscrowConfig) (orderId : String) (dto : DeployDto) :
    Service χ DeployedEscrow := do
  let built ← deployBuild tw config orderId dto
  let contractId ← deployBroadcast tw config built.1 built.2
  let unsignedFundTransaction ← deployFund tw contractId dto
  pure ⟨contractId, unsignedFundTransaction⟩

/-! ## `open` -/

structure OpenEscrowDto extends EscrowParameters where
  orderId : String
  title : String
  assetCode : Option String := none

def OpenEscrowDto.deployDto (dto : OpenEscrowDto) : DeployDto :=
  { dto.toEscrowParameters with title := some dto.title, assetCode := dto.assetCode }

structure OpenEscrowResponse where
  escrowId : String
  contractId : String
  unsignedFundTransaction : String

/-- `EscrowRepository.findByOrder` -/
def escrowByOrderId (db : Db) (orderId : String) : Option EscrowOnChain :=
  db.escrows.findUnique? (fun e => some e.orderId) (uuid orderId)

theorem escrowByOrderId_eq_some {db : Db} {orderId : String} {e : EscrowOnChain} :
    escrowByOrderId db orderId = some e ↔ e ∈ db.escrows.rows ∧ e.orderId = uuid orderId := by
  unfold escrowByOrderId
  rw [Table.findUnique?_eq_some List.mem_cons_self, Option.some.injEq]

def findByOrder (orderId : String) : Service χ (Option EscrowOnChain) :=
  prisma (lookup (isUuid orderId) fun db => escrowByOrderId db orderId)

/-- A contract id that is there and not empty. -/
def contract? (e : EscrowOnChain) : Option String := e.contractId.filter (· ≠ "")

theorem contract?_eq_some {e : EscrowOnChain} {c : String} : contract? e = some c ↔ e.contractId = some c ∧ c ≠ "" := by
  unfold contract?
  rw [Option.filter_eq_some_iff, decide_eq_true_iff]

theorem contract?_ne_none {e : EscrowOnChain} {c : String} (hc : e.contractId = some c) (hne : c ≠ "") :
    contract? e ≠ none := by
  rw [contract?_eq_some.mpr ⟨hc, hne⟩]
  exact Option.some_ne_none c

/-- The row of the order, if it has no contract yet. -/
def findUndeployed (fault : Option Thrown) (orderId : String) : Service χ (Option EscrowOnChain) := do
  let existing ← faulty fault (findByOrder orderId)
  Svc.throwIf (existing.bind contract? ≠ none)
    (.app .escrowAlreadyExists "An escrow contract already exists for this order")
  pure existing

/-- The row that `open` and `initialize` create. -/
def newEscrow (freshId orderId : String) (dto : EscrowParameters) (amount : ℚ) (status : EscrowStatus) : EscrowOnChain where
  escrowId := freshId
  orderId := uuid orderId
  buyerAddress := some dto.buyerAddress
  sellerAddress := some dto.sellerAddress
  amount := some amount
  escrowStatus := status

def createRow (codec : AmountCodec) (freshId orderId : String) (dto : EscrowParameters) (status : EscrowStatus) :
    Tx EscrowOnChain := fun db =>
  match codec.decimalOfNumber dto.amount with
  | none => .error (.prisma .validation)
  | some amount => Prisma.escrowOnChain.create (newEscrow freshId orderId dto amount status) db

/-- The row that is there, or a new one. -/
def openCreate (codec : AmountCodec) (dto : OpenEscrowDto) (freshId : String) (fault : Option Thrown) :
    Option EscrowOnChain → Service χ EscrowOnChain
  | some escrow => pure escrow
  | none => faulty fault (prisma (createRow codec freshId dto.orderId dto.toEscrowParameters .initialized))

def storeContract (contractId : String) (e : EscrowOnChain) : EscrowOnChain :=
  { e with contractId := some contractId, escrowStatus := .initialized }

def openUpdate (escrowId contractId : String) (fault : Option Thrown) : Service χ EscrowOnChain :=
  faulty fault (prisma (Prisma.escrowOnChain.update escrowId (storeContract contractId)))

/-- The audit row of a new escrow. -/
def createdEntry (escrowId : String) (metadata : List (String × Json)) : AuditLog where
  action := .escrowCreated
  resourceType := "Escrow"
  resourceId := some escrowId
  result := .success
  metadata := metadata

def openAudit (dto : OpenEscrowDto) (isNew : Bool) (escrowId contractId : String) (fault : Option Thrown) :
    Service χ Unit :=
  if isNew then recordUnless fault
    (createdEntry escrowId [("orderId", .str dto.orderId), ("contractId", .str contractId)])
  else pure ()

/-- `EscrowService.open` -/
def openEscrow (tw : TrustlessWorkService χ) (config : EscrowConfig) (codec : AmountCodec) (dto : OpenEscrowDto)
    (freshId : String) (faults : DbFaults) : Service χ OpenEscrowResponse := do
  let existing ← findUndeployed faults.find dto.orderId
  let deployed ← deployEscrowToChain tw config dto.orderId dto.deployDto
  let escrow ← openCreate codec dto freshId faults.create existing
  let _ ← openUpdate escrow.escrowId deployed.contractId faults.update
  openAudit dto existing.isNone escrow.escrowId deployed.contractId faults.audit
  pure ⟨escrow.escrowId, deployed.contractId, deployed.unsignedFundTransaction⟩

/-! ## `initialize` -/

structure InitializeEscrowDto extends EscrowParameters where
  orderId : String
  signerAddress : String
  title : String
  assetCode : Option String := none

structure InitializeEscrowResponse where
  escrowId : String
  unsignedTransaction : String

/-- The payload of a deployment by the client. -/
def initializePayload (config : EscrowConfig) (dto : InitializeEscrowDto) :
    Except Thrown InitializeMultiReleaseEscrowPayload := do
  let roles ← buildP2PRoles config dto.sellerAddress dto.buyerAddress
  let trustline ← resolveTrustline config dto.assetCode
  pure {
    signer := dto.signerAddress
    engagementId := dto.orderId
    title := dto.title
    description := "iKash P2P escrow for order " ++ dto.orderId
    roles := roles
    platformFee := config.platformFee
    milestones := [milestone dto.amount dto.buyerAddress]
    trustline := trustline }

def initializeCheck (dto : InitializeEscrowDto) (fault : Option Thrown) : Service χ (Option EscrowOnChain) := do
  Svc.ofExcept (validateAssetCode dto.assetCode)
  findUndeployed fault dto.orderId

def initializeBuild (tw : TrustlessWorkService χ) (config : EscrowConfig) (dto : InitializeEscrowDto) :
    Service χ String := do
  let payload ← Svc.ofExcept (initializePayload config dto)
  tw.initializeEscrow payload

/-- The parameters of a row that was there before. -/
def reparametrise (dto : EscrowParameters) (amount : ℚ) (e : EscrowOnChain) : EscrowOnChain :=
  { e with buyerAddress := some dto.buyerAddress, sellerAddress := some dto.sellerAddress, amount := some amount }

def updateParameters (codec : AmountCodec) (escrowId : String) (dto : EscrowParameters) : Tx EscrowOnChain :=
  fun db =>
    match codec.decimalOfNumber dto.amount with
    | none => .error (.prisma .validation)
    | some amount => Prisma.escrowOnChain.update escrowId (reparametrise dto amount) db

/-- The row, created or updated. -/
def initializeStore (codec : AmountCodec) (dto : InitializeEscrowDto) (freshId : String) (faults : DbFaults) :
    Option EscrowOnChain → Service χ EscrowOnChain
  | none => faulty faults.create (prisma (createRow codec freshId dto.orderId dto.toEscrowParameters .pending))
  | some escrow => faulty faults.update (prisma (updateParameters codec escrow.escrowId dto.toEscrowParameters))

def initializeAudit (dto : InitializeEscrowDto) (isNew : Bool) (escrowId : String) (fault : Option Thrown) :
    Service χ Unit :=
  if isNew then recordUnless fault (createdEntry escrowId [("orderId", .str dto.orderId)]) else pure ()

/-- `EscrowService.initialize` -/
def initializeEscrow (tw : TrustlessWorkService χ) (config : EscrowConfig) (codec : AmountCodec)
    (dto : InitializeEscrowDto) (freshId : String) (faults : DbFaults) : Service χ InitializeEscrowResponse := do
  let _ ← initializeCheck dto faults.find
  let unsignedTransaction ← initializeBuild tw config dto
  let found ← faulty faults.findAgain (findByOrder dto.orderId)
  let escrow ← initializeStore codec dto freshId faults found
  initializeAudit dto found.isNone escrow.escrowId faults.audit
  pure ⟨escrow.escrowId, unsignedTransaction⟩

/-! ## `markFiatSent` -/

structure FiatSentDto where
  buyerAddress : String
  evidence : Option String := none

/-- The reading and the refusal of `markFiatSent`. -/
def fiatSentCheck (id : String) : Service χ EscrowOnChain := do
  let escrow ← getOrFail id
  Svc.throwIf (escrow.escrowStatus ∉ [.funded, .fiatSent]) (.app .escrowInvalidStatus
    ("Cannot mark fiat sent for escrow in status \"" ++ escrow.escrowStatus.text ++
      "\". Must be \"funded\" or \"fiat_sent\"."))
  pure escrow

def fiatSentPayload (dto : FiatSentDto) (escrow : EscrowOnChain) : ChangeMilestoneStatusPayload where
  contractId := escrow.contractId
  serviceProvider := dto.buyerAddress
  milestoneIndex := "0"
  newStatus := "completed"
  newEvidence := (dto.evidence.filter (· ≠ "")).getD "Fiat payment sent by buyer"

def markFiatSent (tw : TrustlessWorkService χ) (id : String) (dto : FiatSentDto) : Service χ InitializeEscrowResponse := do
  let escrow ← fiatSentCheck id
  let unsignedTransaction ← external (tw.changeMilestoneStatus (fiatSentPayload dto escrow))
  pure ⟨escrow.escrowId, unsignedTransaction⟩

/-! ## The CRUD operations -/

structure CreateEscrowDto where
  orderId : String
  txHashLock : Patch String := .undefined
  txHashRelease : Patch String := .undefined

def create (dto : CreateEscrowDto) (freshId : String) : Service χ EscrowOnChain := do
  let found ← findByOrder dto.orderId
  Svc.throwIf (found ≠ none) (.app .escrowAlreadyExists "An escrow already exists for this order")
  prisma (Prisma.escrowOnChain.create {
    escrowId := freshId
    orderId := uuid dto.orderId
    txHashLock := Prisma.nullableColumn none dto.txHashLock
    txHashRelease := Prisma.nullableColumn none dto.txHashRelease })

structure UpdateEscrowDto where
  orderId : Patch String := .undefined
  txHashLock : Patch String := .undefined
  txHashRelease : Patch String := .undefined

def updateData (dto : UpdateEscrowDto) (orderId : Option String) (e : EscrowOnChain) : EscrowOnChain := { e with
  orderId := orderId.getD e.orderId
  txHashLock := Prisma.nullableColumn e.txHashLock dto.txHashLock
  txHashRelease := Prisma.nullableColumn e.txHashRelease dto.txHashRelease }

def update (id : String) (dto : UpdateEscrowDto) : Service χ EscrowOnChain := do
  let orderId ← Svc.ofExcept (Prisma.given (fun s => some (uuid s)) dto.orderId)
  prisma (Prisma.escrowOnChain.update (uuid id) (updateData dto orderId))

def remove (id : String) : Service χ EscrowOnChain := prisma (Prisma.escrowOnChain.delete (uuid id))

/-! ## The checks -/

variable {w w' : World χ}

/-- A fault or a result. -/
theorem faulty_run {α : Type} (fault : Option Thrown) (m : Service χ α) (w : World χ) :
    (∃ t, fault = some t ∧ (faulty fault m).run w = (.error t, w)) ∨ fault = none ∧ (faulty fault m).run w = m.run w := by
  cases fault with
  | some t => exact Or.inl ⟨t, rfl, rfl⟩
  | none => exact Or.inr ⟨rfl, rfl⟩

theorem of_faulty_ok {α : Type} {fault : Option Thrown} {m : Service χ α} {a : α} {w w' : World χ}
    (h : (faulty fault m).run w = (.ok a, w')) : fault = none ∧ m.run w = (.ok a, w') := by
  cases fault with
  | some t => cases h
  | none => exact ⟨rfl, h⟩

/-- The row of an order is found, or the query fails. -/
theorem faulty_findByOrder_run (fault : Option Thrown) (orderId : String) (w : World χ) :
    (∃ t, (faulty fault (findByOrder orderId)).run w = (.error t, w)) ∨
      (faulty fault (findByOrder orderId)).run w = (.ok (escrowByOrderId w.db orderId), w) := by
  rcases faulty_run fault (findByOrder orderId) w with ⟨t, -, hrun⟩ | ⟨-, hrun⟩
  · exact Or.inl ⟨t, hrun⟩
  · rw [hrun]
    rcases prisma_lookup_cases (isUuid orderId) (fun db => escrowByOrderId db orderId) w with h | ⟨-, -, h⟩
    · exact Or.inr h
    · exact Or.inl ⟨_, h⟩

theorem of_findUndeployed_ok {fault : Option Thrown} {orderId : String} {existing : Option EscrowOnChain}
    (h : (findUndeployed fault orderId).run w = (.ok existing, w')) :
    w' = w ∧ existing = escrowByOrderId w.db orderId ∧ existing.bind contract? = none := by
  cases fault with
  | some t => cases h
  | none =>
    obtain ⟨_, w₁, h₁, hrest⟩ := Svc.of_run_bind_ok h
    obtain ⟨rfl, rfl⟩ := of_prisma_lookup_ok h₁
    obtain ⟨_, w₂, h₂, hpure⟩ := Svc.of_run_bind_ok hrest
    obtain ⟨hnone, rfl⟩ := Svc.of_run_throwIf_ok h₂
    cases hpure
    exact ⟨rfl, rfl, not_not.mp hnone⟩

theorem findUndeployed_state (fault : Option Thrown) (orderId : String) (w : World χ) :
    ((findUndeployed fault orderId).run w).2 = w := by
  have hmoves : Svc.Moves Eq (findUndeployed fault orderId : Service χ (Option EscrowOnChain)) := by
    refine Svc.Moves.bind Eq.trans ?_ fun e => ?_
    · cases fault with
      | some t => exact fun _ => rfl
      | none => exact prisma_lookup_moves (fun _ => rfl) _ _
    · exact Svc.Moves.bind Eq.trans (Svc.Moves.throwIf (fun _ => rfl) _ _) fun _ _ => rfl
  exact (hmoves w).symm

theorem initializeCheck_state (dto : InitializeEscrowDto) (fault : Option Thrown) (w : World χ) :
    ((initializeCheck dto fault).run w).2 = w := by
  unfold initializeCheck
  refine Svc.bind_ind (P := fun r => r.2 = w) (fun t w₁ h₁ => ?_) fun _ w₁ h₁ => ?_
  · rw [Svc.run_ofExcept] at h₁
    exact (congrArg Prod.snd h₁).symm
  · obtain ⟨-, rfl⟩ := Svc.of_run_ofExcept_ok h₁
    exact findUndeployed_state fault dto.orderId w₁

theorem of_initializeCheck_ok {dto : InitializeEscrowDto} {fault : Option Thrown} {existing : Option EscrowOnChain}
    (h : (initializeCheck dto fault).run w = (.ok existing, w')) :
    w' = w ∧ (escrowByOrderId w.db dto.orderId).bind contract? = none := by
  obtain ⟨_, w₁, h₁, h₂⟩ := Svc.of_run_bind_ok h
  obtain ⟨-, rfl⟩ := Svc.of_run_ofExcept_ok h₁
  obtain ⟨hw, rfl, hnone⟩ := of_findUndeployed_ok h₂
  exact ⟨hw, hnone⟩

end EscrowService

/-! ## `OrderService.create` -/

structure CreateOrderDto where
  offerId : String
  buyerId : String
  sellerId : String
  assetAmount : String
  fiatAmount : String
  orderStatus : Option OrderStatus := none
  /-- not checked: anything truthy goes through `new Date` -/
  expiresAt : Option Json := none
  sellerAddress : String
  buyerAddress : String
  assetCode : String
  title : Option String := none

namespace OrderService

open EscrowService

def deployDto (codec : AmountCodec) (orderId : String) (dto : CreateOrderDto) : DeployDto where
  sellerAddress := dto.sellerAddress
  buyerAddress := dto.buyerAddress
  amount := codec.number dto.assetAmount
  assetCode := some dto.assetCode
  title := some (dto.title.getD ("Order " ++ orderId))

/-- The columns of the new order. -/
def orderRow (codec : AmountCodec) (orderId : String) (dto : CreateOrderDto) : Except Thrown Order := do
  let assetAmount ← (codec.decimal dto.assetAmount).elim (.error (.prisma .validation)) .ok
  let fiatAmount ← (codec.decimal dto.fiatAmount).elim (.error (.prisma .validation)) .ok
  let expiresAt ← expiresAtColumn codec.toCodec none
    ((dto.expiresAt.filter (fun j => Json.truthy (some j))).elim .undefined .value)
  pure ⟨uuid orderId, uuid dto.offerId, uuid dto.buyerId, uuid dto.sellerId, assetAmount, fiatAmount,
    dto.orderStatus.getD .created, expiresAt⟩

/-- The row of the escrow that is created with the order. -/
def escrowRow (orderId freshId contractId : String) (dto : CreateOrderDto) (amount : ℚ) : EscrowOnChain where
  escrowId := freshId
  orderId := uuid orderId
  contractId := some contractId
  sellerAddress := some dto.sellerAddress
  buyerAddress := some dto.buyerAddress
  amount := some amount
  escrowStatus := .initialized

/-- `OrderRepository.create`: the order, its escrow, and the offer that is executed. -/
def createTx (codec : AmountCodec) (orderId freshId contractId : String) (dto : CreateOrderDto) : Tx Order := do
  let row ← StateT.lift (orderRow codec orderId dto)
  let order ← Prisma.order.create row
  let _ ← Prisma.escrowOnChain.create (escrowRow orderId freshId contractId dto order.assetAmount)
  let _ ← Prisma.offer.update (uuid dto.offerId) fun o => { o with executed := true }
  pure order

def createdEntry (orderId : String) (dto : CreateOrderDto) : AuditLog where
  userId := some (uuid dto.buyerId)
  action := .orderCreated
  resourceType := "Order"
  resourceId := some orderId
  result := .success
  metadata := [("offerId", .str dto.offerId), ("sellerId", .str dto.sellerId)]

structure OrderDetailResponse where
  order : Order
  escrowId : String
  contractId : String
  unsignedFundTransaction : String

def create (tw : TrustlessWorkService χ) (config : EscrowConfig) (codec : AmountCodec) (dto : CreateOrderDto)
    (orderId freshId : String) (faults : DbFaults) : Service χ OrderDetailResponse := do
  let deployed ← deployEscrowToChain tw config orderId (deployDto codec orderId dto)
  let order ← faulty faults.create (prisma (createTx codec orderId freshId deployed.contractId dto))
  recordUnless faults.audit (createdEntry orderId dto)
  pure ⟨order, freshId, deployed.contractId, deployed.unsignedFundTransaction⟩

end OrderService

end IKash
