import IKash.EscrowRequests
import IKash.Offers
import IKash.OrderController
import IKash.Accounts

/-!
# The requests about offers, orders, escrows and payment methods

`OfferController`, `OrderController`, `EscrowController` and `PaymentMethodsController` as one machine, with
`ResourceOwnerGuard`. A request comes at some time, with or without an access token. Guards run first, then the
interceptor of a file, then the validation pipe (`none` is a body that it refuses), then the handler. What is answered is
left out, and so are the `GET` routes, which only read.

- `resourceOwner_order`: the guard on orders is `orderOwner`;
- `of_resourceOwner_ok`: whom the guard lets through.
-/

namespace IKash

open Lib EscrowService

variable {χ : Type}

/-! ## `ResourceOwnerGuard` -/

inductive ResourceType where
  | order | escrow | chatMessage | paymentMethod
deriving DecidableEq, Repr

/-- `NOT_FOUND_ERROR_BY_TYPE` -/
def ResourceType.notFound : ResourceType → ErrorCode
  | .order => .orderNotFound
  | .escrow => .escrowNotFound
  | .chatMessage => .chatMessageNotFound
  | .paymentMethod => .paymentMethodNotFound

def parties (o : Order) : List String := [o.buyerId, o.sellerId]

def resolveOwnerIds (db : Db) : ResourceType → String → Option (List String)
  | .order, id => (db.orders.find? (uuid id)).map parties
  | .escrow, id => (db.escrows.find? (uuid id)).bind fun e => (db.orders.find? e.orderId).map parties
  | .chatMessage, id =>
    (db.chatMessages.find? (uuid id)).bind fun m => (db.orders.find? m.orderId).map fun o => m.senderId :: parties o
  | .paymentMethod, id => (db.paymentMethods.find? (uuid id)).map fun m => [m.userId]

/-- `ResourceOwnerGuard`; the id is a parameter of the path. -/
def resourceOwner (type : ResourceType) (user : AuthUser) (id : String) : Service χ Unit := do
  Svc.throwIf (user.userId = "") (.app .unauthorizedAction "Authentication required")
  Svc.throwIf (id = "") (.app .validationError "Missing required parameter: id")
  let requester ← prisma (Prisma.appUser.findUnique (uuid user.userId))
  if ∃ u ∈ requester, u.role ∈ privilegedRoles then pure ()
  else do
    let ownerIds ← prisma (lookup (isUuid id) fun db => resolveOwnerIds db type id)
    let ownerIds ← Svc.orThrow ownerIds (.app type.notFound "Resource not found")
    Svc.throwIf (user.userId ∉ ownerIds) (.app .unauthorizedAction "You do not have access to this resource")

/-- A privileged user, or one of the owners. -/
def MayAccess (db : Db) (type : ResourceType) (user : AuthUser) (id : String) : Prop :=
  Privileged db user ∨ ∃ owners, resolveOwnerIds db type id = some owners ∧ user.userId ∈ owners

section Guard

variable {w w' : World χ} {type : ResourceType} {user : AuthUser} {id : String} {u : Unit}

/-- A path always gives an id. -/
theorem resourceOwner_order (h : id ≠ "") : (resourceOwner .order user id : Service χ Unit) = orderOwner user id := by
  funext w
  show (resourceOwner .order user id).run w = (orderOwner user id).run w
  unfold resourceOwner orderOwner
  by_cases huser : user.userId = ""
  · rw [Svc.run_bind_error (Svc.run_throwIf_pos huser _ _), Svc.run_bind_error (Svc.run_throwIf_pos huser _ _)]
  · rw [Svc.run_bind_ok (Svc.run_throwIf_neg huser _ _), Svc.run_bind_ok (Svc.run_throwIf_neg huser _ _),
      Svc.run_bind_ok (Svc.run_throwIf_neg h _ _)]
    refine Svc.run_bind_congr rfl fun requester w₁ _ => ?_
    by_cases hpriv : ∃ u ∈ requester, u.role ∈ privilegedRoles
    · rw [if_pos hpriv, if_pos hpriv]
    rw [if_neg hpriv, if_neg hpriv]
    rw [show isUuid id = Prisma.order.accepts (uuid id) from (isUuid_uuid id).symm]
    refine (prisma_lookup_map _ (fun db => (Prisma.order.get db.toTables).find? (uuid id)) parties _ w₁).trans ?_
    exact Svc.run_bind_congr rfl fun o w₂ _ => by cases o <;> rfl

theorem resourceOwner_state (type : ResourceType) (user : AuthUser) (id : String) (w : World χ) :
    ((resourceOwner type user id).run w).2 = w := by
  have hmoves : Svc.Moves Eq (resourceOwner type user id : Service χ Unit) := by
    refine Svc.Moves.bind Eq.trans (Svc.Moves.throwIf (fun _ => rfl) _ _) fun _ => ?_
    refine Svc.Moves.bind Eq.trans (Svc.Moves.throwIf (fun _ => rfl) _ _) fun _ => ?_
    refine Svc.Moves.bind Eq.trans (prisma_findUnique_moves (fun _ => rfl) _ _) fun requester => ?_
    split
    · exact fun _ => rfl
    · refine Svc.Moves.bind Eq.trans (prisma_lookup_moves (fun _ => rfl) _ _) fun owners => ?_
      exact Svc.Moves.bind Eq.trans (Svc.Moves.orThrow (fun _ => rfl) owners _) fun _ =>
        Svc.Moves.throwIf (fun _ => rfl) _ _
  exact (hmoves w).symm

theorem of_resourceOwner_ok (h : (resourceOwner type user id).run w = (.ok u, w')) : MayAccess w.db type user id := by
  unfold resourceOwner at h
  obtain ⟨_, w₁, h₁, hrest⟩ := Svc.of_run_bind_ok h
  obtain ⟨-, rfl⟩ := Svc.of_run_throwIf_ok h₁
  obtain ⟨_, w₂, h₂, hrest₂⟩ := Svc.of_run_bind_ok hrest
  obtain ⟨-, rfl⟩ := Svc.of_run_throwIf_ok h₂
  obtain ⟨requester, w₃, h₃, hrest₃⟩ := Svc.of_run_bind_ok hrest₂
  obtain ⟨rfl, rfl⟩ := of_prisma_findUnique_ok h₃
  split at hrest₃
  · rename_i hpriv
    exact Or.inl hpriv
  · obtain ⟨found, w₄, h₄, hrest₄⟩ := Svc.of_run_bind_ok hrest₃
    obtain ⟨rfl, rfl⟩ := of_prisma_lookup_ok h₄
    obtain ⟨owners, w₅, h₅, hrest₅⟩ := Svc.of_run_bind_ok hrest₄
    obtain ⟨hsome, rfl⟩ := Svc.of_run_orThrow_ok h₅
    obtain ⟨hmem, -⟩ := Svc.of_run_throwIf_ok hrest₅
    exact Or.inr ⟨owners, hsome, not_not.mp hmem⟩

end Guard

/-! ## The routes -/

/-- Trustless Work and the file storage, the settings, and the rules for account identifiers. -/
structure MarketEnv (χ : Type) where
  tw : ReleasingWork χ
  config : EscrowConfig
  codec : AmountCodec
  mockProfileUpload : Bool := false
  paymentMethodValidator : PaymentMethodValidatorService := {}

inductive MarketRoute where
  /-- `POST offers` -/
  | createOffer (body : Option CreateOfferDto) (freshId : String)
  /-- `PATCH offers/:id` -/
  | updateOffer (id : String) (body : Option UpdateOfferDto)
  /-- `DELETE offers/:id` -/
  | removeOffer (id : String)
  /-- `POST orders` -/
  | createOrder (body : Option CreateOrderDto) (orderId freshId : String) (faults : DbFaults)
  /-- `POST orders/:id/cancel`, `PATCH orders/:id` and `DELETE orders/:id` -/
  | order (req : OrderRequest)
  /-- `POST escrows/open` -/
  | openEscrow (body : Option OpenEscrowDto) (freshId : String) (faults : DbFaults)
  /-- `POST escrows/initialize` -/
  | initializeEscrow (body : Option InitializeEscrowDto) (freshId : String) (faults : DbFaults)
  /-- `POST escrows/fund` -/
  | fund (body : Option FundEscrowDto)
  /-- `POST escrows/release` -/
  | release (body : Option ReleaseEscrowDto)
  /-- `POST escrows/sync` -/
  | sync (body : Option SyncEscrowDto)
  /-- `POST escrows/:id/fiat-sent` -/
  | markFiatSent (id : String) (body : Option FiatSentDto)
  /-- `POST escrows/:id/evidence` -/
  | uploadEvidence (id : String) (file : Option UploadFileInput)
  /-- `POST escrows` -/
  | createEscrow (body : Option CreateEscrowDto) (freshId : String)
  /-- `PATCH escrows/:id` -/
  | updateEscrow (id : String) (body : Option UpdateEscrowDto)
  /-- `DELETE escrows/:id` -/
  | removeEscrow (id : String)
  /-- `POST payment-methods` -/
  | createPaymentMethod (body : Option CreatePaymentMethodDto) (freshId : String)
  /-- `PATCH payment-methods/:id` -/
  | updatePaymentMethod (id : String) (body : Option UpdatePaymentMethodDto)
  /-- `DELETE payment-methods/:id` -/
  | removePaymentMethod (id : String)

structure MarketRequest where
  time : ℤ
  bearer : Option Token := none
  route : MarketRoute

/-- The validation pipe. -/
def parsed {β : Type} (body : Option β) : Service χ β := Svc.orThrow body (.http 400 "Bad Request")

/-- The limit of the `FileInterceptor`. -/
def interceptEvidence (file : Option UploadFileInput) : Service χ Unit :=
  Svc.throwIf (∃ f ∈ file.toList, 10 * 1024 * 1024 < f.size) (.http 413 "File too large")

/-- The id in the path. -/
def OrderRequest.id : OrderRequest → String
  | .cancel id => id
  | .update id _ => id
  | .remove id => id

namespace OfferController

def create (env : MarketEnv χ) (user : AuthUser) (body : Option CreateOfferDto) (freshId : String) : Service χ Unit := do
  kycVerified user
  let dto ← parsed body
  Svc.throwIf (dto.creatorId ≠ user.userId)
    (.app .unauthorizedAction "You can only create offers for yourself")
  let _ ← OfferService.create env.codec.toCodec dto freshId
  pure ()

/-- Nothing compares the offer's creator with the user. -/
def update (env : MarketEnv χ) (user : AuthUser) (id : String) (body : Option UpdateOfferDto) : Service χ Unit := do
  kycVerified user
  let dto ← parsed body
  let _ ← OfferService.update env.codec.toCodec id dto
  pure ()

/-- Nothing compares the offer's creator with the user. -/
def remove (user : AuthUser) (id : String) : Service χ Unit := do
  kycVerified user
  let _ ← OfferService.remove id
  pure ()

end OfferController

def OrderController.create (env : MarketEnv χ) (user : AuthUser) (body : Option CreateOrderDto) (orderId freshId : String)
    (faults : DbFaults) : Service χ Unit := do
  kycVerified user
  let dto ← parsed body
  Svc.throwIf (dto.buyerId ≠ user.userId ∧ dto.sellerId ≠ user.userId)
    (.app .unauthorizedAction "You can only create an order where you are the buyer or the seller")
  let _ ← OrderService.create env.tw.toTrustlessWorkService env.config env.codec dto orderId freshId faults
  pure ()

/-- The route handlers with their guards. -/
def MarketRoute.handle (env : MarketEnv χ) (bearer : Option Token) : MarketRoute → Service χ Unit
  | .createOffer body freshId => do
    let user ← jwtAuth env.mockProfileUpload bearer none
    OfferController.create env user body freshId
  | .updateOffer id body => do
    let user ← jwtAuth env.mockProfileUpload bearer (some id)
    OfferController.update env user id body
  | .removeOffer id => do
    let user ← jwtAuth env.mockProfileUpload bearer (some id)
    OfferController.remove user id
  | .createOrder body orderId freshId faults => do
    let user ← jwtAuth env.mockProfileUpload bearer none
    OrderController.create env user body orderId freshId faults
  | .order req => do
    let user ← jwtAuth env.mockProfileUpload bearer (some req.id)
    let _ ← OrderController.handle env.codec.toCodec user req
    pure ()
  | .openEscrow body freshId faults => do
    let dto ← parsed body
    let _ ← EscrowService.openEscrow env.tw.toTrustlessWorkService env.config env.codec dto freshId faults
    pure ()
  | .initializeEscrow body freshId faults => do
    let dto ← parsed body
    let _ ← EscrowService.initializeEscrow env.tw.toTrustlessWorkService env.config env.codec dto freshId faults
    pure ()
  | .fund body => do
    let dto ← parsed body
    let _ ← EscrowService.fund env.tw.toTrustlessWorkService dto
    pure ()
  | .release body => do
    let dto ← parsed body
    let _ ← EscrowService.release env.tw env.config dto
    pure ()
  | .sync body => do
    let dto ← parsed body
    let _ ← EscrowService.syncTransaction env.tw.toTrustlessWork dto
    pure ()
  | .markFiatSent id body => do
    let user ← jwtAuth env.mockProfileUpload bearer (some id)
    resourceOwner .escrow user id
    let dto ← parsed body
    let _ ← EscrowService.markFiatSent env.tw.toTrustlessWorkService id dto
    pure ()
  | .uploadEvidence id file => do
    let user ← jwtAuth env.mockProfileUpload bearer (some id)
    resourceOwner .escrow user id
    interceptEvidence file
    let _ ← EscrowService.uploadEvidence env.tw id file
    pure ()
  | .createEscrow body freshId => do
    let dto ← parsed body
    let _ ← EscrowService.create dto freshId
    pure ()
  | .updateEscrow id body => do
    let user ← jwtAuth env.mockProfileUpload bearer (some id)
    resourceOwner .escrow user id
    let dto ← parsed body
    let _ ← EscrowService.update id dto
    pure ()
  | .removeEscrow id => do
    let user ← jwtAuth env.mockProfileUpload bearer (some id)
    resourceOwner .escrow user id
    let _ ← EscrowService.remove id
    pure ()
  | .createPaymentMethod body freshId => do
    let dto ← parsed body
    let _ ← PaymentMethodsService.create env.paymentMethodValidator dto freshId
    pure ()
  | .updatePaymentMethod id body => do
    let user ← jwtAuth env.mockProfileUpload bearer (some id)
    resourceOwner .paymentMethod user id
    let dto ← parsed body
    let _ ← PaymentMethodsService.update env.paymentMethodValidator id dto
    pure ()
  | .removePaymentMethod id => do
    let user ← jwtAuth env.mockProfileUpload bearer (some id)
    resourceOwner .paymentMethod user id
    let _ ← PaymentMethodsService.remove id
    pure ()

/-- Runs of requests to the four controllers, from any callers. -/
def market (env : MarketEnv χ) : Machine (World χ) MarketRequest (Except Thrown Unit) where
  step w req := (req.route.handle env req.bearer).run (w.at req.time)

end IKash
