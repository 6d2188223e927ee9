import IKash.Order
import IKash.Users

/-!
# Offers and payment methods

`OfferService` and `PaymentMethodsService`. Neither takes a caller: what is written is what the body says. The table that
joins offers and payment methods is left out, and so are the lists.
-/

namespace IKash

open Lib

variable {χ : Type}

/-! ## `OfferService` -/

structure CreateOfferDto where
  creatorId : String
  type : OfferType
  assetCode : String
  price : String
  minAmount : String
  maxAmount : String
  status : Patch OfferStatus := .undefined

structure UpdateOfferDto where
  creatorId : Patch String := .undefined
  type : Patch OfferType := .undefined
  assetCode : Patch String := .undefined
  price : Patch String := .undefined
  minAmount : Patch String := .undefined
  maxAmount : Patch String := .undefined
  status : Patch OfferStatus := .undefined
  /-- no column -/
  paymentMethodIds : Patch (List String) := .undefined

namespace OfferService

/-- The row of `create(dto)`. -/
def createData (codec : Codec) (freshId : String) (dto : CreateOfferDto) : Except Thrown Offer := do
  let price ← (codec.decimal dto.price).elim (.error (.prisma .validation)) .ok
  let minAmount ← (codec.decimal dto.minAmount).elim (.error (.prisma .validation)) .ok
  let maxAmount ← (codec.decimal dto.maxAmount).elim (.error (.prisma .validation)) .ok
  let status ← Prisma.column .active some dto.status
  pure {
    offerId := freshId
    creatorId := uuid dto.creatorId
    type := dto.type
    assetCode := dto.assetCode
    price := price
    minAmount := minAmount
    maxAmount := maxAmount
    status := status }

/-- The columns of `update(id, dto)`. -/
def updateData (codec : Codec) (dto : UpdateOfferDto) : Except Thrown (Offer → Offer) := do
  let creatorId ← Prisma.given (fun s => some (uuid s)) dto.creatorId
  let type ← Prisma.given some dto.type
  let assetCode ← Prisma.given some dto.assetCode
  let price ← Prisma.given codec.decimal dto.price
  let minAmount ← Prisma.given codec.decimal dto.minAmount
  let maxAmount ← Prisma.given codec.decimal dto.maxAmount
  let status ← Prisma.given some dto.status
  let _ ← if dto.paymentMethodIds = .undefined then Except.ok () else .error (.prisma .validation)
  pure fun o => { o with
    creatorId := creatorId.getD o.creatorId
    type := type.getD o.type
    assetCode := assetCode.getD o.assetCode
    price := price.getD o.price
    minAmount := minAmount.getD o.minAmount
    maxAmount := maxAmount.getD o.maxAmount
    status := status.getD o.status }

def offerEntry (action : AuditAction) (id : String) (o : Offer) : AuditLog where
  userId := some o.creatorId
  action := action
  resourceType := "Offer"
  resourceId := some id
  result := .success

def create (codec : Codec) (dto : CreateOfferDto) (freshId : String) : Service χ Offer := do
  let row ← Svc.ofExcept (createData codec freshId dto)
  let created ← prisma (Prisma.offer.create row)
  AuditLogService.create { offerEntry .offerCreated created.offerId created with
    metadata := [("type", .str created.type.text), ("assetCode", .str created.assetCode)] }
  pure created

def update (codec : Codec) (id : String) (dto : UpdateOfferDto) : Service χ Offer := do
  let data ← Svc.ofExcept (updateData codec dto)
  let updated ← prisma (Prisma.offer.update (uuid id) data)
  AuditLogService.create (offerEntry .offerUpdated id updated)
  pure updated

def remove (id : String) : Service χ Offer := do
  let removed ← prisma (Prisma.offer.delete (uuid id))
  AuditLogService.create (offerEntry .offerCancelled id removed)
  pure removed

end OfferService

/-! ## `PaymentMethodsService` -/

structure CreatePaymentMethodDto where
  userId : String
  providerId : String
  accountIdentifier : String
  identificationNumber : Patch String := .undefined
  beneficiaryName : Patch String := .undefined
  description : Patch String := .undefined

/-- `userId` is not read. -/
structure UpdatePaymentMethodDto where
  userId : Patch String := .undefined
  providerId : Patch String := .undefined
  accountIdentifier : Patch String := .undefined
  identificationNumber : Patch String := .undefined
  beneficiaryName : Patch String := .undefined
  description : Patch String := .undefined

/-- `dto.field ?? old` -/
def Patch.orOld {α : Type} (old : α) : Patch α → α
  | .value a => a
  | _ => old

namespace PaymentMethodsService

/-- The provider, if the account identifier is one of its kind. -/
def checkProvider (validator : PaymentMethodValidatorService) (providerId accountIdentifier : String) :
    Service χ PaymentProvider := do
  let provider ← prisma (Prisma.paymentProvider.findUnique (uuid providerId))
  let provider ← Svc.orThrow provider (.app .paymentProviderNotFound "Payment provider not found")
  Svc.ofExcept (validator.validate (UsersService.providerInfo provider) accountIdentifier)
  pure provider

def methodEntry (action : AuditAction) (id userId : String) : AuditLog where
  userId := some userId
  action := action
  resourceType := "PaymentMethod"
  resourceId := some id
  result := .success

def createData (freshId : String) (dto : CreatePaymentMethodDto) (provider : PaymentProvider) : PaymentMethod where
  paymentId := freshId
  userId := uuid dto.userId
  providerId := uuid dto.providerId
  type := provider.type
  accountIdentifier := dto.accountIdentifier
  identificationNumber := Prisma.nullableColumn none dto.identificationNumber
  beneficiaryName := Prisma.nullableColumn none dto.beneficiaryName
  description := Prisma.nullableColumn none dto.description

/-- Nothing compares `dto.userId` with a caller. -/
def create (validator : PaymentMethodValidatorService) (dto : CreatePaymentMethodDto) (freshId : String) :
    Service χ PaymentMethod := do
  let provider ← checkProvider validator dto.providerId dto.accountIdentifier
  let created ← prisma (Prisma.paymentMethod.create (createData freshId dto provider))
  AuditLogService.create (methodEntry .paymentMethodCreated created.paymentId (uuid dto.userId))
  pure created

def updateData (dto : UpdatePaymentMethodDto) (providerId accountIdentifier : String) (provider : PaymentProvider)
    (m : PaymentMethod) : PaymentMethod := { m with
  providerId := uuid providerId
  type := provider.type
  accountIdentifier := accountIdentifier
  identificationNumber := Prisma.nullableColumn m.identificationNumber dto.identificationNumber
  beneficiaryName := Prisma.nullableColumn m.beneficiaryName dto.beneficiaryName
  description := Prisma.nullableColumn m.description dto.description }

def update (validator : PaymentMethodValidatorService) (id : String) (dto : UpdatePaymentMethodDto) :
    Service χ PaymentMethod := do
  let existing ← prisma (Prisma.paymentMethod.findUnique (uuid id))
  let existing ← Svc.orThrow existing (.app .paymentMethodNotFound ("Payment method " ++ id ++ " not found"))
  let provider ← checkProvider validator (dto.providerId.orOld existing.providerId)
    (dto.accountIdentifier.orOld existing.accountIdentifier)
  let updated ← prisma (Prisma.paymentMethod.update (uuid id) (updateData dto
    (dto.providerId.orOld existing.providerId) (dto.accountIdentifier.orOld existing.accountIdentifier) provider))
  AuditLogService.create (methodEntry .paymentMethodUpdated id updated.userId)
  pure updated

def remove (id : String) : Service χ PaymentMethod := do
  let removed ← prisma (Prisma.paymentMethod.delete (uuid id))
  AuditLogService.create (methodEntry .paymentMethodDeleted id removed.userId)
  pure removed

end PaymentMethodsService

end IKash
