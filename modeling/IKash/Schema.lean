import IKash.Json
import IKash.Lib.Table
import Mathlib.Data.Rat.Defs

/-!
# The database schema

The rows of `schema.prisma` with the columns the modelled services read or write. A `Tables` value is a choice of rows
in which primary keys and unique columns are respected (`Lib.Table`); a `Db` is one in which every foreign key has its
row, so a database that PostgreSQL would not hold cannot be built.
-/

namespace IKash

open Lib

/-! ## Enumerations -/

inductive KycStatus where
  | pending | approved | rejected | notStarted | inProgress | inReview | expired | kycExpired | abandoned | resubmitted
deriving DecidableEq, Repr

inductive OrderStatus where
  | created | locked | released | cancelled | expired | disputed
deriving DecidableEq, Repr

inductive EscrowStatus where
  | pending | initialized | funded | fiatSent | released | disputed | resolved
deriving DecidableEq, Repr

inductive OfferType where
  | buy | sell
deriving DecidableEq, Repr

inductive OfferStatus where
  | active | paused | closed
deriving DecidableEq, Repr

inductive AppRole where
  | user | admin | support
deriving DecidableEq, Repr

inductive PaymentProviderType where
  | mobile | platform | bank
deriving DecidableEq, Repr

/-- The text of a `kyc_status`. -/
def KycStatus.text : KycStatus → String
  | .pending => "pending"
  | .approved => "approved"
  | .rejected => "rejected"
  | .notStarted => "not_started"
  | .inProgress => "in_progress"
  | .inReview => "in_review"
  | .expired => "expired"
  | .kycExpired => "kyc_expired"
  | .abandoned => "abandoned"
  | .resubmitted => "resubmitted"

def KycStatus.all : List KycStatus :=
  [.pending, .approved, .rejected, .notStarted, .inProgress, .inReview, .expired, .kycExpired, .abandoned, .resubmitted]

/-- The `kyc_status` with the text, if it is one. -/
def KycStatus.ofText? (s : String) : Option KycStatus := KycStatus.all.find? (fun k => k.text = s)

theorem KycStatus.ofText?_text {s : String} {status : KycStatus} (h : KycStatus.ofText? s = some status) :
    status.text = s := by
  have := List.find?_some h
  exact of_decide_eq_true this

/-- The text of an `order_status`. -/
def OrderStatus.text : OrderStatus → String
  | .created => "created"
  | .locked => "locked"
  | .released => "released"
  | .cancelled => "cancelled"
  | .expired => "expired"
  | .disputed => "disputed"

/-- The text of an `escrow_status`. -/
def EscrowStatus.text : EscrowStatus → String
  | .pending => "pending"
  | .initialized => "initialized"
  | .funded => "funded"
  | .fiatSent => "fiat_sent"
  | .released => "released"
  | .disputed => "disputed"
  | .resolved => "resolved"

/-- The text of an `offer_type`. -/
def OfferType.text : OfferType → String
  | .buy => "buy"
  | .sell => "sell"

/-- The text of a `payment_provider_type`. -/
def PaymentProviderType.text : PaymentProviderType → String
  | .mobile => "MOBILE"
  | .platform => "PLATFORM"
  | .bank => "BANK"

/-- The names of `AuditAction` the modelled services use. -/
inductive AuditAction where
  | userLoginSuccess | userLoginFailure | userDataExported | userDataDeleted
  | paymentMethodCreated | paymentMethodUpdated | paymentMethodDeleted
  | offerCreated | offerUpdated | offerCancelled
  | orderCreated | orderCancelled | orderExpired
  | escrowCreated | escrowFunded | escrowReleased | escrowRefunded | escrowCancelled | escrowDisputed
  | kycStatusUpdated
deriving DecidableEq, Repr

inductive AuditResult where
  | success | failure
deriving DecidableEq, Repr

/-! ## Rows -/

structure AppUser where
  userId : String
  publicKey : String
  aliasName : Option String := none
  username : Option String := none
  kycStatus : KycStatus := .pending
  role : AppRole := .user
  kycUpdatedAt : Option ℤ := none
  createdAt : ℤ := 0
  currentNonce : Option String := none
  email : Option String := none
  profileImageUrl : Option String := none
  notificationsEnabled : Bool := true
  pendingAccountInfo : Bool := true
  preferredCurrency : Option String := none
  bio : Option String := none
  securityUpdates : Bool := true
  deletedAt : Option ℤ := none
deriving DecidableEq, Repr

structure Offer where
  offerId : String
  creatorId : String
  type : OfferType := .sell
  assetCode : String := ""
  price : ℚ := 0
  minAmount : ℚ := 0
  maxAmount : ℚ := 0
  status : OfferStatus := .active
  executed : Bool := false
deriving DecidableEq, Repr

structure Order where
  orderId : String
  offerId : String
  buyerId : String
  sellerId : String
  assetAmount : ℚ := 0
  fiatAmount : ℚ := 0
  orderStatus : OrderStatus := .created
  expiresAt : Option ℤ := none
deriving DecidableEq, Repr

structure EscrowOnChain where
  escrowId : String
  orderId : String
  txHashLock : Option String := none
  txHashRelease : Option String := none
  contractId : Option String := none
  escrowStatus : EscrowStatus := .pending
  amount : Option ℚ := none
  buyerAddress : Option String := none
  sellerAddress : Option String := none
  evidenceUrl : Option String := none
deriving DecidableEq, Repr

structure ChatMessage where
  messageId : String
  orderId : String
  senderId : String
  content : String
deriving DecidableEq, Repr

structure PaymentProvider where
  providerId : String
  type : PaymentProviderType
  countryCode : Option String := none
  /-- `metadata.code` -/
  code : Option String := none
deriving DecidableEq, Repr

structure PaymentMethod where
  paymentId : String
  userId : String
  providerId : String
  type : PaymentProviderType
  accountIdentifier : String
  beneficiaryName : Option String := none
  identificationNumber : Option String := none
  description : Option String := none
deriving DecidableEq, Repr

structure AuthChallenge where
  publicKey : String
  challenge : String
  expiresAt : ℤ
  usedAt : Option ℤ := none
  createdAt : ℤ := 0
deriving DecidableEq, Repr

structure Waitlist where
  email : String
deriving DecidableEq, Repr

structure AuditLog where
  userId : Option String := none
  action : AuditAction
  resourceType : String
  resourceId : Option String := none
  result : AuditResult
  ipAddress : Option String := none
  userAgent : Option String := none
  metadata : List (String × Json) := []

instance : Keyed AppUser String where
  key := AppUser.userId
  uniques := [fun u => some u.publicKey, AppUser.aliasName]

instance : Keyed Offer String where
  key := Offer.offerId
  uniques := []

instance : Keyed Order String where
  key := Order.orderId
  uniques := []

instance : Keyed EscrowOnChain String where
  key := EscrowOnChain.escrowId
  uniques := [fun e => some e.orderId, EscrowOnChain.contractId]

instance : Keyed ChatMessage String where
  key := ChatMessage.messageId
  uniques := []

instance : Keyed PaymentProvider String where
  key := PaymentProvider.providerId
  uniques := []

instance : Keyed PaymentMethod String where
  key := PaymentMethod.paymentId
  uniques := []

instance : Keyed AuthChallenge String where
  key := AuthChallenge.publicKey
  uniques := []

instance : Keyed Waitlist String where
  key := Waitlist.email
  uniques := []

/-! ## The database -/

structure Tables where
  users : Table AppUser := Table.empty
  offers : Table Offer := Table.empty
  orders : Table Order := Table.empty
  escrows : Table EscrowOnChain := Table.empty
  chatMessages : Table ChatMessage := Table.empty
  paymentProviders : Table PaymentProvider := Table.empty
  paymentMethods : Table PaymentMethod := Table.empty
  challenges : Table AuthChallenge := Table.empty
  waitlist : Table Waitlist := Table.empty
  auditLogs : List AuditLog := []

/-- Every foreign key has its row. -/
structure Tables.Refs (t : Tables) : Prop where
  offerCreator : ∀ o ∈ t.offers.rows, t.users.Has o.creatorId
  orderOffer : ∀ o ∈ t.orders.rows, t.offers.Has o.offerId
  orderBuyer : ∀ o ∈ t.orders.rows, t.users.Has o.buyerId
  orderSeller : ∀ o ∈ t.orders.rows, t.users.Has o.sellerId
  escrowOrder : ∀ e ∈ t.escrows.rows, t.orders.Has e.orderId
  messageOrder : ∀ m ∈ t.chatMessages.rows, t.orders.Has m.orderId
  messageSender : ∀ m ∈ t.chatMessages.rows, t.users.Has m.senderId
  methodUser : ∀ m ∈ t.paymentMethods.rows, t.users.Has m.userId
  methodProvider : ∀ m ∈ t.paymentMethods.rows, t.paymentProviders.Has m.providerId
  auditUser : ∀ a ∈ t.auditLogs, ∀ u ∈ a.userId, t.users.Has u

theorem Tables.refs_iff (t : Tables) : t.Refs ↔
    (∀ o ∈ t.offers.rows, t.users.Has o.creatorId) ∧
    (∀ o ∈ t.orders.rows, t.offers.Has o.offerId ∧ t.users.Has o.buyerId ∧ t.users.Has o.sellerId) ∧
    (∀ e ∈ t.escrows.rows, t.orders.Has e.orderId) ∧
    (∀ m ∈ t.chatMessages.rows, t.orders.Has m.orderId ∧ t.users.Has m.senderId) ∧
    (∀ m ∈ t.paymentMethods.rows, t.users.Has m.userId ∧ t.paymentProviders.Has m.providerId) ∧
    (∀ a ∈ t.auditLogs, ∀ u ∈ a.userId, t.users.Has u) := by
  constructor
  · rintro ⟨h₁, h₂, h₃, h₄, h₅, h₆, h₇, h₈, h₉, h₀⟩
    exact ⟨h₁, fun o ho => ⟨h₂ o ho, h₃ o ho, h₄ o ho⟩, h₅, fun m hm => ⟨h₆ m hm, h₇ m hm⟩,
      fun m hm => ⟨h₈ m hm, h₉ m hm⟩, h₀⟩
  · rintro ⟨h₁, h₂, h₃, h₄, h₅, h₆⟩
    exact ⟨h₁, fun o ho => (h₂ o ho).1, fun o ho => (h₂ o ho).2.1, fun o ho => (h₂ o ho).2.2, h₃,
      fun m hm => (h₄ m hm).1, fun m hm => (h₄ m hm).2, fun m hm => (h₅ m hm).1, fun m hm => (h₅ m hm).2, h₆⟩

instance (t : Tables) : Decidable t.Refs := decidable_of_iff' _ t.refs_iff

structure Db extends Tables where
  refs : toTables.Refs

end IKash
