import IKash.Auth
import IKash.PaymentMethodValidator

/-!
# `UsersService`

The accounts: creation, setup, profile, picture, export and erasure. A body is a `Patch` for each optional field of its
DTO; `{ ...dto }` becomes a function on rows (`updateData`, `setupData`, `createData`), which Prisma refuses or not
before it looks for the row. Ids of new rows are part of the request.

- `UsersRepository.update_cases`, `UsersService.create_cases`, `UsersService.update_cases`: what they do to the accounts;
- `setupAccount_subject`: for which account the token of a setup is.
-/

namespace IKash

open Lib

variable {χ : Type}

/-! ## Bodies -/

/-- The checks of `class-validator` that are not the repository's: `IsEmail`, and `MaxLength`. -/
structure ClassValidator where
  isEmail : String → Bool
  maxLength : String → ℕ → Bool

/-- `ALIAS_REGEX` -/
def aliasRegex (s : String) : Bool :=
  s ≠ "" && s.toList.all fun c => ('a' ≤ c && c ≤ 'z') || ('0' ≤ c && c ≤ '9') || c ∈ ['.', '!', '_']

/-- `IsOptional` passes a field that is absent or null. -/
def Patch.all {α : Type} (check : α → Bool) : Patch α → Bool
  | .value a => check a
  | _ => true

/-- The text of a field that is truthy. -/
def Patch.truthy : Patch String → Option String
  | .value s => if s = "" then none else some s
  | _ => none

structure CreateUserDto where
  publicKey : String
  aliasName : Patch String := .undefined
  username : Patch String := .undefined
  kycStatus : Patch String := .undefined
  currentNonce : Patch String := .undefined

structure UpdateUserDto where
  aliasName : Patch String := .undefined
  username : Patch String := .undefined
  email : Patch String := .undefined
  notificationsEnabled : Patch Bool := .undefined
  preferredCurrency : Patch String := .undefined
  pendingAccountInfo : Patch Bool := .undefined
  kycStatus : Patch String := .undefined
  bio : Patch String := .undefined
  securityUpdates : Patch Bool := .undefined

/-- The legacy bank fields are validated and dropped. -/
structure SetupAccountDto where
  aliasName : Patch String := .undefined
  username : Patch String := .undefined
  email : Patch String := .undefined
  notificationsEnabled : Patch Bool := .undefined
  preferredCurrency : Patch String := .undefined
  bankName : Patch String := .undefined
  accountHolderName : Patch String := .undefined
  accountNumber : Patch String := .undefined
  providerId : Patch String := .undefined
  accountIdentifier : Patch String := .undefined
  identificationNumber : Patch String := .undefined
  beneficiaryName : Patch String := .undefined
  description : Patch String := .undefined

structure ValidateAliasDto where
  aliasName : String

structure PaginationDto where
  skip : ℕ := 0
  take : ℕ := 20

def CreateUserDto.valid (cv : ClassValidator) (dto : CreateUserDto) : Bool :=
  dto.aliasName.all (cv.maxLength · 80) && dto.username.all (cv.maxLength · 80)

def UpdateUserDto.valid (cv : ClassValidator) (dto : UpdateUserDto) : Bool :=
  dto.aliasName.all (fun s => cv.maxLength s 80 && aliasRegex s) && dto.username.all (cv.maxLength · 80) &&
    dto.email.all cv.isEmail && dto.bio.all (cv.maxLength · 250)

def SetupAccountDto.valid (cv : ClassValidator) (dto : SetupAccountDto) : Bool :=
  dto.aliasName.all (cv.maxLength · 80) && dto.username.all (cv.maxLength · 80) && dto.email.all cv.isEmail

def ValidateAliasDto.valid (cv : ClassValidator) (dto : ValidateAliasDto) : Bool :=
  cv.maxLength dto.aliasName 80 && aliasRegex dto.aliasName

def PaginationDto.valid (dto : PaginationDto) : Bool := 1 ≤ dto.take

structure UploadFileInput where
  originalname : String
  mimetype : String
  buffer : Bytes
  size : ℕ

structure StoredFile where
  key : String
  url : String

/-! ## The rows that bodies make -/

/-- The row of `create(dto)`. -/
def createData (dto : CreateUserDto) (freshId : String) (now : ℤ) : Except Thrown AppUser := do
  let kycStatus ← Prisma.given KycStatus.ofText? dto.kycStatus
  pure {
    userId := freshId
    publicKey := dto.publicKey
    aliasName := Prisma.nullableColumn none dto.aliasName
    username := Prisma.nullableColumn none dto.username
    kycStatus := kycStatus.getD .pending
    currentNonce := Prisma.nullableColumn none dto.currentNonce
    createdAt := now }

/-- `{ ...dto }` of an update; `kycUpdatedAt` is set when `kycStatus` is truthy. -/
def updateData (dto : UpdateUserDto) (now : ℤ) : Except Thrown (AppUser → AppUser) := do
  let notificationsEnabled ← Prisma.given some dto.notificationsEnabled
  let pendingAccountInfo ← Prisma.given some dto.pendingAccountInfo
  let kycStatus ← Prisma.given KycStatus.ofText? dto.kycStatus
  let securityUpdates ← Prisma.given some dto.securityUpdates
  pure fun u => { u with
    aliasName := Prisma.nullableColumn u.aliasName dto.aliasName
    username := Prisma.nullableColumn u.username dto.username
    email := Prisma.nullableColumn u.email dto.email
    notificationsEnabled := notificationsEnabled.getD u.notificationsEnabled
    preferredCurrency := Prisma.nullableColumn u.preferredCurrency dto.preferredCurrency
    pendingAccountInfo := pendingAccountInfo.getD u.pendingAccountInfo
    kycStatus := kycStatus.getD u.kycStatus
    kycUpdatedAt := dto.kycStatus.truthy.elim u.kycUpdatedAt fun _ => some now
    bio := Prisma.nullableColumn u.bio dto.bio
    securityUpdates := securityUpdates.getD u.securityUpdates }

/-- `{ ...profileData, pendingAccountInfo: false }` -/
def setupData (dto : SetupAccountDto) : Except Thrown (AppUser → AppUser) := do
  let notificationsEnabled ← Prisma.given some dto.notificationsEnabled
  pure fun u => { u with
    aliasName := Prisma.nullableColumn u.aliasName dto.aliasName
    username := Prisma.nullableColumn u.username dto.username
    email := Prisma.nullableColumn u.email dto.email
    notificationsEnabled := notificationsEnabled.getD u.notificationsEnabled
    preferredCurrency := Prisma.nullableColumn u.preferredCurrency dto.preferredCurrency
    pendingAccountInfo := false }

/-- The account without its personal data. -/
def anonymized (now : ℤ) (u : AppUser) : AppUser := { u with
  email := none
  username := none
  aliasName := none
  bio := none
  profileImageUrl := none
  currentNonce := none
  preferredCurrency := none
  deletedAt := some now }

/-- `USER_PUBLIC_SELECT`: every column but the nonce and the deletion time. -/
def publicUser (u : AppUser) : AppUser := { u with currentNonce := none, deletedAt := none }

/-- What `exportUserData` answers. -/
structure ExportData where
  user : AppUser
  paymentMethods : List PaymentMethod
  auditLogs : List AuditLog
  offers : List Offer
  buyOrders : List Order
  sellOrders : List Order
  chatMessages : List ChatMessage
  waitlist : Option Waitlist

/-- What `uploadProfilePicture` answers: the account, or the client's snapshot with the id and the new url. -/
inductive UploadReply where
  | updated (user : AppUser)
  | stored (userSnapshot : Option Json) (userId profileImageUrl : String)

/-- A payment method with its provider. -/
abbrev PaymentMethodWithProvider := PaymentMethod × Option PaymentProvider

/-! ## The repository -/

namespace UsersRepository

def findById (id : String) : Service χ (Option AppUser) := prisma (Prisma.appUser.findUnique (uuid id))

/-- The payment methods of an account. -/
def paymentMethodsOf (db : Db) (u : AppUser) : List PaymentMethodWithProvider :=
  (db.paymentMethods.rows.filter fun m => m.userId = u.userId).map fun m => (m, db.paymentProviders.find? m.providerId)

def findByPublicKey (publicKey : String) : Service χ (Option (AppUser × List PaymentMethodWithProvider)) :=
  prisma fun db => .ok ((userByPublicKey db publicKey).map fun u => (u, paymentMethodsOf db u), db)

def isAliasAvailable (aliasName : String) : Service χ Bool :=
  prisma fun db => .ok ((db.users.findUnique? AppUser.aliasName aliasName).isNone, db)

/-- `update` with data that Prisma has still to check. -/
def update (id : String) (data : Except Thrown (AppUser → AppUser)) : Service χ AppUser := do
  let data ← Svc.ofExcept data
  prisma (Prisma.appUser.update (uuid id) data)

def create (row : Except Thrown AppUser) : Service χ AppUser := do
  let row ← Svc.ofExcept row
  prisma (Prisma.appUser.create row)

def findOrCreateByPublicKey (publicKey freshId : String) :
    Service χ (AppUser × Option (List PaymentMethodWithProvider)) := do
  let existing ← findByPublicKey publicKey
  existing.elim
    (do
      let w ← Svc.get
      let u ← create (.ok { userId := freshId, publicKey := publicKey, createdAt := w.now, pendingAccountInfo := true })
      pure (u, none))
    fun found => pure (found.1, some found.2)

def exportData (db : Db) (u : AppUser) : ExportData where
  user := u
  paymentMethods := db.paymentMethods.rows.filter fun m => m.userId = u.userId
  auditLogs := db.auditLogs.filter fun a => a.userId = some u.userId
  offers := db.offers.rows.filter fun o => o.creatorId = u.userId
  buyOrders := db.orders.rows.filter fun o => o.buyerId = u.userId
  sellOrders := db.orders.rows.filter fun o => o.sellerId = u.userId
  chatMessages := db.chatMessages.rows.filter fun m => m.senderId = u.userId
  waitlist := none

def findExportData (id : String) : Service χ (Option ExportData) :=
  prisma (lookup (isUuid id) fun db => (userById db id).map (exportData db))

end UsersRepository

/-! ## The service -/

namespace UsersService

def userNotFound (id : String) : Thrown := .app .userNotFound ("User " ++ id ++ " not found")

/-- An absent `publicKey` is refused by Prisma. -/
def getOrCreateAccount (publicKey : Option String) (freshId : String) :
    Service χ (AppUser × Option (List PaymentMethodWithProvider)) := do
  let publicKey ← Svc.orThrow publicKey (.prisma .validation)
  UsersRepository.findOrCreateByPublicKey publicKey freshId

/-- `/^[^\s@]+@[^\s@]+\.[^\s@]+$/`: one `@`, no blank, and a dot inside the second part. -/
def emailRegex (s : String) : Bool :=
  s.toList.all (fun c => !Json.isWhitespace c) &&
    match s.toList.splitOn '@' with
    | [user, domain] => user ≠ [] && '.' ∈ domain.tail.dropLast
    | _ => false

/-- The body field may be any value. -/
def earlyRegister (email : Option Json) : Service χ Waitlist := do
  Svc.throwIf (Json.truthy email = false) (.app .missingEmail "Email is required")
  Svc.throwIf (emailRegex (email.elim "" Json.text) = false) (.app .invalidEmail "Invalid email format")
  let email ← Svc.orThrow (Json.asString email) (.prisma .validation)
  prisma (Prisma.waitlist.upsert email ⟨email⟩ id)

def isAliasAvailable (aliasName : String) : Service χ Bool := UsersRepository.isAliasAvailable aliasName

def providerInfo (provider : PaymentProvider) : PaymentProviderInfo :=
  ⟨some provider.type.text, provider.countryCode, provider.code⟩

/-- The payment method of the setup. -/
def addPaymentMethod (validator : PaymentMethodValidatorService) (userId : String) (dto : SetupAccountDto)
    (freshId providerId accountIdentifier : String) : Service χ Unit := do
  let provider ← prisma (Prisma.paymentProvider.findUnique (uuid providerId))
  let provider ← Svc.orThrow provider (.app .paymentProviderNotFound "Payment provider not found")
  Svc.ofExcept (validator.validate (providerInfo provider) accountIdentifier)
  let _ ← prisma (Prisma.paymentMethod.create {
    paymentId := freshId
    userId := uuid userId
    providerId := uuid providerId
    type := provider.type
    accountIdentifier := accountIdentifier
    beneficiaryName := Prisma.nullableColumn none dto.beneficiaryName
    identificationNumber := Prisma.nullableColumn none dto.identificationNumber
    description := Prisma.nullableColumn none dto.description })
  pure ()

/-- The provider and the account identifier, when both are truthy. -/
def paymentFields (dto : SetupAccountDto) : Option (String × String) :=
  dto.providerId.truthy.bind fun p => dto.accountIdentifier.truthy.map fun a => (p, a)

/-- Nothing compares `userId` with the caller. -/
def setupAccount (validator : PaymentMethodValidatorService) (userId : String) (dto : SetupAccountDto)
    (freshId : String) : Service χ (AppUser × Token) := do
  let updatedUser ← UsersRepository.update userId (setupData dto)
  (paymentFields dto).elim (pure ()) fun f => addPaymentMethod validator userId dto freshId f.1 f.2
  let token ← AuthService.finalizeSetup userId updatedUser.publicKey
  pure (updatedUser, token)

def create (dto : CreateUserDto) (freshId : String) : Service χ AppUser := do
  let existing ← UsersRepository.findByPublicKey dto.publicKey
  Svc.throwIf (existing.isSome = true) (.app .userAlreadyExists "A user with this public key already exists")
  let w ← Svc.get
  UsersRepository.create (createData dto freshId w.now)

/-- One page, the newest accounts first. -/
def list (p : PaginationDto) : Service χ (List AppUser) :=
  prisma fun db => .ok ((((db.users.rows.mergeSort fun a b => b.createdAt ≤ a.createdAt).drop p.skip).take p.take).map
    publicUser, db)

def get (id : String) : Service χ AppUser := do
  let item ← UsersRepository.findById id
  Svc.orThrow item (userNotFound id)

/-- The alias is the account's own, or a free one. -/
def mayTake (user : AppUser) (aliasName : String) : Service χ Bool :=
  if user.aliasName = some aliasName then pure true else UsersRepository.isAliasAvailable aliasName

/-- The check of an update's alias. -/
def checkAlias (id aliasName : String) : Service χ Unit := do
  let user ← UsersRepository.findById id
  let user ← Svc.orThrow user (userNotFound id)
  let available ← mayTake user aliasName
  Svc.throwIf (available = false) (.app .aliasTaken "Alias is already taken")

/-- An empty caller passes. -/
def update (id : String) (dto : UpdateUserDto) (callerUserId : String) : Service χ AppUser := do
  Svc.throwIf (callerUserId ≠ "" ∧ callerUserId ≠ id)
    (.app .unauthorizedAction "You can only update your own profile.")
  dto.aliasName.truthy.elim (pure ()) (checkAlias id)
  let w ← Svc.get
  UsersRepository.update id (updateData dto w.now)

def setPicture (url : String) (u : AppUser) : AppUser := { u with profileImageUrl := some url }

/-- With `MOCK_PROFILE_UPLOAD` the file is stored and the account is not touched. -/
def uploadProfilePicture (mock : Bool) (uploadFile : UploadFileInput → χ → Except Thrown StoredFile × χ) (id : String)
    (file : UploadFileInput) (userSnapshot : Option Json) : Service χ UploadReply :=
  if mock then do
    let uploaded ← external (uploadFile file)
    pure (.stored userSnapshot id uploaded.url)
  else do
    let user ← UsersRepository.findById id
    let _ ← Svc.orThrow user (userNotFound id)
    let uploaded ← external (uploadFile file)
    let user ← UsersRepository.update id (.ok (setPicture uploaded.url))
    pure (.updated user)

def dataEntry (action : AuditAction) (id : String) : AuditLog where
  action := action
  resourceType := "User"
  resourceId := some id
  result := .success

def exportUserData (id callerUserId : String) : Service χ ExportData := do
  Svc.throwIf (callerUserId = "" ∨ callerUserId ≠ id) (.app .unauthorizedAction "You can only export your own data.")
  let found ← UsersRepository.findExportData id
  let data ← Svc.orThrow found (userNotFound id)
  let waitlist ← prisma fun db => .ok ((data.user.email.filter (· ≠ "")).bind db.waitlist.find?, db)
  AuditLogService.create (dataEntry .userDataExported id)
  pure { data with waitlist := waitlist }

/-- The transaction of `remove`. -/
def removeTx (id : String) (now : ℤ) : Tx AppUser := do
  let user ← Prisma.appUser.findUnique (uuid id)
  let user ← user.elim (throw (userNotFound id)) pure
  Prisma.paymentMethod.deleteMany fun m => m.userId = uuid id
  let _ ← Prisma.chatMessage.updateMany (fun m => m.senderId = uuid id) (fun m => { m with content := "[deleted]" })
    fun _ => ⟨rfl, fun _ h => (List.not_mem_nil h).elim⟩
  Prisma.auditLog.updateMany (fun a => a.userId = some (uuid id)) fun a => { a with ipAddress := none, userAgent := none }
  (user.email.filter (· ≠ "")).elim (pure ()) fun email => Prisma.waitlist.deleteMany fun x => x.email = email
  Prisma.appUser.update (uuid id) (anonymized now)

def remove (id callerUserId : String) : Service χ AppUser := do
  Svc.throwIf (callerUserId = "" ∨ callerUserId ≠ id) (.app .unauthorizedAction "You can only delete your own account.")
  let w ← Svc.get
  let user ← prisma (removeTx id w.now)
  AuditLogService.create (dataEntry .userDataDeleted id)
  pure user

end UsersService

/-! ## What they do to the accounts -/

variable {w w' : World χ} {id : String}

/-- An update keeps the id, and the status unless the body gives one. -/
theorem updateData_status {dto : UpdateUserDto} {now : ℤ} {f : AppUser → AppUser} (h : updateData dto now = .ok f)
    (u : AppUser) : (f u).userId = u.userId ∧
      ((f u).kycStatus = u.kycStatus ∨ dto.kycStatus = .value (f u).kycStatus.text) := by
  unfold updateData at h
  obtain ⟨_, -, h₁⟩ := Except.of_bind_ok h
  obtain ⟨_, -, h₂⟩ := Except.of_bind_ok h₁
  obtain ⟨status, hs, h₃⟩ := Except.of_bind_ok h₂
  obtain ⟨_, -, h₄⟩ := Except.of_bind_ok h₃
  cases h₄
  refine ⟨rfl, ?_⟩
  rcases Prisma.of_given_ok hs with rfl | ⟨s, status, hvalue, htext, rfl⟩
  · exact Or.inl rfl
  · right
    rw [hvalue, ← KycStatus.ofText?_text htext]
    rfl

/-- A setup keeps the id and the status. -/
theorem setupData_status {dto : SetupAccountDto} {f : AppUser → AppUser} (h : setupData dto = .ok f) (u : AppUser) :
    (f u).userId = u.userId ∧ (f u).kycStatus = u.kycStatus := by
  unfold setupData at h
  obtain ⟨_, -, h₁⟩ := Except.of_bind_ok h
  cases h₁
  exact ⟨rfl, rfl⟩

namespace UsersRepository

@[simp] theorem findByPublicKey_run (publicKey : String) (w : World χ) : (findByPublicKey publicKey).run w =
    (.ok ((userByPublicKey w.db publicKey).map fun u => (u, paymentMethodsOf w.db u)), w) := rfl

/-- An update is refused, or it is the update of the table. -/
theorem update_cases (id : String) (data : Except Thrown (AppUser → AppUser)) (w : World χ) :
    (∃ e, (update id data).run w = (.error e, w)) ∨
    ∃ f u db, data = .ok f ∧ Prisma.appUser.update (uuid id) f w.db = .ok (u, db) ∧
      (update id data).run w = (.ok u, { w with db := db }) := by
  cases data with
  | error e => exact Or.inl ⟨e, rfl⟩
  | ok f =>
    have hrun : (update id (.ok f)).run w = (prisma (Prisma.appUser.update (uuid id) f)).run w := rfl
    rw [hrun]
    cases h : Prisma.appUser.update (uuid id) f w.db with
    | error e => exact Or.inl ⟨e, prisma_run_error h⟩
    | ok r => exact Or.inr ⟨f, r.1, r.2, rfl, h, prisma_run_ok h⟩

end UsersRepository

namespace UsersService

theorem checkAlias_state (id aliasName : String) (w : World χ) : ((checkAlias id aliasName).run w).2 = w := by
  have hmoves : Svc.Moves Eq (checkAlias id aliasName : Service χ Unit) := by
    refine Svc.Moves.bind Eq.trans (prisma_findUnique_moves (fun _ => rfl) _ _) fun user => ?_
    refine Svc.Moves.bind Eq.trans (Svc.Moves.orThrow (fun _ => rfl) user _) fun u => ?_
    refine Svc.Moves.bind Eq.trans ?_ fun available => ?_
    · unfold mayTake
      split <;> exact fun _ => rfl
    · exact Svc.Moves.throwIf (fun _ => rfl) _ _
  exact (hmoves w).symm

/-- A body is refused, or it is written to the account, which is the caller's own. -/
theorem update_cases (id : String) (dto : UpdateUserDto) (caller : String) (w : World χ) :
    ((update id dto caller).run w).2 = w ∨
    ∃ f u db, (caller = "" ∨ caller = id) ∧ updateData dto w.now = .ok f ∧
      Prisma.appUser.update (uuid id) f w.db = .ok (u, db) ∧
      (update id dto caller).run w = (.ok u, { w with db := db }) := by
  unfold update
  by_cases hcaller : caller ≠ "" ∧ caller ≠ id
  · left
    rw [Svc.run_bind_error (Svc.run_throwIf_pos hcaller _ _)]
  · rw [Svc.run_bind_ok (Svc.run_throwIf_neg hcaller _ _)]
    have hstate : ((dto.aliasName.truthy.elim (pure ()) (checkAlias id) : Service χ Unit).run w).2 = w := by
      cases dto.aliasName.truthy with
      | none => rfl
      | some aliasName => exact checkAlias_state id aliasName w
    rcases hr : (dto.aliasName.truthy.elim (pure ()) (checkAlias id) : Service χ Unit).run w with ⟨r, w₁⟩
    rw [hr] at hstate
    obtain rfl : w₁ = w := hstate
    cases r with
    | error e => exact Or.inl (by rw [Svc.run_bind_error hr])
    | ok u =>
      rw [Svc.run_bind_ok hr, Svc.run_bind_ok (Svc.run_get _)]
      rcases UsersRepository.update_cases id (updateData dto w₁.now) w₁ with ⟨e, h⟩ | ⟨f, u, db, hf, htx, h⟩
      · exact Or.inl (by rw [h])
      · exact Or.inr ⟨f, u, db, by simpa [or_iff_not_imp_left] using hcaller, hf, htx, h⟩

end UsersService

end IKash
