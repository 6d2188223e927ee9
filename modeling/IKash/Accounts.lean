import IKash.Kyc
import IKash.Lib.Machine
import IKash.Users

/-!
# The requests about accounts

`AuthController`, `UsersController` and the webhook of `KycController`, as one machine: a request comes at some time,
with or without an access token, and is answered with a `Reply` or an error. A guard runs before the validation pipe,
and both before the handler. The rate limiters and the CSRF guard only refuse requests, and are left out; so is a body
that is not of its DTO's shape.
-/

namespace IKash

open Lib

variable {χ : Type}

/-- The configuration, and what the services are given. -/
structure Env (χ : Type) where
  crypto : Crypto
  classValidator : ClassValidator
  challengeExpirationSeconds : Option ℚ := none
  mockProfileUpload : Bool := false
  diditWebhookSecret : Option String := none
  paymentMethodValidator : PaymentMethodValidatorService := {}
  uploadFile : UploadFileInput → χ → Except Thrown StoredFile × χ

/-- The multipart body of a picture; `userSnapshot` is what `JSON.parse` reads, `some none` if it reads nothing. -/
structure PictureBody where
  file : Option UploadFileInput
  userSnapshot : Option (Option Json) := none

inductive AccountRoute where
  /-- `POST auth/challenge` -/
  | createChallenge (dto : CreateAuthChallengeDto) (random : String)
  /-- `POST auth/login` -/
  | login (dto : LoginDto) (ctx : RequestContext) (freshId : String)
  /-- `GET users/account` -/
  | getOrCreate (publicKey : Option String) (freshId : String)
  /-- `POST users/early-register` -/
  | earlyRegister (email : Option Json)
  /-- `GET users/validate-alias` -/
  | checkAlias (query : ValidateAliasDto)
  /-- `POST users/:id/setup` -/
  | setup (id : String) (dto : SetupAccountDto) (freshId : String)
  /-- `POST users` -/
  | create (dto : CreateUserDto) (freshId : String)
  /-- `GET users` -/
  | list (p : PaginationDto)
  /-- `GET users/:id` -/
  | get (id : String)
  /-- `PATCH users/:id` -/
  | update (id : String) (dto : UpdateUserDto)
  /-- `PATCH users/:id/profile-picture` -/
  | uploadProfilePicture (id : String) (body : PictureBody)
  /-- `GET users/:id/data` -/
  | exportData (id : String)
  /-- `DELETE users/:id` -/
  | remove (id : String)
  /-- `POST kyc/webhook` -/
  | webhook (headers : WebhookHeaders) (rawBody : Option Bytes) (payload : Json)

structure AccountRequest where
  time : ℤ
  bearer : Option Token := none
  route : AccountRoute

inductive Reply where
  | challenge (challenge : AuthChallengeResponse)
  | session (accessToken : Token) (user : AppUser)
  | account (user : AppUser) (paymentMethods : Option (List PaymentMethodWithProvider))
  | user (user : AppUser)
  | users (users : List AppUser)
  | registered (waitlist : Waitlist)
  | available (available : Bool)
  | picture (upload : UploadReply)
  | data (data : ExportData)
  | received

/-- The access token in a reply. -/
def Reply.accessToken : Reply → Option Token
  | .session token _ => some token
  | _ => none

/-- `ValidationPipe` -/
def validated (valid : Bool) : Service χ Unit := Svc.throwIf (valid = false) (.http 400 "Bad Request")

namespace UsersController

def maxFileSize : ℕ := 5 * 1024 * 1024

def allowedMimeTypes : List String := ["image/jpeg", "image/png", "image/webp"]

/-- The limit of the `FileInterceptor`. -/
def intercept (file : Option UploadFileInput) : Service χ Unit :=
  Svc.throwIf (∃ f ∈ file.toList, maxFileSize < f.size) (.http 413 "File too large")

def notOwnPicture : Thrown := .http 403 "You can only upload a profile picture for your own account"

/-- The picture is for the caller's own account, by its id or by its public key. -/
def ownPicture (user : AuthUser) (id : String) : Service χ Unit :=
  if user.userId = id then pure ()
  else do
    Svc.throwIf (user.publicKey = "") notOwnPicture
    let found ← UsersRepository.findByPublicKey user.publicKey
    Svc.throwIf (found.map (fun f => f.1.userId) ≠ some id) notOwnPicture

def checkFile : Option UploadFileInput → Except Thrown UploadFileInput
  | none => .error (.http 400 "Profile image file is required")
  | some file =>
    if file.mimetype ∉ allowedMimeTypes then .error (.http 400 "Only JPEG, PNG, and WEBP images are allowed")
    else if maxFileSize < file.size then .error (.http 400 "Profile image must be 5MB or smaller")
    else .ok file

def parseSnapshot : Option (Option Json) → Except Thrown (Option Json)
  | none => .ok none
  | some none => .error (.http 400 "userSnapshot must be valid JSON")
  | some (some j) => .ok (some j)

def uploadProfilePicture (env : Env χ) (user : AuthUser) (id : String) (body : PictureBody) :
    Service χ UploadReply := do
  intercept body.file
  ownPicture user id
  let file ← Svc.ofExcept (checkFile body.file)
  let snapshot ← Svc.ofExcept (parseSnapshot body.userSnapshot)
  UsersService.uploadProfilePicture env.mockProfileUpload env.uploadFile id file snapshot

end UsersController

/-- `KycController.handleWebhook` -/
def KycController.handleWebhook (env : Env χ) (headers : WebhookHeaders) (rawBody : Option Bytes) (payload : Json) :
    Service χ Unit := do
  let w ← Svc.get
  Svc.ofExcept (KycService.verifyWebhookSignature env.crypto env.diditWebhookSecret w.now headers rawBody payload)
  KycService.processWebhookEvent payload

/-- The route handlers with their guards and pipes. -/
def AccountRoute.handle (env : Env χ) (bearer : Option Token) : AccountRoute → Service χ Reply
  | .createChallenge dto random => do
    validated (decide dto.Valid)
    let challenge ← AuthService.createChallenge env.crypto env.challengeExpirationSeconds dto random
    pure (.challenge challenge)
  | .login dto ctx freshId => do
    validated (decide dto.Valid)
    let session ← AuthService.login env.crypto dto ctx freshId
    pure (.session session.1 session.2)
  | .getOrCreate publicKey freshId => do
    let account ← UsersService.getOrCreateAccount publicKey freshId
    pure (.account account.1 account.2)
  | .earlyRegister email => do
    let waitlist ← UsersService.earlyRegister email
    pure (.registered waitlist)
  | .checkAlias query => do
    let _ ← jwtAuth env.mockProfileUpload bearer none
    validated (query.valid env.classValidator)
    let available ← UsersService.isAliasAvailable query.aliasName
    pure (.available available)
  | .setup id dto freshId => do
    let _ ← jwtAuth env.mockProfileUpload bearer (some id)
    validated (dto.valid env.classValidator)
    let session ← UsersService.setupAccount env.paymentMethodValidator id dto freshId
    pure (.session session.2 session.1)
  | .create dto freshId => do
    validated (dto.valid env.classValidator)
    let user ← UsersService.create dto freshId
    pure (.user user)
  | .list p => do
    validated p.valid
    let users ← UsersService.list p
    pure (.users users)
  | .get id => do
    let user ← UsersService.get id
    pure (.user user)
  | .update id dto => do
    let caller ← jwtAuth env.mockProfileUpload bearer (some id)
    validated (dto.valid env.classValidator)
    let user ← UsersService.update id dto caller.userId
    pure (.user user)
  | .uploadProfilePicture id body => do
    let caller ← jwtAuth env.mockProfileUpload bearer (some id)
    let upload ← UsersController.uploadProfilePicture env caller id body
    pure (.picture upload)
  | .exportData id => do
    let caller ← jwtAuth env.mockProfileUpload bearer (some id)
    let data ← UsersService.exportUserData id caller.userId
    pure (.data data)
  | .remove id => do
    let caller ← jwtAuth env.mockProfileUpload bearer (some id)
    let user ← UsersService.remove id caller.userId
    pure (.user user)
  | .webhook headers rawBody payload => do
    KycController.handleWebhook env headers rawBody payload
    pure .received

/-- The state when the request comes. -/
def World.at (w : World χ) (time : ℤ) : World χ := { w with now := time }

/-- Runs of requests about accounts, from any callers. -/
def accounts (env : Env χ) : Machine (World χ) AccountRequest (Except Thrown Reply) where
  step w req := (req.route.handle env req.bearer).run (w.at req.time)

/-! ## Two wallets

A service without accounts, two public keys, and the values of the cryptographic functions in one login and one webhook
of the buyer. -/

namespace Wallets

def sellerKey : String := "GBONPDWOIAQN77BPNL3EGVFIROICRMPHVW6WDETBS3PUPWMV6EKRCS42"

def buyerKey : String := "GBYSXY6Q3DEN35N43PK7KNNRFZIVIZEHLQ6M622QMUEZXPBTHC2Q4OND"

def sellerId : String := "00000000-0000-4000-8000-000000000001"

def buyerId : String := "00000000-0000-4000-8000-000000000002"

def challenge : String := "2dd00bd77e0222ced882665481a9c1d9f907309d16e05ed007a1ea63928477a9"

/-- The SHA-256 of the SEP-53 prefix and the challenge. -/
def challengeHash : Bytes :=
  [0xd2, 0xc8, 0x28, 0x18, 0x80, 0xe0, 0x08, 0x3f, 0x18, 0x1f, 0x24, 0x94, 0xee, 0xad, 0x70, 0x31,
    0xbb, 0x95, 0x2b, 0xdf, 0xf5, 0x27, 0x3c, 0x54, 0x43, 0x6c, 0x3d, 0x70, 0x5a, 0x8f, 0x85, 0x7b]

/-- The buyer's signature of that hash. -/
def signature : String := "5P0U+y1D0pLk17d0c4ToIt/2+c56S8V/iQbRqw/KeHZCj1bFilX1xKRDKkokwe1rEpuVOMgQI069telHukAGCA=="

def webhookSecret : String := "webhook-secret"

/-- The webhook that approves the buyer, and its body. -/
def webhookPayload : Json := .obj [("vendor_data", .str buyerId), ("status", .str "Approved")]

/-- The HMAC of that body under the secret. -/
def webhookMac : Bytes :=
  [0x9e, 0xc2, 0xa7, 0x1b, 0xb1, 0x1c, 0x3e, 0x32, 0x8d, 0x84, 0xfd, 0xe2, 0xf9, 0x53, 0x8e, 0xe6,
    0xaa, 0x92, 0x0b, 0x75, 0x23, 0xca, 0x9d, 0xb2, 0x68, 0xe0, 0x26, 0x27, 0x4f, 0x3c, 0x14, 0x14]

def crypto : Crypto where
  isValidEd25519PublicKey k := k ∈ [sellerKey, buyerKey]
  verify k data sig := .ok (k = buyerKey ∧ data = challengeHash ∧ sig = Base64.decode signature)
  sha256 _ := challengeHash
  hmacSha256 _ _ := webhookMac

def env : Env Unit where
  crypto := crypto
  classValidator := ⟨fun _ => true, fun s n => s.length ≤ n⟩
  diditWebhookSecret := some webhookSecret
  uploadFile file ext := (.ok ⟨file.originalname, file.originalname⟩, ext)

def world : World Unit where
  db := Db.empty
  now := 0
  issued := []
  listeners _ := {}
  ext := ()

/-- The seller's account is opened, and the buyer logs in. -/
def logins : List AccountRequest := [
  { time := 0, route := .getOrCreate (some sellerKey) sellerId },
  { time := 0, route := .createChallenge ⟨buyerKey⟩ challenge },
  { time := 1000, route := .login ⟨buyerKey, challenge, signature⟩ {} buyerId }]

def buyerToken : Token := ⟨buyerId, buyerKey, false, 3601⟩

/-- The two accounts, the challenge that was used and the record of the login. -/
def loggedIn : World Unit where
  db := ⟨{ users := ⟨[{ userId := sellerId, publicKey := sellerKey },
             { userId := buyerId, publicKey := buyerKey, createdAt := 1000 }], by decide⟩
           challenges := ⟨[{ publicKey := buyerKey, challenge := challenge, expiresAt := 300000, usedAt := some 1000 }],
             by decide⟩
           auditLogs := [AuthService.loginEntry .userLoginSuccess .success buyerKey {}] }, by decide⟩
  now := 1000
  issued := [buyerToken]
  listeners _ := {}
  ext := ()

theorem logins_run : (accounts env).run world logins = loggedIn := rfl

/-- A run after the logins. -/
theorem run_logins (reqs : List AccountRequest) :
    (accounts env).run world (logins ++ reqs) = (accounts env).run loggedIn reqs := by
  rw [Machine.run_append, logins_run]

end Wallets

end IKash
