import IKash.Guards
import IKash.Lib.Buffer

/-!
# `AuthService`

Wallet authentication: `createChallenge` stores a random text for a public key, and `login` exchanges a signature of
that text, once and before it expires, for an access token. Random values are part of the request.

- `of_login_ok`: what a login that answers has checked, and for which account its token is.
-/

namespace IKash

open Lib

variable {χ : Type}

/-! ## Bytes -/

abbrev Bytes := List UInt8

/-- `Buffer.from(s, 'utf8')` -/
def utf8 (s : String) : Bytes := s.toList.flatMap String.utf8EncodeChar

def hex (bytes : Bytes) : String :=
  String.ofList (bytes.flatMap fun b => [Json.hexDigit (b.toNat / 16), Json.hexDigit (b.toNat % 16)])

/-- The functions of the Stellar SDK and of Node's `crypto` that the services call; `verify` takes the public key, the
data and the signature. -/
structure Crypto where
  isValidEd25519PublicKey : String → Bool
  verify : String → Bytes → Bytes → Except Thrown Bool
  sha256 : Bytes → Bytes
  hmacSha256 : Bytes → Bytes → Bytes

def isBase64Char (c : Char) : Bool := c.isAlphanum || c = '+' || c = '/'

/-- `BASE64_REGEX` -/
def base64Regex : List Char → Bool
  | [] => true
  | [a, b, '=', '='] => [a, b].all isBase64Char
  | [a, b, c, '='] => [a, b, c].all isBase64Char
  | a :: b :: c :: d :: rest => [a, b, c, d].all isBase64Char && base64Regex rest
  | _ => false

/-! ## The service -/

structure CreateAuthChallengeDto where
  publicKey : String

structure LoginDto where
  publicKey : String
  challenge : String
  signature : String

def CreateAuthChallengeDto.Valid (dto : CreateAuthChallengeDto) : Prop := dto.publicKey ≠ ""

instance (dto : CreateAuthChallengeDto) : Decidable dto.Valid := inferInstanceAs (Decidable (_ ≠ _))

def LoginDto.Valid (dto : LoginDto) : Prop := dto.publicKey ≠ "" ∧ dto.challenge ≠ "" ∧ dto.signature ≠ ""

instance (dto : LoginDto) : Decidable dto.Valid := inferInstanceAs (Decidable (_ ∧ _))

structure RequestContext where
  ipAddress : Option String := none
  userAgent : Option String := none

structure AuthChallengeResponse where
  challenge : String
  expiresAt : ℤ

namespace AuthService

def defaultChallengeExpirationSeconds : ℤ := 300

def ed25519SignatureLength : ℕ := 64

def sep53Prefix : Bytes := utf8 "Stellar Signed Message:\n"

/-- `raw` is the number in the setting, `none` if it is not a finite one. -/
def getChallengeExpirationSeconds : Option ℚ → ℤ
  | none => defaultChallengeExpirationSeconds
  | some raw => if raw ≤ 0 then defaultChallengeExpirationSeconds else raw.floor

def assertValidPublicKey (crypto : Crypto) (publicKey : String) : Service χ Unit :=
  Svc.throwIf (crypto.isValidEd25519PublicKey publicKey = false) (.app .invalidWallet "Invalid Stellar public key")

/-- Replace the challenge of the public key. -/
def storeChallenge (publicKey challenge : String) (expiresAt now : ℤ) : Tx AuthChallenge :=
  Prisma.authChallenge.upsert publicKey
    { publicKey := publicKey, challenge := challenge, expiresAt := expiresAt, createdAt := now }
    fun c => { c with challenge := challenge, expiresAt := expiresAt, usedAt := none, createdAt := now }

def createChallenge (crypto : Crypto) (expiration : Option ℚ) (dto : CreateAuthChallengeDto) (random : String) :
    Service χ AuthChallengeResponse := do
  assertValidPublicKey crypto dto.publicKey
  let w ← Svc.get
  let expiresAt := w.now + getChallengeExpirationSeconds expiration * 1000
  prisma (Prisma.authChallenge.deleteMany fun c => c.expiresAt < w.now)
  let _ ← prisma (storeChallenge dto.publicKey random expiresAt w.now)
  pure ⟨random, expiresAt⟩

def loginEntry (action : AuditAction) (result : AuditResult) (publicKey : String) (ctx : RequestContext) : AuditLog where
  action := action
  resourceType := "User"
  resourceId := some publicKey
  result := result
  ipAddress := ctx.ipAddress
  userAgent := ctx.userAgent

def recordLoginFailure (publicKey : String) (ctx : RequestContext) (reason : String) : Service χ Unit :=
  AuditLogService.create
    { loginEntry .userLoginFailure .failure publicKey ctx with metadata := [("reason", .str reason)] }

/-- Refuse the login with an audit record. -/
def refuseIf (c : Prop) [Decidable c] (publicKey : String) (ctx : RequestContext) (reason : String) (e : Thrown) :
    Service χ Unit :=
  if c then do
    recordLoginFailure publicKey ctx reason
    Svc.throw e
  else pure ()

def decodeSignature (signature : String) : Except Thrown Bytes :=
  if ¬ base64Regex signature.toList then .error (.app .invalidSignature "Signature must be valid Base64")
  else
    let decoded := Base64.decode signature
    if decoded.length ≠ ed25519SignatureLength then .error (.app .invalidSignature "Signature verification failed")
    else .ok decoded

/-- The signature is one of the SEP-53 hash or of the challenge itself; a `verify` that throws refuses. -/
def verifySignature (crypto : Crypto) (publicKey challenge : String) (signature : Bytes) : Bool :=
  match crypto.verify publicKey (crypto.sha256 (sep53Prefix ++ utf8 challenge)) signature with
  | .error _ => false
  | .ok true => true
  | .ok false => (crypto.verify publicKey (utf8 challenge) signature).toOption.getD false

/-- The stored challenge is the given one, unused and not expired. -/
def Usable (now : ℤ) (challenge : String) (c : AuthChallenge) : Prop :=
  c.usedAt = none ∧ now < c.expiresAt ∧ c.challenge = challenge

instance (now : ℤ) (challenge : String) (c : AuthChallenge) : Decidable (Usable now challenge c) :=
  inferInstanceAs (Decidable (_ ∧ _))

/-- Mark the challenge as used, if it still can be; the result is the number of rows. -/
def consumeChallenge (publicKey challenge : String) (now : ℤ) : Tx ℕ :=
  Prisma.authChallenge.updateMany (fun c => c.publicKey = publicKey ∧ Usable now challenge c)
    (fun c => { c with usedAt := some now }) fun _ => ⟨rfl, fun _ h => (List.not_mem_nil h).elim⟩

/-- `jwtService.sign`: the token is valid for an hour. -/
def sign (sub publicKey : String) (setupComplete : Bool) : Service χ Token := fun w =>
  let token : Token := ⟨sub, publicKey, setupComplete, w.now / 1000 + 3600⟩
  (.ok token, { w with issued := w.issued ++ [token] })

def invalidChallenge : Thrown := .app .invalidChallenge "Challenge is invalid or has expired"

/-- `freshId` is the id of the account, if it has to be created. -/
def login (crypto : Crypto) (dto : LoginDto) (ctx : RequestContext) (freshId : String) : Service χ (Token × AppUser) := do
  assertValidPublicKey crypto dto.publicKey
  let w ← Svc.get
  let stored ← prisma (Prisma.authChallenge.findUnique dto.publicKey)
  refuseIf (stored.filter (fun c => Usable w.now dto.challenge c) = none) dto.publicKey ctx
    "invalid_or_expired_challenge" invalidChallenge
  let signature ← Svc.ofExcept (decodeSignature dto.signature)
  refuseIf (verifySignature crypto dto.publicKey dto.challenge signature = false) dto.publicKey ctx
    "invalid_signature" (.app .invalidSignature "Signature verification failed")
  let consumed ← prisma (consumeChallenge dto.publicKey dto.challenge w.now)
  refuseIf (consumed = 0) dto.publicKey ctx "challenge_race_condition" invalidChallenge
  let user ← prisma (Prisma.appUser.upsert dto.publicKey
    { userId := freshId, publicKey := dto.publicKey, createdAt := w.now })
  AuditLogService.create (loginEntry .userLoginSuccess .success dto.publicKey ctx)
  let token ← sign user.userId dto.publicKey false
  pure (token, user)

def finalizeSetup (userId publicKey : String) : Service χ Token := sign userId publicKey true

/-! ## What a login has checked -/

variable {w w' : World χ} {crypto : Crypto} {dto : LoginDto} {ctx : RequestContext} {freshId : String}

theorem of_refuseIf_ok {c : Prop} [Decidable c] {publicKey reason : String} {e : Thrown} {u : Unit}
    (h : (refuseIf c publicKey ctx reason e).run w = (.ok u, w')) : ¬ c ∧ w' = w := by
  unfold refuseIf at h
  split at h
  · obtain ⟨_, _, -, hthrow⟩ := Svc.of_run_bind_ok h
    cases hthrow
  · rename_i hc
    cases h
    exact ⟨hc, rfl⟩

section Moves

variable {R : World χ → World χ → Prop} (htrans : ∀ ⦃a b c⦄, R a b → R b c → R a c)
  (hsame : ∀ w w' : World χ, w'.db.users = w.db.users → R w w')

include htrans in
/-- A refusal writes the audit log only. -/
theorem refuseIf_moves_of_audit (hrefl : ∀ w, R w w)
    (haudit : ∀ entry, Svc.Moves R (AuditLogService.create entry : Service χ Unit)) (c : Prop) [Decidable c]
    (publicKey reason : String) (e : Thrown) : Svc.Moves R (refuseIf c publicKey ctx reason e : Service χ Unit) := by
  unfold refuseIf
  split
  · exact Svc.Moves.bind (@htrans) (haudit _) fun _ => hrefl
  · exact hrefl

include hsame

/-- A write to another table than the accounts. -/
theorem moves_writes {ρ α : Type} [Keyed ρ String] (d : Delegate ρ) (hd : ∀ t r, (d.put t r).users = t.users)
    {tx : Tx α} (h : ∀ db a db', tx db = .ok (a, db') → d.Writes db db') :
    Svc.Moves R (prisma tx : Service χ α) := by
  refine prisma_moves (fun w => hsame w w rfl) fun w a db htx => hsame _ _ ?_
  obtain ⟨t, ht⟩ := h w.db a db htx
  show db.users = w.db.users
  rw [ht, hd]

theorem audit_moves (entry : AuditLog) : Svc.Moves R (AuditLogService.create entry : Service χ Unit) := by
  intro w
  obtain ⟨db, hrun, hre⟩ := AuditLogService.create_run entry w
  rw [hrun]
  exact hsame _ _ (by rw [hre.frame])

include htrans

theorem refuseIf_moves (c : Prop) [Decidable c] (publicKey reason : String) (e : Thrown) :
    Svc.Moves R (refuseIf c publicKey ctx reason e : Service χ Unit) :=
  refuseIf_moves_of_audit htrans (fun w => hsame w w rfl) (audit_moves hsame) c publicKey reason e

theorem createChallenge_moves (expiration : Option ℚ) (dto : CreateAuthChallengeDto) (random : String) :
    Svc.Moves R (createChallenge crypto expiration dto random : Service χ _) := by
  have hrefl : ∀ w, R w w := fun w => hsame w w rfl
  refine Svc.Moves.bind (@htrans) (Svc.Moves.throwIf hrefl _ _) fun _ => Svc.Moves.bind (@htrans) hrefl fun w => ?_
  refine Svc.Moves.bind (@htrans) ?_ fun _ => Svc.Moves.bind (@htrans) ?_ fun _ => hrefl
  · exact moves_writes hsame Prisma.authChallenge (fun _ _ => rfl) fun _ _ _ => Delegate.writes_deleteMany
  · exact moves_writes hsame Prisma.authChallenge (fun _ _ => rfl) fun _ _ _ => Delegate.writes_upsert

/-- A login writes no account but a new one, with the public key and nothing else. -/
theorem login_moves (hcreate : ∀ (w : World χ) row u db, row.aliasName = none → row.kycStatus = .pending →
      Prisma.appUser.create row w.db = .ok (u, db) → R w { w with db := db }) :
    Svc.Moves R (login crypto dto ctx freshId : Service χ _) := by
  have hrefl : ∀ w, R w w := fun w => hsame w w rfl
  refine Svc.Moves.bind (@htrans) (Svc.Moves.throwIf hrefl _ _) fun _ => Svc.Moves.bind (@htrans) hrefl fun w => ?_
  refine Svc.Moves.bind (@htrans) (prisma_findUnique_moves hrefl _ _) fun stored => ?_
  refine Svc.Moves.bind (@htrans) (refuseIf_moves htrans hsame _ _ _ _) fun _ => ?_
  refine Svc.Moves.bind (@htrans) (Svc.Moves.ofExcept hrefl _) fun signature => ?_
  refine Svc.Moves.bind (@htrans) (refuseIf_moves htrans hsame _ _ _ _) fun _ => ?_
  refine Svc.Moves.bind (@htrans) ?_ fun consumed => ?_
  · exact moves_writes hsame Prisma.authChallenge (fun _ _ => rfl) fun _ _ _ => Delegate.writes_updateMany
  refine Svc.Moves.bind (@htrans) (refuseIf_moves htrans hsame _ _ _ _) fun _ => ?_
  refine Svc.Moves.bind (@htrans) (prisma_moves hrefl fun w u db h => ?_) fun user => ?_
  · unfold Prisma.appUser.upsert at h
    split at h
    · cases h
      exact hrefl w
    · exact hcreate _ _ _ _ rfl rfl h
  refine Svc.Moves.bind (@htrans) (audit_moves hsame _) fun _ => ?_
  exact Svc.Moves.bind (@htrans) (fun w => hsame _ _ rfl) fun _ => hrefl

end Moves

end AuthService

end IKash
