import IKash.Auth

/-!
# `KycService`: the webhook of the verification provider

`verifyWebhookSignature` checks the headers of a webhook against its raw body (or, for the simple signature, against
three fields of its payload), and `processWebhookEvent` writes the status that the payload names for the user it names.
-/

namespace IKash

open Lib

variable {χ : Type}

structure WebhookHeaders where
  signatureV2 : Option String := none
  signatureV1 : Option String := none
  signatureSimple : Option String := none
  timestamp : Option String := none

/-- A header or a setting that is there and not empty. -/
def truthyText (s : Option String) : Option String := s.filter (· ≠ "")

namespace KycService

def maxAgeMs : ℤ := 5 * 60 * 1000

/-- A timestamp below `1e11` is in seconds. -/
def timestampMs (n : ℤ) : ℤ := if n < 100000000000 then n * 1000 else n

/-- A timestamp that is a number has to be recent. -/
def Stale (now : ℤ) (timestamp : Option String) : Prop :=
  ∃ n ∈ (truthyText timestamp).bind Json.parseInt, maxAgeMs < (now - timestampMs n).natAbs

instance (now : ℤ) (timestamp : Option String) : Decidable (Stale now timestamp) :=
  match h : (truthyText timestamp).bind Json.parseInt with
  | none => isFalse (by simp [Stale, h])
  | some n => decidable_of_iff (maxAgeMs < (now - timestampMs n).natAbs) (by simp [Stale, h])

def timingSafeEqual (a b : String) : Bool := utf8 a = utf8 b

/-- `(payload[name] as string) || ''` in a template. -/
def payloadText (payload : Json) (name : String) : String :=
  if Json.truthy (payload.field name) then (payload.field name).elim "" Json.text else ""

def simplePayload (payload : Json) : String :=
  ":" ++ payloadText payload "session_id" ++ ":" ++ payloadText payload "status" ++ ":" ++
    payloadText payload "webhook_type"

def invalidSignature (message : String) : Thrown := .app .kycWebhookInvalidSignature message

/-- The signature header that is there, compared with the one the secret gives. -/
def checkSignature (crypto : Crypto) (secret : String) (headers : WebhookHeaders) (rawBody : Bytes) (payload : Json) :
    Except Thrown Unit :=
  match (truthyText headers.signatureV2).or (truthyText headers.signatureV1) with
  | some sig =>
    if timingSafeEqual (Json.trim sig) (hex (crypto.hmacSha256 (utf8 secret) rawBody)) then .ok ()
    else .error (invalidSignature "Invalid webhook signature")
  | none =>
    match truthyText headers.signatureSimple with
    | some sig =>
      if timingSafeEqual (Json.trim sig) (hex (crypto.hmacSha256 (utf8 secret) (utf8 (simplePayload payload)))) then
        .ok ()
      else .error (invalidSignature "Invalid webhook signature")
    | none => .error (invalidSignature "Missing X-Signature header")

def verifyWebhookSignature (crypto : Crypto) (secret : Option String) (now : ℤ) (headers : WebhookHeaders)
    (rawBody : Option Bytes) (payload : Json) : Except Thrown Unit := do
  let secret ← (truthyText secret).elim
    (.error (.app .kycWebhookSecretMissing "DIDIT_WEBHOOK_SECRET is not configured")) .ok
  let rawBody ← rawBody.elim (.error (.app .kycWebhookMissingBody
    "Missing raw HTTP body. Ensure \x7b rawBody: true \x7d is set in main.ts.")) .ok
  if Stale now headers.timestamp then .error (invalidSignature "Webhook request expired")
  else checkSignature crypto secret headers rawBody payload

/-! ## The payload -/

/-- `payload[name] ?? payload.verification_session?.[name] ?? payload.session?.[name] ?? payload.data?.[name]` -/
def payloadField (payload : Json) (name : String) : Option Json :=
  let inside := fun outer => (payload.field outer).bind fun j => j.field name
  Json.coalesce (payload.field name)
    (Json.coalesce (inside "verification_session") (Json.coalesce (inside "session") (inside "data")))

/-- Five groups of 8, 4, 4, 4 and 12 hexadecimal digits. -/
def uuidRegex (s : String) : Bool :=
  let groups := s.toList.splitOn '-'
  groups.map List.length = [8, 4, 4, 4, 12] && groups.all fun g => g.all Json.isHexDigit

/-- Every run of blanks becomes one `_`; `previous` says whether the character before was one. -/
def underscored (previous : Bool) : List Char → List Char
  | [] => []
  | c :: cs => if c = ' ' then (if previous then underscored true cs else '_' :: underscored true cs)
    else c :: underscored false cs

/-- `rawStatus?.toLowerCase().trim().replace(/ +/g, '_') || ''` of a text. -/
def normalize (s : String) : String := String.ofList (underscored false (Json.trim (Json.toLowerCase s)).toList)

/-- The normalised status of a payload; a status that is no text has no `toLowerCase`. -/
def statusLower (payload : Json) : Except Thrown String :=
  match payloadField payload "status" with
  | none | some .null => .ok ""
  | some (.str s) => .ok (normalize s)
  | _ => .error (.other "rawStatus?.toLowerCase is not a function")

def statusOfText (s : String) : KycStatus :=
  if s = "approved" then .approved
  else if s = "declined" ∨ s = "rejected" then .rejected
  else if s = "review" ∨ s = "in_review" then .inReview
  else if s = "expired" then .expired
  else if s = "kyc_expired" then .kycExpired
  else if s = "abandoned" then .abandoned
  else if s = "resubmitted" then .resubmitted
  else if s = "not_started" then .notStarted
  else if s = "in_progress" then .inProgress
  else .pending

/-- The user the payload names: a truthy `vendor_data` whose text is a UUID. -/
def vendorData (payload : Json) : Option Json :=
  (payloadField payload "vendor_data").filter fun j => Json.truthy (some j) && uuidRegex (Json.text j)

def setKycStatus (status : KycStatus) (now : ℤ) (u : AppUser) : AppUser :=
  { u with kycStatus := status, kycUpdatedAt := some now }

def statusEntry (userId : String) (result : AuditResult) (previous : Option KycStatus) (name : String)
    (status : KycStatus) : AuditLog where
  userId := some (uuid userId)
  action := .kycStatusUpdated
  resourceType := "User"
  resourceId := some userId
  result := result
  metadata := [("previousStatus", previous.elim .null fun s => .str s.text), (name, .str status.text)]

/-- The `try` block: the update with its audit record. -/
def updateStatus (userId : String) (previous : Option KycStatus) (status : KycStatus) (now : ℤ) : Service χ Unit := do
  let updated ← prisma (Prisma.appUser.update (uuid userId) (setKycStatus status now))
  AuditLogService.createOrThrow (statusEntry userId .success previous "newStatus" updated.kycStatus)

/-- Write the status; a failure is audited and swallowed. -/
def writeStatus (userId : String) (status : KycStatus) : Service χ Unit := do
  let w ← Svc.get
  let existing ← prisma (Prisma.appUser.findUnique (uuid userId))
  let previous := existing.map AppUser.kycStatus
  let outcome ← Svc.attempt (updateStatus userId previous status w.now)
  match outcome with
  | .ok _ => pure ()
  | .error _ => AuditLogService.createOrThrow (statusEntry userId .failure previous "attemptedStatus" status)

/-- A `vendor_data` that is no text, but prints as a UUID, is refused by Prisma. -/
def processWebhookEvent (payload : Json) : Service χ Unit :=
  match vendorData payload with
  | none => pure ()
  | some j => do
    let status ← Svc.ofExcept (statusLower payload)
    let userId ← Svc.orThrow (Json.asString (some j)) (.prisma .validation)
    writeStatus userId (statusOfText status)

end KycService

end IKash
