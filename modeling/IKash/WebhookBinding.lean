import IKash.Accounts
import Mathlib.Logic.Encodable.Basic
import Mathlib.Logic.Equiv.List

/-!
# What a webhook signature binds

Two accepted webhooks with the same signature header. The HMAC is assumed to be free of collisions, and the payload is
what the body parser makes of the raw body.

- `signature_binds_iff`: all the webhooks accepted with a header name the same user and the same status exactly when the
  header is a signature of the raw body. The simple signature covers the session, the status and the type that stand at
  the top of the payload, and not the user.
-/

namespace IKash

open Lib KycService

inductive SignatureKind where
  | v2 | v1 | simple
deriving DecidableEq, Repr

/-- The signature that `verifyWebhookSignature` compares. -/
def WebhookHeaders.signature (h : WebhookHeaders) : Option (SignatureKind × String) :=
  ((truthyText h.signatureV2).map (.v2, ·)).or <|
  ((truthyText h.signatureV1).map (.v1, ·)).or <|
  (truthyText h.signatureSimple).map (.simple, ·)

/-- The user and the status that `processWebhookEvent` reads from a payload. -/
def extracted (payload : Json) : Option Json × Except Thrown KycStatus :=
  (vendorData payload, (statusLower payload).map statusOfText)

/-- A webhook request with its time. -/
structure WebhookRequest where
  now : ℤ
  headers : WebhookHeaders
  rawBody : Bytes
  payload : Json

/-- The request has the signature, its payload is the parse of its body, and it passes the verification. -/
structure Accepted (crypto : Crypto) (secret : Option String) (parse : Bytes → Option Json)
    (sig : SignatureKind × String) (req : WebhookRequest) : Prop where
  signature : req.headers.signature = some sig
  parsed : parse req.rawBody = some req.payload
  verified : verifyWebhookSignature crypto secret req.now req.headers (some req.rawBody) req.payload = .ok ()

/-- Every two accepted requests with the signature name the same user and status. -/
def Binds (crypto : Crypto) (secret : Option String) (parse : Bytes → Option Json) (sig : SignatureKind × String) :
    Prop :=
  ∀ req₁ req₂, Accepted crypto secret parse sig req₁ → Accepted crypto secret parse sig req₂ →
    extracted req₁.payload = extracted req₂.payload

/-! ## Bytes of a hexadecimal text -/

def hexByte (n : ℕ) : UInt8 := UInt8.ofNat (if n < 10 then n + 48 else n + 87)

theorem utf8_hexDigit {n : ℕ} (h : n < 16) : String.utf8EncodeChar (Json.hexDigit n) = [hexByte n] := by
  revert n
  decide

theorem hexByte_injective {m n : ℕ} (hm : m < 16) (hn : n < 16) (h : hexByte m = hexByte n) : m = n := by
  have hall : ∀ m < 16, ∀ n < 16, hexByte m = hexByte n → m = n := by decide
  exact hall m hm n hn h

theorem utf8_hex (bytes : Bytes) :
    utf8 (hex bytes) = bytes.flatMap fun b => [hexByte (b.toNat / 16), hexByte (b.toNat % 16)] := by
  unfold utf8 hex
  rw [String.toList_ofList, List.flatMap_assoc]
  congr 1
  funext b
  have hb : b.toNat < 256 := b.toNat_lt
  have hhigh : b.toNat / 16 < 16 := by omega
  have hlow : b.toNat % 16 < 16 := by omega
  simp only [List.flatMap_cons, List.flatMap_nil, utf8_hexDigit hhigh, utf8_hexDigit hlow, List.append_nil,
    List.singleton_append]

theorem utf8_hex_injective : ∀ {a b : Bytes}, utf8 (hex a) = utf8 (hex b) → a = b := by
  intro a b h
  rw [utf8_hex, utf8_hex] at h
  induction a generalizing b with
  | nil =>
    cases b with
    | nil => rfl
    | cons y ys => cases h
  | cons x xs ih =>
    cases b with
    | nil => cases h
    | cons y ys =>
      simp only [List.flatMap_cons, List.cons_append, List.nil_append, List.cons.injEq] at h
      obtain ⟨hhigh, hlow, hrest⟩ := h
      have hx : x.toNat < 256 := x.toNat_lt
      have hy : y.toNat < 256 := y.toNat_lt
      have hhigh := hexByte_injective (by omega) (by omega) hhigh
      have hlow := hexByte_injective (by omega) (by omega) hlow
      have hxy : x = y := UInt8.toNat_inj.mp (by omega)
      rw [hxy, ih hrest]

theorem hex_ne_empty {bytes : Bytes} (h : bytes ≠ []) : hex bytes ≠ "" := by
  cases bytes with
  | nil => exact absurd rfl h
  | cons b rest =>
    intro hempty
    have hchars := congrArg String.toList hempty
    unfold hex at hchars
    rw [String.toList_ofList] at hchars
    cases hchars

/-! ## What the verification has compared -/

section Compared

variable {crypto : Crypto} {secret : Option String} {parse : Bytes → Option Json} {sig : SignatureKind × String}
  {req : WebhookRequest}

/-- The bytes that a signature of the kind is compared with. -/
def signedBytes (kind : SignatureKind) (rawBody : Bytes) (payload : Json) : Bytes :=
  if kind = .simple then utf8 (simplePayload payload) else rawBody

theorem checkSignature_eq_ok {s : String} {headers : WebhookHeaders} {rawBody : Bytes} {payload : Json}
    (h : headers.signature = some sig) : checkSignature crypto s headers rawBody payload = .ok () ↔
      utf8 (Json.trim sig.2) = utf8 (hex (crypto.hmacSha256 (utf8 s) (signedBytes sig.1 rawBody payload))) := by
  unfold WebhookHeaders.signature at h
  unfold checkSignature timingSafeEqual signedBytes
  cases h₂ : truthyText headers.signatureV2 with
  | some x =>
    rw [h₂] at h
    cases h
    simp [invalidSignature]
  | none =>
    cases h₁ : truthyText headers.signatureV1 with
    | some x =>
      rw [h₂, h₁] at h
      cases h
      simp [invalidSignature]
    | none =>
      cases hs : truthyText headers.signatureSimple with
      | none => rw [h₂, h₁, hs] at h; cases h
      | some x =>
        rw [h₂, h₁, hs] at h
        cases h
        simp [invalidSignature]

theorem verify_eq_ok {now : ℤ} {headers : WebhookHeaders} {rawBody : Bytes} {payload : Json} :
    verifyWebhookSignature crypto secret now headers (some rawBody) payload = .ok () ↔
      ∃ s, truthyText secret = some s ∧ ¬ Stale now headers.timestamp ∧
        checkSignature crypto s headers rawBody payload = .ok () := by
  unfold verifyWebhookSignature
  cases truthyText secret with
  | none => simp [bind, Except.bind]
  | some s =>
    by_cases hstale : Stale now headers.timestamp
    · simp [bind, Except.bind, hstale]
    · simp [bind, Except.bind, hstale]

/-- The same signature is one of the same bytes. -/
theorem signedBytes_eq (hmac : ∀ key, Function.Injective (crypto.hmacSha256 key)) {req₁ req₂ : WebhookRequest}
    (h₁ : Accepted crypto secret parse sig req₁) (h₂ : Accepted crypto secret parse sig req₂) :
    signedBytes sig.1 req₁.rawBody req₁.payload = signedBytes sig.1 req₂.rawBody req₂.payload := by
  obtain ⟨s₁, hs₁, -, hc₁⟩ := verify_eq_ok.mp h₁.verified
  obtain ⟨s₂, hs₂, -, hc₂⟩ := verify_eq_ok.mp h₂.verified
  obtain rfl : s₁ = s₂ := Option.some.inj (hs₁.symm.trans hs₂)
  rw [checkSignature_eq_ok h₁.signature] at hc₁
  rw [checkSignature_eq_ok h₂.signature] at hc₂
  exact hmac _ (utf8_hex_injective (hc₁.symm.trans hc₂))

end Compared

/-! ## A payload with another user -/

/-- The payload with the three signed texts and the user. -/
def simpleBody (session status webhookType vendor : String) : Json :=
  .obj [("session_id", .str session), ("status", .str status), ("webhook_type", .str webhookType),
    ("vendor_data", .str vendor)]

theorem payloadText_str {fields : List (String × Json)} {name s : String} (h : fields.lookup name = some (.str s)) :
    payloadText (.obj fields) name = s := by
  have hfield : (Json.obj fields).field name = some (.str s) := h
  unfold payloadText
  rw [hfield]
  by_cases hs : s = ""
  · simp [Json.truthy, hs]
  · simp [Json.truthy, hs, Json.text]

theorem simplePayload_simpleBody (payload : Json) (vendor : String) :
    simplePayload (simpleBody (payloadText payload "session_id") (payloadText payload "status")
      (payloadText payload "webhook_type") vendor) = simplePayload payload := by
  unfold simplePayload simpleBody
  rw [payloadText_str rfl, payloadText_str rfl, payloadText_str rfl]

theorem vendorData_simpleBody (session status webhookType : String) {vendor : String} (hne : vendor ≠ "")
    (huuid : uuidRegex vendor = true) :
    vendorData (simpleBody session status webhookType vendor) = some (.str vendor) := by
  have hfield : payloadField (simpleBody session status webhookType vendor) "vendor_data" = some (.str vendor) := rfl
  unfold vendorData
  rw [hfield]
  simp [Json.truthy, Json.text, hne, huuid]

/-- **Authenticity** binds the user and the status exactly when the signature is one of the raw body. -/
theorem signature_binds_iff (crypto : Crypto) (secret : Option String) (parse : Bytes → Option Json)
    (hmac : ∀ key, Function.Injective (crypto.hmacSha256 key))
    (hparse : ∀ session status webhookType vendor, ∃ body,
      parse body = some (simpleBody session status webhookType vendor))
    (sig : SignatureKind × String) (hsig : ∃ req, Accepted crypto secret parse sig req) :
    Binds crypto secret parse sig ↔ sig.1 ≠ .simple := by
  constructor
  · rintro h hsimple
    obtain ⟨req, hreq⟩ := hsig
    -- the same texts for two users
    have haccepted : ∀ vendor, ∃ body, Accepted crypto secret parse sig
        ⟨req.now, req.headers, body, simpleBody (payloadText req.payload "session_id")
          (payloadText req.payload "status") (payloadText req.payload "webhook_type") vendor⟩ := by
      intro vendor
      obtain ⟨body, hbody⟩ := hparse (payloadText req.payload "session_id") (payloadText req.payload "status")
        (payloadText req.payload "webhook_type") vendor
      refine ⟨body, hreq.signature, hbody, ?_⟩
      obtain ⟨s, hs, hstale, hcheck⟩ := verify_eq_ok.mp hreq.verified
      refine verify_eq_ok.mpr ⟨s, hs, hstale, ?_⟩
      rw [checkSignature_eq_ok hreq.signature, signedBytes, if_pos hsimple] at hcheck
      rw [checkSignature_eq_ok hreq.signature, signedBytes, if_pos hsimple, simplePayload_simpleBody]
      exact hcheck
    obtain ⟨body₁, h₁⟩ := haccepted Wallets.sellerId
    obtain ⟨body₂, h₂⟩ := haccepted Wallets.buyerId
    have hvendor := congrArg Prod.fst (h _ _ h₁ h₂)
    dsimp only [extracted] at hvendor
    rw [vendorData_simpleBody _ _ _ (by decide) (by decide), vendorData_simpleBody _ _ _ (by decide) (by decide)]
      at hvendor
    injection hvendor with hvendor
    injection hvendor with hvendor
    revert hvendor
    decide
  · intro hkind req₁ req₂ h₁ h₂
    have hbytes := signedBytes_eq hmac h₁ h₂
    rw [signedBytes, if_neg hkind, signedBytes, if_neg hkind] at hbytes
    have hpayload := h₁.parsed
    rw [hbytes, h₂.parsed] at hpayload
    rw [Option.some.inj hpayload]

/-! ## The webhooks of two wallets -/

namespace Wallets

def approved (vendor : String) : Json := simpleBody "sess-1" "Approved" "status.updated" vendor

def approvedBody (vendor : String) : Bytes := utf8 (approved vendor).stringify

/-- The HMAC of the buyer's body under the secret. -/
def approvedMac : Bytes :=
  [0x8a, 0xfc, 0x19, 0xfd, 0x9c, 0x42, 0xfc, 0x16, 0x6d, 0x6d, 0x8c, 0xe3, 0x54, 0xdc, 0xf6, 0x54,
    0xc9, 0x34, 0xf5, 0x7d, 0xc4, 0xb0, 0xf0, 0xe8, 0x30, 0x7c, 0x4c, 0x6a, 0x71, 0xff, 0xbc, 0x1b]

/-- The HMAC of `:sess-1:Approved:status.updated` under the secret. -/
def simpleMac : Bytes :=
  [0x12, 0x2c, 0x93, 0x35, 0xeb, 0x07, 0xea, 0xd8, 0x3b, 0x7d, 0x63, 0x76, 0x6b, 0x37, 0xb3, 0x96,
    0x20, 0x31, 0x80, 0x33, 0xf7, 0x15, 0x4c, 0x14, 0x45, 0xfe, 0x2f, 0xe3, 0x8a, 0x32, 0xb8, 0x0f]

/-- The two HMACs, and another value for every other message. -/
def webhookHmac (message : Bytes) : Bytes :=
  if message = approvedBody buyerId then approvedMac
  else if message = utf8 ":sess-1:Approved:status.updated" then simpleMac
  else 0 :: message

theorem webhookHmac_injective : Function.Injective webhookHmac := by
  intro a b h
  unfold webhookHmac at h
  split at h <;> split at h <;> (try split at h) <;> (try split at h) <;> simp_all [approvedMac, simpleMac]

def webhookCrypto : Crypto := { crypto with hmacSha256 := fun _ => webhookHmac }

def textOfCodes (codes : List ℕ) : String := String.ofList (codes.map Char.ofNat)

def codesOfText (s : String) : List ℕ := s.toList.map Char.toNat

theorem textOfCodes_codesOfText (s : String) : textOfCodes (codesOfText s) = s := by
  unfold textOfCodes codesOfText
  rw [List.map_map]
  have hid : Char.ofNat ∘ Char.toNat = id := funext fun c => Char.ofNat_toNat c
  rw [hid, List.map_id, String.ofList_toList]

/-- The parse of the two bodies. The other bodies stand for the other payloads by their lengths. -/
def parseBody (body : Bytes) : Option Json :=
  if body = approvedBody buyerId then some (approved buyerId)
  else if body = approvedBody sellerId then some (approved sellerId)
  else (Encodable.decode body.length : Option (List ℕ × List ℕ × List ℕ × List ℕ)).map
    fun (session, status, webhookType, vendor) => simpleBody (textOfCodes session) (textOfCodes status)
      (textOfCodes webhookType) (textOfCodes vendor)

theorem approvedBody_cons (vendor : String) : ∃ rest, approvedBody vendor = 0x7b :: rest := by
  have hbrace : "\x7b".toList.flatMap String.utf8EncodeChar = [0x7b] := by decide
  unfold approvedBody approved simpleBody Json.stringify utf8
  rw [String.toList_append, String.toList_append, List.flatMap_append, List.flatMap_append, hbrace]
  exact ⟨_, rfl⟩

theorem approvedBody_ne_replicate (vendor : String) (n : ℕ) : List.replicate n 0 ≠ approvedBody vendor := by
  obtain ⟨rest, hrest⟩ := approvedBody_cons vendor
  rw [hrest]
  cases n with
  | zero => simp
  | succ m => simp [List.replicate_succ]

theorem parseBody_simpleBody (session status webhookType vendor : String) :
    ∃ body, parseBody body = some (simpleBody session status webhookType vendor) := by
  let n := Encodable.encode (codesOfText session, codesOfText status, codesOfText webhookType, codesOfText vendor)
  refine ⟨List.replicate n 0, ?_⟩
  unfold parseBody
  rw [if_neg (approvedBody_ne_replicate _ n), if_neg (approvedBody_ne_replicate _ n), List.length_replicate, Encodable.encodek]
  simp [textOfCodes_codesOfText]

theorem parseBody_buyer : parseBody (approvedBody buyerId) = some (approved buyerId) := by
  unfold parseBody
  rw [if_pos rfl]

theorem parseBody_seller : parseBody (approvedBody sellerId) = some (approved sellerId) := by
  have hescaped : (sellerId.toList.flatMap Json.escapeChar).flatMap String.utf8EncodeChar ≠
    (buyerId.toList.flatMap Json.escapeChar).flatMap String.utf8EncodeChar := by decide
  have hne : approvedBody sellerId ≠ approvedBody buyerId := by
    intro h
    simp only [approvedBody, approved, simpleBody, Json.stringify, Json.stringifyFields, Json.join, Json.quote, utf8,
      String.toList_append, String.toList_ofList, List.flatMap_append, List.append_cancel_left_eq,
      List.append_cancel_right_eq] at h
    exact hescaped h
  unfold parseBody
  rw [if_neg hne, if_pos rfl]

/-- The buyer's webhook with a signature of its body. -/
def signed : WebhookRequest := ⟨0, { signatureV2 := some (hex approvedMac) }, approvedBody buyerId, approved buyerId⟩

/-- A user's webhook with the simple signature. -/
def simplySigned (vendor : String) : WebhookRequest :=
  ⟨0, { signatureSimple := some (hex simpleMac) }, approvedBody vendor, approved vendor⟩

theorem signed_accepted :
    Accepted webhookCrypto (some webhookSecret) parseBody (.v2, hex approvedMac) signed := by
  have hheaders : signed.headers = { signatureV2 := some (hex approvedMac) } := rfl
  have hne : hex approvedMac ≠ "" := hex_ne_empty (by decide)
  have hsignature : signed.headers.signature = some (.v2, hex approvedMac) := by
    rw [hheaders]
    simp [WebhookHeaders.signature, truthyText, hne]
  have hmac : webhookHmac (approvedBody buyerId) = approvedMac := if_pos rfl
  have htrim : Json.trim (hex approvedMac) = hex approvedMac := by decide
  have hparsed : parseBody signed.rawBody = some signed.payload := by
    dsimp only [signed]
    exact parseBody_buyer
  refine ⟨hsignature, hparsed, verify_eq_ok.mpr ⟨webhookSecret, by decide, by decide, ?_⟩⟩
  rw [checkSignature_eq_ok hsignature, signedBytes, if_neg (by decide)]
  dsimp only [signed, webhookCrypto]
  rw [hmac, htrim]

/-- The simple signature does not sign the vendor data. -/
theorem simplePayload_approved (vendor : String) :
    simplePayload (approved vendor) = ":sess-1:Approved:status.updated" := by
  unfold approved simplePayload simpleBody
  rw [payloadText_str rfl, payloadText_str rfl, payloadText_str rfl]
  decide

theorem webhookHmac_simple : webhookHmac (utf8 ":sess-1:Approved:status.updated") = simpleMac := by
  have hne : utf8 ":sess-1:Approved:status.updated" ≠ approvedBody buyerId := by
    obtain ⟨rest, hrest⟩ := approvedBody_cons buyerId
    rw [hrest]
    intro h
    have hhead := congrArg List.head? h
    rw [List.head?_cons] at hhead
    exact absurd hhead (by decide)
  unfold webhookHmac
  rw [if_neg hne, if_pos rfl]

theorem simplySigned_accepted {vendor : String} (h : parseBody (approvedBody vendor) = some (approved vendor)) :
    Accepted webhookCrypto (some webhookSecret) parseBody (.simple, hex simpleMac) (simplySigned vendor) := by
  have hheaders : (simplySigned vendor).headers = { signatureSimple := some (hex simpleMac) } := rfl
  have hne : hex simpleMac ≠ "" := hex_ne_empty (by decide)
  have hsignature : (simplySigned vendor).headers.signature = some (.simple, hex simpleMac) := by
    rw [hheaders]
    simp [WebhookHeaders.signature, truthyText, hne]
  have hstale : ¬ Stale (simplySigned vendor).now (simplySigned vendor).headers.timestamp := by
    rw [hheaders]
    unfold Stale
    simp [truthyText]
  have htrim : Json.trim (hex simpleMac) = hex simpleMac := by decide
  have hparsed : parseBody (simplySigned vendor).rawBody = some (simplySigned vendor).payload := by
    dsimp only [simplySigned]
    exact h
  refine ⟨hsignature, hparsed, verify_eq_ok.mpr ⟨webhookSecret, by decide, hstale, ?_⟩⟩
  rw [checkSignature_eq_ok hsignature, signedBytes, if_pos rfl]
  dsimp only [simplySigned, webhookCrypto]
  rw [simplePayload_approved, webhookHmac_simple, htrim]

end Wallets

theorem approved_webhook_binds :
    Binds Wallets.webhookCrypto (some Wallets.webhookSecret) Wallets.parseBody (.v2, hex Wallets.approvedMac) :=
  (signature_binds_iff Wallets.webhookCrypto (some Wallets.webhookSecret) Wallets.parseBody
    (fun _ => Wallets.webhookHmac_injective) Wallets.parseBody_simpleBody _ ⟨_, Wallets.signed_accepted⟩).mpr
    (by decide)

/-- One simple signature passes with the seller's webhook and with the buyer's. -/
theorem simple_signature_swaps_user :
    (∀ key, Function.Injective (Wallets.webhookCrypto.hmacSha256 key)) ∧
      ¬ Binds Wallets.webhookCrypto (some Wallets.webhookSecret) Wallets.parseBody (.simple, hex Wallets.simpleMac) := by
  refine ⟨fun _ => Wallets.webhookHmac_injective, fun h => ?_⟩
  have hsame := h _ _ (Wallets.simplySigned_accepted Wallets.parseBody_seller)
    (Wallets.simplySigned_accepted Wallets.parseBody_buyer)
  have huser := congrArg Prod.fst hsame
  dsimp only [extracted, Wallets.simplySigned, Wallets.approved] at huser
  rw [vendorData_simpleBody _ _ _ (by decide) (by decide), vendorData_simpleBody _ _ _ (by decide) (by decide)]
    at huser
  injection huser with huser
  injection huser with huser
  exact absurd huser (by decide)

end IKash
