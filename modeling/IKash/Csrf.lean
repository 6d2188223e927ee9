import IKash.Cookies
import IKash.Lib.Machine

/-!
# Double-submit CSRF tokens

`getCsrfToken` sets a token in a cookie and returns it, and `CsrfGuard` lets a mutation through if the client sends the
token of the cookie once more in a header or in the body. `csrfBrowser` is the server with the cookies of one client,
`csrfSession` the session it is for: one token with the time it ends.

- `canActivate_eq`: whom the guard lets through, given the token of the cookie;
- `KeepsSession.cookie`: what the server reads of the cookies of a client;
- `csrf_refines`: client and server answer as the session does.
-/

namespace IKash

open Lib

def csrfCookieName : CookieName where
  text := "_csrf"
  ne := by decide
  chars := by decide
  trimmed := ⟨fun c hc => by cases hc; decide, fun c hc => by cases hc; decide⟩
  not_proto := by decide

/-- `maxAge` of the cookie, in milliseconds. -/
def csrfMaxAge : ℤ := 24 * 60 * 60 * 1000

/-- What the guard reads of a request besides its cookies; `exempt` is the `@CsrfExempt()` of the handler. -/
structure CsrfRequest where
  method : Option String
  exempt : Bool
  csrfHeader : Option String
  xsrfHeader : Option String
  body : Option Json

namespace CsrfGuard

def safeMethods : List String := ["GET", "HEAD", "OPTIONS"]

def cookieToken (cookieHeader : Option String) : Option String :=
  (cookie (parseCookies cookieHeader) csrfCookieName.text).map Json.trim

def submittedToken (req : CsrfRequest) : Option String :=
  (Json.asString <|
    Json.or (Json.or (Json.or (req.csrfHeader.map Json.str) (req.xsrfHeader.map Json.str))
      (req.body.bind fun body => body.field "_csrf")) (req.body.bind fun body => body.field "csrfToken")).map Json.trim

def tokenMissing : Thrown := .app .csrfTokenMissing "CSRF token missing from cookie or request header"

def tokenInvalid : Thrown := .app .csrfTokenInvalid "Invalid CSRF token"

def canActivate (cookieHeader : Option String) (req : CsrfRequest) : Except Thrown Unit :=
  match truthyText req.method with
  | none => .ok ()
  | some method =>
    if Json.toUpperCase method ∈ safeMethods then .ok ()
    else if req.exempt then .ok ()
    else
      match truthyText (cookieToken cookieHeader), truthyText (submittedToken req) with
      | some cookieToken, some submittedToken =>
        if KycService.timingSafeEqual cookieToken submittedToken then .ok () else .error tokenInvalid
      | _, _ => .error tokenMissing

end CsrfGuard

/-- `/^[a-f0-9]{64}$/i` -/
def isCsrfToken (s : String) : Bool :=
  s.toList.length = 64 ∧ s.toList.all fun c => ('a' ≤ c ∧ c ≤ 'f') ∨ ('A' ≤ c ∧ c ≤ 'F') ∨ c.isDigit

/-- `AuthController.getCsrfToken`: the token that is returned and set as the cookie. -/
def AuthController.getCsrfToken (cookieHeader : Option String) (random : Bytes) : String :=
  match (cookie (parseCookies cookieHeader) csrfCookieName.text).map Json.trim with
  | some existing => if isCsrfToken existing then existing else hex random
  | none => hex random

/-! ## A client -/

structure StoredCookie where
  cookie : Cookie
  expires : Option ℤ

def StoredCookie.isLive (now : ℤ) (c : StoredCookie) : Bool := c.expires.all fun e => now < e

abbrev Jar := List StoredCookie

/-- The `Cookie` header of a request to the server. -/
def Jar.header (jar : Jar) (now : ℤ) : Option String :=
  cookieHeader ((jar.filter fun c => c.isLive now).map StoredCookie.cookie)

def Jar.forget (jar : Jar) (name : String) : Jar := jar.filter fun c => c.cookie.name ≠ name

/-- A cookie replaces the one that had its name. -/
def Jar.store (jar : Jar) (c : StoredCookie) : Jar := jar.forget c.cookie.name ++ [c]

def csrfCookie (token : String) (now : ℤ) : StoredCookie := ⟨csrfCookieName.set token, some (now + csrfMaxAge)⟩

inductive CsrfOp where
  /-- `GET /auth/csrf`, with the bytes that `randomBytes(32)` gives if it is asked -/
  | fetch (now : ℤ) (random : Bytes) (length : random.length = 32)
  /-- a cookie that something else has set -/
  | store (c : StoredCookie) (other : Json.trim c.cookie.name ≠ csrfCookieName.text)
  | forget (name : String)
  | send (now : ℤ) (req : CsrfRequest)

inductive CsrfAnswer where
  | token (csrfToken : String)
  | guard (result : Except Thrown Unit)
  | nothing

def csrfBrowser : Machine Jar CsrfOp CsrfAnswer where
  step jar
    | .fetch now random _ =>
      let token := AuthController.getCsrfToken (jar.header now) random
      (.token token, jar.store (csrfCookie token now))
    | .store c _ => (.nothing, jar.store c)
    | .forget name => (.nothing, jar.forget name)
    | .send now req => (.guard (CsrfGuard.canActivate (jar.header now) req), jar)

/-! ## The session -/

structure CsrfSession where
  token : String
  expires : ℤ
  isToken : isCsrfToken token

namespace CsrfSession

/-- What is not checked: sockets, requests that only read, and handlers that are exempt. -/
def Unchecked (req : CsrfRequest) : Prop :=
  (∀ method ∈ truthyText req.method, Json.toUpperCase method ∈ CsrfGuard.safeMethods) ∨ req.exempt

instance (req : CsrfRequest) : Decidable (Unchecked req) := inferInstanceAs (Decidable (_ ∨ _))

/-- The guard, given the token of the session. -/
def check (token : Option String) (req : CsrfRequest) : Except Thrown Unit :=
  if Unchecked req then .ok ()
  else
    match token, truthyText (CsrfGuard.submittedToken req) with
    | some token, some submitted => if submitted = token then .ok () else .error CsrfGuard.tokenInvalid
    | _, _ => .error CsrfGuard.tokenMissing

theorem isCsrfToken_hex {random : Bytes} (h : random.length = 32) : isCsrfToken (hex random) = true := by
  have hdigits : ∀ n < 16, ('a' ≤ Json.hexDigit n ∧ Json.hexDigit n ≤ 'f') ∨
      ('A' ≤ Json.hexDigit n ∧ Json.hexDigit n ≤ 'F') ∨ (Json.hexDigit n).isDigit = true := by decide
  have hlength : ∀ bytes : Bytes, (bytes.flatMap fun b =>
      [Json.hexDigit (b.toNat / 16), Json.hexDigit (b.toNat % 16)]).length = 2 * bytes.length := by
    intro bytes
    induction bytes with
    | nil => rfl
    | cons b bytes ih =>
      rw [List.flatMap_cons, List.length_append, ih, List.length_cons]
      simp only [List.length_cons, List.length_nil]
      omega
  rw [isCsrfToken, decide_eq_true_iff, hex, String.toList_ofList, hlength, h, List.all_eq_true]
  refine ⟨rfl, fun c hc => ?_⟩
  obtain ⟨b, -, hb⟩ := List.mem_flatMap.mp hc
  have hlt : b.toNat < 256 := b.toNat_lt
  simp only [List.mem_cons, List.not_mem_nil, or_false] at hb
  rcases hb with rfl | rfl
  · exact decide_eq_true (hdigits _ (by omega))
  · exact decide_eq_true (hdigits _ (by omega))

/-- The token, until the session ends. -/
def current (s : Option CsrfSession) (now : ℤ) : Option CsrfSession := s.filter fun s => now < s.expires

/-- Asking for the token keeps it, or starts a session; it ends 24 hours later. -/
def fetch (s : Option CsrfSession) (now : ℤ) (random : Bytes) (length : random.length = 32) : CsrfSession :=
  match current s now with
  | some s => ⟨s.token, now + csrfMaxAge, s.isToken⟩
  | none => ⟨hex random, now + csrfMaxAge, isCsrfToken_hex length⟩

end CsrfSession

def csrfSession : Machine (Option CsrfSession) CsrfOp CsrfAnswer where
  step s
    | .fetch now random length =>
      let s := CsrfSession.fetch s now random length
      (.token s.token, some s)
    | .store _ _ => (.nothing, s)
    | .forget name => (.nothing, if name = csrfCookieName.text then none else s)
    | .send now req => (.guard (CsrfSession.check ((CsrfSession.current s now).map CsrfSession.token) req), s)

/-! ## Tokens -/

theorem utf8_injective {a b : String} (h : utf8 a = utf8 b) : a = b := by
  have hbytes : ∀ s : String, s.toByteArray = (utf8 s).toByteArray := by
    intro s
    rw [utf8, ← List.utf8Encode, String.utf8Encode_toList]
  rw [← String.toByteArray_inj, hbytes, hbytes, h]

theorem timingSafeEqual_iff {a b : String} : KycService.timingSafeEqual a b = true ↔ b = a := by
  rw [KycService.timingSafeEqual, decide_eq_true_iff]
  exact ⟨fun h => (utf8_injective h).symm, fun h => by rw [h]⟩

theorem isAlphanumeric_of_mem_token {t : String} (h : isCsrfToken t = true) {c : Char} (hc : c ∈ t.toList) :
    isAlphanumeric c = true := by
  rw [isCsrfToken, decide_eq_true_iff, List.all_eq_true] at h
  rw [isAlphanumeric, Bool.or_eq_true, isAlpha_iff]
  rcases decide_eq_true_iff.mp (h.2 c hc) with ⟨hle, hge⟩ | ⟨hle, hge⟩ | hdigit
  · exact .inl (.inr ((Bool.and_eq_true _ _).mpr ⟨decide_eq_true hle, decide_eq_true (UInt32.le_trans hge (by decide))⟩))
  · exact .inl (.inl (decide_eq_true ⟨hle, UInt32.le_trans hge (by decide)⟩))
  · exact .inr hdigit

theorem trim_token {t : String} (h : isCsrfToken t = true) : Json.trim t = t := by
  have hall : ∀ c ∈ t.toList, Json.isWhitespace c = false :=
    fun c hc => isWhitespace_alphanumeric (isAlphanumeric_of_mem_token h hc)
  exact Json.trim_of_trimmed ⟨fun d hd => hall d (List.mem_of_mem_head? hd),
    fun d hd => hall d (List.mem_of_mem_getLast? hd)⟩

theorem truthy_token {t : String} (h : isCsrfToken t = true) : truthyText (some t) = some t := by
  rw [truthyText, Option.filter_some, if_pos]
  rw [decide_eq_true_iff]
  rintro rfl
  exact absurd h (by decide)

/-- The guard compares with the token of the cookie. -/
theorem canActivate_eq (cookieHeader : Option String) (req : CsrfRequest) :
    CsrfGuard.canActivate cookieHeader req =
      CsrfSession.check (truthyText (CsrfGuard.cookieToken cookieHeader)) req := by
  unfold CsrfGuard.canActivate CsrfSession.check
  split
  next hnone =>
    have hunchecked : CsrfSession.Unchecked req := by
      left
      rw [hnone]
      exact fun m hm => nomatch hm
    rw [if_pos hunchecked]
  next method hsome =>
    have hunchecked : CsrfSession.Unchecked req ↔
        Json.toUpperCase method ∈ CsrfGuard.safeMethods ∨ req.exempt = true := by
      rw [CsrfSession.Unchecked, hsome]
      simp only [Option.mem_def, Option.some.injEq, forall_eq']
    by_cases hsafe : Json.toUpperCase method ∈ CsrfGuard.safeMethods
    · rw [if_pos hsafe, if_pos (hunchecked.mpr (.inl hsafe))]
    · by_cases hexempt : req.exempt = true
      · rw [if_neg hsafe, if_pos hexempt, if_pos (hunchecked.mpr (.inr hexempt))]
      · rw [if_neg hsafe, if_neg hexempt, if_neg (hunchecked.not.mpr (not_or.mpr ⟨hsafe, hexempt⟩))]
        cases truthyText (CsrfGuard.cookieToken cookieHeader) with
        | none => rfl
        | some token =>
          cases truthyText (CsrfGuard.submittedToken req) with
          | none => rfl
          | some submitted => simp only [timingSafeEqual_iff]

/-! ## What the server reads of a jar -/

section Lookup

variable {α β : Type} [BEq α] [LawfulBEq α]

theorem lookup_filter (k : α) (l : List (α × β)) : (l.filter fun c => c.1 == k).lookup k = l.lookup k := by
  induction l with
  | nil => rfl
  | cons c l ih =>
    obtain ⟨a, b⟩ := c
    by_cases h : a = k
    · rw [List.filter_cons_of_pos (p := fun c : α × β => c.1 == k) (beq_iff_eq.mpr h), List.lookup_cons,
        List.lookup_cons, ih]
    · rw [List.filter_cons_of_neg (p := fun c : α × β => c.1 == k) (by rwa [beq_iff_eq]), List.lookup_cons,
        beq_eq_false_iff_ne.mpr (Ne.symm h), ih]

end Lookup

def StoredCookie.isCsrf (c : StoredCookie) : Bool := Json.trim c.cookie.name = csrfCookieName.text

/-- The cookie that keeps a session. -/
def CsrfSession.stored (s : CsrfSession) : StoredCookie := ⟨csrfCookieName.set s.token, some s.expires⟩

/-- The only cookie of the jar under the name is the one of the session. -/
def KeepsSession (jar : Jar) (s : Option CsrfSession) : Prop :=
  jar.filter StoredCookie.isCsrf = s.toList.map CsrfSession.stored

variable {jar : Jar} {s : Option CsrfSession}

theorem KeepsSession.live (h : KeepsSession jar s) (now : ℤ) :
    (jar.filter fun c => c.isLive now).filter StoredCookie.isCsrf =
      (CsrfSession.current s now).toList.map CsrfSession.stored := by
  rw [List.filter_comm, h, List.filter_map, CsrfSession.current, Option.toList_filter]
  rfl

/-- What the server reads under the name. -/
theorem filter_parseCookies (jar : Jar) (now : ℤ) :
    (parseCookies (jar.header now)).filter (fun c => c.1 == csrfCookieName.text) =
      ((jar.filter fun c => c.isLive now).filter StoredCookie.isCsrf).map fun c => c.cookie.read := by
  have hname : ∀ c : StoredCookie, (c.cookie.read.1 == csrfCookieName.text && decide (c.cookie.read.1 ≠ "__proto__")) =
      c.isCsrf := by
    intro c
    rw [Bool.eq_iff_iff, Bool.and_eq_true, decide_eq_true_iff, beq_iff_eq, StoredCookie.isCsrf, decide_eq_true_iff]
    refine ⟨And.left, fun hc => ⟨hc, ?_⟩⟩
    have hread : c.cookie.read.1 = csrfCookieName.text := hc
    rw [hread]
    exact csrfCookieName.not_proto
  rw [Jar.header, parseCookies_header, List.map_map, List.filter_filter, List.filter_map]
  exact congrArg (List.map _) (List.filter_congr fun c _ => hname c)

/-- The server reads the token of the session from the cookies of the client. -/
theorem KeepsSession.cookie (h : KeepsSession jar s) (now : ℤ) :
    CsrfGuard.cookieToken (jar.header now) = (CsrfSession.current s now).map CsrfSession.token := by
  rw [CsrfGuard.cookieToken, IKash.cookie, ← lookup_filter, List.filter_reverse, filter_parseCookies, h.live]
  cases CsrfSession.current s now with
  | none => rfl
  | some s =>
    have hread : s.stored.cookie.read = (csrfCookieName.text, s.token) := csrfCookieName.read_set s.token
    simp only [Option.toList_some, List.map_cons, List.map_nil, List.reverse_singleton, hread, List.lookup_cons_self,
      Option.map_some, trim_token s.isToken]

theorem KeepsSession.forget (h : KeepsSession jar s) (name : String) :
    KeepsSession (jar.forget name) (if name = csrfCookieName.text then none else s) := by
  have hname : ∀ s : CsrfSession, s.stored.cookie.name = csrfCookieName.text := fun _ => rfl
  unfold KeepsSession Jar.forget at *
  rw [List.filter_comm, h]
  cases s with
  | none => rw [ite_self]; rfl
  | some s =>
    rw [Option.toList_some, List.map_singleton]
    by_cases hn : name = csrfCookieName.text
    · rw [if_pos hn, List.filter_cons_of_neg (by simp [hname, hn])]
      rfl
    · rw [if_neg hn, List.filter_cons_of_pos (by simp [hname, Ne.symm hn])]
      rfl

/-- A cookie with another name leaves the session. -/
theorem KeepsSession.store (h : KeepsSession jar s) {c : StoredCookie}
    (other : Json.trim c.cookie.name ≠ csrfCookieName.text) : KeepsSession (jar.store c) s := by
  have hname : c.cookie.name ≠ csrfCookieName.text := by
    intro heq
    exact other (by rw [heq]; exact Json.trim_of_trimmed csrfCookieName.trimmed)
  have hforget := h.forget c.cookie.name
  rw [if_neg hname] at hforget
  unfold KeepsSession Jar.store at *
  rw [List.filter_append, hforget, List.filter_cons_of_neg (by rw [StoredCookie.isCsrf, decide_eq_true_iff]; exact other)]
  exact List.append_nil _

/-- The cookie of a session replaces that of the session before. -/
theorem KeepsSession.renew (h : KeepsSession jar s) (s' : CsrfSession) :
    KeepsSession (jar.store s'.stored) (some s') := by
  have hforget := h.forget csrfCookieName.text
  have hcsrf : s'.stored.isCsrf = true := decide_eq_true (Json.trim_of_trimmed csrfCookieName.trimmed)
  rw [if_pos rfl] at hforget
  have hfilter : (jar.forget csrfCookieName.text).filter StoredCookie.isCsrf = [] := hforget
  rw [KeepsSession, Jar.store, List.filter_append, List.filter_cons_of_pos hcsrf]
  exact congrArg (· ++ [s'.stored]) hfilter

/-! ## Refinement -/

theorem KeepsSession.getCsrfToken (h : KeepsSession jar s) (now : ℤ) (random : Bytes) (length : random.length = 32) :
    AuthController.getCsrfToken (jar.header now) random = (CsrfSession.fetch s now random length).token := by
  have hcookie := h.cookie now
  rw [CsrfGuard.cookieToken] at hcookie
  rw [AuthController.getCsrfToken, hcookie, CsrfSession.fetch]
  cases CsrfSession.current s now with
  | none => rfl
  | some s => simp only [Option.map_some, if_pos s.isToken]

theorem CsrfSession.fetch_stored (s : Option CsrfSession) (now : ℤ) (random : Bytes) (length : random.length = 32) :
    (fetch s now random length).stored = csrfCookie (fetch s now random length).token now := by
  have hexpires : (fetch s now random length).expires = now + csrfMaxAge := by
    rw [fetch]
    split <;> rfl
  rw [stored, csrfCookie, hexpires]

theorem KeepsSession.canActivate (h : KeepsSession jar s) (now : ℤ) (req : CsrfRequest) :
    CsrfGuard.canActivate (jar.header now) req =
      CsrfSession.check ((CsrfSession.current s now).map CsrfSession.token) req := by
  rw [canActivate_eq, h.cookie]
  cases CsrfSession.current s now with
  | none => rfl
  | some s => rw [Option.map_some, truthy_token s.isToken]

/-- **Client and server answer as the session does**, whatever other cookies the client has. -/
theorem csrf_refines (ops : List CsrfOp) : csrfBrowser.outputs [] ops = csrfSession.outputs none ops := by
  have hstart : KeepsSession [] none := rfl
  refine Machine.outputs_eq (R := KeepsSession) (fun jar s op h => ?_) hstart ops
  cases op with
  | fetch now random length =>
    have htoken := h.getCsrfToken now random length
    refine ⟨congrArg CsrfAnswer.token htoken, ?_⟩
    have hnext := h.renew (CsrfSession.fetch s now random length)
    rw [CsrfSession.fetch_stored, ← htoken] at hnext
    exact hnext
  | store c other => exact ⟨rfl, h.store other⟩
  | forget name => exact ⟨rfl, h.forget name⟩
  | send now req => exact ⟨congrArg CsrfAnswer.guard (h.canActivate now req), h⟩

end IKash
