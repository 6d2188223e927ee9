import IKash.Challenges
import IKash.KycAudit
import IKash.Lib.Stages

/-!
# The audit of logins

A login among other requests: the stages of `login`, and what they hand to the audit log. Others may store and consume
challenges and let time pass before each stage.

- `login_stages_alone`: alone, the stages of a login are the login;
- `LoginAudited.wait`: stages that refuse on record, and go on without a record, leave the audit to the last one;
- `login_audited_iff`: a login with a valid public key is audited exactly when it does not bring a malformed signature
  to a usable challenge.

`decodeSignature` throws by itself, without `recordLoginFailure`.
-/

namespace IKash

open Lib AuthService

variable {χ : Type}

/-! ## The stages of a login -/

/-- `login`, cut at its awaits. -/
def AuthService.loginStages (crypto : Crypto) (dto : LoginDto) (ctx : RequestContext) (freshId : String) :
    Stages (World χ) Thrown (Token × AppUser) :=
  .wait (do
    assertValidPublicKey crypto dto.publicKey
    prisma (Prisma.authChallenge.findUnique dto.publicKey)) fun stored =>
  .wait (do
    let w ← Svc.get
    verifyLogin crypto dto ctx w.now stored) fun _ =>
  .wait (do
    let w ← Svc.get
    prisma (consumeChallenge dto.publicKey dto.challenge w.now)) fun consumed =>
  .wait (do
    let w ← Svc.get
    enterAccount dto ctx freshId consumed w.now) fun user =>
  .last (answerLogin dto ctx user)

variable {crypto : Crypto} {dto : LoginDto} {ctx : RequestContext} {freshId : String} {w w' : World χ}

theorem of_verifyLogin_ok {now : ℤ} {stored : Option AuthChallenge} {u : Unit}
    (h : (verifyLogin crypto dto ctx now stored).run w = (.ok u, w')) : w' = w := by
  obtain ⟨_, _, h₁, h₂⟩ := Svc.of_run_bind_ok h
  obtain ⟨-, rfl⟩ := of_refuseIf_ok h₁
  obtain ⟨_, _, h₃, h₄⟩ := Svc.of_run_bind_ok h₂
  obtain ⟨-, rfl⟩ := Svc.of_run_ofExcept_ok h₃
  exact (of_refuseIf_ok h₄).2

theorem loginStages_service (crypto : Crypto) (dto : LoginDto) (ctx : RequestContext) (freshId : String) (w : World χ) :
    (loginStages crypto dto ctx freshId).service.run w = (login crypto dto ctx freshId).run w := by
  unfold loginStages login
  rw [Stages.service, Svc.bind_assoc]
  refine Svc.run_bind_congr rfl fun _ w₁ h₁ => ?_
  obtain ⟨-, rfl⟩ := Svc.of_run_throwIf_ok h₁
  rw [Svc.run_bind_ok (Svc.run_get _)]
  refine Svc.run_bind_congr rfl fun stored w₂ h₂ => ?_
  obtain ⟨rfl, rfl⟩ := of_prisma_findUnique_ok h₂
  conv_rhs => rw [← Svc.bind_assoc (x := Svc.ofExcept _), ← Svc.bind_assoc]
  refine Svc.run_bind_congr rfl fun _ w₃ h₃ => ?_
  obtain rfl := of_verifyLogin_ok h₃
  refine Svc.run_bind_congr rfl fun consumed w₄ h₄ => ?_
  obtain ⟨db, -, rfl⟩ := of_prisma_run_ok h₄
  conv_rhs => rw [← Svc.bind_assoc]
  exact Svc.run_bind_congr rfl fun _ _ _ => rfl

/-- **Alone**, the stages answer what the login does, and leave what it leaves. -/
theorem login_stages_alone (crypto : Crypto) (dto : LoginDto) (ctx : RequestContext) (freshId : String) (w : World χ) :
    (((loginStages crypto dto ctx freshId).amid (fun _ w => w) w).result,
      ((loginStages crypto dto ctx freshId).amid (fun _ w => w) w).state) = (login crypto dto ctx freshId).run w :=
  (Stages.amid_alone _ w).trans (loginStages_service crypto dto ctx freshId w)

/-! ## The records of a login -/

/-- The record of a refused login. -/
def failureEntry (publicKey : String) (ctx : RequestContext) (reason : String) : AuditLog :=
  { loginEntry .userLoginFailure .failure publicKey ctx with metadata := [("reason", .str reason)] }

/-- What a call handed to the audit log: the rows that its own stages added. -/
def recordsOf (own : List (World χ × World χ)) : List AuditLog :=
  own.flatMap fun p => p.2.db.auditLogs.drop p.1.db.auditLogs.length

theorem recordsOf_cons {added : List AuditLog} {own : List (World χ × World χ)} (h : Adds added w w') :
    recordsOf ((w, w') :: own) = added ++ recordsOf own := by
  unfold recordsOf
  rw [List.flatMap_cons, show w'.db.auditLogs = w.db.auditLogs ++ added from h, List.drop_left]

/-- One record: of a success if the call answers, of a failure if it refuses. A call that the database ends does
neither. -/
structure LoginAudited (publicKey : String) (ctx : RequestContext)
    (report : Stages.Report (World χ) Thrown (Token × AppUser)) : Prop where
  success : ∀ answer, report.result = .ok answer →
    recordsOf report.own = [loginEntry .userLoginSuccess .success publicKey ctx]
  failure : ∀ code message, report.result = .error (.app code message) →
    ∃ reason, recordsOf report.own = [failureEntry publicKey ctx reason]

/-- A part of a login that goes on without a record, or refuses with one. -/
def RefusesOnRecord {α : Type} (publicKey : String) (ctx : RequestContext) (w : World χ) :
    Except Thrown α × World χ → Prop
  | (.ok _, w') => Adds [] w w'
  | (.error (.app _ _), w') => ∃ reason, Adds [failureEntry publicKey ctx reason] w w'
  | (.error _, _) => True

section RefusesOnRecord

variable {α β : Type} {publicKey : String}

theorem RefusesOnRecord.bind {x : Service χ α} {f : α → Service χ β} (hx : RefusesOnRecord publicKey ctx w (x.run w))
    (hf : ∀ a w₁, x.run w = (.ok a, w₁) → RefusesOnRecord publicKey ctx w₁ ((f a).run w₁)) :
    RefusesOnRecord publicKey ctx w ((x >>= f).run w) := by
  refine Svc.bind_ind (fun e w₁ h => ?_) fun a w₁ h => ?_
  · rw [h] at hx
    cases e <;> exact hx
  · rw [h] at hx
    have hlogs : w₁.db.auditLogs = w.db.auditLogs := hx.trans (List.append_nil _)
    have hrest := hf a w₁ h
    revert hrest
    rcases (f a).run w₁ with ⟨r, w₂⟩
    unfold RefusesOnRecord Adds
    rw [hlogs]
    exact id

theorem refusesOnRecord_refuseIf (c : Prop) [Decidable c] (reason : String) (code : ErrorCode) (message : String)
    (w : World χ) :
    RefusesOnRecord publicKey ctx w ((refuseIf c publicKey ctx reason (.app code message) : Service χ Unit).run w) := by
  unfold refuseIf
  split
  · have hnobody : ∀ u ∈ (failureEntry publicKey ctx reason).userId, w.db.users.Has u := fun u hu => by cases hu
    obtain ⟨db, hrun, -, hlogs⟩ := AuditLogService.create_of_has hnobody
    have hrecord : (recordLoginFailure publicKey ctx reason).run w = (.ok (), { w with db := db }) := hrun
    rw [Svc.run_bind_ok hrecord]
    exact ⟨reason, hlogs⟩
  · exact adds_nil w

/-- A query of another table than the audit log, which throws an error of Prisma if it does. -/
theorem refusesOnRecord_prisma {tx : Tx α} (hok : ∀ db a db', tx db = .ok (a, db') → db'.auditLogs = db.auditLogs)
    (herror : ∀ db e, tx db = .error e → ∃ p, e = .prisma p) (w : World χ) :
    RefusesOnRecord publicKey ctx w ((prisma tx : Service χ α).run w) := by
  cases h : tx w.db with
  | ok r =>
    rw [prisma_run_ok h]
    exact (hok _ _ _ h).trans (List.append_nil _).symm
  | error e =>
    obtain ⟨p, rfl⟩ := herror _ _ h
    rw [prisma_run_error h]
    trivial

end RefusesOnRecord

/-! ## The stages of a login, on record -/

/-- Base64 text of 64 bytes. -/
def WellFormedSignature (signature : String) : Prop :=
  base64Regex signature.toList = true ∧ (Base64.decode signature).length = ed25519SignatureLength

theorem decodeSignature_isOk {signature : String} (h : WellFormedSignature signature) :
    ∃ bytes, decodeSignature signature = .ok bytes := by
  refine ⟨Base64.decode signature, ?_⟩
  unfold decodeSignature
  rw [if_neg (not_not.mpr h.1)]
  exact if_neg (not_not.mpr h.2)

theorem decodeSignature_error {signature : String} (h : ¬ WellFormedSignature signature) :
    ∃ message, decodeSignature signature = .error (.app .invalidSignature message) := by
  unfold decodeSignature
  by_cases hregex : base64Regex signature.toList = true
  · rw [if_neg (not_not.mpr hregex)]
    exact ⟨_, if_pos fun hlength => h ⟨hregex, hlength⟩⟩
  · exact ⟨_, if_pos hregex⟩

theorem filter_usable_iff {now : ℤ} {stored : Option AuthChallenge} :
    stored.filter (fun c => Usable now dto.challenge c) ≠ none ↔ ∃ c, stored = some c ∧ Usable now dto.challenge c := by
  rw [Option.ne_none_iff_exists']
  simp only [Option.filter_eq_some_iff, decide_eq_true_eq]

theorem verifyLogin_onRecord {now : ℤ} {stored : Option AuthChallenge}
    (h : (∃ c, stored = some c ∧ Usable now dto.challenge c) → WellFormedSignature dto.signature) (w : World χ) :
    RefusesOnRecord dto.publicKey ctx w ((verifyLogin crypto dto ctx now stored).run w) := by
  refine RefusesOnRecord.bind (refusesOnRecord_refuseIf _ _ _ _ w) fun _ w₁ h₁ => ?_
  obtain ⟨hfound, -⟩ := of_refuseIf_ok h₁
  obtain ⟨signature, hsignature⟩ := decodeSignature_isOk (h (filter_usable_iff.mp hfound))
  rw [hsignature, Svc.run_bind_ok (Svc.run_ofExcept _ _)]
  exact refusesOnRecord_refuseIf _ _ _ _ w₁

theorem consumeChallenge_onRecord (publicKey challenge : String) (now : ℤ) (w : World χ) :
    RefusesOnRecord publicKey ctx w ((prisma (consumeChallenge publicKey challenge now) : Service χ ℕ).run w) := by
  refine refusesOnRecord_prisma (fun db n db' h => ?_) (fun db e h => ⟨_, Db.commit_eq_error h⟩) w
  rw [(Db.commit_eq_ok.mp h).2]
  rfl

theorem enterAccount_onRecord (consumed : ℕ) (now : ℤ) (w : World χ) :
    RefusesOnRecord dto.publicKey ctx w ((enterAccount dto ctx freshId consumed now).run w) := by
  refine RefusesOnRecord.bind (refusesOnRecord_refuseIf _ _ _ _ w) fun _ w₁ _ => ?_
  refine refusesOnRecord_prisma (fun db u db' h => ?_) (fun db e h => ?_) w₁
  · unfold Prisma.appUser.upsert at h
    split at h
    · cases h
      rfl
    · obtain ⟨t, -, -, hdb⟩ := Delegate.create_eq_ok.mp h
      rw [hdb]
      rfl
  · unfold Prisma.appUser.upsert at h
    split at h
    · cases h
    · exact Delegate.create_eq_error h

/-! ## Audited logins -/

/-- A stage that refuses on record leaves the audit of a login to the stages after it. -/
theorem LoginAudited.wait {α : Type} {publicKey : String} {m : Service χ α}
    {rest : α → Stages (World χ) Thrown (Token × AppUser)} {others : ℕ → World χ → World χ}
    (hm : RefusesOnRecord publicKey ctx (others 0 w) (m.run (others 0 w)))
    (hrest : ∀ a w₁, m.run (others 0 w) = (.ok a, w₁) →
      LoginAudited publicKey ctx ((rest a).amid (fun n => others (n + 1)) w₁)) :
    LoginAudited publicKey ctx ((Stages.wait m rest).amid others w) := by
  rcases hrun : m.run (others 0 w) with ⟨r, w₁⟩
  rw [hrun] at hm
  cases r with
  | error e =>
    rw [Stages.amid_wait_error hrun]
    refine ⟨fun answer h => ?_, fun code message h => ?_⟩
    · cases h
    · cases h
      obtain ⟨reason, hadds⟩ := hm
      exact ⟨reason, recordsOf_cons hadds⟩
  | ok a =>
    rw [Stages.amid_wait_ok hrun]
    have haudited := hrest a w₁ hrun
    refine ⟨fun answer h => ?_, fun code message h => ?_⟩
    · exact (recordsOf_cons hm).trans (haudited.success answer h)
    · obtain ⟨reason, hrecords⟩ := haudited.failure code message h
      exact ⟨reason, (recordsOf_cons hm).trans hrecords⟩

theorem answerLogin_audited (user : AppUser) (others : ℕ → World χ → World χ) (w : World χ) :
    LoginAudited dto.publicKey ctx ((Stages.last (answerLogin dto ctx user)).amid others w) := by
  have hnobody : ∀ u ∈ (loginEntry .userLoginSuccess .success dto.publicKey ctx).userId,
      (others 0 w).db.users.Has u := fun u hu => by cases hu
  obtain ⟨db, hrun, -, hlogs⟩ := AuditLogService.create_of_has hnobody
  have hanswer : ∃ token w', (answerLogin dto ctx user).run (others 0 w) = (.ok (token, user), w') ∧ w'.db = db :=
    ⟨_, _, Svc.run_bind_ok hrun, rfl⟩
  obtain ⟨token, w', hanswer, rfl⟩ := hanswer
  rw [Stages.amid_last hanswer]
  refine ⟨fun _ _ => recordsOf_cons hlogs, fun code message h => ?_⟩
  cases h

/-- The challenge that the login finds is usable when it is looked at. -/
def FindsUsable (dto : LoginDto) (others : ℕ → World χ → World χ) (w : World χ) : Prop :=
  ∃ c, (others 0 w).db.challenges.find? dto.publicKey = some c ∧
    Usable (others 1 (others 0 w)).now dto.challenge c

theorem findChallenge_run (hkey : crypto.isValidEd25519PublicKey dto.publicKey = true) (w : World χ) :
    (do
      assertValidPublicKey crypto dto.publicKey
      prisma (Prisma.authChallenge.findUnique dto.publicKey)).run w =
      (.ok (w.db.challenges.find? dto.publicKey), w) := by
  have hvalid : (assertValidPublicKey crypto dto.publicKey).run w = (.ok (), w) :=
    Svc.run_throwIf_neg (by rw [hkey]; decide) _ w
  rw [Svc.run_bind_ok hvalid]
  exact prisma_findUnique_run rfl w

/-- A malformed signature ends the login at a usable challenge, and its stages have written nothing. -/
theorem login_malformed (ctx : RequestContext) (freshId : String)
    (hkey : crypto.isValidEd25519PublicKey dto.publicKey = true) {others : ℕ → World χ → World χ}
    (husable : FindsUsable dto others w) (hmalformed : ¬ WellFormedSignature dto.signature) :
    ∃ message, (loginStages crypto dto ctx freshId).amid others w =
      ⟨.error (.app .invalidSignature message), others 1 (others 0 w),
        [(others 0 w, others 0 w), (others 1 (others 0 w), others 1 (others 0 w))]⟩ := by
  obtain ⟨c, hc, husable⟩ := husable
  obtain ⟨message, hdecode⟩ := decodeSignature_error hmalformed
  have hfind := findChallenge_run hkey (others 0 w)
  have hthrow : (verifyLogin crypto dto ctx (others 1 (others 0 w)).now (some c)).run (others 1 (others 0 w)) =
      (.error (.app .invalidSignature message), others 1 (others 0 w)) := by
    have hfound : ¬ (some c).filter (fun c => Usable (others 1 (others 0 w)).now dto.challenge c) = none :=
      filter_usable_iff.mpr ⟨c, rfl, husable⟩
    unfold verifyLogin refuseIf
    rw [if_neg hfound, Svc.run_bind_ok (Svc.run_pure () _), hdecode]
    rfl
  refine ⟨message, ?_⟩
  unfold loginStages
  rw [Stages.amid_wait_ok hfind, hc, Stages.amid_wait_error hthrow]

/-- **When a login is audited**: with a valid public key, whatever others do meanwhile, exactly when its signature is
well formed or the challenge it finds is not usable. -/
theorem login_audited_iff (crypto : Crypto) (dto : LoginDto) (ctx : RequestContext) (freshId : String)
    (hkey : crypto.isValidEd25519PublicKey dto.publicKey = true) (others : ℕ → World χ → World χ) (w : World χ) :
    LoginAudited dto.publicKey ctx ((loginStages crypto dto ctx freshId).amid others w) ↔
      (FindsUsable dto others w → WellFormedSignature dto.signature) := by
  constructor
  · intro haudited husable
    by_contra hmalformed
    obtain ⟨message, hreport⟩ := login_malformed ctx freshId hkey husable hmalformed
    rw [hreport] at haudited
    obtain ⟨reason, hrecords⟩ := haudited.failure _ _ rfl
    rw [recordsOf_cons (adds_nil _), recordsOf_cons (adds_nil _)] at hrecords
    cases hrecords
  · intro h
    have hfind := findChallenge_run hkey (others 0 w)
    refine LoginAudited.wait (by rw [hfind]; exact adds_nil _) fun stored w₁ h₁ => ?_
    cases hfind.symm.trans h₁
    refine LoginAudited.wait (verifyLogin_onRecord h _) fun _ w₂ _ => ?_
    refine LoginAudited.wait (consumeChallenge_onRecord _ _ _ _) fun consumed w₃ _ => ?_
    refine LoginAudited.wait (enterAccount_onRecord consumed _ _) fun user w₄ _ => ?_
    exact answerLogin_audited user _ w₄

namespace Wallets

/-- The buyer's challenge is stored. -/
def challenged : World Unit :=
  { world with db := ⟨{ challenges := ⟨[{ publicKey := buyerKey, challenge := challenge, expiresAt := 300000 }],
      by decide⟩ }, by decide⟩ }

/-- The login of the buyer with a signature, while time passes. -/
def loginWith (signature : String) : Stages.Report (World Unit) Thrown (Token × AppUser) :=
  (loginStages Wallets.crypto ⟨buyerKey, challenge, signature⟩ {} buyerId).amid
    (fun _ w => { w with now := w.now + 1000 }) challenged

theorem buyerKey_valid : Wallets.crypto.isValidEd25519PublicKey buyerKey = true := by decide

theorem findsUsable_challenged (signature : String) :
    FindsUsable ⟨buyerKey, challenge, signature⟩ (fun _ w => { w with now := w.now + 1000 }) challenged :=
  ⟨_, rfl, rfl, by decide, rfl⟩

theorem signature_wellFormed : WellFormedSignature signature := ⟨by decide, by decide⟩

end Wallets

theorem signed_login_audited : LoginAudited Wallets.buyerKey {} (Wallets.loginWith Wallets.signature) :=
  (login_audited_iff Wallets.crypto ⟨Wallets.buyerKey, Wallets.challenge, Wallets.signature⟩ {} Wallets.buyerId
    Wallets.buyerKey_valid _ _).mpr fun _ => Wallets.signature_wellFormed

/-- A signature that is no Base64 is refused, and nothing is recorded. -/
theorem malformed_signature_unaudited :
    (∃ message, (Wallets.loginWith "!!!not-base64!!!").result = .error (.app .invalidSignature message)) ∧
      recordsOf (Wallets.loginWith "!!!not-base64!!!").own = [] ∧
      ¬ LoginAudited Wallets.buyerKey {} (Wallets.loginWith "!!!not-base64!!!") := by
  have hmalformed : ¬ WellFormedSignature "!!!not-base64!!!" := by
    rintro ⟨hregex, -⟩
    revert hregex
    decide
  obtain ⟨message, hreport⟩ := login_malformed {} Wallets.buyerId Wallets.buyerKey_valid
    (Wallets.findsUsable_challenged "!!!not-base64!!!") hmalformed
  have hrecords : recordsOf (Wallets.loginWith "!!!not-base64!!!").own = [] := by
    unfold Wallets.loginWith
    rw [hreport, recordsOf_cons (adds_nil _), recordsOf_cons (adds_nil _)]
    rfl
  have hresult : (Wallets.loginWith "!!!not-base64!!!").result = .error (.app .invalidSignature message) := by
    unfold Wallets.loginWith
    rw [hreport]
  refine ⟨⟨message, hresult⟩, hrecords, fun h => ?_⟩
  obtain ⟨reason, hreason⟩ := h.failure _ _ hresult
  rw [hrecords] at hreason
  cases hreason

end IKash
