import IKash.Accounts
import IKash.Lib.Pool

/-!
# Challenges under interleaving

The calls of `createChallenge`, `login` and `purgeExpiredChallenges`, cut at their awaits. A step is one access to the
database with the local code before it; `Date.now()` is read in the step that uses it, so the clock may move between
any two of them.

- `login_alone`, `createChallenge_alone`: a call that is scheduled alone does what the service does;
- `single_use`: under every schedule, a challenge is consumed once, while it is the stored one of its public key, unused
  and not expired, and a token is issued only by a login that consumed its challenge.

The proof keeps two facts: the texts that are stored or about to be stored differ (`Fresh`), and a text that was
consumed is never stored unused again (`Dead`).
-/

namespace IKash

open Lib AuthService

variable {χ : Type}

/-! ## The calls -/

/-- `new Date(now.getTime() - retentionHours * 60 * 60 * 1000)` -/
def AuthService.usedThreshold (retentionHours now : ℤ) : ℤ := now - retentionHours * 60 * 60 * 1000

/-- A challenge that expired, or was used long ago. -/
def AuthService.Stale (retentionHours now : ℤ) (c : AuthChallenge) : Prop :=
  c.expiresAt < now ∨ ∃ t ∈ c.usedAt, t < usedThreshold retentionHours now

instance (retentionHours now : ℤ) (c : AuthChallenge) : Decidable (AuthService.Stale retentionHours now c) :=
  inferInstanceAs (Decidable (_ ∨ ∃ t ∈ c.usedAt, _))

def AuthService.purgeExpiredChallenges (retentionHours : ℤ) : Service χ ℕ := do
  let w ← Svc.get
  let _ ← prisma (Prisma.authChallenge.deleteMany fun c => AuthService.Stale retentionHours w.now c)
  pure (w.db.challenges.rows.countP fun c => AuthService.Stale retentionHours w.now c)

/-- The part of `login` between the lookup of the challenge and its consumption. -/
def AuthService.verifyLogin (crypto : Crypto) (dto : LoginDto) (ctx : RequestContext) (now : ℤ)
    (stored : Option AuthChallenge) : Service χ Unit := do
  refuseIf (stored.filter (fun c => Usable now dto.challenge c) = none) dto.publicKey ctx
    "invalid_or_expired_challenge" invalidChallenge
  let signature ← Svc.ofExcept (decodeSignature dto.signature)
  refuseIf (verifySignature crypto dto.publicKey dto.challenge signature = false) dto.publicKey ctx
    "invalid_signature" (.app .invalidSignature "Signature verification failed")

/-- The part of `login` that looks at the number of consumed rows, and finds or creates the account. -/
def AuthService.enterAccount (dto : LoginDto) (ctx : RequestContext) (freshId : String) (consumed : ℕ) (now : ℤ) :
    Service χ AppUser := do
  refuseIf (consumed = 0) dto.publicKey ctx "challenge_race_condition" invalidChallenge
  prisma (Prisma.appUser.upsert dto.publicKey { userId := freshId, publicKey := dto.publicKey, createdAt := now })

/-- The end of `login`. -/
def AuthService.answerLogin (dto : LoginDto) (ctx : RequestContext) (user : AppUser) : Service χ (Token × AppUser) := do
  AuditLogService.create (loginEntry .userLoginSuccess .success dto.publicKey ctx)
  let token ← sign user.userId dto.publicKey false
  pure (token, user)

/-- What a call still has to do, with what it has read so far. -/
inductive AuthCall where
  | createChallenge (dto : CreateAuthChallengeDto) (random : String)
  | challengeMade (publicKey random : String) (expiresAt : ℤ)
  | expiredDeleted (publicKey random : String) (expiresAt : ℤ)
  | login (dto : LoginDto) (ctx : RequestContext) (freshId : String)
  | keyChecked (dto : LoginDto) (ctx : RequestContext) (freshId : String)
  | challengeFound (dto : LoginDto) (ctx : RequestContext) (freshId : String) (stored : Option AuthChallenge)
  | signatureVerified (dto : LoginDto) (ctx : RequestContext) (freshId : String)
  | challengeConsumed (dto : LoginDto) (ctx : RequestContext) (freshId : String) (consumed : ℕ)
  | accountEntered (dto : LoginDto) (ctx : RequestContext) (user : AppUser)
  | purgeExpiredChallenges (retentionHours : ℤ)
  | tick (ms : ℕ)
  | done

/-- One step of a call. -/
def authStep (crypto : Crypto) (expiration : Option ℚ) (w : World χ) : AuthCall → World χ × AuthCall
  | .createChallenge dto random => Pool.await .done (assertValidPublicKey crypto dto.publicKey)
      (fun _ => .challengeMade dto.publicKey random (w.now + getChallengeExpirationSeconds expiration * 1000)) w
  | .challengeMade publicKey random expiresAt =>
    Pool.await .done (prisma (Prisma.authChallenge.deleteMany fun c => c.expiresAt < w.now))
      (fun _ => .expiredDeleted publicKey random expiresAt) w
  | .expiredDeleted publicKey random expiresAt =>
    Pool.await .done (prisma (storeChallenge publicKey random expiresAt w.now)) (fun _ => .done) w
  | .login dto ctx freshId =>
    Pool.await .done (assertValidPublicKey crypto dto.publicKey) (fun _ => .keyChecked dto ctx freshId) w
  | .keyChecked dto ctx freshId =>
    Pool.await .done (prisma (Prisma.authChallenge.findUnique dto.publicKey)) (.challengeFound dto ctx freshId) w
  | .challengeFound dto ctx freshId stored =>
    Pool.await .done (verifyLogin crypto dto ctx w.now stored) (fun _ => .signatureVerified dto ctx freshId) w
  | .signatureVerified dto ctx freshId =>
    Pool.await .done (prisma (consumeChallenge dto.publicKey dto.challenge w.now)) (.challengeConsumed dto ctx freshId) w
  | .challengeConsumed dto ctx freshId consumed =>
    Pool.await .done (enterAccount dto ctx freshId consumed w.now) (.accountEntered dto ctx) w
  | .accountEntered dto ctx user => Pool.await .done (answerLogin dto ctx user) (fun _ => .done) w
  | .purgeExpiredChallenges retentionHours =>
    Pool.await .done (AuthService.purgeExpiredChallenges retentionHours) (fun _ => .done) w
  | .tick ms => ({ w with now := w.now + ms }, .done)
  | .done => (w, .done)

/-- The machine whose inputs say which call steps. -/
abbrev authCalls (crypto : Crypto) (expiration : Option ℚ) : Machine (Pool (World χ) AuthCall) ℕ Unit :=
  Pool.machine (authStep crypto expiration)

variable {crypto : Crypto} {expiration : Option ℚ}

/-! ## Calls by themselves -/

theorem createChallenge_alone (dto : CreateAuthChallengeDto) (random : String) (w : World χ) :
    Pool.RealisesAt (authStep crypto expiration) .done (.createChallenge dto random)
      (createChallenge crypto expiration dto random) w := by
  refine Pool.realisesAt_bind rfl fun _ w₁ h₁ => ?_
  obtain ⟨-, rfl⟩ := Svc.of_run_throwIf_ok h₁
  refine Pool.realisesAt_get (Pool.realisesAt_bind rfl fun _ w₂ h₂ => ?_)
  obtain ⟨db, -, rfl⟩ := of_prisma_run_ok h₂
  exact Pool.realisesAt_bind rfl fun _ w₃ h₃ => ⟨0, rfl⟩

theorem purge_alone (retentionHours : ℤ) :
    Pool.Realises (authStep crypto expiration) .done (.purgeExpiredChallenges retentionHours)
      (AuthService.purgeExpiredChallenges retentionHours : Service χ ℕ) :=
  Pool.realises_last fun _ => rfl

theorem login_alone (dto : LoginDto) (ctx : RequestContext) (freshId : String) (w : World χ) :
    Pool.RealisesAt (authStep crypto expiration) .done (.login dto ctx freshId) (login crypto dto ctx freshId) w := by
  refine Pool.realisesAt_bind rfl fun _ w₁ h₁ => ?_
  obtain ⟨-, rfl⟩ := Svc.of_run_throwIf_ok h₁
  refine Pool.realisesAt_get (Pool.realisesAt_bind rfl fun stored w₂ h₂ => ?_)
  obtain ⟨rfl, rfl⟩ := of_prisma_findUnique_ok h₂
  -- the local code up to the consumption is one step
  rw [← Svc.bind_assoc (x := Svc.ofExcept _), ← Svc.bind_assoc]
  refine Pool.realisesAt_bind rfl fun _ w₂ h₂ => ?_
  obtain ⟨_, _, h₃, h₄⟩ := Svc.of_run_bind_ok h₂
  obtain ⟨-, rfl⟩ := of_refuseIf_ok h₃
  obtain ⟨_, _, h₅, h₆⟩ := Svc.of_run_bind_ok h₄
  obtain ⟨-, rfl⟩ := Svc.of_run_ofExcept_ok h₅
  obtain ⟨-, rfl⟩ := of_refuseIf_ok h₆
  refine Pool.realisesAt_bind rfl fun consumed w₃ h₇ => ?_
  obtain ⟨db, -, rfl⟩ := of_prisma_run_ok h₇
  rw [← Svc.bind_assoc]
  refine Pool.realisesAt_bind rfl fun user w₄ h₈ => ?_
  exact Pool.realises_last (fun _ => rfl) w₄

/-! ## What a step does to the challenges -/

/-- The public key and the text that a call has still to store. -/
def AuthCall.pending : AuthCall → Option (String × String)
  | .createChallenge dto random => some (dto.publicKey, random)
  | .challengeMade publicKey random _ => some (publicKey, random)
  | .expiredDeleted publicKey random _ => some (publicKey, random)
  | _ => none

/-- Every challenge was there, unused if it is, or is the new one. -/
def Kept (new : Option (String × String)) (w w' : World χ) : Prop :=
  ∀ x ∈ w'.db.challenges.rows,
    (∃ y ∈ w.db.challenges.rows, y.publicKey = x.publicKey ∧ y.challenge = x.challenge ∧
      (x.usedAt = none → y.usedAt = none)) ∨ new = some (x.publicKey, x.challenge)

section Kept

variable {new : Option (String × String)} {w w' w'' : World χ}

theorem Kept.of_challenges (h : w'.db.challenges = w.db.challenges) : Kept new w w' := by
  intro x hx
  rw [h] at hx
  exact Or.inl ⟨x, hx, rfl, rfl, id⟩

theorem Kept.refl (w : World χ) : Kept new w w := Kept.of_challenges rfl

theorem Kept.trans (h : Kept new w w') (h' : Kept new w' w'') : Kept new w w'' := by
  intro x hx
  rcases h' x hx with ⟨y, hy, hkey, htext, hused⟩ | hnew
  · rcases h y hy with ⟨z, hz, hkey', htext', hused'⟩ | hnew
    · exact Or.inl ⟨z, hz, hkey'.trans hkey, htext'.trans htext, fun hx => hused' (hused hx)⟩
    · rw [hkey, htext] at hnew
      exact Or.inr hnew
  · exact Or.inr hnew

theorem kept_audit (entry : AuditLog) : Svc.Moves (Kept new) (AuditLogService.create entry : Service χ Unit) := by
  intro w
  obtain ⟨db, hrun, hre⟩ := AuditLogService.create_run entry w
  rw [hrun]
  exact Kept.of_challenges (by rw [hre.frame])

theorem kept_refuseIf (c : Prop) [Decidable c] (publicKey reason : String) (ctx : RequestContext) (e : Thrown) :
    Svc.Moves (Kept new) (refuseIf c publicKey ctx reason e : Service χ Unit) :=
  refuseIf_moves_of_audit (R := Kept new) (fun _ _ _ => Kept.trans) Kept.refl kept_audit c publicKey reason e

theorem kept_deleteMany (p : AuthChallenge → Bool) :
    Svc.Moves (Kept new) (prisma (Prisma.authChallenge.deleteMany p) : Service χ Unit) := by
  refine prisma_moves Kept.refl fun w _ db h x hx => ?_
  rw [Delegate.deleteMany_eq_ok.mp h] at hx
  exact Or.inl ⟨x, List.mem_of_mem_filter hx, rfl, rfl, id⟩

theorem kept_storeChallenge (publicKey random : String) (expiresAt now : ℤ) :
    Svc.Moves (Kept (some (publicKey, random)))
      (prisma (storeChallenge publicKey random expiresAt now) : Service χ AuthChallenge) := by
  refine prisma_moves Kept.refl fun w c db h x hx => ?_
  unfold storeChallenge Delegate.upsert at h
  split at h
  · obtain ⟨t, ht, -, hdb⟩ := Delegate.create_eq_ok.mp h
    rw [hdb] at hx
    rcases (Table.mem_insert ht).mp hx with hx | rfl
    · exact Or.inl ⟨x, hx, rfl, rfl, id⟩
    · exact Or.inr rfl
  · obtain ⟨r, t, hr, ht, -, hdb⟩ := Delegate.update_eq_ok.mp h
    rw [hdb] at hx
    rcases Table.mem_replace ht hx with rfl | ⟨hx, -⟩
    · exact Or.inr (congrArg (fun k => some (k, random)) (Table.key_of_find? hr).symm)
    · exact Or.inl ⟨x, hx, rfl, rfl, id⟩

theorem kept_consumeChallenge (publicKey challenge : String) (now : ℤ) :
    Svc.Moves (Kept new) (prisma (consumeChallenge publicKey challenge now) : Service χ ℕ) := by
  refine prisma_moves Kept.refl fun w n db h x hx => ?_
  rw [(Db.commit_eq_ok.mp h).2] at hx
  obtain ⟨y, hy, rfl⟩ := List.mem_map.mp hx
  refine Or.inl ⟨y, hy, ?_⟩
  split
  · exact ⟨rfl, rfl, fun h => by cases h⟩
  · exact ⟨rfl, rfl, id⟩

end Kept

/-- What a step writes to the challenges, and what its call has still to store. -/
structure Steps (w : World χ) (c : AuthCall) (r : World χ × AuthCall) : Prop where
  kept : Kept c.pending w r.1
  pending : r.2.pending = c.pending ∨ r.2.pending = none
  written : r.2.pending ≠ none → Kept none w r.1

theorem steps_await {α : Type} {m : Service χ α} {k : α → AuthCall} {w : World χ} {c : AuthCall}
    (hm : ∀ new, Svc.Moves (Kept new) m) (hk : ∀ a, (k a).pending = c.pending ∨ (k a).pending = none) :
    Steps w c (Pool.await .done m k w) where
  kept := by
    rw [Pool.await_fst]
    exact hm _ w
  pending := by
    rcases Pool.await_snd .done m k w with h | ⟨a, -, h⟩
    · exact Or.inr (by rw [h]; rfl)
    · rw [h]
      exact hk a
  written _ := by
    rw [Pool.await_fst]
    exact hm _ w

theorem authStep_steps (crypto : Crypto) (expiration : Option ℚ) (w : World χ) (c : AuthCall) : Steps w c (authStep crypto expiration w c) := by
  cases c with
  | createChallenge dto random =>
    exact steps_await (fun _ => Svc.Moves.throwIf Kept.refl _ _) fun _ => Or.inl rfl
  | challengeMade publicKey random expiresAt => exact steps_await (fun _ => kept_deleteMany _) fun _ => Or.inl rfl
  | expiredDeleted publicKey random expiresAt =>
    have hnone : (authStep crypto expiration w (.expiredDeleted publicKey random expiresAt)).2.pending = none := by
      rcases Pool.await_snd AuthCall.done (prisma (storeChallenge publicKey random expiresAt w.now))
        (fun _ => AuthCall.done) w with h | ⟨_, -, h⟩ <;> exact congrArg AuthCall.pending h
    refine ⟨?_, Or.inr hnone, fun h => absurd hnone h⟩
    rw [authStep, Pool.await_fst]
    exact kept_storeChallenge publicKey random expiresAt w.now w
  | login dto ctx freshId => exact steps_await (fun _ => Svc.Moves.throwIf Kept.refl _ _) fun _ => Or.inr rfl
  | keyChecked dto ctx freshId =>
    unfold authStep
    exact steps_await (fun _ => prisma_findUnique_moves Kept.refl _ _) fun _ => Or.inr rfl
  | challengeFound dto ctx freshId stored =>
    refine steps_await (fun _ => Svc.Moves.bind Kept.trans (kept_refuseIf _ _ _ _ _) fun _ => ?_) fun _ => Or.inr rfl
    exact Svc.Moves.bind Kept.trans (Svc.Moves.ofExcept Kept.refl _) fun _ => kept_refuseIf _ _ _ _ _
  | signatureVerified dto ctx freshId => exact steps_await (fun _ => kept_consumeChallenge _ _ _) fun _ => Or.inr rfl
  | challengeConsumed dto ctx freshId consumed =>
    refine steps_await (fun _ => Svc.Moves.bind Kept.trans (kept_refuseIf _ _ _ _ _) fun _ => ?_) fun _ => Or.inr rfl
    refine prisma_moves Kept.refl fun w u db h => Kept.of_challenges ?_
    unfold Prisma.appUser.upsert at h
    split at h
    · cases h
      rfl
    · obtain ⟨t, ht⟩ := Delegate.writes_create h
      show db.challenges = w.db.challenges
      rw [ht]
      rfl
  | accountEntered dto ctx user =>
    unfold authStep
    refine steps_await (fun _ => Svc.Moves.bind Kept.trans (kept_audit _) fun _ => ?_) fun _ => Or.inr rfl
    exact Svc.Moves.bind Kept.trans (fun w => Kept.of_challenges rfl) fun _ => Kept.refl
  | purgeExpiredChallenges retentionHours =>
    refine steps_await (fun _ => Svc.Moves.bind Kept.trans Kept.refl fun w => ?_) fun _ => Or.inr rfl
    exact Svc.Moves.bind Kept.trans (kept_deleteMany _) fun _ => Kept.refl
  | tick ms => exact ⟨Kept.of_challenges rfl, Or.inr rfl, fun h => absurd rfl h⟩
  | done => exact ⟨Kept.refl w, Or.inr rfl, fun h => absurd rfl h⟩

/-! ## Texts that are used once -/

section Texts

variable {p : Pool (World χ) AuthCall} {i j : ℕ} {r : String}

/-- The stored texts and those that calls have still to store differ. -/
structure Fresh (p : Pool (World χ) AuthCall) : Prop where
  stored : ∀ x ∈ p.shared.db.challenges.rows, ∀ y ∈ p.shared.db.challenges.rows,
    x.challenge = y.challenge → x.publicKey = y.publicKey
  pending : ∀ i k r, (p.calls i).pending = some (k, r) → ∀ x ∈ p.shared.db.challenges.rows, x.challenge ≠ r
  distinct : ∀ i j k l r, (p.calls i).pending = some (k, r) → (p.calls j).pending = some (l, r) → i = j

/-- No call will store the text, and where it is stored it is used. -/
structure Dead (r : String) (p : Pool (World χ) AuthCall) : Prop where
  stored : ∀ x ∈ p.shared.db.challenges.rows, x.challenge = r → x.usedAt ≠ none
  pending : ∀ i k, (p.calls i).pending ≠ some (k, r)

theorem pending_next {k : String} (h : (((authCalls crypto expiration).next p j).calls i).pending = some (k, r)) :
    (p.calls i).pending = some (k, r) := by
  rw [Pool.next_calls] at h
  by_cases hij : i = j
  · subst hij
    rw [Function.update_self] at h
    rcases (authStep_steps crypto expiration p.shared (p.calls i)).pending with hp | hp
    · exact hp.symm.trans h
    · rw [hp] at h
      cases h
  · rwa [Function.update_of_ne hij] at h

theorem fresh_next (h : Fresh p) (j : ℕ) : Fresh ((authCalls crypto expiration).next p j) where
  stored x hx y hy hxy := by
    have hkept := (authStep_steps crypto expiration p.shared (p.calls j)).kept
    rcases hkept x hx with ⟨x', hx', hkx, htx, -⟩ | hnew <;> rcases hkept y hy with ⟨y', hy', hky, hty, -⟩ | hnew'
    · rw [← hkx, ← hky]
      exact h.stored x' hx' y' hy' (htx.trans (hxy.trans hty.symm))
    · exact absurd (htx.trans hxy) (h.pending j _ _ hnew' x' hx')
    · exact absurd (hty.trans hxy.symm) (h.pending j _ _ hnew y' hy')
    · exact (Prod.mk.inj (Option.some.inj (hnew.symm.trans hnew'))).1
  pending i k r hi x hx hxr := by
    have hsteps := authStep_steps crypto expiration p.shared (p.calls j)
    have hold : ∀ x' ∈ p.shared.db.challenges.rows, x'.challenge ≠ r := h.pending i k r (pending_next hi)
    by_cases hij : i = j
    · subst hij
      rw [Pool.next_calls, Function.update_self] at hi
      rcases hsteps.written (by rw [hi]; exact Option.some_ne_none _) x hx with ⟨x', hx', -, htx, -⟩ | hnew
      · exact hold x' hx' (htx.trans hxr)
      · cases hnew
    · rcases hsteps.kept x hx with ⟨x', hx', -, htx, -⟩ | hnew
      · exact hold x' hx' (htx.trans hxr)
      · rw [hxr] at hnew
        exact hij (h.distinct i j k _ r (pending_next hi) hnew)
  distinct i i' k l r hi hi' := h.distinct i i' k l r (pending_next hi) (pending_next hi')

theorem dead_next (h : Dead r p) (j : ℕ) : Dead r ((authCalls crypto expiration).next p j) where
  stored x hx hxr := by
    rcases (authStep_steps crypto expiration p.shared (p.calls j)).kept x hx with ⟨x', hx', -, htx, hused⟩ | hnew
    · exact fun hnone => h.stored x' hx' (htx.trans hxr) (hused hnone)
    · rw [hxr] at hnew
      exact absurd hnew (h.pending j _)
  pending i k hi := h.pending i k (pending_next hi)

end Texts

/-! ## Consumption -/

/-- The login whose challenge the call has consumed. -/
def AuthCall.consumed : AuthCall → Option LoginDto
  | .challengeConsumed dto _ _ consumed => if consumed = 0 then none else some dto
  | .accountEntered dto _ _ => some dto
  | _ => none

/-- The step consumes the challenge of the login. -/
def Consumes (crypto : Crypto) (expiration : Option ℚ) (p : Pool (World χ) AuthCall) (i : ℕ) (dto : LoginDto) : Prop :=
  (∃ ctx freshId, p.calls i = .signatureVerified dto ctx freshId) ∧
    (((authCalls crypto expiration).next p i).calls i).consumed = some dto

/-- The step issues a token. -/
def Issues (crypto : Crypto) (expiration : Option ℚ) (p : Pool (World χ) AuthCall) (i : ℕ) : Prop :=
  ((authCalls crypto expiration).next p i).shared.issued ≠ p.shared.issued

/-- The challenge of the login is the stored one of its public key, unused and not expired. -/
def Current (w : World χ) (dto : LoginDto) : Prop :=
  ∃ c, w.db.challenges.find? dto.publicKey = some c ∧ Usable w.now dto.challenge c

section Consumption

variable {p : Pool (World χ) AuthCall} {i j : ℕ} {dto : LoginDto}

theorem of_consumeChallenge {w w' : World χ} {publicKey challenge : String} {now : ℤ} {n : ℕ} (hn : n ≠ 0)
    (h : (prisma (consumeChallenge publicKey challenge now) : Service χ ℕ).run w = (.ok n, w')) :
    (∃ c, w.db.challenges.find? publicKey = some c ∧ Usable now challenge c) ∧
      w'.db.challenges.rows = w.db.challenges.rows.map fun c =>
        if c.publicKey = publicKey ∧ Usable now challenge c then { c with usedAt := some now } else c := by
  obtain ⟨db, htx, rfl⟩ := of_prisma_run_ok h
  obtain ⟨hcount, hdb⟩ := Db.commit_eq_ok.mp htx
  constructor
  · have hpos : 0 < w.db.challenges.rows.countP fun c => c.publicKey = publicKey ∧ Usable now challenge c := by
      show 0 < (Prisma.authChallenge.get w.db.toTables).rows.countP _
      omega
    obtain ⟨c, hc, hmatch⟩ := List.countP_pos_iff.mp hpos
    obtain ⟨hkey, husable⟩ := of_decide_eq_true hmatch
    exact ⟨c, Table.find?_eq_some.mpr ⟨hc, hkey⟩, husable⟩
  · show db.challenges.rows = _
    rw [hdb]
    refine List.map_congr_left fun c _ => ?_
    simp only [decide_eq_true_eq]

/-- What a consuming step has found and written. -/
theorem of_consumes (h : Consumes crypto expiration p i dto) : Current p.shared dto ∧
    ((authCalls crypto expiration).next p i).shared.db.challenges.rows = p.shared.db.challenges.rows.map fun c =>
      if c.publicKey = dto.publicKey ∧ Usable p.shared.now dto.challenge c then { c with usedAt := some p.shared.now }
      else c := by
  obtain ⟨⟨ctx, freshId, hcall⟩, hconsumed⟩ := h
  rw [Pool.next_calls, Function.update_self, hcall, authStep] at hconsumed
  rw [Pool.next_shared, hcall, authStep, Pool.await_fst]
  rcases Pool.await_snd AuthCall.done (prisma (consumeChallenge dto.publicKey dto.challenge p.shared.now))
    (.challengeConsumed dto ctx freshId) p.shared with hdone | ⟨n, hok, hn⟩
  · rw [hdone] at hconsumed
    cases hconsumed
  · rw [hn] at hconsumed
    have hne : n ≠ 0 := by
      rintro rfl
      cases hconsumed
    exact of_consumeChallenge hne (Prod.ext hok rfl)

/-- A consumed text is dead. -/
theorem dead_of_consumes (hfresh : Fresh p) (h : Consumes crypto expiration p i dto) :
    Dead dto.challenge ((authCalls crypto expiration).next p i) := by
  obtain ⟨⟨c, hfind, husable⟩, hrows⟩ := of_consumes h
  obtain ⟨hc, hkey⟩ := Table.find?_eq_some.mp hfind
  refine ⟨fun x hx hxr hnone => ?_, fun j k hj => ?_⟩
  · rw [hrows] at hx
    obtain ⟨y, hy, rfl⟩ := List.mem_map.mp hx
    split at hnone
    · cases hnone
    · -- the row with the text is the one that was matched
      rename_i hnot
      rw [if_neg hnot] at hxr
      have hyc : y = c := Table.eq_of_clash hy hc (Or.inl (hfresh.stored y hy c hc (hxr.trans husable.2.2.symm)))
      rw [hyc] at hnot
      exact hnot ⟨hkey, husable⟩
  · exact hfresh.pending j k _ (pending_next hj) c hc husable.2.2

theorem not_consumes_of_dead (hdead : Dead dto.challenge p) : ¬ Consumes crypto expiration p i dto := by
  intro h
  obtain ⟨⟨c, hfind, hunused, -, htext⟩, -⟩ := of_consumes h
  exact hdead.stored c (Table.find?_eq_some.mp hfind).1 htext hunused

/-! ## Tokens -/

theorem authStep_consumed {w : World χ} {c : AuthCall} (h : (authStep crypto expiration w c).2.consumed = some dto) :
    c.consumed = some dto ∨ ∃ ctx freshId, c = .signatureVerified dto ctx freshId := by
  have hawait : ∀ {α : Type} {m : Service χ α} {k : α → AuthCall}, (Pool.await .done m k w).2.consumed = some dto →
      ∃ a, (m.run w).1 = .ok a ∧ (k a).consumed = some dto := by
    intro α m k hk
    rcases Pool.await_snd .done m k w with hd | ⟨a, ha, hd⟩
    · rw [hd] at hk
      cases hk
    · exact ⟨a, ha, by rwa [hd] at hk⟩
  cases c with
  | signatureVerified dto' ctx freshId =>
    obtain ⟨n, -, hn⟩ := hawait h
    dsimp only [AuthCall.consumed] at hn
    split at hn
    · cases hn
    · cases hn
      exact Or.inr ⟨ctx, freshId, rfl⟩
  | challengeConsumed dto' ctx freshId consumed =>
    obtain ⟨user, hrun, huser⟩ := hawait h
    obtain ⟨_, _, hrefuse, -⟩ := Svc.of_run_bind_ok (Prod.ext hrun rfl)
    obtain ⟨hne, -⟩ := of_refuseIf_ok hrefuse
    exact Or.inl ((if_neg hne).trans huser)
  | tick ms => cases h
  | done => cases h
  | _ =>
    obtain ⟨a, -, ha⟩ := hawait h
    cases ha

def KeepsIssued (w w' : World χ) : Prop := w'.issued = w.issued

theorem keepsIssued_refuseIf (c : Prop) [Decidable c] (publicKey reason : String) (ctx : RequestContext) (e : Thrown) :
    Svc.Moves KeepsIssued (refuseIf c publicKey ctx reason e : Service χ Unit) := by
  refine refuseIf_moves_of_audit (R := KeepsIssued) (fun _ _ _ h h' => h'.trans h) (fun _ => rfl) (fun entry w => ?_)
    c publicKey reason e
  obtain ⟨db, hrun, -⟩ := AuditLogService.create_run entry w
  rw [hrun]
  rfl

theorem authStep_issued {w : World χ} {c : AuthCall} (h : (authStep crypto expiration w c).1.issued ≠ w.issued) :
    ∃ dto, c.consumed = some dto := by
  have hawait : ∀ {α : Type} {m : Service χ α} {k : α → AuthCall}, Svc.Moves KeepsIssued m →
      (Pool.await .done m k w).1.issued = w.issued := by
    intro α m k hm
    rw [Pool.await_fst]
    exact hm w
  have hrefl : ∀ w : World χ, KeepsIssued w w := fun _ => rfl
  have htrans : ∀ {a b c : World χ}, KeepsIssued a b → KeepsIssued b c → KeepsIssued a c := fun h h' => h'.trans h
  have hprisma : ∀ {α : Type} (tx : Tx α), Svc.Moves KeepsIssued (prisma tx : Service χ α) := fun tx =>
    prisma_moves hrefl fun _ _ _ _ => rfl
  cases c with
  | createChallenge dto random => exact absurd (hawait (Svc.Moves.throwIf hrefl _ _)) h
  | challengeMade publicKey random expiresAt => exact absurd (hawait (hprisma _)) h
  | expiredDeleted publicKey random expiresAt => exact absurd (hawait (hprisma _)) h
  | login dto ctx freshId => exact absurd (hawait (Svc.Moves.throwIf hrefl _ _)) h
  | keyChecked dto ctx freshId => exact absurd (hawait (hprisma _)) h
  | challengeFound dto ctx freshId stored =>
    refine absurd (hawait (Svc.Moves.bind htrans (keepsIssued_refuseIf _ _ _ _ _) fun _ => ?_)) h
    exact Svc.Moves.bind htrans (Svc.Moves.ofExcept hrefl _) fun _ => keepsIssued_refuseIf _ _ _ _ _
  | signatureVerified dto ctx freshId => exact absurd (hawait (hprisma _)) h
  | challengeConsumed dto ctx freshId consumed =>
    exact absurd (hawait (Svc.Moves.bind htrans (keepsIssued_refuseIf _ _ _ _ _) fun _ => hprisma _)) h
  | accountEntered dto ctx user => exact ⟨dto, rfl⟩
  | purgeExpiredChallenges retentionHours =>
    refine absurd (hawait (Svc.Moves.bind htrans (Svc.Moves.get hrefl) fun w => ?_)) h
    exact Svc.Moves.bind htrans (hprisma _) fun _ => hrefl
  | tick ms => exact absurd rfl h
  | done => exact absurd rfl h

/-- A call that has consumed its challenge did so at a step of the schedule. -/
theorem consumes_of_consumed (hstart : (p.calls i).consumed = none) (is : List ℕ)
    (h : (((authCalls crypto expiration).run p is).calls i).consumed = some dto) :
    ∃ pre post, is = pre ++ i :: post ∧ Consumes crypto expiration ((authCalls crypto expiration).run p pre) i dto := by
  induction is using List.reverseRecOn with
  | nil =>
    rw [Machine.run_nil, hstart] at h
    cases h
  | append_singleton is j ih =>
    rw [Machine.run_append, Machine.run_cons, Machine.run_nil] at h
    have hearlier : (((authCalls crypto expiration).run p is).calls i).consumed = some dto →
        ∃ pre post, is ++ [j] = pre ++ i :: post ∧
          Consumes crypto expiration ((authCalls crypto expiration).run p pre) i dto := fun hbefore => by
      obtain ⟨pre, post, rfl, hc⟩ := ih hbefore
      exact ⟨pre, post ++ [j], by simp, hc⟩
    by_cases hij : i = j
    · subst hij
      have hstep := h
      rw [Pool.next_calls, Function.update_self] at hstep
      rcases authStep_consumed hstep with hbefore | hverified
      · exact hearlier hbefore
      · exact ⟨is, [], rfl, hverified, h⟩
    · rw [Pool.next_calls, Function.update_of_ne hij] at h
      exact hearlier h

end Consumption

/-! ## Single use -/

/-- What holds of the challenges along a schedule. -/
structure SingleUse (crypto : Crypto) (expiration : Option ℚ) (p : Pool (World χ) AuthCall) (is : List ℕ) : Prop where
  current : (authCalls crypto expiration).Along
    (fun p i => ∀ dto, Consumes crypto expiration p i dto → Current p.shared dto) p is
  /-- two steps never consume the same text -/
  once : ∀ pre mid post i j dto dto', is = pre ++ i :: mid ++ j :: post →
    Consumes crypto expiration ((authCalls crypto expiration).run p pre) i dto →
    Consumes crypto expiration ((authCalls crypto expiration).run p (pre ++ i :: mid)) j dto' →
    dto'.challenge ≠ dto.challenge
  /-- a call that issues a token has consumed a challenge before -/
  token : ∀ pre post i, is = pre ++ i :: post → Issues crypto expiration ((authCalls crypto expiration).run p pre) i →
    ∃ pre₁ pre₂ dto, pre = pre₁ ++ i :: pre₂ ∧
      Consumes crypto expiration ((authCalls crypto expiration).run p pre₁) i dto

/-- **A challenge is consumed once**, under every schedule of calls that have not consumed one yet. -/
theorem single_use (crypto : Crypto) (expiration : Option ℚ) (p : Pool (World χ) AuthCall) (hfresh : Fresh p)
    (hstart : ∀ i, (p.calls i).consumed = none) (is : List ℕ) : SingleUse crypto expiration p is where
  current := by
    rw [Machine.along_iff]
    exact fun pre i post _ dto h => (of_consumes h).1
  once := by
    rintro pre mid post i j dto dto' - h h' hsame
    have hfresh' : Fresh ((authCalls crypto expiration).run p pre) :=
      Machine.run_inv (I := Fresh) (fun p i hp _ => fresh_next hp i) hfresh (Machine.along_of_forall fun _ _ _ => trivial)
    have hdead : Dead dto'.challenge ((authCalls crypto expiration).run p (pre ++ i :: mid)) := by
      rw [Machine.run_append, Machine.run_cons, hsame]
      exact Machine.run_inv (I := Dead dto.challenge) (fun p i hp _ => dead_next hp i) (dead_of_consumes hfresh' h)
        (Machine.along_of_forall fun _ _ _ => trivial)
    exact not_consumes_of_dead hdead h'
  token := by
    rintro pre post i - h
    obtain ⟨dto, hdto⟩ := authStep_issued h
    obtain ⟨pre₁, pre₂, hpre, hc⟩ := consumes_of_consumed (hstart i) pre hdto
    exact ⟨pre₁, pre₂, dto, hpre, hc⟩

/-! ## Two logins with one challenge -/

namespace Wallets

/-- Without calls in flight but a request for a challenge and two logins that answer it. -/
def racingLogins : Pool (World Unit) AuthCall where
  shared := world
  calls
    | 0 => .createChallenge ⟨buyerKey⟩ challenge
    | 1 => .login ⟨buyerKey, challenge, signature⟩ {} buyerId
    | 2 => .login ⟨buyerKey, challenge, signature⟩ {} buyerId
    | _ => .done

theorem racingLogins_pending {i : ℕ} {k r : String} (h : (racingLogins.calls i).pending = some (k, r)) : i = 0 := by
  match i with
  | 0 => rfl
  | 1 => cases h
  | 2 => cases h
  | _ + 3 => cases h

theorem racingLogins_fresh : Fresh racingLogins where
  stored x hx := by cases hx
  pending i k r hi x hx := by cases hx
  distinct i j k l r hi hj := (racingLogins_pending hi).trans (racingLogins_pending hj).symm

theorem racingLogins_start (i : ℕ) : (racingLogins.calls i).consumed = none := by
  match i with
  | 0 => rfl
  | 1 => rfl
  | 2 => rfl
  | _ + 3 => rfl

end Wallets

/-- Both logins have verified their signature before the first consumes the challenge. -/
theorem racing_logins_single_use :
    SingleUse Wallets.crypto none Wallets.racingLogins [0, 0, 0, 1, 2, 1, 2, 1, 2, 1, 2, 1, 2, 1, 2] :=
  single_use Wallets.crypto none Wallets.racingLogins Wallets.racingLogins_fresh Wallets.racingLogins_start _

end IKash
