import IKash.ChatAuthors

/-!
# Who a token stands for

The HTTP guard and the chat gateway read the same token on their own. `JwtStrategy.validate` looks the account of a
legacy subject up; the gateway takes every subject for a user id.

- `sameIdentity_iff`: on which tokens the two agree.
-/

namespace IKash

open Lib

variable {χ : Type}

/-- Whom `JwtStrategy.validate` makes the user of a request; `none` is a refusal. -/
def JwtStrategy.identity (w : World χ) (payload : Token) : Option String :=
  ((JwtStrategy.validate payload).run w).1.toOption.map AuthUser.userId

/-- Whom the gateway makes the user of a socket; `none` is a refusal. -/
def ChatMessageGateway.identity (env : ChatEnv) (w : World χ) (handshake : Handshake) : Option String :=
  (authenticateSocket env w handshake).toOption.map AuthenticatedSocketData.userId

/-- The token that the handshake of a socket carries. -/
def Handshake.Carries (env : ChatEnv) (handshake : Handshake) (t : Token) : Prop :=
  ((ChatMessageGateway.extractToken handshake).filter (· ≠ "")).bind env.tokenOf = some t

/-- The subject is there and is no wallet address, or the account of that address has it as its user id. -/
def SubjectIsUserId (db : Db) (sub : String) : Prop :=
  sub ≠ "" ∧ (isLegacySubject sub = true → ∃ u, userByPublicKey db sub = some u ∧ u.userId = sub)

/-- A wallet address is found in the database, and any other subject is left as it is. -/
theorem JwtStrategy.identity_eq (w : World χ) (t : Token) :
    JwtStrategy.identity w t =
      if isLegacySubject t.sub then (userByPublicKey w.db t.sub).map AppUser.userId else some t.sub := by
  have hfind : (prisma (fun db => .ok (userByPublicKey db t.sub, db)) : Service χ (Option AppUser)).run w =
    (.ok (userByPublicKey w.db t.sub), w) := rfl
  unfold JwtStrategy.identity JwtStrategy.validate
  split
  · rw [Svc.run_bind_ok hfind]
    cases huser : userByPublicKey w.db t.sub with
    | none => rfl
    | some u => rfl
  · rfl

/-- The gateway takes the subject of a token that verifies, whatever is in the database. -/
theorem ChatMessageGateway.identity_eq {env : ChatEnv} {w : World χ} {handshake : Handshake} {t : Token}
    (hcarries : handshake.Carries env t) (hvalid : ValidToken w t) :
    ChatMessageGateway.identity env w handshake = if t.sub = "" then none else some t.sub := by
  unfold ChatMessageGateway.identity authenticateSocket
  unfold Handshake.Carries at hcarries
  dsimp only
  rw [hcarries]
  by_cases hsub : t.sub = ""
  · rw [if_pos hsub, Option.filter_some_neg (by simp [hsub])]
    rfl
  · rw [if_neg hsub, Option.filter_some_pos (by simp [hvalid, hsub])]
    rfl

theorem not_legacy_empty : isLegacySubject "" = false := by decide

/-- Both refuse the token or both take it for the same user, exactly if the subject is a user id of its own. -/
theorem sameIdentity_iff {env : ChatEnv} {w : World χ} {handshake : Handshake} {t : Token}
    (hcarries : handshake.Carries env t) (hvalid : ValidToken w t) :
    JwtStrategy.identity w t = ChatMessageGateway.identity env w handshake ↔ SubjectIsUserId w.db t.sub := by
  rw [JwtStrategy.identity_eq, ChatMessageGateway.identity_eq hcarries hvalid, SubjectIsUserId]
  by_cases hsub : t.sub = ""
  · rw [hsub, if_pos rfl, not_legacy_empty]
    simp
  · cases hleg : isLegacySubject t.sub with
    | false => simp [hsub]
    | true => simp [hsub, Option.map_eq_some_iff]

/-! ## A token of a legacy account -/

namespace Talk

/-- The subject is the wallet of the seller. -/
def legacyToken : Token := { sellerToken with sub := Wallets.sellerKey }

/-- Both tokens of the seller have been signed. -/
def legacyWorld : World Unit := { world with issued := [legacyToken, sellerToken] }

def legacyEnv : ChatEnv where
  tokenOf s := if s = "legacy" then some legacyToken else if s = "seller" then some sellerToken else none

def handshake (token : String) : Handshake := { token := some (.str token) }

end Talk

/-- A request with the token is made by the seller, and a socket with it belongs to nobody. -/
theorem legacy_disagree :
    (Talk.handshake "legacy").Carries Talk.legacyEnv Talk.legacyToken ∧
      ValidToken Talk.legacyWorld Talk.legacyToken ∧
      JwtStrategy.identity Talk.legacyWorld Talk.legacyToken = some Wallets.sellerId ∧
      ChatMessageGateway.identity Talk.legacyEnv Talk.legacyWorld (Talk.handshake "legacy") =
        some Wallets.sellerKey := by
  refine ⟨?_, by decide, ?_, ?_⟩
  · unfold Handshake.Carries
    decide
  · rw [JwtStrategy.identity_eq]
    decide
  · decide

/-- A token that the login of today signs. -/
theorem sameIdentity_seller :
    JwtStrategy.identity Talk.legacyWorld Talk.sellerToken =
        ChatMessageGateway.identity Talk.legacyEnv Talk.legacyWorld (Talk.handshake "seller") ↔
      SubjectIsUserId Talk.legacyWorld.db Talk.sellerToken.sub :=
  sameIdentity_iff (by unfold Handshake.Carries; decide) (by decide)

end IKash
