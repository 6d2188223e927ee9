import IKash.World

/-!
# The guards

`JwtAuthGuard` with `JwtStrategy.validate`, `KycVerifiedGuard` and `ResourceOwnerGuard` for orders. A token is a value
that this service signed: the guard admits a token that was issued and has not expired. No guard changes anything.

- `of_jwtAuth_ok`, `kycVerified_eq_ok`, `orderOwner_eq_ok`: whom each guard lets through.
-/

namespace IKash

open Lib

variable {χ : Type}

/-- `request.user` -/
structure AuthUser where
  userId : String
  publicKey : String
deriving DecidableEq, Repr

def userByPublicKey (db : Db) (publicKey : String) : Option AppUser :=
  db.users.findUnique? (fun u => some u.publicKey) publicKey

def userById (db : Db) (id : String) : Option AppUser := db.users.find? (uuid id)

/-- A token this service signed, before its expiration; both times are in seconds. -/
def ValidToken (w : World χ) (t : Token) : Prop := t ∈ w.issued ∧ w.now / 1000 < t.exp

instance (w : World χ) (t : Token) : Decidable (ValidToken w t) := inferInstanceAs (Decidable (_ ∧ _))

/-- The subject of a legacy token is a wallet address. -/
def isLegacySubject (sub : String) : Bool := Json.startsWith sub "G" && Json.length sub = 56

/-- `JwtStrategy.validate` -/
def JwtStrategy.validate (payload : Token) : Service χ AuthUser :=
  if isLegacySubject payload.sub then do
    let user ← prisma fun db => .ok (userByPublicKey db payload.sub, db)
    let user ← Svc.orThrow user (.app .userNotFound "User not found")
    pure ⟨user.userId, payload.publicKey⟩
  else pure ⟨payload.sub, payload.publicKey⟩

/-- `JwtAuthGuard`; `mock` says whether `MOCK_PROFILE_UPLOAD` is `'true'`, `paramId` is the `id` of the path. -/
def jwtAuth (mock : Bool) (bearer : Option Token) (paramId : Option String) : Service χ AuthUser :=
  if mock then pure ⟨paramId.getD "mock-user", "mock-public-key"⟩
  else do
    let w ← Svc.get
    let payload ← Svc.orThrow (bearer.filter (fun t => ValidToken w t)) (.http 401 "Unauthorized")
    JwtStrategy.validate payload

/-- `KycVerifiedGuard` -/
def kycVerified (user : AuthUser) : Service χ Unit := do
  Svc.throwIf (user.publicKey = "") (.app .unauthorizedAction "Authentication required")
  let found ← prisma fun db => .ok (userByPublicKey db user.publicKey, db)
  Svc.throwIf (found.map AppUser.kycStatus ≠ some .approved)
    (.app .kycRequired "KYC verification required to perform this action")

def privilegedRoles : List AppRole := [.admin, .support]

/-- `ResourceOwnerGuard` on an order. -/
def orderOwner (user : AuthUser) (id : String) : Service χ Unit := do
  Svc.throwIf (user.userId = "") (.app .unauthorizedAction "Authentication required")
  let requester ← prisma (Prisma.appUser.findUnique (uuid user.userId))
  if ∃ u ∈ requester, u.role ∈ privilegedRoles then pure ()
  else do
    let order ← prisma (Prisma.order.findUnique (uuid id))
    let order ← Svc.orThrow order (.app .orderNotFound "Resource not found")
    Svc.throwIf (user.userId ∉ [order.buyerId, order.sellerId])
      (.app .unauthorizedAction "You do not have access to this resource")

/-! ## Whom the guards let through -/

/-- The wallet of the user belongs to an approved account. -/
def Approved (db : Db) (user : AuthUser) : Prop :=
  user.publicKey ≠ "" ∧ (userByPublicKey db user.publicKey).map AppUser.kycStatus = some .approved

instance (db : Db) (user : AuthUser) : Decidable (Approved db user) := inferInstanceAs (Decidable (_ ∧ _))

def Privileged (db : Db) (user : AuthUser) : Prop := ∃ u ∈ userById db user.userId, u.role ∈ privilegedRoles

instance (o : Option AppUser) : Decidable (∃ u ∈ o, u.role ∈ privilegedRoles) :=
  match o with
  | none => isFalse (by simp)
  | some u => decidable_of_iff (u.role ∈ privilegedRoles) (by simp)

instance (db : Db) (user : AuthUser) : Decidable (Privileged db user) :=
  inferInstanceAs (Decidable (∃ u ∈ userById db user.userId, u.role ∈ privilegedRoles))

/-- A privileged user, or the buyer or seller of the order. -/
def MayTouch (db : Db) (user : AuthUser) (id : String) : Prop :=
  user.userId ≠ "" ∧ (Privileged db user ∨
    ∃ o, db.orders.find? (uuid id) = some o ∧ user.userId ∈ [o.buyerId, o.sellerId])

variable {w w' : World χ} {user : AuthUser} {id : String} {u : Unit}

theorem kycVerified_eq_ok : (kycVerified user).run w = (.ok u, w') ↔ w' = w ∧ Approved w.db user := by
  have hfind : (prisma (fun db => .ok (userByPublicKey db user.publicKey, db)) : Service χ (Option AppUser)).run w =
    (.ok (userByPublicKey w.db user.publicKey), w) := rfl
  unfold kycVerified
  constructor
  · intro h
    obtain ⟨_, w₁, h₁, hrest⟩ := Svc.of_run_bind_ok h
    obtain ⟨hne, rfl⟩ := Svc.of_run_throwIf_ok h₁
    rw [Svc.run_bind_ok hfind] at hrest
    obtain ⟨hkyc, rfl⟩ := Svc.of_run_throwIf_ok hrest
    exact ⟨rfl, hne, not_not.mp hkyc⟩
  · rintro ⟨rfl, hne, hkyc⟩
    rw [Svc.run_bind_ok (Svc.run_throwIf_neg hne _ _), Svc.run_bind_ok hfind, Svc.run_throwIf_neg (not_not.mpr hkyc)]

theorem kycVerified_state (user : AuthUser) (w : World χ) : ((kycVerified user).run w).2 = w := by
  have hmoves : Svc.Moves Eq (kycVerified user : Service χ Unit) := by
    refine Svc.Moves.bind Eq.trans (Svc.Moves.throwIf (fun _ => rfl) _ _) fun _ => ?_
    exact Svc.Moves.bind Eq.trans (fun _ => rfl) fun _ => Svc.Moves.throwIf (fun _ => rfl) _ _
  exact (hmoves w).symm

/-- The id of a privileged user or of a party of an order is not refused. -/
theorem requester_run (h : Privileged w.db user ∨
    ∃ o, w.db.orders.find? (uuid id) = some o ∧ user.userId ∈ [o.buyerId, o.sellerId]) :
    (prisma (Prisma.appUser.findUnique (uuid user.userId)) : Service χ (Option AppUser)).run w =
      (.ok (userById w.db user.userId), w) := by
  rcases prisma_findUnique_cases Prisma.appUser (uuid user.userId) w with hok | ⟨hnone, hrefused, -⟩
  · exact hok
  · exfalso
    have hnot : ¬ w.db.users.Has (uuid user.userId) := fun hhas => by
      obtain ⟨u, hu⟩ := Table.has_iff.mp hhas
      cases hu.symm.trans hnone
    rcases h with ⟨u, hu, -⟩ | ⟨o, ho, hparty⟩
    · cases (Option.mem_def.mp hu).symm.trans hnone
    · have hsame : uuid user.userId = user.userId := uuid_of_not_isUuid ((isUuid_uuid user.userId).symm.trans hrefused)
      have hmem := (Table.find?_eq_some.mp ho).1
      rw [hsame] at hnot
      rcases List.mem_pair.mp hparty with h | h
      · exact hnot (h ▸ w.db.refs.orderBuyer o hmem)
      · exact hnot (h ▸ w.db.refs.orderSeller o hmem)

theorem orderOwner_eq_ok : (orderOwner user id).run w = (.ok u, w') ↔ w' = w ∧ MayTouch w.db user id := by
  unfold orderOwner
  constructor
  · intro h
    obtain ⟨_, w₁, h₁, hrest⟩ := Svc.of_run_bind_ok h
    obtain ⟨hne, rfl⟩ := Svc.of_run_throwIf_ok h₁
    obtain ⟨requester, w₂, h₂, hrest₂⟩ := Svc.of_run_bind_ok hrest
    obtain ⟨rfl, rfl⟩ := of_prisma_findUnique_ok h₂
    split at hrest₂
    · rename_i hpriv
      cases hrest₂
      exact ⟨rfl, hne, Or.inl hpriv⟩
    · obtain ⟨found, w₃, h₃, hrest₃⟩ := Svc.of_run_bind_ok hrest₂
      obtain ⟨rfl, rfl⟩ := of_prisma_findUnique_ok h₃
      obtain ⟨o, w₄, h₄, hrest₄⟩ := Svc.of_run_bind_ok hrest₃
      obtain ⟨ho, rfl⟩ := Svc.of_run_orThrow_ok h₄
      obtain ⟨hmem, rfl⟩ := Svc.of_run_throwIf_ok hrest₄
      exact ⟨rfl, hne, Or.inr ⟨o, ho, not_not.mp hmem⟩⟩
  · rintro ⟨rfl, hne, h⟩
    rw [Svc.run_bind_ok (Svc.run_throwIf_neg hne _ _), Svc.run_bind_ok (requester_run h)]
    by_cases hpriv : ∃ u ∈ userById w'.db user.userId, u.role ∈ privilegedRoles
    · rw [if_pos hpriv]
      rfl
    · rw [if_neg hpriv]
      rcases h with hp | ⟨o, ho, hmem⟩
      · exact absurd hp hpriv
      · rw [Svc.run_bind_ok (prisma_findUnique_of_some ho), Svc.run_bind_ok (Svc.run_orThrow_some _ _ _),
          Svc.run_throwIf_neg (not_not.mpr hmem)]

theorem orderOwner_state (user : AuthUser) (id : String) (w : World χ) : ((orderOwner user id).run w).2 = w := by
  have hmoves : Svc.Moves Eq (orderOwner user id : Service χ Unit) := by
    refine Svc.Moves.bind Eq.trans (Svc.Moves.throwIf (fun _ => rfl) _ _) fun _ => ?_
    refine Svc.Moves.bind Eq.trans (prisma_lookup_moves (fun _ => rfl) _ _) fun requester => ?_
    split
    · exact fun _ => rfl
    · refine Svc.Moves.bind Eq.trans (prisma_lookup_moves (fun _ => rfl) _ _) fun o => ?_
      exact Svc.Moves.bind Eq.trans (Svc.Moves.orThrow (fun _ => rfl) o _) fun _ => Svc.Moves.throwIf (fun _ => rfl) _ _
  exact (hmoves w).symm

theorem jwtAuth_state (mock : Bool) (bearer : Option Token) (paramId : Option String) (w : World χ) :
    ((jwtAuth mock bearer paramId).run w).2 = w := by
  have hmoves : Svc.Moves Eq (jwtAuth mock bearer paramId : Service χ AuthUser) := by
    unfold jwtAuth JwtStrategy.validate
    split
    · exact fun _ => rfl
    · refine Svc.Moves.bind Eq.trans (fun _ => rfl) fun w => ?_
      refine Svc.Moves.bind Eq.trans (Svc.Moves.orThrow (fun _ => rfl) _ _) fun t => ?_
      split
      · refine Svc.Moves.bind Eq.trans (fun _ => rfl) fun o => ?_
        exact Svc.Moves.bind Eq.trans (Svc.Moves.orThrow (fun _ => rfl) o _) fun _ _ => rfl
      · exact fun _ => rfl
  exact (hmoves w).symm

end IKash
