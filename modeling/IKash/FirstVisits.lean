import IKash.Challenges

/-!
# First visits at the same time

`getOrCreateAccount` looks for the account of a public key and inserts it when there is none; `login` finds or creates it
in one access to the database (`upsert`). Any number of such calls for one public key interleave, the logins with all
their steps.

- `getOrCreateAccount_alone`, `account_alone`: a call that is scheduled alone answers what the service answers, and a login
  takes the steps of the others (`visitStep_auth`);
- `visitStep_sound`: the accounts grow by the account of the key at most, and only when it is not there;
- `raceFree_iff`: all calls succeed with one account exactly when no call inserts it after it is there (`NoLateInsert`).
-/

namespace IKash

open Lib AuthService

variable {χ : Type}

/-! ## The calls -/

/-- What a call still has to do, or what it has answered. -/
inductive VisitCall where
  | getOrCreateAccount (publicKey : Option String) (freshId : String)
  | missing (publicKey freshId : String)
  | auth (c : AuthCall)
  | returned (user : AppUser)
  | failed (e : Thrown)

/-- The read of `findOrCreateByPublicKey`. -/
def UsersService.readAccount (publicKey : Option String) :
    Service χ (String × Option (AppUser × List PaymentMethodWithProvider)) := do
  let publicKey ← Svc.orThrow publicKey (.prisma .validation)
  let existing ← UsersRepository.findByPublicKey publicKey
  pure (publicKey, existing)

/-- `{ publicKey, pendingAccountInfo: true }` -/
def UsersService.newAccount (publicKey freshId : String) (now : ℤ) : AppUser :=
  { userId := freshId, publicKey := publicKey, createdAt := now, pendingAccountInfo := true }

/-- The insert of `findOrCreateByPublicKey`. -/
def UsersService.insertAccount (publicKey freshId : String) : Service χ AppUser := do
  let w ← Svc.get
  UsersRepository.create (.ok (newAccount publicKey freshId w.now))

/-- What a call does with what it has read. -/
def VisitCall.afterRead (freshId : String) (r : String × Option (AppUser × List PaymentMethodWithProvider)) : VisitCall :=
  r.2.elim (.missing r.1 freshId) fun found => .returned found.1

/-- One step of a call. The steps of a login before it enters the account are those of `authStep`. -/
def visitStep (crypto : Crypto) (expiration : Option ℚ) (w : World χ) : VisitCall → World χ × VisitCall
  | .getOrCreateAccount publicKey freshId =>
    Pool.awaitCatch .failed (UsersService.readAccount publicKey) (VisitCall.afterRead freshId) w
  | .missing publicKey freshId => Pool.awaitCatch .failed (UsersService.insertAccount publicKey freshId) .returned w
  | .auth (.challengeConsumed dto ctx freshId consumed) =>
    Pool.awaitCatch .failed (enterAccount dto ctx freshId consumed w.now) (fun user => .auth (.accountEntered dto ctx user)) w
  | .auth (.accountEntered dto ctx user) => Pool.awaitCatch .failed (answerLogin dto ctx user) (fun r => .returned r.2) w
  | .auth c => ((authStep crypto expiration w c).1, .auth (authStep crypto expiration w c).2)
  | .returned user => (w, .returned user)
  | .failed e => (w, .failed e)

/-- The machine whose inputs say which call steps. -/
abbrev visits (crypto : Crypto) (expiration : Option ℚ) : Machine (Pool (World χ) VisitCall) ℕ Unit :=
  Pool.machine (visitStep crypto expiration)

variable {crypto : Crypto} {expiration : Option ℚ}

/-- A step of a login writes what it writes without a record of its result. -/
theorem visitStep_auth (w : World χ) (c : AuthCall) :
    (visitStep crypto expiration w (.auth c)).1 = (authStep crypto expiration w c).1 := by
  cases c with
  | challengeConsumed dto ctx freshId consumed =>
    rw [visitStep, authStep, Pool.awaitCatch_fst, Pool.await_fst]
  | accountEntered dto ctx user => rw [visitStep, authStep, Pool.awaitCatch_fst, Pool.await_fst]
  | _ => rfl

/-! ## Calls by themselves -/

theorem readAccount_run (k : String) (w : World χ) : (UsersService.readAccount (some k)).run w =
    (.ok (k, (userByPublicKey w.db k).map fun u => (u, UsersRepository.paymentMethodsOf w.db u)), w) := rfl

/-- The answer of a call of the users' service. -/
def VisitCall.answer {α : Type} : Except Thrown (AppUser × α) → VisitCall
  | .ok r => .returned r.1
  | .error e => .failed e

theorem insertAccount_alone (k freshId : String) (w : World χ) :
    Pool.AnswersAt (visitStep crypto expiration) VisitCall.answer (.missing k freshId) (do
      let u ← UsersService.insertAccount k freshId
      pure (u, (none : Option (List PaymentMethodWithProvider)))) w := by
  refine ⟨1, ?_⟩
  rcases hinsert : (UsersService.insertAccount k freshId).run w with ⟨r, w'⟩
  cases r with
  | ok u =>
    rw [Pool.solo, visitStep, Pool.awaitCatch_ok hinsert, Svc.run_bind_ok hinsert]
    rfl
  | error e =>
    rw [Pool.solo, visitStep, Pool.awaitCatch_error hinsert, Svc.run_bind_error hinsert]
    rfl

theorem getOrCreateAccount_alone (publicKey : Option String) (freshId : String) (w : World χ) :
    Pool.AnswersAt (visitStep crypto expiration) VisitCall.answer (.getOrCreateAccount publicKey freshId)
      (UsersService.getOrCreateAccount publicKey freshId) w := by
  cases publicKey with
  | none => exact ⟨1, rfl⟩
  | some k =>
    have hread := readAccount_run k w
    have hservice : (UsersService.getOrCreateAccount (some k) freshId).run w =
        (UsersRepository.findOrCreateByPublicKey k freshId).run w := rfl
    have hfound := UsersRepository.findByPublicKey_run k w
    rw [Pool.AnswersAt, hservice, UsersRepository.findOrCreateByPublicKey, Svc.run_bind_ok hfound]
    cases hu : userByPublicKey w.db k with
    | some u =>
      rw [hu] at hread
      refine ⟨1, ?_⟩
      rw [Pool.solo, visitStep, Pool.awaitCatch_ok hread]
      rfl
    | none =>
      rw [hu] at hread
      have hinsert : Pool.AnswersAt (visitStep crypto expiration) _ _ _ w := insertAccount_alone k freshId w
      obtain ⟨n, hn⟩ := hinsert
      refine ⟨n + 1, ?_⟩
      rw [Pool.solo, visitStep, Pool.awaitCatch_ok hread]
      exact hn

theorem account_alone (dto : LoginDto) (ctx : RequestContext) (freshId : String) (consumed : ℕ) (w : World χ) :
    Pool.AnswersAt (visitStep crypto expiration) (fun r => VisitCall.answer (r.map Prod.swap))
      (.auth (.challengeConsumed dto ctx freshId consumed))
      (enterAccount dto ctx freshId consumed w.now >>= answerLogin dto ctx) w :=
  Pool.answersAt_bind rfl fun _ _ _ => Pool.answersAt_last rfl

/-! ## What a call is about -/

/-- The public key of a login. -/
def AuthCall.loginKey : AuthCall → Option String
  | .login dto _ _ => some dto.publicKey
  | .keyChecked dto _ _ => some dto.publicKey
  | .challengeFound dto _ _ _ => some dto.publicKey
  | .signatureVerified dto _ _ => some dto.publicKey
  | .challengeConsumed dto _ _ _ => some dto.publicKey
  | .accountEntered dto _ _ => some dto.publicKey
  | _ => none

/-- The id of the account that a login may create. -/
def AuthCall.freshId : AuthCall → Option String
  | .login _ _ freshId => some freshId
  | .keyChecked _ _ freshId => some freshId
  | .challengeFound _ _ freshId _ => some freshId
  | .signatureVerified _ _ freshId => some freshId
  | .challengeConsumed _ _ freshId _ => some freshId
  | _ => none

/-- The account that a login has entered. -/
def AuthCall.user : AuthCall → Option AppUser
  | .accountEntered _ _ user => some user
  | _ => none

/-- How many steps are left at most. -/
def AuthCall.remaining : AuthCall → ℕ
  | .createChallenge _ _ => 3
  | .challengeMade _ _ _ => 2
  | .expiredDeleted _ _ _ => 1
  | .login _ _ _ => 6
  | .keyChecked _ _ _ => 5
  | .challengeFound _ _ _ _ => 4
  | .signatureVerified _ _ _ => 3
  | .challengeConsumed _ _ _ _ => 2
  | .accountEntered _ _ _ => 1
  | .purgeExpiredChallenges _ => 1
  | .tick _ => 1
  | .done => 0

namespace VisitCall

/-- The call is about the account of the key, or about no account. -/
def OfKey (k : String) : VisitCall → Prop
  | .getOrCreateAccount publicKey _ => publicKey = some k
  | .missing publicKey _ => publicKey = k
  | .auth c => ∀ j ∈ c.loginKey, j = k
  | _ => True

/-- The id of the account that the call may create. -/
def freshId : VisitCall → Option String
  | .getOrCreateAccount _ freshId => some freshId
  | .missing _ freshId => some freshId
  | .auth c => c.freshId
  | _ => none

/-- The account that the call has found or created. -/
def user : VisitCall → Option AppUser
  | .auth c => c.user
  | .returned user => some user
  | _ => none

def remaining : VisitCall → ℕ
  | .getOrCreateAccount _ _ => 2
  | .missing _ _ => 1
  | .auth c => c.remaining
  | _ => 0

/-- Nothing is ahead of the call but to find or create the account, and to answer. -/
def Entering : VisitCall → Prop
  | .getOrCreateAccount publicKey _ => publicKey ≠ none
  | .missing _ _ => True
  | .auth (.challengeConsumed _ _ _ consumed) => consumed ≠ 0
  | .auth (.accountEntered _ _ _) => True
  | _ => False

end VisitCall

/-! ## What a step does to the accounts -/

def SameAccounts (w w' : World χ) : Prop := w'.db.users = w.db.users

/-- The accounts are as they were, or the one of the key was missing and is there. -/
def GrowsBy (k : String) (w w' : World χ) : Prop :=
  SameAccounts w w' ∨ userByPublicKey w.db k = none ∧ userByPublicKey w'.db k ≠ none

section Accounts

variable {db db' : Db} {row u : AppUser} {k : String} {w w' : World χ}

theorem SameAccounts.trans {w'' : World χ} (h : SameAccounts w w') (h' : SameAccounts w' w'') : SameAccounts w w'' :=
  Eq.trans h' h

theorem SameAccounts.userByPublicKey (h : SameAccounts w w') : userByPublicKey w'.db k = userByPublicKey w.db k := by
  unfold IKash.userByPublicKey
  rw [h]

/-- A row that is inserted was missing, and is there. -/
theorem of_create_account (h : Prisma.appUser.create row db = .ok (u, db')) :
    userByPublicKey db row.publicKey = none ∧ u = row ∧ userByPublicKey db' row.publicKey = some row := by
  obtain ⟨t, ht, rfl, hdb⟩ := Delegate.create_eq_ok.mp h
  have hmem : ∀ r, userByPublicKey db r.publicKey = some r ↔ r ∈ db.users.rows := fun r =>
    (Table.findUnique?_eq_some List.mem_cons_self).trans (and_iff_left rfl)
  refine ⟨?_, rfl, ?_⟩
  · by_contra hsome
    obtain ⟨r, hr⟩ := Option.ne_none_iff_exists'.mp hsome
    obtain ⟨hrow, hkey⟩ := (Table.findUnique?_eq_some (t := db.users) List.mem_cons_self).mp hr
    exact Table.not_clash_of_insert ht r hrow (Or.inr ⟨_, List.mem_cons_self, Option.some_ne_none _, hkey⟩)
  · refine (Table.findUnique?_eq_some List.mem_cons_self).mpr ⟨?_, rfl⟩
    rw [hdb]
    exact (Table.mem_insert ht).mpr (Or.inr rfl)

/-- A row with a new id, a new public key and no alias is taken. -/
theorem appUser_create_isOk (hkey : userByPublicKey db row.publicKey = none) (hid : ¬ db.users.Has row.userId)
    (halias : row.aliasName = none) : ∃ db', Prisma.appUser.create row db = .ok (row, db') := by
  have hfree : ∀ x ∈ db.users.rows, ¬ Clash x row := by
    rintro x hx (hkeys | ⟨c, hc, hfilled, heq⟩)
    · exact hid ⟨x, hx, hkeys⟩
    · rcases List.mem_pair.mp hc with rfl | rfl
      · have hnone := List.find?_eq_none.mp hkey x hx
        exact hnone (decide_eq_true heq)
      · exact hfilled (heq.trans halias)
  obtain ⟨t, ht⟩ := Table.insert_isSome hfree
  have hhas : ∀ j, db.users.Has j → t.Has j := by
    rintro j ⟨x, hx, rfl⟩
    exact ⟨x, (Table.mem_insert ht).mpr (Or.inl hx), rfl⟩
  have hrefs : ({ db.toTables with users := t } : Tables).Refs := { db.refs with
    offerCreator := fun o ho => hhas _ (db.refs.offerCreator o ho)
    orderBuyer := fun o ho => hhas _ (db.refs.orderBuyer o ho)
    orderSeller := fun o ho => hhas _ (db.refs.orderSeller o ho)
    messageSender := fun m hm => hhas _ (db.refs.messageSender m hm)
    methodUser := fun m hm => hhas _ (db.refs.methodUser m hm)
    auditUser := fun a ha j hj => hhas _ (db.refs.auditUser a ha j hj) }
  exact ⟨⟨_, hrefs⟩, Delegate.create_eq_ok.mpr ⟨t, ht, rfl, rfl⟩⟩

/-- The insert, by what the table says. -/
theorem create_newAccount_cases (k freshId : String) (now : ℤ) (db : Db) :
    (∃ e, Prisma.appUser.create (UsersService.newAccount k freshId now) db = .error e ∧
      ¬ (userByPublicKey db k = none ∧ ¬ db.users.Has freshId)) ∨
    ∃ u db', Prisma.appUser.create (UsersService.newAccount k freshId now) db = .ok (u, db') ∧
      userByPublicKey db k = none ∧ userByPublicKey db' k = some u := by
  cases h : Prisma.appUser.create (UsersService.newAccount k freshId now) db with
  | error e =>
    refine Or.inl ⟨e, rfl, fun hfree => ?_⟩
    have hkey : userByPublicKey db (UsersService.newAccount k freshId now).publicKey = none := hfree.1
    obtain ⟨db', hok⟩ := appUser_create_isOk hkey hfree.2 rfl
    rw [h] at hok
    cases hok
  | ok r =>
    obtain ⟨hnone, hu, hthere⟩ := of_create_account h
    exact Or.inr ⟨r.1, r.2, rfl, hnone, by rw [hu]; exact hthere⟩

theorem insertAccount_run (k freshId : String) (w : World χ) : (UsersService.insertAccount k freshId).run w =
    (prisma (Prisma.appUser.create (UsersService.newAccount k freshId w.now))).run w := rfl

theorem refuseIf_pos_run {c : Prop} [Decidable c] (hc : c) (publicKey reason : String) (ctx : RequestContext) (e : Thrown)
    (w : World χ) : ∃ w', (refuseIf c publicKey ctx reason e).run w = (.error e, w') ∧ SameAccounts w w' := by
  obtain ⟨db, hrun, hre⟩ := AuditLogService.create_run
    { loginEntry .userLoginFailure .failure publicKey ctx with metadata := [("reason", .str reason)] } w
  unfold refuseIf recordLoginFailure
  rw [if_pos hc, Svc.run_bind_ok hrun]
  refine ⟨_, rfl, ?_⟩
  show db.users = w.db.users
  rw [hre.frame]

/-- `upsert` answers the account that is there, or inserts it. -/
theorem upsert_eq (dto : LoginDto) (freshId : String) (now : ℤ) (db : Db) :
    Prisma.appUser.upsert dto.publicKey (UsersService.newAccount dto.publicKey freshId now) db =
      match userByPublicKey db dto.publicKey with
      | some u => .ok (u, db)
      | none => Prisma.appUser.create (UsersService.newAccount dto.publicKey freshId now) db := rfl

/-- The account step of a login, by what the table says. -/
theorem enterAccount_cases (dto : LoginDto) (ctx : RequestContext) (freshId : String) (consumed : ℕ) (now : ℤ) (w : World χ) :
    (∃ e w', (enterAccount dto ctx freshId consumed now).run w = (.error e, w') ∧ SameAccounts w w' ∧
      (consumed = 0 ∨ userByPublicKey w.db dto.publicKey = none ∧ w.db.users.Has freshId)) ∨
    ∃ u w', (enterAccount dto ctx freshId consumed now).run w = (.ok u, w') ∧ GrowsBy dto.publicKey w w' ∧
      userByPublicKey w'.db dto.publicKey = some u := by
  unfold enterAccount
  by_cases hconsumed : consumed = 0
  · obtain ⟨w', hrun, hw⟩ := refuseIf_pos_run hconsumed dto.publicKey "challenge_race_condition" ctx invalidChallenge w
    exact Or.inl ⟨invalidChallenge, w', Svc.run_bind_error hrun, hw, Or.inl hconsumed⟩
  · have hpass : (refuseIf (consumed = 0) dto.publicKey ctx "challenge_race_condition" invalidChallenge).run w = (.ok (), w) := by
      unfold refuseIf
      rw [if_neg hconsumed]
      rfl
    have hupsert := upsert_eq dto freshId now w.db
    rw [Svc.run_bind_ok hpass]
    cases hu : userByPublicKey w.db dto.publicKey with
    | some u =>
      rw [hu] at hupsert
      exact Or.inr ⟨u, w, prisma_run_ok hupsert, Or.inl rfl, hu⟩
    | none =>
      rw [hu] at hupsert
      rcases create_newAccount_cases dto.publicKey freshId now w.db with ⟨e, h, hfree⟩ | ⟨u, db, h, -, hthere⟩
      · refine Or.inl ⟨e, w, prisma_run_error (hupsert.trans h), rfl, Or.inr ⟨rfl, ?_⟩⟩
        exact not_not.mp fun hid => hfree ⟨hu, hid⟩
      · refine Or.inr ⟨u, { w with db := db }, prisma_run_ok (hupsert.trans h), Or.inr ⟨hu, ?_⟩, hthere⟩
        rw [hthere]
        exact Option.some_ne_none u

theorem answerLogin_run (dto : LoginDto) (ctx : RequestContext) (user : AppUser) (w : World χ) :
    ∃ token w', (answerLogin dto ctx user).run w = (.ok (token, user), w') ∧ SameAccounts w w' := by
  obtain ⟨db, hrun, hre⟩ := AuditLogService.create_run (loginEntry .userLoginSuccess .success dto.publicKey ctx) w
  unfold answerLogin
  rw [Svc.run_bind_ok hrun]
  refine ⟨_, _, rfl, ?_⟩
  show db.users = w.db.users
  rw [hre.frame]

/-- Only the account step of a login looks at the accounts. -/
theorem authStep_sameAccounts (w : World χ) (c : AuthCall) (hc : ∀ dto ctx freshId consumed,
    c ≠ .challengeConsumed dto ctx freshId consumed) : SameAccounts w (authStep crypto expiration w c).1 := by
  have hawait : ∀ {α : Type} {m : Service χ α} {k : α → AuthCall}, Svc.Moves SameAccounts m →
      SameAccounts w (Pool.await .done m k w).1 := by
    intro α m k hm
    rw [Pool.await_fst]
    exact hm w
  have hrefl : ∀ w : World χ, SameAccounts w w := fun _ => rfl
  have htrans : ∀ ⦃a b c : World χ⦄, SameAccounts a b → SameAccounts b c → SameAccounts a c := fun _ _ _ => SameAccounts.trans
  have hsame : ∀ w w' : World χ, w'.db.users = w.db.users → SameAccounts w w' := fun _ _ h => h
  have hdelete : ∀ p : AuthChallenge → Bool, Svc.Moves SameAccounts (prisma (Prisma.authChallenge.deleteMany p) : Service χ Unit) :=
    fun p => moves_writes hsame Prisma.authChallenge (fun _ _ => rfl) fun _ _ _ h => Delegate.writes_deleteMany h
  cases c with
  | createChallenge dto random => exact hawait (Svc.Moves.throwIf hrefl _ _)
  | challengeMade publicKey random expiresAt => exact hawait (hdelete _)
  | expiredDeleted publicKey random expiresAt =>
    exact hawait (moves_writes hsame Prisma.authChallenge (fun _ _ => rfl) fun _ _ _ h => Delegate.writes_upsert h)
  | login dto ctx freshId => exact hawait (Svc.Moves.throwIf hrefl _ _)
  | keyChecked dto ctx freshId =>
    unfold authStep
    exact hawait (prisma_findUnique_moves hrefl _ _)
  | challengeFound dto ctx freshId stored =>
    refine hawait (Svc.Moves.bind (@SameAccounts.trans χ) (refuseIf_moves htrans hsame _ _ _ _) fun _ => ?_)
    exact Svc.Moves.bind SameAccounts.trans (Svc.Moves.ofExcept hrefl _) fun _ => refuseIf_moves htrans hsame _ _ _ _
  | signatureVerified dto ctx freshId =>
    exact hawait (moves_writes hsame Prisma.authChallenge (fun _ _ => rfl) fun _ _ _ h => Delegate.writes_updateMany h)
  | challengeConsumed dto ctx freshId consumed => exact absurd rfl (hc dto ctx freshId consumed)
  | accountEntered dto ctx user =>
    obtain ⟨token, w', hrun, hw⟩ := answerLogin_run dto ctx user w
    rw [authStep, Pool.await_fst, hrun]
    exact hw
  | purgeExpiredChallenges retentionHours =>
    refine hawait (Svc.Moves.bind SameAccounts.trans (Svc.Moves.get hrefl) fun w => ?_)
    exact Svc.Moves.bind SameAccounts.trans (hdelete _) fun _ => hrefl
  | tick ms => rfl
  | done => rfl

end Accounts

/-! ## What a call relies on -/

/-- While the account is missing the id of the call is free; an account that the call has is the one of the key. -/
structure Sound (k : String) (w : World χ) (c : VisitCall) : Prop where
  key : c.OfKey k
  fresh : userByPublicKey w.db k = none → ∀ f ∈ c.freshId, ¬ w.db.users.Has f
  found : ∀ u ∈ c.user, userByPublicKey w.db k = some u

section Sound

variable {k : String} {w w' : World χ} {c : VisitCall}

/-- The other calls leave what a call relies on. -/
theorem Sound.of_growsBy (h : Sound k w c) (hw : GrowsBy k w w') : Sound k w' c := by
  rcases hw with hsame | ⟨hnone, hsome⟩
  · refine ⟨h.key, ?_, ?_⟩
    · rw [hsame.userByPublicKey, hsame]
      exact h.fresh
    · rw [hsame.userByPublicKey]
      exact h.found
  · refine ⟨h.key, fun hnone' => absurd hnone' hsome, fun u hu => ?_⟩
    rw [h.found u hu] at hnone
    cases hnone

theorem sound_failed (k : String) (w : World χ) (e : Thrown) : Sound k w (.failed e) :=
  ⟨trivial, fun _ _ hf => (Option.not_mem_none _ hf).elim, fun _ hu => (Option.not_mem_none _ hu).elim⟩

theorem sound_returned {u : AppUser} (hu : userByPublicKey w.db k = some u) : Sound k w (.returned u) :=
  ⟨trivial, fun _ _ hf => (Option.not_mem_none _ hf).elim, fun _ hv => Option.some.inj hv ▸ hu⟩

/-- Before the account step a login keeps its key and its id. -/
theorem authStep_call {c : AuthCall} (w : World χ) (hc : ∀ dto ctx freshId consumed,
    c ≠ .challengeConsumed dto ctx freshId consumed) : (authStep crypto expiration w c).2 = .done ∨
      (authStep crypto expiration w c).2.loginKey = c.loginKey ∧ (authStep crypto expiration w c).2.freshId = c.freshId ∧
        (authStep crypto expiration w c).2.user = none := by
  have hawait : ∀ {α : Type} {m : Service χ α} {f : α → AuthCall}, (∀ a, f a = .done ∨
      (f a).loginKey = c.loginKey ∧ (f a).freshId = c.freshId ∧ (f a).user = none) →
      (Pool.await .done m f w).2 = .done ∨ (Pool.await .done m f w).2.loginKey = c.loginKey ∧
        (Pool.await .done m f w).2.freshId = c.freshId ∧ (Pool.await .done m f w).2.user = none := by
    intro α m f hf
    rcases Pool.await_snd .done m f w with h | ⟨a, -, h⟩
    · exact Or.inl h
    · rw [h]
      exact hf a
  cases c with
  | challengeConsumed dto ctx freshId consumed => exact absurd rfl (hc dto ctx freshId consumed)
  | expiredDeleted publicKey random expiresAt => exact hawait fun _ => Or.inl rfl
  | accountEntered dto ctx user => exact hawait fun _ => Or.inl rfl
  | purgeExpiredChallenges retentionHours => exact hawait fun _ => Or.inl rfl
  | tick ms => exact Or.inl rfl
  | done => exact Or.inl rfl
  | _ => exact hawait fun _ => Or.inr ⟨rfl, rfl, rfl⟩

theorem visitStep_auth_sound {c : AuthCall} (hc : ∀ dto ctx freshId consumed, c ≠ .challengeConsumed dto ctx freshId consumed)
    (h : Sound k w (.auth c)) : Sound k w (.auth (authStep crypto expiration w c).2) := by
  rcases authStep_call w hc with hdone | ⟨hkey, hfresh, huser⟩
  · rw [hdone]
    exact ⟨fun _ hj => (Option.not_mem_none _ hj).elim, fun _ _ hf => (Option.not_mem_none _ hf).elim,
      fun _ hu => (Option.not_mem_none _ hu).elim⟩
  · refine ⟨fun j hj => ?_, fun hnone f hf => ?_, fun u hu => ?_⟩
    · rw [hkey] at hj
      exact h.key j hj
    · replace hf : f ∈ (authStep crypto expiration w c).2.freshId := hf
      rw [hfresh] at hf
      exact h.fresh hnone f hf
    · replace hu : u ∈ (authStep crypto expiration w c).2.user := hu
      rw [huser] at hu
      cases hu

/-- **A step** lets the accounts grow by that of the key at most, and its call can rely on what it has read. -/
theorem visitStep_sound (h : Sound k w c) : GrowsBy k w (visitStep crypto expiration w c).1 ∧
    Sound k (visitStep crypto expiration w c).1 (visitStep crypto expiration w c).2 := by
  have hother : ∀ c : AuthCall, (∀ dto ctx freshId consumed, c ≠ .challengeConsumed dto ctx freshId consumed) →
      Sound k w (.auth c) → GrowsBy k w (authStep crypto expiration w c).1 ∧
        Sound k (authStep crypto expiration w c).1 (.auth (authStep crypto expiration w c).2) := fun c hc h =>
    have hgrows : GrowsBy k w (authStep crypto expiration w c).1 := Or.inl (authStep_sameAccounts w c hc)
    ⟨hgrows, (visitStep_auth_sound hc h).of_growsBy hgrows⟩
  cases c with
  | getOrCreateAccount publicKey freshId =>
    obtain rfl : publicKey = some k := h.key
    rw [visitStep, Pool.awaitCatch_ok (readAccount_run k w)]
    refine ⟨Or.inl rfl, ?_⟩
    cases hu : userByPublicKey w.db k with
    | some u => exact sound_returned hu
    | none => exact ⟨rfl, h.fresh, fun _ hu => (Option.not_mem_none _ hu).elim⟩
  | missing publicKey freshId =>
    obtain rfl : publicKey = k := h.key
    have hrun := insertAccount_run publicKey freshId w
    rcases create_newAccount_cases publicKey freshId w.now w.db with ⟨e, hcreate, -⟩ | ⟨u, db, hcreate, hnone, hthere⟩
    · rw [prisma_run_error hcreate] at hrun
      rw [visitStep, Pool.awaitCatch_error hrun]
      exact ⟨Or.inl rfl, sound_failed _ _ e⟩
    · rw [prisma_run_ok hcreate] at hrun
      rw [visitStep, Pool.awaitCatch_ok hrun]
      refine ⟨Or.inr ⟨hnone, ?_⟩, sound_returned hthere⟩
      rw [hthere]
      exact Option.some_ne_none u
  | auth c =>
    cases c with
    | challengeConsumed dto ctx freshId consumed =>
      obtain rfl : dto.publicKey = k := h.key _ rfl
      rcases enterAccount_cases dto ctx freshId consumed w.now w with ⟨e, w', hrun, hsame, -⟩ | ⟨u, w', hrun, hgrows, hthere⟩
      · rw [visitStep, Pool.awaitCatch_error hrun]
        exact ⟨Or.inl hsame, sound_failed _ _ e⟩
      · rw [visitStep, Pool.awaitCatch_ok hrun]
        refine ⟨hgrows, ⟨fun j hj => (Option.some.inj hj).symm, fun _ _ hf => (Option.not_mem_none _ hf).elim, ?_⟩⟩
        exact fun v hv => Option.some.inj hv ▸ hthere
    | accountEntered dto ctx user =>
      obtain ⟨token, w', hrun, hsame⟩ := answerLogin_run dto ctx user w
      rw [visitStep, Pool.awaitCatch_ok hrun]
      refine ⟨Or.inl hsame, sound_returned ?_⟩
      rw [hsame.userByPublicKey]
      exact h.found user rfl
    | _ => exact hother _ (fun _ _ _ _ hc => by cases hc) h
  | returned u => exact ⟨Or.inl rfl, h⟩
  | failed e => exact ⟨Or.inl rfl, h⟩

/-- The call does not insert an account that is there. -/
def MayInsert (w : World χ) : VisitCall → Prop
  | .missing publicKey _ => userByPublicKey w.db publicKey = none
  | _ => True

instance (w : World χ) : ∀ c, Decidable (MayInsert w c)
  | .missing publicKey _ => inferInstanceAs (Decidable (userByPublicKey w.db publicKey = none))
  | .getOrCreateAccount _ _ => isTrue trivial
  | .auth _ => isTrue trivial
  | .returned _ => isTrue trivial
  | .failed _ => isTrue trivial

/-- **A call that has only the account ahead** comes nearer to its answer, or answers. -/
theorem visitStep_entering (h : Sound k w c) (hc : c.Entering) (hinsert : MayInsert w c) :
    (visitStep crypto expiration w c).2.Entering ∨ ∃ u, (visitStep crypto expiration w c).2 = .returned u := by
  cases c with
  | getOrCreateAccount publicKey freshId =>
    obtain rfl : publicKey = some k := h.key
    rw [visitStep, Pool.awaitCatch_ok (readAccount_run k w)]
    cases userByPublicKey w.db k with
    | some u => exact Or.inr ⟨u, rfl⟩
    | none => exact Or.inl trivial
  | missing publicKey freshId =>
    obtain rfl : publicKey = k := h.key
    have hrun := insertAccount_run publicKey freshId w
    rcases create_newAccount_cases publicKey freshId w.now w.db with ⟨e, -, hfree⟩ | ⟨u, db, hcreate, -, -⟩
    · exact absurd ⟨hinsert, h.fresh hinsert freshId rfl⟩ hfree
    · rw [prisma_run_ok hcreate] at hrun
      rw [visitStep, Pool.awaitCatch_ok hrun]
      exact Or.inr ⟨u, rfl⟩
  | auth c =>
    cases c with
    | challengeConsumed dto ctx freshId consumed =>
      obtain rfl : dto.publicKey = k := h.key _ rfl
      rcases enterAccount_cases dto ctx freshId consumed w.now w with ⟨e, w', -, -, hrefused⟩ | ⟨u, w', hrun, -, -⟩
      · rcases hrefused with hzero | ⟨hnone, hid⟩
        · exact absurd hzero hc
        · exact absurd hid (h.fresh hnone freshId rfl)
      · rw [visitStep, Pool.awaitCatch_ok hrun]
        exact Or.inl trivial
    | accountEntered dto ctx user =>
      obtain ⟨token, w', hrun, -⟩ := answerLogin_run dto ctx user w
      rw [visitStep, Pool.awaitCatch_ok hrun]
      exact Or.inr ⟨user, rfl⟩
    | _ => cases hc
  | returned u => cases hc
  | failed e => cases hc

/-- An insert after the account is there is refused. -/
theorem visitStep_refused (h : ¬ MayInsert w c) : ∃ e, (visitStep crypto expiration w c).2 = .failed e := by
  cases c with
  | missing publicKey freshId =>
    have hrun := insertAccount_run publicKey freshId w
    rcases create_newAccount_cases publicKey freshId w.now w.db with ⟨e, hcreate, -⟩ | ⟨_, _, -, hnone, -⟩
    · rw [prisma_run_error hcreate] at hrun
      rw [visitStep, Pool.awaitCatch_error hrun]
      exact ⟨e, rfl⟩
    · exact absurd hnone h
  | _ => exact absurd trivial h

theorem authStep_remaining (w : World χ) (c : AuthCall) :
    (authStep crypto expiration w c).2.remaining ≤ c.remaining - 1 := by
  have hawait : ∀ {α : Type} {m : Service χ α} {f : α → AuthCall} {n : ℕ}, (∀ a, (f a).remaining ≤ n) →
      (Pool.await .done m f w).2.remaining ≤ n := by
    intro α m f n hf
    rcases Pool.await_snd .done m f w with h | ⟨a, -, h⟩
    · rw [h]
      exact Nat.zero_le n
    · rw [h]
      exact hf a
  cases c with
  | tick ms => exact Nat.le_refl 0
  | done => exact Nat.le_refl 0
  | _ => exact hawait fun _ => Nat.le_refl _

theorem visitStep_remaining (w : World χ) (c : VisitCall) :
    (visitStep crypto expiration w c).2.remaining ≤ c.remaining - 1 := by
  have hawait : ∀ {α : Type} {m : Service χ α} {f : α → VisitCall} {n : ℕ}, (∀ a, (f a).remaining ≤ n) →
      (Pool.awaitCatch .failed m f w).2.remaining ≤ n := by
    intro α m f n hf
    rcases hm : m.run w with ⟨r, w'⟩
    cases r with
    | ok a =>
      rw [Pool.awaitCatch_ok hm]
      exact hf a
    | error e =>
      rw [Pool.awaitCatch_error hm]
      exact Nat.zero_le n
  cases c with
  | getOrCreateAccount publicKey freshId =>
    refine hawait fun r => ?_
    obtain ⟨publicKey, existing⟩ := r
    cases existing with
    | none => exact Nat.le_refl 1
    | some found => exact Nat.zero_le 1
  | missing publicKey freshId => exact hawait fun _ => Nat.le_refl 0
  | auth c =>
    have hother : (authStep crypto expiration w c).2.remaining ≤ c.remaining - 1 := authStep_remaining w c
    cases c with
    | challengeConsumed dto ctx freshId consumed => exact hawait fun _ => Nat.le_refl 1
    | accountEntered dto ctx user => exact hawait fun _ => Nat.le_refl 0
    | _ => exact hother
  | returned u => exact Nat.le_refl 0
  | failed e => exact Nat.le_refl 0

theorem VisitCall.Entering.remaining_pos (h : c.Entering) : 0 < c.remaining := by
  cases c with
  | getOrCreateAccount publicKey freshId => exact Nat.two_pos
  | missing publicKey freshId => exact Nat.one_pos
  | auth c =>
    cases c with
    | challengeConsumed dto ctx freshId consumed => exact Nat.two_pos
    | accountEntered dto ctx user => exact Nat.one_pos
    | _ => cases h
  | returned u => cases h
  | failed e => cases h

end Sound

/-! ## All calls -/

/-- Calls for the public key that have not answered yet; the ids for new accounts are free. -/
structure Visiting (k : String) (p : Pool (World χ) VisitCall) : Prop where
  key : ∀ i, (p.calls i).OfKey k
  fresh : ∀ i, ∀ f ∈ (p.calls i).freshId, ¬ p.shared.db.users.Has f
  unanswered : ∀ i, (p.calls i).user = none

/-- The step does not insert an account that is there. -/
def NoLateInsert (p : Pool (World χ) VisitCall) (i : ℕ) : Prop := MayInsert p.shared (p.calls i)

instance (p : Pool (World χ) VisitCall) (i : ℕ) : Decidable (NoLateInsert p i) :=
  inferInstanceAs (Decidable (MayInsert _ _))

/-- Every call succeeds, with one account, and that is the only one of the key. -/
structure RaceFree (crypto : Crypto) (expiration : Option ℚ) (k : String) (p : Pool (World χ) VisitCall) (is : List ℕ) :
    Prop where
  /-- a call with only the account ahead answers within the steps that it has left -/
  succeed : ∀ pre post i, is = pre ++ post → (((visits crypto expiration).run p pre).calls i).Entering →
    (((visits crypto expiration).run p pre).calls i).remaining ≤ post.count i →
    ∃ u, ((visits crypto expiration).run p is).calls i = .returned u
  same : ∀ i j u v, ((visits crypto expiration).run p is).calls i = .returned u →
    ((visits crypto expiration).run p is).calls j = .returned v → u = v
  one : ∀ i u, ((visits crypto expiration).run p is).calls i = .returned u →
    ((visits crypto expiration).run p is).shared.db.users.rows.filter (fun x => x.publicKey = k) = [u]

section Calls

variable {k : String} {p : Pool (World χ) VisitCall} {is : List ℕ} {i : ℕ}

theorem Visiting.asserted (h : Visiting k p) : Pool.Asserted (Sound k) p := fun i =>
  ⟨h.key i, fun _ => h.fresh i, fun u hu => by rw [h.unanswered i] at hu; cases hu⟩

theorem asserted_visits (h : Pool.Asserted (Sound k) p) (j : ℕ) :
    Pool.Asserted (Sound k) ((visits crypto expiration).next p j) :=
  Pool.asserted_next h (fun hj => (visitStep_sound hj).2) fun _ _ hi => hi.of_growsBy (visitStep_sound (h j)).1

theorem asserted_run (h : Pool.Asserted (Sound k) p) (is : List ℕ) :
    Pool.Asserted (Sound k) ((visits crypto expiration).run p is) :=
  Machine.run_inv (I := Pool.Asserted (Sound k)) (fun _ j hp _ => asserted_visits hp j) h
    (Machine.along_of_forall fun _ _ _ => trivial)

/-- While no insert comes late, a call with only the account ahead stays so until it answers. -/
theorem entering_run (h : Pool.Asserted (Sound k) p) (hall : (visits crypto expiration).Along NoLateInsert p is)
    (hi : (p.calls i).Entering) : (((visits crypto expiration).run p is).calls i).Entering ∨
      ∃ u, ((visits crypto expiration).run p is).calls i = .returned u := by
  have hstep : ∀ (q : Pool (World χ) VisitCall) (j : ℕ), (Pool.Asserted (Sound k) q ∧
      ((q.calls i).Entering ∨ ∃ u, q.calls i = .returned u)) → NoLateInsert q j →
      Pool.Asserted (Sound k) ((visits crypto expiration).next q j) ∧
        ((((visits crypto expiration).next q j).calls i).Entering ∨
          ∃ u, ((visits crypto expiration).next q j).calls i = .returned u) := by
    rintro q j ⟨hq, hcall⟩ hinsert
    refine ⟨asserted_visits hq j, ?_⟩
    rw [Pool.next_calls]
    by_cases hij : i = j
    · subst hij
      rw [Function.update_self]
      rcases hcall with hentering | ⟨u, hu⟩
      · exact visitStep_entering (hq i) hentering hinsert
      · rw [hu]
        exact Or.inr ⟨u, rfl⟩
    · rw [Function.update_of_ne hij]
      exact hcall
  exact (Machine.run_inv hstep ⟨h, Or.inl hi⟩ hall).2

/-- A call that has failed stays so. -/
theorem failed_run {e : Thrown} (h : p.calls i = .failed e) (is : List ℕ) :
    ((visits crypto expiration).run p is).calls i = .failed e := by
  have hstep : ∀ (q : Pool (World χ) VisitCall) (j : ℕ), q.calls i = .failed e → True →
      ((visits crypto expiration).next q j).calls i = .failed e := by
    intro q j hq _
    rw [Pool.next_calls]
    by_cases hij : i = j
    · subst hij
      rw [Function.update_self, hq]
      rfl
    · rwa [Function.update_of_ne hij]
  exact Machine.run_inv hstep h (Machine.along_of_forall fun _ _ _ => trivial)

/-- The account that a call has answered is the only one of its key. -/
theorem filter_of_found {db : Db} {u : AppUser} (h : userByPublicKey db k = some u) :
    db.users.rows.filter (fun x => x.publicKey = k) = [u] := by
  rw [← Table.filter_unique List.mem_cons_self h]
  exact List.filter_congr fun x _ => decide_eq_decide.mpr Option.some_inj.symm

/-- **First visits are free of races** exactly when no call inserts the account after it is there. -/
theorem raceFree_iff (hp : Visiting k p) (is : List ℕ) :
    RaceFree crypto expiration k p is ↔ (visits crypto expiration).Along NoLateInsert p is := by
  constructor
  · intro hfree
    rw [Machine.along_iff]
    intro pre i post his
    by_contra hlate
    have hcalls : (((visits crypto expiration).run p pre).calls i).Entering ∧
        (((visits crypto expiration).run p pre).calls i).remaining ≤ 1 := by
      unfold NoLateInsert at hlate
      cases hcall : ((visits crypto expiration).run p pre).calls i with
      | missing publicKey freshId => exact ⟨trivial, Nat.le_refl 1⟩
      | _ =>
        rw [hcall] at hlate
        exact absurd trivial hlate
    have hcount : 1 ≤ (i :: post).count i := List.one_le_count_iff.mpr List.mem_cons_self
    obtain ⟨u, hu⟩ := hfree.succeed pre (i :: post) i his hcalls.1 (hcalls.2.trans hcount)
    -- the late insert fails, and nothing changes that
    obtain ⟨e, he⟩ : ∃ e, (visitStep crypto expiration _ _).2 = .failed e := visitStep_refused hlate
    have hfailed : ((visits crypto expiration).next ((visits crypto expiration).run p pre) i).calls i = .failed e := by
      rw [Pool.next_calls, Function.update_self]
      exact he
    rw [his, Machine.run_append, Machine.run_cons, failed_run hfailed post] at hu
    cases hu
  · intro hall
    have hend : Pool.Asserted (Sound k) ((visits crypto expiration).run p is) := asserted_run hp.asserted is
    refine ⟨fun pre post i his hentering hcount => ?_, fun i j u v hu hv => ?_, fun i u hu => ?_⟩
    · rw [his, Machine.along_append] at hall
      have hdecreases : ∀ (w : World χ) c, (visitStep crypto expiration w c).2.remaining ≤ c.remaining - 1 :=
        visitStep_remaining
      have hleft := Pool.count_of_decreases hdecreases i post ((visits crypto expiration).run p pre)
      rw [his, Machine.run_append]
      rcases entering_run (asserted_run hp.asserted pre) hall.2 hentering with hstill | hreturned
      · rw [Nat.sub_eq_zero_of_le hcount] at hleft
        exact absurd hleft (Nat.not_le_of_gt hstill.remaining_pos)
      · exact hreturned
    · have hfound := (hend i).found u (by rw [hu]; rfl)
      have hfound' := (hend j).found v (by rw [hv]; rfl)
      exact Option.some.inj (hfound.symm.trans hfound')
    · exact filter_of_found ((hend i).found u (by rw [hu]; rfl))

end Calls

/-! ## Two visits and a login -/

namespace Wallets

/-- Two first visits of the buyer, and a login that has consumed its challenge. -/
def firstVisits : Pool (World Unit) VisitCall where
  shared := world
  calls
    | 0 => .getOrCreateAccount (some buyerKey) buyerId
    | 1 => .getOrCreateAccount (some buyerKey) sellerId
    | 2 => .auth (.challengeConsumed ⟨buyerKey, challenge, signature⟩ {} buyerId 1)
    | _ => .auth .done

theorem firstVisits_visiting : Visiting buyerKey firstVisits where
  key i := by
    match i with
    | 0 => rfl
    | 1 => rfl
    | 2 => exact fun j hj => (Option.some.inj hj).symm
    | _ + 3 => exact fun _ hj => (Option.not_mem_none _ hj).elim
  fresh i f _ := by
    rintro ⟨r, hr, -⟩
    cases hr
  unanswered i := by
    match i with
    | 0 => rfl
    | 1 => rfl
    | 2 => rfl
    | _ + 3 => rfl

end Wallets

/-- The second visit reads after the first one has inserted. -/
theorem first_visits_in_turn : RaceFree Wallets.crypto none Wallets.buyerKey Wallets.firstVisits [0, 0, 1, 2, 2] :=
  (raceFree_iff Wallets.firstVisits_visiting [0, 0, 1, 2, 2]).mpr (by decide)

/-- Both visits read before the first one inserts, and the second one is refused. -/
theorem first_visits_at_once : ¬ RaceFree Wallets.crypto none Wallets.buyerKey Wallets.firstVisits [0, 1, 0, 1] := by
  intro hfree
  have hcall : ((visits Wallets.crypto none).run Wallets.firstVisits [0, 1, 0, 1]).calls 1 =
      .failed (.prisma .uniqueConstraint) := by rfl
  obtain ⟨u, hu⟩ := hfree.succeed [] [0, 1, 0, 1] 1 rfl (Option.some_ne_none _) (Nat.le_refl 2)
  rw [hcall] at hu
  cases hu

end IKash
