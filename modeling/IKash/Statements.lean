import IKash.Challenges
import IKash.Chat
import IKash.Erasure
import IKash.Kyc
import IKash.Lib.Effects
import IKash.Ownership
import IKash.Polling
import IKash.Restart

/-!
# The statements of the services

Whatever a service does to the database, it does by `Statement`s, each committed on its own or with others in a
transaction. A `Mandate` says what a request is entitled to: the rows it may insert, and whose data it may blank. Every
service obeys the mandate that its caller has.

- `Statement.Applies.columns`: the accounts, offers, orders, messages and audit rows after a statement;
- `Obeys g m`: the service `m` performs only statements that `g` permits; one lemma for each service.
-/

namespace IKash

open Lib EscrowService

variable {χ : Type}

/-! ## Statements -/

inductive Statement where
  | createUser (row : AppUser)
  | updateUser (k : String) (data : AppUser → AppUser)
  | createOffer (row : Offer)
  | updateOffer (k : String) (data : Offer → Offer)
  | deleteOffer (k : String)
  | createOrder (row : Order)
  | updateOrder (k : String) (data : Order → Order)
  | deleteOrder (k : String)
  | createMessage (row : ChatMessage)
  | blankMessages (userId : String)
  | deleteMessage (k : String)
  | log (entry : AuditLog)
  | blankAddresses (userId : String)
  /-- any write to the table -/
  | escrows | paymentMethods | challenges | waitlist

/-- The row of a new message. -/
def messageRow (dto : CreateChatMessageDto) (messageId : String) : ChatMessage :=
  { messageId := messageId, orderId := uuid dto.orderId, senderId := uuid dto.senderId, content := dto.content }

/-- The message without its text. -/
def blanked (m : ChatMessage) : ChatMessage := { m with content := "[deleted]" }

namespace Statement

/-- The statement was not refused, and leads from one database to the other. -/
def Applies : Statement → Db → Db → Prop
  | createUser row, db, db' => ∃ u, Prisma.appUser.create row db = .ok (u, db')
  | updateUser k data, db, db' => ∃ u, Prisma.appUser.update k data db = .ok (u, db')
  | createOffer row, db, db' => ∃ o, Prisma.offer.create row db = .ok (o, db')
  | updateOffer k data, db, db' => ∃ o, Prisma.offer.update k data db = .ok (o, db')
  | deleteOffer k, db, db' => ∃ o, Prisma.offer.delete k db = .ok (o, db')
  | createOrder row, db, db' => ∃ o, Prisma.order.create row db = .ok (o, db')
  | updateOrder k data, db, db' => ∃ o, Prisma.order.update k data db = .ok (o, db')
  | deleteOrder k, db, db' => ∃ o, Prisma.order.delete k db = .ok (o, db')
  | createMessage row, db, db' => ∃ m, Prisma.chatMessage.create row db = .ok (m, db')
  | blankMessages userId, db, db' => ∃ n, Prisma.chatMessage.updateMany (fun m => m.senderId = userId) blanked
      (fun _ => ⟨rfl, fun _ h => (List.not_mem_nil h).elim⟩) db = .ok (n, db')
  | deleteMessage k, db, db' => ∃ m, Prisma.chatMessage.delete k db = .ok (m, db')
  | log entry, db, db' => ∃ u, Prisma.auditLog.create entry db = .ok (u, db')
  | blankAddresses userId, db, db' =>
    ∃ u, Prisma.auditLog.updateMany (fun a => a.userId = some userId) withoutAddress db = .ok (u, db')
  | escrows, db, db' => Prisma.escrowOnChain.Writes db db'
  | paymentMethods, db, db' => Prisma.paymentMethod.Writes db db'
  | challenges, db, db' => Prisma.authChallenge.Writes db db'
  | waitlist, db, db' => Prisma.waitlist.Writes db db'

/-! The rows of five tables after the statement. -/

def users : Statement → List AppUser → List AppUser
  | createUser row, rows => rows ++ [row]
  | updateUser k data, rows => rows.map (Table.atKey k data)
  | _, rows => rows

def offers : Statement → List Offer → List Offer
  | createOffer row, rows => rows ++ [row]
  | updateOffer k data, rows => rows.map (Table.atKey k data)
  | deleteOffer k, rows => rows.filter fun o => o.offerId ≠ k
  | _, rows => rows

def orders : Statement → List Order → List Order
  | createOrder row, rows => rows ++ [row]
  | updateOrder k data, rows => rows.map (Table.atKey k data)
  | deleteOrder k, rows => rows.filter fun o => o.orderId ≠ k
  | _, rows => rows

def messages : Statement → List ChatMessage → List ChatMessage
  | createMessage row, rows => rows ++ [row]
  | blankMessages userId, rows => rows.map fun m => if m.senderId = userId then blanked m else m
  | deleteMessage k, rows => rows.filter fun m => m.messageId ≠ k
  | deleteOrder k, rows => rows.filter fun m => m.orderId ≠ k
  | _, rows => rows

def logs : Statement → List AuditLog → List AuditLog
  | log entry, rows => rows ++ [entry]
  | blankAddresses userId, rows => rows.map fun a => if a.userId = some userId then withoutAddress a else a
  | _, rows => rows

end Statement

section Columns

variable {ρ : Type} [Keyed ρ String] {d : Delegate ρ} {row r : ρ} {k : String} {data : ρ → ρ} {db db' : Db}

theorem Delegate.rows_create (h : d.create row db = .ok (r, db')) :
    (d.get db'.toTables).rows = (d.get db.toTables).rows ++ [row] := by
  obtain ⟨t, ht, -, hdb⟩ := Delegate.create_eq_ok.mp h
  rw [hdb, d.get_put]
  exact Table.rows_insert ht

theorem Delegate.rows_update (h : d.update k data db = .ok (r, db')) :
    (d.get db'.toTables).rows = (d.get db.toTables).rows.map (Table.atKey k data) := by
  obtain ⟨_, -, -, -, hrows⟩ := Delegate.of_update h
  exact hrows

theorem Delegate.rows_delete (h : d.delete k db = .ok (r, db')) :
    (d.get db'.toTables).rows = (d.get db.toTables).rows.filter fun x => Keyed.key x ≠ k := by
  obtain ⟨-, hdb⟩ := Delegate.delete_eq_ok.mp h
  rw [hdb, d.get_put]
  rfl

/-- The five tables have these rows. -/
structure Columns (db : Db) (users : List AppUser) (offers : List Offer) (orders : List Order)
    (messages : List ChatMessage) (logs : List AuditLog) : Prop where
  users : db.users.rows = users
  offers : db.offers.rows = offers
  orders : db.orders.rows = orders
  messages : db.chatMessages.rows = messages
  logs : db.auditLogs = logs

theorem columns_of_tables {t : Tables} (h : db.toTables = t) :
    Columns db t.users.rows t.offers.rows t.orders.rows t.chatMessages.rows t.auditLogs := by
  subst h
  exact ⟨rfl, rfl, rfl, rfl, rfl⟩

/-- **After a statement.** -/
theorem Statement.Applies.columns {x : Statement} (h : x.Applies db db') : Columns db' (x.users db.users.rows)
    (x.offers db.offers.rows) (x.orders db.orders.rows) (x.messages db.chatMessages.rows) (x.logs db.auditLogs) := by
  cases x with
  | createUser row =>
    obtain ⟨u, hu⟩ := h
    obtain ⟨t, ht⟩ := Delegate.writes_create hu
    exact { columns_of_tables ht with users := Delegate.rows_create hu }
  | updateUser k data =>
    obtain ⟨u, hu⟩ := h
    obtain ⟨t, ht⟩ := Delegate.writes_update hu
    exact { columns_of_tables ht with users := Delegate.rows_update hu }
  | createOffer row =>
    obtain ⟨o, ho⟩ := h
    obtain ⟨t, ht⟩ := Delegate.writes_create ho
    exact { columns_of_tables ht with offers := Delegate.rows_create ho }
  | updateOffer k data =>
    obtain ⟨o, ho⟩ := h
    obtain ⟨t, ht⟩ := Delegate.writes_update ho
    exact { columns_of_tables ht with offers := Delegate.rows_update ho }
  | deleteOffer k =>
    obtain ⟨o, ho⟩ := h
    obtain ⟨t, ht⟩ := Delegate.writes_delete ho
    exact { columns_of_tables ht with offers := Delegate.rows_delete ho }
  | createOrder row =>
    obtain ⟨o, ho⟩ := h
    obtain ⟨t, ht⟩ := Delegate.writes_create ho
    exact { columns_of_tables ht with orders := Delegate.rows_create ho }
  | updateOrder k data =>
    obtain ⟨o, ho⟩ := h
    obtain ⟨t, ht⟩ := Delegate.writes_update ho
    exact { columns_of_tables ht with orders := Delegate.rows_update ho }
  | deleteOrder k =>
    obtain ⟨o, ho⟩ := h
    exact columns_of_tables (Prisma.order_delete_eq_ok.mp ho).2
  | createMessage row =>
    obtain ⟨m, hm⟩ := h
    obtain ⟨t, ht⟩ := Delegate.writes_create hm
    exact { columns_of_tables ht with messages := Delegate.rows_create hm }
  | blankMessages userId =>
    obtain ⟨n, hn⟩ := h
    have hcolumns := columns_of_tables (Db.commit_eq_ok.mp hn).2
    refine { hcolumns with messages := hcolumns.messages.trans (List.map_congr_left fun m _ => ?_) }
    simp only [decide_eq_true_eq]
  | deleteMessage k =>
    obtain ⟨m, hm⟩ := h
    obtain ⟨t, ht⟩ := Delegate.writes_delete hm
    exact { columns_of_tables ht with messages := Delegate.rows_delete hm }
  | log entry =>
    obtain ⟨u, hu⟩ := h
    exact columns_of_tables (Db.commit_eq_ok.mp hu).2
  | blankAddresses userId =>
    obtain ⟨u, hu⟩ := h
    have hcolumns := columns_of_tables (Db.commit_eq_ok.mp hu).2
    refine { hcolumns with logs := hcolumns.logs.trans (List.map_congr_left fun a _ => ?_) }
    simp only [decide_eq_true_eq]
  | escrows | paymentMethods | challenges | waitlist =>
    obtain ⟨t, ht⟩ := h
    have hcolumns := columns_of_tables ht
    exact hcolumns

end Columns

/-! ## Mandates -/

/-- The same account: its id, wallet, role and creation time do not change, and a deleted account stays deleted. -/
structure SameAccount (u u' : AppUser) : Prop where
  userId : u'.userId = u.userId
  publicKey : u'.publicKey = u.publicKey
  role : u'.role = u.role
  createdAt : u'.createdAt = u.createdAt
  deleted : u.deletedAt ≠ none → u'.deletedAt ≠ none

/-- The same offer; one that was executed stays so. -/
structure SameOffer (o o' : Offer) : Prop where
  offerId : o'.offerId = o.offerId
  executed : o.executed = true → o'.executed = true

/-- The offers, orders and messages that may be created, and the accounts whose data may be blanked. -/
structure Mandate where
  offer : Offer → Prop := fun _ => False
  order : Order → Prop := fun _ => False
  message : ChatMessage → Prop := fun _ => False
  erases : String → Prop := fun _ => False

/-- Everybody may do the rest: but a new account has the role `user`, and an update leaves an account what it is. -/
def Statement.Permitted (g : Mandate) : Statement → Prop
  | createUser row => row.role = .user
  | updateUser _ data => ∀ u, SameAccount u (data u)
  | createOffer row => g.offer row
  | updateOffer _ data => ∀ o, SameOffer o (data o)
  | createOrder row => g.order row
  | updateOrder _ data => ∀ o, (data o).orderId = o.orderId
  | createMessage row => g.message row
  | blankMessages userId => g.erases userId
  | blankAddresses userId => g.erases userId
  | _ => True

/-- Every run of the service performs only statements that the mandate permits. -/
abbrev Obeys {α : Type} (g : Mandate) (m : Service χ α) : Prop :=
  Performs World.db Statement.Applies (Statement.Permitted g) m

theorem SameAccount.refl (u : AppUser) : SameAccount u u := ⟨rfl, rfl, rfl, rfl, id⟩

theorem SameAccount.trans {u u' u'' : AppUser} (h : SameAccount u u') (h' : SameAccount u' u'') : SameAccount u u'' where
  userId := h'.userId.trans h.userId
  publicKey := h'.publicKey.trans h.publicKey
  role := h'.role.trans h.role
  createdAt := h'.createdAt.trans h.createdAt
  deleted := h'.deleted ∘ h.deleted

theorem SameOffer.refl (o : Offer) : SameOffer o o := ⟨rfl, id⟩

theorem SameOffer.trans {o o' o'' : Offer} (h : SameOffer o o') (h' : SameOffer o' o'') : SameOffer o o'' :=
  ⟨h'.offerId.trans h.offerId, h'.executed ∘ h.executed⟩

theorem Statement.Permitted.mono {g g' : Mandate} (hoffer : ∀ o, g.offer o → g'.offer o)
    (horder : ∀ o, g.order o → g'.order o) (hmessage : ∀ m, g.message m → g'.message m)
    (herases : ∀ k, g.erases k → g'.erases k) {x : Statement}
    (h : x.Permitted g) : x.Permitted g' := by
  cases x with
  | createOffer row => exact hoffer row h
  | createOrder row => exact horder row h
  | createMessage row => exact hmessage row h
  | blankMessages userId => exact herases userId h
  | blankAddresses userId => exact herases userId h
  | _ => exact h

namespace Obeys

variable {α : Type} {g : Mandate}

/-- A transaction. -/
theorem prisma {tx : Tx α}
    (h : ∀ db a db', tx db = .ok (a, db') → Effects Statement.Applies (Statement.Permitted g) db db') :
    Obeys g (IKash.prisma tx : Service χ α) :=
  Performs.atomically (fun _ _ => rfl) h

/-- A transaction of one statement. -/
theorem statement {tx : Tx α} (x : Statement) (hx : x.Permitted g)
    (h : ∀ db a db', tx db = .ok (a, db') → x.Applies db db') : Obeys g (IKash.prisma tx : Service χ α) :=
  prisma fun db a db' htx => Effects.of_applies hx (h db a db' htx)

theorem read (f : Db → α) : Obeys g (IKash.prisma (fun db => .ok (f db, db)) : Service χ α) :=
  Performs.of_view fun _ => rfl

theorem lookup (accepted : Bool) (found : Db → Option α) :
    Obeys g (IKash.prisma (IKash.lookup accepted found) : Service χ (Option α)) :=
  Performs.of_view fun w => by rw [prisma_lookup_state]

theorem external (call : χ → Except Thrown α × χ) : Obeys g (IKash.external call) := Performs.of_view fun _ => rfl

theorem faulty {m : Service χ α} (fault : Option Thrown) (h : Obeys g m) : Obeys g (IKash.faulty fault m) := by
  cases fault with
  | some t => exact Performs.throw t
  | none => exact h

theorem audit (entry : AuditLog) : Obeys g (AuditLogService.create entry : Service χ Unit) := by
  intro w
  unfold AuditLogService.create
  rw [Svc.run_modify]
  cases h : Prisma.auditLog.create entry w.db with
  | ok r => exact Effects.of_applies (x := .log entry) trivial ⟨r.1, h⟩
  | error e => exact Effects.refl _

theorem auditOrThrow (entry : AuditLog) : Obeys g (AuditLogService.createOrThrow entry : Service χ Unit) :=
  statement (.log entry) trivial fun _ u _ h => ⟨u, h⟩

theorem recordUnless (fault : Option Thrown) (entry : AuditLog) :
    Obeys g (IKash.recordUnless fault entry : Service χ Unit) := by
  cases fault with
  | some t => exact Performs.pure ()
  | none => exact audit entry

theorem jwtAuth (mock : Bool) (bearer : Option Token) (paramId : Option String) :
    Obeys g (IKash.jwtAuth mock bearer paramId : Service χ AuthUser) := Performs.of_state (jwtAuth_state mock bearer paramId)

theorem parsed {β : Type} (body : Option β) : Obeys g (IKash.parsed body : Service χ β) := Performs.orThrow body _

theorem kycVerified (user : AuthUser) : Obeys g (IKash.kycVerified user : Service χ Unit) :=
  Performs.of_state (kycVerified_state user)

theorem resourceOwner (type : ResourceType) (user : AuthUser) (id : String) :
    Obeys g (IKash.resourceOwner type user id : Service χ Unit) := Performs.of_state (resourceOwner_state type user id)

end Obeys

/-! ## Accounts -/

section Accounts

variable {g : Mandate} {k : String} {row : AppUser}

theorem updateData_same {dto : UpdateUserDto} {now : ℤ} {f : AppUser → AppUser} (h : updateData dto now = .ok f)
    (u : AppUser) : SameAccount u (f u) := by
  unfold updateData at h
  obtain ⟨_, -, h₁⟩ := Except.of_bind_ok h
  obtain ⟨_, -, h₂⟩ := Except.of_bind_ok h₁
  obtain ⟨_, -, h₃⟩ := Except.of_bind_ok h₂
  obtain ⟨_, -, h₄⟩ := Except.of_bind_ok h₃
  cases h₄
  exact ⟨rfl, rfl, rfl, rfl, id⟩

theorem setupData_same {dto : SetupAccountDto} {f : AppUser → AppUser} (h : setupData dto = .ok f) (u : AppUser) :
    SameAccount u (f u) := by
  unfold setupData at h
  obtain ⟨_, -, h₁⟩ := Except.of_bind_ok h
  cases h₁
  exact ⟨rfl, rfl, rfl, rfl, id⟩

theorem createData_role {dto : CreateUserDto} {freshId : String} {now : ℤ} (h : createData dto freshId now = .ok row) :
    row.role = .user := by
  unfold createData at h
  obtain ⟨_, -, hrow⟩ := Except.of_bind_ok h
  cases hrow
  rfl

theorem anonymized_same (now : ℤ) (u : AppUser) : SameAccount u (anonymized now u) :=
  ⟨rfl, rfl, rfl, rfl, fun _ h => Option.some_ne_none _ h⟩

namespace Obeys

theorem createUser (h : row.role = .user) : Obeys g (IKash.prisma (Prisma.appUser.create row) : Service χ AppUser) :=
  statement (.createUser row) h fun _ u _ htx => ⟨u, htx⟩

theorem updateUser {data : AppUser → AppUser} (h : ∀ u, SameAccount u (data u)) :
    Obeys g (IKash.prisma (Prisma.appUser.update k data) : Service χ AppUser) :=
  statement (.updateUser k data) h fun _ u _ htx => ⟨u, htx⟩

/-- An update whose data keeps the account what it is. -/
theorem updateAccount {id : String} {data : Except Thrown (AppUser → AppUser)}
    (h : ∀ f, data = .ok f → ∀ u, SameAccount u (f u)) : Obeys g (UsersRepository.update id data : Service χ AppUser) :=
  Performs.bind_ofExcept fun f hf => updateUser (h f hf)

theorem refuseIf (c : Prop) [Decidable c] (publicKey : String) (ctx : RequestContext) (reason : String) (e : Thrown) :
    Obeys g (AuthService.refuseIf c publicKey ctx reason e : Service χ Unit) := by
  unfold AuthService.refuseIf
  split
  · exact Performs.bind (audit _) fun _ => Performs.throw e
  · exact Performs.pure ()

/-- Any write to the challenges. -/
theorem challenges {α : Type} {tx : Tx α} (h : ∀ db a db', tx db = .ok (a, db') → Prisma.authChallenge.Writes db db') :
    Obeys g (IKash.prisma tx : Service χ α) := statement .challenges trivial h

theorem createChallenge (crypto : Crypto) (expiration : Option ℚ) (dto : CreateAuthChallengeDto) (random : String) :
    Obeys g (AuthService.createChallenge crypto expiration dto random : Service χ _) := by
  refine Performs.bind (Performs.throwIf _ _) fun _ => Performs.bind Performs.get fun w => ?_
  refine Performs.bind (challenges fun _ _ _ => Delegate.writes_deleteMany) fun _ => ?_
  exact Performs.bind (challenges fun _ _ _ => Delegate.writes_upsert) fun _ => Performs.pure _

theorem purgeExpiredChallenges (retentionHours : ℤ) :
    Obeys g (AuthService.purgeExpiredChallenges retentionHours : Service χ ℕ) := by
  refine Performs.bind Performs.get fun w => ?_
  exact Performs.bind (challenges fun _ _ _ => Delegate.writes_deleteMany) fun _ => Performs.pure _

/-- A login writes no account but a new one. -/
theorem login (crypto : Crypto) (dto : LoginDto) (ctx : RequestContext) (freshId : String) :
    Obeys g (AuthService.login crypto dto ctx freshId : Service χ _) := by
  refine Performs.bind (Performs.throwIf _ _) fun _ => Performs.bind Performs.get fun w => ?_
  refine Performs.bind (lookup _ _) fun stored => Performs.bind (refuseIf _ _ _ _ _) fun _ => ?_
  refine Performs.bind (Performs.ofExcept _) fun signature => Performs.bind (refuseIf _ _ _ _ _) fun _ => ?_
  refine Performs.bind (challenges fun _ _ _ => Delegate.writes_updateMany) fun consumed => ?_
  refine Performs.bind (refuseIf _ _ _ _ _) fun _ => Performs.bind (prisma fun db u db' h => ?_) fun user => ?_
  · unfold Prisma.appUser.upsert at h
    split at h
    · cases h
      exact Effects.refl _
    · have hrow : (Statement.createUser { userId := freshId, publicKey := dto.publicKey, createdAt := w.now }).Permitted g :=
        rfl
      exact Effects.of_applies hrow ⟨u, h⟩
  · exact Performs.bind (audit _) fun _ => Performs.bind (Performs.of_view fun _ => rfl) fun _ => Performs.pure _

theorem findByPublicKey (publicKey : String) : Obeys g (UsersRepository.findByPublicKey publicKey : Service χ _) :=
  Performs.of_view fun _ => rfl

theorem getOrCreateAccount (publicKey : Option String) (freshId : String) :
    Obeys g (UsersService.getOrCreateAccount publicKey freshId : Service χ _) := by
  refine Performs.bind (Performs.orThrow _ _) fun publicKey => Performs.bind (findByPublicKey _) fun existing => ?_
  refine Performs.elim (Performs.bind Performs.get fun w => Performs.bind ?_ fun _ => Performs.pure _) fun _ => Performs.pure _
  exact createUser rfl

theorem earlyRegister (email : Option Json) : Obeys g (UsersService.earlyRegister email : Service χ _) := by
  refine Performs.bind (Performs.throwIf _ _) fun _ => Performs.bind (Performs.throwIf _ _) fun _ => ?_
  refine Performs.bind (Performs.orThrow _ _) fun email => ?_
  exact statement .waitlist trivial fun _ _ _ => Delegate.writes_upsert

theorem createAccount (dto : CreateUserDto) (freshId : String) :
    Obeys g (UsersService.create dto freshId : Service χ AppUser) := by
  refine Performs.bind (findByPublicKey _) fun existing => Performs.bind (Performs.throwIf _ _) fun _ => ?_
  exact Performs.bind Performs.get fun w => Performs.bind_ofExcept fun row hrow => createUser (createData_role hrow)

theorem addPaymentMethod (validator : PaymentMethodValidatorService) (userId : String) (dto : SetupAccountDto)
    (freshId providerId accountIdentifier : String) : Obeys g
      (UsersService.addPaymentMethod validator userId dto freshId providerId accountIdentifier : Service χ Unit) := by
  refine Performs.bind (lookup _ _) fun provider => Performs.bind (Performs.orThrow _ _) fun provider => ?_
  refine Performs.bind (Performs.ofExcept _) fun _ => Performs.bind ?_ fun _ => Performs.pure _
  exact statement .paymentMethods trivial fun _ _ _ => Delegate.writes_create

theorem setupAccount (validator : PaymentMethodValidatorService) (userId : String) (dto : SetupAccountDto)
    (freshId : String) : Obeys g (UsersService.setupAccount validator userId dto freshId : Service χ _) := by
  refine Performs.bind (updateAccount fun f hf => setupData_same hf) fun updated => ?_
  refine Performs.bind (Performs.elim (Performs.pure _) fun f => addPaymentMethod _ _ _ _ _ _) fun _ => ?_
  exact Performs.bind (Performs.of_view fun _ => rfl) fun _ => Performs.pure _

theorem updateProfile (id : String) (dto : UpdateUserDto) (callerUserId : String) :
    Obeys g (UsersService.update id dto callerUserId : Service χ AppUser) := by
  refine Performs.bind (Performs.throwIf _ _) fun _ => Performs.bind ?_ fun _ => ?_
  · exact Performs.elim (Performs.pure _) fun aliasName => Performs.of_state (UsersService.checkAlias_state id aliasName)
  · exact Performs.bind Performs.get fun w => updateAccount fun f hf => updateData_same hf

theorem uploadProfilePicture (env : Env χ) (user : AuthUser) (id : String) (body : PictureBody) :
    Obeys g (UsersController.uploadProfilePicture env user id body) := by
  refine Performs.bind (Performs.throwIf _ _) fun _ => Performs.bind ?_ fun _ => ?_
  · unfold UsersController.ownPicture
    split
    · exact Performs.pure _
    · exact Performs.bind (Performs.throwIf _ _) fun _ => Performs.bind (findByPublicKey _) fun _ => Performs.throwIf _ _
  refine Performs.bind (Performs.ofExcept _) fun file => Performs.bind (Performs.ofExcept _) fun snapshot => ?_
  unfold UsersService.uploadProfilePicture
  split
  · exact Performs.bind (external _) fun _ => Performs.pure _
  · refine Performs.bind (lookup _ _) fun user => Performs.bind (Performs.orThrow _ _) fun _ => ?_
    refine Performs.bind (external _) fun uploaded => Performs.bind (updateAccount fun f hf u => ?_) fun _ => Performs.pure _
    cases hf
    exact ⟨rfl, rfl, rfl, rfl, fun h => h⟩

theorem exportUserData (id callerUserId : String) :
    Obeys g (UsersService.exportUserData id callerUserId : Service χ ExportData) := by
  refine Performs.bind (Performs.throwIf _ _) fun _ => Performs.bind (lookup _ _) fun found => ?_
  refine Performs.bind (Performs.orThrow _ _) fun data => Performs.bind (read _) fun waitlist => ?_
  exact Performs.bind (audit _) fun _ => Performs.pure _

/-- The transaction of a removal blanks the account's own data. -/
theorem removeTx_effects {id : String} {now : ℤ} {r : AppUser} {db db' : Db} (hg : g.erases (uuid id))
    (h : UsersService.removeTx id now db = .ok (r, db')) : Effects Statement.Applies (Statement.Permitted g) db db' := by
  unfold UsersService.removeTx at h
  obtain ⟨found, db₁, h₁, t₁⟩ := Tx.of_bind_ok h
  obtain ⟨user, db₂, h₂, t₂⟩ := Tx.of_bind_ok t₁
  obtain ⟨_, db₃, h₃, t₃⟩ := Tx.of_bind_ok t₂
  obtain ⟨n, db₄, h₄, t₄⟩ := Tx.of_bind_ok t₃
  obtain ⟨u, db₅, h₅, t₅⟩ := Tx.of_bind_ok t₄
  obtain ⟨_, db₆, h₆, h₇⟩ := Tx.of_bind_ok t₅
  obtain rfl : db₂ = db := (of_lookup_elim_ok h₁ h₂).2
  have hmethods : Effects Statement.Applies (Statement.Permitted g) db₂ db₃ :=
    Effects.of_applies (x := .paymentMethods) trivial (Delegate.writes_deleteMany h₃)
  have hmessages : Effects Statement.Applies (Statement.Permitted g) db₃ db₄ :=
    Effects.of_applies (x := .blankMessages (uuid id)) hg ⟨n, h₄⟩
  have haudit : Effects Statement.Applies (Statement.Permitted g) db₄ db₅ :=
    Effects.of_applies (x := .blankAddresses (uuid id)) hg ⟨u, h₅⟩
  have hwaitlist : Effects Statement.Applies (Statement.Permitted g) db₅ db₆ := by
    cases he : user.email.filter (· ≠ "") with
    | none => rw [he] at h₆; cases h₆; exact Effects.refl _
    | some email =>
      rw [he] at h₆
      exact Effects.of_applies (x := .waitlist) trivial (Delegate.writes_deleteMany h₆)
  have huser : Effects Statement.Applies (Statement.Permitted g) db₆ db' :=
    Effects.of_applies (x := .updateUser (uuid id) (anonymized now)) (anonymized_same now) ⟨r, h₇⟩
  exact hmethods.trans (hmessages.trans (haudit.trans (hwaitlist.trans huser)))

theorem removeAccount {id : String} (callerUserId : String) (hg : callerUserId = id → g.erases (uuid id)) :
    Obeys g (UsersService.remove id callerUserId : Service χ AppUser) := by
  unfold UsersService.remove
  by_cases hcaller : callerUserId = "" ∨ callerUserId ≠ id
  · refine Performs.of_state fun w => ?_
    rw [Svc.run_bind_error (Svc.run_throwIf_pos hcaller _ _)]
  · rw [not_or, not_not] at hcaller
    refine Performs.bind (Performs.throwIf _ _) fun _ => Performs.bind Performs.get fun w => ?_
    exact Performs.bind (prisma fun _ _ _ => removeTx_effects (hg hcaller.2)) fun _ =>
      Performs.bind (audit _) fun _ => Performs.pure _

theorem writeStatus (userId : String) (status : KycStatus) :
    Obeys g (KycService.writeStatus userId status : Service χ Unit) := by
  refine Performs.bind Performs.get fun w => Performs.bind (lookup _ _) fun existing => ?_
  refine Performs.bind (Performs.attempt ?_) fun outcome => ?_
  · refine Performs.bind (updateUser fun u => ?_) fun updated => auditOrThrow _
    exact ⟨rfl, rfl, rfl, rfl, id⟩
  · cases outcome with
    | ok _ => exact Performs.pure _
    | error _ => exact auditOrThrow _

theorem handleWebhook (env : Env χ) (headers : WebhookHeaders) (rawBody : Option Bytes) (payload : Json) :
    Obeys g (KycController.handleWebhook env headers rawBody payload) := by
  refine Performs.bind Performs.get fun w => Performs.bind (Performs.ofExcept _) fun _ => ?_
  unfold KycService.processWebhookEvent
  cases KycService.vendorData payload with
  | none => exact Performs.pure _
  | some j =>
    refine Performs.bind (Performs.ofExcept _) fun status => Performs.bind (Performs.orThrow _ _) fun userId => ?_
    exact writeStatus userId _

end Obeys

end Accounts

/-! ## Offers, orders, escrows and payment methods -/

section Market

variable {g : Mandate}

theorem offerData_same {codec : Codec} {dto : UpdateOfferDto} {f : Offer → Offer}
    (h : OfferService.updateData codec dto = .ok f) (o : Offer) : SameOffer o (f o) := by
  unfold OfferService.updateData at h
  obtain ⟨_, -, h₁⟩ := Except.of_bind_ok h
  obtain ⟨_, -, h₂⟩ := Except.of_bind_ok h₁
  obtain ⟨_, -, h₃⟩ := Except.of_bind_ok h₂
  obtain ⟨_, -, h₄⟩ := Except.of_bind_ok h₃
  obtain ⟨_, -, h₅⟩ := Except.of_bind_ok h₄
  obtain ⟨_, -, h₆⟩ := Except.of_bind_ok h₅
  obtain ⟨_, -, h₇⟩ := Except.of_bind_ok h₆
  split at h₇
  · cases h₇
    exact ⟨rfl, id⟩
  · cases h₇

namespace Obeys

theorem createOffer (codec : Codec) (dto : CreateOfferDto) (freshId : String)
    (hg : ∀ o, OfferService.createData codec freshId dto = .ok o → g.offer o) :
    Obeys g (OfferService.create codec dto freshId : Service χ Offer) := by
  refine Performs.bind_ofExcept fun row hrow => ?_
  refine Performs.bind (statement (.createOffer row) (hg row hrow) fun _ o _ h => ⟨o, h⟩) fun created => ?_
  exact Performs.bind (audit _) fun _ => Performs.pure _

theorem updateOffer (codec : Codec) (id : String) (dto : UpdateOfferDto) :
    Obeys g (OfferService.update codec id dto : Service χ Offer) := by
  refine Performs.bind_ofExcept fun data hdata => ?_
  refine Performs.bind (statement (.updateOffer (uuid id) data) (offerData_same hdata) fun _ o _ h => ⟨o, h⟩) ?_
  exact fun updated => Performs.bind (audit _) fun _ => Performs.pure _

theorem removeOffer (id : String) : Obeys g (OfferService.remove id : Service χ Offer) := by
  refine Performs.bind (statement (.deleteOffer (uuid id)) trivial fun _ o _ h => ⟨o, h⟩) fun removed => ?_
  exact Performs.bind (audit _) fun _ => Performs.pure _

/-- An order update that keeps the id. -/
theorem updateOrder {k : String} {data : Order → Order} (h : ∀ o, (data o).orderId = o.orderId) :
    Obeys g (IKash.prisma (Prisma.order.update k data) : Service χ Order) :=
  statement (.updateOrder k data) h fun _ o _ htx => ⟨o, htx⟩

/-- The transaction of a new order: the order, its escrow, and the offer that is executed. -/
theorem createTx_effects {codec : AmountCodec} {orderId freshId contractId : String} {dto : CreateOrderDto}
    (hg : ∀ o, OrderService.orderRow codec orderId dto = .ok o → g.order o) {db db' : Db} {o : Order}
    (h : OrderService.createTx codec orderId freshId contractId dto db = .ok (o, db')) :
    Effects Statement.Applies (Statement.Permitted g) db db' := by
  obtain ⟨row, db₁, h₁, hrest⟩ := Tx.of_bind_ok h
  obtain ⟨order, db₂, h₂, hrest₂⟩ := Tx.of_bind_ok hrest
  obtain ⟨_, db₃, h₃, hrest₃⟩ := Tx.of_bind_ok hrest₂
  obtain ⟨offer, db₄, h₄, hrest₄⟩ := Tx.of_bind_ok hrest₃
  cases hrest₄
  obtain ⟨hrow, rfl⟩ : OrderService.orderRow codec orderId dto = .ok row ∧ db₁ = db := by
    cases hrow : OrderService.orderRow codec orderId dto with
    | error t => rw [hrow] at h₁; cases h₁
    | ok r => rw [hrow] at h₁; cases h₁; exact ⟨rfl, rfl⟩
  have horder : Effects Statement.Applies (Statement.Permitted g) db₁ db₂ :=
    Effects.of_applies (x := .createOrder row) (hg row hrow) ⟨_, h₂⟩
  have hescrow : Effects Statement.Applies (Statement.Permitted g) db₂ db₃ :=
    Effects.of_applies (x := .escrows) trivial (Delegate.writes_create h₃)
  have hexecuted : (Statement.updateOffer (uuid dto.offerId) fun o => { o with executed := true }).Permitted g :=
    fun o => ⟨rfl, fun _ => rfl⟩
  exact horder.trans (hescrow.trans (Effects.of_applies hexecuted ⟨offer, h₄⟩))

theorem createOrder (tw : TrustlessWorkService χ) (config : EscrowConfig) (codec : AmountCodec) (dto : CreateOrderDto)
    (orderId freshId : String) (faults : DbFaults)
    (hg : ∀ o, OrderService.orderRow codec orderId dto = .ok o → g.order o) :
    Obeys g (OrderService.create tw config codec dto orderId freshId faults) := by
  refine Performs.bind (Performs.of_view (deployEscrowToChain_moves tw config orderId _)) fun d => ?_
  refine Performs.bind (faulty _ (prisma fun db o db' h => createTx_effects hg h)) fun order => ?_
  exact Performs.bind (recordUnless _ _) fun _ => Performs.pure _

theorem cancelOrder (id userId : String) : Obeys g (OrderService.cancel id userId : Service χ Order) :=
  Performs.bind (Performs.of_state (OrderService.cancelCheck_state id userId)) fun _ => updateOrder fun _ => rfl

theorem patchOrder (codec : Codec) (id : String) (dto : UpdateOrderDto) :
    Obeys g (OrderService.update codec id dto : Service χ Order) := by
  refine Performs.bind (prisma fun db r db' h => ?_) fun updated => ?_
  · unfold OrderService.updateTx at h
    split at h
    · cases h
    · split at h
      · cases h
      · rename_i o' _
        exact Effects.of_applies (x := .updateOrder (uuid id) (OrderService.overwrite o'))
          (OrderService.overwrite_id o') ⟨r, h⟩
  · exact Performs.bind (Performs.elim (Performs.pure _) fun entry => audit entry) fun _ => Performs.pure _

theorem removeOrder (id : String) : Obeys g (OrderService.remove id : Service χ Order) := by
  refine Performs.bind (statement (.deleteOrder (uuid id)) trivial fun _ o _ h => ⟨o, h⟩) fun removed => ?_
  exact Performs.bind (audit _) fun _ => Performs.pure _

theorem handleOrder (codec : Codec) (user : AuthUser) (request : OrderRequest) :
    Obeys g (OrderController.handle codec user request : Service χ Order) := by
  cases request with
  | cancel id => exact cancelOrder id user.userId
  | update id body =>
    refine Performs.bind (kycVerified user) fun _ => Performs.bind (Performs.of_state (orderOwner_state user id)) fun _ => ?_
    exact Performs.bind (Performs.orThrow _ _) fun dto => patchOrder codec id dto
  | remove id =>
    refine Performs.bind (kycVerified user) fun _ => Performs.bind (Performs.of_state (orderOwner_state user id)) fun _ => ?_
    exact removeOrder id

/-- Any write to the escrows. -/
theorem escrows {α : Type} {tx : Tx α} (h : ∀ db a db', tx db = .ok (a, db') → Prisma.escrowOnChain.Writes db db') :
    Obeys g (IKash.prisma tx : Service χ α) := statement .escrows trivial h

theorem openEscrow (tw : TrustlessWorkService χ) (config : EscrowConfig) (codec : AmountCodec) (dto : OpenEscrowDto)
    (freshId : String) (faults : DbFaults) : Obeys g (EscrowService.openEscrow tw config codec dto freshId faults) := by
  refine Performs.bind (Performs.of_state (findUndeployed_state faults.find dto.orderId)) fun existing => ?_
  refine Performs.bind (Performs.of_view (deployEscrowToChain_moves tw config dto.orderId dto.deployDto)) fun d => ?_
  refine Performs.bind ?_ fun escrow => ?_
  · cases existing with
    | some e => exact Performs.pure e
    | none => exact faulty _ (escrows createRow_writes)
  refine Performs.bind (faulty _ (escrows fun _ _ _ => Delegate.writes_update)) fun _ => ?_
  refine Performs.bind ?_ fun _ => Performs.pure _
  unfold openAudit
  split
  · exact recordUnless _ _
  · exact Performs.pure _

theorem initializeEscrow (tw : TrustlessWorkService χ) (config : EscrowConfig) (codec : AmountCodec)
    (dto : InitializeEscrowDto) (freshId : String) (faults : DbFaults) :
    Obeys g (EscrowService.initializeEscrow tw config codec dto freshId faults) := by
  refine Performs.bind (Performs.of_state (initializeCheck_state dto faults.find)) fun _ => ?_
  refine Performs.bind (Performs.of_view (initializeBuild_moves tw config dto)) fun unsigned => ?_
  refine Performs.bind (faulty _ (lookup _ _)) fun found => Performs.bind ?_ fun escrow => ?_
  · cases found with
    | none => exact faulty _ (escrows createRow_writes)
    | some e => exact faulty _ (escrows updateParameters_writes)
  refine Performs.bind ?_ fun _ => Performs.pure _
  unfold initializeAudit
  split
  · exact recordUnless _ _
  · exact Performs.pure _

theorem getOrFail (id : String) : Obeys g (EscrowService.getOrFail id : Service χ EscrowOnChain) :=
  Performs.of_state (getOrFail_state id)

theorem syncTransaction (tw : TrustlessWork χ) (dto : SyncEscrowDto) : Obeys g (EscrowService.syncTransaction tw dto) := by
  refine Performs.bind (Performs.of_state (syncCheck_state dto)) fun escrow => Performs.bind ?_ fun result => ?_
  · exact Performs.bind (external _) fun result => Performs.bind (Performs.throwIf _ _) fun _ => Performs.pure _
  refine Performs.bind (escrows fun _ _ _ => Delegate.writes_update) fun _ => ?_
  exact Performs.bind (Performs.elim (Performs.pure _) fun entry => audit entry) fun _ => Performs.pure _

theorem fund (tw : TrustlessWorkService χ) (dto : FundEscrowDto) : Obeys g (EscrowService.fund tw dto) := by
  refine Performs.bind (getOrFail _) fun escrow => Performs.bind (Performs.orThrow _ _) fun contractId => ?_
  exact Performs.bind (Performs.throwIf _ _) fun _ => Performs.bind (external _) fun _ => Performs.pure _

theorem release (tw : ReleasingWork χ) (config : EscrowConfig) (dto : ReleaseEscrowDto) :
    Obeys g (EscrowService.release tw config dto) := by
  refine Performs.bind (getOrFail _) fun escrow => Performs.bind (Performs.orThrow _ _) fun contractId => ?_
  refine Performs.bind (Performs.throwIf _ _) fun _ => Performs.bind (external _) fun statusRes => ?_
  refine Performs.bind ?_ fun _ => Performs.bind (external _) fun _ => Performs.pure _
  unfold autoApprove
  split
  · refine Performs.bind (Performs.ofExcept _) fun treasury => Performs.bind (Performs.ofExcept _) fun secret => ?_
    refine Performs.bind (external _) fun unsigned => Performs.bind (Performs.ofExcept _) fun signed => ?_
    exact Performs.bind (external _) fun result => Performs.throwIf _ _
  · exact Performs.pure _

theorem markFiatSent (tw : TrustlessWorkService χ) (id : String) (dto : FiatSentDto) :
    Obeys g (EscrowService.markFiatSent tw id dto) := by
  refine Performs.bind ?_ fun escrow => Performs.bind (external _) fun _ => Performs.pure _
  exact Performs.bind (getOrFail id) fun escrow => Performs.bind (Performs.throwIf _ _) fun _ => Performs.pure _

theorem uploadEvidence (tw : ReleasingWork χ) (id : String) (file : Option UploadFileInput) :
    Obeys g (EscrowService.uploadEvidence tw id file) := by
  refine Performs.bind (Performs.ofExcept _) fun file => Performs.bind (getOrFail id) fun escrow => ?_
  refine Performs.bind Performs.get fun w => Performs.bind (external _) fun result => ?_
  exact Performs.bind (escrows fun _ _ _ => Delegate.writes_update) fun _ => Performs.pure _

theorem createEscrow (dto : CreateEscrowDto) (freshId : String) :
    Obeys g (EscrowService.create dto freshId : Service χ EscrowOnChain) := by
  refine Performs.bind (lookup _ _) fun found => Performs.bind (Performs.throwIf _ _) fun _ => ?_
  exact escrows fun _ _ _ => Delegate.writes_create

theorem updateEscrow (id : String) (dto : UpdateEscrowDto) :
    Obeys g (EscrowService.update id dto : Service χ EscrowOnChain) :=
  Performs.bind (Performs.ofExcept _) fun _ => escrows fun _ _ _ => Delegate.writes_update

theorem removeEscrow (id : String) : Obeys g (EscrowService.remove id : Service χ EscrowOnChain) :=
  escrows fun _ _ _ => Delegate.writes_delete

theorem checkProvider (validator : PaymentMethodValidatorService) (providerId accountIdentifier : String) :
    Obeys g (PaymentMethodsService.checkProvider validator providerId accountIdentifier : Service χ _) := by
  refine Performs.bind (lookup _ _) fun provider => Performs.bind (Performs.orThrow _ _) fun provider => ?_
  exact Performs.bind (Performs.ofExcept _) fun _ => Performs.pure _

/-- Any write to the payment methods. -/
theorem paymentMethods {α : Type} {tx : Tx α}
    (h : ∀ db a db', tx db = .ok (a, db') → Prisma.paymentMethod.Writes db db') :
    Obeys g (IKash.prisma tx : Service χ α) := statement .paymentMethods trivial h

theorem createMethod (validator : PaymentMethodValidatorService) (dto : CreatePaymentMethodDto) (freshId : String) :
    Obeys g (PaymentMethodsService.create validator dto freshId : Service χ PaymentMethod) := by
  refine Performs.bind (checkProvider _ _ _) fun provider => ?_
  refine Performs.bind (paymentMethods fun _ _ _ => Delegate.writes_create) fun created => ?_
  exact Performs.bind (audit _) fun _ => Performs.pure _

theorem updateMethod (validator : PaymentMethodValidatorService) (id : String) (dto : UpdatePaymentMethodDto) :
    Obeys g (PaymentMethodsService.update validator id dto : Service χ PaymentMethod) := by
  refine Performs.bind (lookup _ _) fun existing => Performs.bind (Performs.orThrow _ _) fun existing => ?_
  refine Performs.bind (checkProvider _ _ _) fun provider => ?_
  refine Performs.bind (paymentMethods fun _ _ _ => Delegate.writes_update) fun updated => ?_
  exact Performs.bind (audit _) fun _ => Performs.pure _

theorem removeMethod (id : String) : Obeys g (PaymentMethodsService.remove id : Service χ PaymentMethod) := by
  refine Performs.bind (paymentMethods fun _ _ _ => Delegate.writes_delete) fun removed => ?_
  exact Performs.bind (audit _) fun _ => Performs.pure _

end Obeys

end Market

/-! ## The jobs and the listener -/

section Jobs

variable {g : Mandate}

namespace Obeys

theorem processExpiredOrder (tw : TrustlessWork χ) (fault : Option Thrown) (row : OrderWithEscrow) :
    Obeys g (OrderService.processExpiredOrder tw fault row) := by
  unfold OrderService.processExpiredOrder
  split
  · exact Performs.pure _
  refine Performs.bind ?_ fun _ => ?_
  · unfold OrderService.checkBalance
    split
    · exact Performs.pure _
    · exact Performs.bind (Performs.attempt (external _)) fun _ => Performs.pure _
  · unfold OrderService.expireWrite
    split
    · exact Performs.throw _
    · exact Performs.bind (updateOrder fun _ => rfl) fun _ => Performs.pure _

/-- By induction on the orders that the job found. -/
theorem processExpiredOrders (tw : TrustlessWork χ) (faults : String → Option Thrown) :
    ∀ rows, Obeys g (OrderService.processExpiredOrders tw faults rows)
  | [] => Performs.pure ()
  | row :: rest => Performs.bind (Performs.attempt (processExpiredOrder tw _ row)) fun _ =>
      processExpiredOrders tw faults rest

theorem expireOrders (tw : TrustlessWork χ) (faults : String → Option Thrown) :
    Obeys g (OrderService.expireOrders tw faults) :=
  Performs.bind Performs.get fun _ => processExpiredOrders tw faults _

open StellarListenerService

theorem applyEvent_effects {event : OnChainEscrowEvent} {e : EscrowOnChain} {u : Unit} {db db' : Db}
    (h : applyEvent event e db = .ok (u, db')) : Effects Statement.Applies (Statement.Permitted g) db db' := by
  obtain ⟨_, db₁, h₁, hrest⟩ := Tx.of_bind_ok h
  obtain ⟨o, db₂, h₂, h₃⟩ := Tx.of_bind_ok hrest
  have hescrow : Effects Statement.Applies (Statement.Permitted g) db db₁ :=
    Effects.of_applies (x := .escrows) trivial (Delegate.writes_update h₁)
  have horder : Effects Statement.Applies (Statement.Permitted g) db₁ db₂ :=
    Effects.of_applies (x := .updateOrder e.orderId (orderData event)) (fun _ => rfl) ⟨o, h₂⟩
  exact hescrow.trans (horder.trans (Effects.of_applies (x := .log (auditEntry event e)) trivial ⟨u, h₃⟩))

theorem processEvent (inst : ℕ) (fault : Option Thrown) (event : OnChainEscrowEvent) :
    Obeys g (StellarListenerService.processEvent inst fault event : Service χ Bool) := by
  refine Performs.bind Performs.get fun w => ?_
  split
  · exact Performs.pure _
  refine Performs.bind (Performs.of_state fun w => by rw [findEscrowRecord_run]) fun found => ?_
  split
  · exact Performs.pure _
  · unfold processFound
    split
    · exact Performs.bind (Performs.of_view fun _ => rfl) fun _ => Performs.pure _
    refine Performs.bind (Performs.ofExcept _) fun _ => Performs.bind ?_ fun _ => ?_
    · unfold commitEvent
      split
      · exact Performs.throw _
      · exact prisma fun _ _ _ => applyEvent_effects
    · exact Performs.bind (Performs.of_view fun _ => rfl) fun _ => Performs.pure _

/-- Moving the resume point changes no table. -/
theorem advance (inst : ℕ) (ledger : Option ℤ) :
    Obeys g (Svc.modify (StellarListenerService.advance inst ledger) : Service χ Unit) := by
  refine Performs.of_view fun w => ?_
  rw [Svc.run_modify]
  unfold StellarListenerService.advance
  split
  · rfl
  · split <;> rfl

theorem handleRaw (inst : ℕ) (fault : Option Thrown) (raw : Json) :
    Obeys g (StellarListenerService.handleRaw inst fault raw : Service χ RawOutcome) := by
  unfold StellarListenerService.handleRaw
  split
  · exact Performs.pure _
  refine Performs.bind (Performs.attempt (processEvent inst fault _)) fun result => ?_
  split
  · exact Performs.bind (advance inst _) fun _ => Performs.pure _
  · exact Performs.pure _

/-- By induction on the page. -/
theorem handleRaws (inst : ℕ) : ∀ (faults : ℕ → Option Thrown) raws,
    Obeys g (StellarListenerService.handleRaws inst faults raws : Service χ (List RawOutcome))
  | _, [] => Performs.pure []
  | faults, raw :: rest => Performs.bind (handleRaw inst (faults 0) raw) fun _ =>
      Performs.bind (handleRaws inst (fun i => faults (i + 1)) rest) fun _ => Performs.pure _

theorem fetchAndProcessNewEvents (rpc : Rpc) (configured : Option String) (inst : ℕ) (faults : PollFaults) :
    Obeys g (StellarListenerService.fetchAndProcessNewEvents rpc configured inst faults : Service χ PollReport) := by
  refine Performs.bind ?_ fun targets => ?_
  · refine Performs.bind Performs.get fun w => ?_
    split <;> exact Performs.pure _
  split
  · exact Performs.pure _
  refine Performs.bind ?_ fun page => Performs.bind (handleRaws inst _ _) fun outcomes => ?_
  · refine Performs.bind Performs.get fun w => ?_
    dsimp only
    split <;> exact Performs.pure _
  · exact Performs.bind (advance inst _) fun _ => Performs.pure _

theorem restart (inst : ℕ) (fault : Option Thrown) :
    Obeys g (StellarListenerService.restart inst fault : Service χ Unit) := Performs.of_view (restart_db inst fault)

theorem createMessage (dto : CreateChatMessageDto) (messageId : String) (hg : g.message (messageRow dto messageId)) :
    Obeys g (ChatMessageService.create dto messageId : Service χ ChatMessage) :=
  statement (.createMessage (messageRow dto messageId)) hg fun _ m _ h => ⟨m, h⟩

theorem removeMessage (id : String) : Obeys g (ChatMessageService.remove id : Service χ ChatMessage) :=
  statement (.deleteMessage (uuid id)) trivial fun _ m _ h => ⟨m, h⟩

end Obeys

end Jobs

end IKash
