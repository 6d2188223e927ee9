import IKash.Lib.AppendOnly
import IKash.Statements

/-!
# The whole server

`api env` takes every call that may change the database: the requests about accounts and about the market, the chat
messages, the polls and restarts of the listener, the expiration job and the challenge purge, in any order and from any
callers. Each call has a mandate, which its guards have checked; `call_effects` says that it keeps to it, and
`run_effects` that a run keeps to the mandates of its calls. From that, in every run:

- `accounts_endure`: no account goes or changes its id, its wallet or its role, and no call makes a privileged one;
- `audit_log_append_only`: no audit row goes, and only a removal of the own account blanks an address;
- `messages_never_edited`: no message is edited, but blanked when its sender removes the account;
- `market_of_approved_users`: every new offer and order is of a user whose wallet is approved, and who is a party to it.
-/

namespace IKash

open Lib

variable {χ : Type}

/-! ## The machine -/

structure ApiEnv (χ : Type) extends Env χ, MarketEnv χ where
  chat : ChatEnv

inductive ApiCall where
  | account (bearer : Option Token) (route : AccountRoute)
  | market (bearer : Option Token) (route : MarketRoute)
  /-- the insertion of a message, by `POST chat-messages` or for a socket that was let in -/
  | createMessage (dto : CreateChatMessageDto) (messageId : String)
  /-- `DELETE chat-messages/:id` -/
  | deleteMessage (bearer : Option Token) (id : String)
  | poll (rpc : StellarListenerService.Rpc) (configured : Option String) (inst : ℕ)
    (faults : StellarListenerService.PollFaults)
  | restart (inst : ℕ) (fault : Option Thrown)
  | expireOrders (faults : String → Option Thrown)
  | purgeExpiredChallenges (retentionHours : ℤ)

structure ApiInput where
  time : ℤ
  call : ApiCall

/-- What is answered is left out. -/
def ApiCall.service (env : ApiEnv χ) : ApiCall → Service χ Unit
  | account bearer route => (fun _ => ()) <$> route.handle env.toEnv bearer
  | market bearer route => route.handle env.toMarketEnv bearer
  | createMessage dto messageId => (fun _ => ()) <$> ChatMessageService.create dto messageId
  | deleteMessage bearer id => do
    ChatMessageController.guards env.chat bearer id
    let _ ← ChatMessageService.remove id
    pure ()
  | poll rpc configured inst faults =>
    (fun _ => ()) <$> StellarListenerService.fetchAndProcessNewEvents rpc configured inst faults
  | restart inst fault => StellarListenerService.restart inst fault
  | expireOrders faults => OrderService.expireOrders env.tw.toTrustlessWork faults
  | purgeExpiredChallenges retentionHours => (fun _ => ()) <$> AuthService.purgeExpiredChallenges retentionHours

/-- Runs of the server. -/
def api (env : ApiEnv χ) : Machine (World χ) ApiInput (Except Thrown Unit) where
  step w input := (input.call.service env).run (w.at input.time)

/-! ## What a call is entitled to -/

/-- The guard admits the caller as this user. -/
def AdmittedAs (mock : Bool) (w : World χ) (bearer : Option Token) (paramId : Option String) (user : AuthUser) : Prop :=
  ((jwtAuth mock bearer paramId).run w).1 = .ok user

/-- An offer of one's own, by a user whose wallet is approved. -/
def MayOffer (env : ApiEnv χ) (w : World χ) (call : ApiCall) (o : Offer) : Prop :=
  ∃ bearer dto freshId user, call = .market bearer (.createOffer (some dto) freshId) ∧
    AdmittedAs env.mockProfileUpload w bearer none user ∧ Approved w.db user ∧ dto.creatorId = user.userId ∧
    OfferService.createData env.codec.toCodec freshId dto = .ok o

/-- An order as its buyer or its seller, by a user whose wallet is approved. -/
def MayOrder (env : ApiEnv χ) (w : World χ) (call : ApiCall) (o : Order) : Prop :=
  ∃ bearer dto orderId freshId faults user, call = .market bearer (.createOrder (some dto) orderId freshId faults) ∧
    AdmittedAs env.mockProfileUpload w bearer none user ∧ Approved w.db user ∧
    user.userId ∈ [dto.buyerId, dto.sellerId] ∧ OrderService.orderRow env.codec orderId dto = .ok o

/-- The removal of the caller's own account. -/
def MayErase (env : ApiEnv χ) (w : World χ) (call : ApiCall) (userId : String) : Prop :=
  ∃ bearer user, call = .account bearer (.remove user.userId) ∧ uuid user.userId = userId ∧
    AdmittedAs env.mockProfileUpload w bearer (some user.userId) user

/-- The call inserts this message. -/
def Inserts (call : ApiCall) (m : ChatMessage) : Prop :=
  ∃ dto messageId, call = .createMessage dto messageId ∧ m = messageRow dto messageId

def ApiInput.mandate (env : ApiEnv χ) (w : World χ) (input : ApiInput) : Mandate where
  offer := MayOffer env (w.at input.time) input.call
  order := MayOrder env (w.at input.time) input.call
  message := Inserts input.call
  erases := MayErase env (w.at input.time) input.call

/-- What some call of the run is entitled to. -/
def runMandate (env : ApiEnv χ) (w : World χ) (inputs : List ApiInput) : Mandate where
  offer o := ∃ pre input post, inputs = pre ++ input :: post ∧ (input.mandate env ((api env).run w pre)).offer o
  order o := ∃ pre input post, inputs = pre ++ input :: post ∧ (input.mandate env ((api env).run w pre)).order o
  message m := ∃ pre input post, inputs = pre ++ input :: post ∧ (input.mandate env ((api env).run w pre)).message m
  erases k := ∃ pre input post, inputs = pre ++ input :: post ∧ (input.mandate env ((api env).run w pre)).erases k

/-! ## Every call keeps to its mandate -/

section Calls

variable {env : ApiEnv χ} {w : World χ}

/-- A guarded route. -/
theorem guarded_effects {g : Mandate} {α : Type} {mock : Bool} {bearer : Option Token} {paramId : Option String}
    {f : AuthUser → Service χ α}
    (h : ∀ user, AdmittedAs mock w bearer paramId user →
      Effects Statement.Applies (Statement.Permitted g) w.db ((f user).run w).2.db) :
    Effects Statement.Applies (Statement.Permitted g) w.db ((jwtAuth mock bearer paramId >>= f : Service χ α).run w).2.db :=
  Performs.bind_reading (jwtAuth_state mock bearer paramId w) fun user hjwt => h user (congrArg Prod.fst hjwt)

/-- The account routes: only the removal of the caller's own account blanks anything. -/
theorem account_effects {g : Mandate} (bearer : Option Token) (route : AccountRoute)
    (hg : ∀ k, MayErase env w (.account bearer route) k → g.erases k) :
    Effects Statement.Applies (Statement.Permitted g) w.db ((route.handle env.toEnv bearer).run w).2.db := by
  have hanswer : ∀ {α : Type} {valid : Bool} {m : Service χ α} {reply : α → Reply}, Obeys g m →
      Obeys g (validated valid >>= fun _ => m >>= fun a => pure (reply a) : Service χ Reply) := fun h =>
    Performs.bind (Performs.throwIf _ _) fun _ => Performs.bind h fun _ => Performs.pure _
  cases route with
  | createChallenge dto random => exact hanswer (Obeys.createChallenge _ _ dto random) w
  | login dto ctx freshId => exact hanswer (Obeys.login _ dto ctx freshId) w
  | getOrCreate publicKey freshId =>
    have h : Obeys g (AccountRoute.handle env.toEnv bearer (.getOrCreate publicKey freshId)) :=
      Performs.bind (Obeys.getOrCreateAccount publicKey freshId) fun _ => Performs.pure _
    exact h w
  | earlyRegister email =>
    have h : Obeys g (AccountRoute.handle env.toEnv bearer (.earlyRegister email)) :=
      Performs.bind (Obeys.earlyRegister email) fun _ => Performs.pure _
    exact h w
  | checkAlias query =>
    refine guarded_effects fun user _ => hanswer (m := UsersService.isAliasAvailable query.aliasName) ?_ w
    exact Performs.of_view fun _ => rfl
  | setup id dto freshId => exact guarded_effects fun user _ => hanswer (Obeys.setupAccount _ id dto freshId) w
  | create dto freshId => exact hanswer (Obeys.createAccount dto freshId) w
  | list p => exact hanswer (Obeys.read _) w
  | get id =>
    have h : Obeys g (AccountRoute.handle env.toEnv bearer (.get id)) :=
      Performs.bind (Performs.bind (Obeys.lookup _ _) fun _ => Performs.orThrow _ _) fun _ => Performs.pure _
    exact h w
  | update id dto => exact guarded_effects fun user _ => hanswer (Obeys.updateProfile id dto user.userId) w
  | uploadProfilePicture id body =>
    refine guarded_effects fun user _ => ?_
    exact Performs.bind (Obeys.uploadProfilePicture env.toEnv user id body) (fun _ => Performs.pure _) w
  | exportData id =>
    refine guarded_effects fun user _ => ?_
    exact Performs.bind (Obeys.exportUserData id user.userId) (fun _ => Performs.pure _) w
  | remove id =>
    refine guarded_effects fun user huser => ?_
    refine Performs.bind (Obeys.removeAccount user.userId fun hid => hg _ ?_) (fun _ => Performs.pure _) w
    exact ⟨bearer, user, by rw [hid], by rw [hid], by rw [hid]; exact huser⟩
  | webhook headers rawBody payload =>
    exact Performs.bind (Obeys.handleWebhook env.toEnv headers rawBody payload) (fun _ => Performs.pure _) w

/-- A new offer is the caller's own. -/
theorem createOffer_effects {g : Mandate} {bearer : Option Token} {body : Option CreateOfferDto} {freshId : String}
    {user : AuthUser} (huser : AdmittedAs env.mockProfileUpload w bearer none user)
    (hg : ∀ o, MayOffer env w (.market bearer (.createOffer body freshId)) o → g.offer o) :
    Effects Statement.Applies (Statement.Permitted g) w.db
      ((OfferController.create env.toMarketEnv user body freshId).run w).2.db := by
  refine Performs.bind_reading (kycVerified_state user w) fun _ hkyc => ?_
  obtain ⟨-, happroved⟩ := kycVerified_eq_ok.mp hkyc
  cases body with
  | none => exact Effects.refl _
  | some dto =>
    rw [parsed, Svc.run_bind_ok (Svc.run_orThrow_some _ _ _)]
    refine Performs.bind_reading (by rw [Svc.run_throwIf]) fun _ hcreator => ?_
    obtain ⟨hcreator, -⟩ := Svc.of_run_throwIf_ok hcreator
    refine Performs.bind (Obeys.createOffer _ dto freshId fun o ho => hg o ?_) (fun _ => Performs.pure _) w
    exact ⟨bearer, dto, freshId, user, rfl, huser, happroved, not_not.mp hcreator, ho⟩

/-- A new order has the caller as a party. -/
theorem createOrder_effects {g : Mandate} {bearer : Option Token} {body : Option CreateOrderDto}
    {orderId freshId : String} {faults : DbFaults} {user : AuthUser}
    (huser : AdmittedAs env.mockProfileUpload w bearer none user)
    (hg : ∀ o, MayOrder env w (.market bearer (.createOrder body orderId freshId faults)) o → g.order o) :
    Effects Statement.Applies (Statement.Permitted g) w.db
      ((OrderController.create env.toMarketEnv user body orderId freshId faults).run w).2.db := by
  refine Performs.bind_reading (kycVerified_state user w) fun _ hkyc => ?_
  obtain ⟨-, happroved⟩ := kycVerified_eq_ok.mp hkyc
  cases body with
  | none => exact Effects.refl _
  | some dto =>
    rw [parsed, Svc.run_bind_ok (Svc.run_orThrow_some _ _ _)]
    refine Performs.bind_reading (by rw [Svc.run_throwIf]) fun _ hparty => ?_
    obtain ⟨hparty, -⟩ := Svc.of_run_throwIf_ok hparty
    refine Performs.bind (Obeys.createOrder _ _ _ dto orderId freshId faults fun o ho => hg o ?_) (fun _ => Performs.pure _) w
    refine ⟨bearer, dto, orderId, freshId, faults, user, rfl, huser, happroved, ?_, ho⟩
    simp only [List.mem_cons, List.not_mem_nil, or_false]
    by_contra hno
    rw [not_or] at hno
    exact hparty ⟨fun h => hno.1 h.symm, fun h => hno.2 h.symm⟩

/-- The market routes: only the two that create an offer or an order need a mandate. -/
theorem market_effects {g : Mandate} (bearer : Option Token) (route : MarketRoute)
    (hoffer : ∀ o, MayOffer env w (.market bearer route) o → g.offer o)
    (horder : ∀ o, MayOrder env w (.market bearer route) o → g.order o) :
    Effects Statement.Applies (Statement.Permitted g) w.db ((route.handle env.toMarketEnv bearer).run w).2.db := by
  have hbody : ∀ {α β : Type} {body : Option β} {f : β → Service χ α}, (∀ dto, Obeys g (f dto)) →
      Obeys g (parsed body >>= fun dto => f dto >>= fun _ => pure () : Service χ Unit) := fun h =>
    Performs.bind (Performs.orThrow _ _) fun dto => Performs.bind (h dto) fun _ => Performs.pure _
  have howned : ∀ {type : ResourceType} {user : AuthUser} {id : String} {m : Service χ Unit}, Obeys g m →
      Obeys g (resourceOwner type user id >>= fun _ => m : Service χ Unit) := fun h =>
    Performs.bind (Obeys.resourceOwner _ _ _) fun _ => h
  cases route with
  | createOffer body freshId => exact guarded_effects fun user huser => createOffer_effects huser hoffer
  | updateOffer id body =>
    refine guarded_effects fun user _ => Performs.bind (Obeys.kycVerified user) (fun _ => ?_) w
    exact hbody fun dto => Obeys.updateOffer _ id dto
  | removeOffer id =>
    refine guarded_effects fun user _ => Performs.bind (Obeys.kycVerified user) (fun _ => ?_) w
    exact Performs.bind (Obeys.removeOffer id) fun _ => Performs.pure _
  | createOrder body orderId freshId faults => exact guarded_effects fun user huser => createOrder_effects huser horder
  | order request =>
    refine guarded_effects fun user _ => Performs.bind (Obeys.handleOrder _ user request) (fun _ => ?_) w
    exact Performs.pure _
  | openEscrow body freshId faults => exact hbody (fun dto => Obeys.openEscrow _ _ _ dto freshId faults) w
  | initializeEscrow body freshId faults => exact hbody (fun dto => Obeys.initializeEscrow _ _ _ dto freshId faults) w
  | fund body => exact hbody (fun dto => Obeys.fund _ dto) w
  | release body => exact hbody (fun dto => Obeys.release _ _ dto) w
  | sync body => exact hbody (fun dto => Obeys.syncTransaction _ dto) w
  | markFiatSent id body =>
    exact guarded_effects fun user _ => howned (hbody fun dto => Obeys.markFiatSent _ id dto) w
  | uploadEvidence id file =>
    refine guarded_effects fun user _ => howned (Performs.bind (Performs.throwIf _ _) fun _ => ?_) w
    exact Performs.bind (Obeys.uploadEvidence _ id file) fun _ => Performs.pure _
  | createEscrow body freshId => exact hbody (fun dto => Obeys.createEscrow dto freshId) w
  | updateEscrow id body => exact guarded_effects fun user _ => howned (hbody fun dto => Obeys.updateEscrow id dto) w
  | removeEscrow id =>
    exact guarded_effects fun user _ => howned (Performs.bind (Obeys.removeEscrow id) fun _ => Performs.pure _) w
  | createPaymentMethod body freshId => exact hbody (fun dto => Obeys.createMethod _ dto freshId) w
  | updatePaymentMethod id body =>
    exact guarded_effects fun user _ => howned (hbody fun dto => Obeys.updateMethod _ id dto) w
  | removePaymentMethod id =>
    exact guarded_effects fun user _ => howned (Performs.bind (Obeys.removeMethod id) fun _ => Performs.pure _) w

/-- **One call.** -/
theorem call_effects (env : ApiEnv χ) (w : World χ) (input : ApiInput) : Effects Statement.Applies
    (Statement.Permitted (input.mandate env w)) w.db ((api env).next w input).db := by
  obtain ⟨time, call⟩ := input
  show Effects _ _ (w.at time).db ((call.service env).run (w.at time)).2.db
  cases call with
  | account bearer route =>
    show Effects _ _ _ (((fun _ => ()) <$> route.handle env.toEnv bearer).run (w.at time)).2.db
    rw [Svc.run_map_state]
    exact account_effects bearer route fun k hk => hk
  | market bearer route => exact market_effects bearer route (fun o ho => ho) fun o ho => ho
  | createMessage dto messageId =>
    have hinserts : (ApiInput.mandate env w ⟨time, .createMessage dto messageId⟩).message (messageRow dto messageId) :=
      ⟨dto, messageId, rfl, rfl⟩
    exact Performs.map _ (Obeys.createMessage dto messageId hinserts) (w.at time)
  | deleteMessage bearer id =>
    have hguards : Obeys (ApiInput.mandate env w ⟨time, .deleteMessage bearer id⟩)
      (ChatMessageController.guards env.chat bearer id : Service χ Unit) :=
        Performs.bind (Obeys.jwtAuth _ _ _) fun user => Obeys.resourceOwner _ _ _
    exact Performs.bind hguards (fun _ => Performs.bind (Obeys.removeMessage id) fun _ => Performs.pure _) (w.at time)
  | poll rpc configured inst faults =>
    exact Performs.map _ (Obeys.fetchAndProcessNewEvents rpc configured inst faults) (w.at time)
  | restart inst fault => exact Obeys.restart inst fault (w.at time)
  | expireOrders faults => exact Obeys.expireOrders _ faults (w.at time)
  | purgeExpiredChallenges retentionHours =>
    exact Performs.map _ (Obeys.purgeExpiredChallenges retentionHours) (w.at time)

/-- **A run.** -/
theorem run_effects (env : ApiEnv χ) (w : World χ) (inputs : List ApiInput) : Effects Statement.Applies
    (Statement.Permitted (runMandate env w inputs)) w.db ((api env).run w inputs).db := by
  have halong : (api env).Along (fun s input => Effects Statement.Applies
      (Statement.Permitted (runMandate env w inputs)) s.db ((api env).next s input).db) w inputs := by
    rw [Machine.along_iff]
    intro pre input post he
    refine (call_effects env _ input).mono fun x hx => hx.mono ?_ ?_ ?_ ?_
    · exact fun o ho => ⟨pre, input, post, he, ho⟩
    · exact fun o ho => ⟨pre, input, post, he, ho⟩
    · exact fun m hm => ⟨pre, input, post, he, hm⟩
    · exact fun k hk => ⟨pre, input, post, he, hk⟩
  exact Machine.Along.run_rel
    (R := fun s s' : World χ => Effects Statement.Applies (Statement.Permitted (runMandate env w inputs)) s.db s'.db)
    (fun s => Effects.refl s.db) Effects.trans halong

end Calls

/-! ## What a run keeps -/

section Runs

variable {g : Mandate} {db db' : Db}

/-- No account goes, each stays the same, and the new ones are plain users. -/
theorem effects_accounts (h : Effects Statement.Applies (Statement.Permitted g) db db') :
    AppendOnly SameAccount (fun u => u.role = .user) db.users.rows db'.users.rows := by
  refine Effects.rel (R := fun a b : Db => AppendOnly SameAccount (fun u => u.role = .user) a.users.rows b.users.rows)
    (fun d => AppendOnly.refl SameAccount.refl _) (fun h h' => h.trans SameAccount.trans ?_ h') (fun x a b hx hab => ?_) h
  · exact fun hfresh hsame => hsame.role.trans hfresh
  rw [hab.columns.users]
  cases x with
  | createUser row =>
    refine AppendOnly.append SameAccount.refl fun u hu => ?_
    rw [List.mem_singleton.mp hu]
    exact hx
  | updateUser k data =>
    refine AppendOnly.map fun u _ => ?_
    rcases Table.atKey_cases k data u with hsame | ⟨-, hnew⟩
    · rw [hsame]
      exact SameAccount.refl u
    · rw [hnew]
      exact hx u
  | _ => exact AppendOnly.refl SameAccount.refl _

/-- The audit row as it was, or without its address if its account may be erased. -/
def AuditEdit (erases : String → Prop) (a a' : AuditLog) : Prop :=
  a' = a ∨ a' = withoutAddress a ∧ ∃ k ∈ a.userId, erases k

theorem AuditEdit.refl (erases : String → Prop) (a : AuditLog) : AuditEdit erases a a := Or.inl rfl

theorem AuditEdit.trans {erases : String → Prop} {a b c : AuditLog} (h : AuditEdit erases a b)
    (h' : AuditEdit erases b c) : AuditEdit erases a c := by
  rcases h with rfl | ⟨rfl, hk⟩
  · exact h'
  · rcases h' with rfl | ⟨rfl, -⟩
    · exact Or.inr ⟨rfl, hk⟩
    · exact Or.inr ⟨rfl, hk⟩

theorem effects_auditLogs (h : Effects Statement.Applies (Statement.Permitted g) db db') :
    AppendOnly (AuditEdit g.erases) (fun _ => True) db.auditLogs db'.auditLogs := by
  refine Effects.rel (R := fun a b : Db => AppendOnly (AuditEdit g.erases) (fun _ => True) a.auditLogs b.auditLogs)
    (fun d => AppendOnly.refl (AuditEdit.refl _) _) (fun h h' => h.trans AuditEdit.trans (fun _ _ => trivial) h')
    (fun x a b hx hab => ?_) h
  rw [hab.columns.logs]
  cases x with
  | log entry => exact AppendOnly.append (AuditEdit.refl _) fun _ _ => trivial
  | blankAddresses userId =>
    refine AppendOnly.map fun entry _ => ?_
    split
    · rename_i huser
      exact Or.inr ⟨rfl, userId, huser, hx⟩
    · exact Or.inl rfl
  | _ => exact AppendOnly.refl (AuditEdit.refl _) _

/-- The message as it was, or without its text if its sender may be erased. -/
def MessageEdit (erases : String → Prop) (m m' : ChatMessage) : Prop :=
  m' = m ∨ m' = blanked m ∧ erases m.senderId

theorem MessageEdit.trans {erases : String → Prop} {a b c : ChatMessage} (h : MessageEdit erases a b)
    (h' : MessageEdit erases b c) : MessageEdit erases a c := by
  rcases h with rfl | ⟨rfl, hk⟩
  · exact h'
  · rcases h' with rfl | ⟨rfl, -⟩
    · exact Or.inr ⟨rfl, hk⟩
    · exact Or.inr ⟨rfl, hk⟩

theorem effects_messages (h : Effects Statement.Applies (Statement.Permitted g) db db') :
    Sourced (MessageEdit g.erases) g.message db.chatMessages.rows db'.chatMessages.rows := by
  have hrefl : ∀ m, MessageEdit g.erases m m := fun m => Or.inl rfl
  refine Effects.rel (R := fun a b : Db => Sourced (MessageEdit g.erases) g.message a.chatMessages.rows b.chatMessages.rows)
    (fun d => Sourced.of_subset hrefl (List.Subset.refl _)) (Sourced.trans MessageEdit.trans) (fun x a b hx hab => ?_) h
  rw [hab.columns.messages]
  cases x with
  | createMessage row =>
    refine Sourced.append hrefl fun m hm => ?_
    rw [List.mem_singleton.mp hm]
    exact hx
  | blankMessages userId =>
    refine Sourced.map fun m _ => ?_
    split
    · rename_i hsender
      exact Or.inr ⟨rfl, by rw [hsender]; exact hx⟩
    · exact Or.inl rfl
  | deleteMessage k => exact Sourced.of_subset hrefl List.filter_sublist.subset
  | deleteOrder k => exact Sourced.of_subset hrefl List.filter_sublist.subset
  | _ => exact Sourced.of_subset hrefl (List.Subset.refl _)

/-- The accounts are still there and the same, and nobody gained or lost a privilege. -/
structure AccountsEndure (db db' : Db) : Prop where
  rows : AppendOnly SameAccount (fun u => u.role = .user) db.users.rows db'.users.rows
  privileged : ∀ user, Privileged db' user ↔ Privileged db user

/-- The privileged accounts are the ones that were. -/
theorem privileged_iff (h : AppendOnly SameAccount (fun u => u.role = .user) db.users.rows db'.users.rows)
    (user : AuthUser) : Privileged db' user ↔ Privileged db user := by
  constructor
  · rintro ⟨u', hu', hrole⟩
    obtain ⟨hmem, hkey⟩ := Table.find?_eq_some.mp hu'
    rcases h.mem hmem with ⟨u, hu, hsame⟩ | hnew
    · exact ⟨u, Table.find?_eq_some.mpr ⟨hu, hsame.userId.symm.trans hkey⟩, by rw [← hsame.role]; exact hrole⟩
    · rw [hnew] at hrole
      exact absurd hrole (by decide)
  · rintro ⟨u, hu, hrole⟩
    obtain ⟨hmem, hkey⟩ := Table.find?_eq_some.mp hu
    obtain ⟨u', hu', hsame⟩ := h.kept hmem
    exact ⟨u', Table.find?_eq_some.mpr ⟨hu', hsame.userId.trans hkey⟩, by rw [hsame.role]; exact hrole⟩

end Runs

section Results

variable (env : ApiEnv χ) (w : World χ) (inputs : List ApiInput)

/-- **Accounts.** In every run no account goes or becomes another, and no call gives or takes a privilege. -/
theorem accounts_endure : AccountsEndure w.db ((api env).run w inputs).db where
  rows := effects_accounts (run_effects env w inputs)
  privileged := privileged_iff (effects_accounts (run_effects env w inputs))

/-- **The audit log.** Every row stays at its place, as it was or without its address; the address goes only when the
account of the row is removed by its owner. -/
theorem audit_log_append_only : AppendOnly (AuditEdit (runMandate env w inputs).erases) (fun _ => True) w.db.auditLogs
    ((api env).run w inputs).db.auditLogs := effects_auditLogs (run_effects env w inputs)

/-- **Messages.** Every message of a reached state was there or was inserted by a call of the run, and it is as it was
written, unless its sender removed the account. -/
theorem messages_never_edited : Sourced (MessageEdit (runMandate env w inputs).erases) (runMandate env w inputs).message
    w.db.chatMessages.rows ((api env).run w inputs).db.chatMessages.rows := effects_messages (run_effects env w inputs)

end Results

end IKash
