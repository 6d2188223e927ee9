import IKash.Api
import IKash.Lib.Alike

/-!
# What the services see of the audit log

The services write audit rows and do not look at them again, but for two: a listener that restarts reads its resume
point from the rows of the on-chain actions, and an export shows a user the own rows. `Unaware m` says that `m` does the
same in two worlds that differ in their audit logs only, and there not in the rows of the on-chain actions.

- `Delegate.Apart.create_alike` and the like: the operations of Prisma do alike in such databases;
- `Unaware.audit`: a record is appended in both worlds, or refused in both;
- `Unaware.*`: one lemma for each service, by the order of its parts.
-/

namespace IKash

open Lib

variable {χ : Type}

/-! ## Worlds with different audit logs -/

/-- A row of one of the actions among which a listener looks for its resume point. -/
def OnChain (a : AuditLog) : Bool := a.action ∈ escrowActions

/-- The accounts of the rows are there. -/
def Known (t : Tables) (logs : List AuditLog) : Prop := ∀ a ∈ logs, ∀ u ∈ a.userId, t.users.Has u

def Db.withLogs (db : Db) (logs : List AuditLog) (h : Known db.toTables logs) : Db :=
  ⟨{ db.toTables with auditLogs := logs }, { db.refs with auditUser := h }⟩

def World.withLogs (w : World χ) (logs : List AuditLog) (h : Known w.db.toTables logs) : World χ :=
  { w with db := w.db.withLogs logs h }

/-- The same database with another audit log, but for the rows of the on-chain actions. -/
inductive Db.Relogged (db : Db) : Db → Prop where
  | intro (logs : List AuditLog) (h : Known db.toTables logs) (hchain : logs.filter OnChain = db.auditLogs.filter OnChain) :
    db.Relogged (db.withLogs logs h)

/-- The same world with another audit log, but for the rows of the on-chain actions. -/
inductive World.Relogged (w : World χ) : World χ → Prop where
  | intro (logs : List AuditLog) (h : Known w.db.toTables logs)
    (hchain : logs.filter OnChain = w.db.auditLogs.filter OnChain) : w.Relogged (w.withLogs logs h)

theorem World.Relogged.db {w w' : World χ} (h : w.Relogged w') : w.db.Relogged w'.db := by
  obtain ⟨logs, hknown, hchain⟩ := h
  exact .intro logs hknown hchain

theorem World.Relogged.refl (w : World χ) : w.Relogged w := .intro w.db.auditLogs w.db.refs.auditUser rfl

theorem World.Relogged.trans {w w' w'' : World χ} (h : w.Relogged w') (h' : w'.Relogged w'') : w.Relogged w'' := by
  obtain ⟨logs, hknown, hchain⟩ := h
  obtain ⟨logs', hknown', hchain'⟩ := h'
  have hlogs : logs'.filter OnChain = logs.filter OnChain := hchain'
  exact World.Relogged.intro (w := w) logs' hknown' (hlogs.trans hchain)

theorem World.Relogged.at {w w' : World χ} (h : w.Relogged w') (time : ℤ) : (w.at time).Relogged (w'.at time) := by
  obtain ⟨logs, hknown, hchain⟩ := h
  exact World.Relogged.intro (w := w.at time) logs hknown hchain

/-! ## The operations of Prisma -/

section Operations

variable {ρ α : Type} [Keyed ρ String] {d : Delegate ρ} {t : Tables} {logs : List AuditLog}

/-- A commit of the same tables with another audit log. -/
theorem commit_relogged (hknown : Known t t.auditLogs) (hknown' : Known t logs)
    (hchain : logs.filter OnChain = t.auditLogs.filter OnChain) (a : α) :
    Svc.Outcomes Db.Relogged (Db.commit t a) (Db.commit { t with auditLogs := logs } a) := by
  unfold Db.commit
  by_cases h : t.Refs
  · have h' : ({ t with auditLogs := logs } : Tables).Refs := { h with auditUser := hknown' }
    rw [dif_pos h, dif_pos h']
    have hsame : (⟨t, h⟩ : Db).Relogged ⟨{ t with auditLogs := logs }, h'⟩ := .intro logs hknown' hchain
    exact .ok a hsame
  · have h' : ¬ ({ t with auditLogs := logs } : Tables).Refs := fun hrefs => h { hrefs with auditUser := hknown }
    rw [dif_neg h, dif_neg h']
    exact .error _

/-- The delegate writes neither the audit log nor the accounts. -/
structure Delegate.Apart (d : Delegate ρ) : Prop where
  get : ∀ t logs, d.get { t with auditLogs := logs } = d.get t
  put : ∀ t logs r, d.put { t with auditLogs := logs } r = { d.put t r with auditLogs := logs }
  logs : ∀ t r, (d.put t r).auditLogs = t.auditLogs
  users : ∀ t r, (d.put t r).users = t.users

theorem offer_apart : Prisma.offer.Apart := ⟨fun _ _ => rfl, fun _ _ _ => rfl, fun _ _ => rfl, fun _ _ => rfl⟩

theorem order_apart : Prisma.order.Apart := ⟨fun _ _ => rfl, fun _ _ _ => rfl, fun _ _ => rfl, fun _ _ => rfl⟩

theorem escrow_apart : Prisma.escrowOnChain.Apart :=
  ⟨fun _ _ => rfl, fun _ _ _ => rfl, fun _ _ => rfl, fun _ _ => rfl⟩

theorem message_apart : Prisma.chatMessage.Apart := ⟨fun _ _ => rfl, fun _ _ _ => rfl, fun _ _ => rfl, fun _ _ => rfl⟩

theorem method_apart : Prisma.paymentMethod.Apart :=
  ⟨fun _ _ => rfl, fun _ _ _ => rfl, fun _ _ => rfl, fun _ _ => rfl⟩

theorem challenge_apart : Prisma.authChallenge.Apart :=
  ⟨fun _ _ => rfl, fun _ _ _ => rfl, fun _ _ => rfl, fun _ _ => rfl⟩

theorem waitlist_apart : Prisma.waitlist.Apart := ⟨fun _ _ => rfl, fun _ _ _ => rfl, fun _ _ => rfl, fun _ _ => rfl⟩

namespace Delegate.Apart

variable {row : ρ} {k : String} {data : ρ → ρ} {p : ρ → Bool} {db : Db}

/-- The table is written. -/
theorem commit_put (hd : d.Apart) (hknown : Known db.toTables logs)
    (hchain : logs.filter OnChain = db.auditLogs.filter OnChain) (r : Table ρ) (a : α) :
    Svc.Outcomes Db.Relogged (Db.commit (d.put db.toTables r) a)
      (Db.commit (d.put (db.withLogs logs hknown).toTables r) a) := by
  have hput : d.put (db.withLogs logs hknown).toTables r = { d.put db.toTables r with auditLogs := logs } :=
    hd.put db.toTables logs r
  have hkeep : ∀ l, Known db.toTables l → Known (d.put db.toTables r) l := by
    intro l hl a ha u hu
    rw [hd.users]
    exact hl a ha u hu
  rw [hput]
  refine commit_relogged ?_ (hkeep logs hknown) ?_ a
  · rw [hd.logs]
    exact hkeep _ db.refs.auditUser
  · rw [hd.logs]
    exact hchain

theorem create_alike (hd : d.Apart) : Svc.TxAlike Db.Relogged (d.create row) (d.create row) := by
  rintro db _ ⟨logs, hknown, hchain⟩
  have hget : d.get (db.withLogs logs hknown).toTables = d.get db.toTables := hd.get _ _
  unfold Delegate.create
  rw [hget]
  cases (d.get db.toTables).insert row with
  | none => exact .error _
  | some r => exact hd.commit_put hknown hchain r row

theorem update_alike (hd : d.Apart) : Svc.TxAlike Db.Relogged (d.update k data) (d.update k data) := by
  rintro db _ ⟨logs, hknown, hchain⟩
  have hget : d.get (db.withLogs logs hknown).toTables = d.get db.toTables := hd.get _ _
  unfold Delegate.update
  rw [hget]
  cases (d.get db.toTables).find? k with
  | none => exact .error _
  | some r =>
    dsimp only
    cases (d.get db.toTables).replace k (data r) with
    | none => exact .error _
    | some t => exact hd.commit_put hknown hchain t (data r)

theorem upsert_alike (hd : d.Apart) : Svc.TxAlike Db.Relogged (d.upsert k row data) (d.upsert k row data) := by
  rintro db db' h
  have hget : d.get db'.toTables = d.get db.toTables := by
    obtain ⟨logs, hknown, -⟩ := h
    exact hd.get _ _
  unfold Delegate.upsert
  rw [hget]
  cases (d.get db.toTables).find? k with
  | none => exact hd.create_alike db db' h
  | some r => exact hd.update_alike db db' h

theorem deleteMany_alike (hd : d.Apart) : Svc.TxAlike Db.Relogged (d.deleteMany p) (d.deleteMany p) := by
  rintro db _ ⟨logs, hknown, hchain⟩
  have hget : d.get (db.withLogs logs hknown).toTables = d.get db.toTables := hd.get _ _
  unfold Delegate.deleteMany
  rw [hget]
  exact hd.commit_put hknown hchain _ ()

theorem delete_alike (hd : d.Apart) : Svc.TxAlike Db.Relogged (d.delete k) (d.delete k) := by
  rintro db _ ⟨logs, hknown, hchain⟩
  have hget : d.get (db.withLogs logs hknown).toTables = d.get db.toTables := hd.get _ _
  unfold Delegate.delete
  rw [hget]
  cases (d.get db.toTables).find? k with
  | none => exact .error _
  | some r => exact hd.commit_put hknown hchain _ r

theorem updateMany_alike (hd : d.Apart) {keys : ∀ r, SameKeys r (data r)} :
    Svc.TxAlike Db.Relogged (d.updateMany p data keys) (d.updateMany p data keys) := by
  rintro db _ ⟨logs, hknown, hchain⟩
  have hget : d.get (db.withLogs logs hknown).toTables = d.get db.toTables := hd.get _ _
  unfold Delegate.updateMany
  rw [hget]
  exact hd.commit_put hknown hchain _ _

end Delegate.Apart

variable {row : AppUser} {k : String} {data : AppUser → AppUser}

/-- No account goes, so no row of an audit log loses its account. -/
theorem commit_users {db : Db} (hknown : Known db.toTables logs)
    (hchain : logs.filter OnChain = db.auditLogs.filter OnChain) {users : Table AppUser}
    (hkeep : ∀ k, db.users.Has k → users.Has k) (a : α) :
    Svc.Outcomes Db.Relogged (Db.commit { db.toTables with users := users } a)
      (Db.commit { (db.withLogs logs hknown).toTables with users := users } a) :=
  commit_relogged (t := { db.toTables with users := users }) (fun x hx u hu => hkeep u (db.refs.auditUser x hx u hu))
    (fun x hx u hu => hkeep u (hknown x hx u hu)) hchain a

theorem createUser_alike : Svc.TxAlike Db.Relogged (Prisma.appUser.create row) (Prisma.appUser.create row) := by
  rintro db _ ⟨logs, hknown, hchain⟩
  have hget : Prisma.appUser.get (db.withLogs logs hknown).toTables = db.users := rfl
  have hget' : Prisma.appUser.get db.toTables = db.users := rfl
  unfold Delegate.create
  rw [hget, hget']
  cases hinsert : db.users.insert row with
  | none => exact .error _
  | some users =>
    refine commit_users hknown hchain (fun k hk => ?_) row
    obtain ⟨u, hu, hkey⟩ := hk
    exact ⟨u, (Table.mem_insert hinsert).mpr (Or.inl hu), hkey⟩

theorem updateUser_alike (hid : ∀ u, (data u).userId = u.userId) :
    Svc.TxAlike Db.Relogged (Prisma.appUser.update k data) (Prisma.appUser.update k data) := by
  rintro db _ ⟨logs, hknown, hchain⟩
  have hget : Prisma.appUser.get (db.withLogs logs hknown).toTables = db.users := rfl
  have hget' : Prisma.appUser.get db.toTables = db.users := rfl
  unfold Delegate.update
  rw [hget, hget']
  cases hu : db.users.find? k with
  | none => exact .error _
  | some u =>
    dsimp only
    cases ht : db.users.replace k (data u) with
    | none => exact .error _
    | some users =>
      refine commit_users hknown hchain (fun j hj => ?_) (data u)
      exact (Table.has_replace ht ((hid u).trans (Table.key_of_find? hu)) hu).mpr hj

theorem upsertUser_alike {publicKey : String} :
    Svc.TxAlike Db.Relogged (Prisma.appUser.upsert publicKey row) (Prisma.appUser.upsert publicKey row) := by
  intro db db' h
  have husers : db'.users = db.users := by
    obtain ⟨logs, hknown, -⟩ := h
    rfl
  unfold Prisma.appUser.upsert
  rw [husers]
  cases db.users.findUnique? (fun u => some u.publicKey) publicKey with
  | some u => exact .ok u h
  | none => exact createUser_alike db db' h

theorem deleteOrder_alike : Svc.TxAlike Db.Relogged (Prisma.order.delete k) (Prisma.order.delete k) := by
  rintro db _ ⟨logs, hknown, hchain⟩
  unfold Prisma.order.delete
  have horders : (db.withLogs logs hknown).orders = db.orders := rfl
  rw [horders]
  cases db.orders.find? k with
  | none => exact .error _
  | some o => exact commit_relogged (t := { db.toTables with
      orders := db.orders.filter (fun x => x.orderId ≠ k)
      escrows := db.escrows.filter (fun e => e.orderId ≠ k)
      chatMessages := db.chatMessages.filter (fun m => m.orderId ≠ k) }) db.refs.auditUser hknown hchain o

/-- A record about an account that is not there is refused in both databases. -/
theorem log_alike {entry : AuditLog} :
    Svc.TxAlike Db.Relogged (Prisma.auditLog.create entry) (Prisma.auditLog.create entry) := by
  rintro db _ ⟨logs, hknown, hchain⟩
  unfold Prisma.auditLog.create
  by_cases hentry : ∀ u ∈ entry.userId, db.users.Has u
  · have happend : ∀ l, Known db.toTables l → Known db.toTables (l ++ [entry]) := by
      intro l hl a ha
      rcases List.mem_append.mp ha with ha | ha
      · exact hl a ha
      · rw [List.mem_singleton.mp ha]
        exact hentry
    refine commit_relogged (t := { db.toTables with auditLogs := db.auditLogs ++ [entry] }) (happend _ db.refs.auditUser)
      (happend logs hknown) ?_ ()
    rw [List.filter_append, List.filter_append, hchain]
  · have hrefused : ∀ l : List AuditLog, Db.commit { db.toTables with auditLogs := l ++ [entry] } () =
        .error (.prisma .foreignKeyConstraint) := fun l =>
      dif_neg fun hrefs => hentry (hrefs.auditUser entry (List.mem_append_right l List.mem_cons_self))
    rw [hrefused db.auditLogs]
    show Svc.Outcomes _ _ (Db.commit { db.toTables with auditLogs := logs ++ [entry] } ())
    rw [hrefused logs]
    exact .error _

/-- Rows are rewritten that stay of the same account and action. -/
theorem rewriteLogs_alike {p : AuditLog → Bool} {data : AuditLog → AuditLog}
    (hdata : ∀ a, (data a).userId = a.userId ∧ (data a).action = a.action) :
    Svc.TxAlike Db.Relogged (Prisma.auditLog.updateMany p data) (Prisma.auditLog.updateMany p data) := by
  rintro db _ ⟨logs, hknown, hchain⟩
  have hsame : ∀ a, (if p a then data a else a).userId = a.userId ∧ (if p a then data a else a).action = a.action := by
    intro a
    split
    · exact hdata a
    · exact ⟨rfl, rfl⟩
  have hrewrite : ∀ l, Known db.toTables l → Known db.toTables (l.map fun a => if p a then data a else a) := by
    intro l hl a ha u hu
    obtain ⟨b, hb, rfl⟩ := List.mem_map.mp ha
    rw [(hsame b).1] at hu
    exact hl b hb u hu
  have hon : (OnChain ∘ fun a => if p a then data a else a) = OnChain := by
    funext a
    show decide _ = decide _
    rw [(hsame a).2]
  refine commit_relogged (t := { db.toTables with auditLogs := db.auditLogs.map fun a => if p a then data a else a })
    (hrewrite _ db.refs.auditUser) (hrewrite logs hknown) ?_ ()
  rw [List.filter_map, List.filter_map, hon, hchain]

/-- A query by the text of a key. -/
theorem lookup_alike {α : Type} {accepted : Bool} {found : Db → Option α}
    (h : ∀ db logs hknown, found (Db.withLogs db logs hknown) = found db) :
    Svc.TxAlike Db.Relogged (lookup accepted found) (lookup accepted found) := by
  intro db db' hdb
  have hfound : found db' = found db := by
    obtain ⟨logs, hknown, -⟩ := hdb
    exact h db logs hknown
  unfold lookup
  rw [hfound]
  cases found db with
  | some a => exact .ok (some a) hdb
  | none =>
    cases accepted with
    | true => exact .ok none hdb
    | false => exact .error _

end Operations

/-! ## The services -/

/-- The service does the same whatever the audit log holds. -/
abbrev Unaware {α : Type} (m : Service χ α) : Prop := Svc.Alike World.Relogged m m

namespace Unaware

open Svc.Alike

variable {α : Type} {k : String}

/-- A transaction. -/
theorem tx {tx : Tx α} (h : Svc.TxAlike Db.Relogged tx tx) : Unaware (IKash.prisma tx : Service χ α) := by
  refine Svc.Alike.atomically (fun w w' hw => hw.db) (fun w w' db db' hw hdb => ?_) h
  obtain ⟨-, -, -⟩ := hw
  obtain ⟨logs, hknown, hchain⟩ := hdb
  exact World.Relogged.intro (w := { w with db := db }) logs hknown hchain

/-- A query of the other tables. -/
theorem read {f : Db → α} (h : ∀ db logs hknown, f (Db.withLogs db logs hknown) = f db) :
    Unaware (IKash.prisma (fun db => .ok (f db, db)) : Service χ α) := by
  refine tx (Svc.TxAlike.read fun db db' hdb => ?_)
  obtain ⟨logs, hknown, -⟩ := hdb
  exact (h db logs hknown).symm

/-- A query by the text of a key. -/
theorem lookup {accepted : Bool} {found : Db → Option α} (h : ∀ db logs hknown, found (Db.withLogs db logs hknown) = found db) :
    Unaware (IKash.prisma (IKash.lookup accepted found) : Service χ (Option α)) :=
  tx (lookup_alike h)

/-- What is made of the rest of the world. -/
theorem get_bind {f : World χ → Service χ α} (h : ∀ w logs hknown, f (World.withLogs w logs hknown) = f w)
    (hf : ∀ w, Unaware (f w)) : Unaware (Svc.get >>= f) := by
  refine Svc.Alike.get_bind fun w w' hw => ?_
  obtain ⟨logs, hknown, -⟩ := hw
  rw [h]
  exact hf w

/-- A change of the rest of the world. -/
theorem modify {g : World χ → World χ}
    (h : ∀ w logs hknown, ∃ hknown', g (World.withLogs w logs hknown) = (g w).withLogs logs hknown')
    (hdb : ∀ w, (g w).db = w.db) : Unaware (Svc.modify g : Service χ Unit) := by
  refine Svc.Alike.modify fun w w' hw => ?_
  obtain ⟨logs, hknown, hchain⟩ := hw
  obtain ⟨hknown', hg⟩ := h w logs hknown
  rw [hg]
  refine .intro logs hknown' ?_
  rw [hdb]
  exact hchain

theorem external (call : χ → Except Thrown α × χ) : Unaware (IKash.external call) := by
  intro w w' hw
  obtain ⟨logs, hknown, hchain⟩ := hw
  exact ⟨rfl, World.Relogged.intro (w := { w with ext := (call w.ext).2 }) logs hknown hchain⟩

theorem faulty {m : Service χ α} (fault : Option Thrown) (h : Unaware m) : Unaware (IKash.faulty fault m) := by
  cases fault with
  | some t => exact throw t
  | none => exact h

/-- **A record** is appended in both worlds, or refused and swallowed in both. -/
theorem audit (entry : AuditLog) : Unaware (AuditLogService.create entry : Service χ Unit) := by
  refine Svc.Alike.modify fun w w' hw => ?_
  have hlog : Svc.Outcomes Db.Relogged (Prisma.auditLog.create entry w.db) (Prisma.auditLog.create entry w'.db) :=
    log_alike w.db w'.db hw.db
  cases hleft : Prisma.auditLog.create entry w.db <;> cases hright : Prisma.auditLog.create entry w'.db <;>
    rw [hleft, hright] at hlog <;> cases hlog
  · exact hw
  · rename_i hdb
    obtain ⟨-, -, -⟩ := hw
    obtain ⟨logs, hknown, hchain⟩ := hdb
    exact World.Relogged.intro (w := { w with db := _ }) logs hknown hchain

theorem auditOrThrow (entry : AuditLog) : Unaware (AuditLogService.createOrThrow entry : Service χ Unit) := tx log_alike

theorem recordUnless (fault : Option Thrown) (entry : AuditLog) :
    Unaware (IKash.recordUnless fault entry : Service χ Unit) := by
  cases fault with
  | some t => exact pure ()
  | none => exact audit entry

/-! The guards. -/

theorem jwtAuth (mock : Bool) (bearer : Option Token) (paramId : Option String) :
    Unaware (IKash.jwtAuth mock bearer paramId : Service χ AuthUser) := by
  unfold IKash.jwtAuth
  split
  · exact pure _
  refine get_bind (fun _ _ _ => rfl) fun w => bind (orThrow _ _) fun payload => ?_
  unfold JwtStrategy.validate
  split
  · exact bind (read fun _ _ _ => rfl) fun user => bind (orThrow _ _) fun _ => pure _
  · exact pure _

theorem kycVerified (user : AuthUser) : Unaware (IKash.kycVerified user : Service χ Unit) :=
  bind (throwIf _ _) fun _ => bind (read fun _ _ _ => rfl) fun _ => throwIf _ _

theorem resourceOwner (type : ResourceType) (user : AuthUser) (id : String) :
    Unaware (IKash.resourceOwner type user id : Service χ Unit) := by
  refine bind (throwIf _ _) fun _ => bind (throwIf _ _) fun _ => bind (lookup fun _ _ _ => rfl) fun requester => ?_
  split
  · exact pure _
  · refine bind (lookup fun _ _ _ => ?_) fun owners => bind (orThrow _ _) fun _ => throwIf _ _
    cases type <;> rfl

theorem orderOwner (user : AuthUser) (id : String) : Unaware (IKash.orderOwner user id : Service χ Unit) := by
  refine bind (throwIf _ _) fun _ => bind (lookup fun _ _ _ => rfl) fun requester => ?_
  split
  · exact pure _
  · exact bind (lookup fun _ _ _ => rfl) fun order => bind (orThrow _ _) fun _ => throwIf _ _

/-! The accounts. -/

/-- An update that keeps the id. -/
theorem updateUser {data : AppUser → AppUser} (hid : ∀ u, (data u).userId = u.userId) :
    Unaware (IKash.prisma (Prisma.appUser.update k data) : Service χ AppUser) := tx (updateUser_alike hid)

theorem updateAccount {id : String} {data : Except Thrown (AppUser → AppUser)}
    (h : ∀ f, data = .ok f → ∀ u, SameAccount u (f u)) : Unaware (UsersRepository.update id data : Service χ AppUser) := by
  unfold UsersRepository.update
  cases data with
  | error e => exact throw e
  | ok f => exact updateUser fun u => (h f rfl u).userId

theorem refuseIf (c : Prop) [Decidable c] (publicKey : String) (ctx : RequestContext) (reason : String) (e : Thrown) :
    Unaware (AuthService.refuseIf c publicKey ctx reason e : Service χ Unit) := by
  unfold AuthService.refuseIf
  split
  · exact bind (audit _) fun _ => throw e
  · exact pure ()

theorem sign (sub publicKey : String) (setupComplete : Bool) :
    Unaware (AuthService.sign sub publicKey setupComplete : Service χ Token) := by
  intro w w' hw
  obtain ⟨logs, hknown, hchain⟩ := hw
  exact ⟨rfl, World.Relogged.intro (w := ((AuthService.sign sub publicKey setupComplete).run w).2) logs hknown hchain⟩

theorem createChallenge (crypto : Crypto) (expiration : Option ℚ) (dto : CreateAuthChallengeDto) (random : String) :
    Unaware (AuthService.createChallenge crypto expiration dto random : Service χ _) := by
  refine bind (throwIf _ _) fun _ => get_bind (fun _ _ _ => rfl) fun w => ?_
  refine bind (tx challenge_apart.deleteMany_alike) fun _ => ?_
  exact bind (tx challenge_apart.upsert_alike) fun _ => pure _

theorem purgeExpiredChallenges (retentionHours : ℤ) :
    Unaware (AuthService.purgeExpiredChallenges retentionHours : Service χ ℕ) :=
  get_bind (fun _ _ _ => rfl) fun _ => bind (tx challenge_apart.deleteMany_alike) fun _ => pure _

theorem login (crypto : Crypto) (dto : LoginDto) (ctx : RequestContext) (freshId : String) :
    Unaware (AuthService.login crypto dto ctx freshId : Service χ _) := by
  refine bind (throwIf _ _) fun _ => get_bind (fun _ _ _ => rfl) fun w => ?_
  refine bind (lookup fun _ _ _ => rfl) fun stored => bind (refuseIf _ _ _ _ _) fun _ => ?_
  refine bind (ofExcept _) fun signature => bind (refuseIf _ _ _ _ _) fun _ => ?_
  refine bind (tx challenge_apart.updateMany_alike) fun consumed => bind (refuseIf _ _ _ _ _) fun _ => ?_
  refine bind (tx upsertUser_alike) fun user => bind (audit _) fun _ => ?_
  exact bind (sign _ _ _) fun _ => pure _

theorem findByPublicKey (publicKey : String) : Unaware (UsersRepository.findByPublicKey publicKey : Service χ _) :=
  read fun _ _ _ => rfl

theorem getOrCreateAccount (publicKey : Option String) (freshId : String) :
    Unaware (UsersService.getOrCreateAccount publicKey freshId : Service χ _) := by
  refine bind (orThrow _ _) fun publicKey => bind (findByPublicKey _) fun existing => elim ?_ fun _ => pure _
  refine get_bind (fun _ _ _ => rfl) fun w => bind ?_ fun _ => pure _
  exact bind (ofExcept _) fun row => tx createUser_alike

theorem earlyRegister (email : Option Json) : Unaware (UsersService.earlyRegister email : Service χ _) := by
  refine bind (throwIf _ _) fun _ => bind (throwIf _ _) fun _ => bind (orThrow _ _) fun email => ?_
  exact tx waitlist_apart.upsert_alike

theorem createAccount (dto : CreateUserDto) (freshId : String) :
    Unaware (UsersService.create dto freshId : Service χ AppUser) := by
  refine bind (findByPublicKey _) fun existing => bind (throwIf _ _) fun _ => get_bind (fun _ _ _ => rfl) fun w => ?_
  exact bind (ofExcept _) fun row => tx createUser_alike

theorem addPaymentMethod (validator : PaymentMethodValidatorService) (userId : String) (dto : SetupAccountDto)
    (freshId providerId accountIdentifier : String) : Unaware
      (UsersService.addPaymentMethod validator userId dto freshId providerId accountIdentifier : Service χ Unit) := by
  refine bind (lookup fun _ _ _ => rfl) fun provider => bind (orThrow _ _) fun provider => bind (ofExcept _) fun _ => ?_
  exact bind (tx method_apart.create_alike) fun _ => pure _

theorem setupAccount (validator : PaymentMethodValidatorService) (userId : String) (dto : SetupAccountDto)
    (freshId : String) : Unaware (UsersService.setupAccount validator userId dto freshId : Service χ _) := by
  refine bind (updateAccount fun f hf => setupData_same hf) fun updated => ?_
  refine bind (elim (pure _) fun f => addPaymentMethod _ _ _ _ _ _) fun _ => bind (sign _ _ _) fun _ => pure _

theorem checkAlias (id aliasName : String) : Unaware (UsersService.checkAlias id aliasName : Service χ Unit) := by
  refine bind (lookup fun _ _ _ => rfl) fun user => bind (orThrow _ _) fun user => bind ?_ fun _ => throwIf _ _
  unfold UsersService.mayTake
  split
  · exact pure _
  · exact read fun _ _ _ => rfl

theorem updateProfile (id : String) (dto : UpdateUserDto) (callerUserId : String) :
    Unaware (UsersService.update id dto callerUserId : Service χ AppUser) := by
  refine bind (throwIf _ _) fun _ => bind (elim (pure _) fun aliasName => checkAlias id aliasName) fun _ => ?_
  exact get_bind (fun _ _ _ => rfl) fun _ => updateAccount fun f hf => updateData_same hf

theorem uploadProfilePicture (env : Env χ) (user : AuthUser) (id : String) (body : PictureBody) :
    Unaware (UsersController.uploadProfilePicture env user id body) := by
  refine bind (throwIf _ _) fun _ => bind ?_ fun _ => ?_
  · unfold UsersController.ownPicture
    split
    · exact pure _
    · exact bind (throwIf _ _) fun _ => bind (findByPublicKey _) fun _ => throwIf _ _
  refine bind (ofExcept _) fun file => bind (ofExcept _) fun snapshot => ?_
  unfold UsersService.uploadProfilePicture
  split
  · exact bind (external _) fun _ => pure _
  · refine bind (lookup fun _ _ _ => rfl) fun user => bind (orThrow _ _) fun _ => bind (external _) fun uploaded => ?_
    refine bind (updateAccount fun f hf u => ?_) fun _ => pure _
    cases hf
    exact ⟨rfl, rfl, rfl, rfl, fun h => h⟩

/-- The transaction of a removal blanks the addresses of whatever rows are there. -/
theorem removeTx (id : String) (now : ℤ) :
    Svc.TxAlike Db.Relogged (UsersService.removeTx id now) (UsersService.removeTx id now) := by
  refine Svc.TxAlike.bind (lookup_alike fun _ _ _ => rfl) fun user => Svc.TxAlike.bind ?_ fun user => ?_
  · cases user with
    | none => exact Svc.TxAlike.throw _
    | some u => exact Svc.TxAlike.pure u
  refine method_apart.deleteMany_alike.bind fun _ => message_apart.updateMany_alike.bind fun _ => ?_
  refine Svc.TxAlike.bind ?_ fun _ => Svc.TxAlike.bind ?_ fun _ => ?_
  · exact rewriteLogs_alike fun _ => ⟨rfl, rfl⟩
  · cases user.email.filter (· ≠ "") with
    | none => exact Svc.TxAlike.pure ()
    | some email => exact waitlist_apart.deleteMany_alike
  · exact updateUser_alike fun _ => rfl

theorem removeAccount (id callerUserId : String) : Unaware (UsersService.remove id callerUserId : Service χ AppUser) := by
  refine bind (throwIf _ _) fun _ => get_bind (fun _ _ _ => rfl) fun w => bind (tx (removeTx id w.now)) fun _ => ?_
  exact bind (audit _) fun _ => pure _

theorem handleWebhook (env : Env χ) (headers : WebhookHeaders) (rawBody : Option Bytes) (payload : Json) :
    Unaware (KycController.handleWebhook env headers rawBody payload) := by
  refine get_bind (fun _ _ _ => rfl) fun w => bind (ofExcept _) fun _ => ?_
  unfold KycService.processWebhookEvent
  cases KycService.vendorData payload with
  | none => exact pure _
  | some j =>
    refine bind (ofExcept _) fun status => bind (orThrow _ _) fun userId => get_bind (fun _ _ _ => rfl) fun w => ?_
    refine bind (lookup fun _ _ _ => rfl) fun existing => bind (attempt ?_) fun outcome => ?_
    · exact bind (updateUser fun _ => rfl) fun updated => auditOrThrow _
    · cases outcome with
      | ok _ => exact pure _
      | error _ => exact auditOrThrow _

/-! The offers, orders, escrows and payment methods. -/

theorem createOffer (codec : Codec) (dto : CreateOfferDto) (freshId : String) :
    Unaware (OfferService.create codec dto freshId : Service χ Offer) := by
  refine bind (ofExcept _) fun row => bind (tx offer_apart.create_alike) fun created => ?_
  exact bind (audit _) fun _ => pure _

theorem updateOffer (codec : Codec) (id : String) (dto : UpdateOfferDto) :
    Unaware (OfferService.update codec id dto : Service χ Offer) := by
  refine bind (ofExcept _) fun data => bind (tx offer_apart.update_alike) fun updated => ?_
  exact bind (audit _) fun _ => pure _

theorem removeOffer (id : String) : Unaware (OfferService.remove id : Service χ Offer) :=
  bind (tx offer_apart.delete_alike) fun _ => bind (audit _) fun _ => pure _

theorem initializeOnChain (tw : TrustlessWorkService χ) (payload : InitializeMultiReleaseEscrowPayload) :
    Unaware (tw.initializeEscrow payload) := bind (throwIf _ _) fun _ => external _

theorem deployEscrowToChain (tw : TrustlessWorkService χ) (config : EscrowConfig) (orderId : String)
    (dto : EscrowService.DeployDto) : Unaware (EscrowService.deployEscrowToChain tw config orderId dto) := by
  refine bind ?_ fun built => bind ?_ fun contractId => bind (external _) fun _ => pure _
  · exact bind (ofExcept _) fun request => bind (initializeOnChain tw _) fun _ => pure _
  · refine bind (ofExcept _) fun signedXdr => bind (external _) fun result => bind (throwIf _ _) fun _ => ?_
    exact orThrow _ _

theorem createTx (codec : AmountCodec) (orderId freshId contractId : String) (dto : CreateOrderDto) :
    Svc.TxAlike Db.Relogged (OrderService.createTx codec orderId freshId contractId dto)
      (OrderService.createTx codec orderId freshId contractId dto) := by
  refine (Svc.TxAlike.lift _).bind fun row => order_apart.create_alike.bind fun order => ?_
  refine escrow_apart.create_alike.bind fun _ => offer_apart.update_alike.bind fun _ => Svc.TxAlike.pure _

theorem createOrder (tw : TrustlessWorkService χ) (config : EscrowConfig) (codec : AmountCodec) (dto : CreateOrderDto)
    (orderId freshId : String) (faults : DbFaults) :
    Unaware (OrderService.create tw config codec dto orderId freshId faults) := by
  refine bind (deployEscrowToChain tw config orderId _) fun d => ?_
  refine bind (faulty _ (tx (createTx _ _ _ _ _))) fun order => bind (recordUnless _ _) fun _ => pure _

theorem cancelOrder (id userId : String) : Unaware (OrderService.cancel id userId : Service χ Order) := by
  refine bind ?_ fun _ => tx order_apart.update_alike
  refine bind (lookup fun _ _ _ => rfl) fun found => bind (orThrow _ _) fun row => bind (throwIf _ _) fun _ => ?_
  exact bind (throwIf _ _) fun _ => bind (throwIf _ _) fun _ => pure _

theorem patchOrder (codec : Codec) (id : String) (dto : UpdateOrderDto) :
    Unaware (OrderService.update codec id dto : Service χ Order) := by
  refine bind (tx fun db db' hdb => ?_) fun updated => ?_
  · have horders : db'.orders = db.orders := by
      obtain ⟨logs, hknown, -⟩ := hdb
      rfl
    unfold OrderService.updateTx
    rw [horders]
    split
    · exact .error _
    · split
      · exact .error _
      · exact order_apart.update_alike db db' hdb
  · exact bind (elim (pure _) fun entry => audit entry) fun _ => pure _

theorem removeOrder (id : String) : Unaware (OrderService.remove id : Service χ Order) :=
  bind (tx deleteOrder_alike) fun _ => bind (audit _) fun _ => pure _

theorem handleOrder (codec : Codec) (user : AuthUser) (request : OrderRequest) :
    Unaware (OrderController.handle codec user request : Service χ Order) := by
  cases request with
  | cancel id => exact cancelOrder id user.userId
  | update id body =>
    refine bind (kycVerified user) fun _ => bind (orderOwner user id) fun _ => ?_
    exact bind (orThrow _ _) fun dto => patchOrder codec id dto
  | remove id => exact bind (kycVerified user) fun _ => bind (orderOwner user id) fun _ => removeOrder id

theorem getOrFail (id : String) : Unaware (EscrowService.getOrFail id : Service χ EscrowOnChain) :=
  bind (lookup fun _ _ _ => rfl) fun _ => orThrow _ _

theorem findByOrder (orderId : String) : Unaware (EscrowService.findByOrder orderId : Service χ _) :=
  lookup fun _ _ _ => rfl

theorem findUndeployed (fault : Option Thrown) (orderId : String) :
    Unaware (EscrowService.findUndeployed fault orderId : Service χ _) :=
  bind (faulty _ (findByOrder orderId)) fun _ => bind (throwIf _ _) fun _ => pure _

theorem createRow (codec : AmountCodec) (freshId orderId : String) (dto : EscrowService.EscrowParameters)
    (status : EscrowStatus) :
    Unaware (IKash.prisma (EscrowService.createRow codec freshId orderId dto status) : Service χ EscrowOnChain) := by
  refine tx fun db db' hdb => ?_
  unfold EscrowService.createRow
  split
  · exact .error _
  · exact escrow_apart.create_alike db db' hdb

theorem openEscrow (tw : TrustlessWorkService χ) (config : EscrowConfig) (codec : AmountCodec)
    (dto : EscrowService.OpenEscrowDto) (freshId : String) (faults : DbFaults) :
    Unaware (EscrowService.openEscrow tw config codec dto freshId faults) := by
  refine bind (findUndeployed _ _) fun existing => bind (deployEscrowToChain tw config _ _) fun d => ?_
  refine bind ?_ fun escrow => bind (faulty _ (tx escrow_apart.update_alike)) fun _ => bind ?_ fun _ => pure _
  · cases existing with
    | some e => exact pure e
    | none => exact faulty _ (createRow _ _ _ _ _)
  · unfold EscrowService.openAudit
    split
    · exact recordUnless _ _
    · exact pure _

theorem initializeEscrow (tw : TrustlessWorkService χ) (config : EscrowConfig) (codec : AmountCodec)
    (dto : EscrowService.InitializeEscrowDto) (freshId : String) (faults : DbFaults) :
    Unaware (EscrowService.initializeEscrow tw config codec dto freshId faults) := by
  refine bind (bind (ofExcept _) fun _ => findUndeployed _ _) fun _ => ?_
  refine bind (bind (ofExcept _) fun payload => initializeOnChain tw payload) fun unsigned => ?_
  refine bind (faulty _ (findByOrder _)) fun found => bind ?_ fun escrow => bind ?_ fun _ => pure _
  · cases found with
    | none => exact faulty _ (createRow _ _ _ _ _)
    | some e =>
      refine faulty _ (tx fun db db' hdb => ?_)
      unfold EscrowService.updateParameters
      split
      · exact .error _
      · exact escrow_apart.update_alike db db' hdb
  · unfold EscrowService.initializeAudit
    split
    · exact recordUnless _ _
    · exact pure _

theorem syncTransaction (tw : TrustlessWork χ) (dto : SyncEscrowDto) : Unaware (EscrowService.syncTransaction tw dto) := by
  refine bind (bind (getOrFail _) fun escrow => bind (ofExcept _) fun _ => pure _) fun escrow => ?_
  refine bind (bind (external _) fun result => bind (throwIf _ _) fun _ => pure _) fun result => ?_
  refine bind (tx escrow_apart.update_alike) fun _ => bind (elim (pure _) fun entry => audit entry) fun _ => pure _

theorem fund (tw : TrustlessWorkService χ) (dto : EscrowService.FundEscrowDto) : Unaware (EscrowService.fund tw dto) := by
  refine bind (getOrFail _) fun escrow => bind (orThrow _ _) fun contractId => bind (throwIf _ _) fun _ => ?_
  exact bind (external _) fun _ => pure _

theorem release (tw : ReleasingWork χ) (config : EscrowConfig) (dto : EscrowService.ReleaseEscrowDto) :
    Unaware (EscrowService.release tw config dto) := by
  refine bind (getOrFail _) fun escrow => bind (orThrow _ _) fun contractId => bind (throwIf _ _) fun _ => ?_
  refine bind (external _) fun statusRes => bind ?_ fun _ => bind (external _) fun _ => pure _
  unfold EscrowService.autoApprove
  split
  · refine bind (ofExcept _) fun treasury => bind (ofExcept _) fun secret => bind (external _) fun unsigned => ?_
    exact bind (ofExcept _) fun signed => bind (external _) fun result => throwIf _ _
  · exact pure _

theorem markFiatSent (tw : TrustlessWorkService χ) (id : String) (dto : EscrowService.FiatSentDto) :
    Unaware (EscrowService.markFiatSent tw id dto) := by
  refine bind ?_ fun escrow => bind (external _) fun _ => pure _
  exact bind (getOrFail id) fun escrow => bind (throwIf _ _) fun _ => pure _

theorem uploadEvidence (tw : ReleasingWork χ) (id : String) (file : Option UploadFileInput) :
    Unaware (EscrowService.uploadEvidence tw id file) := by
  refine bind (ofExcept _) fun file => bind (getOrFail id) fun escrow => get_bind (fun _ _ _ => rfl) fun w => ?_
  exact bind (external _) fun result => bind (tx escrow_apart.update_alike) fun _ => pure _

theorem createEscrow (dto : EscrowService.CreateEscrowDto) (freshId : String) :
    Unaware (EscrowService.create dto freshId : Service χ EscrowOnChain) :=
  bind (findByOrder _) fun _ => bind (throwIf _ _) fun _ => tx escrow_apart.create_alike

theorem updateEscrow (id : String) (dto : EscrowService.UpdateEscrowDto) :
    Unaware (EscrowService.update id dto : Service χ EscrowOnChain) :=
  bind (ofExcept _) fun _ => tx escrow_apart.update_alike

theorem removeEscrow (id : String) : Unaware (EscrowService.remove id : Service χ EscrowOnChain) :=
  tx escrow_apart.delete_alike

theorem checkProvider (validator : PaymentMethodValidatorService) (providerId accountIdentifier : String) :
    Unaware (PaymentMethodsService.checkProvider validator providerId accountIdentifier : Service χ _) :=
  bind (lookup fun _ _ _ => rfl) fun _ => bind (orThrow _ _) fun _ => bind (ofExcept _) fun _ => pure _

theorem createMethod (validator : PaymentMethodValidatorService) (dto : CreatePaymentMethodDto) (freshId : String) :
    Unaware (PaymentMethodsService.create validator dto freshId : Service χ PaymentMethod) := by
  refine bind (checkProvider _ _ _) fun provider => bind (tx method_apart.create_alike) fun created => ?_
  exact bind (audit _) fun _ => pure _

theorem updateMethod (validator : PaymentMethodValidatorService) (id : String) (dto : UpdatePaymentMethodDto) :
    Unaware (PaymentMethodsService.update validator id dto : Service χ PaymentMethod) := by
  refine bind (lookup fun _ _ _ => rfl) fun existing => bind (orThrow _ _) fun existing => ?_
  refine bind (checkProvider _ _ _) fun provider => bind (tx method_apart.update_alike) fun updated => ?_
  exact bind (audit _) fun _ => pure _

theorem removeMethod (id : String) : Unaware (PaymentMethodsService.remove id : Service χ PaymentMethod) :=
  bind (tx method_apart.delete_alike) fun _ => bind (audit _) fun _ => pure _

/-! The jobs and the listener. -/

theorem processExpiredOrder (tw : TrustlessWork χ) (fault : Option Thrown) (row : OrderWithEscrow) :
    Unaware (OrderService.processExpiredOrder tw fault row) := by
  unfold OrderService.processExpiredOrder
  split
  · exact pure _
  refine bind ?_ fun _ => ?_
  · unfold OrderService.checkBalance
    split
    · exact pure _
    · exact bind (attempt (external _)) fun _ => pure _
  · unfold OrderService.expireWrite
    split
    · exact throw _
    · exact bind (tx order_apart.update_alike) fun _ => pure _

/-- By induction on the orders that the job found. -/
theorem processExpiredOrders (tw : TrustlessWork χ) (faults : String → Option Thrown) :
    ∀ rows, Unaware (OrderService.processExpiredOrders tw faults rows)
  | [] => pure ()
  | row :: rest => bind (attempt (processExpiredOrder tw _ row)) fun _ => processExpiredOrders tw faults rest

theorem expireOrders (tw : TrustlessWork χ) (faults : String → Option Thrown) :
    Unaware (OrderService.expireOrders tw faults) :=
  get_bind (fun _ _ _ => rfl) fun _ => processExpiredOrders tw faults _

open StellarListenerService

/-- A change of what a listener remembers. -/
theorem setListener (inst : ℕ) (f : Listener → Listener) :
    Unaware (Svc.modify fun w => w.setListener inst (f (w.listeners inst)) : Service χ Unit) :=
  modify (fun _ _ hknown => ⟨hknown, rfl⟩) fun _ => rfl

theorem remember (inst : ℕ) (event : OnChainEscrowEvent) :
    Unaware (Svc.modify (StellarListenerService.remember inst event) : Service χ Unit) :=
  setListener inst fun l => { l with processedEventIds := l.processedEventIds.insert (eventKey event) }

theorem advance (inst : ℕ) (ledger : Option ℤ) :
    Unaware (Svc.modify (StellarListenerService.advance inst ledger) : Service χ Unit) := by
  have hadvance : ∀ w : World χ, StellarListenerService.advance inst ledger w = w.setListener inst
      (ledger.elim (w.listeners inst) fun n => if n ≠ 0 ∧ (w.listeners inst).lastProcessedLedger < n then
        { w.listeners inst with lastProcessedLedger := n } else w.listeners inst) := by
    intro w
    have hself : w.setListener inst (w.listeners inst) = w := by
      unfold World.setListener
      rw [Function.update_eq_self]
    unfold StellarListenerService.advance cursor
    cases ledger with
    | none => exact hself.symm
    | some n =>
      dsimp only [Option.elim_some]
      split
      · rfl
      · exact hself.symm
  rw [funext hadvance]
  exact setListener inst fun l => ledger.elim l fun n => if n ≠ 0 ∧ l.lastProcessedLedger < n then
    { l with lastProcessedLedger := n } else l

theorem applyEvent (event : OnChainEscrowEvent) (e : EscrowOnChain) : Svc.TxAlike Db.Relogged
    (StellarListenerService.applyEvent event e) (StellarListenerService.applyEvent event e) :=
  escrow_apart.update_alike.bind fun _ => order_apart.update_alike.bind fun _ => log_alike

theorem findEscrowRecord (event : OnChainEscrowEvent) :
    Unaware (StellarListenerService.findEscrowRecord event : Service χ _) := by
  refine bind (read fun _ _ _ => rfl) fun found => ?_
  split
  · exact pure _
  · refine tx fun db db' hdb => ?_
    have horder : escrowByOrder db' event = escrowByOrder db event := by
      obtain ⟨logs, hknown, -⟩ := hdb
      rfl
    rw [horder]
    cases escrowByOrder db event with
    | error e => exact .error e
    | ok found => exact .ok found hdb

theorem processEvent (inst : ℕ) (fault : Option Thrown) (event : OnChainEscrowEvent) :
    Unaware (StellarListenerService.processEvent inst fault event : Service χ Bool) := by
  refine get_bind (fun _ _ _ => rfl) fun w => ?_
  split
  · exact pure _
  refine bind (findEscrowRecord event) fun found => ?_
  split
  · exact pure _
  · unfold processFound
    split
    · exact bind (remember inst event) fun _ => pure _
    refine bind (ofExcept _) fun _ => bind ?_ fun _ => bind (remember inst event) fun _ => pure _
    unfold commitEvent
    split
    · exact throw _
    · exact tx (applyEvent event _)

theorem handleRaw (inst : ℕ) (fault : Option Thrown) (raw : Json) :
    Unaware (StellarListenerService.handleRaw inst fault raw : Service χ RawOutcome) := by
  unfold StellarListenerService.handleRaw
  split
  · exact pure _
  refine bind (attempt (processEvent inst fault _)) fun result => ?_
  split
  · exact bind (advance inst _) fun _ => pure _
  · exact pure _

/-- By induction on the page. -/
theorem handleRaws (inst : ℕ) : ∀ (faults : ℕ → Option Thrown) raws,
    Unaware (StellarListenerService.handleRaws inst faults raws : Service χ (List RawOutcome))
  | _, [] => pure []
  | faults, raw :: rest => bind (handleRaw inst (faults 0) raw) fun _ =>
      bind (handleRaws inst (fun i => faults (i + 1)) rest) fun _ => pure _

theorem fetchAndProcessNewEvents (rpc : Rpc) (configured : Option String) (inst : ℕ) (faults : PollFaults) :
    Unaware (StellarListenerService.fetchAndProcessNewEvents rpc configured inst faults : Service χ PollReport) := by
  refine bind (get_bind (fun _ _ _ => rfl) fun w => ?_) fun targets => ?_
  · split <;> exact pure _
  split
  · exact pure _
  refine bind (get_bind (fun _ _ _ => rfl) fun w => ?_) fun page => bind (handleRaws inst _ _) fun outcomes => ?_
  · dsimp only
    split <;> exact pure _
  · exact bind (advance inst _) fun _ => pure _

/-- The newest row of an on-chain action is the same. -/
theorem latestAudit_eq {db db' : Db} (h : db.Relogged db') : latestAudit db' = latestAudit db := by
  obtain ⟨logs, hknown, hchain⟩ := h
  have hfind : ∀ l : List AuditLog, (l.reverse.find? fun a => a.action ∈ escrowActions) = (l.filter OnChain).reverse.head? := by
    intro l
    rw [← List.filter_reverse, List.head?_filter]
    rfl
  exact (hfind logs).trans ((congrArg (fun l => l.reverse.head?) hchain).trans (hfind db.auditLogs).symm)

theorem restart (inst : ℕ) (fault : Option Thrown) :
    Unaware (StellarListenerService.restart inst fault : Service χ Unit) := by
  refine bind (setListener inst fun _ => {}) fun _ => Svc.Alike.modify fun w w' hw => ?_
  cases fault with
  | some t => exact hw
  | none =>
    dsimp only
    rw [latestAudit_eq hw.db]
    cases (latestAudit w.db).bind savedLedger with
    | none => exact hw
    | some ledger =>
      obtain ⟨logs, hknown, hchain⟩ := hw
      exact World.Relogged.intro (w := setCursor inst ledger w) logs hknown hchain

end Unaware

end IKash
