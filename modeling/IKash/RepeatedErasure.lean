import IKash.Erasure

/-!
# A second erasure

`UsersService.remove` calls itself idempotent. What a second run finds is already deleted, scrubbed or empty; the time of
deletion is written again.

- `removeTx_isOk`: an account that is there is erased, whatever the database holds;
- `Wiped.again`: a second erasure rewrites the time of deletion, and nothing else;
- `remove_again_iff`: when it leaves the tables as they are.
-/

namespace IKash

open Lib

variable {χ : Type}

/-! ## The steps of the transaction -/

theorem Db.commit_of_refs {α : Type} {t : Tables} (h : t.Refs) (a : α) :
    ∃ db', Db.commit t a = .ok (a, db') ∧ db'.toTables = t := ⟨⟨t, h⟩, Db.commit_eq_ok.mpr ⟨rfl, rfl⟩, rfl⟩

section Steps

variable (db : Db)

theorem paymentMethod_deleteMany_isOk (p : PaymentMethod → Bool) : ∃ db', Prisma.paymentMethod.deleteMany p db = .ok ((), db') ∧
    db'.toTables = { db.toTables with paymentMethods := db.paymentMethods.filter fun m => !p m } := by
  have hrefs : ({ db.toTables with paymentMethods := db.paymentMethods.filter fun m => !p m } : Tables).Refs := { db.refs with
    methodUser := fun m hm => db.refs.methodUser m (List.mem_of_mem_filter hm)
    methodProvider := fun m hm => db.refs.methodProvider m (List.mem_of_mem_filter hm) }
  exact Db.commit_of_refs hrefs ()

theorem waitlist_deleteMany_isOk (p : Waitlist → Bool) : ∃ db', Prisma.waitlist.deleteMany p db = .ok ((), db') ∧
    db'.toTables = { db.toTables with waitlist := db.waitlist.filter fun x => !p x } := by
  have hrefs : ({ db.toTables with waitlist := db.waitlist.filter fun x => !p x } : Tables).Refs := { db.refs with }
  exact Db.commit_of_refs hrefs ()

/-- Rewriting messages is not refused while they keep their order and their sender. -/
theorem chatMessage_updateMany_isOk (p : ChatMessage → Bool) (data : ChatMessage → ChatMessage)
    (keys : ∀ m, SameKeys m (data m)) (hids : ∀ m, (data m).orderId = m.orderId ∧ (data m).senderId = m.senderId) :
    ∃ n db', Prisma.chatMessage.updateMany p data keys db = .ok (n, db') ∧
      db'.toTables = { db.toTables with chatMessages := db'.chatMessages } := by
  have hrefs : ∀ t : Table ChatMessage, t.rows = db.chatMessages.rows.map (fun m => if p m then data m else m) →
      ({ db.toTables with chatMessages := t } : Tables).Refs := by
    intro t ht
    have hrow : ∀ m ∈ t.rows, ∃ m' ∈ db.chatMessages.rows, m.orderId = m'.orderId ∧ m.senderId = m'.senderId := by
      intro m hm
      rw [ht] at hm
      obtain ⟨m', hm', rfl⟩ := List.mem_map.mp hm
      refine ⟨m', hm', ?_⟩
      split
      · exact hids m'
      · exact ⟨rfl, rfl⟩
    refine { db.refs with messageOrder := fun m hm => ?_, messageSender := fun m hm => ?_ }
    · obtain ⟨m', hm', horder, -⟩ := hrow m hm
      rw [horder]
      exact db.refs.messageOrder m' hm'
    · obtain ⟨m', hm', -, hsender⟩ := hrow m hm
      rw [hsender]
      exact db.refs.messageSender m' hm'
  obtain ⟨db', h, htables⟩ := Db.commit_of_refs (hrefs (db.chatMessages.mapKeys _ _) rfl) (db.chatMessages.rows.countP p)
  exact ⟨_, db', h, by rw [htables]⟩

/-- Rewriting audit rows is not refused while they keep their user. -/
theorem auditLog_updateMany_isOk (p : AuditLog → Bool) (data : AuditLog → AuditLog)
    (huser : ∀ a, (data a).userId = a.userId) : ∃ db', Prisma.auditLog.updateMany p data db = .ok ((), db') ∧
      db'.toTables = { db.toTables with auditLogs := db'.auditLogs } := by
  have hrefs : ({ db.toTables with auditLogs := db.auditLogs.map fun a => if p a then data a else a } : Tables).Refs := {
    db.refs with
    auditUser := fun a ha k hk => by
      obtain ⟨a, hmem, rfl⟩ := List.mem_map.mp ha
      refine db.refs.auditUser a hmem k ?_
      split at hk
      · rwa [huser] at hk
      · exact hk }
  obtain ⟨db', h, htables⟩ := Db.commit_of_refs hrefs ()
  exact ⟨db', h, by rw [htables]⟩

/-- An account without its unique columns is taken. -/
theorem appUser_anonymized_isOk {db : Db} {u : AppUser} {k : String} (hu : db.users.find? k = some u) (now : ℤ) :
    ∃ db', Prisma.appUser.update k (anonymized now) db = .ok (anonymized now u, db') := by
  obtain ⟨t, ht⟩ : ∃ t, db.users.replace k (anonymized now u) = some t := by
    refine Table.replace_isSome_of hu rfl fun column hcolumn => ?_
    rcases List.mem_pair.mp hcolumn with rfl | rfl
    · exact Or.inr rfl
    · exact Or.inl rfl
  exact Prisma.appUser_update_of_replace hu rfl ht

end Steps

/-- The row of an empty email is not looked for. -/
theorem waitlist_deleteEmail_isOk (db : Db) (email : Option String) :
    ∃ db', ((email.filter (· ≠ "")).elim (pure ()) fun e => Prisma.waitlist.deleteMany fun x => x.email = e : Tx Unit) db =
      .ok ((), db') ∧ db'.users = db.users := by
  cases email.filter (· ≠ "") with
  | none => exact ⟨db, rfl, rfl⟩
  | some e =>
    obtain ⟨db', h, htables⟩ := waitlist_deleteMany_isOk db fun x => x.email = e
    exact ⟨db', h, by rw [htables]⟩

/-! ## What one removal leaves -/

/-- The two databases differ in the audit log at most. -/
def SameButAudit (db db' : Db) : Prop := db'.toTables = { db.toTables with auditLogs := db'.auditLogs }

theorem create_sameButAudit (entry : AuditLog) (w : World χ) :
    ∃ db, (AuditLogService.create entry).run w = (.ok (), { w with db := db }) ∧ SameButAudit w.db db := by
  unfold AuditLogService.create
  rw [Svc.run_modify]
  cases h : Prisma.auditLog.create entry w.db with
  | ok r =>
    have htables := (Db.commit_eq_ok.mp h).2
    exact ⟨r.2, rfl, by unfold SameButAudit; rw [htables]⟩
  | error e => exact ⟨w.db, rfl, rfl⟩

/-- The rows after a removal, the account's own included; the audit log aside. -/
structure Wiped (u : AppUser) (now : ℤ) (db db' : Db) : Prop where
  frame : db'.toTables = { db.toTables with
    users := db'.users
    paymentMethods := db'.paymentMethods
    chatMessages := db'.chatMessages
    auditLogs := db'.auditLogs
    waitlist := db'.waitlist }
  users : db'.users.rows = db.users.rows.map (Table.atKey u.userId (anonymized now))
  methods : db'.paymentMethods.rows = db.paymentMethods.rows.filter fun m => m.userId ≠ u.userId
  messages : db'.chatMessages.rows =
    db.chatMessages.rows.map fun m => if m.senderId = u.userId then { m with content := "[deleted]" } else m
  waitlist : db'.waitlist.rows = db.waitlist.rows.filter fun x => u.email.filter (· ≠ "") ≠ some x.email

theorem Wiped.sameButAudit {u : AppUser} {now : ℤ} {db db' db'' : Db} (h : Wiped u now db db') (h' : SameButAudit db' db'') :
    Wiped u now db db'' := by
  unfold SameButAudit at h'
  obtain ⟨hframe, husers, hmethods, hmessages, hwaitlist⟩ := h
  refine ⟨?_, ?_, ?_, ?_, ?_⟩
  · rw [h', hframe]
  · rw [h', husers]
  · rw [h', hmethods]
  · rw [h', hmessages]
  · rw [h', hwaitlist]

namespace UsersService

/-- **An account that is there is erased**, whatever the database holds. -/
theorem removeTx_isOk {id : String} {u : AppUser} {db : Db} (hu : userById db id = some u) (now : ℤ) :
    ∃ db', removeTx id now db = .ok (anonymized now u, db') ∧ Wiped u now db db' := by
  have hread : Prisma.appUser.findUnique (uuid id) db = .ok (some u, db) := lookup_of_some hu
  have hfound : ((some u).elim (throw (userNotFound id)) pure : Tx AppUser) db = .ok (u, db) := rfl
  obtain ⟨db₁, h₁, t₁⟩ := paymentMethod_deleteMany_isOk db fun m => m.userId = uuid id
  obtain ⟨n, db₂, h₂, t₂⟩ := chatMessage_updateMany_isOk db₁ (fun m => m.senderId = uuid id)
    (fun m => { m with content := "[deleted]" }) (fun _ => ⟨rfl, fun _ h => (List.not_mem_nil h).elim⟩) fun _ => ⟨rfl, rfl⟩
  obtain ⟨db₃, h₃, t₃⟩ := auditLog_updateMany_isOk db₂ (fun a => a.userId = some (uuid id))
    (fun a => { a with ipAddress := none, userAgent := none }) fun _ => rfl
  obtain ⟨db₄, h₄, t₄⟩ := waitlist_deleteEmail_isOk db₃ u.email
  have husers : db₄.users = db.users := by rw [t₄, t₃, t₂, t₁]
  have hstored : db₄.users.find? (uuid id) = some u := by rwa [husers]
  obtain ⟨db₅, h₅⟩ := appUser_anonymized_isOk hstored now
  have hrun : removeTx id now db = .ok (anonymized now u, db₅) := by
    unfold removeTx
    rw [Tx.bind_ok hread, Tx.bind_ok hfound, Tx.bind_ok h₁, Tx.bind_ok h₂, Tx.bind_ok h₃, Tx.bind_ok h₄, h₅]
  obtain ⟨u', hu', hremoved⟩ := of_removeTx_ok hrun
  obtain rfl : u = u' := Option.some.inj (hu.symm.trans hu')
  obtain ⟨-, -, -, -, hrows⟩ := Delegate.of_update h₅
  have hkey : uuid id = u.userId := (Table.key_of_find? hu).symm
  refine ⟨db₅, hrun, hremoved.frame, ?_, hremoved.methods, hremoved.messages, hremoved.waitlist⟩
  rw [← hkey, ← husers]
  exact hrows

/-- The caller is the account, and it is there. -/
def MayErase (id caller : String) (db : Db) : Prop := caller ≠ "" ∧ caller = id ∧ userById db id ≠ none

/-- A removal is refused and leaves everything, or it erases the account. -/
theorem remove_cases (id caller : String) (w : World χ) :
    (¬ MayErase id caller w.db ∧ ((remove id caller).run w).2 = w) ∨
    ∃ u db, MayErase id caller w.db ∧ userById w.db id = some u ∧ ((remove id caller).run w).2 = { w with db := db } ∧
      Wiped u w.now w.db db := by
  unfold remove
  by_cases hcaller : caller = "" ∨ caller ≠ id
  · left
    rw [Svc.run_bind_error (Svc.run_throwIf_pos hcaller _ _)]
    exact ⟨fun h => hcaller.elim h.1 fun hne => hne h.2.1, rfl⟩
  · obtain ⟨hne, hid⟩ := not_or.mp hcaller
    rw [Svc.run_bind_ok (Svc.run_throwIf_neg hcaller _ _), Svc.run_bind_ok (Svc.run_get _)]
    cases hu : userById w.db id with
    | none =>
      left
      obtain ⟨t, htx⟩ : ∃ t, removeTx id w.now w.db = .error t := by
        cases h : removeTx id w.now w.db with
        | error t => exact ⟨t, rfl⟩
        | ok r =>
          obtain ⟨u, hu', -⟩ := of_removeTx_ok h
          cases hu.symm.trans hu'
      rw [Svc.run_bind_error (prisma_run_error htx)]
      exact ⟨fun h => h.2.2 hu, rfl⟩
    | some u =>
      right
      obtain ⟨db, htx, hwiped⟩ := removeTx_isOk hu w.now
      obtain ⟨db', hrun, hsame⟩ := create_sameButAudit (dataEntry .userDataDeleted id) { w with db := db }
      rw [Svc.run_bind_ok (prisma_run_ok htx), Svc.run_bind_ok hrun]
      exact ⟨u, db', ⟨hne, not_not.mp hid, by rw [hu]; exact Option.some_ne_none u⟩, rfl, rfl, hwiped.sameButAudit hsame⟩

end UsersService

/-! ## The second removal -/

/-- **A second erasure** rewrites the time of deletion, and nothing else. -/
theorem Wiped.again {u : AppUser} {now t : ℤ} {db db₁ db₂ : Db} (h₁ : Wiped u now db db₁)
    (h₂ : Wiped (anonymized now u) t db₁ db₂) :
    db₂.toTables = { db₁.toTables with users := db₂.users, auditLogs := db₂.auditLogs } ∧
      db₂.users.rows = db₁.users.rows.map (Table.atKey u.userId fun x => { x with deletedAt := some t }) := by
  have hmethods : db₂.paymentMethods = db₁.paymentMethods := by
    refine Table.eq_of_rows ?_
    rw [h₂.methods, h₁.methods]
    refine List.filter_eq_self.mpr fun m hm => ?_
    exact (List.mem_filter.mp hm).2
  have hmessages : db₂.chatMessages = db₁.chatMessages := by
    refine Table.eq_of_rows ?_
    rw [h₂.messages, h₁.messages, List.map_map]
    refine List.map_congr_left fun m _ => ?_
    by_cases hm : m.senderId = u.userId
    · simp [anonymized, hm]
    · simp [anonymized, hm]
  have hwaitlist : db₂.waitlist = db₁.waitlist := by
    refine Table.eq_of_rows ?_
    rw [h₂.waitlist]
    exact List.filter_eq_self.mpr fun x _ => by simp [anonymized]
  refine ⟨?_, ?_⟩
  · rw [h₂.frame, hmethods, hmessages, hwaitlist]
  · rw [h₂.users, h₁.users, List.map_map, List.map_map]
    refine List.map_congr_left fun x _ => ?_
    show Table.atKey u.userId (anonymized t) _ = Table.atKey u.userId _ _
    by_cases hx : Keyed.key x = u.userId
    · have hkept : Keyed.key (anonymized now x) = u.userId := hx
      rw [Table.atKey_eq hx, Table.atKey_eq hkept, Table.atKey_eq hkept]
      rfl
    · rw [Table.atKey_ne hx, Table.atKey_ne hx, Table.atKey_ne hx]

theorem Wiped.find_self {id : String} {u : AppUser} {now : ℤ} {db db' : Db} (h : Wiped u now db db')
    (hu : userById db id = some u) : userById db' id = some (anonymized now u) := by
  unfold userById at hu ⊢
  rw [Table.find?_map h.users (Table.atKey_column _ fun _ => rfl), hu]
  exact congrArg some (Table.atKey_eq rfl)

theorem Wiped.sameButAudit_iff {id : String} {u : AppUser} {now t : ℤ} {db db₁ db₂ : Db} (hu : userById db id = some u)
    (h₁ : Wiped u now db db₁) (h₂ : Wiped (anonymized now u) t db₁ db₂) : SameButAudit db₁ db₂ ↔ t = now := by
  obtain ⟨hframe, husers⟩ := h₁.again h₂
  have hu₁ := h₁.find_self hu
  have hu₂ := h₂.find_self hu₁
  constructor
  · intro hsame
    have hkept : db₂.users = db₁.users := by
      unfold SameButAudit at hsame
      rw [hsame]
    unfold userById at hu₁ hu₂
    rw [hkept, hu₁] at hu₂
    exact (Option.some.inj (congrArg AppUser.deletedAt (Option.some.inj hu₂))).symm
  · rintro rfl
    -- the only row that is written has the time already
    have hmem := Table.find?_eq_some.mp hu₁
    have hkept : db₂.users = db₁.users := by
      refine Table.eq_of_rows (husers.trans ((List.map_congr_left fun x hx => ?_).trans (List.map_id _)))
      by_cases hkey : Keyed.key x = u.userId
      · have hself : x = anonymized t u := Table.eq_of_clash hx hmem.1 (Or.inl hkey)
        rw [Table.atKey_eq hkey, hself]
        rfl
      · exact Table.atKey_ne hkey
    unfold SameButAudit
    rw [hframe, hkept]

namespace UsersService

/-- The world after two removals, the second at the time `t`. -/
def removedTwice (id caller : String) (t : ℤ) (w : World χ) : World χ :=
  ((remove id caller).run { ((remove id caller).run w).2 with now := t }).2

/-- **A second removal** leaves every table but the audit log as the first one left it exactly when there is nothing to
erase, or when it runs at the same time. -/
theorem remove_again_iff (id caller : String) (t : ℤ) (w : World χ) :
    SameButAudit ((remove id caller).run w).2.db (removedTwice id caller t w).db ↔
      ¬ MayErase id caller w.db ∨ t = w.now := by
  unfold removedTwice
  rcases remove_cases id caller w with ⟨hnot, hrun⟩ | ⟨u, db₁, hmay, hu, hrun, h₁⟩
  · rw [hrun]
    rcases remove_cases id caller { w with now := t } with ⟨-, hrun'⟩ | ⟨_, _, hmay, -⟩
    · rw [hrun']
      exact iff_of_true rfl (Or.inl hnot)
    · exact absurd hmay hnot
  · rw [hrun, or_iff_right (not_not.mpr hmay)]
    have hu₁ := h₁.find_self hu
    rcases remove_cases id caller { w with db := db₁, now := t } with ⟨hnot, -⟩ | ⟨u', db₂, -, hu', hrun', h₂⟩
    · exact absurd ⟨hmay.1, hmay.2.1, by rw [hu₁]; exact Option.some_ne_none _⟩ hnot
    · obtain rfl : anonymized w.now u = u' := Option.some.inj (hu₁.symm.trans hu')
      rw [hrun']
      exact h₁.sameButAudit_iff hu h₂

end UsersService

namespace Wallets

/-- The buyer is erased, and again one millisecond later. -/
theorem buyer_removed_again :
    ¬ SameButAudit ((UsersService.remove buyerId buyerId).run ((accounts env).run world registered)).2.db
      (UsersService.removedTwice buyerId buyerId 1001 ((accounts env).run world registered)).db := by
  rw [registered, run_logins]
  have hfirst : ((((UsersService.remove buyerId buyerId).run
      ((accounts env).run loggedIn registration)).2.db.users.find? buyerId).map AppUser.deletedAt) =
        some (some 1000) := by decide
  have hsecond : (((UsersService.removedTwice buyerId buyerId 1001
      ((accounts env).run loggedIn registration)).db.users.find? buyerId).map AppUser.deletedAt) =
        some (some 1001) := by decide
  intro hsame
  unfold SameButAudit at hsame
  rw [hsame] at hsecond
  cases hfirst.symm.trans hsecond

end Wallets

end IKash
