import IKash.Accounts

/-!
# What an erasure leaves

`UsersService.remove` looks for the audit rows of an account by their `userId`; a login is recorded with the public key as
the resource, and with no `userId`.

- `of_removeTx_ok`: the rows after the transaction, table by table;
- `erased_iff`: nothing is left exactly when every row about the account that carries an address has its `userId`.
-/

namespace IKash

open Lib

variable {χ : Type}

/-- The audit row is about the account: by the user, or by the resource. -/
def About (u : AppUser) (a : AuditLog) : Prop :=
  a.userId = some u.userId ∨ a.resourceType = "User" ∧ (a.resourceId = some u.userId ∨ a.resourceId = some u.publicKey)

def Unaddressed (a : AuditLog) : Prop := a.ipAddress = none ∧ a.userAgent = none

instance (u : AppUser) (a : AuditLog) : Decidable (About u a) := inferInstanceAs (Decidable (_ ∨ _))

instance (a : AuditLog) : Decidable (Unaddressed a) := inferInstanceAs (Decidable (_ ∧ _))

/-- Nothing personal of the account is left. -/
structure Erased (u : AppUser) (db : Db) : Prop where
  audit : ∀ a ∈ db.auditLogs, About u a → Unaddressed a
  methods : ∀ m ∈ db.paymentMethods.rows, m.userId ≠ u.userId
  messages : ∀ m ∈ db.chatMessages.rows, m.senderId = u.userId → m.content = "[deleted]"
  waitlist : ∀ email ∈ u.email, db.waitlist.find? email = none

/-- The audit row without the address. -/
def withoutAddress (a : AuditLog) : AuditLog := { a with ipAddress := none, userAgent := none }

namespace UsersService

/-- The rows after the transaction of a removal, but for the account's own. -/
structure Removed (u : AppUser) (db db' : Db) : Prop where
  frame : db'.toTables = { db.toTables with
    users := db'.users
    paymentMethods := db'.paymentMethods
    chatMessages := db'.chatMessages
    auditLogs := db'.auditLogs
    waitlist := db'.waitlist }
  methods : db'.paymentMethods.rows = db.paymentMethods.rows.filter fun m => m.userId ≠ u.userId
  messages : db'.chatMessages.rows =
    db.chatMessages.rows.map fun m => if m.senderId = u.userId then { m with content := "[deleted]" } else m
  audit : db'.auditLogs = db.auditLogs.map fun a => if a.userId = some u.userId then withoutAddress a else a
  waitlist : db'.waitlist.rows = db.waitlist.rows.filter fun x => u.email.filter (· ≠ "") ≠ some x.email

theorem of_removeTx_ok {id : String} {now : ℤ} {r : AppUser} {db db' : Db} (h : removeTx id now db = .ok (r, db')) :
    ∃ u, userById db id = some u ∧ Removed u db db' := by
  unfold removeTx at h
  obtain ⟨found, db₁, h₁, t₁⟩ := Tx.of_bind_ok h
  obtain ⟨user, db₂, h₂, t₂⟩ := Tx.of_bind_ok t₁
  obtain ⟨_, db₃, h₃, t₃⟩ := Tx.of_bind_ok t₂
  obtain ⟨_, db₄, h₄, t₄⟩ := Tx.of_bind_ok t₃
  obtain ⟨_, db₅, h₅, t₅⟩ := Tx.of_bind_ok t₄
  obtain ⟨_, db₆, h₆, t₆⟩ := Tx.of_bind_ok t₅
  obtain ⟨hu, rfl⟩ : userById db id = some user ∧ db₂ = db := of_lookup_elim_ok h₁ h₂
  have hid : uuid id = user.userId := (Table.key_of_find? hu).symm
  rw [hid] at h₃ h₄ h₅
  have hmethods := Delegate.deleteMany_eq_ok.mp h₃
  have hmessages := (Db.commit_eq_ok.mp h₄).2
  have haudit := (Db.commit_eq_ok.mp h₅).2
  obtain ⟨-, -, -, huser, -⟩ := Delegate.of_update t₆
  have hwaitlist : db₆.waitlist.rows = db₅.waitlist.rows.filter (fun x => user.email.filter (· ≠ "") ≠ some x.email) ∧
      db₆.toTables = { db₅.toTables with waitlist := db₆.waitlist } := by
    cases he : user.email.filter (· ≠ "") with
    | none =>
      rw [he] at h₆
      cases h₆
      refine ⟨(List.filter_eq_self.mpr fun x _ => ?_).symm, rfl⟩
      simp
    | some email =>
      rw [he] at h₆
      have htables := Delegate.deleteMany_eq_ok.mp h₆
      refine ⟨?_, by rw [htables]; rfl⟩
      rw [htables]
      refine List.filter_congr fun x _ => ?_
      simp [eq_comm]
  refine ⟨user, hu, ?_, ?_, ?_, ?_, ?_⟩
  · rw [huser, hwaitlist.2, haudit, hmessages, hmethods]
    rfl
  · rw [huser]
    show db₆.paymentMethods.rows = _
    rw [hwaitlist.2, haudit, hmessages]
    show db₃.paymentMethods.rows = _
    rw [hmethods]
    exact List.filter_congr fun m _ => (decide_not ..).symm
  · rw [huser]
    show db₆.chatMessages.rows = _
    rw [hwaitlist.2, haudit, hmessages]
    show List.map _ db₃.chatMessages.rows = _
    rw [hmethods]
    show List.map _ db₂.chatMessages.rows = _
    simp
  · rw [huser]
    show db₆.auditLogs = _
    rw [hwaitlist.2, haudit]
    show List.map _ db₄.auditLogs = _
    rw [hmessages]
    show List.map _ db₃.auditLogs = _
    rw [hmethods]
    show List.map _ db₂.auditLogs = _
    simp [withoutAddress]
  · rw [huser]
    show db₆.waitlist.rows = _
    rw [hwaitlist.1, haudit]
    show List.filter _ db₄.waitlist.rows = _
    rw [hmessages]
    show List.filter _ db₃.waitlist.rows = _
    rw [hmethods]
    rfl

/-- What a removal that succeeds leaves; its own record carries no address. -/
theorem of_remove_ok {id caller : String} {r : AppUser} {w w' : World χ} (h : (remove id caller).run w = (.ok r, w')) :
    ∃ u db, userById w.db id = some u ∧ Removed u w.db db ∧ w'.db.auditLogs = db.auditLogs ++ [dataEntry .userDataDeleted id] ∧
      w'.db.paymentMethods = db.paymentMethods ∧ w'.db.chatMessages = db.chatMessages ∧ w'.db.waitlist = db.waitlist := by
  unfold remove at h
  obtain ⟨_, w₀, hown, h₁⟩ := Svc.of_run_bind_ok h
  obtain ⟨-, rfl⟩ := Svc.of_run_throwIf_ok hown
  rw [Svc.run_bind_ok (Svc.run_get _)] at h₁
  obtain ⟨user, _, htx, h₂⟩ := Svc.of_run_bind_ok h₁
  obtain ⟨db, hdb, rfl⟩ := of_prisma_run_ok htx
  obtain ⟨u, hu, hremoved⟩ := of_removeTx_ok hdb
  have hentry : ∀ k ∈ (dataEntry .userDataDeleted id).userId, db.users.Has k := fun k hk => by cases hk
  obtain ⟨db', hrun, hre, hadded⟩ :=
    AuditLogService.create_of_has (show ∀ k ∈ _, ({ w₀ with db := db } : World χ).db.users.Has k from hentry)
  rw [Svc.run_bind_ok hrun] at h₂
  cases h₂
  exact ⟨u, db, hu, hremoved, hadded, by rw [hre.frame], by rw [hre.frame], by rw [hre.frame]⟩

end UsersService

/-- The audit rows that a removal does not look at carry no address, and there is no row for an empty email. -/
def Traceless (u : AppUser) (db : Db) : Prop :=
  (∀ a ∈ db.auditLogs, a.userId ≠ some u.userId → About u a → Unaddressed a) ∧
    (u.email = some "" → db.waitlist.find? "" = none)

section Audit

variable {u : AppUser} {db db' : Db} {a : AuditLog}

theorem unaddressed_withoutAddress (a : AuditLog) : Unaddressed (withoutAddress a) := ⟨rfl, rfl⟩

/-- After the transaction, the rows with an address are those that it did not look at. -/
theorem UsersService.Removed.audit_iff (h : UsersService.Removed u db db') : (∀ a ∈ db'.auditLogs, About u a → Unaddressed a) ↔
    ∀ a ∈ db.auditLogs, a.userId ≠ some u.userId → About u a → Unaddressed a := by
  rw [h.audit, List.forall_mem_map]
  refine forall₂_congr fun a _ => ?_
  by_cases ha : a.userId = some u.userId
  · rw [if_pos ha]
    exact iff_of_true (fun _ => unaddressed_withoutAddress a) fun hne => absurd ha hne
  · rw [if_neg ha]
    exact ⟨fun h _ => h, fun h => h ha⟩

/-- The row of the email is gone, unless the email is empty and its row was there. -/
theorem UsersService.Removed.waitlist_iff (h : UsersService.Removed u db db') : (∀ email ∈ u.email, db'.waitlist.find? email = none) ↔
    (u.email = some "" → db.waitlist.find? "" = none) := by
  have hfind : ∀ email, db'.waitlist.find? email = none ↔
      ∀ x ∈ db.waitlist.rows, x.email = email → u.email.filter (· ≠ "") = some email := by
    intro email
    rw [Table.find?_eq_none, h.waitlist]
    constructor
    · intro hnone x hx he
      by_contra hne
      exact hnone x (List.mem_filter.mpr ⟨hx, decide_eq_true (he ▸ hne)⟩) he
    · intro hall x hx he
      obtain ⟨hx, hp⟩ := List.mem_filter.mp hx
      subst he
      exact of_decide_eq_true hp (hall x hx rfl)
  constructor
  · intro hnone hempty
    refine Table.find?_eq_none.mpr fun x hx he => ?_
    have := (hfind "").mp (hnone "" hempty) x hx he
    simp [hempty] at this
  · intro hempty email hemail
    refine (hfind email).mpr fun x hx he => ?_
    have hne : email ≠ "" := by
      rintro rfl
      exact Table.find?_eq_none.mp (hempty hemail) x hx he
    rw [Option.mem_def.mp hemail]
    simp [hne]

end Audit

/-- **An erasure is complete** exactly when no audit row that it does not look at carries an address of the account. -/
theorem erased_iff {id caller : String} {r u : AppUser} {w w' : World χ} (hu : userById w.db id = some u)
    (h : (UsersService.remove id caller).run w = (.ok r, w')) : Erased u w'.db ↔ Traceless u w.db := by
  obtain ⟨u', db, hu', hremoved, haudit, hmethods, hmessages, hwaitlist⟩ := UsersService.of_remove_ok h
  obtain rfl : u = u' := Option.some.inj (hu.symm.trans hu')
  have hrecord : (∀ a ∈ w'.db.auditLogs, About u a → Unaddressed a) ↔ ∀ a ∈ db.auditLogs, About u a → Unaddressed a := by
    rw [haudit, List.forall_mem_append]
    exact and_iff_left fun a ha _ => by rw [List.mem_singleton.mp ha]; exact ⟨rfl, rfl⟩
  constructor
  · intro herased
    refine ⟨hremoved.audit_iff.mp (hrecord.mp herased.audit), hremoved.waitlist_iff.mp ?_⟩
    rw [← hwaitlist]
    exact herased.waitlist
  · rintro ⟨hrows, hempty⟩
    refine ⟨hrecord.mpr (hremoved.audit_iff.mpr hrows), ?_, ?_, ?_⟩
    · rw [hmethods, hremoved.methods]
      exact fun m hm => of_decide_eq_true (List.mem_filter.mp hm).2
    · rw [hmessages, hremoved.messages]
      intro m hm hsender
      obtain ⟨m₀, -, rfl⟩ := List.mem_map.mp hm
      by_cases hm₀ : m₀.senderId = u.userId
      · rw [if_pos hm₀]
      · rw [if_neg hm₀] at hsender
        exact absurd hsender hm₀
    · rw [hwaitlist]
      exact hremoved.waitlist_iff.mpr hempty

namespace Wallets

/-- The buyer registers an email, and gives it to its account. -/
def registration : List AccountRequest := [
  { time := 1000, route := .earlyRegister (some (.str "buyer@example.com")) },
  { time := 1000, bearer := some buyerToken, route := .update buyerId { email := .value "buyer@example.com" } }]

/-- After a login without an address. -/
def registered : List AccountRequest := logins ++ registration

theorem registered_erased : ∃ u r, userById ((accounts env).run world registered).db buyerId = some u ∧
    u.email = some "buyer@example.com" ∧
    ((UsersService.remove buyerId buyerId).run ((accounts env).run world registered)).1 = .ok r ∧
    Erased u ((UsersService.remove buyerId buyerId).run ((accounts env).run world registered)).2.db := by
  rw [registered, run_logins]
  have hsucceeds : ((UsersService.remove buyerId buyerId).run
      ((accounts env).run loggedIn registration)).1.toOption.isSome = true := by decide
  have hu : userById ((accounts env).run loggedIn registration).db buyerId = some
      { userId := buyerId, publicKey := buyerKey, createdAt := 1000, email := some "buyer@example.com" } := by decide
  rcases h : (UsersService.remove buyerId buyerId).run ((accounts env).run loggedIn registration) with ⟨r | r, w'⟩
  · rw [h] at hsucceeds
    cases hsucceeds
  · exact ⟨_, r, hu, rfl, rfl, (erased_iff hu h).mpr ⟨by decide, by decide⟩⟩

/-- The seller's account is opened, and the seller fails to log in. -/
def failedLogin : List AccountRequest := [
  { time := 0, route := .getOrCreate (some sellerKey) sellerId },
  { time := 0, route := .login ⟨sellerKey, challenge, signature⟩ { ipAddress := some "10.0.0.1" } buyerId }]

/-- The seller erases its account. -/
def erasing : Except Thrown AppUser × World Unit :=
  (UsersService.remove sellerId sellerId).run ((accounts Wallets.env).run world failedLogin)

/-- The erasure succeeds, and the address of the failed login stays. -/
theorem address_left : ∃ u r, userById ((accounts Wallets.env).run world failedLogin).db sellerId = some u ∧
    erasing.1 = .ok r ∧ ¬ Erased u erasing.2.db := by
  have hopened : userById ((accounts Wallets.env).run world failedLogin).db sellerId =
      some { userId := sellerId, publicKey := sellerKey } := by decide
  have hsucceeds : erasing.1.toOption.isSome = true := by decide
  have hleft : ∃ a ∈ erasing.2.db.auditLogs, (a.resourceType = "User" ∧ a.resourceId = some sellerKey) ∧
      a.ipAddress = some "10.0.0.1" := by decide
  obtain ⟨r, hr⟩ : ∃ r, erasing.1 = .ok r := by
    cases h : erasing.1 with
    | ok r => exact ⟨r, rfl⟩
    | error e => rw [h] at hsucceeds; cases hsucceeds
  refine ⟨_, r, hopened, hr, fun herased => ?_⟩
  obtain ⟨a, ha, ⟨htype, hid⟩, haddress⟩ := hleft
  have hnone := (herased.audit a ha (Or.inr ⟨htype, Or.inr hid⟩)).1
  rw [haddress] at hnone
  cases hnone

end Wallets

end IKash
