import IKash.RepeatedErasure
import IKash.Statements

/-!
# What an export shows after a removal

`exportUserData` answers with the data footprint of an account, and `remove` erases one. An export after a removal shows
what the export before it would have shown, erased: nothing that `remove` scrubs is missing from the export.

- `exportUserData_eq`: the answer of an export, by what the database holds;
- `Removal.exported`: the footprint of an account after the removal of another or of itself;
- `export_after_removal`: every export after every removal, refused or not.
-/

namespace IKash

open Lib UsersService UsersRepository

variable {χ : Type}

/-! ## Exports -/

/-- The footprint of an account. -/
def exported (db : Db) (u : AppUser) : ExportData :=
  { exportData db u with waitlist := (u.email.filter (· ≠ "")).bind db.waitlist.find? }

/-- What an account that is not there is answered with. -/
def absent (id : String) : Thrown := if isUuid id then userNotFound id else .prisma .inconsistentColumnData

theorem findExportData_none {id : String} {w : World χ} (h : userById w.db id = none) :
    ∃ o : Except Thrown (Option ExportData), (findExportData id).run w = (o, w) ∧
      (o = .ok none ∧ absent id = userNotFound id ∨ o = .error (absent id)) := by
  have hnone : lookup (isUuid id) (fun db => (userById db id).map (exportData db)) w.db = _ :=
    lookup_of_none _ (by rw [h]; rfl)
  unfold absent
  cases hid : isUuid id with
  | true =>
    rw [hid] at hnone
    exact ⟨.ok none, by unfold findExportData; rw [hid]; exact prisma_run_ok hnone, Or.inl ⟨rfl, rfl⟩⟩
  | false =>
    rw [hid] at hnone
    exact ⟨_, by unfold findExportData; rw [hid]; exact prisma_run_error hnone, Or.inr rfl⟩

theorem findExportData_some {id : String} {u : AppUser} {w : World χ} (h : userById w.db id = some u) :
    (findExportData id).run w = (.ok (some (exportData w.db u)), w) :=
  prisma_lookup_of_some (by rw [h]; rfl)

theorem exportUserData_eq (id caller : String) (w : World χ) :
    ((exportUserData id caller).run w).1 =
      if caller = "" ∨ caller ≠ id then .error (.app .unauthorizedAction "You can only export your own data.")
      else (userById w.db id).elim (.error (absent id)) fun u => .ok (exported w.db u) := by
  unfold exportUserData
  by_cases hcaller : caller = "" ∨ caller ≠ id
  · rw [Svc.run_bind_error (Svc.run_throwIf_pos hcaller _ _), if_pos hcaller]
  · rw [Svc.run_bind_ok (Svc.run_throwIf_neg hcaller _ _), if_neg hcaller]
    cases hu : userById w.db id with
    | none =>
      obtain ⟨o, hrun, ⟨rfl, habsent⟩ | rfl⟩ := findExportData_none hu
      · rw [Svc.run_bind_ok hrun, habsent]
        rfl
      · rw [Svc.run_bind_error hrun]
        rfl
    | some u =>
      rw [Svc.run_bind_ok (findExportData_some hu), Svc.run_bind_ok (Svc.run_orThrow_some _ _ _)]
      rfl

/-- What an export leaves: a record, if it was not refused. -/
theorem exportUserData_state (id caller : String) (w : World χ) :
    ((exportUserData id caller).run w).2 =
      if caller = "" ∨ caller ≠ id then w
      else (userById w.db id).elim w fun _ => ((AuditLogService.create (dataEntry .userDataExported id)).run w).2 := by
  unfold exportUserData
  by_cases hcaller : caller = "" ∨ caller ≠ id
  · rw [Svc.run_bind_error (Svc.run_throwIf_pos hcaller _ _), if_pos hcaller]
  · rw [Svc.run_bind_ok (Svc.run_throwIf_neg hcaller _ _), if_neg hcaller]
    cases hu : userById w.db id with
    | none =>
      obtain ⟨o, hrun, ⟨rfl, -⟩ | rfl⟩ := findExportData_none hu
      · rw [Svc.run_bind_ok hrun]
        rfl
      · rw [Svc.run_bind_error hrun]
        rfl
    | some u =>
      rw [Svc.run_bind_ok (findExportData_some hu), Svc.run_bind_ok (Svc.run_orThrow_some _ _ _)]
      rfl

/-! ## Removals -/

/-- The database after a removal: the transaction, and the record about it. -/
structure Removal (u : AppUser) (now : ℤ) (db db' : Db) : Prop where
  users : db'.users.rows = db.users.rows.map (Table.atKey u.userId (anonymized now))
  offers : db'.offers = db.offers
  orders : db'.orders = db.orders
  methods : db'.paymentMethods.rows = db.paymentMethods.rows.filter fun m => m.userId ≠ u.userId
  messages : db'.chatMessages.rows = db.chatMessages.rows.map fun m => if m.senderId = u.userId then blanked m else m
  audit : ∃ entry : AuditLog, entry.userId = none ∧
    db'.auditLogs = (db.auditLogs.map fun a => if a.userId = some u.userId then withoutAddress a else a) ++ [entry]
  waitlist : db'.waitlist.rows = db.waitlist.rows.filter fun x => u.email.filter (· ≠ "") ≠ some x.email

/-- The account that a removal erases. -/
def removes (id caller : String) (db : Db) : Option AppUser :=
  if caller = "" ∨ caller ≠ id then none else userById db id

/-- A removal is refused and leaves everything, or it is one. -/
theorem removal_cases (id caller : String) (w : World χ) :
    (removes id caller w.db = none ∧ ((remove id caller).run w).2 = w) ∨
    ∃ u db, removes id caller w.db = some u ∧ ((remove id caller).run w).2 = { w with db := db } ∧
      Removal u w.now w.db db := by
  rcases remove_cases id caller w with ⟨hnot, hrun⟩ | ⟨u, -, hmay, hu, -, -⟩
  · refine Or.inl ⟨?_, hrun⟩
    unfold removes
    split
    · rfl
    · rename_i hcaller
      obtain ⟨hne, hid⟩ := not_or.mp hcaller
      cases hu : userById w.db id with
      | none => rfl
      | some u => exact absurd ⟨hne, not_not.mp hid, by rw [hu]; exact Option.some_ne_none u⟩ hnot
  · right
    have hcaller : ¬ (caller = "" ∨ caller ≠ id) := not_or.mpr ⟨hmay.1, not_not.mpr hmay.2.1⟩
    obtain ⟨db₁, htx, hwiped⟩ := removeTx_isOk hu w.now
    obtain ⟨u', hu', hremoved⟩ := of_removeTx_ok htx
    obtain rfl : u = u' := Option.some.inj (hu.symm.trans hu')
    have hentry : ∀ k ∈ (dataEntry .userDataDeleted id).userId, db₁.users.Has k := fun k hk => by cases hk
    obtain ⟨db, hcreate, htables⟩ := Prisma.auditLog_create_of_has hentry
    have hrun : (remove id caller).run w = (.ok (anonymized w.now u), { w with db := db }) := by
      have haudit : (AuditLogService.create (dataEntry .userDataDeleted id)).run { w with db := db₁ } =
          (.ok (), { w with db := db }) := by
        unfold AuditLogService.create
        rw [Svc.run_modify]
        simp only [hcreate]
      unfold remove
      rw [Svc.run_bind_ok (Svc.run_throwIf_neg hcaller _ _), Svc.run_bind_ok (Svc.run_get _),
        Svc.run_bind_ok (prisma_run_ok htx), Svc.run_bind_ok haudit]
      rfl
    refine ⟨u, db, by rw [removes, if_neg hcaller, hu], by rw [hrun], ?_⟩
    constructor
    · rw [htables]
      exact hwiped.users
    · rw [htables, hremoved.frame]
    · rw [htables, hremoved.frame]
    · rw [htables]
      exact hremoved.methods
    · rw [htables]
      exact hremoved.messages
    · refine ⟨dataEntry .userDataDeleted id, rfl, ?_⟩
      rw [htables, hremoved.audit]
    · rw [htables]
      exact hremoved.waitlist

/-! ## Exports after removals -/

/-- The footprint, erased. -/
def ExportData.erased (d : ExportData) (now : ℤ) : ExportData := { d with
  user := anonymized now d.user
  paymentMethods := []
  auditLogs := d.auditLogs.map withoutAddress
  chatMessages := d.chatMessages.map blanked
  waitlist := none }

/-- What the removal of `u` makes of a footprint; another account can have lost the waitlist entry of its email. -/
def ExportData.afterRemoval (u : AppUser) (now : ℤ) (d : ExportData) : ExportData :=
  if d.user.userId = u.userId then d.erased now
  else { d with waitlist := d.waitlist.filter fun x => u.email.filter (· ≠ "") ≠ some x.email }

section Lists

variable {α : Type} {p : α → Bool} {f : α → α}

theorem filter_map_if (h : ∀ x, p (f x) = p x) (l : List α) :
    (l.map fun x => if p x then f x else x).filter p = (l.filter p).map f := by
  induction l with
  | nil => rfl
  | cons x l ih =>
    by_cases hx : p x = true
    · rw [List.map_cons, if_pos hx, List.filter_cons_of_pos (by rw [h, hx]), List.filter_cons_of_pos hx, List.map_cons, ih]
    · rw [List.map_cons, if_neg hx, List.filter_cons_of_neg hx, List.filter_cons_of_neg hx, ih]

theorem filter_map_if_of_disjoint {q : α → Bool} (hq : ∀ x, q (f x) = q x) (hpq : ∀ x, q x = true → ¬ p x = true)
    (l : List α) : (l.map fun x => if p x then f x else x).filter q = l.filter q := by
  induction l with
  | nil => rfl
  | cons x l ih =>
    by_cases hx : p x = true
    · have hqx : ¬ q x = true := fun h => hpq x h hx
      rw [List.map_cons, if_pos hx, List.filter_cons_of_neg (by rw [hq]; exact hqx), List.filter_cons_of_neg hqx, ih]
    · rw [List.map_cons, if_neg hx, List.filter_cons, List.filter_cons, ih]

end Lists

namespace Removal

variable {u v : AppUser} {now : ℤ} {db db' : Db}

theorem exported_self (h : Removal u now db db') (hv : v.userId = u.userId) :
    exported db' (anonymized now v) = (exported db v).erased now := by
  have hid : (anonymized now v).userId = u.userId := hv
  have hmethods : (db'.paymentMethods.rows.filter fun m => m.userId = u.userId) = [] := by
    rw [h.methods, List.filter_filter, List.filter_eq_nil_iff]
    simp
  have haudit : (db'.auditLogs.filter fun a => a.userId = some u.userId) =
      (db.auditLogs.filter fun a => a.userId = some u.userId).map withoutAddress := by
    obtain ⟨entry, huser, hlogs⟩ := h.audit
    have hold := filter_map_if (p := fun a : AuditLog => a.userId = some u.userId) (f := withoutAddress)
      (fun _ => rfl) db.auditLogs
    simp only [decide_eq_true_eq] at hold
    rw [hlogs, List.filter_append, hold, List.filter_cons_of_neg (by simp [huser]), List.filter_nil, List.append_nil]
  have hmessages : (db'.chatMessages.rows.filter fun m => m.senderId = u.userId) =
      (db.chatMessages.rows.filter fun m => m.senderId = u.userId).map blanked := by
    have hold := filter_map_if (p := fun m : ChatMessage => m.senderId = u.userId) (f := blanked)
      (fun _ => rfl) db.chatMessages.rows
    simp only [decide_eq_true_eq] at hold
    rw [h.messages, hold]
  have hemail : (anonymized now v).email = none := rfl
  simp only [exported, exportData, ExportData.erased, hid, hv, hmethods, haudit, hmessages, h.offers, h.orders, hemail,
    Option.filter_none, Option.bind_none]

theorem exported_other (h : Removal u now db db') (hv : v.userId ≠ u.userId) : exported db' v =
    { exported db v with waitlist := (exported db v).waitlist.filter fun x => u.email.filter (· ≠ "") ≠ some x.email } := by
  have hmethods : (db'.paymentMethods.rows.filter fun m => m.userId = v.userId) =
      db.paymentMethods.rows.filter fun m => m.userId = v.userId := by
    rw [h.methods, List.filter_filter]
    refine List.filter_congr fun m _ => ?_
    rw [Bool.eq_iff_iff, Bool.and_eq_true, decide_eq_true_iff, decide_eq_true_iff]
    exact ⟨And.left, fun hm => ⟨hm, by rw [hm]; exact hv⟩⟩
  have haudit : (db'.auditLogs.filter fun a => a.userId = some v.userId) =
      db.auditLogs.filter fun a => a.userId = some v.userId := by
    obtain ⟨entry, huser, hlogs⟩ := h.audit
    have hold := filter_map_if_of_disjoint (p := fun a : AuditLog => a.userId = some u.userId) (f := withoutAddress)
      (q := fun a => a.userId = some v.userId) (fun _ => rfl) (fun a ha ha' => by
        rw [decide_eq_true_iff] at ha ha'
        exact hv (Option.some.inj (ha.symm.trans ha'))) db.auditLogs
    simp only [decide_eq_true_eq] at hold
    rw [hlogs, List.filter_append, hold, List.filter_cons_of_neg (by simp [huser]), List.filter_nil, List.append_nil]
  have hmessages : (db'.chatMessages.rows.filter fun m => m.senderId = v.userId) =
      db.chatMessages.rows.filter fun m => m.senderId = v.userId := by
    have hold := filter_map_if_of_disjoint (p := fun m : ChatMessage => m.senderId = u.userId) (f := blanked)
      (q := fun m => m.senderId = v.userId) (fun _ => rfl) (fun m hm hm' => by
        rw [decide_eq_true_iff] at hm hm'
        exact hv (hm.symm.trans hm')) db.chatMessages.rows
    simp only [decide_eq_true_eq] at hold
    rw [h.messages, hold]
  have hwaitlist : ∀ email, db'.waitlist.find? email =
      (db.waitlist.find? email).filter fun x => u.email.filter (· ≠ "") ≠ some x.email := by
    intro email
    have htable : db'.waitlist = db.waitlist.filter fun x => u.email.filter (· ≠ "") ≠ some x.email :=
      Table.eq_of_rows h.waitlist
    rw [htable, Table.find?_filter]
  have hentry : (v.email.filter (· ≠ "")).bind db'.waitlist.find? =
      ((v.email.filter (· ≠ "")).bind db.waitlist.find?).filter fun x => u.email.filter (· ≠ "") ≠ some x.email := by
    cases v.email.filter (· ≠ "") with
    | none => rfl
    | some email => exact hwaitlist email
  simp only [exported, exportData, hmethods, haudit, hmessages, hentry, h.offers, h.orders]

end Removal

/-- **Exports after removals.** Whoever asks for the footprint of whom after whichever removal gets what the same request
would have got before, erased if the account is the removed one. -/
theorem export_after_removal (id caller other otherCaller : String) (w : World χ) :
    ((exportUserData other otherCaller).run ((remove id caller).run w).2).1 =
      ((exportUserData other otherCaller).run w).1.map fun d =>
        (removes id caller w.db).elim d fun u => d.afterRemoval u w.now := by
  rw [exportUserData_eq, exportUserData_eq]
  rcases removal_cases id caller w with ⟨hnone, hrun⟩ | ⟨u, db, hsome, hrun, h⟩
  · rw [hrun, hnone]
    exact (congrFun Except.map_id _).symm
  · rw [hrun, hsome]
    split
    · rfl
    · have hfind : userById db other = (userById w.db other).map (Table.atKey u.userId (anonymized w.now)) :=
        Table.find?_map h.users (Table.atKey_column _ fun _ => rfl)
      have hdb : userById ({ w with db := db } : World χ).db other = userById db other := rfl
      rw [hdb, hfind]
      cases userById w.db other with
      | none => rfl
      | some v =>
        by_cases hv : v.userId = u.userId
        · rw [Option.map_some, Table.atKey_eq hv]
          exact congrArg Except.ok ((h.exported_self hv).trans (if_pos hv).symm)
        · rw [Option.map_some, Table.atKey_ne hv]
          exact congrArg Except.ok ((h.exported_other hv).trans (if_neg hv).symm)

end IKash
