import IKash.Accounts
import IKash.Deploy

/-!
# What the audit log says about a KYC update

`processWebhookEvent` writes the status and then its audit record, in one `try` block whose handler writes another record.
The faults of the three writes are arguments (`StatusFaults`).

- `processWebhookEventUnder_none`: without faults this is `processWebhookEvent`;
- `processWebhookEventUnder_cases`: what it has written, for every pattern of faults;
- `audit_matches_iff`: the records match the write exactly when no write was left without its record.
-/

namespace IKash

open Lib

variable {χ : Type}

/-- The faults of the user update, of the record of its success and of the record of a failure. -/
structure StatusFaults where
  update : Option Thrown := none
  success : Option Thrown := none
  failure : Option Thrown := none

namespace KycService

/-- `updateStatus` with faults. -/
def updateStatusUnder (faults : StatusFaults) (userId : String) (previous : Option KycStatus) (status : KycStatus)
    (now : ℤ) : Service χ Unit := do
  let updated ← faulty faults.update (prisma (Prisma.appUser.update (uuid userId) (setKycStatus status now)))
  faulty faults.success
    (AuditLogService.createOrThrow (statusEntry userId .success previous "newStatus" updated.kycStatus))

/-- `writeStatus` with faults. -/
def writeStatusUnder (faults : StatusFaults) (userId : String) (status : KycStatus) : Service χ Unit := do
  let w ← Svc.get
  let existing ← prisma (Prisma.appUser.findUnique (uuid userId))
  let previous := existing.map AppUser.kycStatus
  let outcome ← Svc.attempt (updateStatusUnder faults userId previous status w.now)
  match outcome with
  | .ok _ => pure ()
  | .error _ =>
    faulty faults.failure (AuditLogService.createOrThrow (statusEntry userId .failure previous "attemptedStatus" status))

/-- `processWebhookEvent` with faults. -/
def processWebhookEventUnder (faults : StatusFaults) (payload : Json) : Service χ Unit :=
  match vendorData payload with
  | none => pure ()
  | some j => do
    let status ← Svc.ofExcept (statusLower payload)
    let userId ← Svc.orThrow (Json.asString (some j)) (.prisma .validation)
    writeStatusUnder faults userId (statusOfText status)

theorem processWebhookEventUnder_none (payload : Json) :
    (processWebhookEventUnder {} payload : Service χ Unit) = processWebhookEvent payload := rfl

/-- The status that the call writes, and for whom: the payload names an account and a status, and the update is not hit by
a fault. -/
def statusWrite (faults : StatusFaults) (payload : Json) (db : Db) : Option (String × KycStatus) := do
  let j ← vendorData payload
  let status ← (statusLower payload).toOption
  let userId ← Json.asString (some j)
  if faults.update = none then (db.users.find? (uuid userId)).map fun _ => (userId, statusOfText status) else none

end KycService

open KycService

/-! ## What a call writes -/

section Writes

variable {faults : StatusFaults} {userId : String} {previous : Option KycStatus} {status : KycStatus} {w w' : World χ}

/-- The accounts after the update. -/
def StatusWritten (userId : String) (status : KycStatus) (w w' : World χ) : Prop :=
  w'.db.users.rows = w.db.users.rows.map (Table.atKey (uuid userId) (setKycStatus status w.now))

/-- The rows that a call has added to the audit log. -/
def Adds (added : List AuditLog) (w w' : World χ) : Prop := w'.db.auditLogs = w.db.auditLogs ++ added

theorem adds_nil (w : World χ) : Adds [] w w := (List.append_nil _).symm

theorem setKycStatus_keys (status : KycStatus) (now : ℤ) (u : AppUser) : SameKeys u (setKycStatus status now u) := by
  refine ⟨rfl, fun c hc => ?_⟩
  rcases List.mem_pair.mp hc with rfl | rfl <;> rfl

/-- A required record is written, or nothing is. -/
theorem createOrThrow_cases (entry : AuditLog) (w : World χ) :
    (∃ t, (AuditLogService.createOrThrow entry).run w = (.error t, w)) ∨
    ∃ db, (AuditLogService.createOrThrow entry).run w = (.ok (), { w with db := db }) ∧
      db.toTables = { w.db.toTables with auditLogs := w.db.auditLogs ++ [entry] } := by
  unfold AuditLogService.createOrThrow
  cases h : Prisma.auditLog.create entry w.db with
  | error t => exact Or.inl ⟨t, prisma_run_error h⟩
  | ok r =>
    obtain ⟨⟨⟩, db⟩ := r
    exact Or.inr ⟨db, prisma_run_ok h, (Db.commit_eq_ok.mp h).2⟩

/-- The handler leaves the accounts, and adds at most the record of the failure. -/
theorem failure_run (fault : Option Thrown) (entry : AuditLog) (w : World χ) :
    ∃ added r db, (faulty fault (AuditLogService.createOrThrow entry)).run w = (r, { w with db := db }) ∧
      db.users = w.db.users ∧ Adds added w { w with db := db } ∧ ∀ a ∈ added, a = entry := by
  have hnone : ∀ a ∈ ([] : List AuditLog), a = entry := fun a ha => absurd ha List.not_mem_nil
  cases fault with
  | some t => exact ⟨[], _, w.db, rfl, rfl, adds_nil w, hnone⟩
  | none =>
    rcases createOrThrow_cases entry w with ⟨t, h⟩ | ⟨db, h, hdb⟩
    · exact ⟨[], _, w.db, h, rfl, adds_nil w, hnone⟩
    · refine ⟨[entry], _, db, h, by rw [hdb], ?_, fun a ha => List.mem_singleton.mp ha⟩
      show db.auditLogs = _
      rw [hdb]

/-- The `try` block throws before the update, or after it, or does both writes. -/
theorem updateStatusUnder_cases (faults : StatusFaults) (userId : String) (previous : Option KycStatus)
    (status : KycStatus) (w : World χ) :
    (faults.update ≠ none ∨ w.db.users.find? (uuid userId) = none) ∧
      (∃ t, (updateStatusUnder faults userId previous status w.now).run w = (.error t, w)) ∨
    (faults.update = none ∧ w.db.users.find? (uuid userId) ≠ none) ∧
      ∃ db, StatusWritten userId status w { w with db := db } ∧ db.auditLogs = w.db.auditLogs ∧
        ((faults.success ≠ none ∧
            ∃ t, (updateStatusUnder faults userId previous status w.now).run w = (.error t, { w with db := db })) ∨
          faults.success = none ∧ ∃ db', db'.users = db.users ∧
            Adds [statusEntry userId .success previous "newStatus" status] w { w with db := db' } ∧
            (updateStatusUnder faults userId previous status w.now).run w = (.ok (), { w with db := db' })) := by
  unfold updateStatusUnder
  cases hf : faults.update with
  | some t => exact Or.inl ⟨Or.inl (Option.some_ne_none t), t, rfl⟩
  | none =>
    cases hu : w.db.users.find? (uuid userId) with
    | none => exact Or.inl ⟨Or.inr rfl, _, Svc.run_bind_error (prisma_run_error (Delegate.update_of_none hu))⟩
    | some u =>
      obtain ⟨db, hdb⟩ := Prisma.appUser_update_isOk hu (setKycStatus_keys status w.now u)
      obtain ⟨-, -, -, hframe, hrows⟩ := Delegate.of_update hdb
      have haudit : db.auditLogs = w.db.auditLogs := by rw [hframe]; rfl
      refine Or.inr ⟨⟨rfl, Option.some_ne_none u⟩, db, hrows, haudit, ?_⟩
      rw [Svc.run_bind_ok (show (faulty none (prisma (Prisma.appUser.update (uuid userId) _)) : Service χ AppUser).run w = _
        from prisma_run_ok hdb)]
      cases hs : faults.success with
      | some t => exact Or.inl ⟨Option.some_ne_none t, t, rfl⟩
      | none =>
        -- the account is there, so the record is not refused
        obtain ⟨hmem, hkey⟩ := Table.find?_eq_some.mp hu
        have hnew : setKycStatus status w.now u ∈ db.users.rows := by
          rw [show db.users.rows = _ from hrows]
          exact List.mem_map.mpr ⟨u, hmem, Table.atKey_eq hkey⟩
        have hhas : db.users.Has (uuid userId) := ⟨setKycStatus status w.now u, hnew, hkey⟩
        have hentry : ∀ k ∈ (statusEntry userId .success previous "newStatus"
            (setKycStatus status w.now u).kycStatus).userId, db.users.Has k := by
          intro k hk
          cases hk
          exact hhas
        obtain ⟨db', hdb', htables⟩ := Prisma.auditLog_create_of_has hentry
        refine Or.inr ⟨rfl, db', by rw [htables], ?_, prisma_run_ok hdb'⟩
        show db'.auditLogs = _
        rw [htables, ← haudit]
        rfl

/-- The account is not there and its id is refused; or the handler runs where the `try` block throws. -/
theorem writeStatusUnder_run (faults : StatusFaults) (userId : String) (status : KycStatus) (w : World χ) :
    w.db.users.find? (uuid userId) = none ∧ ((writeStatusUnder faults userId status).run w).2 = w ∨
    ∃ previous, ∀ r w₁, (updateStatusUnder faults userId previous status w.now).run w = (r, w₁) →
      (writeStatusUnder faults userId status).run w = match r with
        | .ok _ => (.ok (), w₁)
        | .error _ => (faulty faults.failure (AuditLogService.createOrThrow
            (statusEntry userId .failure previous "attemptedStatus" status))).run w₁ := by
  unfold writeStatusUnder
  rw [Svc.run_bind_ok (Svc.run_get w)]
  rcases prisma_findUnique_cases Prisma.appUser (uuid userId) w with hread | ⟨hnone, -, hread⟩
  swap
  · exact Or.inl ⟨hnone, by rw [Svc.run_bind_error hread]⟩
  refine Or.inr ⟨((Prisma.appUser.get w.db.toTables).find? (uuid userId)).map AppUser.kycStatus, fun r w₁ h => ?_⟩
  rw [Svc.run_bind_ok hread]
  have hattempt : (Svc.attempt (updateStatusUnder faults userId
      (((Prisma.appUser.get w.db.toTables).find? (uuid userId)).map AppUser.kycStatus) status w.now)).run w =
        (.ok r, w₁) := by
    rw [Svc.run_attempt, h]
  rw [Svc.run_bind_ok hattempt]
  cases r <;> rfl

/-- A call that names no account or no status writes nothing. -/
theorem processWebhookEventUnder_run (faults : StatusFaults) (payload : Json) (w : World χ) :
    statusWrite faults payload w.db = none ∧ ((processWebhookEventUnder faults payload).run w).2 = w ∨
    ∃ userId status, (processWebhookEventUnder faults payload).run w = (writeStatusUnder faults userId status).run w ∧
      statusWrite faults payload w.db =
        if faults.update = none then (w.db.users.find? (uuid userId)).map fun _ => (userId, status) else none := by
  unfold processWebhookEventUnder statusWrite
  cases vendorData payload with
  | none => exact Or.inl ⟨rfl, rfl⟩
  | some j =>
    cases hs : statusLower payload with
    | error t => exact Or.inl ⟨rfl, rfl⟩
    | ok text =>
      cases hid : Json.asString (some j) with
      | none => exact Or.inl ⟨by simp [Except.toOption, hid], by simp [Svc.run_bind, Svc.orThrow, hid]; rfl⟩
      | some userId =>
        refine Or.inr ⟨userId, statusOfText text, ?_, ?_⟩
        · show ((Svc.orThrow (Json.asString (some j)) (.prisma .validation)) >>= _ : Service χ Unit).run w = _
          rw [hid]
          rfl
        · simp [Except.toOption, hid]

/-- What a call has written: nothing for anybody; or the status with the record of its success; or the status, and no
record but that of a failure. -/
theorem processWebhookEventUnder_cases {w' : World χ} (faults : StatusFaults) (payload : Json) (w : World χ)
    (h : ((processWebhookEventUnder faults payload).run w).2 = w') :
    (statusWrite faults payload w.db = none ∧ w'.db.users = w.db.users ∧
        ∃ added, Adds added w w' ∧ ∀ a ∈ added, a.result = .failure) ∨
    ∃ userId status previous, statusWrite faults payload w.db = some (userId, status) ∧ StatusWritten userId status w w' ∧
      (faults.success = none ∧ Adds [statusEntry userId .success previous "newStatus" status] w w' ∨
        faults.success ≠ none ∧ ∃ added, Adds added w w' ∧ ∀ a ∈ added, a.result = .failure) := by
  subst h
  rcases processWebhookEventUnder_run faults payload w with ⟨hnone, h⟩ | ⟨userId, status, hrun, hwrite⟩
  · rw [h]
    exact Or.inl ⟨hnone, rfl, [], adds_nil w, fun a ha => absurd ha List.not_mem_nil⟩
  rw [hrun, hwrite]
  rcases writeStatusUnder_run faults userId status w with ⟨hnone, hsame⟩ | ⟨previous, hprevious⟩
  · rw [hsame, hnone]
    exact Or.inl ⟨ite_self _, rfl, [], adds_nil w, fun a ha => absurd ha List.not_mem_nil⟩
  rcases updateStatusUnder_cases faults userId previous status w with
    ⟨hnot, t, ht⟩ | ⟨⟨hupdate, hfound⟩, db, hwritten, haudit, ⟨hsuccess, t, ht⟩ | ⟨hsuccess, db', husers, hadds, hok⟩⟩
  · obtain ⟨added, r, db, h, husers, hadds, hall⟩ := failure_run faults.failure
      (statusEntry userId .failure previous "attemptedStatus" status) w
    rw [hprevious _ _ ht, h]
    refine Or.inl ⟨?_, husers, added, hadds, fun a ha => by rw [hall a ha]; rfl⟩
    rcases hnot with hf | hu
    · rw [if_neg hf]
    · rw [hu]
      exact ite_self _
  · obtain ⟨u, hu⟩ := Option.ne_none_iff_exists'.mp hfound
    obtain ⟨added, r, db₁, h, husers, hadds, hall⟩ := failure_run faults.failure
      (statusEntry userId .failure previous "attemptedStatus" status) { w with db := db }
    rw [hprevious _ _ ht, h, if_pos hupdate, hu]
    refine Or.inr ⟨userId, status, previous, rfl, ?_, Or.inr ⟨hsuccess, added, ?_, fun a ha => by rw [hall a ha]; rfl⟩⟩
    · show db₁.users.rows = _
      rw [husers]
      exact hwritten
    · show db₁.auditLogs = _
      rw [show db₁.auditLogs = db.auditLogs ++ added from hadds, haudit]
  · obtain ⟨u, hu⟩ := Option.ne_none_iff_exists'.mp hfound
    rw [hprevious _ _ hok, if_pos hupdate, hu]
    refine Or.inr ⟨userId, status, previous, rfl, ?_, Or.inl ⟨hsuccess, hadds⟩⟩
    show db'.users.rows = _
    rw [husers]
    exact hwritten

end Writes

/-! ## The audit log against the accounts -/

/-- The record that the status of `userId` has become `status`. -/
structure SuccessOf (userId : String) (status : KycStatus) (a : AuditLog) : Prop where
  user : a.userId = some (uuid userId)
  resource : a.resourceType = "User" ∧ a.resourceId = some userId
  action : a.action = .kycStatusUpdated
  result : a.result = .success
  newStatus : ("newStatus", .str status.text) ∈ a.metadata

/-- The rows added to the audit log say what became of the account: with a status written there is the record of its
success and none of a failure, and with none written there is none of a success. -/
def AuditMatches (faults : StatusFaults) (payload : Json) (w w' : World χ) : Prop :=
  ∃ added, Adds added w w' ∧
    match statusWrite faults payload w.db with
    | some (userId, status) =>
      StatusWritten userId status w w' ∧ (∃ a ∈ added, SuccessOf userId status a) ∧ ∀ a ∈ added, a.result ≠ .failure
    | none => w'.db.users = w.db.users ∧ ∀ a ∈ added, a.result ≠ .success

theorem adds_unique {added added' : List AuditLog} {w w' : World χ} (h : Adds added w w') (h' : Adds added' w w') :
    added = added' := List.append_cancel_left (h.symm.trans h')

/-- A status that is written without the record of its success. -/
theorem not_auditMatches {faults : StatusFaults} {payload : Json} {w : World χ} (hsuccess : faults.success ≠ none)
    (hwrite : statusWrite faults payload w.db ≠ none) :
    ¬ AuditMatches faults payload w ((processWebhookEventUnder faults payload).run w).2 := by
  rintro ⟨added, hadds, hmatch⟩
  rcases processWebhookEventUnder_cases faults payload w rfl with
    ⟨hnone, -⟩ | ⟨userId, status, previous, hsome, -, ⟨hs, -⟩ | ⟨-, added', hadds', hall⟩⟩
  · exact hwrite hnone
  · exact hsuccess hs
  · rw [hsome] at hmatch
    obtain ⟨-, ⟨a, ha, hof⟩, -⟩ := hmatch
    rw [adds_unique hadds hadds'] at ha
    exact absurd ((hall a ha).symm.trans hof.result) (by decide)

/-- **The audit log matches the accounts** exactly when the record of a success is taken, or no status is written. -/
theorem audit_matches_iff (faults : StatusFaults) (payload : Json) (w : World χ) :
    AuditMatches faults payload w ((processWebhookEventUnder faults payload).run w).2 ↔
      faults.success = none ∨ statusWrite faults payload w.db = none := by
  constructor
  · intro h
    by_contra hnot
    obtain ⟨hsuccess, hwrite⟩ := not_or.mp hnot
    exact not_auditMatches hsuccess hwrite h
  · intro h
    rcases processWebhookEventUnder_cases faults payload w rfl with
      ⟨hnone, husers, added, hadds, hall⟩ | ⟨userId, status, previous, hsome, hwritten, ⟨-, hadds⟩ | ⟨hs, -⟩⟩
    · refine ⟨added, hadds, ?_⟩
      rw [hnone]
      exact ⟨husers, fun a ha hsuccess => absurd ((hall a ha).symm.trans hsuccess) (by decide)⟩
    · refine ⟨_, hadds, ?_⟩
      rw [hsome]
      refine ⟨hwritten, ⟨_, List.mem_singleton_self _, ⟨rfl, ⟨rfl, rfl⟩, rfl, rfl, by simp [statusEntry]⟩⟩, ?_⟩
      intro a ha
      rw [List.mem_singleton.mp ha]
      exact (by decide : AuditResult.success ≠ .failure)
    · rcases h with h | h
      · exact absurd h hs
      · rw [h] at hsome
        cases hsome

namespace Wallets

/-- The buyer has an account. -/
def opened : World Unit where
  db := {
    Db.empty with
    users := ⟨[{ userId := buyerId, publicKey := "G2" }], List.pairwise_singleton _ _⟩
    refs := by
      rw [Tables.refs_iff]
      simp [Table.Has, Db.empty, Table.empty] }
  now := 0
  issued := []
  listeners _ := {}
  ext := ()

/-- The audit repository refuses the record of the approval, and then takes that of a failure. -/
def refusedOnce : StatusFaults := { success := some (.other "unavailable") }

theorem approved_as_failure : ¬ AuditMatches refusedOnce webhookPayload opened
    ((processWebhookEventUnder refusedOnce webhookPayload).run opened).2 :=
  not_auditMatches (by decide) (by decide)

end Wallets

end IKash
