import IKash.Prisma

/-!
# The process and its database

The state a request sees: the database, the clock, the tokens signed so far, the memory of each listener instance and
whatever lies outside (`ext`: Trustless Work, the chain). A service is a computation on it that may throw.
-/

namespace IKash

open Lib

/-- The payload of an access token with its expiration time. -/
structure Token where
  sub : String
  publicKey : String
  setupComplete : Bool := false
  exp : ℤ
deriving DecidableEq, Repr

/-- What a `StellarListenerService` instance keeps in memory. -/
structure Listener where
  lastProcessedLedger : ℤ := 0
  processedEventIds : List String := []
deriving DecidableEq, Repr

structure World (χ : Type) where
  db : Db
  now : ℤ
  issued : List Token
  listeners : ℕ → Listener
  ext : χ

abbrev Service (χ α : Type) := Svc (World χ) Thrown α

variable {χ α : Type}

/-- One round trip to the database: a single query or a `$transaction`. -/
def prisma (tx : Tx α) : Service χ α := Svc.atomically World.db (fun db w => { w with db := db }) tx

/-- Something outside the process answers, and may change. -/
def external (call : χ → Except Thrown α × χ) : Service χ α := fun w =>
  ((call w.ext).1, { w with ext := (call w.ext).2 })

def World.setListener (w : World χ) (inst : ℕ) (l : Listener) : World χ :=
  { w with listeners := Function.update w.listeners inst l }

/-- `AuditLogService.create`: a failed write is logged and swallowed. -/
def AuditLogService.create (a : AuditLog) : Service χ Unit := Svc.modify fun w =>
  match Prisma.auditLog.create a w.db with
  | .ok (_, db) => { w with db := db }
  | .error _ => w

/-- `AuditLogService.createOrThrow` -/
def AuditLogService.createOrThrow (a : AuditLog) : Service χ Unit := prisma (Prisma.auditLog.create a)

section Rules

variable {w w' : World χ} {a : α} {tx : Tx α}

theorem prisma_run_ok {db : Db} (h : tx w.db = .ok (a, db)) :
    (prisma tx : Service χ α).run w = (.ok a, { w with db := db }) := Svc.run_atomically_ok h

theorem prisma_run_error {e : Thrown} (h : tx w.db = .error e) : (prisma tx : Service χ α).run w = (.error e, w) :=
  Svc.run_atomically_error h

/-- The result of a query comes from a run of it on the stored database. -/
theorem of_prisma_run_ok (h : (prisma tx : Service χ α).run w = (.ok a, w')) :
    ∃ db, tx w.db = .ok (a, db) ∧ w' = { w with db := db } := by
  cases hm : tx w.db with
  | ok r =>
    obtain ⟨b, db⟩ := r
    rw [prisma_run_ok hm] at h
    cases h
    exact ⟨db, rfl, rfl⟩
  | error e =>
    rw [prisma_run_error hm] at h
    cases h

theorem prisma_moves {R : World χ → World χ → Prop} (hrefl : ∀ w, R w w)
    (h : ∀ w a db, tx w.db = .ok (a, db) → R w { w with db := db }) : Svc.Moves R (prisma tx : Service χ α) :=
  Svc.Moves.atomically hrefl h

theorem prisma_lookup_of_some {accepted : Bool} {found : Db → Option α} (h : found w.db = some a) :
    (prisma (lookup accepted found) : Service χ (Option α)).run w = (.ok (some a), w) :=
  prisma_run_ok (lookup_of_some h)

/-- A query answers what is there, or refuses a text for which there is nothing. -/
theorem prisma_lookup_cases (accepted : Bool) (found : Db → Option α) (w : World χ) :
    (prisma (lookup accepted found) : Service χ (Option α)).run w = (.ok (found w.db), w) ∨
      found w.db = none ∧ accepted = false ∧
        (prisma (lookup accepted found) : Service χ (Option α)).run w = (.error (.prisma .inconsistentColumnData), w) := by
  rcases lookup_cases accepted found w.db with h | ⟨hnone, hrefused, h⟩
  · exact Or.inl (prisma_run_ok h)
  · exact Or.inr ⟨hnone, hrefused, prisma_run_error h⟩

theorem prisma_lookup_state (accepted : Bool) (found : Db → Option α) (w : World χ) :
    ((prisma (lookup accepted found) : Service χ (Option α)).run w).2 = w := by
  rcases prisma_lookup_cases accepted found w with h | ⟨-, -, h⟩ <;> rw [h]

theorem of_prisma_lookup_ok {accepted : Bool} {found : Db → Option α} {o : Option α}
    (h : (prisma (lookup accepted found)).run w = (.ok o, w')) : o = found w.db ∧ w' = w := by
  rcases prisma_lookup_cases accepted found w with hok | ⟨-, -, herror⟩
  · rw [hok] at h
    cases h
    exact ⟨rfl, rfl⟩
  · rw [herror] at h
    cases h

/-- What follows a query runs on what is there, if the text is not refused. -/
theorem prisma_lookup_bind {β : Type} (accepted : Bool) (found : Db → Option α) (f : Option α → Service χ β)
    (w : World χ) : (∃ t, (prisma (lookup accepted found) >>= f).run w = (.error t, w)) ∨
      (prisma (lookup accepted found) >>= f).run w = (f (found w.db)).run w := by
  rcases prisma_lookup_cases accepted found w with h | ⟨-, -, h⟩
  · exact Or.inr (Svc.run_bind_ok h)
  · exact Or.inl ⟨_, Svc.run_bind_error h⟩

/-- A query for a part of what is there. -/
theorem prisma_lookup_map {β γ : Type} (accepted : Bool) (found : Db → Option α) (f : α → β) (g : Option β → Service χ γ)
    (w : World χ) : (prisma (lookup accepted fun db => (found db).map f) >>= g).run w =
      (prisma (lookup accepted found) >>= fun o => g (o.map f)).run w := by
  cases hfound : found w.db with
  | some a =>
    rw [Svc.run_bind_ok (prisma_lookup_of_some hfound),
      Svc.run_bind_ok (prisma_lookup_of_some (show (found w.db).map f = some (f a) by rw [hfound]; rfl))]
    rfl
  | none =>
    have hnone := lookup_of_none accepted hfound
    have hpart : lookup accepted (fun db => (found db).map f) w.db = _ := lookup_of_none accepted (by rw [hfound]; rfl)
    cases accepted with
    | true => rw [Svc.run_bind_ok (prisma_run_ok hnone), Svc.run_bind_ok (prisma_run_ok hpart)]; rfl
    | false => rw [Svc.run_bind_error (prisma_run_error hnone), Svc.run_bind_error (prisma_run_error hpart)]

theorem prisma_lookup_moves {R : World χ → World χ → Prop} (hrefl : ∀ w, R w w) (accepted : Bool)
    (found : Db → Option α) : Svc.Moves R (prisma (lookup accepted found) : Service χ (Option α)) := by
  intro w
  rw [prisma_lookup_state]
  exact hrefl w

/-- A query for a record that has to be there. -/
theorem prisma_lookup_orThrow_eq_ok {accepted : Bool} {found : Db → Option α} {e : Thrown} :
    (prisma (lookup accepted found) >>= fun o => Svc.orThrow o e : Service χ α).run w = (.ok a, w') ↔
      w' = w ∧ found w.db = some a := by
  constructor
  · intro h
    obtain ⟨o, w₁, h₁, h₂⟩ := Svc.of_run_bind_ok h
    obtain ⟨rfl, rfl⟩ := of_prisma_lookup_ok h₁
    obtain ⟨hfound, hw⟩ := Svc.of_run_orThrow_ok h₂
    exact ⟨hw, hfound⟩
  · rintro ⟨rfl, hfound⟩
    rw [Svc.run_bind_ok (prisma_lookup_of_some hfound), Svc.run_orThrow_some]

section FindUnique

variable {ρ : Type} [Keyed ρ String] {d : Delegate ρ} {k : String} {r : ρ}

theorem prisma_findUnique_of_some (h : (d.get w.db.toTables).find? k = some r) :
    (prisma (d.findUnique k) : Service χ (Option ρ)).run w = (.ok (some r), w) := prisma_lookup_of_some h

theorem of_prisma_findUnique_ok {o : Option ρ} (h : (prisma (d.findUnique k)).run w = (.ok o, w')) :
    o = (d.get w.db.toTables).find? k ∧ w' = w := of_prisma_lookup_ok h

theorem prisma_findUnique_cases (d : Delegate ρ) (k : String) (w : World χ) :
    (prisma (d.findUnique k) : Service χ (Option ρ)).run w = (.ok ((d.get w.db.toTables).find? k), w) ∨
      (d.get w.db.toTables).find? k = none ∧ d.accepts k = false ∧
        (prisma (d.findUnique k) : Service χ (Option ρ)).run w = (.error (.prisma .inconsistentColumnData), w) :=
  prisma_lookup_cases _ _ w

theorem prisma_findUnique_run (h : d.accepts k = true) (w : World χ) :
    (prisma (d.findUnique k) : Service χ (Option ρ)).run w = (.ok ((d.get w.db.toTables).find? k), w) := by
  rcases prisma_findUnique_cases d k w with hok | ⟨-, hrefused, -⟩
  · exact hok
  · rw [h] at hrefused
    cases hrefused

theorem prisma_findUnique_moves {R : World χ → World χ → Prop} (hrefl : ∀ w, R w w) (d : Delegate ρ) (k : String) :
    Svc.Moves R (prisma (d.findUnique k) : Service χ (Option ρ)) := prisma_lookup_moves hrefl _ _

end FindUnique

@[simp] theorem external_run (call : χ → Except Thrown α × χ) (w : World χ) :
    (external call).run w = ((call w.ext).1, { w with ext := (call w.ext).2 }) := rfl

/-- Writing the audit log leaves the other tables. -/
theorem AuditLogService.create_run (entry : AuditLog) (w : World χ) :
    ∃ db, (AuditLogService.create entry).run w = (.ok (), { w with db := db }) ∧ Rewritten id id w.db db := by
  unfold AuditLogService.create
  rw [Svc.run_modify]
  cases h : Prisma.auditLog.create entry w.db with
  | ok r => exact ⟨r.2, rfl, Rewritten.of_audit h⟩
  | error e => exact ⟨w.db, rfl, Rewritten.refl _⟩

/-- A record about an account that is there is appended. -/
theorem AuditLogService.create_of_has {entry : AuditLog} {w : World χ} (h : ∀ u ∈ entry.userId, w.db.users.Has u) :
    ∃ db, (AuditLogService.create entry).run w = (.ok (), { w with db := db }) ∧ Rewritten id id w.db db ∧
      db.auditLogs = w.db.auditLogs ++ [entry] := by
  obtain ⟨db, hcreate, htables⟩ := Prisma.auditLog_create_of_has h
  refine ⟨db, ?_, Rewritten.of_audit hcreate, by rw [htables]⟩
  unfold AuditLogService.create
  rw [Svc.run_modify]
  simp only [hcreate]

end Rules

/-! ## One trade

The smallest database of the escrow flow: a seller and a buyer, an offer, its order and the order's escrow. -/

namespace Trade

def seller : AppUser := { userId := "u1", publicKey := "G1", kycStatus := .approved }

def buyer : AppUser := { userId := "u2", publicKey := "G2", kycStatus := .approved }

def onlySeller : Table AppUser := ⟨[seller], List.pairwise_singleton _ _⟩

def order (status : OrderStatus) : Order :=
  { orderId := "o1", offerId := "f1", buyerId := "u2", sellerId := "u1", orderStatus := status, expiresAt := some 10 }

def escrow (status : EscrowStatus) : EscrowOnChain :=
  { escrowId := "e1", orderId := "o1", contractId := some "C1", escrowStatus := status }

def db (orderStatus : OrderStatus) (escrowStatus : EscrowStatus) : Db where
  users := ⟨[seller, buyer], by decide⟩
  offers := ⟨[{ offerId := "f1", creatorId := "u1" }], List.pairwise_singleton _ _⟩
  orders := ⟨[order orderStatus], List.pairwise_singleton _ _⟩
  escrows := ⟨[escrow escrowStatus], List.pairwise_singleton _ _⟩
  refs := by
    rw [Tables.refs_iff]
    simp [Table.Has, Table.empty, Keyed.key, order, escrow, seller, buyer]

def world (orderStatus : OrderStatus) (escrowStatus : EscrowStatus) (ext : χ) : World χ where
  db := db orderStatus escrowStatus
  now := 20
  issued := []
  listeners _ := {}
  ext := ext

end Trade

end IKash
