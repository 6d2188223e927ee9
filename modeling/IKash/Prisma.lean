import IKash.Errors
import IKash.Schema
import IKash.Uuid
import IKash.Lib.Svc

/-!
# Prisma

The operations of the Prisma client on one table (`Delegate`), with the errors PostgreSQL answers: a missing record, a
unique column or a foreign key that would be violated. A transaction (`Tx`) is written back only when it does not throw.

- `Delegate.of_update`: what a successful update did;
- `escrowOnChain_update_isOk`, `order_update_isOk`: an update that keeps the unique columns and the foreign keys is
  not refused.
-/

namespace IKash

open Lib

/-- A computation inside one database transaction. -/
abbrev Tx := StateT Db (Except Thrown)

namespace Db

def empty : Db := ⟨{}, by decide⟩

/-- The database with these tables, if the foreign keys have their rows. -/
def commit {α : Type} (t : Tables) (a : α) : Except Thrown (α × Db) :=
  if h : t.Refs then .ok (a, ⟨t, h⟩) else .error (.prisma .foreignKeyConstraint)

theorem commit_eq_ok {α : Type} {t : Tables} {a a' : α} {db : Db} :
    commit t a = .ok (a', db) ↔ a' = a ∧ db.toTables = t := by
  unfold commit
  constructor
  · intro h
    split at h
    · cases h; exact ⟨rfl, rfl⟩
    · cases h
  · rintro ⟨rfl, rfl⟩
    rw [dif_pos db.refs]

theorem commit_eq_error {α : Type} {t : Tables} {a : α} {e : Thrown} (h : commit t a = .error e) :
    e = .prisma .foreignKeyConstraint := by
  unfold commit at h
  split at h
  · cases h
  · cases h
    rfl

end Db

theorem Except.of_bind_ok {ε α β : Type} {x : Except ε α} {f : α → Except ε β} {b : β} (h : (x >>= f) = .ok b) :
    ∃ a, x = .ok a ∧ f a = .ok b := by
  cases x with
  | error e => cases h
  | ok a => exact ⟨a, rfl, h⟩

section Tx

variable {α β : Type} {x : Tx α} {f : α → Tx β} {a : α} {b : β} {db db' db'' : Db}

theorem Tx.bind_ok (h : x db = .ok (a, db')) : (x >>= f) db = f a db' := by
  simp only [Bind.bind, StateT.bind, h, Except.bind]

theorem Tx.of_bind_ok (h : (x >>= f) db = .ok (b, db'')) :
    ∃ a db', x db = .ok (a, db') ∧ f a db' = .ok (b, db'') := by
  cases hx : x db with
  | ok r =>
    obtain ⟨a, db'⟩ := r
    rw [Tx.bind_ok hx] at h
    exact ⟨a, db', rfl, h⟩
  | error e =>
    simp only [Bind.bind, StateT.bind, hx, Except.bind] at h
    cases h

end Tx

/-- A field of a partial body: absent, `null`, or a value. -/
inductive Patch (α : Type) where
  | undefined
  | null
  | value (a : α)
deriving DecidableEq, Repr

namespace Prisma

/-- A column that is not nullable, given as a field of a body. -/
def column {α β : Type} (old : β) (convert : α → Option β) : Patch α → Except Thrown β
  | .undefined => .ok old
  | .null => .error (.prisma .validation)
  | .value a => (convert a).elim (.error (.prisma .validation)) .ok

/-- A field of the body that is no column. -/
def noColumn : Patch String → Except Thrown Unit
  | .undefined => .ok ()
  | _ => .error (.prisma .validation)

/-- What a body gives for a column that is not nullable; `none` leaves it as it is. -/
def given {α β : Type} (convert : α → Option β) : Patch α → Except Thrown (Option β)
  | .undefined => .ok none
  | .null => .error (.prisma .validation)
  | .value a => (convert a).elim (.error (.prisma .validation)) (fun b => .ok (some b))

theorem of_given_ok {α β : Type} {convert : α → Option β} {p : Patch α} {o : Option β}
    (h : given convert p = .ok o) : o = none ∨ ∃ a b, p = .value a ∧ convert a = some b ∧ o = some b := by
  cases p with
  | undefined => cases h; exact Or.inl rfl
  | null => cases h
  | value a =>
    cases hb : convert a with
    | none => simp only [given, hb, Option.elim_none] at h; cases h
    | some b =>
      simp only [given, hb, Option.elim_some] at h
      cases h
      exact Or.inr ⟨a, b, rfl, hb, rfl⟩

/-- A nullable column, given as a field of a body. -/
def nullableColumn {α : Type} (old : Option α) : Patch α → Option α
  | .undefined => old
  | .null => none
  | .value a => some a

end Prisma

/-- A query for one record by the text of a key. A column refuses a text that it cannot hold; what it holds it does not
refuse. -/
def lookup {α : Type} (accepted : Bool) (found : Db → Option α) : Tx (Option α) := fun db =>
  match found db with
  | some a => .ok (some a, db)
  | none => if accepted then .ok (none, db) else .error (.prisma .inconsistentColumnData)

/-- The error of a write to a record that is not there. -/
def missing (accepted : Bool) : PrismaError := if accepted then .recordNotFound else .inconsistentColumnData

theorem lookup_of_some {α : Type} {accepted : Bool} {found : Db → Option α} {a : α} {db : Db} (h : found db = some a) :
    lookup accepted found db = .ok (some a, db) := by
  unfold lookup
  rw [h]

theorem lookup_of_none {α : Type} (accepted : Bool) {found : Db → Option α} {db : Db} (h : found db = none) :
    lookup accepted found db = if accepted then .ok (none, db) else .error (.prisma .inconsistentColumnData) := by
  unfold lookup
  rw [h]

/-- A query answers what is there, or the text is refused. -/
theorem lookup_cases {α : Type} (accepted : Bool) (found : Db → Option α) (db : Db) :
    lookup accepted found db = .ok (found db, db) ∨
      found db = none ∧ accepted = false ∧ lookup accepted found db = .error (.prisma .inconsistentColumnData) := by
  unfold lookup
  cases found db with
  | some a => exact Or.inl rfl
  | none =>
    cases accepted with
    | true => exact Or.inl rfl
    | false => exact Or.inr ⟨rfl, rfl, rfl⟩

theorem of_lookup_ok {α : Type} {accepted : Bool} {found : Db → Option α} {db db' : Db} {o : Option α}
    (h : lookup accepted found db = .ok (o, db')) : o = found db ∧ db' = db := by
  rcases lookup_cases accepted found db with hok | ⟨-, -, herror⟩
  · rw [hok] at h
    cases h
    exact ⟨rfl, rfl⟩
  · rw [herror] at h
    cases h

/-- A record that has to be there. -/
theorem of_lookup_elim_ok {α : Type} {accepted : Bool} {found : Db → Option α} {db db₁ db₂ : Db} {o : Option α} {a : α}
    {e : Thrown} (h₁ : lookup accepted found db = .ok (o, db₁))
    (h₂ : (o.elim (throw e) pure : Tx α) db₁ = .ok (a, db₂)) : found db = some a ∧ db₂ = db := by
  obtain ⟨hfound, rfl⟩ := of_lookup_ok h₁
  cases o with
  | none => cases h₂
  | some b =>
    cases h₂
    exact ⟨hfound.symm, rfl⟩

/-- One table of the Prisma client. `accepts` are the texts that the column of its key takes. -/
structure Delegate (ρ : Type) [Keyed ρ String] where
  get : Tables → Table ρ
  put : Tables → Table ρ → Tables
  get_put : ∀ t r, get (put t r) = r
  accepts : String → Bool

namespace Delegate

variable {ρ : Type} [Keyed ρ String] (d : Delegate ρ)

def findUnique (key : String) : Tx (Option ρ) := lookup (d.accepts key) fun db => (d.get db.toTables).find? key

def update (key : String) (data : ρ → ρ) : Tx ρ := fun db =>
  match (d.get db.toTables).find? key with
  | none => .error (.prisma (missing (d.accepts key)))
  | some r =>
    match (d.get db.toTables).replace key (data r) with
    | none => .error (.prisma .uniqueConstraint)
    | some t => Db.commit (d.put db.toTables t) (data r)

def create (row : ρ) : Tx ρ := fun db =>
  match (d.get db.toTables).insert row with
  | none => .error (.prisma .uniqueConstraint)
  | some t => Db.commit (d.put db.toTables t) row

def upsert (key : String) (row : ρ) (data : ρ → ρ) : Tx ρ := fun db =>
  match (d.get db.toTables).find? key with
  | none => d.create row db
  | some _ => d.update key data db

/-- Delete the rows that satisfy `p`. -/
def deleteMany (p : ρ → Bool) : Tx Unit := fun db =>
  Db.commit (d.put db.toTables ((d.get db.toTables).filter (fun r => !p r))) ()

def delete (key : String) : Tx ρ := fun db =>
  match (d.get db.toTables).find? key with
  | none => .error (.prisma (missing (d.accepts key)))
  | some r => Db.commit (d.put db.toTables ((d.get db.toTables).filter fun x => Keyed.key x ≠ key)) r

/-- Rewrite the rows that satisfy `p`, keeping their keys; the result is their number. -/
def updateMany (p : ρ → Bool) (data : ρ → ρ) (keys : ∀ r, SameKeys r (data r)) : Tx ℕ := fun db =>
  Db.commit (d.put db.toTables ((d.get db.toTables).mapKeys (fun r => if p r then data r else r) fun r => by
    by_cases h : p r = true
    · rw [if_pos h]; exact keys r
    · rw [if_neg h]; exact ⟨rfl, fun _ _ => rfl⟩)) ((d.get db.toTables).rows.countP p)

variable {d} {k : String} {data : ρ → ρ} {row r r' : ρ} {db db' : Db}

theorem update_eq_ok : d.update k data db = .ok (r', db') ↔
    ∃ r t, (d.get db.toTables).find? k = some r ∧ (d.get db.toTables).replace k (data r) = some t ∧
      r' = data r ∧ db'.toTables = d.put db.toTables t := by
  unfold update
  cases hr : (d.get db.toTables).find? k with
  | none => simp
  | some r =>
    cases ht : (d.get db.toTables).replace k (data r) with
    | none => simp [ht]
    | some t => simp [ht, Db.commit_eq_ok]

theorem update_of_none (h : (d.get db.toTables).find? k = none) :
    d.update k data db = .error (.prisma (missing (d.accepts k))) := by
  unfold update
  rw [h]

theorem create_eq_ok : d.create row db = .ok (r', db') ↔
    ∃ t, (d.get db.toTables).insert row = some t ∧ r' = row ∧ db'.toTables = d.put db.toTables t := by
  unfold create
  cases ht : (d.get db.toTables).insert row with
  | none => simp
  | some t => simp [Db.commit_eq_ok]

theorem create_eq_error {e : Thrown} (h : d.create row db = .error e) : ∃ p, e = .prisma p := by
  unfold create at h
  split at h
  · cases h
    exact ⟨_, rfl⟩
  · exact ⟨_, Db.commit_eq_error h⟩

theorem deleteMany_eq_ok {p : ρ → Bool} {u : Unit} : d.deleteMany p db = .ok (u, db') ↔
    db'.toTables = d.put db.toTables ((d.get db.toTables).filter (fun r => !p r)) := by
  unfold deleteMany
  simp [Db.commit_eq_ok]

theorem delete_eq_ok : d.delete k db = .ok (r, db') ↔ (d.get db.toTables).find? k = some r ∧
    db'.toTables = d.put db.toTables ((d.get db.toTables).filter fun x => Keyed.key x ≠ k) := by
  unfold delete
  cases hr : (d.get db.toTables).find? k with
  | none => simp
  | some x =>
    rw [Db.commit_eq_ok, Option.some.injEq]
    exact and_congr_left fun _ => eq_comm

/-- Only the table of the delegate was written. -/
def Writes (d : Delegate ρ) (db db' : Db) : Prop := ∃ t, db'.toTables = d.put db.toTables t

theorem writes_create (h : d.create row db = .ok (r', db')) : d.Writes db db' := by
  obtain ⟨t, -, -, hdb⟩ := create_eq_ok.mp h
  exact ⟨t, hdb⟩

theorem writes_update (h : d.update k data db = .ok (r', db')) : d.Writes db db' := by
  obtain ⟨_, t, -, -, -, hdb⟩ := update_eq_ok.mp h
  exact ⟨t, hdb⟩

theorem writes_upsert (h : d.upsert k row data db = .ok (r', db')) : d.Writes db db' := by
  unfold upsert at h
  split at h
  · exact writes_create h
  · exact writes_update h

theorem writes_deleteMany {p : ρ → Bool} {u : Unit} (h : d.deleteMany p db = .ok (u, db')) : d.Writes db db' :=
  ⟨_, deleteMany_eq_ok.mp h⟩

theorem writes_updateMany {p : ρ → Bool} {keys : ∀ r, SameKeys r (data r)} {n : ℕ}
    (h : d.updateMany p data keys db = .ok (n, db')) : d.Writes db db' :=
  ⟨_, (Db.commit_eq_ok.mp h).2⟩

/-- **What a successful update did**: it found the row, and it changed that row of that table only. -/
theorem of_update (h : d.update k data db = .ok (r', db')) :
    ∃ r, (d.get db.toTables).find? k = some r ∧ r' = data r ∧
      db'.toTables = d.put db.toTables (d.get db'.toTables) ∧
      (d.get db'.toTables).rows = (d.get db.toTables).rows.map (Table.atKey k data) := by
  obtain ⟨r, t, hr, ht, hr', hdb⟩ := update_eq_ok.mp h
  have hget : d.get db'.toTables = t := by rw [hdb, d.get_put]
  refine ⟨r, hr, hr', by rw [hget]; exact hdb, ?_⟩
  rw [hget]
  exact Table.rows_replace_data ht hr

end Delegate

namespace Prisma

def appUser : Delegate AppUser := ⟨Tables.users, fun t r => { t with users := r }, fun _ _ => rfl, isUuid⟩

def offer : Delegate Offer := ⟨Tables.offers, fun t r => { t with offers := r }, fun _ _ => rfl, isUuid⟩

def order : Delegate Order := ⟨Tables.orders, fun t r => { t with orders := r }, fun _ _ => rfl, isUuid⟩

def escrowOnChain : Delegate EscrowOnChain := ⟨Tables.escrows, fun t r => { t with escrows := r }, fun _ _ => rfl, isUuid⟩

def chatMessage : Delegate ChatMessage :=
  ⟨Tables.chatMessages, fun t r => { t with chatMessages := r }, fun _ _ => rfl, isUuid⟩

def paymentProvider : Delegate PaymentProvider :=
  ⟨Tables.paymentProviders, fun t r => { t with paymentProviders := r }, fun _ _ => rfl, isUuid⟩

def paymentMethod : Delegate PaymentMethod :=
  ⟨Tables.paymentMethods, fun t r => { t with paymentMethods := r }, fun _ _ => rfl, isUuid⟩

def authChallenge : Delegate AuthChallenge :=
  ⟨Tables.challenges, fun t r => { t with challenges := r }, fun _ _ => rfl, fun _ => true⟩

def waitlist : Delegate Waitlist := ⟨Tables.waitlist, fun t r => { t with waitlist := r }, fun _ _ => rfl, fun _ => true⟩

/-- Append a row to the audit log. -/
def auditLog.create (a : AuditLog) : Tx Unit := fun db =>
  Db.commit { db.toTables with auditLogs := db.auditLogs ++ [a] } ()

/-- Rewrite the audit rows that satisfy `p`. -/
def auditLog.updateMany (p : AuditLog → Bool) (data : AuditLog → AuditLog) : Tx Unit := fun db =>
  Db.commit { db.toTables with auditLogs := db.auditLogs.map fun a => if p a then data a else a } ()

/-- `appUser.upsert` with an empty `update`. -/
def appUser.upsert (publicKey : String) (row : AppUser) : Tx AppUser := fun db =>
  match db.users.findUnique? (fun u => some u.publicKey) publicKey with
  | some u => .ok (u, db)
  | none => appUser.create row db

/-- Delete an order; its escrow and its chat messages go with it (`onDelete: Cascade`). -/
def order.delete (k : String) : Tx Order := fun db =>
  match db.orders.find? k with
  | none => .error (.prisma (missing (isUuid k)))
  | some o => Db.commit { db.toTables with
      orders := db.orders.filter (fun x => x.orderId ≠ k)
      escrows := db.escrows.filter (fun e => e.orderId ≠ k)
      chatMessages := db.chatMessages.filter (fun m => m.orderId ≠ k) } o

variable {db : Db} {k : String}

/-- An escrow update that keeps the order is not refused when no unique column clashes. -/
theorem escrowOnChain_update_of_replace {e : EscrowOnChain} {data : EscrowOnChain → EscrowOnChain}
    {t : Table EscrowOnChain} (he : db.escrows.find? k = some e) (horder : (data e).orderId = e.orderId)
    (ht : db.escrows.replace k (data e) = some t) : ∃ db', escrowOnChain.update k data db = .ok (data e, db') := by
  have hrefs : ({ db.toTables with escrows := t } : Tables).Refs := by
    refine { db.refs with escrowOrder := fun x hx => ?_ }
    rcases Table.mem_replace ht hx with rfl | ⟨hx, -⟩
    · rw [horder]
      exact db.refs.escrowOrder e (Table.find?_eq_some.mp he).1
    · exact db.refs.escrowOrder x hx
  exact ⟨⟨_, hrefs⟩, Delegate.update_eq_ok.mpr ⟨e, t, he, ht, rfl, rfl⟩⟩

/-- An escrow update that keeps the id, the order and the contract is not refused. -/
theorem escrowOnChain_update_isOk {e : EscrowOnChain} {data : EscrowOnChain → EscrowOnChain}
    (he : db.escrows.find? k = some e) (hid : (data e).escrowId = e.escrowId)
    (horder : (data e).orderId = e.orderId) (hcontract : (data e).contractId = e.contractId) :
    ∃ db', escrowOnChain.update k data db = .ok (data e, db') := by
  have hsame : SameKeys e (data e) := by
    refine ⟨hid, fun u hu => ?_⟩
    rcases List.mem_pair.mp hu with rfl | rfl
    · simp [horder]
    · exact hcontract
  obtain ⟨t, ht⟩ := Table.replace_isSome he hsame
  exact escrowOnChain_update_of_replace he horder ht

/-- An order update whose offer, buyer and seller exist is not refused. -/
theorem order_update_isOk_of_has {o : Order} {data : Order → Order} (ho : db.orders.find? k = some o)
    (hid : (data o).orderId = o.orderId) (hoffer : db.offers.Has (data o).offerId)
    (hbuyer : db.users.Has (data o).buyerId) (hseller : db.users.Has (data o).sellerId) :
    ∃ db', order.update k data db = .ok (data o, db') := by
  obtain ⟨-, hkey⟩ := Table.find?_eq_some.mp ho
  obtain ⟨t, ht⟩ : ∃ t, db.orders.replace k (data o) = some t :=
    Table.replace_isSome ho ⟨hid, fun u hu => by cases hu⟩
  have hrows : ∀ x ∈ t.rows, x = data o ∨ x ∈ db.orders.rows := fun x hx =>
    (Table.mem_replace ht hx).imp_right And.left
  have hhas : ∀ j, t.Has j ↔ db.orders.Has j := fun j => Table.has_replace ht (hid.trans hkey) ho
  have hrefs : ({ db.toTables with orders := t } : Tables).Refs := by
    refine { db.refs with
      orderOffer := fun x hx => ?_, orderBuyer := fun x hx => ?_, orderSeller := fun x hx => ?_
      escrowOrder := fun e he => (hhas _).mpr (db.refs.escrowOrder e he)
      messageOrder := fun m hm => (hhas _).mpr (db.refs.messageOrder m hm) }
    · rcases hrows x hx with rfl | hx
      · exact hoffer
      · exact db.refs.orderOffer x hx
    · rcases hrows x hx with rfl | hx
      · exact hbuyer
      · exact db.refs.orderBuyer x hx
    · rcases hrows x hx with rfl | hx
      · exact hseller
      · exact db.refs.orderSeller x hx
  exact ⟨⟨_, hrefs⟩, Delegate.update_eq_ok.mpr ⟨o, t, ho, ht, rfl, rfl⟩⟩

/-- An order update that keeps the ids is not refused. -/
theorem order_update_isOk {o : Order} {data : Order → Order} (ho : db.orders.find? k = some o)
    (hid : (data o).orderId = o.orderId) (hoffer : (data o).offerId = o.offerId)
    (hbuyer : (data o).buyerId = o.buyerId) (hseller : (data o).sellerId = o.sellerId) :
    ∃ db', order.update k data db = .ok (data o, db') := by
  have hmem := (Table.find?_eq_some.mp ho).1
  refine order_update_isOk_of_has ho hid ?_ ?_ ?_
  · rw [hoffer]; exact db.refs.orderOffer o hmem
  · rw [hbuyer]; exact db.refs.orderBuyer o hmem
  · rw [hseller]; exact db.refs.orderSeller o hmem

/-- What a deletion leaves: the other orders, and the escrows and messages of the others. -/
theorem order_delete_eq_ok {o : Order} {db' : Db} : order.delete k db = .ok (o, db') ↔
    db.orders.find? k = some o ∧ db'.toTables = { db.toTables with
      orders := db.orders.filter (fun x => x.orderId ≠ k)
      escrows := db.escrows.filter (fun e => e.orderId ≠ k)
      chatMessages := db.chatMessages.filter (fun m => m.orderId ≠ k) } := by
  unfold order.delete
  cases ho : db.orders.find? k with
  | none => simp
  | some r =>
    rw [Db.commit_eq_ok, Option.some.injEq]
    exact and_congr_left fun _ => eq_comm

theorem order_delete_of_none (h : db.orders.find? k = none) :
    order.delete k db = .error (.prisma (missing (isUuid k))) := by
  unfold order.delete
  rw [h]

/-- Deleting an order that is there is never refused: what refers to it goes with it. -/
theorem order_delete_isOk {o : Order} (ho : db.orders.find? k = some o) : ∃ db', order.delete k db = .ok (o, db') := by
  have hhas : ∀ j, db.orders.Has j → j ≠ k → (db.orders.filter (fun x => x.orderId ≠ k)).Has j := by
    rintro j ⟨x, hx, rfl⟩ hne
    exact ⟨x, List.mem_filter.mpr ⟨hx, decide_eq_true hne⟩, rfl⟩
  have hrefs : ({ db.toTables with
      orders := db.orders.filter (fun x => x.orderId ≠ k)
      escrows := db.escrows.filter (fun e => e.orderId ≠ k)
      chatMessages := db.chatMessages.filter (fun m => m.orderId ≠ k) } : Tables).Refs := { db.refs with
    orderOffer := fun x hx => db.refs.orderOffer x (List.mem_of_mem_filter hx)
    orderBuyer := fun x hx => db.refs.orderBuyer x (List.mem_of_mem_filter hx)
    orderSeller := fun x hx => db.refs.orderSeller x (List.mem_of_mem_filter hx)
    escrowOrder := fun e he => by
      obtain ⟨he, hne⟩ := List.mem_filter.mp he
      exact hhas _ (db.refs.escrowOrder e he) (of_decide_eq_true hne)
    messageOrder := fun m hm => by
      obtain ⟨hm, hne⟩ := List.mem_filter.mp hm
      exact hhas _ (db.refs.messageOrder m hm) (of_decide_eq_true hne)
    messageSender := fun m hm => db.refs.messageSender m (List.mem_of_mem_filter hm) }
  exact ⟨⟨_, hrefs⟩, order_delete_eq_ok.mpr ⟨ho, rfl⟩⟩

/-- An account update that its table takes is not refused. -/
theorem appUser_update_of_replace {u : AppUser} {data : AppUser → AppUser} (hu : db.users.find? k = some u)
    (hid : (data u).userId = u.userId) {t : Table AppUser} (ht : db.users.replace k (data u) = some t) :
    ∃ db', appUser.update k data db = .ok (data u, db') := by
  obtain ⟨-, hkey⟩ := Table.find?_eq_some.mp hu
  have hhas : ∀ j, db.users.Has j → t.Has j := fun j => (Table.has_replace ht (hid.trans hkey) hu).mpr
  have hrefs : ({ db.toTables with users := t } : Tables).Refs := { db.refs with
    offerCreator := fun o ho => hhas _ (db.refs.offerCreator o ho)
    orderBuyer := fun o ho => hhas _ (db.refs.orderBuyer o ho)
    orderSeller := fun o ho => hhas _ (db.refs.orderSeller o ho)
    messageSender := fun m hm => hhas _ (db.refs.messageSender m hm)
    methodUser := fun m hm => hhas _ (db.refs.methodUser m hm)
    auditUser := fun a ha j hj => hhas _ (db.refs.auditUser a ha j hj) }
  exact ⟨⟨_, hrefs⟩, Delegate.update_eq_ok.mpr ⟨u, t, hu, ht, rfl, rfl⟩⟩

/-- An account update that keeps the unique columns is not refused. -/
theorem appUser_update_isOk {u : AppUser} {data : AppUser → AppUser} (hu : db.users.find? k = some u)
    (hkeys : SameKeys u (data u)) : ∃ db', appUser.update k data db = .ok (data u, db') := by
  obtain ⟨t, ht⟩ := Table.replace_isSome hu hkeys
  exact appUser_update_of_replace hu hkeys.1 ht

/-- An audit row about an account that is there is not refused. -/
theorem auditLog_create_of_has {a : AuditLog} (ha : ∀ u ∈ a.userId, db.users.Has u) :
    ∃ db', auditLog.create a db = .ok ((), db') ∧
      db'.toTables = { db.toTables with auditLogs := db.auditLogs ++ [a] } := by
  have hrefs : ({ db.toTables with auditLogs := db.auditLogs ++ [a] } : Tables).Refs := by
    refine { db.refs with auditUser := fun x hx u hu => ?_ }
    rcases List.mem_append.mp hx with hx | hx
    · exact db.refs.auditUser x hx u hu
    · rw [List.mem_singleton.mp hx] at hu
      exact ha u hu
  exact ⟨⟨_, hrefs⟩, Db.commit_eq_ok.mpr ⟨rfl, rfl⟩, rfl⟩

/-- An audit row about nobody is not refused. -/
theorem auditLog_create_isOk {a : AuditLog} (ha : a.userId = none) : ∃ db', auditLog.create a db = .ok ((), db') := by
  have hnone : ∀ u ∈ a.userId, db.users.Has u := by
    rw [ha]
    intro u hu
    cases hu
  obtain ⟨db', h, -⟩ := auditLog_create_of_has hnone
  exact ⟨db', h⟩

end Prisma

/-! ## Rewriting the escrows and the orders -/

/-- The rows of the escrow table were mapped by `f` and those of the order table by `g`; but for the audit log nothing
else changed. -/
structure Rewritten (f : EscrowOnChain → EscrowOnChain) (g : Order → Order) (db db' : Db) : Prop where
  escrowIds : ∀ e, (f e).escrowId = e.escrowId ∧ (f e).orderId = e.orderId
  orderIds : ∀ o, (g o).orderId = o.orderId
  escrows : db'.escrows.rows = db.escrows.rows.map f
  orders : db'.orders.rows = db.orders.rows.map g
  frame : db'.toTables =
    { db.toTables with escrows := db'.escrows, orders := db'.orders, auditLogs := db'.auditLogs }

namespace Rewritten

variable {f f' : EscrowOnChain → EscrowOnChain} {g g' : Order → Order} {db db' db'' : Db} {k : String}

theorem refl (db : Db) : Rewritten id id db db where
  escrowIds _ := ⟨rfl, rfl⟩
  orderIds _ := rfl
  escrows := (List.map_id _).symm
  orders := (List.map_id _).symm
  frame := rfl

theorem trans (h : Rewritten f g db db') (h' : Rewritten f' g' db' db'') :
    Rewritten (f' ∘ f) (g' ∘ g) db db'' where
  escrowIds e := ⟨(h'.escrowIds _).1.trans (h.escrowIds e).1, (h'.escrowIds _).2.trans (h.escrowIds e).2⟩
  orderIds o := (h'.orderIds _).trans (h.orderIds o)
  escrows := by rw [h'.escrows, h.escrows, List.map_map]
  orders := by rw [h'.orders, h.orders, List.map_map]
  frame := by rw [h'.frame, h.frame]

theorem find?_escrow (h : Rewritten f g db db') : db'.escrows.find? k = (db.escrows.find? k).map f :=
  Table.find?_map h.escrows fun e => (h.escrowIds e).1

theorem find?_order (h : Rewritten f g db db') : db'.orders.find? k = (db.orders.find? k).map g :=
  Table.find?_map h.orders h.orderIds

theorem escrowOfOrder (h : Rewritten f g db db') {orderId : String} :
    db'.escrows.findUnique? (fun e => some e.orderId) orderId =
      (db.escrows.findUnique? (fun e => some e.orderId) orderId).map f :=
  Table.findUnique?_map h.escrows fun e => congrArg some (h.escrowIds e).2

theorem of_escrow_update {data : EscrowOnChain → EscrowOnChain} {r : EscrowOnChain}
    (hids : ∀ e, (data e).escrowId = e.escrowId ∧ (data e).orderId = e.orderId)
    (h : Prisma.escrowOnChain.update k data db = .ok (r, db')) : Rewritten (Table.atKey k data) id db db' := by
  obtain ⟨-, -, -, hframe, hrows⟩ := Delegate.of_update h
  have horders : db'.orders = db.orders := by rw [hframe]; rfl
  refine ⟨fun e => ⟨Table.atKey_column _ (fun e => (hids e).1) e, Table.atKey_column _ (fun e => (hids e).2) e⟩,
    fun _ => rfl, hrows, by rw [horders, List.map_id], ?_⟩
  rw [hframe]
  rfl

theorem of_order_update {data : Order → Order} {r : Order} (hids : ∀ o, (data o).orderId = o.orderId)
    (h : Prisma.order.update k data db = .ok (r, db')) : Rewritten id (Table.atKey k data) db db' := by
  obtain ⟨-, -, -, hframe, hrows⟩ := Delegate.of_update h
  have hescrows : db'.escrows = db.escrows := by rw [hframe]; rfl
  refine ⟨fun _ => ⟨rfl, rfl⟩, Table.atKey_column _ hids, by rw [hescrows, List.map_id], hrows, ?_⟩
  rw [hframe]
  rfl

theorem of_audit {a : AuditLog} {u : Unit} (h : Prisma.auditLog.create a db = .ok (u, db')) :
    Rewritten id id db db' := by
  obtain ⟨-, hdb⟩ := Db.commit_eq_ok.mp h
  have hescrows : db'.escrows = db.escrows := by rw [hdb]
  have horders : db'.orders = db.orders := by rw [hdb]
  refine ⟨fun _ => ⟨rfl, rfl⟩, fun _ => rfl, by rw [hescrows, List.map_id], by rw [horders, List.map_id], ?_⟩
  rw [hdb]

end Rewritten

end IKash
