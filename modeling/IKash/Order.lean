import IKash.Escrow

/-!
# `OrderService`

The operations that end an order: `cancel` reads the order with its escrow, refuses what is over or funded, and writes
(`cancelCheck`, `cancelWrite`); `update` writes whatever the body says; `remove` deletes the order and, through the
schema, its escrow; `expireOrders` takes one snapshot of the expired orders and processes them one after the other
(`processExpiredOrder`).

- `cancel_cases`, `processExpiredOrder_cases`, `expireOrders_run`: what each does to the tables;
- `update_cases`, `remove_cases`: the same for the two operations that check nothing.
-/

namespace IKash

open Lib

/-- `UpdateOrderDto` after validation; `expiresAt` is not checked. -/
structure UpdateOrderDto where
  offerId : Patch String := .undefined
  buyerId : Patch String := .undefined
  sellerId : Patch String := .undefined
  assetAmount : Patch String := .undefined
  fiatAmount : Patch String := .undefined
  orderStatus : Patch OrderStatus := .undefined
  expiresAt : Patch Json := .undefined
  sellerAddress : Patch String := .undefined
  buyerAddress : Patch String := .undefined
  assetCode : Patch String := .undefined
  title : Patch String := .undefined

/-- Conversions of the runtime and of Prisma: `new Date(x)` in milliseconds, and a decimal text as a `Decimal(20, 7)`;
`none` is an invalid date or a value that does not fit. -/
structure Codec where
  date : Json → Option ℤ
  decimal : String → Option ℚ

/-- The order with its escrow, as `OrderRepository.findById` loads it. -/
structure OrderWithEscrow where
  order : Order
  escrow : Option EscrowOnChain
deriving DecidableEq, Repr

def escrowOf (db : Db) (o : Order) : Option EscrowOnChain :=
  db.escrows.findUnique? (fun e => some e.orderId) o.orderId

def orderWithEscrow (db : Db) (k : String) : Option OrderWithEscrow :=
  (db.orders.find? k).map fun o => ⟨o, escrowOf db o⟩

namespace OrderService

variable {χ : Type}

/-! ## `cancel` -/

def terminalOrderStatuses : List OrderStatus := [.released, .cancelled, .expired, .disputed]

def blockedEscrowStatuses : List EscrowStatus := [.funded, .fiatSent, .released, .disputed, .resolved]

/-- The escrow, if there is one, is in one of the statuses. -/
def EscrowIn (statuses : List EscrowStatus) (escrow : Option EscrowOnChain) : Prop :=
  ∃ e ∈ escrow, e.escrowStatus ∈ statuses

instance (statuses : List EscrowStatus) (escrow : Option EscrowOnChain) : Decidable (EscrowIn statuses escrow) :=
  match escrow with
  | none => isFalse (by simp [EscrowIn])
  | some e => decidable_of_iff (e.escrowStatus ∈ statuses) (by simp [EscrowIn])

def findById (id : String) : Service χ (Option OrderWithEscrow) :=
  prisma (lookup (isUuid id) fun db => orderWithEscrow db (uuid id))

/-- The reading and the refusals of `cancel`. -/
def cancelCheck (id userId : String) : Service χ OrderWithEscrow := do
  let found ← findById id
  let row ← Svc.orThrow found (.app .orderNotFound ("Order " ++ id ++ " not found"))
  Svc.throwIf (row.order.buyerId ≠ userId ∧ row.order.sellerId ≠ userId)
    (.app .unauthorizedAction "Only the buyer or seller on this order can cancel it")
  Svc.throwIf (row.order.orderStatus ∈ terminalOrderStatuses) (.app .orderCancellationNotAllowed
    ("Order " ++ id ++ " cannot be cancelled because it is already \"" ++ row.order.orderStatus.text ++ "\""))
  Svc.throwIf (EscrowIn blockedEscrowStatuses row.escrow) (.app .orderCancellationNotAllowed
    ("Order " ++ id ++ " cannot be cancelled because its escrow is in status \"" ++
      row.escrow.elim "" (fun e => e.escrowStatus.text) ++ "\". " ++
      "Funds have moved on-chain; this must be resolved through support rather than direct cancellation."))
  pure row

def setStatus (status : OrderStatus) (o : Order) : Order := { o with orderStatus := status }

/-- The write of `cancel`. -/
def cancelWrite (id : String) : Service χ Order := prisma (Prisma.order.update (uuid id) (setStatus .cancelled))

def cancel (id userId : String) : Service χ Order := do
  let _ ← cancelCheck id userId
  cancelWrite id

/-! ## `update` and `remove` -/

/-- `expiresAt`: a truthy value goes through `new Date`, any other value is given to Prisma as it is. -/
def expiresAtColumn (codec : Codec) (old : Option ℤ) : Patch Json → Except Thrown (Option ℤ)
  | .undefined => .ok old
  | .null => .ok none
  | .value j => if Json.truthy (some j) then (codec.date j).elim (.error (.prisma .validation)) (fun d => .ok (some d))
    else .error (.prisma .validation)

/-- The row that `{ ...dto }` makes of a stored order. -/
def updateData (codec : Codec) (dto : UpdateOrderDto) (o : Order) : Except Thrown Order := do
  let offerId ← Prisma.column o.offerId (fun s => some (uuid s)) dto.offerId
  let buyerId ← Prisma.column o.buyerId (fun s => some (uuid s)) dto.buyerId
  let sellerId ← Prisma.column o.sellerId (fun s => some (uuid s)) dto.sellerId
  let assetAmount ← Prisma.column o.assetAmount codec.decimal dto.assetAmount
  let fiatAmount ← Prisma.column o.fiatAmount codec.decimal dto.fiatAmount
  let orderStatus ← Prisma.column o.orderStatus some dto.orderStatus
  let expiresAt ← expiresAtColumn codec o.expiresAt dto.expiresAt
  Prisma.noColumn dto.sellerAddress
  Prisma.noColumn dto.buyerAddress
  Prisma.noColumn dto.assetCode
  Prisma.noColumn dto.title
  pure ⟨o.orderId, offerId, buyerId, sellerId, assetAmount, fiatAmount, orderStatus, expiresAt⟩

/-- Every column but the id. -/
def overwrite (o' o : Order) : Order := { o' with orderId := o.orderId }

/-- `this.repo.update(id, data)` -/
def updateTx (codec : Codec) (k : String) (dto : UpdateOrderDto) : Tx Order := fun db =>
  match db.orders.find? k with
  | none => .error (.prisma (missing (isUuid k)))
  | some o =>
    match updateData codec dto o with
    | .error t => .error t
    | .ok o' => Prisma.order.update k (overwrite o') db

def endEntry (action : AuditAction) (id : String) (o : Order) : AuditLog where
  userId := some o.buyerId
  action := action
  resourceType := "Order"
  resourceId := some id
  result := .success

/-- The audit row of an update that cancels or expires the order. -/
def updateEntry (id : String) (dto : UpdateOrderDto) (o : Order) : Option AuditLog :=
  match dto.orderStatus with
  | .value .cancelled => some (endEntry .orderCancelled id o)
  | .value .expired => some (endEntry .orderExpired id o)
  | _ => none

def update (codec : Codec) (id : String) (dto : UpdateOrderDto) : Service χ Order := do
  let updated ← prisma (updateTx codec (uuid id) dto)
  (updateEntry id dto updated).elim (pure ()) AuditLogService.create
  pure updated

def remove (id : String) : Service χ Order := do
  let removed ← prisma (Prisma.order.delete (uuid id))
  AuditLogService.create { endEntry .orderCancelled id removed with metadata := [("reason", .str "deleted")] }
  pure removed

/-! ## `expireOrders` -/

def protectedEscrowStatuses : List EscrowStatus := [.fiatSent, .released, .disputed, .resolved]

def activeOrderStatuses : List OrderStatus := [.created, .locked]

def Expired (now : ℤ) (o : Order) : Prop := (∃ t ∈ o.expiresAt, t < now) ∧ o.orderStatus ∈ activeOrderStatuses

instance (now : ℤ) (o : Order) : Decidable (Expired now o) :=
  match h : o.expiresAt with
  | none => isFalse (by simp [Expired, h])
  | some t => decidable_of_iff (t < now ∧ o.orderStatus ∈ activeOrderStatuses) (by simp [Expired, h])

/-- The one query of the job. -/
def expiredOrders (now : ℤ) (db : Db) : List OrderWithEscrow :=
  (db.orders.rows.filter (fun o => Expired now o)).map fun o => ⟨o, escrowOf db o⟩

theorem mem_expiredOrders {now : ℤ} {db : Db} {row : OrderWithEscrow} : row ∈ expiredOrders now db ↔
    ∃ o ∈ db.orders.rows, Expired now o ∧ row = ⟨o, escrowOf db o⟩ := by
  unfold expiredOrders
  simp only [List.mem_map, List.mem_filter, decide_eq_true_eq, and_assoc, @eq_comm _ _ row]

theorem nodup_expiredOrders (now : ℤ) (db : Db) :
    ((expiredOrders now db).map fun row => row.order.orderId).Nodup := by
  unfold expiredOrders
  rw [List.map_map]
  exact db.orders.nodup_keys.sublist (List.filter_sublist.map _)

def targetStatus (o : Order) : OrderStatus := if o.orderStatus = .locked then .cancelled else .expired

/-- The balance query; what it answers is only logged. -/
def checkBalance (tw : TrustlessWork χ) (row : OrderWithEscrow) : Service χ Unit :=
  match row.escrow.bind (fun e => e.contractId.filter (· ≠ "")) with
  | none => pure ()
  | some contractId => do
    let _ ← Svc.attempt (external (tw.getEscrowBalance contractId))
    pure ()

/-- The write of `processExpiredOrder`, or the fault that hit it. -/
def expireWrite (fault : Option Thrown) (row : OrderWithEscrow) : Service χ Unit :=
  match fault with
  | some t => Svc.throw t
  | none => do
    let _ ← prisma (Prisma.order.update row.order.orderId (setStatus (targetStatus row.order)))
    pure ()

def processExpiredOrder (tw : TrustlessWork χ) (fault : Option Thrown) (row : OrderWithEscrow) : Service χ Unit :=
  if EscrowIn protectedEscrowStatuses row.escrow then pure ()
  else do
    checkBalance tw row
    expireWrite fault row

/-- The loop of the job: an order that throws does not stop it. -/
def processExpiredOrders (tw : TrustlessWork χ) (faults : String → Option Thrown) :
    List OrderWithEscrow → Service χ Unit
  | [] => pure ()
  | row :: rest => do
    let _ ← Svc.attempt (processExpiredOrder tw (faults row.order.orderId) row)
    processExpiredOrders tw faults rest

def expireOrders (tw : TrustlessWork χ) (faults : String → Option Thrown) : Service χ Unit := do
  let w ← Svc.get
  processExpiredOrders tw faults (expiredOrders w.now w.db)

/-! ## What each operation does -/

variable {tw : TrustlessWork χ} {w w' : World χ} {orderId userId : String} {row : OrderWithEscrow}

/-- An order that `cancel` accepts: a party asks, and neither the order nor its escrow is past cancelling. -/
structure Cancellable (userId : String) (row : OrderWithEscrow) : Prop where
  party : row.order.buyerId = userId ∨ row.order.sellerId = userId
  order : row.order.orderStatus ∉ terminalOrderStatuses
  escrow : ¬ EscrowIn blockedEscrowStatuses row.escrow

theorem cancelCheck_eq_ok : (cancelCheck orderId userId).run w = (.ok row, w') ↔
    w' = w ∧ orderWithEscrow w.db (uuid orderId) = some row ∧ Cancellable userId row := by
  unfold cancelCheck
  constructor
  · intro h
    obtain ⟨found, w₀, h₀, hrest₀⟩ := Svc.of_run_bind_ok h
    obtain ⟨rfl, rfl⟩ := of_prisma_lookup_ok h₀
    obtain ⟨r, w₁, h₁, hrest₁⟩ := Svc.of_run_bind_ok hrest₀
    obtain ⟨hr, rfl⟩ := Svc.of_run_orThrow_ok h₁
    obtain ⟨_, w₂, h₂, hrest₂⟩ := Svc.of_run_bind_ok hrest₁
    obtain ⟨hparty, rfl⟩ := Svc.of_run_throwIf_ok h₂
    obtain ⟨_, w₃, h₃, hrest₃⟩ := Svc.of_run_bind_ok hrest₂
    obtain ⟨horder, rfl⟩ := Svc.of_run_throwIf_ok h₃
    obtain ⟨_, w₄, h₄, hrest₄⟩ := Svc.of_run_bind_ok hrest₃
    obtain ⟨hescrow, rfl⟩ := Svc.of_run_throwIf_ok h₄
    cases hrest₄
    exact ⟨rfl, hr, by tauto, horder, hescrow⟩
  · rintro ⟨rfl, hr, hc⟩
    have hparty : ¬ (row.order.buyerId ≠ userId ∧ row.order.sellerId ≠ userId) := by
      have := hc.party
      tauto
    have hfind : (findById orderId).run w' = (.ok (some row), w') := prisma_lookup_of_some hr
    rw [Svc.run_bind_ok hfind, Svc.run_bind_ok (Svc.run_orThrow_some _ _ _),
      Svc.run_bind_ok (Svc.run_throwIf_neg hparty _ _),
      Svc.run_bind_ok (Svc.run_throwIf_neg hc.order _ _), Svc.run_bind_ok (Svc.run_throwIf_neg hc.escrow _ _)]
    rfl

theorem cancelCheck_state (orderId userId : String) (w : World χ) : ((cancelCheck orderId userId).run w).2 = w := by
  have hmoves : Svc.Moves Eq (cancelCheck orderId userId : Service χ OrderWithEscrow) := by
    refine Svc.Moves.bind Eq.trans (prisma_lookup_moves (fun _ => rfl) _ _) fun o => ?_
    refine Svc.Moves.bind Eq.trans (Svc.Moves.orThrow (fun _ => rfl) o _) fun row => ?_
    refine Svc.Moves.bind Eq.trans (Svc.Moves.throwIf (fun _ => rfl) _ _) fun _ => ?_
    refine Svc.Moves.bind Eq.trans (Svc.Moves.throwIf (fun _ => rfl) _ _) fun _ => ?_
    exact Svc.Moves.bind Eq.trans (Svc.Moves.throwIf (fun _ => rfl) _ _) fun _ _ => rfl
  exact (hmoves w).symm

theorem setStatus_id (status : OrderStatus) (o : Order) : (setStatus status o).orderId = o.orderId := rfl

/-- Setting the status of a row that is there is never refused. -/
theorem setStatus_update {db : Db} {k : String} {o : Order} (status : OrderStatus) (ho : db.orders.find? k = some o) :
    ∃ db', Prisma.order.update k (setStatus status) db = .ok (setStatus status o, db') ∧
      Rewritten id (Table.atKey k (setStatus status)) db db' := by
  obtain ⟨db', h⟩ : ∃ db', Prisma.order.update k (setStatus status) db = .ok (setStatus status o, db') :=
    Prisma.order_update_isOk ho rfl rfl rfl rfl
  exact ⟨db', h, Rewritten.of_order_update (setStatus_id status) h⟩

theorem setStatus_update_none {db : Db} {k : String} (status : OrderStatus) (ho : db.orders.find? k = none) :
    Prisma.order.update k (setStatus status) db = .error (.prisma (missing (isUuid k))) := Delegate.update_of_none ho

theorem cancelWrite_cases (orderId : String) (w : World χ) :
    (w.db.orders.find? (uuid orderId) = none ∧ ∃ t, (cancelWrite orderId).run w = (.error t, w)) ∨
    ∃ o db, w.db.orders.find? (uuid orderId) = some o ∧
      (cancelWrite orderId).run w = (.ok (setStatus .cancelled o), { w with db := db }) ∧
      Rewritten id (Table.atKey (uuid orderId) (setStatus .cancelled)) w.db db := by
  cases ho : w.db.orders.find? (uuid orderId) with
  | none => exact Or.inl ⟨rfl, _, prisma_run_error (setStatus_update_none _ ho)⟩
  | some o =>
    obtain ⟨db, h, hre⟩ := setStatus_update .cancelled ho
    exact Or.inr ⟨o, db, rfl, prisma_run_ok h, hre⟩

theorem cancel_cases (orderId userId : String) (w : World χ) :
    ((cancel orderId userId).run w).2 = w ∨
    ∃ row db, ((cancel orderId userId).run w).2 = { w with db := db } ∧
      orderWithEscrow w.db (uuid orderId) = some row ∧ Cancellable userId row ∧
      Rewritten id (Table.atKey (uuid orderId) (setStatus .cancelled)) w.db db := by
  unfold cancel
  rcases hc : (cancelCheck orderId userId).run w with ⟨r, w₁⟩
  cases r with
  | error t =>
    have hw := cancelCheck_state orderId userId w
    rw [hc] at hw
    rw [Svc.run_bind_error hc]
    exact Or.inl hw
  | ok row =>
    obtain ⟨rfl, hrow, hcan⟩ := cancelCheck_eq_ok.mp hc
    rw [Svc.run_bind_ok hc]
    rcases cancelWrite_cases orderId w₁ with ⟨-, t, hrun⟩ | ⟨o, db, -, hrun, hre⟩
    · exact Or.inl (by rw [hrun])
    · exact Or.inr ⟨row, db, by rw [hrun], hrow, hcan, hre⟩

theorem checkBalance_run (tw : TrustlessWork χ) (row : OrderWithEscrow) (w : World χ) :
    ∃ ext, (checkBalance tw row).run w = (.ok (), { w with ext := ext }) := by
  unfold checkBalance
  cases row.escrow.bind (fun e => e.contractId.filter (· ≠ "")) with
  | none => exact ⟨w.ext, rfl⟩
  | some contractId => exact ⟨_, rfl⟩

theorem expireWrite_cases (fault : Option Thrown) (row : OrderWithEscrow) (w : World χ) :
    (∃ t, (expireWrite fault row).run w = (.error t, w)) ∨
    ∃ o db, fault = none ∧ w.db.orders.find? row.order.orderId = some o ∧
      (expireWrite fault row).run w = (.ok (), { w with db := db }) ∧
      Rewritten id (Table.atKey row.order.orderId (setStatus (targetStatus row.order))) w.db db := by
  cases fault with
  | some t => exact Or.inl ⟨t, rfl⟩
  | none =>
    unfold expireWrite
    cases ho : w.db.orders.find? row.order.orderId with
    | none =>
      refine Or.inl ⟨_, Svc.run_bind_error (prisma_run_error (setStatus_update_none _ ho))⟩
    | some o =>
      obtain ⟨db, h, hre⟩ := setStatus_update (targetStatus row.order) ho
      exact Or.inr ⟨o, db, rfl, rfl, Svc.run_bind_ok (prisma_run_ok h), hre⟩

theorem processExpiredOrder_cases (tw : TrustlessWork χ) (fault : Option Thrown) (row : OrderWithEscrow) (w : World χ) :
    (∃ ext, ((processExpiredOrder tw fault row).run w).2 = { w with ext := ext }) ∨
    ∃ ext db, ((processExpiredOrder tw fault row).run w).2 = { w with db := db, ext := ext } ∧
      ¬ EscrowIn protectedEscrowStatuses row.escrow ∧
      Rewritten id (Table.atKey row.order.orderId (setStatus (targetStatus row.order))) w.db db := by
  unfold processExpiredOrder
  by_cases hp : EscrowIn protectedEscrowStatuses row.escrow
  · exact Or.inl ⟨w.ext, by rw [if_pos hp]; rfl⟩
  · rw [if_neg hp]
    obtain ⟨ext, hb⟩ := checkBalance_run tw row w
    rw [Svc.run_bind_ok hb]
    rcases expireWrite_cases fault row { w with ext := ext } with ⟨t, hrun⟩ | ⟨o, db, -, -, hrun, hre⟩
    · exact Or.inl ⟨ext, by rw [hrun]⟩
    · exact Or.inr ⟨ext, db, by rw [hrun], hp, hre⟩

/-- The loop leaves the orders that are not in its list. -/
theorem processExpiredOrders_run (tw : TrustlessWork χ) (faults : String → Option Thrown) :
    ∀ (rows : List OrderWithEscrow) (w : World χ), ∃ ext db g,
      ((processExpiredOrders tw faults rows).run w).2 = { w with db := db, ext := ext } ∧ Rewritten id g w.db db ∧
      ∀ o : Order, o.orderId ∉ rows.map (fun r => r.order.orderId) → g o = o
  | [], w => ⟨w.ext, w.db, id, rfl, Rewritten.refl _, fun _ _ => rfl⟩
  | row :: rest, w => by
    have hstep : ∃ ext db g, ((processExpiredOrder tw (faults row.order.orderId) row).run w).2 =
        { w with db := db, ext := ext } ∧ Rewritten id g w.db db ∧ ∀ o : Order, o.orderId ≠ row.order.orderId → g o = o := by
      rcases processExpiredOrder_cases tw (faults row.order.orderId) row w with ⟨ext, h⟩ | ⟨ext, db, h, -, hre⟩
      · exact ⟨ext, w.db, id, h, Rewritten.refl _, fun _ _ => rfl⟩
      · exact ⟨ext, db, _, h, hre, fun o ho => Table.atKey_ne ho⟩
    obtain ⟨ext, db, g, h, hre, hg⟩ := hstep
    obtain ⟨ext', db', g', h', hre', hg'⟩ := processExpiredOrders_run tw faults rest { w with db := db, ext := ext }
    refine ⟨ext', db', g' ∘ g, ?_, hre.trans hre', fun o ho => ?_⟩
    · unfold processExpiredOrders
      rw [Svc.run_bind_ok (Svc.run_attempt _ _), h, h']
    · rw [List.map_cons, List.mem_cons, not_or] at ho
      rw [Function.comp_apply, hg o ho.1]
      exact hg' o ho.2

/-- **The job** changes no order that is over. -/
theorem expireOrders_run (tw : TrustlessWork χ) (faults : String → Option Thrown) (w : World χ) :
    ∃ ext db g, ((expireOrders tw faults).run w).2 = { w with db := db, ext := ext } ∧ Rewritten id g w.db db ∧
      ∀ o ∈ w.db.orders.rows, o.orderStatus ∈ terminalOrderStatuses → g o = o := by
  obtain ⟨ext, db, g, h, hre, hg⟩ := processExpiredOrders_run tw faults (expiredOrders w.now w.db) w
  refine ⟨ext, db, g, h, hre, fun o ho hterm => hg o fun hmem => ?_⟩
  obtain ⟨row, hrow, hid⟩ := List.mem_map.mp hmem
  obtain ⟨o', ho', rfl⟩ := List.mem_map.mp hrow
  obtain ⟨ho', hexp⟩ := List.mem_filter.mp ho'
  obtain rfl : o' = o := Table.eq_of_clash ho' ho (Or.inl hid)
  have hactive : o'.orderStatus ∈ activeOrderStatuses := (of_decide_eq_true hexp).2
  revert hactive hterm
  cases o'.orderStatus <;> decide

/-! ### `update` and `remove` -/

section Update

variable {codec : Codec} {dto : UpdateOrderDto} {o o' : Order} {db db' : Db} {k : String}

/-- The status an accepted body leaves: its own, or the stored one when it has none. -/
theorem updateData_status (h : updateData codec dto o = .ok o') :
    o'.orderId = o.orderId ∧ (dto.orderStatus = .undefined ∧ o'.orderStatus = o.orderStatus ∨
      dto.orderStatus = .value o'.orderStatus) := by
  unfold updateData at h
  obtain ⟨_, -, h₁⟩ := Except.of_bind_ok h
  obtain ⟨_, -, h₂⟩ := Except.of_bind_ok h₁
  obtain ⟨_, -, h₃⟩ := Except.of_bind_ok h₂
  obtain ⟨_, -, h₄⟩ := Except.of_bind_ok h₃
  obtain ⟨_, -, h₅⟩ := Except.of_bind_ok h₄
  obtain ⟨status, hs, h₆⟩ := Except.of_bind_ok h₅
  obtain ⟨_, -, h₇⟩ := Except.of_bind_ok h₆
  obtain ⟨_, -, h₈⟩ := Except.of_bind_ok h₇
  obtain ⟨_, -, h₉⟩ := Except.of_bind_ok h₈
  obtain ⟨_, -, h₁₀⟩ := Except.of_bind_ok h₉
  obtain ⟨_, -, h₁₁⟩ := Except.of_bind_ok h₁₀
  cases h₁₁
  refine ⟨rfl, ?_⟩
  cases hd : dto.orderStatus with
  | undefined => rw [hd] at hs; cases hs; exact Or.inl ⟨rfl, rfl⟩
  | null => rw [hd] at hs; cases hs
  | value s => rw [hd] at hs; cases hs; exact Or.inr rfl

theorem overwrite_id (o' x : Order) : (overwrite o' x).orderId = x.orderId := rfl

/-- The foreign keys of a row have their rows. -/
def Storable (db : Db) (o : Order) : Prop :=
  db.offers.Has o.offerId ∧ db.users.Has o.buyerId ∧ db.users.Has o.sellerId

instance (db : Db) (o : Order) : Decidable (Storable db o) := inferInstanceAs (Decidable (_ ∧ _))

theorem updateTx_isOk (ho : db.orders.find? k = some o) (hdata : updateData codec dto o = .ok o')
    (hs : Storable db o') : ∃ db', updateTx codec k dto db = .ok (o', db') ∧
      Rewritten id (Table.atKey k (overwrite o')) db db' := by
  have hid : overwrite o' o = o' := by rw [overwrite, ← (updateData_status hdata).1]
  obtain ⟨db', h⟩ : ∃ db', Prisma.order.update k (overwrite o') db =
      .ok (overwrite o' o, db') := Prisma.order_update_isOk_of_has ho rfl hs.1 hs.2.1 hs.2.2
  refine ⟨db', ?_, Rewritten.of_order_update (overwrite_id o') h⟩
  unfold updateTx
  simp only [ho, hdata]
  rw [h, hid]

theorem of_updateTx_ok {r : Order} (h : updateTx codec k dto db = .ok (r, db')) :
    ∃ o, db.orders.find? k = some o ∧ updateData codec dto o = .ok r ∧ Storable db r ∧
      Rewritten id (Table.atKey k (overwrite r)) db db' := by
  unfold updateTx at h
  cases ho : db.orders.find? k with
  | none => rw [ho] at h; cases h
  | some o =>
    simp only [ho] at h
    cases hd : updateData codec dto o with
    | error t => rw [hd] at h; cases h
    | ok o' =>
      simp only [hd] at h
      have hre := Rewritten.of_order_update (overwrite_id o') h
      obtain ⟨o₂, ho₂, hr, hframe, -⟩ := Delegate.of_update h
      obtain rfl : o = o₂ := Option.some.inj (ho.symm.trans ho₂)
      have hid : overwrite o' o = o' := by rw [overwrite, ← (updateData_status hd).1]
      obtain rfl : r = o' := hr.trans hid
      have hrow : db'.orders.find? k = some r := by
        rw [hre.find?_order, ho, Option.map_some, Table.atKey_eq (Table.key_of_find? ho)]
        exact congrArg some hid
      have hmem := (Table.find?_eq_some.mp hrow).1
      have hoffers : db'.offers = db.offers := by rw [hframe]; rfl
      have husers : db'.users = db.users := by rw [hframe]; rfl
      refine ⟨o, rfl, hd, ⟨?_, ?_, ?_⟩, hre⟩
      · rw [← hoffers]; exact db'.refs.orderOffer r hmem
      · rw [← husers]; exact db'.refs.orderBuyer r hmem
      · rw [← husers]; exact db'.refs.orderSeller r hmem

/-- An update that is refused changes nothing; an accepted one rewrites the order as the body says. -/
theorem update_cases (codec : Codec) (orderId : String) (dto : UpdateOrderDto) (w : World χ) :
    ((update codec orderId dto).run w).2 = w ∧
      (∀ o o', w.db.orders.find? (uuid orderId) = some o → updateData codec dto o = .ok o' → ¬ Storable w.db o') ∨
    ∃ o o' db, w.db.orders.find? (uuid orderId) = some o ∧ updateData codec dto o = .ok o' ∧ Storable w.db o' ∧
      ((update codec orderId dto).run w).2 = { w with db := db } ∧
      Rewritten id (Table.atKey (uuid orderId) (overwrite o')) w.db db := by
  unfold update
  cases h : updateTx codec (uuid orderId) dto w.db with
  | error t =>
    refine Or.inl ⟨by rw [Svc.run_bind_error (prisma_run_error h)], fun o o' ho hd hs => ?_⟩
    obtain ⟨db', hok, -⟩ := updateTx_isOk ho hd hs
    rw [hok] at h
    cases h
  | ok r =>
    obtain ⟨o', db⟩ := r
    obtain ⟨o, ho, hd, hs, hre⟩ := of_updateTx_ok h
    rw [Svc.run_bind_ok (prisma_run_ok h)]
    cases he : updateEntry orderId dto o' with
    | none => exact Or.inr ⟨o, o', db, ho, hd, hs, rfl, hre⟩
    | some entry =>
      obtain ⟨db', hrun, hre'⟩ := AuditLogService.create_run entry { w with db := db }
      exact Or.inr ⟨o, o', db', ho, hd, hs, by rw [Option.elim_some, Svc.run_bind_ok hrun]; rfl, hre.trans hre'⟩

end Update

/-- Removing an order that is there deletes it and its escrow. -/
theorem remove_cases (orderId : String) (w : World χ) :
    ((remove orderId).run w).2 = w ∧ w.db.orders.find? (uuid orderId) = none ∨
    ∃ db, ((remove orderId).run w).2 = { w with db := db } ∧
      db.orders.rows = w.db.orders.rows.filter (fun x => x.orderId ≠ uuid orderId) ∧
      db.escrows.rows = w.db.escrows.rows.filter (fun e => e.orderId ≠ uuid orderId) := by
  unfold remove
  cases ho : w.db.orders.find? (uuid orderId) with
  | none =>
    exact Or.inl ⟨by rw [Svc.run_bind_error (prisma_run_error (Prisma.order_delete_of_none ho))], rfl⟩
  | some o =>
    obtain ⟨db, hdel⟩ := Prisma.order_delete_isOk ho
    have htables := (Prisma.order_delete_eq_ok.mp hdel).2
    obtain ⟨db', hrun, hre⟩ := AuditLogService.create_run
      { endEntry .orderCancelled orderId o with metadata := [("reason", .str "deleted")] } { w with db := db }
    refine Or.inr ⟨db', ?_, ?_, ?_⟩
    · rw [Svc.run_bind_ok (prisma_run_ok hdel), Svc.run_bind_ok hrun, Svc.run_pure]
    · rw [hre.orders, List.map_id, htables]
      rfl
    · rw [hre.escrows, List.map_id, htables]
      rfl

end OrderService

end IKash
