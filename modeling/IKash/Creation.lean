import IKash.Executions

/-!
# What a creation leaves

`OrderService.create` deploys the contract, writes the order, its escrow and the mark of the offer in one transaction, and
hands an audit record over. A fault can hit every statement of the transaction and its commit, beside the deployment and
the audit write (`CreationFaults`).

- `createUnder_none`: without faults this is `create`;
- `of_createTxUnder_ok`: a transaction that commits is the one without faults;
- `create_atomic`: the call throws and leaves the database, or it answers and has written the three rows.
-/

namespace IKash

open Lib

variable {χ : Type}

/-- The faults of the order insertion, of the escrow insertion, of the offer update, of the commit and of the audit
write. -/
structure CreationFaults where
  order : Option Thrown := none
  escrow : Option Thrown := none
  offer : Option Thrown := none
  commit : Option Thrown := none
  audit : Option Thrown := none

/-- The statement, or the fault that hits it. -/
def Tx.faulty {α : Type} (fault : Option Thrown) (tx : Tx α) : Tx α :=
  match fault with
  | some t => StateT.lift (.error t)
  | none => tx

@[simp] theorem Tx.faulty_none {α : Type} (tx : Tx α) : Tx.faulty none tx = tx := rfl

theorem Tx.of_faulty_ok {α : Type} {fault : Option Thrown} {tx : Tx α} {db : Db} {r : α × Db}
    (h : Tx.faulty fault tx db = .ok r) : fault = none ∧ tx db = .ok r := by
  cases fault with
  | some t => cases h
  | none => exact ⟨rfl, h⟩

namespace OrderService

open EscrowService

/-- `createTx` with faults. -/
def createTxUnder (faults : CreationFaults) (codec : AmountCodec) (orderId freshId contractId : String)
    (dto : CreateOrderDto) : Tx Order := do
  let row ← StateT.lift (orderRow codec orderId dto)
  let order ← Tx.faulty faults.order (Prisma.order.create row)
  let _ ← Tx.faulty faults.escrow
    (Prisma.escrowOnChain.create (escrowRow orderId freshId contractId dto order.assetAmount))
  let _ ← Tx.faulty faults.offer (Prisma.offer.update (uuid dto.offerId) fun o => { o with executed := true })
  Tx.faulty faults.commit (pure order)

/-- `create` with faults. -/
def createUnder (tw : TrustlessWorkService χ) (config : EscrowConfig) (codec : AmountCodec) (dto : CreateOrderDto)
    (orderId freshId : String) (faults : CreationFaults) : Service χ OrderDetailResponse := do
  let deployed ← deployEscrowToChain tw config orderId (deployDto codec orderId dto)
  let order ← prisma (createTxUnder faults codec orderId freshId deployed.contractId dto)
  recordUnless faults.audit (createdEntry orderId dto)
  pure ⟨order, freshId, deployed.contractId, deployed.unsignedFundTransaction⟩

theorem createUnder_none (tw : TrustlessWorkService χ) (config : EscrowConfig) (codec : AmountCodec)
    (dto : CreateOrderDto) (orderId freshId : String) :
    createUnder tw config codec dto orderId freshId {} = create tw config codec dto orderId freshId {} := by
  have htx : ∀ contractId, createTxUnder {} codec orderId freshId contractId dto =
      createTx codec orderId freshId contractId dto := fun contractId => by
    unfold createTxUnder createTx
    simp only [Tx.faulty_none]
  have hplain : ∀ tx : Tx Order, faulty ({} : DbFaults).create (prisma tx : Service χ Order) = prisma tx := fun _ => rfl
  unfold createUnder create
  simp only [htx, hplain]

/-! ## The transaction -/

/-- The order with the generated id and its escrow are there, each the only one, and the offer is executed; the other
orders and escrows are as they were, and so are the other offers. -/
structure Created (codec : AmountCodec) (dto : CreateOrderDto) (orderId contractId : String) (db db' : Db) : Prop where
  order : ∃ o, orderRow codec orderId dto = .ok o ∧ db'.orders.rows = db.orders.rows ++ [o] ∧
    ∀ x ∈ db'.orders.rows, x.orderId = uuid orderId ↔ x = o
  escrow : ∃ e, e.contractId = some contractId ∧ e.escrowStatus = .initialized ∧
    db'.escrows.rows = db.escrows.rows ++ [e] ∧ ∀ x ∈ db'.escrows.rows, x.orderId = uuid orderId ↔ x = e
  offers : db'.offers.rows = db.offers.rows.map (Table.atKey (uuid dto.offerId) markExecuted)
  executed : IsExecuted db' (uuid dto.offerId)

/-- An audit record leaves the three tables. -/
theorem Created.of_rewritten {codec : AmountCodec} {dto : CreateOrderDto} {orderId contractId : String} {db db' db'' : Db}
    (h : Created codec dto orderId contractId db db') (hre : Rewritten id id db' db'') :
    Created codec dto orderId contractId db db'' := by
  have horders : db''.orders.rows = db'.orders.rows := by rw [hre.orders, List.map_id]
  have hescrows : db''.escrows.rows = db'.escrows.rows := by rw [hre.escrows, List.map_id]
  have hoffers : db''.offers.rows = db'.offers.rows := by rw [hre.frame]
  constructor
  · rw [horders]
    exact h.order
  · rw [hescrows]
    exact h.escrow
  · rw [hoffers]
    exact h.offers
  · exact (isExecuted_of_rows hoffers).mpr h.executed

section Transaction

variable {codec : AmountCodec} {dto : CreateOrderDto} {orderId freshId contractId : String} {db db' : Db} {o : Order}
  {faults : CreationFaults}

theorem of_createTxUnder_ok (h : createTxUnder faults codec orderId freshId contractId dto db = .ok (o, db')) :
    createTx codec orderId freshId contractId dto db = .ok (o, db') := by
  obtain ⟨row, db₁, h₁, hrest⟩ := Tx.of_bind_ok h
  obtain ⟨order, db₂, h₂, hrest⟩ := Tx.of_bind_ok hrest
  obtain ⟨e, db₃, h₃, hrest⟩ := Tx.of_bind_ok hrest
  obtain ⟨f, db₄, h₄, hrest⟩ := Tx.of_bind_ok hrest
  obtain ⟨-, hcreate⟩ := Tx.of_faulty_ok h₂
  obtain ⟨-, hescrow⟩ := Tx.of_faulty_ok h₃
  obtain ⟨-, hoffer⟩ := Tx.of_faulty_ok h₄
  obtain ⟨-, hpure⟩ := Tx.of_faulty_ok hrest
  unfold createTx
  rw [Tx.bind_ok h₁, Tx.bind_ok hcreate, Tx.bind_ok hescrow, Tx.bind_ok hoffer]
  exact hpure

/-- The order of a transaction that commits is new. -/
theorem order_of_createTx (h : createTx codec orderId freshId contractId dto db = .ok (o, db')) :
    orderRow codec orderId dto = .ok o ∧ db.orders.insert o = some db'.orders := by
  obtain ⟨row, db₁, h₁, hrest⟩ := Tx.of_bind_ok h
  obtain ⟨order, db₂, h₂, hrest⟩ := Tx.of_bind_ok hrest
  obtain ⟨_, db₃, h₃, hrest⟩ := Tx.of_bind_ok hrest
  obtain ⟨_, db₄, h₄, hrest⟩ := Tx.of_bind_ok hrest
  cases hrest
  cases hrow : orderRow codec orderId dto with
  | error t =>
    rw [hrow] at h₁
    cases h₁
  | ok x =>
    rw [hrow] at h₁
    cases h₁
    obtain ⟨t, hinsert, rfl, hdb₂⟩ := Delegate.create_eq_ok.mp h₂
    obtain ⟨_, -, -, hdb₃⟩ := Delegate.create_eq_ok.mp h₃
    obtain ⟨-, -, -, hdb₄, -⟩ := Delegate.of_update h₄
    have h₂t : db₂.orders = t := by rw [hdb₂]; rfl
    have h₃₂ : db₃.orders = db₂.orders := by rw [hdb₃]; rfl
    have h₄₃ : db'.orders = db₃.orders := by rw [hdb₄]; rfl
    rw [h₄₃, h₃₂, h₂t]
    exact ⟨rfl, hinsert⟩

/-- **A transaction that commits** has written the order, the escrow and the mark of the offer. -/
theorem created_of_createTx (h : createTx codec orderId freshId contractId dto db = .ok (o, db')) :
    Created codec dto orderId contractId db db' := by
  obtain ⟨hable, hpersists⟩ := createTx_persists (r := ⟨dto, orderId, freshId, {}⟩) h
  refine ⟨?_, ?_, hpersists.offers, hpersists.isExecuted_iff.mpr (Or.inr rfl)⟩
  · obtain ⟨hrow, hinsert⟩ := order_of_createTx h
    have hid : o.orderId = uuid orderId := (of_orderRow_ok hrow).1
    refine ⟨o, hrow, Table.rows_insert hinsert, fun x hx => ⟨fun hkey => ?_, fun hx => hx ▸ hid⟩⟩
    exact Table.eq_of_clash hx ((Table.mem_insert hinsert).mpr (Or.inr rfl)) (Or.inl (hkey.trans hid.symm))
  · obtain ⟨amount, -, hinsert⟩ := of_createTx_ok h
    refine ⟨escrowRow orderId freshId contractId dto amount, rfl, rfl, Table.rows_insert hinsert, fun x hx => ?_⟩
    constructor
    · intro hkey
      refine Table.eq_of_clash hx ((Table.mem_insert hinsert).mpr (Or.inr rfl)) (Or.inr ⟨_, List.mem_cons_self, ?_, ?_⟩)
      · exact Option.some_ne_none _
      · exact congrArg some hkey
    · rintro rfl
      rfl

end Transaction

/-! ## The call -/

/-- **All or nothing**: the call throws and the database is as it was; or it answers, and has written the order, its
escrow with the contract that was deployed, and the mark of the offer. -/
theorem create_atomic (tw : TrustlessWorkService χ) (config : EscrowConfig) (codec : AmountCodec) (dto : CreateOrderDto)
    (orderId freshId : String) (faults : CreationFaults) (w : World χ) :
    (∃ t w', (createUnder tw config codec dto orderId freshId faults).run w = (.error t, w') ∧ w'.db = w.db) ∨
    ∃ response w' deployed w₁, (createUnder tw config codec dto orderId freshId faults).run w = (.ok response, w') ∧
      (deployEscrowToChain tw config orderId (deployDto codec orderId dto)).run w = (.ok deployed, w₁) ∧
      response.contractId = deployed.contractId ∧
      Created codec dto orderId deployed.contractId w.db w'.db := by
  have hsame := deployEscrowToChain_moves tw config orderId (deployDto codec orderId dto) w
  unfold createUnder
  rcases hdeploy : (deployEscrowToChain tw config orderId (deployDto codec orderId dto)).run w with ⟨t | d, w₁⟩
  · rw [hdeploy] at hsame
    exact Or.inl ⟨t, w₁, Svc.run_bind_error hdeploy, hsame⟩
  rw [hdeploy] at hsame
  have hdb : w₁.db = w.db := hsame
  rw [Svc.run_bind_ok hdeploy]
  cases htx : createTxUnder faults codec orderId freshId d.contractId dto w₁.db with
  | error t => exact Or.inl ⟨t, w₁, Svc.run_bind_error (prisma_run_error htx), hdb⟩
  | ok r =>
    obtain ⟨o, db⟩ := r
    have hcreated : Created codec dto orderId d.contractId w.db db := by
      rw [← hdb]
      exact created_of_createTx (of_createTxUnder_ok htx)
    -- the audit record is handed over last, and its failure is swallowed
    obtain ⟨db', haudit, hre⟩ := recordUnless_run faults.audit (createdEntry orderId dto) { w₁ with db := db }
    rw [Svc.run_bind_ok (prisma_run_ok htx), Svc.run_bind_ok haudit]
    exact Or.inr ⟨_, _, d, w₁, rfl, rfl, rfl, hcreated.of_rewritten hre⟩

end OrderService

end IKash
