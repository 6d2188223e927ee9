import IKash.Deployments
import IKash.Resume

/-!
# One order for each offer

Interleavings of `OrderService.create`. Its transaction marks the offer as executed, and nothing looks at the mark: an offer
can be taken again, before or after it was marked.

- `createTx_persists`: what a transaction that commits has found and written;
- `create_stepped`: a step leaves the orders, the escrows and the offers, or it commits the transaction of its call;
- `one_order_per_offer`: under every schedule in which no call persists an order for an executed offer (`Untaken`), an offer
  has one order at most, and a call that finds its offer executed leaves no row.
-/

namespace IKash

open Lib OrderService

variable {χ : Type}

/-! ## The transaction -/

structure CreateRequest where
  dto : CreateOrderDto
  orderId : String
  freshId : String
  faults : DbFaults := {}

def IsExecuted (db : Db) (offerId : String) : Prop := ∃ f, db.offers.find? offerId = some f ∧ f.executed = true

/-- The rows of the request can be stored: its columns can be read, its ids are new, and what it refers to is there. -/
structure Persistable (codec : AmountCodec) (r : CreateRequest) (contractId : String) (db : Db) : Prop where
  row : ∃ row, orderRow codec r.orderId r.dto = .ok row ∧
    ∀ e ∈ db.escrows.rows, ¬ Clash e (escrowRow r.orderId r.freshId contractId r.dto row.assetAmount)
  order : ¬ db.orders.Has (uuid r.orderId)
  offer : db.offers.Has (uuid r.dto.offerId)
  buyer : db.users.Has (uuid r.dto.buyerId)
  seller : db.users.Has (uuid r.dto.sellerId)

def markExecuted (f : Offer) : Offer := { f with executed := true }

/-- A new order for the offer, which is executed. -/
structure Persists (offerId : String) (db db' : Db) : Prop where
  order : ∃ o, db'.orders.rows = db.orders.rows ++ [o] ∧ o.offerId = offerId
  offers : db'.offers.rows = db.offers.rows.map (Table.atKey offerId markExecuted)
  present : db.offers.Has offerId

section Transaction

variable {codec : AmountCodec} {r : CreateRequest} {contractId : String} {db db' : Db} {o row : Order}

theorem of_orderRow_ok {orderId : String} {dto : CreateOrderDto} (h : orderRow codec orderId dto = .ok row) :
    row.orderId = uuid orderId ∧ row.offerId = uuid dto.offerId ∧ row.buyerId = uuid dto.buyerId ∧
      row.sellerId = uuid dto.sellerId := by
  obtain ⟨_, -, h₁⟩ := Except.of_bind_ok h
  obtain ⟨_, -, h₂⟩ := Except.of_bind_ok h₁
  obtain ⟨_, -, h₃⟩ := Except.of_bind_ok h₂
  cases h₃
  exact ⟨rfl, rfl, rfl, rfl⟩

/-- **A transaction that commits** could store its rows, and has executed the offer. -/
theorem createTx_persists (h : createTx codec r.orderId r.freshId contractId r.dto db = .ok (o, db')) :
    Persistable codec r contractId db ∧ Persists (uuid r.dto.offerId) db db' := by
  obtain ⟨row, db₁, h₁, hrest₁⟩ := Tx.of_bind_ok h
  obtain ⟨order, db₂, h₂, hrest₂⟩ := Tx.of_bind_ok hrest₁
  obtain ⟨_, db₃, h₃, hrest₃⟩ := Tx.of_bind_ok hrest₂
  obtain ⟨_, db₄, h₄, hrest₄⟩ := Tx.of_bind_ok hrest₃
  cases hrest₄
  cases hrow : orderRow codec r.orderId r.dto with
  | error t =>
    rw [hrow] at h₁
    cases h₁
  | ok x =>
    rw [hrow] at h₁
    cases h₁
    obtain ⟨hid, hoffer, hbuyer, hseller⟩ := of_orderRow_ok hrow
    obtain ⟨t₂, hinsert₂, rfl, hdb₂⟩ := Delegate.create_eq_ok.mp h₂
    obtain ⟨t₃, hinsert₃, -, hdb₃⟩ := Delegate.create_eq_ok.mp h₃
    obtain ⟨f, hf, -, hdb₄, hrows₄⟩ := Delegate.of_update h₄
    have horders : db'.orders.rows = db.orders.rows ++ [o] := by
      rw [hdb₄]
      show db₃.orders.rows = _
      rw [hdb₃]
      show db₂.orders.rows = _
      rw [hdb₂]
      exact Table.rows_insert hinsert₂
    have hoffers : db₃.offers = db.offers := by
      rw [hdb₃]
      show db₂.offers = _
      rw [hdb₂]
      rfl
    have hescrows : db₂.escrows = db.escrows := by
      rw [hdb₂]
      rfl
    have husers : db₂.users = db.users := by
      rw [hdb₂]
      rfl
    have hmem : o ∈ db₂.orders.rows := by
      rw [hdb₂]
      exact (Table.mem_insert hinsert₂).mpr (Or.inr rfl)
    have hpresent : db.offers.Has (uuid r.dto.offerId) := by
      rw [← hoffers]
      exact Table.has_iff.mpr ⟨f, hf⟩
    refine ⟨⟨⟨o, hrow, ?_⟩, ?_, hpresent, ?_, ?_⟩, ⟨o, horders, hoffer⟩, ?_, hpresent⟩
    · rw [← hescrows]
      exact Table.not_clash_of_insert hinsert₃
    · rintro ⟨x, hx, hkey⟩
      exact Table.not_clash_of_insert hinsert₂ x hx (Or.inl (hkey.trans hid.symm))
    · rw [← husers, ← hbuyer]
      exact db₂.refs.orderBuyer o hmem
    · rw [← husers, ← hseller]
      exact db₂.refs.orderSeller o hmem
    · rw [← hoffers]
      exact hrows₄

end Transaction

/-! ## Steps -/

def CreateRequest.deployer (r : CreateRequest) : Deployer := .createOrder r.dto r.orderId r.freshId r.faults

def CreateRequest.op (r : CreateRequest) : DeployOp := .createOrder r.dto r.orderId r.freshId r.faults

/-- A call of `OrderService.create`. -/
inductive Creating : DeployCall → Prop
  | build (r : CreateRequest) : Creating (.build r.deployer)
  | broadcast (r : CreateRequest) (unsignedTransaction secret : String) :
    Creating (.broadcast r.deployer unsignedTransaction secret)
  | fund (r : CreateRequest) (contractId : String) : Creating (.fund r.deployer contractId)
  | write (r : CreateRequest) (contractId : String) : Creating (.write r.deployer contractId)
  | orderAudit (dto : CreateOrderDto) (orderId : String) (faults : DbFaults) : Creating (.orderAudit dto orderId faults)
  | done : Creating .done

/-- The orders, the escrows and the offers are as they were. -/
structure Untouched (w w' : World χ) : Prop where
  orders : w'.db.orders.rows = w.db.orders.rows
  escrows : w'.db.escrows.rows = w.db.escrows.rows
  offers : w'.db.offers.rows = w.db.offers.rows

theorem Untouched.of_db {w w' : World χ} (h : w'.db = w.db) : Untouched w w' := by
  refine ⟨?_, ?_, ?_⟩ <;> rw [h]

variable {env : EscrowEnv χ} {w w' : World χ} {c : DeployCall}

/-- What a step has done: nothing to the tables; or the transaction of the call. -/
def CreateStep (env : EscrowEnv χ) (w : World χ) (c : DeployCall) (w' : World χ) (c' : DeployCall) : Prop :=
  Untouched w w' ∧ (∀ r contractId, c = .write (CreateRequest.deployer r) contractId → c' = .done) ∨
  ∃ r contractId, c = .write (CreateRequest.deployer r) contractId ∧ r.faults.create = none ∧
    Persistable env.codec r contractId w.db ∧ Persists (uuid r.dto.offerId) w.db w'.db

theorem creating_await {α : Type} {m : Service χ α} {k : α → DeployCall} (hk : ∀ a, Creating (k a)) (w : World χ) :
    Creating (Pool.await .done m k w).2 := by
  rcases Pool.await_snd .done m k w with h | ⟨a, -, h⟩
  · rw [h]
    exact .done
  · rw [h]
    exact hk a

/-- A step that does not read or write the database. -/
theorem createStep_await {α : Type} {m : Service χ α} {k : α → DeployCall} (hm : (m.run w).2.db = w.db)
    (hc : ∀ r contractId, c ≠ .write (CreateRequest.deployer r) contractId) :
    CreateStep env w c (Pool.await .done m k w).1 (Pool.await .done m k w).2 :=
  Or.inl ⟨.of_db (by rw [Pool.await_fst]; exact hm), fun r contractId h => absurd h (hc r contractId)⟩

/-- The write of a call is refused, or its transaction commits. -/
theorem persist_run (codec : AmountCodec) (r : CreateRequest) (contractId : String) (w : World χ) :
    (∃ t, (faulty r.faults.create (prisma (createTx codec r.orderId r.freshId contractId r.dto))).run w = (.error t, w)) ∨
    ∃ o db, r.faults.create = none ∧ createTx codec r.orderId r.freshId contractId r.dto w.db = .ok (o, db) ∧
      (faulty r.faults.create (prisma (createTx codec r.orderId r.freshId contractId r.dto))).run w =
        (.ok o, { w with db := db }) := by
  rcases EscrowService.faulty_run r.faults.create (prisma (createTx codec r.orderId r.freshId contractId r.dto)) w with
    ⟨t, -, hrun⟩ | ⟨hnone, hrun⟩
  · exact Or.inl ⟨t, hrun⟩
  rw [hrun]
  cases htx : createTx codec r.orderId r.freshId contractId r.dto w.db with
  | error t => exact Or.inl ⟨t, prisma_run_error htx⟩
  | ok x => exact Or.inr ⟨x.1, x.2, hnone, rfl, prisma_run_ok htx⟩

/-- **A step of a creation**. -/
theorem create_stepped (env : EscrowEnv χ) (w : World χ) (hc : Creating c) :
    CreateStep env w c (deployStep env w c).1 (deployStep env w c).2 ∧ Creating (deployStep env w c).2 := by
  cases hc with
  | build r =>
    rw [deployStep]
    refine ⟨createStep_await (deployBuild_moves _ _ _ _ w) (fun _ _ h => by cases h), ?_⟩
    exact creating_await (fun built => Creating.broadcast r _ _) w
  | broadcast r unsigned secret =>
    rw [deployStep]
    refine ⟨createStep_await (deployBroadcast_moves _ _ _ _ w) (fun _ _ h => by cases h), ?_⟩
    exact creating_await (fun contractId => Creating.fund r contractId) w
  | fund r contractId =>
    rw [deployStep]
    refine ⟨createStep_await (external_moves _ w) (fun _ _ h => by cases h), ?_⟩
    exact creating_await (fun _ => Creating.write r contractId) w
  | write r contractId =>
    have hstep : deployStep env w (.write r.deployer contractId) =
        Pool.await .done (faulty r.faults.create (prisma (createTx env.codec r.orderId r.freshId contractId r.dto)))
          (fun _ => DeployCall.orderAudit r.dto r.orderId r.faults) w := rfl
    rw [hstep]
    refine ⟨?_, creating_await (fun _ => Creating.orderAudit r.dto r.orderId r.faults) w⟩
    rw [Pool.await]
    rcases persist_run env.codec r contractId w with ⟨t, hrun⟩ | ⟨o, db, hnone, htx, hrun⟩
    · rw [hrun]
      exact Or.inl ⟨.of_db rfl, fun _ _ _ => rfl⟩
    · rw [hrun]
      obtain ⟨hable, hpersists⟩ := createTx_persists htx
      exact Or.inr ⟨r, contractId, rfl, hnone, hable, hpersists⟩
  | orderAudit dto orderId faults =>
    obtain ⟨db, hrun, hre⟩ := recordUnless_run faults.audit (createdEntry orderId dto) w
    refine ⟨Or.inl ⟨?_, (fun _ _ h => by cases h)⟩, creating_await (fun _ => Creating.done) w⟩
    rw [deployStep, Pool.await_fst, hrun]
    exact ⟨by rw [hre.orders, List.map_id], by rw [hre.escrows, List.map_id], by rw [hre.frame]⟩
  | done => exact ⟨Or.inl ⟨.of_db rfl, fun _ _ _ => rfl⟩, .done⟩

/-! ## Runs -/

/-- The requests that have come in. -/
def creates (w : World χ) (reqs : ℕ → CreateRequest) : Pool (World χ) DeployCall := received w fun i => (reqs i).op

/-- An offer has one order at most, and is executed when it has one. -/
structure SoldOnce (db : Db) : Prop where
  once : ∀ o ∈ db.orders.rows, ∀ o' ∈ db.orders.rows, o.offerId = o'.offerId → o = o'
  executed : ∀ o ∈ db.orders.rows, IsExecuted db o.offerId

/-- The call that steps is not about to persist an order for an executed offer. -/
def Untaken (env : EscrowEnv χ) (p : Pool (World χ) DeployCall) (j : ℕ) : Prop :=
  ∀ r contractId, p.calls j = .write (CreateRequest.deployer r) contractId → IsExecuted p.shared.db (uuid r.dto.offerId) →
    r.faults.create ≠ none ∨ ¬ Persistable env.codec r contractId p.shared.db

/-- A call that finds its offer executed fails, and leaves no row. -/
def RefusesExecuted (env : EscrowEnv χ) (p : Pool (World χ) DeployCall) (j : ℕ) : Prop :=
  ∀ r contractId, p.calls j = .write (CreateRequest.deployer r) contractId → IsExecuted p.shared.db (uuid r.dto.offerId) →
    Untouched p.shared ((deployCalls env).next p j).shared ∧ ((deployCalls env).next p j).calls j = .done

section Runs

variable {db db' : Db} {p : Pool (World χ) DeployCall} {j : ℕ} {k offerId : String}

theorem isExecuted_of_rows (h : db'.offers.rows = db.offers.rows) : IsExecuted db' k ↔ IsExecuted db k := by
  unfold IsExecuted Table.find?
  rw [h]

/-- Executing an offer executes it, and leaves the others. -/
theorem Persists.isExecuted_iff (h : Persists offerId db db') : IsExecuted db' k ↔ IsExecuted db k ∨ k = offerId := by
  have hfind : db'.offers.find? k = (db.offers.find? k).map (Table.atKey offerId markExecuted) :=
    Table.find?_map h.offers (Table.atKey_column _ fun _ => rfl)
  unfold IsExecuted
  rw [hfind]
  constructor
  · rintro ⟨f, hf, hexecuted⟩
    obtain ⟨f₀, hf₀, rfl⟩ := Option.map_eq_some_iff.mp hf
    rcases Table.atKey_cases offerId markExecuted f₀ with hsame | ⟨hkey, -⟩
    · exact Or.inl ⟨f₀, hf₀, hsame ▸ hexecuted⟩
    · exact Or.inr ((Table.key_of_find? hf₀).symm.trans hkey)
  · rintro (⟨f, hf, hexecuted⟩ | rfl)
    · refine ⟨Table.atKey offerId markExecuted f, by rw [hf]; rfl, ?_⟩
      rcases Table.atKey_cases offerId markExecuted f with hsame | ⟨-, hnew⟩
      · rw [hsame]
        exact hexecuted
      · rw [hnew]
        rfl
    · obtain ⟨f, hf⟩ := Table.has_iff.mp h.present
      exact ⟨markExecuted f, by rw [hf, Option.map_some, Table.atKey_eq (Table.key_of_find? hf)], rfl⟩

theorem SoldOnce.of_rows (h : SoldOnce db) (ho : db'.orders.rows = db.orders.rows)
    (hf : db'.offers.rows = db.offers.rows) : SoldOnce db' where
  once := by rw [ho]; exact h.once
  executed o hmem := (isExecuted_of_rows hf).mpr (h.executed o (ho ▸ hmem))

/-- An order for an offer that was not executed. -/
theorem SoldOnce.persists (h : SoldOnce db) (hp : Persists offerId db db') (hnew : ¬ IsExecuted db offerId) :
    SoldOnce db' := by
  obtain ⟨o, horders, ho⟩ := hp.order
  have hfirst : ∀ x ∈ db.orders.rows, x.offerId ≠ o.offerId := by
    rintro x hx heq
    exact hnew ((heq.trans ho) ▸ h.executed x hx)
  constructor
  · rw [horders]
    intro x hx y hy heq
    rcases List.mem_append.mp hx with hx | hx <;> rcases List.mem_append.mp hy with hy | hy
    · exact h.once x hx y hy heq
    · rw [List.mem_singleton.mp hy] at heq
      exact absurd heq (hfirst x hx)
    · rw [List.mem_singleton.mp hx] at heq
      exact absurd heq.symm (hfirst y hy)
    · rw [List.mem_singleton.mp hx, List.mem_singleton.mp hy]
  · rw [horders]
    intro x hx
    rcases List.mem_append.mp hx with hx | hx
    · exact hp.isExecuted_iff.mpr (Or.inl (h.executed x hx))
    · rw [List.mem_singleton.mp hx]
      exact hp.isExecuted_iff.mpr (Or.inr ho)

/-- What every schedule keeps. -/
def SaleInv (p : Pool (World χ) DeployCall) : Prop := SoldOnce p.shared.db ∧ ∀ i, Creating (p.calls i)

/-- **One step** under the condition. -/
theorem saleInv_next (env : EscrowEnv χ) (h : SaleInv p) (hC : Untaken env p j) :
    SaleInv ((deployCalls env).next p j) ∧ RefusesExecuted env p j := by
  obtain ⟨hstep, hcreating⟩ := create_stepped env p.shared (h.2 j)
  have hcalls : ∀ i, Creating (((deployCalls env).next p j).calls i) := by
    intro i
    rw [Pool.next_calls]
    by_cases hij : i = j
    · rw [hij, Function.update_self]
      exact hcreating
    · rw [Function.update_of_ne hij]
      exact h.2 i
  rcases hstep with ⟨hquiet, hdone⟩ | ⟨r, contractId, hcall, hfault, hable, hpersists⟩
  · refine ⟨⟨h.1.of_rows hquiet.orders hquiet.offers, hcalls⟩, fun r contractId hcall _ => ⟨hquiet, ?_⟩⟩
    rw [Pool.next_calls, Function.update_self]
    exact hdone r contractId hcall
  · have hnew : ¬ IsExecuted p.shared.db (uuid r.dto.offerId) := fun hexecuted =>
      (hC r contractId hcall hexecuted).elim (fun hf => hf hfault) fun hnot => hnot hable
    refine ⟨⟨h.1.persists hpersists hnew, hcalls⟩, fun r' contractId' hcall' hexecuted => ?_⟩
    have hoffer : r'.dto.offerId = r.dto.offerId := by
      have hsame := hcall'.symm.trans hcall
      unfold CreateRequest.deployer at hsame
      injection hsame with hsame _
      injection hsame with hdto
      rw [hdto]
    exact absurd (hoffer ▸ hexecuted) hnew

/-- **One order for each offer** in every state that a schedule reaches, and no row of a call that finds its offer executed,
when no call persists an order for an executed offer. -/
theorem one_order_per_offer (env : EscrowEnv χ) (w : World χ) (h0 : SoldOnce w.db) (reqs : ℕ → CreateRequest)
    (schedule : List ℕ) (h : (deployCalls env).Along (Untaken env) (creates w reqs) schedule) :
    (deployCalls env).Along (fun p j => SoldOnce ((deployCalls env).next p j).shared.db ∧ RefusesExecuted env p j)
      (creates w reqs) schedule := by
  have hstart : SaleInv (creates w reqs) := ⟨h0, fun i => .build (reqs i)⟩
  refine Machine.along_of_inv (I := SaleInv) (fun p j hp hC => (saleInv_next env hp hC).1) (fun p j hp hC => ?_) hstart h
  obtain ⟨hnext, hrefuses⟩ := saleInv_next env hp hC
  exact ⟨hnext.1, hrefuses⟩

/-- A call that is not at its transaction. -/
theorem untaken_of_not_write (h : ∀ d contractId, p.calls j ≠ .write d contractId) : Untaken env p j :=
  fun r contractId hcall => absurd hcall (h r.deployer contractId)

theorem untaken_of_no_executed (h : ∀ f ∈ p.shared.db.offers.rows, f.executed = false) : Untaken env p j := by
  rintro r contractId - ⟨f, hf, hexecuted⟩
  rw [h f (Table.find?_eq_some.mp hf).1] at hexecuted
  cases hexecuted

end Runs

namespace Desk

/-- Two accounts and an offer. -/
def market : Db where
  users := (Trade.db .created .pending).users
  offers := (Trade.db .created .pending).offers
  refs := by
    rw [Tables.refs_iff]
    simp [Table.Has, Table.empty, Keyed.key, Trade.db, Trade.seller, Trade.buyer]

def marketWorld : World Deployments := { world with db := market }

/-- Two orders of the buyer for the same offer. -/
def takes (i : ℕ) : CreateRequest where
  dto := {
    offerId := "f1"
    buyerId := "u2"
    sellerId := "u1"
    assetAmount := "5"
    fiatAmount := "5"
    sellerAddress := "GSELLER"
    buyerAddress := "GBUYER"
    assetCode := "USDC"
    title := some "Trade" }
  orderId := if i = 0 then order else otherOrder
  freshId := if i = 0 then "e1" else "e2"

def takesBook : Book := [("a", payload order "Trade" "GBUYER" 5), ("b", payload otherOrder "Trade" "GBUYER" 5)]

theorem market_soldOnce : SoldOnce marketWorld.db :=
  ⟨(fun _ h => by cases h), fun _ h => by cases h⟩

/-- The database takes no transaction of the second call. -/
def takesFailing (i : ℕ) : CreateRequest :=
  { takes i with faults := if i = 1 then { create := some (.prisma .unavailable) } else {} }

/-- Two overlapping calls: the second finds the offer executed, and its transaction fails. -/
theorem taken_once : (deployCalls (escrowEnv takesBook)).Along
    (fun p j => SoldOnce ((deployCalls (escrowEnv takesBook)).next p j).shared.db ∧
      RefusesExecuted (escrowEnv takesBook) p j) (creates marketWorld takesFailing) [0, 1, 0, 1, 0, 1, 0, 1, 0, 1] := by
  refine one_order_per_offer _ _ market_soldOnce takesFailing _ ⟨?_, ?_, ?_, ?_, ?_, ?_, ?_, ?_, ?_, ?_, trivial⟩
  · exact untaken_of_no_executed (by decide)
  · exact untaken_of_no_executed (by decide)
  · exact untaken_of_no_executed (by decide)
  · exact untaken_of_no_executed (by decide)
  · exact untaken_of_no_executed (by decide)
  · exact untaken_of_no_executed (by decide)
  · exact untaken_of_no_executed (by decide)
  · rintro r contractId hcall -
    injection hcall with hdeployer
    injection hdeployer with _ _ _ hfaults
    rw [← hfaults]
    exact Or.inl (Option.some_ne_none _)
  · exact untaken_of_not_write fun d cid h => by cases h
  · exact untaken_of_not_write fun d cid h => by cases h

/-- The second finds the offer executed, and gets its order and its escrow. -/
theorem taken_twice : SoldOnce marketWorld.db ∧
    ¬ SoldOnce ((deployCalls (escrowEnv takesBook)).run (creates marketWorld takes)
      [0, 0, 0, 0, 0, 1, 1, 1, 1, 1]).shared.db := by
  refine ⟨market_soldOnce, fun h => ?_⟩
  have htwo : ∃ o ∈ ((deployCalls (escrowEnv takesBook)).run (creates marketWorld takes)
      [0, 0, 0, 0, 0, 1, 1, 1, 1, 1]).shared.db.orders.rows, ∃ o' ∈ ((deployCalls (escrowEnv takesBook)).run
      (creates marketWorld takes) [0, 0, 0, 0, 0, 1, 1, 1, 1, 1]).shared.db.orders.rows,
      o.offerId = o'.offerId ∧ o.orderId ≠ o'.orderId := by decide
  obtain ⟨o, ho, o', ho', hoffer, hne⟩ := htwo
  exact hne (congrArg Order.orderId (h.once o ho o' ho' hoffer))

end Desk

end IKash
