import IKash.Order

/-!
# The expiration job, order by order

One run of `expireOrders` goes through the orders that were expired and active when it started. What one order throws is
caught, so that the others do not notice it.

- `processExpiredOrder_spec`: what the job does to one stored order, and that it leaves the others;
- `processExpiredOrders_spec`: the same for the whole list, by induction on it;
- `expireOrders_isolated`: the run returns; the orders that are due and not hit by a fault are ended, and everything else
  is as it was.
-/

namespace IKash

open Lib

namespace OrderService

variable {χ : Type} {tw : TrustlessWork χ} {faults : String → Option Thrown} {w : World χ} {row : OrderWithEscrow}

/-! ## One order -/

/-- Nothing keeps the job from ending the order: its escrow is not protected, and no fault hits the write. -/
def Ends (faults : String → Option Thrown) (row : OrderWithEscrow) : Prop :=
  ¬ EscrowIn protectedEscrowStatuses row.escrow ∧ faults row.order.orderId = none

instance (faults : String → Option Thrown) (row : OrderWithEscrow) : Decidable (Ends faults row) :=
  inferInstanceAs (Decidable (_ ∧ _))

/-- The order after the job. -/
def afterJob (faults : String → Option Thrown) (row : OrderWithEscrow) : Order :=
  if Ends faults row then setStatus (targetStatus row.order) row.order else row.order

/-- An order that the job does not end is left. -/
theorem processExpiredOrder_stays (h : ¬ Ends faults row) (w : World χ) : ∃ ext,
    ((processExpiredOrder tw (faults row.order.orderId) row).run w).2 = { w with ext := ext } := by
  unfold processExpiredOrder
  by_cases hprotected : EscrowIn protectedEscrowStatuses row.escrow
  · rw [if_pos hprotected]
    exact ⟨w.ext, rfl⟩
  · obtain ⟨t, ht⟩ := Option.ne_none_iff_exists'.mp fun hnone => h ⟨hprotected, hnone⟩
    obtain ⟨ext, hbalance⟩ := checkBalance_run tw row w
    rw [if_neg hprotected, Svc.run_bind_ok hbalance, ht]
    exact ⟨ext, rfl⟩

/-- A stored order that the job ends gets its status, whatever the balance query answers. -/
theorem processExpiredOrder_ends (h : Ends faults row) (hrow : w.db.orders.find? row.order.orderId = some row.order) :
    ∃ ext db, ((processExpiredOrder tw (faults row.order.orderId) row).run w).2 = { w with db := db, ext := ext } ∧
      Rewritten id (Table.atKey row.order.orderId (setStatus (targetStatus row.order))) w.db db := by
  obtain ⟨ext, hbalance⟩ := checkBalance_run tw row w
  obtain ⟨db, hupdate, hre⟩ := setStatus_update (targetStatus row.order) hrow
  have hwrite : (expireWrite none row).run { w with ext := ext } = (.ok (), { w with db := db, ext := ext }) :=
    Svc.run_bind_ok (prisma_run_ok hupdate)
  refine ⟨ext, db, ?_, hre⟩
  unfold processExpiredOrder
  rw [if_neg h.1, Svc.run_bind_ok hbalance, h.2, hwrite]

theorem processExpiredOrder_spec (tw : TrustlessWork χ) (faults : String → Option Thrown)
    (hrow : w.db.orders.find? row.order.orderId = some row.order) : ∃ ext db g,
      ((processExpiredOrder tw (faults row.order.orderId) row).run w).2 = { w with db := db, ext := ext } ∧
      Rewritten id g w.db db ∧ g row.order = afterJob faults row ∧
      ∀ o : Order, o.orderId ≠ row.order.orderId → g o = o := by
  unfold afterJob
  by_cases h : Ends faults row
  · obtain ⟨ext, db, hrun, hre⟩ := processExpiredOrder_ends h hrow
    rw [if_pos h]
    exact ⟨ext, db, _, hrun, hre, Table.atKey_eq rfl, fun o ho => Table.atKey_ne ho⟩
  · obtain ⟨ext, hrun⟩ := processExpiredOrder_stays h w
    rw [if_neg h]
    exact ⟨ext, w.db, id, hrun, Rewritten.refl _, rfl, fun _ _ => rfl⟩

/-! ## The loop -/

/-- **The loop** does to every order of its list what it does to it alone, and leaves the others. -/
theorem processExpiredOrders_spec (tw : TrustlessWork χ) (faults : String → Option Thrown) :
    ∀ (rows : List OrderWithEscrow) (w : World χ), (rows.map fun row => row.order.orderId).Nodup →
      (∀ row ∈ rows, w.db.orders.find? row.order.orderId = some row.order) → ∃ ext db g,
      (processExpiredOrders tw faults rows).run w = (.ok (), { w with db := db, ext := ext }) ∧
      Rewritten id g w.db db ∧ (∀ row ∈ rows, g row.order = afterJob faults row) ∧
      ∀ o : Order, o.orderId ∉ rows.map (fun row => row.order.orderId) → g o = o
  | [], w, _, _ => ⟨w.ext, w.db, id, rfl, Rewritten.refl _, fun _ h => (List.not_mem_nil h).elim, fun _ _ => rfl⟩
  | row :: rest, w, hnodup, hrows => by
    obtain ⟨hfresh, hrest⟩ := List.nodup_cons.mp hnodup
    obtain ⟨ext, db, g, hrun, hre, hself, hothers⟩ :=
      processExpiredOrder_spec tw faults (hrows row List.mem_cons_self)
    have hne : ∀ r ∈ rest, r.order.orderId ≠ row.order.orderId := fun r hr heq =>
      hfresh (List.mem_map.mpr ⟨r, hr, heq⟩)
    -- the step leaves the orders that are still to come
    have hstored : ∀ r ∈ rest, db.orders.find? r.order.orderId = some r.order := by
      intro r hr
      rw [hre.find?_order, hrows r (List.mem_cons_of_mem _ hr), Option.map_some, hothers r.order (hne r hr)]
    obtain ⟨ext', db', g', hrun', hre', hself', hothers'⟩ :=
      processExpiredOrders_spec tw faults rest { w with db := db, ext := ext } hrest hstored
    refine ⟨ext', db', g' ∘ g, ?_, hre.trans hre', fun r hr => ?_, fun o ho => ?_⟩
    · unfold processExpiredOrders
      rw [Svc.run_bind_ok (Svc.run_attempt _ _), hrun, hrun']
    · rcases List.mem_cons.mp hr with rfl | hr
      · -- the rest of the loop leaves the order that was just processed
        have hid : (g r.order).orderId = r.order.orderId := hre.orderIds r.order
        rw [Function.comp_apply, hothers' (g r.order) (by rw [hid]; exact hfresh), hself]
      · rw [Function.comp_apply, hothers r.order (hne r hr)]
        exact hself' r hr
    · rw [List.map_cons, List.mem_cons, not_or] at ho
      rw [Function.comp_apply, hothers o ho.1]
      exact hothers' o ho.2

/-! ## The run -/

/-- The order is to be ended: it is active and past its time, its escrow, if there is one, has not gone further than being
funded, and its processing does not throw. -/
structure Due (now : ℤ) (db : Db) (faults : String → Option Thrown) (o : Order) : Prop where
  late : ∃ t ∈ o.expiresAt, t < now
  active : o.orderStatus = .created ∨ o.orderStatus = .locked
  escrow : ∀ e ∈ escrowOf db o, e.escrowStatus ∈ [.pending, .initialized, .funded]
  processed : faults o.orderId = none

theorem not_protected_iff {escrow : Option EscrowOnChain} : ¬ EscrowIn protectedEscrowStatuses escrow ↔
    ∀ e ∈ escrow, e.escrowStatus ∈ [.pending, .initialized, .funded] := by
  have hstatus : ∀ s : EscrowStatus, s ∉ protectedEscrowStatuses ↔ s ∈ [.pending, .initialized, .funded] := by
    intro s
    cases s <;> decide
  unfold EscrowIn
  push Not
  exact forall₂_congr fun e _ => hstatus e.escrowStatus

theorem due_iff {now : ℤ} {db : Db} {o : Order} :
    Due now db faults o ↔ Expired now o ∧ Ends faults ⟨o, escrowOf db o⟩ := by
  have hactive : o.orderStatus ∈ activeOrderStatuses ↔ o.orderStatus = .created ∨ o.orderStatus = .locked :=
    List.mem_pair
  constructor
  · exact fun h => ⟨⟨h.late, hactive.mpr h.active⟩, not_protected_iff.mpr h.escrow, h.processed⟩
  · exact fun ⟨⟨hlate, ha⟩, hescrow, hfault⟩ => ⟨hlate, hactive.mp ha, not_protected_iff.mp hescrow, hfault⟩

/-- **Isolation.** A run of the job returns, whatever balance queries answer and whichever orders fail. The orders that
are due are ended: a created one is expired, and a locked one is cancelled. No other order and no escrow changes. -/
theorem expireOrders_isolated (tw : TrustlessWork χ) (faults : String → Option Thrown) (w : World χ) : ∃ w' after,
    (expireOrders tw faults).run w = (.ok (), w') ∧ w'.db.escrows.rows = w.db.escrows.rows ∧
    w'.db.orders.rows = w.db.orders.rows.map after ∧ ∀ o ∈ w.db.orders.rows,
      (Due w.now w.db faults o → o.orderStatus = .created → after o = { o with orderStatus := .expired }) ∧
      (Due w.now w.db faults o → o.orderStatus = .locked → after o = { o with orderStatus := .cancelled }) ∧
      (¬ Due w.now w.db faults o → after o = o) := by
  have hstored : ∀ row ∈ expiredOrders w.now w.db, w.db.orders.find? row.order.orderId = some row.order := by
    intro row hrow
    obtain ⟨o, ho, -, rfl⟩ := mem_expiredOrders.mp hrow
    exact Table.find?_eq_some.mpr ⟨ho, rfl⟩
  obtain ⟨ext, db, g, hrun, hre, hself, hothers⟩ := processExpiredOrders_spec tw faults _ w (nodup_expiredOrders _ _) hstored
  refine ⟨{ w with db := db, ext := ext }, g, hrun, hre.escrows.trans (List.map_id _), hre.orders, fun o ho => ?_⟩
  have hrow : Expired w.now o → ⟨o, escrowOf w.db o⟩ ∈ expiredOrders w.now w.db := fun hexpired =>
    mem_expiredOrders.mpr ⟨o, ho, hexpired, rfl⟩
  have hdue : Due w.now w.db faults o → g o = setStatus (targetStatus o) o := by
    intro h
    obtain ⟨hexpired, hends⟩ := due_iff.mp h
    exact (hself _ (hrow hexpired)).trans (if_pos hends)
  refine ⟨fun h hcreated => ?_, fun h hlocked => ?_, fun h => ?_⟩
  · rw [hdue h]
    unfold setStatus targetStatus
    rw [if_neg (by rw [hcreated]; decide)]
  · rw [hdue h]
    unfold setStatus targetStatus
    rw [if_pos hlocked]
  · by_cases hexpired : Expired w.now o
    · exact (hself _ (hrow hexpired)).trans (if_neg fun hends => h (due_iff.mpr ⟨hexpired, hends⟩))
    · refine hothers o fun hmem => hexpired ?_
      obtain ⟨row, hrow', hid⟩ := List.mem_map.mp hmem
      obtain ⟨o', ho', hexpired', rfl⟩ := mem_expiredOrders.mp hrow'
      obtain rfl : o' = o := Table.eq_of_clash ho' ho (Or.inl hid)
      exact hexpired'

end OrderService

end IKash
