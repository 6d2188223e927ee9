import IKash.Accounts
import IKash.Flow

/-!
# The audit trail of the ends of orders

Runs of the four operations that end orders. A call is audited when the rows it adds to the audit log are, for every
order, the one record that its end calls for (`Audited`).

- `cancel` and the expiration job hand no record over (`cancel_quiet`, `expireOrders_quiet`), so they are audited exactly
  when they end no order;
- `update` records a status that its body states, changed or not (`update_audited_iff`), and `remove` always records
  (`remove_audited`);
- `along_audited_iff`: a run is audited exactly when each of its calls is such (`Trailed`).
-/

namespace IKash

open Lib

variable {χ : Type}

/-! ## The record that an end calls for -/

def endActions : List AuditAction := [.orderCancelled, .orderExpired]

def endAction : OrderStatus → Option AuditAction
  | .cancelled => some .orderCancelled
  | .expired => some .orderExpired
  | _ => none

/-- The action that what became of an order calls for. -/
def endingOf (o : Order) : Option Order → Option AuditAction
  | none => some .orderCancelled
  | some o' => if o'.orderStatus = o.orderStatus then none else endAction o'.orderStatus

/-- The record is about the end of the order `k`. -/
def EndRecord (k : String) (a : AuditLog) : Prop :=
  a.action ∈ endActions ∧ a.resourceType = "Order" ∧ a.resourceId.map uuid = some k

instance (k : String) (a : AuditLog) : Decidable (EndRecord k a) := inferInstanceAs (Decidable (_ ∧ _ ∧ _))

/-- The ends of the order `k` that the records tell. -/
def endsTold (k : String) (added : List AuditLog) : List (AuditAction × AuditResult) :=
  (added.filter fun a => EndRecord k a).map fun a => (a.action, a.result)

/-- **Audited**: the records added about the end of an order are the one, with result SUCCESS, that it calls for. -/
def Audited (w w' : World χ) : Prop :=
  ∃ added, w'.db.auditLogs = w.db.auditLogs ++ added ∧
    ∀ k, endsTold k added =
      ((w.db.orders.find? k).bind fun o => (endingOf o (w'.db.orders.find? k)).map (·, .success)).toList

section Records

variable {w w' : World χ} {k : String} {o o' : Order}

theorem endingOf_self (o : Order) : endingOf o (some o) = none := if_pos rfl

theorem endingOf_same (h : o'.orderStatus = o.orderStatus) : endingOf o (some o') = none := if_pos h

theorem endingOf_changed (h : o'.orderStatus ≠ o.orderStatus) : endingOf o (some o') = endAction o'.orderStatus := if_neg h

theorem endsTold_nil (k : String) : endsTold k [] = [] := rfl

/-- A record about another order tells nothing. -/
theorem endsTold_ne {id : String} {a : AuditLog} (ha : a.resourceId = some id) (h : k ≠ uuid id) : endsTold k [a] = [] := by
  have hnot : ¬ EndRecord k a := by
    rintro ⟨-, -, hid⟩
    rw [ha] at hid
    exact h (Option.some.inj hid).symm
  unfold endsTold
  rw [List.filter_singleton, decide_eq_false hnot]
  rfl

/-- A call that adds no record is audited when it ends no order. -/
theorem audited_iff_of_quiet (hquiet : w'.db.auditLogs = w.db.auditLogs) :
    Audited w w' ↔ ∀ k o, w.db.orders.find? k = some o → endingOf o (w'.db.orders.find? k) = none := by
  constructor
  · rintro ⟨added, hadded, htold⟩ k o ho
    obtain rfl : added = [] := by
      rw [hquiet] at hadded
      exact List.self_eq_append_right.mp hadded
    have hnone := htold k
    rw [endsTold_nil, ho, Option.bind_some] at hnone
    cases hend : endingOf o (w'.db.orders.find? k) with
    | none => rfl
    | some action =>
      rw [hend] at hnone
      cases hnone
  · intro h
    refine ⟨[], by rw [hquiet, List.append_nil], fun k => ?_⟩
    cases ho : w.db.orders.find? k with
    | none => rfl
    | some o =>
      rw [Option.bind_some, h k o ho]
      rfl

theorem audited_of_db (h : w'.db = w.db) : Audited w w' := by
  refine (audited_iff_of_quiet (by rw [h])).mpr fun k o ho => ?_
  rw [h, ho]
  exact endingOf_self o

/-- A call that adds no record, and does not end the one order that it changes. -/
theorem audited_of_quiet_at (hquiet : w'.db.auditLogs = w.db.auditLogs) (ho : w.db.orders.find? k = some o)
    (hend : endingOf o (w'.db.orders.find? k) = none)
    (hothers : ∀ j, j ≠ k → w'.db.orders.find? j = w.db.orders.find? j) : Audited w w' := by
  refine (audited_iff_of_quiet hquiet).mpr fun j x hx => ?_
  by_cases hj : j = k
  · subst hj
    rwa [← Option.some.inj (ho.symm.trans hx)]
  · rw [hothers j hj, hx]
    exact endingOf_self x

/-- A call that adds one record about the order, and changes no other. -/
theorem audited_iff_of_record {id : String} {a : AuditLog} (hadded : w'.db.auditLogs = w.db.auditLogs ++ [a])
    (hresource : a.resourceId = some id) (hrecord : EndRecord (uuid id) a) (hresult : a.result = .success)
    (ho : w.db.orders.find? (uuid id) = some o)
    (hothers : ∀ k, k ≠ uuid id → w'.db.orders.find? k = w.db.orders.find? k) :
    Audited w w' ↔ endingOf o (w'.db.orders.find? (uuid id)) = some a.action := by
  have htold : endsTold (uuid id) [a] = [(a.action, .success)] := by
    unfold endsTold
    rw [List.filter_singleton, decide_eq_true hrecord, ← hresult]
    rfl
  constructor
  · rintro ⟨added, hadded', htells⟩
    obtain rfl : added = [a] := List.append_cancel_left (hadded'.symm.trans hadded)
    have hk := htells (uuid id)
    rw [htold, ho, Option.bind_some] at hk
    cases hend : endingOf o (w'.db.orders.find? (uuid id)) with
    | none => rw [hend] at hk; cases hk
    | some action =>
      rw [hend] at hk
      cases hk
      rfl
  · intro hend
    refine ⟨[a], hadded, fun k => ?_⟩
    by_cases hk : k = uuid id
    · rw [hk, htold, ho, Option.bind_some, hend]
      rfl
    · rw [endsTold_ne hresource hk, hothers k hk]
      cases ho' : w.db.orders.find? k with
      | none => rfl
      | some o' =>
        rw [Option.bind_some, endingOf_self]
        rfl

end Records

namespace OrderService

/-! ## Who records what -/

section Quiet

/-- The audit log is as it was. -/
def Unrecorded (w w' : World χ) : Prop := w'.db.auditLogs = w.db.auditLogs

theorem Unrecorded.trans {a b c : World χ} (h : Unrecorded a b) (h' : Unrecorded b c) : Unrecorded a c :=
  Eq.trans h' h

theorem order_update_unrecorded {k : String} {data : Order → Order} :
    Svc.Moves Unrecorded (prisma (Prisma.order.update k data) : Service χ Order) := by
  refine prisma_moves (fun _ => rfl) fun w o db h => ?_
  obtain ⟨-, -, -, hframe, -⟩ := Delegate.of_update h
  show db.auditLogs = w.db.auditLogs
  rw [hframe]
  rfl

theorem cancel_quiet (id userId : String) : Svc.Moves Unrecorded (cancel id userId : Service χ Order) := by
  have hcheck : Svc.Moves Unrecorded (cancelCheck id userId : Service χ OrderWithEscrow) := by
    intro w
    rw [cancelCheck_state]
    rfl
  exact Svc.Moves.bind Unrecorded.trans hcheck fun _ => order_update_unrecorded

theorem processExpiredOrder_quiet (tw : TrustlessWork χ) (fault : Option Thrown) (row : OrderWithEscrow) :
    Svc.Moves Unrecorded (processExpiredOrder tw fault row) := by
  have hbalance : Svc.Moves Unrecorded (checkBalance tw row) := by
    intro w
    obtain ⟨ext, h⟩ := checkBalance_run tw row w
    rw [h]
    rfl
  have hwrite : Svc.Moves Unrecorded (expireWrite fault row : Service χ Unit) := by
    cases fault with
    | some t => exact fun _ => rfl
    | none => exact Svc.Moves.bind Unrecorded.trans order_update_unrecorded fun _ _ => rfl
  unfold processExpiredOrder
  split
  · exact fun _ => rfl
  · exact Svc.Moves.bind Unrecorded.trans hbalance fun _ => hwrite

theorem processExpiredOrders_quiet (tw : TrustlessWork χ) (faults : String → Option Thrown) :
    ∀ rows : List OrderWithEscrow, Svc.Moves Unrecorded (processExpiredOrders tw faults rows)
  | [] => fun _ => rfl
  | row :: rest => Svc.Moves.bind Unrecorded.trans
      (Svc.Moves.attempt (processExpiredOrder_quiet tw (faults row.order.orderId) row)) fun _ =>
        processExpiredOrders_quiet tw faults rest

/-- The job records nothing. -/
theorem expireOrders_quiet (tw : TrustlessWork χ) (faults : String → Option Thrown) :
    Svc.Moves Unrecorded (expireOrders tw faults) :=
  Svc.Moves.bind Unrecorded.trans (fun _ => rfl) fun w => processExpiredOrders_quiet tw faults (expiredOrders w.now w.db)

end Quiet

section Ends

variable {codec : Codec} {dto : UpdateOrderDto} {orderId userId : String} {w : World χ} {o o' : Order}

/-- `cancel` is audited exactly when it refuses. -/
theorem cancel_audited_iff (orderId userId : String) (w : World χ) : Audited w ((cancel orderId userId).run w).2 ↔
    ∀ row, orderWithEscrow w.db (uuid orderId) = some row → ¬ Cancellable userId row := by
  rw [audited_iff_of_quiet (cancel_quiet orderId userId w)]
  constructor
  · intro hnone row hrow hcan
    -- an accepted cancellation ends its order
    have hcheck : (cancelCheck orderId userId).run w = (.ok row, w) := cancelCheck_eq_ok.mpr ⟨rfl, hrow, hcan⟩
    obtain ⟨o, ho, rfl⟩ := Option.map_eq_some_iff.mp hrow
    have hstate : ((cancel orderId userId).run w).2 = ((cancelWrite orderId).run w).2 := by
      unfold cancel
      rw [Svc.run_bind_ok hcheck]
    rcases cancelWrite_cases orderId w with ⟨hmissing, -⟩ | ⟨o', db, ho', hrun, hre⟩
    · rw [ho] at hmissing
      cases hmissing
    · obtain rfl : o = o' := Option.some.inj (ho.symm.trans ho')
      have hend := hnone (uuid orderId) o ho
      rw [hstate, hrun, hre.find?_order, ho, Option.map_some, Table.atKey_eq (Table.key_of_find? ho)] at hend
      have hnot : OrderStatus.cancelled ≠ o.orderStatus := fun he => hcan.order (he ▸ by decide)
      rw [endingOf_changed hnot] at hend
      cases hend
  · intro hrefused k o ho
    rcases cancel_cases orderId userId w with h | ⟨row, db, -, hrow, hcan, -⟩
    · rw [h, ho]
      exact endingOf_self o
    · exact absurd hcan (hrefused row hrow)

/-- The update is accepted: the order is there, and the row that the body makes of it can be stored. -/
def UpdateAccepted (codec : Codec) (orderId : String) (dto : UpdateOrderDto) (w : World χ) (o o' : Order) : Prop :=
  w.db.orders.find? (uuid orderId) = some o ∧ updateData codec dto o = .ok o' ∧ Storable w.db o'

/-- What an accepted update writes, its record included. -/
theorem update_records (h : UpdateAccepted codec orderId dto w o o') :
    ∃ db, ((update codec orderId dto).run w).2 = { w with db := db } ∧
      Rewritten id (Table.atKey (uuid orderId) (overwrite o')) w.db db ∧
      db.auditLogs = w.db.auditLogs ++ (updateEntry orderId dto o').toList := by
  obtain ⟨ho, hdata, hs⟩ := h
  obtain ⟨db, htx, hre⟩ := updateTx_isOk ho hdata hs
  have haudit : db.auditLogs = w.db.auditLogs := by
    unfold updateTx at htx
    simp only [ho, hdata] at htx
    obtain ⟨-, -, -, hframe, -⟩ := Delegate.of_update htx
    rw [hframe]
    rfl
  have husers : db.users = w.db.users := by rw [hre.frame]
  unfold update
  rw [Svc.run_bind_ok (prisma_run_ok htx)]
  cases he : updateEntry orderId dto o' with
  | none => exact ⟨db, rfl, hre, by rw [haudit]; exact (List.append_nil _).symm⟩
  | some entry =>
    have huser : entry.userId = some o'.buyerId := by
      unfold updateEntry at he
      split at he <;> cases he <;> rfl
    have hhas : ∀ k ∈ entry.userId, db.users.Has k := by
      intro k hk
      rw [huser] at hk
      cases hk
      rw [husers]
      exact hs.2.1
    obtain ⟨db', hrun, hre', hadded⟩ := AuditLogService.create_of_has (w := { w with db := db }) hhas
    refine ⟨db', by rw [Option.elim_some, Svc.run_bind_ok hrun]; rfl, hre.trans hre', ?_⟩
    rw [hadded, ← haudit]
    rfl

/-- The accepted body says the status that the order already has, and that it is over. -/
def Restates (dto : UpdateOrderDto) (o : Order) : Prop :=
  dto.orderStatus = .value o.orderStatus ∧ endAction o.orderStatus ≠ none

theorem updateEntry_eq (orderId : String) (o : Order) : updateEntry orderId dto o =
    match dto.orderStatus with
    | .value status => (endAction status).map fun action => endEntry action orderId o
    | _ => none := by
  unfold updateEntry
  cases dto.orderStatus with
  | undefined => rfl
  | null => rfl
  | value status => cases status <;> rfl

/-- **`update`** is audited exactly when it does not say again that the order is over. -/
theorem update_audited_iff (codec : Codec) (orderId : String) (dto : UpdateOrderDto) (w : World χ) :
    Audited w ((update codec orderId dto).run w).2 ↔
      ∀ o o', UpdateAccepted codec orderId dto w o o' → ¬ Restates dto o := by
  rcases update_cases codec orderId dto w with ⟨h, hrefused⟩ | ⟨o, o', -, ho, hdata, hs, -, -⟩
  · refine iff_of_true (by rw [h]; exact audited_of_db rfl) fun o o' hacc _ => ?_
    exact hrefused o o' hacc.1 hacc.2.1 hacc.2.2
  have hacc : UpdateAccepted codec orderId dto w o o' := ⟨ho, hdata, hs⟩
  have hall : (∀ o₁ o₁', UpdateAccepted codec orderId dto w o₁ o₁' → ¬ Restates dto o₁) ↔ ¬ Restates dto o := by
    refine ⟨fun h => h o o' hacc, fun h o₁ o₁' hacc' => ?_⟩
    rwa [← Option.some.inj (ho.symm.trans hacc'.1)]
  obtain ⟨db, hrun, hre, hadded⟩ := update_records hacc
  have hfind : db.orders.find? (uuid orderId) = some (overwrite o' o) := by
    rw [hre.find?_order, ho, Option.map_some, Table.atKey_eq (Table.key_of_find? ho)]
  have hothers : ∀ k, k ≠ uuid orderId → db.orders.find? k = w.db.orders.find? k := by
    intro k hk
    rw [hre.find?_order]
    cases hok : w.db.orders.find? k with
    | none => rfl
    | some x => rw [Option.map_some, Table.atKey_ne (by rw [Table.key_of_find? hok]; exact hk)]
  rw [hrun, hall]
  rw [updateEntry_eq] at hadded
  rcases (updateData_status hdata).2 with ⟨hundef, hsame⟩ | hvalue
  · -- the body has no status
    have hquiet : db.auditLogs = w.db.auditLogs := by simpa [hundef] using hadded
    refine iff_of_true ?_ fun hres => ?_
    · exact audited_of_quiet_at hquiet ho (by rw [hfind]; exact endingOf_same hsame) hothers
    · cases hundef.symm.trans hres.1
  have hres : Restates dto o → o'.orderStatus = o.orderStatus ∧ endAction o'.orderStatus ≠ none := by
    rintro ⟨hstatus, hover⟩
    have hsame : o'.orderStatus = o.orderStatus := Patch.value.inj (hvalue.symm.trans hstatus)
    exact ⟨hsame, hsame ▸ hover⟩
  cases hend : endAction o'.orderStatus with
  | none =>
    have hquiet : db.auditLogs = w.db.auditLogs := by simpa [hvalue, hend] using hadded
    refine iff_of_true (audited_of_quiet_at hquiet ho ?_ hothers) fun hr => (hres hr).2 hend
    rw [hfind]
    by_cases hsame : o'.orderStatus = o.orderStatus
    · exact endingOf_same hsame
    · exact (endingOf_changed hsame).trans hend
  | some action =>
    have hrecord : db.auditLogs = w.db.auditLogs ++ [endEntry action orderId o'] := by
      simpa [hvalue, hend] using hadded
    have haction : action ∈ endActions := by
      revert hend
      cases o'.orderStatus <;> intro hend <;> cases hend <;> decide
    rw [audited_iff_of_record hrecord rfl ⟨haction, rfl, rfl⟩ rfl ho hothers, hfind]
    constructor
    · intro htold hr
      have hsame : (overwrite o' o).orderStatus = o.orderStatus := (hres hr).1
      rw [endingOf_same hsame] at htold
      cases htold
    · intro hnot
      have hchanged : o'.orderStatus ≠ o.orderStatus := by
        intro hsame
        refine hnot ⟨hsame ▸ hvalue, ?_⟩
        rw [← hsame, hend]
        exact Option.some_ne_none action
      rw [endingOf_changed (show (overwrite o' o).orderStatus ≠ o.orderStatus from hchanged)]
      exact hend

/-- `remove` records every order that it deletes. -/
theorem remove_audited (orderId : String) (w : World χ) : Audited w ((remove orderId).run w).2 := by
  cases ho : w.db.orders.find? (uuid orderId) with
  | none =>
    rcases remove_cases orderId w with ⟨h, -⟩ | ⟨db, h, hrows, -⟩
    · rw [h]
      exact audited_of_db rfl
    · unfold remove
      rw [Svc.run_bind_error (prisma_run_error (Prisma.order_delete_of_none ho))]
      exact audited_of_db rfl
  | some o =>
    obtain ⟨db, hdel⟩ := Prisma.order_delete_isOk ho
    have htables := (Prisma.order_delete_eq_ok.mp hdel).2
    have hhas : ∀ k ∈ ({ endEntry .orderCancelled orderId o with metadata := [("reason", .str "deleted")] } :
        AuditLog).userId, db.users.Has k := by
      intro k hk
      cases hk
      rw [htables]
      exact w.db.refs.orderBuyer o (Table.find?_eq_some.mp ho).1
    obtain ⟨db', hrun, hre, hadded⟩ := AuditLogService.create_of_has (w := { w with db := db }) hhas
    have hrows : db'.orders.rows = w.db.orders.rows.filter fun x => x.orderId ≠ uuid orderId := by
      rw [hre.orders, List.map_id, htables]
      rfl
    have hstate : ((remove orderId).run w).2 = { w with db := db' } := by
      unfold remove
      rw [Svc.run_bind_ok (prisma_run_ok hdel), Svc.run_bind_ok hrun, Svc.run_pure]
    rw [hstate]
    have hothers : ∀ k, k ≠ uuid orderId → db'.orders.find? k = w.db.orders.find? k := by
      intro k hk
      unfold Table.find?
      rw [hrows, List.find?_filter]
      refine congrArg (fun p => List.find? p w.db.orders.rows) (funext fun x => ?_)
      by_cases hx : Keyed.key x = k
      · have hne : x.orderId ≠ uuid orderId := fun h => hk (hx.symm.trans h)
        simp [hx, hne]
      · simp [hx]
    have hgone : db'.orders.find? (uuid orderId) = none := by
      refine Table.find?_eq_none.mpr fun x hx => ?_
      rw [hrows] at hx
      exact of_decide_eq_true (List.mem_filter.mp hx).2
    have haudit : db'.auditLogs = w.db.auditLogs ++ [_] := hadded.trans (by rw [htables])
    refine (audited_iff_of_record haudit rfl ⟨List.mem_cons_self, rfl, rfl⟩ rfl ho hothers).mpr ?_
    rw [hgone]
    rfl

end Ends

/-! ### The job -/

section Expiry

variable {tw : TrustlessWork χ} {faults : String → Option Thrown} {row : OrderWithEscrow} {o : Order}

/-- The job moves the order of the row: neither the escrow nor a fault of the write stops it. -/
def Moved (faults : String → Option Thrown) (row : OrderWithEscrow) : Prop :=
  ¬ EscrowIn protectedEscrowStatuses row.escrow ∧ faults row.order.orderId = none

theorem processExpiredOrder_moved (w : World χ) (h : Moved faults row)
    (ho : w.db.orders.find? row.order.orderId = some o) :
    ((processExpiredOrder tw (faults row.order.orderId) row).run w).2.db.orders.find? row.order.orderId =
      some (setStatus (targetStatus row.order) o) := by
  unfold processExpiredOrder
  obtain ⟨ext, hb⟩ := checkBalance_run tw row w
  rw [if_neg h.1, Svc.run_bind_ok hb]
  rcases expireWrite_cases (faults row.order.orderId) row { w with ext := ext } with
    ⟨t, hrun⟩ | ⟨o', db, -, ho', hrun, hre⟩
  · -- the write of an order that is there is not refused
    obtain ⟨db, hdb, -⟩ := setStatus_update (targetStatus row.order) ho
    have hok : (expireWrite (faults row.order.orderId) row).run { w with ext := ext } =
        (.ok (), { w with db := db, ext := ext }) := by
      rw [h.2]
      exact Svc.run_bind_ok (prisma_run_ok hdb)
    rw [hok] at hrun
    cases hrun
  · rw [hrun, hre.find?_order, ho, Option.map_some, Table.atKey_eq (Table.key_of_find? ho)]

theorem processExpiredOrder_unmoved (w : World χ) (h : ¬ Moved faults row) :
    ((processExpiredOrder tw (faults row.order.orderId) row).run w).2.db = w.db := by
  unfold processExpiredOrder
  by_cases hp : EscrowIn protectedEscrowStatuses row.escrow
  · rw [if_pos hp]
    rfl
  · obtain ⟨t, ht⟩ := Option.ne_none_iff_exists'.mp fun hnone => h ⟨hp, hnone⟩
    obtain ⟨ext, hb⟩ := checkBalance_run tw row w
    rw [if_neg hp, Svc.run_bind_ok hb, ht]
    rfl

theorem processExpiredOrder_other {k : String} (w : World χ) (fault : Option Thrown) (hk : k ≠ row.order.orderId) :
    ((processExpiredOrder tw fault row).run w).2.db.orders.find? k = w.db.orders.find? k := by
  rcases processExpiredOrder_cases tw fault row w with ⟨ext, h⟩ | ⟨ext, db, h, -, hre⟩
  · rw [h]
  · rw [h, hre.find?_order]
    cases hok : w.db.orders.find? k with
    | none => rfl
    | some x => rw [Option.map_some, Table.atKey_ne (by rw [Table.key_of_find? hok]; exact hk)]

theorem processExpiredOrders_cons (rest : List OrderWithEscrow) (w : World χ) :
    ((processExpiredOrders tw faults (row :: rest)).run w).2 = ((processExpiredOrders tw faults rest).run
      ((processExpiredOrder tw (faults row.order.orderId) row).run w).2).2 := by
  conv_lhs => unfold processExpiredOrders
  rw [Svc.run_bind_ok (Svc.run_attempt _ _)]

theorem processExpiredOrders_unmoved : ∀ (rows : List OrderWithEscrow) (w : World χ), (∀ row ∈ rows, ¬ Moved faults row) →
    ((processExpiredOrders tw faults rows).run w).2.db = w.db
  | [], _, _ => rfl
  | row :: rest, w, h => by
    rw [processExpiredOrders_cons, processExpiredOrders_unmoved rest _ fun r hr => h r (List.mem_cons_of_mem _ hr)]
    exact processExpiredOrder_unmoved w (h row List.mem_cons_self)

theorem processExpiredOrders_other {k : String} : ∀ (rows : List OrderWithEscrow) (w : World χ),
    k ∉ rows.map (fun r => r.order.orderId) →
      ((processExpiredOrders tw faults rows).run w).2.db.orders.find? k = w.db.orders.find? k
  | [], _, _ => rfl
  | row :: rest, w, h => by
    rw [List.map_cons, List.mem_cons, not_or] at h
    rw [processExpiredOrders_cons, processExpiredOrders_other rest _ h.2, processExpiredOrder_other w _ h.1]

/-- What becomes of an order that the job moves; its list names no order twice. -/
theorem processExpiredOrders_moved : ∀ (rows : List OrderWithEscrow) (w : World χ),
    (rows.map fun r => r.order.orderId).Nodup → row ∈ rows → Moved faults row →
      w.db.orders.find? row.order.orderId = some o →
        ((processExpiredOrders tw faults rows).run w).2.db.orders.find? row.order.orderId =
          some (setStatus (targetStatus row.order) o)
  | r :: rest, w, hnodup, hmem, hmoved, ho => by
    obtain ⟨hr, hnodup⟩ := List.nodup_cons.mp hnodup
    rw [processExpiredOrders_cons]
    rcases List.mem_cons.mp hmem with rfl | hmem
    · rw [processExpiredOrders_other rest _ hr]
      exact processExpiredOrder_moved w hmoved ho
    · have hne : row.order.orderId ≠ r.order.orderId := fun he =>
        hr (List.mem_map.mpr ⟨row, hmem, he⟩)
      exact processExpiredOrders_moved rest _ hnodup hmem hmoved ((processExpiredOrder_other w _ hne).trans ho)

/-- An order that the job moves was created or locked, and is over then. -/
theorem endingOf_target (h : o.orderStatus ∈ activeOrderStatuses) :
    endingOf o (some (setStatus (targetStatus o) o)) ≠ none := by
  rcases List.mem_pair.mp h with hs | hs
  · simp [endingOf, setStatus, targetStatus, hs, endAction]
  · simp [endingOf, setStatus, targetStatus, hs, endAction]

/-- **The job** is audited exactly when it moves no order. -/
theorem expireOrders_audited_iff (tw : TrustlessWork χ) (faults : String → Option Thrown) (w : World χ) :
    Audited w ((expireOrders tw faults).run w).2 ↔ ∀ row ∈ expiredOrders w.now w.db, ¬ Moved faults row := by
  have hstate : ((expireOrders tw faults).run w).2 =
      ((processExpiredOrders tw faults (expiredOrders w.now w.db)).run w).2 := rfl
  constructor
  · intro haudited row hrow hmoved
    obtain ⟨o, ho, hexpired, rfl⟩ := mem_expiredOrders.mp hrow
    have hfind : w.db.orders.find? o.orderId = some o := Table.find?_eq_some.mpr ⟨ho, rfl⟩
    have hnone := (audited_iff_of_quiet (expireOrders_quiet tw faults w)).mp haudited o.orderId o hfind
    rw [hstate, processExpiredOrders_moved _ w (nodup_expiredOrders _ _) hrow hmoved hfind] at hnone
    exact endingOf_target hexpired.2 hnone
  · intro hunmoved
    refine audited_of_db ?_
    rw [hstate]
    exact processExpiredOrders_unmoved _ w hunmoved

end Expiry

end OrderService

/-! ## Runs -/

inductive OrderCall where
  | cancel (id userId : String)
  | update (id : String) (dto : UpdateOrderDto)
  | remove (id : String)
  | expireOrders (time : ℤ) (faults : String → Option Thrown)

def OrderCall.service (tw : TrustlessWork χ) (codec : Codec) : OrderCall → Service χ Unit
  | .cancel id userId => (fun _ => ()) <$> OrderService.cancel id userId
  | .update id dto => (fun _ => ()) <$> OrderService.update codec id dto
  | .remove id => (fun _ => ()) <$> OrderService.remove id
  | .expireOrders time faults => do
    Svc.modify fun w => w.at time
    OrderService.expireOrders tw faults

def orderEnds (tw : TrustlessWork χ) (codec : Codec) : Machine (World χ) OrderCall (Except Thrown Unit) where
  step w call := (call.service tw codec).run w

open OrderService in
/-- The call leaves no end untold and tells none that is not: it is no cancellation that is accepted, does not say again
that an order is over, and is no job that moves an order. -/
def Trailed (codec : Codec) (w : World χ) : OrderCall → Prop
  | .cancel id userId => ∀ row, orderWithEscrow w.db (uuid id) = some row → ¬ Cancellable userId row
  | .update id dto => ∀ o o', UpdateAccepted codec id dto w o o' → ¬ Restates dto o
  | .remove _ => True
  | .expireOrders time faults => ∀ row ∈ expiredOrders time w.db, ¬ Moved faults row

variable {tw : TrustlessWork χ} {codec : Codec} {w : World χ}

theorem audited_next_iff (call : OrderCall) : Audited w ((orderEnds tw codec).next w call) ↔ Trailed codec w call := by
  cases call with
  | cancel id userId =>
    have hnext : (orderEnds tw codec).next w (.cancel id userId) = ((OrderService.cancel id userId).run w).2 :=
      Svc.run_map_state _ _ _
    rw [hnext]
    exact OrderService.cancel_audited_iff id userId w
  | update id dto =>
    have hnext : (orderEnds tw codec).next w (.update id dto) = ((OrderService.update codec id dto).run w).2 :=
      Svc.run_map_state _ _ _
    rw [hnext]
    exact OrderService.update_audited_iff codec id dto w
  | remove id =>
    have hnext : (orderEnds tw codec).next w (.remove id) = ((OrderService.remove id).run w).2 := Svc.run_map_state _ _ _
    rw [hnext]
    exact iff_of_true (OrderService.remove_audited id w) trivial
  | expireOrders time faults => exact OrderService.expireOrders_audited_iff tw faults (w.at time)

/-- **Every end of an order is audited** along a run exactly when each call is one that the audit trail covers. -/
theorem along_audited_iff (tw : TrustlessWork χ) (codec : Codec) (w : World χ) (calls : List OrderCall) :
    (orderEnds tw codec).Along (fun w call => Audited w ((orderEnds tw codec).next w call)) w calls ↔
      (orderEnds tw codec).Along (Trailed codec) w calls :=
  ⟨Machine.Along.mono fun _ call => (audited_next_iff call).mp, Machine.Along.mono fun _ call => (audited_next_iff call).mpr⟩

/-- The buyer cancels, and no record is made. -/
theorem Trade.cancelled_untold : ¬ (orderEnds Trade.trustlessWork ⟨fun _ => none, fun _ => none⟩).Along
    (fun w call => Audited w ((orderEnds Trade.trustlessWork ⟨fun _ => none, fun _ => none⟩).next w call))
    (Trade.world .created .pending ()) [.cancel "o1" "u2"] := by
  rintro ⟨h, -⟩
  have hfound : orderWithEscrow (Trade.db .created .pending) (uuid "o1") =
      some ⟨Trade.order .created, some (Trade.escrow .pending)⟩ := by decide
  exact audited_next_iff _ |>.mp h _ hfound ⟨Or.inl rfl, by decide, by decide⟩

end IKash
