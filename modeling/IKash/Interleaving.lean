import IKash.Flow
import IKash.Lib.Pool

/-!
# Interleaved runs of the escrow flow

The calls of `flow`, cut at their awaits: one step of a call is one access to the database, to Trustless Work or to
the memory of a listener, together with the local code up to the next await. Replicas are calls of different listener
instances, and of as many requests and jobs as one likes.

- `run_ops`: calls that are scheduled one after the other run as in `flow`;
- `callStep_rewrites`: a step changes no status but those it announces (`Call.escrowWrite`, `Call.orderWrite`).
-/

namespace IKash

open Lib StellarListenerService OrderService EscrowService

/-- What a call still has to do, with what it has read so far. -/
inductive Call where
  | start (op : FlowOp)
  | syncChecked (dto : SyncEscrowDto) (escrow : EscrowOnChain)
  | syncSent (dto : SyncEscrowDto) (escrow : EscrowOnChain) (result : SendTransactionResponse)
  | syncStored (dto : SyncEscrowDto) (escrow : EscrowOnChain) (result : SendTransactionResponse)
  | eventUnseen (inst : ℕ) (fault : Option Thrown) (event : OnChainEscrowEvent)
  | eventByOrder (inst : ℕ) (fault : Option Thrown) (event : OnChainEscrowEvent)
  | eventChecked (inst : ℕ) (fault : Option Thrown) (event : OnChainEscrowEvent) (escrow : EscrowOnChain)
  | eventHandled (inst : ℕ) (event : OnChainEscrowEvent)
  | cancelChecked (id : String)
  | expireAt (faults : String → Option Thrown) (now : ℤ)
  | expireNext (faults : String → Option Thrown) (rows : List OrderWithEscrow)
  | expireChecked (faults : String → Option Thrown) (row : OrderWithEscrow) (rest : List OrderWithEscrow)
  | done

variable {χ : Type}

/-- The local code of `processEvent` between the lookup and the transaction. -/
def judge (inst : ℕ) (fault : Option Thrown) (event : OnChainEscrowEvent) (escrow : EscrowOnChain) : Call :=
  if isTerminalOrAlreadyProcessed escrow.escrowStatus event.eventType then .eventHandled inst event
  else if escrow.escrowStatus ∈ validTransitions (.event event.eventType) then .eventChecked inst fault event escrow
  else .done

/-- The first step of a call. -/
def firstStep (w : World χ) : FlowOp → World χ × Call
  | .cancel id userId => Pool.await .done (cancelCheck id userId) (fun _ => .cancelChecked id) w
  | .expireOrders faults => (w, .expireAt faults w.now)
  | .syncTransaction dto => Pool.await .done (syncCheck dto) (.syncChecked dto) w
  | .processEvent inst fault event =>
    (w, if eventKey event ∈ (w.listeners inst).processedEventIds then .done else .eventUnseen inst fault event)
  | .tick ms => ({ w with now := w.now + ms }, .done)

def callStep (tw : TrustlessWork χ) (w : World χ) : Call → World χ × Call
  | .start op => firstStep w op
  | .syncChecked dto escrow => Pool.await .done (syncSend tw dto) (.syncSent dto escrow) w
  | .syncSent dto escrow result => Pool.await .done (syncStore dto result) (fun _ => .syncStored dto escrow result) w
  | .syncStored dto escrow result => Pool.await .done (syncAudit dto escrow result) (fun _ => .done) w
  | .eventUnseen inst fault event => Pool.await .done (findByContract event)
      (fun found => found.elim (.eventByOrder inst fault event) (judge inst fault event)) w
  | .eventByOrder inst fault event => Pool.await .done (findByOrder event)
      (fun found => found.elim .done (judge inst fault event)) w
  | .eventChecked inst fault event escrow =>
    Pool.await .done (commitEvent fault event escrow) (fun _ => .eventHandled inst event) w
  | .eventHandled inst event => (remember inst event w, .done)
  | .cancelChecked id => Pool.await .done (cancelWrite id) (fun _ => .done) w
  | .expireAt faults now => (w, .expireNext faults (expiredOrders now w.db))
  | .expireNext _ [] => (w, .done)
  | .expireNext faults (row :: rest) =>
    if EscrowIn protectedEscrowStatuses row.escrow then (w, .expireNext faults rest)
    else Pool.await .done (checkBalance tw row) (fun _ => .expireChecked faults row rest) w
  | .expireChecked faults row rest => Pool.await .done (Svc.attempt (expireWrite (faults row.order.orderId) row))
      (fun _ => .expireNext faults rest) w
  | .done => (w, .done)

/-- The machine whose inputs say which call steps. -/
abbrev calls (tw : TrustlessWork χ) : Machine (Pool (World χ) Call) ℕ Unit := Pool.machine (callStep tw)

/-! ## Calls that run one after the other -/

section Sequential

variable {tw : TrustlessWork χ}

theorem realises_found (inst : ℕ) (fault : Option Thrown) (event : OnChainEscrowEvent) (escrow : EscrowOnChain) :
    Pool.Realises (callStep tw) .done (judge inst fault event escrow) (processFound inst fault event escrow) := by
  unfold judge processFound
  split_ifs with hterm hvalid
  · exact Pool.realises_step fun w => rfl
  · have hval : validateStatusTransition escrow.escrowStatus (.event event.eventType) = .ok () :=
      validateStatusTransition_eq_ok.mpr hvalid
    rw [hval]
    show Pool.Realises _ _ _ (commitEvent fault event escrow >>= _)
    exact Pool.realises_bind (fun w => rfl) fun _ => Pool.realises_step fun w => rfl
  · refine Pool.realises_done fun w => ?_
    have herr : ∃ t, validateStatusTransition escrow.escrowStatus (.event event.eventType) = .error t := by
      rw [validateStatusTransition, if_neg hvalid]
      exact ⟨_, rfl⟩
    obtain ⟨t, ht⟩ := herr
    rw [ht]
    rfl

theorem realises_event (inst : ℕ) (fault : Option Thrown) (event : OnChainEscrowEvent) :
    Pool.Realises (callStep tw) .done (.start (.processEvent inst fault event)) (processEvent inst fault event) := by
  refine Pool.realises_get (fun w => rfl) fun w => ?_
  split_ifs with hk
  · exact Pool.realises_done fun w => rfl
  · unfold findEscrowRecord
    rw [Svc.bind_assoc]
    refine Pool.realises_bind
      (k := fun found => found.elim (.eventByOrder inst fault event) (judge inst fault event)) (fun w => rfl) fun found => ?_
    cases found with
    | some escrow => exact realises_found inst fault event escrow
    | none =>
      refine Pool.realises_bind (k := fun found => found.elim .done (judge inst fault event)) (fun w => rfl) fun found => ?_
      cases found with
      | some escrow => exact realises_found inst fault event escrow
      | none => exact Pool.realises_done fun w => rfl

theorem realises_expired (faults : String → Option Thrown) : ∀ rows : List OrderWithEscrow,
    Pool.Realises (callStep tw) .done (.expireNext faults rows) (processExpiredOrders tw faults rows)
  | [] => Pool.realises_step fun w => rfl
  | row :: rest => fun w => by
    by_cases hp : EscrowIn protectedEscrowStatuses row.escrow
    · obtain ⟨n, hn⟩ := realises_expired faults rest w
      refine ⟨n + 1, ?_⟩
      rw [Pool.solo, callStep, if_pos hp, hn, processExpiredOrders, processExpiredOrder, if_pos hp]
      rfl
    · -- the balance query never throws, so the write follows it
      obtain ⟨ext, hb⟩ := checkBalance_run tw row w
      have hwrite := Svc.run_attempt (expireWrite (faults row.order.orderId) row) { w with ext := ext }
      obtain ⟨n, hn⟩ := realises_expired faults rest
        ((expireWrite (faults row.order.orderId) row).run { w with ext := ext }).2
      refine ⟨n + 2, ?_⟩
      rw [Pool.solo, callStep, if_neg hp, Pool.await, hb, Pool.solo]
      dsimp only [callStep]
      rw [Pool.await, hwrite, hn, processExpiredOrders, processExpiredOrder, if_neg hp,
        Svc.run_bind_ok (Svc.run_attempt _ _), Svc.run_bind_ok hb]

theorem realises_service : ∀ op : FlowOp, Pool.Realises (callStep tw) .done (.start op) (op.service tw)
  | .cancel id userId =>
    Pool.realises_map <| Pool.realises_bind (fun w => rfl) fun _ => Pool.realises_last fun w => rfl
  | .expireOrders faults => fun w => by
    have hrows : Pool.Realises (callStep tw) .done (.expireNext faults (expiredOrders w.now w.db)) _ :=
      realises_expired faults _
    obtain ⟨n, hn⟩ := hrows w
    exact ⟨n + 2, hn⟩
  | .syncTransaction dto => by
    refine Pool.realises_map <| Pool.realises_bind (fun w => rfl) fun escrow => ?_
    refine Pool.realises_bind (fun w => rfl) fun result => ?_
    exact Pool.realises_bind (fun w => rfl) fun _ => Pool.realises_last fun w => rfl
  | .processEvent inst fault event => Pool.realises_map (realises_event inst fault event)
  | .tick ms => Pool.realises_step fun w => rfl

/-- **Sequential runs are schedules**: each call from its first to its last step, then the next. -/
theorem run_ops (tw : TrustlessWork χ) : ∀ (ops : List FlowOp) (p : Pool (World χ) Call) (k : ℕ),
    (∀ i (h : i < ops.length), p.calls (k + i) = .start ops[i]) →
      ∃ is, ((calls tw).run p is).shared = (flow tw).run p.shared ops
  | [], _, _, _ => ⟨[], rfl⟩
  | op :: ops, p, k, hcalls => by
    have hfirst : p.calls k = .start op := hcalls 0 (by simp)
    have hop : Pool.Realises (callStep tw) .done (p.calls k) (op.service tw) := by
      rw [hfirst]
      exact realises_service op
    obtain ⟨n, hn⟩ := Pool.run_alone hop
    obtain ⟨is, his⟩ := run_ops tw ops ((calls tw).run p (List.replicate n k)) (k + 1) fun i hi => by
      rw [hn]
      show Function.update p.calls k .done (k + 1 + i) = _
      rw [Function.update_of_ne (by omega), show k + 1 + i = k + (i + 1) by omega]
      exact hcalls (i + 1) (by simpa using hi)
    refine ⟨List.replicate n k ++ is, ?_⟩
    rw [Machine.run_append, his, hn]
    rfl

end Sequential

/-! ## What one step writes -/

/-- The escrow whose status the next step writes, and the action or event that it writes it for. -/
def Call.escrowWrite : Call → Option (String × Trigger)
  | .syncSent dto _ _ => some (uuid dto.escrowId, .action dto.action)
  | .eventChecked _ none event escrow => some (escrow.escrowId, .event event.eventType)
  | _ => none

/-- The order whose status the next step writes, and the status. -/
def Call.orderWrite : Call → Option (String × OrderStatus)
  | .eventChecked _ none event escrow => some (escrow.orderId, (mapEventToStatuses event.eventType).orderStatus)
  | .cancelChecked id => some (uuid id, .cancelled)
  | .expireChecked faults row _ =>
    if faults row.order.orderId = none then some (row.order.orderId, targetStatus row.order) else none
  | _ => none

/-- Only the statuses that the call announces have changed. -/
structure Call.Announces (c : Call) (f : EscrowOnChain → EscrowOnChain) (g : Order → Order) : Prop where
  escrow : ∀ e, (f e).escrowStatus = e.escrowStatus ∨
    ∃ t, c.escrowWrite = some (e.escrowId, t) ∧ (f e).escrowStatus = t.status
  order : ∀ o, (g o).orderStatus = o.orderStatus ∨ c.orderWrite = some (o.orderId, (g o).orderStatus)

theorem Call.announces_id (c : Call) : c.Announces id id := ⟨fun _ => Or.inl rfl, fun _ => Or.inl rfl⟩

theorem Call.announces_escrow {c : Call} {k : String} {t : Trigger} {data : EscrowOnChain → EscrowOnChain}
    (hc : c.escrowWrite = some (k, t)) (hdata : ∀ e, (data e).escrowStatus = t.status) (e : EscrowOnChain) :
    (Table.atKey k data e).escrowStatus = e.escrowStatus ∨
      ∃ t, c.escrowWrite = some (e.escrowId, t) ∧ (Table.atKey k data e).escrowStatus = t.status := by
  rcases Table.atKey_cases k data e with h | ⟨hk, h⟩
  · exact Or.inl (by rw [h])
  · exact Or.inr ⟨t, by rw [hc]; exact congrArg (fun k => some (k, t)) hk.symm, by rw [h, hdata]⟩

theorem Call.announces_order {c : Call} {k : String} {s : OrderStatus} {data : Order → Order}
    (hc : c.orderWrite = some (k, s)) (hdata : ∀ o, (data o).orderStatus = s) (o : Order) :
    (Table.atKey k data o).orderStatus = o.orderStatus ∨
      c.orderWrite = some (o.orderId, (Table.atKey k data o).orderStatus) := by
  rcases Table.atKey_cases k data o with h | ⟨hk, h⟩
  · exact Or.inl (by rw [h])
  · refine Or.inr ?_
    rw [h, hdata, hc]
    exact congrArg (fun k => some (k, s)) hk.symm

section Step

variable {tw : TrustlessWork χ} {w : World χ}

/-- **One step** rewrites the escrows and the orders, and changes the statuses it announces. -/
theorem callStep_rewrites (tw : TrustlessWork χ) (w : World χ) (c : Call) :
    ∃ f g, Rewritten f g w.db (callStep tw w c).1.db ∧ c.Announces f g := by
  have hsame : (callStep tw w c).1.db = w.db → ∃ f g, Rewritten f g w.db (callStep tw w c).1.db ∧ c.Announces f g :=
    fun h => ⟨id, id, by rw [h]; exact Rewritten.refl _, c.announces_id⟩
  cases c with
  | start op =>
    cases op with
    | cancel id userId => exact hsame (by rw [callStep, firstStep, Pool.await_fst, cancelCheck_state])
    | syncTransaction dto => exact hsame (by rw [callStep, firstStep, Pool.await_fst, syncCheck_state])
    | _ => exact hsame rfl
  | syncChecked dto escrow => exact hsame (by rw [callStep, Pool.await_fst, syncSend_run])
  | syncSent dto escrow result =>
    rw [callStep, Pool.await_fst] at hsame ⊢
    rcases syncStore_cases dto result w with ⟨t, h⟩ | ⟨e, db, h, -, hre⟩
    · exact hsame (by rw [h])
    · exact ⟨_, _, by rw [h]; exact hre, Call.announces_escrow rfl (syncData_status dto result), fun _ => Or.inl rfl⟩
  | syncStored dto escrow result =>
    rw [callStep, Pool.await_fst]
    obtain ⟨r, db, h, hre⟩ := syncAudit_run dto escrow result w
    exact ⟨_, _, by rw [h]; exact hre, Call.announces_id _⟩
  | eventUnseen inst fault event => exact hsame (by rw [callStep, Pool.await_fst]; rfl)
  | eventByOrder inst fault event =>
    refine hsame ?_
    rw [callStep, Pool.await_fst, findByOrder_run]
  | eventChecked inst fault event escrow =>
    rw [callStep, Pool.await_fst] at hsame ⊢
    rcases commitEvent_cases fault event escrow w with ⟨t, h⟩ | ⟨db, rfl, h, hre⟩
    · exact hsame (by rw [h])
    · exact ⟨_, _, by rw [h]; exact hre, Call.announces_escrow rfl fun _ => rfl, Call.announces_order rfl fun _ => rfl⟩
  | eventHandled inst event => exact hsame rfl
  | cancelChecked orderId =>
    rw [callStep, Pool.await_fst] at hsame ⊢
    rcases cancelWrite_cases orderId w with ⟨-, t, h⟩ | ⟨o, db, -, h, hre⟩
    · exact hsame (by rw [h])
    · exact ⟨_, _, by rw [h]; exact hre, fun _ => Or.inl rfl, Call.announces_order rfl fun _ => rfl⟩
  | expireAt faults now => exact hsame rfl
  | expireNext faults rows =>
    cases rows with
    | nil => exact hsame rfl
    | cons row rest =>
      refine hsame ?_
      rw [callStep]
      split_ifs with hp
      · rfl
      · obtain ⟨ext, hb⟩ := checkBalance_run tw row w
        rw [Pool.await_fst, hb]
  | expireChecked faults row rest =>
    rw [callStep, Pool.await_fst, Svc.run_attempt] at hsame ⊢
    rcases expireWrite_cases (faults row.order.orderId) row w with ⟨t, h⟩ | ⟨o, db, hnone, -, h, hre⟩
    · exact hsame (by rw [h])
    · exact ⟨_, _, by rw [h]; exact hre, fun _ => Or.inl rfl, Call.announces_order (if_pos hnone) fun _ => rfl⟩
  | done => exact hsame rfl

end Step

end IKash
