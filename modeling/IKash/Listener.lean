import IKash.EventParser
import IKash.World

/-!
# `StellarListenerService`

`processEvent` looks the escrow of an event up by contract, then by order (`findEscrowRecord`), skips what is already
processed, validates the transition and writes escrow, order and audit row in one transaction (`applyEvent`).
`fetchAndProcessNewEvents` is one poll: the contracts to ask for, one page of the RPC, every raw event in turn, and the
cursor `lastProcessedLedger`. A database fault is an argument of the step it hits.

- `processEvent_run`: what a call does in every case (`verdict`);
- `applyEvent_isOk`: the transaction is never refused by the database.
-/

namespace IKash

open Lib

namespace StellarListenerService

variable {χ : Type}

/-! ## One event -/

def eventKey (event : OnChainEscrowEvent) : String := event.eventId ++ ":" ++ event.eventType.text

def escrowByContract (db : Db) (contractId : String) : Option EscrowOnChain :=
  if contractId = "" then none else db.escrows.findUnique? EscrowOnChain.contractId contractId

/-- `event.engagementId || event.orderId` -/
def orderIdOf (event : OnChainEscrowEvent) : Option String :=
  (event.engagementId.filter (· ≠ "")).or (event.orderId.filter (· ≠ ""))

/-- A text that is no UUID is refused by Prisma. -/
def escrowByOrder (db : Db) (event : OnChainEscrowEvent) : Except Thrown (Option EscrowOnChain) :=
  match orderIdOf event with
  | none => .ok none
  | some id =>
    if isUuid id then .ok (db.escrows.findUnique? (fun e => some e.orderId) (uuid id))
    else .error (.prisma .inconsistentColumnData)

def findByContract (event : OnChainEscrowEvent) : Service χ (Option EscrowOnChain) :=
  prisma fun db => .ok (escrowByContract db event.contractId, db)

def findByOrder (event : OnChainEscrowEvent) : Service χ (Option EscrowOnChain) :=
  prisma fun db => (escrowByOrder db event).map (fun e => (e, db))

def findEscrowRecord (event : OnChainEscrowEvent) : Service χ (Option EscrowOnChain) := do
  let found ← findByContract event
  match found with
  | some escrow => pure (some escrow)
  | none => findByOrder event

def mapEventToAuditAction : EventType → AuditAction
  | .escrowCreated => .escrowCreated
  | .escrowFunded => .escrowFunded
  | .escrowReleased => .escrowReleased
  | .escrowRefunded => .escrowRefunded
  | .escrowCancelled => .escrowCancelled
  | .escrowDisputed => .escrowDisputed

/-- `updateData` of `processEvent`, on the stored escrow. -/
def escrowData (event : OnChainEscrowEvent) (e : EscrowOnChain) : EscrowOnChain := { e with
  escrowStatus := (mapEventToStatuses event.eventType).escrowStatus
  txHashLock := if event.eventType = .escrowFunded ∧ event.txHash ≠ "" then some event.txHash else e.txHashLock
  txHashRelease := if (event.eventType = .escrowReleased ∨ event.eventType = .escrowRefunded) ∧ event.txHash ≠ ""
    then some event.txHash else e.txHashRelease }

def orderData (event : OnChainEscrowEvent) (o : Order) : Order :=
  { o with orderStatus := (mapEventToStatuses event.eventType).orderStatus }

def auditEntry (event : OnChainEscrowEvent) (escrow : EscrowOnChain) : AuditLog where
  action := mapEventToAuditAction event.eventType
  resourceType := "Escrow"
  resourceId := some escrow.escrowId
  result := .success
  metadata := [("contractId", .str event.contractId), ("orderId", .str escrow.orderId), ("txHash", .str event.txHash),
    ("ledgerSequence", event.ledgerSequence.elim .null .num), ("eventIndex", event.eventIndex.elim .null .num),
    ("eventType", .str event.eventType.text)]

/-- The `$transaction` of `processEvent`. -/
def applyEvent (event : OnChainEscrowEvent) (escrow : EscrowOnChain) : Tx Unit := do
  let _ ← Prisma.escrowOnChain.update escrow.escrowId (escrowData event)
  let _ ← Prisma.order.update escrow.orderId (orderData event)
  Prisma.auditLog.create (auditEntry event escrow)

/-- The transaction, or the fault that rolled it back. -/
def commitEvent (fault : Option Thrown) (event : OnChainEscrowEvent) (escrow : EscrowOnChain) : Service χ Unit :=
  match fault with
  | some t => Svc.throw t
  | none => prisma (applyEvent event escrow)

/-- `this.processedEventIds.add(eventKey)` -/
def remember (inst : ℕ) (event : OnChainEscrowEvent) (w : World χ) : World χ :=
  w.setListener inst { w.listeners inst with
    processedEventIds := (w.listeners inst).processedEventIds.insert (eventKey event) }

/-- `processEvent` once the escrow is found. -/
def processFound (inst : ℕ) (fault : Option Thrown) (event : OnChainEscrowEvent) (escrow : EscrowOnChain) :
    Service χ Bool :=
  if EscrowService.isTerminalOrAlreadyProcessed escrow.escrowStatus event.eventType then do
    Svc.modify (remember inst event)
    pure false
  else do
    Svc.ofExcept (EscrowService.validateStatusTransition escrow.escrowStatus (.event event.eventType))
    commitEvent fault event escrow
    Svc.modify (remember inst event)
    pure true

def processEvent (inst : ℕ) (fault : Option Thrown) (event : OnChainEscrowEvent) : Service χ Bool := do
  let w ← Svc.get
  if eventKey event ∈ (w.listeners inst).processedEventIds then pure false
  else do
    let found ← findEscrowRecord event
    match found with
    | none => pure false
    | some escrow => processFound inst fault event escrow

/-! ## One poll -/

structure RpcPage where
  events : List Json := []
  latestLedger : Option ℤ := none

/-- `getEvents` of the Soroban RPC: the start ledger, the contracts and the limit. -/
structure Rpc where
  getEvents : Option ℤ → List String → ℕ → Except Thrown RpcPage

def cursor (inst : ℕ) (w : World χ) : ℤ := (w.listeners inst).lastProcessedLedger

/-- `if (ledger && ledger > this.lastProcessedLedger) this.lastProcessedLedger = ledger` -/
def advance (inst : ℕ) (ledger : Option ℤ) (w : World χ) : World χ :=
  match ledger with
  | none => w
  | some n =>
    if n ≠ 0 ∧ cursor inst w < n then w.setListener inst { w.listeners inst with lastProcessedLedger := n } else w

/-- The contracts whose escrow is not over. -/
def activeContracts (db : Db) : List String :=
  db.escrows.rows.filterMap fun e =>
    if e.escrowStatus ∈ [.released, .resolved] then none else e.contractId.filter (· ≠ "")

def getTargetContractIds (configured : Option String) (lookup : Option Thrown) : Service χ (List String) := do
  let w ← Svc.get
  let fromConfig := (configured.filter (· ≠ "")).toList
  match lookup with
  | some _ => pure fromConfig
  | none => pure (fromConfig ++ activeContracts w.db).eraseDups

def queryEventsFromRpc (rpc : Rpc) (inst : ℕ) (contractIds : List String) : Service χ RpcPage := do
  let w ← Svc.get
  let startLedger := if 0 < cursor inst w then some (cursor inst w) else none
  match rpc.getEvents startLedger contractIds 100 with
  | .ok page => pure page
  | .error _ => pure {}

/-- What became of a raw event of the page. -/
inductive RawOutcome where
  | unrecognised
  | processed (event : OnChainEscrowEvent) (handled : Bool)
  | failed (event : OnChainEscrowEvent) (error : Thrown)

/-- The body of the loop over the page. -/
def handleRaw (inst : ℕ) (fault : Option Thrown) (raw : Json) : Service χ RawOutcome :=
  match StellarEventParserService.parseEvent raw with
  | none => pure .unrecognised
  | some parsed => do
    let result ← Svc.attempt (processEvent inst fault parsed)
    match result with
    | .ok handled => do
      Svc.modify (advance inst parsed.ledgerSequence)
      pure (.processed parsed handled)
    | .error t => pure (.failed parsed t)

/-- The loop; `faults i` hits the transaction of the `i`-th event. -/
def handleRaws (inst : ℕ) (faults : ℕ → Option Thrown) : List Json → Service χ (List RawOutcome)
  | [] => pure []
  | raw :: rest => do
    let outcome ← handleRaw inst (faults 0) raw
    let outcomes ← handleRaws inst (fun i => faults (i + 1)) rest
    pure (outcome :: outcomes)

/-- What one poll asked for, was given and made of it. -/
structure PollReport where
  targetContracts : List String
  rawEvents : List Json := []
  outcomes : List RawOutcome := []

/-- The number `fetchAndProcessNewEvents` returns. -/
def PollReport.processedCount (r : PollReport) : ℕ :=
  r.outcomes.countP fun
    | .processed _ handled => handled
    | _ => false

/-- The faults of one poll: of the contract lookup, and of the transaction of each event of the page. -/
structure PollFaults where
  lookup : Option Thrown := none
  transaction : ℕ → Option Thrown := fun _ => none

def fetchAndProcessNewEvents (rpc : Rpc) (configured : Option String) (inst : ℕ) (faults : PollFaults) :
    Service χ PollReport := do
  let targetContracts ← getTargetContractIds configured faults.lookup
  if targetContracts = [] then pure ⟨[], [], []⟩
  else do
    let page ← queryEventsFromRpc rpc inst targetContracts
    let outcomes ← handleRaws inst faults.transaction page.events
    Svc.modify (advance inst page.latestLedger)
    pure ⟨targetContracts, page.events, outcomes⟩

/-! ## What `processEvent` does -/

variable {inst : ℕ} {fault : Option Thrown} {event : OnChainEscrowEvent} {w : World χ} {db db' : Db}
  {e : EscrowOnChain} {t : Thrown}

/-- The row `findEscrowRecord` finds. -/
def findEscrow (db : Db) (event : OnChainEscrowEvent) : Except Thrown (Option EscrowOnChain) :=
  match escrowByContract db event.contractId with
  | some e => .ok (some e)
  | none => escrowByOrder db event

theorem findByOrder_run (event : OnChainEscrowEvent) (w : World χ) :
    (findByOrder event).run w = (escrowByOrder w.db event, w) := by
  unfold findByOrder
  cases h : escrowByOrder w.db event with
  | ok e => exact prisma_run_ok (by rw [h]; rfl)
  | error t => exact prisma_run_error (by rw [h]; rfl)

theorem findEscrowRecord_run (event : OnChainEscrowEvent) (w : World χ) :
    (findEscrowRecord event).run w = (findEscrow w.db event, w) := by
  unfold findEscrowRecord findEscrow
  rw [Svc.run_bind_ok (show (findByContract event).run w = (.ok (escrowByContract w.db event.contractId), w) from rfl)]
  cases escrowByContract w.db event.contractId with
  | some e => rfl
  | none => exact findByOrder_run event w

theorem escrowByContract_mem {contractId : String} (h : escrowByContract db contractId = some e) :
    e ∈ db.escrows.rows := by
  unfold escrowByContract at h
  split at h
  · cases h
  · exact List.mem_of_find?_eq_some h

theorem escrowByOrder_mem (h : escrowByOrder db event = .ok (some e)) : e ∈ db.escrows.rows := by
  unfold escrowByOrder at h
  split at h
  · cases h
  · split at h
    · exact List.mem_of_find?_eq_some (Except.ok.inj h)
    · cases h

theorem findEscrow_mem (h : findEscrow db event = .ok (some e)) : e ∈ db.escrows.rows := by
  unfold findEscrow at h
  cases hc : escrowByContract db event.contractId with
  | some r =>
    rw [hc] at h
    cases h
    exact escrowByContract_mem hc
  | none =>
    rw [hc] at h
    exact escrowByOrder_mem h

/-- Looking an event up sees neither the statuses nor the hashes. -/
theorem findEscrow_rewritten {f : EscrowOnChain → EscrowOnChain} {g : Order → Order} (h : Rewritten f g db db')
    (hf : ∀ e, (f e).contractId = e.contractId) (event : OnChainEscrowEvent) :
    findEscrow db' event = (findEscrow db event).map (Option.map f) := by
  have hc : escrowByContract db' event.contractId = (escrowByContract db event.contractId).map f := by
    unfold escrowByContract
    split
    · rfl
    · exact Table.findUnique?_map h.escrows hf
  have ho : escrowByOrder db' event = (escrowByOrder db event).map (Option.map f) := by
    unfold escrowByOrder
    split
    · rfl
    · split
      · simp only [Except.map]
        exact congrArg Except.ok h.escrowOfOrder
      · rfl
  unfold findEscrow
  rw [hc]
  cases escrowByContract db event.contractId with
  | some e => rfl
  | none => exact ho

theorem escrowData_ids (event : OnChainEscrowEvent) (e : EscrowOnChain) :
    (escrowData event e).escrowId = e.escrowId ∧ (escrowData event e).orderId = e.orderId := ⟨rfl, rfl⟩

theorem orderData_ids (event : OnChainEscrowEvent) (o : Order) : (orderData event o).orderId = o.orderId := rfl

/-- The database never refuses the transaction of a stored escrow: its order is there. -/
theorem applyEvent_isOk (event : OnChainEscrowEvent) (he : e ∈ db.escrows.rows) :
    ∃ db', applyEvent event e db = .ok ((), db') ∧
      Rewritten (Table.atKey e.escrowId (escrowData event)) (Table.atKey e.orderId (orderData event)) db db' := by
  have hfind : db.escrows.find? e.escrowId = some e := Table.find?_eq_some.mpr ⟨he, rfl⟩
  obtain ⟨db₁, h₁⟩ : ∃ db₁, Prisma.escrowOnChain.update e.escrowId (escrowData event) db =
      .ok (escrowData event e, db₁) := Prisma.escrowOnChain_update_isOk hfind rfl rfl rfl
  have hre₁ := Rewritten.of_escrow_update (escrowData_ids event) h₁
  obtain ⟨o, ho⟩ := Table.has_iff.mp (db.refs.escrowOrder e he)
  have ho₁ : db₁.orders.find? e.orderId = some o := by rw [hre₁.find?_order, ho]; rfl
  obtain ⟨db₂, h₂⟩ : ∃ db₂, Prisma.order.update e.orderId (orderData event) db₁ = .ok (orderData event o, db₂) :=
    Prisma.order_update_isOk ho₁ rfl rfl rfl rfl
  have hre₂ := Rewritten.of_order_update (orderData_ids event) h₂
  obtain ⟨db₃, h₃⟩ : ∃ db₃, Prisma.auditLog.create (auditEntry event e) db₂ = .ok ((), db₃) :=
    Prisma.auditLog_create_isOk rfl
  refine ⟨db₃, ?_, (hre₁.trans hre₂).trans (Rewritten.of_audit h₃)⟩
  unfold applyEvent
  rw [Tx.bind_ok h₁, Tx.bind_ok h₂, h₃]

/-- A transaction that was not refused rewrote the escrow and its order. -/
theorem of_applyEvent {u : Unit} (h : applyEvent event e db = .ok (u, db')) :
    Rewritten (Table.atKey e.escrowId (escrowData event)) (Table.atKey e.orderId (orderData event)) db db' := by
  obtain ⟨_, db₁, h₁, hrest⟩ := Tx.of_bind_ok h
  obtain ⟨_, db₂, h₂, h₃⟩ := Tx.of_bind_ok hrest
  have hre₁ := Rewritten.of_escrow_update (escrowData_ids event) h₁
  have hre₂ := Rewritten.of_order_update (orderData_ids event) h₂
  exact (hre₁.trans hre₂).trans (Rewritten.of_audit h₃)

theorem commitEvent_cases (fault : Option Thrown) (event : OnChainEscrowEvent) (e : EscrowOnChain) (w : World χ) :
    (∃ t, (commitEvent fault event e).run w = (.error t, w)) ∨
    ∃ db, fault = none ∧ (commitEvent fault event e).run w = (.ok (), { w with db := db }) ∧
      Rewritten (Table.atKey e.escrowId (escrowData event)) (Table.atKey e.orderId (orderData event)) w.db db := by
  cases fault with
  | some t => exact Or.inl ⟨t, rfl⟩
  | none =>
    cases h : applyEvent event e w.db with
    | error t => exact Or.inl ⟨t, prisma_run_error h⟩
    | ok r => exact Or.inr ⟨r.2, rfl, prisma_run_ok h, of_applyEvent h⟩

/-- The four ways a call can end. -/
inductive Verdict where
  | ignored
  | skipped
  | throws (error : Thrown)
  | applicable (escrow : EscrowOnChain)

def verdict (inst : ℕ) (event : OnChainEscrowEvent) (w : World χ) : Verdict :=
  if eventKey event ∈ (w.listeners inst).processedEventIds then .ignored
  else match findEscrow w.db event with
    | .error t => .throws t
    | .ok none => .ignored
    | .ok (some e) =>
      if EscrowService.isTerminalOrAlreadyProcessed e.escrowStatus event.eventType then .skipped
      else match EscrowService.validateStatusTransition e.escrowStatus (.event event.eventType) with
        | .error t => .throws t
        | .ok _ => .applicable e

theorem verdict_applicable : verdict inst event w = .applicable e ↔
    eventKey event ∉ (w.listeners inst).processedEventIds ∧ findEscrow w.db event = .ok (some e) ∧
      e.escrowStatus ∈ EscrowService.validTransitions (.event event.eventType) := by
  unfold verdict
  by_cases hk : eventKey event ∈ (w.listeners inst).processedEventIds
  · simp [hk]
  · rw [if_neg hk]
    rcases hf : findEscrow w.db event with t | _ | r
    · simp
    · simp
    · by_cases hv : r.escrowStatus ∈ EscrowService.validTransitions (.event event.eventType)
      · have hval : EscrowService.validateStatusTransition r.escrowStatus (.event event.eventType) = .ok () :=
          EscrowService.validateStatusTransition_eq_ok.mpr hv
        simp only [not_terminal_of_valid hv, hval, hk, Bool.false_eq_true, if_false, not_false_eq_true, true_and,
          Verdict.applicable.injEq, Except.ok.injEq, Option.some.injEq]
        exact ⟨fun h => ⟨h, h ▸ hv⟩, And.left⟩
      · have hne : ∀ u, EscrowService.validateStatusTransition r.escrowStatus (.event event.eventType) ≠ .ok u :=
          fun u h => hv (EscrowService.validateStatusTransition_eq_ok.mp h)
        constructor
        · intro h
          dsimp only at h
          split at h
          · cases h
          · split at h
            · cases h
            · rename_i u hu
              exact absurd hu (hne u)
        · rintro ⟨-, hr, hmem⟩
          cases hr
          exact absurd hmem hv

/-- **What a call does.** -/
theorem processEvent_run (inst : ℕ) (fault : Option Thrown) (event : OnChainEscrowEvent) (w : World χ) :
    match verdict inst event w with
    | .ignored => (processEvent inst fault event).run w = (.ok false, w)
    | .skipped => (processEvent inst fault event).run w = (.ok false, remember inst event w)
    | .throws t => (processEvent inst fault event).run w = (.error t, w)
    | .applicable e => match fault with
      | some t => (processEvent inst fault event).run w = (.error t, w)
      | none => ∃ db, (processEvent inst fault event).run w = (.ok true, remember inst event { w with db := db }) ∧
        Rewritten (Table.atKey e.escrowId (escrowData event)) (Table.atKey e.orderId (orderData event)) w.db db := by
  unfold verdict processEvent
  rw [Svc.run_bind_ok (Svc.run_get w)]
  by_cases hk : eventKey event ∈ (w.listeners inst).processedEventIds
  · simp only [hk, if_true, Svc.run_pure]
  · simp only [hk, if_false]
    have hlook := findEscrowRecord_run event w
    rcases hf : findEscrow w.db event with t | _ | e
    · rw [hf] at hlook
      exact Svc.run_bind_error hlook
    · rw [hf] at hlook
      exact Svc.run_bind_ok hlook
    · rw [hf] at hlook
      simp only [Svc.run_bind_ok hlook]
      unfold processFound
      by_cases hterm : EscrowService.isTerminalOrAlreadyProcessed e.escrowStatus event.eventType = true
      · simp only [hterm, if_true]
        rfl
      · simp only [hterm, if_false, Bool.false_eq_true]
        cases hval : EscrowService.validateStatusTransition e.escrowStatus (.event event.eventType) with
        | error t => rfl
        | ok u =>
          cases fault with
          | some t => rfl
          | none =>
            obtain ⟨db, hdb, hre⟩ := applyEvent_isOk event (findEscrow_mem hf)
            refine ⟨db, ?_, hre⟩
            have hrun : (commitEvent none event e : Service χ Unit).run w = (.ok (), { w with db := db }) :=
              prisma_run_ok hdb
            rw [Svc.run_bind_ok (Svc.run_ofExcept _ _), Svc.run_bind_ok hrun]
            rfl

end StellarListenerService

end IKash
