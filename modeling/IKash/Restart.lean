import IKash.Flow

/-!
# Restarts of the listener

A restart clears the memory of a `StellarListenerService` instance and reads the resume point from the audit log
(`loadLastProcessedLedger`). `server tw` is the machine of `flow` with restarts.

The set of processed events does not survive a restart, so that an event is not applied twice rests on the statuses:
every change of a row is a transition, which raises its `rank` (`transitions_next`, `validTransitions_rank`), and an event
starts only from statuses below the one it leads to.

- `at_most_once`: along every run statuses only advance, an event applied to an escrow leaves everything as it is when
  it is delivered again, and a call that throws leaves everything as it was.
-/

namespace IKash

open Lib EscrowService StellarListenerService OrderService

variable {χ : Type}

/-! ## The restart -/

/-- The actions of the on-chain events. -/
def escrowActions : List AuditAction :=
  [.escrowCreated, .escrowFunded, .escrowReleased, .escrowRefunded, .escrowCancelled, .escrowDisputed]

/-- The newest audit row of such an action; rows are in the order of their `createdAt`. -/
def latestAudit (db : Db) : Option AuditLog := db.auditLogs.reverse.find? fun a => a.action ∈ escrowActions

/-- `Number(meta.ledgerSequence)` of a number or a text; nobody writes a text there. -/
def savedLedger (a : AuditLog) : Option ℤ :=
  match a.metadata.lookup "ledgerSequence" with
  | some (.num n) => some n
  | some (.str s) => Json.numberOfString s
  | _ => none

namespace StellarListenerService

def setCursor (inst : ℕ) (ledger : ℤ) (w : World χ) : World χ :=
  w.setListener inst { w.listeners inst with lastProcessedLedger := ledger }

/-- A failed query is logged and swallowed. -/
def loadLastProcessedLedger (inst : ℕ) (fault : Option Thrown) : Service χ Unit := Svc.modify fun w =>
  match fault with
  | some _ => w
  | none => ((latestAudit w.db).bind savedLedger).elim w fun ledger => setCursor inst ledger w

/-- A new instance: nothing is remembered, and the resume point is loaded. -/
def restart (inst : ℕ) (fault : Option Thrown) : Service χ Unit := do
  Svc.modify fun w => w.setListener inst {}
  loadLastProcessedLedger inst fault

theorem restart_db (inst : ℕ) (fault : Option Thrown) (w : World χ) : ((restart inst fault).run w).2.db = w.db := by
  have hrun : ((restart inst fault).run w).2 =
    ((loadLastProcessedLedger inst fault).run (w.setListener inst {})).2 := rfl
  rw [hrun]
  unfold loadLastProcessedLedger
  rw [Svc.run_modify]
  cases fault with
  | some t => rfl
  | none =>
    cases (latestAudit (w.setListener inst {}).db).bind savedLedger with
    | none => rfl
    | some ledger => rfl

end StellarListenerService

/-! ## The machine -/

inductive ServerOp where
  | call (op : FlowOp)
  | restart (inst : ℕ) (fault : Option Thrown)

def ServerOp.service (tw : TrustlessWork χ) : ServerOp → Service χ Unit
  | .call op => op.service tw
  | .restart inst fault => StellarListenerService.restart inst fault

def server (tw : TrustlessWork χ) : Machine (World χ) ServerOp (Except Thrown Unit) where
  step w op := (op.service tw).run w

variable {tw : TrustlessWork χ} {w : World χ}

theorem server_next_call (op : FlowOp) : (server tw).next w (.call op) = (flow tw).next w op := rfl

/-! ## Statuses only advance -/

/-- The order of the statuses. -/
def EscrowStatus.rank : EscrowStatus → ℕ
  | .pending => 0
  | .initialized => 1
  | .funded => 2
  | .fiatSent => 3
  | .released => 4
  | .disputed => 4
  | .resolved => 5

/-- Every transition goes up. -/
theorem validTransitions_rank {s : EscrowStatus} {t : Trigger} (h : s ∈ validTransitions t) : s.rank < t.status.rank := by
  rcases t with a | e
  · cases a <;> revert h <;> cases s <;> decide
  · cases e <;> revert h <;> cases s <;> decide

/-- Every escrow is still there, with its status or a later one. -/
def Advances (w w' : World χ) : Prop :=
  ∀ k e, w.db.escrows.find? k = some e → ∃ e', w'.db.escrows.find? k = some e' ∧
    (e'.escrowStatus = e.escrowStatus ∨ e.escrowStatus.rank < e'.escrowStatus.rank)

theorem Advances.refl (w : World χ) : Advances w w := fun _ e he => ⟨e, he, Or.inl rfl⟩

theorem Advances.trans {a b c : World χ} (h : Advances a b) (h' : Advances b c) : Advances a c := by
  intro k e he
  obtain ⟨e₁, he₁, hs₁⟩ := h k e he
  obtain ⟨e₂, he₂, hs₂⟩ := h' k e₁ he₁
  refine ⟨e₂, he₂, ?_⟩
  rcases hs₁ with hs₁ | hs₁ <;> rcases hs₂ with hs₂ | hs₂
  · exact Or.inl (hs₂.trans hs₁)
  · exact Or.inr (hs₁ ▸ hs₂)
  · exact Or.inr (hs₂ ▸ hs₁)
  · exact Or.inr (hs₁.trans hs₂)

/-- Every escrow is still there, as it was or after a transition that its status admits. -/
def Transitions (w w' : World χ) : Prop :=
  ∀ k e, w.db.escrows.find? k = some e → ∃ e', w'.db.escrows.find? k = some e' ∧
    (e' = e ∨ ∃ t, e.escrowStatus ∈ validTransitions t ∧ e'.escrowStatus = t.status)

theorem Transitions.of_db {w w' : World χ} (h : w'.db = w.db) : Transitions w w' :=
  fun _ e he => ⟨e, by rw [h]; exact he, Or.inl rfl⟩

/-- The escrows are not touched. -/
theorem Transitions.of_orders {w w' : World χ} {g : Order → Order} (h : Rewritten id g w.db w'.db) :
    Transitions w w' := fun _ e he => ⟨e, by rw [h.find?_escrow, he]; rfl, Or.inl rfl⟩

/-- One escrow takes a transition. -/
theorem Transitions.of_transition {w w' : World χ} {r : EscrowOnChain} {t : Trigger}
    {data : EscrowOnChain → EscrowOnChain} {g : Order → Order} (hr : w.db.escrows.find? r.escrowId = some r)
    (hvalid : r.escrowStatus ∈ validTransitions t) (hdata : ∀ e, (data e).escrowStatus = t.status)
    (h : Rewritten (Table.atKey r.escrowId data) g w.db w'.db) : Transitions w w' := by
  intro k e he
  refine ⟨Table.atKey r.escrowId data e, by rw [h.find?_escrow, he]; rfl, ?_⟩
  rcases Table.atKey_cases r.escrowId data e with heq | ⟨hk, heq⟩
  · exact Or.inl heq
  · obtain rfl : r = e := by
      rw [← hk, Table.key_of_find? he, he] at hr
      exact (Option.some.inj hr).symm
    rw [heq]
    exact Or.inr ⟨t, hvalid, hdata r⟩

theorem Transitions.advances {w w' : World χ} (h : Transitions w w') : Advances w w' := by
  intro k e he
  obtain ⟨e', he', rfl | ⟨t, hvalid, hstatus⟩⟩ := h k e he
  · exact ⟨e', he', Or.inl rfl⟩
  · refine ⟨e', he', Or.inr ?_⟩
    rw [hstatus]
    exact validTransitions_rank hvalid

theorem transitions_next (tw : TrustlessWork χ) (w : World χ) (op : ServerOp) :
    Transitions w ((server tw).next w op) := by
  cases op with
  | restart inst fault => exact Transitions.of_db (restart_db inst fault w)
  | call op =>
    rw [server_next_call]
    cases op with
    | cancel id userId =>
      rw [flow_next_cancel]
      rcases cancel_cases id userId w with h | ⟨row, db, h, -, -, hre⟩
      · exact Transitions.of_db (by rw [h])
      · rw [h]
        exact Transitions.of_orders hre
    | expireOrders faults =>
      obtain ⟨ext, db, g, h, hre, -⟩ := expireOrders_run tw faults w
      show Transitions w ((expireOrders tw faults).run w).2
      rw [h]
      exact Transitions.of_orders hre
    | syncTransaction dto =>
      rw [flow_next_sync]
      rcases syncTransaction_cases tw dto w with ⟨ext, h, -⟩ | ⟨e, result, db, h, he, hvalid, -, -, hre⟩
      · exact Transitions.of_db (by rw [h])
      · have hkey : e.escrowId = uuid dto.escrowId := Table.key_of_find? he
        rw [← hkey] at he hre
        rw [h]
        exact Transitions.of_transition he hvalid (syncData_status dto result) hre
    | tick ms => exact Transitions.of_db rfl
    | processEvent inst fault event =>
      rcases flow_next_event_cases tw inst fault event w with ⟨hdb, -⟩ | ⟨e, -, hv, hre⟩
      · exact Transitions.of_db hdb
      · obtain ⟨-, hf, hvalid⟩ := verdict_applicable.mp hv
        exact Transitions.of_transition (Table.find?_eq_some.mpr ⟨findEscrow_mem hf, rfl⟩) hvalid (fun _ => rfl) hre

theorem advances_next (tw : TrustlessWork χ) (w : World χ) (op : ServerOp) : Advances w ((server tw).next w op) :=
  (transitions_next tw w op).advances

theorem advances_run (tw : TrustlessWork χ) (w : World χ) (ops : List ServerOp) :
    Advances w ((server tw).run w ops) := by
  have halong : (server tw).Along (fun w op => Advances w ((server tw).next w op)) w ops := by
    rw [Machine.along_iff]
    exact fun pre op _ _ => advances_next tw _ op
  exact halong.run_rel Advances.refl Advances.trans

/-! ## Events that are delivered again -/

/-- The call found the escrow and applied the event to it. -/
def Applies (inst : ℕ) (fault : Option Thrown) (event : OnChainEscrowEvent) (w : World χ) (e : EscrowOnChain) : Prop :=
  findEscrow w.db event = .ok (some e) ∧ ((processEvent inst fault event).run w).1 = .ok true

variable {inst : ℕ} {fault : Option Thrown} {event : OnChainEscrowEvent} {e : EscrowOnChain}

/-- A call throws and changes nothing, answers `false` and leaves the database, or applies its event. -/
theorem processEvent_cases (inst : ℕ) (fault : Option Thrown) (event : OnChainEscrowEvent) (w : World χ) :
    (∃ t, (processEvent inst fault event).run w = (.error t, w)) ∨
    (∃ w', (processEvent inst fault event).run w = (.ok false, w') ∧ w'.db = w.db) ∨
    ∃ e w', (processEvent inst fault event).run w = (.ok true, w') ∧ verdict inst event w = .applicable e ∧
      Rewritten (Table.atKey e.escrowId (escrowData event)) (Table.atKey e.orderId (orderData event)) w.db w'.db := by
  have hrun := processEvent_run inst fault event w
  cases hv : verdict inst event w with
  | ignored => rw [hv] at hrun; exact Or.inr (Or.inl ⟨w, hrun, rfl⟩)
  | skipped => rw [hv] at hrun; exact Or.inr (Or.inl ⟨_, hrun, rfl⟩)
  | throws t => rw [hv] at hrun; exact Or.inl ⟨t, hrun⟩
  | applicable e =>
    rw [hv] at hrun
    cases fault with
    | some t => exact Or.inl ⟨t, hrun⟩
    | none =>
      obtain ⟨db, hrun, hre⟩ := hrun
      exact Or.inr (Or.inr ⟨e, _, hrun, rfl, hre⟩)

/-- An event is applied where it may start. -/
theorem Applies.rewrites (h : Applies inst fault event w e) :
    e.escrowStatus ∈ validTransitions (.event event.eventType) ∧
      Rewritten (Table.atKey e.escrowId (escrowData event)) (Table.atKey e.orderId (orderData event)) w.db
        ((processEvent inst fault event).run w).2.db := by
  obtain ⟨hf, hok⟩ := h
  rcases processEvent_cases inst fault event w with ⟨t, hrun⟩ | ⟨w', hrun, -⟩ | ⟨e', w', hrun, hv, hre⟩
  · rw [hrun] at hok; cases hok
  · rw [hrun] at hok; cases hok
  · obtain ⟨-, hf', hvalid⟩ := verdict_applicable.mp hv
    obtain rfl : e = e' := by simpa [hf] using hf'
    exact ⟨hvalid, by rw [hrun]; exact hre⟩

/-- A call that does not apply its event leaves the database. -/
theorem processEvent_db (h : ∀ e, ¬ Applies inst fault event w e) :
    ((processEvent inst fault event).run w).2.db = w.db := by
  rcases processEvent_cases inst fault event w with ⟨t, hrun⟩ | ⟨w', hrun, hdb⟩ | ⟨e, w', hrun, hv, -⟩
  · rw [hrun]
  · rw [hrun]; exact hdb
  · exact absurd ⟨(verdict_applicable.mp hv).2.1, by rw [hrun]⟩ (h e)

/-- A call that throws changes nothing. -/
theorem processEvent_rollback {t : Thrown} (h : ((processEvent inst fault event).run w).1 = .error t) :
    ((processEvent inst fault event).run w).2 = w := by
  rcases processEvent_cases inst fault event w with ⟨t, hrun⟩ | ⟨w', hrun, -⟩ | ⟨e, w', hrun, -⟩
  · rw [hrun]
  · rw [hrun] at h; cases h
  · rw [hrun] at h; cases h

/-- After an event was applied, its escrow is in a status the event does not start from. -/
theorem rank_applied (tw : TrustlessWork χ) (h : Applies inst fault event w e) :
    ∃ e', ((server tw).next w (.call (.processEvent inst fault event))).db.escrows.find? e.escrowId = some e' ∧
      (mapEventToStatuses event.eventType).escrowStatus.rank ≤ e'.escrowStatus.rank := by
  have hfind : w.db.escrows.find? e.escrowId = some e := Table.find?_eq_some.mpr ⟨findEscrow_mem h.1, rfl⟩
  refine ⟨escrowData event e, ?_, le_refl _⟩
  rw [server_next_call, flow_next_event, h.rewrites.2.find?_escrow, hfind]
  exact congrArg some (Table.atKey_eq rfl)

/-- What holds along a run of calls and restarts. -/
structure AtMostOnce (tw : TrustlessWork χ) (w : World χ) (ops : List ServerOp) : Prop where
  advances : (server tw).Along (fun w op => Advances w ((server tw).next w op)) w ops
  /-- an event that was applied to an escrow is delivered again, and finds that escrow -/
  once : ∀ pre mid post inst inst' fault fault' event e e',
    ops = pre ++ .call (.processEvent inst fault event) :: mid ++ .call (.processEvent inst' fault' event) :: post →
    Applies inst fault event ((server tw).run w pre) e →
    findEscrow ((server tw).run w (pre ++ .call (.processEvent inst fault event) :: mid)).db event = .ok (some e') →
    e'.escrowId = e.escrowId →
    ((server tw).run w (pre ++ .call (.processEvent inst fault event) :: mid ++
      [.call (.processEvent inst' fault' event)])).db =
        ((server tw).run w (pre ++ .call (.processEvent inst fault event) :: mid)).db
  rollback : ∀ pre post inst fault event t, ops = pre ++ .call (.processEvent inst fault event) :: post →
    ((processEvent inst fault event).run ((server tw).run w pre)).1 = .error t →
    (server tw).run w (pre ++ [.call (.processEvent inst fault event)]) = (server tw).run w pre

/-- **At most once**, across every run of calls and restarts. -/
theorem at_most_once (tw : TrustlessWork χ) (w : World χ) (ops : List ServerOp) : AtMostOnce tw w ops where
  advances := by
    rw [Machine.along_iff]
    exact fun pre op _ _ => advances_next tw _ op
  once := by
    rintro pre mid post inst inst' fault fault' event e e' - happ hfind hid
    rw [Machine.run_append, Machine.run_cons, Machine.run_nil, server_next_call, flow_next_event]
    refine processEvent_db fun e₂ happ₂ => ?_
    -- the escrow would have to be below the status the event leads to, but it reached that status
    obtain ⟨e₁, he₁, hrank⟩ := rank_applied tw happ
    obtain ⟨e₃, he₃, hs₃⟩ := advances_run tw _ mid e.escrowId e₁ he₁
    rw [Machine.run_append, Machine.run_cons] at hfind happ₂
    obtain rfl : e' = e₂ := by simpa [hfind] using happ₂.1
    have hstored : e' = e₃ := by
      have hmem := Table.find?_eq_some.mpr ⟨findEscrow_mem hfind, rfl⟩
      rw [show Keyed.key e' = e.escrowId from hid, he₃] at hmem
      exact (Option.some.inj hmem).symm
    have hlow : e'.escrowStatus.rank < (mapEventToStatuses event.eventType).escrowStatus.rank :=
      validTransitions_rank happ₂.rewrites.1
    have hhigh : (mapEventToStatuses event.eventType).escrowStatus.rank ≤ e'.escrowStatus.rank := by
      rw [hstored]
      rcases hs₃ with hs₃ | hs₃
      · exact hs₃ ▸ hrank
      · omega
    omega
  rollback := by
    rintro pre post inst fault event t - h
    rw [Machine.run_append, Machine.run_cons, Machine.run_nil, server_next_call, flow_next_event]
    exact processEvent_rollback h

end IKash
