import IKash.Desk
import IKash.Polling
import IKash.Restart
import Mathlib.Data.List.Forall2

/-!
# Where a restart resumes

The resume point is the `ledgerSequence` of the newest audit row of an escrow action. The listener writes such a row for
every event it commits, with the ledger; `open` and `initialize` write one for every row they create, and
`syncTransaction` one for every funding and release, without a ledger. `backend` is the machine of the polls of one
instance, these calls and restarts; its outputs are the escrow actions that a call recorded.

- `run_appends`: after a run the audit log has grown by the rows of its outputs;
- `resumes_iff`: a restart after a run in which the listener committed an event resumes at the ledger of the last one
  exactly when no other call recorded an escrow action after it.
-/

namespace IKash

open Lib EscrowService StellarListenerService

variable {χ : Type}

inductive BackendOp where
  | poll (rpc : Rpc) (configured : Option String) (faults : PollFaults)
  | openEscrow (dto : OpenEscrowDto) (freshId : String) (faults : DbFaults)
  | initializeEscrow (dto : InitializeEscrowDto) (freshId : String) (faults : DbFaults)
  | syncTransaction (dto : SyncEscrowDto)
  | restart (fault : Option Thrown)

/-- An escrow action in the audit log: an event that the listener committed, or what another call did. -/
inductive Recorded where
  | committed (event : OnChainEscrowEvent)
  | other
deriving DecidableEq

namespace StellarListenerService

/-- The event of an outcome, if it was committed. -/
def RawOutcome.committed? : RawOutcome → Option OnChainEscrowEvent
  | .processed event true => some event
  | _ => none

/-- The events that a poll committed, in order. -/
def PollReport.committed (r : PollReport) : List OnChainEscrowEvent := r.outcomes.filterMap RawOutcome.committed?

end StellarListenerService

section Machine

variable (env : EscrowEnv χ) (inst : ℕ)

def BackendOp.run (w : World χ) : BackendOp → List Recorded × World χ
  | .poll rpc configured faults =>
    let r := (fetchAndProcessNewEvents rpc configured inst faults).run w
    (r.1.toOption.elim [] fun report => report.committed.map .committed, r.2)
  | .openEscrow dto freshId faults =>
    let r := (EscrowService.openEscrow env.tw env.config env.codec dto freshId faults).run w
    (if r.1.isOk ∧ (escrowByOrderId w.db dto.orderId).isNone ∧ faults.audit = none then [.other] else [], r.2)
  | .initializeEscrow dto freshId faults =>
    let r := (EscrowService.initializeEscrow env.tw env.config env.codec dto freshId faults).run w
    (if r.1.isOk ∧ (escrowByOrderId w.db dto.orderId).isNone ∧ faults.audit = none then [.other] else [], r.2)
  | .syncTransaction dto =>
    let r := (EscrowService.syncTransaction env.tw.toTrustlessWork dto).run w
    (if r.1.isOk ∧ dto.action ∈ [.fund, .release] then [.other] else [], r.2)
  | .restart fault => ([], ((StellarListenerService.restart inst fault).run w).2)

def backend : Machine (World χ) BackendOp (List Recorded) where
  step w op := op.run env inst w

end Machine

/-! ## The audit log grows -/

/-- The audit row of a recorded escrow action. -/
inductive Recorded.Of : Recorded → AuditLog → Prop where
  | committed (event : OnChainEscrowEvent) (e : EscrowOnChain) : Of (.committed event) (auditEntry event e)
  | other {a : AuditLog} : a.action ∈ escrowActions → savedLedger a = none → Of .other a

/-- The audit log has grown by the rows of what was recorded. -/
def Appends (w : World χ) (recorded : List Recorded) (w' : World χ) : Prop :=
  ∃ rows, w'.db.auditLogs = w.db.auditLogs ++ rows ∧ List.Forall₂ Recorded.Of recorded rows

variable {env : EscrowEnv χ} {inst : ℕ} {w w' w'' : World χ} {recorded recorded' : List Recorded} {a : AuditLog}

theorem Appends.none (h : w'.db.auditLogs = w.db.auditLogs) : Appends w [] w' :=
  ⟨[], by rw [h, List.append_nil], .nil⟩

theorem Appends.one {r : Recorded} (h : w'.db.auditLogs = w.db.auditLogs ++ [a]) (ha : r.Of a) : Appends w [r] w' :=
  ⟨[a], h, .cons ha .nil⟩

theorem Appends.trans (h : Appends w recorded w') (h' : Appends w' recorded' w'') :
    Appends w (recorded ++ recorded') w'' := by
  obtain ⟨rows, hrows, hof⟩ := h
  obtain ⟨rows', hrows', hof'⟩ := h'
  exact ⟨rows ++ rows', by rw [hrows', hrows, List.append_assoc], List.rel_append hof hof'⟩

/-! ### Polls -/

/-- The transaction of an event records it. -/
theorem applyEvent_audit {event : OnChainEscrowEvent} {e : EscrowOnChain} {db db' : Db} {u : Unit}
    (h : applyEvent event e db = .ok (u, db')) : db'.auditLogs = db.auditLogs ++ [auditEntry event e] := by
  obtain ⟨_, db₁, h₁, hrest⟩ := Tx.of_bind_ok h
  obtain ⟨_, db₂, h₂, h₃⟩ := Tx.of_bind_ok hrest
  obtain ⟨-, -, -, hdb₁, -⟩ := Delegate.of_update h₁
  obtain ⟨-, -, -, hdb₂, -⟩ := Delegate.of_update h₂
  obtain ⟨-, hdb₃⟩ := Db.commit_eq_ok.mp h₃
  have hlogs₁ : db₁.auditLogs = db.auditLogs := by rw [hdb₁]; rfl
  have hlogs₂ : db₂.auditLogs = db₁.auditLogs := by rw [hdb₂]; rfl
  rw [hdb₃]
  show db₂.auditLogs ++ [auditEntry event e] = _
  rw [hlogs₂, hlogs₁]

theorem commitEvent_audit {fault : Option Thrown} {event : OnChainEscrowEvent} {e : EscrowOnChain} {u : Unit}
    (h : (commitEvent fault event e).run w = (.ok u, w')) :
    w'.db.auditLogs = w.db.auditLogs ++ [auditEntry event e] := by
  cases fault with
  | some t => cases h
  | none =>
    obtain ⟨db, hdb, rfl⟩ := of_prisma_run_ok h
    exact applyEvent_audit hdb

/-- A call that answers `true` recorded its event. -/
theorem processEvent_audit {inst : ℕ} {fault : Option Thrown} {event : OnChainEscrowEvent}
    (h : (processEvent inst fault event).run w = (.ok true, w')) : Appends w [.committed event] w' := by
  obtain ⟨w₀, w₁, hget, h₁⟩ := Svc.of_run_bind_ok h
  cases hget
  split at h₁
  · cases h₁
  obtain ⟨found, w₂, hfound, h₂⟩ := Svc.of_run_bind_ok h₁
  rw [findEscrowRecord_run] at hfound
  obtain rfl : w = w₂ := congrArg Prod.snd hfound
  cases found with
  | none => cases h₂
  | some e =>
    dsimp only at h₂
    unfold processFound at h₂
    split at h₂
    · obtain ⟨_, w₃, -, h₃⟩ := Svc.of_run_bind_ok h₂
      cases h₃
    · obtain ⟨_, w₃, hvalid, h₃⟩ := Svc.of_run_bind_ok h₂
      obtain ⟨-, rfl⟩ := Svc.of_run_ofExcept_ok hvalid
      obtain ⟨_, w₄, hcommit, h₄⟩ := Svc.of_run_bind_ok h₃
      obtain ⟨_, w₅, hremember, h₅⟩ := Svc.of_run_bind_ok h₄
      cases hremember
      cases h₅
      obtain ⟨rows, hrows, hof⟩ := Appends.one (commitEvent_audit hcommit) (.committed event e)
      exact ⟨rows, hrows, hof⟩

theorem advance_db (inst : ℕ) (ledger : Option ℤ) (w : World χ) : (advance inst ledger w).db = w.db := by
  unfold advance
  split
  · rfl
  · split <;> rfl

theorem handleRaw_appends (inst : ℕ) (fault : Option Thrown) (raw : Json) (w : World χ) : ∃ outcome w',
    (handleRaw inst fault raw).run w = (.ok outcome, w') ∧
      Appends w (outcome.committed?.toList.map .committed) w' := by
  unfold handleRaw
  cases hp : StellarEventParserService.parseEvent raw with
  | none => exact ⟨_, w, rfl, Appends.none rfl⟩
  | some parsed =>
    dsimp only
    rw [Svc.run_bind_ok (Svc.run_attempt _ _)]
    rcases processEvent_cases inst fault parsed w with ⟨t, hrun⟩ | ⟨w', hrun, hdb⟩ | ⟨e, w', hrun, -⟩
    · rw [hrun]
      exact ⟨_, w, rfl, Appends.none rfl⟩
    · rw [hrun]
      refine ⟨_, advance inst parsed.ledgerSequence w', rfl, Appends.none ?_⟩
      rw [advance_db, hdb]
    · obtain ⟨rows, hrows, hof⟩ := processEvent_audit hrun
      rw [hrun]
      exact ⟨_, advance inst parsed.ledgerSequence w', rfl, rows, by rw [advance_db]; exact hrows, hof⟩

theorem handleRaws_appends (inst : ℕ) : ∀ (raws : List Json) (faults : ℕ → Option Thrown) (w : World χ), ∃ outcomes w',
    (handleRaws inst faults raws).run w = (.ok outcomes, w') ∧
      Appends w ((outcomes.filterMap RawOutcome.committed?).map .committed) w'
  | [], _, w => ⟨[], w, rfl, Appends.none rfl⟩
  | raw :: rest, faults, w => by
    obtain ⟨outcome, w₁, h₁, happ₁⟩ := handleRaw_appends inst (faults 0) raw w
    obtain ⟨outcomes, w₂, h₂, happ₂⟩ := handleRaws_appends inst rest (fun i => faults (i + 1)) w₁
    refine ⟨outcome :: outcomes, w₂, ?_, ?_⟩
    · unfold handleRaws
      rw [Svc.run_bind_ok h₁, Svc.run_bind_ok h₂, Svc.run_pure]
    · have h := happ₁.trans happ₂
      rw [← List.map_append] at h
      rw [List.filterMap_cons]
      cases hc : outcome.committed? with
      | none => simpa [hc] using h
      | some event => simpa [hc] using h

theorem poll_appends (rpc : Rpc) (configured : Option String) (inst : ℕ) (faults : PollFaults) (w : World χ) :
    ∃ report w', (fetchAndProcessNewEvents rpc configured inst faults).run w = (.ok report, w') ∧
      Appends w (report.committed.map .committed) w' := by
  have htargets : ∃ targets, (getTargetContractIds configured faults.lookup).run w = (.ok targets, w) := by
    unfold getTargetContractIds
    rw [Svc.run_bind_ok (Svc.run_get w)]
    cases faults.lookup <;> exact ⟨_, rfl⟩
  obtain ⟨targets, htargets⟩ := htargets
  unfold fetchAndProcessNewEvents
  rw [Svc.run_bind_ok htargets]
  by_cases hempty : targets = []
  · rw [if_pos hempty]
    exact ⟨_, w, rfl, Appends.none rfl⟩
  · rw [if_neg hempty]
    have hpage : ∃ page, (queryEventsFromRpc rpc inst targets).run w = (.ok page, w) := by
      unfold queryEventsFromRpc
      rw [Svc.run_bind_ok (Svc.run_get w)]
      dsimp only
      split <;> exact ⟨_, rfl⟩
    obtain ⟨page, hpage⟩ := hpage
    obtain ⟨outcomes, w', hraws, rows, hrows, hof⟩ := handleRaws_appends inst page.events faults.transaction w
    rw [Svc.run_bind_ok hpage, Svc.run_bind_ok hraws]
    exact ⟨_, advance inst page.latestLedger w', rfl, rows, by rw [advance_db]; exact hrows, hof⟩

/-! ### The other calls -/

def SameAudits (w w' : World χ) : Prop := w'.db.auditLogs = w.db.auditLogs

theorem SameAudits.refl (w : World χ) : SameAudits w w := rfl

theorem SameAudits.trans {a b c : World χ} (h : SameAudits a b) (h' : SameAudits b c) : SameAudits a c :=
  Eq.trans h' h

/-- The database is as it was. -/
def SameDb (w w' : World χ) : Prop := w'.db = w.db

theorem SameDb.refl (w : World χ) : SameDb w w := rfl

theorem SameDb.trans {a b c : World χ} (h : SameDb a b) (h' : SameDb b c) : SameDb a c := Eq.trans h' h

theorem SameDb.audits (h : SameDb w w') : SameAudits w w' := congrArg (fun db : Db => db.auditLogs) h

section Moves

variable {α : Type}

theorem external_moves (call : χ → Except Thrown α × χ) : Svc.Moves SameDb (external call) := fun _ => rfl

theorem faulty_moves {m : Service χ α} (fault : Option Thrown) (h : Svc.Moves SameAudits m) :
    Svc.Moves SameAudits (faulty fault m) := by
  cases fault with
  | some t => exact SameAudits.refl
  | none => exact h

theorem escrows_moves {tx : Tx α} (h : ∀ db a db', tx db = .ok (a, db') → Prisma.escrowOnChain.Writes db db') :
    Svc.Moves SameAudits (prisma tx : Service χ α) :=
  prisma_moves SameAudits.refl fun w a db hdb => by
    obtain ⟨t, ht⟩ := h w.db a db hdb
    show db.auditLogs = w.db.auditLogs
    rw [ht]
    rfl

theorem createRow_writes {codec : AmountCodec} {freshId orderId : String} {dto : EscrowParameters}
    {status : EscrowStatus} (db : Db) (e : EscrowOnChain) (db' : Db)
    (h : createRow codec freshId orderId dto status db = .ok (e, db')) : Prisma.escrowOnChain.Writes db db' := by
  unfold createRow at h
  split at h
  · cases h
  · exact Delegate.writes_create h

theorem updateParameters_writes {codec : AmountCodec} {escrowId : String} {dto : EscrowParameters} (db : Db)
    (e : EscrowOnChain) (db' : Db) (h : updateParameters codec escrowId dto db = .ok (e, db')) :
    Prisma.escrowOnChain.Writes db db' := by
  unfold updateParameters at h
  split at h
  · cases h
  · exact Delegate.writes_update h

theorem tw_initializeEscrow_moves (tw : TrustlessWorkService χ) (payload : InitializeMultiReleaseEscrowPayload) :
    Svc.Moves SameDb (tw.initializeEscrow payload) :=
  Svc.Moves.bind SameDb.trans (Svc.Moves.throwIf SameDb.refl _ _) fun _ => external_moves _

theorem initializeBuild_moves (tw : TrustlessWorkService χ) (config : EscrowConfig) (dto : InitializeEscrowDto) :
    Svc.Moves SameDb (initializeBuild tw config dto) :=
  Svc.Moves.bind SameDb.trans (Svc.Moves.ofExcept SameDb.refl _) fun _ => tw_initializeEscrow_moves tw _

theorem deployBuild_moves (tw : TrustlessWorkService χ) (config : EscrowConfig) (orderId : String) (dto : DeployDto) :
    Svc.Moves SameDb (deployBuild tw config orderId dto) := by
  refine Svc.Moves.bind SameDb.trans (Svc.Moves.ofExcept SameDb.refl _) fun request => ?_
  exact Svc.Moves.bind SameDb.trans (tw_initializeEscrow_moves tw _) fun _ => SameDb.refl

theorem deployBroadcast_moves (tw : TrustlessWorkService χ) (config : EscrowConfig) (unsigned secret : String) :
    Svc.Moves SameDb (deployBroadcast tw config unsigned secret) := by
  refine Svc.Moves.bind SameDb.trans (Svc.Moves.ofExcept SameDb.refl _) fun signedXdr => ?_
  refine Svc.Moves.bind SameDb.trans (external_moves _) fun result => ?_
  exact Svc.Moves.bind SameDb.trans (Svc.Moves.throwIf SameDb.refl _ _) fun _ => Svc.Moves.orThrow SameDb.refl _ _

theorem deployEscrowToChain_moves (tw : TrustlessWorkService χ) (config : EscrowConfig) (orderId : String)
    (dto : DeployDto) : Svc.Moves SameDb (deployEscrowToChain tw config orderId dto) :=
  Svc.Moves.bind SameDb.trans (deployBuild_moves tw config orderId dto) fun built =>
    Svc.Moves.bind SameDb.trans (deployBroadcast_moves tw config built.1 built.2) fun _ =>
      Svc.Moves.bind SameDb.trans (external_moves _) fun _ => SameDb.refl

end Moves

/-- The audit row of a new escrow is written, if nothing hits the write. -/
theorem recordUnless_appends (fault : Option Thrown) {entry : AuditLog} (huser : entry.userId = none)
    (haction : entry.action ∈ escrowActions) (hledger : savedLedger entry = none) (w : World χ) :
    ∃ w', (recordUnless fault entry).run w = (.ok (), w') ∧ Appends w (if fault = none then [.other] else []) w' := by
  cases fault with
  | some t => exact ⟨w, rfl, Appends.none rfl⟩
  | none =>
    obtain ⟨db, hdb⟩ : ∃ db, Prisma.auditLog.create entry w.db = .ok ((), db) := Prisma.auditLog_create_isOk huser
    refine ⟨{ w with db := db }, ?_, ?_⟩
    · unfold recordUnless AuditLogService.create
      rw [Svc.run_modify, hdb]
    · rw [if_pos rfl]
      exact Appends.one (by rw [(Db.commit_eq_ok.mp hdb).2]) (.other haction hledger)

/-- A call that answers has recorded the creation of a row, if it created one and nothing hit the write; a call that
throws has recorded nothing. -/
def CreationRecorded {α : Type} (w : World χ) (isNew : Bool) (fault : Option Thrown)
    (r : Except Thrown α × World χ) : Prop :=
  Appends w (if r.1.isOk ∧ isNew ∧ fault = none then [.other] else []) r.2

section CreationRecorded

variable {α : Type} {isNew : Bool} {fault : Option Thrown}

theorem CreationRecorded.error {t : Thrown} (h : SameAudits w w') :
    CreationRecorded w isNew fault ((.error t, w') : Except Thrown α × World χ) := by
  unfold CreationRecorded
  rw [if_neg (fun hok => by cases hok.1)]
  exact Appends.none h

/-- The last part of `open` and `initialize`: the audit row of a new escrow, and the answer. -/
theorem creationRecorded_last (isNew : Bool) (fault : Option Thrown) {entry : AuditLog} (huser : entry.userId = none) (haction : entry.action ∈ escrowActions)
    (hledger : savedLedger entry = none) (answer : α) (h : SameAudits w w') :
    CreationRecorded w isNew fault
      (((if isNew then recordUnless fault entry else pure ()) >>= fun _ => pure answer : Service χ α).run w') := by
  unfold CreationRecorded
  by_cases hnew : isNew = true
  · obtain ⟨w'', hrun, rows, hrows, hof⟩ := recordUnless_appends fault huser haction hledger w'
    rw [if_pos hnew, Svc.run_bind_ok hrun, Svc.run_pure]
    have hiff : (Except.ok answer : Except Thrown α).isOk ∧ isNew ∧ fault = none ↔ fault = none := by
      simp [hnew, Except.isOk, Except.toBool]
    rw [if_congr hiff rfl rfl]
    exact ⟨rows, by rw [hrows, h], hof⟩
  · rw [if_neg hnew, if_neg (fun hok => hnew hok.2.1)]
    exact Appends.none h

end CreationRecorded

theorem open_recorded (env : EscrowEnv χ) (dto : OpenEscrowDto) (freshId : String) (faults : DbFaults) (w : World χ) :
    CreationRecorded w (escrowByOrderId w.db dto.orderId).isNone faults.audit
      ((EscrowService.openEscrow env.tw env.config env.codec dto freshId faults).run w) := by
  unfold EscrowService.openEscrow
  refine Svc.bind_ind (P := CreationRecorded w _ _) (fun t w₁ h₁ => ?_) fun existing w₁ h₁ => ?_
  · have hstate := findUndeployed_state faults.find dto.orderId w
    rw [h₁] at hstate
    exact CreationRecorded.error (SameDb.audits (congrArg World.db hstate))
  obtain ⟨rfl, rfl, -⟩ := of_findUndeployed_ok h₁
  have hdeploy := (deployEscrowToChain_moves env.tw env.config dto.orderId dto.deployDto w₁).audits
  refine Svc.bind_ind (P := CreationRecorded w₁ _ _) (fun t w₂ h₂ => ?_) fun deployed w₂ h₂ => ?_
  · rw [h₂] at hdeploy
    exact CreationRecorded.error hdeploy
  rw [h₂] at hdeploy
  have hcreate : SameAudits w₂ ((openCreate env.codec dto freshId faults.create
      (escrowByOrderId w₁.db dto.orderId)).run w₂).2 := by
    cases escrowByOrderId w₁.db dto.orderId with
    | some e => exact SameAudits.refl w₂
    | none => exact faulty_moves faults.create (escrows_moves createRow_writes) w₂
  refine Svc.bind_ind (P := CreationRecorded w₁ _ _) (fun t w₃ h₃ => ?_) fun escrow w₃ h₃ => ?_
  · rw [h₃] at hcreate
    exact CreationRecorded.error (hdeploy.trans hcreate)
  rw [h₃] at hcreate
  have hupdate : SameAudits w₃ ((openUpdate escrow.escrowId deployed.contractId faults.update).run w₃).2 :=
    faulty_moves faults.update (escrows_moves fun _ _ _ => Delegate.writes_update) w₃
  refine Svc.bind_ind (P := CreationRecorded w₁ _ _) (fun t w₄ h₄ => ?_) fun _ w₄ h₄ => ?_
  · rw [h₄] at hupdate
    exact CreationRecorded.error ((hdeploy.trans hcreate).trans hupdate)
  rw [h₄] at hupdate
  exact creationRecorded_last _ _ rfl List.mem_cons_self rfl _ ((hdeploy.trans hcreate).trans hupdate)

theorem initialize_recorded (env : EscrowEnv χ) (dto : InitializeEscrowDto) (freshId : String) (faults : DbFaults)
    (w : World χ) : CreationRecorded w (escrowByOrderId w.db dto.orderId).isNone faults.audit
      ((EscrowService.initializeEscrow env.tw env.config env.codec dto freshId faults).run w) := by
  unfold EscrowService.initializeEscrow
  refine Svc.bind_ind (P := CreationRecorded w _ _) (fun t w₁ h₁ => ?_) fun existing w₁ h₁ => ?_
  · have hstate := initializeCheck_state dto faults.find w
    rw [h₁] at hstate
    exact CreationRecorded.error (SameDb.audits (congrArg World.db hstate))
  obtain ⟨rfl, -⟩ := of_initializeCheck_ok h₁
  have hbuild := initializeBuild_moves env.tw env.config dto w₁
  refine Svc.bind_ind (P := CreationRecorded w₁ _ _) (fun t w₂ h₂ => ?_) fun unsigned w₂ h₂ => ?_
  · rw [h₂] at hbuild
    exact CreationRecorded.error hbuild.audits
  rw [h₂] at hbuild
  rcases faulty_findByOrder_run faults.findAgain dto.orderId w₂ with ⟨t, hrun⟩ | hfound
  · rw [Svc.run_bind_error hrun]
    exact CreationRecorded.error hbuild.audits
  rw [show w₂.db = w₁.db from hbuild] at hfound
  rw [Svc.run_bind_ok hfound]
  have hstore : SameAudits w₂ ((initializeStore env.codec dto freshId faults
      (escrowByOrderId w₁.db dto.orderId)).run w₂).2 := by
    cases escrowByOrderId w₁.db dto.orderId with
    | none => exact faulty_moves faults.create (escrows_moves createRow_writes) w₂
    | some e => exact faulty_moves faults.update (escrows_moves updateParameters_writes) w₂
  refine Svc.bind_ind (P := CreationRecorded w₁ _ _) (fun t w₃ h₃ => ?_) fun escrow w₃ h₃ => ?_
  · rw [h₃] at hstore
    exact CreationRecorded.error (hbuild.audits.trans hstore)
  rw [h₃] at hstore
  exact creationRecorded_last _ _ rfl List.mem_cons_self rfl _ (hbuild.audits.trans hstore)

/-- A funding or a release that is answered was recorded. -/
theorem sync_recorded (tw : TrustlessWork χ) (dto : SyncEscrowDto) (w : World χ) :
    CreationRecorded w (dto.action ∈ [.fund, .release]) none ((EscrowService.syncTransaction tw dto).run w) := by
  unfold EscrowService.syncTransaction
  refine Svc.bind_ind (P := CreationRecorded w _ _) (fun t w₁ h₁ => ?_) fun escrow w₁ h₁ => ?_
  · have hstate := syncCheck_state dto w
    rw [h₁] at hstate
    exact CreationRecorded.error (SameDb.audits (congrArg World.db hstate))
  obtain ⟨rfl, -⟩ := syncCheck_eq_ok.mp h₁
  have hsend : SameDb w₁ ((syncSend tw dto).run w₁).2 := by
    rw [syncSend_run]
    rfl
  refine Svc.bind_ind (P := CreationRecorded w₁ _ _) (fun t w₂ h₂ => ?_) fun result w₂ h₂ => ?_
  · rw [h₂] at hsend
    exact CreationRecorded.error hsend.audits
  rw [h₂] at hsend
  have hmoves : Svc.Moves SameAudits (syncStore dto result : Service χ EscrowOnChain) :=
    escrows_moves fun _ _ _ => Delegate.writes_update
  have hstore := hmoves w₂
  refine Svc.bind_ind (P := CreationRecorded w₁ _ _) (fun t w₃ h₃ => ?_) fun _ w₃ h₃ => ?_
  · rw [h₃] at hstore
    exact CreationRecorded.error (hsend.audits.trans hstore)
  rw [h₃] at hstore
  have hsame : SameAudits w₁ w₃ := hsend.audits.trans hstore
  unfold syncAudit syncEntry
  cases dto.action with
  | fund =>
    exact creationRecorded_last true none rfl (show AuditAction.escrowFunded ∈ escrowActions by decide) rfl _ hsame
  | release =>
    exact creationRecorded_last true none rfl (show AuditAction.escrowReleased ∈ escrowActions by decide) rfl _ hsame
  | initializeEscrow => exact Appends.none hsame
  | fiatSent => exact Appends.none hsame

theorem backend_appends (env : EscrowEnv χ) (inst : ℕ) (w : World χ) (op : BackendOp) :
    Appends w ((backend env inst).step w op).1 ((backend env inst).next w op) := by
  show Appends w (op.run env inst w).1 (op.run env inst w).2
  cases op with
  | poll rpc configured faults =>
    obtain ⟨report, w', hrun, happ⟩ := poll_appends rpc configured inst faults w
    unfold BackendOp.run
    dsimp only
    rw [hrun]
    exact happ
  | openEscrow dto freshId faults => exact open_recorded env dto freshId faults w
  | initializeEscrow dto freshId faults =>
    have h := initialize_recorded env dto freshId faults w
    unfold CreationRecorded at h
    unfold BackendOp.run
    dsimp only
    exact h
  | syncTransaction dto =>
    have h := sync_recorded env.tw.toTrustlessWork dto w
    unfold CreationRecorded at h
    simp only [decide_eq_true_eq, and_true] at h
    exact h
  | restart fault => exact Appends.none (congrArg (fun db : Db => db.auditLogs) (restart_db inst fault w))

/-- **A run** leaves the rows of its outputs. -/
theorem run_appends (env : EscrowEnv χ) (inst : ℕ) : ∀ (w : World χ) (ops : List BackendOp),
    Appends w ((backend env inst).outputs w ops).flatten ((backend env inst).run w ops)
  | _, [] => Appends.none rfl
  | w, op :: ops => (backend_appends env inst w op).trans (run_appends env inst _ ops)

/-! ## The resume point -/

/-- The newest row, if it is of an escrow action, is the one that a restart reads. -/
theorem latestAudit_of_append {db : Db} {rows : List AuditLog} (h : db.auditLogs = rows ++ [a])
    (ha : a.action ∈ escrowActions) : latestAudit db = some a := by
  unfold latestAudit
  rw [h, List.reverse_append, List.reverse_singleton, List.singleton_append, List.find?_cons_of_pos]
  exact decide_eq_true ha

theorem Recorded.Of.action {r : Recorded} (h : r.Of a) : a.action ∈ escrowActions := by
  cases h with
  | committed event e => cases ht : event.eventType <;> simp [auditEntry, mapEventToAuditAction, ht, escrowActions]
  | other haction _ => exact haction

/-- The ledger that a recorded action gives. -/
def Recorded.ledger : Recorded → Option ℤ
  | .committed event => event.ledgerSequence
  | .other => none

theorem Recorded.Of.ledger {r : Recorded} (h : r.Of a) : savedLedger a = r.ledger := by
  cases h with
  | committed event e =>
    show savedLedger (auditEntry event e) = event.ledgerSequence
    unfold savedLedger auditEntry
    cases event.ledgerSequence <;> rfl
  | other _ hledger => exact hledger

/-- The cursor after a restart. -/
theorem cursor_restart (inst : ℕ) (fault : Option Thrown) (w : World χ) :
    cursor inst ((restart inst fault).run w).2 =
      (if fault = none then ((latestAudit w.db).bind savedLedger).getD 0 else 0) := by
  have hcleared : cursor inst (w.setListener inst {}) = 0 := by simp [cursor, World.setListener]
  have hrun : ((restart inst fault).run w).2 =
    ((loadLastProcessedLedger inst fault).run (w.setListener inst {})).2 := rfl
  rw [hrun]
  unfold loadLastProcessedLedger
  rw [Svc.run_modify]
  cases fault with
  | some t => exact hcleared
  | none =>
    rw [if_pos rfl]
    dsimp only
    cases hledger : (latestAudit (w.setListener inst {}).db).bind savedLedger with
    | none => rw [show (latestAudit w.db).bind savedLedger = none from hledger]; exact hcleared
    | some ledger =>
      rw [show (latestAudit w.db).bind savedLedger = some ledger from hledger]
      simp [cursor, setCursor, World.setListener]

/-- The event, if the listener committed one. -/
def Recorded.event? : Recorded → Option OnChainEscrowEvent
  | .committed event => some event
  | .other => none

/-- What the run recorded, in order. -/
def recordedAlong (env : EscrowEnv χ) (inst : ℕ) (w : World χ) (ops : List BackendOp) : List Recorded :=
  ((backend env inst).outputs w ops).flatten

/-- What was recorded last is what a restart reads. -/
theorem latestAudit_run (env : EscrowEnv χ) (inst : ℕ) (w : World χ) {ops : List BackendOp} {r : Recorded}
    (h : (recordedAlong env inst w ops).getLast? = some r) :
    (latestAudit ((backend env inst).run w ops).db).bind savedLedger = r.ledger := by
  obtain ⟨rows, hrows, hof⟩ := run_appends env inst w ops
  obtain ⟨before, hbefore⟩ := List.getLast?_eq_some_iff.mp h
  have hreverse : List.Forall₂ Recorded.Of (r :: before.reverse) rows.reverse := by
    have hrev := List.forall₂_reverse_iff.mpr hof
    rwa [show ((backend env inst).outputs w ops).flatten = before ++ [r] from hbefore, List.reverse_append,
      List.reverse_singleton, List.singleton_append] at hrev
  obtain ⟨a, rest, ha, -, hcons⟩ := List.forall₂_cons_left_iff.mp hreverse
  have hsplit : rows = rest.reverse ++ [a] := by
    rw [← List.reverse_reverse rows, hcons, List.reverse_cons]
  rw [hsplit, ← List.append_assoc] at hrows
  rw [latestAudit_of_append hrows ha.action, Option.bind_some, ha.ledger]

/-- **A restart resumes at the last committed event** exactly when no other call recorded an escrow action after it: the
event has a ledger, the query does not fail, and what the run recorded last is the event. With ledger `0` it resumes
there in any case. -/
theorem resumes_iff (env : EscrowEnv χ) (inst : ℕ) (w : World χ) (ops : List BackendOp) (fault : Option Thrown)
    {event : OnChainEscrowEvent}
    (hlast : ((recordedAlong env inst w ops).filterMap Recorded.event?).getLast? = some event) :
    some (cursor inst ((backend env inst).run w (ops ++ [.restart fault]))) = event.ledgerSequence ↔
      event.ledgerSequence = some 0 ∨
        event.ledgerSequence ≠ none ∧ fault = none ∧ (recordedAlong env inst w ops).getLast? = some (.committed event) := by
  have hrun : (backend env inst).run w (ops ++ [.restart fault]) =
      ((restart inst fault).run ((backend env inst).run w ops)).2 := Machine.run_append _ _ _
  rw [hrun, cursor_restart]
  cases fault with
  | some t =>
    rw [if_neg (Option.some_ne_none t)]
    simp [eq_comm]
  | none =>
    rw [if_pos rfl]
    rcases List.eq_nil_or_concat (recordedAlong env inst w ops) with hnil | ⟨before, r, hconcat⟩
    · rw [hnil] at hlast
      cases hlast
    rw [List.concat_eq_append] at hconcat
    have hr : (recordedAlong env inst w ops).getLast? = some r := by rw [hconcat, List.getLast?_concat]
    rw [latestAudit_run env inst w hr, hr]
    cases r with
    | other =>
      simp [Recorded.ledger, eq_comm]
    | committed event' =>
      obtain rfl : event' = event := by
        rw [hconcat, List.filterMap_append] at hlast
        simpa [Recorded.event?] using hlast
      cases hledger : event'.ledgerSequence <;> simp [Recorded.ledger, hledger]

namespace Trade

def fundingEvent : OnChainEscrowEvent where
  eventId := "1"
  eventType := .escrowFunded
  contractId := "C1"
  txHash := ""
  ledgerSequence := some 1
  eventIndex := some 0

/-- A poll that sees the funding. -/
def fundingPoll : BackendOp := .poll (fundingSetup.chain.rpc 1) none {}

/-- The seller's release, submitted through the backend. -/
def releaseSync : BackendOp := .syncTransaction ⟨"e1", "release", .release⟩

def backendWorld : World Deployments := world .created .initialized []

theorem resumes_at_funding :
    some (cursor 0 ((backend (Desk.escrowEnv []) 0).run backendWorld ([fundingPoll] ++ [.restart none]))) = some 1 :=
  (resumes_iff (Desk.escrowEnv []) 0 backendWorld [fundingPoll] none
    (show _ = some fundingEvent by decide)).mpr (Or.inr ⟨Option.some_ne_none 1, rfl, by decide⟩)

/-- The release writes the newest audit row, without a ledger: the restart begins at `0`. -/
theorem release_hides_ledger :
    ((recordedAlong (Desk.escrowEnv []) 0 backendWorld [fundingPoll, releaseSync]).filterMap
      Recorded.event?).getLast? = some fundingEvent ∧
    some (cursor 0 ((backend (Desk.escrowEnv []) 0).run backendWorld ([fundingPoll, releaseSync] ++ [.restart none]))) ≠
      fundingEvent.ledgerSequence := by
  decide

end Trade

end IKash
