import IKash.Lifecycle
import IKash.World

/-!
# `EscrowService.syncTransaction`

The call reads and validates the row (`syncCheck`), broadcasts the signed transaction (`syncSend`), writes the new
status without a condition (`syncStore`) and records it (`syncAudit`). Trustless Work is outside: `TrustlessWork` is
what it answers to a submitted transaction and to a balance query.

- `syncTransaction_cases`: a call either leaves the tables, or found the row in a status the action may start from, was
  answered `SUCCESS`, and rewrote that row.
-/

namespace IKash

open Lib

structure SendTransactionResponse where
  status : String
  message : Option String := none
  contractId : Option String := none
deriving DecidableEq, Repr

/-- The part of the Trustless Work API that the modelled services call. -/
structure TrustlessWork (χ : Type) where
  sendTransaction : String → χ → Except Thrown SendTransactionResponse × χ
  getEscrowBalance : String → χ → Except Thrown Json × χ

structure SyncEscrowDto where
  escrowId : String
  signedXdr : String
  action : EscrowAction
deriving DecidableEq, Repr

structure SyncResponse where
  escrowId : String
  status : String
  contractId : Option String
  newEscrowStatus : EscrowStatus
deriving DecidableEq, Repr

namespace EscrowService

variable {χ : Type}

def getOrFail (id : String) : Service χ EscrowOnChain := do
  let escrow ← prisma (Prisma.escrowOnChain.findUnique (uuid id))
  Svc.orThrow escrow (.app .escrowNotFound ("Escrow " ++ id ++ " not found"))

/-- The first part of `syncTransaction`: read the row and validate the transition. -/
def syncCheck (dto : SyncEscrowDto) : Service χ EscrowOnChain := do
  let escrow ← getOrFail dto.escrowId
  Svc.ofExcept (validateStatusTransition escrow.escrowStatus (.action dto.action))
  pure escrow

/-- The second part: broadcast the transaction. -/
def syncSend (tw : TrustlessWork χ) (dto : SyncEscrowDto) : Service χ SendTransactionResponse := do
  let result ← external (tw.sendTransaction dto.signedXdr)
  Svc.throwIf (result.status ≠ "SUCCESS") (.app .escrowSyncFailed
    ("Blockchain sync failed: " ++ ((result.message.filter (· ≠ "")).getD "Unknown error")))
  pure result

/-- `updateData` of `syncTransaction`, on the stored row. -/
def syncData (dto : SyncEscrowDto) (result : SendTransactionResponse) (e : EscrowOnChain) : EscrowOnChain :=
  match dto.action with
  | .initializeEscrow => { e with
      escrowStatus := .initialized
      contractId := (result.contractId.filter (· ≠ "")).or e.contractId
      txHashLock := some (Json.substring dto.signedXdr 64) }
  | .fund => { e with escrowStatus := .funded }
  | .fiatSent => { e with escrowStatus := .fiatSent }
  | .release => { e with escrowStatus := .released, txHashRelease := some (Json.substring dto.signedXdr 64) }

/-- The third part: write the status. -/
def syncStore (dto : SyncEscrowDto) (result : SendTransactionResponse) : Service χ EscrowOnChain :=
  prisma (Prisma.escrowOnChain.update (uuid dto.escrowId) (syncData dto result))

def jsonOrNull (s : Option String) : Json := s.elim .null .str

/-- The audit row of a funding or a release. -/
def syncEntry (dto : SyncEscrowDto) (contractId : Option String) : Option AuditLog :=
  match dto.action with
  | .fund => some
    { action := .escrowFunded, resourceType := "Escrow", resourceId := some dto.escrowId, result := .success,
      metadata := [("contractId", jsonOrNull contractId)] }
  | .release => some
    { action := .escrowReleased, resourceType := "Escrow", resourceId := some dto.escrowId, result := .success,
      metadata := [("contractId", jsonOrNull contractId), ("txHashRelease", .str (Json.substring dto.signedXdr 64))] }
  | _ => none

/-- The last part: record the funding or the release, and answer. -/
def syncAudit (dto : SyncEscrowDto) (escrow : EscrowOnChain) (result : SendTransactionResponse) :
    Service χ SyncResponse := do
  (syncEntry dto (result.contractId.or escrow.contractId)).elim (pure ()) AuditLogService.create
  pure ⟨dto.escrowId, result.status, result.contractId.or escrow.contractId, dto.action.status⟩

def syncTransaction (tw : TrustlessWork χ) (dto : SyncEscrowDto) : Service χ SyncResponse := do
  let escrow ← syncCheck dto
  let result ← syncSend tw dto
  let _ ← syncStore dto result
  syncAudit dto escrow result

/-! ## What each part does -/

variable {tw : TrustlessWork χ} {dto : SyncEscrowDto} {w w' : World χ} {e : EscrowOnChain}
  {result : SendTransactionResponse}

theorem syncData_status (dto : SyncEscrowDto) (result : SendTransactionResponse) (e : EscrowOnChain) :
    (syncData dto result e).escrowStatus = dto.action.status := by
  unfold syncData EscrowAction.status
  cases dto.action <;> rfl

theorem syncData_ids (dto : SyncEscrowDto) (result : SendTransactionResponse) (e : EscrowOnChain) :
    (syncData dto result e).escrowId = e.escrowId ∧ (syncData dto result e).orderId = e.orderId := by
  unfold syncData
  cases dto.action <;> exact ⟨rfl, rfl⟩

theorem syncData_contractId (h : dto.action ≠ .initializeEscrow) (e : EscrowOnChain) :
    (syncData dto result e).contractId = e.contractId := by
  unfold syncData
  cases ha : dto.action with
  | initializeEscrow => exact absurd ha h
  | _ => rfl

theorem getOrFail_eq_ok {id : String} : (getOrFail id).run w = (.ok e, w') ↔
    w' = w ∧ w.db.escrows.find? (uuid id) = some e := prisma_lookup_orThrow_eq_ok

theorem getOrFail_state (id : String) (w : World χ) : ((getOrFail id).run w).2 = w := by
  have hmoves : Svc.Moves Eq (getOrFail id : Service χ EscrowOnChain) :=
    Svc.Moves.bind Eq.trans (prisma_lookup_moves (fun _ => rfl) _ _) fun o => Svc.Moves.orThrow (fun _ => rfl) o _
  exact (hmoves w).symm

/-- A row that passed the check was stored in a status the action may start from. -/
theorem syncCheck_eq_ok : (syncCheck dto).run w = (.ok e, w') ↔
    w' = w ∧ w.db.escrows.find? (uuid dto.escrowId) = some e ∧ e.escrowStatus ∈ validTransitions (.action dto.action) := by
  unfold syncCheck
  constructor
  · intro h
    obtain ⟨e', w₁, hget, hrest⟩ := Svc.of_run_bind_ok h
    obtain ⟨rfl, he⟩ := getOrFail_eq_ok.mp hget
    obtain ⟨u, w₂, hval, hpure⟩ := Svc.of_run_bind_ok hrest
    obtain ⟨hv, rfl⟩ := Svc.of_run_ofExcept_ok hval
    cases hpure
    exact ⟨rfl, he, validateStatusTransition_eq_ok.mp hv⟩
  · rintro ⟨rfl, he, hv⟩
    have hval : validateStatusTransition e.escrowStatus (.action dto.action) = .ok () :=
      validateStatusTransition_eq_ok.mpr hv
    rw [Svc.run_bind_ok (getOrFail_eq_ok.mpr ⟨rfl, he⟩), hval]
    rfl

theorem syncCheck_state (dto : SyncEscrowDto) (w : World χ) : ((syncCheck dto).run w).2 = w := by
  have hmoves : Svc.Moves Eq (syncCheck dto : Service χ EscrowOnChain) := by
    refine Svc.Moves.bind Eq.trans (fun w => (getOrFail_state _ w).symm) fun e => ?_
    exact Svc.Moves.bind Eq.trans (fun _ => rfl) fun _ _ => rfl
  exact (hmoves w).symm

theorem syncSend_run (tw : TrustlessWork χ) (dto : SyncEscrowDto) (w : World χ) :
    ((syncSend tw dto).run w).2 = { w with ext := (tw.sendTransaction dto.signedXdr w.ext).2 } := by
  unfold syncSend
  rw [Svc.run_bind, external_run]
  cases (tw.sendTransaction dto.signedXdr w.ext).1 with
  | error t => rfl
  | ok result =>
    simp only [Svc.run_bind, Svc.run_throwIf]
    split_ifs <;> rfl

theorem of_syncSend_ok (h : ((syncSend tw dto).run w).1 = .ok result) :
    (tw.sendTransaction dto.signedXdr w.ext).1 = .ok result ∧ result.status = "SUCCESS" := by
  unfold syncSend at h
  rw [Svc.run_bind, external_run] at h
  cases hs : (tw.sendTransaction dto.signedXdr w.ext).1 with
  | error t => simp [hs] at h
  | ok r =>
    simp only [hs, Svc.run_bind, Svc.run_throwIf] at h
    by_cases hr : r.status = "SUCCESS"
    · simp only [hr, ne_eq, not_true_eq_false, if_false, Svc.run_pure, Except.ok.injEq] at h
      subst h
      exact ⟨rfl, hr⟩
    · simp [hr] at h

theorem of_syncSend_answered (h : (tw.sendTransaction dto.signedXdr w.ext).1 = .ok result)
    (hs : result.status = "SUCCESS") : (syncSend tw dto).run w =
      (.ok result, { w with ext := (tw.sendTransaction dto.signedXdr w.ext).2 }) := by
  unfold syncSend
  rw [Svc.run_bind, external_run, h]
  dsimp only
  rw [Svc.run_bind_ok (Svc.run_throwIf_neg (not_not_intro hs) _ _), Svc.run_pure]

theorem syncStore_cases (dto : SyncEscrowDto) (result : SendTransactionResponse) (w : World χ) :
    (∃ t, (syncStore dto result).run w = (.error t, w)) ∨
    ∃ e db, (syncStore dto result).run w = (.ok (syncData dto result e), { w with db := db }) ∧
      w.db.escrows.find? (uuid dto.escrowId) = some e ∧
      Rewritten (Table.atKey (uuid dto.escrowId) (syncData dto result)) id w.db db := by
  cases h : Prisma.escrowOnChain.update (uuid dto.escrowId) (syncData dto result) w.db with
  | error t => exact Or.inl ⟨t, prisma_run_error h⟩
  | ok r =>
    obtain ⟨e', db⟩ := r
    obtain ⟨e, he, rfl, -⟩ := Delegate.of_update h
    exact Or.inr ⟨e, db, prisma_run_ok h, he, Rewritten.of_escrow_update (syncData_ids dto result) h⟩

theorem syncAudit_run (dto : SyncEscrowDto) (e : EscrowOnChain) (result : SendTransactionResponse) (w : World χ) :
    ∃ r db, (syncAudit dto e result).run w = (.ok r, { w with db := db }) ∧ Rewritten id id w.db db := by
  unfold syncAudit
  cases syncEntry dto (result.contractId.or e.contractId) with
  | some entry =>
    obtain ⟨db, hrun, hre⟩ := AuditLogService.create_run entry w
    refine ⟨⟨dto.escrowId, result.status, result.contractId.or e.contractId, dto.action.status⟩, db, ?_, hre⟩
    rw [Option.elim_some, Svc.run_bind_ok hrun, Svc.run_pure]
  | none => exact ⟨_, w.db, rfl, Rewritten.refl _⟩

/-- **A sync call** leaves the tables, or found its row in a status the action may start from, was answered `SUCCESS`
and rewrote the row. -/
theorem syncTransaction_cases (tw : TrustlessWork χ) (dto : SyncEscrowDto) (w : World χ) :
    (∃ ext, ((syncTransaction tw dto).run w).2 = { w with ext := ext } ∧
      (ext = w.ext ∨ ext = (tw.sendTransaction dto.signedXdr w.ext).2)) ∨
    ∃ e result db, ((syncTransaction tw dto).run w).2 =
        { w with db := db, ext := (tw.sendTransaction dto.signedXdr w.ext).2 } ∧
      w.db.escrows.find? (uuid dto.escrowId) = some e ∧ e.escrowStatus ∈ validTransitions (.action dto.action) ∧
      (tw.sendTransaction dto.signedXdr w.ext).1 = .ok result ∧ result.status = "SUCCESS" ∧
      Rewritten (Table.atKey (uuid dto.escrowId) (syncData dto result)) id w.db db := by
  unfold syncTransaction
  rcases hc : (syncCheck dto).run w with ⟨r, w₁⟩
  cases r with
  | error t =>
    have hw := syncCheck_state dto w
    rw [hc] at hw
    obtain rfl : w₁ = w := hw
    rw [Svc.run_bind_error hc]
    exact Or.inl ⟨w₁.ext, rfl, Or.inl rfl⟩
  | ok e =>
    obtain ⟨rfl, he, hv⟩ := syncCheck_eq_ok.mp hc
    rw [Svc.run_bind_ok hc]
    rcases hs : (syncSend tw dto).run w₁ with ⟨r, w₂⟩
    have hw₂ := syncSend_run tw dto w₁
    rw [hs] at hw₂
    cases r with
    | error t =>
      rw [Svc.run_bind_error hs]
      exact Or.inl ⟨_, hw₂, Or.inr rfl⟩
    | ok result =>
      have hok : ((syncSend tw dto).run w₁).1 = .ok result := by rw [hs]
      obtain ⟨hres, hsucc⟩ := of_syncSend_ok hok
      rw [Svc.run_bind_ok hs]
      obtain rfl : w₂ = _ := hw₂
      rcases syncStore_cases dto result { w₁ with ext := (tw.sendTransaction dto.signedXdr w₁.ext).2 } with
        ⟨t, hst⟩ | ⟨e', db, hst, he', hre⟩
      · rw [Svc.run_bind_error hst]
        exact Or.inl ⟨_, rfl, Or.inr rfl⟩
      · rw [Svc.run_bind_ok hst]
        obtain ⟨r, db', hau, hre'⟩ := syncAudit_run dto e result
          { w₁ with db := db, ext := (tw.sendTransaction dto.signedXdr w₁.ext).2 }
        exact Or.inr ⟨e, result, db', by rw [hau], he, hv, hres, hsucc, hre.trans hre'⟩

end EscrowService

end IKash
