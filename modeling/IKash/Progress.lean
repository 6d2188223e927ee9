import IKash.Desk

/-!
# Status and contract

`open` and the order service store a contract with the status `initialized`. `syncTransaction` gives that status
whatever the signed transaction was, and the listener gives it to a row that it found by its order; both leave a row
without a contract. So does `open` when its second write fails.

- `progress_backed`: in every run from no escrow whose steps leave the status `pending` with a contract only
  (`LeavesWithContract`), the rows that have left it have a contract; what `markFiatSent` reads has one, and what `open`
  deploys for has not left it.
-/

namespace IKash

open Lib EscrowService OrderService StellarListenerService

variable {χ : Type} {env : EscrowEnv χ} {decode : String → Option Payload} {deployed : χ → Deployments}
  {w w' : World χ} {op : DeskOp} {ops : List DeskOp}

/-- A row past `pending` has a contract; so `markFiatSent` has one to send, and `open` deploys for no such row. -/
structure ProgressBacked (w : World χ) : Prop where
  contract : ∀ e ∈ w.db.escrows.rows, e.escrowStatus ∈ [.initialized, .funded, .fiatSent, .released, .disputed] →
    e.contractId ≠ none
  fiatSent : ∀ id e w', (fiatSentCheck id).run w = (.ok e, w') → e.contractId ≠ none
  undeployed : ∀ fault orderId e w', (findUndeployed fault orderId).run w = (.ok (some e), w') →
    e.escrowStatus = .pending

/-- The invariant. -/
def ContractsStored (w : World χ) : Prop := ∀ e ∈ w.db.escrows.rows, e.escrowStatus ≠ .pending → contract? e ≠ none

/-- No fault hits the second write of `open`; a transaction submitted for a `pending` row deploys a contract; no event is
applied to such a row. -/
def LeavesWithContract (decode : String → Option Payload) (w : World χ) : DeskOp → Prop
  | .openEscrow _ _ faults => faults.update = none
  | .syncTransaction dto => dto.action = .initializeEscrow →
    ∀ e, w.db.escrows.find? (uuid dto.escrowId) = some e → e.escrowStatus = .pending → decode dto.signedXdr ≠ none
  | .processEvent _ _ event => ∀ e, findEscrow w.db event = .ok (some e) → e.escrowStatus = .pending →
    event.eventType ∉ [.escrowCreated, .escrowCancelled]
  | _ => True

theorem ContractsStored.progressBacked (h : ContractsStored w) : ProgressBacked w where
  contract := by
    intro e he hstatus hnone
    refine h e he (fun hp => ?_) (by rw [contract?, hnone]; rfl)
    rw [hp] at hstatus
    revert hstatus
    decide
  fiatSent := by
    intro id e w' hrun hnone
    obtain ⟨e', w₁, hget, hrun₁⟩ := Svc.of_run_bind_ok hrun
    obtain ⟨rfl, hfind⟩ := getOrFail_eq_ok.mp hget
    obtain ⟨_, w₂, hthrow, hrun₂⟩ := Svc.of_run_bind_ok hrun₁
    obtain ⟨hstatus, rfl⟩ := Svc.of_run_throwIf_ok hthrow
    cases hrun₂
    refine h e (Table.find?_eq_some.mp hfind).1 (fun hp => ?_) (by rw [contract?, hnone]; rfl)
    rw [hp] at hstatus
    exact hstatus (by decide)
  undeployed := by
    intro fault orderId e w' hrun
    obtain ⟨-, he, hnone⟩ := of_findUndeployed_ok hrun
    by_contra hstatus
    exact h e (escrowByOrderId_eq_some.mp he.symm).1 hstatus hnone

theorem contractsStored_next (h : Deploys env.tw decode deployed) (hI : ContractsStored w)
    (hcontracts : ContractsDeployed deployed w) (hC : LeavesWithContract decode w op) :
    ContractsStored ((desk env).next w op) := by
  have hdid : Did env deployed w op ((desk env).next w op) := desk_did h w op
  generalize (desk env).next w op = w' at hdid
  intro e he hstatus hnone
  cases hdid.rows e he with
  | kept hmem => exact hI e hmem hstatus hnone
  | reopened _ _ _ _ hdep => exact contract?_ne_none rfl hdep.nonempty hnone
  | opened _ _ hdep => exact contract?_ne_none rfl hdep.nonempty hnone
  | halfOpened hdep _ hwhy =>
    rcases hwhy with hfault | ⟨x, hx, hxc⟩
    · exact hfault hC
    · obtain ⟨-, q, hq⟩ := hcontracts x hx _ hxc
      exact hdep.fresh q hq
  | initialized => exact hstatus rfl
  | reparametrised hmem hfree => exact hI _ hmem hstatus hfree
  | ordered _ _ hdep => exact contract?_ne_none rfl hdep.nonempty hnone
  | created _ hpending => exact hstatus hpending
  | @synced dto r e hfind hvalid hanswer hs _ =>
    have he := (Table.find?_eq_some.mp hfind).1
    by_cases ha : dto.action = .initializeEscrow
    · rw [ha] at hvalid
      obtain ⟨p, hp⟩ := Option.ne_none_iff_exists'.mp (hC ha e hfind (List.mem_singleton.mp hvalid))
      obtain ⟨id, hid, hne, -⟩ := h.deploys dto.signedXdr w.ext r p hanswer hs hp
      have hdata : (syncData dto r e).contractId = some id := by
        unfold syncData
        rw [ha]
        dsimp only
        rw [hid, Option.filter_some, if_pos (decide_eq_true hne), Option.some_or]
      exact contract?_ne_none hdata hne hnone
    · refine hI e he (fun hp => ?_) ?_
      · rw [hp] at hvalid
        revert hvalid ha
        cases dto.action <;> decide
      · unfold contract? at hnone ⊢
        rwa [syncData_contractId ha] at hnone
  | updated hfind _ => exact hI _ (Table.find?_eq_some.mp hfind).1 hstatus hnone
  | @applied _ _ event e hfind hvalid =>
    by_cases hp : e.escrowStatus = .pending
    · have hnot := hC e hfind hp
      rw [hp] at hvalid
      revert hvalid hnot
      cases event.eventType <;> decide
    · exact hI e (findEscrow_mem hfind) hp hnone

/-- **Rows past `pending` have a contract** in every state that such a run reaches. -/
theorem progress_backed (h : Deploys env.tw decode deployed) (h0 : w.db.escrows.rows = [])
    (ha : (desk env).Along (LeavesWithContract decode) w ops) {pre post : List DeskOp} (hsplit : ops = pre ++ post) :
    ProgressBacked ((desk env).run w pre) := by
  rw [hsplit, Machine.along_append] at ha
  have hempty : ∀ e, e ∉ w.db.escrows.rows := fun e he => by
    rw [h0] at he
    cases he
  have hI : ContractsStored ((desk env).run w pre) ∧ ContractsDeployed deployed ((desk env).run w pre) := by
    refine Machine.run_inv (I := fun w => ContractsStored w ∧ ContractsDeployed deployed w) ?_
      ⟨fun e he => absurd he (hempty e), fun e he => absurd he (hempty e)⟩ ha.1
    rintro w op ⟨hstored, hcontracts⟩ hC
    exact ⟨contractsStored_next h hstored hcontracts hC, (desk_did h w op).contractsDeployed h hcontracts⟩
  exact hI.1.progressBacked

namespace Desk

/-- The client submits the transaction for the row that `initialize` created. -/
def submitted (xdr : String) : DeskOp := .syncTransaction ⟨"e1", xdr, .initializeEscrow⟩

theorem progress_backed_submitted : ProgressBacked ((desk (escrowEnv book)).run world
    [initialized, submitted "deploy 1"]) := by
  have halong : (desk (escrowEnv book)).Along (LeavesWithContract (payloadOf book)) world
      [initialized, submitted "deploy 1"] := by
    refine ⟨trivial, fun _ _ _ _ => ?_, trivial⟩
    decide
  exact progress_backed (trustlessWork_deploys book) rfl halong (List.append_nil _).symm

/-- A payment is submitted as the deployment: it succeeds, and the row is `initialized` without a contract. -/
theorem payment_as_deployment : Deploys (escrowEnv book).tw (payloadOf book) id ∧ world.db.escrows.rows = [] ∧
    ¬ ProgressBacked ((desk (escrowEnv book)).run world [initialized, submitted "payment"]) := by
  refine ⟨trustlessWork_deploys book, rfl, fun hbacked => ?_⟩
  have hrow : ∃ e ∈ ((desk (escrowEnv book)).run world [initialized, submitted "payment"]).db.escrows.rows,
      e.escrowStatus = .initialized ∧ e.contractId = none := by decide
  obtain ⟨e, he, hstatus, hnone⟩ := hrow
  refine hbacked.contract e he ?_ hnone
  rw [hstatus]
  decide

end Desk

end IKash
