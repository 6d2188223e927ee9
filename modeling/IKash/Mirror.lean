import IKash.Flow

/-!
# The database and the chain

What the network executed is a list of transactions, each an operation on a contract. `Honest` is what is assumed of
Trustless Work: it answers `SUCCESS` exactly when the submitted transaction was executed, whatever operation it contains.

A row is `Backed` when the operation behind its status was executed on the row's own contract. `syncTransaction` never
looks into the transaction, so a request may back a status with any executed transaction (`sync_backed`, first part);
the database stays behind the chain in every run whose requests declare what the network executes for them (second
part).
-/

namespace IKash

open Lib EscrowService

variable {χ : Type}

inductive TxKind where
  | deploy | fund | changeMilestoneStatus | approveMilestone | releaseMilestoneFunds | payment
deriving DecidableEq, Repr

/-- A transaction as the network executes it. -/
structure OnChainTx where
  kind : TxKind
  contractId : String
deriving DecidableEq, Repr

/-- The operation a client declares with an action. -/
def EscrowAction.operation : EscrowAction → TxKind
  | .initializeEscrow => .deploy
  | .fund => .fund
  | .fiatSent => .changeMilestoneStatus
  | .release => .releaseMilestoneFunds

/-- The operation that a status says was executed. -/
def operationBehind : EscrowStatus → Option TxKind
  | .funded => some .fund
  | .fiatSent => some .changeMilestoneStatus
  | .released => some .releaseMilestoneFunds
  | _ => none

/-- Trustless Work, with the transaction that a signed text contains and the transactions executed so far. -/
structure Honest (tw : TrustlessWork χ) (decode : String → Option OnChainTx) (executed : χ → List OnChainTx) : Prop where
  success : ∀ xdr c r, (tw.sendTransaction xdr c).1 = .ok r → r.status = "SUCCESS" →
    ∃ tx, decode xdr = some tx ∧ executed (tw.sendTransaction xdr c).2 = executed c ++ [tx]
  refused : ∀ xdr c, (∀ r, (tw.sendTransaction xdr c).1 = .ok r → r.status ≠ "SUCCESS") →
    executed (tw.sendTransaction xdr c).2 = executed c

/-- The operation behind the status of the row was executed on its contract. -/
def Backed (executed : List OnChainTx) (r : EscrowOnChain) : Prop :=
  ∀ kind ∈ operationBehind r.escrowStatus, ∃ c ∈ r.contractId, ⟨kind, c⟩ ∈ executed

/-- No row runs ahead of the chain. -/
def BehindChain (executed : χ → List OnChainTx) (w : World χ) : Prop :=
  ∀ k r, w.db.escrows.find? k = some r → Backed (executed w.ext) r

/-- A transaction that the network executes for the request is the declared operation on the contract of its escrow. -/
def Truthful (tw : TrustlessWork χ) (executed : χ → List OnChainTx) (w : World χ) : FlowOp → Prop
  | .syncTransaction dto => ∀ r tx, w.db.escrows.find? (uuid dto.escrowId) = some r →
      executed ((flow tw).next w (.syncTransaction dto)).ext = executed w.ext ++ [tx] →
      dto.action ≠ .initializeEscrow → ∃ c ∈ r.contractId, tx = ⟨dto.action.operation, c⟩
  | _ => True

/-- A change of status is made by a request for that row and action whose transaction the network executed. -/
def ChangesExecuted (tw : TrustlessWork χ) (decode : String → Option OnChainTx) (executed : χ → List OnChainTx)
    (w : World χ) : FlowOp → Prop
  | .syncTransaction dto => ∀ k r r', w.db.escrows.find? k = some r →
      ((flow tw).next w (.syncTransaction dto)).db.escrows.find? k = some r' → r'.escrowStatus ≠ r.escrowStatus →
      k = uuid dto.escrowId ∧ r'.escrowStatus = dto.action.status ∧ ∃ tx, decode dto.signedXdr = some tx ∧
        executed ((flow tw).next w (.syncTransaction dto)).ext = executed w.ext ++ [tx]
  | _ => True

theorem operationBehind_action {a : EscrowAction} {kind : TxKind} (h : kind ∈ operationBehind a.status) :
    a ≠ .initializeEscrow ∧ kind = a.operation := by
  cases a with
  | initializeEscrow => cases h
  | _ => cases h; exact ⟨by decide, rfl⟩

theorem Backed.mono {l l' : List OnChainTx} {r : EscrowOnChain} (h : Backed l r) (hsub : l ⊆ l') : Backed l' r := by
  intro kind hkind
  obtain ⟨c, hc, hmem⟩ := h kind hkind
  exact ⟨c, hc, hsub hmem⟩

section Step

variable {tw : TrustlessWork χ} {decode : String → Option OnChainTx} {executed : χ → List OnChainTx} {w : World χ}
  {dto : SyncEscrowDto}

/-- What a submission adds to the chain. -/
theorem Honest.executed_subset (h : Honest tw decode executed) (xdr : String) (c : χ) :
    executed c ⊆ executed (tw.sendTransaction xdr c).2 := by
  by_cases hs : ∃ r, (tw.sendTransaction xdr c).1 = .ok r ∧ r.status = "SUCCESS"
  · obtain ⟨r, hr, hsucc⟩ := hs
    obtain ⟨tx, -, hex⟩ := h.success xdr c r hr hsucc
    rw [hex]
    exact List.subset_append_left _ _
  · rw [h.refused xdr c fun r hr hsucc => hs ⟨r, hr, hsucc⟩]
    exact List.Subset.refl _

theorem changesExecuted_sync (h : Honest tw decode executed) :
    ChangesExecuted tw decode executed w (.syncTransaction dto) := by
  intro k r r' hr hr' hne
  rw [flow_next_sync] at hr' ⊢
  rcases syncTransaction_cases tw dto w with ⟨ext, hw, -⟩ | ⟨e, result, db, hw, -, -, hres, hsucc, hre⟩
  · rw [hw] at hr'
    obtain rfl : r = r' := Option.some.inj (hr.symm.trans hr')
    exact absurd rfl hne
  · rw [hw] at hr' ⊢
    obtain rfl : Table.atKey (uuid dto.escrowId) (syncData dto result) r = r' := by
      have : db.escrows.find? k = some r' := hr'
      rw [hre.find?_escrow, hr] at this
      exact Option.some.inj this
    by_cases hk : Keyed.key r = uuid dto.escrowId
    · refine ⟨(Table.key_of_find? hr).symm.trans hk, ?_, h.success dto.signedXdr w.ext result hres hsucc⟩
      rw [Table.atKey_eq hk, syncData_status]
    · rw [Table.atKey_ne hk] at hne
      exact absurd rfl hne

/-- **One request** that declares what is executed for it keeps every row behind the chain. -/
theorem behindChain_sync (h : Honest tw decode executed) (hw : BehindChain executed w)
    (ht : Truthful tw executed w (.syncTransaction dto)) :
    BehindChain executed ((flow tw).next w (.syncTransaction dto)) := by
  intro k r' hr'
  rw [flow_next_sync] at hr' ⊢
  rcases syncTransaction_cases tw dto w with ⟨ext, hnext, hext⟩ | ⟨e, result, db, hnext, he, -, hres, hsucc, hre⟩
  · rw [hnext] at hr' ⊢
    have hsub : executed w.ext ⊆ executed ext := by
      rcases hext with rfl | rfl
      · exact List.Subset.refl _
      · exact h.executed_subset _ _
    exact (hw k r' hr').mono hsub
  · rw [hnext] at hr' ⊢
    have hr' : db.escrows.find? k = some r' := hr'
    rw [hre.find?_escrow, Option.map_eq_some_iff] at hr'
    obtain ⟨r, hr, rfl⟩ := hr'
    by_cases hk : Keyed.key r = uuid dto.escrowId
    · obtain rfl : k = uuid dto.escrowId := (Table.key_of_find? hr).symm.trans hk
      obtain rfl : r = e := Option.some.inj (hr.symm.trans he)
      rw [Table.atKey_eq hk]
      intro kind hkind
      rw [syncData_status] at hkind
      obtain ⟨hne, rfl⟩ := operationBehind_action hkind
      obtain ⟨tx, -, hex⟩ := h.success dto.signedXdr w.ext result hres hsucc
      have hchain : executed ((flow tw).next w (.syncTransaction dto)).ext = executed w.ext ++ [tx] := by
        rw [flow_next_sync, hnext]
        exact hex
      obtain ⟨c, hc, rfl⟩ := ht r tx hr hchain hne
      refine ⟨c, by rw [syncData_contractId hne]; exact hc, ?_⟩
      show _ ∈ executed (tw.sendTransaction dto.signedXdr w.ext).2
      rw [hex]
      exact List.mem_append_right _ (List.mem_singleton_self _)
    · rw [Table.atKey_ne hk]
      exact (hw k r hr).mono (h.executed_subset _ _)

end Step

/-- Truthful requests, one after the other. -/
theorem behindChain_run {tw : TrustlessWork χ} {decode : String → Option OnChainTx} {executed : χ → List OnChainTx}
    (h : Honest tw decode executed) {w : World χ} {requests : List SyncEscrowDto} (hw : BehindChain executed w)
    (ht : (flow tw).Along (Truthful tw executed) w (requests.map .syncTransaction)) :
    BehindChain executed ((flow tw).run w (requests.map .syncTransaction)) := by
  induction requests generalizing w with
  | nil => exact hw
  | cons dto requests ih => exact ih (behindChain_sync h hw ht.1) ht.2

/-- **The database and the chain.** In every run of sync requests, each change of status is made by a request whose
transaction the network executed; and when every request declares what is executed for it, no row ever runs ahead of
the chain. -/
theorem sync_backed {tw : TrustlessWork χ} {decode : String → Option OnChainTx} {executed : χ → List OnChainTx}
    (h : Honest tw decode executed) (w : World χ) (requests : List SyncEscrowDto) :
    (flow tw).Along (ChangesExecuted tw decode executed) w (requests.map .syncTransaction) ∧
    (BehindChain executed w → (flow tw).Along (Truthful tw executed) w (requests.map .syncTransaction) →
      ∀ pre post, requests = pre ++ post → BehindChain executed ((flow tw).run w (pre.map .syncTransaction))) := by
  constructor
  · refine Machine.along_of_forall fun op hop s => ?_
    obtain ⟨dto, -, rfl⟩ := List.mem_map.mp hop
    exact changesExecuted_sync h
  · rintro hw ht pre post rfl
    rw [List.map_append, Machine.along_append] at ht
    exact behindChain_run h hw ht.1

/-! ## A chain that executes every transaction once -/

/-- Texts that name the operation they contain. -/
def Trade.decode : String → Option OnChainTx
  | "fund C1" => some ⟨.fund, "C1"⟩
  | "release C1" => some ⟨.releaseMilestoneFunds, "C1"⟩
  | "pay" => some ⟨.payment, ""⟩
  | _ => none

/-- Trustless Work in front of a network that executes a text it can read, unless it has executed it. -/
def Trade.network : TrustlessWork (List OnChainTx) where
  sendTransaction xdr chain :=
    match (Trade.decode xdr).filter (· ∉ chain) with
    | some tx => (.ok { status := "SUCCESS" }, chain ++ [tx])
    | none => (.ok { status := "FAILED", message := some "tx_bad_seq" }, chain)
  getEscrowBalance _ chain := (.ok .null, chain)

theorem Trade.network_honest : Honest Trade.network Trade.decode id where
  success xdr c r h hs := by
    simp only [Trade.network] at h ⊢
    cases hd : (Trade.decode xdr).filter (· ∉ c) with
    | some tx => exact ⟨tx, (Option.filter_eq_some_iff.mp hd).1, rfl⟩
    | none =>
      rw [hd] at h
      cases h
      exact absurd hs (by decide)
  refused xdr c h := by
    simp only [Trade.network] at h ⊢
    cases hd : (Trade.decode xdr).filter (· ∉ c) with
    | some tx =>
      rw [hd] at h
      exact absurd rfl (h _ rfl)
    | none => rfl

theorem Trade.behindChain : BehindChain id (Trade.world .created .initialized []) := by
  intro k r hr
  obtain rfl := List.mem_singleton.mp (Table.find?_eq_some.mp hr).1
  intro kind hkind
  cases hkind

/-- A payment of the client's own, submitted as the funding of the escrow. -/
theorem payment_as_funding : Honest Trade.network Trade.decode id ∧
    BehindChain id (Trade.world .created .initialized []) ∧
    ¬ BehindChain id ((flow Trade.network).run (Trade.world .created .initialized [])
      [.syncTransaction ⟨"e1", "pay", .fund⟩]) := by
  refine ⟨Trade.network_honest, Trade.behindChain, fun h => ?_⟩
  obtain ⟨c, hc, hmem⟩ := h "e1" (Trade.escrow .funded) (by decide) .fund rfl
  obtain rfl : "C1" = c := Option.some.inj hc
  revert hmem
  decide

/-- A funding, the same transaction again as a release, which the network refuses, and a release. -/
theorem trade_behindChain : BehindChain id ((flow Trade.network).run (Trade.world .created .initialized [])
    ([⟨"e1", "fund C1", .fund⟩, ⟨"e1", "fund C1", .release⟩, ⟨"e1", "release C1", .release⟩].map
      .syncTransaction)) := by
  refine (sync_backed Trade.network_honest (Trade.world .created .initialized [])
    [⟨"e1", "fund C1", .fund⟩, ⟨"e1", "fund C1", .release⟩, ⟨"e1", "release C1", .release⟩]).2 Trade.behindChain
      ⟨?_, ?_, ?_, trivial⟩ _ [] rfl
  · intro r tx hr hchain _
    obtain rfl : Trade.escrow .initialized = r := Option.some.inj ((by decide : _ = _).symm.trans hr)
    cases hchain
    exact ⟨"C1", rfl, rfl⟩
  · intro r tx hr hchain _
    cases hchain
  · intro r tx hr hchain _
    obtain rfl : Trade.escrow .funded = r := Option.some.inj ((by decide : _ = _).symm.trans hr)
    cases hchain
    exact ⟨"C1", rfl, rfl⟩

end IKash
