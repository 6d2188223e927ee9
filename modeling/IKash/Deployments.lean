import IKash.Desk
import IKash.Lib.Pool
import Mathlib.Data.List.Nodup

/-!
# Deployments, step by step

The calls of `open`, `initialize`, `OrderService.create` and `syncTransaction` with the action `INITIALIZE`, cut at their
awaits. A call that has deployed a contract carries it until its row is written (`DeployCall.carried`).

- `openEscrow_alone`, `initializeEscrow_alone`, `createOrder_alone`, `syncInitialize_alone`: a call that is scheduled
  alone does what the service does;
- `deployStep_stepped`: what a step does to the rows and the deployments, and what the call can rely on after it.
-/

namespace IKash

open Lib EscrowService OrderService

variable {χ : Type}

/-! ## The calls -/

/-- What a backend deployment is for. -/
inductive Deployer where
  | openEscrow (dto : OpenEscrowDto) (freshId : String) (faults : DbFaults) (existing : Option EscrowOnChain)
  | createOrder (dto : CreateOrderDto) (orderId freshId : String) (faults : DbFaults)

def Deployer.orderId : Deployer → String
  | .openEscrow dto _ _ _ => dto.orderId
  | .createOrder _ orderId _ _ => orderId

def Deployer.deployDto (codec : AmountCodec) : Deployer → DeployDto
  | .openEscrow dto _ _ _ => dto.deployDto
  | .createOrder dto orderId _ _ => OrderService.deployDto codec orderId dto

/-- What a call still has to do, with what it has read so far. -/
inductive DeployCall where
  | openEscrow (dto : OpenEscrowDto) (freshId : String) (faults : DbFaults)
  | build (d : Deployer)
  | broadcast (d : Deployer) (unsignedTransaction secret : String)
  | fund (d : Deployer) (contractId : String)
  | write (d : Deployer) (contractId : String)
  | openUpdate (dto : OpenEscrowDto) (faults : DbFaults) (isNew : Bool) (escrowId contractId : String)
  | openAudit (dto : OpenEscrowDto) (faults : DbFaults) (isNew : Bool) (escrowId contractId : String)
  | orderAudit (dto : CreateOrderDto) (orderId : String) (faults : DbFaults)
  | initializeEscrow (dto : InitializeEscrowDto) (freshId : String) (faults : DbFaults)
  | initializeBuild (dto : InitializeEscrowDto) (freshId : String) (faults : DbFaults)
  | initializeFind (dto : InitializeEscrowDto) (freshId : String) (faults : DbFaults)
  | initializeStore (dto : InitializeEscrowDto) (freshId : String) (faults : DbFaults) (found : Option EscrowOnChain)
  | initializeAudit (dto : InitializeEscrowDto) (faults : DbFaults) (isNew : Bool) (escrowId : String)
  | syncTransaction (escrowId signedXdr : String) (faults : DbFaults)
  | syncSend (escrowId signedXdr : String) (faults : DbFaults) (escrow : EscrowOnChain)
  | syncStore (escrowId signedXdr : String) (faults : DbFaults) (escrow : EscrowOnChain)
      (result : SendTransactionResponse)
  | syncAudit (escrowId signedXdr : String) (escrow : EscrowOnChain) (result : SendTransactionResponse)
  | done

def DeployCall.ended : DeployCall → Bool
  | .done => true
  | _ => false

/-- The body of a sync call for a deployment by the client. -/
def initializeSync (escrowId signedXdr : String) : SyncEscrowDto := ⟨escrowId, signedXdr, .initializeEscrow⟩

/-- `syncTransaction` with faults. -/
def EscrowService.syncTransactionUnder (faults : DbFaults) (tw : TrustlessWork χ) (dto : SyncEscrowDto) :
    Service χ SyncResponse := do
  let escrow ← faulty faults.find (syncCheck dto)
  let result ← syncSend tw dto
  let _ ← faulty faults.update (syncStore dto result)
  syncAudit dto escrow result

theorem syncTransactionUnder_none (tw : TrustlessWork χ) (dto : SyncEscrowDto) :
    syncTransactionUnder {} tw dto = EscrowService.syncTransaction tw dto := rfl

/-- One step of a call. -/
def deployStep (env : EscrowEnv χ) (w : World χ) : DeployCall → World χ × DeployCall
  | .openEscrow dto freshId faults => Pool.await .done (findUndeployed faults.find dto.orderId)
      (fun existing => .build (.openEscrow dto freshId faults existing)) w
  | .build d => Pool.await .done (deployBuild env.tw env.config d.orderId (d.deployDto env.codec))
      (fun built => .broadcast d built.1 built.2) w
  | .broadcast d unsignedTransaction secret =>
    Pool.await .done (deployBroadcast env.tw env.config unsignedTransaction secret) (.fund d) w
  | .fund d contractId =>
    Pool.await .done (deployFund env.tw contractId (d.deployDto env.codec)) (fun _ => .write d contractId) w
  | .write (.openEscrow dto freshId faults existing) contractId =>
    Pool.await .done (openCreate env.codec dto freshId faults.create existing)
      (fun escrow => .openUpdate dto faults existing.isNone escrow.escrowId contractId) w
  | .write (.createOrder dto orderId freshId faults) contractId =>
    Pool.await .done (faulty faults.create (prisma (createTx env.codec orderId freshId contractId dto)))
      (fun _ => .orderAudit dto orderId faults) w
  | .openUpdate dto faults isNew escrowId contractId =>
    Pool.await .done (openUpdate escrowId contractId faults.update)
      (fun _ => .openAudit dto faults isNew escrowId contractId) w
  | .openAudit dto faults isNew escrowId contractId =>
    Pool.await .done (openAudit dto isNew escrowId contractId faults.audit) (fun _ => .done) w
  | .orderAudit dto orderId faults =>
    Pool.await .done (recordUnless faults.audit (OrderService.createdEntry orderId dto)) (fun _ => .done) w
  | .initializeEscrow dto freshId faults =>
    Pool.await .done (initializeCheck dto faults.find) (fun _ => .initializeBuild dto freshId faults) w
  | .initializeBuild dto freshId faults =>
    Pool.await .done (initializeBuild env.tw env.config dto) (fun _ => .initializeFind dto freshId faults) w
  | .initializeFind dto freshId faults =>
    Pool.await .done (faulty faults.findAgain (findByOrder dto.orderId)) (.initializeStore dto freshId faults) w
  | .initializeStore dto freshId faults found =>
    Pool.await .done (initializeStore env.codec dto freshId faults found)
      (fun escrow => .initializeAudit dto faults found.isNone escrow.escrowId) w
  | .initializeAudit dto faults isNew escrowId =>
    Pool.await .done (initializeAudit dto isNew escrowId faults.audit) (fun _ => .done) w
  | .syncTransaction escrowId signedXdr faults =>
    Pool.await .done (faulty faults.find (syncCheck (initializeSync escrowId signedXdr)))
      (.syncSend escrowId signedXdr faults) w
  | .syncSend escrowId signedXdr faults escrow =>
    Pool.await .done (syncSend env.tw.toTrustlessWork (initializeSync escrowId signedXdr))
      (.syncStore escrowId signedXdr faults escrow) w
  | .syncStore escrowId signedXdr faults escrow result =>
    Pool.await .done (faulty faults.update (syncStore (initializeSync escrowId signedXdr) result))
      (fun _ => .syncAudit escrowId signedXdr escrow result) w
  | .syncAudit escrowId signedXdr escrow result =>
    Pool.await .done (syncAudit (initializeSync escrowId signedXdr) escrow result) (fun _ => .done) w
  | .done => (w, .done)

/-- The machine whose inputs say which call steps. -/
abbrev deployCalls (env : EscrowEnv χ) : Machine (Pool (World χ) DeployCall) ℕ Unit := Pool.machine (deployStep env)

variable {env : EscrowEnv χ}

/-! ## Calls by themselves -/

theorem deployEscrowToChain_bind {α : Type} (config : EscrowConfig) (tw : TrustlessWorkService χ) (orderId : String)
    (dto : DeployDto) (f : DeployedEscrow → Service χ α) : deployEscrowToChain tw config orderId dto >>= f =
      deployBuild tw config orderId dto >>= fun built => deployBroadcast tw config built.1 built.2 >>= fun contractId =>
        deployFund tw contractId dto >>= fun unsigned => f ⟨contractId, unsigned⟩ := by
  unfold deployEscrowToChain
  simp only [Svc.bind_assoc]
  rfl

theorem openEscrow_alone (dto : OpenEscrowDto) (freshId : String) (faults : DbFaults) (w : World χ) :
    Pool.RealisesAt (deployStep env) .done (.openEscrow dto freshId faults)
      (EscrowService.openEscrow env.tw env.config env.codec dto freshId faults) w := by
  refine Pool.realisesAt_bind rfl fun existing w₁ _ => ?_
  rw [deployEscrowToChain_bind]
  refine Pool.realisesAt_bind rfl fun built w₂ _ => Pool.realisesAt_bind rfl fun contractId w₃ _ => ?_
  refine Pool.realisesAt_bind rfl fun unsigned w₄ _ => Pool.realisesAt_bind rfl fun escrow w₅ _ => ?_
  exact Pool.realisesAt_bind rfl fun _ w₆ _ => Pool.realisesAt_bind rfl fun _ w₇ _ => ⟨0, rfl⟩

theorem createOrder_alone (dto : CreateOrderDto) (orderId freshId : String) (faults : DbFaults) (w : World χ) :
    Pool.RealisesAt (deployStep env) .done (.build (.createOrder dto orderId freshId faults))
      (OrderService.create env.tw env.config env.codec dto orderId freshId faults) w := by
  have hbuild : deployStep env w (.build (.createOrder dto orderId freshId faults)) = Pool.await .done
      (deployBuild env.tw env.config orderId (OrderService.deployDto env.codec orderId dto))
      (fun built => .broadcast (.createOrder dto orderId freshId faults) built.1 built.2) w := by
    rw [deployStep, Deployer.orderId, Deployer.deployDto]
  unfold OrderService.create
  rw [deployEscrowToChain_bind]
  refine Pool.realisesAt_bind hbuild fun built w₁ _ => Pool.realisesAt_bind rfl fun contractId w₂ _ => ?_
  refine Pool.realisesAt_bind rfl fun unsigned w₃ _ => Pool.realisesAt_bind rfl fun order w₄ _ => ?_
  exact Pool.realisesAt_bind rfl fun _ w₅ _ => ⟨0, rfl⟩

theorem initializeEscrow_alone (dto : InitializeEscrowDto) (freshId : String) (faults : DbFaults) (w : World χ) :
    Pool.RealisesAt (deployStep env) .done (.initializeEscrow dto freshId faults)
      (EscrowService.initializeEscrow env.tw env.config env.codec dto freshId faults) w := by
  refine Pool.realisesAt_bind rfl fun _ w₁ _ => Pool.realisesAt_bind rfl fun unsigned w₂ _ => ?_
  refine Pool.realisesAt_bind rfl fun found w₃ _ => Pool.realisesAt_bind rfl fun escrow w₄ _ => ?_
  exact Pool.realisesAt_bind rfl fun _ w₅ _ => ⟨0, rfl⟩

theorem syncInitialize_alone (escrowId signedXdr : String) (faults : DbFaults) (w : World χ) :
    Pool.RealisesAt (deployStep env) .done (.syncTransaction escrowId signedXdr faults)
      (syncTransactionUnder faults env.tw.toTrustlessWork (initializeSync escrowId signedXdr)) w := by
  refine Pool.realisesAt_bind rfl fun escrow w₁ _ => Pool.realisesAt_bind rfl fun result w₂ _ => ?_
  exact Pool.realisesAt_bind rfl fun _ w₃ _ => Pool.realises_last (fun _ => rfl) w₃

/-! ## Contracts that are carried -/

/-- The contract that the call has deployed and not written yet, with its order. -/
def DeployCall.carried : DeployCall → Option (String × String)
  | .fund d contractId | .write d contractId => some (uuid d.orderId, contractId)
  | .openUpdate dto _ _ _ contractId => some (uuid dto.orderId, contractId)
  | .syncStore _ _ _ escrow result => (result.contractId.filter (· ≠ "")).map fun c => (escrow.orderId, c)
  | _ => none

def Deployer.target : Deployer → Option (String × String)
  | .openEscrow dto _ _ existing => existing.map fun e => (e.escrowId, uuid dto.orderId)
  | .createOrder _ _ _ _ => none

/-- The row that the call has found, with its order. -/
def DeployCall.target : DeployCall → Option (String × String)
  | .build d | .broadcast d _ _ | .fund d _ | .write d _ => d.target
  | .openUpdate dto _ _ escrowId _ => some (escrowId, uuid dto.orderId)
  | .syncSend escrowId _ _ escrow | .syncStore escrowId _ _ escrow _ => some (uuid escrowId, escrow.orderId)
  | _ => none

/-- The order that the next step of the call deploys for. -/
def DeployCall.deploysFor (decode : String → Option Payload) : DeployCall → Option String
  | .broadcast d _ _ => some (uuid d.orderId)
  | .syncSend _ signedXdr _ _ => (decode signedXdr).map fun p => uuid p.engagementId
  | _ => none

/-- What a call can rely on: the row it has found is there and belongs to the order, the contract that it carries was
deployed for the order, and the transaction it broadcasts was built for it. -/
structure Relies (env : EscrowEnv χ) (deployed : χ → Deployments) (w : World χ) (c : DeployCall) : Prop where
  target : ∀ id k, c.target = some (id, k) → ∃ e, w.db.escrows.find? id = some e ∧ e.orderId = k
  carried : ∀ k cid, c.carried = some (k, cid) → ∃ q, (cid, q) ∈ deployed w.ext ∧ uuid q.engagementId = k
  built : ∀ d unsigned secret, c = .broadcast d unsigned secret →
    ∃ p, p.engagementId = d.orderId ∧ ∃ x, (env.tw.deployer p x).1 = .ok unsigned

/-- The rows stay with their orders and their contracts, but that the row of the order may take the new contract. -/
structure Assigns (new : Option (String × String)) (w w' : World χ) : Prop where
  kept : ∀ id e, w.db.escrows.find? id = some e → ∃ e', w'.db.escrows.find? id = some e' ∧ e'.orderId = e.orderId ∧
    (e'.contractId = e.contractId ∨ ∃ c, new = some (e.orderId, c) ∧ e'.contractId = some c)
  origin : ∀ e' ∈ w'.db.escrows.rows, ∀ c, e'.contractId = some c →
    (∃ e ∈ w.db.escrows.rows, e.orderId = e'.orderId ∧ e.contractId = some c) ∨ new = some (e'.orderId, c)

/-- The row of the order has the contract. -/
def StoredFor (w : World χ) (k c : String) : Prop := ∃ e ∈ w.db.escrows.rows, e.orderId = k ∧ e.contractId = some c

/-- What one step does. -/
structure Stepped (env : EscrowEnv χ) (decode : String → Option Payload) (deployed : χ → Deployments) (w : World χ)
    (c : DeployCall) (w' : World χ) (c' : DeployCall) : Prop where
  binds : Assigns c.carried w w'
  /-- nothing is deployed, and nothing new carried; or a contract is, for an order, and carried -/
  deploys : deployed w'.ext = deployed w.ext ∧ (c'.carried = none ∨ c'.carried = c.carried) ∨
    ∃ k cid q, c.deploysFor decode = some k ∧ uuid q.engagementId = k ∧ c.carried = none ∧
      c'.carried = some (k, cid) ∧ Deployed deployed w.ext w'.ext cid q
  delivers : ∀ k cid, c.carried = some (k, cid) → c' = .done ∨ c'.carried = some (k, cid) ∨ StoredFor w' k cid
  relies : Relies env deployed w' c'

variable {decode : String → Option Payload} {deployed : χ → Deployments} {w w' : World χ} {c c' : DeployCall}
  {new : Option (String × String)}

theorem Assigns.of_rows (h : w'.db.escrows.rows = w.db.escrows.rows) : Assigns new w w' where
  kept id e he := ⟨e, by unfold Table.find? at he ⊢; rw [h]; exact he, rfl, Or.inl rfl⟩
  origin e he c hc := Or.inl ⟨e, h ▸ he, rfl, hc⟩

/-- A new row with nothing, or with the new contract of its order. -/
theorem Assigns.of_insert {r : EscrowOnChain} (h : w.db.escrows.insert r = some w'.db.escrows)
    (hr : ∀ c, r.contractId = some c → new = some (r.orderId, c)) : Assigns new w w' where
  kept id e he := by
    obtain ⟨hmem, hkey⟩ := Table.find?_eq_some.mp he
    exact ⟨e, Table.find?_eq_some.mpr ⟨(Table.mem_insert h).mpr (Or.inl hmem), hkey⟩, rfl, Or.inl rfl⟩
  origin e he c hc := by
    rcases (Table.mem_insert h).mp he with hmem | rfl
    · exact Or.inl ⟨e, hmem, rfl, hc⟩
    · exact Or.inr (hr c hc)

/-- One row is rewritten. -/
theorem Assigns.of_update {id : String} {r : EscrowOnChain} {data : EscrowOnChain → EscrowOnChain}
    (hr : w.db.escrows.find? id = some r) (h : w'.db.escrows.rows = w.db.escrows.rows.map (Table.atKey id data))
    (hids : ∀ e, (data e).escrowId = e.escrowId ∧ (data e).orderId = e.orderId)
    (hdata : (data r).contractId = r.contractId ∨ ∃ c, new = some (r.orderId, c) ∧ (data r).contractId = some c) :
    Assigns new w w' where
  kept j e he := by
    have hfind : w'.db.escrows.find? j = (w.db.escrows.find? j).map (Table.atKey id data) :=
      Table.find?_map h (Table.atKey_column _ fun e => (hids e).1)
    refine ⟨Table.atKey id data e, by rw [hfind, he]; rfl, Table.atKey_column _ (fun e => (hids e).2) e, ?_⟩
    rcases Table.atKey_cases id data e with hsame | ⟨hkey, hsame⟩
    · exact Or.inl (by rw [hsame])
    · obtain rfl : r = e := by
        have hfe := Table.find?_eq_some.mpr ⟨(Table.find?_eq_some.mp he).1, hkey⟩
        exact Option.some.inj (hr.symm.trans hfe)
      rw [hsame]
      exact hdata
  origin e he c hc := by
    rcases of_mem_updated h hr he with ⟨hmem, -⟩ | rfl
    · exact Or.inl ⟨e, hmem, rfl, hc⟩
    · rcases hdata with hsame | ⟨c', hnew, hc'⟩
      · exact Or.inl ⟨r, (Table.find?_eq_some.mp hr).1, (hids r).2.symm, hsame ▸ hc⟩
      · rw [hc'] at hc
        obtain rfl : c' = c := Option.some.inj hc
        rw [(hids r).2]
        exact Or.inr hnew

theorem Relies.mono (h : Relies env deployed w c) (hb : Assigns new w w') (hg : Grows deployed w.ext w'.ext) :
    Relies env deployed w' c where
  target id k ht := by
    obtain ⟨e, he, hk⟩ := h.target id k ht
    obtain ⟨e', he', hk', -⟩ := hb.kept id e he
    exact ⟨e', he', hk'.trans hk⟩
  carried k cid hc := by
    obtain ⟨q, hq, hk⟩ := h.carried k cid hc
    exact ⟨q, hg.mem hq, hk⟩
  built := h.built

/-- A call that has found no row, carries nothing and broadcasts nothing. -/
theorem relies_nothing (ht : c.target = none) (hc : c.carried = none) (hb : ∀ d u s, c ≠ .broadcast d u s) :
    Relies env deployed w c := by
  refine ⟨fun id k h => ?_, fun k cid h => ?_, fun d u s h => absurd h (hb d u s)⟩
  · exact absurd (ht.symm.trans h) (Option.some_ne_none _).symm
  · exact absurd (hc.symm.trans h) (Option.some_ne_none _).symm

theorem relies_done : Relies env deployed w .done := by
  have ht : DeployCall.done.target = none := rfl
  have hc : DeployCall.done.carried = none := rfl
  have hb : ∀ d u s, DeployCall.done ≠ .broadcast d u s := fun d u s h => by cases h
  exact relies_nothing ht hc hb

theorem Stepped.grows (h : Stepped env decode deployed w c w' c') : Grows deployed w.ext w'.ext := by
  rcases h.deploys with ⟨hsame, -⟩ | ⟨k, cid, q, -, -, -, -, hdep⟩
  · exact Grows.of_same hsame
  · exact hdep.grows

section Await

variable {α : Type} {m : Service χ α} {k : α → DeployCall}

/-- A step that throws, and one that does not. -/
theorem stepped_of_run (herror : ∀ t w', m.run w = (.error t, w') → Stepped env decode deployed w c w' .done)
    (hok : ∀ a w', m.run w = (.ok a, w') → Stepped env decode deployed w c w' (k a)) :
    Stepped env decode deployed w c (Pool.await .done m k w).1 (Pool.await .done m k w).2 := by
  unfold Pool.await
  rcases hm : m.run w with ⟨r, w'⟩
  cases r with
  | ok a => exact hok a w' hm
  | error t => exact herror t w' hm

/-- A call that throws and deploys nothing. -/
theorem stepped_error (hb : Assigns c.carried w w') (hsame : deployed w'.ext = deployed w.ext) :
    Stepped env decode deployed w c w' .done :=
  ⟨hb, Or.inl ⟨hsame, Or.inl rfl⟩, fun _ _ _ => Or.inl rfl, relies_done⟩

/-- A call that throws and leaves everything, or goes on. -/
theorem stepped_of_cases (h : (∃ t, m.run w = (.error t, w)) ∨
      ∃ a w', m.run w = (.ok a, w') ∧ Stepped env decode deployed w c w' (k a)) :
    Stepped env decode deployed w c (Pool.await .done m k w).1 (Pool.await .done m k w).2 := by
  unfold Pool.await
  rcases h with ⟨t, hm⟩ | ⟨a, w', hm, hsteps⟩
  · rw [hm]
    exact stepped_error (Assigns.of_rows rfl) rfl
  · rw [hm]
    exact hsteps

/-- A step that leaves the escrows. -/
theorem stepped_quiet (hdb : (m.run w).2.db.escrows.rows = w.db.escrows.rows) (hsame : deployed (m.run w).2.ext = deployed w.ext)
    (hk : ∀ a w', m.run w = (.ok a, w') → (k a).carried = c.carried ∧ Relies env deployed w' (k a)) :
    Stepped env decode deployed w c (Pool.await .done m k w).1 (Pool.await .done m k w).2 := by
  refine stepped_of_run (fun t w' hm => ?_) fun a w' hm => ?_
  · rw [hm] at hdb hsame
    exact stepped_error (Assigns.of_rows hdb) hsame
  · obtain ⟨hcarried, hrelies⟩ := hk a w' hm
    rw [hm] at hdb hsame
    exact ⟨Assigns.of_rows hdb, Or.inl ⟨hsame, Or.inr hcarried⟩, fun o cid hc => Or.inr (Or.inl (hcarried.trans hc)),
      hrelies⟩

end Await

/-- A new row, or an error that leaves everything. -/
theorem insertRow_run (codec : AmountCodec) (freshId orderId : String) (dto : EscrowParameters) (status : EscrowStatus)
    (fault : Option Thrown) (w : World χ) :
    (∃ t, (faulty fault (prisma (createRow codec freshId orderId dto status))).run w = (.error t, w)) ∨
    ∃ amount db, (faulty fault (prisma (createRow codec freshId orderId dto status))).run w =
        (.ok (newEscrow freshId orderId dto amount status), { w with db := db }) ∧
      w.db.escrows.insert (newEscrow freshId orderId dto amount status) = some db.escrows := by
  rcases faulty_run fault (prisma (createRow codec freshId orderId dto status)) w with ⟨t, -, hrun⟩ | ⟨-, hrun⟩
  · exact Or.inl ⟨t, hrun⟩
  rw [hrun]
  cases hcreate : createRow codec freshId orderId dto status w.db with
  | error t => exact Or.inl ⟨t, prisma_run_error hcreate⟩
  | ok r =>
    obtain ⟨e, db⟩ := r
    have hok := prisma_run_ok (w := w) hcreate
    obtain ⟨amount, table, -, rfl, hinsert, rfl⟩ := createRow_eq_ok hcreate
    exact Or.inr ⟨amount, db, hok, hinsert⟩

/-! ### The steps of a backend deployment -/

theorem stepped_openEscrow (dto : OpenEscrowDto) (freshId : String) (faults : DbFaults) (w : World χ) :
    Stepped env decode deployed w (.openEscrow dto freshId faults)
      (deployStep env w (.openEscrow dto freshId faults)).1 (deployStep env w (.openEscrow dto freshId faults)).2 := by
  have hstate := findUndeployed_state faults.find dto.orderId w
  refine stepped_quiet (by rw [hstate]) (by rw [hstate]) fun existing w' hrun => ⟨rfl, ?_⟩
  obtain ⟨rfl, rfl, -⟩ := of_findUndeployed_ok hrun
  refine ⟨fun id k ht => ?_, (fun k cid hc => by cases hc), (fun d u s h => by cases h)⟩
  obtain ⟨e, he, heq⟩ := Option.map_eq_some_iff.mp
    (show (escrowByOrderId w'.db dto.orderId).map (fun e => (e.escrowId, uuid dto.orderId)) = some (id, k) from ht)
  obtain ⟨hmem, horder⟩ := escrowByOrderId_eq_some.mp he
  cases heq
  exact ⟨e, Table.find?_eq_some.mpr ⟨hmem, rfl⟩, horder⟩

theorem stepped_build (h : Deploys env.tw decode deployed) {d : Deployer} (hR : Relies env deployed w (.build d)) :
    Stepped env decode deployed w (.build d) (deployStep env w (.build d)).1 (deployStep env w (.build d)).2 := by
  obtain ⟨ext, hw, hsame, hbuilt⟩ := deployBuild_run h env.config d.orderId (d.deployDto env.codec) w
  refine stepped_quiet (by rw [hw]) (by rw [hw]; exact hsame) fun built w' hrun => ⟨rfl, ?_⟩
  rw [hrun] at hw hbuilt
  obtain rfl : w' = { w with ext := ext } := hw
  obtain ⟨p, hreq, x, hx⟩ := hbuilt built rfl
  refine ⟨fun id k ht => hR.target id k ht, (fun k cid hc => by cases hc), fun d' u s heq => ?_⟩
  cases heq
  exact ⟨p, (of_deployRequest_ok hreq).1, x, hx⟩

theorem stepped_broadcast (h : Deploys env.tw decode deployed) {d : Deployer} {unsigned secret : String}
    (hR : Relies env deployed w (.broadcast d unsigned secret)) :
    Stepped env decode deployed w (.broadcast d unsigned secret) (deployStep env w (.broadcast d unsigned secret)).1
      (deployStep env w (.broadcast d unsigned secret)).2 := by
  obtain ⟨p, hid, x, hx⟩ := hR.built d unsigned secret rfl
  obtain ⟨ext, hw, hcase⟩ := deployBroadcast_run h env.config secret ⟨x, hx⟩ w
  refine stepped_of_run (fun t w' hrun => ?_) fun cid w' hrun => ?_
  · rw [hrun] at hw hcase
    obtain rfl : w' = { w with ext := ext } := hw
    rcases hcase with ⟨-, hsame⟩ | ⟨cid, hc, -⟩
    · exact stepped_error (Assigns.of_rows rfl) hsame
    · cases hc
  · rw [hrun] at hw hcase
    obtain rfl : w' = { w with ext := ext } := hw
    rcases hcase with ⟨⟨t, ht⟩, -⟩ | ⟨cid', hc, hdep⟩
    · cases ht
    obtain rfl : cid = cid' := Except.ok.inj hc
    refine ⟨Assigns.of_rows rfl, Or.inr ⟨uuid d.orderId, cid, p, rfl, by rw [hid], rfl, rfl, hdep⟩,
      (fun k c hc => by cases hc), fun id k ht => hR.target id k ht, fun k c hc => ?_, (fun d' u s heq => by cases heq)⟩
    cases hc
    exact ⟨p, hdep.mem_iff.mpr rfl, by rw [hid]⟩

theorem stepped_fund (h : Deploys env.tw decode deployed) {d : Deployer} {cid : String}
    (hR : Relies env deployed w (.fund d cid)) :
    Stepped env decode deployed w (.fund d cid) (deployStep env w (.fund d cid)).1 (deployStep env w (.fund d cid)).2 := by
  obtain ⟨ext, hw, hsame⟩ := deployFund_run h cid (d.deployDto env.codec) w
  refine stepped_quiet (by rw [hw]) (by rw [hw]; exact hsame) fun unsigned w' hrun => ⟨rfl, ?_⟩
  rw [hrun] at hw
  obtain rfl : w' = { w with ext := ext } := hw
  refine ⟨fun id k ht => hR.target id k ht, fun k c hc => ?_, (fun d' u s heq => by cases heq)⟩
  obtain ⟨q, hq, hk⟩ := hR.carried k c hc
  exact ⟨q, hsame ▸ hq, hk⟩

theorem stepped_openCreate {dto : OpenEscrowDto} {freshId : String} {faults : DbFaults} {existing : Option EscrowOnChain}
    {cid : String} (hR : Relies env deployed w (.write (.openEscrow dto freshId faults existing) cid)) :
    Stepped env decode deployed w (.write (.openEscrow dto freshId faults existing) cid)
      (deployStep env w (.write (.openEscrow dto freshId faults existing) cid)).1
      (deployStep env w (.write (.openEscrow dto freshId faults existing) cid)).2 := by
  have hnext : ∀ (w' : World χ) (id : String), deployed w'.ext = deployed w.ext →
      (∃ e, w'.db.escrows.find? id = some e ∧ e.orderId = uuid dto.orderId) →
      Relies env deployed w' (.openUpdate dto faults existing.isNone id cid) := by
    intro w' id hsame hrow
    refine ⟨fun id k ht => ?_, fun k c hc => ?_, (fun d u s heq => by cases heq)⟩
    · cases ht
      exact hrow
    · obtain ⟨q, hq, hk⟩ := hR.carried k c hc
      exact ⟨q, hsame ▸ hq, hk⟩
  cases existing with
  | some e =>
    refine stepped_quiet rfl rfl fun a w' hrun => ⟨rfl, ?_⟩
    cases hrun
    exact hnext w e.escrowId rfl (hR.target e.escrowId _ rfl)
  | none =>
    refine stepped_of_cases ((insertRow_run env.codec freshId dto.orderId dto.toEscrowParameters .initialized faults.create
      w).imp_right ?_)
    rintro ⟨amount, db, hrun, hinsert⟩
    refine ⟨_, _, hrun, Assigns.of_insert hinsert (fun c hc => by cases hc), Or.inl ⟨rfl, Or.inr rfl⟩,
      fun k c hc => Or.inr (Or.inl hc), hnext _ _ rfl ?_⟩
    exact ⟨_, Table.find?_eq_some.mpr ⟨(Table.mem_insert hinsert).mpr (Or.inr rfl), rfl⟩, rfl⟩

theorem stepped_createTx {dto : CreateOrderDto} {orderId freshId cid : String} {faults : DbFaults} :
    Stepped env decode deployed w (.write (.createOrder dto orderId freshId faults) cid)
      (deployStep env w (.write (.createOrder dto orderId freshId faults) cid)).1
      (deployStep env w (.write (.createOrder dto orderId freshId faults) cid)).2 := by
  refine stepped_of_cases ?_
  rcases faulty_run faults.create (prisma (createTx env.codec orderId freshId cid dto)) w with
    ⟨t, -, hrun⟩ | ⟨-, hrun⟩
  · exact Or.inl ⟨t, hrun⟩
  cases hcreate : createTx env.codec orderId freshId cid dto w.db with
  | error t => exact Or.inl ⟨t, hrun.trans (prisma_run_error hcreate)⟩
  | ok r =>
    obtain ⟨o, db⟩ := r
    obtain ⟨amount, -, hinsert⟩ := of_createTx_ok hcreate
    refine Or.inr ⟨o, { w with db := db }, hrun.trans (prisma_run_ok hcreate), Assigns.of_insert hinsert fun c hc => ?_,
      Or.inl ⟨rfl, Or.inl rfl⟩, fun k c hc => Or.inr (Or.inr ?_), relies_nothing rfl rfl (fun d u s h => by cases h)⟩
    · cases hc
      rfl
    · cases hc
      exact ⟨_, (Table.mem_insert hinsert).mpr (Or.inr rfl), rfl, rfl⟩

theorem stepped_openUpdate {dto : OpenEscrowDto} {faults : DbFaults} {isNew : Bool} {escrowId cid : String}
    (hR : Relies env deployed w (.openUpdate dto faults isNew escrowId cid)) :
    Stepped env decode deployed w (.openUpdate dto faults isNew escrowId cid)
      (deployStep env w (.openUpdate dto faults isNew escrowId cid)).1
      (deployStep env w (.openUpdate dto faults isNew escrowId cid)).2 := by
  refine stepped_of_cases ?_
  rcases updateRow_run faults.update escrowId (storeContract cid) w with ⟨t, hrun, -⟩ | ⟨e, db, hrun, he, hrows⟩
  · exact Or.inl ⟨t, hrun⟩
  obtain ⟨e', he', horder⟩ := hR.target escrowId _ rfl
  obtain rfl : e = e' := Option.some.inj (he.symm.trans he')
  refine Or.inr ⟨_, { w with db := db }, hrun, Assigns.of_update he hrows (fun _ => ⟨rfl, rfl⟩) (Or.inr ⟨cid, ?_, rfl⟩),
    Or.inl ⟨rfl, Or.inl rfl⟩, fun k c hc => Or.inr (Or.inr ?_), relies_nothing rfl rfl (fun d u s h => by cases h)⟩
  · rw [horder]
    rfl
  · cases hc
    obtain ⟨hmem, hkey⟩ := Table.find?_eq_some.mp he
    refine ⟨storeContract cid e, ?_, horder, rfl⟩
    rw [hrows]
    exact List.mem_map.mpr ⟨e, hmem, Table.atKey_eq hkey⟩

/-- The audit row, at the end of a call. -/
theorem stepped_audit {α : Type} {m : Service χ α} (hc : c.carried = none)
    (h : ∃ a db, m.run w = (.ok a, { w with db := db }) ∧ Rewritten id id w.db db) :
    Stepped env decode deployed w c (Pool.await .done m (fun _ => DeployCall.done) w).1
      (Pool.await .done m (fun _ => DeployCall.done) w).2 := by
  obtain ⟨a, db, hrun, hre⟩ := h
  have hrows : db.escrows.rows = w.db.escrows.rows := by rw [hre.escrows, List.map_id]
  refine stepped_quiet (by rw [hrun]; exact hrows) (by rw [hrun]) fun _ w' _ => ⟨?_, relies_done⟩
  rw [hc]
  rfl

/-! ### The steps of `initialize` -/

theorem stepped_initializeBuild (h : Deploys env.tw decode deployed) (dto : InitializeEscrowDto) (freshId : String)
    (faults : DbFaults) (w : World χ) : Stepped env decode deployed w (.initializeBuild dto freshId faults)
      (deployStep env w (.initializeBuild dto freshId faults)).1
      (deployStep env w (.initializeBuild dto freshId faults)).2 := by
  obtain ⟨ext, hw, hsame⟩ := initializeBuild_run h dto w
  refine stepped_quiet (by rw [hw]) (by rw [hw]; exact hsame) fun _ w' _ => ⟨rfl, ?_⟩
  exact relies_nothing rfl rfl (fun d u s h => by cases h)

theorem stepped_initializeFind (dto : InitializeEscrowDto) (freshId : String) (faults : DbFaults) (w : World χ) :
    Stepped env decode deployed w (.initializeFind dto freshId faults)
      (deployStep env w (.initializeFind dto freshId faults)).1
      (deployStep env w (.initializeFind dto freshId faults)).2 := by
  have hstate : ((faulty faults.findAgain (EscrowService.findByOrder dto.orderId)).run w).2 = w := by
    rcases faulty_findByOrder_run faults.findAgain dto.orderId w with ⟨t, hrun⟩ | hrun <;> rw [hrun]
  refine stepped_quiet (by rw [hstate]) (by rw [hstate]) fun found w' _ => ⟨rfl, ?_⟩
  exact relies_nothing rfl rfl (fun d u s h => by cases h)

/-- A row that was there keeps its contract. -/
theorem stepped_initializeStore (dto : InitializeEscrowDto) (freshId : String) (faults : DbFaults)
    (found : Option EscrowOnChain) (w : World χ) : Stepped env decode deployed w (.initializeStore dto freshId faults found)
      (deployStep env w (.initializeStore dto freshId faults found)).1
      (deployStep env w (.initializeStore dto freshId faults found)).2 := by
  have hlast : ∀ (e : EscrowOnChain) (db : Db), Assigns none w { w with db := db } →
      Stepped env decode deployed w (.initializeStore dto freshId faults found) { w with db := db }
        (.initializeAudit dto faults found.isNone e.escrowId) := fun e db hb =>
    ⟨hb, Or.inl ⟨rfl, Or.inl rfl⟩, (fun k c hc => by cases hc), relies_nothing rfl rfl (fun d u s h => by cases h)⟩
  cases found with
  | none =>
    refine stepped_of_cases ((insertRow_run env.codec freshId dto.orderId dto.toEscrowParameters .pending faults.create
      w).imp_right ?_)
    rintro ⟨amount, db, hrun, hinsert⟩
    exact ⟨_, _, hrun, hlast _ db (Assigns.of_insert hinsert (fun c hc => by cases hc))⟩
  | some e =>
    refine stepped_of_cases ?_
    cases hamount : env.codec.decimalOfNumber dto.amount with
    | none =>
      have hthrow : updateParameters env.codec e.escrowId dto.toEscrowParameters w.db = .error (.prisma .validation) := by
        rw [updateParameters, hamount]
      rcases faulty_run faults.update (prisma (updateParameters env.codec e.escrowId dto.toEscrowParameters)) w with
        ⟨t, -, hrun⟩ | ⟨-, hrun⟩
      · exact Or.inl ⟨t, hrun⟩
      · exact Or.inl ⟨_, hrun.trans (prisma_run_error hthrow)⟩
    | some amount =>
      have hupdate : updateParameters env.codec e.escrowId dto.toEscrowParameters =
          Prisma.escrowOnChain.update e.escrowId (reparametrise dto.toEscrowParameters amount) := by
        unfold updateParameters
        rw [hamount]
      rw [initializeStore, hupdate]
      rcases updateRow_run faults.update e.escrowId (reparametrise dto.toEscrowParameters amount) w with
        ⟨t, hrun, -⟩ | ⟨e', db, hrun, he', hrows⟩
      · exact Or.inl ⟨t, hrun⟩
      · exact Or.inr ⟨_, _, hrun, hlast _ db (Assigns.of_update he' hrows (fun _ => ⟨rfl, rfl⟩) (Or.inl rfl))⟩

/-! ### The steps of a sync call -/

theorem stepped_syncTransaction (escrowId signedXdr : String) (faults : DbFaults) (w : World χ) :
    Stepped env decode deployed w (.syncTransaction escrowId signedXdr faults)
      (deployStep env w (.syncTransaction escrowId signedXdr faults)).1
      (deployStep env w (.syncTransaction escrowId signedXdr faults)).2 := by
  have hstate : ((faulty faults.find (syncCheck (initializeSync escrowId signedXdr))).run w).2 = w := by
    rcases faulty_run faults.find (syncCheck (initializeSync escrowId signedXdr)) w with ⟨t, -, hrun⟩ | ⟨-, hrun⟩
    · rw [hrun]
    · rw [hrun, syncCheck_state]
  refine stepped_quiet (by rw [hstate]) (by rw [hstate]) fun e w' hrun => ⟨rfl, ?_⟩
  obtain ⟨-, hcheck⟩ := of_faulty_ok hrun
  obtain ⟨rfl, he, -⟩ := syncCheck_eq_ok.mp hcheck
  refine ⟨fun id k ht => ?_, (fun k cid hc => by cases hc), (fun d u s h => by cases h)⟩
  cases ht
  exact ⟨e, he, rfl⟩

theorem stepped_syncSend (h : Deploys env.tw decode deployed) {escrowId signedXdr : String} {faults : DbFaults} {escrow : EscrowOnChain}
    (hR : Relies env deployed w (.syncSend escrowId signedXdr faults escrow))
    (hown : ∀ q, decode signedXdr = some q → uuid q.engagementId = escrow.orderId) :
    Stepped env decode deployed w (.syncSend escrowId signedXdr faults escrow)
      (deployStep env w (.syncSend escrowId signedXdr faults escrow)).1
      (deployStep env w (.syncSend escrowId signedXdr faults escrow)).2 := by
  have hw := syncSend_run env.tw.toTrustlessWork (initializeSync escrowId signedXdr) w
  refine stepped_of_run (fun t w' hrun => ?_) fun result w' hrun => ?_
  · rw [hrun] at hw
    obtain rfl : w' = _ := hw
    refine stepped_error (Assigns.of_rows rfl) (h.refused signedXdr w.ext fun r hr hs => ?_)
    have hok : (syncSend env.tw.toTrustlessWork (initializeSync escrowId signedXdr)).run w =
        (.ok r, { w with ext := (env.tw.sendTransaction signedXdr w.ext).2 }) := of_syncSend_answered hr hs
    rw [hok] at hrun
    cases hrun
  · obtain ⟨hanswer, hs⟩ := of_syncSend_ok (by rw [hrun])
    rw [hrun] at hw
    obtain rfl : w' = _ := hw
    cases hp : decode signedXdr with
    | none =>
      obtain ⟨hnone, hsame⟩ := h.others signedXdr w.ext result hanswer hs hp
      have hcarried : (DeployCall.syncStore escrowId signedXdr faults escrow result).carried = none := by
        rw [DeployCall.carried, hnone]
        rfl
      refine ⟨Assigns.of_rows rfl, Or.inl ⟨hsame, Or.inl hcarried⟩, (fun k c hc => by cases hc),
        fun id k ht => hR.target id k ht, fun k c hc => ?_, (fun d u s h => by cases h)⟩
      rw [hcarried] at hc
      cases hc
    | some p =>
      obtain ⟨cid, hid, hne, hfresh, hchain⟩ := h.deploys signedXdr w.ext result p hanswer hs hp
      have hdep : Deployed deployed w.ext (env.tw.sendTransaction signedXdr w.ext).2 cid p := ⟨hchain, hfresh, hne⟩
      have hcarried : (DeployCall.syncStore escrowId signedXdr faults escrow result).carried = some (escrow.orderId, cid) := by
        rw [DeployCall.carried, hid, Option.filter_some, if_pos (decide_eq_true hne)]
        rfl
      refine ⟨Assigns.of_rows rfl, Or.inr ⟨escrow.orderId, cid, p, ?_, hown p hp, rfl, hcarried, hdep⟩,
        (fun k c hc => by cases hc), fun id k ht => hR.target id k ht, fun k c hc => ?_, (fun d u s h => by cases h)⟩
      · rw [DeployCall.deploysFor, hp, Option.map_some, hown p hp]
      · rw [hcarried] at hc
        cases hc
        exact ⟨p, hdep.mem_iff.mpr rfl, hown p hp⟩

theorem stepped_syncStore {escrowId signedXdr : String} {faults : DbFaults} {escrow : EscrowOnChain}
    {result : SendTransactionResponse}
    (hR : Relies env deployed w (.syncStore escrowId signedXdr faults escrow result)) :
    Stepped env decode deployed w (.syncStore escrowId signedXdr faults escrow result)
      (deployStep env w (.syncStore escrowId signedXdr faults escrow result)).1
      (deployStep env w (.syncStore escrowId signedXdr faults escrow result)).2 := by
  refine stepped_of_cases ?_
  rcases faulty_run faults.update (syncStore (initializeSync escrowId signedXdr) result) w with
    ⟨t, -, hrun⟩ | ⟨-, hrun⟩
  · exact Or.inl ⟨t, hrun⟩
  rw [hrun]
  refine (syncStore_cases (initializeSync escrowId signedXdr) result w).imp_right ?_
  rintro ⟨e, db, hrun, he, hre⟩
  obtain ⟨e', he', horder⟩ := hR.target (uuid escrowId) escrow.orderId rfl
  obtain rfl : e = e' := Option.some.inj (he.symm.trans he')
  have hcontract : (syncData (initializeSync escrowId signedXdr) result e).contractId =
      (result.contractId.filter (· ≠ "")).or e.contractId := rfl
  have hids := syncData_ids (initializeSync escrowId signedXdr) result
  refine ⟨_, _, hrun, Assigns.of_update he hre.escrows hids ?_, Or.inl ⟨rfl, Or.inl rfl⟩, fun k c hc => ?_,
    relies_nothing rfl rfl (fun d u s h => by cases h)⟩
  · rw [hcontract, DeployCall.carried, horder]
    cases result.contractId.filter (· ≠ "") with
    | none => exact Or.inl rfl
    | some cid => exact Or.inr ⟨cid, rfl, rfl⟩
  · obtain ⟨cid, hcid, heq⟩ := Option.map_eq_some_iff.mp
      (show (result.contractId.filter (· ≠ "")).map (fun c => (escrow.orderId, c)) = some (k, c) from hc)
    cases heq
    obtain ⟨hmem, hkey⟩ := Table.find?_eq_some.mp he
    refine Or.inr (Or.inr ⟨syncData (initializeSync escrowId signedXdr) result e, ?_, (hids e).2.trans horder, ?_⟩)
    · show _ ∈ db.escrows.rows
      rw [hre.escrows]
      exact List.mem_map.mpr ⟨e, hmem, Table.atKey_eq hkey⟩
    · rw [hcontract, hcid, Option.some_or]

/-- **What a step does.** -/
theorem deployStep_stepped (h : Deploys env.tw decode deployed) (hR : Relies env deployed w c)
    (hown : ∀ escrowId xdr faults escrow p, c = .syncSend escrowId xdr faults escrow → decode xdr = some p →
      uuid p.engagementId = escrow.orderId) :
    Stepped env decode deployed w c (deployStep env w c).1 (deployStep env w c).2 := by
  cases c with
  | openEscrow dto freshId faults => exact stepped_openEscrow dto freshId faults w
  | build d => exact stepped_build h hR
  | broadcast d unsigned secret => exact stepped_broadcast h hR
  | fund d cid => exact stepped_fund h hR
  | write d cid =>
    cases d with
    | openEscrow dto freshId faults existing => exact stepped_openCreate hR
    | createOrder dto orderId freshId faults => exact stepped_createTx
  | openUpdate dto faults isNew escrowId cid => exact stepped_openUpdate hR
  | openAudit dto faults isNew escrowId cid =>
    obtain ⟨db, hrun, hre⟩ := openAudit_run dto isNew escrowId cid faults.audit w
    exact stepped_audit rfl ⟨(), db, hrun, hre⟩
  | orderAudit dto orderId faults =>
    obtain ⟨db, hrun, hre⟩ := recordUnless_run faults.audit (OrderService.createdEntry orderId dto) w
    exact stepped_audit rfl ⟨(), db, hrun, hre⟩
  | initializeEscrow dto freshId faults =>
    have hstate := initializeCheck_state dto faults.find w
    refine stepped_quiet (by rw [hstate]) (by rw [hstate]) fun _ w' _ => ⟨rfl, ?_⟩
    exact relies_nothing rfl rfl (fun d u s h => by cases h)
  | initializeBuild dto freshId faults => exact stepped_initializeBuild h dto freshId faults w
  | initializeFind dto freshId faults => exact stepped_initializeFind dto freshId faults w
  | initializeStore dto freshId faults found => exact stepped_initializeStore dto freshId faults found w
  | initializeAudit dto faults isNew escrowId =>
    obtain ⟨db, hrun, hre⟩ := initializeAudit_run dto isNew escrowId faults.audit w
    exact stepped_audit rfl ⟨(), db, hrun, hre⟩
  | syncTransaction escrowId signedXdr faults => exact stepped_syncTransaction escrowId signedXdr faults w
  | syncSend escrowId signedXdr faults escrow =>
    exact stepped_syncSend h hR fun q hq => hown _ _ _ _ q rfl hq
  | syncStore escrowId signedXdr faults escrow result => exact stepped_syncStore hR
  | syncAudit escrowId signedXdr escrow result =>
    obtain ⟨r, db, hrun, hre⟩ := syncAudit_run (initializeSync escrowId signedXdr) escrow result w
    exact stepped_audit rfl ⟨r, db, hrun, hre⟩
  | done =>
    exact ⟨Assigns.of_rows rfl, Or.inl ⟨rfl, Or.inl rfl⟩, fun _ _ _ => Or.inl rfl, relies_done⟩

/-! ## Runs -/

inductive DeployOp where
  | openEscrow (dto : OpenEscrowDto) (freshId : String) (faults : DbFaults)
  | initializeEscrow (dto : InitializeEscrowDto) (freshId : String) (faults : DbFaults)
  | createOrder (dto : CreateOrderDto) (orderId freshId : String) (faults : DbFaults)
  | syncInitialize (escrowId signedXdr : String) (faults : DbFaults)

def DeployOp.call : DeployOp → DeployCall
  | .openEscrow dto freshId faults => .openEscrow dto freshId faults
  | .initializeEscrow dto freshId faults => .initializeEscrow dto freshId faults
  | .createOrder dto orderId freshId faults => .build (.createOrder dto orderId freshId faults)
  | .syncInitialize escrowId signedXdr faults => .syncTransaction escrowId signedXdr faults

/-- The requests that have come in. -/
def received (w : World χ) (ops : ℕ → DeployOp) : Pool (World χ) DeployCall := ⟨w, fun i => (ops i).call⟩

end IKash
