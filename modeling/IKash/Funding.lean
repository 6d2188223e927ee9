import IKash.Desk
import IKash.EscrowRequests

/-!
# Funding what was deployed

Runs of the desk together with `fund`, with every funding request written down as Trustless Work gets it (`recording`).
The amount comes from the client again, and `fund` compares it with nothing.

- `asked_run`: what is written down changes nothing of the run;
- `deployEscrowToChain_requests`: the request that follows a deployment is for the milestones that were deployed;
- `requests_match_iff`: every request of a run is for the milestones of its contract exactly if every `fund` that is not
  refused gives their sum;
- `requests_deployed`: every request is for a contract that was deployed.
-/

namespace IKash

open Lib EscrowService OrderService StellarListenerService

variable {χ α β : Type}

/-- The state of Trustless Work, with the requests to fund a contract and the states it got them in. -/
structure Asked (χ : Type) where
  state : χ
  requests : List (χ × FundEscrowPayload)

/-- The answer of `call`, with the requests kept. -/
def Asked.answer {ρ : Type} (call : χ → ρ × χ) (x : Asked χ) : ρ × Asked χ :=
  ((call x.state).1, { x with state := (call x.state).2 })

/-- Trustless Work, with the requests to fund written down. -/
def TrustlessWorkService.recording (tw : TrustlessWorkService χ) : TrustlessWorkService (Asked χ) where
  deployer p := Asked.answer (tw.deployer p)
  fundEscrow p x :=
    ((tw.fundEscrow p x.state).1, ⟨(tw.fundEscrow p x.state).2, x.requests ++ [(x.state, p)]⟩)
  changeMilestoneStatus p := Asked.answer (tw.changeMilestoneStatus p)
  sign := tw.sign
  sendTransaction xdr := Asked.answer (tw.sendTransaction xdr)
  getEscrowBalance c := Asked.answer (tw.getEscrowBalance c)

def EscrowEnv.recording (env : EscrowEnv χ) : EscrowEnv (Asked χ) := ⟨env.tw.recording, env.config, env.codec⟩

inductive FundingOp where
  | desk (op : DeskOp)
  | fund (dto : FundEscrowDto)

def FundingOp.service (env : EscrowEnv χ) : FundingOp → Service χ Unit
  | .desk op => op.service env
  | .fund dto => (fun _ => ()) <$> EscrowService.fund env.tw dto

def fundingDesk (env : EscrowEnv χ) : Machine (World χ) FundingOp (Except Thrown Unit) where
  step w op := (op.service env).run w

/-! ## The record changes nothing -/

/-- The world without the record. -/
def World.erase (w : World (Asked χ)) : World χ where
  db := w.db
  now := w.now
  issued := w.issued
  listeners := w.listeners
  ext := w.ext.state

/-- The world with an empty record. -/
def World.asked (w : World χ) : World (Asked χ) where
  db := w.db
  now := w.now
  issued := w.issued
  listeners := w.listeners
  ext := ⟨w.ext, []⟩

/-- The requests that `Q` holds of are all that is written down. -/
def WritesDown (Q : χ × FundEscrowPayload → Prop) (w w' : World (Asked χ)) : Prop :=
  ∃ new, w'.ext.requests = w.ext.requests ++ new ∧ ∀ r ∈ new, Q r

/-- The same service with and without the record, which only writes down requests that `Q` holds of. -/
structure Records (Q : χ × FundEscrowPayload → Prop) (m' : Service (Asked χ) α) (m : Service χ α) : Prop where
  erases : Svc.Erases World.erase m' m
  writes : Svc.Moves (WritesDown Q) m'

section Records

variable {Q : χ × FundEscrowPayload → Prop} {env : EscrowEnv χ} {m' : Service (Asked χ) α} {m : Service χ α}

theorem WritesDown.of_same {w w' : World (Asked χ)} (h : w'.ext.requests = w.ext.requests) : WritesDown Q w w' :=
  ⟨[], by rw [h, List.append_nil], fun r hr => by cases hr⟩

theorem WritesDown.trans {a b c : World (Asked χ)} (hab : WritesDown Q a b) (hbc : WritesDown Q b c) : WritesDown Q a c := by
  obtain ⟨xs, hb, hxs⟩ := hab
  obtain ⟨ys, hc, hys⟩ := hbc
  refine ⟨xs ++ ys, by rw [hc, hb, List.append_assoc], fun r hr => ?_⟩
  rcases List.mem_append.mp hr with hr | hr
  · exact hxs r hr
  · exact hys r hr

theorem WritesDown.refl (w : World (Asked χ)) : WritesDown Q w w := WritesDown.of_same rfl

namespace Records

theorem pure (a : α) : Records Q (pure a : Service (Asked χ) α) (pure a) :=
  ⟨Svc.Erases.pure a, Svc.Moves.pure WritesDown.refl a⟩

theorem throw (t : Thrown) : Records Q (Svc.throw t : Service (Asked χ) α) (Svc.throw t) :=
  ⟨Svc.Erases.throw t, Svc.Moves.throw WritesDown.refl t⟩

theorem ofExcept (r : Except Thrown α) : Records Q (Svc.ofExcept r : Service (Asked χ) α) (Svc.ofExcept r) :=
  ⟨Svc.Erases.ofExcept r, Svc.Moves.ofExcept WritesDown.refl r⟩

theorem throwIf (c : Prop) [Decidable c] (t : Thrown) :
    Records Q (Svc.throwIf c t : Service (Asked χ) Unit) (Svc.throwIf c t) :=
  ⟨Svc.Erases.throwIf c t, Svc.Moves.throwIf WritesDown.refl c t⟩

theorem orThrow (o : Option α) (t : Thrown) :
    Records Q (Svc.orThrow o t : Service (Asked χ) α) (Svc.orThrow o t) :=
  ⟨Svc.Erases.orThrow o t, Svc.Moves.orThrow WritesDown.refl o t⟩

theorem bind {f' : α → Service (Asked χ) β} {f : α → Service χ β} (hm : Records Q m' m)
    (hf : ∀ a, Records Q (f' a) (f a)) : Records Q (m' >>= f') (m >>= f) :=
  ⟨hm.erases.bind fun a => (hf a).erases, Svc.Moves.bind WritesDown.trans hm.writes fun a => (hf a).writes⟩

theorem map (g : α → β) (hm : Records Q m' m) : Records Q (g <$> m') (g <$> m) := hm.bind fun a => pure (g a)

/-- What the rest of a service reads of the world is there without the record. -/
theorem get_bind {f' : World (Asked χ) → Service (Asked χ) α} {f : World χ → Service χ α}
    (h : ∀ w, Records Q (f' w) (f w.erase)) : Records Q (Svc.get >>= f') (Svc.get >>= f) :=
  ⟨fun w => (h w).erases w, fun w => (h w).writes w⟩

/-- A service that does not touch what is outside. -/
theorem of_inside (h : Svc.Erases World.erase m' m) (hext : ∀ w, (m'.run w).2.ext = w.ext) : Records Q m' m :=
  ⟨h, fun w => WritesDown.of_same (by rw [hext])⟩

theorem prisma (tx : Tx α) : Records Q (IKash.prisma tx : Service (Asked χ) α) (IKash.prisma tx) := by
  refine of_inside (fun w => ?_) fun w => ?_
  · cases h : tx w.db with
    | ok r => rw [prisma_run_ok h, prisma_run_ok (w := w.erase) h]; rfl
    | error e => rw [prisma_run_error h, prisma_run_error (w := w.erase) h]
  · cases h : tx w.db with
    | ok r => rw [prisma_run_ok h]
    | error e => rw [prisma_run_error h]

theorem audit (entry : AuditLog) :
    Records Q (AuditLogService.create entry : Service (Asked χ) Unit) (AuditLogService.create entry) := by
  refine of_inside (fun w => ?_) fun w => ?_
  · unfold AuditLogService.create
    rw [Svc.run_modify, Svc.run_modify]
    cases h : Prisma.auditLog.create entry w.db with
    | ok r => simp only [World.erase, h]
    | error e => simp only [World.erase, h]
  · obtain ⟨db, hrun, -⟩ := AuditLogService.create_run entry w
    rw [hrun]

/-- A call whose answer is not written down. -/
theorem answer (call : χ → Except Thrown α × χ) : Records Q (external (Asked.answer call)) (external call) :=
  ⟨fun _ => rfl, fun _ => WritesDown.of_same rfl⟩

theorem faulty (fault : Option Thrown) (h : Records Q m' m) :
    Records Q (IKash.faulty fault m') (IKash.faulty fault m) := by
  cases fault with
  | some t => exact throw t
  | none => exact h

theorem recordUnless (fault : Option Thrown) (entry : AuditLog) :
    Records Q (IKash.recordUnless fault entry : Service (Asked χ) Unit)
      (IKash.recordUnless fault entry) := by
  cases fault with
  | some t => exact pure ()
  | none => exact audit entry

theorem getOrFail (id : String) :
    Records Q (EscrowService.getOrFail id : Service (Asked χ) EscrowOnChain) (EscrowService.getOrFail id) :=
  (prisma _).bind fun o => orThrow o _

end Records

theorem findUndeployed_records (fault : Option Thrown) (orderId : String) :
    Records Q (findUndeployed fault orderId : Service (Asked χ) _) (findUndeployed fault orderId) :=
  ((Records.prisma _).faulty fault).bind fun e => (Records.throwIf _ _).bind fun _ => Records.pure e

theorem initialize_records (payload : Payload) :
    Records Q (env.recording.tw.initializeEscrow payload) (env.tw.initializeEscrow payload) :=
  (Records.throwIf _ _).bind fun _ => Records.answer _

/-! ### A deployment -/

theorem deployBuild_records (orderId : String) (dto : DeployDto) :
    Records Q (deployBuild env.recording.tw env.recording.config orderId dto)
      (deployBuild env.tw env.config orderId dto) :=
  (Records.ofExcept _).bind fun request => (initialize_records request.1).bind fun _ => Records.pure _

theorem deployBroadcast_records (unsigned secret : String) :
    Records Q (deployBroadcast env.recording.tw env.recording.config unsigned secret)
      (deployBroadcast env.tw env.config unsigned secret) :=
  (Records.ofExcept _).bind fun _ => (Records.answer _).bind fun _ => (Records.throwIf _ _).bind fun _ =>
    Records.orThrow _ _

/-- A deployment writes the request of `deployFund` down. -/
theorem deployEscrowToChain_erases (orderId : String) (dto : DeployDto) :
    Svc.Erases World.erase (deployEscrowToChain env.recording.tw env.recording.config orderId dto)
      (deployEscrowToChain env.tw env.config orderId dto) := by
  have hbuild : Records (fun _ => True) (deployBuild env.recording.tw env.recording.config orderId dto)
      (deployBuild env.tw env.config orderId dto) := deployBuild_records orderId dto
  refine hbuild.erases.bind fun built => ?_
  have hbroadcast : Records (fun _ => True) (deployBroadcast env.recording.tw env.recording.config built.1 built.2)
      (deployBroadcast env.tw env.config built.1 built.2) := deployBroadcast_records built.1 built.2
  refine hbroadcast.erases.bind fun contractId => ?_
  have hfund : Svc.Erases World.erase (deployFund env.recording.tw contractId dto) (deployFund env.tw contractId dto) :=
    fun _ => rfl
  exact hfund.bind fun _ => Svc.Erases.pure _

/-! ### The calls -/

theorem open_records {dto : OpenEscrowDto} {faults : DbFaults} (freshId : String) (hdeploy : Svc.Moves (WritesDown Q)
      (deployEscrowToChain env.recording.tw env.recording.config dto.orderId dto.deployDto)) :
    Records Q (EscrowService.openEscrow env.recording.tw env.recording.config env.recording.codec dto freshId faults)
      (EscrowService.openEscrow env.tw env.config env.codec dto freshId faults) := by
  have hcreate : ∀ existing, Records Q (openCreate env.codec dto freshId faults.create existing : Service (Asked χ) _)
      (openCreate env.codec dto freshId faults.create existing) := by
    intro existing
    cases existing with
    | some e => exact Records.pure e
    | none => exact (Records.prisma _).faulty _
  have haudit : ∀ isNew escrowId contractId,
      Records Q (openAudit dto isNew escrowId contractId faults.audit : Service (Asked χ) Unit)
        (openAudit dto isNew escrowId contractId faults.audit) := by
    intro isNew escrowId contractId
    unfold openAudit
    split
    · exact Records.recordUnless _ _
    · exact Records.pure ()
  refine (findUndeployed_records _ _).bind fun existing => ?_
  refine Records.bind ⟨deployEscrowToChain_erases _ _, hdeploy⟩ fun deployed => ?_
  refine (hcreate existing).bind fun escrow => ?_
  exact ((Records.prisma _).faulty _).bind fun _ => (haudit _ _ _).bind fun _ => Records.pure _

theorem initializeEscrow_records (dto : InitializeEscrowDto) (freshId : String) (faults : DbFaults) :
    Records Q
      (EscrowService.initializeEscrow env.recording.tw env.recording.config env.recording.codec dto freshId faults)
      (EscrowService.initializeEscrow env.tw env.config env.codec dto freshId faults) := by
  have hstore : ∀ found, Records Q (initializeStore env.codec dto freshId faults found : Service (Asked χ) _)
      (initializeStore env.codec dto freshId faults found) := by
    intro found
    cases found with
    | none => exact (Records.prisma _).faulty _
    | some e => exact (Records.prisma _).faulty _
  have haudit : ∀ isNew escrowId,
      Records Q (initializeAudit dto isNew escrowId faults.audit : Service (Asked χ) Unit)
        (initializeAudit dto isNew escrowId faults.audit) := by
    intro isNew escrowId
    unfold initializeAudit
    split
    · exact Records.recordUnless _ _
    · exact Records.pure ()
  refine Records.bind ((Records.ofExcept _).bind fun _ => findUndeployed_records _ _) fun _ => ?_
  refine Records.bind ((Records.ofExcept _).bind fun payload => initialize_records payload) fun _ => ?_
  refine ((Records.prisma _).faulty _).bind fun found => (hstore found).bind fun _ => ?_
  exact (haudit _ _).bind fun _ => Records.pure _

theorem createOrder_records {dto : CreateOrderDto} {orderId : String} {faults : DbFaults} (freshId : String)
    (hdeploy : Svc.Moves (WritesDown Q) (deployEscrowToChain env.recording.tw env.recording.config orderId
      (OrderService.deployDto env.codec orderId dto))) :
    Records Q (OrderService.create env.recording.tw env.recording.config env.recording.codec dto orderId freshId faults)
      (OrderService.create env.tw env.config env.codec dto orderId freshId faults) := by
  refine Records.bind ⟨deployEscrowToChain_erases _ _, hdeploy⟩ fun _ => ?_
  exact ((Records.prisma _).faulty _).bind fun _ => (Records.recordUnless _ _).bind fun _ => Records.pure _

theorem sync_records (dto : SyncEscrowDto) :
    Records Q (EscrowService.syncTransaction env.recording.tw.toTrustlessWork dto)
      (EscrowService.syncTransaction env.tw.toTrustlessWork dto) := by
  have hcheck : Records Q (syncCheck dto : Service (Asked χ) EscrowOnChain) (syncCheck dto) :=
    (Records.getOrFail _).bind fun _ => (Records.ofExcept _).bind fun _ => Records.pure _
  have hsend : Records Q (syncSend env.recording.tw.toTrustlessWork dto) (syncSend env.tw.toTrustlessWork dto) :=
    (Records.answer _).bind fun _ => (Records.throwIf _ _).bind fun _ => Records.pure _
  have haudit : ∀ escrow result, Records Q (syncAudit dto escrow result : Service (Asked χ) SyncResponse)
      (syncAudit dto escrow result) := by
    intro escrow result
    refine Records.bind ?_ fun _ => Records.pure _
    cases syncEntry dto (result.contractId.or escrow.contractId) with
    | none => exact Records.pure ()
    | some entry => exact Records.audit entry
  exact hcheck.bind fun escrow => hsend.bind fun result => (Records.prisma _).bind fun _ => haudit escrow result

theorem processEvent_records (inst : ℕ) (fault : Option Thrown) (event : OnChainEscrowEvent) :
    Records Q (StellarListenerService.processEvent inst fault event : Service (Asked χ) Bool)
      (StellarListenerService.processEvent inst fault event) := by
  have hremember : Records Q (Svc.modify (remember inst event) : Service (Asked χ) Unit)
      (Svc.modify (remember inst event)) := Records.of_inside (fun _ => rfl) fun _ => rfl
  have hcommit : ∀ escrow, Records Q (commitEvent fault event escrow : Service (Asked χ) Unit)
      (commitEvent fault event escrow) := by
    intro escrow
    cases fault with
    | some t => exact Records.throw t
    | none => exact Records.prisma _
  have hfound : ∀ escrow, Records Q (processFound inst fault event escrow : Service (Asked χ) Bool)
      (processFound inst fault event escrow) := by
    intro escrow
    unfold processFound
    split
    · exact hremember.bind fun _ => Records.pure false
    · exact (Records.ofExcept _).bind fun _ => (hcommit escrow).bind fun _ => hremember.bind fun _ => Records.pure true
  have hrecord : Records Q (findEscrowRecord event : Service (Asked χ) _) (findEscrowRecord event) := by
    refine (Records.prisma _).bind fun found => ?_
    cases found with
    | some e => exact Records.pure _
    | none => exact Records.prisma _
  unfold StellarListenerService.processEvent
  refine Records.get_bind fun w => ?_
  by_cases hseen : eventKey event ∈ (w.listeners inst).processedEventIds
  · rw [if_pos hseen, if_pos (show _ ∈ (w.erase.listeners inst).processedEventIds from hseen)]
    exact Records.pure false
  · rw [if_neg hseen, if_neg (show _ ∉ (w.erase.listeners inst).processedEventIds from hseen)]
    refine hrecord.bind fun found => ?_
    cases found with
    | none => exact Records.pure false
    | some escrow => exact hfound escrow

theorem createEscrow_records (dto : CreateEscrowDto) (freshId : String) :
    Records Q (EscrowService.create dto freshId : Service (Asked χ) EscrowOnChain)
      (EscrowService.create dto freshId) := by
  unfold EscrowService.create
  exact (Records.prisma _).bind fun _ => (Records.throwIf _ _).bind fun _ => Records.prisma _

/-- Every call that does not ask for a funding itself. -/
theorem desk_records (env : EscrowEnv χ) (hdeploy : ∀ orderId dto,
    Svc.Moves (WritesDown Q) (deployEscrowToChain env.recording.tw env.recording.config orderId dto)) (op : DeskOp) :
    Records Q (op.service env.recording) (op.service env) := by
  cases op with
  | openEscrow dto freshId faults => exact (open_records freshId (hdeploy _ _)).map _
  | initializeEscrow dto freshId faults => exact (initializeEscrow_records dto freshId faults).map _
  | createOrder dto orderId freshId faults => exact (createOrder_records freshId (hdeploy _ _)).map _
  | createEscrow dto freshId => exact (createEscrow_records dto freshId).map _
  | syncTransaction dto => exact (sync_records dto).map _
  | updateEscrow id dto => exact ((Records.ofExcept _).bind fun _ => Records.prisma _).map _
  | removeEscrow id => exact (Records.prisma _).map _
  | processEvent inst fault event => exact (processEvent_records inst fault event).map _

theorem service_erases (env : EscrowEnv χ) (op : FundingOp) :
    Svc.Erases World.erase (op.service env.recording) (op.service env) := by
  cases op with
  | fund dto =>
    have hcheck := Records.getOrFail (χ := χ) (Q := fun _ => True) dto.escrowId
    refine Svc.Erases.map _ (hcheck.erases.bind fun _ => (Svc.Erases.orThrow _ _).bind fun _ => ?_)
    refine (Svc.Erases.throwIf _ _).bind fun _ => ?_
    exact Svc.Erases.bind (fun _ => rfl) fun _ => Svc.Erases.pure _
  | desk op =>
    have hfund : ∀ contractId dto,
        Svc.Moves (WritesDown fun _ => True) (deployFund env.tw.recording contractId dto) := fun contractId dto w =>
      ⟨[(w.ext.state, ⟨contractId, dto.sellerAddress, dto.amount⟩)], rfl, fun _ _ => trivial⟩
    refine (desk_records (Q := fun _ => True) env (fun orderId dto => ?_) op).erases
    refine Svc.Moves.bind WritesDown.trans (deployBuild_records orderId dto).writes fun built => ?_
    refine Svc.Moves.bind WritesDown.trans (deployBroadcast_records built.1 built.2).writes fun contractId => ?_
    exact Svc.Moves.bind WritesDown.trans (hfund contractId dto) fun _ => Svc.Moves.pure WritesDown.refl _

theorem next_erase (env : EscrowEnv χ) (w : World (Asked χ)) (op : FundingOp) :
    (fundingDesk env).next w.erase op = ((fundingDesk env.recording).next w op).erase :=
  congrArg Prod.snd (service_erases env op w)

/-- **What is written down changes nothing of the run.** -/
theorem asked_run (env : EscrowEnv χ) (w : World χ) (ops : List FundingOp) :
    ((fundingDesk env.recording).run w.asked ops).erase = (fundingDesk env).run w ops :=
  (Machine.run_map (next_erase env) w.asked ops).symm

/-! ## What is requested -/

/-- What the milestones come to. -/
def total (p : Payload) : ℚ := p.milestones.foldr (fun m sum => m.amount + sum) 0

/-- The request is for the milestones that its contract was deployed with. -/
def Matches (deployed : χ → Deployments) (r : χ × FundEscrowPayload) : Prop :=
  ∀ p, (r.2.contractId, p) ∈ deployed r.1 → r.2.amount = total p

/-- The contract of the request was deployed as one payload, whose milestones come to the amount. -/
def ForDeployed (deployed : χ → Deployments) (r : χ × FundEscrowPayload) : Prop :=
  ∃ p, (∀ q, (r.2.contractId, q) ∈ deployed r.1 ↔ q = p) ∧ r.2.amount = total p

theorem ForDeployed.matches {deployed : χ → Deployments} {r : χ × FundEscrowPayload} (h : ForDeployed deployed r) :
    Matches deployed r := by
  obtain ⟨p, hp, hamount⟩ := h
  intro q hq
  rw [(hp q).mp hq]
  exact hamount

variable {decode : String → Option Payload} {deployed : χ → Deployments}

/-- What is written down changes no deployment. -/
theorem recording_deploys {tw : TrustlessWorkService χ} (h : Deploys tw decode deployed) :
    Deploys tw.recording decode fun x : Asked χ => deployed x.state where
  built p x := h.built p x.state
  building p x := h.building p x.state
  funding p x := h.funding p x.state
  deploys xdr x := h.deploys xdr x.state
  others xdr x := h.others xdr x.state
  refused xdr x := h.refused xdr x.state

theorem total_single {p : Payload} {amount : ℚ} {receiver : String} (h : p.milestones = [milestone amount receiver]) :
    total p = amount := by
  unfold total
  rw [h, List.foldr_cons, List.foldr_nil]
  exact Rat.add_zero amount

/-- **The request that follows a deployment** is for the milestones that were deployed. -/
theorem deployEscrowToChain_requests (h : Deploys env.tw decode deployed) (orderId : String) (dto : DeployDto) :
    Svc.Moves (WritesDown (ForDeployed deployed))
      (deployEscrowToChain env.recording.tw env.recording.config orderId dto) := by
  intro w
  have h' : Deploys env.recording.tw decode fun x : Asked χ => deployed x.state := recording_deploys h
  unfold deployEscrowToChain
  have hbuild : Svc.Moves (WritesDown (ForDeployed deployed))
      (deployBuild env.recording.tw env.recording.config orderId dto) := (deployBuild_records orderId dto).writes
  obtain ⟨ext, hw, -, hbuilt⟩ := deployBuild_run h' env.config orderId dto w
  refine Svc.bind_ind (P := fun r => WritesDown (ForDeployed deployed) w r.2) (fun t w₁ h₁ => hbuild.of_run h₁)
    fun built w₁ h₁ => ?_
  obtain ⟨p, hreq, hp⟩ := hbuilt built (congrArg Prod.fst h₁)
  have hw₁ : WritesDown (ForDeployed deployed) w w₁ := hbuild.of_run h₁
  have hbroadcast : Svc.Moves (WritesDown (ForDeployed deployed))
      (deployBroadcast env.recording.tw env.recording.config built.1 built.2) :=
    (deployBroadcast_records built.1 built.2).writes
  obtain ⟨ext', hw', hcase⟩ := deployBroadcast_run h' env.config built.2 hp w₁
  refine Svc.bind_ind (P := fun r => WritesDown (ForDeployed deployed) w r.2)
    (fun t w₂ h₂ => hw₁.trans (hbroadcast.of_run h₂)) fun contractId w₂ h₂ => ?_
  refine (hw₁.trans (hbroadcast.of_run h₂)).trans ?_
  obtain rfl : { w₁ with ext := ext' } = w₂ := hw'.symm.trans (congrArg Prod.snd h₂)
  have hanswer := congrArg Prod.fst h₂
  rcases hcase with ⟨⟨t, ht⟩, -⟩ | ⟨c, hc, hdep⟩
  · cases ht.symm.trans hanswer
  · cases hc.symm.trans hanswer
    obtain ⟨-, -, -, hmilestones⟩ := of_deployRequest_ok hreq
    rw [Svc.run_bind_pure_state]
    refine ⟨[(ext'.state, ⟨contractId, dto.sellerAddress, dto.amount⟩)], rfl, fun r hr => ?_⟩
    rw [List.mem_singleton] at hr
    rw [hr]
    exact ⟨p, fun q => hdep.mem_iff, (total_single hmilestones).symm⟩

/-- Apart from `fund`, a call only asks for the funding of a contract that it has deployed. -/
theorem desk_requests (h : Deploys env.tw decode deployed) (op : DeskOp) (w : World (Asked χ)) :
    WritesDown (ForDeployed deployed) w ((fundingDesk env.recording).next w (.desk op)) :=
  (desk_records env (deployEscrowToChain_requests h) op).writes w

/-- The row that `fund` goes on with, and its contract. -/
structure Fundable (db : Db) (dto : FundEscrowDto) (e : EscrowOnChain) (c : String) : Prop where
  found : db.escrows.find? (uuid dto.escrowId) = some e
  contract : contract? e = some c
  status : e.escrowStatus = .initialized

/-- What `fund` does with a row that it accepts. -/
theorem fund_of_fundable {tw : TrustlessWorkService χ} {dto : FundEscrowDto} {w : World χ} {e : EscrowOnChain}
    {c : String} (h : Fundable w.db dto e c) : ((EscrowService.fund tw dto).run w).2 =
      { w with ext := (tw.fundEscrow ⟨c, dto.signerAddress, dto.amount⟩ w.ext).2 } := by
  unfold EscrowService.fund
  rw [Svc.run_bind_ok (getOrFail_eq_ok.mpr ⟨rfl, h.found⟩), h.contract, Svc.run_bind_ok (Svc.run_orThrow_some _ _ _),
    Svc.run_bind_ok (Svc.run_throwIf_neg (not_not_intro h.status) _ _), Svc.run_bind_pure_state]
  rfl

theorem fund_of_not_fundable {tw : TrustlessWorkService χ} {dto : FundEscrowDto} {w : World χ}
    (h : ∀ e c, ¬ Fundable w.db dto e c) : ((EscrowService.fund tw dto).run w).2 = w := by
  unfold EscrowService.fund
  rcases Svc.run_bind_reading _ (getOrFail_state dto.escrowId w) with hsame | ⟨e, hget, hrun⟩
  · exact hsame
  rw [hrun]
  cases hc : contract? e with
  | none => rfl
  | some c =>
    rw [Svc.run_bind_ok (Svc.run_orThrow_some _ _ _)]
    by_cases hs : e.escrowStatus = .initialized
    · exact absurd ⟨(getOrFail_eq_ok.mp hget).2, hc, hs⟩ (h e c)
    · rw [Svc.run_bind_error (Svc.run_throwIf_pos hs _ _)]

/-- `fund` was given what the milestones of the contract come to, or refuses. -/
def FundsMilestones (deployed : χ → Deployments) (w : World χ) : FundingOp → Prop
  | .desk _ => True
  | .fund dto => ∀ e c, Fundable w.db dto e c → ∀ p, (c, p) ∈ deployed w.ext → dto.amount = total p

/-- Every request so far is for the milestones of its contract. -/
def AllMatch (deployed : χ → Deployments) (w : World (Asked χ)) : Prop := ∀ r ∈ w.ext.requests, Matches deployed r

/-- What one call adds to the requests. -/
theorem next_matches_iff (h : Deploys env.tw decode deployed) (w : World (Asked χ)) (op : FundingOp) :
    AllMatch deployed ((fundingDesk env.recording).next w op) ↔
      AllMatch deployed w ∧ FundsMilestones deployed w.erase op := by
  unfold AllMatch
  cases op with
  | desk op =>
    obtain ⟨new, hrequests, hnew⟩ := desk_requests h op w
    rw [hrequests, List.forall_mem_append]
    exact and_congr_right fun _ => iff_of_true (fun r hr => (hnew r hr).matches) trivial
  | fund dto =>
    have hnext : (fundingDesk env.recording).next w (.fund dto) = ((EscrowService.fund env.tw.recording dto).run w).2 :=
      Svc.run_map_state _ _ _
    by_cases hf : ∃ e c, Fundable w.db dto e c
    · obtain ⟨e, c, hf⟩ := hf
      have hrequests : ((fundingDesk env.recording).next w (.fund dto)).ext.requests =
          w.ext.requests ++ [(w.ext.state, ⟨c, dto.signerAddress, dto.amount⟩)] := by
        rw [hnext, fund_of_fundable hf]
        rfl
      rw [hrequests, List.forall_mem_append]
      refine and_congr_right fun _ => ?_
      rw [List.forall_mem_singleton]
      constructor
      · intro hmatches e' c' hf' p hp
        obtain rfl : e' = e := Option.some.inj (hf'.found.symm.trans hf.found)
        obtain rfl : c' = c := Option.some.inj (hf'.contract.symm.trans hf.contract)
        exact hmatches p hp
      · exact fun hfunds p hp => hfunds e c hf p hp
    · rw [not_exists] at hf
      simp only [not_exists] at hf
      rw [hnext, fund_of_not_fundable hf, and_iff_left]
      exact fun e c hf' => absurd hf' (hf e c)

/-- **Funding what was deployed.** In a run of the desk every request to fund a contract is for what the milestones of
the contract come to exactly if every `fund` that is not refused was given that amount. -/
theorem requests_match_iff (h : Deploys env.tw decode deployed) (w : World χ) (ops : List FundingOp) :
    AllMatch deployed ((fundingDesk env.recording).run w.asked ops) ↔
      (fundingDesk env).Along (FundsMilestones deployed) w ops := by
  have hrun : AllMatch deployed ((fundingDesk env.recording).run w.asked ops) ↔ AllMatch deployed w.asked ∧
      (fundingDesk env.recording).Along (fun w op => FundsMilestones deployed w.erase op) w.asked ops :=
    Machine.run_iff_along (next_matches_iff h)
  have hnone : AllMatch deployed w.asked := fun r hr => by cases hr
  rw [hrun, and_iff_right hnone]
  exact (Machine.along_map (next_erase env) w.asked ops).symm

/-- If the contracts of the rows were deployed, so was every contract that a request is for. -/
theorem requests_deployed (h : Deploys env.tw decode deployed) {w : World χ} (hw : ContractsDeployed deployed w)
    (ops : List FundingOp) : ∀ r ∈ ((fundingDesk env.recording).run w.asked ops).ext.requests,
      ∃ p, (r.2.contractId, p) ∈ deployed r.1 := by
  let I := fun w : World (Asked χ) => ContractsDeployed (fun x => deployed x.state) w ∧
    ∀ r ∈ w.ext.requests, ∃ p, (r.2.contractId, p) ∈ deployed r.1
  have hstep : ∀ w op, I w → True → I ((fundingDesk env.recording).next w op) := by
    rintro w op ⟨hrows, hrequests⟩ -
    cases op with
    | desk op =>
      have hdid : Did env.recording (fun x : Asked χ => deployed x.state) w op ((desk env.recording).next w op) :=
        desk_did (recording_deploys h) w op
      obtain ⟨new, hadded, hnew⟩ := desk_requests h op w
      refine ⟨hdid.contractsDeployed (recording_deploys h) hrows, ?_⟩
      rw [hadded, List.forall_mem_append]
      refine ⟨hrequests, fun r hr => ?_⟩
      obtain ⟨p, hp, -⟩ := hnew r hr
      exact ⟨p, (hp p).mpr rfl⟩
    | fund dto =>
      have hnext : (fundingDesk env.recording).next w (.fund dto) =
          ((EscrowService.fund env.tw.recording dto).run w).2 := Svc.run_map_state _ _ _
      by_cases hf : ∃ e c, Fundable w.db dto e c
      · obtain ⟨e, c, hf⟩ := hf
        obtain ⟨hc, -⟩ := contract?_eq_some.mp hf.contract
        obtain ⟨hne, p, hp⟩ := hrows e (Table.find?_eq_some.mp hf.found).1 c hc
        rw [hnext, fund_of_fundable hf]
        refine ⟨fun e' he' c' hc' => ?_, ?_⟩
        · obtain ⟨hne', p', hp'⟩ := hrows e' he' c' hc'
          refine ⟨hne', p', ?_⟩
          show (c', p') ∈ deployed (env.tw.fundEscrow _ w.ext.state).2
          rw [h.funding]
          exact hp'
        · show ∀ r ∈ w.ext.requests ++ [(w.ext.state, _)], _
          rw [List.forall_mem_append, List.forall_mem_singleton]
          exact ⟨hrequests, p, hp⟩
      · simp only [not_exists] at hf
        rw [hnext, fund_of_not_fundable hf]
        exact ⟨hrows, hrequests⟩
  have hstart : I w.asked := ⟨hw, fun r hr => by cases hr⟩
  have hrun : I ((fundingDesk env.recording).run w.asked ops) :=
    Machine.run_inv hstep hstart (Machine.along_of_forall fun _ _ _ => trivial)
  exact hrun.2

end Records

/-! ## One funding

The escrow of an order is opened for 5 and funded. -/

namespace Desk

def escrow : String := "5d4c3b2a-1f0e-4d9c-8b7a-6f5e4d3c2b1a"

def openedEscrow : DeskOp := .openEscrow (openDto (parameters "GBUYER" 5)) escrow {}

def funding (amount : ℚ) : List FundingOp := [.desk openedEscrow, .fund ⟨escrow, "GSELLER", amount⟩]

theorem funded_in_full : AllMatch id ((fundingDesk (escrowEnv book).recording).run world.asked (funding 5)) := by
  refine (requests_match_iff (trustlessWork_deploys book) world (funding 5)).mpr
    ⟨trivial, fun e c _ p hp => ?_, trivial⟩
  have hdeployed : ((fundingDesk (escrowEnv book)).next world (.desk openedEscrow)).ext =
      [("C", payload order "Trade" "GBUYER" 5)] := by decide
  rw [id_eq, hdeployed, List.mem_singleton, Prod.mk.injEq] at hp
  rw [hp.2]
  exact (total_single rfl).symm

/-- The contract is for 5, and the backend asks for a funding of 2. -/
theorem funded_short : Deploys (escrowEnv book).tw (payloadOf book) id ∧
    ¬ AllMatch id ((fundingDesk (escrowEnv book).recording).run world.asked (funding 2)) := by
  refine ⟨trustlessWork_deploys book, fun h => ?_⟩
  have hrequests : ((fundingDesk (escrowEnv book).recording).run world.asked (funding 2)).ext.requests =
      [([("C", payload order "Trade" "GBUYER" 5)], ⟨"C", "GSELLER", 5⟩),
        ([("C", payload order "Trade" "GBUYER" 5)], ⟨"C", "GSELLER", 2⟩)] := by decide
  unfold AllMatch at h
  rw [hrequests] at h
  have htotal := h _ (List.mem_cons_of_mem _ List.mem_cons_self) _ List.mem_cons_self
  rw [total_single rfl] at htotal
  exact absurd htotal (by decide)

end Desk

end IKash
