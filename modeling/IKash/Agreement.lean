import IKash.Desk

/-!
# Rows and the contracts they name

A row is created by one call and bound to a contract by another. `open` binds the contract it deployed to a row that
was there without writing the parameters, which `initialize` does; `syncTransaction` binds whatever contract the signed
transaction deployed; and an amount is rounded when it is stored.

- `rows_agree`: in every run whose steps bind contracts to rows with the parameters of the payload (`BindsAlike`),
  every row with a contract has the parameters its contract was built with;
- `events_reach_own_order`: in every run whose steps leave a contract with the order that it was deployed for
  (`LeavesLinks`), an event changes no order but the one its contract was deployed for.
-/

namespace IKash

open Lib EscrowService OrderService StellarListenerService

variable {χ : Type} {env : EscrowEnv χ} {decode : String → Option Payload} {deployed : χ → Deployments}
  {w w' : World χ} {op : DeskOp} {ops : List DeskOp}

/-- The row has the roles and the milestone amount of the payload. -/
structure BuiltFor (p : Payload) (e : EscrowOnChain) : Prop where
  buyerAddress : e.buyerAddress = some p.roles.serviceProvider
  sellerAddress : e.sellerAddress = some p.roles.releaseSigner
  amount : e.amount.toList = p.milestones.map MultiReleaseMilestonePayload.amount

/-- The contract of every row was built for the row. -/
def RowsAgree (deployed : χ → Deployments) (w : World χ) : Prop :=
  ∀ e ∈ w.db.escrows.rows, ∀ c, contract? e = some c →
    (∃ p, (c, p) ∈ deployed w.ext) ∧ ∀ p, (c, p) ∈ deployed w.ext → BuiltFor p e

/-- The row has the parameters of the body. -/
def HasParameters (dto : EscrowParameters) (e : EscrowOnChain) : Prop :=
  e.buyerAddress = some dto.buyerAddress ∧ e.sellerAddress = some dto.sellerAddress ∧ e.amount = some dto.amount

/-- What the call deploys, or submits, has the parameters of the row it is bound to. -/
def BindsAlike (env : EscrowEnv χ) (decode : String → Option Payload) (w : World χ) : DeskOp → Prop
  | .openEscrow dto _ _ =>
    (∀ amount, env.codec.decimalOfNumber dto.amount = some amount → amount = dto.amount) ∧
      ∀ e, escrowByOrderId w.db dto.orderId = some e → contract? e = none → HasParameters dto.toEscrowParameters e
  | .createOrder dto _ _ _ =>
    ∀ amount, env.codec.decimal dto.assetAmount = some amount → amount = env.codec.number dto.assetAmount
  | .syncTransaction dto => dto.action = .initializeEscrow →
    ∀ e, w.db.escrows.find? (uuid dto.escrowId) = some e → ∀ p, decode dto.signedXdr = some p → BuiltFor p e
  | _ => True

theorem BuiltFor.of_request {config : EscrowConfig} {orderId secret : String} {dto : DeployDto} {p : Payload}
    {e : EscrowOnChain} (h : deployRequest config orderId dto = .ok (p, secret))
    (he : HasParameters dto.toEscrowParameters e) : BuiltFor p e := by
  obtain ⟨-, hseller, hbuyer, hmilestones⟩ := of_deployRequest_ok h
  obtain ⟨hb, hs, ha⟩ := he
  refine ⟨by rw [hb, hbuyer], by rw [hs, hseller], ?_⟩
  rw [ha, hmilestones]
  rfl

/-- Binding a contract keeps the parameters. -/
theorem syncData_builtFor {dto : SyncEscrowDto} {r : SendTransactionResponse} {p : Payload} {e : EscrowOnChain}
    (h : BuiltFor p e) : BuiltFor p (syncData dto r e) := by
  unfold syncData
  cases dto.action <;> exact ⟨h.buyerAddress, h.sellerAddress, h.amount⟩

/-- One call. -/
theorem rowsAgree_next (h : Deploys env.tw decode deployed) (hI : RowsAgree deployed w)
    (hC : BindsAlike env decode w op) : RowsAgree deployed ((desk env).next w op) := by
  have hdid : Did env deployed w op ((desk env).next w op) := desk_did h w op
  generalize (desk env).next w op = w' at hdid
  have hkept : ∀ e ∈ w.db.escrows.rows, ∀ c, e.contractId = some c → c ≠ "" →
      (∃ p, (c, p) ∈ deployed w'.ext) ∧ ∀ p, (c, p) ∈ deployed w'.ext → BuiltFor p e := by
    intro e he c hc hne
    obtain ⟨⟨q, hq⟩, hall⟩ := hI e he c (contract?_eq_some.mpr ⟨hc, hne⟩)
    exact ⟨⟨q, hdid.grows.mem hq⟩, fun p hp => hall p (hdid.grows.of_mem hq hp)⟩
  have hnew : ∀ {c p e}, Deployed deployed w.ext w'.ext c p → BuiltFor p e →
      (∃ q, (c, q) ∈ deployed w'.ext) ∧ ∀ q, (c, q) ∈ deployed w'.ext → BuiltFor q e := by
    intro c p e hdep hbuilt
    refine ⟨⟨p, hdep.mem_iff.mpr rfl⟩, fun q hq => ?_⟩
    obtain rfl : q = p := hdep.mem_iff.mp hq
    exact hbuilt
  intro e he c hcontract
  obtain ⟨hc, hne⟩ := contract?_eq_some.mp hcontract
  cases hdid.rows e he with
  | kept hmem => exact hkept e hmem c hc hne
  | reopened hmem horder hnone hreq hdep =>
    cases hc
    have hparams := hC.2 _ (escrowByOrderId_eq_some.mpr ⟨hmem, horder⟩) hnone
    exact hnew hdep (BuiltFor.of_request hreq hparams)
  | opened hamount hreq hdep =>
    cases hc
    refine hnew hdep (BuiltFor.of_request hreq ⟨rfl, rfl, ?_⟩)
    exact congrArg some (hC.1 _ hamount)
  | halfOpened => cases hc
  | initialized => cases hc
  | reparametrised _ hnone =>
    have hsome : none = some c := hnone.symm.trans hcontract
    cases hsome
  | ordered hamount hreq hdep =>
    cases hc
    refine hnew hdep (BuiltFor.of_request hreq ⟨rfl, rfl, ?_⟩)
    exact congrArg some (hC _ hamount)
  | created hnone _ =>
    rw [hnone] at hc
    cases hc
  | synced hfind _ hanswer hs hx =>
    rcases contract_of_synced h hanswer hs hc with hold | ⟨ha, p, hp, hdep⟩
    · obtain ⟨hex, hall⟩ := hkept _ (Table.find?_eq_some.mp hfind).1 c hold hne
      exact ⟨hex, fun p hp => syncData_builtFor (hall p hp)⟩
    · rw [← hx] at hdep
      exact hnew hdep (syncData_builtFor (hC ha _ hfind p hp))
  | updated hfind _ =>
    obtain ⟨hex, hall⟩ := hkept _ (Table.find?_eq_some.mp hfind).1 c hc hne
    exact ⟨hex, fun p hp => ⟨(hall p hp).buyerAddress, (hall p hp).sellerAddress, (hall p hp).amount⟩⟩
  | applied hfind _ =>
    obtain ⟨hex, hall⟩ := hkept _ (findEscrow_mem hfind) c hc hne
    exact ⟨hex, fun p hp => ⟨(hall p hp).buyerAddress, (hall p hp).sellerAddress, (hall p hp).amount⟩⟩

/-- **Rows agree with their contracts** in every state that such a run reaches. -/
theorem rows_agree (h : Deploys env.tw decode deployed) (h0 : RowsAgree deployed w)
    (ha : (desk env).Along (BindsAlike env decode) w ops) {pre post : List DeskOp} (hsplit : ops = pre ++ post) :
    RowsAgree deployed ((desk env).run w pre) := by
  rw [hsplit, Machine.along_append] at ha
  exact Machine.run_inv (fun _ _ => rowsAgree_next h) h0 ha.1

namespace Desk

theorem rows_agree_opened : RowsAgree id ((desk (escrowEnv book)).run world
    [initialized, .openEscrow (openDto (parameters "GBUYER" 5)) "e2" {}]) := by
  have hrow : escrowByOrderId ((desk (escrowEnv book)).next world initialized).db order =
      some (newEscrow "e1" order (parameters "GBUYER" 5) 5 .pending) := by decide
  have halong : (desk (escrowEnv book)).Along (BindsAlike (escrowEnv book) (payloadOf book)) world
      [initialized, .openEscrow (openDto (parameters "GBUYER" 5)) "e2" {}] := by
    refine ⟨trivial, ⟨fun amount hamount => (Option.some.inj hamount).symm, fun e he _ => ?_⟩, trivial⟩
    obtain rfl : newEscrow "e1" order (parameters "GBUYER" 5) 5 .pending = e := Option.some.inj (hrow.symm.trans he)
    exact ⟨rfl, rfl, rfl⟩
  exact rows_agree (trustlessWork_deploys book) (fun e he => by cases he) halong (List.append_nil _).symm

def openedForAnother : World Deployments := (desk (escrowEnv book)).run world
  [initialized, .openEscrow (openDto (parameters "GOTHER" 7)) "e2" {}]

/-- `open` leaves the buyer and the amount of the row that `initialize` created, and binds the contract of another. -/
theorem open_keeps_parameters : Deploys (escrowEnv book).tw (payloadOf book) id ∧ RowsAgree id world ∧
    ¬ RowsAgree id openedForAnother := by
  refine ⟨trustlessWork_deploys book, (fun e he => by cases he), fun hagree => ?_⟩
  have hrows : openedForAnother.db.escrows.rows =
      [storeContract "C" (newEscrow "e1" order (parameters "GBUYER" 5) 5 .pending)] := by decide
  have hdeployed : openedForAnother.ext = [("C", payload order "Trade" "GOTHER" 7)] := by decide
  obtain ⟨-, hall⟩ := hagree _ (hrows ▸ List.mem_singleton_self _) "C" (by decide)
  have hbuilt := hall (payload order "Trade" "GOTHER" 7) (hdeployed ▸ List.mem_singleton_self _)
  exact absurd hbuilt.buyerAddress (by decide)

end Desk

/-! ## Orders -/

/-- Every row belongs to the order that its contract was deployed for. -/
def RowsLinked (deployed : χ → Deployments) (w : World χ) : Prop :=
  ∀ e ∈ w.db.escrows.rows, ∀ c, contract? e = some c → ∃ p, (c, p) ∈ deployed w.ext ∧ uuid p.engagementId = e.orderId

/-- The order that an event changes, if any, is the one its contract was deployed for. -/
def ReachesOwnOrder (env : EscrowEnv χ) (deployed : χ → Deployments) (w : World χ) : DeskOp → Prop
  | .processEvent inst fault event => ∀ k,
    ((desk env).next w (.processEvent inst fault event)).db.orders.find? k ≠ w.db.orders.find? k →
      ∃ p, (event.contractId, p) ∈ deployed w.ext ∧ uuid p.engagementId = k
  | _ => True

/-- The call leaves a row that has a contract with its order, and binds no contract to a row of another order; an event
of a contract that no row has names the order that the contract was deployed for. -/
def LeavesLinks (decode : String → Option Payload) (deployed : χ → Deployments) (w : World χ) : DeskOp → Prop
  | .updateEscrow id dto => ∀ e, w.db.escrows.find? (uuid id) = some e → contract? e ≠ none →
    ∀ s, dto.orderId = .value s → uuid s = e.orderId
  | .syncTransaction dto => dto.action = .initializeEscrow →
    ∀ e, w.db.escrows.find? (uuid dto.escrowId) = some e → ∀ p, decode dto.signedXdr = some p →
      uuid p.engagementId = e.orderId
  | .processEvent _ _ event => escrowByContract w.db event.contractId = none → ∀ id, orderIdOf event = some id →
    ∃ p, (event.contractId, p) ∈ deployed w.ext ∧ uuid p.engagementId = uuid id
  | _ => True

theorem rowsLinked_next (h : Deploys env.tw decode deployed) (hI : RowsLinked deployed w)
    (hC : LeavesLinks decode deployed w op) : RowsLinked deployed ((desk env).next w op) := by
  have hdid : Did env deployed w op ((desk env).next w op) := desk_did h w op
  generalize (desk env).next w op = w' at hdid
  have hkept : ∀ e ∈ w.db.escrows.rows, ∀ c, e.contractId = some c → c ≠ "" →
      ∃ p, (c, p) ∈ deployed w'.ext ∧ uuid p.engagementId = e.orderId := by
    intro e he c hc hne
    obtain ⟨p, hp, hid⟩ := hI e he c (contract?_eq_some.mpr ⟨hc, hne⟩)
    exact ⟨p, hdid.grows.mem hp, hid⟩
  intro e he c hcontract
  obtain ⟨hc, hne⟩ := contract?_eq_some.mp hcontract
  cases hdid.rows e he with
  | kept hmem => exact hkept e hmem c hc hne
  | reopened _ horder _ hreq hdep =>
    cases hc
    obtain ⟨hid, -⟩ := of_deployRequest_ok hreq
    exact ⟨_, hdep.mem_iff.mpr rfl, by rw [hid]; exact horder.symm⟩
  | opened _ hreq hdep =>
    cases hc
    obtain ⟨hid, -⟩ := of_deployRequest_ok hreq
    exact ⟨_, hdep.mem_iff.mpr rfl, by rw [hid]; rfl⟩
  | halfOpened => cases hc
  | initialized => cases hc
  | reparametrised hmem _ => exact hkept _ hmem c hc hne
  | ordered _ hreq hdep =>
    cases hc
    obtain ⟨hid, -⟩ := of_deployRequest_ok hreq
    exact ⟨_, hdep.mem_iff.mpr rfl, by rw [hid]; rfl⟩
  | created hnone _ =>
    rw [hnone] at hc
    cases hc
  | @synced dto r e hfind _ hanswer hs hx =>
    have horder : (syncData dto r e).orderId = e.orderId := (syncData_ids dto r e).2
    rcases contract_of_synced h hanswer hs hc with hold | ⟨ha, p, hp, hdep⟩
    · obtain ⟨p, hp, hid⟩ := hkept _ (Table.find?_eq_some.mp hfind).1 c hold hne
      exact ⟨p, hp, hid.trans horder.symm⟩
    · rw [← hx] at hdep
      exact ⟨p, hdep.mem_iff.mpr rfl, (hC ha _ hfind p hp).trans horder.symm⟩
  | @updated id dto orderId e hfind hgiven =>
    obtain ⟨p, hp, hid⟩ := hkept _ (Table.find?_eq_some.mp hfind).1 c hc hne
    refine ⟨p, hp, hid.trans ?_⟩
    show e.orderId = orderId.getD e.orderId
    rcases Prisma.of_given_ok hgiven with rfl | ⟨s, k, hs, hk, rfl⟩
    · rfl
    · have hsome : contract? e ≠ none := fun hnone => by cases hnone.symm.trans hcontract
      rw [Option.getD_some, ← Option.some.inj hk, hC e hfind hsome s hs]
  | applied hfind _ => exact hkept _ (findEscrow_mem hfind) c hc hne

/-- An event changes only the order of the escrow it is applied to. -/
theorem order_of_processEvent {inst : ℕ} {fault : Option Thrown} {event : OnChainEscrowEvent} {k : String}
    (hchanged : ((desk env).next w (.processEvent inst fault event)).db.orders.find? k ≠ w.db.orders.find? k) :
    ∃ e, findEscrow w.db event = .ok (some e) ∧ e.orderId = k := by
  have hnext : ((desk env).next w (.processEvent inst fault event)).db.orders.find? k =
      ((StellarListenerService.processEvent inst fault event).run w).2.db.orders.find? k := by
    show ((DeskOp.service env _).run w).2.db.orders.find? k = _
    rw [DeskOp.service, Svc.run_map_state]
  rw [hnext] at hchanged
  have hrun := processEvent_run inst fault event w
  cases hv : verdict inst event w with
  | applicable e =>
    obtain ⟨-, hfind, -⟩ := verdict_applicable.mp hv
    rw [hv] at hrun
    cases fault with
    | some t =>
      rw [hrun] at hchanged
      exact absurd rfl hchanged
    | none =>
      obtain ⟨db, hrun, hre⟩ := hrun
      refine ⟨e, hfind, ?_⟩
      by_contra hne
      rw [hrun] at hchanged
      refine hchanged (hre.find?_order.trans ?_)
      cases ho : w.db.orders.find? k with
      | none => rfl
      | some o =>
        have hkey : o.orderId ≠ e.orderId := by
          rw [show o.orderId = k from Table.key_of_find? ho]
          exact fun hk => hne hk.symm
        exact congrArg some (Table.atKey_ne hkey)
  | _ =>
    rw [hv] at hrun
    rw [hrun] at hchanged
    exact absurd rfl hchanged

theorem reachesOwnOrder (hI : RowsLinked deployed w) (hC : LeavesLinks decode deployed w op) :
    ReachesOwnOrder env deployed w op := by
  cases op with
  | processEvent inst fault event =>
    intro k hchanged
    obtain ⟨e, hfind, rfl⟩ := order_of_processEvent hchanged
    cases hcontract : escrowByContract w.db event.contractId with
    | some r =>
      -- the row that has the contract
      obtain rfl : r = e := by
        unfold findEscrow at hfind
        rw [hcontract] at hfind
        exact Option.some.inj (Except.ok.inj hfind)
      have hne : event.contractId ≠ "" := by
        intro hempty
        unfold escrowByContract at hcontract
        rw [if_pos hempty] at hcontract
        cases hcontract
      have hc : r.contractId = some event.contractId := by
        unfold escrowByContract at hcontract
        rw [if_neg hne] at hcontract
        exact ((Table.findUnique?_eq_some (List.mem_cons_of_mem _ List.mem_cons_self)).mp hcontract).2
      exact hI r (escrowByContract_mem hcontract) event.contractId (contract?_eq_some.mpr ⟨hc, hne⟩)
    | none =>
      -- the row of the order that the event names
      unfold findEscrow at hfind
      rw [hcontract] at hfind
      dsimp only at hfind
      unfold escrowByOrder at hfind
      cases hid : orderIdOf event with
      | none =>
        rw [hid] at hfind
        cases hfind
      | some id =>
        rw [hid] at hfind
        dsimp only at hfind
        split at hfind
        · have hrow := (Table.findUnique?_eq_some List.mem_cons_self).mp (Except.ok.inj hfind)
          rw [Option.some.inj hrow.2]
          exact hC hcontract id hid
        · cases hfind
  | _ => trivial

/-- **Events reach the order their contract was deployed for**, in every such run. -/
theorem events_reach_own_order (h : Deploys env.tw decode deployed) (h0 : RowsLinked deployed w)
    (ha : (desk env).Along (LeavesLinks decode deployed) w ops) : (desk env).Along (ReachesOwnOrder env deployed) w ops :=
  Machine.along_of_inv (fun _ _ => rowsLinked_next h) (fun _ _ => reachesOwnOrder) h0 ha

namespace Desk

theorem funded_reaches_own_order : (desk (escrowEnv book)).Along (ReachesOwnOrder (escrowEnv book) id) world
    [opened, funded] := by
  refine events_reach_own_order (trustlessWork_deploys book) (fun e he => by cases he) ⟨trivial, ?_, trivial⟩
  intro hnone
  cases (show escrowByContract ((desk (escrowEnv book)).next world opened).db "C" ≠ none by decide) hnone

/-- The row of `order` is moved to `otherOrder` by a `PATCH`; then the funding of its contract locks `otherOrder`. -/
theorem funding_locks_another_order : Deploys (escrowEnv book).tw (payloadOf book) id ∧ RowsLinked id world ∧
    ¬ (desk (escrowEnv book)).Along (ReachesOwnOrder (escrowEnv book) id) world
      [opened, .updateEscrow "e1" { orderId := .value otherOrder }, funded] := by
  refine ⟨trustlessWork_deploys book, (fun e he => by cases he), ?_⟩
  rintro ⟨-, -, hreaches, -⟩
  have hdeployed : ((desk (escrowEnv book)).next ((desk (escrowEnv book)).next world opened)
      (.updateEscrow "e1" { orderId := .value otherOrder })).ext = [("C", payload order "Trade" "GBUYER" 5)] := by
    decide
  obtain ⟨p, hp, hid⟩ := hreaches otherOrder (by decide)
  have hp : ("C", p) ∈ [("C", payload order "Trade" "GBUYER" 5)] := hdeployed ▸ hp
  obtain ⟨-, rfl⟩ := Prod.mk.inj (List.mem_singleton.mp hp)
  exact absurd hid (by decide)

end Desk

end IKash
