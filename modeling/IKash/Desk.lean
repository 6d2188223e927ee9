import IKash.Deploy
import IKash.Listener
import IKash.Lib.Machine
import Mathlib.Algebra.Order.BigOperators.Group.List
import Mathlib.Algebra.Order.Group.Nat
import Mathlib.Algebra.GroupWithZero.Nat

/-!
# The escrow desk

Runs of the operations that write escrow rows, against Trustless Work. `Deploys` is what is assumed of Trustless Work:
the transaction it builds for a payload deploys that payload, and a submitted transaction that it answers with `SUCCESS`
deploys a new contract and is answered with its id, or deploys nothing and is answered without one.

- `desk_did`: every row after a call was there before or is one of those that the call writes (`RowOf`), and the
  deployments only grow.
-/

namespace IKash

open Lib EscrowService OrderService StellarListenerService

variable {χ : Type}

abbrev Payload := InitializeMultiReleaseEscrowPayload

/-- The contracts, with the payloads they were built with. -/
abbrev Deployments := List (String × Payload)

/-- Trustless Work, with the payload that a signed transaction deploys, if it is a deployment, and the deployments that
were answered with `SUCCESS`. -/
structure Deploys (tw : TrustlessWorkService χ) (decode : String → Option Payload) (deployed : χ → Deployments) :
    Prop where
  built : ∀ p c unsigned secret network signed, (tw.deployer p c).1 = .ok unsigned →
    tw.sign unsigned secret network = .ok signed → decode signed = some p
  building : ∀ p c, deployed (tw.deployer p c).2 = deployed c
  funding : ∀ p c, deployed (tw.fundEscrow p c).2 = deployed c
  deploys : ∀ xdr c r p, (tw.sendTransaction xdr c).1 = .ok r → r.status = "SUCCESS" → decode xdr = some p →
    ∃ id, r.contractId = some id ∧ id ≠ "" ∧ (∀ q, (id, q) ∉ deployed c) ∧
      deployed (tw.sendTransaction xdr c).2 = deployed c ++ [(id, p)]
  others : ∀ xdr c r, (tw.sendTransaction xdr c).1 = .ok r → r.status = "SUCCESS" → decode xdr = none →
    r.contractId = none ∧ deployed (tw.sendTransaction xdr c).2 = deployed c
  refused : ∀ xdr c, (∀ r, (tw.sendTransaction xdr c).1 = .ok r → r.status ≠ "SUCCESS") →
    deployed (tw.sendTransaction xdr c).2 = deployed c

inductive DeskOp where
  | openEscrow (dto : OpenEscrowDto) (freshId : String) (faults : DbFaults)
  | initializeEscrow (dto : InitializeEscrowDto) (freshId : String) (faults : DbFaults)
  | createOrder (dto : CreateOrderDto) (orderId freshId : String) (faults : DbFaults)
  | createEscrow (dto : CreateEscrowDto) (freshId : String)
  | syncTransaction (dto : SyncEscrowDto)
  | updateEscrow (id : String) (dto : UpdateEscrowDto)
  | removeEscrow (id : String)
  | processEvent (inst : ℕ) (fault : Option Thrown) (event : OnChainEscrowEvent)

def DeskOp.service (env : EscrowEnv χ) : DeskOp → Service χ Unit
  | .openEscrow dto freshId faults =>
    (fun _ => ()) <$> EscrowService.openEscrow env.tw env.config env.codec dto freshId faults
  | .initializeEscrow dto freshId faults =>
    (fun _ => ()) <$> EscrowService.initializeEscrow env.tw env.config env.codec dto freshId faults
  | .createOrder dto orderId freshId faults =>
    (fun _ => ()) <$> OrderService.create env.tw env.config env.codec dto orderId freshId faults
  | .createEscrow dto freshId => (fun _ => ()) <$> EscrowService.create dto freshId
  | .syncTransaction dto => (fun _ => ()) <$> EscrowService.syncTransaction env.tw.toTrustlessWork dto
  | .updateEscrow id dto => (fun _ => ()) <$> EscrowService.update id dto
  | .removeEscrow id => (fun _ => ()) <$> EscrowService.remove id
  | .processEvent inst fault event => (fun _ => ()) <$> StellarListenerService.processEvent inst fault event

def desk (env : EscrowEnv χ) : Machine (World χ) DeskOp (Except Thrown Unit) where
  step w op := (op.service env).run w

/-! ## What a call writes -/

/-- The deployments grow, by contracts that were not deployed before. -/
def Grows (deployed : χ → Deployments) (x x' : χ) : Prop :=
  ∃ new, deployed x' = deployed x ++ new ∧ ∀ c p q, (c, p) ∈ new → (c, q) ∉ deployed x

/-- The payload was deployed as the contract. -/
structure Deployed (deployed : χ → Deployments) (x x' : χ) (c : String) (p : Payload) : Prop where
  chain : deployed x' = deployed x ++ [(c, p)]
  fresh : ∀ q, (c, q) ∉ deployed x
  nonempty : c ≠ ""

/-- The rows that a call can leave, if it takes Trustless Work to `x`. -/
inductive RowOf (env : EscrowEnv χ) (deployed : χ → Deployments) (w : World χ) (x : χ) :
    DeskOp → EscrowOnChain → Prop where
  | kept {op e} : e ∈ w.db.escrows.rows → RowOf env deployed w x op e
  /-- `open` finds a row without a contract -/
  | reopened {dto freshId faults c p secret e} : e ∈ w.db.escrows.rows → e.orderId = uuid dto.orderId →
      contract? e = none → deployRequest env.config dto.orderId dto.deployDto = .ok (p, secret) →
      Deployed deployed w.ext x c p → RowOf env deployed w x (.openEscrow dto freshId faults) (storeContract c e)
  /-- `open` creates the row -/
  | opened {dto freshId faults c p secret amount} : env.codec.decimalOfNumber dto.amount = some amount →
      deployRequest env.config dto.orderId dto.deployDto = .ok (p, secret) → Deployed deployed w.ext x c p →
      RowOf env deployed w x (.openEscrow dto freshId faults)
        (storeContract c (newEscrow freshId dto.orderId dto.toEscrowParameters amount .initialized))
  /-- `open` creates the row, and the contract is not stored -/
  | halfOpened {dto freshId faults c p amount} : Deployed deployed w.ext x c p →
      escrowByOrderId w.db dto.orderId = none →
      faults.update ≠ none ∨ (∃ e ∈ w.db.escrows.rows, e.contractId = some c) →
      RowOf env deployed w x (.openEscrow dto freshId faults)
        (newEscrow freshId dto.orderId dto.toEscrowParameters amount .initialized)
  | initialized {dto freshId faults amount} : RowOf env deployed w x (.initializeEscrow dto freshId faults)
      (newEscrow freshId dto.orderId dto.toEscrowParameters amount .pending)
  | reparametrised {dto freshId faults amount e} : e ∈ w.db.escrows.rows → contract? e = none →
      RowOf env deployed w x (.initializeEscrow dto freshId faults) (reparametrise dto.toEscrowParameters amount e)
  | ordered {dto orderId freshId faults c p secret amount} : env.codec.decimal dto.assetAmount = some amount →
      deployRequest env.config orderId (deployDto env.codec orderId dto) = .ok (p, secret) →
      Deployed deployed w.ext x c p →
      RowOf env deployed w x (.createOrder dto orderId freshId faults) (escrowRow orderId freshId c dto amount)
  | created {dto freshId e} : e.contractId = none → e.escrowStatus = .pending →
      RowOf env deployed w x (.createEscrow dto freshId) e
  | synced {dto r e} : w.db.escrows.find? (uuid dto.escrowId) = some e →
      e.escrowStatus ∈ validTransitions (.action dto.action) →
      (env.tw.sendTransaction dto.signedXdr w.ext).1 = .ok r → r.status = "SUCCESS" →
      x = (env.tw.sendTransaction dto.signedXdr w.ext).2 →
      RowOf env deployed w x (.syncTransaction dto) (syncData dto r e)
  | updated {id dto orderId e} : w.db.escrows.find? (uuid id) = some e →
      Prisma.given (fun s => some (uuid s)) dto.orderId = .ok orderId →
      RowOf env deployed w x (.updateEscrow id dto) (updateData dto orderId e)
  | applied {inst fault event e} : findEscrow w.db event = .ok (some e) →
      e.escrowStatus ∈ validTransitions (.event event.eventType) →
      RowOf env deployed w x (.processEvent inst fault event) (escrowData event e)

/-- Every row after the call is one that it can write, and the deployments grow. -/
structure Did (env : EscrowEnv χ) (deployed : χ → Deployments) (w : World χ) (op : DeskOp) (w' : World χ) : Prop where
  rows : ∀ e ∈ w'.db.escrows.rows, RowOf env deployed w w'.ext op e
  grows : Grows deployed w.ext w'.ext

section Did

variable {env : EscrowEnv χ} {decode : String → Option Payload} {deployed : χ → Deployments} {w w' w'' : World χ}
  {op : DeskOp}

theorem Grows.refl (x : χ) : Grows deployed x x := ⟨[], by simp, by simp⟩

theorem Grows.of_same {x x' : χ} (h : deployed x' = deployed x) : Grows deployed x x' := ⟨[], by simp [h], by simp⟩

theorem Deployed.grows {x x' : χ} {c : String} {p : Payload} (h : Deployed deployed x x' c p) :
    Grows deployed x x' := by
  refine ⟨[(c, p)], h.chain, fun c' p' q hmem => ?_⟩
  rw [List.mem_singleton, Prod.mk.injEq] at hmem
  rw [hmem.1]
  exact h.fresh q

theorem did_of_escrows (h : w'.db.escrows = w.db.escrows) (hg : Grows deployed w.ext w'.ext) :
    Did env deployed w op w' where
  rows _ he := .kept (h ▸ he)
  grows := hg

/-- What is written after the escrows does not matter. -/
theorem Did.of_rows (h : Did env deployed w op w') (hrows : w''.db.escrows.rows = w'.db.escrows.rows)
    (hext : w''.ext = w'.ext) : Did env deployed w op w'' where
  rows e he := by
    rw [hext]
    exact h.rows e (hrows ▸ he)
  grows := by
    rw [hext]
    exact h.grows

/-! ### The deployment -/

theorem of_deployRequest_ok {config : EscrowConfig} {orderId secret : String} {dto : DeployDto} {p : Payload}
    (h : deployRequest config orderId dto = .ok (p, secret)) :
    p.engagementId = orderId ∧ p.roles.releaseSigner = dto.sellerAddress ∧ p.roles.serviceProvider = dto.buyerAddress ∧
      p.milestones = [milestone dto.amount dto.buyerAddress] := by
  unfold deployRequest at h
  obtain ⟨_, -, h⟩ := Except.of_bind_ok h
  obtain ⟨_, -, h⟩ := Except.of_bind_ok h
  obtain ⟨_, -, h⟩ := Except.of_bind_ok h
  obtain ⟨roles, hroles, h⟩ := Except.of_bind_ok h
  obtain ⟨_, -, h⟩ := Except.of_bind_ok h
  unfold buildP2PRoles at hroles
  obtain ⟨_, -, hroles⟩ := Except.of_bind_ok hroles
  obtain ⟨_, -, hroles⟩ := Except.of_bind_ok hroles
  cases hroles
  cases h
  exact ⟨rfl, rfl, rfl, rfl⟩

/-- Building a transaction changes neither the database nor the deployments. -/
theorem initializeEscrow_run (h : Deploys env.tw decode deployed) (payload : Payload) (w : World χ) : ∃ ext,
    ((env.tw.initializeEscrow payload).run w).2 = { w with ext := ext } ∧ deployed ext = deployed w.ext ∧
      ∀ unsigned, ((env.tw.initializeEscrow payload).run w).1 = .ok unsigned →
        ∃ c, (env.tw.deployer payload c).1 = .ok unsigned := by
  unfold TrustlessWorkService.initializeEscrow
  refine Svc.bind_ind (P := fun r => ∃ ext, r.2 = { w with ext := ext } ∧ deployed ext = deployed w.ext ∧
    ∀ unsigned, r.1 = .ok unsigned → ∃ c, (env.tw.deployer payload c).1 = .ok unsigned) (fun t w₁ h₁ => ?_)
    fun _ w₁ h₁ => ?_
  · have hstate := congrArg Prod.snd h₁
    rw [Svc.run_throwIf] at hstate
    exact ⟨w.ext, hstate.symm, rfl, fun _ h => by cases h⟩
  · obtain ⟨-, rfl⟩ := Svc.of_run_throwIf_ok h₁
    exact ⟨_, rfl, h.building payload w₁.ext, fun unsigned hu => ⟨w₁.ext, hu⟩⟩

/-- The broadcast of a built transaction deploys its payload, or throws and deploys nothing. -/
theorem deployBroadcast_run (h : Deploys env.tw decode deployed) (config : EscrowConfig) (secret : String)
    {unsigned : String} {p : Payload} (hbuilt : ∃ c, (env.tw.deployer p c).1 = .ok unsigned) (w : World χ) : ∃ ext,
    ((deployBroadcast env.tw config unsigned secret).run w).2 = { w with ext := ext } ∧
      ((∃ t, ((deployBroadcast env.tw config unsigned secret).run w).1 = .error t) ∧ deployed ext = deployed w.ext ∨
        ∃ c, ((deployBroadcast env.tw config unsigned secret).run w).1 = .ok c ∧
          Deployed deployed w.ext ext c p) := by
  obtain ⟨ext₀, hbuilt⟩ := hbuilt
  unfold deployBroadcast
  cases hsign : env.tw.sign unsigned secret (getNetworkPassphrase config) with
  | error t => exact ⟨w.ext, rfl, Or.inl ⟨⟨t, rfl⟩, rfl⟩⟩
  | ok signed =>
    have hdecode : decode signed = some p := h.built p ext₀ unsigned secret _ signed hbuilt hsign
    rw [Svc.run_bind_ok (Svc.run_ofExcept _ _), Svc.run_bind, external_run]
    refine ⟨(env.tw.sendTransaction signed w.ext).2, ?_⟩
    cases hsend : (env.tw.sendTransaction signed w.ext).1 with
    | error t =>
      refine ⟨rfl, Or.inl ⟨⟨t, rfl⟩, h.refused signed w.ext fun r hr => ?_⟩⟩
      rw [hsend] at hr
      cases hr
    | ok r =>
      by_cases hs : r.status = "SUCCESS"
      · obtain ⟨id, hid, hne, hfresh, hchain⟩ := h.deploys signed w.ext r p hsend hs hdecode
        have hfilter : r.contractId.filter (· ≠ "") = some id := by
          rw [hid, Option.filter_some, if_pos (decide_eq_true hne)]
        dsimp only
        rw [Svc.run_bind_ok (Svc.run_throwIf_neg (not_not_intro hs) _ _), hfilter, Svc.run_orThrow_some]
        exact ⟨rfl, Or.inr ⟨id, rfl, ⟨hchain, hfresh, hne⟩⟩⟩
      · have hrefused : deployed (env.tw.sendTransaction signed w.ext).2 = deployed w.ext := by
          refine h.refused signed w.ext fun r' hr' => ?_
          rw [hsend] at hr'
          cases hr'
          exact hs
        dsimp only
        rw [Svc.run_bind_error (Svc.run_throwIf_pos hs _ _)]
        exact ⟨rfl, Or.inl ⟨⟨_, rfl⟩, hrefused⟩⟩

/-- The transaction that is built is for the payload of the request. -/
theorem deployBuild_run (h : Deploys env.tw decode deployed) (config : EscrowConfig) (orderId : String)
    (dto : DeployDto) (w : World χ) : ∃ ext,
    ((deployBuild env.tw config orderId dto).run w).2 = { w with ext := ext } ∧ deployed ext = deployed w.ext ∧
      ∀ b, ((deployBuild env.tw config orderId dto).run w).1 = .ok b → ∃ p,
        deployRequest config orderId dto = .ok (p, b.2) ∧ ∃ c, (env.tw.deployer p c).1 = .ok b.1 := by
  unfold deployBuild
  cases hreq : deployRequest config orderId dto with
  | error t => exact ⟨w.ext, rfl, rfl, fun b hb => by cases hb⟩
  | ok request =>
    obtain ⟨ext, hw, hsame, hbuilt⟩ := initializeEscrow_run h request.1 w
    rw [Svc.run_bind_ok (Svc.run_ofExcept _ _)]
    rcases hinit : (env.tw.initializeEscrow request.1).run w with ⟨r, w₁⟩
    rw [hinit] at hw hbuilt
    obtain rfl : w₁ = { w with ext := ext } := hw
    cases r with
    | error t =>
      rw [Svc.run_bind_error hinit]
      exact ⟨ext, rfl, hsame, fun b hb => by cases hb⟩
    | ok unsigned =>
      rw [Svc.run_bind_ok hinit, Svc.run_pure]
      refine ⟨ext, rfl, hsame, fun b hb => ?_⟩
      cases hb
      exact ⟨request.1, rfl, hbuilt unsigned rfl⟩

/-- Building the funding transaction deploys nothing. -/
theorem deployFund_run (h : Deploys env.tw decode deployed) (contractId : String) (dto : DeployDto) (w : World χ) :
    ∃ ext, ((deployFund env.tw contractId dto).run w).2 = { w with ext := ext } ∧ deployed ext = deployed w.ext :=
  ⟨_, rfl, h.funding _ w.ext⟩

/-- **A deployment** throws before the broadcast is answered and deploys nothing, or deploys the payload, and may still
throw. -/
theorem deployEscrowToChain_run (h : Deploys env.tw decode deployed) (config : EscrowConfig) (orderId : String)
    (dto : DeployDto) (w : World χ) : ∃ ext,
    ((deployEscrowToChain env.tw config orderId dto).run w).2 = { w with ext := ext } ∧
      ((∃ t, ((deployEscrowToChain env.tw config orderId dto).run w).1 = .error t) ∧ deployed ext = deployed w.ext ∨
        ∃ c p secret, deployRequest config orderId dto = .ok (p, secret) ∧
          Deployed deployed w.ext ext c p ∧
          ∀ d, ((deployEscrowToChain env.tw config orderId dto).run w).1 = .ok d → d.contractId = c) := by
  unfold deployEscrowToChain
  obtain ⟨ext, hw, hsame, hbuilt⟩ := deployBuild_run h config orderId dto w
  rcases hbuild : (deployBuild env.tw config orderId dto).run w with ⟨r, w₁⟩
  rw [hbuild] at hw hbuilt
  obtain rfl : w₁ = { w with ext := ext } := hw
  cases r with
  | error t =>
    rw [Svc.run_bind_error hbuild]
    exact ⟨ext, rfl, Or.inl ⟨⟨t, rfl⟩, hsame⟩⟩
  | ok built =>
    obtain ⟨p, hreq, hp⟩ := hbuilt built rfl
    rw [Svc.run_bind_ok hbuild]
    obtain ⟨ext₂, hw₂, hcase⟩ := deployBroadcast_run h config built.2 hp { w with ext := ext }
    rcases hb : (deployBroadcast env.tw config built.1 built.2).run { w with ext := ext } with ⟨r, w₂⟩
    rw [hb] at hw₂ hcase
    obtain rfl : w₂ = { w with ext := ext₂ } := hw₂
    rcases hcase with ⟨⟨t, ht⟩, hext⟩ | ⟨c, hc, hdep⟩
    · obtain rfl : r = .error t := ht
      rw [Svc.run_bind_error hb]
      exact ⟨ext₂, rfl, Or.inl ⟨⟨t, rfl⟩, hext.trans hsame⟩⟩
    · obtain rfl : r = .ok c := hc
      rw [Svc.run_bind_ok hb]
      obtain ⟨ext₃, hw₃, hfund⟩ := deployFund_run h c dto { w with ext := ext₂ }
      have hdep' : Deployed deployed w.ext ext₃ c p := by
        refine ⟨?_, fun q => ?_, hdep.nonempty⟩
        · rw [← hsame]
          exact hfund.trans hdep.chain
        · rw [← hsame]
          exact hdep.fresh q
      rcases hf : (deployFund env.tw c dto).run { w with ext := ext₂ } with ⟨r, w₃⟩
      rw [hf] at hw₃
      obtain rfl : w₃ = { w with ext := ext₃ } := hw₃
      cases r with
      | error t =>
        rw [Svc.run_bind_error hf]
        exact ⟨ext₃, rfl, Or.inr ⟨c, p, built.2, hreq, hdep', fun d hd => by cases hd⟩⟩
      | ok unsigned =>
        rw [Svc.run_bind_ok hf, Svc.run_pure]
        refine ⟨ext₃, rfl, Or.inr ⟨c, p, built.2, hreq, hdep', fun d hd => ?_⟩⟩
        cases hd
        rfl

/-! ### `open` -/

theorem recordUnless_run (fault : Option Thrown) (entry : AuditLog) (w : World χ) :
    ∃ db, (recordUnless fault entry).run w = (.ok (), { w with db := db }) ∧ Rewritten id id w.db db := by
  cases fault with
  | some t => exact ⟨w.db, rfl, Rewritten.refl _⟩
  | none => exact AuditLogService.create_run entry w

/-- An update by id, or an error that leaves the database. -/
theorem updateRow_run (fault : Option Thrown) (k : String) (data : EscrowOnChain → EscrowOnChain) (w : World χ) :
    (∃ t, (faulty fault (prisma (Prisma.escrowOnChain.update k data))).run w = (.error t, w) ∧
      (fault ≠ none ∨ ∀ r, Prisma.escrowOnChain.update k data w.db ≠ .ok r)) ∨
    ∃ e db, (faulty fault (prisma (Prisma.escrowOnChain.update k data))).run w = (.ok (data e), { w with db := db }) ∧
      w.db.escrows.find? k = some e ∧ db.escrows.rows = w.db.escrows.rows.map (Table.atKey k data) := by
  rcases faulty_run fault (prisma (Prisma.escrowOnChain.update k data)) w with ⟨t, hf, hrun⟩ | ⟨-, hrun⟩
  · exact Or.inl ⟨t, hrun, Or.inl (by rw [hf]; exact Option.some_ne_none t)⟩
  · rw [hrun]
    cases hu : Prisma.escrowOnChain.update k data w.db with
    | error t => exact Or.inl ⟨t, prisma_run_error hu, Or.inr fun r hr => by cases hr⟩
    | ok r =>
      obtain ⟨r, db⟩ := r
      obtain ⟨e, he, rfl, -, hrows⟩ := Delegate.of_update hu
      exact Or.inr ⟨e, db, prisma_run_ok hu, he, hrows⟩

/-- A row after an update by id. -/
theorem of_mem_updated {rows : List EscrowOnChain} {t : Table EscrowOnChain} {k : String}
    {data : EscrowOnChain → EscrowOnChain} {e e' : EscrowOnChain} (hrows : rows = t.rows.map (Table.atKey k data))
    (he : t.find? k = some e) (h : e' ∈ rows) : e' ∈ t.rows ∧ e'.escrowId ≠ k ∨ e' = data e := by
  rw [hrows, List.mem_map] at h
  obtain ⟨x, hx, rfl⟩ := h
  by_cases hk : x.escrowId = k
  · have hfind : t.find? k = some x := Table.find?_eq_some.mpr ⟨hx, hk⟩
    obtain rfl : e = x := Option.some.inj (he.symm.trans hfind)
    exact Or.inr (Table.atKey_eq hk)
  · have hsame : Table.atKey k data x = x := Table.atKey_ne hk
    rw [hsame]
    exact Or.inl ⟨hx, hk⟩

/-- A row can take a contract that no row of another order has. -/
theorem contract_update_isOk {db : Db} {k c : String} {e : EscrowOnChain} {data : EscrowOnChain → EscrowOnChain}
    (he : db.escrows.find? k = some e) (hid : (data e).escrowId = e.escrowId) (horder : (data e).orderId = e.orderId)
    (hc : (data e).contractId = some c) (hfree : ∀ x ∈ db.escrows.rows, x.contractId = some c → x.orderId = e.orderId) :
    ∃ db', Prisma.escrowOnChain.update k data db = .ok (data e, db') := by
  obtain ⟨hmem, hk⟩ := Table.find?_eq_some.mp he
  have hsame : ∀ x ∈ db.escrows.rows, x.orderId = e.orderId → x = e := fun x hx heq =>
    Table.eq_of_clash hx hmem (Or.inr ⟨_, List.mem_cons_self, Option.some_ne_none _, congrArg some heq⟩)
  have hclash : ∀ x ∈ db.escrows.rows, Keyed.key x ≠ k → ¬ Clash x (data e) := by
    rintro x hx hne hclash
    have hxe : x = e := by
      rcases hclash with hkey | ⟨u, hu, -, heq⟩
      · exact absurd (hkey.trans (hid.trans hk)) hne
      · rcases List.mem_pair.mp hu with rfl | rfl
        · exact hsame x hx ((Option.some.inj heq).trans horder)
        · exact hsame x hx (hfree x hx (heq.trans hc))
    rw [hxe] at hne
    exact hne hk
  exact Prisma.escrowOnChain_update_of_replace he horder (dif_pos hclash)

theorem createRow_eq_ok {codec : AmountCodec} {freshId orderId : String} {dto : EscrowParameters}
    {status : EscrowStatus} {db db' : Db} {e : EscrowOnChain}
    (h : createRow codec freshId orderId dto status db = .ok (e, db')) : ∃ amount t,
    codec.decimalOfNumber dto.amount = some amount ∧ e = newEscrow freshId orderId dto amount status ∧
      db.escrows.insert e = some t ∧ db'.escrows = t := by
  unfold createRow at h
  split at h
  · cases h
  · rename_i amount hamount
    obtain ⟨t, ht, rfl, hdb⟩ := Delegate.create_eq_ok.mp h
    exact ⟨amount, t, hamount, rfl, ht, congrArg Tables.escrows hdb⟩

theorem openAudit_run (dto : OpenEscrowDto) (isNew : Bool) (escrowId contractId : String) (fault : Option Thrown)
    (w : World χ) : ∃ db, (openAudit dto isNew escrowId contractId fault).run w = (.ok (), { w with db := db }) ∧
      Rewritten id id w.db db := by
  unfold openAudit
  split
  · exact recordUnless_run fault _ w
  · exact ⟨w.db, rfl, Rewritten.refl _⟩

/-- What `open` does with the row once the contract is deployed: the contract is stored in it, or not, because of a
fault or because some row has it. -/
theorem openStore_run {e : EscrowOnChain} (he : w.db.escrows.find? e.escrowId = some e) (dto : OpenEscrowDto)
    (isNew : Bool) (d : DeployedEscrow) (faults : DbFaults) : ∃ db,
    ((do
      let _ ← openUpdate e.escrowId d.contractId faults.update
      openAudit dto isNew e.escrowId d.contractId faults.audit
      pure (⟨e.escrowId, d.contractId, d.unsignedFundTransaction⟩ : OpenEscrowResponse) :
        Service χ OpenEscrowResponse).run w).2 = { w with db := db } ∧
      (db.escrows.rows = w.db.escrows.rows ∧
          (faults.update ≠ none ∨ ∃ x ∈ w.db.escrows.rows, x.contractId = some d.contractId) ∨
        db.escrows.rows = w.db.escrows.rows.map (Table.atKey e.escrowId (storeContract d.contractId))) := by
  rcases updateRow_run faults.update e.escrowId (storeContract d.contractId) w with
    ⟨t, hrun, hwhy⟩ | ⟨e', db, hrun, -, hrows⟩
  · rw [openUpdate, Svc.run_bind_error hrun]
    refine ⟨w.db, rfl, Or.inl ⟨rfl, ?_⟩⟩
    by_contra hneither
    rw [not_or] at hneither
    obtain ⟨hfault, hfree⟩ := hneither
    rcases hwhy with hwhy | hwhy
    · exact hfault hwhy
    · obtain ⟨db, hok⟩ : ∃ db, Prisma.escrowOnChain.update e.escrowId (storeContract d.contractId) w.db =
          .ok (storeContract d.contractId e, db) :=
        contract_update_isOk he rfl rfl rfl fun x hx hxc => absurd ⟨x, hx, hxc⟩ hfree
      exact hwhy _ hok
  · obtain ⟨db', haudit, hre⟩ := openAudit_run dto isNew e.escrowId d.contractId faults.audit { w with db := db }
    rw [openUpdate, Svc.run_bind_ok hrun, Svc.run_bind_ok haudit, Svc.run_pure]
    exact ⟨db', rfl, Or.inr (by rw [hre.escrows, List.map_id]; exact hrows)⟩

theorem open_did (h : Deploys env.tw decode deployed) (dto : OpenEscrowDto) (freshId : String) (faults : DbFaults)
    (w : World χ) : Did env deployed w (.openEscrow dto freshId faults)
      ((EscrowService.openEscrow env.tw env.config env.codec dto freshId faults).run w).2 := by
  unfold EscrowService.openEscrow
  refine Svc.bind_ind (P := fun r => Did env deployed w (.openEscrow dto freshId faults) r.2) (fun t w₁ h₁ => ?_)
    fun existing w₁ h₁ => ?_
  · have hstate := findUndeployed_state faults.find dto.orderId w
    rw [h₁] at hstate
    obtain rfl : w₁ = w := hstate
    exact did_of_escrows rfl (Grows.refl _)
  obtain ⟨rfl, rfl, hnone⟩ := of_findUndeployed_ok h₁
  obtain ⟨ext, hw, hcase⟩ := deployEscrowToChain_run h env.config dto.orderId dto.deployDto w₁
  rcases h₂ : (EscrowService.deployEscrowToChain env.tw env.config dto.orderId dto.deployDto).run w₁ with ⟨t | d, w₂⟩
  · rw [h₂] at hw hcase
    obtain rfl : w₂ = { w₁ with ext := ext } := hw
    rw [Svc.run_bind_error h₂]
    refine did_of_escrows rfl ?_
    rcases hcase with ⟨-, hsame⟩ | ⟨c, p, secret, -, hdep, -⟩
    · exact Grows.of_same hsame
    · exact hdep.grows
  rw [h₂] at hw hcase
  obtain rfl : w₂ = { w₁ with ext := ext } := hw
  rw [Svc.run_bind_ok h₂]
  rcases hcase with ⟨⟨t, ht⟩, -⟩ | ⟨c, p, secret, hreq, hdep, hd⟩
  · cases ht
  obtain rfl : d.contractId = c := hd d rfl
  cases hexisting : escrowByOrderId w₁.db dto.orderId with
  | some e =>
    obtain ⟨he, horder⟩ := escrowByOrderId_eq_some.mp hexisting
    rw [hexisting, Option.bind_some] at hnone
    have hfind : w₁.db.escrows.find? e.escrowId = some e := Table.find?_eq_some.mpr ⟨he, rfl⟩
    obtain ⟨db, hrun, hrows⟩ := openStore_run (w := { w₁ with ext := ext }) hfind dto (some e).isNone d faults
    rw [openCreate, Svc.run_bind_ok (Svc.run_pure _ _), hrun]
    refine ⟨fun x hx => ?_, hdep.grows⟩
    rcases hrows with ⟨hsame, -⟩ | hrows
    · exact .kept (hsame ▸ hx)
    · rcases of_mem_updated hrows hfind hx with ⟨hx, -⟩ | rfl
      · exact .kept hx
      · exact .reopened he horder hnone hreq hdep
  | none =>
    rw [openCreate]
    rcases faulty_run faults.create (prisma (createRow env.codec freshId dto.orderId dto.toEscrowParameters .initialized))
      { w₁ with ext := ext } with ⟨t, -, hrun⟩ | ⟨-, hrun⟩
    · rw [Svc.run_bind_error hrun]
      exact did_of_escrows rfl hdep.grows
    cases hcreate : createRow env.codec freshId dto.orderId dto.toEscrowParameters .initialized w₁.db with
    | error t =>
      rw [Svc.run_bind_error (hrun.trans (prisma_run_error hcreate))]
      exact did_of_escrows rfl hdep.grows
    | ok r =>
      obtain ⟨e, db⟩ := r
      rw [Svc.run_bind_ok (hrun.trans (prisma_run_ok hcreate))]
      obtain ⟨amount, table, hamount, rfl, hinsert, htable⟩ := createRow_eq_ok hcreate
      have hmem : ∀ x, x ∈ db.escrows.rows ↔ x ∈ w₁.db.escrows.rows ∨ x = newEscrow freshId dto.orderId
          dto.toEscrowParameters amount .initialized := fun x => by rw [htable]; exact Table.mem_insert hinsert
      have hfind : db.escrows.find? freshId = some (newEscrow freshId dto.orderId dto.toEscrowParameters amount
          .initialized) := Table.find?_eq_some.mpr ⟨(hmem _).mpr (Or.inr rfl), rfl⟩
      obtain ⟨db', hrun, hrows⟩ := openStore_run (w := { w₁ with db := db, ext := ext })
        (e := newEscrow freshId dto.orderId dto.toEscrowParameters amount .initialized) hfind dto
        (none : Option EscrowOnChain).isNone d faults
      rw [hrun]
      refine ⟨fun x hx => ?_, hdep.grows⟩
      rcases hrows with ⟨hsame, hwhy⟩ | hrows
      · rcases (hmem x).mp (hsame ▸ hx) with hx | rfl
        · exact .kept hx
        · refine .halfOpened hdep hexisting (hwhy.imp_right ?_)
          rintro ⟨y, hy, hyc⟩
          rcases (hmem y).mp hy with hy | rfl
          · exact ⟨y, hy, hyc⟩
          · cases hyc
      · rcases of_mem_updated hrows hfind hx with ⟨hx, hne⟩ | rfl
        · rcases (hmem x).mp hx with hx | rfl
          · exact .kept hx
          · exact absurd rfl hne
        · exact .opened hamount hreq hdep

/-! ### `initialize` -/

theorem initializeBuild_run (h : Deploys env.tw decode deployed) (dto : InitializeEscrowDto) (w : World χ) : ∃ ext,
    ((initializeBuild env.tw env.config dto).run w).2 = { w with ext := ext } ∧ deployed ext = deployed w.ext := by
  unfold initializeBuild
  cases hpayload : initializePayload env.config dto with
  | error t => exact ⟨w.ext, rfl, rfl⟩
  | ok payload =>
    rw [Svc.run_bind_ok (Svc.run_ofExcept _ _)]
    obtain ⟨ext, hw, hsame, -⟩ := initializeEscrow_run h payload w
    exact ⟨ext, hw, hsame⟩

theorem initializeAudit_run (dto : InitializeEscrowDto) (isNew : Bool) (escrowId : String) (fault : Option Thrown)
    (w : World χ) : ∃ db, (initializeAudit dto isNew escrowId fault).run w = (.ok (), { w with db := db }) ∧
      Rewritten id id w.db db := by
  unfold initializeAudit
  split
  · exact recordUnless_run fault _ w
  · exact ⟨w.db, rfl, Rewritten.refl _⟩

/-- The second reading of `initialize`, the row it writes, and the audit row. -/
theorem initializeStore_did (env : EscrowEnv χ) (dto : InitializeEscrowDto) (freshId : String) (faults : DbFaults) {ext : χ}
    (hsame : deployed ext = deployed w.ext) (hnone : (escrowByOrderId w.db dto.orderId).bind contract? = none) :
    Did env deployed w (.initializeEscrow dto freshId faults)
      ((initializeStore env.codec dto freshId faults (escrowByOrderId w.db dto.orderId)).run { w with ext := ext }).2 := by
  cases hfound : escrowByOrderId w.db dto.orderId with
  | none =>
    rw [initializeStore]
    rcases faulty_run faults.create (prisma (createRow env.codec freshId dto.orderId dto.toEscrowParameters .pending))
      { w with ext := ext } with ⟨t, -, hrun⟩ | ⟨-, hrun⟩
    · rw [hrun]
      exact did_of_escrows rfl (Grows.of_same hsame)
    rw [hrun]
    cases hcreate : createRow env.codec freshId dto.orderId dto.toEscrowParameters .pending w.db with
    | error t =>
      rw [prisma_run_error (w := { w with ext := ext }) hcreate]
      exact did_of_escrows rfl (Grows.of_same hsame)
    | ok r =>
      obtain ⟨e, db⟩ := r
      rw [prisma_run_ok (w := { w with ext := ext }) hcreate]
      obtain ⟨amount, table, -, rfl, hinsert, htable⟩ := createRow_eq_ok hcreate
      refine ⟨fun x hx => ?_, Grows.of_same hsame⟩
      have hx : x ∈ table.rows := htable ▸ hx
      rcases (Table.mem_insert hinsert).mp hx with hx | rfl
      · exact .kept hx
      · exact .initialized
  | some e =>
    obtain ⟨he, -⟩ := escrowByOrderId_eq_some.mp hfound
    rw [hfound, Option.bind_some] at hnone
    have hfind : w.db.escrows.find? e.escrowId = some e := Table.find?_eq_some.mpr ⟨he, rfl⟩
    rw [initializeStore]
    cases hamount : env.codec.decimalOfNumber dto.amount with
    | none =>
      have hthrow : updateParameters env.codec e.escrowId dto.toEscrowParameters w.db = .error (.prisma .validation) := by
        rw [updateParameters, hamount]
      rcases faulty_run faults.update (prisma (updateParameters env.codec e.escrowId dto.toEscrowParameters))
        { w with ext := ext } with ⟨t, -, hrun⟩ | ⟨-, hrun⟩
      · rw [hrun]
        exact did_of_escrows rfl (Grows.of_same hsame)
      · rw [hrun, prisma_run_error (w := { w with ext := ext }) hthrow]
        exact did_of_escrows rfl (Grows.of_same hsame)
    | some amount =>
      have hupdate : updateParameters env.codec e.escrowId dto.toEscrowParameters =
          Prisma.escrowOnChain.update e.escrowId (reparametrise dto.toEscrowParameters amount) := by
        unfold updateParameters
        rw [hamount]
      rw [hupdate]
      rcases updateRow_run faults.update e.escrowId (reparametrise dto.toEscrowParameters amount)
        { w with ext := ext } with ⟨t, hrun, -⟩ | ⟨_, db, hrun, -, hrows⟩
      · rw [hrun]
        exact did_of_escrows rfl (Grows.of_same hsame)
      · rw [hrun]
        refine ⟨fun x hx => ?_, Grows.of_same hsame⟩
        rcases of_mem_updated hrows hfind hx with ⟨hx, -⟩ | rfl
        · exact .kept hx
        · exact .reparametrised he hnone

theorem initialize_did (h : Deploys env.tw decode deployed) (dto : InitializeEscrowDto) (freshId : String)
    (faults : DbFaults) (w : World χ) : Did env deployed w (.initializeEscrow dto freshId faults)
      ((EscrowService.initializeEscrow env.tw env.config env.codec dto freshId faults).run w).2 := by
  unfold EscrowService.initializeEscrow
  refine Svc.bind_ind (P := fun r => Did env deployed w (.initializeEscrow dto freshId faults) r.2)
    (fun t w₁ h₁ => ?_) fun existing w₁ h₁ => ?_
  · have hstate := initializeCheck_state dto faults.find w
    rw [h₁] at hstate
    obtain rfl : w₁ = w := hstate
    exact did_of_escrows rfl (Grows.refl _)
  obtain ⟨rfl, hnone⟩ := of_initializeCheck_ok h₁
  obtain ⟨ext, hw, hsame⟩ := initializeBuild_run h dto w₁
  refine Svc.bind_ind (P := fun r => Did env deployed w₁ (.initializeEscrow dto freshId faults) r.2)
    (fun t w₂ h₂ => ?_) fun unsigned w₂ h₂ => ?_
  · rw [h₂] at hw
    obtain rfl : w₂ = { w₁ with ext := ext } := hw
    exact did_of_escrows rfl (Grows.of_same hsame)
  rw [h₂] at hw
  obtain rfl : w₂ = { w₁ with ext := ext } := hw
  rcases faulty_findByOrder_run faults.findAgain dto.orderId { w₁ with ext := ext } with ⟨t, hrun⟩ | hrun
  · rw [Svc.run_bind_error hrun]
    exact did_of_escrows rfl (Grows.of_same hsame)
  rw [Svc.run_bind_ok hrun]
  have hdid := initializeStore_did env dto freshId faults hsame hnone
  refine Svc.bind_ind (P := fun r => Did env deployed w₁ (.initializeEscrow dto freshId faults) r.2)
    (fun t w₃ h₃ => ?_) fun e w₃ h₃ => ?_
  · rw [h₃] at hdid
    exact hdid
  rw [h₃] at hdid
  obtain ⟨db, haudit, hre⟩ := initializeAudit_run dto (escrowByOrderId w₁.db dto.orderId).isNone e.escrowId faults.audit w₃
  rw [Svc.run_bind_ok haudit, Svc.run_pure]
  exact hdid.of_rows (by rw [hre.escrows, List.map_id]) rfl

/-! ### The other calls -/

/-- A new order comes with one new escrow. -/
theorem of_createTx_ok {codec : AmountCodec} {orderId freshId c : String} {dto : CreateOrderDto} {db db' : Db}
    {o : Order} (h : createTx codec orderId freshId c dto db = .ok (o, db')) : ∃ amount,
      codec.decimal dto.assetAmount = some amount ∧
      db.escrows.insert (escrowRow orderId freshId c dto amount) = some db'.escrows := by
  obtain ⟨row, db₁, h₁, h⟩ := Tx.of_bind_ok h
  obtain ⟨order, db₂, h₂, h⟩ := Tx.of_bind_ok h
  obtain ⟨_, db₃, h₃, h⟩ := Tx.of_bind_ok h
  obtain ⟨_, db₄, h₄, h⟩ := Tx.of_bind_ok h
  cases h
  cases hrow : orderRow codec orderId dto with
  | error t =>
    rw [hrow] at h₁
    cases h₁
  | ok r =>
    rw [hrow] at h₁
    cases h₁
    obtain ⟨t₂, -, rfl, hdb₂⟩ := Delegate.create_eq_ok.mp h₂
    obtain ⟨t₃, hinsert, -, hdb₃⟩ := Delegate.create_eq_ok.mp h₃
    obtain ⟨-, -, -, hdb₄, -⟩ := Delegate.of_update h₄
    refine ⟨o.assetAmount, ?_, ?_⟩
    · unfold orderRow at hrow
      obtain ⟨amount, hamount, hrow⟩ := Except.of_bind_ok hrow
      obtain ⟨_, -, hrow⟩ := Except.of_bind_ok hrow
      obtain ⟨_, -, hrow⟩ := Except.of_bind_ok hrow
      cases hrow
      cases hd : codec.decimal dto.assetAmount with
      | none => simp [hd] at hamount
      | some a =>
        rw [hd] at hamount
        cases hamount
        rfl
    · have h₄₃ : db'.escrows = db₃.escrows := by rw [hdb₄]; rfl
      have h₃t : db₃.escrows = t₃ := by rw [hdb₃]; rfl
      have h₂₁ : Prisma.escrowOnChain.get db₂.toTables = db.escrows := by rw [hdb₂]; rfl
      rw [h₂₁] at hinsert
      rw [h₄₃, h₃t]
      exact hinsert

theorem createOrder_did (h : Deploys env.tw decode deployed) (dto : CreateOrderDto) (orderId freshId : String)
    (faults : DbFaults) (w : World χ) : Did env deployed w (.createOrder dto orderId freshId faults)
      ((OrderService.create env.tw env.config env.codec dto orderId freshId faults).run w).2 := by
  unfold OrderService.create
  obtain ⟨ext, hw, hcase⟩ := deployEscrowToChain_run h env.config orderId (deployDto env.codec orderId dto) w
  rcases h₁ : (EscrowService.deployEscrowToChain env.tw env.config orderId (deployDto env.codec orderId dto)).run w with
    ⟨t | d, w₁⟩
  · rw [h₁] at hw hcase
    obtain rfl : w₁ = { w with ext := ext } := hw
    rw [Svc.run_bind_error h₁]
    refine did_of_escrows rfl ?_
    rcases hcase with ⟨-, hsame⟩ | ⟨c, p, secret, -, hdep, -⟩
    · exact Grows.of_same hsame
    · exact hdep.grows
  rw [h₁] at hw hcase
  obtain rfl : w₁ = { w with ext := ext } := hw
  rw [Svc.run_bind_ok h₁]
  rcases hcase with ⟨⟨t, ht⟩, -⟩ | ⟨c, p, secret, hreq, hdep, hd⟩
  · cases ht
  obtain rfl : d.contractId = c := hd d rfl
  rcases faulty_run faults.create (prisma (createTx env.codec orderId freshId d.contractId dto)) { w with ext := ext }
    with ⟨t, -, hrun⟩ | ⟨-, hrun⟩
  · rw [Svc.run_bind_error hrun]
    exact did_of_escrows rfl hdep.grows
  cases hcreate : createTx env.codec orderId freshId d.contractId dto w.db with
  | error t =>
    rw [Svc.run_bind_error (hrun.trans (prisma_run_error hcreate))]
    exact did_of_escrows rfl hdep.grows
  | ok r =>
    obtain ⟨o, db⟩ := r
    obtain ⟨amount, hamount, hinsert⟩ := of_createTx_ok hcreate
    obtain ⟨db', haudit, hre⟩ := recordUnless_run faults.audit (OrderService.createdEntry orderId dto)
      { w with db := db, ext := ext }
    rw [Svc.run_bind_ok (hrun.trans (prisma_run_ok hcreate)), Svc.run_bind_ok haudit, Svc.run_pure]
    have hdid : Did env deployed w (.createOrder dto orderId freshId faults) { w with db := db, ext := ext } := by
      refine ⟨fun x hx => ?_, hdep.grows⟩
      rcases (Table.mem_insert hinsert).mp hx with hx | rfl
      · exact .kept hx
      · exact .ordered hamount hreq hdep
    exact hdid.of_rows (by rw [hre.escrows, List.map_id]) rfl

/-- A row without a contract is created, or refused. -/
theorem createPending_did {dto : CreateEscrowDto} {freshId : String} {e : EscrowOnChain} (hc : e.contractId = none)
    (hs : e.escrowStatus = .pending) : Did env deployed w (.createEscrow dto freshId)
      ((prisma (Prisma.escrowOnChain.create e) : Service χ EscrowOnChain).run w).2 := by
  cases hcreate : Prisma.escrowOnChain.create e w.db with
  | error t =>
    rw [prisma_run_error hcreate]
    exact did_of_escrows rfl (Grows.refl _)
  | ok r =>
    obtain ⟨_, db⟩ := r
    obtain ⟨t, hinsert, rfl, hdb⟩ := Delegate.create_eq_ok.mp hcreate
    have ht : db.escrows = t := congrArg Tables.escrows hdb
    rw [prisma_run_ok hcreate]
    refine ⟨fun x hx => ?_, Grows.refl _⟩
    rcases (Table.mem_insert hinsert).mp (ht ▸ hx) with hx | rfl
    · exact .kept hx
    · exact .created hc hs

theorem createEscrow_did (dto : CreateEscrowDto) (freshId : String) (w : World χ) :
    Did env deployed w (.createEscrow dto freshId) ((EscrowService.create dto freshId).run w).2 := by
  refine Svc.bind_ind (P := fun r => Did env deployed w (.createEscrow dto freshId) r.2) (fun t w₀ h₀ => ?_)
    fun found w₀ h₀ => ?_
  · have hstate := prisma_lookup_state (isUuid dto.orderId) (fun db => escrowByOrderId db dto.orderId) w
    rw [show w₀ = w from (congrArg Prod.snd h₀).symm.trans hstate]
    exact did_of_escrows rfl (Grows.refl _)
  obtain ⟨-, rfl⟩ := of_prisma_lookup_ok h₀
  refine Svc.bind_ind (P := fun r => Did env deployed w₀ (.createEscrow dto freshId) r.2) (fun t w₁ h₁ => ?_)
    fun _ w₁ h₁ => ?_
  · rw [Svc.run_throwIf] at h₁
    obtain rfl : w₀ = w₁ := congrArg Prod.snd h₁
    exact did_of_escrows rfl (Grows.refl _)
  · obtain ⟨-, rfl⟩ := Svc.of_run_throwIf_ok h₁
    exact createPending_did rfl rfl

/-- A submitted transaction only adds to the deployments. -/
theorem send_grows (h : Deploys env.tw decode deployed) (xdr : String) (x : χ) :
    Grows deployed x (env.tw.sendTransaction xdr x).2 := by
  by_cases hs : ∃ r, (env.tw.sendTransaction xdr x).1 = .ok r ∧ r.status = "SUCCESS"
  · obtain ⟨r, hr, hs⟩ := hs
    cases hp : decode xdr with
    | none => exact Grows.of_same (h.others xdr x r hr hs hp).2
    | some p =>
      obtain ⟨id, -, hne, hfresh, hchain⟩ := h.deploys xdr x r p hr hs hp
      exact Deployed.grows ⟨hchain, hfresh, hne⟩
  · refine Grows.of_same (h.refused xdr x fun r hr hsucc => hs ⟨r, hr, hsucc⟩)

theorem sync_did (h : Deploys env.tw decode deployed) (dto : SyncEscrowDto) (w : World χ) :
    Did env deployed w (.syncTransaction dto)
      ((EscrowService.syncTransaction env.tw.toTrustlessWork dto).run w).2 := by
  rcases syncTransaction_cases env.tw.toTrustlessWork dto w with
    ⟨ext, hrun, hext⟩ | ⟨e, r, db, hrun, hfind, hvalid, hanswer, hsucc, hre⟩
  · rw [hrun]
    refine did_of_escrows rfl ?_
    rcases hext with rfl | rfl
    · exact Grows.refl _
    · exact send_grows h dto.signedXdr w.ext
  · rw [hrun]
    refine ⟨fun x hx => ?_, send_grows h dto.signedXdr w.ext⟩
    rcases of_mem_updated hre.escrows hfind hx with ⟨hx, -⟩ | rfl
    · exact .kept hx
    · exact .synced hfind hvalid hanswer hsucc rfl

theorem update_did (id : String) (dto : UpdateEscrowDto) (w : World χ) :
    Did env deployed w (.updateEscrow id dto) ((EscrowService.update id dto).run w).2 := by
  unfold EscrowService.update
  cases hid : Prisma.given (fun s => some (uuid s)) dto.orderId with
  | error t => exact did_of_escrows rfl (Grows.refl _)
  | ok orderId =>
    rw [Svc.run_bind_ok (Svc.run_ofExcept _ _)]
    cases hu : Prisma.escrowOnChain.update (uuid id) (updateData dto orderId) w.db with
    | error t =>
      rw [prisma_run_error hu]
      exact did_of_escrows rfl (Grows.refl _)
    | ok r =>
      obtain ⟨r, db⟩ := r
      obtain ⟨e, hfind, -, -, hrows⟩ := Delegate.of_update hu
      rw [prisma_run_ok hu]
      refine ⟨fun x hx => ?_, Grows.refl _⟩
      rcases of_mem_updated hrows hfind hx with ⟨hx, -⟩ | rfl
      · exact .kept hx
      · exact .updated hfind hid

theorem remove_did (id : String) (w : World χ) :
    Did env deployed w (.removeEscrow id) ((EscrowService.remove id).run w).2 := by
  unfold EscrowService.remove
  cases hd : Prisma.escrowOnChain.delete (uuid id) w.db with
  | error t =>
    rw [prisma_run_error hd]
    exact did_of_escrows rfl (Grows.refl _)
  | ok r =>
    obtain ⟨e, db⟩ := r
    obtain ⟨-, hdb⟩ := Delegate.delete_eq_ok.mp hd
    have hescrows : db.escrows = w.db.escrows.filter fun x => Keyed.key x ≠ uuid id := congrArg Tables.escrows hdb
    rw [prisma_run_ok hd]
    refine ⟨fun x hx => ?_, Grows.refl _⟩
    have hx : x ∈ db.escrows.rows := hx
    rw [hescrows] at hx
    exact .kept (List.mem_of_mem_filter hx)

theorem processEvent_did (inst : ℕ) (fault : Option Thrown) (event : OnChainEscrowEvent) (w : World χ) :
    Did env deployed w (.processEvent inst fault event)
      ((StellarListenerService.processEvent inst fault event).run w).2 := by
  have hrun := processEvent_run inst fault event w
  cases hv : verdict inst event w with
  | ignored =>
    rw [hv] at hrun
    rw [hrun]
    exact did_of_escrows rfl (Grows.refl _)
  | skipped =>
    rw [hv] at hrun
    rw [hrun]
    exact did_of_escrows rfl (Grows.refl _)
  | throws t =>
    rw [hv] at hrun
    rw [hrun]
    exact did_of_escrows rfl (Grows.refl _)
  | applicable e =>
    obtain ⟨-, hfind, hvalid⟩ := verdict_applicable.mp hv
    rw [hv] at hrun
    cases fault with
    | some t =>
      rw [hrun]
      exact did_of_escrows rfl (Grows.refl _)
    | none =>
      obtain ⟨db, hrun, hre⟩ := hrun
      rw [hrun]
      refine ⟨fun x hx => ?_, Grows.refl _⟩
      have he : w.db.escrows.find? e.escrowId = some e := Table.find?_eq_some.mpr ⟨findEscrow_mem hfind, rfl⟩
      rcases of_mem_updated hre.escrows he hx with ⟨hx, -⟩ | rfl
      · exact .kept hx
      · exact .applied hfind hvalid

/-- **What a call does** to the rows and to the deployments. -/
theorem desk_did (h : Deploys env.tw decode deployed) (w : World χ) (op : DeskOp) :
    Did env deployed w op ((desk env).next w op) := by
  show Did env deployed w op ((op.service env).run w).2
  cases op with
  | openEscrow dto freshId faults =>
    rw [DeskOp.service, Svc.run_map_state]
    exact open_did h dto freshId faults w
  | initializeEscrow dto freshId faults =>
    rw [DeskOp.service, Svc.run_map_state]
    exact initialize_did h dto freshId faults w
  | createOrder dto orderId freshId faults =>
    rw [DeskOp.service, Svc.run_map_state]
    exact createOrder_did h dto orderId freshId faults w
  | createEscrow dto freshId =>
    rw [DeskOp.service, Svc.run_map_state]
    exact createEscrow_did dto freshId w
  | syncTransaction dto =>
    rw [DeskOp.service, Svc.run_map_state]
    exact sync_did h dto w
  | updateEscrow id dto =>
    rw [DeskOp.service, Svc.run_map_state]
    exact update_did id dto w
  | removeEscrow id =>
    rw [DeskOp.service, Svc.run_map_state]
    exact remove_did id w
  | processEvent inst fault event =>
    rw [DeskOp.service, Svc.run_map_state]
    exact processEvent_did inst fault event w

/-! ## Contracts that are stored -/

theorem Grows.mem {x x' : χ} {d : String × Payload} (h : Grows deployed x x') (hd : d ∈ deployed x) :
    d ∈ deployed x' := by
  obtain ⟨new, hx', -⟩ := h
  rw [hx']
  exact List.mem_append_left _ hd

/-- A contract that was deployed is not deployed again. -/
theorem Grows.of_mem {x x' : χ} {c : String} {p q : Payload} (h : Grows deployed x x') (hq : (c, q) ∈ deployed x)
    (hp : (c, p) ∈ deployed x') : (c, p) ∈ deployed x := by
  obtain ⟨new, hx', hnew⟩ := h
  rw [hx', List.mem_append] at hp
  rcases hp with hp | hp
  · exact hp
  · exact absurd hq (hnew c p q hp)

theorem Deployed.mem_iff {x x' : χ} {c : String} {p q : Payload} (h : Deployed deployed x x' c p) :
    (c, q) ∈ deployed x' ↔ q = p := by
  rw [h.chain, List.mem_append, List.mem_singleton, Prod.mk.injEq]
  constructor
  · rintro (hq | ⟨-, rfl⟩)
    · exact absurd hq (h.fresh q)
    · rfl
  · rintro rfl
    exact Or.inr ⟨rfl, rfl⟩

/-- The contract of a synced row is the one it had, or the one that the transaction deployed. -/
theorem contract_of_synced (h : Deploys env.tw decode deployed) {dto : SyncEscrowDto} {r : SendTransactionResponse}
    {e : EscrowOnChain} {c : String} (hanswer : (env.tw.sendTransaction dto.signedXdr w.ext).1 = .ok r)
    (hs : r.status = "SUCCESS") (hc : (syncData dto r e).contractId = some c) :
    e.contractId = some c ∨ dto.action = .initializeEscrow ∧ ∃ p, decode dto.signedXdr = some p ∧
      Deployed deployed w.ext (env.tw.sendTransaction dto.signedXdr w.ext).2 c p := by
  by_cases ha : dto.action = .initializeEscrow
  · have hdata : (syncData dto r e).contractId = (r.contractId.filter (· ≠ "")).or e.contractId := by
      unfold syncData
      rw [ha]
    rw [hdata] at hc
    cases hp : decode dto.signedXdr with
    | none =>
      obtain ⟨hnone, -⟩ := h.others dto.signedXdr w.ext r hanswer hs hp
      rw [hnone] at hc
      exact Or.inl hc
    | some p =>
      obtain ⟨id, hid, hne, hfresh, hchain⟩ := h.deploys dto.signedXdr w.ext r p hanswer hs hp
      rw [hid, Option.filter_some, if_pos (decide_eq_true hne), Option.some_or] at hc
      obtain rfl : id = c := Option.some.inj hc
      exact Or.inr ⟨ha, p, rfl, hchain, hfresh, hne⟩
  · rw [syncData_contractId ha] at hc
    exact Or.inl hc

/-- Every contract of a row was deployed. -/
def ContractsDeployed (deployed : χ → Deployments) (w : World χ) : Prop :=
  ∀ e ∈ w.db.escrows.rows, ∀ c, e.contractId = some c → c ≠ "" ∧ ∃ p, (c, p) ∈ deployed w.ext

theorem Did.contractsDeployed (h : Deploys env.tw decode deployed) (hdid : Did env deployed w op w')
    (hI : ContractsDeployed deployed w) : ContractsDeployed deployed w' := by
  have hkept : ∀ e ∈ w.db.escrows.rows, ∀ c, e.contractId = some c → c ≠ "" ∧ ∃ p, (c, p) ∈ deployed w'.ext := by
    intro e he c hc
    obtain ⟨hne, p, hp⟩ := hI e he c hc
    exact ⟨hne, p, hdid.grows.mem hp⟩
  intro e he c hc
  cases hdid.rows e he with
  | kept hmem => exact hkept e hmem c hc
  | reopened _ _ _ _ hdep =>
    cases hc
    exact ⟨hdep.nonempty, _, hdep.mem_iff.mpr rfl⟩
  | opened _ _ hdep =>
    cases hc
    exact ⟨hdep.nonempty, _, hdep.mem_iff.mpr rfl⟩
  | halfOpened => cases hc
  | initialized => cases hc
  | reparametrised hmem _ => exact hkept _ hmem c hc
  | ordered _ _ hdep =>
    cases hc
    exact ⟨hdep.nonempty, _, hdep.mem_iff.mpr rfl⟩
  | created hnone _ =>
    rw [hnone] at hc
    cases hc
  | synced hfind _ hanswer hs hx =>
    rcases contract_of_synced h hanswer hs hc with hc | ⟨-, p, -, hdep⟩
    · exact hkept _ (Table.find?_eq_some.mp hfind).1 c hc
    · rw [← hx] at hdep
      exact ⟨hdep.nonempty, p, hdep.mem_iff.mpr rfl⟩
  | updated hfind _ => exact hkept _ (Table.find?_eq_some.mp hfind).1 c hc
  | applied hfind _ => exact hkept _ (findEscrow_mem hfind) c hc

end Did

/-! ## One desk

A Trustless Work that knows the transactions of a book, and a database with two orders of one offer and no escrow. -/

namespace Desk

abbrev Book := List (String × Payload)

def payloadOf (book : Book) (xdr : String) : Option Payload := book.lookup xdr

/-- The length of an id longer than every id before. -/
def nextLength (ds : Deployments) : ℕ := (ds.map fun d => d.1.toList.length).sum + 1

def nextContract (ds : Deployments) : String := String.ofList (List.replicate (nextLength ds) 'C')

theorem nextContract_fresh (ds : Deployments) (p : Payload) : (nextContract ds, p) ∉ ds := by
  intro hmem
  have hlength : (nextContract ds).toList.length = nextLength ds := by
    rw [nextContract, String.toList_ofList, List.length_replicate]
  have hlt : (nextContract ds).toList.length < nextLength ds := by
    exact Nat.lt_succ_of_le (List.le_sum_of_mem (List.mem_map.mpr ⟨_, hmem, rfl⟩))
  exact absurd hlength hlt.ne

theorem nextContract_ne (ds : Deployments) : nextContract ds ≠ "" := by
  intro h
  have hlist := congrArg String.toList h
  rw [nextContract, String.toList_ofList, nextLength, List.replicate_succ] at hlist
  cases hlist

def trustlessWork (book : Book) : TrustlessWorkService Deployments where
  deployer p ds :=
    ((book.find? fun b => payloadOf book b.1 = some p).elim (.error (.other "Bad Request")) fun b => .ok b.1, ds)
  fundEscrow p ds := (.ok ("fund " ++ p.contractId), ds)
  changeMilestoneStatus _ ds := (.ok "milestone", ds)
  sign unsigned _ _ := .ok unsigned
  sendTransaction xdr ds :=
    match payloadOf book xdr with
    | some p => (.ok { status := "SUCCESS", contractId := some (nextContract ds) }, ds ++ [(nextContract ds, p)])
    | none => (.ok { status := "SUCCESS" }, ds)
  getEscrowBalance _ ds := (.ok .null, ds)

theorem trustlessWork_deploys (book : Book) : Deploys (trustlessWork book) (payloadOf book) id where
  built := by
    intro p ds unsigned secret network signed hbuilt hsign
    cases hsign
    cases hfind : book.find? fun b => payloadOf book b.1 = some p with
    | none =>
      simp only [trustlessWork, hfind] at hbuilt
      cases hbuilt
    | some b =>
      simp only [trustlessWork, hfind] at hbuilt
      cases hbuilt
      simpa using List.find?_some hfind
  building _ _ := rfl
  funding _ _ := rfl
  deploys := by
    intro xdr ds r p hr hs hp
    simp only [trustlessWork, hp, Except.ok.injEq] at hr ⊢
    subst hr
    exact ⟨nextContract ds, rfl, nextContract_ne ds, nextContract_fresh ds, rfl⟩
  others := by
    intro xdr ds r hr hs hp
    simp only [trustlessWork, hp, Except.ok.injEq] at hr
    subst hr
    exact ⟨rfl, by simp only [trustlessWork, hp]⟩
  refused := by
    intro xdr ds h
    cases hp : payloadOf book xdr with
    | none => simp only [trustlessWork, hp]
    | some p => exact absurd rfl (h { status := "SUCCESS", contractId := some (nextContract ds) }
        (by simp only [trustlessWork, hp]))

def config : EscrowConfig where
  treasuryAddress := some "GTREASURY"
  supportAddress := some "GSUPPORT"
  deployerSecret := some "SDEPLOYER"
  usdcIssuer := some "GISSUER"

/-- Amounts are written as integers. -/
def codec : AmountCodec where
  date _ := none
  decimal s := (Json.numberOfString s).map fun n => (n : ℚ)
  number s := ((Json.numberOfString s).getD 0 : ℤ)
  decimalOfNumber := some

def escrowEnv (book : Book) : EscrowEnv Deployments := ⟨trustlessWork book, config, codec⟩

/-- What the backend deploys for an order of the seller `GSELLER`. -/
def payload (orderId title buyerAddress : String) (amount : ℚ) : Payload where
  signer := "GTREASURY"
  engagementId := orderId
  title := title
  description := "iKash P2P escrow for order " ++ orderId
  roles := ⟨"GTREASURY", buyerAddress, "GTREASURY", "GSELLER", "GSUPPORT"⟩
  platformFee := 1
  milestones := [milestone amount buyerAddress]
  trustline := ⟨"GISSUER", "USDC"⟩

def order : String := "3f0e1d2c-5b6a-4789-8c9d-0e1f2a3b4c5d"

def otherOrder : String := "9a8b7c6d-1e2f-4a3b-9c4d-5e6f7a8b9c0d"

def db : Db where
  users := (Trade.db .created .pending).users
  offers := (Trade.db .created .pending).offers
  orders := ⟨[{ Trade.order .created with orderId := order }, { Trade.order .created with orderId := otherOrder }],
    by decide⟩
  refs := by decide

def world : World Deployments := { Trade.world .created .pending [] with db := db }

def parameters (buyerAddress : String) (amount : ℚ) : EscrowParameters := ⟨"GSELLER", buyerAddress, amount⟩

def initializeDto (dto : EscrowParameters) : InitializeEscrowDto :=
  { dto with orderId := order, signerAddress := "GSELLER", title := "Trade", assetCode := some "USDC" }

def openDto (dto : EscrowParameters) : OpenEscrowDto :=
  { dto with orderId := order, title := "Trade", assetCode := some "USDC" }

/-- The order's escrow is initialized for one buyer and opened for another. -/
def book : Book :=
  [("deploy 1", { payload order "Trade" "GBUYER" 5 with signer := "GSELLER" }), ("deploy 2", payload order "Trade" "GBUYER" 5),
    ("deploy 3", payload order "Trade" "GOTHER" 7)]

def initialized : DeskOp := .initializeEscrow (initializeDto (parameters "GBUYER" 5)) "e1" {}

def opened : DeskOp := .openEscrow (openDto (parameters "GBUYER" 5)) "e1" {}

/-- The funding of the contract of `order`. -/
def funded : DeskOp := .processEvent 0 none
  { eventId := "1", eventType := .escrowFunded, contractId := "C", txHash := "tx", ledgerSequence := some 7,
    eventIndex := some 0 }

end Desk

end IKash
