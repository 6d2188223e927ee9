import IKash.Executions

/-!
# One contract for each order

`open` checks that no row of its order has a contract, deploys one and writes it. Nothing reserves the order in between,
`create` and `syncTransaction` do not check, and a call that fails after its deployment loses the contract.

- `DeployCall.Engaged`: a call is engaged for an order from its check until it has written the contract;
- `Reserves`: while it is, no row of the order has a contract (`reserves_step`, `Reserves.stable`), and the step that
  deploys goes through to the write (`not_ended`);
- `Careful`: what a step must meet, by the state before it: no other call is engaged for the order that it checks, what
  the code does not check holds (`Unchecked`), and nothing makes a call that carries a contract fail (`Unhindered`);
- `one_contract_per_order`: under every schedule of such steps every order has one deployment at most, and its row has
  the contract of it, unless a call is about to write it.
-/

namespace IKash

open Lib EscrowService OrderService

variable {χ : Type} {env : EscrowEnv χ} {decode : String → Option Payload} {deployed : χ → Deployments} {w w' : World χ}
  {c c' : DeployCall}

/-! ## Engaged calls -/

/-- The order that the call has checked and will deploy for. -/
def DeployCall.awaits (decode : String → Option Payload) : DeployCall → Option String
  | .build (.openEscrow dto _ _ _) => some (uuid dto.orderId)
  | .broadcast d _ _ => some (uuid d.orderId)
  | .syncSend _ signedXdr _ _ => (decode signedXdr).map fun p => uuid p.engagementId
  | _ => none

/-- The order that the next step of the call checks, or takes without a check. -/
def DeployCall.begins (decode : String → Option Payload) : DeployCall → Option String
  | .openEscrow dto _ _ => some (uuid dto.orderId)
  | .build (.createOrder _ orderId _ _) => some (uuid orderId)
  | .syncTransaction _ signedXdr _ => (decode signedXdr).map fun p => uuid p.engagementId
  | _ => none

/-- The call will deploy for the order, or has deployed and carries the contract. -/
def DeployCall.Engaged (decode : String → Option Payload) (c : DeployCall) (k : String) : Prop :=
  c.awaits decode = some k ∨ ∃ cid, c.carried = some (k, cid)

/-- What the code does not check: a new order has no row yet, and a deployment that a client submits is for the order of
its row, which has no contract. -/
def Unchecked (decode : String → Option Payload) (w : World χ) : DeployCall → Prop
  | .build (.createOrder _ orderId _ _) => ∀ e ∈ w.db.escrows.rows, e.orderId ≠ uuid orderId
  | .syncTransaction escrowId signedXdr _ => ∀ p e, decode signedXdr = some p →
      w.db.escrows.find? (uuid escrowId) = some e → e.orderId = uuid p.engagementId ∧ contract? e = none
  | _ => True

/-- What a call relies on before it deploys: no row of the order has a contract, and the deployment that it submits is
for the order of its row. -/
structure Reserves (decode : String → Option Payload) (w : World χ) (c : DeployCall) : Prop where
  bare : ∀ k, c.awaits decode = some k → ∀ e ∈ w.db.escrows.rows, e.orderId = k → contract? e = none
  own : ∀ escrowId xdr faults escrow p, c = .syncSend escrowId xdr faults escrow → decode xdr = some p →
    uuid p.engagementId = escrow.orderId

section Engaged

variable {α : Type} {m : Service χ α} {f : α → DeployCall} {k : String}

/-- A call that deploys now was waiting for it. -/
theorem awaits_of_deploysFor (h : c.deploysFor decode = some k) : c.awaits decode = some k := by
  cases c with
  | broadcast | syncSend => exact h
  | _ => cases h

theorem of_awaits_await (h : (Pool.await .done m f w).2.awaits decode = some k) : ∃ a w', m.run w = (.ok a, w') ∧
    Pool.await .done m f w = (w', f a) ∧ (f a).awaits decode = some k := by
  unfold Pool.await at h ⊢
  rcases hm : m.run w with ⟨r, w'⟩
  rw [hm] at h
  cases r with
  | error t => cases h
  | ok a => exact ⟨a, w', rfl, rfl, h⟩

/-- A step after which the call waits for a deployment leaves the database, and the call waited before or has checked. -/
theorem awaits_next (hT : Deploys env.tw decode deployed) (h : (deployStep env w c).2.awaits decode = some k) :
    (deployStep env w c).1.db = w.db ∧ (c.awaits decode = some k ∨ c.begins decode = some k) := by
  cases c with
  | openEscrow dto freshId faults =>
    obtain ⟨existing, w', hrun, hstep, ha⟩ := of_awaits_await h
    obtain ⟨rfl, -, -⟩ := of_findUndeployed_ok hrun
    rw [show deployStep env w' (.openEscrow dto freshId faults) = _ from hstep]
    exact ⟨rfl, Or.inr ha⟩
  | build d =>
    obtain ⟨built, w', hrun, hstep, ha⟩ := of_awaits_await h
    obtain ⟨ext, hw, -⟩ := deployBuild_run hT env.config d.orderId (d.deployDto env.codec) w
    rw [hrun] at hw
    rw [show deployStep env w (.build d) = _ from hstep]
    refine ⟨by rw [show w' = _ from hw], ?_⟩
    cases d with
    | openEscrow dto freshId faults existing => exact Or.inl ha
    | createOrder dto orderId freshId faults => exact Or.inr ha
  | syncTransaction escrowId signedXdr faults =>
    obtain ⟨e, w', hrun, hstep, ha⟩ := of_awaits_await h
    obtain ⟨-, hcheck⟩ := of_faulty_ok hrun
    obtain ⟨rfl, -, -⟩ := syncCheck_eq_ok.mp hcheck
    rw [show deployStep env w' (.syncTransaction escrowId signedXdr faults) = _ from hstep]
    exact ⟨rfl, Or.inr ha⟩
  | write d cid => cases d <;> (obtain ⟨a, w', -, -, ha⟩ := of_awaits_await h; cases ha)
  | done => cases h
  | _ =>
    obtain ⟨a, w', -, -, ha⟩ := of_awaits_await h
    cases ha

/-- A call that is engaged after its step was engaged, or has checked. -/
theorem engaged_next (hT : Deploys env.tw decode deployed)
    (hS : Stepped env decode deployed w c (deployStep env w c).1 (deployStep env w c).2)
    (h : (deployStep env w c).2.Engaged decode k) : c.Engaged decode k ∨ c.begins decode = some k := by
  rcases h with hawaits | ⟨cid, hcarried⟩
  · exact (awaits_next hT hawaits).2.imp_left Or.inl
  · left
    rcases hS.deploys with ⟨-, hnone | hsame⟩ | ⟨k', cid', q, hfor, -, -, hcarried', -⟩
    · rw [hnone] at hcarried
      cases hcarried
    · exact Or.inr ⟨cid, hsame ▸ hcarried⟩
    · obtain ⟨rfl, rfl⟩ := Prod.mk.inj (Option.some.inj (hcarried.symm.trans hcarried'))
      exact Or.inl (awaits_of_deploysFor hfor)

/-- **The checks** of the step give the call what it relies on. -/
theorem reserves_step (hT : Deploys env.tw decode deployed) (hR : Reserves decode w c) (hU : Unchecked decode w c) :
    Reserves decode (deployStep env w c).1 (deployStep env w c).2 where
  bare k hawaits e he horder := by
    obtain ⟨hdb, hbefore⟩ := awaits_next hT hawaits
    rw [hdb] at he
    rcases hbefore with hbefore | hbegins
    · exact hR.bare k hbefore e he horder
    cases c with
    | openEscrow dto freshId faults =>
      -- the check that throws `ESCROW_ALREADY_EXISTS`
      obtain ⟨existing, w', hrun, -, -⟩ := of_awaits_await hawaits
      obtain ⟨rfl, rfl, hnone⟩ := of_findUndeployed_ok hrun
      have hk : uuid dto.orderId = k := Option.some.inj hbegins
      rw [escrowByOrderId_eq_some.mpr ⟨he, horder.trans hk.symm⟩] at hnone
      exact hnone
    | build d =>
      cases d with
      | openEscrow dto freshId faults existing => cases hbegins
      | createOrder dto orderId freshId faults =>
        have hk : uuid orderId = k := Option.some.inj hbegins
        exact absurd (horder.trans hk.symm) (hU e he)
    | syncTransaction escrowId signedXdr faults =>
      obtain ⟨row, w', hrun, -, -⟩ := of_awaits_await hawaits
      obtain ⟨-, hcheck⟩ := of_faulty_ok hrun
      obtain ⟨rfl, hrow, -⟩ := syncCheck_eq_ok.mp hcheck
      obtain ⟨p, hp, hk⟩ := Option.map_eq_some_iff.mp hbegins
      obtain ⟨hown, hbare⟩ := hU p row hp hrow
      have hsame : e = row := Table.eq_of_clash he (Table.find?_eq_some.mp hrow).1
        (Or.inr ⟨_, List.mem_cons_self, Option.some_ne_none _, congrArg some (horder.trans (hk.symm.trans hown.symm))⟩)
      rw [hsame]
      exact hbare
    | _ => cases hbegins
  own escrowId xdr faults escrow p hc hp := by
    have hawaits : (deployStep env w c).2.awaits decode = some (uuid p.engagementId) := by
      rw [hc, DeployCall.awaits, hp, Option.map_some]
    cases c with
    | syncTransaction escrowId' signedXdr faults' =>
      obtain ⟨row, w', hrun, hstep, -⟩ := of_awaits_await hawaits
      obtain ⟨-, hcheck⟩ := of_faulty_ok hrun
      obtain ⟨rfl, hrow, -⟩ := syncCheck_eq_ok.mp hcheck
      rw [show deployStep env w' (.syncTransaction escrowId' signedXdr faults') = _ from hstep] at hc
      cases hc
      exact (hU p escrow hp hrow).1.symm
    | openEscrow | build =>
      obtain ⟨a, w', -, hstep, -⟩ := of_awaits_await hawaits
      cases hc.symm.trans (congrArg Prod.snd hstep)
    | write d cid => cases d <;> (obtain ⟨a, w', -, -, ha⟩ := of_awaits_await hawaits; cases ha)
    | done => cases hawaits
    | _ =>
      obtain ⟨a, w', -, -, ha⟩ := of_awaits_await hawaits
      cases ha

/-- **The steps of the other calls** give no contract to the rows of an order that they are not engaged for. -/
theorem Reserves.stable (h : Reserves decode w c) (hb : Assigns c'.carried w w')
    (happart : ∀ k, c.Engaged decode k → ¬ c'.Engaged decode k) : Reserves decode w' c where
  bare k hawaits e he horder := by
    cases hcontract : contract? e with
    | none => rfl
    | some cid =>
      exfalso
      obtain ⟨hc, hne⟩ := contract?_eq_some.mp hcontract
      rcases hb.origin e he cid hc with ⟨e₀, he₀, horder₀, hc₀⟩ | hnew
      · exact contract?_ne_none hc₀ hne (h.bare k hawaits e₀ he₀ (horder₀.trans horder))
      · rw [horder] at hnew
        exact happart k (Or.inl hawaits) (Or.inr ⟨cid, hnew⟩)
  own := h.own

end Engaged

/-! ## Calls that go through -/

/-- A new escrow row of the order fits. -/
structure RowFits (codec : AmountCodec) (db : Db) (dto : OpenEscrowDto) (freshId : String) : Prop where
  amount : codec.decimalOfNumber dto.amount ≠ none
  order : db.orders.Has (uuid dto.orderId)
  fresh : ¬ db.escrows.Has freshId
  vacant : ∀ e ∈ db.escrows.rows, e.orderId ≠ uuid dto.orderId

/-- Nothing makes the step fail: Trustless Work answers, no fault hits the write, and the new rows fit. -/
def Unhindered (env : EscrowEnv χ) (w : World χ) : DeployCall → Prop
  | .fund d cid => ∃ unsigned, (env.tw.fundEscrow
      ⟨cid, (d.deployDto env.codec).sellerAddress, (d.deployDto env.codec).amount⟩ w.ext).1 = .ok unsigned
  | .write (.openEscrow dto freshId faults existing) _ =>
    existing = none → faults.create = none ∧ RowFits env.codec w.db dto freshId
  | .write (.createOrder dto orderId freshId faults) cid =>
    faults.create = none ∧ Persistable env.codec ⟨dto, orderId, freshId, faults⟩ cid w.db
  | .openUpdate _ faults _ _ _ => faults.update = none
  | .syncStore _ _ faults _ _ => faults.update = none
  | _ => True

section Writes

variable {db : Db} {codec : AmountCodec} {freshId : String} {e : EscrowOnChain}

theorem escrow_create_isOk (horder : db.orders.Has e.orderId) (hclash : ∀ x ∈ db.escrows.rows, ¬ Clash x e) :
    ∃ db', db'.offers = db.offers ∧ Prisma.escrowOnChain.create e db = .ok (e, db') := by
  obtain ⟨t, ht⟩ := Table.insert_isSome hclash
  have hrefs : ({ db.toTables with escrows := t } : Tables).Refs := { db.refs with
    escrowOrder := fun x hx => by
      rcases (Table.mem_insert ht).mp hx with hx | rfl
      · exact db.refs.escrowOrder x hx
      · exact horder }
  exact ⟨⟨_, hrefs⟩, rfl, Delegate.create_eq_ok.mpr ⟨t, ht, rfl, rfl⟩⟩

theorem order_create_isOk {o : Order} (hnew : ¬ db.orders.Has o.orderId) (hoffer : db.offers.Has o.offerId)
    (hbuyer : db.users.Has o.buyerId) (hseller : db.users.Has o.sellerId) : ∃ db', db'.orders.Has o.orderId ∧
      db'.escrows = db.escrows ∧ db'.offers = db.offers ∧ Prisma.order.create o db = .ok (o, db') := by
  have hclash : ∀ x ∈ db.orders.rows, ¬ Clash x o := by
    rintro x hx (hkey | ⟨u, hu, -⟩)
    · exact hnew ⟨x, hx, hkey⟩
    · cases hu
  obtain ⟨t, ht⟩ := Table.insert_isSome hclash
  have hhas : ∀ k, db.orders.Has k → t.Has k := fun k ⟨x, hx, hk⟩ => ⟨x, (Table.mem_insert ht).mpr (Or.inl hx), hk⟩
  have hrefs : ({ db.toTables with orders := t } : Tables).Refs := by
    refine { db.refs with
      orderOffer := fun x hx => ?_, orderBuyer := fun x hx => ?_, orderSeller := fun x hx => ?_
      escrowOrder := fun e he => hhas _ (db.refs.escrowOrder e he)
      messageOrder := fun m hm => hhas _ (db.refs.messageOrder m hm) }
    · rcases (Table.mem_insert ht).mp hx with hx | rfl
      · exact db.refs.orderOffer x hx
      · exact hoffer
    · rcases (Table.mem_insert ht).mp hx with hx | rfl
      · exact db.refs.orderBuyer x hx
      · exact hbuyer
    · rcases (Table.mem_insert ht).mp hx with hx | rfl
      · exact db.refs.orderSeller x hx
      · exact hseller
  exact ⟨⟨_, hrefs⟩, ⟨o, (Table.mem_insert ht).mpr (Or.inr rfl), rfl⟩, rfl, rfl,
    Delegate.create_eq_ok.mpr ⟨t, ht, rfl, rfl⟩⟩

/-- An offer update that keeps the id and the creator is not refused. -/
theorem offer_update_isOk {k : String} {f : Offer} {data : Offer → Offer} (hf : db.offers.find? k = some f)
    (hid : (data f).offerId = f.offerId) (hcreator : (data f).creatorId = f.creatorId) :
    ∃ r, Prisma.offer.update k data db = .ok r := by
  obtain ⟨hmem, hkey⟩ := Table.find?_eq_some.mp hf
  obtain ⟨t, ht⟩ : ∃ t, db.offers.replace k (data f) = some t :=
    Table.replace_isSome hf ⟨hid, fun u hu => by cases hu⟩
  have hhas : ∀ j, t.Has j ↔ db.offers.Has j := fun j => Table.has_replace ht (hid.trans hkey) hf
  have hrefs : ({ db.toTables with offers := t } : Tables).Refs := { db.refs with
    offerCreator := fun x hx => by
      rcases Table.mem_replace ht hx with rfl | ⟨hx, -⟩
      · rw [hcreator]
        exact db.refs.offerCreator f hmem
      · exact db.refs.offerCreator x hx
    orderOffer := fun o ho => (hhas _).mpr (db.refs.orderOffer o ho) }
  exact ⟨(data f, ⟨_, hrefs⟩), Delegate.update_eq_ok.mpr ⟨f, t, hf, ht, rfl, rfl⟩⟩

/-- A request whose rows can be stored commits. -/
theorem createTx_isOk {r : CreateRequest} {contractId : String} (h : Persistable codec r contractId db) :
    ∃ o, createTx codec r.orderId r.freshId contractId r.dto db = .ok o := by
  obtain ⟨row, hrow, hclash⟩ := h.row
  obtain ⟨hid, hoffer, hbuyer, hseller⟩ := of_orderRow_ok hrow
  obtain ⟨db₁, horder, hescrows, hoffers, h₁⟩ := order_create_isOk (o := row) (by rw [hid]; exact h.order)
    (by rw [hoffer]; exact h.offer) (by rw [hbuyer]; exact h.buyer) (by rw [hseller]; exact h.seller)
  have hplaced : db₁.orders.Has (uuid r.orderId) := by rwa [← hid]
  obtain ⟨db₂, hoffers₂, h₂⟩ := escrow_create_isOk
    (e := escrowRow r.orderId r.freshId contractId r.dto row.assetAmount) hplaced (by rw [hescrows]; exact hclash)
  obtain ⟨f, hf⟩ := Table.has_iff.mp h.offer
  have hf₂ : db₂.offers.find? (uuid r.dto.offerId) = some f := by rw [hoffers₂, hoffers, hf]
  obtain ⟨r₃, h₃⟩ : ∃ r₃, Prisma.offer.update (uuid r.dto.offerId) (fun o => { o with executed := true }) db₂ = .ok r₃ :=
    offer_update_isOk hf₂ rfl rfl
  have h₀ : (StateT.lift (orderRow codec r.orderId r.dto) : Tx Order) db = .ok (row, db) := by
    rw [hrow]
    rfl
  unfold createTx
  rw [Tx.bind_ok h₀, Tx.bind_ok h₁, Tx.bind_ok h₂, Tx.bind_ok h₃]
  exact ⟨_, rfl⟩

theorem createRow_isOk {dto : OpenEscrowDto} (h : RowFits codec db dto freshId) :
    ∃ r, createRow codec freshId dto.orderId dto.toEscrowParameters .initialized db = .ok r := by
  obtain ⟨amount, hamount⟩ := Option.ne_none_iff_exists'.mp h.amount
  have hclash : ∀ x ∈ db.escrows.rows,
      ¬ Clash x (newEscrow freshId dto.orderId dto.toEscrowParameters amount .initialized) := by
    rintro x hx (hkey | ⟨u, hu, hne, heq⟩)
    · exact h.fresh ⟨x, hx, hkey⟩
    · rcases List.mem_pair.mp hu with rfl | rfl
      · exact h.vacant x hx (Option.some.inj heq)
      · exact hne heq
  obtain ⟨db', -, hcreate⟩ := escrow_create_isOk h.order hclash
  unfold createRow
  rw [hamount]
  exact ⟨_, hcreate⟩

end Writes

/-- **A call that carries a contract** goes on, if nothing makes its step fail. -/
theorem not_ended (hR : Relies env deployed w c) (hC : c.carried ≠ none) (hU : Unhindered env w c)
    (hfree : ∀ k cid, c.carried = some (k, cid) → ∀ x ∈ w.db.escrows.rows, x.contractId = some cid → x.orderId = k) :
    (deployStep env w c).2 ≠ .done := by
  have hgoes : ∀ {α : Type} {m : Service χ α} {f : α → DeployCall} {a : α} {w' : World χ}, m.run w = (.ok a, w') →
      f a ≠ .done → (Pool.await .done m f w).2 ≠ .done := by
    intro α m f a w' hrun hne
    rw [Pool.await, hrun]
    exact hne
  cases c with
  | fund d cid =>
    obtain ⟨unsigned, hanswer⟩ := hU
    have hrun : (deployFund env.tw cid (d.deployDto env.codec)).run w = (.ok unsigned, _) :=
      Prod.ext hanswer rfl
    exact hgoes hrun (fun h => by cases h)
  | write d cid =>
    cases d with
    | openEscrow dto freshId faults existing =>
      cases existing with
      | some e => exact hgoes rfl (fun h => by cases h)
      | none =>
        obtain ⟨hfault, hfits⟩ := hU rfl
        obtain ⟨⟨e, db⟩, hcreate⟩ := createRow_isOk hfits
        have hrun : (openCreate env.codec dto freshId faults.create none).run w = (.ok e, { w with db := db }) := by
          rw [openCreate, hfault]
          exact prisma_run_ok hcreate
        exact hgoes hrun (fun h => by cases h)
    | createOrder dto orderId freshId faults =>
      obtain ⟨hfault, hfits⟩ := hU
      obtain ⟨⟨o, db⟩, hcreate⟩ := createTx_isOk hfits
      have hrun : (faulty faults.create (prisma (createTx env.codec orderId freshId cid dto))).run w =
          (.ok o, { w with db := db }) := by
        rw [hfault]
        exact prisma_run_ok hcreate
      exact hgoes hrun (fun h => by cases h)
  | openUpdate dto faults isNew escrowId cid =>
    obtain ⟨e, he, horder⟩ := hR.target escrowId _ rfl
    obtain ⟨db, hupdate⟩ : ∃ db, Prisma.escrowOnChain.update escrowId (storeContract cid) w.db =
        .ok (storeContract cid e, db) :=
      contract_update_isOk he rfl rfl rfl fun x hx hc => (hfree _ cid rfl x hx hc).trans horder.symm
    have hrun : (openUpdate escrowId cid faults.update).run w = (.ok (storeContract cid e), { w with db := db }) := by
      rw [openUpdate, show faults.update = none from hU]
      exact prisma_run_ok hupdate
    exact hgoes hrun (fun h => by cases h)
  | syncStore escrowId signedXdr faults escrow result =>
    obtain ⟨e, he, horder⟩ := hR.target (uuid escrowId) escrow.orderId rfl
    obtain ⟨⟨k, cid⟩, hcarried⟩ := Option.ne_none_iff_exists'.mp hC
    obtain ⟨c, hc, heq⟩ := Option.map_eq_some_iff.mp
      (show (result.contractId.filter (· ≠ "")).map (fun c => (escrow.orderId, c)) = some (k, cid) from hcarried)
    cases heq
    have hids := syncData_ids (initializeSync escrowId signedXdr) result e
    have hcontract : (syncData (initializeSync escrowId signedXdr) result e).contractId = some cid := by
      show (result.contractId.filter (· ≠ "")).or e.contractId = some cid
      rw [hc, Option.some_or]
    obtain ⟨db, hupdate⟩ := contract_update_isOk he hids.1 hids.2 hcontract fun x hx hxc =>
      (hfree _ cid hcarried x hx hxc).trans horder.symm
    have hrun : (faulty faults.update (syncStore (initializeSync escrowId signedXdr) result)).run w =
        (.ok (syncData (initializeSync escrowId signedXdr) result e), { w with db := db }) := by
      rw [show faults.update = none from hU]
      exact prisma_run_ok hupdate
    exact hgoes hrun (fun h => by cases h)
  | _ => exact absurd rfl hC

/-! ## Runs -/

/-- The orders of the deployments. -/
def deployedOrders (ds : Deployments) : List String := ds.map fun d => uuid d.2.engagementId

/-- One deployment for each order, and the row of the order has it unless a call is about to write it. -/
structure OnePerOrder (deployed : χ → Deployments) (p : Pool (World χ) DeployCall) (k : String) : Prop where
  once : (deployedOrders (deployed p.shared.ext)).count k ≤ 1
  stored : (∀ i cid, (p.calls i).carried ≠ some (k, cid)) →
    ∀ d ∈ deployed p.shared.ext, uuid d.2.engagementId = k → StoredFor p.shared k d.1

/-- Every order has one contract at most, its row has it, and no row has another contract. The ids of the contracts are
different. -/
structure Matched (deployed : χ → Deployments) (w : World χ) : Prop where
  once : (deployedOrders (deployed w.ext)).Nodup
  stored : ∀ d ∈ deployed w.ext, StoredFor w (uuid d.2.engagementId) d.1
  linked : ∀ e ∈ w.db.escrows.rows, ∀ cid, e.contractId = some cid →
    ∃ q, (cid, q) ∈ deployed w.ext ∧ uuid q.engagementId = e.orderId
  ids : ((deployed w.ext).map Prod.fst).Nodup ∧ ∀ d ∈ deployed w.ext, d.1 ≠ ""

/-- What a step must meet, by the state before it. -/
structure Careful (env : EscrowEnv χ) (decode : String → Option Payload) (p : Pool (World χ) DeployCall) (j : ℕ) :
    Prop where
  alone : ∀ k, (p.calls j).begins decode = some k → ∀ i, i ≠ j → ¬ (p.calls i).Engaged decode k
  unchecked : Unchecked decode p.shared (p.calls j)
  unhindered : (p.calls j).carried ≠ none → Unhindered env p.shared (p.calls j)

/-- One deployment for each order, which a row has or a call carries, and one engaged call. -/
structure Held (env : EscrowEnv χ) (decode : String → Option Payload) (deployed : χ → Deployments)
    (p : Pool (World χ) DeployCall) : Prop where
  relies : Pool.Asserted (Relies env deployed) p
  reserves : Pool.Asserted (Reserves decode) p
  apart : ∀ i j k, i ≠ j → (p.calls i).Engaged decode k → ¬ (p.calls j).Engaged decode k
  once : (deployedOrders (deployed p.shared.ext)).Nodup
  held : ∀ d ∈ deployed p.shared.ext, (∃ i, (p.calls i).carried = some (uuid d.2.engagementId, d.1)) ∨
    StoredFor p.shared (uuid d.2.engagementId) d.1
  linked : ∀ e ∈ p.shared.db.escrows.rows, ∀ cid, e.contractId = some cid →
    ∃ q, (cid, q) ∈ deployed p.shared.ext ∧ uuid q.engagementId = e.orderId
  ids : ((deployed p.shared.ext).map Prod.fst).Nodup ∧ ∀ d ∈ deployed p.shared.ext, d.1 ≠ ""

section Held

variable {p : Pool (World χ) DeployCall} {j : ℕ}

theorem relies_call (op : DeployOp) : Relies env deployed w op.call := by
  have ht : op.call.target = none := by cases op <;> rfl
  have hc : op.call.carried = none := by cases op <;> rfl
  have hb : ∀ d u s, op.call ≠ .broadcast d u s := fun d u s h => by cases op <;> cases h
  exact relies_nothing ht hc hb

theorem awaits_call (op : DeployOp) : op.call.awaits decode = none := by cases op <;> rfl

theorem reserves_call (op : DeployOp) : Reserves decode w op.call where
  bare k h := by
    rw [awaits_call] at h
    cases h
  own escrowId xdr faults escrow p h := by cases op <;> cases h

theorem not_engaged_call (op : DeployOp) (k : String) : ¬ op.call.Engaged decode k := by
  rintro (h | ⟨cid, h⟩)
  · rw [awaits_call] at h
    cases h
  · cases op <;> cases h

theorem held_received (h : Matched deployed w) (ops : ℕ → DeployOp) : Held env decode deployed (received w ops) where
  relies i := relies_call (ops i)
  reserves i := reserves_call (ops i)
  apart i _ k _ hi := absurd hi (not_engaged_call (ops i) k)
  once := h.once
  held d hd := Or.inr (h.stored d hd)
  linked := h.linked
  ids := h.ids

/-- Two deployments for one order are the same. -/
theorem eq_of_once {ds : Deployments} (h : (deployedOrders ds).Nodup) {d d' : String × Payload} (hd : d ∈ ds)
    (hd' : d' ∈ ds) (heq : uuid d.2.engagementId = uuid d'.2.engagementId) : d = d' :=
  List.inj_on_of_nodup_map h hd hd' heq

theorem Held.onePerOrder (h : Held env decode deployed p) (k : String) : OnePerOrder deployed p k where
  once := List.nodup_iff_count_le_one.mp h.once k
  stored hfree d hd hk := by
    subst hk
    rcases h.held d hd with ⟨i, hi⟩ | hstored
    · exact absurd hi (hfree i d.1)
    · exact hstored

/-- A row that has the contract of the order keeps it. -/
theorem Held.storedFor_next (h : Held env decode deployed p) {w' : World χ} (hb : Assigns (p.calls j).carried p.shared w')
    {d : String × Payload} (hd : d ∈ deployed p.shared.ext) (hs : StoredFor p.shared (uuid d.2.engagementId) d.1) :
    StoredFor w' (uuid d.2.engagementId) d.1 := by
  obtain ⟨e, hmem, horder, hc⟩ := hs
  obtain ⟨e', he', horder', hcase⟩ := hb.kept e.escrowId e (Table.find?_eq_some.mpr ⟨hmem, rfl⟩)
  refine ⟨e', (Table.find?_eq_some.mp he').1, horder'.trans horder, ?_⟩
  rcases hcase with hsame | ⟨cid, hnew, hc'⟩
  · exact hsame.trans hc
  · -- the contract that is written was deployed for the same order, so it is the same
    obtain ⟨q, hq, hk⟩ := (h.relies j).carried _ _ hnew
    obtain rfl : (cid, q) = d := eq_of_once h.once hq hd (hk.trans horder)
    exact hc'

/-- Nothing is deployed for an order whose deployment a call awaits. -/
theorem Held.not_deployed (h : Held env decode deployed p) {k : String} (hk : (p.calls j).awaits decode = some k)
    (hnone : (p.calls j).carried = none) : ∀ d ∈ deployed p.shared.ext, uuid d.2.engagementId ≠ k := by
  rintro d hd rfl
  rcases h.held d hd with ⟨i, hi⟩ | ⟨e, he, horder, hc⟩
  · by_cases hij : i = j
    · rw [hij, hnone] at hi
      cases hi
    · exact h.apart i j _ hij (Or.inr ⟨d.1, hi⟩) (Or.inl hk)
  · exact contract?_ne_none hc (h.ids.2 d hd) ((h.reserves j).bare _ hk e he horder)

/-- A row that has the contract that a call carries is the one of its order. -/
theorem Held.of_carried (h : Held env decode deployed p) {k cid : String} (hc : (p.calls j).carried = some (k, cid))
    {e : EscrowOnChain} (he : e ∈ p.shared.db.escrows.rows) (hcid : e.contractId = some cid) : e.orderId = k := by
  obtain ⟨q, hq, hk⟩ := (h.relies j).carried _ _ hc
  obtain ⟨q', hq', hk'⟩ := h.linked e he cid hcid
  obtain ⟨-, rfl⟩ := Prod.mk.inj (List.inj_on_of_nodup_map h.ids.1 hq hq' rfl)
  exact hk'.symm.trans hk

theorem held_next (hT : Deploys env.tw decode deployed) (h : Held env decode deployed p) (hC : Careful env decode p j) :
    Held env decode deployed ((deployCalls env).next p j) := by
  have hstep := deployStep_stepped hT (h.relies j) (h.reserves j).own
  have hgrows := hstep.grows
  have hcalls : ∀ i, i ≠ j → ((deployCalls env).next p j).calls i = p.calls i := fun i hi => by
    rw [Pool.next_calls, Function.update_of_ne hi]
  have hself : ((deployCalls env).next p j).calls j = (deployStep env p.shared (p.calls j)).2 := by
    rw [Pool.next_calls, Function.update_self]
  have hengaged : ∀ i k, (((deployCalls env).next p j).calls i).Engaged decode k → (p.calls i).Engaged decode k ∨
      i = j ∧ (p.calls j).begins decode = some k := by
    intro i k hi
    by_cases hij : i = j
    · subst hij
      rw [hself] at hi
      exact (engaged_next hT hstep hi).imp_right fun hb => ⟨rfl, hb⟩
    · rw [hcalls i hij] at hi
      exact Or.inl hi
  have hrelies : Pool.Asserted (Relies env deployed) ((deployCalls env).next p j) :=
    Pool.asserted_next h.relies (fun _ => hstep.relies) fun i _ hi => hi.mono hstep.binds hgrows
  have hreserves : Pool.Asserted (Reserves decode) ((deployCalls env).next p j) :=
    Pool.asserted_next h.reserves (fun hj => reserves_step hT hj hC.unchecked) fun i hij hi =>
      hi.stable hstep.binds fun k => h.apart i j k hij
  have hapart : ∀ i i' k, i ≠ i' → (((deployCalls env).next p j).calls i).Engaged decode k →
      ¬ (((deployCalls env).next p j).calls i').Engaged decode k := by
    intro i i' k hne hi hi'
    rcases hengaged i k hi with hb | ⟨rfl, hb⟩ <;> rcases hengaged i' k hi' with hb' | ⟨rfl, hb'⟩
    · exact h.apart i i' k hne hb hb'
    · exact hC.alone k hb' i hne hb
    · exact hC.alone k hb i' (Ne.symm hne) hb'
    · exact hne rfl
  have hlinked : ∀ e ∈ ((deployCalls env).next p j).shared.db.escrows.rows, ∀ cid, e.contractId = some cid →
      ∃ q, (cid, q) ∈ deployed ((deployCalls env).next p j).shared.ext ∧ uuid q.engagementId = e.orderId := by
    intro e he cid hc
    rcases hstep.binds.origin e he cid hc with ⟨e₀, he₀, horder, hc₀⟩ | hnew
    · obtain ⟨q, hq, hk⟩ := h.linked e₀ he₀ cid hc₀
      exact ⟨q, hgrows.mem hq, hk.trans horder⟩
    · obtain ⟨q, hq, hk⟩ := (h.relies j).carried _ _ hnew
      exact ⟨q, hgrows.mem hq, hk⟩
  have hheld : ∀ d ∈ deployed p.shared.ext,
      (∃ i, (((deployCalls env).next p j).calls i).carried = some (uuid d.2.engagementId, d.1)) ∨
        StoredFor ((deployCalls env).next p j).shared (uuid d.2.engagementId) d.1 := by
    intro d hd
    rcases h.held d hd with ⟨i, hi⟩ | hstored
    · by_cases hij : i = j
      · subst hij
        have hcarries : (p.calls i).carried ≠ none := by rw [hi]; exact Option.some_ne_none _
        rcases hstep.delivers _ _ hi with hdone | hcarried | hstored
        · exact absurd hdone (not_ended (h.relies i) hcarries (hC.unhindered hcarries) fun k cid hc x hx hxc =>
            h.of_carried hc hx hxc)
        · exact Or.inl ⟨i, by rw [hself]; exact hcarried⟩
        · exact Or.inr hstored
      · exact Or.inl ⟨i, by rw [hcalls i hij]; exact hi⟩
    · exact Or.inr (h.storedFor_next hstep.binds hd hstored)
  rcases hstep.deploys with ⟨hsame, -⟩ | ⟨k, cid, q, hfor, hq, hnone, hcarried, hdep⟩
  · refine ⟨hrelies, hreserves, hapart, ?_, fun d hd => hheld d (hsame ▸ hd), hlinked, ?_⟩
    · rw [Pool.next_shared, hsame]
      exact h.once
    · rw [Pool.next_shared, hsame]
      exact h.ids
  · have hfree := h.not_deployed (awaits_of_deploysFor hfor) hnone
    refine ⟨hrelies, hreserves, hapart, ?_, fun d hd => ?_, hlinked, ?_, fun d hd => ?_⟩
    · rw [Pool.next_shared, hdep.chain, deployedOrders, List.map_append, List.nodup_append]
      refine ⟨h.once, List.nodup_singleton _, ?_⟩
      intro a ha b hb
      obtain ⟨d, hd, rfl⟩ := List.mem_map.mp ha
      obtain rfl : b = k := (List.mem_singleton.mp hb).trans hq
      exact hfree d hd
    · have hd' : d ∈ deployed (deployStep env p.shared (p.calls j)).1.ext := hd
      rw [hdep.chain, List.mem_append, List.mem_singleton] at hd'
      rcases hd' with hd' | rfl
      · exact hheld d hd'
      · exact Or.inl ⟨j, by rw [hself, hcarried, hq]⟩
    · rw [Pool.next_shared, hdep.chain, List.map_append, List.nodup_append]
      refine ⟨h.ids.1, List.nodup_singleton _, ?_⟩
      rintro a ha b hb rfl
      obtain ⟨⟨c, q'⟩, hd, rfl⟩ := List.mem_map.mp ha
      obtain rfl : c = cid := List.mem_singleton.mp hb
      exact hdep.fresh q' hd
    · have hd' : d ∈ deployed (deployStep env p.shared (p.calls j)).1.ext := hd
      rw [hdep.chain, List.mem_append, List.mem_singleton] at hd'
      rcases hd' with hd' | rfl
      · exact h.ids.2 d hd'
      · exact hdep.nonempty

/-- **One contract for each order**, when every step is careful. -/
theorem one_contract_per_order (hT : Deploys env.tw decode deployed) (w : World χ) (h0 : Matched deployed w)
    (ops : ℕ → DeployOp) (is : List ℕ) (h : (deployCalls env).Along (Careful env decode) (received w ops) is)
    (k : String) : OnePerOrder deployed ((deployCalls env).run (received w ops) is) k := by
  have hheld : Held env decode deployed ((deployCalls env).run (received w ops) is) :=
    Machine.run_inv (fun p j hp hC => held_next hT hp hC) (held_received h0 ops) h
  exact hheld.onePerOrder k

end Held

namespace Desk

/-- Requests to open the escrow: the row cannot be looked up for the first. -/
def repeated (i : ℕ) : DeployOp :=
  .openEscrow (openDto (parameters "GBUYER" 5)) "e1" { find := if i = 0 then some (.other "Connection lost") else none }

/-- The requests so far. -/
abbrev after (is : List ℕ) : Pool (World Deployments) DeployCall :=
  (deployCalls (escrowEnv book)).run (received world repeated) is

/-- A step of a call past its check. -/
theorem careful_after (is : List ℕ) (j : ℕ) (hbegins : ((after is).calls j).begins (payloadOf book) = none)
    (hchecks : Unchecked (payloadOf book) (after is).shared ((after is).calls j))
    (hgoes : ((after is).calls j).carried ≠ none → Unhindered (escrowEnv book) (after is).shared ((after is).calls j)) :
    Careful (escrowEnv book) (payloadOf book) (after is) j where
  alone k hk := by
    rw [hbegins] at hk
    cases hk
  unchecked := hchecks
  unhindered := hgoes

/-- A request that is sent when those before it have ended. -/
theorem careful_request (is : List ℕ) (j : ℕ) (hj : j ∉ is) (hended : ∀ i ∈ is, (after is).calls i = .done) :
    Careful (escrowEnv book) (payloadOf book) (after is) j where
  alone k _ i _ := by
    by_cases hi : i ∈ is
    · rw [hended i hi]
      rintro (h | ⟨cid, h⟩) <;> cases h
    · rw [Pool.run_calls_of_not_mem hi]
      exact not_engaged_call (repeated i) k
  unchecked := by
    rw [Pool.run_calls_of_not_mem hj]
    trivial
  unhindered h := by
    rw [Pool.run_calls_of_not_mem hj] at h
    exact absurd rfl h

theorem one_contract_opened : OnePerOrder id (after ([0] ++ List.replicate 7 1 ++ [2])) order := by
  refine one_contract_per_order (trustlessWork_deploys book) world ?_ _ _ ?_ _
  · exact ⟨List.nodup_nil, (fun d hd => by cases hd), (fun e he => by cases he), List.nodup_nil, fun d hd => by cases hd⟩
  refine ⟨?_, ?_, ?_, ?_, ?_, ?_, ?_, ?_, ?_, trivial⟩
  · exact careful_request [] 0 (by decide) (fun i hi => absurd hi List.not_mem_nil)
  · exact careful_request [0] 1 (by decide) (fun i hi => by rw [List.mem_singleton.mp hi]; rfl)
  · exact careful_after [0, 1] 1 rfl trivial (absurd rfl)
  · exact careful_after [0, 1, 1] 1 rfl trivial (absurd rfl)
  · exact careful_after [0, 1, 1, 1] 1 rfl trivial fun _ => ⟨_, rfl⟩
  · refine careful_after [0, 1, 1, 1, 1] 1 rfl trivial fun _ _ => ⟨rfl, ?_⟩
    exact ⟨by decide, by decide, by decide, by decide⟩
  · exact careful_after [0, 1, 1, 1, 1, 1] 1 rfl trivial fun _ => rfl
  · exact careful_after [0, 1, 1, 1, 1, 1, 1] 1 rfl trivial (absurd rfl)
  · refine careful_request [0, 1, 1, 1, 1, 1, 1, 1] 2 (by decide) fun i hi => ?_
    have hcases : i = 0 ∨ i = 1 := by simpa using hi
    rcases hcases with rfl | rfl <;> rfl

/-- A request to open the escrow, and its repetitions. The database fails when the first writes the contract. -/
def retried (i : ℕ) : DeployOp :=
  .openEscrow (openDto (parameters "GBUYER" 5)) "e1" { update := if i = 0 then some (.other "Connection lost") else none }

/-- The contract that the first request deployed is lost, and the second deploys another. -/
theorem retry_deploys_again : Deploys (escrowEnv book).tw (payloadOf book) id ∧ Matched id world ∧
    ¬ OnePerOrder id ((deployCalls (escrowEnv book)).run (received world retried)
      (List.replicate 6 0 ++ List.replicate 7 1)) order := by
  refine ⟨trustlessWork_deploys book, ⟨List.nodup_nil, (fun d hd => by cases hd), (fun e he => by cases he), List.nodup_nil,
    fun d hd => by cases hd⟩, fun h => ?_⟩
  have htwice : (deployedOrders ((deployCalls (escrowEnv book)).run (received world retried)
      (List.replicate 6 0 ++ List.replicate 7 1)).shared.ext).count order = 2 := by decide
  have honce := h.once
  rw [id_eq, htwice] at honce
  omega

end Desk

end IKash
