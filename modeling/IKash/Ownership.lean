import IKash.Desk
import IKash.MarketRequests
import IKash.Resume
import IKash.Send

/-!
# Who changes what

Every change or deletion of an offer, an order, an escrow or a payment method is made by its owner or by a privileged
user, but for the routes that look at no owner, and for the offer of a new order, which the buyer or the seller marks as
executed.

- `Touches`: what happens to the rows of the four tables, within `Grants`; one lemma for each kind of write, and from
  them one for each service (`Within`);
- `owners_act`: who makes each change, in every run of requests.
-/

namespace IKash

open Lib EscrowService

variable {χ : Type}

/-! ## Rows that are touched -/

/-- The rows that may be changed or deleted, the offers that may become executed, and whether payment methods may be
added. -/
structure Grants where
  offer : String → Prop := fun _ => False
  takes : String → Prop := fun _ => False
  order : Order → Prop := fun _ => False
  escrow : EscrowOnChain → Prop := fun _ => False
  method : PaymentMethod → Prop := fun _ => False
  newMethod : Prop := False

def execute (o : Offer) : Offer := { o with executed := true }

/-- Whatever is not granted is as it was. -/
structure Touches (g : Grants) (db db' : Db) : Prop where
  offers : ∀ o ∈ db.offers.rows, o ∈ db'.offers.rows ∨ g.offer o.offerId ∨
    g.takes o.offerId ∧ execute o ∈ db'.offers.rows
  orders : ∀ o ∈ db.orders.rows, o ∈ db'.orders.rows ∨ g.order o
  escrows : ∀ e ∈ db.escrows.rows, e ∈ db'.escrows.rows ∨ g.escrow e
  methods : ∀ m ∈ db.paymentMethods.rows, m ∈ db'.paymentMethods.rows ∨ g.method m
  created : g.newMethod ∨ ∀ m ∈ db'.paymentMethods.rows, db.paymentMethods.Has m.paymentId

section Touches

variable {g : Grants} {db db' db'' : Db}

theorem Touches.refl (g : Grants) (db : Db) : Touches g db db where
  offers _ ho := Or.inl ho
  orders _ ho := Or.inl ho
  escrows _ he := Or.inl he
  methods _ hm := Or.inl hm
  created := Or.inr fun m hm => ⟨m, hm, rfl⟩

theorem Touches.trans (h : Touches g db db') (h' : Touches g db' db'') : Touches g db db'' where
  offers o ho := by
    rcases h.offers o ho with ho' | hg | ⟨ht, ho'⟩
    · exact h'.offers o ho'
    · exact Or.inr (Or.inl hg)
    · rcases h'.offers _ ho' with ho'' | hg | ⟨-, ho''⟩
      · exact Or.inr (Or.inr ⟨ht, ho''⟩)
      · exact Or.inr (Or.inl hg)
      · exact Or.inr (Or.inr ⟨ht, ho''⟩)
  orders o ho := (h.orders o ho).elim (h'.orders o) Or.inr
  escrows e he := (h.escrows e he).elim (h'.escrows e) Or.inr
  methods m hm := (h.methods m hm).elim (h'.methods m) Or.inr
  created := by
    rcases h.created with hg | hc
    · exact Or.inl hg
    · refine h'.created.imp_right fun hc' m hm => ?_
      obtain ⟨m', hm', hkey⟩ := hc' m hm
      obtain ⟨m₀, hm₀, hkey₀⟩ := hc m' hm'
      exact ⟨m₀, hm₀, hkey₀.trans hkey⟩

/-! ### Writes to one table -/

theorem same_offers (h : db'.offers = db.offers) : ∀ o ∈ db.offers.rows,
    o ∈ db'.offers.rows ∨ g.offer o.offerId ∨ g.takes o.offerId ∧ execute o ∈ db'.offers.rows :=
  fun _ ho => Or.inl (by rw [h]; exact ho)

theorem same_orders (h : db'.orders = db.orders) : ∀ o ∈ db.orders.rows, o ∈ db'.orders.rows ∨ g.order o :=
  fun _ ho => Or.inl (by rw [h]; exact ho)

theorem same_escrows (h : db'.escrows = db.escrows) : ∀ e ∈ db.escrows.rows, e ∈ db'.escrows.rows ∨ g.escrow e :=
  fun _ he => Or.inl (by rw [h]; exact he)

theorem same_methods (h : db'.paymentMethods = db.paymentMethods) :
    ∀ m ∈ db.paymentMethods.rows, m ∈ db'.paymentMethods.rows ∨ g.method m := fun _ hm => Or.inl (by rw [h]; exact hm)

theorem no_method_created (h : db'.paymentMethods = db.paymentMethods) :
    g.newMethod ∨ ∀ m ∈ db'.paymentMethods.rows, db.paymentMethods.Has m.paymentId :=
  Or.inr fun m hm => ⟨m, by rw [← h]; exact hm, rfl⟩

theorem Touches.of_offers (hw : Prisma.offer.Writes db db')
    (h : ∀ o ∈ db.offers.rows, o ∈ db'.offers.rows ∨ g.offer o.offerId ∨ g.takes o.offerId ∧ execute o ∈ db'.offers.rows) :
    Touches g db db' := by
  obtain ⟨t, ht⟩ := hw
  have hmethods : db'.paymentMethods = db.paymentMethods := by rw [ht]; rfl
  exact ⟨h, same_orders (by rw [ht]; rfl), same_escrows (by rw [ht]; rfl), same_methods hmethods,
    no_method_created hmethods⟩

theorem Touches.of_orders (hw : Prisma.order.Writes db db')
    (h : ∀ o ∈ db.orders.rows, o ∈ db'.orders.rows ∨ g.order o) : Touches g db db' := by
  obtain ⟨t, ht⟩ := hw
  have hmethods : db'.paymentMethods = db.paymentMethods := by rw [ht]; rfl
  exact ⟨same_offers (by rw [ht]; rfl), h, same_escrows (by rw [ht]; rfl), same_methods hmethods,
    no_method_created hmethods⟩

theorem Touches.of_escrows (hw : Prisma.escrowOnChain.Writes db db')
    (h : ∀ e ∈ db.escrows.rows, e ∈ db'.escrows.rows ∨ g.escrow e) : Touches g db db' := by
  obtain ⟨t, ht⟩ := hw
  have hmethods : db'.paymentMethods = db.paymentMethods := by rw [ht]; rfl
  exact ⟨same_offers (by rw [ht]; rfl), same_orders (by rw [ht]; rfl), h, same_methods hmethods,
    no_method_created hmethods⟩

theorem Touches.of_methods (hw : Prisma.paymentMethod.Writes db db')
    (h : ∀ m ∈ db.paymentMethods.rows, m ∈ db'.paymentMethods.rows ∨ g.method m)
    (hc : g.newMethod ∨ ∀ m ∈ db'.paymentMethods.rows, db.paymentMethods.Has m.paymentId) : Touches g db db' := by
  obtain ⟨t, ht⟩ := hw
  exact ⟨same_offers (by rw [ht]; rfl), same_orders (by rw [ht]; rfl), same_escrows (by rw [ht]; rfl), h, hc⟩

/-- Rewritten escrows and orders. -/
theorem Touches.of_rewritten {f : EscrowOnChain → EscrowOnChain} {f' : Order → Order} (hre : Rewritten f f' db db')
    (he : ∀ e ∈ db.escrows.rows, f e = e ∨ g.escrow e) (ho : ∀ o ∈ db.orders.rows, f' o = o ∨ g.order o) :
    Touches g db db' := by
  have hmethods : db'.paymentMethods = db.paymentMethods := by rw [hre.frame]
  refine ⟨same_offers (by rw [hre.frame]), fun o hmem => ?_, fun e hmem => ?_, same_methods hmethods,
    no_method_created hmethods⟩
  · refine (ho o hmem).imp_left fun hsame => ?_
    rw [hre.orders]
    exact List.mem_map.mpr ⟨o, hmem, hsame⟩
  · refine (he e hmem).imp_left fun hsame => ?_
    rw [hre.escrows]
    exact List.mem_map.mpr ⟨e, hmem, hsame⟩

end Touches

section Kept

variable {ρ : Type} [Keyed ρ String] {d : Delegate ρ} {k : String} {data : ρ → ρ} {row r x : ρ} {db db' : Db}

theorem Delegate.kept_create (h : d.create row db = .ok (r, db')) (hx : x ∈ (d.get db.toTables).rows) :
    x ∈ (d.get db'.toTables).rows := by
  obtain ⟨t, ht, -, hdb⟩ := Delegate.create_eq_ok.mp h
  rw [hdb, d.get_put]
  exact (Table.mem_insert ht).mpr (Or.inl hx)

theorem Delegate.kept_update (h : d.update k data db = .ok (r, db')) (hx : x ∈ (d.get db.toTables).rows) :
    x ∈ (d.get db'.toTables).rows ∨ Keyed.key x = k := by
  obtain ⟨-, -, -, -, hrows⟩ := Delegate.of_update h
  rw [hrows]
  rcases Table.atKey_cases k data x with hsame | ⟨hkey, -⟩
  · exact Or.inl (List.mem_map.mpr ⟨x, hx, hsame⟩)
  · exact Or.inr hkey

theorem Delegate.kept_delete (h : d.delete k db = .ok (r, db')) (hx : x ∈ (d.get db.toTables).rows) :
    x ∈ (d.get db'.toTables).rows ∨ Keyed.key x = k := by
  obtain ⟨-, hdb⟩ := Delegate.delete_eq_ok.mp h
  rw [hdb, d.get_put]
  by_cases hkey : Keyed.key x = k
  · exact Or.inr hkey
  · exact Or.inl (List.mem_filter.mpr ⟨hx, decide_eq_true hkey⟩)

theorem Delegate.writes_delete (h : d.delete k db = .ok (r, db')) : d.Writes db db' :=
  ⟨_, (Delegate.delete_eq_ok.mp h).2⟩

end Kept

/-! ## Services within their grants -/

/-- Every run of the service stays within the grants. -/
def Within {α : Type} (g : Grants) (m : Service χ α) : Prop := Svc.Moves (fun w w' => Touches g w.db w'.db) m

namespace Within

variable {α β : Type} {g : Grants}

theorem of_reading {m : Service χ α} (h : ∀ w, (m.run w).2.db = w.db) : Within g m := by
  intro w
  rw [h w]
  exact Touches.refl g w.db

theorem of_state {m : Service χ α} (h : ∀ w, (m.run w).2 = w) : Within g m := of_reading fun w => by rw [h w]

theorem bind {m : Service χ α} {f : α → Service χ β} (hm : Within g m) (hf : ∀ a, Within g (f a)) :
    Within g (m >>= f) := Svc.Moves.bind Touches.trans hm hf

theorem pure (a : α) : Within g (pure a : Service χ α) := of_reading fun _ => rfl

theorem ofExcept (r : Except Thrown α) : Within g (Svc.ofExcept r : Service χ α) := of_reading fun _ => rfl

theorem throwIf (c : Prop) [Decidable c] (t : Thrown) : Within g (Svc.throwIf c t : Service χ Unit) :=
  Svc.Moves.throwIf (fun w => Touches.refl g w.db) c t

theorem orThrow (o : Option α) (t : Thrown) : Within g (Svc.orThrow o t : Service χ α) :=
  Svc.Moves.orThrow (fun w => Touches.refl g w.db) o t

theorem external (call : χ → Except Thrown α × χ) : Within g (external call) := of_reading fun _ => rfl

theorem lookup (accepted : Bool) (found : Db → Option α) :
    Within g (IKash.prisma (IKash.lookup accepted found) : Service χ (Option α)) :=
  of_state (prisma_lookup_state accepted found)

theorem prisma {tx : Tx α} (h : ∀ db a db', tx db = .ok (a, db') → Touches g db db') :
    Within g (IKash.prisma tx : Service χ α) :=
  prisma_moves (fun w => Touches.refl g w.db) fun w a db htx => h w.db a db htx

theorem faulty {m : Service χ α} (fault : Option Thrown) (h : Within g m) : Within g (IKash.faulty fault m) := by
  cases fault with
  | some t => exact of_reading fun _ => rfl
  | none => exact h

theorem audit (entry : AuditLog) : Within g (AuditLogService.create entry : Service χ Unit) := by
  intro w
  obtain ⟨db, hrun, hre⟩ := AuditLogService.create_run entry w
  rw [hrun]
  exact Touches.of_rewritten hre (fun _ _ => Or.inl rfl) fun _ _ => Or.inl rfl

theorem recordUnless (fault : Option Thrown) (entry : AuditLog) :
    Within g (IKash.recordUnless fault entry : Service χ Unit) := by
  cases fault with
  | some t => exact pure ()
  | none => exact audit entry

end Within

section Services

variable {g : Grants}

/-! ### Offers -/

theorem offer_create_within (codec : Codec) (dto : CreateOfferDto) (freshId : String) :
    Within g (OfferService.create codec dto freshId : Service χ Offer) := by
  refine Within.bind (Within.ofExcept _) fun row => Within.bind (Within.prisma fun db o db' h => ?_) fun created => ?_
  · exact Touches.of_offers (Delegate.writes_create h) fun o ho => Or.inl (Delegate.kept_create h ho)
  · exact Within.bind (Within.audit _) fun _ => Within.pure _

theorem offer_update_within (hg : ∀ k, g.offer k) (codec : Codec) (id : String) (dto : UpdateOfferDto) :
    Within g (OfferService.update codec id dto : Service χ Offer) := by
  refine Within.bind (Within.ofExcept _) fun data => Within.bind (Within.prisma fun db o db' h => ?_) fun updated => ?_
  · exact Touches.of_offers (Delegate.writes_update h) fun o _ => Or.inr (Or.inl (hg o.offerId))
  · exact Within.bind (Within.audit _) fun _ => Within.pure _

theorem offer_remove_within (hg : ∀ k, g.offer k) (id : String) :
    Within g (OfferService.remove id : Service χ Offer) := by
  refine Within.bind (Within.prisma fun db o db' h => ?_) fun removed => ?_
  · exact Touches.of_offers (Delegate.writes_delete h) fun o _ => Or.inr (Or.inl (hg o.offerId))
  · exact Within.bind (Within.audit _) fun _ => Within.pure _

/-! ### Orders -/

theorem createTx_touches {codec : AmountCodec} {orderId freshId contractId : String} {dto : CreateOrderDto}
    (hg : g.takes (uuid dto.offerId)) {db db' : Db} {o : Order}
    (h : OrderService.createTx codec orderId freshId contractId dto db = .ok (o, db')) : Touches g db db' := by
  obtain ⟨row, db₁, h₁, hrest⟩ := Tx.of_bind_ok h
  obtain ⟨order, db₂, h₂, hrest₂⟩ := Tx.of_bind_ok hrest
  obtain ⟨_, db₃, h₃, hrest₃⟩ := Tx.of_bind_ok hrest₂
  obtain ⟨offer, db₄, h₄, hrest₄⟩ := Tx.of_bind_ok hrest₃
  cases hrest₄
  obtain rfl : db₁ = db := by
    cases hrow : OrderService.orderRow codec orderId dto with
    | error t => rw [hrow] at h₁; cases h₁
    | ok r => rw [hrow] at h₁; cases h₁; rfl
  have horder : Touches g db₁ db₂ :=
    Touches.of_orders (Delegate.writes_create h₂) fun o ho => Or.inl (Delegate.kept_create h₂ ho)
  have hescrow : Touches g db₂ db₃ :=
    Touches.of_escrows (Delegate.writes_create h₃) fun e he => Or.inl (Delegate.kept_create h₃ he)
  refine horder.trans (hescrow.trans (Touches.of_offers (Delegate.writes_update h₄) fun o ho => ?_))
  refine (Delegate.kept_update h₄ ho).imp_right fun hkey => Or.inr ?_
  have hid : o.offerId = uuid dto.offerId := hkey
  obtain ⟨-, -, -, -, hrows⟩ := Delegate.of_update h₄
  refine ⟨by rw [hid]; exact hg, ?_⟩
  show execute o ∈ (Prisma.offer.get db'.toTables).rows
  rw [hrows]
  exact List.mem_map.mpr ⟨o, ho, Table.atKey_eq hkey⟩

theorem order_create_within (tw : TrustlessWorkService χ) (config : EscrowConfig) (codec : AmountCodec)
    (dto : CreateOrderDto) (orderId freshId : String) (faults : DbFaults) (hg : g.takes (uuid dto.offerId)) :
    Within g (OrderService.create tw config codec dto orderId freshId faults) := by
  refine Within.bind (Within.of_reading (deployEscrowToChain_moves tw config orderId _)) fun d => ?_
  refine Within.bind (Within.faulty _ (Within.prisma fun db o db' h => createTx_touches hg h)) fun order => ?_
  exact Within.bind (Within.recordUnless _ _) fun _ => Within.pure _

/-- Only a party cancels. -/
theorem order_cancel_touches (id userId : String) (w : World χ)
    (hg : ∀ o ∈ w.db.orders.rows, o.orderId = uuid id → userId ∈ parties o → g.order o) :
    Touches g w.db ((OrderService.cancel id userId).run w).2.db := by
  rcases OrderService.cancel_cases id userId w with h | ⟨row, db, h, hrow, hcan, hre⟩
  · rw [h]
    exact Touches.refl g w.db
  · rw [h]
    refine Touches.of_rewritten hre (fun _ _ => Or.inl rfl) fun o ho => ?_
    refine (Table.atKey_cases (uuid id) (OrderService.setStatus .cancelled) o).imp_right fun ⟨hkey, _⟩ => hg o ho hkey ?_
    have hfind : w.db.orders.find? (uuid id) = some o := Table.find?_eq_some.mpr ⟨ho, hkey⟩
    obtain rfl : row.order = o := Option.some.inj ((orderWithEscrow_eq_some.mp hrow).1.symm.trans hfind)
    rcases hcan.party with hbuyer | hseller
    · rw [← hbuyer]
      exact List.mem_cons_self
    · rw [← hseller]
      exact List.mem_cons_of_mem _ List.mem_cons_self

theorem order_update_touches (codec : Codec) (id : String) (dto : UpdateOrderDto) (w : World χ)
    (hg : ∀ o ∈ w.db.orders.rows, o.orderId = uuid id → g.order o) :
    Touches g w.db ((OrderService.update codec id dto).run w).2.db := by
  rcases OrderService.update_cases codec id dto w with ⟨h, -⟩ | ⟨o, o', db, -, -, -, h, hre⟩
  · rw [h]
    exact Touches.refl g w.db
  · rw [h]
    refine Touches.of_rewritten hre (fun _ _ => Or.inl rfl) fun o ho => ?_
    exact (Table.atKey_cases (uuid id) _ o).imp_right fun ⟨hkey, _⟩ => hg o ho hkey

/-- An order goes with its escrow. -/
theorem order_remove_within (id : String) (horder : ∀ o, o.orderId = uuid id → g.order o)
    (hescrow : ∀ e, e.orderId = uuid id → g.escrow e) : Within g (OrderService.remove id : Service χ Order) := by
  refine Within.bind (Within.prisma fun db o db' h => ?_) fun removed => Within.bind (Within.audit _) fun _ => Within.pure _
  obtain ⟨-, hdb⟩ := Prisma.order_delete_eq_ok.mp h
  have hmethods : db'.paymentMethods = db.paymentMethods := by rw [hdb]
  refine ⟨same_offers (by rw [hdb]), fun o ho => ?_, fun e he => ?_, same_methods hmethods, no_method_created hmethods⟩
  · rw [hdb]
    by_cases hkey : o.orderId = uuid id
    · exact Or.inr (horder o hkey)
    · exact Or.inl (List.mem_filter.mpr ⟨ho, decide_eq_true hkey⟩)
  · rw [hdb]
    by_cases hkey : e.orderId = uuid id
    · exact Or.inr (hescrow e hkey)
    · exact Or.inl (List.mem_filter.mpr ⟨he, decide_eq_true hkey⟩)

/-! ### Escrows -/

/-- A write to the escrows, when every escrow is granted. -/
theorem Within.escrows {α : Type} {tx : Tx α} (hg : ∀ e, g.escrow e)
    (h : ∀ db a db', tx db = .ok (a, db') → Prisma.escrowOnChain.Writes db db') :
    Within g (IKash.prisma tx : Service χ α) :=
  Within.prisma fun db a db' htx => Touches.of_escrows (h db a db' htx) fun e _ => Or.inr (hg e)

theorem open_within (tw : TrustlessWorkService χ) (config : EscrowConfig) (codec : AmountCodec) (dto : OpenEscrowDto)
    (freshId : String) (faults : DbFaults) (hg : ∀ e, g.escrow e) :
    Within g (EscrowService.openEscrow tw config codec dto freshId faults) := by
  refine Within.bind (Within.of_state (findUndeployed_state faults.find dto.orderId)) fun existing => ?_
  refine Within.bind (Within.of_reading (deployEscrowToChain_moves tw config dto.orderId dto.deployDto)) fun d => ?_
  refine Within.bind ?_ fun escrow => ?_
  · cases existing with
    | some e => exact Within.pure e
    | none => exact Within.faulty _ (Within.escrows hg createRow_writes)
  refine Within.bind (Within.faulty _ (Within.escrows hg fun _ _ _ => Delegate.writes_update)) fun _ => ?_
  refine Within.bind ?_ fun _ => Within.pure _
  unfold openAudit
  split
  · exact Within.recordUnless _ _
  · exact Within.pure _

theorem initialize_within (tw : TrustlessWorkService χ) (config : EscrowConfig) (codec : AmountCodec)
    (dto : InitializeEscrowDto) (freshId : String) (faults : DbFaults) (hg : ∀ e, g.escrow e) :
    Within g (EscrowService.initializeEscrow tw config codec dto freshId faults) := by
  refine Within.bind (Within.of_state (initializeCheck_state dto faults.find)) fun _ => ?_
  refine Within.bind (Within.of_reading (initializeBuild_moves tw config dto)) fun unsigned => ?_
  refine Within.bind (Within.faulty _ (Within.lookup _ _)) fun found => Within.bind ?_ fun escrow => ?_
  · cases found with
    | none => exact Within.faulty _ (Within.escrows hg createRow_writes)
    | some e => exact Within.faulty _ (Within.escrows hg updateParameters_writes)
  refine Within.bind ?_ fun _ => Within.pure _
  unfold initializeAudit
  split
  · exact Within.recordUnless _ _
  · exact Within.pure _

theorem getOrFail_within (id : String) : Within g (getOrFail id : Service χ EscrowOnChain) :=
  Within.bind (Within.lookup _ _) fun escrow => Within.orThrow escrow _

theorem sync_within (tw : TrustlessWork χ) (dto : SyncEscrowDto) (hg : ∀ e, g.escrow e) :
    Within g (EscrowService.syncTransaction tw dto) := by
  refine Within.bind (Within.of_state (syncCheck_state dto)) fun escrow => Within.bind ?_ fun result => ?_
  · exact Within.bind (Within.external _) fun result => Within.bind (Within.throwIf _ _) fun _ => Within.pure _
  refine Within.bind (Within.escrows hg fun _ _ _ => Delegate.writes_update) fun _ => Within.bind ?_ fun _ => Within.pure _
  cases syncEntry dto (result.contractId.or escrow.contractId) with
  | none => exact Within.pure _
  | some entry => exact Within.audit entry

theorem fund_within (tw : TrustlessWorkService χ) (dto : FundEscrowDto) : Within g (EscrowService.fund tw dto) := by
  refine Within.bind (getOrFail_within _) fun escrow => Within.bind (Within.orThrow _ _) fun contractId => ?_
  refine Within.bind (Within.throwIf _ _) fun _ => Within.bind (Within.external _) fun _ => Within.pure _

theorem release_within (tw : ReleasingWork χ) (config : EscrowConfig) (dto : ReleaseEscrowDto) :
    Within g (EscrowService.release tw config dto) := by
  refine Within.bind (getOrFail_within _) fun escrow => Within.bind (Within.orThrow _ _) fun contractId => ?_
  refine Within.bind (Within.throwIf _ _) fun _ => Within.bind (Within.external _) fun statusRes => ?_
  refine Within.bind ?_ fun _ => Within.bind (Within.external _) fun _ => Within.pure _
  unfold autoApprove
  split
  · refine Within.bind (Within.ofExcept _) fun treasury => Within.bind (Within.ofExcept _) fun secret => ?_
    refine Within.bind (Within.external _) fun unsigned => Within.bind (Within.ofExcept _) fun signed => ?_
    exact Within.bind (Within.external _) fun result => Within.throwIf _ _
  · exact Within.pure _

theorem markFiatSent_within (tw : TrustlessWorkService χ) (id : String) (dto : FiatSentDto) :
    Within g (EscrowService.markFiatSent tw id dto) := by
  refine Within.bind ?_ fun escrow => Within.bind (Within.external _) fun _ => Within.pure _
  exact Within.bind (getOrFail_within id) fun escrow => Within.bind (Within.throwIf _ _) fun _ => Within.pure _

/-- A write to the escrow with the id. -/
theorem Within.escrow {id : String} {data : EscrowOnChain → EscrowOnChain} (hg : ∀ e, e.escrowId = uuid id → g.escrow e) :
    Within g (IKash.prisma (Prisma.escrowOnChain.update (uuid id) data) : Service χ EscrowOnChain) :=
  Within.prisma fun _ _ _ h => Touches.of_escrows (Delegate.writes_update h) fun x hx =>
    (Delegate.kept_update h hx).imp_right (hg x)

theorem uploadEvidence_within (tw : ReleasingWork χ) (id : String) (file : Option UploadFileInput)
    (hg : ∀ e, e.escrowId = uuid id → g.escrow e) : Within g (EscrowService.uploadEvidence tw id file) := by
  refine Within.bind (Within.ofExcept _) fun file => Within.bind (getOrFail_within id) fun escrow => ?_
  refine Within.bind (Within.of_reading fun _ => rfl) fun w => Within.bind (Within.external _) fun result => ?_
  exact Within.bind (Within.escrow hg) fun _ => Within.pure _

theorem escrow_create_within (dto : CreateEscrowDto) (freshId : String) :
    Within g (EscrowService.create dto freshId : Service χ EscrowOnChain) := by
  refine Within.bind (Within.lookup _ _) fun found => Within.bind (Within.throwIf _ _) fun _ => ?_
  exact Within.prisma fun db e db' h => Touches.of_escrows (Delegate.writes_create h) fun x hx =>
    Or.inl (Delegate.kept_create h hx)

theorem escrow_update_within (id : String) (dto : UpdateEscrowDto) (hg : ∀ e, e.escrowId = uuid id → g.escrow e) :
    Within g (EscrowService.update id dto : Service χ EscrowOnChain) :=
  Within.bind (Within.ofExcept _) fun _ => Within.escrow hg

theorem escrow_remove_within (id : String) (hg : ∀ e, e.escrowId = uuid id → g.escrow e) :
    Within g (EscrowService.remove id : Service χ EscrowOnChain) :=
  Within.prisma fun _ _ _ h => Touches.of_escrows (Delegate.writes_delete h) fun x hx =>
    (Delegate.kept_delete h hx).imp_right (hg x)

/-! ### Payment methods -/

theorem checkProvider_within (validator : PaymentMethodValidatorService) (providerId accountIdentifier : String) :
    Within g (PaymentMethodsService.checkProvider validator providerId accountIdentifier : Service χ PaymentProvider) := by
  refine Within.bind (Within.lookup _ _) fun provider => Within.bind (Within.orThrow _ _) fun provider => ?_
  exact Within.bind (Within.ofExcept _) fun _ => Within.pure _

theorem method_create_within (validator : PaymentMethodValidatorService) (dto : CreatePaymentMethodDto) (freshId : String)
    (hg : g.newMethod) : Within g (PaymentMethodsService.create validator dto freshId : Service χ PaymentMethod) := by
  refine Within.bind (checkProvider_within _ _ _) fun provider => Within.bind (Within.prisma fun db m db' h => ?_)
    fun created => Within.bind (Within.audit _) fun _ => Within.pure _
  exact Touches.of_methods (Delegate.writes_create h) (fun x hx => Or.inl (Delegate.kept_create h hx)) (Or.inl hg)

theorem method_update_within (validator : PaymentMethodValidatorService) (id : String) (dto : UpdatePaymentMethodDto)
    (hg : ∀ m, m.paymentId = uuid id → g.method m) :
    Within g (PaymentMethodsService.update validator id dto : Service χ PaymentMethod) := by
  refine Within.bind (Within.lookup _ _) fun existing => Within.bind (Within.orThrow _ _) fun existing => ?_
  refine Within.bind (checkProvider_within _ _ _) fun provider => Within.bind (Within.prisma fun db m db' h => ?_)
    fun updated => Within.bind (Within.audit _) fun _ => Within.pure _
  refine Touches.of_methods (Delegate.writes_update h) (fun x hx => (Delegate.kept_update h hx).imp_right (hg x))
    (Or.inr fun x hx => ?_)
  obtain ⟨-, -, -, -, hrows⟩ := Delegate.of_update h
  have hmem : x ∈ (Prisma.paymentMethod.get db'.toTables).rows := hx
  rw [hrows] at hmem
  obtain ⟨y, hy, rfl⟩ := List.mem_map.mp hmem
  refine ⟨y, hy, Eq.symm ?_⟩
  apply Table.atKey_column PaymentMethod.paymentId
  exact fun _ => rfl

theorem method_remove_within (id : String) (hg : ∀ m, m.paymentId = uuid id → g.method m) :
    Within g (PaymentMethodsService.remove id : Service χ PaymentMethod) := by
  refine Within.bind (Within.prisma fun db m db' h => ?_) fun removed => Within.bind (Within.audit _) fun _ => Within.pure _
  refine Touches.of_methods (Delegate.writes_delete h) (fun x hx => (Delegate.kept_delete h hx).imp_right (hg x))
    (Or.inr fun x hx => ⟨x, ?_, rfl⟩)
  obtain ⟨-, hdb⟩ := Delegate.delete_eq_ok.mp h
  have hmem : x ∈ (Prisma.paymentMethod.get db'.toTables).rows := hx
  rw [hdb] at hmem
  exact List.mem_of_mem_filter hmem

end Services

/-! ## Whose change it is -/

/-- The request carries a valid token of the user. -/
def CalledBy (w : World χ) (bearer : Option Token) (user : AuthUser) : Prop :=
  ((jwtAuth false bearer none).run w).1 = .ok user

/-- One of the owners, or a privileged user. -/
def ActsFor (w : World χ) (bearer : Option Token) (owners : List String) : Prop :=
  ∃ user, CalledBy w bearer user ∧ (user.userId ∈ owners ∨ Privileged w.db user)

/-- A party of the escrow's order, or a privileged user. -/
def ActsForEscrow (w : World χ) (bearer : Option Token) (e : EscrowOnChain) : Prop :=
  ∃ o ∈ w.db.orders.rows, o.orderId = e.orderId ∧ ActsFor w bearer (parties o)

/-- Every change is made by an owner, or by a privileged user. -/
structure OwnersAct (w : World χ) (req : MarketRequest) (db' : Db) : Prop where
  offers : ∀ o ∈ w.db.offers.rows, o ∉ db'.offers.rows → ActsFor w req.bearer [o.creatorId]
  orders : ∀ o ∈ w.db.orders.rows, o ∉ db'.orders.rows → ActsFor w req.bearer (parties o)
  escrows : ∀ e ∈ w.db.escrows.rows, e ∉ db'.escrows.rows → ActsForEscrow w req.bearer e
  methods : ∀ m ∈ w.db.paymentMethods.rows, m ∉ db'.paymentMethods.rows → ActsFor w req.bearer [m.userId]
  created : ∀ m ∈ db'.paymentMethods.rows, ¬ w.db.paymentMethods.Has m.paymentId → ActsFor w req.bearer [m.userId]

/-! The routes that compare the caller with no owner. -/

def MarketRoute.editsOffer : MarketRoute → Bool
  | .updateOffer .. | .removeOffer .. => true
  | _ => false

def MarketRoute.writesEscrow : MarketRoute → Bool
  | .openEscrow .. | .initializeEscrow .. | .sync .. => true
  | _ => false

def MarketRoute.addsMethod : MarketRoute → Bool
  | .createPaymentMethod .. => true
  | _ => false

/-- The offer becomes executed, and nothing else: an approved user makes an order of it, as its buyer or its seller. -/
structure Takes (w : World χ) (req : MarketRequest) (db' : Db) (o : Offer) : Prop where
  executed : execute o ∈ db'.offers.rows
  taker : ∃ user dto orderId freshId faults, req.route = .createOrder (some dto) orderId freshId faults ∧
    uuid dto.offerId = o.offerId ∧ CalledBy w req.bearer user ∧ Approved w.db user ∧
    user.userId ∈ [dto.buyerId, dto.sellerId]

/-- Every change is made by an owner or by a privileged user, but for the offer of a new order, and for what the routes
that look at no owner do. -/
structure OwnersOrTakersAct (w : World χ) (req : MarketRequest) (db' : Db) : Prop where
  offers : req.route.editsOffer = false → ∀ o ∈ w.db.offers.rows, o ∉ db'.offers.rows →
    ActsFor w req.bearer [o.creatorId] ∨ Takes w req db' o
  orders : ∀ o ∈ w.db.orders.rows, o ∉ db'.orders.rows → ActsFor w req.bearer (parties o)
  escrows : req.route.writesEscrow = false → ∀ e ∈ w.db.escrows.rows, e ∉ db'.escrows.rows →
    ActsForEscrow w req.bearer e
  methods : ∀ m ∈ w.db.paymentMethods.rows, m ∉ db'.paymentMethods.rows → ActsFor w req.bearer [m.userId]
  created : req.route.addsMethod = false → ∀ m ∈ db'.paymentMethods.rows, ¬ w.db.paymentMethods.Has m.paymentId →
    ActsFor w req.bearer [m.userId]

/-- Why the grants are the caller's. -/
structure Justified (w : World χ) (req : MarketRequest) (db' : Db) (g : Grants) : Prop where
  offer : ∀ k, g.offer k → req.route.editsOffer = true := by exact fun _ h => False.elim h
  takes : ∀ o : Offer, g.takes o.offerId → execute o ∈ db'.offers.rows → Takes w req db' o := by
    exact fun _ h => False.elim h
  order : ∀ o ∈ w.db.orders.rows, g.order o → ActsFor w req.bearer (parties o) := by exact fun _ _ h => False.elim h
  escrow : req.route.writesEscrow = false → ∀ e ∈ w.db.escrows.rows, g.escrow e → ActsForEscrow w req.bearer e := by
    exact fun _ _ _ h => False.elim h
  method : ∀ m ∈ w.db.paymentMethods.rows, g.method m → ActsFor w req.bearer [m.userId] := by
    exact fun _ _ h => False.elim h
  newMethod : g.newMethod → req.route.addsMethod = true := by exact fun h => False.elim h

section Justified

variable {w w' : World χ} {req : MarketRequest} {db' : Db} {g : Grants} {bearer : Option Token} {user : AuthUser}
  {type : ResourceType} {id : String}

theorem Touches.ownersOrTakersAct (h : Touches g w.db db') (hg : Justified w req db' g) :
    OwnersOrTakersAct w req db' where
  offers hroute o ho hgone := by
    rcases h.offers o ho with hkept | hoffer | ⟨htakes, hexecuted⟩
    · exact absurd hkept hgone
    · rw [hg.offer _ hoffer] at hroute
      cases hroute
    · exact Or.inr (hg.takes o htakes hexecuted)
  orders o ho hgone := hg.order o ho ((h.orders o ho).resolve_left hgone)
  escrows hroute e he hgone := hg.escrow hroute e he ((h.escrows e he).resolve_left hgone)
  methods m hm hgone := hg.method m hm ((h.methods m hm).resolve_left hgone)
  created hroute m hm hnew := by
    rcases h.created with hadd | hold
    · rw [hg.newMethod hadd] at hroute
      cases hroute
    · exact absurd (hold m hm) hnew

/-- A request that changes nothing. -/
theorem ownersOrTakersAct_refl : OwnersOrTakersAct w req w.db := (Touches.refl {} w.db).ownersOrTakersAct {}

theorem calledBy_of_jwtAuth {mock : Bool} {paramId : Option String} (hmock : mock = false)
    (h : ((jwtAuth mock bearer paramId).run w).1 = .ok user) : CalledBy w bearer user := by
  subst hmock
  exact h

/-- Whom the guard admits, acts for every owner. -/
theorem MayAccess.actsFor (h : MayAccess w.db type user id) (hcall : CalledBy w bearer user) {owners : List String}
    (howners : resolveOwnerIds w.db type id = some owners) : ActsFor w bearer owners := by
  rcases h with hpriv | ⟨owners', hsome, hmem⟩
  · exact ⟨user, hcall, Or.inr hpriv⟩
  · rw [howners] at hsome
    obtain rfl : owners = owners' := Option.some.inj hsome
    exact ⟨user, hcall, Or.inl hmem⟩

theorem MayAccess.actsForEscrow (h : MayAccess w.db .escrow user id) (hcall : CalledBy w bearer user)
    {e : EscrowOnChain} (he : e ∈ w.db.escrows.rows) (hid : e.escrowId = uuid id) : ActsForEscrow w bearer e := by
  obtain ⟨o, ho, horder⟩ := w.db.refs.escrowOrder e he
  refine ⟨o, ho, horder, h.actsFor hcall ?_⟩
  have hfind : w.db.escrows.find? (uuid id) = some e := Table.find?_eq_some.mpr ⟨he, hid⟩
  have hfind' : w.db.orders.find? e.orderId = some o := Table.find?_eq_some.mpr ⟨ho, horder⟩
  rw [resolveOwnerIds, hfind, Option.bind_some, hfind', Option.map_some]

theorem MayAccess.actsForMethod (h : MayAccess w.db .paymentMethod user id) (hcall : CalledBy w bearer user)
    {m : PaymentMethod} (hm : m ∈ w.db.paymentMethods.rows) (hid : m.paymentId = uuid id) :
    ActsFor w bearer [m.userId] := by
  refine h.actsFor hcall ?_
  have hfind : w.db.paymentMethods.find? (uuid id) = some m := Table.find?_eq_some.mpr ⟨hm, hid⟩
  rw [resolveOwnerIds, hfind, Option.map_some]

theorem MayTouch.actsFor (h : MayTouch w.db user id) (hcall : CalledBy w bearer user) {o : Order}
    (ho : o ∈ w.db.orders.rows) (hid : o.orderId = uuid id) : ActsFor w bearer (parties o) := by
  rcases h.2 with hpriv | ⟨o', ho', hmem⟩
  · exact ⟨user, hcall, Or.inr hpriv⟩
  · have hfind : w.db.orders.find? (uuid id) = some o := Table.find?_eq_some.mpr ⟨ho, hid⟩
    obtain rfl : o = o' := Option.some.inj (hfind.symm.trans ho')
    exact ⟨user, hcall, Or.inl hmem⟩

end Justified

/-! ## The routes -/

section Routes

variable {env : MarketEnv χ} {w : World χ} {req : MarketRequest} {user : AuthUser} {id : String} {m : Service χ Unit}

/-- A guard or a pipe that throws leaves everything. -/
theorem reading_bind_ind {α β : Type} {x : Service χ β} {f : β → Service χ α} {P : Db → Prop}
    (hx : (x.run w).2 = w) (hw : P w.db) (h : ∀ b, x.run w = (.ok b, w) → P ((f b).run w).2.db) :
    P ((x >>= f).run w).2.db := by
  rcases Svc.run_bind_reading f hx with hrun | ⟨b, hb, hrun⟩
  · rw [hrun]
    exact hw
  · rw [hrun]
    exact h b hb

theorem parsed_within {β : Type} {g : Grants} (body : Option β) : Within g (parsed body : Service χ β) :=
  Within.orThrow body _

/-- The answer is left out. -/
theorem unanswered_within {α : Type} {g : Grants} {x : Service χ α} (h : Within g x) :
    Within g (x >>= fun _ => pure () : Service χ Unit) := Within.bind h fun _ => Within.pure ()

/-- A body that is refused, or a service within the grants. -/
theorem handler_within {α β : Type} {g : Grants} {body : Option β} {f : β → Service χ α} (h : ∀ dto, Within g (f dto)) :
    Within g (parsed body >>= fun dto => f dto >>= fun _ => pure () : Service χ Unit) :=
  Within.bind (parsed_within body) fun dto => unanswered_within (h dto)

/-- A guarded route, for the user whom the token names. -/
theorem guarded_owners {f : AuthUser → Service χ Unit} {paramId : Option String} (hmock : env.mockProfileUpload = false)
    (h : ∀ user, CalledBy w req.bearer user → OwnersOrTakersAct w req ((f user).run w).2.db) :
    OwnersOrTakersAct w req ((jwtAuth env.mockProfileUpload req.bearer paramId >>= f : Service χ Unit).run w).2.db :=
  reading_bind_ind (jwtAuth_state _ _ _ w) ownersOrTakersAct_refl fun user hjwt =>
    h user (calledBy_of_jwtAuth hmock (by rw [hjwt]))

/-- A request that is granted nothing. -/
theorem harmless_owners (h : Within {} m) : OwnersOrTakersAct w req (m.run w).2.db := (h w).ownersOrTakersAct {}

/-! ### Offers and orders -/

theorem offers_create_within (user : AuthUser) (body : Option CreateOfferDto) (freshId : String) :
    Within {} (OfferController.create env user body freshId) := by
  refine Within.bind (Within.of_state (kycVerified_state user)) fun _ => Within.bind (parsed_within body) fun dto => ?_
  exact Within.bind (Within.throwIf _ _) fun _ => unanswered_within (offer_create_within _ _ _)

theorem offers_update_within (user : AuthUser) (id : String) (body : Option UpdateOfferDto) :
    Within { offer := fun _ => True } (OfferController.update env user id body) := by
  refine Within.bind (Within.of_state (kycVerified_state user)) fun _ => handler_within fun dto => ?_
  exact offer_update_within (fun _ => trivial) _ id dto

theorem offers_remove_within (user : AuthUser) (id : String) :
    Within { offer := fun _ => True } (OfferController.remove user id : Service χ Unit) := by
  refine Within.bind (Within.of_state (kycVerified_state user)) fun _ => ?_
  exact unanswered_within (offer_remove_within (fun _ => trivial) id)

/-- The buyer or the seller of a new order takes the offer. -/
theorem orders_create_owners {body : Option CreateOrderDto} {orderId freshId : String} {faults : DbFaults}
    (hroute : req.route = .createOrder body orderId freshId faults) (hcall : CalledBy w req.bearer user) :
    OwnersOrTakersAct w req ((OrderController.create env user body orderId freshId faults).run w).2.db := by
  refine reading_bind_ind (kycVerified_state user w) ownersOrTakersAct_refl fun _ hkyc => ?_
  obtain ⟨-, happroved⟩ := kycVerified_eq_ok.mp hkyc
  cases body with
  | none => exact ownersOrTakersAct_refl
  | some dto =>
    rw [parsed, Svc.run_bind_ok (Svc.run_orThrow_some _ _ _)]
    refine reading_bind_ind (by rw [Svc.run_throwIf]) ownersOrTakersAct_refl fun _ hparty => ?_
    obtain ⟨hparty, -⟩ := Svc.of_run_throwIf_ok hparty
    have hwithin : Within { takes := fun k => uuid dto.offerId = k } (OrderService.create env.tw.toTrustlessWorkService
        env.config env.codec dto orderId freshId faults) := order_create_within _ _ _ _ _ _ _ rfl
    refine (unanswered_within hwithin w).ownersOrTakersAct { takes := fun o hk hexecuted => ⟨hexecuted, ?_⟩ }
    refine ⟨user, dto, orderId, freshId, faults, hroute, hk, hcall, happroved, ?_⟩
    simp only [List.mem_cons, List.not_mem_nil, or_false]
    by_contra hno
    rw [not_or] at hno
    exact hparty ⟨fun h => hno.1 h.symm, fun h => hno.2 h.symm⟩

theorem orders_owners (codec : Codec) (request : OrderRequest) (hcall : CalledBy w req.bearer user) :
    OwnersOrTakersAct w req
      ((OrderController.handle codec user request >>= fun _ => pure () : Service χ Unit).run w).2.db := by
  rw [Svc.run_bind_pure_state]
  cases request with
  | cancel id =>
    refine Touches.ownersOrTakersAct (g := { order := fun o => o.orderId = uuid id ∧ user.userId ∈ parties o })
      (order_cancel_touches id user.userId w fun o _ hid hmem => ⟨hid, hmem⟩) ?_
    exact { order := fun o _ ho => ⟨user, hcall, Or.inl ho.2⟩ }
  | update id body =>
    refine reading_bind_ind (kycVerified_state user w) ownersOrTakersAct_refl fun _ _ => ?_
    refine reading_bind_ind (orderOwner_state user id w) ownersOrTakersAct_refl fun _ howner => ?_
    obtain ⟨-, htouch⟩ := orderOwner_eq_ok.mp howner
    cases body with
    | none => exact ownersOrTakersAct_refl
    | some dto =>
      refine Touches.ownersOrTakersAct (g := { order := fun o => o.orderId = uuid id })
        (order_update_touches codec id dto w fun o _ hid => hid) ?_
      exact { order := fun o ho hid => htouch.actsFor hcall ho hid }
  | remove id =>
    refine reading_bind_ind (kycVerified_state user w) ownersOrTakersAct_refl fun _ _ => ?_
    refine reading_bind_ind (orderOwner_state user id w) ownersOrTakersAct_refl fun _ howner => ?_
    obtain ⟨-, htouch⟩ := orderOwner_eq_ok.mp howner
    refine Touches.ownersOrTakersAct (g := { order := fun o => o.orderId = uuid id, escrow := fun e => e.orderId = uuid id })
      (order_remove_within id (fun _ hid => hid) (fun _ hid => hid) w) ?_
    refine { order := fun o ho hid => htouch.actsFor hcall ho hid, escrow := fun _ e he hid => ?_ }
    -- the escrow goes with its order, and the parties are the same
    obtain ⟨o, ho, horder⟩ := w.db.refs.escrowOrder e he
    have horder : o.orderId = e.orderId := horder
    exact ⟨o, ho, horder, htouch.actsFor hcall ho (horder.trans hid)⟩

/-! ### Escrows and payment methods -/

/-- A request about one escrow, by someone whom the guard admits to it. -/
theorem escrow_owners (hcall : CalledBy w req.bearer user) (h : Within { escrow := fun e => e.escrowId = uuid id } m) :
    OwnersOrTakersAct w req ((resourceOwner .escrow user id >>= fun _ => m : Service χ Unit).run w).2.db := by
  refine reading_bind_ind (resourceOwner_state _ _ _ w) ownersOrTakersAct_refl fun _ howner => ?_
  exact (h w).ownersOrTakersAct
    { escrow := fun _ e he hid => (of_resourceOwner_ok howner).actsForEscrow hcall he hid }

/-- A request about one payment method, by someone whom the guard admits to it. -/
theorem method_owners (hcall : CalledBy w req.bearer user) (h : Within { method := fun x => x.paymentId = uuid id } m) :
    OwnersOrTakersAct w req ((resourceOwner .paymentMethod user id >>= fun _ => m : Service χ Unit).run w).2.db := by
  refine reading_bind_ind (resourceOwner_state _ _ _ w) ownersOrTakersAct_refl fun _ howner => ?_
  exact (h w).ownersOrTakersAct
    { method := fun x hx hid => (of_resourceOwner_ok howner).actsForMethod hcall hx hid }

/-- A route that writes escrows and looks at no owner. -/
theorem unguarded_owners (hroute : req.route.writesEscrow = true) (h : Within { escrow := fun _ => True } m) :
    OwnersOrTakersAct w req (m.run w).2.db := by
  refine (h w).ownersOrTakersAct { escrow := fun hno => ?_ }
  rw [hroute] at hno
  cases hno

/-- **One request.** -/
theorem handle_owners (hmock : env.mockProfileUpload = false) (w : World χ) (req : MarketRequest) :
    OwnersOrTakersAct w req ((req.route.handle env req.bearer).run w).2.db := by
  obtain ⟨time, bearer, route⟩ := req
  cases route with
  | createOffer body freshId =>
    exact guarded_owners hmock fun user _ => harmless_owners (offers_create_within user body freshId)
  | updateOffer id body =>
    refine guarded_owners hmock fun user _ => ?_
    exact (offers_update_within user id body w).ownersOrTakersAct { offer := fun _ _ => rfl }
  | removeOffer id =>
    refine guarded_owners hmock fun user _ => ?_
    exact (offers_remove_within user id w).ownersOrTakersAct { offer := fun _ _ => rfl }
  | createOrder body orderId freshId faults =>
    exact guarded_owners hmock fun user hcall => orders_create_owners rfl hcall
  | order request => exact guarded_owners hmock fun user hcall => orders_owners env.codec.toCodec request hcall
  | openEscrow body freshId faults =>
    exact unguarded_owners rfl (handler_within fun dto => open_within _ _ _ dto freshId faults fun _ => trivial)
  | initializeEscrow body freshId faults =>
    exact unguarded_owners rfl (handler_within fun dto => initialize_within _ _ _ dto freshId faults fun _ => trivial)
  | fund body => exact harmless_owners (handler_within fun dto => fund_within _ dto)
  | release body => exact harmless_owners (handler_within fun dto => release_within _ _ dto)
  | sync body => exact unguarded_owners rfl (handler_within fun dto => sync_within _ dto fun _ => trivial)
  | markFiatSent id body =>
    refine guarded_owners hmock fun user hcall => escrow_owners hcall ?_
    exact handler_within fun dto => markFiatSent_within _ id dto
  | uploadEvidence id file =>
    refine guarded_owners hmock fun user hcall => escrow_owners hcall (Within.bind (Within.throwIf _ _) fun _ => ?_)
    exact unanswered_within (uploadEvidence_within _ id file fun _ h => h)
  | createEscrow body freshId => exact harmless_owners (handler_within fun dto => escrow_create_within dto freshId)
  | updateEscrow id body =>
    refine guarded_owners hmock fun user hcall => escrow_owners hcall ?_
    exact handler_within fun dto => escrow_update_within id dto fun _ h => h
  | removeEscrow id =>
    refine guarded_owners hmock fun user hcall => escrow_owners hcall ?_
    exact unanswered_within (escrow_remove_within id fun _ h => h)
  | createPaymentMethod body freshId =>
    have hwithin : Within { newMethod := True } (MarketRoute.handle env bearer (.createPaymentMethod body freshId)) :=
      handler_within fun dto => method_create_within _ dto freshId trivial
    exact (hwithin w).ownersOrTakersAct { newMethod := fun _ => rfl }
  | updatePaymentMethod id body =>
    refine guarded_owners hmock fun user hcall => method_owners hcall ?_
    exact handler_within fun dto => method_update_within _ id dto fun _ h => h
  | removePaymentMethod id =>
    refine guarded_owners hmock fun user hcall => method_owners hcall ?_
    exact unanswered_within (method_remove_within id fun _ h => h)

end Routes

/-- **Who changes what.** In every run, each change is made by an owner or by a privileged user, but for the offer of a
new order and for what the routes that look at no owner do. -/
theorem owners_act (env : MarketEnv χ) (hmock : env.mockProfileUpload = false) (w : World χ)
    (reqs : List MarketRequest) : (market env).Along
      (fun w req => OwnersOrTakersAct (w.at req.time) req ((market env).next w req).db) w reqs :=
  Machine.along_of_forall fun req _ w => handle_owners hmock (w.at req.time) req

/-! ## One market -/

namespace Market

def newOrder : String := "5d4c3b2a-6e7f-4811-9a2b-3c4d5e6f7081"

def book : Desk.Book := [("deploy", Desk.payload newOrder ("Order " ++ newOrder) "GBUYER" 5)]

def releasingWork : ReleasingWork Deployments where
  toTrustlessWorkService := Desk.trustlessWork book
  getEscrowByContractId _ _ ds := (.ok (.arr []), ds)
  approveMilestone _ ds := (.ok "approve", ds)
  releaseMilestoneFunds _ ds := (.ok "release", ds)
  uploadFile _ key ds := (.ok ⟨key, "https://files/" ++ key⟩, ds)

def env : MarketEnv Deployments where
  tw := releasingWork
  config := Desk.config
  codec := Desk.codec

def sellerToken : Token := ⟨"u1", "G1", true, 1000⟩

def buyerToken : Token := ⟨"u2", "G2", true, 1000⟩

/-- The seller's offer, and two users who are logged in. -/
def world : World Deployments := { Desk.world with issued := [sellerToken, buyerToken] }

/-- The buyer makes an order of the seller's offer. -/
def taken : MarketRequest where
  time := 20
  bearer := some buyerToken
  route := .createOrder (some {
    offerId := "f1", buyerId := "u2", sellerId := "u1", assetAmount := "5", fiatAmount := "5", sellerAddress := "GSELLER",
    buyerAddress := "GBUYER", assetCode := "USDC" }) newOrder "e1" {}

/-- The seller removes the order. -/
def removed : MarketRequest := ⟨30, some sellerToken, .order (.remove newOrder)⟩

theorem owners_act_taken : (market env).Along
    (fun w req => OwnersOrTakersAct (w.at req.time) req ((market env).next w req).db) world [taken, removed] :=
  owners_act env rfl world [taken, removed]

/-- The offer is the seller's, and the buyer changes it. -/
theorem taker_executes_offer : ¬ (market env).Along
    (fun w req => OwnersAct (w.at req.time) req ((market env).next w req).db) world [taken] := by
  rintro ⟨howners, -⟩
  obtain ⟨user, hcall, hacts⟩ := howners.offers { offerId := "f1", creatorId := "u1" } (by decide) (by decide)
  have hbuyer : ((jwtAuth false taken.bearer none).run (world.at taken.time)).1 = .ok ⟨"u2", "G2"⟩ := by decide
  obtain rfl : user = ⟨"u2", "G2"⟩ := Except.ok.inj (hcall.symm.trans hbuyer)
  revert hacts
  decide

end Market

end IKash
