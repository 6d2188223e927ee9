import IKash.Interleaving

/-!
# Races between the calls

A sync call and an event validate the status of an escrow, wait, and write without a condition; `cancel` and the
expiration job look at an escrow, wait, and end its order without a condition. Each result says which schedules keep
what was checked true until the write.

- `no_lost_status`: a status is overwritten only by a transition that may start from it, as long as no call writes an
  escrow for which another call has validated a transition that may no longer start (`Unraced`);
- `ends_safely`: `cancel` and the job end only the orders they may end, as long as no call moves, under a waiting one,
  an escrow out of the statuses it was checked to be in, or its order (`Undisturbed`).

Both go by assertions of the waiting calls (`Pool.Asserted`).
-/

namespace IKash

open Lib StellarListenerService OrderService EscrowService

variable {χ : Type} {tw : TrustlessWork χ}

/-- All calls of a run, not started yet. -/
def launch (w : World χ) (ops : ℕ → FlowOp) : Pool (World χ) Call := ⟨w, fun i => .start (ops i)⟩

/-! ## Escrow statuses -/

/-- The escrow for which a call has validated a transition and not written it yet. -/
def Call.validated : Call → Option (String × Trigger)
  | .syncChecked dto _ => some (uuid dto.escrowId, .action dto.action)
  | .syncSent dto _ _ => some (uuid dto.escrowId, .action dto.action)
  | .eventChecked _ _ event escrow => some (escrow.escrowId, .event event.eventType)
  | _ => none

theorem Call.validated_of_escrowWrite {c : Call} {k : String} {t : Trigger} (h : c.escrowWrite = some (k, t)) :
    c.validated = some (k, t) := by
  cases c with
  | syncSent dto escrow result => exact h
  | eventChecked inst fault event escrow =>
    cases fault with
    | none => exact h
    | some _ => cases h
  | _ => cases h

/-- The transition may start in the status, or leads to it. -/
def Ready (t : Trigger) (s : EscrowStatus) : Prop := s ∈ validTransitions t ∨ s = t.status

instance (t : Trigger) (s : EscrowStatus) : Decidable (Ready t s) := inferInstanceAs (Decidable (_ ∨ _))

/-- What a waiting call relies on: its transition is still ready. -/
def StillReady (w : World χ) (c : Call) : Prop :=
  ∀ k t e, c.validated = some (k, t) → w.db.escrows.find? k = some e → Ready t e.escrowStatus

/-- No other call waits to write the escrow that the step writes, unless its transition is ready after it too. -/
def Unraced (p : Pool (World χ) Call) (j : ℕ) : Prop :=
  ∀ i, i ≠ j → ∀ k t t', (p.calls j).escrowWrite = some (k, t') → (p.calls i).validated = some (k, t) → Ready t t'.status

/-- The step changes a status only by a transition that may start from it. -/
def LawfulStep (tw : TrustlessWork χ) (p : Pool (World χ) Call) (j : ℕ) : Prop :=
  ∀ k e e', p.shared.db.escrows.find? k = some e → ((calls tw).next p j).shared.db.escrows.find? k = some e' →
    e'.escrowStatus ≠ e.escrowStatus → ∃ t, (p.calls j).escrowWrite = some (k, t) ∧ e'.escrowStatus = t.status ∧
      e.escrowStatus ∈ validTransitions t

/-- Every escrow that is released or resolved keeps its status. -/
def KeepsSettled (w w' : World χ) : Prop :=
  ∀ k e, w.db.escrows.find? k = some e → e.escrowStatus = .released ∨ e.escrowStatus = .resolved →
    ∃ e', w'.db.escrows.find? k = some e' ∧ e'.escrowStatus = e.escrowStatus

/-- No status is lost in the run. -/
def Lawful (tw : TrustlessWork χ) (p : Pool (World χ) Call) (is : List ℕ) : Prop :=
  (calls tw).Along (LawfulStep tw) p is ∧ ∀ pre mid post, is = pre ++ mid ++ post →
    KeepsSettled ((calls tw).run p pre).shared ((calls tw).run p (pre ++ mid)).shared

section Escrows

variable {w : World χ} {c : Call}

theorem judge_validated {inst : ℕ} {fault : Option Thrown} {event : OnChainEscrowEvent} {e : EscrowOnChain}
    {k : String} {t : Trigger} (h : (judge inst fault event e).validated = some (k, t)) :
    k = e.escrowId ∧ e.escrowStatus ∈ validTransitions t := by
  unfold judge at h
  split_ifs at h with hterm hvalid
  · cases h
  · cases h
    exact ⟨rfl, hvalid⟩
  · cases h

theorem stillReady_judge (inst : ℕ) (fault : Option Thrown) (event : OnChainEscrowEvent) {e : EscrowOnChain}
    (he : e ∈ w.db.escrows.rows) : StillReady w (judge inst fault event e) := by
  intro k t e' hv hfind
  obtain ⟨rfl, hvalid⟩ := judge_validated hv
  have hsame : w.db.escrows.find? e.escrowId = some e := Table.find?_eq_some.mpr ⟨he, rfl⟩
  obtain rfl : e = e' := Option.some.inj (hsame.symm.trans hfind)
  exact Or.inl hvalid

theorem stillReady_none (h : c.validated = none) : StillReady w c := by
  intro k t e hv
  rw [h] at hv
  cases hv

theorem stillReady_await {α : Type} {m : Service χ α} {k : α → Call} (hk : ∀ a, (k a).validated = none) :
    StillReady (Pool.await .done m k w).1 (Pool.await .done m k w).2 :=
  Pool.await_ind (fun a _ _ => stillReady_none (hk a)) fun _ => stillReady_none rfl

theorem stillReady_found {found : Option EscrowOnChain} {c : Call} {f : EscrowOnChain → Call}
    (hc : c.validated = none) (hf : ∀ e ∈ found, StillReady w (f e)) : StillReady w (found.elim c f) := by
  cases found with
  | none => exact stillReady_none hc
  | some e => exact hf e rfl

/-- A call that has validated a transition has just read a status it may start from. -/
theorem stillReady_own (tw : TrustlessWork χ) (w : World χ) (c : Call) (h : StillReady w c) :
    StillReady (callStep tw w c).1 (callStep tw w c).2 := by
  cases c with
  | start op =>
    cases op with
    | cancel id userId => exact stillReady_await fun _ => rfl
    | syncTransaction dto =>
      refine Pool.await_ind (fun e w' hrun => ?_) fun _ => stillReady_none rfl
      obtain ⟨rfl, he, hvalid⟩ := syncCheck_eq_ok.mp hrun
      intro k t e' hv hfind
      cases hv
      obtain rfl : e = e' := Option.some.inj (he.symm.trans hfind)
      exact Or.inl hvalid
    | processEvent inst fault event =>
      refine stillReady_none ?_
      rw [callStep, firstStep]
      split_ifs <;> rfl
    | expireOrders faults => exact stillReady_none rfl
    | tick ms => exact stillReady_none rfl
  | syncChecked dto escrow =>
    refine Pool.await_ind (fun result w' hrun => ?_) fun _ => stillReady_none rfl
    have hstate := syncSend_run tw dto w
    rw [hrun] at hstate
    obtain rfl : w' = _ := hstate
    exact h
  | eventUnseen inst fault event =>
    refine Pool.await_ind (fun found w' hrun => ?_) fun _ => stillReady_none rfl
    cases hrun
    exact stillReady_found rfl fun e he => stillReady_judge inst fault event (escrowByContract_mem he)
  | eventByOrder inst fault event =>
    refine Pool.await_ind (fun found w' hrun => ?_) fun _ => stillReady_none rfl
    rw [findByOrder_run, Prod.mk.injEq] at hrun
    obtain ⟨hfound, rfl⟩ := hrun
    refine stillReady_found rfl fun e he => stillReady_judge inst fault event ?_
    obtain rfl : found = some e := he
    exact escrowByOrder_mem hfound
  | syncSent dto escrow result => exact stillReady_await fun _ => rfl
  | syncStored dto escrow result => exact stillReady_await fun _ => rfl
  | eventChecked inst fault event escrow =>
    exact stillReady_await fun _ => rfl
  | cancelChecked id => exact stillReady_await fun _ => rfl
  | expireNext faults rows =>
    cases rows with
    | nil => exact stillReady_none rfl
    | cons row rest =>
      rw [callStep]
      split_ifs
      · exact stillReady_none rfl
      · exact stillReady_await fun _ => rfl
  | expireChecked faults row rest =>
    exact stillReady_await fun _ => rfl
  | eventHandled inst event => exact stillReady_none rfl
  | expireAt faults now => exact stillReady_none rfl
  | done => exact stillReady_none rfl

/-- A step of another call leaves the transition ready unless it races with it. -/
theorem stillReady_other {p : Pool (World χ) Call} {i j : ℕ} (hij : i ≠ j) (hrace : Unraced p j)
    (h : StillReady p.shared (p.calls i)) : StillReady (callStep tw p.shared (p.calls j)).1 (p.calls i) := by
  intro k t e' hv hfind'
  obtain ⟨f, g, hre, hann⟩ := callStep_rewrites tw p.shared (p.calls j)
  rw [hre.find?_escrow, Option.map_eq_some_iff] at hfind'
  obtain ⟨e, hfind, rfl⟩ := hfind'
  rcases hann.escrow e with hsame | ⟨t', hwrite, hs⟩
  · rw [hsame]
    exact h k t e hv hfind
  · have hk : e.escrowId = k := Table.key_of_find? hfind
    rw [hk] at hwrite
    rw [hs]
    exact hrace i hij k t t' hwrite hv

theorem lawfulStep_of_stillReady {p : Pool (World χ) Call} {j : ℕ} (h : StillReady p.shared (p.calls j)) :
    LawfulStep tw p j := by
  intro k e e' hfind hfind' hne
  obtain ⟨f, g, hre, hann⟩ := callStep_rewrites tw p.shared (p.calls j)
  rw [Pool.next_shared, hre.find?_escrow, hfind, Option.map_some, Option.some.injEq] at hfind'
  subst hfind'
  rcases hann.escrow e with hsame | ⟨t, hwrite, hs⟩
  · exact absurd hsame hne
  · have hk : e.escrowId = k := Table.key_of_find? hfind
    rw [hk] at hwrite
    refine ⟨t, hwrite, hs, ?_⟩
    rcases h k t e (Call.validated_of_escrowWrite hwrite) hfind with hvalid | heq
    · exact hvalid
    · exact absurd (hs.trans heq.symm) hne

theorem KeepsSettled.refl (w : World χ) : KeepsSettled w w := fun _ e he _ => ⟨e, he, rfl⟩

theorem KeepsSettled.trans {a b c : World χ} (h : KeepsSettled a b) (h' : KeepsSettled b c) : KeepsSettled a c := by
  intro k e he hsettled
  obtain ⟨e₁, he₁, hs₁⟩ := h k e he hsettled
  obtain ⟨e₂, he₂, hs₂⟩ := h' k e₁ he₁ (hs₁ ▸ hsettled)
  exact ⟨e₂, he₂, hs₂.trans hs₁⟩

/-- No transition starts from a settled status, so a lawful step keeps it. -/
theorem LawfulStep.keepsSettled {p : Pool (World χ) Call} {j : ℕ} (h : LawfulStep tw p j) :
    KeepsSettled p.shared ((calls tw).next p j).shared := by
  intro k e hfind hsettled
  obtain ⟨f, g, hre, -⟩ := callStep_rewrites tw p.shared (p.calls j)
  have hfind' : ((calls tw).next p j).shared.db.escrows.find? k = some (f e) := by
    rw [Pool.next_shared, hre.find?_escrow, hfind, Option.map_some]
  refine ⟨f e, hfind', ?_⟩
  by_contra hne
  obtain ⟨t, -, -, hvalid⟩ := h k e (f e) hfind hfind' hne
  have hfinal := validTransitions_not_final hvalid
  rcases hsettled with hs | hs
  · exact hfinal.1 hs
  · exact hfinal.2 hs

/-- **No status is lost** when no call writes an escrow under another that has validated a transition of it, unless
that transition stays ready. -/
theorem no_lost_status (tw : TrustlessWork χ) (w : World χ) (ops : ℕ → FlowOp) (is : List ℕ)
    (h : (calls tw).Along Unraced (launch w ops) is) : Lawful tw (launch w ops) is := by
  have hstart : Pool.Asserted StillReady (launch w ops) := fun i => stillReady_none rfl
  have hsteps : (calls tw).Along (LawfulStep tw) (launch w ops) is :=
    Pool.along_of_asserted (stillReady_own tw) (fun p i j => stillReady_other) (fun p j hA _ =>
      lawfulStep_of_stillReady (hA j)) hstart h
  have hkeeps : (calls tw).Along (fun p j => KeepsSettled p.shared ((calls tw).next p j).shared) (launch w ops) is :=
    hsteps.mono fun _ _ => LawfulStep.keepsSettled
  exact ⟨hsteps, (Machine.along_step_iff (R := fun p p' : Pool (World χ) Call => KeepsSettled p.shared p'.shared)
    (fun p => KeepsSettled.refl p.shared) KeepsSettled.trans).mp hkeeps⟩

end Escrows

/-- Two requests of a trade: the buyer's `fiat_sent` and the seller's `release`. -/
def Trade.payAndRelease (i : ℕ) : FlowOp := .syncTransaction (Trade.sync (if i = 0 then .fiatSent else .release))

/-- A release that is synchronised while the `fiat_sent` transaction is being broadcast is overwritten afterwards. -/
theorem released_overwritten :
    ¬ Lawful Trade.trustlessWork (launch (Trade.world .locked .funded ()) Trade.payAndRelease) [0, 0, 1, 1, 1, 0] := by
  rintro ⟨-, hkeeps⟩
  obtain ⟨e, he, hs⟩ := hkeeps [0, 0, 1, 1, 1] [0] [] rfl "e1"
    { Trade.escrow .released with txHashRelease := some "xdr" } (by decide) (Or.inl rfl)
  have hpaid : (((calls Trade.trustlessWork).run (launch (Trade.world .locked .funded ()) Trade.payAndRelease)
      ([0, 0, 1, 1, 1] ++ [0])).shared.db.escrows.find? "e1").map EscrowOnChain.escrowStatus = some .fiatSent := by
    decide
  rw [he, Option.map_some, hs] at hpaid
  cases hpaid

/-- The same two requests when the second waits for the first. -/
theorem trade_unraced :
    Lawful Trade.trustlessWork (launch (Trade.world .locked .funded ()) Trade.payAndRelease) [0, 0, 0, 1, 1, 0, 1] := by
  apply no_lost_status
  refine ⟨?_, ?_, ?_, ?_, ?_, ?_, ?_, trivial⟩ <;> intro i hi k t t' hwrite hvalidated
  · cases hwrite
  · cases hwrite
  · simp [Pool.next_calls, Function.update_of_ne hi, launch, Call.validated] at hvalidated
  · cases hwrite
  · cases hwrite
  · cases hwrite
  · rcases Nat.eq_zero_or_pos i with rfl | hpos
    · cases hvalidated
    · simp [Pool.next_calls, Function.update_of_ne, hi, hpos.ne', launch, Call.validated] at hvalidated

/-! ## Ending an order -/

/-- The order that a call is about to cancel. -/
def Call.cancelling : Call → Option String
  | .cancelChecked id => some (uuid id)
  | _ => none

def unprotected (rows : List OrderWithEscrow) : List String :=
  (rows.filter (fun row => ¬ EscrowIn protectedEscrowStatuses row.escrow)).map fun row => row.order.orderId

/-- The orders that the job is about to expire or cancel. -/
def Call.expiring : Call → List String
  | .expireNext _ rows => unprotected rows
  | .expireChecked _ row rest => row.order.orderId :: unprotected rest
  | _ => []

/-- The escrow of the order is in none of the statuses. -/
def EscrowNotIn (statuses : List EscrowStatus) (db : Db) (k : String) : Prop :=
  ∀ e ∈ db.escrows.rows, e.orderId = k → e.escrowStatus ∉ statuses

def OrderIn (statuses : List OrderStatus) (db : Db) (k : String) : Prop :=
  ∀ o, db.orders.find? k = some o → o.orderStatus ∈ statuses

/-- What a waiting call relies on: the orders that it is about to end may still end. -/
structure StillEnding (w : World χ) (c : Call) : Prop where
  cancelling : ∀ k, c.cancelling = some k → EscrowNotIn blockedEscrowStatuses w.db k
  expiring : ∀ k ∈ c.expiring, EscrowNotIn protectedEscrowStatuses w.db k ∧ OrderIn activeOrderStatuses w.db k
  nodup : c.expiring.Nodup

/-- The step leaves alone what the other calls are about to end: it moves the escrow of no order that waits to be
cancelled or expired into a status that forbids it, and no order that waits to be expired out of `created` and
`locked`. -/
structure Undisturbed (p : Pool (World χ) Call) (j : ℕ) : Prop where
  cancelling : ∀ i, i ≠ j → ∀ e ∈ p.shared.db.escrows.rows, ∀ t, (p.calls j).escrowWrite = some (e.escrowId, t) →
    (p.calls i).cancelling = some e.orderId → t.status ∉ blockedEscrowStatuses
  expiring : ∀ i, i ≠ j → ∀ e ∈ p.shared.db.escrows.rows, ∀ t, (p.calls j).escrowWrite = some (e.escrowId, t) →
    e.orderId ∈ (p.calls i).expiring → t.status ∉ protectedEscrowStatuses
  order : ∀ i, i ≠ j → ∀ k s, (p.calls j).orderWrite = some (k, s) → k ∈ (p.calls i).expiring → s ∈ activeOrderStatuses

/-- A call that writes `cancelled` or `expired` in this step finds the order in a state that allows it. -/
def EndsSafely (p : Pool (World χ) Call) (j : ℕ) : Prop :=
  match p.calls j with
  | .cancelChecked id => EscrowNotIn blockedEscrowStatuses p.shared.db (uuid id)
  | .expireChecked _ row _ => EscrowNotIn protectedEscrowStatuses p.shared.db row.order.orderId ∧
      OrderIn activeOrderStatuses p.shared.db row.order.orderId
  | _ => True

section Orders

variable {w w' : World χ} {c : Call} {k : String} {f : EscrowOnChain → EscrowOnChain} {g : Order → Order}

theorem escrowNotIn_rewritten {statuses : List EscrowStatus} (hre : Rewritten f g w.db w'.db) (hann : c.Announces f g)
    (hwrite : ∀ e ∈ w.db.escrows.rows, ∀ t, c.escrowWrite = some (e.escrowId, t) → e.orderId = k → t.status ∉ statuses)
    (h : EscrowNotIn statuses w.db k) : EscrowNotIn statuses w'.db k := by
  intro e' he' hk
  rw [hre.escrows, List.mem_map] at he'
  obtain ⟨e, he, rfl⟩ := he'
  rw [(hre.escrowIds e).2] at hk
  rcases hann.escrow e with hsame | ⟨t, ht, hs⟩
  · rw [hsame]
    exact h e he hk
  · rw [hs]
    exact hwrite e he t ht hk

theorem orderIn_rewritten {statuses : List OrderStatus} (hre : Rewritten f g w.db w'.db) (hann : c.Announces f g)
    (hwrite : ∀ s, c.orderWrite = some (k, s) → s ∈ statuses) (h : OrderIn statuses w.db k) :
    OrderIn statuses w'.db k := by
  intro o' ho'
  rw [hre.find?_order, Option.map_eq_some_iff] at ho'
  obtain ⟨o, ho, rfl⟩ := ho'
  rcases hann.order o with hsame | ht
  · rw [hsame]
    exact h o ho
  · have hk : o.orderId = k := Table.key_of_find? ho
    rw [hk] at ht
    exact hwrite _ ht

/-- What the order's row says about its escrow. -/
theorem escrowNotIn_of_row {statuses : List EscrowStatus} {db : Db} {o : Order}
    (h : ¬ EscrowIn statuses (escrowOf db o)) : EscrowNotIn statuses db o.orderId := by
  intro e he hk hs
  have hrow : escrowOf db o = some e := (Table.findUnique?_eq_some (by simp [Keyed.uniques])).mpr ⟨he, congrArg some hk⟩
  exact h ⟨e, hrow, hs⟩

theorem stillEnding_none (hc : c.cancelling = none) (he : c.expiring = []) : StillEnding w c where
  cancelling k h := by rw [hc] at h; cases h
  expiring k h := by rw [he] at h; cases h
  nodup := by rw [he]; exact List.nodup_nil

/-- A call that still has the same orders to expire. -/
theorem StillEnding.moveOn {c' : Call} (h : StillEnding w c) (hdb : w'.db = w.db) (hc : c'.cancelling = none)
    (he : c'.expiring = c.expiring) : StillEnding w' c' where
  cancelling k hk := by rw [hc] at hk; cases hk
  expiring k hk := by
    rw [he] at hk
    rw [hdb]
    exact h.expiring k hk
  nodup := by rw [he]; exact h.nodup

theorem unprotected_cons (row : OrderWithEscrow) (rest : List OrderWithEscrow) : unprotected (row :: rest) =
    if EscrowIn protectedEscrowStatuses row.escrow then unprotected rest else row.order.orderId :: unprotected rest := by
  unfold unprotected
  split_ifs with hp
  · rw [List.filter_cons_of_neg (by simpa using hp)]
  · rw [List.filter_cons_of_pos (by simpa using hp), List.map_cons]

/-- The snapshot: distinct orders, each as it is stored. -/
theorem stillEnding_snapshot (faults : String → Option Thrown) (now : ℤ) (w : World χ) :
    StillEnding w (.expireNext faults (expiredOrders now w.db)) where
  cancelling k h := by cases h
  expiring k hk := by
    obtain ⟨row, hrow, rfl⟩ := List.mem_map.mp hk
    obtain ⟨hrow, hunprotected⟩ := List.mem_filter.mp hrow
    obtain ⟨o, ho, hexpired, rfl⟩ := mem_expiredOrders.mp hrow
    refine ⟨escrowNotIn_of_row (of_decide_eq_true hunprotected), fun o' ho' => ?_⟩
    have hsame : w.db.orders.find? o.orderId = some o := Table.find?_eq_some.mpr ⟨ho, rfl⟩
    obtain rfl : o = o' := Option.some.inj (hsame.symm.trans ho')
    exact hexpired.2
  nodup := (nodup_expiredOrders now w.db).sublist (List.filter_sublist.map _)

theorem stillEnding_await {α : Type} {m : Service χ α} {k : α → Call} (hc : ∀ a, (k a).cancelling = none)
    (he : ∀ a, (k a).expiring = []) : StillEnding (Pool.await .done m k w).1 (Pool.await .done m k w).2 :=
  Pool.await_ind (fun a _ _ => stillEnding_none (hc a) (he a)) fun _ => stillEnding_none rfl rfl

theorem judge_ends (inst : ℕ) (fault : Option Thrown) (event : OnChainEscrowEvent) (e : EscrowOnChain) :
    (judge inst fault event e).cancelling = none ∧ (judge inst fault event e).expiring = [] := by
  unfold judge
  split_ifs <;> exact ⟨rfl, rfl⟩

/-- A call that is about to end orders has read them in states that allow it; the job's writes leave its other
orders alone. -/
theorem stillEnding_own (tw : TrustlessWork χ) (w : World χ) (c : Call) (h : StillEnding w c) :
    StillEnding (callStep tw w c).1 (callStep tw w c).2 := by
  cases c with
  | start op =>
    cases op with
    | cancel orderId userId =>
      refine Pool.await_ind (fun row w' hrun => ?_) fun _ => stillEnding_none rfl rfl
      obtain ⟨rfl, hrow, hcan⟩ := cancelCheck_eq_ok.mp hrun
      obtain ⟨o, ho, rfl⟩ := Option.map_eq_some_iff.mp hrow
      refine ⟨fun k hk => ?_, fun k hk => (List.not_mem_nil hk).elim, List.nodup_nil⟩
      have hid : o.orderId = uuid orderId := Table.key_of_find? ho
      have hk : uuid orderId = k := Option.some.inj hk
      rw [← hk, ← hid]
      exact escrowNotIn_of_row hcan.escrow
    | syncTransaction dto => exact stillEnding_await (fun _ => rfl) fun _ => rfl
    | processEvent inst fault event =>
      rw [callStep, firstStep]
      split_ifs <;> exact stillEnding_none rfl rfl
    | expireOrders faults => exact stillEnding_none rfl rfl
    | tick ms => exact stillEnding_none rfl rfl
  | eventUnseen inst fault event =>
    refine stillEnding_await (fun found => ?_) fun found => ?_
    · cases found with
      | none => rfl
      | some e => exact (judge_ends inst fault event e).1
    · cases found with
      | none => rfl
      | some e => exact (judge_ends inst fault event e).2
  | eventByOrder inst fault event =>
    refine stillEnding_await (fun found => ?_) fun found => ?_
    · cases found with
      | none => rfl
      | some e => exact (judge_ends inst fault event e).1
    · cases found with
      | none => rfl
      | some e => exact (judge_ends inst fault event e).2
  | expireAt faults now => exact stillEnding_snapshot faults now w
  | expireNext faults rows =>
    cases rows with
    | nil => exact stillEnding_none rfl rfl
    | cons row rest =>
      have hexpiring : (Call.expireNext faults (row :: rest)).expiring = _ := unprotected_cons row rest
      rw [callStep]
      split_ifs with hp
      · rw [if_pos hp] at hexpiring
        exact h.moveOn rfl rfl hexpiring.symm
      · rw [if_neg hp] at hexpiring
        refine Pool.await_ind (fun _ w' hrun => ?_) fun _ => stillEnding_none rfl rfl
        obtain ⟨ext, hb⟩ := checkBalance_run tw row w
        rw [hb] at hrun
        cases hrun
        exact h.moveOn rfl rfl hexpiring.symm
  | expireChecked faults row rest =>
    obtain ⟨f, g, hre, hann⟩ := callStep_rewrites tw w (.expireChecked faults row rest)
    obtain ⟨hrow, hrest⟩ := List.nodup_cons.mp h.nodup
    have hcall : (callStep tw w (.expireChecked faults row rest)).2 = .expireNext faults rest := by
      rw [callStep, Pool.await, Svc.run_attempt]
    rw [hcall]
    refine ⟨fun k hk => (by cases hk), fun k hk => ?_, hrest⟩
    obtain ⟨hescrow, horder⟩ := h.expiring k (List.mem_cons_of_mem _ hk)
    refine ⟨escrowNotIn_rewritten hre hann (fun e he t ht => by cases ht) hescrow,
      orderIn_rewritten hre hann (fun s hs => ?_) horder⟩
    -- the order just written is not among those that wait
    have hk' : row.order.orderId = k := by
      rw [Call.orderWrite] at hs
      split_ifs at hs
      exact congrArg Prod.fst (Option.some.inj hs)
    exact absurd (hk' ▸ hk) hrow
  | syncChecked dto escrow => exact stillEnding_await (fun _ => rfl) fun _ => rfl
  | syncSent dto escrow result => exact stillEnding_await (fun _ => rfl) fun _ => rfl
  | syncStored dto escrow result => exact stillEnding_await (fun _ => rfl) fun _ => rfl
  | eventChecked inst fault event escrow => exact stillEnding_await (fun _ => rfl) fun _ => rfl
  | cancelChecked orderId => exact stillEnding_await (fun _ => rfl) fun _ => rfl
  | eventHandled inst event => exact stillEnding_none rfl rfl
  | done => exact stillEnding_none rfl rfl

theorem stillEnding_other {p : Pool (World χ) Call} {i j : ℕ} (hij : i ≠ j) (hun : Undisturbed p j)
    (h : StillEnding p.shared (p.calls i)) : StillEnding (callStep tw p.shared (p.calls j)).1 (p.calls i) := by
  obtain ⟨f, g, hre, hann⟩ := callStep_rewrites tw p.shared (p.calls j)
  refine ⟨fun k hk => ?_, fun k hk => ?_, h.nodup⟩
  · refine escrowNotIn_rewritten hre hann (fun e he t ht hko => ?_) (h.cancelling k hk)
    exact hun.cancelling i hij e he t ht (hko ▸ hk)
  · obtain ⟨hescrow, horder⟩ := h.expiring k hk
    refine ⟨escrowNotIn_rewritten hre hann (fun e he t ht hko => ?_) hescrow,
      orderIn_rewritten hre hann (fun s hs => hun.order i hij k s hs hk) horder⟩
    exact hun.expiring i hij e he t ht (hko ▸ hk)

theorem endsSafely_of_stillEnding {p : Pool (World χ) Call} {j : ℕ} (h : StillEnding p.shared (p.calls j)) :
    EndsSafely p j := by
  unfold EndsSafely
  cases hc : p.calls j with
  | cancelChecked id => exact h.cancelling _ (by rw [hc]; rfl)
  | expireChecked faults row rest => exact h.expiring _ (by rw [hc]; exact List.mem_cons_self)
  | _ => trivial

/-- **Orders end safely** when no call moves an order that waits to be ended, or its escrow. -/
theorem ends_safely (tw : TrustlessWork χ) (w : World χ) (ops : ℕ → FlowOp) (is : List ℕ)
    (h : (calls tw).Along Undisturbed (launch w ops) is) : (calls tw).Along EndsSafely (launch w ops) is := by
  have hstart : Pool.Asserted StillEnding (launch w ops) := fun i => stillEnding_none rfl rfl
  exact Pool.along_of_asserted (stillEnding_own tw) (fun p i j => stillEnding_other)
    (fun p j hA _ => endsSafely_of_stillEnding (hA j)) hstart h

end Orders

theorem undisturbed_of_none {p : Pool (World χ) Call} {j : ℕ} (he : (p.calls j).escrowWrite = none)
    (ho : (p.calls j).orderWrite = none) : Undisturbed p j where
  cancelling i _ e _ t h := by rw [he] at h; cases h
  expiring i _ e _ t h := by rw [he] at h; cases h
  order i _ k s h := by rw [ho] at h; cases h

theorem undisturbed_of_alone {p : Pool (World χ) Call} {j : ℕ}
    (h : ∀ i, i ≠ j → (p.calls i).cancelling = none ∧ (p.calls i).expiring = []) : Undisturbed p j where
  cancelling i hi e _ t _ hc := by rw [(h i hi).1] at hc; cases hc
  expiring i hi e _ t _ hk := by rw [(h i hi).2] at hk; cases hk
  order i hi k s _ hk := by rw [(h i hi).2] at hk; cases hk

/-- The buyer cancels while the seller's funding is being synchronised. -/
def Trade.cancelAndFund (i : ℕ) : FlowOp :=
  if i = 0 then .cancel "o1" "u2" else .syncTransaction (Trade.sync .fund)

/-- The job runs while the buyer's payment is being synchronised. -/
def Trade.expireAndPay (i : ℕ) : FlowOp :=
  if i = 0 then .expireOrders (fun _ => none) else .syncTransaction (Trade.sync .fiatSent)

/-- A funding that lands between the look and the write of `cancel`, and a payment that lands between the snapshot and
the write of the job. -/
theorem ended_under_funds :
    ¬ (calls Trade.trustlessWork).Along EndsSafely (launch (Trade.world .created .initialized ()) Trade.cancelAndFund)
      [0, 1, 1, 1, 0] ∧
    ¬ (calls Trade.trustlessWork).Along EndsSafely (launch (Trade.world .locked .funded ()) Trade.expireAndPay)
      [0, 0, 1, 1, 1, 0, 0] := by
  constructor
  · intro h
    have hcancel : EndsSafely _ 0 := Machine.along_iff.mp h [0, 1, 1, 1] 0 [] rfl
    exact hcancel (Trade.escrow .funded) List.mem_cons_self rfl (by decide)
  · intro h
    have hexpire : EndsSafely _ 0 := Machine.along_iff.mp h [0, 0, 1, 1, 1, 0] 0 [] rfl
    exact hexpire.1 (Trade.escrow .fiatSent) List.mem_cons_self rfl (by decide)

/-- The same two requests when the funding waits for the cancellation. -/
theorem trade_undisturbed :
    (calls Trade.trustlessWork).Along EndsSafely (launch (Trade.world .created .initialized ()) Trade.cancelAndFund)
      [0, 1, 0, 1, 1] := by
  apply ends_safely
  refine ⟨?_, ?_, ?_, ?_, ?_, trivial⟩
  · exact undisturbed_of_none rfl rfl
  · exact undisturbed_of_none rfl rfl
  · refine undisturbed_of_alone fun i hi => ?_
    rcases eq_or_ne i 1 with rfl | hi'
    · exact ⟨rfl, rfl⟩
    · simp [Pool.next_calls, Function.update_of_ne, hi, hi', launch, Call.cancelling, Call.expiring]
  · exact undisturbed_of_none rfl rfl
  · refine undisturbed_of_alone fun i hi => ?_
    rcases eq_or_ne i 0 with rfl | hi'
    · exact ⟨rfl, rfl⟩
    · simp [Pool.next_calls, Function.update_of_ne, hi, hi', launch, Call.cancelling, Call.expiring]

end IKash
