import IKash.Lib.Machine
import IKash.Listener
import IKash.Order

/-!
# Sequential runs of the escrow flow

`flow tw` is the machine whose inputs are whole calls: a cancellation, the expiration job, a sync call, an event given
to one listener instance, and the passing of time. A call that throws leaves what it wrote before throwing.

**Terminal order statuses.** `cancel` and `expireOrders` never move an order that is released, cancelled or expired,
and a sync call never touches an order; an event that the listener applies moves it whatever its status. So they are
absorbing along a run exactly when every applied event finds an order that is not over, or already has the status the
event gives (`absorbing_iff`).
-/

namespace IKash

open Lib

inductive FlowOp where
  | cancel (id userId : String)
  | expireOrders (faults : String → Option Thrown)
  | syncTransaction (dto : SyncEscrowDto)
  | processEvent (inst : ℕ) (fault : Option Thrown) (event : OnChainEscrowEvent)
  | tick (ms : ℕ)

variable {χ : Type}

def FlowOp.service (tw : TrustlessWork χ) : FlowOp → Service χ Unit
  | .cancel id userId => (fun _ => ()) <$> OrderService.cancel id userId
  | .expireOrders faults => OrderService.expireOrders tw faults
  | .syncTransaction dto => (fun _ => ()) <$> EscrowService.syncTransaction tw dto
  | .processEvent inst fault event => (fun _ => ()) <$> StellarListenerService.processEvent inst fault event
  | .tick ms => Svc.modify fun w => { w with now := w.now + ms }

def flow (tw : TrustlessWork χ) : Machine (World χ) FlowOp (Except Thrown Unit) where
  step w op := (op.service tw).run w

variable {tw : TrustlessWork χ} {w : World χ}

section Next

theorem flow_next_cancel (id userId : String) :
    (flow tw).next w (.cancel id userId) = ((OrderService.cancel id userId).run w).2 := Svc.run_map_state _ _ _

theorem flow_next_sync (dto : SyncEscrowDto) :
    (flow tw).next w (.syncTransaction dto) = ((EscrowService.syncTransaction tw dto).run w).2 :=
  Svc.run_map_state _ _ _

theorem flow_next_event (inst : ℕ) (fault : Option Thrown) (event : OnChainEscrowEvent) :
    (flow tw).next w (.processEvent inst fault event) =
      ((StellarListenerService.processEvent inst fault event).run w).2 := Svc.run_map_state _ _ _

end Next

open StellarListenerService OrderService EscrowService

/-- An event that is not applied leaves the database; one that is applied rewrites the escrow and its order. -/
theorem flow_next_event_cases (tw : TrustlessWork χ) (inst : ℕ) (fault : Option Thrown) (event : OnChainEscrowEvent)
    (w : World χ) :
    (((flow tw).next w (.processEvent inst fault event)).db = w.db ∧
      ∀ e, verdict inst event w = .applicable e → fault ≠ none) ∨
    ∃ e, fault = none ∧ verdict inst event w = .applicable e ∧
      Rewritten (Table.atKey e.escrowId (escrowData event)) (Table.atKey e.orderId (orderData event)) w.db
        ((flow tw).next w (.processEvent inst fault event)).db := by
  rw [flow_next_event]
  have hrun := processEvent_run inst fault event w
  cases hv : verdict inst event w with
  | ignored => rw [hv] at hrun; exact Or.inl ⟨by rw [hrun], fun _ h => by cases h⟩
  | skipped => rw [hv] at hrun; exact Or.inl ⟨by rw [hrun]; rfl, fun _ h => by cases h⟩
  | throws t => rw [hv] at hrun; exact Or.inl ⟨by rw [hrun], fun _ h => by cases h⟩
  | applicable e =>
    rw [hv] at hrun
    cases fault with
    | some t =>
      have hrun : (processEvent inst (some t) event).run w = (.error t, w) := hrun
      exact Or.inl ⟨by rw [hrun], fun _ _ h => by cases h⟩
    | none =>
      obtain ⟨db, hrun, hre⟩ := hrun
      exact Or.inr ⟨e, rfl, rfl, by rw [hrun]; exact hre⟩

/-! ## Terminal order statuses -/

def finalOrderStatuses : List OrderStatus := [.cancelled, .expired, .released]

/-- Every order in a terminal status is still there with that status. -/
def KeepsFinal (w w' : World χ) : Prop :=
  ∀ k o, w.db.orders.find? k = some o → o.orderStatus ∈ finalOrderStatuses →
    ∃ o', w'.db.orders.find? k = some o' ∧ o'.orderStatus = o.orderStatus

theorem KeepsFinal.refl (w : World χ) : KeepsFinal w w := fun _ o ho _ => ⟨o, ho, rfl⟩

theorem KeepsFinal.trans {a b c : World χ} (h : KeepsFinal a b) (h' : KeepsFinal b c) : KeepsFinal a c := by
  intro k o ho hfinal
  obtain ⟨o₁, ho₁, hs₁⟩ := h k o ho hfinal
  obtain ⟨o₂, ho₂, hs₂⟩ := h' k o₁ ho₁ (hs₁ ▸ hfinal)
  exact ⟨o₂, ho₂, hs₂.trans hs₁⟩

/-- Orders rewritten by something that leaves the terminal ones. -/
theorem KeepsFinal.of_rewritten {w w' : World χ} {f : EscrowOnChain → EscrowOnChain} {g : Order → Order}
    (hre : Rewritten f g w.db w'.db)
    (hg : ∀ k o, w.db.orders.find? k = some o → o.orderStatus ∈ finalOrderStatuses → (g o).orderStatus = o.orderStatus) :
    KeepsFinal w w' := fun k o ho hfinal => ⟨g o, by rw [hre.find?_order, ho]; rfl, hg k o ho hfinal⟩

theorem KeepsFinal.of_db {w w' : World χ} (h : w'.db = w.db) : KeepsFinal w w' :=
  fun _ o ho _ => ⟨o, by rw [h]; exact ho, rfl⟩

theorem final_terminal {s : OrderStatus} (h : s ∈ finalOrderStatuses) : s ∈ terminalOrderStatuses := by
  revert h
  cases s <;> decide

/-- Once an order is terminal, no later moment of the run shows it otherwise. -/
def Absorbing (tw : TrustlessWork χ) (w : World χ) (ops : List FlowOp) : Prop :=
  ∀ pre mid post, ops = pre ++ mid ++ post → KeepsFinal ((flow tw).run w pre) ((flow tw).run w (pre ++ mid))

/-- An event that the listener will apply finds its order not over, or with the status the event gives. -/
def SparesFinal (w : World χ) : FlowOp → Prop
  | .processEvent inst none event => ∀ e o,
      eventKey event ∉ (w.listeners inst).processedEventIds → findEscrow w.db event = .ok (some e) →
      e.escrowStatus ∈ validTransitions (.event event.eventType) → w.db.orders.find? e.orderId = some o →
      o.orderStatus ∈ finalOrderStatuses → o.orderStatus = (mapEventToStatuses event.eventType).orderStatus
  | _ => True

/-- One call: only an event can move a terminal order. -/
theorem keepsFinal_next_iff (op : FlowOp) : KeepsFinal w ((flow tw).next w op) ↔ SparesFinal w op := by
  cases op with
  | cancel id userId =>
    refine iff_of_true ?_ trivial
    rw [flow_next_cancel]
    rcases cancel_cases id userId w with h | ⟨row, db, h, hrow, hcan, hre⟩
    · exact KeepsFinal.of_db (by rw [h])
    · rw [h]
      refine KeepsFinal.of_rewritten hre fun k o ho hfinal => ?_
      by_cases hk : Keyed.key o = uuid id
      · rw [Table.key_of_find? ho] at hk
        subst hk
        simp only [orderWithEscrow, ho, Option.map_some, Option.some.injEq] at hrow
        subst hrow
        exact absurd (final_terminal hfinal) hcan.order
      · rw [Table.atKey_ne hk]
  | expireOrders faults =>
    refine iff_of_true ?_ trivial
    obtain ⟨ext, db, g, h, hre, hg⟩ := expireOrders_run tw faults w
    show KeepsFinal w ((expireOrders tw faults).run w).2
    rw [h]
    refine KeepsFinal.of_rewritten hre fun k o ho hfinal => ?_
    rw [hg o (Table.find?_eq_some.mp ho).1 (final_terminal hfinal)]
  | syncTransaction dto =>
    refine iff_of_true ?_ trivial
    rw [flow_next_sync]
    rcases syncTransaction_cases tw dto w with ⟨ext, h, -⟩ | ⟨e, result, db, h, -, -, -, -, hre⟩
    · exact KeepsFinal.of_db (by rw [h])
    · rw [h]
      exact KeepsFinal.of_rewritten hre fun _ _ _ _ => rfl
  | tick ms => exact iff_of_true (KeepsFinal.of_db rfl) trivial
  | processEvent inst fault event =>
    rcases flow_next_event_cases tw inst fault event w with ⟨hdb, hnot⟩ | ⟨e, rfl, hv, hre⟩
    · refine iff_of_true (KeepsFinal.of_db hdb) ?_
      cases fault with
      | some t => trivial
      | none => exact fun e o hk hf hs _ _ => absurd rfl (hnot e (verdict_applicable.mpr ⟨hk, hf, hs⟩))
    · obtain ⟨hk, hf, hs⟩ := verdict_applicable.mp hv
      obtain ⟨o, ho⟩ := Table.has_iff.mp (w.db.refs.escrowOrder e (findEscrow_mem hf))
      constructor
      · intro hkeep e' o' _ hf' _ ho' hfinal
        obtain rfl : e = e' := by simpa [hf] using hf'
        obtain ⟨o₂, ho₂, hs₂⟩ := hkeep e.orderId o' ho' hfinal
        rw [hre.find?_order, ho', Option.map_some, Table.atKey_eq (Table.key_of_find? ho')] at ho₂
        cases ho₂
        exact hs₂.symm
      · intro hspare
        refine KeepsFinal.of_rewritten hre fun k o' ho' hfinal => ?_
        by_cases hko : Keyed.key o' = e.orderId
        · rw [Table.key_of_find? ho'] at hko
          subst hko
          rw [Table.atKey_eq (Table.key_of_find? ho')]
          exact (hspare e o' hk hf hs ho' hfinal).symm
        · rw [Table.atKey_ne hko]

/-- **Terminal statuses are absorbing** along a run exactly when every event that the listener applies spares them. -/
theorem absorbing_iff (tw : TrustlessWork χ) (w : World χ) (ops : List FlowOp) :
    Absorbing tw w ops ↔ (flow tw).Along SparesFinal w ops := by
  unfold Absorbing
  rw [← Machine.along_step_iff KeepsFinal.refl KeepsFinal.trans]
  exact ⟨Machine.Along.mono fun _ op => (keepsFinal_next_iff op).mp,
    Machine.Along.mono fun _ op => (keepsFinal_next_iff op).mpr⟩

/-- Trustless Work that executes whatever is submitted. -/
def Trade.trustlessWork : TrustlessWork Unit where
  sendTransaction _ _ := (.ok { status := "SUCCESS" }, ())
  getEscrowBalance _ _ := (.ok .null, ())

def Trade.event (id : String) (eventType : EventType) : OnChainEscrowEvent :=
  { eventId := id, eventType := eventType, contractId := "C1", txHash := "h", ledgerSequence := some 7,
    eventIndex := some 0 }

def Trade.sync (action : EscrowAction) : SyncEscrowDto := ⟨"e1", "xdr", action⟩

/-- The seller's funding transaction lands after the buyer cancelled: the cancelled order is locked again. -/
theorem cancelled_not_absorbing : ¬ Absorbing Trade.trustlessWork (Trade.world .created .initialized ())
    [.cancel "o1" "u2", .processEvent 0 none (Trade.event "1" .escrowFunded)] := by
  intro h
  obtain ⟨o, ho, hs⟩ := h [.cancel "o1" "u2"] [.processEvent 0 none (Trade.event "1" .escrowFunded)] [] rfl "o1"
    (Trade.order .cancelled) (by decide) (by decide)
  have hlocked : (((flow Trade.trustlessWork).run (Trade.world .created .initialized ()) ([.cancel "o1" "u2"] ++
    [.processEvent 0 none (Trade.event "1" .escrowFunded)])).db.orders.find? "o1").map Order.orderStatus =
      some .locked := by decide
  rw [ho, Option.map_some, hs] at hlocked
  cases hlocked

end IKash
