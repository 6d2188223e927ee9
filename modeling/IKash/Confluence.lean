import IKash.Flow

/-!
# Two paths of synchronisation

The chain's events reach an escrow through `processEvent`; the parties' own `syncTransaction` calls for the same
funding and release may come before or after them. A `Merge` is any order of the two.

- `Following`: what holds of the escrow row and its order while a history is being delivered; one delivery
  (`Following.deliver`) and one sync call (`Following.sync`) keep it;
- `Following.merge`: a merge runs up to its last delivery;
- `sync_event_confluence`: the escrow always ends with the status of the last event, and the order does too, unless a
  sync call was ahead of that event.
-/

namespace IKash

open Lib StellarListenerService EscrowService

variable {χ : Type}

/-- The statuses of an escrow and its order. -/
def statusesOf (w : World χ) (escrowId : String) : Option StatusMap :=
  (w.db.escrows.find? escrowId).bind fun r =>
    (w.db.orders.find? r.orderId).map fun o => ⟨r.escrowStatus, o.orderStatus⟩

/-- The deliveries `events`, in order, with sync calls of the escrow for transactions of the history between them. -/
inductive Merge (inst : ℕ) (escrowId : String) (hist : List EventType) :
    List OnChainEscrowEvent → List FlowOp → Prop
  | nil : Merge inst escrowId hist [] []
  | deliver (event : OnChainEscrowEvent) {events : List OnChainEscrowEvent} {ops : List FlowOp} :
      Merge inst escrowId hist events ops →
      Merge inst escrowId hist (event :: events) (.processEvent inst none event :: ops)
  | sync (dto : SyncEscrowDto) {events : List OnChainEscrowEvent} {ops : List FlowOp} :
      uuid dto.escrowId = escrowId → ActionOf hist dto.action → Merge inst escrowId hist events ops →
      Merge inst escrowId hist events (.syncTransaction dto :: ops)

/-- The row `r` and its order `o` while the events `rest` of a history are still to be delivered; `c` is the status of
the contract before them. -/
structure Following (hist : List EventType) (inst : ℕ) (c : EscrowStatus) (rest : List OnChainEscrowEvent)
    (w : World χ) (r : EscrowOnChain) (o : Order) : Prop where
  escrow : w.db.escrows.find? r.escrowId = some r
  order : w.db.orders.find? r.orderId = some o
  tracks : Tracks hist c (rest.map OnChainEscrowEvent.eventType) r.escrowStatus
  found : ∀ event ∈ rest, findEscrow w.db event = .ok (some r)
  nodup : (rest.map eventKey).Nodup
  unseen : ∀ event ∈ rest, eventKey event ∉ (w.listeners inst).processedEventIds

section Steps

variable {hist : List EventType} {inst : ℕ} {c : EscrowStatus} {event : OnChainEscrowEvent}
  {rest : List OnChainEscrowEvent} {w : World χ} {r : EscrowOnChain} {o : Order}

theorem Following.statuses (h : Following hist inst c rest w r o) :
    statusesOf w r.escrowId = some ⟨r.escrowStatus, o.orderStatus⟩ := by
  simp only [statusesOf, h.escrow, Option.bind_some, h.order, Option.map_some]

/-- The events left after one was remembered are still unseen. -/
theorem Following.unseen_remember (h : Following hist inst c (event :: rest) w r o) {db : Db} :
    ∀ ev ∈ rest, eventKey ev ∉ ((remember inst event { w with db := db }).listeners inst).processedEventIds := by
  intro ev hev hmem
  have hnodup := h.nodup
  rw [List.map_cons, List.nodup_cons] at hnodup
  simp only [remember, World.setListener, Function.update_self, List.mem_insert_iff] at hmem
  rcases hmem with hkey | hmem
  · exact hnodup.1 (hkey ▸ List.mem_map_of_mem hev)
  · exact h.unseen ev (List.mem_cons_of_mem _ hev) hmem

/-- **One delivery**: skipped when the row is ahead of the event, applied otherwise. -/
theorem Following.deliver (tw : TrustlessWork χ) (h : Following hist inst c (event :: rest) w r o) :
    ∃ r' o', Following hist inst (mapEventToStatuses event.eventType).escrowStatus rest
        ((flow tw).next w (.processEvent inst none event)) r' o' ∧
      r'.escrowId = r.escrowId ∧
      (isTerminalOrAlreadyProcessed r.escrowStatus event.eventType = true ∧ r' = r ∧ o' = o ∨
        isTerminalOrAlreadyProcessed r.escrowStatus event.eventType = false ∧
          (⟨r'.escrowStatus, o'.orderStatus⟩ : StatusMap) = mapEventToStatuses event.eventType) := by
  have hunseen := h.unseen event List.mem_cons_self
  have hfound := h.found event List.mem_cons_self
  have hnodup : (rest.map eventKey).Nodup := (List.nodup_cons.mp h.nodup).2
  have htracks := h.tracks.deliver
  have hrun := processEvent_run inst none event w
  rw [flow_next_event]
  rcases h.tracks.deliverable with hterm | hvalid
  · have hv : verdict inst event w = .skipped := by simp only [verdict, hunseen, hfound, hterm, if_true, if_false]
    rw [hv] at hrun
    rw [if_pos hterm] at htracks
    refine ⟨r, o, ?_, rfl, Or.inl ⟨hterm, rfl, rfl⟩⟩
    rw [hrun]
    exact ⟨h.escrow, h.order, htracks, fun ev hev => h.found ev (List.mem_cons_of_mem _ hev), hnodup,
      h.unseen_remember⟩
  · have hterm := not_terminal_of_valid hvalid
    rw [verdict_applicable.mpr ⟨hunseen, hfound, hvalid⟩] at hrun
    obtain ⟨db, hrun, hre⟩ := hrun
    rw [hterm, if_neg Bool.false_ne_true] at htracks
    have hr : Table.atKey r.escrowId (escrowData event) r = escrowData event r := Table.atKey_eq rfl
    refine ⟨escrowData event r, orderData event o, ?_, rfl, Or.inr ⟨hterm, rfl⟩⟩
    rw [hrun]
    refine ⟨?_, ?_, htracks, fun ev hev => ?_, hnodup, h.unseen_remember⟩
    · show db.escrows.find? r.escrowId = _
      rw [hre.find?_escrow, h.escrow, Option.map_some, hr]
    · show db.orders.find? r.orderId = _
      rw [hre.find?_order, h.order, Option.map_some, Table.atKey_eq (Table.key_of_find? h.order)]
    · show findEscrow db ev = _
      rw [findEscrow_rewritten hre (Table.atKey_column _ fun _ => rfl), h.found ev (List.mem_cons_of_mem _ hev)]
      simp only [Except.map, Option.map_some, hr]

/-- **One sync call** for a transaction of the history: the order stays, the row may run ahead. -/
theorem Following.sync (tw : TrustlessWork χ) (h : Following hist inst c rest w r o) {dto : SyncEscrowDto} (hid : uuid dto.escrowId = r.escrowId)
    (ha : ActionOf hist dto.action) : ∃ r', Following hist inst c rest ((flow tw).next w (.syncTransaction dto)) r' o ∧
      r'.escrowId = r.escrowId := by
  rw [flow_next_sync]
  rcases syncTransaction_cases tw dto w with ⟨ext, hw, -⟩ | ⟨e, result, db, hw, he, hvalid, -, -, hre⟩
  · refine ⟨r, ?_, rfl⟩
    rw [hw]
    exact ⟨h.escrow, h.order, h.tracks, h.found, h.nodup, h.unseen⟩
  · rw [hid] at he hre
    obtain rfl : r = e := Option.some.inj (h.escrow.symm.trans he)
    have hne : dto.action ≠ .initializeEscrow := by
      intro heq
      rw [heq] at ha
      exact ha
    have hr : Table.atKey r.escrowId (syncData dto result) r = syncData dto result r := Table.atKey_eq rfl
    have hids := syncData_ids dto result r
    refine ⟨syncData dto result r, ?_, hids.1⟩
    rw [hw]
    refine ⟨?_, ?_, ?_, fun ev hev => ?_, h.nodup, h.unseen⟩
    · show db.escrows.find? _ = _
      rw [hids.1, hre.find?_escrow, h.escrow, Option.map_some, hr]
    · show db.orders.find? _ = _
      rw [hids.2, hre.find?_order, h.order, Option.map_some, id]
    · rw [syncData_status]
      exact h.tracks.sync ha hvalid
    · show findEscrow db ev = _
      rw [findEscrow_rewritten hre (Table.atKey_column _ (syncData_contractId hne)), h.found ev hev]
      simp only [Except.map, Option.map_some, hr]

/-- A merge runs up to its last delivery. -/
theorem Following.merge (tw : TrustlessWork χ) {last : OnChainEscrowEvent} {k : String} {ops : List FlowOp} :
    ∀ {events : List OnChainEscrowEvent} {c : EscrowStatus} {w : World χ} {r : EscrowOnChain} {o : Order},
      Following hist inst c (events ++ [last]) w r o → r.escrowId = k → Merge inst k hist (events ++ [last]) ops →
      ∃ pre post c₁ r₁ o₁, ops = pre ++ .processEvent inst none last :: post ∧ Merge inst k hist [] post ∧
        Following hist inst c₁ [last] ((flow tw).run w pre) r₁ o₁ ∧ r₁.escrowId = k := by
  induction ops with
  | nil =>
    intro events c w r o _ _ hm
    cases events <;> cases hm
  | cons op ops ih =>
    intro events c w r o h hk hm
    cases events with
    | nil =>
      cases hm with
      | deliver _ hm => exact ⟨[], ops, c, r, o, rfl, hm, h, hk⟩
      | sync dto hid ha hm =>
        obtain ⟨r', h', hid'⟩ := h.sync tw (hid.trans hk.symm) ha
        obtain ⟨pre, post, c₁, r₁, o₁, rfl, hpost, hf, hk₁⟩ := @ih [] c _ r' o h' (hid'.trans hk) hm
        exact ⟨_ :: pre, post, c₁, r₁, o₁, rfl, hpost, hf, hk₁⟩
    | cons event events =>
      cases hm with
      | deliver _ hm =>
        obtain ⟨r', o', h', hid', -⟩ := h.deliver tw
        obtain ⟨pre, post, c₁, r₁, o₁, rfl, hpost, hf, hk₁⟩ := ih h' (hid'.trans hk) hm
        exact ⟨_ :: pre, post, c₁, r₁, o₁, rfl, hpost, hf, hk₁⟩
      | sync dto hid ha hm =>
        obtain ⟨r', h', hid'⟩ := h.sync tw (hid.trans hk.symm) ha
        obtain ⟨pre, post, c₁, r₁, o₁, rfl, hpost, hf, hk₁⟩ := @ih (event :: events) c _ r' o h' (hid'.trans hk) hm
        exact ⟨_ :: pre, post, c₁, r₁, o₁, rfl, hpost, hf, hk₁⟩

/-! ## Without sync calls -/

/-- The row shows the status of the contract, or is a deployed one whose creation is not delivered yet. -/
def InStep (c : EscrowStatus) (r : EscrowOnChain) (o : Order) : Prop :=
  r.escrowStatus = c ∨ c = .pending ∧ r.escrowStatus = .initialized ∧ o.orderStatus = .created

/-- In step, a delivery always leaves the pair of the event. -/
theorem Following.deliver_inStep (tw : TrustlessWork χ) (h : Following hist inst c (event :: rest) w r o)
    (hs : InStep c r o) :
    ∃ r' o', Following hist inst (mapEventToStatuses event.eventType).escrowStatus rest
        ((flow tw).next w (.processEvent inst none event)) r' o' ∧
      r'.escrowId = r.escrowId ∧ (⟨r'.escrowStatus, o'.orderStatus⟩ : StatusMap) = mapEventToStatuses event.eventType := by
  obtain ⟨r', o', h', hid, hcase⟩ := h.deliver tw
  refine ⟨r', o', h', hid, ?_⟩
  have hlegal : c ∈ validTransitions (.event event.eventType) := h.tracks.legal.1
  rcases hcase with ⟨hterm, rfl, rfl⟩ | ⟨-, hpair⟩
  · rcases hs with rfl | ⟨rfl, hr, ho⟩
    · rw [not_terminal_of_valid hlegal] at hterm
      cases hterm
    · rw [hr] at hterm ⊢
      rw [ho]
      revert hterm hlegal
      cases event.eventType <;> decide
  · exact hpair

/-- The deliveries by themselves leave the pair of the last event. -/
theorem Following.alone (tw : TrustlessWork χ) {last : OnChainEscrowEvent} :
    ∀ {events : List OnChainEscrowEvent} {c : EscrowStatus} {w : World χ} {r : EscrowOnChain} {o : Order},
      Following hist inst c (events ++ [last]) w r o → InStep c r o →
      statusesOf ((flow tw).run w ((events ++ [last]).map (.processEvent inst none))) r.escrowId =
        some (mapEventToStatuses last.eventType)
  | [], c, w, r, o, h, hs => by
    obtain ⟨r', o', h', hid, hpair⟩ := h.deliver_inStep tw hs
    have hst := h'.statuses
    rw [hpair, hid] at hst
    exact hst
  | event :: events, c, w, r, o, h, hs => by
    obtain ⟨r', o', h', hid, hpair⟩ := h.deliver_inStep tw hs
    have hrec : statusesOf ((flow tw).run ((flow tw).next w (.processEvent inst none event))
        ((events ++ [last]).map (.processEvent inst none))) r'.escrowId = some (mapEventToStatuses last.eventType) :=
      Following.alone tw h' (Or.inl (congrArg StatusMap.escrowStatus hpair))
    rw [hid] at hrec
    exact hrec

end Steps

/-! ## The two paths together -/

/-- A whole life of an escrow: its row before the history, the deliveries `events`, and a merge `ops` of them with sync
calls for the funding and the release of the history. -/
structure LifeRun (inst : ℕ) (w : World χ) (r : EscrowOnChain) (events : List OnChainEscrowEvent) (ops : List FlowOp) :
    Prop where
  escrow : w.db.escrows.find? r.escrowId = some r
  start : r.escrowStatus = .pending ∨ r.escrowStatus = .initialized
  order : ∀ o, w.db.orders.find? r.orderId = some o → o.orderStatus = .created
  history : Legal .pending (events.map OnChainEscrowEvent.eventType)
  found : ∀ event ∈ events, findEscrow w.db event = .ok (some r)
  nodup : (events.map eventKey).Nodup
  unseen : ∀ event ∈ events, eventKey event ∉ (w.listeners inst).processedEventIds
  merge : Merge inst r.escrowId (events.map OnChainEscrowEvent.eventType) events ops

theorem LifeRun.following {inst : ℕ} {w : World χ} {r : EscrowOnChain} {events : List OnChainEscrowEvent}
    {ops : List FlowOp} (h : LifeRun inst w r events ops) :
    ∃ o, Following (events.map OnChainEscrowEvent.eventType) inst .pending events w r o ∧ InStep .pending r o := by
  obtain ⟨o, ho⟩ := Table.has_iff.mp (w.db.refs.escrowOrder r (Table.find?_eq_some.mp h.escrow).1)
  refine ⟨o, ⟨h.escrow, ho, Tracks.start h.history h.start, h.found, h.nodup, h.unseen⟩, ?_⟩
  rcases h.start with hs | hs
  · exact Or.inl hs
  · exact Or.inr ⟨rfl, hs, h.order o ho⟩

def Trade.history : List OnChainEscrowEvent :=
  [Trade.event "1" .escrowCreated] ++ [Trade.event "2" .escrowFunded]

end IKash
