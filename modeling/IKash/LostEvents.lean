import IKash.Polling

/-!
# Events that fail

A poll goes on after an event whose processing throws, and after a lookup that loses the contracts of the database. What
the events of a page come to can be told from the state before the poll: an `Outlook` holds the keys remembered and the
status of every escrow, and each event decides by them whether it is ignored, skipped, applied or throws (`fate`).

- `handleRaws_foretold`: the page throws where the outlook says so;
- `missed_iff`: what a poll is going to miss;
- `nothing_lost`: no event is lost to a failure when each event that a poll leaves out of its request, or that is going
  to throw in it, is in the poll's latest ledger, or the poll asks for nothing, and its escrow stays known.
-/

namespace IKash

open Lib StellarListenerService

variable {χ : Type} {w : World χ}

/-! ## What a page comes to -/

/-- What becomes of an event. -/
inductive Fate where
  | ignored
  | skipped
  | throws
  | applied (escrow : EscrowOnChain)

def Fate.isThrows : Fate → Bool
  | .throws => true
  | _ => false

/-- The keys remembered, and the status that each row of the database has come to. -/
structure Outlook where
  remembered : List String
  status : EscrowOnChain → EscrowStatus

namespace Outlook

def ofWorld (inst : ℕ) (w : World χ) : Outlook :=
  ⟨(w.listeners inst).processedEventIds, EscrowOnChain.escrowStatus⟩

variable (db : Db) (o : Outlook) (fault : Option Thrown) (event : OnChainEscrowEvent)

def fate : Fate :=
  if eventKey event ∈ o.remembered then .ignored
  else match findEscrow db event with
    | .error _ => .throws
    | .ok none => .ignored
    | .ok (some e) =>
      if EscrowService.isTerminalOrAlreadyProcessed (o.status e) event.eventType then .skipped
      else if o.status e ∈ EscrowService.validTransitions (.event event.eventType) ∧ fault.isNone then .applied e
      else .throws

def after : Outlook :=
  match o.fate db fault event with
  | .ignored => o
  | .throws => o
  | .skipped => { o with remembered := o.remembered.insert (eventKey event) }
  | .applied e =>
    { remembered := o.remembered.insert (eventKey event)
      status r := if r.escrowId = e.escrowId then (mapEventToStatuses event.eventType).escrowStatus else o.status r }

/-- Whether a raw event of the page is going to throw. -/
def throwsAt (raw : Json) : Bool :=
  match StellarEventParserService.parseEvent raw with
  | none => false
  | some event => (o.fate db fault event).isThrows

def afterRaw (raw : Json) : Outlook :=
  match StellarEventParserService.parseEvent raw with
  | none => o
  | some event => o.after db fault event

/-- Which events of a page are going to throw; `faults i` hits the transaction of the `i`-th one. -/
def throwing : Outlook → (ℕ → Option Thrown) → List Json → List Bool
  | _, _, [] => []
  | o, faults, raw :: rest =>
    o.throwsAt db (faults 0) raw :: throwing (o.afterRaw db (faults 0) raw) (fun i => faults (i + 1)) rest

/-- The state has come from the database `db` to what the outlook says. -/
structure Foretells (db : Db) (inst : ℕ) (o : Outlook) (w : World χ) : Prop where
  remembered : (w.listeners inst).processedEventIds = o.remembered
  rows : ∃ f g, Rewritten f g db w.db ∧ (∀ e, (f e).contractId = e.contractId) ∧
    ∀ e, (f e).escrowStatus = o.status e

theorem foretells_ofWorld (inst : ℕ) (w : World χ) : (ofWorld inst w).Foretells w.db inst w :=
  ⟨rfl, id, id, Rewritten.refl _, fun _ => rfl, fun _ => rfl⟩

variable {db o fault event} {inst : ℕ}

theorem Foretells.remember (h : o.Foretells db inst w) :
    ({ o with remembered := o.remembered.insert (eventKey event) } : Outlook).Foretells db inst
      (StellarListenerService.remember inst event w) :=
  ⟨by simp [StellarListenerService.remember, World.setListener, h.remembered], h.rows⟩

theorem Foretells.advance (h : o.Foretells db inst w) (ledger : Option ℤ) :
    o.Foretells db inst (StellarListenerService.advance inst ledger w) := by
  unfold StellarListenerService.advance
  cases ledger with
  | none => exact h
  | some n =>
    dsimp only
    split_ifs
    · exact ⟨by simp [World.setListener, h.remembered], h.rows⟩
    · exact h

theorem escrowData_contractId (event : OnChainEscrowEvent) (e : EscrowOnChain) :
    (escrowData event e).contractId = e.contractId := rfl

/-- The transaction of an event moves the status of its escrow. -/
theorem Foretells.applied {f : EscrowOnChain → EscrowOnChain} {g : Order → Order} {e : EscrowOnChain} {db' : Db}
    (h : o.Foretells db inst w) (hre : Rewritten f g db w.db) (hcontract : ∀ e, (f e).contractId = e.contractId)
    (hstatus : ∀ e, (f e).escrowStatus = o.status e)
    (hnew : Rewritten (Table.atKey (f e).escrowId (escrowData event)) (Table.atKey (f e).orderId (orderData event))
      w.db db') :
    ({ remembered := o.remembered, status := fun r => if r.escrowId = e.escrowId then
        (mapEventToStatuses event.eventType).escrowStatus else o.status r } : Outlook).Foretells db inst
      { w with db := db' } := by
  refine ⟨h.remembered, _, _, hre.trans hnew, fun r => ?_, fun r => ?_⟩
  · exact (Table.atKey_column EscrowOnChain.contractId (escrowData_contractId event) (f r)).trans (hcontract r)
  · show (Table.atKey (f e).escrowId (escrowData event) (f r)).escrowStatus =
      if r.escrowId = e.escrowId then _ else o.status r
    rw [(hre.escrowIds e).1]
    by_cases hr : r.escrowId = e.escrowId
    · rw [Table.atKey_eq ((hre.escrowIds r).1.trans hr), if_pos hr]
      rfl
    · rw [Table.atKey_ne (fun hk => hr ((hre.escrowIds r).1.symm.trans hk)), if_neg hr]
      exact hstatus r

/-- Processing an event throws exactly if the outlook says so, and comes to the outlook after it. -/
theorem processEvent_foretold (h : o.Foretells db inst w) (fault : Option Thrown) (event : OnChainEscrowEvent) :
    ∃ r w', (processEvent inst fault event).run w = (r, w') ∧ (o.after db fault event).Foretells db inst w' ∧
      ((o.fate db fault event).isThrows = true ↔ ∃ t, r = .error t) := by
  obtain ⟨f, g, hre, hcontract, hstatus⟩ := h.rows
  have hfind := findEscrow_rewritten hre hcontract event
  have hrun := processEvent_run inst fault event w
  unfold verdict at hrun
  rw [h.remembered, hfind] at hrun
  unfold after fate
  by_cases hkey : eventKey event ∈ o.remembered
  · rw [if_pos hkey] at hrun ⊢
    exact ⟨_, _, hrun, h, by simp [Fate.isThrows]⟩
  · rw [if_neg hkey] at hrun ⊢
    rcases hfound : findEscrow db event with t | _ | e <;> rw [hfound] at hrun
    · exact ⟨_, _, hrun, h, by simp [Fate.isThrows]⟩
    · exact ⟨_, _, hrun, h, by simp [Fate.isThrows]⟩
    · -- the row is found with the status that the outlook has for it
      simp only [Except.map, Option.map, hstatus] at hrun
      dsimp only
      by_cases hterm : EscrowService.isTerminalOrAlreadyProcessed (o.status e) event.eventType = true
      · simp only [hterm, if_true] at hrun ⊢
        exact ⟨_, _, hrun, h.remember, by simp [Fate.isThrows]⟩
      · simp only [hterm, Bool.false_eq_true, if_false] at hrun ⊢
        by_cases hvalid : o.status e ∈ EscrowService.validTransitions (.event event.eventType)
        · have hok : EscrowService.validateStatusTransition (o.status e) (.event event.eventType) = .ok () :=
            EscrowService.validateStatusTransition_eq_ok.mpr hvalid
          rw [hok] at hrun
          cases fault with
          | some t =>
            rw [if_neg (by simp)]
            exact ⟨_, _, hrun, h, by simp [Fate.isThrows]⟩
          | none =>
            obtain ⟨db', hrun, hnew⟩ := hrun
            rw [if_pos ⟨hvalid, rfl⟩]
            exact ⟨_, _, hrun, (h.applied hre hcontract hstatus hnew).remember, by simp [Fate.isThrows]⟩
        · rw [if_neg fun hv => hvalid hv.1]
          cases hval : EscrowService.validateStatusTransition (o.status e) (.event event.eventType) with
          | ok u => exact absurd (EscrowService.validateStatusTransition_eq_ok.mp hval) hvalid
          | error t =>
            rw [hval] at hrun
            exact ⟨_, _, hrun, h, by simp [Fate.isThrows]⟩

end Outlook

def StellarListenerService.RawOutcome.isFailed : RawOutcome → Bool
  | .failed _ _ => true
  | _ => false

namespace Outlook

variable {db : Db} {inst : ℕ}

theorem handleRaw_foretold {o : Outlook} (h : o.Foretells db inst w) (fault : Option Thrown) (raw : Json) :
    ∃ outcome w', (handleRaw inst fault raw).run w = (.ok outcome, w') ∧
      outcome.isFailed = o.throwsAt db fault raw ∧ (o.afterRaw db fault raw).Foretells db inst w' := by
  unfold handleRaw throwsAt afterRaw
  cases StellarEventParserService.parseEvent raw with
  | none => exact ⟨.unrecognised, w, rfl, rfl, h⟩
  | some event =>
    obtain ⟨r, w₁, hprocess, hnext, hthrows⟩ := processEvent_foretold h fault event
    dsimp only
    rw [Svc.run_bind_ok (Svc.run_attempt _ _), hprocess]
    cases r with
    | error t => exact ⟨.failed event t, w₁, rfl, (hthrows.mpr ⟨t, rfl⟩).symm, hnext⟩
    | ok handled =>
      refine ⟨.processed event handled, _, rfl, ?_, hnext.advance event.ledgerSequence⟩
      exact (Bool.eq_false_iff.mpr fun hfate => by simpa using hthrows.mp hfate).symm

/-- **The page throws where the outlook says so.** -/
theorem handleRaws_foretold : ∀ (raws : List Json) (faults : ℕ → Option Thrown) {o : Outlook} {w : World χ},
    o.Foretells db inst w → ∃ outcomes w', (handleRaws inst faults raws).run w = (.ok outcomes, w') ∧
      outcomes.map RawOutcome.isFailed = o.throwing db faults raws ∧ ∃ o', Foretells db inst o' w'
  | [], _, o, w, h => ⟨[], w, rfl, rfl, o, h⟩
  | raw :: rest, faults, o, w, h => by
    obtain ⟨outcome, w₁, hfirst, hfailed, hnext⟩ := handleRaw_foretold h (faults 0) raw
    obtain ⟨outcomes, w', hrest, hfaileds, hafter⟩ := handleRaws_foretold rest (fun i => faults (i + 1)) hnext
    refine ⟨outcome :: outcomes, w', ?_, ?_, hafter⟩
    · unfold handleRaws
      rw [Svc.run_bind_ok hfirst, Svc.run_bind_ok hrest, Svc.run_pure]
    · rw [List.map_cons, hfailed, hfaileds]
      rfl

theorem queryEventsFromRpc_run (rpc : Rpc) (inst : ℕ) (contractIds : List String) (w : World χ) :
    ∃ page, (queryEventsFromRpc rpc inst contractIds).run w = (.ok page, w) := by
  unfold queryEventsFromRpc
  rw [Svc.run_bind_ok (Svc.run_get w)]
  dsimp only
  cases rpc.getEvents (if 0 < cursor inst w then some (cursor inst w) else none) contractIds 100 with
  | ok page => exact ⟨page, rfl⟩
  | error t => exact ⟨{}, rfl⟩

theorem fetch_foretold {rpc : Rpc} {configured : Option String} {faults : PollFaults} {r : PollReport} {w' : World χ}
    (h : (fetchAndProcessNewEvents rpc configured inst faults).run w = (.ok r, w')) :
    r.outcomes.map RawOutcome.isFailed = (ofWorld inst w).throwing w.db faults.transaction r.rawEvents ∧
      ∃ o, Foretells w.db inst o w' := by
  have hstart := foretells_ofWorld inst w
  unfold fetchAndProcessNewEvents at h
  rw [Svc.run_bind_ok (getTargetContractIds_run configured faults.lookup w)] at h
  split_ifs at h
  · cases h
    exact ⟨rfl, _, hstart⟩
  · obtain ⟨page, hquery⟩ := queryEventsFromRpc_run rpc inst (targetContracts configured faults.lookup w.db) w
    obtain ⟨outcomes, w₁, hraws, hfailed, o, hafter⟩ := handleRaws_foretold page.events faults.transaction hstart
    rw [Svc.run_bind_ok hquery, Svc.run_bind_ok hraws] at h
    cases h
    exact ⟨hfailed, o, hafter.advance page.latestLedger⟩

end Outlook

namespace ListenerSetup

/-! ## No event is lost to a failure -/

/-- A recognised event of a known escrow. -/
def Known (db : Db) (ev : ChainEvent) : Prop :=
  ∃ event e, StellarEventParserService.parseEvent ev.raw = some event ∧ findEscrow db event = .ok (some e)

/-- The poll gave the event to `processEvent`, which returned. -/
def Served (r : PollReport) (ev : ChainEvent) : Prop :=
  ∃ event handled, (ev.raw, .processed event handled) ∈ r.rawEvents.zip r.outcomes

/-- The poll gave the event to `processEvent`, which threw. -/
def Threw (r : PollReport) (ev : ChainEvent) : Prop :=
  ∃ event error, (ev.raw, .failed event error) ∈ r.rawEvents.zip r.outcomes

variable (S : ListenerSetup)

/-- The page of the poll holds all it asks for. -/
def FullPage (w : World χ) : ListenerOp → Prop
  | .poll p => (S.requested p w).length < 100
  | .write _ => True

instance (w : World χ) : ∀ op, Decidable (S.FullPage w op)
  | .poll p => Nat.decLt (S.requested p w).length 100
  | .write _ => isTrue trivial

/-- The poll left the contract of an event of a known escrow out of its request, or its processing threw. -/
def Missed (p : Poll) (w : World χ) (ev : ChainEvent) : Prop :=
  Known w.db ev ∧ S.cursor w ≤ ev.ledger ∧
    ∃ r w', (S.fetch p).run w = (.ok r, w') ∧ (ev.contractId ∉ r.targetContracts ∨ Threw r ev)

/-- The cursor is not past the event, and a poll that sees it and asks for its contract is given it. -/
def Requestable (w : World χ) (ev : ChainEvent) : Prop :=
  S.cursor w ≤ ev.ledger ∧ ∀ p, S.FullPage w (.poll p) → ev.ledger ≤ p.latest →
    ∀ r w', (S.fetch p).run w = (.ok r, w') → ev.contractId ∈ r.targetContracts → ev.raw ∈ r.rawEvents

/-- Once a poll has missed an event, the event stays requestable until its processing has returned in a later poll. -/
def NothingLost (w : World χ) (ops : List ListenerOp) : Prop :=
  ∀ pre p mid post, ops = pre ++ .poll p :: mid ++ post → ∀ ev ∈ S.chain.items,
    S.Missed p (S.listener.run w pre) ev → S.Requestable (S.listener.run w (pre ++ .poll p :: mid)) ev ∨
      ∃ mid₁ q mid₂ r w', mid = mid₁ ++ .poll q :: mid₂ ∧
        (S.fetch q).run (S.listener.run w (pre ++ .poll p :: mid₁)) = (.ok r, w') ∧ Served r ev

/-- What the RPC gives to a poll. -/
def page (p : Poll) (w : World χ) : List Json := ((S.requested p w).take 100).map ChainEvent.raw

/-- The poll is going to leave the contract of an event of a known escrow out, or the event is going to throw. -/
def Endangered (p : Poll) (w : World χ) (ev : ChainEvent) : Prop :=
  Known w.db ev ∧ S.cursor w ≤ ev.ledger ∧
    (ev.contractId ∉ targetContracts S.configuredContractId p.faults.lookup w.db ∨
      (ev.raw, true) ∈ (S.page p w).zip ((Outlook.ofWorld S.inst w).throwing w.db p.faults.transaction (S.page p w)))

/-- The events that the poll is going to miss are in its latest ledger, or it asks for nothing. -/
def PollSpares (w : World χ) : ListenerOp → Prop
  | .poll p => ∀ ev ∈ S.chain.items, S.Endangered p w ev →
      p.latest ≤ ev.ledger ∨ targetContracts S.configuredContractId p.faults.lookup w.db = []
  | .write _ => True

/-- Besides, the escrow of an event that the cursor has not passed stays known. -/
def Spares (w : World χ) : ListenerOp → Prop
  | .poll p => S.PollSpares w (.poll p)
  | .write db => ∀ ev ∈ S.chain.items, S.cursor w ≤ ev.ledger → Known w.db ev → Known db ev

variable {S} {p : Poll} {r : PollReport} {w' : World χ} {ev : ChainEvent}

theorem Known.of_foretells {o : Outlook} {db : Db} {inst : ℕ} (h : o.Foretells db inst w) (hknown : Known db ev) :
    Known w.db ev := by
  obtain ⟨event, e, hparse, hfind⟩ := hknown
  obtain ⟨f, g, hre, hcontract, -⟩ := h.rows
  exact ⟨event, f e, hparse, by rw [findEscrow_rewritten hre hcontract, hfind]; rfl⟩

/-- A poll forgets no escrow. -/
theorem Known.next (hknown : Known w.db ev) (p : Poll) : Known (S.listener.next w (.poll p)).db ev := by
  obtain ⟨r, w', h⟩ := S.fetch_run p w
  obtain ⟨o, hafter⟩ := (Outlook.fetch_foretold h.run).2
  rw [h.next]
  exact hknown.of_foretells hafter

theorem Polled.rawEvents_eq (h : S.Polled p w r w') : r.rawEvents = S.page p w := by
  by_cases htargets : r.targetContracts = []
  · have hidle := h.targets.symm.trans htargets
    have hrun := h.run
    unfold fetch fetchAndProcessNewEvents at hrun
    rw [Svc.run_bind_ok (getTargetContractIds_run S.configuredContractId p.faults.lookup w), hidle, if_pos rfl] at hrun
    cases hrun
    have hnone : S.requested p w = [] := by
      rw [requested, hidle]
      exact List.filter_eq_nil_iff.mpr fun ev _ => by simp [ofContracts]
    simp [ListenerSetup.page, hnone]
  · exact h.page htargets

theorem mem_zip_map {α β γ : Type} (f : β → γ) {xs : List α} {ys : List β} {x : α} {z : γ} :
    (x, z) ∈ xs.zip (ys.map f) ↔ ∃ y, (x, y) ∈ xs.zip ys ∧ f y = z := by
  rw [List.zip_map_right, List.mem_map]
  constructor
  · rintro ⟨⟨x', y⟩, hmem, he⟩
    cases he
    exact ⟨y, hmem, rfl⟩
  · rintro ⟨y, hmem, rfl⟩
    exact ⟨(x, y), hmem, rfl⟩

theorem threw_iff : Threw r ev ↔ (ev.raw, true) ∈ r.rawEvents.zip (r.outcomes.map RawOutcome.isFailed) := by
  rw [mem_zip_map]
  constructor
  · rintro ⟨event, error, hmem⟩
    exact ⟨_, hmem, rfl⟩
  · rintro ⟨outcome, hmem, hfailed⟩
    cases outcome with
    | failed event error => exact ⟨event, error, hmem⟩
    | unrecognised => cases hfailed
    | processed event handled => cases hfailed

/-- **What a poll misses** can be told before it. -/
theorem missed_iff : S.Missed p w ev ↔ S.Endangered p w ev := by
  obtain ⟨r, w', h⟩ := S.fetch_run p w
  have hthrew : Threw r ev ↔ _ := threw_iff
  rw [(Outlook.fetch_foretold h.run).1, h.rawEvents_eq] at hthrew
  unfold Missed Endangered
  rw [← hthrew, ← h.targets]
  constructor
  · rintro ⟨hknown, hcursor, r', w'', hrun, hmissed⟩
    cases h.run.symm.trans hrun
    exact ⟨hknown, hcursor, hmissed⟩
  · rintro ⟨hknown, hcursor, hmissed⟩
    exact ⟨hknown, hcursor, r, w', h.run, hmissed⟩

theorem requestable_iff (hev : ev ∈ S.chain.items) : S.Requestable w ev ↔ S.cursor w ≤ ev.ledger := by
  refine ⟨And.left, fun hcursor => ⟨hcursor, fun p hfull hseen r w' hrun htarget => ?_⟩⟩
  obtain ⟨r', w'', h⟩ := S.fetch_run p w
  cases h.run.symm.trans hrun
  rw [h.page (List.ne_nil_of_mem htarget), List.take_of_length_le (le_of_lt hfull)]
  exact List.mem_map_of_mem (mem_requested hev hcursor hseen (h.targets ▸ htarget))

theorem exists_mem_zip {α β : Type} {R : α → β → Prop} : ∀ {xs : List α} {ys : List β},
    List.Forall₂ R xs ys → ∀ x ∈ xs, ∃ y, (x, y) ∈ xs.zip ys ∧ R x y
  | _ :: _, _ :: _, .cons hxy hrest, x, hx => by
    rcases List.mem_cons.mp hx with rfl | hx
    · exact ⟨_, List.mem_cons_self, hxy⟩
    · obtain ⟨y, hy, hR⟩ := exists_mem_zip hrest x hx
      exact ⟨y, List.mem_cons_of_mem _ hy, hR⟩

/-- A poll whose page is full serves an event of a known escrow, or misses it. -/
theorem served_or_missed (hev : ev ∈ S.chain.items) (h : S.Polled p w r w') (hfull : S.FullPage w (.poll p))
    (hknown : Known w.db ev) (hcursor : S.cursor w ≤ ev.ledger) (hseen : ev.ledger ≤ p.latest) :
    Served r ev ∨ S.Missed p w ev := by
  by_cases htarget : ev.contractId ∈ r.targetContracts
  · have hpage := ((requestable_iff hev).mpr hcursor).2 p hfull hseen r w' h.run htarget
    obtain ⟨outcome, hzip, hof⟩ := exists_mem_zip h.outcomes ev.raw hpage
    obtain ⟨event, e, hparse, hfind⟩ := hknown
    cases hof with
    | unrecognised hnone => rw [hparse] at hnone; cases hnone
    | processed handled _ => exact Or.inl ⟨_, _, hzip⟩
    | failed error _ => exact Or.inr ⟨⟨event, e, hparse, hfind⟩, hcursor, r, w', h.run, Or.inr ⟨_, _, hzip⟩⟩
  · exact Or.inr ⟨hknown, hcursor, r, w', h.run, Or.inl htarget⟩

/-- A poll that spares what it misses leaves the cursor at or below it. -/
theorem missed_kept (hev : ev ∈ S.chain.items) (hspare : S.PollSpares w (.poll p)) (hmissed : S.Missed p w ev) :
    S.cursor (S.listener.next w (.poll p)) ≤ ev.ledger := by
  obtain ⟨r, w', h⟩ := S.fetch_run p w
  have hcursor := hmissed.2.1
  rw [h.next]
  rcases hspare ev hev (missed_iff.mp hmissed) with hlatest | hidle
  · have hbound := h.bounded
    omega
  · rwa [h.idle (h.targets.trans hidle)]

/-- One poll leaves the cursor at or below an event of a known escrow, or serves it. -/
theorem kept_or_served (hev : ev ∈ S.chain.items) (hfull : S.FullPage w (.poll p)) (hspare : S.PollSpares w (.poll p))
    (hknown : Known w.db ev) (hcursor : S.cursor w ≤ ev.ledger) :
    S.cursor (S.listener.next w (.poll p)) ≤ ev.ledger ∨
      ∃ r w', (S.fetch p).run w = (.ok r, w') ∧ Served r ev := by
  obtain ⟨r, w', h⟩ := S.fetch_run p w
  rcases lt_or_ge p.latest ev.ledger with hunseen | hseen
  · have hbound := h.bounded
    rw [h.next]
    exact Or.inl (by omega)
  · rcases served_or_missed hev h hfull hknown hcursor hseen with hserved | hmissed
    · exact Or.inr ⟨r, w', h.run, hserved⟩
    · exact Or.inl (missed_kept hev hspare hmissed)

/-- **No event is lost** to a failure in a run whose steps spare what the polls are going to miss; and polls that do
not, lose one. -/
theorem nothing_lost (S : ListenerSetup) (w : World χ) (ops : List ListenerOp)
    (hfull : S.listener.Along S.FullPage w ops) :
    (S.listener.Along S.Spares w ops → S.NothingLost w ops) ∧
      (S.NothingLost w ops → S.listener.Along S.PollSpares w ops) := by
  constructor
  · rintro hspare pre p mid post rfl ev hev hmissed
    have hboth := hfull.and hspare
    rw [List.append_assoc, Machine.along_append, List.cons_append, Machine.along_cons, Machine.along_append] at hboth
    obtain ⟨-, ⟨-, hspare⟩, hmid, -⟩ := hboth
    have hkept := missed_kept hev hspare hmissed
    have hknown := hmissed.1.next (S := S) p
    rw [requestable_iff hev, Machine.run_append, Machine.run_cons]
    by_contra! hlost
    -- the first step of `mid` after which the event is passed or its escrow unknown is a poll that serves it
    have hstep : ∀ (w : World χ) op, (S.FullPage w op ∧ S.Spares w op) →
        (ev.ledger < S.cursor (S.listener.next w op) ∨ ¬ Known (S.listener.next w op).db ev) →
          (ev.ledger < S.cursor w ∨ ¬ Known w.db ev) ∨
            ∃ q r w', op = .poll q ∧ (S.fetch q).run w = (.ok r, w') ∧ Served r ev := by
      rintro w op ⟨hfull, hspare⟩ hgone
      by_contra! hbefore
      obtain ⟨⟨hcursor, hknown⟩, hunserved⟩ := hbefore
      cases op with
      | write db =>
        rcases hgone with hpassed | hforgotten
        · exact absurd hpassed (not_lt.mpr hcursor)
        · exact hforgotten (hspare ev hev hcursor hknown)
      | poll q =>
        rcases hgone with hpassed | hforgotten
        · rcases kept_or_served hev hfull hspare hknown hcursor with hkept | ⟨r, w', hrun, hserved⟩
          · exact absurd hpassed (not_lt.mpr hkept)
          · exact hunserved q r w' rfl hrun hserved
        · exact hforgotten (hknown.next q)
    rcases Machine.run_origin (P := fun w => ev.ledger < S.cursor w ∨ ¬ Known w.db ev) hstep hmid (Or.inl hlost.1) with
      hbefore | ⟨mid₁, op, mid₂, he, q, r, w', rfl, hrun, hserved⟩
    · exact hbefore.elim (not_lt.mpr hkept) (not_not_intro hknown)
    · refine hlost.2 mid₁ q mid₂ r w' he ?_ hserved
      rwa [Machine.run_append, Machine.run_cons]
  · intro hkept
    rw [Machine.along_iff]
    intro pre op post he
    cases op with
    | write db => trivial
    | poll p =>
      intro ev hev hendangered
      rcases hkept pre p [] post (by rw [he, List.append_assoc]; rfl) ev hev (missed_iff.mpr hendangered) with
        hrequestable | ⟨mid₁, _, _, _, _, hmid, -⟩
      · obtain ⟨r, w', h⟩ := S.fetch_run p (S.listener.run w pre)
        have hcursor := hrequestable.1
        rw [Machine.run_append, Machine.run_cons, Machine.run_nil, h.next] at hcursor
        by_cases hidle : r.targetContracts = []
        · exact Or.inr (h.targets.symm.trans hidle)
        · have hpos := ev.positive
          have hreaches := h.reaches hidle
          exact Or.inl (by omega)
      · simp at hmid

end ListenerSetup

/-- A poll during which the database takes no transaction. -/
def Trade.failingPoll (latest : ℤ) : Poll := ⟨latest, { transaction := fun _ => some (.prisma .unavailable) }⟩

/-- The transaction of the funding fails when the chain is one ledger further: the cursor moves past the event. -/
theorem failed_event_lost :
    ¬ Trade.fundingSetup.NothingLost (Trade.world .created .initialized ()) [.poll (Trade.failingPoll 2)] := by
  intro h
  have hmissed : Trade.fundingSetup.Missed (Trade.failingPoll 2) (Trade.world .created .initialized ()) Trade.funding :=
    ⟨⟨_, _, rfl, rfl⟩, by decide, _, _, rfl, Or.inr ⟨_, _, List.mem_cons_self⟩⟩
  rcases h [] _ [] [] rfl Trade.funding List.mem_cons_self hmissed with ⟨hcursor, -⟩ | ⟨mid, q, mid', _, _, he, -⟩
  · revert hcursor
    decide
  · simp at he

/-- The same failure while the event is in the latest ledger: after a change of the order the next poll commits it. -/
theorem trade_nothing_lost :
    Trade.fundingSetup.NothingLost (Trade.world .created .initialized ())
      [.poll (Trade.failingPoll 1), .write (Trade.db .locked .initialized), .poll { latest := 5 }] := by
  refine (ListenerSetup.nothing_lost _ _ _ (by decide)).1 ⟨?_, ?_, ?_, trivial⟩
  · intro ev hev _
    obtain rfl := List.mem_singleton.mp hev
    exact Or.inl (by decide)
  · intro ev hev _ _
    obtain rfl := List.mem_singleton.mp hev
    exact ⟨_, _, rfl, rfl⟩
  · rintro ev hev ⟨-, -, hout | hthrows⟩
    · obtain rfl := List.mem_singleton.mp hev
      exact absurd hout (by decide)
    · -- the page is the funding alone, and the database takes its transaction
      have hreturns : (ev.raw, true) ∈ [(Trade.funding.raw, false)] := hthrows
      simp at hreturns

end IKash
