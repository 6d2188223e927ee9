import IKash.Lib.Feed
import IKash.Lib.Machine
import IKash.Listener

/-!
# Polling the chain

Runs of `fetchAndProcessNewEvents` against a chain. The chain is the history of its events in ledger order; a poll sees
the ledgers up to its latest one, and asks for the events of its target contracts from the cursor on, at most a
hundred. Between polls the database changes as others write it.

- `fetch_run`: what one poll asks for, passes to the parser, and does to the cursor;
- `events_delivered`: no event is skipped as long as no poll has more than a page of events below its latest ledger.
-/

namespace IKash

open Lib StellarListenerService

/-- An event of a contract, as the chain holds it and as the RPC returns it. -/
structure ChainEvent where
  ledger : ℤ
  contractId : String
  raw : Json
  positive : 0 < ledger
  ledgerField : StellarEventParserService.ledgerOf raw = some ledger

/-- The events of all ledgers, in chain order. -/
abbrev Chain := Feed ChainEvent ChainEvent.ledger

def ofContracts (contractIds : List String) (ev : ChainEvent) : Bool := ev.contractId ∈ contractIds

/-- The RPC when `latest` is the last closed ledger. -/
def Chain.rpc (chain : Chain) (latest : ℤ) : Rpc where
  getEvents start contractIds limit := .ok {
    events := (chain.page (start.getD 0) latest (ofContracts contractIds) limit).map ChainEvent.raw
    latestLedger := some latest }

variable {χ : Type} {w : World χ}

/-! ## One event of the page -/

namespace StellarListenerService

variable {inst : ℕ}

theorem processEvent_cursor (inst : ℕ) (fault : Option Thrown) (event : OnChainEscrowEvent) (w : World χ) :
    cursor inst ((processEvent inst fault event).run w).2 = cursor inst w := by
  have hrun := processEvent_run inst fault event w
  cases hv : verdict inst event w with
  | ignored => rw [hv] at hrun; rw [hrun]
  | skipped => rw [hv] at hrun; rw [hrun]; simp [cursor, remember, World.setListener]
  | throws t => rw [hv] at hrun; rw [hrun]
  | applicable e =>
    rw [hv] at hrun
    cases fault with
    | some t =>
      have hrun : (processEvent inst (some t) event).run w = (.error t, w) := hrun
      rw [hrun]
    | none =>
      obtain ⟨db, hrun, -⟩ := hrun
      rw [hrun]
      simp [cursor, remember, World.setListener]

theorem advance_cursor (inst : ℕ) (ledger : Option ℤ) (w : World χ) :
    cursor inst (advance inst ledger w) = cursor inst w ∨
      ∃ n, ledger = some n ∧ cursor inst w < n ∧ cursor inst (advance inst ledger w) = n := by
  unfold advance
  cases ledger with
  | none => exact Or.inl rfl
  | some n =>
    dsimp only
    split_ifs with h
    · exact Or.inr ⟨n, rfl, h.2, by simp [cursor, World.setListener]⟩
    · exact Or.inl rfl

/-- What the loop can make of a raw event. -/
inductive RawOutcome.Of (raw : Json) : RawOutcome → Prop where
  | unrecognised : StellarEventParserService.parseEvent raw = none → Of raw .unrecognised
  | processed {event : OnChainEscrowEvent} (handled : Bool) :
      StellarEventParserService.parseEvent raw = some event → Of raw (.processed event handled)
  | failed {event : OnChainEscrowEvent} (error : Thrown) :
      StellarEventParserService.parseEvent raw = some event → Of raw (.failed event error)

theorem handleRaw_run (inst : ℕ) (fault : Option Thrown) (raw : Json) (w : World χ) : ∃ outcome w',
    (handleRaw inst fault raw).run w = (.ok outcome, w') ∧ RawOutcome.Of raw outcome ∧
      (cursor inst w' = cursor inst w ∨
        StellarEventParserService.ledgerOf raw = some (cursor inst w') ∧ cursor inst w < cursor inst w') := by
  unfold handleRaw
  cases hp : StellarEventParserService.parseEvent raw with
  | none => exact ⟨_, w, rfl, .unrecognised hp, Or.inl rfl⟩
  | some parsed =>
    have hcursor := processEvent_cursor inst fault parsed w
    dsimp only
    rw [Svc.run_bind_ok (Svc.run_attempt _ _)]
    rcases hrun : (processEvent inst fault parsed).run w with ⟨r, w₁⟩
    rw [hrun] at hcursor
    cases r with
    | error t => exact ⟨_, w₁, rfl, .failed t hp, Or.inl hcursor⟩
    | ok handled =>
      refine ⟨_, advance inst parsed.ledgerSequence w₁, rfl, .processed handled hp, ?_⟩
      rw [← (StellarEventParserService.parseEvent_eq_some hp).2.1, ← hcursor]
      rcases advance_cursor inst parsed.ledgerSequence w₁ with h | ⟨n, hn, hlt, h⟩
      · exact Or.inl h
      · exact Or.inr ⟨by rw [h, hn], by rw [h]; exact hlt⟩

theorem handleRaws_run (inst : ℕ) : ∀ (raws : List Json) (faults : ℕ → Option Thrown) (w : World χ), ∃ outcomes w',
    (handleRaws inst faults raws).run w = (.ok outcomes, w') ∧ List.Forall₂ RawOutcome.Of raws outcomes ∧
      cursor inst w ≤ cursor inst w' ∧ (cursor inst w' = cursor inst w ∨
        ∃ raw ∈ raws, StellarEventParserService.ledgerOf raw = some (cursor inst w'))
  | [], _, w => ⟨[], w, rfl, .nil, le_refl _, Or.inl rfl⟩
  | raw :: rest, faults, w => by
    obtain ⟨outcome, w₁, h₁, hof, hc₁⟩ := handleRaw_run inst (faults 0) raw w
    obtain ⟨outcomes, w₂, h₂, hofs, hle, hc₂⟩ := handleRaws_run inst rest (fun i => faults (i + 1)) w₁
    have hle₁ : cursor inst w ≤ cursor inst w₁ := by
      rcases hc₁ with h | ⟨-, h⟩ <;> omega
    refine ⟨outcome :: outcomes, w₂, ?_, .cons hof hofs, hle₁.trans hle, ?_⟩
    · unfold handleRaws
      rw [Svc.run_bind_ok h₁, Svc.run_bind_ok h₂, Svc.run_pure]
    · rcases hc₂ with h | ⟨x, hx, h⟩
      · rcases hc₁ with h' | ⟨h', -⟩
        · exact Or.inl (h.trans h')
        · exact Or.inr ⟨raw, List.mem_cons_self, by rw [h, h']⟩
      · exact Or.inr ⟨x, List.mem_cons_of_mem _ hx, h⟩

/-! ## One poll -/

/-- The contracts that a poll asks for. -/
def targetContracts (configured : Option String) (lookup : Option Thrown) (db : Db) : List String :=
  match lookup with
  | some _ => (configured.filter (· ≠ "")).toList
  | none => ((configured.filter (· ≠ "")).toList ++ activeContracts db).eraseDups

theorem getTargetContractIds_run (configured : Option String) (lookup : Option Thrown) (w : World χ) :
    (getTargetContractIds configured lookup).run w = (.ok (targetContracts configured lookup w.db), w) := by
  unfold getTargetContractIds targetContracts
  rw [Svc.run_bind_ok (Svc.run_get w)]
  cases lookup <;> rfl

end StellarListenerService

/-- One listener instance and the chain it follows. -/
structure ListenerSetup where
  chain : Chain
  configuredContractId : Option String
  inst : ℕ

/-- The last closed ledger at a poll, and the faults that hit the poll. -/
structure Poll where
  latest : ℤ
  faults : PollFaults := {}

namespace ListenerSetup

variable (S : ListenerSetup)

def fetch (p : Poll) : Service χ PollReport :=
  fetchAndProcessNewEvents (S.chain.rpc p.latest) S.configuredContractId S.inst p.faults

def cursor (w : World χ) : ℤ := StellarListenerService.cursor S.inst w

def startLedger (w : World χ) : ℤ := if 0 < S.cursor w then S.cursor w else 0

/-- The events that a poll asks for. -/
def requested (p : Poll) (w : World χ) : List ChainEvent := S.chain.requested (S.startLedger w) p.latest
  (ofContracts (targetContracts S.configuredContractId p.faults.lookup w.db))

/-- What a poll asked for, gave to the parser, made of it, and did to the cursor. -/
structure Polled (p : Poll) (w : World χ) (r : PollReport) (w' : World χ) : Prop where
  run : (S.fetch p).run w = (.ok r, w')
  targets : r.targetContracts = targetContracts S.configuredContractId p.faults.lookup w.db
  idle : r.targetContracts = [] → w' = w
  page : r.targetContracts ≠ [] → r.rawEvents = ((S.requested p w).take 100).map ChainEvent.raw
  outcomes : List.Forall₂ RawOutcome.Of r.rawEvents r.outcomes
  mono : S.cursor w ≤ S.cursor w'
  bounded : S.cursor w' ≤ max (S.cursor w) p.latest
  reaches : r.targetContracts ≠ [] → 0 < p.latest → p.latest ≤ S.cursor w'

theorem fetch_run (p : Poll) (w : World χ) : ∃ r w', S.Polled p w r w' := by
  have htargets := getTargetContractIds_run S.configuredContractId p.faults.lookup w
  rcases hT : targetContracts S.configuredContractId p.faults.lookup w.db with _ | ⟨c, cs⟩
  · rw [hT] at htargets
    refine ⟨⟨[], [], []⟩, w, ?_, hT.symm, fun _ => rfl, fun h => absurd rfl h, .nil, le_refl _, le_max_left _ _,
      fun h => absurd rfl h⟩
    unfold fetch fetchAndProcessNewEvents
    rw [Svc.run_bind_ok htargets]
    rfl
  · rw [hT] at htargets
    set page := (S.requested p w).take 100 with hpage
    obtain ⟨outcomes, w₁, hraws, hof, hle, hc⟩ :=
      handleRaws_run S.inst (page.map ChainEvent.raw) p.faults.transaction w
    have hquery : (queryEventsFromRpc (S.chain.rpc p.latest) S.inst (c :: cs)).run w =
        (.ok ⟨page.map ChainEvent.raw, some p.latest⟩, w) := by
      have hstart : (if 0 < S.cursor w then some (S.cursor w) else none).getD 0 = S.startLedger w := by
        unfold startLedger
        split_ifs <;> rfl
      rw [hpage, requested, hT, ← hstart]
      rfl
    have hbound : S.cursor w₁ ≤ max (S.cursor w) p.latest := by
      rcases hc with hc | ⟨raw, hraw, hledger⟩
      · exact (hc.le.trans (le_max_left _ _))
      · obtain ⟨ev, hev, rfl⟩ := List.mem_map.mp hraw
        have hvisible := (Feed.mem_requested.mp (List.mem_of_mem_take hev)).2.2.1
        rw [ev.ledgerField, Option.some.injEq] at hledger
        exact (hledger ▸ hvisible).trans (le_max_right _ _)
    have hadvance := advance_cursor S.inst (some p.latest) w₁
    refine ⟨⟨c :: cs, page.map ChainEvent.raw, outcomes⟩, advance S.inst (some p.latest) w₁, ?_, hT.symm,
      fun h => (List.cons_ne_nil _ _ h).elim, fun _ => rfl, hof, ?_, ?_, ?_⟩
    · unfold fetch fetchAndProcessNewEvents
      rw [Svc.run_bind_ok htargets, if_neg (List.cons_ne_nil _ _), Svc.run_bind_ok hquery, Svc.run_bind_ok hraws]
      rfl
    · show S.cursor w ≤ S.cursor (advance S.inst (some p.latest) w₁)
      rcases hadvance with h | ⟨n, -, hlt, h⟩ <;> simp only [cursor] at * <;> omega
    · show S.cursor (advance S.inst (some p.latest) w₁) ≤ _
      rcases hadvance with h | ⟨n, hn, -, h⟩
      · exact h.trans_le hbound
      · rw [cursor, h, ← Option.some.inj hn]
        exact le_max_right _ _
    · intro _ hpos
      show p.latest ≤ S.cursor (advance S.inst (some p.latest) w₁)
      unfold advance
      dsimp only
      split_ifs with h
      · simp [cursor, StellarListenerService.cursor, World.setListener]
      · simp only [cursor] at *
        omega

/-! ## Runs of polls -/

end ListenerSetup

/-- A poll, or whatever others have made of the database before the next one. -/
inductive ListenerOp where
  | poll (p : Poll)
  | write (db : Db)

namespace ListenerSetup

variable (S : ListenerSetup)

def listener : Machine (World χ) ListenerOp (Except Thrown PollReport) where
  step w op := match op with
    | .poll p => (S.fetch p).run w
    | .write db => (.ok ⟨[], [], []⟩, { w with db := db })

variable {S} {p : Poll} {r : PollReport} {w' : World χ} {ev : ChainEvent}

theorem Polled.next (h : S.Polled p w r w') : S.listener.next w (.poll p) = w' := by
  show ((S.fetch p).run w).2 = w'
  rw [h.run]

/-- An event that the cursor has not passed and that a poll sees and asks for is requested. -/
theorem mem_requested (hev : ev ∈ S.chain.items) (hcursor : S.cursor w ≤ ev.ledger) (hseen : ev.ledger ≤ p.latest)
    (htarget : ev.contractId ∈ targetContracts S.configuredContractId p.faults.lookup w.db) :
    ev ∈ S.requested p w := by
  refine Feed.mem_requested.mpr ⟨hev, ?_, hseen, decide_eq_true htarget⟩
  unfold startLedger
  split_ifs
  · exact hcursor
  · exact ev.positive.le

/-! ## No event is skipped -/

variable (S) in
/-- At most a page of the events that the poll asks for are below its latest ledger. -/
def Uncrowded (w : World χ) : ListenerOp → Prop
  | .poll p => ((S.requested p w).filter fun ev => ev.ledger < p.latest).length ≤ 100
  | .write _ => True

instance (w : World χ) (op : ListenerOp) : Decidable (S.Uncrowded w op) := by
  cases op <;> unfold Uncrowded <;> infer_instance

variable (S) in
/-- Every event that the cursor has passed was given to the parser by the poll that moved the cursor past it, when
that poll asked for its contract. -/
def Delivered (w : World χ) (ops : List ListenerOp) : Prop :=
  ∀ ev ∈ S.chain.items, S.cursor w ≤ ev.ledger → ev.ledger < S.cursor (S.listener.run w ops) →
    ∃ pre p post r w', ops = pre ++ .poll p :: post ∧ (S.fetch p).run (S.listener.run w pre) = (.ok r, w') ∧
      S.cursor (S.listener.run w pre) ≤ ev.ledger ∧ ev.ledger < S.cursor w' ∧
      (ev.contractId ∈ r.targetContracts → ev.raw ∈ r.rawEvents)

/-- One poll gives the parser every event of its contracts that it moves the cursor past. -/
theorem delivers (hev : ev ∈ S.chain.items) (h : S.Polled p w r w') (hcrowd : S.Uncrowded w (.poll p))
    (hcursor : S.cursor w ≤ ev.ledger) (hpassed : ev.ledger < S.cursor w') (htarget : ev.contractId ∈ r.targetContracts) :
    ev.raw ∈ r.rawEvents := by
  have hlatest : ev.ledger < p.latest := by
    have := h.bounded
    omega
  have hreq : ev ∈ S.requested p w := mem_requested hev hcursor hlatest.le (h.targets ▸ htarget)
  rw [h.page (List.ne_nil_of_mem htarget)]
  exact List.mem_map_of_mem (Feed.mem_page hcrowd hreq hlatest)

/-- **No event is skipped** in a run whose polls are not crowded. -/
theorem events_delivered (S : ListenerSetup) (w : World χ) (ops : List ListenerOp)
    (h : S.listener.Along S.Uncrowded w ops) : S.Delivered w ops := by
  intro ev hev hstart hpassed
  have hstep : ∀ (w : World χ) op, S.Uncrowded w op → ev.ledger < S.cursor (S.listener.next w op) →
      ev.ledger < S.cursor w ∨ ∃ p r w', op = .poll p ∧ (S.fetch p).run w = (.ok r, w') ∧ S.cursor w ≤ ev.ledger ∧
        ev.ledger < S.cursor w' ∧ (ev.contractId ∈ r.targetContracts → ev.raw ∈ r.rawEvents) := by
    intro w op hcrowd hlt
    cases op with
    | write db => exact Or.inl hlt
    | poll p =>
      obtain ⟨r, w', hpoll⟩ := S.fetch_run p w
      rw [hpoll.next] at hlt
      rcases lt_or_ge ev.ledger (S.cursor w) with hbefore | hcursor
      · exact Or.inl hbefore
      · exact Or.inr ⟨p, r, w', rfl, hpoll.run, hcursor, hlt, delivers hev hpoll hcrowd hcursor hlt⟩
  rcases Machine.run_origin (P := fun w => ev.ledger < S.cursor w) hstep h hpassed with hbefore | ⟨pre, op, post, he, p, r, w', rfl, hrest⟩
  · omega
  · exact ⟨pre, p, post, r, w', he, hrest⟩

end ListenerSetup

/-- The `k`-th event of the trade's contract in ledger 1. -/
def Trade.chainEvent (k : ℕ) : ChainEvent where
  ledger := 1
  contractId := "C1"
  raw := .obj [("contractId", .str "C1"), ("ledger", .num 1), ("index", .num k)]
  positive := by decide
  ledgerField := rfl

/-- A listener without a configured contract on a chain whose ledger 1 has `n` events of the trade's contract. -/
def Trade.listenerSetup (n : ℕ) : ListenerSetup where
  chain := ⟨(List.range n).map Trade.chainEvent, List.pairwise_map.mpr (List.pairwise_of_forall fun _ _ => le_refl _)⟩
  configuredContractId := none
  inst := 0

/-- Two polls of a chain with three events. -/
theorem trade_delivered : (Trade.listenerSetup 3).Delivered (Trade.world .created .initialized ())
    [.poll { latest := 2 }, .write (Trade.db .locked .funded), .poll { latest := 5 }] :=
  ListenerSetup.events_delivered _ _ _ (by decide)

theorem Trade.chainEvent_raw {j k : ℕ} (h : (Trade.chainEvent j).raw = (Trade.chainEvent k).raw) : j = k := by
  unfold Trade.chainEvent at h
  have hindex : (j : ℤ) = k := by simpa using h
  omega

/-- A ledger with one event more than a page: the poll takes the first hundred, and the cursor moves past the last. -/
theorem event_skipped :
    ¬ (Trade.listenerSetup 101).Delivered (Trade.world .created .initialized ()) [.poll { latest := 2 }] := by
  intro h
  set S := Trade.listenerSetup 101 with hS
  obtain ⟨r, w', hpoll⟩ := S.fetch_run { latest := 2 } (Trade.world .created .initialized ())
  have htargets : r.targetContracts = ["C1"] := hpoll.targets.trans (by decide)
  have hpassed : 2 ≤ S.cursor w' := hpoll.reaches (by rw [htargets]; exact List.cons_ne_nil _ _) (by decide)
  have hrequested : S.requested { latest := 2 } (Trade.world .created .initialized ()) =
      (List.range 101).map Trade.chainEvent := by
    refine List.filter_eq_self.mpr fun ev hev => ?_
    obtain ⟨k, -, rfl⟩ := List.mem_map.mp hev
    have hfirst : Trade.chainEvent 0 ∈ S.requested { latest := 2 } (Trade.world .created .initialized ()) :=
      ListenerSetup.mem_requested (List.mem_map_of_mem (List.mem_range.mpr (by decide))) (by decide) (by decide)
        (by decide)
    -- the index is not looked at
    exact decide_eq_true (Feed.mem_requested.mp hfirst).2
  have hpage : r.rawEvents = (List.range 100).map fun k => (Trade.chainEvent k).raw := by
    rw [hpoll.page (by rw [htargets]; exact List.cons_ne_nil _ _), hrequested, ← List.map_take, List.map_map,
      List.take_range]
    rfl
  have hmem : Trade.chainEvent 100 ∈ S.chain.items := List.mem_map_of_mem (List.mem_range.mpr (by decide))
  obtain ⟨pre, p, post, r', w'', he, hrun, -, -, hdelivered⟩ := h _ hmem (by decide) (by
    rw [Machine.run_cons, Machine.run_nil, hpoll.next]
    exact lt_of_lt_of_le (by decide) hpassed)
  have hpre : pre = [] ∧ p = { latest := 2 } := by
    cases pre with
    | nil =>
      simp only [List.nil_append, List.cons.injEq, ListenerOp.poll.injEq] at he
      exact ⟨rfl, he.1.symm⟩
    | cons op pre => simp at he
  obtain ⟨rfl, rfl⟩ := hpre
  rw [Machine.run_nil, hpoll.run] at hrun
  cases hrun
  have hraw := hdelivered (by rw [htargets]; exact List.mem_cons_self)
  rw [hpage] at hraw
  obtain ⟨k, hk, hraw⟩ := List.mem_map.mp hraw
  have hlt := List.mem_range.mp hk
  have heq := Trade.chainEvent_raw hraw
  omega

/-- The funding of the trade's escrow, in ledger 1. -/
def Trade.funding : ChainEvent where
  ledger := 1
  contractId := "C1"
  raw := .obj [("id", .str "1"), ("contractId", .str "C1"), ("ledger", .num 1), ("eventType", .str "ESCROW_FUNDED")]
  positive := by decide
  ledgerField := rfl

def Trade.fundingSetup : ListenerSetup := ⟨⟨[Trade.funding], List.pairwise_singleton _ _⟩, none, 0⟩

end IKash
