import IKash.Lib.WrittenKeys
import IKash.Lib.Decimal
import IKash.Restart

/-!
# Events that are taken for duplicates

An instance remembers the keys of the events it has processed, and reports an event whose key it knows as a duplicate. The
key is the id of the raw event, or the text of transaction, ledger and index if it has none, with the type.

- `eventKey_cases`: two events with one key are one event, or they clash (`Clash`);
- `mem_remembered_run`: what an instance remembers after a run;
- `duplicates_iff`: along a run, an event is reported as a duplicate only if it was processed before, exactly if no event
  clashes with a processed one, unless it was processed itself.
-/

namespace IKash

open Lib StellarListenerService StellarEventParserService

variable {χ : Type}

/-! ## Keys of events -/

section Keys

theorem mem_repr {n : ℤ} {c : Char} (h : c ∈ n.repr.toList) : c.isDigit = true ∨ c = '-' := by
  have hdigits : ∀ {m : ℕ}, c ∈ m.repr.toList → c.isDigit = true := fun hm => by
    rw [Nat.toList_repr] at hm
    exact isDigit_toDigits hm
  rw [Int.repr_eq_if] at h
  split at h
  · exact Or.inl (hdigits h)
  · rw [String.toList_append] at h
    rcases List.mem_append.mp h with h | h
    · exact Or.inr (List.mem_singleton.mp h)
    · exact Or.inl (hdigits h)

theorem natRepr_inj {m n : ℕ} (h : m.repr = n.repr) : m = n := by
  have hdigits := congrArg String.toList h
  rw [Nat.toList_repr, Nat.toList_repr] at hdigits
  rw [← natOf_toDigits m, hdigits, natOf_toDigits]

theorem repr_inj {m n : ℤ} (h : m.repr = n.repr) : m = n := by
  have hsign : ∀ {k l : ℕ}, k.repr ≠ "-" ++ l.repr := by
    intro k l hkl
    have hmem : '-' ∈ k.repr.toList := by
      rw [hkl, String.toList_append]
      exact List.mem_append_left _ (List.mem_singleton_self _)
    rw [Nat.toList_repr] at hmem
    exact absurd (isDigit_toDigits hmem) (by decide)
  rw [Int.repr_eq_if, Int.repr_eq_if] at h
  split at h <;> split at h
  · have := natRepr_inj h
    omega
  · exact absurd h hsign
  · exact absurd h.symm hsign
  · have := natRepr_inj (String.append_right_inj "-" |>.mp h)
    omega

theorem numberText_inj {m n : Option ℤ} (h : numberText m = numberText n) : m = n := by
  have hnan : ∀ k : ℤ, k.repr ≠ "NaN" := by
    intro k hk
    have hmem : 'N' ∈ k.repr.toList := by
      rw [hk]
      decide
    exact absurd (mem_repr hmem) (by decide)
  unfold numberText at h
  cases m with
  | none =>
    cases n with
    | none => rfl
    | some n => exact absurd h.symm (hnan n)
  | some m =>
    cases n with
    | none => exact absurd h (hnan m)
    | some n => exact congrArg some (repr_inj h)

theorem colon_numberText (n : Option ℤ) : ':' ∉ (numberText n).toList := by
  cases n with
  | none => decide
  | some n => exact fun h => absurd (mem_repr h) (by decide)

theorem EventType.text_inj {t t' : EventType} (h : t.text = t'.text) : t = t' := by
  cases t <;> cases t' <;> first | rfl | exact absurd h (by decide)

theorem EventType.colon_text (t : EventType) : ':' ∉ t.text.toList := by cases t <;> decide

end Keys

/-- A raw event with what `parseEvent` makes of it. -/
structure RecognisedEvent where
  raw : Json
  event : OnChainEscrowEvent
  parsed : parseEvent raw = some event

namespace RecognisedEvent

/-- The id of the raw event, if it is a text. -/
def id (a : RecognisedEvent) : Option String := Json.asString (a.raw.field "id")

/-- Transaction, ledger and index, as they are put into the id of an event without one. -/
def position (a : RecognisedEvent) : String :=
  a.event.txHash ++ ":" ++ numberText a.event.ledgerSequence ++ ":" ++ numberText a.event.eventIndex

/-- The same event of the chain. -/
structure Same (a b : RecognisedEvent) : Prop where
  contractId : a.event.contractId = b.event.contractId
  txHash : a.event.txHash = b.event.txHash
  ledgerSequence : a.event.ledgerSequence = b.event.ledgerSequence
  eventIndex : a.event.eventIndex = b.event.eventIndex
  eventType : a.event.eventType = b.event.eventType

/-- Two events of one type that are given one id: both have none and are at one position, of two contracts; or the id of
one is the text of the other's position. -/
def Clash (a b : RecognisedEvent) : Prop :=
  a.event.eventType = b.event.eventType ∧
    (a.id = none ∧ b.id = none ∧ a.event.txHash = b.event.txHash ∧ a.event.ledgerSequence = b.event.ledgerSequence ∧
        a.event.eventIndex = b.event.eventIndex ∧ a.event.contractId ≠ b.event.contractId ∨
      a.id = some b.position ∧ b.id = none ∨
      a.id = none ∧ b.id = some a.position)

variable {a b : RecognisedEvent}

theorem eventId_eq (a : RecognisedEvent) : a.event.eventId = a.id.getD a.position := by
  obtain ⟨raw, event, parsed⟩ := a
  unfold parseEvent at parsed
  cases hc : contractIdOf raw with
  | none => simp [hc] at parsed
  | some c =>
    cases ht : eventTypeOf raw with
    | none => simp [hc, ht] at parsed
    | some t =>
      simp only [hc, ht, Option.bind_eq_bind, Option.bind_some, Option.pure_def, Option.some.injEq] at parsed
      subst parsed
      rfl

theorem position_inj (h : a.position = b.position) : a.event.txHash = b.event.txHash ∧
    a.event.ledgerSequence = b.event.ledgerSequence ∧ a.event.eventIndex = b.event.eventIndex := by
  obtain ⟨hfront, hindex⟩ := (text_sep_inj (colon_numberText _) (colon_numberText _)).mp h
  obtain ⟨htx, hledger⟩ := (text_sep_inj (colon_numberText _) (colon_numberText _)).mp hfront
  exact ⟨htx, numberText_inj hledger, numberText_inj hindex⟩

theorem eventKey_eq_iff : eventKey a.event = eventKey b.event ↔
    a.id.getD a.position = b.id.getD b.position ∧ a.event.eventType = b.event.eventType := by
  unfold eventKey
  rw [text_sep_inj (EventType.colon_text _) (EventType.colon_text _), eventId_eq, eventId_eq]
  exact and_congr_right fun _ => ⟨EventType.text_inj, congrArg _⟩

/-- **Equal keys.** If the ids of the raw events are unique, two events with one key are one event, or clash. -/
theorem eventKey_cases (hunique : ∀ s, a.id = some s → b.id = some s → a.Same b)
    (h : eventKey a.event = eventKey b.event) : a.Same b ∨ a.Clash b := by
  obtain ⟨hid, htype⟩ := eventKey_eq_iff.mp h
  cases ha : a.id with
  | none =>
    cases hb : b.id with
    | none =>
      rw [ha, hb] at hid
      obtain ⟨htx, hledger, hindex⟩ := position_inj hid
      by_cases hcontract : a.event.contractId = b.event.contractId
      · exact Or.inl ⟨hcontract, htx, hledger, hindex, htype⟩
      · exact Or.inr ⟨htype, Or.inl ⟨ha, hb, htx, hledger, hindex, hcontract⟩⟩
    | some s =>
      rw [ha, hb] at hid
      exact Or.inr ⟨htype, Or.inr (Or.inr ⟨ha, hb.trans (congrArg some hid.symm)⟩)⟩
  | some s =>
    cases hb : b.id with
    | none =>
      rw [ha, hb] at hid
      exact Or.inr ⟨htype, Or.inr (Or.inl ⟨ha.trans (congrArg some hid), hb⟩)⟩
    | some t =>
      rw [ha, hb] at hid
      exact Or.inl (hunique s ha (hb.trans (congrArg some hid.symm)))

/-- Events that clash have one key. -/
theorem Clash.eventKey (h : a.Clash b) : eventKey a.event = eventKey b.event := by
  refine eventKey_eq_iff.mpr ⟨?_, h.1⟩
  rcases h.2 with ⟨ha, hb, htx, hledger, hindex, -⟩ | ⟨ha, hb⟩ | ⟨ha, hb⟩
  · rw [ha, hb]
    unfold position
    rw [htx, hledger, hindex]
  · rw [ha, hb]
    rfl
  · rw [ha, hb]
    rfl

end RecognisedEvent

/-! ## What an instance remembers -/

section Memory

variable {inst : ℕ} {fault : Option Thrown} {event : OnChainEscrowEvent} {w : World χ} {k : String}

def remembered (inst : ℕ) (w : World χ) : List String := (w.listeners inst).processedEventIds

/-- The call processes the event, or finds it processed already. -/
def Processes (inst : ℕ) (fault : Option Thrown) (event : OnChainEscrowEvent) (w : World χ) : Prop :=
  match verdict inst event w with
  | .skipped => True
  | .applicable _ => fault = none
  | _ => False

theorem remembered_setListener (l : Listener) : remembered inst (w.setListener inst l) = l.processedEventIds := by
  unfold remembered World.setListener
  dsimp only
  rw [Function.update_self]

theorem remembered_remember : remembered inst (remember inst event w) = (remembered inst w).insert (eventKey event) :=
  remembered_setListener _

theorem mem_remembered_processEvent : k ∈ remembered inst ((processEvent inst fault event).run w).2 ↔
    k ∈ remembered inst w ∨ Processes inst fault event w ∧ k = eventKey event := by
  have hrun := processEvent_run inst fault event w
  unfold Processes
  cases hv : verdict inst event w with
  | ignored =>
    rw [hv] at hrun
    rw [hrun]
    simp
  | skipped =>
    rw [hv] at hrun
    rw [hrun, remembered_remember, List.mem_insert_iff]
    simp [or_comm]
  | throws t =>
    rw [hv] at hrun
    rw [hrun]
    simp
  | applicable e =>
    rw [hv] at hrun
    cases fault with
    | some t =>
      rw [hrun]
      simp
    | none =>
      obtain ⟨db, hrun, -⟩ := hrun
      rw [hrun, remembered_remember, List.mem_insert_iff, or_comm, eq_self, true_and]
      rfl

theorem remembered_advance (ledger : Option ℤ) : remembered inst (advance inst ledger w) = remembered inst w := by
  unfold advance
  cases ledger with
  | none => rfl
  | some n =>
    dsimp only
    split
    · exact remembered_setListener _
    · rfl

/-- Whatever became of the event, the loop goes on with the memory that the call left. -/
theorem remembered_handleRaw {raw : Json} (h : parseEvent raw = some event) :
    remembered inst ((handleRaw inst fault raw).run w).2 = remembered inst ((processEvent inst fault event).run w).2 := by
  unfold handleRaw
  rw [h]
  dsimp only
  rw [Svc.run_bind_ok (Svc.run_attempt _ _)]
  cases ((processEvent inst fault event).run w).1 with
  | error t => rfl
  | ok handled => exact remembered_advance _

theorem handleRaw_unrecognised {raw : Json} (h : parseEvent raw = none) :
    ((handleRaw inst fault raw).run w).2 = w := by
  unfold handleRaw
  rw [h]
  rfl

end Memory

/-! ## Runs of an instance -/

/-- A raw event that is handed to an instance. Meanwhile anything may have happened that leaves what it remembers. -/
structure Delivery (χ : Type) (inst : ℕ) where
  raw : Json
  fault : Option Thrown := none
  meanwhile : World χ → World χ := fun w => w
  keeps : ∀ w, remembered inst (meanwhile w) = remembered inst w

/-- The machine of the deliveries. -/
def deliveries (inst : ℕ) : Machine (World χ) (Delivery χ inst) (Except Thrown RawOutcome) where
  step w d := (handleRaw inst d.fault d.raw).run (d.meanwhile w)

section Runs

variable {inst : ℕ} {w : World χ} {ds : List (Delivery χ inst)} {k : String}

/-- The delivery of an event that is processed, or found processed. -/
def ProcessesAt (inst : ℕ) (w : World χ) (d : Delivery χ inst) (a : RecognisedEvent) : Prop :=
  a.raw = d.raw ∧ Processes inst d.fault a.event (d.meanwhile w)

/-- The event was processed in the run. -/
def ProcessedIn (inst : ℕ) (w : World χ) (ds : List (Delivery χ inst)) (a : RecognisedEvent) : Prop :=
  ∃ pre d post, ds = pre ++ d :: post ∧ ProcessesAt inst ((deliveries inst).run w pre) d a

theorem mem_remembered_next (w : World χ) (d : Delivery χ inst) : k ∈ remembered inst ((deliveries inst).next w d) ↔
    k ∈ remembered inst w ∨ ∃ a, ProcessesAt inst w d a ∧ k = eventKey a.event := by
  rw [← d.keeps w]
  show k ∈ remembered inst ((handleRaw inst d.fault d.raw).run (d.meanwhile w)).2 ↔ _
  cases h : parseEvent d.raw with
  | none =>
    rw [handleRaw_unrecognised h]
    refine (or_iff_left ?_).symm
    rintro ⟨a, ⟨hraw, -⟩, -⟩
    have hparsed := a.parsed
    rw [hraw, h] at hparsed
    cases hparsed
  | some event =>
    rw [remembered_handleRaw h, mem_remembered_processEvent]
    refine or_congr_right ⟨fun hp => ⟨⟨d.raw, event, h⟩, ⟨rfl, hp.1⟩, hp.2⟩, ?_⟩
    rintro ⟨a, ⟨hraw, hp⟩, hk⟩
    have hparsed := a.parsed
    rw [hraw, h] at hparsed
    obtain rfl := Option.some.inj hparsed
    exact ⟨hp, hk⟩

/-- What a new instance remembers are the keys of the events it processed. -/
theorem mem_remembered_run (hnew : remembered inst w = []) :
    k ∈ remembered inst ((deliveries inst).run w ds) ↔ ∃ a, ProcessedIn inst w ds a ∧ k = eventKey a.event := by
  rw [Machine.run_origin_iff (P := fun w => k ∈ remembered inst w) mem_remembered_next, hnew]
  constructor
  · rintro (hk | ⟨pre, d, post, rfl, a, ha, hk⟩)
    · cases hk
    · exact ⟨a, ⟨pre, d, post, rfl, ha⟩, hk⟩
  · rintro ⟨a, ⟨pre, d, post, rfl, ha⟩, hk⟩
    exact Or.inr ⟨pre, d, post, rfl, a, ha, hk⟩

/-- What the call reports as a duplicate. -/
def ReportsDuplicate (inst : ℕ) (event : OnChainEscrowEvent) (w : World χ) : Prop :=
  eventKey event ∈ remembered inst w

theorem processEvent_duplicate {event : OnChainEscrowEvent} (fault : Option Thrown) (h : ReportsDuplicate inst event w) :
    (processEvent inst fault event).run w = (.ok false, w) := by
  have hrun := processEvent_run inst fault event w
  have hv : verdict inst event w = .ignored := if_pos h
  rwa [hv] at hrun

/-- The ids of the raw events are those of the chain: one id, one event. -/
def IdsUnique (ds : List (Delivery χ inst)) : Prop :=
  ∀ d ∈ ds, ∀ d' ∈ ds, ∀ a b : RecognisedEvent, a.raw = d.raw → b.raw = d'.raw → ∀ s, a.id = some s → b.id = some s →
    a.Same b

/-- At every step, what is reported as a duplicate was processed before. -/
def DuplicatesProcessed (inst : ℕ) (w : World χ) (ds : List (Delivery χ inst)) : Prop :=
  ∀ pre d post a, ds = pre ++ d :: post → a.raw = d.raw →
    ReportsDuplicate inst a.event (d.meanwhile ((deliveries inst).run w pre)) →
    ∃ b, ProcessedIn inst w pre b ∧ b.Same a

/-- At every step, an event that clashes with one processed before was itself processed before. -/
def ClashesProcessed (inst : ℕ) (w : World χ) (ds : List (Delivery χ inst)) : Prop :=
  ∀ pre d post a, ds = pre ++ d :: post → a.raw = d.raw → (∃ b, ProcessedIn inst w pre b ∧ b.Clash a) →
    ∃ b, ProcessedIn inst w pre b ∧ b.Same a

theorem ProcessedIn.delivered {a : RecognisedEvent} (h : ProcessedIn inst w ds a) : ∃ d ∈ ds, a.raw = d.raw := by
  obtain ⟨pre, d, post, rfl, hraw, -⟩ := h
  exact ⟨d, by simp, hraw⟩

/-- **Duplicates.** In the run of a new instance, whose raw events have unique ids or none, every event that is reported as
a duplicate was processed before, exactly if no event clashes with one processed before, unless it was so itself. -/
theorem duplicates_iff (hnew : remembered inst w = []) (hunique : IdsUnique ds) :
    DuplicatesProcessed inst w ds ↔ ClashesProcessed inst w ds := by
  constructor
  · rintro h pre d post a he ha ⟨b, hb, hclash⟩
    refine h pre d post a he ha ?_
    unfold ReportsDuplicate
    rw [d.keeps, mem_remembered_run hnew]
    exact ⟨b, hb, hclash.eventKey.symm⟩
  · intro h pre d post a he ha hduplicate
    unfold ReportsDuplicate at hduplicate
    rw [d.keeps, mem_remembered_run hnew] at hduplicate
    obtain ⟨b, hb, hkey⟩ := hduplicate
    obtain ⟨d', hd', hraw⟩ := hb.delivered
    have hids : ∀ s, b.id = some s → a.id = some s → b.Same a :=
      hunique d' (by rw [he]; exact List.mem_append_left _ hd') d (by rw [he]; simp) b a hraw ha
    rcases RecognisedEvent.eventKey_cases hids hkey.symm with hsame | hclash
    · exact ⟨b, hb, hsame⟩
    · exact h pre d post a he ha ⟨b, hb, hclash⟩

end Runs

/-! ## Two contracts in one transaction -/

namespace Trade

/-- A release that says neither its id nor its index. -/
def releaseOf (contractId : String) : Json :=
  .obj [("contractId", .str contractId), ("txHash", .str "T"), ("ledger", .num 7), ("topic", .arr [.str "released"])]

def releaseEvent (contractId : String) : OnChainEscrowEvent where
  eventId := "T:7:0"
  eventType := .escrowReleased
  contractId := contractId
  txHash := "T"
  ledgerSequence := some 7
  eventIndex := some 0

def delivery (contractId : String) : Delivery Unit 0 := { raw := releaseOf contractId, keeps := fun _ => rfl }

theorem release_event {contractId : String} (hc : contractId = "C1" ∨ contractId = "C2") {a : RecognisedEvent}
    (h : a.raw = releaseOf contractId) : a.event = releaseEvent contractId ∧ a.id = none := by
  have hparsed : parseEvent (releaseOf contractId) = some (releaseEvent contractId) := by
    rcases hc with rfl | rfl <;> decide
  have ha := a.parsed
  rw [h, hparsed] at ha
  refine ⟨(Option.some.inj ha).symm, ?_⟩
  unfold RecognisedEvent.id
  rw [h]
  rfl

theorem deliveries_unique {ds : List (Delivery Unit 0)} (h : ∀ d ∈ ds, d.raw = releaseOf "C1" ∨ d.raw = releaseOf "C2") :
    IdsUnique ds := by
  intro d hd _ _ a _ ha _ s hs
  have hnone : a.id = none := by
    rcases h d hd with hraw | hraw
    · exact (release_event (Or.inl rfl) (ha.trans hraw)).2
    · exact (release_event (Or.inr rfl) (ha.trans hraw)).2
  rw [hnone] at hs
  cases hs

/-- A release that is delivered twice. -/
theorem release_twice :
    DuplicatesProcessed 0 (Trade.world .released .released ()) [delivery "C1", delivery "C1"] := by
  refine (duplicates_iff rfl (deliveries_unique (by simp [delivery]))).mpr ?_
  have hraw : ∀ d ∈ [delivery "C1", delivery "C1"], d.raw = releaseOf "C1" := by simp [delivery]
  rintro pre d post a he ha ⟨b, hb, hclash⟩
  obtain ⟨d', hd', hb'⟩ := hb.delivered
  obtain ⟨haEvent, haId⟩ := release_event (Or.inl rfl) (ha.trans (hraw d (by rw [he]; simp)))
  obtain ⟨hbEvent, hbId⟩ :=
    release_event (Or.inl rfl) (hb'.trans (hraw d' (by rw [he]; exact List.mem_append_left _ hd')))
  -- two deliveries of one contract do not clash
  rcases hclash.2 with ⟨-, -, -, -, -, hcontract⟩ | ⟨hid, -⟩ | ⟨-, hid⟩
  · rw [haEvent, hbEvent] at hcontract
    exact absurd rfl hcontract
  · rw [hbId] at hid
    cases hid
  · rw [haId] at hid
    cases hid

/-- After the release of the first contract, that of the second one in the same transaction is a duplicate. -/
theorem second_duplicate : ReportsDuplicate 0 (releaseEvent "C2")
    ((deliveries 0).run (Trade.world .released .released ()) [delivery "C1"]) := by
  unfold ReportsDuplicate
  decide

/-- The releases of two contracts in one transaction: the second one is swallowed. -/
theorem release_swallowed : remembered 0 (Trade.world .released .released ()) = [] ∧
    IdsUnique [delivery "C1", delivery "C2"] ∧
    (∀ fault, (processEvent 0 fault (releaseEvent "C2")).run
        ((deliveries 0).run (Trade.world .released .released ()) [delivery "C1"]) =
      (.ok false, (deliveries 0).run (Trade.world .released .released ()) [delivery "C1"])) ∧
    ¬ DuplicatesProcessed 0 (Trade.world .released .released ()) [delivery "C1", delivery "C2"] := by
  refine ⟨rfl, deliveries_unique (by simp [delivery]), fun fault => processEvent_duplicate fault second_duplicate,
    fun h => ?_⟩
  have hparsed : parseEvent (releaseOf "C2") = some (releaseEvent "C2") := by decide
  obtain ⟨b, hb, hsame⟩ := h [delivery "C1"] (delivery "C2") [] ⟨_, _, hparsed⟩ rfl rfl second_duplicate
  obtain ⟨d, hd, hraw⟩ := hb.delivered
  rw [List.mem_singleton.mp hd] at hraw
  have hcontract : b.event.contractId = "C2" := hsame.contractId
  rw [(release_event (Or.inl rfl) hraw).1] at hcontract
  exact absurd hcontract (by decide)

end Trade

end IKash
