import IKash.EventParser
import IKash.Lib.Keywords

/-!
# What the name of an event decides

`resolveEventType` looks for its words in one text, the explicit type and all topics joined. No word has a blank, so
a text is classified as its parts are (`eventTypeOf_eq`), by six rules in the order of the source. The name of an event
is its explicit type or its first topic; the other topics are data of the contract, and are searched as well.

- `notTakenForFunding_iff`: which events with another name are not taken for a funding;
- `explicit_and_data_iff`: when an explicit type is kept, and when the data topics do not matter.
-/

namespace IKash
namespace StellarEventParserService

open Json Lib.Keywords

/-! ## The search as rules -/

theorem includes_iff {s p : String} : includes s p = true ↔ p.toList <:+: s.toList := by
  unfold includes
  rw [List.any_eq_true, List.infix_iff_prefix_suffix]
  constructor
  · rintro ⟨t, ht, hp⟩
    exact ⟨t, List.isPrefixOf_iff_prefix.mp hp, (List.mem_tails t s.toList).mp ht⟩
  · rintro ⟨t, hp, ht⟩
    exact ⟨t, (List.mem_tails t s.toList).mpr ht, List.isPrefixOf_iff_prefix.mpr hp⟩

/-- A text in upper case. -/
def letters (s : String) : List Char := (toUpperCase s).toList

/-- The upper case of joined texts. -/
theorem letters_join : ∀ ts : List String, letters (join " " ts) = [' '].intercalate (ts.map letters)
  | [] => rfl
  | [t] => by simp [join, List.intercalate_singleton]
  | t :: u :: rest => by
    have ih := letters_join (u :: rest)
    have happend : ∀ s s' : String, letters (s ++ s') = letters s ++ letters s' := fun s s' => by
      simp [letters, toUpperCase]
    rw [List.map_cons] at ih
    rw [join, happend, happend, ih, List.map_cons, List.map_cons, List.intercalate_cons_cons]
    rfl

/-- Words of upper case, and the type they stand for. -/
def rule (words : List String) (kind : EventType) : Rule Char EventType := ⟨words.map String.toList, kind⟩

/-- The words of `resolveEventType`, in its order. -/
def rules : List (Rule Char EventType) := [
  rule ["ESCROW_CREATED", "INITIALIZE", "CREATED"] .escrowCreated,
  rule ["ESCROW_REFUNDED", "REFUND"] .escrowRefunded,
  rule ["ESCROW_FUNDED", "FUND"] .escrowFunded,
  rule ["ESCROW_RELEASED", "RELEASE"] .escrowReleased,
  rule ["ESCROW_CANCELLED", "CANCEL"] .escrowCancelled,
  rule ["ESCROW_DISPUTED", "DISPUTE"] .escrowDisputed]

theorem rules_separate : ∀ r ∈ rules, r.Separate ' ' := by
  unfold Rule.Separate
  decide

theorem rules_kinds : (rules.map Rule.kind).Nodup := by decide

theorem resolveCandidate_eq (candidate : String) : resolveCandidate candidate = classify rules [candidate.toList] := by
  simp only [resolveCandidate, rules, rule, classify_cons, Rule.Fires, List.map_cons, List.map_nil, List.mem_cons,
    List.not_mem_nil, or_false, exists_eq_or_imp, exists_eq_left, Bool.or_eq_true, includes_iff, or_assoc]
  rfl

/-- The explicit type, when it is a text. -/
def explicitType (event : Json) : Option String :=
  asString (Json.or (event.field "eventType") (Json.or (event.field "event_type") (event.field "type")))

/-- The texts that are searched. -/
def searched (event : Json) : List String := (explicitType event).toList ++ topicsOf event

/-- The place of the first rule that one of the texts sets off. -/
def position (texts : List String) : ℕ := rank rules (texts.map letters)

theorem position_append (ts us : List String) : position (ts ++ us) = min (position ts) (position us) := by
  unfold position
  rw [List.map_append, rank_append]

theorem eventTypeOf_eq (event : Json) : eventTypeOf event = classify rules ((searched event).map letters) := by
  show resolveCandidate (toUpperCase (join " " (searched event))) = _
  have hjoined : classify rules [letters (join " " (searched event))] = classify rules ((searched event).map letters) := by
    rw [letters_join, classify_intercalate rules_separate]
  rw [resolveCandidate_eq]
  exact hjoined

/-- The type that `parseEvent` returns. -/
def typeOf (event : Json) : Option EventType := (parseEvent event).map OnChainEscrowEvent.eventType

theorem typeOf_eq (event : Json) : typeOf event = (contractIdOf event).bind fun _ => eventTypeOf event := by
  unfold typeOf parseEvent
  cases contractIdOf event with
  | none => rfl
  | some c => cases eventTypeOf event <;> rfl

/-! ## Names with two words -/

/-- Some text has the word, in any case. -/
def Mentions (texts : List String) (word : String) : Prop := ∃ t ∈ texts, includes (toUpperCase t) word = true

instance (texts : List String) (word : String) : Decidable (Mentions texts word) :=
  inferInstanceAs (Decidable (∃ t ∈ texts, includes (toUpperCase t) word = true))

theorem fires_rule_iff {words texts : List String} {kind : EventType} :
    (rule words kind).Fires (texts.map letters) ↔ ∃ word ∈ words, Mentions texts word := by
  unfold Rule.Fires rule Mentions
  simp only [List.mem_map, exists_exists_and_eq_and, includes_iff, letters]

/-- A text with a word has the parts of the word. -/
theorem Mentions.part {texts : List String} {word part : String} (h : Mentions texts word)
    (hpart : part.toList <:+: word.toList) : Mentions texts part := by
  obtain ⟨t, ht, hword⟩ := h
  exact ⟨t, ht, includes_iff.mpr (hpart.trans (includes_iff.mp hword))⟩

theorem mentions_pair_iff {texts : List String} {long short : String} (h : short.toList <:+: long.toList) :
    (∃ word ∈ [long, short], Mentions texts word) ↔ Mentions texts short := by
  simp only [List.mem_cons, List.not_mem_nil, or_false, exists_eq_or_imp, exists_eq_left]
  exact ⟨fun hm => hm.elim (fun hlong => hlong.part h) id, Or.inr⟩

/-- The words of the rules that come before that of a funding. -/
def wordsBeforeFund : List String := ["INITIALIZE", "CREATED", "REFUND"]

theorem eventTypeOf_funded_iff {event : Json} : eventTypeOf event = some .escrowFunded ↔
    (∀ word ∈ wordsBeforeFund, ¬ Mentions (searched event) word) ∧ Mentions (searched event) "FUND" := by
  have hcreated : (∃ word ∈ ["ESCROW_CREATED", "INITIALIZE", "CREATED"], Mentions (searched event) word) ↔
      Mentions (searched event) "INITIALIZE" ∨ Mentions (searched event) "CREATED" := by
    simp only [List.mem_cons, List.not_mem_nil, or_false, exists_eq_or_imp, exists_eq_left]
    exact ⟨fun h => h.elim (fun hm => Or.inr (hm.part (by decide))) id, Or.inr⟩
  rw [eventTypeOf_eq]
  refine (classify_eq_some_iff rules_kinds (i := 2) (r := rule ["ESCROW_FUNDED", "FUND"] .escrowFunded) rfl).trans ?_
  rw [rank_eq_iff (r := rule ["ESCROW_FUNDED", "FUND"] .escrowFunded) rfl, fires_rule_iff,
    mentions_pair_iff (by decide)]
  refine and_congr_left fun _ => ?_
  simp only [rules, List.take_succ_cons, List.take_zero, wordsBeforeFund, List.forall_mem_cons, fires_rule_iff,
    hcreated, List.not_mem_nil, false_imp_iff, implies_true, and_true, not_or, and_assoc]
  rw [mentions_pair_iff (by decide)]

/-- The name of an event: its explicit type, and its first topic. -/
def names (event : Json) : List String := (explicitType event).toList ++ (topicsOf event).head?.toList

/-- The words of what is no funding. -/
def otherWords : List String := ["RELEASE", "REFUND", "CANCEL", "DISPUTE"]

def NamesAnother (event : Json) : Prop := ∃ word ∈ otherWords, Mentions (names event) word

def NotTakenForFunding (event : Json) : Prop := NamesAnother event → typeOf event ≠ some .escrowFunded

/-- An event that names something else is taken for a funding exactly if it has a contract, some text has FUND, and no
text has a word of the two rules before. -/
theorem notTakenForFunding_iff (event : Json) : NotTakenForFunding event ↔
    ¬ NamesAnother event ∨ contractIdOf event = none ∨ ¬ Mentions (searched event) "FUND" ∨
      ∃ word ∈ wordsBeforeFund, Mentions (searched event) word := by
  unfold NotTakenForFunding
  rw [imp_iff_not_or, typeOf_eq]
  refine or_congr_right ?_
  cases contractIdOf event with
  | none => simp
  | some c =>
    simp only [Option.bind_some, ne_eq, eventTypeOf_funded_iff, reduceCtorEq, false_or, not_and_or, not_forall,
      exists_prop, not_not]
    exact or_comm

/-- An event of the function that releases the funds. -/
def releaseEvent : Json := .obj [("contractId", .str "C1"), ("topics", .arr [.str "release_milestone_funds"])]

theorem release_taken_for_funding : NamesAnother releaseEvent ∧ typeOf releaseEvent = some .escrowFunded := by
  refine ⟨⟨"RELEASE", by decide, by decide⟩, ?_⟩
  rw [typeOf_eq]
  exact eventTypeOf_funded_iff.mpr ⟨by decide, by decide⟩

/-! ## Data topics -/

/-- The place of the rule of a type. -/
def place (type : EventType) : ℕ := rules.findIdx fun r => r.kind = type

/-- The name of a type sets off its own rule, and none before. -/
theorem position_text (type : EventType) : position [type.text] = place type := by cases type <;> decide

theorem rules_place (type : EventType) : ∃ r, rules[place type]? = some r ∧ r.kind = type := by
  cases type <;> exact ⟨_, rfl, rfl⟩

theorem eventTypeOf_eq_some {event : Json} {type : EventType} :
    eventTypeOf event = some type ↔ position (searched event) = place type := by
  obtain ⟨r, hr, rfl⟩ := rules_place type
  rw [eventTypeOf_eq]
  exact classify_eq_some_iff rules_kinds hr

/-- The topics after the first one. -/
def dataTopics (event : Json) : List String := (topicsOf event).tail

/-- Two events without an explicit type that differ in their later topics only. -/
structure DifferInData (e e' : Json) : Prop where
  first : explicitType e = none
  second : explicitType e' = none
  name : (topicsOf e).head? = (topicsOf e').head?
  fields : ∀ f, f ∉ ["topic", "topics"] → e.field f = e'.field f

theorem contractIdOf_congr {e e' : Json} (h : DifferInData e e') : contractIdOf e = contractIdOf e' := by
  unfold contractIdOf
  rw [h.fields "contractId" (by decide), h.fields "contract_id" (by decide)]

theorem position_searched {event : Json} (h : explicitType event = none) :
    position (searched event) = min (position (topicsOf event).head?.toList) (position (dataTopics event)) := by
  have htopics : topicsOf event = (topicsOf event).head?.toList ++ dataTopics event := by
    unfold dataTopics
    cases topicsOf event <;> rfl
  rw [searched, h, Option.toList_none, List.nil_append, ← position_append, ← htopics]

/-- An explicit type is returned exactly if the event has a contract and no topic has a word of an earlier rule. Events
that differ in data topics have one type exactly if they have no contract, if no data topic has a word of a rule
before that of the first topic, or if the first rules their data topics set off are the same. -/
theorem explicit_and_data_iff {event e e' : Json} {type : EventType}
    (hexplicit : event.field "eventType" = some (.str type.text)) (hdiffer : DifferInData e e') :
    (typeOf event = some type ↔ contractIdOf event ≠ none ∧ place type ≤ position (topicsOf event)) ∧
      (typeOf e = typeOf e' ↔ contractIdOf e = none ∨
        position (topicsOf e).head?.toList ≤ min (position (dataTopics e)) (position (dataTopics e')) ∨
        position (dataTopics e) = position (dataTopics e')) := by
  constructor
  · have hname : explicitType event = some type.text := by
      unfold explicitType
      rw [hexplicit]
      cases type <;> rfl
    have hposition : position (searched event) = min (place type) (position (topicsOf event)) := by
      rw [searched, hname, position_append, Option.toList_some, position_text]
    rw [typeOf_eq]
    cases contractIdOf event with
    | none => simp
    | some c =>
      rw [Option.bind_some, eventTypeOf_eq_some, hposition]
      simp only [ne_eq, reduceCtorEq, not_false_iff, true_and]
      omega
  · rw [typeOf_eq, typeOf_eq, ← contractIdOf_congr hdiffer]
    cases contractIdOf e with
    | none => simp
    | some c =>
      rw [Option.bind_some, Option.bind_some, eventTypeOf_eq, eventTypeOf_eq, classify_eq_iff rules_kinds]
      have hfirst := position_searched hdiffer.first
      have hsecond := position_searched hdiffer.second
      rw [← hdiffer.name] at hsecond
      unfold position at *
      rw [hfirst, hsecond]
      simp only [reduceCtorEq, false_or]
      omega

/-- A release that says its type, with one more topic. -/
def explicitRelease (topic : String) : Json :=
  .obj [("contractId", .str "C1"), ("eventType", .str "ESCROW_RELEASED"), ("topics", .arr [.str topic])]

/-- A release by its first topic, with one more. -/
def namedRelease (topic : String) : Json :=
  .obj [("contractId", .str "C1"), ("topics", .arr [.str "ESCROW_RELEASED", .str topic])]

theorem namedRelease_differ (topic topic' : String) : DifferInData (namedRelease topic) (namedRelease topic') where
  first := rfl
  second := rfl
  name := rfl
  fields := by
    intro f hf
    have htopics : (f == "topics") = false := beq_false_of_ne fun h => hf (by simp [h])
    simp only [Json.field, namedRelease, List.lookup_cons, List.lookup_nil, htopics]

/-- A reference with the word refund in it makes a refund of both. -/
theorem refund_reference : typeOf (explicitRelease "refund-12") = some .escrowRefunded ∧
    typeOf (namedRelease "refund-12") = some .escrowRefunded ∧
    typeOf (namedRelease "order-12") = some .escrowReleased ∧
    DifferInData (namedRelease "refund-12") (namedRelease "order-12") := by
  refine ⟨?_, ?_, ?_, namedRelease_differ _ _⟩ <;>
  · rw [typeOf_eq]
    decide

theorem order_reference :
    (typeOf (explicitRelease "order-12") = some .escrowReleased ↔ contractIdOf (explicitRelease "order-12") ≠ none ∧
      place .escrowReleased ≤ position (topicsOf (explicitRelease "order-12"))) ∧
    (typeOf (namedRelease "order-12") = typeOf (namedRelease "order-13") ↔
      contractIdOf (namedRelease "order-12") = none ∨
        position (topicsOf (namedRelease "order-12")).head?.toList ≤
          min (position (dataTopics (namedRelease "order-12"))) (position (dataTopics (namedRelease "order-13"))) ∨
        position (dataTopics (namedRelease "order-12")) = position (dataTopics (namedRelease "order-13"))) :=
  explicit_and_data_iff rfl (namedRelease_differ _ _)

end StellarEventParserService
end IKash
