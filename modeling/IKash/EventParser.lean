import IKash.Lifecycle

/-!
# `StellarEventParserService.parseEvent`

A raw event is a JSON object of the RPC. `parseEvent` reads the contract, the transaction, the ledger and the index
under their several names, finds the event type in the explicit type or the topics, and the engagement id in the
fields, the value or the topics. `none` is an event that is not recognised.
-/

namespace IKash

open Json

/-- `OnChainEscrowEvent` with the fields that `processEvent` reads; `none` is `NaN` in the two numbers. -/
structure OnChainEscrowEvent where
  eventId : String
  eventType : EventType
  contractId : String
  txHash : String
  ledgerSequence : Option ℤ
  eventIndex : Option ℤ
  engagementId : Option String := none
  orderId : Option String := none
deriving DecidableEq, Repr

namespace StellarEventParserService

def numberText (n : Option ℤ) : String := n.elim "NaN" toString

def stringOrNumber : Option Json → Option String
  | some (.str s) => some s
  | some (.num n) => some (toString n)
  | _ => none

def stringifyTopic : Json → String
  | .null => ""
  | .bool b => if b then "true" else "false"
  | .num n => toString n
  | .str s => s
  | .arr xs => stringify (.arr xs)
  | .obj fields =>
    ((stringOrNumber (fields.lookup "_value")).or (stringOrNumber (fields.lookup "value"))).getD (stringify (.obj fields))

/-- The names looked for in the event, in this order. -/
def resolveCandidate (candidate : String) : Option EventType :=
  if includes candidate "ESCROW_CREATED" || includes candidate "INITIALIZE" || includes candidate "CREATED" then
    some .escrowCreated
  else if includes candidate "ESCROW_REFUNDED" || includes candidate "REFUND" then some .escrowRefunded
  else if includes candidate "ESCROW_FUNDED" || includes candidate "FUND" then some .escrowFunded
  else if includes candidate "ESCROW_RELEASED" || includes candidate "RELEASE" then some .escrowReleased
  else if includes candidate "ESCROW_CANCELLED" || includes candidate "CANCEL" then some .escrowCancelled
  else if includes candidate "ESCROW_DISPUTED" || includes candidate "DISPUTE" then some .escrowDisputed
  else none

def resolveEventType (directType : Option Json) (topics : List String) : Option EventType :=
  resolveCandidate (toUpperCase (join " " ((asString directType).toList ++ topics)))

def isHexOrDash (c : Char) : Bool := isHexDigit c || c = '-'

/-- A topic that is taken for the engagement id. -/
def isEngagementTopic (t : String) : Bool :=
  startsWith t "order_" || startsWith t "eng_" || (t.toList.length = 36 && t.toList.all isHexOrDash)

def extractEngagementId (event : Json) (topics : List String) : Option String :=
  let value := (event.field "value").getD .null
  (asString (event.field "engagementId")).or <|
  (asString (event.field "orderId")).or <|
  (asString (value.field "engagementId")).or <|
  (asString (value.field "orderId")).or <|
  (asString (value.field "engagement_id")).or <|
  topics.find? isEngagementTopic

def rawTopics (event : Json) : List Json :=
  match event.field "topic" with
  | some (.arr xs) => xs
  | _ =>
    match event.field "topics" with
    | some (.arr xs) => xs
    | _ => []

/-- `eventObj.contractId || eventObj.contract_id`, when it is a non-empty string. -/
def contractIdOf (event : Json) : Option String :=
  (asString (Json.or (event.field "contractId") (event.field "contract_id"))).filter (· ≠ "")

def txHashOf (event : Json) : Json :=
  (Json.or (event.field "txHash") (Json.or (event.field "tx_hash")
    (Json.or (event.field "transactionHash") (some (.str ""))))).getD (.str "")

def ledgerOf (event : Json) : Option ℤ :=
  number ((Json.or (event.field "ledger") (Json.or (event.field "ledgerSequence") (some (.num 0)))).getD (.num 0))

def eventIndexOf (event : Json) : Option ℤ :=
  number ((Json.or (event.field "eventIndex") (Json.or (event.field "index") (some (.num 0)))).getD (.num 0))

def topicsOf (event : Json) : List String := (rawTopics event).map stringifyTopic

def eventTypeOf (event : Json) : Option EventType :=
  resolveEventType (Json.or (event.field "eventType") (Json.or (event.field "event_type") (event.field "type")))
    (topicsOf event)

def eventIdOf (event : Json) : String :=
  (asString (event.field "id")).getD
    (text (txHashOf event) ++ ":" ++ numberText (ledgerOf event) ++ ":" ++ numberText (eventIndexOf event))

def parseEvent (event : Json) : Option OnChainEscrowEvent := do
  let contractId ← contractIdOf event
  let eventType ← eventTypeOf event
  pure {
    eventId := eventIdOf event
    eventType := eventType
    contractId := contractId
    txHash := text (txHashOf event)
    ledgerSequence := ledgerOf event
    eventIndex := eventIndexOf event
    engagementId := extractEngagementId event (topicsOf event) }

/-- A recognised event names its contract, and its ledger is the one the raw event gives. -/
theorem parseEvent_eq_some {event : Json} {parsed : OnChainEscrowEvent} (h : parseEvent event = some parsed) :
    contractIdOf event = some parsed.contractId ∧ parsed.ledgerSequence = ledgerOf event ∧ parsed.contractId ≠ "" := by
  unfold parseEvent at h
  cases hc : contractIdOf event with
  | none => simp [hc] at h
  | some c =>
    cases ht : eventTypeOf event with
    | none => simp [hc, ht] at h
    | some t =>
      simp only [hc, ht, Option.bind_eq_bind, Option.bind_some, Option.pure_def, Option.some.injEq] at h
      subst h
      refine ⟨rfl, rfl, ?_⟩
      unfold contractIdOf at hc
      simpa using (Option.filter_eq_some_iff.mp hc).2

end StellarEventParserService

end IKash
