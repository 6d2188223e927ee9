import IKash.Errors
import IKash.Schema

/-!
# The life of an escrow

The status tables of `EscrowService` and `StellarListenerService`: which status a sync action or an on-chain event may
start from (`validateStatusTransition`), what it leads to (`EscrowAction.status`, `mapEventToStatuses`) and when an
event is skipped (`isTerminalOrAlreadyProcessed`).

Over them, the histories a contract can have (`Legal`) and the statuses a row can show while the history is still
being delivered (`Tracks`): a sync call may run ahead of the events, and delivery catches up (`Tracks.deliver`).
-/

namespace IKash

/-! ## Tables of the source -/

inductive EscrowAction where
  | initializeEscrow | fund | fiatSent | release
deriving DecidableEq, Repr

def EscrowAction.text : EscrowAction → String
  | .initializeEscrow => "initialize"
  | .fund => "fund"
  | .fiatSent => "fiat_sent"
  | .release => "release"

/-- The status that `syncTransaction` writes for an action. -/
def EscrowAction.status : EscrowAction → EscrowStatus
  | .initializeEscrow => .initialized
  | .fund => .funded
  | .fiatSent => .fiatSent
  | .release => .released

/-- `OnChainEscrowEventType` -/
inductive EventType where
  | escrowCreated | escrowFunded | escrowReleased | escrowRefunded | escrowCancelled | escrowDisputed
deriving DecidableEq, Repr

def EventType.text : EventType → String
  | .escrowCreated => "ESCROW_CREATED"
  | .escrowFunded => "ESCROW_FUNDED"
  | .escrowReleased => "ESCROW_RELEASED"
  | .escrowRefunded => "ESCROW_REFUNDED"
  | .escrowCancelled => "ESCROW_CANCELLED"
  | .escrowDisputed => "ESCROW_DISPUTED"

/-- What asks for a transition: an action of a sync call, or an event. -/
inductive Trigger where
  | action (a : EscrowAction)
  | event (e : EventType)
deriving DecidableEq, Repr

def Trigger.text : Trigger → String
  | .action a => a.text
  | .event e => e.text

structure StatusMap where
  escrowStatus : EscrowStatus
  orderStatus : OrderStatus
deriving DecidableEq, Repr

/-- The statuses an event gives the escrow and its order. -/
def mapEventToStatuses : EventType → StatusMap
  | .escrowCreated => ⟨.initialized, .created⟩
  | .escrowFunded => ⟨.funded, .locked⟩
  | .escrowReleased => ⟨.released, .released⟩
  | .escrowRefunded => ⟨.resolved, .cancelled⟩
  | .escrowCancelled => ⟨.resolved, .cancelled⟩
  | .escrowDisputed => ⟨.disputed, .disputed⟩

def Trigger.status : Trigger → EscrowStatus
  | .action a => a.status
  | .event e => (mapEventToStatuses e).escrowStatus

namespace EscrowService

def validTransitions : Trigger → List EscrowStatus
  | .action .initializeEscrow => [.pending]
  | .action .fund => [.initialized]
  | .action .fiatSent => [.funded]
  | .action .release => [.funded, .fiatSent]
  | .event .escrowCreated => [.pending]
  | .event .escrowFunded => [.initialized]
  | .event .escrowReleased => [.funded, .fiatSent]
  | .event .escrowRefunded => [.funded, .fiatSent, .disputed]
  | .event .escrowCancelled => [.pending, .initialized]
  | .event .escrowDisputed => [.funded, .fiatSent]

def validateStatusTransition (currentStatus : EscrowStatus) (t : Trigger) : Except Thrown Unit :=
  if currentStatus ∈ validTransitions t then .ok ()
  else .error (.app .escrowInvalidStatus
    ("Invalid state transition: cannot \"" ++ t.text ++ "\" from status \"" ++ currentStatus.text ++ "\". " ++
      "Expected one of: [" ++ Json.join ", " ((validTransitions t).map EscrowStatus.text) ++ "]"))

def isTerminalOrAlreadyProcessed (currentStatus : EscrowStatus) : EventType → Bool
  | .escrowCreated => currentStatus ≠ .pending
  | .escrowFunded => currentStatus ∈ [.funded, .fiatSent, .released, .resolved]
  | .escrowReleased => currentStatus ∈ [.released, .resolved]
  | .escrowRefunded => currentStatus ∈ [.resolved]
  | .escrowCancelled => currentStatus ∈ [.resolved, .released]
  | .escrowDisputed => currentStatus = .disputed

theorem validateStatusTransition_eq_ok {s : EscrowStatus} {t : Trigger} {u : Unit} :
    validateStatusTransition s t = .ok u ↔ s ∈ validTransitions t := by
  unfold validateStatusTransition
  split <;> simp_all

/-- No transition starts from a status in which the funds have left the contract. -/
theorem validTransitions_not_final {t : Trigger} {s : EscrowStatus} (h : s ∈ validTransitions t) :
    s ≠ .released ∧ s ≠ .resolved := by
  rcases t with a | e
  · cases a <;> revert h <;> cases s <;> decide
  · cases e <;> revert h <;> cases s <;> decide

end EscrowService

open EscrowService

/-! ## Histories -/

/-- The events a contract in the status can still emit, in order. -/
def Legal : EscrowStatus → List EventType → Prop
  | _, [] => True
  | s, e :: es => s ∈ validTransitions (.event e) ∧ Legal (mapEventToStatuses e).escrowStatus es

instance decidableLegal : ∀ s es, Decidable (Legal s es)
  | _, [] => isTrue trivial
  | _, _ :: es => @instDecidableAnd _ _ _ (decidableLegal _ es)

/-- Funding comes only from `pending` or `initialized`. -/
theorem Legal.funded_mem : ∀ {s : EscrowStatus} {es : List EventType}, Legal s es → .escrowFunded ∈ es →
    s = .pending ∨ s = .initialized
  | s, e :: es, h, hm => by
    rcases List.mem_cons.mp hm with rfl | hm
    · exact Or.inr (List.mem_singleton.mp h.1)
    · have := h.2.funded_mem hm
      have hs := h.1
      cases e <;> simp_all [mapEventToStatuses, validTransitions]

/-- A release comes only before the funds have left the contract and before a dispute. -/
theorem Legal.released_mem : ∀ {s : EscrowStatus} {es : List EventType}, Legal s es → .escrowReleased ∈ es →
    s = .pending ∨ s = .initialized ∨ s = .funded ∨ s = .fiatSent
  | s, e :: es, h, hm => by
    rcases List.mem_cons.mp hm with rfl | hm
    · have := h.1
      simp_all [validTransitions]
    · have := h.2.released_mem hm
      have hs := h.1
      cases e <;> simp_all [mapEventToStatuses, validTransitions]

/-- An event that may start from a status is not skipped in it. -/
theorem not_terminal_of_valid {s : EscrowStatus} {e : EventType} (h : s ∈ validTransitions (.event e)) :
    isTerminalOrAlreadyProcessed s e = false := by
  cases e <;> revert h <;> cases s <;> decide

/-! ## A row that follows a history

`hist` is the whole history of a contract, `rest` the part that is not delivered yet, `c` the status before it, and
`d` the status the row shows. -/

structure Tracks (hist : List EventType) (c : EscrowStatus) (rest : List EventType) (d : EscrowStatus) : Prop where
  legal : Legal c rest
  ahead : d = c ∨ c = .pending ∧ d = .initialized ∨ .escrowFunded ∈ rest ∧ d = .funded ∨
    .escrowReleased ∈ rest ∧ d = .released
  funding : .escrowFunded ∈ hist → .escrowFunded ∈ rest ∨ c ≠ .pending ∧ c ≠ .initialized
  releasing : .escrowReleased ∈ hist → .escrowReleased ∈ rest ∨ c = .released

/-- The actions whose transaction is part of the history. -/
def ActionOf (hist : List EventType) : EscrowAction → Prop
  | .fund => .escrowFunded ∈ hist
  | .release => .escrowReleased ∈ hist
  | _ => False

instance (hist : List EventType) (a : EscrowAction) : Decidable (ActionOf hist a) := by
  cases a <;> unfold ActionOf <;> infer_instance

theorem Tracks.start {hist : List EventType} {d : EscrowStatus} (h : Legal .pending hist)
    (hd : d = .pending ∨ d = .initialized) : Tracks hist .pending hist d where
  legal := h
  ahead := hd.imp_right fun hd => Or.inl ⟨rfl, hd⟩
  funding := Or.inl
  releasing := Or.inl

section Tracks

variable {hist rest : List EventType} {c d : EscrowStatus} {e : EventType}

/-- A row that is ahead of an event skips it, a row that is not may take it. -/
theorem Tracks.deliverable (h : Tracks hist c (e :: rest) d) :
    isTerminalOrAlreadyProcessed d e = true ∨ d ∈ validTransitions (.event e) := by
  have hc := h.legal.1
  rcases h.ahead with rfl | ⟨rfl, rfl⟩ | ⟨hm, rfl⟩ | ⟨hm, rfl⟩
  · exact Or.inr hc
  · cases e <;> revert hc <;> decide
  · rcases List.mem_cons.mp hm with rfl | hm
    · exact Or.inl rfl
    · have hnext := h.legal.2.funded_mem hm
      cases e <;> revert hnext <;> decide
  · rcases List.mem_cons.mp hm with rfl | hm
    · exact Or.inl rfl
    · have hnext := h.legal.2.released_mem hm
      cases e <;> revert hnext <;> decide

theorem Tracks.deliver (h : Tracks hist c (e :: rest) d) :
    Tracks hist (mapEventToStatuses e).escrowStatus rest
      (if isTerminalOrAlreadyProcessed d e then d else (mapEventToStatuses e).escrowStatus) where
  legal := h.legal.2
  ahead := by
    split
    · rename_i hterm
      rcases h.ahead with rfl | ⟨rfl, rfl⟩ | ⟨hm, rfl⟩ | ⟨hm, rfl⟩
      · rw [not_terminal_of_valid h.legal.1] at hterm
        cases hterm
      · have hc := h.legal.1
        left
        cases e <;> revert hc hterm <;> decide
      · rcases List.mem_cons.mp hm with rfl | hm
        · exact Or.inl rfl
        · exact Or.inr (Or.inr (Or.inl ⟨hm, rfl⟩))
      · rcases List.mem_cons.mp hm with rfl | hm
        · exact Or.inl rfl
        · exact Or.inr (Or.inr (Or.inr ⟨hm, rfl⟩))
    · exact Or.inl rfl
  funding := by
    intro hf
    have hc := h.legal.1
    rcases h.funding hf with hm | ⟨h₁, h₂⟩
    · rcases List.mem_cons.mp hm with rfl | hm
      · exact Or.inr ⟨by decide, by decide⟩
      · exact Or.inl hm
    · right
      cases e <;> revert hc h₁ h₂ <;> cases c <;> decide
  releasing := by
    intro hr
    rcases h.releasing hr with hm | rfl
    · rcases List.mem_cons.mp hm with rfl | hm
      · exact Or.inr rfl
      · exact Or.inl hm
    · exact absurd rfl (validTransitions_not_final h.legal.1).1

/-- A sync call for a transaction of the history keeps the row on the history. -/
theorem Tracks.sync (h : Tracks hist c rest d) {a : EscrowAction} (ha : ActionOf hist a)
    (hd : d ∈ validTransitions (.action a)) : Tracks hist c rest a.status := by
  refine ⟨h.legal, ?_, h.funding, h.releasing⟩
  cases a with
  | fund =>
    obtain rfl := List.mem_singleton.mp hd
    have hc : c = .pending ∨ c = .initialized := by
      rcases h.ahead with rfl | ⟨rfl, -⟩ | ⟨-, hd⟩ | ⟨-, hd⟩
      · exact Or.inr rfl
      · exact Or.inl rfl
      · cases hd
      · cases hd
    rcases h.funding ha with hm | ⟨h₁, h₂⟩
    · exact Or.inr (Or.inr (Or.inl ⟨hm, rfl⟩))
    · exact absurd hc (not_or.mpr ⟨h₁, h₂⟩)
  | release =>
    rcases h.releasing ha with hm | rfl
    · exact Or.inr (Or.inr (Or.inr ⟨hm, rfl⟩))
    · have hfinal := validTransitions_not_final hd
      rcases h.ahead with rfl | ⟨hc, -⟩ | ⟨hm, -⟩ | ⟨-, rfl⟩
      · exact absurd rfl hfinal.1
      · cases hc
      · rcases h.legal.funded_mem hm with hc | hc <;> cases hc
      · exact absurd rfl hfinal.1
  | initializeEscrow => cases ha
  | fiatSent => cases ha

end Tracks

end IKash
