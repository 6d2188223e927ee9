import Mathlib.Data.List.Basic
import Mathlib.Tactic.Common

/-!
# Rooms

Members join and leave rooms; a member that is gone has left all of them. What is sent to a room reaches its members.

- `has_after`: a member is in a room exactly if it has joined the room and stayed (`Stays`);
- `Stays.of_joins`: a member that stays in one of several rooms is in the only one of them that anybody joins.
-/

namespace Lib

inductive RoomEvent (ι κ : Type) where
  | joined (i : ι) (room : κ)
  | left (i : ι) (room : κ)
  | gone (i : ι)
deriving DecidableEq, Repr

/-- Who is in which room. -/
structure Rooms (ι κ : Type) where
  pairs : List (ι × κ)

namespace Rooms

variable {ι κ : Type}

def empty : Rooms ι κ := ⟨[]⟩

def Has (r : Rooms ι κ) (i : ι) (room : κ) : Prop := (i, room) ∈ r.pairs

variable {r : Rooms ι κ} {i j : ι} {room k : κ} {events : List (RoomEvent ι κ)} {P : κ → Bool}

@[simp] theorem not_has_empty : ¬ (empty : Rooms ι κ).Has i room := List.not_mem_nil

def members [DecidableEq κ] (r : Rooms ι κ) (room : κ) : List ι := (r.pairs.filter fun p => p.2 = room).map Prod.fst

@[simp] theorem mem_members [DecidableEq κ] : i ∈ r.members room ↔ r.Has i room := by
  simp only [members, Has, List.mem_map, List.mem_filter, decide_eq_true_eq]
  constructor
  · rintro ⟨⟨a, b⟩, ⟨hmem, rfl⟩, rfl⟩
    exact hmem
  · intro h
    exact ⟨(i, room), ⟨h, rfl⟩, rfl⟩

variable [DecidableEq ι] [DecidableEq κ]

instance : Decidable (r.Has i room) := inferInstanceAs (Decidable (_ ∈ _))

def roomsOf (r : Rooms ι κ) (i : ι) : List κ := (r.pairs.filter fun p => p.1 = i).map Prod.snd

/-- Joining twice is joining once. -/
def apply (r : Rooms ι κ) : RoomEvent ι κ → Rooms ι κ
  | .joined i room => if r.Has i room then r else ⟨r.pairs ++ [(i, room)]⟩
  | .left i room => ⟨r.pairs.filter fun p => p ≠ (i, room)⟩
  | .gone i => ⟨r.pairs.filter fun p => p.1 ≠ i⟩

def after (r : Rooms ι κ) (events : List (RoomEvent ι κ)) : Rooms ι κ := events.foldl apply r

theorem has_joined : (r.apply (.joined j k)).Has i room ↔ r.Has i room ∨ i = j ∧ room = k := by
  rw [apply]
  split
  next h =>
    constructor
    · exact Or.inl
    · rintro (hr | ⟨rfl, rfl⟩)
      · exact hr
      · exact h
  next => simp [Has]

theorem has_left : (r.apply (.left j k)).Has i room ↔ r.Has i room ∧ ¬(i = j ∧ room = k) := by
  simp only [apply, Has, List.mem_filter, decide_eq_true_eq, ne_eq, Prod.mk.injEq]

theorem has_gone : (r.apply (.gone j)).Has i room ↔ r.Has i room ∧ i ≠ j := by
  simp [apply, Has]

/-! ## Staying -/

/-- Whether the member is in one of the rooms after the event, if `b` says whether it was before. -/
def staying (i : ι) (P : κ → Bool) (b : Bool) : RoomEvent ι κ → Bool
  | .joined j room => if j = i ∧ P room then true else b
  | .left j room => if j = i ∧ P room then false else b
  | .gone j => if j = i then false else b

/-- The member has joined a room that satisfies `P`, and has since neither left such a room nor gone. -/
def Stays (i : ι) (P : κ → Bool) (events : List (RoomEvent ι κ)) : Prop := events.foldl (staying i P) false = true

instance : Decidable (Stays i P events) := inferInstanceAs (Decidable (_ = true))

theorem has_apply_iff {b : Bool} (h : r.Has i room ↔ b = true) (e : RoomEvent ι κ) :
    (r.apply e).Has i room ↔ staying i (fun k => k = room) b e = true := by
  cases e with
  | joined j k =>
    rw [has_joined, staying, h]
    split
    next hs => simp only [decide_eq_true_eq] at hs; simp [hs.1, hs.2]
    next hs => simp only [decide_eq_true_eq, not_and] at hs; grind
  | left j k =>
    rw [has_left, staying, h]
    split
    next hs => simp only [decide_eq_true_eq] at hs; simp [hs.1, hs.2]
    next hs => simp only [decide_eq_true_eq, not_and] at hs; grind
  | gone j =>
    rw [has_gone, staying, h]
    split
    next hs => simp [hs]
    next hs => grind

/-- A member is in the rooms that it has joined and not left. -/
theorem has_after : (empty.after events).Has i room ↔ Stays i (fun k => k = room) events := by
  have general : ∀ (r : Rooms ι κ) (b : Bool), (r.Has i room ↔ b = true) →
      ((r.after events).Has i room ↔ events.foldl (staying i fun k => k = room) b = true) := by
    induction events with
    | nil =>
      intro r b h
      exact h
    | cons e events ih =>
      intro r b h
      exact ih _ _ (has_apply_iff h e)
  exact general empty false (by simp)

/-- If `k` is the only one of the rooms that the member joins, it is the one in which it stays. -/
theorem Stays.of_joins (hk : P k = true) (hjoins : ∀ room, .joined i room ∈ events → P room = true → room = k)
    (h : Stays i P events) : Stays i (fun room => room = k) events := by
  have general : ∀ b c : Bool, (b = true → c = true) → events.foldl (staying i P) b = true →
      events.foldl (staying i fun room => room = k) c = true := by
    clear h
    induction events with
    | nil =>
      intro b c hbc
      exact hbc
    | cons e events ih =>
      intro b c hbc
      refine ih (fun room hroom => hjoins room (List.mem_cons_of_mem _ hroom)) _ _ ?_
      cases e with
      | joined j room =>
        have hsame := hjoins room
        simp only [staying, decide_eq_true_eq]
        grind
      | left j room =>
        simp only [staying, decide_eq_true_eq]
        grind
      | gone j =>
        simp only [staying]
        grind
  exact general false false id h

end Rooms

end Lib
