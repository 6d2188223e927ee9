import IKash.Lib.Machine
import Mathlib.Data.List.Basic
import Mathlib.Data.Int.Basic

/-!
# Fixed windows

A limiter that counts what it is asked for. The first request after a window has ended opens the next one; a window
grants `limit` requests. Times are given, and do not decrease.

- `granted_opened`: what is granted in a window;
- `granted_interval`: what is granted in an interval of a window's length, which meets at most two windows.
-/

namespace Lib.FixedWindow

/-- A window and the requests counted in it. -/
structure Tally where
  count : ℕ
  start : ℤ
deriving DecidableEq, Repr

/-- The window has not ended. -/
def Tally.Live (width now : ℤ) (a : Tally) : Prop := now - a.start < width

instance (width now : ℤ) (a : Tally) : Decidable (a.Live width now) := inferInstanceAs (Decidable (_ < _))

/-- The answer to a request, and the window that it is counted in. -/
def ask (width : ℤ) (limit : ℕ) (a : Option Tally) (now : ℤ) : Bool × Option Tally :=
  match a.filter fun x => x.Live width now with
  | none => (true, some ⟨1, now⟩)
  | some x => (decide (x.count + 1 ≤ limit), some ⟨x.count + 1, x.start⟩)

def limiter (width : ℤ) (limit : ℕ) : Machine (Option Tally) ℤ Bool := ⟨ask width limit⟩

/-- The times of the granted requests. -/
def granted (width : ℤ) (limit : ℕ) (a : Option Tally) (ts : List ℤ) : List ℤ :=
  (limiter width limit).answered (fun _ answer => answer) a ts

variable {width : ℤ} {limit : ℕ} {a : Option Tally} {x : Tally} {t : ℤ} {ts : List ℤ}

theorem ask_live (h : x.Live width t) :
    ask width limit (some x) t = (decide (x.count + 1 ≤ limit), some ⟨x.count + 1, x.start⟩) := by
  have hlive : (some x).filter (fun x => x.Live width t) = some x :=
    Option.filter_eq_some_iff.mpr ⟨rfl, decide_eq_true h⟩
  unfold ask
  rw [hlive]

theorem ask_ended (h : ∀ x, a = some x → ¬ x.Live width t) : ask width limit a t = (true, some ⟨1, t⟩) := by
  have hended : a.filter (fun x => x.Live width t) = none := by
    rw [Option.filter_eq_none_iff]
    intro x hx hlive
    exact h x hx (of_decide_eq_true hlive)
  unfold ask
  rw [hended]

theorem granted_cons (a : Option Tally) (t : ℤ) (ts : List ℤ) : granted width limit a (t :: ts) =
    if (ask width limit a t).1 then t :: granted width limit (ask width limit a t).2 ts
    else granted width limit (ask width limit a t).2 ts := Machine.answered_cons rfl

theorem granted_cons_live (h : x.Live width t) : granted width limit (some x) (t :: ts) =
    if x.count + 1 ≤ limit then t :: granted width limit (some ⟨x.count + 1, x.start⟩) ts
    else granted width limit (some ⟨x.count + 1, x.start⟩) ts := by
  rw [granted_cons, ask_live h]
  simp only [decide_eq_true_eq]

theorem granted_cons_ended (h : ∀ x, a = some x → ¬ x.Live width t) :
    granted width limit a (t :: ts) = t :: granted width limit (some ⟨1, t⟩) ts := by
  rw [granted_cons, ask_ended h]
  rfl

/-- After the window nothing is granted in it. -/
theorem countP_granted_late {e : ℤ} (h : ∀ t ∈ ts, e < t) (a : Option Tally) :
    (granted width limit a ts).countP (fun t => t ≤ e) = 0 := by
  rw [List.countP_eq_zero]
  intro t ht hle
  have := h t (Machine.answered_subset _ a ts ht)
  simp only [decide_eq_true_eq] at hle
  omega

/-- What a window still grants up to a time before its end. -/
theorem granted_in_window {e : ℤ} (hsorted : ts.Pairwise (· ≤ ·)) (x : Tally) (he : e < x.start + width) :
    (granted width limit (some x) ts).countP (fun t => t ≤ e) ≤ limit - x.count := by
  induction ts generalizing x with
  | nil => exact Nat.zero_le _
  | cons t ts ih =>
    obtain ⟨hlater, hsorted⟩ := List.pairwise_cons.mp hsorted
    by_cases hlive : x.Live width t
    · have hrest := ih hsorted ⟨x.count + 1, x.start⟩ he
      rw [granted_cons_live hlive]
      dsimp only at hrest
      split
      · rw [List.countP_cons]
        split <;> omega
      · omega
    · have hlate : ∀ t' ∈ t :: ts, e < t' := by
        unfold Tally.Live at hlive
        intro t' ht'
        rcases List.mem_cons.mp ht' with rfl | ht'
        · omega
        · have := hlater t' ht'
          omega
      rw [countP_granted_late hlate]
      exact Nat.zero_le _

/-- What a window and the next one still grant up to a time before the end of both. -/
theorem granted_in_two {e : ℤ} (hlimit : 0 < limit) (hsorted : ts.Pairwise (· ≤ ·)) (x : Tally)
    (he : e < x.start + width + width) :
    (granted width limit (some x) ts).countP (fun t => t ≤ e) ≤ limit - x.count + limit := by
  induction ts generalizing x with
  | nil => exact Nat.zero_le _
  | cons t ts ih =>
    obtain ⟨hlater, hsorted⟩ := List.pairwise_cons.mp hsorted
    by_cases hlive : x.Live width t
    · have hrest := ih hsorted ⟨x.count + 1, x.start⟩ he
      rw [granted_cons_live hlive]
      dsimp only at hrest
      split
      · rw [List.countP_cons]
        split <;> omega
      · omega
    · -- the next window opens at `t`
      have hended : ∀ y, some x = some y → ¬ y.Live width t := by
        rintro y ⟨⟩
        exact hlive
      unfold Tally.Live at hlive
      have hrest := @granted_in_window width limit ts e hsorted ⟨1, t⟩ (by dsimp only; omega)
      dsimp only at hrest
      rw [granted_cons_ended hended, List.countP_cons]
      split <;> omega

/-- **A window** grants at most the limit: `t` is the request that opens it. -/
theorem granted_opened (hlimit : 0 < limit) (hsorted : ts.Pairwise (· ≤ ·)) (h : ∀ x, a = some x → ¬ x.Live width t) :
    (granted width limit a (t :: ts)).countP (fun t' => t' < t + width) ≤ limit := by
  have hrest := @granted_in_window width limit ts (t + width - 1) hsorted ⟨1, t⟩ (by dsimp only; omega)
  have hsame : (fun t' : ℤ => decide (t' ≤ t + width - 1)) = fun t' => decide (t' < t + width) := by
    funext t'
    exact decide_eq_decide.mpr Int.le_sub_one_iff
  rw [hsame] at hrest
  dsimp only at hrest
  rw [granted_cons_ended h, List.countP_cons]
  split <;> omega

/-- Up to a window's length after its first request a run meets at most two windows. -/
theorem granted_upto (hlimit : 0 < limit) (hwidth : 0 < width) (hsorted : (t :: ts).Pairwise (· ≤ ·))
    (a : Option Tally) : (granted width limit a (t :: ts)).countP (fun t' => t' ≤ t + width) ≤ 2 * limit := by
  by_cases hlive : ∃ x, a = some x ∧ x.Live width t
  · obtain ⟨x, rfl, hlive⟩ := hlive
    unfold Tally.Live at hlive
    have := granted_in_two hlimit hsorted x (show t + width < x.start + width + width by omega)
    omega
  · have hended : ∀ x, a = some x → ¬ x.Live width t := fun x hx hx' => hlive ⟨x, hx, hx'⟩
    have := @granted_in_two width limit ts (t + width) hlimit (List.pairwise_cons.mp hsorted).2 ⟨1, t⟩
      (by dsimp only; omega)
    dsimp only at this
    rw [granted_cons_ended hended, List.countP_cons]
    split <;> omega

/-- **An interval** of a window's length meets at most two windows. -/
theorem granted_interval (hlimit : 0 < limit) (hwidth : 0 < width) (hsorted : ts.Pairwise (· ≤ ·)) (b : ℤ)
    (a : Option Tally) : (granted width limit a ts).countP (fun t => b ≤ t ∧ t ≤ b + width) ≤ 2 * limit := by
  induction ts generalizing a with
  | nil => exact Nat.zero_le _
  | cons t ts ih =>
    by_cases hb : b ≤ t
    · refine le_trans (List.countP_mono_left fun t' _ h => ?_) (granted_upto hlimit hwidth hsorted a)
      simp only [decide_eq_true_eq] at h ⊢
      omega
    · -- a request before the interval
      have hskip : ∀ l : List ℤ, (t :: l).countP (fun t => b ≤ t ∧ t ≤ b + width) =
          l.countP (fun t => b ≤ t ∧ t ≤ b + width) := fun l => by
        rw [List.countP_cons, if_neg (by simp [hb]), Nat.add_zero]
      have hrest := ih (List.pairwise_cons.mp hsorted).2
      rw [granted_cons]
      split
      · rw [hskip]
        exact hrest _
      · exact hrest _

end Lib.FixedWindow
