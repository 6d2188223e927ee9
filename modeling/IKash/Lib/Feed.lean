import Mathlib.Data.Int.Order.Basic
import Mathlib.Data.List.Basic
import Mathlib.Tactic.Common

/-!
# Feeds read in pages

A feed is a list of items in the order of their positions; several items may share one. A reader asks for the items
from a position on, sees those up to the latest position, and gets the first few of them (`page`).

- `mem_page`: a page misses no item below a bound when at most a page of the items asked for are below it.
-/

namespace Lib

/-- Items in the order of their positions. -/
structure Feed (α : Type) (pos : α → ℤ) where
  items : List α
  sorted : items.Pairwise (fun a b => pos a ≤ pos b)

namespace Feed

variable {α : Type} {pos : α → ℤ} (F : Feed α pos) (start latest : ℤ) (keep : α → Bool)

/-- The items asked for: from `start` on, up to `latest`, of the kind wanted. -/
def requested : List α := F.items.filter fun x => start ≤ pos x ∧ pos x ≤ latest ∧ keep x

def page (limit : ℕ) : List α := (F.requested start latest keep).take limit

variable {F start latest keep} {limit : ℕ} {bound : ℤ} {x : α}

theorem mem_requested : x ∈ F.requested start latest keep ↔
    x ∈ F.items ∧ start ≤ pos x ∧ pos x ≤ latest ∧ keep x = true := by
  simp [requested]

/-- In a sorted list the items below a bound come first. -/
theorem mem_take_of_sorted : ∀ {l : List α} {n : ℕ}, l.Pairwise (fun a b => pos a ≤ pos b) →
    (l.filter fun y => pos y < bound).length ≤ n → x ∈ l → pos x < bound → x ∈ l.take n
  | y :: l, n, hsorted, hcount, hx, hlt => by
    rw [List.pairwise_cons] at hsorted
    have hy : pos y < bound := by
      rcases List.mem_cons.mp hx with rfl | hx
      · exact hlt
      · have := hsorted.1 x hx
        omega
    rw [List.filter_cons_of_pos (by simpa using hy), List.length_cons] at hcount
    obtain ⟨n, rfl⟩ : ∃ m, n = m + 1 := ⟨n - 1, by omega⟩
    rw [List.take_succ_cons]
    rcases List.mem_cons.mp hx with rfl | hx
    · exact List.mem_cons_self
    · exact List.mem_cons_of_mem _ (mem_take_of_sorted hsorted.2 (by omega) hx hlt)

/-- **No item is missed** below a bound that at most a page of the items asked for are below. -/
theorem mem_page (hcount : ((F.requested start latest keep).filter fun y => pos y < bound).length ≤ limit)
    (hx : x ∈ F.requested start latest keep) (hlt : pos x < bound) : x ∈ F.page start latest keep limit :=
  mem_take_of_sorted (F.sorted.sublist List.filter_sublist) hcount hx hlt

end Feed

end Lib
