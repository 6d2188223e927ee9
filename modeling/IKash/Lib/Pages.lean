import Mathlib.Data.List.NodupEquivFin
import Mathlib.Data.List.Sort
import Mathlib.Order.WellFounded
import Mathlib.Tactic.Common

/-!
# Pages of a sorted list

A reader fetches a list page by page, skipping what the pages before had, until a page is not full; meanwhile the list
may change.

- `mergeSort_cons_eq_orderedInsert`, `mergeSort_sublist`: a stable sort inserts one entry after the other, so sorting
  keeps sublists;
- `mem_page`: on which page an entry is;
- `walk_complete`: an entry that never moves forward is on a page.
-/

namespace Lib

variable {α β : Type}

section Stable

variable {le : α → α → Bool} (htrans : ∀ a b c, le a b → le b c → le a c) (htotal : ∀ a b, (le a b || le b a) = true)

include htrans htotal

theorem mergeSort_cons_eq_orderedInsert (a : α) (l : List α) :
    (a :: l).mergeSort le = (l.mergeSort le).orderedInsert (fun a b => le a b = true) a := by
  obtain ⟨l₁, l₂, hcons, hl, hbefore⟩ := List.mergeSort_cons htrans htotal a l
  have hsorted := List.pairwise_mergeSort htrans htotal (a :: l)
  rw [hcons] at hsorted
  have hafter : ∀ b ∈ l₂, le a b = true := (List.pairwise_cons.mp (List.pairwise_append.mp hsorted).2.1).1
  have htake : (l₁ ++ l₂).takeWhile (fun b => ¬ le a b = true) = l₁ := by
    rw [List.takeWhile_append_of_pos (by simpa using hbefore)]
    cases l₂ with
    | nil => exact List.append_nil _
    | cons b l₂ => rw [List.takeWhile_cons_of_neg (by simpa using hafter b List.mem_cons_self), List.append_nil]
  have hdrop : (l₁ ++ l₂).dropWhile (fun b => ¬ le a b = true) = l₂ := by
    have := List.takeWhile_append_dropWhile (p := fun b => ¬ le a b = true) (l := l₁ ++ l₂)
    rw [htake] at this
    exact List.append_cancel_left this
  rw [hcons, hl, List.orderedInsert_eq_take_drop, htake, hdrop]

/-- Sorting keeps sublists. -/
theorem mergeSort_sublist {xs ys : List α} (h : xs.Sublist ys) : (xs.mergeSort le).Sublist (ys.mergeSort le) := by
  have htransitive : IsTrans α fun a b => le a b = true := ⟨htrans⟩
  induction h with
  | slnil => exact List.Sublist.refl _
  | cons a _ ih =>
    rw [mergeSort_cons_eq_orderedInsert htrans htotal]
    exact ih.trans (List.sublist_orderedInsert _ _)
  | cons_cons a _ ih =>
    rw [mergeSort_cons_eq_orderedInsert htrans htotal, mergeSort_cons_eq_orderedInsert htrans htotal]
    exact List.Sublist.orderedInsert_sublist a ih (List.pairwise_mergeSort htrans htotal _)

end Stable

/-! ## Pages -/

def page (skip take : ℕ) (xs : List α) : List α := (xs.drop skip).take take

theorem map_page (f : α → β) (skip take : ℕ) (xs : List α) : (page skip take xs).map f = page skip take (xs.map f) := by
  rw [page, page, List.map_take, List.map_drop]

theorem mem_page {skip take i : ℕ} {xs : List α} {x : α} (hx : xs[i]? = some x) (hskip : skip ≤ i) (hi : i < skip + take) :
    x ∈ page skip take xs := by
  refine List.mem_of_getElem? (i := i - skip) ?_
  rw [page, List.getElem?_take_of_lt (by omega), List.getElem?_drop, Nat.add_sub_cancel' hskip]
  exact hx

/-- A page that is not full is the last one. -/
theorem length_lt_of_short {skip take : ℕ} {xs : List α} (h : (page skip take xs).length < take) :
    xs.length < skip + take := by
  rw [page, List.length_take, List.length_drop] at h
  omega

/-- An entry that stays in the list has at each fetch a place that is not before the one it had. -/
def Recedes (lists : ℕ → List α) (x : α) : Prop :=
  ∀ k i : ℕ, (lists k)[i]? = some x → ∃ j, i ≤ j ∧ (lists (k + 1))[j]? = some x

theorem recedes_of_sublist {lists : ℕ → List α} (h : ∀ k, (lists k).Sublist (lists (k + 1))) (x : α) :
    Recedes lists x := by
  intro k i hi
  obtain ⟨f, hf⟩ := List.sublist_iff_exists_orderEmbedding_getElem?_eq.mp (h k)
  exact ⟨f i, StrictMono.le_apply f.strictMono, by rw [← hf, hi]⟩

theorem walk_from {lists : ℕ → List α} {x : α} (h : Recedes lists x) {take n : ℕ}
    (hlast : (page (n * take) take (lists n)).length < take) (d : ℕ) :
    ∀ k i, k + d = n → k * take ≤ i → (lists k)[i]? = some x →
      ∃ k' ≤ n, x ∈ page (k' * take) take (lists k') := by
  induction d with
  | zero =>
    intro k i hk hi hx
    obtain rfl : k = n := hk
    have hlength := length_lt_of_short hlast
    have hlt : i < (lists k).length := (List.getElem?_eq_some_iff.mp hx).1
    exact ⟨k, le_rfl, mem_page hx hi (by omega)⟩
  | succ d ih =>
    intro k i hk hi hx
    by_cases hpage : i < k * take + take
    · exact ⟨k, by omega, mem_page hx hi hpage⟩
    · -- the entry is behind the page, and stays behind it
      obtain ⟨j, hij, hj⟩ := h k i hx
      refine ih (k + 1) j (by omega) ?_ hj
      rw [Nat.succ_mul]
      omega

/-- **Walks.** Who reads page after page until one is not full has seen every entry that was there and never moved
forward. -/
theorem walk_complete {lists : ℕ → List α} {x : α} (h : Recedes lists x) (hx : x ∈ lists 0) {take n : ℕ}
    (hlast : (page (n * take) take (lists n)).length < take) : ∃ k ≤ n, x ∈ page (k * take) take (lists k) := by
  obtain ⟨i, hi⟩ := List.mem_iff_getElem?.mp hx
  exact walk_from h hlast n 0 i (Nat.zero_add n) (by omega) hi

end Lib
