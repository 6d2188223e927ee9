import Mathlib.Algebra.Order.Ring.Int
import Mathlib.Data.List.Infix
import Mathlib.Data.List.Pairwise
import Mathlib.Data.List.Sort
import Mathlib.Order.Basic
import Mathlib.Tactic.Common

/-!
# Calendar days

A `Day` is a day of the Gregorian calendar: a year, a month and a day of that month. Days are ordered by the calendar, and
the day after another is the next one in that order.

- `lt_next`, `next_le_of_lt`: no day lies between a day and the next one; `prev_lt`, `le_prev_of_lt` the same before it;
- `daysUpTo`: the days from one to another, one after the other (`pairwise_daysUpTo`, `mem_daysUpTo`);
- `length_daysUpTo_back`: with the `n` days before a day these are `n + 1`.
-/

namespace Lib

/-- A leap year. -/
def isLeap (year : ℤ) : Bool := year % 4 = 0 && (year % 100 ≠ 0 || year % 400 = 0)

/-- The length of a month. -/
def daysIn (year : ℤ) : ℕ → ℕ
  | 2 => if isLeap year then 29 else 28
  | 4 => 30
  | 6 => 30
  | 9 => 30
  | 11 => 30
  | _ => 31

theorem daysIn_bounds (year : ℤ) (month : ℕ) : 28 ≤ daysIn year month ∧ daysIn year month ≤ 31 := by
  unfold daysIn
  split
  · split <;> decide
  all_goals decide

/-- A day of the calendar. -/
structure Day where
  year : ℤ
  month : ℕ
  day : ℕ
  month_pos : 1 ≤ month
  month_le : month ≤ 12
  day_pos : 1 ≤ day
  day_le : day ≤ daysIn year month

namespace Day

variable {a b c d : Day}

theorem day_le_31 (d : Day) : d.day ≤ 31 := d.day_le.trans (daysIn_bounds d.year d.month).2

/-! ## The order -/

/-- A number that grows with the year, then with the month, then with the day. -/
def rank (d : Day) : ℤ := d.year * 372 + d.month * 31 + d.day

theorem rank_injective : Function.Injective rank := by
  intro a b h
  have ha := a.day_le_31
  have hb := b.day_le_31
  obtain ⟨y, m, d, hm, hm', hd, hd'⟩ := a
  obtain ⟨y', m', d', hn, hn', he, he'⟩ := b
  simp only [rank] at h ha hb
  obtain ⟨rfl, rfl, rfl⟩ : y = y' ∧ m = m' ∧ d = d' := by omega
  rfl

instance : LinearOrder Day := LinearOrder.lift' rank rank_injective

theorem lt_iff_rank : a < b ↔ a.rank < b.rank := Iff.rfl

theorem le_iff_rank : a ≤ b ↔ a.rank ≤ b.rank := Iff.rfl

/-- The order of the calendar. -/
theorem lt_iff : a < b ↔ a.year < b.year ∨ a.year = b.year ∧ (a.month < b.month ∨ a.month = b.month ∧ a.day < b.day) := by
  have ha := a.day_le_31
  have hb := b.day_le_31
  have ham := a.month_le
  have hbm := b.month_le
  have ham' := a.month_pos
  have hbm' := b.month_pos
  have ha' := a.day_pos
  have hb' := b.day_pos
  rw [lt_iff_rank, rank, rank]
  omega

theorem year_le_of_le (h : a ≤ b) : a.year ≤ b.year := by
  by_contra hlt
  exact absurd h (not_le_of_gt (lt_iff.mpr (Or.inl (not_le.mp hlt))))

/-! ## Neighbours -/

/-- The day after. -/
def next (d : Day) : Day :=
  if h : d.day < daysIn d.year d.month then ⟨d.year, d.month, d.day + 1, d.month_pos, d.month_le, Nat.succ_pos _, h⟩
  else if h : d.month < 12 then
    ⟨d.year, d.month + 1, 1, Nat.succ_pos _, h, le_rfl, le_trans (by decide) (daysIn_bounds d.year (d.month + 1)).1⟩
  else ⟨d.year + 1, 1, 1, le_rfl, by decide, le_rfl, le_trans (by decide) (daysIn_bounds (d.year + 1) 1).1⟩

/-- The day before. -/
def prev (d : Day) : Day :=
  if h : 1 < d.day then
    ⟨d.year, d.month, d.day - 1, d.month_pos, d.month_le, by omega, (Nat.sub_le _ _).trans d.day_le⟩
  else if h : 1 < d.month then
    ⟨d.year, d.month - 1, daysIn d.year (d.month - 1), by omega, (Nat.sub_le _ _).trans d.month_le,
      le_trans (by decide) (daysIn_bounds d.year (d.month - 1)).1, le_rfl⟩
  else ⟨d.year - 1, 12, 31, by decide, le_rfl, by decide, le_rfl⟩

theorem lt_next (d : Day) : d < d.next := by
  have hday := d.day_le_31
  have hmonth := d.month_le
  rw [lt_iff, next]
  split_ifs
  · exact Or.inr ⟨rfl, Or.inr ⟨rfl, Nat.lt_succ_self _⟩⟩
  · exact Or.inr ⟨rfl, Or.inl (Nat.lt_succ_self _)⟩
  · exact Or.inl (lt_add_one _)

/-- A later day of the same month is at most its last one. -/
theorem day_le_of_same (a b : Day) : a.year = b.year → a.month = b.month → b.day ≤ daysIn a.year a.month := by
  intro hyear hmonth
  rw [hyear, hmonth]
  exact b.day_le

/-- No day lies between a day and the next one. -/
theorem next_le_of_lt (h : a < b) : a.next ≤ b := by
  have hsame := day_le_of_same a b
  have hday := b.day_pos
  have hmonth := b.month_pos
  have hmonth' := b.month_le
  rw [← not_lt, lt_iff, next]
  rw [lt_iff] at h
  split_ifs
  · dsimp only
    omega
  · dsimp only
    omega
  · dsimp only
    omega

theorem prev_lt (d : Day) : d.prev < d := by
  have hday := d.day_pos
  rw [lt_iff, prev]
  split_ifs
  · exact Or.inr ⟨rfl, Or.inr ⟨rfl, by dsimp only; omega⟩⟩
  · exact Or.inr ⟨rfl, Or.inl (by dsimp only; omega)⟩
  · exact Or.inl (sub_one_lt _)

/-- No day lies between a day and the one before. -/
theorem le_prev_of_lt (h : a < b) : a ≤ b.prev := by
  have hsame := day_le_of_same b a
  have hday := a.day_pos
  have hday' := a.day_le_31
  have hmonth := a.month_pos
  have hmonth' := a.month_le
  rw [← not_lt, lt_iff, prev]
  rw [lt_iff] at h
  split_ifs with hd hm
  · dsimp only
    omega
  · have hlast : a.year = b.year → a.month = b.month - 1 → a.day ≤ daysIn b.year (b.month - 1) := by
      intro hyear hmonth
      rw [← hyear, ← hmonth]
      exact a.day_le
    dsimp only
    omega
  · dsimp only
    omega

theorem next_prev (d : Day) : d.prev.next = d := le_antisymm (next_le_of_lt d.prev_lt) (by
  by_contra hlt
  exact absurd (le_prev_of_lt (not_le.mp hlt)) (not_le_of_gt d.prev.lt_next))

/-- The day `n` days before. -/
def back (n : ℕ) (d : Day) : Day := prev^[n] d

theorem back_le (n : ℕ) (d : Day) : d.back n ≤ d := by
  induction n generalizing d with
  | zero => exact le_rfl
  | succ n ih => exact (ih d.prev).trans d.prev_lt.le

/-! ## The days from one to another -/

/-- At most `n` days, from one to another. -/
def daysFrom : ℕ → Day → Day → List Day
  | 0, _, _ => []
  | n + 1, a, b => if a ≤ b then a :: daysFrom n a.next b else []

/-- More days than there are from one to another. -/
def span (a b : Day) : ℕ := (b.rank + 1 - a.rank).toNat

/-- The days from one to another, both included. -/
def daysUpTo (a b : Day) : List Day := daysFrom (span a b) a b

/-- The first day takes one of the span. -/
theorem span_next_lt (h : a ≤ b) : span a.next b < span a b := by
  have hnext := lt_iff_rank.mp a.lt_next
  have hle := le_iff_rank.mp h
  unfold span
  omega

theorem mem_daysFrom {n : ℕ} (hn : span a b ≤ n) : d ∈ daysFrom n a b ↔ a ≤ d ∧ d ≤ b := by
  induction n generalizing a with
  | zero =>
    refine iff_of_false List.not_mem_nil fun ⟨had, hdb⟩ => ?_
    have hle := le_iff_rank.mp (had.trans hdb)
    unfold span at hn
    omega
  | succ n ih =>
    unfold daysFrom
    split
    · rename_i hab
      have hspan := span_next_lt hab
      rw [List.mem_cons, ih (by omega)]
      constructor
      · rintro (rfl | ⟨had, hdb⟩)
        · exact ⟨le_rfl, hab⟩
        · exact ⟨a.lt_next.le.trans had, hdb⟩
      · rintro ⟨had, hdb⟩
        rcases had.eq_or_lt with rfl | hlt
        · exact Or.inl rfl
        · exact Or.inr ⟨next_le_of_lt hlt, hdb⟩
    · rename_i hab
      exact iff_of_false List.not_mem_nil fun ⟨had, hdb⟩ => hab (had.trans hdb)

theorem le_of_mem_daysFrom {n : ℕ} (h : d ∈ daysFrom n a b) : a ≤ d := by
  induction n generalizing a with
  | zero => cases h
  | succ n ih =>
    unfold daysFrom at h
    split at h
    · rcases List.mem_cons.mp h with rfl | h
      · exact le_rfl
      · exact a.lt_next.le.trans (ih h)
    · cases h

theorem pairwise_daysFrom (n : ℕ) (a b : Day) : (daysFrom n a b).Pairwise (· < ·) := by
  induction n generalizing a with
  | zero => exact List.Pairwise.nil
  | succ n ih =>
    unfold daysFrom
    split
    · exact List.pairwise_cons.mpr ⟨fun d hd => a.lt_next.trans_le (le_of_mem_daysFrom hd), ih a.next⟩
    · exact List.Pairwise.nil

/-- **Every day** from one to another, and no other, -/
theorem mem_daysUpTo : d ∈ daysUpTo a b ↔ a ≤ d ∧ d ≤ b := mem_daysFrom le_rfl

/-- once and in order. -/
theorem pairwise_daysUpTo (a b : Day) : (daysUpTo a b).Pairwise (· < ·) := pairwise_daysFrom _ a b

/-- The last of them. -/
theorem getLast?_daysFrom {n : ℕ} (h : a ≤ b) (hn : span a b ≤ n) : (daysFrom n a b).getLast? = some b := by
  induction n generalizing a with
  | zero =>
    have hle := le_iff_rank.mp h
    unfold span at hn
    omega
  | succ n ih =>
    rw [daysFrom, if_pos h]
    rcases h.eq_or_lt with rfl | hlt
    · have hnone : daysFrom n a.next a = [] := by
        cases n with
        | zero => rfl
        | succ n => exact if_neg (not_le_of_gt a.lt_next)
      rw [hnone]
      rfl
    · have hspan := span_next_lt h
      rw [List.getLast?_cons, ih (next_le_of_lt hlt) (by omega)]
      rfl

theorem getLast?_daysUpTo (h : a ≤ b) : (daysUpTo a b).getLast? = some b := getLast?_daysFrom h le_rfl

/-- The day itself and the days after it. -/
theorem daysUpTo_cons (h : a ≤ b) : daysUpTo a b = a :: daysUpTo a.next b := by
  have hafter : ∀ d ∈ daysUpTo a.next b, a < d := fun d hd => a.lt_next.trans_le (mem_daysUpTo.mp hd).1
  refine (pairwise_daysUpTo a b).eq_of_mem_iff (List.pairwise_cons.mpr ⟨hafter, pairwise_daysUpTo a.next b⟩) fun d => ?_
  rw [mem_daysUpTo, List.mem_cons, mem_daysUpTo]
  constructor
  · rintro ⟨had, hdb⟩
    rcases had.eq_or_lt with rfl | hlt
    · exact Or.inl rfl
    · exact Or.inr ⟨next_le_of_lt hlt, hdb⟩
  · rintro (rfl | ⟨had, hdb⟩)
    · exact ⟨le_rfl, h⟩
    · exact ⟨a.lt_next.le.trans had, hdb⟩

/-- Leaving out the days before a later one. -/
theorem filter_daysUpTo (h : a ≤ b) (c : Day) : (daysUpTo a c).filter (fun d => b ≤ d) = daysUpTo b c := by
  refine ((pairwise_daysUpTo a c).filter _).eq_of_mem_iff (pairwise_daysUpTo b c) fun d => ?_
  rw [List.mem_filter, mem_daysUpTo, mem_daysUpTo, decide_eq_true_eq]
  exact ⟨fun ⟨⟨_, hdc⟩, hbd⟩ => ⟨hbd, hdc⟩, fun ⟨hbd, hdc⟩ => ⟨⟨h.trans hbd, hdc⟩, hbd⟩⟩

/-- **A day and the `n` before it.** -/
theorem length_daysUpTo_back (n : ℕ) (d : Day) : (daysUpTo (d.back n) d).length = n + 1 := by
  induction n with
  | zero =>
    have hnone : daysUpTo d.next d = [] :=
      List.eq_nil_iff_forall_not_mem.mpr fun e he =>
        absurd ((mem_daysUpTo.mp he).1.trans (mem_daysUpTo.mp he).2) (not_le_of_gt d.lt_next)
    show (daysUpTo d d).length = 1
    rw [daysUpTo_cons le_rfl, hnone]
    rfl
  | succ n ih =>
    have hback : d.back (n + 1) = (d.back n).prev := Function.iterate_succ_apply' prev n d
    rw [daysUpTo_cons (back_le (n + 1) d), hback, next_prev, List.length_cons, ih]

/-- The days that are not before a given one come last. -/
theorem filter_suffix {l : List Day} (h : l.Pairwise (· < ·)) (a : Day) : l.filter (fun d => a ≤ d) <:+ l := by
  induction l with
  | nil => exact List.suffix_rfl
  | cons d l ih =>
    obtain ⟨hd, hl⟩ := List.pairwise_cons.mp h
    by_cases had : a ≤ d
    · have hall : ∀ e ∈ d :: l, decide (a ≤ e) = true := by
        intro e he
        rcases List.mem_cons.mp he with rfl | he
        · exact decide_eq_true had
        · exact decide_eq_true (had.trans (hd e he).le)
      rw [List.filter_eq_self.mpr hall]
    · rw [List.filter_cons_of_neg (by rw [decide_eq_true_eq]; exact had)]
      exact (ih hl).trans (List.suffix_cons d l)

end Day
end Lib
