import IKash.Stats

/-!
# The waitlist timeline

The service goes through the calendar day by day with an index into the daily counts, and compares dates as texts. Dates of
four-digit years are ordered and told apart by their texts, so the pass agrees with the sum over all dates so far.

- `formatDate_lt_iff`, `parseDate_formatDate`: texts and days;
- `timelineLoop_eq`: the pass from any day on;
- `getStats_timeline`: the timeline of every window; one that starts `n` days ago has `n + 1` items
  (`Cumulative.length_shown`).
-/

namespace IKash

open Lib

/-! ## Texts and days -/

/-- The year has four digits. -/
def FourDigits (d : Day) : Prop := 1000 ≤ d.year ∧ d.year ≤ 9999

section Texts

variable {a b d : Day}

theorem intText_eq {n : ℤ} (h : 1000 ≤ n ∧ n ≤ 9999) : intText n = padded 4 n.natAbs := by
  have hlength : (Nat.toDigits 10 n.natAbs).length = 4 := by
    have hle := (Nat.length_toDigits_le_iff (n := n.natAbs) (b := 10) (k := 4) (by decide) (by decide)).mpr (by omega)
    have hgt : ¬ (Nat.toDigits 10 n.natAbs).length ≤ 3 := fun hle => by
      have := (Nat.length_toDigits_le_iff (n := n.natAbs) (b := 10) (by decide) (by decide)).mp hle
      omega
    omega
  unfold intText padded
  rw [if_neg (by omega), List.leftpad, hlength]
  rfl

theorem formatDate_toList (h : FourDigits d) : (formatDate d).toList = padded 4 d.year.natAbs ++ monthAndDay d := by
  unfold formatDate
  rw [String.toList_ofList, intText_eq h]

/-- The database and the service write such a date alike. -/
theorem dateText_eq (h : FourDigits d) : dateText d = formatDate d := by
  have hpos : 0 < d.year := by
    have := h.1
    omega
  unfold dateText formatDate
  rw [if_pos hpos, intText_eq h]

theorem monthAndDay_lt_iff : monthAndDay a < monthAndDay b ↔ a.month < b.month ∨ a.month = b.month ∧ a.day < b.day := by
  have ham := a.month_le
  have hbm := b.month_le
  have had := a.day_le_31
  have hbd := b.day_le_31
  have hlength : (padded 2 a.month).length = (padded 2 b.month).length := by
    rw [length_padded (by decide) (by omega), length_padded (by decide) (by omega)]
  have hmonth : padded 2 a.month = padded 2 b.month ↔ a.month = b.month :=
    ⟨padded_injective, fun h => by rw [h]⟩
  unfold monthAndDay
  rw [List.cons_append, List.cons_append, List.cons_lt_cons_self, append_lt_append_iff hlength, hmonth,
    padded_lt_iff (by decide) (by omega) (by omega), List.cons_lt_cons_self, padded_lt_iff (by decide) (by omega) (by omega)]

/-- **The texts are ordered as the days.** -/
theorem formatDate_lt_iff (ha : FourDigits a) (hb : FourDigits b) : formatDate a < formatDate b ↔ a < b := by
  obtain ⟨hal, hau⟩ := ha
  obtain ⟨hbl, hbu⟩ := hb
  have hlength : (padded 4 a.year.natAbs).length = (padded 4 b.year.natAbs).length := by
    rw [length_padded (by decide) (by omega), length_padded (by decide) (by omega)]
  have hyear : padded 4 a.year.natAbs = padded 4 b.year.natAbs ↔ a.year = b.year := by
    refine ⟨fun h => ?_, fun h => by rw [h]⟩
    have := padded_injective h
    omega
  rw [String.lt_iff_toList_lt, formatDate_toList ⟨hal, hau⟩, formatDate_toList ⟨hbl, hbu⟩, append_lt_append_iff hlength,
    hyear, padded_lt_iff (by decide) (by omega) (by omega), monthAndDay_lt_iff, Day.lt_iff]
  omega

theorem formatDate_le_iff (ha : FourDigits a) (hb : FourDigits b) : formatDate a ≤ formatDate b ↔ a ≤ b := by
  rw [← not_lt, ← not_lt, formatDate_lt_iff hb ha]

theorem formatDate_eq_iff (ha : FourDigits a) (hb : FourDigits b) : formatDate a = formatDate b ↔ a = b := by
  rw [le_antisymm_iff, le_antisymm_iff, formatDate_le_iff ha hb, formatDate_le_iff hb ha]

theorem ofNumbers_self (d : Day) : Day.ofNumbers d.year d.month d.day = some d :=
  dif_pos ⟨⟨d.month_pos, d.month_le⟩, d.day_pos, d.day_le⟩

theorem exists_of_length_two {l : List Char} (h : l.length = 2) : ∃ a b, l = [a, b] := List.length_eq_two.mp h

theorem exists_of_length_four {l : List Char} (h : l.length = 4) : ∃ a b c d, l = [a, b, c, d] := by
  match l, h with
  | [a, b, c, d], _ => exact ⟨a, b, c, d, rfl⟩

/-- The date that the database writes is read back. -/
theorem parseDate_formatDate (h : FourDigits d) : parseDate (formatDate d) = some d := by
  obtain ⟨hlow, hup⟩ := h
  have hmonth := d.month_le
  have hday := d.day_le_31
  have hy : (padded 4 d.year.natAbs).length = 4 := length_padded (by decide) (by omega)
  have hm : (padded 2 d.month).length = 2 := length_padded (by decide) (by omega)
  have hd : (padded 2 d.day).length = 2 := length_padded (by decide) (by omega)
  obtain ⟨y₁, y₂, y₃, y₄, hy⟩ := exists_of_length_four hy
  obtain ⟨m₁, m₂, hm⟩ := exists_of_length_two hm
  obtain ⟨d₁, d₂, hd⟩ := exists_of_length_two hd
  have htext : (formatDate d).toList = [y₁, y₂, y₃, y₄, '-', m₁, m₂, '-', d₁, d₂] := by
    rw [formatDate_toList ⟨hlow, hup⟩, monthAndDay, hy, hm, hd]
    rfl
  have hdigits : [y₁, y₂, y₃, y₄, m₁, m₂, d₁, d₂].all Char.isDigit = true := by
    have hall : ∀ c ∈ padded 4 d.year.natAbs ++ padded 2 d.month ++ padded 2 d.day, c.isDigit = true := by
      intro c hc
      rw [List.mem_append, List.mem_append] at hc
      rcases hc with (hc | hc) | hc
      · exact isDigit_padded hc
      · exact isDigit_padded hc
      · exact isDigit_padded hc
    rw [hy, hm, hd] at hall
    exact List.all_eq_true.mpr hall
  have hyear : (natOf [y₁, y₂, y₃, y₄] : ℤ) = d.year := by
    rw [← hy, natOf_padded]
    omega
  unfold parseDate
  rw [htext]
  show (if [y₁, y₂, y₃, y₄, m₁, m₂, d₁, d₂].all Char.isDigit = true then
    Day.ofNumbers (natOf [y₁, y₂, y₃, y₄]) (natOf [m₁, m₂]) (natOf [d₁, d₂]) else none) = some d
  rw [if_pos hdigits, hyear, ← hm, ← hd, natOf_padded, natOf_padded]
  exact ofNumbers_self d

end Texts

/-! ## The pass -/

/-- The sum of the counts of all dates up to a day. -/
def countUpTo (counts : List (Day × ℕ)) (d : Day) : ℕ := ((counts.filter fun r => r.1 ≤ d).map Prod.snd).sum

/-- The answer of the raw query. -/
def dailyCounts (counts : List (Day × ℕ)) : List DailyCount := counts.map fun r => ⟨dateText r.1, r.2⟩

section Pass

variable {counts : List (Day × ℕ)} {c d today : Day} {r : Day × ℕ}

/-- No date up to the day is left. -/
theorem countUpTo_eq_zero (h : ∀ r ∈ counts, d < r.1) : countUpTo counts d = 0 := by
  unfold countUpTo
  rw [List.filter_eq_nil_iff.mpr fun r hr => by rw [decide_eq_true_eq]; exact not_le_of_gt (h r hr)]
  rfl

theorem countUpTo_cons (h : r.1 ≤ d) : countUpTo (r :: counts) d = r.2 + countUpTo counts d := by
  have hkeep : decide (r.1 ≤ d) = true := decide_eq_true h
  unfold countUpTo
  rw [List.filter_cons, if_pos hkeep, List.map_cons, List.sum_cons]

section Step

variable {rows : List DailyCount} {n total idx : ℕ}

open StatsService

theorem timelineLoop_hit {row : DailyCount} (hc : c ≤ today) (hrow : rows[idx]? = some row) (hdate : row.date = formatDate c) :
    timelineLoop rows today (n + 1) c total idx =
      ⟨formatDate c, total + row.count⟩ :: timelineLoop rows today n c.next (total + row.count) (idx + 1) := by
  have hfound : rows[idx]?.filter (fun row => row.date = formatDate c) = some row := by
    have hkeep : decide (row.date = formatDate c) = true := decide_eq_true hdate
    rw [hrow, Option.filter_some, if_pos hkeep]
  rw [timelineLoop, if_pos hc]
  dsimp only
  rw [hfound]

theorem timelineLoop_miss (hc : c ≤ today) (hdate : ∀ row ∈ rows[idx]?, row.date ≠ formatDate c) :
    timelineLoop rows today (n + 1) c total idx = ⟨formatDate c, total⟩ :: timelineLoop rows today n c.next total idx := by
  have hnone : rows[idx]?.filter (fun row => row.date = formatDate c) = none :=
    Option.filter_eq_none_iff.mpr fun row hrow => by rw [decide_eq_true_eq]; exact hdate row hrow
  rw [timelineLoop, if_pos hc]
  dsimp only
  rw [hnone]

end Step

/-- The row at an index. -/
theorem dailyCounts_getElem? (counts : List (Day × ℕ)) (idx : ℕ) :
    (dailyCounts counts)[idx]? = (counts.drop idx).head?.map fun r => ⟨dateText r.1, r.2⟩ := by
  rw [List.head?_drop, dailyCounts, List.getElem?_map]

/-- The dates that are left come later if the first of them does. -/
theorem later_of_head_ne (hasc : counts.Pairwise fun r r' => r.1 < r'.1) (hrest : ∀ r ∈ counts, c ≤ r.1)
    (hne : ∀ r ∈ counts.head?, r.1 ≠ c) : ∀ r ∈ counts, c < r.1 := by
  cases counts with
  | nil => exact fun _ hr => absurd hr List.not_mem_nil
  | cons first rest =>
    have hfirst : c < first.1 := (hrest first List.mem_cons_self).lt_of_ne (hne first rfl).symm
    intro r hr
    rcases List.mem_cons.mp hr with rfl | hr
    · exact hfirst
    · exact hfirst.trans ((List.pairwise_cons.mp hasc).1 r hr)

/-- **The pass from a day on**, when the index stands at the first date that is not before it. -/
theorem timelineLoop_eq (hasc : counts.Pairwise fun r r' => r.1 < r'.1) (hpast : ∀ r ∈ counts, r.1 ≤ today)
    (htoday : today.year ≤ 9999) (n : ℕ) : ∀ (cursor : Day) (total idx : ℕ), 1000 ≤ cursor.year →
      (∀ r ∈ counts.drop idx, cursor ≤ r.1) →
      StatsService.timelineLoop (dailyCounts counts) today n cursor total idx =
        (Day.daysFrom n cursor today).map fun d => ⟨formatDate d, total + countUpTo (counts.drop idx) d⟩ := by
  induction n with
  | zero => exact fun _ _ _ _ _ => rfl
  | succ n ih =>
    intro cursor total idx hyear hrest
    by_cases hc : cursor ≤ today
    · have hyear' : 1000 ≤ cursor.next.year := hyear.trans (Day.year_le_of_le cursor.lt_next.le)
      have hfour : FourDigits cursor := ⟨hyear, (Day.year_le_of_le hc).trans htoday⟩
      have hascRest : (counts.drop idx).Pairwise fun r r' => r.1 < r'.1 := hasc.drop
      have htext : ∀ r ∈ counts.drop idx, dateText r.1 = formatDate r.1 ∧ FourDigits r.1 := by
        intro r hr
        have hfour : FourDigits r.1 := ⟨hyear.trans (Day.year_le_of_le (hrest r hr)),
          (Day.year_le_of_le (hpast r (List.mem_of_mem_drop hr))).trans htoday⟩
        exact ⟨dateText_eq hfour, hfour⟩
      rw [Day.daysFrom, if_pos hc, List.map_cons]
      by_cases hhit : ∃ r rest, counts.drop idx = r :: rest ∧ r.1 = cursor
      · -- the date of the index is the day: its count is added, and the other dates come later
        obtain ⟨r, rest, hdrop, rfl⟩ := hhit
        have hdrop' : counts.drop (idx + 1) = rest := by rw [← List.tail_drop, hdrop, List.tail_cons]
        have hlater : ∀ r' ∈ rest, r.1 < r'.1 := by
          rw [hdrop] at hascRest
          exact (List.pairwise_cons.mp hascRest).1
        have hrow : (dailyCounts counts)[idx]? = some ⟨dateText r.1, r.2⟩ := by
          rw [dailyCounts_getElem?, hdrop]
          rfl
        have hdate : dateText r.1 = formatDate r.1 := (htext r (by rw [hdrop]; exact List.mem_cons_self)).1
        rw [timelineLoop_hit hc hrow hdate, ih _ _ _ hyear' (by rw [hdrop']; exact fun r' hr' => Day.next_le_of_lt (hlater r' hr')),
          hdrop, hdrop', countUpTo_cons le_rfl, countUpTo_eq_zero hlater]
        refine congrArg _ (List.map_congr_left fun d hd => ?_)
        have hle : r.1 ≤ d := r.1.lt_next.le.trans (Day.le_of_mem_daysFrom hd)
        rw [countUpTo_cons hle, Nat.add_assoc]
      · -- all dates that are left come later
        have hlater : ∀ r ∈ counts.drop idx, cursor < r.1 := later_of_head_ne hascRest hrest fun r hr heq =>
          hhit ⟨r, _, List.eq_cons_of_mem_head? hr, heq⟩
        have hdate : ∀ row ∈ (dailyCounts counts)[idx]?, row.date ≠ formatDate cursor := by
          intro row hrow heq
          rw [dailyCounts_getElem?] at hrow
          obtain ⟨r, hr, rfl⟩ := Option.map_eq_some_iff.mp hrow
          have hmem := List.mem_of_head? hr
          obtain ⟨htext, hfour'⟩ := htext r hmem
          have hsame : r.1 = cursor := (formatDate_eq_iff hfour' hfour).mp (htext.symm.trans heq)
          exact absurd hsame.symm (hlater r hmem).ne
        rw [timelineLoop_miss hc hdate, ih _ _ _ hyear' fun r hr => Day.next_le_of_lt (hlater r hr), countUpTo_eq_zero hlater,
          Nat.add_zero]
    · rw [Day.daysFrom, if_neg hc, StatsService.timelineLoop, if_neg hc]
      rfl

end Pass

/-! ## The timeline of a window -/

section Window

variable {counts : List (Day × ℕ)} {today : Day}

/-- The first date, or today when there is none. -/
def firstDay (counts : List (Day × ℕ)) (today : Day) : Day := counts.head?.elim today Prod.fst

theorem monthBack_le (d : Day) : monthBack d ≤ d := by
  have hbefore := (monthBefore_lt d).2
  rw [← not_lt, Day.lt_iff]
  unfold monthBack
  split
  · dsimp only
    omega
  · dsimp only
    omega

theorem windowStart_le (window : String) {start : Day} (h : start ≤ today) :
    StatsService.windowStart window today start ≤ today := by
  unfold StatsService.windowStart
  split
  · exact Day.back_le 13 today
  · exact monthBack_le today
  · exact h
  · exact Day.back_le 6 today

theorem firstDay_le (hpast : ∀ r ∈ counts, r.1 ≤ today) : firstDay counts today ≤ today := by
  cases counts with
  | nil => exact le_rfl
  | cons r rest => exact hpast r List.mem_cons_self

theorem firstDay_le_of_mem (hasc : counts.Pairwise fun r r' => r.1 < r'.1) :
    ∀ r ∈ counts, firstDay counts today ≤ r.1 := by
  cases counts with
  | nil => exact fun _ hr => absurd hr List.not_mem_nil
  | cons first rest =>
    intro r hr
    rcases List.mem_cons.mp hr with rfl | hr
    · exact le_rfl
    · exact ((List.pairwise_cons.mp hasc).1 r hr).le

theorem fullStartDate_eq (hpast : ∀ r ∈ counts, r.1 ≤ today) (hfirst : 1000 ≤ (firstDay counts today).year)
    (htoday : today.year ≤ 9999) : StatsService.fullStartDate (dailyCounts counts) today = some (firstDay counts today) := by
  cases counts with
  | nil => rfl
  | cons r rest =>
    have hfour : FourDigits r.1 := ⟨hfirst, (Day.year_le_of_le (hpast r List.mem_cons_self)).trans htoday⟩
    show parseDate (dateText r.1) = some r.1
    rw [dateText_eq hfour, parseDate_formatDate hfour]

/-- The full timeline and the one shown, as the counts ask for them. -/
structure Cumulative (counts : List (Day × ℕ)) (first start today : Day) (full shown : List TimelineItem) : Prop where
  /-- every day from the first one to today, once and in order, with the sum of the counts so far -/
  days : ∃ days : List Day, days.Pairwise (· < ·) ∧ (∀ d, d ∈ days ↔ first ≤ d ∧ d ≤ today) ∧
    full = days.map (fun d => ⟨formatDate d, countUpTo counts d⟩) ∧
    shown = (days.filter fun d => start ≤ d).map fun d => ⟨formatDate d, countUpTo counts d⟩
  suffix : shown <:+ full
  total : full.getLast?.map TimelineItem.count = some (counts.map Prod.snd).sum

/-- Both timelines of `getStats`, as the counts ask for them. -/
def TimelineCorrect (db : Db) (counts : List (Day × ℕ)) (window : Option String) (today : Day) : Prop :=
  Cumulative counts (firstDay counts today)
    (StatsService.windowStart (StatsService.windowOf window) today (firstDay counts today)) today
    (StatsService.fullTimeline (dailyCounts counts) today)
    (StatsService.getStats db (dailyCounts counts) window today).waitlistTimeline

/-- Strictly ascending dates, none after today. -/
structure Daily (counts : List (Day × ℕ)) (today : Day) : Prop where
  ascending : counts.Pairwise fun r r' => r.1 < r'.1
  past : ∀ r ∈ counts, r.1 ≤ today

/-- **The timeline of every window**, for years of four digits. -/
theorem getStats_timeline (db : Db) (window : Option String) (hcounts : Daily counts today)
    (hfirst : 1000 ≤ (firstDay counts today).year)
    (hstart : 1000 ≤ (StatsService.windowStart (StatsService.windowOf window) today (firstDay counts today)).year)
    (htoday : today.year ≤ 9999) : TimelineCorrect db counts window today := by
  obtain ⟨hasc, hpast⟩ := hcounts
  have hle := firstDay_le hpast
  have hdate := fullStartDate_eq hpast hfirst htoday
  have hfull : StatsService.fullTimeline (dailyCounts counts) today =
      (Day.daysUpTo (firstDay counts today) today).map fun d => ⟨formatDate d, countUpTo counts d⟩ := by
    unfold StatsService.fullTimeline
    rw [hdate, Option.elim_some, timelineLoop_eq hasc hpast htoday _ _ 0 0 hfirst (firstDay_le_of_mem hasc)]
    exact List.map_congr_left fun d _ => by rw [List.drop_zero, Nat.zero_add]
  have hshown : (StatsService.getStats db (dailyCounts counts) window today).waitlistTimeline =
      ((Day.daysUpTo (firstDay counts today) today).filter fun d =>
        StatsService.windowStart (StatsService.windowOf window) today (firstDay counts today) ≤ d).map
          fun d => ⟨formatDate d, countUpTo counts d⟩ := by
    show StatsService.waitlistTimeline (dailyCounts counts) window today = _
    unfold StatsService.waitlistTimeline
    rw [hdate, Option.elim_some, hfull, List.filter_map]
    refine congrArg _ (List.filter_congr fun d hd => decide_eq_decide.mpr ?_)
    obtain ⟨hlow, hup⟩ := Day.mem_daysUpTo.mp hd
    have hwindow := (Day.year_le_of_le (windowStart_le (StatsService.windowOf window) hle)).trans htoday
    exact formatDate_le_iff ⟨hstart, hwindow⟩
      ⟨hfirst.trans (Day.year_le_of_le hlow), (Day.year_le_of_le hup).trans htoday⟩
  refine ⟨⟨_, Day.pairwise_daysUpTo _ _, fun d => Day.mem_daysUpTo, hfull, hshown⟩, ?_, ?_⟩
  · rw [hfull, hshown]
    exact (Day.filter_suffix (Day.pairwise_daysUpTo _ _) _).map _
  · rw [hfull, List.getLast?_map, Day.getLast?_daysUpTo hle]
    show some (countUpTo counts today) = _
    unfold countUpTo
    rw [List.filter_eq_self.mpr fun r hr => decide_eq_true (hpast r hr)]

/-- A day of the window is shown. -/
theorem Cumulative.mem_shown {first start d : Day} {full shown : List TimelineItem}
    (h : Cumulative counts first start today full shown) (hfirst : first ≤ d) (htoday : d ≤ today) (hstart : start ≤ d) :
    ⟨formatDate d, countUpTo counts d⟩ ∈ shown := by
  obtain ⟨days, -, hmem, -, hshown⟩ := h.days
  rw [hshown]
  exact List.mem_map_of_mem (List.mem_filter.mpr ⟨(hmem d).mpr ⟨hfirst, htoday⟩, decide_eq_true hstart⟩)

/-- **A full window** of a day and the `n` before it. -/
theorem Cumulative.length_shown {n : ℕ} {first : Day} {full shown : List TimelineItem}
    (h : Cumulative counts first (today.back n) today full shown) (hfirst : first ≤ today.back n) : shown.length = n + 1 := by
  obtain ⟨days, hdays, hmem, -, hshown⟩ := h.days
  have hall : days = Day.daysUpTo first today :=
    hdays.eq_of_mem_iff (Day.pairwise_daysUpTo first today) fun d => (hmem d).trans Day.mem_daysUpTo.symm
  rw [hshown, List.length_map, hall, Day.filter_daysUpTo hfirst, Day.length_daysUpTo_back]

/-- A week by default. -/
theorem TimelineCorrect.length_week {db : Db} (h : TimelineCorrect db counts none today)
    (hfirst : firstDay counts today ≤ today.back 6) :
    (StatsService.getStats db (dailyCounts counts) none today).waitlistTimeline.length = 7 :=
  Cumulative.length_shown h hfirst

end Window

/-! ## Years -/

namespace Visitors

def winter : List (Day × ℕ) :=
  [((Day.ofNumbers 2026 1 30).get (by decide), 2), ((Day.ofNumbers 2026 2 1).get (by decide), 3)]

def today : Day := (Day.ofNumbers 2026 2 2).get (by decide)

/-- Four days, of which two have a count. -/
theorem winter_timeline : TimelineCorrect Db.empty winter (some "all") today ∧
    (StatsService.getStats Db.empty (dailyCounts winter) (some "all") today).waitlistTimeline =
      [⟨"2026-01-30", 2⟩, ⟨"2026-01-31", 2⟩, ⟨"2026-02-01", 5⟩, ⟨"2026-02-02", 5⟩] :=
  ⟨getStats_timeline Db.empty (some "all") ⟨by decide, by decide⟩ (by decide) (by decide) (by decide), by decide⟩

def endOf999 : Day := (Day.ofNumbers 999 12 31).get (by decide)

def startOf1000 : Day := (Day.ofNumbers 1000 1 1).get (by decide)

def endOf9999 : Day := (Day.ofNumbers 9999 12 31).get (by decide)

def startOf10000 : Day := (Day.ofNumbers 10000 1 1).get (by decide)

/-- A first date before the year 1000 is never found again; a window that starts before it hides what comes after, and so
does one that starts before the year 10000. -/
theorem years_of_other_lengths :
    (Daily [(endOf999, 1), (startOf1000, 2)] startOf1000 ∧
      ¬ TimelineCorrect Db.empty [(endOf999, 1), (startOf1000, 2)] (some "all") startOf1000) ∧
    (Daily [(startOf1000, 1)] startOf1000 ∧ ¬ TimelineCorrect Db.empty [(startOf1000, 1)] (some "7d") startOf1000) ∧
    (Daily [(endOf9999, 1)] startOf10000 ∧ ¬ TimelineCorrect Db.empty [(endOf9999, 1)] (some "7d") startOf10000) := by
  refine ⟨⟨⟨by decide, by decide⟩, fun h => ?_⟩, ⟨⟨by decide, by decide⟩, fun h => ?_⟩, ⟨by decide, by decide⟩, fun h => ?_⟩
  · exact absurd h.total (by decide)
  · exact absurd (h.mem_shown (d := startOf1000) (by decide) (by decide) (by decide)) (by decide)
  · exact absurd (h.mem_shown (d := startOf10000) (by decide) (by decide) (by decide)) (by decide)

end Visitors

end IKash
