import IKash.Lib.Calendar
import IKash.Lib.Decimal
import IKash.Prisma
import Mathlib.Data.String.Basic

/-!
# `StatsService`

The public statistics. The timeline is built day by day, in one pass over the daily counts of the waitlist; dates are
compared as texts, those of the database with those of `formatDate`. A `Date` of the source is a `Day`: the service sets
the time to midnight, or to the end of the day, before it looks at it.

The two averages of the reply are floating-point numbers and are left out.
-/

namespace IKash

open Lib

/-! ## Dates as texts -/

/-- `${n}` -/
def intText (n : ℤ) : List Char := if n < 0 then '-' :: Nat.toDigits 10 n.natAbs else Nat.toDigits 10 n.natAbs

/-- Month and day have two digits. -/
def monthAndDay (d : Day) : List Char := '-' :: padded 2 d.month ++ '-' :: padded 2 d.day

/-- `DATE(created_at)::text`: four digits for the year, or more, and an era before the year 1. -/
def dateText (d : Day) : String :=
  String.ofList (if 0 < d.year then padded 4 d.year.natAbs ++ monthAndDay d
    else padded 4 (1 - d.year).natAbs ++ monthAndDay d ++ " BC".toList)

/-- The day with these numbers, if there is one. -/
def Day.ofNumbers (year : ℤ) (month day : ℕ) : Option Day :=
  if h : (1 ≤ month ∧ month ≤ 12) ∧ 1 ≤ day ∧ day ≤ daysIn year month then
    some ⟨year, month, day, h.1.1, h.1.2, h.2.1, h.2.2⟩
  else none

/-- `new Date(text + 'T00:00:00')`; `none` is an invalid date. -/
def parseDate (text : String) : Option Day :=
  match text.toList with
  | [y₁, y₂, y₃, y₄, '-', m₁, m₂, '-', d₁, d₂] =>
    if [y₁, y₂, y₃, y₄, m₁, m₂, d₁, d₂].all Char.isDigit then
      Day.ofNumbers (natOf [y₁, y₂, y₃, y₄]) (natOf [m₁, m₂]) (natOf [d₁, d₂])
    else none
  | _ => none

/-- The year is not padded. -/
def formatDate (date : Day) : String := String.ofList (intText date.year ++ monthAndDay date)

/-! ## The timeline -/

structure DailyCount where
  date : String
  count : ℕ
deriving DecidableEq, Repr

structure TimelineItem where
  date : String
  count : ℕ
deriving DecidableEq, Repr

/-- The month before, with its year. -/
def monthBefore (d : Day) : ℤ × ℕ := if 1 < d.month then (d.year, d.month - 1) else (d.year - 1, 12)

theorem monthBefore_lt (d : Day) : (1 ≤ (monthBefore d).2 ∧ (monthBefore d).2 ≤ 12) ∧
    ((monthBefore d).1 < d.year ∨ (monthBefore d).1 = d.year ∧ (monthBefore d).2 < d.month) := by
  have hmonth := d.month_le
  unfold monthBefore
  split
  · dsimp only
    omega
  · dsimp only
    omega

/-- `setMonth(getMonth() - 1)`: the days that the month before does not have are counted on from its end. -/
def monthBack (d : Day) : Day :=
  if h : d.day ≤ daysIn (monthBefore d).1 (monthBefore d).2 then
    ⟨(monthBefore d).1, (monthBefore d).2, d.day, (monthBefore_lt d).1.1, (monthBefore_lt d).1.2, d.day_pos, h⟩
  else
    ⟨d.year, d.month, d.day - daysIn (monthBefore d).1 (monthBefore d).2, d.month_pos, d.month_le, by omega,
      (Nat.sub_le _ _).trans d.day_le⟩

namespace StatsService

/-- Midnight of the first day with a count, or of today. -/
def fullStartDate (dailyCounts : List DailyCount) (now : Day) : Option Day :=
  dailyCounts.head?.elim (some now) fun first => parseDate first.date

/-- `while (cursor <= now)`, at most `n` times. -/
def timelineLoop (dailyCounts : List DailyCount) (now : Day) : ℕ → Day → ℕ → ℕ → List TimelineItem
  | 0, _, _, _ => []
  | n + 1, cursor, runningTotal, dataIdx =>
    if cursor ≤ now then
      let dateStr := formatDate cursor
      match dailyCounts[dataIdx]?.filter (fun row => row.date = dateStr) with
      | some row => ⟨dateStr, runningTotal + row.count⟩ ::
          timelineLoop dailyCounts now n cursor.next (runningTotal + row.count) (dataIdx + 1)
      | none => ⟨dateStr, runningTotal⟩ :: timelineLoop dailyCounts now n cursor.next runningTotal dataIdx
    else []

/-- An invalid date is not before `now`. -/
def fullTimeline (dailyCounts : List DailyCount) (now : Day) : List TimelineItem :=
  (fullStartDate dailyCounts now).elim [] fun start => timelineLoop dailyCounts now (Day.span start now) start 0 0

def windowStart (window : String) (now start : Day) : Day :=
  match window with
  | "2s" => now.back 13
  | "1m" => monthBack now
  | "all" => start
  | _ => now.back 6

/-- `query.window || '7d'` -/
def windowOf (window : Option String) : String := (window.filter (· ≠ "")).getD "7d"

def waitlistTimeline (dailyCounts : List DailyCount) (window : Option String) (now : Day) : List TimelineItem :=
  (fullStartDate dailyCounts now).elim [] fun start =>
    (fullTimeline dailyCounts now).filter fun item => formatDate (windowStart (windowOf window) now start) ≤ item.date

end StatsService

/-- The reply without the averages. -/
structure StatsReply where
  waitlistMember : ℕ
  walletsConnected : ℕ
  escrowsCompleted : ℕ
  escrowCreated : ℕ
  waitlistTimeline : List TimelineItem
deriving DecidableEq, Repr

/-- `dailyCounts` is the answer of the raw query. -/
def StatsService.getStats (db : Db) (dailyCounts : List DailyCount) (window : Option String) (now : Day) : StatsReply where
  waitlistMember := db.waitlist.rows.length
  walletsConnected := db.users.rows.length
  escrowsCompleted := db.escrows.rows.countP fun e => e.escrowStatus = .released
  escrowCreated := db.escrows.rows.length
  waitlistTimeline := waitlistTimeline dailyCounts window now

end IKash
