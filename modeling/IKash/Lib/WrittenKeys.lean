import Mathlib.Data.List.Induction
import Mathlib.Tactic.Common

/-!
# Keys that are written as texts

A table is kept under the texts of its keys, whose fields have a separator between them.

- `append_sep_inj`, `sep_append_inj`: the last field, or the first, can be read back if it has no separator;
- `lookup_written`: a table kept under the texts of the keys is looked up like the table under the keys, as long as two
  keys have the same text only if they are equal.
-/

namespace Lib

section Fields

variable {α : Type} {sep : α} {a b c d : List α}

/-- **The last field.** The fields before it may have separators. -/
theorem append_sep_inj (hb : sep ∉ b) (hd : sep ∉ d) : a ++ sep :: b = c ++ sep :: d ↔ a = c ∧ b = d := by
  constructor
  · intro h
    rcases List.append_eq_append_iff.mp h with ⟨t, rfl, ht⟩ | ⟨t, rfl, ht⟩
    · cases t with
      | nil => exact ⟨(List.append_nil a).symm, (List.cons.inj ht).2⟩
      | cons x t =>
        have hmem : sep ∈ b := by
          rw [(List.cons.inj ht).2]
          exact List.mem_append_right _ List.mem_cons_self
        exact absurd hmem hb
    · cases t with
      | nil => exact ⟨List.append_nil c, (List.cons.inj ht).2.symm⟩
      | cons x t =>
        have hmem : sep ∈ d := by
          rw [(List.cons.inj ht).2]
          exact List.mem_append_right _ List.mem_cons_self
        exact absurd hmem hd
  · rintro ⟨rfl, rfl⟩
    rfl

/-- **The first field.** The fields after it may have separators. -/
theorem sep_append_inj (ha : sep ∉ a) (hc : sep ∉ c) : a ++ sep :: b = c ++ sep :: d ↔ a = c ∧ b = d := by
  constructor
  · intro h
    rcases List.append_eq_append_iff.mp h with ⟨t, rfl, ht⟩ | ⟨t, rfl, ht⟩
    · cases t with
      | nil => exact ⟨(List.append_nil a).symm, (List.cons.inj ht).2⟩
      | cons x t =>
        rw [← (List.cons.inj ht).1] at hc
        exact absurd (List.mem_append_right a List.mem_cons_self) hc
    · cases t with
      | nil => exact ⟨List.append_nil c, (List.cons.inj ht).2.symm⟩
      | cons x t =>
        rw [← (List.cons.inj ht).1] at ha
        exact absurd (List.mem_append_right c List.mem_cons_self) ha
  · rintro ⟨rfl, rfl⟩
    rfl

/-- Texts with a separator before the last field. -/
theorem text_sep_inj {s t u v : String} (ht : ':' ∉ t.toList) (hv : ':' ∉ v.toList) :
    s ++ ":" ++ t = u ++ ":" ++ v ↔ s = u ∧ t = v := by
  rw [← String.toList_inj, ← @String.toList_inj s, ← @String.toList_inj t, String.toList_append, String.toList_append,
    String.toList_append, String.toList_append, List.append_assoc, List.append_assoc]
  exact append_sep_inj ht hv

/-- Texts with a separator after the first field. -/
theorem sep_text_inj {s t u v : String} (hs : ':' ∉ s.toList) (hu : ':' ∉ u.toList) :
    s ++ ":" ++ t = u ++ ":" ++ v ↔ s = u ∧ t = v := by
  rw [← String.toList_inj, ← @String.toList_inj s, ← @String.toList_inj t, String.toList_append, String.toList_append,
    String.toList_append, String.toList_append, List.append_assoc, List.append_assoc]
  exact sep_append_inj hs hu

end Fields

section Tables

variable {κ κ' ν : Type} [DecidableEq κ] [BEq κ'] [LawfulBEq κ']

/-- The value of the last entry for a key. -/
def lastEntry (history : List (κ × ν)) (k : κ) : Option ν := (history.reverse.find? fun e => e.1 = k).map Prod.snd

theorem lastEntry_concat (history : List (κ × ν)) (e : κ × ν) (k : κ) :
    lastEntry (history ++ [e]) k = if e.1 = k then some e.2 else lastEntry history k := by
  unfold lastEntry
  rw [List.reverse_concat, List.find?_cons]
  by_cases h : e.1 = k
  · rw [decide_eq_true h, if_pos h]
    rfl
  · rw [decide_eq_false h, if_neg h]

/-- **Tables under texts.** The table that is kept under the texts of the keys, the latest entry first, finds the last
entry of the history. -/
theorem lookup_written (text : κ → κ') {history : List (κ × ν)} {k : κ}
    (h : ∀ e ∈ history, text e.1 = text k → e.1 = k) :
    (history.reverse.map fun e => (text e.1, e.2)).lookup (text k) = lastEntry history k := by
  induction history using List.reverseRecOn with
  | nil => rfl
  | append_singleton history e ih =>
    rw [List.reverse_concat, List.map_cons, List.lookup_cons, lastEntry_concat,
      ih fun e' he' => h e' (List.mem_append_left _ he')]
    by_cases hk : e.1 = k
    · rw [if_pos hk, hk, beq_self_eq_true]
    · have hne : text k ≠ text e.1 := fun heq => hk (h e (by simp) heq.symm)
      rw [if_neg hk, beq_eq_false_iff_ne.mpr hne]

end Tables

end Lib
