import Mathlib.Data.List.Basic
import Mathlib.Data.List.Nodup
import Mathlib.Data.List.Pairwise
import Mathlib.Tactic.Common

/-!
# Tables with unique columns

A table is a list of rows of which no two clash: they differ in the primary key and in every unique column that both
fill. `insert` and `replace` refuse a row that would clash, `filter` and `mapKeys` cannot produce one.

- `find?_eq_some`: a row is found by its key exactly when it is in the table;
- `find?_of_insert`, `find?_replace`, `find?_replace_ne`, `find?_map`: reading after a write;
- `replace_isSome`: replacing a row by one with the same unique columns is never refused.
-/

namespace Lib

/-- Rows with a primary key and further unique columns; an unfilled column clashes with nothing. -/
class Keyed (ρ : Type) (κ : outParam Type) where
  key : ρ → κ
  uniques : List (ρ → Option κ)

section Clash

variable {ρ κ : Type} [Keyed ρ κ]

open Keyed

/-- Two rows that cannot both be in a table. -/
def Clash (a b : ρ) : Prop := key a = key b ∨ ∃ u ∈ uniques (ρ := ρ), u a ≠ none ∧ u a = u b

instance [DecidableEq κ] (a b : ρ) : Decidable (Clash a b) :=
  inferInstanceAs (Decidable (key a = key b ∨ ∃ u ∈ uniques (ρ := ρ), u a ≠ none ∧ u a = u b))

/-- The same key and the same unique columns. -/
def SameKeys (a b : ρ) : Prop := key b = key a ∧ ∀ u ∈ uniques (ρ := ρ), u b = u a

theorem Clash.symm {a b : ρ} (h : Clash a b) : Clash b a := by
  rcases h with h | ⟨u, hu, hn, he⟩
  · exact Or.inl h.symm
  · exact Or.inr ⟨u, hu, he ▸ hn, he.symm⟩

theorem SameKeys.clash {a b c : ρ} (h : SameKeys a b) : Clash c b ↔ Clash c a := by
  constructor
  · rintro (hk | ⟨u, hu, hn, he⟩)
    · exact Or.inl (hk.trans h.1)
    · exact Or.inr ⟨u, hu, hn, he.trans (h.2 u hu)⟩
  · rintro (hk | ⟨u, hu, hn, he⟩)
    · exact Or.inl (hk.trans h.1.symm)
    · exact Or.inr ⟨u, hu, hn, he.trans (h.2 u hu).symm⟩

end Clash

/-- Rows of which no two clash. -/
structure Table (ρ : Type) {κ : Type} [Keyed ρ κ] where
  rows : List ρ
  distinct : rows.Pairwise (fun a b => ¬ Clash a b)

namespace Table

open Keyed

variable {ρ κ : Type} [Keyed ρ κ] [DecidableEq κ] {t t' : Table ρ} {k j : κ} {r x : ρ}

omit [DecidableEq κ] in
theorem eq_of_clash (hr : r ∈ t.rows) (hx : x ∈ t.rows) (h : Clash r x) : r = x := by
  by_contra hne
  have : Std.Symm (fun a b : ρ => ¬ Clash a b) := ⟨fun _ _ hn hc => hn hc.symm⟩
  exact t.distinct.forall hr hx hne h

def empty : Table ρ := ⟨[], List.Pairwise.nil⟩

/-! ## Reading -/

/-- The row with the key. -/
def find? (t : Table ρ) (k : κ) : Option ρ := t.rows.find? (fun r => key r = k)

theorem find?_eq_some : t.find? k = some r ↔ r ∈ t.rows ∧ key r = k := by
  constructor
  · intro h
    exact ⟨List.mem_of_find?_eq_some h, by simpa using List.find?_some h⟩
  · rintro ⟨hr, rfl⟩
    cases h : t.find? (key r) with
    | none =>
      have := List.find?_eq_none.mp h r hr
      simp at this
    | some y =>
      have hy : key y = key r := by simpa using List.find?_some h
      rw [eq_of_clash (List.mem_of_find?_eq_some h) hr (Or.inl hy)]

omit [DecidableEq κ] in
/-- No key occurs twice. -/
theorem nodup_keys (t : Table ρ) : (t.rows.map key).Nodup := by
  rw [List.nodup_iff_pairwise_ne, List.pairwise_map]
  exact t.distinct.imp fun hn he => hn (Or.inl he)

theorem key_of_find? (h : t.find? k = some r) : key r = k := (find?_eq_some.mp h).2

/-- Some row has the key. -/
def Has (t : Table ρ) (k : κ) : Prop := ∃ r ∈ t.rows, key r = k

instance (t : Table ρ) (k : κ) : Decidable (t.Has k) := inferInstanceAs (Decidable (∃ r ∈ t.rows, key r = k))

theorem has_iff : t.Has k ↔ ∃ r, t.find? k = some r := by
  constructor
  · rintro ⟨r, hr, hk⟩
    exact ⟨r, find?_eq_some.mpr ⟨hr, hk⟩⟩
  · rintro ⟨r, hr⟩
    exact ⟨r, find?_eq_some.mp hr⟩

theorem find?_eq_none : t.find? k = none ↔ ∀ r ∈ t.rows, key r ≠ k := by
  unfold find?
  rw [List.find?_eq_none]
  simp

/-- The row that has `v` in the unique column `u`. -/
def findUnique? (t : Table ρ) (u : ρ → Option κ) (v : κ) : Option ρ := t.rows.find? (fun r => u r = some v)

theorem findUnique?_eq_some {u : ρ → Option κ} {v : κ} (hu : u ∈ uniques (ρ := ρ)) :
    t.findUnique? u v = some r ↔ r ∈ t.rows ∧ u r = some v := by
  constructor
  · intro h
    exact ⟨List.mem_of_find?_eq_some h, by simpa using List.find?_some h⟩
  · rintro ⟨hr, hv⟩
    cases h : t.findUnique? u v with
    | none =>
      have := List.find?_eq_none.mp h r hr
      simp [hv] at this
    | some y =>
      have hy : u y = some v := by simpa using List.find?_some h
      rw [eq_of_clash (List.mem_of_find?_eq_some h) hr (Or.inr ⟨u, hu, by simp [hy], hy.trans hv.symm⟩)]

/-- No other row has `v` in the unique column. -/
theorem filter_unique {u : ρ → Option κ} {v : κ} (hu : u ∈ uniques (ρ := ρ)) (h : t.findUnique? u v = some r) :
    t.rows.filter (fun x => u x = some v) = [r] := by
  obtain ⟨hr, hv⟩ := (findUnique?_eq_some hu).mp h
  have hnodup : t.rows.Nodup := List.Nodup.of_map key t.nodup_keys
  refine List.perm_singleton.mp ((List.perm_ext_iff_of_nodup (hnodup.filter _) (List.pairwise_singleton _ r)).mpr fun x => ?_)
  rw [List.mem_filter, List.mem_singleton, decide_eq_true_eq]
  constructor
  · rintro ⟨hx, hxv⟩
    exact eq_of_clash hx hr (Or.inr ⟨u, hu, by rw [hxv]; exact Option.some_ne_none v, hxv.trans hv.symm⟩)
  · rintro rfl
    exact ⟨hr, hv⟩

/-! ## Writing -/

/-- Add a row, unless it clashes with one of the table. -/
def insert (t : Table ρ) (r : ρ) : Option (Table ρ) :=
  if h : ∀ x ∈ t.rows, ¬ Clash x r then
    some ⟨t.rows ++ [r], List.pairwise_append.mpr
      ⟨t.distinct, List.pairwise_singleton _ _, fun x hx y hy => by
        rw [List.mem_singleton] at hy; subst hy; exact h x hx⟩⟩
  else none

/-- Put `r` in the place of the row with the key `k`, unless it clashes with another row. -/
def replace (t : Table ρ) (k : κ) (r : ρ) : Option (Table ρ) :=
  if h : ∀ x ∈ t.rows, key x ≠ k → ¬ Clash x r then
    some ⟨t.rows.map (fun x => if key x = k then r else x), by
      rw [List.pairwise_map]
      refine t.distinct.imp_of_mem fun {a b} ha hb hab => ?_
      by_cases hka : key a = k <;> by_cases hkb : key b = k
      · exact absurd (Or.inl (hka.trans hkb.symm)) hab
      · simp only [hka, hkb, if_true, if_false]; exact fun hc => h b hb hkb hc.symm
      · simp only [hka, hkb, if_true, if_false]; exact h a ha hka
      · simpa only [hka, hkb, if_false] using hab⟩
  else none

omit [DecidableEq κ] in
/-- The rows that satisfy `p`. -/
def filter (t : Table ρ) (p : ρ → Bool) : Table ρ := ⟨t.rows.filter p, t.distinct.filter p⟩

omit [DecidableEq κ] in
/-- Rewrite every row, keeping its key and its unique columns. -/
def mapKeys (t : Table ρ) (f : ρ → ρ) (hf : ∀ r, SameKeys r (f r)) : Table ρ :=
  ⟨t.rows.map f, by
    rw [List.pairwise_map]
    refine t.distinct.imp fun {a b} hab hc => hab ?_
    have := (hf b).clash.mp hc
    exact ((hf a).clash.mp this.symm).symm⟩

/-! ## Reading after a write -/

omit [DecidableEq κ] in
theorem eq_of_rows (h : t.rows = t'.rows) : t = t' := by
  cases t
  cases t'
  cases h
  rfl

theorem rows_insert (h : t.insert r = some t') : t'.rows = t.rows ++ [r] := by
  unfold insert at h
  split at h
  · cases h; rfl
  · cases h

theorem rows_replace (h : t.replace k r = some t') :
    t'.rows = t.rows.map (fun x => if key x = k then r else x) := by
  unfold replace at h
  split at h
  · cases h; rfl
  · cases h

theorem mem_insert (h : t.insert r = some t') : x ∈ t'.rows ↔ x ∈ t.rows ∨ x = r := by
  rw [rows_insert h, List.mem_append, List.mem_singleton]

theorem insert_isSome (h : ∀ x ∈ t.rows, ¬ Clash x r) : ∃ t', t.insert r = some t' := by
  unfold insert
  rw [dif_pos h]
  exact ⟨_, rfl⟩

theorem not_clash_of_insert (h : t.insert r = some t') : ∀ x ∈ t.rows, ¬ Clash x r := by
  unfold insert at h
  split at h
  · assumption
  · cases h

/-- The key of an inserted row is new. -/
theorem not_has_of_insert (h : t.insert r = some t') : ¬ t.Has (key r) := by
  rintro ⟨x, hx, hkey⟩
  exact not_clash_of_insert h x hx (Or.inl hkey)

/-- A row read after an insertion was there before, or is the new one. -/
theorem find?_of_insert (h : t.insert r = some t') (hx : t'.find? k = some x) : t.find? k = some x ∨ x = r := by
  rw [find?_eq_some] at hx
  rcases (mem_insert h).mp hx.1 with hm | rfl
  · exact Or.inl (find?_eq_some.mpr ⟨hm, hx.2⟩)
  · exact Or.inr rfl

/-- Reading in a part of the table. -/
theorem find?_filter {p : ρ → Bool} : (t.filter p).find? k = (t.find? k).filter p := by
  cases hx : t.find? k with
  | none =>
    rw [Option.filter_none, find?_eq_none]
    exact fun r hr => find?_eq_none.mp hx r (List.mem_of_mem_filter hr)
  | some x =>
    obtain ⟨hmem, hkey⟩ := find?_eq_some.mp hx
    by_cases hp : p x = true
    · rw [Option.filter_some, if_pos hp, find?_eq_some]
      exact ⟨List.mem_filter.mpr ⟨hmem, hp⟩, hkey⟩
    · rw [Option.filter_some, if_neg hp, find?_eq_none]
      intro r hr hrk
      have hsame : r = x := eq_of_clash (List.mem_of_mem_filter hr) hmem (Or.inl (hrk.trans hkey.symm))
      exact hp (hsame ▸ (List.mem_filter.mp hr).2)

theorem mem_replace (h : t.replace k r = some t') (hx : x ∈ t'.rows) : x = r ∨ x ∈ t.rows ∧ key x ≠ k := by
  rw [rows_replace h, List.mem_map] at hx
  obtain ⟨y, hy, rfl⟩ := hx
  by_cases hk : key y = k
  · simp [hk]
  · simp [hk, hy]

/-- The replaced row. -/
theorem find?_replace (h : t.replace k r = some t') (hr : key r = k) (hx : t.find? k = some x) :
    t'.find? k = some r := by
  obtain ⟨hm, hk⟩ := find?_eq_some.mp hx
  rw [find?_eq_some, rows_replace h]
  exact ⟨List.mem_map.mpr ⟨x, hm, by simp [hk]⟩, hr⟩

/-- The other rows. -/
theorem find?_replace_ne (h : t.replace k r = some t') (hr : key r = k) (hj : j ≠ k) : t'.find? j = t.find? j := by
  have hrows := rows_replace h
  cases hx : t.find? j with
  | some x =>
    obtain ⟨hm, hk⟩ := find?_eq_some.mp hx
    rw [find?_eq_some, hrows]
    exact ⟨List.mem_map.mpr ⟨x, hm, by simp [hk, hj]⟩, hk⟩
  | none =>
    rw [find?_eq_none] at hx ⊢
    intro y hy
    rcases mem_replace h hy with rfl | ⟨hm, -⟩
    · exact fun e => hj (e.symm.trans hr)
    · exact hx y hm

theorem find?_replace_eq (h : t.replace k r = some t') (hr : key r = k) (hx : t.find? k = some x) :
    t'.find? j = if j = k then some r else t.find? j := by
  split
  · rename_i hj
    subst hj
    exact find?_replace h hr hx
  · rename_i hj
    exact find?_replace_ne h hr hj

/-- Replacing a row leaves the keys of the table. -/
theorem has_replace (h : t.replace k r = some t') (hr : key r = k) (hx : t.find? k = some x) : t'.Has j ↔ t.Has j := by
  rw [has_iff, has_iff, find?_replace_eq h hr hx]
  split
  · rename_i hj
    subst hj
    exact ⟨fun _ => ⟨x, hx⟩, fun _ => ⟨r, rfl⟩⟩
  · rfl

/-- A replacement that empties unique columns, and keeps the others and the key, is never refused. -/
theorem replace_isSome_of (hx : t.find? k = some x) (hkey : key r = key x)
    (hu : ∀ u ∈ uniques (ρ := ρ), u r = none ∨ u r = u x) : ∃ t', t.replace k r = some t' := by
  obtain ⟨hm, hk⟩ := find?_eq_some.mp hx
  unfold replace
  refine ⟨_, dif_pos fun y hy hne hc => hne ?_⟩
  rcases hc with hkeys | ⟨u, hmem, hfilled, heq⟩
  · exact hkeys.trans (hkey.trans hk)
  · rcases hu u hmem with hnone | hsame
    · exact absurd (heq.trans hnone) hfilled
    · rw [eq_of_clash hy hm (Or.inr ⟨u, hmem, hfilled, heq.trans hsame⟩)]
      exact hk

/-- Replacing a row by one with the same key and unique columns is never refused. -/
theorem replace_isSome (hx : t.find? k = some x) (hs : SameKeys x r) : ∃ t', t.replace k r = some t' :=
  replace_isSome_of hx hs.1 fun u hu => Or.inr (hs.2 u hu)

/-- `data` on the row with the key `k`, nothing on the others. -/
def atKey (k : κ) (data : ρ → ρ) (x : ρ) : ρ := if key x = k then data x else x

theorem atKey_eq {data : ρ → ρ} (h : key x = k) : atKey k data x = data x := if_pos h

theorem atKey_ne {data : ρ → ρ} (h : key x ≠ k) : atKey k data x = x := if_neg h

theorem atKey_cases (k : κ) (f : ρ → ρ) (r : ρ) : atKey k f r = r ∨ Keyed.key r = k ∧ atKey k f r = f r := by
  by_cases h : Keyed.key r = k
  · exact Or.inr ⟨h, atKey_eq h⟩
  · exact Or.inl (atKey_ne h)

/-- A column that `data` keeps is kept. -/
theorem atKey_column {α : Type} {data : ρ → ρ} (c : ρ → α) (h : ∀ x, c (data x) = c x) (x : ρ) :
    c (atKey k data x) = c x := by
  unfold atKey
  split
  · exact h x
  · rfl

/-- Replacing the row found is mapping the rows. -/
theorem rows_replace_data {data : ρ → ρ} (h : t.replace k (data x) = some t') (hx : t.find? k = some x) :
    t'.rows = t.rows.map (atKey k data) := by
  rw [rows_replace h]
  refine List.map_congr_left fun y hy => ?_
  obtain ⟨hm, hk⟩ := find?_eq_some.mp hx
  by_cases hy' : key y = k
  · rw [if_pos hy', atKey_eq hy', eq_of_clash hy hm (Or.inl (hy'.trans hk.symm))]
  · rw [if_neg hy', atKey_ne hy']

/-- Reading a row after the rows were mapped by something that keeps the keys. -/
theorem find?_map {f : ρ → ρ} (h : t'.rows = t.rows.map f) (hf : ∀ r, key (f r) = key r) :
    t'.find? k = (t.find? k).map f := by
  unfold find?
  rw [h, List.find?_map]
  congr 2
  funext r
  simp [hf]

theorem findUnique?_map {f : ρ → ρ} {u : ρ → Option κ} {v : κ} (h : t'.rows = t.rows.map f)
    (hf : ∀ r, u (f r) = u r) : t'.findUnique? u v = (t.findUnique? u v).map f := by
  unfold findUnique?
  rw [h, List.find?_map]
  congr 2
  funext r
  simp [hf]

end Table

end Lib
