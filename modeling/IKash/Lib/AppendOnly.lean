import Mathlib.Data.List.Forall2
import Mathlib.Tactic.Common

/-!
# Lists that only grow

`AppendOnly edit fresh xs ys`: the entries of `xs` are still the first ones of `ys`, each as it was or as an `edit` of
it, and every later entry is `fresh`.

- `AppendOnly.trans`: it composes, when edits do and keep a fresh entry fresh;
- `AppendOnly.getElem?`: an entry stays at its place;
- `AppendOnly.column`: a column that no edit changes is append-only in the strict sense;
- `AppendOnly.mem`: an entry is an edit of an old one, or fresh.

`Sourced edit fresh xs ys` is what is left of that where entries may also go: every entry of `ys` is an edit of one of
`xs`, or of a fresh one (`Sourced.trans`).
-/

namespace Lib

variable {α β : Type} {edit : α → α → Prop} {fresh : α → Prop} {xs ys zs : List α}

/-- `ys` is `xs` with some entries edited and some added at the end. -/
def AppendOnly (edit : α → α → Prop) (fresh : α → Prop) (xs ys : List α) : Prop :=
  ∃ kept new, List.Forall₂ edit xs kept ∧ (∀ y ∈ new, fresh y) ∧ ys = kept ++ new

namespace AppendOnly

theorem refl (hrefl : ∀ x, edit x x) (xs : List α) : AppendOnly edit fresh xs xs :=
  ⟨xs, [], List.forall₂_same.mpr fun x _ => hrefl x, fun _ h => (List.not_mem_nil h).elim, (List.append_nil xs).symm⟩

/-- Entries are added. -/
theorem append (hrefl : ∀ x, edit x x) {new : List α} (h : ∀ y ∈ new, fresh y) :
    AppendOnly edit fresh xs (xs ++ new) := ⟨xs, new, List.forall₂_same.mpr fun x _ => hrefl x, h, rfl⟩

/-- Every entry is edited. -/
theorem map {f : α → α} (h : ∀ x ∈ xs, edit x (f x)) : AppendOnly edit fresh xs (xs.map f) := by
  refine ⟨xs.map f, [], ?_, fun _ hy => (List.not_mem_nil hy).elim, (List.append_nil _).symm⟩
  rw [List.forall₂_map_right_iff]
  exact List.forall₂_same.mpr h

theorem trans (htrans : ∀ {a b c}, edit a b → edit b c → edit a c) (hfresh : ∀ {a b}, fresh a → edit a b → fresh b)
    (h : AppendOnly edit fresh xs ys) (h' : AppendOnly edit fresh ys zs) : AppendOnly edit fresh xs zs := by
  obtain ⟨kept, new, hkept, hnew, rfl⟩ := h
  obtain ⟨kept', new', hkept', hnew', rfl⟩ := h'
  -- the second change edits the kept entries and the ones that the first had added
  refine ⟨kept'.take kept.length, kept'.drop kept.length ++ new', ?_, fun y hy => ?_, ?_⟩
  · have hfirst := List.forall₂_take kept.length hkept'
    rw [List.take_left] at hfirst
    refine List.forall₂_iff_get.mpr ⟨hkept.length_eq.trans hfirst.length_eq, fun i h₁ h₃ => ?_⟩
    have h₂ : i < kept.length := hkept.length_eq ▸ h₁
    exact htrans (hkept.get h₁ h₂) (hfirst.get h₂ h₃)
  · rcases List.mem_append.mp hy with hy | hy
    · have hlast := List.forall₂_drop kept.length hkept'
      rw [List.drop_left] at hlast
      obtain ⟨i, hi, rfl⟩ := List.getElem_of_mem hy
      have hi' : i < new.length := hlast.length_eq ▸ hi
      exact hfresh (hnew _ (List.getElem_mem hi')) (hlast.get hi' hi)
    · exact hnew' y hy
  · rw [← List.append_assoc, List.take_append_drop]

theorem mono {edit' : α → α → Prop} {fresh' : α → Prop} (he : ∀ a b, edit a b → edit' a b)
    (hf : ∀ a, fresh a → fresh' a) (h : AppendOnly edit fresh xs ys) : AppendOnly edit' fresh' xs ys := by
  obtain ⟨kept, new, hkept, hnew, rfl⟩ := h
  exact ⟨kept, new, hkept.imp fun _ _ => he _ _, fun y hy => hf y (hnew y hy), rfl⟩

theorem length_le (h : AppendOnly edit fresh xs ys) : xs.length ≤ ys.length := by
  obtain ⟨kept, new, hkept, -, rfl⟩ := h
  rw [List.length_append, hkept.length_eq]
  exact Nat.le_add_right _ _

/-- An entry stays at its place. -/
theorem getElem? (h : AppendOnly edit fresh xs ys) {i : ℕ} {x : α} (hx : xs[i]? = some x) :
    ∃ y, ys[i]? = some y ∧ edit x y := by
  obtain ⟨kept, new, hkept, -, rfl⟩ := h
  obtain ⟨hi, rfl⟩ := List.getElem?_eq_some_iff.mp hx
  have hi' : i < kept.length := hkept.length_eq ▸ hi
  exact ⟨kept[i], by rw [List.getElem?_append_left hi', List.getElem?_eq_getElem hi'], hkept.get hi hi'⟩

theorem kept {x : α} (h : AppendOnly edit fresh xs ys) (hx : x ∈ xs) : ∃ y ∈ ys, edit x y := by
  obtain ⟨i, hi⟩ := List.mem_iff_getElem?.mp hx
  obtain ⟨y, hy, hxy⟩ := h.getElem? hi
  exact ⟨y, List.mem_of_getElem? hy, hxy⟩

/-- A column that no edit changes is only added to. -/
theorem column {f : α → β} (hf : ∀ x y, edit x y → f y = f x) (h : AppendOnly edit fresh xs ys) :
    xs.map f <+: ys.map f := by
  obtain ⟨kept, new, hkept, -, rfl⟩ := h
  have hsame : kept.map f = xs.map f := by
    induction hkept with
    | nil => rfl
    | cons hxy _ ih => rw [List.map_cons, List.map_cons, ih, hf _ _ hxy]
  rw [List.map_append, hsame]
  exact List.prefix_append _ _

/-- An entry is an edit of an old one, or fresh. -/
theorem mem {y : α} (h : AppendOnly edit fresh xs ys) (hy : y ∈ ys) : (∃ x ∈ xs, edit x y) ∨ fresh y := by
  obtain ⟨kept, new, hkept, hnew, rfl⟩ := h
  rcases List.mem_append.mp hy with hy | hy
  · obtain ⟨i, hi, rfl⟩ := List.getElem_of_mem hy
    have hi' : i < xs.length := hkept.length_eq ▸ hi
    exact Or.inl ⟨xs[i], List.getElem_mem hi', hkept.get hi' hi⟩
  · exact Or.inr (hnew y hy)

end AppendOnly

/-- Every entry of `ys` comes from one of `xs`, or from a fresh one. -/
def Sourced (edit : α → α → Prop) (fresh : α → Prop) (xs ys : List α) : Prop :=
  ∀ y ∈ ys, ∃ x, (x ∈ xs ∨ fresh x) ∧ edit x y

namespace Sourced

theorem of_subset (hrefl : ∀ x, edit x x) (h : ys ⊆ xs) : Sourced edit fresh xs ys :=
  fun y hy => ⟨y, Or.inl (h hy), hrefl y⟩

theorem append (hrefl : ∀ x, edit x x) {new : List α} (h : ∀ y ∈ new, fresh y) : Sourced edit fresh xs (xs ++ new) :=
  fun y hy => ⟨y, (List.mem_append.mp hy).imp_right (h y), hrefl y⟩

theorem map {f : α → α} (h : ∀ x ∈ xs, edit x (f x)) : Sourced edit fresh xs (xs.map f) := by
  intro y hy
  obtain ⟨x, hx, rfl⟩ := List.mem_map.mp hy
  exact ⟨x, Or.inl hx, h x hx⟩

theorem trans (htrans : ∀ {a b c}, edit a b → edit b c → edit a c) (h : Sourced edit fresh xs ys)
    (h' : Sourced edit fresh ys zs) : Sourced edit fresh xs zs := by
  intro z hz
  obtain ⟨y, hy | hy, hyz⟩ := h' z hz
  · obtain ⟨x, hx, hxy⟩ := h y hy
    exact ⟨x, hx, htrans hxy hyz⟩
  · exact ⟨y, Or.inr hy, hyz⟩

end Sourced

end Lib
