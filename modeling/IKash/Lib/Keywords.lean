import Mathlib.Data.List.Infix
import Mathlib.Tactic.Common

/-!
# Classification by keywords

A text is a list of letters, and a keyword is mentioned by the texts it is a contiguous part of. Rules are tried in
order: the kind of some texts is that of the first rule that fires, a rule firing when one of the texts mentions one of
its keywords.

- a separator that is in no keyword keeps the texts it joins apart (`infix_intercalate_iff`, `classify_intercalate`);
- the rank of a rule decides: texts put together have the lower of their ranks (`rank_append`), and the kinds are the
  same exactly if the ranks are (`classify_eq_iff`).
-/

namespace Lib
namespace Keywords

variable {α β : Type}

/-! ## Joined texts -/

/-- A prefix without the separator does not reach it. -/
theorem prefix_append_cons_iff {sep : α} {kw t rest : List α} (hsep : sep ∉ kw) :
    kw <+: t ++ sep :: rest ↔ kw <+: t := by
  induction t generalizing kw with
  | nil =>
    rw [List.nil_append, List.prefix_cons_iff, List.prefix_nil]
    constructor
    · rintro (h | ⟨t, rfl, -⟩)
      · exact h
      · exact absurd List.mem_cons_self hsep
    · exact Or.inl
  | cons a t ih =>
    rw [List.cons_append, List.prefix_cons_iff, List.prefix_cons_iff]
    constructor
    · rintro (h | ⟨u, rfl, hu⟩)
      · exact Or.inl h
      · exact Or.inr ⟨u, rfl, (ih fun h => hsep (List.mem_cons_of_mem _ h)).mp hu⟩
    · rintro (h | ⟨u, rfl, hu⟩)
      · exact Or.inl h
      · exact Or.inr ⟨u, rfl, (ih fun h => hsep (List.mem_cons_of_mem _ h)).mpr hu⟩

/-- A keyword without the separator is on one of its sides. -/
theorem infix_append_cons_iff {sep : α} {kw t rest : List α} (hsep : sep ∉ kw) :
    kw <:+: t ++ sep :: rest ↔ kw <:+: t ∨ kw <:+: rest := by
  induction t with
  | nil =>
    have hprefix : kw <+: sep :: rest ↔ kw <+: [] := prefix_append_cons_iff (t := []) hsep
    rw [List.nil_append, List.infix_cons_iff, hprefix, List.prefix_nil, List.infix_nil]
  | cons a t ih =>
    have hprefix : kw <+: a :: (t ++ sep :: rest) ↔ kw <+: a :: t := prefix_append_cons_iff (t := a :: t) hsep
    rw [List.cons_append, List.infix_cons_iff, List.infix_cons_iff, hprefix, ih, or_assoc]

theorem infix_intercalate_iff {sep : α} {kw : List α} (hne : kw ≠ []) (hsep : sep ∉ kw) :
    ∀ ts : List (List α), kw <:+: [sep].intercalate ts ↔ ∃ t ∈ ts, kw <:+: t
  | [] => by simp [List.intercalate_nil, hne]
  | [t] => by simp [List.intercalate_singleton]
  | t :: u :: rest => by
    have ih := infix_intercalate_iff hne hsep (u :: rest)
    rw [List.intercalate_cons_cons, List.append_assoc, List.singleton_append, infix_append_cons_iff hsep, ih]
    simp only [List.mem_cons, exists_eq_or_imp]

/-! ## Rules -/

/-- Keywords, and the kind they stand for. -/
structure Rule (α β : Type) where
  keywords : List (List α)
  kind : β

/-- One of the texts mentions a keyword of the rule. -/
def Rule.Fires (r : Rule α β) (texts : List (List α)) : Prop := ∃ kw ∈ r.keywords, ∃ t ∈ texts, kw <:+: t

theorem Rule.fires_append {r : Rule α β} {ts us : List (List α)} : r.Fires (ts ++ us) ↔ r.Fires ts ∨ r.Fires us := by
  unfold Rule.Fires
  simp only [List.mem_append, or_and_right, exists_or, and_or_left]

/-- The keywords stay clear of the separator. -/
def Rule.Separate (sep : α) (r : Rule α β) : Prop := ∀ kw ∈ r.keywords, kw ≠ [] ∧ sep ∉ kw

theorem Rule.fires_intercalate {r : Rule α β} {sep : α} (h : r.Separate sep) (ts : List (List α)) :
    r.Fires [[sep].intercalate ts] ↔ r.Fires ts := by
  unfold Rule.Fires
  refine exists_congr fun kw => and_congr_right fun hkw => ?_
  obtain ⟨hne, hsep⟩ := h kw hkw
  simp only [List.mem_singleton, exists_eq_left]
  exact infix_intercalate_iff hne hsep ts

variable [DecidableEq α]

instance (r : Rule α β) (texts : List (List α)) : Decidable (r.Fires texts) :=
  inferInstanceAs (Decidable (∃ kw ∈ r.keywords, ∃ t ∈ texts, kw <:+: t))

variable {rules : List (Rule α β)} {ts us : List (List α)} {sep : α} {i : ℕ}

/-- The place of the first rule that fires; the number of rules if none does. -/
def rank (rules : List (Rule α β)) (texts : List (List α)) : ℕ := rules.findIdx fun r => r.Fires texts

/-- The kind of the first rule that fires. -/
def classify (rules : List (Rule α β)) (texts : List (List α)) : Option β := rules[rank rules texts]?.map Rule.kind

theorem classify_cons (r : Rule α β) (rules : List (Rule α β)) (texts : List (List α)) :
    classify (r :: rules) texts = if r.Fires texts then some r.kind else classify rules texts := by
  unfold classify rank
  rw [List.findIdx_cons]
  by_cases h : r.Fires texts <;> simp [h]

theorem rank_le_length (rules : List (Rule α β)) (texts : List (List α)) : rank rules texts ≤ rules.length :=
  List.findIdx_le_length

theorem fires_at_rank (h : rank rules ts < rules.length) : rules[rank rules ts].Fires ts :=
  of_decide_eq_true (List.findIdx_getElem (w := h))

/-- The rules before the rank do not fire. -/
theorem le_rank_iff (hi : i ≤ rules.length) : i ≤ rank rules ts ↔ ∀ r ∈ rules.take i, ¬ r.Fires ts := by
  constructor
  · intro h r hr
    obtain ⟨j, hj, rfl⟩ := List.mem_take_iff_getElem.mp hr
    have hlt : j < rank rules ts := by omega
    exact of_decide_eq_false (by simpa using List.not_of_lt_findIdx hlt)
  · intro h
    by_contra hlt
    have hrank : rank rules ts < rules.length := by omega
    exact h _ (List.mem_take_iff_getElem.mpr ⟨_, by omega, rfl⟩) (fires_at_rank hrank)

/-- The rank of the texts is the place of a rule that fires, after rules that do not. -/
theorem rank_eq_iff {r : Rule α β} (hr : rules[i]? = some r) :
    rank rules ts = i ↔ (∀ r' ∈ rules.take i, ¬ r'.Fires ts) ∧ r.Fires ts := by
  obtain ⟨hlt, rfl⟩ := List.getElem?_eq_some_iff.mp hr
  rw [← le_rank_iff hlt.le]
  constructor
  · rintro rfl
    exact ⟨le_rfl, fires_at_rank hlt⟩
  · rintro ⟨hle, hfires⟩
    by_contra hne
    have hnext : i + 1 ≤ rank rules ts := by omega
    exact (le_rank_iff hlt).mp hnext _ (List.mem_take_iff_getElem.mpr ⟨i, by omega, rfl⟩) hfires

/-- Texts that are put together have the lower rank of the two. -/
theorem rank_append : rank rules (ts ++ us) = min (rank rules ts) (rank rules us) := by
  unfold rank
  induction rules with
  | nil => rfl
  | cons r rules ih =>
    rw [List.findIdx_cons, List.findIdx_cons, List.findIdx_cons, ih]
    by_cases ht : r.Fires ts <;> by_cases hu : r.Fires us <;> simp [Rule.fires_append, ht, hu]

theorem rank_intercalate (h : ∀ r ∈ rules, r.Separate sep) : rank rules [[sep].intercalate ts] = rank rules ts := by
  unfold rank
  induction rules with
  | nil => rfl
  | cons r rules ih =>
    rw [List.findIdx_cons, List.findIdx_cons, ih fun r' hr' => h r' (List.mem_cons_of_mem _ hr')]
    simp only [Rule.fires_intercalate (h r List.mem_cons_self)]

/-- Joined texts are classified as the texts are. -/
theorem classify_intercalate (h : ∀ r ∈ rules, r.Separate sep) :
    classify rules [[sep].intercalate ts] = classify rules ts := by
  unfold classify
  rw [rank_intercalate h]

/-- When the kinds of the rules differ, they are as good as the ranks. -/
theorem classify_eq_iff (hnodup : (rules.map Rule.kind).Nodup) :
    classify rules ts = classify rules us ↔ rank rules ts = rank rules us := by
  refine ⟨fun h => ?_, fun h => by unfold classify; rw [h]⟩
  unfold classify at h
  rw [← List.getElem?_map, ← List.getElem?_map] at h
  have ht := rank_le_length rules ts
  have hu := rank_le_length rules us
  rcases Nat.lt_or_ge (rank rules ts) rules.length with hlt | hge
  · exact (List.getElem?_inj (by simpa using hlt) hnodup).mp h
  · rw [List.getElem?_eq_none (by simpa using hge), eq_comm, List.getElem?_eq_none_iff, List.length_map] at h
    omega

theorem classify_eq_some_iff (hnodup : (rules.map Rule.kind).Nodup) {r : Rule α β} (hr : rules[i]? = some r) :
    classify rules ts = some r.kind ↔ rank rules ts = i := by
  have hkind : (rules.map Rule.kind)[i]? = some r.kind := by rw [List.getElem?_map, hr, Option.map_some]
  unfold classify
  rw [← List.getElem?_map, ← hkind, eq_comm,
    List.getElem?_inj (by simpa using (List.getElem?_eq_some_iff.mp hr).1) hnodup, eq_comm]

end Keywords
end Lib
