import Mathlib.Data.List.Basic
import Mathlib.Data.List.Induction
import Mathlib.Tactic.Common

/-!
# Machines and their runs

A machine answers every input with an output and a next state. A run is the list of the inputs it was given.

- `Along M C s is`: the side condition `C` holds at every step of the run (`along_iff`, `along_append`);
- an invariant kept by every step that meets `C` holds after the run (`run_inv`), and what the invariant and `C`
  give at one step holds along the run (`along_of_inv`);
- what a step adds to a state exactly if it meets `C`, a run adds exactly if it meets `C` at every step (`run_iff_along`);
- a machine on a part of the state runs along (`run_map`, `along_map`), and one that stays related answers alike
  (`outputs_eq`);
- a fact that no step creates without a cause has a cause in the run (`run_origin`, `run_origin_iff`), and the last step
  that established it had one (`along_caused_iff`).
-/

namespace Lib

/-- What a machine answers in a state to an input, and the state after. -/
structure Machine (σ ι ο : Type) where
  step : σ → ι → ο × σ

namespace Machine

variable {σ ι ο : Type} (M : Machine σ ι ο)

def next (s : σ) (i : ι) : σ := (M.step s i).2

/-- The state after the inputs. -/
def run : σ → List ι → σ
  | s, [] => s
  | s, i :: is => run (M.next s i) is

/-- What the machine answered. -/
def outputs : σ → List ι → List ο
  | _, [] => []
  | s, i :: is => (M.step s i).1 :: outputs (M.next s i) is

/-- The inputs that were answered with `p`. -/
def answered (p : ι → ο → Bool) : σ → List ι → List ι
  | _, [] => []
  | s, i :: is =>
    if p i (M.step s i).1 then i :: answered p (M.next s i) is else answered p (M.next s i) is

/-- `C` holds at every step of the run. -/
def Along (C : σ → ι → Prop) : σ → List ι → Prop
  | _, [] => True
  | s, i :: is => C s i ∧ Along C (M.next s i) is

instance decidableAlong (C : σ → ι → Prop) [∀ s i, Decidable (C s i)] : ∀ s is, Decidable (M.Along C s is)
  | _, [] => isTrue trivial
  | s, i :: is => @instDecidableAnd _ _ _ (decidableAlong C (M.next s i) is)

variable {M} {C D : σ → ι → Prop} {s : σ} {is : List ι}

@[simp] theorem run_nil : M.run s [] = s := rfl

@[simp] theorem run_cons (i : ι) : M.run s (i :: is) = M.run (M.next s i) is := rfl

@[simp] theorem along_nil : M.Along C s [] := trivial

@[simp] theorem along_cons (i : ι) : M.Along C s (i :: is) ↔ C s i ∧ M.Along C (M.next s i) is := Iff.rfl

theorem run_append : ∀ (s : σ) (is js : List ι), M.run s (is ++ js) = M.run (M.run s is) js
  | _, [], _ => rfl
  | s, i :: is, js => run_append (M.next s i) is js

theorem run_concat (s : σ) (is : List ι) (i : ι) : M.run s (is ++ [i]) = M.next (M.run s is) i := by
  rw [run_append, run_cons, run_nil]

/-- A machine on the part of the state that `f` keeps runs along. -/
theorem run_map {τ ο' : Type} {N : Machine τ ι ο'} {f : σ → τ} (h : ∀ s i, N.next (f s) i = f (M.next s i)) (s : σ)
    (is : List ι) : N.run (f s) is = f (M.run s is) := by
  induction is generalizing s with
  | nil => rfl
  | cons i is ih => rw [run_cons, run_cons, h, ih]

theorem along_append : ∀ (s : σ) (is js : List ι),
    M.Along C s (is ++ js) ↔ M.Along C s is ∧ M.Along C (M.run s is) js
  | _, [], _ => by simp
  | s, i :: is, js => by simp [along_append (M.next s i) is js, and_assoc]

@[simp] theorem outputs_nil : M.outputs s [] = [] := rfl

@[simp] theorem outputs_cons (i : ι) : M.outputs s (i :: is) = (M.step s i).1 :: M.outputs (M.next s i) is := rfl

theorem answered_cons {p : ι → ο → Bool} {i : ι} {o : ο} {s' : σ} (h : M.step s i = (o, s')) :
    M.answered p s (i :: is) = if p i o then i :: M.answered p s' is else M.answered p s' is := by
  rw [answered, next, h]

theorem answered_subset (p : ι → ο → Bool) : ∀ (s : σ) (is : List ι), M.answered p s is ⊆ is
  | _, [] => List.Subset.refl _
  | s, i :: is => by
    rw [answered_cons rfl]
    split
    · exact List.cons_subset_cons i (answered_subset p _ is)
    · exact List.subset_cons_of_subset i (answered_subset p _ is)

/-- The side condition at every split of the run. -/
theorem along_iff : ∀ {s : σ} {is : List ι},
    M.Along C s is ↔ ∀ pre i post, is = pre ++ i :: post → C (M.run s pre) i
  | _, [] => by simp
  | s, i :: is => by
    rw [along_cons, along_iff]
    constructor
    · rintro ⟨hi, hrest⟩ pre j post he
      cases pre with
      | nil =>
        simp only [List.nil_append, List.cons.injEq] at he
        obtain ⟨rfl, -⟩ := he
        exact hi
      | cons k pre =>
        simp only [List.cons_append, List.cons.injEq] at he
        obtain ⟨rfl, he⟩ := he
        exact hrest pre j post he
    · intro h
      refine ⟨h [] i is rfl, fun pre j post he => ?_⟩
      exact h (i :: pre) j post (by rw [he]; rfl)

theorem along_map {τ ο' : Type} {N : Machine τ ι ο'} {f : σ → τ} {D : τ → ι → Prop}
    (h : ∀ s i, N.next (f s) i = f (M.next s i)) (s : σ) (is : List ι) :
    N.Along D (f s) is ↔ M.Along (fun s i => D (f s) i) s is := by
  induction is generalizing s with
  | nil => exact Iff.rfl
  | cons i is ih => rw [along_cons, along_cons, h, ih]

theorem Along.mono (h : ∀ s i, C s i → D s i) (ha : M.Along C s is) : M.Along D s is := by
  rw [along_iff] at ha ⊢
  exact fun pre i post he => h _ _ (ha pre i post he)

theorem Along.and (h : M.Along C s is) (h' : M.Along D s is) : M.Along (fun s i => C s i ∧ D s i) s is := by
  rw [along_iff] at h h' ⊢
  exact fun pre i post he => ⟨h pre i post he, h' pre i post he⟩

theorem Along.iff (h : M.Along (fun s i => C s i ↔ D s i) s is) : M.Along C s is ↔ M.Along D s is := by
  rw [along_iff] at h
  rw [along_iff, along_iff]
  constructor
  · exact fun hC pre i post he => (h pre i post he).mp (hC pre i post he)
  · exact fun hD pre i post he => (h pre i post he).mpr (hD pre i post he)

/-- A side condition on the inputs alone. -/
theorem along_of_forall (h : ∀ i ∈ is, ∀ s, C s i) : M.Along C s is := by
  rw [along_iff]
  rintro pre i post rfl
  exact h i (by simp) _

/-- **Invariants.** A property that every step meeting the side condition keeps holds after the run. -/
theorem run_inv {I : σ → Prop} (hstep : ∀ s i, I s → C s i → I (M.next s i)) (h0 : I s) (ha : M.Along C s is) :
    I (M.run s is) := by
  induction is generalizing s with
  | nil => exact h0
  | cons i is ih => exact ih (hstep s i h0 ha.1) ha.2

/-- What every step has exactly if it meets the side condition, the run has exactly if it was there before and every
step meets the condition. -/
theorem run_iff_along {I : σ → Prop} (h : ∀ s i, I (M.next s i) ↔ I s ∧ C s i) : I (M.run s is) ↔ I s ∧ M.Along C s is := by
  induction is generalizing s with
  | nil => rw [run_nil, and_iff_left along_nil]
  | cons i is ih => rw [run_cons, ih, h, along_cons, and_assoc]

/-- What an invariant and the side condition give at one step holds along the run. -/
theorem along_of_inv {I : σ → Prop} (hstep : ∀ s i, I s → C s i → I (M.next s i))
    (hD : ∀ s i, I s → C s i → D s i) (h0 : I s) (ha : M.Along C s is) : M.Along D s is := by
  rw [along_iff]
  intro pre i post he
  rw [he, along_append] at ha
  exact hD _ _ (run_inv hstep h0 ha.1) ha.2.1

/-- Steps that stay in a preorder compose. -/
theorem Along.run_rel {R : σ → σ → Prop} (hrefl : ∀ s, R s s) (htrans : ∀ {a b c}, R a b → R b c → R a c)
    (h : M.Along (fun s i => R s (M.next s i)) s is) : R s (M.run s is) := by
  induction is generalizing s with
  | nil => exact hrefl s
  | cons i is ih => exact htrans h.1 (ih h.2)

/-- Every step stays in a preorder exactly when every two moments of the run are in it. -/
theorem along_step_iff {R : σ → σ → Prop} (hrefl : ∀ s, R s s) (htrans : ∀ {a b c}, R a b → R b c → R a c) :
    M.Along (fun s i => R s (M.next s i)) s is ↔
      ∀ pre mid post, is = pre ++ mid ++ post → R (M.run s pre) (M.run s (pre ++ mid)) := by
  constructor
  · rintro h pre mid post rfl
    rw [along_append, along_append] at h
    rw [run_append]
    exact h.1.2.run_rel hrefl htrans
  · intro h
    rw [along_iff]
    intro pre i post he
    have := h pre [i] post (by rw [he, List.append_assoc]; rfl)
    rwa [run_append] at this

/-- **Causes.** If a step that establishes `P` is always a step with `Q`, then `P` after the run held before it or
some step of the run had `Q`. -/
theorem run_origin {P : σ → Prop} {Q : σ → ι → Prop} (h : ∀ s i, C s i → P (M.next s i) → P s ∨ Q s i)
    (ha : M.Along C s is) (hP : P (M.run s is)) : P s ∨ ∃ pre i post, is = pre ++ i :: post ∧ Q (M.run s pre) i := by
  induction is generalizing s with
  | nil => exact Or.inl hP
  | cons i is ih =>
    rcases ih ha.2 hP with hn | ⟨pre, j, post, rfl, hq⟩
    · rcases h s i ha.1 hn with h0 | hq
      · exact Or.inl h0
      · exact Or.inr ⟨[], i, is, rfl, hq⟩
    · exact Or.inr ⟨i :: pre, j, post, rfl, hq⟩

/-- A fact that lasts, and that exactly the steps with `Q` establish, holds after the run exactly if it held before it or
some step of the run had `Q`. -/
theorem run_origin_iff {P : σ → Prop} {Q : σ → ι → Prop} (h : ∀ s i, P (M.next s i) ↔ P s ∨ Q s i) :
    P (M.run s is) ↔ P s ∨ ∃ pre i post, is = pre ++ i :: post ∧ Q (M.run s pre) i := by
  constructor
  · exact run_origin (C := fun _ _ => True) (fun s i _ => (h s i).mp) (along_of_forall fun _ _ _ => trivial)
  · induction is generalizing s with
    | nil =>
      rintro (hP | ⟨pre, i, post, he, -⟩)
      · exact hP
      · cases pre <;> cases he
    | cons i is ih =>
      rintro (hP | ⟨pre, j, post, he, hq⟩)
      · exact ih (Or.inl ((h s i).mpr (Or.inl hP)))
      · cases pre with
        | nil =>
          obtain ⟨rfl, -⟩ := List.cons.inj he
          exact ih (Or.inl ((h s i).mpr (Or.inr hq)))
        | cons k pre =>
          obtain ⟨rfl, rfl⟩ := List.cons.inj he
          exact ih (Or.inr ⟨pre, j, post, rfl, hq⟩)

/-- **Simulation.** Machines that answer alike in related states, and stay related, answer alike in every run. -/
theorem outputs_eq {τ : Type} {N : Machine τ ι ο} {R : σ → τ → Prop}
    (h : ∀ s t i, R s t → (M.step s i).1 = (N.step t i).1 ∧ R (M.next s i) (N.next t i)) {t : τ} (h0 : R s t)
    (is : List ι) : M.outputs s is = N.outputs t is := by
  induction is generalizing s t with
  | nil => rfl
  | cons i is ih =>
    obtain ⟨hout, hnext⟩ := h s t i h0
    rw [outputs_cons, outputs_cons, hout, ih hnext]

/-! ## Last causes -/

/-- `P` has held all along, or the last step that established it had `Q`. -/
def Caused (M : Machine σ ι ο) (P : σ → Prop) (Q : σ → ι → Prop) (s : σ) (is : List ι) : Prop :=
  (∀ pre, pre <+: is → P (M.run s pre)) ∨
    ∃ pre i post, is = pre ++ i :: post ∧ ¬ P (M.run s pre) ∧ Q (M.run s pre) i ∧
      ∀ mid, mid <+: post → P (M.run s (pre ++ i :: mid))

section Caused

variable {P : σ → Prop} {Q : σ → ι → Prop}

/-- What still holds has the cause that it had. -/
theorem Caused.concat {i : ι} (h : M.Caused P Q s is) (hP : P (M.run s (is ++ [i]))) : M.Caused P Q s (is ++ [i]) := by
  rcases h with hall | ⟨pre, j, post, rfl, hn, hq, hstays⟩
  · refine Or.inl fun pre hpre => ?_
    rcases List.prefix_concat_iff.mp hpre with rfl | hpre
    · exact hP
    · exact hall pre hpre
  · refine Or.inr ⟨pre, j, post ++ [i], by simp, hn, hq, fun mid hmid => ?_⟩
    rcases List.prefix_concat_iff.mp hmid with rfl | hmid
    · simpa using hP
    · exact hstays mid hmid

/-- **Last causes**: every step that establishes `P` has `Q` exactly if, whenever `P` holds in the run, it has held all
along or since a step with `Q`. -/
theorem along_caused_iff : M.Along (fun s i => ¬ P s → P (M.next s i) → Q s i) s is ↔
    ∀ pre, pre <+: is → P (M.run s pre) → M.Caused P Q s pre := by
  rw [along_iff]
  constructor
  · intro h pre
    induction pre using List.reverseRecOn with
    | nil =>
      intro _ hP
      refine Or.inl fun pre hpre => ?_
      rw [List.prefix_nil.mp hpre]
      exact hP
    | append_singleton pre i ih =>
      intro hpre hP
      obtain ⟨post, he⟩ := hpre
      by_cases hbefore : P (M.run s pre)
      · exact (ih ⟨i :: post, by simpa using he⟩ hbefore).concat hP
      · have hQ := h pre i post (by simpa using he.symm) hbefore (by rwa [run_concat] at hP)
        refine Or.inr ⟨pre, i, [], rfl, hbefore, hQ, fun mid hmid => ?_⟩
        rw [List.prefix_nil.mp hmid]
        exact hP
  · intro h pre i post he hn hP
    rw [← run_concat] at hP
    rcases h (pre ++ [i]) ⟨post, by simp [he]⟩ hP with hall | ⟨pre', j, post', heq, -, hq, hstays⟩
    · exact absurd (hall pre (List.prefix_append _ _)) hn
    · rcases List.eq_nil_or_concat post' with rfl | ⟨mid, k, rfl⟩
      · obtain ⟨rfl, hij⟩ := List.append_inj' heq rfl
        rw [List.singleton_inj.mp hij]
        exact hq
      · -- `P` would have held before the step
        rw [List.concat_eq_append] at heq hstays
        obtain ⟨rfl, -⟩ := List.append_inj' (heq.trans (List.append_assoc pre' (j :: mid) [k]).symm) rfl
        exact absurd (hstays mid (List.prefix_append _ _)) hn

end Caused

end Machine

end Lib
