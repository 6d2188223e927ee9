import IKash.Lib.Svc
import Mathlib.Logic.Relation

/-!
# The statements of a service

A state that changes by statements, one after another: `Effects applies p s s'` says that `s'` comes from `s` by
statements that satisfy `p`. What one statement keeps, every service made of them keeps.

- `Effects.rel`: a preorder that each statement stays in;
- `Effects.origin`: what no statement creates without a cause;
- `Performs view applies p m`: every run of the service `m`, thrown or not, changes what `view` sees by statements that
  satisfy `p` (`Performs.bind`, `Performs.bind_reading`, `Performs.of_view`, `Performs.atomically`).
-/

namespace Lib

section Effects

variable {ω δ : Type} {applies : ω → δ → δ → Prop} {p q : ω → Prop} {d d' d'' : δ} {x : ω}

/-- Some statements that satisfy `p` lead from one state to the other. -/
def Effects (applies : ω → δ → δ → Prop) (p : ω → Prop) : δ → δ → Prop :=
  Relation.ReflTransGen fun d d' => ∃ x, p x ∧ applies x d d'

theorem Effects.refl (d : δ) : Effects applies p d d := Relation.ReflTransGen.refl

theorem Effects.trans (h : Effects applies p d d') (h' : Effects applies p d' d'') : Effects applies p d d'' :=
  Relation.ReflTransGen.trans h h'

theorem Effects.of_applies (hp : p x) (h : applies x d d') : Effects applies p d d' :=
  Relation.ReflTransGen.single ⟨x, hp, h⟩

theorem Effects.mono (hpq : ∀ x, p x → q x) (h : Effects applies p d d') : Effects applies q d d' := by
  refine Relation.ReflTransGen.mono ?_ _ _ h
  rintro a b ⟨x, hp, hx⟩
  exact ⟨x, hpq x hp, hx⟩

/-- A preorder that contains every statement contains their sequences. -/
theorem Effects.rel {R : δ → δ → Prop} (hrefl : ∀ d, R d d) (htrans : ∀ {a b c}, R a b → R b c → R a c)
    (hstep : ∀ x d d', p x → applies x d d' → R d d') (h : Effects applies p d d') : R d d' := by
  induction h with
  | refl => exact hrefl d
  | tail _ hlast ih =>
    obtain ⟨x, hp, hx⟩ := hlast
    exact htrans ih (hstep x _ _ hp hx)

/-- If a statement that establishes `P` always has `Q`, then `P` held before, or some statement has `Q`. -/
theorem Effects.origin {P : δ → Prop} {Q : ω → Prop}
    (hstep : ∀ x d d', p x → applies x d d' → P d' → P d ∨ Q x) (h : Effects applies p d d') (hP : P d') :
    P d ∨ ∃ x, p x ∧ Q x := by
  induction h with
  | refl => exact Or.inl hP
  | tail _ hlast ih =>
    obtain ⟨x, hp, hx⟩ := hlast
    rcases hstep x _ _ hp hx hP with hbefore | hq
    · exact ih hbefore
    · exact Or.inr ⟨x, hp, hq⟩

end Effects

section Performs

variable {σ ε ω δ α β : Type}

/-- Every run changes what `view` sees by statements that satisfy `p`. -/
def Performs (view : σ → δ) (applies : ω → δ → δ → Prop) (p : ω → Prop) (m : Svc σ ε α) : Prop :=
  Svc.Moves (fun s s' => Effects applies p (view s) (view s')) m

namespace Performs

variable {view : σ → δ} {applies : ω → δ → δ → Prop} {p q : ω → Prop} {m : Svc σ ε α} {f : α → Svc σ ε β}

theorem mono (hpq : ∀ x, p x → q x) (h : Performs view applies p m) : Performs view applies q m :=
  fun s => (h s).mono hpq

/-- What is seen stays the same. -/
theorem of_view (h : ∀ s, view (m.run s).2 = view s) : Performs view applies p m := by
  intro s
  rw [h s]
  exact Effects.refl _

theorem of_state (h : ∀ s, (m.run s).2 = s) : Performs view applies p m := of_view fun s => congrArg view (h s)

theorem pure (a : α) : Performs view applies p (pure a : Svc σ ε α) := of_state fun _ => rfl

theorem throw (e : ε) : Performs view applies p (Svc.throw e : Svc σ ε α) := of_state fun _ => rfl

theorem get : Performs view applies p (Svc.get : Svc σ ε σ) := of_state fun _ => rfl

theorem ofExcept (r : Except ε α) : Performs view applies p (Svc.ofExcept r : Svc σ ε α) := of_state fun _ => rfl

theorem throwIf (c : Prop) [Decidable c] (e : ε) : Performs view applies p (Svc.throwIf c e : Svc σ ε Unit) :=
  of_state fun s => by rw [Svc.run_throwIf]

theorem orThrow (o : Option α) (e : ε) : Performs view applies p (Svc.orThrow o e : Svc σ ε α) := by
  refine of_state fun s => ?_
  cases o <;> rfl

theorem attempt (h : Performs view applies p m) : Performs view applies p (Svc.attempt m) := Svc.Moves.attempt h

theorem bind (hm : Performs view applies p m) (hf : ∀ a, Performs view applies p (f a)) :
    Performs view applies p (m >>= f) := Svc.Moves.bind Effects.trans hm hf

theorem bind_ofExcept {r : Except ε α} (hf : ∀ a, r = .ok a → Performs view applies p (f a)) :
    Performs view applies p (Svc.ofExcept r >>= f) := by
  cases r with
  | error e => exact throw e
  | ok a => exact hf a rfl

/-- At one state: the first part only reads, and the rest runs if it does not throw. -/
theorem bind_reading {s : σ} (hm : (m.run s).2 = s)
    (hf : ∀ a, m.run s = (.ok a, s) → Effects applies p (view s) (view ((f a).run s).2)) :
    Effects applies p (view s) (view ((m >>= f).run s).2) := by
  rcases Svc.run_bind_reading f hm with hsame | ⟨a, ha, hrun⟩
  · rw [hsame]
    exact Effects.refl _
  · rw [hrun]
    exact hf a ha

/-- What is made of the result changes nothing. -/
theorem map (g : α → β) (hm : Performs view applies p m) : Performs view applies p (g <$> m) := by
  intro s
  rw [Svc.run_map_state]
  exact hm s

theorem elim {o : Option β} {m : Svc σ ε α} {g : β → Svc σ ε α} (hm : Performs view applies p m)
    (hg : ∀ b, Performs view applies p (g b)) : Performs view applies p (o.elim m g) := by
  cases o with
  | none => exact hm
  | some b => exact hg b

/-- A transaction on what is seen. -/
theorem atomically {put : δ → σ → σ} (hput : ∀ d s, view (put d s) = d) {tx : StateT δ (Except ε) α}
    (h : ∀ d a d', tx d = .ok (a, d') → Effects applies p d d') :
    Performs view applies p (Svc.atomically view put tx) := by
  refine Svc.Moves.atomically (R := fun s s' => Effects applies p (view s) (view s')) (fun s => Effects.refl _) ?_
  intro s a d hs
  rw [hput]
  exact h _ a d hs

end Performs

end Performs

end Lib
