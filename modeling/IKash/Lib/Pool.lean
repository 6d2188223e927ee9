import IKash.Lib.Machine
import IKash.Lib.Svc
import Mathlib.Logic.Function.Basic

/-!
# Calls that interleave

Any number of calls share a state. A call is what it still has to do, with what it has read so far; one step of one
call reads or writes the shared state atomically. A schedule is the list of the calls that step, so every
interleaving of the steps is a schedule.

- `Asserted A p`: every call can rely on `A`, which speaks of the shared state and of the call. It holds under every
  schedule when a call's own steps keep it and the steps of the others do not interfere (`asserted_next`,
  `along_of_asserted`);
- `Realises`: a call that is scheduled alone does what a service does (`realisesAt_bind`, `run_alone`);
- `AnswersAt`: it also ends with the result of the service, thrown or not (`answersAt_bind`);
- `count_of_decreases`: a call whose steps decrease a measure is done when it was scheduled often enough.
-/

namespace Lib

/-- A shared state and the calls on it. -/
structure Pool (σ γ : Type) where
  shared : σ
  calls : ℕ → γ

namespace Pool

variable {σ γ : Type}

/-- The machine whose inputs say which call steps. -/
def machine (step : σ → γ → σ × γ) : Machine (Pool σ γ) ℕ Unit where
  step p i :=
    let r := step p.shared (p.calls i)
    ((), ⟨r.1, Function.update p.calls i r.2⟩)

variable {step : σ → γ → σ × γ} {p : Pool σ γ} {is : List ℕ}

theorem next_shared (p : Pool σ γ) (i : ℕ) : ((machine step).next p i).shared = (step p.shared (p.calls i)).1 := rfl

theorem next_calls (p : Pool σ γ) (i : ℕ) :
    ((machine step).next p i).calls = Function.update p.calls i (step p.shared (p.calls i)).2 := rfl

/-- A call that is not scheduled stays what it is. -/
theorem run_calls_of_not_mem {i : ℕ} (h : i ∉ is) : ((machine step).run p is).calls i = p.calls i := by
  induction is generalizing p with
  | nil => rfl
  | cons j is ih =>
    rw [List.mem_cons, not_or] at h
    obtain ⟨hij, his⟩ := h
    rw [Machine.run_cons, ih his, next_calls, Function.update_of_ne hij]

/-! ## Assertions of the calls -/

def Asserted (A : σ → γ → Prop) (p : Pool σ γ) : Prop := ∀ i, A p.shared (p.calls i)

section Asserted

variable {A : σ → γ → Prop} {C D : Pool σ γ → ℕ → Prop}

/-- A step keeps every assertion when the call that steps establishes its own and the others are stable under it. -/
theorem asserted_next {j : ℕ} (h : Asserted A p) (hown : A p.shared (p.calls j) →
      A (step p.shared (p.calls j)).1 (step p.shared (p.calls j)).2)
    (hother : ∀ i, i ≠ j → A p.shared (p.calls i) → A (step p.shared (p.calls j)).1 (p.calls i)) :
    Asserted A ((machine step).next p j) := by
  intro i
  rw [next_shared, next_calls]
  by_cases hij : i = j
  · subst hij
    rw [Function.update_self]
    exact hown (h i)
  · rw [Function.update_of_ne hij]
    exact hother i hij (h i)

/-- **Assertions without interference** hold under every schedule, and give what follows from them at each step. -/
theorem along_of_asserted (hown : ∀ s c, A s c → A (step s c).1 (step s c).2)
    (hother : ∀ p i j, i ≠ j → C p j → A p.shared (p.calls i) → A (step p.shared (p.calls j)).1 (p.calls i))
    (hD : ∀ p j, Asserted A p → C p j → D p j) (h0 : Asserted A p) (h : (machine step).Along C p is) :
    (machine step).Along D p is :=
  Machine.along_of_inv
    (fun p j hA hC => asserted_next hA (hown _ _) fun i hij => hother p i j hij hC) hD h0 h

end Asserted

/-! ## A call by itself -/

/-- `n` steps of one call by itself. -/
def solo (step : σ → γ → σ × γ) : ℕ → σ × γ → σ × γ
  | 0, x => x
  | n + 1, x => solo step n (step x.1 x.2)

/-- A call scheduled `n` times in a row. -/
theorem run_replicate (p : Pool σ γ) (i : ℕ) : ∀ n, (machine step).run p (List.replicate n i) =
    ⟨(solo step n (p.shared, p.calls i)).1, Function.update p.calls i (solo step n (p.shared, p.calls i)).2⟩
  | 0 => by simp [solo]
  | n + 1 => by
    rw [List.replicate_succ, Machine.run_cons, run_replicate ((machine step).next p i) i n]
    simp only [next_shared, next_calls, Function.update_self, Function.update_idem, solo]

variable {ε α β : Type} {done c : γ} {m x : Svc σ ε α} {f : α → Svc σ ε β}

/-- One step of a call: part of a service, and the call that waits for its result. -/
def await (done : γ) (m : Svc σ ε α) (k : α → γ) (s : σ) : σ × γ :=
  match m.run s with
  | (.ok a, s') => (s', k a)
  | (.error _, s') => (s', done)

theorem await_fst (done : γ) (m : Svc σ ε α) (k : α → γ) (s : σ) : (await done m k s).1 = (m.run s).2 := by
  unfold await
  rcases m.run s with ⟨r, s'⟩
  cases r <;> rfl

theorem await_snd (done : γ) (m : Svc σ ε α) (k : α → γ) (s : σ) :
    (await done m k s).2 = done ∨ ∃ a, (m.run s).1 = .ok a ∧ (await done m k s).2 = k a := by
  unfold await
  rcases hm : m.run s with ⟨r, s'⟩
  cases r with
  | ok a => exact Or.inr ⟨a, rfl, rfl⟩
  | error e => exact Or.inl rfl

/-- What holds of a call that waits for a result of the service, and of the call that is done, holds after the step. -/
theorem await_ind {P : σ → γ → Prop} {k : α → γ} {s : σ} (hok : ∀ a s', m.run s = (.ok a, s') → P s' (k a))
    (hdone : ∀ s', P s' done) : P (await done m k s).1 (await done m k s).2 := by
  unfold await
  rcases hm : m.run s with ⟨r, s'⟩
  cases r with
  | ok a => exact hok a s' hm
  | error e => exact hdone s'

/-- The call, alone from the state, takes it where the service takes it. -/
def RealisesAt (step : σ → γ → σ × γ) (done c : γ) (m : Svc σ ε α) (s : σ) : Prop :=
  ∃ n, solo step n (s, c) = ((m.run s).2, done)

/-- The call, alone, takes the shared state where the service takes it. -/
def Realises (step : σ → γ → σ × γ) (done c : γ) (m : Svc σ ε α) : Prop :=
  ∀ s, ∃ n, solo step n (s, c) = ((m.run s).2, done)

theorem realisesAt_bind {k : α → γ} {s : σ} (h : step s c = await done x k s)
    (hf : ∀ a s', x.run s = (.ok a, s') → RealisesAt step done (k a) (f a) s') :
    RealisesAt step done c (x >>= f) s := by
  rcases hx : x.run s with ⟨r, s'⟩
  cases r with
  | ok a =>
    obtain ⟨n, hn⟩ := hf a s' hx
    refine ⟨n + 1, ?_⟩
    rw [solo, h, Svc.run_bind_ok hx, await, hx]
    exact hn
  | error e =>
    refine ⟨1, ?_⟩
    rw [solo, h, Svc.run_bind_error hx, await, hx]
    rfl

theorem realisesAt_get {f : σ → Svc σ ε β} {s : σ} (h : RealisesAt step done c (f s) s) :
    RealisesAt step done c (Svc.get >>= f) s := h

theorem realises_done (h : ∀ s, (m.run s).2 = s) : Realises step done done m := fun s => ⟨0, by rw [h]; rfl⟩

theorem realises_step (h : ∀ s, step s c = ((m.run s).2, done)) : Realises step done c m := fun s => ⟨1, h s⟩

theorem realises_last (h : ∀ s, step s c = await done m (fun _ => done) s) : Realises step done c m := by
  refine realises_step fun s => ?_
  rw [h, await]
  rcases m.run s with ⟨r, s'⟩
  cases r <;> rfl

theorem realises_get {k : σ → γ} {f : σ → Svc σ ε β} (h : ∀ s, step s c = (s, k s))
    (hf : ∀ s, Realises step done (k s) (f s)) : Realises step done c (Svc.get >>= f) := fun s => by
  obtain ⟨n, hn⟩ := hf s s
  exact ⟨n + 1, by rw [solo, h, hn]; rfl⟩

theorem realises_bind {k : α → γ} (h : ∀ s, step s c = await done x k s)
    (hf : ∀ a, Realises step done (k a) (f a)) : Realises step done c (x >>= f) :=
  fun s => realisesAt_bind (h s) fun a s' _ => hf a s'

theorem realises_map {g : α → β} (hm : Realises step done c m) : Realises step done c (g <$> m) := fun s => by
  obtain ⟨n, hn⟩ := hm s
  exact ⟨n, by rw [hn, Svc.run_map_state]⟩

/-- A call that is scheduled alone from beginning to end. -/
theorem run_alone {i : ℕ} (hm : Realises step done (p.calls i) m) : ∃ n,
    (machine step).run p (List.replicate n i) = ⟨(m.run p.shared).2, Function.update p.calls i done⟩ := by
  obtain ⟨n, hn⟩ := hm p.shared
  exact ⟨n, by rw [run_replicate, hn]⟩

/-! ## Calls that keep their result -/

section Answers

variable {failed : ε → γ} {answer : Except ε β → γ}

/-- One step of a call that keeps what was thrown. -/
def awaitCatch (failed : ε → γ) (m : Svc σ ε α) (k : α → γ) (s : σ) : σ × γ :=
  match m.run s with
  | (.ok a, s') => (s', k a)
  | (.error e, s') => (s', failed e)

theorem awaitCatch_ok {k : α → γ} {a : α} {s s' : σ} (h : m.run s = (.ok a, s')) : awaitCatch failed m k s = (s', k a) := by
  unfold awaitCatch
  rw [h]

theorem awaitCatch_error {k : α → γ} {e : ε} {s s' : σ} (h : m.run s = (.error e, s')) :
    awaitCatch failed m k s = (s', failed e) := by
  unfold awaitCatch
  rw [h]

theorem awaitCatch_fst (failed : ε → γ) (m : Svc σ ε α) (k : α → γ) (s : σ) :
    (awaitCatch failed m k s).1 = (m.run s).2 := by
  rcases hm : m.run s with ⟨r, s'⟩
  cases r with
  | ok a => rw [awaitCatch_ok hm]
  | error e => rw [awaitCatch_error hm]

/-- The call, alone from the state, takes it where the service takes it, and ends with the result of the service. -/
def AnswersAt (step : σ → γ → σ × γ) (answer : Except ε α → γ) (c : γ) (m : Svc σ ε α) (s : σ) : Prop :=
  ∃ n, solo step n (s, c) = ((m.run s).2, answer (m.run s).1)

theorem answersAt_last {s : σ} {m : Svc σ ε β}
    (h : step s c = awaitCatch (fun e => answer (.error e)) m (fun b => answer (.ok b)) s) :
    AnswersAt step answer c m s := by
  refine ⟨1, ?_⟩
  rw [solo, h, solo]
  rcases hm : m.run s with ⟨r, s'⟩
  cases r with
  | ok b => rw [awaitCatch_ok hm]
  | error e => rw [awaitCatch_error hm]

theorem answersAt_bind {k : α → γ} {s : σ} (h : step s c = awaitCatch (fun e => answer (.error e)) x k s)
    (hf : ∀ a s', x.run s = (.ok a, s') → AnswersAt step answer (k a) (f a) s') : AnswersAt step answer c (x >>= f) s := by
  rcases hx : x.run s with ⟨r, s'⟩
  cases r with
  | ok a =>
    obtain ⟨n, hn⟩ := hf a s' hx
    refine ⟨n + 1, ?_⟩
    rw [solo, h, Svc.run_bind_ok hx, awaitCatch_ok hx]
    exact hn
  | error e =>
    refine ⟨1, ?_⟩
    rw [solo, h, Svc.run_bind_error hx, awaitCatch_error hx, solo]

end Answers

/-! ## Calls that come to an end -/

/-- A call whose own steps decrease a measure. -/
theorem count_of_decreases {remaining : γ → ℕ} (h : ∀ s c, remaining (step s c).2 ≤ remaining c - 1) (i : ℕ) :
    ∀ (is : List ℕ) (p : Pool σ γ), remaining (((machine step).run p is).calls i) ≤ remaining (p.calls i) - is.count i
  | [], _ => Nat.le_refl _
  | j :: is, p => by
    have hrest := count_of_decreases h i is ((machine step).next p j)
    rw [Machine.run_cons]
    by_cases hij : i = j
    · subst hij
      have hstep := h p.shared (p.calls i)
      rw [next_calls, Function.update_self] at hrest
      rw [List.count_cons_self]
      omega
    · rw [next_calls, Function.update_of_ne hij] at hrest
      rw [List.count_cons_of_ne (Ne.symm hij)]
      exact hrest

end Pool

end Lib
