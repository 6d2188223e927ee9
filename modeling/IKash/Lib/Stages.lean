import IKash.Lib.Svc

/-!
# Calls among others

A call is cut where it waits: into stages, each of which is a service that runs at once. Before every stage others may
change the state in any way.

- `amid`: the result of the call, the state it leaves, and what each of its own stages did;
- `amid_last`, `amid_wait_ok`, `amid_wait_error`: the call stage by stage;
- `amid_alone`: without the others, this is the call as one service.
-/

namespace Lib

/-- A call cut where it waits. -/
inductive Stages (σ ε α : Type) : Type 1 where
  | last (m : Svc σ ε α)
  | wait {β : Type} (m : Svc σ ε β) (rest : β → Stages σ ε α)

namespace Stages

variable {σ ε α β : Type}

/-- What became of a call: `own` has the states before and after each of its stages. -/
structure Report (σ ε α : Type) where
  result : Except ε α
  state : σ
  own : List (σ × σ)

/-- The call as one service. -/
def service : Stages σ ε α → Svc σ ε α
  | last m => m
  | wait m rest => m >>= fun b => (rest b).service

/-- The call among others, of which `others n` act before its `n`-th stage. -/
def amid : Stages σ ε α → (ℕ → σ → σ) → σ → Report σ ε α
  | last m, others, s =>
    let s₁ := others 0 s
    ⟨(m.run s₁).1, (m.run s₁).2, [(s₁, (m.run s₁).2)]⟩
  | wait m rest, others, s =>
    let s₁ := others 0 s
    match m.run s₁ with
    | (.error e, s₂) => ⟨.error e, s₂, [(s₁, s₂)]⟩
    | (.ok b, s₂) =>
      let report := (rest b).amid (fun n => others (n + 1)) s₂
      { report with own := (s₁, s₂) :: report.own }

variable {m : Svc σ ε α} {n : Svc σ ε β} {rest : β → Stages σ ε α} {others : ℕ → σ → σ} {s s₂ : σ}

theorem amid_last {r : Except ε α} (h : m.run (others 0 s) = (r, s₂)) :
    (last m).amid others s = ⟨r, s₂, [(others 0 s, s₂)]⟩ := by
  unfold amid
  dsimp only
  rw [h]

theorem amid_wait_error {e : ε} (h : n.run (others 0 s) = (.error e, s₂)) :
    (wait n rest).amid others s = ⟨.error e, s₂, [(others 0 s, s₂)]⟩ := by
  unfold amid
  dsimp only
  rw [h]

theorem amid_wait_ok {b : β} (h : n.run (others 0 s) = (.ok b, s₂)) : (wait n rest).amid others s =
    { (rest b).amid (fun i => others (i + 1)) s₂ with
      own := (others 0 s, s₂) :: ((rest b).amid (fun i => others (i + 1)) s₂).own } := by
  rw [amid]
  dsimp only
  rw [h]

/-- **Alone**, the call does what it does as one service. -/
theorem amid_alone (c : Stages σ ε α) (s : σ) :
    ((c.amid (fun _ s => s) s).result, (c.amid (fun _ s => s) s).state) = c.service.run s := by
  induction c generalizing s with
  | last m => rfl
  | wait m rest ih =>
    rcases hm : m.run s with ⟨r, s₂⟩
    cases r with
    | error e => rw [amid_wait_error hm, service, Svc.run_bind_error hm]
    | ok b =>
      rw [amid_wait_ok hm, service, Svc.run_bind_ok hm]
      exact ih b s₂

end Stages

end Lib
