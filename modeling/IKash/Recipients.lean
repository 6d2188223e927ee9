import IKash.Sending

/-!
# `SendService.resolveRecipient`

Before a payment is confirmed, the balance lines of the recipient tell whether it can receive USDC. The lines are looked
up by their code, while the transaction names the configured issuer as well.

- `trustline_iff`: on which lines the answer is that of the asset that is sent.
-/

namespace IKash
namespace SendService

open Lib StellarService

variable {χ : Type}

structure RecipientInfo where
  address : String
  aliasName : Option String
  accountExists : Bool
  hasUsdcTrustline : Bool
deriving DecidableEq, Repr

/-- Any error of `getBalances` says that the account does not exist. -/
def resolveRecipient (env : SendEnv χ) (recipient : String) : Service χ RecipientInfo := do
  let resolved ← resolve recipient
  let balances ← Svc.attempt (getBalances env resolved.address)
  pure (match balances with
    | .ok balances => ⟨resolved.address, resolved.aliasName, true, balances.any fun b => b.assetCode = some "USDC"⟩
    | .error _ => ⟨resolved.address, resolved.aliasName, false, false⟩)

/-- The balance lines of an account; one that Horizon does not have has none. -/
def balanceLines (env : SendEnv χ) (address : String) (w : World χ) : List HorizonBalance :=
  (((getAccount env address).run w).1.toOption.map HorizonAccount.balances).getD []

/-- A line of the asset. -/
def Trusts (lines : List HorizonBalance) (asset : StellarAsset) : Prop :=
  ∃ line ∈ lines, line.assetCode = some asset.code ∧ line.assetIssuer = some asset.issuer

/-- The answer is that the account has a line of the asset, if it has one. -/
def AnswersFor (env : SendEnv χ) (asset : StellarAsset) (recipient address : String) (w : World χ) : Prop :=
  ∃ info w', (resolveRecipient env recipient).run w = (.ok info, w') ∧
    (info.hasUsdcTrustline = true ↔ Trusts (balanceLines env address w) asset)

variable {env : SendEnv χ} {params : UsdcSend} {asset : StellarAsset} {recipient : String} {resolved : Resolved}
  {w : World χ}

/-- The asset of the payments is the configured one. -/
theorem checkUsdcSend_asset (h : checkUsdcSend env params = .ok asset) : getUsdcAsset env = .ok asset := by
  unfold checkUsdcSend at h
  obtain ⟨_, -, h⟩ := Except.of_bind_ok h
  obtain ⟨_, -, h⟩ := Except.of_bind_ok h
  obtain ⟨_, -, h⟩ := Except.of_bind_ok h
  obtain ⟨_, -, h⟩ := Except.of_bind_ok h
  obtain ⟨_, -, h⟩ := Except.of_bind_ok h
  exact h

theorem getUsdcAsset_code (h : getUsdcAsset env = .ok asset) : asset.code = "USDC" := by
  unfold getUsdcAsset at h
  split at h
  · cases h
  · obtain ⟨_, -, h⟩ := Except.of_bind_ok h
    split at h <;> cases h
    rfl

/-- A recipient that is found is always answered, by the code of its lines. -/
theorem resolveRecipient_run (env : SendEnv χ) (hresolve : (resolve recipient).run w = (.ok resolved, w)) :
    ∃ info w', (resolveRecipient env recipient).run w = (.ok info, w') ∧
      (info.hasUsdcTrustline = true ↔ ∃ line ∈ balanceLines env resolved.address w, line.assetCode = some "USDC") := by
  unfold resolveRecipient balanceLines getBalances
  rw [Svc.run_bind_ok hresolve, Svc.run_bind_ok (Svc.run_attempt _ _), Svc.run_pure]
  refine ⟨_, _, rfl, ?_⟩
  rcases haccount : (getAccount env resolved.address).run w with ⟨t | account, w₁⟩
  · rw [Svc.run_bind_error haccount]
    simp [Except.toOption]
  · rw [Svc.run_bind_ok haccount, Svc.run_pure]
    simp [Except.toOption]

/-- The answer is right exactly if no line has the code, or one has the code and the issuer. -/
theorem trustline_iff (hresolve : (resolve recipient).run w = (.ok resolved, w))
    (hasset : getUsdcAsset env = .ok asset) :
    AnswersFor env asset recipient resolved.address w ↔
      (∀ line ∈ balanceLines env resolved.address w, line.assetCode ≠ some "USDC") ∨
        Trusts (balanceLines env resolved.address w) asset := by
  obtain ⟨info, w', hrun, hanswer⟩ := resolveRecipient_run env hresolve
  have hcode := getUsdcAsset_code hasset
  have hsub : Trusts (balanceLines env resolved.address w) asset →
      ∃ line ∈ balanceLines env resolved.address w, line.assetCode = some "USDC" := by
    rintro ⟨line, hline, hsame, -⟩
    exact ⟨line, hline, hcode ▸ hsame⟩
  constructor
  · rintro ⟨info', w'', hrun', hright⟩
    rw [hrun] at hrun'
    cases hrun'
    by_cases htrusts : Trusts (balanceLines env resolved.address w) asset
    · exact Or.inr htrusts
    · refine Or.inl fun line hline hsame => htrusts (hright.mp (hanswer.mpr ⟨line, hline, hsame⟩))
  · intro h
    refine ⟨info, w', hrun, hanswer.trans ⟨fun hsome => ?_, hsub⟩⟩
    rcases h with hnone | htrusts
    · obtain ⟨line, hline, hsame⟩ := hsome
      exact absurd hsame (hnone line hline)
    · exact htrusts

end SendService

namespace Wallets

def nativeLine : HorizonBalance := { assetType := "native", balance := "5.0000000" }

/-- A line for a USDC. -/
def usdcLine (issuer : String) : HorizonBalance where
  assetType := "credit_alphanum4"
  assetCode := some "USDC"
  assetIssuer := some issuer
  balance := "0.0000000"
  limit := some "922337203685.4775807"

end Wallets

namespace SendService

open StellarService Wallets

/-- The recipient trusts the USDC of somebody else only. -/
theorem other_issuer_trusted : getUsdcAsset (sendEnv [usdcLine sellerKey]) = .ok ⟨"USDC", buyerKey⟩ ∧
    ((resolveRecipient (sendEnv [usdcLine sellerKey]) buyerKey).run Wallets.world).1 =
      .ok ⟨buyerKey, none, true, true⟩ ∧
    balanceLines (sendEnv [usdcLine sellerKey]) buyerKey Wallets.world = [usdcLine sellerKey] ∧
    ¬ Trusts [usdcLine sellerKey] ⟨"USDC", buyerKey⟩ := by
  refine ⟨rfl, rfl, rfl, ?_⟩
  rintro ⟨line, hline, -, hissuer⟩
  obtain rfl := List.mem_singleton.mp hline
  exact absurd (Option.some.inj hissuer) (by decide)

/-- The recipient trusts the configured USDC as well. -/
theorem answers_two_issuers :
    AnswersFor (sendEnv [usdcLine sellerKey, nativeLine, usdcLine buyerKey]) ⟨"USDC", buyerKey⟩ buyerKey buyerKey
      Wallets.world :=
  (trustline_iff resolve_buyerKey rfl).mpr (Or.inr ⟨usdcLine buyerKey, by decide, rfl, rfl⟩)

end SendService
end IKash
