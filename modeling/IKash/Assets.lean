import IKash.Desk

/-!
# The asset of an escrow

`validateAssetCode` decides which asset codes a request may have, `resolveTrustline` makes the trustline of the payload
from the code, and `TrustlessWorkService.initializeEscrow` looks at the trustline once more. An omitted code means USDC
to the first and XLM to the second.

- `asset_agrees_iff`: for which accepted codes the three agree;
- `deployEscrowToChain_default`: an escrow without a code is never deployed.
-/

namespace IKash

open Lib

namespace EscrowService

variable {χ : Type} {config : EscrowConfig} {assetCode : Option String} {issuer : String}

/-- The payload goes to Trustless Work, whatever is answered there. -/
def Sent (payload : InitializeMultiReleaseEscrowPayload) : Prop :=
  ∀ (χ : Type) (tw : TrustlessWorkService χ) (w : World χ),
    (tw.initializeEscrow payload).run w = (external (tw.deployer payload)).run w

/-- The trustline for the code is the configured USDC, and no payload with the code is refused. -/
structure AssetAgrees (config : EscrowConfig) (issuer : String) (assetCode : Option String) : Prop where
  trustline : ∃ symbol, resolveTrustline config assetCode = .ok ⟨issuer, symbol⟩ ∧ Json.toUpperCase symbol = "USDC"
  deployed : ∀ orderId dto request, dto.assetCode = assetCode → deployRequest config orderId dto = .ok request →
    Sent request.1
  initialized : ∀ dto payload, dto.assetCode = assetCode → initializePayload config dto = .ok payload → Sent payload

/-! ## The three functions -/

theorem upperCase_usdc : Json.toUpperCase "USDC" = "USDC" := by decide

theorem upperCase_xlm : Json.toUpperCase "XLM" ≠ "USDC" := by decide

theorem upperCase_native : Json.toUpperCase "native" ≠ "USDC" := by decide

theorem validateAssetCode_eq_ok : validateAssetCode assetCode = .ok () ↔
    assetCode.filter (· ≠ "") = none ∨ ∃ s, assetCode.filter (· ≠ "") = some s ∧ Json.toUpperCase s = "USDC" := by
  unfold validateAssetCode
  cases assetCode.filter (· ≠ "") with
  | none => simp [upperCase_usdc]
  | some s => simp

/-- A code that is not there resolves to the native asset. -/
theorem resolveTrustline_default (config : EscrowConfig) (hnone : assetCode.filter (· ≠ "") = none) :
    resolveTrustline config assetCode = .ok ⟨config.xlmAddress.getD defaultXlmAddress, "XLM"⟩ := by
  have hfilter : assetCode.filter (fun s => s ≠ "" ∧ s ≠ "XLM" ∧ s ≠ "native") = none := by
    rw [Option.filter_eq_none_iff] at hnone ⊢
    intro s hs hcode
    exact hnone s hs (decide_eq_true (of_decide_eq_true hcode).1)
  unfold resolveTrustline
  rw [hfilter]

theorem resolveTrustline_usdc {s : String} (hissuer : config.usdcIssuer = some issuer)
    (hs : assetCode.filter (· ≠ "") = some s) (husdc : Json.toUpperCase s = "USDC") :
    resolveTrustline config assetCode = .ok ⟨issuer, s⟩ := by
  have hfilter : assetCode.filter (fun s => s ≠ "" ∧ s ≠ "XLM" ∧ s ≠ "native") = some s := by
    rw [Option.filter_eq_some_iff] at hs ⊢
    refine ⟨hs.1, decide_eq_true ⟨of_decide_eq_true hs.2, ?_, ?_⟩⟩
    · rintro rfl
      exact upperCase_xlm husdc
    · rintro rfl
      exact upperCase_native husdc
  unfold resolveTrustline
  rw [hfilter, hissuer]
  rfl

theorem deployRequest_trustline {orderId : String} {dto : DeployDto}
    {request : InitializeMultiReleaseEscrowPayload × String} (h : deployRequest config orderId dto = .ok request) :
    resolveTrustline config dto.assetCode = .ok request.1.trustline := by
  unfold deployRequest at h
  obtain ⟨_, -, h⟩ := Except.of_bind_ok h
  obtain ⟨_, -, h⟩ := Except.of_bind_ok h
  obtain ⟨_, -, h⟩ := Except.of_bind_ok h
  obtain ⟨_, -, h⟩ := Except.of_bind_ok h
  obtain ⟨trustline, htrustline, h⟩ := Except.of_bind_ok h
  cases h
  exact htrustline

theorem initializePayload_trustline {dto : InitializeEscrowDto} {payload : InitializeMultiReleaseEscrowPayload}
    (h : initializePayload config dto = .ok payload) :
    resolveTrustline config dto.assetCode = .ok payload.trustline := by
  unfold initializePayload at h
  obtain ⟨_, -, h⟩ := Except.of_bind_ok h
  obtain ⟨trustline, htrustline, h⟩ := Except.of_bind_ok h
  cases h
  exact htrustline

theorem sent_of_usdc {payload : InitializeMultiReleaseEscrowPayload}
    (h : Json.toUpperCase payload.trustline.symbol = "USDC") : Sent payload := by
  intro χ tw w
  unfold TrustlessWorkService.initializeEscrow
  rw [Svc.run_bind_ok (Svc.run_throwIf_neg (not_not_intro h) _ _)]

theorem initializeEscrow_refuses (tw : TrustlessWorkService χ) {payload : InitializeMultiReleaseEscrowPayload}
    (h : Json.toUpperCase payload.trustline.symbol ≠ "USDC") (w : World χ) :
    (tw.initializeEscrow payload).run w = (.error (.app .unsupportedAsset
      ("Only USDC is supported for escrow. Received: \"" ++ payload.trustline.symbol ++ "\"")), w) := by
  unfold TrustlessWorkService.initializeEscrow
  rw [Svc.run_bind_error (Svc.run_throwIf_pos h _ _)]

/-! ## Where they agree -/

/-- The three agree on an accepted code exactly if it is there. -/
theorem asset_agrees_iff (hissuer : config.usdcIssuer = some issuer) (haccepted : validateAssetCode assetCode = .ok ()) :
    AssetAgrees config issuer assetCode ↔ ∃ s, assetCode = some s ∧ s ≠ "" := by
  constructor
  · intro h
    obtain ⟨symbol, hresolve, husdc⟩ := h.trustline
    cases hcode : assetCode.filter (· ≠ "") with
    | none =>
      rw [resolveTrustline_default config hcode] at hresolve
      cases hresolve
      exact absurd husdc upperCase_xlm
    | some s =>
      obtain ⟨hs, hne⟩ := Option.filter_eq_some_iff.mp hcode
      exact ⟨s, hs, of_decide_eq_true hne⟩
  · rintro ⟨s, rfl, hne⟩
    have hcode : (some s).filter (· ≠ "") = some s := Option.filter_some_pos (decide_eq_true hne)
    have husdc : Json.toUpperCase s = "USDC" := by
      rcases validateAssetCode_eq_ok.mp haccepted with hnone | ⟨s', hs', husdc⟩
      · rw [hcode] at hnone
        cases hnone
      · rw [hcode] at hs'
        cases hs'
        exact husdc
    have hresolve := resolveTrustline_usdc hissuer hcode husdc
    refine ⟨⟨s, hresolve, husdc⟩, fun orderId dto request hdto hrequest => ?_, fun dto payload hdto hpayload => ?_⟩
    · have htrustline := deployRequest_trustline hrequest
      rw [hdto, hresolve, Except.ok.injEq] at htrustline
      exact sent_of_usdc (htrustline ▸ husdc)
    · have htrustline := initializePayload_trustline hpayload
      rw [hdto, hresolve, Except.ok.injEq] at htrustline
      exact sent_of_usdc (htrustline ▸ husdc)

/-- Without a code the deployment always throws, and asks Trustless Work for nothing. -/
theorem deployEscrowToChain_default (tw : TrustlessWorkService χ) {dto : DeployDto}
    (hnone : dto.assetCode.filter (· ≠ "") = none) (orderId : String) (w : World χ) :
    ∃ t, (deployEscrowToChain tw config orderId dto).run w = (.error t, w) := by
  have hbuild : ∃ t, (deployBuild tw config orderId dto).run w = (.error t, w) := by
    unfold deployBuild
    cases hrequest : deployRequest config orderId dto with
    | error t => exact ⟨t, Svc.run_bind_error (Svc.run_ofExcept _ _)⟩
    | ok request =>
      have htrustline := deployRequest_trustline hrequest
      rw [resolveTrustline_default config hnone, Except.ok.injEq] at htrustline
      have hxlm : Json.toUpperCase request.1.trustline.symbol ≠ "USDC" := by
        rw [← htrustline]
        exact upperCase_xlm
      rw [Svc.run_bind_ok (Svc.run_ofExcept _ _), Svc.run_bind_error (initializeEscrow_refuses tw hxlm w)]
      exact ⟨_, rfl⟩
  obtain ⟨t, ht⟩ := hbuild
  exact ⟨t, Svc.run_bind_error ht⟩

end EscrowService

open EscrowService

/-- A request without an asset code is accepted, and its deployment is refused. -/
theorem omitted_code_refused : validateAssetCode none = .ok () ∧
    ¬ AssetAgrees Desk.config "GISSUER" none ∧
    ∀ w : World Deployments, ((deployEscrowToChain (Desk.trustlessWork []) Desk.config Desk.order
      { Desk.parameters "GBUYER" 5 with title := some "Trade" }).run w).1 =
        .error (.app .unsupportedAsset "Only USDC is supported for escrow. Received: \"XLM\"") := by
  refine ⟨by decide, fun h => ?_, fun w => ?_⟩
  · obtain ⟨symbol, hresolve, husdc⟩ := h.trustline
    rw [resolveTrustline_default _ rfl, Except.ok.injEq, Trustline.mk.injEq] at hresolve
    exact upperCase_xlm (hresolve.2 ▸ husdc)
  · rfl

/-- A code in mixed case. -/
theorem asset_agrees_usdc : AssetAgrees Desk.config "GISSUER" (some "Usdc") ↔ ∃ s, some "Usdc" = some s ∧ s ≠ "" :=
  asset_agrees_iff rfl (by decide)

end IKash
