import IKash.Stellar
import Mathlib.Tactic.NormNum

/-!
# `SendService.prepare`

The recipient, the amount in stroops, the fee and the treasury are settled before anything is handed to
`StellarService.buildUnsignedUsdcSend` (`prepareOrder`). The arithmetic is unbounded, and Stellar's is not.

- `prepare_of_error`, `prepare_of_order`: what `prepare` refuses, and what it hands over;
- `prepare_amounts`: the fee and the total are exact;
- `keepsRange_iff`: which requests stay in the range of Stellar.
-/

namespace IKash

open Lib

variable {χ : Type}

namespace SendService

open StellarService

/-! ## The fee -/

/-- The fee in basis points: `Math.round` of a percentage that is not negative. `BigInt` refuses an infinite one. -/
def feeBps (env : SendEnv χ) : Except Thrown ℕ :=
  match env.doubles.number (env.config.feePercent.getD "0.3") with
  | none => .ok 30
  | some percent =>
    if percent < 0 then .ok 30
    else
      match env.doubles.hundredfold percent with
      | none => .error (.other "The number Infinity cannot be converted to a BigInt because it is not an integer")
      | some bps => .ok (bps + 1 / 2).floor.toNat

def feeCollector (config : SendConfig) : Except Thrown String :=
  match config.treasuryAddress.filter (· ≠ "") with
  | none => .error (.app .missingFeeCollector "IKASH_TREASURY_ADDRESS is not configured for fee collection.")
  | some address => .ok address

def selfSend : Thrown := .app .selfSend "You cannot send funds to yourself."

def notPositive : Thrown := .app .amountTooSmall "The amount must be greater than 0."

def noFee : Thrown := .app .amountTooSmall "The amount is too small to calculate the 0.3% fee."

/-! ## `prepare` -/

/-- What is handed to `buildUnsignedUsdcSend`, and the total that is returned. -/
structure SendOrder where
  params : UsdcSend
  total : String
deriving DecidableEq, Repr

/-- `prepare` between the recipient and the transaction. -/
def prepareOrder (env : SendEnv χ) (sourcePublicKey address amount : String) : Except Thrown SendOrder :=
  if address = sourcePublicKey then .error selfSend
  else do
    let amountStroops ← toStroops amount
    if amountStroops ≤ 0 then .error notPositive
    else do
      let bps ← feeBps env
      let feeStroops := amountStroops * bps / 10000
      if feeStroops ≤ 0 then .error noFee
      else do
        let feeAddress ← feeCollector env.config
        pure {
          params := ⟨sourcePublicKey, address, fromStroops amountStroops, feeAddress, fromStroops feeStroops⟩
          total := fromStroops (amountStroops + feeStroops) }

structure PreparedSend where
  recipient : Resolved
  asset : String
  amount : String
  fee : String
  total : String
  unsignedXdr : String
  networkPassphrase : String
deriving DecidableEq, Repr

def SendOrder.response (order : SendOrder) (recipient : Resolved) (built : UnsignedSendResult) : PreparedSend :=
  ⟨recipient, "USDC", order.params.amount, order.params.feeAmount, order.total, built.xdr, built.networkPassphrase⟩

def prepare (env : SendEnv χ) (sourcePublicKey recipient amount : String) : Service χ PreparedSend := do
  let resolved ← resolve recipient
  let order ← Svc.ofExcept (prepareOrder env sourcePublicKey resolved.address amount)
  let built ← buildUnsignedUsdcSend env order.params
  pure (order.response resolved built)

/-! ## What is refused, and what is handed over -/

variable {env : SendEnv χ} {source recipient address amount : String} {w w' : World χ} {a b : ℕ} {t : Thrown}
  {resolved : Resolved} {order : SendOrder}

/-- The order for an amount and a fee in stroops. -/
def sendOrder (source address treasury : String) (amountStroops feeStroops : ℕ) : SendOrder where
  params := ⟨source, address, fromStroops amountStroops, treasury, fromStroops feeStroops⟩
  total := fromStroops (amountStroops + feeStroops)

theorem prepareOrder_self : prepareOrder env source source amount = .error selfSend := if_pos rfl

theorem prepareOrder_zero (hother : address ≠ source) (hamount : toStroops amount = .ok 0) :
    prepareOrder env source address amount = .error notPositive := by
  unfold prepareOrder
  rw [if_neg hother, hamount]
  rfl

theorem prepareOrder_noBps (hother : address ≠ source) (hamount : toStroops amount = .ok a) (hpos : 0 < a)
    (hfee : feeBps env = .error t) : prepareOrder env source address amount = .error t := by
  unfold prepareOrder
  rw [if_neg hother, hamount, hfee]
  exact if_neg (by omega)

/-- With an amount and a fee, the fee is too small, the treasury is missing, or the order is made. -/
theorem prepareOrder_fee (hother : address ≠ source) (hamount : toStroops amount = .ok a) (hpos : 0 < a)
    (hfee : feeBps env = .ok b) : prepareOrder env source address amount =
      if a * b < 10000 then .error noFee
      else (feeCollector env.config).map fun treasury => sendOrder source address treasury a (a * b / 10000) := by
  have hnone : a * b / 10000 ≤ 0 ↔ a * b < 10000 := by omega
  unfold prepareOrder
  rw [if_neg hother, hamount, hfee]
  show (if a ≤ 0 then _ else if a * b / 10000 ≤ 0 then _ else _) = _
  rw [if_neg (by omega)]
  simp only [hnone]
  refine if_congr Iff.rfl rfl ?_
  cases feeCollector env.config <;> rfl

theorem resolve_run (recipient : String) (w : World χ) :
    (∃ message, (resolve recipient).run w = (.error (.app .invalidRecipient message), w)) ∨
      ∃ r, (resolve recipient).run w = (.ok r, w) := by
  unfold resolve
  split
  · exact Or.inr ⟨_, rfl⟩
  · have hfind : (UsersRepository.findByAlias (Json.trim recipient)).run w =
      (.ok (w.db.users.findUnique? AppUser.aliasName (Json.trim recipient)), w) := rfl
    unfold resolveAlias
    rw [Svc.run_bind_ok hfind]
    cases w.db.users.findUnique? AppUser.aliasName (Json.trim recipient) with
    | none => exact Or.inl ⟨_, rfl⟩
    | some u => exact Or.inr ⟨_, rfl⟩

theorem prepare_of_error (hresolve : (resolve recipient).run w = (.ok resolved, w))
    (horder : prepareOrder env source resolved.address amount = .error t) :
    (prepare env source recipient amount).run w = (.error t, w) := by
  unfold prepare
  rw [Svc.run_bind_ok hresolve, horder]
  rfl

/-- `buildUnsignedUsdcSend`, with the response made of its result. -/
theorem prepare_of_order (hresolve : (resolve recipient).run w = (.ok resolved, w))
    (horder : prepareOrder env source resolved.address amount = .ok order) :
    (prepare env source recipient amount).run w =
      (buildUnsignedUsdcSend env order.params >>= fun built => pure (order.response resolved built)).run w := by
  unfold prepare
  rw [Svc.run_bind_ok hresolve, horder]
  rfl

theorem feeCollector_eq_ok {config : SendConfig} {treasury : String} :
    feeCollector config = .ok treasury ↔ config.treasuryAddress = some treasury ∧ treasury ≠ "" := by
  have hfilter : config.treasuryAddress.filter (· ≠ "") = some treasury ↔
      config.treasuryAddress = some treasury ∧ treasury ≠ "" := by
    rw [Option.filter_eq_some_iff, decide_eq_true_iff]
  unfold feeCollector
  rw [← hfilter]
  cases config.treasuryAddress.filter (· ≠ "") <;> simp

/-! ## The amounts -/

/-- Payments are signed numbers of stroops, of 64 bits. -/
def maxStroops : ℕ := 2 ^ 63 - 1

def Within (s : String) : Prop := ∃ n, toStroops s = .ok n ∧ n ≤ maxStroops

theorem within_fromStroops {n : ℕ} : Within (fromStroops n) ↔ n ≤ maxStroops := by
  unfold Within
  rw [toStroops_fromStroops]
  simp

/-- `prepare` up to the hand-over. -/
def ordered (env : SendEnv χ) (source recipient amount : String) : Service χ SendOrder := do
  let resolved ← resolve recipient
  Svc.ofExcept (prepareOrder env source resolved.address amount)

/-- `prepare` up to the account of the source; what comes after builds a transaction. -/
def checkedSend (env : SendEnv χ) (source recipient amount : String) : Service χ StellarAsset := do
  let order ← ordered env source recipient amount
  Svc.ofExcept (checkUsdcSend env order.params)

/-- The amount and its fee together. -/
def TotalWithin (env : SendEnv χ) (amount : String) : Prop :=
  ∃ a b, toStroops amount = .ok a ∧ feeBps env = .ok b ∧ a + a * b / 10000 ≤ maxStroops

/-- Nothing beyond the range is handed over or returned, and a request beyond it is refused with an `AppException`
before a transaction is built. -/
structure KeepsRange (env : SendEnv χ) (source recipient amount : String) (w : World χ) : Prop where
  handed : ∀ order, (ordered env source recipient amount).run w = (.ok order, w) →
    Within order.params.amount ∧ Within order.params.feeAmount
  total : ∀ sent w', (prepare env source recipient amount).run w = (.ok sent, w') → Within sent.total
  refused : ¬ TotalWithin env amount →
    ∃ code message, (checkedSend env source recipient amount).run w = (.error (.app code message), w)

/-- There is no recipient or it is the source, the amount or its fee is too small, or there is no treasury. -/
def RefusedBefore (env : SendEnv χ) (source recipient : String) (a : ℕ) (w : World χ) : Prop :=
  (∃ t, ((resolve recipient).run w).1 = .error t) ∨ (∃ r, ((resolve recipient).run w).1 = .ok r ∧ r.address = source) ∨
    a = 0 ∨ ∃ b, feeBps env = .ok b ∧
      (a * b < 10000 ∨ ∀ treasury, env.config.treasuryAddress = some treasury → treasury = "")

/-- The amount and the fee are both in the range, and `buildUnsignedUsdcSend` refuses a key or the issuer. -/
def RefusedAfter (env : SendEnv χ) (source recipient : String) (a : ℕ) (w : World χ) : Prop :=
  ∃ b r treasury, feeBps env = .ok b ∧ ((resolve recipient).run w).1 = .ok r ∧
    env.config.treasuryAddress = some treasury ∧ a ≤ maxStroops ∧ a * b / 10000 ≤ maxStroops ∧
    ((∃ key ∈ [source, r.address, treasury], isPublicKey key = false) ∨
      ∀ issuer, env.config.usdcIssuer = some issuer → isPublicKey issuer = false)

/-- What becomes of a request whose amount is read. -/
inductive Ordering (env : SendEnv χ) (source recipient amount : String) (a : ℕ) (w : World χ) : Prop
  | refused : RefusedBefore env source recipient a w →
      (∃ code message, (ordered env source recipient amount).run w = (.error (.app code message), w)) →
      Ordering env source recipient amount a w
  | unpriced : ¬ RefusedBefore env source recipient a w → (∀ b, feeBps env ≠ .ok b) →
      (∃ message, (ordered env source recipient amount).run w = (.error (.other message), w)) →
      Ordering env source recipient amount a w
  | handed (r : Resolved) (b : ℕ) (treasury : String) : ¬ RefusedBefore env source recipient a w →
      ((resolve recipient).run w).1 = .ok r → feeBps env = .ok b → env.config.treasuryAddress = some treasury →
      0 < a → 0 < a * b / 10000 →
      (ordered env source recipient amount).run w =
        (.ok (sendOrder source r.address treasury a (a * b / 10000)), w) →
      Ordering env source recipient amount a w

theorem ordered_run (env : SendEnv χ) (source amount : String)
    (hresolve : (resolve recipient).run w = (.ok resolved, w)) :
    (ordered env source recipient amount).run w = (prepareOrder env source resolved.address amount, w) := by
  unfold ordered
  rw [Svc.run_bind_ok hresolve, Svc.run_ofExcept]

theorem feeCollector_eq_error {config : SendConfig}
    (h : ∀ treasury, config.treasuryAddress = some treasury → treasury = "") :
    ∃ message, feeCollector config = .error (.app .missingFeeCollector message) := by
  have hnone : config.treasuryAddress.filter (· ≠ "") = none := by
    rw [Option.filter_eq_none_iff]
    intro treasury htreasury hne
    exact of_decide_eq_true hne (h treasury htreasury)
  unfold feeCollector
  rw [hnone]
  exact ⟨_, rfl⟩

theorem feeBps_eq_error (h : feeBps env = .error t) : ∃ message, t = .other message := by
  unfold feeBps at h
  split at h
  · cases h
  · split at h
    · cases h
    · split at h
      · cases h
        exact ⟨_, rfl⟩
      · cases h

theorem not_refusedBefore (hr : ((resolve recipient).run w).1 = .ok resolved) (hother : resolved.address ≠ source)
    (hpos : 0 < a) (hpriced : ∀ b, feeBps env = .ok b → ¬ a * b < 10000 ∧
      ∃ treasury, env.config.treasuryAddress = some treasury ∧ treasury ≠ "") :
    ¬ RefusedBefore env source recipient a w := by
  rintro (⟨t, ht⟩ | ⟨r, hr', hsource⟩ | hzero | ⟨b, hb, hrefused⟩)
  · rw [hr] at ht
    cases ht
  · rw [hr, Except.ok.injEq] at hr'
    exact hother (hr' ▸ hsource)
  · omega
  · obtain ⟨hlarge, treasury, htreasury, hne⟩ := hpriced b hb
    rcases hrefused with hsmall | hnone
    · exact hlarge hsmall
    · exact hne (hnone treasury htreasury)

theorem ordering (env : SendEnv χ) (source recipient : String) (hamount : toStroops amount = .ok a) (w : World χ) :
    Ordering env source recipient amount a w := by
  rcases resolve_run recipient w with ⟨message, hresolve⟩ | ⟨r, hresolve⟩
  · refine .refused (Or.inl ⟨_, congrArg Prod.fst hresolve⟩) ⟨.invalidRecipient, message, ?_⟩
    unfold ordered
    rw [Svc.run_bind_error hresolve]
  have hr : ((resolve recipient).run w).1 = .ok r := congrArg Prod.fst hresolve
  have hrun := ordered_run env source amount hresolve
  by_cases hself : r.address = source
  · rw [hself, prepareOrder_self] at hrun
    exact .refused (Or.inr (Or.inl ⟨r, hr, hself⟩)) ⟨_, _, hrun⟩
  rcases Nat.eq_zero_or_pos a with rfl | hpos
  · rw [prepareOrder_zero hself hamount] at hrun
    exact .refused (Or.inr (Or.inr (Or.inl rfl))) ⟨_, _, hrun⟩
  cases hfee : feeBps env with
  | error t =>
    obtain ⟨message, rfl⟩ := feeBps_eq_error hfee
    refine .unpriced (not_refusedBefore hr hself hpos fun b hb => ?_) (fun b hb => ?_) ⟨message, ?_⟩
    · rw [hfee] at hb
      cases hb
    · rw [hfee] at hb
      cases hb
    · rw [hrun, prepareOrder_noBps hself hamount hpos hfee]
  | ok b =>
    have horder := prepareOrder_fee hself hamount hpos hfee
    by_cases hsmall : a * b < 10000
    · rw [horder, if_pos hsmall] at hrun
      exact .refused (Or.inr (Or.inr (Or.inr ⟨b, hfee, Or.inl hsmall⟩))) ⟨_, _, hrun⟩
    rw [if_neg hsmall] at horder
    by_cases hnone : ∀ treasury, env.config.treasuryAddress = some treasury → treasury = ""
    · obtain ⟨message, hcollector⟩ := feeCollector_eq_error hnone
      refine .refused (Or.inr (Or.inr (Or.inr ⟨b, hfee, Or.inr hnone⟩))) ⟨.missingFeeCollector, message, ?_⟩
      rw [hrun, horder, hcollector]
      rfl
    · obtain ⟨treasury, htreasury, hne⟩ := by
        simpa only [not_forall, exists_prop] using hnone
      have hpriced : ∀ b', feeBps env = .ok b' → ¬ a * b' < 10000 ∧
          ∃ treasury, env.config.treasuryAddress = some treasury ∧ treasury ≠ "" := by
        intro b' hb'
        rw [hfee, Except.ok.injEq] at hb'
        exact ⟨hb' ▸ hsmall, treasury, htreasury, hne⟩
      refine .handed r b treasury (not_refusedBefore hr hself hpos hpriced) hr hfee htreasury hpos (by omega) ?_
      rw [hrun, horder, feeCollector_eq_ok.mpr ⟨htreasury, hne⟩]
      rfl

theorem checkedSend_of_error (h : (ordered env source recipient amount).run w = (.error t, w)) :
    (checkedSend env source recipient amount).run w = (.error t, w) := by
  unfold checkedSend
  rw [Svc.run_bind_error h]

theorem checkedSend_of_ok (h : (ordered env source recipient amount).run w = (.ok order, w)) :
    (checkedSend env source recipient amount).run w = (checkUsdcSend env order.params, w) := by
  unfold checkedSend
  rw [Svc.run_bind_ok h, Svc.run_ofExcept]

/-- A request that is answered has been handed over and has passed the checks. -/
theorem of_prepare_ok {sent : PreparedSend} (h : (prepare env source recipient amount).run w = (.ok sent, w')) :
    ∃ order usdc, (ordered env source recipient amount).run w = (.ok order, w) ∧ sent.total = order.total ∧
      checkUsdcSend env order.params = .ok usdc := by
  rcases resolve_run recipient w with ⟨message, hresolve⟩ | ⟨r, hresolve⟩
  · unfold prepare at h
    rw [Svc.run_bind_error hresolve] at h
    cases h
  · cases horder : prepareOrder env source r.address amount with
    | error t =>
      rw [prepare_of_error hresolve horder] at h
      cases h
    | ok order =>
      rw [prepare_of_order hresolve horder] at h
      obtain ⟨built, w₁, hbuilt, h⟩ := Svc.of_run_bind_ok h
      unfold buildUnsignedUsdcSend at hbuilt
      obtain ⟨usdc, w₂, hcheck, -⟩ := Svc.of_run_bind_ok hbuilt
      rw [Svc.run_pure] at h
      cases h
      exact ⟨order, usdc, by rw [ordered_run env source amount hresolve, horder], rfl,
        (Svc.of_run_ofExcept_ok hcheck).1⟩

/-- A request stays in the range exactly if its total does, if `prepare` refuses it by itself, or if only the total is
out of the range and `buildUnsignedUsdcSend` refuses it for another reason. -/
theorem keepsRange_iff (hamount : toStroops amount = .ok a) : KeepsRange env source recipient amount w ↔
    TotalWithin env amount ∨ RefusedBefore env source recipient a w ∨ RefusedAfter env source recipient a w := by
  cases ordering env source recipient hamount w with
  | refused hbefore hrun =>
    obtain ⟨code, message, hrun⟩ := hrun
    refine iff_of_true ⟨fun order horder => ?_, fun sent w' hsent => ?_, fun _ => ?_⟩ (Or.inr (Or.inl hbefore))
    · rw [hrun] at horder
      cases horder
    · obtain ⟨order, -, horder, -⟩ := of_prepare_ok hsent
      rw [hrun] at horder
      cases horder
    · exact ⟨code, message, checkedSend_of_error hrun⟩
  | unpriced hbefore hfee hrun =>
    obtain ⟨message, hrun⟩ := hrun
    refine iff_of_false (fun h => ?_) ?_
    · obtain ⟨code, m, hchecked⟩ := h.refused (by rintro ⟨_, b, -, hb, -⟩; exact hfee b hb)
      rw [checkedSend_of_error hrun] at hchecked
      cases hchecked
    · rintro (⟨_, b, -, hb, -⟩ | h | ⟨b, _, _, hb, -⟩)
      · exact hfee b hb
      · exact hbefore h
      · exact hfee b hb
  | handed r b treasury hbefore hr hfee htreasury hpos hfeePos hrun =>
    have htotal : TotalWithin env amount ↔ a + a * b / 10000 ≤ maxStroops := by
      unfold TotalWithin
      simp [hamount, hfee]
    have hchecks : (∃ code message, checkUsdcSend env
        (sendOrder source r.address treasury a (a * b / 10000)).params = .error (.app code message)) ↔ _ :=
      checkUsdcSend_refuses (assertAmount_fromStroops hpos) (assertAmount_fromStroops hfeePos)
    have hafter : RefusedAfter env source recipient a w ↔ a ≤ maxStroops ∧ a * b / 10000 ≤ maxStroops ∧
        ∃ code message, checkUsdcSend env
          (sendOrder source r.address treasury a (a * b / 10000)).params = .error (.app code message) := by
      rw [hchecks]
      constructor
      · rintro ⟨b', r', treasury', hb, hr', htreasury', hamounts⟩
        rw [hfee] at hb
        rw [hr] at hr'
        rw [htreasury] at htreasury'
        cases hb
        cases hr'
        cases htreasury'
        exact hamounts
      · exact fun hamounts => ⟨b, r, treasury, hfee, hr, htreasury, hamounts⟩
    rw [htotal, hafter]
    constructor
    · intro h
      by_cases hle : a + a * b / 10000 ≤ maxStroops
      · exact Or.inl hle
      · obtain ⟨ha, hb⟩ := h.handed _ hrun
        have hrefused := h.refused (htotal.not.mpr hle)
        rw [checkedSend_of_ok hrun] at hrefused
        obtain ⟨code, message, hcheck⟩ := hrefused
        exact Or.inr (Or.inr ⟨within_fromStroops.mp ha, within_fromStroops.mp hb, code, message,
          congrArg Prod.fst hcheck⟩)
    · intro h
      have hamounts : a ≤ maxStroops ∧ a * b / 10000 ≤ maxStroops := by
        rcases h with hle | hrefused | ⟨ha, hb, -⟩
        · omega
        · exact absurd hrefused hbefore
        · exact ⟨ha, hb⟩
      refine ⟨fun order horder => ?_, fun sent w' hsent => ?_, fun hout => ?_⟩
      · rw [hrun] at horder
        cases horder
        exact ⟨within_fromStroops.mpr hamounts.1, within_fromStroops.mpr hamounts.2⟩
      · obtain ⟨order, usdc, horder, hsame, hcheck⟩ := of_prepare_ok hsent
        rw [hrun] at horder
        cases horder
        rw [hsame]
        refine within_fromStroops.mpr ?_
        rcases h with hle | hrefused | ⟨-, -, code, message, hrefused⟩
        · exact hle
        · exact absurd hrefused hbefore
        · rw [hcheck] at hrefused
          cases hrefused
      · rcases h with hle | hrefused | ⟨-, -, code, message, hrefused⟩
        · exact absurd (htotal.mpr hle) hout
        · exact absurd hrefused hbefore
        · exact ⟨code, message, by rw [checkedSend_of_ok hrun, hrefused]⟩

end SendService

/-! ## Requests of the seller -/

namespace Wallets

/-- Horizon has the account, and the builder refuses an amount of more than 64 bits. -/
def horizon (balances : List HorizonBalance) : HorizonSdk Unit where
  loadAccount key ext := (.ok ⟨key, "1", balances⟩, ext)
  isValidIssuer _ := true
  toXDR transaction _ :=
    if transaction.operations.all fun p =>
      match SendService.toStroops p.amount with
      | .ok n => n ≤ SendService.maxStroops
      | .error _ => false
    then .ok "xdr" else .error "amount argument must be of type String"

def sendEnv (balances : List HorizonBalance) : SendEnv Unit where
  config := { treasuryAddress := some sellerKey, usdcIssuer := some buyerKey }
  doubles := ⟨fun s => if s = "0.3" then some (3 / 10) else none, fun percent => some (100 * percent)⟩
  sdk := horizon balances

end Wallets

namespace SendService

open StellarService Wallets

theorem feeBps_sendEnv (balances : List HorizonBalance) : feeBps (sendEnv balances) = .ok 30 := by
  have hpercent : ¬ (3 / 10 : ℚ) < 0 := by norm_num
  have hround : (100 * (3 / 10) + 1 / 2 : ℚ).floor = 30 := by
    refine le_antisymm (Int.lt_add_one_iff.mp (Rat.floor_lt_iff.mpr ?_)) (Rat.le_floor_iff.mpr ?_) <;> norm_num
  show (if (3 / 10 : ℚ) < 0 then _ else (.ok (100 * (3 / 10) + 1 / 2 : ℚ).floor.toNat : Except Thrown ℕ)) = _
  rw [if_neg hpercent, hround]
  rfl

theorem resolve_buyerKey : (resolve buyerKey).run Wallets.world = (.ok ⟨buyerKey, none⟩, Wallets.world) := by
  rfl

theorem order_sendEnv (balances : List HorizonBalance) {amount : String} {a : ℕ} (hamount : toStroops amount = .ok a)
    (hlarge : 10000 ≤ a * 30) : prepareOrder (sendEnv balances) sellerKey buyerKey amount =
      .ok (sendOrder sellerKey buyerKey sellerKey a (a * 30 / 10000)) := by
  rw [prepareOrder_fee (by decide) hamount (by omega) (feeBps_sendEnv balances), if_neg (by omega)]
  rfl

/-- The builder refuses what is beyond the range. -/
theorem build_sendEnv (balances : List HorizonBalance) {a f : ℕ} (ha : 0 < a) (hf : 0 < f) :
    ((buildUnsignedUsdcSend (sendEnv balances) (sendOrder sellerKey buyerKey sellerKey a f).params).run
        Wallets.world).1 =
      if a ≤ maxStroops ∧ f ≤ maxStroops then .ok ⟨"xdr", "Test SDF Network ; September 2015"⟩
      else .error (.other "amount argument must be of type String") := by
  have hkeys : ∀ key ∈ [sellerKey, buyerKey, sellerKey], isPublicKey key = true := by decide
  have hcheck : checkUsdcSend (sendEnv balances) (sendOrder sellerKey buyerKey sellerKey a f).params =
      getUsdcAsset (sendEnv balances) :=
    checkUsdcSend_of_keys hkeys (assertAmount_fromStroops ha) (assertAmount_fromStroops hf)
  have hasset : getUsdcAsset (sendEnv balances) = .ok ⟨"USDC", buyerKey⟩ := rfl
  unfold buildUnsignedUsdcSend
  rw [hcheck, hasset, Svc.run_bind_ok (Svc.run_ofExcept _ _)]
  have hbuild : (sendEnv balances).sdk.toXDR (usdcSendTransaction (sendEnv balances).config
      (sendOrder sellerKey buyerKey sellerKey a f).params ⟨"USDC", buyerKey⟩ ⟨sellerKey, "1", balances⟩) 0 =
      if a ≤ maxStroops ∧ f ≤ maxStroops then .ok "xdr" else .error "amount argument must be of type String" := by
    simp [sendEnv, horizon, usdcSendTransaction, sendOrder, toStroops_fromStroops]
  rw [buildChecked_run]
  show (plain ((sendEnv balances).sdk.toXDR (usdcSendTransaction (sendEnv balances).config
      (sendOrder sellerKey buyerKey sellerKey a f).params ⟨"USDC", buyerKey⟩ ⟨sellerKey, "1", balances⟩) 0) >>=
    fun xdr => pure (UnsignedSendResult.mk xdr "Test SDF Network ; September 2015")) = _
  rw [hbuild]
  split <;> rfl

theorem prepare_sendEnv (balances : List HorizonBalance) {amount : String} {a : ℕ} (hamount : toStroops amount = .ok a)
    (hlarge : 10000 ≤ a * 30) :
    ((prepare (sendEnv balances) sellerKey buyerKey amount).run Wallets.world).1 =
      if a ≤ maxStroops ∧ a * 30 / 10000 ≤ maxStroops then
        .ok ((sendOrder sellerKey buyerKey sellerKey a (a * 30 / 10000)).response ⟨buyerKey, none⟩
          ⟨"xdr", "Test SDF Network ; September 2015"⟩)
      else .error (.other "amount argument must be of type String") := by
  have hbuild := build_sendEnv balances (a := a) (f := a * 30 / 10000) (by omega) (by omega)
  rw [prepare_of_order resolve_buyerKey (order_sendEnv balances hamount hlarge), Svc.run_bind]
  rcases hrun : (buildUnsignedUsdcSend (sendEnv balances)
    (sendOrder sellerKey buyerKey sellerKey a (a * 30 / 10000)).params).run Wallets.world with ⟨r, w₁⟩
  rw [hrun] at hbuild
  obtain rfl : r = _ := hbuild
  by_cases hle : a ≤ maxStroops ∧ a * 30 / 10000 ≤ maxStroops
  · rw [if_pos hle, if_pos hle]
    rfl
  · rw [if_neg hle, if_neg hle]

/-- `2 ^ 63` stroops are handed over, and the builder's error is no `AppException`; with one stroop less, a total beyond
the range is returned. -/
theorem beyond_range : ¬ KeepsRange (sendEnv []) sellerKey buyerKey "922337203685.4775808" Wallets.world ∧
    ((prepare (sendEnv []) sellerKey buyerKey "922337203685.4775808").run Wallets.world).1 =
      .error (.other "amount argument must be of type String") ∧
    ∃ sent, ((prepare (sendEnv []) sellerKey buyerKey "922337203685.4775807").run Wallets.world).1 = .ok sent ∧
      ¬ Within sent.total := by
  have hamount : toStroops "922337203685.4775808" = .ok (2 ^ 63) := by decide
  have hlargest : toStroops "922337203685.4775807" = .ok (2 ^ 63 - 1) := by decide
  refine ⟨fun h => ?_, ?_, ?_⟩
  · have hordered := ordered_run (sendEnv []) sellerKey "922337203685.4775808" resolve_buyerKey
    rw [order_sendEnv [] hamount (by decide)] at hordered
    exact absurd (within_fromStroops.mp (h.handed _ hordered).1) (by decide)
  · rw [prepare_sendEnv [] hamount (by decide), if_neg (by decide)]
  · rw [prepare_sendEnv [] hlargest (by decide), if_pos (by decide)]
    exact ⟨_, rfl, within_fromStroops.not.mpr (by decide)⟩

theorem keepsRange_ten : KeepsRange (sendEnv []) sellerKey buyerKey "10" Wallets.world ↔
    TotalWithin (sendEnv []) "10" ∨ RefusedBefore (sendEnv []) sellerKey buyerKey 100000000 Wallets.world ∨
      RefusedAfter (sendEnv []) sellerKey buyerKey 100000000 Wallets.world :=
  keepsRange_iff (by decide)

end SendService

end IKash
