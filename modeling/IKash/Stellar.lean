import IKash.Amounts
import IKash.Send

/-!
# `StellarService`

The parts that `SendService` calls: the balances of an account, and the unsigned transaction of a USDC payment with its
fee. Horizon and the Stellar SDK are a parameter (`HorizonSdk`); they throw plain errors.

- `assertAmount_fromStroops`: an amount that was written is accepted again;
- `checkUsdcSend_refuses`: what `buildUnsignedUsdcSend` refuses by itself.
-/

namespace IKash

open Lib

variable {χ α : Type}

/-! ## Horizon and the SDK -/

/-- A balance line of an account. Only lines of an issued asset have a code and an issuer. -/
structure HorizonBalance where
  assetType : String
  assetCode : Option String := none
  assetIssuer : Option String := none
  balance : String
  limit : Option String := none
deriving DecidableEq, Repr

structure HorizonAccount where
  accountId : String
  sequence : String
  balances : List HorizonBalance
deriving DecidableEq, Repr

structure StellarAsset where
  code : String
  issuer : String
deriving DecidableEq, Repr

structure StellarPayment where
  destination : String
  asset : StellarAsset
  amount : String
deriving DecidableEq, Repr

/-- What the `TransactionBuilder` is given. -/
structure UnsignedTransaction where
  account : HorizonAccount
  fee : String
  networkPassphrase : String
  operations : List StellarPayment
  timeout : ℕ
deriving DecidableEq, Repr

/-- Requests to Horizon, the check of `new Asset`, and the XDR of a transaction at a time. The errors are the messages
of plain `Error`s. -/
structure HorizonSdk (χ : Type) where
  loadAccount : String → χ → Except String HorizonAccount × χ
  isValidIssuer : String → Bool
  toXDR : UnsignedTransaction → ℤ → Except String String

/-- A plain error is not an `AppException`. -/
def plain (r : Except String α) : Except Thrown α := r.mapError Thrown.other

/-- The settings of `SendService` and `StellarService`. -/
structure SendConfig where
  feePercent : Option String := none
  treasuryAddress : Option String := none
  usdcIssuer : Option String := none
  network : Option String := none

/-- The double arithmetic of the fee: `Number(s)`, and the double nearest to `100 * x`; `none` is not finite. -/
structure Doubles where
  number : String → Option ℚ
  hundredfold : ℚ → Option ℚ

structure SendEnv (χ : Type) where
  config : SendConfig
  doubles : Doubles
  sdk : HorizonSdk χ

namespace StellarService

def networkPassphrase (config : SendConfig) : String :=
  if config.network.getD "testnet" = "public" then "Public Global Stellar Network ; September 2015"
  else "Test SDF Network ; September 2015"

/-! ## Checks -/

def isPublicKey (key : String) : Bool := key.toList.head? = some 'G' && 50 ≤ Json.length key

def invalidPublicKey : Thrown := .app .invalidStellarAddress
  "Invalid public key. Must start with \"G\" and be at least 50 characters."

def assertPublicKey (key : String) : Except Thrown Unit := if isPublicKey key then .ok () else .error invalidPublicKey

/-- `Number` of a decimal with at most seven digits after the point, which is positive as a double if it is. -/
def numberOf (amount : String) : ℚ :=
  let dec := (amount.toList.dropWhile Char.isDigit).drop 1
  natOf (amount.toList.takeWhile Char.isDigit) + natOf dec / 10 ^ dec.length

def assertAmount (amount : String) : Except Thrown Unit :=
  if amountRegex amount = false ∨ numberOf amount ≤ 0 then .error invalidAmount else .ok ()

def missingAssetIssuer : Thrown := .app .missingAssetIssuer
  "TRUSTLESS_WORK_USDC_ISSUER is not configured for USDC operations."

def getUsdcAsset (env : SendEnv χ) : Except Thrown StellarAsset :=
  match env.config.usdcIssuer.filter (· ≠ "") with
  | none => .error missingAssetIssuer
  | some issuer => do
    assertPublicKey issuer
    if env.sdk.isValidIssuer issuer then .ok ⟨"USDC", issuer⟩ else .error (.other "Issuer is invalid")

/-! ## Accounts -/

/-- `loadAccount` of the server. -/
def loadAccount (env : SendEnv χ) (publicKey : String) : Service χ HorizonAccount :=
  external fun ext => (plain (env.sdk.loadAccount publicKey ext).1, (env.sdk.loadAccount publicKey ext).2)

def getAccount (env : SendEnv χ) (publicKey : String) : Service χ HorizonAccount := do
  Svc.ofExcept (assertPublicKey publicKey)
  loadAccount env publicKey

/-- The records of `getBalances` have the fields of the lines, `null` where a line has none. -/
def getBalances (env : SendEnv χ) (publicKey : String) : Service χ (List HorizonBalance) := do
  let account ← getAccount env publicKey
  pure account.balances

/-! ## `buildUnsignedUsdcSend` -/

structure UsdcSend where
  sourcePublicKey : String
  destination : String
  amount : String
  feeAddress : String
  feeAmount : String
deriving DecidableEq, Repr

structure UnsignedSendResult where
  xdr : String
  networkPassphrase : String
deriving DecidableEq, Repr

/-- The checks, and the asset that is sent. -/
def checkUsdcSend (env : SendEnv χ) (params : UsdcSend) : Except Thrown StellarAsset := do
  assertPublicKey params.sourcePublicKey
  assertPublicKey params.destination
  assertPublicKey params.feeAddress
  assertAmount params.amount
  assertAmount params.feeAmount
  getUsdcAsset env

def usdcSendTransaction (config : SendConfig) (params : UsdcSend) (usdc : StellarAsset) (account : HorizonAccount) :
    UnsignedTransaction where
  account := account
  fee := "100"
  networkPassphrase := networkPassphrase config
  operations := [⟨params.destination, usdc, params.amount⟩, ⟨params.feeAddress, usdc, params.feeAmount⟩]
  timeout := 180

/-- The transaction, once the checks have passed. -/
def buildChecked (env : SendEnv χ) (params : UsdcSend) (usdc : StellarAsset) : Service χ UnsignedSendResult := do
  let account ← loadAccount env params.sourcePublicKey
  let w ← Svc.get
  let xdr ← Svc.ofExcept (plain (env.sdk.toXDR (usdcSendTransaction env.config params usdc account) w.now))
  pure ⟨xdr, networkPassphrase env.config⟩

def buildUnsignedUsdcSend (env : SendEnv χ) (params : UsdcSend) : Service χ UnsignedSendResult := do
  let usdc ← Svc.ofExcept (checkUsdcSend env params)
  buildChecked env params usdc

/-! ## What the checks admit -/

/-- A sequence throws what its first part throws, or what the rest throws. -/
theorem bind_eq_error_iff {β : Type} {x : Except Thrown α} {f : α → Except Thrown β} {t : Thrown} :
    (x >>= f) = .error t ↔ x = .error t ∨ ∃ a, x = .ok a ∧ f a = .error t := by
  cases x with
  | error e => simp [bind, Except.bind]
  | ok a => simp [bind, Except.bind]

theorem assertPublicKey_eq_error {key : String} {t : Thrown} :
    assertPublicKey key = .error t ↔ isPublicKey key = false ∧ t = invalidPublicKey := by
  unfold assertPublicKey
  cases isPublicKey key <;> simp [eq_comm]

theorem assertPublicKey_eq_ok {key : String} {u : Unit} : assertPublicKey key = .ok u ↔ isPublicKey key = true := by
  unfold assertPublicKey
  cases isPublicKey key <;> simp

theorem numberOf_eq {s : String} {x : Fixed 7} (hs : s.toList = x.text) : numberOf s = x.value := by
  obtain ⟨htake, hdrop⟩ := x.span_text
  unfold numberOf Fixed.value
  rw [hs, htake, hdrop]
  by_cases hnil : x.frac = []
  · simp [hnil]
  · rw [if_neg hnil, List.drop_succ_cons, List.drop_zero]

/-- A positive amount is accepted. -/
theorem assertAmount_fromStroops {n : ℕ} (h : 0 < n) : assertAmount (SendService.fromStroops n) = .ok () := by
  have hregex : amountRegex (SendService.fromStroops n) = true := amountRegex_iff.mpr ⟨_, fromStroops_eq n⟩
  have hpos : ¬ numberOf (SendService.fromStroops n) ≤ 0 := by
    rw [numberOf_eq (fromStroops_eq n), not_le, Fixed.value_pos_iff, Fixed.units_ofUnits]
    exact h
  unfold assertAmount
  rw [if_neg]
  rintro (hno | hle)
  · rw [hregex] at hno
    cases hno
  · exact hpos hle

variable {env : SendEnv χ} {params : UsdcSend} {t : Thrown} {w w' : World χ}

/-- The issuer is not configured, or it is no public key. -/
theorem getUsdcAsset_refuses : (∃ code message, getUsdcAsset env = .error (.app code message)) ↔
    ∀ issuer, env.config.usdcIssuer = some issuer → isPublicKey issuer = false := by
  unfold getUsdcAsset
  cases hissuer : env.config.usdcIssuer.filter (· ≠ "") with
  | none =>
    refine iff_of_true ⟨_, _, rfl⟩ fun issuer hsome => ?_
    have hempty : issuer = "" := by simpa [hsome] using hissuer
    rw [hempty]
    rfl
  | some issuer =>
    obtain ⟨hsome, -⟩ := Option.filter_eq_some_iff.mp hissuer
    simp only [hsome, Option.some.injEq, forall_eq', bind_eq_error_iff, assertPublicKey_eq_error]
    constructor
    · rintro ⟨code, message, ⟨hkey, -⟩ | ⟨_, -, hvalid⟩⟩
      · exact hkey
      · split at hvalid <;> cases hvalid
    · exact fun hkey => ⟨_, _, Or.inl ⟨hkey, rfl⟩⟩

theorem checkUsdcSend_of_keys (hkeys : ∀ key ∈ [params.sourcePublicKey, params.destination, params.feeAddress],
    isPublicKey key = true) (hamount : assertAmount params.amount = .ok ())
    (hfee : assertAmount params.feeAmount = .ok ()) : checkUsdcSend env params = getUsdcAsset env := by
  simp only [List.forall_mem_cons, List.not_mem_nil, false_imp_iff, implies_true, and_true] at hkeys
  obtain ⟨hsource, hdestination, hfeeAddress⟩ := hkeys
  unfold checkUsdcSend
  have hpass : ∀ {key}, isPublicKey key = true → assertPublicKey key = .ok () := assertPublicKey_eq_ok.mpr
  rw [hpass hsource, hpass hdestination, hpass hfeeAddress, hamount, hfee]
  rfl

theorem checkUsdcSend_of_bad_key {key : String}
    (hmem : key ∈ [params.sourcePublicKey, params.destination, params.feeAddress]) (hkey : isPublicKey key = false) :
    checkUsdcSend env params = .error invalidPublicKey := by
  unfold checkUsdcSend
  simp only [bind_eq_error_iff, assertPublicKey_eq_error, assertPublicKey_eq_ok]
  simp only [List.mem_cons, List.not_mem_nil, or_false] at hmem
  cases hsource : isPublicKey params.sourcePublicKey with
  | false => exact Or.inl ⟨rfl, trivial⟩
  | true =>
    cases hdestination : isPublicKey params.destination with
    | false => exact Or.inr ⟨(), rfl, Or.inl ⟨rfl, trivial⟩⟩
    | true =>
      have hfee : isPublicKey params.feeAddress = false := by
        rcases hmem with rfl | rfl | rfl
        · rw [hsource] at hkey
          cases hkey
        · rw [hdestination] at hkey
          cases hkey
        · exact hkey
      exact Or.inr ⟨(), rfl, Or.inr ⟨(), rfl, Or.inl ⟨hfee, trivial⟩⟩⟩

/-- With amounts that are accepted, the checks refuse a key that is none, or the issuer. -/
theorem checkUsdcSend_refuses (hamount : assertAmount params.amount = .ok ())
    (hfee : assertAmount params.feeAmount = .ok ()) :
    (∃ code message, checkUsdcSend env params = .error (.app code message)) ↔
      (∃ key ∈ [params.sourcePublicKey, params.destination, params.feeAddress], isPublicKey key = false) ∨
        ∀ issuer, env.config.usdcIssuer = some issuer → isPublicKey issuer = false := by
  by_cases hbad : ∃ key ∈ [params.sourcePublicKey, params.destination, params.feeAddress], isPublicKey key = false
  · obtain ⟨key, hmem, hkey⟩ := hbad
    exact iff_of_true ⟨_, _, checkUsdcSend_of_bad_key hmem hkey⟩ (Or.inl ⟨key, hmem, hkey⟩)
  · have hkeys : ∀ key ∈ [params.sourcePublicKey, params.destination, params.feeAddress], isPublicKey key = true :=
      fun key hmem => Bool.of_not_eq_false fun hkey => hbad ⟨key, hmem, hkey⟩
    rw [checkUsdcSend_of_keys hkeys hamount hfee, getUsdcAsset_refuses]
    exact ⟨Or.inr, fun h => h.resolve_left hbad⟩

theorem loadAccount_run (env : SendEnv χ) (publicKey : String) (w : World χ) : (loadAccount env publicKey).run w =
    (plain (env.sdk.loadAccount publicKey w.ext).1, { w with ext := (env.sdk.loadAccount publicKey w.ext).2 }) := rfl

/-- The result of the builder on the account that Horizon gives. -/
theorem buildChecked_run {usdc : StellarAsset} (env : SendEnv χ) (params : UsdcSend) (w : World χ) :
    ((buildChecked env params usdc).run w).1 = (do
      let account ← plain (env.sdk.loadAccount params.sourcePublicKey w.ext).1
      let xdr ← plain (env.sdk.toXDR (usdcSendTransaction env.config params usdc account) w.now)
      pure ⟨xdr, networkPassphrase env.config⟩) := by
  have hload := loadAccount_run env params.sourcePublicKey w
  unfold buildChecked
  cases haccount : plain (env.sdk.loadAccount params.sourcePublicKey w.ext).1 with
  | error t =>
    rw [haccount] at hload
    rw [Svc.run_bind_error hload]
    rfl
  | ok account =>
    rw [haccount] at hload
    rw [Svc.run_bind_ok hload, Svc.run_bind_ok (Svc.run_get _)]
    show _ = (plain (env.sdk.toXDR (usdcSendTransaction env.config params usdc account) w.now) >>= fun xdr =>
      pure (UnsignedSendResult.mk xdr (networkPassphrase env.config)))
    dsimp only
    cases plain (env.sdk.toXDR (usdcSendTransaction env.config params usdc account) w.now) <;> rfl

end StellarService
end IKash
