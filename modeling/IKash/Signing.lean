import IKash.Lib.Buffer
import IKash.Auth
import IKash.Deploy

/-!
# Signing envelopes

`TrustlessWorkService.signAndBroadcast` adds the backend's signature to an envelope without parsing it: it cuts the bytes
of the envelope at offsets from the end, where it takes the number of signatures to stand. `Envelope` is what the bytes
of a transaction envelope mean, with the count before the signatures.

- `submits_iff`: what the call submits is what it signs;
- `cut_before`, `signatures_repeat`, `count_eq`: an envelope with signatures that is cut at its count, by the number that
  ends it, has 64 signatures that repeat this number;
- `signs_correctly_iff`: the envelopes that get the signature.
-/

namespace IKash

open Lib Buffer

variable {χ : Type}

/-! ## The SDK -/

/-- An Ed25519 key pair. -/
structure Keypair where
  signatureHint : Bytes
  sign : Bytes → Bytes
  hint_length : signatureHint.length = 4
  sign_length : ∀ data, (sign data).length = 64

structure StellarSdk where
  fromSecret : String → Except Thrown Keypair
  hash : Bytes → Bytes

/-! ## `signAndBroadcast` -/

namespace TrustlessWorkService

/-- `hint(4) + length_prefix(4) + signature(64)` -/
def decorate (keypair : Keypair) (txHash : Bytes) : Except String Bytes := do
  let decoratedSig := copy keypair.signatureHint (alloc (4 + 4 + 64)) 0
  let decoratedSig ← writeUInt32BE decoratedSig 64 4
  pure (copy (keypair.sign txHash) decoratedSig 8)

def signedEnvelope (raw newSigCount decoratedSig : Bytes) (sigCount : ℕ) : Bytes :=
  if 0 < sigCount then
    let existingSigsLength := sigCount * 72
    let existingSigs := subarray raw (raw.length - 4 - existingSigsLength) (raw.length - 4)
    let txEnd : ℤ := raw.length - 4 - existingSigsLength
    subarray raw 0 4 ++ subarray raw 4 txEnd ++ newSigCount ++ existingSigs ++ decoratedSig
  else subarray raw 0 4 ++ subarray raw 4 (raw.length - 4) ++ newSigCount ++ decoratedSig

/-- The bytes of the signed envelope. -/
def signBytes (sdk : StellarSdk) (keypair : Keypair) (raw : Bytes) (networkPassphrase : String) :
    Except String Bytes := do
  let envelopeTypeValue ← readUInt32BE raw 0
  let sigCount ← readUInt32BE raw (raw.length - 4)
  let txBodyBytes := subarray raw 4 (raw.length - 4)
  let networkId := sdk.hash (utf8 networkPassphrase)
  let typeTag ← writeUInt32BE (alloc 4) envelopeTypeValue 0
  let hashPreimage := networkId ++ typeTag ++ txBodyBytes
  let txHash := sdk.hash hashPreimage
  let decoratedSig ← decorate keypair txHash
  let newSigCount ← writeUInt32BE (alloc 4) (sigCount + 1) 0
  pure (signedEnvelope raw newSigCount decoratedSig sigCount)

/-- `signAndBroadcast` up to the broadcast. -/
def signTransaction (sdk : StellarSdk) (unsignedXdr signerSecret networkPassphrase : String) : Except Thrown String := do
  let keypair ← sdk.fromSecret signerSecret
  let signedEnvelope ← (signBytes sdk keypair (Base64.decode unsignedXdr) networkPassphrase).mapError .other
  pure (Base64.encode signedEnvelope)

def signAndBroadcast (sdk : StellarSdk) (tw : TrustlessWork χ) (unsignedXdr signerSecret networkPassphrase : String) :
    Service χ SendTransactionResponse := do
  let signedXdr ← Svc.ofExcept (signTransaction sdk unsignedXdr signerSecret networkPassphrase)
  external (tw.sendTransaction signedXdr)

end TrustlessWorkService

/-- The call is one submission of the envelope, whatever Trustless Work answers. -/
def Submits (sdk : StellarSdk) (unsignedXdr signerSecret networkPassphrase signedXdr : String) : Prop :=
  ∀ (χ : Type) (tw : TrustlessWork χ) (w : World χ),
    (TrustlessWorkService.signAndBroadcast sdk tw unsignedXdr signerSecret networkPassphrase).run w =
      (external (tw.sendTransaction signedXdr)).run w

/-! ## Envelopes -/

structure DecoratedSignature where
  hint : Bytes
  signature : Bytes
  hint_length : hint.length = 4
  signature_length : signature.length = 64

def DecoratedSignature.encode (s : DecoratedSignature) : Bytes := s.hint ++ be32 64 ++ s.signature

/-- A signed transaction. -/
structure Envelope where
  envelopeType : UInt32
  body : Bytes
  signatures : List DecoratedSignature
  count_lt : signatures.length < 2 ^ 32

/-- The signatures, as the envelope has them. -/
def Envelope.signatureBytes (env : Envelope) : Bytes := env.signatures.flatMap DecoratedSignature.encode

/-- A body, its number of signatures and their bytes. -/
def counted (body : Bytes) (n : ℕ) (signatures : Bytes) : Bytes := body ++ be32 n ++ signatures

def Envelope.encode (env : Envelope) : Bytes :=
  be32 env.envelopeType.toNat ++ counted env.body env.signatures.length env.signatureBytes

/-- What a signature of the transaction is over. -/
def StellarSdk.transactionHash (sdk : StellarSdk) (networkPassphrase : String) (envelopeType : UInt32) (body : Bytes) :
    Bytes :=
  sdk.hash (sdk.hash (utf8 networkPassphrase) ++ be32 envelopeType.toNat ++ body)

def Keypair.decorated (keypair : Keypair) (data : Bytes) : DecoratedSignature :=
  ⟨keypair.signatureHint, keypair.sign data, keypair.hint_length, keypair.sign_length data⟩

/-- The envelope with the key's signature of the transaction after the signatures it has. -/
structure SignedBy (sdk : StellarSdk) (keypair : Keypair) (networkPassphrase : String) (env signed : Envelope) :
    Prop where
  envelopeType : signed.envelopeType = env.envelopeType
  body : signed.body = env.body
  signatures : signed.signatures = env.signatures ++
    [keypair.decorated (sdk.transactionHash networkPassphrase env.envelopeType env.body)]

/-- The call submits the envelope with the key's signature added. -/
def SignsCorrectly (sdk : StellarSdk) (keypair : Keypair) (unsignedXdr signerSecret networkPassphrase : String)
    (env : Envelope) : Prop :=
  ∃ signed, SignedBy sdk keypair networkPassphrase env signed ∧
    Submits sdk unsignedXdr signerSecret networkPassphrase (Base64.encode signed.encode)

/-- The bytes of 64 signatures that repeat the number 64. -/
def repeated64 : Bytes := (List.replicate 1152 (be32 64)).flatten

/-- The envelope has no signature yet; or it repeats its number of signatures to the end, and the key's signatures of
its body with and without these bytes are the same. -/
def Signable (sdk : StellarSdk) (keypair : Keypair) (networkPassphrase : String) (env : Envelope) : Prop :=
  env.signatures = [] ∨
    env.signatureBytes = repeated64 ∧
      keypair.sign (sdk.transactionHash networkPassphrase env.envelopeType (env.body ++ repeated64)) =
        keypair.sign (sdk.transactionHash networkPassphrase env.envelopeType env.body)

/-! ## Where the envelope is cut -/

section Cut

variable {body signatures bytes : Bytes} {n k y i : ℕ}

@[simp] theorem length_counted : (counted body n signatures).length = body.length + 4 + signatures.length := by
  simp [counted]
  omega

theorem counted_at (h : i < 4) : (counted body n signatures)[body.length + i]? = (be32 n)[i]? := by
  rw [counted, List.append_assoc, List.getElem?_append_right (by omega), Nat.add_sub_cancel_left,
    List.getElem?_append_left (by simpa using h)]

theorem counted_after (h : body.length + 4 ≤ i) :
    (counted body n signatures)[i]? = signatures[i - (body.length + 4)]? := by
  rw [counted, List.getElem?_append_right (by simpa using h)]
  simp

/-- The bytes without the last four, with a count put in at `y`. -/
def spliced (bytes : Bytes) (y k : ℕ) : Bytes := bytes.take y ++ be32 (k + 1) ++ (bytes.take (bytes.length - 4)).drop y

theorem spliced_before (hy : y ≤ bytes.length) (h : i < y) : (spliced bytes y k)[i]? = bytes[i]? := by
  have hi : i < (bytes.take y).length := by
    rw [List.length_take]
    omega
  rw [spliced, List.append_assoc, List.getElem?_append_left hi, List.getElem?_take, if_pos h]

theorem spliced_at (hy : y ≤ bytes.length) (h : i < 4) : (spliced bytes y k)[y + i]? = (be32 (k + 1))[i]? := by
  have hlen : (bytes.take y).length = y := List.length_take_of_le hy
  rw [spliced, List.append_assoc, List.getElem?_append_right (by omega), hlen, Nat.add_sub_cancel_left,
    List.getElem?_append_left (by simpa using h)]

theorem spliced_after (hy : y ≤ i) (h : i + 4 < bytes.length) : (spliced bytes y k)[i + 4]? = bytes[i]? := by
  have hlen : (bytes.take y ++ be32 (k + 1)).length = y + 4 := by
    rw [List.length_append, List.length_take_of_le (by omega), length_be32]
  rw [spliced, List.getElem?_append_right (by omega), hlen, List.getElem?_drop, List.getElem?_take,
    if_pos (by omega)]
  congr 1
  omega

end Cut

/-! ## The envelopes that are cut at their count -/

section Repeated

variable {body signatures : Bytes} {n k y : ℕ}

/-- The signatures of the envelope are copies of the number that stands in the first of them before its 64 bytes. -/
theorem signatures_repeat (hn : 0 < n) (hlen : signatures.length = 72 * n)
    (hfirst : (signatures.drop 4).take 4 = be32 64) (hy : y < body.length + 4)
    (h : spliced (counted body n signatures) y k = counted body (n + 1) signatures) :
    signatures = (List.replicate (18 * n) (be32 64)).flatten := by
  have hperiod : ∀ i, i + 4 < signatures.length → signatures[i + 4]? = signatures[i]? := by
    intro i hi
    have hnew : (counted body (n + 1) signatures)[body.length + 4 + i + 4]? = signatures[i + 4]? := by
      rw [counted_after (by omega)]
      congr 1
      omega
    have hold : (counted body n signatures)[body.length + 4 + i]? = signatures[i]? := by
      rw [counted_after (by omega), Nat.add_sub_cancel_left]
    rw [← hnew, ← hold, ← h]
    exact spliced_after (by omega) (by simp only [length_counted]; omega)
  have htake : signatures.take 4 = be32 64 := by
    rw [← hfirst]
    apply List.ext_getElem?
    intro i
    rw [List.getElem?_take, List.getElem?_take, List.getElem?_drop]
    split
    next hi => rw [Nat.add_comm 4 i, hperiod i (by omega)]
    next => rfl
  rw [← htake]
  exact eq_flatten_replicate (by omega) hperiod

theorem take_repeated {m : ℕ} (hm : 0 < m) (bytes : Bytes) (h : bytes.length = 4) :
    ((List.replicate m bytes).flatten).take 4 = bytes := by
  obtain ⟨m, rfl⟩ := Nat.exists_eq_add_of_lt hm
  rw [Nat.zero_add, List.replicate_succ, List.flatten_cons, List.take_left' h]

theorem drop_repeated {m : ℕ} (bytes : Bytes) (h : bytes.length = 4) :
    ((List.replicate (m + 1) bytes).flatten).drop (4 * m) = bytes := by
  have hlen : ((List.replicate m bytes).flatten).length = 4 * m := by
    simp [List.length_flatten, h, Nat.mul_comm]
  rw [List.replicate_succ', List.flatten_append, List.flatten_singleton, List.drop_left' hlen]

/-- An envelope that is cut before the end of its count, at the number that ends it, has 64 signatures. -/
theorem count_eq (hn : 0 < n) (hlt : n + 1 < 2 ^ 32)
    (hrepeat : signatures = (List.replicate (18 * n) (be32 64)).flatten) (hy : y < body.length + 4)
    (h : spliced (counted body n signatures) y 64 = counted body (n + 1) signatures) : n = 64 := by
  have hlen : signatures.length = 72 * n := by
    rw [hrepeat]
    simp [List.length_flatten]
    omega
  have hword : ∀ i < 4, signatures[i]? = (be32 64)[i]? := by
    intro i hi
    have htake : signatures.take 4 = be32 64 := by
      rw [hrepeat]
      exact take_repeated (by omega) _ rfl
    rw [← htake, List.getElem?_take, if_pos hi]
  rcases Nat.lt_or_ge body.length y with hby | hby
  · -- the new count ends inside the first word of the signatures, where the envelope has a zero
    have hput : (spliced (counted body n signatures) y 64)[y + 3]? = some 65 := by
      rw [spliced_at (by simp only [length_counted]; omega) (by omega)]
      rfl
    have hkept : (counted body (n + 1) signatures)[y + 3]? = (be32 64)[y + 3 - (body.length + 4)]? := by
      rw [counted_after (by omega), hword _ (by omega)]
    rw [h, hkept] at hput
    have hcases : y + 3 - (body.length + 4) = 0 ∨ y + 3 - (body.length + 4) = 1 ∨ y + 3 - (body.length + 4) = 2 := by
      omega
    rcases hcases with hi | hi | hi <;> rw [hi] at hput <;> cases hput
  · -- the count itself is moved to the first word of the signatures
    have hcount : be32 n = be32 64 := by
      apply List.ext_getElem?
      intro i
      rcases Nat.lt_or_ge i 4 with hi | hi
      · have hmoved : (spliced (counted body n signatures) y 64)[body.length + i + 4]? =
            (counted body n signatures)[body.length + i]? :=
          spliced_after (by omega) (by simp only [length_counted]; omega)
        rw [h, counted_at hi, counted_after (by omega)] at hmoved
        rw [← hmoved, ← hword i hi]
        congr 1
        omega
      · rw [List.getElem?_eq_none (by simpa using hi), List.getElem?_eq_none (by simpa using hi)]
    exact be32_inj (by omega) (by omega) hcount

/-- The count is not put in after the count that the envelope has. -/
theorem cut_before (hlt : n + 1 < 2 ^ 32) (hy : y ≤ (counted body n signatures).length)
    (h : spliced (counted body n signatures) y k = counted body (n + 1) signatures) : y < body.length + 4 := by
  by_contra hge
  have hcount : be32 n = be32 (n + 1) := by
    apply List.ext_getElem?
    intro i
    rcases Nat.lt_or_ge i 4 with hi | hi
    · have hkept := spliced_before (k := k) hy (i := body.length + i) (by omega)
      rw [h, counted_at hi, counted_at hi] at hkept
      exact hkept.symm
    · rw [List.getElem?_eq_none (by simpa using hi), List.getElem?_eq_none (by simpa using hi)]
  have := be32_inj (by omega) (by omega) hcount
  omega

end Repeated


/-! ## What is submitted -/

theorem submits_iff {sdk : StellarSdk} {unsignedXdr signerSecret networkPassphrase signedXdr : String} :
    Submits sdk unsignedXdr signerSecret networkPassphrase signedXdr ↔
      TrustlessWorkService.signTransaction sdk unsignedXdr signerSecret networkPassphrase = .ok signedXdr := by
  constructor
  · intro h
    -- a Trustless Work that remembers what it was sent
    let tw : TrustlessWork (List String) :=
      { sendTransaction := fun xdr sent => (.error (.other ""), sent ++ [xdr])
        getEscrowBalance := fun _ sent => (.error (.other ""), sent) }
    have hsent := congrArg (fun r => r.2.ext) (h _ tw ⟨Db.empty, 0, [], fun _ => {}, []⟩)
    cases hsign : TrustlessWorkService.signTransaction sdk unsignedXdr signerSecret networkPassphrase with
    | error t =>
      rw [TrustlessWorkService.signAndBroadcast, hsign] at hsent
      cases hsent
    | ok xdr =>
      rw [TrustlessWorkService.signAndBroadcast, hsign] at hsent
      have hxdr : [xdr] = [signedXdr] := hsent
      rw [List.singleton_inj.mp hxdr]
  · intro h χ tw w
    rw [TrustlessWorkService.signAndBroadcast, h]
    rfl

/-- What `deployEscrowToChain` makes of the answer. -/
def deployedContract (result : SendTransactionResponse) : Service χ String := do
  Svc.throwIf (result.status ≠ "SUCCESS")
    (.app .escrowCreationFailed (result.message.getD "Escrow contract deployment failed"))
  Svc.orThrow (result.contractId.filter (· ≠ ""))
    (.app .escrowCreationFailed (result.message.getD "Escrow contract deployment failed"))

theorem deployBroadcast_eq {sdk : StellarSdk} (tw : TrustlessWorkService χ) (config : EscrowConfig)
    (hsign : tw.sign = TrustlessWorkService.signTransaction sdk) (unsignedTransaction secret : String) :
    EscrowService.deployBroadcast tw config unsignedTransaction secret =
      TrustlessWorkService.signAndBroadcast sdk tw.toTrustlessWork unsignedTransaction secret
        (EscrowService.getNetworkPassphrase config) >>= deployedContract := by
  rw [TrustlessWorkService.signAndBroadcast, Svc.bind_assoc, ← hsign]
  rfl

section Signed

variable {sdk : StellarSdk} {keypair : Keypair} {networkPassphrase : String} {env signed : Envelope}

theorem decorate_eq (keypair : Keypair) (txHash : Bytes) :
    TrustlessWorkService.decorate keypair txHash = .ok (keypair.decorated txHash).encode := by
  have hhint : copy keypair.signatureHint (alloc (4 + 4 + 64)) 0 = keypair.signatureHint ++ alloc 4 ++ alloc 64 := by
    have h : copy keypair.signatureHint ([] ++ alloc 4 ++ (alloc 64 ++ alloc 4)) 0 = _ :=
      copy_append rfl (by rw [keypair.hint_length]; rfl)
    rw [List.append_assoc]
    exact h
  have hlength : copy (be32 64) (keypair.signatureHint ++ alloc 4 ++ alloc 64) 4 =
      keypair.signatureHint ++ be32 64 ++ alloc 64 :=
    copy_append keypair.hint_length rfl
  have hsignature : copy (keypair.sign txHash) (keypair.signatureHint ++ be32 64 ++ alloc 64) 8 =
      keypair.signatureHint ++ be32 64 ++ keypair.sign txHash := by
    rw [← List.append_nil (_ ++ alloc 64), ← List.append_nil (_ ++ keypair.sign txHash)]
    exact copy_append (by simp [keypair.hint_length]) (by rw [keypair.sign_length]; rfl)
  rw [TrustlessWorkService.decorate, hhint, writeUInt32BE_of_le (by omega) (by simp [keypair.hint_length, alloc]), hlength]
  show Except.ok _ = _
  rw [hsignature]
  rfl

/-! ### The bytes of the envelope -/

/-- Where the code ends the body. -/
def txEnd (length sigCount : ℕ) : ℕ :=
  if 0 < sigCount then index length (length - 4 - (sigCount * 72 : ℕ)) else length - 4

/-- The number that ends the bytes. -/
def lastWord (bytes : Bytes) : ℕ := word ((bytes.drop (bytes.length - 4)).take 4)

theorem sub_four_cast {raw : Bytes} (h : 4 ≤ raw.length) : (raw.length : ℤ) - 4 = ((raw.length - 4 : ℕ) : ℤ) := by omega

theorem signedEnvelope_eq {raw : Bytes} (h : 4 ≤ raw.length) (newSigCount decoratedSig : Bytes) (sigCount : ℕ) :
    TrustlessWorkService.signedEnvelope raw newSigCount decoratedSig sigCount =
      raw.take 4 ++ (raw.take (txEnd raw.length sigCount)).drop 4 ++ newSigCount ++
        (raw.take (raw.length - 4)).drop (txEnd raw.length sigCount) ++ decoratedSig := by
  have htype : subarray raw 0 4 = raw.take 4 := subarray_natCast (i := 0) (j := 4) (by omega) h
  unfold TrustlessWorkService.signedEnvelope txEnd
  rw [htype]
  split
  · simp only [subarray]
    rw [sub_four_cast h, index_natCast (Nat.sub_le _ _), show (4 : ℤ) = ((4 : ℕ) : ℤ) from rfl, index_natCast h]
  · rw [sub_four_cast h, show (4 : ℤ) = ((4 : ℕ) : ℤ) from rfl, subarray_natCast h (Nat.sub_le _ _)]
    rw [List.drop_eq_nil_of_le (List.length_take_le _ _), List.append_nil]

theorem txEnd_le (length sigCount : ℕ) : txEnd length sigCount ≤ length := by
  unfold txEnd
  split
  · exact index_le _ _
  · omega

/-- The result has the length of the envelope and of the new signature only if the body is taken to end inside. -/
theorem txEnd_inside {raw newSigCount decoratedSig : Bytes} {sigCount : ℕ} (h : 8 ≤ raw.length)
    (hcount : newSigCount.length = 4) (hlen : (TrustlessWorkService.signedEnvelope raw newSigCount decoratedSig
      sigCount).length = raw.length + decoratedSig.length) :
    4 ≤ txEnd raw.length sigCount ∧ txEnd raw.length sigCount ≤ raw.length - 4 := by
  have hle := txEnd_le raw.length sigCount
  rw [signedEnvelope_eq (by omega)] at hlen
  simp only [List.length_append, List.length_take, List.length_drop, hcount] at hlen
  omega

/-- Where the body is taken to end inside, the count is put in there. -/
theorem signedEnvelope_spliced {envelopeType bytes decoratedSig : Bytes} {sigCount y : ℕ} (h : envelopeType.length = 4)
    (hbytes : 4 ≤ bytes.length) (hend : txEnd (envelopeType ++ bytes).length sigCount = 4 + y) :
    TrustlessWorkService.signedEnvelope (envelopeType ++ bytes) (be32 (sigCount + 1)) decoratedSig sigCount =
      envelopeType ++ spliced bytes y sigCount ++ decoratedSig := by
  rw [signedEnvelope_eq (by rw [List.length_append]; omega), hend, List.take_left' h]
  have htake : ∀ m, (envelopeType ++ bytes).take (4 + m) = envelopeType ++ bytes.take m := by
    intro m
    rw [← h, List.take_length_add_append]
  have hlast : (envelopeType ++ bytes).length - 4 = 4 + (bytes.length - 4) := by
    rw [List.length_append]
    omega
  have hdrop : ∀ tail : Bytes, (envelopeType ++ tail).drop (4 + y) = tail.drop y := by
    intro tail
    rw [← h, List.drop_length_add_append]
  rw [hlast, htake, htake, List.drop_left' h, hdrop, spliced]
  simp only [List.append_assoc]

/-- What the code signs and makes of the bytes, unless the new count does not fit. -/
theorem signBytes_eq {raw : Bytes} (h : 4 ≤ raw.length) (sdk : StellarSdk) (keypair : Keypair)
    (networkPassphrase : String) (hcount : lastWord raw + 1 < 2 ^ 32) (htype : word (raw.take 4) < 2 ^ 32) :
    TrustlessWorkService.signBytes sdk keypair raw networkPassphrase =
      .ok (TrustlessWorkService.signedEnvelope raw (be32 (lastWord raw + 1))
        (keypair.decorated (sdk.hash (sdk.hash (utf8 networkPassphrase) ++ be32 (word (raw.take 4)) ++
          (raw.take (raw.length - 4)).drop 4))).encode (lastWord raw)) := by
  have hfirst : readUInt32BE raw 0 = .ok (word (raw.take 4)) :=
    readUInt32BE_of_le (show 0 + 4 ≤ raw.length by omega)
  have hlast : readUInt32BE raw (raw.length - 4) = .ok (lastWord raw) := by
    rw [sub_four_cast h]
    exact readUInt32BE_of_le (by omega)
  have hbody : subarray raw 4 (raw.length - 4) = (raw.take (raw.length - 4)).drop 4 := by
    rw [sub_four_cast h]
    exact subarray_natCast h (Nat.sub_le _ _)
  have hwrite : ∀ value < 2 ^ 32, writeUInt32BE (alloc 4) value 0 = .ok (be32 value) := by
    intro value hvalue
    rw [writeUInt32BE_of_le hvalue (by simp [alloc])]
    rfl
  unfold TrustlessWorkService.signBytes
  simp only [hfirst, hlast, hbody, hwrite _ htype, hwrite _ hcount, decorate_eq, bind, Except.bind]
  rfl

theorem signBytes_of_le {raw : Bytes} (h : 4 ≤ raw.length) (sdk : StellarSdk) (keypair : Keypair)
    (networkPassphrase : String) (hcount : 2 ^ 32 ≤ lastWord raw + 1) (signedBytes : Bytes) :
    TrustlessWorkService.signBytes sdk keypair raw networkPassphrase ≠ .ok signedBytes := by
  have hlast : readUInt32BE raw (raw.length - 4) = .ok (lastWord raw) := by
    rw [sub_four_cast h]
    exact readUInt32BE_of_le (by omega)
  intro hok
  unfold TrustlessWorkService.signBytes at hok
  obtain ⟨_, -, hok⟩ := Except.of_bind_ok hok
  obtain ⟨sigCount, hread, hok⟩ := Except.of_bind_ok hok
  obtain ⟨_, -, hok⟩ := Except.of_bind_ok hok
  obtain ⟨_, -, hok⟩ := Except.of_bind_ok hok
  rw [hlast] at hread
  cases hread
  rw [writeUInt32BE_of_lt (by omega)] at hok
  cases hok

/-! ### The envelope with one more signature -/

@[simp] theorem length_decorated (s : DecoratedSignature) : s.encode.length = 72 := by
  simp [DecoratedSignature.encode, s.hint_length, s.signature_length]

theorem length_signatureBytes (env : Envelope) : env.signatureBytes.length = 72 * env.signatures.length := by
  rw [Envelope.signatureBytes]
  induction env.signatures with
  | nil => rfl
  | cons s rest ih =>
    rw [List.flatMap_cons, List.length_append, ih, length_decorated, List.length_cons]
    omega

theorem length_encode (env : Envelope) :
    env.encode.length = 4 + (counted env.body env.signatures.length env.signatureBytes).length := by
  rw [Envelope.encode, List.length_append, length_be32]

/-- The first signature has its length after the hint. -/
theorem first_length (h : env.signatures ≠ []) : (env.signatureBytes.drop 4).take 4 = be32 64 := by
  obtain ⟨s, rest, hs⟩ := List.exists_cons_of_ne_nil h
  rw [Envelope.signatureBytes, hs, List.flatMap_cons, DecoratedSignature.encode, List.append_assoc, List.append_assoc,
    List.drop_left' s.hint_length, List.take_left' (length_be32 64)]

theorem encode_signed (h : SignedBy sdk keypair networkPassphrase env signed) :
    signed.encode = be32 env.envelopeType.toNat ++
      counted env.body (env.signatures.length + 1) env.signatureBytes ++
        (keypair.decorated (sdk.transactionHash networkPassphrase env.envelopeType env.body)).encode := by
  have hbytes : signed.signatureBytes = env.signatureBytes ++
      (keypair.decorated (sdk.transactionHash networkPassphrase env.envelopeType env.body)).encode := by
    rw [Envelope.signatureBytes, h.signatures, List.flatMap_append, List.flatMap_singleton, Envelope.signatureBytes]
  rw [Envelope.encode, h.envelopeType, h.body, hbytes, h.signatures, List.length_append, List.length_singleton]
  simp only [counted, List.append_assoc]

/-- What the code hashes as the body, and then takes for the number of signatures. -/
theorem encode_cut (env : Envelope) :
    env.encode.take 4 = be32 env.envelopeType.toNat ∧
      (env.encode.take (env.encode.length - 4)).drop 4 =
        (counted env.body env.signatures.length env.signatureBytes).take (env.body.length + env.signatureBytes.length) ∧
      lastWord env.encode = lastWord (counted env.body env.signatures.length env.signatureBytes) := by
  have htype : (be32 env.envelopeType.toNat).length = 4 := rfl
  have hlen := length_encode env
  have hcounted : (counted env.body env.signatures.length env.signatureBytes).length - 4 =
      env.body.length + env.signatureBytes.length := by
    rw [length_counted]
    omega
  have hend : env.encode.length - 4 = (be32 env.envelopeType.toNat).length +
      (env.body.length + env.signatureBytes.length) := by
    rw [htype, hlen, ← hcounted, length_counted]
    omega
  refine ⟨List.take_left' htype, ?_, ?_⟩
  · rw [hend, Envelope.encode, List.take_length_add_append, List.drop_left' htype]
  · rw [lastWord, lastWord, hend, hcounted, Envelope.encode, List.drop_length_add_append]

theorem lastWord_unsigned {body : Bytes} (k : ℕ) (h : k < 2 ^ 32) : lastWord (counted body k []) = k := by
  have hend : (counted body k []).length - 4 = body.length := by simp
  rw [lastWord, hend, counted, List.append_nil, List.drop_left' rfl]
  exact word_be32 h

theorem lastWord_append {bytes tail : Bytes} (h : 4 ≤ tail.length) : lastWord (bytes ++ tail) = lastWord tail := by
  have hend : (bytes ++ tail).length - 4 = bytes.length + (tail.length - 4) := by
    rw [List.length_append]
    omega
  rw [lastWord, lastWord, hend, List.drop_length_add_append]

theorem lastWord_repeated {m : ℕ} : lastWord ((List.replicate (m + 1) (be32 64)).flatten) = 64 := by
  have hend : ((List.replicate (m + 1) (be32 64)).flatten).length - 4 = 4 * m := by
    simp [List.length_flatten]
    omega
  rw [lastWord, hend, drop_repeated _ rfl]
  exact word_be32 (by omega)

/-! ### When the signature is added correctly -/

theorem signTransaction_eq_ok {raw : Bytes} {unsignedXdr signerSecret : String}
    (hkey : sdk.fromSecret signerSecret = .ok keypair) (hraw : Base64.decode unsignedXdr = raw) (bytes : Bytes) :
    TrustlessWorkService.signTransaction sdk unsignedXdr signerSecret networkPassphrase = .ok (Base64.encode bytes) ↔
      TrustlessWorkService.signBytes sdk keypair raw networkPassphrase = .ok bytes := by
  rw [TrustlessWorkService.signTransaction, hkey, ← hraw]
  show ((TrustlessWorkService.signBytes sdk keypair (Base64.decode unsignedXdr) networkPassphrase).mapError Thrown.other
    >>= fun signedEnvelope => pure (Base64.encode signedEnvelope)) = _ ↔ _
  cases TrustlessWorkService.signBytes sdk keypair (Base64.decode unsignedXdr) networkPassphrase with
  | error message =>
    constructor
    · intro h
      cases h
    · intro h
      cases h
  | ok signedBytes =>
    constructor
    · intro h
      rw [Base64.encode_inj (Except.ok.inj h)]
    · intro h
      rw [Except.ok.inj h]
      rfl

/-- The bytes that the code makes of an envelope. -/
theorem signBytes_encode (env : Envelope) (sdk : StellarSdk) (keypair : Keypair) (networkPassphrase : String)
    (hcount : lastWord env.encode + 1 < 2 ^ 32) :
    TrustlessWorkService.signBytes sdk keypair env.encode networkPassphrase =
      .ok (TrustlessWorkService.signedEnvelope env.encode (be32 (lastWord env.encode + 1))
        (keypair.decorated (sdk.transactionHash networkPassphrase env.envelopeType
          ((counted env.body env.signatures.length env.signatureBytes).take
            (env.body.length + env.signatureBytes.length)))).encode (lastWord env.encode)) := by
  obtain ⟨htype, hbody, -⟩ := encode_cut env
  have hword : word (env.encode.take 4) = env.envelopeType.toNat := by
    rw [htype]
    exact word_be32 env.envelopeType.toNat_lt
  have h := signBytes_eq (by rw [length_encode]; omega) sdk keypair networkPassphrase hcount
    (by rw [hword]; exact env.envelopeType.toNat_lt)
  rw [h, hword, hbody]
  rfl

/-- A count that stands between a body and 64 signatures that repeat it may as well stand after them. -/
theorem counted_repeated (body : Bytes) :
    counted body 64 repeated64 = body ++ repeated64 ++ be32 64 := by
  have hsucc : be32 64 ++ repeated64 = repeated64 ++ be32 64 := by
    have hcons : be32 64 ++ repeated64 = (List.replicate (1152 + 1) (be32 64)).flatten := rfl
    rw [hcons, List.replicate_succ', List.flatten_append, List.flatten_singleton]
    rfl
  rw [counted, List.append_assoc, hsucc, List.append_assoc]

theorem length_repeated64 : repeated64.length = 4608 := by
  rw [repeated64, List.length_flatten, List.map_replicate, List.sum_replicate_nat, length_be32]

theorem signedEnvelope_encode {k y : ℕ} {decoratedSig : Bytes} (hend : txEnd env.encode.length k = 4 + y) :
    TrustlessWorkService.signedEnvelope env.encode (be32 (k + 1)) decoratedSig k =
      be32 env.envelopeType.toNat ++ spliced (counted env.body env.signatures.length env.signatureBytes) y k ++
        decoratedSig := by
  have hlen : 4 ≤ (counted env.body env.signatures.length env.signatureBytes).length := by
    rw [length_counted]
    omega
  exact signedEnvelope_spliced (length_be32 _) hlen hend

/-- The envelope with one more signature has its new count where the code puts it. -/
theorem spliced_of_signs {k : ℕ} {d d' : DecoratedSignature}
    (h : TrustlessWorkService.signedEnvelope env.encode (be32 (k + 1)) d.encode k = be32 env.envelopeType.toNat ++
      counted env.body (env.signatures.length + 1) env.signatureBytes ++ d'.encode) :
    ∃ y ≤ (counted env.body env.signatures.length env.signatureBytes).length,
      spliced (counted env.body env.signatures.length env.signatureBytes) y k =
        counted env.body (env.signatures.length + 1) env.signatureBytes ∧ d.encode = d'.encode := by
  have hlen := length_encode env
  have hsize : (TrustlessWorkService.signedEnvelope env.encode (be32 (k + 1)) d.encode k).length =
      env.encode.length + d.encode.length := by
    rw [h, hlen]
    simp only [List.length_append, length_be32, length_counted, length_decorated]
  rw [length_counted] at hlen
  obtain ⟨hge, hle⟩ := txEnd_inside (show 8 ≤ env.encode.length by omega) (length_be32 _) hsize
  obtain ⟨y, hy⟩ := Nat.exists_eq_add_of_le hge
  rw [signedEnvelope_encode hy] at h
  obtain ⟨hfront, hnew⟩ := List.append_inj' h (by rw [length_decorated, length_decorated])
  refine ⟨y, ?_, List.append_cancel_left hfront, hnew⟩
  rw [length_counted]
  omega

/-- An envelope that has signatures and gets one more repeats the number 64. -/
theorem repeated_of_signs (hsigs : env.signatures ≠ []) (hlt : env.signatures.length + 1 < 2 ^ 32)
    {d d' : DecoratedSignature}
    (h : TrustlessWorkService.signedEnvelope env.encode (be32 (lastWord env.encode + 1)) d.encode
      (lastWord env.encode) = be32 env.envelopeType.toNat ++
        counted env.body (env.signatures.length + 1) env.signatureBytes ++ d'.encode) :
    env.signatures.length = 64 ∧ env.signatureBytes = repeated64 ∧ d.encode = d'.encode := by
  have hn : 0 < env.signatures.length := List.length_pos_of_ne_nil hsigs
  have hbytes := length_signatureBytes env
  obtain ⟨y, hy, hspliced, hnew⟩ := spliced_of_signs h
  have hbefore := cut_before hlt hy hspliced
  have hrepeat := signatures_repeat hn hbytes (first_length hsigs) hbefore hspliced
  have hlast : lastWord env.encode = 64 := by
    obtain ⟨m, hm⟩ : ∃ m, 18 * env.signatures.length = m + 1 := ⟨18 * env.signatures.length - 1, by omega⟩
    rw [(encode_cut env).2.2, counted, lastWord_append (by omega), hrepeat, hm]
    exact lastWord_repeated
  rw [hlast] at hspliced
  have h64 := count_eq hn hlt hrepeat hbefore hspliced
  refine ⟨h64, ?_, hnew⟩
  rw [hrepeat, h64]
  rfl

theorem counted_take_repeated (body : Bytes) :
    (counted body 64 repeated64).take (body.length + repeated64.length) = body ++ repeated64 := by
  rw [counted_repeated, ← List.length_append, List.take_left' rfl]

theorem sign_eq_of_decorated {data data' : Bytes}
    (h : (keypair.decorated data).encode = (keypair.decorated data').encode) : keypair.sign data = keypair.sign data' :=
  List.append_inj_right' h (by
    show (keypair.sign data).length = (keypair.sign data').length
    rw [keypair.sign_length, keypair.sign_length])

/-- A call that signs correctly has a signable envelope. -/
theorem signable_of_signs (hsigned : SignedBy sdk keypair networkPassphrase env signed)
    (h : TrustlessWorkService.signBytes sdk keypair env.encode networkPassphrase = .ok signed.encode) :
    Signable sdk keypair networkPassphrase env := by
  by_cases hsigs : env.signatures = []
  · exact .inl hsigs
  · have hlt : env.signatures.length + 1 < 2 ^ 32 := by
      have hcount := signed.count_lt
      rwa [hsigned.signatures, List.length_append, List.length_singleton] at hcount
    have hcount : lastWord env.encode + 1 < 2 ^ 32 := by
      by_contra hge
      have hlen := length_encode env
      exact signBytes_of_le (by omega) sdk keypair networkPassphrase (by omega) _ h
    rw [signBytes_encode env sdk keypair networkPassphrase hcount, encode_signed hsigned] at h
    obtain ⟨h64, hall, hnew⟩ := repeated_of_signs hsigs hlt (Except.ok.inj h)
    rw [h64, hall, counted_take_repeated] at hnew
    exact .inr ⟨hall, sign_eq_of_decorated hnew⟩

/-- The envelope with the key's signature added. -/
def Envelope.add (env : Envelope) (d : DecoratedSignature) (h : env.signatures.length + 1 < 2 ^ 32) : Envelope :=
  { env with
    signatures := env.signatures ++ [d]
    count_lt := by rw [List.length_append, List.length_singleton]; exact h }

/-- The count is read and put in where the body ends. -/
theorem signs_of_cut {n : ℕ} (hn : env.signatures.length = n) (hlt : n + 1 < 2 ^ 32)
    (hlast : lastWord env.encode = n) (hend : txEnd env.encode.length n = 4 + env.body.length)
    (htake : (counted env.body n env.signatureBytes).take (env.body.length + env.signatureBytes.length) =
      env.body ++ env.signatureBytes)
    (hsign : keypair.sign (sdk.transactionHash networkPassphrase env.envelopeType (env.body ++ env.signatureBytes)) =
      keypair.sign (sdk.transactionHash networkPassphrase env.envelopeType env.body)) :
    ∃ signed, SignedBy sdk keypair networkPassphrase env signed ∧
      TrustlessWorkService.signBytes sdk keypair env.encode networkPassphrase = .ok signed.encode := by
  have hsigned : SignedBy sdk keypair networkPassphrase env (env.add (keypair.decorated
      (sdk.transactionHash networkPassphrase env.envelopeType env.body)) (hn ▸ hlt)) := ⟨rfl, rfl, rfl⟩
  have hcounted : (counted env.body n env.signatureBytes).length - 4 = env.body.length + env.signatureBytes.length := by
    rw [length_counted]
    omega
  have hbody : (counted env.body n env.signatureBytes).take env.body.length = env.body := by
    rw [counted, List.append_assoc, List.take_left' rfl]
  have hspliced : spliced (counted env.body n env.signatureBytes) env.body.length n =
      counted env.body (n + 1) env.signatureBytes := by
    rw [spliced, hcounted, htake, List.drop_left' rfl, hbody, counted]
  refine ⟨_, hsigned, ?_⟩
  rw [signBytes_encode env sdk keypair networkPassphrase (by rw [hlast]; exact hlt), hlast, signedEnvelope_encode hend,
    encode_signed hsigned, hn, hspliced, htake]
  simp only [Keypair.decorated, hsign]

theorem signs_of_signable (h : Signable sdk keypair networkPassphrase env) :
    ∃ signed, SignedBy sdk keypair networkPassphrase env signed ∧
      TrustlessWorkService.signBytes sdk keypair env.encode networkPassphrase = .ok signed.encode := by
  have hlen := length_encode env
  have hbytes := length_signatureBytes env
  rw [length_counted] at hlen
  rcases h with hnone | ⟨hall, hsign⟩
  · have hn : env.signatures.length = 0 := by rw [hnone, List.length_nil]
    have hempty : env.signatureBytes = [] := List.eq_nil_of_length_eq_zero (by omega)
    refine signs_of_cut hn (by omega) ?_ ?_ ?_ ?_
    · rw [(encode_cut env).2.2, hn, hempty]
      exact lastWord_unsigned 0 (by omega)
    · rw [txEnd, if_neg (by omega), hlen, hbytes, hn]
      omega
    · rw [hempty, counted, List.append_nil, List.append_nil, List.length_nil, Nat.add_zero, List.take_left' rfl]
    · rw [hempty, List.append_nil]
  · have hn : env.signatures.length = 64 := by
      rw [hall, length_repeated64] at hbytes
      omega
    refine signs_of_cut hn (by omega) ?_ ?_ ?_ ?_
    · rw [(encode_cut env).2.2, hn, hall, counted, lastWord_append (by rw [length_repeated64]; omega)]
      exact lastWord_repeated
    · rw [txEnd, if_pos (by omega), hlen, hbytes, hn, index]
      split <;> omega
    · rw [hall, counted_take_repeated]
    · rw [hall]
      exact hsign

/-- The call submits the envelope with the key's signature added, exactly for the signable envelopes. -/
theorem signs_correctly_iff {unsignedXdr signerSecret : String} (hraw : Base64.decode unsignedXdr = env.encode)
    (hkey : sdk.fromSecret signerSecret = .ok keypair) :
    SignsCorrectly sdk keypair unsignedXdr signerSecret networkPassphrase env ↔
      Signable sdk keypair networkPassphrase env := by
  constructor
  · rintro ⟨signed, hsigned, hsubmits⟩
    exact signable_of_signs hsigned ((signTransaction_eq_ok hkey hraw _).mp (submits_iff.mp hsubmits))
  · intro h
    obtain ⟨signed, hsigned, hsign⟩ := signs_of_signable h
    exact ⟨signed, hsigned, submits_iff.mpr ((signTransaction_eq_ok hkey hraw _).mpr hsign)⟩

end Signed

namespace Treasury

/-! A transaction without operations, on the test network. -/

def publicKey : Bytes :=
  [121, 181, 86, 46, 143, 230, 84, 249, 64, 120, 177, 18, 232, 169, 139, 167, 144, 31, 133, 58, 230, 149, 190, 215, 224,
    227, 145, 11, 173, 4, 150, 100]

def networkId : Bytes :=
  [206, 224, 48, 45, 89, 132, 77, 50, 189, 202, 145, 92, 130, 3, 221, 68, 179, 63, 187, 126, 220, 25, 5, 30, 163, 122,
    190, 223, 40, 236, 212, 114]

def txHash : Bytes :=
  [122, 5, 181, 183, 138, 187, 17, 235, 4, 114, 238, 59, 255, 220, 189, 69, 78, 122, 47, 162, 101, 163, 143, 224, 20,
    107, 45, 16, 105, 201, 240, 209]

def signature : Bytes :=
  [30, 130, 218, 2, 21, 207, 28, 0, 99, 189, 201, 24, 198, 254, 159, 137, 136, 108, 156, 38, 44, 74, 106, 229, 96, 132,
    209, 243, 69, 229, 119, 144, 25, 66, 4, 146, 229, 238, 40, 235, 164, 140, 193, 116, 194, 96, 36, 243, 85, 116, 196,
    109, 188, 4, 33, 72, 93, 10, 95, 140, 224, 203, 232, 4]

def secret : String := "SAAQEAYEAUDAOCAJBIFQYDIOB4IBCEQTCQKRMFYYDENBWHA5DYPSBF5K"

def passphrase : String := "Test SDF Network ; September 2015"

def body : Bytes :=
  be32 0 ++ publicKey ++ be32 100 ++ be32 0 ++ be32 1 ++ be32 0 ++ be32 0 ++ be32 0 ++ be32 0

/-- The key of `secret`; its signature of the transaction is the one that Ed25519 makes. -/
def keypair : Keypair where
  signatureHint := [173, 4, 150, 100]
  sign data := if data = txHash then signature else alloc 64
  hint_length := rfl
  sign_length data := by split <;> rfl

/-- SHA-256 of the passphrase and of the transaction. -/
def sdk : StellarSdk where
  fromSecret s := if s = secret then .ok keypair else .error (.other "invalid checksum")
  hash data := if data = utf8 passphrase then networkId else if data = networkId ++ be32 2 ++ body then txHash else alloc 32

def unsigned : Envelope := ⟨2, body, [], by decide⟩

/-- The transaction with one signature. -/
def signed : Envelope := ⟨2, body, [keypair.decorated txHash], by decide⟩

theorem fromSecret_secret : sdk.fromSecret secret = .ok keypair := by
  simp [sdk]

theorem unsigned_correctly : SignsCorrectly sdk keypair (Base64.encode unsigned.encode) secret passphrase unsigned :=
  (signs_correctly_iff (Base64.decode_encode _) fromSecret_secret).mpr (Or.inl rfl)

theorem signed_incorrectly : ¬ SignsCorrectly sdk keypair (Base64.encode signed.encode) secret passphrase signed := by
  rintro ⟨env, henv, hsubmits⟩
  have hsign := (signTransaction_eq_ok fromSecret_secret (Base64.decode_encode _) _).mp (submits_iff.mp hsubmits)
  rcases signable_of_signs henv hsign with hnone | ⟨hall, -⟩
  · cases hnone
  · have hlen := length_signatureBytes signed
    rw [hall, length_repeated64] at hlen
    have hone : signed.signatures.length = 1 := rfl
    omega

end Treasury

end IKash
