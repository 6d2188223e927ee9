import IKash.WebhookBinding

/-!
# When a captured webhook goes stale

A webhook that was accepted once comes again with its body, its signature headers and any timestamp. The timestamp is not
among the signed bytes, and it is optional.

- `accepted_resent`: it is accepted again exactly when the new timestamp does not speak against it;
- `webhook_goes_stale`: with the timestamp it had, if that is a number, it is refused after ten minutes.
-/

namespace IKash

open Lib KycService

/-- The webhook passes the verification at the time. -/
def AcceptedAt (crypto : Crypto) (secret : Option String) (now : ℤ) (headers : WebhookHeaders) (rawBody : Option Bytes)
    (payload : Json) : Prop :=
  verifyWebhookSignature crypto secret now headers rawBody payload = .ok ()

/-- The signature headers with another timestamp. -/
def resent (headers : WebhookHeaders) (timestamp : Option String) : WebhookHeaders :=
  { headers with timestamp := timestamp }

def tenMinutes : ℤ := 10 * 60 * 1000

/-- Ten minutes after it was accepted, the webhook is refused with every timestamp. -/
def GoesStale (crypto : Crypto) (secret : Option String) (headers : WebhookHeaders) (rawBody : Option Bytes)
    (payload : Json) : Prop :=
  ∀ now now', AcceptedAt crypto secret now headers rawBody payload → now + tenMinutes < now' →
    ∀ timestamp, ¬ AcceptedAt crypto secret now' (resent headers timestamp) rawBody payload

section Replay

variable {crypto : Crypto} {secret : Option String} {headers : WebhookHeaders} {rawBody : Option Bytes} {payload : Json}
  {now now' : ℤ}

theorem acceptedAt_iff : AcceptedAt crypto secret now headers rawBody payload ↔ ∃ body s, rawBody = some body ∧
    truthyText secret = some s ∧ ¬ Stale now headers.timestamp ∧ checkSignature crypto s headers body payload = .ok () := by
  unfold AcceptedAt
  cases rawBody with
  | some body =>
    rw [verify_eq_ok]
    simp
  | none =>
    constructor
    · intro h
      unfold verifyWebhookSignature at h
      obtain ⟨_, -, hbody⟩ := Except.of_bind_ok h
      cases hbody
    · rintro ⟨body, s, hbody, -⟩
      cases hbody

/-- **The same webhook at another time**: only the timestamp decides. -/
theorem accepted_resent (h : AcceptedAt crypto secret now headers rawBody payload) (timestamp : Option String) :
    AcceptedAt crypto secret now' (resent headers timestamp) rawBody payload ↔ ¬ Stale now' timestamp := by
  obtain ⟨body, s, hbody, hs, -, hcheck⟩ := acceptedAt_iff.mp h
  constructor
  · intro h'
    obtain ⟨-, -, -, -, hstale, -⟩ := acceptedAt_iff.mp h'
    exact hstale
  · intro hstale
    -- the signature does not look at the timestamp
    exact acceptedAt_iff.mpr ⟨body, s, hbody, hs, hstale, hcheck⟩

/-- A timestamp that was recent is not recent ten minutes later. -/
theorem stale_later {timestamp : Option String} (hfresh : ¬ Stale now timestamp) (hlate : now + tenMinutes < now')
    (hnumber : (truthyText timestamp).bind Json.parseInt ≠ none) : Stale now' timestamp := by
  obtain ⟨n, hn⟩ := Option.ne_none_iff_exists'.mp hnumber
  have hrecent : ¬ maxAgeMs < (now - timestampMs n).natAbs := fun hold => hfresh ⟨n, hn, hold⟩
  refine ⟨n, hn, ?_⟩
  unfold maxAgeMs tenMinutes at *
  omega

end Replay

/-- **A captured webhook goes stale** as far as its timestamp goes: ten minutes later it is accepted exactly with a
timestamp that does not speak against it, and the one that it had does, if it is a number. -/
theorem webhook_goes_stale (crypto : Crypto) (secret : Option String) (headers : WebhookHeaders) (rawBody : Option Bytes)
    (payload : Json) (now now' : ℤ) (h : AcceptedAt crypto secret now headers rawBody payload)
    (hlate : now + tenMinutes < now') :
    (∀ timestamp, AcceptedAt crypto secret now' (resent headers timestamp) rawBody payload ↔ ¬ Stale now' timestamp) ∧
      ((truthyText headers.timestamp).bind Json.parseInt ≠ none →
        ¬ AcceptedAt crypto secret now' headers rawBody payload) := by
  refine ⟨accepted_resent h, fun hnumber h' => ?_⟩
  obtain ⟨-, -, -, -, hfresh, -⟩ := acceptedAt_iff.mp h
  exact (accepted_resent h headers.timestamp).mp h' (stale_later hfresh hlate hnumber)

namespace Wallets

/-- The buyer's webhook with the second in which it was sent. -/
def stamped : WebhookHeaders := resent signed.headers (some "1")

theorem stamped_accepted :
    AcceptedAt webhookCrypto (some webhookSecret) 2000 stamped (some signed.rawBody) signed.payload :=
  (accepted_resent signed_accepted.verified (some "1")).mpr (by decide)

theorem stamped_goes_stale : stamped.timestamp = some "1" ∧
    ¬ AcceptedAt webhookCrypto (some webhookSecret) 700000 stamped (some signed.rawBody) signed.payload :=
  ⟨rfl, (webhook_goes_stale _ _ _ _ _ 2000 700000 stamped_accepted (by decide)).2 (by decide)⟩

/-- An hour later the webhook is accepted again: the timestamp is left out. -/
theorem unstamped_stays_fresh :
    ¬ GoesStale webhookCrypto (some webhookSecret) signed.headers (some signed.rawBody) signed.payload := by
  intro h
  have hagain : AcceptedAt webhookCrypto (some webhookSecret) 3600000 (resent signed.headers none) (some signed.rawBody)
      signed.payload := (accepted_resent signed_accepted.verified none).mpr (by decide)
  exact h 0 3600000 signed_accepted.verified (by decide) none hagain

end Wallets

end IKash
