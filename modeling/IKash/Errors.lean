import Mathlib.Tactic.Common

/-!
# Errors

What a request can throw: an `AppException` with a stable code, one of Nest's HTTP exceptions, an error of Prisma, or
any other `Error`.
-/

namespace IKash

inductive ErrorCode where
  | invalidWallet | unauthorizedAction | kycRequired | invalidChallenge | invalidSignature | tooManyRequests
  | userNotFound | userAlreadyExists | aliasTaken | invalidEmail | missingEmail
  | offerNotFound
  | orderNotFound | invalidOrderStatus | orderCancellationNotAllowed
  | escrowNotFound | escrowAlreadyExists | escrowNotInitialized | escrowNoContract | escrowCreationFailed
  | escrowInvalidStatus | escrowSyncFailed | escrowApproveFailed | unsupportedAsset
  | paymentMethodNotFound | paymentProviderNotFound | missingPaymentProvider | invalidAccountIdentifier
  | chatMessageNotFound
  | invalidStellarAddress | invalidAmount | stellarAccountNotFound | stellarTransactionFailed | missingSignerSecret
  | missingAssetIssuer
  | kycSessionFailed | kycWebhookInvalidSignature | kycWebhookMissingBody | kycWebhookSecretMissing | missingUserId
  | selfSend | invalidRecipient | amountTooSmall | missingFeeCollector
  | validationError | resourceNotFound | internalServerError | csrfTokenMissing | csrfTokenInvalid
deriving DecidableEq, Repr

/-- The token that the frontend branches on. -/
def ErrorCode.text : ErrorCode → String
  | .invalidWallet => "INVALID_WALLET"
  | .unauthorizedAction => "UNAUTHORIZED_ACTION"
  | .kycRequired => "KYC_REQUIRED"
  | .invalidChallenge => "INVALID_CHALLENGE"
  | .invalidSignature => "INVALID_SIGNATURE"
  | .tooManyRequests => "TOO_MANY_REQUESTS"
  | .userNotFound => "USER_NOT_FOUND"
  | .userAlreadyExists => "USER_ALREADY_EXISTS"
  | .aliasTaken => "ALIAS_TAKEN"
  | .invalidEmail => "INVALID_EMAIL"
  | .missingEmail => "MISSING_EMAIL"
  | .offerNotFound => "OFFER_NOT_FOUND"
  | .orderNotFound => "ORDER_NOT_FOUND"
  | .invalidOrderStatus => "INVALID_ORDER_STATUS"
  | .orderCancellationNotAllowed => "ORDER_CANCELLATION_NOT_ALLOWED"
  | .escrowNotFound => "ESCROW_NOT_FOUND"
  | .escrowAlreadyExists => "ESCROW_ALREADY_EXISTS"
  | .escrowNotInitialized => "ESCROW_NOT_INITIALIZED"
  | .escrowNoContract => "ESCROW_NO_CONTRACT"
  | .escrowCreationFailed => "ESCROW_CREATION_FAILED"
  | .escrowInvalidStatus => "ESCROW_INVALID_STATUS"
  | .escrowSyncFailed => "ESCROW_SYNC_FAILED"
  | .escrowApproveFailed => "ESCROW_APPROVE_FAILED"
  | .unsupportedAsset => "UNSUPPORTED_ASSET"
  | .paymentMethodNotFound => "PAYMENT_METHOD_NOT_FOUND"
  | .paymentProviderNotFound => "PAYMENT_PROVIDER_NOT_FOUND"
  | .missingPaymentProvider => "MISSING_PAYMENT_PROVIDER"
  | .invalidAccountIdentifier => "INVALID_ACCOUNT_IDENTIFIER"
  | .chatMessageNotFound => "CHAT_MESSAGE_NOT_FOUND"
  | .invalidStellarAddress => "INVALID_STELLAR_ADDRESS"
  | .invalidAmount => "INVALID_AMOUNT"
  | .stellarAccountNotFound => "STELLAR_ACCOUNT_NOT_FOUND"
  | .stellarTransactionFailed => "STELLAR_TRANSACTION_FAILED"
  | .missingSignerSecret => "MISSING_SIGNER_SECRET"
  | .missingAssetIssuer => "MISSING_ASSET_ISSUER"
  | .kycSessionFailed => "KYC_SESSION_FAILED"
  | .kycWebhookInvalidSignature => "KYC_WEBHOOK_INVALID_SIGNATURE"
  | .kycWebhookMissingBody => "KYC_WEBHOOK_MISSING_BODY"
  | .kycWebhookSecretMissing => "KYC_WEBHOOK_SECRET_MISSING"
  | .missingUserId => "MISSING_USER_ID"
  | .selfSend => "SELF_SEND"
  | .invalidRecipient => "INVALID_RECIPIENT"
  | .amountTooSmall => "AMOUNT_TOO_SMALL"
  | .missingFeeCollector => "MISSING_FEE_COLLECTOR"
  | .validationError => "VALIDATION_ERROR"
  | .resourceNotFound => "RESOURCE_NOT_FOUND"
  | .internalServerError => "INTERNAL_SERVER_ERROR"
  | .csrfTokenMissing => "CSRF_TOKEN_MISSING"
  | .csrfTokenInvalid => "CSRF_TOKEN_INVALID"

/-- `map[code]` of `errorCodeToHttpStatus`. -/
def ErrorCode.httpStatus? : ErrorCode → Option ℕ
  | .invalidWallet | .invalidEmail | .missingEmail | .missingUserId | .userAlreadyExists => some 400
  | .escrowAlreadyExists | .escrowNotInitialized | .escrowNoContract | .escrowCreationFailed => some 400
  | .escrowInvalidStatus | .unsupportedAsset | .invalidStellarAddress | .invalidAmount | .missingSignerSecret => some 400
  | .missingAssetIssuer | .validationError | .missingPaymentProvider | .invalidAccountIdentifier | .selfSend => some 400
  | .amountTooSmall | .missingFeeCollector => some 400
  | .aliasTaken | .orderCancellationNotAllowed => some 409
  | .kycWebhookInvalidSignature | .invalidChallenge | .invalidSignature => some 401
  | .tooManyRequests => some 429
  | .unauthorizedAction | .kycRequired | .csrfTokenMissing | .csrfTokenInvalid => some 403
  | .userNotFound | .offerNotFound | .orderNotFound | .escrowNotFound | .paymentMethodNotFound => some 404
  | .paymentProviderNotFound | .chatMessageNotFound | .stellarAccountNotFound | .resourceNotFound => some 404
  | .invalidRecipient => some 404
  | .kycSessionFailed | .kycWebhookMissingBody | .kycWebhookSecretMissing | .escrowSyncFailed => some 500
  | .escrowApproveFailed | .stellarTransactionFailed | .internalServerError => some 500
  | .invalidOrderStatus => none

/-- 400 for a code that is not in the map. -/
def errorCodeToHttpStatus (code : ErrorCode) : ℕ := code.httpStatus?.getD 400

/-- Every code has the status of an error. -/
theorem errorCodeToHttpStatus_bounds (code : ErrorCode) : 400 ≤ errorCodeToHttpStatus code ∧ errorCodeToHttpStatus code ≤ 500 := by
  cases code <;> decide

/-- The codes are written in upper case. -/
theorem ErrorCode.text_upper (code : ErrorCode) : ∀ c ∈ code.text.toList, c.isUpper ∨ c = '_' := by
  have hall : code.text.toList.all (fun c => c.isUpper || c = '_') = true := by
    cases code <;> decide
  intro c hc
  have hc := List.all_eq_true.mp hall c hc
  rwa [Bool.or_eq_true, decide_eq_true_eq] at hc

inductive PrismaError where
  | recordNotFound
  | uniqueConstraint
  | foreignKeyConstraint
  | validation
  | inconsistentColumnData
  | unavailable
deriving DecidableEq, Repr

inductive Thrown where
  | app (code : ErrorCode) (message : String)
  | http (status : ℕ) (message : String)
  | prisma (error : PrismaError)
  | other (message : String)
deriving DecidableEq, Repr

end IKash
