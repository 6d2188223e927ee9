import IKash.Json
import IKash.Errors

/-!
# `PaymentMethodValidatorService`

The registry of the rules for account identifiers. A rule is chosen by the provider's type, country and code, the most
specific one that is registered: type, country and code; type and country; type alone; else the default rule.
-/

namespace IKash

structure ProviderValidationKey where
  type : String
  countryCode : String
  code : Option String := none

structure PaymentProviderInfo where
  type : Option String := none
  countryCode : Option String := none
  code : Option String := none

abbrev AccountIdentifierValidator := String → Bool

def invalidAccountIdentifierMessage : String := "Invalid account identifier for the selected payment provider."

def globalCountry : String := "GLOBAL"

def defaultValidator : AccountIdentifierValidator := fun accountIdentifier => Json.trim accountIdentifier ≠ ""

def normalizeType (type : String) : String := Json.toUpperCase (Json.trim type)

/-- A blank country is the global one. -/
def normalizeCountryCode (countryCode : Option String) : String :=
  let normalized := Json.toUpperCase (Json.trim (countryCode.getD ""))
  if normalized = "" then globalCountry else normalized

def normalizeCode (code : Option String) : Option String :=
  let normalized := Json.toUpperCase (Json.trim (code.getD ""))
  if normalized = "" then none else some normalized

def toMapKey (type countryCode : String) (code : Option String) : String :=
  normalizeType type ++ ":" ++ normalizeCountryCode (some countryCode) ++ code.elim "" (":" ++ ·)

/-- The rules by their keys, the latest first. -/
structure PaymentMethodValidatorService where
  validators : List (String × AccountIdentifierValidator) := []

namespace PaymentMethodValidatorService

def registerValidator (s : PaymentMethodValidatorService) (key : ProviderValidationKey)
    (validator : AccountIdentifierValidator) : PaymentMethodValidatorService :=
  ⟨(toMapKey key.type key.countryCode (normalizeCode key.code), validator) :: s.validators⟩

def resolveValidator (s : PaymentMethodValidatorService) (provider : PaymentProviderInfo) :
    Option AccountIdentifierValidator :=
  let type := (provider.type.map Json.trim).getD ""
  let countryCode := normalizeCountryCode provider.countryCode
  let code := normalizeCode provider.code
  if type = "" then none
  else
    (code.bind fun code => s.validators.lookup (toMapKey type countryCode (some code))).or
      ((s.validators.lookup (toMapKey type countryCode none)).or
        (s.validators.lookup (toMapKey type globalCountry none)))

def isValid (s : PaymentMethodValidatorService) (provider : PaymentProviderInfo) (accountIdentifier : String) : Bool :=
  (s.resolveValidator provider).getD defaultValidator accountIdentifier

def validate (s : PaymentMethodValidatorService) (provider : PaymentProviderInfo) (accountIdentifier : String) :
    Except Thrown Unit :=
  if s.isValid provider accountIdentifier then .ok ()
  else .error (.app .invalidAccountIdentifier invalidAccountIdentifierMessage)

theorem validate_eq_ok {s : PaymentMethodValidatorService} {provider : PaymentProviderInfo} {accountIdentifier : String} :
    s.validate provider accountIdentifier = .ok () ↔ s.isValid provider accountIdentifier = true := by
  unfold validate
  split <;> simp [*]

end PaymentMethodValidatorService

end IKash
