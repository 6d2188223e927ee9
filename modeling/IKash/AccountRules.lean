import IKash.Lib.CheckDigits
import IKash.PaymentMethodValidator

/-!
# The rules for account identifiers

The formats that the constructor of `PaymentMethodValidatorService` registers: telephone numbers, IBANs, CPFs, Pix keys,
e-mail addresses and bank accounts. Most of them look at the digits of a text only (`stripNonDigits`).
-/

namespace IKash

open Lib

/-! ## Shared primitives -/

/-- A pattern `[^\s@]+` -/
def isEmailPart (cs : List Char) : Bool := cs ≠ [] && cs.all fun c => !Json.isWhitespace c && c ≠ '@'

/-- `EMAIL_PATTERN`: the second part has a point between its first and its last character. -/
def emailPattern (cs : List Char) : Bool :=
  match cs.splitOn '@' with
  | [name, domain] => isEmailPart name && isEmailPart domain && domain.tail.dropLast.contains '.'
  | _ => false

def uuidPattern (cs : List Char) : Bool :=
  match cs.splitOn '-' with
  | [a, b, c, d, e] =>
    [a, b, c, d, e].map List.length = [8, 4, 4, 4, 12] && [a, b, c, d, e].all fun part => part.all Json.isHexDigit
  | _ => false

def isValidEmail (value : String) : Bool := emailPattern (Json.trim value).toList

def stripNonDigits (value : String) : List Char := value.toList.filter Char.isDigit

/-- A pattern `\d{n}` -/
def isDigits (n : ℕ) (cs : List Char) : Bool := cs.length = n && cs.all Char.isDigit

/-! ## Telephone numbers -/

def costaRicanNumber (digits : List Char) : List Char :=
  if ['0', '0', '5', '0', '6'].isPrefixOf digits then digits.drop 5
  else if ['5', '0', '6'].isPrefixOf digits then digits.drop 3
  else digits

def isValidCostaRicanPhone (value : String) : Bool :=
  match costaRicanNumber (stripNonDigits value) with
  | c :: rest => ['6', '7', '8'].contains c && isDigits 7 rest
  | [] => false

def venezuelanNumber (digits : List Char) : List Char :=
  if ['5', '8'].isPrefixOf digits then '0' :: digits.drop 2 else digits

def venezuelanMobile : List (List Char) := [['1', '2'], ['1', '4'], ['1', '6'], ['2', '4'], ['2', '6']]

def isValidVenezuelanPhone (value : String) : Bool :=
  match venezuelanNumber (stripNonDigits value) with
  | '0' :: '4' :: a :: b :: rest => venezuelanMobile.contains [a, b] && isDigits 7 rest
  | _ => false

/-- `digits.replace(/^55(?=[1-9])/, '')` -/
def brazilianNumber : List Char → List Char
  | '5' :: '5' :: c :: rest => if c = '0' then '5' :: '5' :: c :: rest else c :: rest
  | digits => digits

def isValidBrazilianPhone (value : String) : Bool :=
  match brazilianNumber (stripNonDigits value) with
  | a :: b :: '9' :: rest => a.isDigit && a ≠ '0' && b.isDigit && isDigits 8 rest
  | _ => false

/-! ## IBANs -/

def ibanLengths : List (String × ℕ) := [
  ("AD", 24), ("AE", 23), ("AL", 28), ("AT", 20), ("AZ", 28), ("BA", 20), ("BE", 16), ("BG", 22), ("BH", 22),
  ("BR", 29), ("BY", 28), ("CH", 21), ("CR", 22), ("CY", 28), ("CZ", 24), ("DE", 22), ("DK", 18), ("DO", 28),
  ("EE", 20), ("ES", 24), ("FI", 18), ("FO", 18), ("FR", 27), ("GB", 22), ("GE", 22), ("GI", 23), ("GL", 18),
  ("GR", 27), ("GT", 28), ("HR", 21), ("HU", 28), ("IE", 22), ("IL", 23), ("IQ", 23), ("IS", 26), ("IT", 27),
  ("JO", 30), ("KW", 30), ("KZ", 20), ("LB", 28), ("LI", 21), ("LT", 20), ("LU", 20), ("LV", 21), ("MC", 27),
  ("MD", 24), ("ME", 22), ("MK", 19), ("MR", 27), ("MT", 31), ("MU", 30), ("NL", 18), ("NO", 15), ("PK", 24),
  ("PL", 28), ("PS", 29), ("PT", 25), ("QA", 29), ("RO", 24), ("RS", 22), ("SA", 24), ("SC", 31), ("SE", 24),
  ("SI", 19), ("SK", 24), ("SM", 27), ("ST", 25), ("SV", 28), ("TL", 23), ("TN", 24), ("TR", 26), ("UA", 29),
  ("VA", 22), ("VG", 24), ("XK", 20)]

/-- `Number(remainder + value.slice(i, i + 7)) % 97` for `i = 7 * k`, from `k = 0` on. -/
def mod97 (value : List Char) : ℕ := (List.range ((value.length + 6) / 7)).foldl (remainderStep 97 7 value) 0

/-- Without blanks, and in upper case. -/
def ibanText (value : String) : List Char :=
  (Json.toUpperCase (String.ofList (value.toList.filter fun c => !Json.isWhitespace c))).toList

def isUpperOrDigit (c : Char) : Bool := c.isUpper || c.isDigit

/-- `/^[A-Z]{2}\d{2}[A-Z0-9]{1,30}$/` -/
def ibanPattern : List Char → Bool
  | a :: b :: c :: d :: rest => a.isUpper && b.isUpper && c.isDigit && d.isDigit &&
      1 ≤ rest.length && rest.length ≤ 30 && rest.all isUpperOrDigit
  | _ => false

/-- A digit is itself, and a letter is a number of two digits. -/
def ibanCode (c : Char) : List Char :=
  if 48 ≤ c.toNat ∧ c.toNat ≤ 57 then [c] else Nat.toDigits 10 (c.toNat - 55)

/-- The length that the country asks for, if it is known. -/
def hasIbanLength (iban : List Char) : Bool :=
  match ibanLengths.lookup (String.ofList (iban.take 2)) with
  | some expectedLength => iban.length = expectedLength
  | none => true

def isValidIban (value : String) : Bool :=
  let iban := ibanText value
  ibanPattern iban && hasIbanLength iban && 15 ≤ iban.length && iban.length ≤ 34 &&
    mod97 ((iban.drop 4 ++ iban.take 4).flatMap ibanCode) = 1

/-! ## CPFs and Pix keys -/

def digitValue (c : Char) : ℕ := c.toNat - '0'.toNat

/-- The check digit of the first `n` digits, which weigh `n + 1`, `n` and so on. -/
def cpfCheck (digits : List Char) (n : ℕ) : ℕ :=
  let sum := ((List.range n).map fun i => digitValue (digits.getD i '0') * (n + 1 - i)).sum
  if sum * 10 % 11 = 10 then 0 else sum * 10 % 11

def isValidCpf (value : String) : Bool :=
  let digits := stripNonDigits value
  digits.length = 11 && !digits.all (· = digits.getD 0 '0') &&
    cpfCheck digits 9 = digitValue (digits.getD 9 '0') && cpfCheck digits 10 = digitValue (digits.getD 10 '0')

def isValidPixKey (value : String) : Bool :=
  isValidCpf value || isValidEmail value || isValidBrazilianPhone value || uuidPattern (Json.trim value).toList

/-! ## Bank accounts -/

def isAlphanumeric (c : Char) : Bool := c.isAlpha || c.isDigit

def isAccountSeparator (c : Char) : Bool := Json.isWhitespace c || ['-', '/', '.', '_'].contains c

def isValidBankAccount (value : String) : Bool :=
  let trimmed := (Json.trim value).toList
  4 ≤ trimmed.length && trimmed.length ≤ 34 && (trimmed.head?.any isAlphanumeric) &&
    (trimmed.getLast?.any isAlphanumeric) && trimmed.all (fun c => isAlphanumeric c || isAccountSeparator c) &&
    trimmed.any Char.isDigit

/-- A pattern `[- ]?` -/
def dropSeparator : List Char → List Char
  | '-' :: rest => rest
  | ' ' :: rest => rest
  | cs => cs

/-- `/^\d{3}[- ]?\d{6}[- ]?\d{3}$/` -/
def costaRicanAccountPattern (cs : List Char) : Bool :=
  isDigits 3 (cs.take 3) &&
    let middle := dropSeparator (cs.drop 3)
    isDigits 6 (middle.take 6) && isDigits 3 (dropSeparator (middle.drop 6))

def isValidCostaRicanBankAccount (value : String) : Bool :=
  let trimmed := (Json.trim value).toList
  costaRicanAccountPattern trimmed ||
    (trimmed.all Char.isDigit && 10 ≤ trimmed.length && trimmed.length ≤ 17)

def isValidBacCredomaticAccount (value : String) : Bool := isDigits 10 (stripNonDigits value)

namespace PaymentMethodValidatorService

/-- What the constructor registers, in its order. -/
def constructorRules : List (ProviderValidationKey × AccountIdentifierValidator) := [
  (⟨"MOBILE", "CR", none⟩, isValidCostaRicanPhone),
  (⟨"MOBILE", "VE", none⟩, isValidVenezuelanPhone),
  (⟨"PLATFORM", "", none⟩, isValidEmail),
  (⟨"PLATFORM", "BR", none⟩, isValidPixKey),
  (⟨"BANK", "", none⟩, isValidBankAccount),
  (⟨"BANK", "PA", none⟩, fun value => isValidIban value || isValidBankAccount value),
  (⟨"BANK", "CR", none⟩, isValidCostaRicanBankAccount),
  (⟨"BANK", "CR", some "BAC_CR"⟩, isValidBacCredomaticAccount)]

end PaymentMethodValidatorService

end IKash
