import IKash.Lib.UpperCase
import Mathlib.Data.List.Infix
import Mathlib.Tactic.Common

/-!
# JavaScript values

What `JSON.parse` returns, with the operations the services use on it. A field that an object does not have is
`undefined`, here `none`. Numbers are integers: no modelled field carries a fraction.

- `truthy`, `or`, `coalesce`: truthiness, `||` and `??`;
- `number`, `parseInt`, `stringify`, `text`: `Number(x)`, `parseInt(x)`, `JSON.stringify(x)` and `String(x)`;
- `includes`, `startsWith`, `toUpperCase`: the string methods.
-/

namespace IKash

inductive Json where
  | null
  | bool (b : Bool)
  | num (n : ℤ)
  | str (s : String)
  | arr (xs : List Json)
  | obj (fields : List (String × Json))

namespace Json

/-! ## Reading -/

/-- The field of an object; anything else has no fields. -/
def field (j : Json) (name : String) : Option Json :=
  match j with
  | .obj fields => fields.lookup name
  | _ => none

def asString : Option Json → Option String
  | some (.str s) => some s
  | _ => none

def truthy : Option Json → Bool
  | none | some .null | some (.bool false) => false
  | some (.num n) => n ≠ 0
  | some (.str s) => s ≠ ""
  | _ => true

/-- `a || b` -/
def or (a b : Option Json) : Option Json := if truthy a then a else b

/-- `a ?? b` -/
def coalesce (a b : Option Json) : Option Json :=
  match a with
  | none | some .null => b
  | _ => a

/-! ## Strings -/

/-- The blanks but for a row of typographical ones. -/
def whitespace : List Char :=
  [' ', '\t', '\n', '\r', '\x0b', '\x0c', '\u00a0', '\u1680', '\u2028', '\u2029', '\u202f', '\u205f', '\u3000', '\ufeff']

def isWhitespace (c : Char) : Bool := c ∈ whitespace ∨ ('\u2000' ≤ c ∧ c ≤ '\u200a')

def trim (s : String) : String :=
  String.ofList ((s.toList.dropWhile isWhitespace).reverse.dropWhile isWhitespace).reverse

/-- The upper case of a character, several characters for some. -/
def upperChar (c : Char) : List Char :=
  if c.toNat < 128 then [c.toUpper] else (Lib.UpperCase.upper c.toNat).map Char.ofNat

def toUpperCase (s : String) : String := String.ofList (s.toList.flatMap upperChar)

/-- Lower case of the ASCII letters, and of the two letters whose lower case is written with ASCII letters. -/
def lowerChar : Char → List Char
  | '\u212a' => ['k']
  | 'İ' => ['i', '\u0307']
  | c => [c.toLower]

def toLowerCase (s : String) : String := String.ofList (s.toList.flatMap lowerChar)

def startsWith (s p : String) : Bool := p.toList.isPrefixOf s.toList

def includes (s p : String) : Bool := s.toList.tails.any (fun t => p.toList.isPrefixOf t)

/-- `s.length`: UTF-16 code units. -/
def length (s : String) : ℕ := s.toList.length + s.toList.countP fun c => 65536 ≤ c.toNat

/-- The first `n` code units. Half of a pair is no character, and is replaced. -/
def units : ℕ → List Char → List Char
  | 0, _ => []
  | _ + 1, [] => []
  | n + 1, c :: cs =>
    if c.toNat < 65536 then c :: units n cs
    else if n = 0 then ['\ufffd']
    else c :: units (n - 1) cs

/-- `s.substring(0, n)` -/
def substring (s : String) (n : ℕ) : String := String.ofList (units n s.toList)

def join (sep : String) : List String → String
  | [] => ""
  | [s] => s
  | s :: t :: rest => s ++ sep ++ join sep (t :: rest)

/-! ## Conversions -/

def isHexDigit (c : Char) : Bool := c.isDigit || ('a' ≤ c && c ≤ 'f') || ('A' ≤ c && c ≤ 'F')

/-- The value of a character as a digit. -/
def digitValue (c : Char) : Option ℕ :=
  if c.isDigit then some (c.toNat - '0'.toNat)
  else if 'a' ≤ c ∧ c ≤ 'f' then some (c.toNat - 'a'.toNat + 10)
  else if 'A' ≤ c ∧ c ≤ 'F' then some (c.toNat - 'A'.toNat + 10)
  else none

/-- Digits in a radix, at least one. -/
def radixDigits (radix : ℕ) : List Char → Option ℕ
  | [] => none
  | cs => cs.foldl (fun n c => n.bind fun n =>
      ((digitValue c).filter fun d => d < radix).map fun d => radix * n + d) (some 0)

def digits (cs : List Char) : Option ℕ := radixDigits 10 cs

/-- With a sign or without. -/
def signed (read : List Char → Option ℕ) : List Char → Option ℤ
  | '-' :: cs => (read cs).map fun n => -(n : ℤ)
  | '+' :: cs => (read cs).map fun n => (n : ℤ)
  | cs => (read cs).map fun n => (n : ℤ)

/-- `m` times the power of ten, if that is an integer. -/
def scaled (m : ℕ) (exponent : ℤ) : Option ℕ :=
  if 0 ≤ exponent then some (m * Nat.pow 10 exponent.toNat)
  else if m % Nat.pow 10 (-exponent).toNat = 0 then some (m / Nat.pow 10 (-exponent).toNat) else none

/-- Digits with a fraction and an exponent, or without. -/
def decimal (cs : List Char) : Option ℕ := do
  let int := cs.takeWhile Char.isDigit
  let rest := cs.dropWhile Char.isDigit
  let (frac, rest) := if rest.head? = some '.' then rest.tail.span Char.isDigit else ([], rest)
  let m ← digits (int ++ frac)
  let exponent ← match rest with
    | [] => some 0
    | e :: rest => if e = 'e' ∨ e = 'E' then signed digits rest else none
  scaled m (exponent - frac.length)

/-- `Number(s)` of a string: blanks around a decimal, or around digits after `0x`, `0o` or `0b`. What is no integer is not
one of the numbers here; `none` is `NaN`. -/
def numberOfString (s : String) : Option ℤ :=
  match (trim s).toList with
  | [] => some 0
  | '0' :: 'x' :: cs | '0' :: 'X' :: cs => (radixDigits 16 cs).map fun n => (n : ℤ)
  | '0' :: 'o' :: cs | '0' :: 'O' :: cs => (radixDigits 8 cs).map fun n => (n : ℤ)
  | '0' :: 'b' :: cs | '0' :: 'B' :: cs => (radixDigits 2 cs).map fun n => (n : ℤ)
  | cs => signed decimal cs

example : ["0x10", " 1e3 ", "5.", "-2.50e1", ".5", "1e"].map numberOfString =
    [some 16, some 1000, some 5, some (-25), none, none] := by decide

/-- `Number(x)`; `none` is `NaN`. -/
def number : Json → Option ℤ
  | .null => some 0
  | .bool b => some (if b then 1 else 0)
  | .num n => some n
  | .str s => numberOfString s
  | .arr [] => some 0
  | .arr [.bool _] => none
  | .arr [x] => number x
  | _ => none

def hexDigit (n : ℕ) : Char := Char.ofNat (if n < 10 then n + '0'.toNat else n - 10 + 'a'.toNat)

def escapeChar (c : Char) : List Char :=
  if c = '"' then ['\\', '"']
  else if c = '\\' then ['\\', '\\']
  else if c = '\n' then ['\\', 'n']
  else if c = '\r' then ['\\', 'r']
  else if c = '\t' then ['\\', 't']
  else if c = '\x08' then ['\\', 'b']
  else if c = '\x0c' then ['\\', 'f']
  else if c.toNat < 32 then ['\\', 'u', '0', '0', hexDigit (c.toNat / 16), hexDigit (c.toNat % 16)]
  else [c]

def quote (s : String) : String := "\"" ++ String.ofList (s.toList.flatMap escapeChar) ++ "\""

mutual

/-- `JSON.stringify(x)` -/
def stringify : Json → String
  | .null => "null"
  | .bool b => if b then "true" else "false"
  | .num n => toString n
  | .str s => quote s
  | .arr xs => "[" ++ join "," (stringifyAll xs) ++ "]"
  | .obj fields => "\x7b" ++ join "," (stringifyFields fields) ++ "\x7d"

def stringifyAll : List Json → List String
  | [] => []
  | x :: xs => stringify x :: stringifyAll xs

def stringifyFields : List (String × Json) → List String
  | [] => []
  | (k, x) :: rest => (quote k ++ ":" ++ stringify x) :: stringifyFields rest

end

mutual

/-- `String(x)` -/
def text : Json → String
  | .null => "null"
  | .bool b => if b then "true" else "false"
  | .num n => toString n
  | .str s => s
  | .arr xs => join "," (texts xs)
  | .obj _ => "[object Object]"

def texts : List Json → List String
  | [] => []
  | .null :: xs => "" :: texts xs
  | x :: xs => text x :: texts xs

end

/-- `parseInt(s, 10)`; `none` is `NaN`. -/
def parseInt (s : String) : Option ℤ :=
  signed (fun cs => digits (cs.takeWhile Char.isDigit)) (s.toList.dropWhile isWhitespace)

end Json

end IKash
