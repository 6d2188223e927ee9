import Mathlib.Data.List.Basic
import Mathlib.Tactic.IntervalCases
import Mathlib.Tactic.Common

/-!
# Percent encoding

`encodeURIComponent` and `decodeURIComponent` of JavaScript, on lists of characters: what is not in the set of unreserved
characters is written as the bytes of its UTF-8 encoding, each as `%` and two hexadecimal digits.

- `octet_encodeByte`, `sequence_utf8`: one byte and one character are read back;
- `decode_encode`: a text is read back;
- `mem_encode`: which characters an encoded text has.
-/

namespace Lib.Percent

/-! ## Encoding -/

/-- `A-Z a-z 0-9 - _ . ! ~ * ' ( )` -/
def unreserved (c : Char) : Bool :=
  c.isAlphanum || c ∈ ['-', '_', '.', '!', '~', '*', Char.ofNat 39, '(', ')']

def hexDigit (n : ℕ) : Char := Char.ofNat (if n < 10 then n + 48 else n + 55)

def encodeByte (b : UInt8) : List Char := ['%', hexDigit (b.toNat / 16), hexDigit (b.toNat % 16)]

def encodeChar (c : Char) : List Char := if unreserved c then [c] else (String.utf8EncodeChar c).flatMap encodeByte

def encode (cs : List Char) : List Char := cs.flatMap encodeChar

/-! ## Decoding -/

def digitValue (c : Char) : Option ℕ :=
  if '0' ≤ c ∧ c ≤ '9' then some (c.toNat - 48)
  else if 'A' ≤ c ∧ c ≤ 'F' then some (c.toNat - 55)
  else if 'a' ≤ c ∧ c ≤ 'f' then some (c.toNat - 87)
  else none

/-- `%` and two digits, and what follows. -/
def octet : List Char → Option (UInt8 × List Char)
  | '%' :: a :: b :: rest =>
    (digitValue a).bind fun x => (digitValue b).map fun y => (UInt8.ofNat (x * 16 + y), rest)
  | _ => none

def octets : ℕ → List Char → Option (List UInt8 × List Char)
  | 0, cs => some ([], cs)
  | n + 1, cs => (octet cs).bind fun (b, rest) => (octets n rest).map fun (bs, rest) => (b :: bs, rest)

/-- How many bytes follow the first one, by its leading bits. -/
def following (b : UInt8) : Option ℕ :=
  if b.toNat < 128 then some 0
  else if b.toNat < 192 then none
  else if b.toNat < 224 then some 1
  else if b.toNat < 240 then some 2
  else if b.toNat < 248 then some 3
  else none

/-- One character written as bytes, which have to be its UTF-8 encoding. -/
def sequence (cs : List Char) : Option (Char × List Char) :=
  (octet cs).bind fun (b, rest) =>
    (following b).bind fun n =>
      (octets n rest).bind fun (bs, rest) => ((b :: bs).toByteArray.utf8DecodeChar? 0).map fun c => (c, rest)

/-- `fuel` is at least the length of the text. -/
def decodeWith : ℕ → List Char → Option (List Char)
  | _, [] => some []
  | 0, _ :: _ => none
  | fuel + 1, c :: cs =>
    if c = '%' then (sequence (c :: cs)).bind fun (d, rest) => (decodeWith fuel rest).map (d :: ·)
    else (decodeWith fuel cs).map (c :: ·)

/-- `none` is a `URIError`. -/
def decode (cs : List Char) : Option (List Char) := decodeWith cs.length cs

/-! ## What is encoded is read back -/

variable {c : Char} {rest : List Char}

theorem digitValue_hexDigit {n : ℕ} (h : n < 16) : digitValue (hexDigit n) = some n := by
  interval_cases n <;> decide

theorem octet_encodeByte (b : UInt8) (rest : List Char) : octet (encodeByte b ++ rest) = some (b, rest) := by
  have hb : b.toNat < 256 := b.toNat_lt
  have hhigh : digitValue (hexDigit (b.toNat / 16)) = some (b.toNat / 16) := digitValue_hexDigit (by omega)
  have hlow : digitValue (hexDigit (b.toNat % 16)) = some (b.toNat % 16) := digitValue_hexDigit (by omega)
  have hvalue : b.toNat / 16 * 16 + b.toNat % 16 = b.toNat := by omega
  simp only [encodeByte, List.cons_append, List.nil_append, octet, hhigh, hlow, Option.bind_some, Option.map_some, hvalue,
    UInt8.ofNat_toNat]

theorem octets_encode (bs : List UInt8) (rest : List Char) :
    octets bs.length (bs.flatMap encodeByte ++ rest) = some (bs, rest) := by
  induction bs with
  | nil => rfl
  | cons b bs ih =>
    rw [List.flatMap_cons, List.append_assoc, List.length_cons, octets, octet_encodeByte]
    simp only [Option.bind_some, ih, Option.map_some]

theorem toNat_ofNat_of_lt {n : ℕ} (h : n < 256) : (UInt8.ofNat n).toNat = n := by
  rw [UInt8.toNat_ofNat', Nat.mod_eq_of_lt h]

/-- The first byte of a character says how many follow. -/
theorem following_utf8 (c : Char) : ∃ b bs, String.utf8EncodeChar c = b :: bs ∧ following b = some bs.length := by
  have hvalid : c.val.toNat < 1114112 := by
    have := c.valid
    unfold UInt32.isValidChar Nat.isValidChar at this
    omega
  fun_cases String.utf8EncodeChar c with
  | case1 v h =>
    refine ⟨_, _, rfl, ?_⟩
    rw [following, toNat_ofNat_of_lt (by omega), if_pos (by omega)]
    rfl
  | case2 v h₁ h₂ =>
    refine ⟨_, _, rfl, ?_⟩
    rw [following, toNat_ofNat_of_lt (by omega), if_neg (by omega), if_neg (by omega), if_pos (by omega)]
    rfl
  | case3 v h₁ h₂ h₃ =>
    refine ⟨_, _, rfl, ?_⟩
    rw [following, toNat_ofNat_of_lt (by omega), if_neg (by omega), if_neg (by omega), if_neg (by omega),
      if_pos (by omega)]
    rfl
  | case4 v h₁ h₂ h₃ =>
    refine ⟨_, _, rfl, ?_⟩
    rw [following, toNat_ofNat_of_lt (by omega), if_neg (by omega), if_neg (by omega), if_neg (by omega),
      if_neg (by omega), if_pos (by omega)]
    rfl

/-- A character is read back from the bytes it is written as. -/
theorem sequence_utf8 (c : Char) (rest : List Char) :
    sequence ((String.utf8EncodeChar c).flatMap encodeByte ++ rest) = some (c, rest) := by
  obtain ⟨b, bs, hbytes, hmore⟩ := following_utf8 c
  have hread : (b :: bs).toByteArray.utf8DecodeChar? 0 = some c := by
    rw [← hbytes, ← List.utf8Encode_singleton, List.utf8DecodeChar?_utf8Encode_singleton]
  rw [hbytes, List.flatMap_cons, List.append_assoc, sequence, octet_encodeByte]
  simp only [Option.bind_some, hmore, octets_encode, hread, Option.map_some]

theorem ne_percent_of_unreserved (h : unreserved c = true) : c ≠ '%' := by
  rintro rfl
  exact absurd h (by decide)

theorem decodeWith_encode (cs : List Char) :
    ∀ fuel, (encode cs).length ≤ fuel → decodeWith fuel (encode cs) = some cs := by
  induction cs with
  | nil => intro fuel _; cases fuel <;> rfl
  | cons c cs ih =>
    intro fuel hfuel
    have hcons : encode (c :: cs) = encodeChar c ++ encode cs := List.flatMap_cons
    rw [hcons] at hfuel ⊢
    rw [List.length_append] at hfuel
    by_cases hc : unreserved c = true
    · rw [encodeChar, if_pos hc] at hfuel ⊢
      obtain ⟨fuel, rfl⟩ : ∃ n, fuel = n + 1 := ⟨fuel - 1, by simp only [List.length_singleton] at hfuel; omega⟩
      rw [List.singleton_append, decodeWith, if_neg (ne_percent_of_unreserved hc),
        ih fuel (by simp only [List.length_singleton] at hfuel; omega)]
      rfl
    · -- the bytes of the character start with a `%`
      rw [encodeChar, if_neg hc] at hfuel ⊢
      have hread := sequence_utf8 c (encode cs)
      obtain ⟨b, bs, hbytes, -⟩ := following_utf8 c
      have hstart : (String.utf8EncodeChar c).flatMap encodeByte
          = '%' :: (hexDigit (b.toNat / 16) :: hexDigit (b.toNat % 16) :: bs.flatMap encodeByte) := by
        rw [hbytes]
        rfl
      rw [hstart] at hfuel hread ⊢
      obtain ⟨fuel, rfl⟩ : ∃ n, fuel = n + 1 := ⟨fuel - 1, by simp only [List.length_cons] at hfuel; omega⟩
      rw [List.cons_append] at hread ⊢
      have hrest : decodeWith fuel (encode cs) = some cs := ih fuel (by simp only [List.length_cons] at hfuel; omega)
      rw [decodeWith, if_pos rfl, hread, Option.bind_some]
      simp only [hrest, Option.map_some]

/-- **What is encoded is read back.** -/
theorem decode_encode (cs : List Char) : decode (encode cs) = some cs := decodeWith_encode cs _ le_rfl

theorem unreserved_hexDigit {n : ℕ} (h : n < 16) : unreserved (hexDigit n) = true := by
  interval_cases n <;> decide

/-- An encoded text has unreserved characters and `%`. -/
theorem mem_encode {cs : List Char} {d : Char} (h : d ∈ encode cs) : d = '%' ∨ unreserved d = true := by
  obtain ⟨c, -, hd⟩ := List.mem_flatMap.mp h
  unfold encodeChar at hd
  split at hd
  next hc => exact .inr (List.mem_singleton.mp hd ▸ hc)
  next =>
    obtain ⟨b, -, hb⟩ := List.mem_flatMap.mp hd
    have hlt : b.toNat < 256 := b.toNat_lt
    simp only [encodeByte, List.mem_cons, List.not_mem_nil, or_false] at hb
    rcases hb with rfl | rfl | rfl
    · exact .inl rfl
    · exact .inr (unreserved_hexDigit (by omega))
    · exact .inr (unreserved_hexDigit (by omega))

end Lib.Percent
