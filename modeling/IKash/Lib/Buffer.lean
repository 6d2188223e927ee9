import Mathlib.Tactic.Common
import Mathlib.Tactic.IntervalCases

/-!
# Byte buffers

Node's `Buffer`, as lists of bytes: slices whose bounds may count from the end, big-endian words of four bytes, and
Base64. An access that Node refuses has the message of its `RangeError`.

- `word_be32`, `be32_inj`: a word below 2 ^ 32 is read as it was written;
- `Base64.decode_encode`: what is encoded is decoded to itself;
- `eq_flatten_replicate`: bytes of period `w` are copies of the first `w`.
-/

namespace Lib.Buffer

variable {raw : List UInt8}

/-! ## Slices -/

/-- The position that a bound of a slice stands for: a negative one counts from the end. -/
def index (length : ℕ) (i : ℤ) : ℕ := if i < 0 then (length + i).toNat else min i.toNat length

def subarray (raw : List UInt8) (start stop : ℤ) : List UInt8 :=
  (raw.take (index raw.length stop)).drop (index raw.length start)

/-- `source.copy(target, start)` -/
def copy (source target : List UInt8) (start : ℕ) : List UInt8 :=
  target.take start ++ source.take (target.length - start) ++ target.drop (start + source.length)

def alloc (size : ℕ) : List UInt8 := List.replicate size 0

theorem index_natCast {n k : ℕ} (h : k ≤ n) : index n (k : ℤ) = k := by
  unfold index
  split <;> omega

theorem index_le (n : ℕ) (i : ℤ) : index n i ≤ n := by
  unfold index
  split <;> omega

theorem subarray_natCast {i j : ℕ} (hi : i ≤ raw.length) (hj : j ≤ raw.length) :
    subarray raw i j = (raw.take j).drop i := by
  rw [subarray, index_natCast hi, index_natCast hj]

/-- A copy takes the place of as many bytes. -/
theorem copy_append {source before old after : List UInt8} {start : ℕ} (hstart : before.length = start)
    (hold : old.length = source.length) : copy source (before ++ old ++ after) start = before ++ source ++ after := by
  have hfirst : (before ++ old ++ after).take start = before := by rw [List.append_assoc, List.take_left' hstart]
  have hlast : (before ++ old ++ after).drop (start + source.length) = after :=
    List.drop_left' (by rw [List.length_append, hstart, hold])
  have hfits : source.length ≤ (before ++ old ++ after).length - start := by
    simp only [List.length_append]
    omega
  rw [copy, hfirst, hlast, List.take_of_length_le hfits]

/-! ## Words -/

/-- The four bytes of a number below 2 ^ 32. -/
def be32 (n : ℕ) : List UInt8 :=
  [UInt8.ofNat (n / 16777216), UInt8.ofNat (n / 65536), UInt8.ofNat (n / 256), UInt8.ofNat n]

def word (bytes : List UInt8) : ℕ := bytes.foldl (fun n b => n * 256 + b.toNat) 0

def outOfBounds : String := "Attempt to access memory outside buffer bounds"

def outOfRange (name : String) (max received : ℤ) : String :=
  "The value of \"" ++ name ++ "\" is out of range. It must be >= 0 and <= " ++ toString max ++ ". Received " ++
    toString received

/-- Whether four bytes at the offset are inside. -/
def checkOffset (length : ℕ) (offset : ℤ) : Except String Unit :=
  if length < 4 then .error outOfBounds
  else if 0 ≤ offset ∧ offset + 4 ≤ length then .ok ()
  else .error (outOfRange "offset" (length - 4) offset)

def readUInt32BE (raw : List UInt8) (offset : ℤ) : Except String ℕ := do
  checkOffset raw.length offset
  pure (word ((raw.drop offset.toNat).take 4))

def writeUInt32BE (raw : List UInt8) (value : ℕ) (offset : ℕ) : Except String (List UInt8) := do
  if 4294967295 < value then .error (outOfRange "value" 4294967295 value) else .ok ()
  checkOffset raw.length offset
  pure (copy (be32 value) raw offset)

@[simp] theorem length_be32 (n : ℕ) : (be32 n).length = 4 := rfl

theorem word_be32 {n : ℕ} (h : n < 2 ^ 32) : word (be32 n) = n := by
  simp only [word, be32, List.foldl_cons, List.foldl_nil, UInt8.toNat_ofNat']
  omega

theorem be32_inj {m n : ℕ} (hm : m < 2 ^ 32) (hn : n < 2 ^ 32) (h : be32 m = be32 n) : m = n := by
  rw [← word_be32 hm, ← word_be32 hn, h]

theorem readUInt32BE_of_le {offset : ℕ} (h : offset + 4 ≤ raw.length) :
    readUInt32BE raw offset = .ok (word ((raw.drop offset).take 4)) := by
  have hlen : ¬raw.length < 4 := by omega
  have hin : 0 ≤ (offset : ℤ) ∧ (offset : ℤ) + 4 ≤ raw.length := by omega
  simp [readUInt32BE, checkOffset, hlen, hin]

theorem writeUInt32BE_of_le {value offset : ℕ} (hv : value < 2 ^ 32) (h : offset + 4 ≤ raw.length) :
    writeUInt32BE raw value offset = .ok (copy (be32 value) raw offset) := by
  have hval : ¬4294967295 < value := by omega
  have hlen : ¬raw.length < 4 := by omega
  have hin : (offset : ℤ) + 4 ≤ raw.length := by omega
  simp [writeUInt32BE, checkOffset, hval, hlen, hin, bind, Except.bind, pure, Except.pure]

theorem writeUInt32BE_of_lt {value offset : ℕ} (hv : 4294967295 < value) :
    writeUInt32BE raw value offset = .error (outOfRange "value" 4294967295 value) := by
  simp [writeUInt32BE, hv, bind, Except.bind]

/-! ## Periods -/

section Periods

variable {w m : ℕ} {bytes : List UInt8}

/-- Bytes of period `w` are copies of the first `w`. -/
theorem eq_flatten_replicate (hlen : bytes.length = w * m)
    (h : ∀ i, i + w < bytes.length → bytes[i + w]? = bytes[i]?) :
    bytes = (List.replicate m (bytes.take w)).flatten := by
  induction m generalizing bytes with
  | zero => simpa using hlen
  | succ m ih =>
    rw [Nat.mul_succ] at hlen
    have hdrop : (bytes.drop w).length = w * m := by simp [hlen]
    have hperiod : ∀ i, i + w < (bytes.drop w).length → (bytes.drop w)[i + w]? = (bytes.drop w)[i]? := by
      intro i hi
      rw [List.getElem?_drop, List.getElem?_drop, ← Nat.add_assoc, Nat.add_comm w i]
      apply h
      rw [List.length_drop] at hi
      omega
    have hcopies := ih hdrop hperiod
    have hfirst : m = 0 ∨ (bytes.drop w).take w = bytes.take w := by
      rcases Nat.eq_zero_or_pos m with hm | hm
      · exact .inl hm
      · refine .inr (List.ext_getElem? fun i => ?_)
        rw [List.getElem?_take, List.getElem?_take]
        split
        next hi =>
          have hwm : w ≤ w * m := Nat.le_mul_of_pos_right w hm
          rw [List.getElem?_drop, Nat.add_comm]
          exact h i (by omega)
        next => rfl
    rw [List.replicate_succ, List.flatten_cons]
    rcases hfirst with rfl | hfirst
    · have : bytes.drop w = [] := List.eq_nil_of_length_eq_zero (by simp [hlen])
      rw [List.replicate_zero, List.flatten_nil, ← this, List.take_append_drop]
    · rw [hfirst] at hcopies
      rw [← hcopies, List.take_append_drop]

end Periods

end Lib.Buffer

namespace Lib.Base64

/-! ## Base64 -/

def digit (n : ℕ) : Char :=
  if n < 26 then Char.ofNat ('A'.toNat + n)
  else if n < 52 then Char.ofNat ('a'.toNat + (n - 26))
  else if n < 62 then Char.ofNat ('0'.toNat + (n - 52))
  else if n = 62 then '+'
  else '/'

/-- Both alphabets are read. -/
def value (c : Char) : Option ℕ :=
  if 'A' ≤ c ∧ c ≤ 'Z' then some (c.toNat - 'A'.toNat)
  else if 'a' ≤ c ∧ c ≤ 'z' then some (c.toNat - 'a'.toNat + 26)
  else if '0' ≤ c ∧ c ≤ '9' then some (c.toNat - '0'.toNat + 52)
  else if c = '+' ∨ c = '-' then some 62
  else if c = '/' ∨ c = '_' then some 63
  else none

/-- The numbers of six bits: three bytes are four of them, and the last of an incomplete group is filled with zeros. -/
def sextets : List UInt8 → List ℕ
  | a :: b :: c :: rest =>
    a.toNat / 4 :: (a.toNat % 4 * 16 + b.toNat / 16) :: (b.toNat % 16 * 4 + c.toNat / 64) :: c.toNat % 64 ::
      sextets rest
  | [a, b] => [a.toNat / 4, a.toNat % 4 * 16 + b.toNat / 16, b.toNat % 16 * 4]
  | [a] => [a.toNat / 4, a.toNat % 4 * 16]
  | [] => []

/-- The bytes that are complete. -/
def ofSextets : List ℕ → List UInt8
  | a :: b :: c :: d :: rest =>
    UInt8.ofNat (a * 4 + b / 16) :: UInt8.ofNat (b % 16 * 16 + c / 4) :: UInt8.ofNat (c % 4 * 64 + d) ::
      ofSextets rest
  | [a, b, c] => [UInt8.ofNat (a * 4 + b / 16), UInt8.ofNat (b % 16 * 16 + c / 4)]
  | [a, b] => [UInt8.ofNat (a * 4 + b / 16)]
  | _ => []

/-- `bytes.toString('base64')` -/
def encode (bytes : List UInt8) : String :=
  String.ofList ((sextets bytes).map digit ++ List.replicate ((3 - bytes.length % 3) % 3) '=')

/-- `Buffer.from(s, 'base64')`: the text ends at the first `=`, and characters outside the alphabets are skipped. -/
def decode (s : String) : List UInt8 := ofSextets ((s.toList.takeWhile (· ≠ '=')).filterMap value)

theorem value_digit : ∀ n < 64, value (digit n) = some n := by decide

theorem digit_ne : ∀ n < 64, digit n ≠ '=' := by decide

theorem sextets_lt (bytes : List UInt8) : ∀ n ∈ sextets bytes, n < 64 := by
  induction bytes using sextets.induct with
  | case1 a b c rest ih =>
    have ha := a.toNat_lt
    have hb := b.toNat_lt
    have hc := c.toNat_lt
    simp only [sextets, List.forall_mem_cons]
    exact ⟨by omega, by omega, by omega, by omega, ih⟩
  | case2 a b =>
    have ha := a.toNat_lt
    have hb := b.toNat_lt
    simp only [sextets, List.forall_mem_cons]
    exact ⟨by omega, by omega, by omega, by simp⟩
  | case3 a =>
    have ha := a.toNat_lt
    simp only [sextets, List.forall_mem_cons]
    exact ⟨by omega, by omega, by simp⟩
  | case4 => simp [sextets]

theorem ofNat_eq {b : UInt8} {n : ℕ} (h : n = b.toNat) : UInt8.ofNat n = b := by
  rw [h, UInt8.ofNat_toNat]

theorem ofSextets_sextets (bytes : List UInt8) : ofSextets (sextets bytes) = bytes := by
  induction bytes using sextets.induct with
  | case1 a b c rest ih =>
    have ha := a.toNat_lt
    have hb := b.toNat_lt
    have hc := c.toNat_lt
    rw [sextets, ofSextets, ih, ofNat_eq (b := a), ofNat_eq (b := b), ofNat_eq (b := c)] <;> omega
  | case2 a b =>
    have ha := a.toNat_lt
    have hb := b.toNat_lt
    rw [sextets, ofSextets, ofNat_eq (b := a), ofNat_eq (b := b)] <;> omega
  | case3 a =>
    have ha := a.toNat_lt
    rw [sextets, ofSextets, ofNat_eq (b := a)]
    omega
  | case4 => rfl

/-- The digits end where the padding starts. -/
theorem takeWhile_digits {ns : List ℕ} (h : ∀ n ∈ ns, n < 64) (k : ℕ) :
    (ns.map digit ++ List.replicate k '=').takeWhile (· ≠ '=') = ns.map digit := by
  have hdigits : ∀ c ∈ ns.map digit, decide (c ≠ '=') = true := by
    intro c hc
    obtain ⟨n, hn, rfl⟩ := List.mem_map.mp hc
    simpa using digit_ne n (h n hn)
  rw [List.takeWhile_append_of_pos hdigits]
  cases k <;> simp

theorem filterMap_digits {ns : List ℕ} (h : ∀ n ∈ ns, n < 64) : (ns.map digit).filterMap value = ns := by
  induction ns with
  | nil => rfl
  | cons n ns ih =>
    obtain ⟨hn, hns⟩ := List.forall_mem_cons.mp h
    rw [List.map_cons, List.filterMap_cons_some (value_digit n hn), ih hns]

theorem decode_encode (bytes : List UInt8) : decode (encode bytes) = bytes := by
  have h := sextets_lt bytes
  rw [decode, encode, String.toList_ofList, takeWhile_digits h, filterMap_digits h, ofSextets_sextets]

theorem encode_inj {bytes bytes' : List UInt8} (h : encode bytes = encode bytes') : bytes = bytes' := by
  rw [← decode_encode bytes, h, decode_encode]

example : encode [102, 111] = "Zm8=" := by decide

end Lib.Base64
