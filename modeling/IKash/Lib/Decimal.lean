import Mathlib.Algebra.Order.Field.Basic
import Mathlib.Algebra.Order.Field.Rat
import Mathlib.Data.List.DropRight
import Mathlib.Tactic.FieldSimp
import Mathlib.Tactic.Positivity

/-!
# Fixed-point decimals as text

A numeral is a list of digits. A `Fixed d` is a text with a numeral before the point and at most `d` digits after it; a
text without a point has none. It stands for a rational (`value`), and for a number of units of `10⁻ᵈ` (`units`).

- `value_eq`: the value is that number of units;
- `ofUnits`: the text of a number of units, without zeros that do not count (`units_ofUnits`, `canonical_ofUnits`);
- `text_injective`: a text is read in one way only.
-/

namespace Lib

/-! ## Numerals -/

/-- The number that a numeral stands for. -/
def natOf (cs : List Char) : ℕ := Nat.ofDigitChars 10 cs 0

theorem natOf_append (xs ys : List Char) : natOf (xs ++ ys) = natOf xs * 10 ^ ys.length + natOf ys := by
  unfold natOf
  rw [Nat.ofDigitChars_append, Nat.ofDigitChars_eq_ofDigitChars_zero, Nat.mul_comm]

theorem natOf_zeros (k : ℕ) : natOf (List.replicate k '0') = 0 := by
  rw [natOf, Nat.ofDigitChars_replicate_zero, Nat.mul_zero]

theorem natOf_append_zeros (xs : List Char) (k : ℕ) : natOf (xs ++ List.replicate k '0') = natOf xs * 10 ^ k := by
  rw [natOf_append, natOf_zeros, List.length_replicate, Nat.add_zero]

theorem natOf_zeros_append (k : ℕ) (xs : List Char) : natOf (List.replicate k '0' ++ xs) = natOf xs := by
  rw [natOf_append, natOf_zeros, Nat.zero_mul, Nat.zero_add]

theorem isDigit_iff {c : Char} : c.isDigit = true ↔ 48 ≤ c.toNat ∧ c.toNat ≤ 57 := by
  show (decide ('0'.val ≤ c.val) && decide (c.val ≤ '9'.val)) = true ↔ _
  rw [Bool.and_eq_true, decide_eq_true_eq, decide_eq_true_eq, UInt32.le_iff_toNat_le, UInt32.le_iff_toNat_le]
  rfl

theorem natOf_digit {c : Char} (h : c.isDigit = true) : natOf [c] + 48 = c.toNat := by
  have hrange := isDigit_iff.mp h
  show 10 * 0 + (c.toNat - 48) + 48 = c.toNat
  omega

/-- A numeral of `n` digits is below `10ⁿ`. -/
theorem natOf_lt {cs : List Char} (h : ∀ c ∈ cs, c.isDigit = true) : natOf cs < 10 ^ cs.length := by
  induction cs with
  | nil => decide
  | cons c cs ih =>
    have htail := ih fun x hx => h x (List.mem_cons_of_mem c hx)
    have hc := h c List.mem_cons_self
    have hhead : natOf [c] ≤ 9 := by
      have hrange := isDigit_iff.mp hc
      have := natOf_digit hc
      omega
    have hmul := Nat.mul_le_mul_right (10 ^ cs.length) hhead
    rw [← List.singleton_append, natOf_append, List.length_append, List.length_singleton, pow_add]
    omega

theorem natOf_toDigits (n : ℕ) : natOf (Nat.toDigits 10 n) = n := Nat.ofDigitChars_ten_toDigits

theorem isDigit_toDigits {n : ℕ} {c : Char} (h : c ∈ Nat.toDigits 10 n) : c.isDigit = true :=
  Nat.isDigit_of_mem_toDigits (by decide) le_rfl h

/-- The numeral of a positive number does not start with a zero. -/
theorem head?_toDigits {n : ℕ} (h : 0 < n) : (Nat.toDigits 10 n).head? ≠ some '0' := by
  induction n using Nat.strongRec with
  | ind n ih =>
    rcases Nat.lt_or_ge n 10 with hlt | hge
    · rw [Nat.toDigits_of_lt_base hlt, List.head?_cons, ne_eq, Option.some.injEq, Nat.digitChar_eq_zero]
      omega
    · rw [Nat.toDigits_of_base_le (by decide) hge, List.head?_append_of_ne_nil _ Nat.toDigits_ne_nil]
      exact ih (n / 10) (by omega) (by omega)

/-- A numeral without the zeros at its end. -/
def trimZeros (xs : List Char) : List Char := xs.rdropWhile fun c => c = '0'

theorem trimZeros_append (xs : List Char) : ∃ k, xs = trimZeros xs ++ List.replicate k '0' := by
  refine ⟨(xs.rtakeWhile fun c => c = '0').length, ?_⟩
  have hzeros : xs.rtakeWhile (fun c => c = '0') =
      List.replicate (xs.rtakeWhile fun c => c = '0').length '0' := by
    rw [List.eq_replicate_iff]
    exact ⟨rfl, fun c hc => of_decide_eq_true (List.mem_rtakeWhile_imp (p := fun c => c = '0') hc)⟩
  rw [← hzeros]
  exact List.rdropWhile_append_rtakeWhile.symm

theorem trimZeros_subset {xs : List Char} {c : Char} (h : c ∈ trimZeros xs) : c ∈ xs :=
  (List.rdropWhile_prefix _ _).subset h

theorem getLast?_trimZeros (xs : List Char) : (trimZeros xs).getLast? ≠ some '0' := by
  by_cases hne : trimZeros xs = []
  · simp [hne]
  · rw [List.getLast?_eq_some_getLast hne, ne_eq, Option.some.injEq]
    exact fun hlast => List.rdropWhile_last_not _ _ hne (decide_eq_true hlast)

/-! ### The order of texts -/

/-- Two texts with prefixes of one length. -/
theorem append_lt_append_iff {xs ys zs ws : List Char} (h : xs.length = ys.length) :
    xs ++ zs < ys ++ ws ↔ xs < ys ∨ xs = ys ∧ zs < ws := by
  induction xs generalizing ys with
  | nil =>
    obtain rfl : ys = [] := List.length_eq_zero_iff.mp h.symm
    simp
  | cons x xs ih =>
    cases ys with
    | nil => cases h
    | cons y ys =>
      have hlength : xs.length = ys.length := Nat.succ.inj h
      rw [List.cons_append, List.cons_append, List.cons_lt_cons_iff, List.cons_lt_cons_iff, ih hlength, List.cons.injEq]
      tauto

/-- The place before decides, and then the rest. -/
theorem mul_add_lt_iff {a b m n p : ℕ} (hm : m < p) (hn : n < p) : a * p + m < b * p + n ↔ a < b ∨ a = b ∧ m < n := by
  rcases Nat.lt_trichotomy a b with hlt | rfl | hgt
  · have hmul := Nat.mul_le_mul_right p hlt
    rw [Nat.succ_mul] at hmul
    exact iff_of_true (by omega) (Or.inl hlt)
  · omega
  · have hmul := Nat.mul_le_mul_right p hgt
    rw [Nat.succ_mul] at hmul
    exact iff_of_false (by omega) (by omega)

/-- Numerals of one length are ordered as their numbers. -/
theorem lt_iff_natOf_lt {xs ys : List Char} (h : xs.length = ys.length) (hx : ∀ c ∈ xs, c.isDigit = true)
    (hy : ∀ c ∈ ys, c.isDigit = true) : xs < ys ↔ natOf xs < natOf ys := by
  induction xs generalizing ys with
  | nil =>
    obtain rfl : ys = [] := List.length_eq_zero_iff.mp h.symm
    simp
  | cons x xs ih =>
    cases ys with
    | nil => cases h
    | cons y ys =>
      have hlength : xs.length = ys.length := Nat.succ.inj h
      have htail : ∀ c ∈ xs, c.isDigit = true := fun c hc => hx c (List.mem_cons_of_mem x hc)
      have htail' : ∀ c ∈ ys, c.isDigit = true := fun c hc => hy c (List.mem_cons_of_mem y hc)
      have hdigit := natOf_digit (hx x List.mem_cons_self)
      have hdigit' := natOf_digit (hy y List.mem_cons_self)
      have hlt := natOf_lt htail
      have hlt' := natOf_lt htail'
      rw [List.cons_lt_cons_iff, ih hlength htail htail', ← List.singleton_append, natOf_append,
        ← List.singleton_append (l := ys), natOf_append, hlength]
      rw [hlength] at hlt
      rw [mul_add_lt_iff hlt hlt', Char.lt_def, UInt32.lt_iff_toNat_lt, ← Char.toNat_inj]
      have hval : x.val.toNat = x.toNat ∧ y.val.toNat = y.toNat := ⟨rfl, rfl⟩
      omega

/-- A number as a numeral of `w` digits at least. -/
def padded (w n : ℕ) : List Char := (Nat.toDigits 10 n).leftpad w '0'

theorem natOf_padded (w n : ℕ) : natOf (padded w n) = n := by
  unfold padded
  rw [List.leftpad, natOf_zeros_append, natOf_toDigits]

theorem length_padded {w n : ℕ} (hw : 0 < w) (h : n < 10 ^ w) : (padded w n).length = w := by
  unfold padded
  rw [List.length_leftpad, Nat.max_eq_left ((Nat.length_toDigits_le_iff (by decide) hw).mpr h)]

theorem isDigit_padded {w n : ℕ} {c : Char} (h : c ∈ padded w n) : c.isDigit = true := by
  unfold padded at h
  rw [List.leftpad, List.mem_append] at h
  rcases h with hzero | hdigit
  · rw [List.eq_of_mem_replicate hzero]
    rfl
  · exact isDigit_toDigits hdigit

/-- Padded numerals of `w` digits are ordered as their numbers. -/
theorem padded_lt_iff {w m n : ℕ} (hw : 0 < w) (hm : m < 10 ^ w) (hn : n < 10 ^ w) : padded w m < padded w n ↔ m < n := by
  rw [lt_iff_natOf_lt ((length_padded hw hm).trans (length_padded hw hn).symm) (fun _ => isDigit_padded)
    (fun _ => isDigit_padded), natOf_padded, natOf_padded]

theorem padded_injective {w m n : ℕ} (h : padded w m = padded w n) : m = n := by
  rw [← natOf_padded w m, h, natOf_padded]

/-! ## Decimals -/

/-- A numeral, and at most `d` digits after the point. -/
structure Fixed (d : ℕ) where
  int : List Char
  frac : List Char
  int_ne_nil : int ≠ []
  int_digits : ∀ c ∈ int, c.isDigit = true
  frac_digits : ∀ c ∈ frac, c.isDigit = true
  frac_length : frac.length ≤ d

namespace Fixed

variable {d : ℕ}

def text (x : Fixed d) : List Char := if x.frac = [] then x.int else x.int ++ '.' :: x.frac

def value (x : Fixed d) : ℚ := natOf x.int + natOf x.frac / 10 ^ x.frac.length

/-- The value in units of `10⁻ᵈ`. -/
def units (x : Fixed d) : ℕ := natOf x.int * 10 ^ d + natOf x.frac * 10 ^ (d - x.frac.length)

theorem value_eq (x : Fixed d) : x.value = x.units / 10 ^ d := by
  have hpow : (10 : ℚ) ^ d = 10 ^ (d - x.frac.length) * 10 ^ x.frac.length := by
    rw [← pow_add, Nat.sub_add_cancel x.frac_length]
  unfold value units
  push_cast
  rw [hpow]
  field_simp

theorem value_eq_iff (x : Fixed d) (n : ℕ) : x.value = n / 10 ^ d ↔ x.units = n := by
  rw [value_eq, div_left_inj' (by positivity), Nat.cast_inj]

theorem value_pos_iff (x : Fixed d) : 0 < x.value ↔ 0 < x.units := by
  have hpow : (0 : ℚ) < 10 ^ d := by positivity
  rw [value_eq, lt_div_iff₀ hpow, zero_mul, Nat.cast_pos]

/-- No zero before another digit of the whole part, and none at the end of the fraction. -/
structure Canonical (x : Fixed d) : Prop where
  int : ∀ rest, x.int = '0' :: rest → rest = []
  frac : x.frac.getLast? ≠ some '0'

/-! ### Reading a text -/

theorem isDigit_point : '.'.isDigit = false := by decide

theorem span_text (x : Fixed d) : x.text.takeWhile Char.isDigit = x.int ∧
    x.text.dropWhile Char.isDigit = if x.frac = [] then [] else '.' :: x.frac := by
  unfold text
  split
  · exact ⟨List.takeWhile_eq_self_iff.mpr x.int_digits, List.dropWhile_eq_nil_iff.mpr x.int_digits⟩
  · rw [List.takeWhile_append_of_pos x.int_digits, List.dropWhile_append_of_pos x.int_digits,
      List.takeWhile_cons_of_neg (by simp [isDigit_point]), List.dropWhile_cons_of_neg (by simp [isDigit_point]),
      List.append_nil]
    exact ⟨rfl, rfl⟩

theorem text_injective {x y : Fixed d} (h : x.text = y.text) : x = y := by
  obtain ⟨hint, hfrac⟩ := span_text x
  obtain ⟨hint', hfrac'⟩ := span_text y
  rw [h, hint'] at hint
  rw [h, hfrac'] at hfrac
  obtain ⟨xi, xf, _, _, _, _⟩ := x
  obtain ⟨yi, yf, _, _, _, _⟩ := y
  obtain rfl : yi = xi := hint
  have hf : yf = xf := by
    dsimp only at hfrac
    split at hfrac <;> split at hfrac <;> simp_all
  subst hf
  rfl

/-! ### The text of a number of units -/

theorem length_digits_le {n : ℕ} (h : n < 10 ^ d) (hn : n ≠ 0) : (Nat.toDigits 10 n).length ≤ d := by
  have hd : 0 < d := by
    by_contra hd
    obtain rfl : d = 0 := by omega
    omega
  exact (Nat.length_toDigits_le_iff (by decide) hd).mpr h

/-- The digits of a number after the point, `d` of them but for the zeros at the end. -/
def fraction (d n : ℕ) : List Char := if n = 0 then [] else trimZeros ((Nat.toDigits 10 n).leftpad d '0')

theorem length_leftpad_digits {n : ℕ} (h : n < 10 ^ d) (hn : n ≠ 0) :
    ((Nat.toDigits 10 n).leftpad d '0').length = d := by
  rw [List.length_leftpad, Nat.max_eq_left (length_digits_le h hn)]

theorem fraction_digits {n : ℕ} {c : Char} (h : c ∈ fraction d n) : c.isDigit = true := by
  unfold fraction at h
  split at h
  · cases h
  · have hmem := trimZeros_subset h
    rw [List.leftpad, List.mem_append] at hmem
    rcases hmem with hzero | hdigit
    · rw [List.eq_of_mem_replicate hzero]
      rfl
    · exact isDigit_toDigits hdigit

/-- The fraction has at most `d` digits, and zeros make it the number again. -/
theorem fraction_spec {n : ℕ} (h : n < 10 ^ d) :
    (fraction d n).length ≤ d ∧ natOf (fraction d n) * 10 ^ (d - (fraction d n).length) = n := by
  unfold fraction
  split
  · subst n
    exact ⟨Nat.zero_le _, by simp [natOf]⟩
  · rename_i hn
    obtain ⟨k, hk⟩ := trimZeros_append ((Nat.toDigits 10 n).leftpad d '0')
    have hlength := congrArg List.length hk
    rw [length_leftpad_digits h hn, List.length_append, List.length_replicate] at hlength
    refine ⟨by omega, ?_⟩
    rw [show d - (trimZeros ((Nat.toDigits 10 n).leftpad d '0')).length = k by omega, ← natOf_append_zeros, ← hk,
      List.leftpad, natOf_zeros_append, natOf_toDigits]

theorem fraction_eq_nil_iff {n : ℕ} (h : n < 10 ^ d) : fraction d n = [] ↔ n = 0 := by
  constructor
  · intro hnil
    have hspec := (fraction_spec h).2
    rw [hnil] at hspec
    simpa [natOf] using hspec.symm
  · rintro rfl
    exact if_pos rfl

def ofUnits (d n : ℕ) : Fixed d where
  int := Nat.toDigits 10 (n / 10 ^ d)
  frac := fraction d (n % 10 ^ d)
  int_ne_nil := Nat.toDigits_ne_nil
  int_digits _ := isDigit_toDigits
  frac_digits _ := fraction_digits
  frac_length := (fraction_spec (Nat.mod_lt _ (Nat.pow_pos (by decide)))).1

theorem units_ofUnits (d n : ℕ) : (ofUnits d n).units = n := by
  have hmod : n % 10 ^ d < 10 ^ d := Nat.mod_lt _ (Nat.pow_pos (by decide))
  show natOf (Nat.toDigits 10 (n / 10 ^ d)) * 10 ^ d +
    natOf (fraction d (n % 10 ^ d)) * 10 ^ (d - (fraction d (n % 10 ^ d)).length) = n
  rw [natOf_toDigits, (fraction_spec hmod).2, Nat.mul_comm, Nat.div_add_mod]

theorem canonical_ofUnits (d n : ℕ) : (ofUnits d n).Canonical where
  int := by
    intro rest hrest
    have hdigits : Nat.toDigits 10 (n / 10 ^ d) = '0' :: rest := hrest
    rcases Nat.eq_zero_or_pos (n / 10 ^ d) with hzero | hpos
    · rw [hzero, Nat.toDigits_zero] at hdigits
      exact (List.cons.inj hdigits).2.symm
    · exact absurd (congrArg List.head? hdigits) (head?_toDigits hpos)
  frac := by
    show (fraction d (n % 10 ^ d)).getLast? ≠ some '0'
    unfold fraction
    split
    · simp
    · exact getLast?_trimZeros _

end Fixed
end Lib
