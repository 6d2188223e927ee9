import IKash.AccountRules
import Mathlib.Data.Int.GCD

/-!
# Typing errors in an IBAN

`isValidIban` moves the first four characters to the end, writes every letter as a number of two digits and wants the
remainder one modulo 97. An IBAN is a word whose symbols are its characters, so the weights of `Lib.CheckDigits` say which
changes its remainder shows.

- `mod97_eq`: the remainder that is computed in chunks of seven digits;
- `mod97_exact`: no number on the way is rounded;
- `valid_weight`: what an accepted IBAN satisfies;
- `iban_typing_errors`: another digit for a digit, another letter for a letter, and two different digits exchanged.
-/

namespace IKash

open Lib

/-! ## Characters -/

theorem isUpper_iff {c : Char} : c.isUpper = true ↔ 65 ≤ c.toNat ∧ c.toNat ≤ 90 := by
  show decide ('A'.val ≤ c.val ∧ c.val ≤ 'Z'.val) = true ↔ _
  rw [decide_eq_true_eq, UInt32.le_iff_toNat_le, UInt32.le_iff_toNat_le]
  rfl

theorem isLower_iff {c : Char} : c.isLower = true ↔ 97 ≤ c.toNat ∧ c.toNat ≤ 122 := by
  show (decide ('a'.val ≤ c.val) && decide (c.val ≤ 'z'.val)) = true ↔ _
  rw [Bool.and_eq_true, decide_eq_true_eq, decide_eq_true_eq, UInt32.le_iff_toNat_le, UInt32.le_iff_toNat_le]
  rfl

/-- The number of a character in an IBAN. -/
theorem natOf_ibanCode_digit {c : Char} (h : c.isDigit = true) :
    (ibanCode c).length = 1 ∧ natOf (ibanCode c) + 48 = c.toNat := by
  have hrange := isDigit_iff.mp h
  unfold ibanCode
  rw [if_pos hrange]
  refine ⟨rfl, ?_⟩
  show 10 * 0 + (c.toNat - 48) + 48 = c.toNat
  omega

theorem natOf_ibanCode_upper {c : Char} (h : c.isUpper = true) :
    (ibanCode c).length = 2 ∧ natOf (ibanCode c) + 55 = c.toNat := by
  have hrange := isUpper_iff.mp h
  unfold ibanCode
  rw [if_neg (by omega), natOf_toDigits]
  refine ⟨?_, by omega⟩
  have hle : (Nat.toDigits 10 (c.toNat - 55)).length ≤ 2 :=
    (Nat.length_toDigits_le_iff (by decide) (by decide)).mpr (by omega)
  have hgt : ¬ (Nat.toDigits 10 (c.toNat - 55)).length ≤ 1 := fun h1 => by
    have := (Nat.length_toDigits_le_iff (by decide) (by decide)).mp h1
    omega
  omega

theorem length_ibanCode_le {c : Char} (h : isUpperOrDigit c = true) : (ibanCode c).length ≤ 2 := by
  rcases Bool.or_eq_true_iff.mp h with hupper | hdigit
  · exact (natOf_ibanCode_upper hupper).1.le
  · rw [(natOf_ibanCode_digit hdigit).1]
    decide

theorem isAlpha_iff {c : Char} : c.isAlpha = true ↔ c.isUpper = true ∨ c.isLower = true := by
  show (c.isUpper || c.isLower) = true ↔ _
  rw [Bool.or_eq_true]

theorem toUpper_upper {c : Char} (h : isUpperOrDigit c = true) : c.toUpper = c := by
  have hlow : ¬ ('a'.val ≤ c.val ∧ c.val ≤ 'z'.val) := by
    rintro ⟨hle, -⟩
    have hnat : 97 ≤ c.toNat := UInt32.le_iff_toNat_le.mp hle
    rcases Bool.or_eq_true_iff.mp h with hupper | hdigit
    · have := isUpper_iff.mp hupper
      omega
    · have := isDigit_iff.mp hdigit
      omega
  unfold Char.toUpper
  exact dif_neg hlow

theorem isUpper_toUpper {c : Char} (h : c.isAlpha = true) : c.toUpper.isUpper = true := by
  rcases isAlpha_iff.mp h with hupper | hlower
  · rwa [toUpper_upper (by simp [isUpperOrDigit, hupper])]
  · have hrange := isLower_iff.mp hlower
    have hval : 'a'.val ≤ c.val ∧ c.val ≤ 'z'.val :=
      ⟨UInt32.le_iff_toNat_le.mpr hrange.1, UInt32.le_iff_toNat_le.mpr hrange.2⟩
    rw [isUpper_iff]
    unfold Char.toUpper
    rw [dif_pos hval]
    show 65 ≤ (c.val + ('A'.val - 'a'.val)).toNat ∧ (c.val + ('A'.val - 'a'.val)).toNat ≤ 90
    have hc : c.val.toNat = c.toNat := rfl
    have hshift : ('A'.val - 'a'.val).toNat = 4294967264 := by decide
    rw [UInt32.toNat_add, hshift, hc]
    omega

/-! ## Accepted texts -/

theorem isAlphanumeric_lt {c : Char} (h : isAlphanumeric c = true) : c.toNat < 128 := by
  rcases Bool.or_eq_true_iff.mp h with halpha | hdigit
  · rcases isAlpha_iff.mp halpha with hupper | hlower
    · have := isUpper_iff.mp hupper
      omega
    · have := isLower_iff.mp hlower
      omega
  · have := isDigit_iff.mp hdigit
    omega

theorem upperChar_alphanumeric {c : Char} (h : isAlphanumeric c = true) : Json.upperChar c = [c.toUpper] := by
  unfold Json.upperChar
  rw [if_pos (isAlphanumeric_lt h)]

theorem isWhitespace_alphanumeric {c : Char} (h : isAlphanumeric c = true) : Json.isWhitespace c = false := by
  unfold Json.isWhitespace
  rw [decide_eq_false_iff_not]
  rintro (hmem | ⟨hle, -⟩)
  · have hnone : ¬ isAlphanumeric c = true := List.any_eq_false.mp (by decide) c hmem
    exact hnone h
  · have hnat : 8192 ≤ c.toNat := UInt32.le_iff_toNat_le.mp hle
    have := isAlphanumeric_lt h
    omega

/-- Letters and digits are put in upper case. -/
theorem ibanText_alphanumeric {cs : List Char} (h : ∀ c ∈ cs, isAlphanumeric c = true) :
    ibanText (String.ofList cs) = cs.map Char.toUpper := by
  have hfilter : cs.filter (fun c => !Json.isWhitespace c) = cs :=
    List.filter_eq_self.mpr fun c hc => by rw [isWhitespace_alphanumeric (h c hc), Bool.not_false]
  unfold ibanText Json.toUpperCase
  rw [String.toList_ofList, String.toList_ofList, String.toList_ofList, hfilter,
    List.flatMap_congr fun c hc => upperChar_alphanumeric (h c hc)]
  exact List.flatMap_pure_eq_map Char.toUpper cs

/-- A text in upper case without blanks is the one that is looked at. -/
theorem ibanText_self {s : String} (hupper : Json.toUpperCase s = s)
    (hblank : ∀ c ∈ s.toList, Json.isWhitespace c = false) : ibanText s = s.toList := by
  have hfilter : s.toList.filter (fun c => !Json.isWhitespace c) = s.toList :=
    List.filter_eq_self.mpr fun c hc => by rw [hblank c hc, Bool.not_false]
  unfold ibanText
  rw [hfilter, String.ofList_toList, hupper]

theorem mod97_eq (cs : List Char) : mod97 cs = natOf cs % 97 := by
  unfold mod97
  rw [foldl_remainderStep, List.take_of_length_le (by omega)]

/-! ## Numbers on the way -/

/-- The text that the `i`-th round gives to `Number`. -/
def mod97Text (value : List Char) (i : ℕ) : List Char :=
  stepText 7 value ((List.range i).foldl (remainderStep 97 7 value) 0) i

/-- `mod97` where `Number` gives the double that `round` says. -/
def mod97Rounded (round : ℕ → ℕ) (value : List Char) : ℕ :=
  (List.range ((value.length + 6) / 7)).foldl (fun r i => round (natOf (stepText 7 value r i)) % 97) 0

/-- A remainder modulo 97 and seven digits are at most nine digits. -/
theorem stepText_mod97 {value : List Char} (hdigits : ∀ c ∈ value, c.isDigit = true) {r : ℕ} (hr : r < 97) (i : ℕ) :
    (stepText 7 value r i).length ≤ 9 ∧ IsDouble (natOf (stepText 7 value r i)) := by
  have hlength : (stepText 7 value r i).length ≤ 2 + 7 := length_stepText_le value i (by decide) (by omega)
  have hlt : natOf (stepText 7 value r i) < 10 ^ 9 :=
    (natOf_lt fun c hc => isDigit_stepText hdigits hc).trans_le (Nat.pow_le_pow_right (by decide) hlength)
  exact ⟨hlength, isDouble_of_lt (by omega)⟩

/-- **The remainder of a numeral** of any length. Every number on the way has at most nine digits and is a double, so that
the rounding of `Number` changes nothing. -/
theorem mod97_exact {value : List Char} (hdigits : ∀ c ∈ value, c.isDigit = true) :
    mod97 value = natOf value % 97 ∧
      (∀ i, (∀ c ∈ mod97Text value i, c.isDigit = true) ∧ (mod97Text value i).length ≤ 9 ∧
        IsDouble (natOf (mod97Text value i))) ∧
      ∀ round : ℕ → ℕ, (∀ n, IsDouble n → round n = n) → mod97Rounded round value = mod97 value := by
  refine ⟨mod97_eq value, fun i => ⟨fun c hc => isDigit_stepText hdigits hc, ?_⟩, fun round hround => ?_⟩
  · exact stepText_mod97 hdigits (foldl_remainderStep_lt (by decide) value i) i
  · refine foldl_remainderStep_congr (by decide) (fun r hr i => ?_) _
    rw [hround _ (stepText_mod97 hdigits hr i).2]
    rfl

/-- Fifteen digits, the last chunk a single one. -/
theorem mod97_exact_fifteen : mod97 "131468210000128".toList = 131468210000128 % 97 ∧
    (mod97Text "131468210000128".toList 1).length ≤ 9 := by
  have h := @mod97_exact "131468210000128".toList (List.all_eq_true.mp (by decide))
  exact ⟨h.1, (h.2.1 1).2.1⟩

/-! ## Accepted IBANs -/

/-- The order in which the characters weigh. -/
def rearranged (iban : List Char) : List Char := iban.drop 4 ++ iban.take 4

/-- **An accepted IBAN** has the characters of one, and the remainder one. -/
theorem valid_weight {value : String} (h : isValidIban value = true) :
    (∀ c ∈ ibanText value, isUpperOrDigit c = true) ∧ (ibanText value).length ≤ 34 ∧
      weight ibanCode (rearranged (ibanText value)) ≡ 1 [ZMOD 97] := by
  unfold isValidIban at h
  simp only [Bool.and_eq_true, decide_eq_true_eq] at h
  obtain ⟨⟨⟨⟨hpattern, -⟩, -⟩, hlength⟩, hmod⟩ := h
  refine ⟨?_, hlength, ?_⟩
  · unfold ibanPattern at hpattern
    split at hpattern
    · rename_i a b c d rest heq
      simp only [Bool.and_eq_true, List.all_eq_true] at hpattern
      obtain ⟨⟨⟨⟨⟨⟨ha, hb⟩, hc⟩, hd⟩, -⟩, -⟩, hrest⟩ := hpattern
      rw [heq]
      intro x hx
      simp only [List.mem_cons] at hx
      rcases hx with rfl | rfl | rfl | rfl | hx
      · simp [isUpperOrDigit, ha]
      · simp [isUpperOrDigit, hb]
      · simp [isUpperOrDigit, hc]
      · simp [isUpperOrDigit, hd]
      · exact hrest x hx
    · cases hpattern
  · rw [mod97_eq] at hmod
    exact Int.natCast_modEq_iff.mpr hmod

/-! ## Changes -/

section Changes

variable {pre post : List Char} {a b c c' : Char} {value : String}

/-- A character keeps its neighbours, but for where the text is turned. -/
theorem rearranged_at (pre post : List Char) : ∃ xs ys, ∀ c, rearranged (pre ++ c :: post) = xs ++ c :: ys := by
  rcases Nat.lt_or_ge pre.length 4 with hlt | hge
  · refine ⟨post.drop (3 - pre.length) ++ pre, post.take (3 - pre.length), fun c => ?_⟩
    have hsplit : 4 - pre.length = (3 - pre.length) + 1 := by omega
    unfold rearranged
    rw [List.drop_append, List.take_append, List.drop_of_length_le hlt.le, List.take_of_length_le hlt.le, hsplit,
      List.drop_succ_cons, List.take_succ_cons, List.nil_append, List.append_assoc]
  · refine ⟨pre.drop 4, post ++ pre.take 4, fun c => ?_⟩
    unfold rearranged
    rw [List.drop_append_of_le_length hge, List.take_append_of_le_length hge, List.append_assoc, List.cons_append]

/-- Two neighbours stay neighbours, if the text is not turned between them. -/
theorem rearranged_pair (h : pre.length ≠ 3) (post : List Char) :
    ∃ xs ys, ∀ a b, rearranged (pre ++ a :: b :: post) = xs ++ a :: b :: ys := by
  rcases Nat.lt_or_ge pre.length 4 with hlt | hge
  · refine ⟨post.drop (2 - pre.length) ++ pre, post.take (2 - pre.length), fun a b => ?_⟩
    have hsplit : 4 - pre.length = (2 - pre.length) + 1 + 1 := by omega
    unfold rearranged
    rw [List.drop_append, List.take_append, List.drop_of_length_le hlt.le, List.take_of_length_le hlt.le, hsplit,
      List.drop_succ_cons, List.drop_succ_cons, List.take_succ_cons, List.take_succ_cons, List.nil_append,
      List.append_assoc]
  · refine ⟨pre.drop 4, post ++ pre.take 4, fun a b => ?_⟩
    unfold rearranged
    rw [List.drop_append_of_le_length hge, List.take_append_of_le_length hge, List.append_assoc, List.cons_append,
      List.cons_append]

/-- The two characters between which the text is turned become the last and the first. -/
theorem rearranged_turn (h : pre.length = 3) (a b : Char) (post : List Char) :
    rearranged (pre ++ a :: b :: post) = b :: ((post ++ pre) ++ [a]) := by
  unfold rearranged
  rw [List.drop_append, List.take_append, List.drop_of_length_le (by omega), List.take_of_length_le (by omega), h]
  simp

/-- Characters of one class, whose numbers count from the same character, are told apart by their numbers. -/
theorem eq_of_code_modEq {k : ℕ} (ha : natOf (ibanCode a) + k = a.toNat) (hb : natOf (ibanCode b) + k = b.toNat)
    (hla : a.toNat < 97 + k) (hlb : b.toNat < 97 + k)
    (h : (natOf (ibanCode a) : ℤ) ≡ natOf (ibanCode b) [ZMOD 97]) : a = b := by
  have heq := ((Int.natCast_modEq_iff (n := 97)).mp h).eq_of_lt_of_lt (by omega) (by omega)
  exact Char.toNat_inj.mp (by omega)

theorem digit_eq_of_modEq (ha : a.isDigit = true) (hb : b.isDigit = true)
    (h : (natOf (ibanCode a) : ℤ) ≡ natOf (ibanCode b) [ZMOD 97]) : a = b := by
  have hra := isDigit_iff.mp ha
  have hrb := isDigit_iff.mp hb
  exact eq_of_code_modEq (natOf_ibanCode_digit ha).2 (natOf_ibanCode_digit hb).2 (by omega) (by omega) h

theorem upper_eq_of_modEq (ha : a.isUpper = true) (hb : b.isUpper = true)
    (h : (natOf (ibanCode a) : ℤ) ≡ natOf (ibanCode b) [ZMOD 97]) : a = b := by
  have hra := isUpper_iff.mp ha
  have hrb := isUpper_iff.mp hb
  exact eq_of_code_modEq (natOf_ibanCode_upper ha).2 (natOf_ibanCode_upper hb).2 (by omega) (by omega) h

/-- Another digit for a digit, or another letter, of either case, for a letter. -/
def Mistyped (c c' : Char) : Prop :=
  c.isDigit = true ∧ c'.isDigit = true ∧ c' ≠ c ∨ c.isUpper = true ∧ c'.isAlpha = true ∧ c'.toUpper ≠ c

instance (c c' : Char) : Decidable (Mistyped c c') := inferInstanceAs (Decidable (_ ∨ _))

theorem Mistyped.alphanumeric (h : Mistyped c c') : isAlphanumeric c' = true := by
  rcases h with ⟨-, hdigit, -⟩ | ⟨-, halpha, -⟩
  · simp [isAlphanumeric, hdigit]
  · simp [isAlphanumeric, halpha]

/-- A mistyped character has a numeral of the same length, and another number. -/
theorem Mistyped.code (h : Mistyped c c') : (ibanCode c).length = (ibanCode c'.toUpper).length ∧
    ¬ (natOf (ibanCode c) : ℤ) ≡ natOf (ibanCode c'.toUpper) [ZMOD 97] := by
  rcases h with ⟨hc, hc', hne⟩ | ⟨hc, hc', hne⟩
  · rw [toUpper_upper (c := c') (by simp [isUpperOrDigit, hc']), (natOf_ibanCode_digit hc).1, (natOf_ibanCode_digit hc').1]
    exact ⟨rfl, fun hmod => hne (digit_eq_of_modEq hc hc' hmod).symm⟩
  · have hupper := isUpper_toUpper hc'
    rw [(natOf_ibanCode_upper hc).1, (natOf_ibanCode_upper hupper).1]
    exact ⟨rfl, fun hmod => hne (upper_eq_of_modEq hc hupper hmod).symm⟩

theorem isAlphanumeric_of_upperOrDigit (h : isUpperOrDigit c = true) : isAlphanumeric c = true := by
  rcases Bool.or_eq_true_iff.mp h with hupper | hdigit
  · simp [isAlphanumeric, isAlpha_iff.mpr (Or.inl hupper)]
  · simp [isAlphanumeric, hdigit]

theorem map_toUpper {cs : List Char} (h : ∀ c ∈ cs, isUpperOrDigit c = true) : cs.map Char.toUpper = cs := by
  rw [List.map_congr_left fun c hc => toUpper_upper (h c hc), List.map_id']

/-- **A mistyped character** is noticed. -/
theorem mistyped_rejected (hvalid : isValidIban value = true) (htext : ibanText value = pre ++ c :: post)
    (h : Mistyped c c') : isValidIban (String.ofList (pre ++ c' :: post)) = false := by
  by_contra hvalid'
  rw [Bool.not_eq_false] at hvalid'
  obtain ⟨hchars, -, hweight⟩ := valid_weight hvalid
  obtain ⟨-, -, hweight'⟩ := valid_weight hvalid'
  rw [htext] at hchars hweight
  have hpre : ∀ x ∈ pre, isUpperOrDigit x = true := fun x hx => hchars x (List.mem_append_left _ hx)
  have hpost : ∀ x ∈ post, isUpperOrDigit x = true := fun x hx =>
    hchars x (List.mem_append_right _ (List.mem_cons_of_mem _ hx))
  have htext' : ibanText (String.ofList (pre ++ c' :: post)) = pre ++ c'.toUpper :: post := by
    rw [ibanText_alphanumeric, List.map_append, List.map_cons, map_toUpper hpre, map_toUpper hpost]
    intro x hx
    rcases List.mem_append.mp hx with hx | hx
    · exact isAlphanumeric_of_upperOrDigit (hpre x hx)
    · rcases List.mem_cons.mp hx with rfl | hx
      · exact h.alphanumeric
      · exact isAlphanumeric_of_upperOrDigit (hpost x hx)
  rw [htext'] at hweight'
  obtain ⟨xs, ys, hat⟩ := rearranged_at pre post
  rw [hat] at hweight hweight'
  have hcode := (replace_modEq_iff (p := 97) (by decide) h.code.1 xs ys).mp (hweight.trans hweight'.symm)
  exact h.code.2 hcode

/-- Ten has the order 96 modulo 97. -/
theorem isCoprime_ten_pow {k : ℕ} (hpos : 0 < k) (hlt : k < 96) : IsCoprime (97 : ℤ) (10 ^ k - 1) := by
  have horder : ∀ k < 96, 0 < k → Int.gcd 97 (10 ^ k - 1) = 1 := by decide
  exact Int.isCoprime_iff_gcd_eq_one.mpr (horder k hlt hpos)

/-- **Two different digits exchanged** are noticed, also where the text is turned between them. -/
theorem exchanged_rejected (hvalid : isValidIban value = true) (htext : ibanText value = pre ++ a :: b :: post)
    (ha : a.isDigit = true) (hb : b.isDigit = true) (hne : a ≠ b) :
    isValidIban (String.ofList (pre ++ b :: a :: post)) = false := by
  by_contra hvalid'
  rw [Bool.not_eq_false] at hvalid'
  obtain ⟨hchars, hlength, hweight⟩ := valid_weight hvalid
  obtain ⟨-, -, hweight'⟩ := valid_weight hvalid'
  rw [htext] at hchars hlength hweight
  have hchars' : ∀ x ∈ pre ++ b :: a :: post, isUpperOrDigit x = true := fun x hx =>
    hchars x (((List.Perm.swap a b post).append_left pre).mem_iff.mp hx)
  have htext' : ibanText (String.ofList (pre ++ b :: a :: post)) = pre ++ b :: a :: post := by
    rw [ibanText_alphanumeric fun x hx => isAlphanumeric_of_upperOrDigit (hchars' x hx), map_toUpper hchars']
  rw [htext'] at hweight'
  have hmod := hweight.trans hweight'.symm
  have hla := (natOf_ibanCode_digit ha).1
  have hlb := (natOf_ibanCode_digit hb).1
  by_cases hturn : pre.length = 3
  · rw [rearranged_turn hturn, rearranged_turn hturn, swapEnds_modEq_iff hlb hla] at hmod
    -- between the two there are at most 32 characters, so less than 96 digits
    have hcodes : (written ibanCode (post ++ pre)).length ≤ 2 * (post ++ pre).length :=
      length_written_le fun x hx => length_ibanCode_le (hchars x (by
        rcases List.mem_append.mp hx with hx | hx
        · exact List.mem_append_right _ (List.mem_cons_of_mem _ (List.mem_cons_of_mem _ hx))
        · exact List.mem_append_left _ hx))
    have hplace : 10 * place ibanCode (post ++ pre) - 1 = 10 ^ ((written ibanCode (post ++ pre)).length + 1) - 1 := by
      unfold place
      rw [pow_succ, mul_comm]
    simp only [List.length_append, List.length_cons] at hlength hcodes
    rw [hplace, mul_modEq_iff (isCoprime_ten_pow (Nat.succ_pos _) (by omega))] at hmod
    exact hne (digit_eq_of_modEq hb ha hmod).symm
  · obtain ⟨xs, ys, hpair⟩ := rearranged_pair hturn post
    rw [hpair, hpair, swap_modEq_iff (by decide) hla hlb] at hmod
    have hnine : IsCoprime (97 : ℤ) 9 := by decide
    rw [mul_comm, mul_comm 9, mul_modEq_iff hnine] at hmod
    exact hne (digit_eq_of_modEq ha hb hmod)

end Changes

/-- **Typing errors.** In an upper-case text without blanks that is accepted, every mistyped character and every exchange of
two different digits next to each other is noticed. -/
theorem iban_typing_errors {value : String} (hupper : Json.toUpperCase value = value)
    (hblank : ∀ c ∈ value.toList, Json.isWhitespace c = false) (hvalid : isValidIban value = true) :
    (∀ pre c post c', value.toList = pre ++ c :: post → Mistyped c c' →
      isValidIban (String.ofList (pre ++ c' :: post)) = false) ∧
    ∀ pre a b post, value.toList = pre ++ a :: b :: post → a.isDigit = true → b.isDigit = true → a ≠ b →
      isValidIban (String.ofList (pre ++ b :: a :: post)) = false := by
  have hself := ibanText_self hupper hblank
  refine ⟨fun pre c post c' htext h => ?_, fun pre a b post htext ha hb hne => ?_⟩
  · exact mistyped_rejected hvalid (hself.trans htext) h
  · exact exchanged_rejected hvalid (hself.trans htext) ha hb hne

/-- A Panamanian IBAN, with its check digits mistyped and exchanged with the account. -/
theorem iban_typing_errors_panama : isValidIban "PA25BNKO000000000000001234" = true ∧
    isValidIban "PA26BNKO000000000000001234" = false ∧ isValidIban "PA52BNKO000000000000001234" = false := by
  have hblank : ∀ c ∈ "PA25BNKO000000000000001234".toList, Json.isWhitespace c = false := fun c hc =>
    Bool.eq_false_iff.mpr (List.any_eq_false.mp (by decide) c hc)
  have h := @iban_typing_errors "PA25BNKO000000000000001234" (by decide) hblank (by decide)
  exact ⟨by decide, h.1 ['P', 'A', '2'] '5' _ '6' rfl (by decide), h.2 ['P', 'A'] '2' '5' _ rfl rfl rfl (by decide)⟩

end IKash
