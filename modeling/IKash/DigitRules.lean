import IKash.AccountRules

/-!
# Rules that look at digits only

The rules for telephone numbers, CPFs and BAC Credomatic accounts delete what is no digit, and match what is left. So the
texts they accept are given by the numbers that may be left (`IsNumber`).

- `isValid_iff`: a text is accepted exactly when its digits are a number of the rule;
- `brazilianPhone_iff`: the national and the international form of a number are both accepted, unless the area code is 55;
- `freeText_rejected_iff`: a rule rejects a text for its other characters only when it would reject its digits.
-/

namespace IKash

open Lib

/-! ## Numbers -/

inductive DigitRule where
  | costaRicanPhone | venezuelanPhone | brazilianPhone | cpf | bacCredomaticAccount
deriving DecidableEq, Repr

def DigitRule.isValid : DigitRule → String → Bool
  | .costaRicanPhone => isValidCostaRicanPhone
  | .venezuelanPhone => isValidVenezuelanPhone
  | .brazilianPhone => isValidBrazilianPhone
  | .cpf => isValidCpf
  | .bacCredomaticAccount => isValidBacCredomaticAccount

def costaRicanPrefixes : List (List Char) := [[], ['5', '0', '6'], ['0', '0', '5', '0', '6']]

/-- Two digits, of which the first is not zero. -/
def IsAreaCode (area : List Char) : Prop :=
  ∃ a b, area = [a, b] ∧ a.isDigit = true ∧ a ≠ '0' ∧ b.isDigit = true

/-- The area code that is also the code of the country. -/
def countryArea : List Char := ['5', '5']

/-- The weighted sum of the first `n` digits of a CPF, the last of them weighing two. -/
def cpfSum (digits : List Char) (n : ℕ) : ℕ :=
  ((List.range n).map fun i => digitValue (digits.getD i '0') * (n + 1 - i)).sum

/-- The digit after the first `n` is their check digit. -/
def Checks (digits : List Char) (n : ℕ) : Prop :=
  digitValue (digits.getD n '0') = 10 * cpfSum digits n % 11 % 10

/-- The digits of the texts that a rule accepts. -/
inductive IsNumber : DigitRule → List Char → Prop where
  | costaRican {p d n} : p ∈ costaRicanPrefixes → d ∈ ['6', '7', '8'] → isDigits 7 n = true →
    IsNumber .costaRicanPhone (p ++ d :: n)
  | venezuelan {m n} : m ∈ venezuelanMobile → isDigits 7 n = true →
    IsNumber .venezuelanPhone ('0' :: '4' :: (m ++ n))
  | venezuelanAbroad {m n} : m ∈ venezuelanMobile → isDigits 7 n = true →
    IsNumber .venezuelanPhone ('5' :: '8' :: '4' :: (m ++ n))
  | brazilian {area n} : IsAreaCode area → area ≠ countryArea → isDigits 8 n = true →
    IsNumber .brazilianPhone (area ++ '9' :: n)
  | brazilianAbroad {area n} : IsAreaCode area → isDigits 8 n = true →
    IsNumber .brazilianPhone ('5' :: '5' :: (area ++ '9' :: n))
  | cpf {digits} : digits.length = 11 → (∀ d, digits ≠ List.replicate 11 d) → Checks digits 9 → Checks digits 10 →
    IsNumber .cpf digits
  | bacCredomatic {n} : isDigits 10 n = true → IsNumber .bacCredomaticAccount n

section Rules

variable {digits n area : List Char} {value : String} {a b c : Char}

theorem isDigits_eq {k : ℕ} : isDigits k n = true ↔ n.length = k ∧ ∀ c ∈ n, c.isDigit = true := by
  unfold isDigits
  rw [Bool.and_eq_true, decide_eq_true_eq, List.all_eq_true]

/-! ### Costa Rica -/

/-- What is removed is a prefix. -/
theorem costaRicanNumber_prefix (digits : List Char) : ∃ p ∈ costaRicanPrefixes, digits = p ++ costaRicanNumber digits := by
  unfold costaRicanNumber
  split
  · rename_i h
    obtain ⟨rest, rfl⟩ := List.isPrefixOf_iff_prefix.mp h
    exact ⟨['0', '0', '5', '0', '6'], by decide, rfl⟩
  · split
    · rename_i h
      obtain ⟨rest, rfl⟩ := List.isPrefixOf_iff_prefix.mp h
      exact ⟨['5', '0', '6'], by decide, rfl⟩
    · exact ⟨[], by decide, rfl⟩

theorem costaRicanNumber_append {p : List Char} (hp : p ∈ costaRicanPrefixes) (hc : c ∈ ['6', '7', '8'])
    (n : List Char) : costaRicanNumber (p ++ c :: n) = c :: n := by
  simp only [costaRicanPrefixes, List.mem_cons, List.not_mem_nil, or_false] at hp hc
  rcases hp with rfl | rfl | rfl
  · rcases hc with rfl | rfl | rfl <;> rfl
  · rfl
  · rfl

theorem isValidCostaRicanPhone_iff :
    isValidCostaRicanPhone value = true ↔ IsNumber .costaRicanPhone (stripNonDigits value) := by
  unfold isValidCostaRicanPhone
  constructor
  · intro h
    obtain ⟨p, hp, hdigits⟩ := costaRicanNumber_prefix (stripNonDigits value)
    split at h
    · rename_i c rest heq
      rw [Bool.and_eq_true, List.contains_iff_mem] at h
      rw [hdigits, heq]
      exact .costaRican hp h.1 h.2
    · cases h
  · generalize stripNonDigits value = digits
    rintro ⟨hp, hd, hn⟩
    rw [costaRicanNumber_append hp hd]
    show (['6', '7', '8'].contains _ && isDigits 7 _) = true
    rw [Bool.and_eq_true, List.contains_iff_mem]
    exact ⟨hd, hn⟩

/-! ### Venezuela -/

theorem venezuelanNumber_cases (digits : List Char) :
    digits = venezuelanNumber digits ∨ ∃ rest, digits = '5' :: '8' :: rest ∧ venezuelanNumber digits = '0' :: rest := by
  unfold venezuelanNumber
  split
  · rename_i h
    obtain ⟨rest, rfl⟩ := List.isPrefixOf_iff_prefix.mp h
    exact Or.inr ⟨rest, rfl, rfl⟩
  · exact Or.inl rfl

theorem venezuelanMobile_pair {m : List Char} (hm : m ∈ venezuelanMobile) : ∃ a b, m = [a, b] := by
  simp only [venezuelanMobile, List.mem_cons, List.not_mem_nil, or_false] at hm
  rcases hm with rfl | rfl | rfl | rfl | rfl <;> exact ⟨_, _, rfl⟩

theorem isValidVenezuelanPhone_iff :
    isValidVenezuelanPhone value = true ↔ IsNumber .venezuelanPhone (stripNonDigits value) := by
  unfold isValidVenezuelanPhone
  constructor
  · intro h
    split at h
    · rename_i a b rest heq
      rw [Bool.and_eq_true, List.contains_iff_mem] at h
      rcases venezuelanNumber_cases (stripNonDigits value) with hsame | ⟨tail, hdigits, hnumber⟩
      · rw [hsame, heq]
        exact .venezuelan h.1 h.2
      · rw [hnumber] at heq
        rw [hdigits, List.cons.inj heq |>.2]
        exact .venezuelanAbroad h.1 h.2
    · cases h
  · generalize stripNonDigits value = digits
    intro h
    cases h with
    | venezuelan hm hn =>
      obtain ⟨a, b, rfl⟩ := venezuelanMobile_pair hm
      show (venezuelanMobile.contains [a, b] && isDigits 7 _) = true
      rw [Bool.and_eq_true, List.contains_iff_mem]
      exact ⟨hm, hn⟩
    | venezuelanAbroad hm hn =>
      obtain ⟨a, b, rfl⟩ := venezuelanMobile_pair hm
      show (venezuelanMobile.contains [a, b] && isDigits 7 _) = true
      rw [Bool.and_eq_true, List.contains_iff_mem]
      exact ⟨hm, hn⟩

/-! ### Brazil -/

/-- The prefix is removed when a digit other than zero follows it. -/
theorem brazilianNumber_prefix (hc : c ≠ '0') (rest : List Char) :
    brazilianNumber ('5' :: '5' :: c :: rest) = c :: rest := by
  unfold brazilianNumber
  exact if_neg hc

theorem brazilianNumber_area (h : [a, b] ≠ countryArea) (rest : List Char) :
    brazilianNumber (a :: b :: rest) = a :: b :: rest := by
  unfold brazilianNumber
  split
  · rename_i heq
    obtain ⟨rfl, hrest⟩ := List.cons.inj heq
    obtain ⟨rfl, -⟩ := List.cons.inj hrest
    exact absurd rfl h
  · rfl

theorem brazilianNumber_cases (digits : List Char) : digits = brazilianNumber digits ∨
    digits = '5' :: '5' :: brazilianNumber digits := by
  unfold brazilianNumber
  split
  · split
    · exact Or.inl rfl
    · exact Or.inr rfl
  · exact Or.inl rfl

theorem isValidBrazilianPhone_pattern : isValidBrazilianPhone value = true ↔
    ∃ area n, IsAreaCode area ∧ isDigits 8 n = true ∧ brazilianNumber (stripNonDigits value) = area ++ '9' :: n := by
  unfold isValidBrazilianPhone
  constructor
  · intro h
    split at h
    · rename_i a b rest heq
      simp only [Bool.and_eq_true, decide_eq_true_eq] at h
      exact ⟨[a, b], rest, ⟨a, b, rfl, h.1.1.1, h.1.1.2, h.1.2⟩, h.2, heq⟩
    · cases h
  · rintro ⟨_, n, ⟨a, b, rfl, ha, hne, hb⟩, hn, heq⟩
    rw [heq]
    show (a.isDigit && decide (a ≠ '0') && b.isDigit && isDigits 8 n) = true
    rw [ha, decide_eq_true hne, hb, hn]
    rfl

/-- A number with the area code 55 loses it. -/
theorem countryArea_rejected (hn : isDigits 8 n = true) :
    ¬ ∃ area m, IsAreaCode area ∧ isDigits 8 m = true ∧ brazilianNumber (countryArea ++ '9' :: n) = area ++ '9' :: m := by
  rintro ⟨_, m, ⟨a, b, rfl, -, -, -⟩, hm, heq⟩
  rw [show countryArea ++ '9' :: n = '5' :: '5' :: '9' :: n from rfl, brazilianNumber_prefix (by decide)] at heq
  have hlength := congrArg List.length heq
  have hlengths := (isDigits_eq.mp hn).1.trans (isDigits_eq.mp hm).1.symm
  simp only [List.length_append, List.length_cons, List.length_nil] at hlength
  omega

theorem isValidBrazilianPhone_iff :
    isValidBrazilianPhone value = true ↔ IsNumber .brazilianPhone (stripNonDigits value) := by
  rw [isValidBrazilianPhone_pattern]
  generalize stripNonDigits value = digits
  constructor
  · rintro ⟨area, n, harea, hn, hnumber⟩
    rcases brazilianNumber_cases digits with hsame | habroad
    · rw [hnumber] at hsame
      rw [hsame]
      refine .brazilian harea (fun hcountry => ?_) hn
      subst hcountry
      rw [hsame] at hnumber
      exact countryArea_rejected hn ⟨_, _, harea, hn, hnumber⟩
    · rw [habroad, hnumber]
      exact .brazilianAbroad harea hn
  · intro h
    cases h with
    | brazilian harea hne hn =>
      refine ⟨_, _, harea, hn, ?_⟩
      obtain ⟨a, b, rfl, -⟩ := harea
      exact brazilianNumber_area hne _
    | brazilianAbroad harea hn =>
      refine ⟨_, _, harea, hn, ?_⟩
      obtain ⟨a, b, rfl, -, hne, -⟩ := harea
      exact brazilianNumber_prefix hne _

/-! ### CPFs and BAC Credomatic accounts -/

theorem cpfCheck_eq (digits : List Char) (k : ℕ) : cpfCheck digits k = 10 * cpfSum digits k % 11 % 10 := by
  show (if cpfSum digits k * 10 % 11 = 10 then 0 else cpfSum digits k * 10 % 11) = _
  rw [Nat.mul_comm 10]
  split <;> omega

theorem isValidCpf_iff : isValidCpf value = true ↔ IsNumber .cpf (stripNonDigits value) := by
  have hreplicate : ∀ digits : List Char, digits.length = 11 →
      ((digits.all (· = digits.getD 0 '0')) = true ↔ ∃ d, digits = List.replicate 11 d) := by
    intro digits hlength
    rw [List.all_eq_true]
    constructor
    · intro h
      exact ⟨digits.getD 0 '0', List.eq_replicate_iff.mpr ⟨hlength, fun c hc => of_decide_eq_true (h c hc)⟩⟩
    · rintro ⟨d, rfl⟩ c hc
      exact decide_eq_true (List.eq_of_mem_replicate hc)
  unfold isValidCpf
  generalize stripNonDigits value = digits
  simp only [Bool.and_eq_true, decide_eq_true_eq, Bool.not_eq_true', cpfCheck_eq]
  constructor
  · rintro ⟨⟨⟨hlength, hall⟩, h₁⟩, h₂⟩
    refine .cpf hlength (fun d hd => ?_) h₁.symm h₂.symm
    rw [(hreplicate digits hlength).mpr ⟨d, hd⟩] at hall
    cases hall
  · rintro ⟨⟩
    rename_i hlength hne h₁ h₂
    refine ⟨⟨⟨hlength, ?_⟩, h₁.symm⟩, h₂.symm⟩
    rw [← Bool.not_eq_true, hreplicate digits hlength]
    rintro ⟨d, hd⟩
    exact hne d hd

theorem isValidBacCredomaticAccount_iff :
    isValidBacCredomaticAccount value = true ↔ IsNumber .bacCredomaticAccount (stripNonDigits value) := by
  unfold isValidBacCredomaticAccount
  generalize stripNonDigits value = digits
  constructor
  · exact fun h => .bacCredomatic h
  · rintro ⟨⟩
    assumption

/-- **A text is accepted** exactly when its digits are a number of the rule. -/
theorem isValid_iff (rule : DigitRule) : rule.isValid value = true ↔ IsNumber rule (stripNonDigits value) := by
  cases rule with
  | costaRicanPhone => exact isValidCostaRicanPhone_iff
  | venezuelanPhone => exact isValidVenezuelanPhone_iff
  | brazilianPhone => exact isValidBrazilianPhone_iff
  | cpf => exact isValidCpf_iff
  | bacCredomaticAccount => exact isValidBacCredomaticAccount_iff

end Rules

/-! ## National and international numbers -/

/-- What may be put into a telephone number. -/
def phoneSeparators : List Char := [' ', '-', '(', ')']

/-- The text is the number, with separators put in anywhere. -/
def Formats (value : String) (number : List Char) : Prop :=
  value.toList.filter (fun c => c ∉ phoneSeparators) = number

instance (value : String) (number : List Char) : Decidable (Formats value number) :=
  inferInstanceAs (Decidable (_ = _))

section Brazil

variable {area n number : List Char} {value abroad : String}

theorem Formats.digits (h : Formats value number) : stripNonDigits value = number.filter Char.isDigit := by
  have hnone : phoneSeparators.any Char.isDigit = false := by decide
  have hsep : ∀ c ∈ phoneSeparators, ¬ c.isDigit = true := List.any_eq_false.mp hnone
  rw [← h, List.filter_filter]
  refine List.filter_congr fun c _ => ?_
  by_cases hc : c ∈ phoneSeparators
  · rw [Bool.eq_false_iff.mpr (hsep c hc), Bool.false_and]
  · rw [decide_eq_true hc, Bool.and_true]

theorem IsAreaCode.digits (h : IsAreaCode area) : ∀ c ∈ area, c.isDigit = true := by
  obtain ⟨a, b, rfl, ha, -, hb⟩ := h
  intro c hc
  rcases List.mem_pair.mp hc with rfl | rfl
  · exact ha
  · exact hb

theorem nationalNumber_filter (harea : IsAreaCode area) (hn : isDigits 8 n = true) :
    (area ++ '9' :: n).filter Char.isDigit = area ++ '9' :: n := by
  refine List.filter_eq_self.mpr fun c hc => ?_
  rcases List.mem_append.mp hc with hc | hc
  · exact harea.digits c hc
  · rcases List.mem_cons.mp hc with rfl | hc
    · rfl
    · exact (isDigits_eq.mp hn).2 c hc

/-- A national number with the area code of the country is not one. -/
theorem isNumber_national_iff (harea : IsAreaCode area) (hn : isDigits 8 n = true) :
    IsNumber .brazilianPhone (area ++ '9' :: n) ↔ area ≠ countryArea := by
  constructor
  · rintro h rfl
    have hvalid : isValidBrazilianPhone (String.ofList (countryArea ++ '9' :: n)) = true := by
      rw [isValidBrazilianPhone_iff]
      unfold stripNonDigits
      rwa [String.toList_ofList, nationalNumber_filter harea hn]
    obtain ⟨area', m, harea', hm, hnumber⟩ := isValidBrazilianPhone_pattern.mp hvalid
    unfold stripNonDigits at hnumber
    rw [String.toList_ofList, nationalNumber_filter harea hn] at hnumber
    exact countryArea_rejected hn ⟨area', m, harea', hm, hnumber⟩
  · exact fun hne => .brazilian harea hne hn

/-- **Pix phones**: the number with its area code and the same number behind `+55` are both accepted, with any separators,
exactly if the area code is not 55. -/
theorem brazilianPhone_iff (harea : IsAreaCode area) (hn : isDigits 8 n = true)
    (hvalue : Formats value (area ++ '9' :: n)) (habroad : Formats abroad ('+' :: '5' :: '5' :: (area ++ '9' :: n))) :
    (isValidBrazilianPhone value = true ∧ isValidBrazilianPhone abroad = true) ↔ area ≠ countryArea := by
  have hinternational : isValidBrazilianPhone abroad = true := by
    rw [isValidBrazilianPhone_iff, habroad.digits]
    show IsNumber .brazilianPhone ('5' :: '5' :: (area ++ '9' :: n).filter Char.isDigit)
    rw [nationalNumber_filter harea hn]
    exact .brazilianAbroad harea hn
  rw [and_iff_left hinternational, isValidBrazilianPhone_iff, hvalue.digits, nationalNumber_filter harea hn]
  exact isNumber_national_iff harea hn

end Brazil

theorem isAreaCode_pair {a b : Char} (ha : a.isDigit = true) (hne : a ≠ '0') (hb : b.isDigit = true) :
    IsAreaCode [a, b] := ⟨a, b, rfl, ha, hne, hb⟩

/-- São Paulo, in both forms. -/
theorem brazilianPhone_saoPaulo :
    (isValidBrazilianPhone "(11) 91234-5678" = true ∧ isValidBrazilianPhone "+55 11 91234-5678" = true) ↔
      ['1', '1'] ≠ countryArea :=
  brazilianPhone_iff (isAreaCode_pair rfl (by decide) rfl) (n := ['1', '2', '3', '4', '5', '6', '7', '8']) rfl (by decide)
    (by decide)

/-- Santa Maria: the national form is refused, the international one is accepted. -/
theorem santaMaria_refused : IsAreaCode ['5', '5'] ∧
    Formats "(55) 91234-5678" (['5', '5'] ++ '9' :: ['1', '2', '3', '4', '5', '6', '7', '8']) ∧
    isValidBrazilianPhone "(55) 91234-5678" = false ∧ isValidBrazilianPhone "+55 55 91234-5678" = true :=
  ⟨isAreaCode_pair rfl (by decide) rfl, by decide, by decide, by decide⟩

/-! ## Free text -/

/-- A digit, the plus sign or a separator. -/
def isAccountChar (c : Char) : Bool := c.isDigit || ['+', ' ', '-', '(', ')', '.'].contains c

/-- **Free text**: a text that a rule accepts is written with digits, the plus sign and separators only, exactly if it is
such a text anyway, or its digits are no number of the rule. -/
theorem freeText_rejected_iff (rule : DigitRule) (value : String) :
    (rule.isValid value = true → ∀ c ∈ value.toList, isAccountChar c = true) ↔
      (∀ c ∈ value.toList, isAccountChar c = true) ∨ ¬ IsNumber rule (stripNonDigits value) := by
  rw [isValid_iff, imp_iff_not_or, or_comm]

/-- Words between the digits, for every rule. -/
theorem words_accepted : isAccountChar 'c' = false ∧
    DigitRule.costaRicanPhone.isValid "call 6123-4567" = true ∧
    DigitRule.venezuelanPhone.isValid "call 0412-1234567" = true ∧
    DigitRule.brazilianPhone.isValid "call 11 91234-5678" = true ∧
    DigitRule.cpf.isValid "cpf 529.982.247-25" = true ∧
    DigitRule.bacCredomaticAccount.isValid "acct 1234567890" = true := by decide

end IKash
