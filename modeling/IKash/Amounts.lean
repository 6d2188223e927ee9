import IKash.Errors
import IKash.Lib.Decimal

/-!
# `toStroops` and `fromStroops`

The amounts of `SendService` are decimal texts with at most seven digits after the point. `toStroops` reads one as a
number of stroops, and `fromStroops` writes a number of stroops.

- `toStroops_eq_ok`, `fromStroops_eq`: the two by the decimals of the library;
- `stroops_inverse`: they are inverse, and `fromStroops` writes every amount in one way.
-/

namespace IKash

open Lib

/-- `AMOUNT_REGEX`, which is the pattern of `assertAmount` as well. -/
def amountRegex (s : String) : Bool :=
  s.toList.takeWhile Char.isDigit ≠ [] &&
    match s.toList.dropWhile Char.isDigit with
    | [] => true
    | c :: dec => c = '.' && 1 ≤ dec.length && dec.length ≤ 7 && dec.all Char.isDigit

def invalidAmount : Thrown := .app .invalidAmount
  "Invalid amount. Use a positive number with up to 7 decimal places (e.g. \"1\" or \"0.1234567\")."

namespace SendService

def stroopsPerUnit : ℕ := 10000000

/-- `BigInt` of a text of digits is `natOf`. -/
def toStroops (amount : String) : Except Thrown ℕ :=
  if amountRegex amount then
    let parts := amount.toList.splitOn '.'
    let decPadded := (parts[1]?.getD []).rightpad 7 '0'
    .ok (natOf (parts[0]?.getD []) * stroopsPerUnit + natOf decPadded)
  else .error invalidAmount

def fromStroops (stroops : ℕ) : String :=
  let intPart := stroops / stroopsPerUnit
  let decPart := stroops % stroopsPerUnit
  if decPart = 0 then toString intPart
  else
    let decStr := ((toString decPart).toList.leftpad 7 '0').rdropWhile fun c => c = '0'
    toString intPart ++ "." ++ String.ofList decStr

end SendService

open SendService

/-! ## Amounts as decimals -/

/-- The pattern admits the texts of the decimals with up to seven digits after the point. -/
theorem amountRegex_iff {s : String} : amountRegex s = true ↔ ∃ x : Fixed 7, s.toList = x.text := by
  constructor
  · intro h
    have hsplit := List.takeWhile_append_dropWhile (p := Char.isDigit) (l := s.toList)
    unfold amountRegex at h
    rw [Bool.and_eq_true, decide_eq_true_iff] at h
    obtain ⟨hint, hrest⟩ := h
    have hdigits : ∀ c ∈ s.toList.takeWhile Char.isDigit, c.isDigit = true := fun c => List.mem_takeWhile_imp
    cases hdrop : s.toList.dropWhile Char.isDigit with
    | nil =>
      refine ⟨⟨_, [], hint, hdigits, (fun c hc => by cases hc), Nat.zero_le _⟩, ?_⟩
      rw [hdrop, List.append_nil] at hsplit
      exact hsplit.symm
    | cons c dec =>
      simp only [hdrop, Bool.and_eq_true, decide_eq_true_eq, List.all_eq_true] at hrest
      obtain ⟨⟨⟨rfl, hpos⟩, hle⟩, hfrac⟩ := hrest
      have hdec : dec ≠ [] := List.ne_nil_of_length_pos hpos
      refine ⟨⟨_, dec, hint, hdigits, hfrac, hle⟩, ?_⟩
      rw [hdrop] at hsplit
      rw [Fixed.text, if_neg hdec, hsplit]
  · rintro ⟨x, hx⟩
    obtain ⟨htake, hdrop⟩ := x.span_text
    unfold amountRegex
    rw [hx, htake, hdrop]
    by_cases hnil : x.frac = []
    · simp [hnil, x.int_ne_nil]
    · have hpos := List.length_pos_iff.mpr hnil
      simpa [hnil, x.int_ne_nil, x.frac_length, List.all_eq_true] using ⟨by omega, x.frac_digits⟩

theorem splitOn_text (x : Fixed 7) :
    x.text.splitOn '.' = if x.frac = [] then [x.int] else [x.int, x.frac] := by
  have hint : '.' ∉ x.int := fun h => absurd (x.int_digits _ h) (by decide)
  have hfrac : '.' ∉ x.frac := fun h => absurd (x.frac_digits _ h) (by decide)
  unfold Fixed.text
  split
  · exact List.splitOn_eq_singleton hint
  · rw [List.splitOn_append_cons_self_of_not_mem hint, List.splitOn_eq_singleton hfrac]

theorem natOf_rightpad (x : Fixed 7) : natOf (x.frac.rightpad 7 '0') = natOf x.frac * 10 ^ (7 - x.frac.length) := by
  rw [List.rightpad, natOf_append_zeros]

/-- `toStroops` is the number of units of the decimal. -/
theorem toStroops_text {s : String} {x : Fixed 7} (hs : s.toList = x.text) : toStroops s = .ok x.units := by
  unfold toStroops
  rw [if_pos (amountRegex_iff.mpr ⟨x, hs⟩), hs, splitOn_text]
  by_cases hnil : x.frac = []
  · have hfrac := natOf_rightpad x
    rw [hnil] at hfrac
    simp only [hnil, if_true, List.getElem?_cons_zero, List.getElem?_cons_succ, List.getElem?_nil, Option.getD_some,
      Option.getD_none, hfrac, Fixed.units]
    rfl
  · simp only [hnil, if_false, List.getElem?_cons_zero, List.getElem?_cons_succ, Option.getD_some, natOf_rightpad,
      Fixed.units]
    rfl

theorem toStroops_eq_ok {s : String} {n : ℕ} :
    toStroops s = .ok n ↔ ∃ x : Fixed 7, s.toList = x.text ∧ x.units = n := by
  constructor
  · intro h
    by_cases hregex : amountRegex s = true
    · obtain ⟨x, hx⟩ := amountRegex_iff.mp hregex
      rw [toStroops_text hx, Except.ok.injEq] at h
      exact ⟨x, hx, h⟩
    · unfold toStroops at h
      rw [if_neg hregex] at h
      cases h
  · rintro ⟨x, hx, rfl⟩
    exact toStroops_text hx

/-- `fromStroops` writes the canonical decimal. -/
theorem fromStroops_eq (n : ℕ) : (fromStroops n).toList = (Fixed.ofUnits 7 n).text := by
  have hmod : n % 10 ^ 7 < 10 ^ 7 := Nat.mod_lt _ (by decide)
  have hnil := Fixed.fraction_eq_nil_iff hmod
  unfold fromStroops Fixed.text stroopsPerUnit
  by_cases hzero : n % 10000000 = 0
  · have hfrac : (Fixed.ofUnits 7 n).frac = [] := hnil.mpr hzero
    rw [if_pos hzero, if_pos hfrac, Nat.toString_eq_repr, Nat.toList_repr]
    rfl
  · have hfrac : (Fixed.ofUnits 7 n).frac ≠ [] := fun h => hzero (hnil.mp h)
    have htrim : (Fixed.ofUnits 7 n).frac = trimZeros ((Nat.toDigits 10 (n % 10 ^ 7)).leftpad 7 '0') := if_neg hzero
    rw [if_neg hzero, if_neg hfrac, htrim, Nat.toString_eq_repr, Nat.toString_eq_repr, String.toList_append,
      String.toList_append, Nat.toList_repr, Nat.toList_repr, String.toList_ofList, String.toList_ofList, List.append_assoc]
    rfl

/-! ## The two are inverse -/

/-- The amount that a text stands for. -/
def Denotes (s : String) (q : ℚ) : Prop := ∃ x : Fixed 7, s.toList = x.text ∧ x.value = q

theorem Denotes.unique {s : String} {q q' : ℚ} (h : Denotes s q) (h' : Denotes s q') : q = q' := by
  obtain ⟨x, hx, rfl⟩ := h
  obtain ⟨y, hy, rfl⟩ := h'
  rw [Fixed.text_injective (hx.symm.trans hy)]

/-- An amount of `n` stroops. -/
theorem denotes_iff {s : String} {n : ℕ} : Denotes s (n / 10 ^ 7) ↔ toStroops s = .ok n := by
  unfold Denotes
  rw [toStroops_eq_ok]
  exact exists_congr fun x => and_congr_right fun _ => x.value_eq_iff n

theorem toStroops_fromStroops (n : ℕ) : toStroops (fromStroops n) = .ok n := by
  rw [toStroops_text (fromStroops_eq n), Fixed.units_ofUnits]

theorem denotes_fromStroops (n : ℕ) : Denotes (fromStroops n) (n / 10 ^ 7) := denotes_iff.mpr (toStroops_fromStroops n)

/-- No zero that does not count. -/
def Normal (s : String) : Prop := ∃ x : Fixed 7, s.toList = x.text ∧ x.Canonical

theorem normal_fromStroops (n : ℕ) : Normal (fromStroops n) := ⟨_, fromStroops_eq n, Fixed.canonical_ofUnits 7 n⟩

/-- `fromStroops` after `toStroops`. -/
def normalize (s : String) : Except Thrown String := (toStroops s).map fromStroops

theorem stroops_inverse : (∀ n, amountRegex (fromStroops n) = true ∧ toStroops (fromStroops n) = .ok n) ∧
    ∀ s, amountRegex s = true → ∃ t, normalize s = .ok t ∧ (∃ q, Denotes s q ∧ Denotes t q) ∧ Normal t ∧
      normalize t = .ok t := by
  refine ⟨fun n => ⟨amountRegex_iff.mpr ⟨_, fromStroops_eq n⟩, toStroops_fromStroops n⟩, fun s hs => ?_⟩
  obtain ⟨x, hx⟩ := amountRegex_iff.mp hs
  have hread : toStroops s = .ok x.units := toStroops_text hx
  refine ⟨fromStroops x.units, ?_, ⟨x.value, ⟨x, hx, rfl⟩, ?_⟩, normal_fromStroops _, ?_⟩
  · rw [normalize, hread]
    rfl
  · rw [x.value_eq]
    exact denotes_fromStroops x.units
  · rw [normalize, toStroops_fromStroops]
    rfl

theorem stroops_inverse_zeros : (amountRegex (fromStroops 75000000) = true ∧
      toStroops (fromStroops 75000000) = .ok 75000000) ∧
    ∃ t, normalize "007.50" = .ok t ∧ (∃ q, Denotes "007.50" q ∧ Denotes t q) ∧ Normal t ∧ normalize t = .ok t :=
  ⟨stroops_inverse.1 75000000, stroops_inverse.2 "007.50" (by decide)⟩

example : fromStroops 75000000 = "7.5" := by decide

end IKash
