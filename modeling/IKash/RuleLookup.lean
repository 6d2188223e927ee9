import IKash.Lib.WrittenKeys
import IKash.Iban
import Mathlib.Data.List.DropRight

/-!
# Which rule applies

The service keeps its rules under one text for each key. Over it stands the history of the registrations, with keys of
three normalised fields (`RuleKey`), and the rule that a provider should be given (`mostSpecific`).

- `Json.toUpperCase_idem`, `normalizeCountryCode_idem`: normalising again changes nothing;
- `RuleKey.text_inj`: keys without a colon have different texts;
- `isValid_registerAll`: the rule that is applied is the most specific one, the latest for its key; a provider without a
  type gets the default rule.
-/

namespace IKash

open Lib

/-! ## Texts that are normalised already -/

namespace Json

/-- Upper case of a character: its own letter, or what the table has. -/
theorem mem_upperChar {c d : Char} (h : d ∈ upperChar c) :
    c.toNat < 128 ∧ d = c.toUpper ∨ 128 ≤ c.toNat ∧ d.toNat ∈ UpperCase.upper c.toNat := by
  unfold upperChar at h
  split at h
  · rename_i hc
    exact Or.inl ⟨hc, List.mem_singleton.mp h⟩
  · rename_i hc
    obtain ⟨m, hm, rfl⟩ := List.mem_map.mp h
    have hvalid : m.isValidChar := UpperCase.upper_isValidChar c.valid hm
    have hchar : (Char.ofNat m).toNat = m := by
      rw [Char.ofNat, dif_pos hvalid]
      rfl
    rw [hchar]
    exact Or.inr ⟨Nat.not_lt.mp hc, hm⟩

theorem toUpper_not_lower {c : Char} (h : c.isLower = false) : c.toUpper = c := by
  unfold Char.toUpper
  refine dif_neg fun hlow => Bool.eq_false_iff.mp h (isLower_iff.mpr ?_)
  exact ⟨UInt32.le_iff_toNat_le.mp hlow.1, UInt32.le_iff_toNat_le.mp hlow.2⟩

theorem upperChar_ne_nil (c : Char) : upperChar c ≠ [] := by
  unfold upperChar
  split
  · exact List.cons_ne_nil _ _
  · exact fun h => UpperCase.upper_ne_nil _ (List.map_eq_nil_iff.mp h)

/-- The row of the ASCII letters. -/
theorem mem_table_ascii : (⟨97, 122, 1, [65]⟩ : UpperCase.Row) ∈ UpperCase.table := List.mem_cons_self

theorem isLower_upper {n : ℕ} {d : Char} (hn : 128 ≤ n) (hd : d.toNat ∈ UpperCase.upper n) : d.isLower = false := by
  rw [Bool.eq_false_iff]
  intro hlower
  have hrange := isLower_iff.mp hlower
  rcases UpperCase.not_covers_upper (fun e he => UpperCase.clearOf_table _ mem_table_ascii e he) hd with h | h
  · omega
  · unfold UpperCase.Row.covers at h
    simp [hrange, Nat.mod_one] at h

theorem isAlphanumeric_upper {c : Char} (h : c.isUpper = true) : isAlphanumeric c = true :=
  Bool.or_eq_true_iff.mpr (Or.inl (isAlpha_iff.mpr (Or.inl h)))

theorem upperChar_idem {c d : Char} (h : d ∈ upperChar c) : upperChar d = [d] := by
  rcases mem_upperChar h with ⟨hc, rfl⟩ | ⟨hc, hd⟩
  · by_cases hlower : c.isLower = true
    · have hupper := isUpper_toUpper (isAlpha_iff.mpr (Or.inr hlower))
      rw [upperChar_alphanumeric (isAlphanumeric_upper hupper), toUpper_upper (Bool.or_eq_true_iff.mpr (Or.inl hupper))]
    · rw [toUpper_not_lower (Bool.eq_false_iff.mpr hlower)]
      unfold upperChar
      rw [if_pos hc, toUpper_not_lower (Bool.eq_false_iff.mpr hlower)]
  · unfold upperChar
    split
    · rw [toUpper_not_lower (isLower_upper hc hd)]
    · rw [UpperCase.upper_idem hd, List.map_singleton, Char.ofNat_toNat]

/-- Blanks and the separator of keys. -/
def blanks : List UpperCase.Row := [⟨9, 13, 1, []⟩, ⟨32, 32, 2, []⟩, ⟨58, 58, 2, []⟩, ⟨0xA0, 0xA0, 2, []⟩,
  ⟨0x1680, 0x1680, 2, []⟩, ⟨0x2000, 0x200A, 1, []⟩, ⟨0x2028, 0x2029, 1, []⟩, ⟨0x202F, 0x202F, 2, []⟩,
  ⟨0x205F, 0x205F, 2, []⟩, ⟨0x3000, 0x3000, 2, []⟩, ⟨0xFEFF, 0xFEFF, 2, []⟩]

theorem clearOf_blanks : (blanks.all fun r => UpperCase.table.all fun e => e.clearOf r) = true := by decide +kernel

theorem blanks_cover : (whitespace.all fun d => blanks.any fun r => r.covers d.toNat) = true := by decide

theorem exists_blank {d : Char} (h : isWhitespace d = true ∨ d = ':') : ∃ r ∈ blanks, r.covers d.toNat = true := by
  rcases h with h | rfl
  · unfold isWhitespace at h
    rcases of_decide_eq_true h with hmem | ⟨hlow, hhigh⟩
    · exact List.any_eq_true.mp (List.all_eq_true.mp blanks_cover d hmem)
    · have h₁ : 0x2000 ≤ d.toNat := UInt32.le_iff_toNat_le.mp hlow
      have h₂ : d.toNat ≤ 0x200A := UInt32.le_iff_toNat_le.mp hhigh
      refine ⟨⟨0x2000, 0x200A, 1, []⟩, by simp [blanks], ?_⟩
      simp [UpperCase.Row.covers, h₁, h₂, Nat.mod_one]
  · exact ⟨⟨58, 58, 2, []⟩, by simp [blanks], rfl⟩

/-- A blank or a colon comes from itself. -/
theorem eq_of_mem_upperChar {c d : Char} (h : d ∈ upperChar c) (hd : isWhitespace d = true ∨ d = ':') : c = d := by
  rcases mem_upperChar h with ⟨hc, rfl⟩ | ⟨hc, hupper⟩
  · by_cases hlower : c.isLower = true
    · have hletter := isUpper_toUpper (isAlpha_iff.mpr (Or.inr hlower))
      rcases hd with hblank | hcolon
      · rw [isWhitespace_alphanumeric (isAlphanumeric_upper hletter)] at hblank
        cases hblank
      · rw [hcolon] at hletter
        cases hletter
    · exact (toUpper_not_lower (Bool.eq_false_iff.mpr hlower)).symm
  · obtain ⟨r, hr, hcovers⟩ := exists_blank hd
    have hclear := List.all_eq_true.mp (List.all_eq_true.mp clearOf_blanks r hr)
    rcases UpperCase.not_covers_upper hclear hupper with hsame | hnot
    · exact (Char.toNat_inj.mp hsame).symm
    · rw [hcovers] at hnot
      cases hnot

theorem toList_toUpperCase (s : String) : (toUpperCase s).toList = s.toList.flatMap upperChar := String.toList_ofList

theorem toUpperCase_idem (s : String) : toUpperCase (toUpperCase s) = toUpperCase s := by
  rw [← String.toList_inj, toList_toUpperCase, toList_toUpperCase, List.flatMap_assoc]
  refine List.flatMap_congr fun c _ => ?_
  rw [List.flatMap_congr fun d hd => upperChar_idem hd]
  exact List.flatMap_singleton' _

/-- No blank at either end. -/
def Trimmed (cs : List Char) : Prop :=
  (∀ c ∈ cs.head?, isWhitespace c = false) ∧ ∀ c ∈ cs.getLast?, isWhitespace c = false

theorem toList_trim (s : String) : (trim s).toList = (s.toList.dropWhile isWhitespace).rdropWhile isWhitespace :=
  String.toList_ofList

theorem trimmed_trim (s : String) : Trimmed (trim s).toList := by
  rw [toList_trim]
  constructor
  · intro c hc
    have hdrop := List.head?_dropWhile_not isWhitespace s.toList
    obtain ⟨rest, hrest⟩ := List.head?_eq_some_iff.mp hc
    obtain ⟨blanks, hblanks⟩ := List.rdropWhile_prefix (p := isWhitespace) (l := s.toList.dropWhile isWhitespace)
    rw [← hblanks, hrest] at hdrop
    exact Bool.not_eq_true (isWhitespace c) |>.mp (by simpa using hdrop)
  · intro c hc
    obtain ⟨hne, rfl⟩ := List.mem_getLast?_eq_getLast hc
    exact Bool.eq_false_iff.mpr (List.rdropWhile_last_not _ _ hne)

theorem trim_of_trimmed {s : String} (h : Trimmed s.toList) : trim s = s := by
  rw [← String.toList_inj, toList_trim]
  have hdrop : s.toList.dropWhile isWhitespace = s.toList := by
    cases hs : s.toList with
    | nil => rfl
    | cons c cs => exact List.dropWhile_cons_of_neg (Bool.eq_false_iff.mp (h.1 c (by rw [hs]; rfl)))
  rw [hdrop, List.rdropWhile_eq_self_iff]
  exact fun hne => Bool.eq_false_iff.mp (h.2 _ (List.getLast?_eq_some_getLast hne))

theorem trim_idem (s : String) : trim (trim s) = trim s := trim_of_trimmed (trimmed_trim s)

theorem isWhitespace_of_mem_upperChar {c d : Char} (h : d ∈ upperChar c) (hc : isWhitespace c = false) :
    isWhitespace d = false := by
  rw [Bool.eq_false_iff]
  intro hd
  rw [eq_of_mem_upperChar h (Or.inl hd), hd] at hc
  cases hc

theorem Trimmed.upper {cs : List Char} (h : Trimmed cs) : Trimmed (cs.flatMap upperChar) := by
  constructor
  · intro d hd
    cases cs with
    | nil => cases hd
    | cons c rest =>
      rw [List.flatMap_cons, List.head?_append_of_ne_nil _ (upperChar_ne_nil c)] at hd
      exact isWhitespace_of_mem_upperChar (List.mem_of_mem_head? hd) (h.1 c rfl)
  · intro d hd
    rcases List.eq_nil_or_concat cs with rfl | ⟨init, c, rfl⟩
    · cases hd
    · rw [List.concat_eq_append, List.flatMap_append, List.flatMap_singleton,
        List.getLast?_append_of_ne_nil _ (upperChar_ne_nil c)] at hd
      exact isWhitespace_of_mem_upperChar (List.mem_of_mem_getLast? hd) (h.2 c (by simp))

/-- A text that was trimmed and put in upper case is trimmed. -/
theorem trim_toUpperCase_trim (s : String) : trim (toUpperCase (trim s)) = toUpperCase (trim s) :=
  trim_of_trimmed (by rw [toList_toUpperCase]; exact (trimmed_trim s).upper)

theorem colon_toUpperCase_trim {s : String} (h : ':' ∉ s.toList) : ':' ∉ (toUpperCase (trim s)).toList := by
  rw [toList_toUpperCase, toList_trim, List.mem_flatMap]
  rintro ⟨c, hc, hcolon⟩
  obtain rfl := eq_of_mem_upperChar hcolon (Or.inr rfl)
  exact h ((List.dropWhile_sublist _).subset ((List.rdropWhile_prefix _ _).subset hc))

end Json

theorem normalizeType_trim (type : String) : normalizeType (Json.trim type) = normalizeType type := by
  unfold normalizeType
  rw [Json.trim_idem]

theorem normalizeCountryCode_global : normalizeCountryCode (some globalCountry) = globalCountry := by decide

theorem normalizeCountryCode_getD (countryCode : Option String) :
    normalizeCountryCode (some (countryCode.getD "")) = normalizeCountryCode countryCode := by
  unfold normalizeCountryCode
  rw [Option.getD_some]

theorem normalizeCountryCode_upper (s : String) :
    normalizeCountryCode (some (Json.toUpperCase (Json.trim s))) = normalizeCountryCode (some s) := by
  unfold normalizeCountryCode
  rw [Option.getD_some, Option.getD_some, Json.trim_toUpperCase_trim, Json.toUpperCase_idem]

theorem normalizeCountryCode_cases (countryCode : Option String) : normalizeCountryCode countryCode = globalCountry ∨
    normalizeCountryCode countryCode = Json.toUpperCase (Json.trim (countryCode.getD "")) := by
  unfold normalizeCountryCode
  dsimp only
  split
  · exact Or.inl rfl
  · exact Or.inr rfl

theorem normalizeCountryCode_idem (countryCode : Option String) :
    normalizeCountryCode (some (normalizeCountryCode countryCode)) = normalizeCountryCode countryCode := by
  rcases normalizeCountryCode_cases countryCode with h | h
  · rw [h, normalizeCountryCode_global]
  · calc normalizeCountryCode (some (normalizeCountryCode countryCode))
        = normalizeCountryCode (some (countryCode.getD "")) := by rw [h, normalizeCountryCode_upper]
      _ = normalizeCountryCode countryCode := normalizeCountryCode_getD countryCode

/-! ## Keys and histories -/

/-- A key with its fields normalised. -/
structure RuleKey where
  type : String
  countryCode : String
  code : Option String := none
deriving DecidableEq, Repr

namespace RuleKey

/-- What the service keeps a rule under. -/
def text (k : RuleKey) : String := k.type ++ ":" ++ k.countryCode ++ k.code.elim "" (":" ++ ·)

section Texts

variable {type countryCode code type' countryCode' code' : String}

theorem text_none : text ⟨type, countryCode, none⟩ = type ++ ":" ++ countryCode := String.append_empty

theorem text_some : text ⟨type, countryCode, some code⟩ = type ++ ":" ++ countryCode ++ ":" ++ code := by
  unfold text
  rw [Option.elim_some, ← String.append_assoc]

structure ColonFree (k : RuleKey) : Prop where
  type : ':' ∉ k.type.toList
  countryCode : ':' ∉ k.countryCode.toList
  code : ∀ c ∈ k.code, ':' ∉ c.toList

theorem ColonFree.of_fields {code : Option String} (h : ':' ∉ type.toList) (h' : ':' ∉ countryCode.toList)
    (hcode : ∀ c ∈ code, ':' ∉ c.toList) : ColonFree ⟨type, countryCode, code⟩ := ⟨h, h', hcode⟩

/-- A text of two fields is none of three. -/
theorem text_none_ne_some (h : ColonFree ⟨type, countryCode, none⟩) (hcode : ':' ∉ code.toList) :
    text ⟨type, countryCode, none⟩ ≠ text ⟨type', countryCode', some code⟩ := by
  rw [text_none, text_some]
  intro heq
  have htype := h.type
  rw [((text_sep_inj h.countryCode hcode).mp heq).1, String.toList_append, String.toList_append] at htype
  exact htype (List.mem_append_left _ (List.mem_append_right _ (List.mem_singleton_self _)))

/-- **Texts of keys.** Keys without a colon have different texts. -/
theorem text_inj {k k' : RuleKey} (h : k.ColonFree) (h' : k'.ColonFree) (heq : k.text = k'.text) : k = k' := by
  obtain ⟨type, countryCode, _ | code⟩ := k <;> obtain ⟨type', countryCode', _ | code'⟩ := k'
  · rw [text_none, text_none] at heq
    obtain ⟨rfl, rfl⟩ := (text_sep_inj h.countryCode h'.countryCode).mp heq
    rfl
  · exact absurd heq (text_none_ne_some h (h'.code _ rfl))
  · exact absurd heq.symm (text_none_ne_some h' (h.code _ rfl))
  · rw [text_some, text_some] at heq
    obtain ⟨hfields, rfl⟩ := (text_sep_inj (h.code _ rfl) (h'.code _ rfl)).mp heq
    obtain ⟨rfl, rfl⟩ := (text_sep_inj h.countryCode h'.countryCode).mp hfields
    rfl

end Texts

end RuleKey

/-- The key of a registration. -/
def ProviderValidationKey.ruleKey (key : ProviderValidationKey) : RuleKey where
  type := normalizeType key.type
  countryCode := normalizeCountryCode (some key.countryCode)
  code := normalizeCode key.code

structure ProviderValidationKey.ColonFree (key : ProviderValidationKey) : Prop where
  type : ':' ∉ key.type.toList
  countryCode : ':' ∉ key.countryCode.toList
  code : ∀ c ∈ key.code, ':' ∉ c.toList

instance (key : ProviderValidationKey) : Decidable key.ColonFree :=
  decidable_of_iff (':' ∉ key.type.toList ∧ ':' ∉ key.countryCode.toList ∧ ∀ c ∈ key.code, ':' ∉ c.toList)
    ⟨fun ⟨h, h', h''⟩ => ⟨h, h', h''⟩, fun ⟨h, h', h''⟩ => ⟨h, h', h''⟩⟩

structure PaymentProviderInfo.ColonFree (provider : PaymentProviderInfo) : Prop where
  type : ∀ t ∈ provider.type, ':' ∉ t.toList
  countryCode : ∀ c ∈ provider.countryCode, ':' ∉ c.toList
  code : ∀ c ∈ provider.code, ':' ∉ c.toList

abbrev Registration := ProviderValidationKey × AccountIdentifierValidator

/-- The rule that was registered last for a key. -/
def lastRule (history : List Registration) (k : RuleKey) : Option AccountIdentifierValidator :=
  lastEntry (history.map fun r => (r.1.ruleKey, r.2)) k

/-- The rule that a provider should be given: the one for its type, country and code, else for its type and country, else
for its type alone. -/
def mostSpecific (history : List Registration) (provider : PaymentProviderInfo) : Option AccountIdentifierValidator :=
  let type := normalizeType (provider.type.getD "")
  let countryCode := normalizeCountryCode provider.countryCode
  (lastRule history ⟨type, countryCode, normalizeCode provider.code⟩).or
    ((lastRule history ⟨type, countryCode, none⟩).or (lastRule history ⟨type, globalCountry, none⟩))

/-- A provider is given the rule that was registered for its own key last. -/
theorem mostSpecific_concat {history : List Registration} {r : Registration} {provider : PaymentProviderInfo}
    (h : r.1.ruleKey = ⟨normalizeType (provider.type.getD ""), normalizeCountryCode provider.countryCode,
      normalizeCode provider.code⟩) : mostSpecific (history ++ [r]) provider = some r.2 := by
  unfold mostSpecific lastRule
  dsimp only
  rw [List.map_append, List.map_singleton, ← h, lastEntry_concat, if_pos rfl, Option.some_or]

section Colons

theorem colon_getD {s : Option String} (h : ∀ c ∈ s, ':' ∉ c.toList) : ':' ∉ (s.getD "").toList := by
  cases s with
  | none => decide
  | some c => exact h c rfl

theorem colon_normalizeCountryCode {s : Option String} (h : ∀ c ∈ s, ':' ∉ c.toList) :
    ':' ∉ (normalizeCountryCode s).toList := by
  rcases normalizeCountryCode_cases s with hcode | hcode
  · rw [hcode]
    decide
  · rw [hcode]
    exact Json.colon_toUpperCase_trim (colon_getD h)

theorem colon_normalizeCode {s : Option String} (h : ∀ c ∈ s, ':' ∉ c.toList) :
    ∀ c ∈ normalizeCode s, ':' ∉ c.toList := by
  unfold normalizeCode
  dsimp only
  split
  · exact fun c hc => nomatch hc
  · intro c hc
    rw [← Option.mem_some_iff.mp hc]
    exact Json.colon_toUpperCase_trim (colon_getD h)

theorem colon_normalizeType {s : String} (h : ':' ∉ s.toList) : ':' ∉ (normalizeType s).toList := by
  unfold normalizeType
  exact Json.colon_toUpperCase_trim h

theorem ProviderValidationKey.ColonFree.ruleKey {key : ProviderValidationKey} (h : key.ColonFree) :
    key.ruleKey.ColonFree := by
  have hcountry : ∀ c ∈ some key.countryCode, ':' ∉ c.toList := by
    intro c hc
    rw [← Option.mem_some_iff.mp hc]
    exact h.countryCode
  exact .of_fields (colon_normalizeType h.type) (colon_normalizeCountryCode hcountry) (colon_normalizeCode h.code)

end Colons

namespace PaymentMethodValidatorService

/-- The registrations, one after the other. -/
def registerAll (s : PaymentMethodValidatorService) (history : List Registration) : PaymentMethodValidatorService :=
  history.foldl (fun s r => s.registerValidator r.1 r.2) s

/-- The service after its construction. -/
def constructed : PaymentMethodValidatorService := registerAll {} constructorRules

theorem ruleKey_text (key : ProviderValidationKey) :
    toMapKey key.type key.countryCode (normalizeCode key.code) = key.ruleKey.text := by
  unfold toMapKey RuleKey.text ProviderValidationKey.ruleKey
  dsimp only

theorem registerValidator_validators (s : PaymentMethodValidatorService) (r : Registration) :
    (s.registerValidator r.1 r.2).validators = (r.1.ruleKey.text, r.2) :: s.validators := by
  unfold registerValidator
  rw [ruleKey_text]

theorem registerAll_validators (s : PaymentMethodValidatorService) (history : List Registration) :
    (s.registerAll history).validators = (history.reverse.map fun r => (r.1.ruleKey.text, r.2)) ++ s.validators := by
  induction history generalizing s with
  | nil => rfl
  | cons r history ih =>
    rw [List.reverse_cons, List.map_append, List.append_assoc]
    refine (ih (s.registerValidator r.1 r.2)).trans ?_
    rw [registerValidator_validators]
    rfl

theorem constructorRules_colonFree : ∀ r ∈ constructorRules, r.1.ColonFree := by decide

section Lookup

variable {history : List Registration} {provider : PaymentProviderInfo}

/-- The table of the service finds the rule that was registered last. -/
theorem lookup_registerAll (hfree : ∀ r ∈ history, r.1.ColonFree) {k : RuleKey} (hk : k.ColonFree) :
    (registerAll {} history).validators.lookup k.text = lastRule history k := by
  unfold lastRule
  rw [registerAll_validators, ← lookup_written RuleKey.text, ← List.map_reverse, List.map_map]
  · exact congrArg _ (List.append_nil _)
  · intro e he heq
    obtain ⟨r, hr, rfl⟩ := List.mem_map.mp he
    exact RuleKey.text_inj (hfree r hr).ruleKey hk heq

theorem toMapKey_eq (type : String) (countryCode code : Option String) :
    toMapKey (Json.trim type) (normalizeCountryCode countryCode) code =
      RuleKey.text ⟨normalizeType type, normalizeCountryCode countryCode, code⟩ := by
  unfold toMapKey RuleKey.text
  rw [normalizeType_trim, normalizeCountryCode_idem]

theorem trim_getD (type : Option String) : (type.map Json.trim).getD "" = Json.trim (type.getD "") := by
  cases type with
  | none => decide
  | some t => rfl

/-- The rule that is found for a provider with a type. -/
theorem resolveValidator_registerAll (hfree : ∀ r ∈ history, r.1.ColonFree) (hprovider : provider.ColonFree)
    (htype : Json.trim (provider.type.getD "") ≠ "") :
    (registerAll {} history).resolveValidator provider = mostSpecific history provider := by
  have hlookup : ∀ countryCode code, (∀ c ∈ countryCode, ':' ∉ c.toList) → (∀ c ∈ code, ':' ∉ c.toList) →
      (registerAll {} history).validators.lookup
        (toMapKey (Json.trim (provider.type.getD "")) (normalizeCountryCode countryCode) code) =
      lastRule history ⟨normalizeType (provider.type.getD ""), normalizeCountryCode countryCode, code⟩ := by
    intro countryCode code hcountry hcode
    rw [toMapKey_eq]
    exact lookup_registerAll hfree (.of_fields (colon_normalizeType (colon_getD hprovider.type))
      (colon_normalizeCountryCode hcountry) hcode)
  have hcolon := hprovider.countryCode
  have hcode := colon_normalizeCode hprovider.code
  have hcolonGlobal : ∀ c ∈ some globalCountry, ':' ∉ c.toList := by decide
  have hnone : ∀ c ∈ (none : Option String), ':' ∉ c.toList := by decide
  have hglobal := hlookup (some globalCountry) none hcolonGlobal hnone
  rw [normalizeCountryCode_global] at hglobal
  unfold resolveValidator mostSpecific
  dsimp only
  rw [trim_getD, if_neg htype, hlookup _ none hcolon hnone, hglobal]
  cases hc : normalizeCode provider.code with
  | none =>
    rw [Option.bind_none, Option.none_or, ← Option.or_assoc, Option.or_self]
  | some code =>
    rw [Option.bind_some, hlookup _ (some code) hcolon (by rw [← hc]; exact hcode)]

end Lookup

/-- **Rule lookup.** After its construction and any further registrations, the service applies to a provider with a type
the rule registered last for its type, country and code, else for its type and country, else for its type alone, else the
default rule; a provider without a type gets the default rule. -/
theorem isValid_registerAll {history : List Registration} (hfree : ∀ r ∈ history, r.1.ColonFree)
    {provider : PaymentProviderInfo} (hprovider : provider.ColonFree) (accountIdentifier : String) :
    (constructed.registerAll history).isValid provider accountIdentifier =
      if Json.trim (provider.type.getD "") = "" then defaultValidator accountIdentifier
      else (mostSpecific (constructorRules ++ history) provider).getD defaultValidator accountIdentifier := by
  have hall : ∀ r ∈ constructorRules ++ history, r.1.ColonFree := fun r hr =>
    (List.mem_append.mp hr).elim (constructorRules_colonFree r) (hfree r)
  have hservice : constructed.registerAll history = registerAll {} (constructorRules ++ history) :=
    List.foldl_append.symm
  unfold isValid
  rw [hservice]
  split
  · rename_i htype
    unfold resolveValidator
    dsimp only
    rw [trim_getD, if_pos htype]
    rfl
  · rename_i htype
    rw [resolveValidator_registerAll hall hprovider htype]

/-- The rule of an institution, registered in lower case. -/
def institutionRule : Registration := (⟨"bank", "mx", some "bbva"⟩, fun value => value = "bbva-1")

def institution : PaymentProviderInfo := ⟨some "BANK ", some "MX", some "BBVA"⟩

theorem institutionRule_key : institutionRule.1.ruleKey = ⟨normalizeType (institution.type.getD ""),
    normalizeCountryCode institution.countryCode, normalizeCode institution.code⟩ :=
  RuleKey.mk.injEq .. |>.mpr ⟨by decide, by decide, by decide⟩

/-- The institution is given its own rule. -/
theorem isValid_registerAll_institution :
    (constructed.registerAll [institutionRule]).isValid institution "bbva-1" = true := by
  have hrules : ∀ r ∈ [institutionRule], r.1.ColonFree := by decide
  have hprovider : institution.ColonFree := ⟨by decide, by decide, by decide⟩
  rw [isValid_registerAll hrules hprovider, if_neg (by decide), mostSpecific_concat institutionRule_key]
  rfl

/-- A rule for providers without a type would be the most specific one, and is not looked for. -/
theorem blankType_default :
    (⟨"", "CR", none⟩ : ProviderValidationKey).ColonFree ∧
    mostSpecific (constructorRules ++ [(⟨"", "CR", none⟩, fun _ => false)]) ⟨some "", some "CR", none⟩ =
      some (fun _ => false) ∧
    (constructed.registerAll [(⟨"", "CR", none⟩, fun _ => false)]).isValid ⟨some "", some "CR", none⟩ "1" = true :=
  ⟨by decide, mostSpecific_concat rfl, by decide⟩

end PaymentMethodValidatorService

end IKash
