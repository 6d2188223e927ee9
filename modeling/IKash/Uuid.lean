import IKash.Json

/-!
# Identifiers

The ids are columns of type `uuid`. PostgreSQL reads one text in many spellings and stores the id that they stand for;
a text that is no UUID is refused.

- `uuid?_of_uuid?`, `uuid_uuid`: the stored form of an id is read as that id;
- `isUuid_uuid`: and it is one.
-/

namespace IKash

/-- `n` groups of four hexadecimal digits, with or without a hyphen between two of them; the digits in lower case. -/
def hexGroups : ℕ → List Char → Option (List Char)
  | 0, [] => some []
  | n + 1, a :: b :: c :: d :: cs =>
    if [a, b, c, d].all Json.isHexDigit then
      (hexGroups n (if n ≠ 0 ∧ cs.head? = some '-' then cs.tail else cs)).map ([a, b, c, d].map Char.toLower ++ ·)
    else none
  | _, _ => none

/-- The digits as PostgreSQL writes them. -/
def hyphenated (ds : List Char) : String :=
  String.ofList (ds.take 8 ++ '-' :: (ds.drop 8).take 4 ++ '-' :: (ds.drop 12).take 4 ++ '-' :: (ds.drop 16).take 4 ++
    '-' :: ds.drop 20)

/-- A text as the input of a `uuid` column: PostgreSQL takes digits of either case, a hyphen or none after every group
of four, and braces around them. -/
def uuid? (s : String) : Option String :=
  match s.toList with
  | '\x7b' :: cs => if cs.getLast? = some '\x7d' then (hexGroups 8 cs.dropLast).map hyphenated else none
  | cs => (hexGroups 8 cs).map hyphenated

def isUuid (s : String) : Bool := (uuid? s).isSome

/-- The id that a text stands for; a text that is no UUID stands for itself. -/
def uuid (s : String) : String := (uuid? s).getD s

/-! ## The stored form -/

theorem length_hexGroups : ∀ {n : ℕ} {cs ds : List Char}, hexGroups n cs = some ds → ds.length = 4 * n
  | 0, [], ds, h => by
    cases h
    rfl
  | n + 1, a :: b :: c :: d :: cs, ds, h => by
    rw [hexGroups] at h
    split at h
    · obtain ⟨rest, hrest, rfl⟩ := Option.map_eq_some_iff.mp h
      rw [List.length_append, length_hexGroups hrest]
      simp only [List.length_map, List.length_cons, List.length_nil]
      omega
    · cases h

/-- A hexadecimal digit in lower case. -/
def isLowerHex (c : Char) : Bool := c.isDigit || ('a' ≤ c && c ≤ 'f')

theorem hexDigit_lower {c : Char} (h : Json.isHexDigit c = true) :
    isLowerHex c.toLower = true ∧ (isLowerHex c = true → c.toLower = c) := by
  have hall : ∀ n < 103, Json.isHexDigit (Char.ofNat n) = true → isLowerHex (Char.ofNat n).toLower = true ∧
      (isLowerHex (Char.ofNat n) = true → (Char.ofNat n).toLower = Char.ofNat n) := by decide
  have hlt : c.toNat < 103 := by
    simp only [Json.isHexDigit, Char.isDigit, Bool.or_eq_true, Bool.and_eq_true, decide_eq_true_eq] at h
    rcases h with (⟨-, hle⟩ | ⟨-, hle⟩) | ⟨-, hle⟩
    all_goals
      have := UInt32.le_iff_toNat_le.mp hle
      exact Nat.lt_of_le_of_lt this (by decide)
  have hc := hall c.toNat hlt
  rw [Char.ofNat_toNat] at hc
  exact hc h

theorem isHexDigit_of_lower {c : Char} (h : isLowerHex c = true) : Json.isHexDigit c = true := by
  unfold Json.isHexDigit
  rw [show (c.isDigit || ('a' ≤ c && c ≤ 'f')) = true from h, Bool.true_or]

theorem mem_hexGroups : ∀ {n : ℕ} {cs ds : List Char}, hexGroups n cs = some ds → ∀ d ∈ ds, isLowerHex d = true
  | 0, [], ds, h => by
    cases h
    exact fun d hd => absurd hd List.not_mem_nil
  | n + 1, a :: b :: c :: d :: cs, ds, h => by
    rw [hexGroups] at h
    split at h
    · rename_i hhex
      obtain ⟨rest, hrest, rfl⟩ := Option.map_eq_some_iff.mp h
      intro x hx
      rcases List.mem_append.mp hx with hx | hx
      · obtain ⟨y, hy, rfl⟩ := List.mem_map.mp hx
        exact (hexDigit_lower (List.all_eq_true.mp hhex y hy)).1
      · exact mem_hexGroups hrest x hx
    · cases h

theorem hexGroups_lower {a b c d : Char} (h : ∀ x ∈ [a, b, c, d], isLowerHex x = true) (n : ℕ) (cs : List Char) :
    hexGroups (n + 1) (a :: b :: c :: d :: cs) =
      (hexGroups n (if n ≠ 0 ∧ cs.head? = some '-' then cs.tail else cs)).map ([a, b, c, d] ++ ·) := by
  have hhex : [a, b, c, d].all Json.isHexDigit = true :=
    List.all_eq_true.mpr fun x hx => isHexDigit_of_lower (h x hx)
  have hsame : [a, b, c, d].map Char.toLower = [a, b, c, d] := by
    rw [List.map_congr_left fun x hx => (hexDigit_lower (isHexDigit_of_lower (h x hx))).2 (h x hx), List.map_id']
  rw [hexGroups, if_pos hhex, hsame]

theorem isHexDigit_of_hexGroups {n : ℕ} {a : Char} {cs ds : List Char} (h : hexGroups (n + 1) (a :: cs) = some ds) :
    Json.isHexDigit a = true := by
  match cs, h with
  | b :: c :: d :: cs, h =>
    rw [hexGroups] at h
    split at h
    · rename_i hhex
      exact List.all_eq_true.mp hhex a List.mem_cons_self
    · cases h

theorem hexGroups_hyphenated {ds : List Char} (hlength : ds.length = 32) (h : ∀ d ∈ ds, isLowerHex d = true) :
    hexGroups 8 (hyphenated ds).toList = some ds := by
  have hne : ∀ d ∈ ds, d ≠ '-' := by
    rintro _ hd rfl
    exact absurd (h _ hd) (by decide)
  match ds, hlength with
  | [a₁, a₂, a₃, a₄, b₁, b₂, b₃, b₄, c₁, c₂, c₃, c₄, d₁, d₂, d₃, d₄, e₁, e₂, e₃, e₄, f₁, f₂, f₃, f₄, g₁, g₂, g₃, g₄,
      h₁, h₂, h₃, h₄], _ =>
    simp only [List.forall_mem_cons] at h hne
    simp [hyphenated, hexGroups_lower, h, hne, hexGroups]

/-- **A stored id** is read as itself. -/
theorem uuid?_of_uuid? {s k : String} (h : uuid? s = some k) : uuid? k = some k := by
  obtain ⟨cs, ds, hds, rfl⟩ : ∃ cs ds, hexGroups 8 cs = some ds ∧ hyphenated ds = k := by
    unfold uuid? at h
    split at h
    · split at h
      · obtain ⟨ds, hds, hk⟩ := Option.map_eq_some_iff.mp h
        exact ⟨_, ds, hds, hk⟩
      · cases h
    · obtain ⟨ds, hds, hk⟩ := Option.map_eq_some_iff.mp h
      exact ⟨_, ds, hds, hk⟩
  have hread := hexGroups_hyphenated (length_hexGroups hds) (mem_hexGroups hds)
  unfold uuid?
  split
  · rename_i rest hbrace
    rw [hbrace] at hread
    exact absurd (isHexDigit_of_hexGroups hread) (by decide)
  · rw [hread, Option.map_some]

theorem isUuid_uuid (s : String) : isUuid (uuid s) = isUuid s := by
  unfold uuid
  cases h : uuid? s with
  | none => rfl
  | some k =>
    unfold isUuid
    rw [Option.getD_some, uuid?_of_uuid? h, h]

theorem uuid_uuid (s : String) : uuid (uuid s) = uuid s := by
  cases h : uuid? s with
  | none =>
    have hsame : uuid s = s := by
      unfold uuid
      rw [h, Option.getD_none]
    rw [hsame, hsame]
  | some k =>
    have hk : uuid s = k := by
      unfold uuid
      rw [h, Option.getD_some]
    rw [hk]
    unfold uuid
    rw [uuid?_of_uuid? h, Option.getD_some]

/-- A text that no column of ids takes stands for itself. -/
theorem uuid_of_not_isUuid {s : String} (h : isUuid s = false) : uuid s = s := by
  unfold uuid
  have hnone : uuid? s = none := Option.isSome_eq_false_iff.mp h |> Option.isNone_iff_eq_none.mp
  rw [hnone, Option.getD_none]

end IKash
