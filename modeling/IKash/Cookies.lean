import IKash.Kyc
import IKash.RuleLookup
import IKash.Lib.Percent

/-!
# Cookies

`parseCookies`, which reads the `Cookie` header of a request. The client sends `name=value; name=value`, and a value that
the server set is the `encodeURIComponent` of a text.

- `parsePair_text`: what one pair of the header gives;
- `parseCookies_header`: what the header gives, pair by pair;
- `parseCookies_encoded`: the names and the texts that were set are read back.
-/

namespace IKash

open Lib

def decodeURIComponent (s : String) : Option String := (Percent.decode s.toList).map String.ofList

def encodeURIComponent (s : String) : String := String.ofList (Percent.encode s.toList)

/-- One pair of the header. A value that cannot be decoded is taken as it is. -/
def parsePair (pair : List Char) : Option (String × String) :=
  let idx := pair.idxOf '='
  if 0 < idx ∧ idx < pair.length then
    let key := Json.trim (String.ofList (pair.take idx))
    let val := Json.trim (String.ofList (pair.drop (idx + 1)))
    some (key, (decodeURIComponent val).getD val)
  else none

/-- What is assigned to the fields of `cookies`, in this order. Assigning a string to `__proto__` does nothing. -/
def parseCookies (cookieHeader : Option String) : List (String × String) :=
  match truthyText cookieHeader with
  | none => []
  | some s => ((s.toList.splitOn ';').filterMap parsePair).filter fun c => c.1 ≠ "__proto__"

/-- `cookies[name]`: the last assignment counts. -/
def cookie (cookies : List (String × String)) (name : String) : Option String := cookies.reverse.lookup name

/-! ## What a client sends -/

/-- A cookie as a browser keeps it: no `;` ends it early, and its name ends at the first `=`. -/
structure Cookie where
  name : String
  value : String
  name_ne : name ≠ ""
  name_chars : ';' ∉ name.toList ∧ '=' ∉ name.toList
  value_chars : ';' ∉ value.toList

def Cookie.text (c : Cookie) : List Char := c.name.toList ++ '=' :: c.value.toList

/-- The `Cookie` header; a client that has no cookies sends none. -/
def cookieHeader : List Cookie → Option String
  | [] => none
  | c :: cs => some (String.ofList (c.text ++ cs.flatMap fun c => ';' :: ' ' :: c.text))

/-- What the server reads of a cookie. -/
def Cookie.read (c : Cookie) : String × String :=
  (Json.trim c.name, (decodeURIComponent (Json.trim c.value)).getD (Json.trim c.value))

variable {c : Cookie} {cs : List Cookie}

theorem Cookie.semicolon_not_mem_text (c : Cookie) : ';' ∉ c.text := by
  rw [Cookie.text, List.mem_append, List.mem_cons, not_or, not_or]
  exact ⟨c.name_chars.1, by decide, c.value_chars⟩

/-- A pair is read the same with a blank before it. -/
theorem parsePair_text (blank : List Char) (hblank : blank = [] ∨ blank = [' ']) (c : Cookie) :
    parsePair (blank ++ c.text) = some c.read := by
  have hne : c.name.toList ≠ [] := fun h => c.name_ne (String.toList_eq_nil_iff.mp h)
  have hnot : '=' ∉ blank ++ c.name.toList := by
    rw [List.mem_append, not_or]
    refine ⟨?_, c.name_chars.2⟩
    rcases hblank with rfl | rfl <;> decide
  have hidx : (blank ++ c.text).idxOf '=' = (blank ++ c.name.toList).length := by
    rw [Cookie.text, ← List.append_assoc, List.idxOf_append_of_notMem hnot, List.idxOf_cons_self, Nat.add_zero]
  have hpos : 0 < (blank ++ c.name.toList).length := by
    have := List.length_pos_iff.mpr hne
    rw [List.length_append]
    omega
  have hlt : (blank ++ c.name.toList).length < (blank ++ c.text).length := by
    rw [Cookie.text, ← List.append_assoc, List.length_append, List.length_append, List.length_append, List.length_cons]
    omega
  have htake : (blank ++ c.text).take (blank ++ c.name.toList).length = blank ++ c.name.toList := by
    rw [Cookie.text, ← List.append_assoc, List.take_left]
  have hdrop : (blank ++ c.text).drop ((blank ++ c.name.toList).length + 1) = c.value.toList := by
    rw [Cookie.text, ← List.append_assoc, ← List.drop_drop, List.drop_left, List.drop_one, List.tail_cons]
  have htrim : Json.trim (String.ofList (blank ++ c.name.toList)) = Json.trim c.name := by
    rcases hblank with rfl | rfl
    · rw [List.nil_append, String.ofList_toList]
    · rw [← String.toList_inj, Json.toList_trim, Json.toList_trim, String.toList_ofList, List.singleton_append,
        List.dropWhile_cons_of_pos (by decide)]
  simp only [parsePair, hidx, if_pos (And.intro hpos hlt), htake, hdrop, htrim, String.ofList_toList, Cookie.read]

theorem splitOn_flatMap (xs : List Char) (hxs : ';' ∉ xs) (cs : List Cookie) :
    (xs ++ cs.flatMap fun c => ';' :: ' ' :: c.text).splitOn ';' = xs :: cs.map fun c => ' ' :: c.text := by
  induction cs generalizing xs with
  | nil => rw [List.flatMap_nil, List.append_nil, List.splitOn_eq_singleton hxs]; rfl
  | cons c cs ih =>
    have hc : ';' ∉ ' ' :: c.text := by
      rw [List.mem_cons, not_or]
      exact ⟨by decide, c.semicolon_not_mem_text⟩
    rw [List.flatMap_cons, List.cons_append, List.cons_append, List.splitOn_append_cons_self_of_not_mem hxs,
      ← List.cons_append, ih _ hc, List.map_cons]

/-- What the header gives, pair by pair. -/
theorem parseCookies_header (cs : List Cookie) :
    parseCookies (cookieHeader cs) = (cs.map Cookie.read).filter fun c => c.1 ≠ "__proto__" := by
  cases cs with
  | nil => rfl
  | cons c cs =>
    have htruthy : truthyText (cookieHeader (c :: cs)) = cookieHeader (c :: cs) := by
      rw [cookieHeader, truthyText, Option.filter_some, if_pos]
      rw [decide_eq_true_iff, ne_eq, ← String.toList_eq_nil_iff, String.toList_ofList, List.append_eq_nil_iff]
      rintro ⟨h, -⟩
      exact absurd h (by simp [Cookie.text])
    rw [parseCookies, htruthy, cookieHeader]
    simp only [String.toList_ofList, splitOn_flatMap _ c.semicolon_not_mem_text, List.filterMap_cons,
      List.filterMap_map]
    have hfirst : parsePair c.text = some c.read := parsePair_text [] (.inl rfl) c
    have hrest : (parsePair ∘ fun c : Cookie => ' ' :: c.text) = some ∘ Cookie.read :=
      funext fun d => parsePair_text [' '] (.inr rfl) d
    rw [hfirst, hrest, List.filterMap_eq_map, List.map_cons]

/-! ## What was set is read back -/

/-- A name under which a cookie can be set. -/
structure CookieName where
  text : String
  ne : text ≠ ""
  chars : ';' ∉ text.toList ∧ '=' ∉ text.toList
  trimmed : Json.Trimmed text.toList
  not_proto : text ≠ "__proto__"

theorem unreserved_not_whitespace {d : Char} (h : d = '%' ∨ Percent.unreserved d = true) :
    Json.isWhitespace d = false := by
  rcases h with rfl | h
  · decide
  · rw [Percent.unreserved, Bool.or_eq_true] at h
    rcases h with h | h
    · exact isWhitespace_alphanumeric (by simpa [isAlphanumeric, Char.isAlphanum] using h)
    · have hall : ∀ c ∈ ['-', '_', '.', '!', '~', '*', Char.ofNat 39, '(', ')'], (!Json.isWhitespace c) = true :=
        List.all_eq_true.mp (by decide)
      simpa using hall d (by simpa using h)

theorem semicolon_not_mem_encode (s : String) : ';' ∉ (encodeURIComponent s).toList := by
  rw [encodeURIComponent, String.toList_ofList]
  intro h
  rcases Percent.mem_encode h with h | h <;> exact absurd h (by decide)

theorem trim_encodeURIComponent (s : String) : Json.trim (encodeURIComponent s) = encodeURIComponent s := by
  have hall : ∀ d ∈ (encodeURIComponent s).toList, Json.isWhitespace d = false := by
    intro d hd
    rw [encodeURIComponent, String.toList_ofList] at hd
    exact unreserved_not_whitespace (Percent.mem_encode hd)
  exact Json.trim_of_trimmed ⟨fun d hd => hall d (List.mem_of_mem_head? hd),
    fun d hd => hall d (List.mem_of_mem_getLast? hd)⟩

theorem decodeURIComponent_encodeURIComponent (s : String) : decodeURIComponent (encodeURIComponent s) = some s := by
  rw [decodeURIComponent, encodeURIComponent, String.toList_ofList, Percent.decode_encode, Option.map_some,
    String.ofList_toList]

/-- The cookie that the server sets; the header of the response has the value encoded. -/
def CookieName.set (n : CookieName) (value : String) : Cookie where
  name := n.text
  value := encodeURIComponent value
  name_ne := n.ne
  name_chars := n.chars
  value_chars := semicolon_not_mem_encode value

theorem CookieName.read_set (n : CookieName) (value : String) : (n.set value).read = (n.text, value) := by
  rw [Cookie.read, CookieName.set, Json.trim_of_trimmed n.trimmed, trim_encodeURIComponent,
    decodeURIComponent_encodeURIComponent, Option.getD_some]

end IKash
