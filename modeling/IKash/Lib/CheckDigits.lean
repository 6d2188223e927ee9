import IKash.Lib.Decimal
import Mathlib.Data.Int.ModEq
import Mathlib.RingTheory.Coprime.Lemmas
import Mathlib.Tactic.Ring

/-!
# Check digits

A word is written by writing each of its symbols as a numeral (`code`), and its weight is the number that the text stands
for. A remainder of the weight modulo `p` shows that a word was changed, when the change alters the weight modulo `p`.

- `weight_append`: the weight of a word by the weights of its parts;
- `replace_modEq_iff`: for `p` coprime to ten, replacing a symbol by one of the same length goes unnoticed only if the two
  numerals are congruent;
- `swap_modEq_iff`, `swapEnds_modEq_iff`: exchanging two digits next to each other, or the first and the last one;
- `foldl_remainderStep`: a remainder can be computed chunk by chunk;
- `length_stepText_le`, `isDouble_of_lt`: the numbers on the way are short, and doubles.
-/

namespace Lib

/-! ## Weights -/

section Weight

variable {α : Type} (code : α → List Char)

/-- The text of a word. -/
def written (xs : List α) : List Char := xs.flatMap code

/-- The number that the text of a word stands for. -/
def weight (xs : List α) : ℤ := natOf (written code xs)

/-- The place of what stands before the word: a power of ten. -/
def place (xs : List α) : ℤ := 10 ^ (written code xs).length

variable {code} {xs ys : List α} {a b : α} {p : ℤ}

theorem length_written_le {n : ℕ} : ∀ {xs : List α}, (∀ a ∈ xs, (code a).length ≤ n) →
    (written code xs).length ≤ n * xs.length
  | [], _ => Nat.zero_le _
  | a :: xs, h => by
    have hhead := h a List.mem_cons_self
    have htail := length_written_le fun x hx => h x (List.mem_cons_of_mem a hx)
    unfold written at htail ⊢
    rw [List.flatMap_cons, List.length_append, List.length_cons, Nat.mul_succ]
    omega

theorem weight_append (xs ys : List α) : weight code (xs ++ ys) = weight code xs * place code ys + weight code ys := by
  unfold weight place written
  rw [List.flatMap_append, natOf_append]
  push_cast
  rfl

theorem weight_cons (a : α) (xs : List α) : weight code (a :: xs) = natOf (code a) * place code xs + weight code xs := by
  have hsingle : weight code [a] = natOf (code a) := by
    unfold weight written
    rw [List.flatMap_singleton]
  rw [← List.singleton_append, weight_append, hsingle]

theorem place_append (xs ys : List α) : place code (xs ++ ys) = place code xs * place code ys := by
  unfold place written
  rw [List.flatMap_append, List.length_append, pow_add]

theorem place_cons (a : α) (xs : List α) : place code (a :: xs) = 10 ^ (code a).length * place code xs := by
  unfold place written
  rw [List.flatMap_cons, List.length_append, pow_add]

theorem place_nil : place code [] = 1 := rfl

theorem weight_nil : weight code [] = 0 := rfl

theorem isCoprime_place (hp : IsCoprime 10 p) (xs : List α) : IsCoprime p (place code xs) := hp.symm.pow_right

/-- A factor coprime to the modulus can be left out. -/
theorem mul_modEq_iff {c x y : ℤ} (hc : IsCoprime p c) : x * c ≡ y * c [ZMOD p] ↔ x ≡ y [ZMOD p] := by
  rw [Int.modEq_iff_dvd, Int.modEq_iff_dvd, ← sub_mul]
  exact ⟨hc.dvd_of_dvd_mul_right, fun h => h.mul_right c⟩

/-! ## One symbol -/

/-- **A replaced symbol** goes unnoticed only if its numeral is congruent to the old one. -/
theorem replace_modEq_iff (hp : IsCoprime 10 p) (hlength : (code a).length = (code b).length) (xs ys : List α) :
    weight code (xs ++ a :: ys) ≡ weight code (xs ++ b :: ys) [ZMOD p] ↔
      (natOf (code a) : ℤ) ≡ natOf (code b) [ZMOD p] := by
  have hdiff : weight code (xs ++ b :: ys) - weight code (xs ++ a :: ys) =
      natOf (code b) * place code ys - natOf (code a) * place code ys := by
    rw [weight_append, weight_append, weight_cons, weight_cons, place_cons, place_cons, hlength]
    ring
  rw [Int.modEq_iff_dvd, hdiff, ← Int.modEq_iff_dvd]
  exact mul_modEq_iff (isCoprime_place hp ys)

/-! ## Two digits -/

/-- **Two digits exchanged**, the second right after the first. -/
theorem swap_modEq_iff (hp : IsCoprime 10 p) (ha : (code a).length = 1) (hb : (code b).length = 1) (xs ys : List α) :
    weight code (xs ++ a :: b :: ys) ≡ weight code (xs ++ b :: a :: ys) [ZMOD p] ↔
      9 * (natOf (code a) : ℤ) ≡ 9 * natOf (code b) [ZMOD p] := by
  have hdiff : weight code (xs ++ b :: a :: ys) - weight code (xs ++ a :: b :: ys) =
      9 * natOf (code b) * place code ys - 9 * natOf (code a) * place code ys := by
    rw [weight_append, weight_append, weight_cons, weight_cons, weight_cons, weight_cons, place_cons, place_cons,
      place_cons, place_cons, ha, hb]
    ring
  rw [Int.modEq_iff_dvd, hdiff, ← Int.modEq_iff_dvd]
  exact mul_modEq_iff (isCoprime_place hp ys)

/-- **Two digits exchanged**, the first and the last of a word. -/
theorem swapEnds_modEq_iff (ha : (code a).length = 1) (hb : (code b).length = 1) (ys : List α) :
    weight code (a :: (ys ++ [b])) ≡ weight code (b :: (ys ++ [a])) [ZMOD p] ↔
      (natOf (code a) : ℤ) * (10 * place code ys - 1) ≡ natOf (code b) * (10 * place code ys - 1) [ZMOD p] := by
  have hdiff : weight code (b :: (ys ++ [a])) - weight code (a :: (ys ++ [b])) =
      natOf (code b) * (10 * place code ys - 1) - natOf (code a) * (10 * place code ys - 1) := by
    rw [weight_cons, weight_cons, weight_append, weight_append, place_append, place_append, weight_cons, weight_cons,
      place_cons, place_cons, ha, hb, place_nil, weight_nil]
    ring
  rw [Int.modEq_iff_dvd, Int.modEq_iff_dvd, hdiff]

end Weight

/-! ## Remainders by chunks -/

/-- The remainder of a numeral, its digits taken `k` at a time and written after the remainder so far. -/
def remainderStep (m k : ℕ) (cs : List Char) (r i : ℕ) : ℕ := natOf (Nat.toDigits 10 r ++ (cs.drop (k * i)).take k) % m

/-- **After `n` chunks** the remainder is that of the digits so far. -/
theorem foldl_remainderStep (m k : ℕ) (cs : List Char) : ∀ n,
    (List.range n).foldl (remainderStep m k cs) 0 = natOf (cs.take (k * n)) % m
  | 0 => by simp [natOf]
  | n + 1 => by
    have htake : cs.take (k * (n + 1)) = cs.take (k * n) ++ (cs.drop (k * n)).take k := by
      rw [Nat.mul_succ, List.take_add]
    rw [List.range_succ, List.foldl_append, foldl_remainderStep m k cs n, List.foldl_cons, List.foldl_nil, remainderStep,
      natOf_append, natOf_toDigits, htake, natOf_append, Nat.add_mod, Nat.mod_mul_mod, ← Nat.add_mod]

/-! ### Numbers on the way -/

/-- The text of a step: the remainder so far, and the next digits. -/
def stepText (k : ℕ) (cs : List Char) (r i : ℕ) : List Char := Nat.toDigits 10 r ++ (cs.drop (k * i)).take k

/-- A natural number that a double of 53 significant bits stands for. -/
def IsDouble (n : ℕ) : Prop := ∃ a < 2 ^ 53, ∃ e ≤ 971, n = a * 2 ^ e

theorem isDouble_of_lt {n : ℕ} (h : n < 2 ^ 53) : IsDouble n := ⟨n, h, 0, Nat.zero_le _, (Nat.mul_one n).symm⟩

section StepText

variable {m k d r : ℕ} {cs : List Char}

theorem isDigit_stepText (h : ∀ c ∈ cs, c.isDigit = true) {i : ℕ} {c : Char} (hc : c ∈ stepText k cs r i) :
    c.isDigit = true := by
  rcases List.mem_append.mp hc with hr | hchunk
  · exact isDigit_toDigits hr
  · exact h c (List.mem_of_mem_drop (List.mem_of_mem_take hchunk))

theorem length_stepText_le (cs : List Char) (i : ℕ) (hd : 0 < d) (hr : r < 10 ^ d) :
    (stepText k cs r i).length ≤ d + k := by
  have hremainder := (Nat.length_toDigits_le_iff (b := 10) (by decide) hd).mpr hr
  have hchunk := List.length_take_le k (cs.drop (k * i))
  unfold stepText
  rw [List.length_append]
  omega

theorem foldl_remainderStep_lt (hm : 0 < m) (cs : List Char) (n : ℕ) :
    (List.range n).foldl (remainderStep m k cs) 0 < m := by
  rw [foldl_remainderStep]
  exact Nat.mod_lt _ hm

/-- A step that agrees below the modulus computes the same remainder. -/
theorem foldl_remainderStep_congr {step : ℕ → ℕ → ℕ} (hm : 0 < m)
    (h : ∀ r < m, ∀ i, step r i = remainderStep m k cs r i) (n : ℕ) :
    (List.range n).foldl step 0 = (List.range n).foldl (remainderStep m k cs) 0 := by
  induction n with
  | zero => rfl
  | succ n ih =>
    rw [List.range_succ, List.foldl_append, List.foldl_append, ih]
    exact h _ (foldl_remainderStep_lt hm cs n) n

end StepText

end Lib
