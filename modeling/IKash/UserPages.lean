import IKash.Api
import IKash.Lib.Pages

/-!
# Reading the list of accounts

`GET /users` answers with one page of the accounts, the newest first. A client reads page after page until one is not
full, and between two pages the server goes on.

- `listed_eq_page`: an answer is a page of the sorted accounts;
- `sorted_sublist`: in a run the accounts keep their order, whatever accounts are added;
- `user_walk_complete`: the client has seen every account that was there when it began.
-/

namespace IKash

open Lib

variable {χ : Type}

/-- The body of the answer. -/
def listed (w : World χ) (p : PaginationDto) : List AppUser :=
  match ((UsersService.list p).run w).1 with
  | .ok users => users
  | .error _ => []

/-- The worlds in which the pages are read; `calls k` is what the server does between the `k`-th page and the next. -/
def walkWorld (env : ApiEnv χ) (w : World χ) (calls : ℕ → List ApiInput) : ℕ → World χ
  | 0 => w
  | k + 1 => (api env).run (walkWorld env w calls k) (calls k)

/-- The `k`-th page, of the given size. -/
def walkPage (env : ApiEnv χ) (w : World χ) (calls : ℕ → List ApiInput) (take k : ℕ) : List AppUser :=
  listed (walkWorld env w calls k) ⟨k * take, take⟩

/-- The columns by which an account is known and sorted. -/
def place (u : AppUser) : String × ℤ := (u.userId, u.createdAt)

def newer (a b : String × ℤ) : Bool := b.2 ≤ a.2

/-- The places of the accounts in the order of the list. -/
def sortedPlaces (db : Db) : List (String × ℤ) := (db.users.rows.map place).mergeSort newer

theorem newer_trans (a b c : String × ℤ) (hab : newer a b = true) (hbc : newer b c = true) : newer a c = true :=
  decide_eq_true (le_trans (of_decide_eq_true hbc) (of_decide_eq_true hab))

theorem newer_total (a b : String × ℤ) : (newer a b || newer b a) = true := by
  rw [Bool.or_eq_true]
  exact (le_total b.2 a.2).imp decide_eq_true decide_eq_true

/-- An answer is a page of the sorted accounts. -/
theorem listed_eq_page (w : World χ) (p : PaginationDto) :
    (listed w p).map place = page p.skip p.take (sortedPlaces w.db) := by
  have hlisted : listed w p =
      (page p.skip p.take (w.db.users.rows.mergeSort fun a b => b.createdAt ≤ a.createdAt)).map publicUser := rfl
  have hsort : (w.db.users.rows.mergeSort fun a b => b.createdAt ≤ a.createdAt).map place = sortedPlaces w.db :=
    List.map_mergeSort fun _ _ _ _ => rfl
  have hpublic : place ∘ publicUser = place := rfl
  rw [hlisted, List.map_map, hpublic, map_page, hsort]

theorem length_listed (w : World χ) (p : PaginationDto) :
    (listed w p).length = min p.take (w.db.users.rows.length - p.skip) := by
  rw [← List.length_map (f := place), listed_eq_page, page, List.length_take, List.length_drop, sortedPlaces,
    List.length_mergeSort, List.length_map]

/-- In a run the accounts keep their order. -/
theorem sorted_sublist (env : ApiEnv χ) (w : World χ) (inputs : List ApiInput) :
    (sortedPlaces w.db).Sublist (sortedPlaces ((api env).run w inputs).db) := by
  have hplace : ∀ u v, SameAccount u v → place v = place u :=
    fun u v h => Prod.ext h.userId h.createdAt
  have hcolumn := (effects_accounts (run_effects env w inputs)).column hplace
  exact mergeSort_sublist newer_trans newer_total hcolumn.sublist

/-- **Reading all accounts.** Whatever calls are made between the pages, a client that has read up to a page that is not
full has seen every account that was there when it began. -/
theorem user_walk_complete (env : ApiEnv χ) (w : World χ) (calls : ℕ → List ApiInput) {take n : ℕ}
    (hlast : (walkPage env w calls take n).length < take) {u : AppUser} (hu : u ∈ w.db.users.rows) :
    ∃ k ≤ n, ∃ v ∈ walkPage env w calls take k, v.userId = u.userId := by
  have hpages : ∀ k, (walkPage env w calls take k).map place =
      page (k * take) take (sortedPlaces (walkWorld env w calls k).db) := fun k => listed_eq_page _ _
  have hgrow : ∀ k, (sortedPlaces (walkWorld env w calls k).db).Sublist
      (sortedPlaces (walkWorld env w calls (k + 1)).db) := fun k => sorted_sublist env _ (calls k)
  have hstart : place u ∈ sortedPlaces (walkWorld env w calls 0).db :=
    List.mem_mergeSort.mpr (List.mem_map_of_mem hu)
  rw [← List.length_map (f := place), hpages] at hlast
  obtain ⟨k, hk, hmem⟩ := walk_complete (recedes_of_sublist hgrow (place u)) hstart hlast
  rw [← hpages] at hmem
  obtain ⟨v, hv, hplace⟩ := List.mem_map.mp hmem
  exact ⟨k, hk, v, hv, congrArg Prod.fst hplace⟩

/-! ## Two accounts, one by one -/

namespace Reading

def env : ApiEnv Deployments where
  crypto := Wallets.crypto
  classValidator := Wallets.env.classValidator
  uploadFile file ds := (.ok ⟨file.originalname, file.originalname⟩, ds)
  tw := Market.releasingWork
  config := Desk.config
  codec := Desk.codec
  chat := { tokenOf := fun _ => none }

/-- After the first page an account is opened, which comes first in the list. -/
def calls : ℕ → List ApiInput
  | 0 => [{ time := 100, call := .account none (.getOrCreate (some Wallets.sellerKey) "u9") }]
  | _ => []

theorem user_walk_complete_opened : ∃ k ≤ 3, ∃ v ∈ walkPage env Market.world calls 1 k, v.userId = "u2" :=
  user_walk_complete env Market.world calls (by rw [walkPage, length_listed]; decide)
    (u := { userId := "u2", publicKey := "G2", kycStatus := .approved }) (by decide)

end Reading

end IKash
