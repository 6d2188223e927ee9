import IKash.Errors
import IKash.Lib.FixedWindow
import IKash.Lib.WrittenKeys
import Mathlib.Logic.Function.Basic

/-!
# The rate limit of the authentication routes

`AuthRateLimitGuard` counts requests under the text of their path and the address of the client. Express matches a
route without regard to letter case and to one trailing slash, and leaves the path as it was sent; so a handler is
reached under several keys.

- `canActivate_open`, `canActivate_expired`: what the guard does with a request;
- `admitted_eq_granted`: as long as no request meets an open window of another spelling of its route, the guard admits
  the requests of a client to a handler like one fixed window;
- `limited_per_route`: then no window admits more than `MAX_ATTEMPTS`, and no interval of its length more than twice as
  many.
-/

namespace IKash

open Lib FixedWindow

/-! ## The guard -/

/-- The handlers of `AuthController` that the guard is used on. -/
inductive AuthHandler where
  | createChallenge | login
deriving DecidableEq, Repr

/-- `@Controller('auth')` with `@Post('challenge')` and `@Post('login')` -/
def AuthHandler.route : AuthHandler → String
  | .createChallenge => "/auth/challenge"
  | .login => "/auth/login"

/-- The paths that Express routes to a route that is written in lower case. -/
def MatchesRoute (route path : String) : Prop :=
  path.toList.map Char.toLower = route.toList ∨ path.toList.map Char.toLower = route.toList ++ ['/']

instance (route path : String) : Decidable (MatchesRoute route path) := inferInstanceAs (Decidable (_ ∨ _))

theorem MatchesRoute.colonFree {handler : AuthHandler} {path : String} (h : MatchesRoute handler.route path) :
    ':' ∉ path.toList := by
  intro hcolon
  have hlower : ':' ∈ path.toList.map Char.toLower := List.mem_map.mpr ⟨':', hcolon, rfl⟩
  rcases h with h | h <;> rw [h] at hlower <;> revert hlower <;> cases handler <;> decide

theorem MatchesRoute.handler_unique {handler handler' : AuthHandler} {path : String}
    (h : MatchesRoute handler.route path) (h' : MatchesRoute handler'.route path) : handler = handler' := by
  have hslash : ∀ a b : AuthHandler, a.route.toList ++ ['/'] ≠ b.route.toList := by
    intro a b
    cases a <;> cases b <;> decide
  have hinj : ∀ a b : AuthHandler, a.route.toList = b.route.toList → a = b := by
    intro a b
    cases a <;> cases b <;> decide
  rcases h with h | h <;> rcases h' with h' | h' <;> rw [h] at h'
  · exact hinj _ _ h'
  · exact absurd h'.symm (hslash _ _)
  · exact absurd h' (hslash _ _)
  · exact hinj _ _ (List.append_cancel_right h')

/-- A request that reaches one of the handlers, at the time of `Date.now()`. -/
structure AuthRequest where
  handler : AuthHandler
  path : String
  routed : MatchesRoute handler.route path
  ip : Option String
  now : ℤ

structure RateLimitWindow where
  count : ℕ
  windowStart : ℤ
deriving DecidableEq, Repr

namespace AuthRateLimitGuard

def WINDOW_MS : ℤ := 60000

def MAX_ATTEMPTS : ℕ := 10

/-- `Map<string, RateLimitWindow>` -/
abbrev Windows := String → Option RateLimitWindow

/-- `request.ip ?? 'unknown'` -/
def client (request : AuthRequest) : String := request.ip.getD "unknown"

def keyOf (path client : String) : String := path ++ ":" ++ client

def key (request : AuthRequest) : String := keyOf request.path (client request)

def pruneExpired (windows : Windows) (now : ℤ) : Windows := fun k =>
  (windows k).filter fun window => ¬ now - window.windowStart ≥ WINDOW_MS

def canActivate (windows : Windows) (request : AuthRequest) : Except Thrown Bool × Windows :=
  let now := request.now
  let opened := Function.update (pruneExpired windows now) (key request) (some ⟨1, now⟩)
  match windows (key request) with
  | none => (.ok true, opened)
  | some window =>
    if now - window.windowStart ≥ WINDOW_MS then (.ok true, opened)
    else
      let count := window.count + 1
      let counted := Function.update windows (key request) (some { window with count := count })
      if count > MAX_ATTEMPTS then
        (.error (.app .tooManyRequests "Too many authentication attempts. Please try again later."), counted)
      else (.ok true, counted)

/-- The guard, in the order in which it is called. -/
abbrev guard : Machine Windows AuthRequest (Except Thrown Bool) := ⟨canActivate⟩

/-- The map of a new guard. -/
def empty : Windows := fun _ => none

/-! ## What it does with a request -/

variable {windows : Windows} {request : AuthRequest} {window : RateLimitWindow} {now : ℤ}

/-- A window that has not expired. -/
def Open (now : ℤ) (window : RateLimitWindow) : Prop := ¬ now - window.windowStart ≥ WINDOW_MS

instance (now : ℤ) (window : RateLimitWindow) : Decidable (Open now window) := inferInstanceAs (Decidable (¬ _))

theorem canActivate_open (hwindow : windows (key request) = some window) (hopen : Open request.now window) :
    canActivate windows request =
      (if window.count + 1 > MAX_ATTEMPTS then
        .error (.app .tooManyRequests "Too many authentication attempts. Please try again later.") else .ok true,
        Function.update windows (key request) (some { window with count := window.count + 1 })) := by
  unfold canActivate
  dsimp only
  rw [hwindow]
  dsimp only
  rw [if_neg hopen]
  split <;> rfl

theorem canActivate_expired (h : ∀ window, windows (key request) = some window → ¬ Open request.now window) :
    canActivate windows request =
      (.ok true, Function.update (pruneExpired windows request.now) (key request) (some ⟨1, request.now⟩)) := by
  unfold canActivate
  dsimp only
  cases hwindow : windows (key request) with
  | none => rfl
  | some window => exact if_pos (not_not.mp (h window hwindow))

theorem next_open (hwindow : windows (key request) = some window) (hopen : Open request.now window) :
    guard.next windows request =
      Function.update windows (key request) (some { window with count := window.count + 1 }) :=
  congrArg Prod.snd (canActivate_open hwindow hopen)

theorem next_expired (h : ∀ window, windows (key request) = some window → ¬ Open request.now window) :
    guard.next windows request =
      Function.update (pruneExpired windows request.now) (key request) (some ⟨1, request.now⟩) :=
  congrArg Prod.snd (canActivate_expired h)

/-- Under another key than its own, a request at most removes a window that has expired. -/
theorem next_cases (windows : Windows) {k : String} (hk : k ≠ key request) : guard.next windows request k = windows k ∨
    guard.next windows request k = none ∧ ∀ window, windows k = some window → ¬ Open request.now window := by
  by_cases h : ∃ x, windows (key request) = some x ∧ Open request.now x
  · obtain ⟨x, hx, hopen⟩ := h
    rw [next_open hx hopen, Function.update_of_ne hk]
    exact Or.inl rfl
  · have hexpired : ∀ x, windows (key request) = some x → ¬ Open request.now x := fun x hx ho => h ⟨x, hx, ho⟩
    rw [next_expired hexpired, Function.update_of_ne hk]
    unfold pruneExpired
    cases hwindow : windows k with
    | none => exact Or.inl rfl
    | some window =>
      by_cases hopen : Open request.now window
      · exact Or.inl (Option.filter_eq_some_iff.mpr ⟨rfl, decide_eq_true hopen⟩)
      · refine Or.inr ⟨if_neg fun h => hopen (of_decide_eq_true h), ?_⟩
        rintro _ ⟨⟩
        exact hopen

theorem next_other {k : String} (hk : k ≠ key request) (hopen : Open request.now window) :
    guard.next windows request k = some window ↔ windows k = some window := by
  rcases next_cases windows hk with h | ⟨h, hexpired⟩
  · rw [h]
  · rw [h]
    constructor
    · intro hnone
      cases hnone
    · intro hwindow
      exact absurd hopen (hexpired window hwindow)

/-! ## The keys of a handler and a client -/

/-- A request of the client that reaches the handler. -/
def Reaches (handler : AuthHandler) (ip : String) (request : AuthRequest) : Prop :=
  request.handler = handler ∧ client request = ip

instance (handler : AuthHandler) (ip : String) (request : AuthRequest) : Decidable (Reaches handler ip request) :=
  inferInstanceAs (Decidable (_ ∧ _))

/-- The keys of a handler and a client are those of its requests. -/
theorem reaches_of_key {handler : AuthHandler} {ip path : String} (hpath : MatchesRoute handler.route path)
    (h : keyOf path ip = key request) : Reaches handler ip request := by
  obtain ⟨hsame, hclient⟩ := (sep_text_inj hpath.colonFree request.routed.colonFree).mp h
  rw [hsame] at hpath
  exact ⟨request.routed.handler_unique hpath, hclient.symm⟩

/-! ## One window for a handler and a client -/

section Tracks

variable {handler : AuthHandler} {ip : String} {a : Option Tally} {now' : ℤ} {requests : List AuthRequest}

def tally (window : RateLimitWindow) : Tally := ⟨window.count, window.windowStart⟩

theorem live_iff : (tally window).Live WINDOW_MS now ↔ Open now window := by
  unfold Tally.Live Open tally
  exact Int.not_le.symm

/-- The request meets no open window of another spelling of its route. -/
def OneSpelling (handler : AuthHandler) (ip : String) (windows : Windows) (request : AuthRequest) : Prop :=
  Reaches handler ip request → ∀ path, MatchesRoute handler.route path → path ≠ request.path →
    ∀ window, windows (keyOf path ip) = some window → ¬ Open request.now window

/-- The window `a` is the open one of the handler and the client, if there is one. -/
structure Tracks (handler : AuthHandler) (ip : String) (now : ℤ) (windows : Windows) (a : Option Tally) : Prop where
  counted : ∀ path window, MatchesRoute handler.route path → windows (keyOf path ip) = some window → Open now window →
    a = some (tally window)
  kept : ∀ x, a = some x → x.Live WINDOW_MS now →
    ∃ path window, MatchesRoute handler.route path ∧ windows (keyOf path ip) = some window ∧ x = tally window

theorem tracks_empty : Tracks handler ip now empty none where
  counted _ _ _ h := by cases h
  kept _ h := by cases h

theorem Tracks.later (h : Tracks handler ip now windows a) (hle : now ≤ now') : Tracks handler ip now' windows a where
  counted path window hpath hwindow hopen := by
    refine h.counted path window hpath hwindow ?_
    unfold Open at hopen ⊢
    omega
  kept x hx hlive := by
    refine h.kept x hx ?_
    unfold Tally.Live at hlive ⊢
    omega

/-- A request of another handler or client. -/
theorem Tracks.other (h : Tracks handler ip request.now windows a) (hother : ¬ Reaches handler ip request) :
    Tracks handler ip request.now (guard.next windows request) a where
  counted path window hpath hwindow hopen := by
    have hk : keyOf path ip ≠ key request := fun he => hother (reaches_of_key hpath he)
    exact h.counted path window hpath ((next_other hk hopen).mp hwindow) hopen
  kept x hx hlive := by
    obtain ⟨path, window, hpath, hwindow, rfl⟩ := h.kept x hx hlive
    have hk : keyOf path ip ≠ key request := fun he => hother (reaches_of_key hpath he)
    exact ⟨path, window, hpath, (next_other hk (live_iff.mp hlive)).mpr hwindow, rfl⟩

/-- The request finds no open window under its key. -/
def Opens (windows : Windows) (request : AuthRequest) : Prop :=
  ∀ window, windows (key request) = some window → ¬ Open request.now window

theorem Tracks.ended (h : Tracks handler ip request.now windows a) (hreaches : Reaches handler ip request)
    (hone : OneSpelling handler ip windows request) (hopens : Opens windows request) :
    ∀ x, a = some x → ¬ x.Live WINDOW_MS request.now := by
  intro x hx hlive
  obtain ⟨path, window, hpath, hwindow, rfl⟩ := h.kept x hx hlive
  by_cases hsame : path = request.path
  · rw [hsame, ← hreaches.2] at hwindow
    exact hopens window hwindow (live_iff.mp hlive)
  · exact hone hreaches path hpath hsame window hwindow (live_iff.mp hlive)

/-- After a request only its own window may be open. -/
theorem tracks_own (hreaches : Reaches handler ip request) (hone : OneSpelling handler ip windows request)
    (hwindow : guard.next windows request (key request) = some window) :
    Tracks handler ip request.now (guard.next windows request) (some (tally window)) where
  counted path window' hpath hwindow' hopen := by
    by_cases hsame : path = request.path
    · rw [hsame, ← hreaches.2] at hwindow'
      cases hwindow.symm.trans hwindow'
      rfl
    · have hk : keyOf path ip ≠ key request := by
        intro he
        exact hsame ((sep_text_inj hpath.colonFree request.routed.colonFree).mp he).1
      exact absurd hopen (hone hreaches path hpath hsame window' ((next_other hk hopen).mp hwindow'))
  kept x hx _ := by
    cases hx
    have hpath := request.routed
    rw [hreaches.1] at hpath
    refine ⟨request.path, window, hpath, ?_, rfl⟩
    rw [← hreaches.2]
    exact hwindow

def Admits : Except Thrown Bool → Bool
  | .ok b => b
  | .error _ => false

/-- **One step.** A request of the client to the handler is answered, and counted, like one of a fixed window. -/
theorem Tracks.step (h : Tracks handler ip request.now windows a) (hreaches : Reaches handler ip request)
    (hone : OneSpelling handler ip windows request) :
    Admits (canActivate windows request).1 = (ask WINDOW_MS MAX_ATTEMPTS a request.now).1 ∧
      Tracks handler ip request.now (guard.next windows request) (ask WINDOW_MS MAX_ATTEMPTS a request.now).2 := by
  by_cases hfound : ∃ window, windows (key request) = some window ∧ Open request.now window
  · obtain ⟨window, hwindow, hopen⟩ := hfound
    have hpath := request.routed
    rw [hreaches.1] at hpath
    have ha : a = some (tally window) := by
      refine h.counted request.path window hpath ?_ hopen
      rw [← hreaches.2]
      exact hwindow
    rw [ha, ask_live (live_iff.mpr hopen), canActivate_open hwindow hopen]
    constructor
    · by_cases hmany : window.count + 1 > MAX_ATTEMPTS
      · rw [if_pos hmany]
        exact (decide_eq_false (Nat.not_le.mpr hmany)).symm
      · rw [if_neg hmany]
        exact (decide_eq_true (Nat.not_lt.mp hmany)).symm
    · have hown : guard.next windows request (key request) = some { window with count := window.count + 1 } := by
        rw [next_open hwindow hopen, Function.update_self]
      exact tracks_own hreaches hone hown
  · have hopens : Opens windows request := fun window hwindow hopen => hfound ⟨window, hwindow, hopen⟩
    have hown : guard.next windows request (key request) = some ⟨1, request.now⟩ := by
      rw [next_expired hopens, Function.update_self]
    rw [ask_ended (h.ended hreaches hone hopens), canActivate_expired hopens]
    exact ⟨rfl, tracks_own hreaches hone hown⟩

/-! ## Runs -/

/-- The admitted requests of the client to the handler. -/
def admitted (handler : AuthHandler) (ip : String) (windows : Windows) (requests : List AuthRequest) :
    List AuthRequest :=
  guard.answered (fun request answer => decide (Reaches handler ip request) && Admits answer) windows requests

/-- The times of the requests of the client to the handler. -/
def asked (handler : AuthHandler) (ip : String) (requests : List AuthRequest) : List ℤ :=
  (requests.filter fun request => Reaches handler ip request).map AuthRequest.now

theorem admitted_cons (handler : AuthHandler) (ip : String) (windows : Windows) (r : AuthRequest)
    (rs : List AuthRequest) : admitted handler ip windows (r :: rs) =
      if Reaches handler ip r ∧ Admits (canActivate windows r).1 then
        r :: admitted handler ip (guard.next windows r) rs
      else admitted handler ip (guard.next windows r) rs := by
  unfold admitted
  rw [Machine.answered_cons rfl]
  simp only [Bool.and_eq_true, decide_eq_true_eq]
  rfl

theorem asked_cons (handler : AuthHandler) (ip : String) (r : AuthRequest) (rs : List AuthRequest) :
    asked handler ip (r :: rs) =
      if Reaches handler ip r then r.now :: asked handler ip rs else asked handler ip rs := by
  unfold asked
  rw [List.filter_cons]
  simp only [decide_eq_true_eq]
  split <;> rfl

/-- The clock does not go back. -/
abbrev InOrder (requests : List AuthRequest) : Prop := requests.Pairwise fun r r' => r.now ≤ r'.now

theorem asked_sorted (handler : AuthHandler) (ip : String) (h : InOrder requests) :
    (asked handler ip requests).Pairwise (· ≤ ·) := by
  unfold asked
  rw [List.pairwise_map]
  exact h.sublist List.filter_sublist

/-- **A run.** The requests of the client that are admitted to the handler are those that one fixed window grants. -/
theorem admitted_eq_granted (h : Tracks handler ip now windows a) (hsorted : InOrder requests)
    (hnow : ∀ r ∈ requests, now ≤ r.now) (hone : guard.Along (OneSpelling handler ip) windows requests) :
    (admitted handler ip windows requests).map AuthRequest.now =
      granted WINDOW_MS MAX_ATTEMPTS a (asked handler ip requests) := by
  induction requests generalizing now windows a with
  | nil => rfl
  | cons r rs ih =>
    obtain ⟨hlater, hsorted⟩ := List.pairwise_cons.mp hsorted
    have htracks := h.later (hnow r List.mem_cons_self)
    by_cases hreaches : Reaches handler ip r
    · obtain ⟨hanswer, hnext⟩ := htracks.step hreaches hone.1
      have hrest := ih hnext hsorted hlater hone.2
      rw [admitted_cons, asked_cons, if_pos hreaches, granted_cons, ← hanswer, ← hrest]
      by_cases hadmits : Admits (canActivate windows r).1 = true
      · rw [if_pos ⟨hreaches, hadmits⟩, if_pos hadmits, List.map_cons]
      · rw [if_neg fun hr => hadmits hr.2, if_neg hadmits]
    · rw [admitted_cons, asked_cons, if_neg hreaches, if_neg fun hr => hreaches hr.1]
      exact ih (htracks.other hreaches) hsorted hlater hone.2

theorem tracks_run (h : Tracks handler ip now windows a) (hsorted : InOrder requests)
    (hnow : ∀ r ∈ requests, now ≤ r.now) (hlast : ∀ r ∈ requests, r.now ≤ now') (hle : now ≤ now')
    (hone : guard.Along (OneSpelling handler ip) windows requests) :
    ∃ a', Tracks handler ip now' (guard.run windows requests) a' := by
  induction requests generalizing now windows a with
  | nil => exact ⟨a, h.later hle⟩
  | cons r rs ih =>
    obtain ⟨hlater, hsorted⟩ := List.pairwise_cons.mp hsorted
    have htracks := h.later (hnow r List.mem_cons_self)
    have hlast' : ∀ q ∈ rs, q.now ≤ now' := fun q hq => hlast q (List.mem_cons_of_mem r hq)
    by_cases hreaches : Reaches handler ip r
    · exact ih (htracks.step hreaches hone.1).2 hsorted hlater hlast' (hlast r List.mem_cons_self) hone.2
    · exact ih (htracks.other hreaches) hsorted hlater hlast' (hlast r List.mem_cons_self) hone.2

theorem first_le {r : AuthRequest} (h : InOrder (r :: requests)) : ∀ q ∈ r :: requests, r.now ≤ q.now := by
  intro q hq
  rcases List.mem_cons.mp hq with rfl | hq
  · exact Int.le_refl _
  · exact (List.pairwise_cons.mp h).1 q hq

theorem exists_start (h : InOrder requests) : ∃ now, ∀ r ∈ requests, now ≤ r.now := by
  cases requests with
  | nil => exact ⟨0, fun r hr => absurd hr List.not_mem_nil⟩
  | cons r rs => exact ⟨r.now, first_le h⟩

theorem max_attempts_pos : 0 < MAX_ATTEMPTS := by decide

theorem window_ms_pos : 0 < WINDOW_MS := by decide

/-- A window is opened by a request that finds none; it admits at most `MAX_ATTEMPTS` requests, and an interval of its
length at most twice as many. -/
structure LimitedPerRoute (handler : AuthHandler) (ip : String) (requests : List AuthRequest) : Prop where
  window : ∀ pre r post, requests = pre ++ r :: post → Reaches handler ip r → Opens (guard.run empty pre) r →
    (admitted handler ip (guard.run empty pre) (r :: post)).countP (fun q => q.now < r.now + WINDOW_MS) ≤ MAX_ATTEMPTS
  interval : ∀ b, (admitted handler ip empty requests).countP (fun q => b ≤ q.now ∧ q.now ≤ b + WINDOW_MS) ≤
    2 * MAX_ATTEMPTS

/-- **Requests are limited per route** as long as none of the client to the handler meets an open window of another
spelling. -/
theorem limited_per_route (handler : AuthHandler) (ip : String) (requests : List AuthRequest)
    (hsorted : InOrder requests) (hone : guard.Along (OneSpelling handler ip) empty requests) :
    LimitedPerRoute handler ip requests where
  window := by
    rintro pre r post rfl hreaches hopens
    obtain ⟨now, hnow⟩ := exists_start hsorted
    obtain ⟨hpre, hpost, hbefore⟩ := List.pairwise_append.mp hsorted
    obtain ⟨hone₁, hone₂⟩ := (Machine.along_append empty pre (r :: post)).mp hone
    obtain ⟨a, ha⟩ := tracks_run tracks_empty hpre (fun q hq => hnow q (List.mem_append_left _ hq))
      (fun q hq => hbefore q hq r List.mem_cons_self) (hnow r (by simp)) hone₁
    have hgranted := admitted_eq_granted ha hpost (first_le hpost) hone₂
    rw [asked_cons, if_pos hreaches] at hgranted
    have hbound := granted_opened max_attempts_pos (asked_sorted handler ip (List.pairwise_cons.mp hpost).2)
      (ha.ended hreaches hone₂.1 hopens)
    rw [← hgranted, List.countP_map] at hbound
    exact hbound
  interval b := by
    obtain ⟨now, hnow⟩ := exists_start hsorted
    have hgranted := admitted_eq_granted tracks_empty hsorted hnow hone
    have hbound := granted_interval max_attempts_pos window_ms_pos (asked_sorted handler ip hsorted) b none
    rw [← hgranted, List.countP_map] at hbound
    exact hbound

/-- A client that spells the route one way, at `path`. -/
theorem oneSpelling_of_path (path : String) (h : ∀ r ∈ requests, Reaches handler ip r → r.path = path) :
    guard.Along (OneSpelling handler ip) empty requests := by
  refine Machine.along_of_inv
    (I := fun windows => ∀ p, MatchesRoute handler.route p → p ≠ path → windows (keyOf p ip) = none)
    (C := fun _ r => Reaches handler ip r → r.path = path) (fun windows r hI hr p hp hne => ?_)
    (fun windows r hI hr hreaches p hp hne window hwindow => ?_) (fun _ _ _ => rfl)
    (Machine.along_of_forall fun r hr _ => h r hr)
  · by_cases hk : keyOf p ip = key r
    · have hsame := ((sep_text_inj hp.colonFree r.routed.colonFree).mp hk).1
      exact absurd (hsame.trans (hr (reaches_of_key hp hk))) hne
    · rcases next_cases windows hk with hnext | ⟨hnext, -⟩
      · rw [hnext]
        exact hI p hp hne
      · exact hnext
  · rw [hr hreaches] at hne
    rw [hI p hp hne] at hwindow
    cases hwindow

end Tracks

/-! ## Two spellings -/

def address : String := "203.0.113.9"

def challengeRequest : AuthRequest := ⟨.createChallenge, "/auth/challenge", by decide, some address, 0⟩

def respelledRequest : AuthRequest := ⟨.createChallenge, "/auth/Challenge", by decide, some address, 0⟩

theorem limited_one_spelling :
    LimitedPerRoute .createChallenge address (List.replicate 12 challengeRequest) := by
  refine limited_per_route _ _ _ (by decide) (oneSpelling_of_path "/auth/challenge" fun r hr _ => ?_)
  rw [List.eq_of_mem_replicate hr]
  rfl

/-- The eleventh request of a window is admitted if it spells the route differently. -/
theorem respelled_admitted :
    ¬ LimitedPerRoute .createChallenge address (List.replicate 10 challengeRequest ++ [respelledRequest]) := by
  intro h
  have hwindow := h.window [] challengeRequest (List.replicate 9 challengeRequest ++ [respelledRequest]) rfl
    ⟨rfl, rfl⟩ fun _ hnone => by cases hnone
  revert hwindow
  decide

end AuthRateLimitGuard

end IKash
