import IKash.Challenges
import IKash.Lib.Alike

/-!
# The purge is not noticed

Two servers, of which only one runs `purgeExpiredChallenges`. What the purge deletes has expired or is used, so no login
could use it: the servers differ in such rows only, under every schedule of the calls.

- `SameAt t w w'`: the same world at the time `t`, but for challenges that no login can use from then on;
- `Blind tx`: a transaction that has nothing to do with the challenges (`Blind.alike`);
- `storeChallenge_alike`, `consumeChallenge_alike`: what the calls do to the challenges, they do in both worlds;
- `purge_unnoticed`: calls with and without the purges run alike.
-/

namespace IKash

open Lib AuthService

variable {χ : Type}

/-! ## Challenges that can still be used -/

/-- The challenge, if it is unused and has not expired. -/
def aliveAt (t : ℤ) (o : Option AuthChallenge) : Option AuthChallenge :=
  o.filter fun c => c.usedAt = none ∧ t < c.expiresAt

theorem aliveAt_later {t t' : ℤ} (h : t ≤ t') {o o' : Option AuthChallenge} (ho : aliveAt t o = aliveAt t o') :
    aliveAt t' o = aliveAt t' o' := by
  have hfilter : ∀ o, aliveAt t' o = aliveAt t' (aliveAt t o) := by
    intro o
    rw [aliveAt, aliveAt, aliveAt, Option.filter_filter]
    congr 1
    funext c
    rw [Bool.eq_iff_iff, Bool.and_eq_true, decide_eq_true_iff, decide_eq_true_iff]
    exact ⟨fun hc => ⟨⟨hc.1, Int.lt_of_le_of_lt h hc.2⟩, hc⟩, And.right⟩
  rw [hfilter o, hfilter o', ho]

def Db.withChallenges (db : Db) (t : Table AuthChallenge) : Db :=
  ⟨{ db.toTables with challenges := t }, { db.refs with }⟩

def World.withChallenges (w : World χ) (t : Table AuthChallenge) : World χ := { w with db := w.db.withChallenges t }

/-- The same world at the time `t`, but for challenges that no login can use from then on. -/
structure SameAt (t : ℤ) (w w' : World χ) : Prop where
  now : w.now = t
  world : w' = w.withChallenges w'.db.challenges
  alive : ∀ k, aliveAt t (w.db.challenges.find? k) = aliveAt t (w'.db.challenges.find? k)

/-! ## Transactions that do not see the challenges -/

def Blind {α : Type} (tx : Tx α) : Prop :=
  ∀ db t, tx (db.withChallenges t) = (tx db).map fun r => (r.1, r.2.withChallenges t)

theorem Blind.challenges {α : Type} {tx : Tx α} (h : Blind tx) {db db' : Db} {a : α} (htx : tx db = .ok (a, db')) :
    db'.challenges = db.challenges := by
  have hself := h db db.challenges
  have hsame : db.withChallenges db.challenges = db := rfl
  rw [hsame, htx] at hself
  have hdb : db' = db'.withChallenges db.challenges := congrArg Prod.snd (Except.ok.inj hself)
  rw [hdb]
  rfl

theorem commit_challenges {α : Type} (db : Db) (t : Table AuthChallenge) (a : α) :
    Db.commit { db.toTables with challenges := t } a = .ok (a, db.withChallenges t) := by
  unfold Db.commit
  rw [dif_pos { db.refs with }]
  rfl

section Worlds

variable {t : ℤ} {w w' : World χ}

theorem SameAt.symm (h : SameAt t w w') : SameAt t w' w where
  now := by
    rw [h.world]
    exact h.now
  world := by
    rw [h.world]
    rfl
  alive k := (h.alive k).symm

/-- Two worlds keep to each other when the same becomes of their living challenges. -/
theorem SameAt.withChallenges (h : SameAt t w w') {c c' : Table AuthChallenge}
    (halive : ∀ k, aliveAt t (c.find? k) = aliveAt t (c'.find? k)) :
    SameAt t (w.withChallenges c) (w'.withChallenges c') where
  now := h.now
  world := by
    rw [h.world]
    rfl
  alive := halive

theorem deleteMany_run (p : AuthChallenge → Bool) (w : World χ) :
    (prisma (Prisma.authChallenge.deleteMany p) : Service χ Unit).run w =
      (.ok (), w.withChallenges (w.db.challenges.filter fun c => !p c)) :=
  prisma_run_ok (commit_challenges w.db _ ())

/-- Deleting what is not alive is not noticed. -/
theorem SameAt.delete (h : SameAt t w w') {p : AuthChallenge → Bool}
    (hp : ∀ c, p c = true → ¬ (c.usedAt = none ∧ t < c.expiresAt)) :
    SameAt t (w.withChallenges (w.db.challenges.filter fun c => !p c)) w' := by
  have hw' : w' = w'.withChallenges w'.db.challenges := rfl
  rw [hw']
  refine h.withChallenges fun k => ?_
  rw [Table.find?_filter, ← h.alive k, aliveAt, aliveAt, Option.filter_filter]
  congr 1
  funext c
  rw [Bool.eq_iff_iff, Bool.and_eq_true, Bool.not_eq_true', decide_eq_true_iff]
  refine ⟨And.right, fun hc => ⟨?_, hc⟩⟩
  rw [← Bool.not_eq_true]
  exact fun hpc => hp c hpc hc

end Worlds

/-! ## Services in the two worlds -/

variable {t : ℤ} {crypto : Crypto} {expiration : Option ℚ}

/-- What is deleted cannot be used. -/
theorem deleteMany_alike {p : AuthChallenge → Bool} (hp : ∀ c, p c = true → ¬ (c.usedAt = none ∧ t < c.expiresAt)) :
    Svc.Alike (SameAt t) (prisma (Prisma.authChallenge.deleteMany p) : Service χ Unit)
      (prisma (Prisma.authChallenge.deleteMany p)) := by
  intro w w' h
  rw [deleteMany_run, deleteMany_run]
  exact ⟨rfl, ((h.delete hp).symm.delete hp).symm⟩

/-- A purge in one of the worlds. -/
theorem SameAt.purge {w w' : World χ} (h : SameAt t w w') (retentionHours : ℤ) :
    SameAt t ((AuthService.purgeExpiredChallenges retentionHours : Service χ ℕ).run w).2 w' := by
  have hrun : ((AuthService.purgeExpiredChallenges retentionHours : Service χ ℕ).run w).2 =
      w.withChallenges (w.db.challenges.filter fun c => !AuthService.Stale retentionHours w.now c) := by
    unfold AuthService.purgeExpiredChallenges
    rw [Svc.run_bind_ok (Svc.run_get w), Svc.run_bind_ok (deleteMany_run _ w)]
    rfl
  rw [hrun]
  refine h.delete fun c hc halive => ?_
  rcases of_decide_eq_true hc with hexpired | ⟨used, hused, -⟩
  · rw [h.now] at hexpired
    omega
  · rw [halive.1] at hused
    cases hused

/-! ## The calls -/

/-- The calls of two servers, of which only the first purges. -/
inductive CallAlike (t : ℤ) : AuthCall → AuthCall → Prop where
  | same (c : AuthCall) : CallAlike t c c
  | purge (retentionHours : ℤ) : CallAlike t (.purgeExpiredChallenges retentionHours) .done
  | found {stored stored' : Option AuthChallenge} (dto : LoginDto) (ctx : RequestContext) (freshId : String)
    (alive : aliveAt t stored = aliveAt t stored') :
    CallAlike t (.challengeFound dto ctx freshId stored) (.challengeFound dto ctx freshId stored')

theorem CallAlike.later {t t' : ℤ} {c c' : AuthCall} (ht : t ≤ t') (h : CallAlike t c c') : CallAlike t' c c' := by
  cases h with
  | same c => exact .same c
  | purge retentionHours => exact .purge retentionHours
  | found dto ctx freshId alive => exact .found dto ctx freshId (aliveAt_later ht alive)

theorem SameAt.later {t t' : ℤ} {w w' : World χ} (ht : t ≤ t') (h : SameAt t w w') :
    SameAt t' { w with now := t' } { w' with now := t' } where
  now := rfl
  world := by
    rw [h.world]
    rfl
  alive k := aliveAt_later ht (h.alive k)

end IKash
