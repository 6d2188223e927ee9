import IKash.Restart

/-!
# What the hash of a release tells

Two paths fill the column `txHashRelease`: `syncTransaction` with the first 64 characters of the signed transaction, and
the listener with the hash of the transaction. A released escrow is not touched any more, so that the value that was stored
is the one that is found at the end of the run.

- `released_next`, `released_run`: the row of a released escrow stays;
- `storedHash_sync`, `storedHash_event`: what either path leaves to the end of a run;
- `releaseHash_iff`: the values of two releases differ exactly if the signed transactions differ in their first 64
  characters, and the value is the listener's exactly if those characters are the hash, which they never are.
-/

namespace IKash

open Lib EscrowService StellarListenerService

variable {χ : Type} {tw : TrustlessWork χ} {w : World χ} {ops : List ServerOp} {k : String} {r e : EscrowOnChain}

/-! ## Released escrows -/

/-- The stored row, once it is released. -/
structure Released (k : String) (r : EscrowOnChain) (w : World χ) : Prop where
  stored : w.db.escrows.find? k = some r
  status : r.escrowStatus = .released

theorem released_next (op : ServerOp) (h : Released k r w) : Released k r ((server tw).next w op) := by
  obtain ⟨r', hr', rfl | ⟨t, hvalid, -⟩⟩ := transitions_next tw w op k r h.stored
  · exact ⟨hr', h.status⟩
  · exact absurd h.status (validTransitions_not_final hvalid).1

theorem released_run (h : Released k r w) : Released k r ((server tw).run w ops) :=
  Machine.run_inv (C := fun _ _ => True) (fun _ op h _ => released_next op h) h
    (Machine.along_of_forall fun _ _ _ => trivial)

/-- The column of a stored escrow. -/
def storedHash (k : String) (w : World χ) : Option String := (w.db.escrows.find? k).bind EscrowOnChain.txHashRelease

theorem Released.storedHash (h : Released k r w) : storedHash k w = r.txHashRelease := by
  unfold IKash.storedHash
  rw [h.stored]
  rfl

/-! ## The two paths -/

/-- The release is synchronised in the run, and answered. -/
def SyncedIn (tw : TrustlessWork χ) (w : World χ) (ops : List ServerOp) (dto : SyncEscrowDto) : Prop :=
  dto.action = .release ∧ ∃ pre post, ops = pre ++ .call (.syncTransaction dto) :: post ∧
    ∃ response, ((syncTransaction tw dto).run ((server tw).run w pre)).1 = .ok response

/-- The release event is applied to the escrow in the run. -/
def EventIn (tw : TrustlessWork χ) (w : World χ) (ops : List ServerOp) (event : OnChainEscrowEvent) (e : EscrowOnChain) :
    Prop :=
  event.eventType = .escrowReleased ∧ ∃ pre inst fault post, ops = pre ++ .call (.processEvent inst fault event) :: post ∧
    Applies inst fault event ((server tw).run w pre) e

section Paths

variable {dto : SyncEscrowDto} {event : OnChainEscrowEvent}

/-- A call that answers has rewritten its row. -/
theorem of_syncTransaction_ok {response : SyncResponse} (h : ((syncTransaction tw dto).run w).1 = .ok response) :
    ∃ e result, ((syncTransaction tw dto).run w).2.db.escrows.find? (uuid dto.escrowId) =
      some (syncData dto result e) := by
  rcases hrun : (syncTransaction tw dto).run w with ⟨answer, w'⟩
  rw [hrun] at h
  cases h
  unfold syncTransaction at hrun
  obtain ⟨e, w₁, -, hrest⟩ := Svc.of_run_bind_ok hrun
  obtain ⟨result, w₂, -, hrest⟩ := Svc.of_run_bind_ok hrest
  obtain ⟨_, w₃, hstore, haudit⟩ := Svc.of_run_bind_ok hrest
  rcases syncStore_cases dto result w₂ with ⟨t, hfail⟩ | ⟨e', db, hstored, he', hre⟩
  · rw [hfail] at hstore
    cases hstore
  · rw [hstored] at hstore
    cases hstore
    obtain ⟨_, db', hrecord, hre'⟩ := syncAudit_run dto e result { w₂ with db := db }
    rw [hrecord] at haudit
    cases haudit
    refine ⟨e', result, ?_⟩
    rw [hre'.find?_escrow, hre.find?_escrow, he', Option.map_some, Option.map_some,
      Table.atKey_eq (Table.key_of_find? he')]
    rfl

/-- **The sync path** leaves the start of the signed transaction. -/
theorem storedHash_sync (h : SyncedIn tw w ops dto) :
    storedHash (uuid dto.escrowId) ((server tw).run w ops) = some (Json.substring dto.signedXdr 64) := by
  obtain ⟨haction, pre, post, rfl, response, hok⟩ := h
  obtain ⟨e, result, hfind⟩ := of_syncTransaction_ok hok
  have hreleased : Released (uuid dto.escrowId) (syncData dto result e)
      ((server tw).next ((server tw).run w pre) (.call (.syncTransaction dto))) := by
    constructor
    · rw [server_next_call, flow_next_sync]
      exact hfind
    · rw [syncData_status, haction]
      rfl
  rw [Machine.run_append, Machine.run_cons, (released_run hreleased).storedHash]
  unfold syncData
  rw [haction]

/-- **The listener's path** leaves the hash of the event. -/
theorem storedHash_event (h : EventIn tw w ops event e) (hne : event.txHash ≠ "") :
    storedHash e.escrowId ((server tw).run w ops) = some event.txHash := by
  obtain ⟨htype, pre, inst, fault, post, rfl, happlies⟩ := h
  have hstored := Table.find?_eq_some.mpr ⟨findEscrow_mem happlies.1, rfl⟩
  have hreleased : Released e.escrowId (escrowData event e)
      ((server tw).next ((server tw).run w pre) (.call (.processEvent inst fault event))) := by
    constructor
    · rw [server_next_call, flow_next_event, happlies.rewrites.2.find?_escrow]
      exact (congrArg (Option.map _) hstored).trans (congrArg some (Table.atKey_eq rfl))
    · unfold escrowData
      rw [htype]
      rfl
  rw [Machine.run_append, Machine.run_cons, (released_run hreleased).storedHash]
  exact if_pos ⟨Or.inl htype, hne⟩

end Paths

/-! ## Identification -/

/-- The hash of a transaction: 64 lower-case hexadecimal digits. -/
def isTxHash (s : String) : Bool :=
  s.toList.length = 64 && s.toList.all fun c => c.isDigit || ('a' ≤ c && c ≤ 'f')

/-- The text of an envelope: it starts with the four bytes of the envelope's type, of which the first three are zero. -/
def isEnvelope (s : String) : Bool := Json.startsWith s "AAAA"

/-- A character of one code unit. -/
theorem units_cons {c : Char} (hc : c.toNat < 65536) (n : ℕ) (cs : List Char) :
    Json.units (n + 1) (c :: cs) = c :: Json.units n cs := by
  rw [Json.units, if_pos hc]

theorem units_append {cs : List Char} (h : cs.all (fun c => c.toNat < 65536) = true) (cs' : List Char) :
    Json.units cs.length (cs ++ cs') = cs := by
  induction cs with
  | nil => rw [List.length_nil, Json.units]
  | cons c cs ih =>
    obtain ⟨hc, hcs⟩ := Bool.and_eq_true_iff.mp h
    rw [List.length_cons, List.cons_append, units_cons (of_decide_eq_true hc), ih hcs]

theorem substring_append {s : String} {n : ℕ} (hn : s.toList.length = n)
    (h : s.toList.all (fun c => c.toNat < 65536) = true) (t : String) : Json.substring (s ++ t) n = s := by
  subst hn
  unfold Json.substring
  rw [String.toList_append, units_append h, String.ofList_toList]

theorem isEnvelope_append {s : String} (h : isEnvelope s = true) (t : String) : isEnvelope (s ++ t) = true := by
  unfold isEnvelope Json.startsWith at *
  rw [String.toList_append]
  exact List.isPrefixOf_iff_prefix.mpr ((List.isPrefixOf_iff_prefix.mp h).trans (List.prefix_append _ _))

theorem substring_ne_txHash {xdr hash : String} (hxdr : isEnvelope xdr = true) (hhash : isTxHash hash = true) :
    Json.substring xdr 64 ≠ hash := by
  rintro rfl
  obtain ⟨rest, hrest⟩ := List.isPrefixOf_iff_prefix.mp hxdr
  have hall := (Bool.and_eq_true_iff.mp hhash).2
  unfold Json.substring at hall
  rw [String.toList_ofList, ← hrest, List.all_eq_true] at hall
  exact absurd (hall 'A' List.mem_cons_self) (by decide)

/-- Of every two escrows that are released in the run with different signed transactions. -/
def ForReleases (tw : TrustlessWork χ) (w : World χ) (ops : List ServerOp) (P : SyncEscrowDto → SyncEscrowDto → Prop) :
    Prop :=
  ∀ dto dto', SyncedIn tw w ops dto → SyncedIn tw w ops dto' → uuid dto.escrowId ≠ uuid dto'.escrowId →
    dto.signedXdr ≠ dto'.signedXdr → P dto dto'

/-- **The recorded release hash.** The values of two escrows that are released in a run differ, whatever else happens in
it, exactly if the first 64 characters of the signed transactions differ. The value is the one that the listener would
have stored for the transaction exactly if those characters are its hash, and for no envelope they are. -/
theorem releaseHash_iff (txHash : String → String) (hformat : ∀ xdr, isTxHash (txHash xdr) = true) (tw : TrustlessWork χ)
    (w : World χ) (ops : List ServerOp) :
    (ForReleases tw w ops (fun dto dto' => storedHash (uuid dto.escrowId) ((server tw).run w ops) ≠
        storedHash (uuid dto'.escrowId) ((server tw).run w ops)) ↔
      ForReleases tw w ops fun dto dto' => Json.substring dto.signedXdr 64 ≠ Json.substring dto'.signedXdr 64) ∧
    ∀ dto, SyncedIn tw w ops dto → ∀ w' ops' event e, EventIn tw w' ops' event e → event.txHash = txHash dto.signedXdr →
      (storedHash (uuid dto.escrowId) ((server tw).run w ops) = storedHash e.escrowId ((server tw).run w' ops') ↔
        Json.substring dto.signedXdr 64 = txHash dto.signedXdr) ∧
      (isEnvelope dto.signedXdr = true →
        storedHash (uuid dto.escrowId) ((server tw).run w ops) ≠ storedHash e.escrowId ((server tw).run w' ops')) := by
  constructor
  · constructor
    · intro h dto dto' hdto hdto' hk hxdr heq
      refine h dto dto' hdto hdto' hk hxdr ?_
      rw [storedHash_sync hdto, storedHash_sync hdto', heq]
    · intro h dto dto' hdto hdto' hk hxdr heq
      rw [storedHash_sync hdto, storedHash_sync hdto'] at heq
      exact h dto dto' hdto hdto' hk hxdr (Option.some.inj heq)
  · intro dto hdto w' ops' event e hevent hhash
    have hne : event.txHash ≠ "" := by
      intro hempty
      have := hformat dto.signedXdr
      rw [← hhash, hempty] at this
      exact absurd this (by decide)
    rw [storedHash_sync hdto, storedHash_event hevent hne, hhash, Option.some_inj]
    exact ⟨Iff.rfl, fun hxdr h => substring_ne_txHash hxdr (hformat _) (Option.some.inj h)⟩

/-! ## Two releases of one signer -/

namespace Trade

def secondOrder : Order :=
  { orderId := "o2", offerId := "f2", buyerId := "u2", sellerId := "u1", orderStatus := .locked, expiresAt := some 10 }

def secondEscrow : EscrowOnChain :=
  { escrowId := "e2", orderId := "o2", contractId := some "C2", escrowStatus := .fiatSent }

/-- Two trades of the same people. -/
def pairDb : Db where
  users := (db .locked .fiatSent).users
  offers := ⟨[{ offerId := "f1", creatorId := "u1" }, { offerId := "f2", creatorId := "u1" }], by decide⟩
  orders := ⟨[order .locked, secondOrder], by decide⟩
  escrows := ⟨[escrow .fiatSent, secondEscrow], by decide⟩
  refs := by
    rw [Tables.refs_iff]
    simp [Table.Has, Table.empty, Keyed.key, db, order, secondOrder, escrow, secondEscrow, seller, buyer]

def pairWorld : World Unit where
  db := pairDb
  now := 20
  issued := []
  listeners _ := {}
  ext := ()

/-- The envelopes of one signer, with one fee, start alike: their type, the signer, the fee and half of the sequence
number. The other half comes next. -/
def envelopeStart : String := "AAAAAgAAAAABAgMEBQYHCAkKCwwNDg8QERITFBUWFxgZGhscHR4fIAAAAGQAAAAB"

def firstEnvelope : String := envelopeStart ++ ("AAAAAQ" ++
  "AAAAAAAAAAAAAAAQAAAAAAAAAYAAAAAAAAAAEBAQEBAQEBAQEBAQEBAQEBAQEBAQEBAQEBAQEBAQEBAQAAAAdyZWxlYXNlAAAAAAAAAAAAAAAAAAAAAAA=")

def secondEnvelope : String := envelopeStart ++ ("AAAAAg" ++
  "AAAAAAAAAAAAAAAQAAAAAAAAAYAAAAAAAAAAECAgICAgICAgICAgICAgICAgICAgICAgICAgICAgICAgAAAAdyZWxlYXNlAAAAAAAAAAAAAAAAAAAAAAA=")

/-- Their hashes on the test network. -/
def envelopeHash (xdr : String) : String :=
  if xdr = firstEnvelope then "d17b3ec7478b356f3f1da1c32e783cc0f54fa2a2cb658202ff6e1518721c4bc7"
  else "5e87ed8f5f70b1290196d89b780eebfd7894e938175568354ba033db5bfbfc1c"

theorem isTxHash_envelopeHash (xdr : String) : isTxHash (envelopeHash xdr) = true := by
  unfold envelopeHash
  split <;> decide

def firstRelease : SyncEscrowDto := ⟨"e1", firstEnvelope, .release⟩

def secondRelease : SyncEscrowDto := ⟨"e2", secondEnvelope, .release⟩

def releases : List ServerOp := [.call (.syncTransaction firstRelease), .call (.syncTransaction secondRelease)]

theorem firstRelease_synced : SyncedIn trustlessWork pairWorld releases firstRelease := ⟨rfl, [], _, rfl, _, rfl⟩

theorem secondRelease_synced : SyncedIn trustlessWork pairWorld releases secondRelease :=
  ⟨rfl, [.call (.syncTransaction firstRelease)], [], rfl, _, rfl⟩

/-- The event of the first release. -/
def firstEvent : OnChainEscrowEvent where
  eventId := "1"
  eventType := .escrowReleased
  contractId := "C1"
  txHash := envelopeHash firstEnvelope
  ledgerSequence := some 7
  eventIndex := some 0

def deliveredEvent : List ServerOp := [.call (.processEvent 0 none firstEvent)]

theorem firstEvent_applied : EventIn trustlessWork pairWorld deliveredEvent firstEvent (escrow .fiatSent) :=
  ⟨rfl, [], 0, none, [], rfl, rfl, rfl⟩

theorem firstEvent_hash : firstEvent.txHash = envelopeHash firstRelease.signedXdr := by
  simp only [firstEvent, firstRelease]

theorem envelopeStart_length : envelopeStart.toList.length = 64 := by decide

theorem firstRelease_start : Json.substring firstRelease.signedXdr 64 = envelopeStart :=
  substring_append (s := envelopeStart) envelopeStart_length (by decide) _

theorem secondRelease_start : Json.substring secondRelease.signedXdr 64 = envelopeStart :=
  substring_append (s := envelopeStart) envelopeStart_length (by decide) _

theorem isEnvelope_firstRelease : isEnvelope firstRelease.signedXdr = true :=
  isEnvelope_append (s := envelopeStart) (by decide) _

/-- The value of the first release is not the listener's. -/
theorem firstRelease_not_hash : storedHash (uuid firstRelease.escrowId) ((server trustlessWork).run pairWorld releases) ≠
    storedHash (escrow .fiatSent).escrowId ((server trustlessWork).run pairWorld deliveredEvent) :=
  ((releaseHash_iff envelopeHash isTxHash_envelopeHash trustlessWork pairWorld releases).2 firstRelease
    firstRelease_synced pairWorld deliveredEvent firstEvent (escrow .fiatSent) firstEvent_applied firstEvent_hash).2
    isEnvelope_firstRelease

/-- The two releases leave one value, and the listener would have stored another one. -/
theorem releases_share_hash : SyncedIn trustlessWork pairWorld releases firstRelease ∧
    SyncedIn trustlessWork pairWorld releases secondRelease ∧
    uuid firstRelease.escrowId ≠ uuid secondRelease.escrowId ∧ firstRelease.signedXdr ≠ secondRelease.signedXdr ∧
    storedHash (uuid firstRelease.escrowId) ((server trustlessWork).run pairWorld releases) =
      storedHash (uuid secondRelease.escrowId) ((server trustlessWork).run pairWorld releases) ∧
    EventIn trustlessWork pairWorld deliveredEvent firstEvent (escrow .fiatSent) ∧
    firstEvent.txHash = envelopeHash firstRelease.signedXdr ∧
    storedHash (uuid firstRelease.escrowId) ((server trustlessWork).run pairWorld releases) ≠
      storedHash (escrow .fiatSent).escrowId ((server trustlessWork).run pairWorld deliveredEvent) := by
  have hne : firstEvent.txHash ≠ "" := by
    intro hempty
    have hformat := isTxHash_envelopeHash firstRelease.signedXdr
    rw [← firstEvent_hash, hempty] at hformat
    exact absurd hformat (by decide)
  have hshared : storedHash (uuid firstRelease.escrowId) ((server trustlessWork).run pairWorld releases) =
      storedHash (uuid secondRelease.escrowId) ((server trustlessWork).run pairWorld releases) := by
    rw [storedHash_sync firstRelease_synced, storedHash_sync secondRelease_synced, firstRelease_start,
      secondRelease_start]
  refine ⟨firstRelease_synced, secondRelease_synced, by decide, ?_, hshared, firstEvent_applied, firstEvent_hash, ?_⟩
  · intro heq
    have htail := congrArg (Json.substring · 6) (String.append_right_inj envelopeStart |>.mp heq)
    have hsequence : "AAAAAQ" = "AAAAAg" :=
      (substring_append rfl (by decide) _).symm.trans (htail.trans (substring_append rfl (by decide) _))
    exact absurd hsequence (by decide)
  · rw [storedHash_sync firstRelease_synced, storedHash_event firstEvent_applied hne, firstEvent_hash]
    exact fun heq => substring_ne_txHash isEnvelope_firstRelease (isTxHash_envelopeHash _) (Option.some.inj heq)

end Trade

end IKash
