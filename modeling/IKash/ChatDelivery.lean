import IKash.Chat

/-!
# Delivery of chat messages

A room is named by the order id as the client spells it, while the database reads ids in either case: two spellings of one
id are one order and two rooms.

- `deliveryInv_next`: rooms are who has joined and stayed, and a message reaches the room of its sender's spelling;
- `delivered_iff`: messages reach everybody in the chat exactly if everybody in it has joined the sender's room;
- `spelledAlike_of_spells`: as when all clients spell an id alike.
-/

namespace IKash

open Lib ChatMessageGateway

variable {χ : Type}

/-- The joins and leaves of the log. -/
def moves (log : List ChatEntry) : List (RoomEvent ℕ String) :=
  log.filterMap fun entry => match entry with
    | .moved event => some event
    | _ => none

/-- The socket has joined the chat of the order `k` and has not left it, under any spellings. -/
def InChat (s : ℕ) (k : String) (log : List ChatEntry) : Prop :=
  Rooms.Stays s (fun room => uuid (orderIdFromRoom room) = k) (moves log)

instance (s : ℕ) (k : String) (log : List ChatEntry) : Decidable (InChat s k log) :=
  inferInstanceAs (Decidable (Rooms.Stays _ _ _))

/-- The socket has joined the chat under this spelling and has not left it. -/
def InRoom (s : ℕ) (orderId : String) (log : List ChatEntry) : Prop :=
  Rooms.Stays s (fun room => room = roomFor orderId) (moves log)

/-- A message reaches every socket that is in its chat when it is emitted. -/
def Delivered (log : List ChatEntry) : Prop :=
  ∀ before orderId message clientMessageId recipients,
    before ++ [.created orderId message clientMessageId recipients] <+: log →
      ∀ s, InChat s message.orderId before → s ∈ recipients

/-- Whoever is in the chat when a message is emitted has joined it as its sender spells the order. -/
def SpelledAlike (log : List ChatEntry) : Prop :=
  ∀ before orderId message clientMessageId recipients,
    before ++ [.created orderId message clientMessageId recipients] <+: log →
      ∀ s, InChat s (uuid orderId) before → InRoom s orderId before

/-- A persisted message has been emitted, or its call is about to emit it. -/
def EmittedOrPending (p : Pool (Hub χ) (ChatCall χ)) : Prop :=
  ∀ s orderId message, .persisted s orderId message ∈ p.shared.log →
    (∃ clientMessageId recipients, .created orderId message clientMessageId recipients ∈ p.shared.log) ∨
      ∃ i clientMessageId, p.calls i = .emit orderId message clientMessageId

/-! ## Rooms and messages -/

/-- A message is of the order its sender names, and reaches the room of this spelling. -/
def FaithfulEntry (before : List ChatEntry) : ChatEntry → Prop
  | .created orderId message _ recipients =>
    message.orderId = uuid orderId ∧ ∀ s, s ∈ recipients ↔ InRoom s orderId before
  | _ => True

structure DeliveryInv (h : Hub χ) : Prop where
  rooms : h.rooms = Rooms.empty.after (moves h.log)
  faithful : ∀ before entry, before ++ [entry] <+: h.log → FaithfulEntry before entry

/-- What a call emits is of the order that it names. -/
def NamesOrder : ChatCall χ → Prop
  | .emit orderId message _ => message.orderId = uuid orderId
  | _ => True

section Steps

variable {env : ChatEnv} {h h' : Hub χ} {c c' : ChatCall χ} {entry : ChatEntry} {log new : List ChatEntry}

theorem moves_append (log new : List ChatEntry) : moves (log ++ new) = moves log ++ moves new := List.filterMap_append ..

theorem mem_room_iff (hh : DeliveryInv h) {s : ℕ} {orderId : String} :
    h.rooms.Has s (roomFor orderId) ↔ InRoom s orderId h.log := by
  rw [hh.rooms]
  exact Rooms.has_after

/-- Entries that are no messages. -/
def Silent : ChatEntry → Prop
  | .created .. => False
  | _ => True

theorem faithful_of_silent {before : List ChatEntry} (he : Silent entry) : FaithfulEntry before entry := by
  cases entry with
  | created => exact he.elim
  | _ => trivial

/-- The rooms move as the log says, and the entries after it are faithful. -/
theorem DeliveryInv.snoc (hh : DeliveryInv h) (hrooms : h'.rooms = h.rooms.after (moves [entry]))
    (hlog : h'.log = h.log ++ [entry]) (he : FaithfulEntry h.log entry) : DeliveryInv h' := by
  refine ⟨?_, fun before e hpre => ?_⟩
  · rw [hrooms, hh.rooms, hlog, moves_append, Rooms.after, Rooms.after, Rooms.after, List.foldl_append]
  · rw [hlog] at hpre
    rcases List.prefix_concat_iff.mp hpre with heq | hpre
    · obtain ⟨rfl, hsame⟩ := List.append_inj' heq rfl
      rw [List.singleton_inj.mp hsame]
      exact he
    · exact hh.faithful before e hpre

theorem DeliveryInv.of_eq (hh : DeliveryInv h) (hrooms : h'.rooms = h.rooms) (hlog : h'.log = h.log) :
    DeliveryInv h' := by
  refine ⟨?_, fun before e hpre => hh.faithful before e (hlog ▸ hpre)⟩
  rw [hrooms, hlog, hh.rooms]

/-- The entries of a disconnecting socket. -/
theorem DeliveryInv.quiet (hh : DeliveryInv h) (hnew : ∀ entry ∈ new, Silent entry ∧ moves [entry] = []) :
    DeliveryInv { h with log := h.log ++ new } := by
  induction new using List.reverseRecOn with
  | nil => exact hh.of_eq rfl (List.append_nil _)
  | append_singleton new entry ih =>
    have hlast := hnew entry (List.mem_append_right _ List.mem_cons_self)
    refine (ih fun e he => hnew e (List.mem_append_left _ he)).snoc ?_ (List.append_assoc _ _ _).symm
      (faithful_of_silent hlast.1)
    rw [hlast.2]
    rfl

theorem DeliveryInv.push (hh : DeliveryInv h) (hmoves : moves [entry] = []) (he : FaithfulEntry h.log entry) :
    DeliveryInv (h.push entry) :=
  hh.snoc (by rw [hmoves]; rfl) rfl he

theorem DeliveryInv.moved (hh : DeliveryInv h) (event : RoomEvent ℕ String) : DeliveryInv (h.moved event) :=
  hh.snoc rfl rfl trivial

/-- A step keeps the rooms and the messages as the log says. -/
theorem delivery_stepped (hh : DeliveryInv h) (hc : NamesOrder c) (hs : ChatStepped env h c h' c') :
    DeliveryInv h' ∧ NamesOrder c' := by
  cases hs with
  | idle => exact ⟨hh, trivial⟩
  | failed => exact ⟨hh.push rfl trivial, trivial⟩
  | connected => exact ⟨hh.of_eq rfl rfl, trivial⟩
  | @disconnected s client =>
    have hquiet : DeliveryInv { h with log := h.log ++ disconnecting h client } :=
      hh.quiet (forall_disconnecting h client fun _ _ _ => ⟨trivial, rfl⟩)
    have hgone : DeliveryInv { h with
        connected := Function.update h.connected client.id false
        log := h.log ++ disconnecting h client } := hquiet.of_eq rfl rfl
    exact ⟨hgone.moved _, trivial⟩
  | joins => exact ⟨hh, trivial⟩
  | joinRead => exact ⟨hh, trivial⟩
  | joined _ hnext =>
    refine ⟨hh.moved _, ?_⟩
    rcases hnext with rfl | rfl <;> trivial
  | joinedNothing => exact ⟨hh, trivial⟩
  | userJoined => exact ⟨hh.push rfl trivial, trivial⟩
  | left _ _ hnext =>
    refine ⟨hh.moved _, ?_⟩
    rcases hnext with rfl | rfl <;> trivial
  | userLeft => exact ⟨hh.push rfl trivial, trivial⟩
  | sends => exact ⟨hh, trivial⟩
  | sendRead => exact ⟨hh, trivial⟩
  | @persisted client draft _ message db _ hmessage _ =>
    have hw : DeliveryInv { h with world := { h.world with db := db } } := hh.of_eq rfl rfl
    refine ⟨hw.push rfl trivial, ?_⟩
    show message.orderId = uuid draft.orderId
    rw [hmessage]
  | emitted =>
    refine ⟨hh.push rfl ⟨hc, fun s => ?_⟩, trivial⟩
    rw [Rooms.mem_members]
    exact mem_room_iff hh
  | posted => exact ⟨hh.of_eq rfl rfl, trivial⟩
  | guarded => exact ⟨hh, trivial⟩
  | deleted => exact ⟨hh.of_eq rfl rfl, trivial⟩
  | elsewhere => exact ⟨hh.of_eq rfl rfl, trivial⟩

/-- The log grows, and a message that is persisted is emitted next. -/
theorem log_stepped (hs : ChatStepped env h c h' c') : ∃ new, h'.log = h.log ++ new ∧
    ∀ s orderId message, .persisted s orderId message ∈ new → ∃ clientMessageId, c' = .emit orderId message clientMessageId := by
  cases hs with
  | failed | userJoined | userLeft | emitted | joined | left =>
    exact ⟨[_], rfl, fun _ _ _ hmem => by cases List.mem_singleton.mp hmem⟩
  | @disconnected s client =>
    refine ⟨_, log_disconnectSocket h client, fun r orderId message hmem => ?_⟩
    have hleft : ∀ entry ∈ disconnecting h client, entry ≠ .persisted r orderId message :=
      forall_disconnecting h client fun _ _ _ => nofun
    rcases List.mem_append.mp hmem with hmem | hmem
    · exact absurd rfl (hleft _ hmem)
    · cases List.mem_singleton.mp hmem
  | persisted =>
    refine ⟨[_], rfl, fun _ _ _ hmem => ?_⟩
    cases List.mem_singleton.mp hmem
    exact ⟨_, rfl⟩
  | idle | connected | joins | joinRead | joinedNothing | sends | sendRead | posted | guarded | deleted | elsewhere =>
    exact ⟨[], (List.append_nil _).symm, fun _ _ _ hmem => absurd hmem List.not_mem_nil⟩

end Steps

/-! ## Runs -/

section Runs

variable {env : ChatEnv} {p : Pool (Hub χ) (ChatCall χ)} {w : World χ} {ops : ℕ → ChatOp χ} {is : List ℕ}

/-- The rooms, the messages, and the calls that have persisted one. -/
structure ChatDeliveryInv (p : Pool (Hub χ) (ChatCall χ)) : Prop where
  hub : DeliveryInv p.shared
  calls : Pool.Asserted (fun _ => NamesOrder) p
  emitted : EmittedOrPending p

theorem emittedOrPending_next (h : EmittedOrPending p) (i : ℕ) : EmittedOrPending ((chat env).next p i) := by
  obtain ⟨new, hlog, hnew⟩ := log_stepped (chat_stepped env p.shared (p.calls i))
  intro s orderId message hmem
  rw [show ((chat env).next p i).shared.log = p.shared.log ++ new from hlog] at hmem ⊢
  have hcalls : ((chat env).next p i).calls = Function.update p.calls i (chatStep env p.shared (p.calls i)).2 := rfl
  rw [hcalls]
  rcases List.mem_append.mp hmem with hold | hnow
  · rcases h s orderId message hold with ⟨c, recipients, hcreated⟩ | ⟨j, c, hj⟩
    · exact .inl ⟨c, recipients, List.mem_append_left _ hcreated⟩
    · by_cases hij : j = i
      · -- the call of the message steps, and emits it
        subst hij
        have hemit : (chatStep env p.shared (p.calls j)).1.log =
            p.shared.log ++ [.created orderId message c (p.shared.rooms.members (roomFor orderId))] := by
          rw [hj]
          rfl
        rw [hemit] at hlog
        rw [← List.append_cancel_left hlog]
        exact .inl ⟨c, _, List.mem_append_right _ List.mem_cons_self⟩
      · exact .inr ⟨j, c, (Function.update_of_ne hij _ _).trans hj⟩
  · obtain ⟨c, hc⟩ := hnew s orderId message hnow
    exact .inr ⟨i, c, (Function.update_self ..).trans hc⟩

theorem deliveryInv_next (h : ChatDeliveryInv p) (i : ℕ) : ChatDeliveryInv ((chat env).next p i) := by
  obtain ⟨hhub, hcall⟩ := delivery_stepped h.hub (h.calls i) (chat_stepped env p.shared (p.calls i))
  exact ⟨hhub, Pool.asserted_next h.calls (fun _ => hcall) fun _ _ hother => hother, emittedOrPending_next h.emitted i⟩

theorem deliveryInv_started (w : World χ) (ops : ℕ → ChatOp χ) : ChatDeliveryInv (started w ops) := by
  refine ⟨⟨rfl, fun before entry hpre => ?_⟩, fun i => ?_, fun _ _ _ hmem => absurd hmem List.not_mem_nil⟩
  · have hlen := hpre.length_le
    simp [started] at hlen
  · show NamesOrder (ops i).call
    cases ops i <;> trivial

theorem deliveryInv_run (env : ChatEnv) (w : World χ) (ops : ℕ → ChatOp χ) (is : List ℕ) :
    ChatDeliveryInv ((chat env).run (started w ops) is) :=
  Machine.run_inv (C := fun _ _ => True) (fun _ i h _ => deliveryInv_next h i) (deliveryInv_started w ops)
    (Machine.along_of_forall fun _ _ _ => trivial)

/-- **Complete delivery**: after every run, every persisted message has been emitted, or its call is about to emit it; and
the messages reached everybody in their chats, exactly if these had joined as the sender spells the order. -/
theorem delivered_iff (env : ChatEnv) (w : World χ) (ops : ℕ → ChatOp χ) (is : List ℕ) :
    EmittedOrPending ((chat env).run (started w ops) is) ∧
        Delivered ((chat env).run (started w ops) is).shared.log ↔
      SpelledAlike ((chat env).run (started w ops) is).shared.log := by
  obtain ⟨⟨-, hfaithful⟩, -, hemitted⟩ := deliveryInv_run env w ops is
  constructor
  · rintro ⟨-, hdelivered⟩ before orderId message clientMessageId recipients hpre s hs
    obtain ⟨horder, hrecipients⟩ := hfaithful _ _ hpre
    rw [← horder] at hs
    exact (hrecipients s).mp (hdelivered _ _ _ _ _ hpre s hs)
  · refine fun hspelled => ⟨hemitted, fun before orderId message clientMessageId recipients hpre s hs => ?_⟩
    obtain ⟨horder, hrecipients⟩ := hfaithful _ _ hpre
    rw [horder] at hs
    exact (hrecipients s).mpr (hspelled _ _ _ _ _ hpre s hs)

end Runs

/-! ## One spelling -/

/-- The client spells the ids of orders in this way. -/
def ChatOp.Spells (spelling : String → String) : ChatOp χ → Prop
  | .joinOrder _ body _ => ∀ orderId, validOrderId body = some orderId → orderId = spelling (uuid orderId)
  | .sendMessage _ body _ _ _ => ∀ orderId, validOrderId body = some orderId → orderId = spelling (uuid orderId)
  | _ => True

/-- A call spells the id of its order in this way. -/
def SpelledCall (spelling : String → String) : ChatCall χ → Prop
  | .joinOrder _ body _ => ∀ orderId, validOrderId body = some orderId → orderId = spelling (uuid orderId)
  | .joinAccess _ orderId _ => orderId = spelling (uuid orderId)
  | .joinDecide _ orderId _ => orderId = spelling (uuid orderId)
  | .sendMessage _ body _ _ _ => ∀ orderId, validOrderId body = some orderId → orderId = spelling (uuid orderId)
  | .sendAccess _ draft => draft.orderId = spelling (uuid draft.orderId)
  | .sendDecide _ draft _ => draft.orderId = spelling (uuid draft.orderId)
  | .emit orderId _ _ => orderId = spelling (uuid orderId)
  | _ => True

/-- Joins and messages name their orders in this way. -/
def SpelledEntry (spelling : String → String) : ChatEntry → Prop
  | .moved (.joined _ room) => ∃ orderId, room = roomFor orderId ∧ orderId = spelling (uuid orderId)
  | .created orderId _ _ _ => orderId = spelling (uuid orderId)
  | _ => True

section Spelling

variable {env : ChatEnv} {spelling : String → String} {h h' : Hub χ} {c c' : ChatCall χ} {log : List ChatEntry}

theorem spelled_snoc {entry : ChatEntry} (hlog : ∀ e ∈ log, SpelledEntry spelling e) (he : SpelledEntry spelling entry) :
    ∀ e ∈ log ++ [entry], SpelledEntry spelling e :=
  List.forall_mem_append.mpr ⟨hlog, List.forall_mem_singleton.mpr he⟩

theorem spelled_stepped (hlog : ∀ e ∈ h.log, SpelledEntry spelling e) (hc : SpelledCall spelling c)
    (hs : ChatStepped env h c h' c') : (∀ e ∈ h'.log, SpelledEntry spelling e) ∧ SpelledCall spelling c' := by
  cases hs with
  | idle | connected | posted | guarded | deleted | elsewhere | joinedNothing => exact ⟨hlog, trivial⟩
  | failed | userJoined | userLeft => exact ⟨spelled_snoc hlog trivial, trivial⟩
  | @disconnected s client =>
    have hleft := forall_disconnecting (P := SpelledEntry spelling) h client fun _ _ _ => trivial
    exact ⟨spelled_snoc (List.forall_mem_append.mpr ⟨hlog, hleft⟩) trivial, trivial⟩
  | joins _ hid => exact ⟨hlog, hc _ hid⟩
  | joinRead => exact ⟨hlog, hc⟩
  | joined _ hnext =>
    refine ⟨spelled_snoc hlog ⟨_, rfl, hc⟩, ?_⟩
    rcases hnext with rfl | rfl <;> trivial
  | left _ _ hnext =>
    refine ⟨spelled_snoc hlog trivial, ?_⟩
    rcases hnext with rfl | rfl <;> trivial
  | sends _ hid => exact ⟨hlog, hc _ hid⟩
  | sendRead => exact ⟨hlog, hc⟩
  | persisted => exact ⟨spelled_snoc hlog trivial, hc⟩
  | emitted => exact ⟨spelled_snoc hlog hc, trivial⟩

/-- In such a log, who is in a chat has joined it as a sender spells it. -/
theorem spelledAlike_of_entries (hlog : ∀ e ∈ log, SpelledEntry spelling e) : SpelledAlike log := by
  intro before orderId message clientMessageId recipients hpre s hs
  have hmem : ∀ e ∈ before ++ [.created orderId message clientMessageId recipients], SpelledEntry spelling e :=
    fun e he => hlog e (hpre.subset he)
  have hsender : orderId = spelling (uuid orderId) := hmem _ (List.mem_append_right _ List.mem_cons_self)
  refine Rooms.Stays.of_joins ?_ (fun room hjoined hroom => ?_) hs
  · rw [orderIdFromRoom_roomFor]
    exact decide_eq_true rfl
  · obtain ⟨entry, hentry, hmoved⟩ := List.mem_filterMap.mp hjoined
    cases entry with
    | moved event =>
      cases hmoved
      obtain ⟨joinedId, rfl, hjoinedId⟩ := hmem _ (List.mem_append_left _ hentry)
      rw [orderIdFromRoom_roomFor] at hroom
      rw [hjoinedId, of_decide_eq_true hroom, ← hsender]
    | _ => cases hmoved

/-- Clients that spell every id in one way are all in one room. -/
theorem spelledAlike_of_spells (env : ChatEnv) (w : World χ) (ops : ℕ → ChatOp χ) (is : List ℕ)
    (h : ∀ i, (ops i).Spells spelling) : SpelledAlike ((chat env).run (started w ops) is).shared.log := by
  have hinv : ∀ p : Pool (Hub χ) (ChatCall χ), ∀ i,
      ((∀ e ∈ p.shared.log, SpelledEntry spelling e) ∧ Pool.Asserted (fun _ => SpelledCall spelling) p) → True →
        (∀ e ∈ ((chat env).next p i).shared.log, SpelledEntry spelling e) ∧
          Pool.Asserted (fun _ => SpelledCall spelling) ((chat env).next p i) := by
    intro p i hp _
    obtain ⟨hlog, hcall⟩ := spelled_stepped hp.1 (hp.2 i) (chat_stepped env p.shared (p.calls i))
    exact ⟨hlog, Pool.asserted_next hp.2 (fun _ => hcall) fun _ _ hother => hother⟩
  have hstart : (∀ e ∈ (started w ops).shared.log, SpelledEntry spelling e) ∧
      Pool.Asserted (fun _ => SpelledCall spelling) (started w ops) := by
    refine ⟨fun e hmem => absurd hmem List.not_mem_nil, fun i => ?_⟩
    have hi := h i
    show SpelledCall spelling (ops i).call
    cases hop : ops i <;> rw [hop] at hi <;> exact hi
  exact spelledAlike_of_entries (Machine.run_inv hinv hstart (Machine.along_of_forall fun _ _ _ => trivial)).1

end Spelling

/-- A message that somebody in its chat does not get. -/
theorem not_delivered_of_missed {log : List ChatEntry} {n s : ℕ} {k : String} {recipients : List ℕ}
    (hsent : (log[n]?).bind ChatEntry.sent? = some (k, recipients)) (hin : InChat s k (log.take n))
    (hmissed : s ∉ recipients) : ¬ Delivered log := by
  intro hdelivered
  obtain ⟨entry, hentry, hcreated⟩ := Option.bind_eq_some_iff.mp hsent
  cases entry with
  | created orderId message clientMessageId rs =>
    obtain ⟨rfl, rfl⟩ := Prod.mk.inj (Option.some.inj hcreated)
    have hpre := List.take_prefix (n + 1) log
    rw [List.take_add_one, hentry] at hpre
    exact hmissed (hdelivered _ _ _ _ _ hpre s hin)
  | _ => cases hcreated

/-- The seller has joined in upper case and the buyer writes in lower case: the seller gets nothing. -/
theorem Talk.upper_case_misses : ¬ (EmittedOrPending ((chat Talk.env).run
      (started Talk.world (Talk.ops Talk.upperOrderId Talk.orderId)) Talk.schedule) ∧
    Delivered (Talk.hub Talk.upperOrderId Talk.orderId).log) := by
  have hsent : ((Talk.hub Talk.upperOrderId Talk.orderId).log[5]?).bind ChatEntry.sent? =
      some (Talk.orderId, [2]) := by decide
  have hin : InChat 1 Talk.orderId ((Talk.hub Talk.upperOrderId Talk.orderId).log.take 5) := by decide
  exact fun h => not_delivered_of_missed hsent hin (by decide) h.2

end IKash
