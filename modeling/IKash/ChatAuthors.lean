import IKash.ChatPrivacy

/-!
# The authors of chat messages

Two transports insert messages: `send-message`, for the user of a socket whose access to the order was checked, and
`POST /chat-messages`, which inserts what its body says. A message that is in the database has been there since the call
that inserted it, and the question is for whom that call was authenticated.

- `inserted_stepped`: what a step does to the messages;
- `authored_iff`: a step inserts authored messages only, exactly if its post is vouched for;
- `unforged_iff`: so all messages of a run are authored, exactly if every post is.
-/

namespace IKash

open Lib ChatMessageGateway

variable {χ : Type}

/-- The call carries the token, or is of a socket that was authenticated with it. -/
def CarriedBy (h : Hub χ) (t : Token) : ChatCall χ → Prop
  | .sendDecide client _ _ => t ∈ h.world.issued ∧ h.clients client.id = some ⟨t.sub, t.publicKey⟩
  | .postMessage bearer _ _ _ => bearer = some t ∧ ValidToken h.world t
  | _ => False

/-- The user of the token is the buyer or the seller of the order, or support. -/
def MayWrite (config : ChatConfig) (db : Db) (orderId : String) (t : Token) : Prop :=
  ∃ o ∈ db.orders.rows, o.orderId = orderId ∧ MayChat config (o.buyerId, o.sellerId) ⟨t.sub, t.publicKey⟩

instance (config : ChatConfig) (db : Db) (orderId : String) (t : Token) : Decidable (MayWrite config db orderId t) :=
  inferInstanceAs (Decidable (∃ o ∈ db.orders.rows, _))

/-- The call is authenticated as the sender of the message, who may write to its order. -/
def Authored (config : ChatConfig) (h : Hub χ) (c : ChatCall χ) (m : ChatMessage) : Prop :=
  ∃ t, CarriedBy h t c ∧ m.senderId = uuid t.sub ∧ MayWrite config h.world.db m.orderId t

/-- Every message that is in the database at some time of the run was there from the start, or it has been there since
a call that was authenticated as its sender. -/
def Unforged (env : ChatEnv) (w : World χ) (ops : ℕ → ChatOp χ) (is : List ℕ) : Prop :=
  ∀ m : ChatMessage, ∀ pre, pre <+: is →
    m ∈ ((chat env).run (started w ops) pre).shared.world.db.chatMessages.rows →
      (chat env).Caused (fun p => m ∈ p.shared.world.db.chatMessages.rows)
        (fun p i => Authored env.config p.shared (p.calls i) m) (started w ops) pre

/-- The database takes a message with this id: the id is new, and the order and the sender exist. -/
def Insertable (db : Db) (dto : CreateChatMessageDto) (messageId : String) : Prop :=
  ¬ db.chatMessages.Has messageId ∧ db.orders.Has (uuid dto.orderId) ∧ db.users.Has (uuid dto.senderId)

instance (db : Db) (dto : CreateChatMessageDto) (messageId : String) : Decidable (Insertable db dto messageId) :=
  inferInstanceAs (Decidable (_ ∧ _))

/-- A post that the database takes has a valid token of the sender it names, who may write to the order. -/
def VouchedPost (config : ChatConfig) (h : Hub χ) : ChatCall χ → Prop
  | .postMessage bearer (some dto) messageId none => Insertable h.world.db dto messageId →
      ∃ t, bearer = some t ∧ ValidToken h.world t ∧ uuid dto.senderId = uuid t.sub ∧
        MayWrite config h.world.db (uuid dto.orderId) t
  | _ => True

instance (config : ChatConfig) (h : Hub χ) : ∀ c, Decidable (VouchedPost config h c)
  | .postMessage none (some _) _ none => decidable_of_iff (¬ Insertable _ _ _)
      ⟨fun hn htakes => absurd htakes hn, fun hv htakes => by obtain ⟨t, ht, -⟩ := hv htakes; cases ht⟩
  | .postMessage (some t) (some dto) messageId none =>
    decidable_of_iff (Insertable h.world.db dto messageId → ValidToken h.world t ∧ uuid dto.senderId = uuid t.sub ∧
        MayWrite config h.world.db (uuid dto.orderId) t)
      ⟨fun hv htakes => ⟨t, rfl, hv htakes⟩, fun hv htakes => by
        obtain ⟨_, ht, hrest⟩ := hv htakes
        cases ht
        exact hrest⟩
  | .postMessage _ none _ _ | .postMessage _ (some _) _ (some _) | .connect .. | .disconnect _ | .joinOrder ..
  | .joinAccess .. | .joinDecide .. | .announceJoined .. | .leaveOrder .. | .announceLeft .. | .sendMessage ..
  | .sendAccess .. | .sendDecide .. | .emit .. | .deleteMessage .. | .delete _ | .elsewhere _ | .done => isTrue trivial

/-- What happens outside the chat leaves the orders and the messages alone, and takes no token back. -/
def Apart (h : Hub χ) : ChatCall χ → Prop
  | .elsewhere change => (change h.world).db.orders.rows = h.world.db.orders.rows ∧
      (change h.world).db.chatMessages.rows = h.world.db.chatMessages.rows ∧
      h.world.issued ⊆ (change h.world).issued
  | _ => True

instance (h : Hub χ) : ∀ c, Decidable (Apart h c)
  | .elsewhere _ => inferInstanceAs (Decidable (_ ∧ _))
  | .connect .. | .disconnect _ | .joinOrder .. | .joinAccess .. | .joinDecide .. | .announceJoined ..
  | .leaveOrder .. | .announceLeft .. | .sendMessage .. | .sendAccess .. | .sendDecide .. | .emit ..
  | .postMessage .. | .deleteMessage .. | .delete _ | .done => isTrue trivial

/-! ## Insertions -/

section Insertions

variable {db db' : Db} {m : ChatMessage}

theorem chatMessage_create (h : Prisma.chatMessage.create m db = .ok (m, db')) : db'.orders = db.orders ∧
    (∀ x, x ∈ db'.chatMessages.rows ↔ x ∈ db.chatMessages.rows ∨ x = m) ∧
    ¬ db.chatMessages.Has m.messageId ∧ db.orders.Has m.orderId ∧ db.users.Has m.senderId := by
  obtain ⟨t, ht, -, hdb⟩ := Delegate.create_eq_ok.mp h
  have horders : db'.orders = db.orders := (congrArg Tables.orders hdb).trans rfl
  have husers : db'.users = db.users := (congrArg Tables.users hdb).trans rfl
  have hmessages : db'.chatMessages = t := (congrArg Tables.chatMessages hdb).trans rfl
  have hmem : m ∈ db'.chatMessages.rows := by
    rw [hmessages]
    exact (Table.mem_insert ht).mpr (.inr rfl)
  refine ⟨horders, fun x => ?_, Table.not_has_of_insert ht, ?_, ?_⟩
  · rw [hmessages]
    exact Table.mem_insert ht
  · rw [← horders]
    exact db'.refs.messageOrder m hmem
  · rw [← husers]
    exact db'.refs.messageSender m hmem

theorem chatMessage_create_isOk (hnew : ¬ db.chatMessages.Has m.messageId) (horder : db.orders.Has m.orderId)
    (hsender : db.users.Has m.senderId) : ∃ db', Prisma.chatMessage.create m db = .ok (m, db') := by
  have hclash : ∀ x ∈ db.chatMessages.rows, ¬ Clash x m := by
    rintro x hx (hkey | ⟨u, hu, -⟩)
    · exact hnew ⟨x, hx, hkey⟩
    · cases hu
  obtain ⟨t, ht⟩ := Table.insert_isSome hclash
  have hrefs : ({ db.toTables with chatMessages := t } : Tables).Refs := { db.refs with
    messageOrder := fun x hx => by
      rcases (Table.mem_insert ht).mp hx with hx | rfl
      · exact db.refs.messageOrder x hx
      · exact horder
    messageSender := fun x hx => by
      rcases (Table.mem_insert ht).mp hx with hx | rfl
      · exact db.refs.messageSender x hx
      · exact hsender }
  exact ⟨⟨_, hrefs⟩, Delegate.create_eq_ok.mpr ⟨t, ht, rfl, rfl⟩⟩

end Insertions

/-! ## Steps -/

/-- The call is about to insert the message. -/
inductive Inserting (config : ChatConfig) (db : Db) (m : ChatMessage) : ChatCall χ → Prop where
  | send {client draft isParticipant} : accessError config client.data draft.orderId isParticipant = none →
    m.orderId = uuid draft.orderId → m.senderId = uuid client.data.userId → db.orders.Has m.orderId →
    Inserting config db m (.sendDecide client draft isParticipant)
  | post {bearer dto messageId} : m.orderId = uuid dto.orderId → m.senderId = uuid dto.senderId →
    Insertable db dto messageId → Inserting config db m (.postMessage bearer (some dto) messageId none)

/-- The sockets were authenticated with tokens that this service has signed. -/
def TokenClients (h : Hub χ) : Prop :=
  ∀ s data, h.clients s = some data → ∃ t ∈ h.world.issued, data = ⟨t.sub, t.publicKey⟩

section Steps

variable {env : ChatEnv} {parties : String → String × String} {h h' : Hub χ} {c c' : ChatCall χ} {m : ChatMessage}

theorem authenticateSocket_ok {w : World χ} {handshake : Handshake} {data : AuthenticatedSocketData}
    (hok : authenticateSocket env w handshake = .ok data) : ∃ t ∈ w.issued, data = ⟨t.sub, t.publicKey⟩ := by
  unfold authenticateSocket at hok
  dsimp only at hok
  split at hok
  next t ht =>
    obtain ⟨-, hvalid⟩ := Option.filter_eq_some_iff.mp ht
    cases hok
    exact ⟨t, (of_decide_eq_true hvalid).1.1, rfl⟩
  next => cases hok

/-- What a step does to the orders and the messages. -/
theorem inserted_stepped (hapart : Apart h c) (hs : ChatStepped env h c h' c') :
    h'.world.db.orders.rows = h.world.db.orders.rows ∧ ∀ m ∈ h'.world.db.chatMessages.rows,
      m ∈ h.world.db.chatMessages.rows ∨ Inserting env.config h.world.db m c := by
  cases hs with
  | @persisted client draft isParticipant message db hnone hmessage hcreate =>
    obtain ⟨horders, hmem, -, horder, -⟩ := chatMessage_create hcreate
    refine ⟨congrArg Table.rows horders, fun m hm => ?_⟩
    rcases (hmem m).mp hm with hm | rfl
    · exact .inl hm
    · rw [hmessage] at horder ⊢
      exact .inr (.send hnone rfl rfl horder)
  | @posted bearer dto messageId message db hmessage hcreate =>
    obtain ⟨horders, hmem, htakes⟩ := chatMessage_create hcreate
    refine ⟨congrArg Table.rows horders, fun m hm => ?_⟩
    rcases (hmem m).mp hm with hm | rfl
    · exact .inl hm
    · rw [hmessage] at htakes ⊢
      exact .inr (.post rfl rfl htakes)
  | @deleted id message db hdelete =>
    obtain ⟨-, hdb⟩ := Delegate.delete_eq_ok.mp hdelete
    have hmessages : db.chatMessages = h.world.db.chatMessages.filter _ := (congrArg Tables.chatMessages hdb).trans rfl
    refine ⟨(congrArg (fun t : Tables => t.orders.rows) hdb).trans rfl, fun m hm => .inl ?_⟩
    have hm : m ∈ db.chatMessages.rows := hm
    rw [hmessages] at hm
    exact List.mem_of_mem_filter hm
  | elsewhere =>
    refine ⟨hapart.1, fun m hm => .inl ?_⟩
    rw [← hapart.2.1]
    exact hm
  | _ => exact ⟨rfl, fun m hm => .inl hm⟩

theorem tokenClients_stepped (hapart : Apart h c) (hh : TokenClients h) (hs : ChatStepped env h c h' c') :
    TokenClients h' := by
  cases hs with
  | @connected s _ data _ hok =>
    intro r d hr
    change Function.update h.clients s (some data) r = some d at hr
    by_cases hrs : r = s
    · rw [hrs, Function.update_self] at hr
      cases hr
      exact authenticateSocket_ok hok
    · rw [Function.update_of_ne hrs] at hr
      exact hh r d hr
  | elsewhere =>
    intro r d hr
    obtain ⟨t, ht, hd⟩ := hh r d hr
    exact ⟨t, hapart.2.2 ht, hd⟩
  | _ => exact hh

/-- The gateway inserts for the user of the socket, whose access it has checked. -/
theorem authored_send {client : ChatClient} {draft : Draft} {isParticipant : Option Bool}
    (hparties : PartiesAre parties h.world.db) (hh : TokenClients h)
    (hc : Permitted parties h (.sendDecide client draft isParticipant))
    (hnone : accessError env.config client.data draft.orderId isParticipant = none)
    (horder : m.orderId = uuid draft.orderId) (hsender : m.senderId = uuid client.data.userId)
    (hhas : h.world.db.orders.Has m.orderId) :
    Authored env.config h (.sendDecide client draft isParticipant) m := by
  obtain ⟨hclient, -, hanswer⟩ := hc
  obtain ⟨t, ht, hdata⟩ := hh _ _ hclient
  obtain ⟨o, ho, hkey⟩ := hhas
  have hmay := mayChat_of_accessError hnone hanswer
  rw [← horder, ← show o.orderId = m.orderId from hkey, ← hparties o ho, hdata] at hmay
  rw [hdata] at hclient hsender
  exact ⟨t, ⟨ht, hclient⟩, hsender, o, ho, hkey, hmay⟩

/-- A step inserts authored messages only, exactly if its post is vouched for. -/
theorem authored_iff (hapart : Apart h c) (hparties : PartiesAre parties h.world.db) (hh : TokenClients h)
    (hc : Permitted parties h c) :
    (∀ m, m ∉ h.world.db.chatMessages.rows → m ∈ (chatStep env h c).1.world.db.chatMessages.rows →
      Authored env.config h c m) ↔ VouchedPost env.config h c := by
  constructor
  · intro hauthored
    unfold VouchedPost
    split
    next bearer dto messageId =>
      rintro ⟨hnew, horder, hsender⟩
      obtain ⟨db, hcreate⟩ := chatMessage_create_isOk
        (m := ⟨messageId, uuid dto.orderId, uuid dto.senderId, dto.content⟩) hnew horder hsender
      have hstep : (chatStep env h (.postMessage bearer (some dto) messageId none)).1 =
          { h with world := { h.world with db := db } } :=
        congrArg Prod.fst (await_query_ok
          (show (ChatMessageController.create (some dto) messageId none).run h.world = _ from prisma_run_ok hcreate))
      obtain ⟨t, ⟨hbearer, hvalid⟩, hsub, hmay⟩ := hauthored _ (fun hmem => hnew ⟨_, hmem, rfl⟩) (by
        rw [hstep]
        exact ((chatMessage_create hcreate).2.1 _).mpr (.inr rfl))
      exact ⟨t, hbearer, hvalid, hsub, hmay⟩
    next => trivial
  · intro hvouched m hnew hmem
    rcases ((inserted_stepped hapart (chat_stepped env h c)).2 m hmem).resolve_left hnew with
      ⟨hnone, horder, hsender, hhas⟩ | ⟨horder, hsender, htakes⟩
    · exact authored_send hparties hh hc hnone horder hsender hhas
    · obtain ⟨t, hbearer, hvalid, hsub, hmay⟩ := hvouched htakes
      rw [← horder] at hmay
      exact ⟨t, ⟨hbearer, hvalid⟩, hsender.trans hsub, hmay⟩

end Steps

/-! ## Runs -/

/-- The buyers and sellers in the database. -/
def partiesOf (db : Db) (orderId : String) : String × String :=
  ((db.orders.find? orderId).map fun o => (o.buyerId, o.sellerId)).getD ("", "")

theorem partiesAre_of_rows {db db' : Db} (h : db'.orders.rows = db.orders.rows) : PartiesAre (partiesOf db) db' := by
  intro o ho
  rw [h] at ho
  rw [partiesOf, show db.orders.find? o.orderId = some o from Table.find?_eq_some.mpr ⟨ho, rfl⟩]
  rfl

/-- The orders are those of the start, and every call can rely on its checks. -/
structure AuthorsInv (config : ChatConfig) (db : Db) (p : Pool (Hub χ) (ChatCall χ)) : Prop where
  chat : ChatInv config (partiesOf db) p
  clients : TokenClients p.shared
  orders : p.shared.world.db.orders.rows = db.orders.rows

section Runs

variable {env : ChatEnv} {db : Db} {p : Pool (Hub χ) (ChatCall χ)} {i : ℕ}

theorem authorsInv_next (h : AuthorsInv env.config db p) (hapart : Apart p.shared (p.calls i)) :
    AuthorsInv env.config db ((chat env).next p i) := by
  have hstep := chat_stepped env p.shared (p.calls i)
  refine ⟨chatInv_next h.chat (partiesAre_of_rows h.orders), tokenClients_stepped hapart h.clients hstep, ?_⟩
  exact (inserted_stepped hapart hstep).1.trans h.orders

theorem authored_next_iff (h : AuthorsInv env.config db p) (hapart : Apart p.shared (p.calls i)) :
    (∀ m, m ∉ p.shared.world.db.chatMessages.rows → m ∈ ((chat env).next p i).shared.world.db.chatMessages.rows →
      Authored env.config p.shared (p.calls i) m) ↔ VouchedPost env.config p.shared (p.calls i) :=
  authored_iff hapart (partiesAre_of_rows h.orders) h.clients (h.chat.2 i)

theorem unforged_iff_along {w : World χ} {ops : ℕ → ChatOp χ} {is : List ℕ} :
    Unforged env w ops is ↔ ∀ m : ChatMessage, (chat env).Along (fun p i =>
      m ∉ p.shared.world.db.chatMessages.rows → m ∈ ((chat env).next p i).shared.world.db.chatMessages.rows →
        Authored env.config p.shared (p.calls i) m) (started w ops) is :=
  forall_congr' fun m => (Machine.along_caused_iff
    (P := fun p : Pool (Hub χ) (ChatCall χ) => m ∈ p.shared.world.db.chatMessages.rows)).symm

/-- **No forged authorship**: every message of the database was inserted by a call that was authenticated as its sender,
who could write to its order, exactly if the posts over HTTP are vouched for. -/
theorem unforged_iff (env : ChatEnv) (w : World χ) (ops : ℕ → ChatOp χ) (is : List ℕ)
    (h : (chat env).Along (fun p i => Apart p.shared (p.calls i)) (started w ops) is) :
    Unforged env w ops is ↔
      (chat env).Along (fun p i => VouchedPost env.config p.shared (p.calls i)) (started w ops) is := by
  have hstart : AuthorsInv env.config w.db (started w ops) :=
    ⟨chatInv_started _ _ w ops, fun s data hs => (by cases hs), rfl⟩
  have hsteps := Machine.along_of_inv (I := AuthorsInv env.config w.db) (fun _ _ => authorsInv_next)
    (fun _ _ => authored_next_iff) hstart h
  rw [← hsteps.iff, unforged_iff_along]
  simp only [Machine.along_iff]
  exact ⟨fun hall pre i post he m => hall m pre i post he, fun hall m pre i post he => hall pre i post he m⟩

end Runs

/-- A post over HTTP after the chat. -/
def Talk.posting (bearer : Option Token) (senderId : String) : ℕ → ChatOp Unit
  | 5 => .postMessage bearer (some ⟨Talk.orderId, senderId, "ok"⟩) "m2" none
  | i => Talk.ops Talk.orderId Talk.orderId i

/-- The buyer sends a message and posts one. -/
theorem Talk.buyer_unforged :
    ((chat Talk.env).run (started Talk.world (Talk.posting (some Wallets.buyerToken) Wallets.buyerId))
        (Talk.schedule ++ [5])).shared.world.db.chatMessages.rows.map (·.messageId) = ["m1", "m2"] ∧
      Unforged Talk.env Talk.world (Talk.posting (some Wallets.buyerToken) Wallets.buyerId) (Talk.schedule ++ [5]) :=
  ⟨by decide, (unforged_iff Talk.env Talk.world (Talk.posting (some Wallets.buyerToken) Wallets.buyerId)
    (Talk.schedule ++ [5]) (by decide)).mpr (by decide)⟩

/-- Somebody without a token posts a message of the seller. -/
theorem Talk.seller_forged : ¬ Unforged Talk.env Talk.world (Talk.posting none Wallets.sellerId) [5] := by
  intro h
  have hstep := (unforged_iff_along.mp h ⟨"m2", Talk.orderId, Wallets.sellerId, "ok"⟩).1
  obtain ⟨t, ⟨hbearer, -⟩, -⟩ := hstep (by decide) (by decide)
  cases hbearer

end IKash
