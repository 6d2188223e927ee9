import IKash.Chat

/-!
# Chats are private

Access is checked at a join and again at a send, each time with what a query found earlier, while sockets join and leave
rooms. `Permitted` is what a call that waits knows about its socket, and `Confined` what the rooms and the log keep to.

- `confined_stepped`: a step keeps both, where the orders have the given parties;
- `chat_private`: after every run, messages were delivered to parties and support, and persisted for them.
-/

namespace IKash

open Lib ChatMessageGateway

variable {χ : Type}

/-- The order's buyer, its seller, or support. -/
def MayChat (config : ChatConfig) (parties : String × String) (identity : AuthenticatedSocketData) : Prop :=
  identity.userId = parties.1 ∨ identity.userId = parties.2 ∨ isSupportUser config identity = true

instance (config : ChatConfig) (parties : String × String) (identity : AuthenticatedSocketData) :
    Decidable (MayChat config parties identity) := inferInstanceAs (Decidable (_ ∨ _))

/-- The buyers and sellers of the orders. -/
def PartiesAre (parties : String → String × String) (db : Db) : Prop :=
  ∀ o ∈ db.orders.rows, (o.buyerId, o.sellerId) = parties o.orderId

instance (parties : String → String × String) (db : Db) : Decidable (PartiesAre parties db) :=
  inferInstanceAs (Decidable (∀ o ∈ db.orders.rows, _))

/-- A text without blanks at its ends, not empty, of at most 4000 characters. -/
def SoundContent (content : String) : Prop :=
  (∃ text, content = Json.trim text) ∧ content ≠ "" ∧ Json.length content ≤ 4000

/-- A message reaches users of its chat only; what is persisted is from the user of the sending socket. -/
def PrivateEntry (config : ChatConfig) (parties : String → String × String) (h : Hub χ) : ChatEntry → Prop
  | .created _ message _ recipients =>
    ∀ r ∈ recipients, ∃ data, h.clients r = some data ∧ MayChat config (parties message.orderId) data
  | .persisted s _ message => ∃ data, h.clients s = some data ∧ message.senderId = uuid data.userId ∧
      MayChat config (parties message.orderId) data ∧ SoundContent message.content
  | _ => True

/-- The rooms and the log. -/
structure Confined (config : ChatConfig) (parties : String → String × String) (h : Hub χ) : Prop where
  rooms : ∀ r room, h.rooms.Has r room → ∃ orderId data, room = roomFor orderId ∧ h.clients r = some data ∧
    MayChat config (parties (uuid orderId)) data
  log : ∀ entry ∈ h.log, PrivateEntry config parties h entry

/-- `true` from `canAccessOrder` is right. -/
def AnswersFor (parties : String → String × String) (orderId userId : String) (isParticipant : Option Bool) : Prop :=
  isParticipant = some true → userId = (parties (uuid orderId)).1 ∨ userId = (parties (uuid orderId)).2

/-- What a call that waits can rely on. -/
def Permitted (parties : String → String × String) (h : Hub χ) : ChatCall χ → Prop
  | .joinAccess client _ _ => h.clients client.id = some client.data
  | .joinDecide client orderId isParticipant =>
    h.clients client.id = some client.data ∧ AnswersFor parties orderId client.data.userId isParticipant
  | .sendAccess client draft => h.clients client.id = some client.data ∧ SoundContent draft.content
  | .sendDecide client draft isParticipant => h.clients client.id = some client.data ∧ SoundContent draft.content ∧
      AnswersFor parties draft.orderId client.data.userId isParticipant
  | .emit orderId message _ => message.orderId = uuid orderId
  | _ => True

/-- The sockets keep their data. -/
def KeepsClients (h h' : Hub χ) : Prop := ∀ s data, h.clients s = some data → h'.clients s = some data

section Steps

variable {env : ChatEnv} {config : ChatConfig} {parties : String → String × String} {h h' : Hub χ} {c c' : ChatCall χ}
  {entry : ChatEntry}

theorem PrivateEntry.mono (hk : KeepsClients h h') (he : PrivateEntry config parties h entry) :
    PrivateEntry config parties h' entry := by
  cases entry with
  | created orderId message clientMessageId recipients =>
    intro r hr
    obtain ⟨data, hdata, hmay⟩ := he r hr
    exact ⟨data, hk r data hdata, hmay⟩
  | persisted s orderId message =>
    obtain ⟨data, hdata, hrest⟩ := he
    exact ⟨data, hk s data hdata, hrest⟩
  | moved | failed | userJoined | userLeft => trivial

theorem Permitted.mono (hk : KeepsClients h h') (hc : Permitted parties h c) : Permitted parties h' c := by
  cases c with
  | joinAccess client orderId fault => exact hk _ _ hc
  | joinDecide client orderId isParticipant => exact ⟨hk _ _ hc.1, hc.2⟩
  | sendAccess client draft => exact ⟨hk _ _ hc.1, hc.2⟩
  | sendDecide client draft isParticipant => exact ⟨hk _ _ hc.1, hc.2⟩
  | emit orderId message clientMessageId => exact hc
  | _ => trivial

/-- The same rooms and sockets, and a longer log. -/
theorem Confined.extend {new : List ChatEntry} (hh : Confined config parties h) (hclients : h'.clients = h.clients)
    (hrooms : ∀ r room, h'.rooms.Has r room → h.rooms.Has r room) (hlog : h'.log = h.log ++ new)
    (hnew : ∀ entry ∈ new, PrivateEntry config parties h entry) : Confined config parties h' := by
  have hk : KeepsClients h h' := fun s data hs => by rw [hclients]; exact hs
  refine ⟨fun r room hr => ?_, fun entry hentry => ?_⟩
  · obtain ⟨orderId, data, hroom, hdata, hmay⟩ := hh.rooms r room (hrooms r room hr)
    exact ⟨orderId, data, hroom, hk r data hdata, hmay⟩
  · rw [hlog] at hentry
    exact (List.forall_mem_append.mpr ⟨hh.log, hnew⟩ entry hentry).mono hk

theorem Confined.push (hh : Confined config parties h) (he : PrivateEntry config parties h entry) :
    Confined config parties (h.push entry) :=
  hh.extend rfl (fun _ _ hr => hr) rfl (List.forall_mem_singleton.mpr he)

theorem mayChat_of_accessError {data : AuthenticatedSocketData} {orderId : String} {isParticipant : Option Bool}
    (hnone : accessError config data orderId isParticipant = none)
    (hanswer : AnswersFor parties orderId data.userId isParticipant) : MayChat config (parties (uuid orderId)) data := by
  cases isParticipant with
  | none => cases hnone
  | some b =>
    cases b with
    | true =>
      rcases hanswer rfl with hbuyer | hseller
      · exact .inl hbuyer
      · exact .inr (.inl hseller)
    | false =>
      cases hsupport : isSupportUser config data with
      | true => exact .inr (.inr hsupport)
      | false =>
        rw [accessError, hsupport] at hnone
        cases hnone

theorem participant_answers {db : Db} (hparties : PartiesAre parties db) (orderId userId : String) :
    AnswersFor parties orderId userId (participant db orderId userId) := by
  intro htrue
  obtain ⟨o, ho, hside⟩ := Option.map_eq_some_iff.mp htrue
  obtain ⟨hmem, hkey⟩ := Table.find?_eq_some.mp ho
  have hpair := hparties o hmem
  rw [show o.orderId = uuid orderId from hkey] at hpair
  rw [← hpair]
  rcases of_decide_eq_true hside with hbuyer | hseller
  · exact .inl hbuyer.symm
  · exact .inr hseller.symm

theorem soundContent_contentOf {body : Json} (hne : contentOf body ≠ "") (hlength : Json.length (contentOf body) ≤ 4000) :
    SoundContent (contentOf body) := by
  refine ⟨?_, hne, hlength⟩
  unfold contentOf at hne ⊢
  cases hcontent : Json.asString (body.field "content") with
  | none =>
    rw [hcontent] at hne
    exact absurd rfl hne
  | some text => exact ⟨text, rfl⟩

/-- A socket that may chat joins a room. -/
theorem Confined.joined {client : ChatClient} {orderId : String} (hh : Confined config parties h)
    (hclient : h.clients client.id = some client.data) (hmay : MayChat config (parties (uuid orderId)) client.data) :
    Confined config parties (h.moved (.joined client.id (roomFor orderId))) := by
  have hk : KeepsClients h (h.moved (.joined client.id (roomFor orderId))) := fun _ _ hs => hs
  refine ⟨fun r room hr => ?_, fun entry hentry => ?_⟩
  · rcases Rooms.has_joined.mp hr with hr | ⟨rfl, rfl⟩
    · exact hh.rooms r room hr
    · exact ⟨orderId, client.data, rfl, hclient, hmay⟩
  · have hmoved : PrivateEntry config parties h (.moved (.joined client.id (roomFor orderId))) := trivial
    exact (List.forall_mem_append.mpr ⟨hh.log, List.forall_mem_singleton.mpr hmoved⟩ entry hentry).mono hk

theorem Confined.left {s : ℕ} {room : String} (hh : Confined config parties h) :
    Confined config parties (h.moved (.left s room)) :=
  hh.extend rfl (fun _ _ hr => (Rooms.has_left.mp hr).1) rfl (List.forall_mem_singleton.mpr trivial)

theorem Confined.disconnected {client : ChatClient} (hh : Confined config parties h) :
    Confined config parties (disconnectSocket h client) := by
  have hnew : ∀ entry ∈ disconnecting h client ++ [.moved (.gone client.id)], PrivateEntry config parties h entry :=
    List.forall_mem_append.mpr ⟨forall_disconnecting h client fun _ _ _ => trivial, List.forall_mem_singleton.mpr trivial⟩
  exact hh.extend rfl (fun _ _ hr => (Rooms.has_gone.mp hr).1) (log_disconnectSocket h client) hnew

theorem KeepsClients.of_eq (hclients : h'.clients = h.clients) : KeepsClients h h' := fun s data hs => by
  rw [hclients]
  exact hs

/-- The members of a room get a message of its order. -/
theorem Confined.emits {orderId : String} {message : ChatMessage} {clientMessageId : Option Json}
    (hh : Confined config parties h) (horder : message.orderId = uuid orderId) :
    PrivateEntry config parties h (.created orderId message clientMessageId (h.rooms.members (roomFor orderId))) := by
  intro r hr
  obtain ⟨orderId', data, hroom, hdata, hmay⟩ := hh.rooms r _ (Rooms.mem_members.mp hr)
  rw [horder, roomFor_inj hroom]
  exact ⟨data, hdata, hmay⟩

/-- A step keeps the rooms and the log, and establishes what its call relies on. -/
theorem confined_stepped (hparties : PartiesAre parties h.world.db) (hh : Confined env.config parties h)
    (hc : Permitted parties h c) (hs : ChatStepped env h c h' c') :
    Confined env.config parties h' ∧ Permitted parties h' c' ∧ KeepsClients h h' := by
  cases hs with
  | idle => exact ⟨hh, trivial, .of_eq rfl⟩
  | failed => exact ⟨hh.push trivial, trivial, .of_eq rfl⟩
  | @connected s _ data hnone _ =>
    have hk : KeepsClients h
        { h with clients := Function.update h.clients s (some data), connected := Function.update h.connected s true } := by
      intro r d hr
      by_cases hrs : r = s
      · rw [hrs, hnone] at hr
        cases hr
      · exact (Function.update_of_ne hrs _ _).trans hr
    refine ⟨⟨fun r room hr => ?_, fun entry hentry => (hh.log entry hentry).mono hk⟩, trivial, hk⟩
    obtain ⟨orderId, d, hroom, hd, hmay⟩ := hh.rooms r room hr
    exact ⟨orderId, d, hroom, hk r d hd, hmay⟩
  | disconnected => exact ⟨hh.disconnected, trivial, .of_eq rfl⟩
  | joins hclient _ =>
    obtain ⟨-, rfl, hdata⟩ := client?_eq_some.mp hclient
    exact ⟨hh, hdata, .of_eq rfl⟩
  | joinRead => exact ⟨hh, ⟨hc, participant_answers hparties _ _⟩, .of_eq rfl⟩
  | joined hnone hnext =>
    refine ⟨hh.joined hc.1 (mayChat_of_accessError hnone hc.2), ?_, .of_eq rfl⟩
    rcases hnext with rfl | rfl <;> trivial
  | joinedNothing => exact ⟨hh, trivial, .of_eq rfl⟩
  | userJoined => exact ⟨hh.push trivial, trivial, .of_eq rfl⟩
  | left _ _ hnext =>
    refine ⟨hh.left, ?_, .of_eq rfl⟩
    rcases hnext with rfl | rfl <;> trivial
  | userLeft => exact ⟨hh.push trivial, trivial, .of_eq rfl⟩
  | sends hclient _ hcontent hne hlength _ =>
    obtain ⟨-, rfl, hdata⟩ := client?_eq_some.mp hclient
    rw [hcontent] at hne hlength
    refine ⟨hh, ⟨hdata, ?_⟩, .of_eq rfl⟩
    rw [hcontent]
    exact soundContent_contentOf hne hlength
  | sendRead => exact ⟨hh, ⟨hc.1, hc.2, participant_answers hparties _ _⟩, .of_eq rfl⟩
  | @persisted client draft _ message _ hnone hmessage _ =>
    have hentry : PrivateEntry env.config parties h (.persisted client.id draft.orderId message) := by
      rw [hmessage]
      exact ⟨client.data, hc.1, rfl, mayChat_of_accessError hnone hc.2.2, hc.2.1⟩
    refine ⟨hh.extend rfl (fun _ _ hr => hr) rfl (List.forall_mem_singleton.mpr hentry), ?_, .of_eq rfl⟩
    show message.orderId = uuid draft.orderId
    rw [hmessage]
  | emitted => exact ⟨hh.push (hh.emits hc), trivial, .of_eq rfl⟩
  | posted => exact ⟨hh.extend rfl (fun _ _ hr => hr) (List.append_nil _).symm (by simp), trivial, .of_eq rfl⟩
  | guarded => exact ⟨hh, trivial, .of_eq rfl⟩
  | deleted => exact ⟨hh.extend rfl (fun _ _ hr => hr) (List.append_nil _).symm (by simp), trivial, .of_eq rfl⟩
  | elsewhere => exact ⟨hh.extend rfl (fun _ _ hr => hr) (List.append_nil _).symm (by simp), trivial, .of_eq rfl⟩

end Steps

/-! ## Runs -/

section Runs

variable {env : ChatEnv} {parties : String → String × String} {p : Pool (Hub χ) (ChatCall χ)} {is : List ℕ}

/-- The rooms, the log and the calls. -/
def ChatInv (config : ChatConfig) (parties : String → String × String) (p : Pool (Hub χ) (ChatCall χ)) : Prop :=
  Confined config parties p.shared ∧ Pool.Asserted (Permitted parties) p

theorem chatInv_next {i : ℕ} (h : ChatInv env.config parties p) (hparties : PartiesAre parties p.shared.world.db) :
    ChatInv env.config parties ((chat env).next p i) := by
  obtain ⟨hconfined, hpermitted, hkeeps⟩ :=
    confined_stepped hparties h.1 (h.2 i) (chat_stepped env p.shared (p.calls i))
  exact ⟨hconfined, Pool.asserted_next h.2 (fun _ => hpermitted) fun _ _ hother => hother.mono hkeeps⟩

theorem chatInv_started (config : ChatConfig) (parties : String → String × String) (w : World χ) (ops : ℕ → ChatOp χ) :
    ChatInv config parties (started w ops) := by
  refine ⟨⟨fun r room hr => absurd hr Rooms.not_has_empty, fun entry hentry => absurd hentry List.not_mem_nil⟩,
    fun i => ?_⟩
  show Permitted parties _ (ops i).call
  cases ops i <;> trivial

/-- **Chats are private**: every message reached parties of its order and support only, and every message that the
gateway persisted is a sound one, of a party or support, from the user of the socket that sent it. -/
theorem chat_private (env : ChatEnv) (parties : String → String × String) (w : World χ) (ops : ℕ → ChatOp χ)
    (is : List ℕ) (h : (chat env).Along (fun p _ => PartiesAre parties p.shared.world.db) (started w ops) is) :
    ∀ entry ∈ ((chat env).run (started w ops) is).shared.log,
      PrivateEntry env.config parties ((chat env).run (started w ops) is).shared entry :=
  (Machine.run_inv (I := ChatInv env.config parties) (fun _ _ => chatInv_next) (chatInv_started env.config parties w ops)
    h).1.log

end Runs

/-- The seller and the buyer both get the buyer's message. -/
theorem Talk.hi_private : (Talk.hub Talk.orderId Talk.orderId).log.filterMap ChatEntry.sent? = [(Talk.orderId, [1, 2])] ∧
    ∀ entry ∈ (Talk.hub Talk.orderId Talk.orderId).log,
      PrivateEntry Talk.env.config (fun _ => (Wallets.buyerId, Wallets.sellerId)) (Talk.hub Talk.orderId Talk.orderId)
        entry :=
  ⟨by decide, chat_private Talk.env _ Talk.world (Talk.ops Talk.orderId Talk.orderId) Talk.schedule (by decide)⟩

end IKash
