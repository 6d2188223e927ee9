import IKash.Lib.Pool
import IKash.Lib.Rooms
import IKash.Kyc
import IKash.MarketRequests

/-!
# The order chats

`ChatMessageGateway` and `ChatMessageController` as calls that interleave: a call waits at the database, and after it
has joined or left a room. A socket is a number that is never used again. The log is what the sockets are sent and what
became of their requests; an emit to a room reaches the sockets that are in it.

- `chat_stepped`: what a step of a call does.
-/

namespace IKash

open Lib

variable {χ : Type}

/-! ## Identities and messages -/

inductive ChatErrorCode where
  | invalidJwt | invalidOrderId | unauthorizedOrderAccess | emptyMessage | notInOrderRoom | messagePersistenceFailed
deriving DecidableEq, Repr

/-- The id is what the body had for it. -/
structure ChatError where
  code : ChatErrorCode
  message : String
  orderId : Option Json := none

/-- `client.data` -/
structure AuthenticatedSocketData where
  userId : String
  publicKey : String
deriving DecidableEq, Repr

structure ChatClient where
  id : ℕ
  data : AuthenticatedSocketData

/-- `auth.token` and the `authorization` header. -/
structure Handshake where
  token : Option Json := none
  authorization : Option String := none

/-- `CHAT_SUPPORT_USER_IDS`, `CHAT_SUPPORT_PUBLIC_KEYS` and `IKASH_SUPPORT_ADDRESS` -/
structure ChatConfig where
  supportUserIds : Option String := none
  supportPublicKeys : Option String := none
  supportAddress : Option String := none

/-- The settings, and the token that a text is. -/
structure ChatEnv where
  config : ChatConfig := {}
  tokenOf : String → Option Token
  mockProfileUpload : Bool := false

structure CreateChatMessageDto where
  orderId : String
  senderId : String
  content : String

/-- What is sent to the sockets, and what became of a request. -/
inductive ChatEntry where
  | moved (event : RoomEvent ℕ String)
  | failed (s : ℕ) (error : ChatError)
  | userJoined (orderId userId : String) (recipients : List ℕ)
  | userLeft (orderId userId : String) (recipients : List ℕ)
  | persisted (s : ℕ) (orderId : String) (message : ChatMessage)
  | created (orderId : String) (message : ChatMessage) (clientMessageId : Option Json) (recipients : List ℕ)

/-- The order and the recipients of a message. -/
def ChatEntry.sent? : ChatEntry → Option (String × List ℕ)
  | .created _ message _ recipients => some (message.orderId, recipients)
  | _ => none

/-- The process, its sockets and their rooms. A socket keeps its data after it has disconnected. -/
structure Hub (χ : Type) where
  world : World χ
  clients : ℕ → Option AuthenticatedSocketData := fun _ => none
  connected : ℕ → Bool := fun _ => false
  rooms : Rooms ℕ String := .empty
  log : List ChatEntry := []

namespace Hub

def push (h : Hub χ) (entry : ChatEntry) : Hub χ := { h with log := h.log ++ [entry] }

def moved (h : Hub χ) (event : RoomEvent ℕ String) : Hub χ :=
  { h with rooms := h.rooms.apply event, log := h.log ++ [.moved event] }

/-- The socket, while it is connected. -/
def client? (h : Hub χ) (s : ℕ) : Option ChatClient :=
  if h.connected s then (h.clients s).map (ChatClient.mk s) else none

/-- A round trip to the database. -/
def query {α : Type} (m : Service χ α) : Svc (Hub χ) Thrown α := fun h =>
  ((m.run h.world).1, { h with world := (m.run h.world).2 })

/-- Who gets what a socket sends to a room. -/
def others (h : Hub χ) (s : ℕ) (room : String) : List ℕ := (h.rooms.members room).filter fun r => r ≠ s

end Hub

/-! ## The service -/

namespace ChatMessageService

def create (dto : CreateChatMessageDto) (messageId : String) : Service χ ChatMessage :=
  prisma (Prisma.chatMessage.create
    { messageId := messageId, orderId := uuid dto.orderId, senderId := uuid dto.senderId, content := dto.content })

/-- `none` is an order that does not exist. -/
def canAccessOrder (orderId userId : String) : Service χ (Option Bool) := do
  let order ← prisma (Prisma.order.findUnique (uuid orderId))
  pure (order.map fun o => o.buyerId = userId ∨ o.sellerId = userId)

def remove (id : String) : Service χ ChatMessage := prisma (Prisma.chatMessage.delete (uuid id))

end ChatMessageService

namespace ChatMessageGateway

/-! ## Helpers -/

/-- `UUID_PATTERN`: five groups of hexadecimal digits, with a version and a variant. -/
def uuidPattern (s : String) : Bool :=
  KycService.uuidRegex s && s.toList[14]?.any (fun c => '1' ≤ c && c ≤ '5') &&
    s.toList[19]?.any (fun c => c ∈ ['8', '9', 'a', 'b', 'A', 'B'])

/-- The order id of a body, if it is valid. -/
def validOrderId (body : Json) : Option String := (Json.asString (body.field "orderId")).filter fun s => uuidPattern s

def roomFor (orderId : String) : String := "order:" ++ orderId

def orderIdFromRoom (room : String) : String :=
  if Json.startsWith room "order:" then String.ofList (room.toList.drop 6) else room

def configuredValues (value : Option String) : List String :=
  (((value.getD "").toList.splitOn ',').map fun cs => Json.trim (String.ofList cs)).filter fun s => s ≠ ""

def isSupportUser (config : ChatConfig) (identity : AuthenticatedSocketData) : Bool :=
  identity.userId ∈ configuredValues config.supportUserIds ||
    (identity.publicKey ≠ "" && identity.publicKey ∈
      configuredValues config.supportPublicKeys ++ configuredValues config.supportAddress)

def extractToken (handshake : Handshake) : Option String :=
  match ((Json.asString handshake.token).map Json.trim).filter (· ≠ "") with
  | some token => some token
  | none =>
    match (handshake.authorization.map fun s => (s.toList.splitOn ' ').map String.ofList) with
    | some (scheme :: token :: _) => if Json.toLowerCase scheme = "bearer" then some token else none
    | _ => none

def invalidJwt : ChatError := { code := .invalidJwt, message := "A valid, unexpired access token is required." }

/-- `verifyAsync` knows the tokens that this service signed. -/
def authenticateSocket (env : ChatEnv) (w : World χ) (handshake : Handshake) :
    Except ChatError AuthenticatedSocketData :=
  let token := ((extractToken handshake).filter (· ≠ "")).bind env.tokenOf
  match token.filter (fun t => ValidToken w t ∧ t.sub ≠ "") with
  | some payload => .ok ⟨payload.sub, payload.publicKey⟩
  | none => .error invalidJwt

/-- The second half of `getAccessError`, with the answer of `canAccessOrder`. -/
def accessError (config : ChatConfig) (identity : AuthenticatedSocketData) (orderId : String) :
    Option Bool → Option ChatError
  | none => some { code := .invalidOrderId, message := "Order not found.", orderId := some (.str orderId) }
  | some isParticipant =>
    if !isParticipant && !isSupportUser config identity then
      some { code := .unauthorizedOrderAccess, message := "You are not authorized to access this order chat."
             orderId := some (.str orderId) }
    else none

def invalidOrderId (body : Json) : ChatError :=
  { code := .invalidOrderId, message := "Invalid order ID.", orderId := body.field "orderId" }

end ChatMessageGateway

/-! ## The calls -/

/-- A message that has passed the checks of its body, with the faults that hit the accesses to the database. -/
structure Draft where
  orderId : String
  content : String
  clientMessageId : Option Json
  messageId : String
  findFault : Option Thrown
  createFault : Option Thrown

/-- What a call still has to do. -/
inductive ChatCall (χ : Type) where
  | connect (s : ℕ) (handshake : Handshake)
  | disconnect (s : ℕ)
  | joinOrder (s : ℕ) (body : Json) (fault : Option Thrown)
  | joinAccess (client : ChatClient) (orderId : String) (fault : Option Thrown)
  | joinDecide (client : ChatClient) (orderId : String) (isParticipant : Option Bool)
  | announceJoined (client : ChatClient) (orderId : String)
  | leaveOrder (s : ℕ) (body : Json)
  | announceLeft (client : ChatClient) (orderId : String)
  | sendMessage (s : ℕ) (body : Json) (messageId : String) (findFault createFault : Option Thrown)
  | sendAccess (client : ChatClient) (draft : Draft)
  | sendDecide (client : ChatClient) (draft : Draft) (isParticipant : Option Bool)
  | emit (orderId : String) (message : ChatMessage) (clientMessageId : Option Json)
  | postMessage (bearer : Option Token) (body : Option CreateChatMessageDto) (messageId : String)
    (fault : Option Thrown)
  | deleteMessage (bearer : Option Token) (id : String)
  | delete (id : String)
  | elsewhere (change : World χ → World χ)
  | done

/-- What clients ask for, and what happens outside the chat. -/
inductive ChatOp (χ : Type) where
  | connect (s : ℕ) (handshake : Handshake)
  | disconnect (s : ℕ)
  | joinOrder (s : ℕ) (body : Json) (fault : Option Thrown)
  | leaveOrder (s : ℕ) (body : Json)
  | sendMessage (s : ℕ) (body : Json) (messageId : String) (findFault createFault : Option Thrown)
  /-- `POST chat-messages` -/
  | postMessage (bearer : Option Token) (body : Option CreateChatMessageDto) (messageId : String)
    (fault : Option Thrown)
  /-- `DELETE chat-messages/:id` -/
  | deleteMessage (bearer : Option Token) (id : String)
  | elsewhere (change : World χ → World χ)

def ChatOp.call : ChatOp χ → ChatCall χ
  | .connect s handshake => .connect s handshake
  | .disconnect s => .disconnect s
  | .joinOrder s body fault => .joinOrder s body fault
  | .leaveOrder s body => .leaveOrder s body
  | .sendMessage s body messageId findFault createFault => .sendMessage s body messageId findFault createFault
  | .postMessage bearer body messageId fault => .postMessage bearer body messageId fault
  | .deleteMessage bearer id => .deleteMessage bearer id
  | .elsewhere change => .elsewhere change

namespace ChatMessageGateway

/-- The data of a socket is set when its token is verified. -/
def connectSocket (env : ChatEnv) (h : Hub χ) (s : ℕ) (handshake : Handshake) : Hub χ :=
  match h.clients s, authenticateSocket env h.world handshake with
  | none, .ok data =>
    { h with clients := Function.update h.clients s (some data), connected := Function.update h.connected s true }
  | none, .error error => h.push (.failed s error)
  | some _, _ => h

/-- The `disconnecting` handler, before the socket leaves its rooms. -/
def disconnecting (h : Hub χ) (client : ChatClient) : List ChatEntry :=
  (h.rooms.roomsOf client.id).map fun room =>
    .userLeft (orderIdFromRoom room) client.data.userId (h.others client.id room)

def disconnectSocket (h : Hub χ) (client : ChatClient) : Hub χ :=
  ({ h with
    connected := Function.update h.connected client.id false
    log := h.log ++ disconnecting h client }).moved (.gone client.id)

def joinOrder (h : Hub χ) (client : ChatClient) (body : Json) (fault : Option Thrown) : Hub χ × ChatCall χ :=
  match validOrderId body with
  | none => (h.push (.failed client.id (invalidOrderId body)), .done)
  | some orderId => (h, .joinAccess client orderId fault)

/-- `client.join` of a socket that has disconnected does nothing. -/
def joinDecide (config : ChatConfig) (h : Hub χ) (client : ChatClient) (orderId : String)
    (isParticipant : Option Bool) : Hub χ × ChatCall χ :=
  match accessError config client.data orderId isParticipant with
  | some error => (h.push (.failed client.id error), .done)
  | none =>
    if h.rooms.Has client.id (roomFor orderId) then (h.moved (.joined client.id (roomFor orderId)), .done)
    else if h.connected client.id then
      (h.moved (.joined client.id (roomFor orderId)), .announceJoined client orderId)
    else (h, .announceJoined client orderId)

def leaveOrder (h : Hub χ) (client : ChatClient) (body : Json) : Hub χ × ChatCall χ :=
  match validOrderId body with
  | none => (h.push (.failed client.id (invalidOrderId body)), .done)
  | some orderId =>
    (h.moved (.left client.id (roomFor orderId)),
      if h.rooms.Has client.id (roomFor orderId) then .announceLeft client orderId else .done)

/-- `body.content.trim()` -/
def contentOf (body : Json) : String := ((Json.asString (body.field "content")).map Json.trim).getD ""

/-- `sendMessage` up to the query. -/
def sendMessage (h : Hub χ) (client : ChatClient) (body : Json) (messageId : String)
    (findFault createFault : Option Thrown) : Hub χ × ChatCall χ :=
  match validOrderId body with
  | none => (h.push (.failed client.id (invalidOrderId body)), .done)
  | some orderId =>
    if contentOf body = "" then
      (h.push (.failed client.id { code := .emptyMessage, message := "Message cannot be empty."
                                   orderId := some (.str orderId) }), .done)
    else if 4000 < Json.length (contentOf body) then
      (h.push (.failed client.id { code := .emptyMessage, message := "Message is too long."
                                   orderId := some (.str orderId) }), .done)
    else if ¬ h.rooms.Has client.id (roomFor orderId) then
      (h.push (.failed client.id { code := .notInOrderRoom, message := "Join the order room before sending a message."
                                   orderId := some (.str orderId) }), .done)
    else (h, .sendAccess client
      { orderId := orderId, content := contentOf body, clientMessageId := body.field "clientMessageId"
        messageId := messageId, findFault := findFault, createFault := createFault })

/-- `sendMessage` from the answer to the query to the end of the insert. -/
def sendDecide (config : ChatConfig) (h : Hub χ) (client : ChatClient) (draft : Draft) (isParticipant : Option Bool) :
    Hub χ × ChatCall χ :=
  match accessError config client.data draft.orderId isParticipant with
  | some error => (h.push (.failed client.id error), .done)
  | none =>
    match (faulty draft.createFault (ChatMessageService.create
        ⟨draft.orderId, client.data.userId, draft.content⟩ draft.messageId)).run h.world with
    | (.ok message, w) =>
      ({ h with world := w }.push (.persisted client.id draft.orderId message),
        .emit draft.orderId message draft.clientMessageId)
    | (.error _, w) =>
      ({ h with world := w }.push (.failed client.id
        { code := .messagePersistenceFailed, message := "The message could not be saved. Please try again."
          orderId := some (.str draft.orderId) }), .done)

end ChatMessageGateway

/-- `POST chat-messages`: no guard looks at the token. -/
def ChatMessageController.create (body : Option CreateChatMessageDto) (messageId : String) (fault : Option Thrown) :
    Service χ ChatMessage := do
  let dto ← parsed body
  faulty fault (ChatMessageService.create dto messageId)

/-- The guards of `DELETE chat-messages/:id`. -/
def ChatMessageController.guards (env : ChatEnv) (bearer : Option Token) (id : String) : Service χ Unit := do
  let user ← jwtAuth env.mockProfileUpload bearer (some id)
  resourceOwner .chatMessage user id

open ChatMessageGateway in
/-- A request of a socket that is not connected is not received. -/
def chatStep (env : ChatEnv) (h : Hub χ) : ChatCall χ → Hub χ × ChatCall χ
  | .connect s handshake => (connectSocket env h s handshake, .done)
  | .disconnect s => ((h.client? s).elim h (disconnectSocket h), .done)
  | .joinOrder s body fault => (h.client? s).elim (h, .done) fun client => joinOrder h client body fault
  | .joinAccess client orderId fault =>
    Pool.await .done (Hub.query (faulty fault (ChatMessageService.canAccessOrder orderId client.data.userId)))
      (.joinDecide client orderId) h
  | .joinDecide client orderId isParticipant => joinDecide env.config h client orderId isParticipant
  | .announceJoined client orderId =>
    (h.push (.userJoined orderId client.data.userId (h.others client.id (roomFor orderId))), .done)
  | .leaveOrder s body => (h.client? s).elim (h, .done) fun client => leaveOrder h client body
  | .announceLeft client orderId =>
    (h.push (.userLeft orderId client.data.userId (h.others client.id (roomFor orderId))), .done)
  | .sendMessage s body messageId findFault createFault =>
    (h.client? s).elim (h, .done) fun client => sendMessage h client body messageId findFault createFault
  | .sendAccess client draft =>
    Pool.await .done
      (Hub.query (faulty draft.findFault (ChatMessageService.canAccessOrder draft.orderId client.data.userId)))
      (.sendDecide client draft) h
  | .sendDecide client draft isParticipant => sendDecide env.config h client draft isParticipant
  | .emit orderId message clientMessageId =>
    (h.push (.created orderId message clientMessageId (h.rooms.members (roomFor orderId))), .done)
  | .postMessage _ body messageId fault =>
    Pool.await .done (Hub.query (ChatMessageController.create body messageId fault)) (fun _ => .done) h
  | .deleteMessage bearer id =>
    Pool.await .done (Hub.query (ChatMessageController.guards env bearer id)) (fun _ => .delete id) h
  | .delete id => Pool.await .done (Hub.query (ChatMessageService.remove id)) (fun _ => .done) h
  | .elsewhere change => ({ h with world := change h.world }, .done)
  | .done => (h, .done)

/-- The calls that interleave. -/
def chat (env : ChatEnv) : Machine (Pool (Hub χ) (ChatCall χ)) ℕ Unit := Pool.machine (chatStep env)

/-- A process that starts, and the calls that it will receive. -/
def started (w : World χ) (ops : ℕ → ChatOp χ) : Pool (Hub χ) (ChatCall χ) := ⟨{ world := w }, fun i => (ops i).call⟩

/-! ## Steps -/

open ChatMessageGateway

/-- The answer of `canAccessOrder`. -/
def participant (db : Db) (orderId userId : String) : Option Bool :=
  (db.orders.find? (uuid orderId)).map fun o => o.buyerId = userId ∨ o.sellerId = userId

/-- What a step of a call can do. -/
inductive ChatStepped (env : ChatEnv) (h : Hub χ) : ChatCall χ → Hub χ → ChatCall χ → Prop where
  | idle {c} : ChatStepped env h c h .done
  | failed {c s error} : ChatStepped env h c (h.push (.failed s error)) .done
  | connected {s handshake data} : h.clients s = none → authenticateSocket env h.world handshake = .ok data →
    ChatStepped env h (.connect s handshake)
      { h with clients := Function.update h.clients s (some data), connected := Function.update h.connected s true }
      .done
  | disconnected {s client} : h.client? s = some client →
    ChatStepped env h (.disconnect s) (disconnectSocket h client) .done
  | joins {s body fault client orderId} : h.client? s = some client → validOrderId body = some orderId →
    ChatStepped env h (.joinOrder s body fault) h (.joinAccess client orderId fault)
  | joinRead {client orderId fault} : ChatStepped env h (.joinAccess client orderId fault) h
      (.joinDecide client orderId (participant h.world.db orderId client.data.userId))
  | joined {client orderId isParticipant next} : accessError env.config client.data orderId isParticipant = none →
    next = .done ∨ next = .announceJoined client orderId → ChatStepped env h (.joinDecide client orderId isParticipant)
      (h.moved (.joined client.id (roomFor orderId))) next
  /-- the socket has disconnected -/
  | joinedNothing {client orderId isParticipant} : ChatStepped env h (.joinDecide client orderId isParticipant) h
      (.announceJoined client orderId)
  | userJoined {client orderId} : ChatStepped env h (.announceJoined client orderId)
      (h.push (.userJoined orderId client.data.userId (h.others client.id (roomFor orderId)))) .done
  | left {s body client orderId next} : h.client? s = some client → validOrderId body = some orderId →
    next = .done ∨ next = .announceLeft client orderId →
    ChatStepped env h (.leaveOrder s body) (h.moved (.left client.id (roomFor orderId))) next
  | userLeft {client orderId} : ChatStepped env h (.announceLeft client orderId)
      (h.push (.userLeft orderId client.data.userId (h.others client.id (roomFor orderId)))) .done
  | sends {s body messageId findFault createFault client draft} : h.client? s = some client →
    validOrderId body = some draft.orderId → draft.content = contentOf body → draft.content ≠ "" →
    Json.length draft.content ≤ 4000 → h.rooms.Has client.id (roomFor draft.orderId) →
    ChatStepped env h (.sendMessage s body messageId findFault createFault) h (.sendAccess client draft)
  | sendRead {client draft} : ChatStepped env h (.sendAccess client draft) h
      (.sendDecide client draft (participant h.world.db draft.orderId client.data.userId))
  | persisted {client draft isParticipant message db} :
    accessError env.config client.data draft.orderId isParticipant = none →
    message = ⟨draft.messageId, uuid draft.orderId, uuid client.data.userId, draft.content⟩ →
    Prisma.chatMessage.create message h.world.db = .ok (message, db) →
    ChatStepped env h (.sendDecide client draft isParticipant)
      ({ h with world := { h.world with db := db } }.push (.persisted client.id draft.orderId message))
      (.emit draft.orderId message draft.clientMessageId)
  | emitted {orderId message clientMessageId} : ChatStepped env h (.emit orderId message clientMessageId)
      (h.push (.created orderId message clientMessageId (h.rooms.members (roomFor orderId)))) .done
  | posted {bearer dto messageId message db} : message = ⟨messageId, uuid dto.orderId, uuid dto.senderId, dto.content⟩ →
    Prisma.chatMessage.create message h.world.db = .ok (message, db) →
    ChatStepped env h (.postMessage bearer (some dto) messageId none) { h with world := { h.world with db := db } } .done
  | guarded {bearer id} : ChatStepped env h (.deleteMessage bearer id) h (.delete id)
  | deleted {id message db} : Prisma.chatMessage.delete (uuid id) h.world.db = .ok (message, db) →
    ChatStepped env h (.delete id) { h with world := { h.world with db := db } } .done
  | elsewhere {change} : ChatStepped env h (.elsewhere change) { h with world := change h.world } .done

section Stepped

variable {env : ChatEnv} {h : Hub χ} {s : ℕ} {client : ChatClient}

theorem orderIdFromRoom_roomFor (orderId : String) : orderIdFromRoom (roomFor orderId) = orderId := by
  have hprefix : Json.startsWith (roomFor orderId) "order:" = true := by
    rw [roomFor, Json.startsWith, String.toList_append]
    exact List.isPrefixOf_iff_prefix.mpr (List.prefix_append _ _)
  rw [orderIdFromRoom, if_pos hprefix, roomFor, String.toList_append]
  exact String.ofList_toList

theorem roomFor_inj {orderId orderId' : String} (h : roomFor orderId = roomFor orderId') : orderId = orderId' := by
  rw [← orderIdFromRoom_roomFor orderId, h, orderIdFromRoom_roomFor]

theorem client?_eq_some : h.client? s = some client ↔
    h.connected s = true ∧ client.id = s ∧ h.clients s = some client.data := by
  obtain ⟨i, data⟩ := client
  unfold Hub.client?
  split
  next hs =>
    simp only [hs, true_and, Option.map_eq_some_iff, ChatClient.mk.injEq]
    constructor
    · rintro ⟨d, hd, rfl, rfl⟩
      exact ⟨rfl, hd⟩
    · rintro ⟨rfl, hd⟩
      exact ⟨_, hd, rfl, rfl⟩
  next hs => simp [hs]

theorem log_disconnectSocket (h : Hub χ) (client : ChatClient) : (disconnectSocket h client).log =
    h.log ++ (disconnecting h client ++ [.moved (.gone client.id)]) := List.append_assoc _ _ _

/-- A disconnecting socket tells its rooms that it leaves. -/
theorem forall_disconnecting {P : ChatEntry → Prop} (h : Hub χ) (client : ChatClient)
    (hleft : ∀ orderId userId recipients, P (.userLeft orderId userId recipients)) :
    ∀ entry ∈ disconnecting h client, P entry := by
  intro entry hentry
  obtain ⟨room, -, rfl⟩ := List.mem_map.mp hentry
  exact hleft _ _ _

/-- The order id is refused, or the answer is that of the order's parties. -/
theorem canAccessOrder_run (orderId userId : String) (w : World χ) :
    (∃ t, (ChatMessageService.canAccessOrder orderId userId).run w = (.error t, w)) ∨
      (ChatMessageService.canAccessOrder orderId userId).run w = (.ok (participant w.db orderId userId), w) :=
  prisma_lookup_bind _ _ _ w

section Query

variable {α : Type} {m : Service χ α} {k : α → ChatCall χ} {a : α} {t : Thrown} {w : World χ}

theorem await_query_ok (hm : m.run h.world = (.ok a, w)) :
    Pool.await .done (Hub.query m) k h = ({ h with world := w }, k a) := by
  have hrun : (Hub.query m).run h = (.ok a, { h with world := w }) := by
    show ((m.run h.world).1, { h with world := (m.run h.world).2 }) = _
    rw [hm]
  rw [Pool.await, hrun]

theorem await_query_error (hm : m.run h.world = (.error t, w)) :
    Pool.await .done (Hub.query m) k h = ({ h with world := w }, .done) := by
  have hrun : (Hub.query m).run h = (.error t, { h with world := w }) := by
    show ((m.run h.world).1, { h with world := (m.run h.world).2 }) = _
    rw [hm]
  rw [Pool.await, hrun]

/-- A query that only reads. -/
theorem await_reading (k : α → ChatCall χ) (hm : (m.run h.world).2 = h.world) :
    Pool.await .done (Hub.query m) k h = (h, .done) ∨
      ∃ a, (m.run h.world).1 = .ok a ∧ Pool.await .done (Hub.query m) k h = (h, k a) := by
  rcases hr : m.run h.world with ⟨r, w⟩
  rw [hr] at hm
  cases hm
  cases r with
  | error t => exact .inl (await_query_error hr)
  | ok a => exact .inr ⟨a, rfl, await_query_ok hr⟩

end Query

theorem faulty_canAccessOrder (fault : Option Thrown) (orderId userId : String) (w : World χ) :
    ((faulty fault (ChatMessageService.canAccessOrder orderId userId)).run w).2 = w ∧
      ∀ a, ((faulty fault (ChatMessageService.canAccessOrder orderId userId)).run w).1 = .ok a →
        a = participant w.db orderId userId := by
  rcases EscrowService.faulty_run fault (ChatMessageService.canAccessOrder orderId userId) w with
    ⟨t, -, hrun⟩ | ⟨-, hrun⟩
  · rw [hrun]
    exact ⟨rfl, fun a ha => by cases ha⟩
  · rcases canAccessOrder_run orderId userId w with ⟨t, h⟩ | h <;> rw [hrun, h]
    · exact ⟨rfl, fun a ha => by cases ha⟩
    · exact ⟨rfl, fun a ha => (Except.ok.inj ha).symm⟩

/-- An insert is refused, or it commits. -/
theorem create_run (fault : Option Thrown) (dto : CreateChatMessageDto) (messageId : String) (w : World χ) :
    (∃ t, (faulty fault (ChatMessageService.create dto messageId)).run w = (.error t, w)) ∨
      ∃ message db, message = ⟨messageId, uuid dto.orderId, uuid dto.senderId, dto.content⟩ ∧ fault = none ∧
        Prisma.chatMessage.create message w.db = .ok (message, db) ∧
        (faulty fault (ChatMessageService.create dto messageId)).run w = (.ok message, { w with db := db }) := by
  rcases EscrowService.faulty_run fault (ChatMessageService.create dto messageId) w with
    ⟨t, -, hrun⟩ | ⟨hnone, hrun⟩
  · exact .inl ⟨t, hrun⟩
  rw [hrun, ChatMessageService.create]
  cases hcreate : Prisma.chatMessage.create
      ⟨messageId, uuid dto.orderId, uuid dto.senderId, dto.content⟩ w.db with
  | error t => exact .inl ⟨t, prisma_run_error hcreate⟩
  | ok r =>
    obtain ⟨message, db⟩ := r
    obtain ⟨_, _, hmessage, -⟩ := Delegate.create_eq_ok.mp hcreate
    subst hmessage
    exact .inr ⟨_, db, rfl, hnone, hcreate, prisma_run_ok hcreate⟩

theorem connectSocket_stepped (env : ChatEnv) (h : Hub χ) (s : ℕ) (handshake : Handshake) :
    ChatStepped env h (.connect s handshake) (connectSocket env h s handshake) .done := by
  unfold connectSocket
  split
  next data hnone hok => exact .connected hnone hok
  next => exact .failed
  next => exact .idle

theorem joinOrder_stepped (body : Json) (fault : Option Thrown) (hs : h.client? s = some client) :
    ChatStepped env h (.joinOrder s body fault) (joinOrder h client body fault).1 (joinOrder h client body fault).2 := by
  unfold joinOrder
  split
  next => exact .failed
  next orderId hid => exact .joins hs hid

theorem joinDecide_stepped (env : ChatEnv) (h : Hub χ) (client : ChatClient) (orderId : String)
    (isParticipant : Option Bool) : ChatStepped env h (.joinDecide client orderId isParticipant)
      (joinDecide env.config h client orderId isParticipant).1
      (joinDecide env.config h client orderId isParticipant).2 := by
  unfold joinDecide
  split
  next => exact .failed
  next hnone =>
    split
    · exact .joined hnone (.inl rfl)
    · split
      · exact .joined hnone (.inr rfl)
      · exact .joinedNothing

theorem leaveOrder_stepped (body : Json) (hs : h.client? s = some client) :
    ChatStepped env h (.leaveOrder s body) (leaveOrder h client body).1 (leaveOrder h client body).2 := by
  unfold leaveOrder
  split
  next => exact .failed
  next orderId hid =>
    refine .left hs hid ?_
    split
    · exact .inr rfl
    · exact .inl rfl

theorem sendMessage_stepped (body : Json) (messageId : String) (findFault createFault : Option Thrown)
    (hs : h.client? s = some client) : ChatStepped env h (.sendMessage s body messageId findFault createFault)
      (sendMessage h client body messageId findFault createFault).1
      (sendMessage h client body messageId findFault createFault).2 := by
  unfold sendMessage
  split
  next => exact .failed
  next orderId hid =>
    split
    · exact .failed
    next hne =>
      split
      · exact .failed
      next hlength =>
        split
        · exact .failed
        next hroom => exact .sends hs hid rfl hne (Nat.le_of_not_lt hlength) (not_not.mp hroom)

theorem sendDecide_stepped (env : ChatEnv) (h : Hub χ) (client : ChatClient) (draft : Draft)
    (isParticipant : Option Bool) : ChatStepped env h (.sendDecide client draft isParticipant)
      (sendDecide env.config h client draft isParticipant).1 (sendDecide env.config h client draft isParticipant).2 := by
  unfold sendDecide
  split
  next => exact .failed
  next hnone =>
    rcases create_run draft.createFault ⟨draft.orderId, client.data.userId, draft.content⟩ draft.messageId h.world with
      ⟨t, hrun⟩ | ⟨message, db, hmessage, -, hcreate, hrun⟩
    · rw [hrun]
      exact .failed
    · rw [hrun]
      exact .persisted hnone hmessage hcreate

theorem postMessage_stepped (env : ChatEnv) (h : Hub χ) (bearer : Option Token) (body : Option CreateChatMessageDto)
    (messageId : String) (fault : Option Thrown) : ChatStepped env h (.postMessage bearer body messageId fault)
      (chatStep env h (.postMessage bearer body messageId fault)).1
      (chatStep env h (.postMessage bearer body messageId fault)).2 := by
  cases body with
  | none => exact .idle
  | some dto =>
    rw [chatStep]
    rcases create_run fault dto messageId h.world with ⟨t, hrun⟩ | ⟨message, db, hmessage, rfl, hcreate, hrun⟩
    · rw [await_query_error (show (ChatMessageController.create (some dto) messageId fault).run h.world = _ from hrun)]
      exact .idle
    · rw [await_query_ok (show (ChatMessageController.create (some dto) messageId none).run h.world = _ from hrun)]
      exact .posted hmessage hcreate

theorem guards_state (env : ChatEnv) (bearer : Option Token) (id : String) (w : World χ) :
    ((ChatMessageController.guards env bearer id).run w).2 = w := by
  rcases Svc.run_bind_reading (fun user => resourceOwner .chatMessage user id)
      (jwtAuth_state env.mockProfileUpload bearer (some id) w) with hs | ⟨user, -, hs⟩
  · exact hs
  · exact (congrArg Prod.snd hs).trans (resourceOwner_state _ _ _ _)

/-- What the steps of the calls can do. -/
theorem chat_stepped (env : ChatEnv) (h : Hub χ) (c : ChatCall χ) :
    ChatStepped env h c (chatStep env h c).1 (chatStep env h c).2 := by
  cases c with
  | connect s handshake => exact connectSocket_stepped env h s handshake
  | disconnect s =>
    rw [chatStep]
    cases hs : h.client? s with
    | none => exact .idle
    | some client => exact .disconnected hs
  | joinOrder s body fault =>
    rw [chatStep]
    cases hs : h.client? s with
    | none => exact .idle
    | some client => exact joinOrder_stepped body fault hs
  | joinAccess client orderId fault =>
    rw [chatStep]
    obtain ⟨hstate, hanswer⟩ := faulty_canAccessOrder fault orderId client.data.userId h.world
    rcases await_reading (.joinDecide client orderId) hstate with hs | ⟨a, ha, hs⟩
    · rw [hs]
      exact .idle
    · rw [hs, hanswer a ha]
      exact .joinRead
  | joinDecide client orderId isParticipant => exact joinDecide_stepped env h client orderId isParticipant
  | announceJoined client orderId => exact .userJoined
  | leaveOrder s body =>
    rw [chatStep]
    cases hs : h.client? s with
    | none => exact .idle
    | some client => exact leaveOrder_stepped body hs
  | announceLeft client orderId => exact .userLeft
  | sendMessage s body messageId findFault createFault =>
    rw [chatStep]
    cases hs : h.client? s with
    | none => exact .idle
    | some client => exact sendMessage_stepped body messageId findFault createFault hs
  | sendAccess client draft =>
    rw [chatStep]
    obtain ⟨hstate, hanswer⟩ := faulty_canAccessOrder draft.findFault draft.orderId client.data.userId h.world
    rcases await_reading (.sendDecide client draft) hstate with hs | ⟨a, ha, hs⟩
    · rw [hs]
      exact .idle
    · rw [hs, hanswer a ha]
      exact .sendRead
  | sendDecide client draft isParticipant => exact sendDecide_stepped env h client draft isParticipant
  | emit orderId message clientMessageId => exact .emitted
  | postMessage bearer body messageId fault => exact postMessage_stepped env h bearer body messageId fault
  | deleteMessage bearer id =>
    rw [chatStep]
    rcases await_reading (fun _ => .delete id) (guards_state env bearer id h.world) with hs | ⟨_, -, hs⟩
    · rw [hs]
      exact .idle
    · rw [hs]
      exact .guarded
  | delete id =>
    rw [chatStep]
    cases hdelete : Prisma.chatMessage.delete (uuid id) h.world.db with
    | error t =>
      rw [await_query_error (show (ChatMessageService.remove id).run h.world = _ from prisma_run_error hdelete)]
      exact .idle
    | ok r =>
      obtain ⟨message, db⟩ := r
      rw [await_query_ok (show (ChatMessageService.remove id).run h.world = _ from prisma_run_ok hdelete)]
      exact .deleted hdelete
  | elsewhere change => exact .elsewhere
  | done => exact .idle

end Stepped

/-! ## One chat -/

namespace Talk

open Wallets (sellerId buyerId sellerKey buyerKey buyerToken)

def sellerToken : Token := ⟨sellerId, sellerKey, false, 3601⟩

def orderId : String := "a0000000-0000-4000-8000-000000000000"

/-- The same order in upper case. -/
def upperOrderId : String := "A0000000-0000-4000-8000-000000000000"

def seller : AppUser := { userId := sellerId, publicKey := sellerKey }

def buyer : AppUser := { userId := buyerId, publicKey := buyerKey }

/-- The seller and the buyer have an order, and are logged in. -/
def world : World Unit where
  db := {
    Db.empty with
    users := ⟨[seller, buyer], by decide⟩
    offers := ⟨[{ offerId := "f1", creatorId := sellerId }], List.pairwise_singleton _ _⟩
    orders := ⟨[{ orderId := orderId, offerId := "f1", buyerId := buyerId, sellerId := sellerId }],
      List.pairwise_singleton _ _⟩
    refs := by
      rw [Tables.refs_iff]
      simp [Table.Has, Db.empty, Table.empty, Keyed.key, seller, buyer] }
  now := 0
  issued := [sellerToken, buyerToken]
  listeners _ := {}
  ext := ()

def env : ChatEnv where
  tokenOf s := if s = "seller" then some sellerToken else if s = "buyer" then some buyerToken else none

def body (orderId : String) : Json := .obj [("orderId", .str orderId), ("content", .str " hi ")]

/-- The seller and the buyer join under these ids, and the buyer sends a message. -/
def ops (sellerSpelling buyerSpelling : String) : ℕ → ChatOp Unit
  | 0 => .connect 1 { token := some (.str "seller") }
  | 1 => .connect 2 { token := some (.str "buyer") }
  | 2 => .joinOrder 1 (body sellerSpelling) none
  | 3 => .joinOrder 2 (body buyerSpelling) none
  | 4 => .sendMessage 2 (body buyerSpelling) "m1" none none
  | _ => .disconnect 3

def schedule : List ℕ := [0, 1, 2, 2, 2, 2, 3, 3, 3, 3, 4, 4, 4, 4]

def hub (sellerSpelling buyerSpelling : String) : Hub Unit :=
  ((chat env).run (started world (ops sellerSpelling buyerSpelling)) schedule).shared

end Talk

end IKash
