import IKash.Erasure
import IKash.Lib.Pool
import IKash.Offers

/-!
# Stored payment methods

The calls that write payment methods, cut at their awaits: `create`, `update` and `remove` of `PaymentMethodsService`,
`setupAccount` and `remove` of `UsersService`. Between the check of an account identifier and the write, any other call may
step.

- `createMethod_alone`, ..., `eraseAccount_alone`: a call that is scheduled alone does what the service does;
- `methodStep_writes`: a step writes no method but with the provider, the type and the identifier that its call has checked
  together;
- `stored_methods_valid`: under every schedule the stored methods are valid.
-/

namespace IKash

open Lib

variable {χ : Type}

/-! ## The calls -/

/-- The lookup of an update. -/
def PaymentMethodsService.findExisting (id : String) : Service χ PaymentMethod := do
  let existing ← prisma (Prisma.paymentMethod.findUnique (uuid id))
  Svc.orThrow existing (.app .paymentMethodNotFound ("Payment method " ++ id ++ " not found"))

/-- The payment method of a setup. -/
def UsersService.setupMethod (userId : String) (dto : SetupAccountDto) (freshId : String) (field : String × String)
    (provider : PaymentProvider) : PaymentMethod where
  paymentId := freshId
  userId := uuid userId
  providerId := uuid field.1
  type := provider.type
  accountIdentifier := field.2
  beneficiaryName := Prisma.nullableColumn none dto.beneficiaryName
  identificationNumber := Prisma.nullableColumn none dto.identificationNumber
  description := Prisma.nullableColumn none dto.description

/-- The removal of an account up to its audit record. -/
def UsersService.eraseAccount (id callerUserId : String) : Service χ AppUser := do
  Svc.throwIf (callerUserId = "" ∨ callerUserId ≠ id) (.app .unauthorizedAction "You can only delete your own account.")
  let w ← Svc.get
  prisma (removeTx id w.now)

/-- The provider id and the identifier that an update checks and writes. -/
def UpdatePaymentMethodDto.merged (dto : UpdatePaymentMethodDto) (existing : PaymentMethod) : String × String :=
  (dto.providerId.orOld existing.providerId, dto.accountIdentifier.orOld existing.accountIdentifier)

/-- What a call still has to do, with what it has read so far. -/
inductive MethodCall where
  | create (dto : CreatePaymentMethodDto) (freshId : String)
  | createChecked (dto : CreatePaymentMethodDto) (freshId : String) (provider : PaymentProvider)
  | update (id : String) (dto : UpdatePaymentMethodDto)
  | updateFound (id : String) (dto : UpdatePaymentMethodDto) (existing : PaymentMethod)
  | updateChecked (id : String) (dto : UpdatePaymentMethodDto) (field : String × String) (provider : PaymentProvider)
  | remove (id : String)
  | setupAccount (userId : String) (dto : SetupAccountDto) (freshId : String)
  | accountUpdated (userId : String) (dto : SetupAccountDto) (freshId : String) (user : AppUser)
  | setupChecked (userId : String) (dto : SetupAccountDto) (freshId : String) (user : AppUser) (field : String × String)
    (provider : PaymentProvider)
  | setupStored (userId : String) (user : AppUser)
  | removeAccount (id callerUserId : String)
  | record (entry : AuditLog)
  | tick (ms : ℕ)
  | done

open PaymentMethodsService UsersService AuthService in
/-- One step of a call. -/
def methodStep (validator : PaymentMethodValidatorService) (w : World χ) : MethodCall → World χ × MethodCall
  | .create dto freshId => Pool.await .done (checkProvider validator dto.providerId dto.accountIdentifier)
      (.createChecked dto freshId) w
  | .createChecked dto freshId provider =>
    Pool.await .done (prisma (Prisma.paymentMethod.create (PaymentMethodsService.createData freshId dto provider)))
      (fun created => .record (methodEntry .paymentMethodCreated created.paymentId (uuid dto.userId))) w
  | .update id dto => Pool.await .done (findExisting id) (.updateFound id dto) w
  | .updateFound id dto existing =>
    Pool.await .done (checkProvider validator (dto.merged existing).1 (dto.merged existing).2)
      (.updateChecked id dto (dto.merged existing)) w
  | .updateChecked id dto field provider =>
    Pool.await .done (prisma (Prisma.paymentMethod.update (uuid id)
      (PaymentMethodsService.updateData dto field.1 field.2 provider)))
      (fun updated => .record (methodEntry .paymentMethodUpdated id updated.userId)) w
  | .remove id => Pool.await .done (prisma (Prisma.paymentMethod.delete (uuid id)))
      (fun removed => .record (methodEntry .paymentMethodDeleted id removed.userId)) w
  | .setupAccount userId dto freshId =>
    Pool.await .done (UsersRepository.update userId (setupData dto)) (.accountUpdated userId dto freshId) w
  | .accountUpdated userId dto freshId user =>
    match paymentFields dto with
    | none => Pool.await .done (finalizeSetup userId user.publicKey) (fun _ => .done) w
    | some field => Pool.await .done (checkProvider validator field.1 field.2)
        (.setupChecked userId dto freshId user field) w
  | .setupChecked userId dto freshId user field provider =>
    Pool.await .done (prisma (Prisma.paymentMethod.create (setupMethod userId dto freshId field provider)))
      (fun _ => .setupStored userId user) w
  | .setupStored userId user => Pool.await .done (finalizeSetup userId user.publicKey) (fun _ => .done) w
  | .removeAccount id callerUserId => Pool.await .done (eraseAccount id callerUserId)
      (fun _ => .record (dataEntry .userDataDeleted id)) w
  | .record entry => Pool.await .done (AuditLogService.create entry) (fun _ => .done) w
  | .tick ms => ({ w with now := w.now + ms }, .done)
  | .done => (w, .done)

/-- The machine whose inputs say which call steps. -/
abbrev methodCalls (validator : PaymentMethodValidatorService) : Machine (Pool (World χ) MethodCall) ℕ Unit :=
  Pool.machine (methodStep validator)

variable {validator : PaymentMethodValidatorService}

/-! ## Calls by themselves -/

section Alone

/-- The end of every call that writes an audit record. -/
theorem record_alone {α : Type} (entry : AuditLog) (a : α) (w : World χ) :
    Pool.RealisesAt (methodStep validator) .done (.record entry)
      (AuditLogService.create entry >>= fun _ => pure a : Service χ α) w :=
  Pool.realisesAt_bind rfl fun _ _ _ => ⟨0, rfl⟩

theorem createMethod_alone (dto : CreatePaymentMethodDto) (freshId : String) (w : World χ) :
    Pool.RealisesAt (methodStep validator) .done (.create dto freshId)
      (PaymentMethodsService.create validator dto freshId) w :=
  Pool.realisesAt_bind rfl fun _ _ _ => Pool.realisesAt_bind rfl fun created w' _ => record_alone _ created w'

theorem updateMethod_alone (id : String) (dto : UpdatePaymentMethodDto) (w : World χ) :
    Pool.RealisesAt (methodStep validator) .done (.update id dto) (PaymentMethodsService.update validator id dto) w := by
  unfold PaymentMethodsService.update
  rw [← Svc.bind_assoc]
  refine Pool.realisesAt_bind rfl fun existing _ _ => ?_
  refine Pool.realisesAt_bind rfl fun provider _ _ => ?_
  exact Pool.realisesAt_bind rfl fun updated w' _ => record_alone _ updated w'

theorem removeMethod_alone (id : String) (w : World χ) :
    Pool.RealisesAt (methodStep validator) .done (.remove id) (PaymentMethodsService.remove id) w :=
  Pool.realisesAt_bind rfl fun removed w' _ => record_alone _ removed w'

theorem setupAccount_alone (userId : String) (dto : SetupAccountDto) (freshId : String) (w : World χ) :
    Pool.RealisesAt (methodStep validator) .done (.setupAccount userId dto freshId)
      (UsersService.setupAccount validator userId dto freshId) w := by
  refine Pool.realisesAt_bind rfl fun user w₁ _ => ?_
  have hend : ∀ (call : MethodCall) (w : World χ), methodStep validator w call =
      Pool.await .done (AuthService.finalizeSetup userId user.publicKey) (fun _ => .done) w →
        Pool.RealisesAt (methodStep validator) .done call
          (AuthService.finalizeSetup userId user.publicKey >>= fun token => pure (user, token) : Service χ _) w :=
    fun call w h => Pool.realisesAt_bind h fun _ _ _ => ⟨0, rfl⟩
  cases hfields : UsersService.paymentFields dto with
  | none =>
    rw [Option.elim_none]
    exact hend _ w₁ (by simp only [methodStep, hfields])
  | some field =>
    have hadd : (UsersService.addPaymentMethod validator userId dto freshId field.1 field.2 : Service χ Unit) =
        PaymentMethodsService.checkProvider validator field.1 field.2 >>= fun provider =>
          prisma (Prisma.paymentMethod.create (UsersService.setupMethod userId dto freshId field provider)) >>= fun _ =>
            pure () := by
      unfold UsersService.addPaymentMethod PaymentMethodsService.checkProvider
      rw [Svc.bind_assoc]
      refine congrArg _ (funext fun found => ?_)
      rw [Svc.bind_assoc]
      refine congrArg _ (funext fun provider => ?_)
      rw [Svc.bind_assoc]
      rfl
    rw [Option.elim_some, hadd, Svc.bind_assoc]
    refine Pool.realisesAt_bind (k := .setupChecked userId dto freshId user field)
      (by simp only [methodStep, hfields]) fun provider _ _ => ?_
    rw [Svc.bind_assoc]
    refine Pool.realisesAt_bind rfl fun _ w₃ _ => ?_
    exact hend (.setupStored userId user) w₃ rfl

theorem eraseAccount_alone (id callerUserId : String) (w : World χ) :
    Pool.RealisesAt (methodStep validator) .done (.removeAccount id callerUserId) (UsersService.remove id callerUserId) w := by
  have hremove : (UsersService.remove id callerUserId : Service χ AppUser) =
      UsersService.eraseAccount id callerUserId >>= fun user =>
        AuditLogService.create (UsersService.dataEntry .userDataDeleted id) >>= fun _ => pure user := by
    unfold UsersService.remove UsersService.eraseAccount
    rw [Svc.bind_assoc]
    rfl
  rw [hremove]
  exact Pool.realisesAt_bind rfl fun user w' _ => record_alone _ user w'

end Alone

/-! ## What a step writes -/

/-- The provider has the id, and the identifier is one of its kind. -/
structure Checked where
  providerId : String
  provider : PaymentProvider
  accountIdentifier : String

/-- The stored provider is still the one that was checked. -/
def Checked.Holds (validator : PaymentMethodValidatorService) (w : World χ) (c : Checked) : Prop :=
  w.db.paymentProviders.find? c.providerId = some c.provider ∧
    validator.isValid (UsersService.providerInfo c.provider) c.accountIdentifier = true

/-- The method has the three columns that were checked together. -/
def Checked.Of (c : Checked) (m : PaymentMethod) : Prop :=
  m.providerId = c.providerId ∧ m.type = c.provider.type ∧ m.accountIdentifier = c.accountIdentifier

/-- What a call is about to write. -/
def MethodCall.checked : MethodCall → Option Checked
  | .createChecked dto _ provider => some ⟨uuid dto.providerId, provider, dto.accountIdentifier⟩
  | .updateChecked _ _ field provider => some ⟨uuid field.1, provider, field.2⟩
  | .setupChecked _ _ _ _ field provider => some ⟨uuid field.1, provider, field.2⟩
  | _ => none

/-- The providers are as they were, and every method was there or has the checked columns. -/
structure WritesMethods (new : Option Checked) (w w' : World χ) : Prop where
  providers : w'.db.paymentProviders = w.db.paymentProviders
  methods : ∀ m ∈ w'.db.paymentMethods.rows, m ∈ w.db.paymentMethods.rows ∨ ∃ c ∈ new, c.Of m

section Writes

variable {new : Option Checked}

theorem WritesMethods.refl (w : World χ) : WritesMethods new w w := ⟨rfl, fun _ hm => Or.inl hm⟩

theorem WritesMethods.trans {a b c : World χ} (h : WritesMethods new a b) (h' : WritesMethods new b c) :
    WritesMethods new a c :=
  ⟨h'.providers.trans h.providers, fun m hm => (h'.methods m hm).elim (h.methods m) Or.inr⟩

theorem WritesMethods.of_same {w w' : World χ} (hp : w'.db.paymentProviders = w.db.paymentProviders)
    (hm : w'.db.paymentMethods = w.db.paymentMethods) : WritesMethods new w w' :=
  ⟨hp, fun m h => Or.inl (by rwa [hm] at h)⟩

theorem writesMethods_audit (entry : AuditLog) :
    Svc.Moves (WritesMethods new) (AuditLogService.create entry : Service χ Unit) := by
  intro w
  obtain ⟨db, hrun, hre⟩ := AuditLogService.create_run entry w
  rw [hrun]
  exact .of_same (by rw [hre.frame]) (by rw [hre.frame])

theorem writesMethods_finalizeSetup (userId publicKey : String) :
    Svc.Moves (WritesMethods new) (AuthService.finalizeSetup userId publicKey : Service χ Token) :=
  fun _ => .of_same rfl rfl

theorem writesMethods_findExisting (id : String) :
    Svc.Moves (WritesMethods new) (PaymentMethodsService.findExisting id : Service χ PaymentMethod) :=
  Svc.Moves.bind WritesMethods.trans (prisma_findUnique_moves WritesMethods.refl _ _) fun existing =>
    Svc.Moves.orThrow WritesMethods.refl existing _

theorem writesMethods_checkProvider (providerId accountIdentifier : String) :
    Svc.Moves (WritesMethods new)
      (PaymentMethodsService.checkProvider validator providerId accountIdentifier : Service χ PaymentProvider) := by
  refine Svc.Moves.bind WritesMethods.trans (prisma_findUnique_moves WritesMethods.refl _ _) fun found => ?_
  refine Svc.Moves.bind WritesMethods.trans (Svc.Moves.orThrow WritesMethods.refl found _) fun provider => ?_
  exact Svc.Moves.bind WritesMethods.trans (Svc.Moves.ofExcept WritesMethods.refl _) fun _ => WritesMethods.refl

theorem writesMethods_create {m : PaymentMethod} {c : Checked} (h : c.Of m) :
    Svc.Moves (WritesMethods (some c)) (prisma (Prisma.paymentMethod.create m) : Service χ PaymentMethod) := by
  refine prisma_moves WritesMethods.refl fun w _ db hcreate => ?_
  obtain ⟨t, ht, -, hdb⟩ := Delegate.create_eq_ok.mp hcreate
  refine ⟨by rw [hdb]; rfl, fun x hx => ?_⟩
  rw [hdb] at hx
  rcases (Table.mem_insert ht).mp hx with hx | rfl
  · exact Or.inl hx
  · exact Or.inr ⟨c, rfl, h⟩

theorem writesMethods_update {k : String} {data : PaymentMethod → PaymentMethod} {c : Checked} (h : ∀ m, c.Of (data m)) :
    Svc.Moves (WritesMethods (some c)) (prisma (Prisma.paymentMethod.update k data) : Service χ PaymentMethod) := by
  refine prisma_moves WritesMethods.refl fun w _ db hupdate => ?_
  obtain ⟨m, t, -, ht, -, hdb⟩ := Delegate.update_eq_ok.mp hupdate
  refine ⟨by rw [hdb]; rfl, fun x hx => ?_⟩
  rw [hdb] at hx
  rcases Table.mem_replace ht hx with rfl | ⟨hx, -⟩
  · exact Or.inr ⟨c, rfl, h m⟩
  · exact Or.inl hx

theorem writesMethods_delete (k : String) :
    Svc.Moves (WritesMethods new) (prisma (Prisma.paymentMethod.delete k) : Service χ PaymentMethod) := by
  refine prisma_moves WritesMethods.refl fun w m db hdelete => ?_
  obtain ⟨-, hdb⟩ := Delegate.delete_eq_ok.mp hdelete
  refine ⟨by rw [hdb]; rfl, fun x hx => ?_⟩
  rw [hdb] at hx
  exact Or.inl (List.mem_of_mem_filter hx)

theorem writesMethods_updateUser (userId : String) (data : Except Thrown (AppUser → AppUser)) :
    Svc.Moves (WritesMethods new) (UsersRepository.update userId data : Service χ AppUser) := by
  refine Svc.Moves.bind WritesMethods.trans (Svc.Moves.ofExcept WritesMethods.refl _) fun f => ?_
  refine prisma_moves WritesMethods.refl fun w _ db hupdate => ?_
  obtain ⟨-, -, -, hframe, -⟩ := Delegate.of_update hupdate
  exact .of_same (by rw [hframe]; rfl) (by rw [hframe]; rfl)

theorem writesMethods_eraseAccount (id callerUserId : String) :
    Svc.Moves (WritesMethods new) (UsersService.eraseAccount id callerUserId : Service χ AppUser) := by
  refine Svc.Moves.bind WritesMethods.trans (Svc.Moves.throwIf WritesMethods.refl _ _) fun _ => ?_
  refine Svc.Moves.bind WritesMethods.trans WritesMethods.refl fun w₀ => ?_
  refine prisma_moves WritesMethods.refl fun w r db hremove => ?_
  obtain ⟨u, -, hremoved⟩ := UsersService.of_removeTx_ok hremove
  refine ⟨by rw [hremoved.frame], fun m hm => Or.inl ?_⟩
  rw [hremoved.methods] at hm
  exact List.mem_of_mem_filter hm

/-- **A step** writes no method but with the columns that its call has checked together. -/
theorem methodStep_writes (validator : PaymentMethodValidatorService) (w : World χ) (call : MethodCall) :
    WritesMethods call.checked w (methodStep validator w call).1 := by
  cases call with
  | create dto freshId =>
    rw [methodStep, Pool.await_fst]
    exact writesMethods_checkProvider _ _ w
  | createChecked dto freshId provider =>
    rw [methodStep, Pool.await_fst]
    exact writesMethods_create (by exact ⟨rfl, rfl, rfl⟩) w
  | update id dto =>
    rw [methodStep, Pool.await_fst]
    exact writesMethods_findExisting id w
  | updateFound id dto existing =>
    rw [methodStep, Pool.await_fst]
    exact writesMethods_checkProvider _ _ w
  | updateChecked id dto field provider =>
    rw [methodStep, Pool.await_fst]
    exact writesMethods_update (fun _ => by exact ⟨rfl, rfl, rfl⟩) w
  | remove id =>
    rw [methodStep, Pool.await_fst]
    exact writesMethods_delete _ w
  | setupAccount userId dto freshId =>
    rw [methodStep, Pool.await_fst]
    exact writesMethods_updateUser userId _ w
  | accountUpdated userId dto freshId user =>
    rw [methodStep]
    cases UsersService.paymentFields dto with
    | none => exact (Pool.await_fst ..).symm ▸ writesMethods_finalizeSetup userId _ w
    | some field => exact (Pool.await_fst ..).symm ▸ writesMethods_checkProvider _ _ w
  | setupChecked userId dto freshId user field provider =>
    rw [methodStep, Pool.await_fst]
    exact writesMethods_create (by exact ⟨rfl, rfl, rfl⟩) w
  | setupStored userId user =>
    rw [methodStep, Pool.await_fst]
    exact writesMethods_finalizeSetup userId _ w
  | removeAccount id callerUserId =>
    rw [methodStep, Pool.await_fst]
    exact writesMethods_eraseAccount id callerUserId w
  | record entry =>
    rw [methodStep, Pool.await_fst]
    exact writesMethods_audit entry w
  | tick ms => exact .of_same rfl rfl
  | done => exact .refl w

end Writes

/-! ## What a call has checked -/

theorem of_checkProvider_ok {providerId accountIdentifier : String} {provider : PaymentProvider} {w w' : World χ}
    (h : (PaymentMethodsService.checkProvider validator providerId accountIdentifier).run w = (.ok provider, w')) :
    (Checked.mk (uuid providerId) provider accountIdentifier).Holds validator w' := by
  unfold PaymentMethodsService.checkProvider at h
  obtain ⟨found, w₁, h₀, hrest⟩ := Svc.of_run_bind_ok h
  obtain ⟨rfl, rfl⟩ := of_prisma_findUnique_ok h₀
  obtain ⟨_, _, h₁, h₂⟩ := Svc.of_run_bind_ok hrest
  obtain ⟨hfound, rfl⟩ := Svc.of_run_orThrow_ok h₁
  obtain ⟨_, _, h₃, h₄⟩ := Svc.of_run_bind_ok h₂
  obtain ⟨hvalid, rfl⟩ := Svc.of_run_ofExcept_ok h₃
  cases h₄
  exact ⟨hfound, PaymentMethodValidatorService.validate_eq_ok.mp hvalid⟩

/-- What a call is about to write was checked against the stored providers. -/
def Vouched (validator : PaymentMethodValidatorService) (w : World χ) (call : MethodCall) : Prop :=
  ∀ c ∈ call.checked, c.Holds validator w

theorem vouched_none {w : World χ} {call : MethodCall} (h : call.checked = none) : Vouched validator w call := by
  intro c hc
  rw [h] at hc
  cases hc

theorem vouched_stable {w w' : World χ} {call : MethodCall} (hp : w'.db.paymentProviders = w.db.paymentProviders)
    (h : Vouched validator w call) : Vouched validator w' call := fun c hc => by
  unfold Checked.Holds
  rw [hp]
  exact h c hc

/-- A call that waits for something has checked nothing, or has just checked what it is about to write. -/
theorem methodStep_vouched (validator : PaymentMethodValidatorService) (w : World χ) (call : MethodCall) :
    Vouched validator (methodStep validator w call).1 (methodStep validator w call).2 := by
  have hdone : ∀ w' : World χ, Vouched validator w' .done := fun _ => vouched_none rfl
  have hcheck : ∀ (providerId accountIdentifier : String) (k : PaymentProvider → MethodCall),
      (∀ provider, (k provider).checked = some ⟨uuid providerId, provider, accountIdentifier⟩) →
        Vouched validator (Pool.await .done (PaymentMethodsService.checkProvider validator providerId accountIdentifier) k w).1
          (Pool.await .done (PaymentMethodsService.checkProvider validator providerId accountIdentifier) k w).2 := by
    intro providerId accountIdentifier k hk
    refine Pool.await_ind (P := Vouched validator) (fun provider w' h c hc => ?_) hdone
    rw [hk, Option.mem_some] at hc
    subst hc
    exact of_checkProvider_ok h
  have hother : ∀ {α : Type} (m : Service χ α) (k : α → MethodCall), (∀ a, (k a).checked = none) →
      Vouched validator (Pool.await .done m k w).1 (Pool.await .done m k w).2 := fun m k hk =>
    Pool.await_ind (P := Vouched validator) (fun a w' _ => vouched_none (hk a)) hdone
  cases call with
  | create dto freshId => exact hcheck _ _ _ fun _ => rfl
  | updateFound id dto existing => exact hcheck _ _ _ fun _ => rfl
  | accountUpdated userId dto freshId user =>
    rw [methodStep]
    cases UsersService.paymentFields dto with
    | none => exact hother _ _ fun _ => rfl
    | some field => exact hcheck _ _ _ fun _ => rfl
  | createChecked dto freshId provider => exact hother _ _ fun _ => rfl
  | update id dto => exact hother _ _ fun _ => rfl
  | updateChecked id dto field provider => exact hother _ _ fun _ => rfl
  | remove id => exact hother _ _ fun _ => rfl
  | setupAccount userId dto freshId => exact hother _ _ fun _ => rfl
  | setupChecked userId dto freshId user field provider => exact hother _ _ fun _ => rfl
  | setupStored userId user => exact hother _ _ fun _ => rfl
  | removeAccount id callerUserId => exact hother _ _ fun _ => rfl
  | record entry => exact hother _ _ fun _ => rfl
  | tick ms => exact hdone _
  | done => exact hdone _

/-! ## Every schedule -/

/-- The method has its provider's type, and an identifier of its provider's kind. -/
def ValidMethod (validator : PaymentMethodValidatorService) (db : Db) (m : PaymentMethod) : Prop :=
  ∃ provider, db.paymentProviders.find? m.providerId = some provider ∧ m.type = provider.type ∧
    validator.isValid (UsersService.providerInfo provider) m.accountIdentifier = true

def StoredValid (validator : PaymentMethodValidatorService) (w : World χ) : Prop :=
  ∀ m ∈ w.db.paymentMethods.rows, ValidMethod validator w.db m

/-- A call that writes what it has checked keeps the stored methods valid. -/
theorem storedValid_next {w w' : World χ} {new : Option Checked} (hwrites : WritesMethods new w w')
    (hnew : ∀ c ∈ new, c.Holds validator w) (h : StoredValid validator w) : StoredValid validator w' := by
  intro m hm
  unfold ValidMethod
  rw [hwrites.providers]
  rcases hwrites.methods m hm with hold | ⟨c, hc, hid, htype, hident⟩
  · exact h m hold
  · obtain ⟨hfound, hvalid⟩ := hnew c hc
    exact ⟨c.provider, (congrArg _ hid).trans hfound, htype, (congrArg _ hident).trans hvalid⟩

/-- The stored methods are valid, and every call can rely on what it has checked. -/
def MethodsInv (validator : PaymentMethodValidatorService) (p : Pool (World χ) MethodCall) : Prop :=
  StoredValid validator p.shared ∧ Pool.Asserted (Vouched validator) p

theorem methodsInv_next {p : Pool (World χ) MethodCall} (h : MethodsInv validator p) (j : ℕ) :
    MethodsInv validator ((methodCalls validator).next p j) := by
  have hwrites := methodStep_writes validator p.shared (p.calls j)
  refine ⟨storedValid_next hwrites (h.2 j) h.1, Pool.asserted_next h.2 (fun _ => ?_) fun i _ hi => ?_⟩
  · exact methodStep_vouched validator p.shared (p.calls j)
  · exact vouched_stable hwrites.providers hi

/-- **Stored payment methods are valid** under every schedule of calls that start with valid methods and with nothing
checked yet. -/
theorem stored_methods_valid (validator : PaymentMethodValidatorService) (p : Pool (World χ) MethodCall)
    (hstart : ∀ i, (p.calls i).checked = none) (h : StoredValid validator p.shared) (schedule : List ℕ) :
    StoredValid validator ((methodCalls validator).run p schedule).shared := by
  have hinv : MethodsInv validator p := ⟨h, fun i => vouched_none (hstart i)⟩
  have htrue : (methodCalls validator).Along (fun _ _ => True) p schedule := Machine.along_of_forall fun _ _ _ => trivial
  exact (Machine.run_inv (I := MethodsInv validator) (fun _ j hp _ => methodsInv_next hp j) hinv htrue).1

namespace Trade

/-- The seller has a method of one provider; there is another provider. -/
def methodWorld : World Unit where
  db := {
    Db.empty with
    users := onlySeller
    paymentProviders := ⟨[⟨"p1", .bank, none, none⟩, ⟨"p2", .mobile, none, none⟩], by decide⟩
    paymentMethods := ⟨[{ paymentId := "m1", userId := "u1", providerId := "p1", type := .bank,
                          accountIdentifier := "111" }], List.pairwise_singleton _ _⟩
    refs := by
      rw [Tables.refs_iff]
      simp [Table.Has, Db.empty, Table.empty, Keyed.key, onlySeller, seller] }
  now := 0
  issued := []
  listeners _ := {}
  ext := ()

/-- Two updates of the method: one of the provider, one of the identifier. -/
def racingUpdates : Pool (World Unit) MethodCall where
  shared := methodWorld
  calls
    | 0 => .update "m1" { providerId := .value "p2" }
    | 1 => .update "m1" { accountIdentifier := .value "222" }
    | _ => .done

theorem racingUpdates_valid :
    StoredValid {} ((methodCalls {}).run racingUpdates [0, 1, 0, 1, 0, 1, 0, 1]).shared := by
  refine stored_methods_valid {} racingUpdates (fun i => ?_) ?_ _
  · rcases i with _ | _ | i <;> rfl
  · intro m hm
    obtain rfl := List.mem_singleton.mp hm
    exact ⟨⟨"p1", .bank, none, none⟩, by decide, rfl, by decide⟩

end Trade

end IKash
